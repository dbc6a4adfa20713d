import Attendant.Widths

/-!
# The shortest decimal that reads back

A finite double is `m · 2^q`. Among the decimals that round to it, `shortest` finds one with the fewest digits, and of
those the nearest to the exact value.

* `Binary.ofBits` splits a double into sign, significand and exponent;
* `Binary.contains` says which decimals round to it: the ends of the interval count iff `m` is even;
* `shortest` tries one digit, two digits, … on the two neighbours of the value on each decimal grid.
-/

namespace Attendant.Decimal

/-- A positive finite double as `significand · 2 ^ exponent`. The predecessor is half as far away as the successor when
`narrow` holds, which is at the powers of two above the least. -/
structure Binary where
  significand : Nat
  exponent : Int
  narrow : Bool
  deriving Repr

/-- The magnitude of a finite double; its sign is the top bit. -/
def Binary.ofBits (bits : UInt64) : Binary :=
  let fraction := bits.toNat % width52
  let biased : Nat := bits.toNat / width52 % 2048
  if biased = 0 then ⟨fraction, -1074, false⟩
  else ⟨fraction + width52, (biased : Int) - 1075, fraction = 0 && 1 < biased⟩

/-- `n · 2 ^ i` as a quotient of natural numbers. -/
private def ratio (n : Nat) (i : Int) : Nat × Nat :=
  if 0 ≤ i then (n * Nat.pow 2 i.toNat, 1) else (n, Nat.pow 2 (-i).toNat)

/-- Whether `digits · 10 ^ power` rounds to the double. -/
def Binary.contains (b : Binary) (digits : Nat) (power : Int) : Bool :=
  let closed := b.significand % 2 = 0
  let (num, den) := if 0 ≤ power then (digits * Nat.pow 10 power.toNat, 1) else (digits, Nat.pow 10 (-power).toNat)
  let (lo, loDen) := if b.narrow then ratio (4 * b.significand - 1) (b.exponent - 2)
    else ratio (2 * b.significand - 1) (b.exponent - 1)
  let (hi, hiDen) := ratio (2 * b.significand + 1) (b.exponent - 1)
  if closed then lo * den ≤ num * loDen && num * hiDen ≤ hi * den
  else lo * den < num * loDen && num * hiDen < hi * den

/-- The power of ten of the first digit of `num / den`. -/
def leadingPower (num den : Nat) : Int :=
  let guess : Int := ((Nat.toDigits 10 num).length : Int) - ((Nat.toDigits 10 den).length : Int)
  let reached := if 0 ≤ guess then den * Nat.pow 10 guess.toNat ≤ num else den ≤ num * Nat.pow 10 (-guess).toNat
  if reached then guess else guess - 1

private def search (b : Binary) (num den : Nat) (lead : Int) : Nat → Nat → Nat × Int
  | 0, _ => (0, 0)
  | fuel + 1, count =>
    let power := lead - ((count : Int) - 1)
    let (n, d) := if 0 ≤ power then (num, den * Nat.pow 10 power.toNat) else (num * Nat.pow 10 (-power).toNat, den)
    let below := n / d
    let rest := n % d
    let lowHit := b.contains below power
    let highHit := b.contains (below + 1) power
    if lowHit && highHit then
      if 2 * rest < d || (2 * rest = d && below % 2 = 0) then (below, power) else (below + 1, power)
    else if lowHit then (below, power)
    else if highHit then (below + 1, power)
    else search b num den lead fuel (count + 1)

private def stripZeros : Nat → Nat → Int → Nat × Int
  | 0, digits, power => (digits, power)
  | fuel + 1, digits, power =>
    if digits ≠ 0 && digits % 10 = 0 then stripZeros fuel (digits / 10) (power + 1) else (digits, power)

/-- The digits and the power of ten of the shortest decimal that rounds to a positive double. Seventeen digits always
suffice. -/
def shortest (b : Binary) : Nat × Int :=
  let (num, den) := ratio b.significand b.exponent
  let (digits, power) := search b num den (leadingPower num den) 18 1
  stripZeros 20 digits power

end Attendant.Decimal

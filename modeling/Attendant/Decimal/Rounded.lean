import Attendant.Decimal.Shortest

/-!
# Decimals with a given number of places

A quotient of natural numbers rounded to so many places behind the point, or to so many digits in all. A half goes to the
even neighbour.
-/

namespace Attendant.Decimal

/-- The natural number nearest to a quotient; of two that are equally near, the even one. -/
def roundEven (num den : Nat) : Nat :=
  let below := num / den
  let rest := 2 * (num % den)
  if rest < den then below
  else if den < rest then below + 1
  else if below % 2 = 0 then below else below + 1

/-- A double without its sign as a quotient. -/
def quotient (bits : UInt64) : Nat × Nat :=
  let b := Binary.ofBits bits
  if 0 ≤ b.exponent then (b.significand * Nat.pow 2 b.exponent.toNat, 1)
  else (b.significand, Nat.pow 2 (-b.exponent).toNat)

/-- A quotient with so many places behind the point: the number of units of the last place. -/
def places (num den count : Nat) : Nat := roundEven (num * Nat.pow 10 count) den

/-- A quotient with so many digits: the digits as a number, and the power of ten of the first of them. Nought has the
power nought. -/
def significant (num den count : Nat) : Nat × Int :=
  if num = 0 then (0, 0)
  else
    let lead := leadingPower num den
    let shift : Int := (count : Int) - 1 - lead
    let digits := if 0 ≤ shift then roundEven (num * Nat.pow 10 shift.toNat) den
      else roundEven num (den * Nat.pow 10 (-shift).toNat)
    if Nat.pow 10 count ≤ digits then (digits / 10, lead + 1) else (digits, lead)

/-- The digits of a number, with noughts in front up to a length. -/
def padDigits (n length : Nat) : List Char :=
  let digits := Nat.toDigits 10 n
  List.replicate (length - digits.length) '0' ++ digits

/-- A number of units of the last of some places, written with a point. -/
def pointed (units count : Nat) : List Char :=
  let digits := padDigits units (count + 1)
  let whole := digits.take (digits.length - count)
  if count = 0 then whole else whole ++ '.' :: digits.drop (digits.length - count)

end Attendant.Decimal

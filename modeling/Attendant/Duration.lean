/-!
# Durations

Lengths of time in nanoseconds, and how they are shown: in the largest unit that leaves a whole part, with as many
decimals as are needed and no more.
-/

namespace Attendant

/-- A length of time. -/
structure Duration where
  nanos : Nat
  deriving DecidableEq, Repr, Inhabited

namespace Duration

/-- So many milliseconds. -/
def ofMillis (n : Nat) : Duration := ⟨n * 1000000⟩

/-- So many seconds. -/
def ofSecs (n : Nat) : Duration := ⟨n * 1000000000⟩

/-- The whole milliseconds of a duration. -/
def millis (d : Duration) : Nat := d.nanos / 1000000

/-- The decimals of `rest / 10 ^ places`, without the zeros at their end. -/
private def decimals (rest places : Nat) : String :=
  let digits := Nat.toDigits 10 rest
  let padded := List.replicate (places - digits.length) '0' ++ digits
  String.ofList (padded.reverse.dropWhile (· == '0')).reverse

/-- `n` units of size `10 ^ places`, with its decimals and the name of the unit. -/
private def inUnit (n places : Nat) (unit : String) : String :=
  let rest := n % Nat.pow 10 places
  toString (n / Nat.pow 10 places) ++ (if rest = 0 then "" else "." ++ decimals rest places) ++ unit

/-- How a duration is shown. -/
def text (d : Duration) : String :=
  if 1000000000 ≤ d.nanos then inUnit d.nanos 9 "s"
  else if 1000000 ≤ d.nanos then inUnit d.nanos 6 "ms"
  else if 1000 ≤ d.nanos then inUnit d.nanos 3 "µs"
  else inUnit d.nanos 0 "ns"

end Duration

end Attendant

import Attendant.Toml.Item
import Attendant.Widths

/-!
# Scalars of settings files

Truth values, numbers, dates and times: the values that are one word. `scalar?` judges the form of a word. A number may
have a proper form and no value, so its form is one thing (`numeral?`), and its value another (`Numeral.toValue?`).
-/

namespace Attendant.Toml

/-- What may go on a word that is not a text. -/
def isWordChar (c : Char) : Bool := !"=,[]\x7b\x7d \t#\r\n".toList.contains c

private def isDigit (c : Char) : Bool := '0' ≤ c && c ≤ '9'

private def digitValue? (c : Char) : Option Nat :=
  if isDigit c then some (c.toNat - 48)
  else if 'a' ≤ c && c ≤ 'f' then some (c.toNat - 87)
  else if 'A' ≤ c && c ≤ 'F' then some (c.toNat - 55)
  else none

private def isHexDigit (c : Char) : Bool := (digitValue? c).isSome

private def isDigitOf (base : Nat) (c : Char) : Bool := (digitValue? c).any (· < base)

/-! ### The form of numbers -/

/-- Whether single underscores stand between digits only. What is not looked at is one character in front of the first
underscore. -/
private def underscoresFit (digit : Char → Bool) (cs : List Char) : Bool :=
  match cs.splitOn '_' with
  | [] | [_] => true
  | first :: rest =>
    !first.isEmpty && (first.length = 1 || first.getLast?.all digit) && rest.all (·.head?.any digit) &&
      rest.dropLast.all (·.getLast?.all digit)

/-- Digits and underscores, at least one digit, and no zero in front of further digits unless `zero` allows it: what
follows them. -/
private def digits? (zero : Bool) (cs : List Char) : Option (List Char) :=
  let run := cs.takeWhile fun c => isDigit c || c = '_'
  let count := run.countP isDigit
  if count = 0 || (1 < count && !zero && run.head? = some '0') then none else some (cs.drop run.length)

private def isExponentMark (c : Char) : Bool := c = 'e' || c = 'E'

/-- A sign in front of a number. -/
private def signed (cs : List Char) : Bool × List Char :=
  match cs with
  | '+' :: rest => (false, rest)
  | '-' :: rest => (true, rest)
  | _ => (false, cs)

/-- Whether a word without its sign is a number with a fraction, an exponent or both, but for its underscores. -/
private def hasParts (cs : List Char) : Bool :=
  let parts : Option (List Char) := do
    let rest ← digits? false cs
    let rest ← match rest with
      | '.' :: more => digits? true more
      | _ => some rest
    match rest with
      | c :: more => if isExponentMark c then digits? true (signed more).2 else some rest
      | [] => some []
  parts == some []

/-- The base that a letter after a zero announces. -/
private def base? : Char → Option Nat
  | 'x' => some 16
  | 'o' => some 8
  | 'b' => some 2
  | _ => none

/-- The forms of numbers, with what their value is found in. -/
inductive Numeral where
  | based (base : Nat) (digits : List Char)
  | decimal (cs : List Char)
  | fractional (cs : List Char)
  | infinite (negative : Bool)
  | notANumber (negative : Bool)

/-- The form of a word that is a number. -/
def numeral? (cs : List Char) : Option Numeral :=
  let (negative, rest) := signed cs
  if rest = ['i', 'n', 'f'] then some (.infinite negative)
  else if rest = ['n', 'a', 'n'] then some (.notANumber negative)
  else match rest with
    | ['0'] => some (.decimal cs)
    | _ =>
      match cs with
      | '0' :: letter :: digits =>
        match base? letter with
        | some base =>
          if digits.all (fun c => isDigitOf base c || c = '_') && underscoresFit isHexDigit digits then
            some (.based base digits)
          else none
        | none => plain cs rest
      | _ => plain cs rest
where
  /-- The form of a number in base 10; `rest` is without the sign. -/
  plain (cs rest : List Char) : Option Numeral :=
    let after := rest.dropWhile isDigit
    if after.any fun c => c = '.' || isExponentMark c then
      if hasParts rest && underscoresFit isDigit cs then some (.fractional cs) else none
    else if (after.isEmpty && !rest.isEmpty || after.head? = some '_') && rest.head? ≠ some '0' &&
        underscoresFit isHexDigit cs then some (.decimal cs)
    else none

/-! ### The value of numbers -/

private def stripUnderscores (cs : List Char) : List Char := cs.filter (· != '_')

/-- The number that digits of a base make. -/
private def natural? (base : Nat) (cs : List Char) : Option Nat :=
  if cs.isEmpty then none
  else cs.foldlM (fun n c => ((digitValue? c).filter (· < base)).map (n * base + ·)) 0

/-- Splits a word before the first character of some kind. -/
private def splitBefore (p : Char → Bool) (cs : List Char) : List Char × List Char :=
  (cs.takeWhile fun c => !p c, cs.dropWhile fun c => !p c)

/-- The double next to the number that a sign, digits, a fraction and an exponent make; none stands for one that is too
large. -/
private def double? (cs : List Char) : Option Double := do
  let (negative, rest) := signed (stripUnderscores cs)
  let (whole, rest) := splitBefore (fun c => c = '.' || isExponentMark c) rest
  let (fraction, rest) := match rest with
    | '.' :: more => splitBefore isExponentMark more
    | _ => ([], rest)
  let power : Int ← match rest with
    | [] => some 0
    | _ :: more =>
      let (down, ds) := signed more
      (natural? 10 ds).map fun e => if down then -(e : Int) else e
  let mantissa ← natural? 10 (whole ++ fraction)
  let scale := power - fraction.length
  let x := if 0 ≤ scale then Float.ofScientific mantissa false (min scale.toNat 400)
    else Float.ofScientific mantissa true (min (-scale).toNat 100000)
  if x.isInf then none else some (.ofFloat (if negative then -x else x))

/-- The least and the greatest integer that a file may hold. -/
private def inRange (n : Int) : Bool := -(width127 : Int) ≤ n && n < 2 * (width127 : Int)

/-- The value of a number. -/
def Numeral.toValue? : Numeral → Option Value
  | .based base digits =>
    ((natural? base (stripUnderscores digits)).map Int.ofNat).filter inRange |>.map .int
  | .decimal cs =>
    let (negative, digits) := signed (stripUnderscores cs)
    ((natural? 10 digits).map fun n => if negative then -(n : Int) else n).filter inRange |>.map .int
  | .fractional cs => (double? cs).map .double
  | .infinite negative => some (.double (.ofFloat (if negative then -(1.0 / 0.0) else 1.0 / 0.0)))
  | .notANumber negative => some (.double (.ofFloat (if negative then -(0.0 / 0.0) else 0.0 / 0.0)))

/-! ### Dates and times -/

private def two? : List Char → Option (Nat × List Char)
  | a :: b :: rest => if isDigit a && isDigit b then some ((a.toNat - 48) * 10 + (b.toNat - 48), rest) else none
  | _ => none

private def isLeap (year : Nat) : Bool := (year % 4 = 0 && year % 100 ≠ 0) || year % 400 = 0

/-- The number of days of a month. -/
private def daysOf (year month : Nat) : Nat :=
  if month = 2 then if isLeap year then 29 else 28
  else if month = 4 || month = 6 || month = 9 || month = 11 then 30
  else 31

private def skip? (c : Char) : List Char → Option (List Char)
  | d :: rest => if c = d then some rest else none
  | [] => none

/-- A date: what follows it. -/
def date? (cs : List Char) : Option (List Char) := do
  let (y₁, rest) ← two? cs
  let (y₂, rest) ← two? rest
  let (month, rest) ← two? (← skip? '-' rest)
  let (day, rest) ← two? (← skip? '-' rest)
  if 1 ≤ month && month ≤ 12 && 1 ≤ day && day ≤ daysOf (y₁ * 100 + y₂) month then some rest else none

/-- A time of day, its seconds and their fraction being optional: what follows it. -/
def time? (cs : List Char) : Option (List Char) := do
  let (hour, rest) ← two? cs
  let (minute, rest) ← two? (← skip? ':' rest)
  if 23 < hour || 59 < minute then none
  match rest with
  | ':' :: rest =>
    let (second, rest) ← two? rest
    if 60 < second then none
    match rest with
    | '.' :: rest =>
      match rest with
      | c :: _ => if isDigit c then some (rest.dropWhile isDigit) else none
      | [] => none
    | _ => some rest
  | _ => some rest

/-- The distance of a time from the universal one. -/
private def offset? (cs : List Char) : Option (List Char) :=
  match cs with
  | [] => some []
  | c :: rest =>
    if c = 'Z' || c = 'z' then some rest
    else if c = '+' || c = '-' then do
      let (hour, rest) ← two? rest
      let (minute, rest) ← two? (← skip? ':' rest)
      if hour ≤ 23 && minute ≤ 59 then some rest else none
    else some cs

/-- Whether a word is a date, a time, or both. -/
def isMoment (cs : List Char) : Bool :=
  match date? cs with
  | some [] => true
  | some (c :: rest) =>
    (c = 'T' || c = 't' || c = ' ') && (time? rest >>= offset?) == some []
  | none => time? cs == some []

/-- The item that a word is. -/
def scalar? (cs : List Char) : Option Item :=
  if cs = ['t', 'r', 'u', 'e'] then some (.word (some (.bool true)))
  else if cs = ['f', 'a', 'l', 's', 'e'] then some (.word (some (.bool false)))
  else if isMoment cs then some .moment
  else (numeral? cs).map fun n => .word n.toValue?

end Attendant.Toml

import Attendant.Host.Shell.Command
import Attendant.Widths

/-!
# Sums

The arithmetic of a shell: signed numbers of 64 bits, with the operators of a C expression. `Sum.parse?` reads an
expression as a tree, and `Sum.value` works it out. On the way variables may get new values.
-/

namespace Attendant.Host.Shell

/-- The operators with two sides. -/
inductive Operator where
  | mul
  | div
  | rem
  | add
  | sub
  | shiftLeft
  | shiftRight
  | less
  | lessEq
  | greater
  | greaterEq
  | equal
  | notEqual
  | and
  | xor
  | or
  deriving DecidableEq, Repr

/-- An expression. -/
inductive Sum where
  | number (n : Int)
  | named (name : List Char)
  | negate (a : Sum)
  | complement (a : Sum)
  | isZero (a : Sum)
  | binary (op : Operator) (a b : Sum)
  | both (a b : Sum)
  | either (a b : Sum)
  | choose (condition a b : Sum)
  | assign (name : List Char) (op : Option Operator) (a : Sum)
  deriving Repr, Inhabited

namespace Sum

/-- A number as the signed one of 64 bits that it wraps to. -/
def wrap (n : Int) : Int := Int.bmod n width64

/-- The number among those from nought on that has the same 64 bits. -/
private def bits (n : Int) : Nat := (n % (width64 : Int)).toNat

private def truth (b : Bool) : Int := if b then 1 else 0

/-- What an operator makes of two numbers; nothing if it divides by nought. -/
def apply : Operator → Int → Int → Option Int
  | .mul, a, b => some (wrap (a * b))
  | .div, a, b => if b = 0 then none else some (wrap (a.tdiv b))
  | .rem, a, b => if b = 0 then none else some (wrap (a.tmod b))
  | .add, a, b => some (wrap (a + b))
  | .sub, a, b => some (wrap (a - b))
  | .shiftLeft, a, b => some (wrap (Int.ofNat (bits a <<< (bits b % 64))))
  | .shiftRight, a, b => some (a >>> (bits b % 64))
  | .less, a, b => some (truth (a < b))
  | .lessEq, a, b => some (truth (a ≤ b))
  | .greater, a, b => some (truth (b < a))
  | .greaterEq, a, b => some (truth (b ≤ a))
  | .equal, a, b => some (truth (a = b))
  | .notEqual, a, b => some (truth (a ≠ b))
  | .and, a, b => some (wrap (Int.ofNat (bits a &&& bits b)))
  | .xor, a, b => some (wrap (Int.ofNat (bits a ^^^ bits b)))
  | .or, a, b => some (wrap (Int.ofNat (bits a ||| bits b)))

/-! ### Reading -/

private def isSpace (c : Char) : Bool := c == ' ' || c == '\t' || c == '\n'

private def skip (s : List Char) : List Char := s.dropWhile isSpace

private def digit? (base : Nat) (c : Char) : Option Nat :=
  let n := if c.isDigit then c.toNat - 48 else if 'a' ≤ c && c ≤ 'f' then c.toNat - 87
    else if 'A' ≤ c && c ≤ 'F' then c.toNat - 55 else 16
  if n < base then some n else none

/-- The number that digits of a base make, as far as they go, and the rest; too large a number is the largest. -/
private def readDigits (base : Nat) : Nat → List Char → Nat × List Char
  | n, [] => (min n (width63 - 1), [])
  | n, c :: rest =>
    match digit? base c with
    | some d => readDigits base (min (n * base + d) width64) rest
    | none => (min n (width63 - 1), c :: rest)

/-- The number at the start of a text, hexadecimal or octal if it looks so, and the rest. -/
def readNumber : List Char → Nat × List Char
  | '0' :: x :: d :: rest =>
    if (x == 'x' || x == 'X') && (digit? 16 d).isSome then readDigits 16 0 (d :: rest) else readDigits 8 0 (x :: d :: rest)
  | '0' :: rest => readDigits 8 0 rest
  | s => readDigits 10 0 s

/-- The number that a whole text is, with blanks around it; no text is nought. -/
def number? (s : List Char) : Option Int :=
  match skip s with
  | [] => some 0
  | s =>
    let (isNegative, digits) : Bool × List Char := match s with
      | '-' :: rest => (true, rest)
      | '+' :: rest => (false, rest)
      | _ => (false, s)
    if (digits.head?.map Char.isDigit).getD false then
      let (n, rest) := readNumber digits
      if (skip rest).isEmpty then some (if isNegative then -(n : Int) else n) else none
    else none

/-- The operators of a level, from "or" at nought to the products; of two that begin alike the longer comes first. -/
private def operators : Nat → List (String × Operator)
  | 0 => [("|", .or)]
  | 1 => [("^", .xor)]
  | 2 => [("&", .and)]
  | 3 => [("==", .equal), ("!=", .notEqual)]
  | 4 => [("<=", .lessEq), (">=", .greaterEq), ("<", .less), (">", .greater)]
  | 5 => [("<<", .shiftLeft), (">>", .shiftRight)]
  | 6 => [("+", .add), ("-", .sub)]
  | 7 => [("*", .mul), ("/", .div), ("%", .rem)]
  | _ => []

/-- The operators as they are written; reading always takes the longest. -/
private def tokens : List String :=
  ["<<=", ">>=", "*=", "/=", "%=", "+=", "-=", "&=", "^=", "|=", "<<", ">>", "<=", ">=", "==", "!=", "&&", "||", "<", ">",
    "=", "+", "-", "*", "/", "%", "&", "^", "|", "!", "~", "?", ":", "(", ")"]

/-- The operator at the start of a text, and the rest. -/
private def token? (s : List Char) : Option (String × List Char) :=
  let s := skip s
  (tokens.find? fun t => t.toList.isPrefixOf s).map fun t => (t, s.drop t.length)

/-- The operators that assign. -/
private def assigning : List (String × Option Operator) :=
  [("=", none), ("*=", some .mul), ("/=", some .div), ("%=", some .rem), ("+=", some .add), ("-=", some .sub),
    ("<<=", some .shiftLeft), (">>=", some .shiftRight), ("&=", some .and), ("^=", some .xor), ("|=", some .or)]

/-- Reads a part of an expression, or says what it expects. -/
private abbrev Reading := Except String (Sum × List Char)

mutual

/-- An expression that may assign. -/
private def assignment : Nat → List Char → Reading
  | 0, _ => .error "expecting primary"
  | fuel + 1, s =>
    let s := skip s
    let name := if (s.head?.map startsName).getD false then s.takeWhile continuesName else []
    match if name.isEmpty then none else token? (s.drop name.length) with
    | some (t, rest) =>
      match assigning.lookup t with
      | some op => do
        let (a, rest) ← assignment fuel rest
        return (.assign name op a, rest)
      | none => conditional fuel s
    | none => conditional fuel s

/-- An expression that may choose between two others. -/
private def conditional : Nat → List Char → Reading
  | 0, _ => .error "expecting primary"
  | fuel + 1, s => do
    let (condition, rest) ← disjunction fuel s
    match token? rest with
    | some ("?", rest) =>
      let (a, rest) ← assignment fuel rest
      match token? rest with
      | some (":", rest) =>
        let (b, rest) ← conditional fuel rest
        return (.choose condition a b, rest)
      | _ => .error "expecting ':'"
    | _ => return (condition, rest)

/-- Conditions of which one has to hold. -/
private def disjunction : Nat → List Char → Reading
  | 0, _ => .error "expecting primary"
  | fuel + 1, s => do
    let (a, rest) ← conjunction fuel s
    match token? rest with
    | some ("||", rest) =>
      let (b, rest) ← disjunction fuel rest
      return (.either a b, rest)
    | _ => return (a, rest)

/-- Conditions that all have to hold. -/
private def conjunction : Nat → List Char → Reading
  | 0, _ => .error "expecting primary"
  | fuel + 1, s => do
    let (a, rest) ← chain fuel 0 s
    match token? rest with
    | some ("&&", rest) =>
      let (b, rest) ← conjunction fuel rest
      return (.both a b, rest)
    | _ => return (a, rest)

/-- An expression with operators from a level on. -/
private def chain : Nat → Nat → List Char → Reading
  | 0, _, _ => .error "expecting primary"
  | fuel + 1, level, s =>
    if 8 ≤ level then primary fuel s
    else do
      let (a, rest) ← chain fuel (level + 1) s
      chainRest fuel level a rest

/-- The rest of a chain of one level. -/
private def chainRest : Nat → Nat → Sum → List Char → Reading
  | 0, _, _, _ => .error "expecting primary"
  | fuel + 1, level, a, s =>
    match (token? s).bind fun (t, rest) => ((operators level).lookup t).map (·, rest) with
    | some (op, rest) => do
      let (b, rest) ← chain fuel (level + 1) rest
      chainRest fuel level (.binary op a b) rest
    | none => .ok (a, s)

/-- An expression without an operator between two sides. -/
private def primary : Nat → List Char → Reading
  | 0, _ => .error "expecting primary"
  | fuel + 1, s =>
    let s := skip s
    match s with
    | '(' :: rest => do
      let (a, rest) ← assignment fuel rest
      match token? rest with
      | some (")", rest) => return (a, rest)
      | _ => .error "expecting ')'"
    | '-' :: rest => do
      let (a, rest) ← primary fuel rest
      return (.negate a, rest)
    | '+' :: rest => primary fuel rest
    | '!' :: rest => do
      let (a, rest) ← primary fuel rest
      return (.isZero a, rest)
    | '~' :: rest => do
      let (a, rest) ← primary fuel rest
      return (.complement a, rest)
    | c :: _ =>
      if c.isDigit then
        let (n, rest) := readNumber s
        .ok (.number n, rest)
      else if startsName c then .ok (.named (s.takeWhile continuesName), s.dropWhile continuesName)
      else .error "expecting primary"
    | [] => .error "expecting primary"

end

/-- Reads an expression, or says what it expects. -/
def parse? (s : List Char) : Except String Sum := do
  let (a, rest) ← assignment (16 * s.length + 64) s
  if (skip rest).isEmpty then return a else .error "expecting EOF"

/-! ### Values -/

/-- Why an expression has no value. -/
inductive Trouble where
  | divisionByZero
  | illegalNumber (text : List Char)
  deriving DecidableEq, Repr

/-- The value of a variable: one that it has got on the way, or else the number that its text is. -/
private def valueOf (lookup : List Char → List Char) (name : List Char) (news : List (List Char × Int)) :
    Except Trouble Int :=
  match news.lookup name, number? (lookup name) with
  | some n, _ => .ok n
  | none, some n => .ok n
  | none, none => .error (.illegalNumber (lookup name))

/-- What an operator makes of two numbers. -/
private def applied (op : Operator) (m n : Int) : Except Trouble Int :=
  match apply op m n with
  | some r => .ok r
  | none => .error .divisionByZero

/-- The value of an expression. `lookup` gives the texts of variables; `news` are those that have got new values, the last
first. -/
def value (lookup : List Char → List Char) : Sum → List (List Char × Int) →
    Except Trouble (Int × List (List Char × Int))
  | .number n, news => .ok (n, news)
  | .named name, news => (valueOf lookup name news).map (·, news)
  | .negate a, news => do
    let (n, news) ← a.value lookup news
    return (wrap (-n), news)
  | .complement a, news => do
    let (n, news) ← a.value lookup news
    return (-n - 1, news)
  | .isZero a, news => do
    let (n, news) ← a.value lookup news
    return (truth (n = 0), news)
  | .binary op a b, news => do
    let (m, news) ← a.value lookup news
    let (n, news) ← b.value lookup news
    return (← applied op m n, news)
  | .both a b, news => do
    let (m, news) ← a.value lookup news
    if m = 0 then return (0, news)
    let (n, news) ← b.value lookup news
    return (truth (n ≠ 0), news)
  | .either a b, news => do
    let (m, news) ← a.value lookup news
    if m ≠ 0 then return (1, news)
    let (n, news) ← b.value lookup news
    return (truth (n ≠ 0), news)
  | .choose condition a b, news => do
    let (m, news) ← condition.value lookup news
    if m ≠ 0 then a.value lookup news else b.value lookup news
  | .assign name none a, news => do
    let (n, news) ← a.value lookup news
    return (n, (name, n) :: news)
  | .assign name (some op) a, news => do
    let (n, news) ← a.value lookup news
    let r ← applied op (← valueOf lookup name news) n
    return (r, (name, r) :: news)

end Sum

end Attendant.Host.Shell

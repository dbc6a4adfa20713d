import Attendant.Decimal.Rounded
import Attendant.Host.Shell.Sum

/-!
# Formatted output

What the two printing commands of a shell write: one follows a format, the other writes its arguments with blanks between
them.
-/

namespace Attendant.Host.Shell

/-- What has been printed, what has been said about the arguments, and how it ends; `goesOn` is false where an argument
forbids that more is printed. -/
structure Printed where
  text : List Char := []
  complaints : List (List Char) := []
  code : Nat := 0
  goesOn : Bool := true
  deriving Repr, Inhabited

private def isOctal (c : Char) : Bool := '0' ≤ c && c ≤ '7'

private def octal (digits : List Char) : Char :=
  Char.ofNat ((digits.foldl (fun n c => 8 * n + (c.toNat - 48)) 0) % 256)

/-- The character that a letter after a backslash stands for. -/
def escape? : Char → Option Char
  | 'n' => some '\n'
  | 't' => some '\t'
  | 'r' => some '\r'
  | 'a' => some '\x07'
  | 'b' => some '\x08'
  | 'e' => some '\x1b'
  | 'f' => some '\x0c'
  | 'v' => some '\x0b'
  | '\\' => some '\\'
  | _ => none

/-- The characters that a backslash and what follows it stand for, and the rest. With `leadingZero`, a nought may stand
before three octal digits. -/
private def escapeAt (leadingZero : Bool) (c : Char) (rest : List Char) : List Char × List Char :=
  if isOctal c then
    let s := if leadingZero && c == '0' then rest else c :: rest
    let digits := (s.take 3).takeWhile isOctal
    ([octal digits], s.drop digits.length)
  else
    match escape? c with
    | some d => ([d], rest)
    | none => (['\\', c], rest)

/-- A text with its escapes replaced; `false` says that nothing may follow it. -/
def unescape : Nat → List Char → List Char × Bool
  | 0, s => (s, true)
  | _, [] => ([], true)
  | fuel + 1, '\\' :: c :: rest =>
    if c == 'c' then ([], false)
    else
      let (shown, rest) := escapeAt true c rest
      let (more, goesOn) := unescape fuel rest
      (shown ++ more, goesOn)
  | fuel + 1, c :: rest =>
    let (more, goesOn) := unescape fuel rest
    (c :: more, goesOn)

/-- What is written of some arguments, with a line end unless the first of them forbids it. -/
def echo (args : List (List Char)) : List Char :=
  let (bare, args) := match args with
    | ['-', 'n'] :: rest => (true, rest)
    | _ => (false, args)
  let line := unwords args
  match unescape (line.length + 1) line with
  | (s, true) => if bare then s else s ++ ['\n']
  | (s, false) => s

/-! ### Numbers -/

/-- How a number is to be shown. -/
structure Spec where
  flags : List Char := []
  width : Nat := 0
  precision : Option Nat := none
  conversion : Char
  deriving Repr

/-- Fills a text up to a width. A number may be filled with noughts behind its sign. -/
private def Spec.padded (spec : Spec) (canZero : Bool) (sign s : List Char) : List Char :=
  let fill := spec.width - (sign.length + s.length)
  if spec.flags.contains '-' then sign ++ s ++ List.replicate fill ' '
  else if canZero && spec.flags.contains '0' then sign ++ List.replicate fill '0' ++ s
  else List.replicate fill ' ' ++ sign ++ s

private def Spec.sign (spec : Spec) (isNegative : Bool) : List Char :=
  if isNegative then ['-']
  else if spec.flags.contains '+' then ['+']
  else if spec.flags.contains ' ' then [' ']
  else []

/-- An integer as it is shown. -/
def Spec.integer (spec : Spec) (n : Int) : List Char :=
  let natural := if n < 0 then (n % (width64 : Int)).toNat else n.toNat
  let (sign, digits) : List Char × List Char := match spec.conversion with
    | 'o' =>
      let digits := Nat.toDigits 8 natural
      ([], if spec.flags.contains '#' && natural != 0 then '0' :: digits else digits)
    | 'u' => ([], Nat.toDigits 10 natural)
    | 'x' =>
      (if spec.flags.contains '#' && natural != 0 then ['0', 'x'] else [], Nat.toDigits 16 natural)
    | 'X' =>
      (if spec.flags.contains '#' && natural != 0 then ['0', 'X'] else [], (Nat.toDigits 16 natural).map Char.toUpper)
    | _ => (spec.sign (n < 0), Nat.toDigits 10 n.natAbs)
  match spec.precision with
  | some p => spec.padded false sign (List.replicate (p - digits.length) '0' ++ digits)
  | none => spec.padded true sign digits

/-- The digits of a number with an exponent. -/
private def exponential (digits : List Char) (power : Int) : List Char :=
  let mantissa := match digits with
    | first :: rest => if rest.isEmpty then [first] else first :: '.' :: rest
    | [] => ['0']
  mantissa ++ 'e' :: (if power < 0 then '-' else '+') :: Decimal.padDigits power.natAbs 2

/-- Removes the noughts behind the point that nothing follows, and the point if nothing is left behind it. -/
private def withoutZeros (s : List Char) : List Char :=
  if s.contains '.' then
    let s := (s.reverse.dropWhile (· == '0')).reverse
    if s.getLast? == some '.' then s.dropLast else s
  else s

/-- A double as it is shown. -/
def Spec.double (spec : Spec) (x : Float) : List Char :=
  let isNegative := x.toBits.toNat / width63 = 1
  let sign := spec.sign isNegative
  let isUpper := spec.conversion.isUpper
  let cased (s : List Char) : List Char := if isUpper then s.map Char.toUpper else s
  if x.isNaN then spec.padded false sign (cased "nan".toList)
  else if x.isInf then spec.padded false sign (cased "inf".toList)
  else
    let (num, den) := Decimal.quotient x.abs.toBits
    let exact (count : Nat) : List Char := Decimal.pointed (Decimal.places num den count) count
    let scientific (count : Nat) : List Char × Int :=
      let (digits, power) := Decimal.significant num den count
      (Decimal.padDigits digits count, power)
    match spec.conversion.toLower with
    | 'e' =>
      let (digits, power) := scientific (spec.precision.getD 6 + 1)
      spec.padded true sign (cased (exponential digits power))
    | 'g' =>
      let count := max 1 (spec.precision.getD 6)
      let (digits, power) := scientific count
      let trim (s : List Char) : List Char := if spec.flags.contains '#' then s else withoutZeros s
      let shown := if power < -4 || (count : Int) ≤ power then
          match exponential digits power |>.span (· != 'e') with
          | (mantissa, rest) => trim mantissa ++ rest
        else trim (exact ((count : Int) - 1 - power).toNat)
      spec.padded true sign (cased shown)
    | _ => spec.padded true sign (exact (spec.precision.getD 6))

/-- The number that a text begins with, hexadecimal or octal if it looks so; whether it is too large, and the rest. -/
def leadingNumber (s : List Char) : Int × List Char :=
  let s' := s.dropWhile fun c => isBlank c || ('\n' ≤ c && c ≤ '\r')
  let (isNegative, digits) : Bool × List Char := match s' with
    | '-' :: rest => (true, rest)
    | '+' :: rest => (false, rest)
    | _ => (false, s')
  if (digits.head?.map Char.isDigit).getD false then
    let (n, rest) := Sum.readNumber digits
    (if isNegative then -(n : Int) else n, rest)
  else (0, s)

/-- The decimal number that a text begins with, as a double, and the rest. -/
def leadingDouble (s : List Char) : Float × List Char :=
  let s' := s.dropWhile fun c => isBlank c || ('\n' ≤ c && c ≤ '\r')
  let (isNegative, body) : Bool × List Char := match s' with
    | '-' :: rest => (true, rest)
    | '+' :: rest => (false, rest)
    | _ => (false, s')
  let signed (x : Float) : Float := if isNegative then -x else x
  let word := String.ofList ((body.take 3).map Char.toLower)
  if word == "inf" then
    let rest := body.drop 3
    let more := String.ofList ((rest.take 5).map Char.toLower)
    (signed (1.0 / 0.0), if more == "inity" then rest.drop 5 else rest)
  else if word == "nan" then (signed (0.0 / 0.0), body.drop 3)
  else
    let whole := body.takeWhile Char.isDigit
    let rest := body.drop whole.length
    let (fraction, rest) : List Char × List Char := match rest with
      | '.' :: rest => (rest.takeWhile Char.isDigit, rest.dropWhile Char.isDigit)
      | _ => ([], rest)
    if whole.isEmpty && fraction.isEmpty then (0.0, s)
    else
      let (exponent, rest) : Int × List Char := match rest with
        | e :: more =>
          if e == 'e' || e == 'E' then
            let (isDown, digits) : Bool × List Char := match more with
              | '-' :: more => (true, more)
              | '+' :: more => (false, more)
              | _ => (false, more)
            let power := digits.takeWhile Char.isDigit
            if power.isEmpty then (0, rest)
            else
              let n := min 100000 (((String.ofList power).toNat?).getD 0)
              (if isDown then -(n : Int) else n, digits.drop power.length)
          else (0, rest)
        | [] => (0, rest)
      let m := ((String.ofList (whole ++ fraction)).toNat?).getD 0
      let e := exponent - (fraction.length : Int)
      (signed (if m = 0 then 0.0 else Float.ofScientific m (e < 0) e.natAbs), rest)

/-- What is wrong with an argument of which `rest` has not been read as a number. -/
private def conversionComplaint (arg rest : List Char) (isTooLarge : Bool) : List (List Char) :=
  if !rest.isEmpty then
    [arg ++ (if rest == arg then ": expected numeric value" else ": not completely converted").toList]
  else if isTooLarge then [arg ++ ": Numerical result out of range".toList]
  else []

/-- An integer argument. A quote stands before a character whose number is meant. -/
private def integerArg (isSigned : Bool) (arg : List Char) : Int × List (List Char) :=
  match arg with
  | '"' :: rest => (((rest.head?.getD '\x00').toNat : Int), [])
  | '\'' :: rest => (((rest.head?.getD '\x00').toNat : Int), [])
  | _ =>
    let (n, rest) := leadingNumber arg
    let significant := (arg.filter Char.isDigit).dropWhile (· == '0')
    let isTooLarge := arg.all (fun c => c.isDigit || c == '-') && 19 ≤ significant.length &&
      (((String.ofList significant).toNat?).getD 0) ≥ (if isSigned then width63 else width64)
    (n, conversionComplaint arg rest isTooLarge)

/-! ### Formats -/

/-- One pass through a format; what has been printed, and what is left of the arguments. -/
private def pass : Nat → List Char → List (List Char) → Printed × List (List Char)
  | 0, _, args => ({}, args)
  | _, [], args => ({}, args)
  | fuel + 1, c :: rest, args =>
    let after (shown : List Char) (complaints : List (List Char)) (rest : List Char) (args : List (List Char)) :
        Printed × List (List Char) :=
      let (more, args) := pass fuel rest args
      ({ more with
        text := shown ++ more.text
        complaints := complaints ++ more.complaints
        code := if complaints.isEmpty then more.code else max 1 more.code }, args)
    let stop (message : List Char) : Printed × List (List Char) :=
      ({ complaints := [message], code := 2, goesOn := false }, args)
    match c, rest with
    | '\\', d :: rest =>
      let (shown, rest) := if d == '"' then (['"'], rest) else escapeAt false d rest
      after shown [] rest args
    | '%', '%' :: rest => after ['%'] [] rest args
    | '%', rest =>
      let flags := rest.takeWhile fun c => "#-+ 0".toList.contains c
      let s := rest.drop flags.length
      let takeNumber (s : List Char) (args : List (List Char)) : Option Int × List Char × List (List Char) :=
        match s with
        | '*' :: s => (some (leadingNumber (args.head?.getD [])).1, s, args.drop 1)
        | s =>
          let digits := s.takeWhile Char.isDigit
          ((((String.ofList digits).toNat?).map fun n => (n : Int)), s.drop digits.length, args)
      let (width, s, args) := takeNumber s args
      let (precision, s, args) : Option Nat × List Char × List (List Char) := match s with
        | '.' :: s =>
          let (n, s, args) := takeNumber s args
          (some (n.getD 0).toNat, s, args)
        | s => (none, s, args)
      let flags := if width.getD 0 < 0 then '-' :: flags else flags
      match s with
      | [] => stop "missing format character".toList
      | conversion :: s =>
        let spec : Spec := { flags, width := (width.getD 0).natAbs, precision, conversion }
        let arg := args.head?.getD []
        let next := args.drop 1
        let cut (s : List Char) : List Char := match precision with
          | some n => s.take n
          | none => s
        match conversion with
        | 's' => after (spec.padded false [] (cut arg)) [] s next
        | 'b' =>
          let (shown, goesOn) := unescape (arg.length + 1) arg
          let shown := spec.padded false [] (cut shown)
          if goesOn then after shown [] s next else ({ text := shown, goesOn := false }, next)
        | 'c' => after (spec.padded false [] [arg.head?.getD '\x00']) [] s next
        | _ =>
          if "di".toList.contains conversion then
            let (n, complaints) := integerArg true arg
            after (spec.integer (max (-(width63 : Int)) (min n (width63 - 1)))) complaints s next
          else if "ouxX".toList.contains conversion then
            let (n, complaints) := integerArg false arg
            after (spec.integer n) complaints s next
          else if "eEfFgG".toList.contains conversion then
            let (x, rest) := leadingDouble arg
            after (spec.double x) (conversionComplaint arg rest false) s next
          else stop ('%' :: rest.take (rest.length - s.length) ++ ": invalid directive".toList)
    | c, rest => after [c] [] rest args

/-- Passes through a format as long as there are arguments that it uses. -/
private def passes (format : List Char) : Nat → List (List Char) → Printed
  | 0, _ => {}
  | rounds + 1, args =>
    let (printed, rest) := pass (format.length + 1) format args
    if !printed.goesOn || rest.isEmpty || rest.length = args.length then printed
    else
      let more := passes format rounds rest
      { more with
        text := printed.text ++ more.text
        complaints := printed.complaints ++ more.complaints
        code := max printed.code more.code }

/-- What is printed of a format and its arguments. -/
def printf (args : List (List Char)) : Printed :=
  let args := match args with
    | ['-', '-'] :: rest => rest
    | _ => args
  match args with
  | [] => { complaints := ["usage: printf format [arg ...]".toList], code := 2 }
  | format :: args => passes format (args.length + 1) args

end Attendant.Host.Shell

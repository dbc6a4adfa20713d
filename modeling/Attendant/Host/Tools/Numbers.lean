import Attendant.Host.Shell.Format
import Attendant.Host.Tools.Basic
import Attendant.Host.Tools.Regex

/-!
# Programs for numbers

The program that counts from one number to another, and the one that works out an expression from its arguments.
-/

namespace Attendant.Host.Tools

/-! ### Sequences -/

/-- A decimal as a whole number of units of its last place, and how many places there are. -/
private def decimal? (s : List Char) : Option (Int × Nat) :=
  let (isNegative, body) : Bool × List Char := match s with
    | '-' :: rest => (true, rest)
    | '+' :: rest => (false, rest)
    | _ => (false, s)
  let whole := body.takeWhile Char.isDigit
  let (decimals, rest) : List Char × List Char := match body.drop whole.length with
    | '.' :: rest => (rest.takeWhile Char.isDigit, rest.dropWhile Char.isDigit)
    | rest => ([], rest)
  if (whole.isEmpty && decimals.isEmpty) || !rest.isEmpty then none
  else
    let n : Int := ((String.ofList (whole ++ decimals)).toNat?).getD 0
    some (if isNegative then -n else n, decimals.length)

/-- A number of units of the last of some places. -/
private def shownDecimal (n : Int) (places : Nat) : List Char :=
  (if n < 0 then ['-'] else []) ++ Decimal.pointed n.natAbs places

private def countFrom (step stop : Int) : Nat → Int → List Int
  | 0, _ => []
  | fuel + 1, n =>
    if (0 ≤ step && stop < n) || (step < 0 && n < stop) then [] else n :: countFrom step stop fuel (n + step)

private def isNumeric (s : List Char) : Bool := (decimal? s).isSome

/-- The program that counts. -/
def seq (args : List (List Char)) : Job :=
  let table : OptionTable :=
    { program := "seq", plain := "w", valued := "sf", inOrder := true
      long := [("equal-width", 'w'), ("separator", 's'), ("format", 'f')] }
  let options := args.takeWhile fun a => a.head? == some '-' && !isNumeric a
  let hasValue := options.getLast? == some ['-', 's'] || options.getLast? == some ['-', 'f']
  let count := options.length + if hasValue then 1 else 0
  table.job 1 (args.take count ++ ['-', '-'] :: args.drop count) fun o =>
    let operands := if o.operands.head? == some ['-', '-'] then o.operands.drop 1 else o.operands
    let wrong (s : List Char) : Job := .finish (complained ("seq: invalid floating point argument: ".toList ++ quoted s ++
      "\nTry 'seq --help' for more information.\n".toList) 1)
    let run (first step last : List Char) : Job :=
      match decimal? first, decimal? step, decimal? last with
      | none, _, _ => wrong first
      | _, none, _ => wrong step
      | _, _, none => wrong last
      | some (a, p), some (d, q), some (b, r) =>
        if d = 0 then .finish (complained ("seq: invalid Zero increment value: ".toList ++ quoted step ++
          "\nTry 'seq --help' for more information.\n".toList) 1)
        else
          let places := max p q
          let scale := max places r
          let unit (n : Int) (from' : Nat) : Int := n * (Nat.pow 10 (scale - from') : Nat)
          let start := unit a p
          let amount := unit d q
          let stop := unit b r
          let numbers := countFrom amount stop (((stop - start) / amount).toNat + 1) start
          let shown := numbers.map fun n => shownDecimal (n / (Nat.pow 10 (scale - places) : Nat)) places
          let shown := match o.value? 'f' with
            | some format => shown.map fun s => (Shell.printf [format, s]).text
            | none => shown
          let width := (shown.map List.length).foldl max 0
          let shown := if o.has 'w' then shown.map fun s => match s with
              | '-' :: rest => '-' :: List.replicate (width - s.length) '0' ++ rest
              | _ => List.replicate (width - s.length) '0' ++ s
            else shown
          let separator := (o.value? 's').getD ['\n']
          .finish (said (if shown.isEmpty then [] else (shown.intersperse separator).flatten ++ ['\n']) 0)
    match operands with
    | [] => .finish (complained "seq: missing operand\nTry 'seq --help' for more information.\n".toList 1)
    | [last] => run ['1'] ['1'] last
    | [first, last] => run first ['1'] last
    | [first, step, last] => run first step last
    | _ :: _ :: _ :: extra :: _ => .finish (complained ("seq: extra operand ".toList ++ quoted extra ++
        "\nTry 'seq --help' for more information.\n".toList) 1)

/-! ### Expressions -/

/-- Why an expression has no value: it is not well formed, or an operation is not possible. -/
private inductive ExprFault where
  | malformed (message : List Char)
  | impossible (message : String)

private abbrev ExprResult := Except ExprFault (List Char × List (List Char))

private def integer (s : List Char) : Except ExprFault Int :=
  match integer? s with
  | some n => .ok n
  | none => .error (.impossible "non-integer argument")

private def showInt (n : Int) : List Char := (toString n).toList

private def isNull (s : List Char) : Bool := s.isEmpty || integer? s == some 0

/-- A match of a text with an expression at its start: the first group, or how many characters match. -/
private def matchResult (s pattern : List Char) : Except ExprFault (List Char) :=
  match Regex.parse? .basic pattern with
  | .error message => .error (.impossible message)
  | .ok r =>
    let hasGroup := (List.range pattern.length).any fun i => "\\(".toList.isPrefixOf (pattern.drop i)
    match r.matchAt false { rest := s } with
    | some place => .ok (if hasGroup then (place.groups.lookup 1).getD [] else Shell.digits place.index)
    | none => .ok (if hasGroup then [] else ['0'])

/-- The operators of a level, from "or" at nought to matches. -/
private def levelOf : Nat → List String
  | 0 => ["|"]
  | 1 => ["&"]
  | 2 => ["<", "<=", "=", "==", "!=", ">=", ">"]
  | 3 => ["+", "-"]
  | 4 => ["*", "/", "%"]
  | _ => [":"]

private def truth (b : Bool) : List Char := if b then ['1'] else ['0']

/-- What an operator makes of two texts. -/
private def operate (op : String) (a b : List Char) : Except ExprFault (List Char) := do
  match op with
  | "|" => return if !isNull a then a else if !isNull b then b else ['0']
  | "&" => return if isNull a || isNull b then ['0'] else a
  | "+" => return showInt ((← integer a) + (← integer b))
  | "-" => return showInt ((← integer a) - (← integer b))
  | "*" => return showInt ((← integer a) * (← integer b))
  | "/" =>
    let (m, n) := (← integer a, ← integer b)
    if n = 0 then throw (.impossible "division by zero") else return showInt (m.tdiv n)
  | "%" =>
    let (m, n) := (← integer a, ← integer b)
    if n = 0 then throw (.impossible "division by zero") else return showInt (m.tmod n)
  | ":" => matchResult a b
  | op =>
    let order := match integer? a, integer? b with
      | some m, some n => compare m n
      | _, _ => compare (a.map Char.toNat) (b.map Char.toNat)
    return truth (match op, order with
      | "<", .lt => true
      | "<=", .lt => true
      | "<=", .eq => true
      | "=", .eq => true
      | "==", .eq => true
      | "!=", .lt => true
      | "!=", .gt => true
      | ">=", .eq => true
      | ">=", .gt => true
      | ">", .gt => true
      | _, _ => false)

private def missingArgument (before : List Char) : ExprFault :=
  .malformed ("syntax error: missing argument after ".toList ++ quoted before)

mutual

private def exprChain : Nat → Nat → List Char → List (List Char) → ExprResult
  | 0, _, _, _ => .error (.malformed "syntax error".toList)
  | fuel + 1, level, before, args =>
    if 5 < level then exprPrimary fuel before args
    else do
      let (a, rest) ← exprChain fuel (level + 1) before args
      exprRest fuel level a rest

private def exprRest : Nat → Nat → List Char → List (List Char) → ExprResult
  | 0, _, _, _ => .error (.malformed "syntax error".toList)
  | fuel + 1, level, a, args =>
    match args with
    | op :: rest =>
      if (levelOf level).contains (String.ofList op) then do
        let (b, rest) ← exprChain fuel (level + 1) op rest
        exprRest fuel level (← operate (String.ofList op) a b) rest
      else .ok (a, args)
    | [] => .ok (a, [])

private def exprPrimary : Nat → List Char → List (List Char) → ExprResult
  | 0, _, _ => .error (.malformed "syntax error".toList)
  | fuel + 1, before, args => do
    match args.map String.ofList, args with
    | [], _ => throw (missingArgument before)
    | "(" :: _, _ :: rest =>
      let (a, rest) ← exprChain fuel 0 ['('] rest
      match rest with
      | [')'] :: rest => return (a, rest)
      | found :: _ =>
        throw (.malformed ("syntax error: expecting ')' instead of ".toList ++ quoted found))
      | [] => throw (.malformed ("syntax error: expecting ')' after ".toList ++ quoted (args.getLast?.getD [])))
    | ")" :: _, _ => throw (.malformed "syntax error: unexpected ')'".toList)
    | "+" :: _, _ :: a :: rest => return (a, rest)
    | "length" :: _, op :: rest =>
      let (a, rest) ← exprPrimary fuel op rest
      return (Shell.digits a.length, rest)
    | "match" :: _, op :: rest =>
      let (a, rest) ← exprPrimary fuel op rest
      let (b, rest) ← exprPrimary fuel a rest
      return (← matchResult a b, rest)
    | "index" :: _, op :: rest =>
      let (a, rest) ← exprPrimary fuel op rest
      let (b, rest) ← exprPrimary fuel a rest
      return (Shell.digits (((a.findIdx? b.contains).map (· + 1)).getD 0), rest)
    | "substr" :: _, op :: rest =>
      let (a, rest) ← exprPrimary fuel op rest
      let (b, rest) ← exprPrimary fuel a rest
      let (c, rest) ← exprPrimary fuel b rest
      match integer? b, integer? c with
      | some p, some n => return (if p ≤ 0 || n ≤ 0 then [] else (a.drop (p.toNat - 1)).take n.toNat, rest)
      | _, _ => return ([], rest)
    | _, a :: rest => return (a, rest)
    | _, [] => throw (missingArgument before)

end

/-- The program that works out an expression. -/
def expr (args : List (List Char)) : Job :=
  let args := if args.head? == some ['-', '-'] then args.drop 1 else args
  if args.isEmpty then
    .finish (complained "expr: missing operand\nTry 'expr --help' for more information.\n".toList 2)
  else
    match exprChain (16 * args.length + 16) 0 [] args with
    | .ok (a, []) => .finish (said (a ++ ['\n']) (if isNull a then 1 else 0))
    | .ok (_, extra :: _) =>
      .finish (complained (message "expr" ["syntax error: unexpected argument ".toList, quoted extra]) 2)
    | .error (.malformed text) => .finish (complained (message "expr" [text]) 2)
    | .error (.impossible text) => .finish (complained (message "expr" [text.toList]) 2)

end Attendant.Host.Tools

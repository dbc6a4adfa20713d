import Attendant.Host.Shell.Command

/-!
# Conditions

The conditions that the command `test` decides: about texts, about numbers, and about files. What is true of files comes
from outside.
-/

namespace Attendant.Host.Shell

/-- What is asked of files: about one, by a letter, or about two, by a word. -/
structure FileFacts where
  one : Char → List Char → Bool
  two : String → List Char → List Char → Bool

namespace Test

/-- What an argument is. -/
private inductive Kind where
  | nothing
  | unary
  | binary
  | not
  | and
  | or
  | opening
  | closing
  | operand
  deriving DecidableEq

/-- What a text is by itself. -/
private def kindOf (s : List Char) : Kind :=
  match String.ofList s with
  | "!" => .not
  | "-a" => .and
  | "-o" => .or
  | "(" => .opening
  | ")" => .closing
  | word =>
    if ["=", "!=", "<", ">", "-eq", "-ne", "-ge", "-gt", "-le", "-lt", "-nt", "-ot", "-ef"].contains word then .binary
    else match s with
      | ['-', c] => if "rwxefdcbpugkstznhLOGS".toList.contains c then .unary else .operand
      | _ => .operand

/-- What the first of some arguments is, seen with those after it: what would ask for an operand is one itself where none
can follow. -/
private def lex (args : List (List Char)) : Kind :=
  match args with
  | [] => .nothing
  | a :: rest =>
    match kindOf a, rest with
    | .unary, [] => .operand
    | .unary, [_] => .unary
    | .unary, b :: _ => if kindOf b = .binary then .operand else .unary
    | .opening, [] => .operand
    | kind, _ => kind

/-- The number that an argument is. -/
private def number (s : List Char) : Except (List Char) Int :=
  let isSpace (c : Char) : Bool := c == ' ' || ('\t' ≤ c && c ≤ '\r')
  let body := ((s.dropWhile isSpace).reverse.dropWhile isSpace).reverse
  let (isNegative, digits) : Bool × List Char := match body with
    | '-' :: rest => (true, rest)
    | '+' :: rest => (false, rest)
    | _ => (false, body)
  match if digits.all Char.isDigit then (String.ofList digits).toNat? else none with
  | some n => .ok (if isNegative then -(n : Int) else n)
  | none => .error ("Illegal number: ".toList ++ s)

/-- Whether a comparison of two operands holds. -/
private def compare (facts : FileFacts) (op : String) (a b : List Char) : Except (List Char) Bool := do
  match op with
  | "=" => return a == b
  | "!=" => return a != b
  | "<" => return a < b
  | ">" => return b < a
  | "-eq" => return (← number a) == (← number b)
  | "-ne" => return (← number a) != (← number b)
  | "-ge" => return (← number b) ≤ (← number a)
  | "-gt" => return (← number b) < (← number a)
  | "-le" => return (← number a) ≤ (← number b)
  | "-lt" => return (← number a) < (← number b)
  | op => return facts.two op a b

/-- Whether a statement about one operand holds. -/
private def holds (facts : FileFacts) (letter : Char) (a : List Char) : Except (List Char) Bool := do
  match letter with
  | 'z' => return a.isEmpty
  | 'n' => return !a.isEmpty
  | 't' =>
    let _ ← number a
    return false
  | letter => return facts.one letter a

/-- Whether a condition holds, and the arguments behind it. -/
private abbrev Answer := Except (List Char) (Bool × List (List Char))

mutual

/-- Conditions of which one has to hold; `isOperand` says that the first argument is one, whatever it looks like. -/
private def disjunction (facts : FileFacts) : Nat → Bool → List (List Char) → Answer
  | 0, _, _ => .error "too long".toList
  | fuel + 1, isOperand, args => do
    let (a, rest) ← conjunction facts fuel isOperand args
    if lex rest = .or then
      let (b, rest) ← disjunction facts fuel false (rest.drop 1)
      return (a || b, rest)
    else return (a, rest)

/-- Conditions that all have to hold. -/
private def conjunction (facts : FileFacts) : Nat → Bool → List (List Char) → Answer
  | 0, _, _ => .error "too long".toList
  | fuel + 1, isOperand, args => do
    let (a, rest) ← negation facts fuel isOperand args
    if lex rest = .and then
      let (b, rest) ← conjunction facts fuel false (rest.drop 1)
      return (a && b, rest)
    else return (a, rest)

/-- A condition, or one that must not hold. -/
private def negation (facts : FileFacts) : Nat → Bool → List (List Char) → Answer
  | 0, _, _ => .error "too long".toList
  | fuel + 1, isOperand, args => do
    if !isOperand && lex args = .not then
      let (a, rest) ← negation facts fuel false (args.drop 1)
      return (!a, rest)
    else primary facts fuel isOperand args

/-- A single condition. -/
private def primary (facts : FileFacts) : Nat → Bool → List (List Char) → Answer
  | 0, _, _ => .error "too long".toList
  | fuel + 1, isOperand, args => do
    match if isOperand then Kind.operand else lex args, args with
    | .nothing, _ => return (false, [])
    | _, [] => return (false, [])
    | .opening, _ :: rest =>
      if lex rest = .closing then return (false, rest.drop 1)
      let (a, rest) ← disjunction facts fuel false rest
      if lex rest != .closing then throw "closing paren expected".toList
      return (a, rest.drop 1)
    | .unary, op :: rest =>
      match rest with
      | a :: rest => return (← holds facts (op.getLast?.getD ' ') a, rest)
      | [] => throw (op ++ ": argument expected".toList)
    | _, a :: rest =>
      if lex rest = .binary then
        match rest with
        | op :: b :: rest => return (← compare facts (String.ofList op) a b, rest)
        | op :: [] => throw (op ++ ": argument expected".toList)
        | [] => return (!a.isEmpty, [])
      else return (!a.isEmpty, rest)

end

/-- Whether the arguments of `test` are a condition that holds, or what is wrong with them. -/
def decide (facts : FileFacts) : Nat → List (List Char) → Except (List Char) Bool
  | 0, _ => .error "too long".toList
  | depth + 1, args => do
    let whole (isOperand : Bool) (args : List (List Char)) : Except (List Char) Bool := do
      let (a, rest) ← disjunction facts (8 * args.length + 8) isOperand args
      if rest.isEmpty then return a
      else throw ((args.take (args.length - rest.length)).getLast?.getD [] ++ ": unexpected operator".toList)
    let bracketed := args.head? == some ['('] && args.getLast? == some [')']
    let negated := args.head? == some ['!']
    match args with
    | [] => return false
    | [_, op, _] =>
      if kindOf op = .binary then whole true args
      else if bracketed then whole false ((args.drop 1).dropLast)
      else if negated then return !(← decide facts depth (args.drop 1))
      else whole false args
    | [_, _, _, _] =>
      if bracketed then whole false ((args.drop 1).dropLast)
      else if negated then return !(← decide facts depth (args.drop 1))
      else whole false args
    | _ => whole false args

/-- The code with which the command `test` ends, and what it says; under its other name its last argument has to be a
bracket. -/
def outcome (facts : FileFacts) (hasBracket : Bool) (args : List (List Char)) : Nat × Option (List Char) :=
  if hasBracket && args.getLast? != some [']'] then (2, some "missing ]".toList)
  else
    match decide facts 3 (if hasBracket then args.dropLast else args) with
    | .ok true => (0, none)
    | .ok false => (1, none)
    | .error message => (2, some message)

end Test

end Attendant.Host.Shell

import Attendant.Json.Number
import Attendant.Text.Utf8

/-!
# Reading JSON

A recursive reader of JSON texts. Lists and tables may be nested in each other up to 127 deep. A text with anything but
blanks after its value is refused.

`parse?` reads a text, `decode?` the bytes of one.
-/

namespace Attendant.Json

open Attendant

/-- The depth at which a value is refused. -/
def maxDepth : Nat := 128

/-- The blanks of a JSON text. -/
def isSpace (c : Char) : Bool := c = ' ' || c = '\t' || c = '\n' || c = '\r'

/-- What follows the blanks. -/
def skipSpace (cs : List Char) : List Char := cs.dropWhile isSpace

/-- The value of a digit of base 16. -/
def hexValue (c : Char) : Option Nat :=
  if '0' ≤ c && c ≤ '9' then some (c.toNat - 48)
  else if 'a' ≤ c && c ≤ 'f' then some (c.toNat - 87)
  else if 'A' ≤ c && c ≤ 'F' then some (c.toNat - 55)
  else none

/-- The code unit that four digits of base 16 make. -/
def unit (a b c d : Char) : Option Nat := do
  return ((← hexValue a) * 16 + (← hexValue b)) * 256 + (← hexValue c) * 16 + (← hexValue d)

/-- The character that a letter stands for after a backslash. -/
def shortEscape (c : Char) : Option Char :=
  match c with
  | '"' => some '"'
  | '\\' => some '\\'
  | '/' => some '/'
  | 'b' => some '\x08'
  | 'f' => some '\x0c'
  | 'n' => some '\n'
  | 'r' => some '\r'
  | 't' => some '\t'
  | _ => none

/-- Reads the rest of a string after its opening quote. Escaped code units above U+FFFF come in pairs. -/
def stringRest (acc : List Char) : List Char → Option (String × List Char)
  | '"' :: rest => some (String.ofList acc.reverse, rest)
  | '\\' :: 'u' :: a :: b :: c :: d :: rest =>
    match unit a b c d with
    | none => none
    | some u =>
      if 0xDC00 ≤ u && u ≤ 0xDFFF then none
      else if 0xD800 ≤ u && u ≤ 0xDBFF then
        match rest with
        | '\\' :: 'u' :: e :: f :: g :: h :: rest =>
          match unit e f g h with
          | none => none
          | some v =>
            if 0xDC00 ≤ v && v ≤ 0xDFFF then
              stringRest (Char.ofNat (0x10000 + (u - 0xD800) * 1024 + (v - 0xDC00)) :: acc) rest
            else none
        | _ => none
      else stringRest (Char.ofNat u :: acc) rest
  | '\\' :: c :: rest =>
    match shortEscape c with
    | some c => stringRest (c :: acc) rest
    | none => none
  | c :: rest => if c.toNat < 0x20 || c = '\\' then none else stringRest (c :: acc) rest
  | [] => none

/-- Reads a word that stands for a value. -/
def literal (word : String) (v : Value) (cs : List Char) : Option (Value × List Char) :=
  let w := word.toList
  if w.isPrefixOf cs then some (v, cs.drop w.length) else none

mutual

/-- Reads a value where one starts. -/
def value : Nat → Nat → List Char → Option (Value × List Char)
  | 0, _, _ => none
  | fuel + 1, depth, cs =>
    match cs with
    | '"' :: rest => (stringRest [] rest).map fun (s, rest) => (.str s, rest)
    | '[' :: rest =>
      if depth ≤ 1 then none
      else match skipSpace rest with
        | ']' :: rest => some (.list [], rest)
        | rest => items fuel (depth - 1) [] rest
    | '\x7b' :: rest =>
      if depth ≤ 1 then none
      else match skipSpace rest with
        | '\x7d' :: rest => some (.table [], rest)
        | rest => members fuel (depth - 1) [] rest
    | 't' :: _ => literal "true" (.bool true) cs
    | 'f' :: _ => literal "false" (.bool false) cs
    | 'n' :: _ => literal "null" .null cs
    | _ => number cs

/-- Reads the items of a list, at least one, and its closing bracket. -/
def items : Nat → Nat → List Value → List Char → Option (Value × List Char)
  | 0, _, _, _ => none
  | fuel + 1, depth, acc, cs =>
    match value fuel depth cs with
    | none => none
    | some (v, rest) =>
      match skipSpace rest with
      | ',' :: rest => items fuel depth (v :: acc) (skipSpace rest)
      | ']' :: rest => some (.list (v :: acc).reverse, rest)
      | _ => none

/-- Reads the fields of a table, at least one, and its closing brace. -/
def members : Nat → Nat → List (String × Value) → List Char → Option (Value × List Char)
  | 0, _, _, _ => none
  | fuel + 1, depth, acc, cs =>
    match cs with
    | '"' :: rest =>
      match stringRest [] rest with
      | none => none
      | some (key, rest) =>
        match skipSpace rest with
        | ':' :: rest =>
          match value fuel depth (skipSpace rest) with
          | none => none
          | some (v, rest) =>
            match skipSpace rest with
            | ',' :: rest => members fuel depth ((key, v) :: acc) (skipSpace rest)
            | '\x7d' :: rest => some (Value.ofFields ((key, v) :: acc).reverse, rest)
            | _ => none
        | _ => none
    | _ => none

end

/-- More steps than the reading of a text takes. -/
def fuelFor (cs : List Char) : Nat := 2 * cs.length + 2

/-- What was read, if only blanks follow it. -/
def finish {α : Type} : Option (α × List Char) → Option α
  | some (a, rest) => if (skipSpace rest).isEmpty then some a else none
  | none => none

/-- The value of a JSON text given as characters. -/
def parseChars? (cs : List Char) : Option Value :=
  finish (value (fuelFor cs) maxDepth (skipSpace cs))

/-- The value of a JSON text. -/
def parse? (s : String) : Option Value := parseChars? s.toList

/-- The value of the bytes of a JSON text. -/
def decode? (bytes : List UInt8) : Option Value :=
  match Utf8.validate bytes with
  | .ok cs => parseChars? cs
  | .error _ => none

end Attendant.Json

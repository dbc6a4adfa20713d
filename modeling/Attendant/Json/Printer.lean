import Attendant.Json.Number
import Attendant.Text.Utf8

/-!
# Writing JSON

The compact text of a value: no blanks, fields in the order of the table, and in strings only the escapes that JSON
demands.
-/

namespace Attendant.Json

open Attendant

/-- A digit of base 16. -/
def hexDigit (n : Nat) : Char := if n < 10 then Char.ofNat (48 + n) else Char.ofNat (87 + n)

/-- How a character of a string is written. -/
def escape (c : Char) : List Char :=
  if c = '"' then ['\\', '"']
  else if c = '\\' then ['\\', '\\']
  else if c = '\x08' then ['\\', 'b']
  else if c = '\x0c' then ['\\', 'f']
  else if c = '\n' then ['\\', 'n']
  else if c = '\r' then ['\\', 'r']
  else if c = '\t' then ['\\', 't']
  else if c.toNat < 0x20 then ['\\', 'u', '0', '0', hexDigit (c.toNat / 16), hexDigit (c.toNat % 16)]
  else [c]

/-- A string between quotes. -/
def renderString (s : String) : String :=
  "\"" ++ String.ofList (s.toList.flatMap escape) ++ "\""

mutual

/-- The compact text of a value. -/
def render : Value → String
  | .null => "null"
  | .bool b => if b then "true" else "false"
  | .int n => toString n
  | .double d => numberText d
  | .str s => renderString s
  | .list [] => "[]"
  | .list (v :: vs) => renderItems ("[" ++ render v) vs ++ "]"
  | .table [] => "\x7b\x7d"
  | .table ((k, v) :: fs) => renderFields ("\x7b" ++ renderString k ++ ":" ++ render v) fs ++ "\x7d"

/-- Adds the further items of a list to the text so far. -/
def renderItems (acc : String) : List Value → String
  | [] => acc
  | v :: vs => renderItems (acc ++ "," ++ render v) vs

/-- Adds the further fields of a table to the text so far. -/
def renderFields (acc : String) : List (String × Value) → String
  | [] => acc
  | (k, v) :: fs => renderFields (acc ++ "," ++ renderString k ++ ":" ++ render v) fs

end

/-- The bytes of the compact text of a value. -/
def encode (v : Value) : List UInt8 := Utf8.encode (render v)

end Attendant.Json

import Attendant.Text.Plain

/-!
# Quoted texts

How a text is shown inside a message: between double quotes, on one line, with every character that would not be seen
as itself written as an escape.
-/

namespace Attendant.Text

/-- A number in base 16, in lower-case digits. -/
def hex (n : Nat) : String := String.ofList (Nat.toDigits 16 n)

/-- The escape that stands for a character, or the character itself. -/
def escapeChar (c : Char) : String :=
  if c = '\x00' then "\\0"
  else if c = '\t' then "\\t"
  else if c = '\r' then "\\r"
  else if c = '\n' then "\\n"
  else if c = '"' then "\\\""
  else if c = '\\' then "\\\\"
  else if isPlain c then c.toString
  else "\\u\x7b" ++ hex c.toNat ++ "\x7d"

/-- A text between quotes, with its escapes. -/
def quoted (s : String) : String :=
  "\"" ++ s.toList.foldl (fun acc c => acc ++ escapeChar c) "" ++ "\""

end Attendant.Text

import Attendant.Host.Shell.Command

/-!
# Words of a line

How a shell takes a line apart if nothing in it is special but blanks, quotes and backslashes. Outside quotes a backslash
protects the next character; between single quotes nothing is special; between double quotes a backslash goes only
before a character that would be special there, and is kept before any other.
-/

namespace Attendant.Host.Shell

/-- Where the reading of a line stands: between words, or in one, outside quotes, between single or between double
ones. -/
inductive Reading where
  | between
  | plain
  | single
  | double
  deriving DecidableEq, Repr

/-- Words of a line, from a state on; `word` is what has been read of the word so far. An open quote is a fault. -/
def splitFrom : Reading → List Char → List Char → Option (List (List Char))
  | .between, _, [] => some []
  | .plain, word, [] => some [word]
  | _, _, [] => none
  | .between, word, c :: rest =>
    if isBlank c || c == '\n' then splitFrom .between word rest
    else if c == '\'' then splitFrom .single [] rest
    else if c == '"' then splitFrom .double [] rest
    else if c == '\\' then
      match rest with
      | [] => some [['\\']]
      | '\n' :: rest => splitFrom .between word rest
      | d :: rest => splitFrom .plain [d] rest
    else splitFrom .plain [c] rest
  | .plain, word, c :: rest =>
    if isBlank c || c == '\n' then (splitFrom .between [] rest).map (word :: ·)
    else if c == '\'' then splitFrom .single word rest
    else if c == '"' then splitFrom .double word rest
    else if c == '\\' then
      match rest with
      | [] => some [word ++ ['\\']]
      | '\n' :: rest => splitFrom .plain word rest
      | d :: rest => splitFrom .plain (word ++ [d]) rest
    else splitFrom .plain (word ++ [c]) rest
  | .single, word, c :: rest =>
    if c == '\'' then splitFrom .plain word rest else splitFrom .single (word ++ [c]) rest
  | .double, word, c :: rest =>
    if c == '"' then splitFrom .plain word rest
    else if c == '\\' then
      match rest with
      | [] => none
      | '\n' :: rest => splitFrom .double word rest
      | d :: rest =>
        if isProtected d then splitFrom .double (word ++ [d]) rest else splitFrom .double (word ++ ['\\', d]) rest
    else splitFrom .double (word ++ [c]) rest

/-- The words of a line. -/
def split (line : List Char) : Option (List (List Char)) := splitFrom .between [] line

end Attendant.Host.Shell

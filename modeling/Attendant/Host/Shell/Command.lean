/-!
# Commands of a shell

What a shell reads, as a tree. A word is a list of pieces, some of which stand for something else; a command is simple, or
made of others. The characters of all texts stand for bytes.
-/

namespace Attendant.Host.Shell

/-- Where a redirection leads: from a file, onto one that is emptied before (and must not be there if the shell is careful),
onto one in any case, to the end of one, from and to one, to what another descriptor leads to, or from a text. -/
inductive Direction where
  | from
  | onto
  | anew
  | append
  | both
  | copy
  | here
  deriving DecidableEq, Repr, Inhabited

/-- What is done about a parameter without a value: a word stands for it, or is assigned to it, or says what is wrong, or
stands for the value of a parameter that has one. -/
inductive Default where
  | stand
  | assign
  | complain
  | instead
  deriving DecidableEq, Repr, Inhabited

mutual

/-- A piece of a word. Only what is not quoted is taken apart, and is special in a pattern. -/
inductive Piece where
  | text (s : List Char) (quoted : Bool)
  | param (name : List Char) (use : Use) (quoted : Bool)
  | output (body : Command) (quoted : Bool)
  | sum (pieces : List Piece) (quoted : Bool)

/-- What is used of a parameter: its value, its length, its value or else a word, or its value without what a pattern
matches at the start or at the end. Some uses make no sense. -/
inductive Use where
  | value
  | length
  | orElse (default : Default) (ifEmpty : Bool) (word : List Piece)
  | strip (atEnd longest : Bool) (pattern : List Piece)
  | senseless

/-- A redirection of a descriptor. -/
inductive Redirect where
  | mk (descriptor : Nat) (direction : Direction) (target : List Piece)

/-- A command. Some have the number of the line on which they start. -/
inductive Command where
  | nothing
  | simple (line : Nat) (assigns : List (List Char × List Piece)) (words : List (List Piece)) (redirects : List Redirect)
  | redirected (line : Nat) (body : Command) (redirects : List Redirect)
  | subshell (body : Command)
  | seq (first second : Command)
  | both (first second : Command)
  | either (first second : Command)
  | negate (body : Command)
  | pipeline (stages : List Command)
  | background (body : Command)
  | branch (condition yes no : Command)
  | again (positive : Bool) (condition body : Command)
  | each (line : Nat) (name : List Char) (words : List (List Piece)) (body : Command)
  | choose (line : Nat) (word : List Piece) (branches : List (List (List Piece) × Command))
  | define (name : List Char) (body : Command)

end

instance : Inhabited Piece := ⟨.text [] false⟩
instance : Inhabited Command := ⟨.nothing⟩

/-- A word. -/
abbrev Word := List Piece

/-- A text of bytes. -/
def ofBytes (bytes : List UInt8) : List Char := bytes.map fun b => Char.ofNat b.toNat

/-- The bytes of a text. -/
def toBytes (s : List Char) : List UInt8 := s.map fun c => c.toNat.toUInt8

/-- Blanks separate words. -/
def isBlank (c : Char) : Bool := c == ' ' || c == '\t'

/-- The characters at which a word ends if they are not quoted. -/
def isMeta (c : Char) : Bool :=
  isBlank c || c == '\n' || c == ';' || c == '&' || c == '|' || c == '<' || c == '>' || c == '(' || c == ')'

/-- The characters that a backslash between double quotes protects. -/
def isProtected (c : Char) : Bool := c == '"' || c == '\\' || c == '$' || c == '\x60'

/-- Whether a name can start with a character. -/
def startsName (c : Char) : Bool := c.isAlpha || c == '_'

/-- Whether a name can go on with a character. -/
def continuesName (c : Char) : Bool := c.isAlphanum || c == '_'

/-- Whether a text is a name. -/
def isName : List Char → Bool
  | c :: rest => startsName c && rest.all continuesName
  | [] => false

/-- The name and the text on the two sides of an equals sign. -/
def assignment? (s : List Char) : Option (List Char × List Char) :=
  match s.span (· != '=') with
  | (name, _ :: value) => if isName name then some (name, value) else none
  | _ => none

/-- The commands that belong to the shell more closely than others: a fault in them ends it. -/
def isSpecial (name : List Char) : Bool :=
  [":", ".", "break", "continue", "eval", "exec", "exit", "export", "local", "readonly", "return", "set", "shift",
    "times", "trap", "unset"].contains (String.ofList name)

/-- Joins texts with a blank between them. -/
def unwords : List (List Char) → List Char
  | [] => []
  | [s] => s
  | s :: rest => s ++ ' ' :: unwords rest

/-- The digits of a number. -/
def digits (n : Nat) : List Char := (toString n).toList

end Attendant.Host.Shell

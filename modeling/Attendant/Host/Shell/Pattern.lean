import Attendant.Host.Shell.Command

/-!
# Patterns

A pattern is a text of which some characters may be special: a star stands for any text, a question mark for any
character, and square brackets for one of some characters. What is quoted stands for itself.
-/

namespace Attendant.Host.Shell

/-- A character, and whether it is quoted. -/
abbrev Glyph := Char × Bool

/-- What may stand between square brackets. -/
inductive Member where
  | between (first last : Char)
  | ofClass (name : List Char)
  deriving DecidableEq, Repr

/-- What a pattern is made of. -/
inductive PatternItem where
  | char (c : Char)
  | any
  | many
  | oneOf (isNegated : Bool) (members : List Member)
  deriving DecidableEq, Repr

/-- Whether a character is in a class. -/
def inClass (name : List Char) (c : Char) : Bool :=
  let isPunctuation := ('!' ≤ c && c ≤ '~') && !c.isAlphanum
  match String.ofList name with
  | "alpha" => c.isAlpha
  | "digit" => c.isDigit
  | "alnum" => c.isAlphanum
  | "upper" => c.isUpper
  | "lower" => c.isLower
  | "space" => c == ' ' || ('\t' ≤ c && c ≤ '\r')
  | "blank" => isBlank c
  | "punct" => isPunctuation
  | "xdigit" => c.isDigit || ('a' ≤ c && c ≤ 'f') || ('A' ≤ c && c ≤ 'F')
  | "cntrl" => c < ' ' || c == '\x7f'
  | "print" => ' ' ≤ c && c ≤ '~'
  | "graph" => '!' ≤ c && c ≤ '~'
  | _ => false

/-- Whether a character is among some members. -/
def Member.holds (c : Char) : Member → Bool
  | .between first last => first ≤ c && c ≤ last
  | .ofClass name => inClass name c

/-- The name of a class behind its opening bracket and colon, and the rest. -/
private def className? (s : List Glyph) : Option (List Char × List Glyph) :=
  let name := s.takeWhile fun (c, isQuoted) => c.isAlpha && !isQuoted
  match s.drop name.length with
  | (':', false) :: (']', false) :: rest => some (name.map (·.1), rest)
  | _ => none

/-- The members up to a closing bracket, and the rest. The first character is never the closing bracket. -/
private def members? : Nat → Bool → List Glyph → Option (List Member × List Glyph)
  | 0, _, _ => none
  | _, _, [] => none
  | fuel + 1, isFirst, (c, isQuoted) :: rest =>
    if c == ']' && !isQuoted && !isFirst then some ([], rest)
    else
      let single (c : Char) (rest : List Glyph) : Option (List Member × List Glyph) :=
        match rest with
        | ('-', false) :: (d, q) :: rest' =>
          if d == ']' && !q then (members? fuel false rest).map fun (ms, rest) => (.between c c :: ms, rest)
          else (members? fuel false rest').map fun (ms, rest) => (.between c d :: ms, rest)
        | _ => (members? fuel false rest).map fun (ms, rest) => (.between c c :: ms, rest)
      match c, isQuoted, rest with
      | '[', false, (':', false) :: more =>
        match className? more with
        | some (name, rest) => (members? fuel false rest).map fun (ms, rest) => (.ofClass name :: ms, rest)
        | none => single c rest
      | '\\', false, (d, _) :: rest => single d rest
      | _, _, _ => single c rest

/-- The pattern that a text is. -/
private def patternFrom : Nat → List Glyph → List PatternItem
  | 0, _ => []
  | _, [] => []
  | fuel + 1, (c, isQuoted) :: rest =>
    match c, isQuoted, rest with
    | '*', false, _ => .many :: patternFrom fuel rest
    | '?', false, _ => .any :: patternFrom fuel rest
    | '\\', false, (d, _) :: rest => .char d :: patternFrom fuel rest
    | '[', false, _ =>
      let (isNegated, inside) : Bool × List Glyph := match rest with
        | ('!', false) :: inside => (true, inside)
        | inside => (false, inside)
      match members? (inside.length + 1) true inside with
      | some (members, rest) => .oneOf isNegated members :: patternFrom fuel rest
      | none => .char '[' :: patternFrom fuel rest
    | _, _, _ => .char c :: patternFrom fuel rest

/-- The pattern that a text is. -/
def patternOf (s : List Glyph) : List PatternItem := patternFrom (s.length + 1) s

/-- Whether a text of characters has one that is special in a pattern. -/
def isPattern (s : List Glyph) : Bool := s.any fun (c, isQuoted) => !isQuoted && (c == '*' || c == '?' || c == '[')

/-- A text and all that is left of it when it is shortened at its start. -/
def suffixes : List Char → List (List Char)
  | [] => [[]]
  | c :: rest => (c :: rest) :: suffixes rest

/-- Whether a text matches a pattern. -/
def matchesPattern : List PatternItem → List Char → Bool
  | [], s => s.isEmpty
  | .many :: [], _ => true
  | .many :: items, s => (suffixes s).any (matchesPattern items)
  | _ :: _, [] => false
  | .char d :: items, c :: s => c == d && matchesPattern items s
  | .any :: items, _ :: s => matchesPattern items s
  | .oneOf isNegated members :: items, c :: s =>
    (members.any (·.holds c)) != isNegated && matchesPattern items s

/-- What is left of a text without what a pattern matches at its start or end. -/
def stripped (atEnd longest : Bool) (pattern : List PatternItem) (s : List Char) : List Char :=
  let cuts := List.range (s.length + 1)
  let wanted := if atEnd = longest then cuts else cuts.reverse
  if atEnd then
    match wanted.find? fun n => matchesPattern pattern (s.drop n) with
    | some n => s.take n
    | none => s
  else
    match wanted.find? fun n => matchesPattern pattern (s.take n) with
    | some n => s.drop n
    | none => s

end Attendant.Host.Shell

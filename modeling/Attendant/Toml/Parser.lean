import Attendant.Toml.Document
import Attendant.Toml.Scalar

/-!
# Reading settings files

A reader of TOML 1.1. `parse?` gives the table that a text defines; a text that breaks a rule gives nothing, wherever
the fault is. Lists and inline tables may be nested in each other up to 80 deep, and a key may have up to 80 parts.

The fuel of every reader is more than the number of characters before it, which is more than the steps that it takes.
-/

namespace Attendant.Toml

/-- How deep lists and inline tables may be nested, and how many parts a key may have. -/
def maxDepth : Nat := 80

private def isBlank (c : Char) : Bool := c = ' ' || c = '\t'

private def isControl (c : Char) : Bool := (c.toNat < 0x20 && c ≠ '\t') || c.toNat = 0x7F

/-- A line break: its characters, latest first, and what follows it. -/
private def break? : List Char → Option (List Char × List Char)
  | '\n' :: rest => some (['\n'], rest)
  | '\r' :: '\n' :: rest => some (['\n', '\r'], rest)
  | _ => none

/-- A line break: what follows it. -/
private def newline? (cs : List Char) : Option (List Char) := (break? cs).map (·.2)

private def skipBlanks (cs : List Char) : List Char := cs.dropWhile isBlank

/-- Skips a comment, if one starts here; it must not hold control characters. -/
private def skipComment? : List Char → Option (List Char)
  | '#' :: rest => body rest
  | cs => some cs
where
  /-- Skips to the end of the line. -/
  body : List Char → Option (List Char)
    | [] => some []
    | c :: rest =>
      if c = '\n' || c = '\r' then some (c :: rest)
      else if isControl c then none
      else body rest

/-- Skips blanks, comments and line breaks. -/
private def skipLines? : Nat → List Char → Option (List Char)
  | 0, _ => none
  | fuel + 1, cs => do
    let cs ← skipComment? (skipBlanks cs)
    match newline? cs with
    | some rest => skipLines? fuel rest
    | none => some cs

/-- Skips what may stand after a value on its line. -/
private def endOfLine? (cs : List Char) : Option (List Char) := do
  let cs ← skipComment? (skipBlanks cs)
  match cs with
  | [] => some []
  | _ => newline? cs

private def hexValue? (c : Char) : Option Nat :=
  if '0' ≤ c && c ≤ '9' then some (c.toNat - 48)
  else if 'a' ≤ c && c ≤ 'f' then some (c.toNat - 87)
  else if 'A' ≤ c && c ≤ 'F' then some (c.toNat - 55)
  else none

/-- The character that some base-16 digits name. -/
private def codePoint? (ds : List Char) : Option Char := do
  let n ← ds.foldlM (fun acc c => (hexValue? c).map (acc * 16 + ·)) 0
  if h : n.isValidChar then some (Char.ofNatAux n h) else none

/-- The escape after a backslash: its character and what follows it. -/
private def escape? : List Char → Option (Char × List Char)
  | 'b' :: rest => some ('\x08', rest)
  | 't' :: rest => some ('\t', rest)
  | 'n' :: rest => some ('\n', rest)
  | 'f' :: rest => some ('\x0c', rest)
  | 'r' :: rest => some ('\r', rest)
  | 'e' :: rest => some ('\x1b', rest)
  | '"' :: rest => some ('"', rest)
  | '\\' :: rest => some ('\\', rest)
  | 'x' :: rest => digits 2 rest
  | 'u' :: rest => digits 4 rest
  | 'U' :: rest => digits 8 rest
  | _ => none
where
  /-- A character named by so many digits. -/
  digits (n : Nat) (cs : List Char) : Option (Char × List Char) :=
    if cs.length < n then none else (codePoint? (cs.take n)).map fun c => (c, cs.drop n)

/-- The rest of a text in single quotes. -/
private def literal? (acc : List Char) : List Char → Option (String × List Char)
  | [] => none
  | c :: rest =>
    if c = '\'' then some (String.ofList acc.reverse, rest)
    else if isControl c then none
    else literal? (c :: acc) rest

/-- The rest of a text in double quotes. -/
private def basic? : Nat → List Char → List Char → Option (String × List Char)
  | 0, _, _ => none
  | _ + 1, _, [] => none
  | fuel + 1, acc, c :: rest =>
    if c = '"' then some (String.ofList acc.reverse, rest)
    else if c = '\\' then do
      let (e, rest) ← escape? rest
      basic? fuel (e :: acc) rest
    else if isControl c then none
    else basic? fuel (c :: acc) rest

/-- After the closing three quotes of a text up to two more quotes still belong to it. -/
private def closing (quote : Char) (acc : List Char) (rest : List Char) : String × List Char :=
  match rest with
  | a :: b :: more =>
    if a = quote && b = quote then (String.ofList (b :: a :: acc).reverse, more)
    else if a = quote then (String.ofList (a :: acc).reverse, b :: more)
    else (String.ofList acc.reverse, rest)
  | [a] =>
    if a = quote then (String.ofList (a :: acc).reverse, []) else (String.ofList acc.reverse, rest)
  | [] => (String.ofList acc.reverse, [])

private def startsWithThree (quote : Char) : List Char → Bool
  | a :: b :: c :: _ => a = quote && b = quote && c = quote
  | _ => false

/-- The rest of a text of several lines in single quotes. Its line breaks are kept as they are written. -/
private def longLiteral? : Nat → List Char → List Char → Option (String × List Char)
  | 0, _, _ => none
  | fuel + 1, acc, cs =>
    if startsWithThree '\'' cs then some (closing '\'' acc (cs.drop 3))
    else match break? cs with
      | some (br, rest) => longLiteral? fuel (br ++ acc) rest
      | none =>
        match cs with
        | [] => none
        | c :: rest => if isControl c then none else longLiteral? fuel (c :: acc) rest

/-- Skips the line break that a backslash hides, and all blanks and line breaks after it. -/
private def hiddenBreak? (cs : List Char) : Option (List Char) := do
  let rest ← newline? (skipBlanks cs)
  return skipAll rest
where
  /-- Skips blanks and line breaks. -/
  skipAll : List Char → List Char
    | '\r' :: '\n' :: rest => skipAll rest
    | c :: rest => if isBlank c || c = '\n' then skipAll rest else c :: rest
    | [] => []

/-- The rest of a text of several lines in double quotes. Its line breaks are kept as they are written. -/
private def longBasic? : Nat → List Char → List Char → Option (String × List Char)
  | 0, _, _ => none
  | fuel + 1, acc, cs =>
    if startsWithThree '"' cs then some (closing '"' acc (cs.drop 3))
    else match break? cs with
      | some (br, rest) => longBasic? fuel (br ++ acc) rest
      | none =>
        match cs with
        | [] => none
        | '\\' :: rest =>
          match hiddenBreak? rest with
          | some rest => longBasic? fuel acc rest
          | none =>
            match escape? rest with
            | some (e, rest) => longBasic? fuel (e :: acc) rest
            | none => none
        | c :: rest => if isControl c then none else longBasic? fuel (c :: acc) rest

/-- Drops the line break right after three opening quotes. -/
private def opened (cs : List Char) : List Char := (newline? cs).getD cs

/-- A text, if a quote stands here. -/
private def text? (fuel : Nat) (cs : List Char) : Option (Option (String × List Char)) :=
  match cs with
  | '"' :: rest =>
    some (if startsWithThree '"' cs then longBasic? fuel [] (opened (cs.drop 3)) else basic? fuel [] rest)
  | '\'' :: rest =>
    some (if startsWithThree '\'' cs then longLiteral? fuel [] (opened (cs.drop 3)) else literal? [] rest)
  | _ => none

private def isBareChar (c : Char) : Bool := c.isAlphanum || c = '_' || c = '-'

/-- One part of a key. -/
private def simpleKey? (fuel : Nat) (cs : List Char) : Option (String × List Char) :=
  match cs with
  | '"' :: rest => if startsWithThree '"' cs then none else basic? fuel [] rest
  | '\'' :: rest => if startsWithThree '\'' cs then none else literal? [] rest
  | _ =>
    let word := cs.takeWhile isBareChar
    if word.isEmpty then none else some (String.ofList word, cs.drop word.length)

/-- The parts of a key, of which so many may still come: those but the last, the last, and what follows. -/
private def keyParts? (fuel : Nat) : Nat → List String → List Char → Option (List String × String × List Char)
  | 0, _, _ => none
  | parts + 1, acc, cs => do
    let (name, rest) ← simpleKey? fuel cs
    match skipBlanks rest with
    | '.' :: more => keyParts? fuel parts (name :: acc) (skipBlanks more)
    | more => some (acc.reverse, name, more)

/-- A key: its parts but the last, the last part, and what follows. -/
private def key? (fuel : Nat) (cs : List Char) : Option (List String × String × List Char) :=
  keyParts? fuel maxDepth [] cs

/-- The word that a scalar is. A date may go on with a time after one blank. -/
private def word (cs : List Char) : List Char × List Char :=
  let w := cs.takeWhile isWordChar
  let rest := cs.drop w.length
  if date? w == some [] then
    match rest with
    | ' ' :: more =>
      let t := more.takeWhile isWordChar
      if t.isEmpty then (w, rest) else (w ++ ' ' :: t, more.drop t.length)
    | _ => (w, rest)
  else (w, rest)

mutual

/-- A value, in which lists and inline tables may be nested so deep. -/
private def value? : Nat → Nat → List Char → Option (Item × List Char)
  | 0, _, _ => none
  | fuel + 1, depth, cs =>
    match text? (fuel + 1) cs with
    | some text => text.map fun (s, rest) => (.word (some (.str s)), rest)
    | none =>
      match cs with
      | '[' :: rest => if depth = 0 then none else items? fuel (depth - 1) [] rest
      | '\x7b' :: rest => if depth = 0 then none else fields? fuel (depth - 1) .empty rest
      | _ =>
        let (w, rest) := word cs
        (scalar? w).map fun i => (i, rest)

/-- The items of a list up to its closing bracket. -/
private def items? : Nat → Nat → List Item → List Char → Option (Item × List Char)
  | 0, _, _, _ => none
  | fuel + 1, depth, acc, cs => do
    match ← skipLines? (fuel + 1) cs with
    | ']' :: rest => some (.list acc.reverse, rest)
    | cs =>
      let (i, rest) ← value? fuel depth cs
      match ← skipLines? (fuel + 1) rest with
      | ',' :: rest => items? fuel depth (i :: acc) rest
      | ']' :: rest => some (.list (i :: acc).reverse, rest)
      | _ => none

/-- The fields of an inline table up to its closing brace. Its lines may end between any two of its parts, but not
inside a key. -/
private def fields? : Nat → Nat → Document → List Char → Option (Item × List Char)
  | 0, _, _, _ => none
  | fuel + 1, depth, acc, cs => do
    match ← skipLines? (fuel + 1) cs with
    | '\x7d' :: rest => some (acc.toItem, rest)
    | cs =>
      let (path, name, rest) ← key? (fuel + 1) cs
      let '=' :: rest ← skipLines? (fuel + 1) rest | none
      let (i, rest) ← value? fuel depth (← skipLines? (fuel + 1) rest)
      let acc ← acc.put? [] path name i
      match ← skipLines? (fuel + 1) rest with
      | ',' :: rest => fields? fuel depth acc rest
      | '\x7d' :: rest => some (acc.toItem, rest)
      | _ => none

end

/-- A header: whether it opens one more element of a list, its path, its last part, and what follows. -/
private def header? (fuel : Nat) (cs : List Char) : Option (Bool × List String × String × List Char) := do
  let (element, cs) := match cs with
    | '[' :: rest => (true, rest)
    | _ => (false, cs)
  let (path, name, rest) ← key? fuel (skipBlanks cs)
  match rest with
  | ']' :: rest =>
    if element then
      match rest with
      | ']' :: rest => some (true, path, name, rest)
      | _ => none
    else some (false, path, name, rest)
  | _ => none

/-- The lines of a file, below the header `header`. -/
private def lines? : Nat → List String → Document → List Char → Option Document
  | 0, _, _, _ => none
  | fuel + 1, header, d, cs => do
    match ← skipLines? (fuel + 1) cs with
    | [] => some d
    | '[' :: rest =>
      let (element, path, name, rest) ← header? (fuel + 1) rest
      let d ← if element then d.openElement? path name else d.openTable? path name
      lines? fuel (path ++ [name]) d (← endOfLine? rest)
    | cs =>
      let (path, name, rest) ← key? (fuel + 1) cs
      let '=' :: rest := rest | none
      let (i, rest) ← value? (2 * fuel + 2) maxDepth (skipBlanks rest)
      lines? fuel header (← d.put? header path name i) (← endOfLine? rest)

/-- The table that a text defines. A mark at the start that tells the order of bytes is skipped. -/
def parse? (s : String) : Option Item :=
  let cs := match s.toList with
    | '\uFEFF' :: rest => rest
    | cs => cs
  (lines? (cs.length + 1) [] .empty cs).map Document.toItem

end Attendant.Toml

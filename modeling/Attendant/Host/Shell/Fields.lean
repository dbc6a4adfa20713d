import Attendant.Host.Files
import Attendant.Host.Shell.State
import Attendant.Host.Shell.Sum

/-!
# From words to fields

What words become when a command is run: parameters are replaced by their values, commands by their outputs, sums are
worked out, and what was not quoted is taken apart at separators and, if it is a pattern, replaced by the names of files
that match it.

Commands in a word are run by somebody else: `Expand` stops at the first whose output is not there yet, and is begun again
when it is.
-/

namespace Attendant.Host.Shell

/-- Why words cannot be replaced by what they stand for: the output of a command is wanted, in the state that the shell has
come to, or something is wrong. -/
inductive Stop where
  | wanted (body : Command) (s : State)
  | fault (message : List Char)

/-- What the replacement of words goes by: the files, the directory, and outputs of commands that have not been used
yet. -/
structure Scene where
  files : Files
  here : Path
  shell : State
  outputs : List (List Char)

/-- A replacement of words. -/
abbrev Expand := StateT Scene (Except Stop)

/-- How a part of a word came into it: quoted, as it is written, or as a value that has been found. -/
inductive Origin where
  | quoted
  | written
  | found
  deriving DecidableEq, Repr

/-- A part of a word, or the end of a field. -/
inductive Part where
  | text (s : List Char) (origin : Origin)
  | gap
  deriving DecidableEq, Repr

/-! ### Fields -/

/-- Fields that are being put together: those that are complete, the last first, and the one that is open. `isSoft` says
that the last one has been closed by a blank, so that a separator after it closes nothing more. -/
structure Fields where
  complete : List (List Glyph) := []
  current : Option (List Glyph) := none
  isSoft : Bool := false
  deriving Repr, Inhabited

namespace Fields

/-- Adds to the open field. -/
def add (f : Fields) (s : List Glyph) : Fields := { f with current := some (f.current.getD [] ++ s), isSoft := false }

/-- Closes the open field. -/
def cut (f : Fields) : Fields :=
  match f.current with
  | some s => { complete := s :: f.complete }
  | none => f

/-- Whether a separator is a blank: such ones in a row count as one. -/
def isSpace (c : Char) : Bool := c == ' ' || c == '\t' || c == '\n'

/-- Adds a value that is taken apart at separators. -/
def addFound (separators : List Char) (f : Fields) (s : List Char) : Fields :=
  s.foldl (fun f c =>
    if !separators.contains c then f.add [(c, false)]
    else if isSpace c then
      match f.current with
      | some _ => { f.cut with isSoft := true }
      | none => f
    else
      match f.current with
      | some _ => f.cut
      | none => if f.isSoft then { f with isSoft := false } else { f with complete := [] :: f.complete }) f

/-- Adds a part of a word. -/
def addPart (separators : List Char) (f : Fields) : Part → Fields
  | .gap => f.cut
  | .text s .quoted => f.add (s.map (·, true))
  | .text s .written => if s.isEmpty then f else f.add (s.map (·, false))
  | .text s .found => f.addFound separators s

/-- All fields in order. -/
def toList (f : Fields) : List (List Glyph) := f.cut.complete.reverse

end Fields

/-! ### Names of files -/

/-- The pieces of a pattern between slashes. -/
private def pathPieces (s : List Glyph) : List (List Glyph) :=
  s.foldr (fun g pieces =>
    if g.1 == '/' then [] :: pieces
    else match pieces with
      | piece :: rest => (g :: piece) :: rest
      | [] => [[g]]) [[]]

/-- The paths that match a pattern; `start` is the text of what has been matched. -/
private def matchingPaths (fs : Files) (here : Path) : List (List Glyph) → List Char → List (List Char)
  | [], start => [start]
  | piece :: rest, start =>
    let after (name : List Char) : List Char := if rest.isEmpty then start ++ name else start ++ name ++ ['/']
    if !isPattern piece then
      let path := after (piece.map (·.1))
      if rest.isEmpty && !piece.isEmpty && !fs.exists? (Path.seenFrom ⟨toBytes path⟩ here) then []
      else matchingPaths fs here rest path
    else
      let pattern := patternOf piece
      let dir := Path.seenFrom ⟨toBytes (if start.isEmpty then ['.'] else start)⟩ here
      let showsHidden := pattern.head? == some (.char '.')
      let names := match fs.find dir with
        | .ok (name, some .directory) =>
          (if showsHidden then [['.'], ['.', '.']] else []) ++ (fs.list name).map ofBytes
        | _ => []
      let chosen := names.filter fun name =>
        (showsHidden || name.head? != some '.') && matchesPattern pattern name &&
          (rest.isEmpty || match fs.entry (Path.seenFrom ⟨toBytes (start ++ name)⟩ here) with
            | .ok .directory => true
            | _ => false)
      chosen.flatMap fun name => matchingPaths fs here rest (after name)

/-- A field, or the names of files that match it if it is a pattern. -/
private def globbed (fs : Files) (here : Path) (s : List Glyph) : List (List Char) :=
  let plain := s.map (·.1)
  if !isPattern s then [plain]
  else
    match matchingPaths fs here (pathPieces s) [] with
    | [] => [plain]
    | paths => paths

/-! ### Words -/

namespace Expand

/-- Something is wrong. -/
def fail {α : Type} (message : String) : Expand α := throw (.fault message.toList)

/-- Something is wrong with a name. -/
def failAt {α : Type} (name : List Char) (message : String) : Expand α :=
  throw (.fault (name ++ ": ".toList ++ message.toList))

/-- The next output of a command. -/
def output (body : Command) : Expand (List Char) := do
  let scene ← get
  match scene.outputs with
  | text :: rest =>
    set { scene with outputs := rest }
    return text
  | [] => throw (.wanted body scene.shell)

/-- Gives a variable a value. -/
def assign (name value : List Char) : Expand Unit := do
  if (← get).shell.isReadOnly name then failAt name "is read only"
  modify fun scene => { scene with shell := scene.shell.assign name value }

end Expand

/-- The text of parts that are not taken apart; the parameters have the first separator between them. -/
private def flatParts (separators : List Char) (parts : List Part) : List Char :=
  parts.flatMap fun
    | .text s _ => s
    | .gap => separators.take 1

/-- The characters of parts, with whether they are quoted. -/
private def glyphs (separators : List Char) (parts : List Part) : List Glyph :=
  parts.flatMap fun
    | .text s origin => s.map (·, origin = .quoted)
    | .gap => (separators.take 1).map (·, true)

/-- The home directory that a text with a tilde at its start leads to, and the rest of the text. -/
private def home? (s : State) (isLast : Bool) (text : List Char) : Option (List Char × List Char) :=
  match text with
  | '~' :: rest =>
    let user := rest.takeWhile fun c => c != '/' && c != ':'
    let after := rest.drop user.length
    if after.isEmpty && !isLast then none
    else
      match String.ofList user with
      | "" => (s.value? "HOME".toList).map (·, after)
      | "root" => some ("/root".toList, after)
      | "nobody" => some ("/nonexistent".toList, after)
      | _ => none
  | _ => none

/-- The parts of a text at the start of a word, where a tilde is special; with `afterColons` it is so behind each
colon, too. -/
private def tildeParts (s : State) (afterColons isLast : Bool) : Nat → List Char → List Part
  | 0, text => [.text text .written]
  | fuel + 1, text =>
    let (start, text) : List Part × List Char := match home? s isLast text with
      | some (dir, rest) => ([.text dir .quoted], rest)
      | none => ([], text)
    let piece := text.takeWhile (· != ':')
    match afterColons, text.drop piece.length with
    | true, ':' :: rest =>
      start ++ .text (piece ++ [':']) .written :: tildeParts s afterColons isLast fuel rest
    | _, _ => start ++ [.text text .written]

/-- How a tilde is read in a word. -/
inductive Tilde where
  | plain
  | atStart
  | inAssignment
  deriving DecidableEq, Repr

/-- All parameters as one text. -/
private def joinedParams (s : State) : List Char :=
  match s.params with
  | [] => []
  | first :: rest => first ++ rest.flatMap fun p => s.separators.take 1 ++ p

mutual

/-- The parts of a piece of a word. -/
private def pieceParts : Nat → Piece → Expand (List Part)
  | 0, _ => Expand.fail "too deep"
  | depth + 1, piece => do
    let found (isQuoted : Bool) (s : List Char) : Part := .text s (if isQuoted then .quoted else .found)
    match piece with
    | .text s isQuoted => return [.text s (if isQuoted then .quoted else .written)]
    | .output body isQuoted => return [found isQuoted (← Expand.output body)]
    | .sum pieces isQuoted =>
      let text := flatParts (← get).shell.separators (← wordParts depth .plain pieces)
      let trouble (message : String) : Expand Int :=
        throw (.fault ("arithmetic expression: ".toList ++ message.toList ++ ": \"".toList ++ text ++ ['"']))
      let s := (← get).shell
      let n ← match Sum.parse? text with
        | .error message => trouble message
        | .ok sum =>
          match sum.value (fun name => (s.value? name).getD []) [] with
          | .error .divisionByZero => trouble "division by zero"
          | .error (.illegalNumber s) => throw (.fault ("Illegal number: ".toList ++ s))
          | .ok (n, news) =>
            for (name, value) in news.reverse do
              Expand.assign name (toString value).toList
            pure n
      return [found isQuoted (toString n).toList]
    | .param name use isQuoted => paramParts depth name use isQuoted

/-- The parts of a parameter. -/
private def paramParts : Nat → List Char → Use → Bool → Expand (List Part)
  | 0, _, _, _ => Expand.fail "too deep"
  | depth + 1, name, use, isQuoted => do
    let s := (← get).shell
    let isAll := name == ['@'] || name == ['*']
    let origin : Origin := if isQuoted then .quoted else .found
    let value := if isAll then (if s.params.isEmpty then none else some (joinedParams s)) else s.value? name
    let strict : Expand Unit := do
      if value.isNone && !isAll && s.has 'u' then Expand.failAt name "parameter not set"
    let shown : List Part :=
      if isAll && !(isQuoted && name == ['*']) then
        (s.params.map fun p => Part.text p origin).intersperse .gap
      else if isAll then [.text (joinedParams s) origin]
      else [.text (value.getD []) origin]
    match use with
    | .value => do
      strict
      return shown
    | .length => do
      strict
      return [.text (digits (value.getD []).length) origin]
    | .strip atEnd longest pattern => do
      strict
      let parts ← wordParts depth .atStart pattern
      let pattern := patternOf (glyphs s.separators parts)
      return [.text (stripped atEnd longest pattern (value.getD [])) origin]
    | .orElse default ifEmpty word =>
      let isThere := match value with
        | some v => !(ifEmpty && v.isEmpty)
        | none => false
      let stand : Expand (List Part) := do
        let parts ← wordParts depth .atStart word
        return parts.map fun
          | .text s .written => .text s origin
          | part => part
      match default with
      | .stand => if isThere then return shown else stand
      | .instead => if isThere then stand else return [.text [] (if isQuoted then .quoted else .written)]
      | .assign =>
        if isThere then return shown
        else
          if !isName name then Expand.failAt name "bad variable name"
          let text := flatParts s.separators (← wordParts depth .atStart word)
          Expand.assign name text
          return [.text text origin]
      | .complain =>
        if isThere then return shown
        else
          let text := flatParts s.separators (← wordParts depth .atStart word)
          if text.isEmpty then
            Expand.failAt name (if ifEmpty then "parameter not set or null" else "parameter not set")
          else throw (.fault (name ++ ": ".toList ++ text))
    | .senseless => Expand.fail "Bad substitution"

/-- The parts of a word. -/
private def wordParts : Nat → Tilde → Word → Expand (List Part)
  | 0, _, _ => Expand.fail "too deep"
  | _ + 1, _, [] => return []
  | depth + 1, tilde, piece :: rest => do
    let start ← match tilde, piece with
      | .plain, _ => pieceParts depth piece
      | _, .text s false =>
        pure (tildeParts (← get).shell (tilde = .inAssignment) rest.isEmpty (s.length + 1) s)
      | _, _ => pieceParts depth piece
    let more ← rest.mapM fun piece =>
      match tilde, piece with
      | .inAssignment, .text s false => do
        match s.span (· != ':') with
        | (before, ':' :: after) =>
          return .text (before ++ [':']) .written :: tildeParts (← get).shell true false (after.length + 1) after
        | _ => return [.text s .written]
      | _, _ => pieceParts depth piece
    return start ++ more.flatten

end

/-- How deep words may nest. -/
private def wordDepth : Nat := 100000

namespace Expand

/-- The text that a word becomes if it is not taken apart. -/
def flat (tilde : Tilde) (word : Word) : Expand (List Char) := do
  let parts ← wordParts wordDepth tilde word
  return flatParts (← get).shell.separators parts

/-- The pattern that a word is. -/
def pattern (word : Word) : Expand (List PatternItem) := do
  let parts ← wordParts wordDepth .atStart word
  return patternOf (glyphs (← get).shell.separators parts)

/-- The fields that a word becomes. -/
def fields (word : Word) : Expand (List (List Char)) := do
  let parts ← wordParts wordDepth .atStart word
  let scene ← get
  let fields := (parts.foldl (Fields.addPart scene.shell.separators) {}).toList
  if scene.shell.has 'f' then return fields.map fun field => field.map (·.1)
  else return fields.flatMap (globbed scene.files scene.here)

/-- The fields of the words of a command. Where a command assigns, the words that look like assignments are not taken
apart. -/
def arguments (assigning : List Char → Bool) : List Word → Expand (List (List Char))
  | [] => return []
  | word :: rest => do
    let first ← fields word
    let isAssigning := match first with
      | [name] => assigning name
      | _ => false
    let more ← rest.mapM fun word =>
      match isAssigning, word with
      | true, .text s false :: _ =>
        if (assignment? s).isSome then do return [← flat .inAssignment word] else fields word
      | _, _ => fields word
    return first ++ more.flatten

/-- The outcome of a replacement in a shell: the value and the new state, or why there is none. -/
def run {α : Type} (x : Expand α) (files : Files) (here : Path) (s : State) (outputs : List (List Char)) :
    Except Stop (α × State) :=
  (StateT.run x { files, here, shell := s, outputs }).map fun (a, scene) => (a, scene.shell)

end Expand

end Attendant.Host.Shell

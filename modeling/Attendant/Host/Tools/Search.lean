import Attendant.Host.Tools.Basic
import Attendant.Host.Tools.Regex

/-!
# Searching

The program that chooses the lines in which a pattern occurs.
-/

namespace Attendant.Host.Tools

open Shell (ofBytes toBytes)

private def grepTable : OptionTable :=
  { program := "grep", plain := "EFGPqcvinlLohHsxwrRazZbIuyU", valued := "efmABCdD"
    long := [("extended-regexp", 'E'), ("fixed-strings", 'F'), ("basic-regexp", 'G'), ("perl-regexp", 'P'),
      ("quiet", 'q'), ("silent", 'q'), ("count", 'c'), ("invert-match", 'v'), ("ignore-case", 'i'), ("line-number", 'n'),
      ("files-with-matches", 'l'), ("files-without-match", 'L'), ("only-matching", 'o'), ("no-filename", 'h'),
      ("with-filename", 'H'), ("no-messages", 's'), ("line-regexp", 'x'), ("word-regexp", 'w'), ("recursive", 'r'),
      ("text", 'a'), ("regexp", 'e'), ("file", 'f'), ("max-count", 'm'), ("after-context", 'A'), ("before-context", 'B'),
      ("context", 'C'), ("line-buffered", 'u'), ("color", 'U'), ("colour", 'U')] }

/-- The expression that some patterns make together. -/
private def pattern? (program : String) (o : Options) (patterns : List (List Char)) : Except String Regex := do
  let isFixed := o.has 'F' || program == "fgrep"
  let dialect : Regex.Dialect := if o.has 'E' || o.has 'P' || program == "egrep" then .extended else .basic
  let parsed ← patterns.mapM fun p => if isFixed then .ok (Regex.ofText p) else Regex.parse? dialect p
  let framed (r : Regex) : Regex :=
    if o.has 'x' then .seq .lineStart (.seq r .lineEnd)
    else if o.has 'w' then .seq .noWordBefore (.seq r .noWordAfter)
    else r
  match parsed.map framed with
  | [] => return .oneOf false []
  | first :: rest => return rest.foldl Regex.either first

/-- All matches in a line, one behind the other, without the empty ones. -/
private def matchesIn (ignoresCase : Bool) (r : Regex) : Nat → Regex.Place → List (List Char)
  | 0, _ => []
  | fuel + 1, p =>
    match r.find? ignoresCase p with
    | none => []
    | some (start, stop) =>
      if stop.index = start.index then
        (if start.rest.isEmpty then [] else matchesIn ignoresCase r fuel start.next)
      else start.rest.take (stop.index - start.index) :: matchesIn ignoresCase r fuel stop

/-- The files below a directory. -/
private def filesBelow (fs : Files) (here : Path) : Nat → List Char → List (List Char)
  | 0, _ => []
  | fuel + 1, path =>
    match fs.find (Path.seenFrom ⟨toBytes path⟩ here) with
    | .ok (name, some .directory) =>
      (fs.list name).flatMap fun n =>
        filesBelow fs here fuel (if path.getLast? == some '/' then path ++ ofBytes n else path ++ '/' :: ofBytes n)
    | .ok (_, some (.file _)) => [path]
    | _ => []

/-- The lines that are shown, by their numbers, with the chosen ones marked; gaps between them are marked by a number of
nought. -/
private def withContext (before after : Nat) (chosen : List Nat) (count : Nat) : List (Nat × Bool) :=
  let shown := (List.range count).filterMap fun i =>
    let n := i + 1
    if chosen.contains n then some (n, true)
    else if chosen.any fun c => (n < c && c ≤ n + before) || (c < n && n ≤ c + after) then some (n, false)
    else none
  if before = 0 && after = 0 then shown
  else (shown.foldl (fun (out : List (Nat × Bool)) line =>
    match out with
    | last :: _ => if last.1 + 1 < line.1 then line :: (0, false) :: out else line :: out
    | [] => [line]) []).reverse

/-- How lines are chosen and shown. -/
private structure Search where
  program : String
  options : Options
  regex : Regex
  isNamed : Bool

namespace Search

private def has (s : Search) (letter : Char) : Bool := s.options.has letter

private def ignoresCase (s : Search) : Bool := s.has 'i' || s.has 'y'

/-- Whether a line is chosen. -/
private def isChosen (s : Search) (line : List Char) : Bool := s.regex.occursIn s.ignoresCase line != s.has 'v'

/-- How many lines are wanted at most. -/
private def most (s : Search) : Option Nat := (s.options.value? 'm').bind number?

private def number (s : Search) (letter : Char) : Nat :=
  (((s.options.value? letter) <|> (s.options.value? 'C')).bind number?).getD 0

/-- The numbers of the lines that are chosen. -/
private def chosen (s : Search) (ls : List (List Char)) : List Nat :=
  let all := (List.range ls.length).filter fun i => s.isChosen (ls[i]?.getD [])
  let numbers := all.map (· + 1)
  match s.most with
  | some n => numbers.take n
  | none => numbers

/-- What is shown of a text in which some lines have been chosen. -/
private def shown (s : Search) (name : List Char) (ls : List (List Char)) (isBinary : Bool) (chosen : List Nat) :
    List Char :=
  let found := !chosen.isEmpty
  let line (n : Nat) : List Char := ls[n - 1]?.getD []
  let lead (mark : Char) (n : Nat) : List Char :=
    (if s.isNamed then name ++ [mark] else []) ++ if s.has 'n' then Shell.digits n ++ [mark] else []
  if s.has 'q' then []
  else if s.has 'c' then (if s.isNamed then name ++ [':'] else []) ++ Shell.digits chosen.length ++ ['\n']
  else if s.has 'l' then (if found then name ++ ['\n'] else [])
  else if s.has 'L' then (if found then [] else name ++ ['\n'])
  else if isBinary && !s.has 'a' then (if found then "Binary file ".toList ++ name ++ " matches\n".toList else [])
  else if s.has 'o' then
    if s.has 'v' then []
    else chosen.flatMap fun n =>
      (matchesIn s.ignoresCase s.regex ((line n).length + 1) { rest := line n }).flatMap fun found =>
        lead ':' n ++ found ++ ['\n']
  else
    (withContext (s.number 'B') (s.number 'A') chosen ls.length).flatMap fun (n, isOne) =>
      if n = 0 then "--\n".toList else lead (if isOne then ':' else '-') n ++ line n ++ ['\n']

/-- What is written about a source, and whether a line of it has been chosen. -/
private def judgeOne (s : Search) (source : Source) : Writes × Option Bool :=
  match source.content with
  | .error fault =>
    (if s.has 's' then [] else [(2, toBytes (message s.program [source.name, ": ".toList, faultText fault]))], none)
  | .ok bytes =>
    let ls := (lines (ofBytes bytes)).1
    let name := if source.name == ['-'] then "(standard input)".toList else source.name
    let chosen := s.chosen ls
    ([(1, toBytes (s.shown name ls (bytes.contains 0) chosen))], some !chosen.isEmpty)

/-- The verdict about all sources. -/
private def judge (s : Search) (sources : List Source) : Verdict :=
  let results := sources.map s.judgeOne
  let found := results.any fun r => r.2 == some true
  let failed := results.any fun r => r.2.isNone
  { writes := results.flatMap fun r => r.1
    code := if failed && !(found && s.has 'q') then 2 else if found != (s.has 'L' && !s.has 'q') then 0 else 1 }

/-- Whether what has been read decides the search. -/
private def enough (s : Search) (held : List UInt8) : Bool :=
  match if s.has 'q' || s.has 'l' then some 1 else s.most with
  | some n =>
    let (ls, isEnded) := lines (ofBytes held)
    n ≤ (s.chosen (if isEnded then ls else ls.dropLast)).length
  | none => false

end Search

/-- The program that chooses lines in which a pattern occurs. -/
def grep (setting : Setting) (program : String) (args : List (List Char)) : Job :=
  { grepTable with program }.job 2 args fun o =>
    let textLines (s : List Char) : List (List Char) := (lines (s ++ ['\n'])).1
    let fromFiles := (o.values 'f').flatMap fun name =>
      ((setting.read? name).toOption.map fun s => (lines s).1).getD []
    let hasGiven := o.has 'e' || o.has 'f'
    let patterns := if hasGiven then (o.values 'e').flatMap textLines ++ fromFiles
      else (o.operands.take 1).flatMap textLines
    let operands := if hasGiven then o.operands else o.operands.drop 1
    if !hasGiven && o.operands.isEmpty then
      .finish (complained ("Usage: " ++ program ++ " [OPTION]... PATTERNS [FILE]...\nTry '" ++ program ++
        " --help' for more information.\n").toList 2)
    else
      match pattern? program o patterns with
      | .error text => .finish (complained (message program [text.toList]) 2)
      | .ok regex =>
        let isRecursive := o.has 'r' || o.has 'R'
        let operands := if isRecursive then
            (if operands.isEmpty then [['.']] else operands).flatMap fun path =>
              if setting.isDirectory path then filesBelow setting.files setting.here 64 path else [path]
          else operands
        let isNamed := !o.has 'h' && (o.has 'H' || 1 < operands.length || isRecursive)
        let search : Search := { program, options := o, regex, isNamed }
        .digest (if operands.isEmpty then [['-']] else operands) search.judge search.enough

end Attendant.Host.Tools

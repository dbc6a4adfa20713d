import Attendant.Host.Shell.Format
import Attendant.Host.Tools.Basic
import Attendant.Host.Tools.Regex

/-!
# Editing streams

The program that edits a text line by line. A script is a list of commands, each with the lines that it is for; it is run
for every line, with the line in one place and another place where texts are held.

* `Edit.parse?` reads a script;
* `Edit.run` edits a text.
-/

namespace Attendant.Host.Tools

open Shell (ofBytes toBytes)

namespace Edit

/-- A line that is meant: by its number, the last, every so-manieth from one on, or one in which something occurs. -/
inductive Address where
  | line (n : Nat)
  | last
  | step (first step : Nat)
  | pattern (r : Option Regex) (ignoresCase : Bool)
  deriving Repr, Inhabited

/-- Where a range of lines ends: at an address, or so many lines on, or at a multiple of a number. -/
inductive Stop where
  | address (a : Address)
  | plus (n : Nat)
  | multiple (n : Nat)
  deriving Repr, Inhabited

/-- A part of what a match is replaced by: a text, a group, or a change of case from here on. -/
inductive Piece where
  | text (s : List Char)
  | group (n : Nat)
  | case (letter : Char)
  deriving Repr, Inhabited

/-- What a command does. -/
inductive Verb where
  | opening (stop : Nat)
  | closing
  | label (name : List Char)
  | branch (letter : Char) (name : List Char)
  | simple (letter : Char)
  | quit (letter : Char) (code : Nat)
  | text (letter : Char) (s : List Char)
  | substitute (r : Option Regex) (pieces : List Piece) (isGlobal prints ignoresCase : Bool) (from' : Nat)
      (file : Option (List Char))
  | translate (table : List (Char × Char))
  | read (file : List Char)
  | write (file : List Char)
  deriving Repr, Inhabited

/-- A command with the lines that it is for. -/
structure Command where
  first : Option Address := none
  stop : Option Stop := none
  isNegated : Bool := false
  verb : Verb
  deriving Repr, Inhabited

/-! ### Reading -/

private def skipBlanks (s : List Char) : List Char := s.dropWhile Shell.isBlank

private def readNumber (s : List Char) : Nat × List Char :=
  let digits := s.takeWhile Char.isDigit
  ((number? digits).getD 0, s.drop digits.length)

/-- The text up to a delimiter that no backslash precedes, and the rest. A backslash before the delimiter is removed, and
one before an "n" makes a line end where that is wanted. -/
private def delimited (stop : Char) (inBracket : Bool) : List Char → Option (List Char × List Char)
  | [] => none
  | '\\' :: c :: rest =>
    (delimited stop false rest).map fun (s, rest) =>
      (if c == stop then c :: s else '\\' :: c :: s, rest)
  | c :: rest =>
    if c == stop && !inBracket then some ([], rest)
    else (delimited stop false rest).map fun (s, rest) => (c :: s, rest)

/-- A regular expression; none stands for the last one. -/
private def readRegex (dialect : Regex.Dialect) (s : List Char) : Except String (Option Regex) :=
  if s.isEmpty then .ok none else (Regex.parse? dialect s).map some

/-- The address at the start of a text, and the rest. -/
private def address? (dialect : Regex.Dialect) (s : List Char) : Except String (Option (Address × List Char)) := do
  let pattern (stop : Char) (rest : List Char) : Except String (Option (Address × List Char)) :=
    match delimited stop false rest with
    | none => .error "unterminated address regex"
    | some (text, rest) => do
      let r ← readRegex dialect text
      match rest with
      | 'I' :: rest => return some (.pattern r true, rest)
      | rest => return some (.pattern r false, rest)
  match s with
  | '$' :: rest => return some (.last, rest)
  | '/' :: rest => pattern '/' rest
  | '\\' :: stop :: rest => pattern stop rest
  | c :: _ =>
    if c.isDigit then
      let (n, rest) := readNumber s
      match rest with
      | '~' :: rest =>
        let (step, rest) := readNumber rest
        return some (.step n step, rest)
      | rest => return some (.line n, rest)
    else return none
  | [] => return none

/-- The pieces of a replacement. -/
private def replacement : List Char → List Char → List Piece
  | held, [] => if held.isEmpty then [] else [.text held.reverse]
  | held, '&' :: rest => .text held.reverse :: .group 0 :: replacement [] rest
  | held, '\\' :: c :: rest =>
    if c.isDigit then .text held.reverse :: .group (c.toNat - 48) :: replacement [] rest
    else if c == 'n' then replacement ('\n' :: held) rest
    else if c == 't' then replacement ('\t' :: held) rest
    else if c == 'r' then replacement ('\r' :: held) rest
    else if "LUluE".toList.contains c then .text held.reverse :: .case c :: replacement [] rest
    else replacement (c :: held) rest
  | held, c :: rest => replacement (c :: held) rest

/-- The text of a command that has one: up to the first line end without a backslash before it. -/
private def textLine : List Char → List Char × List Char
  | [] => ([], [])
  | '\\' :: c :: rest =>
    let (s, rest) := textLine rest
    (c :: s, rest)
  | '\n' :: rest => ([], rest)
  | c :: rest =>
    let (s, rest) := textLine rest
    (c :: s, rest)

/-- The flags of a substitution. -/
private structure Flags where
  isGlobal : Bool := false
  prints : Bool := false
  ignoresCase : Bool := false
  from' : Nat := 1
  file : Option (List Char) := none

private def flags : Nat → Flags → List Char → Flags × List Char
  | 0, f, s => (f, s)
  | fuel + 1, f, s =>
    match s with
    | 'g' :: rest => flags fuel { f with isGlobal := true } rest
    | 'p' :: rest => flags fuel { f with prints := true } rest
    | 'i' :: rest => flags fuel { f with ignoresCase := true } rest
    | 'I' :: rest => flags fuel { f with ignoresCase := true } rest
    | 'm' :: rest => flags fuel f rest
    | 'M' :: rest => flags fuel f rest
    | 'w' :: rest =>
      let file := (skipBlanks rest).takeWhile (· != '\n')
      ({ f with file := some file }, (skipBlanks rest).drop file.length)
    | c :: _ =>
      if c.isDigit then
        let (n, rest) := readNumber s
        flags fuel { f with from' := n } rest
      else (f, s)
    | [] => (f, [])

/-- The verb at the start of a text, and the rest. -/
private def verb (dialect : Regex.Dialect) (s : List Char) : Except String (Verb × List Char) := do
  match s with
  | [] => throw "missing command"
  | '\x7b' :: rest => return (.opening 0, rest)
  | '\x7d' :: rest => return (.closing, rest)
  | ':' :: rest =>
    let rest := skipBlanks rest
    let name := rest.takeWhile fun c => c != '\n' && c != ';' && !Shell.isBlank c
    if name.isEmpty then throw "\":\" lacks a label"
    return (.label name, rest.drop name.length)
  | 's' :: stop :: rest =>
    match delimited stop false rest with
    | none => throw "unterminated \x60s' command"
    | some (pattern, rest) =>
      match delimited stop false rest with
      | none => throw "unterminated \x60s' command"
      | some (new, rest) =>
        let (f, rest) := flags (rest.length + 1) {} rest
        match rest with
        | c :: _ =>
          if !(Shell.isBlank c || c == ';' || c == '\n' || c == '\x7d' || c == '#') then
            throw "unknown option to \x60s'"
        | [] => pure ()
        let r ← readRegex dialect pattern
        return (.substitute r (replacement [] new) f.isGlobal f.prints f.ignoresCase f.from' f.file, rest)
  | 'y' :: stop :: rest =>
    match delimited stop false rest with
    | none => throw "unterminated \x60y' command"
    | some (old, rest) =>
      match delimited stop false rest with
      | none => throw "unterminated \x60y' command"
      | some (new, rest) =>
        let plain (s : List Char) : List Char := (Shell.unescape (s.length + 1) s).1
        let (old, new) := (plain old, plain new)
        if old.length != new.length then throw "strings for \x60y' command are different lengths"
        return (.translate (old.zip new), rest)
  | c :: rest =>
    if "aic".toList.contains c then
      let rest := skipBlanks rest
      match rest with
      | [] => throw "expected \\ after \x60a', \x60c' or \x60i'"
      | '\\' :: '\n' :: rest =>
        let (text, rest) := textLine rest
        return (.text c text, rest)
      | '\\' :: more =>
        let (text, rest) := textLine (skipBlanks more)
        return (.text c text, rest)
      | rest =>
        let (text, rest) := textLine rest
        return (.text c text, rest)
    else if "btT".toList.contains c then
      let rest := skipBlanks rest
      let name := rest.takeWhile fun c => c != '\n' && c != ';' && c != '\x7d' && !Shell.isBlank c
      return (.branch c name, rest.drop name.length)
    else if c == 'q' || c == 'Q' then
      let (code, rest) := readNumber (skipBlanks rest)
      return (.quit c code, rest)
    else if c == 'r' || c == 'R' then
      let file := (skipBlanks rest).takeWhile (· != '\n')
      return (.read file, (skipBlanks rest).drop file.length)
    else if c == 'w' || c == 'W' then
      let file := (skipBlanks rest).takeWhile (· != '\n')
      return (.write file, (skipBlanks rest).drop file.length)
    else if "dDpPnNgGhHxlz=".toList.contains c then return (.simple c, rest)
    else throw (String.ofList ("unknown command: \x60".toList ++ [c, '\'']))

/-- Reads the commands of a script. -/
private def commands (dialect : Regex.Dialect) : Nat → List Char → Except String (List Command)
  | 0, _ => .error "too long"
  | fuel + 1, s => do
    let s := s.dropWhile fun c => Shell.isBlank c || c == '\n' || c == ';'
    match s with
    | [] => return []
    | '#' :: rest => commands dialect fuel (rest.dropWhile (· != '\n'))
    | _ =>
      let (first, rest) : Option Address × List Char := match ← address? dialect s with
        | some (a, rest) => (some a, rest)
        | none => (none, s)
      let (stop, rest) : Option Stop × List Char ← match first.isSome, skipBlanks rest with
        | true, ',' :: rest =>
          match skipBlanks rest with
          | '+' :: rest =>
            let (n, rest) := readNumber rest
            pure (some (.plus n), rest)
          | '~' :: rest =>
            let (n, rest) := readNumber rest
            pure (some (.multiple n), rest)
          | rest =>
            match ← address? dialect rest with
            | some (a, rest) => pure (some (.address a), rest)
            | none => throw "unexpected \x60,'"
        | _, _ => pure (none, rest)
      let (isNegated, rest) : Bool × List Char := match skipBlanks rest with
        | '!' :: rest => (true, skipBlanks (rest.dropWhile (· == '!')))
        | rest => (false, rest)
      let (verb, rest) ← verb dialect rest
      let command : Command := { first, stop, isNegated, verb }
      match verb, skipBlanks rest with
      | .opening _, rest => return command :: (← commands dialect fuel rest)
      | .text _ _, _ => return command :: (← commands dialect fuel rest)
      | _, [] => return [command]
      | _, c :: rest =>
        if c == ';' || c == '\n' || c == '\x7d' || c == '#' then return command :: (← commands dialect fuel (c :: rest))
        else throw "extra characters after command"

/-- Gives each opening brace the place of its closing one. -/
private def matched : Nat → List Nat → List Command → Except String (List (Nat × Nat))
  | _, [], [] => .ok []
  | _, _ :: _, [] => .error "unmatched \x60\x7b'"
  | i, braces, command :: rest =>
    match command.verb, braces with
    | .opening _, _ => matched (i + 1) (i :: braces) rest
    | .closing, [] => .error "unexpected \x60\x7d'"
    | .closing, start :: braces => (matched (i + 1) braces rest).map ((start, i) :: ·)
    | _, _ => matched (i + 1) braces rest

/-- Reads a script. -/
def parse? (dialect : Regex.Dialect) (s : List Char) : Except String (List Command) := do
  let commands ← commands dialect (s.length + 1) s
  let pairs ← matched 0 [] commands
  return commands.zipIdx.map fun (c, i) =>
    match c.verb, pairs.lookup i with
    | .opening _, some stop => { c with verb := .opening stop }
    | _, _ => c

/-! ### Running -/

/-- What is known of a range of lines: whether it is open, and where it ends if that is a number. -/
structure RangeState where
  isOpen : Bool := false
  stop : Nat := 0
  deriving Repr, Inhabited

/-- The state of an edit. `input` are the lines that are still to come. -/
structure State where
  space : List Char := []
  hold : List Char := []
  input : List (List Char)
  number : Nat := 0
  isEnded : Bool := true
  ranges : List (Nat × RangeState) := []
  substituted : Bool := false
  lastRegex : Option (Regex × Bool) := none
  queue : List (List Char) := []
  output : List (List Char) := []
  files : List (List Char × List Char) := []
  quit : Option Nat := none
  deriving Repr, Inhabited

/-- How an edit is done: whether nothing is printed by itself, and what files hold. -/
structure Manner where
  isQuiet : Bool := false
  read : List Char → List Char := fun _ => []

namespace State

/-- Whether this is the last line. -/
def isLast (s : State) : Bool := s.input.isEmpty

/-- Prints a line; the last one has an end only if the text had one. -/
def print (s : State) (line : List Char) : State :=
  { s with output := (if s.isLast && !s.isEnded then line else line ++ ['\n']) :: s.output }

/-- Prints what has been put off until the end of a line. -/
def flush (s : State) : State := { s with output := s.queue.reverse ++ s.output, queue := [] }

/-- The next line. -/
def advance (s : State) : Option State :=
  match s.input with
  | line :: rest => some { s with space := line, input := rest, number := s.number + 1 }
  | [] => none

/-- Whether an address means this line. -/
private def at? (s : State) (a : Address) : Bool × State :=
  match a with
  | .line n => (s.number = n, s)
  | .last => (s.isLast, s)
  | .step first step => (if step = 0 then s.number = first else first ≤ s.number && (s.number - first) % step = 0, s)
  | .pattern r ignoresCase =>
    match r.map (·, ignoresCase) <|> s.lastRegex with
    | some (r, i) => (r.occursIn i s.space, { s with lastRegex := some (r, i) })
    | none => (false, s)

/-- Whether a command is for this line. -/
private def selects (s : State) (index : Nat) (c : Command) : Bool × State :=
  let setRange (s : State) (r : RangeState) : State :=
    { s with ranges := (index, r) :: s.ranges.filter (·.1 != index) }
  let (found, s) : Bool × State := match c.first, c.stop with
    | none, _ => (true, s)
    | some a, none => s.at? a
    | some a, some stop =>
      let r := (s.ranges.lookup index).getD {}
      let closes (s : State) : Bool × State :=
        match stop with
        | .address (.line n) => (n ≤ s.number, s)
        | .address a => s.at? a
        | .plus _ => (r.stop ≤ s.number, s)
        | .multiple _ => (r.stop ≤ s.number, s)
      if r.isOpen then
        match stop with
        | .address (.line n) =>
          if n < s.number then
            -- the range has ended behind the scenes, so that its start counts anew
            let (starts, s) := s.at? a
            if starts then (true, setRange s { isOpen := false }) else (false, setRange s { isOpen := false })
          else (true, setRange s { isOpen := s.number != n })
        | _ =>
          let (isOver, s) := closes s
          (true, setRange s { r with isOpen := !isOver })
      else
        let isZero := match a with
          | .line 0 => true
          | _ => false
        let (starts, s) : Bool × State := if isZero then (s.number = 1 && (s.ranges.lookup index).isNone, s) else s.at? a
        if !starts then (false, s)
        else
          match stop with
          | .address (.line n) => (true, setRange s { isOpen := s.number < n })
          | .plus n => (true, setRange s { isOpen := n != 0, stop := s.number + n })
          | .multiple n =>
            let target := if n = 0 then s.number else (s.number + n - 1) / n * n
            (true, setRange s { isOpen := s.number < target, stop := target })
          | .address a' =>
            if isZero then
              let (isOver, s) := s.at? a'
              (true, setRange s { isOpen := !isOver })
            else (true, setRange s { isOpen := !s.isLast })
  (found != c.isNegated, s)

end State

/-- A text with its case changed. `next` is a change for its first character only. -/
private def cased (mode next : Option Char) (s : List Char) : List Char :=
  let change (letter : Option Char) (c : Char) : Char :=
    match letter with
    | some 'U' => c.toUpper
    | some 'u' => c.toUpper
    | some 'L' => c.toLower
    | some 'l' => c.toLower
    | _ => c
  match s with
  | c :: rest => change (next <|> mode) c :: rest.map (change mode)
  | [] => []

/-- What a match is replaced by. -/
private def filled (whole : List Char) (groups : List (Nat × List Char)) : Option Char → Option Char → List Piece → List Char
  | _, _, [] => []
  | mode, next, .text s :: rest =>
    cased mode next s ++ filled whole groups mode (if s.isEmpty then next else none) rest
  | mode, next, .group n :: rest =>
    let s := if n = 0 then whole else (groups.lookup n).getD []
    cased mode next s ++ filled whole groups mode (if s.isEmpty then next else none) rest
  | mode, _, .case letter :: rest =>
    if letter == 'E' then filled whole groups none none rest
    else if letter == 'u' || letter == 'l' then filled whole groups mode (some letter) rest
    else filled whole groups (some letter) none rest

/-- Replaces matches in a text: all from the so-manieth on, or only that one. Whether there has been one comes with it. -/
private def substituted (r : Regex) (ignoresCase isGlobal : Bool) (pieces : List Piece) :
    Nat → Nat → Bool → Regex.Place → List Char × Bool
  | 0, _, _, p => (p.rest, false)
  | fuel + 1, left, afterMatch, p =>
    match r.find? ignoresCase p with
    | none => (p.rest, false)
    | some (start, stop) =>
      let before := p.rest.take (start.index - p.index)
      let whole := start.rest.take (stop.index - start.index)
      let isEmpty := whole.isEmpty
      if isEmpty && afterMatch && start.index = p.index then
        -- an empty match right behind another one does not count
        match p.rest with
        | c :: _ =>
          let (more, found) := substituted r ignoresCase isGlobal pieces fuel left false p.next
          (c :: more, found)
        | [] => ([], false)
      else
        let counts := left ≤ 1
        let new := if counts then filled whole stop.groups none none pieces else whole
        if counts && !isGlobal then (before ++ new ++ stop.rest, true)
        else if isEmpty then
          match stop.rest with
          | c :: _ =>
            let (more, found) := substituted r ignoresCase isGlobal pieces fuel (left - 1) false stop.next
            (before ++ new ++ c :: more, counts || found)
          | [] => (before ++ new, counts)
        else
          let (more, found) := substituted r ignoresCase isGlobal pieces fuel (left - 1) true stop
          (before ++ new ++ more, counts || found)

/-- A text as the command that lists it shows it. -/
private def listed (s : List Char) : List Char :=
  let shown := s.flatMap fun c =>
    match c with
    | '\\' => "\\\\".toList
    | '\n' => "\\n".toList
    | '\t' => "\\t".toList
    | '\r' => "\\r".toList
    | '\x07' => "\\a".toList
    | '\x08' => "\\b".toList
    | '\x0b' => "\\v".toList
    | '\x0c' => "\\f".toList
    | c =>
      if ' ' ≤ c && c ≤ '~' then [c]
      else
        let digits := Nat.toDigits 8 c.toNat
        '\\' :: List.replicate (3 - digits.length) '0' ++ digits
  shown ++ ['$']

/-- How a line goes on after a command: with the next one, at another place, with its end, or without printing. -/
private inductive Going where
  | next
  | jump (index : Nat)
  | cycle
  | drop
  | restart

/-- What one command does. -/
private def perform (manner : Manner) (program : List Command) (s : State) (v : Verb) : State × Going :=
  match v with
  | .opening _ => (s, .next)
  | .closing => (s, .next)
  | .label _ => (s, .next)
  | .branch letter name =>
    let goes := match letter with
      | 't' => s.substituted
      | 'T' => !s.substituted
      | _ => true
    let s := if letter == 'b' then s else { s with substituted := false }
    if !goes then (s, .next)
    else if name.isEmpty then (s, .cycle)
    else
      match program.findIdx? fun c => match c.verb with
          | .label n => n == name
          | _ => false with
      | some index => (s, .jump index)
      | none => (s, .cycle)
  | .quit letter code =>
    let s := { s with quit := some code }
    (s, if letter == 'q' then .cycle else .drop)
  | .text letter text =>
    match letter with
    | 'a' => ({ s with queue := s.queue ++ [text ++ ['\n']] }, .next)
    | 'i' => ({ s with output := (text ++ ['\n']) :: s.output }, .next)
    | _ => ({ s with output := (text ++ ['\n']) :: s.output }, .drop)
  | .substitute r pieces isGlobal prints ignoresCase from' file =>
    match r.map (·, ignoresCase) <|> s.lastRegex with
    | none => (s, .next)
    | some (r, i) =>
      let (new, found) := substituted r i isGlobal pieces (s.space.length + 2) from' false { rest := s.space }
      let s := { s with lastRegex := some (r, i) }
      if !found then (s, .next)
      else
        let s := { s with space := new, substituted := true }
        let s := if prints then s.print new else s
        match file with
        | some f => ({ s with files := s.files ++ [(f, new ++ ['\n'])] }, .next)
        | none => (s, .next)
  | .translate table => ({ s with space := s.space.map fun c => (table.lookup c).getD c }, .next)
  | .read file => ({ s with queue := s.queue ++ [manner.read file] }, .next)
  | .write file => ({ s with files := s.files ++ [(file, s.space ++ ['\n'])] }, .next)
  | .simple letter =>
    match letter with
    | 'd' => (s, .drop)
    | 'D' =>
      match s.space.span (· != '\n') with
      | (_, _ :: rest) => ({ s with space := rest }, .restart)
      | _ => (s, .drop)
    | 'p' => (s.print s.space, .next)
    | 'P' => ({ s with output := (s.space.takeWhile (· != '\n') ++ ['\n']) :: s.output }, .next)
    | 'n' =>
      if s.isLast then ({ s with quit := some 0 }, if manner.isQuiet then .drop else .cycle)
      else
        let s := if manner.isQuiet then s else s.print s.space
        ((s.flush.advance).getD s, .next)
    | 'N' =>
      match s.input with
      | line :: rest =>
        ({ s.flush with space := s.space ++ '\n' :: line, input := rest, number := s.number + 1 }, .next)
      | [] => ({ s with quit := some 0 }, .cycle)
    | 'g' => ({ s with space := s.hold }, .next)
    | 'G' => ({ s with space := s.space ++ '\n' :: s.hold }, .next)
    | 'h' => ({ s with hold := s.space }, .next)
    | 'H' => ({ s with hold := s.hold ++ '\n' :: s.space }, .next)
    | 'x' => ({ s with space := s.hold, hold := s.space }, .next)
    | 'z' => ({ s with space := [] }, .next)
    | 'l' => ({ s with output := (listed s.space ++ ['\n']) :: s.output }, .next)
    | '=' => ({ s with output := (Shell.digits s.number ++ ['\n']) :: s.output }, .next)
    | _ => (s, .next)

/-- Runs the commands for one line, from one on. -/
private def cycle (manner : Manner) (program : List Command) : Nat → Nat → State → State × Going
  | 0, _, s => (s, .cycle)
  | fuel + 1, index, s =>
    match program[index]? with
    | none => (s, .cycle)
    | some c =>
      let (isChosen, s) := s.selects index c
      if !isChosen then
        match c.verb with
        | .opening stop => cycle manner program fuel (stop + 1) s
        | _ => cycle manner program fuel (index + 1) s
      else
        -- only the last line of a range is replaced by a text
        let verb := match c.verb, c.stop with
          | .text 'c' _, some _ =>
            if c.isNegated || !((s.ranges.lookup index).map (·.isOpen)).getD false then c.verb else .simple 'd'
          | v, _ => v
        match perform manner program s verb with
        | (s, .next) => cycle manner program fuel (index + 1) s
        | (s, .jump index) => cycle manner program fuel index s
        | answer => answer

/-- Runs a script for the lines that are still to come. With `keeps`, the place of the line is used as it is. -/
private def cycles (manner : Manner) (program : List Command) : Nat → Bool → State → State
  | 0, _, s => s
  | fuel + 1, keeps, s =>
    match if keeps then some s else s.advance with
    | none => s
    | some s =>
      let (s, going) := cycle manner program 100000 0 { s with substituted := false }
      let restarts := match going with
        | .restart => true
        | _ => false
      let s := match going with
        | .cycle => if manner.isQuiet then s else s.print s.space
        | _ => s
      let s := s.flush
      if s.quit.isSome then s else cycles manner program fuel restarts s

/-- Edits a text: the state at the end. -/
def run (manner : Manner) (program : List Command) (text : List Char) : State :=
  let (ls, isEnded) := lines text
  cycles manner program (4 * ls.length + 16) false { input := ls, isEnded }

end Edit

private def sedTable : OptionTable :=
  { program := "sed", plain := "nErsuz", valued := "ef"
    long := [("quiet", 'n'), ("silent", 'n'), ("expression", 'e'), ("file", 'f'), ("regexp-extended", 'E'),
      ("unbuffered", 'u'), ("separate", 's')] }

/-- The program that edits a text line by line. -/
def sed (setting : Setting) (args : List (List Char)) : Job :=
  let isInPlace (a : List Char) : Bool := "-i".toList.isPrefixOf a || "--in-place".toList.isPrefixOf a
  let inPlace := args.any isInPlace
  sedTable.job 1 (args.filter fun a => !isInPlace a) fun o =>
    let scripts := o.flags.filterMap fun (letter, value) =>
      if letter == 'e' then some value
      else if letter == 'f' then some (((setting.read? value).toOption).getD [])
      else none
    let (script, operands) : List Char × List (List Char) :=
      if scripts.isEmpty then (o.operands.head?.getD [], o.operands.drop 1)
      else ((scripts.intersperse ['\n']).flatten, o.operands)
    if scripts.isEmpty && o.operands.isEmpty then
      .finish (complained "Usage: sed [OPTION]... {script-only-if-no-other-script} [input-file]...\n".toList 1)
    else
    let dialect : Regex.Dialect := if o.has 'E' || o.has 'r' then .extended else .basic
    match Edit.parse? dialect script with
    | .error text =>
      .finish (complained (message "sed" ["-e expression #1, char ".toList, Shell.digits script.length, ": ".toList,
        text.toList]) 1)
    | .ok program =>
      let isQuiet := o.has 'n' || "#n\n".toList.isPrefixOf script
      let manner : Edit.Manner := { isQuiet, read := fun name => ((setting.read? name).toOption).getD [] }
      let written (s : Edit.State) : Writes :=
        s.files.filterMap fun (name, text) =>
          if name == "/dev/stdout".toList then some (1, toBytes text)
          else if name == "/dev/stderr".toList then some (2, toBytes text) else none
      let change (s : Edit.State) (fs : Files) : Files :=
        let names := ((s.files.map (·.1)).eraseDups).filter fun n => !"/dev/".toList.isPrefixOf n
        names.foldl (fun fs name =>
          let text := (s.files.filter (·.1 == name)).flatMap (·.2)
          ((fs.write (setting.seen name) (toBytes text)).toOption).getD fs) fs
      let complaint (source : Source) (fault : IoFault) : Nat × List UInt8 :=
        (2, toBytes (message "sed" ["can't read ".toList, source.name, ": ".toList, faultText fault]))
      let judge (sources : List Source) : Verdict :=
        if inPlace then
          sources.foldl (fun v source =>
            match source.content with
            | .error fault => { v with writes := v.writes ++ [complaint source fault], code := 4 }
            | .ok bytes =>
              let s := Edit.run manner program (ofBytes bytes)
              let new := toBytes (s.output.reverse.flatten ++
                if s.quit.isSome then (unlines s.input) else [])
              { v with
                code := max v.code (s.quit.getD 0)
                change := some fun fs =>
                  let fs := change s (v.change.getD id fs)
                  ((fs.write (setting.seen source.name) new).toOption).getD fs }) ({} : Verdict)
        else
          let complaints := sources.filterMap fun source => match source.content with
            | .ok _ => none
            | .error fault => some (complaint source fault)
          let texts := sources.filterMap fun source => match source.content with
            | .ok bytes => some (ofBytes bytes)
            | .error _ => none
          let all := texts.dropLast.flatMap (fun t => if t.isEmpty || t.getLast? == some '\n' then t else t ++ ['\n']) ++
            (texts.getLast?.getD [])
          let s := Edit.run manner program all
          { writes := complaints ++ [(1, toBytes s.output.reverse.flatten)] ++ written s
            code := match s.quit with
              | some code => if complaints.isEmpty then code else max 2 code
              | none => if complaints.isEmpty then 0 else 2
            change := if s.files.isEmpty then none else some (change s) }
      let enough (held : List UInt8) : Bool :=
        let text := ofBytes held
        let (ls, isEnded) := lines text
        let whole := if isEnded then ls.dropLast else (ls.dropLast).dropLast
        operands.length ≤ 1 && !inPlace && script.any (fun c => c == 'q' || c == 'Q') &&
          (Edit.run manner program (unlines whole)).quit.isSome && !whole.isEmpty
      .digest (if operands.isEmpty then [['-']] else operands) judge enough

end Attendant.Host.Tools

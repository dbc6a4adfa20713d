import Attendant.Host.Shell.Builtins
import Attendant.Host.Shell.Fields

/-!
# A shell at work

One step of a shell: it takes the first thing from its stack, does what can be done of it at once, and puts back what it
comes to. A step is not possible while the shell waits for a child, for input, or for room in a pipe.

A simple command is run in two steps: first its words are replaced by what they stand for and its redirections are done,
then its assignments are made, and what its first word names is begun. Where the output of a command is wanted for a word,
that command is run first, and the words are begun again with its output.
-/

namespace Attendant.Host.Shell

open Machine

/-! ### Children -/

/-- The task of a child that runs a command in the place of its parent. -/
private def childTask (s : State) (command : Command) (tested : Bool) : Task :=
  .shell { s with
    work := [.run command tested []], isChild := true, caught := [], jobs := []
    traps := s.traps.filter fun (_, text) => text.isEmpty }

/-- Begins a command whose output is wanted before something else can be done. -/
private def substitute (c : Seat) (s : State) (body : Command) (inner : State) (again : Work) : Machine :=
  let (m, pipe) := c.machine.makePipe .neither
  let descriptor := freshDescriptor c.process
  let (m, child) := m.fork c.number (fun _ => childTask inner body false) [(1, .output pipe)]
  let m := m.setHandle c.number descriptor (some (.input pipe))
  m.setTask c.number (.shell ((s.push again).push (.collect descriptor [] child)))

/-- Gives an output to what wants it. -/
private def supply (text : List Char) : List Work → List Work
  | .run command tested outputs :: rest => .run command tested (outputs ++ [text]) :: rest
  | .start line assigns args isShown tested outputs :: rest =>
    .start line assigns args isShown tested (outputs ++ [text]) :: rest
  | work => work

/-- Runs the stages of a pipeline as children; their numbers come back. -/
private def runStages (n : Nat) (s : State) (tested : Bool) : List Command → Option Handle → Machine → Machine × List Nat
  | [], _, m => (m, [])
  | [last], source, m =>
    let (m, child) := m.fork n (fun _ => childTask s last tested) ((source.map fun h => (0, h)).toList)
    (m, [child])
  | stage :: rest, source, m =>
    let (m, pipe) := m.makePipe .neither
    let (m, child) := m.fork n (fun _ => childTask s stage tested) ((source.map fun h => (0, h)).toList ++ [(1, .output pipe)])
    let (m, children) := runStages n s tested rest (some (.input pipe)) m
    (m, child :: children)

/-- The code that the end of a process gives to the shell that waits for it. -/
private def codeOf : ExitStatus → Nat
  | .code n => n
  | .signal n => 128 + n

/-- What is said about the end of a process, if a signal has ended it against its will. -/
private def announced (s : State) (status : ExitStatus) : State :=
  match status with
  | .signal n => if n = 2 || n = Signals.brokenPipe then s else s.say (Signals.announcement n ++ "\n").toList
  | .code _ => s

/-! ### Programs -/

/-- A process becomes a program. A file that is no program is read as a script. -/
private def become (m : Machine) (n : Nat) (s : State) (path : Path) (args : List (List Char)) : Except IoFault Machine :=
  match Programs.exec m n path s.exports args with
  | .ok m => .ok m
  | .error fault =>
    if fault == Fault.notProgram then
      Programs.exec m n (Path.ofString "/bin/sh") s.exports ("/bin/sh".toList :: ofBytes path.bytes :: args.drop 1)
    else .error fault

/-- What is said about a program that cannot be begun, and the code for it. -/
private def refusal (fault : IoFault) : List Char × Nat :=
  if [Fault.notFound, Fault.notDirectory].contains fault then ("not found".toList, 127)
  else if [Fault.tooManyLinks, Fault.nameTooLong].contains fault then (Tools.faultText fault, 127)
  else (Tools.faultText fault, 126)

/-- The path of the program that a name leads to. -/
private def programPath (c : Seat) (s : State) (name : List Char) : Except IoFault Path :=
  Executable.search? c.machine.files c.process.here ((s.value? "PATH".toList).getD Executable.defaultSearch) name

/-- Whether nothing is left for a shell to do that would not be forgotten anyway. -/
private def isIdle (s : State) : Bool :=
  s.traps.all (·.2.isEmpty) && s.work.all fun
    | .check => true
    | .restore _ => true
    | .forget _ => true
    | .named _ => true
    | _ => false

/-- Runs a program as a child, or in the place of a shell that has nothing else to do; `inner` is what the program is
shown. -/
private def runProgram (c : Seat) (s inner : State) (args : List (List Char)) : Machine :=
  let name := args.headD []
  match programPath c inner name with
  | .error fault => c.put ((s.withLast 127).complain (name ++ ": ".toList ++ (refusal fault).1))
  | .ok path =>
    let (m, child) := if s.isChild && isIdle s then (c.machine, c.number) else
      c.machine.fork c.number (fun _ => .write [] 0) []
    let m := if child = c.number then m else m.setTask c.number (.shell (s.push (.await child)))
    match become m child inner path args with
    | .ok m => m
    | .error fault =>
      let (text, code) := refusal fault
      m.setTask child (.write [(2, toBytes (s.complaint (name ++ ": ".toList ++ text)))] code)

/-- Lets a program take the place of the shell; without one, redirections stay as they are. -/
private def runInPlace (c : Seat) (s : State) (args : List (List Char)) : Machine :=
  match args with
  | [] =>
    match s.work with
    | .restore moved :: rest =>
      (Redirection.settle c.number moved c.machine).setTask c.number (.shell { s with work := rest, last := 0 })
    | _ => c.put (s.withLast 0)
  | name :: _ =>
    let refuse (fault : IoFault) : Machine :=
      let (text, code) := refusal fault
      let complaint := ({ s with command := "exec".toList }).complaint (name ++ ": ".toList ++ text)
      c.put ((s.abandon code).say complaint)
    match programPath c s name with
    | .error _ => refuse Fault.notFound
    | .ok path =>
      match become c.machine c.number s path args with
      | .ok m => m
      | .error fault => refuse fault

/-! ### Simple commands -/

/-- What the first word of a simple command names. -/
private inductive Kind where
  | nothing
  | function (body : Command)
  | builtin (isSpecial : Bool)
  | program
  | question (isVerbose : Bool)
  | wrong (text : List Char)

/-- What a simple command names, with its arguments. The word `command` hides functions, and that a command is special. -/
private def kindOf (s : State) (isHidden : Bool) : List (List Char) → Kind × List (List Char)
  | [] => (.nothing, [])
  | name :: args =>
    match if isHidden then none else s.functions.lookup name with
    | some body => (.function body, name :: args)
    | none =>
      if name == "command".toList then
        match args with
        | [] => (.nothing, [])
        | ['-', '-'] :: rest => kindOf s true rest
        | ['-', 'p'] :: rest => kindOf s true rest
        | ['-', 'v'] :: rest => (.question false, rest)
        | ['-', 'V'] :: rest => (.question true, rest)
        | ('-' :: letter :: _) :: _ => (.wrong ("Illegal option -".toList ++ [letter]), args)
        | rest => kindOf s true rest
      else if isBuiltin name then (.builtin (!isHidden && isSpecial name), name :: args)
      else (.program, name :: args)

/-- The text that shows a command before it is run. -/
private def trace (s : State) (values : List (List Char × List Char)) (args : List (List Char)) : List Char :=
  let words := (values.map fun (name, value) => name ++ '=' :: value) ++ args
  (s.value? "PS4".toList).getD "+ ".toList ++ unwords words ++ ['\n']

/-- Where a command is shown before it is run: under the descriptor that complaints had before the redirections. -/
private def traceDescriptor (s : State) : Nat :=
  match s.work with
  | .restore moved :: _ => ((moved.lookup 2).join).getD 2
  | _ => 2

/-- Begins a simple command whose redirections have been done: makes its assignments, shows it if that is asked for, and
runs what it names. -/
private def start (c : Seat) (s : State) (line : Nat) (assigns : List (List Char × Word)) (args : List (List Char))
    (isShown tested : Bool) (outputs : List (List Char)) : Machine :=
  let assigning : Expand (List (List Char × List Char)) := assigns.mapM fun (name, word) => do
    let value ← Expand.flat .inAssignment word
    Expand.assign name value
    return (name, value)
  match assigning.run c.machine.files c.process.here s outputs with
  | .error (.wanted body inner) => substitute c s body inner (.start line assigns args isShown tested outputs)
  | .error (.fault text) => c.put (s.die text)
  | .ok (values, assigned) =>
    let names := values.map (·.1)
    let old := names.map s.saved
    if s.has 'x' && !isShown && !(args.isEmpty && values.isEmpty) then
      let again : Work := .start line (values.map fun (name, value) => (name, [.text value true])) args true tested []
      c.put (((assigned.putBack old).push again).push (.emit (traceDescriptor s) (toBytes (trace s values args)) []))
    else
      let handedOn := names.foldl (fun s name => s.modifyBinding name fun v => { v with exported := true }) assigned
      let forgetting (s' : State) : State := if old.isEmpty then s' else s'.push (.forget old)
      match kindOf s false args with
      | (.nothing, _) => c.put (assigned.withLast (assigned.substituted.getD 0))
      | (.wrong text, _) => c.put (Builtin.trouble ⟨"command".toList, false, args⟩ s text)
      | (.question isVerbose, names) =>
        match names with
        | name :: _ => c.put (Builtin.describe ⟨"command".toList, false, args⟩ c s isVerbose name)
        | [] => c.put (s.withLast 0)
      | (.function body, args) =>
        let s' := ((forgetting handedOn).push (.call s.params s.place [])).push (.run body tested [])
        c.put { s' with params := args.drop 1, place := {} }
      | (.builtin isSpecial, args) =>
        let name := args.headD []
        if name == "exec".toList then
          runInPlace c (if args.length = 1 then assigned else handedOn) (args.drop 1)
        else
          let s' := if isSpecial then assigned else forgetting handedOn
          Builtin.run ⟨name, isSpecial, args.drop 1⟩ c s' tested
      | (.program, args) => runProgram c (assigned.putBack old) handedOn args

/-- A redirection with its target. -/
private def targeted : Redirect → Expand Redirection
  | .mk descriptor direction word => do
    let target ← Expand.flat (if direction = .here then .plain else .atStart) word
    let isDigit := match target with
      | [d] => d.isDigit || d == '-'
      | _ => false
    if direction = .copy && !isDigit then Expand.fail "Syntax error: Bad fd number"
    return ⟨descriptor, direction, target⟩

/-- Does redirections, and goes on with what is to be done then; `onTrouble` is what is done if one of them fails. -/
private def redirecting (c : Seat) (s : State) (redirections : List Redirection) (next : Work)
    (onTrouble : State → List Char → State) : Machine :=
  let (machine, moved, trouble) := Redirection.perform c.number (s.has 'C') redirections c.machine []
  let restoring := if moved.isEmpty then s else s.push (.restore moved)
  let c := { c with machine }
  match trouble with
  | some text => c.put (onTrouble restoring text)
  | none => c.put (restoring.push next)

/-- Commands whose arguments may be assignments. -/
private def isAssigning (name : List Char) : Bool :=
  ["export", "local", "readonly"].contains (String.ofList name)

/-! ### Commands -/

/-- Runs a command; `s` has what comes after it on its stack. -/
private def runCommand (c : Seat) (s : State) (command : Command) (tested : Bool) (outputs : List (List Char)) : Machine :=
  let m := c.machine
  let n := c.number
  let again : Work := .run command tested outputs
  let checked (s : State) : State := if tested then s else s.push .check
  let expanding {α : Type} (s : State) (x : Expand α) (f : State → α → Machine) : Machine :=
    match x.run m.files c.process.here s outputs with
    | .error (.wanted body inner) => substitute c s body inner again
    | .error (.fault text) => c.put (s.die text)
    | .ok (a, s) => f s a
  match command with
  | .nothing => c.put (s.withLast 0)
  | .simple line assigns words redirects =>
    let s := { s with line, substituted := if outputs.isEmpty then none else s.substituted }
    let plan : Expand (List (List Char) × List Redirection) := do
      return (← Expand.arguments isAssigning words, ← redirects.mapM targeted)
    expanding s plan fun s (args, redirections) =>
      redirecting c (checked s) redirections (.start line assigns args false tested []) fun s' text =>
        match kindOf s false args with
        | (.builtin true, _) => s'.die text
        | _ => (s'.withLast 2).complain text
  | .redirected line body redirects =>
    let s := { s with line }
    let isSubshell := match body with
      | .subshell _ => true
      | _ => false
    expanding s (redirects.mapM targeted) fun s redirections =>
      redirecting c (if isSubshell then checked s else s) redirections (.run body tested []) fun s' text =>
        (s'.withLast 2).complain text
  | .subshell body =>
    let (m, child) := m.fork n (fun _ => childTask s body tested) []
    m.setTask n (.shell ((checked s).push (.await child)))
  | .seq first second => c.put ((s.push (.run second tested [])).push (.run first tested []))
  | .both first second => c.put ((s.push (.decide (some second) none tested)).push (.run first true []))
  | .either first second => c.put ((s.push (.decide none (some second) tested)).push (.run first true []))
  | .negate body => c.put ((s.push .negate).push (.run body true []))
  | .pipeline stages =>
    let (m, children) := runStages n s tested stages none m
    let s := checked s
    m.refresh.setTask n (.shell { s with work := children.map Work.await ++ s.work })
  | .background body =>
    let (m, children) := match body with
      | .pipeline stages => runStages n s false stages (some .nothing) m
      | body =>
        let (m, child) := m.fork n (fun _ => childTask s body false) [(0, .nothing)]
        (m, [child])
    let child := children.getLast?.getD 0
    let m := m.modify child fun p => { p with ignored := [2, 3] ++ p.ignored }
    m.refresh.setTask n (.shell { s.withLast 0 with job := some child, jobs := s.jobs ++ [child] })
  | .branch condition yes no =>
    c.put ((s.push (.decide (some yes) (some no) tested)).push (.run condition true []))
  | .again positive condition body =>
    c.put ((s.push (.test positive condition body tested 0)).push (.run condition true []))
  | .each line name words body =>
    expanding { s with line } (Expand.arguments (fun _ => false) words) fun s values =>
      c.put ((if values.isEmpty then s.withLast 0 else s).push (.each name values body tested))
  | .choose line word branches =>
    let search : Expand (Option Command) := do
      let subject ← Expand.flat .atStart word
      branches.findSomeM? fun (patterns, body) => do
        let isChosen ← patterns.anyM fun p => do return matchesPattern (← Expand.pattern p) subject
        return if isChosen then some body else none
    expanding { s with line } search fun s body =>
      match body with
      | some body => c.put (s.push (.run body tested []))
      | none => c.put (s.withLast 0)
  | .define name body =>
    c.put { s.withLast 0 with functions := s.functions.filter (·.1 != name) ++ [(name, body)] }

/-! ### Reading -/

/-- The first field of a line, and what comes behind the separator after it. -/
private def cutField (separators : List Char) (s : List Glyph) : List Glyph × List Glyph :=
  let separates (g : Glyph) : Bool := !g.2 && separators.contains g.1
  let isSpace (g : Glyph) : Bool := separates g && Fields.isSpace g.1
  let field := s.takeWhile fun g => !separates g
  let rest := (s.drop field.length).dropWhile isSpace
  match rest with
  | g :: more => (field, if separates g then more.dropWhile isSpace else rest)
  | [] => (field, [])

/-- Gives the fields of a line to names; the last name gets all the rest. -/
private def assignLine (separators : List Char) : List (List Char) → List Glyph → State → Except (List Char) State
  | [], _, s => .ok s
  | name :: names, line, s =>
    let separates (g : Glyph) : Bool := !g.2 && separators.contains g.1
    let isSpace (g : Glyph) : Bool := separates g && Fields.isSpace g.1
    let line := line.dropWhile isSpace
    let (field, rest) := cutField separators line
    let (value, rest) := if names.isEmpty && !rest.isEmpty then ((line.reverse.dropWhile isSpace).reverse, []) else (field, rest)
    if s.isReadOnly name then .error (name ++ ": is read only".toList)
    else assignLine separators names rest (s.assign name (value.map (·.1)))

/-- One line of input, or the end of the input. -/
private def readLine (c : Seat) (s : State) (names : List (List Char)) (raw : Bool) (held : List Glyph) (escaped : Bool) :
    Option Machine :=
  let arrive (m : Machine) (code : Nat) (line : List Glyph) : Machine :=
    m.setTask c.number (.shell (match assignLine s.separators names line s with
      | .ok s => s.withLast code
      | .error text => Builtin.trouble ⟨"read".toList, false, []⟩ s text))
  match c.process.handles.lookup 0 with
  | none => some (arrive c.machine 1 held)
  | some h =>
    match c.machine.readFrom h chunk (if raw then (· == 10) else fun b => b == 10 || b == 92 || escaped) with
    | .blocked => none
    | .ended => some (arrive c.machine 1 held)
    | .data bytes m =>
      let text := (ofBytes bytes).filter (· != '\x00')
      let again (held : List Glyph) (escaped : Bool) : Option Machine :=
        some (m.setTask c.number (.shell (s.push (.line names raw held escaped))))
      if escaped then
        again (held ++ (text.filter (· != '\n')).map (·, true)) text.isEmpty
      else match text.getLast? with
        | some '\n' => some (arrive m 0 (held ++ text.dropLast.map (·, false)))
        | some '\\' =>
          if raw then again (held ++ text.map (·, false)) false else again (held ++ text.dropLast.map (·, false)) true
        | _ => again (held ++ text.map (·, false)) false

/-- How much a shell reads at once of the script that is its input. -/
private def block : Nat := 8191

/-- Reads the next command of a script. One that is the input of the shell is read in blocks. -/
private def readScript (c : Seat) (s : State) (input : Input) (tested : Bool) : Option Machine :=
  let more : Option Machine :=
    let ended (m : Machine) : Option Machine :=
      some (m.setTask c.number (.shell (s.push (.script { input with isWhole := true } tested))))
    match c.process.handles.lookup 0 with
    | none => ended c.machine
    | some h =>
      match c.machine.readFrom h block (fun _ => false) with
      | .blocked => none
      | .ended => ended c.machine
      | .data bytes m =>
        let input := { input with rest := input.rest ++ (ofBytes bytes).filter (· != '\x00') }
        some (m.setTask c.number (.shell (s.push (.script input tested))))
  match read { input with aliases := s.aliases } with
  | .ok (some .nothing, rest) => some (c.put (s.push (.script rest tested)))
  | .ok (some command, rest) =>
    let s := s.push (.script rest tested)
    some (c.put (if s.has 'n' then s else s.push (.run command tested [])))
  | .ok (none, _) => if input.isWhole then some (c.put s) else more
  | .error .incomplete => if input.isWhole then some (c.put s) else more
  | .error (.fault line message) => some (c.put ({ s with line }.die message.toList))

/-! ### Steps -/

/-- Something that could not be written: the command of the shell that has tried to says so. -/
private def unwritten (s : State) (speaker : List Char) : State :=
  if speaker.isEmpty then s
  else ({ s with last := max 1 s.last }).say (({ s with command := speaker }).complaint (speaker ++ ": I/O error".toList))

/-- Does the first thing on the stack; `s` has only what comes after it. -/
private def work (c : Seat) (s : State) (w : Work) : Option Machine :=
  let m := c.machine
  match w with
  | .run command tested outputs => some (runCommand c s command tested outputs)
  | .start line assigns args isShown tested outputs => some (start c s line assigns args isShown tested outputs)
  | .script input tested => readScript c s input tested
  | .emit descriptor bytes speaker =>
    if bytes.isEmpty then some (c.put s)
    else match c.process.handles.lookup descriptor with
      | none => some (c.put (unwritten s speaker))
      | some h =>
        match m.writeTo h bytes with
        | .blocked => none
        | .broken =>
          some (if c.process.ignored.contains Signals.brokenPipe then c.put (unwritten s speaker)
            else (c.put (unwritten s speaker)).signal c.number Signals.brokenPipe)
        | .written rest m =>
          some (m.setTask c.number (.shell (if rest.isEmpty then s else s.push (.emit descriptor rest speaker))))
  | .line names raw held escaped => readLine c s names raw held escaped
  | .await process =>
    (m.reap? process).map fun (status, m) =>
      m.setTask c.number (.shell (announced (s.withLast (codeOf status)) status))
  | .awaitOutput process =>
    (m.reap? process).map fun (status, m) =>
      m.setTask c.number (.shell (announced { s with substituted := some (codeOf status) } status))
  | .wait processes isQuiet =>
    match processes with
    | [] => some (c.put s)
    | process :: rest =>
      match m.process? process with
      | none => some (c.put ((if isQuiet then s else s.withLast 127).push (.wait rest isQuiet)))
      | some p =>
        if p.parent != c.number then some (c.put ((s.withLast 127).push (.wait rest isQuiet)))
        else
          (m.reap? process).map fun (status, m) =>
            m.setTask c.number (.shell (if isQuiet then s.push (.wait rest isQuiet)
              else announced ((s.withLast (codeOf status)).push (.wait rest isQuiet)) status))
  | .collect descriptor held process =>
    match c.process.handles.lookup descriptor with
    | none => some (c.put s)
    | some h =>
      match m.readFrom h chunk (fun _ => false) with
      | .blocked => none
      | .data bytes m => some (m.setTask c.number (.shell (s.push (.collect descriptor (held ++ bytes) process))))
      | .ended =>
        let text := (((ofBytes held).filter (· != '\x00')).reverse.dropWhile (· == '\n')).reverse
        some ((m.setHandle c.number descriptor none).setTask c.number
          (.shell ({ s with work := supply text s.work }.push (.awaitOutput process))))
  | .decide onSuccess onFailure tested =>
    match if s.last = 0 then onSuccess else onFailure with
    | some command => some (c.put (s.push (.run command tested [])))
    | none => some (c.put s)
  | .negate => some (c.put (s.withLast (if s.last = 0 then 1 else 0)))
  | .test positive condition body tested code =>
    if (s.last == 0) == positive then
      some (c.put ((s.push (.loop positive condition body tested)).push (.run body tested [])))
    else some (c.put (s.withLast code))
  | .loop positive condition body tested =>
    some (c.put ((s.push (.test positive condition body tested s.last)).push (.run condition true [])))
  | .each name values body tested =>
    match values with
    | [] => some (c.put s)
    | v :: rest =>
      if s.isReadOnly name then some (c.put (s.die (name ++ ": is read only".toList)))
      else some (c.put (((s.assign name v).push (.each name rest body tested)).push (.run body tested [])))
  | .restore moved => some ((Redirection.undo c.number moved m).setTask c.number (.shell s))
  | .call params place locals => some (c.put ({ s with params, place }.putBack locals))
  | .file => some (c.put s)
  | .forget bindings => some (c.put (s.putBack bindings))
  | .code n => some (c.put (s.withLast n))
  | .trapped n => some (c.put (s.withLast n))
  | .named command => some (c.put { s with command })
  | .check => some (c.put (if s.has 'e' && s.last != 0 then s.abandon s.last else s))

/-- Whether a shell lets a signal wait until this has been done. -/
private def holdsSignals : Work → Bool
  | .await _ => true
  | .awaitOutput _ => true
  | .collect _ _ _ => true
  | .emit _ _ _ => true
  | .start _ _ _ _ _ _ => true
  | .restore _ => true
  | .forget _ => true
  | _ => false

/-- Does what a shell is to do at a signal. -/
private def react (s : State) (signal : Nat) : State :=
  let body := (s.traps.lookup signal).getD []
  (s.push (.trapped s.last)).push (.script { rest := body, line := s.line } false)

/-- One step of the shell that a process is. -/
def step (m : Machine) (number : Nat) (process : Process) (s : State) : Option Machine :=
  let c : Seat := { machine := m, number, process }
  match s.caught, s.work with
  | signal :: caught, w :: rest =>
    if holdsSignals w then work c { s with work := rest } w
    else
      let s := match w with
        | .line _ _ _ _ => { s with work := rest, last := 1 }
        | .wait _ _ => { s with work := rest, last := 128 + signal }
        | _ => s
      some (c.put (react { s with caught } signal))
  | signal :: caught, [] => some (c.put (react { s with caught } signal))
  | [], w :: rest => work c { s with work := rest } w
  | [], [] =>
    match s.traps.lookup 0 with
    | some body =>
      let s := { s with traps := s.traps.filter (·.1 != 0) }
      some (c.put ((s.push (.code s.last)).push (.script { rest := body, line := s.line } false)))
    | none => some (m.finish number (.code (s.last % 256)))

end Attendant.Host.Shell

import Attendant.Host.Shell.Redirection

/-!
# The commands of a shell

The commands that a shell carries out by itself, without a program: those that change the shell, and some that are quicker
this way. A fault in one of the first kind ends the shell.
-/

namespace Attendant.Host.Shell

open Machine

/-- A shell at work: the machine, and the shell's process with its number. -/
structure Seat where
  machine : Machine
  number : Nat
  process : Process

namespace Seat

/-- The machine with the shell in a new state. -/
def put (c : Seat) (s : State) : Machine := c.machine.setTask c.number (.shell s)

end Seat

/-- The names of the commands of a shell. -/
def builtinNames : List String :=
  [".", ":", "[", "alias", "bg", "break", "cd", "chdir", "command", "continue", "echo", "eval", "exec", "exit", "export",
    "false", "fg", "getopts", "hash", "jobs", "kill", "local", "printf", "pwd", "read", "readonly", "return", "set", "shift",
    "test", "times", "trap", "true", "type", "ulimit", "umask", "unalias", "unset", "wait"]

/-- Whether a name is that of a command of the shell. -/
def isBuiltin (name : List Char) : Bool := builtinNames.contains (String.ofList name)

namespace Builtin

/-- A command that is being carried out: its name, and whether a fault in it ends the shell. -/
structure Call where
  name : List Char
  isSpecial : Bool
  args : List (List Char)

/-- Something is wrong with a command. -/
def trouble (call : Call) (s : State) (text : List Char) : State :=
  let complaint := ({ s with command := call.name }).complaint text
  (if call.isSpecial then s.abandon 2 else s.withLast 2).say complaint

/-- Something is to be written to the output. -/
def print (call : Call) (s : State) (text : List Char) : State :=
  if text.isEmpty then s else s.push (.emit 1 (toBytes text) call.name)

/-! ### Options -/

/-- The options in a cluster of letters; the last may want a value. -/
private def cluster (plain valued : List Char) :
    List Char → Except (List Char) (List (Char × List Char) × Option Char)
  | [] => .ok ([], none)
  | c :: rest =>
    if valued.contains c then (if rest.isEmpty then .ok ([], some c) else .ok ([(c, rest)], none))
    else if plain.contains c then (cluster plain valued rest).map fun (flags, wanted) => ((c, []) :: flags, wanted)
    else .error ("Illegal option -".toList ++ [c])

/-- The options at the start of some arguments, and the other arguments. -/
private def options (plain valued : String) :
    List (List Char) → Except (List Char) (List (Char × List Char) × List (List Char))
  | ['-', '-'] :: rest => .ok ([], rest)
  | ('-' :: c :: cs) :: rest => do
    let (flags, wanted) ← cluster plain.toList valued.toList (c :: cs)
    match wanted, rest with
    | none, rest =>
      let (more, args) ← options plain valued rest
      return (flags ++ more, args)
    | some letter, value :: rest =>
      let (more, args) ← options plain valued rest
      return (flags ++ (letter, value) :: more, args)
    | some letter, [] => throw ("No arg for -".toList ++ letter :: " option".toList)
  | args => .ok ([], args)

/-- Goes on with the options of a command, or says what is wrong with them. -/
private def withOptions (call : Call) (s : State) (plain valued : String)
    (f : List (Char × List Char) → List (List Char) → State) : State :=
  match options plain valued call.args with
  | .ok (flags, args) => f flags args
  | .error text => trouble call s text

/-- Goes on with the number that an argument is, if there is one, or says what is wrong with it. -/
private def withNumber (call : Call) (s : State) (default least : Nat) (f : Nat → State) : State :=
  match call.args with
  | [] => f default
  | a :: _ =>
    match (Tools.number? a).filter (least ≤ ·) with
    | some n => f n
    | none => trouble call s ("Illegal number: ".toList ++ a)

/-- A text between quotes, in which quotes are quoted by themselves. -/
private def quoted (s : List Char) : List Char :=
  '\'' :: (s.flatMap fun c => if c == '\'' then "'\"'\"'".toList else [c]) ++ ['\'']

/-! ### Where the shell goes on -/

/-- Whether something is the sign of a loop. -/
private def isLoop : Work → Bool
  | .test _ _ _ _ _ => true
  | .loop _ _ _ _ => true
  | .each _ _ _ _ => true
  | _ => false

/-- Whether something is the sign of a function, or of a file that is read. -/
private def isCall : Work → Bool
  | .call _ _ _ => true
  | .file => true
  | _ => false

/-- Whether something has to be done even if what it belongs to is left. -/
private def isKept : Work → Bool
  | .restore _ => true
  | .forget _ => true
  | .named _ => true
  | _ => false

/-- Leaves everything up to a sign, but does what has to be done nevertheless; whether the sign has been found comes with
it. -/
private def leave (isSign : Work → Bool) : List Work → List Work × List Work
  | [] => ([], [])
  | w :: rest =>
    if isSign w then ([], w :: rest)
    else
      let (kept, rest) := leave isSign rest
      (if isKept w then w :: kept else kept, rest)

/-- How many loops there are around what is done, within the function. -/
private def loops : List Work → Nat
  | [] => 0
  | .call _ _ _ :: _ => 0
  | w :: rest => loops rest + if isLoop w then 1 else 0

/-- Leaves some loops; the last of them may go on. -/
private def leaveLoops (goesOn : Bool) : Nat → List Work → List Work
  | 0, work => work
  | n + 1, work =>
    let (kept, rest) := leave isLoop work
    match n, goesOn, rest with
    | 0, true, .test positive condition body tested _ :: rest => kept ++ .loop positive condition body tested :: rest
    | 0, true, rest => kept ++ rest
    | _, _, rest => kept ++ leaveLoops goesOn n (rest.drop 1)

/-! ### Variables -/

/-- The assignment or the name that an argument is. -/
private def assigning (a : List Char) : Option (List Char × Option (List Char)) :=
  match a.span (· != '=') with
  | (name, _ :: value) => if isName name then some (name, some value) else none
  | (name, []) => if isName name then some (name, none) else none

/-- Names in the order of their characters. -/
private def sorted (names : List Variable) : List Variable :=
  names.mergeSort fun a b => Files.inOrder (a.name.map Char.toNat) (b.name.map Char.toNat)

/-- What is shown of some variables. -/
private def listing (command : String) (l : List Variable) : List Char :=
  (sorted l).flatMap fun v =>
    (if command.isEmpty then [] else (command ++ " ").toList) ++ v.name ++
      (match v.value with
        | some value => '=' :: quoted value
        | none => []) ++ ['\n']

/-- Marks variables, and gives them values. -/
private def mark (call : Call) (s : State) (f : Variable → Variable) : List (List Char) → State
  | [] => s
  | a :: rest =>
    match assigning a with
    | none => trouble call s (a.takeWhile (· != '=') ++ ": bad variable name".toList)
    | some (name, value) =>
      if value.isSome && s.isReadOnly name then trouble call s (name ++ ": is read only".toList)
      else
        let s := match value with
          | some value => s.assign name value
          | none => s
        mark call (s.modifyBinding name f) f rest

/-- Notes variables of the function that is being run, so that they can be put back. -/
private def note (v : Variable) : List Work → Option (List Work)
  | [] => none
  | .call params place locals :: rest =>
    some (.call params place (if locals.any (·.name == v.name) then locals else v :: locals) :: rest)
  | w :: rest => (note v rest).map (w :: ·)

/-- Makes variables that belong to the function that is being run. -/
private def makeLocal (call : Call) (s : State) : List (List Char) → State
  | [] => s
  | a :: rest =>
    let (name, value) := match assigning a with
      | some (name, value) => (name, value)
      | none => (a, none)
    let old := if name == ['-'] then ⟨name, some s.options, false, false⟩ else s.saved name
    match note old s.work with
    | none => trouble call s "not in a function".toList
    | some work =>
      let s := { s with work }
      if name != ['-'] && !isName name then trouble call s (a ++ ": bad variable name".toList)
      else match value with
        | some value =>
          if s.isReadOnly name then trouble call s (name ++ ": is read only".toList)
          else makeLocal call (s.assign name value) rest
        | none => makeLocal call s rest

/-- Removes variables. -/
private def unset (call : Call) (s : State) : List (List Char) → State
  | [] => s
  | name :: rest =>
    if !isName name then trouble call s (name ++ ": bad variable name".toList)
    else if s.isReadOnly name then trouble call s (name ++ ": is read only".toList)
    else unset call { s with bindings := s.bindings.filter (·.name != name) } rest

/-! ### Options in arguments -/

/-- One look at the options in some arguments. -/
private def nextOption (call : Call) (s : State) (spec name : List Char) (args : List (List Char)) : State :=
  let isQuiet := spec.head? == some ':'
  let index := max 1 s.place.index
  let finish (s : State) (place : OptionPlace) (found : List Char) (code : Nat) : State :=
    let s := (s.assign name found).assign "OPTIND".toList (digits place.index)
    { s.withLast code with place }
  let unsetValue (s : State) : State := { s with bindings := s.bindings.filter (·.name != "OPTARG".toList) }
  let setValue (s : State) (v : List Char) : State := s.assign "OPTARG".toList v
  let past (s : State) (index : Nat) : State := finish s { index } ['?'] 1
  let letter (c : Char) (rest : List Char) (index : Nat) : State :=
    match (spec.dropWhile (· == ':')).span (· != c) with
    | (_, _ :: ':' :: _) =>
      if !rest.isEmpty then finish (setValue s rest) { index } [c] 0
      else match args[index - 1]? with
        | some value => finish (setValue s value) { index := index + 1 } [c] 0
        | none =>
          if isQuiet then finish (setValue s [c]) { index } [':'] 0
          else (finish (unsetValue s) { index } ['?'] 0).say ("No arg for -".toList ++ c :: " option\n".toList)
    | (_, _ :: _) => finish (setValue s []) { index, rest } [c] 0
    | (_, []) =>
      if isQuiet then finish (setValue s [c]) { index, rest } ['?'] 0
      else (finish (unsetValue s) { index, rest } ['?'] 0).say ("Illegal option -".toList ++ c :: ['\n'])
  if !isName name then trouble call s (name ++ ": bad variable name".toList)
  else match s.place.rest with
    | c :: rest => letter c rest index
    | [] =>
      match args[index - 1]? with
      | some ['-', '-'] => past s (index + 1)
      | some ('-' :: c :: rest) => letter c rest (index + 1)
      | _ => past s index

/-! ### Permissions of new files -/

/-- Three digits, each the permissions that someone has. -/
private def symbolicMask (mask : Nat) : List Char :=
  let part (name : Char) (bits : Nat) : List Char :=
    let given := 7 - bits % 8
    [name, '='] ++ (if given &&& 4 != 0 then ['r'] else []) ++ (if given &&& 2 != 0 then ['w'] else []) ++
      (if given &&& 1 != 0 then ['x'] else [])
  part 'u' (mask / 64) ++ ',' :: part 'g' (mask / 8) ++ ',' :: part 'o' mask

/-- The mask that an argument asks for. -/
private def newMask (old : Nat) (a : List Char) : Except (List Char) Nat :=
  if (a.head?.map Char.isDigit).getD false then
    if a.all fun c => '0' ≤ c && c ≤ '7' then .ok ((a.foldl (fun n c => 8 * n + (c.toNat - 48)) 0) % 512)
    else .error ("Illegal number: ".toList ++ a)
  else match Tools.newMode (511 - old) a with
    | some mode => .ok (511 - mode % 512)
    | none => .error ("Illegal mode: ".toList ++ a)

/-! ### What names are -/

/-- What a name is: a word of the language, an alias, a function, a command of the shell, or a program. -/
private def described (c : Seat) (s : State) (isVerbose : Bool) (name : List Char) : List Char × Nat :=
  let shown (short long : List Char) : List Char × Nat := ((if isVerbose then long else short) ++ ['\n'], 0)
  let missing : List Char × Nat := (if isVerbose then name ++ ": not found\n".toList else [], 127)
  if reservedWords.contains (String.ofList name) then shown name (name ++ " is a shell keyword".toList)
  else match s.aliases.lookup name with
    | some value => shown ("alias ".toList ++ name ++ '=' :: quoted value) (name ++ " is an alias for ".toList ++ value)
    | none =>
      if (s.functions.lookup name).isSome then shown name (name ++ " is a shell function".toList)
      else if isBuiltin name then
        shown name (name ++ (if isSpecial name then " is a special shell builtin" else " is a shell builtin").toList)
      else
        match Executable.search? c.machine.files c.process.here ((s.value? "PATH".toList).getD Executable.defaultSearch) name with
        | .ok path =>
          if (Executable.check c.machine.files (path.seenFrom c.process.here)).toOption.isSome then
            shown (ofBytes path.bytes) (name ++ " is ".toList ++ ofBytes path.bytes)
          else missing
        | .error _ => missing

/-! ### Processes -/

/-- The process that an argument names: by its number, or by the number of a job. -/
private def process? (s : State) (a : List Char) : Except (List Char) Nat :=
  match a with
  | '%' :: job =>
    let found := match job with
      | [] => s.job
      | ['%'] => s.job
      | ['+'] => s.job
      | job => (Tools.number? job).bind fun n => if n = 0 then none else s.jobs[n - 1]?
    match found with
    | some n => .ok n
    | none => .error ("No such job: ".toList ++ a)
  | _ =>
    match Tools.number? a with
    | some n => .ok n
    | none => .error ("Illegal number: ".toList ++ a)

/-- What is said to those who do not know how signals are sent. -/
private def killUsage : List Char :=
  "Usage: kill [-s sigspec | -signum | -sigspec] [pid | job]... or\nkill -l [exitstatus]".toList

/-- The names of signals, or the name of one. -/
private def signalNames (call : Call) (s : State) : List (List Char) → State
  | [] =>
    print call (s.withLast 0) ("0\n".toList ++ ((List.range' 1 (Signals.count - 1)).flatMap fun n => (Signals.name n ++ "\n").toList))
  | a :: _ =>
    match Tools.number? a with
    | none => trouble call s ("Illegal number: ".toList ++ a)
    | some n =>
      let n := if 128 < n then n - 128 else n
      if 0 < n && n < Signals.count then print call (s.withLast 0) (Signals.name n ++ "\n").toList
      else trouble call s ("invalid signal number or exit status: ".toList ++ a)

/-- Sends a signal to processes, one after the other. -/
private def send (call : Call) (signal : Nat) (c : Seat) (s : State) (targets : List (List Char)) : Machine :=
  match targets.mapM (process? s) with
  | .error text => c.put (trouble call s text)
  | .ok numbers =>
    let missing := numbers.filter fun n => (c.machine.process? n).isNone
    let complaint := ({ s with command := call.name }).complaint "No such process\n".toList
    let s := missing.foldl (fun s _ => s.say complaint) (s.withLast (if missing.isEmpty then 0 else 1))
    numbers.foldl (fun m n => m.signal n signal) (c.put s)

/-- The command that sends signals. -/
private def kill (call : Call) (c : Seat) (s : State) : Machine :=
  let usage : Machine := c.put (trouble call s killUsage)
  let go (signal : Option Nat) (targets : List (List Char)) : Machine :=
    if targets.isEmpty then usage else send call (signal.getD Signals.terminate) c s targets
  match call.args with
  | [] => usage
  | ('-' :: name) :: rest =>
    match (Signals.ofText? name).filter fun n => 0 < n || name == ['0'] with
    | some signal => go (some signal) rest
    | none =>
      match options "l" "s" call.args with
      | .error text => c.put (trouble call s text)
      | .ok (flags, targets) =>
        if flags.any (·.1 == 'l') then c.put (signalNames call s targets)
        else match (flags.find? (·.1 == 's')).map (·.2) with
          | some name =>
            match Signals.ofText? name with
            | some signal => go (some signal) targets
            | none => c.put (trouble call s ("invalid signal number or name: ".toList ++ name))
          | none => go none targets
  | targets => go none targets

/-- Sets what a shell does at signals. A text without anything says that they are ignored. -/
private def setTraps (body : Option (List Char)) : List (List Char) → Seat → State → Machine
  | [], c, s => c.put (s.withLast 0)
  | name :: rest, c, s =>
    match Signals.ofText? name with
    | none => c.put ((s.withLast 1).say ("trap: ".toList ++ name ++ ": bad trap\n".toList))
    | some signal =>
      let others := s.traps.filter (·.1 != signal)
      let isIgnored := body == some []
      let machine := c.machine.modify c.number fun p =>
        { p with ignored := (if isIgnored && signal != 0 then [signal] else []) ++ p.ignored.filter (· != signal) }
      let traps := match body with
        | some text => others ++ [(signal, text)]
        | none => others
      setTraps body rest { c with machine } { s with traps }

/-- The command that says what is done at signals. -/
private def trap (call : Call) (c : Seat) (s : State) : Machine :=
  match options "" "" call.args with
  | .error text => c.put (trouble call s text)
  | .ok (_, []) =>
    let lines := (s.traps.mergeSort fun a b => a.1 ≤ b.1).flatMap fun (signal, text) =>
      "trap -- ".toList ++ quoted text ++ ' ' :: (Signals.name signal ++ "\n").toList
    c.put (print call (s.withLast 0) lines)
  | .ok (_, [single]) => setTraps none [single] c s
  | .ok (_, body :: signals) =>
    if (Tools.number? body).isSome then setTraps none (body :: signals) c s
    else setTraps (if body == ['-'] then none else some body) signals c s

/-- The command that waits for processes. -/
private def wait (call : Call) (c : Seat) (s : State) : State :=
  withOptions call s "" "" fun _ args =>
    if args.isEmpty then
      let children := (c.machine.processes.filter fun (_, p) => p.parent = c.number).map (·.1)
      ({ s with jobs := [], last := 0 }).push (.wait children true)
    else match args.mapM (process? s) with
      | .ok numbers => s.push (.wait numbers false)
      | .error text => trouble call s text

/-! ### Directories and files -/

/-- The command that goes to another directory. -/
private def changeDirectory (call : Call) (c : Seat) (s : State) : Machine :=
  match options "LP" "" call.args with
  | .error text => c.put (trouble call s text)
  | .ok (_, args) =>
    let target := match args.head? with
      | some ['-'] => (s.value? "OLDPWD".toList).getD []
      | some dir => dir
      | none => (s.value? "HOME".toList).getD []
    let path := if target.isEmpty then c.process.here else Machine.seen c.process target
    match c.machine.files.find path with
    | .ok (name, some .directory) =>
      let old := ofBytes c.process.here.bytes
      let here := Path.ofParts name
      let machine := c.machine.modify c.number fun p => { p with here }
      let export' (s : State) (name value : List Char) : State :=
        (s.assign name value).modifyBinding name fun v => { v with exported := true }
      let s := export' (export' (s.withLast 0) "OLDPWD".toList old) "PWD".toList (ofBytes here.bytes)
      ({ c with machine }).put (if args.head? == some ['-'] then print call s (ofBytes here.bytes ++ ['\n']) else s)
    | _ => c.put (trouble call s ("can't cd to ".toList ++ target))

/-- The path of a file that is to be read as a script. -/
private def scriptPath? (c : Seat) (s : State) (name : List Char) : Option (List Char) :=
  if name.contains '/' then some name
  else
    ((Executable.directories ((s.value? "PATH".toList).getD Executable.defaultSearch)).map fun dir =>
        if dir.isEmpty then name else dir ++ '/' :: name).find? fun path =>
      match c.machine.files.entry (Machine.seen c.process path) with
      | .ok (.file _) => true
      | _ => false

/-- The command that reads a file as a script. -/
private def source (call : Call) (c : Seat) (s : State) : State :=
  withOptions call s "" "" fun _ args =>
    match args with
    | [] => s.withLast 0
    | name :: _ =>
      match scriptPath? c s name with
      | none => trouble call s (name ++ ": not found".toList)
      | some path =>
        match c.machine.files.read (Machine.seen c.process path) with
        | .ok bytes =>
          ((({ s.withLast 0 with command := path }).push (.named s.command)).push .file).push
            (.script { rest := ofBytes bytes } false)
        | .error fault =>
          let reason := if fault == Fault.notFound || fault == Fault.notDirectory then "No such file".toList
            else Tools.faultText fault
          trouble call s ("cannot open ".toList ++ path ++ ": ".toList ++ reason)

/-! ### All of them -/

/-- Goes through names, of which some may be missing. -/
private def eachName (call : Call) (s : State) (names : List (List Char)) (f : State → List Char → Option State) : State :=
  names.foldl (fun s name =>
    match f s name with
    | some s => s
    | none => ({ s with last := 1 }).say (call.name ++ ": ".toList ++ name ++ " not found\n".toList)) (s.withLast 0)

/-- The commands that change the state of the shell alone. -/
private def changed (call : Call) (c : Seat) (s : State) (tested : Bool) : State :=
  let done := s.withLast 0
  match String.ofList call.name with
  | "false" => s.withLast 1
  | "echo" => print call done (echo call.args)
  | "printf" =>
    let printed := printf call.args
    printed.complaints.reverse.foldl (fun s text => s.say (({ s with command := call.name }).complaint text))
      (print call (s.withLast printed.code) printed.text)
  | "test" => condition false
  | "[" => condition true
  | "pwd" => withOptions call s "LP" "" fun _ _ => print call done (ofBytes c.process.here.bytes ++ ['\n'])
  | "exit" => withNumber call s s.last 0 fun n => s.abandon (n % 256)
  | "return" => withNumber call s s.last 0 fun n =>
      let (kept, rest) := leave isCall s.work
      { s with work := kept ++ rest, last := n }
  | "break" => withNumber call s 1 1 fun n => { done with work := leaveLoops false (min n (loops s.work)) s.work }
  | "continue" => withNumber call s 1 1 fun n => { done with work := leaveLoops true (min n (loops s.work)) s.work }
  | "shift" => withNumber call s 1 0 fun n =>
      if s.params.length < n then trouble call s "can't shift that many".toList
      else { done with params := s.params.drop n, place := {} }
  | "set" =>
    if call.args.isEmpty then print call done (listing "" (s.bindings.filter (·.value.isSome)))
    else match OptionReading.read false done call.args with
      | .error text => trouble call s text
      | .ok r =>
        let s := if r.isMarked || !r.rest.isEmpty then { r.state with params := r.rest, place := {} } else r.state
        print call s r.shown
  | "export" => withOptions call s "p" "" fun flags args =>
      if args.isEmpty || !flags.isEmpty then print call done (listing "export" (s.bindings.filter (·.exported)))
      else mark call done (fun v => { v with exported := true }) args
  | "readonly" => withOptions call s "p" "" fun flags args =>
      if args.isEmpty || !flags.isEmpty then print call done (listing "readonly" (s.bindings.filter (·.isReadOnly)))
      else mark call done (fun v => { v with isReadOnly := true }) args
  | "local" => makeLocal call done call.args
  | "unset" => withOptions call s "fv" "" fun flags args =>
      if flags.any (·.1 == 'f') then { done with functions := s.functions.filter fun (name, _) => !args.contains name }
      else unset call done args
  | "eval" =>
    let text := unwords call.args
    if text.all fun ch => isBlank ch || ch == '\n' then done
    else (({ s with command := call.name }).push (.named s.command)).push (.script { rest := text, line := s.line } tested)
  | "." => source call c s
  | "read" => withOptions call s "r" "p" fun flags args =>
      match args.find? fun name => !isName name with
      | some name => trouble call s (name ++ ": bad variable name".toList)
      | none =>
        if args.isEmpty then trouble call s "arg count".toList
        else s.push (.line args (flags.any (·.1 == 'r')) [] false)
  | "wait" => wait call c s
  | "getopts" =>
    match call.args with
    | spec :: name :: args => nextOption call s spec name (if args.isEmpty then s.params else args)
    | _ => trouble call s "Usage: getopts optstring var [arg...]".toList
  | "alias" =>
    let shown (name value : List Char) : List Char := name ++ '=' :: quoted value ++ ['\n']
    if call.args.isEmpty then print call done (s.aliases.flatMap fun (name, value) => shown name value)
    else eachName call s call.args fun s a =>
      match a.span (· != '=') with
      | (name, _ :: value) => some { s with aliases := s.aliases.filter (·.1 != name) ++ [(name, value)] }
      | (name, []) => (s.aliases.lookup name).map fun value => print call s (shown name value)
  | "unalias" => withOptions call s "a" "" fun flags args =>
      if !flags.isEmpty then { done with aliases := [] }
      else eachName call s args fun s name =>
        if (s.aliases.lookup name).isSome then some { s with aliases := s.aliases.filter (·.1 != name) } else none
  | "type" =>
    let found := call.args.map (described c s true)
    print call (s.withLast (if found.all (·.2 = 0) then 0 else 127)) (found.flatMap (·.1))
  | "hash" => withOptions call s "rv" "" fun _ args =>
      match args.find? fun name => (described c s false name).2 != 0 with
      | some name => (s.withLast 1).say (({ s with command := call.name }).complaint (name ++ ": not found".toList))
      | none => done
  | "fg" => trouble call s "No current job".toList
  | "bg" => trouble call s "No current job".toList
  | "times" => print call done "0m0.000000s 0m0.000000s\n0m0.000000s 0m0.000000s\n".toList
  | "ulimit" =>
    if call.args.all fun a => a.head? == some '-' then print call done "unlimited\n".toList else done
  | _ => done
where
  condition (hasBracket : Bool) : State :=
    match Test.outcome (Executable.facts c.machine.files c.process.here) hasBracket call.args with
    | (code, none) => s.withLast code
    | (_, some text) => trouble call s text

/-- What a name is, for the command that asks so. -/
def describe (call : Call) (c : Seat) (s : State) (isVerbose : Bool) (name : List Char) : State :=
  let (text, code) := described c s isVerbose name
  print call (s.withLast code) text

/-- Carries a command out. -/
def run (call : Call) (c : Seat) (s : State) (tested : Bool) : Machine :=
  match String.ofList call.name with
  | "kill" => kill call c s
  | "trap" => trap call c s
  | "cd" => changeDirectory call c s
  | "chdir" => changeDirectory call c s
  | "umask" =>
    match options "S" "" call.args with
    | .error text => c.put (trouble call s text)
    | .ok (flags, []) =>
      let octal := Nat.toDigits 8 c.process.mask
      let text := if flags.isEmpty then List.replicate (4 - octal.length) '0' ++ octal else symbolicMask c.process.mask
      c.put (print call (s.withLast 0) (text ++ ['\n']))
    | .ok (_, a :: _) =>
      match newMask c.process.mask a with
      | .error text => c.put (trouble call s text)
      | .ok mask => ({ c with machine := c.machine.modify c.number fun p => { p with mask } }).put (s.withLast 0)
  | _ => c.put (changed call c s tested)

end Builtin

end Attendant.Host.Shell

import Attendant.Host.Shell.Options
import Attendant.Host.Tools.Edit
import Attendant.Host.Tools.Lines
import Attendant.Host.Tools.Paths
import Attendant.Host.Tools.Runners
import Attendant.Host.Tools.Search

/-!
# Programs

How a process becomes a program: what a path leads to, which job the program of a name has, and how a process takes a job
up. A file is a program if it may be executed and its first line names the program that is to read it.
-/

namespace Attendant.Host.Programs

open Shell (ofBytes toBytes)
open Tools (Job Setting said complained)

/-- The job of the program of a name, with its arguments. -/
def jobOf (setting : Setting) (name : String) (args : List (List Char)) : Job :=
  match name with
  | "[" => Tools.test setting true args
  | "base64" => Tools.base64 args
  | "basename" => Tools.basename args
  | "cat" => Tools.cat args
  | "chmod" => Tools.chmod setting args
  | "cmp" => Tools.cmp args
  | "comm" => Tools.comm args
  | "cp" => Tools.cp setting args
  | "cut" => Tools.cut args
  | "date" => Tools.date args
  | "dd" => Tools.dd args
  | "diff" => Tools.diff args
  | "dirname" => Tools.dirname args
  | "echo" => Tools.echo args
  | "egrep" => Tools.grep setting "egrep" args
  | "env" => Tools.env setting args
  | "expr" => Tools.expr args
  | "false" => .finish { code := 1 }
  | "fgrep" => Tools.grep setting "fgrep" args
  | "find" => Tools.find setting args
  | "fold" => Tools.fold args
  | "grep" => Tools.grep setting "grep" args
  | "head" => Tools.head args
  | "kill" => Tools.kill args
  | "ln" => Tools.ln setting args
  | "ls" => Tools.ls setting args
  | "mkdir" => Tools.mkdir setting args
  | "mktemp" => Tools.mktemp setting args
  | "mv" => Tools.mv setting args
  | "nl" => Tools.nl args
  | "od" => Tools.od args
  | "paste" => Tools.paste args
  | "printenv" => Tools.printenv setting args
  | "printf" => Tools.printf args
  | "readlink" => Tools.realpath setting "readlink" args
  | "realpath" => Tools.realpath setting "realpath" args
  | "rev" => Tools.rev args
  | "rm" => Tools.rm setting args
  | "rmdir" => Tools.rmdir setting args
  | "sed" => Tools.sed setting args
  | "seq" => Tools.seq args
  | "sleep" => Tools.sleep args
  | "sort" => Tools.sort setting args
  | "stat" => Tools.stat setting args
  | "tac" => Tools.tac args
  | "tail" => Tools.tail args
  | "tee" => Tools.tee args
  | "test" => Tools.test setting false args
  | "timeout" => Tools.timeout args
  | "touch" => Tools.touch setting args
  | "tr" => Tools.tr args
  | "true" => .finish {}
  | "truncate" => Tools.truncate setting args
  | "uniq" => Tools.uniq args
  | "wc" => Tools.wc setting args
  | "which" => Tools.which setting args
  | "xargs" => Tools.xargs setting args
  | "yes" => .again (Shell.unwords (if args.isEmpty then [['y']] else args))
  | _ =>
    if ["nice", "nohup", "setsid", "stdbuf"].contains name then Tools.inPlace setting name args
    else (Tools.known? setting name args).getD (.shell args)

/-! ### Paths -/

/-- Removes blanks at both ends. -/
private def trimmed (s : List Char) : List Char :=
  ((s.dropWhile Shell.isBlank).reverse.dropWhile Shell.isBlank).reverse

/-- How many bytes of its first line tell what reads a file. -/
def firstLine : Nat := 255

/-- How many readers may read readers. -/
def readers : Nat := 5

/-- The program without a file that a path comes to, with its arguments, of which the first is its name. -/
def resolve (fs : Files) (here : Path) : Nat → Path → List (List Char) → Except IoFault (String × List (List Char))
  | depth, path, args =>
    let found := path.seenFrom here
    match Executable.builtIn? found with
    | some name => .ok (name, args)
    | none => do
      Executable.check fs found
      match ofBytes ((← fs.read found).take firstLine) with
      | '#' :: '!' :: rest =>
        let (reader, options) := (trimmed (rest.takeWhile (· != '\n'))).span fun c => !Shell.isBlank c
        let option := trimmed options
        let args := reader :: (if option.isEmpty then [] else [option]) ++ ofBytes path.bytes :: args.drop 1
        match depth with
        | 0 => .error Fault.tooManyLinks
        | depth + 1 => resolve fs here depth ⟨toBytes reader⟩ args
      | _ => .error Fault.notProgram

/-- The most bytes that one argument may have, with the byte that ends it. -/
def longestArgument : Nat := 131072

/-- The most bytes that all arguments and the environment may have together. -/
def longestArguments : Nat := 2097152

/-- Whether the arguments and the environment of a program fit. -/
private def fits (env : List (List Char × List Char)) (args : List (List Char)) : Bool :=
  let sizes := (args.map fun a => a.length + 1) ++ env.map fun (name, value) => name.length + value.length + 2
  sizes.all (· ≤ longestArgument) && (sizes.foldl (fun total n => total + n + 8) 0) ≤ longestArguments

/-! ### Jobs -/

/-- The files that are not what they were, or have another name. -/
private def changed (old new : Files) : List Nat :=
  let isChanged (i : Nat) : Bool := match old.bodies[i]?, new.bodies[i]? with
    | some a, some b => a.bytes != b.bytes
    | _, _ => true
  (List.range new.bodies.length).filter isChanged ++ new.names.filterMap fun (name, e) =>
    match e with
    | .file i => if old.names.lookup name != some e then some i else none
    | .directory => none

/-- What a process does that comes to a verdict. -/
def conclude (m : Machine) (n : Nat) (v : Verdict) : Machine :=
  let m := match v.change with
    | some change =>
      let files := change m.files
      { m with files, touched := changed m.files files ++ m.touched }
    | none => m
  let m := m.setTask n (match v.shell with
    | some s => .shell s
    | none => .write v.writes v.code)
  v.signals.foldl (fun m (target, signal) => m.signal target signal) m

/-- Something that a process has opened under a descriptor of its own. -/
private def keep (m : Machine) (n : Nat) (h : Handle) : Machine × Nat :=
  match m.process? n with
  | some p =>
    let descriptor := Machine.freshDescriptor p
    (m.setHandle n descriptor (some h), descriptor)
  | none => (m, 0)

/-- Opens what a process is to read, or finds out why it cannot; a dash is its input. -/
private def openSources (n : Nat) (p : Process) : List (List Char) → Machine →
    Machine × List (List Char × Except IoFault Nat)
  | [], m => (m, [])
  | name :: rest, m =>
    if name == ['-'] then
      let (m, sources) := openSources n p rest m
      (m, (name, .ok 0) :: sources)
    else
      match m.openToRead p (Machine.seen p name) with
      | .ok (m, h) =>
        if h = .nothing then
          let (m, sources) := openSources n p rest m
          (m, (name, .error Fault.isDirectory) :: sources)
        else
          let (m, descriptor) := keep m n h
          let (m, sources) := openSources n p rest m
          (m, (name, .ok descriptor) :: sources)
      | .error fault =>
        let (m, sources) := openSources n p rest m
        (m, (name, .error fault) :: sources)

/-- Opens what a process is to write, or finds out why it cannot. -/
private def openTargets (n : Nat) (p : Process) (extending : Bool) : List (List Char) → Machine →
    Machine × List (List Char × Except IoFault Nat)
  | [], m => (m, [])
  | name :: rest, m =>
    match m.openToWrite p (Machine.seen p name) extending with
    | .ok (m, h) =>
      let (m, descriptor) := keep m n h
      let (m, targets) := openTargets n p extending rest m
      (m, (name, .ok descriptor) :: targets)
    | .error fault =>
      let (m, targets) := openTargets n p extending rest m
      (m, (name, .error fault) :: targets)

/-- The descriptors of what could be opened. -/
private def opened (l : List (List Char × Except IoFault Nat)) : List Nat := l.filterMap fun (_, r) => r.toOption

/-- What is said about what could not be opened. -/
private def complaints (program : String) (l : List (List Char × Except IoFault Nat)) : Writes :=
  l.filterMap fun (name, r) =>
    match r with
    | .ok _ => none
    | .error fault =>
      let about := if program == "head" || program == "tail" then "cannot open ".toList ++ Tools.quoted name ++ " for reading".toList
        else name
      some (2, toBytes (Tools.message program [about, ": ".toList, Tools.faultText fault]))

/-- The end of a program that runs another which there is not. -/
private def refused (m : Machine) (n : Nat) (complaint : List Char) (fault : IoFault) : Machine :=
  conclude m n (complained (complaint ++ ": ".toList ++ Tools.faultText fault ++ ['\n'])
    (if fault == Fault.notFound then 127 else 126))

/-- The texts of scripts, as a process finds them. -/
private def script? (fs : Files) (p : Process) (file : List Char) : Except (List Char) (List Char) :=
  match fs.entry (Machine.seen p file) with
  | .ok (.file i) => .ok (ofBytes (fs.body i).bytes)
  | .ok .directory => .ok []
  | .error fault =>
    .error (if fault == Fault.notFound || fault == Fault.notDirectory then "No such file".toList else Tools.faultText fault)

/-- A process takes up a job; `name` is what the program has been called, and `run` how the process becomes the program at
a path. -/
private def takeUp (m : Machine) (n : Nat) (p : Process) (program : String) (env : List (List Char × List Char))
    (name : List Char) (run : Machine → Nat → Path → List (List Char × List Char) → List (List Char) → Except IoFault Machine)
    (job : Job) : Machine :=
  let runNamed (m : Machine) (n : Nat) (env : List (List Char × List Char)) (args : List (List Char)) : Except IoFault Machine := do
    let search := (env.lookup "PATH".toList).getD Executable.defaultSearch
    let path ← Executable.search? m.files p.here search (args.headD [])
    match run m n path env args with
    | .error fault =>
      if fault == Fault.notProgram then
        run m n (Path.ofString "/bin/sh") env ("/bin/sh".toList :: ofBytes path.bytes :: args.drop 1)
      else .error fault
    | .ok m => .ok m
  match job with
  | .finish v => conclude m n v
  | .digest sources judge enough =>
    let (m, sources) := openSources n p sources m
    m.setTask n (.digest sources [] [] judge enough)
  | .copy sources targets extending limit =>
    let (m, sources) := openSources n p (if sources.isEmpty then [['-']] else sources) m
    let (m, targets) := openTargets n p extending targets m
    let trouble := complaints program (sources ++ targets)
    m.setTask n (.copy (opened sources) (1 :: opened targets) trouble limit (if trouble.isEmpty then 0 else 1))
  | .transfer source target size blocks extending isQuiet =>
    let (m, sources) := openSources n p source.toList m
    let (m, targets) := openTargets n p extending target.toList m
    match (sources ++ targets).findSome? fun (name, r) => match r with
      | .error fault => some (name, fault)
      | .ok _ => none with
    | some (name, fault) =>
      conclude m n (complained (Tools.message program ["failed to open ".toList, Tools.quoted name, ": ".toList,
        Tools.faultText fault]) 1)
    | none =>
      m.setTask n (.transfer ((opened sources).headD 0) ((opened targets).headD 1) size blocks 0 0 0 [] isQuiet)
  | .sleep length => m.setTask n (.sleep length none)
  | .again line => m.setTask n (.again (toBytes (line ++ ['\n'])) [])
  | .shell args => m.setTask n (.shell (.start n (ofBytes p.here.bytes) env (name :: args) (script? m.files p)))
  | .exec env args ignored complaint =>
    match runNamed m n env args with
    | .ok m => m.modify n fun p => { p with ignored := ignored ++ p.ignored }
    | .error fault => refused m n complaint fault
  | .watch length signal args =>
    let (m, child) := m.fork n (fun _ => .write [] 0) []
    match runNamed m child env args with
    | .ok m => m.setTask n (.watch child length signal none false)
    | .error fault =>
      refused (m.finish child (.code 127)) n (Tools.message "timeout" ["failed to run command ".toList,
        Tools.quoted (args.headD [])]).dropLast fault

/-- How often programs may hand their process on to other programs in one step. -/
private def handOvers : Nat := 100

/-- A process becomes the program at a path; the first argument is its name. -/
private def execFrom : Nat → Machine → Nat → Path → List (List Char × List Char) → List (List Char) → Except IoFault Machine
  | 0, _, _, _, _, _ => .error Fault.tooManyLinks
  | fuel + 1, m, n, path, env, args =>
    match m.process? n with
    | none => .ok m
    | some p => do
      let (program, resolved) ← resolve m.files p.here readers path args
      if !fits env resolved then throw Fault.argumentsTooLong
      let m := m.setHandles n (p.handles.filter (·.1 < 100))
      let setting : Setting := { files := m.files, here := p.here, env, process := n, parent := p.parent, mask := p.mask }
      return takeUp m n p program env (resolved.headD []) (execFrom fuel) (jobOf setting program (resolved.drop 1))

/-- A process becomes the program at a path; the first argument is its name. -/
def exec (m : Machine) (n : Nat) (path : Path) (env : List (List Char × List Char)) (args : List (List Char)) :
    Except IoFault Machine := execFrom handOvers m n path env args

end Attendant.Host.Programs

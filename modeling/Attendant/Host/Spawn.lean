import Attendant.Environment
import Attendant.Host.Round
import Attendant.Supervisor

/-!
# Starting workers

How a machine starts the process that a launch describes, with a pipe to its input and pipes from its output and from its
complaints. The program is looked for before the process is there, and begun in the process, which may be in another
directory.
-/

namespace Attendant.Host

open Shell (ofBytes toBytes)

/-- A process that has been started from outside: its number, and the pipes of its three first descriptors. -/
structure Ports where
  process : Nat
  input : Nat
  output : Nat
  errors : Nat
  deriving DecidableEq, Repr, Inhabited

/-- The variables that programs see. -/
def exports (env : Environment) : List (List Char × List Char) :=
  env.entries.map fun (name, value) => (ofBytes (Utf8.encode name), ofBytes value)

/-- The directories of a search path; a tilde at the start of one is the home directory. -/
private def searched (env : Environment) (search : List UInt8) : List Path :=
  let home : Path := ⟨(env.get? "HOME").getD (Utf8.encode "/root")⟩
  (Executable.directories (ofBytes search)).map fun dir =>
    let path : Path := ⟨toBytes dir⟩
    if dir.head? == some '~' && path.parts.head? == some (toBytes ['~']) then
      ⟨home.bytes ++ (path.parts.drop 1).flatMap (0x2F :: ·)⟩
    else path

/-- The path of the program that a command names, or why there is none. -/
private def locate (fs : Files) (here : Path) (env : Environment) (command : Path) : Except String Path :=
  let isProgram (path : Path) : Bool := (Executable.check fs (path.seenFrom here)).toOption.isSome
  let missing : Except String Path := .error "cannot find binary path"
  if command.isDirected then
    let path := if command.isAbsolute then command else ⟨here.bytes ++ command.parts.flatMap (0x2F :: ·)⟩
    if isProgram path then .ok path else missing
  else
    match env.get? "PATH" with
    | none => .error "no path to search and provided name is not an absolute path"
    | some search =>
      match ((searched env search).map command.seenFrom).find? isProgram with
      | some path => .ok path
      | none => missing

namespace Machine

/-- A process becomes the first program that can be begun of those that a name leads to. -/
private def execNamed (m : Machine) (n : Nat) (env : List (List Char × List Char)) (args : List (List Char))
    (name : List Char) (isRefused : Bool) (fault : IoFault) : List (List Char) → Except IoFault Machine
  | [] => .error (if isRefused then Fault.permission else fault)
  | dir :: rest =>
    match Programs.exec m n ⟨toBytes (if dir.isEmpty then name else dir ++ '/' :: name)⟩ env args with
    | .ok m => .ok m
    | .error found =>
      if found == Fault.permission then execNamed m n env args name true found rest
      else if found == Fault.notFound || found == Fault.notDirectory then execNamed m n env args name isRefused found rest
      else .error found

/-- Where a program without a slash in its name is looked for if no search path is set. -/
private def plainSearch : List Char := "/bin:/usr/bin".toList

/-- Starts a program as a process of its own, in a directory. -/
def launchAt (m : Machine) (dir path : Path) (env : List (List Char × List Char)) (args : List (List Char)) :
    Except IoFault (Machine × Ports) := do
  let (m, input) := m.makePipe .writing
  let (m, output) := m.makePipe .reading
  let (m, errors) := m.makePipe .reading
  let (m, process) := m.start
    { parent := 0, task := .write [] 0, here := dir
      handles := [(0, .input input), (1, .output output), (2, .output errors)] }
  let search := Executable.directories ((env.lookup "PATH".toList).getD plainSearch)
  let m ← if path.bytes.contains 0x2F then Programs.exec m process path env args
    else execNamed m process env args (ofBytes path.bytes) false Fault.notFound search
  return (m.refresh, ⟨process, input, output, errors⟩)

/-- Starts the process that a launch describes, as seen from a directory. -/
def spawn (m : Machine) (here : Path) (env : Environment) (launch : Launch) :
    SpawnAnswer × Option (Machine × Ports) :=
  let bytesOf (s : String) : List Char := ofBytes (Utf8.encode s)
  match if launch.shell then .ok (Path.ofString "sh") else locate m.files here env (Path.ofString launch.command) with
  | .error reason => (.unknownCommand reason, none)
  | .ok path =>
    let args := ofBytes path.bytes ::
      if launch.shell then [bytesOf "-c", bytesOf launch.line] else launch.args.map bytesOf
    let hasNul := args.any (·.contains '\x00') || (launch.cwd.map fun p => p.bytes.contains 0).getD false
    if hasNul then (.failed "nul byte found in provided data", none)
    else
      let dir : Except IoFault Path := match launch.cwd with
        | none => .ok here
        | some cwd =>
          match m.files.find (if cwd.bytes.isEmpty then cwd else cwd.seenFrom here) with
          | .ok (name, some .directory) => .ok (Path.ofParts name)
          | .ok (_, some _) => .error Fault.notDirectory
          | .ok (_, none) => .error Fault.notFound
          | .error fault => .error fault
      match dir with
      | .error fault => (.failed fault.message, none)
      | .ok dir =>
        match m.launchAt dir path (exports env) args with
        | .ok (m, ports) => (.started, some (m, ports))
        | .error fault => (.failed fault.message, none)

end Machine

end Attendant.Host

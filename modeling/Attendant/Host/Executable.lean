import Attendant.Host.Machine
import Attendant.Host.Shell.Test

/-!
# What can be executed

Which paths stand for programs: those that a machine comes with, and files that may be executed. `Executable.search?`
says how a name leads to one of them, and `Executable.facts` what is true of files.
-/

namespace Attendant.Host.Executable

open Shell (ofBytes toBytes)

/-- The names of the programs in the two directories for them. -/
def names : List String :=
  ["[", "base64", "basename", "bash", "cat", "chmod", "cmp", "comm", "cp", "cut", "dash", "date", "dd", "diff", "dirname",
    "echo", "egrep", "env", "expr", "false", "fgrep", "find", "fold", "grep", "head", "hostname", "id", "kill", "ln", "ls",
    "mkdir", "mktemp", "mv", "nice", "nl", "nohup", "nproc", "od", "paste", "printenv", "printf", "pwd", "readlink",
    "realpath", "rev", "rm", "rmdir", "sed", "seq", "setsid", "sh", "sleep", "sort", "stat", "stdbuf", "tac", "tail", "tee",
    "test", "timeout", "touch", "tr", "true", "truncate", "tty", "uname", "uniq", "wc", "which", "whoami", "xargs", "yes"]

/-- Where programs are looked for if nothing else is said. -/
def defaultSearch : List Char := "/usr/local/sbin:/usr/local/bin:/usr/sbin:/usr/bin:/sbin:/bin".toList

/-- The program that an absolute path names without being a file. A slash at its end would ask for a directory. -/
def builtIn? (path : Path) : Option String :=
  let named (name : List UInt8) : Option String :=
    if path.bytes.getLast? == some 0x2F then none else names.find? fun s => Utf8.encode s == name
  let dir (s : String) : List UInt8 := Utf8.encode s
  match path.parts with
  | [a, name] => if a = dir "bin" then named name else none
  | [a, b, name] => if a = dir "usr" && b = dir "bin" then named name else none
  | _ => none

/-- Whether a path can be executed, or why it cannot. -/
def check (fs : Files) (path : Path) : Except IoFault Unit :=
  if (builtIn? path).isSome then .ok ()
  else do
    match ← fs.entry path with
    | .file n => if (fs.body n).mode &&& 0o111 = 0 then .error Fault.permission
    | .directory => .error Fault.permission

/-- The pieces of a search path. -/
def directories (search : List Char) : List (List Char) :=
  search.foldr (fun c pieces =>
    if c == ':' then [] :: pieces
    else match pieces with
      | piece :: rest => (c :: piece) :: rest
      | [] => [[c]]) [[]]

/-- The path of the program that a name without slashes leads to, or why there is none: the search goes on behind what
cannot be executed. -/
private def searchIn (fs : Files) (here : Path) (name : List Char) (fault : IoFault) :
    List (List Char) → Except IoFault Path
  | [] => .error fault
  | dir :: rest =>
    let path : Path := ⟨toBytes (if dir.isEmpty then name else dir ++ '/' :: name)⟩
    match check fs (path.seenFrom here) with
    | .ok () => .ok path
    | .error found => searchIn fs here name (if found == Fault.notFound || found == Fault.notDirectory then fault else found) rest

/-- The path of the program that a name leads to, or why there is none. A name with a slash is a path, whether there is a
program or not. -/
def search? (fs : Files) (here : Path) (search name : List Char) : Except IoFault Path :=
  if name.contains '/' then .ok ⟨toBytes name⟩ else searchIn fs here name Fault.notFound (directories search)

/-- What is true of files, as a process sees them. -/
def facts (fs : Files) (here : Path) : Shell.FileFacts :=
  let seen (s : List Char) : Path := Machine.seenAt here s
  let entry (s : List Char) : Option Entry := (fs.entry (seen s)).toOption
  let body (s : List Char) : Option Body := match entry s with
    | some (.file n) => some (fs.body n)
    | _ => none
  let isProgram (s : List Char) : Bool := (builtIn? (seen s)).isSome
  let has (s : List Char) (is : Body → Bool) : Bool := ((body s).map is).getD false
  { one := fun letter s =>
      match letter with
      | 'e' => (entry s).isSome || isProgram s
      | 'r' => (entry s).isSome || isProgram s
      | 'w' => (entry s).isSome || isProgram s
      | 'O' => (entry s).isSome || isProgram s
      | 'G' => (entry s).isSome || isProgram s
      | 'f' => has s (·.kind = .plain) || isProgram s
      | 'd' => entry s == some .directory
      | 'c' => has s (·.kind != .plain)
      | 's' => entry s == some .directory || has s (!·.bytes.isEmpty) || isProgram s
      | 'x' => (check fs (seen s)).toOption.isSome || entry s == some .directory
      | _ => false
    two := fun op a b =>
      match op, entry a, entry b with
      | "-ef", some x, some y => if x = .directory && y = .directory then
          (fs.find (seen a)).toOption.map (·.1) == (fs.find (seen b)).toOption.map (·.1) else x = y
      | "-nt", some (.file m), some (.file n) => n < m
      | "-ot", some (.file m), some (.file n) => m < n
      | _, _, _ => false }

end Attendant.Host.Executable

import Attendant.Frame.Basic
import Attendant.Path

/-!
# Files

The files and directories of a host. A name stands for a directory or for a numbered file; the bytes belong to the
number, so an open file stays what it is when its name is removed or given to another.
-/

namespace Attendant.Host

/-- What a name stands for. -/
inductive Entry where
  | directory
  | file (number : Nat)
  deriving DecidableEq, Repr

/-- What happens to what is written to a file, and what is read from it: it is kept, or it is swallowed and there is
nothing to read, or there are zero bytes without end. -/
inductive BodyKind where
  | plain
  | sink
  | zeros
  deriving DecidableEq, Repr, Inhabited

/-- The bytes of a file, and its permissions. -/
structure Body where
  bytes : List UInt8
  mode : Nat := 0o644
  kind : BodyKind := .plain
  deriving Repr, Inhabited

/-- All files and directories, under their full names. -/
structure Files where
  names : List (List (List UInt8) × Entry) := []
  bodies : List Body := []
  deriving Repr, Inhabited

namespace Fault

/-- There is nothing of that name. -/
def notFound : IoFault := ⟨"NotFound", "No such file or directory (os error 2)"⟩

/-- A part of the way is not a directory. -/
def notDirectory : IoFault := ⟨"NotADirectory", "Not a directory (os error 20)"⟩

/-- A directory cannot be read or written as a file. -/
def isDirectory : IoFault := ⟨"IsADirectory", "Is a directory (os error 21)"⟩

/-- The name is taken. -/
def nameTaken : IoFault := ⟨"AlreadyExists", "File exists (os error 17)"⟩

/-- The permissions do not allow it. -/
def permission : IoFault := ⟨"PermissionDenied", "Permission denied (os error 13)"⟩

/-- A part of the name, or the whole of it, is too long. -/
def nameTooLong : IoFault := ⟨"InvalidFilename", "File name too long (os error 36)"⟩

/-- The name holds a zero byte. -/
def zeroInName : IoFault := ⟨"InvalidInput", "file name contained an unexpected NUL byte"⟩

/-- The names lead in a circle. -/
def tooManyLinks : IoFault := ⟨"FilesystemLoop", "Too many levels of symbolic links (os error 40)"⟩

/-- There are too many arguments, or too long ones. -/
def argumentsTooLong : IoFault := ⟨"ArgumentListTooLong", "Argument list too long (os error 7)"⟩

/-- The directory holds something. -/
def notEmpty : IoFault := ⟨"DirectoryNotEmpty", "Directory not empty (os error 39)"⟩

/-- The file is not a program. -/
def notProgram : IoFault := ⟨"Uncategorized", "Exec format error (os error 8)"⟩

end Fault

namespace Files

/-- What a full name stands for. The root is always there. -/
def at? (fs : Files) (parts : List (List UInt8)) : Option Entry :=
  if parts.isEmpty then some .directory else fs.names.lookup parts

/-- The most bytes that a part of a name may have. -/
def longestPart : Nat := 255

/-- The most bytes that a name may have. -/
def longestName : Nat := 4095

/-- Follows a path: its full name, and what it stands for, if anything. All but the last part have to be
directories. -/
private def walk (fs : Files) (done : List (List UInt8)) :
    List (List UInt8) → Except IoFault (List (List UInt8) × Option Entry)
  | [] => .ok (done, fs.at? done)
  | part :: rest =>
    match fs.at? done with
    | none => .error Fault.notFound
    | some (.file _) => .error Fault.notDirectory
    | some .directory =>
      if longestPart < part.length then .error Fault.nameTooLong
      else if part = Path.above then walk fs done.dropLast rest
      else walk fs (done ++ [part]) rest

/-- Looks a path up. A slash at its end asks for a directory. -/
def find (fs : Files) (p : Path) : Except IoFault (List (List UInt8) × Option Entry) := do
  if p.bytes.contains 0 then .error Fault.zeroInName
  if longestName < p.bytes.length then .error Fault.nameTooLong
  if p.bytes.isEmpty then .error Fault.notFound
  let (name, entry) ← walk fs [] p.parts
  match entry with
  | some (.file _) => if p.bytes.getLast? == some 0x2F then .error Fault.notDirectory else return (name, entry)
  | _ => return (name, entry)

/-- What a path stands for; it has to stand for something. -/
def entry (fs : Files) (p : Path) : Except IoFault Entry := do
  match ← fs.find p with
  | (_, some e) => return e
  | (_, none) => .error Fault.notFound

/-- Whether a path stands for anything. -/
def exists? (fs : Files) (p : Path) : Bool := (fs.entry p).toOption.isSome

/-- The body of a file. -/
def body (fs : Files) (number : Nat) : Body := fs.bodies[number]?.getD default

/-- The names of some files. -/
def namesOf (fs : Files) (numbers : List Nat) : List (List (List UInt8)) :=
  fs.names.filterMap fun (name, e) =>
    match e with
    | .file n => if numbers.contains n then some name else none
    | .directory => none

/-- Whether a name does not come after another, both by the numbers of their characters. -/
def inOrder (a b : List Nat) : Bool := !List.lex b a Nat.blt

/-- The names of what a directory holds, in the order of their bytes. -/
def list (fs : Files) (dir : List (List UInt8)) : List (List UInt8) :=
  let held := fs.names.filterMap fun (name, _) => if name.dropLast == dir then name.getLast? else none
  held.mergeSort fun a b => inOrder (a.map (·.toNat)) (b.map (·.toNat))

/-- The size that a directory is said to have. -/
def directorySize : Nat := 4096

/-- The size of what a path stands for. -/
def size (fs : Files) (p : Path) : Except IoFault Nat := do
  match ← fs.entry p with
  | .directory => return directorySize
  | .file n => return (fs.body n).bytes.length

/-- Reads a whole file. -/
def read (fs : Files) (p : Path) : Except IoFault (List UInt8) := do
  match ← fs.entry p with
  | .directory => .error Fault.isDirectory
  | .file n => return (fs.body n).bytes

/-- Changes the body of a file. -/
def setBody (fs : Files) (number : Nat) (f : Body → Body) : Files := { fs with bodies := fs.bodies.modify number f }

/-- Adds bytes at the end of a file. -/
def extend (fs : Files) (number : Nat) (bytes : List UInt8) : Files :=
  fs.setBody number fun b => if b.kind = .plain then { b with bytes := b.bytes ++ bytes } else b

private def setName (fs : Files) (name : List (List UInt8)) (e : Entry) : Files :=
  { fs with names := fs.names.filter (·.1 != name) ++ [(name, e)] }

/-- A new file of a full name. -/
private def make (fs : Files) (name : List (List UInt8)) (b : Body) : Files × Nat :=
  let n := fs.bodies.length
  (setName { fs with bodies := fs.bodies ++ [b] } name (.file n), n)

/-- The permissions that a new file usually has. -/
def usualMode : Nat := 0o644

/-- Opens a file to write it: it is made with some permissions if need be, and emptied unless it is to be extended. -/
def openToWrite (fs : Files) (p : Path) (extending : Bool) (mode : Nat) : Except IoFault (Files × Nat) := do
  match ← fs.find p with
  | (_, some .directory) => .error Fault.isDirectory
  | (_, some (.file n)) => return (if extending then fs else fs.setBody n fun b => { b with bytes := [] }, n)
  | (name, none) => if p.bytes.getLast? == some 0x2F then .error Fault.isDirectory else return make fs name { bytes := [], mode }

/-- Writes a whole file. -/
def write (fs : Files) (p : Path) (bytes : List UInt8) : Except IoFault Files := do
  let (fs, n) ← fs.openToWrite p false usualMode
  return fs.extend n bytes

/-- Adds bytes to a file that is there. -/
def append (fs : Files) (p : Path) (bytes : List UInt8) : Except IoFault Files := do
  match ← fs.entry p with
  | .directory => .error Fault.isDirectory
  | .file n => return fs.extend n bytes

/-- Puts a new file in the place of a name, whatever file the name stood for. -/
def replace (fs : Files) (p : Path) (bytes : List UInt8) : Except IoFault Files := do
  match ← fs.find p with
  | (_, some .directory) => .error Fault.isDirectory
  | (name, _) => return (make fs name { bytes }).1

/-- Removes the name of a file. -/
def remove (fs : Files) (p : Path) : Except IoFault Files := do
  match ← fs.find p with
  | (name, some (.file _)) => return { fs with names := fs.names.filter (·.1 != name) }
  | (_, some .directory) => .error Fault.isDirectory
  | (_, none) => .error Fault.notFound

/-- Makes a directory. -/
def makeDirectory (fs : Files) (p : Path) : Except IoFault Files := do
  match ← fs.find p with
  | (_, some _) => .error Fault.nameTaken
  | (name, none) => return setName fs name .directory

/-- Removes a directory and everything below it. -/
def removeDirectory (fs : Files) (p : Path) : Except IoFault Files := do
  match ← fs.find p with
  | (name, some .directory) => return { fs with names := fs.names.filter fun (n, _) => !name.isPrefixOf n }
  | (_, some (.file _)) => .error Fault.notDirectory
  | (_, none) => .error Fault.notFound

/-- Removes a directory that holds nothing. -/
def removeEmpty (fs : Files) (p : Path) : Except IoFault Files := do
  match ← fs.find p with
  | (name, some .directory) =>
    if (fs.list name).isEmpty then return { fs with names := fs.names.filter (·.1 != name) } else .error Fault.notEmpty
  | (_, some (.file _)) => .error Fault.notDirectory
  | (_, none) => .error Fault.notFound

private def makeParts (fs : Files) (done : List (List UInt8)) : List (List UInt8) → Except IoFault Files
  | [] => .ok fs
  | part :: rest =>
    let name := if part = Path.above then done.dropLast else done ++ [part]
    match fs.at? name with
    | some .directory => makeParts fs name rest
    | some (.file _) => .error (if rest.isEmpty then Fault.nameTaken else Fault.notDirectory)
    | none => makeParts (setName fs name .directory) name rest

/-- Makes a directory and all that lead to it. -/
def makeDirectories (fs : Files) (p : Path) : Except IoFault Files := makeParts fs [] p.parts

/-- Gives what a name stands for another name, whatever that name stood for. -/
def rename (fs : Files) (p q : Path) : Except IoFault Files := do
  let (name, entry) ← fs.find p
  let (other, found) ← fs.find q
  match entry, found with
  | none, _ => .error Fault.notFound
  | some (.file n), some .directory => let _ := n; .error Fault.isDirectory
  | some .directory, some (.file _) => .error Fault.notDirectory
  | some _, _ =>
    if name == other then return fs
    let kept := fs.names.filter fun (n, _) => n != other
    return { fs with names := kept.map fun (n, e) => (if name.isPrefixOf n then other ++ n.drop name.length else n, e) }

/-- Gives a file a second name. -/
def link (fs : Files) (p q : Path) : Except IoFault Files := do
  match ← fs.entry p, ← fs.find q with
  | .directory, _ => .error Fault.permission
  | _, (_, some _) => .error Fault.nameTaken
  | .file n, (name, none) => return setName fs name (.file n)

/-- The files that a host starts with: some directories, a file that swallows what is written to it, and one that is
full of zero bytes. -/
def initial : Files :=
  let names := ["/bin", "/dev", "/etc", "/root", "/tmp", "/usr", "/usr/bin"].map fun name =>
    ((Path.ofString name).parts, Entry.directory)
  let (fs, _) := make { names } (Path.ofString "/dev/null").parts { bytes := [], mode := 0o666, kind := .sink }
  (make fs (Path.ofString "/dev/zero").parts { bytes := [], mode := 0o666, kind := .zeros }).1

/-- Gives a file its permissions. -/
def permit (fs : Files) (p : Path) (mode : Nat) : Files :=
  match fs.entry p with
  | .ok (.file n) => fs.setBody n fun b => { b with mode }
  | _ => fs

end Files

end Attendant.Host

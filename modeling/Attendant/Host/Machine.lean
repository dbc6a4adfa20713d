import Attendant.Host.Files
import Attendant.Host.Shell.State
import Attendant.Host.Signals
import Attendant.Pipe

/-!
# The machine

Processes, the pipes between them, and the files they share. A process holds handles under numbers, its descriptors;
those from a hundred on are its own and are not handed on. A pipe has come to its end for its reader when nobody holds
the writing end, and is broken for its writer when nobody holds the reading end; one of the two ends may be held from
outside.

* `Machine.readFrom` and `Machine.writeTo` move bytes through a handle;
* `Machine.fork`, `Machine.finish` and `Machine.signal` begin and end processes.
-/

namespace Attendant.Host

/-- What a descriptor stands for: an end of a pipe, an open file that is read, a file that is written at its end, or
nothing at all. -/
inductive Handle where
  | input (pipe : Nat)
  | output (pipe : Nat)
  | reader (opened : Nat)
  | writer (file : Nat)
  | nothing
  deriving DecidableEq, Repr, Inhabited

/-- How much of its input a program copies: all, or all and then what is added to it, or so many bytes or lines. -/
inductive Limit where
  | all
  | endless
  | bytes (n : Nat)
  | lines (n : Nat)
  deriving DecidableEq, Repr

/-- What is to be written, in order, with the descriptors that it is written under. -/
abbrev Writes := List (Nat × List UInt8)

/-- Something that a program reads, by its name: what it holds, or why it cannot be read. -/
structure Source where
  name : List Char
  content : Except IoFault (List UInt8)

/-- What a program comes to when it has read all its input: what it writes and the code with which it ends, what it does to
the files, the signals that it sends to processes, or the shell that it becomes. -/
structure Verdict where
  writes : Writes := []
  code : Nat := 0
  change : Option (Files → Files) := none
  signals : List (Nat × Nat) := []
  shell : Option Shell.State := none

/-- What a process does: it is a shell, or copies its sources to its targets, or copies so many blocks of a size, or reads
its sources and then judges them, or sleeps, or watches a child and ends it after a while, or writes the same again and
again, or writes what it has to and ends. A program that judges may have enough before its input has ended. -/
inductive Task where
  | shell (state : Shell.State)
  | copy (sources targets : List Nat) (pending : Writes) (limit : Limit) (code : Nat)
  | transfer (source target size : Nat) (blocks : Option Nat) (full partials total : Nat) (pending : Writes) (isQuiet : Bool)
  | digest (sources : List (List Char × Except IoFault Nat)) (held : List UInt8) (taken : List Source)
      (judge : List Source → Verdict) (enough : List UInt8 → Bool)
  | sleep (length : Option Nat) (due : Option Nat)
  | watch (child length signal : Nat) (due : Option Nat) (isLate : Bool)
  | again (bytes pending : List UInt8)
  | write (pending : Writes) (code : Nat)

/-- A process. New files get no permission that is in its mask. One that has been stopped does nothing, and the signals
that it is sent wait until it goes on. -/
structure Process where
  parent : Nat
  task : Task
  handles : List (Nat × Handle) := []
  here : Path
  ignored : List Nat := []
  mask : Nat := 0o022
  isStopped : Bool := false
  waiting : List Nat := []
  status : Option ExitStatus := none

/-- Which end of a pipe is held from outside. -/
inductive Side where
  | neither
  | writing
  | reading
  deriving DecidableEq, Repr

/-- A machine. `touched` are the files that have been written since somebody asked; `opened` has the number of each open
file, and how far it has been read. -/
structure Machine where
  files : Files := {}
  touched : List Nat := []
  opened : List (Nat × Nat) := []
  pipes : List (Pipe × Side) := []
  processes : List (Nat × Process) := []
  nextProcess : Nat := 1000

namespace Machine

/-- A process by its number. -/
def process? (m : Machine) (n : Nat) : Option Process := m.processes.lookup n

/-- Changes a process. -/
def modify (m : Machine) (n : Nat) (f : Process → Process) : Machine :=
  { m with processes := m.processes.map fun (k, p) => if k = n then (k, f p) else (k, p) }

/-- Puts a process to a task. -/
def setTask (m : Machine) (n : Nat) (task : Task) : Machine := m.modify n fun p => { p with task }

/-- Whether anyone holds a handle. -/
private def isHeld (m : Machine) (h : Handle) : Bool := m.processes.any fun (_, p) => p.handles.any fun (_, k) => k == h

/-- Closes the ends of pipes that nobody holds any more. -/
def refresh (m : Machine) : Machine :=
  let close (pipe : Pipe) (side : Side) (i : Nat) : Pipe :=
    let pipe := if pipe.hasWriter && side != .writing && !m.isHeld (.output i) then pipe.closeWriter else pipe
    if pipe.hasReader && side != .reading && !m.isHeld (.input i) then pipe.closeReader else pipe
  { m with pipes := m.pipes.mapIdx fun i (pipe, side) => (close pipe side i, side) }

/-- Gives a process other handles. -/
def setHandles (m : Machine) (n : Nat) (handles : List (Nat × Handle)) : Machine :=
  (m.modify n fun p => { p with handles }).refresh

/-- A new pipe. -/
def makePipe (m : Machine) (side : Side) : Machine × Nat :=
  ({ m with pipes := m.pipes ++ [(.empty Pipe.usual, side)] }, m.pipes.length)

/-- A new process. -/
def start (m : Machine) (p : Process) : Machine × Nat :=
  ({ m with processes := m.processes ++ [(m.nextProcess, p)], nextProcess := m.nextProcess + 1 }, m.nextProcess)

/-- A process has ended. Its handles are closed; those of its children that have ended are forgotten. -/
def finish (m : Machine) (n : Nat) (status : ExitStatus) : Machine :=
  let m := m.modify n fun p => { p with handles := [], status := some status }
  { m with processes := m.processes.filter fun (_, p) => !(p.parent = n && p.status.isSome) }.refresh

/-- A signal reaches a process. A shell may have something to do at it, and a process that watches another hands it on. -/
private def deliver (m : Machine) (n : Nat) (p : Process) (signal : Nat) : Machine :=
  let rest := if Signals.isHarmless signal then m
    else if Signals.isStop signal then m.modify n fun p => { p with isStopped := true }
    else m.finish n (.signal signal)
  if signal = Signals.kill then m.finish n (.signal signal)
  else if p.ignored.contains signal then m
  else match p.task with
    | .shell s =>
      if (s.traps.lookup signal).isSome then m.setTask n (.shell { s with caught := s.caught ++ [signal] }) else rest
    | _ => rest

/-- Sends a signal to a process. The first signal sent to one that is watched goes to both. -/
def signal (m : Machine) (n : Nat) (signal : Nat) : Machine :=
  match m.process? n with
  | none => m
  | some p =>
    if p.status.isSome || signal = 0 then m
    else if signal = Signals.goOn then
      let m := m.modify n fun p => { p with isStopped := false, waiting := [] }
      (signal :: p.waiting).foldl (fun m waiting =>
        match m.process? n with
        | some p => if p.status.isSome then m else m.deliver n p waiting
        | none => m) m
    else if p.isStopped && signal != Signals.kill then
      m.modify n fun p => { p with waiting := p.waiting ++ [signal] }
    else match p.task with
      | .watch child _ _ _ _ =>
        if signal = Signals.kill || Signals.isHarmless signal then m.deliver n p signal
        else match m.process? child with
          | some watched => if watched.status.isSome then m else m.deliver child watched signal
          | none => m
      | _ => m.deliver n p signal

/-- What comes of reading. -/
inductive ReadAnswer where
  | blocked
  | ended
  | data (bytes : List UInt8) (m : Machine)

/-- The most bytes that are read at once. -/
def chunk : Nat := 65536

/-- Reads at most so many bytes, and none after the first for which `stop` holds. -/
def readFrom (m : Machine) (h : Handle) (limit : Nat) (stop : UInt8 → Bool) : ReadAnswer :=
  let cut (bytes : List UInt8) : List UInt8 :=
    let (start, rest) := (bytes.take limit).span fun b => !stop b
    start ++ rest.take 1
  match h with
  | .input i =>
    match m.pipes[i]? with
    | some (pipe, side) =>
      if !pipe.bytes.isEmpty then
        let taken := cut pipe.bytes
        .data taken { m with pipes := m.pipes.set i ({ pipe with bytes := pipe.bytes.drop taken.length }, side) }
      else if pipe.hasWriter then .blocked
      else .ended
    | none => .ended
  | .reader i =>
    match m.opened[i]? with
    | some (file, offset) =>
      let body := m.files.body file
      let taken := cut (if body.kind = .zeros then List.replicate limit 0 else body.bytes.drop offset)
      if taken.isEmpty then .ended
      else .data taken { m with opened := m.opened.set i (file, offset + taken.length) }
    | none => .ended
  | _ => .ended

/-- Puts back the last bytes that have been read from a file; what has been read from a pipe is gone. -/
def giveBack (m : Machine) (h : Handle) (count : Nat) : Machine :=
  match h with
  | .reader i => { m with opened := m.opened.modify i fun (file, offset) => (file, offset - count) }
  | _ => m

/-- What comes of writing. -/
inductive WriteAnswer where
  | blocked
  | broken
  | written (rest : List UInt8) (m : Machine)

/-- Writes bytes; those that there is no room for come back. -/
def writeTo (m : Machine) (h : Handle) (bytes : List UInt8) : WriteAnswer :=
  match h with
  | .output i =>
    match m.pipes[i]? with
    | some (pipe, side) =>
      if !pipe.hasReader then .broken
      else if pipe.room = 0 then .blocked
      else
        let (pipe, rest) := pipe.write bytes
        .written rest { m with pipes := m.pipes.set i (pipe, side) }
    | none => .broken
  | .writer file => .written [] { m with files := m.files.extend file bytes, touched := file :: m.touched }
  | _ => .written [] m

/-- A path as it is seen from a directory; the empty path leads nowhere. -/
def seenAt (here : Path) (path : List Char) : Path :=
  if path.isEmpty then ⟨[]⟩ else Path.seenFrom ⟨Shell.toBytes path⟩ here

/-- A path as a process sees it. -/
def seen (p : Process) (path : List Char) : Path := seenAt p.here path

/-- The descriptor that a path stands for. -/
private def descriptor? (path : Path) : Option Nat :=
  match path.parts.map fun part => String.ofList (Shell.ofBytes part) with
  | ["dev", "stdin"] => some 0
  | ["dev", "stdout"] => some 1
  | ["dev", "stderr"] => some 2
  | ["dev", "fd", n] => n.toNat?
  | ["proc", "self", "fd", n] => n.toNat?
  | _ => none

/-- Opens a file for a process to read it; a directory can be opened, but there is nothing to read. -/
def openToRead (m : Machine) (p : Process) (path : Path) : Except IoFault (Machine × Handle) := do
  match (descriptor? path).bind fun d => p.handles.lookup d with
  | some h => return (m, h)
  | none =>
    match ← m.files.entry path with
    | .file n => return ({ m with opened := m.opened ++ [(n, 0)] }, .reader m.opened.length)
    | .directory => return (m, .nothing)

/-- Opens a file for a process to write it. -/
def openToWrite (m : Machine) (p : Process) (path : Path) (extending : Bool) : Except IoFault (Machine × Handle) := do
  match (descriptor? path).bind fun d => p.handles.lookup d with
  | some h => return (m, h)
  | none =>
    let (files, n) ← m.files.openToWrite path extending (0o666 - (p.mask &&& 0o666))
    return ({ m with files, touched := n :: m.touched }, .writer n)

/-- The handle under a descriptor. -/
def handle? (m : Machine) (n descriptor : Nat) : Option Handle := (m.process? n).bind fun p => p.handles.lookup descriptor

/-- Puts a handle under a descriptor, or closes the descriptor. -/
def setHandle (m : Machine) (n descriptor : Nat) (h : Option Handle) : Machine :=
  match m.process? n with
  | some p =>
    m.setHandles n (p.handles.filter (·.1 != descriptor) ++ (h.map fun h => (descriptor, h)).toList)
  | none => m

/-- The first descriptor of its own that a process does not use. -/
def freshDescriptor (p : Process) : Nat := (p.handles.foldl (fun n (d, _) => max n (d + 1)) 100)

/-- A copy of a process with another task. -/
def fork (m : Machine) (n : Nat) (task : Nat → Task) (moved : List (Nat × Handle)) : Machine × Nat :=
  match m.process? n with
  | some p =>
    let kept := p.handles.filter fun (d, _) => d < 100 && (moved.lookup d).isNone
    m.start { p with parent := n, task := task m.nextProcess, handles := kept ++ moved }
  | none => (m, 0)

/-- A child that has ended, and the machine without it. -/
def reap? (m : Machine) (n : Nat) : Option (ExitStatus × Machine) :=
  match m.process? n with
  | some p => p.status.map fun status => (status, { m with processes := m.processes.filter (·.1 != n) })
  | none => some (.code 127, m)

end Machine

end Attendant.Host

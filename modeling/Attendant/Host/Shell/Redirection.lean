import Attendant.Host.Programs

/-!
# Redirections

What a redirection does to the descriptors of a shell, and how it is undone. What a redirection replaces is put away under
descriptors that are not handed on; `undo` puts it back.
-/

namespace Attendant.Host.Shell

open Machine

/-- A redirection whose target is known. -/
structure Redirection where
  descriptor : Nat
  direction : Direction
  target : List Char
  deriving Repr

namespace Redirection

/-- What is said about a target: the fault in the words of a shell. -/
private def reason (absent : String) (fault : IoFault) : List Char :=
  if fault == Fault.notFound || fault == Fault.notDirectory then absent.toList else Tools.faultText fault

/-- The handle that a redirection leads to, or what is said if there is none; no handle closes the descriptor. -/
private def handle? (m : Machine) (n : Nat) (p : Process) (isCareful : Bool) (r : Redirection) :
    Except (List Char) (Machine × Option Handle) :=
  let path := seen p r.target
  let reading := (m.openToRead p path).mapError fun fault =>
    "cannot open ".toList ++ r.target ++ ": ".toList ++ reason "No such file" fault
  let trouble (text : List Char) : List Char := "cannot create ".toList ++ r.target ++ ": ".toList ++ text
  let writing (extending : Bool) := (m.openToWrite p path extending).mapError fun fault =>
    trouble (reason "Directory nonexistent" fault)
  let some' (x : Machine × Handle) : Machine × Option Handle := (x.1, some x.2)
  match r.direction with
  | .from => reading.map some'
  | .onto =>
    let isTaken := match m.files.entry path with
      | .ok (.file i) => (m.files.body i).kind = .plain
      | _ => false
    if isCareful && isTaken then .error (trouble "File exists".toList) else (writing false).map some'
  | .anew => (writing false).map some'
  | .append => (writing true).map some'
  | .both =>
    match writing true with
    | .error text => .error text
    | .ok (m, _) => ((m.openToRead p path).mapError fun fault => trouble (Tools.faultText fault)).map some'
  | .copy =>
    if r.target == ['-'] then .ok (m, none)
    else match ((String.ofList r.target).toNat?).bind fun d => m.handle? n d with
      | some h => .ok (m, some h)
      | none => .error (r.target ++ ": Bad file descriptor".toList)
  | .here =>
    let (m, pipe) := m.makePipe .neither
    let m := { m with pipes := m.pipes.modify pipe fun (p, side) => ({ p with bytes := toBytes r.target }, side) }
    .ok (m, some (.input pipe))

/-- Does redirections one after the other; what they replace is put away. If one is not possible, what is said about it
comes with what has been put away until then. -/
def perform (n : Nat) (isCareful : Bool) : List Redirection → Machine → List (Nat × Option Nat) →
    Machine × List (Nat × Option Nat) × Option (List Char)
  | [], m, moved => (m, moved, none)
  | r :: rest, m, moved =>
    match m.process? n with
    | none => (m, moved, none)
    | some p =>
      match r.handle? m n p isCareful with
      | .error text => (m, moved, some text)
      | .ok (m, h) =>
        let others := p.handles.filter (·.1 != r.descriptor)
        let new := (h.map fun h => (r.descriptor, h)).toList
        match p.handles.lookup r.descriptor with
        | some old =>
          let away := freshDescriptor p
          perform n isCareful rest (m.setHandles n ((away, old) :: others ++ new)) ((r.descriptor, some away) :: moved)
        | none => perform n isCareful rest (m.setHandles n (others ++ new)) ((r.descriptor, none) :: moved)

/-- Puts back what has been put away. -/
def undo (n : Nat) (moved : List (Nat × Option Nat)) (m : Machine) : Machine :=
  moved.foldl (fun m (descriptor, away) =>
    match away with
    | some away =>
      match m.handle? n away with
      | some h => (m.setHandle n descriptor (some h)).setHandle n away none
      | none => m
    | none => m.setHandle n descriptor none) m

/-- Lets redirections stay as they are. -/
def settle (n : Nat) (moved : List (Nat × Option Nat)) (m : Machine) : Machine :=
  moved.foldl (fun m (_, away) =>
    match away with
    | some away => m.setHandle n away none
    | none => m) m

end Redirection

end Attendant.Host.Shell

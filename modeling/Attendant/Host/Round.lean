import Attendant.Host.Shell.Run

/-!
# Rounds

One step of any process, and rounds in which each process makes one. Time stands still meanwhile; `Machine.nextDue?` is
the next moment at which a sleeper wakes.
-/

namespace Attendant.Host.Machine

/-- Writes the first of what a process has to write; `again` is its task with the rest. A broken pipe ends it. -/
private def writeNext (m : Machine) (n : Nat) (p : Process) (descriptor : Nat) (bytes : List UInt8)
    (again : List UInt8 → Task) : Option Machine :=
  if bytes.isEmpty then some (m.setTask n (again []))
  else match p.handles.lookup descriptor with
    | none => some (m.setTask n (again []))
    | some h =>
      match m.writeTo h bytes with
      | .blocked => none
      | .broken =>
        some (if p.ignored.contains Signals.brokenPipe then m.finish n (.code 1) else m.signal n Signals.brokenPipe)
      | .written rest m => some (m.setTask n (again rest))

/-- What is left to write: nothing under a descriptor whose bytes have all been written. -/
private def rest (descriptor : Nat) (bytes : List UInt8) (more : Writes) : Writes :=
  if bytes.isEmpty then more else (descriptor, bytes) :: more

/-- The bytes of some input up to and with its last line within a limit, and how many lines may still come. -/
private def takeLines : Nat → List UInt8 → List UInt8 × Nat
  | 0, _ => ([], 0)
  | n, [] => ([], n)
  | n + 1, b :: bytes =>
    let (taken, left) := takeLines (if b = 10 then n else n + 1) bytes
    (b :: taken, left)

/-- How much a program reads at once that looks for lines. -/
private def lineBlock : Nat := 8192

/-- One step of a program that copies. What it has read of a file behind the last line that it wants, it gives back. -/
private def stepCopy (m : Machine) (n : Nat) (p : Process) (sources targets : List Nat) (pending : Writes) (limit : Limit)
    (code : Nat) : Option Machine :=
  match pending with
  | (descriptor, bytes) :: more =>
    writeNext m n p descriptor bytes fun bytes => .copy sources targets (rest descriptor bytes more) limit code
  | [] =>
    match sources, limit with
    | [], _ => some (m.finish n (.code code))
    | _, .bytes 0 => some (m.finish n (.code code))
    | _, .lines 0 => some (m.finish n (.code code))
    | source :: others, limit =>
      match p.handles.lookup source with
      | none => some (m.setTask n (.copy others targets [] limit code))
      | some h =>
        let count := match limit with
          | .bytes k => min k chunk
          | .lines _ => lineBlock
          | _ => chunk
        match m.readFrom h count (fun _ => false) with
        | .blocked => none
        | .ended =>
          let isFile := match h with
            | .reader _ => true
            | _ => false
          if limit = .endless && isFile && others.isEmpty then none
          else some (m.setTask n (.copy others targets [] limit code))
        | .data bytes m =>
          let (taken, limit) : List UInt8 × Limit := match limit with
            | .bytes k => (bytes, .bytes (k - bytes.length))
            | .lines k =>
              let (taken, k) := takeLines k bytes
              (taken, .lines k)
            | limit => (bytes, limit)
          let m := m.giveBack h (bytes.length - taken.length)
          some (m.setTask n (.copy (source :: others) targets (targets.map fun d => (d, taken)) limit code))

/-- What a program says that has copied blocks. -/
private def blockReport (full partials total : Nat) : List Char :=
  let count := Shell.digits full ++ '+' :: Shell.digits partials ++ " records ".toList
  count ++ "in\n".toList ++ count ++ "out\n".toList ++ Shell.digits total ++ " bytes copied, 0 s, 0 B/s\n".toList

/-- One step of a process that is at its task. -/
private def stepTask (now : Nat) (m : Machine) (n : Nat) (p : Process) : Option Machine :=
  match p.task with
  | .shell s => Shell.step m n p s
  | .copy sources targets pending limit code => stepCopy m n p sources targets pending limit code
  | .transfer source target size blocks full partials total pending isQuiet =>
    match pending with
    | (descriptor, bytes) :: more =>
      writeNext m n p descriptor bytes fun bytes =>
        .transfer source target size blocks full partials total (rest descriptor bytes more) isQuiet
    | [] =>
      let ending : Machine := m.setTask n (.write (if isQuiet then []
        else [(2, Shell.toBytes (blockReport full partials total))]) 0)
      if blocks == some (full + partials) then some ending
      else match p.handles.lookup source with
        | none => some ending
        | some h =>
          match m.readFrom h size (fun _ => false) with
          | .blocked => none
          | .ended => some ending
          | .data bytes m =>
            let isFull := bytes.length = size
            some (m.setTask n (.transfer source target size blocks (if isFull then full + 1 else full)
              (if isFull then partials else partials + 1) (total + bytes.length) [(target, bytes)] isQuiet))
  | .digest sources held taken judge enough =>
    match sources with
    | [] => some (Programs.conclude m n (judge taken.reverse))
    | (name, .error fault) :: others =>
      some (m.setTask n (.digest others [] (⟨name, .error fault⟩ :: taken) judge enough))
    | (name, .ok source) :: others =>
      let arrived : Machine := m.setTask n (.digest others [] (⟨name, .ok held⟩ :: taken) judge enough)
      match p.handles.lookup source with
      | none => some arrived
      | some h =>
        match m.readFrom h chunk (fun _ => false) with
        | .blocked => none
        | .ended => some arrived
        | .data bytes m =>
          let held := held ++ bytes
          if enough held then some (Programs.conclude m n (judge ((⟨name, .ok held⟩ :: taken).reverse)))
          else some (m.setTask n (.digest sources held taken judge enough))
  | .sleep length due =>
    match length, due with
    | none, _ => none
    | some length, none => some (m.setTask n (.sleep (some length) (some (now + length))))
    | some _, some due => if due ≤ now then some (m.finish n (.code 0)) else none
  | .watch child length signal due isLate =>
    match m.process? child with
    | none => some (m.finish n (.code 0))
    | some watched =>
      match watched.status, due with
      | some (.code code), _ => some (m.finish n (.code (if isLate then 124 else code)))
      | some (.signal k), _ =>
        some (m.finish n (if isLate && k != Signals.kill then .code 124 else if isLate then .code 137 else .signal k))
      | none, none => if length = 0 then none else some (m.setTask n (.watch child length signal (some (now + length)) false))
      | none, some due =>
        if due ≤ now && !isLate then
          some ((m.setTask n (.watch child length signal (some due) true)).signal child signal)
        else none
  | .again bytes pending =>
    if pending.isEmpty then
      some (m.setTask n (.again bytes (List.replicate (max 1 (1024 / max 1 bytes.length)) bytes).flatten))
    else writeNext m n p 1 pending fun left => .again bytes left
  | .write pending code =>
    match pending with
    | [] => some (m.finish n (.code code))
    | (descriptor, bytes) :: more =>
      writeNext m n p descriptor bytes fun bytes => .write (rest descriptor bytes more) code

/-- One step of a process. -/
def step (now : Nat) (m : Machine) (n : Nat) : Option Machine := do
  let p ← m.process? n
  if p.status.isSome || p.isStopped then none else stepTask now m n p

/-- A round: each process makes a step if it can. Whether any has made one comes with it. -/
def round (now : Nat) (m : Machine) : Machine × Bool :=
  m.processes.foldl (fun (m, moved) (n, _) =>
    match m.step now n with
    | some m => (m, true)
    | none => (m, moved)) (m, false)

/-- The moment at which something is due for a process. -/
private def due? (p : Process) : Option Nat :=
  match p.status, p.task with
  | none, .sleep _ due => due
  | none, .watch _ _ _ due false => due
  | _, _ => none

/-- The next moment at which a sleeper wakes. -/
def nextDue? (m : Machine) : Option Nat := (m.processes.filterMap fun (_, p) => due? p).min?

end Attendant.Host.Machine

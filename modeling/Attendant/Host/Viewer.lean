import Attendant.Host.Files
import Attendant.Log.Tailer

/-!
# Following files of a host

The answers of a host's files to a tailer, and a tailer under a clock: time stands still while the tailer can move, and
then goes on to the next alarm.
-/

namespace Attendant.Host

open Log

/-- The answer of the files to the question that a tailer asks. -/
def Files.answer (fs : Files) (t : Tailer) : Option Tailer.Answer :=
  let sized : Tailer.Answer := match fs.size t.path with
    | .ok n => .size n
    | .error fault => .failed fault
  let opened : Tailer.Answer := match fs.entry t.path with
    | .ok (.file n) => .opened (some n)
    | .ok .directory => .opened none
    | .error fault => .failed fault
  let content (file : Option Nat) (pass : Pass) : Tailer.Answer :=
    match file with
    | some n =>
      let contents : Contents := { data := (fs.body n).bytes }
      .content (contents.answer t.position (contents.cursor t.position pass) pass).1
    | none =>
      match pass with
      | .seeking _ => .content .placed
      | _ => .content (.failure Fault.isDirectory)
  match t.stage with
  | .measuring _ => some sized
  | .sizing => some sized
  | .opening _ => some opened
  | .reopening _ => some opened
  | .filling file pass => some (content file pass)
  | .reading file pass => some (content file pass)
  | _ => none

/-- What a tailer does next without waiting for the clock. -/
def Files.labelNow (fs : Files) (t : Tailer) : Option Tailer.Label :=
  match t.stage with
  | .resting _ => none
  | _ =>
    match fs.answer t with
    | some answer => some (.system answer)
    | none => some .proceed

/-- One step that a tailer can make without waiting for the clock. -/
def Files.stepNow (fs : Files) (now : Nat) (t : Tailer) : Option (Tailer × List SinkCall) :=
  (fs.labelNow t).bind (t.step now)

/-- The alarms of a tailer: that of its watch, and that of its rest. -/
def alarms (t : Tailer) : List (Alarm × Tailer.Label) :=
  (match t.tick with
    | some alarm => [(alarm, .tick)]
    | none => []) ++
  match t.stage with
  | .resting alarm => [(alarm, .proceed)]
  | _ => []

/-- The alarm that comes first. -/
def firstAlarm? (t : Tailer) : Option (Alarm × Tailer.Label) :=
  match alarms t with
  | [] => none
  | a :: rest => some (rest.foldl (fun best b =>
      if b.1.due < best.1.due || (b.1.due = best.1.due && b.1.since < best.1.since) then b else best) a)

/-- What a tailer does at a moment: what it can do at once comes before its alarms. -/
def Files.label? (fs : Files) (now : Nat) (t : Tailer) : Option Tailer.Label :=
  if (fs.stepNow now t).isSome then fs.labelNow t
  else
    match firstAlarm? t with
    | some (alarm, label) => if alarm.due ≤ now then some label else none
    | none => none

/-- One step of a tailer at a moment. -/
def Files.stepTailer (fs : Files) (now : Nat) (t : Tailer) : Option (Tailer × List SinkCall) :=
  (fs.label? now t).bind (t.step now)

/-- Whether a change under a full name is one that a tailer watches: its directory and its last part are the same. -/
def Files.concerns (fs : Files) (t : Tailer) (name : List (List UInt8)) : Bool :=
  match fs.find t.path with
  | .ok (own, _) => t.watch == some .notifying && own == name
  | .error _ => false

/-- A viewer: files, a sink, and perhaps a tailer. -/
structure Viewer where
  now : Nat := 0
  files : Files := {}
  here : Path := .ofString "/"
  tailer : Option Tailer := none
  sink : Sink := .empty

namespace Viewer

/-- Makes steps as long as there are any, and while `goesOn` holds. -/
private def run (goesOn : Tailer → Bool) (stepOf : Tailer → Option (Tailer × List SinkCall)) :
    Nat → Tailer → Sink → Tailer × Sink
  | 0, t, sink => (t, sink)
  | fuel + 1, t, sink =>
    if goesOn t then
      match stepOf t with
      | some (t, calls) => run goesOn stepOf fuel t (sink.recordAll calls)
      | none => (t, sink)
    else (t, sink)

private def fuel (v : Viewer) : Nat :=
  64 + 16 * (v.files.bodies.foldl (fun n b => n + b.bytes.length) 0 / chunkBytes + (v.tailer.map (·.events)).getD 0)

/-- Lets the tailer move until it can no more. -/
def settle (v : Viewer) : Viewer :=
  match v.tailer with
  | none => v
  | some t =>
    let (t, sink) := run (fun _ => true) (v.files.stepTailer v.now) v.fuel t v.sink
    { v with tailer := some t, sink }

private def advanceTo (stop : Nat) : Nat → Viewer → Viewer
  | 0, v => { v with now := stop }
  | rounds + 1, v =>
    match v.tailer.bind firstAlarm? with
    | some (alarm, _) =>
      if alarm.due ≤ stop then advanceTo stop rounds { v with now := max v.now alarm.due }.settle else { v with now := stop }
    | none => { v with now := stop }

/-- Lets a span of time pass. Alarms are a millisecond apart at least. -/
def advance (v : Viewer) (d : Duration) : Viewer :=
  (advanceTo (v.now + d.nanos) (d.millis + 2) v.settle).settle

/-- Detaches the tailer, if there is one. -/
def detach (v : Viewer) : Viewer := { v with tailer := v.tailer.map Tailer.detach }

/-- Drops the tailer. -/
def drop (v : Viewer) : Viewer := { v with tailer := none }

/-- The watch of the tailer reports events. -/
def notice (v : Viewer) (count : Nat) : Viewer :=
  { v with tailer := v.tailer.map fun t => (List.range count).foldl (fun t _ => ((t.step v.now .event).map (·.1)).getD t) t }

/-- Attaches a new tailer in the place of an earlier one. -/
def attach (v : Viewer) (path : Path) (strategies : List Strategy) (debounce : Duration) (capacity : Nat) :
    Viewer × Except TailFault Tailer :=
  let t := Tailer.attaching path v.here strategies debounce capacity
  let (t, sink) := run (fun t => !Tailer.isFollowing t.stage) (v.files.stepNow v.now)
    (64 + strategies.length + v.fuel) t v.sink
  let v := { v with sink, tailer := none }
  match t.stage with
  | .refused fault => (v, .error fault)
  | _ => ({ v with tailer := some t }, .ok t)

/-- Changes the files; a tailer that watches the name hears of it. -/
def change (v : Viewer) (p : Path) (f : Files → Except IoFault Files) : Viewer × Bool :=
  match f v.files with
  | .error _ => (v, false)
  | .ok files =>
    let v := { v with files }
    match files.find p, v.tailer with
    | .ok (name, _), some t => (if files.concerns t name then v.notice 1 else v, true)
    | _, _ => (v, true)

end Viewer

end Attendant.Host

import Attendant.Duration
import Attendant.Fault
import Attendant.Log.Position
import Attendant.Path

/-!
# Following a log

A tailer first attaches to a file: it asks for the size, starts a watch, opens the file and shows what is in it up to
that size. From then on it waits for events, each of which says no more than that the file may have changed. After an
event it rests for a while, forgets the events that have come meanwhile, asks for the size again, and shows what is new.

`Tailer.step` is one step of it. What the system below answers is part of the label, so a run is any interleaving of the
tailer with whoever writes the file, with the watch, and with the one who detaches it.
-/

namespace Attendant.Log

/-- A way of being told that a file may have changed. -/
inductive Strategy where
  | refusing
  | polling (interval : Duration)
  | notifying
  | manual
  deriving DecidableEq, Repr

namespace Strategy

/-- The name of a strategy. -/
def name : Strategy → String
  | .refusing => "fail"
  | .polling _ => "poll"
  | .notifying => "notify"
  | .manual => "manual"

/-- Polling at an interval; it is at least ten milliseconds. -/
def poll (interval : Duration) : Strategy := .polling ⟨max interval.nanos 10000000⟩

/-- The system's own notices first, and polling if there are none. -/
def standard (interval : Duration) : List Strategy := [.notifying, .poll interval]

end Strategy

/-- A moment at which something is due, and when that was settled. Of two things due at one moment, the one that was
settled first comes first. -/
structure Alarm where
  due : Nat
  since : Nat
  deriving DecidableEq, Repr, Inhabited

/-- Where a tailer stands: first while it attaches, then while it follows. `file` is the number of an open file, or
`none` for a directory, which opens too but cannot be read. -/
inductive Tailer.Stage where
  | measuring (strategies : List Strategy)
  | watching (size : Nat) (strategies : List Strategy)
  | opening (size : Nat)
  | filling (file : Option Nat) (pass : Pass)
  | refused (fault : TailFault)
  | idle
  | resting (alarm : Alarm)
  | draining
  | checking
  | sizing
  | reopening (size : Nat)
  | reading (file : Option Nat) (pass : Pass)
  | stopped
  deriving DecidableEq, Repr

/-- A tailer: its position in the file, the events that wait for it, and its watch. -/
structure Tailer where
  path : Path
  debounce : Duration
  capacity : Nat
  position : Position := .start
  stage : Tailer.Stage
  events : Nat := 0
  attached : Bool := true
  watch : Option Strategy := none
  tick : Option Alarm := none
  deriving DecidableEq, Repr

namespace Tailer

/-- What the system says to a question of a tailer. -/
inductive Answer where
  | size (n : Nat)
  | opened (file : Option Nat)
  | content (answer : FileAnswer)
  | failed (fault : IoFault)
  deriving DecidableEq, Repr

/-- Who moves: the tailer by itself, the tailer with an answer of the system, the watch with an event, or the clock of a
polling watch. -/
inductive Label where
  | proceed
  | system (answer : Answer)
  | event
  | tick
  deriving DecidableEq, Repr

/-- A tailer that is about to attach. -/
def attaching (path here : Path) (strategies : List Strategy) (debounce : Duration) (capacity : Nat) : Tailer :=
  { path := if path.bytes.isEmpty then path else path.absolute here
    debounce, capacity := max capacity 1, stage := .measuring strategies }

/-- Calls reach the sink only while the tailer is attached. -/
def gate (t : Tailer) (calls : List SinkCall) : List SinkCall := if t.attached then calls else []

/-- An event for a full queue is dropped: another one waits there already. -/
def notice (t : Tailer) : Tailer := if t.events < t.capacity then { t with events := t.events + 1 } else t

/-- An attempt to attach comes to nothing; its watch is over. -/
def refuse (t : Tailer) (fault : TailFault) : Tailer := { t with stage := .refused fault, watch := none, tick := none }

/-- The first reading goes on, or has led to something. -/
def fill (t : Tailer) (file : Option Nat) : Pass → Tailer
  | .ended => { t with stage := .idle }
  | .failed fault => t.refuse (.io t.path fault)
  | pass => { t with stage := .filling file pass }

/-- A later reading goes on, or is over; whatever it missed is left to the next event. -/
def renew (t : Tailer) (file : Option Nat) : Pass → Tailer
  | .ended => { t with stage := .idle }
  | .failed _ => { t with stage := .idle }
  | pass => { t with stage := .reading file pass }

/-- One step: the tailer after it, and the calls that the sink receives. -/
def step (now : Nat) (t : Tailer) : Label → Option (Tailer × List SinkCall)
  | .event =>
    match t.watch with
    | some _ => some (t.notice, [])
    | none => none
  | .tick =>
    match t.watch, t.tick with
    | some (.polling interval), some alarm =>
      if alarm.due ≤ now then some ({ t.notice with tick := some ⟨alarm.due + interval.nanos, now⟩ }, []) else none
    | _, _ => none
  | .proceed =>
    match t.stage with
    | .watching _ [] => some (t.refuse (.noStrategy t.path), [])
    | .watching size (s :: rest) =>
      match s with
      | .refusing => some ({ t with stage := .watching size rest }, [])
      | .polling _ => some ({ t with stage := .opening size, watch := some s, tick := some ⟨now, now⟩ }, [])
      | .notifying => some ({ t with stage := .opening size, watch := some s }, [])
      | .manual => some ({ t with stage := .opening size, watch := some s }, [])
    | .idle =>
      if t.events = 0 then none
      else
        let t := { t with events := t.events - 1 }
        if t.debounce.nanos = 0 then some ({ t with stage := .draining }, [])
        else some ({ t with stage := .resting ⟨now + t.debounce.nanos, now⟩ }, [])
    | .resting alarm => if alarm.due ≤ now then some ({ t with stage := .draining }, []) else none
    | .draining => some ({ t with events := 0, stage := .checking }, [])
    | .checking => some ({ t with stage := if t.attached then .sizing else .stopped }, [])
    | _ => none
  | .system answer =>
    match t.stage, answer with
    | .measuring strategies, .size size => some ({ t with stage := .watching size strategies }, [])
    | .measuring _, .failed fault =>
      some (t.refuse (if fault.kind = "NotFound" then .fileNotFound t.path else .io t.path fault), [])
    | .opening _, .failed fault => some (t.refuse (.io t.path fault), [])
    | .opening size, .opened file =>
      let (_, position, pass, calls) := t.position.begin size
      some ({ t with position }.fill file pass, t.gate calls)
    | .filling file pass, .content answer =>
      let (position, pass, calls) := pass.step t.position answer
      some ({ t with position }.fill file pass, t.gate calls)
    | .sizing, .failed _ => some ({ t with stage := .idle }, [])
    | .sizing, .size size =>
      some ({ t with stage := if t.position.diff size = .unchanged then .idle else .reopening size }, [])
    | .reopening _, .failed _ => some ({ t with stage := .idle }, [])
    | .reopening size, .opened file =>
      let (_, position, pass, calls) := t.position.begin size
      some ({ t with position }.renew file pass, t.gate calls)
    | .reading file pass, .content answer =>
      let (position, pass, calls) := pass.step t.position answer
      some ({ t with position }.renew file pass, t.gate calls)
    | _, _ => none

/-- A tailer that has stopped does nothing, whatever the system says. -/
theorem step_of_stopped {t : Tailer} (h : t.stage = .stopped) (now : Nat) :
    t.step now .proceed = none ∧ ∀ answer, t.step now (.system answer) = none := by
  constructor
  · simp only [step, h]
  · intro answer
    simp only [step, h]

/-- Detaches: no call reaches the sink any more, the watch is over, and the task is stopped. -/
def detach (t : Tailer) : Tailer := { t with attached := false, watch := none, tick := none, stage := .stopped }

/-- Whether a tailer has attached. -/
def isFollowing : Stage → Bool
  | .idle | .resting _ | .draining | .checking | .sizing | .reopening _ | .reading _ _ => true
  | _ => false

end Tailer

end Attendant.Log

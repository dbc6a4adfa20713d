import Attendant.Log.Tailer
import Attendant.Supervisor
import Attendant.Text.Quoted

/-!
# The coordinator

The coordinator ties the worker and its log together. To activate is to start the worker, to ask it for its log file, and
to follow that file; the activation succeeds with the worker, whether or not there is a log to follow. To deactivate is
to stop following, and then to stop the worker.

`Coordinator.step` is one step of the coordinator, of its supervisor, or of its tailer. As with the supervisor, a call
goes through stages and may be abandoned where it waits; an activation that finds the remains of an abandoned call first
deactivates.
-/

namespace Attendant

/-- What the user is told. -/
inductive Note where
  | info (text : String)
  | error (text : String)
  deriving DecidableEq, Repr

/-- What the coordinator is asked to do. -/
inductive Coordinator.Call where
  | activate
  | deactivate
  | restart
  | shutdown
  deriving DecidableEq, Repr

/-- How a call has ended. -/
inductive Coordinator.Outcome where
  | done
  | refused (fault : StartFault)
  deriving DecidableEq, Repr

/-- What comes after a deactivation. -/
inductive Coordinator.Next where
  | rest
  | activate
  | dispose
  deriving DecidableEq, Repr

/-- Where a call stands. -/
inductive Coordinator.Stage where
  | free
  | opening
  | starting
  | locating (worker key : Nat)
  | attaching (tailer : Log.Tailer)
  | closing (next : Coordinator.Next)
  | stopping (next : Coordinator.Next)
  | gone
  deriving DecidableEq, Repr

/-- A coordinator, with the sink that it shows the log in and the notes that it has given. `dirty` says that a tailer has
been attached before. -/
structure Coordinator where
  plan : Plan
  here : Path
  supervisor : Supervisor
  phase : Phase := .stopped
  tailer : Option Log.Tailer := none
  dirty : Bool := false
  sink : Log.Sink := .empty
  notes : List Note := []
  stage : Coordinator.Stage := .free
  outcome : Option Coordinator.Outcome := none
  deriving Repr

namespace Coordinator

/-- Who moves. -/
inductive Label where
  | begin (call : Call)
  | abandon
  | proceed
  | supervisor (label : Supervisor.Label)
  | attach (label : Log.Tailer.Label)
  | follow (label : Log.Tailer.Label)
  deriving DecidableEq, Repr

/-- A coordinator that has not done anything yet. -/
def start (plan : Plan) (here : Path) (process : Nat) : Coordinator :=
  { plan, here, supervisor := { options := plan.worker, process } }

/-- The note that a worker is up. -/
def activated (name : String) : Note := .info (name ++ " language server is now active")

/-- The note that a worker has not started. -/
def failedToStart (name : String) (fault : StartFault) : Note :=
  .error ("Failed to start " ++ name ++ " language server: " ++ fault.message)

/-- Gives a note. -/
def note (c : Coordinator) (n : Note) : Coordinator := { c with notes := c.notes ++ [n] }

/-- The name of the language. -/
def name (c : Coordinator) : String := c.plan.language.displayName

/-- Asks the supervisor for something. -/
def ask (now : Nat) (c : Coordinator) (call : Supervisor.Call) (stage : Stage) : Coordinator :=
  { c with stage, supervisor := (c.supervisor.step now (.begin call)).getD c.supervisor }

/-- A call has come to its end. -/
def finish (c : Coordinator) (outcome : Outcome) : Coordinator := { c with stage := .free, outcome := some outcome }

/-- The worker is up, and all that can be done about its log has been done. -/
def complete (c : Coordinator) : Coordinator := ({ c with phase := .active }.note (activated c.name)).finish .done

/-- A deactivation is over. -/
def closed (c : Coordinator) : Next → Coordinator
  | .rest => c.finish .done
  | .activate => { c with stage := .opening }
  | .dispose => { c with sink := c.sink.record .dispose, stage := .gone, outcome := some .done }

/-- The worker has named its log: what an earlier tailer has shown is cleared, and a new one attaches. -/
def locate (c : Coordinator) (path : Path) : Coordinator :=
  let tail := c.plan.tail
  { c with
    sink := if c.dirty then c.sink.record .clear else c.sink
    stage := .attaching (.attaching path c.here (Log.Strategy.standard tail.pollInterval) tail.debounce tail.capacity) }

/-- The next step of the call under way, if it need not wait. -/
def proceed (now : Nat) (c : Coordinator) : Option Coordinator :=
  match c.stage with
  | .free => none
  | .gone => none
  | .opening =>
    match c.phase with
    | .active => some (c.finish .done)
    | .stopped => some ({ c with phase := .starting }.ask now (.start c.plan.launch) .starting)
    | .starting => some { c with stage := .closing .activate }
    | .stopping => some { c with stage := .closing .activate }
  | .starting =>
    match c.supervisor.outcome with
    | some (.refused fault) =>
      some (({ c with phase := .stopped }.note (failedToStart c.name fault)).finish (.refused fault))
    | some (.started worker) =>
      let (supervisor, key) := c.supervisor.enter worker (.ask true c.plan.logPathMethod .absent c.plan.requestTimeout)
      some { c with supervisor, stage := .locating worker key }
    | _ => none
  | .locating worker key =>
    (c.supervisor.outcomeOf? worker key).map fun outcome =>
      match Outcome.logPath outcome with
      | .ok (some path) => c.locate path
      | _ => c.complete
  | .attaching tailer =>
    match tailer.stage with
    | .refused _ => some c.complete
    | stage =>
      if Log.Tailer.isFollowing stage then some { c with dirty := true, tailer := some tailer }.complete else none
  | .closing next =>
    if c.phase = .stopped then some (c.closed next)
    else some ({ c with phase := .stopping, tailer := none }.ask now .stop (.stopping next))
  | .stopping next =>
    match c.supervisor.outcome with
    | some .stopped => some ({ c with phase := .stopped }.closed next)
    | _ => none

/-- The call under way is given up where it waits. -/
def abandon (now : Nat) (c : Coordinator) : Option Coordinator :=
  let free (supervisor : Supervisor) : Coordinator := { c with supervisor, stage := .free, outcome := none }
  match c.stage with
  | .starting => (c.supervisor.step now .abandon).map free
  | .stopping _ => (c.supervisor.step now .abandon).map free
  | .locating worker key => (c.supervisor.step now (.leave worker key)).map free
  | .attaching _ => some (free c.supervisor)
  | _ => none

/-- One step. Only the coordinator itself begins and abandons the calls of its supervisor. -/
def step (now : Nat) (c : Coordinator) : Label → Option Coordinator
  | .begin call =>
    match c.stage with
    | .free =>
      some { c with
        outcome := none
        stage := match call with
          | .activate => .opening
          | .deactivate => .closing .rest
          | .restart => .closing .activate
          | .shutdown => .closing .dispose }
    | _ => none
  | .abandon => c.abandon now
  | .proceed => c.proceed now
  | .supervisor label =>
    match label with
    | .begin _ => none
    | .abandon => none
    | label => (c.supervisor.step now label).map fun supervisor => { c with supervisor }
  | .attach label =>
    match c.stage with
    | .attaching tailer =>
      (tailer.step now label).map fun (tailer, calls) =>
        { c with stage := .attaching tailer, sink := c.sink.recordAll calls }
    | _ => none
  | .follow label => do
    let tailer ← c.tailer
    let (tailer, calls) ← tailer.step now label
    return { c with tailer := some tailer, sink := c.sink.recordAll calls }

/-- The file that is being followed. -/
def tailing? (c : Coordinator) : Option Path := c.tailer.map (·.path)

/-- A coordinator as programmers are shown it. -/
def text (c : Coordinator) : String :=
  let worker := match c.supervisor.status.value with
    | .idle => "Idle"
    | .starting => "Starting"
    | .running => "Running"
    | .stopping => "Stopping"
    | .failed reason => "Failed(" ++ Text.quoted reason ++ ")"
  let phase := match c.phase with
    | .stopped => "Stopped"
    | .starting => "Starting"
    | .active => "Active"
    | .stopping => "Stopping"
  let tailing := match c.tailing? with
    | some path => "Some(" ++ Text.quoted path.text ++ ")"
    | none => "None"
  "LifecycleCoordinator \x7b state: " ++ phase ++ ", worker: " ++ worker ++ ", tailing: " ++ tailing ++ ", .. \x7d"

end Coordinator

end Attendant

import Attendant.Channel
import Attendant.Settings
import Attendant.Termination

/-!
# The supervisor

The supervisor starts a worker, greets it, and stops it again. It owns one worker at most, but the workers that it has
owned are not forgotten: their tasks may still run, and all of them share one state.

`Supervisor.step` is one step of the supervisor, of a task of any worker, of a worker itself, or of those who use a
channel. A call (`start`, `stop` or `restart`) goes through stages; at each stage but the momentary ones it waits for
something, and there it may be abandoned.

* `Supervisor.Stage` says where the call under way stands, and `Supervisor.Label` who moves;
* `Supervisor.outcome` is how the last call has ended.
-/

namespace Attendant

/-- What the task does that reads the complaints of a worker, line by line. -/
inductive ListenerTask where
  | listening (held : List UInt8)
  | ended
  | stopped
  deriving DecidableEq, Repr

/-- A worker that has been started: its channel, its complaints, and its process. `dropped` says that a signal has been
sent which ends the process without fail. -/
structure Worker where
  launch : Launch
  channel : Channel := {}
  complaints : Pipe := .empty Pipe.usual
  listener : ListenerTask := .listening []
  child : Option ExitStatus := none
  dropped : Bool := false
  deriving Repr

namespace Worker

/-- The tasks of a worker are stopped. -/
def abort (w : Worker) : Worker :=
  let w := { w with channel := w.channel.abort }
  match w.listener with
  | .listening _ => { w with listener := .stopped, complaints := w.complaints.closeReader }
  | _ => w

/-- The process of a worker is ended without fail. -/
def kill (w : Worker) : Worker := { w with dropped := true }

/-- A line without its end: a line feed, and a carriage return before it. -/
private def chomp (line : List UInt8) : List UInt8 := if line.getLast? == some 13 then line.dropLast else line

/-- One step of the listener, with the line that it has heard. A line that is not UTF-8 ends it. -/
def listen (w : Worker) : Option (Worker × Option String) :=
  match w.listener with
  | .listening held =>
    let hang : Worker := { w with listener := .ended, complaints := w.complaints.closeReader }
    if !w.complaints.bytes.isEmpty then
      match w.complaints.bytes.span (· != 10) with
      | (start, _ :: rest) =>
        match Utf8.toString? (held ++ start) with
        | some _ =>
          some ({ w with listener := .listening [], complaints := { w.complaints with bytes := rest } },
            Utf8.toString? (chomp (held ++ start)))
        | none => some (hang, none)
      | (start, []) => some ({ w with listener := .listening (held ++ start), complaints := w.complaints.drain.2 }, none)
    else if !w.complaints.hasWriter then
      some (hang, if held.isEmpty then none else Utf8.toString? held)
    else none
  | _ => none

end Worker

/-- What the supervisor is asked to do. -/
inductive Supervisor.Call where
  | start (launch : Launch)
  | stop
  | restart (launch : Launch)
  deriving DecidableEq, Repr

/-- What the system says when it is asked to start a process. -/
inductive SpawnAnswer where
  | started
  | unknownCommand (reason : String)
  | failed (cause : String)
  deriving DecidableEq, Repr

/-- How a call has ended. -/
inductive Supervisor.Outcome where
  | started (worker : Nat)
  | refused (fault : StartFault)
  | stopped
  deriving DecidableEq, Repr

/-- Where a call stands. Stages of a stop remember the launch that a restart goes on with. -/
inductive Supervisor.Stage where
  | free
  | checking (launch : Launch)
  | clearing (launch : Launch) (worker : Nat)
  | spawning (launch : Launch)
  | greeting (worker key : Nat)
  | confirming (worker key : Nat)
  | discarding (worker : Nat) (fault : StartFault)
  | taking (next : Option Launch)
  | asking (worker key : Nat) (next : Option Launch)
  | leaving (worker key : Nat) (next : Option Launch)
  | closing (worker key : Nat) (next : Option Launch)
  | ending (worker : Nat) (termination : Termination) (next : Option Launch)
  deriving DecidableEq, Repr

/-- A supervisor. Workers are named by their place in the list; `current` is the one it owns, and `process` is the number
of the process it belongs to. -/
structure Supervisor where
  options : WorkerOptions
  process : Nat := 1
  status : Watched Status := { value := .idle }
  workers : List Worker := []
  current : Option Nat := none
  stage : Supervisor.Stage := .free
  outcome : Option Supervisor.Outcome := none
  heard : List String := []
  deriving Repr

namespace Supervisor

/-- Who moves. -/
inductive Label where
  | begin (call : Call)
  | abandon
  | proceed
  | spawned (answer : SpawnAnswer)
  | answered (answer : SignalAnswer)
  | channel (worker : Nat) (label : Channel.Label)
  | listener (worker : Nat)
  | act (worker : Nat) (act : Channel.Act)
  | complain (worker : Nat) (bytes : List UInt8)
  | hush (worker : Nat)
  | exited (worker : Nat) (status : ExitStatus)
  | enter (worker : Nat) (job : Job)
  | leave (worker key : Nat)
  deriving DecidableEq, Repr

/-- How long the polite request to stop may take. -/
def farewellLimit : Duration := .ofSecs 1

/-- Changes a worker. -/
def modify (s : Supervisor) (worker : Nat) (f : Worker → Worker) : Supervisor :=
  { s with workers := s.workers.modify worker f }

/-- Writes the state. -/
def setStatus (s : Supervisor) (status : Status) : Supervisor := { s with status := s.status.set status }

/-- A call has come to its end. -/
def finish (s : Supervisor) (outcome : Outcome) : Supervisor := { s with stage := .free, outcome := some outcome }

/-- A new caller on the channel of a worker. -/
def enter (s : Supervisor) (worker : Nat) (job : Job) : Supervisor × Nat :=
  match s.workers[worker]? with
  | some w =>
    let (channel, key) := w.channel.enter job
    (s.modify worker fun w => { w with channel }, key)
  | none => (s, 0)

/-- The outcome of a caller on the channel of a worker. -/
def outcomeOf? (s : Supervisor) (worker key : Nat) : Option (Except RequestFault Value) :=
  s.workers[worker]?.bind fun w => w.channel.outcome? key

/-- How the process of a worker has ended, if it has. -/
def childOf (s : Supervisor) (worker : Nat) : Option ExitStatus := s.workers[worker]?.bind (·.child)

/-- Why a greeting has failed. -/
def greetingReason : RequestFault → String
  | .timeout _ limit => "no response to initialize within " ++ limit.text
  | fault => fault.message

/-- The worker is given up: its tasks are stopped, its process is ended, and its end is waited for. -/
def discard (s : Supervisor) (worker : Nat) (reason : String) : Supervisor :=
  { s.modify worker fun w => w.abort.kill with
    current := none, stage := .discarding worker (.handshake reason) }

/-- The greeting has failed. -/
def failGreeting (s : Supervisor) (worker : Nat) (reason : String) : Supervisor :=
  (s.setStatus (.failed reason)).discard worker reason

/-- The messages to a worker end here. -/
def close (s : Supervisor) (worker : Nat) (next : Option Launch) : Supervisor :=
  let (s, key) := s.enter worker .finish
  { s with stage := .closing worker key next }

/-- A stop is over; a restart goes on. -/
def stopped (s : Supervisor) : Option Launch → Supervisor
  | none => s.finish .stopped
  | some launch => { s with stage := .checking launch }

/-- The checks before a start. A worker that is still owned but no longer up is given up first. -/
def check (s : Supervisor) (launch : Launch) : Supervisor :=
  if !s.options.enabled then s.finish (.refused (.configuration "language server is disabled in settings"))
  else match launch.check with
    | .error fault => s.finish (.refused (.configuration fault.message))
    | .ok () =>
      if s.status.value.isLive then s.finish (.refused .alreadyRunning)
      else match s.current with
        | some stale =>
          { s.modify stale fun w => w.abort.kill with current := none, stage := .clearing launch stale }
        | none => { s with stage := .spawning launch }

/-- A process has been started: it is owned, and greeted. -/
def adopt (s : Supervisor) (launch : Launch) : Supervisor :=
  let s := s.setStatus .starting
  let worker := s.workers.length
  let newcomer : Worker := { launch }
  let s := { s with workers := s.workers ++ [newcomer], current := some worker }
  let params := Message.handshakeParams s.process (launch.cwd.getD s.options.workspaceRoot)
  let (s, key) := s.enter worker (.ask false "initialize" (.given params) s.options.initTimeout)
  { s with stage := .greeting worker key }

/-- The greeting is over; only a worker that is still starting is running now. -/
def welcome (s : Supervisor) (worker : Nat) : Supervisor :=
  match s.status.value with
  | .starting => (s.setStatus .running).finish (.started worker)
  | .failed reason => s.discard worker reason
  | other => s.discard worker ("unexpected state " ++ other.text)

/-- A stop begins: the worker is no longer owned. -/
def take (s : Supervisor) (next : Option Launch) : Supervisor :=
  match s.current with
  | none => (if s.status.value = .idle then s else s.setStatus .idle).stopped next
  | some worker =>
    let wasRunning := s.status.value = .running
    let s := { s with current := none }.setStatus .stopping
    if wasRunning then
      let (s, key) := s.enter worker (.ask false "shutdown" .absent farewellLimit)
      { s with stage := .asking worker key next }
    else s.close worker next

/-- The next step of the call under way, if it need not wait. -/
def proceed (now : Nat) (s : Supervisor) : Option Supervisor :=
  match s.stage with
  | .free => none
  | .checking launch => some (s.check launch)
  | .clearing launch worker => (s.childOf worker).map fun _ => { s with stage := .spawning launch }
  | .spawning _ => none
  | .greeting worker key =>
    (s.outcomeOf? worker key).map fun
      | .ok _ =>
        let (s, key) := s.enter worker (.tell false "initialized" (some (.table [])))
        { s with stage := .confirming worker key }
      | .error fault => s.failGreeting worker (greetingReason fault)
  | .confirming worker key =>
    (s.outcomeOf? worker key).map fun
      | .ok _ => s.welcome worker
      | .error fault => s.failGreeting worker fault.message
  | .discarding worker fault => (s.childOf worker).map fun _ => s.finish (.refused fault)
  | .taking next => some (s.take next)
  | .asking worker key next =>
    (s.outcomeOf? worker key).map fun
      | .ok _ =>
        let (s, key) := s.enter worker (.tell false "exit" none)
        { s with stage := .leaving worker key next }
      | .error _ => s.close worker next
  | .leaving worker key next => (s.outcomeOf? worker key).map fun _ => s.close worker next
  | .closing worker key next =>
    (s.outcomeOf? worker key).map fun _ =>
      { s with stage := .ending worker (.start s.options.stopGrace now) next }
  | .ending worker termination next =>
    match termination.stage with
    | .done _ _ => some (((s.modify worker Worker.abort).setStatus .idle).stopped next)
    | .failed => some (((s.modify worker fun w => w.abort.kill).setStatus .idle).stopped next)
    | _ =>
      (termination.step now (s.childOf worker) .proceed).map fun termination =>
        let s := { s with stage := .ending worker termination next }
        if termination.hasKilled then s.modify worker Worker.kill else s

/-- The call under way is given up where it waits. What it has taken for itself is lost with it, so the process of a
worker that is being stopped is ended; its tasks go on. -/
def abandon (s : Supervisor) : Option Supervisor :=
  let forget (worker key : Nat) (s : Supervisor) : Supervisor :=
    { s.modify worker fun w => { w with channel := w.channel.abandon key } with stage := .free, outcome := none }
  match s.stage with
  | .greeting worker key => some (forget worker key s)
  | .confirming worker key => some (forget worker key s)
  | .clearing _ _ => some { s with stage := .free, outcome := none }
  | .discarding _ _ => some { s with stage := .free, outcome := none }
  | .asking worker key _ => some (forget worker key (s.modify worker Worker.kill))
  | .leaving worker key _ => some (forget worker key (s.modify worker Worker.kill))
  | .closing worker key _ => some (forget worker key (s.modify worker Worker.kill))
  | .ending worker _ _ => some { s.modify worker Worker.kill with stage := .free, outcome := none }
  | _ => none

/-- One step. -/
def step (now : Nat) (s : Supervisor) : Label → Option Supervisor
  | .begin call =>
    match s.stage with
    | .free =>
      some { s with
        outcome := none
        stage := match call with
          | .start launch => .checking launch
          | .stop => .taking none
          | .restart launch => .taking (some launch) }
    | _ => none
  | .abandon => s.abandon
  | .proceed => s.proceed now
  | .spawned answer =>
    match s.stage, answer with
    | .spawning launch, .started => some (s.adopt launch)
    | .spawning launch, .unknownCommand reason =>
      let fault : StartFault := .spawn launch.command reason
      some ((s.setStatus (.failed fault.message)).finish (.refused fault))
    | .spawning launch, .failed cause =>
      some ((s.setStatus (.failed cause)).finish (.refused (.spawn launch.command cause)))
    | _, _ => none
  | .answered answer =>
    match s.stage with
    | .ending worker termination next =>
      (termination.step now (s.childOf worker) (.answered answer)).map fun termination =>
        { s with stage := .ending worker termination next }
    | _ => none
  | .channel worker label => do
    let w ← s.workers[worker]?
    let (status, channel) ← w.channel.step now s.status label
    return { s.modify worker fun w => { w with channel } with status }
  | .listener worker => do
    let w ← s.workers[worker]?
    let (w, line) ← w.listen
    return { s.modify worker fun _ => w with heard := s.heard ++ line.toList }
  | .act worker act => some (s.modify worker fun w => { w with channel := w.channel.act act })
  | .complain worker bytes =>
    some (s.modify worker fun w =>
      if w.complaints.hasReader then { w with complaints := (w.complaints.write bytes).1 } else w)
  | .hush worker => some (s.modify worker fun w => { w with complaints := w.complaints.closeWriter })
  | .exited worker status =>
    if (s.childOf worker).isSome then none else some (s.modify worker fun w => { w with child := some status })
  | .enter worker job => some (s.enter worker job).1
  | .leave worker key => some (s.modify worker fun w => { w with channel := w.channel.abandon key })

/-- Everyone inside who could move: the call under way, and the tasks of all workers. -/
def labels (s : Supervisor) : List Label :=
  .proceed :: (s.workers.zipIdx.flatMap fun (w, i) => w.channel.labels.map (.channel i) ++ [.listener i])

/-- The next moment at which something is due. -/
def nextDue? (s : Supervisor) : Option Nat :=
  let grace := match s.stage with
    | .ending _ termination _ => termination.deadline?.toList
    | _ => []
  (grace ++ s.workers.filterMap fun w => w.channel.nextDeadline?).min?

/-- Whether requests reach a running worker. -/
def isConnected (s : Supervisor) : Bool := s.status.value == .running

end Supervisor

end Attendant

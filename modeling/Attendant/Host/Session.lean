import Attendant.Host.Clock
import Attendant.Host.Spawn

/-!
# Sessions

A session is a supervisor, or something that has one, on a machine where its workers run. It goes in rounds: those inside
move until nobody can, but for what takes a round; then the machine answers what the supervisor asks of it, the
processes make a round, and what the workers among them have done to their pipes reaches the supervisor.

`Session.busy` says that the processes would still go on at the same moment; then time passes nevertheless.
-/

namespace Attendant.Host

/-- Something that has a supervisor: `step` is a step of its own, the supervisor's own steps included, `stepSlowly` one
that takes a round, so that the processes go on meanwhile, and `notice` tells it that there has been a change under a
name. -/
class Supervising (σ : Type) where
  supervisor : σ → Supervisor
  withSupervisor : σ → Supervisor → σ
  step : Nat → Files → σ → Option σ
  stepSlowly : Nat → Files → σ → Option σ := fun _ _ _ => none
  nextDue? : σ → Option Nat
  notice : Nat → Files → List (List UInt8) → σ → σ

/-- A supervisor by itself. -/
instance : Supervising Supervisor where
  supervisor s := s
  withSupervisor _ s := s
  step now _ s := s.labels.findSome? (s.step now)
  nextDue? s := s.nextDue?
  notice _ _ _ s := s

/-- A session: `ports` are those of the workers, in their order. -/
structure Session (σ : Type) where
  now : Nat := 0
  here : Path
  environment : Environment
  machine : Machine := {}
  ports : List Ports := []
  holder : σ
  busy : Bool := false

namespace Session

variable {σ : Type} [Supervising σ]

/-- The supervisor. -/
def supervisor (s : Session σ) : Supervisor := Supervising.supervisor s.holder

/-- Something happens to the supervisor. -/
def tell (s : Session σ) (label : Supervisor.Label) : Session σ :=
  match s.supervisor.step s.now label with
  | some v => { s with holder := Supervising.withSupervisor s.holder v }
  | none => s

/-- Lets those inside move until nobody can. -/
private def settleInside : Nat → Session σ → Session σ
  | 0, s => s
  | rounds + 1, s =>
    match Supervising.step s.now s.machine.files s.holder with
    | some holder => settleInside rounds { s with holder }
    | none => s

/-- The machine starts a process if the supervisor asks for one. -/
private def spawnNext (s : Session σ) : Option (Session σ) :=
  match s.supervisor.stage with
  | .spawning launch =>
    match s.machine.spawn s.here s.environment launch with
    | (answer, some (machine, ports)) => some ({ s with machine, ports := s.ports ++ [ports] }.tell (.spawned answer))
    | (answer, none) => some (s.tell (.spawned answer))
  | .ending worker termination _ =>
    match termination.stage, s.ports[worker]? with
    | .asking, some ports =>
      some ({ s with machine := s.machine.signal ports.process 15 }.tell (.answered .delivered))
    | _, _ => none
  | _ => none

/-- The process of a worker is ended if it has been dropped, and its end is told. -/
private def visit (worker : Nat) (ports : Ports) (s : Session σ) : Option (Session σ) :=
  match s.supervisor.workers[worker]?, s.machine.process? ports.process with
  | some w, some p =>
    match p.status with
    | none =>
      if w.dropped then some { s with machine := s.machine.signal ports.process 9 } else none
    | some status => if w.child.isSome then none else some (s.tell (.exited worker status))
  | _, _ => none

/-- The first worker for whom there is something to do. -/
private def visitAll (s : Session σ) : Option (Session σ) :=
  s.ports.zipIdx.findSome? fun (ports, worker) => visit worker ports s

/-- Shows the pipes of the workers to the machine. -/
private def showPipes (s : Session σ) : Machine :=
  let put (pipes : List (Pipe × Side)) (i : Nat) (pipe : Pipe) : List (Pipe × Side) :=
    pipes.modify i fun (_, side) => (pipe, side)
  { s.machine with
    pipes := (s.ports.zip s.supervisor.workers).foldl (fun pipes (ports, w) =>
      put (put (put pipes ports.input w.channel.toWorker) ports.output w.channel.fromWorker) ports.errors w.complaints)
      s.machine.pipes }

/-- What has happened to a pipe that a worker reads. -/
private def readingActs (worker : Nat) (before after : Pipe) : List Supervisor.Label :=
  let count := before.bytes.length - after.bytes.length
  if before.hasReader && !after.hasReader then [.act worker .closesInput]
  else if count = 0 then []
  else [.act worker (.reads count)]

/-- What has happened to a pipe that a worker writes. -/
private def writingActs (before after : Pipe) (write : List UInt8 → Supervisor.Label) (close : Supervisor.Label) :
    List Supervisor.Label :=
  let bytes := after.bytes.drop before.bytes.length
  (if bytes.isEmpty then [] else [write bytes]) ++ if before.hasWriter && !after.hasWriter then [close] else []

/-- What the workers have done to their pipes. -/
private def acts (s : Session σ) (machine : Machine) : List Supervisor.Label :=
  let after (i : Nat) (before : Pipe) : Pipe := ((machine.pipes[i]?).map (·.1)).getD before
  (s.ports.zip s.supervisor.workers).zipIdx.flatMap fun ((ports, w), i) =>
    let toWorker := w.channel.toWorker
    let fromWorker := w.channel.fromWorker
    readingActs i toWorker (after ports.input toWorker) ++
      writingActs fromWorker (after ports.output fromWorker) (fun bytes => .act i (.writes bytes)) (.act i .closesOutput) ++
      writingActs w.complaints (after ports.errors w.complaints) (.complain i) (.hush i)

/-- The processes make a round. -/
private def processRound (s : Session σ) : Option (Session σ) :=
  let shown := s.showPipes
  let (machine, moved) := shown.refresh.round s.now
  let labels := s.acts machine
  if !moved && labels.isEmpty then none
  else
    let names := if machine.touched.isEmpty then [] else machine.files.namesOf machine.touched
    let holder := names.foldl (fun h name => Supervising.notice s.now machine.files name h) s.holder
    some (labels.foldl tell { s with machine := { machine with touched := [] }, holder })

/-- One round, if anything moves at all. -/
private def round (s : Session σ) : Option (Session σ) :=
  let s := settleInside 1000000 s
  let slowly : Option (Session σ) := (Supervising.stepSlowly s.now s.machine.files s.holder).map fun holder =>
    let s := { s with holder }
    (processRound s).getD s
  spawnNext s <|> visitAll s <|> slowly <|> processRound s

/-- Rounds until nothing moves. What processes do without end in one moment is cut off. -/
private def rounds : Nat → Session σ → Session σ
  | 0, s => { settleInside 1000000 s with busy := true }
  | fuel + 1, s =>
    match round s with
    | some s => rounds fuel s
    | none => { settleInside 1000000 s with busy := false }

/-- How many rounds processes get in one moment. -/
def patience : Nat := 20000

/-- Lets everything move that can without the clock. -/
def settle (s : Session σ) : Session σ := rounds patience s

/-- The next moment at which something is due; while processes are busy it is a millisecond off at most. -/
def nextDue? (s : Session σ) : Option Nat :=
  let soon := if s.busy then [s.now + 1000000] else []
  (soon ++ (Supervising.nextDue? s.holder).toList ++ s.machine.nextDue?.toList).min?

instance : Clocked (Session σ) where
  now s := s.now
  goTo now s := { s with now }
  settle := settle
  nextDue? := nextDue?

/-- Changes the files from outside; whether that was possible comes with it. -/
def change (s : Session σ) (p : Path) (f : Files → Except IoFault Files) : Session σ × Bool :=
  match f s.machine.files with
  | .error _ => (s, false)
  | .ok files =>
    let holder := match files.find p with
      | .ok (name, _) => Supervising.notice s.now files name s.holder
      | .error _ => s.holder
    ({ s with machine := { s.machine with files }, holder }, true)

/-- A call of the supervisor, from its beginning to its end, for so many nanoseconds at most. -/
def call (s : Session Supervisor) (call : Supervisor.Call) (limit : Nat) : Session Supervisor :=
  Clocked.wait (fun s => s.supervisor.stage = .free) limit (s.tell (.begin call))

/-- A job on the channel of a worker, from its beginning to its end, with its outcome. -/
def ask (s : Session σ) (worker : Nat) (job : Job) : Session σ × Option (Except RequestFault Value) :=
  let key := ((s.supervisor.workers[worker]?).map (·.channel.callers.length)).getD 0
  let s := Clocked.wait (fun s : Session σ => (s.supervisor.outcomeOf? worker key).isSome) (Duration.ofSecs 3600).nanos
    (s.tell (.enter worker job))
  (s, s.supervisor.outcomeOf? worker key)

end Session

end Attendant.Host

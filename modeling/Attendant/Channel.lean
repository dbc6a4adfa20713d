import Attendant.Fault
import Attendant.Frame.Reader
import Attendant.Mailbox
import Attendant.Pipe
import Attendant.Status
import Attendant.Watched

/-!
# The request channel

Many callers share one worker. A caller that asks takes the next id, leaves a slot for the response under that id, and
hands its message to the writer through a mailbox; then it waits for its slot to be filled, or for its time to be up.
Two tasks do the rest: the writer puts one message after the other on the way to the worker, and the reader takes the
worker's messages apart, fills slots, and refuses what the worker asks for.

Nothing here happens in one piece. `Channel.step` is one step of one of them, and a run is any interleaving of such
steps; `Label` names who moves. The state of the worker is shared with the supervisor, so it goes in and comes out.
-/

namespace Attendant

/-- What the writer is told to do. -/
inductive Command where
  | send (message : Value)
  | shutdown
  deriving DecidableEq, Repr

/-- The parameters of a request. Some values of a program cannot be written as JSON. -/
inductive Params where
  | absent
  | given (v : Value)
  | unencodable
  deriving DecidableEq, Repr

/-- The parameters as they go over the wire. -/
def Params.value? : Params → Option Value
  | .given v => some v
  | _ => none

/-- What a caller wants. A guarded job is refused unless the worker is running. -/
inductive Job where
  | ask (guarded : Bool) (method : String) (params : Params) (limit : Duration)
  | tell (guarded : Bool) (method : String) (params : Option Value)
  | finish
  deriving DecidableEq, Repr

/-- Where a caller stands. -/
inductive Stage where
  | gate
  | identify
  | register (id : Nat)
  | verify (id : Nat)
  | submit (id : Option Nat)
  | queued (id : Option Nat)
  | waiting (id : Nat) (deadline : Nat)
  | withdraw (id : Nat) (fault : RequestFault)
  | done (outcome : Except RequestFault Value)
  | abandoned
  deriving Repr

/-- A caller: what it wants, and how far it has come. -/
structure Caller where
  job : Job
  stage : Stage := .gate
  deriving Repr

/-- Where the writer stands. -/
inductive WriterTask where
  | idle
  | writing (rest : List UInt8)
  | ended
  deriving DecidableEq, Repr

/-- Where the reader stands. After the end of the stream it first tells the state, then closes, then clears the slots;
a reader that is stopped from outside does none of this. -/
inductive ReaderTask where
  | reading (reader : Frame.Reader)
  | dispatching (reader : Frame.Reader) (message : Value)
  | replying (reader : Frame.Reader) (reply : Value) (queued : Bool)
  | failing (reason : String)
  | closing
  | clearing
  | ended
  | stopped
  deriving DecidableEq, Repr

/-- Who puts messages into the mailbox. -/
inductive Sender where
  | reader
  | caller (key : Nat)
  deriving DecidableEq, Repr

/-- A channel. Callers are named by their place in the list. -/
structure Channel where
  nextId : Nat := 1
  pending : List Nat := []
  answers : List (Nat × Value) := []
  closed : Bool := false
  mailbox : Mailbox Sender Command := { capacity := 64 }
  writer : WriterTask := .idle
  reader : ReaderTask := .reading .start
  callers : List Caller := []
  toWorker : Pipe := .empty Pipe.usual
  fromWorker : Pipe := .empty Pipe.usual
  deriving Repr

/-- An outcome whose result should have a shape. -/
def Outcome.shaped (shape : Shape) (outcome : Except RequestFault Value) : Except RequestFault Value := do
  match shape.check (← outcome) with
  | .ok v => .ok v
  | .error mismatch => .error (.decode mismatch)

/-- The outcome of the question for the log file: a blank answer means that there is none. -/
def Outcome.logPath (outcome : Except RequestFault Value) : Except RequestFault (Option Path) := do
  match ← Outcome.shaped .textOrNull outcome with
  | .str s => return if Text.isBlank s then none else some (Path.ofString s)
  | _ => return none

/-- Who moves. -/
inductive Channel.Label where
  | caller (key : Nat)
  | expire (key : Nat)
  | writer
  | reader
  deriving DecidableEq, Repr

namespace Job

/-- Whether a job asks for a running worker. -/
def guarded : Job → Bool
  | .ask g _ _ _ => g
  | .tell g _ _ => g
  | .finish => false

/-- The command that a job puts into the mailbox. -/
def command (j : Job) (id : Option Nat) : Command :=
  match j with
  | .ask _ method params _ => .send (Message.request (id.getD 0) method params.value?)
  | .tell _ method params => .send (Message.notification method params)
  | .finish => .shutdown

end Job

namespace Stage

/-- Whether a caller has come to its end. -/
def isOver : Stage → Bool
  | .done _ | .abandoned => true
  | _ => false

end Stage

namespace Channel

/-- The stage of a caller. -/
def stage? (c : Channel) (key : Nat) : Option Stage := (c.callers[key]?).map (·.stage)

/-- The outcome of a caller that has one. -/
def outcome? (c : Channel) (key : Nat) : Option (Except RequestFault Value) :=
  match c.stage? key with
  | some (.done outcome) => some outcome
  | _ => none

/-- Moves a caller to a stage. -/
def setStage (c : Channel) (key : Nat) (stage : Stage) : Channel :=
  { c with callers := c.callers.modify key fun caller => { caller with stage } }

/-- A new caller; it is named by the number of callers before it. -/
def enter (c : Channel) (job : Job) : Channel × Nat :=
  ({ c with callers := c.callers ++ [{ job }] }, c.callers.length)

/-- A caller gives up. Its slot stays, and so does a message that is in the mailbox already. -/
def abandon (c : Channel) (key : Nat) : Channel :=
  match c.stage? key with
  | some stage =>
    if stage.isOver then c
    else { c.setStage key .abandoned with mailbox := c.mailbox.withdraw (.caller key) }
  | none => c

/-- Where a caller stands whose job the mailbox has taken. -/
def accepted (now : Nat) (job : Job) (id : Option Nat) : Stage :=
  match job, id with
  | .ask _ _ _ limit, some id => .waiting id (now + limit.nanos)
  | _, _ => .done (.ok .null)

/-- Where a caller stands whose job the mailbox has refused. -/
def refused (job : Job) (id : Option Nat) : Stage :=
  match job, id with
  | .finish, _ => .done (.ok .null)
  | _, some id => .withdraw id .transportClosed
  | _, none => .done (.error .transportClosed)

/-- What a response says to its caller. -/
def outcomeOf (body : Value) : Except RequestFault Value :=
  match Response.result body with
  | .ok v => .ok v
  | .error e => .error (.remote e)

/-- One step of a caller. -/
def stepCaller (now : Nat) (status : Status) (c : Channel) (key : Nat) : Option Channel := do
  let caller ← c.callers[key]?
  let job := caller.job
  match caller.stage with
  | .gate =>
    if job.guarded && status != .running then return c.setStage key (.done (.error .notConnected))
    else match job with
      | .ask _ _ .unencodable _ => return c.setStage key (.done (.error .encode))
      | .ask _ _ _ _ => return c.setStage key .identify
      | _ => return c.setStage key (.submit none)
  | .identify => return { c.setStage key (.register c.nextId) with nextId := (c.nextId + 1) % width64 }
  | .register id => return { c.setStage key (.verify id) with pending := c.pending ++ [id] }
  | .verify id => return c.setStage key (if c.closed then .withdraw id .transportClosed else .submit (some id))
  | .submit id =>
    if !c.mailbox.isOpen then return c.setStage key (refused job id)
    else if c.mailbox.hasRoom then
      return { c.setStage key (accepted now job id) with mailbox := c.mailbox.push (job.command id) }
    else return { c.setStage key (.queued id) with mailbox := c.mailbox.wait (.caller key) }
  | .queued id =>
    if !c.mailbox.isOpen then
      return { c.setStage key (refused job id) with mailbox := c.mailbox.withdraw (.caller key) }
    else if c.mailbox.isGranted (.caller key) then
      return { c.setStage key (accepted now job id) with mailbox := c.mailbox.redeem (.caller key) (job.command id) }
    else none
  | .waiting id _ =>
    match c.answers.lookup id with
    | some body =>
      return { c.setStage key (.done (outcomeOf body)) with answers := c.answers.filter (·.1 != id) }
    | none => if c.pending.contains id then none else return c.setStage key (.withdraw id .transportClosed)
  | .withdraw id fault => return { c.setStage key (.done (.error fault)) with pending := c.pending.erase id }
  | .done _ => none
  | .abandoned => none

/-- The time of a caller is up, and nothing has come. -/
def expire (now : Nat) (c : Channel) (key : Nat) : Option Channel := do
  let caller ← c.callers[key]?
  match caller.stage, caller.job with
  | .waiting id deadline, .ask _ method _ limit =>
    if deadline ≤ now && (c.answers.lookup id).isNone && c.pending.contains id then
      return c.setStage key (.withdraw id (.timeout method limit))
    else none
  | _, _ => none

/-- The writer goes away: the mailbox is shut, and the worker will see the end of its input. -/
def endWriter (c : Channel) : Channel :=
  { c with writer := .ended, mailbox := c.mailbox.shut, toWorker := c.toWorker.closeWriter }

/-- One step of the writer. A message that cannot be written ends it. -/
def stepWriter (c : Channel) : Option Channel :=
  match c.writer with
  | .idle =>
    match c.mailbox.take? with
    | some (.send message, mailbox) => some { c with mailbox, writer := .writing (Frame.encode message) }
    | some (.shutdown, mailbox) => some (endWriter { c with mailbox })
    | none => none
  | .writing [] => some { c with writer := .idle }
  | .writing rest =>
    if !c.toWorker.hasReader then some (endWriter c)
    else if c.toWorker.room = 0 then none
    else
      let (toWorker, rest) := c.toWorker.write rest
      some { c with toWorker, writer := .writing rest }
  | .ended => none

/-- What a result of the stream of frames means for the reader. -/
def afterResult (reader : Frame.Reader) : Frame.Result → ReaderTask
  | .frame message => .dispatching reader message
  | .finished => .failing "worker exited"
  | .fault fault => .failing fault.message

/-- Fills the slot of an id, if there is one. -/
def resolve (c : Channel) (id : Nat) (body : Value) : Channel :=
  if c.pending.contains id then { c with pending := c.pending.erase id, answers := c.answers ++ [(id, body)] } else c

/-- A worker that is up has failed; any other state is left alone. -/
def failIfLive (reason : String) (status : Status) : Option Status :=
  if status.isLive then some (.failed reason) else none

/-- One step of the reader. -/
def stepReader (status : Watched Status) (c : Channel) : Option (Watched Status × Channel) :=
  match c.reader with
  | .reading reader =>
    if !c.fromWorker.bytes.isEmpty then
      match reader.scan c.fromWorker.bytes with
      | (reader, none, bytes) =>
        some (status, { c with reader := .reading reader, fromWorker := { c.fromWorker with bytes } })
      | (reader, some result, bytes) =>
        some (status, { c with reader := afterResult reader result, fromWorker := { c.fromWorker with bytes } })
    else if !c.fromWorker.hasWriter then
      match reader.ended with
      | (reader, none) => some (status, { c with reader := .reading reader })
      | (reader, some result) => some (status, { c with reader := afterResult reader result })
    else none
  | .dispatching reader message =>
    match Incoming.ofValue? message with
    | some (.response id body) => some (status, { c.resolve id body with reader := .reading reader })
    | some (.request id method) =>
      some (status, { c with reader := .replying reader (Message.methodNotFound id method) false })
    | _ => some (status, { c with reader := .reading reader })
  | .replying reader reply queued =>
    if !c.mailbox.isOpen then
      some (status, { c with reader := .reading reader, mailbox := c.mailbox.withdraw .reader })
    else if queued then
      if c.mailbox.isGranted .reader then
        some (status, { c with reader := .reading reader, mailbox := c.mailbox.redeem .reader (.send reply) })
      else none
    else if c.mailbox.hasRoom then
      some (status, { c with reader := .reading reader, mailbox := c.mailbox.push (.send reply) })
    else some (status, { c with reader := .replying reader reply true, mailbox := c.mailbox.wait .reader })
  | .failing reason => some (status.modify? (failIfLive reason), { c with reader := .closing })
  | .closing => some (status, { c with reader := .clearing, closed := true })
  | .clearing => some (status, { c with reader := .ended, pending := [], fromWorker := c.fromWorker.closeReader })
  | .ended => none
  | .stopped => none

/-- One step. -/
def step (now : Nat) (status : Watched Status) (c : Channel) : Label → Option (Watched Status × Channel)
  | .caller key => (c.stepCaller now status.value key).map fun c => (status, c)
  | .expire key => (c.expire now key).map fun c => (status, c)
  | .writer => c.stepWriter.map fun c => (status, c)
  | .reader => c.stepReader status

/-- Both tasks are stopped where they stand. -/
def abort (c : Channel) : Channel :=
  let c := match c.writer with
    | .ended => c
    | _ => endWriter c
  match c.reader with
  | .ended => c
  | .stopped => c
  | _ =>
    { c with
      reader := .stopped, fromWorker := c.fromWorker.closeReader, mailbox := c.mailbox.withdraw .reader }

/-- Everyone who could move. -/
def labels (c : Channel) : List Label :=
  let keys := List.range c.callers.length
  keys.map .caller ++ [.writer, .reader] ++ keys.map .expire

/-- The first of some labels that can move, and where it gets. -/
private def firstStep (now : Nat) (status : Watched Status) (c : Channel) :
    List Label → Option (Watched Status × Channel)
  | [] => none
  | l :: rest =>
    match c.step now status l with
    | some next => some next
    | none => firstStep now status c rest

/-- Lets everyone move until nobody can, or the fuel is gone. -/
def settle (now : Nat) : Nat → Watched Status → Channel → Watched Status × Channel
  | 0, status, c => (status, c)
  | fuel + 1, status, c =>
    match firstStep now status c c.labels with
    | some (status, c) => settle now fuel status c
    | none => (status, c)

/-- What a worker does at its ends of the two pipes. -/
inductive Act where
  | reads (count : Nat)
  | writes (bytes : List UInt8)
  | closesInput
  | closesOutput
  deriving DecidableEq, Repr

/-- The channel after something that its worker does. What there is no room for is not written. -/
def act (c : Channel) : Act → Channel
  | .reads count => { c with toWorker := { c.toWorker with bytes := c.toWorker.bytes.drop count } }
  | .writes bytes => if c.fromWorker.hasReader then { c with fromWorker := (c.fromWorker.write bytes).1 } else c
  | .closesInput => { c with toWorker := c.toWorker.closeReader }
  | .closesOutput => { c with fromWorker := c.fromWorker.closeWriter }

/-- The next time at which the wait of a caller is over. -/
def nextDeadline? (c : Channel) : Option Nat :=
  (c.callers.filterMap fun caller =>
    match caller.stage with
    | .waiting _ deadline => some deadline
    | _ => none).min?

end Channel

end Attendant

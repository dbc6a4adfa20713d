import Attendant.Coordinator
import Attendant.Diagnostics
import Attendant.Report

/-!
# The program

The program activates a coordinator and then waits: for an interrupt, at which it shuts down, for a hang-up, at which it
restarts the worker, and for the failure of the worker, of which it tells before it shuts down. The log goes to its
output, what it has to say about itself to its errors or to a file of its own.

`Program.step` is one step of the program or of its coordinator, or a signal that reaches it. In each round of its
waiting the program listens anew for an interrupt; hang-ups are remembered from one round to the next; of the state of
the worker it remembers how often it has been written.
-/

namespace Attendant

/-- A signal that the program may get. -/
inductive Program.Notice where
  | interrupt
  | hangup
  deriving DecidableEq, Repr

/-- What the program found ready when it waited. -/
inductive Program.Branch where
  | interrupt
  | hangup
  | change
  deriving DecidableEq, Repr

/-- Why the program ends. -/
inductive Program.Ending where
  | unstarted (fault : StartFault)
  | interrupted
  | workerFailed (reason : String)
  | broken (fault : StartFault)
  deriving DecidableEq, Repr

/-- Where the program stands. -/
inductive Program.Stage where
  | activating
  | entering
  | turning
  | waiting (interrupted : Bool)
  | restarting
  | closing (ending : Program.Ending)
  | ended (status : ExitStatus)
  deriving DecidableEq, Repr

/-- What the program writes to its errors: a text, or a diagnostic. -/
inductive Program.Utterance where
  | text (s : String)
  | diagnostic (d : Diagnostic)
  deriving DecidableEq, Repr

/-- The program. `armed` says that an interrupt no longer ends it by itself, and `hangups` is none as long as a hang-up
does. `told` counts the notes of the coordinator that have been written down. -/
structure Program where
  coordinator : Coordinator
  filter : Filter := .standard
  logFile : Option Path := none
  stage : Program.Stage := .activating
  armed : Bool := false
  hangups : Option Bool := none
  seen : Nat := 0
  told : Nat := 0
  errors : List Program.Utterance := []
  log : List Diagnostic := []
  deriving Repr

namespace Program

/-- Who moves. -/
inductive Label where
  | proceed
  | choose (branch : Branch)
  | coordinator (label : Coordinator.Label)
  | signal (notice : Notice)
  deriving DecidableEq, Repr

/-- What stands in the output where the log was cleared. -/
def clearedMark : String := "----- log truncated -----\n"

/-- What a call of the sink writes to the output. -/
def written : Log.SinkCall → String
  | .append text => text
  | .clear => clearedMark
  | .dispose => ""

/-- All that has been written to the output. -/
def output (p : Program) : String := String.join (p.coordinator.sink.calls.reverse.map written)

/-- The part of the program that gives notes. -/
def notifier : String := "netlinx::notify"

/-- A note as a diagnostic. -/
def diagnosticOf : Note → Diagnostic
  | .info text => ⟨.info, notifier, text⟩
  | .error text => ⟨.error, notifier, text⟩

/-- Writes a diagnostic down, if the filter allows it. -/
def record (p : Program) (d : Diagnostic) : Program :=
  if !p.filter.allows d then p
  else if p.logFile.isSome then { p with log := p.log ++ [d] }
  else { p with errors := p.errors ++ [.diagnostic d] }

/-- Writes a text to the errors. -/
def say (p : Program) (s : String) : Program := { p with errors := p.errors ++ [.text s] }

/-- The coordinator has moved; new notes of it are written down. -/
def withCoordinator (p : Program) (c : Coordinator) : Program :=
  (c.notes.drop p.told).foldl (fun p n => p.record (diagnosticOf n)) { p with coordinator := c, told := c.notes.length }

/-- A program that is about to activate its worker. -/
def start (now : Nat) (filter : Filter) (logFile : Option Path) (warnings : List String) (complaint : Option String)
    (coordinator : Coordinator) : Program :=
  let p : Program :=
    { coordinator := (coordinator.step now (.begin .activate)).getD coordinator, filter, logFile }
  let p := warnings.foldl (fun p warning => p.record ⟨.warn, "netlinx", warning⟩) p
  match complaint with
  | some text => p.say (text ++ "\n")
  | none => p

/-- Asks the coordinator for something. -/
def ask (now : Nat) (p : Program) (call : Coordinator.Call) (stage : Stage) : Program :=
  { p with stage, coordinator := (p.coordinator.step now (.begin call)).getD p.coordinator }

/-- The faults behind a failed start, the nearest first. -/
def reasons (fault : StartFault) : List String := fault.message :: fault.cause?.toList

/-- The last words, and the code that goes with them. -/
def conclude (p : Program) : Ending → Program
  | .unstarted fault =>
    { p.say (Report.text (p.coordinator.name ++ " language server did not start") (reasons fault)) with
      stage := .ended (.code 1) }
  | .interrupted => { p with stage := .ended (.code 0) }
  | .workerFailed reason =>
    { p.record ⟨.error, notifier, p.coordinator.name ++ " language server exited: " ++ reason⟩ with
      stage := .ended (.code 1) }
  | .broken fault =>
    { p.say (Report.text fault.message fault.cause?.toList) with stage := .ended (.code 1) }

/-- The next step of the program itself, if it need not wait. -/
def proceed (now : Nat) (p : Program) : Option Program :=
  match p.stage with
  | .activating =>
    match p.coordinator.outcome with
    | some .done =>
      let p := match p.coordinator.tailing? with
        | some path => p.say ("Streaming " ++ path.text ++ "\n")
        | none => p
      some { p with stage := .entering }
    | some (.refused fault) => some (p.ask now .shutdown (.closing (.unstarted fault)))
    | none => none
  | .entering =>
    some { p with stage := .turning, seen := p.coordinator.supervisor.status.version, hangups := some false }
  | .turning => some { p with stage := .waiting false, armed := true }
  | .waiting _ => none
  | .restarting =>
    match p.coordinator.outcome with
    | some .done => some { p with stage := .turning }
    | some (.refused fault) => some (p.ask now .shutdown (.closing (.broken fault)))
    | none => none
  | .closing ending =>
    match p.coordinator.stage with
    | .gone => some (p.conclude ending)
    | _ => none
  | .ended _ => none

/-- The program goes on with something that it found ready. -/
def choose (now : Nat) (p : Program) (branch : Branch) : Option Program :=
  match p.stage, branch with
  | .waiting true, .interrupt => some (p.ask now .shutdown (.closing .interrupted))
  | .waiting _, .hangup =>
    if p.hangups = some true then some ({ p with hangups := some false }.ask now .restart .restarting) else none
  | .waiting _, .change =>
    let status := p.coordinator.supervisor.status
    if status.hasNews p.seen then
      let p := { p with seen := status.version }
      match status.value with
      | .failed reason => some (p.ask now .shutdown (.closing (.workerFailed reason)))
      | _ => some { p with stage := .turning }
    else none
  | _, _ => none

/-- A signal reaches the program. An interrupt that comes while the program does not listen for it is lost. -/
def receive (p : Program) (notice : Notice) : Option Program :=
  match p.stage, notice with
  | .ended _, _ => none
  | .waiting _, .interrupt => some { p with stage := .waiting true }
  | _, .interrupt => some (if p.armed then p else { p with stage := .ended (.signal 2) })
  | _, .hangup =>
    some (if p.hangups.isSome then { p with hangups := some true } else { p with stage := .ended (.signal 1) })

/-- One step. Only the program itself begins the calls of its coordinator. -/
def step (now : Nat) (p : Program) : Label → Option Program
  | .proceed => p.proceed now
  | .choose branch => p.choose now branch
  | .coordinator label =>
    match p.stage, label with
    | .ended _, _ => none
    | _, .begin _ => none
    | _, .abandon => none
    | _, label => (p.coordinator.step now label).map p.withCoordinator
  | .signal notice => p.receive notice

end Program

end Attendant

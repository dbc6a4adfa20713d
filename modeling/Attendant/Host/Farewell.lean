import Attendant.Host.Clock
import Attendant.Host.Spawn

/-!
# Farewells

A script that runs on a machine, and is brought to its end after a while or when it has shown a sign.
-/

namespace Attendant.Host

/-- What is waited for before a script is brought to its end. -/
inductive Sign where
  | none
  | ready
  | endOfOutput
  deriving DecidableEq, Repr

/-- A script that runs, and its end if that is under way. -/
structure Farewell where
  now : Nat := 0
  machine : Machine
  ports : Ports
  termination : Option Termination := .none

namespace Farewell

/-- How the process has ended, if it has. -/
def child (f : Farewell) : Option ExitStatus := (f.machine.process? f.ports.process).bind (·.status)

/-- What the script has written. -/
def output (f : Farewell) : Pipe := ((f.machine.pipes[f.ports.output]?).map (·.1)).getD default

/-- Takes some of what the script has written. -/
def drain (f : Farewell) (count : Nat) : Farewell :=
  { f with machine := { f.machine with
    pipes := f.machine.pipes.modify f.ports.output fun (pipe, side) =>
      ({ pipe with bytes := pipe.bytes.drop count }, side) } }

/-- One step of the end. -/
private def stepEnd (f : Farewell) : Option Farewell := do
  let t ← f.termination
  match t.stage with
  | .asking =>
    let t ← t.step f.now f.child (.answered .delivered)
    return { f with termination := some t, machine := f.machine.signal f.ports.process 15 }
  | _ =>
    let t ← t.step f.now f.child .proceed
    let machine := if t.hasKilled then f.machine.signal f.ports.process 9 else f.machine
    return { f with termination := some t, machine }

private def rounds : Nat → Farewell → Farewell
  | 0, f => f
  | fuel + 1, f =>
    match stepEnd f with
    | some f => rounds fuel f
    | none =>
      match f.machine.round f.now with
      | (machine, true) => rounds fuel { f with machine }
      | (_, false) => f

/-- The end of the while that the process has, and the next moment at which a sleeper wakes. -/
def nextDue? (f : Farewell) : Option Nat :=
  ((f.termination.bind (·.deadline?)).toList ++ f.machine.nextDue?.toList).min?

instance : Clocked Farewell where
  now f := f.now
  goTo now f := { f with now }
  settle := rounds 20000
  nextDue? := nextDue?

/-- How long anything is waited for. -/
private def patience : Nat := (Duration.ofSecs 3600).nanos

/-- Waits for a sign. Whoever waits for the end of the output reads all the while, so it may be of any length. -/
def await (sign : Sign) (f : Farewell) : Farewell :=
  match sign with
  | .none => f
  | .ready => (Clocked.wait (fun f : Farewell => 6 ≤ f.output.bytes.length || f.output.atEnd) patience f).drain 6
  | .endOfOutput =>
    let pipes := f.machine.pipes.modify f.ports.output fun (pipe, side) => ({ pipe with capacity := Pipe.inMemory }, side)
    let f := { f with machine := { f.machine with pipes } }
    Clocked.pass (Duration.ofMillis 30).nanos (Clocked.wait (fun f : Farewell => !f.output.hasWriter) patience f)

/-- Whether the end is over. -/
def isOver (f : Farewell) : Bool :=
  match f.termination with
  | some ⟨_, .done _ _⟩ => true
  | some ⟨_, .failed⟩ => true
  | _ => false

/-- Runs a script, waits for a sign, and brings it to its end. -/
def run (machine : Machine) (here : Path) (env : Environment) (script : String) (sign : Sign) (grace : Duration) :
    Option (Exit × ExitStatus) := do
  let (machine, ports) ← (machine.launchAt here (Path.ofString "/bin/sh") (exports env)
    [['s', 'h'], ['-', 'c'], Shell.ofBytes (Utf8.encode script)]).toOption
  let pipes := machine.pipes.modify ports.input fun (pipe, side) => (pipe.closeWriter, side)
  let f := await sign { machine := { machine with pipes }, ports }
  let f := Clocked.wait isOver patience { f with termination := some (.start grace f.now) }
  match (← f.termination).stage with
  | .done exit status => return (exit, status)
  | _ => none

end Farewell

end Attendant.Host

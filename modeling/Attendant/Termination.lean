import Attendant.Duration

/-!
# Bringing a process to its end

A process first gets a while to end by itself, then a signal that asks it to, then a while again, and then a signal
that it cannot refuse. `Termination.step` is one step of this; whether the process has ended yet, and what became of the
first signal, comes from outside.
-/

namespace Attendant

/-- How a process has ended: with a code of its own, or by a signal. -/
inductive ExitStatus where
  | code (n : Nat)
  | signal (n : Nat)
  deriving DecidableEq, Repr, Inhabited

/-- What it took to bring a process to its end. -/
inductive Exit where
  | graceful
  | terminated
  | killed
  deriving DecidableEq, Repr, Inhabited

/-- The word for what it took. -/
def Exit.label : Exit → String
  | .graceful => "graceful"
  | .terminated => "terminated"
  | .killed => "killed"

/-- What became of a signal. -/
inductive SignalAnswer where
  | delivered
  | noProcess
  | refused
  deriving DecidableEq, Repr

/-- How far it has come. -/
inductive Termination.Stage where
  | waiting (deadline : Nat)
  | asking
  | yielding (deadline : Nat)
  | killing
  | reaping
  | done (exit : Exit) (status : ExitStatus)
  | failed
  deriving DecidableEq, Repr

/-- The end of a process under way; the process gets `grace` twice at most. -/
structure Termination where
  grace : Duration
  stage : Termination.Stage
  deriving DecidableEq, Repr

namespace Termination

/-- Who moves: the one who waits, or the system that says what became of the signal that asks. -/
inductive Label where
  | proceed
  | answered (answer : SignalAnswer)
  deriving DecidableEq, Repr

/-- The first while begins. -/
def start (grace : Duration) (now : Nat) : Termination := ⟨grace, .waiting (now + grace.nanos)⟩

/-- One step; `child` is how the process has ended, if it has. -/
def step (now : Nat) (child : Option ExitStatus) (t : Termination) : Label → Option Termination
  | .proceed =>
    match t.stage, child with
    | .waiting _, some status => some { t with stage := .done .graceful status }
    | .waiting deadline, none => if deadline ≤ now then some { t with stage := .asking } else none
    | .yielding _, some status => some { t with stage := .done .terminated status }
    | .yielding deadline, none => if deadline ≤ now then some { t with stage := .killing } else none
    | .killing, _ => some { t with stage := .reaping }
    | .reaping, some status => some { t with stage := .done .killed status }
    | _, _ => none
  | .answered answer =>
    match t.stage with
    | .asking =>
      match answer with
      | .delivered => some { t with stage := .yielding (now + t.grace.nanos) }
      | .noProcess => some { t with stage := .killing }
      | .refused => some { t with stage := .failed }
    | _ => none

/-- Whether the signal that cannot be refused has been sent. -/
def hasKilled (t : Termination) : Bool :=
  match t.stage with
  | .reaping => true
  | .done .killed _ => true
  | _ => false

/-- The end of the while that is running. -/
def deadline? (t : Termination) : Option Nat :=
  match t.stage with
  | .waiting deadline => some deadline
  | .yielding deadline => some deadline
  | _ => none

end Termination

end Attendant

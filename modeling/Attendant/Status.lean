/-!
# States of a worker and of its attendant

A worker is idle, on its way up or down, running, or has failed for a reason.
-/

namespace Attendant

/-- The state of a worker. -/
inductive Status where
  | idle
  | starting
  | running
  | stopping
  | failed (reason : String)
  deriving DecidableEq, Repr, Inhabited

namespace Status

/-- Whether a worker in this state is up, or on its way up. -/
def isLive : Status → Bool
  | .starting | .running => true
  | _ => false

/-- The word for a state. -/
def label : Status → String
  | .idle => "idle"
  | .starting => "starting"
  | .running => "running"
  | .stopping => "stopping"
  | .failed _ => "failed"

/-- The words for a state, the reason of a failure included. -/
def text : Status → String
  | .failed reason => "failed: " ++ reason
  | s => s.label

end Status

/-- The phase of the whole: worker and log together. -/
inductive Phase where
  | stopped
  | starting
  | active
  | stopping
  deriving DecidableEq, Repr, Inhabited

/-- The word for a phase. -/
def Phase.label : Phase → String
  | .stopped => "stopped"
  | .starting => "starting"
  | .active => "active"
  | .stopping => "stopping"

end Attendant

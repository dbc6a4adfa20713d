import Attendant.Coordinator
import Attendant.Host.Session
import Attendant.Host.Viewer

/-!
# Coordinators on a machine

How a coordinator moves in a session: the call under way first, then its supervisor, then the tailers, whose questions
the files of the machine answer. To attach to a log takes a round for each step.
-/

namespace Attendant.Host

open Log

/-- One step of a coordinator, but for those of a tailer that attaches. -/
def Files.stepCoordinator (fs : Files) (now : Nat) (c : Coordinator) : Option Coordinator :=
  let follow : Option Coordinator := do c.step now (.follow (← fs.label? now (← c.tailer)))
  c.proceed now <|> (c.supervisor.labels.findSome? fun label => c.step now (.supervisor label)) <|> follow

/-- One step of a tailer that attaches. -/
def Files.attachCoordinator (fs : Files) (now : Nat) (c : Coordinator) : Option Coordinator := do
  match c.stage with
  | .attaching tailer => c.step now (.attach (← fs.labelNow tailer))
  | _ => none

/-- A change under a name reaches the tailers that watch it. -/
def Files.noticeCoordinator (fs : Files) (now : Nat) (name : List (List UInt8)) (c : Coordinator) : Coordinator :=
  let c := match c.stage with
    | .attaching tailer => if fs.concerns tailer name then (c.step now (.attach .event)).getD c else c
    | _ => c
  match c.tailer with
  | some tailer => if fs.concerns tailer name then (c.step now (.follow .event)).getD c else c
  | none => c

instance : Supervising Coordinator where
  supervisor c := c.supervisor
  withSupervisor c supervisor := { c with supervisor }
  step now fs c := fs.stepCoordinator now c
  stepSlowly now fs c := fs.attachCoordinator now c
  nextDue? c := (c.supervisor.nextDue?.toList ++ (c.tailer.bind firstAlarm?).toList.map (·.1.due)).min?
  notice now fs name c := fs.noticeCoordinator now name c

namespace Session

/-- A call of a coordinator, from its beginning to its end, for so many nanoseconds at most. -/
def callCoordinator (s : Session Coordinator) (call : Coordinator.Call) (limit : Nat) : Session Coordinator :=
  let isOver (s : Session Coordinator) : Bool :=
    match s.holder.stage with
    | .free => true
    | .gone => true
    | _ => false
  Clocked.wait isOver limit { s with holder := (s.holder.step s.now (.begin call)).getD s.holder }

/-- Gives up the call of a coordinator. -/
def abandonCoordinator (s : Session Coordinator) : Session Coordinator :=
  { s with holder := (s.holder.step s.now .abandon).getD s.holder }

end Session

end Attendant.Host

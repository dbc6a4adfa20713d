import Attendant.Host.Coordination
import Attendant.Program
import Attendant.Settings.Load

/-!
# The program on a machine

How the program starts in a directory with an environment: it chooses the file for its diagnostics, reads its settings,
and begins to activate. And how it moves in a session.
-/

namespace Attendant.Host

namespace Terminal

/-- The files that diagnostics may go to, the best first: one beside the settings, and one in the directory of the
program. -/
def logCandidates (settings : Option Path) : List Path :=
  ((settings.bind Path.parent?).map fun dir =>
      (Path.ofString "netlinx.log").seenFrom ((Path.ofString "logs").seenFrom dir)).toList ++
    [Path.ofString ".netlinx/logs/netlinx.log"]

/-- Opens one file for diagnostics; its directory is made if need be. -/
private def openLog (fs : Files) (here path : Path) : Except String Files := do
  let fs ← match path.parent? with
    | some dir =>
      match if dir.bytes.isEmpty then .ok fs else fs.makeDirectories (dir.seenFrom here) with
      | .ok fs => .ok fs
      | .error fault => .error ("Failed to create log dir " ++ dir.text ++ ": " ++ fault.message)
    | none => .ok fs
  match fs.openToWrite (path.seenFrom here) true Files.usualMode with
  | .ok (fs, _) => return fs
  | .error fault => .error ("Failed to open log file " ++ path.text ++ ": " ++ fault.message)

/-- Opens the first file for diagnostics that can be opened, with warnings of those before it. A directory that has been
made stays, even if its file could not be opened. -/
private def chooseLog (here : Path) : List Path → Files → Files × Option Path × List String
  | [], fs => (fs, none, [])
  | path :: rest, fs =>
    match openLog fs here path with
    | .ok fs => (fs, some path, [])
    | .error warning =>
      let made := (path.parent?.bind fun dir => (fs.makeDirectories (dir.seenFrom here)).toOption).getD fs
      let (fs, chosen, warnings) := chooseLog here rest made
      (fs, chosen, warning :: warnings)

/-- The plan that the settings come to, and what is said if they cannot be used. -/
private def loadPlan (fs : Files) (env : Environment) (here : Path) (settings : Option Path) : Plan × Option String :=
  let standard : Settings := {}
  match settings.bind (Settings.load fs here) with
  | some (.ok s) => (s.resolve env here, none)
  | some (.error fault) => (standard.resolve env here, some ("Ignoring config: " ++ fault.message))
  | none => (standard.resolve env here, none)

/-- The program in a session of its own. -/
def start (files : Files) (env : Environment) (here : Path) (process : Nat) : Session Program :=
  let settings := settingsPath? env ((env.get? "HOME").map Path.mk)
  let (files, logFile, warnings) := chooseLog here (logCandidates settings) files
  let (plan, complaint) := loadPlan files env here settings
  { here, environment := env, machine := { files }
    holder := .start 0 (.ofText (env.text? "RUST_LOG")) logFile warnings complaint (.start plan here process) }

end Terminal

instance : Supervising Program where
  supervisor p := p.coordinator.supervisor
  withSupervisor p supervisor := p.withCoordinator { p.coordinator with supervisor }
  step now fs p :=
    match p.stage with
    | .ended _ => none
    | _ =>
      p.proceed now <|> ([Program.Branch.interrupt, .hangup, .change].findSome? (p.choose now)) <|>
        (fs.stepCoordinator now p.coordinator).map p.withCoordinator
  stepSlowly now fs p :=
    match p.stage with
    | .ended _ => none
    | _ => (fs.attachCoordinator now p.coordinator).map p.withCoordinator
  nextDue? p := Supervising.nextDue? p.coordinator
  notice now fs name p := p.withCoordinator (fs.noticeCoordinator now name p.coordinator)

namespace Session

/-- Whether the program has ended, and how. -/
def ending? (s : Session Program) : Option ExitStatus :=
  match s.holder.stage with
  | .ended status => some status
  | _ => none

/-- Waits for something, but no longer than the program runs. -/
def waitProgram (s : Session Program) (is : Program → Bool) (limit : Nat) : Session Program :=
  Clocked.wait (fun s : Session Program => s.ending?.isSome || is s.holder) limit s

/-- A signal reaches the program. -/
def signalProgram (s : Session Program) (notice : Program.Notice) : Session Program :=
  { s with holder := (s.holder.step s.now (.signal notice)).getD s.holder }

end Session

end Attendant.Host

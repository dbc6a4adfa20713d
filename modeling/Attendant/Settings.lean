import Attendant.Duration
import Attendant.Expansion
import Attendant.Fault
import Attendant.Language
import Attendant.Launch
import Attendant.Toml.Parser

/-!
# Settings

What a settings file may say, and what follows from it. `Settings` holds the file's own words, with `none` for what it
leaves out; `Settings.resolve` expands the references to variables and fills in the defaults, which gives the
`Plan` that everything else works from.
-/

namespace Attendant

/-- What a file says about the worker. -/
structure WorkerSettings where
  enabled : Bool := true
  path : Option String := none
  args : List String := []
  shell : Bool := false
  cwd : Option String := none
  logPathMethod : Option String := none
  requestTimeoutMs : Option Nat := none
  initTimeoutMs : Option Nat := none
  stopGraceMs : Option Nat := none
  deriving DecidableEq, Repr, Inhabited

/-- What a file says about following the log. -/
structure TailSettings where
  debounceMs : Option Nat := none
  pollIntervalMs : Option Nat := none
  deriving DecidableEq, Repr, Inhabited

/-- What a file says. -/
structure Settings where
  language : Option Language := none
  worker : Option WorkerSettings := none
  tail : Option TailSettings := none
  deriving DecidableEq, Repr, Inhabited

/-- How the log is followed. -/
structure TailOptions where
  debounce : Duration
  pollInterval : Duration
  capacity : Nat
  deriving DecidableEq, Repr, Inhabited

/-- How the worker is supervised. -/
structure WorkerOptions where
  enabled : Bool
  initTimeout : Duration
  stopGrace : Duration
  workspaceRoot : Path
  deriving DecidableEq, Repr, Inhabited

/-- Everything that settings decide. -/
structure Plan where
  language : Language
  launch : Launch
  worker : WorkerOptions
  logPathMethod : String
  requestTimeout : Duration
  tail : TailOptions
  deriving DecidableEq, Repr, Inhabited

/-- The command of the worker if none is given. -/
def defaultCommand : String := "netlinx-language-server"

/-- The method that asks a worker for its log file if no other is given. -/
def defaultLogPathMethod : String := "netlinx/serverLogPath"

namespace WorkerSettings

/-- The fields of the table, in order. -/
def slots : List Record.Slot :=
  [⟨"enabled", true⟩, ⟨"path", false⟩, ⟨"args", true⟩, ⟨"shell", true⟩, ⟨"cwd", false⟩, ⟨"log_path_method", false⟩,
    ⟨"request_timeout_ms", false⟩, ⟨"init_timeout_ms", false⟩, ⟨"stop_grace_ms", false⟩]

/-- Reads the table from the values of its fields. -/
def ofFields? : List (Option Value) → Option WorkerSettings
  | [enabled, path, args, shell, cwd, logPathMethod, requestTimeoutMs, initTimeoutMs, stopGraceMs] => do
    return {
      enabled := ← Value.orDefault Value.bool? true enabled
      path := ← Value.optionally Value.str? path
      args := ← Value.orDefault Value.strings? [] args
      shell := ← Value.orDefault Value.bool? false shell
      cwd := ← Value.optionally Value.str? cwd
      logPathMethod := ← Value.optionally Value.str? logPathMethod
      requestTimeoutMs := ← Value.optionally Value.nat64? requestTimeoutMs
      initTimeoutMs := ← Value.optionally Value.nat64? initTimeoutMs
      stopGraceMs := ← Value.optionally Value.nat64? stopGraceMs }
  | _ => none

end WorkerSettings

namespace TailSettings

/-- The fields of the table, in order. -/
def slots : List Record.Slot := [⟨"debounce_ms", false⟩, ⟨"poll_interval_ms", false⟩]

/-- Reads the table from the values of its fields. -/
def ofFields? : List (Option Value) → Option TailSettings
  | [debounceMs, pollIntervalMs] => do
    return {
      debounceMs := ← Value.optionally Value.nat64? debounceMs
      pollIntervalMs := ← Value.optionally Value.nat64? pollIntervalMs }
  | _ => none

end TailSettings

namespace Settings

/-- A field that may be missing, read as a record. -/
private def recordOf? {α : Type} (slots : List Record.Slot) (ofFields? : List (Option Value) → Option α) :
    Option Toml.Item → Option (Option α)
  | none => some none
  | some i => (i.values? slots >>= ofFields?).map some

/-- The fields of a file, in order. -/
def slots : List Record.Slot := [⟨"language", false⟩, ⟨"language_server", false⟩, ⟨"log_tail", false⟩]

/-- Reads the settings from the fields of a file. -/
def ofFields? : List (Option Toml.Item) → Option Settings
  | [language, worker, tail] => do
    return {
      language := ← recordOf? Language.slots Language.ofFields? language
      worker := ← recordOf? WorkerSettings.slots WorkerSettings.ofFields? worker
      tail := ← recordOf? TailSettings.slots TailSettings.ofFields? tail }
  | _ => none

/-- The settings that a text says. -/
def parse? (s : String) : Option Settings := do ofFields? (← (← Toml.parse? s).arrange? slots)

/-- The settings in the bytes of a file. -/
def decode (path : Path) (bytes : List UInt8) : Except SettingsFault Settings :=
  match Utf8.toString? bytes with
  | none => .error (.read path ⟨"InvalidData", "stream did not contain valid UTF-8"⟩)
  | some s =>
    match parse? s with
    | some settings => .ok settings
    | none => .error (.parse path)

/-- The time of a setting in milliseconds, or the default. -/
private def millis (setting : Option Nat) (default : Nat) : Duration := .ofMillis (setting.getD default)

/-- The command of the worker: a blank path counts as none. -/
def command (env : Environment) (path : Option String) : String :=
  match path with
  | some path => if Text.isBlank path then defaultCommand else expand env path
  | none => defaultCommand

/-- What settings come to in an environment, in the directory `here`. -/
def resolve (env : Environment) (here : Path) (s : Settings) : Plan :=
  let worker := s.worker.getD {}
  let tail := s.tail.getD {}
  let cwd := worker.cwd.map fun dir => Path.ofString (expand env dir)
  { language := s.language.getD .standard
    launch :=
      { command := command env worker.path
        args := worker.args.map (expand env)
        shell := worker.shell
        cwd }
    worker :=
      { enabled := worker.enabled
        initTimeout := millis worker.initTimeoutMs 30000
        stopGrace := millis worker.stopGraceMs 2000
        workspaceRoot := cwd.getD here }
    logPathMethod := match worker.logPathMethod with
      | some method => if Text.isBlank method then defaultLogPathMethod else method
      | none => defaultLogPathMethod
    requestTimeout := millis worker.requestTimeoutMs 5000
    tail :=
      { debounce := millis tail.debounceMs 300
        pollInterval := millis tail.pollIntervalMs 1000
        capacity := 16 } }

end Settings

/-- Where the settings file is: where the variable says, else below the home directory. -/
def settingsPath? (env : Environment) (home : Option Path) : Option Path :=
  match env.get? "NETLINX_CONFIG" with
  | some (b :: bytes) => some ⟨b :: bytes⟩
  | _ => home.map fun dir => (Path.ofString ".netlinx/config.toml").seenFrom dir

end Attendant

import Attendant.Host.Terminal

/-!
# The command line

Runs the program with the settings of the user. The settings, and the files that the launch in them names, are read from
the disk; the worker itself runs on a machine of its own, where time passes at once. When nothing more is due the program
is interrupted.
-/

namespace Attendant.Main

open Host

/-- The bytes of a file that can be read. -/
def read? (path : Path) : IO (Option (List UInt8)) := do
  try
    match path.text? with
    | some name => return some (← IO.FS.readBinFile name).toList
    | none => return none
  catch _ => return none

/-- The variables of some names, as far as they are set. -/
def lookUp (names : List String) : IO Environment := do
  let mut env : Environment := ⟨[]⟩
  for name in names do
    if let some value ← IO.getEnv name then
      env := env.set name (some (Utf8.encode value))
  return env

/-- Files with one file more, and the directories that lead to it. -/
def withFile (fs : Files) (path : Path) (bytes : List UInt8) : Files :=
  let fs := (path.parent?.bind fun dir => (fs.makeDirectories dir).toOption).getD fs
  ((fs.write path bytes).toOption.map fun fs => fs.permit path 0o755).getD fs

/-- Copies files from the disk. -/
def copyFiles (fs : Files) (paths : List Path) : IO Files := do
  let mut fs := fs
  for path in paths do
    if let some bytes ← read? path then
      fs := withFile fs path bytes
  return fs

/-- The paths that a plan's launch may name. -/
def mentioned (here : Path) (plan : Plan) : List Path :=
  (plan.launch.command :: plan.launch.args).map fun s => (Path.ofString s).seenFrom here

/-- Runs the program; what it has written is printed at its end. -/
def run : IO UInt32 := do
  let here := Path.ofString (← IO.currentDir).toString
  let base ← lookUp ["NETLINX_CONFIG", "HOME", "PATH", "RUST_LOG"]
  let settings := (settingsPath? base ((base.get? "HOME").map Path.mk)).map (·.seenFrom here)
  let text := ((← settings.mapM read?).join.bind Utf8.toString?).getD ""
  let others ← lookUp (Expansion.references text)
  let env : Environment := ⟨base.entries ++ others.entries⟩
  let root := ((({} : Files).makeDirectories here).toOption).getD {}
  let files ← copyFiles root settings.toList
  let plan := ((settings.bind (Settings.load files here)).bind (·.toOption)).getD {} |>.resolve env here
  let files ← copyFiles files (mentioned here plan)
  let s := (Terminal.start files env here 1).waitProgram (fun _ => false) (Duration.ofSecs 3600).nanos
  let s := (s.signalProgram .interrupt).waitProgram (fun _ => false) (Duration.ofSecs 3600).nanos
  IO.print s.holder.output
  for u in s.holder.errors do
    match u with
    | .text words => IO.eprint words
    | .diagnostic d => IO.eprintln d.line
  match s.ending? with
  | some (.code n) => return n.toUInt32
  | some (.signal n) => return (128 + n).toUInt32
  | none => return 1

end Attendant.Main

/-- The entry point. -/
def main : IO UInt32 := Attendant.Main.run

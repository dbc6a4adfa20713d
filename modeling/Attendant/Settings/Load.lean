import Attendant.Host.Files
import Attendant.Settings

/-!
# Loading settings

Settings are read from a file. A file that is not there says nothing; one that cannot be read or understood is a fault.
-/

namespace Attendant

/-- Reads a settings file, as seen from a directory. -/
def Settings.loadFrom (fs : Host.Files) (here p : Path) : Except SettingsFault Settings :=
  match fs.read (p.seenFrom here) with
  | .ok bytes => Settings.decode p bytes
  | .error fault => .error (.read p fault)

/-- Reads a settings file, if it is there. -/
def Settings.load (fs : Host.Files) (here p : Path) : Option (Except SettingsFault Settings) :=
  if fs.exists? (p.seenFrom here) then some (Settings.loadFrom fs here p) else none

end Attendant

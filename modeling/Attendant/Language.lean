import Attendant.Text.Blank
import Attendant.Value.Record

/-!
# The language served

The name under which the worker is spoken of in notices. A blank name asks for the default one.
-/

namespace Attendant

/-- The language that a worker serves. -/
structure Language where
  displayName : String
  deriving DecidableEq, Repr, Inhabited

namespace Language

/-- The name used if none is given. -/
def defaultName : String := "NetLinx"

/-- The language used if none is given. -/
def standard : Language := ⟨defaultName⟩

/-- The language of a name. -/
def named (name : String) : Language := if Text.isBlank name then standard else ⟨name⟩

/-- The fields of the record that describes a language. -/
def slots : List Record.Slot := [⟨"display_name", true⟩]

/-- Reads a language from the values of its fields. A name that is written down is kept as it is. -/
def ofFields? : List (Option Value) → Option Language
  | [name] => (Value.orDefault Value.str? defaultName name).map (⟨·⟩)
  | _ => none

end Language

end Attendant

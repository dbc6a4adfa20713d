import Attendant.Text.Utf8

/-!
# The environment of a process

Variables as the process has them: lines `NAME=VALUE` in some order. A name is looked up among the lines as they stand,
so the first line that begins with the name and an equals sign answers.
-/

namespace Attendant

/-- The variables of a process with their values, which need not be text. -/
structure Environment where
  entries : List (String × List UInt8)
  deriving DecidableEq, Repr, Inhabited

namespace Environment

/-- The line of an entry. -/
private def lineOf (entry : String × List UInt8) : List UInt8 := Utf8.encode entry.1 ++ 0x3D :: entry.2

/-- The value of a variable. -/
def get? (env : Environment) (name : String) : Option (List UInt8) :=
  let start := Utf8.encode name ++ [0x3D]
  (env.entries.find? fun entry => start.isPrefixOf (lineOf entry)).map fun entry => (lineOf entry).drop start.length

/-- The value of a variable that is text. -/
def text? (env : Environment) (name : String) : Option String := env.get? name >>= Utf8.toString?

/-- The environment in which a variable has another value, or none. -/
def set (env : Environment) (name : String) (value : Option (List UInt8)) : Environment :=
  let others := env.entries.filter (·.1 != name)
  match value with
  | some bytes => ⟨others ++ [(name, bytes)]⟩
  | none => ⟨others⟩

end Environment

end Attendant

/-!
# Watched values

A value that others look at, and a count of how often it has been written. Whoever remembers the count of the last
look can tell whether something has been written since, though not what was overwritten in between.
-/

namespace Attendant

/-- A value and how often it has been written. -/
structure Watched (α : Type) where
  value : α
  version : Nat := 0
  deriving Repr

namespace Watched

variable {α : Type}

/-- Writes a value, be it the same as before. -/
def set (w : Watched α) (a : α) : Watched α := ⟨a, w.version + 1⟩

/-- Writes `f value` if `f` gives anything. -/
def modify? (w : Watched α) (f : α → Option α) : Watched α :=
  match f w.value with
  | some a => w.set a
  | none => w

/-- Whether anything has been written since a look that saw the count `seen`. -/
def hasNews (w : Watched α) (seen : Nat) : Bool := seen < w.version

@[simp] theorem set_value (w : Watched α) (a : α) : (w.set a).value = a := rfl

end Watched

end Attendant

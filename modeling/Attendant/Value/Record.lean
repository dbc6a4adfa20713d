import Attendant.Value.Basic
import Attendant.Widths

/-!
# Records

Some tables are records: their fields have fixed names and fixed types. A record may also be written as the list of its
values, in the order of its fields. `Record.arrange?` brings both forms into that order, and small readers turn the
values into what the fields hold.
-/

namespace Attendant

/-- What is seen as a record: named fields in the order they are written, or what the first fields hold. -/
inductive Record (α : Type) where
  | fields (entries : List (String × α))
  | positions (items : List α)
  deriving Repr

namespace Record

/-- A value as a record. -/
def ofValue? : Value → Option (Record Value)
  | .table entries => some (.fields entries)
  | .list items => some (.positions items)
  | _ => none

/-- A field of a type of records: its name, and whether a list of values may stop before it. -/
structure Slot where
  name : String
  mayEnd : Bool := true
  deriving Repr

/-- What stands under one name. A name that is there twice is a fault. -/
private def named? {α : Type} (name : String) (entries : List (String × α)) : Option (Option α) :=
  match entries.filter (·.1 == name) with
  | [] => some none
  | [(_, v)] => some (some v)
  | _ => none

/-- What the slots hold, in their order; `none` if the record does not fit them. Fields of other names count for
nothing; `surplus` says whether further positions do too. -/
def arrange? {α : Type} (slots : List Slot) (surplus : Bool) : Record α → Option (List (Option α))
  | .fields entries => slots.mapM fun slot => named? slot.name entries
  | .positions items =>
    if !surplus && slots.length < items.length then none
    else if (slots.drop items.length).all (·.mayEnd) then
      some ((List.range slots.length).map fun i => items[i]?)
    else none

/-- Under names that differ from each other, what stands under one of them is what is looked up. -/
private theorem named?_eq_lookup {α : Type} (name : String) {entries : List (String × α)}
    (h : (entries.map (·.1)).Nodup) : named? name entries = some (entries.lookup name) := by
  have hfilter : entries.filter (·.1 == name) = ((entries.lookup name).map fun v => (name, v)).toList := by
    induction entries with
    | nil => rfl
    | cons entry entries ih =>
      obtain ⟨k, v⟩ := entry
      rw [List.map_cons, List.nodup_cons] at h
      by_cases hk : k = name
      · subst hk
        have hnone : entries.filter (·.1 == k) = [] := by
          rw [List.filter_eq_nil_iff]
          intro entry hentry hkey
          exact h.1 (List.mem_map.2 ⟨entry, hentry, eq_of_beq hkey⟩)
        simp [hnone]
      · simp [hk, List.lookup_cons, beq_false_of_ne (Ne.symm hk), ih h.2]
  rw [named?, hfilter]
  cases entries.lookup name <;> rfl

/-- A record that is a table of names which differ from each other fits any slots. -/
theorem arrange?_fields {α : Type} (slots : List Slot) (surplus : Bool) {entries : List (String × α)}
    (h : (entries.map (·.1)).Nodup) :
    arrange? slots surplus (.fields entries) = some (slots.map fun slot => entries.lookup slot.name) := by
  rw [arrange?]
  induction slots with
  | nil => rfl
  | cons slot slots ih => simp [List.mapM_cons, named?_eq_lookup slot.name h, ih]

end Record

namespace Value

/-- A field that is read only if it is there. -/
def orDefault {α : Type} (read : Value → Option α) (default : α) : Option Value → Option α
  | none => some default
  | some v => read v

/-- A field that may be missing or null. -/
def optionally {α : Type} (read : Value → Option α) : Option Value → Option (Option α)
  | none => some none
  | some .null => some none
  | some v => (read v).map some

/-- The truth value of a value that is one. -/
def bool? : Value → Option Bool
  | .bool b => some b
  | _ => none

/-- The texts of a list of strings. -/
def strings? : Value → Option (List String)
  | .list items => items.mapM str?
  | _ => none

/-- The number of a value that is an integer from `-2 ^ 63` to `2 ^ 63 - 1`. -/
def int64? : Value → Option Int
  | .int n => if -(width63 : Int) ≤ n && n < width63 then some n else none
  | _ => none

end Value

end Attendant

import Attendant.Value.Record

/-!
# What stands under the keys of a settings file

An `Item` is a value as it is written. A number is judged in two steps: its form when the file is read, its value only
when somebody asks for it. So a number of a proper form that has no value (too large, or with a digit of another base)
does no harm where nobody looks, and `Item.toValue?` is what looks.
-/

namespace Attendant.Toml

/-- A value as it is written. A number that has no value is a `word` of `none`. -/
inductive Item where
  | word (v : Option Value)
  | moment
  | list (items : List Item)
  | table (fields : List (String × Item))
  deriving Inhabited

mutual

/-- The value of an item, if all numbers in it have one. A date or a time is a table whose fields nobody asks for. -/
def Item.toValue? : Item → Option Value
  | .word v => v
  | .moment => some (.table [])
  | .list items => (itemValues? items).map .list
  | .table fields => (fieldValues? fields).map Value.ofFields

/-- The values of some items. -/
def itemValues? : List Item → Option (List Value)
  | [] => some []
  | i :: rest => do return (← i.toValue?) :: (← itemValues? rest)

/-- The values of some fields. -/
def fieldValues? : List (String × Item) → Option (List (String × Value))
  | [] => some []
  | (k, i) :: rest => do return (k, ← i.toValue?) :: (← fieldValues? rest)

end

/-- An item as a record. Of a list that has more items than the record has fields nobody looks at the rest, but a field
of a table is looked at whatever its name. -/
def Item.record? (slots : List Record.Slot) : Item → Option (Record Item)
  | .word _ => none
  | .moment => some (.fields [])
  | .list items => some (.positions items)
  | .table fields =>
    if fields.all fun (k, i) => slots.any (·.name == k) || i.toValue?.isSome then some (.fields fields) else none

/-- The items of the slots of a record, in their order. -/
def Item.arrange? (slots : List Record.Slot) (i : Item) : Option (List (Option Item)) :=
  i.record? slots >>= Record.arrange? slots true

/-- The values of the slots of a record, in their order. -/
def Item.values? (slots : List Record.Slot) (i : Item) : Option (List (Option Value)) := do
  (← i.arrange? slots).mapM fun
    | none => some none
    | some i => i.toValue?.map some

end Attendant.Toml

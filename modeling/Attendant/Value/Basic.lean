import Attendant.Widths

/-!
# Values

The tree of data that messages and settings are made of. A table keeps its fields in increasing order of their names,
each name once; `Value.put` is the one way to add a field, and a later field replaces an earlier one of its name.
-/

namespace Attendant

/-- A double by its bits, so that two of them are equal iff they are written alike. -/
structure Double where
  bits : UInt64
  deriving DecidableEq, Repr, Inhabited

namespace Double

/-- The double that a machine number is. -/
def ofFloat (x : Float) : Double := ⟨x.toBits⟩

/-- The machine number that a double is. -/
def toFloat (d : Double) : Float := Float.ofBits d.bits

/-- Whether the sign bit is set. -/
def isNegative (d : Double) : Bool := width63 ≤ d.bits.toNat

/-- Whether the magnitude is zero. -/
def isZero (d : Double) : Bool := d.bits.toNat % width63 = 0

/-- Whether the double is neither infinite nor a NaN. -/
def isFinite (d : Double) : Bool := d.bits.toNat / width52 % 2048 ≠ 2047

end Double

/-- A value of a message or of a settings file. -/
inductive Value where
  | null
  | bool (b : Bool)
  | int (n : Int)
  | double (d : Double)
  | str (s : String)
  | list (items : List Value)
  | table (fields : List (String × Value))
  deriving Repr, Inhabited

namespace Value

mutual

/-- Whether two values are the same. -/
def same : Value → Value → Bool
  | .null, .null => true
  | .bool a, .bool b => a == b
  | .int a, .int b => a == b
  | .double a, .double b => a == b
  | .str a, .str b => a == b
  | .list a, .list b => sameItems a b
  | .table a, .table b => sameFields a b
  | _, _ => false

/-- Whether two lists of values are the same. -/
def sameItems : List Value → List Value → Bool
  | [], [] => true
  | a :: as, b :: bs => same a b && sameItems as bs
  | _, _ => false

/-- Whether two lists of fields are the same. -/
def sameFields : List (String × Value) → List (String × Value) → Bool
  | [], [] => true
  | (k, a) :: as, (l, b) :: bs => k == l && same a b && sameFields as bs
  | _, _ => false

end

mutual

private theorem eq_of_same : ∀ {a b : Value}, same a b = true → a = b := by
  intro a b h
  cases a <;> cases b <;> simp only [same, Bool.false_eq_true, beq_iff_eq] at h
  · rfl
  · rw [h]
  · rw [h]
  · rw [h]
  · rw [h]
  · rw [eq_of_sameItems h]
  · rw [eq_of_sameFields h]

private theorem eq_of_sameItems : ∀ {a b : List Value}, sameItems a b = true → a = b := by
  intro a b h
  cases a <;> cases b <;> simp only [sameItems, Bool.false_eq_true, Bool.and_eq_true] at h
  · rfl
  · rw [eq_of_same h.1, eq_of_sameItems h.2]

private theorem eq_of_sameFields : ∀ {a b : List (String × Value)}, sameFields a b = true → a = b := by
  intro a b h
  match a, b with
  | [], [] => rfl
  | [], _ :: _ => simp [sameFields] at h
  | _ :: _, [] => simp [sameFields] at h
  | (k, a) :: as, (l, b) :: bs =>
    simp only [sameFields, Bool.and_eq_true, beq_iff_eq] at h
    rw [h.1.1, eq_of_same h.1.2, eq_of_sameFields h.2]

end

mutual

private theorem same_refl : ∀ a : Value, same a a = true
  | .null => rfl
  | .bool b => by simp [same]
  | .int n => by simp [same]
  | .double d => by simp [same]
  | .str s => by simp [same]
  | .list items => by simp [same, sameItems_refl items]
  | .table fields => by simp [same, sameFields_refl fields]

private theorem sameItems_refl : ∀ a : List Value, sameItems a a = true
  | [] => rfl
  | a :: as => by simp [sameItems, same_refl a, sameItems_refl as]

private theorem sameFields_refl : ∀ a : List (String × Value), sameFields a a = true
  | [] => rfl
  | (k, a) :: as => by simp [sameFields, same_refl a, sameFields_refl as]

end

/-- `same` decides equality. -/
theorem same_iff {a b : Value} : same a b = true ↔ a = b :=
  ⟨eq_of_same, fun h => h ▸ same_refl a⟩

instance : DecidableEq Value := fun a b => decidable_of_iff _ (same_iff (a := a) (b := b))

/-- Adds a field to a list of fields in increasing order; a field of that name is replaced. -/
def putField (key : String) (v : Value) : List (String × Value) → List (String × Value)
  | [] => [(key, v)]
  | (k, w) :: rest =>
    if key = k then (key, v) :: rest
    else if key < k then (key, v) :: (k, w) :: rest
    else (k, w) :: putField key v rest

/-- The table of some fields, written in any order: the last field of each name counts. -/
def ofFields (fields : List (String × Value)) : Value :=
  .table (fields.foldl (fun acc (k, v) => putField k v acc) [])

/-- The field of a table; a value of any other shape has none. -/
def field? (v : Value) (key : String) : Option Value :=
  match v with
  | .table fields => fields.lookup key
  | _ => none

/-- The number of a value that is an integer from `0` to `2 ^ 64 - 1`. -/
def nat64? : Value → Option Nat
  | .int n => if 0 ≤ n && n < width64 then some n.toNat else none
  | _ => none

/-- The text of a value that is a string. -/
def str? : Value → Option String
  | .str s => some s
  | _ => none

/-- Looking up a field after adding it, or another one. -/
theorem lookup_putField (key k : String) (v : Value) (fields : List (String × Value)) :
    (putField key v fields).lookup k = if k = key then some v else fields.lookup k := by
  induction fields with
  | nil =>
    by_cases h : k = key
    · simp [putField, h]
    · simp [putField, List.lookup_cons, h, beq_false_of_ne h]
  | cons head rest ih =>
    obtain ⟨k', w⟩ := head
    simp only [putField]
    by_cases h1 : key = k'
    · subst h1
      by_cases h : k = key
      · simp [h]
      · simp [List.lookup_cons, h, beq_false_of_ne h]
    · simp only [h1, ↓reduceIte]
      by_cases h2 : key < k'
      · simp only [h2, ↓reduceIte]
        by_cases h : k = key
        · simp [h]
        · simp [List.lookup_cons, h, beq_false_of_ne h]
      · simp only [h2, ↓reduceIte, List.lookup_cons]
        by_cases h : k = k'
        · subst h
          have : ¬ k = key := fun e => h1 e.symm
          simp [this]
        · rw [beq_false_of_ne h]
          exact ih

end Value

end Attendant

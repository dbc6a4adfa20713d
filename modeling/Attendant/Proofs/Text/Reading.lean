import Attendant.Proofs.Text.Encoding

/-!
# Readings of bytes

What a text of bytes reads as. `Reading` says it without a reader: a text is a row of characters and of maximal
ill-formed runs, and after them perhaps the beginning of a character that is cut off. The key facts: reading byte
by byte gives this reading and there is no other (`reading_iff`), what is written reads back
(`validate_encodeChars`), and nothing else is read as a text (`toString?_eq_some_iff`).
-/

namespace Attendant.Utf8

/-! ### Reading bytes one after the other -/

private theorem decode_nil (held : List UInt8) : decode held [] = ([], held) := rfl

private theorem decode_cons (held : List UInt8) (b : UInt8) (bs : List UInt8) :
    decode held (b :: bs) =
      ((decode held [b]).1 ++ (decode (decode held [b]).2 bs).1, (decode (decode held [b]).2 bs).2) :=
  decode_append held [b] bs

private theorem decode_cons_of_complete {held : List UInt8} {b : UInt8} {c : Char} (h : judge held b = .complete c)
    (bs : List UInt8) : decode held (b :: bs) = (c :: (decode [] bs).1, (decode [] bs).2) := by
  have one : decode held [b] = ([c], []) := by simp [decode, absorb, h]
  rw [decode_cons, one]
  rfl

private theorem decode_cons_of_unfinished {held : List UInt8} {b : UInt8} (h : judge held b = .unfinished)
    (bs : List UInt8) : decode held (b :: bs) = decode (held ++ [b]) bs := by
  have one : decode held [b] = ([], held ++ [b]) := by simp [decode, absorb, h]
  rw [decode_cons, one]
  rfl

private theorem decode_cons_of_refused {b : UInt8} (h : judge [] b = .refused) (bs : List UInt8) :
    decode [] (b :: bs) = (replacement :: (decode [] bs).1, (decode [] bs).2) := by
  have one : decode [] [b] = ([replacement], []) := by simp [decode, absorb, h]
  rw [decode_cons, one]
  rfl

/-- A byte that is refused ends the run held, and is read again by itself. -/
theorem decode_cons_of_refused_held {held : List UInt8} {b : UInt8} (hne : held ≠ [])
    (h : judge held b = .refused) (bs : List UInt8) :
    decode held (b :: bs) = (replacement :: (decode [] (b :: bs)).1, (decode [] (b :: bs)).2) := by
  have one : decode held [b] = (replacement :: (decode [] [b]).1, (decode [] [b]).2) := by
    obtain ⟨a, held, rfl⟩ := List.exists_cons_of_ne_nil hne
    cases hv : judge [] b <;> simp [decode, absorb, h, hv]
  rw [decode_cons held, one, decode_cons [] b bs]
  rfl

/-- The beginning of a character is held. -/
theorem decode_of_begun (held : List UInt8) {bs : List UInt8} (h : Begun (held ++ bs)) :
    decode held bs = ([], held ++ bs) := by
  induction bs generalizing held with
  | nil => rw [decode_nil, List.append_nil]
  | cons b bs ih =>
    have h' : Begun ((held ++ [b]) ++ bs) := by simpa using h
    rw [decode_cons_of_unfinished (judge_of_begun h'.of_append), ih _ h']
    simp

/-- A character is read where it stands. -/
theorem decode_encode (c : Char) (bs : List UInt8) :
    decode [] (String.utf8EncodeChar c ++ bs) = (c :: (decode [] bs).1, (decode [] bs).2) := by
  obtain ⟨held, b, he⟩ : ∃ held b, String.utf8EncodeChar c = held ++ [b] :=
    ⟨_, _, (List.dropLast_concat_getLast String.utf8EncodeChar_ne_nil).symm⟩
  have hh : Begun ([] ++ held) := ⟨c, [b], by simp, he⟩
  rw [he, List.append_assoc, decode_append, decode_of_begun [] hh]
  change ([] ++ (decode held (b :: bs)).1, (decode held (b :: bs)).2) = _
  rw [decode_cons_of_complete (judge_of_encode he)]
  rfl

/-! ### The lossy reading of a text -/

/-- `run` is a maximal ill-formed run before `rest`: a byte that begins no character, or the beginning of a
character that does not go on. -/
def IllFormed (run rest : List UInt8) : Prop :=
  (∃ b, run = [b] ∧ ∀ c, ¬ [b] <+: String.utf8EncodeChar c) ∨
    (run ≠ [] ∧ Begun run ∧ ∃ b more, rest = b :: more ∧ ∀ c, ¬ run ++ [b] <+: String.utf8EncodeChar c)

/-- `Reading bytes cs held`: the bytes are the characters `cs`, each maximal ill-formed run among them being one
mark, and then the bytes `held` of a character that is cut off. -/
inductive Reading : List UInt8 → List Char → List UInt8 → Prop where
  | cut {held : List UInt8} : Begun held → Reading held [] held
  | char {rest held : List UInt8} {cs : List Char} (c : Char) :
      Reading rest cs held → Reading (String.utf8EncodeChar c ++ rest) (c :: cs) held
  | ill {run rest held : List UInt8} {cs : List Char} :
      IllFormed run rest → Reading rest cs held → Reading (run ++ rest) (replacement :: cs) held

private theorem reading_decode_held (bs : List UInt8) {held : List UInt8} (hh : Begun held) :
    Reading (held ++ bs) (decode held bs).1 (decode held bs).2 := by
  induction bs generalizing held with
  | nil =>
    rw [decode_nil, List.append_nil]
    exact .cut hh
  | cons b bs ih =>
    -- what a byte does when nothing is held; a refused byte comes back to it
    have fresh : Reading (b :: bs) (decode [] (b :: bs)).1 (decode [] (b :: bs)).2 := by
      cases hv : judge [] b with
      | complete c =>
        rw [decode_cons_of_complete hv]
        have := Reading.char c (ih begun_nil)
        rwa [encode_of_judge begun_nil hv] at this
      | unfinished =>
        rw [decode_cons_of_unfinished hv]
        exact ih (begun_of_judge begun_nil hv)
      | refused =>
        rw [decode_cons_of_refused hv]
        have hrun : IllFormed [b] bs := Or.inl ⟨b, rfl, not_prefix_of_judge begun_nil hv⟩
        exact Reading.ill hrun (ih begun_nil)
    cases hv : judge held b with
    | complete c =>
      rw [decode_cons_of_complete hv]
      have := Reading.char c (ih begun_nil)
      rwa [encode_of_judge hh hv, List.append_assoc] at this
    | unfinished =>
      rw [decode_cons_of_unfinished hv]
      have := ih (begun_of_judge hh hv)
      rwa [List.append_assoc] at this
    | refused =>
      by_cases hne : held = []
      · subst hne
        exact fresh
      · rw [decode_cons_of_refused_held hne hv]
        exact .ill (Or.inr ⟨hne, hh, b, bs, rfl, not_prefix_of_judge hh hv⟩) fresh

private theorem decode_of_illFormed {run rest : List UInt8} (h : IllFormed run rest) :
    decode [] (run ++ rest) = (replacement :: (decode [] rest).1, (decode [] rest).2) := by
  rcases h with ⟨b, rfl, hb⟩ | ⟨hne, hr, b, more, rfl, hb⟩
  · apply decode_cons_of_refused
    cases hv : judge [] b with
    | complete c => exact absurd ⟨[], by rw [encode_of_judge begun_nil hv]; rfl⟩ (hb c)
    | unfinished =>
      obtain ⟨c, rest, -, hc⟩ := begun_of_judge begun_nil hv
      exact absurd ⟨rest, hc.symm⟩ (hb c)
    | refused => rfl
  · rw [decode_append, decode_of_begun [] hr]
    change ([] ++ (decode run (b :: more)).1, (decode run (b :: more)).2) = _
    rw [decode_cons_of_refused_held hne]
    · rfl
    · cases hv : judge run b with
      | complete c => exact absurd ⟨[], by rw [encode_of_judge hr hv]; simp⟩ (hb c)
      | unfinished =>
        obtain ⟨c, rest, -, hc⟩ := begun_of_judge hr hv
        exact absurd ⟨rest, hc.symm⟩ (hb c)
      | refused => rfl

/-- Reading byte by byte gives the lossy reading, and there is no other. -/
theorem reading_iff {bs held : List UInt8} {cs : List Char} : Reading bs cs held ↔ decode [] bs = (cs, held) := by
  constructor
  · intro h
    induction h with
    | cut hh => exact decode_of_begun [] hh
    | char c _ ih => rw [decode_encode, ih]
    | ill hr _ ih => rw [decode_of_illFormed hr, ih]
  · intro h
    have := reading_decode_held bs begun_nil
    rwa [h] at this

/-- What is held at the end of a reading is the beginning of a character. -/
theorem Reading.begun {bs held : List UInt8} {cs : List Char} (h : Reading bs cs held) : Begun held := by
  induction h with
  | cut hh => exact hh
  | char _ _ ih => exact ih
  | ill _ _ ih => exact ih


/-! ### The strict reading of a text -/

/-- A strict reading of the beginning of a character holds it. -/
theorem validateFrom_of_begun (read : List Char) (done : Nat) (bs : List UInt8) (mid held : List UInt8)
    (h : Begun (held ++ mid)) :
    validateFrom read held done (mid ++ bs) = validateFrom read (held ++ mid) done bs := by
  induction mid generalizing held with
  | nil => rw [List.nil_append, List.append_nil]
  | cons a mid ih =>
    have h' : Begun ((held ++ [a]) ++ mid) := by simpa using h
    rw [List.cons_append, validateFrom, judge_of_begun h'.of_append]
    simpa using ih (held ++ [a]) h'

/-- A strict reading gets over characters. -/
theorem validateFrom_encodeChars (read cs : List Char) (done : Nat) (bs : List UInt8) :
    validateFrom read [] done (encodeChars cs ++ bs) =
      validateFrom (cs.reverse ++ read) [] (done + (encodeChars cs).length) bs := by
  induction cs generalizing read done with
  | nil => rfl
  | cons c cs ih =>
    obtain ⟨mid, b, he⟩ : ∃ mid b, String.utf8EncodeChar c = mid ++ [b] :=
      ⟨_, _, (List.dropLast_concat_getLast String.utf8EncodeChar_ne_nil).symm⟩
    have hc : encodeChars (c :: cs) = mid ++ b :: encodeChars cs := by simp [encodeChars, he]
    have hmid : Begun ([] ++ mid) := ⟨c, [b], by simp, he⟩
    rw [hc, List.append_assoc, validateFrom_of_begun _ _ _ _ _ hmid, List.nil_append, List.cons_append, validateFrom,
      judge_of_encode he]
    simp [ih, Nat.add_assoc, Nat.add_comm 1]

/-- What is written can be read again. -/
theorem validate_encodeChars (cs : List Char) : validate (encodeChars cs) = .ok cs := by
  have h := validateFrom_encodeChars [] cs 0 []
  rw [List.append_nil, List.append_nil] at h
  rw [validate, h, validateFrom]
  simp

/-- What can be read has been written: nothing else is read as characters. -/
private theorem encodeChars_of_validateFrom {bs held : List UInt8} {read cs : List Char} {done : Nat} (hh : Begun held)
    (h : validateFrom read held done bs = .ok cs) :
    ∃ fresh, cs = read.reverse ++ fresh ∧ held ++ bs = encodeChars fresh := by
  induction bs generalizing held read done with
  | nil =>
    rw [validateFrom] at h
    split at h
    · rename_i hempty
      cases h
      exact ⟨[], by simp, by simpa [encodeChars] using List.isEmpty_iff.1 hempty⟩
    · cases h
  | cons b bs ih =>
    rw [validateFrom] at h
    split at h
    · rename_i c hjudge
      obtain ⟨fresh, rfl, hbs⟩ := ih begun_nil h
      refine ⟨c :: fresh, by simp, ?_⟩
      rw [encodeChars, List.flatMap_cons, encode_of_judge hh hjudge, ← encodeChars, ← hbs]
      simp
    · rename_i hjudge
      obtain ⟨fresh, hcs, hbs⟩ := ih (begun_of_judge hh hjudge) h
      exact ⟨fresh, hcs, by rw [← hbs]; simp⟩
    · cases h

/-- The text of some bytes is the one that is written with them, if there is one. -/
theorem toString?_eq_some_iff {bytes : List UInt8} {s : String} : toString? bytes = some s ↔ bytes = encode s := by
  constructor
  · intro h
    rw [toString?] at h
    split at h
    · rename_i cs hcs
      cases h
      obtain ⟨fresh, rfl, hbytes⟩ := encodeChars_of_validateFrom begun_nil hcs
      simpa [encode] using hbytes
    · cases h
  · rintro rfl
    simp [toString?, encode, validate_encodeChars]

end Attendant.Utf8

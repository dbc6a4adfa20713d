import Attendant.Proofs.Text.Reading
import Mathlib.Data.List.Induction

/-!
# Bytes that come in chunks

A text of bytes may be cut anywhere, also inside of a character or of an ill-formed run, and be read chunk after chunk:
what a chunk leaves unfinished is held, and read again in front of the next one.

Such a reader need not know how a character is built. It asks for a strict reading of what it has, marks the first fault,
and goes on behind it, until there is no fault or the fault is that the end cuts a character off (`sift`). A strict
reading stops at the first maximal ill-formed run (`validate_eq_error_iff`), so each turn leaves less to read, and what
comes out is what reading byte by byte gives (`sift_eq`). The cuts do not matter then (`feed_eq`): what has been read
is the reading of the whole (`feed_chunks`).
-/

namespace Attendant.Utf8

/-! ### Readings of a whole text -/

/-- Bytes read one by one are read as they should be. -/
theorem reading_decode (bs : List UInt8) : Reading bs (decode [] bs).1 (decode [] bs).2 := reading_iff.2 rfl

/-- Characters are read where they stand, before whatever follows them. -/
theorem Reading.prepend {bs held : List UInt8} {ds : List Char} (cs : List Char) (h : Reading bs ds held) :
    Reading (encodeChars cs ++ bs) (cs ++ ds) held := by
  induction cs with
  | nil => exact h
  | cons c cs ih =>
    have := Reading.char c ih
    rwa [← List.append_assoc] at this

/-- The reading of a whole text has one more mark if its end cuts a character off. -/
theorem Reading.lossy_eq {bs held : List UInt8} {cs : List Char} (h : Reading bs cs held) :
    lossy bs = cs ++ if held = [] then [] else [replacement] := by
  rw [lossy, reading_iff.1 h]
  by_cases hheld : held = [] <;> simp [hheld]

private theorem lossy_encodeChars (cs : List Char) : lossy (encodeChars cs) = cs := by
  have h := Reading.prepend cs (.cut begun_nil)
  simpa using h.lossy_eq

/-! ### Where a strict reading stops -/

/-- A strict reading of some bytes stops after the characters `cs`: at a maximal ill-formed run, which is as long as the
fault says, or at the beginning of a character that the end cuts off, and then the fault has no length. -/
inductive Stops : List UInt8 → List Char → Fault → Prop where
  | ill {run rest : List UInt8} (cs : List Char) : IllFormed run rest →
      Stops (encodeChars cs ++ (run ++ rest)) cs ⟨(encodeChars cs).length, some run.length⟩
  | cut {held : List UInt8} (cs : List Char) : held ≠ [] → Begun held →
      Stops (encodeChars cs ++ held) cs ⟨(encodeChars cs).length, none⟩

private theorem Stops.prepend {bs : List UInt8} {cs : List Char} {fault : Fault} (c : Char) (h : Stops bs cs fault) :
    ∃ fault, Stops (String.utf8EncodeChar c ++ bs) (c :: cs) fault := by
  have hcons (more : List UInt8) :
      encodeChars (c :: cs) ++ more = String.utf8EncodeChar c ++ (encodeChars cs ++ more) := by
    rw [← List.append_assoc]
    rfl
  cases h with
  | ill _ hill =>
    have := Stops.ill (c :: cs) hill
    rw [hcons] at this
    exact ⟨_, this⟩
  | cut _ hne hheld =>
    have := Stops.cut (c :: cs) hne hheld
    rw [hcons] at this
    exact ⟨_, this⟩

/-- Some bytes are a row of characters, or a strict reading of them stops somewhere. -/
theorem encoded_or_stops (bs : List UInt8) : (∃ cs, bs = encodeChars cs) ∨ ∃ cs fault, Stops bs cs fault := by
  have h := reading_decode bs
  generalize (decode [] bs).1 = ds, (decode [] bs).2 = held at h
  induction h with
  | @cut held hheld =>
    by_cases hne : held = []
    · exact Or.inl ⟨[], hne⟩
    · exact Or.inr ⟨[], _, .cut [] hne hheld⟩
  | char c _ ih =>
    rcases ih with ⟨cs, rfl⟩ | ⟨cs, fault, hstops⟩
    · exact Or.inl ⟨c :: cs, rfl⟩
    · exact Or.inr ⟨c :: cs, hstops.prepend c⟩
  | ill hill => exact Or.inr ⟨[], _, .ill [] hill⟩

private theorem IllFormed.ne_nil {run rest : List UInt8} (h : IllFormed run rest) : run ≠ [] := by
  obtain ⟨b, rfl, -⟩ | ⟨hne, -⟩ := h
  · simp
  · exact hne

/-- A byte that begins no character, or does not go on with the one held, is refused. -/
theorem judge_eq_refused {held : List UInt8} {b : UInt8} (hh : Begun held)
    (h : ∀ c, ¬ held ++ [b] <+: String.utf8EncodeChar c) : judge held b = .refused := by
  cases hv : judge held b with
  | refused => rfl
  | unfinished =>
    obtain ⟨c, rest, -, hc⟩ := begun_of_judge hh hv
    exact absurd ⟨rest, hc.symm⟩ (h c)
  | complete c => exact absurd ⟨[], by rw [encode_of_judge hh hv]; simp⟩ (h c)

private theorem validateFrom_of_illFormed (read : List Char) (done : Nat) {run rest : List UInt8}
    (h : IllFormed run rest) : validateFrom read [] done (run ++ rest) = .error ⟨done, some run.length⟩ := by
  rcases h with ⟨b, rfl, hb⟩ | ⟨hne, hrun, b, more, rfl, hb⟩
  · rw [List.singleton_append, validateFrom, judge_eq_refused begun_nil hb]
    rfl
  · rw [validateFrom_of_begun read done (b :: more) run [] hrun, List.nil_append, validateFrom, judge_eq_refused hrun hb]
    have : 0 < run.length := List.length_pos_iff.2 hne
    simp only [Except.error.injEq, Fault.mk.injEq, Option.some.injEq, true_and]
    omega

/-- The strict reading finds the first fault, and says which it is. -/
theorem Stops.validate_eq {bs : List UInt8} {cs : List Char} {fault : Fault} (h : Stops bs cs fault) :
    validate bs = .error fault := by
  cases h with
  | ill cs hill => rw [validate, validateFrom_encodeChars, validateFrom_of_illFormed _ _ hill, Nat.zero_add]
  | @cut held cs hne hheld =>
    have hhold := validateFrom_of_begun cs.reverse (encodeChars cs).length [] held [] hheld
    rw [List.append_nil, List.nil_append] at hhold
    rw [validate, validateFrom_encodeChars, List.append_nil, Nat.zero_add, hhold, validateFrom]
    simp [hne]

/-- A strict reading fails exactly where it stops. -/
theorem validate_eq_error_iff {bs : List UInt8} {fault : Fault} :
    validate bs = .error fault ↔ ∃ cs, Stops bs cs fault := by
  constructor
  · intro h
    rcases encoded_or_stops bs with ⟨cs, rfl⟩ | ⟨cs, other, hstops⟩
    · rw [validate_encodeChars] at h
      cases h
    · rw [hstops.validate_eq] at h
      cases h
      exact ⟨cs, hstops⟩
  · rintro ⟨cs, hstops⟩
    exact hstops.validate_eq

/-! ### Reading by strict readings -/

/-- Reads by strict readings, in so many turns at most: what comes before a fault is read, the fault is one mark, and the
next turn goes on behind it. A character that the end cuts off is held. -/
def sift : Nat → List UInt8 → Option (List Char × List UInt8)
  | 0, _ => none
  | turns + 1, bytes =>
    match validate bytes with
    | .ok cs => some (cs, [])
    | .error ⟨start, none⟩ => some (lossy (bytes.take start), bytes.drop start)
    | .error ⟨start, some length⟩ =>
      (sift turns (bytes.drop (start + length))).map fun (cs, held) =>
        (lossy (bytes.take start) ++ replacement :: cs, held)

/-- Reading by strict readings comes to an end, and gives what reading byte by byte does. -/
theorem sift_eq {turns : Nat} {bytes : List UInt8} (h : bytes.length < turns) :
    sift turns bytes = some (decode [] bytes) := by
  induction turns generalizing bytes with
  | zero => omega
  | succ turns ih =>
    rcases encoded_or_stops bytes with ⟨cs, rfl⟩ | ⟨cs, fault, hstops⟩
    · have hread := Reading.prepend cs (.cut begun_nil)
      simp only [List.append_nil] at hread
      rw [sift, validate_encodeChars, reading_iff.1 hread]
    · have herror := hstops.validate_eq
      cases hstops with
      | @cut held _ _ hheld =>
        have hread := Reading.prepend cs (.cut hheld)
        rw [List.append_nil] at hread
        rw [sift, herror, reading_iff.1 hread]
        simp [lossy_encodeChars]
      | @ill run rest _ hill =>
        -- a run has a byte at least, so there is less to read in the next turn
        have hless : rest.length < turns := by
          have := List.length_pos_iff.2 hill.ne_nil
          simp only [List.length_append] at h
          omega
        have hread := Reading.prepend cs (.ill hill (reading_decode rest))
        rw [sift, herror, reading_iff.1 hread]
        simp [lossy_encodeChars, ih hless]

/-! ### Chunk after chunk -/

/-- What has been read of some chunks, one after the other, and the bytes held then. -/
def feed (chunks : List (List UInt8)) : List Char × List UInt8 :=
  chunks.foldl (fun (read, held) chunk => (read ++ (decode held chunk).1, (decode held chunk).2)) ([], [])

theorem feed_concat (chunks : List (List UInt8)) (chunk : List UInt8) :
    feed (chunks ++ [chunk]) =
      ((feed chunks).1 ++ (decode (feed chunks).2 chunk).1, (decode (feed chunks).2 chunk).2) := by
  simp [feed]

/-- The cuts do not matter. -/
theorem feed_eq (chunks : List (List UInt8)) : feed chunks = decode [] chunks.flatten := by
  induction chunks using List.reverseRecOn with
  | nil => rfl
  | append_singleton chunks chunk ih =>
    rw [feed_concat, List.flatten_append, List.flatten_singleton, decode_append, ih]

/-- Reading chunk after chunk is reading the whole at once: what has been read and the bytes held depend on the bytes
alone, and not on the cuts. With one mark if any bytes are held, what has been read is the lossy reading of the bytes.
The bytes held are the beginning of one character, at most three bytes long, and the next chunk is read in a number of
turns that its bytes and those held bound. -/
theorem feed_chunks (chunks : List (List UInt8)) (next : List UInt8) :
    Reading chunks.flatten (feed chunks).1 (feed chunks).2 ∧
    ((feed chunks).1 ++ if (feed chunks).2 = [] then [] else [replacement]) = lossy chunks.flatten ∧
    feed chunks = decode [] chunks.flatten ∧
    (feed chunks).2.length ≤ 3 ∧
    (∃ c rest, rest ≠ [] ∧ String.utf8EncodeChar c = (feed chunks).2 ++ rest) ∧
    sift (((feed chunks).2 ++ next).length + 1) ((feed chunks).2 ++ next) = some (decode (feed chunks).2 next) := by
  have hread : Reading chunks.flatten (feed chunks).1 (feed chunks).2 := reading_iff.2 (feed_eq chunks).symm
  have hheld : Begun (feed chunks).2 := hread.begun
  refine ⟨hread, hread.lossy_eq.symm, feed_eq chunks, hheld.length_le, hheld, ?_⟩
  rw [sift_eq (Nat.lt_succ_self _), decode_append, decode_of_begun [] hheld]
  rfl

/-- A character that is cut twice and does not go on, a letter, and a character that is cut off. -/
example : feed [[0xF0, 0x9F], [], [0x98, 0x41], [0xE2, 0x82]] = ([replacement, 'A'], [0xE2, 0x82]) := by decide

end Attendant.Utf8

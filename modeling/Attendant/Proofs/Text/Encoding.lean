import Attendant.Text.Utf8

/-!
# Characters as bytes

How the reader of UTF-8 judges a byte, beside how a character is written. `Form` lists the forms that a character
can have, `Begun` says of some bytes that a character begins with them but goes on. The key facts: a byte completes
a character exactly if it is the last byte of it (`encode_of_judge`, `judge_of_encode`), leaves it unfinished
exactly if the character goes on after it (`begun_of_judge`, `judge_of_begun`), and is refused otherwise
(`not_prefix_of_judge`).
-/

namespace Attendant.Utf8

private theorem width_eq_iff {a : UInt8} :
    (width a = 1 ↔ a.toNat < 0x80) ∧ (width a = 2 ↔ 0xC2 ≤ a.toNat ∧ a.toNat ≤ 0xDF) ∧
      (width a = 3 ↔ 0xE0 ≤ a.toNat ∧ a.toNat ≤ 0xEF) ∧ (width a = 4 ↔ 0xF0 ≤ a.toNat ∧ a.toNat ≤ 0xF4) := by
  simp only [width, UInt8.lt_iff_toNat_lt, UInt8.le_iff_toNat_le, UInt8.reduceToNat, Bool.and_eq_true,
    decide_eq_true_eq]
  split
  · omega
  · split
    · omega
    · split
      · omega
      · split <;> omega

private theorem isTail_iff {b : UInt8} : isTail b = true ↔ 0x80 ≤ b.toNat ∧ b.toNat ≤ 0xBF := by
  simp only [isTail, UInt8.le_iff_toNat_le, UInt8.reduceToNat, Bool.and_eq_true, decide_eq_true_eq]

theorem follows_iff {a b : UInt8} : follows a b = true ↔
    (0x80 ≤ b.toNat ∧ b.toNat ≤ 0xBF) ∧ (a.toNat = 0xE0 → 0xA0 ≤ b.toNat) ∧ (a.toNat = 0xED → b.toNat ≤ 0x9F) ∧
      (a.toNat = 0xF0 → 0x90 ≤ b.toNat) ∧ (a.toNat = 0xF4 → b.toNat ≤ 0x8F) := by
  simp only [follows, isTail, ← UInt8.toNat_inj, UInt8.le_iff_toNat_le, UInt8.reduceToNat]
  split <;> (try split) <;> (try split) <;> (try split) <;> simp only [Bool.and_eq_true, decide_eq_true_eq] <;> omega

/-- The forms that a character has in bytes, with the number that each of them stands for. -/
inductive Form : List UInt8 → Nat → Prop where
  | one {a : UInt8} : width a = 1 → Form [a] a.toNat
  | two {a b : UInt8} : width a = 2 → isTail b = true → Form [a, b] (a.toNat % 32 * 64 + low6 b)
  | three {a b c : UInt8} : width a = 3 → follows a b = true → isTail c = true →
      Form [a, b, c] (a.toNat % 16 * 4096 + low6 b * 64 + low6 c)
  | four {a b c d : UInt8} : width a = 4 → follows a b = true → isTail c = true → isTail d = true →
      Form [a, b, c, d] (a.toNat % 8 * 262144 + low6 b * 4096 + low6 c * 64 + low6 d)

private theorem toNat_ofNat {n : Nat} (h : n.isValidChar) : (Char.ofNat n).toNat = n := by
  rw [Char.ofNat, dif_pos h]
  rfl

/-- Whatever has one of the forms stands for a character. -/
theorem Form.isValidChar {bs : List UInt8} {n : Nat} (h : Form bs n) : n.isValidChar := by
  cases h <;> simp only [width_eq_iff, isTail_iff, follows_iff, low6, Nat.isValidChar] at * <;> omega

/-- A character of ASCII is one byte. -/
theorem encode_ascii {c : Char} (h : c.toNat < 0x80) :
    String.utf8EncodeChar c = [UInt8.ofNat c.toNat] := by
  rw [String.utf8EncodeChar, if_pos (show c.val.toNat ≤ 0x7f from by simp; omega)]
  rfl

private theorem encode_two {c : Char} (h : 0x80 ≤ c.toNat) (h' : c.toNat < 0x800) :
    String.utf8EncodeChar c = [UInt8.ofNat (c.toNat / 64 % 32 + 0xC0), UInt8.ofNat (c.toNat % 64 + 0x80)] := by
  rw [String.utf8EncodeChar, if_neg (show ¬ c.val.toNat ≤ 0x7f from by simp; omega),
    if_pos (show c.val.toNat ≤ 0x7ff from by simp; omega)]
  rfl

private theorem encode_three {c : Char} (h : 0x800 ≤ c.toNat) (h' : c.toNat < 0x10000) :
    String.utf8EncodeChar c = [UInt8.ofNat (c.toNat / 4096 % 16 + 0xE0), UInt8.ofNat (c.toNat / 64 % 64 + 0x80),
      UInt8.ofNat (c.toNat % 64 + 0x80)] := by
  rw [String.utf8EncodeChar, if_neg (show ¬ c.val.toNat ≤ 0x7f from by simp; omega),
    if_neg (show ¬ c.val.toNat ≤ 0x7ff from by simp; omega),
    if_pos (show c.val.toNat ≤ 0xffff from by simp; omega)]
  rfl

private theorem encode_four {c : Char} (h : 0x10000 ≤ c.toNat) :
    String.utf8EncodeChar c = [UInt8.ofNat (c.toNat / 262144 % 8 + 0xF0), UInt8.ofNat (c.toNat / 4096 % 64 + 0x80),
      UInt8.ofNat (c.toNat / 64 % 64 + 0x80), UInt8.ofNat (c.toNat % 64 + 0x80)] := by
  rw [String.utf8EncodeChar, if_neg (show ¬ c.val.toNat ≤ 0x7f from by simp; omega),
    if_neg (show ¬ c.val.toNat ≤ 0x7ff from by simp; omega),
    if_neg (show ¬ c.val.toNat ≤ 0xffff from by simp; omega)]
  rfl

/-- A form is what the character of its number is written as. -/
theorem Form.encode {bs : List UInt8} {n : Nat} (h : Form bs n) : String.utf8EncodeChar (Char.ofNat n) = bs := by
  have hn : (Char.ofNat n).toNat = n := toNat_ofNat h.isValidChar
  cases h with
  | one h1 =>
    rw [width_eq_iff.1] at h1
    rw [encode_ascii (by omega), hn]
    simp
  | two h1 h2 =>
    simp only [width_eq_iff, isTail_iff, low6] at h1 h2 hn
    rw [low6, encode_two (by omega) (by omega), hn]
    simp only [List.cons.injEq, ← UInt8.toNat_inj, UInt8.toNat_ofNat', and_true]
    omega
  | three h1 h2 h3 =>
    simp only [width_eq_iff, isTail_iff, follows_iff, low6] at h1 h2 h3 hn
    rw [low6, low6, encode_three (by omega) (by omega), hn]
    simp only [List.cons.injEq, ← UInt8.toNat_inj, UInt8.toNat_ofNat', and_true]
    omega
  | four h1 h2 h3 h4 =>
    simp only [width_eq_iff, isTail_iff, follows_iff, low6] at h1 h2 h3 h4 hn
    rw [low6, low6, low6, encode_four (by omega), hn]
    simp only [List.cons.injEq, ← UInt8.toNat_inj, UInt8.toNat_ofNat', and_true]
    omega

/-- Every character is written in one of the forms. -/
theorem form_encode (c : Char) : Form (String.utf8EncodeChar c) c.toNat := by
  have hv : c.toNat < 0xD800 ∨ 0xDFFF < c.toNat ∧ c.toNat < 0x110000 := c.valid
  rcases Nat.lt_or_ge c.toNat 0x80 with h1 | h1
  · rw [encode_ascii h1]
    have hc : c.toNat = (UInt8.ofNat c.toNat).toNat := by
      rw [UInt8.toNat_ofNat']; omega
    conv => rhs; rw [hc]
    apply Form.one
    rw [width_eq_iff.1, ← hc]
    exact h1
  rcases Nat.lt_or_ge c.toNat 0x800 with h2 | h2
  · rw [encode_two h1 h2]
    have hc : c.toNat = (UInt8.ofNat (c.toNat / 64 % 32 + 0xC0)).toNat % 32 * 64 +
        low6 (UInt8.ofNat (c.toNat % 64 + 0x80)) := by
      simp only [low6, UInt8.toNat_ofNat']; omega
    conv => rhs; rw [hc]
    apply Form.two
    · simp only [width_eq_iff, UInt8.toNat_ofNat']; omega
    · simp only [isTail_iff, UInt8.toNat_ofNat']; omega
  rcases Nat.lt_or_ge c.toNat 0x10000 with h3 | h3
  · rw [encode_three h2 h3]
    have hc : c.toNat = (UInt8.ofNat (c.toNat / 4096 % 16 + 0xE0)).toNat % 16 * 4096 +
        low6 (UInt8.ofNat (c.toNat / 64 % 64 + 0x80)) * 64 + low6 (UInt8.ofNat (c.toNat % 64 + 0x80)) := by
      simp only [low6, UInt8.toNat_ofNat']; omega
    conv => rhs; rw [hc]
    apply Form.three
    · simp only [width_eq_iff, UInt8.toNat_ofNat']; omega
    · simp only [follows_iff, UInt8.toNat_ofNat']; omega
    · simp only [isTail_iff, UInt8.toNat_ofNat']; omega
  · rw [encode_four h3]
    have hc : c.toNat = (UInt8.ofNat (c.toNat / 262144 % 8 + 0xF0)).toNat % 8 * 262144 +
        low6 (UInt8.ofNat (c.toNat / 4096 % 64 + 0x80)) * 4096 + low6 (UInt8.ofNat (c.toNat / 64 % 64 + 0x80)) * 64 +
          low6 (UInt8.ofNat (c.toNat % 64 + 0x80)) := by
      simp only [low6, UInt8.toNat_ofNat']; omega
    conv => rhs; rw [hc]
    apply Form.four
    · simp only [width_eq_iff, UInt8.toNat_ofNat']; omega
    · simp only [follows_iff, UInt8.toNat_ofNat']; omega
    · simp only [isTail_iff, UInt8.toNat_ofNat']; omega
    · simp only [isTail_iff, UInt8.toNat_ofNat']; omega


/-! ### Characters that have begun -/

/-- Bytes with which a character begins, without its last ones; no bytes at all are such a beginning. -/
def Begun (held : List UInt8) : Prop :=
  ∃ (c : Char) (rest : List UInt8), rest ≠ [] ∧ String.utf8EncodeChar c = held ++ rest

/-- A character that goes on after some bytes goes on after the first of them. -/
theorem Begun.of_append {held more : List UInt8} (h : Begun (held ++ more)) : Begun held := by
  obtain ⟨c, rest, hr, hc⟩ := h
  exact ⟨c, more ++ rest, by simp [hr], by rw [hc, List.append_assoc]⟩

private theorem Form.begun (held : List UInt8) {rest : List UInt8} {n : Nat} (h : Form (held ++ rest) n)
    (hr : rest ≠ []) :
    Begun held :=
  ⟨Char.ofNat n, rest, hr, h.encode⟩

private theorem Begun.form {held : List UInt8} (h : Begun held) :
    ∃ n rest, rest ≠ [] ∧ Form (held ++ rest) n := by
  obtain ⟨c, rest, hr, hc⟩ := h
  exact ⟨c.toNat, rest, hr, hc ▸ form_encode c⟩

private theorem Form.length_le {bs : List UInt8} {n : Nat} (h : Form bs n) : bs.length ≤ 4 := by
  cases h <;> simp

/-- The beginnings of characters, by their number of bytes. -/
private theorem Begun.cases {held : List UInt8} (h : Begun held) :
    held = [] ∨ (∃ a, held = [a] ∧ (width a = 2 ∨ width a = 3 ∨ width a = 4)) ∨
      (∃ a b, held = [a, b] ∧ (width a = 3 ∨ width a = 4) ∧ follows a b = true) ∨
      (∃ a b c, held = [a, b, c] ∧ width a = 4 ∧ follows a b = true ∧ isTail c = true) := by
  obtain ⟨n, rest, hr, hf⟩ := h.form
  rcases held with _ | ⟨a, _ | ⟨b, _ | ⟨c, _ | ⟨d, held⟩⟩⟩⟩
  · exact Or.inl rfl
  · right; left
    refine ⟨a, rfl, ?_⟩
    cases hf with
    | one h1 => exact absurd rfl hr
    | two h1 => exact Or.inl h1
    | three h1 => exact Or.inr (Or.inl h1)
    | four h1 => exact Or.inr (Or.inr h1)
  · right; right; left
    refine ⟨a, b, rfl, ?_⟩
    cases hf with
    | two h1 => exact absurd rfl hr
    | three h1 h2 => exact ⟨Or.inl h1, h2⟩
    | four h1 h2 => exact ⟨Or.inr h1, h2⟩
  · right; right; right
    refine ⟨a, b, c, rfl, ?_⟩
    cases hf with
    | three h1 => exact absurd rfl hr
    | four h1 h2 h3 => exact ⟨h1, h2, h3⟩
  · have hlen := hf.length_le
    have := List.length_pos_iff.2 hr
    simp only [List.length_append, List.length_cons] at hlen
    omega

/-- At most three bytes of a character can be missing their end. -/
theorem Begun.length_le {held : List UInt8} (h : Begun held) : held.length ≤ 3 := by
  rcases Begun.cases h with rfl | ⟨a, rfl, -⟩ | ⟨a, b, rfl, -⟩ | ⟨a, b, c, rfl, -⟩ <;> simp

@[simp] theorem begun_nil : Begun [] := ⟨'a', [97], by simp, rfl⟩

private theorem exists_follows (a : UInt8) : ∃ b, follows a b = true := by
  by_cases h1 : a.toNat = 0xE0
  · exact ⟨0xA0, by rw [follows_iff]; simp; omega⟩
  by_cases h2 : a.toNat = 0xF0
  · exact ⟨0x90, by rw [follows_iff]; simp; omega⟩
  · exact ⟨0x80, by rw [follows_iff]; simp; omega⟩

private theorem begun_one {a : UInt8} (h : width a = 2 ∨ width a = 3 ∨ width a = 4) : Begun [a] := by
  have h80 : isTail 0x80 = true := rfl
  rcases h with h | h | h
  · exact (Form.two h h80).begun [a] (by simp)
  · obtain ⟨b, hb⟩ := exists_follows a
    exact (Form.three h hb h80).begun [a] (by simp)
  · obtain ⟨b, hb⟩ := exists_follows a
    exact (Form.four h hb h80 h80).begun [a] (by simp)

private theorem begun_two {a b : UInt8} (h : width a = 3 ∨ width a = 4) (hb : follows a b = true) :
    Begun [a, b] := by
  have h80 : isTail 0x80 = true := rfl
  rcases h with h | h
  · exact (Form.three h hb h80).begun [a, b] (by simp)
  · exact (Form.four h hb h80 h80).begun [a, b] (by simp)

private theorem begun_three {a b c : UInt8} (h : width a = 4) (hb : follows a b = true) (hc : isTail c = true) :
    Begun [a, b, c] :=
  (Form.four h hb hc (show isTail 0x80 = true from rfl)).begun [a, b, c] (by simp)

/-! ### The verdict on a byte -/

/-- A byte that completes a character is the last of its bytes. -/
theorem encode_of_judge {held : List UInt8} {b : UInt8} {c : Char} (hh : Begun held)
    (h : judge held b = .complete c) : String.utf8EncodeChar c = held ++ [b] := by
  rcases hh.cases with rfl | ⟨a, rfl, ha⟩ | ⟨a, b₂, rfl, ha, hb⟩ | ⟨a, b₂, b₃, rfl, ha, hb, hc⟩
  · simp only [judge] at h
    split at h
    · cases h
    · rename_i hw
      cases h
      exact (Form.one hw).encode
    · cases h
  · simp only [judge] at h
    split at h
    · rename_i hw
      split at h
      · rename_i ht
        cases h
        exact (Form.two hw ht).encode
      · cases h
    · split at h <;> cases h
  · simp only [judge] at h
    split at h
    · cases h
    · rename_i ht
      split at h
      · rename_i hw
        cases h
        exact (Form.three hw hb (by simpa using ht)).encode
      · cases h
  · simp only [judge] at h
    split at h
    · rename_i ht
      cases h
      exact (Form.four ha hb hc ht).encode
    · cases h

/-- A byte that leaves a character unfinished has begun it, or carries it on. -/
theorem begun_of_judge {held : List UInt8} {b : UInt8} (hh : Begun held) (h : judge held b = .unfinished) :
    Begun (held ++ [b]) := by
  rcases hh.cases with rfl | ⟨a, rfl, ha⟩ | ⟨a, b₂, rfl, ha, hb⟩ | ⟨a, b₂, b₃, rfl, ha, hb, hc⟩
  · apply begun_one
    have hw : width b = 0 ∨ width b = 1 ∨ width b = 2 ∨ width b = 3 ∨ width b = 4 := by
      unfold width
      split <;> (try split) <;> (try split) <;> (try split) <;> simp
    simp only [judge] at h
    rcases hw with hw | hw | hw
    · rw [hw] at h; cases h
    · rw [hw] at h; cases h
    · exact hw
  · simp only [judge] at h
    split at h
    · split at h <;> cases h
    · rename_i hw
      split at h
      · rename_i hf
        exact begun_two (ha.resolve_left hw) hf
      · cases h
  · simp only [judge] at h
    split at h
    · cases h
    · rename_i ht
      split at h
      · cases h
      · rename_i hw
        exact begun_three (ha.resolve_left hw) hb (by simpa using ht)
  · simp only [judge] at h
    split at h <;> cases h

/-- A byte is refused if no character begins with it after the bytes held. -/
theorem not_prefix_of_judge {held : List UInt8} {b : UInt8} (hh : Begun held) (h : judge held b = .refused)
    (c : Char) : ¬ held ++ [b] <+: String.utf8EncodeChar c := by
  rintro ⟨rest, hc⟩
  obtain ⟨n, hf⟩ : ∃ n, Form (held ++ [b] ++ rest) n := ⟨_, hc ▸ form_encode c⟩
  clear hc
  rcases hh.cases with rfl | ⟨a, rfl, ha⟩ | ⟨a, b₂, rfl, ha, hb⟩ | ⟨a, b₂, b₃, rfl, ha, hb, hc⟩
  · cases hf with
    | one h1 => simp [judge, h1] at h
    | two h1 => simp [judge, h1] at h
    | three h1 => simp [judge, h1] at h
    | four h1 => simp [judge, h1] at h
  · cases hf with
    | two h1 h2 => simp [judge, h1, h2] at h
    | three h1 h2 => simp [judge, h1, h2] at h
    | four h1 h2 => simp [judge, h1, h2] at h
  · cases hf with
    | three h1 h2 h3 => simp [judge, h1, h3] at h
    | four h1 h2 h3 => simp [judge, h1, h3] at h
  · cases hf with
    | four h1 h2 h3 h4 => simp [judge, h4] at h

private theorem Form.eq_nil_of_append {bs rest : List UInt8} {n m : Nat} (h : Form bs n) (h' : Form (bs ++ rest) m) :
    rest = [] := by
  cases h <;> cases h' <;> first | rfl | simp_all

private theorem Form.functional {bs : List UInt8} {n m : Nat} (h : Form bs n) (h' : Form bs m) : n = m := by
  cases h <;> cases h' <;> rfl

/-- The last byte of a character completes it. -/
theorem judge_of_encode {held : List UInt8} {b : UInt8} {c : Char} (h : String.utf8EncodeChar c = held ++ [b]) :
    judge held b = .complete c := by
  have hh : Begun held := ⟨c, [b], by simp, h⟩
  have hf : Form (held ++ [b]) c.toNat := h ▸ form_encode c
  cases hv : judge held b with
  | refused => exact absurd ⟨[], by rw [h]; simp⟩ (not_prefix_of_judge hh hv c)
  | unfinished =>
    obtain ⟨n, rest, hr, hn⟩ := (begun_of_judge hh hv).form
    exact absurd (hf.eq_nil_of_append hn) hr
  | complete d =>
    have hd : Form (held ++ [b]) d.toNat := encode_of_judge hh hv ▸ form_encode d
    rw [Char.toNat_inj.1 (hf.functional hd)]

/-- A byte after which a character is not complete leaves it unfinished. -/
theorem judge_of_begun {held : List UInt8} {b : UInt8} (h : Begun (held ++ [b])) : judge held b = .unfinished := by
  obtain ⟨c, rest, hr, hc⟩ := h
  have hh : Begun held := ⟨c, b :: rest, by simp, by rw [hc]; simp⟩
  cases hv : judge held b with
  | refused => exact absurd ⟨rest, hc.symm⟩ (not_prefix_of_judge hh hv c)
  | unfinished => rfl
  | complete d =>
    have hd : Form (held ++ [b]) d.toNat := encode_of_judge hh hv ▸ form_encode d
    have hf : Form (held ++ [b] ++ rest) c.toNat := hc ▸ form_encode c
    exact absurd (hd.eq_nil_of_append hf) hr

end Attendant.Utf8

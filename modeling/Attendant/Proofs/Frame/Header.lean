import Attendant.Frame.Basic
import Attendant.Proofs.Text.Reading
import Mathlib.Data.List.TakeWhile

/-!
# Header lines

How the header that is written before a body is read again. The key facts: the first line of it gives the length of
the body (`line_length`), a blank line ends the header (`line_blank`), and no beginning of the first line does
(`line_of_letter`).
-/

namespace Attendant

/-! ### Blanks -/

namespace Text

private theorem dropWhile_blank {before rest : List Char} (hb : ∀ c ∈ before, isBlankChar c = true)
    (hr : ∀ c ∈ rest.head?, isBlankChar c = false) : (before ++ rest).dropWhile isBlankChar = rest := by
  rw [List.dropWhile_append_of_pos hb]
  cases rest with
  | nil => rfl
  | cons c rest => simp [hr c (by simp)]

/-- Trimming takes away the blanks around a text, and nothing of a text that has none at its ends. -/
theorem trimChars_append (before : List Char) {mid : List Char} (after : List Char)
    (hb : ∀ c ∈ before, isBlankChar c = true)
    (ha : ∀ c ∈ after, isBlankChar c = true) (hne : mid ≠ []) (hfirst : ∀ c ∈ mid.head?, isBlankChar c = false)
    (hlast : ∀ c ∈ mid.getLast?, isBlankChar c = false) : trimChars (before ++ mid ++ after) = mid := by
  have h1 : ∀ c ∈ (mid ++ after).head?, isBlankChar c = false := by
    obtain ⟨c, mid, rfl⟩ := List.exists_cons_of_ne_nil hne
    simpa using hfirst
  unfold trimChars
  rw [List.append_assoc, dropWhile_blank hb h1, List.reverse_append,
    dropWhile_blank (by simpa using ha) (by simpa using hlast), List.reverse_reverse]

/-- Nothing is left of blanks. -/
theorem trimChars_of_blank {cs : List Char} (h : ∀ c ∈ cs, isBlankChar c = true) : trimChars cs = [] := by
  unfold trimChars
  rw [List.dropWhile_eq_nil_iff.2 h]
  rfl

/-- A text that begins with a character that is not blank is not blank. -/
theorem trimChars_ne_nil {c : Char} (hc : isBlankChar c = false) (cs : List Char) : trimChars (c :: cs) ≠ [] := by
  intro h
  unfold trimChars at h
  rw [List.dropWhile_cons_of_neg (by simp [hc]), List.reverse_eq_nil_iff, List.dropWhile_eq_nil_iff] at h
  have := h c (by simp)
  rw [hc] at this
  cases this

private theorem isBlankChar_of_isDigit {c : Char} (h : c.isDigit = true) : isBlankChar c = false := by
  obtain ⟨h1, h2⟩ := Char.isDigit_iff_toNat.1 h
  simp only [Char.reduceToNat] at h1 h2
  simp only [isBlankChar, Bool.or_eq_false_iff, Bool.and_eq_false_iff, decide_eq_false_iff_not, beq_eq_false_iff_ne]
  omega

end Text

namespace Frame

/-! ### Lengths -/

private theorem digits?_of_isDigit {ds : List Char} (hd : ∀ c ∈ ds, c.isDigit = true) {acc : Nat}
    (h : Nat.ofDigitChars 10 ds acc < width64) : digits? acc ds = some (Nat.ofDigitChars 10 ds acc) := by
  induction ds generalizing acc with
  | nil => simp [digits?]
  | cons c ds ih =>
    have hc : '0' ≤ c ∧ c ≤ '9' := by
      have := hd c (by simp)
      simp only [Char.isDigit, ge_iff_le, Bool.and_eq_true, decide_eq_true_eq] at this
      exact this
    rw [Nat.ofDigitChars_cons] at h ⊢
    have hle : 10 * acc + (c.toNat - '0'.toNat) < width64 := by
      rw [Nat.ofDigitChars_eq_ofDigitChars_zero] at h
      have : 1 ≤ 10 ^ ds.length := Nat.one_le_pow _ _ (by omega)
      have := Nat.mul_le_mul_right (10 * acc + (c.toNat - '0'.toNat)) this
      omega
    have hacc : acc * 10 + (c.toNat - 48) = 10 * acc + (c.toNat - '0'.toNat) := by
      simp only [Char.reduceToNat]
      omega
    simp only [digits?, hc.1, hc.2, hacc, hle, decide_true, Bool.and_self, if_true]
    exact ih (fun d hd' => hd d (by simp [hd'])) h

private theorem length?_of_isDigit {ds : List Char} (hne : ds ≠ []) (hd : ∀ c ∈ ds, c.isDigit = true) :
    length? ds = digits? 0 ds := by
  unfold length?
  split
  · exact absurd (hd '+' (by simp)) (by decide)
  · simp [hne]

/-- The digits of a number read as that number. -/
theorem length?_toDigits {n : Nat} (h : n < width64) : length? (Nat.toDigits 10 n) = some n := by
  have hd : ∀ c ∈ Nat.toDigits 10 n, c.isDigit = true :=
    fun c hc => Nat.isDigit_of_mem_toDigits (by omega) (by omega) hc
  rw [length?_of_isDigit Nat.toDigits_ne_nil hd, digits?_of_isDigit hd (by rwa [Nat.ofDigitChars_ten_toDigits]),
    Nat.ofDigitChars_ten_toDigits]

/-! ### The lines of a header -/

/-- The name that the length of a body has in a header. -/
def lengthName : List Char := ['C', 'o', 'n', 't', 'e', 'n', 't', '-', 'L', 'e', 'n', 'g', 't', 'h']

/-- The first line of a header, without its line break. -/
def lengthLine (n : Nat) : List Char := lengthName ++ ':' :: ' ' :: Nat.toDigits 10 n

theorem header_eq (n : Nat) :
    header n = Utf8.encodeChars (lengthLine n ++ ['\r', '\n']) ++ Utf8.encodeChars ['\r', '\n'] := by
  have hname : "Content-Length: ".toList = lengthName ++ [':', ' '] := by simp [lengthName]
  have hbreaks : "\r\n\r\n".toList = ['\r', '\n'] ++ ['\r', '\n'] := by simp
  rw [header, Utf8.encode, String.toList_append, String.toList_append, Nat.toString_eq_repr, Nat.toList_repr, hbreaks,
    hname, ← List.append_assoc]
  simp only [Utf8.encodeChars, lengthLine, List.flatMap_append, List.flatMap_cons, List.flatMap_nil,
    List.append_assoc,
    List.append_nil]

private theorem getLast?_lengthLine {n : Nat} {c : Char} (h : c ∈ (lengthLine n).getLast?) : c.isDigit = true := by
  have hlast : (lengthLine n).getLast? = (Nat.toDigits 10 n).getLast? := by
    rw [show lengthLine n = (lengthName ++ [':', ' ']) ++ Nat.toDigits 10 n from by simp [lengthLine],
      List.getLast?_append, List.getLast?_eq_some_getLast Nat.toDigits_ne_nil]
    rfl
  rw [hlast] at h
  exact Nat.isDigit_of_mem_toDigits (by omega) (by omega) (List.mem_of_getLast? h)

theorem splitColon?_append {name : List Char} (h : ':' ∉ name) (value : List Char) :
    splitColon? (name ++ ':' :: value) = some (name, value) := by
  induction name with
  | nil => simp [splitColon?]
  | cons c name ih =>
    have hc : c ≠ ':' := fun he => h (by simp [he])
    simp [splitColon?, hc, ih (fun hm => h (by simp [hm]))]

private theorem isContentLength_lengthName : isContentLength (Text.trimChars lengthName) = true := by
  have hname : "content-length".toList = ['c', 'o', 'n', 't', 'e', 'n', 't', '-', 'l', 'e', 'n', 'g', 't', 'h'] := by
    simp
  rw [isContentLength, hname]
  decide

theorem isBlankChar_of_break : ∀ c ∈ ['\r', '\n'], Text.isBlankChar c = true :=
  List.forall_mem_cons.2 ⟨rfl, List.forall_mem_singleton.2 rfl⟩

/-- The first line of a header says the length. -/
theorem line_length (h : Header) {n : Nat} (hn : n < width64) :
    h.line (Utf8.encodeChars (lengthLine n ++ ['\r', '\n'])) = .more ⟨true, some n⟩ := by
  have htrim : Text.trimChars (lengthLine n ++ ['\r', '\n']) = lengthLine n := by
    refine Text.trimChars_append [] ['\r', '\n'] (by simp) isBlankChar_of_break (by simp) ?_ ?_
    · intro c hc
      obtain rfl : 'C' = c := by simpa [lengthLine, lengthName] using hc
      decide
    · exact fun c hc => Text.isBlankChar_of_isDigit (getLast?_lengthLine hc)
  have hvalue : Text.trimChars (' ' :: Nat.toDigits 10 n) = Nat.toDigits 10 n := by
    have hd : ∀ c ∈ Nat.toDigits 10 n, Text.isBlankChar c = false := fun c hc =>
      Text.isBlankChar_of_isDigit (Nat.isDigit_of_mem_toDigits (by omega) (by omega) hc)
    have := Text.trimChars_append [' '] [] (List.forall_mem_singleton.2 rfl) (by simp) Nat.toDigits_ne_nil
      (fun c hc => hd c (List.mem_of_mem_head? hc)) (fun c hc => hd c (List.mem_of_getLast? hc))
    simpa using this
  have hsplit : splitColon? (lengthLine n) = some (lengthName, ' ' :: Nat.toDigits 10 n) :=
    splitColon?_append (by decide) _
  unfold Header.line
  rw [Utf8.validate_encodeChars]
  simp only [htrim]
  split
  · rename_i hnil
    simp [lengthLine] at hnil
  · rw [hsplit]
    simp only [isContentLength_lengthName, hvalue, length?_toDigits hn, if_true]

/-- A blank line ends the header, if the body is not too long. -/
theorem line_blank {h : Header} {n : Nat} (hl : h.length = some n) (hn : n ≤ maxBody) (cs : List Char)
    (hcs : ∀ c ∈ cs, Text.isBlankChar c = true) : h.line (Utf8.encodeChars cs) = .finished n := by
  unfold Header.line
  simp only [Utf8.validate_encodeChars, Text.trimChars_of_blank hcs, hl]
  rw [if_neg (by omega)]

/-- A line that begins with a character that is not blank does not end the header. -/
theorem line_of_letter (h : Header) {c : Char} (hc : Text.isBlankChar c = false) (cs : List Char) :
    (∃ length, h.line (Utf8.encodeChars (c :: cs)) = .more ⟨true, length⟩) ∨
      ∃ fault, h.line (Utf8.encodeChars (c :: cs)) = .failed fault := by
  obtain ⟨d, ds, hd⟩ := List.exists_cons_of_ne_nil (Text.trimChars_ne_nil hc cs)
  unfold Header.line
  simp only [Utf8.validate_encodeChars, hd]
  split
  · exact Or.inl ⟨_, rfl⟩
  · split
    · split
      · exact Or.inl ⟨_, rfl⟩
      · exact Or.inr ⟨_, rfl⟩
    · exact Or.inl ⟨_, rfl⟩

end Frame

end Attendant

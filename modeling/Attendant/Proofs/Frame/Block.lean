import Attendant.Proofs.Frame.Stream

/-!
# Blocks of header lines

What a reader makes of any block of header lines, of the blank line that ends it, and of whatever comes after that. Most
lines say nothing to the reader; those that name the length of the body give it a value (`lengthValue?`), and the last
value counts. `Gives` lists what should come out of the values of a block, and `hear_block` says that it does.

The key facts: trimming a line first changes nothing (`lengthValue?_pad`), a value is read as a length exactly if it is
a decimal number of 64 bits (`length?_eq_some_iff`), and the lines of a block leave the reader with the last length, or
stop it at the first value that is none (`feed_lines`, `feed_invalid`).
-/

namespace Attendant

/-! ### Blanks around a text -/

namespace Text

/-- Trimming takes away blanks at both ends. -/
theorem exists_trimChars (cs : List Char) : ∃ before after, cs = before ++ trimChars cs ++ after ∧
    (∀ c ∈ before, isBlankChar c = true) ∧ ∀ c ∈ after, isBlankChar c = true := by
  have hfront := List.takeWhile_append_dropWhile (p := isBlankChar) (l := cs)
  have hback := List.takeWhile_append_dropWhile (p := isBlankChar) (l := (cs.dropWhile isBlankChar).reverse)
  refine ⟨cs.takeWhile isBlankChar, ((cs.dropWhile isBlankChar).reverse.takeWhile isBlankChar).reverse, ?_, ?_, ?_⟩
  · rw [List.append_assoc, trimChars, ← List.reverse_append, hback, List.reverse_reverse, hfront]
  · intro c hc
    exact List.mem_takeWhile_imp hc
  · intro c hc
    exact List.mem_takeWhile_imp (List.mem_reverse.1 hc)

private theorem trimChars_eq_nil_iff {cs : List Char} : trimChars cs = [] ↔ ∀ c ∈ cs, isBlankChar c = true := by
  constructor
  · intro hnil c hc
    obtain ⟨before, after, heq, hb, ha⟩ := exists_trimChars cs
    rw [hnil, List.append_nil] at heq
    rw [heq, List.mem_append] at hc
    rcases hc with hc | hc
    · exact hb c hc
    · exact ha c hc
  · exact trimChars_of_blank

/-- Blanks around a text do not matter to what is left of it. -/
theorem trimChars_pad {before after : List Char} (hb : ∀ c ∈ before, isBlankChar c = true)
    (ha : ∀ c ∈ after, isBlankChar c = true) (cs : List Char) : trimChars (before ++ cs ++ after) = trimChars cs := by
  have hfront : (before ++ cs ++ after).dropWhile isBlankChar = (cs ++ after).dropWhile isBlankChar := by
    rw [List.append_assoc, List.dropWhile_append_of_pos hb]
  by_cases hcs : ∀ c ∈ cs, isBlankChar c = true
  · rw [trimChars_of_blank hcs, trimChars_of_blank]
    intro c hc
    simp only [List.mem_append] at hc
    rcases hc with (hc | hc) | hc
    · exact hb c hc
    · exact hcs c hc
    · exact ha c hc
  · have hne : (cs.dropWhile isBlankChar).isEmpty = false := by
      rw [List.isEmpty_eq_false_iff, Ne, List.dropWhile_eq_nil_iff]
      exact hcs
    have hback : (cs ++ after).dropWhile isBlankChar = cs.dropWhile isBlankChar ++ after := by
      rw [List.dropWhile_append, hne, if_neg (by simp)]
    rw [trimChars, hfront, hback, List.reverse_append, List.dropWhile_append_of_pos (by simpa using ha), trimChars]

end Text

namespace Frame

/-! ### Lengths -/

/-- A value of a header says a number: it is made of decimal digits, perhaps after a plus sign, and the number has 64
bits. -/
def Says (value : List Char) (n : Nat) : Prop :=
  ∃ digits, digits ≠ [] ∧ (value = digits ∨ value = '+' :: digits) ∧ (∀ c ∈ digits, c.isDigit = true) ∧
    Nat.ofDigitChars 10 digits 0 = n ∧ n < width64

private theorem isDigit_iff {c : Char} : c.isDigit = true ↔ '0' ≤ c ∧ c ≤ '9' := by
  simp only [Char.isDigit, ge_iff_le, Bool.and_eq_true, decide_eq_true_eq]
  exact Iff.rfl

private theorem digits?_eq_some_iff {ds : List Char} {acc n : Nat} (hacc : acc < width64) :
    digits? acc ds = some n ↔ (∀ c ∈ ds, c.isDigit = true) ∧ Nat.ofDigitChars 10 ds acc = n ∧ n < width64 := by
  induction ds generalizing acc with
  | nil =>
    rw [digits?, Option.some.injEq, Nat.ofDigitChars_nil]
    constructor
    · rintro rfl
      exact ⟨by simp, rfl, hacc⟩
    · exact fun h => h.2.1
  | cons c ds ih =>
    by_cases hc : c.isDigit = true
    · have hrange : ('0' ≤ c && c ≤ '9') = true := by simpa using isDigit_iff.1 hc
      have hnext : acc * 10 + (c.toNat - 48) = 10 * acc + (c.toNat - '0'.toNat) := by
        simp only [Char.reduceToNat]
        omega
      rw [digits?, if_pos hrange, Nat.ofDigitChars_cons, ← hnext]
      by_cases hlt : acc * 10 + (c.toNat - 48) < width64
      · simp only [if_pos hlt, ih hlt, List.forall_mem_cons, hc, true_and]
      · -- the number only grows with more digits
        have hgrows : acc * 10 + (c.toNat - 48) ≤ Nat.ofDigitChars 10 ds (acc * 10 + (c.toNat - 48)) := by
          rw [Nat.ofDigitChars_eq_ofDigitChars_zero]
          have hpow : 1 ≤ 10 ^ ds.length := Nat.one_le_pow _ _ (by omega)
          have := Nat.mul_le_mul_right (acc * 10 + (c.toNat - 48)) hpow
          omega
        simp only [if_neg hlt, reduceCtorEq, false_iff]
        rintro ⟨-, hn, hsmall⟩
        omega
    · have hrange : ('0' ≤ c && c ≤ '9') = false := by
        rw [Bool.eq_false_iff]
        intro hrange
        exact hc (isDigit_iff.2 (by simpa using hrange))
      rw [digits?, if_neg (by simp [hrange])]
      simp [hc]

/-- A value is read as a length exactly if it says one. -/
theorem length?_eq_some_iff {value : List Char} {n : Nat} : length? value = some n ↔ Says value n := by
  have hread {ds : List Char} : (if ds.isEmpty then none else digits? 0 ds) = some n ↔
      ds ≠ [] ∧ (∀ c ∈ ds, c.isDigit = true) ∧ Nat.ofDigitChars 10 ds 0 = n ∧ n < width64 := by
    cases ds with
    | nil => simp
    | cons c ds =>
      rw [List.isEmpty_cons, if_neg (by simp), digits?_eq_some_iff (by decide)]
      simp
  unfold length? Says
  simp only [hread]
  split
  · rename_i rest
    constructor
    · rintro ⟨hne, hd, hn⟩
      exact ⟨rest, hne, Or.inr rfl, hd, hn⟩
    · rintro ⟨digits, hne, rfl | heq, hd, hn⟩
      · exact absurd (hd '+' (by simp)) (by decide)
      · obtain rfl : rest = digits := by simpa using heq
        exact ⟨hne, hd, hn⟩
  · rename_i hplus
    constructor
    · rintro ⟨hne, hd, hn⟩
      exact ⟨value, hne, Or.inl rfl, hd, hn⟩
    · rintro ⟨digits, hne, rfl | rfl, hd, hn⟩
      · exact ⟨hne, hd, hn⟩
      · exact absurd rfl (hplus digits)

private theorem length?_eq_none_iff {value : List Char} : length? value = none ↔ ¬∃ n, Says value n := by
  simp only [← length?_eq_some_iff, Option.eq_none_iff_forall_ne_some, not_exists]

/-! ### Lines that say the length -/

private theorem lower_eq (c : Char) : lower c = c.toLower := by
  unfold lower Char.toLower
  by_cases h : 'A' ≤ c ∧ c ≤ 'Z'
  · have hval : c.val ≥ 'A'.val ∧ c.val ≤ 'Z'.val := h
    rw [if_pos (by simpa using h), dif_pos hval, ← Char.toNat_inj]
    obtain ⟨h1, h2⟩ := hval
    simp only [ge_iff_le, UInt32.le_iff_toNat_le, Char.reduceVal, UInt32.reduceToNat] at h1 h2
    have hcode : c.toNat = c.val.toNat := rfl
    have hvalid : (c.toNat + 32).isValidChar := by
      simp only [Nat.isValidChar]
      omega
    have hsum : (c.val + ('a'.val - 'A'.val)).toNat = c.toNat + 32 := by
      rw [UInt32.toNat_add, ← hcode]
      simp only [Char.reduceVal, UInt32.reduceSub, UInt32.reduceToNat]
      omega
    rw [Char.ofNat, dif_pos hvalid]
    exact hsum.symm
  · have hval : ¬(c.val ≥ 'A'.val ∧ c.val ≤ 'Z'.val) := h
    rw [if_neg (by simpa using h), dif_neg hval]

private theorem isContentLength_iff {name : List Char} :
    isContentLength name = true ↔ name.map Char.toLower = lengthName.map Char.toLower := by
  have hname : "content-length".toList = lengthName.map Char.toLower := by
    simp [lengthName]
  have hlower : lower = Char.toLower := funext lower_eq
  rw [isContentLength, beq_iff_eq, hname, hlower]

/-- The value of a header line that says the length of the body: what stands after the first colon, if what stands
before it is the name of the length, in letters of either case. Blanks around both do not matter. -/
def lengthValue? (line : List Char) : Option (List Char) :=
  if ':' ∈ line ∧
      (Text.trimChars (line.takeWhile (· ≠ ':'))).map Char.toLower = lengthName.map Char.toLower then
    some (Text.trimChars (line.dropWhile (· ≠ ':')).tail)
  else none

private theorem lengthValue?_split {name : List Char} (h : ':' ∉ name) (value : List Char) :
    lengthValue? (name ++ ':' :: value) =
      if isContentLength (Text.trimChars name) then some (Text.trimChars value) else none := by
  have hname : ∀ c ∈ name, decide (c ≠ ':') = true := by
    intro c hc
    rw [decide_eq_true_eq]
    rintro rfl
    exact h hc
  have htake : (name ++ ':' :: value).takeWhile (· ≠ ':') = name := by
    rw [List.takeWhile_append_of_pos hname, List.takeWhile_cons_of_neg (by simp), List.append_nil]
  have hdrop : (name ++ ':' :: value).dropWhile (· ≠ ':') = ':' :: value := by
    rw [List.dropWhile_append_of_pos hname, List.dropWhile_cons_of_neg (by simp)]
  rw [lengthValue?, htake, hdrop, List.tail_cons]
  simp only [isContentLength_iff, List.mem_append, List.mem_cons, true_or, or_true, true_and]

private theorem lengthValue?_of_notMem {line : List Char} (h : ':' ∉ line) : lengthValue? line = none := by
  rw [lengthValue?, if_neg (by simp [h])]

private theorem splitColon?_of_notMem {line : List Char} (h : ':' ∉ line) : splitColon? line = none := by
  induction line with
  | nil => rfl
  | cons c line ih =>
    have hc : c ≠ ':' := by
      rintro rfl
      exact h (by simp)
    rw [splitColon?, if_neg hc, ih (fun hm => h (by simp [hm])), Option.map_none]

/-- The value of a line without its blanks is that of the line. -/
theorem lengthValue?_pad {before after : List Char} (hb : ∀ c ∈ before, Text.isBlankChar c = true)
    (ha : ∀ c ∈ after, Text.isBlankChar c = true) (line : List Char) :
    lengthValue? (before ++ line ++ after) = lengthValue? line := by
  have hcolon : Text.isBlankChar ':' = false := rfl
  have hbefore : ':' ∉ before := by
    intro hm
    have := hb ':' hm
    rw [hcolon] at this
    cases this
  have hafter : ':' ∉ after := by
    intro hm
    have := ha ':' hm
    rw [hcolon] at this
    cases this
  by_cases hline : ':' ∈ line
  · obtain ⟨name, value, rfl, hname⟩ := List.eq_append_cons_of_mem hline
    have hpad : before ++ (name ++ ':' :: value) ++ after = (before ++ name) ++ ':' :: (value ++ after) := by simp
    have htrim : Text.trimChars (before ++ name) = Text.trimChars name := by
      simpa using Text.trimChars_pad hb (List.forall_mem_nil _) name
    have htrim' : Text.trimChars (value ++ after) = Text.trimChars value := by
      simpa using Text.trimChars_pad (List.forall_mem_nil _) ha value
    rw [hpad, lengthValue?_split (by simp [hbefore, hname]), lengthValue?_split hname, htrim, htrim']
  · rw [lengthValue?_of_notMem hline, lengthValue?_of_notMem (by simp [hbefore, hline, hafter])]

/-- The bytes of a line with its line feed. -/
def lineBytes (line : List Char) : List UInt8 := Utf8.encodeChars (line ++ ['\n'])

/-- What a line does to a header that it does not end. -/
theorem line_of_text (h : Header) {line : List Char} (hline : Text.trimChars line ≠ []) :
    h.line (lineBytes line) =
      match lengthValue? line with
      | none => .more { h with started := true }
      | some value =>
        match length? value with
        | some n => .more ⟨true, some n⟩
        | none => .failed (.invalidContentLength (String.ofList value)) := by
  have hbreak : ∀ c ∈ ['\n'], Text.isBlankChar c = true := List.forall_mem_singleton.2 rfl
  have htrim : Text.trimChars (line ++ ['\n']) = Text.trimChars line := by
    simpa using Text.trimChars_pad (List.forall_mem_nil _) hbreak line
  obtain ⟨before, after, heq, hb, ha⟩ := Text.exists_trimChars line
  have hvalue : lengthValue? line = lengthValue? (Text.trimChars line) := by
    have hpad := lengthValue?_pad hb ha (Text.trimChars line)
    rwa [← heq] at hpad
  obtain ⟨c, cs, hcs⟩ := List.exists_cons_of_ne_nil hline
  rw [Header.line, lineBytes, Utf8.validate_encodeChars, hvalue]
  simp only [htrim, hcs]
  by_cases hcolon : ':' ∈ c :: cs
  · obtain ⟨name, value, hsplit, hname⟩ := List.eq_append_cons_of_mem hcolon
    rw [hsplit, splitColon?_append hname, lengthValue?_split hname]
    simp only
    by_cases hlength : isContentLength (Text.trimChars name) = true
    · cases hn : length? (Text.trimChars value) <;> simp only [hlength, hn, if_true]
    · simp only [hlength, Bool.false_eq_true, if_false]
  · rw [splitColon?_of_notMem hcolon, lengthValue?_of_notMem hcolon]

/-- What the blank line does that ends a header. -/
theorem line_of_blank (h : Header) {blank : List Char} (hblank : Text.trimChars blank = []) :
    h.line (lineBytes blank) =
      match h.length with
      | none => .failed .missingContentLength
      | some n => if maxBody < n then .failed (.oversized n) else .finished n := by
  have htrim : Text.trimChars (blank ++ ['\n']) = [] := by
    rw [Text.trimChars_eq_nil_iff] at hblank ⊢
    intro c hc
    rw [List.mem_append, List.mem_singleton] at hc
    rcases hc with hc | rfl
    · exact hblank c hc
    · rfl
  rw [Header.line, lineBytes, Utf8.validate_encodeChars]
  cases h.length <;> simp only [htrim]

/-! ### Blocks -/

/-- The values that the lines of a block have for the length. -/
def lengthValues (lines : List (List Char)) : List (List Char) := lines.filterMap lengthValue?

/-- The values of a block say a length: all of them are lengths, and the last one is it. -/
def Announces (values : List (List Char)) (n : Nat) : Prop :=
  (∀ value ∈ values, ∃ m, Says value m) ∧ ∃ value, values.getLast? = some value ∧ Says value n

/-- What a reader should give for a block with these values and the bytes `rest` after it. -/
inductive Gives (values : List (List Char)) (rest : List UInt8) : Result → Prop where
  | invalid {before after : List (List Char)} {value : List Char} : values = before ++ value :: after →
      (∀ earlier ∈ before, ∃ n, Says earlier n) → (¬∃ n, Says value n) →
      Gives values rest (.fault (.invalidContentLength (String.ofList value)))
  | missing : values = [] → Gives values rest (.fault .missingContentLength)
  | oversized {n : Nat} : Announces values n → maxBody < n → Gives values rest (.fault (.oversized n))
  | short {n : Nat} : Announces values n → n ≤ maxBody → rest.length < n →
      Gives values rest (.fault (.io ⟨"UnexpectedEof", "early eof"⟩))
  | whole {n : Nat} : Announces values n → n ≤ maxBody → n ≤ rest.length →
      Gives values rest (Reader.close (rest.take n))

theorem Says.unique {value : List Char} {n m : Nat} (hn : Says value n) (hm : Says value m) : n = m := by
  rw [← length?_eq_some_iff] at hn hm
  rw [hn] at hm
  exact Option.some.inj hm

theorem Announces.unique {values : List (List Char)} {n m : Nat} (hn : Announces values n) (hm : Announces values m) :
    n = m := by
  obtain ⟨-, value, hlast, hsays⟩ := hn
  obtain ⟨-, value', hlast', hsays'⟩ := hm
  obtain rfl : value = value' := Option.some.inj (hlast.symm.trans hlast')
  exact hsays.unique hsays'

/-- A value that is no length keeps a block from announcing one. -/
private theorem not_announces {before after : List (List Char)} {value : List Char} (h : ¬∃ n, Says value n) (n : Nat) :
    ¬Announces (before ++ value :: after) n := by
  rintro ⟨hall, -⟩
  exact h (hall value (by simp))

private theorem not_announces_nil (n : Nat) : ¬Announces [] n := by
  rintro ⟨-, value, hlast, -⟩
  cases hlast

/-- What a reader should give is settled by the values and the bytes after them. -/
theorem Gives.unique {values : List (List Char)} {rest : List UInt8} {r r' : Result} (h : Gives values rest r)
    (h' : Gives values rest r') : r = r' := by
  have hfirst {before : List (List Char)} (after : List (List Char)) {value : List Char}
      (hbefore : ∀ earlier ∈ before, ∃ n, Says earlier n) (hvalue : ¬∃ n, Says value n) :
      (before ++ value :: after).find? (fun value => (length? value).isNone) = some value := by
    rw [List.find?_eq_some_iff_append]
    refine ⟨by rw [length?_eq_none_iff.2 hvalue]; rfl, before, after, rfl, ?_⟩
    intro earlier hm
    obtain ⟨n, hn⟩ := hbefore earlier hm
    rw [length?_eq_some_iff.2 hn]
    rfl
  cases h with
  | @invalid _ after _ hv hbefore hvalue =>
    subst hv
    cases h' with
    | @invalid _ after' _ hv' hbefore' hvalue' =>
      have hfound := hfirst after hbefore hvalue
      rw [hv', hfirst after' hbefore' hvalue'] at hfound
      rw [Option.some.inj hfound]
    | missing hnil => simp at hnil
    | oversized hn _ | short hn _ _ | whole hn _ _ => exact absurd hn (not_announces hvalue _)
  | missing hnil =>
    subst hnil
    cases h' with
    | invalid hv' _ _ => simp at hv'
    | missing _ => rfl
    | oversized hn _ | short hn _ _ | whole hn _ _ => exact absurd hn (not_announces_nil _)
  | oversized hn hlong =>
    cases h' with
    | invalid hv' _ hvalue' => exact absurd (hv' ▸ hn) (not_announces hvalue' _)
    | missing hnil => exact absurd (hnil ▸ hn) (not_announces_nil _)
    | oversized hm _ => rw [hn.unique hm]
    | short hm _ _ | whole hm _ _ =>
      have := hn.unique hm
      omega
  | short hn hmax hshort =>
    cases h' with
    | invalid hv' _ hvalue' => exact absurd (hv' ▸ hn) (not_announces hvalue' _)
    | missing hnil => exact absurd (hnil ▸ hn) (not_announces_nil _)
    | short _ _ _ => rfl
    | oversized hm _ | whole hm _ _ =>
      have := hn.unique hm
      omega
  | whole hn hmax henough =>
    cases h' with
    | invalid hv' _ hvalue' => exact absurd (hv' ▸ hn) (not_announces hvalue' _)
    | missing hnil => exact absurd (hnil ▸ hn) (not_announces_nil _)
    | whole hm _ _ => rw [hn.unique hm]
    | oversized hm _ | short hm _ _ =>
      have := hn.unique hm
      omega

/-- A block leaves a reader no choice. -/
theorem Gives.iff {values : List (List Char)} {rest : List UInt8} {first : Result} (h : Gives values rest first)
    (result : Result) : Gives values rest result ↔ result = first := by
  constructor
  · intro h'
    exact h'.unique h
  · rintro rfl
    exact h

/-- Among values that are not all lengths there is a first one that is none. -/
theorem exists_first_invalid {values : List (List Char)} (h : ¬∀ value ∈ values, ∃ n, Says value n) :
    ∃ before value after, values = before ++ value :: after ∧ (∀ earlier ∈ before, ∃ n, Says earlier n) ∧
      ¬∃ n, Says value n := by
  obtain ⟨value, hfound⟩ : ∃ value, values.find? (fun value => (length? value).isNone) = some value := by
    rw [← Option.isSome_iff_exists, List.find?_isSome]
    obtain ⟨value, hm, hvalue⟩ : ∃ value ∈ values, ¬∃ n, Says value n := by
      simpa only [not_forall, exists_prop] using h
    exact ⟨value, hm, by rw [length?_eq_none_iff.2 hvalue]; rfl⟩
  obtain ⟨hnone, before, after, hsplit, hearlier⟩ := List.find?_eq_some_iff_append.1 hfound
  refine ⟨before, value, after, hsplit, ?_, length?_eq_none_iff.1 (Option.isNone_iff_eq_none.1 hnone)⟩
  intro earlier hm
  have hsome := hearlier earlier hm
  cases hlen : length? earlier with
  | none => simp [hlen] at hsome
  | some n => exact ⟨n, length?_eq_some_iff.1 hlen⟩

/-- A line of a header: there is no line feed in it, and it is not blank. -/
def IsHeaderLine (line : List Char) : Prop := '\n' ∉ line ∧ Text.trimChars line ≠ []

instance (line : List Char) : Decidable (IsHeaderLine line) :=
  inferInstanceAs (Decidable ('\n' ∉ line ∧ Text.trimChars line ≠ []))

namespace Reader

private theorem notMem_encodeChars {cs : List Char} (h : '\n' ∉ cs) : 0x0A ∉ Utf8.encodeChars cs := by
  intro hm
  obtain ⟨c, hc, hbyte⟩ := List.mem_flatMap.1 hm
  have hform := Utf8.form_encode c
  generalize String.utf8EncodeChar c = bytes at hform hbyte
  generalize hn : c.toNat = n at hform
  have hc' : c.toNat ≠ 10 := by
    intro h10
    have : c = '\n' := Char.toNat_inj.1 (by rw [h10]; rfl)
    exact h (this ▸ hc)
  cases hform with
  | one h1 =>
    obtain rfl := List.mem_singleton.1 hbyte
    exact hc' hn
  | two h1 h2 =>
    simp only [List.mem_cons, List.not_mem_nil, or_false] at hbyte
    rcases hbyte with rfl | rfl
    · cases h1
    · cases h2
  | three h1 h2 h3 =>
    simp only [List.mem_cons, List.not_mem_nil, or_false] at hbyte
    rcases hbyte with rfl | rfl | rfl
    · cases h1
    · have := Utf8.follows_iff.1 h2
      simp only [UInt8.reduceToNat] at this
      omega
    · cases h3
  | four h1 h2 h3 h4 =>
    simp only [List.mem_cons, List.not_mem_nil, or_false] at hbyte
    rcases hbyte with rfl | rfl | rfl | rfl
    · cases h1
    · have := Utf8.follows_iff.1 h2
      simp only [UInt8.reduceToNat] at this
      omega
    · cases h3
    · cases h4

/-- A whole line. -/
theorem feed_lineBytes (h : Header) {line : List Char} (hline : '\n' ∉ line) :
    (Reader.header h []).feed (lineBytes line) =
      ((afterLine (h.line (lineBytes line))).1, (afterLine (h.line (lineBytes line))).2.toList) := by
  have hbytes : lineBytes line = Utf8.encodeChars line ++ [0x0A] := by
    rw [lineBytes, Utf8.encodeChars, List.flatMap_append]
    rfl
  rw [hbytes, feed_append, feed_line h [] (notMem_encodeChars hline), feed_break]
  simp

/-- The lines of a block whose values are lengths leave the reader with the last of them. -/
theorem feed_lines {lines : List (List Char)} (hlines : ∀ line ∈ lines, IsHeaderLine line)
    (hvalues : ∀ value ∈ lengthValues lines, ∃ n, Says value n) (h : Header) :
    ∃ h', (Reader.header h []).feed (lines.flatMap lineBytes) = (.header h' [], []) ∧
      ((lengthValues lines = [] ∧ h'.length = h.length) ∨
        ∃ n, Announces (lengthValues lines) n ∧ h'.length = some n) := by
  induction lines generalizing h with
  | nil => exact ⟨h, rfl, Or.inl ⟨rfl, rfl⟩⟩
  | cons line lines ih =>
    obtain ⟨hbreak, htext⟩ := hlines line (by simp)
    have hrest : ∀ line ∈ lines, IsHeaderLine line := fun line hline => hlines line (by simp [hline])
    have hstep := line_of_text h htext
    rw [List.flatMap_cons, feed_append, feed_lineBytes h hbreak, hstep]
    cases hvalue : lengthValue? line with
    | none =>
      have hsame : lengthValues (line :: lines) = lengthValues lines := List.filterMap_cons_none hvalue
      rw [hsame] at hvalues ⊢
      obtain ⟨h', hfeed, hlength⟩ := ih hrest hvalues { h with started := true }
      refine ⟨h', ?_, hlength⟩
      simp only [afterLine, hfeed, Option.toList_none, List.nil_append]
    | some value =>
      have hmore : lengthValues (line :: lines) = value :: lengthValues lines := List.filterMap_cons_some hvalue
      rw [hmore] at hvalues ⊢
      obtain ⟨n, hsays⟩ := hvalues value (by simp)
      obtain ⟨h', hfeed, hlength⟩ := ih hrest (fun value hv => hvalues value (by simp [hv])) ⟨true, some n⟩
      refine ⟨h', ?_, Or.inr ?_⟩
      · simp only [length?_eq_some_iff.2 hsays, afterLine, hfeed, Option.toList_none, List.nil_append]
      rcases hlength with ⟨hnil, hlength⟩ | ⟨m, ⟨hall, last, hlast, hm⟩, hlength⟩
      · refine ⟨n, ⟨hvalues, value, ?_, hsays⟩, hlength⟩
        rw [hnil, List.getLast?_singleton]
      · refine ⟨m, ⟨hvalues, last, ?_, hm⟩, hlength⟩
        rw [List.getLast?_cons, hlast, Option.getD_some]

/-- The first value of a block that is no length stops the reader. -/
theorem feed_invalid {lines : List (List Char)} (hlines : ∀ line ∈ lines, IsHeaderLine line)
    {before after : List (List Char)} {value : List Char} (hsplit : lengthValues lines = before ++ value :: after)
    (hbefore : ∀ earlier ∈ before, ∃ n, Says earlier n) (hvalue : ¬∃ n, Says value n) (rest : List UInt8) :
    ∃ later, (start.feed (lines.flatMap lineBytes ++ rest)).2 =
      .fault (.invalidContentLength (String.ofList value)) :: later := by
  obtain ⟨read, others, rfl, hread, hothers⟩ := List.filterMap_eq_append_iff.1 hsplit
  obtain ⟨silent, line, unread, rfl, hsilent, hline, -⟩ := List.filterMap_eq_cons_iff.1 hothers
  have hquiet : lengthValues (read ++ silent) = before := by
    rw [lengthValues, List.filterMap_append, hread, List.filterMap_eq_nil_iff.2 hsilent, List.append_nil]
  have hquietLines : ∀ line ∈ read ++ silent, IsHeaderLine line := by
    intro line hm
    apply hlines
    rw [← List.append_assoc]
    exact List.mem_append_left _ hm
  obtain ⟨h, hfeed, -⟩ := feed_lines hquietLines (by rwa [hquiet]) {}
  obtain ⟨hbreak, htext⟩ := hlines line (by simp)
  have hfails : h.line (lineBytes line) = .failed (.invalidContentLength (String.ofList value)) := by
    rw [line_of_text h htext, hline]
    simp only [length?_eq_none_iff.2 hvalue]
  have hstream : (read ++ (silent ++ line :: unread)).flatMap lineBytes ++ rest =
      (read ++ silent).flatMap lineBytes ++ (lineBytes line ++ (unread.flatMap lineBytes ++ rest)) := by
    simp
  rw [hstream, feed_append, start, hfeed, feed_append, feed_lineBytes h hbreak, hfails]
  exact ⟨_, rfl⟩

private theorem feed_whole {n : Nat} {rest : List UInt8} (h : n ≤ rest.length) :
    ((afterLine (.finished n)).1.feed rest).1 = (start.feed (rest.drop n)).1 ∧
      (afterLine (.finished n)).2.toList ++ ((afterLine (.finished n)).1.feed rest).2 =
        close (rest.take n) :: (start.feed (rest.drop n)).2 := by
  cases n with
  | zero => exact ⟨rfl, rfl⟩
  | succ n =>
    have hbody : (Reader.body (n + 1) []).feed (rest.take (n + 1)) = (start, [close (rest.take (n + 1))]) :=
      feed_body [] (Nat.succ_pos n) (List.length_take_of_le h)
    have hfeed : (Reader.body (n + 1) []).feed rest =
        ((start.feed (rest.drop (n + 1))).1, close (rest.take (n + 1)) :: (start.feed (rest.drop (n + 1))).2) := by
      conv => lhs; rw [← List.take_append_drop (n + 1) rest]
      rw [feed_append, hbody]
      rfl
    have hbegun : afterLine (.finished (n + 1)) = (.body (n + 1) [], none) := rfl
    rw [hbegun, hfeed]
    exact ⟨rfl, rfl⟩

private theorem feed_short {n : Nat} {rest : List UInt8} (h : rest.length < n) :
    (afterLine (.finished n)).2 = none ∧
      (afterLine (.finished n)).1.feed rest = (.body (n - rest.length) rest.reverse, []) := by
  cases n with
  | zero => omega
  | succ n =>
    have hfeed := feed_body_of_lt [] h
    rw [List.append_nil] at hfeed
    exact ⟨rfl, hfeed⟩

/-- A reader of a block of header lines, the blank line that ends it, and a rest, in whatever pieces they come. The
first thing it gives is what the values of the block and the rest say: the first value that is no decimal number of 64
bits is a fault; else it is one if there is no value, if the last of them says too much, or if the rest is shorter than
it says; else it is the message of as many bytes of the rest, and then the reader goes on after exactly these. -/
theorem hear_block {lines : List (List Char)} (hlines : ∀ line ∈ lines, IsHeaderLine line) {blank : List Char}
    (hbreak : '\n' ∉ blank) (hblank : Text.trimChars blank = []) {rest : List UInt8} {chunks : List (List UInt8)}
    (hchunks : ∀ chunk ∈ chunks, chunk ≠ [])
    (hstream : chunks.flatten = lines.flatMap lineBytes ++ lineBytes blank ++ rest) :
    ∃ first later, (start.hear (chunks.map .bytes ++ [.bytes []])).2 = first :: later ∧
      (∀ result, Gives (lengthValues lines) rest result ↔ result = first) ∧
      ∀ n, Announces (lengthValues lines) n → n ≤ maxBody → n ≤ rest.length →
        ∀ pieces : List (List UInt8), (∀ piece ∈ pieces, piece ≠ []) → pieces.flatten = rest.drop n →
          later = (start.hear (pieces.map .bytes ++ [.bytes []])).2 := by
  rw [hear_append, hear_chunks start hchunks, hstream, List.append_assoc]
  by_cases hvalues : ∀ value ∈ lengthValues lines, ∃ n, Says value n
  · obtain ⟨h, hfeed, hlength⟩ := feed_lines hlines hvalues {}
    have hstart : start.feed (lines.flatMap lineBytes) = (.header h [], []) := hfeed
    have hend := line_of_blank h hblank
    rw [feed_append, hstart, feed_append, feed_lineBytes h hbreak, hend]
    rcases hlength with ⟨hnil, hnone⟩ | ⟨n, hn, hsome⟩
    · have hnone : h.length = none := hnone
      rw [hnone]
      refine ⟨_, _, rfl, Gives.iff (.missing hnil), ?_⟩
      intro n hn
      rw [hnil] at hn
      exact absurd hn (not_announces_nil n)
    · simp only [hsome]
      by_cases hlong : maxBody < n
      · rw [if_pos hlong]
        refine ⟨_, _, rfl, Gives.iff (.oversized hn hlong), ?_⟩
        intro m hm hmax
        have := hn.unique hm
        omega
      · rw [if_neg hlong]
        by_cases hshort : rest.length < n
        · obtain ⟨hquiet, hbody⟩ := feed_short hshort
          rw [hquiet, hbody]
          refine ⟨_, _, rfl, Gives.iff (.short hn (by omega) hshort), ?_⟩
          intro m hm _ henough
          have := hn.unique hm
          omega
        · obtain ⟨hnext, hresults⟩ := feed_whole (Nat.le_of_not_lt hshort)
          simp only [List.nil_append, hnext, hresults]
          refine ⟨_, _, rfl, Gives.iff (.whole hn (by omega) (by omega)), ?_⟩
          intro m hm _ _ pieces hpieces hflat
          obtain rfl := hn.unique hm
          rw [hear_append, hear_chunks start hpieces, hflat]
          rfl
  · -- the first value that is no length stops the reader
    obtain ⟨before, value, after, hsplit, hbefore, hvalue⟩ := exists_first_invalid hvalues
    obtain ⟨later, hfeed⟩ := feed_invalid hlines hsplit hbefore hvalue (lineBytes blank ++ rest)
    rw [hfeed]
    refine ⟨_, _, rfl, Gives.iff (.invalid hsplit hbefore hvalue), ?_⟩
    intro n hn
    rw [hsplit] at hn
    exact absurd hn (not_announces hvalue n)

/-- A block with two lengths, in different letters. -/
def twoLengths : List (List Char) := [lengthName ++ [':', '7', '\r'], 'c' :: lengthName.tail ++ [' ', ':', '+', '1']]

/-- The bytes of that block, and what comes after it. -/
def twoLengthsStream : List UInt8 := twoLengths.flatMap lineBytes ++ lineBytes ['\r'] ++ [0x31, 0x43]

/-- Of two lengths the last counts, and what is left of the stream is read for the next frame. -/
theorem hear_block_repeated : ∃ later,
    (start.hear ([twoLengthsStream.take 20, twoLengthsStream.drop 20].map .bytes ++ [.bytes []])).2 =
      close [0x31] :: later ∧
    later = (start.hear ([[0x43]].map .bytes ++ [.bytes []])).2 := by
  have hvalues : lengthValues twoLengths = [['7'], ['+', '1']] := by decide
  have hlast : Announces (lengthValues twoLengths) 1 := by
    rw [hvalues]
    refine ⟨?_, ['+', '1'], rfl, length?_eq_some_iff.1 (by decide)⟩
    intro value hm
    simp only [List.mem_cons, List.not_mem_nil, or_false] at hm
    rcases hm with rfl | rfl
    · exact ⟨7, length?_eq_some_iff.1 (by decide)⟩
    · exact ⟨1, length?_eq_some_iff.1 (by decide)⟩
  have hchunks : ∀ chunk ∈ [twoLengthsStream.take 20, twoLengthsStream.drop 20], chunk ≠ [] := by decide
  have hstream : [twoLengthsStream.take 20, twoLengthsStream.drop 20].flatten = twoLengthsStream := by simp
  have hlines : ∀ line ∈ twoLengths, IsHeaderLine line := by decide
  have hblank : Text.trimChars ['\r'] = [] := by decide
  obtain ⟨first, later, hresults, hfirst, hnext⟩ := hear_block hlines (by decide) hblank hchunks hstream
  have hwhole : close [0x31] = first := (hfirst _).1 (.whole hlast (by decide) (by decide))
  refine ⟨later, ?_, ?_⟩
  · rw [hresults, hwhole]
  · exact hnext 1 hlast (by decide) (by decide) [[0x43]] (by simp) rfl

end Reader

end Frame

end Attendant

import Attendant.Json.Parser
import Attendant.Json.Printer
import Mathlib.Data.List.Induction

/-!
# Reading what has been written

The text of a value is read back as the value, if its text keeps it at all (`Plain`). A double may not be kept, as it is
written in the fewest digits and read with machine arithmetic; nor are an integer out of range, a table whose names do not
increase, and nesting that the reader refuses.

Each part of a text is read up to what ends it: a string up to its closing quote (`stringRest_quoted`), an integer up to a
sign that may follow a value (`number_toString`), a list or a table part by part (`items_render`, `members_render`). A
value is put together from these by its structure (`Plain.reads`), with two steps of the reader for each character of the
text.
-/

namespace Attendant.Json

/-! ### What ends a value -/

/-- What may come after a value in a text: nothing, or the sign that follows a part of a list or a table. -/
def Ends (rest : List Char) : Prop := ∀ c ∈ rest.head?, c = ',' ∨ c = ']' ∨ c = '\x7d'

private theorem ends_nil : Ends [] := by simp [Ends]

private theorem ends_cons {c : Char} (h : c = ',' ∨ c = ']' ∨ c = '\x7d') (rest : List Char) : Ends (c :: rest) := by
  simpa [Ends] using h

private theorem skipSpace_cons {c : Char} (h : isSpace c = false) (cs : List Char) : skipSpace (c :: cs) = c :: cs := by
  rw [skipSpace, List.dropWhile_cons_of_neg (by simp [h])]

/-! ### Strings -/

/-- The text of a string. -/
def quoted (s : String) : List Char := '"' :: (s.toList.flatMap escape ++ ['"'])

private theorem toList_renderString (s : String) : (renderString s).toList = quoted s := by
  simp [renderString, quoted]

/-- How a character of a string is written: with a letter after a backslash, by its number, or as it is. -/
private theorem escape_cases (c : Char) :
    (∃ d, d ≠ 'u' ∧ shortEscape d = some c ∧ escape c = ['\\', d]) ∨
    (c.toNat < 0x20 ∧ escape c = ['\\', 'u', '0', '0', hexDigit (c.toNat / 16), hexDigit (c.toNat % 16)]) ∨
    (c ≠ '"' ∧ c ≠ '\\' ∧ ¬c.toNat < 0x20 ∧ escape c = [c]) := by
  unfold escape
  split
  · exact Or.inl ⟨'"', by simp_all [shortEscape]⟩
  split
  · exact Or.inl ⟨'\\', by simp_all [shortEscape]⟩
  split
  · exact Or.inl ⟨'b', by simp_all [shortEscape]⟩
  split
  · exact Or.inl ⟨'f', by simp_all [shortEscape]⟩
  split
  · exact Or.inl ⟨'n', by simp_all [shortEscape]⟩
  split
  · exact Or.inl ⟨'r', by simp_all [shortEscape]⟩
  split
  · exact Or.inl ⟨'t', by simp_all [shortEscape]⟩
  split
  · rename_i hlow
    exact Or.inr (Or.inl ⟨hlow, rfl⟩)
  · rename_i hquote hslash _ _ _ _ _ hhigh
    exact Or.inr (Or.inr ⟨hquote, hslash, hhigh, rfl⟩)

private theorem unit_hexDigit : ∀ n < 32, unit '0' '0' (hexDigit (n / 16)) (hexDigit (n % 16)) = some n := by decide

/-- A character of a string is read back. -/
theorem stringRest_escape (c : Char) (acc more : List Char) :
    stringRest acc (escape c ++ more) = stringRest (c :: acc) more := by
  rcases escape_cases c with ⟨d, hd, hshort, hescape⟩ | ⟨hlow, hescape⟩ | ⟨hquote, hslash, hhigh, hescape⟩
  · rw [hescape]
    simp [stringRest, hd, hshort]
  · have hunit := unit_hexDigit c.toNat hlow
    have hno : ¬(0xDC00 ≤ c.toNat ∧ c.toNat ≤ 0xDFFF) ∧ ¬(0xD800 ≤ c.toNat ∧ c.toNat ≤ 0xDBFF) := by omega
    rw [hescape]
    simp [stringRest, hunit, hno]
  · rw [hescape]
    simp [stringRest, hslash, hhigh]

/-- A string is read back after its opening quote. -/
theorem stringRest_quoted (s : String) (rest : List Char) :
    stringRest [] (s.toList.flatMap escape ++ '"' :: rest) = some (s, rest) := by
  have hall (cs acc : List Char) :
      stringRest acc (cs.flatMap escape ++ '"' :: rest) = some (String.ofList (acc.reverse ++ cs), rest) := by
    induction cs generalizing acc with
    | nil => simp [stringRest]
    | cons c cs ih =>
      rw [List.flatMap_cons, List.append_assoc, stringRest_escape, ih]
      simp
  rw [hall]
  simp

/-! ### Integers -/

private theorem isDigit_of_mem_toDigits {n : Nat} {c : Char} (h : c ∈ Nat.toDigits 10 n) : isDigit c = true := by
  have hdigit : '0' ≤ c ∧ c ≤ '9' := Char.isDigit_iff_toNat.1 (Nat.isDigit_of_mem_toDigits (by omega) (by omega) h)
  simpa only [isDigit, Bool.and_eq_true, decide_eq_true_eq] using hdigit

private theorem wholeDigits_append {ds rest : List Char} (hd : ∀ c ∈ ds, isDigit c = true)
    (hrest : ∀ c ∈ rest.head?, isDigit c = false) {acc : Nat} (h : Nat.ofDigitChars 10 ds acc < width64) :
    wholeDigits { significand := acc } (ds ++ rest) = ({ significand := Nat.ofDigitChars 10 ds acc }, rest) := by
  induction ds generalizing acc with
  | nil =>
    cases rest with
    | nil => rfl
    | cons c rest => simp [wholeDigits, hrest c (by simp)]
  | cons c ds ih =>
    rw [Nat.ofDigitChars_cons] at h ⊢
    have hle : 10 * acc + (c.toNat - '0'.toNat) < width64 := by
      rw [Nat.ofDigitChars_eq_ofDigitChars_zero] at h
      have : 1 ≤ 10 ^ ds.length := Nat.one_le_pow _ _ (by omega)
      have := Nat.mul_le_mul_right (10 * acc + (c.toNat - '0'.toNat)) this
      omega
    have hnext : acc * 10 + digit c = 10 * acc + (c.toNat - '0'.toNat) := by rw [digit, Nat.mul_comm]
    rw [List.cons_append, wholeDigits, if_pos (hd c (by simp)), hnext]
    simp only [Bool.false_or, decide_eq_true_eq, Nat.not_le.2 hle, if_false]
    exact ih (fun d hd' => hd d (by simp [hd'])) h

private theorem toDigits_eq_cons {n : Nat} (h : 0 < n) : ∃ c ds, Nat.toDigits 10 n = c :: ds ∧ c ≠ '0' := by
  induction n using Nat.strongRecOn with
  | ind n ih =>
    by_cases hlt : n < 10
    · refine ⟨n.digitChar, [], Nat.toDigits_of_lt_base hlt, ?_⟩
      have : ∀ m < 10, 0 < m → m.digitChar ≠ '0' := by decide
      exact this n hlt h
    · obtain ⟨c, ds, hds, hc⟩ := ih (n / 10) (by omega) (by omega)
      exact ⟨c, ds ++ [(n % 10).digitChar], by rw [Nat.toDigits_of_base_le (by omega) (by omega), hds]; rfl, hc⟩

private theorem not_isDigit_of_ends {rest : List Char} (h : Ends rest) : ∀ c ∈ rest.head?, isDigit c = false := by
  intro c hc
  obtain rfl | rfl | rfl := h c hc <;> rfl

/-- A number whose digits have been read, and nothing goes on with, is an integer. -/
private theorem afterWhole_of_ends (d : Digits) (negative : Bool) {rest : List Char} (h : Ends rest) :
    afterWhole d negative rest = afterWhole.plain d negative rest := by
  cases rest with
  | nil => rfl
  | cons c rest => obtain rfl | rfl | rfl := h c rfl <;> rfl

private theorem number_toDigits (negative : Bool) {n : Nat} {rest : List Char} (hn : n < width64) (hrest : Ends rest) :
    number ((if negative then ['-'] else []) ++ (Nat.toDigits 10 n ++ rest)) =
      afterWhole.plain { significand := n } negative rest := by
  rcases Nat.eq_zero_or_pos n with rfl | hpos
  · have hzero : number ((if negative then ['-'] else []) ++ ('0' :: rest)) = afterWhole {} negative rest := by
      cases rest with
      | nil => cases negative <;> rfl
      | cons c rest =>
        have hc := not_isDigit_of_ends hrest c rfl
        cases negative <;> simp [number, hc]
    rw [Nat.toDigits_zero, List.singleton_append, hzero, afterWhole_of_ends _ _ hrest]
  · obtain ⟨c, ds, hds, hc⟩ := toDigits_eq_cons hpos
    have hd : ∀ c ∈ Nat.toDigits 10 n, isDigit c = true := fun c h => isDigit_of_mem_toDigits h
    have hdigit : isDigit c = true := hd c (by simp [hds])
    have hsign : c ≠ '-' := by
      rintro rfl
      cases hdigit
    have hwhole : wholeDigits {} (Nat.toDigits 10 n ++ rest) = ({ significand := n }, rest) := by
      have := @wholeDigits_append _ _ hd (not_isDigit_of_ends hrest) 0
      rw [Nat.ofDigitChars_ten_toDigits] at this
      exact this hn
    rw [hds, List.cons_append] at hwhole
    rw [hds, ← afterWhole_of_ends _ _ hrest, List.cons_append]
    cases negative <;> simp [number, hsign, hc, hdigit, hwhole]

/-- The text of an integer. -/
theorem toList_toString (n : Int) :
    (toString n).toList = (if n < 0 then ['-'] else []) ++ Nat.toDigits 10 n.natAbs := by
  cases n with
  | ofNat n => simp [toString, Int.repr]
  | negSucc n => simp [toString, Int.repr]

/-- An integer is read back. -/
theorem number_toString {n : Int} {rest : List Char} (h : -(width63 : Int) ≤ n ∧ n < width64) (hrest : Ends rest) :
    number ((toString n).toList ++ rest) = some (.int n, rest) := by
  have hwidth : n.natAbs < width64 := by
    simp only [width63, width64] at *
    omega
  have hnumber := number_toDigits (decide (n < 0)) hwidth hrest
  simp only [decide_eq_true_eq] at hnumber
  rw [toList_toString, List.append_assoc, hnumber, afterWhole.plain]
  by_cases hneg : n < 0
  · have hin : ¬(n.natAbs = 0 ∨ width63 < n.natAbs) := by omega
    simp only [hneg, decide_true, Bool.not_true, Bool.or_eq_true, decide_eq_true_eq, hin, if_false, Bool.false_eq_true]
    rw [show -(n.natAbs : Int) = n by omega]
  · simp only [hneg, decide_false, Bool.not_false, Bool.false_eq_true, if_false, if_true]
    rw [show (n.natAbs : Int) = n by omega]

/-! ### The text of lists and tables -/

/-- The text of a field. -/
def fieldText (field : String × Value) : List Char := quoted field.1 ++ ':' :: (render field.2).toList

private theorem skipSpace_fieldText (field : String × Value) (more : List Char) :
    skipSpace (fieldText field ++ more) = fieldText field ++ more := by
  rw [fieldText, quoted, List.cons_append, List.cons_append, skipSpace_cons rfl]

private theorem toList_renderItems (acc : String) (vs : List Value) :
    (renderItems acc vs).toList = acc.toList ++ vs.flatMap fun v => ',' :: (render v).toList := by
  induction vs generalizing acc with
  | nil => simp [renderItems]
  | cons v vs ih => simp [renderItems, ih]

private theorem toList_renderFields (acc : String) (fields : List (String × Value)) :
    (renderFields acc fields).toList = acc.toList ++ fields.flatMap fun field => ',' :: fieldText field := by
  induction fields generalizing acc with
  | nil => simp [renderFields]
  | cons field fields ih => simp [renderFields, ih, fieldText, toList_renderString]

private theorem toList_render_list (v : Value) (vs : List Value) :
    (render (.list (v :: vs))).toList =
      '[' :: ((render v).toList ++ ((vs.flatMap fun w => ',' :: (render w).toList) ++ [']'])) := by
  simp [render, toList_renderItems]

private theorem toList_render_table (field : String × Value) (fields : List (String × Value)) :
    (render (.table (field :: fields))).toList =
      '\x7b' :: (fieldText field ++ ((fields.flatMap fun f => ',' :: fieldText f) ++ ['\x7d'])) := by
  simp [render, toList_renderFields, fieldText, toList_renderString]

/-! ### Values -/

/-- A value that its text keeps, nested so deep at most: no doubles, integers that are read as integers, and tables whose
names increase. -/
inductive Plain : Nat → Value → Prop where
  | null {depth : Nat} : Plain depth .null
  | bool {depth : Nat} (b : Bool) : Plain depth (.bool b)
  | int {depth : Nat} {n : Int} : -(width63 : Int) ≤ n ∧ n < width64 → Plain depth (.int n)
  | str {depth : Nat} (s : String) : Plain depth (.str s)
  | list {depth : Nat} {items : List Value} : (∀ v ∈ items, Plain depth v) → Plain (depth + 1) (.list items)
  | table {depth : Nat} {fields : List (String × Value)} : (fields.map (·.1)).Pairwise (· < ·) →
      (∀ field ∈ fields, Plain depth field.2) → Plain (depth + 1) (.table fields)

/-- The text of a value, in front of what may follow it, is read as the value, if it may be nested deeper than `depth`
and there are steps enough. -/
structure Reads (depth : Nat) (v : Value) : Prop where
  head : ∃ c cs, (render v).toList = c :: cs ∧ isSpace c = false ∧ c ≠ ']'
  read {fuel bound : Nat} {rest : List Char} : 2 * (render v).toList.length ≤ fuel → depth < bound → Ends rest →
    value fuel bound ((render v).toList ++ rest) = some (v, rest)

private theorem Reads.skipSpace_eq {depth : Nat} {v : Value} (h : Reads depth v) (rest : List Char) :
    skipSpace ((render v).toList ++ rest) = (render v).toList ++ rest := by
  obtain ⟨c, cs, hcs, hc, -⟩ := h.head
  rw [hcs, List.cons_append, skipSpace_cons hc]

section

variable {depth bound fuel : Nat} {rest : List Char}

private theorem items_comma {v : Value} (hv : Reads depth v) (acc : List Value) (hdepth : depth < bound)
    (hfuel : 2 * (render v).toList.length ≤ fuel) :
    items (fuel + 1) bound acc ((render v).toList ++ ',' :: rest) = items fuel bound (v :: acc) (skipSpace rest) := by
  rw [items, hv.read hfuel hdepth (ends_cons (Or.inl rfl) rest)]
  simp only [skipSpace_cons (show isSpace ',' = false from rfl)]

private theorem items_close {v : Value} (hv : Reads depth v) (acc : List Value) (hdepth : depth < bound)
    (hfuel : 2 * (render v).toList.length ≤ fuel) :
    items (fuel + 1) bound acc ((render v).toList ++ ']' :: rest) = some (.list (v :: acc).reverse, rest) := by
  rw [items, hv.read hfuel hdepth (ends_cons (Or.inr (Or.inl rfl)) rest)]
  simp only [skipSpace_cons (show isSpace ']' = false from rfl)]

private theorem items_render (hdepth : depth < bound) {v : Value} {vs acc : List Value} (hv : Reads depth v)
    (hvs : ∀ w ∈ vs, Reads depth w)
    (hfuel : 2 * ((render v).toList.length + (vs.flatMap fun w => ',' :: (render w).toList).length + 1) ≤ fuel) :
    items fuel bound acc ((render v).toList ++ ((vs.flatMap fun w => ',' :: (render w).toList) ++ ']' :: rest)) =
      some (.list (acc.reverse ++ v :: vs), rest) := by
  induction vs generalizing v acc fuel with
  | nil =>
    obtain ⟨fuel, rfl⟩ : ∃ less, fuel = less + 1 := ⟨fuel - 1, by omega⟩
    rw [List.flatMap_nil, List.nil_append, items_close hv acc hdepth (by omega), List.reverse_cons]
  | cons w ws ih =>
    have hw : Reads depth w := hvs w (by simp)
    rw [List.flatMap_cons, List.length_append, List.length_cons] at hfuel
    obtain ⟨fuel, rfl⟩ : ∃ less, fuel = less + 1 := ⟨fuel - 1, by omega⟩
    rw [List.flatMap_cons, List.cons_append, List.cons_append, items_comma hv acc hdepth (by omega), List.append_assoc,
      hw.skipSpace_eq, ih hw (fun x hx => hvs x (by simp [hx])) (by omega)]
    simp

private theorem read_field {field : String × Value} (hv : Reads depth field.2) (hdepth : depth < bound)
    (hfuel : 2 * (fieldText field).length ≤ fuel) (hrest : Ends rest) :
    value fuel bound ((render field.2).toList ++ rest) = some (field.2, rest) := by
  have hlength : (render field.2).toList.length ≤ (fieldText field).length := by
    simp only [fieldText, List.length_append, List.length_cons]
    omega
  exact hv.read (by omega) hdepth hrest

private theorem members_comma {field : String × Value} (hv : Reads depth field.2) (acc : List (String × Value))
    (hdepth : depth < bound) (hfuel : 2 * (fieldText field).length ≤ fuel) :
    members (fuel + 1) bound acc (fieldText field ++ ',' :: rest) =
      members fuel bound (field :: acc) (skipSpace rest) := by
  simp only [fieldText, quoted, List.cons_append, List.append_assoc, List.nil_append, members, stringRest_quoted,
    skipSpace_cons (show isSpace ':' = false from rfl), hv.skipSpace_eq,
    read_field hv hdepth hfuel (ends_cons (Or.inl rfl) rest), skipSpace_cons (show isSpace ',' = false from rfl)]

private theorem members_close {field : String × Value} (hv : Reads depth field.2) (acc : List (String × Value))
    (hdepth : depth < bound) (hfuel : 2 * (fieldText field).length ≤ fuel) :
    members (fuel + 1) bound acc (fieldText field ++ '\x7d' :: rest) =
      some (Value.ofFields (field :: acc).reverse, rest) := by
  simp only [fieldText, quoted, List.cons_append, List.append_assoc, List.nil_append, members, stringRest_quoted,
    skipSpace_cons (show isSpace ':' = false from rfl), hv.skipSpace_eq,
    read_field hv hdepth hfuel (ends_cons (Or.inr (Or.inr rfl)) rest),
    skipSpace_cons (show isSpace '\x7d' = false from rfl)]

private theorem members_render (hdepth : depth < bound) {field : String × Value} {fields acc : List (String × Value)}
    (hv : Reads depth field.2) (hvs : ∀ f ∈ fields, Reads depth f.2)
    (hfuel : 2 * ((fieldText field).length + (fields.flatMap fun f => ',' :: fieldText f).length + 1) ≤ fuel) :
    members fuel bound acc (fieldText field ++ ((fields.flatMap fun f => ',' :: fieldText f) ++ '\x7d' :: rest)) =
      some (Value.ofFields (acc.reverse ++ field :: fields), rest) := by
  induction fields generalizing field acc fuel with
  | nil =>
    obtain ⟨fuel, rfl⟩ : ∃ less, fuel = less + 1 := ⟨fuel - 1, by omega⟩
    rw [List.flatMap_nil, List.nil_append, members_close hv acc hdepth (by omega), List.reverse_cons]
  | cons f fs ih =>
    have hf : Reads depth f.2 := hvs f (by simp)
    rw [List.flatMap_cons, List.length_append, List.length_cons] at hfuel
    obtain ⟨fuel, rfl⟩ : ∃ less, fuel = less + 1 := ⟨fuel - 1, by omega⟩
    rw [List.flatMap_cons, List.cons_append, List.cons_append, members_comma hv acc hdepth (by omega),
      List.append_assoc, skipSpace_fieldText, ih hf (fun x hx => hvs x (by simp [hx])) (by omega)]
    simp

end

private theorem putField_of_lt {key : String} (v : Value) {fields : List (String × Value)}
    (h : ∀ field ∈ fields, field.1 < key) : Value.putField key v fields = fields ++ [(key, v)] := by
  induction fields with
  | nil => rfl
  | cons field fields ih =>
    have hlt : field.1 < key := h field (by simp)
    have hne : key ≠ field.1 := fun heq => String.lt_irrefl key (heq ▸ hlt)
    simp only [Value.putField, hne, String.lt_asymm hlt, if_false, List.cons_append]
    rw [ih fun f hf => h f (by simp [hf])]

/-- Fields whose names increase are a table as they stand. -/
theorem ofFields_of_increasing {fields : List (String × Value)} (h : (fields.map (·.1)).Pairwise (· < ·)) :
    Value.ofFields fields = .table fields := by
  rw [Value.ofFields]
  congr 1
  induction fields using List.reverseRecOn with
  | nil => rfl
  | append_singleton fields field ih =>
    rw [List.map_append, List.pairwise_append] at h
    obtain ⟨hinit, -, hlast⟩ := h
    rw [List.foldl_append, ih hinit]
    exact putField_of_lt field.2 fun f hf => hlast f.1 (List.mem_map_of_mem hf) field.1 (by simp)

/-- The text of an integer begins with a sign or a digit. -/
private theorem head_toString (n : Int) :
    ∃ c cs, (toString n).toList = c :: cs ∧ (c = '-' ∨ isDigit c = true) := by
  rw [toList_toString]
  split
  · exact ⟨'-', _, rfl, Or.inl rfl⟩
  · obtain ⟨c, cs, hcs⟩ := List.exists_cons_of_ne_nil (Nat.toDigits_ne_nil (b := 10) (n := n.natAbs))
    exact ⟨c, cs, hcs, Or.inr (isDigit_of_mem_toDigits (n := n.natAbs) (by simp [hcs]))⟩

private theorem value_of_number {c : Char} (hc : c = '-' ∨ isDigit c = true) (fuel bound : Nat) (cs : List Char) :
    value (fuel + 1) bound (c :: cs) = number (c :: cs) := by
  have hother : c ≠ '"' ∧ c ≠ '[' ∧ c ≠ '\x7b' ∧ c ≠ 't' ∧ c ≠ 'f' ∧ c ≠ 'n' := by
    refine ⟨?_, ?_, ?_, ?_, ?_, ?_⟩ <;> (rintro rfl; revert hc; decide)
  simp [value, hother]

/-- A text is not empty, so there is a step for what it begins with. -/
private theorem reads_of_cons {depth : Nat} {v : Value} {c : Char} {cs : List Char} (hcs : (render v).toList = c :: cs)
    (hc : isSpace c = false ∧ c ≠ ']')
    (hread : ∀ {fuel bound : Nat} {rest : List Char}, 2 * cs.length < fuel → depth < bound → Ends rest →
      value (fuel + 1) bound (c :: (cs ++ rest)) = some (v, rest)) : Reads depth v := by
  refine ⟨⟨c, cs, hcs, hc⟩, ?_⟩
  intro fuel bound rest hfuel hdepth hrest
  rw [hcs, List.length_cons] at hfuel
  obtain ⟨fuel, rfl⟩ : ∃ less, fuel = less + 1 := ⟨fuel - 1, by omega⟩
  rw [hcs]
  exact hread (by omega) hdepth hrest

private theorem reads_list {depth : Nat} {vs : List Value} (h : ∀ v ∈ vs, Reads depth v) :
    Reads (depth + 1) (.list vs) := by
  cases vs with
  | nil =>
    have htext : (render (.list [])).toList = '[' :: [']'] := by simp [render]
    refine reads_of_cons htext (by decide) fun _ hdepth _ => ?_
    rw [value, if_neg (by omega), List.singleton_append, skipSpace_cons (by decide)]
    rfl
  | cons v vs =>
    have hv : Reads depth v := h v (by simp)
    refine reads_of_cons (toList_render_list v vs) (by decide) fun {fuel bound rest} hfuel hdepth _ => ?_
    simp only [List.length_append, List.length_singleton] at hfuel
    have hitems : items fuel (bound - 1) [] _ = some (.list ([].reverse ++ v :: vs), rest) :=
      items_render (by omega) hv (fun w hw => h w (by simp [hw])) (by omega)
    obtain ⟨c, cs, hcs, -, hc⟩ := hv.head
    rw [List.append_assoc, List.append_assoc, value, if_neg (by omega), hv.skipSpace_eq]
    simpa [hcs, hc] using hitems

private theorem reads_table {depth : Nat} {fields : List (String × Value)}
    (hnames : (fields.map (·.1)).Pairwise (· < ·)) (h : ∀ field ∈ fields, Reads depth field.2) :
    Reads (depth + 1) (.table fields) := by
  cases fields with
  | nil =>
    have htext : (render (.table [])).toList = '\x7b' :: ['\x7d'] := by simp [render]
    refine reads_of_cons htext (by decide) fun _ hdepth _ => ?_
    rw [value, if_neg (by omega), List.singleton_append, skipSpace_cons (by decide)]
    rfl
  | cons field fields =>
    refine reads_of_cons (toList_render_table field fields) (by decide) fun {fuel bound rest} hfuel hdepth _ => ?_
    simp only [List.length_append, List.length_singleton] at hfuel
    have hmembers : members fuel (bound - 1) [] _ = some (Value.ofFields ([].reverse ++ field :: fields), rest) :=
      members_render (by omega) (h field (by simp)) (fun f hf => h f (by simp [hf])) (by omega)
    rw [List.reverse_nil, List.nil_append, ofFields_of_increasing hnames] at hmembers
    rw [List.append_assoc, List.append_assoc, value, if_neg (by omega), skipSpace_fieldText]
    simpa [fieldText, quoted] using hmembers

/-- A value that its text keeps is read from it. -/
theorem Plain.reads {depth : Nat} {v : Value} (h : Plain depth v) : Reads depth v := by
  induction h with
  | null =>
    have htext : (render .null).toList = 'n' :: ['u', 'l', 'l'] := by simp [render]
    exact reads_of_cons htext (by decide) fun _ _ _ => by simp [value, literal]
  | bool b =>
    cases b with
    | false =>
      have htext : (render (.bool false)).toList = 'f' :: ['a', 'l', 's', 'e'] := by simp [render]
      exact reads_of_cons htext (by decide) fun _ _ _ => by simp [value, literal]
    | true =>
      have htext : (render (.bool true)).toList = 't' :: ['r', 'u', 'e'] := by simp [render]
      exact reads_of_cons htext (by decide) fun _ _ _ => by simp [value, literal]
  | @int _ n hrange =>
    obtain ⟨c, cs, hcs, hc⟩ := head_toString n
    have hblank : isSpace c = false ∧ c ≠ ']' := by
      have hdigit (hspace : isSpace c = true) : ¬(c = '-' ∨ isDigit c = true) := by
        simp only [isSpace, Bool.or_eq_true, decide_eq_true_eq] at hspace
        rcases hspace with ((rfl | rfl) | rfl) | rfl <;> decide
      refine ⟨Bool.eq_false_iff.2 fun hspace => hdigit hspace hc, ?_⟩
      rintro rfl
      revert hc
      decide
    refine reads_of_cons hcs hblank fun _ _ hrest => ?_
    rw [value_of_number hc, ← List.cons_append, ← hcs, number_toString hrange hrest]
  | str s =>
    refine reads_of_cons (toList_renderString s) (by decide) fun _ _ _ => ?_
    simp [value, stringRest_quoted]
  | list _ ih => exact reads_list ih
  | table hnames _ ih => exact reads_table hnames ih

/-- What has been written is read back: a value without doubles whose integers are in range is the value of its text, if
it is nested less than 128 deep. -/
theorem parse?_render {v : Value} (h : Plain 127 v) : parse? (render v) = some v := by
  have hreads := h.reads
  have hread : value (fuelFor (render v).toList) maxDepth ((render v).toList ++ []) = some (v, []) :=
    hreads.read (by simp only [fuelFor]; omega) (by decide) ends_nil
  have hskip := hreads.skipSpace_eq []
  rw [List.append_nil] at hread hskip
  rw [parse?, parseChars?, hskip, hread]
  rfl

end Attendant.Json

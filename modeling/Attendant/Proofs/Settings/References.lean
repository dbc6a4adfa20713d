import Attendant.Expansion
import Attendant.Proofs.Text.Reading
import Mathlib.Data.List.Basic

/-!
# References in settings

What a text with references is, said without a reader: `Parts` are references, each with the plain text before it, and
the text after the last of them; `Parts.Reads` says which parts a text has. There is no opening in the plain text before
a reference, since the reference would begin there; no closing brace in a name, since it would end there; and no opening
in the last text that is closed. The key facts: every text can be taken apart in this way (`exists_reads`), taking it
apart from left to right gives just these parts, so there are no others (`Parts.Reads.pieces_eq`), and what a text is
expanded to is the parts with the values in place of the references (`expand_reads`).
-/

namespace Attendant.Expansion

/-- What a reference begins with. -/
def opening : List Char := ['$', '\x7b']

/-- What a reference ends with. -/
def closing : Char := '\x7d'

/-! ### The first opening and the first closing brace -/

private theorem cut?_eq_none_iff {c : Char} {cs : List Char} : cut? c cs = none ↔ c ∉ cs := by
  induction cs with
  | nil => simp [cut?]
  | cons d cs ih =>
    by_cases hd : d = c
    · simp [cut?, hd]
    · simp [cut?, hd, ih, Ne.symm hd]

private theorem cut?_append {c : Char} {before : List Char} (h : c ∉ before) (after : List Char) :
    cut? c (before ++ c :: after) = some (before, after) := by
  induction before with
  | nil => simp [cut?]
  | cons d before ih =>
    obtain ⟨hd, hbefore⟩ := not_or.1 (mt List.mem_cons.2 h)
    simp [cut?, Ne.symm hd, ih hbefore]

/-- No opening begins at the last character before an opening: it would have to be `$` and a brace at once. -/
private theorem not_opening_of_cons {c : Char} {before : List Char} (h : ¬opening <:+: c :: before)
    (rest : List Char) : ∀ rest', c :: (before ++ (opening ++ rest)) ≠ opening ++ rest' := by
  intro rest' he
  obtain ⟨rfl, htail⟩ := List.cons.inj (show c :: (before ++ (opening ++ rest)) = '$' :: '\x7b' :: rest' from he)
  cases before with
  | nil => cases htail
  | cons d before =>
    obtain ⟨rfl, -⟩ := List.cons.inj htail
    exact h ⟨[], before, rfl⟩

/-- What is before the first opening is before every opening. -/
private theorem prefix_of_opening {before rest before' rest' : List Char} (hb : ¬opening <:+: before)
    (h : before ++ (opening ++ rest) = before' ++ (opening ++ rest')) :
    ∃ between, before' = before ++ between := by
  induction before generalizing before' with
  | nil => exact ⟨before', rfl⟩
  | cons c before ih =>
    cases before' with
    | nil => exact absurd h (not_opening_of_cons hb rest rest')
    | cons d before' =>
      obtain ⟨rfl, htail⟩ := List.cons.inj h
      have hb' : ¬opening <:+: before := fun hmem => hb (hmem.trans (List.suffix_cons c before).isInfix)
      obtain ⟨between, rfl⟩ := ih hb' htail
      exact ⟨between, rfl⟩

private theorem exists_first_opening (cs : List Char) :
    ¬opening <:+: cs ∨ ∃ before rest, cs = before ++ (opening ++ rest) ∧ ¬opening <:+: before := by
  induction cs with
  | nil => exact Or.inl (by simp [opening])
  | cons c cs ih =>
    by_cases hhead : opening <+: c :: cs
    · obtain ⟨rest, hrest⟩ := hhead
      exact Or.inr ⟨[], rest, hrest.symm, by simp [opening]⟩
    · rcases ih with hnone | ⟨before, rest, rfl, hbefore⟩
      · left
        rw [List.infix_cons_iff]
        exact not_or_intro hhead hnone
      · refine Or.inr ⟨c :: before, rest, rfl, ?_⟩
        rw [List.infix_cons_iff]
        rintro (hstart | hlater)
        · exact hhead (hstart.trans (List.prefix_append (c :: before) _))
        · exact hbefore hlater

/-! ### The parts of a text -/

/-- References, each with the plain text before it, and the text after the last of them. -/
structure Parts where
  references : List (List Char × List Char)
  last : List Char
  deriving DecidableEq, Repr

namespace Parts

/-- The text that has the parts. -/
def text (p : Parts) : List Char :=
  p.references.flatMap (fun (before, name) => before ++ (opening ++ (name ++ [closing]))) ++ p.last

/-- The parts with the values in place of the references. -/
def value (env : Environment) (p : Parts) : List Char :=
  p.references.flatMap (fun (before, name) => before ++ Piece.value env (.reference name)) ++ p.last

/-- The parts as pieces in a row. -/
def pieces (p : Parts) : List Piece :=
  p.references.flatMap (fun (before, name) => [.plain before, .reference name]) ++ [.plain p.last]

/-- What the parts of a text are: no reference begins earlier or ends earlier, and the last text has none. -/
structure Reads (p : Parts) (cs : List Char) : Prop where
  text_eq : p.text = cs
  before : ∀ r ∈ p.references, ¬opening <:+: r.1
  name : ∀ r ∈ p.references, closing ∉ r.2
  last : ∀ before rest, p.last = before ++ (opening ++ rest) → closing ∉ rest

/-- A text with a reference in front of parts. -/
def reference (before name : List Char) (p : Parts) : Parts := ⟨(before, name) :: p.references, p.last⟩

theorem text_reference (before name : List Char) (p : Parts) :
    (p.reference before name).text = before ++ (opening ++ (name ++ closing :: p.text)) := by
  simp [text, reference]

/-- A reference is read where it stands, with what is before it and what comes after it. -/
theorem Reads.reference {p : Parts} {before name cs : List Char} (h : p.Reads cs) (hb : ¬opening <:+: before)
    (hn : closing ∉ name) : (p.reference before name).Reads (before ++ (opening ++ (name ++ closing :: cs))) where
  text_eq := by rw [text_reference, h.text_eq]
  before := by
    intro r hr
    rcases List.mem_cons.1 hr with rfl | hr
    · exact hb
    · exact h.before r hr
  name := by
    intro r hr
    rcases List.mem_cons.1 hr with rfl | hr
    · exact hn
    · exact h.name r hr
  last := h.last

/-- Nothing of a text is lost in its pieces. -/
theorem pieces_injective : Function.Injective pieces := by
  rintro ⟨references, last⟩ ⟨references', last'⟩ h
  induction references generalizing references' with
  | nil =>
    cases references' with
    | nil =>
      have hlast : last = last' := by simpa [pieces] using h
      rw [hlast]
    | cons r references' => simp [pieces] at h
  | cons r references ih =>
    cases references' with
    | nil => simp [pieces] at h
    | cons r' references' =>
      obtain ⟨before, name⟩ := r
      obtain ⟨before', name'⟩ := r'
      simp only [pieces, List.flatMap_cons, List.cons_append, List.nil_append, List.cons.injEq, Piece.plain.injEq,
        Piece.reference.injEq] at h
      obtain ⟨rfl, rfl, hrest⟩ := h
      obtain ⟨rfl, rfl⟩ := Parts.mk.inj (ih references' hrest)
      rfl

private theorem flatMap_pieces (env : Environment) (p : Parts) : p.pieces.flatMap (Piece.value env) = p.value env := by
  simp [pieces, value, List.flatMap_assoc, Piece.value]

end Parts

/-- Every text has parts. -/
theorem exists_reads (cs : List Char) : ∃ p : Parts, p.Reads cs := by
  rcases exists_first_opening cs with hnone | ⟨before, rest, rfl, hbefore⟩
  · refine ⟨⟨[], cs⟩, rfl, by simp, by simp, ?_⟩
    rintro before rest rfl
    exact absurd ⟨before, rest, List.append_assoc _ _ _⟩ hnone
  · by_cases hclosed : closing ∈ rest
    · obtain ⟨name, after, rfl, hname⟩ := List.eq_append_cons_of_mem hclosed
      obtain ⟨p, hp⟩ := exists_reads after
      exact ⟨p.reference before name, hp.reference hbefore hname⟩
    · refine ⟨⟨[], before ++ (opening ++ rest)⟩, rfl, by simp, by simp, ?_⟩
      intro before' rest' heq hmem
      -- a later opening has less after it
      obtain ⟨between, rfl⟩ := prefix_of_opening hbefore heq
      rw [List.append_assoc, List.append_cancel_left_eq] at heq
      have hsuffix : rest' <:+ opening ++ rest := ⟨between ++ opening, by rw [List.append_assoc, ← heq]⟩
      have hrest : rest' <:+ rest := by
        rcases between with _ | ⟨c, _ | ⟨d, between⟩⟩
        · exact ⟨[], (List.append_cancel_left heq).symm⟩
        · cases heq
        · exact ⟨between ++ opening, by simpa [opening] using (List.cons.inj (List.cons.inj heq).2).2.symm⟩
      exact hclosed (hrest.subset hmem)
termination_by cs.length
decreasing_by
  subst_vars
  simp only [List.length_append, List.length_cons, opening]
  omega

/-! ### Reading from left to right -/

private theorem pieces_opening (acc rest : List Char) :
    pieces acc (opening ++ rest) = match cut? closing rest with
      | none => [.plain (acc.reverse ++ (opening ++ rest))]
      | some (name, after) => .plain acc.reverse :: .reference name :: pieces [] after := by
  rw [opening, List.cons_append, List.cons_append, List.nil_append, pieces]
  split <;> rename_i hcut <;> rw [show cut? closing rest = _ from hcut]

private theorem pieces_cons (acc : List Char) {c : Char} {cs : List Char} (h : ∀ rest, c :: cs ≠ opening ++ rest) :
    pieces acc (c :: cs) = pieces (c :: acc) cs := by
  rw [pieces]
  rintro rest rfl rfl
  exact h rest rfl

private theorem pieces_of_plain (acc : List Char) {cs : List Char}
    (h : ∀ before rest, cs = before ++ (opening ++ rest) → closing ∉ rest) :
    pieces acc cs = [.plain (acc.reverse ++ cs)] := by
  induction cs generalizing acc with
  | nil => simp [pieces]
  | cons c cs ih =>
    by_cases hhead : ∃ rest, c :: cs = opening ++ rest
    · obtain ⟨rest, hrest⟩ := hhead
      rw [hrest, pieces_opening, cut?_eq_none_iff.2 (h [] rest hrest)]
    · have htail : ∀ before rest, cs = before ++ (opening ++ rest) → closing ∉ rest := by
        rintro before rest rfl
        exact h (c :: before) rest rfl
      rw [pieces_cons acc fun rest he => hhead ⟨rest, he⟩, ih (c :: acc) htail]
      simp

private theorem pieces_of_reference (acc : List Char) {before name : List Char} (hb : ¬opening <:+: before)
    (hn : closing ∉ name) (after : List Char) :
    pieces acc (before ++ (opening ++ (name ++ closing :: after))) =
      .plain (acc.reverse ++ before) :: .reference name :: pieces [] after := by
  induction before generalizing acc with
  | nil => rw [List.nil_append, pieces_opening, cut?_append hn, List.append_nil]
  | cons c before ih =>
    have hb' : ¬opening <:+: before := fun hmem => hb (hmem.trans (List.suffix_cons c before).isInfix)
    rw [List.cons_append, pieces_cons acc (not_opening_of_cons hb _), ih (c :: acc) hb']
    simp

/-- Whatever parts a text has are found. -/
theorem Parts.Reads.pieces_eq {p : Parts} {cs : List Char} (h : p.Reads cs) : Piece.ofChars cs = p.pieces := by
  obtain ⟨references, last⟩ := p
  induction references generalizing cs with
  | nil =>
    obtain rfl : last = cs := h.text_eq
    exact pieces_of_plain [] h.last
  | cons r references ih =>
    obtain ⟨before, name⟩ := r
    have hrest : Parts.Reads ⟨references, last⟩ (Parts.text ⟨references, last⟩) :=
      ⟨rfl, fun r hr => h.before r (List.mem_cons_of_mem _ hr), fun r hr => h.name r (List.mem_cons_of_mem _ hr), h.last⟩
    have hcs : cs = before ++ (opening ++ (name ++ closing :: Parts.text ⟨references, last⟩)) :=
      h.text_eq.symm.trans (Parts.text_reference before name ⟨references, last⟩)
    rw [hcs, Piece.ofChars, pieces_of_reference [] (h.before _ List.mem_cons_self) (h.name _ List.mem_cons_self)]
    exact congrArg (Piece.plain before :: Piece.reference name :: ·) (ih hrest)

/-! ### Expansion -/

private theorem value_reference {env : Environment} {name : List Char} (hne : name ≠ []) :
    Piece.value env (.reference name) = ((env.text? (String.ofList name)).getD "").toList := by
  obtain ⟨c, name, rfl⟩ := List.exists_cons_of_ne_nil hne
  rfl

/-- The text of a variable that has one. -/
theorem value_of_text {env : Environment} {name : List Char} {text : String} (hne : name ≠ [])
    (h : env.get? (String.ofList name) = some (Utf8.encode text)) : Piece.value env (.reference name) = text.toList := by
  have htext : Utf8.toString? (Utf8.encode text) = some text := Utf8.toString?_eq_some_iff.2 rfl
  simp [value_reference hne, Environment.text?, h, htext]

/-- A variable that has no text stands for nothing. -/
theorem value_of_no_text {env : Environment} {name : List Char} (hne : name ≠ [])
    (h : ∀ text, env.get? (String.ofList name) ≠ some (Utf8.encode text)) : Piece.value env (.reference name) = [] := by
  have hnone : env.text? (String.ofList name) = none := by
    rw [Option.eq_none_iff_forall_not_mem]
    intro text htext
    obtain ⟨bytes, hbytes, hread⟩ := Option.bind_eq_some_iff.1 htext
    exact h text (Utf8.toString?_eq_some_iff.1 hread ▸ hbytes)
  rw [value_reference hne, hnone]
  rfl

/-- A text has exactly one row of parts, and what it is expanded to are these parts with the values in place of the
references. A reference stands for the text of its variable; the empty name, a variable that is not set and one whose
value is no text stand for nothing. -/
theorem expand_reads (env : Environment) (s : String) :
    (∃! p : Parts, p.Reads s.toList) ∧
    (∀ p : Parts, p.Reads s.toList → expand env s = String.ofList (p.value env)) ∧
    (∀ name text, name ≠ [] → env.get? (String.ofList name) = some (Utf8.encode text) →
      Piece.value env (.reference name) = text.toList) ∧
    ∀ name, (name = [] ∨ ∀ text, env.get? (String.ofList name) ≠ some (Utf8.encode text)) →
      Piece.value env (.reference name) = [] := by
  refine ⟨?_, ?_, ?_, ?_⟩
  · obtain ⟨p, hp⟩ := exists_reads s.toList
    refine ⟨p, hp, fun q hq => ?_⟩
    exact Parts.pieces_injective (hq.pieces_eq.symm.trans hp.pieces_eq)
  · intro p hp
    rw [expand, hp.pieces_eq, p.flatMap_pieces env]
  · intro name text hne htext
    exact value_of_text hne htext
  · intro name h
    by_cases hne : name = []
    · rw [hne]
      rfl
    · exact value_of_no_text hne (h.resolve_left hne)

/-- A dollar sign before a reference is kept, a value with a reference in it is put in as it is, the empty name stands
for nothing, and what is never closed stays. -/
theorem expand_reads_nested :
    let env : Environment := ⟨[("X", Utf8.encode "$\x7bY\x7d"), ("Y", Utf8.encode "y")]⟩
    let p : Parts := ⟨[(['a', '$'], ['X']), ([], [])], ['b', '$', '\x7b', 'Y']⟩
    p.Reads "a$$\x7bX\x7d$\x7b\x7db$\x7bY".toList ∧ env.get? "X" = some (Utf8.encode "$\x7bY\x7d") ∧
      expand env "a$$\x7bX\x7d$\x7b\x7db$\x7bY" = "a$$\x7bY\x7db$\x7bY" := by
  intro env p
  have hreads : p.Reads "a$$\x7bX\x7d$\x7b\x7db$\x7bY".toList := by
    refine ⟨by decide, by decide, by decide, ?_⟩
    intro before rest hlast hmem
    have hall : closing ∉ p.last := by decide
    rw [hlast] at hall
    exact hall (List.mem_append_right _ (List.mem_append_right _ hmem))
  have hx : env.get? "X" = some (Utf8.encode "$\x7bY\x7d") := by decide +kernel
  obtain ⟨-, hexpand, htext, hnone⟩ := expand_reads env "a$$\x7bX\x7d$\x7b\x7db$\x7bY"
  refine ⟨hreads, hx, ?_⟩
  rw [hexpand p hreads]
  simp only [Parts.value, p, List.flatMap_cons, List.flatMap_nil]
  rw [htext ['X'] _ (by simp) hx, hnone [] (Or.inl rfl)]
  decide +kernel

end Attendant.Expansion

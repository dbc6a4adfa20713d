import Mathlib.Data.List.Basic

/-!
# How a shell takes a line apart

`Splitter` takes a line apart by the rules of quoting alone: blanks separate words; a backslash quotes the next
character; between single quotes everything stands as it is; between double quotes a backslash quotes only some
characters, and stands for itself before all others; a quoted line end disappears.

What a shell makes of a character is listed once, in `Takes`. There one sees what can be lost: no single quote is ever
made, and every backslash and every double quote in the words is paid for with a backslash of the line, unless single
quotes are taken away. A run on which neither is lost (`Tight`) loses nothing at any of its steps.
-/

namespace Attendant.Launch

/-! ### How a shell takes a line apart -/

/-- How the next character is to be taken. -/
inductive Quoting where
  | plain
  | escaped
  | single
  | double
  | doubleEscaped
  deriving DecidableEq, Repr

/-- A shell within a line: the words that are complete, and what it has of the next one, if one has begun. -/
structure Splitter where
  quoting : Quoting := .plain
  words : List (List Char) := []
  word : Option (List Char) := none
  deriving DecidableEq, Repr

/-- The characters that separate words. -/
def isSeparator (c : Char) : Bool := c = ' ' || c = '\t' || c = '\n'

/-- The characters that a backslash quotes between double quotes. -/
def isEscapable (c : Char) : Bool := c = '"' || c = '\\' || c = '$' || c = '\x60' || c = '\n'

/-- The characters that stand for themselves wherever they are. -/
def isPlain (c : Char) : Bool := !isSeparator c && c ≠ '\\' && c ≠ '\'' && c ≠ '"'

namespace Splitter

/-- More of the word, which begins with it if it has not begun. -/
def add (s : Splitter) (quoting : Quoting) (cs : List Char) : Splitter :=
  { s with quoting, word := some (s.word.getD [] ++ cs) }

/-- Takes one character. -/
def step (s : Splitter) (c : Char) : Splitter :=
  match s.quoting with
  | .plain =>
    if isSeparator c then { s with words := s.words ++ s.word.toList, word := none }
    else if c = '\\' then { s with quoting := .escaped }
    else if c = '\'' then s.add .single []
    else if c = '"' then s.add .double []
    else s.add .plain [c]
  | .escaped => if c = '\n' then { s with quoting := .plain } else s.add .plain [c]
  | .single => if c = '\'' then { s with quoting := .plain } else s.add .single [c]
  | .double =>
    if c = '"' then { s with quoting := .plain }
    else if c = '\\' then { s with quoting := .doubleEscaped }
    else s.add .double [c]
  | .doubleEscaped =>
    if c = '\n' then { s with quoting := .double }
    else s.add .double (if isEscapable c then [c] else ['\\', c])

/-- Takes some characters. -/
def run (s : Splitter) (cs : List Char) : Splitter := cs.foldl step s

/-- All words, with the one that has begun. -/
def all (s : Splitter) : List (List Char) := s.words ++ s.word.toList

@[simp] theorem run_nil (s : Splitter) : s.run [] = s := rfl

@[simp] theorem run_cons (s : Splitter) (c : Char) (cs : List Char) : s.run (c :: cs) = (s.step c).run cs := rfl

theorem run_append (s : Splitter) (cs ds : List Char) : s.run (cs ++ ds) = (s.run cs).run ds := List.foldl_append

end Splitter

/-- The words of a line. A line that ends between quotes, or with a backslash that quotes nothing, is not finished. -/
def split (line : String) : Option (List String) :=
  let s := Splitter.run {} line.toList
  if s.quoting = .plain then some (s.all.map String.ofList) else none

/-! ### Runs -/

section

variable {words : List (List Char)} {word : Option (List Char)}

theorem isPlain_iff {c : Char} :
    isPlain c = true ↔ isSeparator c = false ∧ c ≠ '\\' ∧ c ≠ '\'' ∧ c ≠ '"' := by
  simp [isPlain, and_assoc]

theorem run_plain {cs : List Char} (hne : cs ≠ []) (h : ∀ c ∈ cs, isPlain c = true) :
    Splitter.run ⟨.plain, words, word⟩ cs = ⟨.plain, words, some (word.getD [] ++ cs)⟩ := by
  induction cs generalizing word with
  | nil => exact absurd rfl hne
  | cons c cs ih =>
    obtain ⟨hs, hb, hq, hd⟩ := isPlain_iff.1 (h c List.mem_cons_self)
    have hstep : Splitter.step ⟨.plain, words, word⟩ c = ⟨.plain, words, some (word.getD [] ++ [c])⟩ := by
      simp [Splitter.step, Splitter.add, hs, hb, hq, hd]
    rw [Splitter.run_cons, hstep]
    by_cases hcs : cs = []
    · rw [hcs]
      rfl
    · rw [ih hcs fun d hd => h d (List.mem_cons_of_mem _ hd)]
      simp

/-- A backslash that quotes nothing is a character of the word. -/
theorem step_doubleEscaped {c : Char} (h : isEscapable c = false) (w : List Char) :
    Splitter.step ⟨.doubleEscaped, words, some w⟩ c = Splitter.step ⟨.double, words, some (w ++ ['\\'])⟩ c := by
  have hc : c ≠ '"' ∧ c ≠ '\\' ∧ c ≠ '\n' := by
    simp only [isEscapable, Bool.or_eq_false_iff, decide_eq_false_iff_not] at h
    exact ⟨h.1.1.1.1, h.1.1.1.2, h.2⟩
  simp [Splitter.step, Splitter.add, h, hc.1, hc.2.1, hc.2.2]

end

/-! ### What a shell loses of a line -/

/-- One character taken: what it adds to the words, and how the next one is taken. -/
inductive Takes : Quoting → Char → List Char → Quoting → Prop
  | separate {c : Char} (h : isSeparator c = true) : Takes .plain c [] .plain
  | keep {c : Char} (h : isPlain c = true) : Takes .plain c [c] .plain
  | escape : Takes .plain '\\' [] .escaped
  | openSingle : Takes .plain '\'' [] .single
  | openDouble : Takes .plain '"' [] .double
  | join : Takes .escaped '\n' [] .plain
  | escaped {c : Char} (h : c ≠ '\n') : Takes .escaped c [c] .plain
  | closeSingle : Takes .single '\'' [] .plain
  | single {c : Char} (h : c ≠ '\'') : Takes .single c [c] .single
  | closeDouble : Takes .double '"' [] .plain
  | escapeDouble : Takes .double '\\' [] .doubleEscaped
  | double {c : Char} (hd : c ≠ '"') (hb : c ≠ '\\') : Takes .double c [c] .double
  | joinDouble : Takes .doubleEscaped '\n' [] .double
  | escapedDouble {c : Char} (h : isEscapable c = true) (hc : c ≠ '\n') : Takes .doubleEscaped c [c] .double
  | backslash {c : Char} (h : isEscapable c = false) : Takes .doubleEscaped c ['\\', c] .double

/-- A backslash that has been taken and not yet given back. -/
def Quoting.owed : Quoting → Nat
  | .escaped | .doubleEscaped => 1
  | _ => 0

namespace Splitter

/-- The characters of all words. -/
def text (s : Splitter) : List Char := s.words.flatten ++ s.word.getD []

/-- The backslashes and double quotes in the words, and the backslash that is owed. -/
def weight (s : Splitter) : Nat := s.text.count '\\' + s.text.count '"' + s.quoting.owed

/-- All words, the one that is under way included, hold the text that has been read. -/
theorem flatten_all (s : Splitter) : s.all.flatten = s.text := by
  cases hw : s.word <;> simp [all, text, hw]

private theorem text_add (s : Splitter) (quoting : Quoting) (cs : List Char) : (s.add quoting cs).text = s.text ++ cs := by
  simp [text, add]

private theorem takes_step (s : Splitter) (c : Char) :
    ∃ out, Takes s.quoting c out (s.step c).quoting ∧ (s.step c).text = s.text ++ out := by
  obtain ⟨quoting, words, word⟩ := s
  cases quoting with
  | plain =>
    by_cases hs : isSeparator c = true
    · refine ⟨[], ?_, ?_⟩
      · simpa [step, hs] using Takes.separate hs
      · cases word <;> simp [step, hs, text]
    · by_cases hb : c = '\\'
      · subst hb
        exact ⟨[], .escape, by simp [step, isSeparator, text]⟩
      · by_cases hq : c = '\''
        · subst hq
          exact ⟨[], .openSingle, text_add _ .single []⟩
        · by_cases hd : c = '"'
          · subst hd
            exact ⟨[], .openDouble, text_add _ .double []⟩
          · have hstep : step ⟨.plain, words, word⟩ c = add ⟨.plain, words, word⟩ .plain [c] := by
              simp [step, hs, hb, hq, hd]
            rw [hstep]
            exact ⟨[c], .keep (by simp [isPlain, hs, hb, hq, hd]), text_add _ _ _⟩
  | escaped =>
    by_cases hn : c = '\n'
    · subst hn
      exact ⟨[], .join, by simp [step, text]⟩
    · have hstep : step ⟨.escaped, words, word⟩ c = add ⟨.escaped, words, word⟩ .plain [c] := by simp [step, hn]
      rw [hstep]
      exact ⟨[c], .escaped hn, text_add _ _ _⟩
  | single =>
    by_cases hq : c = '\''
    · subst hq
      exact ⟨[], .closeSingle, by simp [step, text]⟩
    · have hstep : step ⟨.single, words, word⟩ c = add ⟨.single, words, word⟩ .single [c] := by simp [step, hq]
      rw [hstep]
      exact ⟨[c], .single hq, text_add _ _ _⟩
  | double =>
    by_cases hd : c = '"'
    · subst hd
      exact ⟨[], .closeDouble, by simp [step, text]⟩
    · by_cases hb : c = '\\'
      · subst hb
        exact ⟨[], .escapeDouble, by simp [step, text]⟩
      · have hstep : step ⟨.double, words, word⟩ c = add ⟨.double, words, word⟩ .double [c] := by simp [step, hd, hb]
        rw [hstep]
        exact ⟨[c], .double hd hb, text_add _ _ _⟩
  | doubleEscaped =>
    by_cases hn : c = '\n'
    · subst hn
      exact ⟨[], .joinDouble, by simp [step, text]⟩
    · by_cases he : isEscapable c = true
      · have hstep : step ⟨.doubleEscaped, words, word⟩ c = add ⟨.doubleEscaped, words, word⟩ .double [c] := by
          simp [step, hn, he]
        rw [hstep]
        exact ⟨[c], .escapedDouble he hn, text_add _ _ _⟩
      · have hstep : step ⟨.doubleEscaped, words, word⟩ c = add ⟨.doubleEscaped, words, word⟩ .double ['\\', c] := by
          simp [step, hn, he]
        rw [hstep]
        exact ⟨['\\', c], .backslash (by simpa using he), text_add _ _ _⟩

end Splitter

section

variable {quoting quoting' : Quoting} {c : Char} {out : List Char}

private theorem Takes.count_single_le (h : Takes quoting c out quoting') : out.count '\'' ≤ [c].count '\'' := by
  cases h <;> simp [List.count_cons]

/-- Unless a single quote is lost, no single quotes begin, and every backslash and every double quote in the words has
been paid for with a backslash. -/
private theorem Takes.weight_le (h : Takes quoting c out quoting') (hquoting : quoting ≠ .single)
    (hsingle : out.count '\'' = [c].count '\'') :
    quoting' ≠ .single ∧
      out.count '\\' + out.count '"' + quoting'.owed ≤ [c].count '\\' + quoting.owed := by
  cases h with
  | openSingle => simp at hsingle
  | closeSingle => exact absurd rfl hquoting
  | single _ => exact absurd rfl hquoting
  | separate hs => exact ⟨nofun, by simp [Quoting.owed]⟩
  | keep hp =>
    obtain ⟨-, hb, -, hd⟩ := isPlain_iff.1 hp
    exact ⟨nofun, by simp [Quoting.owed, hb, hd]⟩
  | escape | openDouble | join | closeDouble | escapeDouble | joinDouble => exact ⟨nofun, by decide⟩
  | escaped hn =>
    refine ⟨nofun, ?_⟩
    by_cases hd : c = '"'
    · subst hd
      decide
    · simp [Quoting.owed, List.count_singleton, hd]
  | double hd hb => exact ⟨nofun, by simp [Quoting.owed, hb, hd]⟩
  | escapedDouble he hn =>
    refine ⟨nofun, ?_⟩
    by_cases hd : c = '"'
    · subst hd
      decide
    · simp [Quoting.owed, List.count_singleton, hd]
  | backslash he =>
    have hne : c ≠ '"' ∧ c ≠ '\\' := by
      constructor <;> rintro rfl <;> cases he
    exact ⟨nofun, by simp [Quoting.owed, hne.1, hne.2]⟩

/-- Without quotes, a single quote is lost. -/
theorem Takes.ne_single (h : Takes .plain c out quoting') (hsingle : out.count '\'' = [c].count '\'') :
    c ≠ '\'' := by
  rintro rfl
  cases h with
  | openSingle => simp at hsingle
  | separate hs => cases hs
  | keep hp => cases hp

/-- After a backslash, only a double quote is worth it. -/
theorem Takes.eq_double (h : Takes .escaped c out quoting')
    (hweight : out.count '\\' + out.count '"' + quoting'.owed = [c].count '\\' + Quoting.escaped.owed) : c = '"' := by
  by_contra hd
  cases h with
  | join => cases hweight
  | escaped _ =>
    simp [Quoting.owed, List.count_singleton, hd] at hweight

/-- Between double quotes too, unless the backslash stands for itself. -/
theorem Takes.double_or_harmless (h : Takes .doubleEscaped c out quoting')
    (hweight : out.count '\\' + out.count '"' + quoting'.owed = [c].count '\\' + Quoting.doubleEscaped.owed) :
    c = '"' ∨ isEscapable c = false := by
  by_cases hd : c = '"'
  · exact Or.inl hd
  · right
    cases h with
    | joinDouble => cases hweight
    | escapedDouble _ _ => simp [Quoting.owed, List.count_singleton, hd] at hweight
    | backslash he => exact he

end

section

variable {s : Splitter} {c : Char} {cs ds : List Char}

private theorem count_single_run_le (s : Splitter) (cs : List Char) :
    (s.run cs).text.count '\'' ≤ s.text.count '\'' + cs.count '\'' := by
  induction cs generalizing s with
  | nil => exact Nat.le_refl _
  | cons c cs ih =>
    obtain ⟨out, htakes, htext⟩ := s.takes_step c
    have hout := htakes.count_single_le
    have hrest := ih (s.step c)
    rw [htext, List.count_append] at hrest
    rw [Splitter.run_cons, ← List.singleton_append, List.count_append]
    omega

/-- A step of a run on which no single quote is lost loses none. -/
private theorem count_single_of_run {out : List Char} (htakes : Takes s.quoting c out (s.step c).quoting)
    (htext : (s.step c).text = s.text ++ out)
    (hsingle : (s.run (c :: cs)).text.count '\'' = s.text.count '\'' + (c :: cs).count '\'') :
    out.count '\'' = [c].count '\'' ∧
      ((s.step c).run cs).text.count '\'' = (s.step c).text.count '\'' + cs.count '\'' := by
  have hout := htakes.count_single_le
  have hrest := count_single_run_le (s.step c) cs
  rw [Splitter.run_cons, ← List.singleton_append, List.count_append] at hsingle
  rw [htext, List.count_append] at hrest ⊢
  omega

private theorem weight_run_le (hquoting : s.quoting ≠ .single)
    (hsingle : (s.run cs).text.count '\'' = s.text.count '\'' + cs.count '\'') :
    (s.run cs).weight ≤ s.weight + cs.count '\\' := by
  induction cs generalizing s with
  | nil => exact Nat.le_refl _
  | cons c cs ih =>
    obtain ⟨out, htakes, htext⟩ := s.takes_step c
    obtain ⟨hone, hsingle'⟩ := count_single_of_run htakes htext hsingle
    obtain ⟨hquoting', hweight⟩ := htakes.weight_le hquoting hone
    have hrest := ih hquoting' hsingle'
    have hstep : (s.step c).weight ≤ s.weight + [c].count '\\' := by
      simp only [Splitter.weight, htext, List.count_append]
      omega
    rw [Splitter.run_cons, ← List.singleton_append, List.count_append]
    omega

/-- Nothing is lost of what is still to come: no single quote, and no backslash without a double quote. -/
structure Tight (s : Splitter) (cs : List Char) : Prop where
  quoting : s.quoting ≠ .single
  ended : (s.run cs).quoting = .plain
  single : (s.run cs).text.count '\'' = s.text.count '\'' + cs.count '\''
  weight : (s.run cs).weight = s.weight + cs.count '\\'

/-- So nothing is lost by the next step, and nothing after it. -/
theorem Tight.cons (h : Tight s (c :: cs)) :
    Tight (s.step c) cs ∧ ∃ out, Takes s.quoting c out (s.step c).quoting ∧ out.count '\'' = [c].count '\'' ∧
      out.count '\\' + out.count '"' + (s.step c).quoting.owed = [c].count '\\' + s.quoting.owed := by
  obtain ⟨out, htakes, htext⟩ := s.takes_step c
  obtain ⟨hone, hsingle⟩ := count_single_of_run htakes htext h.single
  obtain ⟨hquoting, hle⟩ := htakes.weight_le h.quoting hone
  have hrest := weight_run_le hquoting hsingle
  have hall := h.weight
  rw [Splitter.run_cons, ← List.singleton_append, List.count_append] at hall
  have hstep : (s.step c).weight =
      s.text.count '\\' + out.count '\\' + (s.text.count '"' + out.count '"') + (s.step c).quoting.owed := by
    simp only [Splitter.weight, htext, List.count_append]
  have hbefore : s.weight = s.text.count '\\' + s.text.count '"' + s.quoting.owed := rfl
  refine ⟨⟨hquoting, h.ended, hsingle, ?_⟩, out, htakes, hone, ?_⟩ <;> omega

theorem Tight.append (h : Tight s (cs ++ ds)) : Tight (s.run cs) ds := by
  induction cs generalizing s with
  | nil => exact h
  | cons c cs ih => exact ih h.cons.1

end

/-! ### Words that have begun -/

section

variable {words : List (List Char)}

/-- A step leaves the complete words alone and goes on with the word, or ends it. -/
private theorem words_step (s : Splitter) (c : Char) :
    ((s.step c).words = s.words ∧ ∀ w, s.word = some w → ∃ more, (s.step c).word = some (w ++ more)) ∨
      (s.step c).words = s.words ++ s.word.toList ∧ (s.step c).word = none := by
  have hadd (quoting : Quoting) (cs : List Char) :
      (s.add quoting cs).words = s.words ∧ ∀ w, s.word = some w → ∃ more, (s.add quoting cs).word = some (w ++ more) := by
    refine ⟨rfl, fun w hw => ⟨cs, ?_⟩⟩
    simp [Splitter.add, hw]
  have hsame (quoting : Quoting) : ({ s with quoting } : Splitter).words = s.words ∧
      ∀ w, s.word = some w → ∃ more, ({ s with quoting } : Splitter).word = some (w ++ more) :=
    ⟨rfl, fun w hw => ⟨[], by simp [hw]⟩⟩
  unfold Splitter.step
  split
  · split
    · exact Or.inr ⟨rfl, rfl⟩
    · left
      repeat' split
      all_goals first | exact hsame _ | exact hadd _ _
  all_goals
    left
    repeat' split
    all_goals first | exact hsame _ | exact hadd _ _

private theorem words_run (s : Splitter) (cs : List Char) : ∃ others, (s.run cs).all = s.words ++ others := by
  induction cs generalizing s with
  | nil => exact ⟨s.word.toList, rfl⟩
  | cons c cs ih =>
    obtain ⟨others, hothers⟩ := ih (s.step c)
    rw [Splitter.run_cons, hothers]
    rcases words_step s c with ⟨hwords, -⟩ | ⟨hwords, -⟩
    · exact ⟨others, by rw [hwords]⟩
    · exact ⟨s.word.toList ++ others, by rw [hwords, List.append_assoc]⟩

/-- What has been read of a word stays the beginning of a word. -/
theorem word_run {s : Splitter} {w : List Char} (hw : s.word = some w) (cs : List Char) :
    ∃ more others, (s.run cs).all = s.words ++ (w ++ more) :: others := by
  induction cs generalizing s w with
  | nil => exact ⟨[], [], by simp [Splitter.all, hw]⟩
  | cons c cs ih =>
    rw [Splitter.run_cons]
    rcases words_step s c with ⟨hwords, hmore⟩ | ⟨hwords, -⟩
    · obtain ⟨more, hword⟩ := hmore w hw
      obtain ⟨more', others, hall⟩ := ih hword
      exact ⟨more ++ more', others, by rw [hall, hwords, List.append_assoc]⟩
    · obtain ⟨others, hall⟩ := words_run (s.step c) cs
      exact ⟨[], others, by rw [hall, hwords, hw]; simp⟩

/-- A backslash that is still owed may as well stand for itself. -/
theorem Tight.of_doubleEscaped {c : Char} {w cs : List Char} (hc : isEscapable c = false)
    (h : Tight ⟨.doubleEscaped, words, some w⟩ (c :: cs)) : Tight ⟨.double, words, some (w ++ ['\\'])⟩ (c :: cs) := by
  have hrun : Splitter.run ⟨.doubleEscaped, words, some w⟩ (c :: cs) =
      Splitter.run ⟨.double, words, some (w ++ ['\\'])⟩ (c :: cs) :=
    congrArg (Splitter.run · cs) (step_doubleEscaped hc w)
  obtain ⟨-, hended, hsingle, hweight⟩ := h
  rw [hrun] at hended hsingle hweight
  refine ⟨nofun, hended, ?_, ?_⟩
  · rw [hsingle]
    simp [Splitter.text]
  · rw [hweight]
    simp only [Splitter.weight, Splitter.text, Option.getD_some, List.count_append, Quoting.owed]
    simp
    omega

end

end Attendant.Launch

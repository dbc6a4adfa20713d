import Attendant.Launch
import Attendant.Proofs.Launch.Words

/-!
# The line for the shell

What a shell makes of the line that it is handed. An argument comes through (`ComesThrough`) if the line that it stands
on gives it back: between quotes each backslash in it has to stand before a character that it does not quote, and
without quotes there may be no backslash and no single quote in it. The key fact is `split_line_iff`: the shell gets the
command and the arguments exactly if all of them come through.

One direction reads the line argument by argument. For the other the characters are counted: on the whole line there are
as many single quotes as in the arguments, and as many backslashes as there are backslashes and double quotes in them.
So none may be lost at any step (`Tight`), and what does not come through loses one.
-/

namespace Attendant.Launch

/-- Each backslash stands before a character that it does not quote between double quotes. -/
def Harmless (arg : List Char) : Prop :=
  ∀ before rest, arg = before ++ '\\' :: rest → ∃ c ∈ rest.head?, isEscapable c = false

/-- Whether an argument reaches the worker as it is. -/
def ComesThrough (arg : List Char) : Prop :=
  if needsQuotes arg then Harmless arg else '\'' ∉ arg ∧ '\\' ∉ arg

private theorem harmless_cons {c : Char} {arg : List Char} :
    Harmless (c :: arg) ↔ (c = '\\' → ∃ d ∈ arg.head?, isEscapable d = false) ∧ Harmless arg := by
  constructor
  · intro h
    refine ⟨?_, ?_⟩
    · rintro rfl
      exact h [] arg rfl
    · rintro before rest rfl
      exact h (c :: before) rest rfl
  · rintro ⟨hc, harg⟩ before rest he
    cases before with
    | nil =>
      obtain ⟨rfl, rfl⟩ := List.cons.inj he
      exact hc rfl
    | cons b before =>
      obtain ⟨rfl, rfl⟩ := List.cons.inj he
      exact harg before rest rfl

instance decidableHarmless : (arg : List Char) → Decidable (Harmless arg)
  | [] => isTrue fun before rest he => by simp at he
  | _ :: arg =>
    have : Decidable (∃ d ∈ arg.head?, isEscapable d = false) :=
      decidable_of_iff (arg.head?.any (!isEscapable ·) = true) (by simp [Option.any_eq_true])
    have := decidableHarmless arg
    decidable_of_iff _ harmless_cons.symm

instance : DecidablePred ComesThrough := fun arg =>
  inferInstanceAs (Decidable (if needsQuotes arg then Harmless arg else '\'' ∉ arg ∧ '\\' ∉ arg))

/-! ### An argument that comes through -/

section

variable {words : List (List Char)} {arg : List Char}

/-- The characters of an argument between quotes. -/
def escape (arg : List Char) : List Char := arg.flatMap fun c => if c = '"' then ['\\', '"'] else [c]

private theorem escape_cons_quote (arg : List Char) : escape ('"' :: arg) = '\\' :: '"' :: escape arg := rfl

private theorem escape_cons {c : Char} (h : c ≠ '"') (arg : List Char) : escape (c :: arg) = c :: escape arg := by
  simp [escape, h]

private theorem lineArg_quoted (h : needsQuotes arg = true) : lineArg arg = '"' :: (escape arg ++ ['"']) := by
  simp [lineArg, h, quoteArg, escape]

private theorem lineArg_bare (h : needsQuotes arg = false) : lineArg arg = arg := by
  simp [lineArg, h]

private theorem isSeparator_of_not_blank {c : Char} (h : Text.isBlankChar c = false) : isSeparator c = false := by
  by_contra hs
  have hcases : (c = ' ' ∨ c = '\t') ∨ c = '\n' := by simpa [isSeparator, or_iff_not_imp_left] using hs
  rcases hcases with (rfl | rfl) | rfl <;> cases h

private theorem run_escape (h : Harmless arg) (w : List Char) :
    Splitter.run ⟨.double, words, some w⟩ (escape arg) = ⟨.double, words, some (w ++ arg)⟩ := by
  induction arg generalizing w with
  | nil => simp [escape]
  | cons c arg ih =>
    obtain ⟨hc, harg⟩ := harmless_cons.1 h
    by_cases hquote : c = '"'
    · subst hquote
      have hstep : Splitter.run ⟨.double, words, some w⟩ ('\\' :: '"' :: escape arg) =
          Splitter.run ⟨.double, words, some (w ++ ['"'])⟩ (escape arg) := rfl
      rw [escape_cons_quote, hstep, ih harg]
      simp
    · rw [escape_cons hquote, Splitter.run_cons]
      by_cases hback : c = '\\'
      · subst hback
        obtain ⟨d, hfirst, hd⟩ := hc rfl
        obtain ⟨more, rfl⟩ : ∃ more, arg = d :: more := ⟨_, List.eq_cons_of_mem_head? hfirst⟩
        have hne : d ≠ '"' := by
          rintro rfl
          cases hd
        have hstep : Splitter.step ⟨.double, words, some w⟩ '\\' = ⟨.doubleEscaped, words, some w⟩ := rfl
        have hmore := ih harg (w ++ ['\\'])
        rw [escape_cons hne, Splitter.run_cons] at hmore
        rw [hstep, escape_cons hne, Splitter.run_cons, step_doubleEscaped hd, hmore]
        simp
      · have hstep : Splitter.step ⟨.double, words, some w⟩ c = ⟨.double, words, some (w ++ [c])⟩ := by
          simp [Splitter.step, Splitter.add, hquote, hback]
        rw [hstep, ih harg]
        simp

private theorem needsQuotes_eq_false (h : needsQuotes arg = false) :
    arg ≠ [] ∧ ∀ c ∈ arg, Text.isBlankChar c = false ∧ c ≠ '"' := by
  simp only [needsQuotes, Bool.or_eq_false_iff, List.isEmpty_eq_false_iff, List.any_eq_false, Bool.or_eq_true,
    decide_eq_true_eq, not_or, Bool.not_eq_true] at h
  exact h

private theorem run_lineArg (h : ComesThrough arg) (w : List Char) :
    Splitter.run ⟨.plain, words, some w⟩ (' ' :: lineArg arg) = ⟨.plain, words ++ [w], some arg⟩ := by
  have hspace : Splitter.step ⟨.plain, words, some w⟩ ' ' = ⟨.plain, words ++ [w], none⟩ := rfl
  rw [Splitter.run_cons, hspace]
  unfold ComesThrough at h
  by_cases hq : needsQuotes arg = true
  · rw [if_pos hq] at h
    have hopen : Splitter.step ⟨.plain, words ++ [w], none⟩ '"' = ⟨.double, words ++ [w], some []⟩ := rfl
    rw [lineArg_quoted hq, Splitter.run_cons, hopen, Splitter.run_append, run_escape h]
    rfl
  · have hbare : needsQuotes arg = false := Bool.eq_false_iff.2 hq
    rw [if_neg hq] at h
    obtain ⟨hne, hchars⟩ := needsQuotes_eq_false hbare
    have hplain : ∀ c ∈ arg, isPlain c = true := by
      intro c hc
      obtain ⟨hblank, hdouble⟩ := hchars c hc
      refine isPlain_iff.2 ⟨isSeparator_of_not_blank hblank, ?_, ?_, hdouble⟩
      · rintro rfl
        exact h.2 hc
      · rintro rfl
        exact h.1 hc
    rw [lineArg_bare hbare, run_plain hne hplain]
    rfl

end

/-! ### An argument of which nothing is lost -/

section

variable {words : List (List Char)} {arg rest : List Char}

private theorem harmless_of_tight {w : List Char} {others : List (List Char)}
    (h : Tight ⟨.double, words, some w⟩ (escape arg ++ '"' :: rest))
    (hall : (Splitter.run ⟨.double, words, some w⟩ (escape arg ++ '"' :: rest)).all = words ++ (w ++ arg) :: others) :
    Harmless arg := by
  induction arg generalizing w with
  | nil =>
    intro before rest he
    simp at he
  | cons c arg ih =>
    by_cases hquote : c = '"'
    · subst hquote
      have hstep : Splitter.run ⟨.double, words, some w⟩ ['\\', '"'] = ⟨.double, words, some (w ++ ['"'])⟩ := rfl
      have hline : escape ('"' :: arg) ++ '"' :: rest = ['\\', '"'] ++ (escape arg ++ '"' :: rest) := rfl
      rw [hline] at h hall
      have htight := h.append
      rw [Splitter.run_append] at hall
      rw [hstep] at htight hall
      exact harmless_cons.2 ⟨nofun, ih htight (by rw [hall]; simp)⟩
    · rw [escape_cons hquote, List.cons_append] at h hall
      have htight := h.cons.1
      rw [Splitter.run_cons] at hall
      by_cases hback : c = '\\'
      · subst hback
        have hstep : Splitter.step ⟨.double, words, some w⟩ '\\' = ⟨.doubleEscaped, words, some w⟩ := rfl
        rw [hstep] at htight hall
        cases arg with
        | nil =>
          -- the closing quote is taken for one of the word
          have hnext : Splitter.step ⟨.doubleEscaped, words, some w⟩ '"' = ⟨.double, words, some (w ++ ['"'])⟩ := rfl
          obtain ⟨more, others', hrun⟩ :=
            word_run (s := ⟨.double, words, some (w ++ ['"'])⟩) (rfl : _ = some (w ++ ['"'])) rest
          rw [show escape [] ++ '"' :: rest = '"' :: rest from rfl, Splitter.run_cons, hnext, hrun] at hall
          simp at hall
        | cons d arg =>
          by_cases hd : d = '"'
          · -- what quotes the double quote is quoted itself
            subst hd
            obtain ⟨-, out, htakes, -, hweight⟩ :=
              (show Tight ⟨.doubleEscaped, words, some w⟩ ('\\' :: '"' :: (escape arg ++ '"' :: rest)) from htight).cons
            rcases htakes.double_or_harmless hweight with he | he <;> cases he
          · rw [escape_cons hd, List.cons_append] at htight hall
            obtain ⟨-, out, htakes, -, hweight⟩ := htight.cons
            have hharmless := (htakes.double_or_harmless hweight).resolve_left hd
            have htight' := htight.of_doubleEscaped hharmless
            rw [Splitter.run_cons, step_doubleEscaped hharmless, ← Splitter.run_cons] at hall
            rw [← List.cons_append, ← escape_cons hd] at htight' hall
            refine harmless_cons.2 ⟨fun _ => ⟨d, rfl, hharmless⟩, ih htight' ?_⟩
            rw [hall]
            simp
      · have hstep : Splitter.step ⟨.double, words, some w⟩ c = ⟨.double, words, some (w ++ [c])⟩ := by
          simp [Splitter.step, Splitter.add, hquote, hback]
        rw [hstep] at htight hall
        exact harmless_cons.2 ⟨fun he => absurd he hback, ih htight (by rw [hall]; simp)⟩

private theorem bare_of_tight {word : Option (List Char)} (hchars : ∀ c ∈ arg, Text.isBlankChar c = false ∧ c ≠ '"')
    (hrest : rest = [] ∨ ∃ more, rest = ' ' :: more) (h : Tight ⟨.plain, words, word⟩ (arg ++ rest)) :
    '\'' ∉ arg ∧ '\\' ∉ arg := by
  induction arg generalizing word with
  | nil => exact ⟨nofun, nofun⟩
  | cons c arg ih =>
    obtain ⟨hblank, hdouble⟩ := hchars c List.mem_cons_self
    have hchars' : ∀ c ∈ arg, Text.isBlankChar c = false ∧ c ≠ '"' := fun d hd => hchars d (List.mem_cons_of_mem _ hd)
    obtain ⟨htight, out, htakes, hone, -⟩ := (show Tight _ (c :: (arg ++ rest)) from h).cons
    have hsingle : c ≠ '\'' := htakes.ne_single hone
    have hback : c ≠ '\\' := by
      rintro rfl
      have hstep : Splitter.step ⟨.plain, words, word⟩ '\\' = ⟨.escaped, words, word⟩ := rfl
      rw [hstep] at htight
      -- no double quote comes after it
      have hnext : ∀ d more, arg ++ rest = d :: more → d ≠ '"' := by
        intro d more he
        cases arg with
        | nil =>
          rcases hrest with rfl | ⟨more', rfl⟩
          · cases he
          · cases he
            decide
        | cons e arg =>
          obtain ⟨rfl, -⟩ := List.cons.inj he
          exact (hchars' e List.mem_cons_self).2
      cases hline : arg ++ rest with
      | nil =>
        rw [hline] at htight
        cases htight.ended
      | cons d more =>
        rw [hline] at htight
        obtain ⟨-, out', htakes', -, hweight⟩ := htight.cons
        exact hnext d more hline (htakes'.eq_double hweight)
    have hplain : isPlain c = true := isPlain_iff.2 ⟨isSeparator_of_not_blank hblank, hback, hsingle, hdouble⟩
    have hstep : Splitter.run ⟨.plain, words, word⟩ [c] = ⟨.plain, words, some (word.getD [] ++ [c])⟩ :=
      run_plain nofun (by simpa using hplain)
    rw [Splitter.run_cons, Splitter.run_nil] at hstep
    rw [hstep] at htight
    obtain ⟨hsingles, hbacks⟩ := ih hchars' htight
    exact ⟨List.not_mem_cons_of_ne_of_not_mem hsingle.symm hsingles,
      List.not_mem_cons_of_ne_of_not_mem hback.symm hbacks⟩

/-- An argument that is the next word, while nothing is lost, comes through. -/
private theorem comesThrough_of_tight {w : List Char} {others : List (List Char)}
    (hrest : rest = [] ∨ ∃ more, rest = ' ' :: more)
    (h : Tight ⟨.plain, words, some w⟩ (' ' :: (lineArg arg ++ rest)))
    (hall : (Splitter.run ⟨.plain, words, some w⟩ (' ' :: (lineArg arg ++ rest))).all = words ++ w :: arg :: others) :
    ComesThrough arg := by
  have hspace : Splitter.step ⟨.plain, words, some w⟩ ' ' = ⟨.plain, words ++ [w], none⟩ := rfl
  have htight := h.cons.1
  rw [Splitter.run_cons] at hall
  rw [hspace] at htight hall
  unfold ComesThrough
  by_cases hq : needsQuotes arg = true
  · rw [if_pos hq]
    have hopen : Splitter.step ⟨.plain, words ++ [w], none⟩ '"' = ⟨.double, words ++ [w], some []⟩ := rfl
    have hline : lineArg arg ++ rest = '"' :: (escape arg ++ '"' :: rest) := by simp [lineArg_quoted hq]
    rw [hline] at htight hall
    have htight' := htight.cons.1
    rw [Splitter.run_cons] at hall
    rw [hopen] at htight' hall
    have hall' : (Splitter.run ⟨.double, words ++ [w], some []⟩ (escape arg ++ '"' :: rest)).all =
        (words ++ [w]) ++ ([] ++ arg) :: others := by
      rw [hall]
      simp
    exact harmless_of_tight htight' hall'
  · rw [if_neg hq]
    have hbare : needsQuotes arg = false := Bool.eq_false_iff.2 hq
    rw [lineArg_bare hbare] at htight
    exact bare_of_tight (needsQuotes_eq_false hbare).2 hrest htight

end

/-! ### The whole line -/

section

variable {words : List (List Char)}

/-- The arguments as they stand on the line. -/
def lineArgs (args : List (List Char)) : List Char := args.flatMap fun arg => ' ' :: lineArg arg

private theorem lineArgs_cons (arg : List Char) (args : List (List Char)) :
    lineArgs (arg :: args) = ' ' :: (lineArg arg ++ lineArgs args) := by
  simp [lineArgs]

private theorem lineArgs_eq (args : List (List Char)) : lineArgs args = [] ∨ ∃ more, lineArgs args = ' ' :: more := by
  cases args with
  | nil => exact Or.inl rfl
  | cons arg args => exact Or.inr ⟨_, lineArgs_cons arg args⟩

private theorem run_lineArgs {args : List (List Char)} (h : ∀ arg ∈ args, ComesThrough arg) (w : List Char) :
    (Splitter.run ⟨.plain, words, some w⟩ (lineArgs args)).quoting = .plain ∧
      (Splitter.run ⟨.plain, words, some w⟩ (lineArgs args)).all = words ++ w :: args := by
  induction args generalizing words w with
  | nil => exact ⟨rfl, rfl⟩
  | cons arg args ih =>
    have hrest : ∀ a ∈ args, ComesThrough a := fun a ha => h a (List.mem_cons_of_mem _ ha)
    obtain ⟨hplain, hall⟩ := @ih (words ++ [w]) hrest arg
    rw [lineArgs_cons, ← List.cons_append, Splitter.run_append, run_lineArg (h arg List.mem_cons_self)]
    exact ⟨hplain, by rw [hall]; simp⟩

private theorem count_escape (arg : List Char) :
    (escape arg).count '\'' = arg.count '\'' ∧ (escape arg).count '\\' = arg.count '\\' + arg.count '"' := by
  induction arg with
  | nil => exact ⟨rfl, rfl⟩
  | cons c arg ih =>
    obtain ⟨hsingle, hback⟩ := ih
    by_cases hquote : c = '"'
    · subst hquote
      rw [escape_cons_quote]
      simp only [List.count_cons, hsingle, hback]
      simp
      omega
    · rw [escape_cons hquote]
      simp only [List.count_cons, hsingle, hback]
      simp [hquote]
      omega

private theorem count_lineArg (arg : List Char) :
    (lineArg arg).count '\'' = arg.count '\'' ∧ (lineArg arg).count '\\' = arg.count '\\' + arg.count '"' := by
  by_cases hq : needsQuotes arg = true
  · obtain ⟨hsingle, hback⟩ := count_escape arg
    rw [lineArg_quoted hq]
    simp [hsingle, hback]
  · have hbare : needsQuotes arg = false := Bool.eq_false_iff.2 hq
    have hnone : arg.count '"' = 0 :=
      List.count_eq_zero.2 fun hmem => ((needsQuotes_eq_false hbare).2 _ hmem).2 rfl
    rw [lineArg_bare hbare, hnone]
    exact ⟨rfl, rfl⟩

/-- The line has the single quotes of the arguments, and a backslash for each backslash and each double quote. -/
private theorem count_lineArgs (args : List (List Char)) :
    (lineArgs args).count '\'' = args.flatten.count '\'' ∧
      (lineArgs args).count '\\' = args.flatten.count '\\' + args.flatten.count '"' := by
  induction args with
  | nil => exact ⟨rfl, rfl⟩
  | cons arg args ih =>
    obtain ⟨hsingle, hback⟩ := count_lineArg arg
    rw [lineArgs_cons]
    simp only [List.count_cons, List.count_append, List.flatten_cons, hsingle, hback, ih.1, ih.2]
    simp
    omega

private theorem tight_lineArgs {args : List (List Char)} {w : List Char}
    (hplain : (Splitter.run ⟨.plain, words, some w⟩ (lineArgs args)).quoting = .plain)
    (hall : (Splitter.run ⟨.plain, words, some w⟩ (lineArgs args)).all = words ++ w :: args) :
    Tight ⟨.plain, words, some w⟩ (lineArgs args) := by
  obtain ⟨hsingle, hback⟩ := count_lineArgs args
  have htext : (Splitter.run ⟨.plain, words, some w⟩ (lineArgs args)).text = words.flatten ++ w ++ args.flatten := by
    rw [← Splitter.flatten_all, hall]
    simp
  have hbefore : Splitter.text ⟨.plain, words, some w⟩ = words.flatten ++ w := rfl
  refine ⟨nofun, hplain, ?_, ?_⟩
  · rw [htext, hsingle, List.count_append, hbefore]
  · simp only [Splitter.weight, htext, hplain, hback, hbefore, List.count_append]
    omega

private theorem comesThrough_of_run {args : List (List Char)} {w : List Char}
    (hplain : (Splitter.run ⟨.plain, words, some w⟩ (lineArgs args)).quoting = .plain)
    (hall : (Splitter.run ⟨.plain, words, some w⟩ (lineArgs args)).all = words ++ w :: args) :
    ∀ arg ∈ args, ComesThrough arg := by
  induction args generalizing words w with
  | nil => exact nofun
  | cons arg args ih =>
    have htight := tight_lineArgs hplain hall
    rw [lineArgs_cons] at htight hplain hall
    have hfirst : ComesThrough arg := comesThrough_of_tight (lineArgs_eq args) htight hall
    rw [← List.cons_append, Splitter.run_append, run_lineArg hfirst] at hplain hall
    intro a ha
    rcases List.mem_cons.1 ha with rfl | ha
    · exact hfirst
    · exact ih hplain (by rw [hall]; simp) a ha

end

/-- The characters that a shell does something else with than taking a line apart at them: it expands, matches names of
files, runs more than one command, redirects or leaves out the rest. -/
def isForeign (c : Char) : Bool := "$\x60|&;<>()*?[]#~=%!\x7b\x7d\x00".toList.contains c

/-- A shell that is handed the line of a launch gets its command and its arguments, in their order and character by
character, exactly if each argument comes through: without quotes it may have no backslash and no single quote, and
between quotes each of its backslashes has to stand before a character that it does not quote. -/
theorem split_line_iff (l : Launch) (hne : l.command ≠ "") (hcommand : ∀ c ∈ l.command.toList, isPlain c = true) :
    split l.line = some (l.command :: l.args) ↔ ∀ arg ∈ l.args, ComesThrough arg.toList := by
  have hne' : l.command.toList ≠ [] := by
    intro hnil
    exact hne (String.toList_inj.1 hnil)
  have hargs : l.args.flatMap (fun arg => ' ' :: lineArg arg.toList) = lineArgs (l.args.map String.toList) := by
    simp [lineArgs, List.flatMap_map]
  have hrun : Splitter.run {} l.line.toList =
      Splitter.run ⟨.plain, [], some l.command.toList⟩ (lineArgs (l.args.map String.toList)) := by
    rw [line, String.toList_ofList, hargs, Splitter.run_append]
    exact congrArg (Splitter.run · _) (run_plain hne' hcommand : Splitter.run {} l.command.toList = _)
  have hwords (s : Splitter) : s.all.map String.ofList = l.command :: l.args ↔
      s.all = [] ++ l.command.toList :: l.args.map String.toList := by
    constructor
    · intro h
      have hback := congrArg (List.map String.toList) h
      simpa [Function.comp_def] using hback
    · intro h
      rw [h]
      simp [Function.comp_def]
  constructor
  · intro h
    unfold split at h
    simp only [hrun] at h
    split at h
    · rename_i hplain
      have hall := (hwords _).1 (Option.some.inj h)
      intro arg harg
      exact comesThrough_of_run hplain hall _ (List.mem_map_of_mem harg)
    · cases h
  · intro h
    have hall : ∀ arg ∈ l.args.map String.toList, ComesThrough arg := by
      intro arg harg
      obtain ⟨a, ha, rfl⟩ := List.mem_map.1 harg
      exact h a ha
    obtain ⟨hplain, hrunall⟩ := @run_lineArgs [] _ hall l.command.toList
    unfold split
    simp only [hrun]
    rw [if_pos hplain, (hwords _).2 hrunall]

/-- Arguments with blanks and double quotes come through, and so does a backslash before a blank. -/
theorem split_line_iff_blanks :
    let l : Launch := ⟨"nls", ["--stdio", "my dir", "", "say \"hi\"", "a\\ b"], true, none⟩
    l.command ≠ "" ∧ (∀ c ∈ l.command.toList, isPlain c = true) ∧ split l.line = some (l.command :: l.args) := by
  intro l
  have hne : l.command ≠ "" := by decide
  have hcommand : ∀ c ∈ l.command.toList, isPlain c = true := List.all_eq_true.1 (by decide)
  exact ⟨hne, hcommand, (split_line_iff l hne hcommand).2 (by decide)⟩

/-- A backslash that loses its meaning takes an argument into the one after it. -/
example : split (line ⟨"nls", ["x \\", "y", "z \\"], true, none⟩) = some ["nls", "x \" y z", "\""] := by
  decide +kernel

/-- So not all arguments come through, even if nothing in them is special to a shell but quotes and backslashes: of these
two, one loses its quotes, and one its backslash. -/
theorem not_all_come_through : ¬∀ l : Launch, l.command ≠ "" →
    (∀ c ∈ l.command.toList, isPlain c = true ∧ isForeign c = false) →
    (∀ arg ∈ l.args, ∀ c ∈ arg.toList, isForeign c = false) → split l.line = some (l.command :: l.args) := by
  intro h
  have hcommand : ∀ c ∈ "nls".toList, isPlain c = true ∧ isForeign c = false := by
    have hall : ("nls".toList.all fun c => isPlain c && !isForeign c) = true := by decide
    simpa only [List.all_eq_true, Bool.and_eq_true, Bool.not_eq_true'] using hall
  have hargs : ∀ arg ∈ ["'a'", "a\\b"], ∀ c ∈ arg.toList, isForeign c = false := by
    have hall : (["'a'", "a\\b"].all fun arg => arg.toList.all fun c => !isForeign c) = true := by decide
    simpa only [List.all_eq_true, Bool.not_eq_true'] using hall
  have hsame := h ⟨"nls", ["'a'", "a\\b"], true, none⟩ (by decide) hcommand hargs
  have hlost : split (line ⟨"nls", ["'a'", "a\\b"], true, none⟩) = some ["nls", "a", "ab"] := by decide +kernel
  rw [hlost] at hsame
  exact absurd hsame (by decide)

end Attendant.Launch

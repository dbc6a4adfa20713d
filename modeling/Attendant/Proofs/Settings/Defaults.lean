import Attendant.Proofs.Settings.References
import Attendant.Settings

/-!
# Blank settings

Three settings have a text that has to say something: the path of the worker, the method that asks for the log, and the
name of the language. What becomes of a blank one is not the same for the three. A blank method counts as one that is
left out. So does a path that is blank as it is written; but one that only its references make blank is the command that
the worker is started with, and the check of the launch refuses it. The name of the language is taken as it is written.
The key fact is `Settings.resolve_blank`, which says this exactly; so a blank setting does not always mean the default
(`not_always_default`).
-/

namespace Attendant

/-- The language that a file says if its table leaves out the name. -/
def Language.unnamed : Option Language → Option Language
  | none => none
  | some _ => Language.ofFields? [none]

namespace Settings

/-! ### Keys that are left out -/

/-- The same settings with the path of the worker left out. -/
def withoutPath (s : Settings) : Settings := { s with worker := s.worker.map fun w => { w with path := none } }

/-- The same settings with the method that asks for the log left out. -/
def withoutMethod (s : Settings) : Settings :=
  { s with worker := s.worker.map fun w => { w with logPathMethod := none } }

/-- The same settings with the name of the language left out. -/
def withoutName (s : Settings) : Settings := { s with language := Language.unnamed s.language }

/-- The path of the worker as it is written, if it is. -/
def path? (s : Settings) : Option String := s.worker >>= WorkerSettings.path

/-- The method that asks for the log as it is written, if it is. -/
def method? (s : Settings) : Option String := s.worker >>= WorkerSettings.logPathMethod

/-- The name of the language as it is written, if it is. -/
def name? (s : Settings) : Option String := s.language.map Language.displayName

section

variable (env : Environment) (here : Path) (s : Settings)

/-! ### What the three settings come to -/

private theorem command_resolve : (resolve env here s).launch.command = command env s.path? := by
  cases hw : s.worker <;> simp [resolve, path?, hw]

private theorem displayName_resolve :
    (resolve env here s).language.displayName = s.name?.getD Language.defaultName := by
  cases hl : s.language <;> simp [resolve, name?, hl, Language.standard]

/-- The path decides about the command and about nothing else. -/
private theorem resolve_withoutPath :
    resolve env here s.withoutPath =
      { resolve env here s with launch := { (resolve env here s).launch with command := defaultCommand } } := by
  cases hw : s.worker <;> simp [resolve, withoutPath, command, hw]

/-- The name decides about the language and about nothing else. -/
private theorem resolve_withoutName :
    resolve env here s.withoutName = { resolve env here s with language := .standard } := by
  cases hl : s.language <;>
    simp [resolve, withoutName, Language.unnamed, Language.ofFields?, Value.orDefault, Language.standard, hl]

/-- A path makes no difference exactly if it comes to the command that there is without one. -/
theorem resolve_withoutPath_iff :
    resolve env here s = resolve env here s.withoutPath ↔ command env s.path? = defaultCommand := by
  rw [resolve_withoutPath, ← command_resolve env here s]
  constructor
  · intro h
    exact congrArg (fun plan => plan.launch.command) h
  · intro h
    rw [← h]

/-- A name makes no difference exactly if it is the one that there is without it. -/
theorem resolve_withoutName_iff :
    resolve env here s = resolve env here s.withoutName ↔ s.name?.getD Language.defaultName = Language.defaultName := by
  rw [resolve_withoutName, ← displayName_resolve env here s]
  constructor
  · intro h
    exact congrArg (fun plan => plan.language.displayName) h
  · intro h
    have hlanguage : (resolve env here s).language = .standard := by
      rw [Language.standard, ← h]
    rw [← hlanguage]

/-- A method that is blank counts as none. -/
theorem resolve_withoutMethod {method : String} (hm : s.method? = some method) (hb : Text.isBlank method = true) :
    resolve env here s = resolve env here s.withoutMethod := by
  obtain ⟨worker, hw, hmethod⟩ := Option.bind_eq_some_iff.1 hm
  simp [resolve, withoutMethod, hw, hmethod, hb]

/-- So there always is one. -/
theorem logPathMethod_not_blank : Text.isBlank (resolve env here s).logPathMethod = false := by
  have hdefault : Text.isBlank defaultLogPathMethod = false := by decide
  simp only [resolve]
  split
  · split
    · exact hdefault
    · rename_i hblank
      exact Bool.eq_false_iff.2 hblank
  · exact hdefault

end

/-! ### Blank commands and blank names -/

private theorem isBlank_command_iff (env : Environment) (path? : Option String) :
    Text.isBlank (command env path?) = true ↔
      ∃ path, path? = some path ∧ Text.isBlank path = false ∧ Text.isBlank (expand env path) = true := by
  have hdefault : Text.isBlank defaultCommand = false := by decide
  cases path? with
  | none => simp [command, hdefault]
  | some path =>
    by_cases hblank : Text.isBlank path = true
    · simp [command, hblank, hdefault]
    · simp [command, hblank]

private theorem check_eq_error_iff (l : Launch) : l.check = .error .emptyCommand ↔ Text.isBlank l.command = true := by
  unfold Launch.check
  split <;> simp [*]

/-- What blank settings come to. A blank method counts as none, so there always is one. A path counts as none if it is
blank as it is written (or says what would be taken anyway); if only its references make it blank, the command is blank,
and this is the only way to a launch that is refused. A name that is written is the name, so it is blank if it is written
so. -/
theorem resolve_blank (env : Environment) (here : Path) (s : Settings) :
    ((∀ method, s.method? = some method → Text.isBlank method = true →
        resolve env here s = resolve env here s.withoutMethod) ∧
      Text.isBlank (resolve env here s).logPathMethod = false) ∧
    ((∀ path, s.path? = some path → (resolve env here s = resolve env here s.withoutPath ↔
        Text.isBlank path = true ∨ expand env path = defaultCommand)) ∧
      ((resolve env here s).launch.check = .error .emptyCommand ↔
        ∃ path, s.path? = some path ∧ Text.isBlank path = false ∧ Text.isBlank (expand env path) = true)) ∧
    (∀ name, s.name? = some name →
        (resolve env here s = resolve env here s.withoutName ↔ name = Language.defaultName)) ∧
      (Text.isBlank (resolve env here s).language.displayName = true ↔
        ∃ name, s.name? = some name ∧ Text.isBlank name = true) := by
  refine ⟨⟨?_, logPathMethod_not_blank env here s⟩, ⟨?_, ?_⟩, ?_, ?_⟩
  · intro method hm hb
    exact resolve_withoutMethod env here s hm hb
  · intro path hp
    rw [resolve_withoutPath_iff, hp]
    by_cases hblank : Text.isBlank path = true
    · simp [command, hblank]
    · simp [command, hblank]
  · rw [check_eq_error_iff, command_resolve, isBlank_command_iff]
  · intro name hn
    rw [resolve_withoutName_iff, hn, Option.getD_some]
  · rw [displayName_resolve]
    have hdefault : Text.isBlank Language.defaultName = false := by decide
    cases hn : s.name? with
    | none => simp [hdefault]
    | some name => simp

/-- Settings with a path that is a reference, a blank method and a blank name. -/
def vague : Settings where
  language := some ⟨" "⟩
  worker := some { path := some "$\x7bX\x7d", logPathMethod := some "\t" }

private theorem expand_vague : expand ⟨[]⟩ "$\x7bX\x7d" = "" := by
  decide +kernel

/-- Where the variable is not set, the method is the usual one, the launch is refused, and the name is blank. -/
theorem resolve_blank_vague (here : Path) :
    resolve ⟨[]⟩ here vague = resolve ⟨[]⟩ here vague.withoutMethod ∧
      (resolve ⟨[]⟩ here vague).launch.check = .error .emptyCommand ∧
      Text.isBlank (resolve ⟨[]⟩ here vague).language.displayName = true := by
  obtain ⟨⟨hmethod, -⟩, ⟨-, hcheck⟩, -, hname⟩ := resolve_blank ⟨[]⟩ here vague
  refine ⟨hmethod "\t" rfl (by decide), hcheck.2 ⟨_, rfl, by decide, ?_⟩, hname.2 ⟨" ", rfl, by decide⟩⟩
  rw [expand_vague]
  decide

/-- So a blank setting does not always mean the default: not if the path is blank after its references have been
replaced, and not if the name is blank. -/
theorem not_always_default :
    (¬∀ (env : Environment) (here : Path) (s : Settings) (path : String), s.path? = some path →
      Text.isBlank (expand env path) = true → resolve env here s = resolve env here s.withoutPath) ∧
    ¬∀ (env : Environment) (here : Path) (s : Settings) (name : String), s.name? = some name →
      Text.isBlank name = true → resolve env here s = resolve env here s.withoutName := by
  constructor
  · intro h
    have hsame := h ⟨[]⟩ default vague _ rfl (by rw [expand_vague]; decide)
    rw [resolve_withoutPath_iff] at hsame
    have hcommand : command ⟨[]⟩ vague.path? = "" := expand_vague
    rw [hcommand] at hsame
    exact absurd hsame (by decide)
  · intro h
    have hsame := h ⟨[]⟩ default vague " " rfl (by decide)
    rw [resolve_withoutName_iff] at hsame
    exact absurd hsame (by decide)

end Settings

end Attendant

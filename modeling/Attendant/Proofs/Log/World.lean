import Attendant.Log.Tailer
import Attendant.Proofs.Log.Visits
import Mathlib.Logic.Relation

/-!
# A tailer and the world around it

The path of a log leads to a file or to nothing, and both the file and what the path leads to may change at any time.
A `World` is a tailer beside the files, the sink that it feeds, and the changes that no event has told of yet. A
`World.Move` is one step of anybody: somebody changes the files, the watch sends an event, the tailer goes on by
itself or with an answer of the system, or it is detached. What the system answers is what it finds at that moment
(`Disk.Says`), but any answer may be a failure.

The key facts are what one step of a tailer can be: an event only waits (`step_watch`); by itself the tailer gets to a
point where it will ask for the size, or tries to start its watch (`step_proceed`); an answer gives it a size, fails, or
carries a pass on (`step_system`).
-/

namespace Attendant.Log

/-! ### The files -/

/-- The contents of files, which are told apart by numbers, and the file that the path of the log leads to. -/
structure Disk where
  files : Nat → List UInt8
  target : Option Nat

namespace Disk

/-- What is in the log. -/
def content? (d : Disk) : Option (List UInt8) := d.target.map d.files

/-- The size of the log. -/
def size? (d : Disk) : Option Nat := d.content?.map List.length

/-- The log has been appended to. -/
def Grows (d d' : Disk) : Prop :=
  ∃ file, d.target = some file ∧ d'.target = some file ∧ d.files file <+: d'.files file

/-- How much the log has grown. -/
def growth (d d' : Disk) : Nat := d'.size?.getD 0 - d.size?.getD 0

/-- A file that is there has the size of its bytes. -/
theorem size?_of_target {d : Disk} {file : Nat} (h : d.target = some file) :
    d.size? = some (d.files file).length := by
  simp [size?, content?, h]

theorem Grows.size?_eq {d d' : Disk} (h : d.Grows d') {size : Nat} (hs : d.size? = some size) :
    d'.size? = some (size + d.growth d') := by
  obtain ⟨file, ht, ht', hgrow⟩ := h
  have hle := hgrow.length_le
  rw [size?_of_target ht] at hs
  cases hs
  simp only [growth, size?_of_target ht, size?_of_target ht', Option.getD_some, Option.some.injEq]
  omega

end Disk

namespace Tailer

/-- The file and the pass of a tailer that reads. -/
def Stage.pass? : Stage → Option (Nat × Pass)
  | .filling (some file) pass | .reading (some file) pass => some (file, pass)
  | _ => none

/-- Whether a tailer knows the size of the log, and its watch has not been started yet. -/
def Stage.isMeasured : Stage → Bool
  | .watching _ _ => true
  | _ => false

/-- Whether the watch of a tailer has been started. -/
def Stage.hasWatch : Stage → Bool
  | .measuring _ | .watching _ _ | .refused _ => false
  | _ => true

/-- Whether a tailer has attached, even if it has been detached since. -/
def Stage.hasAttached : Stage → Bool
  | .stopped => true
  | stage => isFollowing stage

/-- Whether a tailer will ask for the size before it waits for an event again. -/
def Stage.willAsk : Stage → Bool
  | .resting _ | .draining | .checking | .sizing | .stopped => true
  | _ => false

/-- Whether a tailer opens or reads the log after an event, and not for the first time. -/
def Stage.inPass : Stage → Bool
  | .reopening _ | .reading _ _ => true
  | _ => false

/-- Whether the size that a tailer knows may be from before its watch. -/
def Stage.mayMiss : Stage → Bool
  | .watching _ _ | .opening _ | .filling _ _ | .refused _ | .idle | .stopped => true
  | _ => false

theorem pass?_of_stage {stage : Stage} {file : Option Nat} {pass : Pass}
    (h : stage = .filling file pass ∨ stage = .reading file pass) : stage.pass? = file.map (·, pass) := by
  rcases h with rfl | rfl <;> cases file <;> rfl

/-- A pass after an event goes by a size that was asked for after that event. -/
theorem mayMiss_of_inPass {stage : Stage} (h : stage.inPass = true) : stage.mayMiss = false := by
  cases stage <;> first | rfl | cases h

/-- Whether the system has failed to do what it was asked for. -/
def Answer.isFailure : Answer → Bool
  | .failed _ | .content (.failure _) => true
  | _ => false

/-- A pass goes on or is over: the first one of a tailer, or one after an event. -/
def resume (t : Tailer) (file : Option Nat) (pass : Pass) : Tailer :=
  if t.stage.inPass then t.renew file pass else t.fill file pass

end Tailer

/-- What the system may say to a tailer: the size of the log, the file that the path leads to, what an open file holds,
or that it has failed. -/
inductive Disk.Says (d : Disk) (t : Tailer) : Tailer.Answer → Prop where
  | size {n : Nat} : d.size? = some n → Says d t (.size n)
  | opened {file : Nat} : d.target = some file → Says d t (.opened (some file))
  | content {file : Nat} {pass : Pass} {answer : FileAnswer} : t.stage.pass? = some (file, pass) →
      Answers (d.files file) t.position pass answer → Says d t (.content answer)
  | failed (fault : IoFault) : Says d t (.failed fault)

/-! ### The world -/

/-- A tailer, its sink and the files. `unreported` is the number of changes that no event has told of since the watch
was started, and `late` is how much was appended between the question for the size and the start of the watch, unless
an event has been taken since. `clean` says that nothing has failed since the tailer last took an event, and `grown`
that the log has only been appended to. -/
structure World where
  tailer : Tailer
  sink : Sink
  disk : Disk
  unreported : Nat := 0
  late : Nat := 0
  clean : Bool := true
  grown : Bool := true

namespace World

/-- Whether the tailer takes an event if it goes on. -/
def takes (w : World) : Bool := w.tailer.stage == .idle

/-- The world once the log has been appended to. -/
def append (w : World) (disk : Disk) : World :=
  { w with
    disk
    unreported := if w.tailer.stage.hasWatch then w.unreported + 1 else w.unreported
    late := if w.tailer.stage.isMeasured then w.late + w.disk.growth disk else w.late }

/-- One step of anybody. An event tells of any number of changes, or of none; if the queue is full, it is dropped. -/
inductive Move (w : World) : World → Prop where
  | append {disk : Disk} : w.disk.Grows disk → Move w (w.append disk)
  | change (disk : Disk) : Move w { w with disk, unreported := w.unreported + 1, grown := false }
  | watch {now : Nat} {label : Tailer.Label} {tailer : Tailer} {calls : List SinkCall} (changes : Nat) :
      label = .event ∨ label = .tick → w.tailer.step now label = some (tailer, calls) →
      Move w { w with tailer, sink := w.sink.recordAll calls, unreported := w.unreported - changes }
  | proceed {now : Nat} {tailer : Tailer} {calls : List SinkCall} : w.tailer.step now .proceed = some (tailer, calls) →
      Move w { w with
        tailer, sink := w.sink.recordAll calls
        late := if w.takes then 0 else w.late, clean := w.takes || w.clean }
  | answer {now : Nat} {answer : Tailer.Answer} {tailer : Tailer} {calls : List SinkCall} :
      w.disk.Says w.tailer answer → w.tailer.step now (.system answer) = some (tailer, calls) →
      Move w { w with tailer, sink := w.sink.recordAll calls, clean := w.clean && !answer.isFailure }
  | detach : Move w { w with tailer := w.tailer.detach }

end World

/-! ### The steps of a tailer -/

namespace Tailer

variable {now : Nat} {t t' : Tailer} {calls : List SinkCall}

theorem gate_nil (t : Tailer) : t.gate [] = [] := by
  unfold gate
  split <;> rfl

/-- An event is there, or one was there before. -/
theorem events_notice_pos (h : 0 < t.capacity) : 0 < t.notice.events := by
  unfold notice
  split
  · exact Nat.succ_pos _
  · omega

/-- An event only waits. -/
theorem step_watch {label : Label} (hl : label = .event ∨ label = .tick)
    (h : t.step now label = some (t', calls)) :
    t'.stage = t.stage ∧ t'.position = t.position ∧ t'.capacity = t.capacity ∧ t'.attached = t.attached ∧
      t'.events = t.notice.events ∧ calls = [] := by
  have hnotice : t.notice.stage = t.stage ∧ t.notice.position = t.position ∧ t.notice.capacity = t.capacity ∧
      t.notice.attached = t.attached := by
    unfold notice
    split <;> exact ⟨rfl, rfl, rfl, rfl⟩
  obtain ⟨hs, hp, hc, ha⟩ := hnotice
  rcases hl with rfl | rfl
  · simp only [step] at h
    split at h
    · cases h
      exact ⟨hs, hp, hc, ha, rfl, rfl⟩
    · cases h
  · simp only [step] at h
    repeat' split at h
    all_goals cases h
    exact ⟨hs, hp, hc, ha, rfl, rfl⟩

/-- By itself a tailer gets to a point where it will ask for the size, or it tries to start its watch. -/
theorem step_proceed (h : t.step now .proceed = some (t', calls)) :
    (t'.position = t.position ∧ t'.capacity = t.capacity ∧ t'.attached = t.attached ∧ calls = []) ∧
      ((t.stage = .idle ∨ t.stage.mayMiss = false) ∧ t'.stage.willAsk = true ∨
        ∃ size strategies, t.stage = .watching size strategies ∧ t'.events = t.events ∧
          ((∃ rest, t'.stage = .watching size rest) ∨ t'.stage = .opening size ∨
            ∃ fault, t'.stage = .refused fault)) := by
  cases hstage : t.stage with
  | idle =>
    simp only [step, hstage] at h
    repeat' split at h
    all_goals cases h <;> exact ⟨⟨rfl, rfl, rfl, rfl⟩, Or.inl ⟨Or.inl rfl, rfl⟩⟩
  | resting alarm =>
    simp only [step, hstage] at h
    split at h
    · cases h
      exact ⟨⟨rfl, rfl, rfl, rfl⟩, Or.inl ⟨Or.inr rfl, rfl⟩⟩
    · cases h
  | draining =>
    simp only [step, hstage] at h
    cases h
    exact ⟨⟨rfl, rfl, rfl, rfl⟩, Or.inl ⟨Or.inr rfl, rfl⟩⟩
  | checking =>
    simp only [step, hstage] at h
    cases h
    refine ⟨⟨rfl, rfl, rfl, rfl⟩, Or.inl ⟨Or.inr rfl, ?_⟩⟩
    simp only
    split <;> rfl
  | watching size strategies =>
    cases strategies with
    | nil =>
      simp only [step, hstage] at h
      cases h
      exact ⟨⟨rfl, rfl, rfl, rfl⟩, Or.inr ⟨size, _, rfl, rfl, Or.inr (Or.inr ⟨_, rfl⟩)⟩⟩
    | cons strategy rest =>
      cases strategy with
      | refusing =>
        simp only [step, hstage] at h
        cases h
        exact ⟨⟨rfl, rfl, rfl, rfl⟩, Or.inr ⟨size, _, rfl, rfl, Or.inl ⟨rest, rfl⟩⟩⟩
      | _ =>
        simp only [step, hstage] at h
        cases h
        exact ⟨⟨rfl, rfl, rfl, rfl⟩, Or.inr ⟨size, _, rfl, rfl, Or.inr (Or.inl rfl)⟩⟩
  | measuring _ | opening _ | filling _ _ | refused _ | sizing | reopening _ | reading _ _ | stopped =>
    simp [step, hstage] at h

@[simp] theorem position_resume (t : Tailer) (file : Option Nat) (pass : Pass) :
    (t.resume file pass).position = t.position := by
  unfold resume
  split <;> cases pass <;> rfl

@[simp] theorem capacity_resume (t : Tailer) (file : Option Nat) (pass : Pass) :
    (t.resume file pass).capacity = t.capacity := by
  unfold resume
  split <;> cases pass <;> rfl

@[simp] theorem attached_resume (t : Tailer) (file : Option Nat) (pass : Pass) :
    (t.resume file pass).attached = t.attached := by
  unfold resume
  split <;> cases pass <;> rfl

@[simp] theorem events_resume (t : Tailer) (file : Option Nat) (pass : Pass) :
    (t.resume file pass).events = t.events := by
  unfold resume
  split <;> cases pass <;> rfl

private theorem hasAttached_renew (t : Tailer) (file : Option Nat) (pass : Pass) :
    (t.renew file pass).stage.hasAttached = true := by
  cases pass <;> rfl

/-- Where a tailer stands whose pass has gone on or is over. -/
theorem stage_resume (t : Tailer) (file : Option Nat) (pass : Pass) :
    (pass = .ended ∧ (t.resume file pass).stage = .idle) ∨
    (∃ fault, pass = .failed fault ∧
      ((t.resume file pass).stage = .idle ∨ ∃ why, (t.resume file pass).stage = .refused why)) ∨
    (pass.isOver = false ∧ ((t.resume file pass).stage = .reading file pass ∧ t.stage.inPass = true ∨
      (t.resume file pass).stage = .filling file pass)) := by
  unfold resume
  split
  · rename_i hpass
    cases pass with
    | ended => exact Or.inl ⟨rfl, rfl⟩
    | failed fault => exact Or.inr (Or.inl ⟨fault, rfl, Or.inl rfl⟩)
    | seeking stop => exact Or.inr (Or.inr ⟨rfl, Or.inl ⟨rfl, hpass⟩⟩)
    | reading stop missing got => exact Or.inr (Or.inr ⟨rfl, Or.inl ⟨rfl, hpass⟩⟩)
  · cases pass with
    | ended => exact Or.inl ⟨rfl, rfl⟩
    | failed fault => exact Or.inr (Or.inl ⟨fault, rfl, Or.inr ⟨_, rfl⟩⟩)
    | seeking stop => exact Or.inr (Or.inr ⟨rfl, Or.inr rfl⟩)
    | reading stop missing got => exact Or.inr (Or.inr ⟨rfl, Or.inr rfl⟩)

/-- With an answer of the system a tailer waits again or gives up, because something has failed; or it knows the size;
or it begins a pass or carries one on. -/
theorem step_system {answer : Answer} (h : t.step now (.system answer) = some (t', calls)) :
    (answer.isFailure = true ∧ calls = [] ∧ t'.position = t.position ∧ t'.capacity = t.capacity ∧
      t'.attached = t.attached ∧ (t'.stage = .idle ∨ ∃ fault, t'.stage = .refused fault)) ∨
    (∃ size strategies, t.stage = .measuring strategies ∧ answer = .size size ∧ calls = [] ∧
      t' = { t with stage := .watching size strategies }) ∨
    (∃ size, t.stage = .sizing ∧ answer = .size size ∧ calls = [] ∧
      t' = { t with stage := if t.position.diff size = .unchanged then .idle else .reopening size }) ∨
    ∃ file p pass more, t' = { t with position := p }.resume file pass ∧ calls = t.gate more ∧
      ((∃ size, (t.stage = .opening size ∨ t.stage = .reopening size) ∧ answer = .opened file ∧
          (t.position.begin size).2 = (p, pass, more)) ∨
        ∃ before content, (t.stage = .filling file before ∨ t.stage = .reading file before) ∧
          answer = .content content ∧ before.step t.position content = (p, pass, more)) := by
  cases hstage : t.stage with
  | measuring strategies =>
    simp only [step, hstage] at h
    cases answer with
    | size n =>
      cases h
      exact Or.inr (Or.inl ⟨n, strategies, rfl, rfl, rfl, rfl⟩)
    | failed fault =>
      cases h
      exact Or.inl ⟨rfl, rfl, rfl, rfl, rfl, Or.inr ⟨_, rfl⟩⟩
    | opened file => cases h
    | content content => cases h
  | opening size =>
    simp only [step, hstage] at h
    cases answer with
    | failed fault =>
      cases h
      exact Or.inl ⟨rfl, rfl, rfl, rfl, rfl, Or.inr ⟨_, rfl⟩⟩
    | opened file =>
      cases h
      exact Or.inr (Or.inr (Or.inr ⟨file, _, _, _, rfl, rfl, Or.inl ⟨size, Or.inl rfl, rfl, rfl⟩⟩))
    | size n => cases h
    | content content => cases h
  | filling file pass =>
    simp only [step, hstage] at h
    cases answer with
    | content content =>
      cases h
      exact Or.inr (Or.inr (Or.inr ⟨file, _, _, _, rfl, rfl, Or.inr ⟨pass, content, Or.inl rfl, rfl, rfl⟩⟩))
    | failed fault => cases h
    | size n => cases h
    | opened file => cases h
  | sizing =>
    simp only [step, hstage] at h
    cases answer with
    | failed fault =>
      cases h
      exact Or.inl ⟨rfl, rfl, rfl, rfl, rfl, Or.inl rfl⟩
    | size n =>
      cases h
      exact Or.inr (Or.inr (Or.inl ⟨n, rfl, rfl, rfl, rfl⟩))
    | opened file => cases h
    | content content => cases h
  | reopening size =>
    simp only [step, hstage] at h
    cases answer with
    | failed fault =>
      cases h
      exact Or.inl ⟨rfl, rfl, rfl, rfl, rfl, Or.inl rfl⟩
    | opened file =>
      cases h
      exact Or.inr (Or.inr (Or.inr ⟨file, _, _, _, rfl, rfl, Or.inl ⟨size, Or.inr rfl, rfl, rfl⟩⟩))
    | size n => cases h
    | content content => cases h
  | reading file pass =>
    simp only [step, hstage] at h
    cases answer with
    | content content =>
      cases h
      exact Or.inr (Or.inr (Or.inr ⟨file, _, _, _, rfl, rfl, Or.inr ⟨pass, content, Or.inr rfl, rfl, rfl⟩⟩))
    | failed fault => cases h
    | size n => cases h
    | opened file => cases h
  | watching _ _ | refused _ | idle | resting _ | draining | checking | stopped => simp [step, hstage] at h

/-- No answer changes the capacity of the queue or detaches the tailer. -/
theorem kept_of_system {answer : Answer} (h : t.step now (.system answer) = some (t', calls)) :
    t'.capacity = t.capacity ∧ t'.attached = t.attached := by
  rcases step_system h with ⟨-, -, -, hc, ha, -⟩ | ⟨size, strategies, -, -, -, rfl⟩ | ⟨size, -, -, -, rfl⟩ |
    ⟨file, p, pass, more, rfl, -, -⟩
  · exact ⟨hc, ha⟩
  · exact ⟨rfl, rfl⟩
  · exact ⟨rfl, rfl⟩
  · exact ⟨capacity_resume _ _ _, attached_resume _ _ _⟩

/-- A tailer that has attached does not attach again. -/
theorem hasAttached_of_step {label : Label} (hattached : t.stage.hasAttached = true)
    (h : t.step now label = some (t', calls)) : t'.stage.hasAttached = true := by
  cases label with
  | event => exact (step_watch (.inl rfl) h).1 ▸ hattached
  | tick => exact (step_watch (.inr rfl) h).1 ▸ hattached
  | proceed =>
    rcases (step_proceed h).2 with ⟨-, hask⟩ | ⟨size, strategies, hstage, -⟩
    · revert hask
      cases t'.stage <;> first | exact fun _ => rfl | exact nofun
    · rw [hstage] at hattached
      cases hattached
  | system answer =>
    cases hstage : t.stage with
    | sizing =>
      cases answer with
      | failed fault =>
        simp only [step, hstage] at h
        cases h
        rfl
      | size n =>
        simp only [step, hstage] at h
        cases h
        simp only
        split <;> rfl
      | opened file => simp [step, hstage] at h
      | content content => simp [step, hstage] at h
    | reopening size =>
      cases answer with
      | failed fault =>
        simp only [step, hstage] at h
        cases h
        rfl
      | opened file =>
        simp only [step, hstage] at h
        cases h
        exact hasAttached_renew _ _ _
      | size n => simp [step, hstage] at h
      | content content => simp [step, hstage] at h
    | reading file pass =>
      cases answer with
      | content content =>
        simp only [step, hstage] at h
        cases h
        exact hasAttached_renew _ _ _
      | failed fault => simp [step, hstage] at h
      | size n => simp [step, hstage] at h
      | opened file => simp [step, hstage] at h
    | idle | resting _ | draining | checking | stopped => simp [step, hstage] at h
    | measuring _ | watching _ _ | opening _ | filling _ _ | refused _ =>
      rw [hstage] at hattached
      cases hattached

end Tailer

end Attendant.Log

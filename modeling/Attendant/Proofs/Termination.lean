import Attendant.Termination
import Mathlib.Logic.Relation

/-!
# How a process is brought to its end

A process that is to end may end by itself at any moment or never, whether it has been asked to or not, and what becomes
of the signal that asks it to is not foreseen. `Next` lets all this happen under a clock. The clock goes on during the
two whiles only: the system answers a signal at once, and a process that is killed ends at once.

* `Move`: all that one step can do;
* `next_wellFounded`, `exists_done`: nobody waits for ever, and until the signal that asks is refused the process can
  still be waited for;
* `reaped`: when it is over, without that signal refused, the process has ended, within twice the grace, and the word for
  it says which signals have been sent;
* `killed_late`: the process is killed when the last while is over, and not before;
* `exists_unreaped`: a refused signal is the end of it, and nobody has waited for the process.
-/

namespace Attendant.Termination

/-! ### One step -/

/-- All that a step can do to a stage, by how the process has ended. -/
inductive Move (now : Nat) (grace : Duration) : Option ExitStatus → Stage → Label → Stage → Prop where
  | leave (deadline : Nat) (status : ExitStatus) :
      Move now grace (some status) (.waiting deadline) .proceed (.done .graceful status)
  | ask {deadline : Nat} : deadline ≤ now → Move now grace none (.waiting deadline) .proceed .asking
  | yield (deadline : Nat) (status : ExitStatus) :
      Move now grace (some status) (.yielding deadline) .proceed (.done .terminated status)
  | lapse {deadline : Nat} : deadline ≤ now → Move now grace none (.yielding deadline) .proceed .killing
  | kill (child : Option ExitStatus) : Move now grace child .killing .proceed .reaping
  | reap (status : ExitStatus) : Move now grace (some status) .reaping .proceed (.done .killed status)
  | deliver (child : Option ExitStatus) :
      Move now grace child .asking (.answered .delivered) (.yielding (now + grace.nanos))
  | miss (child : Option ExitStatus) : Move now grace child .asking (.answered .noProcess) .killing
  | refuse (child : Option ExitStatus) : Move now grace child .asking (.answered .refused) .failed

section

variable {now : Nat} {child : Option ExitStatus} {t t' : Termination} {label : Label}

/-- What a step does is one of these moves. -/
theorem move_of_step (h : t.step now child label = some t') :
    t'.grace = t.grace ∧ Move now t.grace child t.stage label t'.stage := by
  obtain ⟨grace, stage⟩ := t
  unfold step at h
  repeat' split at h
  all_goals cases h
  all_goals
    refine ⟨rfl, ?_⟩
    simp only at *
    subst_vars
    constructor <;> assumption

/-- Each of these moves can be made. -/
theorem step_of_move {grace : Duration} {stage stage' : Stage} (h : Move now grace child stage label stage') :
    step now child ⟨grace, stage⟩ label = some ⟨grace, stage'⟩ := by
  cases h <;> simp [step, *]

/-- Only an answer can make it fail. -/
theorem stage_ne_failed (h : t.step now child .proceed = some t') : t'.stage ≠ .failed := by
  obtain ⟨-, hmove⟩ := move_of_step h
  intro hfailed
  generalize t.stage = stage at hmove
  rw [hfailed] at hmove
  cases hmove

private theorem stage_of_deadline? {deadline : Nat} (hd : t.deadline? = some deadline) :
    t.stage = .waiting deadline ∨ t.stage = .yielding deadline := by
  obtain ⟨grace, stage⟩ := t
  cases stage <;> simp_all [deadline?]

/-- During a while, nothing goes on exactly if the process has not ended and the while is not over. -/
theorem step_eq_none_iff {deadline : Nat} (hd : t.deadline? = some deadline) :
    t.step now child .proceed = none ↔ child = none ∧ now < deadline := by
  obtain ⟨grace, stage⟩ := t
  cases stage <;> cases hd <;> cases child <;> simp [step]

end

/-! ### A process under a clock -/

/-- A process that is being brought to its end: the time, how far it has come, when and how the process has ended, when
it was asked to and when it was killed. -/
structure Scene where
  now : Nat
  termination : Termination
  ended : Option (Nat × ExitStatus) := none
  asked : Option Nat := none
  killed : Option Nat := none

namespace Scene

/-- How the process has ended. -/
def child (s : Scene) : Option ExitStatus := s.ended.map (·.2)

/-- How long a while is. -/
def grace (s : Scene) : Nat := s.termination.grace.nanos

/-- The scene when it begins; the process may have ended before. -/
def opening (grace : Duration) (begun : Nat) (child : Option ExitStatus) : Scene where
  now := begun
  termination := .start grace begun
  ended := child.map (begun, ·)

/-- The scene after a step, which may have sent a signal. -/
def after (s : Scene) (label : Label) (t : Termination) : Scene :=
  { s with
    termination := t
    asked := if label = .answered .delivered then some s.now else s.asked
    killed := if t.stage = .reaping then some s.now else s.killed }

/-- What may happen next. -/
inductive Next (s : Scene) : Scene → Prop where
  | ends (status : ExitStatus) : s.ended = none → Next s { s with ended := some (s.now, status) }
  | move {t : Termination} (label : Label) :
      s.termination.step s.now s.child label = some t → Next s (s.after label t)
  | pass {deadline : Nat} :
      s.termination.deadline? = some deadline → s.termination.step s.now s.child .proceed = none →
      Next s { s with now := s.now + 1 }

/-- It is over, one way or the other. -/
def IsOver (s : Scene) : Prop :=
  s.termination.stage = .failed ∨ ∃ exit status, s.termination.stage = .done exit status

/-! ### Nobody waits for ever -/

/-- A bound on what can still happen at a stage. -/
def remaining (now grace : Nat) : Stage → Nat
  | .waiting deadline => deadline - now + grace + 6
  | .asking => grace + 5
  | .yielding deadline => deadline - now + 3
  | .killing => 2
  | .reaping => 1
  | .done _ _ | .failed => 0

/-- A bound on what can still happen. -/
def load (s : Scene) : Nat :=
  remaining s.now s.grace s.termination.stage + if s.ended = none then 1 else 0

variable {s s' : Scene}

private theorem remaining_lt_of_move {now : Nat} {grace : Duration} {child : Option ExitStatus} {label : Label}
    {stage stage' : Stage} (h : Move now grace child stage label stage') :
    remaining now grace.nanos stage' < remaining now grace.nanos stage := by
  cases h <;> simp only [remaining] <;> omega

private theorem Next.load_lt (h : Next s s') : s'.load < s.load := by
  cases h with
  | ends status hended => simp [load, grace, hended]
  | @move t label hstep =>
    obtain ⟨hgrace, hmove⟩ := move_of_step hstep
    simp only [load, grace, after, hgrace]
    exact Nat.add_lt_add_right (remaining_lt_of_move hmove) _
  | @pass deadline hd hstep =>
    obtain ⟨-, hlate⟩ := (step_eq_none_iff hd).1 hstep
    have hless : remaining (s.now + 1) s.grace s.termination.stage < remaining s.now s.grace s.termination.stage := by
      rcases stage_of_deadline? hd with hs | hs <;> simp only [hs, remaining] <;> omega
    simp only [load, grace] at hless ⊢
    omega

/-- Nothing goes on for ever. -/
theorem next_wellFounded : WellFounded fun s' s : Scene => Next s s' :=
  Subrelation.wf (fun h => Next.load_lt h) (measure load).wf

/-- Until it is over something may happen, and a refused signal is not the only way to go on. -/
theorem exists_next (h : ¬s.IsOver) : ∃ s', Next s s' ∧ s'.termination.stage ≠ .failed := by
  have goes {label : Label} {stage : Stage}
      (hm : Move s.now s.termination.grace s.child s.termination.stage label stage) (hne : stage ≠ .failed) :
      ∃ s', Next s s' ∧ s'.termination.stage ≠ .failed :=
    ⟨_, .move label (step_of_move hm), hne⟩
  have waits {deadline : Nat} (hd : s.termination.deadline? = some deadline) (hne : s.termination.stage ≠ .failed) :
      ∃ s', Next s s' ∧ s'.termination.stage ≠ .failed := by
    cases hstep : s.termination.step s.now s.child .proceed with
    | none => exact ⟨_, .pass hd hstep, hne⟩
    | some t => exact ⟨_, .move .proceed hstep, stage_ne_failed hstep⟩
  cases hs : s.termination.stage with
  | waiting deadline | yielding deadline => exact waits (by rw [deadline?, hs]) (by simp [hs])
  | asking => exact goes (hs ▸ Move.deliver s.child) Stage.noConfusion
  | killing => exact goes (hs ▸ Move.kill s.child) Stage.noConfusion
  | reaping =>
    cases hended : s.ended with
    | none => exact ⟨_, .ends (.signal 9) hended, by simp [hs]⟩
    | some ending =>
      have hchild : s.child = some ending.2 := by rw [child, hended, Option.map_some]
      exact goes (hs ▸ hchild ▸ Move.reap ending.2) Stage.noConfusion
  | done exit status => exact absurd (.inr ⟨exit, status, hs⟩) h
  | failed => exact absurd (.inl hs) h

/-- As long as the signal that asks has not been refused, the process can be waited for. -/
theorem exists_done (h : s.termination.stage ≠ .failed) :
    ∃ s', Relation.ReflTransGen Next s s' ∧ ∃ exit status, s'.termination.stage = .done exit status := by
  induction s using next_wellFounded.induction with
  | _ s ih =>
    by_cases hover : s.IsOver
    · exact ⟨s, .refl, hover.resolve_left h⟩
    · obtain ⟨s', hnext, hne⟩ := exists_next hover
      obtain ⟨last, hgo, hdone⟩ := ih s' hnext hne
      exact ⟨last, .head hnext hgo, hdone⟩

/-! ### What the word for it says -/

/-- The whiles that there were are over: only one of them if the process was not asked to end, and else both. -/
def Lapsed (begun grace now : Nat) (asked : Option Nat) : Prop :=
  asked = none ∧ now = begun + grace ∨ asked = some (begun + grace) ∧ now = begun + 2 * grace

/-- What the time is at each stage and which signals have been sent when, if all began at some time. -/
def Stands (begun grace now : Nat) (asked killed : Option Nat) : Stage → Prop
  | .waiting deadline => deadline = begun + grace ∧ now ≤ deadline ∧ asked = none ∧ killed = none
  | .asking | .failed => now = begun + grace ∧ asked = none ∧ killed = none
  | .yielding deadline =>
    deadline = begun + 2 * grace ∧ now ≤ deadline ∧ asked = some (begun + grace) ∧ killed = none
  | .killing => Lapsed begun grace now asked ∧ killed = none
  | .reaping | .done .killed _ => Lapsed begun grace now asked ∧ killed = some now
  | .done .graceful _ => now ≤ begun + grace ∧ asked = none ∧ killed = none
  | .done .terminated _ => now ≤ begun + 2 * grace ∧ asked = some (begun + grace) ∧ killed = none

/-- What holds all along. The process is not waited for after its end, so the clock has not gone on since then. -/
structure Sound (grace : Duration) (begun : Nat) (s : Scene) : Prop where
  grace_eq : s.termination.grace = grace
  stands : Stands begun grace.nanos s.now s.asked s.killed s.termination.stage
  ended_now : ∀ ending, s.ended = some ending → ending.1 = s.now
  waited : ∀ exit status, s.termination.stage = .done exit status → s.child = some status

variable {grace : Duration} {begun : Nat} {child : Option ExitStatus}

private theorem sound_opening : Sound grace begun (opening grace begun child) where
  grace_eq := rfl
  stands := ⟨rfl, Nat.le_add_right _ _, rfl, rfl⟩
  ended_now ending h := by
    obtain ⟨status, -, rfl⟩ := Option.map_eq_some_iff.1 h
    rfl
  waited _ _ := Stage.noConfusion

/-- A step leads from how things stand at one stage to how they stand at the next. -/
private theorem Stands.move {label : Label} {t : Termination}
    (h : Stands begun grace.nanos s.now s.asked s.killed s.termination.stage)
    (hm : Move s.now grace s.child s.termination.stage label t.stage) :
    Stands begun grace.nanos s.now (s.after label t).asked (s.after label t).killed t.stage := by
  obtain ⟨now, ⟨_, stage⟩, ended, asked, killed⟩ := s
  obtain ⟨_, stage'⟩ := t
  generalize Scene.child _ = child at hm
  dsimp only at h hm
  cases hm with
  | leave deadline status =>
    obtain ⟨rfl, hnow, hasked, hkilled⟩ := h
    exact ⟨hnow, hasked, hkilled⟩
  | ask hlate =>
    obtain ⟨rfl, hnow, hasked, hkilled⟩ := h
    exact ⟨Nat.le_antisymm hnow hlate, hasked, hkilled⟩
  | yield deadline status =>
    obtain ⟨rfl, hnow, hasked, hkilled⟩ := h
    exact ⟨hnow, hasked, hkilled⟩
  | lapse hlate =>
    obtain ⟨rfl, hnow, hasked, hkilled⟩ := h
    exact ⟨.inr ⟨hasked, Nat.le_antisymm hnow hlate⟩, hkilled⟩
  | kill => exact ⟨h.1, rfl⟩
  | reap status => exact h
  | deliver =>
    obtain ⟨rfl, hasked, hkilled⟩ := h
    exact ⟨by omega, Nat.le_add_right _ _, rfl, hkilled⟩
  | miss => exact ⟨.inl ⟨h.2.1, h.1⟩, h.2.2⟩
  | refuse => exact h

private theorem child_of_move {now : Nat} {label : Label} {stage : Stage} {exit : Exit} {status : ExitStatus}
    (hm : Move now grace child stage label (.done exit status)) : child = some status := by
  cases hm <;> rfl

/-- Whatever happens next, all this still holds. -/
theorem Sound.next (h : Sound grace begun s) (hn : Next s s') : Sound grace begun s' := by
  obtain ⟨hgrace, hstands, hended, hwaited⟩ := h
  cases hn with
  | ends status hnone =>
    refine ⟨hgrace, hstands, ?_, ?_⟩
    · rintro ending ⟨⟩
      rfl
    · intro exit status' hdone
      have hchild := hwaited exit status' hdone
      rw [Scene.child, hnone] at hchild
      cases hchild
  | @move t label hstep =>
    obtain ⟨hsame, hmove⟩ := move_of_step hstep
    refine ⟨hsame.trans hgrace, hstands.move (hgrace ▸ hmove), hended, ?_⟩
    intro exit status hdone
    exact child_of_move (hdone ▸ hmove)
  | @pass deadline hd hstep =>
    obtain ⟨hnone, hearly⟩ := (step_eq_none_iff hd).1 hstep
    refine ⟨hgrace, ?_, ?_, ?_⟩
    · rcases stage_of_deadline? hd with hs | hs
      all_goals
        rw [hs] at hstands ⊢
        exact ⟨hstands.1, hearly, hstands.2.2⟩
    · intro ending hending
      rw [Scene.child, hending] at hnone
      cases hnone
    · intro exit status hdone
      rcases stage_of_deadline? hd with hs | hs <;> cases hs.symm.trans hdone

/-- A termination is sound all along. -/
theorem sound (hr : Relation.ReflTransGen Next (opening grace begun child) s) : Sound grace begun s := by
  induction hr with
  | refl => exact sound_opening
  | tail _ hn ih => exact ih.next hn

/-- When it is over and has not failed, the process has ended, and it is waited for at once and within twice the grace.
The word for it says which signals have been sent until then. -/
theorem reaped {exit : Exit} {status : ExitStatus} (hr : Relation.ReflTransGen Next (opening grace begun child) s)
    (hdone : s.termination.stage = .done exit status) :
    s.ended = some (s.now, status) ∧ s.now ≤ begun + 2 * grace.nanos ∧
    (exit = .graceful ↔ s.now ≤ begun + grace.nanos ∧ s.asked = none ∧ s.killed = none) ∧
    (exit = .terminated ↔ s.asked = some (begun + grace.nanos) ∧ s.killed = none) ∧
    (exit = .killed ↔ s.killed = some s.now) := by
  obtain ⟨-, hstands, hended, hwaited⟩ := sound hr
  obtain ⟨⟨time, _⟩, hending, rfl⟩ := Option.map_eq_some_iff.1 (hwaited exit status hdone)
  obtain rfl : time = s.now := hended _ hending
  rw [hdone] at hstands
  refine ⟨hending, ?_⟩
  cases exit with
  | graceful =>
    obtain ⟨hnow, hasked, hkilled⟩ := hstands
    have htwice : s.now ≤ begun + 2 * grace.nanos := by omega
    simp [hnow, htwice, hasked, hkilled]
  | terminated =>
    obtain ⟨hnow, hasked, hkilled⟩ := hstands
    simp [hnow, hasked, hkilled]
  | killed =>
    obtain ⟨hlapsed, hkilled⟩ := hstands
    have hnow : s.now ≤ begun + 2 * grace.nanos := by
      rcases hlapsed with ⟨-, h⟩ | ⟨-, h⟩ <;> omega
    simp [hnow, hkilled]

/-- No while is running when the process is killed. -/
theorem killed_late {time : Nat} (hr : Relation.ReflTransGen Next (opening grace begun child) s)
    (hk : s.killed = some time) :
    s.asked = none ∧ time = begun + grace.nanos ∨
      s.asked = some (begun + grace.nanos) ∧ time = begun + 2 * grace.nanos := by
  have hstands := (sound hr).stands
  have hlate : Lapsed begun grace.nanos s.now s.asked ∧ s.killed = some s.now := by
    cases hs : s.termination.stage with
    | waiting _ | yielding _ | asking | failed | killing => simp_all [Stands]
    | reaping => rwa [hs] at hstands
    | done exit status => cases exit <;> simp_all [Stands]
  obtain ⟨hlapsed, hnow⟩ := hlate
  obtain rfl : time = s.now := Option.some.inj (hk.symm.trans hnow)
  exact hlapsed

/-! ### A refused signal -/

/-- The first while goes on as long as the process does not end. -/
private theorem first_while {elapsed : Nat} (h : elapsed ≤ grace.nanos) :
    Relation.ReflTransGen Next (opening grace begun none) { opening grace begun none with now := begun + elapsed } := by
  induction elapsed with
  | zero => exact .refl
  | succ elapsed ih => exact (ih (by omega)).tail (.pass rfl ((step_eq_none_iff rfl).2 ⟨rfl, by simp; omega⟩))

/-- If the signal that asks the process to end is refused, it is over while the process may be running still: nobody has
waited for it or killed it. -/
theorem exists_unreaped (grace : Duration) (begun : Nat) :
    ∃ s, Relation.ReflTransGen Next (opening grace begun none) s ∧
      s.IsOver ∧ s.ended = none ∧ s.killed = none := by
  have hwhile : Relation.ReflTransGen Next (opening grace begun none)
      { opening grace begun none with now := begun + grace.nanos } := first_while (Nat.le_refl _)
  have hasking := hwhile.tail (.move .proceed (step_of_move (.ask (Nat.le_refl _))))
  have hfailed := hasking.tail (.move (.answered .refused) (step_of_move (.refuse none)))
  exact ⟨_, hfailed, .inl rfl, rfl, rfl⟩

end Scene

end Attendant.Termination

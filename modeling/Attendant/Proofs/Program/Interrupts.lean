import Attendant.Proofs.Program.Watch

/-!
# Interrupts that the program hears

The program listens for an interrupt anew in each round of its waiting. An interrupt that comes in a round is kept as
long as the round lasts, and the program can end because of it (`Run.heeded`); but the round may be left for something
else that is ready too. An interrupt that comes between two rounds, or while the worker is restarted, leaves no trace.
So the program may wait again although it has been interrupted (`not_always_heeded`). Hang-ups, in contrast, are
remembered from one round to the next, and during a restart (`Run.hungUp_iff`).
-/

namespace Attendant

namespace Program

/-! ### The history of interrupts -/

/-- Whether a step begins a round of waiting. -/
def Entry.begins (e : Entry) : Bool :=
  match e.before.stage, e.label with
  | .turning, .proceed => true
  | _, _ => false

private theorem Entry.begins_iff {e : Entry} : e.begins = true ↔ e.before.stage = .turning ∧ e.label = .proceed := by
  unfold begins
  constructor
  · intro h
    split at h
    · rename_i hs hl
      exact ⟨hs, hl⟩
    · cases h
  · rintro ⟨hs, hl⟩
    rw [hs, hl]

private theorem Entry.begins_eq_false {e : Entry} (h : e.before.stage = .turning → e.label ≠ .proceed) :
    e.begins = false := by
  rw [Bool.eq_false_iff, Ne, begins_iff]
  exact fun ⟨hs, hl⟩ => h hs hl

/-- The program has waited. -/
def HasWaited (es : List Entry) : Prop := ∃ e ∈ es, e.begins = true

theorem HasWaited.cons {es : List Entry} (h : HasWaited es) (e : Entry) : HasWaited (e :: es) := by
  obtain ⟨e', he', hbegins⟩ := h
  exact ⟨e', List.mem_cons_of_mem _ he', hbegins⟩

/-- An interrupt has come since the last round of waiting began. -/
def Heard (es : List Entry) : Prop := ∃ e ∈ es.takeWhile fun e => !e.begins, e.label = .signal .interrupt

/-- Whether after a step no hang-up is remembered: the program begins to listen for them, or goes on with one. -/
def Entry.clears (e : Entry) : Bool :=
  match e.before.stage, e.label with
  | .entering, .proceed => true
  | _, .choose .hangup => true
  | _, _ => false

private theorem Entry.clears_iff {e : Entry} :
    e.clears = true ↔ (e.before.stage = .entering ∧ e.label = .proceed) ∨ e.label = .choose .hangup := by
  unfold clears
  constructor
  · intro h
    split at h
    · rename_i hs hl
      exact Or.inl ⟨hs, hl⟩
    · rename_i hl
      exact Or.inr hl
    · cases h
  · rintro (⟨hs, hl⟩ | hl)
    · rw [hs, hl]
    · rw [hl]
      split
      · rfl
      · rfl
      · contradiction

private theorem Entry.clears_eq_false {e : Entry} (h : e.before.stage = .entering → e.label ≠ .proceed)
    (h' : e.label ≠ .choose .hangup) : e.clears = false := by
  rw [Bool.eq_false_iff, Ne, clears_iff]
  rintro (⟨hs, hl⟩ | hl)
  · exact h hs hl
  · exact h' hl

/-- A hang-up has come that the program has not gone on with. -/
def HungUp (es : List Entry) : Prop := ∃ e ∈ es.takeWhile fun e => !e.clears, e.label = .signal .hangup

private theorem heard_of_begins {e : Entry} (h : e.begins = true) (es : List Entry) : ¬Heard (e :: es) := by
  rw [Heard, List.takeWhile_cons_of_neg (by simp [h])]
  simp

private theorem heard_cons {e : Entry} (h : e.begins = false) (es : List Entry) :
    Heard (e :: es) ↔ e.label = .signal .interrupt ∨ Heard es := by
  rw [Heard, List.takeWhile_cons_of_pos (by simp [h])]
  simp only [List.mem_cons, exists_eq_or_imp, Heard]

private theorem hungUp_of_clears {e : Entry} (h : e.clears = true) (es : List Entry) : ¬HungUp (e :: es) := by
  rw [HungUp, List.takeWhile_cons_of_neg (by simp [h])]
  simp

private theorem hungUp_cons {e : Entry} (h : e.clears = false) (es : List Entry) :
    HungUp (e :: es) ↔ e.label = .signal .hangup ∨ HungUp es := by
  rw [HungUp, List.takeWhile_cons_of_pos (by simp [h])]
  simp only [List.mem_cons, exists_eq_or_imp, HungUp]

/-! ### What a step does to the program's ears -/

@[simp] theorem armed_record (p : Program) (d : Diagnostic) : (p.record d).armed = p.armed := by
  unfold record
  split
  · rfl
  · split <;> rfl

private theorem armed_withCoordinator (p : Program) (c : Coordinator) : (p.withCoordinator c).armed = p.armed := by
  have hfold (notes : List Note) (p : Program) :
      (notes.foldl (fun p n => p.record (diagnosticOf n)) p).armed = p.armed := by
    induction notes generalizing p with
    | nil => rfl
    | cons n notes ih => rw [List.foldl_cons, ih, armed_record]
  exact hfold _ _

private theorem armed_conclude (p : Program) (ending : Ending) : (p.conclude ending).armed = p.armed := by
  cases ending with
  | workerFailed reason => exact armed_record p _
  | _ => rfl

section

variable {now : Nat} {p p' : Program}

private theorem armed_of_proceed (h : p.proceed now = some p') (hs : p.stage ≠ .turning) : p'.armed = p.armed := by
  unfold proceed at h
  split at h
  · split at h
    · cases h
      split <;> rfl
    · cases h
      rfl
    · cases h
  · cases h
    rfl
  · rename_i hturning
    exact absurd hturning hs
  · cases h
  · split at h
    · cases h
      rfl
    · cases h
      rfl
    · cases h
  · split at h
    · cases h
      exact armed_conclude p _
    · cases h
  · cases h

private theorem armed_of_choose {branch : Branch} (h : p.choose now branch = some p') : p'.armed = p.armed := by
  unfold choose at h
  split at h
  · cases h
    rfl
  · split at h
    · cases h
      rfl
    · cases h
  · simp only at h
    split at h
    · split at h
      · cases h
        rfl
      · cases h
        rfl
    · cases h
  · cases h

private theorem armed_of_receive {notice : Notice} (h : p.receive notice = some p') : p'.armed = p.armed := by
  unfold receive at h
  split at h
  · cases h
  · cases h
    rfl
  · cases h
    split <;> rfl
  · cases h
    split <;> rfl

/-- From the first round of waiting on, and not before, an interrupt does not end the program by itself. -/
theorem armed_of_step {label : Label} (h : p.step now label = some p') :
    p'.armed = (p.armed || Entry.begins ⟨p, now, label, p'⟩) := by
  by_cases hbegins : p.stage = .turning ∧ label = .proceed
  · obtain ⟨hs, rfl⟩ := hbegins
    rw [Entry.begins_iff.2 ⟨hs, rfl⟩, Bool.or_true]
    simp only [step, proceed, hs, Option.some.injEq] at h
    rw [← h]
  · rw [Entry.begins_eq_false fun hs hl => hbegins ⟨hs, hl⟩, Bool.or_false]
    cases label with
    | proceed => exact armed_of_proceed h fun hs => hbegins ⟨hs, rfl⟩
    | choose branch => exact armed_of_choose h
    | signal notice => exact armed_of_receive h
    | coordinator label =>
      simp only [step] at h
      split at h
      · cases h
      · cases h
      · cases h
      · obtain ⟨c, -, rfl⟩ := Option.map_eq_some_iff.1 h
        exact armed_withCoordinator p c

end

/-! ### Rounds of waiting -/

section

variable {plan : Plan} {here : Path} {process : Nat} {es : List Entry} {p : Program}

private theorem armed_start (now : Nat) (filter : Filter) (logFile : Option Path) (warnings : List String)
    (complaint : Option String) (c : Coordinator) :
    (start now filter logFile warnings complaint c).armed = false := by
  have hwarned (warnings : List String) (p : Program) :
      (warnings.foldl (fun p warning => p.record ⟨.warn, "netlinx", warning⟩) p).armed = p.armed := by
    induction warnings generalizing p with
    | nil => rfl
    | cons warning warnings ih => rw [List.foldl_cons, ih, armed_record]
  unfold start
  simp only
  split
  · exact hwarned warnings _
  · exact hwarned warnings _

/-- An interrupt does not end the program by itself if, and only if, the program has waited. -/
theorem Run.armed_iff (h : Run plan here process es p) : p.armed = true ↔ HasWaited es := by
  induction h with
  | start now filter logFile warnings complaint =>
    rw [armed_start]
    simp [HasWaited]
  | @move es p p' now label hrun hstep ih =>
    rw [armed_of_step hstep, Bool.or_eq_true, ih]
    constructor
    · rintro (hw | hb)
      · exact hw.cons _
      · exact ⟨_, List.mem_cons_self, hb⟩
    · rintro ⟨e, he, hb⟩
      obtain rfl | he := List.mem_cons.1 he
      · exact Or.inr hb
      · exact Or.inl ⟨e, he, hb⟩

private theorem waiting_of_receive {p' : Program} {b : Bool} (h : p.receive .interrupt = some p')
    (hs : p'.stage = .waiting b) : b = true ∧ ∃ b', p.stage = .waiting b' := by
  unfold receive at h
  split at h
  · cases h
  · rename_i interrupted hwaiting _
    cases h
    cases hs
    exact ⟨rfl, interrupted, hwaiting⟩
  · rename_i hwaiting
    cases h
    split at hs
    · exact absurd hs (hwaiting b)
    · cases hs
  · contradiction

/-- A program that waits knows whether an interrupt has come since it began to. -/
theorem Run.heard_iff (h : Run plan here process es p) {b : Bool} (hs : p.stage = .waiting b) :
    HasWaited es ∧ (b = true ↔ Heard es) := by
  induction h generalizing b with
  | start now filter logFile warnings complaint =>
    have hhelm := helm_start now filter logFile warnings complaint (Coordinator.start plan here process)
    cases (congrArg Helm.stage hhelm).symm.trans hs
  | @move es p p' now label hrun hstep ih =>
    by_cases hbegins : p.stage = .turning ∧ label = .proceed
    · obtain ⟨hst, rfl⟩ := hbegins
      have hb : Entry.begins ⟨p, now, .proceed, p'⟩ = true := Entry.begins_iff.2 ⟨hst, rfl⟩
      refine ⟨⟨_, List.mem_cons_self, hb⟩, ?_⟩
      simp only [step, proceed, hst, Option.some.injEq] at hstep
      rw [← hstep] at hs
      cases hs
      simpa using heard_of_begins hb es
    · rw [heard_cons (Entry.begins_eq_false fun hst hl => hbegins ⟨hst, hl⟩)]
      by_cases hl : label = .signal .interrupt
      · subst hl
        obtain ⟨hb, b', hbefore⟩ := waiting_of_receive hstep hs
        exact ⟨(ih hbefore).1.cons _, by simp [hb]⟩
      · have hsame : p.stage = .waiting b := by
          have hstage : p'.stage = .waiting b := hs
          have ht := turn_of_step hstep
          generalize hhelm : p'.helm = helm at ht
          rw [show p'.stage = helm.stage from congrArg Helm.stage hhelm] at hstage
          cases ht with
          | coordinator _ _ => exact hstage
          | hungUp => exact hstage
          | deaf | interrupted _ => exact absurd rfl hl
          | round hst => exact absurd ⟨hst, rfl⟩ hbegins
          | _ => cases hstage
        obtain ⟨hw, hheard⟩ := ih hsame
        refine ⟨hw.cons _, ?_⟩
        rw [hheard]
        simp [hl]

/-- A program that goes on after its first look knows whether a hang-up has come that it has not gone on with. -/
theorem Run.hungUp_iff (h : Run plan here process es p) (hs : p.stage.isWatching = true) :
    p.hangups = some true ↔ HungUp es := by
  induction h with
  | start now filter logFile warnings complaint =>
    have hhelm := helm_start now filter logFile warnings complaint (Coordinator.start plan here process)
    rw [show Program.stage _ = .activating from congrArg Helm.stage hhelm] at hs
    cases hs
  | @move es p p' now label hrun hstep ih =>
    have ht := turn_of_step hstep
    generalize hhelm : p'.helm = helm at ht
    rw [show p'.stage = helm.stage from congrArg Helm.stage hhelm] at hs
    rw [show p'.hangups = helm.hangups from congrArg Helm.hangups hhelm]
    have hkept (hst : p.stage.isWatching = true) (hl : label ≠ .choose .hangup) (hl' : label ≠ .signal .hangup) :
        p.hangups = some true ↔ HungUp (⟨p, now, label, p'⟩ :: es) := by
      have hclears : Entry.clears ⟨p, now, label, p'⟩ = false :=
        Entry.clears_eq_false (fun hst' => by rw [hst'] at hst; cases hst) hl
      rw [hungUp_cons hclears, ih hst]
      simp [hl']
    cases ht with
    | look hst => simpa using hungUp_of_clears (Entry.clears_iff.2 (Or.inl ⟨hst, rfl⟩)) es
    | restart _ => simpa using hungUp_of_clears (Entry.clears_iff.2 (Or.inr rfl)) es
    | hungUp =>
      rw [hungUp_cons (Entry.clears_eq_false (by simp) (by simp))]
      simp
    | coordinator _ _ => exact hkept hs (by simp) (by simp)
    | deaf => exact hkept hs (by simp) (by simp)
    | round hst | interrupted hst | restarted hst _ | known hst _ _ =>
      exact hkept (by rw [hst]; rfl) (by simp) (by simp)
    | activated _ _ | close _ | finish _ => cases hs

end

/-! ### What an interrupt leads to -/

/-- The program ends because of an interrupt, or has ended so. -/
structure Leaves (p : Program) : Prop where
  armed : p.armed = true
  hangups : p.hangups.isSome = true
  stage : p.stage = .closing .interrupted ∨ p.stage = .ended (.code 0)

section

variable {now : Nat} {label : Label} {p p' : Program}

private theorem stage_withCoordinator (p : Program) (c : Coordinator) : (p.withCoordinator c).stage = p.stage :=
  congrArg Helm.stage (helm_withCoordinator p c)

private theorem hangups_withCoordinator (p : Program) (c : Coordinator) : (p.withCoordinator c).hangups = p.hangups :=
  congrArg Helm.hangups (helm_withCoordinator p c)

/-- Nothing happens to a program that has ended. -/
theorem step_ended {status : ExitStatus} (hs : p.stage = .ended status) (now : Nat) (label : Label) :
    p.step now label = none := by
  cases label with
  | proceed => simp [step, proceed, hs]
  | choose branch => simp [step, choose, hs]
  | coordinator label => simp [step, hs]
  | signal notice => simp [step, receive, hs]

private theorem of_coordinator {label : Coordinator.Label} (h : p.step now (.coordinator label) = some p') :
    p'.stage = p.stage ∧ p'.hangups = p.hangups := by
  simp only [step] at h
  split at h
  · cases h
  · cases h
  · cases h
  · obtain ⟨c, -, rfl⟩ := Option.map_eq_some_iff.1 h
    exact ⟨stage_withCoordinator p c, hangups_withCoordinator p c⟩

theorem Leaves.step (hl : Leaves p) (h : p.step now label = some p') : Leaves p' := by
  have harmed : p'.armed = true := by rw [armed_of_step h, hl.armed, Bool.true_or]
  obtain hs | hs := hl.stage
  · cases label with
    | proceed =>
      simp only [Program.step, proceed, hs] at h
      split at h
      · cases h
        exact ⟨harmed, hl.hangups, Or.inr rfl⟩
      · cases h
    | choose branch => simp [Program.step, choose, hs] at h
    | coordinator label =>
      obtain ⟨hstage, hhangups⟩ := of_coordinator h
      exact ⟨harmed, by rw [hhangups]; exact hl.hangups, Or.inl (hstage.trans hs)⟩
    | signal notice =>
      cases notice with
      | interrupt =>
        simp only [Program.step, receive, hs, hl.armed, if_true, Option.some.injEq] at h
        rw [← h]
        exact hl
      | hangup =>
        simp only [Program.step, receive, hs, hl.hangups, if_true, Option.some.injEq] at h
        rw [← h]
        exact ⟨hl.armed, rfl, Or.inl rfl⟩
  · rw [step_ended hs] at h
    cases h

/-- How a round of waiting in which an interrupt has come goes on. -/
private theorem of_waiting (hs : p.stage = .waiting true) (hup : p.hangups.isSome = true)
    (h : p.step now label = some p') :
    p'.stage = .waiting true ∨ label = .choose .interrupt ∨ (label = .choose .hangup ∧ p.hangups = some true) ∨
      (label = .choose .change ∧ p.coordinator.supervisor.status.hasNews p.seen = true) := by
  cases label with
  | proceed => simp [step, proceed, hs] at h
  | choose branch =>
    cases branch with
    | interrupt => exact Or.inr (Or.inl rfl)
    | hangup =>
      by_cases hsome : p.hangups = some true
      · exact Or.inr (Or.inr (Or.inl ⟨rfl, hsome⟩))
      · simp [step, choose, hs, hsome] at h
    | change =>
      by_cases hnews : p.coordinator.supervisor.status.hasNews p.seen = true
      · exact Or.inr (Or.inr (Or.inr ⟨rfl, hnews⟩))
      · simp [step, choose, hs, hnews] at h
  | coordinator label => exact Or.inl ((of_coordinator h).1.trans hs)
  | signal notice =>
    left
    cases notice with
    | interrupt =>
      simp only [step, receive, hs, Option.some.injEq] at h
      rw [← h]
    | hangup =>
      simp only [step, receive, hs, hup, if_true, Option.some.injEq] at h
      rw [← h]

end

section

variable {plan : Plan} {here : Path} {process : Nat} {es : List Entry} {p : Program}

/-- The program goes on to end, whatever happens to it. -/
private theorem Run.leaves {now : Nat} {label : Label} {p' q : Program} (hp : Leaves p') {later : List Entry}
    (h : Run plan here process (later ++ ⟨p, now, label, p'⟩ :: es) q) : Leaves q := by
  induction later generalizing q with
  | nil =>
    cases h
    exact hp
  | cons e later ih =>
    cases h with
    | move _ _ hrun hstep => exact (ih hrun).step hstep

/-- What becomes of an interrupt when the program has waited before. One that comes while the program does not wait
leaves no trace. One that comes while it waits is kept as long as the round lasts: then, and only then, the program can
end because of it, and once it goes on with the interrupt it does end so, whatever happens next. The round lasts until
the program goes on with the interrupt, with a hang-up that it remembers, or with news of the worker. -/
theorem Run.heeded (h : Run plan here process es p) (hw : HasWaited es) (now : Nat) :
    ((∀ b, p.stage ≠ .waiting b) → (∀ status, p.stage ≠ .ended status) →
      p.step now (.signal .interrupt) = some p) ∧
    ∀ b, p.stage = .waiting b →
      p.step now (.signal .interrupt) = some { p with stage := .waiting true } ∧
      (¬Heard es → p.step now (.choose .interrupt) = none) ∧
      (Heard es →
        (∃ p', p.step now (.choose .interrupt) = some p' ∧ ∀ later q,
          Run plan here process (later ++ ⟨p, now, .choose .interrupt, p'⟩ :: es) q →
            q.stage = .closing .interrupted ∨ q.stage = .ended (.code 0)) ∧
        ∀ label p', p.step now label = some p' →
          p'.stage = .waiting true ∨ label = .choose .interrupt ∨ (label = .choose .hangup ∧ HungUp es) ∨
            (label = .choose .change ∧ p.coordinator.supervisor.status.hasNews p.seen = true)) := by
  have harmed : p.armed = true := h.armed_iff.2 hw
  refine ⟨fun hwaiting hended => ?_, fun b hs => ⟨?_, fun hnone => ?_, fun hheard => ?_⟩⟩
  · cases hs : p.stage with
    | waiting b => exact absurd hs (hwaiting b)
    | ended status => exact absurd hs (hended status)
    | _ => simp [step, receive, hs, harmed]
  · simp only [step, receive, hs]
  · have hb : b = false := by
      rw [Bool.eq_false_iff, Ne, (h.heard_iff hs).2]
      exact hnone
    simp [step, choose, hs, hb]
  · have hb : p.stage = .waiting true := by rw [hs, (h.heard_iff hs).2.2 hheard]
    have hup : p.hangups.isSome = true := (h.watches (by rw [hs]; rfl)).1
    have hleaves : Leaves (p.ask now .shutdown (.closing .interrupted)) := ⟨harmed, hup, Or.inl rfl⟩
    refine ⟨⟨_, by simp only [step, choose, hb], fun later q hrun => (Run.leaves hleaves hrun).stage⟩,
      fun label p' hstep => ?_⟩
    rw [← h.hungUp_iff (by rw [hs]; rfl)]
    exact of_waiting hb hup hstep

end

/-! ### Interrupted runs -/

/-- The first worker is hung up on, and ends. -/
private def lowering : List Label :=
  [.signal .hangup, .choose .hangup, .coordinator .proceed] ++
    tended [.act 0 .closesOutput, .channel 0 .reader, .channel 0 .reader, .proceed, .channel 0 (.caller 3),
      .channel 0 (.caller 3), .proceed, .exited 0 (.code 0), .proceed, .proceed] ++ [.coordinator .proceed]

/-- A program that waits for the first time is interrupted; or it is hung up on, is interrupted while it restarts its
worker, and waits once more after the restart. -/
private theorem exists_interrupted :
    (∃ es p, Run Coordinator.somePlan (.ofString "/") 1 es p ∧ p.stage = .waiting true) ∧
    ∃ es p, Run Coordinator.somePlan (.ofString "/") 1 es p ∧ p.armed = true ∧ p.stage = .restarting ∧
      ∃ e later r q, Run Coordinator.somePlan (.ofString "/") 1 (r :: later ++ e :: es) q ∧
        e.label = .signal .interrupt ∧ r.begins = true := by
  have began : Run Coordinator.somePlan (.ofString "/") 1 [] _ := .start 0 ⟨[]⟩ none [] none
  have waiting := began.play (asking 0 ++ unheard 0 ++ [.proceed, .proceed]) rfl
  refine ⟨⟨_, _, waiting.move 0 (.signal .interrupt) rfl, rfl⟩, ?_⟩
  have lowered := waiting.play lowering rfl
  have interrupted := lowered.move 0 (.signal .interrupt) rfl
  have raised := interrupted.play (asking 1 ++ unheard 1) rfl
  have again := raised.move 0 .proceed rfl
  exact ⟨_, _, lowered, rfl, rfl, _, _, _, _, again, rfl, rfl⟩

/-- An interrupt that comes while the program waits ends it; one that comes during a restart is lost. -/
theorem heeded_interrupt :
    (∃ es p, Run Coordinator.somePlan (.ofString "/") 1 es p ∧ HasWaited es ∧ p.stage = .waiting true ∧
      ∃ p', p.step 0 (.choose .interrupt) = some p' ∧ ∀ later q,
        Run Coordinator.somePlan (.ofString "/") 1 (later ++ ⟨p, 0, .choose .interrupt, p'⟩ :: es) q →
          q.stage = .closing .interrupted ∨ q.stage = .ended (.code 0)) ∧
    ∃ es p, Run Coordinator.somePlan (.ofString "/") 1 es p ∧ HasWaited es ∧ p.stage = .restarting ∧
      p.step 0 (.signal .interrupt) = some p := by
  obtain ⟨⟨es, p, hrun, hs⟩, es', p', hrun', harmed, hs', -⟩ := exists_interrupted
  constructor
  · have hheard : Heard es := (hrun.heard_iff hs).2.1 rfl
    have hw : HasWaited es := (hrun.heard_iff hs).1
    exact ⟨es, p, hrun, hw, hs, (((hrun.heeded hw 0).2 true hs).2.2 hheard).1⟩
  · have hw : HasWaited es' := hrun'.armed_iff.1 harmed
    exact ⟨es', p', hrun', hw, hs', (hrun'.heeded hw 0).1 (by simp [hs']) (by simp [hs'])⟩

/-- A program may wait again although it has been interrupted since it waited for the first time. -/
theorem not_always_heeded :
    ¬ ∀ plan here process earlier e later p, Run plan here process (later ++ e :: earlier) p → HasWaited earlier →
      e.label = .signal .interrupt → ∀ r ∈ later, r.begins = false := by
  intro hall
  obtain ⟨-, es, p, hrun, harmed, -, e, later, r, q, hlater, hlabel, hbegins⟩ := exists_interrupted
  have hnone := hall _ _ _ es e (r :: later) q hlater (hrun.armed_iff.1 harmed) hlabel r List.mem_cons_self
  rw [hbegins] at hnone
  cases hnone

end Program

end Attendant

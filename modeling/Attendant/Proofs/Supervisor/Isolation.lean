import Attendant.Proofs.Supervisor.Run

/-!
# What former workers do to the state

All workers share one state. A worker that the supervisor has given up is stopped first, or the state is `stopping`
and its reader leaves it alone; the exception are orphans, whose stop has been abandoned. The invariant is `Sound`.

* `Sound.step`: every step keeps the invariant, `Run.sound`: it holds along every run;
* `Run.isolated`: exactly the orphans touch the state, when their stream ends while a later worker is up;
* `not_isolated_at_all`: there is a run in which this happens.
-/

namespace Attendant.Supervisor

/-- The invariant of a supervisor, where `left` are the orphans. -/
structure Sound (left : List Nat) (s : Supervisor) : Prop where
  rest : Rest left s.workers (s.stage.stopping?.or s.current)
  stopping : ∀ i, s.stage.stopping? = some i → s.current = none ∧ s.status.value = .stopping
  between : s.stage.isBetween = true → s.current = none ∧ s.status.value.isLive = false
  greeting : ∀ i, s.stage.greeting? = some i → s.current = some i

namespace Sound

variable {left : List Nat} {s : Supervisor}

private theorem rest_current (h : Sound left s) (hs : s.stage.stopping? = none) : Rest left s.workers s.current := by
  have := h.rest
  rwa [hs, Option.none_or] at this

private theorem rest_stopping (h : Sound left s) {i : Nat} (hs : s.stage.stopping? = some i) :
    Rest left s.workers (some i) := by
  have := h.rest
  rwa [hs, Option.some_or] at this

/-- At most stages nothing is asked but that the other workers are given up. -/
private theorem plain (hr : Rest left s.workers s.current) (h1 : s.stage.stopping? = none)
    (h2 : s.stage.greeting? = none)
    (h3 : s.stage.isBetween = false) : Sound left s := by
  refine ⟨?_, fun i hi => ?_, fun hb => ?_, fun i hi => ?_⟩
  · rwa [h1, Option.none_or]
  · rw [h1] at hi
    cases hi
  · rw [h3] at hb
    cases hb
  · rw [h2] at hi
    cases hi

private theorem halting {i : Nat} (hr : Rest left s.workers (some i)) (h1 : s.stage.stopping? = some i)
    (h2 : s.stage.greeting? = none) (h3 : s.stage.isBetween = false) (hc : s.current = none)
    (hst : s.status.value = .stopping) : Sound left s := by
  refine ⟨?_, fun _ _ => ⟨hc, hst⟩, fun hb => ?_, fun j hj => ?_⟩
  · rwa [h1, Option.some_or]
  · rw [h3] at hb
    cases hb
  · rw [h2] at hj
    cases hj

private theorem work (h : Sound left s) {s' : Supervisor} (hw : Keeps s.workers s'.workers)
    (hc : s'.current = s.current)
    (hs : s'.stage = s.stage)
    (hst : s'.status = s.status ∨ s.status.value.isLive = true ∧ s'.status.value.isLive = false) : Sound left s' := by
  refine ⟨?_, fun i hi => ?_, fun hb => ?_, fun i hi => ?_⟩
  · rw [hs, hc]
    exact h.rest.keeps hw
  · rw [hs] at hi
    obtain ⟨hcur, hstop⟩ := h.stopping i hi
    refine ⟨hc.trans hcur, ?_⟩
    rcases hst with hst | ⟨hlive, -⟩
    · rw [hst, hstop]
    · rw [hstop] at hlive
      cases hlive
  · rw [hs] at hb
    obtain ⟨hcur, hlive⟩ := h.between hb
    refine ⟨hc.trans hcur, ?_⟩
    rcases hst with hst | ⟨-, hlive'⟩
    · rw [hst, hlive]
    · exact hlive'
  · rw [hs] at hi
    rw [hc]
    exact h.greeting i hi

private theorem fresh (options : WorkerOptions) (process : Nat) : Sound [] { options, process } := by
  refine plain (fun i w hw => ?_) rfl rfl rfl
  simp at hw

private theorem begin (h : Sound left s) {now : Nat} {call : Call} {s' : Supervisor}
    (hstep : s.step now (.begin call) = some s') :
    Sound left s' := by
  simp only [step] at hstep
  split at hstep
  · rename_i hfree
    cases hstep
    have hr := h.rest_current (by rw [hfree]; rfl)
    cases call <;> exact plain hr rfl rfl rfl
  · cases hstep

private theorem forget (h : Sound left s) {worker : Nat} (hs : s.stage.stopping? = some worker) (key : Nat) :
    Sound (worker :: left)
      { (s.modify worker Worker.kill).modify worker fun w => { w with channel := w.channel.abandon key } with
        stage := .free, outcome := none } := by
  have hr := ((h.rest_stopping hs).orphan).weaken s.current
  exact plain (hr.keeps ((Keeps.kill _ worker).trans (Keeps.leave _ worker key))) rfl rfl rfl

private theorem abandon (h : Sound left s) {s' : Supervisor} (hstep : s.abandon = some s') :
    Sound (s.stage.stopping?.toList ++ left) s' := by
  unfold Supervisor.abandon at hstep
  cases hstage : s.stage with
  | greeting worker key =>
    simp only [hstage] at hstep
    cases hstep
    exact plain ((h.rest_current (by rw [hstage]; rfl)).keeps (Keeps.leave _ worker key)) rfl rfl rfl
  | confirming worker key =>
    simp only [hstage] at hstep
    cases hstep
    exact plain ((h.rest_current (by rw [hstage]; rfl)).keeps (Keeps.leave _ worker key)) rfl rfl rfl
  | clearing launch worker =>
    simp only [hstage] at hstep
    cases hstep
    exact plain (h.rest_current (by rw [hstage]; rfl)) rfl rfl rfl
  | discarding worker fault =>
    simp only [hstage] at hstep
    cases hstep
    exact plain (h.rest_current (by rw [hstage]; rfl)) rfl rfl rfl
  | asking worker key next =>
    -- only a stop that waits leaves an orphan; the other calls keep their worker, or have given it up before
    simp only [hstage] at hstep
    cases hstep
    exact h.forget (by rw [hstage]; rfl) key
  | leaving worker key next =>
    simp only [hstage] at hstep
    cases hstep
    exact h.forget (by rw [hstage]; rfl) key
  | closing worker key next =>
    simp only [hstage] at hstep
    cases hstep
    exact h.forget (by rw [hstage]; rfl) key
  | ending worker termination next =>
    simp only [hstage] at hstep
    cases hstep
    have hr := (h.rest_stopping (i := worker) (by rw [hstage]; rfl)).orphan
    exact plain ((hr.weaken _).keeps (Keeps.kill _ worker)) rfl rfl rfl
  | _ =>
    simp only [hstage] at hstep
    cases hstep

/-! ### The steps of a start -/

private theorem check (h : Sound left s) {launch : Launch} (hs : s.stage = .checking launch) :
    Sound left (s.check launch) := by
  have hr := h.rest_current (by rw [hs]; rfl)
  unfold Supervisor.check
  split
  · exact plain hr rfl rfl rfl
  · split
    · exact plain hr rfl rfl rfl
    · split
      · exact plain hr rfl rfl rfl
      · rename_i hlive
        have hlive : s.status.value.isLive = false := by simpa using hlive
        split
        · rename_i stale hc
          rw [hc] at hr
          exact ⟨hr.abort_kill, nofun, fun _ => ⟨rfl, hlive⟩, nofun⟩
        · rename_i hc
          rw [hc] at hr
          refine ⟨?_, nofun, fun _ => ⟨hc, hlive⟩, nofun⟩
          show Rest left s.workers s.current
          rwa [hc]

private theorem adopt (h : Sound left s) {launch : Launch} (hs : s.stage = .spawning launch) :
    Sound left (s.adopt launch) := by
  have hr := h.rest_current (by rw [hs]; rfl)
  rw [(h.between (by rw [hs]; rfl)).1] at hr
  have hg : ∀ i, (s.adopt launch).stage.greeting? = some i → (s.adopt launch).current = some i := by
    intro i hi
    rw [← hi]
    exact (enter_current ..).trans rfl
  refine ⟨?_, nofun, nofun, hg⟩
  -- nobody is owned here, so all workers before the newcomer are given up
  have hc : (s.adopt launch).current = some s.workers.length := enter_current ..
  rw [hc]
  exact (hr.append { launch }).keeps (Keeps.enter _ _ _)

private theorem discard (hr : Rest left s.workers (some worker)) (reason : String) :
    Sound left (s.discard worker reason) :=
  plain hr.abort_kill rfl rfl rfl

private theorem welcome (h : Sound left s) {worker key : Nat} (hs : s.stage = .confirming worker key) :
    Sound left (s.welcome worker) := by
  have hr := h.rest_current (by rw [hs]; rfl)
  have hc := h.greeting worker (by rw [hs]; rfl)
  unfold Supervisor.welcome
  split
  · exact plain hr rfl rfl rfl
  · rw [hc] at hr
    exact discard hr _
  · rw [hc] at hr
    exact discard hr _

/-! ### The steps of a stop -/

private theorem stopped (hr : Rest left s.workers s.current) (next : Option Launch) : Sound left (s.stopped next) := by
  cases next <;> exact plain hr rfl rfl rfl

private theorem close {worker : Nat} (hr : Rest left s.workers (some worker)) (hc : s.current = none)
    (hst : s.status.value = .stopping) (next : Option Launch) : Sound left (s.close worker next) :=
  halting (i := worker) (hr.keeps (Keeps.enter _ _ _)) rfl rfl rfl ((enter_current ..).trans hc)
    ((congrArg Watched.value (enter_status ..)).trans hst)

private theorem take (h : Sound left s) {next : Option Launch} (hs : s.stage = .taking next) :
    Sound left (s.take next) := by
  have hr := h.rest_current (by rw [hs]; rfl)
  unfold Supervisor.take
  split
  · split
    · exact stopped hr next
    · exact stopped (s := s.setStatus .idle) hr next
  · rename_i worker hc
    rw [hc] at hr
    simp only
    split
    · refine halting (i := worker) (hr.keeps ?_) rfl rfl rfl (enter_current ..) ?_
      · exact Keeps.enter ({ s with current := none }.setStatus .stopping) worker _
      · exact congrArg Watched.value (enter_status ..)
    · exact close (s := { s with current := none }.setStatus .stopping) hr rfl rfl next

private theorem halt (h : Sound left s) {worker : Nat} (hs : s.stage.stopping? = some worker) {s' : Supervisor}
    (hw : Keeps s.workers s'.workers) (hc : s'.current = s.current) (hst : s'.status = s.status)
    (h1 : s'.stage.stopping? = some worker) (h2 : s'.stage.greeting? = none) (h3 : s'.stage.isBetween = false) :
    Sound left s' := by
  obtain ⟨hcur, hstop⟩ := h.stopping worker hs
  exact halting ((h.rest_stopping hs).keeps hw) h1 h2 h3 (hc.trans hcur) (by rw [hst, hstop])

private theorem proceed (h : Sound left s) {now : Nat} {s' : Supervisor} (hstep : s.proceed now = some s') :
    Sound left s' := by
  unfold Supervisor.proceed at hstep
  cases hstage : s.stage with
  | free => simp [hstage] at hstep
  | spawning launch => simp [hstage] at hstep
  | checking launch =>
    -- the stages at which a worker comes or goes have lemmas of their own
    simp only [hstage] at hstep
    cases hstep
    exact h.check hstage
  | clearing launch worker =>
    simp only [hstage] at hstep
    obtain ⟨status, -, rfl⟩ := Option.map_eq_some_iff.1 hstep
    exact ⟨h.rest_current (by rw [hstage]; rfl), nofun, fun _ => h.between (by rw [hstage]; rfl), nofun⟩
  | greeting worker key =>
    simp only [hstage] at hstep
    have hr := h.rest_current (by rw [hstage]; rfl)
    have hc := h.greeting worker (by rw [hstage]; rfl)
    obtain ⟨outcome, -, rfl⟩ := Option.map_eq_some_iff.1 hstep
    cases outcome with
    | ok v =>
      have hcur := (enter_current s worker (.tell false "initialized" (some (.table [])))).trans hc
      refine ⟨?_, nofun, nofun, fun i hi => ?_⟩
      · show Rest left (s.enter worker _).1.workers (s.enter worker _).1.current
        rw [enter_current]
        exact hr.keeps (Keeps.enter _ _ _)
      · exact hcur.trans hi
    | error fault =>
      rw [hc] at hr
      exact discard (s := s.setStatus _) hr _
  | confirming worker key =>
    simp only [hstage] at hstep
    obtain ⟨outcome, -, rfl⟩ := Option.map_eq_some_iff.1 hstep
    cases outcome with
    | ok v => exact h.welcome hstage
    | error fault =>
      have hr := h.rest_current (by rw [hstage]; rfl)
      rw [h.greeting worker (by rw [hstage]; rfl)] at hr
      exact discard (s := s.setStatus _) hr _
  | discarding worker fault =>
    simp only [hstage] at hstep
    obtain ⟨status, -, rfl⟩ := Option.map_eq_some_iff.1 hstep
    exact plain (h.rest_current (by rw [hstage]; rfl)) rfl rfl rfl
  | taking next =>
    simp only [hstage] at hstep
    cases hstep
    exact h.take hstage
  | asking worker key next =>
    simp only [hstage] at hstep
    have hs : s.stage.stopping? = some worker := by rw [hstage]; rfl
    obtain ⟨outcome, -, rfl⟩ := Option.map_eq_some_iff.1 hstep
    cases outcome with
    | ok v =>
      exact h.halt hs (Keeps.enter s worker _) (enter_current s worker _) (enter_status s worker _) rfl rfl rfl
    | error fault => exact close (h.rest_stopping hs) (h.stopping worker hs).1 (h.stopping worker hs).2 next
  | leaving worker key next =>
    simp only [hstage] at hstep
    have hs : s.stage.stopping? = some worker := by rw [hstage]; rfl
    obtain ⟨outcome, -, rfl⟩ := Option.map_eq_some_iff.1 hstep
    exact close (h.rest_stopping hs) (h.stopping worker hs).1 (h.stopping worker hs).2 next
  | closing worker key next =>
    simp only [hstage] at hstep
    have hs : s.stage.stopping? = some worker := by rw [hstage]; rfl
    obtain ⟨outcome, -, rfl⟩ := Option.map_eq_some_iff.1 hstep
    exact h.halt hs (Keeps.refl _) rfl rfl rfl rfl rfl
  | ending worker termination next =>
    simp only [hstage] at hstep
    have hs : s.stage.stopping? = some worker := by rw [hstage]; rfl
    have hc := (h.stopping worker hs).1
    split at hstep
    · cases hstep
      exact stopped (s := (s.modify worker Worker.abort).setStatus .idle)
        ((h.rest_stopping hs).abort_only.weaken _) next
    · cases hstep
      exact stopped (s := (s.modify worker fun w => w.abort.kill).setStatus .idle)
        ((h.rest_stopping hs).abort_kill.weaken _) next
    · obtain ⟨termination, -, rfl⟩ := Option.map_eq_some_iff.1 hstep
      split
      · exact h.halt hs (Keeps.kill _ worker) rfl rfl rfl rfl rfl
      · exact h.halt hs (Keeps.refl _) rfl rfl rfl rfl rfl

/-- A channel may only take the state from a worker that is up. -/
private theorem channel (h : Sound left s) {now worker : Nat} {label : Channel.Label} {s' : Supervisor}
    (hstep : s.step now (.channel worker label) = some s') : Sound left s' := by
  simp only [step, Option.bind_eq_bind, Option.bind_eq_some_iff, Option.pure_def, Option.some.injEq] at hstep
  obtain ⟨w, hw, next, hnext, rfl⟩ := hstep
  refine h.work (Keeps.modify fun v hv ho => ?_) rfl rfl ?_
  · rw [hw] at hv
    cases hv
    exact Channel.isOver_of_step hnext ho
  · rcases Channel.status_of_step hnext with ⟨he, -⟩ | ⟨-, reason, -, he⟩
    · exact Or.inl he
    · by_cases hlive : s.status.value.isLive = true
      · refine Or.inr ⟨hlive, ?_⟩
        have hset := he.trans (if_pos hlive)
        show next.1.value.isLive = false
        rw [hset]
        rfl
      · exact Or.inl (he.trans (if_neg hlive))

/-- Every step keeps the invariant; a stop that is abandoned adds an orphan. -/
theorem step (h : Sound left s) {now : Nat} {label : Label} {s' : Supervisor} (hstep : s.step now label = some s') :
    Sound ((Entry.orphan? ⟨s, now, label, s'⟩).toList ++ left) s' := by
  cases label with
  | begin call => exact h.begin hstep
  | abandon => exact h.abandon hstep
  | proceed => exact h.proceed hstep
  | channel worker label => exact h.channel hstep
  | spawned answer =>
    simp only [Supervisor.step] at hstep
    split at hstep
    · rename_i hs
      cases hstep
      exact h.adopt hs
    · rename_i hs
      cases hstep
      exact plain (h.rest_current (by rw [hs]; rfl)) rfl rfl rfl
    · rename_i hs
      cases hstep
      exact plain (h.rest_current (by rw [hs]; rfl)) rfl rfl rfl
    · cases hstep
  | answered answer =>
    simp only [Supervisor.step] at hstep
    split at hstep
    · rename_i worker termination next hs
      obtain ⟨termination, -, rfl⟩ := Option.map_eq_some_iff.1 hstep
      have hstop : s.stage.stopping? = some worker := by rw [hs]; rfl
      exact h.halt hstop (Keeps.refl _) rfl rfl rfl rfl rfl
    · cases hstep
  | listener worker =>
    simp only [Supervisor.step, Option.bind_eq_bind, Option.bind_eq_some_iff, Option.pure_def,
      Option.some.injEq] at hstep
    obtain ⟨w, hw, ⟨w', line⟩, hlisten, rfl⟩ := hstep
    refine h.work (Keeps.modify fun v hv ho => ?_) rfl rfl (Or.inl rfl)
    rw [hw] at hv
    cases hv
    rwa [listen_channel hlisten]
  | act worker act =>
    cases hstep
    refine h.work (Keeps.modify fun w _ ho => ?_) rfl rfl (Or.inl rfl)
    rwa [Channel.act_reader]
  | complain worker bytes =>
    cases hstep
    refine h.work (Keeps.modify fun w _ ho => ?_) rfl rfl (Or.inl rfl)
    split <;> exact ho
  | hush worker =>
    cases hstep
    exact h.work (Keeps.modify fun w _ ho => ho) rfl rfl (Or.inl rfl)
  | exited worker status =>
    simp only [Supervisor.step] at hstep
    split at hstep
    · cases hstep
    · cases hstep
      exact h.work (Keeps.modify fun w _ ho => ho) rfl rfl (Or.inl rfl)
  | enter worker job =>
    cases hstep
    exact h.work (Keeps.enter s worker job) (enter_current s worker job) (enter_stage s worker job)
      (Or.inl (enter_status s worker job))
  | leave worker key =>
    cases hstep
    exact h.work (Keeps.leave _ worker key) rfl rfl (Or.inl rfl)

end Sound

/-- The invariant holds along every run. -/
theorem Run.sound {options : WorkerOptions} {process : Nat} {es : List Entry} {s : Supervisor}
    (h : Run options process es s) : Sound (orphans es) s := by
  induction h with
  | fresh => exact Sound.fresh options process
  | move now label _ hstep ih =>
    rw [orphans_cons]
    exact ih.step hstep

/-! ### Who writes the state -/

private theorem stopped_status (s : Supervisor) (next : Option Launch) : (s.stopped next).status = s.status := by
  cases next <;> rfl

private theorem check_status (s : Supervisor) (launch : Launch) : (s.check launch).status = s.status := by
  unfold Supervisor.check
  repeat' split
  all_goals rfl

private theorem close_status (s : Supervisor) (worker : Nat) (next : Option Launch) :
    (s.close worker next).status = s.status :=
  enter_status s worker .finish

/-- A stop does not fail a worker. -/
theorem take_status (s : Supervisor) (next : Option Launch) :
    (s.take next).status = s.status ∨ (s.take next).status.value = .idle ∨
      (s.take next).status.value = .stopping := by
  unfold Supervisor.take
  split
  · rw [stopped_status]
    split
    · exact Or.inl rfl
    · exact Or.inr (Or.inl rfl)
  · simp only
    split
    · exact Or.inr (Or.inr (congrArg Watched.value (enter_status _ _ _)))
    · exact Or.inr (Or.inr (congrArg Watched.value (close_status _ _ _)))

/-- Only the call that greets a worker can fail it. -/
private theorem failed_of_proceed {now : Nat} {s s' : Supervisor} (h : s.proceed now = some s') {reason : String}
    (hf : s'.status.value = .failed reason) : s'.status = s.status ∨ ∃ worker, s.stage.greeting? = some worker := by
  unfold Supervisor.proceed at h
  cases hstage : s.stage with
  | free => simp [hstage] at h
  | spawning launch => simp [hstage] at h
  | greeting worker key => exact Or.inr ⟨worker, rfl⟩
  | confirming worker key => exact Or.inr ⟨worker, rfl⟩
  | checking launch =>
    simp only [hstage] at h
    cases h
    exact Or.inl (check_status s launch)
  | clearing launch worker =>
    simp only [hstage] at h
    obtain ⟨status, -, rfl⟩ := Option.map_eq_some_iff.1 h
    exact Or.inl rfl
  | discarding worker fault =>
    simp only [hstage] at h
    obtain ⟨status, -, rfl⟩ := Option.map_eq_some_iff.1 h
    exact Or.inl rfl
  | taking next =>
    simp only [hstage] at h
    cases h
    rcases take_status s next with he | he | he
    · exact Or.inl he
    · rw [he] at hf
      cases hf
    · rw [he] at hf
      cases hf
  | asking worker key next =>
    simp only [hstage] at h
    obtain ⟨outcome, -, rfl⟩ := Option.map_eq_some_iff.1 h
    cases outcome with
    | ok v => exact Or.inl (enter_status s worker _)
    | error fault => exact Or.inl (close_status s worker next)
  | leaving worker key next =>
    simp only [hstage] at h
    obtain ⟨outcome, -, rfl⟩ := Option.map_eq_some_iff.1 h
    exact Or.inl (close_status s worker next)
  | closing worker key next =>
    simp only [hstage] at h
    obtain ⟨outcome, -, rfl⟩ := Option.map_eq_some_iff.1 h
    exact Or.inl rfl
  | ending worker termination next =>
    simp only [hstage] at h
    split at h
    · cases h
      rw [stopped_status] at hf
      cases hf
    · cases h
      rw [stopped_status] at hf
      cases hf
    · obtain ⟨termination, -, rfl⟩ := Option.map_eq_some_iff.1 h
      split <;> exact Or.inl rfl

/-- Only a reader, the call that greets a worker, and a start that gets no process fail a worker. -/
private theorem failed_of_step {now : Nat} {s s' : Supervisor} {label : Label} (h : s.step now label = some s')
    {reason : String} (hf : s'.status.value = .failed reason) :
    s'.status = s.status ∨ (∃ worker, label = .channel worker .reader) ∨
      (label = .proceed ∧ ∃ worker, s.stage.greeting? = some worker) ∨ s.stage.isBetween = true := by
  cases label with
  | proceed =>
    rcases failed_of_proceed h hf with he | hg
    · exact Or.inl he
    · exact Or.inr (Or.inr (Or.inl ⟨rfl, hg⟩))
  | channel worker label =>
    simp only [step, Option.bind_eq_bind, Option.bind_eq_some_iff, Option.pure_def, Option.some.injEq] at h
    obtain ⟨w, hw, next, hnext, rfl⟩ := h
    rcases Channel.status_of_step hnext with ⟨he, -⟩ | ⟨rfl, -⟩
    · exact Or.inl he
    · exact Or.inr (Or.inl ⟨worker, rfl⟩)
  | spawned answer =>
    have hbetween {launch : Launch} (hs : s.stage = .spawning launch) : s.stage.isBetween = true := by
      rw [hs]
      rfl
    simp only [step] at h
    split at h
    · exact Or.inr (Or.inr (Or.inr (hbetween ‹_›)))
    · exact Or.inr (Or.inr (Or.inr (hbetween ‹_›)))
    · exact Or.inr (Or.inr (Or.inr (hbetween ‹_›)))
    · cases h
  | begin call =>
    simp only [step] at h
    split at h
    · cases h
      exact Or.inl rfl
    · cases h
  | abandon =>
    simp only [step, Supervisor.abandon] at h
    split at h
    all_goals cases h <;> exact Or.inl rfl
  | answered answer =>
    simp only [step] at h
    split at h
    · obtain ⟨termination, -, rfl⟩ := Option.map_eq_some_iff.1 h
      exact Or.inl rfl
    · cases h
  | listener worker =>
    simp only [step, Option.bind_eq_bind, Option.bind_eq_some_iff, Option.pure_def, Option.some.injEq] at h
    obtain ⟨w, -, next, -, rfl⟩ := h
    exact Or.inl rfl
  | exited worker status =>
    simp only [step] at h
    split at h <;> cases h
    exact Or.inl rfl
  | enter worker job =>
    cases h
    exact Or.inl (enter_status s worker job)
  | _ =>
    cases h
    exact Or.inl rfl

/-! ### Isolation -/

/-- A reader that is not over belongs to the worker that is owned or being stopped, or to an orphan. -/
private theorem Sound.mem_of_reader {left : List Nat} {s : Supervisor} (h : Sound left s) {worker : Nat} {w : Worker}
    (hw : s.workers[worker]? = some w) (hr : w.channel.reader.isOver = false) (hc : s.current ≠ some worker)
    (hlive : s.status.value.isLive = true) : worker ∈ left := by
  apply Decidable.byContradiction
  intro hleft
  have hover : w.channel.reader.isOver = true := by
    refine h.rest worker w hw ?_ hleft
    cases hs : s.stage.stopping? with
    | none => rwa [Option.none_or]
    | some other =>
      -- while a worker is being stopped the state is not that of one that is up
      rw [(h.stopping other hs).2] at hlive
      cases hlive
  rw [hr] at hover
  cases hover

/-- When a worker that is not owned any more touches the state. -/
private theorem Sound.touches_iff {left : List Nat} {s : Supervisor} (h : Sound left s) {now worker : Nat}
    {task : Channel.Label} {s' : Supervisor} (hstep : s.step now (.channel worker task) = some s')
    (hc : s.current ≠ some worker) :
    (s'.status ≠ s.status ↔ task = .reader ∧ worker ∈ left ∧ s.status.value.isLive = true ∧
      ∃ w reason, s.workers[worker]? = some w ∧ w.channel.reader = .failing reason) ∧
    (s'.status ≠ s.status → ∃ reason, s'.status.value = .failed reason) := by
  simp only [Supervisor.step, Option.bind_eq_bind, Option.bind_eq_some_iff, Option.pure_def,
    Option.some.injEq] at hstep
  obtain ⟨w, hw, next, hnext, rfl⟩ := hstep
  refine ⟨⟨fun hne => ?_, ?_⟩, fun hne => ?_⟩
  · rcases Channel.status_of_step hnext with ⟨he, -⟩ | ⟨rfl, reason, hr, he⟩
    · exact absurd he hne
    · by_cases hlive : s.status.value.isLive = true
      · exact ⟨rfl, h.mem_of_reader hw (by rw [hr]; rfl) hc hlive, hlive, w, reason, hw, hr⟩
      · exact absurd (he.trans (if_neg hlive)) hne
  · rintro ⟨rfl, -, hlive, v, reason, hv, hr⟩ hsame
    obtain rfl : w = v := Option.some.inj (hw.symm.trans hv)
    rcases Channel.status_of_step hnext with ⟨-, hno⟩ | ⟨-, reason', -, he⟩
    · exact hno ⟨rfl, reason, hr⟩
    · -- every write counts, so the state is not what it was
      have := congrArg Watched.version ((he.trans (if_pos hlive)).symm.trans hsame)
      simp [Watched.set] at this
  · rcases Channel.status_of_step hnext with ⟨he, -⟩ | ⟨-, reason, -, he⟩
    · exact absurd he hne
    · by_cases hlive : s.status.value.isLive = true
      · exact ⟨reason, congrArg Watched.value (he.trans (if_pos hlive))⟩
      · exact absurd (he.trans (if_neg hlive)) hne

/-- A worker that is not owned any more touches the state exactly if its stop has been abandoned, its reader has
come to the end of its stream, and a later worker is up: then it is said to have failed. So a worker that is up
fails by the end of its own stream, by its own start, or by the stream of an orphan. -/
theorem Run.isolated {options : WorkerOptions} {process : Nat} {es : List Entry} {s : Supervisor}
    (h : Run options process es s) {now : Nat} {label : Label} {s' : Supervisor}
    (hstep : s.step now label = some s') :
    (∀ worker task, label = .channel worker task → s.current ≠ some worker →
      (s'.status ≠ s.status ↔ task = .reader ∧ worker ∈ orphans es ∧ s.status.value.isLive = true ∧
        ∃ w reason, s.workers[worker]? = some w ∧ w.channel.reader = .failing reason) ∧
      (s'.status ≠ s.status → ∃ reason, s'.status.value = .failed reason)) ∧
    ∀ reason, s.status.value.isLive = true → s'.status.value = .failed reason →
      (∃ worker, s.current = some worker ∧ label = .channel worker .reader) ∨
      (∃ worker, s.current = some worker ∧ s.stage.greeting? = some worker ∧ label = .proceed) ∨
      ∃ worker, worker ∈ orphans es ∧ s.current ≠ some worker ∧ label = .channel worker .reader := by
  have hs := h.sound
  refine ⟨?_, fun reason hlive hf => ?_⟩
  · rintro worker task rfl hc
    exact hs.touches_iff hstep hc
  · have hne : s'.status ≠ s.status := by
      intro he
      rw [← he, hf] at hlive
      cases hlive
    rcases failed_of_step hstep hf with he | ⟨worker, rfl⟩ | ⟨rfl, worker, hg⟩ | hb
    · exact absurd he hne
    · by_cases hc : s.current = some worker
      · exact Or.inl ⟨worker, hc, rfl⟩
      · obtain ⟨-, hleft, -⟩ := (hs.touches_iff hstep hc).1.1 hne
        exact Or.inr (Or.inr ⟨worker, hleft, hc, rfl⟩)
    · exact Or.inr (Or.inl ⟨worker, hs.greeting worker hg, hg, rfl⟩)
    · -- nothing is up while a start has no process yet
      rw [(hs.between hb).2] at hlive
      cases hlive

/-! ### An orphan -/

def someOptions : WorkerOptions := ⟨true, ⟨0⟩, ⟨0⟩, .ofString "/"⟩

def someLaunch : Launch := { command := "w" }

/-- A start is abandoned, and then the stop of the worker that it has left. While the next worker starts, the
output of the first one ends. -/
private theorem exists_orphan_run : ∃ es s s', Run someOptions 1 es s ∧ s.step 0 (.channel 0 .reader) = some s' ∧
    orphans es = [0] ∧ s.current = some 1 ∧ s.status.value = .starting ∧ s'.status.value = .failed "worker exited" ∧
    ∃ w, s.workers[0]? = some w ∧ w.channel.reader = .failing "worker exited" := by
  have idle : Run someOptions 1 [] _ := Run.fresh
  have given := idle.play [.begin (.start someLaunch), .proceed, .spawned .started, .abandon] rfl
  have orphaned := given.play
    [.begin .stop, .proceed, .channel 0 (.caller 1), .channel 0 (.caller 1), .proceed, .abandon] rfl
  have starting := orphaned.play [.begin (.start someLaunch), .proceed, .spawned .started] rfl
  have ended := starting.play [.act 0 .closesOutput, .channel 0 .reader] rfl
  exact ⟨_, _, _, ended, rfl, rfl, rfl, rfl, rfl, _, rfl, rfl⟩

/-- The orphan touches the state. -/
theorem isolated_but_orphan : ∃ es s s', Run someOptions 1 es s ∧ s.step 0 (.channel 0 .reader) = some s' ∧
    s.current ≠ some 0 ∧ 0 ∈ orphans es ∧ s'.status ≠ s.status := by
  obtain ⟨es, s, s', hrun, hstep, horphans, hc, hstarting, -, w, hw, hr⟩ := exists_orphan_run
  have hother : s.current ≠ some 0 := by
    rw [hc]
    decide
  have hmem : 0 ∈ orphans es := by
    rw [horphans]
    decide
  have hlive : s.status.value.isLive = true := by
    rw [hstarting]
    rfl
  obtain ⟨htouch, -⟩ := (hrun.isolated hstep).1 0 .reader rfl hother
  exact ⟨es, s, s', hrun, hstep, hother, hmem, htouch.2 ⟨rfl, hmem, hlive, w, _, hw, hr⟩⟩

/-- So it is not true that only the worker that is owned touches the state. -/
theorem not_isolated_at_all : ¬∀ (options : WorkerOptions) (process : Nat) (es : List Entry) (s s' : Supervisor)
    (now worker : Nat), Run options process es s → s.step now (.channel worker .reader) = some s' →
      s.current ≠ some worker → s'.status = s.status := by
  intro h
  obtain ⟨es, s, s', hrun, hstep, -, hc, hstarting, hfailed, -⟩ := exists_orphan_run
  have hsame := h someOptions 1 es s s' 0 0 hrun hstep (by rw [hc]; decide)
  rw [hsame, hstarting] at hfailed
  cases hfailed

end Attendant.Supervisor

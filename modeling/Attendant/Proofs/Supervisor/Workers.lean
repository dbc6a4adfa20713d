import Attendant.Proofs.Channel.Release
import Attendant.Proofs.Supervisor.Turn
import Mathlib.Logic.Relation

/-!
# What a step does to the workers

Whatever the step, no worker goes away, and their channels do nothing but make moves: `Lasts`. So what holds of every
run of a channel holds of the channel of every worker (`Run.channel_run`), and a caller keeps its job and its outcome. A
worker comes at one step only, that of a start that has got a process (`continues_of_step`). Whoever is not the call
under way does even less: `Tended`.
-/

namespace Attendant.Supervisor

/-- A worker after moves of its channel. -/
def Moved (w w' : Worker) : Prop :=
  w'.launch = w.launch ∧
    Relation.ReflTransGen (fun c c' : Channel => ∃ m, c.make? m = some c') w.channel w'.channel

namespace Moved

variable {w w' w'' : Worker}

private theorem of_eq (hl : w'.launch = w.launch) (hc : w'.channel = w.channel) : Moved w w' := by
  refine ⟨hl, ?_⟩
  rw [hc]

private theorem of_make (hl : w'.launch = w.launch) {m : Channel.Move} (hm : w.channel.make? m = some w'.channel) :
    Moved w w' :=
  ⟨hl, .single ⟨m, hm⟩⟩

private theorem trans (h : Moved w w') (h' : Moved w' w'') : Moved w w'' := ⟨h'.1.trans h.1, h.2.trans h'.2⟩

/-- What holds of a channel and is kept by its moves holds of it later. -/
theorem keeps (h : Moved w w') {p : Channel → Prop} (hp : ∀ c m c', Channel.make? c m = some c' → p c → p c')
    (hw : p w.channel) : p w'.channel := by
  obtain ⟨-, hmoves⟩ := h
  generalize w'.channel = c' at hmoves
  induction hmoves with
  | refl => exact hw
  | tail _ hm ih =>
    obtain ⟨m, hm⟩ := hm
    exact hp _ m _ hm ih

private theorem abort_kill (w : Worker) : Moved w w.abort.kill := by
  have hlaunch : w.abort.kill.launch = w.launch := by
    simp only [Worker.kill, Worker.abort]
    split <;> rfl
  have hchannel : w.abort.kill.channel = w.channel.abort := by
    simp only [Worker.kill, Worker.abort]
    split <;> rfl
  exact of_make hlaunch (m := .abort) (congrArg some hchannel.symm)

private theorem abort (w : Worker) : Moved w w.abort := abort_kill w

private theorem kill (w : Worker) : Moved w w.kill := of_eq rfl rfl

private theorem leave (w : Worker) (key : Nat) : Moved w { w with channel := w.channel.abandon key } :=
  of_make rfl (m := .abandon key) rfl

end Moved

private theorem listen_launch {w w' : Worker} {line : Option String} (h : w.listen = some (w', line)) :
    w'.launch = w.launch := by
  unfold Worker.listen at h
  repeat' split at h
  all_goals cases h <;> rfl

/-- The request that a worker is greeted with. -/
def greeting (s : Supervisor) (launch : Launch) : Job :=
  .ask false "initialize"
    (.given (Message.handshakeParams s.process (launch.cwd.getD s.options.workspaceRoot))) s.options.initTimeout

/-- Every worker goes on. -/
structure Lasts (s s' : Supervisor) : Prop where
  options : s'.options = s.options
  process : s'.process = s.process
  moved : ∀ (i : Nat) (w : Worker), s.workers[i]? = some w → ∃ w' : Worker, s'.workers[i]? = some w' ∧ Moved w w'

/-- Every worker goes on, and none comes. -/
structure Continues (s s' : Supervisor) : Prop extends Lasts s s' where
  length : s'.workers.length = s.workers.length

namespace Continues

variable {s s' s'' : Supervisor}

private theorem of_eq (ho : s'.options = s.options) (hp : s'.process = s.process) (hw : s'.workers = s.workers) :
    Continues s s' := by
  refine ⟨⟨ho, hp, fun i w hi => ⟨w, ?_, .of_eq rfl rfl⟩⟩, by rw [hw]⟩
  rw [hw, hi]

private theorem trans (h : Continues s s') (h' : Continues s' s'') : Continues s s'' := by
  refine ⟨⟨h'.options.trans h.options, h'.process.trans h.process, fun i w hi => ?_⟩, h'.length.trans h.length⟩
  obtain ⟨w', hi', hm⟩ := h.moved i w hi
  obtain ⟨w'', hi'', hm'⟩ := h'.moved i w' hi'
  exact ⟨w'', hi'', hm.trans hm'⟩

private theorem of_modify {worker : Nat} {f : Worker → Worker} (ho : s'.options = s.options)
    (hp : s'.process = s.process) (hw : s'.workers = s.workers.modify worker f)
    (hf : ∀ w, s.workers[worker]? = some w → Moved w (f w)) : Continues s s' := by
  refine ⟨⟨ho, hp, fun i w hi => ?_⟩, by rw [hw, List.length_modify]⟩
  by_cases he : i = worker
  · subst he
    refine ⟨f w, ?_, hf w hi⟩
    rw [hw, List.getElem?_modify_eq, hi]
    rfl
  · refine ⟨w, ?_, .of_eq rfl rfl⟩
    rw [hw, List.getElem?_modify_ne _ _ (Ne.symm he), hi]

private theorem enter (s : Supervisor) (worker : Nat) (job : Job) : Continues s (s.enter worker job).1 := by
  unfold Supervisor.enter
  split
  · rename_i w hw
    refine of_modify rfl rfl rfl fun v hv => ?_
    rw [hw] at hv
    cases hv
    exact .of_make rfl (m := .enter job) rfl
  · exact of_eq rfl rfl rfl

private theorem discard (s : Supervisor) (worker : Nat) (reason : String) : Continues s (s.discard worker reason) :=
  of_modify rfl rfl rfl fun w _ => .abort_kill w

private theorem close (s : Supervisor) (worker : Nat) (next : Option Launch) : Continues s (s.close worker next) :=
  (enter s worker .finish).trans (of_eq rfl rfl rfl)

private theorem stopped (s : Supervisor) (next : Option Launch) : Continues s (s.stopped next) := by
  cases next <;> exact of_eq rfl rfl rfl

private theorem check (s : Supervisor) (launch : Launch) : Continues s (s.check launch) := by
  unfold Supervisor.check
  repeat' split
  all_goals first
    | exact of_eq rfl rfl rfl
    | exact of_modify rfl rfl rfl fun w _ => .abort_kill w

private theorem welcome (s : Supervisor) (worker : Nat) : Continues s (s.welcome worker) := by
  unfold Supervisor.welcome
  split
  · exact of_eq rfl rfl rfl
  · exact discard s worker _
  · exact discard s worker _

private theorem take (s : Supervisor) (next : Option Launch) : Continues s (s.take next) := by
  unfold Supervisor.take
  split
  · refine Continues.trans ?_ (stopped _ next)
    split <;> exact of_eq rfl rfl rfl
  · rename_i worker _
    have hstopping : Continues s ({ s with current := none }.setStatus .stopping) := of_eq rfl rfl rfl
    simp only
    split
    · exact hstopping.trans ((enter _ worker _).trans (of_eq rfl rfl rfl))
    · exact hstopping.trans (close _ worker next)

private theorem proceed {now : Nat} (h : s.proceed now = some s') : Continues s s' := by
  unfold Supervisor.proceed at h
  cases hs : s.stage with
  | free => simp [hs] at h
  | spawning launch => simp [hs] at h
  | checking launch =>
    simp only [hs] at h
    cases h
    exact check s launch
  | clearing launch worker =>
    simp only [hs] at h
    obtain ⟨status, -, rfl⟩ := Option.map_eq_some_iff.1 h
    exact of_eq rfl rfl rfl
  | greeting worker key =>
    simp only [hs] at h
    obtain ⟨outcome, -, rfl⟩ := Option.map_eq_some_iff.1 h
    cases outcome with
    | ok v => exact (enter s worker _).trans (of_eq rfl rfl rfl)
    | error fault => exact of_modify rfl rfl rfl fun w _ => .abort_kill w
  | confirming worker key =>
    simp only [hs] at h
    obtain ⟨outcome, -, rfl⟩ := Option.map_eq_some_iff.1 h
    cases outcome with
    | ok v => exact welcome s worker
    | error fault => exact of_modify rfl rfl rfl fun w _ => .abort_kill w
  | discarding worker fault =>
    simp only [hs] at h
    obtain ⟨status, -, rfl⟩ := Option.map_eq_some_iff.1 h
    exact of_eq rfl rfl rfl
  | taking next =>
    simp only [hs] at h
    cases h
    exact take s next
  | asking worker key next =>
    simp only [hs] at h
    obtain ⟨outcome, -, rfl⟩ := Option.map_eq_some_iff.1 h
    cases outcome with
    | ok v => exact (enter s worker _).trans (of_eq rfl rfl rfl)
    | error fault => exact close s worker next
  | leaving worker key next =>
    simp only [hs] at h
    obtain ⟨outcome, -, rfl⟩ := Option.map_eq_some_iff.1 h
    exact close s worker next
  | closing worker key next =>
    simp only [hs] at h
    obtain ⟨outcome, -, rfl⟩ := Option.map_eq_some_iff.1 h
    exact of_eq rfl rfl rfl
  | ending worker termination next =>
    simp only [hs] at h
    split at h
    · cases h
      have haborted : Continues s ((s.modify worker Worker.abort).setStatus .idle) :=
        of_modify rfl rfl rfl fun w _ => .abort w
      exact haborted.trans (stopped _ next)
    · cases h
      have haborted : Continues s ((s.modify worker fun w => w.abort.kill).setStatus .idle) :=
        of_modify rfl rfl rfl fun w _ => .abort_kill w
      exact haborted.trans (stopped _ next)
    · obtain ⟨termination, -, rfl⟩ := Option.map_eq_some_iff.1 h
      split
      · exact of_modify rfl rfl rfl fun w _ => .kill w
      · exact of_eq rfl rfl rfl

private theorem abandon (h : s.abandon = some s') : Continues s s' := by
  have hforget (worker key : Nat) : Continues s
      ((s.modify worker Worker.kill).modify worker fun w => { w with channel := w.channel.abandon key }) := by
    have hkilled : Continues s (s.modify worker Worker.kill) := of_modify rfl rfl rfl fun w _ => .kill w
    exact hkilled.trans (of_modify rfl rfl rfl fun w _ => .leave w key)
  unfold Supervisor.abandon at h
  split at h
  · cases h
    exact of_modify rfl rfl rfl fun w _ => .leave w _
  · cases h
    exact of_modify rfl rfl rfl fun w _ => .leave w _
  · cases h
    exact of_eq rfl rfl rfl
  · cases h
    exact of_eq rfl rfl rfl
  · cases h
    exact (hforget _ _).trans (of_eq rfl rfl rfl)
  · cases h
    exact (hforget _ _).trans (of_eq rfl rfl rfl)
  · cases h
    exact (hforget _ _).trans (of_eq rfl rfl rfl)
  · cases h
    exact of_modify rfl rfl rfl fun w _ => .kill w
  · cases h

end Continues

/-- The newcomer stands behind the workers that there were, and is greeted. -/
theorem adopt_workers (s : Supervisor) (launch : Launch) :
    (s.adopt launch).workers =
      s.workers ++ [{ launch, channel := (Channel.enter {} (s.greeting launch)).1 }] := by
  simp [adopt, Supervisor.enter, setStatus, modify, greeting, Channel.enter, modify_length_append]

/-- Workers go on, and the only step at which one comes is that of a start that has got a process. -/
theorem continues_of_step {now : Nat} {label : Label} {s s' : Supervisor} (h : s.step now label = some s') :
    Continues s s' ∨ ∃ launch, s.stage = .spawning launch ∧ s' = s.adopt launch := by
  cases label with
  | proceed => exact Or.inl (.proceed h)
  | abandon => exact Or.inl (.abandon h)
  | begin call =>
    simp only [step] at h
    split at h
    · cases h
      exact Or.inl (.of_eq rfl rfl rfl)
    · cases h
  | spawned answer =>
    simp only [step] at h
    split at h
    · rename_i launch hs
      cases h
      exact Or.inr ⟨launch, hs, rfl⟩
    · cases h
      exact Or.inl (.of_eq rfl rfl rfl)
    · cases h
      exact Or.inl (.of_eq rfl rfl rfl)
    · cases h
  | answered answer =>
    simp only [step] at h
    split at h
    · obtain ⟨termination, -, rfl⟩ := Option.map_eq_some_iff.1 h
      exact Or.inl (.of_eq rfl rfl rfl)
    · cases h
  | channel worker label =>
    simp only [step, Option.bind_eq_bind, Option.bind_eq_some_iff, Option.pure_def, Option.some.injEq] at h
    obtain ⟨w, hw, next, hnext, rfl⟩ := h
    refine Or.inl (.of_modify rfl rfl rfl fun v hv => ?_)
    rw [hw] at hv
    cases hv
    exact .of_make rfl (m := .step now s.status label) (congrArg (Option.map Prod.snd) hnext)
  | listener worker =>
    simp only [step, Option.bind_eq_bind, Option.bind_eq_some_iff, Option.pure_def, Option.some.injEq] at h
    obtain ⟨w, hw, ⟨w', line⟩, hlisten, rfl⟩ := h
    refine Or.inl (.of_modify rfl rfl rfl fun v hv => ?_)
    rw [hw] at hv
    cases hv
    exact .of_eq (listen_launch hlisten) (listen_channel hlisten)
  | act worker act =>
    cases h
    exact Or.inl (.of_modify rfl rfl rfl fun w _ => .of_make rfl (m := .act act) rfl)
  | complain worker bytes =>
    cases h
    refine Or.inl (.of_modify rfl rfl rfl fun w _ => ?_)
    split <;> exact .of_eq rfl rfl
  | hush worker =>
    cases h
    exact Or.inl (.of_modify rfl rfl rfl fun w _ => .of_eq rfl rfl)
  | exited worker status =>
    simp only [step] at h
    split at h
    · cases h
    · cases h
      exact Or.inl (.of_modify rfl rfl rfl fun w _ => .of_eq rfl rfl)
  | enter worker job =>
    cases h
    exact Or.inl (.enter s worker job)
  | leave worker key =>
    cases h
    exact Or.inl (.of_modify rfl rfl rfl fun w _ => .leave w key)

/-- Whatever the step, every worker goes on. -/
theorem lasts_of_step {now : Nat} {label : Label} {s s' : Supervisor} (h : s.step now label = some s') :
    Lasts s s' := by
  rcases continues_of_step h with hc | ⟨launch, -, rfl⟩
  · exact hc.toLasts
  · have ho : (s.adopt launch).options = s.options := by simp [adopt, Supervisor.enter, setStatus, modify]
    have hp : (s.adopt launch).process = s.process := by simp [adopt, Supervisor.enter, setStatus, modify]
    refine ⟨ho, hp, fun i w hi => ⟨w, ?_, .of_eq rfl rfl⟩⟩
    rw [adopt_workers, List.getElem?_append_left (List.getElem?_eq_some_iff.1 hi).1, hi]

/-- Seen from its channel, every worker goes through a run of a channel. -/
theorem Run.channel_run {options : WorkerOptions} {process : Nat} {es : List Entry} {s : Supervisor}
    (h : Run options process es s) {worker : Nat} {w : Worker} (hw : s.workers[worker]? = some w) :
    ∃ es', Channel.Run es' w.channel := by
  induction h generalizing w with
  | fresh => simp at hw
  | @move es s s' now label _ hstep ih =>
    rcases continues_of_step hstep with hc | ⟨launch, -, rfl⟩
    · have hlt : worker < s.workers.length := by
        rw [← hc.length]
        exact (List.getElem?_eq_some_iff.1 hw).1
      obtain ⟨w', hw', hmoved⟩ := hc.moved worker _ (List.getElem?_eq_getElem hlt)
      obtain rfl : w' = w := Option.some.inj (hw'.symm.trans hw)
      refine hmoved.keeps (p := fun c => ∃ es', Channel.Run es' c) ?_ (ih (List.getElem?_eq_getElem hlt))
      rintro c m c' hmake ⟨es', hrun⟩
      exact ⟨_, hrun.move m hmake⟩
    · rw [adopt_workers] at hw
      rcases Nat.lt_or_ge worker s.workers.length with hlt | hge
      · rw [List.getElem?_append_left hlt] at hw
        exact ih hw
      · rw [List.getElem?_append_right hge, List.getElem?_singleton] at hw
        split at hw
        · cases hw
          exact ⟨_, Channel.Run.fresh.move (.enter (s.greeting launch)) rfl⟩
        · cases hw

/-- The worker that is owned is there. -/
theorem Run.owned {options : WorkerOptions} {process : Nat} {es : List Entry} {s : Supervisor}
    (h : Run options process es s) {worker : Nat} (hc : s.current = some worker) :
    ∃ w, s.workers[worker]? = some w := by
  induction h generalizing worker with
  | fresh => cases hc
  | @move es s s' now label _ hstep ih =>
    rcases (turn_of_step hstep).current_cases with hsame | hnone | ⟨rfl, launch, hs⟩
    · obtain ⟨w, hw⟩ := ih (hsame.symm.trans hc)
      obtain ⟨w', hw', -⟩ := (lasts_of_step hstep).moved worker w hw
      exact ⟨w', hw'⟩
    · rw [show s'.current = none from hnone] at hc
      cases hc
    · simp only [step, hs, Option.some.injEq] at hstep
      subst hstep
      have hcurrent : (s.adopt launch).current = some s.workers.length := by
        simp [adopt, Supervisor.enter, setStatus, modify]
      obtain rfl := Option.some.inj (hcurrent.symm.trans hc)
      exact ⟨_, by rw [adopt_workers, List.getElem?_concat_length]⟩

/-! ### Callers -/

/-- A caller on the channel of a worker. -/
def callerOf? (s : Supervisor) (worker key : Nat) : Option Caller :=
  s.workers[worker]?.bind fun w => w.channel.callers[key]?

theorem outcomeOf?_eq_some {s : Supervisor} {worker key : Nat} {outcome : Except RequestFault Value} :
    s.outcomeOf? worker key = some outcome ↔ ∃ job, s.callerOf? worker key = some ⟨job, .done outcome⟩ := by
  unfold outcomeOf? callerOf?
  cases s.workers[worker]? with
  | none => simp
  | some w => exact Channel.outcome?_eq_some

section

variable {s s' : Supervisor} {worker key : Nat}

/-- What a caller has, and is kept by the moves of its channel, it has later. -/
private theorem Lasts.keeps_caller (h : Lasts s s') {p : Caller → Prop}
    (hp : ∀ c m c' caller, Channel.make? c m = some c' → c.callers[key]? = some caller → p caller →
      ∃ caller', c'.callers[key]? = some caller' ∧ p caller')
    {caller : Caller} (hc : s.callerOf? worker key = some caller) (hpc : p caller) :
    ∃ caller', s'.callerOf? worker key = some caller' ∧ p caller' := by
  obtain ⟨w, hw, hkey⟩ := Option.bind_eq_some_iff.1 hc
  obtain ⟨w', hw', hmoved⟩ := h.moved worker w hw
  obtain ⟨caller', hc', hpc'⟩ : ∃ caller', w'.channel.callers[key]? = some caller' ∧ p caller' := by
    refine hmoved.keeps (p := fun c => ∃ caller, c.callers[key]? = some caller ∧ p caller) ?_ ⟨caller, hkey, hpc⟩
    rintro c m c' hmake ⟨caller, hcaller, hpcaller⟩
    exact hp c m c' caller hmake hcaller hpcaller
  exact ⟨caller', Option.bind_eq_some_iff.2 ⟨w', hw', hc'⟩, hpc'⟩

/-- A caller goes on with its job. -/
theorem Lasts.job_stays (h : Lasts s s') {caller : Caller} (hc : s.callerOf? worker key = some caller) :
    ∃ stage, s'.callerOf? worker key = some ⟨caller.job, stage⟩ := by
  have hkept : ∃ caller', s'.callerOf? worker key = some caller' ∧ caller'.job = caller.job := by
    refine h.keeps_caller (p := fun other => other.job = caller.job) ?_ hc rfl
    intro c m c' other hmake hother hjob
    obtain ⟨stage, hstage⟩ := (Channel.change_of_make hmake).job_stays hother
    exact ⟨_, hstage, hjob⟩
  obtain ⟨⟨job, stage⟩, hc', rfl⟩ := hkept
  exact ⟨stage, hc'⟩

/-- A caller that has come to its end stays there. -/
theorem Lasts.done_stays (h : Lasts s s') {job : Job} {outcome : Except RequestFault Value}
    (hc : s.callerOf? worker key = some ⟨job, .done outcome⟩) :
    s'.callerOf? worker key = some ⟨job, .done outcome⟩ := by
  have hkept : ∃ caller', s'.callerOf? worker key = some caller' ∧ caller' = ⟨job, .done outcome⟩ := by
    refine h.keeps_caller (p := (· = ⟨job, .done outcome⟩)) ?_ hc rfl
    rintro c m c' other hmake hother rfl
    exact ⟨_, (Channel.change_of_make hmake).done_stays hother, rfl⟩
  obtain ⟨_, hc', rfl⟩ := hkept
  exact hc'

/-- The launch of a worker does not change. -/
theorem Lasts.launch_stays (h : Lasts s s') {launch : Launch}
    (hl : s.workers[worker]?.map (·.launch) = some launch) : s'.workers[worker]?.map (·.launch) = some launch := by
  obtain ⟨w, hw, rfl⟩ := Option.map_eq_some_iff.1 hl
  obtain ⟨w', hw', hmoved⟩ := h.moved worker w hw
  exact Option.map_eq_some_iff.2 ⟨w', hw', hmoved.1⟩

theorem Lasts.greeting_eq (h : Lasts s s') (launch : Launch) : s'.greeting launch = s.greeting launch := by
  unfold greeting
  rw [h.options, h.process]

/-- A new caller is at its place. -/
theorem callerOf?_enter {w : Worker} (hw : s.workers[worker]? = some w) (job : Job) :
    (s.enter worker job).1.callerOf? worker (s.enter worker job).2 = some { job } := by
  simp [Supervisor.enter, hw, modify, callerOf?, Channel.enter]

/-- The newcomer has been greeted. -/
theorem adopt_greets (s : Supervisor) (launch : Launch) :
    (s.adopt launch).workers[s.workers.length]?.map (·.launch) = some launch ∧
      (s.adopt launch).callerOf? s.workers.length 0 = some { job := s.greeting launch } := by
  simp [callerOf?, adopt_workers, Channel.enter]

/-- A worker that has answered the greeting is told so. -/
theorem caller_of_answered {now : Nat} {v : Value} (h : s.proceed now = some s') (hs : s.stage = .greeting worker key)
    (ho : s.outcomeOf? worker key = some (.ok v)) :
    ∃ next, s'.stage = .confirming worker next ∧
      s'.callerOf? worker next = some { job := .tell false "initialized" (some (.table [])) } := by
  obtain ⟨w, hw, -⟩ := Option.bind_eq_some_iff.1 ho
  simp only [proceed, hs, ho, Option.map_some] at h
  cases h
  exact ⟨_, rfl, callerOf?_enter hw _⟩

end

/-! ### Steps of others -/

/-- What a step of others does to a worker. -/
structure Tended (now : Nat) (label : Label) (worker : Nat) (w w' : Worker) : Prop where
  dropped : w'.dropped = w.dropped
  child : ∀ status, w.child = some status → w'.child = some status
  channel : w'.channel = w.channel ∨ ∃ m, w.channel.make? m = some w'.channel ∧
    (∀ time status task, m = .step time status task → time = now) ∧ ∀ key, m = .abandon key → label = .leave worker key

section

variable {now worker : Nat} {label : Label} {s s' : Supervisor}

theorem Tended.refl (now : Nat) (label : Label) (worker : Nat) (w : Worker) : Tended now label worker w w :=
  ⟨rfl, fun _ hc => hc, Or.inl rfl⟩

private theorem tended_of_modify {other : Nat} {f : Worker → Worker} (hw' : s'.workers = s.workers.modify other f)
    (hf : ∀ w, s.workers[other]? = some w → Tended now label other w (f w)) {w : Worker}
    (hw : s.workers[worker]? = some w) : ∃ w', s'.workers[worker]? = some w' ∧ Tended now label worker w w' := by
  rw [hw']
  by_cases he : worker = other
  · subst he
    exact ⟨f w, by rw [List.getElem?_modify_eq, hw]; rfl, hf w hw⟩
  · exact ⟨w, by rw [List.getElem?_modify_ne _ _ (Ne.symm he), hw], .refl now label worker w⟩

private theorem listen_process {w w' : Worker} {line : Option String} (h : w.listen = some (w', line)) :
    w'.dropped = w.dropped ∧ w'.child = w.child := by
  unfold Worker.listen at h
  repeat' split at h
  all_goals cases h <;> exact ⟨rfl, rfl⟩

/-- Whoever is not the call under way does no more to a worker than that. -/
theorem tended_of_step (h : s.step now label = some s') (hl : label.isOwn = false) {w : Worker}
    (hw : s.workers[worker]? = some w) : ∃ w', s'.workers[worker]? = some w' ∧ Tended now label worker w w' := by
  cases label with
  | begin _ | abandon | proceed | spawned _ | answered _ => cases hl
  | channel other task =>
    simp only [step, Option.bind_eq_bind, Option.bind_eq_some_iff, Option.pure_def, Option.some.injEq] at h
    obtain ⟨v, hv, next, hnext, rfl⟩ := h
    refine tended_of_modify rfl (fun u hu => ?_) hw
    obtain rfl : u = v := Option.some.inj (hu.symm.trans hv)
    refine ⟨rfl, fun _ hc => hc, Or.inr ⟨.step now s.status task, congrArg (Option.map Prod.snd) hnext, ?_, ?_⟩⟩
    · rintro _ _ _ ⟨⟩
      rfl
    · rintro _ ⟨⟩
  | listener other =>
    simp only [step, Option.bind_eq_bind, Option.bind_eq_some_iff, Option.pure_def, Option.some.injEq] at h
    obtain ⟨v, hv, ⟨v', line⟩, hlisten, rfl⟩ := h
    refine tended_of_modify rfl (fun u hu => ?_) hw
    obtain rfl : u = v := Option.some.inj (hu.symm.trans hv)
    obtain ⟨hd, hc⟩ := listen_process hlisten
    exact ⟨hd, fun _ hchild => hc.trans hchild, Or.inl (listen_channel hlisten)⟩
  | act other a =>
    cases h
    refine tended_of_modify rfl (fun u _ => ?_) hw
    exact ⟨rfl, fun _ hc => hc, Or.inr ⟨.act a, rfl, by rintro _ _ _ ⟨⟩, by rintro _ ⟨⟩⟩⟩
  | complain other bytes =>
    cases h
    refine tended_of_modify rfl (fun u _ => ?_) hw
    split
    · exact ⟨rfl, fun _ hc => hc, Or.inl rfl⟩
    · exact .refl now _ _ _
  | hush other =>
    cases h
    refine tended_of_modify rfl (fun u _ => ?_) hw
    exact ⟨rfl, fun _ hc => hc, Or.inl rfl⟩
  | exited other status =>
    simp only [step] at h
    split at h
    · cases h
    · rename_i hchild
      cases h
      refine tended_of_modify rfl (fun u hu => ?_) hw
      refine ⟨rfl, fun status' hc => ?_, Or.inl rfl⟩
      rw [childOf, hu] at hchild
      simp [hc] at hchild
  | enter other job =>
    cases h
    unfold Supervisor.enter
    split
    · rename_i v hv
      refine tended_of_modify rfl (fun u hu => ?_) hw
      obtain rfl : u = v := Option.some.inj (hu.symm.trans hv)
      exact ⟨rfl, fun _ hc => hc, Or.inr ⟨.enter job, rfl, by rintro _ _ _ ⟨⟩, by rintro _ ⟨⟩⟩⟩
    · exact ⟨w, hw, .refl now _ worker w⟩
  | leave other key =>
    cases h
    refine tended_of_modify rfl (fun u _ => ?_) hw
    refine ⟨rfl, fun _ hc => hc, Or.inr ⟨.abandon key, rfl, by rintro _ _ _ ⟨⟩, ?_⟩⟩
    rintro _ ⟨⟩
    rfl

/-- A caller that is not given up stays where it is, or goes on by itself. -/
theorem Tended.caller {w w' : Worker} (h : Tended now label worker w w') {key : Nat}
    (hl : label ≠ .leave worker key) {caller : Caller} (hc : w.channel.callers[key]? = some caller) :
    w'.channel.callers[key]? = some caller ∨
      (∃ status, w.channel.stepCaller now status key = some w'.channel) ∨
      w.channel.expire now key = some w'.channel := by
  obtain hsame | ⟨m, hmake, htime, habandon⟩ := h.channel
  · exact Or.inl (by rw [hsame]; exact hc)
  · rcases Channel.caller_of_make hmake hc with hsame | ⟨rfl, -⟩ | ⟨time, status, rfl, hstep⟩ | ⟨time, status, rfl, hexpire⟩
    · exact Or.inl hsame
    · exact absurd (habandon key rfl) hl
    · obtain rfl := htime _ _ _ rfl
      exact Or.inr (Or.inl ⟨status.value, hstep⟩)
    · obtain rfl := htime _ _ _ rfl
      exact Or.inr (Or.inr hexpire)

end

end Attendant.Supervisor

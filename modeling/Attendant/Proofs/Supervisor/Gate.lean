import Attendant.Proofs.Supervisor.Errands

/-!
# The gate of a channel

Whoever asks for a running worker is refused at the gate of a channel unless one is running. All channels share one
state: the gate says that some worker is up (`Run.isConnected_iff`), not that the channel is that worker's. So the gate
of a worker that has been stopped is shut until the next start ends well, and is open again then (`not_own_gate`).

It leads nowhere. A worker that is let go, and not because its stop has been abandoned, has been stopped with its
channel (`Gone`): nothing is posted there any more, and whoever comes to the gate is refused there, or fails behind it
as on a channel that is closed (`Deserted`).
-/

namespace Attendant.Supervisor

/-- A worker is up: it is the one that is owned, it is said to be running, and its greeting is over. -/
structure Up (s : Supervisor) (worker : Nat) : Prop where
  owned : s.current = some worker
  running : s.status.value = .running
  greeted : Greeted s worker

/-- A worker has been let go for good: nobody holds it any more, and it is no orphan. -/
structure Gone (es : List Entry) (s : Supervisor) (worker : Nat) : Prop where
  been : worker < s.channels.length
  free : s.held? ≠ some worker
  left : worker ∉ orphans es

/-- Between two points of a run nothing comes of the channel of a worker: nothing is posted on it, and whoever asks for
a running worker there, and had not got past the gate at the first point, can go on until it is over, and fails. -/
structure Deserted (s : Supervisor) (later : List Entry) (s' : Supervisor) (worker : Nat) : Prop where
  silent : ∀ e ∈ later, e.mail worker = []
  visitors : ∀ key job stage, s'.callerOf? worker key = some ⟨job, stage⟩ → job.guarded = true →
    (∀ earlier, s.callerOf? worker key = some ⟨job, earlier⟩ → earlier = .gate) →
    (stage.isOver = false → ∀ now, ∃ next, s'.step now (.channel worker (.caller key)) = some next) ∧
      ∀ outcome, stage = .done outcome →
        outcome = .error .notConnected ∨ outcome = .error .transportClosed ∨ outcome = .error .encode

section

variable {options : WorkerOptions} {process : Nat} {es base more : List Entry} {s s' s₀ : Supervisor}
  {now worker key : Nat} {label : Label} {c c' : Channel} {job : Job}

/-! ### What the gate goes by -/

theorem isConnected_eq_true : s.isConnected = true ↔ s.status.value = .running := beq_iff_eq

/-- The gate is open exactly if some worker is up. -/
theorem Run.isConnected_iff (h : Run options process es s) : s.isConnected = true ↔ ∃ worker, Up s worker := by
  rw [isConnected_eq_true]
  constructor
  · intro hr
    obtain ⟨worker, hc, -, hran⟩ := h.ran_of_running hr
    exact ⟨worker, hc, hr, h.greeted_of_ran hran⟩
  · rintro ⟨_, hup⟩
    exact hup.running

private theorem step_of_stepCaller {w : Worker} (hw : s.workers[worker]? = some w)
    (hstep : w.channel.stepCaller now s.status.value key = some c') :
    s.step now (.channel worker (.caller key)) =
      some { s.modify worker fun w => { w with channel := c' } with status := s.status } := by
  simp [Supervisor.step, hw, Channel.step, hstep]

/-- Whoever stands at the gate of a channel can go on, and is refused exactly if no worker is said to be running. -/
private theorem gate_step (hc : s.callerOf? worker key = some ⟨job, .gate⟩) (hg : job.guarded = true) (now : Nat) :
    ∃ s', s.step now (.channel worker (.caller key)) = some s' ∧
      (s'.outcomeOf? worker key = some (.error .notConnected) ↔ s.status.value ≠ .running) := by
  obtain ⟨w, hw, hkey⟩ := Option.bind_eq_some_iff.1 hc
  obtain ⟨c', hstep, hrefused⟩ := Channel.gate_iff hkey hg now s.status.value
  refine ⟨_, step_of_stepCaller hw hstep, ?_⟩
  rw [← hrefused]
  simp [outcomeOf?, modify, List.getElem?_modify_eq, hw]

/-- As long as no start ends well, the gate stays shut. -/
private theorem Run.not_running_since (h₀ : Run options process base s₀) (h : Run options process (more ++ base) s)
    (hnot : s₀.status.value ≠ .running) (hnone : ∀ e ∈ more, ∀ owner, e.after.outcome ≠ some (.started owner)) :
    s.status.value ≠ .running := by
  intro hr
  obtain ⟨worker, -, e, he, hruns⟩ := h₀.runs_since h hnot hr
  exact hnone e he worker (h.started_of_runs (List.mem_append_left _ he) hruns)

/-! ### Workers that are gone -/

theorem Gone.channel (hg : Gone es s worker) : ∃ c, s.channels[worker]? = some c :=
  ⟨_, List.getElem?_eq_getElem hg.been⟩

private theorem Gone.shut (hg : Gone es s worker) (h : Run options process es s) (hc : s.channels[worker]? = some c) :
    c.mailbox.isOpen = false ∧ c.reader.isOver = true := by
  refine ⟨h.mailbox_shut hc hg.free hg.left, ?_⟩
  rw [getElem?_channels] at hc
  obtain ⟨w, hw, rfl⟩ := Option.map_eq_some_iff.1 hc
  exact h.sound.rest worker w hw hg.free hg.left

private theorem Gone.step (hg : Gone es s worker) (h : Run options process es s) (hstep : s.step now label = some s') :
    Gone (⟨s, now, label, s'⟩ :: es) s' worker := by
  have hdeed := h.deed hstep
  obtain ⟨c, hc⟩ := hg.channel
  obtain ⟨c', hc', -⟩ := hdeed.view hc
  refine ⟨(List.getElem?_eq_some_iff.1 hc').1, fun hheld => hg.free (h.sound.held hdeed hc hheld), ?_⟩
  rw [orphans_cons, List.mem_append, not_or]
  refine ⟨fun horphan => ?_, hg.left⟩
  -- only a stop that holds it can leave it to itself
  unfold Entry.orphan? at horphan
  split at horphan
  · exact hg.free (held?_of_stopping (Option.mem_toList.1 horphan))
  · cases horphan

private theorem Gone.mail (hg : Gone es s worker) (h : Run options process es s) (hstep : s.step now label = some s') :
    Entry.mail worker ⟨s, now, label, s'⟩ = [] := by
  unfold Entry.mail
  rcases (h.deed hstep).on?_cases worker with hnone | ⟨c, m, c', hc, hmake, hon⟩
  · rw [hnone]
  · obtain ⟨hshut, hover⟩ := hg.shut h hc
    rw [hon]
    have hmails := Channel.mails_of_make hmake
    simp only
    generalize Channel.Entry.letters ⟨c, m, c'⟩ = posted at hmails ⊢
    cases hmails with
    | silent => rfl
    | reply _ hr =>
      rw [hr] at hover
      cases hover
    | caller _ _ _ hopen _ =>
      rw [hshut] at hopen
      cases hopen

/-- Whoever has not got past the gate before is only turned away. -/
private theorem Gone.barred (hg : Gone es s worker) (h : Run options process es s) (hstep : s.step now label = some s')
    {stage : Attendant.Stage} (hkey : s'.callerOf? worker key = some ⟨job, stage⟩) (hjob : job ≠ .finish)
    (hb : ∀ stage, s.callerOf? worker key = some ⟨job, stage⟩ → Channel.Barred stage) : Channel.Barred stage := by
  obtain ⟨c, hc⟩ := hg.channel
  obtain ⟨c', hc', hview⟩ := (h.deed hstep).view hc
  rw [callerOf?_eq hc'] at hkey
  rw [callerOf?_eq hc] at hb
  rcases hview.caller_before hkey with ⟨stage₀, hkey₀⟩ | ⟨-, hgate, -⟩
  · have hbarred := hb stage₀ hkey₀
    rcases hview.make with rfl | ⟨m, hmake, -⟩
    · cases hkey.symm.trans hkey₀
      exact hbarred
    · obtain ⟨after, hafter, hbarred'⟩ :=
        Channel.barred_of_make hmake (hg.shut h hc).1 hkey₀ hjob hbarred
      cases hkey.symm.trans hafter
      exact hbarred'
  · exact Or.inl hgate

private theorem Gone.since (hg : Gone base s₀ worker) (h₀ : Run options process base s₀)
    (h : Run options process (more ++ base) s) :
    Gone (more ++ base) s worker ∧ (∀ e ∈ more, e.mail worker = []) ∧
      ∀ key job stage, s.callerOf? worker key = some ⟨job, stage⟩ → job ≠ .finish →
        (∀ stage, s₀.callerOf? worker key = some ⟨job, stage⟩ → stage = .gate) → Channel.Barred stage := by
  induction more, s, h using h₀.since with
  | start => exact ⟨hg, by simp, fun key job stage hkey _ hgate => Or.inl (hgate stage hkey)⟩
  | move more s s' now label hrun hstep ih =>
    obtain ⟨hgone, hmail, hbarred⟩ := ih
    refine ⟨hgone.step hrun hstep, ?_, fun key job stage hkey hjob hgate => ?_⟩
    · exact List.forall_mem_cons.2 ⟨hgone.mail hrun hstep, hmail⟩
    · exact hgone.barred hrun hstep hkey hjob fun stage' hkey' => hbarred key job stage' hkey' hjob hgate

/-- Whoever is turned away there can go on until it is over. -/
private theorem Gone.goes_on (hg : Gone es s worker) (h : Run options process es s) {stage : Attendant.Stage}
    (hkey : s.callerOf? worker key = some ⟨job, stage⟩) (hb : Channel.Barred stage) (ho : stage.isOver = false)
    (now : Nat) : ∃ s', s.step now (.channel worker (.caller key)) = some s' := by
  obtain ⟨w, hw, hcaller⟩ := Option.bind_eq_some_iff.1 hkey
  obtain ⟨hshut, -⟩ := hg.shut h (channel_of_worker hw)
  obtain ⟨c', hstep⟩ := Channel.goes_on_of_barred hcaller hshut hb ho now s.status.value
  exact ⟨_, step_of_stepCaller hw hstep⟩

private theorem outcome_of_barred {outcome : Except RequestFault Value}
    (hb : Channel.Barred (.done outcome)) :
    outcome = .error .notConnected ∨ outcome = .error .transportClosed ∨ outcome = .error .encode := by
  rcases hb with hb | (hb | ⟨_, hb⟩ | hb | hb) | hb | hb <;> cases hb
  · exact Or.inr (Or.inl rfl)
  · exact Or.inl rfl
  · exact Or.inr (Or.inr rfl)

private theorem Gone.deserted (hg : Gone base s₀ worker) (h₀ : Run options process base s₀)
    (h : Run options process (more ++ base) s) : Deserted s₀ more s worker := by
  obtain ⟨hgone, hmail, hbarred⟩ := hg.since h₀ h
  refine ⟨hmail, fun key job stage hkey hguarded hgate => ?_⟩
  have hjob : job ≠ .finish := by
    rintro rfl
    cases hguarded
  have hb := hbarred key job stage hkey hjob hgate
  refine ⟨fun ho => hgone.goes_on h hkey hb ho, ?_⟩
  rintro outcome rfl
  exact outcome_of_barred hb

/-- The gate of a channel is open exactly while some worker is up, and whoever asks for a running worker is refused
there otherwise. After a stop that is so for as long as no start has ended well; then the gate of every worker is open
again, but of the channel of one that has been let go for good nothing comes any more. -/
theorem Run.admitted (h : Run options process es s) :
    (s.isConnected = true ↔ ∃ owner, Up s owner) ∧
    (∀ worker key job, s.callerOf? worker key = some ⟨job, .gate⟩ → job.guarded = true → ∀ now,
      ∃ s', s.step now (.channel worker (.caller key)) = some s' ∧
        (s'.outcomeOf? worker key = some (.error .notConnected) ↔ ¬∃ owner, Up s owner)) ∧
    (s.outcome = some .stopped → s.held? = none ∧ ∀ later s', Run options process (later ++ es) s' →
      (∀ e ∈ later, ∀ owner, e.after.outcome ≠ some (.started owner)) → s'.isConnected = false) ∧
    ∀ worker, Gone es s worker → ∀ later s', Run options process (later ++ es) s' → Deserted s later s' worker := by
  refine ⟨h.isConnected_iff, fun worker key job hkey hg now => ?_, fun hs => ?_,
    fun worker hgone later s' h' => hgone.deserted h h'⟩
  · obtain ⟨s', hstep, hrefused⟩ := gate_step hkey hg now
    refine ⟨s', hstep, ?_⟩
    rw [hrefused, ← h.isConnected_iff, isConnected_eq_true]
  · obtain ⟨hnone, hidle⟩ := h.steady.told _ hs
    have hfree : s.stage = .free := by
      by_contra hbusy
      cases hs.symm.trans (h.steady.busy hbusy)
    refine ⟨by rw [held?, hfree]; exact hnone, fun later s' h' hstarts => ?_⟩
    have hnot : s.status.value ≠ .running := by
      intro hr
      cases hidle.symm.trans hr
    rw [Bool.eq_false_iff, Ne, isConnected_eq_true]
    exact h.not_running_since h' hnot hstarts

end

/-- A request of somebody who asks for a running worker. -/
def visit : Job := .ask true "m" .absent ⟨0⟩

/-- A worker is started and runs; its stream ends, it is stopped, and another one is started and runs. Then somebody
comes to the gate of the first one, and fails behind it. -/
private theorem exists_visit : ∃ base s₀ later s more s', Run someOptions 1 base s₀ ∧ s₀.outcome = some .stopped ∧
    0 < s₀.channels.length ∧ orphans base = [] ∧ Run someOptions 1 (later ++ base) s ∧ s.current = some 1 ∧
    s.isConnected = true ∧ s.callerOf? 0 3 = some ⟨visit, .gate⟩ ∧ Run someOptions 1 (more ++ (later ++ base)) s' ∧
    s₀.callerOf? 0 3 = none ∧ s'.callerOf? 0 3 = some ⟨visit, .done (.error .transportClosed)⟩ := by
  have idle : Run someOptions 1 [] _ := Run.fresh
  have running := idle.play (welcoming 0) rfl
  have failed := running.play [.act 0 .closesOutput, .channel 0 .reader, .channel 0 .reader] rfl
  have closed := failed.play [.begin .stop, .proceed, .channel 0 (.caller 2), .channel 0 (.caller 2), .proceed] rfl
  have stopped := closed.play [.exited 0 (.code 0), .proceed, .proceed] rfl
  have come := stopped.play (welcoming 1 ++ [.enter 0 visit]) rfl
  have ended := come.play (List.replicate 6 (.channel 0 (.caller 3))) rfl
  exact ⟨_, _, _, _, _, _, stopped, rfl, Nat.one_pos, rfl, come, rfl, rfl, rfl, ended, rfl, rfl⟩

/-- The visitor gets past the gate by grace of the second worker, and fails; nothing is posted for the first one. -/
theorem admitted_by_another : ∃ base s₀ later s s', Run someOptions 1 base s₀ ∧ Gone base s₀ 0 ∧
    Run someOptions 1 (later ++ base) s ∧ Up s 1 ∧ s.callerOf? 0 3 = some ⟨visit, .gate⟩ ∧
    s.step 0 (.channel 0 (.caller 3)) = some s' ∧ s'.outcomeOf? 0 3 ≠ some (.error .notConnected) ∧
    ∃ more s'', Run someOptions 1 (more ++ base) s'' ∧ s₀.callerOf? 0 3 = none ∧
      s''.callerOf? 0 3 = some ⟨visit, .done (.error .transportClosed)⟩ ∧ Deserted s₀ more s'' 0 := by
  obtain ⟨base, s₀, later, s, more, s'', hbase, hstopped, hbeen, horphans, hrun, hcur, hconn, hgate, hover, hnobody,
    hdone⟩ := exists_visit
  obtain ⟨-, -, hstop, hgone⟩ := hbase.admitted
  obtain ⟨hfree, -⟩ := hstop hstopped
  have hzero : Gone base s₀ 0 := ⟨hbeen, by rw [hfree]; nofun, by rw [horphans]; exact List.not_mem_nil⟩
  obtain ⟨hup, hpass, -, -⟩ := hrun.admitted
  obtain ⟨owner, howner⟩ := hup.1 hconn
  obtain rfl : 1 = owner := Option.some.inj (hcur.symm.trans howner.owned)
  obtain ⟨s', hstep, hrefused⟩ := hpass 0 3 visit hgate rfl 0
  rw [← List.append_assoc] at hover
  exact ⟨base, s₀, later, s, s', hbase, hzero, hrun, howner, hgate, hstep, fun ho => hrefused.1 ho ⟨1, howner⟩,
    more ++ later, s'', hover, hnobody, hdone, hgone 0 hzero _ _ hover⟩

/-- So it is not true that after a stop whoever asks for a running worker at the gate of the worker that has been
stopped is refused for ever, nor that only those get past a gate whose worker is owned. -/
theorem not_own_gate : ¬∀ (options : WorkerOptions) (process : Nat) (base later : List Entry) (s₀ s s' : Supervisor)
    (now worker key : Nat) (job : Job), Run options process base s₀ → s₀.outcome = some .stopped →
      worker < s₀.channels.length → Run options process (later ++ base) s →
      s.callerOf? worker key = some ⟨job, .gate⟩ → job.guarded = true → s.current ≠ some worker →
      s.step now (.channel worker (.caller key)) = some s' →
      s'.outcomeOf? worker key = some (.error .notConnected) := by
  intro h
  obtain ⟨base, s₀, later, s, -, -, hbase, hstopped, hbeen, -, hrun, hcur, hconn, hgate, -, -, -⟩ := exists_visit
  obtain ⟨s', hstep, hrefused⟩ := gate_step hgate rfl 0
  have hother : s.current ≠ some 0 := by
    rw [hcur]
    decide
  have hrefusal := h someOptions 1 base later s₀ s s' 0 0 3 visit hbase hstopped hbeen hrun hgate rfl hother hstep
  exact hrefused.1 hrefusal (isConnected_eq_true.1 hconn)

end Attendant.Supervisor

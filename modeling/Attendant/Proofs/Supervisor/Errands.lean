import Attendant.Proofs.Supervisor.Deeds

/-!
# Who is on a channel

Those who use a channel from outside ask for a running worker. Whoever else is on it has come with an errand of a call:
the worker is greeted, told that its answer has been heard, asked to stop, told to exit, and told nothing more. A call
goes through the errands in this order (`Errand.next`), and no step goes back behind one (`Sound.reach_le`), whatever
calls are given up.

* `Crew` says who is on a channel, and what is known from it: nobody comes twice with one errand (`Crew.key_eq`), and
  the errands that part from a worker begin only after it has been said to be running;
* `Run.crew`: so it is with every channel along every run in which nobody is let past the check (`Label.isPublic`).

`Run.since` is the induction over the later part of a run.
-/

namespace Attendant

/-- The jobs of a channel that do not ask for a running worker, with the keys of their callers. -/
def Channel.own (c : Channel) : List (Job × Nat) := c.jobs.zipIdx.filter fun p => !p.1.guarded

namespace Channel

section

variable {c c' : Channel} {key : Nat} {job : Job}

private theorem mem_own {stage : Stage} (hc : c.callers[key]? = some ⟨job, stage⟩) (hg : job.guarded = false) :
    (job, key) ∈ c.own := by
  refine List.mem_filter.2 ⟨List.mem_zipIdx_iff_getElem?.2 ?_, by simp [hg]⟩
  rw [getElem?_jobs, hc]
  rfl

private theorem own_of_jobs (h : c'.jobs = c.jobs) : c'.own = c.own := by
  rw [own, own, h]

private theorem own_enter (c : Channel) (job : Job) :
    (c.enter job).1.own = c.own ++ if job.guarded then [] else [(job, c.callers.length)] := by
  have hjobs : (c.enter job).1.jobs = c.jobs ++ [job] := by simp [jobs, enter]
  have hlen : c.jobs.length = c.callers.length := by simp [jobs]
  rw [own, hjobs, List.zipIdx_append, List.filter_append, own, hlen, Nat.zero_add]
  cases hg : job.guarded <;> simp [hg]

end

end Channel

namespace Supervisor

/-- Whether a step may be made from outside: whoever comes from there asks for a running worker. -/
def Label.isPublic : Label → Bool
  | .enter _ job => job.guarded
  | _ => true

/-- What a worker is asked and told by the calls that start and stop it, in this order. -/
def errands (s : Supervisor) (launch : Launch) : List Job := [s.greeting launch, notice, farewell, dismissal, .finish]

/-- How many of the errands the stage of a call leaves behind, or has begun. -/
def Stage.rank : Stage → Nat
  | .greeting _ _ => 1
  | .confirming _ _ => 2
  | .asking _ _ _ => 3
  | .leaving _ _ _ => 4
  | _ => 5

/-- How many of the errands a worker may have seen the beginning of. -/
def reach (s : Supervisor) (worker : Nat) : Nat :=
  if s.stage.awaits?.map Prod.fst = some worker then s.stage.rank else if s.current = some worker then 2 else 5

theorem errands_nodup (s : Supervisor) (launch : Launch) : (s.errands launch).Nodup := by
  simp [errands, greeting, notice, farewell, dismissal]

section

variable {left : List Nat} {s s' : Supervisor} {now worker key : Nat} {label : Label} {c c' : Channel} {job : Job}

private theorem rank_le_five (stage : Stage) : stage.rank ≤ 5 := by
  cases stage <;> simp [Stage.rank]

private theorem reach_le_five (s : Supervisor) (worker : Nat) : s.reach worker ≤ 5 := by
  unfold reach
  split
  · exact rank_le_five _
  · split <;> decide

private theorem reach_of_awaits (h : s.stage.awaits? = some (worker, key)) : s.reach worker = s.stage.rank := by
  simp [reach, h]

private theorem reach_of_not_awaits (h : s.stage.awaits?.map Prod.fst ≠ some worker) :
    s.reach worker = if s.current = some worker then 2 else 5 := if_neg h

private theorem Sound.rank_le (h : Sound left s) (ha : s.stage.awaits? = some (worker, key))
    (hc : s.current = some worker) : s.stage.rank ≤ 2 := by
  have hstopping (hstop : s.stage.stopping? = some worker) : s.stage.rank ≤ 2 := by
    rw [(h.stopping worker hstop).1] at hc
    cases hc
  cases hs : s.stage with
  | greeting _ _ | confirming _ _ => simp [Stage.rank]
  | asking _ _ _ | leaving _ _ _ | closing _ _ _ =>
    rw [hs] at ha hstopping
    cases ha
    exact hstopping rfl
  | _ =>
    rw [hs] at ha
    cases ha

private theorem Sound.reach_le_of_rest (h : Sound left s) (hw : s'.stage.awaits? = none)
    (hcur : s'.current = s.current) : s.reach worker ≤ s'.reach worker := by
  have hafter : s'.reach worker = if s'.current = some worker then 2 else 5 :=
    reach_of_not_awaits (by rw [hw]; nofun)
  by_cases ha : s.stage.awaits?.map Prod.fst = some worker
  · obtain ⟨⟨_, key⟩, hkey, rfl⟩ := Option.map_eq_some_iff.1 ha
    rw [hafter, hcur, reach_of_awaits hkey]
    split
    · rename_i hc
      exact h.rank_le hkey hc
    · exact rank_le_five _
  · rw [hafter, hcur, reach_of_not_awaits ha]

private theorem Errand.awaits (h : Errand s worker key job s'.stage) : s'.stage.awaits? = some (worker, key) := by
  generalize s'.stage = stage at h ⊢
  cases h <;> rfl

private theorem Errand.next (h : Errand s worker key job s'.stage) (launch : Launch) :
    ∃ n, (s.errands launch)[n]? = some job ∧ s.reach worker ≤ n ∧ n < s'.reach worker := by
  rw [reach_of_awaits h.awaits]
  generalize s'.stage = stage at h ⊢
  have hasked {asked n : Nat} (ha : s.stage.awaits? = some (worker, asked)) (hn : s.stage.rank ≤ n) :
      s.reach worker ≤ n := by rwa [reach_of_awaits ha]
  have htaken {next : Option Launch} (hs : s.stage = .taking next) (hc : s.current = some worker) :
      s.reach worker = 2 := by
    rw [reach_of_not_awaits (by rw [hs]; nofun), if_pos hc]
  cases h with
  | notice hs _ => exact ⟨1, rfl, hasked (by rw [hs]; rfl) (by rw [hs]; exact Nat.le_refl 1), Nat.lt_succ_self 1⟩
  | farewell hs hc _ => exact ⟨2, rfl, Nat.le_of_eq (htaken hs hc), Nat.lt_succ_self 2⟩
  | dismissal hs _ => exact ⟨3, rfl, hasked (by rw [hs]; rfl) (by rw [hs]; exact Nat.le_refl 3), Nat.lt_succ_self 3⟩
  | finish hs hc => exact ⟨4, rfl, by rw [htaken hs hc]; decide, Nat.lt_succ_self 4⟩
  | close hs _ =>
    refine ⟨4, rfl, ?_, Nat.lt_succ_self 4⟩
    rcases hs with hs | hs
    · exact hasked (by rw [hs]; rfl) (by rw [hs]; exact Nat.le_succ 3)
    · exact hasked (by rw [hs]; rfl) (by rw [hs]; exact Nat.le_refl 4)

/-- No step goes back behind an errand. -/
private theorem Sound.reach_le (h : Sound left s) (hd : Deed s now label s') (hc : s.channels[worker]? = some c) :
    s.reach worker ≤ s'.reach worker := by
  have hsame (hst : s'.stage = s.stage) (hcur : s'.current = s.current) : s.reach worker ≤ s'.reach worker := by
    rw [reach, reach, hst, hcur]
  have hfive (h5 : s'.reach worker = 5) : s.reach worker ≤ s'.reach worker := by
    rw [h5]
    exact reach_le_five s worker
  cases hd with
  | aside _ _ hst hcur | task _ _ _ hst hcur | act _ hst hcur | enter _ hst hcur | leave _ hst hcur =>
    exact hsame hst hcur
  | plain _ _ _ hcur hw _ => exact h.reach_le_of_rest hw hcur
  | forget _ _ hst hcur | resign _ _ _ hst hcur => exact h.reach_le_of_rest (by rw [hst]; rfl) hcur
  | abort _ _ hcur _ hw _ =>
    refine hfive ?_
    rw [reach_of_not_awaits (by rw [hw]; nofun), hcur]
    rfl
  | adopt hs _ hst hcur =>
    have hlt := (List.getElem?_eq_some_iff.1 hc).1
    have hne : s.channels.length ≠ worker := by omega
    refine hfive ?_
    rw [reach_of_not_awaits (by rw [hst]; simpa [Stage.awaits?] using hne), hcur]
    simp [hne]
  | @errand other _ _ _ he _ _ hcur _ _ =>
    by_cases hne : other = worker
    · subst hne
      obtain ⟨n, -, hle, hlt⟩ := he.next { command := "" }
      omega
    · refine hfive ?_
      rw [reach_of_not_awaits (by rw [he.awaits]; simpa using hne)]
      rcases hcur with hcur | hcur <;> simp [hcur, hne]

/-- On a channel there are no other newcomers than those from outside, who ask for a running worker, and errands. -/
private theorem View.own (h : View s now label s' worker c c')
    (hpublic : label.isPublic = true) :
    c'.own = c.own ∨ ∃ key job, Errand s worker key job s'.stage ∧ c'.own = c.own ++ [(job, key)] := by
  have hsame {m : Channel.Move} (hmake : c.make? m = some c') (hm : ∀ job, m ≠ .enter job) : c'.own = c.own :=
    Channel.own_of_jobs (Channel.jobs_of_make hmake hm)
  cases h with
  | still _ => exact Or.inl rfl
  | @task task next _ hn =>
    exact Or.inl (hsame (m := .step now s.status task) (congrArg (Option.map Prod.snd) hn) nofun)
  | @act act _ => exact Or.inl (hsame (m := .act act) rfl nofun)
  | @leave key _ | @forget key _ _ => exact Or.inl (hsame (m := .abandon key) rfl nofun)
  | abort _ _ _ => exact Or.inl (hsame (m := .abort) rfl nofun)
  | @enter job hl =>
    left
    rw [hl] at hpublic
    rw [Channel.own_enter, if_pos (show job.guarded = true from hpublic), List.append_nil]
  | @errand key job _ he hkey =>
    refine Or.inr ⟨key, job, he, ?_⟩
    have hg : job.guarded = false := by
      generalize s'.stage = stage at he
      cases he <;> rfl
    rw [Channel.own_enter, hg, hkey]
    rfl

/-- The caller that is waited for is waited for still, or it has come to its end, or it is given up. -/
private theorem Deed.awaits (h : Deed s now label s') (ha : s.stage.awaits? = some (worker, key)) :
    s'.stage.awaits? = some (worker, key) ∨ (∃ outcome, s.outcomeOf? worker key = some outcome) ∨
      s'.channels = s.channels.modify worker (·.abandon key) := by
  have hsame (hst : s'.stage = s.stage) : s'.stage.awaits? = some (worker, key) := by rw [hst, ha]
  cases h with
  | aside _ _ hst _ | task _ _ _ hst _ | act _ hst _ | enter _ hst _ | leave _ hst _ => exact Or.inl (hsame hst)
  | plain _ _ _ _ _ hdone | abort _ _ _ _ _ hdone => exact Or.inr (Or.inl (hdone _ _ ha))
  | adopt hs _ _ _ =>
    rw [hs] at ha
    cases ha
  | errand he _ _ _ _ _ =>
    generalize s'.stage = stage at he
    right
    left
    cases he with
    | notice hs ho | dismissal hs ho =>
      rw [hs] at ha
      cases ha
      exact ⟨_, ho⟩
    | farewell hs _ _ | finish hs _ =>
      rw [hs] at ha
      cases ha
    | close hs ho =>
      rcases hs with hs | hs
      · rw [hs] at ha
        cases ha
        exact ⟨_, ho⟩
      · rw [hs] at ha
        cases ha
        exact ⟨_, ho⟩
  | forget hs hcs _ _ =>
    rw [hs] at ha
    cases ha
    exact Or.inr (Or.inr hcs)
  | resign _ hw _ _ _ =>
    rw [hw] at ha
    cases ha

end

/-! ### Workers that have been running -/

/-- A worker is said to be running, and is the one that is owned. -/
def Entry.Runs (e : Entry) (worker : Nat) : Prop :=
  e.before.status.value ≠ .running ∧ e.after.status.value = .running ∧ e.after.current = some worker

/-- A worker has been said to be running. -/
def Ran (es : List Entry) (worker : Nat) : Prop := ∃ e ∈ es, e.Runs worker

section

variable {options : WorkerOptions} {process : Nat} {base more : List Entry} {s s' s₀ : Supervisor}
  {now worker : Nat} {label : Label}

theorem Ran.cons (h : Ran es worker) (e : Entry) : Ran (e :: es) worker := by
  obtain ⟨e', he, hr⟩ := h
  exact ⟨e', List.mem_cons_of_mem _ he, hr⟩

/-- What has happened says where it has led. -/
theorem Run.unique (h : Run options process es s) (h' : Run options process es s') : s = s' := by
  cases h <;> cases h' <;> rfl

/-- What holds at some point of a run, and is kept by every step from then on, holds ever since. -/
@[elab_as_elim]
theorem Run.since {motive : (more : List Entry) → (s : Supervisor) → Run options process (more ++ base) s → Prop}
    (h₀ : Run options process base s₀) (start : motive [] s₀ h₀)
    (move : ∀ (more : List Entry) (s s' : Supervisor) (now : Nat) (label : Label)
      (hrun : Run options process (more ++ base) s) (hstep : s.step now label = some s'), motive more s hrun →
        motive (⟨s, now, label, s'⟩ :: more) s' (hrun.move now label hstep))
    (more : List Entry) (s : Supervisor) (h : Run options process (more ++ base) s) : motive more s h := by
  induction more generalizing s with
  | nil =>
    obtain rfl := h₀.unique h
    exact start
  | cons e more ih =>
    cases h with
    | move now label hrun hstep => exact move _ _ _ now label hrun hstep (ih _ hrun)

/-- While a worker is said to be running, one is owned, and none is being stopped. -/
theorem Steady.owned {h : Helm} (hs : Steady h) (hr : h.status.value = .running) :
    (∃ worker, h.current = some worker) ∧ h.stage.stopping? = none := by
  have hfits := hs.fits
  rw [hr] at hfits
  cases hstage : h.stage with
  | free | checking _ | taking _ =>
    rw [hstage] at hfits
    refine ⟨Option.ne_none_iff_exists'.1 fun hnone => ?_, rfl⟩
    have hdown := hfits.1 hnone
    cases hdown
  | clearing _ _ | spawning _ =>
    rw [hstage] at hfits
    cases hfits.2
  | greeting _ _ | confirming _ _ =>
    rw [hstage] at hfits
    rcases hfits.2 with hst | hst <;> cases hst
  | discarding _ _ =>
    rw [hstage] at hfits
    cases hfits.2.1
  | asking _ _ _ | leaving _ _ _ | closing _ _ _ | ending _ _ _ =>
    rw [hstage] at hfits
    cases hfits.2

/-- The worker that is said to be running is the one that has been all the time. -/
private theorem Run.same_running (h : Run options process es s) (hstep : s.step now label = some s')
    (hr : s.status.value = .running) (hr' : s'.status.value = .running) : s'.current = s.current := by
  rcases (turn_of_step hstep).current_cases with hsame | hnone | ⟨-, launch, hs⟩
  · exact hsame
  · obtain ⟨⟨worker, hc⟩, -⟩ := (h.move now label hstep).steady.owned hr'
    cases hc.symm.trans hnone
  · have hdown := (h.sound.between (by rw [hs]; rfl)).2
    rw [hr] at hdown
    cases hdown

/-- If a worker is running now and none was then, it has been said so since, and of the worker that is owned. -/
theorem Run.runs_since (h₀ : Run options process base s₀) (h : Run options process (more ++ base) s)
    (hnot : s₀.status.value ≠ .running) (hr : s.status.value = .running) :
    ∃ worker, s.current = some worker ∧ Ran more worker := by
  induction more, s, h using h₀.since with
  | start => exact absurd hr hnot
  | move more before s now label hrun hstep ih =>
    by_cases hr₀ : before.status.value = .running
    · obtain ⟨worker, hc, hran⟩ := ih hr₀
      exact ⟨worker, (hrun.same_running hstep hr₀ hr).trans hc, hran.cons _⟩
    · obtain ⟨⟨worker, hc⟩, -⟩ := (hrun.move now label hstep).steady.owned hr
      exact ⟨worker, hc, _, List.mem_cons_self, hr₀, hr, hc⟩

/-- A state that says running says it of the worker that is owned. -/
theorem Run.ran_of_running (h : Run options process es s) (hr : s.status.value = .running) :
    ∃ worker, s.current = some worker ∧ s.held? = some worker ∧ Ran es worker := by
  have hwhole : Run options process (es ++ []) s := by rwa [List.append_nil]
  obtain ⟨worker, hc, hran⟩ := Run.fresh.runs_since hwhole nofun hr
  have hstop : s.stage.stopping? = none := (h.steady.owned hr).2
  refine ⟨worker, hc, ?_, hran⟩
  rw [held?_of_not_stopping hstop, hc]

/-- Nobody is asked to stop who has not been running. -/
private theorem Run.ran_of_asking (h : Run options process es s) {key : Nat} {next : Option Launch}
    (hs : s.stage = .asking worker key next) : Ran es worker := by
  induction h with
  | fresh => cases hs
  | @move es s s' now label hrun hstep ih =>
    have hkept (hst : s'.stage = s.stage) : Ran (⟨s, now, label, s'⟩ :: es) worker :=
      (ih (hst.symm.trans hs)).cons _
    cases hrun.deed hstep with
    | aside _ _ hst _ | task _ _ _ hst _ | act _ hst _ | enter _ hst _ | leave _ hst _ => exact hkept hst
    | plain _ _ _ _ hw _ | abort _ _ _ _ hw _ =>
      rw [hs] at hw
      cases hw
    | adopt _ _ hst _ | forget _ _ hst _ | resign _ _ _ hst _ =>
      rw [hs] at hst
      cases hst
    | errand he _ _ _ _ _ =>
      rw [hs] at he
      cases he with
      | farewell _ hc hr =>
        obtain ⟨other, hc', -, hran⟩ := hrun.ran_of_running hr
        obtain rfl := Option.some.inj (hc.symm.trans hc')
        exact hran.cons _

/-- That a worker is running is said by the start that ends with it. -/
theorem Run.started_of_runs (h : Run options process es s) {e : Entry} (he : e ∈ es) (hr : e.Runs worker) :
    e.after.outcome = some (.started worker) := by
  obtain ⟨earlier, hrun, hstep⟩ := h.before he
  obtain ⟨hnot, hrunning, hc⟩ := hr
  have hne : e.after.helm.status ≠ e.before.status := fun heq =>
    hnot ((congrArg Watched.value heq).symm.trans hrunning)
  obtain ⟨-, started, ho⟩ := running_of_turn (turn_of_step hstep) hne hrunning
  obtain ⟨hcur, -⟩ := (hrun.move e.now e.label hstep).steady.told _ ho
  obtain rfl := Option.some.inj (hcur.symm.trans hc)
  exact ho

/-- A worker that has been said to be running has answered its greeting, and has been told so. -/
theorem Run.greeted_of_ran (h : Run options process es s) (hran : Ran es worker) : Greeted s worker := by
  induction h with
  | fresh =>
    obtain ⟨e, he, -⟩ := hran
    cases he
  | @move es s s' now label hrun hstep ih =>
    obtain ⟨e, he, hruns⟩ := hran
    have hafter := hrun.move now label hstep
    rcases List.mem_cons.1 he with rfl | hearlier
    · exact hafter.hailed.greeted _ (hafter.started_of_runs he hruns)
    · exact (ih ⟨e, hearlier, hruns⟩).lasts (lasts_of_step hstep)

end

/-! ### Who is on a channel -/

/-- What is known about the callers on the channel of a worker: the first one greets it; whoever else does not ask for a
running worker has come with an errand, in the order of errands, and is waited for until it has come to its end. Whoever
does ask for one has got past the gate only if this worker has been running, or is not held any more. -/
structure Crew (es : List Entry) (s : Supervisor) (worker : Nat) (c : Channel) : Prop where
  order : ∃ launch, s.workers[worker]?.map (·.launch) = some launch ∧
    (∃ stage, c.callers[(0 : Nat)]? = some ⟨s.greeting launch, stage⟩) ∧
    (c.own.map Prod.fst).Sublist ((s.errands launch).take (s.reach worker))
  busy : ∀ (key : Nat) (caller : Caller), c.callers[key]? = some caller → caller.job.guarded = false →
    caller.stage.isOver = false → s.stage.awaits? = some (worker, key)
  noticed : ∀ (key : Nat) (stage : Attendant.Stage), c.callers[key]? = some ⟨notice, stage⟩ → Answered s worker
  parted : ∀ (key : Nat) (job : Job) (stage : Attendant.Stage), c.callers[key]? = some ⟨job, stage⟩ →
    job = farewell ∨ job = dismissal → Ran es worker
  guests : ∀ (key : Nat) (caller : Caller), c.callers[key]? = some caller → caller.job.guarded = true →
    caller.stage.isUnsent = true → Ran es worker ∨ s.held? ≠ some worker

section

variable {options : WorkerOptions} {process : Nat} {es : List Entry} {s s' : Supervisor} {now worker : Nat}
  {label : Label} {c c' : Channel} {left : List Nat} {job : Job}

theorem callerOf?_eq (hc : s.channels[worker]? = some c) (key : Nat) : s.callerOf? worker key = c.callers[key]? := by
  rw [getElem?_channels] at hc
  obtain ⟨w, hw, rfl⟩ := Option.map_eq_some_iff.1 hc
  rw [callerOf?, hw]
  rfl

theorem exists_channel {caller : Caller} {key : Nat} (hkey : s.callerOf? worker key = some caller) :
    ∃ c, s.channels[worker]? = some c ∧ c.callers[key]? = some caller := by
  obtain ⟨w, hw, hcaller⟩ := Option.bind_eq_some_iff.1 hkey
  exact ⟨w.channel, channel_of_worker hw, hcaller⟩

/-- Nobody comes twice with one errand. -/
theorem Crew.key_eq (h : Crew es s worker c) {key other : Nat} {job : Job} {stage stage' : Attendant.Stage}
    (hg : job.guarded = false) (hc : c.callers[key]? = some ⟨job, stage⟩)
    (hc' : c.callers[other]? = some ⟨job, stage'⟩) : key = other := by
  obtain ⟨launch, -, -, hsub⟩ := h.order
  have hnodup : (c.own.map Prod.fst).Nodup :=
    (hsub.trans (List.take_sublist _ _)).nodup (errands_nodup s launch)
  have heq := List.inj_on_of_nodup_map hnodup (Channel.mem_own hc hg) (Channel.mem_own hc' hg) rfl
  exact congrArg Prod.snd heq

/-- Whoever does not ask for a running worker is on an errand. -/
theorem Crew.mem_errands (h : Crew es s worker c) {key : Nat} {job : Job} {stage : Attendant.Stage}
    (hc : c.callers[key]? = some ⟨job, stage⟩) (hg : job.guarded = false) :
    ∃ launch, s.workers[worker]?.map (·.launch) = some launch ∧
      (job = s.greeting launch ∧ key = 0 ∨ job = notice ∨ job = farewell ∨ job = dismissal ∨ job = .finish) := by
  obtain ⟨launch, hl, ⟨first, hfirst⟩, hsub⟩ := h.order
  have hmem : job ∈ s.errands launch :=
    List.mem_of_mem_take (hsub.subset (List.mem_map_of_mem (Channel.mem_own hc hg)))
  refine ⟨launch, hl, ?_⟩
  simp only [errands, List.mem_cons, List.not_mem_nil, or_false] at hmem
  rcases hmem with rfl | hmem
  · exact Or.inl ⟨rfl, h.key_eq hg hc hfirst⟩
  · exact Or.inr hmem

private theorem Crew.newcomer (hstep : s.step now label = some s') (hd : Deed s now label s')
    (hc : s.channels[worker]? = none) (hc' : s'.channels[worker]? = some c') : Crew es s' worker c' := by
  obtain ⟨hworker, rfl, hst, hcur, launch, hs, rfl⟩ := hd.newcomer hc hc'
  have hlasts := lasts_of_step hstep
  have hlaunch : s'.workers[worker]?.map (·.launch) = some launch := by
    simp only [step, hs, Option.some.injEq] at hstep
    subst hstep
    rw [hworker, channels, List.length_map]
    exact (adopt_greets s launch).1
  have hgreeting : (s.greeting launch).guarded = false := rfl
  have hown : ((Channel.enter {} (s.greeting launch)).1.own).map Prod.fst = [s.greeting launch] := rfl
  -- the greeting is the only caller
  have honly {key : Nat} {caller : Caller}
      (hkey : (Channel.enter {} (s.greeting launch)).1.callers[key]? = some caller) :
      key = 0 ∧ caller = { job := s.greeting launch } := by
    cases key with
    | zero =>
      cases hkey
      exact ⟨rfl, rfl⟩
    | succ key => cases hkey
  refine ⟨⟨launch, hlaunch, ⟨.gate, ?_⟩, ?_⟩, fun key caller hkey _ _ => ?_, fun key stage hkey => ?_,
    fun key job stage hkey hjob => ?_, fun key caller hkey hg _ => ?_⟩
  · rw [hlasts.greeting_eq]
    rfl
  · have hawaits : s'.stage.awaits? = some (worker, 0) := by rw [hst]; rfl
    have hreach : s'.reach worker = 1 := by
      rw [reach_of_awaits hawaits, hst]
      rfl
    rw [hown, hreach, errands, hlasts.greeting_eq]
    exact .refl _
  · rw [hst, (honly hkey).1]
    rfl
  · cases (honly hkey).2
  · obtain rfl : job = s.greeting launch := congrArg Caller.job (honly hkey).2
    rcases hjob with hjob | hjob <;> simp [greeting, farewell, dismissal] at hjob
  · rw [(honly hkey).2] at hg
    cases hg

/-- Whoever comes and does not ask for a running worker comes with an errand. -/
private theorem View.errand_before (hv : View s now label s' worker c c') (hpublic : label.isPublic = true)
    {key : Nat} {caller : Caller} (hkey : c'.callers[key]? = some caller) (hg : caller.job.guarded = false) :
    (∃ stage, c.callers[key]? = some ⟨caller.job, stage⟩) ∨ Errand s worker key caller.job s'.stage := by
  rcases hv.caller_before hkey with hold | ⟨-, -, henter | he⟩
  · exact Or.inl hold
  · rw [henter] at hpublic
    rw [show caller.job.guarded = true from hpublic] at hg
    cases hg
  · exact Or.inr he

private theorem take_concat_sublist {l : List Job} {r n r' : Nat} (hn : l[n]? = some job) (hle : r ≤ n)
    (hlt : n < r') : (l.take r ++ [job]).Sublist (l.take r') := by
  have hnext : l.take (n + 1) = l.take n ++ [job] := by rw [List.take_add_one, hn]; rfl
  have hreached : (l.take r ++ [job]).Sublist (l.take (n + 1)) := by
    rw [hnext]
    exact (List.take_sublist_take_left hle).append_right [job]
  exact hreached.trans (List.take_sublist_take_left hlt)

private theorem Crew.order_step (h : Crew es s worker c) (hs : Sound left s) (hl : Lasts s s')
    (hd : Deed s now label s') (hc : s.channels[worker]? = some c) (hc' : s'.channels[worker]? = some c')
    (hv : View s now label s' worker c c') (hpublic : label.isPublic = true) :
    ∃ launch, s'.workers[worker]?.map (·.launch) = some launch ∧
      (∃ stage, c'.callers[(0 : Nat)]? = some ⟨s'.greeting launch, stage⟩) ∧
      (c'.own.map Prod.fst).Sublist ((s'.errands launch).take (s'.reach worker)) := by
  obtain ⟨launch, hlaunch, ⟨stage, hfirst⟩, hsub⟩ := h.order
  have herrands : s'.errands launch = s.errands launch := by rw [errands, errands, hl.greeting_eq]
  refine ⟨launch, hl.launch_stays hlaunch, ?_, ?_⟩
  · rw [← callerOf?_eq hc] at hfirst
    obtain ⟨stage', hfirst'⟩ := hl.job_stays hfirst
    rw [callerOf?_eq hc'] at hfirst'
    exact ⟨stage', by rw [hl.greeting_eq, hfirst']⟩
  · rw [herrands]
    rcases hv.own hpublic with hown | ⟨key, job, he, hown⟩
    · rw [hown]
      exact hsub.trans (List.take_sublist_take_left (hs.reach_le hd hc))
    · obtain ⟨n, hn, hle, hlt⟩ := he.next launch
      rw [hown, List.map_append]
      exact (hsub.append_right [job]).trans (take_concat_sublist hn hle hlt)

/-- A caller on an errand is waited for, until it has come to its end or is given up. -/
private theorem Crew.busy_step (h : Crew es s worker c) (hd : Deed s now label s') (hc : s.channels[worker]? = some c)
    (hc' : s'.channels[worker]? = some c') (hv : View s now label s' worker c c')
    (hpublic : label.isPublic = true) {key : Nat} {caller : Caller}
    (hkey : c'.callers[key]? = some caller) (hg : caller.job.guarded = false) (ho : caller.stage.isOver = false) :
    s'.stage.awaits? = some (worker, key) := by
  obtain ⟨job, final⟩ := caller
  rcases hv.errand_before hpublic hkey hg with ⟨stage, hkey₀⟩ | he
  · -- nobody comes back from its end
    have hstill : stage.isOver = false := by
      by_contra hover
      rw [Bool.not_eq_false] at hover
      have hkept : c'.callers[key]? = some ⟨job, stage⟩ := by
        rcases hv.make with rfl | ⟨m, hmake, -⟩
        · exact hkey₀
        · exact Channel.over_stays hmake hkey₀ hover
      obtain rfl : final = stage := congrArg Caller.stage (Option.some.inj (hkey.symm.trans hkept))
      rw [hover] at ho
      cases ho
    have hawaited := h.busy key _ hkey₀ hg hstill
    rcases hd.awaits hawaited with hawaited' | ⟨outcome, hdone⟩ | hgone
    · exact hawaited'
    · obtain ⟨job, hdone⟩ := outcomeOf?_eq_some.1 hdone
      rw [callerOf?_eq hc, hkey₀] at hdone
      cases hdone
      cases hstill
    · rw [hgone, List.getElem?_modify_eq, hc] at hc'
      obtain rfl := Option.some.inj hc'
      rw [Channel.abandon_caller hkey₀, if_neg (by rw [hstill]; nofun)] at hkey
      cases hkey
      cases ho
  · exact he.awaits

private theorem Crew.noticed_step (h : Crew es s worker c) (hhailed : Hailed s) (hl : Lasts s s')
    (hv : View s now label s' worker c c') (hpublic : label.isPublic = true) {key : Nat}
    {stage : Attendant.Stage} (hkey : c'.callers[key]? = some ⟨notice, stage⟩) : Answered s' worker := by
  rcases hv.errand_before hpublic hkey rfl with ⟨stage₀, hkey₀⟩ | he
  · exact (h.noticed key stage₀ hkey₀).lasts hl
  · generalize hjob : Caller.job ⟨notice, stage⟩ = job at he
    generalize s'.stage = next at he
    cases he with
    | notice hs ho =>
      obtain ⟨rfl, stage, hasked⟩ := hhailed.asked worker _ hs
      exact (hasked.answered ho).lasts hl
    | _ => simp [notice, farewell, dismissal] at hjob

private theorem Crew.parted_step (h : Crew es s worker c) (hrun : Run options process es s)
    (hv : View s now label s' worker c c') (hpublic : label.isPublic = true) {key : Nat}
    {stage : Attendant.Stage} (hkey : c'.callers[key]? = some ⟨job, stage⟩)
    (hjob : job = farewell ∨ job = dismissal) : Ran es worker := by
  have hg : job.guarded = false := by rcases hjob with rfl | rfl <;> rfl
  rcases hv.errand_before hpublic hkey hg with ⟨stage₀, hkey₀⟩ | he
  · exact h.parted key job stage₀ hkey₀ hjob
  · generalize s'.stage = next at he
    cases he with
    | farewell _ hc hr =>
      obtain ⟨other, hc', -, hran⟩ := hrun.ran_of_running hr
      obtain rfl := Option.some.inj (hc.symm.trans hc')
      exact hran
    | dismissal hs _ => exact hrun.ran_of_asking hs
    | _ => simp [farewell, dismissal] at hjob

/-- Whoever asks for a running worker and has its message still before it has had it before the step, or gets past the
gate at this step, and then a worker is running. -/
theorem View.passes (hv : View s now label s' worker c c') {key : Nat} {stage : Attendant.Stage}
    (hkey : c'.callers[key]? = some ⟨job, stage⟩) (hg : job.guarded = true) (hs : stage.isUnsent = true) :
    (∃ stage', c.callers[key]? = some ⟨job, stage'⟩ ∧ stage'.isUnsent = true) ∨
      s.status.value = .running ∧ label = .channel worker (.caller key) := by
  rcases hv.caller_before hkey with ⟨stage', hkey'⟩ | ⟨-, hgate, -⟩
  · cases hs' : stage'.isUnsent with
    | true => exact Or.inl ⟨stage', hkey', hs'⟩
    | false =>
      rcases hv.make with rfl | ⟨m, hmake, htask⟩
      · rw [hkey] at hkey'
        cases hkey'
        rw [hs] at hs'
        cases hs'
      · obtain ⟨time, status, hm, hr⟩ := Channel.running_of_make hmake hkey' hkey hg hs' hs
        obtain ⟨rfl, hl⟩ := htask _ _ _ hm
        exact Or.inr ⟨hr, hl⟩
  · obtain rfl : stage = .gate := hgate
    cases hs

/-- Whoever gets past the gate gets there while a worker is running: this one, or another one that is held instead. -/
private theorem Crew.guests_step (h : Crew es s worker c) (hrun : Run options process es s) (hd : Deed s now label s')
    (hc : s.channels[worker]? = some c) (hv : View s now label s' worker c c') {key : Nat} {stage : Attendant.Stage}
    (hkey : c'.callers[key]? = some ⟨job, stage⟩) (hg : job.guarded = true) (hs : stage.isUnsent = true) :
    Ran es worker ∨ s'.held? ≠ some worker := by
  have hlater (hnot : s.held? ≠ some worker) : s'.held? ≠ some worker := fun hheld =>
    hnot (hrun.sound.held hd hc hheld)
  rcases hv.passes hkey hg hs with ⟨stage', hkey', hs'⟩ | ⟨hr, -⟩
  · exact (h.guests key _ hkey' hg hs').imp_right hlater
  · obtain ⟨other, -, hheld, hran⟩ := hrun.ran_of_running hr
    by_cases he : other = worker
    · subst he
      exact Or.inl hran
    · refine Or.inr (hlater fun hheld' => he ?_)
      exact Option.some.inj (hheld.symm.trans hheld')

private theorem Crew.step (h : Crew es s worker c) (hrun : Run options process es s)
    (hstep : s.step now label = some s') (hpublic : label.isPublic = true)
    (hc : s.channels[worker]? = some c) (hc' : s'.channels[worker]? = some c')
    (hv : View s now label s' worker c c') : Crew (⟨s, now, label, s'⟩ :: es) s' worker c' := by
  have hd := hrun.deed hstep
  have hl := lasts_of_step hstep
  exact ⟨h.order_step hrun.sound hl hd hc hc' hv hpublic,
    fun key caller hkey hg ho => h.busy_step hd hc hc' hv hpublic hkey hg ho,
    fun key stage hkey => h.noticed_step hrun.hailed hl hv hpublic hkey,
    fun key job stage hkey hjob => (h.parted_step hrun hv hpublic hkey hjob).cons _,
    fun key caller hkey hg hs => (h.guests_step hrun hd hc hv hkey hg hs).imp_left fun hran => hran.cons _⟩

/-- Along a run the crew of every channel is as it should be. -/
theorem Run.crew (h : Run options process es s) (hpublic : ∀ e ∈ es, e.label.isPublic = true)
    (hc : s.channels[worker]? = some c) : Crew es s worker c := by
  induction h generalizing c with
  | fresh => cases hc
  | @move es s s' now label hrun hstep ih =>
    have hd := hrun.deed hstep
    cases hc₀ : s.channels[worker]? with
    | none => exact .newcomer hstep hd hc₀ hc
    | some c₀ =>
      obtain ⟨c', hc', hv⟩ := hd.view hc₀
      obtain rfl : c' = c := Option.some.inj (hc'.symm.trans hc)
      have hcrew := ih (fun e he => hpublic e (List.mem_cons_of_mem _ he)) hc₀
      exact hcrew.step hrun hstep (hpublic _ List.mem_cons_self) hc₀ hc hv

end

end Supervisor

end Attendant

import Attendant.Proofs.Supervisor.Order

/-!
# What a worker is sent once a stop has taken it

A stop takes the worker for itself, and says that it is being stopped. From then on nobody gets past the gate any more;
but whoever has got past it before may still be on the way to the mailbox, and nobody calls him back. So what is posted
for the worker from then on is what the stop itself has to say, refusals of what the worker asks for, and the messages
of such stragglers, each once at most (`Run.parts`). That there are stragglers shows `not_only_parting`.

If the stop is abandoned, its worker is left to itself with its mailbox open, and the gate is open again once another
worker runs.
-/

namespace Attendant.Supervisor

/-- At a step a stop takes the worker that is owned. -/
structure Entry.Takes (e : Entry) (worker : Nat) : Prop where
  label : e.label = .proceed
  stage : ∃ next, e.before.stage = .taking next
  current : e.before.current = some worker

/-- What may be posted for a worker after a stop has taken it, and after it has been asked to stop: `t` is the
supervisor before the stop has taken it. -/
inductive Parting (t : Supervisor) (worker : Nat) : Channel.Letter → Prop
  | reply (id : Value) (method : String) : Parting t worker ⟨.reader, .send (Message.methodNotFound id method)⟩
  | exit (key : Nat) : Parting t worker ⟨.caller key, .send (Message.notification "exit" none)⟩
  | close (key : Nat) : Parting t worker ⟨.caller key, .shutdown⟩
  | straggler {key : Nat} {job : Job} {stage : Attendant.Stage} (hkey : t.callerOf? worker key = some ⟨job, stage⟩)
      (hg : job.guarded = true) (hs : stage.isUnsent = true) (id : Option Nat) :
      Parting t worker ⟨.caller key, job.command id⟩

/-- A letter is the wish that the worker stop. -/
def Begs (s : Supervisor) (worker : Nat) (letter : Channel.Letter) : Prop :=
  ∃ key stage, letter.sender = .caller key ∧ s.callerOf? worker key = some ⟨farewell, stage⟩

/-- The caller that a stop waits for, and its job. -/
def Stage.errand? : Stage → Option (Nat × Nat × Job)
  | .asking worker key _ => some (worker, key, farewell)
  | .leaving worker key _ => some (worker, key, dismissal)
  | .closing worker key _ => some (worker, key, .finish)
  | _ => none

section

variable {options : WorkerOptions} {process : Nat} {es base more : List Entry} {s s' s₀ : Supervisor}
  {now worker key : Nat} {label : Label} {c : Channel} {job : Job}

/-! ### What a stop waits for -/

private theorem Errand.channel (he : Errand s worker key job s'.stage) (h : Run options process es s) :
    ∃ c, s.channels[worker]? = some c := by
  have hthere {w : Worker} (hw : s.workers[worker]? = some w) : ∃ c, s.channels[worker]? = some c :=
    ⟨w.channel, channel_of_worker hw⟩
  have hdone {asked : Nat} {outcome : Except RequestFault Value} (ho : s.outcomeOf? worker asked = some outcome) :
      ∃ c, s.channels[worker]? = some c := by
    obtain ⟨w, hw, -⟩ := Option.bind_eq_some_iff.1 ho
    exact hthere hw
  have howned (hc : s.current = some worker) : ∃ c, s.channels[worker]? = some c := by
    obtain ⟨w, hw⟩ := h.owned hc
    exact hthere hw
  generalize s'.stage = stage at he
  cases he with
  | notice _ ho | dismissal _ ho | close _ ho => exact hdone ho
  | farewell _ hc _ | finish _ hc => exact howned hc

private theorem Run.errand (h : Run options process es s) (hs : s.stage.errand? = some (worker, key, job)) :
    ∃ stage, s.callerOf? worker key = some ⟨job, stage⟩ := by
  induction h with
  | fresh => cases hs
  | @move es s s' now label hrun hstep ih =>
    have hdeed := hrun.deed hstep
    have hkept (hst : s'.stage = s.stage) : ∃ stage, s'.callerOf? worker key = some ⟨job, stage⟩ := by
      obtain ⟨stage, hkey⟩ := ih (hst ▸ hs)
      exact (lasts_of_step hstep).job_stays hkey
    cases hdeed with
    | aside _ _ hst _ | task _ _ _ hst _ | act _ hst _ | enter _ hst _ | leave _ hst _ => exact hkept hst
    | plain _ _ _ _ hw _ | abort _ _ _ _ hw _ =>
      generalize s'.stage = stage at hs hw
      cases stage with
      | asking _ _ _ | leaving _ _ _ | closing _ _ _ => cases hw
      | _ => cases hs
    | adopt _ _ hst _ | forget _ _ hst _ | resign _ _ _ hst _ =>
      rw [hst] at hs
      cases hs
    | @errand other asked job' _ he _ _ _ hcs hkey =>
      obtain ⟨c, hc⟩ := he.channel hrun
      have hnew : s'.channels[other]? = some (c.enter job').1 := by
        rw [hcs, List.getElem?_modify_eq, hc]
        rfl
      have hentered : s'.callerOf? other asked = some { job := job' } := by
        rw [callerOf?_eq hnew, hkey c hc]
        simp [Channel.enter]
      generalize s'.stage = stage at he hs
      cases he with
      | notice _ _ => cases hs
      | farewell _ _ _ | dismissal _ _ | finish _ _ | close _ _ =>
        cases hs
        exact ⟨.gate, hentered⟩

/-! ### After a worker has been taken -/

private theorem current_before (hstep : s.step now label = some s') {w : Worker} (hw : s.workers[worker]? = some w)
    (hc : s'.current = some worker) : s.current = some worker := by
  rcases (turn_of_step hstep).current_cases with hsame | hnone | ⟨rfl, launch, hs⟩
  · exact hsame.symm.trans hc
  · cases hnone.symm.trans hc
  · simp only [step, hs, Option.some.injEq] at hstep
    subst hstep
    have hnew : s.workers.length = worker :=
      Option.some.inj ((congrArg Helm.current (helm_adopt s launch)).symm.trans hc)
    have hlt := (List.getElem?_eq_some_iff.1 hw).1
    omega

/-- Whoever is not owned any more is never owned again. -/
private theorem Run.not_owned_since (h₀ : Run options process base s₀) (h : Run options process (more ++ base) s)
    {w : Worker} (hw : s₀.workers[worker]? = some w) (hne : s₀.current ≠ some worker) :
    (∃ w, s.workers[worker]? = some w) ∧ s.current ≠ some worker := by
  induction more, s, h using h₀.since with
  | start => exact ⟨⟨w, hw⟩, hne⟩
  | move more s s' now label _ hstep ih =>
    obtain ⟨⟨w, hw⟩, hne⟩ := ih
    obtain ⟨w', hw', -⟩ := (lasts_of_step hstep).moved worker w hw
    exact ⟨⟨w', hw'⟩, fun hc => hne (current_before hstep hw hc)⟩

private theorem Run.job_since (h₀ : Run options process base s₀) (h : Run options process (more ++ base) s)
    {stage : Attendant.Stage} (hkey : s₀.callerOf? worker key = some ⟨job, stage⟩) :
    ∃ stage, s.callerOf? worker key = some ⟨job, stage⟩ := by
  induction more, s, h using h₀.since with
  | start => exact ⟨stage, hkey⟩
  | move more s s' now label _ hstep ih =>
    obtain ⟨stage, hkey⟩ := ih
    exact (lasts_of_step hstep).job_stays hkey

/-- A stop that finds a worker takes it, and says that it is being stopped. -/
private theorem Turn.of_taking {helm : Helm} {next : Option Launch} (h : Turn s .proceed helm)
    (hs : s.stage = .taking next) (hc : s.current = some worker) :
    helm.current = none ∧ helm.status.value = .stopping := by
  cases h with
  | task hl _ => cases hl
  | take _ _ _ _ => exact ⟨rfl, rfl⟩
  | rest _ hnone _ _ => cases hc.symm.trans hnone
  | part hg _ _ | halt _ hg _ _ _ | stopped hg _ =>
    rw [hs] at hg
    cases hg
  | misconfigured hs' _ | alreadyRunning hs' _ | clear hs' _ _ | ready hs' _ _ | cleared hs' | answered hs' _
  | welcome hs' _ _ | discarded hs' => cases hs.symm.trans hs'

end

section

variable {options : WorkerOptions} {process : Nat} {more earlier : List Entry} {t : Entry} {s : Supervisor}
  {worker key : Nat} {c : Channel} {job : Job} {stage : Attendant.Stage}

private theorem Entry.Takes.after (ht : t.Takes worker) (h : Run options process (more ++ t :: earlier) s) :
    Run options process (t :: earlier) t.after ∧ t.after.current = none ∧ t.after.status.value = .stopping ∧
      ∃ w, t.after.workers[worker]? = some w := by
  obtain ⟨hrun, hstep⟩ := h.split
  obtain ⟨next, hs⟩ := ht.stage
  have hrun' := hrun.move _ _ hstep
  rw [ht.label] at hstep
  obtain ⟨hnone, hst⟩ := (turn_of_step hstep).of_taking hs ht.current
  obtain ⟨w, hw⟩ := hrun.owned ht.current
  obtain ⟨w', hw', -⟩ := (lasts_of_step hstep).moved worker w hw
  exact ⟨hrun', hnone, hst, w', hw'⟩

/-- Whoever asks for a running worker and has its message still before it once a stop has taken the worker has got past
the gate before, or by grace of another worker; and then this one is not held any more. -/
private theorem Run.stragglers (h : Run options process (more ++ t :: earlier) s) (ht : t.Takes worker)
    (hc : s.channels[worker]? = some c) (hkey : c.callers[key]? = some ⟨job, stage⟩) (hg : job.guarded = true)
    (hs : stage.isUnsent = true) :
    (∃ stage', t.before.callerOf? worker key = some ⟨job, stage'⟩ ∧ stage'.isUnsent = true) ∨
      s.held? ≠ some worker ∧ ∃ other, Ran more other := by
  induction more generalizing s c stage with
  | nil =>
    cases h with
    | @move _ before _ now label hrun hstep =>
      obtain ⟨rfl, -, hcur⟩ := ht
      have hdeed := hrun.deed hstep
      obtain ⟨w, hw⟩ := hrun.owned hcur
      have hc₀ := channel_of_worker hw
      obtain ⟨c', hc', hv⟩ := hdeed.view hc₀
      obtain rfl : c' = c := Option.some.inj (hc'.symm.trans hc)
      rcases hv.passes hkey hg hs with ⟨stage', hkey', hs'⟩ | ⟨-, hl⟩
      · exact Or.inl ⟨stage', by rw [callerOf?_eq hc₀, hkey'], hs'⟩
      · cases hl
  | cons e more ih =>
    cases h with
    | @move _ before _ now label hrun hstep =>
      have hdeed := hrun.deed hstep
      obtain ⟨hbase, hnone, hstopping, w, hw⟩ := ht.after hrun
      obtain ⟨⟨w', hw'⟩, hne⟩ := hbase.not_owned_since hrun hw (by rw [hnone]; nofun)
      have hc₀ := channel_of_worker hw'
      obtain ⟨c', hc', hv⟩ := hdeed.view hc₀
      obtain rfl : c' = c := Option.some.inj (hc'.symm.trans hc)
      have hlater (hnot : before.held? ≠ some worker) : s.held? ≠ some worker := fun hheld =>
        hnot (hrun.sound.held hdeed hc₀ hheld)
      rcases hv.passes hkey hg hs with ⟨stage', hkey', hs'⟩ | ⟨hr, -⟩
      · refine (ih hrun hc₀ hkey' hs').imp_right ?_
        rintro ⟨hnot, other, hran⟩
        exact ⟨hlater hnot, other, hran.cons _⟩
      · -- the gate is open for another worker
        obtain ⟨other, hcur, hran⟩ := hbase.runs_since hrun (by rw [hstopping]; nofun) hr
        obtain ⟨other', hcur', hheld, -⟩ := hrun.ran_of_running hr
        obtain rfl := Option.some.inj (hcur.symm.trans hcur')
        refine Or.inr ⟨hlater fun hheld' => hne ?_, other, hran.cons _⟩
        rw [hcur, ← hheld, hheld']

/-- Whoever is on an errand to a worker that a stop has taken comes from the stop. -/
private theorem Run.errand_of_stop (h : Run options process (more ++ t :: earlier) s)
    (hpublic : ∀ e ∈ more ++ t :: earlier, e.label.isPublic = true) (ht : t.Takes worker)
    (hc : s.channels[worker]? = some c) (hkey : c.callers[key]? = some ⟨job, stage⟩) (hg : job.guarded = false)
    (ho : stage.isOver = false) : job = farewell ∨ job = dismissal ∨ job = .finish := by
  obtain ⟨hbase, hnone, -, w, hw⟩ := ht.after h
  obtain ⟨-, hne⟩ := hbase.not_owned_since h hw (by rw [hnone]; nofun)
  have hawaited := (h.crew hpublic hc).busy key _ hkey hg ho
  have hjob {job' : Job} (he : s.stage.errand? = some (worker, key, job')) : job = job' := by
    obtain ⟨stage', hkey'⟩ := h.errand he
    rw [callerOf?_eq hc, hkey] at hkey'
    cases hkey'
    rfl
  have hgreeted (hs : s.stage.greeting? = some worker) : False := hne (h.sound.greeting worker hs)
  cases hs : s.stage with
  | greeting _ _ | confirming _ _ =>
    rw [hs] at hawaited hgreeted
    cases hawaited
    exact (hgreeted rfl).elim
  | asking _ _ _ =>
    rw [hs] at hawaited hjob
    cases hawaited
    exact Or.inl (hjob rfl)
  | leaving _ _ _ =>
    rw [hs] at hawaited hjob
    cases hawaited
    exact Or.inr (Or.inl (hjob rfl))
  | closing _ _ _ =>
    rw [hs] at hawaited hjob
    cases hawaited
    exact Or.inr (Or.inr (hjob rfl))
  | _ =>
    rw [hs] at hawaited
    cases hawaited

private theorem Run.parting (h : Run options process (more ++ t :: earlier) s)
    (hpublic : ∀ e ∈ more ++ t :: earlier, e.label.isPublic = true) (ht : t.Takes worker)
    (hleft : worker ∉ orphans (more ++ t :: earlier) ∨ ∀ other, ¬Ran more other) {letters : List Channel.Letter}
    (hm : Mail s worker letters) : ∀ letter ∈ letters, Parting t.before worker letter ∨ Begs s worker letter := by
  intro letter hletter
  cases hm with
  | silent => cases hletter
  | reply id method =>
    obtain rfl := List.mem_singleton.1 hletter
    exact Or.inl (.reply id method)
  | @caller c key job stage id hc hopen hkey hs =>
    obtain rfl := List.mem_singleton.1 hletter
    have hunsent : stage.isUnsent = true := by rcases hs with rfl | rfl <;> rfl
    cases hg : job.guarded with
    | true =>
      rcases h.stragglers ht hc hkey hg hunsent with ⟨stage', hkey', hs'⟩ | ⟨hnot, other, hran⟩
      · exact Or.inl (.straggler hkey' hg hs' id)
      · -- the mailbox of a worker that is not held is open only if its stop has been abandoned
        rcases hleft with hleft | hnone
        · rw [h.mailbox_shut hc hnot hleft] at hopen
          cases hopen
        · exact absurd hran (hnone other)
    | false =>
      have ho : stage.isOver = false := by rcases hs with rfl | rfl <;> rfl
      rcases h.errand_of_stop hpublic ht hc hkey hg ho with rfl | rfl | rfl
      · exact Or.inr ⟨key, stage, rfl, by rw [callerOf?_eq hc, hkey]⟩
      · exact Or.inl (.exit key)
      · exact Or.inl (.close key)

private theorem Run.posts_once {es later : List Entry} {e : Entry} (h : Run options process (later ++ es) s)
    (he : e ∈ es) {letter : Channel.Letter} (hl : letter ∈ e.mail worker) {f : Entry} (hf : f ∈ later)
    {letter' : Channel.Letter} (hl' : letter' ∈ f.mail worker) (hsame : letter'.sender = letter.sender) :
    letter.sender = .reader := by
  obtain ⟨last, since, rfl⟩ := List.append_of_mem hf
  rw [List.append_assoc, List.cons_append] at h
  obtain ⟨hrun, hstep⟩ := h.split
  have hposted := mem_letters_on (List.mem_append_right since he) hl
  have hmail := hrun.mail hstep worker
  obtain ⟨sender, command⟩ := letter
  obtain rfl : letter'.sender = sender := hsame
  change letter' ∈ Entry.mail worker ⟨f.before, f.now, f.label, f.after⟩ at hl'
  generalize Entry.mail worker ⟨f.before, f.now, f.label, f.after⟩ = letters at hmail hl'
  cases hmail with
  | silent => cases hl'
  | reply _ _ =>
    obtain rfl := List.mem_singleton.1 hl'
    rfl
  | caller hc _ hkey hs =>
    obtain rfl := List.mem_singleton.1 hl'
    have hsent := hrun.isUnsent_of_posted hposted hc hkey
    rcases hs with rfl | rfl <;> cases hsent

/-- Once a stop has taken a worker, the worker is said to be stopping, and all that is posted for it is the wish that it
stop, the word that it exit, the end of all messages, refusals of what it asks for, and the messages of stragglers: of
those that had got past the gate before the stop has taken the worker, and not handed their messages over yet. Nobody
posts twice, and once the worker has been asked to stop, it is not asked again. Nothing is said about a stop that is
abandoned while it waits and another worker that runs then. -/
theorem Run.parts {later : List Entry} (h : Run options process (later ++ t :: earlier) s)
    (hpublic : ∀ e ∈ later ++ t :: earlier, e.label.isPublic = true) (ht : t.Takes worker)
    (hleft : worker ∉ orphans (later ++ t :: earlier) ∨ ∀ other, ¬Ran later other) :
    t.after.status.value = .stopping ∧
      ∀ last e since, later = last ++ e :: since → ∀ letter ∈ e.mail worker,
        (Parting t.before worker letter ∨ Begs e.before worker letter) ∧
        (∀ f ∈ last, ∀ letter' ∈ f.mail worker, letter'.sender = letter.sender → letter.sender = .reader) ∧
        (Begs e.before worker letter → ∀ f ∈ last, ∀ letter' ∈ f.mail worker, Parting t.before worker letter') := by
  obtain ⟨-, -, hstopping, -⟩ := ht.after h
  have hparting {last since : List Entry} {e : Entry} (hl : later = last ++ e :: since) {letter : Channel.Letter}
      (hletter : letter ∈ e.mail worker) :
      Run options process (since ++ t :: earlier) e.before ∧
        (Parting t.before worker letter ∨ Begs e.before worker letter) := by
    subst hl
    rw [List.append_assoc, List.cons_append] at h hpublic hleft
    obtain ⟨hrun, hstep⟩ := h.split
    refine ⟨hrun, hrun.parting (fun f hf => hpublic f (by simp [hf])) ht ?_ (hrun.mail hstep worker) letter hletter⟩
    refine hleft.imp (fun hleft hmem => hleft ?_) fun hnone other hran => hnone other ?_
    · rw [orphans_append, List.mem_append, orphans_cons]
      exact Or.inr (List.mem_append_right _ hmem)
    · obtain ⟨f, hf, hruns⟩ := hran
      exact ⟨f, by simp [hf], hruns⟩
  refine ⟨hstopping, fun last e since hl letter hletter => ⟨(hparting hl hletter).2, ?_, ?_⟩⟩
  · intro f hf letter' hletter' hsame
    rw [hl, List.append_assoc, List.cons_append] at h
    exact h.posts_once List.mem_cons_self hletter hf hletter' hsame
  · rintro ⟨key, stage, hsender, hkey⟩ f hf letter' hletter'
    obtain ⟨before, between, rfl⟩ := List.append_of_mem hf
    have hl' : later = before ++ f :: (between ++ e :: since) := by simp [hl]
    obtain ⟨hrun, hasked⟩ := hparting hl' hletter'
    refine hasked.resolve_right ?_
    -- whoever asks again is the same caller
    rintro ⟨key', stage', hsender', hkey'⟩
    have hlonger : Run options process ((between ++ [e]) ++ (since ++ t :: earlier)) f.before := by simpa using hrun
    obtain ⟨stage'', hkey''⟩ := (hparting hl hletter).1.job_since hlonger hkey
    obtain ⟨c, hc, -⟩ := exists_channel hkey'
    have hpublic' : ∀ g ∈ (between ++ e :: since) ++ t :: earlier, g.label.isPublic = true := by
      intro g hg
      refine hpublic g ?_
      rw [hl', List.append_assoc, List.cons_append]
      exact List.mem_append_right _ (List.mem_cons_of_mem _ hg)
    have hcrew := hrun.crew hpublic' hc
    rw [callerOf?_eq hc] at hkey' hkey''
    obtain rfl := hcrew.key_eq rfl hkey'' hkey'
    rw [hl, List.append_assoc, List.cons_append] at h
    have hreader := h.posts_once List.mem_cons_self hletter hf hletter' (hsender'.trans hsender.symm)
    cases hsender.symm.trans hreader

end

/-- A worker is greeted, a user gets past the gate, and a stop takes the worker and asks it to stop. Then the message of
the user is posted. -/
private theorem exists_straggler : ∃ e since t earlier s, Run someOptions 1 (e :: since ++ t :: earlier) s ∧
    (∀ g ∈ e :: since ++ t :: earlier, g.label.isPublic = true) ∧ t.Takes 0 ∧
    0 ∉ orphans (e :: since ++ t :: earlier) ∧ (∃ f ∈ since, ∃ letter ∈ f.mail 0, Begs f.before 0 letter) ∧
    ⟨.caller 2, .send (Message.notification "m" none)⟩ ∈ e.mail 0 ∧
    e.before.callerOf? 0 2 = some ⟨.tell true "m" none, .submit none⟩ := by
  have idle : Run someOptions 1 [] _ := Run.fresh
  have running := idle.play (welcoming 0) rfl
  have passed := running.play [.enter 0 (.tell true "m" none), .channel 0 (.caller 2)] rfl
  have asking := passed.play [.begin .stop, .proceed] rfl
  have asked := asking.play (List.replicate 5 (.channel 0 (.caller 3))) rfl
  have late := asked.move 0 (.channel 0 (.caller 2)) rfl
  refine ⟨_, [_, _, _, _, _], _, _, _, late, List.all_eq_true.1 rfl, ⟨rfl, ⟨none, rfl⟩, rfl⟩, by decide, ?_,
    List.mem_singleton.2 rfl, rfl⟩
  exact ⟨_, List.mem_cons_self, _, List.mem_singleton.2 rfl, 3, _, rfl, rfl⟩

/-- The straggler is the only one that is posted then. -/
theorem parts_straggler : ∃ later t earlier s, Run someOptions 1 (later ++ t :: earlier) s ∧
    (∀ e ∈ later ++ t :: earlier, e.label.isPublic = true) ∧ t.Takes 0 ∧ 0 ∉ orphans (later ++ t :: earlier) ∧
    t.after.status.value = .stopping ∧ ∃ e ∈ later, ∃ letter ∈ e.mail 0, Parting t.before 0 letter := by
  obtain ⟨e, since, t, earlier, s, hrun, hpublic, ht, hleft, -, hletter, hkey⟩ := exists_straggler
  obtain ⟨hstopping, hparts⟩ := hrun.parts hpublic ht (Or.inl hleft)
  obtain ⟨hparting, -, -⟩ := hparts [] e since rfl _ hletter
  refine ⟨_, t, earlier, s, hrun, hpublic, ht, hleft, hstopping, e, List.mem_cons_self, _, hletter, ?_⟩
  refine hparting.resolve_right ?_
  rintro ⟨key, stage, hsender, hbegs⟩
  cases hsender
  cases hkey.symm.trans hbegs

/-- So it is not true that no message of a user is posted any more once a stop has taken the worker, not even once the
worker has been asked to stop. -/
theorem not_only_parting : ¬∀ (options : WorkerOptions) (process : Nat) (last since earlier : List Entry) (f t : Entry)
    (s : Supervisor) (worker : Nat), Run options process (last ++ f :: since ++ t :: earlier) s →
      (∀ e ∈ last ++ f :: since ++ t :: earlier, e.label.isPublic = true) → t.Takes worker →
      worker ∉ orphans (last ++ f :: since ++ t :: earlier) → (∃ letter ∈ f.mail worker, Begs f.before worker letter) →
      ∀ e ∈ last, ∀ letter ∈ e.mail worker, ∀ key job stage, letter.sender = .caller key →
        e.before.callerOf? worker key = some ⟨job, stage⟩ → job.guarded = false := by
  intro h
  obtain ⟨e, since, t, earlier, s, hrun, hpublic, ht, hleft, ⟨f, hf, hbegs⟩, hletter, hkey⟩ := exists_straggler
  obtain ⟨between, before, rfl⟩ := List.append_of_mem hf
  have hguarded := h someOptions 1 (e :: between) before earlier f t s 0 hrun hpublic ht hleft hbegs e
    List.mem_cons_self _ hletter 2 _ _ rfl hkey
  cases hguarded

end Attendant.Supervisor

import Attendant.Proofs.Channel.Letters
import Attendant.Proofs.Supervisor.Ownership

/-!
# What a step does to the channels

The channels of all workers, the worker that is held, and the caller that the call under way waits for: `Deed` lists
all that a step can do to them, and `deed_of_step` takes the definition of a step apart once more, for them. Seen from
one channel it does nothing, or makes one move (`View`).

* `Run.follows`: a channel has a history of its own, and what happens on it is what its tasks and its worker do;
* `Run.shut`: whoever is no longer held has been stopped, unless its stop has been abandoned.
-/

namespace Attendant.Supervisor

/-- The channels of all workers. -/
def channels (s : Supervisor) : List Channel := s.workers.map Worker.channel

/-- The worker that is owned or being stopped. -/
def held? (s : Supervisor) : Option Nat := s.stage.stopping?.or s.current

/-- The caller that a stage waits for. -/
def Stage.awaits? : Stage → Option (Nat × Nat)
  | .greeting worker key | .confirming worker key => some (worker, key)
  | .asking worker key _ | .leaving worker key _ | .closing worker key _ => some (worker, key)
  | _ => none

/-- What a worker is told once it has answered the greeting. -/
def notice : Job := .tell false "initialized" (some (.table []))

/-- What a worker is asked when it is to be stopped. -/
def farewell : Job := .ask false "shutdown" .absent farewellLimit

/-- What it is told then. -/
def dismissal : Job := .tell false "exit" none

/-- What the call under way has asked or told a worker, with the stage at which it waits then. -/
inductive Errand (s : Supervisor) (worker key : Nat) : Job → Stage → Prop
  | notice {asked : Nat} {v : Value} (hs : s.stage = .greeting worker asked)
      (ho : s.outcomeOf? worker asked = some (.ok v)) : Errand s worker key notice (.confirming worker key)
  | farewell {next : Option Launch} (hs : s.stage = .taking next) (hc : s.current = some worker)
      (hr : s.status.value = .running) : Errand s worker key farewell (.asking worker key next)
  | dismissal {asked : Nat} {next : Option Launch} {v : Value} (hs : s.stage = .asking worker asked next)
      (ho : s.outcomeOf? worker asked = some (.ok v)) : Errand s worker key dismissal (.leaving worker key next)
  | finish {next : Option Launch} (hs : s.stage = .taking next) (hc : s.current = some worker) :
      Errand s worker key .finish (.closing worker key next)
  | close {asked : Nat} {next : Option Launch} {outcome : Except RequestFault Value}
      (hs : s.stage = .asking worker asked next ∨ s.stage = .leaving worker asked next)
      (ho : s.outcomeOf? worker asked = some outcome) : Errand s worker key .finish (.closing worker key next)

/-- Whether a step concerns no channel. -/
def Label.isAside : Label → Bool
  | .listener _ | .complain _ _ | .hush _ | .exited _ _ => true
  | _ => false

/-- All that a step can do to the channels, the worker that is held, and the stage. -/
inductive Deed (s : Supervisor) (now : Nat) : Label → Supervisor → Prop
  | aside {label : Label} {s' : Supervisor} (hl : label.isAside = true) (hcs : s'.channels = s.channels)
      (hst : s'.stage = s.stage) (hcur : s'.current = s.current) : Deed s now label s'
  | task {worker : Nat} {task : Channel.Label} {c : Channel} {next : Watched Status × Channel} {s' : Supervisor}
      (hc : s.channels[worker]? = some c) (hn : c.step now s.status task = some next)
      (hcs : s'.channels = s.channels.modify worker fun _ => next.2) (hst : s'.stage = s.stage)
      (hcur : s'.current = s.current) : Deed s now (.channel worker task) s'
  | act {worker : Nat} {act : Channel.Act} {s' : Supervisor}
      (hcs : s'.channels = s.channels.modify worker (·.act act)) (hst : s'.stage = s.stage)
      (hcur : s'.current = s.current) : Deed s now (.act worker act) s'
  | enter {worker : Nat} {job : Job} {s' : Supervisor}
      (hcs : s'.channels = s.channels.modify worker fun c => (c.enter job).1) (hst : s'.stage = s.stage)
      (hcur : s'.current = s.current) : Deed s now (.enter worker job) s'
  | leave {worker key : Nat} {s' : Supervisor} (hcs : s'.channels = s.channels.modify worker (·.abandon key))
      (hst : s'.stage = s.stage) (hcur : s'.current = s.current) : Deed s now (.leave worker key) s'
  | plain {label : Label} {s' : Supervisor} (hl : label.isOwn = true) (hcs : s'.channels = s.channels)
      (hstop : s'.stage.stopping? = s.stage.stopping?) (hcur : s'.current = s.current) (hw : s'.stage.awaits? = none)
      (hdone : ∀ worker key, s.stage.awaits? = some (worker, key) → ∃ o, s.outcomeOf? worker key = some o) :
      Deed s now label s'
  | adopt {launch : Launch} {s' : Supervisor} (hs : s.stage = .spawning launch)
      (hcs : s'.channels = s.channels ++ [(Channel.enter {} (s.greeting launch)).1])
      (hst : s'.stage = .greeting s.channels.length 0) (hcur : s'.current = some s.channels.length) :
      Deed s now (.spawned .started) s'
  | errand {worker key : Nat} {job : Job} {s' : Supervisor} (he : Errand s worker key job s'.stage)
      (hheld : s.held? = some worker) (hheld' : s'.held? = some worker)
      (hcur : s'.current = none ∨ s'.current = some worker)
      (hcs : s'.channels = s.channels.modify worker fun c => (c.enter job).1)
      (hkey : ∀ c, s.channels[worker]? = some c → key = c.callers.length) : Deed s now .proceed s'
  | abort {worker : Nat} {s' : Supervisor} (hheld : s.held? = some worker) (hstop : s'.stage.stopping? = none)
      (hcur : s'.current = none) (hcs : s'.channels = s.channels.modify worker Channel.abort)
      (hw : s'.stage.awaits? = none)
      (hdone : ∀ worker key, s.stage.awaits? = some (worker, key) → ∃ o, s.outcomeOf? worker key = some o) :
      Deed s now .proceed s'
  | forget {worker key : Nat} {s' : Supervisor} (hs : s.stage.awaits? = some (worker, key))
      (hcs : s'.channels = s.channels.modify worker (·.abandon key)) (hst : s'.stage = .free)
      (hcur : s'.current = s.current) : Deed s now .abandon s'
  | resign {worker : Nat} {s' : Supervisor} (hs : s.stage.stopping? = some worker) (hw : s.stage.awaits? = none)
      (hcs : s'.channels = s.channels) (hst : s'.stage = .free) (hcur : s'.current = s.current) : Deed s now .abandon s'

/-! ### Taking a step apart -/

section

variable {s s' : Supervisor} {now worker : Nat}

theorem getElem?_channels (s : Supervisor) (worker : Nat) :
    s.channels[worker]? = (s.workers[worker]?).map Worker.channel := List.getElem?_map

theorem channel_of_worker {w : Worker} (hw : s.workers[worker]? = some w) : s.channels[worker]? = some w.channel := by
  rw [getElem?_channels, hw, Option.map_some]

private theorem channels_of_modify {f : Worker → Worker} {g : Channel → Channel}
    (hw : s'.workers = s.workers.modify worker f)
    (hf : ∀ w, s.workers[worker]? = some w → (f w).channel = g w.channel) :
    s'.channels = s.channels.modify worker g := by
  apply List.ext_getElem?
  intro i
  rw [getElem?_channels, hw, List.getElem?_modify, List.getElem?_modify, getElem?_channels, Option.map_eq_map,
    Option.map_eq_map, Option.map_map, Option.map_map]
  cases hi : s.workers[i]? with
  | none => rfl
  | some w =>
    by_cases he : worker = i
    · subst he
      simp [hf w hi]
    · simp [he]

private theorem channels_of_same {f : Worker → Worker} (hw : s'.workers = s.workers.modify worker f)
    (hf : ∀ w, s.workers[worker]? = some w → (f w).channel = w.channel) : s'.channels = s.channels := by
  rw [channels_of_modify (g := id) hw hf]
  exact List.modify_id _ _

private theorem channels_enter (s : Supervisor) (worker : Nat) (job : Job) :
    (s.enter worker job).1.channels = s.channels.modify worker fun c => (c.enter job).1 := by
  unfold Supervisor.enter
  cases hw : s.workers[worker]? with
  | none =>
    have hlen : s.channels.length ≤ worker := by
      rw [channels, List.length_map]
      exact List.getElem?_eq_none_iff.1 hw
    exact (List.modify_eq_self hlen).symm
  | some w =>
    refine channels_of_modify rfl fun v hv => ?_
    obtain rfl : v = w := Option.some.inj (hv.symm.trans hw)
    rfl

private theorem key_enter (s : Supervisor) (worker : Nat) (job : Job) {c : Channel}
    (hc : s.channels[worker]? = some c) : (s.enter worker job).2 = c.callers.length := by
  rw [getElem?_channels] at hc
  obtain ⟨w, hw, rfl⟩ := Option.map_eq_some_iff.1 hc
  simp [Supervisor.enter, hw, Channel.enter]

private theorem channels_abort_kill (s : Supervisor) (worker : Nat) :
    (s.modify worker fun w => w.abort.kill).channels = s.channels.modify worker Channel.abort :=
  channels_of_modify rfl fun w _ => abort_channel w

private theorem channels_abort (s : Supervisor) (worker : Nat) :
    (s.modify worker Worker.abort).channels = s.channels.modify worker Channel.abort :=
  channels_of_modify rfl fun w _ => abort_channel w

private theorem channels_kill (s : Supervisor) (worker : Nat) : (s.modify worker Worker.kill).channels = s.channels :=
  channels_of_same rfl fun _ _ => rfl

private theorem channels_leave (s : Supervisor) (worker key : Nat) :
    (s.modify worker fun w => { w with channel := w.channel.abandon key }).channels =
      s.channels.modify worker (·.abandon key) :=
  channels_of_modify rfl fun _ _ => rfl

/-- Whoever is being stopped is held. -/
theorem held?_of_stopping (hstop : s.stage.stopping? = some worker) : s.held? = some worker := by
  rw [held?, hstop, Option.some_or]

/-- When nobody is being stopped, the worker that is owned is held. -/
theorem held?_of_not_stopping (hstop : s.stage.stopping? = none) : s.held? = s.current := by
  rw [held?, hstop, Option.none_or]

private theorem Sound.held?_of_greeting {left : List Nat} (h : Sound left s) (hg : s.stage.greeting? = some worker) :
    s.held? = some worker := by
  have hstop : s.stage.stopping? = none := by
    cases hs : s.stage with
    | greeting _ _ | confirming _ _ => rfl
    | _ =>
      rw [hs] at hg
      cases hg
  rw [held?_of_not_stopping hstop, h.greeting worker hg]

private theorem ended_of_outcome {key : Nat} {outcome : Except RequestFault Value}
    (hw : s.stage.awaits? = some (worker, key)) (ho : s.outcomeOf? worker key = some outcome) :
    ∀ other asked, s.stage.awaits? = some (other, asked) → ∃ o, s.outcomeOf? other asked = some o := by
  rw [hw]
  rintro _ _ ⟨⟩
  exact ⟨_, ho⟩

private theorem ended_of_not_awaiting (hw : s.stage.awaits? = none) :
    ∀ other asked, s.stage.awaits? = some (other, asked) → ∃ o, s.outcomeOf? other asked = some o := by
  intro other asked hawaits
  rw [hw] at hawaits
  cases hawaits

private theorem deed_of_check {launch : Launch} (hs : s.stage = .checking launch) :
    Deed s now .proceed (s.check launch) := by
  have hstop : s.stage.stopping? = none := by rw [hs]; rfl
  have hdone := ended_of_not_awaiting (s := s) (by rw [hs]; rfl)
  unfold Supervisor.check
  split
  · exact .plain rfl rfl hstop.symm rfl rfl hdone
  · split
    · exact .plain rfl rfl hstop.symm rfl rfl hdone
    · split
      · exact .plain rfl rfl hstop.symm rfl rfl hdone
      · split
        · rename_i stale hc
          have hheld : s.held? = some stale := by rw [held?_of_not_stopping hstop, hc]
          exact .abort hheld rfl rfl (channels_abort_kill s stale) rfl hdone
        · exact .plain rfl rfl hstop.symm rfl rfl hdone

private theorem deed_of_discard {left : List Nat} (h : Sound left s) (hg : s.stage.greeting? = some worker)
    (hdone : ∀ worker key, s.stage.awaits? = some (worker, key) → ∃ o, s.outcomeOf? worker key = some o)
    (status : Watched Status) (reason : String) :
    Deed s now .proceed ({ s with status }.discard worker reason) :=
  .abort (h.held?_of_greeting hg) rfl rfl (channels_abort_kill _ worker) rfl hdone

private theorem deed_of_close {t : Supervisor} {next : Option Launch} (hcs : t.channels = s.channels)
    (hcur : t.current = none) (hheld : s.held? = some worker)
    (he : ∀ key, Errand s worker key .finish (.closing worker key next)) :
    Deed s now .proceed (t.close worker next) := by
  refine .errand (he _) hheld rfl (Or.inl ((enter_current ..).trans hcur)) ?_ fun c hc => ?_
  · rw [← hcs]
    exact channels_enter t worker .finish
  · rw [← hcs] at hc
    exact key_enter t worker .finish hc

private theorem deed_of_take {next : Option Launch} (hs : s.stage = .taking next) :
    Deed s now .proceed (s.take next) := by
  have hstop : s.stage.stopping? = none := by rw [hs]; rfl
  have hdone := ended_of_not_awaiting (s := s) (by rw [hs]; rfl)
  unfold Supervisor.take
  split
  · rename_i hc
    have hplain (t : Supervisor) (hcs : t.channels = s.channels) (hcur : t.current = s.current) :
        Deed s now .proceed (t.stopped next) := by
      cases next with
      | none => exact .plain rfl hcs hstop.symm hcur rfl hdone
      | some launch => exact .plain rfl hcs hstop.symm hcur rfl hdone
    split
    · exact hplain _ rfl rfl
    · exact hplain _ rfl rfl
  · rename_i worker hc
    have hheld : s.held? = some worker := by rw [held?_of_not_stopping hstop, hc]
    simp only
    split
    · rename_i hr
      exact .errand (.farewell hs hc hr) hheld rfl (Or.inl (enter_current ..)) (channels_enter _ worker _)
        fun c hc' => key_enter ({ s with current := none }.setStatus .stopping) worker _ hc'
    · exact deed_of_close rfl rfl hheld fun _ => .finish hs hc

private theorem deed_of_notice {left : List Nat} {key : Nat} {v : Value} (h : Sound left s)
    (hs : s.stage = .greeting worker key) (ho : s.outcomeOf? worker key = some (.ok v)) :
    Deed s now .proceed
      { (s.enter worker notice).1 with stage := .confirming worker (s.enter worker notice).2 } := by
  have hg : s.stage.greeting? = some worker := by rw [hs]; rfl
  have hcur : (s.enter worker notice).1.current = some worker := (enter_current ..).trans (h.greeting worker hg)
  exact .errand (.notice hs ho) (h.held?_of_greeting hg) hcur (Or.inr hcur) (channels_enter s worker _)
    fun c hc => key_enter s worker _ hc

private theorem deed_of_welcome {left : List Nat} {key : Nat} {outcome : Except RequestFault Value} (h : Sound left s)
    (hs : s.stage = .confirming worker key) (ho : s.outcomeOf? worker key = some outcome) :
    Deed s now .proceed (s.welcome worker) := by
  have hg : s.stage.greeting? = some worker := by rw [hs]; rfl
  have hdone := ended_of_outcome (by rw [hs]; rfl) ho
  unfold Supervisor.welcome
  split
  · exact .plain rfl rfl (by rw [hs]; rfl) rfl rfl hdone
  · exact deed_of_discard h hg hdone s.status _
  · exact deed_of_discard h hg hdone s.status _

private theorem deed_of_dismissal {left : List Nat} {key : Nat} {next : Option Launch} {v : Value} (h : Sound left s)
    (hs : s.stage = .asking worker key next) (ho : s.outcomeOf? worker key = some (.ok v)) :
    Deed s now .proceed
      { (s.enter worker dismissal).1 with stage := .leaving worker (s.enter worker dismissal).2 next } := by
  have hstop : s.stage.stopping? = some worker := by rw [hs]; rfl
  have hcur : (s.enter worker dismissal).1.current = none := (enter_current ..).trans (h.stopping worker hstop).1
  exact .errand (.dismissal hs ho) (held?_of_stopping hstop) rfl (Or.inl hcur) (channels_enter s worker _)
    fun c hc => key_enter s worker _ hc

private theorem deed_of_ending {left : List Nat} {termination : Termination} {next : Option Launch} (h : Sound left s)
    (hs : s.stage = .ending worker termination next) (hstep : s.proceed now = some s') : Deed s now .proceed s' := by
  have hstop : s.stage.stopping? = some worker := by rw [hs]; rfl
  have hcur := (h.stopping worker hstop).1
  have hdone := ended_of_not_awaiting (s := s) (by rw [hs]; rfl)
  have hrest (t : Supervisor) (hcs : t.channels = s.channels.modify worker Channel.abort)
      (hcur' : t.current = s.current) : Deed s now .proceed (t.stopped next) := by
    cases next with
    | none => exact .abort (held?_of_stopping hstop) rfl (hcur'.trans hcur) hcs rfl hdone
    | some launch => exact .abort (held?_of_stopping hstop) rfl (hcur'.trans hcur) hcs rfl hdone
  simp only [Supervisor.proceed, hs] at hstep
  split at hstep
  · cases hstep
    exact hrest _ (channels_abort s worker) rfl
  · cases hstep
    exact hrest _ (channels_abort_kill s worker) rfl
  · obtain ⟨termination, -, rfl⟩ := Option.map_eq_some_iff.1 hstep
    split
    · exact .plain rfl (channels_kill _ worker) hstop.symm rfl rfl hdone
    · exact .plain rfl rfl hstop.symm rfl rfl hdone

private theorem deed_of_proceed {left : List Nat} (h : Sound left s) (hstep : s.proceed now = some s') :
    Deed s now .proceed s' := by
  cases hs : s.stage with
  | free | spawning _ => simp [Supervisor.proceed, hs] at hstep
  | checking launch =>
    simp only [Supervisor.proceed, hs] at hstep
    cases hstep
    exact deed_of_check hs
  | clearing _ _ | discarding _ _ =>
    simp only [Supervisor.proceed, hs] at hstep
    obtain ⟨status, -, rfl⟩ := Option.map_eq_some_iff.1 hstep
    exact .plain rfl rfl (by rw [hs]; rfl) rfl rfl (ended_of_not_awaiting (by rw [hs]; rfl))
  | greeting worker key =>
    simp only [Supervisor.proceed, hs] at hstep
    obtain ⟨outcome, ho, rfl⟩ := Option.map_eq_some_iff.1 hstep
    cases outcome with
    | ok v => exact deed_of_notice h hs ho
    | error fault =>
      exact deed_of_discard h (by rw [hs]; rfl) (ended_of_outcome (by rw [hs]; rfl) ho) _ _
  | confirming worker key =>
    simp only [Supervisor.proceed, hs] at hstep
    obtain ⟨outcome, ho, rfl⟩ := Option.map_eq_some_iff.1 hstep
    cases outcome with
    | ok v => exact deed_of_welcome h hs ho
    | error fault =>
      exact deed_of_discard h (by rw [hs]; rfl) (ended_of_outcome (by rw [hs]; rfl) ho) _ _
  | taking next =>
    simp only [Supervisor.proceed, hs] at hstep
    cases hstep
    exact deed_of_take hs
  | asking worker key next =>
    simp only [Supervisor.proceed, hs] at hstep
    obtain ⟨outcome, ho, rfl⟩ := Option.map_eq_some_iff.1 hstep
    have hstop : s.stage.stopping? = some worker := by rw [hs]; rfl
    cases outcome with
    | ok v => exact deed_of_dismissal h hs ho
    | error fault =>
      exact deed_of_close rfl (h.stopping worker hstop).1 (held?_of_stopping hstop) fun _ => .close (Or.inl hs) ho
  | leaving worker key next =>
    simp only [Supervisor.proceed, hs] at hstep
    obtain ⟨outcome, ho, rfl⟩ := Option.map_eq_some_iff.1 hstep
    have hstop : s.stage.stopping? = some worker := by rw [hs]; rfl
    exact deed_of_close rfl (h.stopping worker hstop).1 (held?_of_stopping hstop) fun _ => .close (Or.inr hs) ho
  | closing worker key next =>
    simp only [Supervisor.proceed, hs] at hstep
    obtain ⟨outcome, ho, rfl⟩ := Option.map_eq_some_iff.1 hstep
    exact .plain rfl rfl (by rw [hs]; rfl) rfl rfl (ended_of_outcome (by rw [hs]; rfl) ho)
  | ending worker termination next => exact deed_of_ending h hs hstep

private theorem deed_of_abandon (hstep : s.abandon = some s') : Deed s now .abandon s' := by
  unfold Supervisor.abandon at hstep
  cases hs : s.stage with
  | free => simp [hs] at hstep
  | checking launch => simp [hs] at hstep
  | spawning launch => simp [hs] at hstep
  | taking next => simp [hs] at hstep
  | clearing launch worker =>
    simp only [hs] at hstep
    cases hstep
    exact .plain rfl rfl (by rw [hs]; rfl) rfl rfl (ended_of_not_awaiting (by rw [hs]; rfl))
  | discarding worker fault =>
    simp only [hs] at hstep
    cases hstep
    exact .plain rfl rfl (by rw [hs]; rfl) rfl rfl (ended_of_not_awaiting (by rw [hs]; rfl))
  | greeting worker key =>
    simp only [hs] at hstep
    cases hstep
    exact .forget (by rw [hs]; rfl) (channels_leave s worker key) rfl rfl
  | confirming worker key =>
    simp only [hs] at hstep
    cases hstep
    exact .forget (by rw [hs]; rfl) (channels_leave s worker key) rfl rfl
  | asking worker key next | leaving worker key next | closing worker key next =>
    simp only [hs] at hstep
    cases hstep
    refine .forget (by rw [hs]; rfl) ?_ rfl rfl
    exact (channels_leave (s.modify worker Worker.kill) worker key).trans
      (congrArg (List.modify · worker (·.abandon key)) (channels_kill s worker))
  | ending worker termination next =>
    simp only [hs] at hstep
    cases hstep
    exact .resign (by rw [hs]; rfl) (by rw [hs]; rfl) (channels_kill s worker) rfl rfl

/-- What a step of a sound supervisor does to its channels is one of these. -/
theorem deed_of_step {left : List Nat} (h : Sound left s) {label : Label} (hstep : s.step now label = some s') :
    Deed s now label s' := by
  cases label with
  | proceed => exact deed_of_proceed h hstep
  | abandon => exact deed_of_abandon hstep
  | begin call =>
    simp only [step] at hstep
    split at hstep
    · rename_i hs
      cases hstep
      refine .plain rfl rfl ?_ rfl ?_ (ended_of_not_awaiting (by rw [hs]; rfl))
      · rw [hs]
        cases call <;> rfl
      · cases call <;> rfl
    · cases hstep
  | spawned answer =>
    simp only [step] at hstep
    split at hstep
    · rename_i launch hs
      cases hstep
      have hlen : s.channels.length = s.workers.length := List.length_map _
      refine .adopt hs ?_ ?_ ?_
      · rw [channels, adopt_workers, List.map_append]
        rfl
      · rw [hlen]
        exact congrArg Helm.stage (helm_adopt s launch)
      · rw [hlen]
        exact congrArg Helm.current (helm_adopt s launch)
    · rename_i hs
      cases hstep
      exact .plain rfl rfl (by rw [hs]; rfl) rfl rfl (ended_of_not_awaiting (by rw [hs]; rfl))
    · rename_i hs
      cases hstep
      exact .plain rfl rfl (by rw [hs]; rfl) rfl rfl (ended_of_not_awaiting (by rw [hs]; rfl))
    · cases hstep
  | answered answer =>
    simp only [step] at hstep
    split at hstep
    · rename_i worker termination next hs
      obtain ⟨termination, -, rfl⟩ := Option.map_eq_some_iff.1 hstep
      exact .plain rfl rfl (by rw [hs]; rfl) rfl rfl (ended_of_not_awaiting (by rw [hs]; rfl))
    · cases hstep
  | channel worker task =>
    simp only [step, Option.bind_eq_bind, Option.bind_eq_some_iff, Option.pure_def, Option.some.injEq] at hstep
    obtain ⟨w, hw, next, hnext, rfl⟩ := hstep
    exact .task (channel_of_worker hw) hnext (channels_of_modify rfl fun _ _ => rfl) rfl rfl
  | listener worker =>
    simp only [step, Option.bind_eq_bind, Option.bind_eq_some_iff, Option.pure_def, Option.some.injEq] at hstep
    obtain ⟨w, hw, ⟨w', line⟩, hlisten, rfl⟩ := hstep
    refine .aside rfl (channels_of_same rfl fun v hv => ?_) rfl rfl
    obtain rfl : v = w := Option.some.inj (hv.symm.trans hw)
    exact listen_channel hlisten
  | act worker act =>
    cases hstep
    exact .act (channels_of_modify rfl fun _ _ => rfl) rfl rfl
  | complain worker bytes =>
    cases hstep
    refine .aside rfl (channels_of_same rfl fun w _ => ?_) rfl rfl
    split <;> rfl
  | hush worker =>
    cases hstep
    exact .aside rfl (channels_of_same rfl fun _ _ => rfl) rfl rfl
  | exited worker status =>
    simp only [step] at hstep
    split at hstep
    · cases hstep
    · cases hstep
      exact .aside rfl (channels_of_same rfl fun _ _ => rfl) rfl rfl
  | enter worker job =>
    cases hstep
    exact .enter (channels_enter s worker job) (enter_stage s worker job) (enter_current s worker job)
  | leave worker key =>
    cases hstep
    exact .leave (channels_leave s worker key) rfl rfl

end

/-! ### Seen from one channel -/

/-- What has happened on the channel of a worker at a step, if a task of the channel or the worker itself has done
it. -/
def Entry.on? (worker : Nat) (e : Entry) : Option Channel.Entry :=
  match e.label, e.before.channels[worker]?, e.after.channels[worker]? with
  | .channel other task, some c, some c' =>
    if other = worker then some ⟨c, .step e.now e.before.status task, c'⟩ else none
  | .act other act, some c, some c' => if other = worker then some ⟨c, .act act, c'⟩ else none
  | _, _, _ => none

/-- What has happened on the channel of a worker, latest first. -/
def on (worker : Nat) (es : List Entry) : List Channel.Entry := es.filterMap (Entry.on? worker)

theorem on_cons (worker : Nat) (e : Entry) (es : List Entry) :
    on worker (e :: es) = (e.on? worker).toList ++ on worker es := by
  unfold on
  rw [List.filterMap_cons]
  cases e.on? worker <;> rfl

/-- All that a step can do to one channel that is there. -/
inductive View (s : Supervisor) (now : Nat) (label : Label) (s' : Supervisor) (worker : Nat) (c : Channel) :
    Channel → Prop
  | still (hl : Entry.on? worker ⟨s, now, label, s'⟩ = none) : View s now label s' worker c c
  | task {task : Channel.Label} {next : Watched Status × Channel} (hl : label = .channel worker task)
      (hn : c.step now s.status task = some next) : View s now label s' worker c next.2
  | act {act : Channel.Act} (hl : label = .act worker act) : View s now label s' worker c (c.act act)
  | enter {job : Job} (hl : label = .enter worker job) : View s now label s' worker c (c.enter job).1
  | leave {key : Nat} (hl : label = .leave worker key) : View s now label s' worker c (c.abandon key)
  | errand {key : Nat} {job : Job} (hl : label = .proceed) (he : Errand s worker key job s'.stage)
      (hkey : key = c.callers.length) : View s now label s' worker c (c.enter job).1
  | abort (hl : label = .proceed) (hheld : s.held? = some worker) (hheld' : s'.held? = none) :
      View s now label s' worker c c.abort
  | forget {key : Nat} (hl : label = .abandon) (hs : s.stage.awaits? = some (worker, key)) :
      View s now label s' worker c (c.abandon key)

section

variable {s s' : Supervisor} {now worker : Nat} {label : Label} {c c' : Channel}

private theorem on?_eq_none {e : Entry} (hc : ∀ task, e.label ≠ .channel worker task)
    (ha : ∀ act, e.label ≠ .act worker act) : e.on? worker = none := by
  unfold Entry.on?
  split
  · rename_i other task c c' hl _ _
    split
    · rename_i he
      subst he
      exact absurd hl (hc task)
    · rfl
  · rename_i other act c c' hl _ _
    split
    · rename_i he
      subst he
      exact absurd hl (ha act)
    · rfl
  · rfl

/-- What a step does to one of the channels. -/
theorem Deed.view (h : Deed s now label s') (hc : s.channels[worker]? = some c) :
    ∃ c', s'.channels[worker]? = some c' ∧ View s now label s' worker c c' := by
  have hsame (hcs : s'.channels = s.channels) (hv : View s now label s' worker c c) :
      ∃ c', s'.channels[worker]? = some c' ∧ View s now label s' worker c c' :=
    ⟨c, by rw [hcs, hc], hv⟩
  have hone {other : Nat} {f : Channel → Channel} (hcs : s'.channels = s.channels.modify other f)
      (hv : other = worker → View s now label s' worker c (f c))
      (hother : other ≠ worker → View s now label s' worker c c) :
      ∃ c', s'.channels[worker]? = some c' ∧ View s now label s' worker c c' := by
    by_cases he : other = worker
    · subst he
      exact ⟨f c, by rw [hcs, List.getElem?_modify_eq, hc]; rfl, hv rfl⟩
    · exact ⟨c, by rw [hcs, List.getElem?_modify_ne _ _ he, hc], hother he⟩
  cases h with
  | aside hl hcs _ _ =>
    refine hsame hcs (.still (on?_eq_none ?_ ?_))
    · rintro task rfl
      cases hl
    · rintro act rfl
      cases hl
  | @task other task c₀ next _ hc₀ hn hcs _ _ =>
    refine hone hcs ?_ fun hne => .still (on?_eq_none ?_ nofun)
    · rintro rfl
      obtain rfl : c₀ = c := Option.some.inj (hc₀.symm.trans hc)
      exact .task rfl hn
    · rintro task ⟨⟩
      exact hne rfl
  | act hcs _ _ =>
    refine hone hcs ?_ fun hne => .still (on?_eq_none nofun ?_)
    · rintro rfl
      exact .act rfl
    · rintro act ⟨⟩
      exact hne rfl
  | enter hcs _ _ =>
    refine hone hcs ?_ fun _ => .still (on?_eq_none nofun nofun)
    rintro rfl
    exact .enter rfl
  | leave hcs _ _ =>
    refine hone hcs ?_ fun _ => .still (on?_eq_none nofun nofun)
    rintro rfl
    exact .leave rfl
  | plain hl hcs _ _ _ _ =>
    refine hsame hcs (.still (on?_eq_none ?_ ?_))
    · rintro task rfl
      cases hl
    · rintro act rfl
      cases hl
  | adopt _ hcs _ _ =>
    refine ⟨c, ?_, .still (on?_eq_none nofun nofun)⟩
    rw [hcs, List.getElem?_append_left (List.getElem?_eq_some_iff.1 hc).1, hc]
  | errand he _ _ _ hcs hkey =>
    refine hone hcs ?_ fun _ => .still (on?_eq_none nofun nofun)
    rintro rfl
    exact .errand rfl he (hkey c hc)
  | abort hheld hstop hcur hcs _ _ =>
    refine hone hcs ?_ fun _ => .still (on?_eq_none nofun nofun)
    rintro rfl
    exact .abort rfl hheld (by rw [held?, hstop, hcur]; rfl)
  | forget hs hcs _ _ =>
    refine hone hcs ?_ fun _ => .still (on?_eq_none nofun nofun)
    rintro rfl
    exact .forget rfl hs
  | resign _ _ hcs _ _ => exact hsame hcs (.still (on?_eq_none nofun nofun))

/-- The only channel that comes is that of a worker which has just been started, and greeted. -/
theorem Deed.newcomer (h : Deed s now label s') (hc : s.channels[worker]? = none)
    (hc' : s'.channels[worker]? = some c') :
    worker = s.channels.length ∧ label = .spawned .started ∧ s'.stage = .greeting worker 0 ∧
      s'.current = some worker ∧ ∃ launch, s.stage = .spawning launch ∧
        c' = (Channel.enter {} (s.greeting launch)).1 := by
  have hlen := List.getElem?_eq_none_iff.1 hc
  have hgone (hle : s'.channels.length ≤ s.channels.length) : False := by
    have hlt := (List.getElem?_eq_some_iff.1 hc').1
    omega
  cases h with
  | adopt hs hcs hst hcur =>
    rw [hcs, List.getElem?_append_right hlen, List.getElem?_singleton] at hc'
    split at hc'
    · obtain rfl : worker = s.channels.length := by omega
      exact ⟨rfl, rfl, hst, hcur, _, hs, (Option.some.inj hc').symm⟩
    · cases hc'
  | aside _ hcs _ _ | plain _ hcs _ _ _ _ | resign _ _ hcs _ _ => exact (hgone (by rw [hcs])).elim
  | task _ _ hcs _ _ | act hcs _ _ | enter hcs _ _ | leave hcs _ _ | errand _ _ _ _ hcs _ | abort _ _ _ hcs _ _
  | forget _ hcs _ _ => exact (hgone (by rw [hcs, List.length_modify])).elim

/-- A step is a move of the channel, or none. A task of the channel sees the state that all workers share. -/
theorem View.make (h : View s now label s' worker c c') :
    c' = c ∨ ∃ m, c.make? m = some c' ∧ ∀ time status task, m = .step time status task →
      status = s.status ∧ label = .channel worker task := by
  cases h with
  | still _ => exact Or.inl rfl
  | @task task next hl hn =>
    refine Or.inr ⟨.step now s.status task, congrArg (Option.map Prod.snd) hn, ?_⟩
    rintro _ _ _ ⟨⟩
    exact ⟨rfl, hl⟩
  | @act act _ => exact Or.inr ⟨.act act, rfl, nofun⟩
  | @enter job _ | @errand _ job _ _ _ => exact Or.inr ⟨.enter job, rfl, nofun⟩
  | @leave key _ | @forget key _ _ => exact Or.inr ⟨.abandon key, rfl, nofun⟩
  | abort _ _ _ => exact Or.inr ⟨.abort, rfl, nofun⟩

/-- What counts on a channel at a step is the move that its task or its worker has made. -/
theorem Deed.on?_cases (h : Deed s now label s') (worker : Nat) :
    Entry.on? worker ⟨s, now, label, s'⟩ = none ∨ ∃ c m c', s.channels[worker]? = some c ∧ c.make? m = some c' ∧
      Entry.on? worker ⟨s, now, label, s'⟩ = some ⟨c, m, c'⟩ := by
  cases hc : s.channels[worker]? with
  | none =>
    left
    unfold Entry.on?
    simp only [hc]
  | some c =>
    obtain ⟨c', hc', hview⟩ := h.view hc
    cases hview with
    | still hl => exact Or.inl hl
    | @task task next hl hn =>
      subst hl
      refine Or.inr ⟨c, .step now s.status task, next.2, rfl, congrArg (Option.map Prod.snd) hn, ?_⟩
      simp [Entry.on?, hc, hc']
    | @act act hl =>
      subst hl
      refine Or.inr ⟨c, .act act, c.act act, rfl, rfl, ?_⟩
      simp [Entry.on?, hc, hc']
    | enter hl | errand hl _ _ | leave hl | forget hl _ | abort hl _ _ =>
      subst hl
      exact Or.inl (on?_eq_none nofun nofun)

/-- Whoever is there after a step has been there before it, or has just come: from outside, or with an errand of the
call under way. -/
theorem View.caller_before (h : View s now label s' worker c c') {key : Nat} {caller : Caller}
    (hc' : c'.callers[key]? = some caller) :
    (∃ stage, c.callers[key]? = some ⟨caller.job, stage⟩) ∨ key = c.callers.length ∧ caller.stage = .gate ∧
      (label = .enter worker caller.job ∨ Errand s worker key caller.job s'.stage) := by
  have hold {m : Channel.Move} (hmake : c.make? m = some c') (hm : ∀ job, m ≠ .enter job) :
      ∃ stage, c.callers[key]? = some ⟨caller.job, stage⟩ := by
    rcases Channel.caller_before hmake hc' with hold | ⟨he, -⟩
    · exact hold
    · exact absurd he (hm _)
  cases h with
  | still _ => exact Or.inl ⟨caller.stage, hc'⟩
  | @task task next _ hn =>
    exact Or.inl (hold (m := .step now s.status task) (congrArg (Option.map Prod.snd) hn) nofun)
  | @act act _ => exact Or.inl (hold (m := .act act) rfl nofun)
  | @leave left _ | @forget left _ _ => exact Or.inl (hold (m := .abandon left) rfl nofun)
  | abort _ _ _ => exact Or.inl (hold (m := .abort) rfl nofun)
  | @enter job hl =>
    rcases Channel.caller_before (m := .enter job) rfl hc' with hold | ⟨he, hkey, hgate⟩
    · exact Or.inl hold
    · cases he
      exact Or.inr ⟨hkey, hgate, Or.inl hl⟩
  | @errand newcomer job _ he hlen =>
    rcases Channel.caller_before (m := .enter job) rfl hc' with hold | ⟨hjob, hkey, hgate⟩
    · exact Or.inl hold
    · cases hjob
      refine Or.inr ⟨hkey, hgate, Or.inr ?_⟩
      rwa [hkey, ← hlen]

end

/-! ### The history of one channel -/

/-- Two histories of a channel in which the same has been posted, taken, resolved and written. -/
structure Agrees (es es' : List Channel.Entry) : Prop where
  letters : Channel.letters es = Channel.letters es'
  taken : Channel.taken es = Channel.taken es'
  resolved : Channel.resolved es = Channel.resolved es'
  written : Channel.written es = Channel.written es'

namespace Agrees

variable {es es' : List Channel.Entry} {c c' : Channel} {m : Channel.Move}

private theorem cons (h : Agrees es es') (e : Channel.Entry) : Agrees (e :: es) (e :: es') := by
  refine ⟨?_, ?_, ?_, ?_⟩
  · rw [Channel.letters_cons, Channel.letters_cons, h.letters]
  · rw [Channel.taken_cons, Channel.taken_cons, h.taken]
  · rw [Channel.resolved_cons, Channel.resolved_cons, h.resolved]
  · rw [Channel.written_cons, Channel.written_cons, h.written]

/-- Whoever comes or goes away, and whoever stops the tasks, leaves no trace there. -/
private theorem skip (h : Agrees es es') (hmake : c.make? m = some c')
    (hs : ∀ now status label, m ≠ .step now status label) (ha : ∀ act, m ≠ .act act) :
    Agrees (⟨c, m, c'⟩ :: es) es' := by
  have hletters : Channel.Entry.letters ⟨c, m, c'⟩ = [] := by
    have hmails := Channel.mails_of_make hmake
    generalize Channel.Entry.letters ⟨c, m, c'⟩ = posted at hmails
    cases hmails with
    | silent => rfl
    | reply hm _ => exact absurd hm (hs _ _ _)
    | caller hm _ _ _ _ => exact absurd hm (hs _ _ _)
  have hrest : Channel.Entry.took? ⟨c, m, c'⟩ = none ∧ Channel.Entry.resolved? ⟨c, m, c'⟩ = none ∧
      Channel.Entry.wrote ⟨c, m, c'⟩ = [] := by
    cases m with
    | step now status label => exact absurd rfl (hs now status label)
    | act act => exact absurd rfl (ha act)
    | enter job =>
      cases hmake
      exact ⟨rfl, rfl, Channel.Entry.wrote_of_same rfl⟩
    | abandon key =>
      cases hmake
      refine ⟨rfl, rfl, Channel.Entry.wrote_of_same ?_⟩
      simp only [Channel.abandon]
      split
      · split <;> rfl
      · rfl
    | abort =>
      cases hmake
      refine ⟨rfl, rfl, Channel.Entry.wrote_of_same ?_⟩
      simp only [Channel.abort]
      split <;> split <;> rfl
  obtain ⟨htook, hresolved, hwrote⟩ := hrest
  refine ⟨?_, ?_, ?_, ?_⟩
  · rw [Channel.letters_cons, hletters, List.append_nil, h.letters]
  · rw [Channel.taken_cons, htook, h.taken]
    rfl
  · rw [Channel.resolved_cons, hresolved, h.resolved]
    rfl
  · rw [Channel.written_cons, hwrote, List.append_nil, h.written]

end Agrees

section

variable {options : WorkerOptions} {process : Nat} {es : List Entry} {s : Supervisor} {worker : Nat} {c : Channel}

theorem Run.deed {s' : Supervisor} {now : Nat} {label : Label} (h : Run options process es s)
    (hstep : s.step now label = some s') : Deed s now label s' :=
  deed_of_step h.sound hstep

/-- What a step does to a channel is a move in the history of the channel, or leaves no trace there. -/
private theorem View.follows {s' : Supervisor} {now : Nat} {label : Label} {c' : Channel} {es' : List Channel.Entry}
    (hview : View s now label s' worker c c') (hc : s.channels[worker]? = some c)
    (hc' : s'.channels[worker]? = some c') (hrun : Channel.Run es' c) (hagrees : Agrees es' (on worker es)) :
    ∃ es'', Channel.Run es'' c' ∧ Agrees es'' (on worker (⟨s, now, label, s'⟩ :: es)) := by
  rw [on_cons]
  have hoff (hl : (∀ task, label ≠ .channel worker task) ∧ ∀ act, label ≠ .act worker act) :
      Entry.on? worker ⟨s, now, label, s'⟩ = none := on?_eq_none hl.1 hl.2
  cases hview with
  | still hl =>
    rw [hl]
    exact ⟨es', hrun, hagrees⟩
  | @task task next hl hn =>
    subst hl
    have hon : Entry.on? worker ⟨s, now, .channel worker task, s'⟩ = some ⟨c, .step now s.status task, next.2⟩ := by
      simp [Entry.on?, hc, hc']
    rw [hon]
    exact ⟨_, hrun.move (.step now s.status task) (congrArg (Option.map Prod.snd) hn), hagrees.cons _⟩
  | @act act hl =>
    subst hl
    have hon : Entry.on? worker ⟨s, now, .act worker act, s'⟩ = some ⟨c, .act act, c.act act⟩ := by
      simp [Entry.on?, hc, hc']
    rw [hon]
    exact ⟨_, hrun.move (.act act) rfl, hagrees.cons _⟩
  | @enter job hl =>
    subst hl
    rw [hoff ⟨nofun, nofun⟩]
    exact ⟨_, hrun.move (.enter job) rfl, hagrees.skip rfl nofun nofun⟩
  | @errand _ job hl _ _ =>
    subst hl
    rw [hoff ⟨nofun, nofun⟩]
    exact ⟨_, hrun.move (.enter job) rfl, hagrees.skip rfl nofun nofun⟩
  | @leave key hl | @forget key hl _ =>
    subst hl
    rw [hoff ⟨nofun, nofun⟩]
    exact ⟨_, hrun.move (.abandon key) rfl, hagrees.skip rfl nofun nofun⟩
  | abort hl _ _ =>
    subst hl
    rw [hoff ⟨nofun, nofun⟩]
    exact ⟨_, hrun.move .abort rfl, hagrees.skip rfl nofun nofun⟩

/-- A channel goes through a run of its own, on which all that counts has been done by its tasks and its worker. -/
theorem Run.follows (h : Run options process es s) :
    (∀ c, s.channels[worker]? = some c → ∃ es', Channel.Run es' c ∧ Agrees es' (on worker es)) ∧
      (s.channels[worker]? = none → on worker es = []) := by
  induction h with
  | fresh =>
    refine ⟨fun c hc => ?_, fun _ => rfl⟩
    cases hc
  | @move es s s' now label hrun hstep ih =>
    obtain ⟨hsome, hnone⟩ := ih
    have hdeed := hrun.deed hstep
    cases hc : s.channels[worker]? with
    | none =>
      have hoff : Entry.on? worker ⟨s, now, label, s'⟩ = none := by
        unfold Entry.on?
        simp only [hc]
      rw [on_cons, hoff, hnone hc]
      refine ⟨fun c' hc' => ?_, fun _ => rfl⟩
      obtain ⟨-, -, -, -, launch, -, rfl⟩ := hdeed.newcomer hc hc'
      have hagrees : Agrees [] [] := ⟨rfl, rfl, rfl, rfl⟩
      exact ⟨_, Channel.Run.fresh.move (.enter (s.greeting launch)) rfl, hagrees.skip rfl nofun nofun⟩
    | some c =>
      obtain ⟨es', hrun', hagrees⟩ := hsome c hc
      obtain ⟨c', hc', hview⟩ := hdeed.view hc
      refine ⟨fun c'' hc'' => ?_, fun hgone => ?_⟩
      · obtain rfl : c' = c'' := Option.some.inj (hc'.symm.trans hc'')
        exact hview.follows hc hc' hrun' hagrees
      · rw [hgone] at hc'
        cases hc'

/-! ### What is posted at a step -/

/-- What has been posted on the channel of a worker at a step. -/
def Entry.mail (worker : Nat) (e : Entry) : List Channel.Letter :=
  match e.on? worker with
  | some e => e.letters
  | none => []

theorem letters_on_cons (worker : Nat) (e : Entry) (es : List Entry) :
    Channel.letters (on worker (e :: es)) = Channel.letters (on worker es) ++ e.mail worker := by
  rw [on_cons, Entry.mail]
  cases e.on? worker with
  | none => exact (List.append_nil _).symm
  | some e' => exact Channel.letters_cons e' _

/-- What has been posted at a step is among what has been posted. -/
theorem mem_letters_on {es : List Entry} {e : Entry} (he : e ∈ es) {letter : Channel.Letter}
    (hl : letter ∈ e.mail worker) : letter ∈ Channel.letters (on worker es) := by
  induction es with
  | nil => cases he
  | cons f es ih =>
    rw [letters_on_cons]
    rcases List.mem_cons.1 he with rfl | he
    · exact List.mem_append_right _ hl
    · exact List.mem_append_left _ (ih he)

/-- Whoever has posted its message does not have it any more. -/
theorem Run.isUnsent_of_posted (h : Run options process es s) {key : Nat} {command : Command}
    (hl : ⟨.caller key, command⟩ ∈ Channel.letters (on worker es)) (hc : s.channels[worker]? = some c) {job : Job}
    {stage : Attendant.Stage} (hkey : c.callers[key]? = some ⟨job, stage⟩) : stage.isUnsent = false := by
  obtain ⟨es', hrun, hagrees⟩ := h.follows.1 c hc
  rw [← hagrees.letters] at hl
  obtain ⟨job', stage', id, hkey', -, hs, -⟩ := hrun.mailed.callers key command hl
  rw [hkey] at hkey'
  cases hkey'
  exact hs

/-- All that can be posted at a step: nothing, a reply of the reader, or the message of a caller. -/
inductive Mail (s : Supervisor) (worker : Nat) : List Channel.Letter → Prop
  | silent : Mail s worker []
  | reply (id : Value) (method : String) : Mail s worker [⟨.reader, .send (Message.methodNotFound id method)⟩]
  | caller {c : Channel} {key : Nat} {job : Job} {stage : Attendant.Stage} {id : Option Nat}
      (hc : s.channels[worker]? = some c) (hopen : c.mailbox.isOpen = true)
      (hkey : c.callers[key]? = some ⟨job, stage⟩) (hs : stage = .submit id ∨ stage = .queued id) :
      Mail s worker [⟨.caller key, job.command id⟩]

/-- What is posted for a worker at a step of a run. -/
theorem Run.mail (h : Run options process es s) {s' : Supervisor} {now : Nat} {label : Label}
    (hstep : s.step now label = some s') (worker : Nat) : Mail s worker (Entry.mail worker ⟨s, now, label, s'⟩) := by
  unfold Entry.mail
  rcases (h.deed hstep).on?_cases worker with hnone | ⟨c, m, c', hc, hmake, hon⟩
  · rw [hnone]
    exact .silent
  · rw [hon]
    obtain ⟨es', hrun, -⟩ := h.follows.1 c hc
    have hmails := Channel.mails_of_make hmake
    simp only
    generalize Channel.Entry.letters ⟨c, m, c'⟩ = posted at hmails
    cases hmails with
    | silent => exact .silent
    | reply _ hr =>
      obtain ⟨id, method, rfl⟩ := hrun.mailed.replying _ _ _ hr
      exact .reply id method
    | caller _ hkey hs hopen _ => exact .caller hc hopen hkey hs

/-! ### Workers that are no longer held -/

/-- Whoever is held by nobody is so for ever: only a newcomer is taken in. -/
theorem Sound.held {left : List Nat} {s' : Supervisor} {now : Nat} {label : Label} (h : Sound left s)
    (hd : Deed s now label s') (hc : s.channels[worker]? = some c) (hheld : s'.held? = some worker) :
    s.held? = some worker := by
  have hsame (hst : s'.stage = s.stage) (hcur : s'.current = s.current) : s.held? = some worker := by
    rw [← hheld, held?, held?, hst, hcur]
  -- a call that is given up keeps the worker that it has, unless it was about to stop it
  have hfree (hst : s'.stage = .free) (hcur : s'.current = s.current) : s.held? = some worker := by
    rw [held?, hst, hcur] at hheld
    cases hstop : s.stage.stopping? with
    | none => rw [held?_of_not_stopping hstop, ← hheld]; rfl
    | some other =>
      rw [(h.stopping other hstop).1] at hheld
      cases hheld
  cases hd with
  | aside _ _ hst hcur | task _ _ _ hst hcur | act _ hst hcur | enter _ hst hcur | leave _ hst hcur =>
    exact hsame hst hcur
  | plain _ _ hstop hcur _ _ => rw [← hheld, held?, held?, hstop, hcur]
  | adopt hs _ hst hcur =>
    rw [held?, hst, hcur] at hheld
    have hlt := (List.getElem?_eq_some_iff.1 hc).1
    cases hheld
    omega
  | errand _ hheld₀ hheld' _ _ _ => rw [hheld₀, ← hheld', hheld]
  | abort _ hstop hcur _ _ _ =>
    rw [held?, hstop, hcur] at hheld
    cases hheld
  | forget _ _ hst hcur | resign _ _ _ hst hcur => exact hfree hst hcur

/-- Whoever is let go is stopped, or it is an orphan. -/
private theorem Sound.let_go {left : List Nat} {s' : Supervisor} {now : Nat} {label : Label} (h : Sound left s)
    (hd : Deed s now label s') (hc : s.channels[worker]? = some c) (hc' : s'.channels[worker]? = some c')
    (hheld : s.held? = some worker) (hheld' : s'.held? ≠ some worker) :
    c'.writer = .ended ∨ label = .abandon ∧ s.stage.stopping? = some worker := by
  have hsame (hst : s'.stage = s.stage) (hcur : s'.current = s.current) : s'.held? = some worker := by
    rw [← hheld, held?, held?, hst, hcur]
  have hfree (hst : s'.stage = .free) (hcur : s'.current = s.current) : s.stage.stopping? = some worker := by
    cases hstop : s.stage.stopping? with
    | none =>
      rw [held?_of_not_stopping hstop] at hheld
      refine absurd ?_ hheld'
      rw [held?, hst, hcur, ← hheld]
      rfl
    | some other =>
      rwa [held?_of_stopping hstop] at hheld
  cases hd with
  | aside _ _ hst hcur | task _ _ _ hst hcur | act _ hst hcur | enter _ hst hcur | leave _ hst hcur =>
    exact absurd (hsame hst hcur) hheld'
  | plain _ _ hstop hcur _ _ => exact absurd (by rw [← hheld, held?, held?, hstop, hcur]) hheld'
  | adopt hs _ _ _ =>
    have hnone := (h.between (by rw [hs]; rfl)).1
    rw [held?, hs, hnone] at hheld
    cases hheld
  | errand _ hheld₀ hheld₁ _ _ _ => exact absurd (by rw [hheld₁, ← hheld₀, hheld]) hheld'
  | abort hheld₀ _ _ hcs _ _ =>
    obtain rfl := Option.some.inj (hheld₀.symm.trans hheld)
    rw [hcs, List.getElem?_modify_eq, hc] at hc'
    cases hc'
    exact Or.inl (Channel.abort_writer c)
  | forget _ _ hst hcur | resign _ _ _ hst hcur => exact Or.inr ⟨rfl, hfree hst hcur⟩

/-- Whoever has been let go has been stopped, unless its stop has been abandoned: its writer has ended. -/
theorem Run.shut (h : Run options process es s) (hc : s.channels[worker]? = some c) (hheld : s.held? ≠ some worker)
    (hleft : worker ∉ orphans es) : c.writer = .ended := by
  induction h generalizing c with
  | fresh => cases hc
  | @move es s s' now label hrun hstep ih =>
    have hdeed := hrun.deed hstep
    rw [orphans_cons, List.mem_append, not_or] at hleft
    obtain ⟨horphan, hleft⟩ := hleft
    cases hc₀ : s.channels[worker]? with
    | none =>
      obtain ⟨-, -, hst, hcur, -⟩ := hdeed.newcomer hc₀ hc
      exact absurd (by rw [held?, hst, hcur]; rfl) hheld
    | some c₀ =>
      obtain ⟨c', hc', hview⟩ := hdeed.view hc₀
      obtain rfl : c' = c := Option.some.inj (hc'.symm.trans hc)
      by_cases hheld₀ : s.held? = some worker
      · rcases hrun.sound.let_go hdeed hc₀ hc hheld₀ hheld with hended | ⟨rfl, hstop⟩
        · exact hended
        · refine absurd ?_ horphan
          simp [Entry.orphan?, hstop]
      · have hended := ih hc₀ hheld₀ hleft
        rcases hview.make with rfl | ⟨m, hmake, -⟩
        · exact hended
        · exact Channel.writer_ended_of_make hmake hended

/-- So its mailbox is shut. -/
theorem Run.mailbox_shut (h : Run options process es s) (hc : s.channels[worker]? = some c)
    (hheld : s.held? ≠ some worker) (hleft : worker ∉ orphans es) : c.mailbox.isOpen = false := by
  obtain ⟨es', hrun, -⟩ := h.follows.1 c hc
  exact hrun.orderly.shut_iff.2 (h.shut hc hheld hleft)

end

end Attendant.Supervisor

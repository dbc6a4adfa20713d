import Attendant.Proofs.Supervisor.Run

/-!
# What a step does to a call

A call goes by four things: the state, the worker that is owned, the stage, and the outcome. `Turn` lists all that a
step can do to them, and `turn_of_step` takes the definition of a step apart for them.

* `lastCall?` and `sinceCall` read from the history of a run what was asked last, and what has happened since;
* `Serves` says which stages and outcomes belong to a call, `Run.serves` that there are no others.
-/

namespace Attendant.Supervisor

/-- What a call goes by. -/
structure Helm where
  status : Watched Status
  current : Option Nat
  stage : Stage
  outcome : Option Outcome

def helm (s : Supervisor) : Helm := ⟨s.status, s.current, s.stage, s.outcome⟩

/-- A stop is over, and a restart goes on. -/
def Helm.rested (h : Helm) : Option Launch → Helm
  | none => { h with stage := .free, outcome := some .stopped }
  | some launch => { h with stage := .checking launch }

/-- The stage that a call begins at. -/
def Call.opening : Call → Stage
  | .start launch => .checking launch
  | .stop => .taking none
  | .restart launch => .taking (some launch)

/-- Whether a call waits at a stage, so that it may be abandoned there. -/
def Stage.waits : Stage → Bool
  | .clearing _ _ | .greeting _ _ | .confirming _ _ | .discarding _ _ => true
  | .asking _ _ _ | .leaving _ _ _ | .closing _ _ _ | .ending _ _ _ => true
  | _ => false

/-- What a stop goes on with. -/
def Stage.next? : Stage → Option (Option Launch)
  | .taking next | .asking _ _ next | .leaving _ _ next | .closing _ _ next | .ending _ _ next => some next
  | _ => none

/-- Whether a stage is one of a start. -/
def Stage.isStart : Stage → Bool
  | .checking _ | .clearing _ _ | .spawning _ | .greeting _ _ | .confirming _ _ | .discarding _ _ => true
  | _ => false

theorem Stage.isStart_of_next? {stage : Stage} {next : Option Launch} (h : stage.next? = some next) :
    stage.isStart = false := by
  cases stage with
  | taking _ | asking _ _ _ | leaving _ _ _ | closing _ _ _ | ending _ _ _ => rfl
  | _ => cases h

/-- Whether a step is one of the call under way. -/
def Label.isOwn : Label → Bool
  | .begin _ | .abandon | .proceed | .spawned _ | .answered _ => true
  | _ => false

/-- All that a step can do to what a call goes by. -/
inductive Turn (s : Supervisor) : Label → Helm → Prop where
  | task {label : Label} {status : Watched Status} (hl : label.isOwn = false)
      (hst : status = s.status ∨ s.status.value.isLive = true ∧ ∃ reason, status = s.status.set (.failed reason)) :
      Turn s label { s.helm with status }
  | begin {call : Call} (hs : s.stage = .free) :
      Turn s (.begin call) { s.helm with stage := call.opening, outcome := none }
  | abandon (hs : s.stage.waits = true) : Turn s .abandon { s.helm with stage := .free, outcome := none }
  | misconfigured {launch : Launch} (hs : s.stage = .checking launch) (message : String) :
      Turn s .proceed { s.helm with stage := .free, outcome := some (.refused (.configuration message)) }
  | alreadyRunning {launch : Launch} (hs : s.stage = .checking launch) (hl : s.status.value.isLive = true) :
      Turn s .proceed { s.helm with stage := .free, outcome := some (.refused .alreadyRunning) }
  | clear {launch : Launch} {stale : Nat} (hs : s.stage = .checking launch) (hc : s.current = some stale)
      (hl : s.status.value.isLive = false) :
      Turn s .proceed { s.helm with current := none, stage := .clearing launch stale }
  | ready {launch : Launch} (hs : s.stage = .checking launch) (hc : s.current = none)
      (hl : s.status.value.isLive = false) : Turn s .proceed { s.helm with stage := .spawning launch }
  | cleared {launch : Launch} {stale : Nat} (hs : s.stage = .clearing launch stale) :
      Turn s .proceed { s.helm with stage := .spawning launch }
  | unspawned {launch : Launch} {answer : SpawnAnswer} (hs : s.stage = .spawning launch) (reason command cause : String) :
      Turn s (.spawned answer)
        { s.helm with
          status := s.status.set (.failed reason), stage := .free, outcome := some (.refused (.spawn command cause)) }
  | adopt {launch : Launch} (hs : s.stage = .spawning launch) :
      Turn s (.spawned .started)
        { s.helm with
          status := s.status.set .starting, current := some s.workers.length, stage := .greeting s.workers.length 0 }
  | answered {worker key next : Nat} {v : Value} (hs : s.stage = .greeting worker key)
      (ho : s.outcomeOf? worker key = some (.ok v)) :
      Turn s .proceed { s.helm with stage := .confirming worker next }
  | welcome {worker key : Nat} {v : Value} (hs : s.stage = .confirming worker key)
      (ho : s.outcomeOf? worker key = some (.ok v)) (hst : s.status.value = .starting) :
      Turn s .proceed
        { s.helm with status := s.status.set .running, stage := .free, outcome := some (.started worker) }
  | part {worker : Nat} {status : Watched Status} (hs : s.stage.greeting? = some worker) (reason : String)
      (hst : status = s.status.set (.failed reason) ∨ status = s.status ∧ s.status.value ≠ .starting) :
      Turn s .proceed { s.helm with status, current := none, stage := .discarding worker (.handshake reason) }
  | discarded {worker : Nat} {fault : StartFault} (hs : s.stage = .discarding worker fault) :
      Turn s .proceed { s.helm with stage := .free, outcome := some (.refused fault) }
  | rest {next : Option Launch} {status : Watched Status} (hs : s.stage = .taking next) (hc : s.current = none)
      (hst : status.value = .idle) (hw : status = s.status ∨ status = s.status.set .idle) :
      Turn s .proceed ({ s.helm with status }.rested next)
  | take {worker : Nat} {next : Option Launch} {stage : Stage} (hs : s.stage = .taking next)
      (hc : s.current = some worker) (hw : stage.stopping? = some worker) (hn : stage.next? = some next) :
      Turn s .proceed { s.helm with status := s.status.set .stopping, current := none, stage }
  | halt {label : Label} {worker : Nat} {next : Option Launch} {stage : Stage}
      (hl : label = .proceed ∨ ∃ answer, label = .answered answer) (hs : s.stage.stopping? = some worker)
      (hn : s.stage.next? = some next) (hw : stage.stopping? = some worker) (hn' : stage.next? = some next) :
      Turn s label { s.helm with stage }
  | stopped {worker : Nat} {next : Option Launch} (hs : s.stage.stopping? = some worker)
      (hn : s.stage.next? = some next) : Turn s .proceed ({ s.helm with status := s.status.set .idle }.rested next)

/-- What a call finds when it begins. -/
theorem Turn.of_begin {s : Supervisor} {call : Call} {helm : Helm} (h : Turn s (.begin call) helm) :
    helm = { s.helm with stage := call.opening, outcome := none } := by
  cases h with
  | task hl _ => cases hl
  | begin hs => rfl
  | halt hl _ _ _ _ =>
    obtain hl | ⟨_, hl⟩ := hl <;> cases hl

/-- What is left of a call that is abandoned. -/
theorem Turn.of_abandon {s : Supervisor} {helm : Helm} (h : Turn s .abandon helm) :
    helm = { s.helm with stage := .free, outcome := none } := by
  cases h with
  | task hl _ => cases hl
  | abandon _ => rfl
  | halt hl _ _ _ _ =>
    obtain hl | ⟨_, hl⟩ := hl <;> cases hl

/-- Between two calls a call may begin. -/
theorem step_begin {s : Supervisor} (hs : s.stage = .free) (now : Nat) (call : Call) :
    s.step now (.begin call) = some { s with stage := call.opening, outcome := none } := by
  simp only [step, hs]
  cases call <;> rfl

/-- Between two calls nothing but the state changes. -/
theorem Turn.of_free {s : Supervisor} {label : Label} {helm : Helm} (h : Turn s label helm) (hs : s.stage = .free)
    (hl : ∀ call, label ≠ .begin call) :
    ∃ status, helm = { s.helm with status } ∧
      (status = s.status ∨ s.status.value.isLive = true ∧ ∃ reason, status = s.status.set (.failed reason)) := by
  cases h with
  | task _ hst => exact ⟨_, rfl, hst⟩
  | begin _ => exact absurd rfl (hl _)
  | abandon hw =>
    rw [hs] at hw
    cases hw
  | part hg _ _ =>
    rw [hs] at hg
    cases hg
  | halt _ hw _ _ _ =>
    rw [hs] at hw
    cases hw
  | stopped hw _ =>
    rw [hs] at hw
    cases hw
  | misconfigured hs' _ | alreadyRunning hs' _ | clear hs' _ _ | ready hs' _ _ | cleared hs' | unspawned hs' _ _ _
  | adopt hs' | answered hs' _ | welcome hs' _ _ | discarded hs' | rest hs' _ _ | take hs' _ _ _ =>
    rw [hs] at hs'
    cases hs'

/-- Steps of others leave the stage alone. -/
theorem Turn.of_task {s : Supervisor} {label : Label} {helm : Helm} (h : Turn s label helm)
    (hl : label.isOwn = false) : helm.stage = s.stage := by
  cases h with
  | task _ _ => rfl
  | halt hl' _ _ _ _ =>
    obtain rfl | ⟨_, rfl⟩ := hl' <;> cases hl
  | _ => cases hl

/-- Whoever does not stop a worker does not begin to, unless it is asked to. -/
theorem Turn.next?_eq_none {s : Supervisor} {label : Label} {helm : Helm} (h : Turn s label helm)
    (hs : s.stage.next? = none) (hl : ∀ call, label ≠ .begin call) : helm.stage.next? = none := by
  cases h with
  | task _ _ => exact hs
  | begin _ => exact absurd rfl (hl _)
  | rest hst _ _ _ | take hst _ _ _ =>
    rw [hst] at hs
    cases hs
  | halt _ _ hn _ _ | stopped _ hn =>
    rw [hn] at hs
    cases hs
  | _ => rfl

/-- Whoever is owned has been owned before, or has just been started. -/
theorem Turn.current_cases {s : Supervisor} {label : Label} {helm : Helm} (h : Turn s label helm) :
    helm.current = s.current ∨ helm.current = none ∨
      label = .spawned .started ∧ ∃ launch, s.stage = .spawning launch := by
  have hrested (h : Helm) (next : Option Launch) : (h.rested next).current = h.current := by cases next <;> rfl
  cases h with
  | adopt hs => exact Or.inr (Or.inr ⟨rfl, _, hs⟩)
  | rest _ _ _ _ | stopped _ _ => exact Or.inl (hrested _ _)
  | clear _ _ _ | part _ _ _ | take _ _ _ _ => exact Or.inr (Or.inl rfl)
  | _ => exact Or.inl rfl

/-- The state is written at most once by a step. -/
theorem Turn.status_cases {s : Supervisor} {label : Label} {helm : Helm} (h : Turn s label helm) :
    helm.status = s.status ∨ ∃ status, helm.status = s.status.set status := by
  have hrested (h : Helm) (next : Option Launch) : (h.rested next).status = h.status := by cases next <;> rfl
  cases h with
  | task _ hst =>
    obtain rfl | ⟨-, reason, rfl⟩ := hst
    · exact Or.inl rfl
    · exact Or.inr ⟨_, rfl⟩
  | part _ reason hst =>
    obtain rfl | ⟨rfl, -⟩ := hst
    · exact Or.inr ⟨_, rfl⟩
    · exact Or.inl rfl
  | rest _ _ _ hw =>
    rw [hrested]
    exact hw.imp_right fun hw => ⟨_, hw⟩
  | stopped _ _ =>
    rw [hrested]
    exact Or.inr ⟨_, rfl⟩
  | unspawned _ _ _ _ | adopt _ | welcome _ _ _ | take _ _ _ _ => exact Or.inr ⟨_, rfl⟩
  | _ => exact Or.inl rfl

/-! ### Taking a step apart -/

theorem helm_enter (s : Supervisor) (worker : Nat) (job : Job) : (s.enter worker job).1.helm = s.helm := by
  unfold Supervisor.enter
  split <;> rfl

private theorem helm_stopped (s : Supervisor) (next : Option Launch) : (s.stopped next).helm = s.helm.rested next := by
  cases next <;> rfl

theorem helm_adopt (s : Supervisor) (launch : Launch) :
    (s.adopt launch).helm =
      { s.helm with
        status := s.status.set .starting, current := some s.workers.length, stage := .greeting s.workers.length 0 } := by
  simp [adopt, Supervisor.enter, setStatus, modify, helm, Channel.enter]

private theorem turn_of_check {s : Supervisor} {launch : Launch} (hs : s.stage = .checking launch) :
    Turn s .proceed (s.check launch).helm := by
  unfold Supervisor.check
  split
  · exact .misconfigured hs _
  · split
    · exact .misconfigured hs _
    · split
      · rename_i hlive
        exact .alreadyRunning hs hlive
      · rename_i hlive
        have hlive : s.status.value.isLive = false := by simpa using hlive
        split
        · rename_i stale hc
          exact .clear hs hc hlive
        · rename_i hc
          exact .ready hs hc hlive

private theorem turn_of_welcome {s : Supervisor} {worker key : Nat} {v : Value} (hs : s.stage = .confirming worker key)
    (ho : s.outcomeOf? worker key = some (.ok v)) : Turn s .proceed (s.welcome worker).helm := by
  have hg : s.stage.greeting? = some worker := by
    rw [hs]
    rfl
  unfold Supervisor.welcome
  split
  · rename_i hst
    exact .welcome hs ho hst
  · rename_i reason hst
    exact .part hg reason (Or.inr ⟨rfl, by rw [hst]; nofun⟩)
  · rename_i hst _
    exact .part hg _ (Or.inr ⟨rfl, hst⟩)

private theorem turn_of_taken {s : Supervisor} {worker : Nat} {next : Option Launch} (hs : s.stage = .taking next)
    (hc : s.current = some worker) (job : Job) {stage : Stage} (hw : stage.stopping? = some worker)
    (hn : stage.next? = some next) :
    Turn s .proceed { (({ s with current := none }.setStatus .stopping).enter worker job).1.helm with stage } := by
  rw [helm_enter]
  exact .take hs hc hw hn

private theorem turn_of_take {s : Supervisor} {next : Option Launch} (hs : s.stage = .taking next) :
    Turn s .proceed (s.take next).helm := by
  unfold Supervisor.take
  split
  · rename_i hc
    rw [helm_stopped]
    split
    · rename_i hidle
      exact .rest hs hc hidle (Or.inl rfl)
    · show Turn s .proceed ({ s.helm with status := s.status.set .idle }.rested next)
      exact .rest hs hc rfl (Or.inr rfl)
  · rename_i worker hc
    simp only
    split
    · exact turn_of_taken hs hc _ rfl rfl
    · exact turn_of_taken hs hc _ rfl rfl

private theorem turn_of_halt {s s' : Supervisor} {worker : Nat} {next : Option Launch}
    (hs : s.stage.stopping? = some worker) (hn : s.stage.next? = some next) {stage : Stage}
    (hs' : s'.helm = { s.helm with stage }) (hw : stage.stopping? = some worker) (hn' : stage.next? = some next) :
    Turn s .proceed s'.helm := by
  rw [hs']
  exact .halt (Or.inl rfl) hs hn hw hn'

private theorem helm_close (s : Supervisor) (worker : Nat) (next : Option Launch) :
    ∃ key, (s.close worker next).helm = { s.helm with stage := .closing worker key next } := by
  have hkept := helm_enter s worker .finish
  simp only [helm, Helm.mk.injEq] at hkept
  exact ⟨(s.enter worker .finish).2, by simp only [close, helm, hkept]⟩

private theorem turn_of_close {s : Supervisor} {worker : Nat} {next : Option Launch}
    (hs : s.stage.stopping? = some worker) (hn : s.stage.next? = some next) :
    Turn s .proceed (s.close worker next).helm := by
  obtain ⟨key, hkey⟩ := helm_close s worker next
  exact turn_of_halt hs hn hkey rfl rfl

private theorem turn_of_proceed {now : Nat} {s s' : Supervisor} (h : s.proceed now = some s') :
    Turn s .proceed s'.helm := by
  unfold Supervisor.proceed at h
  cases hs : s.stage with
  | free => simp [hs] at h
  | spawning launch => simp [hs] at h
  | checking launch =>
    simp only [hs] at h
    cases h
    exact turn_of_check hs
  | clearing launch worker =>
    simp only [hs] at h
    obtain ⟨status, -, rfl⟩ := Option.map_eq_some_iff.1 h
    exact .cleared hs
  | greeting worker key =>
    simp only [hs] at h
    obtain ⟨outcome, ho, rfl⟩ := Option.map_eq_some_iff.1 h
    cases outcome with
    | ok v =>
      show Turn s .proceed { (s.enter worker _).1.helm with stage := _ }
      rw [helm_enter]
      exact .answered hs ho
    | error fault => exact .part (by rw [hs]; rfl) _ (Or.inl rfl)
  | confirming worker key =>
    simp only [hs] at h
    obtain ⟨outcome, ho, rfl⟩ := Option.map_eq_some_iff.1 h
    cases outcome with
    | ok v => exact turn_of_welcome hs ho
    | error fault => exact .part (by rw [hs]; rfl) _ (Or.inl rfl)
  | discarding worker fault =>
    simp only [hs] at h
    obtain ⟨status, -, rfl⟩ := Option.map_eq_some_iff.1 h
    exact .discarded hs
  | taking next =>
    simp only [hs] at h
    cases h
    exact turn_of_take hs
  | asking worker key next =>
    simp only [hs] at h
    have hw : s.stage.stopping? = some worker := by rw [hs]; rfl
    have hn : s.stage.next? = some next := by rw [hs]; rfl
    obtain ⟨outcome, -, rfl⟩ := Option.map_eq_some_iff.1 h
    cases outcome with
    | ok v =>
      show Turn s .proceed { (s.enter worker _).1.helm with stage := _ }
      rw [helm_enter]
      exact .halt (Or.inl rfl) hw hn rfl rfl
    | error fault => exact turn_of_close hw hn
  | leaving worker key next =>
    simp only [hs] at h
    obtain ⟨outcome, -, rfl⟩ := Option.map_eq_some_iff.1 h
    exact turn_of_close (by rw [hs]; rfl) (by rw [hs]; rfl)
  | closing worker key next =>
    simp only [hs] at h
    obtain ⟨outcome, -, rfl⟩ := Option.map_eq_some_iff.1 h
    exact .halt (Or.inl rfl) (by rw [hs]; rfl) (by rw [hs]; rfl) rfl rfl
  | ending worker termination next =>
    simp only [hs] at h
    have hw : s.stage.stopping? = some worker := by rw [hs]; rfl
    have hn : s.stage.next? = some next := by rw [hs]; rfl
    split at h
    · cases h
      rw [helm_stopped]
      exact .stopped hw hn
    · cases h
      rw [helm_stopped]
      exact .stopped hw hn
    · obtain ⟨termination, -, rfl⟩ := Option.map_eq_some_iff.1 h
      split
      · exact .halt (Or.inl rfl) hw hn rfl rfl
      · exact .halt (Or.inl rfl) hw hn rfl rfl

private theorem turn_of_abandon {s s' : Supervisor} (h : s.abandon = some s') : Turn s .abandon s'.helm := by
  unfold Supervisor.abandon at h
  cases hs : s.stage with
  | free => simp [hs] at h
  | checking launch => simp [hs] at h
  | spawning launch => simp [hs] at h
  | taking next => simp [hs] at h
  | _ =>
    simp only [hs] at h
    cases h
    exact .abandon (by rw [hs]; rfl)

/-- Of all steps of others, only that of a reader touches what a call goes by. -/
private theorem turn_of_channel {now worker : Nat} {label : Channel.Label} {s s' : Supervisor}
    (h : s.step now (.channel worker label) = some s') : Turn s (.channel worker label) s'.helm := by
  simp only [step, Option.bind_eq_bind, Option.bind_eq_some_iff, Option.pure_def, Option.some.injEq] at h
  obtain ⟨w, hw, next, hnext, rfl⟩ := h
  refine .task rfl ?_
  rcases Channel.status_of_step hnext with ⟨he, -⟩ | ⟨-, reason, -, he⟩
  · exact Or.inl he
  · by_cases hlive : s.status.value.isLive = true
    · exact Or.inr ⟨hlive, reason, he.trans (if_pos hlive)⟩
    · exact Or.inl (he.trans (if_neg hlive))

/-- Whatever a step does to what a call goes by is one of the turns. -/
theorem turn_of_step {now : Nat} {label : Label} {s s' : Supervisor} (h : s.step now label = some s') :
    Turn s label s'.helm := by
  cases label with
  | proceed => exact turn_of_proceed h
  | abandon => exact turn_of_abandon h
  | channel worker label => exact turn_of_channel h
  | begin call =>
    simp only [step] at h
    split at h
    · rename_i hs
      cases h
      cases call <;> exact .begin hs
    · cases h
  | spawned answer =>
    simp only [step] at h
    split at h
    · rename_i hs
      cases h
      rw [helm_adopt]
      exact .adopt hs
    · rename_i hs
      cases h
      exact .unspawned hs _ _ _
    · rename_i hs
      cases h
      exact .unspawned hs _ _ _
    · cases h
  | answered answer =>
    simp only [step] at h
    split at h
    · rename_i worker termination next hs
      obtain ⟨termination, -, rfl⟩ := Option.map_eq_some_iff.1 h
      exact .halt (Or.inr ⟨_, rfl⟩) (by rw [hs]; rfl) (by rw [hs]; rfl) rfl rfl
    · cases h
  | listener worker =>
    simp only [step, Option.bind_eq_bind, Option.bind_eq_some_iff, Option.pure_def, Option.some.injEq] at h
    obtain ⟨w, -, next, -, rfl⟩ := h
    exact .task rfl (Or.inl rfl)
  | exited worker status =>
    simp only [step] at h
    split at h
    · cases h
    · cases h
      exact .task rfl (Or.inl rfl)
  | enter worker job =>
    cases h
    rw [helm_enter]
    exact .task rfl (Or.inl rfl)
  | _ =>
    cases h
    exact .task rfl (Or.inl rfl)

/-! ### The call that has been begun last -/

/-- The call that a step begins, and the supervisor that is asked. -/
def Entry.call? (e : Entry) : Option (Supervisor × Call) :=
  match e.label with
  | .begin call => some (e.before, call)
  | _ => none

theorem Entry.call?_eq_none {s s' : Supervisor} {now : Nat} {label : Label} (hl : ¬∃ call, label = .begin call) :
    Entry.call? ⟨s, now, label, s'⟩ = none := by
  cases label with
  | begin call => exact absurd ⟨call, rfl⟩ hl
  | _ => rfl

/-- The last call: the supervisor that was asked, and for what. -/
def lastCall? (es : List Entry) : Option (Supervisor × Call) := es.findSome? Entry.call?

/-- What has happened since the last call was begun. -/
def sinceCall (es : List Entry) : List Entry := es.takeWhile fun e => e.call?.isNone

theorem lastCall?_cons (e : Entry) (es : List Entry) : lastCall? (e :: es) = e.call?.or (lastCall? es) := by
  unfold lastCall?
  rw [List.findSome?_cons]
  cases e.call? <;> rfl

theorem sinceCall_cons {s s' : Supervisor} {now : Nat} {label : Label} (hl : ¬∃ call, label = .begin call)
    (es : List Entry) : sinceCall (⟨s, now, label, s'⟩ :: es) = ⟨s, now, label, s'⟩ :: sinceCall es := by
  unfold sinceCall
  rw [List.takeWhile_cons, Entry.call?_eq_none hl]
  rfl

/-- What comes after the stop that a call begins with. -/
def Call.next? : Call → Option (Option Launch)
  | .start _ => none
  | .stop => some none
  | .restart launch => some (some launch)

/-- The stages and outcomes that belong to a call. -/
structure Serves (call : Call) (stage : Stage) (outcome : Option Outcome) : Prop where
  busy : stage ≠ .free → outcome = none
  start : stage.isStart = true → call ≠ .stop
  stop : ∀ next, stage.next? = some next → call.next? = some next
  stopped : outcome = some .stopped → call = .stop
  other : ∀ o, outcome = some o → o ≠ .stopped → call ≠ .stop

namespace Serves

variable {call : Call} {stage : Stage} {outcome : Option Outcome}

private theorem at_start (hc : call ≠ .stop) (hs : stage.isStart = true) (ho : outcome = none) :
    Serves call stage outcome := by
  refine ⟨fun _ => ho, fun _ => hc, fun next hn => ?_, by rw [ho]; nofun, by rw [ho]; nofun⟩
  rw [Stage.isStart_of_next? hn] at hs
  cases hs

private theorem at_stop {next : Option Launch} (hc : call.next? = some next) (hs : stage.next? = some next)
    (ho : outcome = none) : Serves call stage outcome := by
  refine ⟨fun _ => ho, fun hstart => ?_, fun next' hn => ?_, by rw [ho]; nofun, by rw [ho]; nofun⟩
  · rw [Stage.isStart_of_next? hs] at hstart
    cases hstart
  · rw [hc, ← hn, hs]

private theorem at_end {o : Outcome} (ho : o = .stopped ↔ call = .stop) : Serves call .free (some o) := by
  refine ⟨fun hne => absurd rfl hne, nofun, nofun, fun hs => ?_, fun o' ho' hne hc => ?_⟩
  · exact ho.1 (Option.some.inj hs)
  · obtain rfl := Option.some.inj ho'
    exact hne (ho.2 hc)

private theorem given_up : Serves call .free none := ⟨fun _ => rfl, nofun, nofun, nofun, nofun⟩

private theorem opening (call : Call) : Serves call call.opening none := by
  cases call with
  | start launch => exact at_start nofun rfl rfl
  | stop => exact at_stop rfl rfl rfl
  | restart launch => exact at_stop rfl rfl rfl

private theorem rested {s : Supervisor} {status : Watched Status} {current : Option Nat} {next : Option Launch}
    (h : Serves call s.stage s.outcome) (hn : s.stage.next? = some next) :
    Serves call (Helm.rested ⟨status, current, s.stage, s.outcome⟩ next).stage
      (Helm.rested ⟨status, current, s.stage, s.outcome⟩ next).outcome := by
  have hc := h.stop next hn
  cases next with
  | none =>
    refine at_end ⟨fun _ => ?_, fun _ => rfl⟩
    cases call <;> first | rfl | cases hc
  | some launch =>
    refine at_start (fun he => ?_) rfl (h.busy fun hf => ?_)
    · rw [he] at hc
      cases hc
    · rw [hf] at hn
      cases hn

/-- Every turn but that which begins another call stays with the call. -/
private theorem turn {s : Supervisor} {label : Label} {helm : Helm} (h : Serves call s.stage s.outcome)
    (ht : Turn s label helm) (hl : ∀ call, label ≠ .begin call) : Serves call helm.stage helm.outcome := by
  have hbusy (hne : s.stage ≠ .free) : s.outcome = none := h.busy hne
  cases ht with
  | task hl hst => exact h
  | begin hs => exact absurd rfl (hl _)
  | abandon hs => exact given_up
  | misconfigured hs message => exact at_end ⟨nofun, fun hc => absurd hc (h.start (by rw [hs]; rfl))⟩
  | alreadyRunning hs hlive => exact at_end ⟨nofun, fun hc => absurd hc (h.start (by rw [hs]; rfl))⟩
  | clear hs hc hlive => exact at_start (h.start (by rw [hs]; rfl)) rfl (hbusy (by rw [hs]; nofun))
  | ready hs hc hlive => exact at_start (h.start (by rw [hs]; rfl)) rfl (hbusy (by rw [hs]; nofun))
  | cleared hs => exact at_start (h.start (by rw [hs]; rfl)) rfl (hbusy (by rw [hs]; nofun))
  | unspawned hs reason command cause => exact at_end ⟨nofun, fun hc => absurd hc (h.start (by rw [hs]; rfl))⟩
  | adopt hs => exact at_start (h.start (by rw [hs]; rfl)) rfl (hbusy (by rw [hs]; nofun))
  | answered hs ho => exact at_start (h.start (by rw [hs]; rfl)) rfl (hbusy (by rw [hs]; nofun))
  | welcome hs ho hst => exact at_end ⟨nofun, fun hc => absurd hc (h.start (by rw [hs]; rfl))⟩
  | part hs reason hst =>
    have hstart : s.stage.isStart = true ∧ s.stage ≠ .free := by
      cases hstage : s.stage with
      | greeting worker key => exact ⟨rfl, nofun⟩
      | confirming worker key => exact ⟨rfl, nofun⟩
      | _ =>
        rw [hstage] at hs
        cases hs
    exact at_start (h.start hstart.1) rfl (hbusy hstart.2)
  | discarded hs => exact at_end ⟨nofun, fun hc => absurd hc (h.start (by rw [hs]; rfl))⟩
  | rest hs hc hst => exact h.rested (by rw [hs]; rfl)
  | take hs hc hw hn => exact at_stop (h.stop _ (by rw [hs]; rfl)) hn (hbusy (by rw [hs]; nofun))
  | halt hl hs hn hw hn' =>
    refine at_stop (h.stop _ hn) hn' (hbusy fun hf => ?_)
    rw [hf] at hs
    cases hs
  | stopped hs hn => exact h.rested hn

end Serves

/-- All that a start does, it does at the stages of a start. -/
theorem Turn.isStart {s : Supervisor} {label : Label} {helm : Helm} (h : Turn s label helm) {launch : Launch}
    (hs : Serves (.start launch) s.stage s.outcome) (hown : label.isOwn = true) (hl : ∀ call, label ≠ .begin call) :
    s.stage.isStart = true := by
  have hstop {next : Option Launch} (hn : s.stage.next? = some next) : False := by
    have := hs.stop next hn
    cases this
  cases h with
  | task hl' _ =>
    rw [hl'] at hown
    cases hown
  | begin _ => exact absurd rfl (hl _)
  | abandon hw =>
    cases hstage : s.stage with
    | asking _ _ _ | leaving _ _ _ | closing _ _ _ | ending _ _ _ => exact (hstop (by rw [hstage]; rfl)).elim
    | clearing _ _ | greeting _ _ | confirming _ _ | discarding _ _ => rfl
    | _ =>
      rw [hstage] at hw
      cases hw
  | part hg _ _ =>
    cases hstage : s.stage with
    | greeting _ _ | confirming _ _ => rfl
    | _ =>
      rw [hstage] at hg
      cases hg
  | rest hst _ _ _ | take hst _ _ _ => exact (hstop (by rw [hst]; rfl)).elim
  | halt _ _ hn _ _ | stopped _ hn => exact (hstop hn).elim
  | misconfigured hst _ | alreadyRunning hst _ | clear hst _ _ | ready hst _ _ | cleared hst | unspawned hst _ _ _
  | adopt hst | answered hst _ | welcome hst _ _ | discarded hst =>
    rw [hst]
    rfl

/-- The call under way, or the last one, is at a stage that belongs to it. -/
theorem Run.serves {options : WorkerOptions} {process : Nat} {es : List Entry} {s : Supervisor}
    (h : Run options process es s) :
    (lastCall? es = none → s.stage = .free ∧ s.outcome = none) ∧
      ∀ asked call, lastCall? es = some (asked, call) → Serves call s.stage s.outcome := by
  induction h with
  | fresh => exact ⟨fun _ => ⟨rfl, rfl⟩, fun asked call hlast => by simp [lastCall?] at hlast⟩
  | @move es s s' now label _ hstep ih =>
    have ht := turn_of_step hstep
    rw [lastCall?_cons]
    by_cases hbegin : ∃ call, label = .begin call
    · obtain ⟨call, rfl⟩ := hbegin
      refine ⟨nofun, fun asked call' heq => ?_⟩
      cases heq
      have hhelm : s'.helm = { s.helm with stage := call.opening, outcome := none } := ht.of_begin
      simp only [helm, Helm.mk.injEq] at hhelm
      rw [hhelm.2.2.1, hhelm.2.2.2]
      exact Serves.opening call
    · rw [Entry.call?_eq_none hbegin, Option.none_or]
      refine ⟨fun hnone => ?_, fun asked call hlast => ?_⟩
      · obtain ⟨hfree, hout⟩ := ih.1 hnone
        obtain ⟨status, hstatus, -⟩ := ht.of_free hfree fun call he => hbegin ⟨call, he⟩
        simp only [helm, Helm.mk.injEq] at hstatus
        exact ⟨hstatus.2.2.1.trans hfree, hstatus.2.2.2.trans hout⟩
      · exact (ih.2 asked call hlast).turn ht fun call he => hbegin ⟨call, he⟩

end Attendant.Supervisor

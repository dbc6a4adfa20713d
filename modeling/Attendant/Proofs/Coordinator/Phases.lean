import Attendant.Proofs.Coordinator.Run
import Attendant.Proofs.Supervisor.Ownership

/-!
# The phases of a coordinator

The phase of a coordinator sums up its supervisor and its tailer. Three machines move, and a call may be given up
between any two of their steps; still the phase never says more than is true: `Fits` says what it says at each stage of
a call, and every turn keeps it (`Sound.turn`).

What the user is told is read from the history: `Reports` says how far the notes have come at each stage of the last
call.
-/

namespace Attendant.Coordinator

open Supervisor (Calm Greeted Hailed Resumes Steady)

/-! ### What the phase says -/

/-- What the phase says between calls. -/
def Rests (c : Coordinator) : Prop :=
  match c.phase with
  | .stopped => c.tailer = none ∧ Calm c.supervisor.helm
  | .starting | .stopping => c.tailer = none
  | .active => ∃ worker, c.supervisor.outcome = some (.started worker)

/-- What the phase says at each stage. But for the stages at which the supervisor is waited for, it is free. -/
def Fits (c : Coordinator) : Prop :=
  match c.stage with
  | .free | .opening | .closing _ => c.supervisor.stage = .free ∧ c.Rests
  | .starting => c.phase = .starting ∧ c.tailer = none ∧ Resumes c.supervisor.helm
  | .locating _ _ | .attaching _ =>
    c.phase = .starting ∧ c.tailer = none ∧ c.supervisor.stage = .free ∧
      ∃ worker, c.supervisor.outcome = some (.started worker)
  | .stopping _ => c.phase = .stopping ∧ c.tailer = none
  | .gone => True

/-- The invariant of a coordinator. -/
structure Sound (c : Coordinator) : Prop where
  steady : Steady c.supervisor.helm
  hailed : Hailed c.supervisor
  fits : c.Fits

namespace Sound

variable {c c' : Coordinator} {now : Nat}

/-- Between two calls of the supervisor, its steps leave the phase right. -/
private theorem rests_of_step {s' : Supervisor} (hfree : c.supervisor.stage = .free) (hr : c.Rests)
    {label : Supervisor.Label} (hl : ∀ call, label ≠ .begin call) (hstep : c.supervisor.step now label = some s') :
    s'.stage = .free ∧ s'.outcome = c.supervisor.outcome ∧ Rests { c with supervisor := s' } := by
  obtain ⟨status, hhelm, hst⟩ := (Supervisor.turn_of_step hstep).of_free hfree hl
  have hstage : s'.stage = c.supervisor.stage := congrArg Supervisor.Helm.stage hhelm
  have houtcome : s'.outcome = c.supervisor.outcome := congrArg Supervisor.Helm.outcome hhelm
  refine ⟨hstage.trans hfree, houtcome, ?_⟩
  unfold Rests at hr ⊢
  cases hp : c.phase with
  | stopped =>
    simp only [hp] at hr ⊢
    obtain ⟨ht, hcalm⟩ := hr
    refine ⟨ht, ?_⟩
    rw [hhelm, hcalm.task hst]
    exact hcalm
  | starting => simpa only [hp] using hr
  | stopping => simpa only [hp] using hr
  | active => simpa only [hp, houtcome] using hr

private theorem free_of_enter {s : Supervisor} (hs : s.stage = .free) (worker : Nat) (job : Job) :
    (s.enter worker job).1.stage = .free := by
  rw [Supervisor.enter_stage, hs]

private theorem free_of_outcome (h : Sound c) {o : Supervisor.Outcome} (ho : c.supervisor.outcome = some o) :
    c.supervisor.stage = .free := by
  apply Decidable.byContradiction
  intro hne
  have hnone : c.supervisor.outcome = none := h.steady.busy hne
  rw [hnone] at ho
  cases ho

/-- What comes after a deactivation finds nothing that is up. -/
private theorem closed (hsteady : Steady c.supervisor.helm) (hhailed : Hailed c.supervisor)
    (hfree : c.supervisor.stage = .free) (hr : c.Rests) (next : Next) : Sound (c.closed next) := by
  cases next with
  | rest => exact ⟨hsteady, hhailed, hfree, hr⟩
  | activate => exact ⟨hsteady, hhailed, hfree, hr⟩
  | dispose => exact ⟨hsteady, hhailed, trivial⟩

/-- Every turn keeps the invariant. -/
theorem turn {label : Label} (h : Sound c) (ht : Turn now c label c') : Sound c' := by
  have hfits {stage : Stage} (hs : c.stage = stage) : Fits { c with stage } := by
    have := h.fits
    rw [Fits, hs] at this
    exact this
  cases ht with
  | @supervisor label s' hl ha hstep =>
    refine ⟨h.steady.turn (Supervisor.turn_of_step hstep), h.hailed.step h.steady hstep, ?_⟩
    have hold := h.fits
    unfold Fits at hold ⊢
    cases hs : c.stage with
    | free | opening | closing _ =>
      simp only [hs] at hold ⊢
      obtain ⟨hfree, -, hrests⟩ := rests_of_step hold.1 hold.2 hl hstep
      exact ⟨hfree, hrests⟩
    | starting =>
      simp only [hs] at hold ⊢
      obtain ⟨hp, htailer, hresumes⟩ := hold
      exact ⟨hp, htailer, hresumes.turn h.steady (Supervisor.turn_of_step hstep) hl⟩
    | locating _ _ | attaching _ =>
      simp only [hs] at hold ⊢
      obtain ⟨hp, htailer, hfree, worker, ho⟩ := hold
      have hrests : c.Rests := by
        simp only [Rests, hp]
        exact htailer
      obtain ⟨hfree', ho', -⟩ := rests_of_step hfree hrests hl hstep
      exact ⟨hp, htailer, hfree', worker, ho'.trans ho⟩
    | stopping _ => simpa only [hs] using hold
    | gone => trivial
  | attach hs tailer' sink => exact ⟨h.steady, h.hailed, hfits hs⟩
  | follow htailer tailer' sink =>
    refine ⟨h.steady, h.hailed, ?_⟩
    have hold := h.fits
    have hsome : c.tailer ≠ none := by
      rw [htailer]
      nofun
    unfold Fits Rests at hold ⊢
    cases hs : c.stage with
    | free | opening | closing _ =>
      simp only [hs] at hold ⊢
      -- a tailer follows only while the phase is active, and then nothing is said about it
      cases hp : c.phase with
      | active => simpa only [hp] using hold
      | stopped =>
        simp only [hp] at hold
        exact absurd hold.2.1 hsome
      | starting | stopping =>
        simp only [hp] at hold
        exact absurd hold.2 hsome
    | starting | locating _ _ | attaching _ | stopping _ =>
      simp only [hs] at hold
      first
        | exact absurd hold.2.1 hsome
        | exact absurd hold.2 hsome
    | gone => trivial
  | @begin call hs =>
    refine ⟨h.steady, h.hailed, ?_⟩
    have hfree := hfits hs
    cases call <;> exact hfree
  | @leave s' hs hstep =>
    have hhelm := (Supervisor.turn_of_step hstep).of_abandon
    have hfree : s'.stage = .free := congrArg Supervisor.Helm.stage hhelm
    refine ⟨h.steady.turn (Supervisor.turn_of_step hstep), h.hailed.step h.steady hstep, hfree, ?_⟩
    obtain hs | ⟨next, hs⟩ := hs
    · obtain ⟨hp, htailer, -⟩ := hfits hs
      simpa only [Rests, show c.phase = _ from hp] using htailer
    · obtain ⟨hp, htailer⟩ := hfits hs
      simpa only [Rests, show c.phase = _ from hp] using htailer
  | @forget worker key s' hs hstep =>
    obtain ⟨hp, htailer, hfree, -⟩ := hfits hs
    have hrests : c.Rests := by simpa only [Rests, show c.phase = _ from hp] using htailer
    have hl : ∀ call, Supervisor.Label.leave worker key ≠ .begin call := nofun
    obtain ⟨hfree', -, hrests'⟩ := rests_of_step hfree hrests hl hstep
    exact ⟨h.steady.turn (Supervisor.turn_of_step hstep), h.hailed.step h.steady hstep, hfree', hrests'⟩
  | detach hs =>
    obtain ⟨hp, htailer, hfree, -⟩ := hfits hs
    refine ⟨h.steady, h.hailed, hfree, ?_⟩
    simpa only [Rests, show c.phase = _ from hp] using htailer
  | idle hs hp => exact ⟨h.steady, h.hailed, hfits hs⟩
  | launch hs hp =>
    obtain ⟨hfree, hrests⟩ := hfits hs
    have hstep := Supervisor.step_begin hfree now (.start c.plan.launch)
    have hcalm : Calm c.supervisor.helm := by
      simp only [Rests, hp] at hrests
      exact hrests.2
    have htailer : c.tailer = none := by
      simp only [Rests, hp] at hrests
      exact hrests.1
    have hask : ({ c with phase := .starting }.ask now (.start c.plan.launch) .starting).supervisor =
        { c.supervisor with stage := .checking c.plan.launch, outcome := none } := by
      simp only [ask, hstep, Option.getD_some]
      rfl
    refine ⟨?_, ?_, rfl, htailer, ?_⟩
    · rw [hask]
      exact h.steady.turn (Supervisor.turn_of_step hstep)
    · rw [hask]
      exact h.hailed.step h.steady hstep
    · rw [hask]
      exact ⟨fun _ _ => hcalm, nofun⟩
  | clean hs hp =>
    have hold := hfits hs
    exact ⟨h.steady, h.hailed, hold⟩
  | refused hs ho =>
    obtain ⟨-, htailer, hresumes⟩ := hfits hs
    exact ⟨h.steady, h.hailed, h.free_of_outcome ho, htailer, (hresumes.2 _ ho).2⟩
  | @started worker hs ho job key =>
    obtain ⟨hp, htailer, -⟩ := hfits hs
    have hstep : c.supervisor.step now (.enter worker job) = some (c.supervisor.enter worker job).1 := rfl
    refine ⟨h.steady.turn (Supervisor.turn_of_step hstep), h.hailed.step h.steady hstep, hp, htailer,
      free_of_enter (h.free_of_outcome ho) worker job, worker, ?_⟩
    exact (congrArg Supervisor.Helm.outcome (Supervisor.helm_enter c.supervisor worker job)).trans ho
  | locate hs path => exact ⟨h.steady, h.hailed, hfits hs⟩
  | complete hs =>
    obtain ⟨worker, key, hs⟩ | ⟨tailer, hs⟩ := hs
    · obtain ⟨-, -, hfree, hstarted⟩ := hfits hs
      exact ⟨h.steady, h.hailed, hfree, hstarted⟩
    · obtain ⟨-, -, hfree, hstarted⟩ := hfits hs
      exact ⟨h.steady, h.hailed, hfree, hstarted⟩
  | attached hs =>
    obtain ⟨-, -, hfree, hstarted⟩ := hfits hs
    exact ⟨h.steady, h.hailed, hfree, hstarted⟩
  | @closed next hs hp =>
    obtain ⟨hfree, hrests⟩ := hfits hs
    exact closed h.steady h.hailed hfree hrests next
  | @stop next hs hp =>
    obtain ⟨hfree, -⟩ := hfits hs
    have hstep := Supervisor.step_begin hfree now .stop
    have hask : ({ c with phase := .stopping, tailer := none }.ask now .stop (.stopping next)).supervisor =
        { c.supervisor with stage := .taking none, outcome := none } := by
      simp only [ask, hstep, Option.getD_some]
      rfl
    refine ⟨?_, ?_, rfl, rfl⟩
    · rw [hask]
      exact h.steady.turn (Supervisor.turn_of_step hstep)
    · rw [hask]
      exact h.hailed.step h.steady hstep
  | @stopped next hs ho =>
    obtain ⟨-, htailer⟩ := hfits hs
    have hfree := h.free_of_outcome ho
    obtain ⟨hcurrent, hidle⟩ := h.steady.told .stopped ho
    have hcalm : Calm c.supervisor.helm := ⟨hcurrent, Or.inl hidle⟩
    exact closed (c := { c with phase := .stopped }) h.steady h.hailed hfree ⟨htailer, hcalm⟩ next

end Sound

/-- The invariant holds along every run. -/
theorem Run.sound {plan : Plan} {here : Path} {process : Nat} {es : List Entry} {c : Coordinator}
    (h : Run plan here process es c) : Sound c := by
  induction h with
  | fresh =>
    have hfresh : Supervisor.Run plan.worker process [] { options := plan.worker, process } := .fresh
    exact ⟨hfresh.steady, hfresh.hailed, rfl, rfl, rfl, Or.inl rfl⟩
  | move now label _ hstep ih => exact ih.turn (turn_of_step hstep)

/-! ### What the user is told -/

/-- A call that starts a worker: an activation of something active does nothing. -/
def Call.Starts (call : Call) (asked : Coordinator) : Prop :=
  call = .restart ∨ call = .activate ∧ asked.phase ≠ .active

/-- The deactivations that belong to a call. -/
def Call.Closes (call : Call) (asked : Coordinator) : Next → Prop
  | .rest => call = .deactivate
  | .activate => call.Starts asked
  | .dispose => call = .shutdown

/-- What the phase and the notes are after an outcome of a call. -/
def Tells (asked : Coordinator) (call : Call) (c : Coordinator) : Outcome → Prop
  | .refused fault =>
    call.Starts asked ∧ fault ≠ .alreadyRunning ∧ c.phase = .stopped ∧
      c.notes = asked.notes ++ [failedToStart c.name fault]
  | .done =>
    (call.Starts asked ∧ c.phase = .active ∧ c.notes = asked.notes ++ [activated c.name]) ∨
      (call = .activate ∧ asked.phase = .active ∧ c.phase = .active ∧ c.notes = asked.notes) ∨
      (call = .deactivate ∧ c.phase = .stopped ∧ c.notes = asked.notes)

/-- How far the last call has come with what it tells the user. -/
def Reports (asked : Coordinator) (call : Call) (c : Coordinator) : Prop :=
  match c.stage with
  | .free =>
    match c.outcome with
    | some outcome => Tells asked call c outcome
    | none => c.notes = asked.notes
  | .opening =>
    c.outcome = none ∧ c.notes = asked.notes ∧
      (call = .activate ∧ c.phase = asked.phase ∨ call.Starts asked ∧ c.phase = .stopped)
  | .starting | .locating _ _ | .attaching _ => c.outcome = none ∧ c.notes = asked.notes ∧ call.Starts asked
  | .closing next | .stopping next => c.outcome = none ∧ c.notes = asked.notes ∧ call.Closes asked next
  | .gone => call = .shutdown ∧ c.outcome = some .done ∧ c.notes = asked.notes

namespace Reports

variable {asked c c' : Coordinator} {call : Call} {now : Nat}

private theorem begin (c : Coordinator) (call : Call) :
    Reports c call { c with outcome := none, stage := call.opening } := by
  cases call with
  | activate => exact ⟨rfl, rfl, Or.inl ⟨rfl, rfl⟩⟩
  | deactivate => exact ⟨rfl, rfl, rfl⟩
  | restart => exact ⟨rfl, rfl, Or.inl rfl⟩
  | shutdown => exact ⟨rfl, rfl, rfl⟩

private theorem closed {next : Next} (ho : c.outcome = none) (hn : c.notes = asked.notes)
    (hc : call.Closes asked next) (hp : c.phase = .stopped) : Reports asked call (c.closed next) := by
  cases next with
  | rest => exact Or.inr (Or.inr ⟨hc, hp, hn⟩)
  | activate => exact ⟨ho, hn, Or.inr ⟨hc, hp⟩⟩
  | dispose => exact ⟨hc, rfl, hn⟩

private theorem complete (hn : c.notes = asked.notes) (hs : call.Starts asked) : Reports asked call c.complete := by
  refine Or.inl ⟨hs, rfl, ?_⟩
  show c.notes ++ [activated c.name] = asked.notes ++ [activated c.name]
  rw [hn]

/-- Every turn of a call keeps to what it has to tell. -/
theorem turn {label : Label} (h : Reports asked call c) (hsound : Sound c) (ht : Turn now c label c')
    (hl : ∀ call, label ≠ .begin call) : Reports asked call c' := by
  have hat {stage : Stage} (hs : c.stage = stage) : Reports asked call { c with stage } := by
    have := h
    rw [Reports, hs] at this
    exact this
  cases ht with
  | supervisor _ _ _ => exact h
  | attach hs _ _ => exact hat hs
  | follow _ _ _ => exact h
  | begin _ => exact absurd rfl (hl _)
  | leave hs _ =>
    obtain hs | ⟨next, hs⟩ := hs
    · exact (hat hs).2.1
    · exact (hat hs).2.1
  | forget hs _ => exact (hat hs).2.1
  | detach hs => exact (hat hs).2.1
  | idle hs hp =>
    obtain ⟨-, hn, ⟨hc, hphase⟩ | ⟨-, hstopped⟩⟩ := hat hs
    · exact Or.inr (Or.inl ⟨hc, hphase.symm.trans hp, hp, hn⟩)
    · have hstopped : c.phase = .stopped := hstopped
      rw [hp] at hstopped
      cases hstopped
  | launch hs hp =>
    obtain ⟨ho, hn, ⟨hc, hphase⟩ | ⟨hstarts, -⟩⟩ := hat hs
    · refine ⟨ho, hn, Or.inr ⟨hc, fun hactive => ?_⟩⟩
      have hphase : c.phase = asked.phase := hphase
      rw [hp, hactive] at hphase
      cases hphase
    · exact ⟨ho, hn, hstarts⟩
  | clean hs hp =>
    obtain ⟨ho, hn, ⟨hc, hphase⟩ | ⟨-, hstopped⟩⟩ := hat hs
    · -- what an abandoned call has left is closed first
      refine ⟨ho, hn, Or.inr ⟨hc, fun hactive => ?_⟩⟩
      have hphase : c.phase = asked.phase := hphase
      rw [hactive] at hphase
      rcases hp with hp | hp <;> rw [hp] at hphase <;> cases hphase
    · have hstopped : c.phase = .stopped := hstopped
      rcases hp with hp | hp <;> rw [hp] at hstopped <;> cases hstopped
  | @refused fault hs ho =>
    obtain ⟨-, hn, hstarts⟩ := hat hs
    have hfits := hsound.fits
    rw [Fits, hs] at hfits
    obtain ⟨-, -, -, hrefused⟩ := hfits
    refine ⟨hstarts, (hrefused fault ho).1, rfl, ?_⟩
    show c.notes ++ [failedToStart c.name fault] = asked.notes ++ [failedToStart c.name fault]
    rw [show c.notes = asked.notes from hn]
  | started hs _ _ _ => exact hat hs
  | locate hs _ => exact hat hs
  | complete hs =>
    obtain ⟨worker, key, hs⟩ | ⟨tailer, hs⟩ := hs
    · obtain ⟨-, hn, hstarts⟩ := hat hs
      exact complete hn hstarts
    · obtain ⟨-, hn, hstarts⟩ := hat hs
      exact complete hn hstarts
  | attached hs =>
    obtain ⟨-, hn, hstarts⟩ := hat hs
    exact complete hn hstarts
  | closed hs hp =>
    obtain ⟨ho, hn, hc⟩ := hat hs
    exact closed ho hn hc hp
  | stop hs _ => exact hat hs
  | stopped hs _ =>
    obtain ⟨ho, hn, hc⟩ := hat hs
    exact closed (c := { c with phase := .stopped }) ho hn hc rfl

/-- A call is under way or given up, or it has come to an end, be it the last. -/
theorem cases (h : Reports asked call c) :
    (c.outcome = none ∧ c.notes = asked.notes) ∨
      (∃ outcome, c.outcome = some outcome ∧ c.stage = .free ∧ Tells asked call c outcome) ∨
      (c.outcome = some .done ∧ call = .shutdown ∧ c.notes = asked.notes) := by
  unfold Reports at h
  cases hs : c.stage with
  | free =>
    simp only [hs] at h
    cases ho : c.outcome with
    | none =>
      simp only [ho] at h
      exact Or.inl ⟨rfl, h⟩
    | some outcome =>
      simp only [ho] at h
      exact Or.inr (Or.inl ⟨outcome, rfl, rfl, h⟩)
  | gone =>
    simp only [hs] at h
    exact Or.inr (Or.inr ⟨h.2.1, h.1, h.2.2⟩)
  | _ =>
    simp only [hs] at h
    exact Or.inl ⟨h.1, h.2.1⟩

end Reports

/-- The last call has told the user what it has to, along every run. -/
theorem Run.reports {plan : Plan} {here : Path} {process : Nat} {es : List Entry} {c : Coordinator}
    (h : Run plan here process es c) :
    ∀ asked call, lastCall? es = some (asked, call) → Reports asked call c := by
  induction h with
  | fresh => exact fun asked call hlast => by simp [lastCall?] at hlast
  | @move es c c' now label hrun hstep ih =>
    have ht := turn_of_step hstep
    intro asked call hlast
    rw [lastCall?_cons] at hlast
    by_cases hbegin : ∃ call, label = .begin call
    · obtain ⟨call', rfl⟩ := hbegin
      cases hlast
      cases ht with
      | begin hs => exact Reports.begin _ _
    · rw [Entry.call?_eq_none hbegin, Option.none_or] at hlast
      exact (ih asked call hlast).turn hrun.sound ht fun call he => hbegin ⟨call, he⟩

/-! ### What a user of the coordinator can rely on -/

/-- Whatever is asked of a coordinator, wherever calls are given up, and whenever a worker ends: between two calls only
an active coordinator follows a log; one that is stopped owns no worker, and the worker is idle or has failed; one that
is active owns a worker that has been greeted. An activation is not refused because a worker is up. The user is told
nothing until a call has come to its end; a call that starts a worker then gives one note: an information that the worker
is up if it leaves the coordinator active, or an error that says why it is not if it leaves it stopped. An activation of
something active gives none, and neither does a deactivation, which leaves the coordinator stopped, without a log and
without a worker. -/
theorem Run.attended {plan : Plan} {here : Path} {process : Nat} {es : List Entry} {c : Coordinator}
    (h : Run plan here process es c) :
    (c.stage = .free →
      (c.tailer ≠ none → c.phase = .active) ∧
      (c.phase = .stopped → c.tailer = none ∧ c.supervisor.current = none ∧
        (c.supervisor.status.value = .idle ∨ ∃ reason, c.supervisor.status.value = .failed reason)) ∧
      (c.phase = .active → ∃ worker, c.supervisor.current = some worker ∧ Greeted c.supervisor worker)) ∧
    ∀ asked call, lastCall? es = some (asked, call) →
      (c.outcome = none → c.notes = asked.notes) ∧
      (∀ fault, c.outcome = some (.refused fault) →
        fault ≠ .alreadyRunning ∧ (call = .activate ∧ asked.phase ≠ .active ∨ call = .restart) ∧ c.phase = .stopped ∧
          c.notes = asked.notes ++ [.error ("Failed to start " ++ c.name ++ " language server: " ++ fault.message)]) ∧
      (c.outcome = some .done →
        match call with
        | .activate =>
          c.phase = .active ∧
            c.notes =
              if asked.phase = .active then asked.notes
              else asked.notes ++ [.info (c.name ++ " language server is now active")]
        | .restart => c.phase = .active ∧ c.notes = asked.notes ++ [.info (c.name ++ " language server is now active")]
        | .deactivate =>
          c.phase = .stopped ∧ c.tailer = none ∧ c.supervisor.current = none ∧ c.notes = asked.notes
        | .shutdown => c.notes = asked.notes) := by
  have hsound := h.sound
  have hstopped (hfree : c.stage = .free) (hp : c.phase = .stopped) : c.tailer = none ∧ Calm c.supervisor.helm := by
    have hfits := hsound.fits
    rw [Fits, hfree] at hfits
    obtain ⟨-, hrests⟩ := hfits
    rwa [Rests, hp] at hrests
  refine ⟨fun hfree => ⟨fun htailer => ?_, fun hp => ?_, fun hp => ?_⟩, fun asked call hlast => ?_⟩
  · have hfits := hsound.fits
    rw [Fits, hfree] at hfits
    obtain ⟨-, hrests⟩ := hfits
    unfold Rests at hrests
    cases hp : c.phase with
    | active => rfl
    | stopped =>
      rw [hp] at hrests
      exact absurd hrests.1 htailer
    | starting | stopping =>
      rw [hp] at hrests
      exact absurd hrests htailer
  · obtain ⟨htailer, hcurrent, hst⟩ := hstopped hfree hp
    exact ⟨htailer, hcurrent, hst.imp_right Status.hasFailed_iff.1⟩
  · have hfits := hsound.fits
    rw [Fits, hfree] at hfits
    obtain ⟨-, hrests⟩ := hfits
    rw [Rests, hp] at hrests
    obtain ⟨worker, ho⟩ := hrests
    exact ⟨worker, (hsound.steady.told _ ho).1, hsound.hailed.greeted worker ho⟩
  · rcases (h.reports asked call hlast).cases with ⟨ho, hn⟩ | ⟨outcome, ho, hfree, htells⟩ | ⟨ho, rfl, hn⟩
    · refine ⟨fun _ => hn, fun fault hf => ?_, fun hd => ?_⟩
      · rw [ho] at hf
        cases hf
      · rw [ho] at hd
        cases hd
    · refine ⟨fun hnone => ?_, fun fault hf => ?_, fun hd => ?_⟩
      · rw [ho] at hnone
        cases hnone
      · obtain rfl : outcome = .refused fault := Option.some.inj (ho.symm.trans hf)
        obtain ⟨hstarts, hne, hp, hn⟩ := htells
        exact ⟨hne, hstarts.symm, hp, hn⟩
      · obtain rfl : outcome = .done := Option.some.inj (ho.symm.trans hd)
        rcases htells with ⟨rfl | ⟨rfl, hne⟩, hp, hn⟩ | ⟨rfl, hactive, hp, hn⟩ | ⟨rfl, hp, hn⟩
        · exact ⟨hp, hn⟩
        · refine ⟨hp, ?_⟩
          rw [if_neg hne, hn]
          rfl
        · exact ⟨hp, by rw [if_pos hactive, hn]⟩
        · obtain ⟨htailer, hcurrent, -⟩ := hstopped hfree hp
          exact ⟨hp, htailer, hcurrent, hn⟩
    · refine ⟨fun hnone => ?_, fun fault hf => ?_, fun _ => hn⟩
      · rw [ho] at hnone
        cases hnone
      · rw [ho] at hf
        cases hf

def somePlan : Plan :=
  { language := ⟨"L"⟩, launch := Supervisor.someLaunch, worker := Supervisor.someOptions, logPathMethod := "log",
    requestTimeout := ⟨0⟩, tail := ⟨⟨0⟩, ⟨0⟩, 1⟩ }

/-- A worker is activated; its stream ends before it has named a log, and it is deactivated again. -/
theorem attended_activation : ∃ es c es' c' asked asked', Run somePlan (.ofString "/") 1 es c ∧
    lastCall? es = some (asked, .activate) ∧ c.outcome = some .done ∧ c.phase = .active ∧
    c.notes = [.info "L language server is now active"] ∧
    (∃ worker, c.supervisor.current = some worker ∧ Greeted c.supervisor worker) ∧
    Run somePlan (.ofString "/") 1 es' c' ∧ lastCall? es' = some (asked', .deactivate) ∧ c'.outcome = some .done ∧
    c'.phase = .stopped ∧ c'.tailer = none ∧ c'.supervisor.current = none ∧ c'.notes = asked'.notes := by
  have idle : Run somePlan (.ofString "/") 1 [] _ := Run.fresh
  have running := idle.play
    (.begin .activate :: .proceed :: ((Supervisor.welcoming 0).drop 1).map .supervisor ++ [.proceed]) rfl
  -- it is asked for its log, but its stream ends
  have locating := running.play (List.replicate 5 (.supervisor (.channel 0 (.caller 2)))) rfl
  have failed := locating.play
    (.supervisor (.act 0 .closesOutput) :: List.replicate 4 (.supervisor (.channel 0 .reader))) rfl
  have active := failed.play
    [.supervisor (.channel 0 (.caller 2)), .supervisor (.channel 0 (.caller 2)), .proceed] rfl
  -- it is deactivated
  have closing := active.play [.begin .deactivate, .proceed, .supervisor .proceed] rfl
  have finished := closing.play
    [.supervisor (.channel 0 (.caller 3)), .supervisor (.channel 0 (.caller 3)), .supervisor .proceed] rfl
  have stopped := finished.play
    [.supervisor (.exited 0 (.code 0)), .supervisor .proceed, .supervisor .proceed, .proceed] rfl
  obtain ⟨hphase, hreport⟩ := active.attended
  obtain ⟨-, -, howned⟩ := hphase rfl
  obtain ⟨-, -, hdone⟩ := hreport _ _ rfl
  obtain ⟨hactive, hnotes⟩ := hdone rfl
  obtain ⟨-, -, hdone'⟩ := stopped.attended.2 _ _ rfl
  obtain ⟨hp, htailer, hcurrent, hsilent⟩ := hdone' rfl
  exact ⟨_, _, _, _, _, _, active, rfl, rfl, hactive, hnotes, howned hactive, stopped, rfl, rfl, hp, htailer, hcurrent,
    hsilent⟩

end Attendant.Coordinator

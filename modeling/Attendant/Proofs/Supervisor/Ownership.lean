import Attendant.Proofs.Supervisor.Isolation
import Attendant.Proofs.Supervisor.Turn
import Attendant.Proofs.Supervisor.Workers

/-!
# What the state says about the owned worker

A call may be given up wherever it waits, and the stream of a worker may end at any time. At each stage it is known all
the same how the state and the owned worker go together: `Fits` says so for a stage, `Leaves` for an outcome, and every
turn keeps both (`Steady.turn`).

What a call promises besides depends on what it has found and done, so it is read from the history: `Resumes` is about
calls that find nothing that is up, `Untouched` about starts that are refused before they have done anything, and
`Hailed` about the greeting.
-/

namespace Attendant

/-- Whether a worker has failed. -/
def Status.hasFailed : Status → Bool
  | .failed _ => true
  | _ => false

theorem Status.hasFailed_iff {status : Status} : status.hasFailed = true ↔ ∃ reason, status = .failed reason := by
  cases status <;> simp [Status.hasFailed]

theorem Status.isLive_iff {status : Status} : status.isLive = true ↔ status = .starting ∨ status = .running := by
  cases status <;> simp [Status.isLive]

/-- Whether a start is refused before it has done anything. -/
def StartFault.isEarly : StartFault → Bool
  | .configuration _ | .alreadyRunning => true
  | _ => false

namespace Supervisor

/-! ### At each stage -/

/-- What the state and the owned worker are at a stage. -/
def Fits (status : Status) (current : Option Nat) : Stage → Prop
  | .free | .checking _ | .taking _ =>
    (current = none → status.isLive = false) ∧
      (current ≠ none → status.isLive = true ∨ status.hasFailed = true)
  | .clearing _ _ | .spawning _ => current = none ∧ status.isLive = false
  | .greeting worker _ | .confirming worker _ =>
    current = some worker ∧ (status = .starting ∨ status.hasFailed = true)
  | .discarding _ fault => current = none ∧ status.hasFailed = true ∧ ∃ reason, fault = .handshake reason
  | .asking _ _ _ | .leaving _ _ _ | .closing _ _ _ | .ending _ _ _ => current = none ∧ status = .stopping

/-- What the state and the owned worker are after an outcome. -/
def Leaves (status : Status) (current : Option Nat) : Outcome → Prop
  | .started worker => current = some worker ∧ (status = .running ∨ status.hasFailed = true)
  | .refused fault => fault.isEarly = true ∨ current = none ∧ status.hasFailed = true
  | .stopped => current = none ∧ status = .idle

namespace Fits

variable {status : Status} {current : Option Nat} {stage : Stage}

/-- A worker that is up may fail at any stage. -/
theorem fail (h : Fits status current stage) (hlive : status.isLive = true) (reason : String) :
    Fits (.failed reason) current stage := by
  have hdead (hst : status.isLive = false) : False := by
    rw [hst] at hlive
    cases hlive
  cases stage with
  | free | checking _ | taking _ => exact ⟨fun _ => rfl, fun _ => Or.inr rfl⟩
  | clearing _ _ | spawning _ => exact (hdead h.2).elim
  | greeting _ _ | confirming _ _ => exact ⟨h.1, Or.inr rfl⟩
  | discarding _ _ =>
    obtain ⟨-, hfailed, -⟩ := h
    obtain ⟨_, rfl⟩ := Status.hasFailed_iff.1 hfailed
    exact (hdead rfl).elim
  | asking _ _ _ | leaving _ _ _ | closing _ _ _ | ending _ _ _ =>
    obtain ⟨-, rfl⟩ := h
    exact (hdead rfl).elim

/-- Wherever a call stands, it may be over. -/
theorem free (h : Fits status current stage) : Fits status current .free := by
  cases stage with
  | free | checking _ | taking _ => exact h
  | clearing _ _ | spawning _ => exact ⟨fun _ => h.2, fun hc => absurd h.1 hc⟩
  | greeting _ _ | confirming _ _ =>
    obtain ⟨rfl, hst⟩ := h
    exact ⟨nofun, fun _ => hst.imp_left fun hst => by rw [hst]; rfl⟩
  | discarding _ _ =>
    obtain ⟨hc, hst, -⟩ := h
    obtain ⟨_, rfl⟩ := Status.hasFailed_iff.1 hst
    exact ⟨fun _ => rfl, fun hc' => absurd hc hc'⟩
  | asking _ _ _ | leaving _ _ _ | closing _ _ _ | ending _ _ _ =>
    obtain ⟨hc, rfl⟩ := h
    exact ⟨fun _ => rfl, fun hc' => absurd hc hc'⟩

private theorem iff_of_stopping {worker : Nat} (hs : stage.stopping? = some worker) :
    Fits status current stage ↔ current = none ∧ status = .stopping := by
  cases stage with
  | asking _ _ _ | leaving _ _ _ | closing _ _ _ | ending _ _ _ => exact Iff.rfl
  | _ => cases hs

private theorem iff_of_greeting {worker : Nat} (hs : stage.greeting? = some worker) :
    Fits status current stage ↔ current = some worker ∧ (status = .starting ∨ status.hasFailed = true) := by
  cases stage with
  | greeting _ _ | confirming _ _ =>
    cases hs
    exact Iff.rfl
  | _ => cases hs

end Fits

theorem Leaves.fail {status : Status} {current : Option Nat} {o : Outcome} (h : Leaves status current o)
    (hlive : status.isLive = true) (reason : String) : Leaves (.failed reason) current o := by
  cases o with
  | started worker => exact ⟨h.1, Or.inr rfl⟩
  | refused fault => exact h.imp_right fun h => ⟨h.1, rfl⟩
  | stopped =>
    obtain ⟨-, rfl⟩ := h
    cases hlive

/-- The state and the owned worker go together with the stage and the outcome. -/
structure Steady (h : Helm) : Prop where
  fits : Fits h.status.value h.current h.stage
  busy : h.stage ≠ .free → h.outcome = none
  told : ∀ o, h.outcome = some o → Leaves h.status.value h.current o

namespace Steady

private theorem at_stage {h : Helm} (hf : Fits h.status.value h.current h.stage) (ho : h.outcome = none) : Steady h :=
  ⟨hf, fun _ => ho, by rw [ho]; nofun⟩

private theorem at_end {h : Helm} {o : Outcome} (hs : h.stage = .free) (ho : h.outcome = some o)
    (hf : Fits h.status.value h.current .free) (hl : Leaves h.status.value h.current o) : Steady h := by
  refine ⟨by rwa [hs], fun hne => absurd hs hne, fun o' ho' => ?_⟩
  obtain rfl := Option.some.inj (ho.symm.trans ho')
  exact hl

private theorem rested {h : Helm} (hc : h.current = none) (hst : h.status.value = .idle) (ho : h.outcome = none)
    (next : Option Launch) : Steady (h.rested next) := by
  have hf : Fits h.status.value h.current .free := ⟨fun _ => by rw [hst]; rfl, fun hne => absurd hc hne⟩
  cases next with
  | none => exact at_end rfl rfl hf ⟨hc, hst⟩
  | some launch => exact at_stage hf ho

/-- Every turn keeps what the state says. -/
theorem turn {s : Supervisor} {label : Label} {helm : Helm} (h : Steady s.helm) (ht : Turn s label helm) :
    Steady helm := by
  have hbusy (hs : s.stage ≠ .free) : s.outcome = none := h.busy hs
  have hfits {stage : Stage} (hs : s.stage = stage) : Fits s.status.value s.current stage := hs ▸ h.fits
  cases ht with
  | task hl hst =>
    obtain rfl | ⟨hlive, reason, rfl⟩ := hst
    · exact h
    · exact ⟨h.fits.fail hlive reason, h.busy, fun o ho => (h.told o ho).fail hlive reason⟩
  | @begin call hs =>
    have hfree := hfits hs
    refine at_stage ?_ rfl
    cases call <;> exact hfree
  | abandon hs => exact at_stage h.fits.free rfl
  | misconfigured hs message => exact at_end rfl rfl h.fits.free (Or.inl rfl)
  | alreadyRunning hs hlive => exact at_end rfl rfl h.fits.free (Or.inl rfl)
  | clear hs hc hlive => exact at_stage ⟨rfl, hlive⟩ (hbusy (by rw [hs]; nofun))
  | ready hs hc hlive => exact at_stage ⟨hc, hlive⟩ (hbusy (by rw [hs]; nofun))
  | cleared hs =>
    have hclear := hfits hs
    exact at_stage hclear (hbusy (by rw [hs]; nofun))
  | unspawned hs reason command cause =>
    obtain ⟨hc, -⟩ := hfits hs
    exact at_end rfl rfl ⟨fun _ => rfl, fun hne => absurd hc hne⟩ (Or.inr ⟨hc, rfl⟩)
  | adopt hs => exact at_stage ⟨rfl, Or.inl rfl⟩ (hbusy (by rw [hs]; nofun))
  | answered hs ho =>
    have hgreeting := hfits hs
    exact at_stage hgreeting (hbusy (by rw [hs]; nofun))
  | welcome hs ho hst =>
    obtain ⟨hc, -⟩ := hfits hs
    exact at_end rfl rfl ⟨fun hnone => absurd (hc.symm.trans hnone) nofun, fun _ => Or.inl rfl⟩ ⟨hc, Or.inl rfl⟩
  | part hs reason hst =>
    obtain ⟨-, hup⟩ := (Fits.iff_of_greeting hs).1 h.fits
    refine at_stage ⟨rfl, ?_, reason, rfl⟩ (hbusy fun hf => by rw [hf] at hs; cases hs)
    obtain rfl | ⟨rfl, hne⟩ := hst
    · rfl
    · exact hup.resolve_left hne
  | discarded hs =>
    obtain ⟨hc, hst, reason, rfl⟩ := hfits hs
    exact at_end rfl rfl h.fits.free (Or.inr ⟨hc, hst⟩)
  | rest hs hc hst => exact rested hc hst (hbusy (by rw [hs]; nofun)) _
  | take hs hc hw hn => exact at_stage ((Fits.iff_of_stopping hw).2 ⟨rfl, rfl⟩) (hbusy (by rw [hs]; nofun))
  | halt hl hs hn hw hn' =>
    exact at_stage ((Fits.iff_of_stopping hw).2 ((Fits.iff_of_stopping hs).1 h.fits))
      (hbusy fun hf => by rw [hf] at hs; cases hs)
  | stopped hs hn =>
    obtain ⟨hc, -⟩ := (Fits.iff_of_stopping hs).1 h.fits
    exact rested (h := { s.helm with status := s.status.set .idle }) hc rfl
      (hbusy fun hf => by rw [hf] at hs; cases hs) _

end Steady

/-- What the state says holds along every run. -/
theorem Run.steady {options : WorkerOptions} {process : Nat} {es : List Entry} {s : Supervisor}
    (h : Run options process es s) : Steady s.helm := by
  induction h with
  | fresh => exact ⟨⟨fun _ => rfl, fun hne => absurd rfl hne⟩, fun _ => rfl, nofun⟩
  | move now label _ hstep ih => exact ih.turn (turn_of_step hstep)

/-! ### Calls that find nothing that is up -/

/-- Nothing is owned, and nothing is under way. -/
def Calm (h : Helm) : Prop := h.current = none ∧ (h.status.value = .idle ∨ h.status.value.hasFailed = true)

private theorem Calm.isLive_eq_false {h : Helm} (hc : Calm h) : h.status.value.isLive = false := by
  obtain ⟨-, hst | hst⟩ := hc
  · rw [hst]
    rfl
  · obtain ⟨reason, hst⟩ := Status.hasFailed_iff.1 hst
    rw [hst]
    rfl

/-- Where nothing is up, nobody but a call changes anything. -/
theorem Calm.task {s : Supervisor} {status : Watched Status} (hc : Calm s.helm)
    (hst : status = s.status ∨ s.status.value.isLive = true ∧ ∃ reason, status = s.status.set (.failed reason)) :
    status = s.status := by
  obtain hst | ⟨hlive, -⟩ := hst
  · exact hst
  · rw [show s.status.value.isLive = false from hc.isLive_eq_false] at hlive
    cases hlive

/-- A start that goes on from a supervisor that is calm; if it is refused, it leaves it so. -/
def Resumes (h : Helm) : Prop :=
  (∀ launch, h.stage = .checking launch → Calm h) ∧
    ∀ fault, h.outcome = some (.refused fault) → fault ≠ .alreadyRunning ∧ Calm h

private theorem Stage.ne_checking {stage : Stage} {worker : Nat} (hs : stage.stopping? = some worker)
    (launch : Launch) : stage ≠ .checking launch := by
  rintro rfl
  cases hs

namespace Resumes

private theorem elsewhere {h : Helm} (hs : ∀ launch, h.stage ≠ .checking launch)
    (ho : ∀ fault, h.outcome ≠ some (.refused fault)) : Resumes h :=
  ⟨fun launch hl => absurd hl (hs launch), fun fault hf => absurd hf (ho fault)⟩

private theorem busy {h : Helm} (hs : ∀ launch, h.stage ≠ .checking launch) (ho : h.outcome = none) : Resumes h :=
  elsewhere hs fun fault hf => by rw [ho] at hf; cases hf

private theorem refused {h : Helm} {fault : StartFault} (hs : h.stage = .free) (ho : h.outcome = some (.refused fault))
    (hne : fault ≠ .alreadyRunning) (hc : Calm h) : Resumes h := by
  refine ⟨fun launch hl => ?_, fun fault' hf => ?_⟩
  · rw [hs] at hl
    cases hl
  · rw [ho] at hf
    cases hf
    exact ⟨hne, hc⟩

private theorem rested {h : Helm} (hc : h.current = none) (hst : h.status.value = .idle) (ho : h.outcome = none)
    (next : Option Launch) : Resumes (h.rested next) := by
  cases next with
  | none => exact elsewhere nofun nofun
  | some launch =>
    refine ⟨fun _ _ => ⟨hc, Or.inl hst⟩, fun fault hf => ?_⟩
    have hnone : (h.rested (some launch)).outcome = none := ho
    rw [hnone] at hf
    cases hf

theorem turn {s : Supervisor} {label : Label} {helm : Helm} (h : Resumes s.helm) (hs : Steady s.helm)
    (ht : Turn s label helm) (hl : ∀ call, label ≠ .begin call) : Resumes helm := by
  have hbusy (hne : s.stage ≠ .free) : s.outcome = none := hs.busy hne
  have hfits {stage : Stage} (hst : s.stage = stage) : Fits s.status.value s.current stage := hst ▸ hs.fits
  cases ht with
  | task _ hst =>
    refine ⟨fun launch hc => ?_, fun fault hf => ?_⟩
    · have hcalm := h.1 launch hc
      rwa [hcalm.task hst]
    · obtain ⟨hne, hcalm⟩ := h.2 fault hf
      rw [hcalm.task hst]
      exact ⟨hne, hcalm⟩
  | begin _ => exact absurd rfl (hl _)
  | abandon _ => exact busy nofun rfl
  | misconfigured hst message => exact refused rfl rfl nofun (h.1 _ hst)
  | alreadyRunning hst hlive =>
    rw [show s.status.value.isLive = false from (h.1 _ hst).isLive_eq_false] at hlive
    cases hlive
  | clear hst _ _ => exact busy nofun (hbusy (by rw [hst]; nofun))
  | ready hst _ _ => exact busy nofun (hbusy (by rw [hst]; nofun))
  | cleared hst => exact busy nofun (hbusy (by rw [hst]; nofun))
  | unspawned hst reason command cause => exact refused rfl rfl nofun ⟨(hfits hst).1, Or.inr rfl⟩
  | adopt hst => exact busy nofun (hbusy (by rw [hst]; nofun))
  | answered hst _ => exact busy nofun (hbusy (by rw [hst]; nofun))
  | welcome _ _ _ => exact elsewhere nofun nofun
  | part hg _ _ => exact busy nofun (hbusy fun hf => by rw [hf] at hg; cases hg)
  | discarded hst =>
    obtain ⟨hc, hfailed, reason, rfl⟩ := hfits hst
    exact refused rfl rfl nofun ⟨hc, Or.inr hfailed⟩
  | rest hst hc hidle => exact rested hc hidle (hbusy (by rw [hst]; nofun)) _
  | take hst _ hw _ => exact busy (Stage.ne_checking hw) (hbusy (by rw [hst]; nofun))
  | halt _ hst _ hw _ =>
    exact busy (Stage.ne_checking hw) (hbusy fun hf => by rw [hf] at hst; cases hst)
  | stopped hst _ =>
    obtain ⟨hc, -⟩ := (Fits.iff_of_stopping hst).1 hs.fits
    exact rested (h := { s.helm with status := s.status.set .idle }) hc rfl
      (hbusy fun hf => by rw [hf] at hst; cases hst) _

end Resumes

/-- A call that finds a calm supervisor is not told that a worker is running, nor is a restart. -/
theorem Run.resumes {options : WorkerOptions} {process : Nat} {es : List Entry} {s : Supervisor}
    (h : Run options process es s) :
    ∀ asked call, lastCall? es = some (asked, call) → (Calm asked.helm ∨ ∃ launch, call = .restart launch) →
      Resumes s.helm := by
  induction h with
  | fresh =>
    intro asked call hlast
    cases hlast
  | @move es s s' now label hrun hstep ih =>
    have ht := turn_of_step hstep
    intro asked call hlast hcalm
    rw [lastCall?_cons] at hlast
    by_cases hbegin : ∃ call, label = .begin call
    · obtain ⟨call', rfl⟩ := hbegin
      cases hlast
      rw [ht.of_begin]
      refine ⟨fun launch hs => ?_, nofun⟩
      cases call with
      | start launch' => exact hcalm.resolve_right nofun
      | stop => cases hs
      | restart launch' => cases hs
    · rw [Entry.call?_eq_none hbegin, Option.none_or] at hlast
      exact (ih asked call hlast hcalm).turn hrun.steady ht fun call he => hbegin ⟨call, he⟩

/-- After a stop a supervisor is calm. -/
theorem Run.calm_of_stopped {options : WorkerOptions} {process : Nat} {es : List Entry} {s : Supervisor}
    (h : Run options process es s) {asked : Supervisor} {call : Call} (hlast : lastCall? es = some (asked, call))
    (hs : asked.outcome = some .stopped) : Calm asked.helm := by
  obtain ⟨e, he, hcall⟩ := List.exists_of_findSome?_eq_some hlast
  obtain ⟨earlier, hrun, -⟩ := h.before he
  have hbefore : e.before = asked := by
    unfold Entry.call? at hcall
    split at hcall
    · cases hcall
      rfl
    · cases hcall
  obtain ⟨hc, hst⟩ := hrun.steady.told .stopped (by rw [hbefore]; exact hs)
  rw [← hbefore]
  exact ⟨hc, Or.inl hst⟩

/-! ### Starts that are refused before they have done anything -/

/-- Whether a start has not done anything yet at a stage. -/
def Stage.isEarly : Stage → Bool
  | .checking _ => true
  | stage => stage.next?.isSome

/-- A step that leaves the state and the owned worker alone. -/
def Entry.LeavesAlone (e : Entry) : Prop := e.after.status = e.before.status ∧ e.after.current = e.before.current

/-- A start that is refused early has changed nothing; `since` is what has happened since the call was begun. -/
structure Untouched (since : List Entry) (h : Helm) : Prop where
  early : h.stage.isEarly = true → ∀ e ∈ since, e.label.isOwn = true → e.before.stage.isStart = false
  refused : ∀ fault, h.outcome = some (.refused fault) → fault.isEarly = true →
    ∀ e ∈ since, e.label.isOwn = true → e.before.stage.isStart = true → e.LeavesAlone

namespace Untouched

variable {since : List Entry} {h : Helm}

private theorem later (hs : h.stage.isEarly = false)
    (ho : ∀ fault, h.outcome = some (.refused fault) → fault.isEarly = false) : Untouched since h := by
  refine ⟨fun he => ?_, fun fault hf he => ?_⟩
  · rw [hs] at he
    cases he
  · rw [ho fault hf] at he
    cases he

private theorem busy (hs : h.stage.isEarly = false) (ho : h.outcome = none) : Untouched since h :=
  later hs fun fault hf => by rw [ho] at hf; cases hf

private theorem stop {s : Supervisor} {e : Entry} (hu : Untouched since s.helm) (he : e.before = s)
    (hs : s.stage.isEarly = true) (hstart : s.stage.isStart = false)
    (ho : ∀ fault, h.outcome ≠ some (.refused fault)) : Untouched (e :: since) h := by
  refine ⟨fun _ e' he' hown => ?_, fun fault hf => absurd hf (ho fault)⟩
  rcases List.mem_cons.1 he' with rfl | he'
  · rw [he, hstart]
  · exact hu.early hs e' he' hown

private theorem check {s : Supervisor} {e : Entry} {launch : Launch} (hu : Untouched since s.helm)
    (hs : s.stage = .checking launch) (he : e.LeavesAlone) (hfree : h.stage = .free) : Untouched (e :: since) h := by
  refine ⟨fun hearly => ?_, fun fault hf hearly e' he' hown hstart => ?_⟩
  · rw [hfree] at hearly
    cases hearly
  · rcases List.mem_cons.1 he' with rfl | he'
    · exact he
    · have hnot := hu.early (by rw [show s.helm.stage = _ from hs]; rfl) e' he' hown
      rw [hnot] at hstart
      cases hstart

private theorem task {e : Entry} {status : Watched Status} (hu : Untouched since h) (hl : e.label.isOwn = false) :
    Untouched (e :: since) { h with status } := by
  refine ⟨fun he e' he' hown => ?_, fun fault hf he e' he' hown => ?_⟩
  · rcases List.mem_cons.1 he' with rfl | he'
    · rw [hl] at hown
      cases hown
    · exact hu.early he e' he' hown
  · rcases List.mem_cons.1 he' with rfl | he'
    · rw [hl] at hown
      cases hown
    · exact hu.refused fault hf he e' he' hown

theorem turn {s s' : Supervisor} {now : Nat} {label : Label} (hu : Untouched since s.helm) (hs : Steady s.helm)
    (ht : Turn s label s'.helm) (hl : ∀ call, label ≠ .begin call) :
    Untouched (⟨s, now, label, s'⟩ :: since) s'.helm := by
  have hbusy (hne : s.stage ≠ .free) : s.outcome = none := hs.busy hne
  have hfits {stage : Stage} (hst : s.stage = stage) : Fits s.status.value s.current stage := hst ▸ hs.fits
  -- a call that is under way has no outcome yet
  have hnone (hne : s.stage ≠ .free) : ∀ fault, s.outcome ≠ some (.refused fault) := by
    intro fault hf
    rw [hbusy hne] at hf
    cases hf
  have hstopping {worker : Nat} (hw : s.stage.stopping? = some worker) : s.stage ≠ .free := by
    intro hf
    rw [hf] at hw
    cases hw
  have hearly {next : Option Launch} (hn : s.stage.next? = some next) : s.stage.isEarly = true := by
    unfold Stage.isEarly
    split
    · rfl
    · rw [hn]
      rfl
  have hrested {h : Helm} (next : Option Launch) (ho : h.outcome = none) :
      ∀ fault, (h.rested next).outcome ≠ some (.refused fault) := by
    intro fault hf
    cases next with
    | none => cases hf
    | some launch =>
      rw [show (h.rested (some launch)).outcome = none from ho] at hf
      cases hf
  generalize hhelm : s'.helm = helm at ht
  have hstatus : s'.status = helm.status := congrArg Helm.status hhelm
  have hcurrent : s'.current = helm.current := congrArg Helm.current hhelm
  cases ht with
  | task hown _ => exact hu.task hown
  | begin _ => exact absurd rfl (hl _)
  | abandon _ => exact busy rfl rfl
  | misconfigured hst message => exact hu.check hst ⟨hstatus, hcurrent⟩ rfl
  | alreadyRunning hst _ => exact hu.check hst ⟨hstatus, hcurrent⟩ rfl
  | clear hst _ _ => exact busy rfl (hbusy (by rw [hst]; nofun))
  | ready hst _ _ => exact busy rfl (hbusy (by rw [hst]; nofun))
  | cleared hst => exact busy rfl (hbusy (by rw [hst]; nofun))
  | unspawned _ _ _ _ =>
    refine later rfl fun fault hf => ?_
    cases hf
    rfl
  | adopt hst => exact busy rfl (hbusy (by rw [hst]; nofun))
  | answered hst _ => exact busy rfl (hbusy (by rw [hst]; nofun))
  | welcome _ _ _ => exact later rfl nofun
  | part hg _ _ => exact busy rfl (hbusy fun hf => by rw [hf] at hg; cases hg)
  | discarded hst =>
    obtain ⟨-, -, reason, rfl⟩ := hfits hst
    refine later rfl fun fault hf => ?_
    cases hf
    rfl
  | rest hst _ _ =>
    have hne : s.stage ≠ .free := by rw [hst]; nofun
    exact hu.stop rfl (by rw [hst]; rfl) (by rw [hst]; rfl) (hrested _ (hbusy hne))
  | take hst _ _ _ =>
    have hne : s.stage ≠ .free := by rw [hst]; nofun
    exact hu.stop rfl (by rw [hst]; rfl) (by rw [hst]; rfl) (hnone hne)
  | halt _ hst hn _ _ => exact hu.stop rfl (hearly hn) (Stage.isStart_of_next? hn) (hnone (hstopping hst))
  | stopped hst hn =>
    exact hu.stop rfl (hearly hn) (Stage.isStart_of_next? hn) (hrested _ (hbusy (hstopping hst)))

end Untouched

/-- A start that is refused early has changed nothing, along every run. -/
theorem Run.untouched {options : WorkerOptions} {process : Nat} {es : List Entry} {s : Supervisor}
    (h : Run options process es s) : Untouched (sinceCall es) s.helm := by
  induction h with
  | fresh => exact ⟨fun _ e he => absurd he List.not_mem_nil, fun _ _ _ e he => absurd he List.not_mem_nil⟩
  | @move es s s' now label hrun hstep ih =>
    have ht := turn_of_step hstep
    by_cases hbegin : ∃ call, label = .begin call
    · obtain ⟨call, rfl⟩ := hbegin
      exact ⟨fun _ e he => absurd he List.not_mem_nil, fun _ _ _ e he => absurd he List.not_mem_nil⟩
    · rw [sinceCall_cons hbegin]
      exact ih.turn hrun.steady ht fun call he => hbegin ⟨call, he⟩

/-- All that a start does, it does at the stages of a start. -/
theorem Run.isStart_of_start {options : WorkerOptions} {process : Nat} {es : List Entry} {s : Supervisor}
    (h : Run options process es s) {asked : Supervisor} {launch : Launch}
    (hlast : lastCall? es = some (asked, .start launch)) :
    ∀ e ∈ sinceCall es, e.label.isOwn = true → e.before.stage.isStart = true := by
  induction h with
  | fresh => exact fun e he => absurd he List.not_mem_nil
  | @move es s s' now label hrun hstep ih =>
    have ht := turn_of_step hstep
    rw [lastCall?_cons] at hlast
    by_cases hbegin : ∃ call, label = .begin call
    · obtain ⟨call, rfl⟩ := hbegin
      exact fun e he => absurd he List.not_mem_nil
    · rw [Entry.call?_eq_none hbegin, Option.none_or] at hlast
      rw [sinceCall_cons hbegin]
      intro e he hown
      rcases List.mem_cons.1 he with rfl | he
      · have hserves := hrun.serves.2 asked _ hlast
        exact ht.isStart hserves hown fun call hl => hbegin ⟨call, hl⟩
      · exact ih hlast e he hown

/-! ### The greeting -/

/-- A worker has been greeted, and the greeting stands somewhere. -/
def Asked (s : Supervisor) (worker : Nat) (stage : Attendant.Stage) : Prop :=
  ∃ launch, s.workers[worker]?.map (·.launch) = some launch ∧
    s.callerOf? worker 0 = some ⟨s.greeting launch, stage⟩

/-- A worker has answered its greeting, and not by an error. -/
def Answered (s : Supervisor) (worker : Nat) : Prop := ∃ v, Asked s worker (.done (.ok v))

/-- A worker has answered its greeting, and has been told so. -/
def Greeted (s : Supervisor) (worker : Nat) : Prop :=
  Answered s worker ∧ ∃ key v,
    s.callerOf? worker key = some ⟨.tell false "initialized" (some (.table [])), .done (.ok v)⟩

section

variable {s s' : Supervisor} {worker : Nat}

theorem Asked.lasts {stage : Attendant.Stage} (h : Asked s worker stage) (hl : Lasts s s') :
    ∃ stage', Asked s' worker stage' := by
  obtain ⟨launch, hlaunch, hcaller⟩ := h
  obtain ⟨stage', hcaller'⟩ := hl.job_stays hcaller
  refine ⟨stage', launch, hl.launch_stays hlaunch, ?_⟩
  rw [hcaller', hl.greeting_eq]

theorem Answered.lasts (h : Answered s worker) (hl : Lasts s s') : Answered s' worker := by
  obtain ⟨v, launch, hlaunch, hcaller⟩ := h
  refine ⟨v, launch, hl.launch_stays hlaunch, ?_⟩
  rw [hl.done_stays hcaller, hl.greeting_eq]

theorem Greeted.lasts (h : Greeted s worker) (hl : Lasts s s') : Greeted s' worker := by
  obtain ⟨hanswered, key, v, hcaller⟩ := h
  exact ⟨hanswered.lasts hl, key, v, hl.done_stays hcaller⟩

/-- Whoever has an answer has it as its outcome. -/
theorem Asked.answered {stage : Attendant.Stage} {v : Value} (h : Asked s worker stage)
    (ho : s.outcomeOf? worker 0 = some (.ok v)) : Answered s worker := by
  obtain ⟨launch, hlaunch, hcaller⟩ := h
  obtain ⟨job, hdone⟩ := outcomeOf?_eq_some.1 ho
  rw [hcaller] at hdone
  cases hdone
  exact ⟨v, launch, hlaunch, hcaller⟩

end

/-- How far the greeting has come at a stage of a start, and that a start that succeeds has greeted its worker. -/
structure Hailed (s : Supervisor) : Prop where
  asked : ∀ worker key, s.stage = .greeting worker key → key = 0 ∧ ∃ stage, Asked s worker stage
  told : ∀ worker key, s.stage = .confirming worker key → Answered s worker ∧
    ∃ stage, s.callerOf? worker key = some ⟨.tell false "initialized" (some (.table [])), stage⟩
  greeted : ∀ worker, s.outcome = some (.started worker) → Greeted s worker

namespace Hailed

variable {s s' : Supervisor}

private theorem elsewhere (hs : s.stage.greeting? = none) (ho : ∀ worker, s.outcome ≠ some (.started worker)) :
    Hailed s := by
  refine ⟨fun worker key hg => ?_, fun worker key hg => ?_, fun worker hw => absurd hw (ho worker)⟩
  · rw [hg] at hs
    cases hs
  · rw [hg] at hs
    cases hs

private theorem lasts (h : Hailed s) (hl : Lasts s s') (hs : s'.stage = s.stage) (ho : s'.outcome = s.outcome) :
    Hailed s' := by
  refine ⟨fun worker key hg => ?_, fun worker key hg => ?_, fun worker hw => ?_⟩
  · rw [hs] at hg
    obtain ⟨hkey, stage, hasked⟩ := h.asked worker key hg
    exact ⟨hkey, hasked.lasts hl⟩
  · rw [hs] at hg
    obtain ⟨hanswered, stage, hcaller⟩ := h.told worker key hg
    exact ⟨hanswered.lasts hl, hl.job_stays hcaller⟩
  · rw [ho] at hw
    exact (h.greeted worker hw).lasts hl

private theorem greeting?_of_stopping {stage : Stage} {worker : Nat} (hs : stage.stopping? = some worker) :
    stage.greeting? = none := by
  cases stage with
  | asking _ _ _ | leaving _ _ _ | closing _ _ _ | ending _ _ _ => rfl
  | _ => cases hs

theorem step (h : Hailed s) (hsteady : Steady s.helm) {now : Nat} {label : Label}
    (hstep : s.step now label = some s') : Hailed s' := by
  have hbusy (hne : s.stage ≠ .free) : s.outcome = none := hsteady.busy hne
  have hlasts := lasts_of_step hstep
  have ht := turn_of_step hstep
  generalize hhelm : s'.helm = helm at ht
  have hstage : s'.stage = helm.stage := congrArg Helm.stage hhelm
  have houtcome : s'.outcome = helm.outcome := congrArg Helm.outcome hhelm
  -- at most turns no worker is being greeted, and none has been
  have hother (hs : helm.stage.greeting? = none) (ho : ∀ worker, helm.outcome ≠ some (.started worker)) :
      Hailed s' := elsewhere (hstage ▸ hs) (houtcome ▸ ho)
  have hquiet (hs : helm.stage.greeting? = none) (ho : helm.outcome = none) : Hailed s' := by
    refine hother hs fun worker hw => ?_
    rw [ho] at hw
    cases hw
  have hrested {h : Helm} {next : Option Launch} (heq : helm = h.rested next) (ho : h.outcome = none) :
      Hailed s' := by
    subst heq
    cases next with
    | none => exact hother rfl nofun
    | some launch => exact hquiet rfl ho
  cases ht with
  | task _ _ => exact h.lasts hlasts hstage houtcome
  | @begin call _ => exact hquiet (by cases call <;> rfl) rfl
  | abandon _ => exact hquiet rfl rfl
  | misconfigured _ _ | alreadyRunning _ _ | unspawned _ _ _ _ | discarded _ => exact hother rfl nofun
  | clear hs _ _ | ready hs _ _ | cleared hs => exact hquiet rfl (hbusy (by rw [hs]; nofun))
  | part hg _ _ => exact hquiet rfl (hbusy fun hf => by rw [hf] at hg; cases hg)
  | rest hs _ _ => exact hrested rfl (hbusy (by rw [hs]; nofun))
  | stopped hs _ => exact hrested rfl (hbusy fun hf => by rw [hf] at hs; cases hs)
  | take hs _ hw _ => exact hquiet (greeting?_of_stopping hw) (hbusy (by rw [hs]; nofun))
  | halt _ hs _ hw _ => exact hquiet (greeting?_of_stopping hw) (hbusy fun hf => by rw [hf] at hs; cases hs)
  | @adopt launch hs =>
    have hout : s'.outcome = none := houtcome.trans (hbusy (by rw [hs]; nofun))
    simp only [Supervisor.step, hs, Option.some.injEq] at hstep
    subst hstep
    refine ⟨fun worker key hg => ?_, fun worker key hg => ?_, fun worker hw => ?_⟩
    · rw [hstage] at hg
      cases hg
      obtain ⟨hlaunch, hcaller⟩ := adopt_greets s launch
      refine ⟨rfl, .gate, launch, hlaunch, ?_⟩
      rw [hcaller, hlasts.greeting_eq]
    · rw [hstage] at hg
      cases hg
    · rw [hout] at hw
      cases hw
  | @answered worker key next v hs ho =>
    have hout : s'.outcome = none := houtcome.trans (hbusy fun hf => by rw [hf] at hs; cases hs)
    obtain ⟨rfl, stage, hasked⟩ := h.asked worker key hs
    refine ⟨fun worker' key' hg => ?_, fun worker' key' hg => ?_, fun worker' hw => ?_⟩
    · rw [hstage] at hg
      cases hg
    · rw [hstage] at hg
      cases hg
      obtain ⟨key, hkey, hcaller⟩ := caller_of_answered hstep hs ho
      rw [hstage] at hkey
      cases hkey
      exact ⟨(hasked.answered ho).lasts hlasts, .gate, hcaller⟩
    · rw [hout] at hw
      cases hw
  | @welcome worker key v hs ho _ =>
    refine ⟨fun worker' key' hg => ?_, fun worker' key' hg => ?_, fun worker' hw => ?_⟩
    · rw [hstage] at hg
      cases hg
    · rw [hstage] at hg
      cases hg
    · rw [houtcome] at hw
      cases hw
      obtain ⟨hanswered, stage, hcaller⟩ := h.told worker key hs
      obtain ⟨job, hdone⟩ := outcomeOf?_eq_some.1 ho
      rw [hcaller] at hdone
      cases hdone
      exact ⟨hanswered.lasts hlasts, key, v, hlasts.done_stays hcaller⟩

end Hailed

/-- How far the greeting has come is known along every run. -/
theorem Run.hailed {options : WorkerOptions} {process : Nat} {es : List Entry} {s : Supervisor}
    (h : Run options process es s) : Hailed s := by
  induction h with
  | fresh => exact Hailed.elsewhere rfl nofun
  | move now label hrun hstep ih => exact ih.step hrun.steady hstep

/-! ### What a caller of the supervisor can rely on -/

/-- Whoever says that a worker is running has just greeted it. -/
theorem running_of_turn {s : Supervisor} {label : Label} {helm : Helm} (h : Turn s label helm)
    (hne : helm.status ≠ s.status) (hr : helm.status.value = .running) :
    s.status.value = .starting ∧ ∃ worker, helm.outcome = some (.started worker) := by
  cases h with
  | task _ hst =>
    obtain rfl | ⟨-, reason, rfl⟩ := hst
    · exact absurd rfl hne
    · cases hr
  | welcome _ _ hst => exact ⟨hst, _, rfl⟩
  | part _ reason hst =>
    obtain rfl | ⟨rfl, -⟩ := hst
    · cases hr
    · exact absurd rfl hne
  | @rest next status _ _ hst =>
    have hidle : (Helm.rested { s.helm with status } next).status.value = .idle := by cases next <;> exact hst
    rw [hidle] at hr
    cases hr
  | @stopped worker next _ _ =>
    cases next <;> cases hr
  | unspawned _ _ _ _ | adopt _ | take _ _ _ _ => cases hr
  | _ => exact absurd rfl hne

/-- Whatever is asked of a supervisor and wherever calls are given up: between two calls a worker is owned only if it is
on its way up, running or failed, and without one nothing is up. That a worker is running is said only of one that was
starting, by a start that ends with it, once the worker has answered its greeting. A start that is refused for its
description, or because a worker is up, has changed nothing; one that has no process, or whose greeting has failed,
leaves a failed state and no worker; a stop leaves an idle state and no worker, so that the start after it, or after
the stop of a restart, is not told that a worker is up. -/
theorem Run.governed {options : WorkerOptions} {process : Nat} {es : List Entry} {s : Supervisor}
    (h : Run options process es s) :
    (s.stage = .free →
      (∀ worker, s.current = some worker → s.status.value = .starting ∨ s.status.value = .running ∨
        ∃ reason, s.status.value = .failed reason) ∧
      (s.current = none → s.status.value ≠ .starting ∧ s.status.value ≠ .running)) ∧
    (∀ e ∈ es, e.after.status ≠ e.before.status → e.after.status.value = .running →
      e.before.status.value = .starting ∧ ∃ worker, e.after.outcome = some (.started worker) ∧
        e.after.current = some worker ∧ Greeted e.after worker) ∧
    (∀ fault, s.outcome = some (.refused fault) →
      match fault with
      | .configuration _ | .alreadyRunning =>
        ∀ e ∈ sinceCall es, e.label.isOwn = true → e.before.stage.isStart = true → e.LeavesAlone
      | .spawn _ _ | .handshake _ => s.current = none ∧ ∃ reason, s.status.value = .failed reason) ∧
    (s.outcome = some .stopped → s.current = none ∧ s.status.value = .idle) ∧
    ∀ asked call, lastCall? es = some (asked, call) →
      match call with
      | .start _ =>
        (∀ e ∈ sinceCall es, e.label.isOwn = true → e.before.stage.isStart = true) ∧ s.outcome ≠ some .stopped ∧
          (asked.outcome = some .stopped → s.outcome ≠ some (.refused .alreadyRunning))
      | .restart _ => s.outcome ≠ some .stopped ∧ s.outcome ≠ some (.refused .alreadyRunning)
      | .stop => ∀ outcome, s.outcome = some outcome → outcome = .stopped := by
  have hsteady := h.steady
  refine ⟨fun hfree => ?_, fun e he hne hr => ?_, fun fault hf => ?_, fun hs => hsteady.told _ hs,
    fun asked call hlast => ?_⟩
  · have hfits : Fits s.status.value s.current .free := by
      rw [← hfree]
      exact hsteady.fits
    refine ⟨fun worker hc => ?_, fun hc => ?_⟩
    · obtain hlive | hfailed := hfits.2 (by rw [hc]; nofun)
      · exact (Status.isLive_iff.1 hlive).imp_right Or.inl
      · exact Or.inr (Or.inr (Status.hasFailed_iff.1 hfailed))
    · have hdown := hfits.1 hc
      constructor <;> intro hst <;> rw [hst] at hdown <;> cases hdown
  · obtain ⟨earlier, hrun, hstep⟩ := h.before he
    obtain ⟨hst, worker, ho⟩ := running_of_turn (turn_of_step hstep) hne hr
    have hafter := hrun.move _ _ hstep
    exact ⟨hst, worker, ho, (hafter.steady.told _ ho).1, hafter.hailed.greeted worker ho⟩
  · have huntouched := h.untouched.refused fault hf
    have hleaves := hsteady.told _ hf
    cases fault with
    | configuration reason => exact huntouched rfl
    | alreadyRunning => exact huntouched rfl
    | spawn command cause =>
      obtain ⟨hc, hst⟩ := hleaves.resolve_left nofun
      exact ⟨hc, Status.hasFailed_iff.1 hst⟩
    | handshake reason =>
      obtain ⟨hc, hst⟩ := hleaves.resolve_left nofun
      exact ⟨hc, Status.hasFailed_iff.1 hst⟩
  · have hserves := h.serves.2 asked call hlast
    have hresumes := h.resumes asked call hlast
    cases call with
    | start launch =>
      refine ⟨h.isStart_of_start hlast, fun hs => absurd (hserves.stopped hs) nofun, fun hstopped hf => ?_⟩
      obtain ⟨hne, -⟩ := (hresumes (Or.inl (h.calm_of_stopped hlast hstopped))).2 _ hf
      exact hne rfl
    | restart launch =>
      refine ⟨fun hs => absurd (hserves.stopped hs) nofun, fun hf => ?_⟩
      obtain ⟨hne, -⟩ := (hresumes (Or.inr ⟨launch, rfl⟩)).2 _ hf
      exact hne rfl
    | stop =>
      intro outcome ho
      by_cases hs : outcome = .stopped
      · exact hs
      · exact absurd rfl (hserves.other outcome ho hs)

/-- A worker is started, the first one or the next, and runs. -/
def welcoming (worker : Nat) : List Label :=
  .begin (.start someLaunch) :: .proceed :: .spawned .started :: List.replicate 5 (.channel worker (.caller 0)) ++
    [.act worker (.writes Channel.sevenFrame), .channel worker .reader, .channel worker .reader,
      .channel worker (.caller 0), .proceed, .channel worker (.caller 1), .channel worker (.caller 1), .proceed]

/-- A worker is started and runs; its stream ends, it is stopped, and the next start goes on. -/
theorem governed_start_after_stop : ∃ es s asked, Run someOptions 1 es s ∧
    lastCall? es = some (asked, .start someLaunch) ∧ asked.outcome = some .stopped ∧
    asked.current = none ∧ asked.status.value = .idle ∧ s.stage = .spawning someLaunch ∧
    s.outcome ≠ some (.refused .alreadyRunning) ∧
    ∃ e ∈ es, e.after.status.value = .running ∧ e.before.status.value = .starting ∧ Greeted e.after 0 := by
  have idle : Run someOptions 1 [] _ := Run.fresh
  have running := idle.play (welcoming 0) rfl
  have failed := running.play [.act 0 .closesOutput, .channel 0 .reader, .channel 0 .reader] rfl
  have closed := failed.play [.begin .stop, .proceed, .channel 0 (.caller 2), .channel 0 (.caller 2), .proceed] rfl
  have stopped := closed.play [.exited 0 (.code 0), .proceed, .proceed] rfl
  have again := stopped.play [.begin (.start someLaunch), .proceed] rfl
  obtain ⟨-, -, -, hstopped, -⟩ := stopped.governed
  obtain ⟨hnone, hidle⟩ := hstopped rfl
  obtain ⟨-, hrunning, -, -, -⟩ := running.governed
  obtain ⟨hstarting, worker, hworker, -, hgreeted⟩ := hrunning _ List.mem_cons_self nofun rfl
  obtain ⟨-, -, -, -, hlast⟩ := again.governed
  obtain ⟨-, -, hnext⟩ := hlast _ _ rfl
  cases hworker
  exact ⟨_, _, _, again, rfl, rfl, hnone, hidle, rfl, hnext rfl, _, by simp, rfl, hstarting, hgreeted⟩

end Supervisor

end Attendant

import Attendant.Coordinator
import Attendant.Proofs.Script

/-!
# Runs of a coordinator

A run is any sequence of steps of a coordinator that has not done anything yet: of the coordinator itself, of its
supervisor, and of its tailer. Time may be anything at each step, and a call may be given up wherever it waits.

`Turn` lists all that a step can do, and `turn_of_step` is the one place where the definition of a step is taken apart.
-/

namespace Attendant.Coordinator

/-- A step that has been made. -/
abbrev Entry := Transition Coordinator Label

/-- A coordinator, and what has happened to it since it was fresh, latest first. -/
inductive Run (plan : Plan) (here : Path) (process : Nat) : List Entry → Coordinator → Prop where
  | fresh : Run plan here process [] (start plan here process)
  | move {es : List Entry} {c c' : Coordinator} (now : Nat) (label : Label) :
      Run plan here process es c → c.step now label = some c' → Run plan here process (⟨c, now, label, c'⟩ :: es) c'

/-- A run goes on by a script. -/
theorem Run.play {plan : Plan} {here : Path} {process : Nat} {base more : List Entry} {c c' : Coordinator}
    (h : Run plan here process base c) (labels : List Label) (hplay : Script.play step [] c labels = some (more, c')) :
    Run plan here process (more ++ base) c' :=
  Script.goes_on (fun _ _ label _ hrun hstep => hrun.move 0 label hstep)
    (show Run plan here process ([] ++ base) c from h) hplay

/-- The call that a step begins, and the coordinator that is asked. -/
def Entry.call? (e : Entry) : Option (Coordinator × Call) :=
  match e.label with
  | .begin call => some (e.before, call)
  | _ => none

/-- The last call: the coordinator that was asked, and for what. -/
def lastCall? (es : List Entry) : Option (Coordinator × Call) := es.findSome? Entry.call?

theorem lastCall?_cons (e : Entry) (es : List Entry) : lastCall? (e :: es) = e.call?.or (lastCall? es) := by
  unfold lastCall?
  rw [List.findSome?_cons]
  cases e.call? <;> rfl

theorem Entry.call?_eq_none {c c' : Coordinator} {now : Nat} {label : Label} (hl : ¬∃ call, label = .begin call) :
    Entry.call? ⟨c, now, label, c'⟩ = none := by
  cases label with
  | begin call => exact absurd ⟨call, rfl⟩ hl
  | _ => rfl

/-- The stage that a call begins at. -/
def Call.opening : Call → Stage
  | .activate => .opening
  | .deactivate => .closing .rest
  | .restart => .closing .activate
  | .shutdown => .closing .dispose

/-- All that a step can do. -/
inductive Turn (now : Nat) (c : Coordinator) : Label → Coordinator → Prop where
  | supervisor {label : Supervisor.Label} {s' : Supervisor} (hl : ∀ call, label ≠ .begin call) (ha : label ≠ .abandon)
      (hstep : c.supervisor.step now label = some s') : Turn now c (.supervisor label) { c with supervisor := s' }
  | attach {label : Log.Tailer.Label} {tailer : Log.Tailer} (hs : c.stage = .attaching tailer) (tailer' : Log.Tailer)
      (sink : Log.Sink) : Turn now c (.attach label) { c with stage := .attaching tailer', sink }
  | follow {label : Log.Tailer.Label} {tailer : Log.Tailer} (ht : c.tailer = some tailer) (tailer' : Log.Tailer)
      (sink : Log.Sink) : Turn now c (.follow label) { c with tailer := some tailer', sink }
  | begin {call : Call} (hs : c.stage = .free) :
      Turn now c (.begin call) { c with outcome := none, stage := call.opening }
  | leave {s' : Supervisor} (hs : c.stage = .starting ∨ ∃ next, c.stage = .stopping next)
      (hstep : c.supervisor.step now .abandon = some s') :
      Turn now c .abandon { c with supervisor := s', stage := .free, outcome := none }
  | forget {worker key : Nat} {s' : Supervisor} (hs : c.stage = .locating worker key)
      (hstep : c.supervisor.step now (.leave worker key) = some s') :
      Turn now c .abandon { c with supervisor := s', stage := .free, outcome := none }
  | detach {tailer : Log.Tailer} (hs : c.stage = .attaching tailer) :
      Turn now c .abandon { c with stage := .free, outcome := none }
  | idle (hs : c.stage = .opening) (hp : c.phase = .active) : Turn now c .proceed (c.finish .done)
  | launch (hs : c.stage = .opening) (hp : c.phase = .stopped) :
      Turn now c .proceed ({ c with phase := .starting }.ask now (.start c.plan.launch) .starting)
  | clean (hs : c.stage = .opening) (hp : c.phase = .starting ∨ c.phase = .stopping) :
      Turn now c .proceed { c with stage := .closing .activate }
  | refused {fault : StartFault} (hs : c.stage = .starting) (ho : c.supervisor.outcome = some (.refused fault)) :
      Turn now c .proceed (({ c with phase := .stopped }.note (failedToStart c.name fault)).finish (.refused fault))
  | started {worker : Nat} (hs : c.stage = .starting) (ho : c.supervisor.outcome = some (.started worker)) (job : Job)
      (key : Nat) :
      Turn now c .proceed
        { c with supervisor := (c.supervisor.enter worker job).1, stage := .locating worker key }
  | locate {worker key : Nat} (hs : c.stage = .locating worker key) (path : Path) : Turn now c .proceed (c.locate path)
  | complete (hs : (∃ worker key, c.stage = .locating worker key) ∨ ∃ tailer, c.stage = .attaching tailer) :
      Turn now c .proceed c.complete
  | attached {tailer : Log.Tailer} (hs : c.stage = .attaching tailer) :
      Turn now c .proceed { c with dirty := true, tailer := some tailer }.complete
  | closed {next : Next} (hs : c.stage = .closing next) (hp : c.phase = .stopped) : Turn now c .proceed (c.closed next)
  | stop {next : Next} (hs : c.stage = .closing next) (hp : c.phase ≠ .stopped) :
      Turn now c .proceed ({ c with phase := .stopping, tailer := none }.ask now .stop (.stopping next))
  | stopped {next : Next} (hs : c.stage = .stopping next) (ho : c.supervisor.outcome = some .stopped) :
      Turn now c .proceed ({ c with phase := .stopped }.closed next)

private theorem turn_of_proceed {now : Nat} {c c' : Coordinator} (h : c.proceed now = some c') :
    Turn now c .proceed c' := by
  unfold Coordinator.proceed at h
  cases hs : c.stage with
  | free => simp [hs] at h
  | gone => simp [hs] at h
  | opening =>
    simp only [hs] at h
    split at h
    · rename_i hp
      cases h
      exact .idle hs hp
    · rename_i hp
      cases h
      exact .launch hs hp
    · rename_i hp
      cases h
      exact .clean hs (Or.inl hp)
    · rename_i hp
      cases h
      exact .clean hs (Or.inr hp)
  | starting =>
    simp only [hs] at h
    split at h
    · rename_i fault ho
      cases h
      exact .refused hs ho
    · rename_i worker ho
      cases h
      exact .started hs ho _ _
    · cases h
  | locating worker key =>
    simp only [hs] at h
    obtain ⟨outcome, -, rfl⟩ := Option.map_eq_some_iff.1 h
    split
    · exact .locate hs _
    · exact .complete (Or.inl ⟨worker, key, hs⟩)
  | attaching tailer =>
    simp only [hs] at h
    split at h
    · cases h
      exact .complete (Or.inr ⟨tailer, hs⟩)
    · split at h
      · cases h
        exact .attached hs
      · cases h
  | closing next =>
    simp only [hs] at h
    split at h
    · rename_i hp
      cases h
      exact .closed hs hp
    · rename_i hp
      cases h
      exact .stop hs hp
  | stopping next =>
    simp only [hs] at h
    split at h
    · rename_i ho
      cases h
      exact .stopped hs ho
    · cases h

private theorem turn_of_abandon {now : Nat} {c c' : Coordinator} (h : c.abandon now = some c') :
    Turn now c .abandon c' := by
  unfold Coordinator.abandon at h
  simp only at h
  split at h
  · rename_i hs
    obtain ⟨s', hstep, rfl⟩ := Option.map_eq_some_iff.1 h
    exact .leave (Or.inl hs) hstep
  · rename_i next hs
    obtain ⟨s', hstep, rfl⟩ := Option.map_eq_some_iff.1 h
    exact .leave (Or.inr ⟨next, hs⟩) hstep
  · rename_i worker key hs
    obtain ⟨s', hstep, rfl⟩ := Option.map_eq_some_iff.1 h
    exact .forget hs hstep
  · rename_i tailer hs
    cases h
    exact .detach hs
  · cases h

/-- Whatever a step does is one of the turns. -/
theorem turn_of_step {now : Nat} {label : Label} {c c' : Coordinator} (h : c.step now label = some c') :
    Turn now c label c' := by
  cases label with
  | proceed => exact turn_of_proceed h
  | abandon => exact turn_of_abandon h
  | begin call =>
    simp only [step] at h
    split at h
    · rename_i hs
      cases h
      cases call <;> exact .begin hs
    · cases h
  | supervisor label =>
    simp only [step] at h
    split at h
    · cases h
    · cases h
    · rename_i hbegin habandon
      obtain ⟨s', hstep, rfl⟩ := Option.map_eq_some_iff.1 h
      exact .supervisor hbegin habandon hstep
  | attach label =>
    simp only [step] at h
    split at h
    · rename_i tailer hs
      obtain ⟨⟨tailer', calls⟩, -, rfl⟩ := Option.map_eq_some_iff.1 h
      exact .attach hs tailer' _
    · cases h
  | follow label =>
    simp only [step, Option.bind_eq_bind, Option.bind_eq_some_iff, Option.pure_def, Option.some.injEq] at h
    obtain ⟨tailer, ht, ⟨tailer', calls⟩, -, rfl⟩ := h
    exact .follow ht tailer' _

/-- Between two calls a call may begin. -/
theorem step_begin {c : Coordinator} (hs : c.stage = .free) (now : Nat) (call : Call) :
    c.step now (.begin call) = some { c with outcome := none, stage := call.opening } := by
  simp only [step, hs]
  cases call <;> rfl

/-- Between two calls nobody moves but the supervisor and the tailer. -/
theorem Turn.of_free {now : Nat} {c c' : Coordinator} {label : Label} (h : Turn now c label c') (hs : c.stage = .free)
    (hl : ∀ call, label ≠ .begin call) : c'.stage = .free ∧ (c'.supervisor = c.supervisor ∨
      ∃ label : Supervisor.Label, (∀ call, label ≠ .begin call) ∧ c.supervisor.step now label = some c'.supervisor) := by
  cases h with
  | supervisor hbegin _ hstep => exact ⟨hs, Or.inr ⟨_, hbegin, hstep⟩⟩
  | follow _ _ _ => exact ⟨hs, Or.inl rfl⟩
  | begin _ => exact absurd rfl (hl _)
  | leave hs' _ =>
    obtain hs' | ⟨_, hs'⟩ := hs' <;> rw [hs] at hs' <;> cases hs'
  | complete hs' =>
    obtain ⟨_, _, hs'⟩ | ⟨_, hs'⟩ := hs' <;> rw [hs] at hs' <;> cases hs'
  | attach hs' _ _ | forget hs' _ | detach hs' | idle hs' _ | launch hs' _ | clean hs' _ | refused hs' _
  | started hs' _ _ _ | locate hs' _ | attached hs' | closed hs' _ | stop hs' _ | stopped hs' _ =>
    rw [hs] at hs'
    cases hs'

end Attendant.Coordinator

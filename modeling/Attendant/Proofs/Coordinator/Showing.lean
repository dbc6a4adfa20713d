import Attendant.Proofs.Coordinator.Phases
import Attendant.Proofs.Log.World
import Attendant.Proofs.Supervisor.Errands

/-!
# What a coordinator shows

The sink of a coordinator is written by two parties: by the coordinator, which clears and closes it, and by its tailer,
first while it attaches and then from a task of its own. The task goes on between any two steps of a call; and when the
tailer has been detached it is still there until it comes to its end. A `Scene` is a coordinator beside the tasks that
it has left behind. A call in progress holds up a detach (see `Log.Gated`), so each call is one step here.

The history of the calls of the coordinator opens and shuts a `Window`: it is opened by an activation, stays open when
the activation is done, and is shut by the detach of a deactivation, by a failure, or when the call is given up. It is
never shut on a tailer (`Allows.turn`), so the sink gets nothing but in an open window, and nothing at all after a
shutdown (`Scene.Run.windowed`).
-/

namespace Attendant

/-! ### What the sink gets from a tailer -/

namespace Log

private theorem Pass.not_dispose_mem {p q : Position} {pass next : Pass} {answer : FileAnswer} {calls : List SinkCall}
    (h : pass.step p answer = (q, next, calls)) : .dispose ∉ calls := by
  have habsorb (p : Position) (bytes : List UInt8) : .dispose ∉ (p.absorb bytes).2 := by
    unfold Position.absorb
    simp only
    split <;> simp
  have hend (p : Position) (stop : Nat) (got : List UInt8) : .dispose ∉ (endRequest p stop got).2.2 := habsorb p _
  have hcalls : calls = (pass.step p answer).2.2 := by rw [h]
  rw [hcalls]
  unfold Pass.step
  split
  · simp
  · simp
  · simp
  · split
    · simp
    · exact hend _ _ _
  · simp only
    split
    · exact hend _ _ _
    · simp
  · simp

namespace Tailer

variable {now : Nat} {label : Label} {t t' : Tailer} {calls : List SinkCall}

/-- No step attaches or detaches a tailer. -/
theorem attached_of_step (h : t.step now label = some (t', calls)) : t'.attached = t.attached := by
  cases label with
  | event => exact (step_watch (.inl rfl) h).2.2.2.1
  | tick => exact (step_watch (.inr rfl) h).2.2.2.1
  | proceed => exact (step_proceed h).1.2.2.1
  | system answer => exact (kept_of_system h).2

/-- What a step asks for comes from the log, and nothing of it gets through once the tailer has been detached. -/
theorem exists_gate_of_step (h : t.step now label = some (t', calls)) :
    ∃ more, .dispose ∉ more ∧ calls = t.gate more := by
  cases label with
  | event => exact ⟨[], by simp, by rw [gate_nil]; exact (step_watch (.inl rfl) h).2.2.2.2.2⟩
  | tick => exact ⟨[], by simp, by rw [gate_nil]; exact (step_watch (.inr rfl) h).2.2.2.2.2⟩
  | proceed => exact ⟨[], by simp, by rw [gate_nil]; exact (step_proceed h).1.2.2.2⟩
  | system answer =>
    rcases step_system h with ⟨-, rfl, -⟩ | ⟨_, _, -, -, rfl, -⟩ | ⟨_, -, -, rfl, -⟩ |
      ⟨file, p, pass, more, -, hcalls, ⟨size, -, -, hbegin⟩ | ⟨before, content, -, -, hpass⟩⟩
    · exact ⟨[], by simp, (gate_nil t).symm⟩
    · exact ⟨[], by simp, (gate_nil t).symm⟩
    · exact ⟨[], by simp, (gate_nil t).symm⟩
    · refine ⟨more, ?_, hcalls⟩
      have hmore : more = (t.position.begin size).2.2.2 := by rw [hbegin]
      rw [hmore]
      unfold Position.begin
      simp only
      split <;> simp
    · exact ⟨more, Pass.not_dispose_mem hpass, hcalls⟩

end Tailer

end Log

namespace Coordinator

/-! ### What the sink gets from a coordinator -/

/-- Whether an activation is under way at a stage, beyond the deactivation that may come first. -/
def Stage.isActivating : Stage → Bool
  | .opening | .starting | .locating _ _ | .attaching _ => true
  | _ => false

/-- Whether a shutdown has been completed. -/
def IsShutDown (c : Coordinator) : Prop := c.stage = .gone ∧ c.outcome = some .done

section

variable {now : Nat} {label : Label} {c c' : Coordinator}

/-- Once a coordinator is gone, nobody moves but its supervisor and a tailer that it still has. -/
theorem Turn.of_gone (ht : Turn now c label c') (hs : c.stage = .gone) (htailer : c.tailer = none) :
    c'.stage = .gone ∧ c'.outcome = c.outcome ∧ c'.tailer = none ∧ c'.sink = c.sink := by
  cases ht with
  | supervisor _ _ _ => exact ⟨hs, rfl, htailer, rfl⟩
  | follow hsome _ _ =>
    rw [htailer] at hsome
    cases hsome
  | leave hs' _ =>
    obtain hs' | ⟨_, hs'⟩ := hs' <;> rw [hs] at hs' <;> cases hs'
  | complete hs' =>
    obtain ⟨_, _, hs'⟩ | ⟨_, hs'⟩ := hs' <;> rw [hs] at hs' <;> cases hs'
  | begin hs' | attach hs' _ _ | forget hs' _ | detach hs' | idle hs' _ | launch hs' _ | clean hs' _ | refused hs' _
  | started hs' _ _ _ | locate hs' _ | attached hs' | closed hs' _ | stop hs' _ | stopped hs' _ =>
    rw [hs] at hs'
    cases hs'

/-- Whether the sink is closed by a step. -/
structure Closes (c c' : Coordinator) : Prop where
  stage : c.stage = .closing .dispose ∨ c.stage = .stopping .dispose
  shutDown : c'.IsShutDown
  sink : c'.sink = c.sink.record .dispose

private theorem closes_of_closed {next : Next} (hs : c.stage = .closing next ∨ c.stage = .stopping next)
    (hsink : c'.sink = c.sink) :
    (c'.closed next).stage ≠ .gone ∧ (c'.closed next).sink = c.sink ∨ Closes c (c'.closed next) := by
  cases next with
  | rest | activate => exact Or.inl ⟨fun hgone => (by cases hgone), hsink⟩
  | dispose => exact Or.inr ⟨hs, ⟨rfl, rfl⟩, congrArg (Log.Sink.record · .dispose) hsink⟩

/-- What a step does to the sink that is not a step of a tailer: it clears the sink before a tailer attaches, it closes
it at the end of a shutdown, or it leaves it alone. -/
theorem Turn.sink_cases (ht : Turn now c label c') (hs : c.stage ≠ .gone) (ha : ∀ label', label ≠ .attach label')
    (hf : ∀ label', label ≠ .follow label') :
    c'.stage ≠ .gone ∧ c'.sink = c.sink ∨
      (c.stage.isActivating = true ∧ c'.stage ≠ .gone ∧ c'.sink = c.sink.record .clear) ∨ Closes c c' := by
  cases ht with
  | attach _ _ _ => exact absurd rfl (ha _)
  | follow _ _ _ => exact absurd rfl (hf _)
  | supervisor _ _ _ => exact Or.inl ⟨hs, rfl⟩
  | @begin call _ => exact Or.inl ⟨fun hgone => (by cases call <;> cases hgone), rfl⟩
  | locate hs' path =>
    cases hd : c.dirty with
    | true =>
      refine Or.inr (Or.inl ⟨by rw [hs']; rfl, fun hgone => (by cases hgone), ?_⟩)
      simp [Coordinator.locate, hd]
    | false =>
      refine Or.inl ⟨fun hgone => (by cases hgone), ?_⟩
      simp [Coordinator.locate, hd]
  | closed hs' _ => exact (closes_of_closed (Or.inl hs') rfl).imp_right Or.inr
  | stopped hs' _ =>
    exact (@closes_of_closed c { c with phase := .stopped } _ (Or.inr hs') rfl).imp_right Or.inr
  | leave _ _ | forget _ _ | detach _ | idle _ _ | launch _ _ | clean _ _ | refused _ _ | started _ _ _ _
  | complete _ | attached _ | stop _ _ => exact Or.inl ⟨fun hgone => (by cases hgone), rfl⟩

/-- What a step of a tailer does to the sink. -/
theorem exists_calls_of_step (h : c.step now label = some c')
    (hl : (∃ label', label = .attach label') ∨ ∃ label', label = .follow label') :
    (c.stage.isActivating = true ∨ c.tailer ≠ none) ∧ (c'.stage = .gone ↔ c.stage = .gone) ∧
      ∃ calls, .dispose ∉ calls ∧ c'.sink = c.sink.recordAll calls := by
  have hgate {t : Log.Tailer} {more : List Log.SinkCall} (hmore : .dispose ∉ more) : .dispose ∉ t.gate more := by
    unfold Log.Tailer.gate
    split
    · exact hmore
    · simp
  obtain ⟨label', rfl⟩ | ⟨label', rfl⟩ := hl
  · simp only [step] at h
    split at h
    · rename_i t hs
      obtain ⟨⟨t', calls⟩, ht, rfl⟩ := Option.map_eq_some_iff.1 h
      obtain ⟨more, hmore, rfl⟩ := Log.Tailer.exists_gate_of_step ht
      exact ⟨Or.inl (by rw [hs]; rfl), by simp [hs], _, hgate hmore, rfl⟩
    · cases h
  · simp only [step, Option.bind_eq_bind, Option.bind_eq_some_iff, Option.pure_def, Option.some.injEq] at h
    obtain ⟨t, hsome, ⟨t', calls⟩, ht, rfl⟩ := h
    obtain ⟨more, hmore, rfl⟩ := Log.Tailer.exists_gate_of_step ht
    exact ⟨Or.inr (by simp [hsome]), Iff.rfl, _, hgate hmore, rfl⟩

end

/-! ### When the log may be shown -/

/-- What a history allows: nothing, to attach to the log, or to follow it. -/
inductive Window where
  | quiet
  | activating
  | showing
  deriving DecidableEq, Repr

/-- What a step changes about that. A call to activate lets the coordinator attach, and so does the end of the
deactivation that comes first; an activation that is done lets it follow; a deactivation ends this where it detaches,
and so do the failure and the end of an activation that is given up. -/
def window? (c : Coordinator) (label : Label) (c' : Coordinator) : Option Window :=
  match label with
  | .begin .activate => some .activating
  | .abandon => some .quiet
  | .proceed =>
    match c.stage, c'.stage with
    | .closing _, .opening | .stopping _, .opening => some .activating
    | .closing _, _ | .stopping _, _ => some .quiet
    | _, .free => some (if c'.outcome = some .done then .showing else .quiet)
    | _, _ => none
  | _ => none

/-- What a window says about a coordinator: it is open for an activation that is under way, and as long as there is a
tailer. Between two calls it is as open as the coordinator is active. -/
structure Allows (w : Window) (c : Coordinator) : Prop where
  activating : c.stage.isActivating = true → w = .activating
  showing : c.tailer ≠ none → w ≠ .quiet
  free : c.stage = .free → w = if c.phase = .active then .showing else .quiet

section

variable {now : Nat} {label : Label} {c c' : Coordinator} {w : Window}

private theorem window?_eq_none (hs : c.stage.isActivating = true) (hs' : c'.stage ≠ .free) :
    window? c .proceed c' = none := by
  unfold window?
  simp only
  split
  · rename_i hs'' _
    rw [hs''] at hs
    cases hs
  · rename_i hs'' _
    rw [hs''] at hs
    cases hs
  · rename_i hs'' _
    rw [hs''] at hs
    cases hs
  · rename_i hs'' _
    rw [hs''] at hs
    cases hs
  · contradiction
  · rfl

/-- After a deactivation there is no tailer, and only an activation follows. -/
private theorem allows_closed {next : Next} (hs : c.stage = .closing next ∨ c.stage = .stopping next)
    (htailer : c'.tailer = none) (hp : c'.phase = .stopped) :
    Allows ((window? c .proceed (c'.closed next)).getD w) (c'.closed next) := by
  have hnone : (c'.closed next).tailer = none := by cases next <;> exact htailer
  refine ⟨fun hactivating => ?_, fun hsome => absurd hnone hsome, fun hfree => ?_⟩
  · cases next with
    | rest | dispose => cases hactivating
    | activate => obtain hs | hs := hs <;> simp [window?, hs, closed]
  · cases next with
    | activate | dispose => cases hfree
    | rest => obtain hs | hs := hs <;> simp [window?, hs, closed, finish, hp]

/-- An activation that is done was under way. -/
theorem Turn.activating_of_showing (ht : Turn now c label c') (hw : window? c label c' = some .showing) :
    c.stage.isActivating = true := by
  cases ht with
  | idle hs _ | launch hs _ | clean hs _ | refused hs _ | started hs _ _ _ | locate hs _ | attached hs =>
    rw [hs]
    rfl
  | complete hs => obtain ⟨_, _, hs⟩ | ⟨_, hs⟩ := hs <;> rw [hs] <;> rfl
  | supervisor _ _ _ | attach _ _ _ | follow _ _ _ | leave _ _ | forget _ _ | detach _ => cases hw
  | @begin call _ => cases call <;> cases hw
  | @closed next hs _ | @stopped next hs _ => cases next <;> simp [window?, hs, Coordinator.closed, finish] at hw
  | stop hs _ => simp [window?, hs, ask] at hw

private theorem Allows.of_active (hs : c.stage = .free) (hp : c.phase = .active) : Allows .showing c := by
  refine ⟨fun hactivating => ?_, fun _ => by simp, fun _ => by rw [if_pos hp]⟩
  rw [hs] at hactivating
  cases hactivating

private theorem Allows.of_inactive (hs : c.stage = .free) (hp : c.phase ≠ .active) (htailer : c.tailer = none) :
    Allows .quiet c := by
  refine ⟨fun hactivating => ?_, fun hsome => absurd htailer hsome, fun _ => by rw [if_neg hp]⟩
  rw [hs] at hactivating
  cases hactivating

/-- A call that is under way and does not activate allows whatever its tailer does. -/
private theorem Allows.of_leaving (hs : c.stage.isActivating = false) (hs' : c.stage ≠ .free)
    (hshowing : c.tailer ≠ none → w ≠ .quiet) : Allows w c := by
  refine ⟨fun hactivating => ?_, hshowing, fun hfree => absurd hfree hs'⟩
  rw [hs] at hactivating
  cases hactivating

/-- Every turn keeps to the window. -/
theorem Allows.turn (h : Allows w c) (hsound : Sound c) (ht : Turn now c label c') :
    Allows ((window? c label c').getD w) c' := by
  have hfits {stage : Stage} (hs : c.stage = stage) : Fits { c with stage } := by
    have := hsound.fits
    rw [Fits, hs] at this
    exact this
  -- within an activation the window stays what it was
  have hwithin (hs : c.stage.isActivating = true) (hs' : c'.stage ≠ .free) (htailer : c'.tailer = c.tailer) :
      Allows ((window? c .proceed c').getD w) c' := by
    rw [window?_eq_none hs hs', Option.getD_none]
    refine ⟨fun _ => h.activating hs, fun hsome => h.showing ?_, fun hfree => absurd hfree hs'⟩
    rwa [← htailer]
  cases ht with
  | supervisor _ _ _ => exact ⟨h.activating, h.showing, h.free⟩
  | attach hs _ _ => exact ⟨fun _ => h.activating (by rw [hs]; rfl), h.showing, fun hfree => by cases hfree⟩
  | follow hsome _ _ => exact ⟨h.activating, fun _ => h.showing (by simp [hsome]), h.free⟩
  | @begin call hs =>
    cases call with
    | activate => exact ⟨fun _ => rfl, fun _ hquiet => (by cases hquiet), fun hfree => by cases hfree⟩
    | _ => exact .of_leaving rfl (fun hfree => by cases hfree) h.showing
  | leave hs _ =>
    obtain hs | ⟨next, hs⟩ := hs
    · obtain ⟨hp, htailer, -⟩ := hfits hs
      have hp : c.phase = .starting := hp
      exact .of_inactive rfl (by simp [hp]) htailer
    · obtain ⟨hp, htailer⟩ := hfits hs
      have hp : c.phase = .stopping := hp
      exact .of_inactive rfl (by simp [hp]) htailer
  | forget hs _ | detach hs =>
    obtain ⟨hp, htailer, -⟩ := hfits hs
    have hp : c.phase = .starting := hp
    exact .of_inactive rfl (by simp [hp]) htailer
  | idle hs hp =>
    rw [show window? c .proceed _ = some .showing by simp [window?, hs, finish]]
    exact .of_active rfl hp
  | launch hs _ | clean hs _ | started hs _ _ _ | locate hs path =>
    exact hwithin (by rw [hs]; rfl) (fun hfree => by cases hfree) rfl
  | refused hs _ =>
    obtain ⟨-, htailer, -⟩ := hfits hs
    rw [show window? c .proceed _ = some .quiet by simp [window?, hs, finish]]
    exact .of_inactive rfl (fun hactive => by cases hactive) htailer
  | complete hs =>
    have hw : window? c .proceed c.complete = some .showing := by
      obtain ⟨_, _, hs⟩ | ⟨_, hs⟩ := hs <;> simp [window?, hs, Coordinator.complete, finish]
    rw [hw]
    exact .of_active rfl rfl
  | attached hs =>
    rw [show window? c .proceed _ = some .showing by simp [window?, hs, Coordinator.complete, finish]]
    exact .of_active rfl rfl
  | closed hs hp =>
    obtain ⟨-, hrests⟩ := hfits hs
    have hrests : c.Rests := hrests
    rw [Rests, hp] at hrests
    exact allows_closed (Or.inl hs) hrests.1 hp
  | stop hs _ => exact .of_leaving rfl (fun hfree => by cases hfree) fun hsome => absurd rfl hsome
  | stopped hs _ =>
    obtain ⟨-, htailer⟩ := hfits hs
    exact @allows_closed c { c with phase := .stopped } w _ (Or.inr hs) htailer rfl

end

/-! ### Tasks that are left behind -/

/-- The tailers of a coordinator: the one that follows a log, or the one that attaches to it. -/
def tailers (c : Coordinator) : List Log.Tailer :=
  c.tailer.toList ++ match c.stage with
    | .attaching t => [t]
    | _ => []

/-- What is left of the tailers that a step lets go: they are detached, and their tasks have not come to an end yet. -/
def letGo (c c' : Coordinator) : List Log.Tailer :=
  match c'.tailer, c'.stage with
  | some _, _ => []
  | none, .attaching _ => []
  | none, _ => (c.tailers.filter fun t => Log.Tailer.isFollowing t.stage).map fun t => { t with attached := false }

/-- A coordinator, and the tasks that it has left behind. -/
structure Scene where
  coordinator : Coordinator
  left : List Log.Tailer := []

namespace Scene

/-- Who moves: the coordinator, or a task that is left behind, which goes on or comes to its end. Between two calls the
coordinator may be dropped. -/
inductive Label where
  | coordinator (label : Coordinator.Label)
  | linger (i : Nat) (label : Log.Tailer.Label)
  | halt (i : Nat)
  | drop

/-- What the log is shown in. -/
def sink (s : Scene) : Log.Sink := s.coordinator.sink

/-- All the tailers that there are. -/
def tailers (s : Scene) : List Log.Tailer := s.coordinator.tailers ++ s.left

/-- One step. -/
def step (now : Nat) (s : Scene) : Label → Option Scene
  | .coordinator label => (s.coordinator.step now label).map fun c => ⟨c, s.left ++ s.coordinator.letGo c⟩
  | .linger i label =>
    (s.left[i]?).bind fun t => (t.step now label).map fun r =>
      ⟨{ s.coordinator with sink := s.coordinator.sink.recordAll r.2 }, s.left.set i r.1⟩
  | .halt i => (s.left[i]?).map fun t => { s with left := s.left.set i t.detach }
  | .drop =>
    match s.coordinator.stage with
    | .free =>
      let c := { s.coordinator with stage := .gone, outcome := none, tailer := none }
      some ⟨c, s.left ++ s.coordinator.letGo c⟩
    | _ => none

/-- A step that has been made. -/
abbrev Entry := Transition Scene Label

/-- A scene, and what has happened in it since the coordinator was fresh, latest first. -/
inductive Run (plan : Plan) (here : Path) (process : Nat) : List Entry → Scene → Prop where
  | fresh : Run plan here process [] ⟨Coordinator.start plan here process, []⟩
  | move {es : List Entry} {s s' : Scene} (now : Nat) (label : Label) :
      Run plan here process es s → s.step now label = some s' → Run plan here process (⟨s, now, label, s'⟩ :: es) s'

/-- What a step changes about the window. -/
def Entry.window? (e : Entry) : Option Window :=
  match e.label with
  | .coordinator label => Coordinator.window? e.before.coordinator label e.after.coordinator
  | .drop => some .quiet
  | _ => none

/-- What the history allows. -/
def window (es : List Entry) : Window := (es.findSome? Entry.window?).getD .quiet

private theorem window_cons (e : Entry) (es : List Entry) : window (e :: es) = e.window?.getD (window es) := by
  unfold window
  rw [List.findSome?_cons]
  cases e.window? <;> rfl

/-- The call that a step begins. -/
def Entry.call? (e : Entry) : Option Call :=
  match e.label with
  | .coordinator (.begin call) => some call
  | _ => none

/-- What the coordinator has last been asked for. -/
def lastCall? (es : List Entry) : Option Call := es.findSome? Entry.call?

theorem lastCall?_cons (e : Entry) (es : List Entry) : lastCall? (e :: es) = e.call?.or (lastCall? es) := by
  unfold lastCall?
  rw [List.findSome?_cons]
  cases e.call? <;> rfl

/-! ### What is kept along a run -/

/-- The invariant of a scene. -/
structure Kept (es : List Entry) (s : Scene) : Prop where
  sound : Sound s.coordinator
  allows : Allows (window es) s.coordinator
  left : ∀ t ∈ s.left, t.attached = false
  gone : s.coordinator.stage = .gone → s.coordinator.tailer = none
  asked : s.coordinator.stage = .closing .dispose ∨ s.coordinator.stage = .stopping .dispose →
    lastCall? es = some .shutdown

section

variable {now : Nat} {label : Label} {s s' : Scene} {es : List Entry}

private theorem left_of_letGo {c c' : Coordinator} : ∀ t ∈ c.letGo c', t.attached = false := by
  intro t ht
  unfold letGo at ht
  split at ht
  · cases ht
  · cases ht
  · obtain ⟨t, -, rfl⟩ := List.mem_map.1 ht
    rfl

/-- What a step does to the sink: it leaves it alone, it makes calls while the history allows it, or it closes it at the
end of a shutdown. -/
inductive Effect (es : List Entry) (s s' : Scene) : Prop where
  | none (hshut : s'.coordinator.IsShutDown ↔ s.coordinator.IsShutDown) (hsink : s'.sink = s.sink)
  | calls (hw : window es ≠ .quiet) (hopen : ¬s.coordinator.IsShutDown) (hopen' : ¬s'.coordinator.IsShutDown)
      {calls : List Log.SinkCall} (hcalls : .dispose ∉ calls) (hsink : s'.sink = s.sink.recordAll calls)
  | closes (hcall : lastCall? es = some .shutdown) (hopen : ¬s.coordinator.IsShutDown)
      (hshut : s'.coordinator.IsShutDown) (hsink : s'.sink = s.sink.record .dispose)

private theorem Kept.effect (h : Kept es s) (hstep : s.step now label = some s') : Effect es s s' := by
  cases label with
  | coordinator label =>
    obtain ⟨c', hc, rfl⟩ := Option.map_eq_some_iff.1 hstep
    have ht := turn_of_step hc
    by_cases hl : (∃ label', label = .attach label') ∨ ∃ label', label = .follow label'
    · obtain ⟨hwho, hgone, calls, hcalls, hsink⟩ := exists_calls_of_step hc hl
      have hw : window es ≠ .quiet := by
        obtain hactivating | hsome := hwho
        · simp [h.allows.activating hactivating]
        · exact h.allows.showing hsome
      have hopen : s.coordinator.stage ≠ .gone := fun hs => by
        obtain hactivating | hsome := hwho
        · rw [hs] at hactivating
          cases hactivating
        · exact hsome (h.gone hs)
      exact .calls hw (fun hshut => hopen hshut.1) (fun hshut => hopen (hgone.1 hshut.1)) hcalls hsink
    · by_cases hs : s.coordinator.stage = .gone
      · obtain ⟨hstage, houtcome, -, hsink⟩ := ht.of_gone hs (h.gone hs)
        exact .none (by simp only [IsShutDown, hstage, houtcome, hs]) hsink
      · have hopen : ¬s.coordinator.IsShutDown := fun hshut => hs hshut.1
        have hsinks := ht.sink_cases hs (fun label' hl' => hl (Or.inl ⟨label', hl'⟩))
          (fun label' hl' => hl (Or.inr ⟨label', hl'⟩))
        obtain ⟨hopen', hsink⟩ | ⟨hactivating, hopen', hsink⟩ | hcloses := hsinks
        · exact .none ⟨fun hshut => absurd hshut.1 hopen', fun hshut => absurd hshut hopen⟩ hsink
        · have hw : window es ≠ .quiet := by simp [h.allows.activating hactivating]
          have hclear : .dispose ∉ [Log.SinkCall.clear] := by simp
          exact .calls hw hopen (fun hshut => hopen' hshut.1) hclear hsink
        · exact .closes (h.asked hcloses.stage) hopen hcloses.shutDown hcloses.sink
  | linger i label =>
    obtain ⟨t, ht, hrest⟩ := Option.bind_eq_some_iff.1 hstep
    obtain ⟨⟨t', calls⟩, hcalls, rfl⟩ := Option.map_eq_some_iff.1 hrest
    obtain ⟨more, -, rfl⟩ := Log.Tailer.exists_gate_of_step hcalls
    refine .none Iff.rfl ?_
    have hshut : t.attached = false := h.left t (List.mem_of_getElem? ht)
    simp [sink, Log.Tailer.gate, hshut, Log.Sink.recordAll]
  | halt i =>
    obtain ⟨t, ht, rfl⟩ := Option.map_eq_some_iff.1 hstep
    exact .none Iff.rfl rfl
  | drop =>
    simp only [Scene.step] at hstep
    split at hstep
    · rename_i hs
      cases hstep
      refine .none ⟨fun hshut => ?_, fun hshut => ?_⟩ rfl
      · cases hshut.2
      · have hstage := hshut.1
        rw [hs] at hstage
        cases hstage
    · cases hstep

private theorem tailer_of_gone {c c' : Coordinator} {label : Coordinator.Label} (hsound : Sound c)
    (hgone : c.stage = .gone → c.tailer = none) (ht : Turn now c label c') (hs : c'.stage = .gone) :
    c'.tailer = none := by
  by_cases hs' : c.stage = .gone
  · exact (ht.of_gone hs' (hgone hs')).2.2.1
  · have hfits := hsound.fits
    cases ht with
    | @closed next hclosing hp =>
      rw [Fits, hclosing] at hfits
      obtain ⟨-, hrests⟩ := hfits
      rw [Rests, hp] at hrests
      cases next <;> exact hrests.1
    | @stopped next hstopping _ =>
      rw [Fits, hstopping] at hfits
      cases next <;> exact hfits.2
    | supervisor _ _ _ | follow _ _ _ => exact absurd hs hs'
    | @begin call _ => cases call <;> cases hs
    | _ => cases hs

/-- A shutdown is under way only if the coordinator has been asked for it. -/
private theorem asked_of_turn {c c' : Coordinator} {label : Coordinator.Label} (ht : Turn now c label c')
    (hs : c'.stage = .closing .dispose ∨ c'.stage = .stopping .dispose) :
    label = .begin .shutdown ∨
      (∀ call, label ≠ .begin call) ∧ (c.stage = .closing .dispose ∨ c.stage = .stopping .dispose) := by
  cases ht with
  | supervisor _ _ _ | follow _ _ _ => exact Or.inr ⟨by simp, hs⟩
  | @begin call _ =>
    cases call with
    | shutdown => exact Or.inl rfl
    | _ => obtain hs | hs := hs <;> cases hs
  | stop hclosing _ =>
    obtain hs | hs := hs
    · cases hs
    · cases hs
      exact Or.inr ⟨by simp, Or.inl hclosing⟩
  | @closed next _ _ | @stopped next _ _ => cases next <;> obtain hs | hs := hs <;> cases hs
  | _ => obtain hs | hs := hs <;> cases hs

theorem Entry.call?_eq_none {label : Coordinator.Label} (hl : ∀ call, label ≠ .begin call) :
    Entry.call? ⟨s, now, .coordinator label, s'⟩ = none := by
  cases label with
  | begin call => exact absurd rfl (hl call)
  | _ => rfl

/-- Every step keeps the invariant. -/
theorem Kept.step (h : Kept es s) (hstep : s.step now label = some s') : Kept (⟨s, now, label, s'⟩ :: es) s' := by
  cases label with
  | coordinator label =>
    obtain ⟨c', hc, rfl⟩ := Option.map_eq_some_iff.1 hstep
    have ht := turn_of_step hc
    refine ⟨h.sound.turn ht, ?_, fun t hmem => ?_, tailer_of_gone h.sound h.gone ht, fun hs => ?_⟩
    · rw [window_cons]
      exact h.allows.turn h.sound ht
    · obtain hmem | hmem := List.mem_append.1 hmem
      · exact h.left t hmem
      · exact left_of_letGo t hmem
    · rw [lastCall?_cons]
      obtain rfl | ⟨hl, hs⟩ := asked_of_turn ht hs
      · rfl
      · rw [Entry.call?_eq_none hl, Option.none_or]
        exact h.asked hs
  | linger i label =>
    obtain ⟨t, ht, hrest⟩ := Option.bind_eq_some_iff.1 hstep
    obtain ⟨⟨t', calls⟩, hcalls, rfl⟩ := Option.map_eq_some_iff.1 hrest
    have hshut : t'.attached = false := by
      rw [Log.Tailer.attached_of_step hcalls]
      exact h.left t (List.mem_of_getElem? ht)
    refine ⟨⟨h.sound.steady, h.sound.hailed, h.sound.fits⟩, ⟨h.allows.activating, h.allows.showing, h.allows.free⟩,
      fun u hmem => ?_, h.gone, h.asked⟩
    obtain hmem | rfl := List.mem_or_eq_of_mem_set hmem
    · exact h.left u hmem
    · exact hshut
  | halt i =>
    obtain ⟨t, ht, rfl⟩ := Option.map_eq_some_iff.1 hstep
    refine ⟨h.sound, h.allows, fun u hmem => ?_, h.gone, h.asked⟩
    obtain hmem | rfl := List.mem_or_eq_of_mem_set hmem
    · exact h.left u hmem
    · rfl
  | drop =>
    simp only [Scene.step] at hstep
    split at hstep
    · cases hstep
      refine ⟨⟨h.sound.steady, h.sound.hailed, trivial⟩, .of_leaving rfl (by simp) fun hsome => absurd rfl hsome,
        fun t hmem => ?_, fun _ => rfl, fun hs => ?_⟩
      · obtain hmem | hmem := List.mem_append.1 hmem
        · exact h.left t hmem
        · exact left_of_letGo t hmem
      · obtain hs | hs := hs <;> cases hs
    · cases hstep

end

section

variable {plan : Plan} {here : Path} {process : Nat} {es : List Entry} {s : Scene}

/-- The invariant of a scene holds along every run. -/
theorem Run.kept (h : Run plan here process es s) : Kept es s := by
  induction h with
  | fresh =>
    have hfresh : Coordinator.Run plan here process [] (Coordinator.start plan here process) := .fresh
    refine ⟨hfresh.sound, .of_inactive rfl (fun hactive => by cases hactive) rfl, fun _ hmem => ?_, fun _ => rfl,
      fun hs => ?_⟩
    · cases hmem
    · obtain hs | hs := hs <;> cases hs
  | move now label _ hstep ih => exact ih.step hstep

/-- A sink is closed when a shutdown has been completed, and not before. -/
theorem Run.closed (h : Run plan here process es s) :
    (¬s.coordinator.IsShutDown → .dispose ∉ s.sink.calls) ∧
      (s.coordinator.IsShutDown → ∃ earlier, s.sink.calls = .dispose :: earlier ∧ .dispose ∉ earlier) := by
  induction h with
  | fresh => exact ⟨fun _ => by simp [sink, Coordinator.start, Log.Sink.empty], fun hshut => by cases hshut.1⟩
  | @move es s s' now label hrun hstep ih =>
    obtain ⟨hbefore, hafter⟩ := ih
    cases hrun.kept.effect hstep with
    | none hshut hsink =>
      rw [hsink, hshut]
      exact ⟨hbefore, hafter⟩
    | calls _ hopen hopen' hcalls hsink =>
      refine ⟨fun _ => ?_, fun hshut => absurd hshut hopen'⟩
      rw [hsink, Log.Sink.calls_recordAll]
      simp only [List.mem_append, List.mem_reverse]
      exact fun hmem => hmem.elim hcalls (hbefore hopen)
    | closes _ hopen hshut hsink =>
      refine ⟨fun hopen' => absurd hshut hopen', fun _ => ⟨s.sink.calls, ?_, hbefore hopen⟩⟩
      rw [hsink]
      rfl

private theorem Run.unique {s' : Scene} (h : Run plan here process es s) (h' : Run plan here process es s') :
    s = s' := by
  cases h with
  | fresh =>
    cases h'
    rfl
  | move _ _ _ _ =>
    cases h'
    rfl

/-- Once a shutdown has been completed the sink gets nothing any more. -/
theorem Run.silent_since (h : Run plan here process es s) (hshut : s.coordinator.IsShutDown) (later : List Entry)
    {s' : Scene} (h' : Run plan here process (later ++ es) s') : s'.coordinator.IsShutDown ∧ s'.sink = s.sink := by
  induction later generalizing s' with
  | nil =>
    obtain rfl := h.unique h'
    exact ⟨hshut, rfl⟩
  | cons e later ih =>
    cases h' with
    | @move _ t _ now label hrun hstep =>
      obtain ⟨hshut', hsame⟩ := ih hrun
      cases hrun.kept.effect hstep with
      | none hiff hsink => exact ⟨hiff.2 hshut', hsink.trans hsame⟩
      | calls _ hopen _ _ _ => exact absurd hshut' hopen
      | closes _ hopen _ _ => exact absurd hshut' hopen

/-- From a quiet point on it stays quiet until an activation begins. -/
private theorem Run.quiet_step {now : Nat} {label : Label} {s' : Scene} (h : Run plan here process es s)
    (hquiet : window es = .quiet) (hstep : s.step now label = some s')
    (hlabel : Entry.window? ⟨s, now, label, s'⟩ ≠ some .activating) :
    window (⟨s, now, label, s'⟩ :: es) = .quiet := by
  rw [window_cons]
  cases hw : Entry.window? ⟨s, now, label, s'⟩ with
  | none => exact hquiet
  | some w =>
    cases w with
    | quiet => rfl
    | activating => exact absurd hw hlabel
    | showing =>
      cases label with
      | coordinator label =>
        obtain ⟨c', hc, rfl⟩ := Option.map_eq_some_iff.1 hstep
        have hactivating := (turn_of_step hc).activating_of_showing hw
        rw [h.kept.allows.activating hactivating] at hquiet
        cases hquiet
      | linger _ _ | halt _ | drop => cases hw

/-- From a quiet point on nothing is shown until an activation begins; only a shutdown may be completed. -/
theorem Run.quiet_since (h : Run plan here process es s) (hquiet : window es = .quiet) (later : List Entry) {s' : Scene}
    (h' : Run plan here process (later ++ es) s') (hlater : ∀ e ∈ later, e.window? ≠ some .activating) :
    window (later ++ es) = .quiet ∧
      (s'.sink = s.sink ∨ s'.coordinator.IsShutDown ∧ s'.sink = s.sink.record .dispose) := by
  induction later generalizing s' with
  | nil =>
    obtain rfl := h.unique h'
    exact ⟨hquiet, Or.inl rfl⟩
  | cons e later ih =>
    cases h' with
    | @move _ t _ now label hrun hstep =>
      obtain ⟨hquiet', hsink'⟩ := ih hrun fun e he => hlater e (List.mem_cons_of_mem _ he)
      refine ⟨hrun.quiet_step hquiet' hstep (hlater _ List.mem_cons_self), ?_⟩
      cases hrun.kept.effect hstep with
      | none hiff hsink =>
        rw [hsink, hiff]
        exact hsink'
      | calls hw _ _ _ _ => exact absurd hquiet' hw
      | closes _ hopen hshut hsink =>
        obtain hsame | ⟨hshut', -⟩ := hsink'
        · exact Or.inr ⟨hshut, by rw [hsink, hsame]⟩
        · exact absurd hshut' hopen

/-- At most one tailer can reach the sink. -/
theorem Run.one_attached (h : Run plan here process es s) : (s.tailers.filter (·.attached)).length ≤ 1 := by
  have hleft : s.left.filter (·.attached) = [] := by
    rw [List.filter_eq_nil_iff]
    intro t ht
    simp [h.kept.left t ht]
  have hone : s.coordinator.tailers.length ≤ 1 := by
    unfold Coordinator.tailers
    cases hs : s.coordinator.stage with
    | attaching t =>
      have hfits := h.kept.sound.fits
      rw [Fits, hs] at hfits
      simp [hfits.2.1]
    | _ => cases s.coordinator.tailer <;> simp
  rw [tailers, List.filter_append, hleft, List.append_nil]
  exact Nat.le_trans (List.length_filter_le _ _) hone

/-- What is shown along a run, wherever calls are given up, and however long tasks go on that have been left behind.
Between two calls the window is open if the coordinator is active. The sink is called only in an open window, and by a
shutdown that closes it; from a moment at which the window is shut it gets nothing until an activation opens it again.
At most one tailer can reach the sink. The sink is closed by a completed shutdown, once and by nothing else, and gets
nothing after that. -/
theorem Run.windowed (h : Run plan here process es s) :
    (s.coordinator.stage = .free → window es = if s.coordinator.phase = .active then .showing else .quiet) ∧
    (∀ now label s', s.step now label = some s' →
      s'.sink = s.sink ∨
      (window es ≠ .quiet ∧ ∃ calls, .dispose ∉ calls ∧ s'.sink = s.sink.recordAll calls) ∨
      (lastCall? es = some .shutdown ∧ s'.coordinator.IsShutDown ∧ s'.sink = s.sink.record .dispose)) ∧
    (window es = .quiet → ∀ later s', Run plan here process (later ++ es) s' →
      (∀ e ∈ later, e.window? ≠ some .activating) →
        s'.sink = s.sink ∨ s'.coordinator.IsShutDown ∧ s'.sink = s.sink.record .dispose) ∧
    ((s.tailers.filter (·.attached)).length ≤ 1 ∧
      ∀ t ∈ s.tailers, t.attached = false → ∀ now label t' calls, t.step now label = some (t', calls) → calls = []) ∧
    (¬s.coordinator.IsShutDown → .dispose ∉ s.sink.calls) ∧
    (s.coordinator.IsShutDown → ∃ earlier, s.sink.calls = .dispose :: earlier ∧ .dispose ∉ earlier ∧
      ∀ later s', Run plan here process (later ++ es) s' → s'.sink = s.sink) := by
  refine ⟨h.kept.allows.free, fun now label s' hstep => ?_, fun hquiet later s' h' hlater => ?_,
    ⟨h.one_attached, ?_⟩, h.closed.1, fun hshut => ?_⟩
  · cases h.kept.effect hstep with
    | none _ hsink => exact Or.inl hsink
    | calls hw _ _ hcalls hsink => exact Or.inr (Or.inl ⟨hw, _, hcalls, hsink⟩)
    | closes hcall _ hshut hsink => exact Or.inr (Or.inr ⟨hcall, hshut, hsink⟩)
  · exact (h.quiet_since hquiet later h' hlater).2
  · intro t _ hshut now label t' calls hcalls
    obtain ⟨more, -, rfl⟩ := Log.Tailer.exists_gate_of_step hcalls
    simp [Log.Tailer.gate, hshut]
  · obtain ⟨earlier, hcalls, hnone⟩ := h.closed.2 hshut
    exact ⟨earlier, hcalls, hnone, fun later s' h' => (h.silent_since hshut later h').2⟩

end

/-! ### Scripts -/

/-- A run goes on by a script. -/
theorem Run.play {plan : Plan} {here : Path} {process : Nat} {base more : List Entry} {s s' : Scene}
    (h : Run plan here process base s) (labels : List Label) (hplay : Script.play step [] s labels = some (more, s')) :
    Run plan here process (more ++ base) s' :=
  Script.goes_on (fun _ _ label _ hrun hstep => hrun.move 0 label hstep)
    (show Run plan here process ([] ++ base) s from h) hplay

/-- The frame of the response "/a" to the request 2. -/
def pathFrame : List UInt8 :=
  [0x43, 0x6F, 0x6E, 0x74, 0x65, 0x6E, 0x74, 0x2D, 0x4C, 0x65, 0x6E, 0x67, 0x74, 0x68, 0x3A, 0x20, 0x32, 0x32,
    0x0D, 0x0A, 0x0D, 0x0A, 0x7B, 0x22, 0x69, 0x64, 0x22, 0x3A, 0x32, 0x2C, 0x22, 0x72, 0x65, 0x73, 0x75, 0x6C,
    0x74, 0x22, 0x3A, 0x22, 0x2F, 0x61, 0x22, 0x7D]

/-- Steps of the supervisor, of its worker or of the tasks of its channel. -/
private def tended (labels : List Supervisor.Label) : List Label :=
  labels.map fun label => .coordinator (.supervisor label)

/-- A worker is started, and names its log. -/
private def raising : List Label :=
  [.coordinator (.begin .activate), .coordinator .proceed] ++ tended ((Supervisor.welcoming 0).drop 1) ++
    [.coordinator .proceed] ++ tended (List.replicate 5 (.channel 0 (.caller 2)) ++
      [.act 0 (.writes pathFrame), .channel 0 .reader, .channel 0 .reader, .channel 0 (.caller 2)]) ++
    [.coordinator .proceed]

/-- The log is shown. -/
private def showing : List Label :=
  ([.attach (.system (.size 1)), .attach .proceed, .attach (.system (.opened (some 0))),
    .attach (.system (.content .placed)), .attach (.system (.content (.bytes [0x68]))), .proceed,
    .follow .event] : List Coordinator.Label).map .coordinator

/-- The coordinator is shut down, and the task of its tailer goes on for a while. -/
private def leaving : List Label :=
  [.coordinator (.begin .shutdown), .coordinator .proceed, .linger 0 .proceed, .linger 0 .proceed] ++
    tended [.act 0 .closesOutput, .channel 0 .reader, .channel 0 .reader, .proceed, .channel 0 (.caller 3),
      .channel 0 (.caller 3), .proceed, .exited 0 (.code 0), .proceed, .proceed] ++
    [.coordinator .proceed, .linger 0 .proceed, .halt 0]

/-- A log is shown after an activation. When the coordinator has been shut down the sink is closed, and gets nothing
more although the task of the tailer has gone on. -/
theorem windowed_session : ∃ es s es' s', Run Coordinator.somePlan (.ofString "/") 1 es s ∧ window es = .showing ∧
    s.sink.calls = [.append "h"] ∧ Run Coordinator.somePlan (.ofString "/") 1 (es' ++ es) s' ∧
    s'.coordinator.IsShutDown ∧ s'.sink.calls = [.dispose, .append "h"] ∧
    ∀ later s'', Run Coordinator.somePlan (.ofString "/") 1 (later ++ (es' ++ es)) s'' → s''.sink = s'.sink := by
  have began : Run Coordinator.somePlan (.ofString "/") 1 [] _ := .fresh
  have raised := began.play raising rfl
  have shown := raised.play showing rfl
  have left := shown.play leaving rfl
  obtain ⟨hfree, -⟩ := shown.windowed
  obtain ⟨-, -, -, -, -, hshut⟩ := left.windowed
  obtain ⟨earlier, -, -, hsilent⟩ := hshut ⟨rfl, rfl⟩
  exact ⟨_, _, _, _, shown, hfree rfl, rfl, left, ⟨rfl, rfl⟩, rfl, hsilent⟩

end Scene

end Coordinator

end Attendant

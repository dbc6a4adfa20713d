import Attendant.Proofs.Log.World

/-!
# Detaching a tailer

Whoever detaches a tailer does so beside the task that follows the log, and the task may be anywhere: between two
events, before a call of the sink or in the middle of one. A `Gated` is a tailer taken apart that far. Each call that
the task has to make it makes under a lock, and only if the tailer is attached when it has got the lock; a detach first
takes that lock to put the flag down, then lets the watch go, and then tells the task to stop. The watch and the task
come to their ends at some later time, or never. One after another, these parts are the steps of a tailer
(`Gated.run_step`, `Gated.run_detach`).

A run with a detach in it is compared with the same run without it. Up to the moment at which the flag is put down the
two are the same; from then on the one lags behind the other, and its sink gets nothing (`Gated.Behind`). So what the
sink has got is a first part of what it would have got (`Gated.detached`).
-/

namespace Attendant.Log

/-! ### Steps of a tailer whatever its watch -/

namespace Tailer

/-- Whether the watch moves, and not the task that follows the log. -/
def Label.isWatch : Label → Bool
  | .event | .tick => true
  | _ => false

/-- The calls that a step asks for, whether or not they will reach the sink. -/
def wishes (now : Nat) (t : Tailer) (label : Label) : List SinkCall :=
  ((({ t with attached := true } : Tailer).step now label).map Prod.snd).getD []

variable {now : Nat} {label : Label} {t t' : Tailer} {calls : List SinkCall}

/-- Neither the watch nor whether the tailer is attached matters to its task, but for the calls that reach the sink, and
but for the one place where the task looks. -/
theorem step_masked (ht : t.stage.hasAttached = true) (hl : label.isWatch = false) (hc : t.stage ≠ .checking)
    (attached : Bool) (watch : Option Strategy) (tick : Option Alarm) :
    ({ t with attached, watch, tick } : Tailer).step now label =
      (t.step now label).map fun r =>
        ({ r.1 with attached, watch, tick }, if attached then t.wishes now label else []) := by
  cases label with
  | event | tick => cases hl
  | proceed =>
    cases hs : t.stage with
    | idle =>
      simp only [step, wishes, hs]
      split
      · rfl
      · split <;> simp
    | resting alarm =>
      simp only [step, wishes, hs]
      split <;> simp
    | draining => simp [step, wishes, hs]
    | checking => exact absurd hs hc
    | sizing | reopening _ | reading _ _ | stopped => simp [step, hs]
    | measuring _ | watching _ _ | opening _ | filling _ _ | refused _ =>
      rw [hs] at ht
      cases ht
  | system answer =>
    cases hs : t.stage with
    | sizing =>
      cases answer with
      | failed fault => simp [step, wishes, hs]
      | size n => simp [step, wishes, hs]
      | _ => simp [step, hs]
    | reopening size =>
      cases answer with
      | failed fault => simp [step, wishes, hs]
      | opened file =>
        simp only [step, wishes, hs, Option.map_some, Option.getD_some, gate, if_true]
        generalize t.position.begin size = r
        obtain ⟨change, p, pass, more⟩ := r
        cases pass <;> rfl
      | _ => simp [step, hs]
    | reading file pass =>
      cases answer with
      | content answer =>
        simp only [step, wishes, hs, Option.map_some, Option.getD_some, gate, if_true]
        generalize pass.step t.position answer = r
        obtain ⟨p, pass, more⟩ := r
        cases pass <;> rfl
      | _ => simp [step, hs]
    | idle | resting _ | draining | checking | stopped => simp [step, hs]
    | measuring _ | watching _ _ | opening _ | filling _ _ | refused _ =>
      rw [hs] at ht
      cases ht

private theorem wishes_masked (ht : t.stage.hasAttached = true) (hl : label.isWatch = false) (attached : Bool)
    (watch : Option Strategy) (tick : Option Alarm) :
    ({ t with attached, watch, tick } : Tailer).wishes now label = t.wishes now label := by
  by_cases hc : t.stage = .checking
  · have hnone (attached : Bool) (watch : Option Strategy) (tick : Option Alarm) :
        ({ t with attached, watch, tick } : Tailer).wishes now label = [] := by
      cases label with
      | event | tick => cases hl
      | proceed => simp [wishes, step, hc]
      | system answer => simp [wishes, step, hc]
    rw [hnone, ← hnone t.attached t.watch t.tick]
  · have hstep := @step_masked now label t ht hl hc true
    unfold wishes
    simp only
    rw [hstep watch tick, hstep t.watch t.tick]
    cases t.step now label <;> rfl

private theorem wishes_checking (hc : t.stage = .checking) : t.wishes now label = [] := by
  cases label with
  | event =>
    simp only [wishes, step]
    cases t.watch <;> rfl
  | tick =>
    simp only [wishes, step]
    split
    · split <;> rfl
    · rfl
  | proceed => simp [wishes, step, hc]
  | system answer => simp [wishes, step, hc]

/-- A step of the task neither moves the watch nor detaches the tailer. What the sink gets from it are the calls that
the step asks for, unless the tailer has been detached. -/
theorem kept_of_task (ht : t.stage.hasAttached = true) (hl : label.isWatch = false)
    (h : t.step now label = some (t', calls)) :
    t'.watch = t.watch ∧ t'.tick = t.tick ∧ t'.attached = t.attached ∧ calls = t.gate (t.wishes now label) := by
  by_cases hc : t.stage = .checking
  · rw [wishes_checking hc]
    cases label with
    | event | tick => cases hl
    | proceed =>
      simp only [step, hc, Option.some.injEq, Prod.mk.injEq] at h
      rw [← h.1, ← h.2]
      exact ⟨rfl, rfl, rfl, (gate_nil t).symm⟩
    | system answer => simp [step, hc] at h
  · have hstep := @step_masked now label t ht hl hc t.attached t.watch t.tick
    rw [show ({ t with attached := t.attached, watch := t.watch, tick := t.tick } : Tailer) = t from rfl, h,
      Option.map_some, Option.some.injEq, Prod.mk.injEq] at hstep
    rw [hstep.1]
    exact ⟨rfl, rfl, rfl, hstep.2⟩

private theorem eq_of_isWatch (hl : label.isWatch = true) : label = .event ∨ label = .tick := by
  cases label with
  | event => exact Or.inl rfl
  | tick => exact Or.inr rfl
  | proceed | system _ => cases hl

private theorem wishes_watch (hl : label.isWatch = true) : t.wishes now label = [] := by
  unfold wishes
  cases hstep : ({ t with attached := true } : Tailer).step now label with
  | none => rfl
  | some r =>
    obtain ⟨t', calls⟩ := r
    exact (Tailer.step_watch (eq_of_isWatch hl) hstep).2.2.2.2.2

/-! ### A detached tailer beside one that is not -/

/-- A tailer has been detached, and otherwise is where another one is, but that its task or its watch may have come to
its end. -/
def Trails (t u : Tailer) : Prop := ∃ stage watch tick,
  t = { u with attached := false, stage, watch, tick } ∧ (stage = .stopped ∨ stage = u.stage) ∧
    (watch = none ∨ watch = u.watch ∧ tick = u.tick)

namespace Trails

variable {u : Tailer}

private theorem of_self (t : Tailer) : ({ t with attached := false } : Tailer).Trails t :=
  ⟨t.stage, t.watch, t.tick, rfl, Or.inr rfl, Or.inr ⟨rfl, rfl⟩⟩

private theorem attached_eq (h : t.Trails u) : t.attached = false := by
  obtain ⟨stage, watch, tick, rfl, -⟩ := h
  rfl

theorem hasAttached (h : t.Trails u) (hu : u.stage.hasAttached = true) : t.stage.hasAttached = true := by
  obtain ⟨stage, watch, tick, rfl, rfl | rfl, -⟩ := h
  · rfl
  · exact hu

theorem shut (h : t.Trails u) : ({ t with attached := false } : Tailer).Trails u := by
  obtain ⟨stage, watch, tick, rfl, htask, hwatch⟩ := h
  exact ⟨stage, watch, tick, rfl, htask, hwatch⟩

theorem stopped (h : t.Trails u) : ({ t with stage := .stopped } : Tailer).Trails u := by
  obtain ⟨stage, watch, tick, rfl, -, hwatch⟩ := h
  exact ⟨.stopped, watch, tick, rfl, Or.inl rfl, hwatch⟩

private theorem unwatched (h : t.Trails u) : ({ t with watch := none, tick := none } : Tailer).Trails u := by
  obtain ⟨stage, watch, tick, rfl, htask, -⟩ := h
  exact ⟨stage, none, none, rfl, htask, Or.inl rfl⟩

theorem notice (h : t.Trails u) : t.notice.Trails u.notice := by
  obtain ⟨stage, watch, tick, rfl, htask, hwatch⟩ := h
  unfold Tailer.notice
  split
  · exact ⟨stage, watch, tick, rfl, htask, hwatch⟩
  · exact ⟨stage, watch, tick, rfl, htask, hwatch⟩

private theorem ticked (h : t.Trails u) (alarm : Option Alarm) :
    ({ t with tick := alarm } : Tailer).Trails { u with tick := alarm } := by
  obtain ⟨stage, watch, tick, rfl, htask, rfl | ⟨rfl, -⟩⟩ := h
  · exact ⟨stage, none, alarm, rfl, htask, Or.inl rfl⟩
  · exact ⟨stage, u.watch, alarm, rfl, htask, Or.inr ⟨rfl, rfl⟩⟩

private theorem watch_eq (h : t.Trails u) {strategy : Strategy} (hw : t.watch = some strategy) :
    u.watch = some strategy ∧ u.tick = t.tick := by
  obtain ⟨stage, watch, tick, rfl, htask, rfl | ⟨rfl, rfl⟩⟩ := h
  · cases hw
  · exact ⟨hw, rfl⟩

/-- What the watch of the one may do, the watch of the other may do too. -/
theorem step_watch (h : t.Trails u) (hl : label.isWatch = true) (hstep : t.step now label = some (t', calls)) :
    ∃ u' calls', u.step now label = some (u', calls') ∧ t'.Trails u' := by
  cases label with
  | proceed | system answer => cases hl
  | event =>
    simp only [step] at hstep ⊢
    split at hstep
    · rename_i hw
      cases hstep
      rw [(h.watch_eq hw).1]
      exact ⟨u.notice, [], rfl, h.notice⟩
    · cases hstep
  | tick =>
    simp only [step] at hstep ⊢
    split at hstep
    · rename_i hw hk
      split at hstep
      · rename_i hdue
        cases hstep
        obtain ⟨hw', hk'⟩ := h.watch_eq hw
        simp only [hw', hk', hk, if_pos hdue]
        exact ⟨_, [], rfl, h.notice.ticked _⟩
      · cases hstep
    · cases hstep

/-- What the task of the one may do, the task of the other may do too, and it asks for the same calls. -/
theorem step_task (h : t.Trails u) (hu : u.stage.hasAttached = true) (hl : label.isWatch = false)
    (hstep : t.step now label = some (t', calls)) :
    ∃ u' calls', u.step now label = some (u', calls') ∧ t'.Trails u' ∧
      t.wishes now label = u.wishes now label := by
  obtain ⟨stage, watch, tick, rfl, rfl | rfl, hwatch⟩ := h
  · let stopped : Tailer := { u with attached := false, stage := .stopped, watch, tick }
    obtain ⟨hproceed, hsystem⟩ := step_of_stopped (show stopped.stage = .stopped from rfl) now
    cases label with
    | event | tick => cases hl
    | proceed =>
      rw [hproceed] at hstep
      cases hstep
    | system answer =>
      rw [hsystem] at hstep
      cases hstep
  · have hwishes := @wishes_masked now label u hu hl false watch tick
    by_cases hc : u.stage = .checking
    · cases label with
      | event | tick => cases hl
      | system answer => simp [step, hc] at hstep
      | proceed =>
        simp only [step, hc, Option.some.injEq, Prod.mk.injEq] at hstep
        rw [← hstep.1]
        refine ⟨{ u with stage := if u.attached then .sizing else .stopped }, [], by simp only [step, hc], ?_, hwishes⟩
        exact ⟨.stopped, watch, tick, rfl, Or.inl rfl, hwatch⟩
    · rw [show ({ u with attached := false, stage := u.stage, watch, tick } : Tailer) =
        { u with attached := false, watch, tick } from rfl, step_masked hu hl hc] at hstep
      obtain ⟨⟨u', calls'⟩, hu', heq⟩ := Option.map_eq_some_iff.1 hstep
      cases heq
      obtain ⟨hw, hk, -, -⟩ := kept_of_task hu hl hu'
      refine ⟨u', calls', hu', ⟨u'.stage, watch, tick, rfl, Or.inr rfl, ?_⟩, hwishes⟩
      rw [hw, hk]
      exact hwatch

end Trails

end Tailer

/-! ### A tailer and the one who detaches it -/

/-- The lock around the flag that says whether the tailer is attached. The task holds it for each of its calls; the call
is in progress only if the tailer was attached when the task got the lock. -/
inductive Gated.Lock where
  | free
  | calling (call : SinkCall)
  | dropping
  deriving DecidableEq, Repr

/-- The call that is in progress. -/
def Gated.Lock.call? : Gated.Lock → Option SinkCall
  | .calling call => some call
  | _ => none

/-- How far the one who detaches has got: away, or the flag is down, or the watch has been let go too. -/
inductive Gated.Hand where
  | away
  | ended
  | released
  deriving DecidableEq, Repr

/-- A tailer beside its sink. `due` are the calls that the task has still to make before it goes on. The watch is
`guarded` until it is let go, and the task is `aborted` once it has been told to stop: then a detach has returned. -/
structure Gated where
  tailer : Tailer
  sink : Sink
  due : List SinkCall := []
  lock : Gated.Lock := .free
  hand : Gated.Hand := .away
  guarded : Bool := true
  aborted : Bool := false
  deriving DecidableEq, Repr

namespace Gated

/-- Who moves: the tailer or its watch, the task at the lock, the one who detaches, or the watch or the task that comes
to its end because of it. -/
inductive Label where
  | tailer (now : Nat) (label : Tailer.Label)
  | acquire
  | release
  | detach
  | unwatch
  | halt
  deriving DecidableEq, Repr

/-- Whether a step is of a detach, or follows from one. -/
def Label.isDetaching : Label → Bool
  | .detach | .unwatch | .halt => true
  | _ => false

/-- A tailer that nobody detaches yet. -/
def start (t : Tailer) (sink : Sink) : Gated := { tailer := t, sink }

/-- The next part of a detach: to put the flag down under the lock, to let the watch go, and to tell the task to stop. A
detach that finds all this done does it again. -/
def detach (s : Gated) : Option Gated :=
  match s.hand with
  | .away =>
    if s.lock = .free then some { s with tailer := { s.tailer with attached := false }, hand := .ended } else none
  | .ended => some { s with guarded := false, hand := .released }
  | .released => some { s with aborted := true, hand := .away }

/-- One step. The task goes on with the log when it has made its calls; where it goes on it can be stopped. -/
def step (s : Gated) : Label → Option Gated
  | .tailer now label =>
    if label.isWatch then (s.tailer.step now label).map fun r => { s with tailer := r.1 }
    else if s.lock = .free ∧ s.due = [] then
      (s.tailer.step now label).map fun r => { s with tailer := r.1, due := s.tailer.wishes now label }
    else none
  | .acquire =>
    match s.lock, s.due with
    | .free, call :: due =>
      if s.tailer.attached then some { s with due, lock := .calling call, sink := s.sink.record call }
      else some { s with due, lock := .dropping }
    | _, _ => none
  | .release => if s.lock = .free then none else some { s with lock := .free }
  | .detach => s.detach
  | .unwatch => if s.guarded then none else some { s with tailer := { s.tailer with watch := none, tick := none } }
  | .halt =>
    if s.aborted ∧ s.lock = .free ∧ s.due = [] then some { s with tailer := { s.tailer with stage := .stopped } }
    else none

/-- Where some steps lead to, one after another. -/
def run (s : Gated) : List Label → Option Gated
  | [] => some s
  | label :: labels => (s.step label).bind fun s' => s'.run labels

theorem run_cons {s s' : Gated} {label : Label} {labels : List Label} :
    s.run (label :: labels) = some s' ↔ ∃ next, s.step label = some next ∧ next.run labels = some s' :=
  Option.bind_eq_some_iff

variable {s s' u : Gated} {label : Label} {labels : List Label}

/-- All that a step can do. -/
inductive Turn (s : Gated) : Label → Gated → Prop where
  | watch {now : Nat} {label : Tailer.Label} {t : Tailer} {calls : List SinkCall} (hl : label.isWatch = true)
      (ht : s.tailer.step now label = some (t, calls)) : Turn s (.tailer now label) { s with tailer := t }
  | task {now : Nat} {label : Tailer.Label} {t : Tailer} {calls : List SinkCall} (hl : label.isWatch = false)
      (hlock : s.lock = .free) (hdue : s.due = []) (ht : s.tailer.step now label = some (t, calls)) :
      Turn s (.tailer now label) { s with tailer := t, due := s.tailer.wishes now label }
  | call {call : SinkCall} {due : List SinkCall} (hlock : s.lock = .free) (hdue : s.due = call :: due)
      (ha : s.tailer.attached = true) :
      Turn s .acquire { s with due, lock := .calling call, sink := s.sink.record call }
  | drop {call : SinkCall} {due : List SinkCall} (hlock : s.lock = .free) (hdue : s.due = call :: due)
      (ha : s.tailer.attached = false) : Turn s .acquire { s with due, lock := .dropping }
  | release (hlock : s.lock ≠ .free) : Turn s .release { s with lock := .free }
  | shut (hhand : s.hand = .away) (hlock : s.lock = .free) :
      Turn s .detach { s with tailer := { s.tailer with attached := false }, hand := .ended }
  | letGo (hhand : s.hand = .ended) : Turn s .detach { s with guarded := false, hand := .released }
  | abort (hhand : s.hand = .released) : Turn s .detach { s with aborted := true, hand := .away }
  | unwatch (hguarded : s.guarded = false) :
      Turn s .unwatch { s with tailer := { s.tailer with watch := none, tick := none } }
  | halt (haborted : s.aborted = true) (hlock : s.lock = .free) (hdue : s.due = []) :
      Turn s .halt { s with tailer := { s.tailer with stage := .stopped } }

private theorem turn_of_step (h : s.step label = some s') : s.Turn label s' := by
  cases label with
  | tailer now label =>
    simp only [step] at h
    split at h
    · rename_i hl
      obtain ⟨⟨t, calls⟩, ht, rfl⟩ := Option.map_eq_some_iff.1 h
      exact .watch hl ht
    · rename_i hl
      split at h
      · rename_i hrest
        obtain ⟨⟨t, calls⟩, ht, rfl⟩ := Option.map_eq_some_iff.1 h
        exact .task (Bool.eq_false_iff.2 hl) hrest.1 hrest.2 ht
      · cases h
  | acquire =>
    simp only [step] at h
    split at h
    · rename_i hlock hdue
      split at h
      · rename_i ha
        cases h
        exact .call hlock hdue ha
      · rename_i ha
        cases h
        exact .drop hlock hdue (Bool.eq_false_iff.2 ha)
    · cases h
  | release =>
    simp only [step] at h
    split at h
    · cases h
    · rename_i hlock
      cases h
      exact .release hlock
  | detach =>
    simp only [step, detach] at h
    split at h
    · rename_i hhand
      split at h
      · rename_i hlock
        cases h
        exact .shut hhand hlock
      · cases h
    · rename_i hhand
      cases h
      exact .letGo hhand
    · rename_i hhand
      cases h
      exact .abort hhand
  | unwatch =>
    simp only [step] at h
    split at h
    · cases h
    · rename_i hguarded
      cases h
      exact .unwatch (Bool.eq_false_iff.2 hguarded)
  | halt =>
    simp only [step] at h
    split at h
    · rename_i hrest
      cases h
      exact .halt hrest.1 hrest.2.1 hrest.2.2
    · cases h

/-- A step is one of the turns. -/
theorem step_eq_some_iff : s.step label = some s' ↔ s.Turn label s' := by
  refine ⟨turn_of_step, fun h => ?_⟩
  cases h with
  | watch hl ht => simp [step, hl, ht]
  | task hl hlock hdue ht => simp [step, hl, hlock, hdue, ht]
  | call hlock hdue ha => simp [step, hlock, hdue, ha]
  | drop hlock hdue ha => simp [step, hlock, hdue, ha]
  | release hlock => simp [step, hlock]
  | shut hhand hlock => simp [step, detach, hhand, hlock]
  | letGo hhand => simp [step, detach, hhand]
  | abort hhand => simp [step, detach, hhand]
  | unwatch hguarded => simp [step, hguarded]
  | halt haborted hlock hdue => simp [step, haborted, hlock, hdue]

/-! ### The parts put together -/

/-- The calls that are due are made one after another. -/
theorem run_due (s : Gated) (hlock : s.lock = .free) :
    s.run (s.due.flatMap fun _ => [.acquire, .release]) =
      some { s with due := [], sink := s.sink.recordAll (s.tailer.gate s.due) } := by
  obtain ⟨t, sink, due, lock, hand, guarded, aborted⟩ := s
  cases hlock
  induction due generalizing sink with
  | nil =>
    rw [Tailer.gate_nil]
    rfl
  | cons call due ih =>
    simp only [List.flatMap_cons, List.cons_append, List.nil_append]
    cases ha : t.attached with
    | true =>
      have hrest := ih (sink.record call)
      simp only [Tailer.gate, ha, if_true] at hrest ⊢
      simp only [run, step, ha, if_true, Option.bind_some, reduceCtorEq, if_false]
      exact hrest
    | false =>
      have hrest := ih sink
      simp only [Tailer.gate, ha, Bool.false_eq_true, if_false] at hrest ⊢
      simp only [run, step, ha, Bool.false_eq_true, if_false, Option.bind_some, reduceCtorEq]
      exact hrest

/-- A step of a tailer is a step of the task that is followed by its calls, if nobody detaches the tailer meanwhile. -/
theorem run_step (s : Gated) (hlock : s.lock = .free) (hdue : s.due = []) (ht : s.tailer.stage.hasAttached = true)
    {now : Nat} {label : Tailer.Label} {t' : Tailer} {calls : List SinkCall}
    (h : s.tailer.step now label = some (t', calls)) :
    s.run (.tailer now label :: (s.tailer.wishes now label).flatMap fun _ => [.acquire, .release]) =
      some { s with tailer := t', sink := s.sink.recordAll calls } := by
  rw [run]
  by_cases hl : label.isWatch = true
  · have hcalls : calls = [] := (Tailer.step_watch (Tailer.eq_of_isWatch hl) h).2.2.2.2.2
    rw [Tailer.wishes_watch hl, hcalls]
    simp only [step, hl, if_true, h, Option.map_some, Option.bind_some]
    rfl
  · have hl : label.isWatch = false := Bool.eq_false_iff.2 hl
    obtain ⟨-, -, ha, hcalls⟩ := Tailer.kept_of_task ht hl h
    have hrun := run_due { s with tailer := t', due := s.tailer.wishes now label } hlock
    simp only [step, hl, Bool.false_eq_true, if_false, if_pos (And.intro hlock hdue), h, Option.map_some,
      Option.bind_some]
    rw [hrun, hcalls]
    simp only [Tailer.gate, ha, hdue]

/-- A detach that nobody disturbs, with all that follows from it, detaches the tailer. -/
theorem run_detach (s : Gated) (hlock : s.lock = .free) (hdue : s.due = []) (hhand : s.hand = .away) :
    s.run [.detach, .detach, .detach, .unwatch, .halt] =
      some { s with tailer := s.tailer.detach, guarded := false, aborted := true } := by
  obtain ⟨t, sink, due, lock, hand, guarded, aborted⟩ := s
  cases hlock
  cases hdue
  cases hhand
  rfl

/-- Whoever detaches a tailer waits for nothing but a call in progress. -/
theorem exists_detached (s : Gated) :
    ∃ labels s', (∀ label ∈ labels, label = .release ∨ label = .detach) ∧ s.run labels = some s' ∧
      s'.aborted = true := by
  have hfree (s : Gated) (hlock : s.lock = .free) : ∃ labels s',
      (∀ label ∈ labels, label = .release ∨ label = .detach) ∧ s.run labels = some s' ∧ s'.aborted = true := by
    cases hhand : s.hand with
    | away =>
      refine ⟨[.detach, .detach, .detach], { s with
        tailer := { s.tailer with attached := false }, guarded := false, aborted := true }, by simp, ?_, rfl⟩
      simp [run, step, detach, hhand, hlock]
    | ended =>
      refine ⟨[.detach, .detach], { s with guarded := false, aborted := true, hand := .away }, by simp, ?_, rfl⟩
      simp [run, step, detach, hhand]
    | released =>
      refine ⟨[.detach], { s with aborted := true, hand := .away }, by simp, ?_, rfl⟩
      simp [run, step, detach, hhand]
  by_cases hlock : s.lock = .free
  · exact hfree s hlock
  · obtain ⟨labels, s', hlabels, hrun, haborted⟩ := hfree { s with lock := .free } rfl
    have hfirst : s.step .release = some { s with lock := .free } := if_neg hlock
    exact ⟨.release :: labels, s', by simpa using hlabels, run_cons.2 ⟨_, hfirst, hrun⟩, haborted⟩

/-! ### A run with a detach and the run without it -/

/-- The flag of the one is down, and otherwise it is where the other one is, but that its sink gets nothing any more and
that its task or its watch may have come to its end. -/
structure Behind (s u : Gated) : Prop where
  tailer : s.tailer.Trails u.tailer
  due : s.due = u.due
  lock : s.lock = .free ∧ u.lock = .free ∨ s.lock = .dropping ∧ u.lock ≠ .free
  sink : s.sink.calls <:+ u.sink.calls
  guarded : s.hand = .released ∨ s.aborted = true → s.guarded = false

/-- Two tailers that are the same as long as no detach of the one has put the flag down. -/
structure Beside (s u : Gated) : Prop where
  attached : u.tailer.stage.hasAttached = true
  near : s = u ∧ s.hand = .away ∧ s.guarded = true ∧ s.aborted = false ∨ s.Behind u

theorem Beside.sink (h : s.Beside u) : s.sink.calls <:+ u.sink.calls := by
  obtain ⟨rfl, -⟩ | hbehind := h.near
  · exact List.suffix_refl _
  · exact hbehind.sink

theorem hasAttached_of_step (ht : s.tailer.stage.hasAttached = true) (hstep : s.step label = some s') :
    s'.tailer.stage.hasAttached = true := by
  cases step_eq_some_iff.1 hstep with
  | watch _ ht' | task _ _ _ ht' => exact Tailer.hasAttached_of_step ht ht'
  | halt _ _ _ => rfl
  | _ => exact ht

/-- What the one may do, the other may do too. -/
theorem Behind.step (h : s.Behind u) (hu : u.tailer.stage.hasAttached = true) (hl : label.isDetaching = false)
    (hstep : s.step label = some s') : ∃ u', u.step label = some u' ∧ s'.Behind u' := by
  have hfree (hlock : s.lock = .free) : u.lock = .free := by
    obtain ⟨-, hfree⟩ | ⟨hheld, -⟩ := h.lock
    · exact hfree
    · rw [hlock] at hheld
      cases hheld
  cases step_eq_some_iff.1 hstep with
  | watch hwatch ht =>
    obtain ⟨u', calls', hu', htrails⟩ := h.tailer.step_watch hwatch ht
    exact ⟨_, step_eq_some_iff.2 (.watch hwatch hu'), htrails, h.due, h.lock, h.sink, h.guarded⟩
  | task htask hlock hdue ht =>
    obtain ⟨u', calls', hu', htrails, hwishes⟩ := h.tailer.step_task hu htask ht
    exact ⟨_, step_eq_some_iff.2 (.task htask (hfree hlock) (h.due ▸ hdue) hu'), htrails, hwishes, h.lock, h.sink,
      h.guarded⟩
  | call _ _ ha =>
    rw [h.tailer.attached_eq] at ha
    cases ha
  | drop hlock hdue _ =>
    have hdue' := h.due.symm.trans hdue
    have hsink := h.sink
    cases ha : u.tailer.attached with
    | true =>
      exact ⟨_, step_eq_some_iff.2 (.call (hfree hlock) hdue' ha), h.tailer, rfl, Or.inr ⟨rfl, by simp⟩,
        hsink.trans (List.suffix_cons _ _), h.guarded⟩
    | false =>
      exact ⟨_, step_eq_some_iff.2 (.drop (hfree hlock) hdue' ha), h.tailer, rfl, Or.inr ⟨rfl, by simp⟩, hsink,
        h.guarded⟩
  | release hheld =>
    obtain ⟨hlock, -⟩ | ⟨-, hlock⟩ := h.lock
    · exact absurd hlock hheld
    · exact ⟨_, step_eq_some_iff.2 (.release hlock), h.tailer, h.due, Or.inl ⟨rfl, rfl⟩, h.sink, h.guarded⟩
  | shut _ _ | letGo _ | abort _ | unwatch _ | halt _ _ _ => cases hl

/-- What the one may do, the other may do too. -/
theorem Beside.step (h : s.Beside u) (hl : label.isDetaching = false) (hstep : s.step label = some s') :
    ∃ u', u.step label = some u' ∧ s'.Beside u' := by
  obtain ⟨rfl, hhand⟩ | hbehind := h.near
  · refine ⟨s', hstep, hasAttached_of_step h.attached hstep, Or.inl ⟨rfl, ?_⟩⟩
    cases step_eq_some_iff.1 hstep with
    | shut _ _ | letGo _ | abort _ | unwatch _ | halt _ _ _ => cases hl
    | _ => exact hhand
  · obtain ⟨u', hu', hbehind'⟩ := hbehind.step h.attached hl hstep
    exact ⟨u', hu', hasAttached_of_step h.attached hu', Or.inr hbehind'⟩

/-- A part of a detach, or what follows from it, leaves the one where it was beside the other. -/
theorem Beside.detaching (h : s.Beside u) (hl : label.isDetaching = true) (hstep : s.step label = some s') :
    s'.Beside u := by
  refine ⟨h.attached, Or.inr ?_⟩
  cases step_eq_some_iff.1 hstep with
  | watch _ _ | task _ _ _ _ | call _ _ _ | drop _ _ _ | release _ => cases hl
  | shut _ hfree =>
    obtain ⟨rfl, -, -, haborted⟩ | hbehind := h.near
    · exact ⟨.of_self _, rfl, Or.inl ⟨hfree, hfree⟩, List.suffix_refl _, by simp [haborted]⟩
    · exact ⟨hbehind.tailer.shut, hbehind.due, hbehind.lock, hbehind.sink,
        fun hgone => hbehind.guarded (hgone.elim (fun hnever => by cases hnever) Or.inr)⟩
  | letGo hended =>
    obtain ⟨-, haway, -⟩ | hbehind := h.near
    · rw [hended] at haway
      cases haway
    · exact ⟨hbehind.tailer, hbehind.due, hbehind.lock, hbehind.sink, fun _ => rfl⟩
  | abort hreleased =>
    obtain ⟨-, haway, -⟩ | hbehind := h.near
    · rw [hreleased] at haway
      cases haway
    · exact ⟨hbehind.tailer, hbehind.due, hbehind.lock, hbehind.sink, fun _ => hbehind.guarded (Or.inl hreleased)⟩
  | unwatch hguarded =>
    obtain ⟨-, -, hyes, -⟩ | hbehind := h.near
    · rw [hguarded] at hyes
      cases hyes
    · exact ⟨hbehind.tailer.unwatched, hbehind.due, hbehind.lock, hbehind.sink, hbehind.guarded⟩
  | halt haborted _ _ =>
    obtain ⟨-, -, -, hno⟩ | hbehind := h.near
    · rw [haborted] at hno
      cases hno
    · exact ⟨hbehind.tailer.stopped, hbehind.due, hbehind.lock, hbehind.sink, hbehind.guarded⟩

/-- A run goes on beside itself without what belongs to a detach. -/
theorem Beside.run (h : s.Beside u) (hrun : s.run labels = some s') :
    ∃ u', u.run (labels.filter fun label => !label.isDetaching) = some u' ∧ s'.Beside u' := by
  induction labels generalizing s u with
  | nil =>
    cases hrun
    exact ⟨u, rfl, h⟩
  | cons label labels ih =>
    obtain ⟨next, hstep, hrest⟩ := run_cons.1 hrun
    cases hl : label.isDetaching with
    | true =>
      rw [List.filter_cons_of_neg (by simp [hl])]
      exact ih (h.detaching hl hstep) hrest
    | false =>
      rw [List.filter_cons_of_pos (by simp [hl])]
      obtain ⟨next', hstep', hbeside⟩ := h.step hl hstep
      obtain ⟨u', hrest', hbeside'⟩ := ih hbeside hrest
      exact ⟨u', run_cons.2 ⟨next', hstep', hrest'⟩, hbeside'⟩

/-- A sink forgets nothing. -/
theorem suffix_of_run (hrun : s.run labels = some s') : s.sink.calls <:+ s'.sink.calls := by
  induction labels generalizing s with
  | nil =>
    cases hrun
    exact List.suffix_refl _
  | cons label labels ih =>
    obtain ⟨next, hstep, hrest⟩ := run_cons.1 hrun
    refine List.IsSuffix.trans ?_ (ih hrest)
    cases step_eq_some_iff.1 hstep with
    | call _ _ _ => exact List.suffix_cons _ _
    | _ => exact List.suffix_refl _

/-! ### After a detach -/

/-- A detach has returned, and no call is in progress. -/
structure Over (s : Gated) : Prop where
  shut : s.tailer.attached = false
  guarded : s.guarded = false
  aborted : s.aborted = true
  call : s.lock.call? = none

/-- How far a later detach has got matters only to that detach. -/
private theorem step_hand (hl : label ≠ .detach) (hstep : s.step label = some s') (hand : Hand) :
    ({ s with hand } : Gated).step label = some { s' with hand } := by
  cases step_eq_some_iff.1 hstep with
  | watch hwatch ht => exact step_eq_some_iff.2 (.watch hwatch ht)
  | task htask hlock hdue ht => exact step_eq_some_iff.2 (.task htask hlock hdue ht)
  | call hlock hdue ha => exact step_eq_some_iff.2 (.call hlock hdue ha)
  | drop hlock hdue ha => exact step_eq_some_iff.2 (.drop hlock hdue ha)
  | release hlock => exact step_eq_some_iff.2 (.release hlock)
  | unwatch hguarded => exact step_eq_some_iff.2 (.unwatch hguarded)
  | halt haborted hlock hdue => exact step_eq_some_iff.2 (.halt haborted hlock hdue)
  | shut _ _ | letGo _ | abort _ => exact absurd rfl hl

/-- Once a detach has returned the sink gets nothing any more, and a later detach finds nothing to do. -/
theorem Over.step (h : s.Over) (ht : s.tailer.stage.hasAttached = true) (hstep : s.step label = some s') :
    s'.Over ∧ s'.sink = s.sink ∧ (label = .detach → s' = { s with hand := s'.hand }) := by
  obtain ⟨hshut, hguarded, haborted, hcall⟩ := h
  have hself : ({ s.tailer with attached := false } : Tailer) = s.tailer := by rw [← hshut]
  cases step_eq_some_iff.1 hstep with
  | watch hwatch ht' =>
    obtain ⟨-, -, -, ha, -⟩ := Tailer.step_watch (Tailer.eq_of_isWatch hwatch) ht'
    exact ⟨⟨ha.trans hshut, hguarded, haborted, hcall⟩, rfl, by simp⟩
  | task htask _ _ ht' =>
    obtain ⟨-, -, ha, -⟩ := Tailer.kept_of_task ht htask ht'
    exact ⟨⟨ha.trans hshut, hguarded, haborted, hcall⟩, rfl, by simp⟩
  | call _ _ ha =>
    rw [hshut] at ha
    cases ha
  | drop _ _ _ => exact ⟨⟨hshut, hguarded, haborted, rfl⟩, rfl, by simp⟩
  | release _ => exact ⟨⟨hshut, hguarded, haborted, rfl⟩, rfl, by simp⟩
  | shut _ _ => exact ⟨⟨rfl, hguarded, haborted, hcall⟩, rfl, fun _ => by rw [hself]⟩
  | letGo _ => exact ⟨⟨hshut, rfl, haborted, hcall⟩, rfl, fun _ => by rw [← hguarded]⟩
  | abort _ => exact ⟨⟨hshut, hguarded, rfl, hcall⟩, rfl, fun _ => by rw [← haborted]⟩
  | unwatch _ => exact ⟨⟨hshut, hguarded, haborted, hcall⟩, rfl, by simp⟩
  | halt _ _ _ => exact ⟨⟨hshut, hguarded, haborted, hcall⟩, rfl, by simp⟩

/-- Whatever happens after a detach, the sink gets nothing, and later detaches might as well be left out. -/
theorem Over.run (h : s.Over) (ht : s.tailer.stage.hasAttached = true) (hrun : s.run labels = some s') :
    s'.Over ∧ s'.sink = s.sink ∧
      ∀ hand, ({ s with hand } : Gated).run (labels.filter fun label => label ≠ .detach) = some { s' with hand } := by
  induction labels generalizing s with
  | nil =>
    cases hrun
    exact ⟨h, rfl, fun _ => rfl⟩
  | cons label labels ih =>
    obtain ⟨next, hstep, hrest⟩ := run_cons.1 hrun
    obtain ⟨hover, hsink, hdetach⟩ := h.step ht hstep
    obtain ⟨hover', hsink', hrun'⟩ := ih hover (hasAttached_of_step ht hstep) hrest
    refine ⟨hover', hsink'.trans hsink, fun hand => ?_⟩
    by_cases hl : label = .detach
    · rw [List.filter_cons_of_neg (by simp [hl]), ← hrun' hand, hdetach hl]
    · rw [List.filter_cons_of_pos (by simp [hl]), run_cons]
      exact ⟨_, step_hand hl hstep hand, hrun' hand⟩

/-- Whatever a tailer does that has attached, and wherever in it a detach takes place: what its sink has got is a first
part of what it would have got without the detach, however that run went on. Once a detach has returned no call is in
progress, none is made any more, and the tailer stays detached; it makes no difference whether it is detached again. -/
theorem detached {t : Tailer} (ht : t.stage.hasAttached = true) (sink : Sink)
    (hrun : (start t sink).run labels = some s) :
    (∃ u, (start t sink).run (labels.filter fun label => !label.isDetaching) = some u ∧
      ∀ more u', u.run more = some u' → s.sink.calls.reverse <+: u'.sink.calls.reverse) ∧
    (s.aborted = true → ∀ more s', s.run more = some s' →
      s'.lock.call? = none ∧ s'.sink = s.sink ∧ s'.tailer.attached = false ∧
        s.run (more.filter fun label => label ≠ .detach) = some { s' with hand := s.hand }) := by
  have hbegan : (start t sink).Beside (start t sink) := ⟨ht, Or.inl ⟨rfl, rfl, rfl, rfl⟩⟩
  obtain ⟨u, hu, hbeside⟩ := hbegan.run hrun
  refine ⟨⟨u, hu, fun more u' hmore => ?_⟩, fun haborted more s' hmore => ?_⟩
  · exact List.reverse_prefix.2 (hbeside.sink.trans (suffix_of_run hmore))
  · obtain ⟨-, -, -, hno⟩ | hbehind := hbeside.near
    · rw [haborted] at hno
      cases hno
    · have hcall : s.lock.call? = none := by
        obtain ⟨hlock, -⟩ | ⟨hlock, -⟩ := hbehind.lock
        · rw [hlock]
          rfl
        · rw [hlock]
          rfl
      have hover : s.Over :=
        ⟨hbehind.tailer.attached_eq, hbehind.guarded (Or.inr haborted), haborted, hcall⟩
      obtain ⟨hover', hsink, hrest⟩ := hover.run (hbehind.tailer.hasAttached hbeside.attached) hmore
      exact ⟨hover'.call, hsink, hover'.shut, hrest s.hand⟩

/-- A tailer that has attached to an empty log. -/
def someTailer : Tailer :=
  { path := .ofString "/a", debounce := ⟨0⟩, capacity := 1, stage := .idle, watch := some .manual }

/-- The answers that the system gives to a task, one after another. -/
private def answers (as : List Tailer.Answer) : List Label := as.map fun answer => .tailer 0 (.system answer)

/-- A log is read in two requests. The tailer is detached after the call for the first one, when the call for the second
one is due. -/
def parting : List Label :=
  [.tailer 0 .event, .tailer 0 .proceed, .tailer 0 .proceed, .tailer 0 .proceed] ++
    answers [.size 70000, .opened (some 0), .content .placed, .content (.bytes [0x68]), .content (.bytes [])] ++
    [.acquire, .release] ++ answers [.content (.bytes [0x69]), .content (.bytes [])] ++
    [.detach, .acquire, .release, .detach, .detach, .halt]

/-- The call for the second request is dropped; without the detach it would have been made. -/
theorem detached_between_calls : ∃ s u, (start someTailer .empty).run parting = some s ∧ s.aborted = true ∧
    s.sink.calls.reverse = [.append "h"] ∧
    (start someTailer .empty).run (parting.filter fun label => !label.isDetaching) = some u ∧
    u.sink.calls.reverse = [.append "h", .append "i"] ∧ s.sink.calls.reverse <+: u.sink.calls.reverse ∧
    ∀ more s', s.run more = some s' → s'.sink = s.sink ∧ s'.tailer.attached = false := by
  have hparting : ((start someTailer .empty).run parting).map (fun s => (s.aborted, s.sink.calls.reverse)) =
      some (true, [.append "h"]) := by decide +kernel
  have hwithout : ((start someTailer .empty).run (parting.filter fun label => !label.isDetaching)).map
      (fun u => u.sink.calls.reverse) = some [.append "h", .append "i"] := by decide +kernel
  obtain ⟨s, hrun, hs⟩ := Option.map_eq_some_iff.1 hparting
  obtain ⟨u, hu, hcalls⟩ := Option.map_eq_some_iff.1 hwithout
  obtain ⟨haborted, hshown⟩ := Prod.mk.inj hs
  obtain ⟨⟨u', hu', hfirst⟩, hover⟩ := detached rfl .empty hrun
  obtain rfl : u = u' := Option.some.inj (hu.symm.trans hu')
  refine ⟨s, u, hrun, haborted, hshown, hu, hcalls, hfirst [] u rfl, fun more s' hmore => ?_⟩
  obtain ⟨-, hsink, hshut, -⟩ := hover haborted more s' hmore
  exact ⟨hsink, hshut⟩

end Gated

end Attendant.Log

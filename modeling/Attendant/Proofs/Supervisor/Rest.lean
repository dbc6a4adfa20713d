import Attendant.Proofs.Channel.Rest
import Attendant.Proofs.Termination
import Attendant.Supervisor
import Mathlib.Data.List.TakeDrop

/-!
# When a supervisor waits

Some things happen by themselves: the call under way goes on, the tasks of the workers go on, a signal is delivered, and
a process ends to which the signal has been sent that it cannot refuse. Workers may do anything besides, and so may those
who use a channel, but nobody waits for them to do it at once. `AtRest` says that nothing is left that happens by
itself; as for a single channel, that comes about at every instant (`comes_to_rest`).
-/

namespace Attendant

/-- A bound on the steps that a termination can still make, and on those that others can make because of it. -/
def Termination.Stage.load : Termination.Stage → Nat
  | .waiting _ => 12
  | .asking => 11
  | .yielding _ => 10
  | .killing => 9
  | .reaping => 7
  | .done _ _ | .failed => 5

/-- Each step of a termination takes something off the load, and more if the process can then only end. -/
theorem Termination.load_lt_of_step {now : Nat} {child : Option ExitStatus} {t t' : Termination}
    {label : Termination.Label} (h : t.step now child label = some t') :
    t'.stage.load + (if t'.hasKilled = true then 1 else 0) < t.stage.load := by
  obtain ⟨-, hmove⟩ := move_of_step h
  obtain ⟨_, stage⟩ := t
  obtain ⟨_, stage'⟩ := t'
  cases hmove <;> simp [Termination.Stage.load, hasKilled]

/-- The same for a call; a caller that it brings counts for eighty. -/
def Supervisor.Stage.load : Supervisor.Stage → Nat
  | .free | .spawning _ => 0
  | .clearing _ _ | .discarding _ _ => 1
  | .checking _ | .confirming _ _ => 3
  | .ending _ termination _ => termination.stage.load
  | .closing _ _ _ => 13
  | .greeting _ _ => 84
  | .leaving _ _ _ => 94
  | .asking _ _ _ => 175
  | .taking _ => 256

/-- The same for whoever listens to the complaints of a worker. -/
def ListenerTask.load (complaints : Pipe) : ListenerTask → Nat
  | .listening _ => complaints.bytes.length + 1
  | .ended | .stopped => 0

namespace Worker

/-- The same for a worker, whose process may have to end yet. -/
def load (w : Worker) : Nat :=
  w.channel.load + w.listener.load w.complaints + if w.dropped = true ∧ w.child = none then 1 else 0

theorem abort_load_le (w : Worker) : w.abort.load ≤ w.load := by
  have hchannel := w.channel.abort_load_le
  unfold abort
  cases hl : w.listener with
  | listening held | ended | stopped =>
    simp only [load, hl, ListenerTask.load]
    omega

private theorem kill_load_le (w : Worker) : w.kill.load ≤ w.load + 1 := by
  simp only [load, kill]
  split <;> split <;> omega

private theorem abort_kill_load_le (w : Worker) : w.abort.kill.load ≤ w.load + 1 :=
  Nat.le_trans w.abort.kill_load_le (Nat.succ_le_succ w.abort_load_le)

/-- Whoever listens has less to hear afterwards. -/
theorem load_lt_of_listen {w w' : Worker} {line : Option String} (h : w.listen = some (w', line)) :
    w'.load < w.load := by
  unfold listen at h
  cases hl : w.listener with
  | ended => simp [hl] at h
  | stopped => simp [hl] at h
  | listening held =>
    simp only [hl] at h
    split at h
    · rename_i hbytes
      split at h
      · rename_i start b rest hspan
        have hrest : rest.length < w.complaints.bytes.length := by
          rw [List.span_eq_takeWhile_dropWhile] at hspan
          have hdrop := congrArg (fun p => p.2.length) hspan
          have hle := (List.dropWhile_sublist (fun x : UInt8 => x != 10) (l := w.complaints.bytes)).length_le
          simp only [List.length_cons] at hdrop
          omega
        split at h
        · cases h
          simp only [load, hl, ListenerTask.load]
          omega
        · cases h
          simp only [load, hl, ListenerTask.load]
          omega
      · cases h
        have hpos : 0 < w.complaints.bytes.length := List.length_pos_iff.2 (by simpa using hbytes)
        simp only [load, hl, ListenerTask.load, Pipe.drain, List.length_nil]
        omega
    · split at h
      · cases h
        simp only [load, hl, ListenerTask.load]
        omega
      · cases h

end Worker

namespace Supervisor

/-- What happens by itself. -/
inductive Due (s : Supervisor) : Label → Prop where
  | proceed : Due s .proceed
  | delivered : Due s (.answered .delivered)
  | channel (worker : Nat) (label : Channel.Label) : Due s (.channel worker label)
  | listener (worker : Nat) : Due s (.listener worker)
  | exited {worker : Nat} {w : Worker} (status : ExitStatus) (hw : s.workers[worker]? = some w)
      (hd : w.dropped = true) : Due s (.exited worker status)

/-- Nothing is left that happens by itself. -/
def AtRest (now : Nat) (s : Supervisor) : Prop := ∀ label, Due s label → s.step now label = none

section

variable {now worker : Nat} {s : Supervisor} {w : Worker}

theorem AtRest.channel (h : AtRest now s) (hw : s.workers[worker]? = some w) : w.channel.AtRest now := by
  have hnone (label : Channel.Label) : w.channel.step now s.status label = none := by
    have hstep := h (.channel worker label) (.channel worker label)
    simp only [step, hw, Option.bind_eq_bind, Option.bind_some, Option.pure_def] at hstep
    cases hnext : w.channel.step now s.status label with
    | none => rfl
    | some next =>
      rw [hnext] at hstep
      cases hstep
  exact Channel.atRest_of_step hnone

/-- A process that cannot refuse to end has ended. -/
theorem AtRest.reaped (h : AtRest now s) (hw : s.workers[worker]? = some w) (hd : w.dropped = true) :
    (s.childOf worker).isSome = true := by
  have hstep := h (.exited worker (.signal 9)) (.exited _ hw hd)
  simp only [step] at hstep
  split at hstep
  · assumption
  · cases hstep

/-- Nothing is left when the call under way waits, and so does everyone at the workers. -/
theorem atRest_of_workers (hproceed : s.proceed now = none) (hanswer : s.step now (.answered .delivered) = none)
    (hworkers : ∀ (worker : Nat) (w : Worker), s.workers[worker]? = some w →
      w.channel.AtRest now ∧ w.listen = none ∧ (w.dropped = true → w.child.isSome = true)) : AtRest now s := by
  intro label hdue
  cases hdue with
  | proceed => exact hproceed
  | delivered => exact hanswer
  | channel worker label =>
    cases hw : s.workers[worker]? with
    | none => simp [step, hw]
    | some w =>
      have hstep : w.channel.step now s.status label = none := (hworkers worker w hw).1 s.status label
      simp [step, hw, hstep]
  | listener worker =>
    cases hw : s.workers[worker]? with
    | none => simp [step, hw]
    | some w => simp [step, hw, (hworkers worker w hw).2.1]
  | @exited worker w status hw hd =>
    have hchild : (s.childOf worker).isSome = true := by
      rw [childOf, hw]
      exact (hworkers worker w hw).2.2 hd
    rw [step, if_pos hchild]

end

/-! ### Nothing goes on for ever -/

/-- A bound on the steps that can still be made at the workers. -/
def tasks (s : Supervisor) : Nat := (s.workers.map Worker.load).sum

/-- A bound on the steps that can still be made by themselves while time stands still. -/
def load (s : Supervisor) : Nat := s.tasks + s.stage.load

section

variable {now : Nat} {s s' : Supervisor}

private theorem tasks_modify (s : Supervisor) {worker : Nat} {w : Worker} (hw : s.workers[worker]? = some w)
    (f : Worker → Worker) : (s.modify worker f).tasks + w.load = s.tasks + (f w).load :=
  Channel.sum_map_modify Worker.load hw f

private theorem tasks_modify_le (s : Supervisor) (worker : Nat) {f : Worker → Worker} {extra : Nat}
    (hf : ∀ w, (f w).load ≤ w.load + extra) : (s.modify worker f).tasks ≤ s.tasks + extra := by
  cases hw : s.workers[worker]? with
  | none =>
    have hsame : s.workers.modify worker f = s.workers := by
      rw [List.modify_eq_set_getElem?, hw]
      rfl
    simp only [tasks, modify, hsame]
    omega
  | some w =>
    have hsum := tasks_modify s hw f
    have hless := hf w
    omega

private theorem tasks_enter_le (s : Supervisor) (worker : Nat) (job : Job) :
    (s.enter worker job).1.tasks ≤ s.tasks + 80 := by
  unfold Supervisor.enter
  split
  · rename_i w hw
    have hsum := tasks_modify s hw fun w' => { w' with channel := (w.channel.enter job).1 }
    have hload := w.channel.enter_load job
    simp only [Worker.load] at hsum
    simp only
    omega
  · exact Nat.le_add_right _ _

private theorem load_stopped_lt (s : Supervisor) (next : Option Launch) : (s.stopped next).load < s.tasks + 4 := by
  cases next <;> simp only [stopped, finish, load, tasks, Stage.load] <;> omega

private theorem load_check_lt (s : Supervisor) (launch : Launch) : (s.check launch).load < s.tasks + 3 := by
  have hcleared (stale : Nat) : (s.modify stale fun w => w.abort.kill).tasks ≤ s.tasks + 1 :=
    tasks_modify_le s stale Worker.abort_kill_load_le
  unfold check
  split
  · simp only [finish, load, tasks, Stage.load]; omega
  · split
    · simp only [finish, load, tasks, Stage.load]; omega
    · split
      · simp only [finish, load, tasks, Stage.load]; omega
      · split
        · rename_i stale _
          have hless := hcleared stale
          simp only [load, tasks, Stage.load] at hless ⊢
          omega
        · simp only [load, tasks, Stage.load]; omega

private theorem load_discard_lt (s : Supervisor) (worker : Nat) (reason : String) :
    (s.discard worker reason).load < s.tasks + 3 := by
  have hless := tasks_modify_le s worker Worker.abort_kill_load_le
  simp only [discard, load, tasks, Stage.load] at hless ⊢
  omega

private theorem load_welcome_lt (s : Supervisor) (worker : Nat) : (s.welcome worker).load < s.tasks + 3 := by
  unfold welcome
  split
  · simp only [setStatus, finish, load, tasks, Stage.load]; omega
  · exact load_discard_lt s worker _
  · exact load_discard_lt s worker _

private theorem load_enter_lt (s : Supervisor) (worker : Nat) (job : Job) (stage : Stage) :
    load { (s.enter worker job).1 with stage } < s.tasks + (stage.load + 81) := by
  have hless := tasks_enter_le s worker job
  simp only [load, tasks] at hless ⊢
  omega

private theorem load_take_lt (s : Supervisor) (next : Option Launch) : (s.take next).load < s.tasks + 256 := by
  unfold take
  split
  · refine Nat.lt_of_lt_of_le (load_stopped_lt _ next) ?_
    split <;> simp only [setStatus, tasks] <;> omega
  · rename_i worker _
    simp only
    split
    · exact load_enter_lt ({ s with current := none }.setStatus .stopping) worker _ _
    · exact Nat.lt_of_lt_of_le (load_enter_lt ({ s with current := none }.setStatus .stopping) worker _ _)
        (Nat.add_le_add_left (by simp [Stage.load]) _)

/-- The call that goes on takes more off the load than it puts on it. -/
private theorem load_lt_of_proceed (h : s.proceed now = some s') : s'.load < s.load := by
  unfold Supervisor.proceed at h
  have hload (stage : Stage) (hs : s.stage = stage) : s.load = s.tasks + stage.load := by rw [load, hs]
  cases hs : s.stage with
  | free => simp [hs] at h
  | spawning launch => simp [hs] at h
  | checking launch =>
    simp only [hs] at h
    cases h
    rw [hload _ hs]
    exact load_check_lt s launch
  | clearing launch worker =>
    simp only [hs] at h
    obtain ⟨status, -, rfl⟩ := Option.map_eq_some_iff.1 h
    rw [hload _ hs]
    exact Nat.lt_succ_self _
  | greeting worker key =>
    simp only [hs] at h
    obtain ⟨outcome, -, rfl⟩ := Option.map_eq_some_iff.1 h
    rw [hload _ hs]
    cases outcome with
    | ok v => exact load_enter_lt s worker _ _
    | error fault => exact Nat.lt_of_lt_of_le (load_discard_lt _ worker _) (Nat.add_le_add_left (by simp [Stage.load]) _)
  | confirming worker key =>
    simp only [hs] at h
    obtain ⟨outcome, -, rfl⟩ := Option.map_eq_some_iff.1 h
    rw [hload _ hs]
    cases outcome with
    | ok v => exact load_welcome_lt s worker
    | error fault => exact load_discard_lt _ worker _
  | discarding worker fault =>
    simp only [hs] at h
    obtain ⟨status, -, rfl⟩ := Option.map_eq_some_iff.1 h
    rw [hload _ hs]
    exact Nat.lt_succ_self _
  | taking next =>
    simp only [hs] at h
    cases h
    rw [hload _ hs]
    exact load_take_lt s next
  | asking worker key next =>
    simp only [hs] at h
    obtain ⟨outcome, -, rfl⟩ := Option.map_eq_some_iff.1 h
    rw [hload _ hs]
    cases outcome with
    | ok v => exact load_enter_lt s worker _ _
    | error fault =>
      exact Nat.lt_of_lt_of_le (load_enter_lt s worker _ _) (Nat.add_le_add_left (by simp [Stage.load]) _)
  | leaving worker key next =>
    simp only [hs] at h
    obtain ⟨outcome, -, rfl⟩ := Option.map_eq_some_iff.1 h
    rw [hload _ hs]
    exact load_enter_lt s worker _ _
  | closing worker key next =>
    simp only [hs] at h
    obtain ⟨outcome, -, rfl⟩ := Option.map_eq_some_iff.1 h
    rw [hload _ hs]
    exact Nat.lt_succ_self _
  | ending worker termination next =>
    simp only [hs] at h
    rw [hload _ hs]
    split at h
    · rename_i hstage
      cases h
      refine Nat.lt_of_lt_of_le (load_stopped_lt _ next) ?_
      have hless : (s.modify worker Worker.abort).tasks ≤ s.tasks + 0 := tasks_modify_le s worker Worker.abort_load_le
      simp only [setStatus, tasks, Stage.load, hstage, Termination.Stage.load] at hless ⊢
      omega
    · rename_i hstage
      cases h
      refine Nat.lt_of_lt_of_le (load_stopped_lt _ next) ?_
      have hless := tasks_modify_le s worker Worker.abort_kill_load_le
      simp only [setStatus, tasks, Stage.load, hstage, Termination.Stage.load] at hless ⊢
      omega
    · obtain ⟨after, hafter, rfl⟩ := Option.map_eq_some_iff.1 h
      have hlighter := Termination.load_lt_of_step hafter
      have hkilled := tasks_modify_le s worker Worker.kill_load_le
      split
      · rename_i hk
        rw [if_pos hk] at hlighter
        simp only [load, tasks, modify, Stage.load] at hkilled ⊢
        omega
      · simp only [load, tasks, Stage.load]
        omega

/-- Whatever happens by itself takes something off the load. -/
theorem load_lt_of_due {label : Label} (hdue : Due s label) (h : s.step now label = some s') : s'.load < s.load := by
  cases hdue with
  | proceed => exact load_lt_of_proceed h
  | delivered =>
    simp only [step] at h
    split at h
    · rename_i worker termination next hs
      obtain ⟨after, hafter, rfl⟩ := Option.map_eq_some_iff.1 h
      have hlighter := Termination.load_lt_of_step hafter
      simp only [load, tasks, hs, Stage.load]
      omega
    · cases h
  | channel worker label =>
    simp only [step, Option.bind_eq_bind, Option.bind_eq_some_iff, Option.pure_def, Option.some.injEq] at h
    obtain ⟨w, hw, next, hnext, rfl⟩ := h
    have hlighter := Channel.load_lt_of_step hnext
    have hsum := tasks_modify s hw fun w => { w with channel := next.2 }
    simp only [load, tasks, modify, Worker.load] at hsum ⊢
    omega
  | listener worker =>
    simp only [step, Option.bind_eq_bind, Option.bind_eq_some_iff, Option.pure_def, Option.some.injEq] at h
    obtain ⟨w, hw, next, hnext, rfl⟩ := h
    have hlighter := Worker.load_lt_of_listen hnext
    have hsum := tasks_modify s hw fun _ => next.1
    simp only [load, tasks, modify] at hsum ⊢
    omega
  | @exited worker w status hw hd =>
    simp only [step] at h
    split at h
    · cases h
    · rename_i hchild
      cases h
      have hnone : w.child = none := by simpa [childOf, hw] using hchild
      have hsum := tasks_modify s hw fun w => { w with child := some status }
      simp only [load, tasks, modify, Worker.load, hd, hnone] at hsum ⊢
      simp only [true_and, if_true, reduceCtorEq, if_false] at hsum
      omega

end

/-- A step of what happens by itself. -/
def Goes (now : Nat) (s s' : Supervisor) : Prop := ∃ label, Due s label ∧ s.step now label = some s'

/-- While time stands still, a time comes at which nothing is left that happens by itself. -/
theorem comes_to_rest (now : Nat) (s : Supervisor) : ∃ s', Relation.ReflTransGen (Goes now) s s' ∧ AtRest now s' := by
  induction hload : s.load using Nat.strongRecOn generalizing s with
  | ind load ih =>
    by_cases hrest : AtRest now s
    · exact ⟨s, .refl, hrest⟩
    · simp only [AtRest, not_forall] at hrest
      obtain ⟨label, hdue, hstep⟩ := hrest
      obtain ⟨next, hnext⟩ := Option.ne_none_iff_exists'.1 hstep
      have hless := load_lt_of_due hdue hnext
      obtain ⟨s', hgo, hrest'⟩ := ih next.load (by omega) next rfl
      exact ⟨s', .head ⟨label, hdue, hnext⟩ hgo, hrest'⟩

end Supervisor

end Attendant

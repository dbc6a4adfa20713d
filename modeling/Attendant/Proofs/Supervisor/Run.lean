import Attendant.Proofs.Channel.Run
import Attendant.Proofs.Script
import Attendant.Supervisor

/-!
# Runs of a supervisor

A run is any sequence of steps of a supervisor that has started no worker yet. Time may be anything at each step. A
stop that is abandoned while it waits leaves its worker to itself: `orphans` are the workers that this has happened
to.

The key facts are about readers that are over: nothing brings them back (`Keeps`), and whoever gives a worker up
stops its reader first (`Rest.abort`).
-/

namespace Attendant.Supervisor

/-- A step that has been made. -/
abbrev Entry := Transition Supervisor Label

/-- A supervisor, and what has happened to it since it was fresh, latest first. -/
inductive Run (options : WorkerOptions) (process : Nat) : List Entry → Supervisor → Prop where
  | fresh : Run options process [] { options, process }
  | move {es : List Entry} {s s' : Supervisor} (now : Nat) (label : Label) :
      Run options process es s → s.step now label = some s' → Run options process (⟨s, now, label, s'⟩ :: es) s'

/-- A run goes on by a script. -/
theorem Run.play {options : WorkerOptions} {process : Nat} {base more : List Entry} {s s' : Supervisor}
    (h : Run options process base s) (labels : List Label) (hplay : Script.play step [] s labels = some (more, s')) :
    Run options process (more ++ base) s' :=
  Script.goes_on (fun _ _ label _ hrun hstep => hrun.move 0 label hstep)
    (show Run options process ([] ++ base) s from h) hplay

/-- What has happened has happened in a run. -/
theorem Run.before {options : WorkerOptions} {process : Nat} {es : List Entry} {s : Supervisor}
    (h : Run options process es s) {e : Entry} (he : e ∈ es) :
    ∃ earlier, Run options process earlier e.before ∧ e.before.step e.now e.label = some e.after := by
  induction h with
  | fresh => cases he
  | @move es s s' now label hrun hstep ih =>
    rcases List.mem_cons.1 he with rfl | he
    · exact ⟨es, hrun, hstep⟩
    · exact ih he

/-- The worker that is being stopped. -/
def Stage.stopping? : Stage → Option Nat
  | .asking worker _ _ | .leaving worker _ _ | .closing worker _ _ | .ending worker _ _ => some worker
  | _ => none

/-- The worker that is being greeted. -/
def Stage.greeting? : Stage → Option Nat
  | .greeting worker _ | .confirming worker _ => some worker
  | _ => none

/-- Whether a start has given up what was there, and has nothing new yet. -/
def Stage.isBetween : Stage → Bool
  | .clearing _ _ | .spawning _ => true
  | _ => false

/-- The worker that is left to itself: its stop has been abandoned. -/
def Entry.orphan? (e : Entry) : Option Nat :=
  match e.label with
  | .abandon => e.before.stage.stopping?
  | _ => none

/-- The workers whose stop has been abandoned. -/
def orphans (es : List Entry) : List Nat := es.filterMap Entry.orphan?

theorem orphans_cons (e : Entry) (es : List Entry) : orphans (e :: es) = e.orphan?.toList ++ orphans es := by
  unfold orphans
  rw [List.filterMap_cons]
  cases e.orphan? <;> rfl

theorem orphans_append (es es' : List Entry) : orphans (es ++ es') = orphans es ++ orphans es' :=
  List.filterMap_append

/-! ### New callers -/

theorem enter_current (s : Supervisor) (worker : Nat) (job : Job) : (s.enter worker job).1.current = s.current := by
  unfold Supervisor.enter
  split <;> rfl

theorem enter_stage (s : Supervisor) (worker : Nat) (job : Job) : (s.enter worker job).1.stage = s.stage := by
  unfold Supervisor.enter
  split <;> rfl

theorem enter_status (s : Supervisor) (worker : Nat) (job : Job) : (s.enter worker job).1.status = s.status := by
  unfold Supervisor.enter
  split <;> rfl

/-! ### Readers that are over -/

/-- There are no other workers than before, and no reader that was over does anything again. -/
def Keeps (ws ws' : List Worker) : Prop :=
  ∀ (i : Nat) (w' : Worker), ws'[i]? = some w' →
    ∃ w : Worker, ws[i]? = some w ∧ (w.channel.reader.isOver = true → w'.channel.reader.isOver = true)

theorem Keeps.refl (ws : List Worker) : Keeps ws ws := fun _ w hw => ⟨w, hw, id⟩

theorem Keeps.trans {ws ws' ws'' : List Worker} (h : Keeps ws ws') (h' : Keeps ws' ws'') : Keeps ws ws'' := by
  intro i w'' hw''
  obtain ⟨w', hw', hover'⟩ := h' i w'' hw''
  obtain ⟨w, hw, hover⟩ := h i w' hw'
  exact ⟨w, hw, fun ho => hover' (hover ho)⟩

private theorem getElem?_modify_cases {ws : List Worker} {k i : Nat} {f : Worker → Worker} {w' : Worker}
    (h : (ws.modify k f)[i]? = some w') : ∃ w, ws[i]? = some w ∧ (i = k ∧ w' = f w ∨ i ≠ k ∧ w' = w) := by
  by_cases he : i = k
  · subst he
    rw [List.getElem?_modify_eq] at h
    obtain ⟨w, hw, rfl⟩ := Option.map_eq_some_iff.1 h
    exact ⟨w, hw, Or.inl ⟨rfl, rfl⟩⟩
  · rw [List.getElem?_modify_ne _ _ (Ne.symm he)] at h
    exact ⟨w', h, Or.inr ⟨he, rfl⟩⟩

theorem Keeps.modify {ws : List Worker} {k : Nat} {f : Worker → Worker}
    (hf : ∀ w, ws[k]? = some w → w.channel.reader.isOver = true → (f w).channel.reader.isOver = true) :
    Keeps ws (ws.modify k f) := by
  intro i w' hw'
  obtain ⟨w, hw, ⟨rfl, rfl⟩ | ⟨-, rfl⟩⟩ := getElem?_modify_cases hw'
  · exact ⟨w, hw, hf w hw⟩
  · exact ⟨w', hw, id⟩

theorem Keeps.enter (s : Supervisor) (worker : Nat) (job : Job) : Keeps s.workers (s.enter worker job).1.workers := by
  unfold Supervisor.enter
  split
  · rename_i w hw
    refine Keeps.modify fun v hv => ?_
    rw [hw] at hv
    cases hv
    exact id
  · exact Keeps.refl _

theorem Keeps.leave (ws : List Worker) (worker key : Nat) :
    Keeps ws (ws.modify worker fun w => { w with channel := w.channel.abandon key }) := by
  refine Keeps.modify fun w _ ho => ?_
  simp only [Channel.abandon]
  split
  · split
    · exact ho
    · exact ho
  · exact ho

theorem Keeps.kill (ws : List Worker) (worker : Nat) : Keeps ws (ws.modify worker Worker.kill) :=
  Keeps.modify fun _ _ ho => ho

theorem abort_channel (w : Worker) : w.abort.channel = w.channel.abort := by
  unfold Worker.abort
  simp only
  split <;> rfl

/-- Who listens to the complaints of a worker leaves its channel alone. -/
theorem listen_channel {w w' : Worker} {line : Option String} (h : w.listen = some (w', line)) :
    w'.channel = w.channel := by
  unfold Worker.listen at h
  repeat' split at h
  all_goals cases h <;> rfl

/-- All workers but `x` and the orphans are given up: their readers are over. -/
def Rest (left : List Nat) (ws : List Worker) (x : Option Nat) : Prop :=
  ∀ (i : Nat) (w : Worker), ws[i]? = some w → x ≠ some i → i ∉ left → w.channel.reader.isOver = true

namespace Rest

variable {left : List Nat} {ws ws' : List Worker} {x : Option Nat}

theorem keeps (h : Rest left ws x) (hw : Keeps ws ws') : Rest left ws' x := by
  intro i w' hw' hx hi
  obtain ⟨w, hw, hover⟩ := hw i w' hw'
  exact hover (h i w hw hx hi)

/-- Whoever is stopped needs no exception any more. -/
theorem abort {k : Nat} (h : Rest left ws (some k)) {f : Worker → Worker}
    (hf : ∀ w, (f w).channel = w.channel.abort) : Rest left (ws.modify k f) none := by
  intro i w' hw' _ hi
  obtain ⟨w, hw, ⟨rfl, rfl⟩ | ⟨hne, rfl⟩⟩ := getElem?_modify_cases hw'
  · rw [hf]
    exact Channel.abort_isOver _
  · exact h i w' hw (fun he => hne (Option.some.inj he).symm) hi

theorem abort_kill {k : Nat} (h : Rest left ws (some k)) :
    Rest left (ws.modify k fun w => w.abort.kill) none := h.abort abort_channel

theorem abort_only {k : Nat} (h : Rest left ws (some k)) : Rest left (ws.modify k Worker.abort) none :=
  h.abort abort_channel

/-- Whoever is left to itself is an orphan. -/
theorem orphan {k : Nat} (h : Rest left ws (some k)) : Rest (k :: left) ws none := by
  intro i w hw _ hi
  rw [List.mem_cons, not_or] at hi
  exact h i w hw (fun he => hi.1 (Option.some.inj he).symm) hi.2

/-- Of a newcomer nothing is asked. -/
theorem append (h : Rest left ws none) (w : Worker) : Rest left (ws ++ [w]) (some ws.length) := by
  intro i v hv hx hi
  rcases Nat.lt_or_ge i ws.length with hlt | hge
  · rw [List.getElem?_append_left hlt] at hv
    exact h i v hv nofun hi
  · -- there is one place behind the others, and that is the newcomer's
    have hlen := (List.getElem?_eq_some_iff.1 hv).1
    rw [List.length_append, List.length_singleton] at hlen
    exact absurd (congrArg some (by omega)) hx

theorem weaken (h : Rest left ws none) (x : Option Nat) : Rest left ws x := fun i w hw _ hi => h i w hw nofun hi

end Rest

end Attendant.Supervisor

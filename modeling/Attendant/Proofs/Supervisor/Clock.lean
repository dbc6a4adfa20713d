import Attendant.Proofs.Channel.Stuffing
import Attendant.Proofs.Supervisor.Isolation
import Attendant.Proofs.Supervisor.Rest
import Attendant.Proofs.Supervisor.Turn
import Attendant.Proofs.Supervisor.Workers

/-!
# A stop under a clock

A stop says goodbye to a running worker, closes its input, and then brings its process to an end. Only the last part
goes by the clock from beginning to end. Whatever a stop says before goes through the mailbox of the channel: once the
mailbox has taken the request to stop, that has a second, but for room in the mailbox a stop waits as long as it must.

* `Clocked`: runs in which time goes on only when nothing is left that happens by itself, with the time that the last
  call has been under way, and for how much of it a stop has been held up;
* `Dated`: where a stop stands by what time, at each of its stages;
* `Clocked.stop_bounded`: but for the time that it is held up, a stop takes less than a second and twice the grace;
* `exists_stop_held_up`: it can be held up for any length of time.
-/

namespace Attendant.Supervisor

/-! ### Runs under a clock -/

/-- The caller by which a stop speaks to its worker. -/
def Stage.farewell? : Stage → Option (Nat × Nat)
  | .asking worker key _ | .leaving worker key _ | .closing worker key _ => some (worker, key)
  | _ => none

/-- A stop waits for room in the mailbox of a jammed channel. -/
def HeldUp (s : Supervisor) : Prop :=
  ∃ worker key w id, s.stage.farewell? = some (worker, key) ∧ s.workers[worker]? = some w ∧
    w.channel.stage? key = some (.queued id) ∧ w.channel.Jammed

/-- What may happen while a call is under way: the signal that asks a process to end is not refused, and nobody but the
call itself gives up what it says to its worker. -/
def Label.Granted (s : Supervisor) : Label → Prop
  | .begin _ | .answered .refused => False
  | .leave worker key => s.stage.farewell? ≠ some (worker, key)
  | _ => True

/-- A supervisor under a clock: when the last call was begun, at the end of how many instants since then a stop was held
up, the time, and the supervisor. -/
inductive Clocked (options : WorkerOptions) (process : Nat) : Nat → Nat → Nat → Supervisor → Prop where
  | fresh (now : Nat) : Clocked options process now 0 now { options, process }
  | begin {since held now : Nat} {s s' : Supervisor} (call : Call) :
      Clocked options process since held now s → s.step now (.begin call) = some s' →
      Clocked options process now 0 now s'
  | move {since held now : Nat} {s s' : Supervisor} (label : Label) :
      Clocked options process since held now s → label.Granted s → s.step now label = some s' →
      Clocked options process since held now s'
  | pass {since held now : Nat} {s : Supervisor} :
      Clocked options process since held now s → AtRest now s → ¬HeldUp s →
      Clocked options process since held (now + 1) s
  | stall {since held now : Nat} {s : Supervisor} :
      Clocked options process since held now s → AtRest now s → HeldUp s →
      Clocked options process since (held + 1) (now + 1) s

section

variable {options : WorkerOptions} {process since held now : Nat} {s s' : Supervisor}

/-- What happens under the clock happens in a run. -/
theorem Clocked.run (h : Clocked options process since held now s) : ∃ es, Run options process es s := by
  induction h with
  | fresh now => exact ⟨[], .fresh⟩
  | begin call _ hstep ih =>
    obtain ⟨es, hrun⟩ := ih
    exact ⟨_, hrun.move _ _ hstep⟩
  | move label _ _ hstep ih =>
    obtain ⟨es, hrun⟩ := ih
    exact ⟨_, hrun.move _ _ hstep⟩
  | pass _ _ _ ih => exact ih
  | stall _ _ _ ih => exact ih

/-- What happens by itself may happen. -/
theorem Due.granted {label : Label} (h : Due s label) : label.Granted s := by
  cases h <;> trivial

private theorem Clocked.goes (h : Clocked options process since held now s)
    (hgo : Relation.ReflTransGen (Goes now) s s') : Clocked options process since held now s' := by
  induction hgo with
  | refl => exact h
  | tail _ hstep ih =>
    obtain ⟨label, hdue, hstep⟩ := hstep
    exact ih.move label hdue.granted hstep

end

/-! ### By what time -/

/-- How the request to stop stands that a stop makes at a time, but for the time that it is held up. -/
def Asking (since now : Nat) : Attendant.Stage → Prop
  | .waiting _ deadline => now ≤ deadline ∧ deadline ≤ since + farewellLimit.nanos
  | .withdraw _ _ | .done _ => now ≤ since + farewellLimit.nanos
  | .abandoned => False
  | _ => now = since

/-- Where a caller stands that waits for no response. -/
def Telling : Attendant.Stage → Prop
  | .gate | .submit none | .queued none | .done _ => True
  | _ => False

/-- How far the process of a worker has come to its end that a stop has begun to end by some time. -/
def Ending (begun grace now : Nat) (w : Worker) : Termination.Stage → Prop
  | .waiting deadline => now ≤ deadline ∧ deadline ≤ begun + grace
  | .asking => now ≤ begun + grace
  | .yielding deadline => now ≤ deadline ∧ deadline ≤ begun + 2 * grace
  | .killing => now ≤ begun + 2 * grace
  | .reaping => now ≤ begun + 2 * grace ∧ w.dropped = true
  | .done _ status => now ≤ begun + 2 * grace ∧ w.child = some status
  | .failed => False

/-- Where a stop stands, by what time. -/
def Dated (since now : Nat) (s : Supervisor) : Prop :=
  match s.stage with
  | .taking _ => now = since
  | .asking worker key _ => ∃ stage,
    s.callerOf? worker key = some ⟨.ask false "shutdown" .absent farewellLimit, stage⟩ ∧ Asking since now stage
  | .leaving worker key _ | .closing worker key _ =>
    now ≤ since + farewellLimit.nanos ∧ ∃ job stage,
      s.callerOf? worker key = some ⟨job, stage⟩ ∧ job.isAsk = false ∧ Telling stage
  | .ending worker termination _ =>
    termination.grace = s.options.stopGrace ∧ ∃ w, s.workers[worker]? = some w ∧
      Ending (since + farewellLimit.nanos) s.options.stopGrace.nanos now w termination.stage
  | _ => True

section

variable {since now worker key : Nat} {s s' : Supervisor}

private theorem dated_of_next? (h : s.stage.next? = none) : Dated since now s := by
  unfold Dated
  cases hs : s.stage with
  | taking _ | asking _ _ _ | leaving _ _ _ | closing _ _ _ | ending _ _ _ =>
    rw [hs] at h
    cases h
  | _ => trivial

/-! A step of a caller of the stop. -/

private theorem asking_of_stepCaller {c c' : Channel} {status : Status} {guarded : Bool} {method : String}
    {params : Params} {stage : Attendant.Stage} (h : c.stepCaller now status key = some c')
    (hc : c.callers[key]? = some ⟨.ask guarded method params farewellLimit, stage⟩) (ha : Asking since now stage) :
    ∃ after, c'.callers[key]? = some ⟨.ask guarded method params farewellLimit, after⟩ ∧ Asking since now after := by
  obtain ⟨job, before, after, hc', hadvance⟩ := Channel.advance_of_stepCaller h
  rw [hc] at hc'
  cases hc'
  refine ⟨after, by rw [hadvance.callers, Channel.setStage_caller hc], ?_⟩
  have hstart (hnow : now = since) : now ≤ since + farewellLimit.nanos := by omega
  have hrefused (hnow : now = since) (id : Option Nat) :
      Asking since now (Channel.refused (.ask guarded method params farewellLimit) id) := by
    cases id <;> exact hstart hnow
  have haccepted (hnow : now = since) (id : Option Nat) :
      Asking since now (Channel.accepted now (.ask guarded method params farewellLimit) id) := by
    cases id with
    | none => exact hstart hnow
    | some id => exact ⟨Nat.le_add_right _ _, Nat.add_le_add_right (Nat.le_of_eq hnow) _⟩
  cases hadvance with
  | refuse _ | closed _ => exact hstart ha
  | collect _ | lost _ _ => exact Nat.le_trans ha.1 ha.2
  | remove | ask _ | tell _ | identify | register _ | verified _ | wait _ _ => exact ha
  | @shut id _ | @leave id _ => exact hrefused ha id
  | @send id _ _ | @redeem id _ _ => exact haccepted ha id

private theorem telling_of_stepCaller {c c' : Channel} {status : Status} {job : Job} {stage : Attendant.Stage}
    (h : c.stepCaller now status key = some c') (hc : c.callers[key]? = some ⟨job, stage⟩) (hask : job.isAsk = false)
    (ht : Telling stage) : ∃ after, c'.callers[key]? = some ⟨job, after⟩ ∧ Telling after := by
  obtain ⟨job', before, after, hc', hadvance⟩ := Channel.advance_of_stepCaller h
  rw [hc] at hc'
  cases hc'
  refine ⟨after, by rw [hadvance.callers, Channel.setStage_caller hc], ?_⟩
  have hrefused : Telling (Channel.refused job none) := by cases job <;> trivial
  have haccepted : Telling (Channel.accepted now job none) := by cases job <;> trivial
  cases hadvance with
  | refuse _ | tell _ => trivial
  | ask hask' =>
    rw [hask] at hask'
    cases hask'
  | @shut id _ | @leave id _ =>
    cases id with
    | none => exact hrefused
    | some id => cases ht
  | @send id _ _ | @redeem id _ _ =>
    cases id with
    | none => exact haccepted
    | some id => cases ht
  | @wait id _ _ =>
    cases id with
    | none => trivial
    | some id => cases ht
  | _ => cases ht

private theorem asking_of_tended {label : Label} {w w' : Worker} {guarded : Bool} {method : String} {params : Params}
    {stage : Attendant.Stage} (h : Tended now label worker w w') (hl : label ≠ .leave worker key)
    (hc : w.channel.callers[key]? = some ⟨.ask guarded method params farewellLimit, stage⟩)
    (ha : Asking since now stage) : ∃ after,
      w'.channel.callers[key]? = some ⟨.ask guarded method params farewellLimit, after⟩ ∧ Asking since now after := by
  obtain hsame | ⟨status, hstep⟩ | hexpire := h.caller hl hc
  · exact ⟨stage, hsame, ha⟩
  · exact asking_of_stepCaller hstep hc ha
  · obtain ⟨id, deadline, _, _, rfl, hafter⟩ := Channel.caller_of_expire hexpire hc
    exact ⟨_, hafter, Nat.le_trans ha.1 ha.2⟩

private theorem telling_of_tended {label : Label} {w w' : Worker} {job : Job} {stage : Attendant.Stage}
    (h : Tended now label worker w w') (hl : label ≠ .leave worker key)
    (hc : w.channel.callers[key]? = some ⟨job, stage⟩) (hask : job.isAsk = false) (ht : Telling stage) :
    ∃ after, w'.channel.callers[key]? = some ⟨job, after⟩ ∧ Telling after := by
  obtain hsame | ⟨status, hstep⟩ | hexpire := h.caller hl hc
  · exact ⟨stage, hsame, ht⟩
  · exact telling_of_stepCaller hstep hc hask ht
  · obtain ⟨id, deadline, _, _, rfl, -⟩ := Channel.caller_of_expire hexpire hc
    cases ht

private theorem ending_of_tended {label : Label} {w w' : Worker} {begun grace : Nat} {stage : Termination.Stage}
    (h : Tended now label worker w w') (he : Ending begun grace now w stage) : Ending begun grace now w' stage := by
  cases stage with
  | reaping => exact ⟨he.1, h.dropped.trans he.2⟩
  | done exit status => exact ⟨he.1, h.child status he.2⟩
  | _ => exact he

private theorem Dated.task {label : Label} (h : Dated since now s) (hstep : s.step now label = some s')
    (hl : label.isOwn = false) (hgranted : label.Granted s) : Dated since now s' := by
  have hstage : s'.stage = s.stage := (turn_of_step hstep).of_task hl
  have hoptions : s'.options = s.options := (lasts_of_step hstep).options
  have hstays {worker key : Nat} (hf : s.stage.farewell? = some (worker, key)) : label ≠ .leave worker key := by
    rintro rfl
    exact hgranted hf
  have htelling {worker key : Nat} (hf : s.stage.farewell? = some (worker, key))
      (ht : ∃ job stage, s.callerOf? worker key = some ⟨job, stage⟩ ∧ job.isAsk = false ∧ Telling stage) :
      ∃ job stage, s'.callerOf? worker key = some ⟨job, stage⟩ ∧ job.isAsk = false ∧ Telling stage := by
    obtain ⟨job, stage, hc, hask, ht⟩ := ht
    obtain ⟨w, hw, hkey⟩ := Option.bind_eq_some_iff.1 hc
    obtain ⟨w', hw', htended⟩ := tended_of_step hstep hl hw
    obtain ⟨after, hafter, ht'⟩ := telling_of_tended htended (hstays hf) hkey hask ht
    exact ⟨job, after, Option.bind_eq_some_iff.2 ⟨w', hw', hafter⟩, hask, ht'⟩
  unfold Dated at h ⊢
  rw [hstage, hoptions]
  cases hs : s.stage with
  | taking next =>
    simp only [hs] at h ⊢
    exact h
  | asking worker key next =>
    simp only [hs] at h ⊢
    obtain ⟨stage, hc, ha⟩ := h
    obtain ⟨w, hw, hkey⟩ := Option.bind_eq_some_iff.1 hc
    obtain ⟨w', hw', htended⟩ := tended_of_step hstep hl hw
    obtain ⟨after, hafter, ha'⟩ := asking_of_tended htended (hstays (by rw [hs]; rfl)) hkey ha
    exact ⟨after, Option.bind_eq_some_iff.2 ⟨w', hw', hafter⟩, ha'⟩
  | leaving worker key next | closing worker key next =>
    simp only [hs] at h ⊢
    exact ⟨h.1, htelling (by rw [hs]; rfl) h.2⟩
  | ending worker termination next =>
    simp only [hs] at h ⊢
    obtain ⟨hgrace, w, hw, he⟩ := h
    obtain ⟨w', hw', htended⟩ := tended_of_step hstep hl hw
    exact ⟨hgrace, w', hw', ending_of_tended htended he⟩
  | _ => trivial

/-! The steps of the stop itself. -/

/-- A stop goes on to say something more to its worker. -/
private theorem dated_of_tell {w : Worker} (hw : s.workers[worker]? = some w) {job : Job} (hask : job.isAsk = false)
    (hnow : now ≤ since + farewellLimit.nanos) {stage : Stage} {next : Option Launch}
    (hstage : stage = .leaving worker (s.enter worker job).2 next ∨ stage = .closing worker (s.enter worker job).2 next) :
    Dated since now { (s.enter worker job).1 with stage } := by
  have hcaller := callerOf?_enter hw job
  obtain rfl | rfl := hstage <;> exact ⟨hnow, job, .gate, hcaller, hask, trivial⟩

private theorem dated_of_close {w : Worker} (hw : s.workers[worker]? = some w)
    (hnow : now ≤ since + farewellLimit.nanos) (next : Option Launch) : Dated since now (s.close worker next) :=
  dated_of_tell hw rfl hnow (Or.inr rfl)

private theorem dated_of_stopped (s : Supervisor) (next : Option Launch) : Dated since now (s.stopped next) := by
  cases next <;> trivial

private theorem dated_of_take (howned : ∀ worker, s.current = some worker → ∃ w, s.workers[worker]? = some w)
    (hnow : now = since) (next : Option Launch) : Dated since now (s.take next) := by
  unfold take
  split
  · exact dated_of_stopped _ next
  · rename_i worker hc
    obtain ⟨w, hw⟩ := howned worker hc
    have hw : ({ s with current := none }.setStatus .stopping).workers[worker]? = some w := hw
    simp only
    split
    · exact ⟨.gate, callerOf?_enter hw _, hnow⟩
    · exact dated_of_close hw (by omega) next

private theorem ending_of_step {w : Worker} {begun : Nat} {t t' : Termination}
    (he : Ending begun t.grace.nanos now w t.stage) (hstep : t.step now w.child .proceed = some t') :
    t'.grace = t.grace ∧
      Ending begun t.grace.nanos now (if t'.hasKilled = true then w.kill else w) t'.stage := by
  obtain ⟨hgrace, hmove⟩ := Termination.move_of_step hstep
  obtain ⟨grace, stage⟩ := t
  obtain ⟨_, stage'⟩ := t'
  cases hgrace
  refine ⟨rfl, ?_⟩
  dsimp only at he hmove ⊢
  generalize hc : w.child = child at hmove
  cases hmove with
  | leave deadline status =>
    obtain ⟨hnow, hdeadline⟩ := he
    exact ⟨by omega, hc⟩
  | ask _ =>
    obtain ⟨hnow, hdeadline⟩ := he
    exact Nat.le_trans hnow hdeadline
  | yield deadline status =>
    obtain ⟨hnow, hdeadline⟩ := he
    exact ⟨Nat.le_trans hnow hdeadline, hc⟩
  | lapse _ =>
    obtain ⟨hnow, hdeadline⟩ := he
    exact Nat.le_trans hnow hdeadline
  | kill _ => exact ⟨he, rfl⟩
  | reap status => exact ⟨he.1, hc⟩

private theorem Dated.proceed (h : Dated since now s) (hstep : s.step now .proceed = some s')
    (howned : ∀ worker, s.current = some worker → ∃ w, s.workers[worker]? = some w) : Dated since now s' := by
  cases hn : s.stage.next? with
  | none => exact dated_of_next? ((turn_of_step hstep).next?_eq_none hn nofun)
  | some next =>
    simp only [step, Supervisor.proceed] at hstep
    unfold Dated at h
    cases hs : s.stage with
    | taking next =>
      simp only [hs, Option.some.injEq] at h hstep
      subst hstep
      exact dated_of_take howned h next
    | asking worker key next =>
      simp only [hs] at h hstep
      obtain ⟨outcome, ho, rfl⟩ := Option.map_eq_some_iff.1 hstep
      obtain ⟨stage, hc, ha⟩ := h
      obtain ⟨w, hw, -⟩ := Option.bind_eq_some_iff.1 hc
      obtain ⟨job, hdone⟩ := outcomeOf?_eq_some.1 ho
      obtain ⟨-, rfl⟩ := Caller.mk.inj (Option.some.inj (hc.symm.trans hdone))
      cases outcome with
      | ok v => exact dated_of_tell hw rfl ha (Or.inl rfl)
      | error fault => exact dated_of_close hw ha next
    | leaving worker key next =>
      simp only [hs] at h hstep
      obtain ⟨outcome, -, rfl⟩ := Option.map_eq_some_iff.1 hstep
      obtain ⟨hnow, _, _, hc, -⟩ := h
      obtain ⟨w, hw, -⟩ := Option.bind_eq_some_iff.1 hc
      exact dated_of_close hw hnow next
    | closing worker key next =>
      simp only [hs] at h hstep
      obtain ⟨outcome, -, rfl⟩ := Option.map_eq_some_iff.1 hstep
      obtain ⟨hnow, _, _, hc, -⟩ := h
      obtain ⟨w, hw, -⟩ := Option.bind_eq_some_iff.1 hc
      exact ⟨rfl, w, hw, Nat.le_add_right _ _, Nat.add_le_add_right hnow _⟩
    | ending worker termination next =>
      simp only [hs] at h hstep
      obtain ⟨hgrace, w, hw, he⟩ := h
      split at hstep
      · cases hstep
        exact dated_of_stopped _ next
      · cases hstep
        exact dated_of_stopped _ next
      · obtain ⟨after, hafter, rfl⟩ := Option.map_eq_some_iff.1 hstep
        have hchild : s.childOf worker = w.child := by rw [childOf, hw]; rfl
        rw [hchild] at hafter
        rw [← hgrace] at he
        obtain ⟨hgrace', he'⟩ := ending_of_step he hafter
        rw [hgrace] at hgrace' he'
        cases hk : after.hasKilled with
        | true =>
          rw [hk, if_pos rfl] at he'
          refine ⟨hgrace', w.kill, ?_, he'⟩
          simp only [modify, if_true]
          rw [List.getElem?_modify_eq, hw]
          rfl
        | false =>
          rw [hk] at he'
          exact ⟨hgrace', w, hw, he'⟩
    | _ =>
      rw [hs] at hn
      cases hn

private theorem Dated.answered {answer : SignalAnswer} (h : Dated since now s)
    (hstep : s.step now (.answered answer) = some s') (hne : answer ≠ .refused) : Dated since now s' := by
  simp only [step] at hstep
  split at hstep
  · rename_i worker termination next hs
    obtain ⟨after, hafter, rfl⟩ := Option.map_eq_some_iff.1 hstep
    simp only [Dated, hs] at h
    obtain ⟨hgrace, w, hw, he⟩ := h
    obtain ⟨grace, stage⟩ := termination
    cases stage with
    | asking =>
      have hnow : now ≤ since + farewellLimit.nanos + s.options.stopGrace.nanos := he
      cases answer with
      | delivered =>
        cases hafter
        obtain rfl : grace = s.options.stopGrace := hgrace
        refine ⟨rfl, w, hw, Nat.le_add_right _ _, ?_⟩
        simp only
        omega
      | noProcess =>
        cases hafter
        refine ⟨hgrace, w, hw, ?_⟩
        simp only [Ending]
        omega
      | refused => exact absurd rfl hne
    | _ => cases hafter
  · cases hstep

/-- Whatever is done, a stop stands where it should by that time. -/
private theorem Dated.move {label : Label} (h : Dated since now s) (hgranted : label.Granted s)
    (hstep : s.step now label = some s')
    (howned : ∀ worker, s.current = some worker → ∃ w, s.workers[worker]? = some w) : Dated since now s' := by
  by_cases hl : label.isOwn = true
  · cases label with
    | begin call => cases hgranted
    | proceed => exact h.proceed hstep howned
    | answered answer =>
      refine h.answered hstep ?_
      rintro rfl
      exact hgranted
    | abandon =>
      have hhelm := (turn_of_step hstep).of_abandon
      have hstage : s'.stage = .free := congrArg Helm.stage hhelm
      exact dated_of_next? (by rw [hstage]; rfl)
    | spawned answer =>
      simp only [step] at hstep
      split at hstep
      · cases hstep
        exact dated_of_next? rfl
      · cases hstep
        trivial
      · cases hstep
        trivial
      · cases hstep
    | _ => cases hl
  · exact h.task hstep (by simpa using hl) hgranted

/-- What a stop says to its worker when nothing is left that happens by itself: it waits for room, or for a response that
has its time. -/
private theorem farewell_of_atRest (hrest : AtRest now s)
    (horderly : ∀ (worker : Nat) (w : Worker), s.workers[worker]? = some w → w.channel.Orderly)
    (hf : s.stage.farewell? = some (worker, key)) {job : Job} {stage : Attendant.Stage}
    (hc : s.callerOf? worker key = some ⟨job, stage⟩)
    (hask : ∀ id deadline, stage = .waiting id deadline → job.isAsk = true) :
    (∃ id, stage = .queued id) ∧ HeldUp s ∨ (∃ id deadline, stage = .waiting id deadline ∧ now < deadline) ∧ ¬HeldUp s ∨
      stage = .abandoned := by
  obtain ⟨w, hw, hkey⟩ := Option.bind_eq_some_iff.1 hc
  have hstage : w.channel.stage? key = some stage := by simp [Channel.stage?, hkey]
  have hresting := (hrest.channel hw).resting hkey hask
  cases stage with
  | queued id =>
    have hjammed := (hrest.channel hw).jammed (horderly worker w hw) hstage hresting
    exact Or.inl ⟨⟨id, rfl⟩, worker, key, w, id, hf, hw, hstage, hjammed⟩
  | waiting id deadline =>
    refine Or.inr (Or.inl ⟨⟨id, deadline, rfl, hresting.2.2⟩, ?_⟩)
    rintro ⟨worker', key', w', id', hf', hw', hqueued, -⟩
    rw [hf] at hf'
    cases hf'
    rw [hw] at hw'
    cases hw'
    rw [hstage] at hqueued
    cases hqueued
  | done outcome =>
    -- the call would go on
    have hproceed : s.proceed now = none := hrest .proceed .proceed
    have houtcome : s.outcomeOf? worker key = some outcome := outcomeOf?_eq_some.2 ⟨job, hc⟩
    unfold Supervisor.proceed at hproceed
    cases hs : s.stage with
    | asking _ _ _ | leaving _ _ _ | closing _ _ _ =>
      rw [hs] at hf
      cases hf
      simp [hs, houtcome] at hproceed
    | _ =>
      rw [hs] at hf
      cases hf
  | abandoned => exact Or.inr (Or.inr rfl)
  | _ => cases hresting

/-- How a termination stands when nothing is left that happens by itself: the process has some time yet. -/
private theorem ending_of_atRest (hrest : AtRest now s) {termination : Termination} {next : Option Launch}
    (hs : s.stage = .ending worker termination next) {w : Worker} (hw : s.workers[worker]? = some w) {begun grace : Nat}
    (he : Ending begun grace now w termination.stage) :
    now < begun + 2 * grace ∧ Ending begun grace (now + 1) w termination.stage := by
  have hproceed : s.proceed now = none := hrest .proceed .proceed
  have hanswer : s.step now (.answered .delivered) = none := hrest _ .delivered
  have hchild : s.childOf worker = w.child := by rw [childOf, hw]; rfl
  obtain ⟨grace', stage⟩ := termination
  simp only [Supervisor.proceed, hs, hchild] at hproceed
  cases stage with
  | waiting deadline | yielding deadline =>
    obtain ⟨hnow, hdeadline⟩ := he
    have hlate : now < deadline := ((Termination.step_eq_none_iff rfl).1 (by simpa using hproceed)).2
    exact ⟨by omega, hlate, hdeadline⟩
  | asking => simp [step, hs, Termination.step] at hanswer
  | killing => simp [Termination.step] at hproceed
  | reaping =>
    obtain ⟨status, hc⟩ := Option.isSome_iff_exists.1 (hrest.reaped hw he.2)
    rw [hchild] at hc
    simp [Termination.step, hc] at hproceed
  | done exit status => simp at hproceed
  | failed => cases he

/-- How a stop stands when nothing is left that happens by itself. Either it is held up, and the instant that follows
is one more for which it is held up; or it waits for something that has its time. -/
private theorem Dated.atRest {start held : Nat} (h : Dated (start + held) now s) (hrest : AtRest now s)
    (horderly : ∀ (worker : Nat) (w : Worker), s.workers[worker]? = some w → w.channel.Orderly)
    (hn : s.stage.next?.isSome = true) :
    HeldUp s ∧ now ≤ start + held + farewellLimit.nanos ∧ Dated (start + (held + 1)) (now + 1) s ∨
      ¬HeldUp s ∧ now < start + held + (farewellLimit.nanos + 2 * s.options.stopGrace.nanos) ∧
        Dated (start + held) (now + 1) s := by
  -- a worker that is told something is told so at once, or holds the stop up
  have htold {worker key : Nat} (hf : s.stage.farewell? = some (worker, key))
      (ht : ∃ job stage, s.callerOf? worker key = some ⟨job, stage⟩ ∧ job.isAsk = false ∧ Telling stage) :
      HeldUp s := by
    obtain ⟨job, stage, hc, hask, ht⟩ := ht
    rcases farewell_of_atRest hrest horderly hf hc (by rintro _ _ rfl; cases ht) with ⟨-, hheld⟩ | ⟨⟨_, _, rfl, -⟩, -⟩ | rfl
    · exact hheld
    · cases ht
    · cases ht
  unfold Dated at h ⊢
  cases hs : s.stage with
  | taking next =>
    have hproceed : s.proceed now = none := hrest .proceed .proceed
    simp [Supervisor.proceed, hs] at hproceed
  | asking worker key next =>
    simp only [hs] at h ⊢
    obtain ⟨stage, hc, ha⟩ := h
    rcases farewell_of_atRest hrest horderly (by rw [hs]; rfl) hc (fun _ _ _ => rfl) with
      ⟨⟨id, rfl⟩, hheld⟩ | ⟨⟨id, deadline, rfl, hlate⟩, hnot⟩ | rfl
    · have hnow : now = start + held := ha
      exact Or.inl ⟨hheld, by omega, _, hc, by rw [hnow]; rfl⟩
    · obtain ⟨-, hdeadline⟩ := ha
      exact Or.inr ⟨hnot, by omega, _, hc, hlate, hdeadline⟩
    · cases ha
  | leaving worker key next | closing worker key next =>
    simp only [hs] at h ⊢
    exact Or.inl ⟨htold (by rw [hs]; rfl) h.2, h.1, by omega, h.2⟩
  | ending worker termination next =>
    simp only [hs] at h ⊢
    obtain ⟨hgrace, w, hw, he⟩ := h
    obtain ⟨hnow, he'⟩ := ending_of_atRest hrest hs hw he
    refine Or.inr ⟨?_, by omega, hgrace, w, hw, he'⟩
    rintro ⟨_, _, _, _, hf, -⟩
    rw [hs] at hf
    cases hf
  | _ =>
    rw [hs] at hn
    cases hn

private theorem abort_child (w : Worker) : w.abort.child = w.child := by
  unfold Worker.abort
  simp only
  split <;> rfl

/-- A stop does not end before the process of its worker has. -/
private theorem Dated.reaped (h : Dated since now s) (hstep : s.step now .proceed = some s')
    (hs : s.stage.stopping? = some worker) (hs' : s'.stage.stopping? = none) : (s'.childOf worker).isSome = true := by
  simp only [step, Supervisor.proceed] at hstep
  unfold Dated at h
  cases hstage : s.stage with
  | asking worker key next =>
    simp only [hstage] at hstep
    obtain ⟨outcome, -, rfl⟩ := Option.map_eq_some_iff.1 hstep
    cases outcome <;> cases hs'
  | leaving worker key next =>
    simp only [hstage] at hstep
    obtain ⟨outcome, -, rfl⟩ := Option.map_eq_some_iff.1 hstep
    cases hs'
  | closing worker key next =>
    simp only [hstage] at hstep
    obtain ⟨outcome, -, rfl⟩ := Option.map_eq_some_iff.1 hstep
    cases hs'
  | ending other termination next =>
    rw [hstage] at hs
    cases hs
    simp only [hstage] at h hstep
    obtain ⟨-, w, hw, he⟩ := h
    split at hstep
    · rename_i exit status hdone
      cases hstep
      rw [hdone] at he
      have hworkers : ((s.modify worker Worker.abort).setStatus .idle).workers[worker]? = some w.abort := by
        simp only [setStatus, modify]
        rw [List.getElem?_modify_eq, hw]
        rfl
      have hkept (s : Supervisor) : (s.stopped next).workers = s.workers := by cases next <;> rfl
      rw [childOf, hkept, hworkers]
      exact Option.isSome_iff_exists.2 ⟨status, (abort_child w).trans he.2⟩
    · rename_i hfailed
      rw [hfailed] at he
      cases he
    · obtain ⟨after, -, rfl⟩ := Option.map_eq_some_iff.1 hstep
      split at hs' <;> cases hs'
  | _ =>
    rw [hstage] at hs
    cases hs

private theorem dated_of_begin {call : Call} (hstep : s.step now (.begin call) = some s') : Dated now now s' := by
  have hhelm := (turn_of_step hstep).of_begin
  have hstage : s'.stage = call.opening := congrArg Helm.stage hhelm
  unfold Dated
  rw [hstage]
  cases call <;> trivial

end

section

variable {options : WorkerOptions} {process since held now : Nat} {s : Supervisor}

theorem Clocked.options_eq (h : Clocked options process since held now s) : s.options = options := by
  induction h with
  | fresh now => rfl
  | begin call _ hstep ih => rw [(lasts_of_step hstep).options, ih]
  | move label _ _ hstep ih => rw [(lasts_of_step hstep).options, ih]
  | pass _ _ _ ih => exact ih
  | stall _ _ _ ih => exact ih

private theorem Clocked.orderly (h : Clocked options process since held now s) (worker : Nat) (w : Worker)
    (hw : s.workers[worker]? = some w) : w.channel.Orderly := by
  obtain ⟨es, hrun⟩ := h.run
  obtain ⟨es', hchannel⟩ := hrun.channel_run hw
  exact hchannel.orderly

/-- A stop stands where it should, but for the time that it has been held up. -/
private theorem Clocked.dated (h : Clocked options process since held now s) : Dated (since + held) now s := by
  induction h with
  | fresh now => exact dated_of_next? rfl
  | begin call _ hstep _ => exact dated_of_begin hstep
  | @move since held now s s' label hclocked hgranted hstep ih =>
    obtain ⟨es, hrun⟩ := hclocked.run
    exact ih.move hgranted hstep fun worker hc => hrun.owned hc
  | @pass since held now s hclocked hrest hnot ih =>
    cases hn : s.stage.next? with
    | none => exact dated_of_next? hn
    | some next =>
      obtain ⟨hheld, -⟩ | ⟨-, -, hd⟩ := ih.atRest hrest hclocked.orderly (by rw [hn]; rfl)
      · exact absurd hheld hnot
      · exact hd
  | @stall since held now s hclocked hrest hheld ih =>
    cases hn : s.stage.next? with
    | none => exact dated_of_next? hn
    | some next =>
      obtain ⟨-, -, hd⟩ | ⟨hnot, -⟩ := ih.atRest hrest hclocked.orderly (by rw [hn]; rfl)
      · exact hd
      · exact absurd hheld hnot

/-- Whatever a worker does, and whatever happens at its channel: at every instant a time comes at which nothing is left
that happens by itself. A stop that is not over then is held up, and has taken no more than a second besides; or it has
taken less than a second and twice the grace, but for the time that it was held up before. And when it ends, the process
of its worker has ended. -/
theorem Clocked.stop_bounded (h : Clocked options process since held now s) :
    (∃ s', Relation.ReflTransGen (Goes now) s s' ∧ Clocked options process since held now s' ∧ AtRest now s') ∧
    (AtRest now s → s.stage.next?.isSome = true →
      HeldUp s ∧ now ≤ since + held + farewellLimit.nanos ∨
        ¬HeldUp s ∧ now < since + held + (farewellLimit.nanos + 2 * options.stopGrace.nanos)) ∧
    ∀ worker s', s.stage.stopping? = some worker → s.step now .proceed = some s' → s'.stage.stopping? = none →
      (s'.childOf worker).isSome = true := by
  refine ⟨?_, fun hrest hn => ?_, fun worker s' hs hstep hs' => h.dated.reaped hstep hs hs'⟩
  · obtain ⟨s', hgo, hrest⟩ := comes_to_rest now s
    exact ⟨s', hgo, h.goes hgo, hrest⟩
  · rw [← h.options_eq]
    obtain ⟨hheld, hnow, -⟩ | ⟨hnot, hnow, -⟩ := h.dated.atRest hrest h.orderly hn
    · exact Or.inl ⟨hheld, hnow⟩
    · exact Or.inr ⟨hnot, hnow⟩

end

/-- With one worker whose callers have all come to their end, it is up to the call and the tasks. -/
private theorem Clocked.atRest_of_one {options : WorkerOptions} {process since held now : Nat} {s : Supervisor}
    (_ : Clocked options process since held now s) {w : Worker} (hw : s.workers = [w]) (hproceed : s.proceed now = none)
    (hanswer : s.step now (.answered .delivered) = none)
    (hcallers : (w.channel.callers.all fun caller => caller.stage.isOver) = true) (hwriter : w.channel.stepWriter = none)
    (hreader : ∀ status, w.channel.stepReader status = none) (hlisten : w.listen = none) (hd : w.dropped = false) :
    AtRest now s := by
  refine atRest_of_workers hproceed hanswer fun worker w' hw' => ?_
  rw [hw] at hw'
  cases worker with
  | zero =>
    cases hw'
    exact ⟨Channel.atRest_of_over (List.all_eq_true.1 hcallers) hwriter hreader, hlisten, by rw [hd]; nofun⟩
  | succ worker => cases hw'

/-- A process that does not heed the signal that asks it to end is given its time twice, and then it is ended. -/
theorem stop_bounded_unheeded : ∃ s s' s'' : Supervisor,
    Clocked { someOptions with stopGrace := ⟨1⟩ } 1 0 0 1 s ∧ AtRest 1 s ∧ s.stage.next?.isSome = true ∧
    (HeldUp s ∧ 1 ≤ 0 + 0 + farewellLimit.nanos ∨ ¬HeldUp s ∧ 1 < 0 + 0 + (farewellLimit.nanos + 2 * 1)) ∧
    Clocked { someOptions with stopGrace := ⟨1⟩ } 1 0 0 2 s' ∧ s'.stage.stopping? = some 0 ∧
    s'.step 2 .proceed = some s'' ∧ s''.stage.stopping? = none ∧ (s''.childOf 0).isSome = true := by
  have idle : Clocked { someOptions with stopGrace := ⟨1⟩ } 1 0 0 0 _ := .fresh 0
  have spawning := (idle.begin (.start someLaunch) rfl).move .proceed trivial rfl
  have given := (spawning.move (.spawned .started) trivial rfl).move .abandon trivial rfl
  have closing := (given.begin .stop rfl).move .proceed trivial rfl
  have closed := (closing.move (.channel 0 (.caller 1)) trivial rfl).move (.channel 0 (.caller 1)) trivial rfl
  have waiting := (closed.move (.channel 0 .writer) trivial rfl).move .proceed trivial rfl
  have asking := (waiting.pass (waiting.atRest_of_one rfl rfl rfl rfl rfl (fun _ => rfl) rfl rfl)
    (by rintro ⟨_, _, _, _, hf, -⟩; cases hf)).move .proceed trivial rfl
  have yielding := asking.move (.answered .delivered) trivial rfl
  have hrest := yielding.atRest_of_one rfl rfl rfl rfl rfl (fun _ => rfl) rfl rfl
  have killing := (yielding.pass hrest (by rintro ⟨_, _, _, _, hf, -⟩; cases hf)).move .proceed trivial rfl
  have reaping := (killing.move .proceed trivial rfl).move (.exited 0 (.signal 9)) trivial rfl
  have reaped := reaping.move .proceed trivial rfl
  obtain ⟨-, hbound, -⟩ := yielding.stop_bounded
  obtain ⟨-, -, hend⟩ := reaped.stop_bounded
  exact ⟨_, _, _, yielding, hrest, rfl, hbound hrest rfl, reaped, rfl, rfl, rfl, hend 0 _ rfl rfl rfl⟩

/-! ### A worker that reads nothing -/

section

variable {options : WorkerOptions} {process since held now : Nat} {s : Supervisor} {w : Worker}

/-- The one worker of a supervisor has another channel. -/
def withChannel (s : Supervisor) (w : Worker) (c : Channel) : Supervisor := { s with workers := [{ w with channel := c }] }

/-- What callers and the writer do at the channel of a worker is done under the clock. -/
private theorem Clocked.stirs {c c' : Channel} (h : Clocked options process since held now (s.withChannel w c))
    (hgo : Relation.ReflTransGen (Channel.Stir now s.status.value) c c') :
    Clocked options process since held now (s.withChannel w c') := by
  induction hgo with
  | refl => exact h
  | @tail b c' _ hstir ih =>
    cases hstir with
    | enter job => exact ih.move (.enter 0 job) trivial rfl
    | caller key hstep =>
      refine ih.move (.channel 0 (.caller key)) trivial ?_
      have hstep' : Channel.step now s.status b (.caller key) = some (s.status, c') := by simp [Channel.step, hstep]
      simp [step, withChannel, hstep', modify]
    | writer hstep =>
      refine ih.move (.channel 0 .writer) trivial ?_
      have hstep' : Channel.step now s.status b .writer = some (s.status, c') := by simp [Channel.step, hstep]
      simp [step, withChannel, hstep', modify]

private theorem Clocked.stalls (h : Clocked options process since held now s) (hheld : HeldUp s) (span : Nat)
    (hrest : ∀ time, now ≤ time → time < now + span → AtRest time s) :
    Clocked options process since (held + span) (now + span) s := by
  induction span with
  | zero => exact h
  | succ span ih =>
    have hstalled := ih fun time hlo hhi => hrest time hlo (by omega)
    exact hstalled.stall (hrest (now + span) (by omega) (by omega)) hheld

end

/-- A worker has been greeted, and runs; the writer has not written anything yet. -/
private theorem exists_running : ∃ s w first second, Clocked someOptions 1 0 0 0 s ∧ s.workers = [w] ∧
    s.stage = .free ∧ s.current = some 0 ∧ s.status.value = .running ∧
    w.channel.callers.all (·.stage.isOver) = true ∧ w.channel.closed = false ∧ w.channel.answers = [] ∧
    w.channel.mailbox = { capacity := 64, items := [.send first, .send second] } ∧ w.channel.writer = .idle ∧
    w.channel.toWorker = .empty Pipe.usual ∧ (Frame.encode first).length + (Frame.encode second).length < Pipe.usual ∧
    w.channel.reader = .reading .start ∧ w.channel.fromWorker = .empty Pipe.usual ∧
    w.listener = .listening [] ∧ w.complaints = .empty Pipe.usual ∧ w.dropped = false := by
  have idle : Clocked someOptions 1 0 0 0 _ := .fresh 0
  have spawning := (idle.begin (.start someLaunch) rfl).move .proceed trivial rfl
  have greeting := spawning.move (.spawned .started) trivial rfl
  have identified := (greeting.move (.channel 0 (.caller 0)) trivial rfl).move (.channel 0 (.caller 0)) trivial rfl
  have verified := (identified.move (.channel 0 (.caller 0)) trivial rfl).move (.channel 0 (.caller 0)) trivial rfl
  have waiting := verified.move (.channel 0 (.caller 0)) trivial rfl
  have heard := (waiting.move (.act 0 (.writes Channel.sevenFrame)) trivial rfl).move (.channel 0 .reader) trivial rfl
  have answered := (heard.move (.channel 0 .reader) trivial rfl).move (.channel 0 (.caller 0)) trivial rfl
  have told := (answered.move .proceed trivial rfl).move (.channel 0 (.caller 1)) trivial rfl
  have running := (told.move (.channel 0 (.caller 1)) trivial rfl).move .proceed trivial rfl
  exact ⟨_, _, _, _, running, rfl, rfl, rfl, rfl, rfl, rfl, rfl, rfl, rfl, rfl, by decide +kernel, rfl, rfl, rfl, rfl,
    rfl⟩

/-- A worker runs, and nothing is under way at its channel. -/
private theorem exists_idle : ∃ (s : Supervisor) (w : Worker) (c : Channel),
    Clocked someOptions 1 0 0 0 (s.withChannel w c) ∧ s.stage = .free ∧ s.current = some 0 ∧ s.status.value = .running ∧
    (∀ deadline, c.Idle deadline) ∧ c.reader = .reading .start ∧ c.fromWorker = .empty Pipe.usual ∧
    (∀ c', Worker.listen { w with channel := c' } = none) ∧ w.dropped = false := by
  obtain ⟨s, w, first, second, running, hw, hfree, hcurrent, hstatus, hover, hclosed, hanswers, hmailbox, hwriter, hpipe,
    hroom, hreader, hfrom, hlistener, hcomplaints, hd⟩ := exists_running
  have hself : s.withChannel w w.channel = s := by simp only [withChannel, ← hw]
  rw [← hself] at running
  let once : Channel := { w.channel with
    mailbox := { capacity := 64, items := [.send second] }
    toWorker := { w.channel.toWorker with bytes := w.channel.toWorker.bytes ++ Frame.encode first } }
  have hfirst : Relation.ReflTransGen (Channel.Stir 0 s.status.value) w.channel once :=
    Channel.stirs_write hwriter (by simp [Mailbox.take?, Mailbox.promote, hmailbox]) (by simp [hpipe, Pipe.empty]) (by
      simp only [hpipe, Pipe.room, Pipe.empty, List.length_nil]
      omega)
  have hsecond : Relation.ReflTransGen (Channel.Stir 0 s.status.value) once { once with
      mailbox := { capacity := 64 }
      toWorker := { once.toWorker with bytes := once.toWorker.bytes ++ Frame.encode second } } :=
    Channel.stirs_write hwriter (by simp [Mailbox.take?, Mailbox.promote, once]) (by simp [once, hpipe, Pipe.empty]) (by
      simp only [once, hpipe, Pipe.room, Pipe.empty, List.nil_append]
      omega)
  have written := running.stirs (hfirst.trans hsecond)
  refine ⟨s, w, _, written, hfree, hcurrent, hstatus, fun deadline => ?_, hreader, hfrom, fun c' => ?_, hd⟩
  · refine ⟨⟨hclosed, hanswers, fun key job stage hc now _ => ?_⟩, rfl, hwriter, by simp [once, hpipe, Pipe.empty], ?_⟩
    · have hcaller := List.all_eq_true.1 hover _ (List.mem_of_getElem? hc)
      cases stage with
      | done outcome => trivial
      | abandoned => trivial
      | _ => cases hcaller
    · simp only [once, hpipe, Pipe.room, Pipe.empty, List.nil_append, List.length_append]
      omega
  · simp [Worker.listen, hlistener, hcomplaints, Pipe.empty]

/-- However long it has waited already, a stop can still wait for room, when the pipe and the mailbox are full and the
worker reads nothing. -/
theorem exists_stop_held_up (wait : Nat) : ∃ s, Clocked someOptions 1 0 wait wait s ∧ AtRest wait s ∧ HeldUp s ∧
    s.stage.next? = some none := by
  obtain ⟨s, w, c, idle, hfree, hcurrent, hstatus, hidle, hreader, hfrom, hlisten, hd⟩ := exists_idle
  let long : Duration := ⟨wait + 1⟩
  have hguard : true = true → s.status.value = .running := fun _ => hstatus
  obtain ⟨full, hfill, hstuffed, -⟩ :=
    (hidle long.nanos).stuffed (Nat.le_of_eq (Nat.zero_add long.nanos).symm) s.status.value hguard
  have stuffed := idle.stirs hfill
  -- the stop begins, and its request finds no room
  have hunguarded : false = true → Status.stopping = .running := nofun
  obtain ⟨jammed, id, hqueue, hjammed, hcallers⟩ := hstuffed.queue 0 .stopping hunguarded "shutdown" farewellLimit
  let s' : Supervisor := { s with
    status := s.status.set .stopping, current := none, outcome := none, stage := .asking 0 full.callers.length none }
  have asking : Clocked someOptions 1 0 0 0
      (s'.withChannel w (full.enter (.ask false "shutdown" .absent farewellLimit)).1) := by
    have hstage : (s.withChannel w full).stage = .free := hfree
    refine (stuffed.begin .stop (step_begin hstage 0 .stop)).move .proceed trivial ?_
    simp [step, Supervisor.proceed, Call.opening, take, withChannel, hcurrent, hstatus, Supervisor.enter, setStatus, modify,
      Channel.enter, s']
  have queued := asking.stirs hqueue
  have hcaller : jammed.callers[full.callers.length]? =
      some ⟨.ask false "shutdown" .absent farewellLimit, .queued id⟩ := by
    rw [hcallers, List.getElem?_concat_length]
  have hstage : jammed.stage? full.callers.length = some (.queued id) := by simp [Channel.stage?, hcaller]
  have hheld : HeldUp (s'.withChannel w jammed) := ⟨0, full.callers.length, _, id, rfl, rfl, hstage, hjammed.jammed⟩
  -- nobody can go on as long as the callers wait that fill the mailbox
  obtain ⟨hr, hf, -⟩ := Channel.stirs_frame hfill
  obtain ⟨hr', hf', -⟩ := Channel.stirs_frame hqueue
  have hstep (status : Watched Status) : jammed.stepReader status = none := by
    have hr' : jammed.reader = full.reader := hr'
    have hf' : jammed.fromWorker = full.fromWorker := hf'
    simp [Channel.stepReader, hr', hr, hreader, hf', hf, hfrom, Pipe.empty]
  have hrest (time : Nat) (htime : time < long.nanos) : AtRest time (s'.withChannel w jammed) := by
    have hproceed : (s'.withChannel w jammed).proceed time = none := by
      simp [Supervisor.proceed, withChannel, s', outcomeOf?, Channel.outcome?, hstage]
    refine atRest_of_workers hproceed rfl fun worker w' hw' => ?_
    cases worker with
    | zero =>
      cases hw'
      exact ⟨hjammed.atRest htime hstep, hlisten jammed, by rw [hd]; nofun⟩
    | succ worker => cases hw'
  have stalled := queued.stalls hheld wait fun time _ htime => hrest time (by
    show time < wait + 1
    omega)
  rw [Nat.zero_add] at stalled
  exact ⟨_, stalled, hrest wait (Nat.lt_succ_self wait), hheld, rfl⟩

/-- So it is not true that every stop is over in time. -/
theorem not_stop_bounded : ¬∀ (options : WorkerOptions) (process since held now : Nat) (s : Supervisor),
    Clocked options process since held now s → AtRest now s → s.stage.next?.isSome = true →
    now < since + (farewellLimit.nanos + 2 * options.stopGrace.nanos) := by
  intro h
  obtain ⟨s, hclocked, hrest, -, hnext⟩ := exists_stop_held_up farewellLimit.nanos
  have hless := h _ _ _ _ _ s hclocked hrest (by rw [hnext]; rfl)
  exact absurd hless (Nat.lt_irrefl _)

end Attendant.Supervisor

import Attendant.Proofs.Channel.Stuffing

/-!
# A channel under a clock

Time goes on only when nobody can go on. The time of a request is counted from the moment at which the mailbox has
taken its message, and not from the moment at which it came. So a request outlives its time as long as it has waited
for room, and no longer; and at the end of every instant at which it waits, the mailbox is full, and the writer stands
before a full pipe out of which the worker reads nothing.

* `Clocked`: runs in which time goes on only when nobody can go on;
* `Clocked.dated`: a request has been held up until the mailbox has taken its message, and its time counts from then;
* `Clocked.overdue`: a request whose time is over has come to its end, but for the time that it was held up;
* `exists_held_up`: a request can be held up for any length of time.
-/

namespace Attendant

namespace Channel

/-! ### Runs under a clock -/

/-- A step is made at the time of the clock; for anything else there is no matter of time. -/
def Move.At (now : Nat) : Move → Prop
  | .step time _ _ => time = now
  | _ => True

/-- Who comes by a move, and when. -/
def Move.comings (now : Nat) (c : Channel) : Move → List (Nat × Nat)
  | .enter _ => [(c.callers.length, now)]
  | _ => []

/-- A channel under a clock: which caller has come when, and how the channel stood at the end of each instant that is
over, both latest first; then the time, and the channel. -/
inductive Clocked : List (Nat × Nat) → List (Nat × Channel) → Nat → Channel → Prop where
  | fresh (now : Nat) : Clocked [] [] now {}
  | move {come : List (Nat × Nat)} {past : List (Nat × Channel)} {now : Nat} {c c' : Channel} (m : Move) :
      Clocked come past now c → m.At now → c.make? m = some c' → Clocked (m.comings now c ++ come) past now c'
  | pass {come : List (Nat × Nat)} {past : List (Nat × Channel)} {now : Nat} {c : Channel} :
      Clocked come past now c → AtRest now c → Clocked come ((now, c) :: past) (now + 1) c

/-- At the end of every instant from one time to another, a caller waited for room in the mailbox of a jammed
channel. -/
def HeldUp (past : List (Nat × Channel)) (key since upTo : Nat) : Prop :=
  ∀ now, since ≤ now → now < upTo → ∃ c, (now, c) ∈ past ∧ (∃ id, c.stage? key = some (.queued id)) ∧ c.Jammed

/-- How a request with a limit stands that came at a time: until the mailbox has taken its message, it has been held
up ever since; from then on its time is counted. -/
def Dated (past : List (Nat × Channel)) (now key since : Nat) (limit : Duration) : Stage → Prop
  | .waiting _ deadline =>
    ∃ taken, since ≤ taken ∧ taken ≤ now ∧ deadline = taken + limit.nanos ∧ HeldUp past key since taken
  | .withdraw _ _ | .done _ | .abandoned => True
  | _ => HeldUp past key since now

/-- Whatever happens under the clock happens in a run. -/
theorem Clocked.run {come : List (Nat × Nat)} {past : List (Nat × Channel)} {now : Nat} {c : Channel}
    (h : Clocked come past now c) : ∃ es, Run es c := by
  induction h with
  | fresh now => exact ⟨[], .fresh⟩
  | move m _ _ hmake ih =>
    obtain ⟨es, hrun⟩ := ih
    exact ⟨_, hrun.move m hmake⟩
  | pass _ _ ih => exact ih

section

variable {past : List (Nat × Channel)} {now since key : Nat} {c c' : Channel} {guarded : Bool}
  {method : String} {params : Params} {limit : Duration} {stage : Stage}

/-- A step of a request: its time is counted from the step at which the mailbox takes its message. -/
private theorem dated_of_stepCaller {status : Status} (h : c.stepCaller now status key = some c')
    (hc : c.callers[key]? = some ⟨.ask guarded method params limit, stage⟩) (hsince : since ≤ now)
    (hd : Dated past now key since limit stage) :
    ∃ after, c'.callers[key]? = some ⟨.ask guarded method params limit, after⟩ ∧
      Dated past now key since limit after := by
  obtain ⟨job, before, after, hc', hadvance⟩ := advance_of_stepCaller h
  rw [hc] at hc'
  cases hc'
  have hrefused (id : Option Nat) :
      Dated past now key since limit (refused (.ask guarded method params limit) id) := by
    cases id <;> trivial
  have haccepted (hheld : HeldUp past key since now) (id : Option Nat) :
      Dated past now key since limit (accepted now (.ask guarded method params limit) id) := by
    cases id with
    | none => trivial
    | some id => exact ⟨now, hsince, Nat.le_refl now, rfl, hheld⟩
  refine ⟨after, by rw [hadvance.callers, setStage_caller hc], ?_⟩
  cases hadvance with
  | refuse _ | closed _ | collect _ | lost _ _ | remove => trivial
  | ask _ | tell _ | identify | register _ | verified _ | wait _ _ => exact hd
  | @shut id _ | @leave id _ => exact hrefused id
  | @send id _ _ | @redeem id _ _ => exact haccepted hd id

private theorem dated_of_make {m : Move} (hmake : c.make? m = some c') (hat : m.At now)
    (hc : c.callers[key]? = some ⟨.ask guarded method params limit, stage⟩) (hsince : since ≤ now)
    (hd : Dated past now key since limit stage) :
    ∃ after, c'.callers[key]? = some ⟨.ask guarded method params limit, after⟩ ∧
      Dated past now key since limit after := by
  rcases caller_of_make hmake hc with hsame | ⟨-, rfl⟩ | ⟨time, status, rfl, hstep⟩ | ⟨time, status, rfl, hexpire⟩
  · exact ⟨stage, hsame, hd⟩
  · refine ⟨_, abandon_caller hc, ?_⟩
    split
    · exact hd
    · trivial
  · obtain rfl : time = now := hat
    exact dated_of_stepCaller hstep hc hsince hd
  · obtain ⟨id, deadline, _, _, -, hafter⟩ := caller_of_expire hexpire hc
    exact ⟨_, hafter, trivial⟩

private theorem HeldUp.cons (h : HeldUp past key since now) (hc : (∃ id, c.stage? key = some (.queued id)) ∧ c.Jammed) :
    HeldUp ((now, c) :: past) key since (now + 1) := by
  intro time hlo hhi
  rcases Nat.lt_succ_iff_lt_or_eq.1 hhi with hlt | rfl
  · obtain ⟨before, hmem, hbefore⟩ := h time hlo hlt
    exact ⟨before, List.mem_cons_of_mem _ hmem, hbefore⟩
  · exact ⟨c, List.mem_cons_self, hc⟩

private theorem HeldUp.mono {upTo : Nat} (h : HeldUp past key since upTo) (p : Nat × Channel) :
    HeldUp (p :: past) key since upTo := by
  intro time hlo hhi
  obtain ⟨before, hmem, hbefore⟩ := h time hlo hhi
  exact ⟨before, List.mem_cons_of_mem _ hmem, hbefore⟩

/-- Time goes on over a request that waits for its response, or is held up once more. -/
private theorem dated_of_pass (h : AtRest now c) (ho : Orderly c)
    (hc : c.callers[key]? = some ⟨.ask guarded method params limit, stage⟩)
    (hd : Dated past now key since limit stage) : Dated ((now, c) :: past) (now + 1) key since limit stage := by
  have hrest := h.resting hc fun _ _ _ => rfl
  cases stage with
  | queued id =>
    have hstage : c.stage? key = some (.queued id) := by simp [stage?, hc]
    exact HeldUp.cons hd ⟨⟨id, hstage⟩, h.jammed ho hstage hrest⟩
  | waiting id deadline =>
    obtain ⟨taken, hlo, hhi, hdeadline, hheld⟩ := hd
    exact ⟨taken, hlo, Nat.le_succ_of_le hhi, hdeadline, hheld.mono _⟩
  | withdraw id fault => trivial
  | done outcome => trivial
  | abandoned => trivial
  | _ => cases hrest

end

/-- Whoever has come is there, and every request is dated by the time at which it came. -/
private theorem Clocked.dated {come : List (Nat × Nat)} {past : List (Nat × Channel)} {now : Nat} {c : Channel}
    (h : Clocked come past now c) {key since : Nat} (hcome : (key, since) ∈ come) :
    since ≤ now ∧ ∃ job stage, c.callers[key]? = some ⟨job, stage⟩ ∧
      ∀ guarded method params limit, job = .ask guarded method params limit →
        Dated past now key since limit stage := by
  induction h with
  | fresh now => cases hcome
  | @move come past now c c' m _ hat hmake ih =>
    rcases List.mem_append.1 hcome with hnew | hold
    · cases m with
      | enter job =>
        obtain ⟨rfl, rfl⟩ := Prod.mk.inj (List.mem_singleton.1 hnew)
        cases hmake
        refine ⟨Nat.le_refl _, job, .gate, List.getElem?_concat_length, fun _ _ _ _ _ time hlo hhi => ?_⟩
        exact absurd hhi (Nat.not_lt.2 hlo)
      | _ => cases hnew
    · obtain ⟨hsince, job, stage, hc, hdated⟩ := ih hold
      by_cases hask : job.isAsk = true
      · cases job with
        | ask guarded method params limit =>
          obtain ⟨after, hafter, hd⟩ := dated_of_make hmake hat hc hsince (hdated _ _ _ _ rfl)
          refine ⟨hsince, _, after, hafter, ?_⟩
          rintro _ _ _ _ ⟨⟩
          exact hd
        | tell guarded method params => cases hask
        | finish => cases hask
      · obtain ⟨after, hafter⟩ := (change_of_make hmake).job_stays hc
        refine ⟨hsince, job, after, hafter, ?_⟩
        rintro _ _ _ _ rfl
        exact absurd rfl hask
  | @pass come past now c hclocked hrest ih =>
    obtain ⟨hsince, job, stage, hc, hdated⟩ := ih hcome
    obtain ⟨es, hrun⟩ := hclocked.run
    refine ⟨Nat.le_succ_of_le hsince, job, stage, hc, ?_⟩
    rintro guarded method params limit rfl
    exact dated_of_pass hrest hrun.orderly hc (hdated _ _ _ _ rfl)

private theorem Clocked.goes {come : List (Nat × Nat)} {past : List (Nat × Channel)} {now : Nat} {c c' : Channel}
    (h : Clocked come past now c) (hgo : Relation.ReflTransGen (Goes now) c c') : Clocked come past now c' := by
  induction hgo with
  | refl => exact h
  | tail _ hstep ih =>
    obtain ⟨status, status', label, hstep⟩ := hstep
    exact ih.move (.step now status label) rfl (by rw [make?, hstep, Option.map_some])

/-- Whatever the worker does, and however many callers there are: at every instant everyone comes to rest. When nobody
can go on, and the time of a request is over, counted from when it came, then the request has come to its end; or it is
held up still; or it has been held up from when it came until the mailbox took its message, and its time is not over
yet, counted from then. -/
theorem Clocked.overdue {come : List (Nat × Nat)} {past : List (Nat × Channel)} {now : Nat} {c : Channel}
    (h : Clocked come past now c) :
    (∃ c', Relation.ReflTransGen (Goes now) c c' ∧ Clocked come past now c' ∧ AtRest now c') ∧
    (AtRest now c → ∀ (key since : Nat) (guarded : Bool) (method : String) (params : Params) (limit : Duration)
        (stage : Stage), (key, since) ∈ come → c.callers[key]? = some ⟨.ask guarded method params limit, stage⟩ →
      since + limit.nanos ≤ now →
        stage.isOver = true ∨
        ((∃ id, stage = .queued id) ∧ HeldUp ((now, c) :: past) key since (now + 1)) ∨
        ∃ id taken, stage = .waiting id (taken + limit.nanos) ∧ since < taken ∧ taken ≤ now ∧
          now < taken + limit.nanos ∧ HeldUp past key since taken) := by
  constructor
  · obtain ⟨c', hgo, hrest⟩ := comes_to_rest now c
    exact ⟨c', hgo, h.goes hgo, hrest⟩
  · intro hrest key since guarded method params limit stage hcome hc hdue
    obtain ⟨es, hrun⟩ := h.run
    obtain ⟨hsince, job, stage', hc', hdated⟩ := h.dated hcome
    rw [hc] at hc'
    cases hc'
    have hd := hdated _ _ _ _ rfl
    have hresting := hrest.resting hc fun _ _ _ => rfl
    cases stage with
    | queued id =>
      have hstage : c.stage? key = some (.queued id) := by simp [stage?, hc]
      have hjammed := hrest.jammed hrun.orderly hstage hresting
      exact Or.inr (Or.inl ⟨⟨id, rfl⟩, HeldUp.cons hd ⟨⟨id, hstage⟩, hjammed⟩⟩)
    | waiting id deadline =>
      obtain ⟨taken, hlo, hhi, rfl, hheld⟩ := hd
      have htime : now < taken + limit.nanos := hresting.2.2
      exact Or.inr (Or.inr ⟨id, taken, rfl, by omega, hhi, htime, hheld⟩)
    | done outcome => exact Or.inl rfl
    | abandoned => exact Or.inl rfl
    | _ => cases hresting

private theorem Clocked.atRest_of_one {come : List (Nat × Nat)} {past : List (Nat × Channel)} {now : Nat}
    {c : Channel} (_ : Clocked come past now c) {job : Job} {stage : Stage} (hc : c.callers = [⟨job, stage⟩])
    (hs : c.Resting now 0 stage) (hw : c.stepWriter = none) (hr : ∀ status, c.stepReader status = none) :
    AtRest now c := by
  refine atRest_of_resting (fun key job' stage' hc' => ?_) hw hr
  rw [hc] at hc'
  cases key with
  | zero =>
    cases hc'
    exact hs
  | succ key => cases hc'

/-- A request waits until its time is over, and is told so. -/
theorem overdue_timeout : ∃ come past c stage, Clocked come past 1 c ∧ AtRest 1 c ∧ (0, 0) ∈ come ∧
    c.callers[0]? = some ⟨.ask false "m" .absent ⟨1⟩, stage⟩ ∧ 0 + 1 ≤ 1 ∧ stage.isOver = true := by
  have entered := (Clocked.fresh 0).move (.enter (.ask false "m" .absent ⟨1⟩)) trivial rfl
  have identified := (entered.move (.step 0 ⟨.running, 0⟩ (.caller 0)) rfl rfl).move
    (.step 0 ⟨.running, 0⟩ (.caller 0)) rfl rfl
  have verified := (identified.move (.step 0 ⟨.running, 0⟩ (.caller 0)) rfl rfl).move
    (.step 0 ⟨.running, 0⟩ (.caller 0)) rfl rfl
  have waiting := verified.move (.step 0 ⟨.running, 0⟩ (.caller 0)) rfl rfl
  have writing := (waiting.move (.step 0 ⟨.running, 0⟩ .writer) rfl rfl).move (.step 0 ⟨.running, 0⟩ .writer) rfl rfl
  have written := writing.move (.step 0 ⟨.running, 0⟩ .writer) rfl rfl
  have passed := written.pass
    (written.atRest_of_one rfl ⟨rfl, List.mem_cons_self, Nat.zero_lt_one⟩ rfl fun _ => rfl)
  have late := (passed.move (.step 1 ⟨.running, 0⟩ (.expire 0)) rfl rfl).move
    (.step 1 ⟨.running, 0⟩ (.caller 0)) rfl rfl
  have hrest := late.atRest_of_one rfl trivial rfl fun _ => rfl
  have hcome : (0, 0) ∈ [(0, 0)] := List.mem_cons_self
  refine ⟨_, _, _, _, late, hrest, hcome, rfl, Nat.le_refl 1, ?_⟩
  obtain ⟨-, hdue⟩ := late.overdue
  rcases hdue hrest 0 0 _ _ _ _ _ hcome rfl (Nat.le_refl 1) with hover | ⟨⟨_, hqueued⟩, -⟩ | ⟨_, _, hwaiting, -⟩
  · exact hover
  · cases hqueued
  · cases hwaiting

/-! ### A worker that reads nothing -/

section

variable {come : List (Nat × Nat)} {past : List (Nat × Channel)} {now : Nat} {c c' : Channel}

/-- What callers and the writer do at one instant is done under the clock; whoever has come in the course of it has
come then. -/
private theorem Clocked.stirs {status : Status} (h : Clocked come past now c)
    (hgo : Relation.ReflTransGen (Stir now status) c c') :
    ∃ come', Clocked come' past now c' ∧ c.callers.length ≤ c'.callers.length ∧
      ∀ key, c.callers.length ≤ key → key < c'.callers.length → (key, now) ∈ come' := by
  induction hgo with
  | refl => exact ⟨come, h, Nat.le_refl _, fun key hlo hhi => absurd hlo (Nat.not_le.2 hhi)⟩
  | @tail b c' _ hstir ih =>
    obtain ⟨come', hb, hlen, hcome⟩ := ih
    cases hstir with
    | enter job =>
      have hlonger : (b.enter job).1.callers.length = b.callers.length + 1 := by simp [Channel.enter]
      refine ⟨_, hb.move (.enter job) trivial rfl, by omega, fun key hlo hhi => ?_⟩
      rw [hlonger] at hhi
      rcases Nat.lt_succ_iff_lt_or_eq.1 hhi with hold | rfl
      · exact List.mem_append_right _ (hcome key hlo hold)
      · exact List.mem_append_left _ List.mem_cons_self
    | caller key hstep =>
      obtain ⟨job, before, after, -, hadvance⟩ := advance_of_stepCaller hstep
      have hsame : c'.callers.length = b.callers.length := by
        rw [hadvance.callers, setStage, List.length_modify]
      refine ⟨_, hb.move (.step now ⟨status, 0⟩ (.caller key)) rfl (by simp [make?, step, hstep]), ?_, ?_⟩
      · rwa [hsame]
      · rw [hsame]
        exact hcome
    | writer hstep =>
      have hsame : c'.callers = b.callers := congrArg Ledger.callers (change_of_stepWriter hstep)
      refine ⟨_, hb.move (.step now ⟨status, 0⟩ .writer) rfl (by simp [make?, step, hstep]), ?_, ?_⟩
      · rwa [hsame]
      · rw [hsame]
        exact hcome

private theorem Clocked.idle (h : Clocked come past now c) (span : Nat)
    (hrest : ∀ time, now ≤ time → time < now + span → AtRest time c) :
    ∃ past', Clocked come past' (now + span) c := by
  induction span with
  | zero => exact ⟨past, h⟩
  | succ span ih =>
    obtain ⟨past', hpassed⟩ := ih fun time hlo hhi => hrest time hlo (by omega)
    exact ⟨_, hpassed.pass (hrest (now + span) (by omega) (by omega))⟩

/-- However long it has waited already, a request can still wait for room, when the pipe and the mailbox are full and
the worker reads nothing. -/
theorem exists_held_up (limit : Duration) (wait : Nat) :
    ∃ come past c key id, Clocked come past (limit.nanos + wait) c ∧ AtRest (limit.nanos + wait) c ∧ (key, 0) ∈ come ∧
      c.callers[key]? = some ⟨.ask false "m" .absent limit, .queued id⟩ := by
  let long : Duration := ⟨limit.nanos + wait + 1⟩
  have hidle : Idle long.nanos {} :=
    ⟨⟨rfl, rfl, fun key job stage hc => by cases hc⟩, rfl, rfl, rfl, by decide⟩
  have hguard : false = true → Status.running = .running := nofun
  obtain ⟨c, hgo, hs, -⟩ := hidle.stuffed (Nat.le_of_eq (Nat.zero_add long.nanos).symm) .running hguard
  obtain ⟨c', id, hgo', hs', hcallers⟩ := hs.queue 0 .running hguard "m" limit
  have hall := (hgo.tail (.enter _)).trans hgo'
  obtain ⟨come, queued, -, hcome⟩ := (Clocked.fresh 0).stirs hall
  obtain ⟨hr, hf, -⟩ := stirs_frame hall
  have hrest (time : Nat) (htime : time < long.nanos) : AtRest time c' :=
    hs'.atRest htime fun status => by simp [stepReader, hr, hf, Pipe.empty]
  obtain ⟨past, passed⟩ := queued.idle (limit.nanos + wait) fun time _ hhi => hrest time (by
    show time < limit.nanos + wait + 1
    omega)
  rw [Nat.zero_add] at passed
  refine ⟨come, past, c', c.callers.length, id, passed, hrest _ (Nat.lt_succ_self _), hcome _ (Nat.zero_le _) ?_, ?_⟩
  · rw [hcallers, List.length_append]
    exact Nat.lt_succ_self _
  · rw [hcallers, List.getElem?_concat_length]

end

/-- So it is not true that every request comes to its end by the time that it has been given. -/
theorem not_in_time : ¬∀ (come : List (Nat × Nat)) (past : List (Nat × Channel)) (now : Nat) (c : Channel)
    (key since : Nat) (guarded : Bool) (method : String) (params : Params) (limit : Duration) (stage : Stage),
    Clocked come past now c → AtRest now c → (key, since) ∈ come →
    c.callers[key]? = some ⟨.ask guarded method params limit, stage⟩ → since + limit.nanos ≤ now →
    stage.isOver = true := by
  intro h
  obtain ⟨come, past, c, key, id, hclocked, hrest, hcome, hc⟩ := exists_held_up (.ofSecs 1) 0
  have hover := h come past _ c key 0 _ _ _ _ _ hclocked hrest hcome hc (Nat.le_of_eq (Nat.zero_add _))
  cases hover

end Channel

end Attendant

import Attendant.Proofs.Channel.Traffic

/-!
# When the writer or both tasks are gone

A caller that has not handed its message over finds the mailbox shut once the writer has ended: it goes on by itself,
and is told that the transport is closed. A caller that waits for its response is not looked after by the writer, but
by the reader: it is let go when the reader comes to the end of its stream, and by nobody else. A reader that is
stopped from outside never comes there, so whoever waits then waits until its time is up.

* `TurnedAway`: the stages of a caller that has come too late for the writer, and every move keeps them;
* `Stranded`: the stages of a caller that has been left behind by the reader, and every move keeps them;
* `Run.torn_down`: what becomes of a request when the writer, or both tasks, are gone.
-/

namespace Attendant

/-- Whether a caller has begun, but not handed its message over yet. -/
def Stage.isUnsent : Stage → Bool
  | .identify | .register _ | .verify _ | .submit _ | .queued _ => true
  | _ => false

namespace Channel

/-! ### Callers that have come too late for the writer -/

/-- The stages of a caller that has come too late for the writer. -/
def TurnedAway (stage : Stage) : Prop :=
  stage.isUnsent = true ∨ (∃ id, stage = .withdraw id .transportClosed) ∨ stage = .done (.error .transportClosed) ∨
    stage = .abandoned

section

variable {c c' : Channel} {key : Nat} {job : Job} {stage : Stage}

private theorem turnedAway_of_refused (hask : job.isAsk = true) (id : Option Nat) : TurnedAway (refused job id) := by
  cases job with
  | ask guarded method params limit =>
    cases id with
    | some id => exact Or.inr (Or.inl ⟨id, rfl⟩)
    | none => exact Or.inr (Or.inr (Or.inl rfl))
  | tell guarded method params => cases hask
  | finish => cases hask

/-- Whoever has not handed its message over can go on, and finds the mailbox shut. -/
private theorem stepCaller_of_isUnsent (hc : c.callers[key]? = some ⟨job, stage⟩) (hask : job.isAsk = true)
    (hshut : c.mailbox.isOpen = false) (hs : stage.isUnsent = true) (now : Nat) (status : Status) :
    ∃ c' after, c.stepCaller now status key = some c' ∧ c'.callers[key]? = some ⟨job, after⟩ ∧ TurnedAway after := by
  have hto (after : Stage) := setStage_caller hc after
  cases stage with
  | identify =>
    refine ⟨{ c.setStage key (.register c.nextId) with nextId := (c.nextId + 1) % width64 }, _, ?_,
      hto (.register c.nextId), Or.inl rfl⟩
    simp [stepCaller, hc]
  | register id =>
    refine ⟨{ c.setStage key (.verify id) with pending := c.pending ++ [id] }, _, ?_, hto (.verify id), Or.inl rfl⟩
    simp [stepCaller, hc]
  | verify id =>
    refine ⟨_, _, stepCaller_verify hc now status, hto _, ?_⟩
    split
    · exact Or.inr (Or.inl ⟨id, rfl⟩)
    · exact Or.inl rfl
  | submit id =>
    refine ⟨_, _, ?_, hto (refused job id), turnedAway_of_refused hask id⟩
    simp [stepCaller, hc, hshut]
  | queued id =>
    refine ⟨{ c.setStage key (refused job id) with mailbox := c.mailbox.withdraw (.caller key) }, _, ?_,
      hto (refused job id), turnedAway_of_refused hask id⟩
    simp [stepCaller, hc, hshut]
  | _ => cases hs

/-- Whoever has come too late for the writer is turned away, whatever comes. -/
private theorem turnedAway_of_make {m : Move} (h : Orderly c) (hmake : c.make? m = some c') (hw : c.writer = .ended)
    (hc : c.callers[key]? = some ⟨job, stage⟩) (hask : job.isAsk = true) (hs : TurnedAway stage) :
    ∃ after, c'.callers[key]? = some ⟨job, after⟩ ∧ TurnedAway after := by
  have hshut : c.mailbox.isOpen = false := h.shut_iff.2 hw
  rcases caller_of_make hmake hc with hsame | ⟨-, rfl⟩ | ⟨now, status, -, hstep⟩ | ⟨now, status, -, hexpire⟩
  · exact ⟨stage, hsame, hs⟩
  · refine ⟨_, abandon_caller hc, ?_⟩
    split
    · exact hs
    · exact Or.inr (Or.inr (Or.inr rfl))
  · rcases hs with hs | ⟨id, rfl⟩ | rfl | rfl
    · obtain ⟨c'', after, hstep', hafter, hto⟩ := stepCaller_of_isUnsent hc hask hshut hs now status.value
      obtain rfl : c'' = c' := Option.some.inj (hstep'.symm.trans hstep)
      exact ⟨after, hafter, hto⟩
    · rw [stepCaller_withdraw hc] at hstep
      cases hstep
      exact ⟨_, setStage_caller hc _, Or.inr (Or.inr (Or.inl rfl))⟩
    · simp [stepCaller, hc] at hstep
    · simp [stepCaller, hc] at hstep
  · obtain ⟨id, deadline, rfl, -⟩ := mem_pending_of_expire hexpire hc
    rcases hs with hs | ⟨id, hs⟩ | hs | hs <;> cases hs

end

private theorem Run.turnedAway {es more : List Entry} {c c' : Channel} (h : Run es c) (hw : c.writer = .ended)
    {key : Nat} {job : Job} {stage : Stage} (hc : c.callers[key]? = some ⟨job, stage⟩) (hask : job.isAsk = true)
    (hs : TurnedAway stage) (h' : Run (more ++ es) c') :
    c'.writer = .ended ∧ ∃ after, c'.callers[key]? = some ⟨job, after⟩ ∧ TurnedAway after := by
  induction more generalizing c' with
  | nil =>
    obtain rfl := h.unique h'
    exact ⟨hw, stage, hc, hs⟩
  | cons e more ih =>
    cases h' with
    | @move _ before _ m hrun hmake =>
      obtain ⟨hended, after, hafter, hto⟩ := ih hrun
      exact ⟨writer_ended_of_make hmake hended, turnedAway_of_make hrun.orderly hmake hended hafter hask hto⟩

/-! ### Callers that the reader has left behind -/

/-- The stages of a caller that has waited when the reader was stopped: nothing but its time lets it go. -/
def Stranded (c : Channel) (id deadline : Nat) (stage : Stage) : Prop :=
  (stage = .waiting id deadline ∧ id ∈ c.pending ∧ id ∉ c.answers.map Prod.fst) ∨
    (∃ method limit, stage = .withdraw id (.timeout method limit)) ∨
    (∃ method limit, stage = .done (.error (.timeout method limit))) ∨ stage = .abandoned

private theorem stopped_of_make {c c' : Channel} {m : Move} (h : c.make? m = some c') (hr : c.reader = .stopped) :
    c'.reader = .stopped := by
  rcases reader_of_make h with ⟨-, hsame | ⟨-, hstopped⟩⟩ | ⟨now, status, next, -, hstep, -⟩
  · exact hsame.trans hr
  · exact hstopped
  · simp [stepReader, hr] at hstep

private theorem resolved?_of_stopped {c c' : Channel} {m : Move} (hr : c.reader = .stopped) :
    Entry.resolved? ⟨c, m, c'⟩ = none := by
  unfold Entry.resolved?
  split
  · rename_i hd
    rw [hr] at hd
    cases hd
  · rfl

/-- Whoever waits keeps its slot, and gets no answer. -/
private theorem Run.slot_of_stopped {es : List Entry} {c c' : Channel} {m : Move} (h : Run es c)
    (hn : (taken es).length < width64) (hmake : c.make? m = some c') (hr : c.reader = .stopped) {key id : Nat}
    {job : Job} {deadline : Nat} (hc : c.callers[key]? = some ⟨job, .waiting id deadline⟩) (hp : id ∈ c.pending)
    (ha : id ∉ c.answers.map Prod.fst) : id ∈ c'.pending ∧ id ∉ c'.answers.map Prod.fst := by
  have hsound := h.sound hn
  have hchange := change_of_make hmake
  rw [resolved?_of_stopped hr] at hchange
  have hnone : id ∉ c'.answers.map Prod.fst := fun ha' => ha (hchange.answers_before ha')
  refine ⟨?_, hnone⟩
  rcases hchange.mem_pending hp with hp | ha' | ⟨other, job', fault, ho⟩ | ⟨hwho, -⟩
  · exact hp
  · exact absurd ha' hnone
  · -- nobody else takes back a slot with this id
    have hkey := (hsound.standing key _ hc).mem_of_slot? rfl
    obtain rfl := hsound.key_eq (hsound.standing other _ ho).2.1 hkey
    rw [show c.ledger.callers[other]? = some ⟨job, .waiting id deadline⟩ from hc] at ho
    cases ho
  · rcases pending_of_caller?_none hmake hwho (resolved?_of_stopped hr) with hsame | he
    · rw [hsame]
      exact hp
    · have hstopped := stopped_of_make hmake hr
      rw [he] at hstopped
      cases hstopped

/-- Whoever has been left behind by the reader stays so, whatever comes. -/
private theorem Run.stranded_of_make {es : List Entry} {c c' : Channel} {m : Move} (h : Run es c)
    (hn : (taken es).length < width64) (hmake : c.make? m = some c') (hr : c.reader = .stopped)
    {key id deadline : Nat} {job : Job} {stage : Stage} (hc : c.callers[key]? = some ⟨job, stage⟩)
    (hs : c.Stranded id deadline stage) :
    ∃ after, c'.callers[key]? = some ⟨job, after⟩ ∧ c'.Stranded id deadline after := by
  rcases caller_of_make hmake hc with hsame | ⟨-, rfl⟩ | ⟨now, status, -, hstep⟩ | ⟨now, status, -, hexpire⟩
  · refine ⟨stage, hsame, ?_⟩
    rcases hs with ⟨rfl, hp, ha⟩ | hs
    · exact Or.inl ⟨rfl, h.slot_of_stopped hn hmake hr hc hp ha⟩
    · exact Or.inr hs
  · refine ⟨_, abandon_caller hc, ?_⟩
    by_cases hover : stage.isOver = true
    · rw [if_pos hover]
      rcases hs with ⟨rfl, -⟩ | hs
      · cases hover
      · exact Or.inr hs
    · rw [if_neg hover]
      exact Or.inr (Or.inr (Or.inr rfl))
  · rcases hs with ⟨rfl, hp, ha⟩ | ⟨method, limit, rfl⟩ | ⟨method, limit, rfl⟩ | rfl
    · rw [stepCaller_waiting hc ha, if_pos hp] at hstep
      cases hstep
    · rw [stepCaller_withdraw hc] at hstep
      cases hstep
      exact ⟨_, setStage_caller hc _, Or.inr (Or.inr (Or.inl ⟨method, limit, rfl⟩))⟩
    · simp [stepCaller, hc] at hstep
    · simp [stepCaller, hc] at hstep
  · obtain ⟨other, deadline', method, limit, rfl, hafter⟩ := caller_of_expire hexpire hc
    refine ⟨_, hafter, Or.inr (Or.inl ⟨method, limit, ?_⟩)⟩
    rcases hs with ⟨hs, -⟩ | ⟨_, _, hs⟩ | ⟨_, _, hs⟩ | hs <;> cases hs
    rfl

private theorem Run.stranded {es more : List Entry} {c c' : Channel} (h : Run es c) (hr : c.reader = .stopped)
    {key id deadline : Nat} {job : Job} {stage : Stage} (hc : c.callers[key]? = some ⟨job, stage⟩)
    (hs : c.Stranded id deadline stage) (h' : Run (more ++ es) c') (hn : (taken (more ++ es)).length < width64) :
    c'.reader = .stopped ∧ ∃ after, c'.callers[key]? = some ⟨job, after⟩ ∧ c'.Stranded id deadline after := by
  induction more generalizing c' with
  | nil =>
    obtain rfl := h.unique h'
    exact ⟨hr, stage, hc, hs⟩
  | cons e more ih =>
    cases h' with
    | @move _ before _ m hrun hmake =>
      have hn' := Nat.lt_of_le_of_lt (taken_length_le _ _) hn
      obtain ⟨hstopped, after, hafter, hto⟩ := ih hrun hn'
      exact ⟨stopped_of_make hmake hstopped, hrun.stranded_of_make hn' hmake hstopped hafter hto⟩

private theorem abort_reader {c : Channel} (hr : c.reader ≠ .ended) : c.abort.reader = .stopped := by
  rcases reader_of_make (m := .abort) (c := c) rfl with ⟨-, hsame | ⟨-, hstopped⟩⟩ | ⟨_, _, _, hm, -, -⟩
  · have hover := abort_isOver c
    rw [hsame] at hover ⊢
    cases hreader : c.reader with
    | ended => exact absurd hreader hr
    | stopped => rfl
    | _ =>
      rw [hreader] at hover
      cases hover
  · exact hstopped
  · cases hm

/-! ### What becomes of a request -/

/-- As long as fewer than `2 ^ 64` ids have been taken, whatever the order of steps: the mailbox is shut exactly when the
writer has ended. A request that has not handed its message over by then can make its next step, never comes to wait,
and has no other outcome than that the transport is closed. Whoever waits without an answer when the reader has come
to its end is told so at its next step, and its time is not looked at; as long as the reader has not come there its slot
stays, and it can make no step, whatever the writer does. So when both tasks are stopped before the reader has come to
its end, whoever waits is left where it is until its time is up, or it gives up. -/
theorem Run.torn_down {es : List Entry} {c : Channel} (h : Run es c) (hn : (taken es).length < width64) :
    (c.mailbox.isOpen = false ↔ c.writer = .ended) ∧
    ∀ key job stage, c.callers[key]? = some ⟨job, stage⟩ → job.isAsk = true →
      (c.writer = .ended → stage.isUnsent = true →
        (∀ now status, ∃ c', c.stepCaller now status key = some c') ∧
        ∀ more c', Run (more ++ es) c' →
          (∀ id deadline, c'.stage? key ≠ some (.waiting id deadline)) ∧
          ∀ outcome, c'.outcome? key = some outcome → outcome = .error .transportClosed) ∧
      ∀ id deadline, stage = .waiting id deadline → id ∉ c.answers.map Prod.fst →
        (c.reader = .ended → ∀ now status,
          c.stepCaller now status key = some (c.setStage key (.withdraw id .transportClosed)) ∧
            c.expire now key = none) ∧
        (c.reader ≠ .ended → id ∈ c.pending ∧ ∀ now status, c.stepCaller now status key = none) ∧
        (c.reader ≠ .ended → ∀ more c', Run (more ++ ⟨c, .abort, c.abort⟩ :: es) c' →
          (taken (more ++ ⟨c, .abort, c.abort⟩ :: es)).length < width64 →
          (c'.stage? key = some (.waiting id deadline) ∧ id ∈ c'.pending) ∨ c'.stage? key = some .abandoned ∨
            (∃ method limit, c'.stage? key = some (.withdraw id (.timeout method limit))) ∨
            ∃ method limit, c'.outcome? key = some (.error (.timeout method limit))) := by
  refine ⟨h.orderly.shut_iff, fun key job stage hc hask => ⟨fun hw hs => ⟨fun now status => ?_, ?_⟩, ?_⟩⟩
  · obtain ⟨c', -, hstep, -⟩ := stepCaller_of_isUnsent hc hask (h.orderly.shut_iff.2 hw) hs now status
    exact ⟨c', hstep⟩
  · intro more c' h'
    obtain ⟨-, after, hafter, hto⟩ := h.turnedAway hw hc hask (Or.inl hs) h'
    refine ⟨fun id deadline hwait => ?_, fun outcome ho => ?_⟩
    · simp only [stage?, hafter, Option.map_some, Option.some.injEq] at hwait
      subst hwait
      rcases hto with hto | ⟨_, hto⟩ | hto | hto <;> cases hto
    · obtain ⟨job', hdone⟩ := outcome?_eq_some.1 ho
      rw [hafter] at hdone
      cases hdone
      rcases hto with hto | ⟨_, hto⟩ | hto | hto <;> cases hto
      rfl
  · rintro id deadline rfl ha
    have hslot (hr : c.reader ≠ .ended) : id ∈ c.pending := by
      rcases h.held hn hc rfl with hp | ha' | he
      · exact hp
      · exact absurd ha' ha
      · exact absurd he hr
    refine ⟨fun he now status => ?_, fun hr => ⟨hslot hr, fun now status => ?_⟩, fun hr more c' h' hn' => ?_⟩
    · have hgone : id ∉ c.pending := by
        intro hp
        cases h.cleared hn he hc rfl hp
      refine ⟨by rw [stepCaller_waiting hc ha, if_neg hgone], ?_⟩
      cases hexpire : c.expire now key with
      | none => rfl
      | some c' =>
        obtain ⟨other, _, hother, hp⟩ := mem_pending_of_expire hexpire hc
        cases hother
        exact absurd hp hgone
    · rw [stepCaller_waiting hc ha, if_pos (hslot hr)]
    · have habort : Run (⟨c, .abort, c.abort⟩ :: es) c.abort := h.move .abort rfl
      have hledger := abort_ledger c
      have hc' : c.abort.callers[key]? = some ⟨job, .waiting id deadline⟩ :=
        (congrArg (fun l => l.callers[key]?) hledger).trans hc
      have hstranded : c.abort.Stranded id deadline (.waiting id deadline) := by
        refine Or.inl ⟨rfl, ?_, ?_⟩
        · rw [show c.abort.pending = c.pending from congrArg Ledger.pending hledger]
          exact hslot hr
        · rw [show c.abort.answers = c.answers from congrArg Ledger.answers hledger]
          exact ha
      obtain ⟨-, after, hafter, hto⟩ := habort.stranded (abort_reader hr) hc' hstranded h' hn'
      have hstage : c'.stage? key = some after := by rw [stage?, hafter, Option.map_some]
      rw [hstage]
      rcases hto with ⟨rfl, hp, -⟩ | ⟨method, limit, rfl⟩ | ⟨method, limit, rfl⟩ | rfl
      · exact Or.inl ⟨rfl, hp⟩
      · exact Or.inr (Or.inr (Or.inl ⟨method, limit, rfl⟩))
      · exact Or.inr (Or.inr (Or.inr ⟨method, limit, outcome?_eq_some.2 ⟨job, hafter⟩⟩))
      · exact Or.inr (Or.inl rfl)

/-- One caller waits when the worker closes its input and the writer ends with its message, another one is at the
mailbox; then both tasks are stopped. -/
theorem torn_down_waiter : ∃ es c, Run es c ∧ (taken es).length < width64 ∧ c.writer = .ended ∧
    c.stage? 0 = some (.waiting 1 0) ∧ c.stage? 1 = some (.submit (some 2)) ∧
    (1 ∈ c.pending ∧ ∀ now status, c.stepCaller now status 0 = none) ∧
    (∀ now status, ∃ c', c.stepCaller now status 1 = some c') ∧
    ∀ c' outcome, Run (⟨c, .abort, c.abort⟩ :: es) c' → c'.outcome? 1 = some outcome →
      outcome = .error .transportClosed := by
  have entered :=
    (Run.fresh.move (.enter (.ask false "m" .absent ⟨0⟩)) rfl).move (.enter (.ask false "m" .absent ⟨0⟩)) rfl
  have identified := (entered.move (.step 0 ⟨.running, 0⟩ (.caller 0)) rfl).move (.step 0 ⟨.running, 0⟩ (.caller 0)) rfl
  have verified :=
    (identified.move (.step 0 ⟨.running, 0⟩ (.caller 0)) rfl).move (.step 0 ⟨.running, 0⟩ (.caller 0)) rfl
  have waiting := verified.move (.step 0 ⟨.running, 0⟩ (.caller 0)) rfl
  have late := (waiting.move (.step 0 ⟨.running, 0⟩ (.caller 1)) rfl).move (.step 0 ⟨.running, 0⟩ (.caller 1)) rfl
  have submitting := (late.move (.step 0 ⟨.running, 0⟩ (.caller 1)) rfl).move (.step 0 ⟨.running, 0⟩ (.caller 1)) rfl
  have writing := (submitting.move (.act .closesInput) rfl).move (.step 0 ⟨.running, 0⟩ .writer) rfl
  have broken := writing.move (.step 0 ⟨.running, 0⟩ .writer) rfl
  obtain ⟨-, hcallers⟩ := broken.torn_down (by decide)
  obtain ⟨-, hwaiting⟩ := hcallers 0 _ _ rfl rfl
  obtain ⟨-, hleft, -⟩ := hwaiting 1 0 rfl (by decide)
  obtain ⟨hturned, -⟩ := hcallers 1 _ _ rfl rfl
  obtain ⟨hsteps, houtcome⟩ := hturned rfl rfl
  exact ⟨_, _, broken, by decide, rfl, rfl, rfl, hleft nofun, hsteps, fun c' outcome h' =>
    (houtcome [_] c' h').2 outcome⟩

/-- So it is not true that every request that is under way when the writer ends, with no frame written to its end, or
when both tasks are stopped, is told that the transport is closed. -/
theorem not_torn_down_at_all :
    (¬∀ (es more : List Entry) (c c' : Channel) (key : Nat) (job : Job) (stage : Stage)
        (outcome : Except RequestFault Value),
      Run es c → (taken (more ++ es)).length < width64 → c.callers[key]? = some ⟨job, stage⟩ → job.isAsk = true →
      stage.isOver = false → c.writer = .ended → (∀ e ∈ es, e.before.writer ≠ .writing []) → Run (more ++ es) c' →
      c'.outcome? key = some outcome → outcome = .error .transportClosed) ∧
    ¬∀ (es more : List Entry) (c c' : Channel) (key : Nat) (job : Job) (stage : Stage)
        (outcome : Except RequestFault Value),
      Run (⟨c, .abort, c.abort⟩ :: es) c.abort → (taken (more ++ ⟨c, .abort, c.abort⟩ :: es)).length < width64 →
      c.callers[key]? = some ⟨job, stage⟩ → job.isAsk = true → stage.isOver = false →
      Run (more ++ ⟨c, .abort, c.abort⟩ :: es) c' → c'.outcome? key = some outcome →
      outcome = .error .transportClosed := by
  have entered := Run.fresh.move (.enter (.ask false "m" .absent ⟨0⟩)) rfl
  have identified := (entered.move (.step 0 ⟨.running, 0⟩ (.caller 0)) rfl).move (.step 0 ⟨.running, 0⟩ (.caller 0)) rfl
  have verified :=
    (identified.move (.step 0 ⟨.running, 0⟩ (.caller 0)) rfl).move (.step 0 ⟨.running, 0⟩ (.caller 0)) rfl
  have waiting := verified.move (.step 0 ⟨.running, 0⟩ (.caller 0)) rfl
  constructor
  · -- the writer ends with the message of the caller, and the time of the caller is up
    intro h
    have writing := (waiting.move (.act .closesInput) rfl).move (.step 0 ⟨.running, 0⟩ .writer) rfl
    have broken := writing.move (.step 0 ⟨.running, 0⟩ .writer) rfl
    have late := (broken.move (.step 0 ⟨.running, 0⟩ (.expire 0)) rfl).move (.step 0 ⟨.running, 0⟩ (.caller 0)) rfl
    have hclosed := h _ [_, _] _ _ 0 _ _ _ broken (by decide) rfl rfl rfl rfl (by decide) late rfl
    cases hclosed
  · intro h
    have stopped := waiting.move .abort rfl
    have late := (stopped.move (.step 0 ⟨.running, 0⟩ (.expire 0)) rfl).move (.step 0 ⟨.running, 0⟩ (.caller 0)) rfl
    have hclosed := h _ [_, _] _ _ 0 _ _ _ stopped (by decide) rfl rfl rfl late rfl
    cases hclosed

end Channel

end Attendant

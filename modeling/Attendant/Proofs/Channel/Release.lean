import Attendant.Proofs.Channel.Correlation

/-!
# The end of the stream

When the stream of a worker has come to its end, the reader tells the state of the worker, closes the channel, and
clears the slots, in this order. A caller leaves its slot before it looks whether the channel is closed. So a slot
that comes too late to be cleared belongs to a caller that finds the channel closed, and nobody waits for a response
that cannot come any more.

* `Run.told`: a channel is closed, and slots are cleared, only after the state has been told;
* `Run.held`: until then whoever relies on a slot has it, or an answer in its place;
* `Run.cleared`: from then on nobody but a caller that is about to find the channel closed has one;
* `Run.released`: what a caller can rely on when the stream ends.
-/

namespace Attendant

/-- The slot that a caller relies on. -/
def Stage.slot? : Stage → Option Nat
  | .verify id | .submit (some id) | .queued (some id) | .waiting id _ => some id
  | _ => none

/-- Whether a reader has told the state that its stream has come to its end. -/
def ReaderTask.hasTold : ReaderTask → Bool
  | .closing | .clearing | .ended => true
  | _ => false

namespace Channel

/-! ### What the reader does at the end of its stream -/

/-- The reader tells the state that its stream has come to its end. -/
def Entry.Tells (e : Entry) : Prop :=
  ∃ now status reason, e.move = .step now status .reader ∧ e.before.reader = .failing reason

/-- One step of the reader: it is at work, or it goes on with the end of its stream. -/
theorem reader_of_stepReader {status : Watched Status} {c : Channel} {next : Watched Status × Channel}
    (h : c.stepReader status = some next) :
    (c.reader.hasTold = false ∧ next.2.reader.hasTold = false ∧ next.2.closed = c.closed) ∨
      (∃ reason, c.reader = .failing reason ∧ next.2.reader = .closing ∧ next.2.closed = c.closed) ∨
      (c.reader = .closing ∧ next.2.reader = .clearing ∧ next.2.closed = true) ∨
      (c.reader = .clearing ∧ next.2.reader = .ended ∧ next.2.closed = c.closed ∧ next.2.pending = []) := by
  have hafter (reader : Frame.Reader) (result : Frame.Result) : (afterResult reader result).hasTold = false := by
    cases result <;> rfl
  obtain ⟨status', c'⟩ := next
  have hreads : Reads status c status' c' := reads_of_stepReader h
  cases hreads with
  | fail hr => exact Or.inr (Or.inl ⟨_, hr, rfl, rfl⟩)
  | close hr => exact Or.inr (Or.inr (Or.inl ⟨hr, rfl, rfl⟩))
  | clear hr => exact Or.inr (Or.inr (Or.inr ⟨hr, rfl, rfl, rfl⟩))
  | @response _ _ body id hr hm => exact Or.inl ⟨by rw [hr]; rfl, rfl, (c.resolve_frame id body).2.1⟩
  | result hr | last hr => exact Or.inl ⟨by rw [hr]; rfl, hafter _ _, rfl⟩
  | scan hr | line hr | request hr | skip hr | leave hr | redeem hr | push hr | wait hr =>
    exact Or.inl ⟨by rw [hr]; rfl, rfl, rfl⟩

/-- A move of anybody else leaves the reader alone, or stops it before its end. -/
theorem reader_of_make {c c' : Channel} {m : Move} (h : c.make? m = some c') :
    (c'.closed = c.closed ∧ (c'.reader = c.reader ∨ c.reader ≠ .ended ∧ c'.reader = .stopped)) ∨
      ∃ now status next, m = .step now status .reader ∧ c.stepReader status = some next ∧ next.2 = c' := by
  cases m with
  | enter job =>
    cases h
    exact Or.inl ⟨rfl, Or.inl rfl⟩
  | abandon key =>
    cases h
    left
    unfold abandon
    repeat' split
    all_goals exact ⟨rfl, Or.inl rfl⟩
  | act a =>
    cases h
    refine Or.inl ⟨?_, Or.inl (act_reader c a)⟩
    cases a with
    | writes bytes =>
      simp only [act]
      split <;> rfl
    | _ => rfl
  | abort =>
    cases h
    left
    unfold abort
    simp only
    split <;> split
    all_goals simp_all [endWriter]
  | step now status label =>
    obtain ⟨next, hstep, rfl⟩ := Option.map_eq_some_iff.1 h
    cases label with
    | caller key =>
      obtain ⟨after, hafter, rfl⟩ := Option.map_eq_some_iff.1 hstep
      obtain ⟨hr, hc⟩ := reader_of_stepCaller hafter
      exact Or.inl ⟨hc, Or.inl hr⟩
    | expire key =>
      obtain ⟨after, hafter, rfl⟩ := Option.map_eq_some_iff.1 hstep
      obtain ⟨hr, hc⟩ := reader_of_expire hafter
      exact Or.inl ⟨hc, Or.inl hr⟩
    | writer =>
      obtain ⟨after, hafter, rfl⟩ := Option.map_eq_some_iff.1 hstep
      obtain ⟨hr, hc⟩ := reader_of_stepWriter hafter
      exact Or.inl ⟨hc, Or.inl hr⟩
    | reader => exact Or.inr ⟨now, status, next, rfl, hstep, rfl⟩

/-- The end of a reader is final. -/
theorem ended_of_make {c c' : Channel} {m : Move} (h : c.make? m = some c') (he : c.reader = .ended) :
    c'.reader = .ended ∧ c'.closed = c.closed := by
  rcases reader_of_make h with ⟨hc, hr | ⟨hne, -⟩⟩ | ⟨now, status, next, -, hstep, rfl⟩
  · exact ⟨hr.trans he, hc⟩
  · exact absurd he hne
  · simp [stepReader, he] at hstep

/-- A channel is closed, and its slots are cleared, only after the state has been told. -/
theorem Run.told {es : List Entry} {c : Channel} (h : Run es c)
    (ht : c.closed = true ∨ c.reader.hasTold = true) : ∃ e ∈ es, e.Tells := by
  induction h with
  | fresh => rcases ht with ht | ht <;> cases ht
  | @move es c c' m _ hmake ih =>
    have hbefore (ht : c.closed = true ∨ c.reader.hasTold = true) : ∃ e ∈ ⟨c, m, c'⟩ :: es, Entry.Tells e := by
      obtain ⟨e, he, htells⟩ := ih ht
      exact ⟨e, List.mem_cons_of_mem _ he, htells⟩
    rcases reader_of_make hmake with ⟨hc, hr | ⟨-, hr⟩⟩ | ⟨now, status, next, hm, hstep, rfl⟩
    · rw [hc, hr] at ht
      exact hbefore ht
    · rw [hc, hr] at ht
      exact hbefore (ht.imp_right nofun)
    · rcases reader_of_stepReader hstep with ⟨-, hr, hc⟩ | ⟨reason, hr, -, -⟩ | ⟨hr, -, -⟩ | ⟨hr, -, -, -⟩
      · rw [hr, hc] at ht
        exact hbefore (ht.imp_right nofun)
      · exact ⟨_, List.mem_cons_self, now, status, reason, hm, hr⟩
      · exact hbefore (Or.inr (by rw [hr]; rfl))
      · exact hbefore (Or.inr (by rw [hr]; rfl))

/-- Slots are cleared only on a closed channel. -/
theorem Run.closed {es : List Entry} {c : Channel} (h : Run es c)
    (hr : c.reader = .clearing ∨ c.reader = .ended) : c.closed = true := by
  induction h with
  | fresh => rcases hr with hr | hr <;> cases hr
  | @move es c c' m _ hmake ih =>
    rcases reader_of_make hmake with ⟨hc, hsame | ⟨-, hstopped⟩⟩ | ⟨now, status, next, -, hstep, rfl⟩
    · rw [hc]
      exact ih (by rwa [hsame] at hr)
    · rw [hstopped] at hr
      rcases hr with hr | hr <;> cases hr
    · rcases reader_of_stepReader hstep with ⟨-, htold, -⟩ | ⟨reason, -, hclosing, -⟩ | ⟨-, -, hclosed⟩ |
        ⟨hclearing, -, hc, -⟩
      · rcases hr with hr | hr <;> rw [hr] at htold <;> cases htold
      · rcases hr with hr | hr <;> rw [hr] at hclosing <;> cases hclosing
      · exact hclosed
      · rw [hc]
        exact ih (Or.inl hclearing)

/-! ### What a move does to slots -/

/-- Where a caller that relies on a slot comes from: it has relied on it before, or it has just left it. -/
private theorem Change.slot_before {l l' : Ledger} {who : Option Nat} {took? : Option (Nat × Nat)}
    {got? : Option (Nat × Value)} (h : Change l who took? got? l') {key id : Nat} {job : Job} {after : Stage}
    (hc : l'.callers[key]? = some ⟨job, after⟩) (hs : after.slot? = some id) :
    ∃ before, l.callers[key]? = some ⟨job, before⟩ ∧
      (before.slot? = some id ∨ before = .register id ∧ after = .verify id ∧ id ∈ l'.pending) := by
  -- a caller that has just moved has come to the stage that it was moved to
  have hmoved {other : Nat} {job' : Job} {before next : Stage} (ho : l.callers[other]? = some ⟨job', before⟩)
      (hl : l'.callers = (l.moved other next).callers)
      (hback : next.slot? = some id →
        before.slot? = some id ∨ before = .register id ∧ next = .verify id ∧ id ∈ l'.pending) :
      ∃ before, l.callers[key]? = some ⟨job, before⟩ ∧
        (before.slot? = some id ∨ before = .register id ∧ after = .verify id ∧ id ∈ l'.pending) := by
    rw [hl] at hc
    by_cases he : key = other
    · subst he
      rw [Ledger.moved_self ho] at hc
      cases hc
      exact ⟨before, ho, hback hs⟩
    · rw [l.moved_ne he] at hc
      exact ⟨after, hc, Or.inl hs⟩
  cases h with
  | quiet who => exact ⟨after, hc, Or.inl hs⟩
  | resolve body hid => exact ⟨after, hc, Or.inl hs⟩
  | clear => exact ⟨after, hc, Or.inl hs⟩
  | enter job' =>
    rcases Nat.lt_or_ge key l.callers.length with hlt | hge
    · rw [List.getElem?_append_left hlt] at hc
      exact ⟨after, hc, Or.inl hs⟩
    · rw [List.getElem?_append_right hge, List.getElem?_singleton] at hc
      split at hc
      · cases hc
        cases hs
      · cases hc
  | hop ho hh =>
    refine hmoved ho rfl fun hn => Or.inl ?_
    cases hh with
    | verified id => exact hn
    | queue id => cases id <;> exact hn
    | accepted now hb =>
      unfold accepted at hn
      split at hn
      · rcases hb with rfl | rfl <;> exact hn
      · cases hn
    | refused hb =>
      unfold Channel.refused at hn
      split at hn <;> cases hn
    | _ => cases hn
  | take ho => exact hmoved ho rfl nofun
  | insert ho =>
    refine hmoved ho rfl fun hn => Or.inr ?_
    cases hn
    exact ⟨rfl, rfl, List.mem_append_right _ List.mem_cons_self⟩
  | collect ho ha => exact hmoved ho rfl nofun
  | remove ho => exact hmoved ho rfl nofun

/-- A move that is nobody's leaves the slots alone, unless a response fills one or the reader clears them. -/
theorem pending_of_caller?_none {c c' : Channel} {m : Move} (h : c.make? m = some c') (hm : m.caller? = none)
    (hgot : Entry.resolved? ⟨c, m, c'⟩ = none) : c'.pending = c.pending ∨ c'.reader = .ended := by
  cases m with
  | enter job =>
    cases h
    exact Or.inl rfl
  | abandon key => cases hm
  | act a =>
    cases h
    exact Or.inl (congrArg Ledger.pending (act_ledger c a))
  | abort =>
    cases h
    exact Or.inl (congrArg Ledger.pending (abort_ledger c))
  | step now status label =>
    obtain ⟨next, hstep, rfl⟩ := Option.map_eq_some_iff.1 h
    cases label with
    | caller key => cases hm
    | expire key => cases hm
    | writer =>
      obtain ⟨after, hafter, rfl⟩ := Option.map_eq_some_iff.1 hstep
      exact Or.inl (congrArg Ledger.pending (change_of_stepWriter hafter))
    | reader =>
      obtain ⟨status', c'⟩ := next
      have hreads : Reads status c status' c' := reads_of_stepReader hstep
      cases hreads with
      | @response _ _ body id hr hm =>
        left
        simp only [Entry.resolved?, hr, hm] at hgot
        split at hgot
        · cases hgot
        · rename_i hid
          simp only [Channel.resolve, if_neg hid]
      | clear hr => exact Or.inr rfl
      | _ => exact Or.inl rfl

/-- A slot stays where it is, unless a response fills it, its caller takes it back, or all are cleared. -/
theorem Change.mem_pending {l l' : Ledger} {who : Option Nat} {took? : Option (Nat × Nat)}
    {got? : Option (Nat × Value)} (h : Change l who took? got? l') {id : Nat} (hid : id ∈ l.pending) :
    id ∈ l'.pending ∨ id ∈ l'.answers.map Prod.fst ∨
      (∃ (key : Nat) (job : Job) (fault : RequestFault), l.callers[key]? = some ⟨job, .withdraw id fault⟩) ∨
      who = none ∧ got? = none := by
  cases h with
  | insert hc => exact Or.inl (List.mem_append_left _ hid)
  | @remove key job other fault hc =>
    by_cases he : id = other
    · subst he
      exact Or.inr (Or.inr (Or.inl ⟨key, job, fault, hc⟩))
    · exact Or.inl ((List.mem_erase_of_ne he).2 hid)
  | @resolve other body hother =>
    by_cases he : id = other
    · subst he
      exact Or.inr (Or.inl (by simp))
    · exact Or.inl ((List.mem_erase_of_ne he).2 hid)
  | clear => exact Or.inr (Or.inr (Or.inr ⟨rfl, rfl⟩))
  | _ => exact Or.inl hid

private theorem Change.pending_before {l l' : Ledger} {who : Option Nat} {took? : Option (Nat × Nat)}
    {got? : Option (Nat × Value)} (h : Change l who took? got? l') {id : Nat} (hid : id ∈ l'.pending) :
    id ∈ l.pending ∨ ∃ (key : Nat) (job : Job), l.callers[key]? = some ⟨job, .register id⟩ := by
  cases h with
  | @insert key job other hc =>
    rcases List.mem_append.1 hid with hid | hid
    · exact Or.inl hid
    · obtain rfl := List.mem_singleton.1 hid
      exact Or.inr ⟨key, job, hc⟩
  | remove hc => exact Or.inl (List.mem_of_mem_erase hid)
  | resolve body hother => exact Or.inl (List.mem_of_mem_erase hid)
  | clear => cases hid
  | _ => exact Or.inl hid

private theorem Change.mem_answers {l l' : Ledger} {who : Option Nat} {took? : Option (Nat × Nat)}
    {got? : Option (Nat × Value)} (h : Change l who took? got? l') {id : Nat} (hid : id ∈ l.answers.map Prod.fst) :
    id ∈ l'.answers.map Prod.fst ∨
      ∃ (key : Nat) (job : Job) (deadline : Nat) (outcome : Except RequestFault Value),
        l.callers[key]? = some ⟨job, .waiting id deadline⟩ ∧
        l'.callers[key]? = some ⟨job, .done outcome⟩ := by
  cases h with
  | @collect key job other deadline body hc ha =>
    by_cases he : id = other
    · subst he
      exact Or.inr ⟨key, job, deadline, _, hc, Ledger.moved_self hc _⟩
    · left
      obtain ⟨p, hp, rfl⟩ := List.mem_map.1 hid
      exact List.mem_map_of_mem (List.mem_filter.2 ⟨hp, by simpa using he⟩)
  | resolve body hother =>
    left
    rw [List.map_append]
    exact List.mem_append_left _ hid
  | _ => exact Or.inl hid

/-- A new answer is one that the reader has got. -/
theorem Change.answers_before {l l' : Ledger} {who : Option Nat} {took? : Option (Nat × Nat)}
    (h : Change l who took? none l') {id : Nat} (hid : id ∈ l'.answers.map Prod.fst) :
    id ∈ l.answers.map Prod.fst := by
  cases h with
  | collect hc ha =>
    obtain ⟨p, hp, rfl⟩ := List.mem_map.1 hid
    exact List.mem_map_of_mem (List.mem_of_mem_filter hp)
  | _ => exact hid

private theorem resolved?_of_ended {c c' : Channel} {m : Move} (he : c.reader = .ended) :
    Entry.resolved? ⟨c, m, c'⟩ = none := by
  unfold Entry.resolved?
  split
  · rename_i hr
    rw [he] at hr
    cases hr
  · rfl

/-! ### Whose the slots are -/

/-- Whoever relies on a slot has taken its id. -/
theorem Standing.mem_of_slot? {took : List (Nat × Nat)} {got : List (Nat × Value)} {slots : List Nat}
    {key id : Nat} {job : Job} {stage : Stage} (h : Standing took got slots key job stage)
    (hs : stage.slot? = some id) : (key, id) ∈ took := by
  cases stage with
  | verify other =>
    cases hs
    exact h.2
  | submit other =>
    cases other with
    | some other =>
      cases hs
      exact h.2
    | none => cases hs
  | queued other =>
    cases other with
    | some other =>
      cases hs
      exact h.2
    | none => cases hs
  | waiting other deadline =>
    cases hs
    exact h.2
  | _ => cases hs

/-- As long as the slots have not been cleared, whoever relies on one has it, or an answer in its place. -/
theorem Run.held {es : List Entry} {c : Channel} (h : Run es c) (hn : (taken es).length < width64) {key id : Nat}
    {job : Job} {stage : Stage} (hc : c.callers[key]? = some ⟨job, stage⟩) (hs : stage.slot? = some id) :
    id ∈ c.pending ∨ id ∈ c.answers.map Prod.fst ∨ c.reader = .ended := by
  induction h generalizing stage with
  | fresh => cases hc
  | @move es c c' m hrun hmake ih =>
    have hn' := Nat.lt_of_le_of_lt (taken_length_le ⟨c, m, c'⟩ es) hn
    have hsound := hrun.sound hn'
    have hchange := change_of_make hmake
    obtain ⟨before, hb, hslot | ⟨-, -, hid⟩⟩ := hchange.slot_before hc hs
    · have hkey := (hsound.standing key _ hb).mem_of_slot? hslot
      -- nobody else moves the slot of a caller, for nobody else has its id
      have hown {other : Nat} {job' : Job} {at' : Stage} (ho : c.callers[other]? = some ⟨job', at'⟩)
          (hid : (other, id) ∈ taken es) : at' = before := by
        obtain rfl := hsound.key_eq hid hkey
        rw [show c.callers[other]? = some ⟨job, before⟩ from hb] at ho
        cases ho
        rfl
      rcases ih hn' hb hslot with hp | ha | he
      · rcases hchange.mem_pending hp with hp | ha | ⟨other, job', fault, ho⟩ | ⟨hwho, hgot⟩
        · exact Or.inl hp
        · exact Or.inr (Or.inl ha)
        · have heq := hown ho (hsound.standing other _ ho).2.1
          rw [← heq] at hslot
          cases hslot
        · rcases pending_of_caller?_none hmake hwho hgot with hsame | he
          · rw [hsame]
            exact Or.inl hp
          · exact Or.inr (Or.inr he)
      · rcases hchange.mem_answers ha with ha | ⟨other, job', deadline, outcome, ho, hdone⟩
        · exact Or.inr (Or.inl ha)
        · have hid := (hsound.standing other _ ho).2
          obtain rfl := hsound.key_eq hid hkey
          rw [show c'.ledger.callers[other]? = some ⟨job, stage⟩ from hc] at hdone
          cases hdone
          cases hs
      · exact Or.inr (Or.inr (ended_of_make hmake he).1)
    · exact Or.inl hid

private theorem Change.caller_stays {l l' : Ledger} {who : Option Nat} {took? : Option (Nat × Nat)}
    {got? : Option (Nat × Value)} (h : Change l who took? got? l') {key : Nat} {caller : Caller}
    (hc : l.callers[key]? = some caller) (hwho : who ≠ some key) : l'.callers[key]? = some caller := by
  have hother {other : Nat} (hne : some other ≠ some key) (next : Stage) :
      (l.moved other next).callers[key]? = some caller := by
    rw [l.moved_ne (fun he => hne (congrArg some he.symm)), hc]
  cases h with
  | quiet who => exact hc
  | enter job => rw [List.getElem?_append_left (List.getElem?_eq_some_iff.1 hc).1, hc]
  | hop ho hh => exact hother hwho _
  | take ho => exact hother hwho _
  | insert ho => exact hother hwho _
  | collect ho ha => exact hother hwho _
  | remove ho => exact hother hwho _
  | resolve body hid => exact hc
  | clear => exact hc

/-- A move leaves a caller where it is, or is its own. -/
theorem caller_of_make {c c' : Channel} {m : Move} (h : c.make? m = some c') {key : Nat} {caller : Caller}
    (hc : c.callers[key]? = some caller) :
    c'.callers[key]? = some caller ∨ m = .abandon key ∧ c' = c.abandon key ∨
      (∃ now status, m = .step now status (.caller key) ∧ c.stepCaller now status.value key = some c') ∨
      ∃ now status, m = .step now status (.expire key) ∧ c.expire now key = some c' := by
  by_cases hwho : m.caller? = some key
  · right
    cases m with
    | abandon other =>
      cases hwho
      cases h
      exact Or.inl ⟨rfl, rfl⟩
    | step now status label =>
      obtain ⟨next, hstep, rfl⟩ := Option.map_eq_some_iff.1 h
      cases label with
      | caller other =>
        cases hwho
        obtain ⟨after, hafter, rfl⟩ := Option.map_eq_some_iff.1 hstep
        exact Or.inr (Or.inl ⟨now, status, rfl, hafter⟩)
      | expire other =>
        cases hwho
        obtain ⟨after, hafter, rfl⟩ := Option.map_eq_some_iff.1 hstep
        exact Or.inr (Or.inr ⟨now, status, rfl, hafter⟩)
      | writer => cases hwho
      | reader => cases hwho
    | enter job => cases hwho
    | act a => cases hwho
    | abort => cases hwho
  · exact Or.inl ((change_of_make h).caller_stays hc hwho)

section

variable {c : Channel} {key id : Nat} {job : Job}

theorem setStage_caller {before : Stage} (hc : c.callers[key]? = some ⟨job, before⟩) (after : Stage) :
    (c.setStage key after).callers[key]? = some ⟨job, after⟩ :=
  Ledger.moved_self (l := c.ledger) hc after

/-- A caller that gives up is nowhere any more, unless it has come to its end. -/
theorem abandon_caller {before : Stage} (hc : c.callers[key]? = some ⟨job, before⟩) :
    (c.abandon key).callers[key]? = some ⟨job, if before.isOver then before else .abandoned⟩ := by
  have hstage : c.stage? key = some before := by simp [stage?, hc]
  unfold abandon
  simp only [hstage]
  split
  · exact hc
  · exact setStage_caller hc .abandoned

/-- A caller that has left its slot looks whether the channel is closed. -/
theorem stepCaller_verify (hc : c.callers[key]? = some ⟨job, .verify id⟩) (now : Nat) (status : Status) :
    c.stepCaller now status key =
      some (c.setStage key (if c.closed then .withdraw id .transportClosed else .submit (some id))) := by
  simp [stepCaller, hc]

/-- A caller without an answer waits as long as its slot is there. -/
theorem stepCaller_waiting {deadline : Nat} (hc : c.callers[key]? = some ⟨job, .waiting id deadline⟩)
    (ha : id ∉ c.answers.map Prod.fst) (now : Nat) (status : Status) :
    c.stepCaller now status key =
      if id ∈ c.pending then none else some (c.setStage key (.withdraw id .transportClosed)) := by
  have hl : c.answers.lookup id = none := by
    rw [List.lookup_eq_none_iff]
    intro p hp
    exact bne_iff_ne.2 fun he => ha (List.mem_map.2 ⟨p, hp, he.symm⟩)
  simp [stepCaller, hc, hl]

theorem stepCaller_withdraw {fault : RequestFault} (hc : c.callers[key]? = some ⟨job, .withdraw id fault⟩) (now : Nat)
    (status : Status) :
    c.stepCaller now status key =
      some { c.setStage key (.done (.error fault)) with pending := c.pending.erase id } := by
  simp [stepCaller, hc]

/-- A caller at the mailbox is refused, hands its message over, or waits for room. -/
theorem stage_of_submit {now : Nat} {status : Status} {c' : Channel} {stage : Stage}
    (hc : c.callers[key]? = some ⟨job, stage⟩) (hask : job.isAsk = true)
    (hs : stage = .submit (some id) ∨ stage = .queued (some id)) (h : c.stepCaller now status key = some c') :
    c'.answers = c.answers ∧ ∃ after, c'.callers[key]? = some ⟨job, after⟩ ∧
      (after = .queued (some id) ∨ (∃ deadline, after = .waiting id deadline) ∨
        after = .withdraw id .transportClosed) := by
  obtain ⟨job', before, after, hc', hadvance⟩ := advance_of_stepCaller h
  rw [hc] at hc'
  cases hc'
  have hafter : c'.callers[key]? = some ⟨job, after⟩ := by rw [hadvance.callers, setStage_caller hc]
  cases job with
  | ask guarded method params limit =>
    rcases hs with rfl | rfl
    · cases hadvance with
      | shut _ => exact ⟨rfl, _, hafter, Or.inr (Or.inr rfl)⟩
      | send _ _ => exact ⟨rfl, _, hafter, Or.inr (Or.inl ⟨_, rfl⟩)⟩
      | wait _ _ => exact ⟨rfl, _, hafter, Or.inl rfl⟩
    · cases hadvance with
      | leave _ => exact ⟨rfl, _, hafter, Or.inr (Or.inr rfl)⟩
      | redeem _ _ => exact ⟨rfl, _, hafter, Or.inr (Or.inl ⟨_, rfl⟩)⟩
  | tell guarded method params => cases hask
  | finish => cases hask

/-- The time of a caller is up only while its slot is there. -/
theorem mem_pending_of_expire {now : Nat} {c' : Channel} {stage : Stage} (h : c.expire now key = some c')
    (hc : c.callers[key]? = some ⟨job, stage⟩) :
    ∃ id deadline, stage = .waiting id deadline ∧ id ∈ c.pending := by
  unfold expire at h
  simp only [hc, Option.bind_eq_bind, Option.bind_some] at h
  split at h
  · split at h
    · rename_i hcond
      simp only [Bool.and_eq_true, List.contains_iff_mem] at hcond
      exact ⟨_, _, rfl, hcond.2⟩
    · cases h
  · cases h

/-- A caller whose time is up withdraws. -/
theorem caller_of_expire {now : Nat} {c' : Channel} {stage : Stage} (h : c.expire now key = some c')
    (hc : c.callers[key]? = some ⟨job, stage⟩) :
    ∃ id deadline method limit, stage = .waiting id deadline ∧
      c'.callers[key]? = some ⟨job, .withdraw id (.timeout method limit)⟩ := by
  unfold expire at h
  simp only [hc, Option.bind_eq_bind, Option.bind_some] at h
  split at h
  · split at h
    · cases h
      exact ⟨_, _, _, _, rfl, setStage_caller hc _⟩
    · cases h
  · cases h

end

/-- Once the slots have been cleared, only a caller that is about to look whether the channel is closed has one. -/
theorem Run.cleared {es : List Entry} {c : Channel} (h : Run es c) (hn : (taken es).length < width64)
    (he : c.reader = .ended) {key id : Nat} {job : Job} {stage : Stage} (hc : c.callers[key]? = some ⟨job, stage⟩)
    (hs : stage.slot? = some id) (hid : id ∈ c.pending) : stage = .verify id := by
  induction h generalizing stage with
  | fresh => cases hc
  | @move es c c' m hrun hmake ih =>
    have hn' := Nat.lt_of_le_of_lt (taken_length_le ⟨c, m, c'⟩ es) hn
    have hsound := hrun.sound hn'
    by_cases hbefore : c.reader = .ended
    · obtain ⟨before, hb, hslot | ⟨-, hverify, -⟩⟩ := (change_of_make hmake).slot_before hc hs
      · rcases (change_of_make hmake).pending_before hid with hold | ⟨other, job', ho⟩
        · obtain rfl := ih hn' hbefore hb hslot hold
          -- the channel is closed, so the caller does not go on to the mailbox
          have hclosed := hrun.closed (Or.inr hbefore)
          rcases caller_of_make hmake hb with hsame | ⟨-, rfl⟩ | ⟨now, status, -, hstep⟩ | ⟨now, status, -, hexpire⟩
          · rw [hsame] at hc
            cases hc
            rfl
          · rw [abandon_caller hb] at hc
            cases hc
            cases hs
          · rw [stepCaller_verify hb, hclosed] at hstep
            cases hstep
            rw [setStage_caller hb] at hc
            cases hc
            cases hs
          · obtain ⟨other, deadline, hw, -⟩ := mem_pending_of_expire hexpire hb
            cases hw
        · -- the slot is that of another caller
          have hkey := (hsound.standing key _ hb).mem_of_slot? hslot
          obtain rfl := hsound.key_eq (hsound.standing other _ ho).2.1 hkey
          rw [hb] at ho
          cases ho
          cases hslot
      · exact hverify
    · rcases reader_of_make hmake with ⟨-, hr | ⟨-, hr⟩⟩ | ⟨now, status, next, -, hstep, rfl⟩
      · exact absurd (hr.symm.trans he) hbefore
      · rw [he] at hr
        cases hr
      · rcases reader_of_stepReader hstep with ⟨-, hr, -⟩ | ⟨reason, -, hr, -⟩ | ⟨-, hr, -⟩ | ⟨-, -, -, hp⟩
        · rw [he] at hr
          cases hr
        · rw [he] at hr
          cases hr
        · rw [he] at hr
          cases hr
        · rw [hp] at hid
          cases hid

/-! ### What a caller can rely on when the stream ends -/

/-- Whether a caller that wants a response has none, and its time has not been up. -/
def Unanswered (c : Channel) : Stage → Prop
  | .identify | .register _ | .verify _ | .abandoned => True
  | .submit (some id) | .queued (some id) | .waiting id _ => id ∉ c.answers.map Prod.fst
  | .withdraw _ fault => fault = .transportClosed
  | .done outcome => outcome = .error .transportClosed
  | _ => False

/-- A caller that nobody will answer is told so at its next step, which it can make whatever others do. Only while the
mailbox decides about its message it may have to wait. -/
def LetsGo (c : Channel) (key : Nat) : Stage → Prop
  | .verify id => ∀ now status, c.step now status (.caller key) =
      some (status, c.setStage key (.withdraw id .transportClosed))
  | .submit (some id) | .queued (some id) => ∀ now status status' c',
      c.step now status (.caller key) = some (status', c') →
        c'.stage? key = some (.queued (some id)) ∨ (∃ deadline, c'.stage? key = some (.waiting id deadline)) ∨
          c'.stage? key = some (.withdraw id .transportClosed)
  | .waiting id _ => (∀ now status, c.step now status (.caller key) =
      some (status, c.setStage key (.withdraw id .transportClosed))) ∧ ∀ now, c.expire now key = none
  | .withdraw _ _ => ∀ now status, ∃ c', c.step now status (.caller key) = some (status, c') ∧
      c'.outcome? key = some (.error .transportClosed)
  | _ => True

/-- A caller is let go without a response. -/
def Entry.Releases (e : Entry) (key : Nat) : Prop :=
  ∃ now status id, e.move = .step now status (.caller key) ∧
    (e.before.stage? key = some (.verify id) ∨ ∃ deadline, e.before.stage? key = some (.waiting id deadline)) ∧
    e.after.stage? key = some (.withdraw id .transportClosed)

/-- The state of the worker before a step and after it. -/
def Entry.states? (e : Entry) : Option (Watched Status × Watched Status) :=
  match e.move with
  | .step now status label => (e.before.step now status label).map fun next => (status, next.1)
  | _ => none

/-- Only a reader that tells the state touches it, and only if the worker is up; then the worker has failed. -/
theorem Entry.states?_ne_iff {e : Entry} {before after : Watched Status} (h : e.states? = some (before, after)) :
    (after ≠ before ↔ e.Tells ∧ before.value.isLive = true) ∧
      (after ≠ before → ∃ reason, after.value = .failed reason) := by
  obtain ⟨c, m, c'⟩ := e
  cases m with
  | step now status label =>
    obtain ⟨next, hstep, heq⟩ := Option.map_eq_some_iff.1 h
    cases heq
    rcases status_of_step hstep with ⟨he, hnot⟩ | ⟨rfl, reason, hr, he⟩
    · refine ⟨⟨fun hne => absurd he hne, ?_⟩, fun hne => absurd he hne⟩
      rintro ⟨⟨_, _, reason, hm, hr⟩, -⟩
      cases hm
      exact absurd ⟨rfl, reason, hr⟩ hnot
    · by_cases hlive : before.value.isLive = true
      · rw [if_pos hlive] at he
        refine ⟨⟨fun _ => ⟨⟨now, before, reason, rfl, hr⟩, hlive⟩, fun _ hsame => ?_⟩, fun _ => ⟨reason, ?_⟩⟩
        · -- every write counts, so the state is not what it was
          have := congrArg Watched.version (he.symm.trans hsame)
          simp [Watched.set] at this
        · rw [he, Watched.set_value]
      · rw [if_neg hlive] at he
        exact ⟨⟨fun hne => absurd he hne, fun hl => absurd hl.2 hlive⟩, fun hne => absurd he hne⟩
  | _ => cases h

private theorem Run.before {later es : List Entry} {c : Channel} (h : Run (later ++ es) c) : ∃ c', Run es c' := by
  induction later generalizing c with
  | nil => exact ⟨c, h⟩
  | cons e later ih =>
    cases h with
    | move m hrun hmake => exact ih hrun

private theorem taken_length_append (later es : List Entry) : (taken es).length ≤ (taken (later ++ es)).length := by
  unfold taken
  rw [List.filterMap_append, List.length_append]
  exact Nat.le_add_left _ _

theorem Run.unique {es : List Entry} {c c' : Channel} (h : Run es c) (h' : Run es c') : c = c' := by
  cases h with
  | fresh =>
    cases h'
    rfl
  | move m hrun hmake =>
    cases h'
    rfl

/-- A caller is let go only after the state has been told. -/
private theorem Run.told_of_releases {e : Entry} {es : List Entry} {c : Channel} (h : Run (e :: es) c)
    (hn : (taken es).length < width64) {key : Nat} (hr : e.Releases key) : ∃ f ∈ es, f.Tells := by
  cases h with
  | @move _ before _ m hrun hmake =>
    obtain ⟨now, status, id, rfl, hbefore, hafter⟩ := hr
    obtain ⟨next, hstep, rfl⟩ := Option.map_eq_some_iff.1 hmake
    obtain ⟨c', hcaller, rfl⟩ := Option.map_eq_some_iff.1 hstep
    obtain ⟨⟨job, _⟩, hc', rfl⟩ := Option.map_eq_some_iff.1 hafter
    rcases hbefore with hstage | ⟨deadline, hstage⟩
    · obtain ⟨⟨job', _⟩, hc, rfl⟩ := Option.map_eq_some_iff.1 hstage
      rw [stepCaller_verify hc] at hcaller
      cases hclosed : before.closed with
      | true => exact hrun.told (Or.inl hclosed)
      | false =>
        rw [hclosed, if_neg Bool.false_ne_true, Option.some.injEq] at hcaller
        have hsubmit : (before.setStage key (.submit (some id))).callers[key]? = _ := setStage_caller hc _
        rw [← hcaller, hsubmit] at hc'
        cases hc'
    · obtain ⟨⟨job', _⟩, hc, rfl⟩ := Option.map_eq_some_iff.1 hstage
      have hslot := hrun.held hn hc rfl
      by_cases ha : id ∈ before.answers.map Prod.fst
      · -- a caller with an answer collects it
        obtain ⟨body, hbody⟩ : ∃ body, before.answers.lookup id = some body := by
          cases hl : before.answers.lookup id with
          | some body => exact ⟨body, rfl⟩
          | none =>
            obtain ⟨p, hp, rfl⟩ := List.mem_map.1 ha
            have := List.lookup_eq_none_iff.1 hl p hp
            simp at this
        simp only [stepCaller, hc, hbody, Option.pure_def, Option.bind_eq_bind, Option.bind_some] at hcaller
        cases hcaller
        rw [show ((before.setStage key (.done (outcomeOf body))).callers)[key]? = _ from setStage_caller hc _] at hc'
        cases hc'
      · rw [stepCaller_waiting hc ha] at hcaller
        split at hcaller
        · cases hcaller
        · rename_i hid
          rcases hslot with hp | ha' | he
          · exact absurd hp hid
          · exact absurd ha' ha
          · exact hrun.told (Or.inr (by rw [he]; rfl))

private theorem Unanswered.mono {c c' : Channel} {stage : Stage} (hu : c.Unanswered stage)
    (hfewer : ∀ id, id ∈ c'.answers.map Prod.fst → id ∈ c.answers.map Prod.fst) : c'.Unanswered stage := by
  cases stage with
  | submit id => cases id with
    | some id => exact fun ha => hu (hfewer id ha)
    | none => exact hu
  | queued id => cases id with
    | some id => exact fun ha => hu (hfewer id ha)
    | none => exact hu
  | waiting id deadline => exact fun ha => hu (hfewer id ha)
  | _ => exact hu

/-- After the end of the stream a caller without an answer gets none by its own step. -/
private theorem Run.unanswered_of_stepCaller {es : List Entry} {c c' : Channel} (h : Run es c)
    (hn : (taken es).length < width64) (he : c.reader = .ended) {key now : Nat} {status : Status}
    (hstep : c.stepCaller now status key = some c') {job : Job} {stage : Stage}
    (hc : c.callers[key]? = some ⟨job, stage⟩) (hu : c.Unanswered stage) :
    ∃ after, c'.callers[key]? = some ⟨job, after⟩ ∧ c'.Unanswered after := by
  have hstanding := (h.sound hn).standing key _ hc
  have hmailbox {id : Nat} (ha : id ∉ c.answers.map Prod.fst) (hask : job.isAsk = true)
      (hs : stage = .submit (some id) ∨ stage = .queued (some id)) :
      ∃ after, c'.callers[key]? = some ⟨job, after⟩ ∧ c'.Unanswered after := by
    obtain ⟨hanswers, after, hafter, rfl | ⟨deadline, rfl⟩ | rfl⟩ := stage_of_submit hc hask hs hstep
    · exact ⟨_, hafter, by rwa [Unanswered, hanswers]⟩
    · exact ⟨_, hafter, by rwa [Unanswered, hanswers]⟩
    · exact ⟨_, hafter, rfl⟩
  cases stage with
  | gate => cases hu
  | identify =>
    simp only [stepCaller, hc, Option.pure_def, Option.bind_eq_bind, Option.bind_some] at hstep
    cases hstep
    exact ⟨_, setStage_caller hc _, trivial⟩
  | register id =>
    simp only [stepCaller, hc, Option.pure_def, Option.bind_eq_bind, Option.bind_some] at hstep
    cases hstep
    exact ⟨_, setStage_caller hc _, trivial⟩
  | verify id =>
    rw [stepCaller_verify hc, h.closed (Or.inr he)] at hstep
    cases hstep
    exact ⟨_, setStage_caller hc _, rfl⟩
  | submit id => cases id with
    | some id => exact hmailbox hu hstanding.1 (Or.inl rfl)
    | none => cases hu
  | queued id => cases id with
    | some id => exact hmailbox hu hstanding.1 (Or.inr rfl)
    | none => cases hu
  | waiting id deadline =>
    rw [stepCaller_waiting hc hu] at hstep
    split at hstep
    · cases hstep
    · cases hstep
      exact ⟨_, setStage_caller hc _, rfl⟩
  | withdraw id fault =>
    rw [stepCaller_withdraw hc] at hstep
    cases hstep
    exact ⟨_, setStage_caller hc _, congrArg Except.error hu⟩
  | done outcome => simp [stepCaller, hc] at hstep
  | abandoned => simp [stepCaller, hc] at hstep

/-- After the end of the stream nobody who has no answer gets one any more. -/
private theorem Run.unanswered_of_make {es : List Entry} {c c' : Channel} {m : Move} (h : Run es c)
    (hn : (taken es).length < width64) (he : c.reader = .ended) (hmake : c.make? m = some c') {key : Nat} {job : Job}
    {stage : Stage} (hc : c.callers[key]? = some ⟨job, stage⟩) (hu : c.Unanswered stage) :
    ∃ after, c'.callers[key]? = some ⟨job, after⟩ ∧ c'.Unanswered after := by
  rcases caller_of_make hmake hc with hsame | ⟨-, rfl⟩ | ⟨now, status, -, hstep⟩ | ⟨now, status, -, hexpire⟩
  · have hchange := change_of_make hmake
    rw [resolved?_of_ended he] at hchange
    exact ⟨stage, hsame, hu.mono fun _ ha => hchange.answers_before ha⟩
  · refine ⟨_, abandon_caller hc, ?_⟩
    split
    · rename_i hover
      cases stage with
      | done outcome => exact hu
      | abandoned => trivial
      | _ => cases hover
    · trivial
  · exact h.unanswered_of_stepCaller hn he hstep hc hu
  · obtain ⟨id, deadline, rfl, hid⟩ := mem_pending_of_expire hexpire hc
    cases h.cleared hn he hc rfl hid

private theorem Run.unanswered {es more : List Entry} {c c' : Channel} (h : Run es c) (he : c.reader = .ended)
    {key : Nat} {job : Job} {stage : Stage} (hc : c.callers[key]? = some ⟨job, stage⟩) (hu : c.Unanswered stage)
    (h' : Run (more ++ es) c') (hn : (taken (more ++ es)).length < width64) :
    c'.reader = .ended ∧ ∃ after, c'.callers[key]? = some ⟨job, after⟩ ∧ c'.Unanswered after := by
  induction more generalizing c' with
  | nil =>
    obtain rfl := h.unique h'
    exact ⟨he, stage, hc, hu⟩
  | cons e more ih =>
    cases h' with
    | @move _ before _ m hrun hmake =>
      have hn' := Nat.lt_of_le_of_lt (taken_length_le _ _) hn
      obtain ⟨hended, after, hafter, hua⟩ := ih hrun hn'
      exact ⟨(ended_of_make hmake hended).1, hrun.unanswered_of_make hn' hended hmake hafter hua⟩

private theorem Run.letsGo {es : List Entry} {c : Channel} (h : Run es c) (hn : (taken es).length < width64)
    (he : c.reader = .ended) {key : Nat} {job : Job} {stage : Stage} (hc : c.callers[key]? = some ⟨job, stage⟩)
    (hu : c.Unanswered stage) : c.LetsGo key stage := by
  have hstanding := (h.sound hn).standing key _ hc
  have hmailbox {id : Nat} (hask : job.isAsk = true) (hs : stage = .submit (some id) ∨ stage = .queued (some id))
      (now : Nat) (status status' : Watched Status) (c' : Channel)
      (hstep : c.step now status (.caller key) = some (status', c')) :
      c'.stage? key = some (.queued (some id)) ∨ (∃ deadline, c'.stage? key = some (.waiting id deadline)) ∨
        c'.stage? key = some (.withdraw id .transportClosed) := by
    obtain ⟨c'', hafter, heq⟩ := Option.map_eq_some_iff.1 hstep
    cases heq
    obtain ⟨-, after, hafter', hcases⟩ := stage_of_submit hc hask hs hafter
    simpa [stage?, hafter'] using hcases
  cases stage with
  | verify id =>
    intro now status
    simp only [step, stepCaller_verify hc, h.closed (Or.inr he), Option.map_some, if_true]
  | submit id => cases id with
    | some id => exact hmailbox hstanding.1 (Or.inl rfl)
    | none => cases hu
  | queued id => cases id with
    | some id => exact hmailbox hstanding.1 (Or.inr rfl)
    | none => cases hu
  | waiting id deadline =>
    have hid : id ∉ c.pending := fun hid => by cases h.cleared hn he hc rfl hid
    refine ⟨fun now status => ?_, fun now => ?_⟩
    · simp only [step, stepCaller_waiting hc hu, if_neg hid, Option.map_some]
    · cases hexpire : c.expire now key with
      | none => rfl
      | some c' =>
        obtain ⟨other, _, hw, hmem⟩ := mem_pending_of_expire hexpire hc
        cases hw
        exact absurd hmem hid
  | withdraw id fault =>
    obtain rfl := hu
    intro now status
    refine ⟨{ c.setStage key (.done (.error .transportClosed)) with pending := c.pending.erase id }, ?_, ?_⟩
    · simp only [step, stepCaller_withdraw hc, Option.map_some]
    · exact outcome?_eq_some.2 ⟨job, setStage_caller hc _⟩
  | _ => trivial

/-- After the end of the stream a slot belongs to a caller that takes it back at its next steps, or has given up. -/
private theorem Run.owner_of_slot {es : List Entry} {c : Channel} (h : Run es c) (hn : (taken es).length < width64)
    (he : c.reader = .ended) {id : Nat} (hid : id ∈ c.pending) :
    ∃ key job stage, c.callers[key]? = some ⟨job, stage⟩ ∧ (key, id) ∈ taken es ∧
      (stage = .verify id ∨ (∃ fault, stage = .withdraw id fault) ∨ stage = .abandoned) := by
  have hs := h.sound hn
  obtain ⟨⟨key, _⟩, hkey, rfl⟩ := List.mem_map.1 (hs.slots_taken id hid)
  obtain ⟨⟨job, stage⟩, hc⟩ : ∃ caller, c.callers[key]? = some caller :=
    ⟨_, List.getElem?_eq_getElem (hs.keys_lt _ hkey)⟩
  refine ⟨key, job, stage, hc, hkey, ?_⟩
  have hstanding := hs.standing key _ hc
  have hnone : key ∉ (taken es).map Prod.fst → False := fun hno => hno (List.mem_map_of_mem hkey)
  cases hslot : stage.slot? with
  | some other =>
    -- it relies on the slot that it has taken
    obtain rfl := hs.id_eq (hstanding.mem_of_slot? hslot) hkey
    exact Or.inl (h.cleared hn he hc hslot hid)
  | none =>
    cases stage with
    | gate => exact absurd hkey (fun _ => hnone hstanding)
    | identify => exact (hnone hstanding.2).elim
    | register other =>
      obtain rfl := hs.id_eq hstanding.2.1 hkey
      exact absurd hid hstanding.2.2.1
    | verify other => cases hslot
    | submit other => cases other with
      | some other => cases hslot
      | none => exact (hnone hstanding.2).elim
    | queued other => cases other with
      | some other => cases hslot
      | none => exact (hnone hstanding.2).elim
    | waiting other deadline => cases hslot
    | withdraw other fault =>
      obtain rfl := hs.id_eq hstanding.2.1 hkey
      exact Or.inr (Or.inl ⟨fault, rfl⟩)
    | done outcome => exact absurd hid (hstanding.1 _ hkey)
    | abandoned => exact Or.inr (Or.inr rfl)

/-- As long as fewer than `2 ^ 64` ids have been taken, whatever the order of steps: a caller is let go without a
response only after the reader has told the state, and what the reader then does to the state is to fail a worker that
is up, and nothing else. Once the reader has come to its end, a slot belongs to a caller that takes it back at its next
steps, or that has given up, so that none is left when all who have taken an id have an outcome; whoever has no answer
then, and whose time has not been up, is told that the transport is closed as soon as the mailbox has taken or refused
its message, and has no other outcome whatever comes. -/
theorem Run.released {es : List Entry} {c : Channel} (h : Run es c) (hn : (taken es).length < width64) :
    (∀ later e earlier key, es = later ++ e :: earlier → e.Releases key → ∃ f ∈ earlier, f.Tells) ∧
    (∀ e ∈ es, ∀ before after, e.states? = some (before, after) →
      (after ≠ before ↔ e.Tells ∧ (before.value = .starting ∨ before.value = .running)) ∧
      (after ≠ before → ∃ reason, after.value = .failed reason)) ∧
    (c.reader = .ended →
      (∀ id ∈ c.pending, ∃ key job stage, c.callers[key]? = some ⟨job, stage⟩ ∧ (key, id) ∈ taken es ∧
        (stage = .verify id ∨ (∃ fault, stage = .withdraw id fault) ∨ stage = .abandoned)) ∧
      ((∀ key id, (key, id) ∈ taken es → ∃ outcome, c.outcome? key = some outcome) → c.pending = []) ∧
      ∀ key job stage, c.callers[key]? = some ⟨job, stage⟩ → c.Unanswered stage →
        c.LetsGo key stage ∧
        ∀ more c', Run (more ++ es) c' → (taken (more ++ es)).length < width64 →
          ∀ outcome, c'.outcome? key = some outcome → outcome = .error .transportClosed) := by
  refine ⟨?_, ?_, fun he => ⟨fun id hid => h.owner_of_slot hn he hid, fun hall => ?_, fun key job stage hc hu => ?_⟩⟩
  · rintro later e earlier key rfl hr
    obtain ⟨c', h'⟩ := h.before
    have hle : (taken earlier).length ≤ (taken (later ++ e :: earlier)).length := by
      rw [List.append_cons]
      exact taken_length_append _ _
    exact h'.told_of_releases (Nat.lt_of_le_of_lt hle hn) hr
  · intro e _ before after hstates
    have hlive : before.value.isLive = true ↔ before.value = .starting ∨ before.value = .running := by
      cases before.value <;> simp [Status.isLive]
    obtain ⟨htells, hfailed⟩ := Entry.states?_ne_iff hstates
    exact ⟨by rw [htells, hlive], hfailed⟩
  · refine List.eq_nil_iff_forall_not_mem.2 fun id hid => ?_
    obtain ⟨key, job, stage, hc, hkey, hstage⟩ := h.owner_of_slot hn he hid
    obtain ⟨outcome, ho⟩ := hall key id hkey
    obtain ⟨job', hdone⟩ := outcome?_eq_some.1 ho
    rw [hc] at hdone
    cases hdone
    rcases hstage with hstage | ⟨_, hstage⟩ | hstage <;> cases hstage
  · refine ⟨h.letsGo hn he hc hu, fun more c' h' hn' outcome ho => ?_⟩
    obtain ⟨-, after, hafter, hua⟩ := h.unanswered he hc hu h' hn'
    obtain ⟨job', hdone⟩ := outcome?_eq_some.1 ho
    rw [hafter] at hdone
    cases hdone
    exact hua

/-- One caller waits when the stream ends, and is let go; another one leaves its slot only after the slots have been
cleared, and finds the channel closed. -/
theorem released_waiter : ∃ es c, Run es c ∧ (taken es).length < width64 ∧ c.reader = .ended ∧
    c.stage? 0 = some (.withdraw 1 .transportClosed) ∧ c.stage? 1 = some (.verify 2) ∧ c.pending = [2] ∧
    (∃ e ∈ es, e.Tells) ∧ c.LetsGo 0 (.withdraw 1 .transportClosed) ∧ c.LetsGo 1 (.verify 2) := by
  have entered :=
    (Run.fresh.move (.enter (.ask false "m" .absent ⟨0⟩)) rfl).move (.enter (.ask false "m" .absent ⟨0⟩)) rfl
  have identified := (entered.move (.step 0 ⟨.running, 0⟩ (.caller 0)) rfl).move (.step 0 ⟨.running, 0⟩ (.caller 0)) rfl
  have verified :=
    (identified.move (.step 0 ⟨.running, 0⟩ (.caller 0)) rfl).move (.step 0 ⟨.running, 0⟩ (.caller 0)) rfl
  have waiting := verified.move (.step 0 ⟨.running, 0⟩ (.caller 0)) rfl
  have late := (waiting.move (.step 0 ⟨.running, 0⟩ (.caller 1)) rfl).move (.step 0 ⟨.running, 0⟩ (.caller 1)) rfl
  have ending := (late.move (.act .closesOutput) rfl).move (.step 0 ⟨.running, 0⟩ .reader) rfl
  have closed := (ending.move (.step 0 ⟨.running, 0⟩ .reader) rfl).move (.step 0 ⟨.running, 0⟩ .reader) rfl
  have cleared := (closed.move (.step 0 ⟨.running, 0⟩ .reader) rfl).move (.step 0 ⟨.running, 0⟩ (.caller 1)) rfl
  have free := cleared.move (.step 0 ⟨.running, 0⟩ (.caller 0)) rfl
  obtain ⟨htold, -, hend⟩ := free.released (by decide)
  obtain ⟨-, -, hgo⟩ := hend rfl
  obtain ⟨e, he, htells⟩ := htold [] _ _ 0 rfl ⟨0, _, 1, rfl, Or.inr ⟨0, rfl⟩, rfl⟩
  exact ⟨_, _, free, by decide, rfl, rfl, rfl, rfl, ⟨e, List.mem_cons_of_mem _ he, htells⟩,
    (hgo 0 _ _ rfl rfl).1, (hgo 1 _ _ rfl trivial).1⟩

end Channel

end Attendant

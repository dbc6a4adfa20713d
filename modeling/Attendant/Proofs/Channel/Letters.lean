import Attendant.Proofs.Channel.Teardown
import Attendant.Proofs.Channel.Wire

/-!
# Whose the messages are

The mailbox does not say from whom a command is. The history does: `letters` are the commands that it has accepted,
each with its sender. A move posts at most one (`mails_of_make`).

* `Run.mailed`: the reader posts nothing but refusals. A caller posts one letter at most, its own command, when it
  leaves the mailbox; so whoever has not come that far has posted none, and whoever waits has posted one.
* `Run.barred`: whoever comes to a mailbox that is shut is turned away, with or without having been asked whether the
  worker is running.
-/

namespace Attendant

/-- Whether a caller has handed its message over for sure. A caller that has gone away may have done so. -/
def Caller.hasSent (caller : Caller) : Bool :=
  match caller.stage with
  | .waiting _ _ => true
  | .done (.ok _) => caller.job ≠ .finish
  | _ => false

namespace Channel

/-- A command that the mailbox has accepted, and from whom. -/
structure Letter where
  sender : Sender
  command : Command
  deriving DecidableEq, Repr

/-- Who posts by a move, if anybody does. -/
def Move.sender : Move → Sender
  | .step _ _ (.caller key) => .caller key
  | _ => .reader

/-- What a move has posted. -/
def Entry.letters (e : Entry) : List Letter := e.posted.map fun command => ⟨e.move.sender, command⟩

/-- What has been posted, in the order in which the mailbox has accepted it. -/
def letters (es : List Entry) : List Letter := es.reverse.flatMap Entry.letters

@[simp] theorem letters_cons (e : Entry) (es : List Entry) : letters (e :: es) = letters es ++ e.letters := by
  simp [letters]

/-- What the callers want. -/
def jobs (c : Channel) : List Job := c.callers.map Caller.job

section

variable {now : Nat} {c c' : Channel} {m : Move} {key : Nat} {job : Job}

theorem getElem?_jobs (c : Channel) (key : Nat) : c.jobs[key]? = (c.callers[key]?).map Caller.job := List.getElem?_map

private theorem jobs_setStage (c : Channel) (key : Nat) (stage : Stage) : (c.setStage key stage).jobs = c.jobs := by
  apply List.ext_getElem?
  intro k
  rw [getElem?_jobs, getElem?_jobs]
  by_cases hk : k = key
  · subst hk
    simp [setStage, List.getElem?_modify_eq, Function.comp_def]
  · simp [setStage, List.getElem?_modify_ne _ _ (Ne.symm hk)]

/-- Only a newcomer brings a job. -/
theorem jobs_of_make (h : c.make? m = some c') (hm : ∀ job, m ≠ .enter job) : c'.jobs = c.jobs := by
  have hledger (hl : c'.ledger = c.ledger) : c'.jobs = c.jobs :=
    congrArg (fun l : Ledger => l.callers.map Caller.job) hl
  cases m with
  | enter job => exact absurd rfl (hm job)
  | act a =>
    cases h
    exact hledger (act_ledger c a)
  | abort =>
    cases h
    exact hledger (abort_ledger c)
  | abandon key =>
    cases h
    unfold abandon
    split
    · split
      · rfl
      · exact jobs_setStage c key _
    · rfl
  | step now status label =>
    obtain ⟨next, hstep, rfl⟩ := Option.map_eq_some_iff.1 h
    cases label with
    | caller key =>
      obtain ⟨after, hafter, rfl⟩ := Option.map_eq_some_iff.1 hstep
      obtain ⟨job, before, stage, -, hadvance⟩ := advance_of_stepCaller hafter
      exact (congrArg (List.map Caller.job) hadvance.callers).trans (jobs_setStage c key stage)
    | expire key =>
      obtain ⟨after, hafter, rfl⟩ := Option.map_eq_some_iff.1 hstep
      unfold expire at hafter
      cases hc : c.callers[key]? with
      | none => simp [hc] at hafter
      | some caller =>
        simp only [hc, Option.bind_eq_bind, Option.bind_some] at hafter
        repeat' split at hafter
        all_goals cases hafter <;> exact jobs_setStage c key _
    | writer =>
      obtain ⟨after, hafter, rfl⟩ := Option.map_eq_some_iff.1 hstep
      exact hledger (change_of_stepWriter hafter)
    | reader =>
      obtain ⟨status', c'⟩ := next
      have hreads : Reads status c status' c' := reads_of_stepReader hstep
      cases hreads with
      | @response _ _ body id _ _ => exact congrArg (List.map Caller.job) (c.resolve_frame id body).1
      | _ => rfl

/-- Whoever is there after a move has been there before it, with the same job, or has just come. -/
theorem caller_before (h : c.make? m = some c') {caller : Caller} (hc : c'.callers[key]? = some caller) :
    (∃ stage, c.callers[key]? = some ⟨caller.job, stage⟩) ∨
      m = .enter caller.job ∧ key = c.callers.length ∧ caller.stage = .gate := by
  by_cases hm : ∃ job, m = .enter job
  · obtain ⟨job, rfl⟩ := hm
    cases h
    rcases Nat.lt_or_ge key c.callers.length with hlt | hge
    · rw [show (c.enter job).1.callers = c.callers ++ [{ job }] from rfl, List.getElem?_append_left hlt] at hc
      exact Or.inl ⟨caller.stage, hc⟩
    · rw [show (c.enter job).1.callers = c.callers ++ [{ job }] from rfl, List.getElem?_append_right hge,
        List.getElem?_singleton] at hc
      split at hc
      · cases hc
        exact Or.inr ⟨rfl, by omega, rfl⟩
      · cases hc
  · left
    have hjobs := jobs_of_make h fun job he => hm ⟨job, he⟩
    have hjob : c.jobs[key]? = some caller.job := by rw [← hjobs, getElem?_jobs, hc, Option.map_some]
    rw [getElem?_jobs] at hjob
    obtain ⟨⟨job, stage⟩, hcaller, rfl⟩ := Option.map_eq_some_iff.1 hjob
    exact ⟨stage, hcaller⟩

/-- Whoever takes an id takes the next one. -/
theorem caller_of_took? {e : Entry} {key id : Nat} (h : e.took? = some (key, id)) :
    ∃ job, e.before.callers[key]? = some ⟨job, .identify⟩ ∧ id = e.before.nextId := by
  unfold Entry.took? at h
  split at h
  · split at h
    · rename_i hstage
      cases h
      obtain ⟨⟨job, _⟩, hc, rfl⟩ := Option.map_eq_some_iff.1 hstage
      exact ⟨job, hc, rfl⟩
    · cases h
  · cases h

/-! ### What a move posts -/

/-- All that a move can post. -/
inductive Mails (c : Channel) (m : Move) (c' : Channel) : List Letter → Prop
  | silent : Mails c m c' []
  | reply {now : Nat} {status : Watched Status} {reader : Frame.Reader} {reply : Value} {queued : Bool}
      (hm : m = .step now status .reader) (hr : c.reader = .replying reader reply queued) :
      Mails c m c' [⟨.reader, .send reply⟩]
  | caller {now : Nat} {status : Watched Status} {key : Nat} {job : Job} {stage : Stage} {id : Option Nat}
      (hm : m = .step now status (.caller key)) (hc : c.callers[key]? = some ⟨job, stage⟩)
      (hs : stage = .submit id ∨ stage = .queued id) (hopen : c.mailbox.isOpen = true)
      (hc' : c'.callers[key]? = some ⟨job, accepted now job id⟩) : Mails c m c' [⟨.caller key, job.command id⟩]

private theorem letters_eq (fresh : List Command) (hi : c'.mailbox.items = c.mailbox.items ++ fresh) :
    Entry.letters ⟨c, m, c'⟩ = fresh.map fun command => ⟨m.sender, command⟩ := by
  rw [Entry.letters, Entry.posted_eq hi]

private theorem letters_nil (hi : c'.mailbox.items.length ≤ c.mailbox.items.length) :
    Entry.letters ⟨c, m, c'⟩ = [] := by
  rw [Entry.letters, Entry.posted_nil hi]
  rfl

private theorem mails_of_same (hi : c'.mailbox.items = c.mailbox.items) :
    Mails c m c' (Entry.letters ⟨c, m, c'⟩) := by
  rw [letters_nil (Nat.le_of_eq (congrArg List.length hi))]
  exact .silent

/-- A caller posts by the steps at which its message is accepted. -/
private theorem mails_of_advance {status : Watched Status} {before after : Stage}
    (hc : c.callers[key]? = some ⟨job, before⟩) (h : Advance now c key job before after c') :
    Mails c (.step now status (.caller key)) c' (Entry.letters ⟨c, .step now status (.caller key), c'⟩) := by
  have hc' : c'.callers[key]? = some ⟨job, after⟩ := by rw [h.callers, setStage_caller hc]
  cases h with
  | @send id hopen _ =>
    rw [letters_eq [job.command id] rfl]
    exact .caller rfl hc (Or.inl rfl) hopen hc'
  | @redeem id hopen _ =>
    rw [letters_eq [job.command id] rfl]
    exact .caller rfl hc (Or.inr rfl) hopen hc'
  | leave _ => exact mails_of_same (Mailbox.items_promote _)
  | _ => exact mails_of_same rfl

private theorem length_items_of_stepWriter (h : c.stepWriter = some c') :
    c'.mailbox.items.length ≤ c.mailbox.items.length := by
  unfold stepWriter at h
  split at h
  · split at h
    · rename_i ht
      obtain ⟨rest, hitems, rfl⟩ := Mailbox.take?_eq_some ht
      cases h
      simp [Mailbox.items_promote, hitems]
    · cases h
      exact Nat.zero_le _
    · cases h
  · cases h
    exact Nat.le_refl _
  · repeat' split at h
    all_goals cases h <;> first | exact Nat.zero_le _ | exact Nat.le_refl _
  · cases h

private theorem length_items_abort (c : Channel) : c.abort.mailbox.items.length ≤ c.mailbox.items.length := by
  unfold abort
  simp only
  split <;> split <;> simp [Mailbox.withdraw, Mailbox.items_promote, endWriter, Mailbox.shut]

/-- A move posts one letter at most, and `Mails` says whose. -/
theorem mails_of_make (h : c.make? m = some c') : Mails c m c' (Entry.letters ⟨c, m, c'⟩) := by
  cases m with
  | enter job =>
    cases h
    exact mails_of_same rfl
  | act a =>
    cases h
    cases a with
    | writes bytes =>
      simp only [act]
      split <;> exact mails_of_same rfl
    | _ => exact mails_of_same rfl
  | abandon key =>
    cases h
    unfold abandon
    split
    · split
      · exact mails_of_same rfl
      · exact mails_of_same (Mailbox.items_promote _)
    · exact mails_of_same rfl
  | abort =>
    cases h
    rw [letters_nil (length_items_abort c)]
    exact .silent
  | step now status label =>
    obtain ⟨next, hstep, rfl⟩ := Option.map_eq_some_iff.1 h
    cases label with
    | caller key =>
      obtain ⟨after, hafter, rfl⟩ := Option.map_eq_some_iff.1 hstep
      obtain ⟨job, before, stage, hc, hadvance⟩ := advance_of_stepCaller hafter
      exact mails_of_advance hc hadvance
    | expire key =>
      obtain ⟨after, hafter, rfl⟩ := Option.map_eq_some_iff.1 hstep
      unfold expire at hafter
      cases hc : c.callers[key]? with
      | none => simp [hc] at hafter
      | some caller =>
        simp only [hc, Option.bind_eq_bind, Option.bind_some] at hafter
        repeat' split at hafter
        all_goals cases hafter <;> exact mails_of_same rfl
    | writer =>
      obtain ⟨after, hafter, rfl⟩ := Option.map_eq_some_iff.1 hstep
      rw [letters_nil (length_items_of_stepWriter hafter)]
      exact .silent
    | reader =>
      obtain ⟨status', c'⟩ := next
      have hreads : Reads status c status' c' := reads_of_stepReader hstep
      cases hreads with
      | @response _ _ body id _ _ => exact mails_of_same (congrArg Mailbox.items (c.resolve_frame id body).2.2.1)
      | @redeem _ reply hr _ =>
        rw [letters_eq [.send reply] rfl]
        exact .reply rfl hr
      | @push _ reply hr =>
        rw [letters_eq [.send reply] rfl]
        exact .reply rfl hr
      | leave _ => exact mails_of_same (Mailbox.items_promote _)
      | _ => exact mails_of_same rfl

/-- Whoever has handed its message over by a move has posted it. -/
private theorem hasSent_of_make (h : c.make? m = some c') {stage stage' : Stage}
    (hc : c.callers[key]? = some ⟨job, stage⟩) (hc' : c'.callers[key]? = some ⟨job, stage'⟩)
    (hs : Caller.hasSent ⟨job, stage'⟩ = true) :
    Caller.hasSent ⟨job, stage⟩ = true ∨ ∃ command, ⟨.caller key, command⟩ ∈ Entry.letters ⟨c, m, c'⟩ := by
  rcases caller_of_make h hc with hsame | ⟨-, rfl⟩ | ⟨now, status, rfl, hstep⟩ | ⟨now, status, rfl, hexpire⟩
  · rw [hsame] at hc'
    cases hc'
    exact Or.inl hs
  · rw [abandon_caller hc] at hc'
    cases hc'
    split at hs
    · exact Or.inl hs
    · cases hs
  · obtain ⟨job', before, after, hc'', hadvance⟩ := advance_of_stepCaller hstep
    rw [hc] at hc''
    cases hc''
    have hafter : c'.callers[key]? = some ⟨job, after⟩ := by rw [hadvance.callers, setStage_caller hc]
    rw [hafter] at hc'
    cases hc'
    cases hadvance with
    | @send id _ _ | @redeem id _ _ =>
      right
      rw [letters_eq [job.command id] rfl]
      exact ⟨_, List.mem_singleton.2 rfl⟩
    | collect _ => exact Or.inl rfl
    | @shut id _ | @leave id _ =>
      -- only a job that posts nothing is content to be refused
      cases job <;> cases id <;> simp [refused, Caller.hasSent] at hs
    | _ => cases hs
  · obtain ⟨id, deadline, method, limit, rfl, hafter⟩ := caller_of_expire hexpire hc
    exact Or.inl rfl

end

/-! ### What has been posted -/

/-- What is known about the letters and their senders. -/
structure Mailed (es : List Entry) (c : Channel) : Prop where
  replying : ∀ reader reply queued, c.reader = .replying reader reply queued →
    ∃ id method, reply = Message.methodNotFound id method
  replies : ∀ command, ⟨.reader, command⟩ ∈ letters es →
    ∃ id method, command = .send (Message.methodNotFound id method)
  callers : ∀ key command, ⟨.caller key, command⟩ ∈ letters es → ∃ job stage id,
    c.callers[key]? = some ⟨job, stage⟩ ∧ stage ≠ .gate ∧ stage.isUnsent = false ∧ command = job.command id
  once : (((letters es).map Letter.sender).filter (· ≠ .reader)).Nodup
  sent : ∀ key caller, c.callers[key]? = some caller → caller.hasSent = true →
    ∃ command, ⟨.caller key, command⟩ ∈ letters es

section

variable {es : List Entry} {c c' : Channel} {m : Move}

private theorem replying_of_make (h : c.make? m = some c')
    (hr : ∀ reader reply queued, c.reader = .replying reader reply queued →
      ∃ id method, reply = Message.methodNotFound id method) :
    ∀ reader reply queued, c'.reader = .replying reader reply queued →
      ∃ id method, reply = Message.methodNotFound id method := by
  intro reader reply queued hr'
  rcases reader_of_make h with ⟨-, hsame | ⟨-, hstopped⟩⟩ | ⟨now, status, next, -, hstep, rfl⟩
  · exact hr reader reply queued (hsame.symm.trans hr')
  · rw [hstopped] at hr'
    cases hr'
  · obtain ⟨status', c'⟩ := next
    have hreads : Reads status c status' c' := reads_of_stepReader hstep
    cases hreads with
    | request _ _ =>
      cases hr'
      exact ⟨_, _, rfl⟩
    | wait hr'' _ =>
      cases hr'
      exact hr _ _ _ hr''
    | @result _ _ result _ _ _ _ => cases result <;> cases hr'
    | @last _ _ result _ _ _ _ => cases result <;> cases hr'
    | _ => cases hr'

/-- No caller comes back to where it has been before it has handed its message over. -/
theorem stage_stays (h : c.make? m = some c') {key : Nat} {job : Job} {stage stage' : Stage}
    (hc : c.callers[key]? = some ⟨job, stage⟩) (hc' : c'.callers[key]? = some ⟨job, stage'⟩) (hg : stage ≠ .gate)
    (hs : stage.isUnsent = false) : stage' ≠ .gate ∧ stage'.isUnsent = false := by
  rcases caller_of_make h hc with hsame | ⟨-, rfl⟩ | ⟨now, status, rfl, hstep⟩ | ⟨now, status, rfl, hexpire⟩
  · rw [hsame] at hc'
    cases hc'
    exact ⟨hg, hs⟩
  · rw [abandon_caller hc] at hc'
    cases hc'
    split
    · exact ⟨hg, hs⟩
    · exact ⟨nofun, rfl⟩
  · obtain ⟨job', before, after, hc'', hadvance⟩ := advance_of_stepCaller hstep
    rw [hc] at hc''
    cases hc''
    have hafter : c'.callers[key]? = some ⟨job, after⟩ := by rw [hadvance.callers, setStage_caller hc]
    rw [hafter] at hc'
    cases hc'
    cases hadvance with
    | refuse _ | ask _ | tell _ => exact absurd rfl hg
    | collect _ | lost _ _ | remove => exact ⟨nofun, rfl⟩
    | _ => cases hs
  · obtain ⟨id, deadline, method, limit, rfl, hafter⟩ := caller_of_expire hexpire hc
    rw [hafter] at hc'
    cases hc'
    exact ⟨nofun, rfl⟩

/-- Nobody moves who has come to its end. -/
theorem over_stays (h : c.make? m = some c') {key : Nat} {caller : Caller} (hc : c.callers[key]? = some caller)
    (ho : caller.stage.isOver = true) : c'.callers[key]? = some caller := by
  obtain ⟨job, stage⟩ := caller
  rcases caller_of_make h hc with hsame | ⟨-, rfl⟩ | ⟨now, status, rfl, hstep⟩ | ⟨now, status, rfl, hexpire⟩
  · exact hsame
  · rw [abandon_caller hc, if_pos ho]
  · cases stage with
    | done _ | abandoned => simp [stepCaller, hc] at hstep
    | _ => cases ho
  · obtain ⟨_, _, _, _, rfl, -⟩ := caller_of_expire hexpire hc
    cases ho

private theorem accepted_isSent (now : Nat) (job : Job) (id : Option Nat) :
    accepted now job id ≠ .gate ∧ (accepted now job id).isUnsent = false := by
  unfold accepted
  split <;> exact ⟨nofun, rfl⟩

/-- Whoever has posted a letter before is still there, and beyond the mailbox. -/
private theorem Mailed.callers_stay (h : Mailed es c) (hmake : c.make? m = some c') {key : Nat} {command : Command}
    (hl : ⟨.caller key, command⟩ ∈ letters es) : ∃ job stage id,
      c'.callers[key]? = some ⟨job, stage⟩ ∧ stage ≠ .gate ∧ stage.isUnsent = false ∧ command = job.command id := by
  obtain ⟨job, stage, id, hc, hg, hs, rfl⟩ := h.callers key command hl
  obtain ⟨stage', hc'⟩ := (change_of_make hmake).job_stays hc
  obtain ⟨hg', hs'⟩ := stage_stays hmake hc hc' hg hs
  exact ⟨job, stage', id, hc', hg', hs', rfl⟩

private theorem Mailed.replies_make (h : Mailed es c) (hmake : c.make? m = some c') {command : Command}
    (hl : ⟨.reader, command⟩ ∈ Entry.letters ⟨c, m, c'⟩) :
    ∃ id method, command = .send (Message.methodNotFound id method) := by
  have hmails := mails_of_make hmake
  generalize Entry.letters ⟨c, m, c'⟩ = posted at hmails hl
  cases hmails with
  | silent => cases hl
  | reply _ hr =>
    obtain rfl : command = .send _ := congrArg Letter.command (List.mem_singleton.1 hl)
    obtain ⟨id, method, rfl⟩ := h.replying _ _ _ hr
    exact ⟨id, method, rfl⟩
  | caller _ _ _ _ _ => cases congrArg Letter.sender (List.mem_singleton.1 hl)

private theorem callers_of_make (hmake : c.make? m = some c') {key : Nat} {command : Command}
    (hl : ⟨.caller key, command⟩ ∈ Entry.letters ⟨c, m, c'⟩) : ∃ job stage id,
      c'.callers[key]? = some ⟨job, stage⟩ ∧ stage ≠ .gate ∧ stage.isUnsent = false ∧ command = job.command id := by
  have hmails := mails_of_make hmake
  generalize Entry.letters ⟨c, m, c'⟩ = posted at hmails hl
  cases hmails with
  | silent => cases hl
  | reply _ _ => cases congrArg Letter.sender (List.mem_singleton.1 hl)
  | @caller now _ _ job _ id _ _ _ _ hc' =>
    cases List.mem_singleton.1 hl
    obtain ⟨hg, hs⟩ := accepted_isSent now job id
    exact ⟨job, _, id, hc', hg, hs, rfl⟩

private theorem Mailed.once_make (h : Mailed es c) (hmake : c.make? m = some c') :
    (((letters es ++ Entry.letters ⟨c, m, c'⟩).map Letter.sender).filter (· ≠ .reader)).Nodup := by
  have hmails := mails_of_make hmake
  rw [List.map_append, List.filter_append]
  generalize Entry.letters ⟨c, m, c'⟩ = posted at hmails
  cases hmails with
  | silent => simpa using h.once
  | reply _ _ => simpa using h.once
  | @caller _ _ key job stage id _ hc hs _ _ =>
    refine List.nodup_append.2 ⟨h.once, by simp, ?_⟩
    rintro sender hmem _ hkey rfl
    -- whoever posts now has not posted before
    obtain rfl : sender = .caller key := by simpa using hkey
    obtain ⟨hsender, -⟩ := List.mem_filter.1 hmem
    obtain ⟨⟨_, command⟩, hl, rfl⟩ := List.mem_map.1 hsender
    obtain ⟨job', stage', id', hc', -, hsent, -⟩ := h.callers key command hl
    rw [hc] at hc'
    cases hc'
    rcases hs with rfl | rfl <;> cases hsent

private theorem Mailed.sent_make (h : Mailed es c) (hmake : c.make? m = some c') {key : Nat} {caller : Caller}
    (hc' : c'.callers[key]? = some caller) (hs : caller.hasSent = true) :
    ∃ command, ⟨.caller key, command⟩ ∈ letters es ++ Entry.letters ⟨c, m, c'⟩ := by
  obtain ⟨job, stage'⟩ := caller
  rcases caller_before hmake hc' with ⟨stage, hc⟩ | ⟨-, -, hgate⟩
  · rcases hasSent_of_make hmake hc hc' hs with hs | ⟨command, hl⟩
    · obtain ⟨command, hl⟩ := h.sent key _ hc hs
      exact ⟨command, List.mem_append_left _ hl⟩
    · exact ⟨command, List.mem_append_right _ hl⟩
  · obtain rfl : stage' = .gate := hgate
    cases hs

private theorem Mailed.make (h : Mailed es c) (hmake : c.make? m = some c') : Mailed (⟨c, m, c'⟩ :: es) c' := by
  constructor
  case replying => exact replying_of_make hmake h.replying
  all_goals rw [letters_cons]
  case replies =>
    intro command hl
    rcases List.mem_append.1 hl with hl | hl
    · exact h.replies command hl
    · exact h.replies_make hmake hl
  case callers =>
    intro key command hl
    rcases List.mem_append.1 hl with hl | hl
    · exact h.callers_stay hmake hl
    · exact callers_of_make hmake hl
  case once => exact h.once_make hmake
  case sent =>
    intro key caller hc' hs
    exact h.sent_make hmake hc' hs

/-- Along every run each letter has its sender, who posts once, unless it is the reader. -/
theorem Run.mailed (h : Run es c) : Mailed es c := by
  induction h with
  | fresh => exact ⟨nofun, nofun, nofun, List.nodup_nil, by simp⟩
  | move m _ hmake ih => exact ih.make hmake

end

/-! ### A mailbox that is shut -/

/-- The stages of a caller that can only be turned away. -/
def Barred (stage : Stage) : Prop :=
  stage = .gate ∨ TurnedAway stage ∨ stage = .done (.error .notConnected) ∨ stage = .done (.error .encode)

section

variable {es : List Entry} {c c' : Channel} {m : Move} {key : Nat} {job : Job} {stage : Stage}

private theorem barred_of_refused (hjob : job ≠ .finish) (id : Option Nat) : Barred (refused job id) := by
  right
  left
  cases job with
  | ask guarded method params limit =>
    cases id with
    | some id => exact Or.inr (Or.inl ⟨id, rfl⟩)
    | none => exact Or.inr (Or.inr (Or.inl rfl))
  | tell guarded method params =>
    cases id with
    | some id => exact Or.inr (Or.inl ⟨id, rfl⟩)
    | none => exact Or.inr (Or.inr (Or.inl rfl))
  | finish => exact absurd rfl hjob

/-- Whoever can only be turned away stays so while the mailbox is shut. -/
theorem barred_of_make (hmake : c.make? m = some c') (hshut : c.mailbox.isOpen = false)
    (hc : c.callers[key]? = some ⟨job, stage⟩) (hjob : job ≠ .finish) (hs : Barred stage) :
    ∃ after, c'.callers[key]? = some ⟨job, after⟩ ∧ Barred after := by
  have hunsent {after : Stage} (h : after.isUnsent = true) : Barred after := Or.inr (Or.inl (Or.inl h))
  rcases caller_of_make hmake hc with hsame | ⟨-, rfl⟩ | ⟨now, status, -, hstep⟩ | ⟨now, status, -, hexpire⟩
  · exact ⟨stage, hsame, hs⟩
  · refine ⟨_, abandon_caller hc, ?_⟩
    split
    · exact hs
    · exact Or.inr (Or.inl (Or.inr (Or.inr (Or.inr rfl))))
  · obtain ⟨job', before, after, hc', hadvance⟩ := advance_of_stepCaller hstep
    rw [hc] at hc'
    cases hc'
    refine ⟨after, by rw [hadvance.callers, setStage_caller hc], ?_⟩
    have hopen (ho : c.mailbox.isOpen = true) : False := by
      rw [hshut] at ho
      cases ho
    have hwaiting {id deadline : Nat} (hw : Barred (.waiting id deadline)) : False := by
      rcases hw with hw | (hw | ⟨_, hw⟩ | hw | hw) | hw | hw <;> cases hw
    cases hadvance with
    | refuse hf => exact Or.inr (Or.inr (hf.imp (by rintro rfl; rfl) (by rintro rfl; rfl)))
    | ask _ | tell _ | identify | register _ | verified _ | wait _ _ => exact hunsent rfl
    | @closed id _ => exact Or.inr (Or.inl (Or.inr (Or.inl ⟨id, rfl⟩)))
    | @shut id _ | @leave id _ => exact barred_of_refused hjob id
    | send ho _ | redeem ho _ => exact (hopen ho).elim
    | collect _ | lost _ _ => exact (hwaiting hs).elim
    | @remove id fault =>
      rcases hs with hs | (hs | ⟨_, hs⟩ | hs | hs) | hs | hs <;> cases hs
      exact Or.inr (Or.inl (Or.inr (Or.inr (Or.inl rfl))))
  · obtain ⟨id, deadline, -, -, rfl, -⟩ := caller_of_expire hexpire hc
    rcases hs with hs | (hs | ⟨_, hs⟩ | hs | hs) | hs | hs <;> cases hs

/-- Until it is over it can go on. -/
theorem goes_on_of_barred (hc : c.callers[key]? = some ⟨job, stage⟩) (hshut : c.mailbox.isOpen = false)
    (hs : Barred stage) (ho : stage.isOver = false) (now : Nat) (status : Status) :
    ∃ c', c.stepCaller now status key = some c' := by
  cases stage with
  | gate =>
    unfold stepCaller
    simp only [hc, Option.bind_eq_bind, Option.bind_some]
    repeat' split
    all_goals exact ⟨_, rfl⟩
  | waiting id deadline => rcases hs with hs | (hs | ⟨_, hs⟩ | hs | hs) | hs | hs <;> cases hs
  | done _ | abandoned => cases ho
  | _ => simp [stepCaller, hc, hshut]

end

/-! ### The gate -/

section

variable {c c' : Channel} {key : Nat} {job : Job}

/-- Whoever asks for a running worker is refused exactly if none is said to be running. -/
theorem gate_iff (hc : c.callers[key]? = some ⟨job, .gate⟩) (hg : job.guarded = true) (now : Nat) (status : Status) :
    ∃ c', c.stepCaller now status key = some c' ∧
      (c'.outcome? key = some (.error .notConnected) ↔ status ≠ .running) := by
  by_cases hr : status = .running
  · subst hr
    have hpassed {stage : Stage} (hne : stage ≠ .done (.error .notConnected)) :
        (c.setStage key stage).outcome? key = some (.error .notConnected) ↔ Status.running ≠ .running := by
      refine ⟨fun ho => ?_, fun hne => absurd rfl hne⟩
      obtain ⟨job', hdone⟩ := outcome?_eq_some.1 ho
      rw [setStage_caller hc] at hdone
      cases hdone
      exact absurd rfl hne
    cases job with
    | ask guarded method params limit =>
      cases params with
      | unencodable =>
        exact ⟨c.setStage key (.done (.error .encode)), by simp [stepCaller, hc], hpassed (by simp)⟩
      | absent => exact ⟨c.setStage key .identify, by simp [stepCaller, hc], hpassed (by simp)⟩
      | given v => exact ⟨c.setStage key .identify, by simp [stepCaller, hc], hpassed (by simp)⟩
    | tell guarded method params =>
      exact ⟨c.setStage key (.submit none), by simp [stepCaller, hc], hpassed (by simp)⟩
    | finish => cases hg
  · refine ⟨c.setStage key (.done (.error .notConnected)), by simp [stepCaller, hc, hg, hr], fun _ => hr, fun _ => ?_⟩
    exact outcome?_eq_some.2 ⟨job, setStage_caller hc _⟩

private theorem running_of_gate {now : Nat} {status : Status} {stage : Stage} (hc : c.callers[key]? = some ⟨job, .gate⟩)
    (hg : job.guarded = true) (h : c.stepCaller now status key = some c')
    (hc' : c'.callers[key]? = some ⟨job, stage⟩) (hs : stage.isUnsent = true) : status = .running := by
  obtain ⟨c'', hstep, hrefused⟩ := gate_iff hc hg now status
  obtain rfl : c'' = c' := Option.some.inj (hstep.symm.trans h)
  by_contra hr
  obtain ⟨job', hdone⟩ := outcome?_eq_some.1 (hrefused.2 hr)
  rw [hc'] at hdone
  cases hdone
  cases hs

/-- Whoever comes to have its message still before it by a move has found the worker running at that move. -/
theorem running_of_make {m : Move} (h : c.make? m = some c') {stage stage' : Stage}
    (hc : c.callers[key]? = some ⟨job, stage⟩) (hc' : c'.callers[key]? = some ⟨job, stage'⟩)
    (hg : job.guarded = true) (hs : stage.isUnsent = false) (hs' : stage'.isUnsent = true) :
    ∃ now status, m = .step now status (.caller key) ∧ status.value = .running := by
  have hgate : stage = .gate := by
    by_contra hne
    obtain ⟨-, hsent⟩ := stage_stays h hc hc' hne hs
    rw [hs'] at hsent
    cases hsent
  subst hgate
  rcases caller_of_make h hc with hsame | ⟨-, rfl⟩ | ⟨now, status, rfl, hstep⟩ | ⟨now, status, rfl, hexpire⟩
  · rw [hsame] at hc'
    cases hc'
    cases hs'
  · rw [abandon_caller hc] at hc'
    cases hc'
    cases hs'
  · exact ⟨now, status, rfl, running_of_gate hc hg hstep hc' hs'⟩
  · obtain ⟨_, _, _, _, hgate, -⟩ := caller_of_expire hexpire hc
    cases hgate

end

end Channel

end Attendant

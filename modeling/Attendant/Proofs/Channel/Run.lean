import Attendant.Channel

/-!
# Runs of a channel

A run is any sequence of moves from a fresh channel: a caller comes or goes away, somebody makes a step, the worker
does something at its ends of the pipes, or both tasks are stopped. Time and the state of the worker may be
anything at each step. From what has happened one can read which caller has taken which id (`taken`), and which
responses have filled a slot (`resolved`).

The steps of a caller and of the reader are listed once, with what they find and what they leave behind: `Advance` and
`Reads`. What later holds of a step is read off these lists. The key facts: only a reader whose stream has come to its
end touches the state of the worker (`status_of_step`), and seen from ids and slots, a move is one of the nine changes
of `Change` (`change_of_make`).
-/

namespace Attendant

/-- Whether a job is one that waits for a response. -/
def Job.isAsk : Job → Bool
  | .ask _ _ _ _ => true
  | _ => false

/-- Whether a reader does nothing any more. -/
def ReaderTask.isOver : ReaderTask → Bool
  | .ended | .stopped => true
  | _ => false

/-- The last of a list is changed. -/
theorem modify_length_append {α : Type} (l : List α) (a : α) (f : α → α) :
    (l ++ [a]).modify l.length f = l ++ [f a] := by
  induction l with
  | nil => rfl
  | cons b l ih => simp [ih]

namespace Channel

/-- What can happen to a channel. -/
inductive Move where
  | enter (job : Job)
  | abandon (key : Nat)
  | step (now : Nat) (status : Watched Status) (label : Label)
  | act (act : Act)
  | abort

/-- The channel after a move. Not everyone can move. -/
def make? (c : Channel) : Move → Option Channel
  | .enter job => some (c.enter job).1
  | .abandon key => some (c.abandon key)
  | .step now status label => (c.step now status label).map (·.2)
  | .act a => some (c.act a)
  | .abort => some c.abort

/-- The caller that a move is the move of. -/
def Move.caller? : Move → Option Nat
  | .abandon key | .step _ _ (.caller key) | .step _ _ (.expire key) => some key
  | _ => none

/-- A move that has been made. -/
structure Entry where
  before : Channel
  move : Move
  after : Channel

/-- A channel, and what has happened to it since it was fresh, latest first. -/
inductive Run : List Entry → Channel → Prop where
  | fresh : Run [] {}
  | move {es : List Entry} {c c' : Channel} (m : Move) : Run es c → c.make? m = some c' → Run (⟨c, m, c'⟩ :: es) c'

/-- The caller that has taken an id, and the id. -/
def Entry.took? (e : Entry) : Option (Nat × Nat) :=
  match e.move with
  | .step _ _ (.caller key) =>
    match e.before.stage? key with
    | some .identify => some (key, e.before.nextId)
    | _ => none
  | _ => none

/-- The response that the reader has found a slot for: its id, and the whole message. -/
def Entry.resolved? (e : Entry) : Option (Nat × Value) :=
  match e.move, e.before.reader with
  | .step _ _ .reader, .dispatching _ message =>
    match Incoming.ofValue? message with
    | some (.response id _) => if e.before.pending.contains id then some (id, message) else none
    | _ => none
  | _, _ => none

/-- Who has taken which id, latest first. -/
def taken (es : List Entry) : List (Nat × Nat) := es.filterMap Entry.took?

/-- The responses that have filled a slot, latest first. -/
def resolved (es : List Entry) : List (Nat × Value) := es.filterMap Entry.resolved?

/-! ### One step of a caller -/

/-- The steps of a caller with a job: where it stood, where it stands then, and the channel after the step. -/
inductive Advance (now : Nat) (c : Channel) (key : Nat) (job : Job) : Stage → Stage → Channel → Prop where
  | refuse {fault : RequestFault} (hf : fault = .notConnected ∨ fault = .encode) :
      Advance now c key job .gate (.done (.error fault)) (c.setStage key (.done (.error fault)))
  | ask (hask : job.isAsk = true) : Advance now c key job .gate .identify (c.setStage key .identify)
  | tell (hask : job.isAsk = false) : Advance now c key job .gate (.submit none) (c.setStage key (.submit none))
  | identify :
      Advance now c key job .identify (.register c.nextId)
        { c.setStage key (.register c.nextId) with nextId := (c.nextId + 1) % width64 }
  | register (id : Nat) :
      Advance now c key job (.register id) (.verify id)
        { c.setStage key (.verify id) with pending := c.pending ++ [id] }
  | closed {id : Nat} (hclosed : c.closed = true) :
      Advance now c key job (.verify id) (.withdraw id .transportClosed)
        (c.setStage key (.withdraw id .transportClosed))
  | verified {id : Nat} (hclosed : c.closed = false) :
      Advance now c key job (.verify id) (.submit (some id)) (c.setStage key (.submit (some id)))
  | shut {id : Option Nat} (hshut : c.mailbox.isOpen = false) :
      Advance now c key job (.submit id) (refused job id) (c.setStage key (refused job id))
  | send {id : Option Nat} (hopen : c.mailbox.isOpen = true) (hroom : c.mailbox.hasRoom = true) :
      Advance now c key job (.submit id) (accepted now job id)
        { c.setStage key (accepted now job id) with mailbox := c.mailbox.push (job.command id) }
  | wait {id : Option Nat} (hopen : c.mailbox.isOpen = true) (hroom : c.mailbox.hasRoom = false) :
      Advance now c key job (.submit id) (.queued id)
        { c.setStage key (.queued id) with mailbox := c.mailbox.wait (.caller key) }
  | leave {id : Option Nat} (hshut : c.mailbox.isOpen = false) :
      Advance now c key job (.queued id) (refused job id)
        { c.setStage key (refused job id) with mailbox := c.mailbox.withdraw (.caller key) }
  | redeem {id : Option Nat} (hopen : c.mailbox.isOpen = true)
      (hgranted : c.mailbox.isGranted (.caller key) = true) :
      Advance now c key job (.queued id) (accepted now job id)
        { c.setStage key (accepted now job id) with
          mailbox := c.mailbox.redeem (.caller key) (job.command id) }
  | collect {id deadline : Nat} {body : Value} (ha : c.answers.lookup id = some body) :
      Advance now c key job (.waiting id deadline) (.done (outcomeOf body))
        { c.setStage key (.done (outcomeOf body)) with answers := c.answers.filter (·.1 != id) }
  | lost {id deadline : Nat} (ha : c.answers.lookup id = none) (hid : id ∉ c.pending) :
      Advance now c key job (.waiting id deadline) (.withdraw id .transportClosed)
        (c.setStage key (.withdraw id .transportClosed))
  | remove {id : Nat} {fault : RequestFault} :
      Advance now c key job (.withdraw id fault) (.done (.error fault))
        { c.setStage key (.done (.error fault)) with pending := c.pending.erase id }

/-- Whoever makes a step is there, and has made one of these. -/
theorem advance_of_stepCaller {now : Nat} {status : Status} {c c' : Channel} {key : Nat}
    (h : c.stepCaller now status key = some c') :
    ∃ job before after, c.callers[key]? = some ⟨job, before⟩ ∧ Advance now c key job before after c' := by
  unfold stepCaller at h
  cases hc : c.callers[key]? with
  | none => simp [hc] at h
  | some caller =>
    obtain ⟨job, stage⟩ := caller
    simp only [hc, Option.pure_def, Option.bind_eq_bind, Option.bind_some] at h
    refine ⟨job, stage, ?_⟩
    cases stage with
    | gate =>
      simp only at h
      split at h
      · cases h
        exact ⟨_, rfl, .refuse (Or.inl rfl)⟩
      · cases job with
        | ask guarded method params limit =>
          cases params with
          | unencodable =>
            cases h
            exact ⟨_, rfl, .refuse (Or.inr rfl)⟩
          | absent =>
            cases h
            exact ⟨_, rfl, .ask rfl⟩
          | given v =>
            cases h
            exact ⟨_, rfl, .ask rfl⟩
        | tell guarded method params =>
          cases h
          exact ⟨_, rfl, .tell rfl⟩
        | finish =>
          cases h
          exact ⟨_, rfl, .tell rfl⟩
    | identify =>
      cases h
      exact ⟨_, rfl, .identify⟩
    | register id =>
      cases h
      exact ⟨_, rfl, .register id⟩
    | verify id =>
      cases h
      cases hclosed : c.closed with
      | true => exact ⟨_, rfl, .closed hclosed⟩
      | false => exact ⟨_, rfl, .verified hclosed⟩
    | submit id =>
      simp only at h
      split at h
      · rename_i hshut
        cases h
        exact ⟨_, rfl, .shut (by simpa using hshut)⟩
      · rename_i hopen
        split at h
        · rename_i hroom
          cases h
          exact ⟨_, rfl, .send (by simpa using hopen) hroom⟩
        · rename_i hroom
          cases h
          exact ⟨_, rfl, .wait (by simpa using hopen) (by simpa using hroom)⟩
    | queued id =>
      simp only at h
      split at h
      · rename_i hshut
        cases h
        exact ⟨_, rfl, .leave (by simpa using hshut)⟩
      · rename_i hopen
        split at h
        · rename_i hgranted
          cases h
          exact ⟨_, rfl, .redeem (by simpa using hopen) hgranted⟩
        · cases h
    | waiting id deadline =>
      simp only at h
      split at h
      · rename_i body ha
        cases h
        exact ⟨_, rfl, .collect ha⟩
      · rename_i ha
        split at h
        · cases h
        · rename_i hid
          cases h
          exact ⟨_, rfl, .lost ha fun hmem => hid (List.contains_iff_mem.2 hmem)⟩
    | withdraw id fault =>
      cases h
      exact ⟨_, rfl, .remove⟩
    | done outcome => cases h
    | abandoned => cases h

section

variable {now : Nat} {c c' : Channel} {key : Nat} {job : Job} {before after : Stage}

theorem Advance.callers (h : Advance now c key job before after c') :
    c'.callers = (c.setStage key after).callers := by
  cases h <;> rfl

/-- A caller leaves both tasks and both pipes alone. -/
theorem Advance.tasks (h : Advance now c key job before after c') :
    c'.reader = c.reader ∧ c'.writer = c.writer ∧ c'.toWorker = c.toWorker ∧ c'.fromWorker = c.fromWorker := by
  cases h <;> exact ⟨rfl, rfl, rfl, rfl⟩

end

/-! ### One step of the reader -/

/-- The steps of the reader: what the state of the worker and the channel are after it. -/
inductive Reads (status : Watched Status) (c : Channel) : Watched Status → Channel → Prop where
  | scan {reader r : Frame.Reader} {bytes : List UInt8} (hr : c.reader = .reading reader)
      (hbytes : c.fromWorker.bytes ≠ []) (hscan : reader.scan c.fromWorker.bytes = (r, none, bytes)) :
      Reads status c status { c with reader := .reading r, fromWorker := { c.fromWorker with bytes } }
  | result {reader r : Frame.Reader} {result : Frame.Result} {bytes : List UInt8} (hr : c.reader = .reading reader)
      (hbytes : c.fromWorker.bytes ≠ []) (hscan : reader.scan c.fromWorker.bytes = (r, some result, bytes)) :
      Reads status c status { c with reader := afterResult r result, fromWorker := { c.fromWorker with bytes } }
  | line {reader r : Frame.Reader} (hr : c.reader = .reading reader) (hend : reader.ended = (r, none))
      (hbytes : c.fromWorker.bytes = []) (hgone : c.fromWorker.hasWriter = false) :
      Reads status c status { c with reader := .reading r }
  | last {reader r : Frame.Reader} {result : Frame.Result} (hr : c.reader = .reading reader)
      (hend : reader.ended = (r, some result)) (hbytes : c.fromWorker.bytes = [])
      (hgone : c.fromWorker.hasWriter = false) :
      Reads status c status { c with reader := afterResult r result }
  | response {reader : Frame.Reader} {message body : Value} {id : Nat} (hr : c.reader = .dispatching reader message)
      (hm : Incoming.ofValue? message = some (.response id body)) :
      Reads status c status { c.resolve id body with reader := .reading reader }
  | request {reader : Frame.Reader} {message id : Value} {method : String} (hr : c.reader = .dispatching reader message)
      (hm : Incoming.ofValue? message = some (.request id method)) :
      Reads status c status { c with reader := .replying reader (Message.methodNotFound id method) false }
  | skip {reader : Frame.Reader} {message : Value} (hr : c.reader = .dispatching reader message)
      (hm : ∀ id body, Incoming.ofValue? message ≠ some (.response id body)) :
      Reads status c status { c with reader := .reading reader }
  | leave {reader : Frame.Reader} {reply : Value} {queued : Bool} (hr : c.reader = .replying reader reply queued) :
      Reads status c status { c with reader := .reading reader, mailbox := c.mailbox.withdraw .reader }
  | redeem {reader : Frame.Reader} {reply : Value} (hr : c.reader = .replying reader reply true)
      (hgranted : c.mailbox.isGranted .reader = true) :
      Reads status c status
        { c with reader := .reading reader, mailbox := c.mailbox.redeem .reader (.send reply) }
  | push {reader : Frame.Reader} {reply : Value} (hr : c.reader = .replying reader reply false) :
      Reads status c status { c with reader := .reading reader, mailbox := c.mailbox.push (.send reply) }
  | wait {reader : Frame.Reader} {reply : Value} (hr : c.reader = .replying reader reply false)
      (hroom : c.mailbox.hasRoom = false) :
      Reads status c status { c with reader := .replying reader reply true, mailbox := c.mailbox.wait .reader }
  | fail {reason : String} (hr : c.reader = .failing reason) :
      Reads status c (status.modify? (failIfLive reason)) { c with reader := .closing }
  | close (hr : c.reader = .closing) : Reads status c status { c with reader := .clearing, closed := true }
  | clear (hr : c.reader = .clearing) :
      Reads status c status { c with reader := .ended, pending := [], fromWorker := c.fromWorker.closeReader }

/-- The one place where the definition of a step of the reader is taken apart. -/
theorem reads_of_stepReader {status : Watched Status} {c : Channel} {next : Watched Status × Channel}
    (h : c.stepReader status = some next) : Reads status c next.1 next.2 := by
  unfold stepReader at h
  cases hr : c.reader with
  | reading reader =>
    simp only [hr] at h
    split at h
    · rename_i hbytes
      have hne : c.fromWorker.bytes ≠ [] := by
        intro hnil
        simp [hnil] at hbytes
      split at h
      · rename_i hscan
        cases h
        exact .scan hr hne hscan
      · rename_i hscan
        cases h
        exact .result hr hne hscan
    · rename_i hbytes
      have hnil : c.fromWorker.bytes = [] := by simpa using hbytes
      split at h
      · rename_i hgone
        have hnone : c.fromWorker.hasWriter = false := by simpa using hgone
        split at h
        · rename_i hend
          cases h
          exact .line hr hend hnil hnone
        · rename_i hend
          cases h
          exact .last hr hend hnil hnone
      · cases h
  | dispatching reader message =>
    simp only [hr] at h
    split at h
    · rename_i hm
      cases h
      exact .response hr hm
    · rename_i hm
      cases h
      exact .request hr hm
    · rename_i hresponse _
      cases h
      exact .skip hr hresponse
  | replying reader reply queued =>
    simp only [hr] at h
    split at h
    · cases h
      exact .leave hr
    · cases queued with
      | true =>
        simp only [if_true] at h
        split at h
        · rename_i hgranted
          cases h
          exact .redeem hr hgranted
        · cases h
      | false =>
        simp only [Bool.false_eq_true, if_false] at h
        split at h
        · cases h
          exact .push hr
        · rename_i hroom
          cases h
          exact .wait hr (by simpa using hroom)
  | failing reason =>
    simp only [hr] at h
    cases h
    exact .fail hr
  | closing =>
    simp only [hr] at h
    cases h
    exact .close hr
  | clearing =>
    simp only [hr] at h
    cases h
    exact .clear hr
  | ended => simp [hr] at h
  | stopped => simp [hr] at h

/-- A response only touches slots and answers. -/
theorem resolve_frame (c : Channel) (id : Nat) (body : Value) :
    (c.resolve id body).callers = c.callers ∧ (c.resolve id body).closed = c.closed ∧
      (c.resolve id body).mailbox = c.mailbox ∧ (c.resolve id body).writer = c.writer ∧
      (c.resolve id body).toWorker = c.toWorker ∧ (c.resolve id body).fromWorker = c.fromWorker := by
  unfold resolve
  split <;> exact ⟨rfl, rfl, rfl, rfl, rfl, rfl⟩

/-! ### What a step does to the reader and to the state of the worker -/

theorem reader_of_stepCaller {now : Nat} {status : Status} {c c' : Channel} {key : Nat}
    (h : c.stepCaller now status key = some c') : c'.reader = c.reader ∧ c'.closed = c.closed := by
  obtain ⟨job, before, after, -, hadvance⟩ := advance_of_stepCaller h
  cases hadvance <;> exact ⟨rfl, rfl⟩

theorem reader_of_expire {now : Nat} {c c' : Channel} {key : Nat} (h : c.expire now key = some c') :
    c'.reader = c.reader ∧ c'.closed = c.closed := by
  unfold expire at h
  cases hc : c.callers[key]? with
  | none => simp [hc] at h
  | some caller =>
    simp only [hc, Option.bind_eq_bind, Option.bind_some] at h
    repeat' split at h
    all_goals cases h <;> exact ⟨rfl, rfl⟩

theorem reader_of_stepWriter {c c' : Channel} (h : c.stepWriter = some c') :
    c'.reader = c.reader ∧ c'.closed = c.closed := by
  unfold stepWriter at h
  repeat' split at h
  all_goals cases h <;> exact ⟨rfl, rfl⟩

/-- A reader that is over makes no step, and no step of anybody else concerns it. -/
theorem isOver_of_step {now : Nat} {status : Watched Status} {c : Channel} {label : Label}
    {next : Watched Status × Channel} (h : c.step now status label = some next) (ho : c.reader.isOver = true) :
    next.2.reader.isOver = true := by
  cases label with
  | caller key =>
    obtain ⟨after, hafter, rfl⟩ := Option.map_eq_some_iff.1 h
    rwa [(reader_of_stepCaller hafter).1]
  | expire key =>
    obtain ⟨after, hafter, rfl⟩ := Option.map_eq_some_iff.1 h
    rwa [(reader_of_expire hafter).1]
  | writer =>
    obtain ⟨after, hafter, rfl⟩ := Option.map_eq_some_iff.1 h
    rwa [(reader_of_stepWriter hafter).1]
  | reader =>
    simp only [step, stepReader] at h
    cases hr : c.reader with
    | ended => simp [hr] at h
    | stopped => simp [hr] at h
    | _ => simp [hr, ReaderTask.isOver] at ho

private theorem modify?_failIfLive (status : Watched Status) (reason : String) :
    status.modify? (failIfLive reason) =
      if status.value.isLive = true then status.set (.failed reason) else status := by
  by_cases hlive : status.value.isLive = true
  · rw [Watched.modify?, failIfLive, if_pos hlive, if_pos hlive]
  · rw [Watched.modify?, failIfLive, if_neg hlive, if_neg hlive]

/-- Only a reader whose stream has come to its end touches the state of the worker. -/
theorem status_of_step {now : Nat} {status : Watched Status} {c : Channel} {label : Label}
    {next : Watched Status × Channel} (h : c.step now status label = some next) :
    (next.1 = status ∧ ¬(label = .reader ∧ ∃ reason, c.reader = .failing reason)) ∨
      label = .reader ∧ ∃ reason, c.reader = .failing reason ∧
        next.1 = if status.value.isLive = true then status.set (.failed reason) else status := by
  cases label with
  | caller key =>
    obtain ⟨after, -, rfl⟩ := Option.map_eq_some_iff.1 h
    exact Or.inl ⟨rfl, fun hl => by cases hl.1⟩
  | expire key =>
    obtain ⟨after, -, rfl⟩ := Option.map_eq_some_iff.1 h
    exact Or.inl ⟨rfl, fun hl => by cases hl.1⟩
  | writer =>
    obtain ⟨after, -, rfl⟩ := Option.map_eq_some_iff.1 h
    exact Or.inl ⟨rfl, fun hl => by cases hl.1⟩
  | reader =>
    obtain ⟨status', c'⟩ := next
    have hreads : Reads status c status' c' := reads_of_stepReader h
    cases hreads with
    | fail hr => exact Or.inr ⟨rfl, _, hr, modify?_failIfLive status _⟩
    | scan hr | result hr | line hr | last hr | response hr | request hr | skip hr | leave hr | redeem hr | push hr
    | wait hr | close hr | clear hr =>
      refine Or.inl ⟨rfl, ?_⟩
      rintro ⟨-, reason, hfailing⟩
      rw [hr] at hfailing
      cases hfailing

theorem act_reader (c : Channel) (a : Act) : (c.act a).reader = c.reader := by
  cases a with
  | writes bytes =>
    simp only [act]
    split <;> rfl
  | reads count => rfl
  | closesInput => rfl
  | closesOutput => rfl

/-- The reader of a channel whose tasks are stopped is over. -/
theorem abort_isOver (c : Channel) : c.abort.reader.isOver = true := by
  unfold abort
  simp only
  split
  · rename_i hr
    rw [hr]
    rfl
  · rename_i hr
    rw [hr]
    rfl
  · rfl

/-! ### What a move does to ids and slots -/

/-- The part of a channel that ids and slots are in. -/
structure Ledger where
  nextId : Nat
  pending : List Nat
  answers : List (Nat × Value)
  callers : List Caller

def ledger (c : Channel) : Ledger := ⟨c.nextId, c.pending, c.answers, c.callers⟩

/-- A caller stands somewhere else. -/
def Ledger.moved (l : Ledger) (key : Nat) (stage : Stage) : Ledger :=
  { l with callers := l.callers.modify key fun caller => { caller with stage } }

theorem Ledger.moved_self {l : Ledger} {key : Nat} {job : Job} {before : Stage}
    (hc : l.callers[key]? = some ⟨job, before⟩) (after : Stage) :
    (l.moved key after).callers[key]? = some ⟨job, after⟩ := by
  rw [moved, List.getElem?_modify_eq, hc]
  rfl

theorem Ledger.moved_ne (l : Ledger) {key other : Nat} (hne : other ≠ key) (after : Stage) :
    (l.moved key after).callers[other]? = l.callers[other]? := by
  rw [moved, List.getElem?_modify_ne _ _ hne.symm]

@[simp] theorem Ledger.moved_length (l : Ledger) (key : Nat) (after : Stage) :
    (l.moved key after).callers.length = l.callers.length := by
  rw [moved, List.length_modify]

/-- The steps of a caller that leave ids and slots alone. -/
inductive Hop (job : Job) : Stage → Stage → Prop where
  | refuse {fault : RequestFault} (hf : fault = .notConnected ∨ fault = .encode) :
      Hop job .gate (.done (.error fault))
  | ask (h : job.isAsk = true) : Hop job .gate .identify
  | tell (h : job.isAsk = false) : Hop job .gate (.submit none)
  | closed (id : Nat) : Hop job (.verify id) (.withdraw id .transportClosed)
  | verified (id : Nat) : Hop job (.verify id) (.submit (some id))
  | queue (id : Option Nat) : Hop job (.submit id) (.queued id)
  | accepted (now : Nat) {before : Stage} {id : Option Nat} (h : before = .submit id ∨ before = .queued id) :
      Hop job before (accepted now job id)
  | refused {before : Stage} {id : Option Nat} (h : before = .submit id ∨ before = .queued id) :
      Hop job before (refused job id)
  | lost (id deadline : Nat) : Hop job (.waiting id deadline) (.withdraw id .transportClosed)
  | late (id deadline : Nat) (method : String) (limit : Duration) :
      Hop job (.waiting id deadline) (.withdraw id (.timeout method limit))
  | abandon {before : Stage} (h : before.isOver = false) : Hop job before .abandoned

/-- A move as ids and slots see it: whose move it is, which id is taken and which response fills a slot. -/
inductive Change (l : Ledger) : Option Nat → Option (Nat × Nat) → Option (Nat × Value) → Ledger → Prop where
  | quiet (who : Option Nat) : Change l who none none l
  | enter (job : Job) : Change l none none none { l with callers := l.callers ++ [{ job }] }
  | hop {key : Nat} {job : Job} {before after : Stage} (hc : l.callers[key]? = some ⟨job, before⟩)
      (hh : Hop job before after) : Change l (some key) none none (l.moved key after)
  | take {key : Nat} {job : Job} (hc : l.callers[key]? = some ⟨job, .identify⟩) :
      Change l (some key) (some (key, l.nextId)) none
        { l.moved key (.register l.nextId) with nextId := (l.nextId + 1) % width64 }
  | insert {key : Nat} {job : Job} {id : Nat} (hc : l.callers[key]? = some ⟨job, .register id⟩) :
      Change l (some key) none none { l.moved key (.verify id) with pending := l.pending ++ [id] }
  | collect {key : Nat} {job : Job} {id deadline : Nat} {body : Value}
      (hc : l.callers[key]? = some ⟨job, .waiting id deadline⟩) (ha : l.answers.lookup id = some body) :
      Change l (some key) none none
        { l.moved key (.done (outcomeOf body)) with answers := l.answers.filter (·.1 != id) }
  | remove {key : Nat} {job : Job} {id : Nat} {fault : RequestFault}
      (hc : l.callers[key]? = some ⟨job, .withdraw id fault⟩) :
      Change l (some key) none none { l.moved key (.done (.error fault)) with pending := l.pending.erase id }
  | resolve {id : Nat} (body : Value) (hid : id ∈ l.pending) :
      Change l none none (some (id, body))
        { l with pending := l.pending.erase id, answers := l.answers ++ [(id, body)] }
  | clear : Change l none none none { l with pending := [] }

private theorem change_of_stepCaller {now : Nat} {status : Watched Status} {c c' : Channel} {key : Nat}
    (h : c.stepCaller now status.value key = some c') :
    Change c.ledger (some key) (Entry.took? ⟨c, .step now status (.caller key), c'⟩) none c'.ledger := by
  obtain ⟨job, before, after, hc, hadvance⟩ := advance_of_stepCaller h
  have hstage : c.stage? key = some before := by simp [stage?, hc]
  have hl : c.ledger.callers[key]? = some ⟨job, before⟩ := hc
  simp only [Entry.took?, hstage]
  cases hadvance with
  | refuse hf => exact .hop hl (.refuse hf)
  | ask hask => exact .hop hl (.ask hask)
  | tell hask => exact .hop hl (.tell hask)
  | identify => exact .take hl
  | register id => exact .insert hl
  | @closed id _ => exact .hop hl (.closed id)
  | @verified id _ => exact .hop hl (.verified id)
  | shut _ => exact .hop hl (.refused (Or.inl rfl))
  | send _ _ => exact .hop hl (.accepted now (Or.inl rfl))
  | @wait id _ _ => exact .hop hl (.queue id)
  | leave _ => exact .hop hl (.refused (Or.inr rfl))
  | redeem _ _ => exact .hop hl (.accepted now (Or.inr rfl))
  | collect ha => exact .collect hl ha
  | @lost id deadline _ _ => exact .hop hl (.lost id deadline)
  | remove => exact .remove hl

private theorem change_of_expire {now : Nat} {c c' : Channel} {key : Nat} (h : c.expire now key = some c') :
    Change c.ledger (some key) none none c'.ledger := by
  unfold expire at h
  cases hc : c.callers[key]? with
  | none => simp [hc] at h
  | some caller =>
    obtain ⟨job, stage⟩ := caller
    simp only [hc, Option.bind_eq_bind, Option.bind_some] at h
    split at h
    · split at h
      · cases h
        exact .hop hc (.late _ _ _ _)
      · cases h
    · cases h

private theorem change_of_abandon (c : Channel) (key : Nat) :
    Change c.ledger (some key) none none (c.abandon key).ledger := by
  unfold abandon
  cases hstage : c.stage? key with
  | none => exact .quiet (some key)
  | some stage =>
    obtain ⟨⟨job, _⟩, hc, rfl⟩ := Option.map_eq_some_iff.1 hstage
    simp only
    split
    · exact .quiet (some key)
    · rename_i hover
      exact .hop hc (.abandon (by simpa using hover))

/-- The writer has nothing to do with ids, slots and callers. -/
theorem change_of_stepWriter {c c' : Channel} (h : c.stepWriter = some c') : c'.ledger = c.ledger := by
  unfold stepWriter at h
  split at h
  · split at h
    · cases h
      rfl
    · cases h
      rfl
    · cases h
  · cases h
    rfl
  · split at h
    · cases h
      rfl
    · split at h
      · cases h
      · cases h
        rfl
  · cases h

/-- The body of a response is the whole message. -/
theorem body_eq_of_response {message body : Value} {id : Nat}
    (h : Incoming.ofValue? message = some (.response id body)) :
    body = message := by
  unfold Incoming.ofValue? at h
  simp only at h
  split at h
  · split at h
    · obtain ⟨n, -, hn⟩ := Option.map_eq_some_iff.1 h
      cases hn
      rfl
    · cases h
  · cases h
  · cases h
  · cases h

private theorem change_of_stepReader (now : Nat) {status : Watched Status} {c : Channel}
    {next : Watched Status × Channel}
    (h : c.stepReader status = some next) :
    Change c.ledger none none (Entry.resolved? ⟨c, .step now status .reader, next.2⟩) next.2.ledger := by
  obtain ⟨status', c'⟩ := next
  have hreads : Reads status c status' c' := reads_of_stepReader h
  cases hreads with
  | @response reader message body id hr hm =>
    -- the one stage at which a reader looks at slots
    obtain rfl := body_eq_of_response hm
    simp only [Entry.resolved?, hr, hm]
    -- only a response that finds a slot is kept
    by_cases hid : c.pending.contains id = true
    · rw [if_pos hid]
      have hl : (c.resolve id body).ledger =
          { c.ledger with pending := c.pending.erase id, answers := c.answers ++ [(id, body)] } := by
        rw [resolve, if_pos hid]
        rfl
      have hmem : id ∈ c.ledger.pending := List.contains_iff_mem.1 hid
      exact hl ▸ Change.resolve body hmem
    · rw [if_neg hid, resolve, if_neg hid]
      exact .quiet none
  | request hr hm =>
    simp only [Entry.resolved?, hr, hm]
    exact .quiet none
  | skip hr hm =>
    simp only [Entry.resolved?, hr]
    exact .quiet none
  | clear hr =>
    simp only [Entry.resolved?, hr]
    exact .clear
  | scan hr | result hr | line hr | last hr | leave hr | redeem hr | push hr | wait hr | fail hr | close hr =>
    simp only [Entry.resolved?, hr]
    exact .quiet none

theorem abort_ledger (c : Channel) : c.abort.ledger = c.ledger := by
  unfold abort
  simp only
  split <;> split <;> rfl

theorem act_ledger (c : Channel) (a : Act) : (c.act a).ledger = c.ledger := by
  cases a with
  | writes bytes =>
    simp only [act]
    split <;> rfl
  | reads count => rfl
  | closesInput => rfl
  | closesOutput => rfl

/-- Seen from ids and slots, a move is one of few changes. -/
theorem change_of_make {c c' : Channel} {m : Move} (h : c.make? m = some c') :
    Change c.ledger m.caller? (Entry.took? ⟨c, m, c'⟩) (Entry.resolved? ⟨c, m, c'⟩) c'.ledger := by
  cases m with
  | enter job =>
    cases h
    exact .enter job
  | abandon key =>
    cases h
    exact change_of_abandon c key
  | act a =>
    cases h
    rw [act_ledger]
    exact .quiet none
  | abort =>
    cases h
    rw [abort_ledger]
    exact .quiet none
  | step now status label =>
    obtain ⟨next, hstep, rfl⟩ := Option.map_eq_some_iff.1 h
    cases label with
    | caller key =>
      obtain ⟨after, hafter, rfl⟩ := Option.map_eq_some_iff.1 hstep
      exact change_of_stepCaller hafter
    | expire key =>
      obtain ⟨after, hafter, rfl⟩ := Option.map_eq_some_iff.1 hstep
      exact change_of_expire hafter
    | writer =>
      obtain ⟨after, hafter, rfl⟩ := Option.map_eq_some_iff.1 hstep
      rw [change_of_stepWriter hafter]
      exact .quiet none
    | reader => exact change_of_stepReader now hstep

end Channel

end Attendant

import Attendant.Proofs.Channel.Hearing
import Attendant.Proofs.Channel.Letters

/-!
# What the reader makes of a message

A message from the worker can be any value. What it is for the reader depends on four of its fields, each of which may
be missing or hold anything: `Message.refusal?` and `Message.Fills` say so without a word about how the reader finds
out, and `stepReader_dispatching` is what it does then.

A reader that has a refusal in its hand owes it to the worker. Seen from there a move is one of four (`Owes`), and while
the mailbox is open, what has been posted and what is in the reader's hand are the refusals of all that it has taken up
(`Run.refused`). From this and from `Run.heard` comes `Run.refuses`: when nobody can go on, and there is room in the
mailbox, then each request in what the worker has said has been refused, once and in its turn, and nothing else has
been answered.
-/

namespace Attendant

open Attendant.Frame (Reader Result)

/-- The refusal that a reader has in its hand. -/
def ReaderTask.inHand : ReaderTask → List Command
  | .replying _ reply _ => [.send reply]
  | _ => []

namespace Message

/-- The refusal that a message gets which has an id, whatever it is, and a method that is a text. -/
def refusal? (message : Value) : Option Value :=
  match message.field? "id", message.field? "method" with
  | some id, some (.str method) => some (methodNotFound id method)
  | _, _ => none

/-- A message can fill the slot of a number: its id is that number, it has a result or an error, and it has no method
that is a text. -/
structure Fills (message : Value) (id : Nat) : Prop where
  id_eq : message.field? "id" = some (.int id)
  bound : id < width64
  answers : (message.field? "result").isSome = true ∨ (message.field? "error").isSome = true
  noMethod : ∀ method, message.field? "method" ≠ some (.str method)

/-- A refusal is given to what has an id and names a method, and to nothing else. -/
theorem refusal?_eq_some {message reply : Value} : refusal? message = some reply ↔
    ∃ id method, message.field? "id" = some id ∧ message.field? "method" = some (.str method) ∧
      reply = methodNotFound id method := by
  unfold refusal?
  constructor
  · intro h
    split at h
    · rename_i id method hid hmethod
      cases h
      exact ⟨id, method, hid, hmethod, rfl⟩
    · cases h
  · rintro ⟨id, method, hid, hmethod, rfl⟩
    simp only [hid, hmethod]

/-- A message refuses a request for a method: it carries the id of the request, and instead of a result an error, whose
text names the method. -/
structure IsRefusal (id : Value) (method : String) (reply : Value) : Prop where
  version : reply.field? "jsonrpc" = some (.str "2.0")
  id_eq : reply.field? "id" = some id
  error_eq : ∃ error, reply.field? "error" = some error ∧ error.field? "code" = some (.int (-32601)) ∧
    error.field? "message" = some (.str ("Method not found: " ++ method)) ∧ error.field? "data" = none
  noResult : reply.field? "result" = none
  noMethod : reply.field? "method" = none

/-- What the worker is told when it asks for something is a refusal. -/
theorem isRefusal_methodNotFound (id : Value) (method : String) : IsRefusal id method (methodNotFound id method) := by
  constructor <;> simp [methodNotFound, Value.ofFields, Value.field?, Value.lookup_putField]

end Message

namespace Incoming

open Message (Fills refusal?)

/-- A message is a request exactly if it has an id, whatever it is, and a method that is a text. -/
theorem ofValue?_eq_request {message id : Value} {method : String} :
    ofValue? message = some (.request id method) ↔
      message.field? "id" = some id ∧ message.field? "method" = some (.str method) := by
  have hstr {v : Value} : v.str? = some method ↔ v = .str method := by cases v <;> simp [Value.str?]
  unfold ofValue?
  simp only
  constructor
  · intro h
    split at h
    · split at h
      · obtain ⟨n, -, hn⟩ := Option.map_eq_some_iff.1 h
        cases hn
      · cases h
    · rename_i hid hmethod
      cases h
      obtain ⟨v, hv, htext⟩ := Option.bind_eq_some_iff.1 hmethod
      exact ⟨hid, by rw [hv, hstr.1 htext]⟩
    · cases h
    · cases h
  · rintro ⟨hid, hmethod⟩
    simp only [hid, hmethod, Option.bind_eq_bind, Option.bind_some, hstr.2 rfl]

/-- A message is the response to a number exactly if it can fill its slot. -/
theorem ofValue?_eq_response {message body : Value} {id : Nat} :
    ofValue? message = some (.response id body) ↔ Fills message id ∧ body = message := by
  have hnat {v : Value} : v.nat64? = some id ↔ v = .int id ∧ id < width64 := by
    cases v with
    | int n =>
      simp only [Value.nat64?, Option.ite_none_right_eq_some, Option.some.injEq, Bool.and_eq_true, decide_eq_true_eq,
        Value.int.injEq]
      omega
    | _ => simp [Value.nat64?]
  have hstr {v? : Option Value} : v? >>= Value.str? = none ↔ ∀ method, v? ≠ some (.str method) := by
    cases v? with
    | none => simp
    | some v => cases v <;> simp [Value.str?]
  unfold ofValue?
  simp only
  constructor
  · intro h
    split at h
    · rename_i v hid hmethod
      split at h
      · rename_i hanswers
        obtain ⟨n, hn, heq⟩ := Option.map_eq_some_iff.1 h
        cases heq
        obtain ⟨rfl, hbound⟩ := hnat.1 hn
        exact ⟨⟨hid, hbound, by simpa using hanswers, hstr.1 hmethod⟩, rfl⟩
      · cases h
    · cases h
    · cases h
    · cases h
  · rintro ⟨h, rfl⟩
    have hanswers : ((body.field? "result").isSome || (body.field? "error").isSome) = true := by
      simpa using h.answers
    simp only [h.id_eq, hstr.2 h.noMethod, hanswers, if_true, hnat.2 ⟨rfl, h.bound⟩, Option.map_some]

/-- The reader refuses what is to be refused. -/
theorem bind_reply? (message : Value) : (ofValue? message).bind reply? = refusal? message := by
  ext reply
  rw [Message.refusal?_eq_some, Option.bind_eq_some_iff]
  constructor
  · rintro ⟨incoming, hm, hreply⟩
    cases incoming with
    | request id method =>
      cases hreply
      obtain ⟨hid, hmethod⟩ := ofValue?_eq_request.1 hm
      exact ⟨id, method, hid, hmethod, rfl⟩
    | _ => cases hreply
  · rintro ⟨id, method, hid, hmethod, rfl⟩
    exact ⟨_, ofValue?_eq_request.2 ⟨hid, hmethod⟩, rfl⟩

end Incoming

namespace Channel

open Message (Fills refusal?)

variable {c c' : Channel} {r : Reader} {message : Value}

/-! ### One message -/

/-- What becomes of a channel by a message that its reader takes up. At most the slot goes that the message can fill.
The reader goes on reading, or it has the refusal in its hand. -/
structure TakesUp (r : Reader) (message : Value) (c c' : Channel) : Prop where
  filled : ∀ id, Fills message id → c'.pending = c.pending.erase id
  kept : (∀ id, ¬Fills message id) → c'.pending = c.pending
  refused : ∀ reply, refusal? message = some reply → c'.reader = .replying r reply false
  passed : refusal? message = none → c'.reader = .reading r
  mailbox : c'.mailbox = c.mailbox

private theorem fills_unique {id other : Nat} (h : Fills message id) (h' : Fills message other) : other = id := by
  have heq := h'.id_eq.symm.trans h.id_eq
  exact Int.ofNat.inj (Value.int.inj (Option.some.inj heq))

/-- Whatever a message is, the reader deals with it, and the state of the worker is not touched. -/
theorem stepReader_dispatching (hr : c.reader = .dispatching r message) (status : Watched Status) :
    ∃ c', c.stepReader status = some (status, c') ∧ TakesUp r message c c' := by
  have hrefusal := Incoming.bind_reply? message
  have hfills (hm : ∀ id body, Incoming.ofValue? message ≠ some (.response id body)) (id : Nat) : ¬Fills message id :=
    fun h => hm id message (Incoming.ofValue?_eq_response.2 ⟨h, rfl⟩)
  unfold stepReader
  simp only [hr]
  split
  · rename_i id body hm
    obtain ⟨hfill, rfl⟩ := Incoming.ofValue?_eq_response.1 hm
    have hnone : refusal? body = none := by rw [← hrefusal, hm]; rfl
    refine ⟨_, rfl, ⟨fun other hother => ?_, fun hno => absurd hfill (hno id), fun reply hreply => ?_, fun _ => rfl,
      (c.resolve_frame id body).2.2.1⟩⟩
    · obtain rfl := fills_unique hfill hother
      show (c.resolve other body).pending = c.pending.erase other
      by_cases hid : c.pending.contains other = true
      · rw [resolve, if_pos hid]
      · rw [resolve, if_neg hid, List.erase_of_not_mem fun hmem => hid (List.contains_iff_mem.2 hmem)]
    · rw [hnone] at hreply
      cases hreply
  · rename_i id method hm
    have hsome : refusal? message = some (Message.methodNotFound id method) := by rw [← hrefusal, hm]; rfl
    have hno := hfills fun other body he => by
      rw [hm] at he
      cases he
    refine ⟨_, rfl, ⟨fun other hother => absurd hother (hno other), fun _ => rfl, fun reply hreply => ?_,
      fun hpassed => ?_, rfl⟩⟩
    · rw [hsome] at hreply
      cases hreply
      rfl
    · rw [hsome] at hpassed
      cases hpassed
  · rename_i hresponse hrequest
    have hno := hfills hresponse
    have hnone : refusal? message = none := by
      rw [← hrefusal]
      cases hm : Incoming.ofValue? message with
      | none => rfl
      | some incoming =>
        cases incoming with
        | request id method => exact absurd hm (hrequest id method)
        | _ => rfl
    refine ⟨_, rfl, ⟨fun other hother => absurd hother (hno other), fun _ => rfl, fun reply hreply => ?_, fun _ => rfl,
      rfl⟩⟩
    rw [hnone] at hreply
    cases hreply

/-- The steps of a reader that has a refusal in its hand. -/
inductive Answers (r : Reader) (reply : Value) (c c' : Channel) : Prop where
  | leave (hshut : c.mailbox.isOpen = false) (hr : c'.reader = .reading r)
      (hm : c'.mailbox = c.mailbox.withdraw .reader)
  | post (hopen : c.mailbox.isOpen = true) (hr : c'.reader = .reading r)
      (hi : c'.mailbox.items = c.mailbox.items ++ [.send reply])
  | wait (hr : c'.reader = .replying r reply true) (hm : c'.mailbox = c.mailbox.wait .reader)

/-- A reader with a refusal in its hand touches neither the state nor a slot. -/
theorem stepReader_replying {reply : Value} {queued : Bool} (hr : c.reader = .replying r reply queued)
    {status : Watched Status} {next : Watched Status × Channel} (h : c.stepReader status = some next) :
    next.1 = status ∧ next.2.pending = c.pending ∧ Answers r reply c next.2 := by
  unfold stepReader at h
  simp only [hr] at h
  split at h
  · rename_i hshut
    cases h
    exact ⟨rfl, rfl, .leave (by simpa using hshut) rfl rfl⟩
  · rename_i hopen
    have hopen : c.mailbox.isOpen = true := by simpa using hopen
    split at h
    · split at h
      · cases h
        exact ⟨rfl, rfl, .post hopen rfl rfl⟩
      · cases h
    · split at h
      · cases h
        exact ⟨rfl, rfl, .post hopen rfl rfl⟩
      · cases h
        exact ⟨rfl, rfl, .wait rfl rfl⟩

theorem Answers.reader {reply : Value} (h : Answers r reply c c') :
    c'.reader = .reading r ∨ c'.reader = .replying r reply true := by
  cases h with
  | leave _ hr _ | post _ hr _ => exact Or.inl hr
  | wait hr _ => exact Or.inr hr

/-! ### What has been refused -/

/-- What the reader has posted by a move. -/
def Entry.replies (e : Entry) : List Command := (e.letters.filter (·.sender = .reader)).map Letter.command

/-- What the reader has posted, in the order in which the mailbox has accepted it. -/
def replies (es : List Entry) : List Command := ((letters es).filter (·.sender = .reader)).map Letter.command

/-- The refusals of all that the reader has taken up, in its order. -/
def refusals (es : List Entry) : List Command := ((dispatched es).filterMap refusal?).map .send

/-- What a move does with the refusals that the reader owes: which message it takes up, and what it posts. -/
inductive Owes (c c' : Channel) : Option Value → List Command → Prop where
  | same (hr : c'.reader.inHand = c.reader.inHand) : Owes c c' none []
  | take {r : Reader} {message : Value} (hr : c.reader = .dispatching r message) (ht : TakesUp r message c c') :
      Owes c c' (some message) []
  | post {reply : Command} (hopen : c.mailbox.isOpen = true) (hr : c.reader.inHand = [reply])
      (hr' : c'.reader.inHand = []) : Owes c c' none [reply]
  | drop (hshut : c'.mailbox.isOpen = false) : Owes c c' none []

section

variable {m : Move} {es : List Entry}

private theorem replies_cons (e : Entry) (es : List Entry) : replies (e :: es) = replies es ++ e.replies := by
  rw [replies, letters_cons, List.filter_append, List.map_append]
  rfl

private theorem refusals_cons (e : Entry) (es : List Entry) :
    refusals (e :: es) = refusals es ++ (e.dispatched?.toList.filterMap refusal?).map .send := by
  rw [refusals, dispatched_cons, List.filterMap_append, List.map_append]
  rfl

private theorem TakesUp.inHand (h : TakesUp r message c c') :
    c'.reader.inHand = ([message].filterMap refusal?).map .send := by
  cases hm : refusal? message with
  | none =>
    rw [h.passed hm, List.filterMap_cons_none hm]
    rfl
  | some reply =>
    rw [h.refused reply hm, List.filterMap_cons_some hm]
    rfl

private theorem replies_nil (h : c.make? m = some c')
    (hm : ∀ now status r reply queued, m = .step now status .reader → c.reader ≠ .replying r reply queued) :
    Entry.replies ⟨c, m, c'⟩ = [] := by
  have hmails := mails_of_make h
  unfold Entry.replies
  generalize Entry.letters ⟨c, m, c'⟩ = posted at hmails
  cases hmails with
  | silent => rfl
  | reply hstep hr => exact absurd hr (hm _ _ _ _ _ hstep)
  | caller _ _ _ _ _ => simp

private theorem dispatched?_none
    (hm : ∀ now status r message, m = .step now status .reader → c.reader ≠ .dispatching r message) :
    Entry.dispatched? ⟨c, m, c'⟩ = none := by
  unfold Entry.dispatched?
  split
  · rename_i hstep hr
    exact absurd hr (hm _ _ _ _ hstep)
  · rfl

private theorem reader_same (h : c.make? m = some c') (ha : m ≠ .abort)
    (hm : ∀ now status, m ≠ .step now status .reader) : c'.reader = c.reader := by
  cases m with
  | enter job =>
    cases h
    rfl
  | abandon key =>
    cases h
    unfold abandon
    repeat' split
    all_goals rfl
  | act a =>
    cases h
    exact act_reader c a
  | abort => exact absurd rfl ha
  | step now status label =>
    obtain ⟨next, hstep, rfl⟩ := Option.map_eq_some_iff.1 h
    cases label with
    | caller key =>
      obtain ⟨after, hafter, rfl⟩ := Option.map_eq_some_iff.1 hstep
      exact (reader_of_stepCaller hafter).1
    | expire key =>
      obtain ⟨after, hafter, rfl⟩ := Option.map_eq_some_iff.1 hstep
      exact (reader_of_expire hafter).1
    | writer =>
      obtain ⟨after, hafter, rfl⟩ := Option.map_eq_some_iff.1 hstep
      exact (reader_of_stepWriter hafter).1
    | reader => exact absurd rfl (hm now status)

private theorem inHand_of_stepReader {status : Watched Status} {next : Watched Status × Channel}
    (h : c.stepReader status = some next) (hd : ∀ r message, c.reader ≠ .dispatching r message)
    (hp : ∀ r reply queued, c.reader ≠ .replying r reply queued) :
    next.2.reader.inHand = [] ∧ c.reader.inHand = [] := by
  have hafter (r : Reader) (result : Result) : (afterResult r result).inHand = [] := by cases result <;> rfl
  obtain ⟨status', c'⟩ := next
  have hreads : Reads status c status' c' := reads_of_stepReader h
  cases hreads with
  | response hr _ | request hr _ | skip hr _ => exact absurd hr (hd _ _)
  | leave hr | redeem hr _ | push hr | wait hr _ => exact absurd hr (hp _ _ _)
  | result hr _ _ | last hr _ _ _ => exact ⟨hafter _ _, by rw [hr]; rfl⟩
  | scan hr _ _ | line hr _ _ _ | fail hr | close hr | clear hr => exact ⟨rfl, by rw [hr]; rfl⟩

private theorem owes_of_stepReader (now : Nat) {status : Watched Status} {next : Watched Status × Channel}
    (h : c.stepReader status = some next) :
    Owes c next.2 (Entry.dispatched? ⟨c, .step now status .reader, next.2⟩)
      (Entry.replies ⟨c, .step now status .reader, next.2⟩) := by
  have hmake : c.make? (.step now status .reader) = some next.2 := Option.map_eq_some_iff.2 ⟨next, h, rfl⟩
  by_cases hd : ∃ r message, c.reader = .dispatching r message
  · obtain ⟨r, message, hr⟩ := hd
    obtain ⟨c', hstep, ht⟩ := stepReader_dispatching hr status
    obtain rfl := Option.some.inj (hstep.symm.trans h)
    have hsilent : Entry.replies ⟨c, .step now status .reader, c'⟩ = [] := by
      refine replies_nil hmake fun _ _ _ _ _ _ hr' => ?_
      rw [hr] at hr'
      cases hr'
    rw [hsilent]
    simp only [Entry.dispatched?, hr]
    exact .take hr ht
  have hd (r : Reader) (message : Value) : c.reader ≠ .dispatching r message := fun hr => hd ⟨r, message, hr⟩
  rw [dispatched?_none fun _ _ r message _ => hd r message]
  by_cases hp : ∃ r reply queued, c.reader = .replying r reply queued
  · obtain ⟨r, reply, queued, hr⟩ := hp
    obtain ⟨-, -, hanswers⟩ := stepReader_replying hr h
    have hhand : c.reader.inHand = [.send reply] := by rw [hr]; rfl
    have hsilent (hi : next.2.mailbox.items = c.mailbox.items) :
        Entry.replies ⟨c, .step now status .reader, next.2⟩ = [] := by
      rw [Entry.replies, Entry.letters, Entry.posted_nil (Nat.le_of_eq (congrArg List.length hi))]
      rfl
    cases hanswers with
    | leave hshut _ hm =>
      rw [hsilent (by rw [hm]; exact Mailbox.items_promote _)]
      exact .drop (by rw [hm, Mailbox.isOpen_withdraw, hshut])
    | post hopen hr' hi =>
      have hposted : Entry.replies ⟨c, .step now status .reader, next.2⟩ = [.send reply] := by
        rw [Entry.replies, Entry.letters, Entry.posted_eq hi]
        rfl
      rw [hposted]
      exact .post hopen hhand (by rw [hr']; rfl)
    | wait hr' hm =>
      rw [hsilent (by rw [hm]; rfl)]
      exact .same (by rw [hr', hhand]; rfl)
  have hp (r : Reader) (reply : Value) (queued : Bool) : c.reader ≠ .replying r reply queued :=
    fun hr => hp ⟨r, reply, queued, hr⟩
  obtain ⟨hafter, hbefore⟩ := inHand_of_stepReader h hd hp
  rw [replies_nil hmake fun _ _ r reply queued _ => hp r reply queued]
  exact .same (hafter.trans hbefore.symm)

/-- Seen from the refusals that are owed, a move is one of four. -/
theorem owes_of_make (ho : Orderly c) (h : c.make? m = some c') :
    Owes c c' (Entry.dispatched? ⟨c, m, c'⟩) (Entry.replies ⟨c, m, c'⟩) := by
  by_cases hm : ∃ now status, m = .step now status .reader
  · obtain ⟨now, status, rfl⟩ := hm
    obtain ⟨next, hstep, rfl⟩ := Option.map_eq_some_iff.1 h
    exact owes_of_stepReader now hstep
  · have hm (now : Nat) (status : Watched Status) : m ≠ .step now status .reader := fun he => hm ⟨now, status, he⟩
    rw [dispatched?_none fun now status _ _ he => absurd he (hm now status),
      replies_nil h fun now status _ _ _ he => absurd he (hm now status)]
    by_cases ha : m = .abort
    · have hshut := (ho.make h).shut_iff
      subst ha
      cases h
      exact .drop (hshut.2 (abort_writer c))
    · exact .same (by rw [reader_same h ha hm])

/-- What is known about refusals: some of those that are due have been posted, in their order, and while the mailbox is
open, only what the reader has in its hand is still to be posted. -/
structure Refused (es : List Entry) (c : Channel) : Prop where
  begun : replies es <+: refusals es
  owed : c.mailbox.isOpen = true → replies es ++ c.reader.inHand = refusals es

private theorem isOpen_before (ho : Orderly c) (h : c.make? m = some c') (hopen : c'.mailbox.isOpen = true) :
    c.mailbox.isOpen = true := by
  by_contra hshut
  have hended := ho.shut_iff.1 (Bool.not_eq_true _ ▸ hshut)
  have hshut' := (ho.make h).shut_iff.2 (writer_ended_of_make h hended)
  rw [hopen] at hshut'
  cases hshut'

private theorem Refused.make (h : Refused es c) (ho : Orderly c) (hmake : c.make? m = some c') :
    Refused (⟨c, m, c'⟩ :: es) c' := by
  have howes := owes_of_make ho hmake
  have hbefore := isOpen_before ho hmake
  constructor
  all_goals
    rw [replies_cons, refusals_cons]
    generalize Entry.dispatched? ⟨c, m, c'⟩ = message? at howes
    generalize Entry.replies ⟨c, m, c'⟩ = posted at howes
  case begun =>
    cases howes with
    | same _ | drop _ => simpa using h.begun
    | take _ _ => simpa using h.begun.trans (List.prefix_append _ _)
    | @post reply hopen hr _ =>
      have hall := h.owed hopen
      rw [hr] at hall
      simp [hall]
  case owed =>
    intro hopen
    have hall := h.owed (hbefore hopen)
    cases howes with
    | same hr => simpa [hr] using hall
    | take hr ht =>
      rw [hr] at hall
      rw [ht.inHand, List.append_nil, ← hall]
      simp [ReaderTask.inHand]
    | post _ hr hr' =>
      rw [hr] at hall
      simp [hr', hall]
    | drop hshut =>
      rw [hopen] at hshut
      cases hshut

/-- Along every run. -/
theorem Run.refused (h : Run es c) : Refused es c := by
  induction h with
  | fresh => exact ⟨List.prefix_rfl, fun _ => rfl⟩
  | move m hrun hmake ih => exact ih.make hrun.orderly hmake

/-- Both tasks are stopped together. -/
private theorem Run.going (h : Run es c) (hopen : c.mailbox.isOpen = true) : c.reader ≠ .stopped := by
  induction h with
  | fresh => nofun
  | @move es c c' m hrun hmake ih =>
    by_cases ha : m = .abort
    · have hshut := (hrun.orderly.make hmake).shut_iff
      subst ha
      cases hmake
      rw [hshut.2 (abort_writer c)] at hopen
      cases hopen
    by_cases hm : ∃ now status, m = .step now status .reader
    · obtain ⟨now, status, rfl⟩ := hm
      obtain ⟨⟨status', c'⟩, hstep, rfl⟩ := Option.map_eq_some_iff.1 hmake
      have hreads : Reads status c status' c' := reads_of_stepReader hstep
      cases hreads with
      | @result _ _ result _ _ _ _ | @last _ _ result _ _ _ _ => cases result <;> nofun
      | _ => nofun
    · rw [reader_same hmake ha fun now status he => hm ⟨now, status, he⟩]
      exact ih (isOpen_before hrun.orderly hmake hopen)

/-- A reader that waits for room when nobody can go on waits before a full mailbox. -/
private theorem AtRest.reader_of_hasRoom {now : Nat} (h : AtRest now c) (hrun : Run es c)
    (hopen : c.mailbox.isOpen = true) (hroom : c.mailbox.hasRoom = true) :
    (∃ r, c.reader = .reading r ∧ c.fromWorker.bytes = [] ∧ c.fromWorker.hasWriter = true) ∨ c.reader = .ended := by
  rcases h.reader with hreading | ⟨r, reply, hr, -⟩ | hover
  · exact Or.inl hreading
  · have hfull := (h.jammed_of_seated hrun.orderly hopen (s := .reader) ⟨r, reply, hr⟩).full
    simp only [Mailbox.hasRoom, Bool.and_eq_true, decide_eq_true_eq] at hroom
    omega
  · have hgoing := hrun.going hopen
    cases hr : c.reader with
    | ended => exact Or.inr rfl
    | stopped => exact absurd hr hgoing
    | _ =>
      rw [hr] at hover
      cases hover

/-- Along every run: the reader posts nothing but the refusals of what it has taken up, each once and in their order,
and while the mailbox is open at most the one in its hand is still missing. A message is refused exactly if it has an id,
whatever it is, and a method that is a text; the refusal carries that id, and in place of a result an error that names
the method. No message stops the reader, touches the state of the worker, or any slot but the one that it can fill; and
neither does its refusal. So when nobody can go on, and the mailbox is open and has room, then the reader waits for more,
or has come to the end of its stream, and it has refused every request in what the worker has said, up to the first that
is no message. -/
theorem Run.refuses (h : Run es c) :
    (replies es <+: refusals es ∧ (c.mailbox.isOpen = true → replies es ++ c.reader.inHand = refusals es)) ∧
    (∀ message reply, refusal? message = some reply ↔
      ∃ id method, message.field? "id" = some id ∧ message.field? "method" = some (.str method) ∧
        reply = Message.methodNotFound id method ∧ Message.IsRefusal id method reply) ∧
    (∀ status r message, c.reader = .dispatching r message →
      ∃ c', c.stepReader status = some (status, c') ∧ TakesUp r message c c') ∧
    (∀ status r reply queued next, c.reader = .replying r reply queued → c.stepReader status = some next →
      next.1 = status ∧ next.2.pending = c.pending ∧
        (next.2.reader = .reading r ∨ next.2.reader = .replying r reply true)) ∧
    (∀ now, AtRest now c → (∀ e ∈ es, e.Honest) → c.mailbox.isOpen = true → c.mailbox.hasRoom = true →
      ((∃ r, c.reader = .reading r ∧ c.fromWorker.bytes = [] ∧ c.fromWorker.hasWriter = true) ∨ c.reader = .ended) ∧
        replies es = ((Result.messages (Reader.start.feed (said es)).2).filterMap refusal?).map .send) := by
  have hrefused := h.refused
  refine ⟨⟨hrefused.begun, hrefused.owed⟩, fun message reply => ?_, fun status r message hr =>
    stepReader_dispatching hr status, fun status r reply queued next hr hstep => ?_,
    fun now hrest hhonest hopen hroom => ?_⟩
  · rw [Message.refusal?_eq_some]
    constructor
    · rintro ⟨id, method, hid, hmethod, rfl⟩
      exact ⟨id, method, hid, hmethod, rfl, Message.isRefusal_methodNotFound id method⟩
    · rintro ⟨id, method, hid, hmethod, rfl, -⟩
      exact ⟨id, method, hid, hmethod, rfl⟩
  · obtain ⟨hstatus, hpending, hanswers⟩ := stepReader_replying hr hstep
    exact ⟨hstatus, hpending, hanswers.reader⟩
  · have hreader := hrest.reader_of_hasRoom h hopen hroom
    have hall := (h.heard hhonest).dispatched_eq (hreader.imp_left fun ⟨r, hr, hbytes, _⟩ => ⟨r, hr, hbytes⟩)
    have howed := hrefused.owed hopen
    have hhand : c.reader.inHand = [] := by
      rcases hreader with ⟨r, hr, -⟩ | hr <;> rw [hr] <;> rfl
    rw [hhand, List.append_nil, refusals, hall] at howed
    exact ⟨hreader, howed⟩

/-- The frame of a request of the worker whose id is null. -/
def nullFrame : List UInt8 :=
  [0x43, 0x6F, 0x6E, 0x74, 0x65, 0x6E, 0x74, 0x2D, 0x4C, 0x65, 0x6E, 0x67, 0x74, 0x68, 0x3A, 0x20, 0x32, 0x34, 0x0D,
    0x0A, 0x0D, 0x0A, 0x7B, 0x22, 0x69, 0x64, 0x22, 0x3A, 0x6E, 0x75, 0x6C, 0x6C, 0x2C, 0x22, 0x6D, 0x65, 0x74, 0x68,
    0x6F, 0x64, 0x22, 0x3A, 0x22, 0x6D, 0x22, 0x7D]

/-- The request is refused, and the response after it reaches its caller. -/
theorem refuses_null : ∃ es c, Run es c ∧ AtRest 0 c ∧ c.outcome? 0 = some (.ok (.int 7)) ∧
    said es = nullFrame ++ sevenFrame ∧ replies es = [.send (Message.methodNotFound .null "m")] := by
  have entered := Run.fresh.move (.enter (.ask false "m" .absent ⟨1⟩)) rfl
  have identified := (entered.move (.step 0 ⟨.running, 0⟩ (.caller 0)) rfl).move
    (.step 0 ⟨.running, 0⟩ (.caller 0)) rfl
  have verified := (identified.move (.step 0 ⟨.running, 0⟩ (.caller 0)) rfl).move
    (.step 0 ⟨.running, 0⟩ (.caller 0)) rfl
  have waiting := verified.move (.step 0 ⟨.running, 0⟩ (.caller 0)) rfl
  have writing := (waiting.move (.step 0 ⟨.running, 0⟩ .writer) rfl).move (.step 0 ⟨.running, 0⟩ .writer) rfl
  have written := (writing.move (.step 0 ⟨.running, 0⟩ .writer) rfl).move (.act (.writes (nullFrame ++ sevenFrame))) rfl
  have request := (written.move (.step 0 ⟨.running, 0⟩ .reader) rfl).move (.step 0 ⟨.running, 0⟩ .reader) rfl
  have response := ((request.move (.step 0 ⟨.running, 0⟩ .reader) rfl).move (.step 0 ⟨.running, 0⟩ .reader) rfl).move
    (.step 0 ⟨.running, 0⟩ .reader) rfl
  have collected := response.move (.step 0 ⟨.running, 0⟩ (.caller 0)) rfl
  obtain ⟨es, c, done, htale, hcallers, hw, hm, hreader, hroom, hr, hf⟩ : ∃ es c done,
      Tale es c (nullFrame ++ sevenFrame) done ∧
      c.callers = [⟨.ask false "m" .absent ⟨1⟩, .done (.ok (.int 7))⟩] ∧ c.writer = .idle ∧
      c.mailbox = { capacity := 64, items := [.send (Message.methodNotFound .null "m")] } ∧
      c.toWorker.hasReader = true ∧ (Frame.encode (Message.methodNotFound .null "m")).length ≤ c.toWorker.room ∧
      c.reader = .reading .start ∧ c.fromWorker = .empty Pipe.usual :=
    ⟨_, _, _, ⟨collected, by simp [Entry.Honest]; rfl, by decide +kernel, rfl⟩, rfl, rfl, rfl, rfl, by decide +kernel,
      rfl, rfl⟩
  -- the refusal is written, and then nobody can go on
  have ht : c.mailbox.take? = some (.send (Message.methodNotFound .null "m"), { capacity := 64 }) := by rw [hm]; rfl
  have hrest (toWorker : Pipe) : AtRest 0 { c with mailbox := { capacity := 64 }, toWorker } :=
    atRest_of_over (by simp [hcallers, Stage.isOver]) (by simp [stepWriter, hw, Mailbox.take?])
      (by simp [stepReader, hr, hf, Pipe.empty])
  have hwritten : Relation.ReflTransGen (Stir 0 .running) c _ := stirs_write hw ht hreader hroom
  obtain ⟨es', sent⟩ := htale.stirs hwritten
  obtain ⟨-, -, -, -, hall⟩ := sent.run.refuses
  obtain ⟨-, hreplies⟩ := hall 0 (hrest _) sent.honest rfl rfl
  refine ⟨es', _, sent.run, hrest _, by simp [outcome?, stage?, hcallers], sent.said, ?_⟩
  rw [hreplies, sent.said]
  decide +kernel

end

end Channel

end Attendant

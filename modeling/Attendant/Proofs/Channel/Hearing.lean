import Attendant.Proofs.Channel.Stuffing
import Attendant.Proofs.Frame.Stream

/-!
# What the reader hears

The reader takes what the worker says apart, frame by frame, and takes the messages up one after the other. A request of
the worker is refused by a message of its own, which goes through the mailbox; so the reader can come to stand there,
with frames unread behind it (`exists_unheard`). This is the only place: when nobody can go on, and the reader has not
been stopped, then it has taken up everything that the worker has said, or it waits for room in the mailbox of a jammed
channel (`Run.heard_out`).
-/

namespace Attendant

open Attendant.Frame (Reader Result)

/-- The messages among the results of a reader, up to the first that is none. -/
def Frame.Result.messages : List Result → List Value
  | .frame message :: rest => message :: messages rest
  | _ => []

/-- Results that begin with frames begin with the messages of these. -/
theorem Frame.Result.messages_frames (ms : List Value) (tail : List Result) :
    Result.messages (ms.map .frame ++ tail) = ms ++ Result.messages tail := by
  induction ms with
  | nil => rfl
  | cons m ms ih =>
    rw [List.map_cons, List.cons_append, messages, ih]
    rfl

namespace Channel

/-! ### What has been said and taken up -/

/-- The bytes that the worker has put into the pipe from it. -/
def Entry.said (e : Entry) : List UInt8 := e.after.fromWorker.bytes.drop e.before.fromWorker.bytes.length

/-- The message that the reader has taken up. -/
def Entry.dispatched? (e : Entry) : Option Value :=
  match e.move, e.before.reader with
  | .step _ _ .reader, .dispatching _ message => some message
  | _, _ => none

/-- Nobody writes into a pipe after closing his end of it. -/
def Entry.Honest (e : Entry) : Prop :=
  ∀ bytes, e.move = .act (.writes bytes) → e.before.fromWorker.hasWriter = true

private theorem Entry.honest_step {c c' : Channel} {now : Nat} {status : Watched Status} {label : Label} :
    Entry.Honest ⟨c, .step now status label, c'⟩ := nofun

/-- All bytes that the worker has written. -/
def said (es : List Entry) : List UInt8 := es.reverse.flatMap Entry.said

/-- The messages that the reader has taken up, in their order. -/
def dispatched (es : List Entry) : List Value := es.reverse.filterMap Entry.dispatched?

@[simp] theorem said_cons (e : Entry) (es : List Entry) : said (e :: es) = said es ++ e.said := by
  simp [said]

@[simp] theorem dispatched_cons (e : Entry) (es : List Entry) :
    dispatched (e :: es) = dispatched es ++ e.dispatched?.toList := by
  cases h : e.dispatched? <;> simp [dispatched, h]

private theorem Entry.said_nil {e : Entry} (h : e.after.fromWorker.bytes.length ≤ e.before.fromWorker.bytes.length) :
    e.said = [] :=
  List.drop_eq_nil_of_le h

private theorem Entry.said_of_same {e : Entry} (h : e.after.fromWorker.bytes = e.before.fromWorker.bytes) :
    e.said = [] :=
  Entry.said_nil (by rw [h])

/-! ### How far the reader has come -/

/-- The reader has read all but some bytes of what has been said. The messages in it have been taken up. -/
def Partly (all left : List UInt8) (r : Reader) (done : List Value) : Prop :=
  ∃ read, all = read ++ left ∧ Reader.start.feed read = (r, done.map .frame)

/-- What has been said and what has been taken up, by where the reader stands. A reader that has found the end of its
stream, or a fault, takes nothing up any more. -/
def Heard (all : List UInt8) (done : List Value) (p : Pipe) : ReaderTask → Prop
  | .reading r =>
    Partly all p.bytes r done ∨ p.bytes = [] ∧ p.hasWriter = false ∧ (Reader.start.feed all).2 = done.map .frame
  | .dispatching r message => Partly all p.bytes r (done ++ [message])
  | .replying r _ _ => Partly all p.bytes r done
  | .failing _ | .closing | .clearing | .ended =>
    p.hasWriter = false ∧ (Reader.start.feed all).2 = done.map .frame ∨
      ∃ result rest, (∀ message, result ≠ .frame message) ∧
        (Reader.start.feed all).2 = done.map .frame ++ result :: rest
  | .stopped => True

section

variable {all : List UInt8} {done : List Value} {p : Pipe} {task : ReaderTask}

private theorem Partly.more {left : List UInt8} {r : Reader} (h : Partly all left r done) (bytes : List UInt8) :
    Partly (all ++ bytes) (left ++ bytes) r done := by
  obtain ⟨read, rfl, hfeed⟩ := h
  exact ⟨read, List.append_assoc _ _ _, hfeed⟩

private theorem Partly.read {used left : List UInt8} {r r' : Reader} (results : List Value)
    (h : Partly all (used ++ left) r done) (hfeed : r.feed used = (r', results.map .frame)) :
    Partly all left r' (done ++ results) := by
  obtain ⟨read, rfl, hread⟩ := h
  refine ⟨read ++ used, by rw [List.append_assoc], ?_⟩
  rw [Reader.feed_append, hread, hfeed, List.map_append]

private theorem Partly.fails {used left : List UInt8} {r r' : Reader} {result : Result}
    (h : Partly all (used ++ left) r done) (hfeed : r.feed used = (r', [result]))
    (hresult : ∀ message, result ≠ .frame message) :
    ∃ result rest, (∀ message, result ≠ .frame message) ∧
      (Reader.start.feed all).2 = done.map .frame ++ result :: rest := by
  obtain ⟨read, rfl, hread⟩ := h
  refine ⟨result, (r'.feed left).2, hresult, ?_⟩
  rw [Reader.feed_append, hread, Reader.feed_append, hfeed]
  rfl

/-- When nothing is left, the reader has read all. -/
private theorem Heard.feed_eq {r : Reader} (h : Heard all done p (.reading r)) (hbytes : p.bytes = []) :
    (Reader.start.feed all).2 = done.map .frame := by
  rcases h with ⟨read, hall, hfeed⟩ | ⟨-, -, hfeed⟩
  · rw [hall, hbytes, List.append_nil, hfeed]
  · exact hfeed

private theorem Heard.more (h : Heard all done p task) (hwriter : p.hasWriter = true) (bytes : List UInt8) :
    Heard (all ++ bytes) done { p with bytes := p.bytes ++ bytes } task := by
  have hgone : p.hasWriter ≠ false := by
    rw [hwriter]
    nofun
  cases task with
  | reading r => exact Or.inl ((h.resolve_right fun hend => hgone hend.2.1).more bytes)
  | dispatching r message => exact Partly.more h bytes
  | replying r reply queued => exact Partly.more h bytes
  | stopped => trivial
  | failing _ | closing | clearing | ended =>
    obtain ⟨result, rest, hresult, hfeed⟩ := h.resolve_left fun hend => hgone hend.1
    refine Or.inr ⟨result, rest ++ ((Reader.start.feed all).1.feed bytes).2, hresult, ?_⟩
    rw [Reader.feed_append, hfeed, List.append_assoc]
    rfl

private theorem Heard.closeWriter (h : Heard all done p task) : Heard all done p.closeWriter task := by
  cases task with
  | reading r => exact h.imp_right fun hend => ⟨hend.1, rfl, hend.2.2⟩
  | dispatching r message => exact h
  | replying r reply queued => exact h
  | stopped => trivial
  | failing _ | closing | clearing | ended => exact h.imp_left fun hend => ⟨rfl, hend.2⟩

end

section

variable {es : List Entry} {c c' : Channel} {m : Move}

/-- Nothing is said by a move, and perhaps a message is taken up. -/
private theorem Heard.cons {message? : Option Value} (hsaid : Entry.said ⟨c, m, c'⟩ = [])
    (hd : Entry.dispatched? ⟨c, m, c'⟩ = message?)
    (h : Heard (said es) (dispatched es ++ message?.toList) c'.fromWorker c'.reader) :
    Heard (said (⟨c, m, c'⟩ :: es)) (dispatched (⟨c, m, c'⟩ :: es)) c'.fromWorker c'.reader := by
  rwa [said_cons, dispatched_cons, hsaid, hd, List.append_nil]

private theorem Heard.quiet (hsaid : Entry.said ⟨c, m, c'⟩ = []) (hd : Entry.dispatched? ⟨c, m, c'⟩ = none)
    (h : Heard (said es) (dispatched es) c'.fromWorker c'.reader) :
    Heard (said (⟨c, m, c'⟩ :: es)) (dispatched (⟨c, m, c'⟩ :: es)) c'.fromWorker c'.reader :=
  .cons hsaid hd (by rwa [Option.toList_none, List.append_nil])

private theorem Heard.same (h : Heard (said es) (dispatched es) c.fromWorker c.reader) (hr : c'.reader = c.reader)
    (hf : c'.fromWorker = c.fromWorker) (hd : Entry.dispatched? ⟨c, m, c'⟩ = none) :
    Heard (said (⟨c, m, c'⟩ :: es)) (dispatched (⟨c, m, c'⟩ :: es)) c'.fromWorker c'.reader := by
  refine .quiet (Entry.said_of_same (congrArg Pipe.bytes hf)) hd ?_
  rw [hr, hf]
  exact h

private theorem heard_of_act (h : Heard (said es) (dispatched es) c.fromWorker c.reader) (a : Act)
    (hhonest : Entry.Honest ⟨c, .act a, c.act a⟩) :
    Heard (said (⟨c, .act a, c.act a⟩ :: es)) (dispatched (⟨c, .act a, c.act a⟩ :: es)) (c.act a).fromWorker
      (c.act a).reader := by
  cases a with
  | reads count => exact h.same rfl rfl rfl
  | closesInput => exact h.same rfl rfl rfl
  | closesOutput => exact .quiet (Entry.said_of_same rfl) rfl h.closeWriter
  | writes bytes =>
    by_cases hreader : c.fromWorker.hasReader = true
    · have hact : c.act (.writes bytes) = { c with fromWorker := (c.fromWorker.write bytes).1 } := if_pos hreader
      have hsaid : Entry.said ⟨c, .act (.writes bytes), c.act (.writes bytes)⟩ = bytes.take c.fromWorker.room := by
        rw [Entry.said, hact]
        exact List.drop_left
      have hquiet : Entry.dispatched? ⟨c, .act (.writes bytes), c.act (.writes bytes)⟩ = none := rfl
      rw [said_cons, hsaid, dispatched_cons, hquiet, Option.toList_none, List.append_nil, hact]
      exact h.more (hhonest bytes rfl) _
    · have hact : c.act (.writes bytes) = c := if_neg hreader
      refine h.same ?_ ?_ rfl
      · rw [hact]
      · rw [hact]

private theorem heard_of_stepReader (now : Nat) {status : Watched Status} {next : Watched Status × Channel}
    (h : Heard (said es) (dispatched es) c.fromWorker c.reader) (hstep : c.stepReader status = some next) :
    Heard (said (⟨c, .step now status .reader, next.2⟩ :: es))
      (dispatched (⟨c, .step now status .reader, next.2⟩ :: es)) next.2.fromWorker next.2.reader := by
  obtain ⟨status', c'⟩ := next
  have hreads : Reads status c status' c' := reads_of_stepReader hstep
  have hnone (hr : ∀ r message, c.reader ≠ .dispatching r message) :
      Entry.dispatched? ⟨c, .step now status .reader, c'⟩ = none := by
    unfold Entry.dispatched?
    split
    · rename_i hr'
      exact absurd hr' (hr _ _)
    · rfl
  have hsome {r : Reader} {message : Value} (hr : c.reader = .dispatching r message) :
      Entry.dispatched? ⟨c, .step now status .reader, c'⟩ = some message := by
    simp only [Entry.dispatched?, hr]
  cases hreads with
  | @scan reader r bytes hr hbytes hscan =>
    obtain ⟨rfl, hfeed⟩ := Reader.feed_of_scan_none hscan
    rw [hr] at h
    have hread := h.resolve_right fun hend => hbytes hend.1
    rw [← List.append_nil c.fromWorker.bytes] at hread
    have hall := hread.read [] hfeed
    rw [List.append_nil] at hall
    exact .quiet (Entry.said_nil (Nat.zero_le _)) (hnone (by rw [hr]; nofun)) (Or.inl hall)
  | @result reader r result bytes hr hbytes hscan =>
    obtain ⟨used, hused, hfeed⟩ := Reader.feed_of_scan_some hscan
    rw [hr] at h
    have hread := h.resolve_right fun hend => hbytes hend.1
    rw [hused] at hread
    refine .quiet (Entry.said_nil ?_) (hnone (by rw [hr]; nofun)) ?_
    · show bytes.length ≤ c.fromWorker.bytes.length
      rw [hused, List.length_append]
      exact Nat.le_add_left _ _
    · cases result with
      | frame message => exact hread.read [message] hfeed
      | finished => exact Or.inr (hread.fails hfeed nofun)
      | fault fault => exact Or.inr (hread.fails hfeed nofun)
  | line hr _ hbytes hgone =>
    rw [hr] at h
    exact .quiet (Entry.said_of_same rfl) (hnone (by rw [hr]; nofun)) (Or.inr ⟨hbytes, hgone, h.feed_eq hbytes⟩)
  | @last reader r result hr hend hbytes hgone =>
    rw [hr] at h
    refine .quiet (Entry.said_of_same rfl) (hnone (by rw [hr]; nofun)) ?_
    -- what has begun is given up, so it is no message
    cases result with
    | frame message => exact absurd rfl (Reader.ended_ne_frame hend message)
    | finished => exact Or.inl ⟨hgone, h.feed_eq hbytes⟩
    | fault fault => exact Or.inl ⟨hgone, h.feed_eq hbytes⟩
  | @response reader message body id hr hm =>
    have hf : (c.resolve id body).fromWorker = c.fromWorker := (c.resolve_frame id body).2.2.2.2.2
    rw [hr] at h
    refine .cons (Entry.said_of_same (congrArg Pipe.bytes hf)) (hsome hr) (Or.inl ?_)
    show Partly (said es) (c.resolve id body).fromWorker.bytes reader (dispatched es ++ [message])
    rw [hf]
    exact h
  | request hr _ =>
    rw [hr] at h
    exact .cons (Entry.said_of_same rfl) (hsome hr) h
  | skip hr _ =>
    rw [hr] at h
    exact .cons (Entry.said_of_same rfl) (hsome hr) (Or.inl h)
  | leave hr | redeem hr _ | push hr =>
    rw [hr] at h
    exact .quiet (Entry.said_of_same rfl) (hnone (by rw [hr]; nofun)) (Or.inl h)
  | wait hr _ | fail hr | close hr =>
    rw [hr] at h
    exact .quiet (Entry.said_of_same rfl) (hnone (by rw [hr]; nofun)) h
  | clear hr =>
    rw [hr] at h
    exact .quiet (Entry.said_nil (Nat.zero_le _)) (hnone (by rw [hr]; nofun)) h

private theorem expire_frame {now : Nat} {key : Nat} (h : c.expire now key = some c') :
    c'.reader = c.reader ∧ c'.fromWorker = c.fromWorker := by
  unfold expire at h
  cases hc : c.callers[key]? with
  | none => simp [hc] at h
  | some caller =>
    simp only [hc, Option.bind_eq_bind, Option.bind_some] at h
    repeat' split at h
    all_goals cases h <;> exact ⟨rfl, rfl⟩

private theorem abort_frame (c : Channel) :
    c.abort.reader = .stopped ∨ c.abort.reader = c.reader ∧ c.abort.fromWorker = c.fromWorker := by
  unfold abort
  simp only
  split <;> split <;> first | exact Or.inl rfl | exact Or.inr ⟨rfl, rfl⟩

private theorem Heard.make (h : Heard (said es) (dispatched es) c.fromWorker c.reader)
    (hhonest : Entry.Honest ⟨c, m, c'⟩) (hmake : c.make? m = some c') :
    Heard (said (⟨c, m, c'⟩ :: es)) (dispatched (⟨c, m, c'⟩ :: es)) c'.fromWorker c'.reader := by
  cases m with
  | enter job =>
    cases hmake
    exact h.same rfl rfl rfl
  | abandon key =>
    cases hmake
    have hframe : (c.abandon key).reader = c.reader ∧ (c.abandon key).fromWorker = c.fromWorker := by
      unfold abandon
      repeat' split
      all_goals exact ⟨rfl, rfl⟩
    exact h.same hframe.1 hframe.2 rfl
  | act a =>
    cases hmake
    exact heard_of_act h a hhonest
  | abort =>
    cases hmake
    rcases abort_frame c with hr | ⟨hr, hf⟩
    · rw [hr]
      trivial
    · exact h.same hr hf rfl
  | step now status label =>
    obtain ⟨next, hstep, rfl⟩ := Option.map_eq_some_iff.1 hmake
    cases label with
    | caller key =>
      obtain ⟨after, hafter, rfl⟩ := Option.map_eq_some_iff.1 hstep
      obtain ⟨hr, hf, -⟩ := (Stir.caller key hafter).frame
      exact h.same hr hf rfl
    | expire key =>
      obtain ⟨after, hafter, rfl⟩ := Option.map_eq_some_iff.1 hstep
      obtain ⟨hr, hf⟩ := expire_frame hafter
      exact h.same hr hf rfl
    | writer =>
      obtain ⟨after, hafter, rfl⟩ := Option.map_eq_some_iff.1 hstep
      obtain ⟨hr, hf, -⟩ := (Stir.writer hafter : Stir now status.value c after).frame
      exact h.same hr hf rfl
    | reader => exact heard_of_stepReader now h hstep

/-- Along every run. -/
theorem Run.heard (h : Run es c) (hhonest : ∀ e ∈ es, e.Honest) :
    Heard (said es) (dispatched es) c.fromWorker c.reader := by
  induction h with
  | fresh => exact Or.inl ⟨[], rfl, rfl⟩
  | move m _ hmake ih =>
    exact (ih fun e he => hhonest e (List.mem_cons_of_mem _ he)).make (hhonest _ List.mem_cons_self) hmake

/-! ### When nobody can go on -/

private theorem messages_of_feed {all : List UInt8} {done : List Value}
    (h : (Reader.start.feed all).2 = done.map .frame) : Result.messages (Reader.start.feed all).2 = done := by
  rw [h, ← List.append_nil (done.map _), Result.messages_frames]
  exact List.append_nil done

/-- A reader that has read all that has been said, or has come to its end, has taken up all messages in it. -/
theorem Heard.dispatched_eq {all : List UInt8} {done : List Value} {p : Pipe} {task : ReaderTask}
    (h : Heard all done p task) (hr : (∃ r, task = .reading r ∧ p.bytes = []) ∨ task = .ended) :
    done = Result.messages (Reader.start.feed all).2 := by
  rcases hr with ⟨r, rfl, hbytes⟩ | rfl
  · exact (messages_of_feed (h.feed_eq hbytes)).symm
  · rcases h with ⟨-, hfeed⟩ | ⟨result, rest, hresult, hfeed⟩
    · exact (messages_of_feed hfeed).symm
    · rw [hfeed, Result.messages_frames]
      cases result with
      | frame message => exact absurd rfl (hresult message)
      | _ => exact (List.append_nil _).symm

/-- Whoever waits for a response when nobody can go on, waits for one that has not come. -/
private theorem Run.unanswered_of_atRest (h : Run es c) {now : Nat} (hrest : AtRest now c)
    (hn : (taken es).length < width64) {key id deadline : Nat} {job : Job}
    (hc : c.callers[key]? = some ⟨job, .waiting id deadline⟩) :
    id ∈ c.pending ∧ id ∉ (resolved es).map Prod.fst := by
  have hsound := h.sound hn
  obtain ⟨hask, -⟩ := hsound.standing key _ hc
  obtain ⟨-, hid, -⟩ := hrest.resting hc fun _ _ _ => hask
  exact ⟨hid, fun hgot => hsound.got_gone id hgot hid⟩

/-- When nobody can go on, and the reader has not been stopped, then every response that has found its slot has reached
its caller. And the reader waits for input, or has come to its end, and has taken up every message that the worker has
said, up to the first that is none; or it waits for room for a reply, and then the mailbox is full, and the writer
stands before a full pipe out of which the worker reads nothing. -/
theorem Run.heard_out (h : Run es c) (hhonest : ∀ e ∈ es, e.Honest) {now : Nat} (hrest : AtRest now c)
    (hr : c.reader ≠ .stopped) :
    ((taken es).length < width64 → ∀ (key : Nat) (job : Job) (id deadline : Nat),
      c.callers[key]? = some ⟨job, .waiting id deadline⟩ → id ∈ c.pending ∧ id ∉ (resolved es).map Prod.fst) ∧
    (((∃ r, c.reader = .reading r ∧ c.fromWorker.bytes = [] ∧ c.fromWorker.hasWriter = true) ∨ c.reader = .ended) ∧
        dispatched es = Result.messages (Reader.start.feed (said es)).2 ∨
      (∃ r reply, c.reader = .replying r reply true) ∧ c.Jammed ∧
        ∃ read, said es = read ++ c.fromWorker.bytes ∧
          dispatched es = Result.messages (Reader.start.feed read).2) := by
  have hheard := h.heard hhonest
  refine ⟨fun hn key job id deadline hc => h.unanswered_of_atRest hrest hn hc, ?_⟩
  rcases hrest.reader with ⟨r, hreading, hbytes, hwriter⟩ | ⟨r, reply, hreplying, hopen⟩ | hover
  · rw [hreading] at hheard
    exact Or.inl ⟨Or.inl ⟨r, hreading, hbytes, hwriter⟩, (messages_of_feed (hheard.feed_eq hbytes)).symm⟩
  · rw [hreplying] at hheard
    obtain ⟨read, hsaid, hfeed⟩ := hheard
    refine Or.inr ⟨⟨r, reply, hreplying⟩, hrest.jammed_of_seated h.orderly hopen (s := .reader) ⟨r, reply, hreplying⟩,
      read, hsaid, (messages_of_feed (by rw [hfeed])).symm⟩
  · cases hended : c.reader with
    | stopped => exact absurd hended hr
    | ended =>
      rw [hended] at hheard
      refine Or.inl ⟨Or.inr rfl, ?_⟩
      rcases hheard with ⟨-, hfeed⟩ | ⟨result, rest, hresult, hfeed⟩
      · exact (messages_of_feed hfeed).symm
      · rw [hfeed, Result.messages_frames]
        cases result with
        | frame message => exact absurd rfl (hresult message)
        | finished => exact (List.append_nil _).symm
        | fault fault => exact (List.append_nil _).symm
    | _ =>
      rw [hended] at hover
      cases hover

/-- A request is answered, and the answer has been taken up. -/
theorem heard_out_answer : ∃ es c, Run es c ∧ (∀ e ∈ es, e.Honest) ∧ AtRest 0 c ∧ c.reader ≠ .stopped ∧
    said es = sevenFrame ∧ dispatched es = Result.messages (Reader.start.feed sevenFrame).2 := by
  have entered := Run.fresh.move (.enter (.ask false "m" .absent ⟨1⟩)) rfl
  have identified := (entered.move (.step 0 ⟨.running, 0⟩ (.caller 0)) rfl).move
    (.step 0 ⟨.running, 0⟩ (.caller 0)) rfl
  have verified := (identified.move (.step 0 ⟨.running, 0⟩ (.caller 0)) rfl).move
    (.step 0 ⟨.running, 0⟩ (.caller 0)) rfl
  have waiting := verified.move (.step 0 ⟨.running, 0⟩ (.caller 0)) rfl
  have writing := (waiting.move (.step 0 ⟨.running, 0⟩ .writer) rfl).move (.step 0 ⟨.running, 0⟩ .writer) rfl
  have written := (writing.move (.step 0 ⟨.running, 0⟩ .writer) rfl).move (.act (.writes sevenFrame)) rfl
  have heard := (written.move (.step 0 ⟨.running, 0⟩ .reader) rfl).move (.step 0 ⟨.running, 0⟩ .reader) rfl
  obtain ⟨es, c, hrun, hhonest, hcallers, hw, hr, hreader, hsaid⟩ : ∃ es c, Run es c ∧ (∀ e ∈ es, e.Honest) ∧
      c.callers = [⟨.ask false "m" .absent ⟨1⟩, .done (.ok (.int 7))⟩] ∧ c.stepWriter = none ∧
      (∀ status, c.stepReader status = none) ∧ c.reader = .reading .start ∧ said es = sevenFrame :=
    ⟨_, _, heard.move (.step 0 ⟨.running, 0⟩ (.caller 0)) rfl, by simp [Entry.Honest]; rfl, rfl, rfl, fun _ => rfl, rfl,
      rfl⟩
  have hrest : AtRest 0 c := atRest_of_over (by simp [hcallers, Stage.isOver]) hw hr
  have hgoing : c.reader ≠ .stopped := by
    rw [hreader]
    nofun
  obtain ⟨-, ⟨-, hall⟩ | ⟨⟨r, reply, hreplying⟩, -⟩⟩ := hrun.heard_out hhonest hrest hgoing
  · exact ⟨es, c, hrun, hhonest, hrest, hgoing, hsaid, hsaid ▸ hall⟩
  · rw [hreader] at hreplying
    cases hreplying

/-! ### A reader that waits for room -/

/-- A run, with what has been said and taken up in it. -/
structure Tale (es : List Entry) (c : Channel) (all : List UInt8) (done : List Value) : Prop where
  run : Run es c
  honest : ∀ e ∈ es, e.Honest
  said : Channel.said es = all
  dispatched : Channel.dispatched es = done

theorem Tale.move {all new : List UInt8} {done : List Value} {message? : Option Value}
    (h : Tale es c all done) (hmake : c.make? m = some c') (hhonest : Entry.Honest ⟨c, m, c'⟩)
    (hsaid : Entry.said ⟨c, m, c'⟩ = new) (hd : Entry.dispatched? ⟨c, m, c'⟩ = message?) :
    Tale (⟨c, m, c'⟩ :: es) c' (all ++ new) (done ++ message?.toList) := by
  refine ⟨h.run.move m hmake, fun e he => ?_, ?_, ?_⟩
  · rcases List.mem_cons.1 he with rfl | he
    · exact hhonest
    · exact h.honest e he
  · rw [said_cons, h.said, hsaid]
  · rw [dispatched_cons, h.dispatched, hd]

/-- While the worker does nothing, nothing is said, and nothing is taken up. -/
theorem Tale.stirs {all : List UInt8} {done : List Value} {now : Nat} {status : Status} (h : Tale es c all done)
    (hgo : Relation.ReflTransGen (Stir now status) c c') : ∃ es', Tale es' c' all done := by
  induction hgo with
  | refl => exact ⟨es, h⟩
  | @tail b c' _ hstir ih =>
    obtain ⟨es', hb⟩ := ih
    have hsame := congrArg Pipe.bytes hstir.frame.2.1
    rw [← List.append_nil all, ← List.append_nil done]
    cases hstir with
    | enter job => exact ⟨_, hb.move (m := .enter job) rfl nofun (Entry.said_of_same hsame) rfl⟩
    | caller key hstep =>
      have hmake : b.make? (.step now ⟨status, 0⟩ (.caller key)) = some c' := by simp [make?, step, hstep]
      exact ⟨_, hb.move hmake Entry.honest_step (Entry.said_of_same hsame) rfl⟩
    | writer hstep =>
      have hmake : b.make? (.step now ⟨status, 0⟩ .writer) = some c' := by simp [make?, step, hstep]
      exact ⟨_, hb.move hmake Entry.honest_step (Entry.said_of_same hsame) rfl⟩

end

/-- The frame of a request of the worker. -/
def askingFrame : List UInt8 :=
  [0x43, 0x6F, 0x6E, 0x74, 0x65, 0x6E, 0x74, 0x2D, 0x4C, 0x65, 0x6E, 0x67, 0x74, 0x68, 0x3A, 0x20, 0x32, 0x31, 0x0D,
    0x0A, 0x0D, 0x0A, 0x7B, 0x22, 0x69, 0x64, 0x22, 0x3A, 0x31, 0x2C, 0x22, 0x6D, 0x65, 0x74, 0x68, 0x6F, 0x64, 0x22,
    0x3A, 0x22, 0x6D, 0x22, 0x7D]

/-- The request in it. -/
def asking : Value := .table [("id", .int 1), ("method", .str "m")]

private theorem scan_asking :
    Reader.start.scan (askingFrame ++ sevenFrame) = (.start, some (.frame asking), sevenFrame) := by
  decide +kernel

private theorem incoming_asking : Incoming.ofValue? asking = some (.request (.int 1) "m") := by
  decide +kernel

/-- A worker that reads nothing asks for something, and gives a response after that. -/
private theorem Tale.asked {es : List Entry} {c : Channel} {deadline : Nat} (h : Tale es c [] [])
    (hs : Stuffed 64 deadline c) (hr : c.reader = .reading .start) (hf : c.fromWorker = .empty Pipe.usual) :
    ∃ es' c' reply, Tale es' c' (askingFrame ++ sevenFrame) [asking] ∧ Stuffed 64 deadline c' ∧
      c'.reader = .replying .start reply true ∧ c'.callers = c.callers := by
  let reply := Message.methodNotFound (.int 1) "m"
  let pipe (bytes : List UInt8) : Pipe := { capacity := Pipe.usual, bytes }
  have hwrite : ((Pipe.empty Pipe.usual).write (askingFrame ++ sevenFrame)).1 = pipe (askingFrame ++ sevenFrame) := by
    decide +kernel
  have hact : c.make? (.act (.writes (askingFrame ++ sevenFrame))) =
      some { c with fromWorker := pipe (askingFrame ++ sevenFrame) } := by
    rw [make?, Channel.act, hf, hwrite]
    rfl
  have hread : Channel.make? { c with fromWorker := pipe (askingFrame ++ sevenFrame) } (.step 0 ⟨.running, 0⟩ .reader) =
      some { c with reader := .dispatching .start asking, fromWorker := pipe sevenFrame } := by
    have hbytes : (!(askingFrame ++ sevenFrame).isEmpty) = true := rfl
    simp only [make?, step, stepReader, hr, pipe, hbytes, if_true, scan_asking]
    rfl
  have hdispatch : Channel.make? { c with reader := .dispatching .start asking, fromWorker := pipe sevenFrame }
      (.step 0 ⟨.running, 0⟩ .reader) =
      some { c with reader := .replying .start reply false, fromWorker := pipe sevenFrame } := by
    simp only [make?, step, stepReader, incoming_asking]
    rfl
  have hwait : Channel.make? { c with reader := .replying .start reply false, fromWorker := pipe sevenFrame }
      (.step 0 ⟨.running, 0⟩ .reader) =
      some { c with
        reader := .replying .start reply true, fromWorker := pipe sevenFrame, mailbox := c.mailbox.wait .reader } := by
    simp [make?, step, stepReader, hs.isOpenMailbox, hs.hasRoom]
  have hwriter : c.fromWorker.hasWriter = true := by rw [hf]; rfl
  have hsaid : Entry.said ⟨c, .act (.writes (askingFrame ++ sevenFrame)),
      { c with fromWorker := pipe (askingFrame ++ sevenFrame) }⟩ = askingFrame ++ sevenFrame := by
    rw [Entry.said, hf]
    rfl
  have said := h.move hact (fun _ _ => hwriter) hsaid (rfl : _ = none)
  have read := said.move hread Entry.honest_step (rfl : _ = []) (show _ = none by simp only [Entry.dispatched?, hr])
  have dispatched := read.move hdispatch Entry.honest_step (rfl : _ = []) (rfl : _ = some asking)
  have waiting := dispatched.move hwait Entry.honest_step (rfl : _ = []) (rfl : _ = none)
  simp only [List.nil_append, List.append_nil, Option.toList_none, Option.toList_some] at waiting
  refine ⟨_, _, reply, waiting, ⟨⟨hs.isOpen, hs.answers, fun key job stage hc now hnow => ?_⟩, hs.isOpenMailbox,
    hs.capacity, hs.items, hs.granted, fun hlt => absurd hlt (Nat.lt_irrefl 64), hs.writer, hs.hasReader, hs.noRoom⟩,
    rfl, rfl⟩
  exact (hs.callers key job stage hc now hnow).mono rfl (fun _ hid => hid) rfl rfl

/-- The reader can wait for room for the refusal of a request, with a response behind it for which a caller waits. -/
theorem exists_unheard : ∃ es c job deadline, Run es c ∧ (∀ e ∈ es, e.Honest) ∧ AtRest 0 c ∧
    (∃ r reply, c.reader = .replying r reply true) ∧ c.callers[0]? = some ⟨job, .waiting 1 deadline⟩ ∧
    dispatched es = [asking] ∧ Result.messages (Reader.start.feed (said es)).2 =
      [asking, .table [("id", .int 1), ("result", .int 7)]] := by
  have entered := Run.fresh.move (.enter (.ask false "m" .absent ⟨1⟩)) rfl
  have identified := (entered.move (.step 0 ⟨.running, 0⟩ (.caller 0)) rfl).move
    (.step 0 ⟨.running, 0⟩ (.caller 0)) rfl
  have verified := (identified.move (.step 0 ⟨.running, 0⟩ (.caller 0)) rfl).move
    (.step 0 ⟨.running, 0⟩ (.caller 0)) rfl
  have waiting := verified.move (.step 0 ⟨.running, 0⟩ (.caller 0)) rfl
  have writing := (waiting.move (.step 0 ⟨.running, 0⟩ .writer) rfl).move (.step 0 ⟨.running, 0⟩ .writer) rfl
  have written := writing.move (.step 0 ⟨.running, 0⟩ .writer) rfl
  obtain ⟨es, c, htale, hidle, hr, hf, hcaller⟩ : ∃ es c, Tale es c [] [] ∧ Idle 1 c ∧ c.reader = .reading .start ∧
      c.fromWorker = .empty Pipe.usual ∧ c.callers[0]? = some ⟨.ask false "m" .absent ⟨1⟩, .waiting 1 1⟩ := by
    refine ⟨_, _, ⟨written, ?_, rfl, rfl⟩, ⟨⟨rfl, rfl, fun key job stage hc now hnow => ?_⟩, rfl, rfl, rfl, ?_⟩, rfl, rfl,
      rfl⟩
    · simp [Entry.Honest]
    · cases key with
      | zero =>
        cases hc
        exact ⟨rfl, List.mem_cons_self, hnow⟩
      | succ key => cases hc
    · decide +kernel
  obtain ⟨c₁, hgo, hs, more, hmore⟩ :=
    hidle.stuffed (Nat.le_refl (0 + (⟨1⟩ : Duration).nanos)) .running (nofun : false = true → _)
  obtain ⟨es₁, htale₁⟩ := htale.stirs hgo
  obtain ⟨hr₁, hf₁, -⟩ := stirs_frame hgo
  obtain ⟨es₂, c₂, reply, htale₂, hs₂, hr₂, hcallers₂⟩ := htale₁.asked hs (hr₁.trans hr) (hf₁.trans hf)
  have hrest : AtRest 0 c₂ := hs₂.atRest Nat.zero_lt_one fun status => by
    simp [stepReader, hr₂, hs₂.isOpenMailbox, Mailbox.isGranted, hs₂.granted]
  have hwaits : c₂.callers[0]? = some ⟨.ask false "m" .absent ⟨1⟩, .waiting 1 1⟩ := by
    rw [hcallers₂, ← hmore, List.getElem?_append_left (List.getElem?_eq_some_iff.1 hcaller).1, hcaller]
  refine ⟨es₂, c₂, _, 1, htale₂.run, htale₂.honest, hrest, ⟨_, _, hr₂⟩, hwaits, htale₂.dispatched, ?_⟩
  rw [htale₂.said]
  decide +kernel

/-- So it is not true that the reader takes up everything that the worker has said. -/
theorem not_all_heard : ¬∀ (es : List Entry) (c : Channel) (now : Nat), Run es c → (∀ e ∈ es, e.Honest) →
    AtRest now c → c.reader ≠ .stopped → dispatched es = Result.messages (Reader.start.feed (said es)).2 := by
  intro h
  obtain ⟨es, c, job, deadline, hrun, hhonest, hrest, ⟨r, reply, hr⟩, -, hdispatched, hsaid⟩ := exists_unheard
  have hall := h es c 0 hrun hhonest hrest (by rw [hr]; nofun)
  rw [hdispatched, hsaid] at hall
  cases hall

end Channel

end Attendant

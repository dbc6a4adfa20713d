import Attendant.Proofs.Channel.Rest
import Attendant.Proofs.Frame.Stream

/-!
# What reaches the worker

Many senders share one mailbox, and one writer empties it. A move does one of a few things to the mailbox, the writer
and the pipe to the worker (`Relay`). So the bytes on the wire are the frames of the messages in the order in which the
mailbox has accepted them (`Wired`): one after the other, none twice and none left out, and nothing after the first
shutdown. Only a write that fails, or a stop of both tasks, cuts this short, and nothing is written after that.

* `Run.wired`: what has been accepted is written, or the writer holds it, or it is in the mailbox still;
* `Run.unread`: what has been written has been read by the worker, or it is in the pipe;
* `Run.conveyed`: so a worker that reads frames sees the messages, in their order.
-/

namespace Attendant

/-- What the writer holds of the frame that it is about to write. -/
def WriterTask.rest : WriterTask → List UInt8
  | .writing rest => rest
  | .idle | .ended => []

namespace Command

/-- The messages among some commands, up to the first shutdown. -/
def messages : List Command → List Value
  | .send message :: rest => message :: messages rest
  | _ => []

/-- The frames of these messages, one after the other. -/
def frames (commands : List Command) : List UInt8 := (messages commands).flatMap Frame.encode

private theorem messages_sends (ms : List Value) (commands : List Command) :
    messages (ms.map .send ++ commands) = ms ++ messages commands := by
  induction ms with
  | nil => rfl
  | cons m ms ih =>
    rw [List.map_cons, List.cons_append, messages, ih]
    rfl

/-- What is accepted later comes after what was accepted before, or it does not count. -/
theorem messages_append (as bs : List Command) :
    messages (as ++ bs) = messages as ++ if .shutdown ∈ as then [] else messages bs := by
  induction as with
  | nil => rfl
  | cons a as ih =>
    cases a with
    | send m => simp [messages, ih]
    | shutdown => simp [messages]

private theorem frames_append (as bs : List Command) : frames as <+: frames (as ++ bs) := by
  rw [frames, frames, messages_append, List.flatMap_append]
  exact List.prefix_append _ _

private theorem frames_append_of_shutdown {as : List Command} (h : .shutdown ∈ as) (bs : List Command) :
    frames (as ++ bs) = frames as := by
  rw [frames, frames, messages_append, if_pos h, List.append_nil]

private theorem frames_sends (ms : List Value) (commands : List Command) :
    frames (ms.map .send ++ commands) = ms.flatMap Frame.encode ++ frames commands := by
  rw [frames, messages_sends, List.flatMap_append]
  rfl

end Command

namespace Channel

/-! ### What has gone over the wire -/

/-- The commands that a move has put into the mailbox. -/
def Entry.posted (e : Entry) : List Command := e.after.mailbox.items.drop e.before.mailbox.items.length

/-- The bytes that a move has put into the pipe to the worker. -/
def Entry.wrote (e : Entry) : List UInt8 := e.after.toWorker.bytes.drop e.before.toWorker.bytes.length

/-- The bytes that the worker has taken out of it. -/
def Entry.received (e : Entry) : List UInt8 :=
  match e.move with
  | .act (.reads count) => e.before.toWorker.bytes.take count
  | _ => []

/-- The writer is stopped before it has come to a shutdown: from outside, or by a write that fails because the worker
has closed its input. -/
def Entry.Cuts (e : Entry) : Prop :=
  e.before.writer ≠ .ended ∧ e.after.writer = .ended ∧
    (e.move = .abort ∨ e.before.writer.rest ≠ [] ∧ e.before.toWorker.hasReader = false)

/-- The commands that the mailbox has accepted, in their order. -/
def posted (es : List Entry) : List Command := es.reverse.flatMap Entry.posted

/-- All bytes that have been written for the worker. -/
def written (es : List Entry) : List UInt8 := es.reverse.flatMap Entry.wrote

/-- All bytes that the worker has read. -/
def received (es : List Entry) : List UInt8 := es.reverse.flatMap Entry.received

@[simp] theorem posted_cons (e : Entry) (es : List Entry) : posted (e :: es) = posted es ++ e.posted := by
  simp [posted]

@[simp] theorem written_cons (e : Entry) (es : List Entry) : written (e :: es) = written es ++ e.wrote := by
  simp [written]

@[simp] theorem received_cons (e : Entry) (es : List Entry) : received (e :: es) = received es ++ e.received := by
  simp [received]

section

variable {e : Entry}

theorem Entry.posted_eq {fresh : List Command}
    (h : e.after.mailbox.items = e.before.mailbox.items ++ fresh) : e.posted = fresh := by
  rw [posted, h, List.drop_left]

theorem Entry.posted_nil (h : e.after.mailbox.items.length ≤ e.before.mailbox.items.length) : e.posted = [] :=
  List.drop_eq_nil_of_le h

private theorem Entry.wrote_nil (h : e.after.toWorker.bytes.length ≤ e.before.toWorker.bytes.length) : e.wrote = [] :=
  List.drop_eq_nil_of_le h

theorem Entry.wrote_of_same (h : e.after.toWorker.bytes = e.before.toWorker.bytes) : e.wrote = [] :=
  Entry.wrote_nil (by rw [h])

private theorem Entry.wrote_of_reads {count : Nat}
    (h : e.after.toWorker.bytes = e.before.toWorker.bytes.drop count) : e.wrote = [] :=
  Entry.wrote_nil (by rw [h, List.length_drop]; exact Nat.sub_le _ _)

private theorem Entry.wrote_of_closes (h : e.after.toWorker.bytes = []) : e.wrote = [] :=
  Entry.wrote_nil (by rw [h]; exact Nat.zero_le _)

private theorem Entry.wrote_of_write {bytes : List UInt8}
    (h : e.after.toWorker.bytes = e.before.toWorker.bytes ++ bytes) : e.wrote = bytes := by
  rw [wrote, h, List.drop_left]

end

/-- All that a move can do to the mailbox, the writer and the pipe to the worker. -/
inductive Relay (c : Channel) (m : Move) (c' : Channel) : Prop where
  | post (fresh : List Command) (hr : Entry.received ⟨c, m, c'⟩ = [])
      (hi : c'.mailbox.items = c.mailbox.items ++ fresh) (hw : c'.writer = c.writer) (ht : c'.toWorker = c.toWorker)
  | reads (count : Nat) (hr : Entry.received ⟨c, m, c'⟩ = c.toWorker.bytes.take count)
      (hi : c'.mailbox.items = c.mailbox.items) (hw : c'.writer = c.writer)
      (ht : c'.toWorker = { c.toWorker with bytes := c.toWorker.bytes.drop count })
  | closes (hr : Entry.received ⟨c, m, c'⟩ = []) (hi : c'.mailbox.items = c.mailbox.items) (hw : c'.writer = c.writer)
      (ht : c'.toWorker = c.toWorker.closeReader)
  | take (message : Value) (hr : Entry.received ⟨c, m, c'⟩ = []) (hb : c.writer = .idle)
      (hi : c.mailbox.items = .send message :: c'.mailbox.items) (hw : c'.writer = .writing (Frame.encode message))
      (ht : c'.toWorker = c.toWorker)
  | written (hr : Entry.received ⟨c, m, c'⟩ = []) (hb : c.writer = .writing [])
      (hi : c'.mailbox.items = c.mailbox.items) (hw : c'.writer = .idle) (ht : c'.toWorker = c.toWorker)
  | write (bytes : List UInt8) (hr : Entry.received ⟨c, m, c'⟩ = []) (hb : c.writer = .writing bytes)
      (hreader : c.toWorker.hasReader = true) (hi : c'.mailbox.items = c.mailbox.items)
      (hw : c'.writer = .writing (bytes.drop c.toWorker.room)) (ht : c'.toWorker = (c.toWorker.write bytes).1)
  | finish (rest : List Command) (hr : Entry.received ⟨c, m, c'⟩ = []) (hb : c.writer = .idle)
      (hi : c.mailbox.items = .shutdown :: rest) (hi' : c'.mailbox.items = []) (hw : c'.writer = .ended)
      (ht : c'.toWorker = c.toWorker.closeWriter)
  | cut (hr : Entry.received ⟨c, m, c'⟩ = []) (hcut : Entry.Cuts ⟨c, m, c'⟩) (hi : c'.mailbox.items = [])
      (hw : c'.writer = .ended) (ht : c'.toWorker = c.toWorker.closeWriter)

section

variable {now : Nat} {status : Watched Status} {c c' : Channel}

private theorem Relay.quiet {m : Move} (hr : Entry.received ⟨c, m, c'⟩ = [])
    (hi : c'.mailbox.items = c.mailbox.items) (hw : c'.writer = c.writer) (ht : c'.toWorker = c.toWorker) :
    Relay c m c' :=
  .post [] hr (by rw [hi, List.append_nil]) hw ht

private theorem relay_of_stepCaller {key : Nat} (h : c.stepCaller now status.value key = some c') :
    Relay c (.step now status (.caller key)) c' := by
  obtain ⟨job, before, after, -, hadvance⟩ := advance_of_stepCaller h
  obtain ⟨-, hw, ht, -⟩ := hadvance.tasks
  cases hadvance with
  | @send id _ _ | @redeem id _ _ => exact .post [job.command id] rfl rfl rfl rfl
  | leave _ => exact .quiet rfl (Mailbox.items_promote _) rfl rfl
  | _ => exact .quiet rfl rfl rfl rfl

private theorem relay_of_expire {key : Nat} (h : c.expire now key = some c') :
    Relay c (.step now status (.expire key)) c' := by
  unfold expire at h
  cases hc : c.callers[key]? with
  | none => simp [hc] at h
  | some caller =>
    simp only [hc, Option.bind_eq_bind, Option.bind_some] at h
    repeat' split at h
    all_goals cases h <;> exact .quiet rfl rfl rfl rfl

private theorem relay_of_stepReader {next : Watched Status × Channel} (h : c.stepReader status = some next) :
    Relay c (.step now status .reader) next.2 := by
  obtain ⟨status', c'⟩ := next
  have hreads : Reads status c status' c' := reads_of_stepReader h
  cases hreads with
  | @response _ _ body id _ _ =>
    obtain ⟨-, -, hm, hw, ht, -⟩ := c.resolve_frame id body
    exact .quiet rfl (congrArg Mailbox.items hm) hw ht
  | @redeem _ reply _ _ | @push _ reply _ => exact .post [.send reply] rfl rfl rfl rfl
  | leave _ => exact .quiet rfl (Mailbox.items_promote _) rfl rfl
  | _ => exact .quiet rfl rfl rfl rfl

private theorem relay_of_stepWriter (h : c.stepWriter = some c') : Relay c (.step now status .writer) c' := by
  unfold stepWriter at h
  split at h
  · rename_i hb
    split at h
    · rename_i message mailbox ht
      obtain ⟨rest, hitems, rfl⟩ := Mailbox.take?_eq_some ht
      cases h
      refine .take message rfl hb ?_ rfl rfl
      rw [hitems, Mailbox.items_promote]
    · rename_i mailbox ht
      obtain ⟨rest, hitems, -⟩ := Mailbox.take?_eq_some ht
      cases h
      exact .finish rest rfl hb hitems rfl rfl rfl
    · cases h
  · rename_i hb
    cases h
    exact .written rfl hb rfl rfl rfl
  · rename_i rest hne hb
    split at h
    · rename_i hgone
      cases h
      refine .cut rfl ⟨by rw [hb]; nofun, rfl, Or.inr ⟨?_, by simpa using hgone⟩⟩ rfl rfl rfl
      rw [hb]
      exact hne
    · rename_i hreader
      split at h
      · cases h
      · cases h
        exact .write rest rfl hb (by simpa using hreader) rfl rfl rfl
  · cases h

private theorem relay_of_act (a : Act) : Relay c (.act a) (c.act a) := by
  cases a with
  | reads count => exact .reads count rfl rfl rfl rfl
  | closesInput => exact .closes rfl rfl rfl rfl
  | closesOutput => exact .quiet rfl rfl rfl rfl
  | writes bytes =>
    simp only [act]
    split <;> exact .quiet rfl rfl rfl rfl

/-- A stop of both tasks shuts the mailbox if the writer has not ended. For the reader, only its seat is given up. -/
private theorem relay_of_abort (c : Channel) : Relay c .abort c.abort := by
  by_cases hw : c.writer = .ended
  · unfold abort
    simp only [hw]
    split
    · exact .quiet rfl rfl rfl rfl
    · exact .quiet rfl rfl rfl rfl
    · exact .quiet rfl (Mailbox.items_promote _) hw.symm rfl
  · have hcut : Entry.Cuts ⟨c, .abort, c.abort⟩ := ⟨hw, abort_writer c, Or.inl rfl⟩
    refine .cut rfl hcut ?_ (abort_writer c) ?_
    · unfold abort
      simp only
      split
      · rfl
      · rfl
      · exact Mailbox.items_promote _
    · unfold abort
      simp only
      split <;> rfl

end

/-- What a move does to the way to the worker is one of these. -/
theorem relay_of_make {c c' : Channel} {m : Move} (h : c.make? m = some c') : Relay c m c' := by
  cases m with
  | enter job =>
    cases h
    exact .quiet rfl rfl rfl rfl
  | abandon key =>
    cases h
    unfold abandon
    split
    · split
      · exact .quiet rfl rfl rfl rfl
      · exact .quiet rfl (Mailbox.items_promote _) rfl rfl
    · exact .quiet rfl rfl rfl rfl
  | act a =>
    cases h
    exact relay_of_act a
  | abort =>
    cases h
    exact relay_of_abort c
  | step now status label =>
    obtain ⟨next, hstep, rfl⟩ := Option.map_eq_some_iff.1 h
    cases label with
    | caller key =>
      obtain ⟨after, hafter, rfl⟩ := Option.map_eq_some_iff.1 hstep
      exact relay_of_stepCaller hafter
    | expire key =>
      obtain ⟨after, hafter, rfl⟩ := Option.map_eq_some_iff.1 hstep
      exact relay_of_expire hafter
    | writer =>
      obtain ⟨after, hafter, rfl⟩ := Option.map_eq_some_iff.1 hstep
      exact relay_of_stepWriter hafter
    | reader => exact relay_of_stepReader hstep

/-! ### From the mailbox to the pipe -/

/-- What has been accepted, taken by the writer, and written. A writer that has not ended has taken some messages, of
which it has written all but what it holds, and the mailbox holds the rest. A writer that has ended has written no
more than the frames up to the first shutdown, and exactly these if it has not been cut off. -/
structure Wired (es : List Entry) (c : Channel) : Prop where
  live : c.writer ≠ .ended → ∃ ms : List Value, posted es = ms.map .send ++ c.mailbox.items ∧
    written es ++ c.writer.rest = ms.flatMap Frame.encode
  ended : c.writer = .ended → written es <+: Command.frames (posted es) ∧
    ((∀ e ∈ es, ¬e.Cuts) → .shutdown ∈ posted es ∧ written es = Command.frames (posted es))

section

variable {es : List Entry} {c c' : Channel} {m : Move}

/-- Whatever a writer has written that has not ended is a part of the frames that it should write. -/
theorem Wired.written_prefix (h : Wired es c) : written es <+: Command.frames (posted es) := by
  by_cases hw : c.writer = .ended
  · exact (h.ended hw).1
  · obtain ⟨ms, hposted, hwritten⟩ := h.live hw
    rw [hposted, Command.frames_sends, ← hwritten, List.append_assoc]
    exact List.prefix_append _ _

private theorem wrote_eq_nil (h : Relay c m c') (hw : c'.writer = .ended) : Entry.wrote ⟨c, m, c'⟩ = [] := by
  cases h with
  | post _ _ _ _ ht | take _ _ _ _ _ ht | written _ _ _ _ ht => exact Entry.wrote_of_same (congrArg Pipe.bytes ht)
  | finish _ _ _ _ _ _ ht | cut _ _ _ _ ht => exact Entry.wrote_of_same (by rw [ht]; rfl)
  | reads count _ _ _ ht => exact Entry.wrote_of_reads (congrArg Pipe.bytes ht)
  | closes _ _ _ ht => exact Entry.wrote_of_closes (congrArg Pipe.bytes ht)
  | write _ _ _ _ _ hw' _ =>
    rw [hw] at hw'
    cases hw'

/-- The writer goes on with what it has, whatever else has been accepted. -/
private theorem Wired.more (h : Wired es c) (fresh : List Command) (hi : c'.mailbox.items = c.mailbox.items ++ fresh)
    (hw : c'.writer = c.writer) (hwrote : Entry.wrote ⟨c, m, c'⟩ = []) : Wired (⟨c, m, c'⟩ :: es) c' := by
  have hposted : Entry.posted ⟨c, m, c'⟩ = fresh := Entry.posted_eq hi
  constructor
  · intro hlive
    obtain ⟨ms, hms, hwritten⟩ := h.live (by rwa [hw] at hlive)
    refine ⟨ms, ?_, ?_⟩
    · rw [posted_cons, hposted, hms, hi, List.append_assoc]
    · rw [written_cons, hwrote, List.append_nil, hw, hwritten]
  · intro hover
    obtain ⟨hpart, hwhole⟩ := h.ended (by rwa [hw] at hover)
    rw [posted_cons, hposted, written_cons, hwrote, List.append_nil]
    refine ⟨hpart.trans (Command.frames_append _ _), fun huncut => ?_⟩
    obtain ⟨hshutdown, hwritten⟩ := hwhole fun e he => huncut e (List.mem_cons_of_mem _ he)
    exact ⟨List.mem_append_left _ hshutdown, hwritten.trans (Command.frames_append_of_shutdown hshutdown _).symm⟩

private theorem Wired.make (h : Wired es c) (hmake : c.make? m = some c') : Wired (⟨c, m, c'⟩ :: es) c' := by
  have hrelay := relay_of_make hmake
  have hsame (hi : c'.mailbox.items = c.mailbox.items) : Entry.posted ⟨c, m, c'⟩ = [] :=
    Entry.posted_nil (Nat.le_of_eq (congrArg List.length hi))
  have hquiet (ht : c'.toWorker = c.toWorker) : Entry.wrote ⟨c, m, c'⟩ = [] :=
    Entry.wrote_of_same (congrArg Pipe.bytes ht)
  cases hrelay with
  | post fresh _ hi hw ht => exact h.more fresh hi hw (hquiet ht)
  | reads count _ hi hw ht =>
    exact h.more [] (by rw [hi, List.append_nil]) hw (Entry.wrote_of_reads (congrArg Pipe.bytes ht))
  | closes _ hi hw ht =>
    exact h.more [] (by rw [hi, List.append_nil]) hw (Entry.wrote_of_closes (congrArg Pipe.bytes ht))
  | take message _ hb hi hw ht =>
    -- one message more is on its way, and all of its frame is still to be written
    obtain ⟨ms, hms, hwritten⟩ := h.live (by rw [hb]; nofun)
    have hposted : Entry.posted ⟨c, m, c'⟩ = [] := Entry.posted_nil (by
      show c'.mailbox.items.length ≤ c.mailbox.items.length
      rw [hi]
      exact Nat.le_succ _)
    rw [hb, WriterTask.rest, List.append_nil] at hwritten
    refine ⟨fun _ => ⟨ms ++ [message], ?_, ?_⟩, fun hover => ?_⟩
    · rw [posted_cons, hposted, hms, hi]
      simp
    · rw [written_cons, hquiet ht, hw, hwritten]
      simp [WriterTask.rest]
    · rw [hw] at hover
      cases hover
  | written _ hb hi hw ht =>
    obtain ⟨ms, hms, hwritten⟩ := h.live (by rw [hb]; nofun)
    rw [hb, WriterTask.rest] at hwritten
    refine ⟨fun _ => ⟨ms, ?_, ?_⟩, fun hover => ?_⟩
    · rw [posted_cons, hsame hi, List.append_nil, hms, hi]
    · rw [written_cons, hquiet ht, hw, List.append_nil, WriterTask.rest, hwritten]
    · rw [hw] at hover
      cases hover
  | write bytes _ hb _ hi hw ht =>
    -- what is written leaves the hands of the writer
    obtain ⟨ms, hms, hwritten⟩ := h.live (by rw [hb]; nofun)
    have hwrote : Entry.wrote ⟨c, m, c'⟩ = bytes.take c.toWorker.room :=
      Entry.wrote_of_write (congrArg Pipe.bytes ht)
    rw [hb, WriterTask.rest] at hwritten
    refine ⟨fun _ => ⟨ms, ?_, ?_⟩, fun hover => ?_⟩
    · rw [posted_cons, hsame hi, List.append_nil, hms, hi]
    · rw [written_cons, hwrote, hw, WriterTask.rest, List.append_assoc, List.take_append_drop, hwritten]
    · rw [hw] at hover
      cases hover
  | finish rest _ hb hi hi' hw ht =>
    obtain ⟨ms, hms, hwritten⟩ := h.live (by rw [hb]; nofun)
    have hposted : Entry.posted ⟨c, m, c'⟩ = [] := Entry.posted_nil (by
      show c'.mailbox.items.length ≤ c.mailbox.items.length
      rw [hi']
      exact Nat.zero_le _)
    have hwrote : Entry.wrote ⟨c, m, c'⟩ = [] := wrote_eq_nil (relay_of_make hmake) hw
    have hframes : Command.frames (posted es) = ms.flatMap Frame.encode := by
      rw [hms, hi, Command.frames_sends]
      exact List.append_nil _
    rw [hb, WriterTask.rest, List.append_nil, ← hframes] at hwritten
    rw [hi] at hms
    refine ⟨fun hlive => absurd hw hlive, fun _ => ?_⟩
    rw [posted_cons, hposted, written_cons, hwrote, List.append_nil, List.append_nil]
    refine ⟨hwritten ▸ List.prefix_refl _, fun _ => ⟨?_, hwritten⟩⟩
    rw [hms]
    simp
  | cut _ hcut _ hw _ =>
    have hwrote : Entry.wrote ⟨c, m, c'⟩ = [] := wrote_eq_nil (relay_of_make hmake) hw
    refine ⟨fun hlive => absurd hw hlive, fun _ => ⟨?_, fun huncut => absurd hcut (huncut _ List.mem_cons_self)⟩⟩
    rw [posted_cons, written_cons, hwrote, List.append_nil]
    exact h.written_prefix.trans (Command.frames_append _ _)

/-- Along every run. -/
theorem Run.wired (h : Run es c) : Wired es c := by
  induction h with
  | fresh => exact ⟨fun _ => ⟨[], rfl, rfl⟩, nofun⟩
  | move m _ hmake ih => exact ih.make hmake

/-- Once the writer has ended, nothing more is written. -/
theorem Run.written_of_ended (h : Run es c) {later earlier : List Entry} {e : Entry} (hes : es = later ++ e :: earlier)
    (he : e.after.writer = .ended) : c.writer = .ended ∧ written es = written earlier := by
  induction h generalizing later with
  | fresh => simp at hes
  | @move es c c' m hrun hmake ih =>
    cases later with
    | nil =>
      cases hes
      exact ⟨he, by rw [written_cons, wrote_eq_nil (relay_of_make hmake) he, List.append_nil]⟩
    | cons last later =>
      obtain ⟨rfl, hrest⟩ := List.cons_eq_cons.1 hes
      obtain ⟨hended, hwritten⟩ := ih hrest
      have hended' := writer_ended_of_make hmake hended
      exact ⟨hended', by rw [written_cons, wrote_eq_nil (relay_of_make hmake) hended', List.append_nil, hwritten]⟩

/-- Nobody can go on, and the pipe has room: then all that has been accepted is written. -/
private theorem Wired.written_of_atRest (h : Wired es c) {now : Nat} (hrest : AtRest now c)
    (hlive : c.writer ≠ .ended) (hroom : c.toWorker.room ≠ 0) : written es = Command.frames (posted es) := by
  obtain ⟨ms, hms, hwritten⟩ := h.live hlive
  have hstep : c.stepWriter = none := Option.map_eq_none_iff.1 (hrest ⟨.running, 0⟩ .writer)
  unfold stepWriter at hstep
  cases hw : c.writer with
  | ended => exact absurd hw hlive
  | idle =>
    have hempty : c.mailbox.items = [] := by
      by_contra hitems
      obtain ⟨command, rest, hcons⟩ := List.exists_cons_of_ne_nil hitems
      cases command <;> simp [hw, Mailbox.take?, hcons] at hstep
    rw [hw, WriterTask.rest, List.append_nil] at hwritten
    rw [hms, hempty, Command.frames_sends, hwritten]
    exact (List.append_nil _).symm
  | writing bytes =>
    cases bytes with
    | nil => simp [hw] at hstep
    | cons b rest =>
      simp only [hw, hroom] at hstep
      split at hstep <;> cases hstep

/-! ### From the pipe to the worker -/

/-- What has been written is what the worker has read, and what is in the pipe, unless the worker has closed its
input. -/
theorem Run.unread (h : Run es c) : received es <+: written es ∧
    (c.toWorker.hasReader = true → received es ++ c.toWorker.bytes = written es) ∧
    (c.toWorker.hasReader = false → c.toWorker.bytes = []) := by
  induction h with
  | fresh => exact ⟨List.prefix_refl _, fun _ => rfl, fun _ => rfl⟩
  | @move es c c' m _ hmake ih =>
    obtain ⟨hpart, hopen, hclosed⟩ := ih
    have hquiet (hr : Entry.received ⟨c, m, c'⟩ = []) (hwrote : Entry.wrote ⟨c, m, c'⟩ = []) :
        received (⟨c, m, c'⟩ :: es) = received es ∧ written (⟨c, m, c'⟩ :: es) = written es := by
      rw [received_cons, written_cons, hr, hwrote, List.append_nil, List.append_nil]
      exact ⟨rfl, rfl⟩
    cases relay_of_make hmake with
    | post _ hr _ _ ht | take _ hr _ _ _ ht | written hr _ _ _ ht =>
      obtain ⟨hr, hwrote⟩ := hquiet hr (Entry.wrote_of_same (congrArg Pipe.bytes ht))
      rw [hr, hwrote, ht]
      exact ⟨hpart, hopen, hclosed⟩
    | finish _ hr _ _ _ _ ht | cut hr _ _ _ ht =>
      -- the worker can still read what is in the pipe
      obtain ⟨hr, hwrote⟩ := hquiet hr (Entry.wrote_of_same (by rw [ht]; rfl))
      rw [hr, hwrote, ht]
      exact ⟨hpart, hopen, hclosed⟩
    | closes hr _ _ ht =>
      obtain ⟨hr, hwrote⟩ := hquiet hr (Entry.wrote_of_closes (congrArg Pipe.bytes ht))
      rw [hr, hwrote, ht]
      exact ⟨hpart, nofun, fun _ => rfl⟩
    | reads count hr _ _ ht =>
      have hwrote : Entry.wrote ⟨c, m, c'⟩ = [] := Entry.wrote_of_reads (congrArg Pipe.bytes ht)
      rw [received_cons, written_cons, hr, hwrote, List.append_nil, ht]
      cases hreader : c.toWorker.hasReader with
      | false => simpa [hclosed hreader, hreader] using hpart
      | true =>
        rw [← hopen hreader, List.prefix_append_right_inj]
        refine ⟨List.take_prefix _ _, fun _ => ?_, nofun⟩
        rw [List.append_assoc, List.take_append_drop]
    | write bytes hr _ hreader _ _ ht =>
      have hwrote : Entry.wrote ⟨c, m, c'⟩ = bytes.take c.toWorker.room :=
        Entry.wrote_of_write (congrArg Pipe.bytes ht)
      rw [received_cons, written_cons, hr, hwrote, List.append_nil, ht]
      refine ⟨hpart.trans (List.prefix_append _ _), fun _ => ?_, fun hnone => ?_⟩
      · rw [Pipe.write, ← hopen hreader, List.append_assoc]
      · cases hreader.symm.trans hnone

/-! ### What the worker sees -/

open Attendant.Frame (Reader maxBody)

/-- A worker that reads a part of the frames of some messages sees those messages that have come whole. -/
private theorem feed_messages {ms : List Value} {stream : List UInt8}
    (hms : ∀ m ∈ ms, (Json.encode m).length ≤ maxBody ∧ Json.decode? (Json.encode m) = some m)
    (h : stream <+: ms.flatMap Frame.encode) :
    ∃ seen unseen r, ms = seen ++ unseen ∧ Reader.start.feed stream = (r, seen.map .frame) ∧
      seen.flatMap Frame.encode <+: stream ∧
      (∀ m ∈ unseen.head?, ¬(seen ++ [m]).flatMap Frame.encode <+: stream) ∧
      (r = .start ↔ stream = seen.flatMap Frame.encode) := by
  have hframes (ms : List Value) : ms.flatMap Frame.encode = (ms.map Json.encode).flatMap Frame.wrap := by
    rw [List.flatMap_map]
    rfl
  have hlen : ∀ body ∈ ms.map Json.encode, body.length ≤ maxBody := by
    intro body hbody
    obtain ⟨m, hm, rfl⟩ := List.mem_map.1 hbody
    exact (hms m hm).1
  obtain ⟨whole, rest, r, hbodies, hfeed, hwhole, hnext, hstart⟩ := Reader.feed_cut hlen (hframes ms ▸ h)
  obtain ⟨seen, unseen, rfl, rfl, rfl⟩ := List.map_eq_append_iff.1 hbodies
  refine ⟨seen, unseen, r, rfl, ?_, ?_, fun m hm => ?_, ?_⟩
  · have hclose : (seen.map Json.encode).map Reader.close = seen.map .frame := by
      rw [List.map_map]
      refine List.map_congr_left fun m hm => ?_
      simp only [Function.comp_apply, Reader.close, (hms m (List.mem_append_left _ hm)).2]
    rw [hfeed, hclose]
  · rwa [hframes]
  · rw [hframes, List.map_append]
    exact hnext _ (by rw [List.head?_map, hm]; rfl)
  · rw [hframes, hstart]

/-- However the steps of all senders, the writer and the worker come one after the other: the bytes that have been
written are at all times the beginning of the frames of the messages that the mailbox has accepted, in their order, up
to the first shutdown. Unless a write has failed, or the writer has been stopped, each of these frames is written
whole and once, or on its way; all of them are written once the writer has ended, and also when nobody can go on and
the pipe has room. After the end of the writer, of whatever kind, nothing is written. What the worker has read is the
beginning of what has been written, so it sees the messages whose frames have come whole, and no other. -/
theorem Run.conveyed (h : Run es c) :
    written es <+: Command.frames (posted es) ∧
    ((∀ e ∈ es, ¬e.Cuts) →
      (c.writer ≠ .ended →
        written es ++ c.writer.rest ++ Command.frames c.mailbox.items = Command.frames (posted es)) ∧
      (c.writer = .ended → .shutdown ∈ posted es ∧ written es = Command.frames (posted es)) ∧
      ∀ now, AtRest now c → c.toWorker.room ≠ 0 → written es = Command.frames (posted es)) ∧
    (∀ later e earlier, es = later ++ e :: earlier → e.after.writer = .ended → written es = written earlier) ∧
    received es <+: written es ∧
    (c.toWorker.hasReader = true → received es ++ c.toWorker.bytes = written es) ∧
    ((∀ m ∈ Command.messages (posted es),
        (Json.encode m).length ≤ maxBody ∧ Json.decode? (Json.encode m) = some m) →
      ∀ chunks : List (List UInt8), (∀ chunk ∈ chunks, chunk ≠ []) → chunks.flatten = received es →
        ∃ seen unseen, Command.messages (posted es) = seen ++ unseen ∧
          (Reader.start.hear (chunks.map .bytes)).2 = seen.map .frame ∧
          seen.flatMap Frame.encode <+: received es ∧
          (∀ m ∈ unseen.head?, ¬(seen ++ [m]).flatMap Frame.encode <+: received es) ∧
          (received es = Command.frames (posted es) → unseen = [] ∧
            ∀ k, (Reader.start.hear (chunks.map .bytes ++ List.replicate k (.bytes []))).2 =
              seen.map .frame ++ List.replicate k .finished)) := by
  obtain ⟨hpart, hopen, -⟩ := h.unread
  have hwired := h.wired
  refine ⟨hwired.written_prefix, fun huncut => ⟨fun hlive => ?_, fun hover => (hwired.ended hover).2 huncut,
    fun now hrest hroom => ?_⟩, fun later e earlier hes he => (h.written_of_ended hes he).2, hpart, hopen,
    fun hms chunks hchunks hflatten => ?_⟩
  · obtain ⟨ms, hposted, hwritten⟩ := hwired.live hlive
    rw [hwritten, hposted, Command.frames_sends]
  · by_cases hw : c.writer = .ended
    · exact ((hwired.ended hw).2 huncut).2
    · exact hwired.written_of_atRest hrest hw hroom
  · obtain ⟨seen, unseen, r, hsplit, hfeed, hseen, hnext, hstart⟩ :=
      feed_messages hms (hpart.trans hwired.written_prefix)
    have hheard : Reader.start.hear (chunks.map .bytes) = (r, seen.map .frame) := by
      rw [Reader.hear_chunks _ hchunks, hflatten, hfeed]
    refine ⟨seen, unseen, hsplit, by rw [hheard], hseen, hnext, fun hall => ?_⟩
    have hunseen : unseen = [] := by
      cases unseen with
      | nil => rfl
      | cons m unseen =>
        refine absurd ?_ (hnext m rfl)
        rw [hall, Command.frames, hsplit, List.append_cons seen m unseen]
        exact ⟨unseen.flatMap Frame.encode, List.flatMap_append.symm⟩
    refine ⟨hunseen, fun k => ?_⟩
    have hr : r = .start := by
      rw [hstart, hall, Command.frames, hsplit, hunseen, List.append_nil]
    rw [Reader.hear_append, hheard, hr, Reader.hear_start_ended]

/-- A notification, a shutdown, and a worker that reads all: it sees the notification, and then the end. -/
theorem conveyed_notification : ∃ es c, Run es c ∧
    (∀ m ∈ Command.messages (posted es), (Json.encode m).length ≤ maxBody ∧ Json.decode? (Json.encode m) = some m) ∧
    [received es].flatten = received es ∧
    (Reader.start.hear ([received es].map .bytes ++ List.replicate 1 (.bytes []))).2 =
      [.frame (Message.notification "m" none), .finished] := by
  have told := (Run.fresh.move (.enter (.tell false "m" none)) rfl).move (.step 0 ⟨.running, 0⟩ (.caller 0)) rfl
  have sent := told.move (.step 0 ⟨.running, 0⟩ (.caller 0)) rfl
  have asked := (sent.move (.enter .finish) rfl).move (.step 0 ⟨.running, 0⟩ (.caller 1)) rfl
  have shut := asked.move (.step 0 ⟨.running, 0⟩ (.caller 1)) rfl
  have writing := (shut.move (.step 0 ⟨.running, 0⟩ .writer) rfl).move (.step 0 ⟨.running, 0⟩ .writer) rfl
  have ended := (writing.move (.step 0 ⟨.running, 0⟩ .writer) rfl).move (.step 0 ⟨.running, 0⟩ .writer) rfl
  obtain ⟨es, c, h, hposted, hreceived⟩ : ∃ es c, Run es c ∧
      posted es = [.send (Message.notification "m" none), .shutdown] ∧
      received es = Frame.encode (Message.notification "m" none) :=
    ⟨_, _, ended.move (.act (.reads 60)) rfl, rfl, by decide +kernel⟩
  have hms : ∀ m ∈ Command.messages (posted es),
      (Json.encode m).length ≤ maxBody ∧ Json.decode? (Json.encode m) = some m := by
    rw [hposted]
    exact List.forall_mem_singleton.2 ⟨by decide, by decide +kernel⟩
  have hchunk : received es ≠ [] := by
    rw [hreceived]
    exact Reader.wrap_ne_nil _
  have hall : received es = Command.frames (posted es) := by
    rw [hreceived, hposted]
    exact (List.append_nil _).symm
  obtain ⟨-, -, -, -, -, hseen⟩ := h.conveyed
  obtain ⟨seen, unseen, hsplit, -, -, -, hend⟩ :=
    hseen hms [received es] (List.forall_mem_singleton.2 hchunk) (List.append_nil _)
  obtain ⟨rfl, hresults⟩ := hend hall
  obtain rfl : seen = [Message.notification "m" none] := by
    rw [hposted, List.append_nil] at hsplit
    exact hsplit.symm
  exact ⟨es, c, h, hms, List.append_nil _, hresults 1⟩

end

end Channel

end Attendant

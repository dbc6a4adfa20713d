import Attendant.Proofs.Channel.Rest

/-!
# A worker that reads nothing

The pipe to the worker holds a certain number of bytes, and the mailbox a certain number of messages. So when the worker
reads nothing, callers alone can bring the writer to a stand before a full pipe, and then fill the mailbox
(`Idle.stuffed`); whoever comes after that waits for room (`Stuffed.queue`), and nobody can go on (`Stuffed.atRest`).
-/

namespace Attendant

namespace Channel

/-- A caller comes, or a caller or the writer makes a step. -/
inductive Stir (now : Nat) (status : Status) (c : Channel) : Channel → Prop where
  | enter (job : Job) : Stir now status c (c.enter job).1
  | caller (key : Nat) {c' : Channel} (h : c.stepCaller now status key = some c') : Stir now status c c'
  | writer {c' : Channel} (h : c.stepWriter = some c') : Stir now status c c'

/-! ### Long messages -/

private theorem length_le_encode (s : String) : s.length ≤ (Utf8.encode s).length := by
  have hchars (cs : List Char) : cs.length ≤ (Utf8.encodeChars cs).length := by
    induction cs with
    | nil => exact Nat.le_refl 0
    | cons d ds ih =>
      have hpos : 0 < (String.utf8EncodeChar d).length := by
        rw [String.length_utf8EncodeChar]
        exact d.utf8Size_pos
      simp only [Utf8.encodeChars, List.flatMap_cons, List.length_append, List.length_cons] at ih ⊢
      omega
  exact hchars s.toList

private theorem length_le_renderString (s : String) : s.length ≤ (Json.renderString s).length := by
  have hescape (d : Char) : 0 < (Json.escape d).length := by
    unfold Json.escape
    repeat' split
    all_goals exact Nat.succ_pos _
  have hchars (cs : List Char) : cs.length ≤ (cs.flatMap Json.escape).length := by
    induction cs with
    | nil => exact Nat.le_refl 0
    | cons d ds ih =>
      have hpos := hescape d
      simp only [List.flatMap_cons, List.length_append, List.length_cons]
      omega
  have hle := hchars s.toList
  simp only [Json.renderString, String.length_append, String.length_ofList]
  rw [String.length_toList] at hle
  omega

private theorem encode_pos (message : Value) : 0 < (Frame.encode message).length := by
  have hheader := length_le_encode ("Content-Length: " ++ toString (Json.encode message).length ++ "\r\n\r\n")
  have hname : "Content-Length: ".length = 16 := rfl
  simp only [Frame.encode, Frame.wrap, Frame.header, List.length_append, String.length_append] at hheader ⊢
  omega

private theorem request_eq (id : Nat) (method : String) :
    Message.request id method none = .table [("id", .int id), ("jsonrpc", .str "2.0"), ("method", .str method)] := by
  rfl

private theorem length_le_request (id : Nat) (method : String) :
    method.length ≤ (Frame.encode (Message.request id method none)).length := by
  have hbody := length_le_encode (Json.render (Message.request id method none))
  have hmethod := length_le_renderString method
  have hrender : (Json.renderString method).length ≤ (Json.render (Message.request id method none)).length := by
    simp only [request_eq, Json.render, Json.renderFields, String.length_append]
    omega
  simp only [Frame.encode, Frame.wrap, Json.encode, List.length_append]
  omega

section

variable {now : Nat} {status : Status} {c c' : Channel}

/-- Neither the reader nor the pipe from the worker has a part in this, and the channel stays open. -/
theorem Stir.frame (h : Stir now status c c') :
    c'.reader = c.reader ∧ c'.fromWorker = c.fromWorker ∧ c'.closed = c.closed := by
  cases h with
  | enter job => exact ⟨rfl, rfl, rfl⟩
  | caller key h =>
    obtain ⟨job, before, after, -, hadvance⟩ := advance_of_stepCaller h
    obtain ⟨hr, -, -, hf⟩ := hadvance.tasks
    exact ⟨hr, hf, (reader_of_stepCaller h).2⟩
  | writer h =>
    unfold stepWriter at h
    repeat' split at h
    all_goals cases h <;> exact ⟨rfl, rfl, rfl⟩

theorem stirs_frame (h : Relation.ReflTransGen (Stir now status) c c') :
    c'.reader = c.reader ∧ c'.fromWorker = c.fromWorker ∧ c'.closed = c.closed := by
  induction h with
  | refl => exact ⟨rfl, rfl, rfl⟩
  | tail _ hstir ih =>
    obtain ⟨hr, hf, hc⟩ := hstir.frame
    exact ⟨hr.trans ih.1, hf.trans ih.2.1, hc.trans ih.2.2⟩

/-! ### One caller more -/

/-- A channel with one caller more. -/
def plus (c : Channel) (job : Job) (stage : Stage) : Channel := { c with callers := c.callers ++ [⟨job, stage⟩] }

/-- A channel at which one id more has been taken, with a slot for it. -/
def slotted (c : Channel) : Channel :=
  { c with nextId := (c.nextId + 1) % width64, pending := c.pending ++ [c.nextId] }

private theorem plus_caller (c : Channel) (job : Job) (stage : Stage) :
    (c.plus job stage).callers[c.callers.length]? = some ⟨job, stage⟩ := List.getElem?_concat_length

private theorem setStage_plus (c : Channel) (job : Job) (before after : Stage) :
    (c.plus job before).setStage c.callers.length after = c.plus job after := by
  simp [setStage, plus, modify_length_append]

private theorem Stir.last {job : Job} {stage : Stage}
    (h : (c.plus job stage).stepCaller now status c.callers.length = some c') : Stir now status (c.plus job stage) c' :=
  .caller c.callers.length h

private theorem stirs_arrive (hclosed : c.closed = false) {guarded : Bool} (hguard : guarded = true → status = .running)
    {job : Job} {method : String} {limit : Duration} (hjob : job = .ask guarded method .absent limit) :
    Relation.ReflTransGen (Stir now status) (c.enter job).1 (c.slotted.plus job (.submit (some c.nextId))) := by
  have begun : Stir now status (c.plus job .gate) (c.plus job .identify) := by
    refine .last ?_
    subst hjob
    cases guarded <;> simp [stepCaller, plus_caller, setStage_plus, Job.guarded, hguard]
  have identified : Stir now status (c.plus job .identify)
      ({ c with nextId := (c.nextId + 1) % width64 }.plus job (.register c.nextId)) := by
    refine .last ?_
    simp only [stepCaller, plus_caller, setStage_plus, Option.pure_def, Option.bind_eq_bind, Option.bind_some]
    rfl
  have registered : Stir now status ({ c with nextId := (c.nextId + 1) % width64 }.plus job (.register c.nextId))
      (c.slotted.plus job (.verify c.nextId)) := by
    refine .last ?_
    simp only [stepCaller, plus_caller, setStage_plus, Option.pure_def, Option.bind_eq_bind, Option.bind_some]
    rfl
  have verified : Stir now status (c.slotted.plus job (.verify c.nextId))
      (c.slotted.plus job (.submit (some c.nextId))) := by
    refine .last ?_
    rw [stepCaller_verify (plus_caller _ _ _), setStage_plus]
    simp [plus, slotted, hclosed]
  exact .head begun (.head identified (.head registered (.single verified)))

/-- A caller at an open mailbox hands its message over, or waits for room. -/
private theorem stepCaller_submit {key : Nat} {job : Job} {id : Option Nat}
    (hc : c.callers[key]? = some ⟨job, .submit id⟩) (hopen : c.mailbox.isOpen = true) (status : Status) :
    c.stepCaller now status key = some (if c.mailbox.hasRoom = true then
      { c.setStage key (accepted now job id) with mailbox := c.mailbox.push (job.command id) }
    else { c.setStage key (.queued id) with mailbox := c.mailbox.wait (.caller key) }) := by
  cases hroom : c.mailbox.hasRoom <;> simp [stepCaller, hc, hopen, hroom]

/-- A request finds room in the mailbox, and waits for its response. -/
private theorem stirs_send (hclosed : c.closed = false) (hopen : c.mailbox.isOpen = true)
    (hroom : c.mailbox.hasRoom = true) {guarded : Bool} (hguard : guarded = true → status = .running) (method : String)
    (limit : Duration) : Relation.ReflTransGen (Stir now status) c
      { c.slotted.plus (.ask guarded method .absent limit) (.waiting c.nextId (now + limit.nanos)) with
        mailbox := c.mailbox.push (.send (Message.request c.nextId method none)) } := by
  refine .head (.enter (.ask guarded method .absent limit)) ((stirs_arrive hclosed hguard rfl).tail (.last ?_))
  refine (stepCaller_submit (c.slotted.plus_caller _ _) hopen status).trans (congrArg some ((if_pos hroom).trans ?_))
  rw [setStage_plus]
  rfl

private theorem stirs_queue (hclosed : c.closed = false) (hopen : c.mailbox.isOpen = true)
    (hroom : c.mailbox.hasRoom = false) {guarded : Bool} (hguard : guarded = true → status = .running) (method : String)
    (limit : Duration) : Relation.ReflTransGen (Stir now status) (c.enter (.ask guarded method .absent limit)).1
      { c.slotted.plus (.ask guarded method .absent limit) (.queued (some c.nextId)) with
        mailbox := c.mailbox.wait (.caller c.callers.length) } := by
  refine (stirs_arrive hclosed hguard rfl).tail (.last ?_)
  have hnone : ¬c.mailbox.hasRoom = true := by rw [hroom]; exact Bool.false_ne_true
  refine (stepCaller_submit (c.slotted.plus_caller _ _) hopen status).trans (congrArg some ((if_neg hnone).trans ?_))
  rw [setStage_plus]
  rfl

/-- A message for which there is room in the pipe is written at once. -/
theorem stirs_write {message : Value} {mailbox : Mailbox Sender Command} (hw : c.writer = .idle)
    (ht : c.mailbox.take? = some (.send message, mailbox)) (hreader : c.toWorker.hasReader = true)
    (hroom : (Frame.encode message).length ≤ c.toWorker.room) : Relation.ReflTransGen (Stir now status) c
      { c with mailbox, toWorker := { c.toWorker with bytes := c.toWorker.bytes ++ Frame.encode message } } := by
  have hall : (Frame.encode message).take c.toWorker.room = Frame.encode message := List.take_of_length_le hroom
  have hnone : (Frame.encode message).drop c.toWorker.room = [] := List.drop_eq_nil_of_le hroom
  have taken : Stir now status c { c with mailbox, writer := .writing (Frame.encode message) } := by
    refine .writer ?_
    simp [stepWriter, hw, ht]
  have written : Stir now status { c with mailbox, writer := .writing (Frame.encode message) }
      { c with
        mailbox, writer := .writing [],
        toWorker := { c.toWorker with bytes := c.toWorker.bytes ++ Frame.encode message } } := by
    obtain ⟨b, bs, hframe⟩ := List.exists_cons_of_length_pos (encode_pos message)
    have hpos : c.toWorker.room ≠ 0 := Nat.ne_of_gt (Nat.lt_of_lt_of_le (encode_pos message) hroom)
    refine .writer ?_
    rw [hframe] at hall hnone
    simp [stepWriter, hreader, hpos, Pipe.write, hframe, hall, hnone]
  have idle : Stir now status
      { c with
        mailbox, writer := .writing [],
        toWorker := { c.toWorker with bytes := c.toWorker.bytes ++ Frame.encode message } }
      { c with mailbox, toWorker := { c.toWorker with bytes := c.toWorker.bytes ++ Frame.encode message } } := by
    refine .writer ?_
    simp [stepWriter, hw]
  exact .head taken (.head written (.single idle))

/-! ### Full -/

/-- Until some time, no caller has anything to do as long as nobody else does anything. -/
structure Calm (deadline : Nat) (c : Channel) : Prop where
  isOpen : c.closed = false
  answers : c.answers = []
  callers : ∀ key job stage, c.callers[key]? = some ⟨job, stage⟩ → ∀ now < deadline, c.Resting now key stage

/-- Nothing is under way on a channel. -/
structure Idle (deadline : Nat) (c : Channel) : Prop extends Calm deadline c where
  mailbox : c.mailbox = { capacity := 64 }
  writer : c.writer = .idle
  hasReader : c.toWorker.hasReader = true
  hasRoom : c.toWorker.room ≠ 0

/-- The writer is in the middle of a message before a full pipe, and so many messages are in the mailbox. -/
structure Stuffed (count deadline : Nat) (c : Channel) : Prop extends Calm deadline c where
  isOpenMailbox : c.mailbox.isOpen = true
  capacity : c.mailbox.capacity = 64
  items : c.mailbox.items.length = count
  granted : c.mailbox.granted = []
  waiting : count < 64 → c.mailbox.waiting = []
  writer : ∃ b rest, c.writer = .writing (b :: rest)
  hasReader : c.toWorker.hasReader = true
  noRoom : c.toWorker.room = 0

/-- Slots that are added, and messages, do not concern a caller that rests. -/
theorem Resting.mono {key : Nat} {stage : Stage} (h : c.Resting now key stage) (hanswers : c'.answers = c.answers)
    (hpending : ∀ id ∈ c.pending, id ∈ c'.pending) (hopen : c'.mailbox.isOpen = c.mailbox.isOpen)
    (hgranted : c'.mailbox.granted = c.mailbox.granted) : c'.Resting now key stage := by
  cases stage with
  | queued id => exact ⟨hopen.trans h.1, by rw [Mailbox.isGranted, hgranted]; exact h.2⟩
  | waiting id deadline => exact ⟨by rw [hanswers]; exact h.1, hpending id h.2.1, h.2.2⟩
  | done outcome => trivial
  | abandoned => trivial
  | _ => cases h

private theorem Calm.plus {deadline : Nat} (h : Calm deadline c) {job : Job} {stage : Stage}
    {mailbox : Mailbox Sender Command} (hopen : mailbox.isOpen = c.mailbox.isOpen)
    (hgranted : mailbox.granted = c.mailbox.granted)
    (hstage : ∀ now < deadline, Resting now { c.slotted.plus job stage with mailbox } c.callers.length stage) :
    Calm deadline { c.slotted.plus job stage with mailbox } := by
  refine ⟨h.isOpen, h.answers, fun key job' stage' hc now hnow => ?_⟩
  have hc : (c.callers ++ [⟨job, stage⟩])[key]? = some ⟨job', stage'⟩ := hc
  rcases Nat.lt_trichotomy key c.callers.length with hlt | rfl | hgt
  · rw [List.getElem?_append_left hlt] at hc
    exact (h.callers key job' stage' hc now hnow).mono rfl (fun id hid => List.mem_append_left _ hid) hopen hgranted
  · rw [List.getElem?_concat_length] at hc
    cases hc
    exact hstage now hnow
  · rw [List.getElem?_eq_none (by rw [List.length_append]; exact hgt)] at hc
    cases hc

/-- A request that waits for its response has time until its limit is over. -/
private theorem Calm.waiting {deadline : Nat} (h : Calm deadline c) {limit : Duration}
    (hlimit : deadline ≤ now + limit.nanos) (mailbox : Mailbox Sender Command) (job : Job) :
    ∀ time < deadline, Resting time
      { c.slotted.plus job (.waiting c.nextId (now + limit.nanos)) with mailbox } c.callers.length
      (.waiting c.nextId (now + limit.nanos)) := by
  intro time htime
  refine ⟨?_, List.mem_append_right _ List.mem_cons_self, Nat.lt_of_lt_of_le htime hlimit⟩
  show c.answers.lookup c.nextId = none
  rw [h.answers]
  rfl

/-- One long message is enough to fill the pipe. -/
private theorem Idle.fill {deadline : Nat} (h : Idle deadline c) {guarded : Bool}
    (hguard : guarded = true → status = .running) {limit : Duration} (hlimit : deadline ≤ now + limit.nanos) :
    ∃ c', Relation.ReflTransGen (Stir now status) c c' ∧ Stuffed 0 deadline c' ∧ c.callers <+: c'.callers := by
  obtain ⟨method, hmethod⟩ : ∃ method : String, c.toWorker.capacity < method.length :=
    ⟨String.ofList (List.replicate (c.toWorker.capacity + 1) 'x'), by simp⟩
  have hlong : c.toWorker.room < (Frame.encode (Message.request c.nextId method none)).length :=
    Nat.lt_of_le_of_lt (Nat.sub_le _ _) (Nat.lt_of_lt_of_le hmethod (length_le_request c.nextId method))
  obtain ⟨b, bs, hframe⟩ : ∃ b bs, Frame.encode (Message.request c.nextId method none) = b :: bs :=
    List.exists_cons_of_ne_nil (List.ne_nil_of_length_pos (by omega))
  rw [hframe] at hlong
  obtain ⟨d, rest, hrest⟩ : ∃ d rest, (b :: bs).drop c.toWorker.room = d :: rest := by
    refine List.exists_cons_of_ne_nil (List.ne_nil_of_length_pos ?_)
    rw [List.length_drop]
    omega
  let job : Job := .ask guarded method .absent limit
  let stage : Stage := .waiting c.nextId (now + limit.nanos)
  -- the writer takes the message, and writes as much of it as there is room for
  have hopen : c.mailbox.isOpen = true := by rw [h.mailbox]
  have hroom : c.mailbox.hasRoom = true := by rw [h.mailbox]; rfl
  have sent : Relation.ReflTransGen (Stir now status) c _ := stirs_send h.isOpen hopen hroom hguard method limit
  have writing : Stir now status
      { c.slotted.plus job stage with mailbox := c.mailbox.push (.send (Message.request c.nextId method none)) }
      { c.slotted.plus job stage with writer := .writing (b :: bs) } := by
    refine .writer ?_
    simp [stepWriter, plus, slotted, h.writer, h.mailbox, Mailbox.push, Mailbox.take?, Mailbox.promote, hframe]
  have stuck : Stir now status { c.slotted.plus job stage with writer := .writing (b :: bs) }
      { c.slotted.plus job stage with
        writer := .writing (d :: rest),
        toWorker := { c.toWorker with bytes := c.toWorker.bytes ++ (b :: bs).take c.toWorker.room } } := by
    refine .writer ?_
    simp [stepWriter, plus, slotted, h.hasReader, h.hasRoom, Pipe.write, hrest]
  refine ⟨_, (sent.tail writing).tail stuck, ?_, List.prefix_append _ _⟩
  have hcalm : Calm deadline { c.slotted.plus job stage with mailbox := c.mailbox } :=
    h.toCalm.plus rfl rfl (h.toCalm.waiting hlimit _ job)
  refine ⟨⟨hcalm.isOpen, hcalm.answers, hcalm.callers⟩, hopen, by simp [plus, slotted, h.mailbox],
    by simp [plus, slotted, h.mailbox], by simp [plus, slotted, h.mailbox], by simp [plus, slotted, h.mailbox],
    ⟨d, rest, rfl⟩, h.hasReader, ?_⟩
  show c.toWorker.capacity - (c.toWorker.bytes ++ (b :: bs).take c.toWorker.room).length = 0
  rw [List.length_append, List.length_take]
  simp only [Pipe.room] at hlong ⊢
  omega

section

variable {count deadline : Nat}

private theorem Stuffed.more (h : Stuffed count deadline c) (hcount : count < 64) {guarded : Bool}
    (hguard : guarded = true → status = .running) {limit : Duration} (hlimit : deadline ≤ now + limit.nanos) :
    ∃ c', Relation.ReflTransGen (Stir now status) c c' ∧ Stuffed (count + 1) deadline c' ∧
      c.callers <+: c'.callers := by
  have hroom : c.mailbox.hasRoom = true := by
    simp [Mailbox.hasRoom, h.waiting hcount, h.items, h.granted, h.capacity, hcount]
  refine ⟨_, stirs_send h.isOpen h.isOpenMailbox hroom hguard "m" limit, ⟨?_, h.isOpenMailbox, h.capacity, ?_, h.granted,
    fun _ => h.waiting hcount, h.writer, h.hasReader, h.noRoom⟩, List.prefix_append _ _⟩
  · exact h.toCalm.plus rfl rfl (h.toCalm.waiting hlimit _ _)
  · show (c.mailbox.items ++ [_]).length = count + 1
    rw [List.length_append, h.items]
    rfl

theorem Stuffed.hasRoom (h : Stuffed 64 deadline c) : c.mailbox.hasRoom = false := by
  simp [Mailbox.hasRoom, h.items, h.granted, h.capacity]

/-- When the mailbox is full, a request waits for room. -/
theorem Stuffed.queue (h : Stuffed 64 deadline c) (now : Nat) (status : Status) {guarded : Bool}
    (hguard : guarded = true → status = .running) (method : String) (limit : Duration) :
    ∃ c' id, Relation.ReflTransGen (Stir now status) (c.enter (.ask guarded method .absent limit)).1 c' ∧
      Stuffed 64 deadline c' ∧ c'.callers = c.callers ++ [⟨.ask guarded method .absent limit, .queued id⟩] := by
  refine ⟨_, some c.nextId, stirs_queue h.isOpen h.isOpenMailbox h.hasRoom hguard method limit,
    ⟨?_, h.isOpenMailbox, h.capacity, h.items, h.granted, fun hlt => absurd hlt (Nat.lt_irrefl 64), h.writer,
      h.hasReader, h.noRoom⟩, rfl⟩
  refine h.toCalm.plus rfl rfl fun time htime => ⟨h.isOpenMailbox, ?_⟩
  show c.mailbox.granted.contains _ = false
  rw [h.granted]
  rfl

theorem Stuffed.jammed (h : Stuffed 64 deadline c) : c.Jammed :=
  ⟨Nat.le_of_eq (h.capacity.trans h.items.symm), h.writer, h.hasReader, h.noRoom⟩

theorem Stuffed.stepWriter (h : Stuffed count deadline c) : c.stepWriter = none := by
  obtain ⟨b, rest, hw⟩ := h.writer
  simp [Channel.stepWriter, hw, h.hasReader, h.noRoom]

/-- Nobody can go on if the reader cannot. -/
theorem Stuffed.atRest (h : Stuffed count deadline c) (hnow : now < deadline)
    (hr : ∀ status, c.stepReader status = none) : AtRest now c :=
  atRest_of_resting (fun key job stage hc => h.callers key job stage hc now hnow) h.stepWriter hr

/-- Callers alone can fill the pipe and the mailbox. -/
theorem Idle.stuffed (h : Idle deadline c) {now : Nat} {limit : Duration} (hlimit : deadline ≤ now + limit.nanos)
    (status : Status) {guarded : Bool} (hguard : guarded = true → status = .running) :
    ∃ c', Relation.ReflTransGen (Stir now status) c c' ∧ Stuffed 64 deadline c' ∧ c.callers <+: c'.callers := by
  have hfill (count : Nat) (hle : count ≤ 64) :
      ∃ c', Relation.ReflTransGen (Stir now status) c c' ∧ Stuffed count deadline c' ∧ c.callers <+: c'.callers := by
    induction count with
    | zero => exact h.fill hguard hlimit
    | succ count ih =>
      obtain ⟨c', hgo, hs, hcallers⟩ := ih (Nat.le_of_succ_le hle)
      obtain ⟨c'', hgo', hs', hcallers'⟩ := hs.more hle hguard hlimit
      exact ⟨c'', hgo.trans hgo', hs', hcallers.trans hcallers'⟩
  exact hfill 64 (Nat.le_refl 64)

end

end

end Channel

end Attendant

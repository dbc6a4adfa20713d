import Attendant.Proofs.Channel.Traffic
import Mathlib.Algebra.GroupWithZero.Nat
import Mathlib.Logic.Relation

/-!
# When nobody can go on

While time stands still, and neither the worker nor a new caller does anything, everyone comes to rest: each step takes
something off a bound on the steps that can still be made, `Channel.load`. A caller that hands a message over makes
work for the writer, and a byte from the worker makes work for the reader, so both count for more than one step.

* `load_lt_of_step`, `comes_to_rest`: nobody goes on for ever;
* `AtRest.resting`, `atRest_of_resting`: where callers stand when nobody can go on;
* `AtRest.jammed`: whoever waits for room then waits before a full mailbox and a full pipe.
-/

namespace Attendant

/-- A bound on the steps that a caller can still make, and on those that others can make because of it. -/
def Stage.load : Stage → Nat
  | .gate => 80
  | .identify => 70
  | .register _ => 60
  | .verify _ => 50
  | .submit _ => 40
  | .queued _ => 30
  | .waiting _ _ => 20
  | .withdraw _ _ => 10
  | .done _ | .abandoned => 0

/-- The same for the writer, which needs room in the pipe. -/
def WriterTask.load (toWorker : Pipe) : WriterTask → Nat
  | .idle | .ended => 0
  | .writing [] => 1
  | .writing (_ :: _) => if toWorker.room = 0 then 2 else 3

/-- The same for the frame that is being read, when there is nothing more to read. -/
def Frame.Reader.load : Frame.Reader → Nat
  | .header _ (_ :: _) => 5
  | _ => 4

/-- The same for the reader. -/
def ReaderTask.load : ReaderTask → Nat
  | .ended | .stopped => 0
  | .clearing => 1
  | .closing => 2
  | .failing _ => 3
  | .reading reader => reader.load
  | .replying _ _ true => 14
  | .replying _ _ false => 15
  | .dispatching _ _ => 20

namespace Channel

/-- Nobody can go on, whatever the state of the worker. -/
def AtRest (now : Nat) (c : Channel) : Prop := ∀ status label, c.step now status label = none

private theorem stepReader_snd (c : Channel) (status status' : Watched Status) :
    (c.stepReader status).map Prod.snd = (c.stepReader status').map Prod.snd := by
  unfold stepReader
  cases c.reader with
  | reading reader =>
    simp only
    split
    · split <;> rfl
    · split
      · split <;> rfl
      · rfl
  | dispatching reader message =>
    simp only
    split <;> rfl
  | replying reader reply queued =>
    simp only
    split
    · rfl
    · split
      · split <;> rfl
      · split <;> rfl
  | failing reason => rfl
  | closing => rfl
  | clearing => rfl
  | ended => rfl
  | stopped => rfl

/-- What a step needs of the state decides where it leads, not whether it can be made. -/
theorem atRest_of_step {now : Nat} {status : Watched Status} {c : Channel}
    (h : ∀ label, c.step now status label = none) : AtRest now c := by
  intro status' label
  have hnone := h label
  cases label with
  | expire key => exact Option.map_eq_none_iff.2 (Option.map_eq_none_iff.1 hnone)
  | writer => exact Option.map_eq_none_iff.2 (Option.map_eq_none_iff.1 hnone)
  | caller key =>
    refine Option.map_eq_none_iff.2 ?_
    have hnone : c.stepCaller now status.value key = none := Option.map_eq_none_iff.1 hnone
    unfold stepCaller at hnone ⊢
    cases hc : c.callers[key]? with
    | none => rfl
    | some caller =>
      obtain ⟨job, stage⟩ := caller
      cases stage with
      | gate =>
        -- whoever stands at the gate is let in, or refused
        simp only [hc, Option.pure_def, Option.bind_eq_bind, Option.bind_some] at hnone
        repeat' split at hnone
        all_goals cases hnone
      | _ =>
        simp only [hc] at hnone ⊢
        exact hnone
  | reader =>
    have hnone : (c.stepReader status).map Prod.snd = none := Option.map_eq_none_iff.2 hnone
    rw [stepReader_snd c status status'] at hnone
    exact Option.map_eq_none_iff.1 hnone

/-! ### Nobody goes on for ever -/

/-- When one element of a list is changed, the sum over the list changes by as much. -/
theorem sum_map_modify {α : Type} (f : α → Nat) {l : List α} {i : Nat} {a : α} (h : l[i]? = some a) (g : α → α) :
    ((l.modify i g).map f).sum + f a = (l.map f).sum + f (g a) := by
  induction l generalizing i with
  | nil => cases h
  | cons b l ih =>
    cases i with
    | zero =>
      cases h
      simp only [List.modify_zero_cons, List.map_cons, List.sum_cons]
      omega
    | succ i =>
      have hrest := ih (i := i) h
      simp only [List.modify_succ_cons, List.map_cons, List.sum_cons]
      omega

/-- A bound on the steps that anyone can still make while time stands still. -/
def load (c : Channel) : Nat :=
  (c.callers.map fun caller => caller.stage.load).sum + 5 * c.mailbox.items.length + c.writer.load c.toWorker +
    30 * c.fromWorker.bytes.length + c.reader.load

section

variable {now : Nat} {c c' : Channel} {key : Nat} {job : Job}

/-- A caller that goes on takes more off the load than it puts on it by its messages. -/
private theorem load_lt_of_moved (sent : Nat) {before after : Stage} (hc : c.callers[key]? = some ⟨job, before⟩)
    (hcallers : c'.callers = (c.setStage key after).callers)
    (htasks : c'.reader = c.reader ∧ c'.writer = c.writer ∧ c'.toWorker = c.toWorker ∧ c'.fromWorker = c.fromWorker)
    (hitems : c'.mailbox.items.length = c.mailbox.items.length + sent) (hless : after.load + 5 * sent < before.load) :
    c'.load < c.load := by
  have hcaller := sum_map_modify (fun caller => caller.stage.load) hc fun caller => { caller with stage := after }
  rw [show c.callers.modify key _ = c'.callers from hcallers.symm] at hcaller
  obtain ⟨hr, hw, ht, hf⟩ := htasks
  simp only [load, hw, ht, hf, hr] at hcaller ⊢
  omega

private theorem load_lt_of_stepCaller {status : Status} (h : c.stepCaller now status key = some c') :
    c'.load < c.load := by
  obtain ⟨job, before, after, hc, hadvance⟩ := advance_of_stepCaller h
  have hlighter (sent : Nat) := load_lt_of_moved sent hc hadvance.callers hadvance.tasks
  have haccepted (id : Option Nat) : (accepted now job id).load + 5 * 1 < 30 := by
    unfold accepted
    split <;> simp [Stage.load]
  have hrefused (id : Option Nat) : (refused job id).load + 5 * 0 < 30 := by
    unfold refused
    split <;> simp [Stage.load]
  cases hadvance with
  | @shut id _ => exact hlighter 0 rfl (Nat.lt_trans (hrefused id) (by decide : 30 < 40))
  | @send id _ _ => exact hlighter 1 List.length_append (Nat.lt_trans (haccepted id) (by decide : 30 < 40))
  | @leave id _ => exact hlighter 0 (congrArg List.length (Mailbox.items_promote _)) (hrefused id)
  | @redeem id _ _ => exact hlighter 1 List.length_append (haccepted id)
  | _ => exact hlighter 0 rfl (by simp [Stage.load])

private theorem load_lt_of_expire (h : c.expire now key = some c') : c'.load < c.load := by
  unfold expire at h
  cases hc : c.callers[key]? with
  | none => simp [hc] at h
  | some caller =>
    obtain ⟨job, stage⟩ := caller
    simp only [hc, Option.bind_eq_bind, Option.bind_some] at h
    split at h
    · split at h
      · cases h
        exact load_lt_of_moved 0 hc rfl ⟨rfl, rfl, rfl, rfl⟩ rfl (by simp [Stage.load])
      · cases h
    · cases h

private theorem room_write {p : Pipe} {bytes : List UInt8} (h : bytes.drop p.room ≠ []) :
    (p.write bytes).1.room = 0 := by
  have hlong : p.room < bytes.length := by
    by_contra hshort
    exact h (List.drop_eq_nil_of_le (Nat.not_lt.1 hshort))
  simp only [Pipe.write, Pipe.room, List.length_append, List.length_take] at hlong ⊢
  omega

private theorem writer_load_le (p : Pipe) (w : WriterTask) : w.load p ≤ 3 := by
  unfold WriterTask.load
  repeat' split
  all_goals omega

private theorem load_lt_of_stepWriter (h : c.stepWriter = some c') : c'.load < c.load := by
  unfold stepWriter at h
  cases hw : c.writer with
  | idle =>
    simp only [hw] at h
    split at h
    · rename_i message mailbox ht
      obtain ⟨rest, hitems, rfl⟩ := Mailbox.take?_eq_some ht
      cases h
      have hle := writer_load_le c.toWorker (.writing (Frame.encode message))
      simp only [load, hw, hitems, Mailbox.items_promote, List.length_cons]
      omega
    · rename_i mailbox ht
      obtain ⟨rest, hitems, rfl⟩ := Mailbox.take?_eq_some ht
      cases h
      simp only [load, endWriter, hw, hitems, Mailbox.shut, WriterTask.load, List.length_nil, List.length_cons]
      omega
    · cases h
  | ended => simp [hw] at h
  | writing bytes =>
    cases bytes with
    | nil =>
      simp only [hw] at h
      cases h
      simp only [load, hw, WriterTask.load]
      omega
    | cons b rest =>
      simp only [hw] at h
      split at h
      · cases h
        simp only [load, endWriter, hw, Mailbox.shut, WriterTask.load, List.length_nil]
        split <;> omega
      · split at h
        · cases h
        · rename_i hroom
          cases h
          have hless : (WriterTask.writing (c.toWorker.write (b :: rest)).2).load (c.toWorker.write (b :: rest)).1 <
              (WriterTask.writing (b :: rest)).load c.toWorker := by
            cases hrest : (c.toWorker.write (b :: rest)).2 with
            | nil => simp [WriterTask.load, hroom]
            | cons d left =>
              have hfull : (c.toWorker.write (b :: rest)).1.room = 0 := room_write (by
                rw [show (b :: rest).drop c.toWorker.room = d :: left from hrest]
                exact List.cons_ne_nil d left)
              simp [WriterTask.load, hroom, hfull]
          simp only [load, hw]
          omega

private theorem scan_length (r : Frame.Reader) {bytes : List UInt8} (h : bytes ≠ []) :
    (r.scan bytes).2.2.length < bytes.length := by
  have hle (r : Frame.Reader) (bytes : List UInt8) : (r.scan bytes).2.2.length ≤ bytes.length := by
    induction bytes generalizing r with
    | nil => exact Nat.le_refl 0
    | cons b bytes ih =>
      unfold Frame.Reader.scan
      split
      · exact Nat.le_succ_of_le (ih _)
      · exact Nat.le_succ _
  cases bytes with
  | nil => exact absurd rfl h
  | cons b bytes =>
    unfold Frame.Reader.scan
    split
    · exact Nat.lt_succ_of_le (hle _ bytes)
    · exact Nat.lt_succ_self _

private theorem reading_load_le (r : Frame.Reader) : r.load ≤ 5 := by
  unfold Frame.Reader.load
  split <;> omega

private theorem result_load_le (r : Frame.Reader) (result : Frame.Result) : (afterResult r result).load ≤ 20 := by
  cases result <;> simp [afterResult, ReaderTask.load]

/-- At the end of what there is to read, a reader takes what it holds as a whole line, and then it gives a result. -/
private theorem ended_load (r : Frame.Reader) :
    match r.ended with
    | (r', none) => (ReaderTask.reading r').load < (ReaderTask.reading r).load
    | (r', some result) => (afterResult r' result).load < (ReaderTask.reading r).load := by
  cases r with
  | body missing bytes => simp [Frame.Reader.ended, afterResult, ReaderTask.load, Frame.Reader.load]
  | header h line =>
    cases line with
    | nil =>
      cases hs : h.started <;> simp [Frame.Reader.ended, afterResult, ReaderTask.load, Frame.Reader.load, hs]
    | cons b line =>
      simp only [Frame.Reader.ended]
      cases hstep : h.line (b :: line).reverse with
      | more header => simp [Frame.Reader.afterLine, ReaderTask.load, Frame.Reader.load]
      | failed fault => simp [Frame.Reader.afterLine, afterResult, ReaderTask.load, Frame.Reader.load]
      | finished n =>
        cases n with
        | zero =>
          have hclose : Frame.Reader.close [] = .fault .malformedBody := rfl
          simp [Frame.Reader.afterLine, hclose, afterResult, ReaderTask.load, Frame.Reader.load]
        | succ n => simp [Frame.Reader.afterLine, ReaderTask.load, Frame.Reader.load]

/-- What the reader takes off the load, and puts on it by its replies. -/
private theorem load_lt_of_read (sent : Nat) (hcallers : c'.callers = c.callers) (hw : c'.writer = c.writer)
    (ht : c'.toWorker = c.toWorker) (hitems : c'.mailbox.items.length = c.mailbox.items.length + sent)
    (hless : 30 * c'.fromWorker.bytes.length + c'.reader.load + 5 * sent <
      30 * c.fromWorker.bytes.length + c.reader.load) : c'.load < c.load := by
  simp only [load, hcallers, hw, ht]
  omega

private theorem load_lt_of_stepReader {status : Watched Status} {next : Watched Status × Channel}
    (h : c.stepReader status = some next) : next.2.load < c.load := by
  obtain ⟨status', c'⟩ := next
  have hreads : Reads status c status' c' := reads_of_stepReader h
  cases hreads with
  | @scan reader r bytes hr hbytes hscan =>
    have hfewer := scan_length reader hbytes
    have hle := reading_load_le r
    rw [hscan] at hfewer
    refine load_lt_of_read 0 rfl rfl rfl rfl ?_
    simp only [hr, ReaderTask.load] at hfewer ⊢
    omega
  | @result reader r result bytes hr hbytes hscan =>
    have hfewer := scan_length reader hbytes
    have hle := result_load_le r result
    rw [hscan] at hfewer
    refine load_lt_of_read 0 rfl rfl rfl rfl ?_
    simp only [hr] at hfewer ⊢
    omega
  | @line reader r hr hend =>
    have hless := ended_load reader
    rw [hend] at hless
    refine load_lt_of_read 0 rfl rfl rfl rfl ?_
    simp only [hr] at hless ⊢
    omega
  | @last reader r result hr hend =>
    have hless := ended_load reader
    rw [hend] at hless
    refine load_lt_of_read 0 rfl rfl rfl rfl ?_
    simp only [hr] at hless ⊢
    omega
  | @response reader _ body id hr hm =>
    have hle := reading_load_le reader
    obtain ⟨hcallers, -, hmail, hw, ht, hf⟩ := c.resolve_frame id body
    refine load_lt_of_read 0 hcallers hw ht (congrArg (fun m => m.items.length) hmail) ?_
    simp only [hf, hr, ReaderTask.load]
    omega
  | request hr => exact load_lt_of_read 0 rfl rfl rfl rfl (by simp [hr, ReaderTask.load])
  | @skip reader _ hr =>
    have hle := reading_load_le reader
    refine load_lt_of_read 0 rfl rfl rfl rfl ?_
    simp only [hr, ReaderTask.load]
    omega
  | @leave reader reply queued hr =>
    have hle := reading_load_le reader
    refine load_lt_of_read 0 rfl rfl rfl (congrArg List.length (Mailbox.items_promote _)) ?_
    cases queued <;> simp only [hr, ReaderTask.load] <;> omega
  | @redeem reader _ hr | @push reader _ hr =>
    have hle := reading_load_le reader
    refine load_lt_of_read 1 rfl rfl rfl List.length_append ?_
    simp only [hr, ReaderTask.load]
    omega
  | wait hr => exact load_lt_of_read 0 rfl rfl rfl rfl (by simp [hr, ReaderTask.load])
  | fail hr | close hr => exact load_lt_of_read 0 rfl rfl rfl rfl (by simp [hr, ReaderTask.load])
  | clear hr =>
    refine load_lt_of_read 0 rfl rfl rfl rfl ?_
    simp only [hr, ReaderTask.load, Pipe.closeReader, List.length_nil]
    omega

/-- Every step takes something off the load. -/
theorem load_lt_of_step {status : Watched Status} {label : Label} {next : Watched Status × Channel}
    (h : c.step now status label = some next) : next.2.load < c.load := by
  cases label with
  | caller key =>
    obtain ⟨after, hafter, rfl⟩ := Option.map_eq_some_iff.1 h
    exact load_lt_of_stepCaller hafter
  | expire key =>
    obtain ⟨after, hafter, rfl⟩ := Option.map_eq_some_iff.1 h
    exact load_lt_of_expire hafter
  | writer =>
    obtain ⟨after, hafter, rfl⟩ := Option.map_eq_some_iff.1 h
    exact load_lt_of_stepWriter hafter
  | reader => exact load_lt_of_stepReader h

end

/-- A new caller brings no more than its own load. -/
theorem enter_load (c : Channel) (job : Job) : (c.enter job).1.load = c.load + 80 := by
  simp only [load, enter, List.map_append, List.sum_append, List.map_cons, List.map_nil, List.sum_cons, List.sum_nil,
    Stage.load]
  omega

private theorem halted_load_le (c : Channel) : (match c.writer with | .ended => c | _ => endWriter c).load ≤ c.load := by
  split
  · exact Nat.le_refl _
  · simp only [load, endWriter, Mailbox.shut, WriterTask.load, List.length_nil]
    omega

/-- Tasks that are stopped put nothing on the load. -/
theorem abort_load_le (c : Channel) : c.abort.load ≤ c.load := by
  have hreader (c : Channel) : load { c with
      reader := .stopped, fromWorker := c.fromWorker.closeReader, mailbox := c.mailbox.withdraw .reader } ≤ c.load := by
    have hitems : (c.mailbox.withdraw .reader).items = c.mailbox.items := Mailbox.items_promote _
    simp only [load, hitems, Pipe.closeReader, ReaderTask.load, List.length_nil]
    omega
  have hidle := halted_load_le c
  unfold abort
  simp only
  split
  · exact hidle
  · exact hidle
  · exact Nat.le_trans (hreader _) hidle

/-- A step of anyone. -/
def Goes (now : Nat) (c c' : Channel) : Prop := ∃ status status' label, c.step now status label = some (status', c')

/-- While time stands still, everyone comes to rest. -/
theorem comes_to_rest (now : Nat) (c : Channel) : ∃ c', Relation.ReflTransGen (Goes now) c c' ∧ AtRest now c' := by
  induction hload : c.load using Nat.strongRecOn generalizing c with
  | ind load ih =>
    by_cases hrest : AtRest now c
    · exact ⟨c, .refl, hrest⟩
    · simp only [AtRest, not_forall] at hrest
      obtain ⟨status, label, hstep⟩ := hrest
      obtain ⟨⟨status', next⟩, hnext⟩ := Option.ne_none_iff_exists'.1 hstep
      have hless : next.load < c.load := load_lt_of_step hnext
      obtain ⟨c', hgo, hrest'⟩ := ih next.load (by omega) next rfl
      exact ⟨c', .head ⟨status, status', label, hnext⟩ hgo, hrest'⟩

/-! ### How a channel stands at rest -/

/-- The mailbox is full, and the writer is in the middle of a message before a full pipe. The worker has not closed
its input; it reads nothing. -/
structure Jammed (c : Channel) : Prop where
  full : c.mailbox.capacity ≤ c.mailbox.items.length
  writing : ∃ b rest, c.writer = .writing (b :: rest)
  hasReader : c.toWorker.hasReader = true
  noRoom : c.toWorker.room = 0

/-- How a caller stands that cannot go on: it waits for room in the mailbox, or for its response while it has time, or
it has come to its end. -/
def Resting (now : Nat) (c : Channel) (key : Nat) : Stage → Prop
  | .queued _ => c.mailbox.isOpen = true ∧ c.mailbox.isGranted (.caller key) = false
  | .waiting id deadline => c.answers.lookup id = none ∧ id ∈ c.pending ∧ now < deadline
  | .done _ | .abandoned => True
  | _ => False

section

variable {now : Nat} {c : Channel} {key : Nat} {job : Job} {stage : Stage}

private theorem stepCaller_of_atRest (h : AtRest now c) (status : Status) (key : Nat) :
    c.stepCaller now status key = none :=
  Option.map_eq_none_iff.1 (h ⟨status, 0⟩ (.caller key))

/-- A caller that cannot go on is over, waits for room or waits for its response. -/
theorem AtRest.resting (h : AtRest now c) (hc : c.callers[key]? = some ⟨job, stage⟩)
    (hask : ∀ id deadline, stage = .waiting id deadline → job.isAsk = true) : c.Resting now key stage := by
  have hstep := stepCaller_of_atRest h .running key
  have hexpire : c.expire now key = none := Option.map_eq_none_iff.1 (h ⟨.running, 0⟩ (.expire key))
  simp only [stepCaller, hc, Option.pure_def, Option.bind_eq_bind, Option.bind_some] at hstep
  cases stage with
  | gate =>
    simp only at hstep
    repeat' split at hstep
    all_goals cases hstep
  | identify => cases hstep
  | register id => cases hstep
  | verify id => cases hstep
  | submit id =>
    simp only at hstep
    repeat' split at hstep
    all_goals cases hstep
  | queued id =>
    simp only at hstep
    split at hstep
    · cases hstep
    · rename_i hopen
      split at hstep
      · cases hstep
      · rename_i hgranted
        exact ⟨by simpa using hopen, by simpa using hgranted⟩
  | waiting id deadline =>
    simp only at hstep
    split at hstep
    · cases hstep
    · rename_i hlookup
      split at hstep
      · rename_i hid
        refine ⟨hlookup, List.contains_iff_mem.1 hid, ?_⟩
        by_contra hlate
        cases job with
        | ask guarded method params limit =>
          simp only [expire, hc, hlookup, hid, Option.isNone_none, Bool.and_true, Option.pure_def, Option.bind_eq_bind,
            Option.bind_some] at hexpire
          rw [if_pos (by simpa using hlate)] at hexpire
          cases hexpire
        | tell guarded method params => cases hask id deadline rfl
        | finish => cases hask id deadline rfl
      · cases hstep
  | withdraw id fault => cases hstep
  | done outcome => trivial
  | abandoned => trivial

/-- Nobody can go on when no caller can, and neither of the two tasks. -/
theorem atRest_of_resting
    (hcallers : ∀ key job stage, c.callers[key]? = some ⟨job, stage⟩ → c.Resting now key stage)
    (hw : c.stepWriter = none) (hr : ∀ status, c.stepReader status = none) : AtRest now c := by
  have hcaller (status : Status) (key : Nat) : c.stepCaller now status key = none := by
    unfold stepCaller
    cases hc : c.callers[key]? with
    | none => rfl
    | some caller =>
      obtain ⟨job, stage⟩ := caller
      have hrest := hcallers key job stage hc
      cases stage with
      | queued id => simp [hrest.1, hrest.2]
      | waiting id deadline => simp [hrest.1, hrest.2.1]
      | done outcome => rfl
      | abandoned => rfl
      | _ => cases hrest
  have hexpire (key : Nat) : c.expire now key = none := by
    unfold expire
    cases hc : c.callers[key]? with
    | none => rfl
    | some caller =>
      obtain ⟨job, stage⟩ := caller
      have hrest := hcallers key job stage hc
      cases stage with
      | waiting id deadline =>
        have hlate : ¬deadline ≤ now := Nat.not_le.2 hrest.2.2
        cases job <;> simp [hlate]
      | _ => rfl
  intro status label
  cases label with
  | caller key => exact Option.map_eq_none_iff.2 (hcaller status.value key)
  | expire key => exact Option.map_eq_none_iff.2 (hexpire key)
  | writer => exact Option.map_eq_none_iff.2 hw
  | reader => exact hr status

/-- When all callers have come to their end, it is up to the two tasks. -/
theorem atRest_of_over (hcallers : ∀ caller ∈ c.callers, caller.stage.isOver = true) (hw : c.stepWriter = none)
    (hr : ∀ status, c.stepReader status = none) : AtRest now c := by
  refine atRest_of_resting (fun key job stage hc => ?_) hw hr
  have hover := hcallers _ (List.mem_of_getElem? hc)
  cases stage with
  | done outcome => trivial
  | abandoned => trivial
  | _ => cases hover

private theorem granted_eq_nil (h : AtRest now c) (ho : Orderly c) (hopen : c.mailbox.isOpen = true) :
    c.mailbox.granted = [] := by
  refine List.eq_nil_iff_forall_not_mem.2 fun s hs => ?_
  have hgranted : c.mailbox.isGranted s = true := List.contains_iff_mem.2 hs
  have hseated := (ho.mem_iff s).1 (List.mem_append_left _ hs)
  cases s with
  | caller key =>
    obtain ⟨id, hstage⟩ := hseated
    obtain ⟨⟨job, _⟩, hc, rfl⟩ := Option.map_eq_some_iff.1 hstage
    have hstep := stepCaller_of_atRest h .running key
    simp [stepCaller, hc, hopen, hgranted] at hstep
  | reader =>
    obtain ⟨reader, reply, hr⟩ := hseated
    have hstep := h ⟨.running, 0⟩ .reader
    simp [step, stepReader, hr, hopen, hgranted] at hstep

/-- The writer of an open mailbox stands still before a full pipe only, or when the mailbox is empty. -/
private theorem writer_of_atRest (h : AtRest now c) (ho : Orderly c) (hopen : c.mailbox.isOpen = true)
    (hitems : c.mailbox.items ≠ []) :
    (∃ b rest, c.writer = .writing (b :: rest)) ∧ c.toWorker.hasReader = true ∧ c.toWorker.room = 0 := by
  have hstep : c.stepWriter = none := Option.map_eq_none_iff.1 (h ⟨.running, 0⟩ .writer)
  unfold stepWriter at hstep
  cases hw : c.writer with
  | idle =>
    obtain ⟨command, rest, hcons⟩ := List.exists_cons_of_ne_nil hitems
    cases command <;> simp [hw, Mailbox.take?, hcons] at hstep
  | ended =>
    have hshut := ho.shut_iff.2 hw
    rw [hopen] at hshut
    cases hshut
  | writing bytes =>
    cases bytes with
    | nil => simp [hw] at hstep
    | cons b rest =>
      simp only [hw] at hstep
      split at hstep
      · cases hstep
      · rename_i hreader
        split at hstep
        · rename_i hroom
          exact ⟨⟨b, rest, rfl⟩, by simpa using hreader, hroom⟩
        · cases hstep

/-- Whoever waits for room when nobody can go on, waits at a channel that is jammed. -/
theorem AtRest.jammed_of_seated (h : AtRest now c) (ho : Orderly c) (hopen : c.mailbox.isOpen = true) {s : Sender}
    (hs : c.Seated s) : c.Jammed := by
  have hgranted := granted_eq_nil h ho hopen
  have hmem : s ∈ c.mailbox.seats := (ho.mem_iff s).2 hs
  have hwaiting : c.mailbox.waiting ≠ [] := by
    intro hnil
    rw [Mailbox.seats, hgranted, hnil] at hmem
    cases hmem
  have hfull := ho.tight hopen hwaiting
  rw [hgranted, List.length_nil, Nat.add_zero] at hfull
  have hitems : c.mailbox.items ≠ [] := by
    intro hnil
    rw [hnil, ho.capacity] at hfull
    cases hfull
  obtain ⟨hwriting, hreader, hroom⟩ := writer_of_atRest h ho hopen hitems
  exact ⟨hfull, hwriting, hreader, hroom⟩

/-- Whoever waits for room when nobody can go on waits before a jammed channel. -/
theorem AtRest.jammed (h : AtRest now c) (ho : Orderly c) {id : Option Nat} (hs : c.stage? key = some (.queued id))
    (hr : c.Resting now key (.queued id)) : c.Jammed :=
  h.jammed_of_seated ho hr.1 (s := .caller key) ⟨id, hs⟩

/-- Where the reader stands when nobody can go on: it waits for input, or for room for a reply, or it is over. -/
theorem AtRest.reader (h : AtRest now c) :
    (∃ r, c.reader = .reading r ∧ c.fromWorker.bytes = [] ∧ c.fromWorker.hasWriter = true) ∨
      (∃ r reply, c.reader = .replying r reply true ∧ c.mailbox.isOpen = true) ∨ c.reader.isOver = true := by
  have hstep : c.stepReader ⟨.running, 0⟩ = none := h ⟨.running, 0⟩ .reader
  unfold stepReader at hstep
  cases hr : c.reader with
  | reading r =>
    simp only [hr] at hstep
    split at hstep
    · split at hstep <;> cases hstep
    · rename_i hbytes
      split at hstep
      · split at hstep <;> cases hstep
      · rename_i hwriter
        exact Or.inl ⟨r, rfl, by simpa using hbytes, by simpa using hwriter⟩
  | dispatching r message =>
    simp only [hr] at hstep
    split at hstep <;> cases hstep
  | replying r reply queued =>
    simp only [hr] at hstep
    split at hstep
    · cases hstep
    · rename_i hopen
      cases queued with
      | true => exact Or.inr (Or.inl ⟨r, reply, rfl, by simpa using hopen⟩)
      | false =>
        simp only [Bool.false_eq_true, if_false] at hstep
        split at hstep <;> cases hstep
  | failing reason => simp [hr] at hstep
  | closing => simp [hr] at hstep
  | clearing => simp [hr] at hstep
  | ended => exact Or.inr (Or.inr rfl)
  | stopped => exact Or.inr (Or.inr rfl)

end

end Channel

end Attendant

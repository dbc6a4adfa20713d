import Attendant.Log.Position
import Attendant.Proofs.Text.Reading

/-!
# Visits to a log

A visit to a log is a pass over a file that is said to have a size, from `Position.begin` to the end of the pass,
good or bad. Nothing is assumed of the file but that its reads give bytes of its contents (`Answers`); how many at
a time, and whether and where it fails, is open. An `Account` keeps, beside the position and the sink, the bytes
that the visits have taken from the files since the sink was last cleared.

The key facts: one step of a pass keeps the account in order and gets nearer to the end of the pass
(`step_inOrder`), and so the sink shows the reading of the bytes taken after any number of visits
(`Visits.inOrder`).
-/

namespace Attendant.Log

/-! ### Sinks -/

namespace Sink

theorem calls_recordAll (s : Sink) (calls : List SinkCall) :
    (s.recordAll calls).calls = calls.reverse ++ s.calls := by
  induction calls generalizing s with
  | nil => rfl
  | cons call calls ih =>
    change ((s.record call).recordAll calls).calls = _
    rw [ih]
    simp [record]

@[simp] theorem recordAll_nil (s : Sink) : s.recordAll [] = s := rfl

theorem recordAll_append (s : Sink) (calls more : List SinkCall) :
    s.recordAll (calls ++ more) = (s.recordAll calls).recordAll more := List.foldl_append

/-- What is added is shown after what was there. -/
theorem contents_append (s : Sink) (text : String) :
    (s.recordAll [.append text]).contents = s.contents ++ text := by
  change String.join (text :: shown s.calls).reverse = _
  rw [List.reverse_cons, String.join_append]
  simp [contents]

end Sink

/-! ### What a file may answer -/

/-- What a file may answer to a pass: it is in place or not; a read gives some of the bytes from the place on that
the request has come to, at least one if there are any, or it fails. -/
inductive Answers (data : List UInt8) (p : Position) : Pass → FileAnswer → Prop where
  | placed {stop : Nat} : Answers data p (.seeking stop) .placed
  | misplaced {stop : Nat} {fault : IoFault} : Answers data p (.seeking stop) (.failure fault)
  | bytes {stop missing n : Nat} {got : List UInt8} : 0 < n → n ≤ missing →
      Answers data p (.reading stop missing got) (.bytes ((data.drop (p.offset + got.length)).take n))
  | broken {stop missing : Nat} {got : List UInt8} {fault : IoFault} :
      Answers data p (.reading stop missing got) (.failure fault)

/-- The bytes of a file from one offset to another. -/
def segment (data : List UInt8) (start stop : Nat) : List UInt8 := (data.take stop).drop start

/-- A position, the sink that it feeds, and the bytes that have been taken since the sink was last cleared. -/
structure Account where
  position : Position := .start
  sink : Sink := .empty
  taken : List UInt8 := []

/-- The account once the position has moved and the sink has been called. -/
def Account.after (a : Account) (data : List UInt8) (p : Position) (calls : List SinkCall) : Account :=
  { position := p
    sink := a.sink.recordAll calls
    taken := (if SinkCall.clear ∈ calls then [] else a.taken) ++ segment data a.position.offset p.offset }

/-- A pass goes on for some steps, each with an answer that the file may give. -/
inductive Goes (data : List UInt8) : Account → Pass → Account → Pass → Prop where
  | stay (a : Account) (pass : Pass) : Goes data a pass a pass
  | step {a b : Account} {pass last : Pass} {answer : FileAnswer} : Answers data a.position pass answer →
      Goes data (a.after data (pass.step a.position answer).1 (pass.step a.position answer).2.2)
        (pass.step a.position answer).2.1 b last →
      Goes data a pass b last

/-- A file when it is visited: the size that it is said to have, and its contents. -/
structure Visit where
  size : Nat
  data : List UInt8

/-- A visit leads from one account to another if its pass goes on to an end, good or bad. -/
def Visit.Leads (v : Visit) (a b : Account) (last : Pass) : Prop :=
  Goes v.data (a.after v.data (a.position.begin v.size).2.1 (a.position.begin v.size).2.2.2)
    (a.position.begin v.size).2.2.1 b last ∧ last.isOver = true

/-- The accounts that some visits, one after the other, lead to. -/
inductive Visits : List Visit → Account → Prop where
  | none : Visits [] {}
  | more {visits : List Visit} {v : Visit} {a b : Account} {last : Pass} :
      Visits visits a → v.Leads a b last → Visits (visits ++ [v]) b

/-! ### What every step keeps -/

/-- An account is in order if the sink shows the reading of the bytes taken, what is cut off at their end is held,
and the offset is their number. -/
structure Account.InOrder (a : Account) : Prop where
  reading : Utf8.Reading a.taken a.sink.contents.toList a.position.held
  taken_length : a.taken.length = a.position.offset
  offset_le : a.position.offset ≤ a.position.size

theorem Account.inOrder_start : ({} : Account).InOrder :=
  ⟨.cut Utf8.begun_nil, rfl, Nat.le_refl _⟩

/-- Whether a pass may stand where it does: it goes up to the size known, the bytes of the request under way come
one after the other from the offset on, and it has ended only at the size or at the end of the file. -/
def Pass.Fits (data : List UInt8) (p : Position) : Pass → Prop
  | .seeking stop => stop = p.size
  | .reading stop missing got =>
    stop = p.size ∧ got.reverse <+: data.drop p.offset ∧ 0 < missing ∧ p.offset + got.length + missing ≤ p.size
  | .ended => p.offset = p.size ∨ data.length ≤ p.offset
  | .failed _ => True

/-- How many steps a pass can still take at most. -/
def Pass.remaining (data : List UInt8) (p : Position) : Pass → Nat
  | .seeking _ => 2 * (data.length - p.offset) + 3
  | .reading _ _ got => 2 * (data.length - (p.offset + got.length)) + if got = [] then 1 else 2
  | _ => 0

theorem fits_request {data : List UInt8} {p : Position} (h : p.offset ≤ p.size) :
    (p.request p.size).Fits data p := by
  unfold Position.request
  split
  · refine ⟨rfl, List.nil_prefix, ?_, ?_⟩
    · simp only [chunkBytes]
      omega
    · simp only [List.length_nil]
      omega
  · exact Or.inl (by omega)

private theorem remaining_request (data : List UInt8) (p : Position) :
    (p.request p.size).remaining data p ≤ 2 * (data.length - p.offset) + 1 := by
  unfold Position.request
  split
  · simp [Pass.remaining]
  · exact Nat.zero_le _

/-- A read that gives bytes, no more than were asked for, adds them to the request. -/
theorem step_bytes (p : Position) (stop : Nat) {missing : Nat} {got chunk : List UInt8} (hne : chunk ≠ [])
    (hle : chunk.length ≤ missing) :
    Pass.step p (.reading stop missing got) (.bytes chunk) =
      if missing ≤ chunk.length then Pass.endRequest p stop (chunk.reverse ++ got)
      else (p, .reading stop (missing - chunk.length) (chunk.reverse ++ got), []) := by
  obtain ⟨x, xs, rfl⟩ := List.exists_cons_of_ne_nil hne
  simp only [Pass.step, List.take_of_length_le hle, List.reverseAux_eq]

/-- What comes next in a list goes on with what came first. -/
theorem append_prefix_of_drop {got chunk bs : List UInt8} (hg : got <+: bs)
    (hc : chunk <+: bs.drop got.length) :
    got ++ chunk <+: bs := by
  obtain ⟨rest, rfl⟩ := hg
  rw [List.drop_left] at hc
  exact (List.prefix_append_right_inj _).2 hc

/-- One step of a pass: it goes on with nothing shown, or a request is over and its bytes are absorbed. -/
theorem step_cases {data : List UInt8} {p : Position} {pass : Pass} {answer : FileAnswer} (hp : p.offset ≤ p.size)
    (hf : pass.Fits data p) (ha : Answers data p pass answer) :
    (∃ next, pass.step p answer = (p, next, []) ∧ next.Fits data p ∧
      next.remaining data p < pass.remaining data p) ∨
    (∃ got, got.reverse <+: data.drop p.offset ∧ p.offset + got.length ≤ p.size ∧
      pass.step p answer = Pass.endRequest p p.size got ∧
      2 * (data.length - (p.offset + got.length)) + 1 < pass.remaining data p) := by
  cases ha with
  | placed =>
    left
    obtain rfl := hf
    refine ⟨_, rfl, fits_request hp, ?_⟩
    have := remaining_request data p
    change _ < 2 * (data.length - p.offset) + 3
    omega
  | misplaced => exact Or.inl ⟨_, rfl, trivial, by simp [Pass.remaining]⟩
  | broken =>
    refine Or.inl ⟨_, rfl, trivial, ?_⟩
    simp only [Pass.remaining]
    split <;> omega
  | @bytes stop missing n got hn hm =>
    obtain ⟨rfl, hg, hpos, hle⟩ := hf
    generalize hc : (data.drop (p.offset + got.length)).take n = chunk
    have hlen : chunk.length = min n (data.length - (p.offset + got.length)) := by simp [← hc]
    by_cases hne : chunk = []
    · -- the file has no more: the request is over, or there was nothing to ask for
      subst hne
      rw [List.length_nil] at hlen
      by_cases hgot : got = []
      · subst hgot
        left
        refine ⟨.ended, rfl, Or.inr ?_, ?_⟩
        · simp only [List.length_nil] at hlen
          omega
        · simp [Pass.remaining]
      · right
        refine ⟨got, hg, by omega, ?_, ?_⟩
        · simp [Pass.step, hgot]
        · simp [Pass.remaining, hgot]
    · have hpos' : 0 < chunk.length := List.length_pos_iff.2 hne
      have hgot : (chunk.reverse ++ got).reverse <+: data.drop p.offset := by
        rw [List.reverse_append, List.reverse_reverse]
        apply append_prefix_of_drop hg
        rw [List.length_reverse, List.drop_drop, ← hc]
        exact List.take_prefix _ _
      have hgl : (chunk.reverse ++ got).length = chunk.length + got.length := by simp
      have hcons : chunk.reverse ++ got ≠ [] := by simp [hne]
      have hrest : 2 * (data.length - (p.offset + (chunk.reverse ++ got).length)) + 2 <
          Pass.remaining data p (.reading p.size missing got) := by
        simp only [Pass.remaining]
        split <;> omega
      rw [step_bytes p p.size hne (by omega)]
      split
      · exact Or.inr ⟨_, hgot, by omega, rfl, by omega⟩
      · left
        refine ⟨_, rfl, ⟨rfl, hgot, by omega, by omega⟩, ?_⟩
        simp only [Pass.remaining, hcons, if_false] at hrest ⊢
        exact hrest


@[simp] theorem segment_self (data : List UInt8) (n : Nat) : segment data n n = [] := by
  simp [segment]

theorem after_self (a : Account) (data : List UInt8) : a.after data a.position [] = a := by
  simp [Account.after]

/-- The bytes that a request has got are the segment that the offset moves over. -/
private theorem segment_of_prefix {data bytes : List UInt8} {n : Nat} (h : bytes <+: data.drop n) :
    segment data n (n + bytes.length) = bytes := by
  rw [segment, List.drop_take, Nat.add_sub_cancel_left]
  exact (List.prefix_iff_eq_take.1 h).symm

private theorem absorb_eq (p : Position) (bytes : List UInt8) :
    ∃ texts : List String, p.absorb bytes =
      ({ p with offset := p.offset + bytes.length, held := (Utf8.decode p.held bytes).2 }, texts.map .append) ∧
      (String.join texts).toList = (Utf8.decode p.held bytes).1 := by
  unfold Position.absorb
  cases ht : (Utf8.decode p.held bytes).1 with
  | nil => exact ⟨[], by simp [ht], rfl⟩
  | cons c cs => exact ⟨[String.ofList (c :: cs)], by simp [ht], by simp⟩

private theorem contents_appends (s : Sink) (texts : List String) :
    (s.recordAll (texts.map .append)).contents = s.contents ++ String.join texts := by
  induction texts generalizing s with
  | nil => simp
  | cons text texts ih =>
    change ((s.recordAll [.append text]).recordAll (texts.map .append)).contents = _
    rw [ih, Sink.contents_append, String.join_cons, String.append_assoc]

theorem clear_not_mem_appends (texts : List String) : SinkCall.clear ∉ texts.map SinkCall.append := by
  simp

/-- Absorbing the bytes of a request keeps the account in order. -/
theorem Account.InOrder.absorb {a : Account} (h : a.InOrder) {data bytes : List UInt8}
    (hb : bytes <+: data.drop a.position.offset) (hle : a.position.offset + bytes.length ≤ a.position.size) :
    (a.after data (a.position.absorb bytes).1 (a.position.absorb bytes).2).InOrder := by
  obtain ⟨texts, habs, htexts⟩ := absorb_eq a.position bytes
  have hread := Utf8.reading_iff.1 h.reading
  have htaken : (a.after data (a.position.absorb bytes).1 (a.position.absorb bytes).2).taken = a.taken ++ bytes := by
    simp [Account.after, habs, segment_of_prefix hb]
  constructor
  · rw [Utf8.reading_iff, htaken, Utf8.decode_append, hread]
    simp [Account.after, habs, contents_appends, htexts]
  · rw [htaken, List.length_append, h.taken_length, habs]
    rfl
  · rw [habs]
    exact hle

/-- One step of a pass over an account in order. -/
theorem step_inOrder {data : List UInt8} {a : Account} {pass : Pass} {answer : FileAnswer} (h : a.InOrder)
    (hf : pass.Fits data a.position) (ha : Answers data a.position pass answer) :
    ∃ (p : Position) (next : Pass) (texts : List String),
      pass.step a.position answer = (p, next, texts.map .append) ∧
      (a.after data p (texts.map .append)).InOrder ∧ next.Fits data p ∧ p.size = a.position.size ∧
      next.remaining data p < pass.remaining data a.position := by
  rcases step_cases h.offset_le hf ha with ⟨next, hs, hn, hr⟩ | ⟨got, hg, hle, hs, hr⟩
  · refine ⟨a.position, next, [], hs, ?_, hn, rfl, hr⟩
    rw [List.map_nil, after_self]
    exact h
  · obtain ⟨texts, habs, -⟩ := absorb_eq a.position got.reverse
    have hin := h.absorb hg (by rw [List.length_reverse]; exact hle)
    simp only [Pass.endRequest, habs, List.length_reverse] at hs hin ⊢
    refine ⟨_, _, texts, hs, hin, fits_request hle, rfl, ?_⟩
    refine Nat.lt_of_le_of_lt (remaining_request data { a.position with
      offset := a.position.offset + got.length, held := (Utf8.decode a.position.held got.reverse).2 }) hr

/-! ### What a whole visit keeps -/

/-- A pass over an account in order keeps it in order, and adds to the sink without clearing it. -/
theorem Goes.inOrder {data : List UInt8} {a b : Account} {pass last : Pass} (hg : Goes data a pass b last)
    (h : a.InOrder) (hf : pass.Fits data a.position) :
    b.InOrder ∧ last.Fits data b.position ∧ b.position.size = a.position.size ∧
      ∃ texts : List String, b.sink.calls = (texts.map .append).reverse ++ a.sink.calls := by
  induction hg with
  | stay => exact ⟨h, hf, rfl, [], rfl⟩
  | @step a b pass last answer ha _ ih =>
    obtain ⟨p, next, texts, hs, hin, hn, hsize, -⟩ := step_inOrder h hf ha
    rw [hs] at ih
    obtain ⟨hb, hl, hbs, more, hcalls⟩ := ih hin hn
    refine ⟨hb, hl, hbs.trans hsize, texts ++ more, ?_⟩
    rw [hcalls]
    simp [Account.after, Sink.calls_recordAll]

/-- The beginning of a visit: the size is known, and a sink that has shown more than that is cleared. -/
theorem begin_inOrder (data : List UInt8) {a : Account} (h : a.InOrder) (size : Nat) :
    ∃ (p : Position) (pass : Pass),
      (a.position.begin size).2 = (p, pass, if size < a.position.offset then [.clear] else []) ∧
      (a.after data p (if size < a.position.offset then [.clear] else [])).InOrder ∧ pass.Fits data p ∧
      p.size = size ∧ p.offset = (if size < a.position.offset then 0 else a.position.offset) := by
  unfold Position.begin Position.diff
  by_cases h1 : size < a.position.offset
  · have htaken : (a.after data { size := size } [.clear]).taken = [] := by simp [Account.after, segment]
    simp only [h1, if_true]
    refine ⟨_, _, rfl, ⟨?_, congrArg List.length htaken, Nat.zero_le _⟩, rfl, rfl, rfl⟩
    rw [htaken]
    exact .cut Utf8.begun_nil
  · have hsame : (a.after data { a.position with size } []).InOrder := by
      refine ⟨?_, ?_, Nat.le_of_not_lt h1⟩
      · simpa [Account.after] using h.reading
      · simpa [Account.after] using h.taken_length
    simp only [h1, if_false]
    by_cases h2 : a.position.offset < size
    · simp only [h2, if_true]
      exact ⟨_, _, rfl, hsame, rfl, rfl, rfl⟩
    · simp only [h2, if_false]
      exact ⟨_, _, rfl, hsame, Or.inl (by change a.position.offset = size; omega), rfl, rfl⟩


/-- A visit to a log: the account is in order at its end as it was before, and the sink has been cleared once,
before anything else, if the size was less than what had been read, and not at all otherwise. -/
theorem Visit.Leads.inOrder {v : Visit} {a b : Account} {last : Pass} (hv : v.Leads a b last) (h : a.InOrder) :
    b.InOrder ∧ last.Fits v.data b.position ∧ b.position.size = v.size ∧
      ∃ texts : List String, b.sink.calls =
        (texts.map .append).reverse ++ (if v.size < a.position.offset then [.clear] else []) ++ a.sink.calls := by
  obtain ⟨p, pass, hbegin, hin, hf, hsize, -⟩ := begin_inOrder v.data h v.size
  have hg := hv.1
  rw [hbegin] at hg
  obtain ⟨hb, hl, hbs, texts, hcalls⟩ := hg.inOrder hin hf
  refine ⟨hb, hl, hbs.trans hsize, texts, ?_⟩
  rw [hcalls, List.append_assoc]
  simp only [Account.after, Sink.calls_recordAll]
  congr 2
  split <;> rfl

/-- Every account that visits lead to is in order. -/
theorem Visits.inOrder {visits : List Visit} {a : Account} (h : Visits visits a) : a.InOrder := by
  induction h with
  | none => exact Account.inOrder_start
  | more _ hv ih => exact (hv.inOrder ih).1

end Attendant.Log

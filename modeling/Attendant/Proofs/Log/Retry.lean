import Attendant.Proofs.Log.Visits
import Mathlib.Logic.Relation

/-!
# Visits that fail and are made again

A request that fails loses its bytes, and nothing else: the position stands where the last whole request has ended,
and the next visit asks for the same bytes once more. A sink that has been cleared is not cleared again, because the
position has been set back before. So it does not matter how often a visit is broken off before it succeeds.

* `Account.finish` is what is left to be done, in whole requests, up to the size known;
* `Goes.finish_eq`: no step of a pass changes what it comes to in the end, not even one that fails;
* `Visit.retried`: some visits that fail, and one that succeeds, come to what a single one comes to.
-/

namespace Attendant.Log

/-- The bytes of the next request, if it comes whole. -/
def Position.ahead (p : Position) (data : List UInt8) : List UInt8 :=
  (data.drop p.offset).take (min (p.size - p.offset) chunkBytes)

/-- The account once the bytes of a request have been absorbed. -/
def Account.absorbed (a : Account) (data bytes : List UInt8) : Account :=
  a.after data (a.position.absorb bytes).1 (a.position.absorb bytes).2

/-- The account at the start of the pass of a visit. -/
def Account.begun (a : Account) (v : Visit) : Account :=
  a.after v.data (a.position.begin v.size).2.1 (a.position.begin v.size).2.2.2

/-- The account once all requests up to the size known have come whole. -/
def Account.finish (data : List UInt8) (a : Account) : Account :=
  if a.position.ahead data = [] then a else (a.absorbed data (a.position.ahead data)).finish data
termination_by a.position.size - a.position.offset
decreasing_by
  rename_i hne
  have hpos : 0 < (a.position.ahead data).length := List.length_pos_iff.2 hne
  have hle : (a.position.ahead data).length ≤ a.position.size - a.position.offset := by
    simp only [Position.ahead, List.length_take]
    omega
  simp only [Account.absorbed, Account.after, Position.absorb]
  omega

/-- A visit fails. -/
def Visit.Fails (v : Visit) (a b : Account) : Prop := ∃ fault, v.Leads a b (.failed fault)

/-- Whether a pass may stand where it does: its request asks for all that one request can ask for, and what has come of
it is what the file has there. It has ended where nothing is left to ask for. -/
def Pass.Asks (data : List UInt8) (p : Position) : Pass → Prop
  | .seeking stop => stop = p.size
  | .reading stop missing got => stop = p.size ∧ got.reverse <+: data.drop p.offset ∧ 0 < missing ∧
      got.length + missing = min (p.size - p.offset) chunkBytes
  | .ended => p.ahead data = []
  | .failed _ => True

section

variable {data : List UInt8} {a b c : Account} {p : Position} {pass last : Pass}

private theorem asks_request (data : List UInt8) (p : Position) : (p.request p.size).Asks data p := by
  unfold Position.request
  split
  · refine ⟨rfl, List.nil_prefix, ?_, Nat.zero_add _⟩
    simp only [chunkBytes]
    omega
  · have hnone : p.size - p.offset = 0 := by omega
    simp [Pass.Asks, Position.ahead, hnone]

/-! ### One step -/

private theorem ahead_of_full {got : List UInt8} (hg : got.reverse <+: data.drop p.offset)
    (hlen : got.length = min (p.size - p.offset) chunkBytes) : p.ahead data = got.reverse := by
  rw [List.prefix_iff_eq_take.1 hg, List.length_reverse, hlen]
  rfl

private theorem ahead_of_end {got : List UInt8} (hg : got.reverse <+: data.drop p.offset)
    (hlen : got.length ≤ min (p.size - p.offset) chunkBytes) (hend : data.length ≤ p.offset + got.length) :
    p.ahead data = got.reverse := by
  have hall : got.reverse = data.drop p.offset := by
    refine hg.eq_of_length_le ?_
    rw [List.length_drop, List.length_reverse]
    omega
  rw [Position.ahead, ← hall, List.take_of_length_le]
  rwa [List.length_reverse]

/-- To absorb the bytes ahead is the first thing that is left to be done. -/
private theorem finish_absorbed {bytes : List UInt8} (hne : bytes ≠ []) (h : a.position.ahead data = bytes) :
    (a.absorbed data bytes).finish data = a.finish data := by
  conv => rhs; rw [Account.finish, h, if_neg hne]

private theorem finish_of_nothing (h : a.position.ahead data = []) : a.finish data = a := by
  rw [Account.finish, if_pos h]

/-- A request that is over goes on with the next one, and has changed nothing of what it comes to in the end. -/
private theorem asks_endRequest {got : List UInt8} (hne : got ≠ []) (h : a.position.ahead data = got.reverse)
    (hlen : a.position.offset + got.length ≤ a.position.size) :
    ∃ q next calls, Pass.endRequest a.position a.position.size got = (q, next, calls) ∧ next.Asks data q ∧
      q.size = a.position.size ∧ q.offset ≤ q.size ∧ (a.after data q calls).finish data = a.finish data := by
  have hsize : (a.position.absorb got.reverse).1.size = a.position.size := rfl
  have hoffset : (a.position.absorb got.reverse).1.offset = a.position.offset + got.length := by
    simp [Position.absorb]
  refine ⟨_, _, _, rfl, ?_, hsize, ?_, ?_⟩
  · rw [← hsize]
    exact asks_request data _
  · exact Nat.le_trans (Nat.le_of_eq hoffset) hlen
  · exact finish_absorbed (List.reverse_ne_nil_iff.2 hne) h

/-- One step of a pass, whether it fails or not, changes nothing of what the pass comes to in the end. -/
theorem asks_step {answer : FileAnswer} (hle : a.position.offset ≤ a.position.size) (h : pass.Asks data a.position)
    (ha : Answers data a.position pass answer) :
    ∃ q next calls, pass.step a.position answer = (q, next, calls) ∧ next.Asks data q ∧
      q.size = a.position.size ∧ q.offset ≤ q.size ∧ (a.after data q calls).finish data = a.finish data := by
  have hsame {next : Pass} (hs : pass.step a.position answer = (a.position, next, []))
      (hn : next.Asks data a.position) : ∃ q next calls, pass.step a.position answer = (q, next, calls) ∧
        next.Asks data q ∧ q.size = a.position.size ∧ q.offset ≤ q.size ∧
        (a.after data q calls).finish data = a.finish data :=
    ⟨_, _, _, hs, hn, rfl, hle, by rw [after_self]⟩
  cases ha with
  | placed =>
    obtain rfl := h
    exact hsame rfl (asks_request data _)
  | misplaced => exact hsame rfl trivial
  | broken => exact hsame rfl trivial
  | @bytes stop missing n got hn hm =>
    obtain ⟨rfl, hg, hpos, hask⟩ := h
    generalize hc : (data.drop (a.position.offset + got.length)).take n = chunk at hsame ⊢
    have hlen : chunk.length = min n (data.length - (a.position.offset + got.length)) := by simp [← hc]
    by_cases hne : chunk = []
    · -- the file has no more
      subst hne
      rw [List.length_nil] at hlen
      have hahead := ahead_of_end hg (by omega) (by omega)
      by_cases hgot : got = []
      · subst hgot
        exact hsame rfl hahead
      · have hs : Pass.step a.position (.reading a.position.size missing got) (.bytes []) =
            Pass.endRequest a.position a.position.size got := by
          simp [Pass.step, hgot]
        rw [hs]
        exact asks_endRequest hgot hahead (by omega)
    · have hg' : (chunk.reverse ++ got).reverse <+: data.drop a.position.offset := by
        rw [List.reverse_append, List.reverse_reverse]
        apply append_prefix_of_drop hg
        rw [List.length_reverse, List.drop_drop, ← hc]
        exact List.take_prefix _ _
      have hgl : (chunk.reverse ++ got).length = chunk.length + got.length := by simp
      have hle : chunk.length ≤ missing := by omega
      have hstep := @step_bytes a.position a.position.size missing got chunk hne hle
      by_cases hfull : missing ≤ chunk.length
      · rw [if_pos hfull] at hstep
        rw [hstep]
        exact asks_endRequest (by simp [hne]) (ahead_of_full hg' (by omega)) (by omega)
      · rw [if_neg hfull] at hstep
        exact hsame hstep ⟨rfl, hg', by omega, by omega⟩

/-! ### A whole pass -/

/-- What a pass comes to in the end stays the same from its first step to its last. -/
theorem Goes.finish_eq (hg : Goes data a pass b last) (hle : a.position.offset ≤ a.position.size)
    (h : pass.Asks data a.position) :
    last.Asks data b.position ∧ b.position.size = a.position.size ∧ b.position.offset ≤ b.position.size ∧
      b.finish data = a.finish data := by
  induction hg with
  | stay => exact ⟨h, rfl, hle, rfl⟩
  | @step a b pass last answer ha _ ih =>
    obtain ⟨q, next, calls, hs, hn, hsize, hle', hfinish⟩ := asks_step hle h ha
    rw [hs] at ih
    obtain ⟨hlast, hbs, hble, hb⟩ := ih hle' hn
    exact ⟨hlast, hbs.trans hsize, hble, hb.trans hfinish⟩

private theorem goes_request (data : List UInt8) (a : Account) :
    Goes data a (a.position.request a.position.size) (a.finish data) .ended := by
  induction a using Account.finish.induct data with
  | case1 a hnone =>
    rw [finish_of_nothing hnone]
    unfold Position.request
    split
    · -- nothing is ahead although something is asked for: the file has no more
      have hend : data.drop a.position.offset = [] := by
        have hpos : min (a.position.size - a.position.offset) chunkBytes ≠ 0 := by
          simp only [chunkBytes]
          omega
        exact (List.take_eq_nil_iff.1 hnone).resolve_left hpos
      have hbytes : (data.drop (a.position.offset + ([] : List UInt8).length)).take 1 = [] := by simp [hend]
      refine .step (.bytes (n := 1) Nat.one_pos ?_) ?_
      · simp only [chunkBytes]
        omega
      · rw [hbytes]
        simp only [Pass.step, List.isEmpty_nil, if_true, after_self]
        exact .stay a .ended
    · exact .stay a .ended
  | case2 a hsome ih =>
    have hlen : (a.position.ahead data).length =
        min (min (a.position.size - a.position.offset) chunkBytes) (data.length - a.position.offset) := by
      simp [Position.ahead]
    have hpos := List.length_pos_iff.2 hsome
    have hlt : a.position.offset < a.position.size := by omega
    generalize hwant : min (a.position.size - a.position.offset) chunkBytes = want at hlen
    have hahead : (data.drop (a.position.offset + ([] : List UInt8).length)).take want = a.position.ahead data := by
      rw [Position.ahead, hwant, List.length_nil, Nat.add_zero]
    rw [Account.finish, if_neg hsome, Position.request, if_pos hlt, hwant]
    have hrest : Goes data (a.absorbed data (a.position.ahead data))
        (Pass.endRequest a.position a.position.size (a.position.ahead data).reverse).2.1
        ((a.absorbed data (a.position.ahead data)).finish data) .ended := by
      simp only [Pass.endRequest, List.reverse_reverse]
      exact ih
    have habsorbed : a.after data (Pass.endRequest a.position a.position.size (a.position.ahead data).reverse).1
        (Pass.endRequest a.position a.position.size (a.position.ahead data).reverse).2.2 =
        a.absorbed data (a.position.ahead data) := by
      simp [Pass.endRequest, Account.absorbed]
    have hstep := @step_bytes a.position a.position.size want [] _ hsome (by omega)
    rw [List.append_nil] at hstep
    refine .step (.bytes (n := want) (by omega) (Nat.le_refl _)) ?_
    rw [hahead, hstep]
    by_cases hfull : want ≤ (a.position.ahead data).length
    · rw [if_pos hfull, habsorbed]
      exact hrest
    · -- the request has got all that there is, and one more read finds nothing
      rw [if_neg hfull]
      have hend : data.drop (a.position.offset + (a.position.ahead data).reverse.length) = [] := by
        rw [List.length_reverse, List.drop_eq_nil_iff]
        omega
      simp only [after_self]
      refine .step (.bytes (n := 1) Nat.one_pos (by omega)) ?_
      have hlast : Pass.step a.position
          (.reading a.position.size (want - (a.position.ahead data).length) (a.position.ahead data).reverse)
          (.bytes []) = Pass.endRequest a.position a.position.size (a.position.ahead data).reverse := by
        simp [Pass.step, hsome]
      rw [hend, List.take_nil, hlast, habsorbed]
      exact hrest

end

/-! ### Visits -/

section

variable {v : Visit} {a b c : Account} {last : Pass}

private theorem begin_asks (v : Visit) (a : Account) :
    (a.begun v).position.size = v.size ∧ (a.begun v).position.offset ≤ v.size ∧
      (a.position.begin v.size).2.2.1.Asks v.data (a.begun v).position ∧
      Goes v.data (a.begun v) (a.position.begin v.size).2.2.1 ((a.begun v).finish v.data) .ended := by
  have hseek (b : Account) : Goes v.data b (.seeking b.position.size) (b.finish v.data) .ended := by
    refine .step .placed ?_
    simp only [Pass.step, after_self]
    exact goes_request v.data b
  unfold Account.begun Position.begin Position.diff
  by_cases h1 : v.size < a.position.offset
  · simp only [h1, if_true]
    exact ⟨rfl, Nat.zero_le _, rfl, hseek _⟩
  · simp only [h1, if_false]
    by_cases h2 : a.position.offset < v.size
    · simp only [h2, if_true]
      exact ⟨rfl, Nat.le_of_lt h2, rfl, hseek _⟩
    · simp only [h2, if_false]
      have hnone : ({ a.position with size := v.size } : Position).ahead v.data = [] := by
        have hzero : v.size - a.position.offset = 0 := by omega
        simp [Position.ahead, hzero]
      refine ⟨rfl, Nat.le_of_not_lt h1, hnone, ?_⟩
      rw [finish_of_nothing hnone]
      exact .stay _ _

/-- A visit to a file that has just been found to have this size begins with nothing. -/
private theorem begun_again (hsize : a.position.size = v.size) (hle : a.position.offset ≤ v.size) :
    a.begun v = a := by
  have hsame : ({ a.position with size := v.size } : Position) = a.position := by rw [← hsize]
  unfold Account.begun Position.begin Position.diff
  rw [if_neg (Nat.not_lt.2 hle)]
  by_cases h : a.position.offset < v.size
  · simp only [h, if_true, hsame, after_self]
  · simp only [h, if_false, hsame, after_self]

/-- What a visit leaves to be done is what it has begun with, and nothing if it has succeeded. -/
theorem Visit.Leads.finish_eq (h : v.Leads a b last) :
    b.begun v = b ∧ b.finish v.data = (a.begun v).finish v.data ∧ (last = .ended → b.finish v.data = b) := by
  obtain ⟨hsize, hle, hasks, -⟩ := begin_asks v a
  obtain ⟨hlast, hbs, hble, hfinish⟩ := Goes.finish_eq h.1 (Nat.le_trans hle (Nat.le_of_eq hsize.symm)) hasks
  have hbsize : b.position.size = v.size := hbs.trans hsize
  refine ⟨begun_again hbsize (hbsize ▸ hble), hfinish, ?_⟩
  rintro rfl
  exact finish_of_nothing hlast

/-- A visit can succeed, and then it has only one end. -/
theorem Visit.leads_ended_iff : v.Leads a b .ended ↔ b = (a.begun v).finish v.data := by
  constructor
  · intro h
    obtain ⟨-, hfinish, hended⟩ := h.finish_eq
    rw [← hfinish, hended rfl]
  · rintro rfl
    exact ⟨(begin_asks v a).2.2.2, rfl⟩

/-- Visits that fail leave to be done what they have begun with. -/
private theorem finish_of_fails (h : Relation.ReflTransGen v.Fails a b) :
    (b.begun v).finish v.data = (a.begun v).finish v.data := by
  induction h with
  | refl => rfl
  | tail _ hfails ih =>
    obtain ⟨fault, hleads⟩ := hfails
    obtain ⟨hagain, hfinish, -⟩ := hleads.finish_eq
    rw [hagain, hfinish, ih]

/-- A file is visited again and again, with the same contents and the same size, and the visits fail: the file is not
in its place, or some read of some request fails, with whatever the reads before it have given. Then a visit can still
succeed, with reads of any lengths, and however it does, all of them together have come to what a single visit comes
to that succeeds, with reads of any lengths too: the same calls of the sink in the same order, the same offset, size
and held bytes, and the same bytes taken. -/
theorem Visit.retried (h : Relation.ReflTransGen v.Fails a b) :
    (∃ c, v.Leads b c .ended) ∧
      ∀ c, v.Leads b c .ended → v.Leads a c .ended ∧ ∀ single, v.Leads a single .ended →
        c.sink.calls = single.sink.calls ∧ c.position = single.position ∧ c.taken = single.taken := by
  refine ⟨⟨_, Visit.leads_ended_iff.2 rfl⟩, fun c hc => ?_⟩
  have hend : c = (a.begun v).finish v.data := by rw [Visit.leads_ended_iff.1 hc, finish_of_fails h]
  refine ⟨Visit.leads_ended_iff.2 hend, fun single hsingle => ?_⟩
  obtain rfl : c = single := hend.trans (Visit.leads_ended_iff.1 hsingle).symm
  exact ⟨rfl, rfl, rfl⟩

end

/-- A file that has become shorter: the sink is cleared, the first read gives a part of a character, and the second one
fails. Then the file is not in its place. The third visit shows the character, and does not clear the sink again. -/
theorem retried_after_clear :
    let v : Visit := ⟨2, [0xC3, 0xA9]⟩
    let a : Account := ⟨⟨3, 3, []⟩, ⟨[.append "abc"]⟩, [0x61, 0x62, 0x63]⟩
    let b : Account := ⟨⟨0, 2, []⟩, ⟨[.clear, .append "abc"]⟩, []⟩
    let c : Account := ⟨⟨2, 2, []⟩, ⟨[.append "é", .clear, .append "abc"]⟩, [0xC3, 0xA9]⟩
    Relation.ReflTransGen v.Fails a b ∧ v.Leads b c .ended ∧ v.Leads a c .ended := by
  intro v a b c
  have broken : v.Fails a b :=
    ⟨⟨"Other", "injected"⟩,
      .step .placed (.step (.bytes (n := 1) (by decide) (by decide)) (.step .broken (.stay _ _))), rfl⟩
  have misplaced : v.Fails b b := ⟨⟨"Other", "injected seek"⟩, .step .misplaced (.stay _ _), rfl⟩
  have fails : Relation.ReflTransGen v.Fails a b := .tail (.single broken) misplaced
  have hc : v.Leads b c .ended :=
    ⟨.step .placed (.step (.bytes (n := 2) (by decide) (by decide)) (.stay _ _)), rfl⟩
  obtain ⟨-, hall⟩ := Visit.retried fails
  exact ⟨fails, hc, (hall c hc).1⟩

end Attendant.Log

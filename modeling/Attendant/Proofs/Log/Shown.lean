import Attendant.Proofs.Log.Visits

/-!
# What a log shows

After any visits the sink shows the lossy reading of the bytes that have been taken since it was last cleared
(`Visits.shows`). While files only grow, these are the first bytes of the file (`Visits.taken_eq`). To follow a
file at rest is a visit (`follow_leads`), so a visit comes to an end whatever the sizes of the reads, and wherever
they fail.
-/

namespace Attendant.Log

/-! ### Files that only grow -/

/-- Files that only grow, and are never said to have become smaller. -/
def Growing (visits : List Visit) : Prop :=
  visits.Pairwise fun u v => u.size ≤ v.size ∧ u.data <+: v.data

private theorem take_append_segment {data : List UInt8} {m n : Nat} (h : m ≤ n) :
    data.take m ++ segment data m n = data.take n := by
  have := List.take_append_drop m (data.take n)
  rwa [List.take_take, Nat.min_eq_left h] at this

/-- An account that has taken the bytes of a file from its start to the offset goes on to do so. -/
theorem taken_after {data : List UInt8} {a : Account} {p : Position} (texts : List String) (h : a.InOrder)
    (h' : (a.after data p (texts.map .append)).InOrder) (ht : a.taken = data.take a.position.offset) :
    (a.after data p (texts.map .append)).taken = data.take p.offset := by
  have htaken : (a.after data p (texts.map .append)).taken = a.taken ++ segment data a.position.offset p.offset := by
    simp [Account.after]
  have hlen := h'.taken_length
  rw [htaken, List.length_append, h.taken_length] at hlen
  change _ = p.offset at hlen
  rw [htaken, ht, take_append_segment (by omega)]

private theorem Goes.taken_eq {data : List UInt8} {a b : Account} {pass last : Pass} (hg : Goes data a pass b last)
    (h : a.InOrder) (hf : pass.Fits data a.position) (ht : a.taken = data.take a.position.offset) :
    b.taken = data.take b.position.offset := by
  induction hg with
  | stay => exact ht
  | step ha _ ih =>
    obtain ⟨p, next, texts, hs, hin, hn, -, -⟩ := step_inOrder h hf ha
    rw [hs] at ih
    exact ih hin hn (taken_after texts h hin ht)

private theorem Visit.Leads.taken_eq {v : Visit} {a b : Account} {last : Pass} (hv : v.Leads a b last) (h : a.InOrder)
    (hs : a.position.offset ≤ v.size) (ht : a.taken = v.data.take a.position.offset) :
    b.taken = v.data.take b.position.offset := by
  obtain ⟨p, pass, hbegin, hin, hf, -, hoff⟩ := begin_inOrder v.data h v.size
  have hg := hv.1
  rw [if_neg (by omega)] at hoff hin hbegin
  rw [hbegin] at hg
  exact hg.taken_eq hin hf (taken_after [] h hin ht)

/-- While files only grow the sink is never cleared, and what has been taken are the first bytes of the file, each
of them once. -/
theorem Visits.taken_eq {visits : List Visit} {a : Account} (h : Visits visits a) (hg : Growing visits) :
    a.sink.clears = 0 ∧ ∀ (data : List UInt8) (n : Nat), (∀ v ∈ visits, v.size ≤ n ∧ v.data <+: data) →
      a.position.size ≤ n ∧ a.taken = data.take a.position.offset := by
  induction h with
  | none => exact ⟨rfl, fun _ _ _ => ⟨Nat.zero_le _, rfl⟩⟩
  | @more visits v a b last hvs hv ih =>
    obtain ⟨hgs, -, hlast⟩ := List.pairwise_append.1 hg
    obtain ⟨hclears, hfirst⟩ := ih hgs
    obtain ⟨hsize, htaken⟩ := hfirst v.data v.size fun u hu => hlast u hu v (by simp)
    have hin := hvs.inOrder
    have hle : a.position.offset ≤ v.size := Nat.le_trans hin.offset_le hsize
    obtain ⟨hb, -, hbs, texts, hcalls⟩ := hv.inOrder hin
    have hbt := hv.taken_eq hin hle htaken
    constructor
    · rw [if_neg (by omega)] at hcalls
      have hnone : List.count SinkCall.clear (texts.map SinkCall.append) = 0 :=
        List.count_eq_zero.2 (clear_not_mem_appends texts)
      simp only [Sink.clears] at hclears ⊢
      simp [hcalls, hclears, hnone]
    · intro data n hall
      obtain ⟨hn, rest, hrest⟩ := hall v (by simp)
      refine ⟨by omega, ?_⟩
      -- the offset lies in the file that was read last, and that file goes on in `data`
      have hlen := hb.taken_length
      rw [hbt, List.length_take] at hlen
      rw [hbt, ← hrest, List.take_append_of_le_length (by omega)]

/-! ### The sink after any visits -/

/-- After any visits, the last of them by a pass that may have failed: the sink shows the lossy reading of the
bytes taken since it was last cleared, but for the character that is cut off at their end, and that one is held;
the offset is the number of these bytes, and not above the size; and the last visit has cleared the sink exactly if
its size was below the offset, once, and before it added anything. While files only grow, the bytes are those of
the file up to the offset. -/
theorem Visits.shows {visits : List Visit} {v : Visit} {a b : Account} {last : Pass} (h : Visits visits a)
    (hv : v.Leads a b last) :
    (Utf8.Reading b.taken b.sink.contents.toList b.position.held ∧ b.position.held.length ≤ 3) ∧
    (b.taken.length = b.position.offset ∧ b.position.offset ≤ b.position.size ∧ b.position.size = v.size) ∧
    (∃ texts : List String, b.sink.calls =
      (texts.map .append).reverse ++ (if v.size < a.position.offset then [.clear] else []) ++ a.sink.calls) ∧
    (Growing (visits ++ [v]) → b.sink.clears = 0 ∧ b.taken = v.data.take b.position.offset ∧
      (last.result = .ok () → b.position.offset = min v.size v.data.length)) := by
  obtain ⟨hb, hl, hsize, htexts⟩ := hv.inOrder h.inOrder
  refine ⟨⟨hb.reading, hb.reading.begun.length_le⟩, ⟨hb.taken_length, hb.offset_le, hsize⟩, htexts, ?_⟩
  intro hg
  obtain ⟨hclears, hall⟩ := (Visits.more h hv).taken_eq hg
  have hlast : ∀ u ∈ visits ++ [v], u.size ≤ v.size ∧ u.data <+: v.data := by
    intro u hu
    rcases List.mem_append.1 hu with hu | hu
    · exact (List.pairwise_append.1 hg).2.2 u hu v (by simp)
    · rw [List.mem_singleton.1 hu]
      exact ⟨Nat.le_refl _, List.prefix_refl _⟩
  obtain ⟨-, htaken⟩ := hall v.data v.size hlast
  refine ⟨hclears, htaken, ?_⟩
  intro hok
  have hlen := hb.taken_length
  have hle := hb.offset_le
  rw [htaken, List.length_take] at hlen
  have hend : b.position.offset = b.position.size ∨ v.data.length ≤ b.position.offset := by
    have hover := hv.2
    cases last with
    | ended => exact hl
    | failed fault => cases hok
    | seeking _ => cases hover
    | reading _ _ _ => cases hover
  omega

/-- A file that is visited in the middle of a character, and again when it has grown. -/
theorem shows_of_grown :
    let a : Account := ⟨⟨2, 2, [0xC3]⟩, ⟨[.append "a"]⟩, [0x61, 0xC3]⟩
    let b : Account := ⟨⟨3, 3, []⟩, ⟨[.append "é", .append "a"]⟩, [0x61, 0xC3, 0xA9]⟩
    let before : Visit := ⟨2, [0x61, 0xC3]⟩
    let now : Visit := ⟨3, [0x61, 0xC3, 0xA9]⟩
    Visits [before] a ∧ now.Leads a b .ended ∧ Growing [before, now] ∧
      Utf8.Reading [0x61, 0xC3, 0xA9] "aé".toList [] ∧ b.sink.clears = 0 ∧ b.position.offset = min 3 3 := by
  intro a b before now
  have first : before.Leads {} a .ended :=
    ⟨.step .placed (.step (.bytes (n := 2) (by decide) (by decide)) (.stay _ _)), rfl⟩
  have hv : now.Leads a b .ended :=
    ⟨.step .placed (.step (.bytes (n := 1) (by decide) (by decide)) (.stay _ _)), rfl⟩
  have h : Visits [before] a := .more .none first
  have hg : Growing [before, now] := by
    simp only [Growing, List.pairwise_cons]
    refine ⟨?_, by simp, .nil⟩
    intro u hu
    rw [List.mem_singleton.1 hu]
    exact ⟨by decide, [0xA9], rfl⟩
  obtain ⟨⟨hreading, -⟩, -, -, hgrown⟩ := Visits.shows h hv
  exact ⟨h, hv, hg, hreading, (hgrown hg).1, (hgrown hg).2.2 rfl⟩

/-! ### A file at rest -/

/-- Whether a cursor stands where the request under way has come to. -/
private def Cursor.Stands (data : List UInt8) (p : Position) (cursor : Cursor) : Pass → Prop
  | .reading _ _ got => cursor = ⟨p.offset + got.length, data.drop (p.offset + got.length)⟩
  | _ => True

private theorem stands_request {data : List UInt8} {p : Position} {n : Nat} (h : n = p.offset) (stop : Nat) :
    Cursor.Stands data p ⟨n, data.drop n⟩ (p.request stop) := by
  subst h
  unfold Position.request
  split <;> trivial

private theorem stands_endRequest (data : List UInt8) (p : Position) (stop : Nat) {got : List UInt8} {n : Nat}
    (h : n = p.offset + got.length) :
    Cursor.Stands data (Pass.endRequest p stop got).1 ⟨n, data.drop n⟩ (Pass.endRequest p stop got).2.1 := by
  have hp : n = (p.absorb got.reverse).1.offset := by simp [Position.absorb, h]
  exact stands_request hp stop

/-- A read from a file at rest fails, or gives bytes and moves the cursor past them. -/
private theorem answer_reading {c : Contents} (hpiece : c.piece ≠ some 0) (p : Position) (stop : Nat) {missing : Nat}
    (hm : 0 < missing) (got : List UInt8) (place : Nat) :
    (∃ fault, c.answer p ⟨place, c.data.drop place⟩ (.reading stop missing got) =
      (.failure fault, ⟨place, c.data.drop place⟩)) ∨
    ∃ (n : Nat) (chunk : List UInt8), 0 < n ∧ n ≤ missing ∧ chunk = (c.data.drop place).take n ∧
      c.answer p ⟨place, c.data.drop place⟩ (.reading stop missing got) =
        (.bytes chunk, ⟨place + chunk.length, c.data.drop (place + chunk.length)⟩) := by
  have hpos : 0 < min missing (c.piece.getD missing) := by
    cases hp : c.piece with
    | none => simpa using hm
    | some k =>
      have : k ≠ 0 := fun h => hpiece (by rw [hp, h])
      simp only [Option.getD_some]
      omega
  cases hl : c.failFrom with
  | none =>
    right
    refine ⟨min (min missing (c.piece.getD missing)) missing, _, by omega, by omega, rfl, ?_⟩
    simp [Contents.answer, hl]
  | some limit =>
    by_cases hroom : limit - place = 0
    · left
      refine ⟨⟨"Other", "injected"⟩, ?_⟩
      simp [Contents.answer, hl, hroom]
    · right
      refine ⟨min (min missing (c.piece.getD missing)) (limit - place), _, by omega, by omega, rfl, ?_⟩
      simp [Contents.answer, hl, hroom]

/-- A file at rest answers as a file may, and its cursor keeps up with the pass. -/
private theorem answer_answers {c : Contents} (hpiece : c.piece ≠ some 0) {p : Position} {cursor : Cursor}
    {pass : Pass}
    (hf : pass.Fits c.data p) (hc : cursor.Stands c.data p pass) (hover : pass.isOver = false) :
    ∃ (answer : FileAnswer) (next : Cursor), c.answer p cursor pass = (answer, next) ∧ Answers c.data p pass answer ∧
      next.Stands c.data (pass.step p answer).1 (pass.step p answer).2.1 := by
  cases pass with
  | seeking stop =>
    by_cases hs : c.failSeek = true
    · exact ⟨.failure ⟨"Other", "injected seek"⟩, cursor, by simp [Contents.answer, hs], .misplaced, trivial⟩
    · exact ⟨.placed, ⟨p.offset, c.data.drop p.offset⟩, by simp [Contents.answer, hs], .placed,
        stands_request rfl stop⟩
  | reading stop missing got =>
    obtain ⟨-, -, hpos, -⟩ := hf
    obtain rfl := hc
    rcases answer_reading hpiece p stop hpos got (p.offset + got.length) with ⟨fault, he⟩ |
      ⟨n, chunk, hn, hm, hchunk, he⟩
    · exact ⟨_, _, he, .broken, trivial⟩
    · refine ⟨_, _, he, hchunk ▸ .bytes hn hm, ?_⟩
      by_cases hne : chunk = []
      · rw [hne]
        by_cases hgot : got = []
        · subst hgot
          trivial
        · have hstep : Pass.step p (.reading stop missing got) (.bytes []) = Pass.endRequest p stop got := by
            simp [Pass.step, hgot]
          rw [hstep]
          exact stands_endRequest c.data p stop rfl
      · have hle : chunk.length ≤ missing := by
          rw [hchunk, List.length_take]
          omega
        have hplace : p.offset + got.length + chunk.length = p.offset + (chunk.reverse ++ got).length := by
          simp only [List.length_append, List.length_reverse]
          omega
        rw [step_bytes p stop hne hle]
        split
        · exact stands_endRequest c.data p stop hplace
        · rw [hplace]
          exact rfl
  | ended => cases hover
  | failed _ => cases hover

private theorem runPass_goes {c : Contents} (hpiece : c.piece ≠ some 0) (fuel : Nat) {a : Account} {pass : Pass}
    {cursor : Cursor} (calls : List SinkCall) (h : a.InOrder) (hf : pass.Fits c.data a.position)
    (hc : cursor.Stands c.data a.position pass) (hfuel : pass.remaining c.data a.position < fuel) :
    ∃ (b : Account) (last : Pass) (more : List SinkCall), Goes c.data a pass b last ∧ last.isOver = true ∧
      Position.runPass c fuel a.position cursor pass calls = (b.position, last, more.reverse ++ calls) ∧
      b.sink = a.sink.recordAll more := by
  induction fuel generalizing a pass cursor calls with
  | zero => exact absurd hfuel (Nat.not_lt_zero _)
  | succ fuel ih =>
    by_cases hover : pass.isOver = true
    · exact ⟨a, pass, [], .stay a pass, hover, by simp [Position.runPass, hover], rfl⟩
    · obtain ⟨answer, cursor', he, ha, hstands⟩ := answer_answers hpiece hf hc (by simpa using hover)
      obtain ⟨p, next, texts, hs, hin, hn, -, hrem⟩ := step_inOrder h hf ha
      rw [hs] at hstands
      obtain ⟨b, last, more, hg, hl, hrun, hsink⟩ := ih ((texts.map SinkCall.append).reverse ++ calls) hin hn hstands
        (Nat.lt_of_lt_of_le hrem (Nat.le_of_lt_succ hfuel))
      refine ⟨b, last, texts.map .append ++ more, ?_, hl, ?_, ?_⟩
      · apply Goes.step ha
        rw [hs]
        exact hg
      · change Position.runPass c fuel p cursor' next _ = _ at hrun
        simp only [Position.runPass, hover, he, hs, hrun]
        simp
      · rw [hsink, Sink.recordAll_append]
        rfl

/-- To follow a file at rest is to visit it, however many bytes it gives at a time and wherever it fails. -/
theorem follow_leads {c : Contents} (hpiece : c.piece ≠ some 0) {a : Account} (h : a.InOrder) (size : Nat) :
    ∃ (b : Account) (last : Pass) (calls : List SinkCall), (Visit.mk size c.data).Leads a b last ∧
      a.position.follow c size = (b.position, last.result.map fun _ => a.position.diff size, calls) ∧
      b.sink = a.sink.recordAll calls := by
  obtain ⟨p, pass, hbegin, hin, hf, -, -⟩ := begin_inOrder c.data h size
  generalize hfirst : (if size < a.position.offset then [SinkCall.clear] else []) = first at hbegin hin
  have hstands : Cursor.Stands c.data p {} pass := by
    cases pass with
    | reading _ _ _ =>
      unfold Position.begin at hbegin
      revert hbegin
      cases a.position.diff size <;> simp
    | _ => trivial
  have hfuel : pass.remaining c.data p < 2 * c.data.length + 4 := by
    cases pass with
    | reading _ _ got =>
      simp only [Pass.remaining]
      split <;> omega
    | seeking _ =>
      simp only [Pass.remaining]
      omega
    | ended => exact Nat.succ_pos _
    | failed _ => exact Nat.succ_pos _
  obtain ⟨b, last, more, hg, hl, hrun, hsink⟩ := runPass_goes hpiece _ first.reverse hin hf hstands hfuel
  have hpos : (a.position.begin size) = (a.position.diff size, p, pass, first) := by
    rw [← hbegin]
    unfold Position.begin
    cases a.position.diff size <;> rfl
  refine ⟨b, last, first ++ more, ⟨?_, hl⟩, ?_, ?_⟩
  · rw [hbegin]
    exact hg
  · change Position.runPass c _ p {} pass _ = _ at hrun
    simp only [Position.follow, hpos, hrun]
    simp
  · rw [hsink, Sink.recordAll_append]
    rfl

end Attendant.Log

import Attendant.Frame.Reader
import Attendant.Proofs.Frame.Header

/-!
# Streams of frames

What a reader makes of a stream of frames that is cut off somewhere. It does not matter how the bytes are cut into
deliveries (`hear_chunks`); a whole frame gives the message of its body and leaves the reader between two frames
(`feed_wrap`), and a frame that is cut off gives a fault at the end of the source (`feed_torn`, `hear_torn`). So
the reader gives the messages of the frames that have come whole, and then the end of the stream or a fault
(`hear_frames`).
-/

namespace Attendant.Frame.Reader

/-! ### Bytes one after the other -/

private theorem feedFrom_eq (acc : List Result) (r : Reader) (bs : List UInt8) :
    feedFrom acc r bs = ((feed r bs).1, acc.reverse ++ (feed r bs).2) := by
  induction bs generalizing acc r with
  | nil => simp [feed, feedFrom]
  | cons b bs ih =>
    simp only [feed, feedFrom]
    rcases r.byte b with ⟨r', _ | result⟩
    · exact ih acc r'
    · simp only
      rw [ih (result :: acc), ih [result]]
      simp

@[simp] theorem feed_nil (r : Reader) : r.feed [] = (r, []) := rfl

theorem feed_cons (r : Reader) (b : UInt8) (bs : List UInt8) :
    r.feed (b :: bs) = (((r.byte b).1.feed bs).1, (r.byte b).2.toList ++ ((r.byte b).1.feed bs).2) := by
  simp only [feed, feedFrom]
  rcases r.byte b with ⟨r', _ | result⟩
  · rfl
  · exact feedFrom_eq [result] r' bs

/-- It does not matter where bytes are cut in two. -/
theorem feed_append (r : Reader) (as bs : List UInt8) :
    r.feed (as ++ bs) = (((r.feed as).1.feed bs).1, (r.feed as).2 ++ ((r.feed as).1.feed bs).2) := by
  induction as generalizing r with
  | nil => rfl
  | cons a as ih =>
    rw [List.cons_append, feed_cons, feed_cons, ih]
    simp

/-- Bytes without a line break go on with the line. -/
theorem feed_line (h : Header) (line : List UInt8) {bs : List UInt8} (hb : 0x0A ∉ bs) :
    (Reader.header h line).feed bs = (.header h (bs.reverse ++ line), []) := by
  induction bs generalizing line with
  | nil => rfl
  | cons b bs ih =>
    have hne : b ≠ 0x0A := fun he => hb (by simp [he])
    have hbyte : (Reader.header h line).byte b = (.header h (b :: line), none) := by simp [byte, hne]
    rw [feed_cons, hbyte, ih (b :: line) (fun hm => hb (by simp [hm]))]
    simp

/-- A line break ends the line. -/
theorem feed_break (h : Header) (line : List UInt8) :
    (Reader.header h line).feed [0x0A] =
      ((afterLine (h.line (line.reverse ++ [0x0A]))).1, (afterLine (h.line (line.reverse ++ [0x0A]))).2.toList) := by
  rw [feed_cons]
  simp [byte]

/-- Fewer bytes than are missing go on with the body. -/
theorem feed_body_of_lt {missing : Nat} (bytes : List UInt8) {bs : List UInt8} (hb : bs.length < missing) :
    (Reader.body missing bytes).feed bs = (.body (missing - bs.length) (bs.reverse ++ bytes), []) := by
  induction bs generalizing missing bytes with
  | nil => rfl
  | cons b bs ih =>
    rw [List.length_cons] at hb
    have hbyte : (Reader.body missing bytes).byte b = (.body (missing - 1) (b :: bytes), none) := by
      simp only [byte]
      rw [if_neg (by omega)]
    rw [feed_cons, hbyte, ih (b :: bytes) (by omega)]
    simp only [List.reverse_cons, List.length_cons, List.append_assoc, List.cons_append, List.nil_append,
      Option.toList_none, Prod.mk.injEq, Reader.body.injEq, and_true]
    omega

/-- As many bytes as are missing end the body. -/
theorem feed_body {missing : Nat} (bytes : List UInt8) {bs : List UInt8} (hpos : 0 < missing)
    (hb : bs.length = missing) :
    (Reader.body missing bytes).feed bs = (start, [close (bytes.reverse ++ bs)]) := by
  obtain ⟨bs, b, rfl⟩ : ∃ most last, bs = most ++ [last] :=
    ⟨_, _, (List.dropLast_concat_getLast (by rintro rfl; simp at hb; omega)).symm⟩
  rw [List.length_append, List.length_singleton] at hb
  have hbyte : (Reader.body (missing - bs.length) (bs.reverse ++ bytes)).byte b =
      (start, some (close (b :: (bs.reverse ++ bytes)).reverse)) := by
    simp only [byte]
    rw [if_pos (by omega)]
  rw [feed_append, feed_body_of_lt bytes (by omega), feed_cons, hbyte]
  simp

/-- A reader that scans bytes reads them up to a result, or all of them. -/
theorem feed_of_scan_none {r r' : Reader} {bytes rest : List UInt8} (h : r.scan bytes = (r', none, rest)) :
    rest = [] ∧ r.feed bytes = (r', []) := by
  induction bytes generalizing r with
  | nil =>
    cases h
    exact ⟨rfl, rfl⟩
  | cons b bs ih =>
    rw [feed_cons]
    unfold scan at h
    rcases hb : r.byte b with ⟨next, _ | result⟩ <;> rw [hb] at h
    · obtain ⟨hrest, hfeed⟩ := ih h
      exact ⟨hrest, by rw [hfeed]; rfl⟩
    · cases h

/-- A reader that scans bytes up to a result has read the bytes before it, and gives no other. -/
theorem feed_of_scan_some {r r' : Reader} {result : Result} {bytes rest : List UInt8}
    (h : r.scan bytes = (r', some result, rest)) : ∃ used, bytes = used ++ rest ∧ r.feed used = (r', [result]) := by
  induction bytes generalizing r with
  | nil => cases h
  | cons b bs ih =>
    unfold scan at h
    rcases hb : r.byte b with ⟨next, _ | found⟩ <;> rw [hb] at h
    · obtain ⟨used, rfl, hfeed⟩ := ih h
      exact ⟨b :: used, rfl, by rw [feed_cons, hb, hfeed]; rfl⟩
    · cases h
      exact ⟨[b], rfl, by rw [feed_cons, hb]; rfl⟩

/-- What has begun when there is nothing more to read is never a whole frame. -/
theorem ended_ne_frame {r r' : Reader} {result : Result} (h : r.ended = (r', some result)) (message : Value) :
    result ≠ .frame message := by
  have hline (h : Header) (bytes : List UInt8) {next : Reader} {found : Result}
      (hfound : afterLine (h.line bytes) = (next, some found)) : found ≠ .frame message := by
    cases hstep : h.line bytes with
    | more header => simp [hstep, afterLine] at hfound
    | failed fault =>
      simp only [hstep, afterLine, Prod.mk.injEq, Option.some.injEq] at hfound
      rw [← hfound.2]
      nofun
    | finished n =>
      cases n with
      | zero =>
        have hclose : close [] = .fault .malformedBody := rfl
        simp only [hstep, afterLine, hclose, Prod.mk.injEq, Option.some.injEq] at hfound
        rw [← hfound.2]
        nofun
      | succ n => simp [hstep, afterLine] at hfound
  cases r with
  | body missing bytes =>
    simp only [ended, Prod.mk.injEq, Option.some.injEq] at h
    rw [← h.2]
    nofun
  | header hd line =>
    cases line with
    | nil =>
      simp only [ended, Prod.mk.injEq, Option.some.injEq] at h
      rw [← h.2]
      split <;> nofun
    | cons b line => exact hline hd _ h

/-! ### Frames -/

private theorem encodeChars_ascii {cs : List Char} (h : ∀ c ∈ cs, c.toNat < 0x80) :
    Utf8.encodeChars cs = cs.map fun c => UInt8.ofNat c.toNat := by
  induction cs with
  | nil => rfl
  | cons c cs ih =>
    rw [Utf8.encodeChars, List.flatMap_cons, Utf8.encode_ascii (h c (by simp)), List.map_cons, List.singleton_append]
    rw [← ih fun d hd => h d (by simp [hd])]
    rfl

/-- The first line of a header up to its line feed. -/
private def opening (n : Nat) : List Char := lengthLine n ++ ['\r']

private theorem opening_ascii (n : Nat) : ∀ c ∈ opening n, c.toNat < 0x80 ∧ c ≠ '\n' := by
  intro c hc
  simp only [opening, lengthLine, List.mem_append, List.mem_cons, List.not_mem_nil, or_false] at hc
  have hname : lengthName.all (fun c => c.toNat < 0x80 && c != '\n') = true := rfl
  rcases hc with (hc | rfl | rfl | hc) | rfl
  · simpa using List.all_eq_true.1 hname c hc
  · decide
  · decide
  · obtain ⟨h1, h2⟩ := Char.isDigit_iff_toNat.1 (Nat.isDigit_of_mem_toDigits (by omega) (by omega) hc)
    simp only [Char.reduceToNat] at h1 h2
    refine ⟨by omega, ?_⟩
    rintro rfl
    simp at h1
  · decide

/-- The bytes of a header: its first line, a line feed, and an empty line. -/
private theorem header_opening (n : Nat) :
    Frame.header n = Utf8.encodeChars (opening n) ++ [0x0A] ++ [0x0D] ++ [0x0A] := by
  have h1 : Utf8.encodeChars (lengthLine n ++ ['\r', '\n']) = Utf8.encodeChars (opening n) ++ [0x0A] := by
    simp only [Utf8.encodeChars, opening, List.flatMap_append, List.append_assoc]
    rfl
  rw [header_eq, h1, List.append_assoc _ [0x0D] [0x0A]]
  rfl

private theorem not_mem_opening {n : Nat} {bs : List UInt8} (h : bs <+: Utf8.encodeChars (opening n)) :
    0x0A ∉ bs := by
  intro hm
  have := h.mem hm
  rw [encodeChars_ascii fun c hc => (opening_ascii n c hc).1, List.mem_map] at this
  obtain ⟨c, hc, he⟩ := this
  obtain ⟨hlt, hne⟩ := opening_ascii n c hc
  apply hne
  rw [← Char.toNat_inj]
  have := congrArg UInt8.toNat he
  rw [UInt8.toNat_ofNat'] at this
  simp only [UInt8.reduceToNat, Char.reduceToNat] at this ⊢
  omega

private theorem feed_opening {n : Nat} (hn : n ≤ maxBody) :
    start.feed (Utf8.encodeChars (opening n) ++ [0x0A]) = (.header ⟨true, some n⟩ [], []) := by
  have hwidth : n < width64 := Nat.lt_of_le_of_lt hn (by decide)
  have hline : Utf8.encodeChars (opening n) ++ [0x0A] = Utf8.encodeChars (lengthLine n ++ ['\r', '\n']) := by
    simp only [Utf8.encodeChars, opening, List.flatMap_append, List.append_assoc]
    rfl
  rw [feed_append, start, feed_line {} [] (not_mem_opening (List.prefix_refl _)), feed_break]
  simp [hline, line_length _ hwidth, afterLine]

private theorem feed_return (n : Nat) :
    (Reader.header ⟨true, some n⟩ []).feed [0x0D] = (.header ⟨true, some n⟩ [0x0D], []) :=
  rfl

private theorem feed_empty_line {n : Nat} (hn : n ≤ maxBody) :
    (Reader.header ⟨true, some n⟩ [0x0D]).feed [0x0A] = if n = 0 then (start, [close []]) else (.body n [], []) := by
  have hblank : Header.line ⟨true, some n⟩ [0x0D, 0x0A] = .finished n :=
    line_blank rfl hn ['\r', '\n'] isBlankChar_of_break
  rw [feed_break]
  simp only [List.reverse_cons, List.reverse_nil, List.nil_append, List.cons_append, hblank]
  cases n <;> rfl

private theorem wrap_eq (body : List UInt8) : wrap body =
    (Utf8.encodeChars (opening body.length) ++ [0x0A]) ++ ([0x0D] ++ ([0x0A] ++ body)) := by
  rw [wrap, header_opening]
  simp only [List.append_assoc]

/-- A frame gives the message of its body, and leaves the reader between two frames. -/
theorem feed_wrap {body : List UInt8} (hb : body.length ≤ maxBody) :
    start.feed (wrap body) = (start, [close body]) := by
  rw [wrap_eq, feed_append, feed_opening hb, feed_append, feed_return, feed_append, feed_empty_line hb]
  split
  · rename_i hzero
    obtain rfl := List.length_eq_zero_iff.1 hzero
    rfl
  · rename_i hpos
    simp only [feed_body [] (Nat.pos_of_ne_zero hpos) rfl]
    rfl

/-! ### Frames that are cut off -/

/-- What a reader holds of a frame that is cut off: a part of the first line, the whole first line, that and the
carriage return of the empty line, or a part of the body. -/
inductive Torn : Reader → Prop where
  | line (cs : List Char) : Torn (.header {} (Utf8.encodeChars ('C' :: cs)).reverse)
  | known (n : Nat) : Torn (.header ⟨true, some n⟩ [])
  | blank {n : Nat} (hn : n ≤ maxBody) : Torn (.header ⟨true, some n⟩ [0x0D])
  | body (missing : Nat) (bytes : List UInt8) : Torn (.body missing bytes)

private theorem encodeChars_letter (cs : List Char) : Utf8.encodeChars ('C' :: cs) ≠ [] := by
  rw [Utf8.encodeChars, List.flatMap_cons, Utf8.encode_ascii (by decide)]
  simp

/-- A part of a frame is not the place between two frames. -/
theorem Torn.ne_start {r : Reader} (h : Torn r) : r ≠ start := by
  intro he
  cases h with
  | line cs =>
    rw [start, Reader.header.injEq, List.reverse_eq_nil_iff] at he
    exact encodeChars_letter cs he.2
  | known n => cases he
  | blank hn => cases he
  | body missing bytes => cases he

private theorem prefix_append_cases {t as bs : List UInt8} (h : t <+: as ++ bs) :
    (t <+: as ∧ t ≠ as) ∨ ∃ t', t = as ++ t' ∧ t' <+: bs := by
  rcases List.prefix_or_prefix_of_prefix h (List.prefix_append as bs) with hp | ⟨t', rfl⟩
  · by_cases he : t = as
    · exact Or.inr ⟨[], by simp [he], List.nil_prefix⟩
    · exact Or.inl ⟨hp, he⟩
  · exact Or.inr ⟨t', rfl, (List.prefix_append_right_inj _).1 h⟩

private theorem prefix_singleton {t : List UInt8} {b : UInt8} (h : t <+: [b]) (hne : t ≠ [b]) : t = [] := by
  rcases List.prefix_cons_iff.1 h with rfl | ⟨t', rfl, ht⟩
  · rfl
  · rw [List.prefix_nil.1 ht] at hne
    exact absurd rfl hne

/-- A part of the first line holds whole characters, and it begins as the line does. -/
private theorem feed_opening_part {n : Nat} {t : List UInt8} (h : t <+: Utf8.encodeChars (opening n)) (hne : t ≠ []) :
    ∃ r, start.feed t = (r, []) ∧ Torn r := by
  have hascii := encodeChars_ascii fun c hc => (opening_ascii n c hc).1
  obtain ⟨cs, hcs, ht⟩ := List.prefix_map_iff.1 (hascii ▸ h)
  have hpart : t = Utf8.encodeChars cs := by
    rw [ht, encodeChars_ascii fun c hc => (opening_ascii n c (hcs.mem hc)).1]
  obtain ⟨cs, rfl⟩ : ∃ rest, cs = 'C' :: rest := by
    rcases List.prefix_cons_iff.1 hcs with rfl | ⟨rest, rfl, -⟩
    · exact absurd ht hne
    · exact ⟨rest, rfl⟩
  refine ⟨_, ?_, .line cs⟩
  rw [start, feed_line {} [] (not_mem_opening h), List.append_nil, hpart]

/-- A frame that is cut off gives no result. -/
theorem feed_torn {body t : List UInt8} (hb : body.length ≤ maxBody) (h : t <+: wrap body) (hne : t ≠ [])
    (hcut : t ≠ wrap body) : ∃ r, start.feed t = (r, []) ∧ Torn r := by
  rcases prefix_append_cases (wrap_eq body ▸ h) with ⟨hp, hshort⟩ | ⟨t, rfl, hafter⟩
  · rw [List.prefix_concat_iff] at hp
    exact feed_opening_part (hp.resolve_left hshort) hne
  · rw [feed_append, feed_opening hb]
    rcases prefix_append_cases hafter with ⟨hp, hshort⟩ | ⟨t, rfl, hempty⟩
    · obtain rfl := prefix_singleton hp hshort
      exact ⟨_, rfl, .known _⟩
    · rw [feed_append, feed_return]
      rcases prefix_append_cases hempty with ⟨hp, hshort⟩ | ⟨t, rfl, hbody⟩
      · obtain rfl := prefix_singleton hp hshort
        exact ⟨_, rfl, .blank hb⟩
      · -- the header is whole, so the body is what is cut off
        have hlt : t.length < body.length := by
          have hle := hbody.length_le
          have hne' : t.length ≠ body.length := by
            intro he
            rw [hbody.eq_of_length he] at hcut
            exact hcut (wrap_eq body).symm
          omega
        rw [feed_append, feed_empty_line hb, if_neg (by omega), feed_body_of_lt [] hlt]
        exact ⟨_, rfl, .body _ _⟩

/-! ### Deliveries -/

/-- Reads what a source delivers, one delivery after the other. -/
def hear (r : Reader) : List Delivery → Reader × List Result
  | [] => (r, [])
  | d :: ds => (((r.deliver d).1.hear ds).1, (r.deliver d).2 ++ ((r.deliver d).1.hear ds).2)

theorem hear_append (r : Reader) (as bs : List Delivery) :
    r.hear (as ++ bs) = (((r.hear as).1.hear bs).1, (r.hear as).2 ++ ((r.hear as).1.hear bs).2) := by
  induction as generalizing r with
  | nil => rfl
  | cons d as ih =>
    rw [List.cons_append, hear, hear, ih]
    simp

/-- It does not matter how bytes are cut into pieces, as long as no piece looks like the end. -/
theorem hear_chunks (r : Reader) {chunks : List (List UInt8)} (h : ∀ chunk ∈ chunks, chunk ≠ []) :
    r.hear (chunks.map .bytes) = r.feed chunks.flatten := by
  induction chunks generalizing r with
  | nil => rfl
  | cons chunk chunks ih =>
    obtain ⟨b, bs, rfl⟩ := List.exists_cons_of_ne_nil (h chunk (by simp))
    rw [List.map_cons, hear, deliver, ih _ fun c hc => h c (by simp [hc]), List.flatten_cons, feed_append]
    simp

private theorem hear_cons_end (r : Reader) (k : Nat) :
    (r.hear (List.replicate (k + 1) (.bytes []))).2 =
      r.ended.2.toList ++ (r.ended.1.hear (List.replicate k (.bytes []))).2 := by
  rw [List.replicate_succ, hear]
  rfl

/-- Between two frames, the end of the source is the end of the stream. -/
theorem hear_start_ended (k : Nat) :
    (start.hear (List.replicate k (.bytes []))).2 = List.replicate k Result.finished := by
  induction k with
  | zero => rfl
  | succ k ih =>
    rw [hear_cons_end, List.replicate_succ, ← ih]
    rfl

/-- In a frame that is cut off, the end of the source is a fault. -/
theorem Torn.hear_ended {r : Reader} (h : Torn r) (k : Nat) :
    ∃ fault m, (r.hear (List.replicate (k + 2) (.bytes []))).2 = .fault fault :: List.replicate m .finished := by
  have hfault {r : Reader} {fault : Fault} (he : r.ended = (start, some (.fault fault))) (k : Nat) :
      ∃ fault m, (r.hear (List.replicate (k + 1) (.bytes []))).2 = .fault fault :: List.replicate m .finished := by
    refine ⟨fault, k, ?_⟩
    rw [hear_cons_end, he, ← hear_start_ended]
    rfl
  -- the line that has begun is taken for a whole one, and the next read finds the end
  have hlater {r next : Reader} {fault : Fault} (he : r.ended = (next, none))
      (hn : next.ended = (start, some (.fault fault))) :
      ∃ fault m, (r.hear (List.replicate (k + 2) (.bytes []))).2 = .fault fault :: List.replicate m .finished := by
    rw [hear_cons_end, he]
    exact hfault hn k
  cases h with
  | known n => exact hfault rfl (k + 1)
  | body missing bytes => exact hfault rfl (k + 1)
  | line cs =>
    have he : (Reader.header {} (Utf8.encodeChars ('C' :: cs)).reverse).ended =
        afterLine (Header.line {} (Utf8.encodeChars ('C' :: cs))) := by
      obtain ⟨b, bs, hb⟩ : ∃ b bs, (Utf8.encodeChars ('C' :: cs)).reverse = b :: bs := by
        refine List.exists_cons_of_ne_nil ?_
        rw [Ne, List.reverse_eq_nil_iff]
        exact encodeChars_letter cs
      rw [hb, ended, ← hb, List.reverse_reverse]
      simp
    rcases line_of_letter {} (show Text.isBlankChar 'C' = false by decide) cs with ⟨length, hl⟩ | ⟨fault, hl⟩
    · exact hlater (he.trans (by rw [hl]; rfl)) rfl
    · exact hfault (he.trans (by rw [hl]; rfl)) (k + 1)
  | @blank n hn =>
    have hl : Header.line ⟨true, some n⟩ [0x0D] = .finished n :=
      line_blank rfl hn ['\r'] (List.forall_mem_singleton.2 rfl)
    have he : (Reader.header ⟨true, some n⟩ [0x0D]).ended = afterLine (.finished n) := by
      rw [← hl]
      rfl
    cases n with
    | zero => exact hfault he (k + 1)
    | succ n => exact hlater he rfl

/-- The failure of the source is a fault wherever it comes. -/
theorem hear_failed (r : Reader) (fault : IoFault) (k : Nat) :
    (r.hear (List.replicate k (.failure fault))).2 = List.replicate k (.fault (.io fault)) := by
  induction k with
  | zero => rfl
  | succ k ih =>
    rw [List.replicate_succ, List.replicate_succ, ← ih]
    rfl

/-! ### Streams -/

/-- Whole frames give the messages of their bodies, in their order. -/
theorem feed_frames {bodies : List (List UInt8)} (h : ∀ body ∈ bodies, body.length ≤ maxBody) :
    start.feed (bodies.flatMap wrap) = (start, bodies.map close) := by
  induction bodies with
  | nil => rfl
  | cons body bodies ih =>
    rw [List.flatMap_cons, feed_append, feed_wrap (h body (by simp)), ih fun b hb => h b (by simp [hb])]
    rfl

theorem wrap_ne_nil (body : List UInt8) : wrap body ≠ [] := by
  rw [wrap_eq]
  simp

/-- A stream that is cut off is made of whole frames, and perhaps a part of the next one. -/
private theorem cut_frames {bodies : List (List UInt8)} {stream : List UInt8} (h : stream <+: bodies.flatMap wrap) :
    ∃ whole rest torn, bodies = whole ++ rest ∧ stream = whole.flatMap wrap ++ torn ∧
      (∀ body ∈ rest.head?, torn <+: wrap body ∧ torn ≠ wrap body) ∧ (rest = [] → torn = []) := by
  induction bodies generalizing stream with
  | nil => exact ⟨[], [], [], rfl, by simpa using h, by simp, fun _ => rfl⟩
  | cons body bodies ih =>
    rw [List.flatMap_cons] at h
    rcases prefix_append_cases h with ⟨hp, hne⟩ | ⟨stream, rfl, hp⟩
    · refine ⟨[], body :: bodies, stream, rfl, rfl, ?_, by simp⟩
      intro b hb
      obtain rfl : body = b := by simpa using hb
      exact ⟨hp, hne⟩
    · obtain ⟨whole, rest, torn, rfl, rfl, hrest, hall⟩ := ih hp
      refine ⟨body :: whole, rest, torn, rfl, ?_, hrest, hall⟩
      rw [List.flatMap_cons, List.append_assoc]

/-- A reader of a stream that is cut off gives the messages of the frames that have come whole, and stands between two
frames exactly if nothing else has come. -/
theorem feed_cut {bodies : List (List UInt8)} (hlen : ∀ body ∈ bodies, body.length ≤ maxBody) {stream : List UInt8}
    (h : stream <+: bodies.flatMap wrap) :
    ∃ whole rest r, bodies = whole ++ rest ∧ start.feed stream = (r, whole.map close) ∧
      whole.flatMap wrap <+: stream ∧ (∀ body ∈ rest.head?, ¬(whole ++ [body]).flatMap wrap <+: stream) ∧
      (r = start ↔ stream = whole.flatMap wrap) := by
  obtain ⟨whole, rest, torn, rfl, rfl, hrest, hall⟩ := cut_frames h
  have hwhole : start.feed (whole.flatMap wrap) = (start, whole.map close) :=
    feed_frames fun body hbody => hlen body (List.mem_append_left _ hbody)
  have hnext : ∀ body ∈ rest.head?, ¬(whole ++ [body]).flatMap wrap <+: whole.flatMap wrap ++ torn := by
    intro body hbody hp
    obtain ⟨htorn, hne⟩ := hrest body hbody
    rw [List.flatMap_append, List.prefix_append_right_inj, List.flatMap_singleton] at hp
    exact hne (htorn.eq_of_length_le hp.length_le)
  by_cases hnil : torn = []
  · refine ⟨whole, rest, start, rfl, ?_, List.prefix_append _ _, hnext, ?_⟩
    · rw [hnil, List.append_nil, hwhole]
    · simp [hnil]
  · cases rest with
    | nil => exact absurd (hall rfl) hnil
    | cons body rest =>
      obtain ⟨hp, hne⟩ := hrest body rfl
      obtain ⟨r, hr, ht⟩ := feed_torn (hlen body (by simp)) hp hnil hne
      refine ⟨whole, body :: rest, r, rfl, ?_, List.prefix_append _ _, hnext, ?_⟩
      · rw [feed_append, hwhole, hr, List.append_nil]
      · simp [hnil, ht.ne_start]

end Reader

/-- What a source delivers from some point on: that it has nothing more, or a failure. -/
def Delivery.stop : Option IoFault → Delivery
  | none => .bytes []
  | some fault => .failure fault

namespace Reader

private theorem hear_stop {r : Reader} (failure? : Option IoFault)
    (h : failure? = none → r = start ∨ Torn r) (k : Nat) :
    ∃ last more, (r.hear (List.replicate (k + 2) (Delivery.stop failure?))).2 = last :: more ∧
      (if failure? = none ∧ r = start then last = .finished else ∃ fault, last = .fault fault) ∧
      (∀ message, .frame message ∉ more) ∧ (failure? = none → ∀ result ∈ more, result = .finished) := by
  cases failure? with
  | some fault =>
    refine ⟨.fault (.io fault), List.replicate (k + 1) (.fault (.io fault)), hear_failed r fault (k + 2), ?_, ?_, nofun⟩
    · simp
    · simp [List.mem_replicate]
  | none =>
    by_cases hr : r = start
    · refine ⟨.finished, List.replicate (k + 1) .finished, ?_, by simp [hr], by simp [List.mem_replicate],
        fun _ _ => List.eq_of_mem_replicate⟩
      rw [hr]
      exact hear_start_ended (k + 2)
    · obtain ⟨fault, m, hm⟩ := ((h rfl).resolve_left hr).hear_ended k
      exact ⟨.fault fault, List.replicate m .finished, hm, by simp [hr], by simp [List.mem_replicate],
        fun _ _ => List.eq_of_mem_replicate⟩

/-- A reader of a stream of frames that is cut off somewhere gives the messages of the frames that have come whole,
each read from exactly its body, and then the end of the stream if the source has nothing more between two frames.
Else it gives a fault. What it is asked for later is never a frame: a source that has come to its end then gives the end
of the stream, also after the fault, and the first result is the only one that tells a stream that is cut off. -/
theorem hear_frames {bodies : List (List UInt8)} (hlen : ∀ body ∈ bodies, body.length ≤ maxBody)
    {chunks : List (List UInt8)} (hchunks : ∀ chunk ∈ chunks, chunk ≠ [])
    (hcut : chunks.flatten <+: bodies.flatMap wrap)
    (failure? : Option IoFault) (k : Nat) :
    ∃ whole rest last more, bodies = whole ++ rest ∧ whole.flatMap wrap <+: chunks.flatten ∧
      (∀ body ∈ rest.head?, ¬(whole ++ [body]).flatMap wrap <+: chunks.flatten) ∧
      (start.hear (chunks.map .bytes ++ List.replicate (k + 2) (Delivery.stop failure?))).2 =
        whole.map close ++ last :: more ∧
      (if failure? = none ∧ chunks.flatten = whole.flatMap wrap then last = .finished
        else ∃ fault, last = .fault fault) ∧
      (∀ message, .frame message ∉ more) ∧ (failure? = none → ∀ result ∈ more, result = .finished) ∧
      ∀ messages : List Value, bodies = messages.map Json.encode →
        (∀ m ∈ messages, Json.decode? (Json.encode m) = some m) →
        chunks.flatten = messages.flatMap Frame.encode →
          whole.map close = messages.map .frame ∧ (failure? = none → last = .finished) := by
  obtain ⟨whole, rest, torn, rfl, hstream, hrest, hall⟩ := cut_frames hcut
  have hshort : ∀ body ∈ rest.head?, ¬wrap body <+: torn := by
    intro body hb hp
    obtain ⟨hp', hne⟩ := hrest body hb
    exact hne (hp'.eq_of_length_le hp.length_le)
  have hnext : ∀ body ∈ rest.head?, ¬(whole ++ [body]).flatMap wrap <+: chunks.flatten := by
    intro body hb hp
    rw [hstream, List.flatMap_append, List.prefix_append_right_inj] at hp
    exact hshort body hb (by simpa using hp)
  have hboundary : chunks.flatten = whole.flatMap wrap ↔ torn = [] := by
    rw [hstream]
    simp
  -- the reader is between two frames exactly if nothing is left of the next one
  obtain ⟨r, hr, hstart, hheld⟩ : ∃ r, start.feed torn = (r, []) ∧ (r = start ↔ torn = []) ∧
      (r = start ∨ Torn r) := by
    by_cases hnil : torn = []
    · exact ⟨start, by rw [hnil]; rfl, by simp [hnil], Or.inl rfl⟩
    · cases rest with
      | nil => exact absurd (hall rfl) hnil
      | cons body rest =>
        obtain ⟨hp, hne⟩ := hrest body rfl
        obtain ⟨r, hr, ht⟩ := feed_torn (hlen body (by simp)) hp hnil hne
        exact ⟨r, hr, by simp [hnil, ht.ne_start], Or.inr ht⟩
  have hfeed : start.feed chunks.flatten = (r, whole.map close) := by
    rw [hstream, feed_append, feed_frames fun b hb => hlen b (by simp [hb]), hr]
    simp
  obtain ⟨last, more, hresults, hlast, hmore, hended⟩ := hear_stop failure? (fun _ => hheld) k
  simp only [hstart, ← hboundary] at hlast
  refine ⟨whole, rest, last, more, rfl, ⟨torn, hstream.symm⟩, hnext, ?_, hlast, hmore, hended, ?_⟩
  · rw [hear_append, hear_chunks start hchunks, hfeed, hresults]
  · intro messages hbodies hparse hwhole
    have hframes : chunks.flatten = (whole ++ rest).flatMap wrap := by
      rw [hwhole, hbodies, List.flatMap_map]
      rfl
    obtain rfl : rest = [] := by
      cases rest with
      | nil => rfl
      | cons body rest =>
        refine absurd ⟨rest.flatMap wrap, ?_⟩ (hnext body rfl)
        rw [hframes]
        simp
    rw [List.append_nil] at hbodies hframes
    refine ⟨?_, fun hnone => ?_⟩
    · rw [hbodies, List.map_map]
      refine List.map_congr_left fun m hm => ?_
      simp only [Function.comp_apply, close, hparse m hm]
    · rwa [if_pos ⟨hnone, hframes⟩] at hlast

/-- One whole frame, and the first byte of the next one. -/
theorem hear_frames_cut :
    ∃ fault more, (start.hear ([wrap [0x31], [0x43]].map .bytes ++ List.replicate 2 (Delivery.stop none))).2 =
      close [0x31] :: .fault fault :: more ∧ ∀ result ∈ more, result = .finished := by
  have hnext : [0x43] <+: wrap [0x7B] := by
    rw [wrap_eq]
    decide
  have hlong : ¬wrap [0x7B] <+: [0x43] := by
    rw [wrap_eq]
    decide
  have hlen : ∀ body ∈ ([[0x31], [0x7B]] : List (List UInt8)), body.length ≤ maxBody := by decide
  have hchunks : ∀ chunk ∈ [wrap [0x31], [0x43]], chunk ≠ [] := by simp [wrap_ne_nil]
  have hcut : [wrap [0x31], [0x43]].flatten <+: [[0x31], [0x7B]].flatMap wrap := by
    simpa [List.flatMap_cons] using hnext
  obtain ⟨whole, rest, last, more, hbodies, hwhole, hrest, hresults, hlast, -, hended, -⟩ :=
    hear_frames hlen hchunks hcut none 0
  obtain ⟨rfl, rfl⟩ : whole = [[0x31]] ∧ rest = [[0x7B]] := by
    rcases List.cons_eq_append_iff.1 hbodies with ⟨rfl, rfl⟩ | ⟨whole, rfl, htail⟩
    · simp at hrest
    · rcases List.cons_eq_append_iff.1 htail with ⟨rfl, rfl⟩ | ⟨whole, rfl, hnil⟩
      · exact ⟨rfl, rfl⟩
      · obtain ⟨rfl, rfl⟩ := List.append_eq_nil_iff.1 hnil.symm
        simp [hlong] at hwhole
  rw [if_neg (by simp)] at hlast
  obtain ⟨fault, rfl⟩ := hlast
  exact ⟨fault, more, hresults, hended rfl⟩

end Attendant.Frame.Reader

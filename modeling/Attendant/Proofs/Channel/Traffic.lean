import Attendant.Proofs.Channel.Release

/-!
# Who waits at the mailbox

A sender that finds no room has a seat at the mailbox: first it waits, then it is granted a place. Granting a place
moves no seat (`Mailbox.seats_promote`), so a seat is taken and given up only by its own sender.

`Post` lists all that a move does to the mailbox, the writer, and those who should have a seat. From it comes the
invariant `Orderly`: exactly those have a seat who wait for one, nobody has two, whoever waits finds the mailbox full,
and the mailbox is shut exactly when the writer has ended.
-/

namespace Attendant

namespace Mailbox

variable {κ α : Type}

/-- Those who wait for a place, or have been granted one. -/
def seats (m : Mailbox κ α) : List κ := m.granted ++ m.waiting

/-- Nobody waits while there is room. -/
def Tight (m : Mailbox κ α) : Prop := m.waiting ≠ [] → m.capacity ≤ m.items.length + m.granted.length

section

variable {m m' : Mailbox κ α} {k : κ} {a : α}

private theorem seats_wait (m : Mailbox κ α) (k : κ) : (m.wait k).seats = m.seats ++ [k] := by
  simp [seats, wait]

/-- A place that is granted moves no seat. -/
theorem seats_promote (m : Mailbox κ α) : m.promote.seats = m.seats := by
  unfold promote
  split
  · rename_i k rest hw
    split
    · simp [seats, hw]
    · rfl
  · rfl

private theorem isOpen_promote (m : Mailbox κ α) : m.promote.isOpen = m.isOpen := by
  unfold promote
  repeat' split
  all_goals rfl

private theorem capacity_promote (m : Mailbox κ α) : m.promote.capacity = m.capacity := by
  unfold promote
  repeat' split
  all_goals rfl

theorem items_promote (m : Mailbox κ α) : m.promote.items = m.items := by
  unfold promote
  repeat' split
  all_goals rfl

/-- One place at most is free while somebody waits, and then it is granted. -/
theorem tight_promote (h : m.waiting ≠ [] → m.capacity ≤ m.items.length + m.granted.length + 1) :
    m.promote.Tight := by
  intro hw
  unfold promote at hw ⊢
  cases hwaiting : m.waiting with
  | nil => simp [hwaiting] at hw
  | cons k rest =>
    have hle := h (by rw [hwaiting]; nofun)
    simp only [hwaiting] at hw ⊢
    split
    · simp only [List.length_append, List.length_singleton]
      omega
    · omega

/-- What is taken is the first message, and the room that it leaves is granted to whoever waits. -/
theorem take?_eq_some (h : m.take? = some (a, m')) :
    ∃ rest, m.items = a :: rest ∧ m' = promote { m with items := rest } := by
  unfold take? at h
  split at h
  · rename_i b rest hitems
    cases h
    exact ⟨rest, hitems, rfl⟩
  · cases h

private theorem seats_take (h : m.take? = some (a, m')) : m'.seats = m.seats := by
  obtain ⟨rest, -, rfl⟩ := take?_eq_some h
  exact seats_promote _

private theorem isOpen_take (h : m.take? = some (a, m')) : m'.isOpen = m.isOpen := by
  obtain ⟨rest, -, rfl⟩ := take?_eq_some h
  exact isOpen_promote _

private theorem capacity_take (h : m.take? = some (a, m')) : m'.capacity = m.capacity := by
  obtain ⟨rest, -, rfl⟩ := take?_eq_some h
  exact capacity_promote _

theorem Tight.take (ht : m.Tight) (h : m.take? = some (a, m')) : m'.Tight := by
  obtain ⟨rest, hitems, rfl⟩ := take?_eq_some h
  refine tight_promote fun hw => ?_
  have hle := ht hw
  rw [hitems, List.length_cons] at hle
  show m.capacity ≤ rest.length + m.granted.length + 1
  omega

theorem Tight.push (ht : m.Tight) (a : α) : (m.push a).Tight := by
  intro hw
  have hle := ht hw
  show m.capacity ≤ (m.items ++ [a]).length + m.granted.length
  rw [List.length_append]
  omega

theorem Tight.wait (ht : m.Tight) (hroom : m.hasRoom = false) (k : κ) : (m.wait k).Tight := by
  intro _
  show m.capacity ≤ m.items.length + m.granted.length
  by_cases hw : m.waiting = []
  · simpa [hasRoom, hw] using hroom
  · exact ht hw

end

variable [BEq κ]

theorem isOpen_withdraw (m : Mailbox κ α) (k : κ) : (m.withdraw k).isOpen = m.isOpen := isOpen_promote _

private theorem capacity_withdraw (m : Mailbox κ α) (k : κ) : (m.withdraw k).capacity = m.capacity := capacity_promote _

variable [LawfulBEq κ] {m : Mailbox κ α} {k : κ}

private theorem mem_granted_of_isGranted (h : m.isGranted k = true) : k ∈ m.granted := List.contains_iff_mem.1 h

private theorem seats_redeem (h : m.isGranted k = true) (a : α) : (m.redeem k a).seats = m.seats.erase k := by
  show m.granted.erase k ++ m.waiting = (m.granted ++ m.waiting).erase k
  rw [List.erase_append_left _ (mem_granted_of_isGranted h)]

theorem Tight.redeem (ht : m.Tight) (h : m.isGranted k = true) (a : α) : (m.redeem k a).Tight := by
  intro hw
  have hle := ht hw
  have hmem := mem_granted_of_isGranted h
  have hlen := List.length_erase_of_mem hmem
  have hpos := List.length_pos_of_mem hmem
  show m.capacity ≤ (m.items ++ [a]).length + (m.granted.erase k).length
  rw [List.length_append, List.length_singleton]
  omega

/-- Whoever has one seat at most gives up that one. -/
theorem seats_withdraw (hn : m.seats.Nodup) (k : κ) : (m.withdraw k).seats = m.seats.erase k := by
  rw [withdraw, seats_promote]
  show m.granted.erase k ++ m.waiting.erase k = (m.granted ++ m.waiting).erase k
  by_cases hk : k ∈ m.granted
  · have hnot : k ∉ m.waiting := List.disjoint_of_nodup_append hn hk
    rw [List.erase_append_left _ hk, List.erase_of_not_mem hnot]
  · rw [List.erase_append_right _ hk, List.erase_of_not_mem hk]

theorem Tight.withdraw (ht : m.Tight) (k : κ) : (m.withdraw k).Tight := by
  refine tight_promote fun hw => ?_
  have hsome : m.waiting ≠ [] := by
    intro hnil
    have hw : m.waiting.erase k ≠ [] := hw
    rw [hnil] at hw
    exact hw rfl
  have hle := ht hsome
  have hlen : m.granted.length ≤ (m.granted.erase k).length + 1 := by
    rw [List.length_erase]
    split <;> omega
  show m.capacity ≤ m.items.length + (m.granted.erase k).length + 1
  omega

end Mailbox

namespace Channel

/-! ### What a move does to the mailbox -/

/-- Who waits at the mailbox for a place, or for its place to be used. -/
def Seated (c : Channel) : Sender → Prop
  | .caller key => ∃ id, c.stage? key = some (.queued id)
  | .reader => ∃ reader reply, c.reader = .replying reader reply true

/-- All that a move but a stop of both tasks can do to the mailbox, to the writer, and to those who wait. -/
inductive Post (c c' : Channel) : Prop where
  | quiet (hm : c'.mailbox = c.mailbox) (hw : c'.writer = .ended ↔ c.writer = .ended)
      (hs : ∀ s, c'.Seated s ↔ c.Seated s)
  | push (a : Command) (hm : c'.mailbox = c.mailbox.push a) (hw : c'.writer = c.writer)
      (hs : ∀ s, c'.Seated s ↔ c.Seated s)
  | wait (k : Sender) (hroom : c.mailbox.hasRoom = false) (hk : ¬c.Seated k) (hm : c'.mailbox = c.mailbox.wait k)
      (hw : c'.writer = c.writer) (hs : ∀ s, c'.Seated s ↔ c.Seated s ∨ s = k)
  | redeem (k : Sender) (a : Command) (hg : c.mailbox.isGranted k = true) (hm : c'.mailbox = c.mailbox.redeem k a)
      (hw : c'.writer = c.writer) (hs : ∀ s, c'.Seated s ↔ c.Seated s ∧ s ≠ k)
  | withdraw (k : Sender) (hm : c'.mailbox = c.mailbox.withdraw k) (hw : c'.writer = c.writer)
      (hs : ∀ s, c'.Seated s ↔ c.Seated s ∧ s ≠ k)
  | take (a : Command) (ht : c.mailbox.take? = some (a, c'.mailbox)) (hw : c.writer ≠ .ended) (hw' : c'.writer ≠ .ended)
      (hs : ∀ s, c'.Seated s ↔ c.Seated s)
  | shut (m : Mailbox Sender Command) (hm : m = c.mailbox ∨ ∃ a, c.mailbox.take? = some (a, m))
      (hm' : c'.mailbox = m.shut) (hw : c'.writer = .ended) (hs : ∀ s, c'.Seated s ↔ c.Seated s)

section

variable {c : Channel} {key : Nat} {job : Job} {before : Stage}

private theorem stage?_setStage (hc : c.callers[key]? = some ⟨job, before⟩) (after : Stage) (k : Nat) :
    (c.setStage key after).stage? k = if k = key then some after else c.stage? k := by
  by_cases hk : k = key
  · subst hk
    rw [if_pos rfl, stage?, setStage_caller hc]
    rfl
  · rw [if_neg hk, stage?, stage?, setStage, List.getElem?_modify_ne _ _ (Ne.symm hk)]

/-- A caller that does not wait at the mailbox, neither before its step nor after it, changes no seat. -/
private theorem seated_of_moved {c' : Channel} {after : Stage} (hc : c.callers[key]? = some ⟨job, before⟩)
    (hcallers : c'.callers = (c.setStage key after).callers) (hr : c'.reader = c.reader)
    (hb : ∀ id, before ≠ .queued id) (ha : ∀ id, after ≠ .queued id) (s : Sender) : c'.Seated s ↔ c.Seated s := by
  cases s with
  | reader => simp only [Seated, hr]
  | caller k =>
    have hstage : c'.stage? k = if k = key then some after else c.stage? k := by
      rw [← stage?_setStage hc, stage?, hcallers, stage?]
    simp only [Seated, hstage]
    by_cases hk : k = key
    · subst hk
      have hbefore : c.stage? k = some before := by simp [stage?, hc]
      simp [hbefore, hb, ha]
    · rw [if_neg hk]

private theorem seated_of_left {c' : Channel} {after : Stage} (hc : c.callers[key]? = some ⟨job, before⟩)
    (hcallers : c'.callers = (c.setStage key after).callers) (hr : c'.reader = c.reader)
    (ha : ∀ id, after ≠ .queued id) (s : Sender) : c'.Seated s ↔ c.Seated s ∧ s ≠ .caller key := by
  cases s with
  | reader => simp [Seated, hr]
  | caller k =>
    have hstage : c'.stage? k = if k = key then some after else c.stage? k := by
      rw [← stage?_setStage hc, stage?, hcallers, stage?]
    simp only [Seated, hstage]
    by_cases hk : k = key
    · subst hk
      simp [ha]
    · simp [hk]

private theorem not_seated (hc : c.callers[key]? = some ⟨job, before⟩) (hb : ∀ id, before ≠ .queued id) :
    ¬c.Seated (.caller key) := by
  rintro ⟨id, hid⟩
  simp only [stage?, hc, Option.map_some, Option.some.injEq] at hid
  exact hb id hid

private theorem seated_of_come {c' : Channel} {id : Option Nat} (hc : c.callers[key]? = some ⟨job, before⟩)
    (hcallers : c'.callers = (c.setStage key (.queued id)).callers)
    (hr : c'.reader = c.reader) (s : Sender) : c'.Seated s ↔ c.Seated s ∨ s = .caller key := by
  cases s with
  | reader => simp [Seated, hr]
  | caller k =>
    have hstage : c'.stage? k = if k = key then some (.queued id) else c.stage? k := by
      rw [← stage?_setStage hc, stage?, hcallers, stage?]
    simp only [Seated, hstage]
    by_cases hk : k = key
    · subst hk
      simp
    · simp [hk]

end

private theorem accepted_ne_queued (now : Nat) (job : Job) (id : Option Nat) (other : Option Nat) :
    accepted now job id ≠ .queued other := by
  unfold accepted
  split <;> nofun

private theorem refused_ne_queued (job : Job) (id : Option Nat) (other : Option Nat) :
    refused job id ≠ .queued other := by
  unfold refused
  split <;> nofun

private theorem post_of_stepCaller {now : Nat} {status : Status} {c c' : Channel} {key : Nat}
    (h : c.stepCaller now status key = some c') : Post c c' := by
  obtain ⟨job, before, after, hc, hadvance⟩ := advance_of_stepCaller h
  have hcallers := hadvance.callers
  obtain ⟨hr, hw, -⟩ := hadvance.tasks
  -- at most stages a caller has nothing to do with the mailbox
  have hquiet (hm : c'.mailbox = c.mailbox) (hb : ∀ id, before ≠ .queued id) (ha : ∀ id, after ≠ .queued id) :
      Post c c' :=
    .quiet hm (by rw [hw]) (seated_of_moved hc hcallers hr hb ha)
  cases hadvance with
  | @shut id _ => exact hquiet rfl nofun (refused_ne_queued job id)
  | @send id _ _ => exact .push _ rfl rfl (seated_of_moved hc hcallers hr nofun (accepted_ne_queued now job id))
  | wait _ hroom => exact .wait (.caller key) hroom (not_seated hc nofun) rfl rfl (seated_of_come hc hcallers hr)
  | @leave id _ => exact .withdraw (.caller key) rfl rfl (seated_of_left hc hcallers hr (refused_ne_queued job id))
  | @redeem id _ hgranted =>
    exact .redeem (.caller key) _ hgranted rfl rfl (seated_of_left hc hcallers hr (accepted_ne_queued now job id))
  | _ => exact hquiet rfl nofun nofun

private theorem post_of_expire {now : Nat} {c c' : Channel} {key : Nat} (h : c.expire now key = some c') :
    Post c c' := by
  unfold expire at h
  cases hc : c.callers[key]? with
  | none => simp [hc] at h
  | some caller =>
    obtain ⟨job, stage⟩ := caller
    simp only [hc, Option.bind_eq_bind, Option.bind_some] at h
    split at h
    · split at h
      · cases h
        exact .quiet rfl Iff.rfl (seated_of_moved hc rfl rfl nofun nofun)
      · cases h
    · cases h

private theorem post_of_abandon (c : Channel) (key : Nat) : Post c (c.abandon key) := by
  have hsame : Post c c := .quiet rfl Iff.rfl fun s => Iff.rfl
  unfold abandon
  cases hstage : c.stage? key with
  | none => exact hsame
  | some stage =>
    obtain ⟨⟨job, _⟩, hc, rfl⟩ := Option.map_eq_some_iff.1 hstage
    simp only
    split
    · exact hsame
    · exact .withdraw (.caller key) rfl rfl (seated_of_left hc rfl rfl nofun)

private theorem seated_congr {c c' : Channel} (hcallers : c'.callers = c.callers) (hr : c'.reader = c.reader)
    (s : Sender) : c'.Seated s ↔ c.Seated s := by
  cases s <;> simp only [Seated, stage?, hcallers, hr]

private theorem post_endWriter {c : Channel} {m : Mailbox Sender Command}
    (hm : m = c.mailbox ∨ ∃ a, c.mailbox.take? = some (a, m)) : Post c (endWriter { c with mailbox := m }) :=
  .shut m hm rfl rfl (seated_congr rfl rfl)

private theorem post_of_stepWriter {c c' : Channel} (h : c.stepWriter = some c') : Post c c' := by
  unfold stepWriter at h
  split at h
  · rename_i hw
    split at h
    · rename_i message mailbox ht
      cases h
      exact .take _ ht (by rw [hw]; nofun) nofun (seated_congr rfl rfl)
    · rename_i mailbox ht
      cases h
      exact post_endWriter (Or.inr ⟨_, ht⟩)
    · cases h
  · rename_i hw
    cases h
    exact .quiet rfl (by rw [hw]; exact ⟨nofun, nofun⟩) (seated_congr rfl rfl)
  · rename_i rest hw
    split at h
    · cases h
      exact post_endWriter (Or.inl rfl)
    · split at h
      · cases h
      · cases h
        exact .quiet rfl (by rw [hw]; exact ⟨nofun, nofun⟩) (seated_congr rfl rfl)
  · cases h

/-- A reader that neither comes to wait nor has waited changes no seat. -/
private theorem seated_of_reader {c c' : Channel} (hcallers : c'.callers = c.callers)
    (hb : ∀ reader reply, c.reader ≠ .replying reader reply true)
    (ha : ∀ reader reply, c'.reader ≠ .replying reader reply true) (s : Sender) : c'.Seated s ↔ c.Seated s := by
  cases s with
  | caller key => simp only [Seated, stage?, hcallers]
  | reader => simp [Seated, hb, ha]

private theorem seated_of_reader_left {c c' : Channel} (hcallers : c'.callers = c.callers)
    (ha : ∀ reader reply, c'.reader ≠ .replying reader reply true) (s : Sender) :
    c'.Seated s ↔ c.Seated s ∧ s ≠ .reader := by
  cases s with
  | caller key => simp [Seated, stage?, hcallers]
  | reader => simp [Seated, ha]

private theorem post_of_stepReader {status : Watched Status} {c : Channel} {next : Watched Status × Channel}
    (h : c.stepReader status = some next) : Post c next.2 := by
  have hafter (reader : Frame.Reader) (result : Frame.Result) (other : Frame.Reader) (reply : Value) :
      afterResult reader result ≠ .replying other reply true := by
    cases result <;> nofun
  obtain ⟨status', c'⟩ := next
  have hreads : Reads status c status' c' := reads_of_stepReader h
  cases hreads with
  | scan hr | line hr | request hr | skip hr | fail hr | close hr | clear hr =>
    exact .quiet rfl Iff.rfl (seated_of_reader rfl (by rw [hr]; nofun) nofun)
  | result hr | last hr => exact .quiet rfl Iff.rfl (seated_of_reader rfl (by rw [hr]; nofun) (hafter _ _))
  | @response _ _ body id hr hm =>
    -- a response fills a slot, and goes past the mailbox
    obtain ⟨hcallers, -, hm', hw, -⟩ := c.resolve_frame id body
    exact .quiet hm' (by rw [hw]) (seated_of_reader hcallers (by rw [hr]; nofun) nofun)
  | leave hr => exact .withdraw .reader rfl rfl (seated_of_reader_left rfl nofun)
  | redeem hr hgranted => exact .redeem .reader _ hgranted rfl rfl (seated_of_reader_left rfl nofun)
  | push hr => exact .push _ rfl rfl (seated_of_reader rfl (by rw [hr]; nofun) nofun)
  | wait hr hroom =>
    have hnot : ¬c.Seated .reader := by
      rintro ⟨other, reply', ho⟩
      rw [hr] at ho
      cases ho
    refine .wait .reader hroom hnot rfl rfl fun s => ?_
    cases s with
    | caller key => simp [Seated, stage?]
    | reader => simp [Seated]

/-- Seen from the mailbox, a move is one of few, or it stops both tasks. -/
theorem post_of_make {c c' : Channel} {m : Move} (h : c.make? m = some c') : Post c c' ∨ c' = c.abort := by
  cases m with
  | enter job =>
    cases h
    refine Or.inl (.quiet rfl Iff.rfl fun s => ?_)
    cases s with
    | reader => exact Iff.rfl
    | caller key =>
      simp only [Seated, stage?, Channel.enter]
      rcases Nat.lt_trichotomy key c.callers.length with hlt | rfl | hgt
      · rw [List.getElem?_append_left hlt]
      · simp
      · simp [List.getElem?_append_right (Nat.le_of_lt hgt), List.getElem?_eq_none (Nat.le_of_lt hgt),
          Nat.sub_ne_zero_of_lt hgt]
  | abandon key =>
    cases h
    exact Or.inl (post_of_abandon c key)
  | act a =>
    cases h
    have hcallers : (c.act a).callers = c.callers := congrArg Ledger.callers (act_ledger c a)
    refine Or.inl (.quiet ?_ ?_ (seated_congr hcallers (act_reader c a)))
    all_goals
      unfold Channel.act
      repeat' split
      all_goals rfl
  | abort =>
    cases h
    exact Or.inr rfl
  | step now status label =>
    obtain ⟨next, hstep, rfl⟩ := Option.map_eq_some_iff.1 h
    left
    cases label with
    | caller key =>
      obtain ⟨after, hafter, rfl⟩ := Option.map_eq_some_iff.1 hstep
      exact post_of_stepCaller hafter
    | expire key =>
      obtain ⟨after, hafter, rfl⟩ := Option.map_eq_some_iff.1 hstep
      exact post_of_expire hafter
    | writer =>
      obtain ⟨after, hafter, rfl⟩ := Option.map_eq_some_iff.1 hstep
      exact post_of_stepWriter hafter
    | reader => exact post_of_stepReader hstep

theorem abort_writer (c : Channel) : c.abort.writer = .ended := by
  unfold abort
  simp only
  split <;> split <;> first | rfl | assumption

/-- The end of the writer is final. -/
theorem writer_ended_of_make {c c' : Channel} {m : Move} (h : c.make? m = some c') (he : c.writer = .ended) :
    c'.writer = .ended := by
  rcases post_of_make h with hp | rfl
  · cases hp with
    | quiet _ hw _ => exact hw.2 he
    | push _ _ hw _ | wait _ _ _ _ hw _ | redeem _ _ _ _ hw _ | withdraw _ _ hw _ => exact hw.trans he
    | take _ _ hw _ _ => exact absurd he hw
    | shut _ _ _ hw _ => exact hw
  · exact abort_writer c

/-! ### The order at the mailbox -/

/-- Exactly those have a seat who wait, each has one, and nobody waits while there is room. The mailbox is shut when the
writer has ended. -/
structure Orderly (c : Channel) : Prop where
  nodup : c.mailbox.seats.Nodup
  mem_iff : ∀ s, s ∈ c.mailbox.seats ↔ c.Seated s
  tight : c.mailbox.isOpen = true → c.mailbox.Tight
  shut_iff : c.mailbox.isOpen = false ↔ c.writer = .ended
  capacity : c.mailbox.capacity = 64

namespace Orderly

variable {c c' : Channel}

private theorem shut_same (h : Orderly c) (ho : c'.mailbox.isOpen = c.mailbox.isOpen)
    (hw : c'.writer = .ended ↔ c.writer = .ended) : c'.mailbox.isOpen = false ↔ c'.writer = .ended := by
  rw [ho, hw]
  exact h.shut_iff

/-- Whoever leaves gives up the one seat that it has. -/
private theorem erase (h : Orderly c) {k : Sender} (hseats : c'.mailbox.seats = c.mailbox.seats.erase k)
    (hs : ∀ s, c'.Seated s ↔ c.Seated s ∧ s ≠ k) :
    c'.mailbox.seats.Nodup ∧ ∀ s, s ∈ c'.mailbox.seats ↔ c'.Seated s := by
  refine ⟨?_, fun s => ?_⟩
  · rw [hseats]
    exact h.nodup.erase k
  · rw [hseats, h.nodup.mem_erase_iff, hs, h.mem_iff]
    exact and_comm

theorem post (h : Orderly c) (hp : Post c c') : Orderly c' := by
  cases hp with
  | quiet hm hw hs =>
    refine ⟨?_, fun s => ?_, ?_, h.shut_same (by rw [hm]) hw, ?_⟩
    · rw [hm]
      exact h.nodup
    · rw [hm, hs]
      exact h.mem_iff s
    · rw [hm]
      exact h.tight
    · rw [hm]
      exact h.capacity
  | push a hm hw hs =>
    refine ⟨?_, fun s => ?_, fun ho => ?_, h.shut_same (by rw [hm]; rfl) (by rw [hw]), ?_⟩
    · rw [hm]
      exact h.nodup
    · rw [hm, hs]
      exact h.mem_iff s
    · rw [hm] at ho ⊢
      exact (h.tight ho).push a
    · rw [hm]
      exact h.capacity
  | wait k hroom hk hm hw hs =>
    have hseats : c'.mailbox.seats = c.mailbox.seats ++ [k] := by rw [hm, Mailbox.seats_wait]
    refine ⟨?_, fun s => ?_, fun ho => ?_, h.shut_same (by rw [hm]; rfl) (by rw [hw]), ?_⟩
    · have hnot : k ∉ c.mailbox.seats := fun hmem => hk ((h.mem_iff k).1 hmem)
      rw [hseats, List.nodup_append]
      refine ⟨h.nodup, List.nodup_singleton k, fun s hmem t ht heq => hnot ?_⟩
      rw [List.mem_singleton] at ht
      rwa [heq, ht] at hmem
    · rw [hseats, List.mem_append, List.mem_singleton, hs, h.mem_iff]
    · rw [hm] at ho ⊢
      exact (h.tight ho).wait hroom k
    · rw [hm]
      exact h.capacity
  | redeem k a hg hm hw hs =>
    have hseats : c'.mailbox.seats = c.mailbox.seats.erase k := by rw [hm, Mailbox.seats_redeem hg]
    obtain ⟨hnodup, hmem⟩ := h.erase hseats hs
    refine ⟨hnodup, hmem, fun ho => ?_, h.shut_same (by rw [hm]; rfl) (by rw [hw]), ?_⟩
    · rw [hm] at ho ⊢
      exact (h.tight ho).redeem hg a
    · rw [hm]
      exact h.capacity
  | withdraw k hm hw hs =>
    have hseats : c'.mailbox.seats = c.mailbox.seats.erase k := by rw [hm, Mailbox.seats_withdraw h.nodup]
    have hopen : c'.mailbox.isOpen = c.mailbox.isOpen := by rw [hm, Mailbox.isOpen_withdraw]
    obtain ⟨hnodup, hmem⟩ := h.erase hseats hs
    refine ⟨hnodup, hmem, fun ho => ?_, h.shut_same hopen (by rw [hw]), ?_⟩
    · rw [hopen] at ho
      rw [hm]
      exact (h.tight ho).withdraw k
    · rw [hm, Mailbox.capacity_withdraw]
      exact h.capacity
  | take a ht hw hw' hs =>
    have hopen := Mailbox.isOpen_take ht
    refine ⟨?_, fun s => ?_, fun ho => ?_, h.shut_same hopen ⟨fun he => absurd he hw', fun he => absurd he hw⟩, ?_⟩
    · rw [Mailbox.seats_take ht]
      exact h.nodup
    · rw [Mailbox.seats_take ht, hs]
      exact h.mem_iff s
    · rw [hopen] at ho
      exact (h.tight ho).take ht
    · rw [Mailbox.capacity_take ht]
      exact h.capacity
  | shut m hm hm' hw hs =>
    have hseats : c'.mailbox.seats = c.mailbox.seats := by
      rw [hm']
      show m.seats = c.mailbox.seats
      rcases hm with rfl | ⟨a, ht⟩
      · rfl
      · exact Mailbox.seats_take ht
    have hshut : c'.mailbox.isOpen = false := by
      rw [hm']
      rfl
    have hcapacity : m.capacity = c.mailbox.capacity := by
      rcases hm with rfl | ⟨a, ht⟩
      · rfl
      · exact Mailbox.capacity_take ht
    refine ⟨?_, fun s => ?_, fun ho => ?_, ⟨fun _ => hw, fun _ => hshut⟩, ?_⟩
    · rw [hseats]
      exact h.nodup
    · rw [hseats, hs]
      exact h.mem_iff s
    · rw [hshut] at ho
      cases ho
    · rw [hm']
      exact hcapacity.trans h.capacity

private theorem halted (h : Orderly c) : Orderly (match c.writer with | .ended => c | _ => endWriter c) := by
  split
  · exact h
  · exact h.post (post_endWriter (m := c.mailbox) (Or.inl rfl))

/-- Both tasks are stopped: first the writer, and then the reader gives up its seat. -/
private theorem abort (h : Orderly c) : Orderly c.abort := by
  have hwriter := h.halted
  unfold Channel.abort
  simp only
  split
  · exact hwriter
  · exact hwriter
  · exact hwriter.post (.withdraw .reader rfl rfl (seated_of_reader_left rfl nofun))

/-- Every move keeps the order at the mailbox. -/
theorem make {m : Move} (h : Orderly c) (hmake : c.make? m = some c') : Orderly c' := by
  rcases post_of_make hmake with hp | rfl
  · exact h.post hp
  · exact h.abort

end Orderly

/-- There is order at the mailbox along every run. -/
theorem Run.orderly {es : List Entry} {c : Channel} (h : Run es c) : Orderly c := by
  induction h with
  | fresh =>
    refine ⟨List.nodup_nil, fun s => ?_, fun _ hw => absurd rfl hw, ⟨nofun, nofun⟩, rfl⟩
    cases s <;> simp [Mailbox.seats, Seated, stage?]
  | move m _ hmake ih => exact ih.make hmake

end Channel

end Attendant

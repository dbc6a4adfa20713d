import Attendant.Proofs.Channel.Run
import Mathlib.Data.List.Nodup

/-!
# Which response goes to which caller

Fewer than `2 ^ 64` callers take an id, so no two of them take the same one, and a response goes to the caller
whose id it carries, or to nobody. The invariant is `Sound`: what holds of ids, slots and responses, and of every
caller (`Standing`). A caller that has come to its end has no slot any more, however it has come there.

* `Sound.change`: every change keeps the invariant, `Run.sound`: it holds along every run;
* `Run.correlated`: what a caller can rely on.
-/

namespace Attendant.Channel

/-- Whether an outcome says what the worker has answered. -/
def isAnswer : Except RequestFault Value → Bool
  | .ok _ => true
  | .error (.remote _) => true
  | .error _ => false

/-- Whether an outcome says that nothing has been sent. -/
def isRefusal : Except RequestFault Value → Bool
  | .error .notConnected => true
  | .error .encode => true
  | _ => false

section

variable {took took' : List (Nat × Nat)} {got got' : List (Nat × Value)} {slots slots' : List Nat}

/-- What holds of a caller at each stage, where `took` is who has taken which id, `got` are the responses that have
filled a slot, and `slots` are the slots that are still empty. -/
def Standing (took : List (Nat × Nat)) (got : List (Nat × Value)) (slots : List Nat) (key : Nat) (job : Job) :
    Stage → Prop
  | .gate => key ∉ took.map Prod.fst
  | .identify => job.isAsk = true ∧ key ∉ took.map Prod.fst
  | .register id => job.isAsk = true ∧ (key, id) ∈ took ∧ id ∉ slots ∧ id ∉ got.map Prod.fst
  | .verify id => job.isAsk = true ∧ (key, id) ∈ took
  | .submit (some id) => job.isAsk = true ∧ (key, id) ∈ took
  | .submit none => job.isAsk = false ∧ key ∉ took.map Prod.fst
  | .queued (some id) => job.isAsk = true ∧ (key, id) ∈ took
  | .queued none => job.isAsk = false ∧ key ∉ took.map Prod.fst
  | .waiting id _ => job.isAsk = true ∧ (key, id) ∈ took
  | .withdraw id fault => job.isAsk = true ∧ (key, id) ∈ took ∧
      isAnswer (.error fault) = false ∧ isRefusal (.error fault) = false
  | .done outcome => (∀ id, (key, id) ∈ took → id ∉ slots) ∧
      (job.isAsk = true → isAnswer outcome = true →
        ∃ id body, (key, id) ∈ took ∧ (id, body) ∈ got ∧ outcome = outcomeOf body) ∧
      (isRefusal outcome = true → key ∉ took.map Prod.fst)
  | .abandoned => True

/-- What others do does not concern a caller: they take other ids, and fill and empty other slots. -/
theorem Standing.mono {key : Nat} {job : Job} {stage : Stage} (h : Standing took got slots key job stage)
    (htook : ∀ id, (key, id) ∈ took' ↔ (key, id) ∈ took) (hgot : ∀ p ∈ got, p ∈ got')
    (hslots : ∀ id, (key, id) ∈ took → id ∈ slots' → id ∈ slots)
    (hnew : ∀ id, (key, id) ∈ took → id ∈ got'.map Prod.fst → id ∈ got.map Prod.fst ∨ id ∈ slots) :
    Standing took' got' slots' key job stage := by
  have hkey : key ∈ took'.map Prod.fst ↔ key ∈ took.map Prod.fst := by
    simp only [List.mem_map, Prod.exists, exists_and_right, exists_eq_right, htook]
  cases stage with
  | gate => simpa only [Standing, hkey] using h
  | identify => simpa only [Standing, hkey] using h
  | register id =>
    obtain ⟨hask, hid, hslot, hfree⟩ := h
    refine ⟨hask, (htook id).2 hid, fun hm => hslot (hslots id hid hm), fun hm => ?_⟩
    rcases hnew id hid hm with hm | hm
    · exact hfree hm
    · exact hslot hm
  | verify id => simpa only [Standing, htook] using h
  | submit id => cases id <;> simpa only [Standing, htook, hkey] using h
  | queued id => cases id <;> simpa only [Standing, htook, hkey] using h
  | waiting id deadline => simpa only [Standing, htook] using h
  | withdraw id fault => simpa only [Standing, htook] using h
  | done outcome =>
    obtain ⟨hgone, hanswer, hrefusal⟩ := h
    refine ⟨fun id hid hm => ?_, fun hask ho => ?_, fun ho => ?_⟩
    · have hid := (htook id).1 hid
      exact hgone id hid (hslots id hid hm)
    · obtain ⟨id, body, hid, hbody, heq⟩ := hanswer hask ho
      exact ⟨id, body, (htook id).2 hid, hgot _ hbody, heq⟩
    · rw [hkey]
      exact hrefusal ho
  | abandoned => trivial

/-- A caller without an id may come to any end, if it does not wait for a response. -/
private theorem Standing.done_of_tell {key : Nat} {job : Job} (hask : job.isAsk = false)
    (hkey : key ∉ took.map Prod.fst)
    (outcome : Except RequestFault Value) : Standing took got slots key job (.done outcome) := by
  refine ⟨fun id hid => absurd (List.mem_map_of_mem hid) hkey, fun h => ?_, fun _ => hkey⟩
  rw [hask] at h
  cases h

/-- A caller at the mailbox has an id exactly if it waits for a response. -/
theorem Standing.of_mailbox {key : Nat} {job : Job} {before : Stage} {id : Option Nat}
    (h : Standing took got slots key job before) (hb : before = .submit id ∨ before = .queued id) :
    (∃ n, id = some n ∧ job.isAsk = true ∧ (key, n) ∈ took) ∨
      id = none ∧ job.isAsk = false ∧ key ∉ took.map Prod.fst := by
  rcases hb with rfl | rfl <;> cases id with
  | some n => exact Or.inl ⟨n, rfl, h⟩
  | none => exact Or.inr ⟨rfl, h⟩

/-- A step that leaves ids and slots alone leaves a caller where it may stand. -/
theorem Standing.hop {key : Nat} {job : Job} {before after : Stage} (h : Standing took got slots key job before)
    (hh : Hop job before after) : Standing took got slots key job after := by
  cases hh with
  | refuse hf =>
    have hnone : ∀ id, (key, id) ∉ took := fun id hid => h (List.mem_map_of_mem hid)
    refine ⟨fun id hid => absurd hid (hnone id), fun _ ho => ?_, fun _ => h⟩
    rcases hf with rfl | rfl <;> cases ho
  | ask hask => exact ⟨hask, h⟩
  | tell hask => exact ⟨hask, h⟩
  | closed id => exact ⟨h.1, h.2, rfl, rfl⟩
  | verified id => exact h
  | queue id => cases id <;> exact h
  | accepted now hb =>
    rcases h.of_mailbox hb with ⟨n, rfl, hask, hid⟩ | ⟨rfl, hask, hkey⟩
    · cases job with
      | ask guarded method params limit => exact ⟨hask, hid⟩
      | _ => cases hask
    · cases job with
      | ask guarded method params limit => cases hask
      | _ => exact .done_of_tell hask hkey _
  | refused hb =>
    rcases h.of_mailbox hb with ⟨n, rfl, hask, hid⟩ | ⟨rfl, hask, hkey⟩
    · cases job with
      | ask guarded method params limit => exact ⟨hask, hid, rfl, rfl⟩
      | _ => cases hask
    · cases job with
      | ask guarded method params limit => cases hask
      | _ => exact .done_of_tell hask hkey _
  | lost id deadline => exact ⟨h.1, h.2, rfl, rfl⟩
  | late id deadline method limit => exact ⟨h.1, h.2, rfl, rfl⟩
  | abandon hover => trivial

end

/-- The invariant of a channel, where `took` is who has taken which id, and `got` are the responses that have
filled a slot. -/
structure Sound (took : List (Nat × Nat)) (got : List (Nat × Value)) (l : Ledger) : Prop where
  next : l.nextId = (took.length + 1) % width64
  ids_le : ∀ p ∈ took, p.2 ≤ took.length
  ids : (took.map Prod.snd).Nodup
  keys : (took.map Prod.fst).Nodup
  keys_lt : ∀ p ∈ took, p.1 < l.callers.length
  slots : l.pending.Nodup
  slots_taken : ∀ id ∈ l.pending, id ∈ took.map Prod.snd
  got_once : (got.map Prod.fst).Nodup
  got_taken : ∀ id ∈ got.map Prod.fst, id ∈ took.map Prod.snd
  got_gone : ∀ id ∈ got.map Prod.fst, id ∉ l.pending
  answers : ∀ p ∈ l.answers, p ∈ got
  standing : ∀ key caller, l.callers[key]? = some caller → Standing took got l.pending key caller.job caller.stage

private theorem Sound.fresh : Sound [] [] (ledger {}) := by
  refine ⟨by decide, ?_, ?_, ?_, ?_, ?_, ?_, ?_, ?_, ?_, ?_, ?_⟩
  all_goals simp [ledger]

namespace Sound

variable {took : List (Nat × Nat)} {got : List (Nat × Value)} {l : Ledger}

/-- Two callers have different ids. -/
theorem key_eq (h : Sound took got l) {key other id : Nat} (h1 : (key, id) ∈ took) (h2 : (other, id) ∈ took) :
    key = other := by
  have := List.inj_on_of_nodup_map h.ids h1 h2 rfl
  exact congrArg Prod.fst this

/-- A caller has one id. -/
theorem id_eq (h : Sound took got l) {key id other : Nat} (h1 : (key, id) ∈ took) (h2 : (key, other) ∈ took) :
    id = other := by
  have := List.inj_on_of_nodup_map h.keys h1 h2 rfl
  exact congrArg Prod.snd this

/-- The next id is a new one, as long as there are few enough of them. -/
theorem nextId_eq (h : Sound took got l) (hn : took.length + 1 < width64) : l.nextId = took.length + 1 := by
  rw [h.next, Nat.mod_eq_of_lt hn]

private theorem nextId_not_mem (h : Sound took got l) (hn : took.length + 1 < width64) :
    l.nextId ∉ took.map Prod.snd := by
  intro hm
  obtain ⟨p, hp, hid⟩ := List.mem_map.1 hm
  have := h.ids_le p hp
  have := h.nextId_eq hn
  omega

private theorem standing_moved {took' : List (Nat × Nat)} {got' : List (Nat × Value)} {slots' : List Nat} {key : Nat}
    {job : Job} {before after : Stage} (hc : l.callers[key]? = some ⟨job, before⟩)
    (hkey : Standing took' got' slots' key job after)
    (hother : ∀ k, k ≠ key → ∀ caller, l.callers[k]? = some caller →
      Standing took' got' slots' k caller.job caller.stage) :
    ∀ k caller, (l.moved key after).callers[k]? = some caller →
      Standing took' got' slots' k caller.job caller.stage := by
  intro k caller hk
  by_cases he : k = key
  · subst he
    rw [Ledger.moved_self hc] at hk
    cases hk
    exact hkey
  · rw [l.moved_ne he] at hk
    exact hother k he caller hk

private theorem lt_of_caller {key : Nat} {caller : Caller} (hc : l.callers[key]? = some caller) :
    key < l.callers.length :=
  (List.getElem?_eq_some_iff.1 hc).1

private theorem enter (h : Sound took got l) (job : Job) :
    Sound took got { l with callers := l.callers ++ [{ job }] } := by
  refine { h with keys_lt := fun p hp => ?_, standing := fun key caller hk => ?_ }
  · have := h.keys_lt p hp
    rw [List.length_append, List.length_singleton]
    omega
  · rcases Nat.lt_or_ge key l.callers.length with hlt | hge
    · rw [List.getElem?_append_left hlt] at hk
      exact h.standing key caller hk
    · rw [List.getElem?_append_right hge, List.getElem?_singleton] at hk
      split at hk
      · obtain rfl := Option.some.inj hk
        intro hm
        obtain ⟨p, hp, rfl⟩ := List.mem_map.1 hm
        have := h.keys_lt p hp
        omega
      · cases hk

private theorem hop (h : Sound took got l) {key : Nat} {job : Job} {before after : Stage}
    (hc : l.callers[key]? = some ⟨job, before⟩) (hh : Hop job before after) : Sound took got (l.moved key after) := by
  refine { h with keys_lt := fun p hp => ?_, standing := ?_ }
  · simpa using h.keys_lt p hp
  · exact standing_moved hc ((h.standing key _ hc).hop hh) fun k _ caller hk => h.standing k caller hk

private theorem take (h : Sound took got l) {key : Nat} {job : Job} (hc : l.callers[key]? = some ⟨job, .identify⟩)
    (hn : took.length + 1 < width64) : Sound ((key, l.nextId) :: took) got
      { l.moved key (.register l.nextId) with nextId := (l.nextId + 1) % width64 } := by
  obtain ⟨hask, hkey⟩ := h.standing key _ hc
  -- ids are counted up from one, and the count has not come round yet
  have hnew := h.nextId_not_mem hn
  have hmem : ∀ id, id ∈ took.map Prod.snd → id ∈ ((key, l.nextId) :: took).map Prod.snd := fun id hid =>
    List.mem_cons_of_mem _ hid
  exact {
    next := by rw [h.nextId_eq hn, List.length_cons]
    ids_le := by
      intro p hp
      rw [List.length_cons]
      rcases List.mem_cons.1 hp with rfl | hp
      · exact Nat.le_of_eq (h.nextId_eq hn)
      · exact Nat.le_succ_of_le (h.ids_le p hp)
    ids := List.nodup_cons.2 ⟨hnew, h.ids⟩
    keys := List.nodup_cons.2 ⟨hkey, h.keys⟩
    keys_lt := by
      intro p hp
      rw [Ledger.moved_length]
      rcases List.mem_cons.1 hp with rfl | hp
      · exact lt_of_caller hc
      · exact h.keys_lt p hp
    slots := h.slots
    slots_taken := fun id hid => hmem id (h.slots_taken id hid)
    got_once := h.got_once
    got_taken := fun id hid => hmem id (h.got_taken id hid)
    got_gone := h.got_gone
    answers := h.answers
    standing := by
      refine standing_moved hc ⟨hask, List.mem_cons_self, fun hm => hnew (h.slots_taken _ hm), fun hm =>
        hnew (h.got_taken _ hm)⟩ fun k hne caller hk => ?_
      refine (h.standing k caller hk).mono (fun id => ?_) (fun _ hp => hp)
        (fun _ _ hid => hid) fun _ _ hid => Or.inl hid
      simp [hne] }

private theorem insert (h : Sound took got l) {key : Nat} {job : Job} {id : Nat}
    (hc : l.callers[key]? = some ⟨job, .register id⟩) :
    Sound took got { l.moved key (.verify id) with pending := l.pending ++ [id] } := by
  obtain ⟨hask, hid, hslot, hfree⟩ := h.standing key _ hc
  refine { h with keys_lt := ?_, slots := ?_, slots_taken := ?_, got_gone := ?_, standing := ?_ }
  · intro p hp
    simpa using h.keys_lt p hp
  · exact List.nodup_append.2 ⟨h.slots, List.nodup_singleton _, fun a ha b hb => by
      rintro rfl
      exact hslot (List.mem_singleton.1 hb ▸ ha)⟩
  · intro other hm
    rcases List.mem_append.1 hm with hm | hm
    · exact h.slots_taken other hm
    · obtain rfl := List.mem_singleton.1 hm
      exact List.mem_map_of_mem hid
  · intro other hgot hm
    rcases List.mem_append.1 hm with hm | hm
    · exact h.got_gone other hgot hm
    · obtain rfl := List.mem_singleton.1 hm
      exact hfree hgot
  · refine standing_moved hc ⟨hask, hid⟩ fun k hne caller hk => ?_
    refine (h.standing k caller hk).mono (fun _ => Iff.rfl) (fun _ hp => hp)
      (fun other ho hm => ?_) fun _ _ hm => Or.inl hm
    rcases List.mem_append.1 hm with hm | hm
    · exact hm
    · obtain rfl := List.mem_singleton.1 hm
      exact absurd (h.key_eq ho hid) hne

private theorem collect (h : Sound took got l) {key : Nat} {job : Job} {id deadline : Nat} {body : Value}
    (hc : l.callers[key]? = some ⟨job, .waiting id deadline⟩) (ha : l.answers.lookup id = some body) :
    Sound took got { l.moved key (.done (outcomeOf body)) with answers := l.answers.filter (·.1 != id) } := by
  obtain ⟨-, hid⟩ := h.standing key _ hc
  have hgot : (id, body) ∈ got := by
    obtain ⟨as, bs, hsplit, -⟩ := List.lookup_eq_some_iff.1 ha
    exact h.answers _ (by simp [hsplit])
  refine { h with keys_lt := ?_, answers := ?_, standing := ?_ }
  · intro p hp
    simpa using h.keys_lt p hp
  · exact fun p hp => h.answers p (List.mem_of_mem_filter hp)
  · -- the response has filled the slot, so the slot is gone already
    refine standing_moved hc ⟨fun other ho => ?_, fun _ _ => ⟨id, body, hid, hgot, rfl⟩, fun ho => ?_⟩
      fun k _ caller hk => h.standing k caller hk
    · obtain rfl := h.id_eq hid ho
      exact h.got_gone id (List.mem_map_of_mem hgot)
    · unfold outcomeOf at ho
      split at ho <;> cases ho

private theorem remove (h : Sound took got l) {key : Nat} {job : Job} {id : Nat} {fault : RequestFault}
    (hc : l.callers[key]? = some ⟨job, .withdraw id fault⟩) :
    Sound took got { l.moved key (.done (.error fault)) with pending := l.pending.erase id } := by
  obtain ⟨-, hid, hanswer, hrefusal⟩ := h.standing key _ hc
  refine { h with keys_lt := ?_, slots := ?_, slots_taken := ?_, got_gone := ?_, standing := ?_ }
  · intro p hp
    simpa using h.keys_lt p hp
  · exact h.slots.erase id
  · exact fun other hm => h.slots_taken other (List.mem_of_mem_erase hm)
  · exact fun other hgot hm => h.got_gone other hgot (List.mem_of_mem_erase hm)
  · refine standing_moved hc ⟨fun other ho => ?_, fun _ ho => ?_, fun ho => ?_⟩ fun k _ caller hk => ?_
    · obtain rfl := h.id_eq hid ho
      exact h.slots.not_mem_erase
    · rw [hanswer] at ho
      cases ho
    · rw [hrefusal] at ho
      cases ho
    · exact (h.standing k caller hk).mono (fun _ => Iff.rfl) (fun _ hp => hp) (fun _ _ hm => List.mem_of_mem_erase hm)
        fun _ _ hm => Or.inl hm

private theorem resolve (h : Sound took got l) {id : Nat} (body : Value) (hid : id ∈ l.pending) :
    Sound took ((id, body) :: got)
      { l with pending := l.pending.erase id, answers := l.answers ++ [(id, body)] } := by
  -- whoever has filled a slot has taken it away
  have hnew : id ∉ got.map Prod.fst := fun hm => h.got_gone id hm hid
  have hcases : ∀ other, other ∈ ((id, body) :: got).map Prod.fst → other = id ∨ other ∈ got.map Prod.fst :=
    fun _ hm => List.mem_cons.1 hm
  refine { h with
    slots := ?_, slots_taken := ?_, got_once := ?_, got_taken := ?_, got_gone := ?_, answers := ?_, standing := ?_ }
  · exact h.slots.erase id
  · exact fun other hm => h.slots_taken other (List.mem_of_mem_erase hm)
  · exact List.nodup_cons.2 ⟨hnew, h.got_once⟩
  · intro other hm
    rcases hcases other hm with rfl | hm
    · exact h.slots_taken other hid
    · exact h.got_taken other hm
  · intro other hm hslot
    rcases hcases other hm with rfl | hm
    · exact h.slots.not_mem_erase hslot
    · exact h.got_gone other hm (List.mem_of_mem_erase hslot)
  · intro p hp
    rcases List.mem_append.1 hp with hp | hp
    · exact List.mem_cons_of_mem _ (h.answers p hp)
    · rw [List.mem_singleton.1 hp]
      exact List.mem_cons_self
  · intro k caller hk
    refine (h.standing k caller hk).mono (fun _ => Iff.rfl) (fun _ hp => List.mem_cons_of_mem _ hp)
      (fun _ _ hm => List.mem_of_mem_erase hm) fun other _ hm => ?_
    rcases hcases other hm with rfl | hm
    · exact Or.inr hid
    · exact Or.inl hm

private theorem clear (h : Sound took got l) : Sound took got { l with pending := [] } := by
  refine { h with slots := List.nodup_nil, slots_taken := ?_, got_gone := ?_, standing := ?_ }
  · exact fun id hm => absurd hm List.not_mem_nil
  · exact fun id _ => List.not_mem_nil
  · intro k caller hk
    exact (h.standing k caller hk).mono (fun _ => Iff.rfl) (fun _ hp => hp) (fun _ _ hm => absurd hm List.not_mem_nil)
      fun _ _ hm => Or.inl hm

/-- Every change keeps the invariant, as long as few enough ids have been taken. -/
theorem change (h : Sound took got l) {who : Option Nat} {took? : Option (Nat × Nat)} {got? : Option (Nat × Value)}
    {l' : Ledger} (hc : Change l who took? got? l') (hn : (took?.toList ++ took).length < width64) :
    Sound (took?.toList ++ took) (got?.toList ++ got) l' := by
  cases hc with
  | quiet who => exact h
  | enter job => exact h.enter job
  | hop hc hh => exact h.hop hc hh
  | take hc => exact h.take hc hn
  | insert hc => exact h.insert hc
  | collect hc ha => exact h.collect hc ha
  | remove hc => exact h.remove hc
  | resolve body hid => exact h.resolve body hid
  | clear => exact h.clear

end Sound

/-! ### Runs -/

theorem taken_cons (e : Entry) (es : List Entry) : taken (e :: es) = e.took?.toList ++ taken es := by
  unfold taken
  rw [List.filterMap_cons]
  cases e.took? <;> rfl

theorem resolved_cons (e : Entry) (es : List Entry) :
    resolved (e :: es) = e.resolved?.toList ++ resolved es := by
  unfold resolved
  rw [List.filterMap_cons]
  cases e.resolved? <;> rfl

theorem taken_length_le (e : Entry) (es : List Entry) : (taken es).length ≤ (taken (e :: es)).length := by
  rw [taken_cons, List.length_append]
  exact Nat.le_add_left _ _

/-- The invariant holds along every run. -/
theorem Run.sound {es : List Entry} {c : Channel} (h : Run es c) (hn : (taken es).length < width64) :
    Sound (taken es) (resolved es) c.ledger := by
  -- the bound on the ids of a run holds for every shorter one
  induction h with
  | fresh => exact Sound.fresh
  | @move es c c' m _ hmake ih =>
    rw [taken_cons] at hn ⊢
    rw [resolved_cons]
    have hle := taken_length_le ⟨c, m, c'⟩ es
    rw [taken_cons] at hle
    exact (ih (Nat.lt_of_le_of_lt hle hn)).change (change_of_make hmake) hn

theorem outcome?_eq_some {c : Channel} {key : Nat} {outcome : Except RequestFault Value} :
    c.outcome? key = some outcome ↔ ∃ job, c.callers[key]? = some ⟨job, .done outcome⟩ := by
  unfold outcome? stage?
  cases hc : c.callers[key]? with
  | none => simp
  | some caller =>
    obtain ⟨job, stage⟩ := caller
    cases stage <;> simp

/-- Nothing moves a caller that has come to its end. -/
theorem Change.done_stays {l l' : Ledger} {who : Option Nat} {took? : Option (Nat × Nat)}
    {got? : Option (Nat × Value)} (h : Change l who took? got? l') {key : Nat} {job : Job}
    {outcome : Except RequestFault Value} (hc : l.callers[key]? = some ⟨job, .done outcome⟩) :
    l'.callers[key]? = some ⟨job, .done outcome⟩ := by
  have hmoved {other : Nat} {job' : Job} {before after : Stage} (ho : l.callers[other]? = some ⟨job', before⟩)
      (hne : before ≠ .done outcome) : (l.moved other after).callers[key]? = some ⟨job, .done outcome⟩ := by
    rw [l.moved_ne _ after, hc]
    rintro rfl
    rw [hc] at ho
    cases ho
    exact hne rfl
  cases h with
  | quiet who => exact hc
  | enter job' => rw [List.getElem?_append_left (List.getElem?_eq_some_iff.1 hc).1, hc]
  | hop ho hh =>
    refine hmoved ho ?_
    rintro rfl
    cases hh with
    | accepted now hb => rcases hb with hb | hb <;> cases hb
    | refused hb => rcases hb with hb | hb <;> cases hb
    | abandon hover => cases hover
  | take ho => exact hmoved ho nofun
  | insert ho => exact hmoved ho nofun
  | collect ho _ => exact hmoved ho nofun
  | remove ho => exact hmoved ho nofun
  | resolve body hid => exact hc
  | clear => exact hc

/-- A caller is not forgotten, and goes on with the same job. -/
theorem Change.job_stays {l l' : Ledger} {who : Option Nat} {took? : Option (Nat × Nat)}
    {got? : Option (Nat × Value)} (h : Change l who took? got? l') {key : Nat} {caller : Caller}
    (hc : l.callers[key]? = some caller) : ∃ stage, l'.callers[key]? = some ⟨caller.job, stage⟩ := by
  have hmoved (other : Nat) (after : Stage) :
      ∃ stage, (l.moved other after).callers[key]? = some ⟨caller.job, stage⟩ := by
    by_cases he : key = other
    · subst he
      exact ⟨after, Ledger.moved_self hc after⟩
    · exact ⟨caller.stage, by rw [l.moved_ne he, hc]⟩
  cases h with
  | quiet who => exact ⟨caller.stage, hc⟩
  | enter job =>
    refine ⟨caller.stage, ?_⟩
    rw [List.getElem?_append_left (List.getElem?_eq_some_iff.1 hc).1, hc]
  | hop ho hh => exact hmoved _ _
  | take ho => exact hmoved _ _
  | insert ho => exact hmoved _ _
  | collect ho _ => exact hmoved _ _
  | remove ho => exact hmoved _ _
  | resolve body hid => exact ⟨caller.stage, hc⟩
  | clear => exact ⟨caller.stage, hc⟩

/-- An outcome is final. -/
theorem outcome?_of_make {c c' : Channel} {m : Move} {key : Nat} {outcome : Except RequestFault Value}
    (h : c.make? m = some c') (ho : c.outcome? key = some outcome) : c'.outcome? key = some outcome := by
  obtain ⟨job, hc⟩ := outcome?_eq_some.1 ho
  exact outcome?_eq_some.2 ⟨job, (change_of_make h).done_stays hc⟩

/-! ### Refused requests -/

/-- Whether a caller has not begun, or has been refused before it did. -/
def isUntouched : Stage → Bool
  | .gate => true
  | .done outcome => isRefusal outcome
  | _ => false

/-- A move that leaves ids, slots and the mailbox as they are. -/
def Entry.IsQuiet (e : Entry) : Prop :=
  e.after.nextId = e.before.nextId ∧ e.after.pending = e.before.pending ∧ e.after.mailbox = e.before.mailbox

private theorem isUntouched_of_hop {job : Job} {before after : Stage} (h : Hop job before after)
    (ha : isUntouched after = true) : isUntouched before = true := by
  cases h with
  | refuse hf => rfl
  | accepted now hb =>
    unfold accepted at ha
    split at ha <;> cases ha
  | refused hb =>
    unfold refused at ha
    split at ha <;> cases ha
  | _ => cases ha

private theorem Sound.untouched_before {took : List (Nat × Nat)} {got : List (Nat × Value)} {l l' : Ledger}
    (h : Sound took got l) {who : Option Nat} {took? : Option (Nat × Nat)} {got? : Option (Nat × Value)}
    (hc : Change l who took? got? l') {key : Nat}
    (hafter : ∀ caller, l'.callers[key]? = some caller → isUntouched caller.stage = true) :
    ∀ caller, l.callers[key]? = some caller → isUntouched caller.stage = true := by
  intro caller hcaller
  -- a caller that has just moved must have moved to where it is untouched
  have hmoved {other : Nat} {job : Job} {before after : Stage} (ho : l.callers[other]? = some ⟨job, before⟩)
      (hl : l'.callers = (l.moved other after).callers)
      (hback : isUntouched after = true → isUntouched before = true) :
      isUntouched caller.stage = true := by
    by_cases he : key = other
    · subst he
      rw [ho] at hcaller
      cases hcaller
      exact hback (hafter ⟨job, after⟩ (by rw [hl, Ledger.moved_self ho]))
    · exact hafter caller (by rw [hl, l.moved_ne he, hcaller])
  cases hc with
  | quiet who => exact hafter caller hcaller
  | enter job =>
    refine hafter caller ?_
    rw [List.getElem?_append_left (List.getElem?_eq_some_iff.1 hcaller).1, hcaller]
  | hop ho hh => exact hmoved ho rfl (isUntouched_of_hop hh)
  | take ho => exact hmoved ho rfl nofun
  | insert ho => exact hmoved ho rfl nofun
  | @collect other job id deadline body ho ha =>
    refine hmoved ho rfl fun hu => ?_
    unfold outcomeOf at hu
    split at hu <;> cases hu
  | remove ho =>
    refine hmoved ho rfl fun hu => ?_
    obtain ⟨-, -, -, hrefusal⟩ := h.standing _ _ ho
    exact hrefusal.symm.trans hu
  | resolve body hid => exact hafter caller hcaller
  | clear => exact hafter caller hcaller

private theorem stepCaller_gate {now : Nat} {status : Status} {c c' : Channel} {key : Nat} {job : Job}
    (hc : c.callers[key]? = some ⟨job, .gate⟩) (h : c.stepCaller now status key = some c') :
    ∃ stage, c' = c.setStage key stage := by
  unfold stepCaller at h
  simp only [hc, Option.pure_def, Option.bind_eq_bind, Option.bind_some] at h
  repeat' split at h
  all_goals exact ⟨_, (Option.some.inj h).symm⟩

private theorem quiet_of_untouched {c c' : Channel} {m : Move} {key : Nat} (h : c.make? m = some c')
    (hm : m.caller? = some key) (hbefore : ∀ caller, c.callers[key]? = some caller → isUntouched caller.stage = true)
    (hafter : ∀ caller, c'.callers[key]? = some caller → isUntouched caller.stage = true) :
    Entry.IsQuiet ⟨c, m, c'⟩ := by
  cases m with
  | enter job => cases hm
  | act a => cases hm
  | abort => cases hm
  | abandon other =>
    obtain rfl := Option.some.inj hm
    cases h
    unfold abandon stage? at hafter ⊢
    cases hc : c.callers[other]? with
    | none => exact ⟨rfl, rfl, rfl⟩
    | some caller =>
      simp only [hc, Option.map_some] at hafter ⊢
      by_cases hover : caller.stage.isOver = true
      · rw [if_pos hover]
        exact ⟨rfl, rfl, rfl⟩
      · rw [if_neg hover] at hafter
        have := hafter ⟨caller.job, .abandoned⟩ (Ledger.moved_self (l := c.ledger) hc _)
        cases this
  | step now status label =>
    obtain ⟨next, hstep, rfl⟩ := Option.map_eq_some_iff.1 h
    cases label with
    | writer => cases hm
    | reader => cases hm
    | caller other =>
      obtain rfl := Option.some.inj hm
      obtain ⟨after, hafter', rfl⟩ := Option.map_eq_some_iff.1 hstep
      cases hc : c.callers[other]? with
      | none => simp [stepCaller, hc] at hafter'
      | some caller =>
        obtain ⟨job, stage⟩ := caller
        cases stage with
        | gate =>
          -- the one place that an untouched caller can move from
          obtain ⟨stage, rfl⟩ := stepCaller_gate hc hafter'
          exact ⟨rfl, rfl, rfl⟩
        | done outcome => simp [stepCaller, hc] at hafter'
        | _ => cases hbefore _ hc
    | expire other =>
      obtain rfl := Option.some.inj hm
      obtain ⟨after, hafter', rfl⟩ := Option.map_eq_some_iff.1 hstep
      cases hc : c.callers[other]? with
      | none => simp [expire, hc] at hafter'
      | some caller =>
        obtain ⟨job, stage⟩ := caller
        cases stage with
        | gate => simp [expire, hc] at hafter'
        | done outcome => simp [expire, hc] at hafter'
        | _ => cases hbefore _ hc

/-- The moves of a caller that is untouched have changed nothing. -/
theorem Run.quiet {es : List Entry} {c : Channel} (h : Run es c) (hn : (taken es).length < width64) {key : Nat}
    (hkey : ∀ caller, c.callers[key]? = some caller → isUntouched caller.stage = true) :
    ∀ e ∈ es, e.move.caller? = some key → e.IsQuiet := by
  induction h with
  | fresh => exact fun e he => absurd he List.not_mem_nil
  | @move es c c' m hrun hmake ih =>
    have hn' := Nat.lt_of_le_of_lt (taken_length_le ⟨c, m, c'⟩ es) hn
    have hbefore := (hrun.sound hn').untouched_before (change_of_make hmake) hkey
    intro e he hm
    rcases List.mem_cons.1 he with rfl | he
    · exact quiet_of_untouched hmake hm hbefore hkey
    · exact ih hn' hbefore e he hm

/-! ### What a caller can rely on -/

/-- As long as fewer than `2 ^ 64` ids have been taken, whatever the order of steps: nobody takes an id twice, no
two callers take the same one, and there is at most one slot for each. Whoever gets an answer gets what one
response says that carries his id, and that came while his slot was there; no response fills a slot twice. Whoever
has come to an end has no slot, stays at his end, and a response that comes later changes nothing. A request that
is refused takes no id, and leaves the slots and the mailbox alone. -/
theorem Run.correlated {es : List Entry} {c : Channel} (h : Run es c) (hn : (taken es).length < width64) :
    ((taken es).map Prod.fst).Nodup ∧ ((taken es).map Prod.snd).Nodup ∧ c.pending.Nodup ∧
      ((resolved es).map Prod.fst).Nodup ∧
      (∀ key job outcome, c.callers[key]? = some ⟨job, .done outcome⟩ → job.isAsk = true → isAnswer outcome = true →
        ∃ id message, (key, id) ∈ taken es ∧ (id, message) ∈ resolved es ∧ outcome = outcomeOf message) ∧
      (∀ key id outcome, (key, id) ∈ taken es → c.outcome? key = some outcome →
        id ∉ c.pending ∧ (∀ m c', c.make? m = some c' → c'.outcome? key = some outcome) ∧
          ∀ status reader message body, c.reader = .dispatching reader message →
            Incoming.ofValue? message = some (.response id body) →
              c.stepReader status = some (status, { c with reader := .reading reader })) ∧
      ∀ key outcome, c.outcome? key = some outcome → isRefusal outcome = true →
        (∀ id, (key, id) ∉ taken es) ∧ ∀ e ∈ es, e.move.caller? = some key → e.IsQuiet := by
  have hs := h.sound hn
  refine ⟨hs.keys, hs.ids, hs.slots, hs.got_once, ?_, ?_, ?_⟩
  · intro key job outcome hc hask ho
    obtain ⟨-, hanswer, -⟩ := hs.standing key _ hc
    exact hanswer hask ho
  · intro key id outcome hid ho
    obtain ⟨job, hc⟩ := outcome?_eq_some.1 ho
    obtain ⟨hgone, -, -⟩ := hs.standing key _ hc
    refine ⟨hgone id hid, fun m c' hmake => outcome?_of_make hmake ho, fun status reader message body hr hm => ?_⟩
    have hslot : ¬c.pending.contains id = true := fun hm => hgone id hid (List.contains_iff_mem.1 hm)
    simp only [stepReader, hr, hm, Channel.resolve, if_neg hslot]
  · intro key outcome ho hrefusal
    obtain ⟨job, hc⟩ := outcome?_eq_some.1 ho
    obtain ⟨-, -, hnone⟩ := hs.standing key _ hc
    refine ⟨fun id hid => hnone hrefusal (List.mem_map_of_mem hid), h.quiet hn fun caller hk => ?_⟩
    rw [hc] at hk
    cases hk
    exact hrefusal

/-- The frame of the response 7 to the request 1. -/
def sevenFrame : List UInt8 :=
  [0x43, 0x6F, 0x6E, 0x74, 0x65, 0x6E, 0x74, 0x2D, 0x4C, 0x65, 0x6E, 0x67, 0x74, 0x68, 0x3A, 0x20, 0x31, 0x39,
    0x0D, 0x0A, 0x0D, 0x0A, 0x7B, 0x22, 0x69, 0x64, 0x22, 0x3A, 0x31, 0x2C, 0x22, 0x72, 0x65, 0x73, 0x75, 0x6C,
    0x74, 0x22, 0x3A, 0x37, 0x7D]

/-- One caller gets its answer, while another one is refused. -/
theorem correlated_answer : ∃ es c, Run es c ∧ (taken es).length < width64 ∧
    c.outcome? 0 = some (.ok (.int 7)) ∧ c.outcome? 1 = some (.error .notConnected) ∧
    (∃ id message, (0, id) ∈ taken es ∧ (id, message) ∈ resolved es ∧ .ok (.int 7) = outcomeOf message) ∧
    (∀ id, (0, id) ∈ taken es → id ∉ c.pending) ∧ ∀ id, (1, id) ∉ taken es := by
  have entered :=
    (Run.fresh.move (.enter (.ask false "m" .absent ⟨0⟩)) rfl).move (.enter (.ask true "m" .absent ⟨0⟩)) rfl
  have identified := (entered.move (.step 0 ⟨.idle, 0⟩ (.caller 0)) rfl).move (.step 0 ⟨.idle, 0⟩ (.caller 0)) rfl
  have refused := identified.move (.step 0 ⟨.idle, 0⟩ (.caller 1)) rfl
  have verified := (refused.move (.step 0 ⟨.idle, 0⟩ (.caller 0)) rfl).move (.step 0 ⟨.idle, 0⟩ (.caller 0)) rfl
  have waiting := verified.move (.step 0 ⟨.idle, 0⟩ (.caller 0)) rfl
  have heard := (waiting.move (.act (.writes sevenFrame)) rfl).move (.step 0 ⟨.idle, 0⟩ .reader) rfl
  have answered := (heard.move (.step 0 ⟨.idle, 0⟩ .reader) rfl).move (.step 0 ⟨.idle, 0⟩ (.caller 0)) rfl
  obtain ⟨-, -, -, -, hanswer, hend, hrefused⟩ := answered.correlated (by decide)
  exact ⟨_, _, answered, by decide, rfl, rfl, hanswer 0 _ _ rfl rfl rfl, fun id hid => (hend 0 id _ hid rfl).1,
    (hrefused 1 _ rfl rfl).1⟩

end Attendant.Channel

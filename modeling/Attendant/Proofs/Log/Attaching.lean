import Attendant.Proofs.Log.Waking

/-!
# What is missed around attaching

A tailer that attaches asks for the size of the log, starts its watch, and then reads the log up to that size. What is
appended before the question is read, and what is appended once the watch has been started comes with an event. What is
appended between the two is neither read nor told of: the tailer does not know of it (`World.late`) until the next event.

* `World.attached_shows`: a tailer that has attached and waits shows the whole log but for what came in between;
* `World.not_attached_shows_all`: so a log may stay without its end, although nothing has failed.
-/

namespace Attendant.Log

namespace World

variable {w w' : World}

/-- A tailer that is about to attach to a log, with a sink that nothing has reached. -/
structure Attaching (w : World) : Prop where
  tailer : ∃ path here strategies debounce capacity, w.tailer = .attaching path here strategies debounce capacity
  sink : w.sink = {}
  reported : w.unreported = 0
  late : w.late = 0
  log : ∃ file, w.disk.target = some file

private theorem Attaching.awake (h : w.Attaching) : w.Awake := by
  obtain ⟨path, here, strategies, debounce, capacity, htailer⟩ := h.tailer
  refine ⟨?_, fun _ => h.late, fun _ => ?_⟩
  · rw [htailer]
    exact Nat.le_max_right capacity 1
  · rw [Fresh, htailer]
    trivial

private theorem Attaching.showing (h : w.Attaching) : w.Shows := by
  obtain ⟨path, here, strategies, debounce, capacity, htailer⟩ := h.tailer
  obtain ⟨file, htarget⟩ := h.log
  refine ⟨file, htarget, ?_, ?_⟩
  · rw [htailer, h.sink]
    exact Account.inOrder_start
  · rw [htailer]
    trivial

/-- A tailer that has been detached has been stopped, for good. -/
private theorem attached_of_move (hm : w.Move w') (h : w.tailer.attached = true ∨ w.tailer.stage = .stopped) :
    w'.tailer.attached = true ∨ w'.tailer.stage = .stopped := by
  cases hm with
  | append hgrows => exact h
  | change disk => exact h
  | watch changes hl hstep =>
    obtain ⟨hstage, -, -, hatt, -, -⟩ := Tailer.step_watch hl hstep
    rwa [hstage, hatt]
  | proceed hstep =>
    obtain ⟨⟨-, -, hatt, -⟩, -⟩ := Tailer.step_proceed hstep
    rcases h with h | h
    · exact Or.inl (hatt.trans h)
    · simp [Tailer.step, h] at hstep
  | answer hsaid hstep =>
    rcases h with h | h
    · exact Or.inl ((Tailer.kept_of_system hstep).2.trans h)
    · simp [Tailer.step, h] at hstep
  | detach => exact Or.inr rfl

private theorem Attaching.attached_of_idle (h : w.Attaching) (hr : Relation.ReflTransGen Move w w')
    (hidle : w'.tailer.stage = .idle) : w'.tailer.attached = true := by
  have hkept : w'.tailer.attached = true ∨ w'.tailer.stage = .stopped := by
    clear hidle
    induction hr with
    | refl =>
      obtain ⟨path, here, strategies, debounce, capacity, htailer⟩ := h.tailer
      exact Or.inl (by rw [htailer]; rfl)
    | tail _ hm ih => exact attached_of_move hm ih
  rcases hkept with hattached | hstopped
  · exact hattached
  · rw [hidle] at hstopped
    cases hstopped

/-- A tailer attaches to a log that is only appended to, wherever the appends fall between its steps. When it waits on
an empty queue, every append since its watch was started has been told of, and nothing has failed since it last took an
event, then the sink shows the log but for what was appended between the question for the size and the start of the
watch, and for a character that is cut off. Once an event has been taken, that has been made up for. -/
theorem attached_shows (h : w.Attaching) (hr : Relation.ReflTransGen Move w w') (hidle : w'.tailer.stage = .idle)
    (hempty : w'.tailer.events = 0) (hreported : w'.unreported = 0) (hclean : w'.clean = true)
    (hgrown : w'.grown = true) :
    ∃ content, w'.disk.content? = some content ∧ content.length = w'.tailer.position.offset + w'.late ∧
      Utf8.Reading (content.take w'.tailer.position.offset) w'.sink.contents.toList w'.tailer.position.held ∧
      w'.tailer.position.held.length ≤ 3 ∧
      (w'.late = 0 → Utf8.Reading content w'.sink.contents.toList w'.tailer.position.held) := by
  obtain ⟨hawake, hshows⟩ := awake_shows_of_run h.awake (fun _ _ => h.showing) hr
  obtain ⟨n, htarget, hin, -⟩ := hshows hgrown (h.attached_of_idle hr hidle)
  have hsize := hawake.size?_eq hidle hempty hreported hclean
  rw [Disk.size?_of_target htarget] at hsize
  have hlen : (w'.disk.files n).length = w'.tailer.position.offset + w'.late := Option.some.inj hsize
  have hread := hin.reading
  refine ⟨w'.disk.files n, by rw [Disk.content?, htarget, Option.map_some], hlen, hread, hread.begun.length_le, ?_⟩
  intro hlate
  rw [hlate, Nat.add_zero] at hlen
  rwa [← hlen, List.take_length] at hread

/-- A world in which a tailer is about to attach to a log with one byte in it. -/
def aboutToAttach : World :=
  { tailer := .attaching ⟨[0x2F, 0x61]⟩ ⟨[0x2F]⟩ [.refusing, .manual] ⟨0⟩ 1
    sink := {}, disk := ⟨fun _ => [0x61], some 0⟩ }

private theorem attaching_aboutToAttach : aboutToAttach.Attaching :=
  ⟨⟨_, _, _, _, _, rfl⟩, rfl, rfl, rfl, 0, rfl⟩

/-- A log grows before its size is asked for, and again while the tailer opens it. The first reading shows what came
first, and an event tells of the rest. -/
theorem attached_shows_of_told : ∃ w' : World, Relation.ReflTransGen Move aboutToAttach w' ∧
    w'.disk.content? = some [0x61, 0x62, 0x63] ∧
    Utf8.Reading [0x61, 0x62, 0x63] w'.sink.contents.toList w'.tailer.position.held := by
  have early : aboutToAttach.disk.Grows ⟨fun _ => [0x61, 0x62], some 0⟩ := ⟨0, rfl, rfl, [0x62], rfl⟩
  have again : Disk.Grows ⟨fun _ => [0x61, 0x62], some 0⟩ ⟨fun _ => [0x61, 0x62, 0x63], some 0⟩ :=
    ⟨0, rfl, rfl, [0x63], rfl⟩
  have measured := (Relation.ReflTransGen.refl.tail (.append early)).tail (@Move.answer _ 0 _ _ _ (.size rfl) rfl)
  have watched := (measured.tail (@Move.proceed _ 0 _ _ rfl)).tail (@Move.proceed _ 0 _ _ rfl)
  have told := (watched.tail (.append again)).tail (@Move.watch _ 0 _ _ _ 1 (Or.inl rfl) rfl)
  have placed := (told.tail (@Move.answer _ 0 _ _ _ (.opened rfl) rfl)).tail
    (@Move.answer _ 0 _ _ _ (.content rfl .placed) rfl)
  have filled := placed.tail (@Move.answer _ 0 _ _ _ (.content rfl (.bytes Nat.two_pos (Nat.le_refl 2))) rfl)
  have asking := ((filled.tail (@Move.proceed _ 0 _ _ rfl)).tail (@Move.proceed _ 0 _ _ rfl)).tail
    (@Move.proceed _ 0 _ _ rfl)
  have opened := (asking.tail (@Move.answer _ 0 _ _ _ (.size rfl) rfl)).tail (@Move.answer _ 0 _ _ _ (.opened rfl) rfl)
  have done := (opened.tail (@Move.answer _ 0 _ _ _ (.content rfl .placed) rfl)).tail
    (@Move.answer _ 0 _ _ _ (.content rfl (.bytes Nat.one_pos (Nat.le_refl 1))) rfl)
  obtain ⟨content, hcontent, -, -, -, hshows⟩ :=
    attached_shows attaching_aboutToAttach done rfl rfl rfl rfl rfl
  cases hcontent
  exact ⟨_, done, rfl, hshows rfl⟩

/-- A step in which nothing fails, and in which an event tells of something. -/
def Faithful (u v : World) : Prop :=
  u.Move v ∧ v.clean = true ∧ (u.tailer.events < v.tailer.events → v.unreported < u.unreported)

/-- A log grows after its size was asked for, and before the watch is started. -/
private theorem exists_late_run : ∃ w' : World, Relation.ReflTransGen Faithful aboutToAttach w' ∧
    w'.tailer.stage = .idle ∧ w'.tailer.events = 0 ∧ w'.unreported = 0 ∧ w'.grown = true ∧
    w'.disk.content? = some [0x61, 0x62] ∧ w'.sink.contents = "a" := by
  have grows : aboutToAttach.disk.Grows ⟨fun _ => [0x61, 0x62], some 0⟩ := ⟨0, rfl, rfl, [0x62], rfl⟩
  have measured : Relation.ReflTransGen Faithful aboutToAttach _ :=
    Relation.ReflTransGen.refl.tail ⟨@Move.answer _ 0 _ _ _ (.size rfl) rfl, rfl, nofun⟩
  have late := (measured.tail ⟨@Move.proceed _ 0 _ _ rfl, rfl, nofun⟩).tail ⟨.append grows, rfl, nofun⟩
  have watched := late.tail ⟨@Move.proceed _ 0 _ _ rfl, rfl, nofun⟩
  have placed := (watched.tail ⟨@Move.answer _ 0 _ _ _ (.opened rfl) rfl, rfl, nofun⟩).tail
    ⟨@Move.answer _ 0 _ _ _ (.content rfl .placed) rfl, rfl, nofun⟩
  have done := placed.tail
    ⟨@Move.answer _ 0 _ _ _ (.content rfl (.bytes Nat.one_pos (Nat.le_refl 1))) rfl, rfl, nofun⟩
  exact ⟨_, done, rfl, rfl, rfl, rfl, rfl, by decide⟩

/-- So it is not true that a tailer that has attached and waits always shows the whole log, even if nothing has failed
at all, and every event tells of something. -/
theorem not_attached_shows_all : ¬∀ w w' : World, w.Attaching → Relation.ReflTransGen Faithful w w' →
    w'.tailer.stage = .idle → w'.tailer.events = 0 → w'.unreported = 0 → w'.grown = true →
      ∃ content held, w'.disk.content? = some content ∧ Utf8.Reading content w'.sink.contents.toList held := by
  intro h
  obtain ⟨w', hrun, hidle, hempty, hreported, hgrown, hcontent, hshown⟩ := exists_late_run
  obtain ⟨content, held, hcontent', hread⟩ :=
    h aboutToAttach w' attaching_aboutToAttach hrun hidle hempty hreported hgrown
  rw [hcontent] at hcontent'
  cases hcontent'
  rw [hshown, Utf8.reading_iff] at hread
  have hboth : "a".toList = ['a', 'b'] := (congrArg Prod.fst hread).symm
  exact absurd hboth (by decide)

end World

end Attendant.Log

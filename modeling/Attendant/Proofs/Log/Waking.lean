import Attendant.Proofs.Log.Shown
import Attendant.Proofs.Log.World

/-!
# No change is missed

Events are dropped when the queue is full, and forgotten after a rest. Still none is missed, because an event says no
more than that the size has to be asked for, and each one that is dropped or forgotten is followed by that question.

* `World.Awake`: once every change has been reported and no event waits, what the tailer knows of the size is still
  true, but for what was appended too early for its watch; or it will ask for the size (`Awake.move`);
* `World.Shows`: while the log is only appended to, the sink shows the part of it that has been read (`shows_of_move`);
* `World.caught_up`: so a tailer that waits on an empty queue has read the whole log.
-/

namespace Attendant.Log

/-! ### Passes over a file that may change -/

private theorem offset_of_unchanged {p : Position} {size : Nat} (h : p.diff size = .unchanged) : size = p.offset := by
  unfold Position.diff at h
  split at h
  · cases h
  · split at h
    · cases h
    · omega

private theorem begin_fits (data : List UInt8) (p : Position) (size : Nat) :
    (p.begin size).2.2.1.Fits data (p.begin size).2.1 ∧ (p.begin size).2.1.size = size ∧
      (p.begin size).2.1.offset ≤ size ∧ ∀ fault, (p.begin size).2.2.1 ≠ .failed fault := by
  unfold Position.begin Position.diff
  by_cases h1 : size < p.offset
  · simp only [h1, if_true]
    exact ⟨rfl, trivial, Nat.zero_le _, nofun⟩
  · by_cases h2 : p.offset < size
    · simp only [h1, h2, if_true, if_false]
      exact ⟨rfl, trivial, Nat.le_of_lt h2, nofun⟩
    · simp only [h1, h2, if_false]
      exact ⟨Or.inl (by change p.offset = size; omega), trivial, Nat.le_of_not_lt h1, nofun⟩

private theorem step_fits {data : List UInt8} {p : Position} {pass : Pass} {answer : FileAnswer}
    (hp : p.offset ≤ p.size) (hf : pass.Fits data p) (ha : Answers data p pass answer) :
    (pass.step p answer).2.1.Fits data (pass.step p answer).1 ∧ (pass.step p answer).1.size = p.size ∧
      (pass.step p answer).1.offset ≤ p.size := by
  rcases step_cases hp hf ha with ⟨next, hs, hn, -⟩ | ⟨got, -, hle, hs, -⟩
  · rw [hs]
    exact ⟨hn, rfl, hp⟩
  · have hle' : (p.absorb got.reverse).1.offset ≤ (p.absorb got.reverse).1.size := by
      simpa [Position.absorb] using hle
    rw [hs]
    exact ⟨fits_request hle', rfl, hle'⟩

private theorem failure_of_failed {data : List UInt8} {p : Position} {pass : Pass} {answer : FileAnswer}
    (ha : Answers data p pass answer) {fault : IoFault} (h : (pass.step p answer).2.1 = .failed fault) :
    ∃ fault, answer = .failure fault := by
  have hrequest (p : Position) (stop : Nat) : p.request stop ≠ .failed fault := by
    unfold Position.request
    split <;> nofun
  cases ha with
  | placed => exact absurd h (hrequest _ _)
  | misplaced => exact ⟨_, rfl⟩
  | broken => exact ⟨_, rfl⟩
  | @bytes stop missing n got hn hm =>
    generalize (data.drop (p.offset + got.length)).take n = chunk at h
    cases chunk with
    | nil =>
      simp only [Pass.step, Pass.endRequest] at h
      split at h
      · cases h
      · exact absurd h (hrequest _ _)
    | cons x xs =>
      simp only [Pass.step, Pass.endRequest] at h
      split at h
      · exact absurd h (hrequest _ _)
      · cases h

private theorem Pass.Fits.grow {data data' : List UInt8} {p : Position} {pass : Pass} (h : pass.Fits data p)
    (hover : pass.isOver = false) (hgrow : data <+: data') : pass.Fits data' p := by
  cases pass with
  | seeking stop => exact h
  | reading stop missing got =>
    obtain ⟨hstop, hgot, hrest⟩ := h
    obtain ⟨rest, rfl⟩ := hgrow
    refine ⟨hstop, hgot.trans ?_, hrest⟩
    rw [List.drop_append]
    exact List.prefix_append _ _
  | ended => cases hover
  | failed fault => cases hover

/-- What has been read of a file lies in it. -/
private theorem Account.InOrder.offset_le_length {p : Position} {sink : Sink} {data : List UInt8}
    (h : Account.InOrder ⟨p, sink, data.take p.offset⟩) : p.offset ≤ data.length := by
  have hlen : (data.take p.offset).length = p.offset := h.taken_length
  rw [List.length_take] at hlen
  omega

private theorem Account.InOrder.grow {p : Position} {sink : Sink} {data data' : List UInt8}
    (h : Account.InOrder ⟨p, sink, data.take p.offset⟩) (hgrow : data <+: data') :
    Account.InOrder ⟨p, sink, data'.take p.offset⟩ := by
  obtain ⟨rest, rfl⟩ := hgrow
  rwa [List.take_append_of_le_length h.offset_le_length]

/-- A size that the tailer goes by is not below the offset, and a pass under way reads the file from the offset on. -/
def Tailer.Stage.OnTrack (p : Position) (n : Nat) (data : List UInt8) : Tailer.Stage → Prop
  | .watching size _ | .opening size | .reopening size => p.offset ≤ size
  | .filling file pass | .reading file pass => file = some n ∧ pass.isOver = false ∧ pass.Fits data p
  | _ => True

private theorem Tailer.Stage.OnTrack.grow {p : Position} {n : Nat} {data data' : List UInt8} {stage : Tailer.Stage}
    (h : stage.OnTrack p n data) (hgrow : data <+: data') : stage.OnTrack p n data' := by
  cases stage with
  | filling file pass => exact ⟨h.1, h.2.1, h.2.2.grow h.2.1 hgrow⟩
  | reading file pass => exact ⟨h.1, h.2.1, h.2.2.grow h.2.1 hgrow⟩
  | watching _ _ | opening _ | reopening _ => exact h
  | measuring _ | refused _ | idle | resting _ | draining | checking | sizing | stopped => trivial

private theorem Tailer.Stage.onTrack_of_willAsk {p : Position} {n : Nat} {data : List UInt8} {stage : Tailer.Stage}
    (h : stage.willAsk = true) : stage.OnTrack p n data := by
  cases stage with
  | resting _ | draining | checking | sizing | stopped => trivial
  | measuring _ | watching _ _ | opening _ | filling _ _ | refused _ | idle | reopening _ | reading _ _ => cases h

private theorem Tailer.onTrack_resume {t : Tailer} {n : Nat} {pass : Pass} {data : List UInt8}
    (hfits : pass.Fits data t.position) : (t.resume (some n) pass).stage.OnTrack t.position n data := by
  rcases Tailer.stage_resume t (some n) pass with ⟨-, hs⟩ | ⟨fault, -, hs | ⟨why, hs⟩⟩ | ⟨hover, ⟨hs, -⟩ | hs⟩
  · rw [hs]
    trivial
  · rw [hs]
    trivial
  · rw [hs]
    trivial
  · rw [hs]
    exact ⟨rfl, hover, hfits⟩
  · rw [hs]
    exact ⟨rfl, hover, hfits⟩

namespace World

variable {w w' : World}

/-! ### What a tailer knows of the size -/

/-- Every change has been reported, and no event waits. -/
def Settled (w : World) : Prop := w.unreported = 0 ∧ w.tailer.events = 0

/-- What the tailer knows of the size is true, but for what came late: it has read the log up to that size, or has the
size in mind for the pass that it begins or is at, or it will ask for the size. -/
def Fresh (w : World) : Prop :=
  match w.tailer.stage with
  | .watching size _ | .opening size | .reopening size => w.disk.size? = some (size + w.late)
  | .filling file pass | .reading file pass =>
    ∃ n, file = some n ∧ w.disk.target = some n ∧ pass.Fits (w.disk.files n) w.tailer.position ∧
      (w.disk.files n).length = w.tailer.position.size + w.late ∧ w.tailer.position.offset ≤ w.tailer.position.size
  | .idle => w.clean = true → w.disk.size? = some (w.tailer.position.offset + w.late)
  | _ => True

/-- A tailer that will come to know of every change since its watch was started. -/
structure Awake (w : World) : Prop where
  room : 0 < w.tailer.capacity
  late : w.tailer.stage.mayMiss = false → w.late = 0
  fresh : w.Settled → w.Fresh

private theorem fresh_of_willAsk (h : w.tailer.stage.willAsk = true) : w.Fresh := by
  unfold Fresh
  cases hstage : w.tailer.stage with
  | resting _ | draining | checking | sizing | stopped => trivial
  | measuring _ | watching _ _ | opening _ | filling _ _ | refused _ | idle | reopening _ | reading _ _ =>
    rw [hstage] at h
    cases h

private theorem fresh_of_refused {fault : TailFault} (h : w.tailer.stage = .refused fault) : w.Fresh := by
  unfold Fresh
  rw [h]
  trivial

/-- A pass that has just gone on or come to its end leaves the tailer with a size that is true. -/
private theorem fresh_of_resume {t : Tailer} {n : Nat} {pass : Pass} (hw : w.tailer = t.resume (some n) pass)
    (htarget : w.disk.target = some n) (hfits : pass.Fits (w.disk.files n) t.position)
    (hsize : (w.disk.files n).length = t.position.size + w.late) (hle : t.position.offset ≤ t.position.size)
    (hclean : ∀ fault, pass = .failed fault → w.clean = false) : w.Fresh := by
  have hpos : w.tailer.position = t.position := by rw [hw, Tailer.position_resume]
  rw [← hpos] at hfits hsize hle
  have hto := Tailer.stage_resume t (some n) pass
  rw [← hw] at hto
  rcases hto with ⟨rfl, hs⟩ | ⟨fault, rfl, hs | ⟨why, hs⟩⟩ | ⟨-, ⟨hs, -⟩ | hs⟩
  · rw [Fresh, hs]
    intro _
    rw [Disk.size?_of_target htarget]
    -- the file has ended before its size, or right there
    rcases hfits with he | he
    · rw [hsize, he]
    · exact congrArg some (by omega)
  · rw [Fresh, hs]
    intro hc
    rw [hclean fault rfl] at hc
    cases hc
  · exact fresh_of_refused hs
  · rw [Fresh, hs]
    exact ⟨n, rfl, htarget, hfits, hsize, hle⟩
  · rw [Fresh, hs]
    exact ⟨n, rfl, htarget, hfits, hsize, hle⟩

private theorem fresh_of_opened {n size : Nat} {p : Position} {pass : Pass} {more : List SinkCall} {sink : Sink}
    {clean : Bool} (h : w.Fresh) (hstage : w.tailer.stage = .opening size ∨ w.tailer.stage = .reopening size)
    (htarget : w.disk.target = some n) (hbegin : (w.tailer.position.begin size).2 = (p, pass, more)) :
    World.Fresh { w with tailer := { w.tailer with position := p }.resume (some n) pass, sink, clean } := by
  have hsize : w.disk.size? = some (size + w.late) := by
    rcases hstage with hstage | hstage
    · rwa [Fresh, hstage] at h
    · rwa [Fresh, hstage] at h
  rw [Disk.size?_of_target htarget] at hsize
  obtain ⟨hfits, hpsize, hle, hnot⟩ := begin_fits (w.disk.files n) w.tailer.position size
  rw [hbegin] at hfits hpsize hle hnot
  subst hpsize
  exact fresh_of_resume rfl htarget hfits (Option.some.inj hsize) hle fun fault hf => absurd hf (hnot fault)

private theorem fresh_of_content {file : Option Nat} {before pass : Pass} {content : FileAnswer} {p : Position}
    {more : List SinkCall} {sink : Sink} {clean : Bool} (h : w.Fresh)
    (hstage : w.tailer.stage = .filling file before ∨ w.tailer.stage = .reading file before)
    (hsaid : w.disk.Says w.tailer (.content content)) (hgo : before.step w.tailer.position content = (p, pass, more))
    (hclean : (Tailer.Answer.content content).isFailure = true → clean = false) :
    World.Fresh { w with tailer := { w.tailer with position := p }.resume file pass, sink, clean } := by
  have hunder : ∃ n, file = some n ∧ w.disk.target = some n ∧ before.Fits (w.disk.files n) w.tailer.position ∧
      (w.disk.files n).length = w.tailer.position.size + w.late ∧
      w.tailer.position.offset ≤ w.tailer.position.size := by
    rcases hstage with hstage | hstage
    · rwa [Fresh, hstage] at h
    · rwa [Fresh, hstage] at h
  obtain ⟨n, rfl, htarget, hfits, hsize, hle⟩ := hunder
  cases hsaid with
  | content hpass hanswers =>
    rw [Tailer.pass?_of_stage hstage] at hpass
    cases hpass
    obtain ⟨hfits', hpsize, hle'⟩ := step_fits hle hfits hanswers
    rw [hgo] at hfits' hpsize hle'
    rw [← hpsize] at hsize hle'
    refine fresh_of_resume rfl htarget hfits' hsize hle' fun fault hf => hclean ?_
    obtain ⟨fault', rfl⟩ := failure_of_failed hanswers (by rw [hgo]; exact hf)
    rfl

private theorem fresh_of_answer {now : Nat} {answer : Tailer.Answer} {t : Tailer} {calls : List SinkCall} (h : w.Awake)
    (hsaid : w.disk.Says w.tailer answer) (hstep : w.tailer.step now (.system answer) = some (t, calls))
    (hsettled : w.unreported = 0 ∧ t.events = 0) :
    World.Fresh { w with
      tailer := t, sink := w.sink.recordAll calls, clean := w.clean && !answer.isFailure } := by
  rcases Tailer.step_system hstep with ⟨hfail, -, -, -, -, hidle | ⟨fault, hrefused⟩⟩ |
    ⟨size, strategies, hstage, rfl, -, rfl⟩ | ⟨size, hstage, rfl, -, rfl⟩ | ⟨file, p, pass, more, rfl, -, hpass⟩
  · rw [Fresh, hidle]
    intro hc
    simp [hfail] at hc
  · exact fresh_of_refused hrefused
  · cases hsaid with
    | size hsize =>
      change w.disk.size? = some (size + w.late)
      rw [h.late (by rw [hstage]; rfl)]
      exact hsize
  · cases hsaid with
    | size hsize =>
      rw [← Nat.add_zero size, ← h.late (by rw [hstage]; rfl)] at hsize
      by_cases hdiff : w.tailer.position.diff size = .unchanged
      · rw [offset_of_unchanged hdiff] at hsize
        rw [if_pos hdiff]
        exact fun _ => hsize
      · rw [if_neg hdiff]
        exact hsize
  · have hevents : w.tailer.events = 0 := by
      rw [← hsettled.2, Tailer.events_resume]
    have hfresh := h.fresh ⟨hsettled.1, hevents⟩
    rcases hpass with ⟨size, hstage, rfl, hbegin⟩ | ⟨before, content, hstage, rfl, hgo⟩
    · cases hsaid with
      | opened htarget => exact fresh_of_opened hfresh hstage htarget hbegin
    · exact fresh_of_content hfresh hstage hsaid hgo fun hfail => by simp [hfail]

/-- An append to the log, once the watch has been started, is a change that no event has told of yet. -/
private theorem Awake.append {disk : Disk} (h : w.Awake) (hgrows : w.disk.Grows disk) : (w.append disk).Awake := by
  refine ⟨h.room, fun hs => ?_, fun hs => ?_⟩
  · have hmeasured : w.tailer.stage.isMeasured = false := by
      revert hs
      change w.tailer.stage.mayMiss = false → _
      cases w.tailer.stage <;> first | exact fun _ => rfl | exact nofun
    simp only [World.append, hmeasured]
    exact h.late hs
  · have hwatch : w.tailer.stage.hasWatch = false := by
      cases hwatch : w.tailer.stage.hasWatch with
      | false => rfl
      | true =>
        have hcount := hs.1
        simp [World.append, hwatch] at hcount
    have hsettled : w.Settled := ⟨by simpa [World.append, hwatch] using hs.1, hs.2⟩
    have hfresh := h.fresh hsettled
    cases hstage : w.tailer.stage with
    | watching size strategies =>
      rw [Fresh, hstage] at hfresh
      have hsize := hgrows.size?_eq hfresh
      rw [Nat.add_assoc] at hsize
      simpa [Fresh, World.append, hstage, Tailer.Stage.isMeasured] using hsize
    | measuring strategies => simp [Fresh, World.append, hstage]
    | refused fault => exact fresh_of_refused (w := w.append disk) hstage
    | _ => simp [hstage, Tailer.Stage.hasWatch] at hwatch

private theorem Awake.proceed {now : Nat} {t : Tailer} {calls : List SinkCall} (h : w.Awake)
    (hstep : w.tailer.step now .proceed = some (t, calls)) :
    World.Awake { w with
      tailer := t, sink := w.sink.recordAll calls
      late := if w.takes then 0 else w.late, clean := w.takes || w.clean } := by
  obtain ⟨⟨hpos, hcap, -, -⟩, ⟨hfrom, hask⟩ | ⟨size, strategies, hstage, hevents, hto⟩⟩ := Tailer.step_proceed hstep
  · refine ⟨by rw [hcap]; exact h.room, fun _ => ?_, fun _ => fresh_of_willAsk hask⟩
    rcases hfrom with hidle | hearly
    · simp [takes, hidle]
    · simp [h.late hearly]
  · have htakes : w.takes = false := by simp [takes, hstage]
    refine ⟨by rw [hcap]; exact h.room, fun hs => ?_, fun hs => ?_⟩
    · rcases hto with ⟨rest, ht⟩ | ht | ⟨fault, ht⟩ <;> rw [ht] at hs <;> cases hs
    · have hfresh := h.fresh ⟨hs.1, hevents ▸ hs.2⟩
      rw [Fresh, hstage] at hfresh
      rcases hto with ⟨rest, ht⟩ | ht | ⟨fault, ht⟩
      · simpa [Fresh, ht, htakes] using hfresh
      · simpa [Fresh, ht, htakes] using hfresh
      · exact fresh_of_refused ht

/-- Whoever makes a step, a tailer that will come to know of every change still will. -/
theorem Awake.move (h : w.Awake) (hm : w.Move w') : w'.Awake := by
  cases hm with
  | append hgrows => exact h.append hgrows
  | change disk => exact ⟨h.room, h.late, fun hs => absurd hs.1 (Nat.succ_ne_zero _)⟩
  | watch changes hl hstep =>
    obtain ⟨hstage, -, hcap, -, hevents, -⟩ := Tailer.step_watch hl hstep
    refine ⟨by rw [hcap]; exact h.room, fun hs => h.late (hstage ▸ hs), fun hs => ?_⟩
    -- if there was no room for the event, another one waits
    have hpos := Tailer.events_notice_pos h.room
    rw [← hevents] at hpos
    exact absurd hs.2 (Nat.ne_of_gt hpos)
  | proceed hstep => exact h.proceed hstep
  | answer hsaid hstep =>
    refine ⟨by rw [(Tailer.kept_of_system hstep).1]; exact h.room, fun hs => ?_, fresh_of_answer h hsaid hstep⟩
    change w.late = 0
    rcases Tailer.step_system hstep with ⟨-, -, -, -, -, hidle | ⟨fault, hrefused⟩⟩ | ⟨size, strategies, -, -, -, rfl⟩ |
      ⟨size, hstage, -, -, rfl⟩ | ⟨file, p, pass, more, rfl, -, -⟩
    · rw [hidle] at hs
      cases hs
    · rw [hrefused] at hs
      cases hs
    · cases hs
    · exact h.late (by rw [hstage]; rfl)
    · have hpass : w.tailer.stage.inPass = true := by
        rcases Tailer.stage_resume { w.tailer with position := p } file pass with ⟨-, hto⟩ | ⟨fault, -, hto | ⟨why, hto⟩⟩ |
          ⟨-, ⟨-, hpass⟩ | hto⟩
        · rw [hto] at hs
          cases hs
        · rw [hto] at hs
          cases hs
        · rw [hto] at hs
          cases hs
        · exact hpass
        · rw [hto] at hs
          cases hs
      exact h.late (Tailer.mayMiss_of_inPass hpass)
  | detach => exact ⟨h.room, nofun, fun _ => trivial⟩

/-! ### What the sink shows while the log is only appended to -/

/-- The sink shows the part of the log that has been read, and the tailer goes on with the rest. -/
def Shows (w : World) : Prop :=
  ∃ n, w.disk.target = some n ∧
    Account.InOrder ⟨w.tailer.position, w.sink, (w.disk.files n).take w.tailer.position.offset⟩ ∧
    w.tailer.stage.OnTrack w.tailer.position n (w.disk.files n)

private theorem shows_of_append {disk : Disk} (h : w.Shows) (hgrows : w.disk.Grows disk) : (w.append disk).Shows := by
  obtain ⟨n, htarget, hin, htrack⟩ := h
  obtain ⟨n', htarget', htarget'', hgrow⟩ := hgrows
  rw [htarget] at htarget'
  cases htarget'
  exact ⟨n, htarget'', hin.grow hgrow, htrack.grow hgrow⟩

/-- A pass that has just gone on or come to its end: the sink shows what has been read by then. -/
private theorem shows_of_resume {t : Tailer} {n : Nat} {pass : Pass} (hw : w.tailer = t.resume (some n) pass)
    (htarget : w.disk.target = some n)
    (hin : Account.InOrder ⟨t.position, w.sink, (w.disk.files n).take t.position.offset⟩)
    (hfits : pass.Fits (w.disk.files n) t.position) : w.Shows := by
  refine ⟨n, htarget, ?_, ?_⟩
  · rwa [hw, Tailer.position_resume]
  · rw [hw, Tailer.position_resume]
    exact Tailer.onTrack_resume hfits

private theorem shows_of_opened {n size : Nat} {p : Position} {pass : Pass} {more : List SinkCall} {clean : Bool}
    (h : w.Shows) (hstage : w.tailer.stage = .opening size ∨ w.tailer.stage = .reopening size)
    (htarget : w.disk.target = some n) (hbegin : (w.tailer.position.begin size).2 = (p, pass, more)) :
    World.Shows { w with
      tailer := { w.tailer with position := p }.resume (some n) pass, sink := w.sink.recordAll more, clean } := by
  obtain ⟨m, htarget', hin, hknown⟩ := h
  rw [htarget] at htarget'
  cases htarget'
  have hle : w.tailer.position.offset ≤ size := by
    rcases hstage with hstage | hstage
    · rwa [hstage] at hknown
    · rwa [hstage] at hknown
  obtain ⟨p', pass', hbegin', hin', hfits, -, -⟩ := begin_inOrder (w.disk.files n) hin size
  rw [if_neg (Nat.not_lt.2 hle)] at hbegin' hin'
  rw [hbegin] at hbegin'
  cases hbegin'
  refine shows_of_resume rfl htarget ?_ hfits
  rw [← taken_after [] hin hin' rfl]
  exact hin'

private theorem shows_of_content {file : Option Nat} {before pass : Pass} {content : FileAnswer} {p : Position}
    {more : List SinkCall} {clean : Bool} (h : w.Shows)
    (hstage : w.tailer.stage = .filling file before ∨ w.tailer.stage = .reading file before)
    (hsaid : w.disk.Says w.tailer (.content content)) (hgo : before.step w.tailer.position content = (p, pass, more)) :
    World.Shows { w with
      tailer := { w.tailer with position := p }.resume file pass, sink := w.sink.recordAll more, clean } := by
  obtain ⟨n, htarget, hin, hknown⟩ := h
  have hunder : file = some n ∧ before.isOver = false ∧ before.Fits (w.disk.files n) w.tailer.position := by
    rcases hstage with hstage | hstage
    · rwa [hstage] at hknown
    · rwa [hstage] at hknown
  obtain ⟨rfl, -, hfits⟩ := hunder
  cases hsaid with
  | content hpass hanswers =>
    rw [Tailer.pass?_of_stage hstage] at hpass
    cases hpass
    obtain ⟨p', pass', texts, hgo', hin', hfits', -, -⟩ := step_inOrder hin hfits hanswers
    rw [hgo] at hgo'
    cases hgo'
    refine shows_of_resume rfl htarget ?_ hfits'
    rw [← taken_after texts hin hin' rfl]
    exact hin'

private theorem shows_of_answer {now : Nat} {answer : Tailer.Answer} {t : Tailer} {calls : List SinkCall} (h : w.Shows)
    (hsaid : w.disk.Says w.tailer answer) (hstep : w.tailer.step now (.system answer) = some (t, calls))
    (ha : w.tailer.attached = true) :
    World.Shows { w with
      tailer := t, sink := w.sink.recordAll calls, clean := w.clean && !answer.isFailure } := by
  have hshows := h
  obtain ⟨n, htarget, hin, -⟩ := h
  -- the log has not become shorter than what has been read of it
  have hlong {size : Nat} (hsize : w.disk.size? = some size) : w.tailer.position.offset ≤ size := by
    rw [Disk.size?_of_target htarget] at hsize
    cases hsize
    exact hin.offset_le_length
  rcases Tailer.step_system hstep with ⟨-, rfl, hpos, -, -, hto⟩ | ⟨size, strategies, -, rfl, rfl, rfl⟩ |
    ⟨size, -, rfl, rfl, rfl⟩ | ⟨file, p, pass, more, rfl, rfl, hpass⟩
  · refine ⟨n, htarget, by rwa [hpos], ?_⟩
    rcases hto with hto | ⟨fault, hto⟩
    · rw [hto]
      trivial
    · rw [hto]
      trivial
  · cases hsaid with
    | size hsize => exact ⟨n, htarget, hin, hlong hsize⟩
  · cases hsaid with
    | size hsize =>
      refine ⟨n, htarget, hin, ?_⟩
      by_cases hdiff : w.tailer.position.diff size = .unchanged
      · rw [if_pos hdiff]
        trivial
      · rw [if_neg hdiff]
        exact hlong hsize
  · rw [Tailer.gate, if_pos ha]
    rcases hpass with ⟨size, hstage, rfl, hbegin⟩ | ⟨before, content, hstage, rfl, hgo⟩
    · cases hsaid with
      | opened htarget' => exact shows_of_opened hshows hstage htarget' hbegin
    · exact shows_of_content hshows hstage hsaid hgo

private theorem shows_of_proceed {now : Nat} {t : Tailer} {calls : List SinkCall} (h : w.Shows)
    (hstep : w.tailer.step now .proceed = some (t, calls)) :
    World.Shows { w with
      tailer := t, sink := w.sink.recordAll calls
      late := if w.takes then 0 else w.late, clean := w.takes || w.clean } := by
  obtain ⟨n, htarget, hin, hknown⟩ := h
  obtain ⟨⟨hpos, -, -, rfl⟩, ⟨-, hask⟩ | ⟨size, strategies, hstage, -, hto⟩⟩ := Tailer.step_proceed hstep
  · exact ⟨n, htarget, by rwa [hpos], Tailer.Stage.onTrack_of_willAsk hask⟩
  · rw [hstage] at hknown
    refine ⟨n, htarget, by rwa [hpos], ?_⟩
    rcases hto with ⟨rest, hto⟩ | hto | ⟨fault, hto⟩
    · rw [hto, hpos]
      exact hknown
    · rw [hto, hpos]
      exact hknown
    · rw [hto]
      trivial

/-- Whoever makes a step, the sink goes on to show what has been read, as long as the log is only appended to and the
tailer is not detached. -/
theorem shows_of_move (hm : w.Move w') (h : w.grown = true → w.tailer.attached = true → w.Shows)
    (hg : w'.grown = true) (ha : w'.tailer.attached = true) : w'.Shows := by
  cases hm with
  | append hgrows => exact shows_of_append (h hg ha) hgrows
  | change disk => cases hg
  | watch changes hl hstep =>
    obtain ⟨hstage, hpos, -, hatt, -, rfl⟩ := Tailer.step_watch hl hstep
    obtain ⟨n, htarget, hin, hknown⟩ := h hg (hatt.symm.trans ha)
    refine ⟨n, htarget, ?_, ?_⟩
    · rwa [hpos]
    · rwa [hstage, hpos]
  | proceed hstep =>
    obtain ⟨⟨-, -, hatt, -⟩, -⟩ := Tailer.step_proceed hstep
    exact shows_of_proceed (h hg (hatt.symm.trans ha)) hstep
  | answer hsaid hstep =>
    have hatt := (Tailer.kept_of_system hstep).2.symm.trans ha
    exact shows_of_answer (h hg hatt) hsaid hstep hatt
  | detach => cases ha

/-! ### A tailer that waits -/

/-- What holds at any time of a run. -/
theorem awake_shows_of_run (hawake : w.Awake) (hshows : w.grown = true → w.tailer.attached = true → w.Shows)
    (hr : Relation.ReflTransGen Move w w') :
    w'.Awake ∧ (w'.grown = true → w'.tailer.attached = true → w'.Shows) := by
  induction hr with
  | refl => exact ⟨hawake, hshows⟩
  | tail _ hm ih => exact ⟨ih.1.move hm, shows_of_move hm ih.2⟩

/-- A tailer that waits on an empty queue, and has been told of every change, has read the log but for what came late. -/
theorem Awake.size?_eq (h : w.Awake) (hidle : w.tailer.stage = .idle) (hempty : w.tailer.events = 0)
    (hreported : w.unreported = 0) (hclean : w.clean = true) :
    w.disk.size? = some (w.tailer.position.offset + w.late) := by
  have hfresh := h.fresh ⟨hreported, hempty⟩
  rw [Fresh, hidle] at hfresh
  exact hfresh hclean

/-- Where a run may begin: the tailer has attached, and an event waits for it, or it has taken one and will ask for the
size, or it waits with the whole log read. If the log has only been appended to, the sink shows what has been read. -/
structure Start (w : World) : Prop where
  room : 0 < w.tailer.capacity
  attached : w.tailer.stage.hasAttached = true
  late : w.late = 0
  ready : 0 < w.tailer.events ∨ w.tailer.stage.willAsk = true ∨
    w.tailer.stage = .idle ∧ w.disk.size? = some w.tailer.position.offset
  shows : w.grown = true → w.Shows

private theorem Start.awake (h : w.Start) : w.Awake := by
  refine ⟨h.room, fun _ => h.late, fun hs => ?_⟩
  rcases h.ready with he | hask | ⟨hidle, hsize⟩
  · exact absurd hs.2 (Nat.ne_of_gt he)
  · exact fresh_of_willAsk hask
  · rw [Fresh, hidle, h.late]
    exact fun _ => hsize

/-- A tailer that has attached does not attach again, so nothing comes too early for its watch any more. -/
private theorem late_of_move (hattached : w.tailer.stage.hasAttached = true) (hlate : w.late = 0) (hm : w.Move w') :
    w'.tailer.stage.hasAttached = true ∧ w'.late = 0 := by
  cases hm with
  | append hgrows =>
    have hmeasured : w.tailer.stage.isMeasured = false := by
      cases hstage : w.tailer.stage with
      | watching size strategies => simp [hstage, Tailer.Stage.hasAttached, Tailer.isFollowing] at hattached
      | _ => rfl
    exact ⟨hattached, by simp [World.append, hmeasured, hlate]⟩
  | change disk => exact ⟨hattached, hlate⟩
  | watch changes hl hstep =>
    obtain ⟨hstage, -⟩ := Tailer.step_watch hl hstep
    exact ⟨hstage ▸ hattached, hlate⟩
  | proceed hstep => exact ⟨Tailer.hasAttached_of_step hattached hstep, by simp [hlate]⟩
  | answer hsaid hstep => exact ⟨Tailer.hasAttached_of_step hattached hstep, hlate⟩
  | detach => exact ⟨rfl, hlate⟩

/-- What holds at any time of a run that begins so. -/
private theorem Start.run (h : w.Start) (hr : Relation.ReflTransGen Move w w') :
    w'.Awake ∧ w'.late = 0 ∧ (w'.grown = true → w'.tailer.attached = true → w'.Shows) := by
  have hlate : w'.tailer.stage.hasAttached = true ∧ w'.late = 0 := by
    induction hr with
    | refl => exact ⟨h.attached, h.late⟩
    | tail _ hm ih => exact late_of_move ih.1 ih.2 hm
  obtain ⟨hawake, hshows⟩ := awake_shows_of_run h.awake (fun hg _ => h.shows hg) hr
  exact ⟨hawake, hlate.2, hshows⟩

/-- No change is missed: whatever happens to the files and in whatever order everybody makes steps, however many
events are dropped because the queue is full or forgotten after a rest. When the tailer waits on an empty queue, is
attached, has been told of every change, and nothing has failed since it last took an event, then the offset is the
size of the log; and if the log has only been appended to, the sink shows the whole of it, but for a character that is
cut off at its end. -/
theorem caught_up (h : w.Start) (hr : Relation.ReflTransGen Move w w') (hidle : w'.tailer.stage = .idle)
    (hempty : w'.tailer.events = 0) (hattached : w'.tailer.attached = true) (hreported : w'.unreported = 0)
    (hclean : w'.clean = true) :
    w'.disk.size? = some w'.tailer.position.offset ∧
      (w'.grown = true → ∃ content, w'.disk.content? = some content ∧
        Utf8.Reading content w'.sink.contents.toList w'.tailer.position.held ∧
        w'.tailer.position.held.length ≤ 3) := by
  obtain ⟨hawake, hlate, hshows⟩ := h.run hr
  have hsize := hawake.size?_eq hidle hempty hreported hclean
  rw [hlate, Nat.add_zero] at hsize
  refine ⟨hsize, fun hg => ?_⟩
  obtain ⟨n, htarget, hin, -⟩ := hshows hg hattached
  have hlen : (w'.disk.files n).length = w'.tailer.position.offset := by
    rw [Disk.size?_of_target htarget] at hsize
    exact Option.some.inj hsize
  have hread := hin.reading
  rw [← hlen, List.take_length] at hread
  exact ⟨w'.disk.files n, by rw [Disk.content?, htarget, Option.map_some], hread, hread.begun.length_le⟩

/-- A log grows twice while its tailer, who has read it, waits. The queue has room for one event only, so the second
one is dropped; one pass shows both. -/
theorem caught_up_of_dropped :
    let before : World := ⟨⟨⟨[]⟩, ⟨0⟩, 1, ⟨1, 1, []⟩, .idle, 0, true, some .manual, none⟩, ⟨[.append "a"]⟩,
      ⟨fun _ => [0x61], some 0⟩, 0, 0, true, true⟩
    let after : World := ⟨⟨⟨[]⟩, ⟨0⟩, 1, ⟨3, 3, []⟩, .idle, 0, true, some .manual, none⟩, ⟨[.append "bc", .append "a"]⟩,
      ⟨fun _ => [0x61, 0x62, 0x63], some 0⟩, 0, 0, true, true⟩
    before.Start ∧ Relation.ReflTransGen Move before after ∧ after.disk.size? = some 3 ∧
      Utf8.Reading [0x61, 0x62, 0x63] after.sink.contents.toList [] := by
  intro before after
  have read : Visits [⟨1, [0x61]⟩] ⟨⟨1, 1, []⟩, ⟨[.append "a"]⟩, [0x61]⟩ :=
    .more .none ⟨.step .placed (.step (.bytes (n := 1) (by decide) (by decide)) (.stay _ _)), rfl⟩
  have start : before.Start :=
    ⟨Nat.one_pos, rfl, rfl, Or.inr (Or.inr ⟨rfl, rfl⟩), fun _ => ⟨0, rfl, read.inOrder, trivial⟩⟩
  have once : before.disk.Grows ⟨fun _ => [0x61, 0x62], some 0⟩ := ⟨0, rfl, rfl, [0x62], rfl⟩
  have twice : Disk.Grows ⟨fun _ => [0x61, 0x62], some 0⟩ after.disk := ⟨0, rfl, rfl, [0x63], rfl⟩
  have told : Relation.ReflTransGen Move before _ := (Relation.ReflTransGen.refl.tail (.append once)).tail
    (@Move.watch _ 0 _ _ _ 1 (Or.inl rfl) rfl)
  have dropped := (told.tail (.append twice)).tail (@Move.watch _ 0 _ _ _ 1 (Or.inl rfl) rfl)
  have asking := ((dropped.tail (@Move.proceed _ 0 _ _ rfl)).tail (@Move.proceed _ 0 _ _ rfl)).tail
    (@Move.proceed _ 0 _ _ rfl)
  have opened := (asking.tail (@Move.answer _ 0 _ _ _ (.size rfl) rfl)).tail (@Move.answer _ 0 _ _ _ (.opened rfl) rfl)
  have placed := opened.tail (@Move.answer _ 0 _ _ _ (.content rfl .placed) rfl)
  have shown := placed.tail (@Move.answer _ 0 _ _ _ (.content rfl (.bytes Nat.two_pos (Nat.le_refl 2))) rfl)
  have done : Relation.ReflTransGen Move before after := shown
  obtain ⟨hsize, hshows⟩ := caught_up start done rfl rfl rfl rfl rfl
  obtain ⟨content, hcontent, hreading, -⟩ := hshows rfl
  cases hcontent
  exact ⟨start, done, hsize, hreading⟩

end World

end Attendant.Log

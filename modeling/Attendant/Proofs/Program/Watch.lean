import Attendant.Program
import Attendant.Proofs.Coordinator.Phases

/-!
# What the program sees of its worker

The program looks at the state of the worker for the first time when it has activated its coordinator. What it finds
then it takes for known, whatever it is; later it goes by how often the state has been written. So it notices every
failure that is written after its first look, across any number of restarts (`Run.noticed`), and none that was written
before it: a worker that has failed while it was asked for its log is waited for (`not_always_noticed`).
-/

namespace Attendant

namespace Watched

variable {α : Type} {a b c : Watched α}

/-- A watched value after it may have been written. -/
def Later (a b : Watched α) : Prop := b = a ∨ a.version < b.version

theorem Later.refl (a : Watched α) : a.Later a := Or.inl rfl

private theorem Later.version_le (h : a.Later b) : a.version ≤ b.version := by
  obtain rfl | h := h
  · exact Nat.le_refl _
  · exact Nat.le_of_lt h

theorem Later.trans (h : a.Later b) (h' : b.Later c) : a.Later c := by
  obtain rfl | h' := h'
  · exact h
  · exact Or.inr (Nat.lt_of_le_of_lt h.version_le h')

private theorem later_set (a : Watched α) (v : α) : a.Later (a.set v) := Or.inr (Nat.lt_succ_self _)

end Watched

/-- A step of a supervisor leaves its state, or writes a new one. -/
theorem Supervisor.later_of_step {now : Nat} {label : Label} {s s' : Supervisor} (h : s.step now label = some s') :
    s.status.Later s'.status := by
  obtain hsame | ⟨status, hset⟩ := (turn_of_step h).status_cases
  · exact Or.inl hsame
  · rw [show s'.status = _ from hset]
    exact s.status.later_set status

/-- So does a step of a coordinator. -/
theorem Coordinator.later_of_step {now : Nat} {label : Label} {c c' : Coordinator} (h : c.step now label = some c') :
    c.supervisor.status.Later c'.supervisor.status := by
  have hask (c : Coordinator) (call : Supervisor.Call) (stage : Stage) :
      c.supervisor.status.Later (c.ask now call stage).supervisor.status := by
    unfold ask
    cases hstep : c.supervisor.step now (.begin call) with
    | none => exact .refl _
    | some s' => exact Supervisor.later_of_step hstep
  have hclosed (c : Coordinator) (next : Next) : (c.closed next).supervisor = c.supervisor := by cases next <;> rfl
  cases turn_of_step h with
  | supervisor _ _ hstep | leave _ hstep | forget _ hstep => exact Supervisor.later_of_step hstep
  | launch _ _ => exact hask { c with phase := .starting } _ .starting
  | @stop next _ _ => exact hask { c with phase := .stopping, tailer := none } _ (.stopping next)
  | started _ _ job _ => exact Or.inl (Supervisor.enter_status _ _ job)
  | closed _ _ | stopped _ _ =>
    rw [hclosed]
    exact .refl _
  | _ => exact .refl _

namespace Program

/-! ### Runs of the program -/

/-- A step that has been made. -/
abbrev Entry := Transition Program Label

/-- A program, and what has happened to it since it began, latest first. -/
inductive Run (plan : Plan) (here : Path) (process : Nat) : List Entry → Program → Prop where
  | start (now : Nat) (filter : Filter) (logFile : Option Path) (warnings : List String) (complaint : Option String) :
      Run plan here process []
        (Program.start now filter logFile warnings complaint (Coordinator.start plan here process))
  | move {es : List Entry} {p p' : Program} (now : Nat) (label : Label) :
      Run plan here process es p → p.step now label = some p' → Run plan here process (⟨p, now, label, p'⟩ :: es) p'

/-- A run goes on by a script. -/
theorem Run.play {plan : Plan} {here : Path} {process : Nat} {base more : List Entry} {p p' : Program}
    (h : Run plan here process base p) (labels : List Label) (hplay : Script.play step [] p labels = some (more, p')) :
    Run plan here process (more ++ base) p' :=
  Script.goes_on (fun _ _ label _ hrun hstep => hrun.move 0 label hstep)
    (show Run plan here process ([] ++ base) p from h) hplay

/-- What the program finds at its first look at the state of the worker. -/
def Entry.found? (e : Entry) : Option (Watched Status) :=
  match e.before.stage, e.label with
  | .entering, .proceed => some e.before.coordinator.supervisor.status
  | _, _ => none

/-- What the program has found at its first look. -/
def found? (es : List Entry) : Option (Watched Status) := es.findSome? Entry.found?

private theorem found?_cons (e : Entry) (es : List Entry) : found? (e :: es) = e.found?.or (found? es) := by
  unfold found?
  rw [List.findSome?_cons]
  cases e.found? <;> rfl

/-! ### What a step does -/

/-- What the program goes by. -/
structure Helm where
  coordinator : Coordinator
  stage : Stage
  seen : Nat
  hangups : Option Bool

def helm (p : Program) : Helm := ⟨p.coordinator, p.stage, p.seen, p.hangups⟩

private theorem helm_record (p : Program) (d : Diagnostic) : (p.record d).helm = p.helm := by
  unfold record
  split
  · rfl
  · split <;> rfl

private theorem helm_foldl {α : Type} (f : Program → α → Program) (hf : ∀ p a, (f p a).helm = p.helm) (p : Program)
    (as : List α) : (as.foldl f p).helm = p.helm := by
  induction as generalizing p with
  | nil => rfl
  | cons a as ih => rw [List.foldl_cons, ih, hf]

theorem helm_withCoordinator (p : Program) (c : Coordinator) :
    (p.withCoordinator c).helm = { p.helm with coordinator := c } :=
  helm_foldl _ (fun p n => helm_record p (diagnosticOf n)) _ _

/-- The coordinator has been asked for something. -/
def asked (now : Nat) (p : Program) (call : Coordinator.Call) : Coordinator :=
  (p.coordinator.step now (.begin call)).getD p.coordinator

/-- All that a step can do to what the program goes by. -/
inductive Turn (now : Nat) (p : Program) : Label → Helm → Prop where
  | coordinator {label : Coordinator.Label} {c : Coordinator} (hl : ∀ call, label ≠ .begin call)
      (hstep : p.coordinator.step now label = some c) :
      Turn now p (.coordinator label) { p.helm with coordinator := c }
  | activated (hs : p.stage = .activating) (ho : p.coordinator.outcome = some .done) :
      Turn now p .proceed { p.helm with stage := .entering }
  | look (hs : p.stage = .entering) :
      Turn now p .proceed
        { p.helm with stage := .turning, seen := p.coordinator.supervisor.status.version, hangups := some false }
  | round (hs : p.stage = .turning) : Turn now p .proceed { p.helm with stage := .waiting false }
  | interrupted {interrupted : Bool} (hs : p.stage = .waiting interrupted) :
      Turn now p (.signal .interrupt) { p.helm with stage := .waiting true }
  | hungUp : Turn now p (.signal .hangup) { p.helm with hangups := some true }
  | deaf : Turn now p (.signal .interrupt) p.helm
  | restart {interrupted : Bool} (hs : p.stage = .waiting interrupted) :
      Turn now p (.choose .hangup)
        { p.helm with stage := .restarting, coordinator := p.asked now .restart, hangups := some false }
  | restarted (hs : p.stage = .restarting) (ho : p.coordinator.outcome = some .done) :
      Turn now p .proceed { p.helm with stage := .turning }
  | known {interrupted : Bool} (hs : p.stage = .waiting interrupted)
      (hn : p.coordinator.supervisor.status.hasNews p.seen = true)
      (hf : p.coordinator.supervisor.status.value.hasFailed = false) :
      Turn now p (.choose .change)
        { p.helm with stage := .turning, seen := p.coordinator.supervisor.status.version }
  | close {label : Label} {ending : Ending} {seen : Nat}
      (hl : p.stage = .activating ∨ p.stage = .restarting ∨ label = .choose .interrupt ∨
        p.coordinator.supervisor.status.hasNews p.seen = true) :
      Turn now p label { p.helm with stage := .closing ending, coordinator := p.asked now .shutdown, seen }
  | finish {label : Label} {status : ExitStatus}
      (hs : (∀ interrupted, p.stage ≠ .waiting interrupted) ∨ p.hangups = none) :
      Turn now p label { p.helm with stage := .ended status }

private theorem helm_conclude (p : Program) (ending : Ending) :
    ∃ status, (p.conclude ending).helm = { p.helm with stage := .ended status } := by
  cases ending with
  | unstarted fault => exact ⟨_, rfl⟩
  | interrupted => exact ⟨_, rfl⟩
  | workerFailed reason =>
    refine ⟨.code 1, ?_⟩
    have hrecord := p.helm_record ⟨.error, notifier, p.coordinator.name ++ " language server exited: " ++ reason⟩
    simp only [helm, Helm.mk.injEq] at hrecord
    simp only [conclude, helm, hrecord]
  | broken fault => exact ⟨_, rfl⟩

private theorem turn_of_proceed {now : Nat} {p p' : Program} (h : p.proceed now = some p') :
    Turn now p .proceed p'.helm := by
  unfold Program.proceed at h
  cases hs : p.stage with
  | activating =>
    simp only [hs] at h
    split at h
    · rename_i ho
      cases h
      split
      · exact .activated hs ho
      · exact .activated hs ho
    · cases h
      exact .close (Or.inl hs)
    · cases h
  | entering =>
    simp only [hs] at h
    cases h
    exact .look hs
  | turning =>
    simp only [hs] at h
    cases h
    exact .round hs
  | waiting interrupted => simp [hs] at h
  | restarting =>
    simp only [hs] at h
    split at h
    · rename_i ho
      cases h
      exact .restarted hs ho
    · cases h
      exact .close (Or.inr (Or.inl hs))
    · cases h
  | closing ending =>
    simp only [hs] at h
    split at h
    · cases h
      obtain ⟨status, hhelm⟩ := helm_conclude p ending
      rw [hhelm]
      exact .finish (Or.inl (by rw [hs]; nofun))
    · cases h
  | ended status => simp [hs] at h

private theorem turn_of_choose {now : Nat} {branch : Branch} {p p' : Program} (h : p.choose now branch = some p') :
    Turn now p (.choose branch) p'.helm := by
  unfold Program.choose at h
  split at h
  · cases h
    exact .close (Or.inr (Or.inr (Or.inl rfl)))
  · rename_i hs
    split at h
    · cases h
      exact .restart hs
    · cases h
  · rename_i hs
    simp only at h
    split at h
    · rename_i hn
      split at h
      · cases h
        exact .close (Or.inr (Or.inr (Or.inr hn)))
      · rename_i hf
        cases h
        refine .known hs hn ?_
        cases hst : p.coordinator.supervisor.status.value with
        | failed reason => exact absurd hst (hf reason)
        | _ => rfl
    · cases h
  · cases h

private theorem turn_of_receive {now : Nat} {notice : Notice} {p p' : Program} (h : p.receive notice = some p') :
    Turn now p (.signal notice) p'.helm := by
  unfold Program.receive at h
  split at h
  · cases h
  · rename_i hs
    cases h
    exact .interrupted hs
  · rename_i hs
    split at h
    · cases h
      exact .deaf
    · cases h
      exact .finish (Or.inl hs)
  · split at h
    · cases h
      exact .hungUp
    · rename_i hnone
      cases h
      exact .finish (Or.inr (by simpa using hnone))

/-- Whatever a step does is one of the turns. -/
theorem turn_of_step {now : Nat} {label : Label} {p p' : Program} (h : p.step now label = some p') :
    Turn now p label p'.helm := by
  cases label with
  | proceed => exact turn_of_proceed h
  | choose branch => exact turn_of_choose h
  | signal notice => exact turn_of_receive h
  | coordinator label =>
    simp only [step] at h
    split at h
    · cases h
    · cases h
    · cases h
    · rename_i hbegin _ _
      obtain ⟨c, hstep, rfl⟩ := Option.map_eq_some_iff.1 h
      rw [helm_withCoordinator]
      exact .coordinator hbegin hstep

/-- A program begins with the activation of its coordinator. -/
theorem helm_start (now : Nat) (filter : Filter) (logFile : Option Path) (warnings : List String)
    (complaint : Option String) (c : Coordinator) :
    (start now filter logFile warnings complaint c).helm =
      ⟨(c.step now (.begin .activate)).getD c, .activating, 0, none⟩ := by
  have hwarned := helm_foldl (fun p warning => p.record ⟨.warn, "netlinx", warning⟩)
    (fun p warning => helm_record p ⟨.warn, "netlinx", warning⟩)
    { coordinator := (c.step now (.begin .activate)).getD c, filter, logFile } warnings
  unfold start
  simp only
  split
  · exact hwarned
  · exact hwarned

/-! ### The first look and the last -/

/-- Whether the program has had its first look, and goes on. -/
def Stage.isWatching : Stage → Bool
  | .turning | .waiting _ | .restarting => true
  | _ => false

/-- What the program knows: what it has found at its first look, and what it has seen at its last. Later than that it has
seen no failure. -/
def Watches (found? : Option (Watched Status)) (h : Helm) : Prop :=
  h.hangups.isSome = true ∧ ∃ found looked : Watched Status, found? = some found ∧ found.Later looked ∧
    looked.Later h.coordinator.supervisor.status ∧ h.seen = looked.version ∧
    (looked = found ∨ looked.value.hasFailed = false)

theorem Watches.turn {found : Option (Watched Status)} {now : Nat} {label : Label} {p : Program} {helm : Helm}
    (h : p.stage.isWatching = true → Watches found p.helm) (ht : Turn now p label helm)
    (hs : helm.stage.isWatching = true) (hl : p.stage = .entering → label ≠ .proceed) : Watches found helm := by
  have hasked (call : Coordinator.Call) :
      p.coordinator.supervisor.status.Later (p.asked now call).supervisor.status := by
    unfold asked
    cases hstep : p.coordinator.step now (.begin call) with
    | none => exact .refl _
    | some c => exact Coordinator.later_of_step hstep
  cases ht with
  | coordinator hbegin hstep =>
    obtain ⟨hup, found, looked, hfound, hfirst, hlater, hseen, hknown⟩ := h hs
    exact ⟨hup, found, looked, hfound, hfirst, hlater.trans (Coordinator.later_of_step hstep), hseen, hknown⟩
  | activated _ _ => cases hs
  | look hst => exact absurd rfl (hl hst)
  | round hst | restarted hst _ => exact h (by rw [hst]; rfl)
  | interrupted hst => exact h (by rw [hst]; rfl)
  | hungUp =>
    obtain ⟨-, hrest⟩ := h hs
    exact ⟨rfl, hrest⟩
  | deaf => exact h hs
  | restart hst =>
    obtain ⟨-, found, looked, hfound, hfirst, hlater, hseen, hknown⟩ := h (by rw [hst]; rfl)
    exact ⟨rfl, found, looked, hfound, hfirst, hlater.trans (hasked _), hseen, hknown⟩
  | known hst _ hf =>
    obtain ⟨hup, found, looked, hfound, hfirst, hlater, -, -⟩ := h (by rw [hst]; rfl)
    exact ⟨hup, found, p.coordinator.supervisor.status, hfound, hfirst.trans hlater, .refl _, rfl, Or.inr hf⟩
  | close _ => cases hs
  | finish _ => cases hs

section

variable {plan : Plan} {here : Path} {process : Nat} {es : List Entry} {p : Program}

private theorem Entry.found?_eq_none {p p' : Program} {now : Nat} {label : Label}
    (h : p.stage = .entering → label ≠ .proceed) : Entry.found? ⟨p, now, label, p'⟩ = none := by
  unfold found?
  split
  · rename_i hs hl
    exact absurd hl (h hs)
  · rfl

/-- The program knows what it should, along every run. -/
theorem Run.watches (h : Run plan here process es p) (hs : p.stage.isWatching = true) : Watches (found? es) p.helm := by
  induction h with
  | start now filter logFile warnings complaint =>
    have hhelm := helm_start now filter logFile warnings complaint (Coordinator.start plan here process)
    rw [show (Program.start now filter logFile warnings complaint _).stage = .activating from
      congrArg Helm.stage hhelm] at hs
    cases hs
  | @move es p p' now label hrun hstep ih =>
    rw [found?_cons]
    by_cases hlook : p.stage = .entering ∧ label = .proceed
    · obtain ⟨hst, rfl⟩ := hlook
      simp only [step, proceed, hst, Option.some.injEq] at hstep
      subst hstep
      have hfound : Entry.found? ⟨p, now, .proceed, { p with
          stage := .turning, seen := p.coordinator.supervisor.status.version, hangups := some false }⟩ =
          some p.coordinator.supervisor.status := by
        simp only [Entry.found?, hst]
      rw [hfound]
      exact ⟨rfl, _, _, rfl, .refl _, .refl _, rfl, Or.inl rfl⟩
    · rw [Entry.found?_eq_none fun hst hl => hlook ⟨hst, hl⟩, Option.none_or]
      exact Watches.turn ih (turn_of_step hstep) hs fun hst hl => hlook ⟨hst, hl⟩

end

/-! ### The coordinator of the program -/

/-- Whether the program has not begun to end. -/
def Stage.isOpen : Stage → Bool
  | .activating | .entering | .turning | .waiting _ | .restarting => true
  | _ => false

/-- Whether nothing has been asked of the coordinator that it has not done. -/
def Stage.isQuiet : Stage → Bool
  | .entering | .turning | .waiting _ => true
  | _ => false

/-- The coordinator goes through a run, and has not been asked to shut down before the program begins to end. -/
structure Attends (plan : Plan) (here : Path) (process : Nat) (h : Helm) : Prop where
  run : ∃ es asked call, Coordinator.Run plan here process es h.coordinator ∧
    Coordinator.lastCall? es = some (asked, call) ∧ (h.stage.isOpen = true → call ≠ .shutdown)
  quiet : h.stage.isQuiet = true → h.coordinator.stage = .free

namespace Attends

variable {plan : Plan} {here : Path} {process now : Nat} {p : Program}

/-- A call that has come to its end while the program goes on leaves the coordinator free. -/
private theorem free_of_done (h : Attends plan here process p.helm) (hs : p.stage.isOpen = true)
    (ho : p.coordinator.outcome = some .done) : p.coordinator.stage = .free := by
  obtain ⟨es, asked, call, hrun, hlast, hcall⟩ := h.run
  rcases (hrun.reports asked call hlast).cases with ⟨hnone, -⟩ | ⟨outcome, -, hfree, -⟩ | ⟨-, hshut, -⟩
  · rw [show p.coordinator.outcome = none from hnone] at ho
    cases ho
  · exact hfree
  · exact absurd hshut (hcall hs)

private theorem run_asked (h : Attends plan here process p.helm) (now : Nat) (call : Coordinator.Call) :
    ∃ es asked call', Coordinator.Run plan here process es (p.asked now call) ∧
      Coordinator.lastCall? es = some (asked, call') ∧ (p.coordinator.stage = .free → call' = call) := by
  obtain ⟨es, asked, call', hrun, hlast, -⟩ := h.run
  cases hstep : p.coordinator.step now (.begin call) with
  | none =>
    refine ⟨es, asked, call', by rw [Program.asked, hstep]; exact hrun, hlast, fun hfree => ?_⟩
    rw [Coordinator.step_begin hfree] at hstep
    cases hstep
  | some c => exact ⟨_, _, call, by rw [Program.asked, hstep]; exact hrun.move now _ hstep, rfl, fun _ => rfl⟩

theorem turn {label : Label} {helm : Helm} (h : Attends plan here process p.helm) (ht : Turn now p label helm) :
    Attends plan here process helm := by
  obtain ⟨es, asked, call, hrun, hlast, hcall⟩ := h.run
  have hopen {stage : Stage} (hs : p.stage = stage) (hstage : stage.isOpen = true) : call ≠ .shutdown :=
    hcall (show p.stage.isOpen = true by rw [hs]; exact hstage)
  have hquiet {stage : Stage} (hs : p.stage = stage) (hstage : stage.isQuiet = true) : p.coordinator.stage = .free :=
    h.quiet (show p.stage.isQuiet = true by rw [hs]; exact hstage)
  cases ht with
  | @coordinator label c hl hstep =>
    refine ⟨⟨_, asked, call, hrun.move now label hstep, ?_, hcall⟩, fun hs => ?_⟩
    · rw [Coordinator.lastCall?_cons, Coordinator.Entry.call?_eq_none fun ⟨call, he⟩ => hl call he, Option.none_or]
      exact hlast
    · exact ((Coordinator.turn_of_step hstep).of_free (h.quiet hs) hl).1
  | activated hs ho =>
    exact ⟨⟨es, asked, call, hrun, hlast, fun _ => hopen hs rfl⟩,
      fun _ => h.free_of_done (by rw [hs]; rfl) ho⟩
  | look hs => exact ⟨⟨es, asked, call, hrun, hlast, fun _ => hopen hs rfl⟩, fun _ => hquiet hs rfl⟩
  | round hs => exact ⟨⟨es, asked, call, hrun, hlast, fun _ => hopen hs rfl⟩, fun _ => hquiet hs rfl⟩
  | interrupted hs => exact ⟨⟨es, asked, call, hrun, hlast, fun _ => hopen hs rfl⟩, fun _ => hquiet hs rfl⟩
  | known hs _ _ => exact ⟨⟨es, asked, call, hrun, hlast, fun _ => hopen hs rfl⟩, fun _ => hquiet hs rfl⟩
  | restarted hs ho =>
    exact ⟨⟨es, asked, call, hrun, hlast, fun _ => hopen hs rfl⟩,
      fun _ => h.free_of_done (by rw [hs]; rfl) ho⟩
  | hungUp => exact ⟨⟨es, asked, call, hrun, hlast, hcall⟩, h.quiet⟩
  | deaf => exact h
  | restart hs =>
    obtain ⟨es', asked', call', hrun', hlast', hcall'⟩ := h.run_asked now .restart
    refine ⟨⟨es', asked', call', hrun', hlast', fun _ => ?_⟩, nofun⟩
    rw [hcall' (hquiet hs rfl)]
    nofun
  | close _ =>
    obtain ⟨es', asked', call', hrun', hlast', -⟩ := h.run_asked now .shutdown
    exact ⟨⟨es', asked', call', hrun', hlast', nofun⟩, nofun⟩
  | finish _ => exact ⟨⟨es, asked, call, hrun, hlast, nofun⟩, nofun⟩

end Attends

section

variable {plan : Plan} {here : Path} {process : Nat} {es : List Entry} {p : Program}

/-- Along every run the coordinator of the program goes through a run of its own. -/
theorem Run.attends (h : Run plan here process es p) : Attends plan here process p.helm := by
  induction h with
  | start now filter logFile warnings complaint =>
    rw [helm_start, Coordinator.step_begin rfl, Option.getD_some]
    refine ⟨⟨_, _, .activate, Coordinator.Run.fresh.move now (.begin .activate) rfl, rfl, fun _ => nofun⟩, nofun⟩
  | move now label _ hstep ih => exact ih.turn (turn_of_step hstep)

/-- A program that waits does not move the state of a worker that has failed. -/
private theorem Run.status_stays (h : Run plan here process es p) (hs : p.stage.isQuiet = true) {reason : String}
    (hf : p.coordinator.supervisor.status.value = .failed reason) {now : Nat} {label : Coordinator.Label}
    {c : Coordinator} (hl : ∀ call, label ≠ .begin call) (hstep : p.coordinator.step now label = some c) :
    c.supervisor.status = p.coordinator.supervisor.status := by
  have hattends := h.attends
  have hfree := hattends.quiet hs
  obtain ⟨-, hsame | ⟨label', hl', hstep'⟩⟩ := (Coordinator.turn_of_step hstep).of_free hfree hl
  · rw [hsame]
  · obtain ⟨es', asked, call, hrun, -⟩ := hattends.run
    have hfits := hrun.sound.fits
    rw [Coordinator.Fits, show p.helm.coordinator.stage = .free from hfree] at hfits
    obtain ⟨status, hhelm, hstatus | ⟨hlive, -⟩⟩ := (Supervisor.turn_of_step hstep').of_free hfits.1 hl'
    · exact (congrArg Supervisor.Helm.status hhelm).trans hstatus
    · rw [hf] at hlive
      cases hlive

/-- When the program waits, and its worker has failed: either the failure has been written after the first look at the
state, and then there is something new to see, and the program can end because of it; or the program has found the
failure at its first look, and then nothing is new, and it waits until it is interrupted or hung up on, whatever else
happens. -/
theorem Run.noticed (h : Run plan here process es p) {interrupted : Bool} {reason : String}
    (hs : p.stage = .waiting interrupted) (hf : p.coordinator.supervisor.status.value = .failed reason) :
    ∃ found, found? es = some found ∧
      (p.coordinator.supervisor.status ≠ found →
        p.coordinator.supervisor.status.hasNews p.seen = true ∧
        ∀ now, ∃ p', p.step now (.choose .change) = some p' ∧ p'.stage = .closing (.workerFailed reason)) ∧
      (p.coordinator.supervisor.status = found →
        p.coordinator.supervisor.status.hasNews p.seen = false ∧
        ∀ now label p', p.step now label = some p' → label = .choose .interrupt ∨ label = .choose .hangup ∨
          (∃ interrupted', p'.stage = .waiting interrupted') ∧
            p'.coordinator.supervisor.status = p.coordinator.supervisor.status) := by
  obtain ⟨hup, found, looked, hfound, hfirst, hlast, hseen, hknown⟩ := h.watches (by rw [hs]; rfl)
  have hup : p.hangups ≠ none := Option.isSome_iff_ne_none.1 hup
  have hseen : p.seen = looked.version := hseen
  refine ⟨found, hfound, fun hne => ?_, fun hsame => ?_⟩
  · have hnews : p.coordinator.supervisor.status.hasNews p.seen = true := by
      obtain hsame | hless := hlast
      · -- at the last look it had failed already, so that was the first one
        have hsame : p.coordinator.supervisor.status = looked := hsame
        obtain rfl | hwell := hknown
        · exact absurd hsame hne
        · rw [← hsame, hf] at hwell
          cases hwell
      · rw [Watched.hasNews, hseen]
        exact decide_eq_true hless
    refine ⟨hnews, fun now => ⟨({ p with seen := p.coordinator.supervisor.status.version }).ask now .shutdown
      (.closing (.workerFailed reason)), ?_, rfl⟩⟩
    cases interrupted <;> simp [step, choose, hs, hnews, hf]
  · have hnone : p.coordinator.supervisor.status.hasNews p.seen = false := by
      rw [Watched.hasNews, hseen, hsame]
      exact decide_eq_false (Nat.not_lt.2 hfirst.version_le)
    refine ⟨hnone, fun now label p' hstep => ?_⟩
    have ht := turn_of_step hstep
    generalize hhelm : p'.helm = helm at ht
    have hstage : p'.stage = helm.stage := congrArg Helm.stage hhelm
    have hcoordinator : p'.coordinator = helm.coordinator := congrArg Helm.coordinator hhelm
    rw [hstage, hcoordinator]
    cases ht with
    | coordinator hl hstep' =>
      exact Or.inr (Or.inr ⟨⟨interrupted, hs⟩, h.status_stays (by rw [hs]; rfl) hf hl hstep'⟩)
    | interrupted _ => exact Or.inr (Or.inr ⟨⟨true, rfl⟩, rfl⟩)
    | hungUp => exact Or.inr (Or.inr ⟨⟨interrupted, hs⟩, rfl⟩)
    | deaf => exact Or.inr (Or.inr ⟨⟨interrupted, hs⟩, rfl⟩)
    | restart _ => exact Or.inr (Or.inl rfl)
    | known _ hn _ =>
      rw [hnone] at hn
      cases hn
    | close hl =>
      obtain hst | hst | rfl | hn := hl
      · rw [hs] at hst
        cases hst
      · rw [hs] at hst
        cases hst
      · exact Or.inl rfl
      · rw [hnone] at hn
        cases hn
    | finish hst =>
      obtain hst | hst := hst
      · exact absurd hs (hst interrupted)
      · exact absurd hst hup
    | activated hst _ | look hst | round hst | restarted hst _ =>
      rw [hs] at hst
      cases hst

end

/-! ### Runs in which the worker fails -/

/-- Steps of the supervisor, of its workers or of the tasks of their channels. -/
def tended (labels : List Supervisor.Label) : List Label :=
  labels.map fun label => .coordinator (.supervisor label)

/-- A worker is started, the first one or the next, and is asked for its log. -/
def asking (worker : Nat) : List Label :=
  .coordinator .proceed :: tended ((Supervisor.welcoming worker).drop 1) ++
    .coordinator .proceed :: tended (List.replicate 5 (.channel worker (.caller 2)))

/-- The question for the log times out, and the program goes on without one. -/
def unheard (worker : Nat) : List Label :=
  tended [.channel worker (.expire 2), .channel worker (.caller 2)] ++ [.coordinator .proceed, .proceed]

/-- A worker is greeted and asked for its log, and its output ends. When it ends before the answer, the program finds the
failure at its first look. When the question has timed out before, the program finds a running worker. -/
private theorem exists_failed :
    (∃ es p, Run Coordinator.somePlan (.ofString "/") 1 es p ∧ p.stage = .waiting false ∧
      p.coordinator.supervisor.status.value = .failed "worker exited" ∧
      p.coordinator.supervisor.status.hasNews p.seen = false) ∧
    ∃ es p found, Run Coordinator.somePlan (.ofString "/") 1 es p ∧ p.stage = .waiting false ∧
      p.coordinator.supervisor.status.value = .failed "worker exited" ∧ found? es = some found ∧
      found.value = .running := by
  have began : Run Coordinator.somePlan (.ofString "/") 1 [] _ := .start 0 ⟨[]⟩ none [] none
  have asked := began.play (asking 0) rfl
  refine ⟨?_, ?_⟩
  · have failed := asked.play (tended (.act 0 .closesOutput :: List.replicate 4 (.channel 0 .reader))) rfl
    have lost := failed.play (tended [.channel 0 (.caller 2), .channel 0 (.caller 2)]) rfl
    have waiting := lost.play [.coordinator .proceed, .proceed, .proceed, .proceed] rfl
    exact ⟨_, _, waiting, rfl, rfl, rfl⟩
  · have waiting := asked.play (unheard 0 ++ [.proceed, .proceed]) rfl
    have failed := waiting.play (tended (.act 0 .closesOutput :: List.replicate 3 (.channel 0 .reader))) rfl
    exact ⟨_, _, _, failed, rfl, rfl, rfl, rfl⟩

/-- A worker that fails while the program waits is noticed. -/
theorem noticed_failure : ∃ es p, Run Coordinator.somePlan (.ofString "/") 1 es p ∧ p.stage = .waiting false ∧
    p.coordinator.supervisor.status.hasNews p.seen = true ∧
    ∀ now, ∃ p', p.step now (.choose .change) = some p' ∧ p'.stage = .closing (.workerFailed "worker exited") := by
  obtain ⟨es, p, found, hrun, hs, hf, hfound, hwell⟩ := exists_failed.2
  obtain ⟨found', hfound', hnews, -⟩ := hrun.noticed hs hf
  obtain rfl : found = found' := Option.some.inj (hfound.symm.trans hfound')
  have hne : p.coordinator.supervisor.status ≠ found := fun hsame => by
    rw [hsame, hwell] at hf
    cases hf
  exact ⟨es, p, hrun, hs, hnews hne⟩

/-- A program may wait, and have nothing new to see, although its worker has failed. -/
theorem not_always_noticed :
    ¬ ∀ plan here process es p interrupted reason, Run plan here process es p → p.stage = .waiting interrupted →
      p.coordinator.supervisor.status.value = .failed reason →
        p.coordinator.supervisor.status.hasNews p.seen = true := by
  intro hall
  obtain ⟨es, p, hrun, hs, hf, hnone⟩ := exists_failed.1
  have hnews := hall _ _ _ es p _ _ hrun hs hf
  rw [hnone] at hnews
  cases hnews

end Program

end Attendant

/-!
# Steps and scripts

A supervisor, a coordinator, the scene around it, and the program make one step after another, each at any time. A run
lists the steps, latest first. The runs begin differently, so each of these systems has its own, but every step makes a
run longer; `Script.goes_on` is the induction that this takes for a script, a list of labels that are played one after
another.
-/

namespace Attendant

/-- A step that has been made. -/
structure Transition (σ ι : Type) where
  before : σ
  now : Nat
  label : ι
  after : σ

namespace Script

variable {σ ι : Type}

/-- What has happened, latest first, and where it ends, if the steps of a script are made one after another at the first
instant; `es` has happened before them. -/
def play (step : Nat → σ → ι → Option σ) (es : List (Transition σ ι)) (s : σ) :
    List ι → Option (List (Transition σ ι) × σ)
  | [] => some (es, s)
  | label :: labels => (step 0 s label).bind fun s' => play step (⟨s, 0, label, s'⟩ :: es) s' labels

/-- Whatever each step keeps, a script keeps. -/
theorem goes_on {step : Nat → σ → ι → Option σ} {Run : List (Transition σ ι) → σ → Prop}
    (hmove : ∀ es s label s', Run es s → step 0 s label = some s' → Run (⟨s, 0, label, s'⟩ :: es) s')
    {es base more : List (Transition σ ι)} {s s' : σ} (h : Run (more ++ base) s) {labels : List ι}
    (hplay : play step more s labels = some (es, s')) : Run (es ++ base) s' := by
  induction labels generalizing more s with
  | nil =>
    cases hplay
    exact h
  | cons label labels ih =>
    obtain ⟨next, hstep, hrest⟩ := Option.bind_eq_some_iff.1 hplay
    exact ih (hmove _ _ label next h hstep) hrest

end Script

end Attendant

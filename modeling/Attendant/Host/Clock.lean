/-!
# Virtual time

Something that moves by itself while time stands still, and otherwise waits for moments at which something is due. Time
goes from one such moment to the next.
-/

namespace Attendant.Host

/-- Something under a clock; times are in nanoseconds. -/
class Clocked (σ : Type) where
  now : σ → Nat
  goTo : Nat → σ → σ
  settle : σ → σ
  nextDue? : σ → Option Nat

namespace Clocked

variable {σ : Type} [Clocked σ]

/-- Lets time pass until something holds, or a moment is reached. -/
def passUntil (done : σ → Bool) (stop : Nat) : Nat → σ → σ
  | 0, s => s
  | rounds + 1, s =>
    if done s then s
    else match nextDue? s with
      | some due =>
        if due ≤ stop then passUntil done stop rounds (settle (goTo (max (now s) due) s)) else settle (goTo stop s)
      | none => settle (goTo stop s)

/-- More moments than anything waits for. -/
def moments : Nat := 1000000

/-- Lets everything move, and then time pass until something holds, for so many nanoseconds at most. -/
def wait (done : σ → Bool) (limit : Nat) (s : σ) : σ :=
  let s := settle s
  passUntil done (now s + limit) moments s

/-- Lets so many nanoseconds pass. -/
def pass (span : Nat) (s : σ) : σ := wait (fun _ => false) span s

end Clocked

end Attendant.Host

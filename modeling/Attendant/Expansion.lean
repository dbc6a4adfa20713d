import Attendant.Environment

/-!
# References to variables

A reference `${NAME}` in a setting stands for the value of a variable. The text is read from left to right: each `$`
with a brace after it begins a reference that ends at the next closing brace; one that is never closed, and everything
after it, is kept. What is put in is not read again.

* `Piece.ofChars` takes a text apart into plain text and references;
* `expand` puts it together again, with the values of the references.
-/

namespace Attendant

namespace Expansion

/-- A piece of a text with references. -/
inductive Piece where
  | plain (text : List Char)
  | reference (name : List Char)
  deriving DecidableEq, Repr

/-- Splits at the first character that is `c`: what is before it and what is after it. -/
def cut? (c : Char) : List Char → Option (List Char × List Char)
  | [] => none
  | d :: rest =>
    if d = c then some ([], rest)
    else (cut? c rest).map fun (before, after) => (d :: before, after)

/-- What is after the first `c` is shorter than the whole. -/
theorem length_lt_of_cut? {c : Char} {cs before after : List Char} (h : cut? c cs = some (before, after)) :
    after.length < cs.length := by
  induction cs generalizing before with
  | nil => simp [cut?] at h
  | cons d rest ih =>
    simp only [cut?] at h
    split at h
    · simp only [Option.some.injEq, Prod.mk.injEq] at h
      simp [← h.2]
    · obtain ⟨⟨b, a⟩, hcut, heq⟩ := Option.map_eq_some_iff.1 h
      simp only [Prod.mk.injEq] at heq
      have := ih (heq.2 ▸ hcut)
      simp only [List.length_cons]
      omega

/-- Takes a text apart; `acc` is the plain text before it, latest character first. -/
def pieces (acc : List Char) (cs : List Char) : List Piece :=
  match cs with
  | [] => [.plain acc.reverse]
  | '$' :: '\x7b' :: rest =>
    match _h : cut? '\x7d' rest with
    | none => [.plain (acc.reverse ++ '$' :: '\x7b' :: rest)]
    | some (name, after) => .plain acc.reverse :: .reference name :: pieces [] after
  | c :: rest => pieces (c :: acc) rest
termination_by cs.length
decreasing_by
  · have := length_lt_of_cut? _h
    simp only [List.length_cons]
    omega
  · simp

/-- The pieces of a text: plain text and references in turn. -/
def Piece.ofChars (cs : List Char) : List Piece := pieces [] cs

/-- What a piece stands for. The empty name has no value, and neither has a variable that is not text. -/
def Piece.value (env : Environment) : Piece → List Char
  | .plain text => text
  | .reference [] => []
  | .reference name => ((env.text? (String.ofList name)).getD "").toList

/-- The names that a text refers to. -/
def references (s : String) : List String :=
  (Piece.ofChars s.toList).filterMap fun
    | .plain _ => none
    | .reference name => some (String.ofList name)

end Expansion

/-- A text with the values of its references. -/
def expand (env : Environment) (s : String) : String :=
  String.ofList ((Expansion.Piece.ofChars s.toList).flatMap (Expansion.Piece.value env))

end Attendant

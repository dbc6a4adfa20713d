/-!
# Reports

How a failure is told at the end of a program: what has failed, and below it the causes, one below the other. A single
cause stands by itself; of several each has its number. Lines of one cause stand below each other.
-/

namespace Attendant.Report

/-- A text whose lines after the first are set in. -/
private def hang (margin : String) (s : String) : String := String.intercalate ("\n" ++ margin) (s.splitOn "\n")

/-- A number at the right of five places. -/
private def place (n : Nat) : String :=
  let digits := toString n
  String.ofList (List.replicate (5 - digits.length) ' ') ++ digits

/-- The causes, as they stand below what has failed. -/
def causes : List String → String
  | [] => ""
  | [only] => "\n\nCaused by:\n    " ++ hang "    " only
  | several =>
    "\n\nCaused by:" ++ String.join (several.zipIdx.map fun (cause, i) => "\n" ++ place i ++ ": " ++ hang "       " cause)

/-- A report. -/
def text (failure : String) (reasons : List String) : String := "Error: " ++ failure ++ causes reasons ++ "\n"

end Attendant.Report

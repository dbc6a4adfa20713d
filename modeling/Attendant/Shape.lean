import Attendant.Json.Number
import Attendant.Text.Quoted
import Attendant.Widths

/-!
# Shapes of results

A request says which shape of result it expects, and `Shape.check` compares a result with it. `Mismatch` says what was
found instead.
-/

namespace Attendant

/-- The shape that a result should have. -/
inductive Shape where
  | anything
  | text
  | textOrNull
  | nat64
  | int64
  | byte
  | truth
  | nothing
  | texts
  deriving DecidableEq, Repr

/-- A result that has not the shape expected. -/
structure Mismatch where
  found : Value
  expected : String
  outOfRange : Bool := false
  deriving DecidableEq, Repr

namespace Mismatch

/-- Doubles are shown without exponents. -/
private def layout : Json.NumberLayout := ⟨-400, 400, false⟩

private def doubleText (d : Double) : String :=
  let sign := if d.isNegative then "-" else ""
  if d.isZero then sign ++ "0.0"
  else
    let (digits, power) := Decimal.shortest (Decimal.Binary.ofBits d.bits)
    sign ++ layout.text digits power

/-- A value as it is named in a message. -/
def describe : Value → String
  | .null => "null"
  | .bool b => "boolean `" ++ (if b then "true" else "false") ++ "`"
  | .int n => "integer `" ++ toString n ++ "`"
  | .double d => "floating point `" ++ doubleText d ++ "`"
  | .str s => "string " ++ Text.quoted s
  | .list _ => "sequence"
  | .table _ => "map"

/-- How a mismatch is told to the user. -/
def message (m : Mismatch) : String :=
  (if m.outOfRange then "invalid value: " else "invalid type: ") ++ describe m.found ++ ", expected " ++ m.expected

end Mismatch

namespace Shape

private def checkText (v : Value) : Except Mismatch Value :=
  match v with
  | .str _ => .ok v
  | _ => .error ⟨v, "a string", false⟩

private def checkInt (least greatest : Int) (name : String) (v : Value) : Except Mismatch Value :=
  match v with
  | .int n => if least ≤ n && n ≤ greatest then .ok v else .error ⟨v, name, true⟩
  | _ => .error ⟨v, name, false⟩

/-- A result, if it has the shape. -/
def check : Shape → Value → Except Mismatch Value
  | .anything, v => .ok v
  | .text, v => checkText v
  | .textOrNull, .null => .ok .null
  | .textOrNull, v => checkText v
  | .nat64, v => checkInt 0 (width64 - 1) "u64" v
  | .int64, v => checkInt (-width63) (width63 - 1) "i64" v
  | .byte, v => checkInt 0 255 "u8" v
  | .truth, v =>
    match v with
    | .bool _ => .ok v
    | _ => .error ⟨v, "a boolean", false⟩
  | .nothing, v =>
    match v with
    | .null => .ok .null
    | _ => .error ⟨v, "unit", false⟩
  | .texts, v =>
    match v with
    | .list items => (items.mapM checkText).map .list
    | _ => .error ⟨v, "a sequence", false⟩

end Shape

end Attendant

import Attendant.Message
import Attendant.Proofs.Json.RoundTrip

/-!
# What is kept of an error

A response with an error holds a payload, which can be any value. If the payload fits an error (`RpcError.Fits`), it is
read as one: an object with a code of 64 bits and a text as its message, or a list of these. Whatever does not fit is kept
as its text. So the reader never refuses a payload, but it does not keep every object of an error as it is: `null` as data
is read as no data, and is gone when the error is written again (`Response.result_of_payload`).
-/

namespace Attendant

namespace Value

/-- The names of a table differ from each other. -/
def Distinct : Value → Prop
  | .table fields => (fields.map (·.1)).Nodup
  | _ => True

private theorem int64?_eq_some_iff {v : Value} {n : Int} :
    v.int64? = some n ↔ v = .int n ∧ -(width63 : Int) ≤ n ∧ n < width63 := by
  cases v with
  | int m =>
    simp only [int64?, Option.ite_none_right_eq_some, Bool.and_eq_true, decide_eq_true_eq, Option.some.injEq, int.injEq]
    constructor
    · rintro ⟨hrange, rfl⟩
      exact ⟨rfl, hrange⟩
    · rintro ⟨rfl, hrange⟩
      exact ⟨hrange, rfl⟩
  | _ => simp [int64?]

private theorem str?_eq_some_iff {v : Value} {s : String} : v.str? = some s ↔ v = .str s := by
  cases v <;> simp [str?]

end Value

namespace RpcError

/-- An integer that has 64 bits with its sign. -/
def IsCode (n : Int) : Prop := -(width63 : Int) ≤ n ∧ n < width63

instance (n : Int) : Decidable (IsCode n) := inferInstanceAs (Decidable (_ ∧ _))

/-- What is there of some data: `null` counts as nothing. -/
def present : Option Value → Option Value
  | some .null => none
  | data => data

/-- The object of an error with exactly these members, in the order of their names. -/
def object (code : Int) (message : String) : Option Value → Value
  | none => .table [("code", .int code), ("message", .str message)]
  | some data => .table [("code", .int code), ("data", data), ("message", .str message)]

/-- A value fits an error: it is a table with the members that an error has to have, whatever else it holds, or a list
of what they hold. -/
inductive Fits : Value → RpcError → Prop where
  | table {fields : List (String × Value)} {code : Int} {message : String} :
      fields.lookup "code" = some (.int code) → IsCode code → fields.lookup "message" = some (.str message) →
      Fits (.table fields) ⟨code, message, present (fields.lookup "data")⟩
  | pair {code : Int} (message : String) : IsCode code → Fits (.list [.int code, .str message]) ⟨code, message, none⟩
  | triple {code : Int} (message : String) (data : Value) : IsCode code →
      Fits (.list [.int code, .str message, data]) ⟨code, message, present (some data)⟩

private theorem present_ne_null (data : Option Value) : present data ≠ some .null := by
  unfold present
  split
  · simp
  · rename_i h
    exact h

private theorem present_eq_self_iff {data : Option Value} : present data = data ↔ data ≠ some .null := by
  constructor
  · intro h
    rw [← h]
    exact present_ne_null data
  · intro h
    unfold present
    split
    · exact absurd rfl h
    · rfl

private theorem optionally_some (data : Option Value) : Value.optionally some data = some (present data) := by
  cases data with
  | none => rfl
  | some v => cases v <;> rfl

private theorem toValue_eq_object (e : RpcError) : e.toValue = object e.code e.message e.data := by
  obtain ⟨code, message, data⟩ := e
  cases data <;> rfl

private theorem distinct_object (code : Int) (message : String) (data : Option Value) :
    (object code message data).Distinct := by
  cases data <;> simp [object, Value.Distinct]

private theorem fits_object {code : Int} (h : IsCode code) (message : String) (data : Option Value) :
    Fits (object code message data) ⟨code, message, present data⟩ := by
  cases data with
  | none => exact Fits.table rfl h rfl
  | some data => exact Fits.table rfl h rfl

private theorem Fits.isCode {v : Value} {e : RpcError} (h : Fits v e) : IsCode e.code := by
  cases h with
  | table _ h _ => exact h
  | pair _ h => exact h
  | triple _ _ h => exact h

private theorem Fits.data_ne_null {v : Value} {e : RpcError} (h : Fits v e) : e.data ≠ some .null := by
  cases h with
  | table _ _ _ => exact present_ne_null _
  | pair _ _ => simp
  | triple _ _ _ => exact present_ne_null _

/-- An error is read from what stands for each of its members. -/
private theorem ofValue?_of_parts {v : Value} {code? message? data? : Option Value} {e : RpcError}
    (h : Record.ofValue? v >>= Record.arrange? slots false = some [code?, message?, data?]) :
    ofValue? v = some e ↔
      ∃ code message, code? = some (.int code) ∧ IsCode code ∧ message? = some (.str message) ∧
        e = ⟨code, message, present data?⟩ := by
  rw [ofValue?, h]
  simp only [optionally_some, Option.bind_eq_bind, Option.bind_some, Option.bind_eq_some_iff,
    Value.int64?_eq_some_iff, Value.str?_eq_some_iff, Option.pure_def, Option.some.injEq]
  constructor
  · rintro ⟨code, ⟨v, hcode, rfl, hrange⟩, message, ⟨w, hmessage, rfl⟩, rfl⟩
    exact ⟨code, message, hcode, hrange, hmessage, rfl⟩
  · rintro ⟨code, message, hcode, hrange, hmessage, rfl⟩
    exact ⟨code, ⟨_, hcode, rfl, hrange⟩, message, ⟨_, hmessage, rfl⟩, rfl⟩

private theorem ofValue?_of_none {v : Value} (h : Record.ofValue? v >>= Record.arrange? slots false = none) :
    ofValue? v = none := by
  rw [ofValue?, h]
  rfl

/-- An error is read from the values that fit one, and from no others. -/
theorem ofValue?_eq_some_iff {v : Value} {e : RpcError} (h : v.Distinct) : ofValue? v = some e ↔ Fits v e := by
  -- a value of any other shape is no record of an error, and fits none
  have hother (hnone : Record.ofValue? v >>= Record.arrange? slots false = none) (hfits : ¬Fits v e) :
      ofValue? v = some e ↔ Fits v e := by
    rw [ofValue?_of_none hnone]
    exact iff_of_false nofun hfits
  cases v with
  | table fields =>
    have hparts : Record.ofValue? (.table fields) >>= Record.arrange? slots false =
        some [fields.lookup "code", fields.lookup "message", fields.lookup "data"] :=
      Record.arrange?_fields slots false h
    rw [ofValue?_of_parts hparts]
    constructor
    · rintro ⟨code, message, hcode, hrange, hmessage, rfl⟩
      exact .table hcode hrange hmessage
    · rintro (⟨hcode, hrange, hmessage⟩)
      exact ⟨_, _, hcode, hrange, hmessage, rfl⟩
  | list items =>
    match items with
    | [] | [_] => exact hother rfl (by rintro ⟨⟩)
    | [a, b] =>
      have hparts : Record.ofValue? (.list [a, b]) >>= Record.arrange? slots false = some [some a, some b, none] := rfl
      rw [ofValue?_of_parts hparts]
      constructor
      · rintro ⟨code, message, ha, hrange, hb, rfl⟩
        cases ha
        cases hb
        exact .pair message hrange
      · rintro (_ | ⟨message, hrange⟩)
        exact ⟨_, message, rfl, hrange, rfl, rfl⟩
    | [a, b, c] =>
      have hparts : Record.ofValue? (.list [a, b, c]) >>= Record.arrange? slots false =
        some [some a, some b, some c] := rfl
      rw [ofValue?_of_parts hparts]
      constructor
      · rintro ⟨code, message, ha, hrange, hb, rfl⟩
        cases ha
        cases hb
        exact .triple message c hrange
      · rintro (_ | _ | ⟨message, data, hrange⟩)
        exact ⟨_, message, rfl, hrange, rfl, rfl⟩
    | a :: b :: c :: d :: items => exact hother rfl (by rintro ⟨⟩)
  | _ => exact hother rfl (by rintro ⟨⟩)

private theorem ofPayload_of_fits {v : Value} {e : RpcError} (hd : v.Distinct) (h : Fits v e) : ofPayload v = e := by
  rw [ofPayload, (ofValue?_eq_some_iff hd).2 h]
  rfl

private theorem ofPayload_of_not_fits {v : Value} (hd : v.Distinct) (h : ¬∃ e, Fits v e) :
    ofPayload v = ⟨0, Json.render v, none⟩ := by
  have hnone : ofValue? v = none := by
    cases hv : ofValue? v with
    | none => rfl
    | some e => exact absurd ⟨e, (ofValue?_eq_some_iff hd).1 hv⟩ h
  rw [ofPayload, hnone]
  rfl

/-- An error has been read from a code of 64 bits, or is a text under the code zero. -/
theorem isCode_ofPayload {v : Value} (hd : v.Distinct) : IsCode (ofPayload v).code := by
  by_cases h : ∃ e, Fits v e
  · obtain ⟨e, hfits⟩ := h
    rw [ofPayload_of_fits hd hfits]
    exact hfits.isCode
  · rw [ofPayload_of_not_fits hd h]
    exact (by decide : IsCode 0)

/-- Data that is `null` is never kept. -/
theorem data_ofPayload_ne_null {v : Value} (hd : v.Distinct) : (ofPayload v).data ≠ some .null := by
  by_cases h : ∃ e, Fits v e
  · obtain ⟨e, hfits⟩ := h
    rw [ofPayload_of_fits hd hfits]
    exact hfits.data_ne_null
  · rw [ofPayload_of_not_fits hd h]
    simp

theorem object_inj {code code' : Int} {message message' : String} {data data' : Option Value} :
    object code message data = object code' message' data' ↔ code = code' ∧ message = message' ∧ data = data' := by
  cases data <;> cases data' <;> simp [object, and_comm]

/-- The object of an error is written again as it was unless its data is `null`. -/
theorem toValue_ofPayload_object {code : Int} (h : IsCode code) (message : String) (data : Option Value) :
    (ofPayload (object code message data)).toValue = object code message data ↔ data ≠ some .null := by
  rw [ofPayload_of_fits (distinct_object code message data) (fits_object h message data), toValue_eq_object, object_inj]
  simp [present_eq_self_iff]

end RpcError

namespace Response

open RpcError (Fits IsCode object)

/-- A response with an error is that error, whatever else it has. -/
theorem result_eq_error {body payload : Value} (h : body.field? "error" = some payload) :
    result body = .error (RpcError.ofPayload payload) := by
  rw [result, h]

/-- What a response with an error comes to, for any payload. If the payload is the object of an error with a code of 64
bits, a message and perhaps data, and nothing else, then it is written again as it was unless the data is `null`; and no
other payload is. A payload that fits an error is read as that error. Any other is kept as its text, from which it can be
read back if it can be read back at all, and so it can without doubles. -/
theorem result_of_payload {body payload : Value} (hbody : body.field? "error" = some payload)
    (hnames : payload.Distinct) :
    ∃ e, result body = .error e ∧
      (∀ code message data, IsCode code → payload = object code message data →
        (e.toValue = payload ↔ data ≠ some .null)) ∧
      (e.toValue = payload ↔
        ∃ code message data, IsCode code ∧ data ≠ some .null ∧ payload = object code message data) ∧
      (∀ fit, Fits payload fit → e = fit) ∧
      ((¬∃ fit, Fits payload fit) →
        e = ⟨0, Json.render payload, none⟩ ∧
        (Json.parse? (Json.render payload) = some payload → Json.parse? e.message = some payload) ∧
        (Json.Plain 127 payload → Json.parse? e.message = some payload)) := by
  refine ⟨RpcError.ofPayload payload, result_eq_error hbody, ?_, ⟨?_, ?_⟩, ?_, ?_⟩
  · rintro code message data hcode rfl
    exact RpcError.toValue_ofPayload_object hcode message data
  · intro hsame
    rw [RpcError.toValue_eq_object] at hsame
    exact ⟨_, _, _, RpcError.isCode_ofPayload hnames, RpcError.data_ofPayload_ne_null hnames, hsame.symm⟩
  · rintro ⟨code, message, data, hcode, hdata, rfl⟩
    exact (RpcError.toValue_ofPayload_object hcode message data).2 hdata
  · intro fit hfits
    exact RpcError.ofPayload_of_fits hnames hfits
  · intro hother
    rw [RpcError.ofPayload_of_not_fits hnames hother]
    exact ⟨rfl, id, Json.parse?_render⟩

/-- An object of an error with data, and a text in its place. -/
theorem result_of_payload_both :
    let kept := object (-32603) "log disabled" (some (.list [.null]))
    let text : Value := .str "boom"
    (∃ e, result (.table [("error", kept), ("id", .int 1)]) = .error e ∧ e.toValue = kept) ∧
      ∃ e, result (.table [("error", text), ("id", .int 1)]) = .error e ∧ e.message = "\"boom\"" ∧
        Json.parse? e.message = some text := by
  intro kept text
  constructor
  · have hbody : Value.field? (.table [("error", kept), ("id", .int 1)]) "error" = some kept := rfl
    obtain ⟨e, hresult, hkept, -⟩ := result_of_payload hbody (RpcError.distinct_object _ _ _)
    exact ⟨e, hresult, (hkept _ _ _ (by decide) rfl).2 (by simp)⟩
  · have hbody : Value.field? (.table [("error", text), ("id", .int 1)]) "error" = some text := rfl
    have hother : ¬∃ fit, Fits (.str "boom") fit := by
      rintro ⟨fit, ⟨⟩⟩
    obtain ⟨e, hresult, -, -, -, htext⟩ := result_of_payload hbody trivial
    obtain ⟨rfl, -, hread⟩ := htext hother
    exact ⟨_, hresult, rfl, hread (.str "boom")⟩

/-- Not every object of an error is kept as it is: `null` as data is lost. -/
theorem not_always_verbatim :
    ¬∀ (code : Int) (message : String) (data : Option Value), IsCode code →
      ∃ e, result (.table [("error", object code message data)]) = .error e ∧
        e.toValue = object code message data := by
  intro h
  obtain ⟨e, hresult, hvalue⟩ := h 1 "m" (some .null) (by decide)
  cases hresult
  exact (RpcError.toValue_ofPayload_object (by decide) "m" (some .null)).1 hvalue rfl

end Response

end Attendant

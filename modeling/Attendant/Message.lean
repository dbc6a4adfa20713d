import Attendant.Json.Printer
import Attendant.Path
import Attendant.Value.Record

/-!
# Messages

The messages that go between a client and its worker: requests, which carry an id and get a response, and
notifications, which do not.

* `Message.request` and `Message.notification` are what the client sends, with their fields in the order of the wire;
* `Incoming.ofValue?` says what a message from the worker is, and `Incoming.reply` is the answer to a worker's request;
* `Response.result` is what a response says, an error included, and `RpcError` is such an error.
-/

namespace Attendant

/-- An error that the worker answers with. -/
structure RpcError where
  code : Int
  message : String
  data : Option Value := none
  deriving DecidableEq, Repr, Inhabited

namespace RpcError

/-- The fields of an error, in the order of the wire. -/
def fields (e : RpcError) : List (String × Value) :=
  [("code", .int e.code), ("message", .str e.message)] ++
    match e.data with
    | some v => [("data", v)]
    | none => []

/-- An error as a value. -/
def toValue (e : RpcError) : Value := Value.ofFields e.fields

/-- The fields of the record that an error is. -/
def slots : List Record.Slot := [⟨"code", false⟩, ⟨"message", false⟩, ⟨"data", true⟩]

/-- Reads an error from a value that is one: a code of 64 bits, a message, and perhaps data. -/
def ofValue? (v : Value) : Option RpcError := do
  match ← Record.ofValue? v >>= Record.arrange? slots false with
  | [code, message, data] =>
    return {
      code := ← code >>= Value.int64?
      message := ← message >>= Value.str?
      data := ← Value.optionally some data }
  | _ => none

/-- The error that any value stands for: what does not fit is kept as text. -/
def ofPayload (v : Value) : RpcError := (ofValue? v).getD ⟨0, Json.render v, none⟩

end RpcError

namespace Message

/-- The fields of a request, in the order of the wire. -/
def requestFields (id : Nat) (method : String) (params : Option Value) : List (String × Value) :=
  [("jsonrpc", .str "2.0"), ("id", .int id), ("method", .str method)] ++
    match params with
    | some v => [("params", v)]
    | none => []

/-- The fields of a notification, in the order of the wire. -/
def notificationFields (method : String) (params : Option Value) : List (String × Value) :=
  [("jsonrpc", .str "2.0"), ("method", .str method)] ++
    match params with
    | some v => [("params", v)]
    | none => []

/-- A request to the worker. -/
def request (id : Nat) (method : String) (params : Option Value) : Value :=
  Value.ofFields (requestFields id method params)

/-- A notification to the worker. -/
def notification (method : String) (params : Option Value) : Value :=
  Value.ofFields (notificationFields method params)

/-- What the worker is told when it asks for something. -/
def methodNotFound (id : Value) (method : String) : Value :=
  Value.ofFields [("jsonrpc", .str "2.0"), ("id", id),
    ("error", Value.ofFields [("code", .int (-32601)), ("message", .str ("Method not found: " ++ method))])]

/-- The parameters of the first request: who asks, and the directory that the work is about. -/
def handshakeParams (process : Nat) (root : Path) : Value :=
  let uri := root.directoryUri?
  let folders : Value := match uri with
    | none => .null
    | some uri =>
      let name := match root.fileName? with
        | some bytes => String.ofList (Utf8.lossy bytes)
        | none => "workspace"
      .list [Value.ofFields [("uri", .str uri), ("name", .str name)]]
  Value.ofFields [("processId", .int process),
    ("rootUri", match uri with | some uri => .str uri | none => .null),
    ("capabilities", .table []), ("workspaceFolders", folders)]

end Message

/-- A message from the worker. -/
inductive Incoming where
  | response (id : Nat) (body : Value)
  | request (id : Value) (method : String)
  | notification (method : String)
  deriving DecidableEq, Repr

namespace Incoming

/-- What a value is as a message. A method makes it a request if it has an id, and a notification if not; an id with a
result or an error, but no method, makes it a response, if the id is one that the client could have sent. -/
def ofValue? (v : Value) : Option Incoming :=
  let method := v.field? "method" >>= Value.str?
  match v.field? "id", method with
  | some id, none =>
    if (v.field? "result").isSome || (v.field? "error").isSome then id.nat64?.map fun n => .response n v else none
  | some id, some method => some (.request id method)
  | none, some method => some (.notification method)
  | none, none => none

/-- The answer that a message from the worker gets. -/
def reply? : Incoming → Option Value
  | .request id method => some (Message.methodNotFound id method)
  | _ => none

end Incoming

/-- What a response says: its result, null if it has none, or its error. -/
def Response.result (body : Value) : Except RpcError Value :=
  match body.field? "error" with
  | some payload => .error (RpcError.ofPayload payload)
  | none => .ok ((body.field? "result").getD .null)

end Attendant

/-!
# Sinks

Where the text of a log is shown: it can be added to, cleared, and closed. A `Sink` remembers every call, and its
contents are what has been added since the last clear.
-/

namespace Attendant.Log

/-- A call that a sink receives. -/
inductive SinkCall where
  | append (text : String)
  | clear
  | dispose
  deriving DecidableEq, Repr, Inhabited

/-- A sink that remembers its calls, the latest first. -/
structure Sink where
  calls : List SinkCall := []
  deriving DecidableEq, Repr, Inhabited

namespace Sink

/-- A sink that nothing has been shown in. -/
def empty : Sink := {}

/-- The sink after one more call. -/
def record (s : Sink) (call : SinkCall) : Sink := ⟨call :: s.calls⟩

/-- The sink after some calls, the first of them first. -/
def recordAll (s : Sink) (calls : List SinkCall) : Sink := calls.foldl record s

/-- The texts added since the last clear, the latest first. -/
def shown : List SinkCall → List String
  | [] => []
  | .append text :: rest => text :: shown rest
  | .clear :: _ => []
  | .dispose :: rest => shown rest

/-- What the sink shows. -/
def contents (s : Sink) : String := String.join (shown s.calls).reverse

/-- How often the sink has been cleared. -/
def clears (s : Sink) : Nat := s.calls.count .clear

/-- Whether the sink has been closed. -/
def isDisposed (s : Sink) : Bool := s.calls.contains .dispose

end Sink

end Attendant.Log

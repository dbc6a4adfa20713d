import Attendant.Frame.Basic
import Attendant.Log.Sink

/-!
# The position in a log

How far a log file has been read. Every time the size of the file is known anew, `Position.begin` compares it with the
position: a file that has become shorter is read again from its start, into a cleared sink. A `Pass` then reads what is
missing, request by request.

* `Position.diff` is that comparison, `Position.absorb` the one place where bytes become text;
* `Pass.step` says what one answer of the file does; `Position.follow` runs a whole pass over a file at rest.
-/

namespace Attendant.Log

/-- The most bytes that one request asks for. -/
def chunkBytes : Nat := 64 * 1024

/-- What the size of a file says about a position in it. -/
inductive Change where
  | unchanged
  | grew (start stop : Nat)
  | truncated (stop : Nat)
  deriving DecidableEq, Repr

/-- How far a file has been read, its last known size, and the bytes of a character that is not complete yet. -/
structure Position where
  offset : Nat := 0
  size : Nat := 0
  held : List UInt8 := []
  deriving DecidableEq, Repr, Inhabited

namespace Position

/-- The start of a file. -/
def start : Position := {}

/-- What a size says about the position. -/
def diff (p : Position) (size : Nat) : Change :=
  if size < p.offset then .truncated size
  else if p.offset < size then .grew p.offset size
  else .unchanged

/-- The position once bytes have been read, and what they show. -/
def absorb (p : Position) (bytes : List UInt8) : Position × List SinkCall :=
  let (text, held) := Utf8.decode p.held bytes
  ({ p with offset := p.offset + bytes.length, held },
    if text.isEmpty then [] else [.append (String.ofList text)])

end Position

/-- Where a pass over a file stands: it looks for its place, reads up to `stop`, has ended, or has failed. The bytes of
the request under way are held latest first. -/
inductive Pass where
  | seeking (stop : Nat)
  | reading (stop missing : Nat) (got : List UInt8)
  | ended
  | failed (fault : IoFault)
  deriving DecidableEq, Repr

/-- What a file answers: it is in place, it gives bytes, of which none means its end, or it fails. -/
inductive FileAnswer where
  | placed
  | bytes (chunk : List UInt8)
  | failure (fault : IoFault)
  deriving DecidableEq, Repr

namespace Position

/-- Begins a pass over a file of a size. -/
def begin (p : Position) (size : Nat) : Change × Position × Pass × List SinkCall :=
  let change := p.diff size
  match change with
  | .unchanged => (change, { p with size }, .ended, [])
  | .grew _ stop => (change, { p with size }, .seeking stop, [])
  | .truncated stop => (change, { offset := 0, size, held := [] }, .seeking stop, [.clear])

/-- The next request of a pass up to `stop`. -/
def request (p : Position) (stop : Nat) : Pass :=
  if p.offset < stop then .reading stop (min (stop - p.offset) chunkBytes) [] else .ended

end Position

namespace Pass

/-- Ends a request: its bytes are absorbed, and the next one follows. -/
def endRequest (p : Position) (stop : Nat) (got : List UInt8) : Position × Pass × List SinkCall :=
  let (p, calls) := p.absorb got.reverse
  (p, p.request stop, calls)

/-- What an answer of the file does to a pass. A request that fails loses its bytes. -/
def step (p : Position) : Pass → FileAnswer → Position × Pass × List SinkCall
  | .seeking _, .failure fault => (p, .failed fault, [])
  | .seeking stop, _ => (p, p.request stop, [])
  | .reading _ _ _, .failure fault => (p, .failed fault, [])
  | .reading stop _ got, .bytes [] =>
    if got.isEmpty then (p, .ended, []) else endRequest p stop got
  | .reading stop missing got, .bytes chunk =>
    let chunk := chunk.take missing
    let got := chunk.reverseAux got
    if missing ≤ chunk.length then endRequest p stop got
    else (p, .reading stop (missing - chunk.length) got, [])
  | pass, _ => (p, pass, [])

/-- Whether a pass has come to its end, good or bad. -/
def isOver : Pass → Bool
  | .ended | .failed _ => true
  | _ => false

/-- How a pass went. -/
def result : Pass → Except IoFault Unit
  | .failed fault => .error fault
  | _ => .ok ()

end Pass

/-- A file at rest, as a pass meets it. At most `piece` bytes come at a time. -/
structure Contents where
  data : List UInt8
  piece : Option Nat := none
  failFrom : Option Nat := none
  failSeek : Bool := false

/-- How far a file at rest has been read in a pass: the place, and what comes after it. -/
structure Cursor where
  place : Nat := 0
  rest : List UInt8 := []

namespace Contents

/-- How far a file has been read in a pass whose request began at `p`. -/
def cursor (c : Contents) (p : Position) (pass : Pass) : Cursor :=
  let place := match pass with
    | .reading _ _ got => p.offset + got.length
    | _ => p.offset
  ⟨place, c.data.drop place⟩

/-- The answer of a file to a pass, and how far the file has been read then. -/
def answer (c : Contents) (p : Position) (cursor : Cursor) : Pass → FileAnswer × Cursor
  | .seeking _ =>
    if c.failSeek then (.failure ⟨"Other", "injected seek"⟩, cursor)
    else (.placed, ⟨p.offset, c.data.drop p.offset⟩)
  | .reading _ missing _ =>
    let room := match c.failFrom with
      | some limit => limit - cursor.place
      | none => missing
    if c.failFrom.isSome && room = 0 then (.failure ⟨"Other", "injected"⟩, cursor)
    else
      let chunk := cursor.rest.take (min (min missing (c.piece.getD missing)) room)
      (.bytes chunk, ⟨cursor.place + chunk.length, cursor.rest.drop chunk.length⟩)
  | _ => (.placed, cursor)

end Contents

namespace Position

/-- Runs a pass over a file at rest to its end; the calls come back latest first. -/
def runPass (c : Contents) :
    Nat → Position → Cursor → Pass → List SinkCall → Position × Pass × List SinkCall
  | 0, p, _, pass, calls => (p, pass, calls)
  | fuel + 1, p, cursor, pass, calls =>
    if pass.isOver then (p, pass, calls)
    else
      let (answer, cursor) := c.answer p cursor pass
      let (p, pass, more) := pass.step p answer
      runPass c fuel p cursor pass (more.reverse ++ calls)

/-- Brings a sink up to date with a file at rest that is said to have a size. -/
def follow (p : Position) (c : Contents) (size : Nat) :
    Position × Except IoFault Change × List SinkCall :=
  let (change, p, pass, calls) := p.begin size
  let (p, pass, calls) := runPass c (2 * c.data.length + 4) p {} pass calls.reverse
  (p, pass.result.map fun _ => change, calls.reverse)

end Position

end Attendant.Log

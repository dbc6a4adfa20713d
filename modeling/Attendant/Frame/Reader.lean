import Attendant.Frame.Basic

/-!
# Reading frames

A reader is fed what its source delivers, one byte at a time, the end of the source, or a failure. It holds the part
of a frame that it has read, so it does not matter how the bytes are cut into deliveries.

* `Reader.byte`, `Reader.ended`, `Reader.broken` are its three steps, and each gives at most one result;
* `Reader.scan` reads up to the first result, `Reader.feed` a whole chunk, `Reader.deliver` what a source delivers.
-/

namespace Attendant.Frame

/-- What a reader gives: a message, the end of the stream between two frames, or a fault. -/
inductive Result where
  | frame (message : Value)
  | finished
  | fault (fault : Fault)
  deriving DecidableEq, Repr

/-- The part of a frame that has been read. Bytes are held latest first. -/
inductive Reader where
  | header (header : Header) (line : List UInt8)
  | body (missing : Nat) (bytes : List UInt8)
  deriving DecidableEq, Repr

namespace Reader

/-- Between two frames. -/
def start : Reader := .header {} []

/-- The message of a whole body. -/
def close (bytes : List UInt8) : Result :=
  match Json.decode? bytes with
  | some v => .frame v
  | none => .fault .malformedBody

/-- What follows from a whole header line. -/
def afterLine : Step → Reader × Option Result
  | .more h => (.header h [], none)
  | .finished 0 => (start, some (close []))
  | .finished n => (.body n [], none)
  | .failed fault => (start, some (.fault fault))

/-- Reads one byte. -/
def byte : Reader → UInt8 → Reader × Option Result
  | .header h line, b => if b = 0x0A then afterLine (h.line (b :: line).reverse) else (.header h (b :: line), none)
  | .body missing bytes, b =>
    if missing ≤ 1 then (start, some (close (b :: bytes).reverse)) else (.body (missing - 1) (b :: bytes), none)

/-- The source has nothing more for now. A line that has begun counts as a whole one, and the reader asks again. -/
def ended : Reader → Reader × Option Result
  | .header h [] => (start, some (if h.started then .fault .truncatedHeaders else .finished))
  | .header h line => afterLine (h.line line.reverse)
  | .body _ _ => (start, some (.fault (.io ⟨"UnexpectedEof", "early eof"⟩)))

/-- The source has failed. -/
def broken (r : Reader) (fault : IoFault) : Reader × Option Result := (r, some (.fault (.io fault)))

/-- Reads bytes up to the first result: the result, if there is one, and the bytes after it. -/
def scan (r : Reader) : List UInt8 → Reader × Option Result × List UInt8
  | [] => (r, none, [])
  | b :: rest =>
    match r.byte b with
    | (r, none) => scan r rest
    | (r, some result) => (r, some result, rest)

/-- Reads a chunk; `acc` holds the results so far, latest first. -/
def feedFrom (acc : List Result) (r : Reader) : List UInt8 → Reader × List Result
  | [] => (r, acc.reverse)
  | b :: rest =>
    match r.byte b with
    | (r, none) => feedFrom acc r rest
    | (r, some result) => feedFrom (result :: acc) r rest

/-- Reads a chunk. -/
def feed (r : Reader) (chunk : List UInt8) : Reader × List Result := feedFrom [] r chunk

/-- How many bytes the reader asks its source for. -/
def wants : Reader → Nat
  | .header _ _ => 8192
  | .body missing _ => max 8192 missing

end Reader

/-- Whether a reader goes on after a result. Only the end of the stream and failures of the source stop it. -/
def Result.goesOn : Result → Bool
  | .finished => false
  | .fault (.io _) => false
  | _ => true

/-- What a read from a source gives: bytes, of which none means the end for now, or a failure. -/
inductive Delivery where
  | bytes (chunk : List UInt8)
  | failure (fault : IoFault)
  deriving DecidableEq, Repr

/-- Reads what a source delivers: the reader is asked again until it gives a result at the end of the source. -/
def Reader.deliver (r : Reader) : Delivery → Reader × List Result
  | .bytes [] =>
    match r.ended with
    | (r, result) => (r, result.toList)
  | .bytes chunk => r.feed chunk
  | .failure fault =>
    match r.broken fault with
    | (r, result) => (r, result.toList)

end Attendant.Frame

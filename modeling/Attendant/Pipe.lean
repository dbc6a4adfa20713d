import Attendant.Widths

/-!
# Pipes

Bytes on their way from one process to another: a queue of limited room with a writing end and a reading end.
-/

namespace Attendant

/-- A pipe, and which of its ends are open. -/
structure Pipe where
  capacity : Nat
  bytes : List UInt8 := []
  hasWriter : Bool := true
  hasReader : Bool := true
  deriving DecidableEq, Repr, Inhabited

namespace Pipe

/-- The room of a pipe of the system. -/
def usual : Nat := 64 * 1024

/-- The room of a pipe within one program, which is never full. -/
def inMemory : Nat := width64

/-- An empty pipe. -/
def empty (capacity : Nat) : Pipe := { capacity }

/-- How many bytes can be written without waiting. -/
def room (p : Pipe) : Nat := p.capacity - p.bytes.length

/-- Writes as much of some bytes as there is room for; the rest comes back. -/
def write (p : Pipe) (bs : List UInt8) : Pipe × List UInt8 :=
  let n := p.room
  ({ p with bytes := p.bytes ++ bs.take n }, bs.drop n)

/-- Takes all bytes. -/
def drain (p : Pipe) : List UInt8 × Pipe := (p.bytes, { p with bytes := [] })

/-- Whether a reader would find the end: nothing is left, and nobody can write any more. -/
def atEnd (p : Pipe) : Bool := p.bytes.isEmpty && !p.hasWriter

/-- The writing end is closed. -/
def closeWriter (p : Pipe) : Pipe := { p with hasWriter := false }

/-- The reading end is closed; what is in the pipe is lost. -/
def closeReader (p : Pipe) : Pipe := { p with bytes := [], hasReader := false }

end Pipe

end Attendant

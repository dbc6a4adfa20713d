import Attendant.Frame.Reader

/-!
# A source that delivers in pieces

Bytes that arrive in pieces of given sizes. The last size repeats; a piece of size zero looks like the end. A source that
fails does so after so many bytes, and at its end at the latest. `Source.results` is what a reader makes of a source.
-/

namespace Attendant.Frame

/-- A source of bytes. -/
structure Source where
  data : List UInt8
  pieces : List Nat := []
  failAfter : Option Nat := none
  delivered : Nat := 0

namespace Source

/-- The failure of a source that fails. -/
def injected : IoFault := ⟨"Other", "injected"⟩

/-- One read of at most `limit` bytes. -/
def read (s : Source) (limit : Nat) : Delivery × Source :=
  let (size, pieces) := match s.pieces with
    | [] => (limit, [])
    | [n] => (n, [n])
    | n :: rest => (n, rest)
  let room := match s.failAfter with
    | none => limit
    | some n => n - s.delivered
  if s.failAfter.isSome && (room = 0 || s.data.isEmpty) then (.failure injected, s)
  else
    let count := min (min size limit) room
    let chunk := s.data.take count
    (.bytes chunk, { s with data := s.data.drop count, pieces, delivered := s.delivered + chunk.length })

/-- The results up to and including the first after which a reader stops. -/
private def upToStop : List Result → List Result × Bool
  | [] => ([], false)
  | r :: rest =>
    if r.goesOn then
      let (more, stopped) := upToStop rest
      (r :: more, stopped)
    else ([r], true)

private def collect (reader : Reader) (s : Source) (acc : List Result) (atMost : Nat) : Nat → List Result
  | 0 => acc
  | fuel + 1 =>
    let (delivery, s) := s.read reader.wants
    let (reader, results) := reader.deliver delivery
    let (results, stopped) := upToStop results
    let acc := acc ++ results
    if stopped || atMost ≤ acc.length then acc.take atMost else collect reader s acc atMost fuel

/-- What a reader gives, at most `atMost` results. -/
def results (s : Source) (atMost : Nat) : List Result :=
  collect .start s [] atMost (2 * s.data.length + s.pieces.length + 4)

end Source

end Attendant.Frame

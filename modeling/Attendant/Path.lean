import Attendant.Text.Utf8

/-!
# Paths

A path is a sequence of bytes, of which only the slash and the full stop mean something. Its parts are what stands
between slashes, without the empty ones and the single dots.

* `Path.parts` splits a path, `Path.absolute` and `Path.joined` put one together;
* `Path.directoryUri?` is the `file:` address of an absolute directory.
-/

namespace Attendant

/-- The path of a file or a directory. -/
structure Path where
  bytes : List UInt8
  deriving DecidableEq, Repr, Inhabited

namespace Path

private def slash : UInt8 := 0x2F

/-- The path that a text names. -/
def ofString (s : String) : Path := ⟨Utf8.encode s⟩

/-- The text of a path, with a mark for what is not UTF-8. -/
def text (p : Path) : String := String.ofList (Utf8.lossy p.bytes)

/-- The text of a path that is UTF-8. -/
def text? (p : Path) : Option String := Utf8.toString? p.bytes

/-- Whether a path starts at the root. -/
def isAbsolute (p : Path) : Bool := p.bytes.head? == some slash

/-- What stands between the slashes, empty pieces included. -/
private def split : List UInt8 → List (List UInt8)
  | [] => [[]]
  | b :: rest =>
    match split rest with
    | [] => [[b]]
    | piece :: more => if b = slash then [] :: piece :: more else (b :: piece) :: more

private def dot : List UInt8 := [0x2E]

/-- The two dots that stand for the directory above. -/
def above : List UInt8 := [0x2E, 0x2E]

/-- The parts of a path: neither empty nor a single dot. -/
def parts (p : Path) : List (List UInt8) := (split p.bytes).filter fun piece => piece ≠ [] && piece ≠ dot

/-- The absolute path with some parts. -/
def ofParts (pieces : List (List UInt8)) : Path :=
  if pieces.isEmpty then ⟨[slash]⟩ else ⟨pieces.flatMap (slash :: ·)⟩

/-- A path as seen from a directory; an absolute path stays what it is. -/
def seenFrom (p dir : Path) : Path :=
  if p.isAbsolute then p
  else if dir.bytes.getLast? == some slash || dir.bytes.isEmpty then ⟨dir.bytes ++ p.bytes⟩
  else ⟨dir.bytes ++ slash :: p.bytes⟩

/-- The pieces of a path without those at its end that are empty or a single dot; a dot at the start stays. -/
private def trimEnd (atStart : Bool) : List (List UInt8) → List (List UInt8)
  | [] => []
  | piece :: rest =>
    match trimEnd false rest with
    | [] => if piece.isEmpty || (piece = dot && !atStart) then [] else [piece]
    | rest => piece :: rest

/-- The path that holds another one; neither the root nor the empty path is in any. -/
def parent? (p : Path) : Option Path :=
  match trimEnd true (split p.bytes) with
  | [] => none
  | pieces =>
    match trimEnd true pieces.dropLast with
    | [] => some (if p.isAbsolute then ⟨[slash]⟩ else ⟨[]⟩)
    | first :: rest => some ⟨first ++ rest.flatMap (slash :: ·)⟩

/-- The absolute form of a path: empty parts and single dots are left out, two dots stay. A slash at the end stays, and
so do two slashes at the start, but not three. -/
def absolute (p dir : Path) : Path :=
  let plain := (ofParts (p.seenFrom dir).parts).bytes
  let led := match p.bytes with
    | a :: b :: rest => a == slash && b == slash && rest.head? != some slash
    | _ => false
  let bytes := if led then slash :: plain else plain
  ⟨if p.bytes.getLast? == some slash && bytes.getLast? != some slash then bytes ++ [slash] else bytes⟩

/-- Whether a path says more than a name: the root and a dot at its start count, slashes and dots elsewhere do not. -/
def isDirected (p : Path) : Bool :=
  1 < p.parts.length + if p.isAbsolute || (split p.bytes).head? == some dot then 1 else 0

/-- The last part of a path that names something in its directory. -/
def fileName? (p : Path) : Option (List UInt8) :=
  match p.parts.getLast? with
  | some piece => if piece = above then none else some piece
  | none => none

/-- Whether a byte can stand in an address as it is. -/
private def isPlainByte (b : UInt8) : Bool :=
  let n := b.toNat
  0x20 < n && n < 0x7F &&
    !(n = 0x22 || n = 0x23 || n = 0x25 || n = 0x2F || n = 0x3C || n = 0x3E || n = 0x3F || n = 0x5C ||
      n = 0x60 || n = 0x7B || n = 0x7D)

private def upperHex (n : Nat) : Char := if n < 10 then Char.ofNat (48 + n) else Char.ofNat (55 + n)

private def addressByte (b : UInt8) : List Char :=
  if isPlainByte b then [Char.ofNat b.toNat]
  else ['%', upperHex (b.toNat / 16), upperHex (b.toNat % 16)]

/-- The address of an absolute directory; it ends in a slash. -/
def directoryUri? (p : Path) : Option String :=
  if p.isAbsolute then
    some ("file://" ++ String.ofList (p.parts.flatMap fun piece => '/' :: piece.flatMap addressByte) ++ "/")
  else none

end Path

end Attendant

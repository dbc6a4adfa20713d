/-!
# UTF-8, one byte at a time

A reader of UTF-8 that can stop between any two bytes. What it has to remember is the list of bytes of the character
it has begun, at most three, and nothing else, so that list is its whole state.

* `judge` says what a byte does to the bytes held: it completes a character, leaves it unfinished, or is refused;
* `decode` reads a chunk and replaces each maximal ill-formed run by one U+FFFD;
* `validate` reads strictly and names the first fault;
* `encode` is the writer.
-/

namespace Attendant.Utf8

/-- What the next byte does to the bytes already held of a character. -/
inductive Verdict where
  | refused
  | unfinished
  | complete (c : Char)
  deriving DecidableEq, Repr

/-- The continuation bytes. -/
def isTail (b : UInt8) : Bool := 0x80 ≤ b && b ≤ 0xBF

/-- The bytes that may follow the first byte of a character of three or four bytes: the ranges that keep out overlong
forms, surrogates and everything above U+10FFFF. -/
def follows (lead b : UInt8) : Bool :=
  if lead = 0xE0 then 0xA0 ≤ b && b ≤ 0xBF
  else if lead = 0xED then 0x80 ≤ b && b ≤ 0x9F
  else if lead = 0xF0 then 0x90 ≤ b && b ≤ 0xBF
  else if lead = 0xF4 then 0x80 ≤ b && b ≤ 0x8F
  else isTail b

/-- The number of bytes that a first byte announces; `0` for a byte that can begin no character. -/
def width (lead : UInt8) : Nat :=
  if lead < 0x80 then 1
  else if 0xC2 ≤ lead && lead ≤ 0xDF then 2
  else if 0xE0 ≤ lead && lead ≤ 0xEF then 3
  else if 0xF0 ≤ lead && lead ≤ 0xF4 then 4
  else 0

/-- The six bits that a continuation byte carries. -/
def low6 (b : UInt8) : Nat := b.toNat % 64

/-- The verdict on a byte after the bytes `held` of a character that has begun. -/
def judge (held : List UInt8) (b : UInt8) : Verdict :=
  match held with
  | [] =>
    match width b with
    | 0 => .refused
    | 1 => .complete (Char.ofNat b.toNat)
    | _ => .unfinished
  | [a] =>
    if width a = 2 then
      if isTail b then .complete (Char.ofNat (a.toNat % 32 * 64 + low6 b)) else .refused
    else if follows a b then .unfinished else .refused
  | [a, b₂] =>
    if !isTail b then .refused
    else if width a = 3 then .complete (Char.ofNat (a.toNat % 16 * 4096 + low6 b₂ * 64 + low6 b))
    else .unfinished
  | [a, b₂, b₃] =>
    if isTail b then
      .complete (Char.ofNat (a.toNat % 8 * 262144 + low6 b₂ * 4096 + low6 b₃ * 64 + low6 b))
    else .refused
  | _ => .refused

/-- The mark that stands for what cannot be read. -/
def replacement : Char := '\uFFFD'

/-- Reads one byte: the characters read so far, latest first, and the bytes held. A refused byte ends the run held,
which becomes one mark, and is then judged on its own. -/
def absorb (s : List Char × List UInt8) (b : UInt8) : List Char × List UInt8 :=
  match judge s.2 b with
  | .complete c => (c :: s.1, [])
  | .unfinished => (s.1, s.2 ++ [b])
  | .refused =>
    match s.2 with
    | [] => (replacement :: s.1, [])
    | _ :: _ =>
      match judge [] b with
      | .complete c => (c :: replacement :: s.1, [])
      | .unfinished => (replacement :: s.1, [b])
      | .refused => (replacement :: replacement :: s.1, [])

/-- Reads a chunk after the bytes `held`: the characters it completes, and the bytes held at its end. -/
def decode (held chunk : List UInt8) : List Char × List UInt8 :=
  let (read, held) := chunk.foldl absorb ([], held)
  (read.reverse, held)

/-- The reading of a whole text: an unfinished character at its end is one mark. -/
def lossy (bytes : List UInt8) : List Char :=
  let (read, held) := decode [] bytes
  if held.isEmpty then read else read ++ [replacement]

/-- The first place where a byte sequence stops being UTF-8: how many bytes before it are well formed, and how many
bytes the fault has. A fault without a length is a character that the end of the input cuts off. -/
structure Fault where
  start : Nat
  length : Option Nat
  deriving DecidableEq, Repr

/-- Reads strictly after `done` bytes that made the characters `read`, latest first, and after the bytes `held`. -/
def validateFrom (read : List Char) (held : List UInt8) (done : Nat) :
    List UInt8 → Except Fault (List Char)
  | [] => if held.isEmpty then .ok read.reverse else .error ⟨done, none⟩
  | b :: rest =>
    match judge held b with
    | .complete c => validateFrom (c :: read) [] (done + held.length + 1) rest
    | .unfinished => validateFrom read (held ++ [b]) done rest
    | .refused => .error ⟨done, some (max 1 held.length)⟩

/-- Reads strictly: the characters, or the first fault. -/
def validate (bytes : List UInt8) : Except Fault (List Char) := validateFrom [] [] 0 bytes

/-- The text of a well-formed byte sequence. -/
def toString? (bytes : List UInt8) : Option String :=
  match validate bytes with
  | .ok cs => some (String.ofList cs)
  | .error _ => none

/-- How a fault is told to the user. -/
def Fault.message (f : Fault) : String :=
  match f.length with
  | some n => "invalid utf-8 sequence of " ++ toString n ++ " bytes from index " ++ toString f.start
  | none => "incomplete utf-8 byte sequence from index " ++ toString f.start

/-- The bytes of a list of characters. -/
def encodeChars (cs : List Char) : List UInt8 := cs.flatMap String.utf8EncodeChar

/-- The bytes of a text. -/
def encode (s : String) : List UInt8 := encodeChars s.toList

/-- Reading in two chunks is reading once: the bytes held carry all that matters over the cut. -/
theorem decode_append (held a b : List UInt8) :
    decode held (a ++ b) =
      ((decode held a).1 ++ (decode (decode held a).2 b).1, (decode (decode held a).2 b).2) := by
  have absorb_acc : ∀ (bs : List UInt8) (acc : List Char) (held : List UInt8),
      bs.foldl absorb (acc, held) =
        ((bs.foldl absorb ([], held)).1 ++ acc, (bs.foldl absorb ([], held)).2) := by
    intro bs
    induction bs with
    | nil => intro acc held; rfl
    | cons b bs ih =>
      intro acc held
      have one : absorb (acc, held) b = ((absorb ([], held) b).1 ++ acc, (absorb ([], held) b).2) := by
        simp only [absorb]
        split
        · rfl
        · rfl
        · split
          · rfl
          · split <;> rfl
      simp only [List.foldl_cons, one]
      rw [ih, ih (absorb ([], held) b).1]
      simp
  simp only [decode, List.foldl_append]
  rw [absorb_acc b (a.foldl absorb ([], held)).1]
  simp

end Attendant.Utf8

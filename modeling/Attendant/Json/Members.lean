import Attendant.Json.Parser
import Attendant.Value.Record

/-!
# The members of an object, for who wants only some of them

An object may have members that nobody asked for. `members?` cuts the bytes of an object into its members; of one that
is not wanted only the outline is looked at, so its texts may hold any bytes and escapes and its numbers may be of any
size, and it may be nested to any depth. The names of all members and the values of the wanted ones are read in full.

A byte is looked at as the character of its number: every sign of the outline is one byte.
-/

namespace Attendant.Json

/-- The bytes as the characters of their numbers. -/
private def spread (bytes : List UInt8) : List Char := bytes.map fun b => Char.ofNat b.toNat

/-- The bytes that were spread. -/
private def gather (cs : List Char) : List UInt8 := cs.map fun c => c.toNat.toUInt8

/-- The characters of a string after its opening quote, as they are written and latest first, and what follows it. -/
private def stringOutline? (acc : List Char) : List Char → Option (List Char × List Char)
  | '"' :: rest => some (acc, rest)
  | '\\' :: 'u' :: a :: b :: c :: d :: rest =>
    if (unit a b c d).isSome then stringOutline? (d :: c :: b :: a :: 'u' :: '\\' :: acc) rest else none
  | '\\' :: c :: rest => if (shortEscape c).isSome then stringOutline? (c :: '\\' :: acc) rest else none
  | c :: rest => if c.toNat < 0x20 || c = '\\' then none else stringOutline? (c :: acc) rest
  | [] => none

private def skipDigits? : List Char → Option (List Char)
  | c :: rest => if isDigit c then some (rest.dropWhile isDigit) else none
  | [] => none

/-- Skips the fraction of a number, if it has one. -/
private def skipFraction? : List Char → Option (List Char)
  | '.' :: rest => skipDigits? rest
  | cs => some cs

/-- Skips the exponent of a number, if it has one. -/
private def skipExponent? : List Char → Option (List Char)
  | [] => some []
  | c :: rest =>
    if c = 'e' || c = 'E' then
      match rest with
      | '+' :: rest => skipDigits? rest
      | '-' :: rest => skipDigits? rest
      | rest => skipDigits? rest
    else some (c :: rest)

/-- Skips the digits in front of the point; a zero stands alone. -/
private def skipWhole? : List Char → Option (List Char)
  | '0' :: rest => if rest.head?.any isDigit then none else some rest
  | cs => skipDigits? cs

/-- Skips a number without asking how large it is. -/
private def skipNumber? (cs : List Char) : Option (List Char) :=
  let whole := match cs with
    | '-' :: rest => skipWhole? rest
    | _ => skipWhole? cs
  whole >>= skipFraction? >>= skipExponent?

/-- Skips a value without parts. -/
private def skipScalar? (cs : List Char) : Option (List Char) :=
  match cs with
  | '"' :: rest => (stringOutline? [] rest).map (·.2)
  | 't' :: 'r' :: 'u' :: 'e' :: rest => some rest
  | 'f' :: 'a' :: 'l' :: 's' :: 'e' :: rest => some rest
  | 'n' :: 'u' :: 'l' :: 'l' :: rest => some rest
  | _ => skipNumber? cs

/-- What may come next in an outline: a value, the name of a member, or what follows a value. -/
private inductive Expected where
  | value
  | name
  | next

/-- Skips a value and all that is nested in it. `around` holds the closing signs still to come, innermost first. -/
private def skipValue? : Nat → Expected → List Char → List Char → Option (List Char)
  | 0, _, _, _ => none
  | fuel + 1, .value, around, cs =>
    match skipSpace cs with
    | '[' :: rest =>
      match skipSpace rest with
      | ']' :: rest => skipValue? fuel .next around rest
      | rest => skipValue? fuel .value (']' :: around) rest
    | '\x7b' :: rest =>
      match skipSpace rest with
      | '\x7d' :: rest => skipValue? fuel .next around rest
      | rest => skipValue? fuel .name ('\x7d' :: around) rest
    | cs =>
      match skipScalar? cs with
      | some rest => skipValue? fuel .next around rest
      | none => none
  | fuel + 1, .name, around, cs =>
    match skipSpace cs with
    | '"' :: rest =>
      match stringOutline? [] rest with
      | some (_, rest) =>
        match skipSpace rest with
        | ':' :: rest => skipValue? fuel .value around rest
        | _ => none
      | none => none
    | _ => none
  | _ + 1, .next, [], cs => some cs
  | fuel + 1, .next, closing :: around, cs =>
    match skipSpace cs with
    | ',' :: rest => skipValue? fuel (if closing = ']' then .value else .name) (closing :: around) rest
    | c :: rest => if c = closing then skipValue? fuel .next around rest else none
    | [] => none

/-- The wanted members of an object after its opening brace, of which there is at least one, up to its closing brace. -/
private def members? (wanted : List String) :
    Nat → List (String × Value) → List Char → Option (List (String × Value) × List Char)
  | 0, _, _ => none
  | fuel + 1, acc, cs => do
    let '"' :: rest := skipSpace cs | none
    let (name, rest) ← stringOutline? [] rest
    let .str name ← decode? (34 :: gather ('"' :: name).reverse) | none
    let ':' :: rest := skipSpace rest | none
    let start := skipSpace rest
    let rest ← skipValue? (fuel + 1) .value [] start
    let acc ←
      if wanted.contains name then do
        let v ← decode? (gather (start.take (start.length - rest.length)))
        some ((name, v) :: acc)
      else some acc
    match skipSpace rest with
    | ',' :: rest => members? wanted fuel acc rest
    | '\x7d' :: rest => some (acc.reverse, rest)
    | _ => none

/-- The record whose JSON text some bytes are, with the fields `wanted`. They are kept as they are written, repeated or
not. -/
def record? (wanted : List String) (bytes : List UInt8) : Option (Record Value) :=
  let cs := skipSpace (spread bytes)
  match cs with
  | '\x7b' :: rest =>
    match skipSpace rest with
    | '\x7d' :: rest => finish (some (.fields [], rest))
    | rest => finish ((members? wanted (2 * cs.length + 2) [] rest).map fun (entries, rest) => (.fields entries, rest))
  | _ => decode? bytes >>= Record.ofValue?

end Attendant.Json

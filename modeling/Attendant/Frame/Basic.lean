import Attendant.Json.Parser
import Attendant.Json.Printer
import Attendant.Text.Blank
import Attendant.Text.Quoted
import Attendant.Widths

/-!
# Frames

A message travels as a frame: header lines, an empty line, and a body of as many bytes as the header `Content-Length`
says. `Frame.encode` writes one. `Header` holds what has been read of the header lines, `Header.line` reads one more,
and `Fault` lists everything that can be wrong with a stream of frames.
-/

namespace Attendant

/-- A failure of the system below: its kind, and the words for it. -/
structure IoFault where
  kind : String
  message : String
  deriving DecidableEq, Repr, Inhabited

namespace Frame

/-- The longest body that is accepted. -/
def maxBody : Nat := 4 * 1024 * 1024

/-- What can be wrong with a stream of frames. -/
inductive Fault where
  | io (fault : IoFault)
  | truncatedHeaders
  | missingContentLength
  | invalidContentLength (value : String)
  | oversized (length : Nat)
  | malformedBody
  deriving DecidableEq, Repr

/-- How a fault is told to the user. What is wrong with a malformed body is not told. -/
def Fault.message : Fault → String
  | .io fault => "transport I/O error: " ++ fault.message
  | .truncatedHeaders => "unexpected EOF while reading headers"
  | .missingContentLength => "missing Content-Length header"
  | .invalidContentLength value => "invalid Content-Length value: " ++ Text.quoted value
  | .oversized length => "Content-Length " ++ toString length ++ " exceeds maximum " ++ toString maxBody
  | .malformedBody => "malformed JSON body: "

/-- The header that goes before a body of so many bytes. -/
def header (length : Nat) : List UInt8 := Utf8.encode ("Content-Length: " ++ toString length ++ "\r\n\r\n")

/-- The frame around a body. -/
def wrap (body : List UInt8) : List UInt8 := header body.length ++ body

/-- The frame of a message. -/
def encode (message : Value) : List UInt8 := wrap (Json.encode message)

/-- What the header lines of a frame have said so far. -/
structure Header where
  started : Bool := false
  length : Option Nat := none
  deriving DecidableEq, Repr, Inhabited

/-- What follows from one more header line. -/
inductive Step where
  | more (header : Header)
  | finished (length : Nat)
  | failed (fault : Fault)
  deriving DecidableEq, Repr

/-- A letter of ASCII in lower case. -/
def lower (c : Char) : Char := if 'A' ≤ c && c ≤ 'Z' then Char.ofNat (c.toNat + 32) else c

/-- Whether a name is that of the one header that counts, in letters of either case. -/
def isContentLength (name : List Char) : Bool := name.map lower == "content-length".toList

/-- Splits a line at its first colon. -/
def splitColon? : List Char → Option (List Char × List Char)
  | [] => none
  | c :: rest => if c = ':' then some ([], rest) else (splitColon? rest).map fun (a, b) => (c :: a, b)

/-- Decimal digits as a number below `2 ^ 64`; `acc` is the number of the digits before them. -/
def digits? (acc : Nat) : List Char → Option Nat
  | [] => some acc
  | c :: rest =>
    if '0' ≤ c && c ≤ '9' then
      let n := acc * 10 + (c.toNat - 48)
      if n < width64 then digits? n rest else none
    else none

/-- A length: decimal digits, perhaps after a plus sign. -/
def length? (value : List Char) : Option Nat :=
  let ds := match value with
    | '+' :: rest => rest
    | _ => value
  if ds.isEmpty then none else digits? 0 ds

/-- Reads a header line, its line break included. A blank line ends the header. -/
def Header.line (h : Header) (bytes : List UInt8) : Step :=
  match Utf8.validate bytes with
  | .error fault => .failed (.io ⟨"InvalidData", fault.message⟩)
  | .ok cs =>
    match Text.trimChars cs with
    | [] =>
      match h.length with
      | none => .failed .missingContentLength
      | some n => if maxBody < n then .failed (.oversized n) else .finished n
    | cs =>
      match splitColon? cs with
      | none => .more { h with started := true }
      | some (name, value) =>
        if isContentLength (Text.trimChars name) then
          let value := Text.trimChars value
          match length? value with
          | some n => .more ⟨true, some n⟩
          | none => .failed (.invalidContentLength (String.ofList value))
        else .more { h with started := true }

end Frame

end Attendant

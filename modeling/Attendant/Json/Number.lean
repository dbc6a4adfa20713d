import Attendant.Decimal.Shortest
import Attendant.Value.Basic
import Attendant.Widths

/-!
# Numbers of JSON texts

A number without a fraction and an exponent is an integer if it lies between `-2^63` and `2^64 - 1`; every other
number, and `-0`, is a double.

* `numberText` writes a double: the shortest digits that read back, positional where the first digit stands for a
  power of ten from `10^-5` to `10^15`, else with an exponent;
* `number` reads one: as many leading digits as fit in 64 bits, scaled by one power of ten.
-/

namespace Attendant.Json

open Attendant

/-- How the digits of a double are laid out. -/
structure NumberLayout where
  leastPositional : Int
  mostPositional : Int
  plusSign : Bool
  deriving Repr

/-- Positional from `10^-5` to `10^15`; an exponent that is not negative has a plus sign. -/
def layout : NumberLayout := ⟨-5, 15, true⟩

private def zeros (n : Nat) : String := String.ofList (List.replicate n '0')

/-- The text of `digits · 10 ^ power`, for digits that are not zero. -/
def NumberLayout.text (l : NumberLayout) (digits : Nat) (power : Int) : String :=
  let ds := Nat.toDigits 10 digits
  let lead : Int := power + ds.length - 1
  if l.leastPositional ≤ lead && lead ≤ l.mostPositional then
    if 0 ≤ power then String.ofList ds ++ zeros power.toNat ++ ".0"
    else if 0 ≤ lead then
      String.ofList (ds.take (lead.toNat + 1)) ++ "." ++ String.ofList (ds.drop (lead.toNat + 1))
    else "0." ++ zeros ((-lead).toNat - 1) ++ String.ofList ds
  else
    let mantissa := match ds with
      | [] => ""
      | [d] => d.toString
      | d :: more => d.toString ++ "." ++ String.ofList more
    let mark := if lead < 0 then "e-" else if l.plusSign then "e+" else "e"
    mantissa ++ mark ++ toString lead.natAbs

/-- The text of a double. JSON has no infinities and no NaN, and `null` stands for them. -/
def numberText (d : Double) : String :=
  if !d.isFinite then "null"
  else
    let sign := if d.isNegative then "-" else ""
    if d.isZero then sign ++ "0.0"
    else
      let (digits, power) := Decimal.shortest (Decimal.Binary.ofBits d.bits)
      sign ++ layout.text digits power

/-- Whether a character is a decimal digit. -/
def isDigit (c : Char) : Bool := '0' ≤ c && c ≤ '9'

/-- The value of a decimal digit. -/
def digit (c : Char) : Nat := c.toNat - '0'.toNat

/-- The digits of a number as far as they count: the first ones, as long as their value stays below `2^64`, and the
power of ten that the others and the fraction leave. -/
structure Digits where
  significand : Nat := 0
  power : Int := 0
  full : Bool := false

/-- Reads the digits before the point. Digits that do not fit any more only raise the power of ten. -/
def wholeDigits (d : Digits) : List Char → Digits × List Char
  | c :: rest =>
    if isDigit c then
      let next := d.significand * 10 + digit c
      if d.full || width64 ≤ next then wholeDigits { d with full := true, power := d.power + 1 } rest
      else wholeDigits { d with significand := next } rest
    else (d, c :: rest)
  | [] => (d, [])

/-- Reads the digits after the point, until one does not fit; the others count for nothing. -/
private def fractionDigits (d : Digits) (stopped : Bool) : List Char → Digits × List Char
  | c :: rest =>
    if isDigit c then
      let next := d.significand * 10 + digit c
      if stopped || width64 ≤ next then fractionDigits d true rest
      else fractionDigits { d with significand := next, power := d.power - 1 } false rest
    else (d, c :: rest)
  | [] => (d, [])

/-- Reads the digits of an exponent. -/
private def exponentDigits (n : Nat) : List Char → Nat × List Char
  | c :: rest => if isDigit c then exponentDigits (n * 10 + digit c) rest else (n, c :: rest)
  | [] => (n, [])

private def powerOfTen (n : Nat) : Float := Float.ofScientific 1 false n

/-- Divides by a power of ten in steps of at most `10^308`. -/
private def scaleDown (x : Float) : Nat → Nat → Float
  | 0, _ => 0.0
  | fuel + 1, n =>
    if n ≤ 308 then x / powerOfTen n
    else if x == 0.0 then x
    else scaleDown (x / powerOfTen 308) fuel (n - 308)

/-- The double of some digits, or nothing if it is too large. -/
def Digits.double? (d : Digits) (negative : Bool) : Option Double :=
  let x := d.significand.toUInt64.toFloat
  let signed (y : Float) : Double := .ofFloat (if negative then -y else y)
  if 0 ≤ d.power then
    if d.power ≤ 308 then
      let y := x * powerOfTen d.power.toNat
      if y.isInf then none else some (signed y)
    else if x == 0.0 then some (signed x)
    else none
  else some (signed (scaleDown x 8 (min (-d.power).toNat 2000)))

/-- The exponents that can be told apart. A larger one makes a number zero or too large. -/
private def maxExponent : Nat := width31 - 1

/-- Reads the exponent after its letter, and gives the double. -/
private def exponent (d : Digits) (negative : Bool) (cs : List Char) : Option (Value × List Char) :=
  let (down, cs) := match cs with
    | '+' :: rest => (false, rest)
    | '-' :: rest => (true, rest)
    | _ => (false, cs)
  match cs with
  | [] => none
  | c :: _ =>
    if !isDigit c then none
    else
      let (e, rest) := exponentDigits 0 cs
      if maxExponent < e then
        if d.significand ≠ 0 && !down then none
        else some (.double (.ofFloat (if negative then -0.0 else 0.0)), rest)
      else
        let power := if down then d.power - e else d.power + e
        ({ d with power }.double? negative).map fun x => (.double x, rest)

/-- What may follow the digits before the point. -/
def afterWhole (d : Digits) (negative : Bool) : List Char → Option (Value × List Char)
  | '.' :: c :: rest =>
    if !isDigit c then none
    else
      match fractionDigits d false (c :: rest) with
      | (d, e :: rest) =>
        if e = 'e' || e = 'E' then exponent d negative rest
        else (d.double? negative).map fun x => (.double x, e :: rest)
      | (d, []) => (d.double? negative).map fun x => (.double x, [])
  | ['.'] => none
  | cs =>
    match cs with
    | c :: rest =>
      if c = 'e' || c = 'E' then exponent d negative rest else plain cs
    | [] => plain cs
where
  /-- A number of digits alone. -/
  plain (cs : List Char) : Option (Value × List Char) :=
    if d.full then (d.double? negative).map fun x => (.double x, cs)
    else if !negative then some (.int d.significand, cs)
    else if d.significand = 0 || width63 < d.significand then
      (d.double? negative).map fun x => (.double x, cs)
    else some (.int (-(d.significand : Int)), cs)

/-- Reads a number: its value and what follows it. -/
def number (cs : List Char) : Option (Value × List Char) :=
  let (negative, cs) := match cs with
    | '-' :: rest => (true, rest)
    | _ => (false, cs)
  match cs with
  | '0' :: c :: rest => if isDigit c then none else afterWhole {} negative (c :: rest)
  | '0' :: [] => afterWhole {} negative []
  | c :: _ =>
    if isDigit c then
      let (d, rest) := wholeDigits {} cs
      afterWhole d negative rest
    else none
  | [] => none

end Attendant.Json

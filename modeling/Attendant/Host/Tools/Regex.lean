import Attendant.Host.Shell.Pattern

/-!
# Regular expressions

Basic and extended regular expressions with references to groups. Of all matches that begin at the earliest place the
longest is taken; of equally long ones, the one whose earlier parts are longer.

* `Regex.parse?` reads an expression;
* `Regex.find?` is the first match in a text from some place on.
-/

namespace Attendant.Host

open Shell (Member inClass)

/-- A regular expression. -/
inductive Regex where
  | empty
  | char (c : Char)
  | any
  | oneOf (isNegated : Bool) (members : List Member)
  | lineStart
  | lineEnd
  | wordStart
  | wordEnd
  | wordEdge (isInside : Bool)
  | noWordBefore
  | noWordAfter
  | group (number : Nat) (body : Regex)
  | reference (number : Nat)
  | seq (first second : Regex)
  | either (first second : Regex)
  | many (body : Regex) (least : Nat) (most : Option Nat)
  deriving Repr, Inhabited

namespace Regex

/-! ### Reading -/

/-- How an expression is written. -/
inductive Dialect where
  | basic
  | extended
  deriving DecidableEq, Repr

private def word : List Member := [.ofClass "alnum".toList, .between '_' '_']

private def space : List Member := [.ofClass "space".toList]

/-- The members between square brackets, and the rest; the first character is never the closing bracket. -/
private def members? : Nat → Bool → List Char → Option (List Member × List Char)
  | 0, _, _ => none
  | _, _, [] => none
  | fuel + 1, isFirst, c :: rest =>
    if c == ']' && !isFirst then some ([], rest)
    else
      let single (c : Char) (rest : List Char) : Option (List Member × List Char) :=
        match rest with
        | '-' :: ']' :: _ => (members? fuel false rest).map fun (ms, rest) => (.between c c :: ms, rest)
        | '-' :: d :: rest => (members? fuel false rest).map fun (ms, rest) => (.between c d :: ms, rest)
        | _ => (members? fuel false rest).map fun (ms, rest) => (.between c c :: ms, rest)
      match c, rest with
      | '[', ':' :: more =>
        let name := more.takeWhile Char.isAlpha
        match more.drop name.length with
        | ':' :: ']' :: rest => (members? fuel false rest).map fun (ms, rest) => (.ofClass name :: ms, rest)
        | _ => single c rest
      | '[', '.' :: d :: '.' :: ']' :: rest => single d rest
      | '[', '=' :: d :: '=' :: ']' :: rest => single d rest
      | '\\', 'n' :: rest => single '\n' rest
      | '\\', ']' :: _ => single c rest
      | _, _ => single c rest

/-- The bounds of a repetition behind their opening brace, and the rest. -/
private def bounds? (dialect : Dialect) (s : List Char) : Option (Nat × Option Nat × List Char) :=
  let number (s : List Char) : Option Nat × List Char :=
    let digits := s.takeWhile Char.isDigit
    ((String.ofList digits).toNat?, s.drop digits.length)
  let close (s : List Char) : Option (List Char) :=
    match dialect, s with
    | .basic, '\\' :: '\x7d' :: rest => some rest
    | .extended, '\x7d' :: rest => some rest
    | _, _ => none
  let (least, rest) := number s
  match rest with
  | ',' :: rest =>
    let (most, rest) := number rest
    (close rest).map fun rest => (least.getD 0, most, rest)
  | rest =>
    match least, close rest with
    | some n, some rest => some (n, some n, rest)
    | _, _ => none

/-- What is wrong with an expression. -/
abbrev Reading (α : Type) := Except String α

/-- What has been read of an expression, how many groups it has, and the rest. -/
private abbrev Outcome := Reading (Regex × Nat × List Char)

mutual

/-- Alternatives. `depth` is how many groups are open, and `groups` how many there have been. -/
private def alternatives (dialect : Dialect) : Nat → Nat → Nat → List Char → Outcome
  | 0, _, _, _ => .error "Regular expression too big"
  | fuel + 1, depth, groups, s => do
    let (first, groups, rest) ← sequence dialect fuel depth groups true .empty s
    let rest? : Option (List Char) := match dialect, rest with
      | .basic, '\\' :: '|' :: rest => some rest
      | .extended, '|' :: rest => some rest
      | _, _ => none
    match rest? with
    | some rest =>
      let (second, groups, rest) ← alternatives dialect fuel depth groups rest
      return (.either first second, groups, rest)
    | none => return (first, groups, rest)

/-- Parts one after the other, behind those that have been read. -/
private def sequence (dialect : Dialect) : Nat → Nat → Nat → Bool → Regex → List Char → Outcome
  | 0, _, _, _, _, _ => .error "Regular expression too big"
  | fuel + 1, depth, groups, isFirst, before, s => do
    let join (part : Regex) : Regex := match before with
      | .empty => part
      | _ => .seq before part
    match dialect, s with
    | _, [] => return (before, groups, [])
    | .basic, '\\' :: '|' :: _ => return (before, groups, s)
    | .extended, '|' :: _ => return (before, groups, s)
    | .basic, '\\' :: ')' :: _ =>
      if depth = 0 then throw "Unmatched ) or \\)" else return (before, groups, s)
    | .extended, ')' :: rest =>
      if depth = 0 then
        let (part, rest) ← repeated dialect fuel (.char ')') rest
        sequence dialect fuel depth groups false (join part) rest
      else return (before, groups, s)
    | _, _ =>
      let (part, groups, rest) ← atom dialect fuel depth groups isFirst s
      let isAnchor : Bool := match part with
        | .lineStart => dialect = .basic
        | _ => false
      let (part, rest) ← if isAnchor then pure (part, rest) else repeated dialect fuel part rest
      sequence dialect fuel depth groups (isFirst && isAnchor) (join part) rest

/-- A part without its repetitions. -/
private def atom (dialect : Dialect) : Nat → Nat → Nat → Bool → List Char → Outcome
  | 0, _, _, _, _ => .error "Regular expression too big"
  | fuel + 1, depth, groups, isFirst, s => do
    let group (rest : List Char) : Outcome := do
      let number := groups + 1
      let (body, groups, rest) ← alternatives dialect fuel (depth + 1) number rest
      match dialect, rest with
      | .basic, '\\' :: ')' :: rest => return (.group number body, groups, rest)
      | .extended, ')' :: rest => return (.group number body, groups, rest)
      | _, _ => throw "Unmatched ( or \\("
    let plain (part : Regex) (rest : List Char) : Outcome := .ok (part, groups, rest)
    let endsHere (rest : List Char) : Bool :=
      match dialect, rest with
      | _, [] => true
      | .extended, _ => true
      | .basic, '\\' :: ')' :: _ => true
      | .basic, '\\' :: '|' :: _ => true
      | _, _ => false
    match dialect, s with
    | _, [] => plain .empty []
    | _, '.' :: rest => plain .any rest
    | _, '[' :: rest =>
      let (isNegated, inside) : Bool × List Char := match rest with
        | '^' :: inside => (true, inside)
        | inside => (false, inside)
      match members? (inside.length + 1) true inside with
      | some (ms, rest) => plain (.oneOf isNegated ms) rest
      | none => throw "Unmatched [, [^, [:, [., or [="
    | .basic, '*' :: rest => plain (.char '*') rest
    | .extended, '*' :: rest => if isFirst then atom dialect fuel depth groups true rest else plain (.char '*') rest
    | .extended, '+' :: rest => plain (.char '+') rest
    | .extended, '?' :: rest => plain (.char '?') rest
    | .extended, '(' :: rest => group rest
    | .extended, '^' :: rest => plain .lineStart rest
    | .basic, '^' :: rest => if isFirst then plain .lineStart rest else plain (.char '^') rest
    | _, '$' :: rest => if endsHere rest then plain .lineEnd rest else plain (.char '$') rest
    | .basic, '\\' :: '(' :: rest => group rest
    | _, ['\\'] => throw "Trailing backslash"
    | _, '\\' :: c :: rest =>
      match c with
      | 'w' => plain (.oneOf false word) rest
      | 'W' => plain (.oneOf true word) rest
      | 's' => plain (.oneOf false space) rest
      | 'S' => plain (.oneOf true space) rest
      | 'b' => plain (.wordEdge true) rest
      | 'B' => plain (.wordEdge false) rest
      | '<' => plain .wordStart rest
      | '>' => plain .wordEnd rest
      | 'n' => plain (.char '\n') rest
      | 't' => plain (.char '\t') rest
      | c =>
        if c.isDigit && c != '0' then
          if c.toNat - 48 ≤ groups then plain (.reference (c.toNat - 48)) rest else throw "Invalid back reference"
        else plain (.char c) rest
    | _, c :: rest => plain (.char c) rest

/-- A part with its repetitions. -/
private def repeated (dialect : Dialect) : Nat → Regex → List Char → Reading (Regex × List Char)
  | 0, _, _ => .error "Regular expression too big"
  | fuel + 1, part, s => do
    let withBounds (rest : List Char) : Reading (Regex × List Char) :=
      match bounds? dialect rest with
      | some (least, most, rest) =>
        if most.any (· < least) then .error "Invalid content of \\\x7b\\\x7d"
        else repeated dialect fuel (.many part least most) rest
      | none =>
        match dialect with
        | .basic => .error "Unmatched \\\x7b"
        | .extended => .ok (.seq part (.char '\x7b'), rest)
    match dialect, s with
    | _, '*' :: rest => repeated dialect fuel (.many part 0 none) rest
    | .extended, '+' :: rest => repeated dialect fuel (.many part 1 none) rest
    | .extended, '?' :: rest => repeated dialect fuel (.many part 0 (some 1)) rest
    | .basic, '\\' :: '+' :: rest => repeated dialect fuel (.many part 1 none) rest
    | .basic, '\\' :: '?' :: rest => repeated dialect fuel (.many part 0 (some 1)) rest
    | .extended, '\x7b' :: rest => withBounds rest
    | .basic, '\\' :: '\x7b' :: rest => withBounds rest
    | _, _ => .ok (part, s)

end

/-- An expression that matches a text as it is. -/
def ofText (s : List Char) : Regex := s.foldr (fun c r => .seq (.char c) r) .empty

/-- Reads an expression, or says what is wrong with it. -/
def parse? (dialect : Dialect) (s : List Char) : Except String Regex := do
  let (r, _, _) ← alternatives dialect (4 * s.length + 16) 0 0 s
  return r

/-! ### Matching -/

/-- A place in a text: the character before it, what comes after it, how far it is from the start, and what the groups have
matched up to it. -/
structure Place where
  before : Option Char := none
  rest : List Char
  index : Nat := 0
  groups : List (Nat × List Char) := []
  deriving Repr, Inhabited

namespace Place

/-- The place behind the next character. -/
def next (p : Place) : Place :=
  match p.rest with
  | c :: rest => { p with before := some c, rest, index := p.index + 1 }
  | [] => p

/-- The place behind some characters. -/
def skip : Nat → Place → Place
  | 0, p => p
  | n + 1, p => skip n p.next

private def isWordChar (c : Char) : Bool := c.isAlphanum || c == '_'

private def wordBefore (p : Place) : Bool := (p.before.map isWordChar).getD false

private def wordAfter (p : Place) : Bool := (p.rest.head?.map isWordChar).getD false

end Place

private def fold (ignoresCase : Bool) (c : Char) : Char := if ignoresCase then c.toLower else c

/-- Whether a part for single characters matches one; other parts match none. -/
private def holdsFor (ignoresCase : Bool) (c : Char) : Regex → Bool
  | .char d => fold ignoresCase c == fold ignoresCase d
  | .any => true
  | .oneOf isNegated members =>
    (members.any fun m => m.holds c || (ignoresCase && (m.holds c.toLower || m.holds c.toUpper))) != isNegated
  | _ => false

private def isSingle : Regex → Bool
  | .char _ => true
  | .any => true
  | .oneOf _ _ => true
  | _ => false

/-- The places behind as many characters as a single part matches, the furthest first. -/
private def runs (ignoresCase : Bool) (part : Regex) : Nat → Nat → Option Nat → Place → List Place
  | 0, least, _, p => if least = 0 then [p] else []
  | fuel + 1, least, most, p =>
    let here : List Place := if least = 0 then [p] else []
    match most, p.rest with
    | some 0, _ => here
    | _, [] => here
    | _, c :: _ =>
      if holdsFor ignoresCase c part then runs ignoresCase part fuel (least - 1) (most.map (· - 1)) p.next ++ here
      else here

mutual

/-- The places where a match from some place on may end, the preferred first. -/
private def ends (ignoresCase : Bool) : Nat → Regex → Place → List Place
  | 0, _, _ => []
  | fuel + 1, r, p =>
    match r with
    | .empty => [p]
    | .lineStart => if p.before.isNone || p.before == some '\n' then [p] else []
    | .lineEnd => if p.rest.isEmpty || p.rest.head? == some '\n' then [p] else []
    | .wordStart => if !p.wordBefore && p.wordAfter then [p] else []
    | .wordEnd => if p.wordBefore && !p.wordAfter then [p] else []
    | .wordEdge isEdge => if (p.wordBefore != p.wordAfter) == isEdge then [p] else []
    | .noWordBefore => if p.wordBefore then [] else [p]
    | .noWordAfter => if p.wordAfter then [] else [p]
    | .group number body =>
      (ends ignoresCase fuel body p).map fun q =>
        { q with groups := (number, p.rest.take (q.index - p.index)) :: q.groups.filter (·.1 != number) }
    | .reference number =>
      match p.groups.lookup number with
      | some text => if text.isPrefixOf p.rest then [p.skip text.length] else []
      | none => []
    | .seq first second => (ends ignoresCase fuel first p).flatMap (ends ignoresCase fuel second)
    | .either first second => ends ignoresCase fuel first p ++ ends ignoresCase fuel second p
    | .many body least most =>
      if isSingle body then runs ignoresCase body (p.rest.length + 1) least most p
      else times ignoresCase fuel body least most p
    | part =>
      match p.rest with
      | c :: _ => if holdsFor ignoresCase c part then [p.next] else []
      | [] => []

/-- The places where so many matches one after the other may end. -/
private def times (ignoresCase : Bool) : Nat → Regex → Nat → Option Nat → Place → List Place
  | 0, _, _, _, _ => []
  | fuel + 1, body, least, most, p =>
    let here : List Place := if least = 0 then [p] else []
    if most == some 0 then here
    else
      let further := (ends ignoresCase fuel body p).flatMap fun q =>
        if q.index = p.index then (if least = 0 then [] else times ignoresCase fuel body (least - 1) (most.map (· - 1)) q)
        else times ignoresCase fuel body (least - 1) (most.map (· - 1)) q
      further ++ here

end

/-- How many nodes an expression has. -/
def size : Regex → Nat
  | .group _ body => body.size + 1
  | .seq first second => first.size + second.size + 1
  | .either first second => first.size + second.size + 1
  | .many body least _ => body.size + least + 1
  | _ => 1

/-- The longest match that begins at a place. -/
def matchAt (ignoresCase : Bool) (r : Regex) (p : Place) : Option Place :=
  (ends ignoresCase (2 * (r.size + 2) * (p.rest.length + 2) + 16) r { p with groups := [] }).foldl (fun best q =>
    match best with
    | some b => if b.index < q.index then some q else best
    | none => some q) none

/-- The first match from a place on: where it begins and where it ends. -/
def findFrom (ignoresCase : Bool) (r : Regex) : Nat → Place → Option (Place × Place)
  | 0, _ => none
  | fuel + 1, p =>
    match matchAt ignoresCase r p with
    | some q => some (p, q)
    | none => if p.rest.isEmpty then none else findFrom ignoresCase r fuel p.next

/-- The first match from a place on: where it begins and where it ends. -/
def find? (ignoresCase : Bool) (r : Regex) (p : Place) : Option (Place × Place) :=
  findFrom ignoresCase r (p.rest.length + 1) p

/-- Whether there is a match in a text. -/
def occursIn (ignoresCase : Bool) (r : Regex) (s : List Char) : Bool := (r.find? ignoresCase { rest := s }).isSome

end Regex

end Attendant.Host

import Attendant.Text.Blank
import Attendant.Text.Letters

/-!
# Diagnostics

What the program says about itself, line by line: each with a level and with the part of the program that says it. A
filter, written as a list of directives, decides what is written down: of the directives that apply to a part, the one
that names it most closely has the say.
-/

namespace Attendant

/-- How weighty a diagnostic is. -/
inductive Level where
  | error
  | warn
  | info
  | debug
  | trace
  deriving DecidableEq, Repr, Inhabited

namespace Level

/-- The rank of a level: the lower, the weightier. -/
def rank : Level → Nat
  | .error => 1
  | .warn => 2
  | .info => 3
  | .debug => 4
  | .trace => 5

/-- The word for a level. -/
def label : Level → String
  | .error => "ERROR"
  | .warn => "WARN"
  | .info => "INFO"
  | .debug => "DEBUG"
  | .trace => "TRACE"

end Level

/-- A diagnostic. -/
structure Diagnostic where
  level : Level
  part : String
  message : String
  deriving DecidableEq, Repr, Inhabited

namespace Diagnostic

/-- The field in which a diagnostic has its message. -/
def field : String := "message"

/-- A character of a message; those that a terminal would obey are shown as escapes. -/
private def shown (c : Char) : List Char :=
  if c = '\x1b' then "\\x1b".toList
  else if c = '\x07' then "\\x07".toList
  else if c = '\x08' then "\\x08".toList
  else if c = '\x0c' then "\\x0c".toList
  else if c = '\x7f' then "\\x7f".toList
  else if 0x80 ≤ c.toNat && c.toNat ≤ 0x9f then "\\u\x7b".toList ++ Nat.toDigits 16 c.toNat ++ ['}']
  else [c]

/-- The line of a diagnostic, without the time and without its end: the level has five places. -/
def line (d : Diagnostic) : String :=
  let level := d.level.label
  String.ofList (List.replicate (5 - level.length) ' ') ++ level ++ " " ++ d.part ++ ": " ++
    String.ofList (d.message.toList.flatMap shown)

end Diagnostic

/-- One directive: what is written down, by rank, of the parts whose names begin with some text. It may ask for a field
that a diagnostic has to have. One that asks for a span, or for the value of a field, applies to no diagnostic. -/
structure Directive where
  part : Option String := none
  field : Option String := none
  asksMore : Bool := false
  rank : Nat := 5
  deriving DecidableEq, Repr

/-- Directives, the later before the earlier in force. -/
structure Filter where
  directives : List Directive
  deriving DecidableEq, Repr, Inhabited

/-- Where the reading of a directive stands. The numbers say where the text began that is being read. -/
private inductive Directive.Place where
  | start
  | part
  | span (since : Nat)
  | field (since : Nat)
  | fieldsEnd
  | spanEnd
  | rank (since : Nat)

namespace Directive

/-- The rank that a text names: a number, perhaps with a plus sign, or a word. -/
def rank? (s : String) : Option Nat :=
  let digits := match s.toList with
    | '+' :: rest => rest
    | cs => cs
  if !digits.isEmpty && digits.all Char.isDigit then
    let n := digits.foldl (fun n c => 10 * n + (c.toNat - 48)) 0
    if n ≤ 5 then some n else none
  else
    [("off", 0), ("error", 1), ("warn", 2), ("info", 3), ("debug", 4), ("trace", 5)].lookup
      (String.ofList (s.toList.map Char.toLower))

/-- Whether a directive can begin with a character. -/
private def canStart (c : Char) : Bool := c = '-' || c = ':' || c = '_' || Text.isLetterOrNumber c

/-- Whether a text can be read as a regular expression, with `depth` groups open; `some'` says that there is something
that can be repeated. -/
private def isExpression : Nat → Bool → List Char → Bool
  | depth, _, [] => depth = 0
  | _, _, ['\\'] => false
  | depth, _, '\\' :: c :: rest => !(c.isDigit && c != '0') && isExpression depth true rest
  | depth, _, '(' :: rest => isExpression (depth + 1) false rest
  | depth, _, '|' :: rest => isExpression depth false rest
  | depth, some', c :: rest =>
    if c = ')' then 0 < depth && isExpression (depth - 1) true rest
    else if c = '*' || c = '+' || c = '?' then some' && isExpression depth true rest
    else if c = '[' then rest.contains ']' && isExpression depth true rest
    else c != '\x7b' && isExpression depth true rest

/-- Whether a text can be the value of a field: a number or a regular expression. -/
private def isValue (cs : List Char) : Bool :=
  match cs with
  | '+' :: rest => !rest.isEmpty && rest.all Char.isDigit
  | _ => isExpression 0 false cs

/-- A directive that asks for a field, and perhaps for its value. -/
private def withField? (d : Directive) (text : List Char) : Option Directive :=
  let name := text.takeWhile (· != '=')
  match text.drop name.length with
  | [] => if text.isEmpty then none else some { d with field := some (String.ofList text) }
  | _ :: rest => if isValue (rest.takeWhile (· != '=')) then some { d with asksMore := true } else none

/-- Reads a directive from the `i`-th character on. The texts are taken from `s`, which has the blanks at its start. -/
private def readFrom (s : List Char) : Nat → Place → Directive → List Char → Option Directive
  | _, .part, d, [] =>
    let name := String.ofList s
    some (match rank? name with
      | some rank => { d with rank }
      | none => { d with part := some name })
  | _, .rank since, d, [] =>
    match s.drop since with
    | [] => some d
    | text => (rank? (String.ofList text)).map fun rank => { d with rank }
  | _, .spanEnd, d, [] => some d
  | _, _, _, [] => none
  | i, place, d, c :: rest =>
    match place, c with
    | .start, '[' => readFrom s (i + 1) (.span (i + 1)) d rest
    | .start, c => if canStart c then readFrom s (i + 1) .part d rest else none
    | .part, '=' => readFrom s (i + 1) (.rank (i + 1)) { d with part := some (String.ofList (s.take i)) } rest
    | .part, '[' => readFrom s (i + 1) (.span (i + 1)) { d with part := some (String.ofList (s.take i)) } rest
    | .part, _ => readFrom s (i + 1) .part d rest
    | .span _, ']' => readFrom s (i + 1) .spanEnd { d with asksMore := true } rest
    | .span since, '\x7b' => readFrom s (i + 1) (.field (i + 1)) { d with asksMore := since < i } rest
    | .span since, _ => readFrom s (i + 1) (.span since) d rest
    | .field since, '\x7d' =>
      match withField? d ((s.take i).drop since) with
      | some d => readFrom s (i + 1) .fieldsEnd d rest
      | none => none
    | .field since, _ => readFrom s (i + 1) (.field since) d rest
    | .fieldsEnd, ']' => readFrom s (i + 1) .spanEnd d rest
    | .fieldsEnd, _ => none
    | .spanEnd, '=' => readFrom s (i + 1) (.rank (i + 1)) d rest
    | .spanEnd, _ => none
    | .rank since, _ => readFrom s (i + 1) (.rank since) d rest

/-- Reads a directive: a rank, or a part with what it asks for in square brackets and a rank after an equals sign, of which
not all need be there. -/
def parse? (s : String) : Option Directive := readFrom s.toList 0 .start {} (Text.trimChars s.toList)

/-- Whether a directive applies to a diagnostic. -/
def applies (d : Directive) (diagnostic : Diagnostic) : Bool :=
  !d.asksMore && (d.part.getD "").toList.isPrefixOf diagnostic.part.toList &&
    (d.field.isNone || d.field = some Diagnostic.field)

/-- How closely a directive names what it applies to: first by the part, then by the field. -/
def closeness (d : Directive) : Nat :=
  2 * (match d.part with
    | some part => part.utf8ByteSize + 1
    | none => 0) + if d.field.isSome then 1 else 0

end Directive

namespace Filter

/-- Reads a list of directives with commas between them. An empty list lets nothing through. -/
def parse? (s : String) : Option Filter :=
  (((s.splitOn ",").filter (· != "")).mapM Directive.parse?).map (⟨·⟩)

/-- The directive that has the say about a diagnostic. -/
def directiveFor? (f : Filter) (diagnostic : Diagnostic) : Option Directive :=
  (f.directives.filter (·.applies diagnostic)).foldl (fun best d =>
    match best with
    | some b => if b.closeness ≤ d.closeness then some d else best
    | none => some d) none

/-- Whether a diagnostic is written down. -/
def allows (f : Filter) (d : Diagnostic) : Bool :=
  match f.directiveFor? d with
  | some directive => d.level.rank ≤ directive.rank
  | none => false

/-- The filter if no other can be read. -/
def standard : Filter := ⟨[{ rank := 3 }]⟩

/-- The filter that a text asks for. -/
def ofText (s : Option String) : Filter := (s.bind parse?).getD standard

end Filter

end Attendant

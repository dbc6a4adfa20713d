import Attendant.Host.Shell.Command

/-!
# Reading commands

`Shell.read` reads the next complete command of a script, with all the lines that it needs. What comes after it is read
later, so a fault further down in a script does not keep what stands before it from being run.

A word is read as the pieces it is made of. How a character is read depends on what surrounds it; `Surround` tells them
apart. The text of a here-document is taken out of the script as soon as its operator has been read.
-/

namespace Attendant.Host.Shell

/-- Why a script cannot be read on: there is not enough of it yet, or something is wrong on a line. -/
inductive SyntaxFault where
  | incomplete
  | fault (line : Nat) (message : String)
  deriving DecidableEq, Repr

/-- What a script is made of. Symbols are the operators other than redirections. -/
inductive Token where
  | theEnd
  | newline
  | symbol (s : String)
  | redirect (descriptor : Nat) (direction : Direction) (stripsTabs : Bool)
  | word (pieces : Word)

/-- A script that is being read: what is left of it, the number of the line, the lines that have been taken out of it, a
token that has been put back, and whether the text is all that there is. `busy` are the aliases that have been replaced,
with the length of what comes after them. -/
structure Input where
  rest : List Char
  line : Nat := 1
  owed : Nat := 0
  held : Option Token := none
  isWhole : Bool := true
  aliases : List (List Char × List Char) := []
  busy : List (List Char × Nat) := []

/-- Something that reads a part of a script. -/
abbrev Parser := StateT Input (Except SyntaxFault)

namespace Parser

/-- Something is wrong on this line. -/
def fail {α : Type} (message : String) : Parser α := do throw (.fault (← get).line message)

/-- The script ends too early. -/
def failAtEnd {α : Type} (message : String) : Parser α := do
  let s ← get
  if s.isWhole then throw (.fault (s.line + s.rest.count '\n') message) else throw .incomplete

/-- Goes on behind some of the text. -/
def goTo (rest : List Char) : Parser Unit := modify fun s =>
  let lines := (s.rest.take (s.rest.length - rest.length)).count '\n'
  if lines = 0 then { s with rest } else { s with rest, line := s.line + lines + s.owed, owed := 0 }

/-- Puts a token back. -/
def unread (t : Token) : Parser Unit := modify fun s => { s with held := some t }

end Parser

/-- The words that are special where a command may begin. -/
def reservedWords : List String :=
  ["!", "case", "do", "done", "elif", "else", "esac", "fi", "for", "if", "in", "then", "until", "while", "\x7b", "\x7d"]

namespace Token

/-- The text of a word without anything special in it. -/
def plain? : Token → Option (List Char)
  | .word [.text s false] => some s
  | _ => none

/-- Whether a token is a symbol. -/
def isSymbol (t : Token) (s : String) : Bool :=
  match t with
  | .symbol s' => s == s'
  | _ => false

/-- Whether a token is a reserved word. -/
def isWord (t : Token) (s : String) : Bool := t.plain? == some s.toList

/-- Whether a list of commands can end before a token. -/
def endsList : Token → Bool
  | .theEnd => true
  | .symbol s => s == ")" || s == ";;"
  | t => ["do", "done", "elif", "else", "esac", "fi", "then", "\x7d"].any t.isWord

private def quoted (s : String) : String := "\"" ++ s ++ "\""

/-- How a token is called where it is unexpected. -/
def name : Token → String
  | .theEnd => "end of file"
  | .newline => "newline"
  | .symbol s => quoted s
  | .redirect _ _ _ => "redirection"
  | t =>
    match t.plain? with
    | some s => if reservedWords.contains (String.ofList s) then quoted (String.ofList s) else "word"
    | none => "word"

end Token

/-- A token that cannot stand where it stands. -/
def unexpected {α : Type} (t : Token) (expected : String) : Parser α :=
  let message := "Syntax error: " ++ t.name ++ " unexpected" ++
    if expected.isEmpty then "" else " (expecting " ++ expected ++ ")"
  match t with
  | .theEnd => Parser.failAtEnd message
  | _ => Parser.fail message

/-- What surrounds a piece of a word: nothing special, braces, double quotes, braces between double quotes, a
here-document, or the brackets of a sum of which some more are open. -/
inductive Surround where
  | plain
  | brace
  | double
  | doubleBrace
  | here
  | sum (depth : Nat)
  deriving DecidableEq, Repr

namespace Surround

/-- Whether what is read here is quoted. -/
def isQuoted : Surround → Bool
  | .plain => false
  | .brace => false
  | _ => true

/-- Whether a character means only itself here. -/
def isInert (surround : Surround) (c : Char) : Bool :=
  if c == '\\' || c == '$' || c == '\x60' then false
  else match surround with
    | .plain => !(isMeta c || c == '\'' || c == '"')
    | .brace => !(c == '\x7d' || c == '\'' || c == '"')
    | .double => c != '"'
    | .doubleBrace => !(c == '\x7d' || c == '"')
    | .here => true
    | .sum _ => !(c == '(' || c == ')')

/-- What a backslash and the character after it stand for. -/
def escaped (surround : Surround) (c : Char) : Piece :=
  let isProtected := match surround with
    | .plain => true
    | .brace => true
    | .doubleBrace => isProtected c || c == '\x7d'
    | .here => isProtected c && c != '"'
    | _ => isProtected c
  .text (if isProtected then [c] else ['\\', c]) true

/-- What is said if the script ends here. -/
def unended : Surround → String
  | .brace => "Syntax error: Missing '\x7d'"
  | .sum _ => "Syntax error: Missing '))'"
  | _ => "Syntax error: Unterminated quoted string"

end Surround

/-- Skips lines that go on. -/
private def skipJoints : List Char → List Char
  | '\\' :: '\n' :: rest => skipJoints rest
  | s => s

/-- Skips blanks, lines that go on, and a comment. -/
def skipBlanks : List Char → List Char
  | '\\' :: '\n' :: rest => skipBlanks rest
  | c :: rest =>
    if isBlank c then skipBlanks rest
    else if c == '#' then (c :: rest).dropWhile (· != '\n')
    else c :: rest
  | [] => []

/-- The text between back quotes, and the rest. -/
private def backquoted? (inDouble : Bool) : List Char → Option (List Char × List Char)
  | '\x60' :: rest => some ([], rest)
  | '\\' :: c :: rest =>
    (backquoted? inDouble rest).map fun (s, rest) =>
      (if c == '\n' then s
        else if c == '\x60' || c == '\\' || c == '$' || (inDouble && c == '"') then c :: s
        else '\\' :: c :: s, rest)
  | c :: rest => (backquoted? inDouble rest).map fun (s, rest) => (c :: s, rest)
  | [] => none

/-- Parameters whose name is one special character. -/
def isSpecialName (c : Char) : Bool := "?#$!@*-".toList.contains c || c.isDigit

/-- The name of a parameter between braces. -/
private def paramName? (s : List Char) : Option (List Char × List Char) :=
  match s with
  | c :: rest =>
    if startsName c then some (s.span continuesName)
    else if c.isDigit then some (s.span Char.isDigit)
    else if isSpecialName c then some ([c], rest)
    else none
  | [] => none

/-- The text of the next line behind what is quoted on this one, with what stands before it. -/
private def restOfLine : Option Char → List Char → List Char × List Char
  | _, [] => ([], [])
  | some quote, c :: rest =>
    let (line, after) := restOfLine (if c == quote then none else some quote) rest
    (c :: line, after)
  | none, '\\' :: c :: rest =>
    let (line, after) := restOfLine none rest
    ('\\' :: c :: line, after)
  | none, c :: rest =>
    if c == '\n' then ([], c :: rest)
    else
      let (line, after) := restOfLine (if c == '\'' || c == '"' then some c else none) rest
      (c :: line, after)

/-- The lines up to one that ends a here-document, how many there are, that one among them, and what comes after it.
Whether the end has been found comes first. -/
private def hereLines (stripsTabs : Bool) (stop : List Char) : Nat → List Char → Bool × List Char × Nat × List Char
  | 0, s => (false, [], 0, s)
  | _, [] => (false, [], 0, [])
  | fuel + 1, s =>
    let line := s.takeWhile (· != '\n')
    let after := s.drop (line.length + 1)
    let line := if stripsTabs then line.dropWhile (· == '\t') else line
    if line == stop then (true, [], 1, after)
    else
      let (found, body, count, after) := hereLines stripsTabs stop fuel after
      (found, line ++ '\n' :: body, count + 1, after)

/-- A word as it is written, without its quotes, whether there were any, and the rest. -/
private def rawWord : Option Char → List Char → List Char × Bool × List Char
  | _, [] => ([], false, [])
  | some quote, c :: rest =>
    if c == quote then
      let (word, _, after) := rawWord none rest
      (word, true, after)
    else
      let (word, _, after) := rawWord (some quote) rest
      (c :: word, true, after)
  | none, '\\' :: c :: rest =>
    let (word, _, after) := rawWord none rest
    (c :: word, true, after)
  | none, c :: rest =>
    if isMeta c then ([], false, c :: rest)
    else if c == '\'' || c == '"' then
      let (word, _, after) := rawWord (some c) rest
      (word, true, after)
    else
      let (word, isQuoted, after) := rawWord none rest
      (c :: word, isQuoted, after)

/-- The name of a symbol at the start of a text. -/
private def symbol? : List Char → Option (String × List Char)
  | '&' :: rest =>
    match skipJoints rest with
    | '&' :: rest => some ("&&", rest)
    | _ => some ("&", rest)
  | '|' :: rest =>
    match skipJoints rest with
    | '|' :: rest => some ("||", rest)
    | _ => some ("|", rest)
  | ';' :: rest =>
    match skipJoints rest with
    | ';' :: rest => some (";;", rest)
    | _ => some (";", rest)
  | '(' :: rest => some ("(", rest)
  | ')' :: rest => some (")", rest)
  | _ => none

/-- A redirection at the start of a text: its descriptor, where it leads, and whether tabs are stripped. -/
private def redirection? (s : List Char) : Option (Nat × Direction × Bool × List Char) :=
  let (number, s) : Option Nat × List Char := match s with
    | c :: rest =>
      if c.isDigit then
        match skipJoints rest with
        | '<' :: _ => (some (c.toNat - 48), skipJoints rest)
        | '>' :: _ => (some (c.toNat - 48), skipJoints rest)
        | _ => (none, s)
      else (none, s)
    | [] => (none, s)
  match s with
  | '<' :: rest =>
    match skipJoints rest with
    | '<' :: rest =>
      match skipJoints rest with
      | '-' :: rest => some (number.getD 0, .here, true, rest)
      | _ => some (number.getD 0, .here, false, rest)
    | '&' :: rest => some (number.getD 0, .copy, false, rest)
    | '>' :: rest => some (number.getD 0, .both, false, rest)
    | _ => some (number.getD 0, .from, false, rest)
  | '>' :: rest =>
    match skipJoints rest with
    | '>' :: rest => some (number.getD 1, .append, false, rest)
    | '&' :: rest => some (number.getD 1, .copy, false, rest)
    | '|' :: rest => some (number.getD 1, .anew, false, rest)
    | _ => some (number.getD 1, .onto, false, rest)
  | _ => none

/-- Which lists of commands there are: a line of a script, one that has to hold something, and one that need not. -/
inductive ListKind where
  | line
  | body
  | loose
  deriving DecidableEq, Repr

/-- Two commands one after the other. -/
private def joined : Option Command → Command → Command
  | none, second => second
  | some first, second => .seq first second

mutual

/-- The pieces of a word up to where it ends; the character that ends it is left, except at the end of a sum. -/
def pieces : Nat → Surround → Parser Word
  | 0, _ => Parser.fail "Syntax error: too deep"
  | fuel + 1, surround => do
    let s := (← get).rest
    let run := s.takeWhile surround.isInert
    if !run.isEmpty then
      Parser.goTo (s.drop run.length)
      return .text run surround.isQuoted :: (← pieces fuel surround)
    match s with
    | [] =>
      match surround with
      | .plain => if (← get).isWhole then return [] else throw .incomplete
      | .here => return []
      | _ => Parser.failAtEnd surround.unended
    | '\\' :: '\n' :: rest =>
      Parser.goTo rest
      pieces fuel surround
    | '\\' :: c :: rest =>
      Parser.goTo rest
      return surround.escaped c :: (← pieces fuel surround)
    | ['\\'] =>
      if !(← get).isWhole then throw .incomplete
      Parser.goTo []
      return .text ['\\'] true :: (← pieces fuel surround)
    | '$' :: rest =>
      Parser.goTo rest
      let piece ← dollar fuel surround
      return piece :: (← pieces fuel surround)
    | '\x60' :: rest =>
      match backquoted? (surround.isQuoted && surround != .here) rest with
      | none => Parser.failAtEnd "Syntax error: EOF in backquote substitution"
      | some (text, rest) =>
        let outer ← get
        set { rest := text, line := outer.line, aliases := outer.aliases : Input }
        let body ← list fuel .loose none
        match ← token fuel with
        | .theEnd => pure ()
        | t => unexpected t ""
        set outer
        Parser.goTo rest
        return .output body surround.isQuoted :: (← pieces fuel surround)
    | '\'' :: rest =>
      let text := rest.takeWhile (· != '\'')
      match rest.drop text.length with
      | [] => Parser.failAtEnd "Syntax error: Unterminated quoted string"
      | _ :: rest =>
        Parser.goTo rest
        return .text text true :: (← pieces fuel surround)
    | '"' :: rest =>
      match surround with
      | .double => return []
      | _ =>
        Parser.goTo rest
        let inner ← pieces fuel .double
        Parser.goTo ((← get).rest.drop 1)
        let more ← pieces fuel surround
        return (if inner.isEmpty then [.text [] true] else inner) ++ more
    | c :: rest =>
      match surround, c with
      | .sum depth, '(' =>
        Parser.goTo rest
        return .text ['('] true :: (← pieces fuel (.sum (depth + 1)))
      | .sum (depth + 1), ')' =>
        Parser.goTo rest
        return .text [')'] true :: (← pieces fuel (.sum depth))
      | .sum 0, ')' =>
        match skipJoints rest with
        | ')' :: rest =>
          Parser.goTo rest
          return []
        | rest =>
          Parser.goTo rest
          return .text [')'] true :: (← pieces fuel (.sum 0))
      | _, _ => return []

/-- What stands after a dollar sign. -/
def dollar : Nat → Surround → Parser Piece
  | 0, _ => Parser.fail "Syntax error: too deep"
  | fuel + 1, surround => do
    let quoted := surround.isQuoted
    let s := skipJoints (← get).rest
    match s with
    | '(' :: rest =>
      match skipJoints rest with
      | '(' :: rest =>
        Parser.goTo rest
        return .sum (← pieces fuel (.sum 0)) quoted
      | rest =>
        Parser.goTo rest
        let body ← list fuel .loose none
        let t ← token fuel
        if !t.isSymbol ")" then unexpected t "\")\""
        return .output body quoted
    | '\x7b' :: rest =>
      Parser.goTo (skipJoints rest)
      braced fuel surround
    | c :: rest =>
      if startsName c then
        let name := s.takeWhile continuesName
        Parser.goTo (s.drop name.length)
        return .param name .value quoted
      else if isSpecialName c then
        Parser.goTo rest
        return .param [c] .value quoted
      else return .text ['$'] quoted
    | [] => if (← get).isWhole then return .text ['$'] quoted else throw .incomplete

/-- What stands behind a dollar sign and a brace. -/
def braced : Nat → Surround → Parser Piece
  | 0, _ => Parser.fail "Syntax error: too deep"
  | fuel + 1, surround => do
    let quoted := surround.isQuoted
    let s := (← get).rest
    let inner : Surround := if quoted then .doubleBrace else .brace
    let ending (name : List Char) (use : Word → Use) (inner : Surround) (rest : List Char) : Parser Piece := do
      Parser.goTo rest
      let word ← pieces fuel inner
      Parser.goTo ((← get).rest.drop 1)
      return .param name (use word) quoted
    let length (rest : List Char) : Option (Parser Piece) :=
      match paramName? rest with
      | some (name, '\x7d' :: rest) => some do
          Parser.goTo rest
          return .param name .length quoted
      | _ => none
    let whole (s : List Char) : Parser Piece :=
      match paramName? s with
      | none => ending [] (fun _ => .senseless) inner s
      | some (name, rest) =>
        let orElse (ifEmpty : Bool) (rest : List Char) : Option (Parser Piece) :=
          match rest with
          | '-' :: rest => some (ending name (.orElse .stand ifEmpty) inner rest)
          | '=' :: rest => some (ending name (.orElse .assign ifEmpty) inner rest)
          | '?' :: rest => some (ending name (.orElse .complain ifEmpty) inner rest)
          | '+' :: rest => some (ending name (.orElse .instead ifEmpty) inner rest)
          | _ => none
        match rest with
        | '\x7d' :: rest => do
          Parser.goTo rest
          return .param name .value quoted
        | '%' :: '%' :: rest => ending name (.strip true true) .brace rest
        | '%' :: rest => ending name (.strip true false) .brace rest
        | '#' :: '#' :: rest => ending name (.strip false true) .brace rest
        | '#' :: rest => ending name (.strip false false) .brace rest
        | ':' :: rest => (orElse true rest).getD (ending [] (fun _ => .senseless) inner rest)
        | rest => (orElse false rest).getD (ending [] (fun _ => .senseless) inner rest)
    match s with
    | '#' :: rest => (length rest).getD (whole s)
    | _ => whole s

/-- The next token. -/
def token : Nat → Parser Token
  | 0 => Parser.fail "Syntax error: too deep"
  | fuel + 1 => do
    let before ← get
    match before.held with
    | some t =>
      set { before with held := none }
      return t
    | none =>
      Parser.goTo (skipBlanks before.rest)
      let s := (← get).rest
      match s with
      | [] => if before.isWhole then return .theEnd else throw .incomplete
      | '\n' :: rest =>
        Parser.goTo rest
        return .newline
      | _ =>
        match symbol? s, redirection? s with
        | some (name, rest), _ =>
          Parser.goTo rest
          return .symbol name
        | none, some (descriptor, direction, stripsTabs, rest) =>
          Parser.goTo rest
          return .redirect descriptor direction stripsTabs
        | none, none => return .word (← pieces fuel .plain)

/-- The next token where a command may begin: aliases are replaced. With `pastLines`, line ends do not count. -/
def commandToken : Nat → Bool → Parser Token
  | 0, _ => Parser.fail "Syntax error: too deep"
  | fuel + 1, pastLines => do
    let t ← token fuel
    match t with
    | .newline => if pastLines then commandToken fuel pastLines else return t
    | _ =>
      let s ← get
      let busy := s.busy.filter fun (_, length) => length ≤ s.rest.length
      match t.plain?.bind fun name => (s.aliases.lookup name).map (name, ·) with
      | some (name, text) =>
        if (busy.lookup name).isSome || reservedWords.contains (String.ofList name) then return t
        else
          set { s with rest := text ++ s.rest, busy := (name, s.rest.length) :: busy }
          commandToken fuel pastLines
      | none => return t

/-- A redirection behind its operator. -/
def redirection : Nat → Nat → Direction → Bool → Parser Redirect
  | 0, _, _, _ => Parser.fail "Syntax error: too deep"
  | fuel + 1, descriptor, direction, stripsTabs => do
    match direction with
    | .here =>
      Parser.goTo (skipBlanks (← get).rest)
      let (stop, isLiteral, rest) := rawWord none (← get).rest
      if stop.isEmpty && !isLiteral then unexpected (← token fuel) ""
      Parser.goTo rest
      let outer ← get
      let (line, after) := restOfLine none outer.rest
      let (found, body, count, after) := hereLines stripsTabs stop (after.length + 1) (after.drop 1)
      if !found && !outer.isWhole then throw .incomplete
      let target ← if isLiteral then pure [Piece.text body true] else do
        set { rest := body, line := outer.line, aliases := outer.aliases : Input }
        pieces fuel .here
      set { outer with rest := line ++ '\n' :: after, owed := outer.owed + count }
      return .mk descriptor .here target
    | _ =>
      match ← token fuel with
      | .word target => return .mk descriptor direction target
      | t => unexpected t ""

/-- A list of commands; `first` is what has been read of it. -/
def list : Nat → ListKind → Option Command → Parser Command
  | 0, _, _ => Parser.fail "Syntax error: too deep"
  | fuel + 1, kind, first => do
    let t ← commandToken fuel (kind != .line)
    match kind, t with
    | .line, .newline => return first.getD .nothing
    | _, .theEnd =>
      Parser.unread .theEnd
      return first.getD .nothing
    | _, _ =>
      Parser.unread t
      if kind != .line && (first.isSome || kind = .loose) && t.endsList then return first.getD .nothing
      let second ← andOr fuel
      match ← token fuel with
      | .symbol "&" => list fuel kind (joined first (.background second))
      | .symbol ";" => list fuel kind (joined first second)
      | .newline =>
        Parser.unread .newline
        list fuel kind (joined first second)
      | .theEnd =>
        Parser.unread .theEnd
        return joined first second
      | t =>
        if kind = .line then unexpected t ""
        Parser.unread t
        return joined first second

/-- Commands of which each runs if the one before it has had, or has not had, success. -/
def andOr : Nat → Parser Command
  | 0 => Parser.fail "Syntax error: too deep"
  | fuel + 1 => do andOrRest fuel (← pipeline fuel false)

/-- The rest of such a chain. -/
def andOrRest : Nat → Command → Parser Command
  | 0, _ => Parser.fail "Syntax error: too deep"
  | fuel + 1, first => do
    match ← token fuel with
    | .symbol "&&" => andOrRest fuel (.both first (← pipeline fuel true))
    | .symbol "||" => andOrRest fuel (.either first (← pipeline fuel true))
    | t =>
      Parser.unread t
      return first

/-- Commands of which each reads what the one before it writes. -/
def pipeline : Nat → Bool → Parser Command
  | 0, _ => Parser.fail "Syntax error: too deep"
  | fuel + 1, pastLines => do
    let t ← commandToken fuel pastLines
    let isNegated := t.isWord "!"
    if !isNegated then Parser.unread t
    let stages ← stages fuel false
    let body : Command := match stages with
      | [only] => only
      | stages => .pipeline stages
    return if isNegated then .negate body else body

/-- The commands of a pipeline. -/
def stages : Nat → Bool → Parser (List Command)
  | 0, _ => Parser.fail "Syntax error: too deep"
  | fuel + 1, pastLines => do
    let first ← command fuel pastLines
    match ← token fuel with
    | .symbol "|" => return first :: (← stages fuel true)
    | t =>
      Parser.unread t
      return [first]

/-- A command. -/
def command : Nat → Bool → Parser Command
  | 0, _ => Parser.fail "Syntax error: too deep"
  | fuel + 1, pastLines => do
    let t ← commandToken fuel pastLines
    let line := (← get).line
    let closed (body : Command) (stop : String) : Parser Command := do
      let t ← commandToken fuel false
      if !t.isWord stop then unexpected t ("\"" ++ stop ++ "\"")
      trailing fuel line body
    match t with
    | .symbol "(" =>
      let body ← list fuel .body none
      let t ← token fuel
      if !t.isSymbol ")" then unexpected t "\")\""
      trailing fuel line (.subshell body)
    | .redirect _ _ _ =>
      Parser.unread t
      simple fuel line [] [] []
    | .word _ =>
      match (t.plain?.map String.ofList).getD "" with
      | "\x7b" => closed (← list fuel .body none) "\x7d"
      | "if" => closed (← branches fuel) "fi"
      | "while" => closed (← loop fuel true) "done"
      | "until" => closed (← loop fuel false) "done"
      | "for" =>
        match (← token fuel).plain? with
        | some name =>
          if !isName name then Parser.fail "Syntax error: Bad for loop variable"
          let words ← eachWords fuel
          let t ← commandToken fuel true
          if !t.isWord "do" then unexpected t "\"do\""
          closed (.each line name words (← list fuel .body none)) "done"
        | none => Parser.fail "Syntax error: Bad for loop variable"
      | "case" =>
        match ← token fuel with
        | .word subject =>
          let t ← commandToken fuel true
          if !t.isWord "in" then unexpected t "\"in\""
          trailing fuel line (.choose line subject (← choices fuel))
        | t => unexpected t "word"
      | word =>
        if reservedWords.contains word then unexpected t ""
        Parser.unread t
        simple fuel line [] [] []
    | _ => unexpected t ""

/-- A compound command with the redirections behind it. -/
def trailing : Nat → Nat → Command → Parser Command
  | 0, _, _ => Parser.fail "Syntax error: too deep"
  | fuel + 1, line, body => do
    match ← redirections fuel with
    | [] => return body
    | redirects => return .redirected line body redirects

/-- Redirections one after the other. -/
def redirections : Nat → Parser (List Redirect)
  | 0 => Parser.fail "Syntax error: too deep"
  | fuel + 1 => do
    match ← commandToken fuel false with
    | .redirect descriptor direction stripsTabs =>
      let first ← redirection fuel descriptor direction stripsTabs
      return first :: (← redirections fuel)
    | t =>
      Parser.unread t
      return []

/-- A conditional between its first and its last word. -/
def branches : Nat → Parser Command
  | 0 => Parser.fail "Syntax error: too deep"
  | fuel + 1 => do
    let condition ← list fuel .body none
    let t ← commandToken fuel false
    if !t.isWord "then" then unexpected t "\"then\""
    let yes ← list fuel .body none
    let t ← commandToken fuel false
    if t.isWord "elif" then return .branch condition yes (← branches fuel)
    else if t.isWord "else" then return .branch condition yes (← list fuel .body none)
    else
      Parser.unread t
      return .branch condition yes .nothing

/-- A loop between its first and its last word. -/
def loop : Nat → Bool → Parser Command
  | 0, _ => Parser.fail "Syntax error: too deep"
  | fuel + 1, positive => do
    let condition ← list fuel .body none
    let t ← commandToken fuel false
    if !t.isWord "do" then unexpected t "\"do\""
    return .again positive condition (← list fuel .body none)

/-- The words of a loop over words; without any it goes over the parameters. -/
def eachWords : Nat → Parser (List Word)
  | 0 => Parser.fail "Syntax error: too deep"
  | fuel + 1 => do
    let t ← commandToken fuel true
    if t.isWord "in" then
      let words ← words fuel
      match ← token fuel with
      | .newline => return words
      | .symbol ";" => return words
      | t => unexpected t ""
    else
      if !t.isSymbol ";" then Parser.unread t
      return [[.param ['@'] .value true]]

/-- Words one after the other. -/
def words : Nat → Parser (List Word)
  | 0 => Parser.fail "Syntax error: too deep"
  | fuel + 1 => do
    match ← token fuel with
    | .word word => return word :: (← words fuel)
    | t =>
      Parser.unread t
      return []

/-- The branches of a choice, with the word that ends it. -/
def choices : Nat → Parser (List (List Word × Command))
  | 0 => Parser.fail "Syntax error: too deep"
  | fuel + 1 => do
    let t ← pastLines fuel
    if t.isWord "esac" then return []
    let t ← if t.isSymbol "(" then token fuel else pure t
    let patterns ← patterns fuel t
    let body ← list fuel .loose none
    let t ← pastLines fuel
    if t.isWord "esac" then return [(patterns, body)]
    if !t.isSymbol ";;" then unexpected t "\";;\""
    return (patterns, body) :: (← choices fuel)

/-- The patterns of a branch, of which the first has been read. -/
def patterns : Nat → Token → Parser (List Word)
  | 0, _ => Parser.fail "Syntax error: too deep"
  | fuel + 1, first => do
    match first with
    | .word pattern =>
      match ← token fuel with
      | .symbol "|" => return pattern :: (← patterns fuel (← token fuel))
      | .symbol ")" => return [pattern]
      | t => unexpected t "\")\""
    | t => unexpected t "\")\""

/-- The next token that is not the end of a line. -/
def pastLines : Nat → Parser Token
  | 0 => Parser.fail "Syntax error: too deep"
  | fuel + 1 => do
    match ← token fuel with
    | .newline => pastLines fuel
    | t => return t

/-- A simple command; what has been read of it stands in reverse. -/
def simple : Nat → Nat → List (List Char × Word) → List Word → List Redirect → Parser Command
  | 0, _, _, _, _ => Parser.fail "Syntax error: too deep"
  | fuel + 1, line, assigns, words, redirects => do
    let done : Command := .simple line assigns.reverse words.reverse redirects.reverse
    match ← if words.isEmpty then commandToken fuel false else token fuel with
    | .redirect descriptor direction stripsTabs =>
      let redirect ← redirection fuel descriptor direction stripsTabs
      simple fuel line assigns words (redirect :: redirects)
    | .word word =>
      match words.isEmpty, word with
      | true, .text s false :: more =>
        match assignment? s with
        | some (name, value) =>
          let first : Word := if value.isEmpty then [] else [.text value false]
          simple fuel line ((name, first ++ more) :: assigns) words redirects
        | none => simple fuel line assigns (word :: words) redirects
      | _, _ => simple fuel line assigns (word :: words) redirects
    | .symbol "(" =>
      match assigns.isEmpty && redirects.isEmpty, words with
      | true, [name] =>
        let t ← token fuel
        if !t.isSymbol ")" then unexpected t "\")\""
        match name with
        | [.text name false] =>
          if !isName name || isSpecial name then Parser.fail "Syntax error: Bad function name"
          return .define name (← command fuel true)
        | _ => Parser.fail "Syntax error: Bad function name"
      | _, _ =>
        Parser.unread (.symbol "(")
        return done
    | t =>
      Parser.unread t
      return done

end

/-- Reads the next complete command of a script; at its end there is none. -/
private def nextCommand (fuel : Nat) : Parser (Option Command) := do
  match ← token fuel with
  | .theEnd => return none
  | .newline => return some .nothing
  | t =>
    Parser.unread t
    return some (← list fuel .line none)

/-- Reads the next complete command of a script; at its end there is none. -/
def read (s : Input) : Except SyntaxFault (Option Command × Input) :=
  nextCommand (32 * (s.rest.length + (s.aliases.map (·.2.length)).foldl (· + ·) 0) + 256) s

end Attendant.Host.Shell

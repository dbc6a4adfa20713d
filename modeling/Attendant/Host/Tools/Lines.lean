import Attendant.Decimal.Rounded
import Attendant.Host.Shell.Format
import Attendant.Host.Tools.Basic

/-!
# Programs for lines

Programs that count, choose, cut, sort and renumber the lines of a text, or replace its characters.
-/

namespace Attendant.Host.Tools

open Shell (ofBytes toBytes)

/-- A text on the right of some places. -/
private def toRight (width : Nat) (s : List Char) : List Char := List.replicate (width - s.length) ' ' ++ s

/-! ### Whole texts -/

private def catTable : OptionTable :=
  { program := "cat", plain := "nbAEeTtvsu"
    long := [("number", 'n'), ("number-nonblank", 'b'), ("show-all", 'A'), ("show-ends", 'E'), ("show-tabs", 'T'),
      ("squeeze-blank", 's'), ("show-nonprinting", 'v')] }

/-- A character that is shown by others. -/
private def visible (c : Char) : List Char :=
  let n := c.toNat
  if n < 32 then ['^', Char.ofNat (n + 64)]
  else if n = 127 then ['^', '?']
  else if n < 128 then [c]
  else if n < 160 then ['M', '-', '^', Char.ofNat (n - 64)]
  else if n = 255 then "M-^?".toList
  else ['M', '-', Char.ofNat (n - 128)]

/-- Lines as `cat` shows them with options. -/
private def shownLines (o : Options) : Nat → Bool → List (List Char) → List (List Char)
  | _, _, [] => []
  | number, afterBlank, line :: rest =>
    if o.has 's' && afterBlank && line.isEmpty then shownLines o number true rest
    else
      let counts := (o.has 'n' && !o.has 'b') || (o.has 'b' && !line.isEmpty)
      let start := if counts then toRight 6 (Shell.digits number) ++ ['\t'] else []
      let body := line.flatMap fun c =>
        if c == '\t' then (if o.has 'T' || o.has 't' || o.has 'A' then ['^', 'I'] else [c])
        else if o.has 'v' || o.has 'A' || o.has 'e' || o.has 't' then visible c
        else [c]
      let stop := if o.has 'E' || o.has 'e' || o.has 'A' then ['$'] else []
      (start ++ body ++ stop) :: shownLines o (if counts then number + 1 else number) line.isEmpty rest

/-- Lines as a text, of which the last has an end only if it had one. -/
private def joinLines (ls : List (List Char)) (isEnded : Bool) : List Char :=
  let s := unlines ls
  if isEnded || ls.isEmpty then s else s.dropLast

/-- The program that copies its sources one after the other. -/
def cat (args : List (List Char)) : Job :=
  catTable.job 1 args fun o =>
    if o.flags.all (·.1 == 'u') then .copy o.operands [] false .all
    else .reading o.operands fun sources =>
      wholeText "cat" 1 sources fun s =>
        let (ls, isEnded) := lines s
        said (joinLines (shownLines o 1 false ls) isEnded) 0

/-- The program that copies its input to files as well. -/
def tee (args : List (List Char)) : Job :=
  OptionTable.job { program := "tee", plain := "aip", long := [("append", 'a')] } 1 args fun o =>
    .copy [] o.operands (o.has 'a') .all

/-- The program that shows lines in the opposite order. -/
def tac (args : List (List Char)) : Job :=
  .reading args fun sources => eachSource "tac" sources fun _ s =>
    let (ls, isEnded) := lines s
    let marked := (ls.dropLast.map (· ++ ['\n'])) ++
      (ls.getLast?.map fun l => if isEnded then l ++ ['\n'] else l).toList
    marked.reverse.flatten

/-- The program that shows each line backwards. -/
def rev (args : List (List Char)) : Job :=
  .reading args fun sources => eachSource "rev" sources fun _ s =>
    let (ls, isEnded) := lines s
    joinLines (ls.map List.reverse) isEnded

private def nlTable : OptionTable := { program := "nl", plain := "p", valued := "bwsvin" }

private def numbered (all : Bool) (width : Nat) (separator : List Char) : Nat → List (List Char) → List (List Char)
  | _, [] => []
  | n, line :: rest =>
    if all || !line.isEmpty then
      (toRight width (Shell.digits n) ++ separator ++ line) :: numbered all width separator (n + 1) rest
    else (List.replicate (width + separator.length) ' ') :: numbered all width separator n rest

/-- The program that numbers lines. -/
def nl (args : List (List Char)) : Job :=
  nlTable.job 1 args fun o => .reading o.operands fun sources =>
    wholeText "nl" 1 sources fun s =>
      let width := ((o.value? 'w').bind number?).getD 6
      said (unlines (numbered (o.value? 'b' == some ['a']) width ((o.value? 's').getD ['\t'])
        (((o.value? 'v').bind number?).getD 1) (lines s).1)) 0

/-! ### The start and the end of a text -/

private def headTable : OptionTable :=
  { program := "head", plain := "qvz", valued := "nc", long := [("lines", 'n'), ("bytes", 'c'), ("quiet", 'q'), ("verbose", 'v')] }

/-- An option of digits alone is a number of lines. -/
private def withCount (args : List (List Char)) : List (List Char) :=
  match args with
  | ('-' :: n) :: rest => if !n.isEmpty && n.all Char.isDigit then ['-', 'n'] :: n :: rest else args
  | _ => args

/-- The parts of several texts, each behind its name. -/
private def headed (program : String) (isVerbose isQuiet : Bool) (sources : List Source) (f : List Char → List Char) :
    Verdict :=
  let many := isVerbose || (1 < sources.length && !isQuiet)
  let shown (isFirst : Bool) (source : Source) : Nat × List UInt8 :=
    match source.content with
    | .ok bytes =>
      let name := if source.name == ['-'] then "standard input".toList else source.name
      let title := if many then (if isFirst then [] else ['\n']) ++ "==> ".toList ++ name ++ " <==\n".toList else []
      (1, toBytes (title ++ f (ofBytes bytes)))
    | .error fault =>
      (2, toBytes (message program ["cannot open ".toList, quoted source.name, " for reading: ".toList, faultText fault]))
  let failed := sources.any fun source => match source.content with
    | .ok _ => false
    | .error _ => true
  { writes := (sources.take 1).map (shown true) ++ (sources.drop 1).map (shown false)
    code := if failed then 1 else 0 }

private def wrongCount (program unit : String) (n : List Char) : Job :=
  .finish (complained (message program [("invalid number of " ++ unit ++ ": ").toList, quoted n]) 1)

/-- The program that shows the start of a text. -/
def head (args : List (List Char)) : Job :=
  headTable.job 1 (withCount args) fun o =>
    let (letter, amount) := (o.flags.reverse.find? fun f => f.1 == 'n' || f.1 == 'c').getD ('n', ['1', '0'])
    let isBytes := letter == 'c'
    let fromEnd := amount.head? == some '-'
    match sized? (if fromEnd || amount.head? == some '+' then amount.drop 1 else amount) with
    | none => wrongCount "head" (if isBytes then "bytes" else "lines") amount
    | some n =>
      if !fromEnd && o.operands.length ≤ 1 && !o.has 'v' then
        .copy o.operands [] false (if isBytes then .bytes n else .lines n)
      else .reading o.operands fun sources =>
        headed "head" (o.has 'v') (o.has 'q') sources fun s =>
          let (ls, isEnded) := lines s
          let count := if fromEnd then (if isBytes then s.length else ls.length) - n else n
          if isBytes then s.take count else joinLines (ls.take count) (isEnded || count < ls.length)

private def tailTable : OptionTable :=
  { program := "tail", plain := "qvfFz", valued := "ncs"
    long := [("lines", 'n'), ("bytes", 'c'), ("quiet", 'q'), ("verbose", 'v'), ("follow", 'f')] }

/-- An option of a plus sign and digits is the number of the first line. -/
private def withStart (args : List (List Char)) : List (List Char) :=
  match args with
  | ('+' :: n) :: rest => if !n.isEmpty && n.all Char.isDigit then ['-', 'n'] :: ('+' :: n) :: rest else args
  | _ => withCount args

/-- The program that shows the end of a text. -/
def tail (args : List (List Char)) : Job :=
  tailTable.job 1 (withStart args) fun o =>
    let (letter, amount) := (o.flags.reverse.find? fun f => f.1 == 'n' || f.1 == 'c').getD ('n', ['1', '0'])
    let isBytes := letter == 'c'
    let fromStart := amount.head? == some '+'
    match sized? (if fromStart || amount.head? == some '-' then amount.drop 1 else amount) with
    | none => wrongCount "tail" (if isBytes then "bytes" else "lines") amount
    | some n =>
      if o.has 'f' || o.has 'F' then .copy o.operands [] false .endless
      else .reading o.operands fun sources =>
        headed "tail" (o.has 'v') (o.has 'q') sources fun s =>
          let (ls, isEnded) := lines s
          if isBytes then s.drop (if fromStart then n - 1 else s.length - n)
          else joinLines (ls.drop (if fromStart then n - 1 else ls.length - n)) isEnded

/-! ### Counts -/

private def wcTable : OptionTable :=
  { program := "wc", plain := "clmwL"
    long := [("bytes", 'c'), ("lines", 'l'), ("chars", 'm'), ("words", 'w'), ("max-line-length", 'L')] }

/-- How many words a text has. -/
private def wordCount (s : List Char) : Nat :=
  (s.foldl (fun (n, inWord) c =>
    let isSpace := Shell.inClass "space".toList c
    (if !isSpace && !inWord then n + 1 else n, !isSpace)) ((0 : Nat), false)).1

/-- The numbers that are shown of a text: lines, words, characters, bytes, and the length of the longest line. -/
private def counts (o : Options) (s : List Char) : List Nat :=
  let wanted (c : Char) : Bool := o.has c || (o.flags.isEmpty && (c == 'l' || c == 'w' || c == 'c'))
  (if wanted 'l' then [s.count '\n'] else []) ++ (if wanted 'w' then [wordCount s] else []) ++
    (if wanted 'm' then [s.length] else []) ++ (if wanted 'c' then [s.length] else []) ++
    (if wanted 'L' then [((lines s).1.map List.length).foldl max 0] else [])

/-- The program that counts lines, words and characters. -/
def wc (setting : Setting) (args : List (List Char)) : Job :=
  wcTable.job 1 args fun o => .reading o.operands fun sources =>
    let size (s : Source) : Nat := match s.content with
      | .ok bytes => bytes.length
      | .error _ => 0
    let isRegular (s : Source) : Bool := match setting.entry? s.name with
      | some (.file _) => s.name != ['-']
      | _ => false
    let total := (sources.filter isRegular).foldl (fun n s => n + size s) 0
    let single := sources.length ≤ 1 && (counts o []).length = 1
    let width := if single then 1
      else max (Nat.toDigits 10 total).length (if sources.all isRegular then 1 else 7)
    let row (ns : List Nat) (name : List Char) : List Char :=
      ((ns.map fun n => toRight width (Shell.digits n)).intersperse [' ']).flatten ++
        (if name.isEmpty then [] else ' ' :: name) ++ ['\n']
    let v := eachSource "wc" sources fun name s =>
      row (counts o s) (if o.operands.isEmpty then [] else name)
    if sources.length ≤ 1 then v
    else
      let sums := sources.foldl (fun sums s =>
        match s.content with
        | .ok bytes => (counts o (ofBytes bytes)).zipWith (· + ·) sums
        | .error _ => sums) ((counts o []).map fun _ => 0)
      { v with writes := v.writes ++ [(1, toBytes (row sums "total".toList))] }

/-! ### Sorting -/

private def sortTable : OptionTable :=
  { program := "sort", plain := "nrubfgdiMhVcCmsz", valued := "kto"
    long := [("numeric-sort", 'n'), ("reverse", 'r'), ("unique", 'u'), ("key", 'k'), ("field-separator", 't'),
      ("output", 'o'), ("check", 'c'), ("stable", 's'), ("ignore-case", 'f'), ("ignore-leading-blanks", 'b')] }

/-- A key of lines: from a field and a character to a field and a character, with letters for how it is compared. -/
private structure SortKey where
  startField : Nat
  startChar : Nat
  stop : Option (Nat × Nat)
  letters : List Char

/-- A place in a key: a field and perhaps a character, then letters. -/
private def keyPlace (s : List Char) : Nat × Nat × List Char :=
  let field := s.takeWhile Char.isDigit
  let rest := s.drop field.length
  match rest with
  | '.' :: rest =>
    let place := rest.takeWhile Char.isDigit
    ((number? field).getD 0, (number? place).getD 0, rest.drop place.length)
  | rest => ((number? field).getD 0, 0, rest)

private def sortKey (s : List Char) : SortKey :=
  let first := s.takeWhile (· != ',')
  let (field, place, letters) := keyPlace first
  match s.drop (first.length + 1) with
  | [] => ⟨field, place, none, letters⟩
  | second =>
    let (endField, endPlace, more) := keyPlace second
    ⟨field, place, some (endField, endPlace), letters ++ more⟩

/-- The fields of a line; without a separator each has the blanks before it. -/
private def sortFields (separator : Option Char) (line : List Char) : List (List Char) :=
  match separator with
  | some c => line.foldr (fun d fields =>
      if d == c then [] :: fields
      else match fields with
        | field :: rest => (d :: field) :: rest
        | [] => [[d]]) [[]]
  | none =>
    let rec go : Nat → List Char → List (List Char)
      | 0, _ => []
      | fuel + 1, s =>
        if s.isEmpty then []
        else
          let blanks := s.takeWhile Shell.isBlank
          let word := (s.drop blanks.length).takeWhile fun c => !Shell.isBlank c
          (blanks ++ word) :: go fuel (s.drop (blanks.length + word.length))
    go (line.length + 1) line

/-- The part of a line that a key names. -/
private def keyOf (separator : Option Char) (k : SortKey) (line : List Char) : List Char :=
  let fields := sortFields separator line
  let joinText : List Char := separator.toList
  let between := match k.stop with
    | some (field, place) =>
      if place = 0 then (fields.take field).drop (k.startField - 1)
      else ((fields.take (field - 1)) ++ ((fields[field - 1]?).map fun (f : List Char) => f.take place).toList).drop (k.startField - 1)
    | none => fields.drop (k.startField - 1)
  let text := (between.intersperse joinText).flatten
  let text := if k.letters.contains 'b' then text.dropWhile Shell.isBlank else text
  text.drop (k.startChar - 1)

/-- The number at the start of a text, in units of a billionth. -/
private def numericValue (s : List Char) : Int :=
  let s := s.dropWhile Shell.isBlank
  let (isNegative, body) : Bool × List Char := match s with
    | '-' :: rest => (true, rest)
    | _ => (false, s)
  let whole := body.takeWhile Char.isDigit
  let decimals := match body.drop whole.length with
    | '.' :: rest => rest.takeWhile Char.isDigit
    | _ => []
  let n := (number? whole).getD 0 * 1000000000 + (number? ((decimals ++ List.replicate 9 '0').take 9)).getD 0
  if isNegative then -(n : Int) else n

/-- How two texts compare under some letters. -/
private def compareTexts (letters : List Char) (a b : List Char) : Ordering :=
  let prepare (s : List Char) : List Char :=
    let s := if letters.contains 'b' then s.dropWhile Shell.isBlank else s
    let s := if letters.contains 'd' then s.filter fun c => c.isAlphanum || Shell.isBlank c else s
    if letters.contains 'f' then s.map Char.toUpper else s
  let o := if letters.contains 'n' || letters.contains 'h' then compare (numericValue a) (numericValue b)
    else if letters.contains 'g' then
      let x := (Shell.leadingDouble a).1
      let y := (Shell.leadingDouble b).1
      if x < y then .lt else if y < x then .gt else .eq
    else compare ((prepare a).map Char.toNat) ((prepare b).map Char.toNat)
  if letters.contains 'r' then o.swap else o

/-- How two lines compare: by the keys, and then as a whole. -/
private def compareLines (o : Options) (a b : List Char) (wholly : Bool) : Ordering :=
  let flags := o.flags.map (·.1)
  let separator := (o.value? 't').bind (·.head?)
  let keys := (o.values 'k').map sortKey
  let byKeys := keys.foldl (fun found k =>
    match found with
    | .eq =>
      let letters := if k.letters.isEmpty then flags else k.letters
      compareTexts letters (keyOf separator k a) (keyOf separator k b)
    | found => found) Ordering.eq
  let first := if keys.isEmpty then compareTexts flags a b else byKeys
  match first with
  | .eq =>
    if wholly && !o.has 's' && !o.has 'u' then
      let plain := compare (a.map Char.toNat) (b.map Char.toNat)
      if o.has 'r' then plain.swap else plain
    else .eq
  | found => found

/-- Leaves one of each run of lines that are equal in some sense. -/
private def withoutRepeats (same : List Char → List Char → Bool) : List (List Char) → List (List Char)
  | a :: b :: rest =>
    if same a b then withoutRepeats same (a :: rest) else a :: withoutRepeats same (b :: rest)
  | ls => ls
termination_by ls => ls.length

/-- The program that sorts lines. -/
def sort (setting : Setting) (args : List (List Char)) : Job :=
  sortTable.job 2 args fun o => .reading o.operands fun sources =>
    let missing := sources.findSome? fun s => match s.content with
      | .ok _ => none
      | .error fault => some (s.name, fault)
    match missing with
    | some (name, fault) =>
      complained (message "sort" ["cannot read: ".toList, name, ": ".toList, faultText fault]) 2
    | none =>
      let all := sources.flatMap fun s => match s.content with
        | .ok bytes => (lines (ofBytes bytes)).1
        | .error _ => []
      if o.has 'c' || o.has 'C' then
        let wrong := (all.zip (all.drop 1)).zipIdx.find? fun ((a, b), _) =>
          match compareLines o a b true with
          | .gt => true
          | .eq => o.has 'u'
          | .lt => false
        match wrong with
        | some ((_, b), i) =>
          if o.has 'C' then { code := 1 }
          else complained (message "sort" [((sources.head?.map (·.name)).getD ['-']), ":".toList, Shell.digits (i + 2),
            ": disorder: ".toList, b]) 1
        | none => {}
      else
        let sorted := all.mergeSort fun a b => compareLines o a b true != .gt
        let sorted := if o.has 'u' then withoutRepeats (fun a b => compareLines o a b false == .eq) sorted else sorted
        match o.value? 'o' with
        | some name =>
          { change := some fun fs => ((fs.write (setting.seen name) (toBytes (unlines sorted))).toOption).getD fs }
        | none => said (unlines sorted) 0

private def uniqTable : OptionTable :=
  { program := "uniq", plain := "cduiz", valued := "fsw"
    long := [("count", 'c'), ("repeated", 'd'), ("unique", 'u'), ("ignore-case", 'i')] }

/-- The runs of lines that are equal in some sense: the first of each, and how many they are. -/
private def lineRuns (key : List Char → List Char) : List (List Char) → List (List Char × Nat)
  | [] => []
  | line :: rest =>
    match lineRuns key rest with
    | (next, n) :: more => if key line == key next then (line, n + 1) :: more else (line, 1) :: (next, n) :: more
    | [] => [(line, 1)]

/-- The program that leaves one of each run of equal lines. -/
def uniq (args : List (List Char)) : Job :=
  uniqTable.job 1 args fun o => .reading (o.operands.take 1) fun sources =>
    wholeText "uniq" 1 sources fun s =>
      let skipField (s : List Char) : List Char :=
        (s.dropWhile Shell.isBlank).dropWhile fun c => !Shell.isBlank c
      let key (line : List Char) : List Char :=
        let line := (List.range (((o.value? 'f').bind number?).getD 0)).foldl (fun line _ => skipField line) line
        let line := line.drop (((o.value? 's').bind number?).getD 0)
        let line := match (o.value? 'w').bind number? with
          | some n => line.take n
          | none => line
        if o.has 'i' then line.map Char.toLower else line
      let chosen := (lineRuns key (lines s).1).filter fun (_, n) =>
        (!o.has 'd' || 1 < n) && (!o.has 'u' || n = 1)
      said (unlines (chosen.map fun (line, n) =>
        if o.has 'c' then toRight 7 (Shell.digits n) ++ ' ' :: line else line)) 0

/-- The program that compares two sorted texts. -/
def comm (args : List (List Char)) : Job :=
  OptionTable.job { program := "comm", plain := "123" } 1 args fun o => .reading o.operands fun sources =>
    let texts := sources.map fun s => match s.content with
      | .ok bytes => (lines (ofBytes bytes)).1
      | .error _ => []
    let rec merge : Nat → List (List Char) → List (List Char) → List (List Char)
      | 0, _, _ => []
      | _, [], [] => []
      | fuel + 1, as, bs =>
        let column (n : Nat) (line : List Char) : List (List Char) :=
          let letter := Char.ofNat (48 + n)
          if o.has letter then []
          else
            let before := ((List.range (n - 1)).filter fun i => !o.has (Char.ofNat (49 + i))).length
            [List.replicate before '\t' ++ line]
        match as, bs with
        | a :: as', [] => column 1 a ++ merge fuel as' []
        | [], b :: bs' => column 2 b ++ merge fuel [] bs'
        | a :: as', b :: bs' =>
          if a == b then column 3 a ++ merge fuel as' bs'
          else if a < b then column 1 a ++ merge fuel as' bs
          else column 2 b ++ merge fuel as bs'
        | [], [] => []
    let as := texts[0]?.getD []
    let bs := texts[1]?.getD []
    said (unlines (merge (as.length + bs.length + 1) as bs)) 0

/-! ### Columns -/

private def cutTable : OptionTable :=
  { program := "cut", plain := "sn", valued := "dfcbO"
    long := [("delimiter", 'd'), ("fields", 'f'), ("characters", 'c'), ("bytes", 'b'), ("only-delimited", 's'),
      ("output-delimiter", 'O'), ("complement", 'n')] }

/-- Ranges of numbers with commas between them; a range may be open. -/
private def ranges? (s : List Char) : Option (List (Nat × Option Nat)) :=
  let pieces := (String.ofList s).splitOn ","
  pieces.mapM fun piece =>
    match piece.splitOn "-" with
    | [a] => (number? a.toList).bind fun n => if n = 0 then none else some (n, some n)
    | [a, b] =>
      match number? a.toList, number? b.toList with
      | some a, some b => if a = 0 || b < a then none else some (a, some b)
      | some a, none => if b.isEmpty && a != 0 then some (a, none) else none
      | none, some b => if a.isEmpty then some (1, some b) else none
      | none, none => none
    | _ => none

private def inSomeRange (rs : List (Nat × Option Nat)) (n : Nat) : Bool :=
  rs.any fun (a, b) => a ≤ n && !b.any (· < n)

/-- The program that cuts columns out of lines. -/
def cut (args : List (List Char)) : Job :=
  cutTable.job 1 args fun o =>
    let list := (o.value? 'f') <|> (o.value? 'c') <|> (o.value? 'b')
    match list with
    | none => .finish (complained (message "cut" ["you must specify a list of bytes, characters, or fields\n".toList,
        "Try 'cut --help' for more information.".toList]) 1)
    | some list =>
      match ranges? list with
      | none =>
        let what := if (list.filter fun c => !(c.isDigit || c == ',' || c == '-')).isEmpty then
            (if o.has 'f' then "fields are numbered from 1" else "byte/character positions are numbered from 1")
          else "invalid field value " ++ String.ofList (quoted list)
        .finish (complained (message "cut" [what.toList, "\nTry 'cut --help' for more information.".toList]) 1)
      | some rs =>
        let delimiter := ((o.value? 'd').bind (·.head?)).getD '\t'
        if (o.value? 'd').any (1 < ·.length) then
          .finish (complained (message "cut" ["the delimiter must be a single character\n".toList,
            "Try 'cut --help' for more information.".toList]) 1)
        else
          let chosen (n : Nat) : Bool := inSomeRange rs n != o.has 'n'
          .reading o.operands fun sources => eachSource "cut" sources fun _ s =>
            unlines ((lines s).1.filterMap fun line =>
              if o.has 'f' then
                if !line.contains delimiter then (if o.has 's' then none else some line)
                else
                  let fields := (sortFields (some delimiter) line).zipIdx.filter fun (_, i) => chosen (i + 1)
                  some ((fields.map (·.1)).intersperse ((o.value? 'O').getD [delimiter])).flatten
              else some ((line.zipIdx.filter fun (_, i) => chosen (i + 1)).map (·.1)))

/-- The program that puts lines side by side. -/
def paste (args : List (List Char)) : Job :=
  OptionTable.job { program := "paste", plain := "s", valued := "d" } 1 args fun o => .reading o.operands fun sources =>
    let delimiters := (Shell.unescape 100 ((o.value? 'd').getD ['\t'])).1
    let between (i : Nat) : List Char :=
      if delimiters.isEmpty then [] else (delimiters[i % delimiters.length]?).toList
    let joined (parts : List (List Char)) : List Char :=
      parts.zipIdx.flatMap fun (part, i) => if i = 0 then part else between (i - 1) ++ part
    let texts := sources.map fun s => match s.content with
      | .ok bytes => (lines (ofBytes bytes)).1
      | .error _ => []
    if o.has 's' then said (unlines (texts.map joined)) 0
    else
      let count := (texts.map List.length).foldl max 0
      said (unlines ((List.range count).map fun i => joined (texts.map fun ls => ls[i]?.getD []))) 0

/-- The program that breaks long lines. -/
def fold (args : List (List Char)) : Job :=
  OptionTable.job { program := "fold", plain := "sb", valued := "w" } 1 (match args with
      | ('-' :: n) :: rest => if !n.isEmpty && n.all Char.isDigit then ['-', 'w'] :: n :: rest else args
      | _ => args) fun o =>
    .reading o.operands fun sources => eachSource "fold" sources fun _ s =>
      let width := max 1 (((o.value? 'w').bind number?).getD 80)
      let rec broken : Nat → List Char → List (List Char)
        | 0, line => [line]
        | fuel + 1, line =>
          if line.length ≤ width then [line]
          else
            let start := line.take width
            let upToBlank := (start.reverse.dropWhile fun c => !Shell.isBlank c).reverse
            let start := if o.has 's' && !upToBlank.isEmpty then upToBlank else start
            start :: broken fuel (line.drop start.length)
      let (ls, isEnded) := lines s
      joinLines (ls.flatMap fun line => broken (line.length + 1) line) isEnded

/-! ### Characters -/

private def trTable : OptionTable :=
  { program := "tr", plain := "cCdst", inOrder := true
    long := [("complement", 'c'), ("delete", 'd'), ("squeeze-repeats", 's'), ("truncate-set1", 't')] }

private def allChars : List Char := (List.range 256).map Char.ofNat

private def classNames : List String :=
  ["alpha", "digit", "alnum", "upper", "lower", "space", "blank", "punct", "xdigit", "cntrl", "print", "graph"]

/-- The characters that a set names; a repetition without a count fills up to the length of the other set. -/
private def trSet (fill : Nat) : Nat → List Char → List Char
  | 0, _ => []
  | _, [] => []
  | fuel + 1, '[' :: ':' :: rest =>
    let name := rest.takeWhile Char.isAlpha
    match classNames.contains (String.ofList name), rest.drop name.length with
    | true, ':' :: ']' :: rest => allChars.filter (Shell.inClass name) ++ trSet fill fuel rest
    | _, _ => '[' :: trSet fill fuel (':' :: rest)
  | fuel + 1, '[' :: c :: '*' :: rest =>
    let count := rest.takeWhile Char.isDigit
    match rest.drop count.length with
    | ']' :: more =>
      let tail := trSet fill fuel more
      let n := match number? count with
        | some n => if n = 0 then fill - tail.length else n
        | none => fill - tail.length
      List.replicate n c ++ tail
    | _ => '[' :: trSet fill fuel (c :: '*' :: rest)
  | fuel + 1, s =>
    let single (s : List Char) : Char × List Char :=
      match s with
      | '\\' :: c :: rest =>
        if '0' ≤ c && c ≤ '7' then
          let digits := (c :: rest.take 2).takeWhile fun c => '0' ≤ c && c ≤ '7'
          (Char.ofNat ((digits.foldl (fun n c => 8 * n + (c.toNat - 48)) 0) % 256), (c :: rest).drop digits.length)
        else ((Shell.escape? c).getD c, rest)
      | c :: rest => (c, rest)
      | [] => (' ', [])
    let (first, rest) := single s
    match rest with
    | '-' :: d :: more =>
      let (last, rest) := single (d :: more)
      (List.range (last.toNat + 1 - first.toNat)).map (fun i => Char.ofNat (first.toNat + i)) ++ trSet fill fuel rest
    | _ => first :: trSet fill fuel rest

/-- Leaves one of each run of a character of a set. -/
private def squeezed (set : List Char) : List Char → List Char
  | a :: b :: rest =>
    if a == b && set.contains a then squeezed set (b :: rest) else a :: squeezed set (b :: rest)
  | s => s

/-- The program that replaces and removes characters. -/
def tr (args : List (List Char)) : Job :=
  trTable.job 1 args fun o =>
    let isComplement := o.has 'c' || o.has 'C'
    let hint : List Char := "\nTry 'tr --help' for more information.".toList
    let wrong (parts : List (List Char)) : Job := .finish (complained (message "tr" (parts ++ [hint])) 1)
    match o.operands with
    | [] => wrong ["missing operand".toList]
    | first :: others =>
      let set1 := trSet 0 (first.length + 1) first
      let set1 := if isComplement then allChars.filter fun c => !set1.contains c else set1
      let second? := others.head?
      let set2 := second?.map fun s => trSet set1.length (s.length + 1) s
      if 1 < others.length then wrong ["extra operand ".toList, quoted (others[1]?.getD [])]
      else if o.has 'd' && !o.has 's' && second?.isSome then
        wrong ["extra operand ".toList, quoted (second?.getD []), "\nOnly one string may be given when deleting without squeezing repeats.".toList]
      else if !o.has 'd' && !o.has 's' && second?.isNone then
        wrong ["missing operand after ".toList, quoted first, "\nTwo strings must be given when translating.".toList]
      else .reading [] fun sources => wholeText "tr" 1 sources fun s =>
        let shown :=
          if o.has 'd' then
            let kept := s.filter fun c => !set1.contains c
            if o.has 's' then squeezed (set2.getD []) kept else kept
          else
            match set2 with
            | none => squeezed set1 s
            | some set2 =>
              let last := set2.getLast?.getD ' '
              let table := set1.zipIdx.map fun (c, i) => (c, set2[i]?.getD (if o.has 't' then c else last))
              let replaced := s.map fun c => (table.reverse.lookup c).getD c
              if o.has 's' then squeezed set2 replaced else replaced
        said shown 0

/-! ### Numbers of bytes -/

private def hexDigits (n : Nat) : List Char := (Nat.toDigits 16 (n / 16)) ++ (Nat.toDigits 16 (n % 16))

/-- The program that shows the bytes of a text as numbers or characters. -/
def od (args : List (List Char)) : Job :=
  OptionTable.job { program := "od", plain := "bcdoxv", valued := "AtNjw" } 1 args fun o =>
    .reading o.operands fun sources => wholeText "od" 1 sources fun s =>
      let s := match (o.value? 'N').bind sized? with
        | some n => s.take n
        | none => s
      let kind := match o.value? 't' with
        | some t => String.ofList (t.take 2)
        | none => if o.has 'c' then "c" else if o.has 'b' then "o1" else if o.has 'x' then "x2" else "o2"
      let address (n : Nat) : List Char :=
        match o.value? 'A' with
        | some ['n'] => []
        | some ['d'] => Decimal.padDigits n 7
        | some ['x'] =>
          let digits := Nat.toDigits 16 n
          List.replicate (6 - digits.length) '0' ++ digits
        | _ =>
          let digits := Nat.toDigits 8 n
          List.replicate (7 - digits.length) '0' ++ digits
      let octal (n count : Nat) : List Char :=
        let digits := Nat.toDigits 8 n
        List.replicate (count - digits.length) '0' ++ digits
      let item (c : Char) : List Char :=
        match kind with
        | "c" =>
          let named : Option String := match c with
            | '\x00' => some "\\0"
            | '\n' => some "\\n"
            | '\t' => some "\\t"
            | '\r' => some "\\r"
            | '\x07' => some "\\a"
            | '\x08' => some "\\b"
            | '\x0b' => some "\\v"
            | '\x0c' => some "\\f"
            | _ => none
          toRight 4 (match named with
            | some name => name.toList
            | none => if ' ' ≤ c && c ≤ '~' then [c] else octal c.toNat 3)
        | "x1" => ' ' :: hexDigits c.toNat
        | "d1" => toRight 5 (Shell.digits c.toNat)
        | "u1" => toRight 4 (Shell.digits c.toNat)
        | _ => ' ' :: octal c.toNat 3
      let pair (cs : List Char) : List Char :=
        let n := (cs.head?.map Char.toNat).getD 0 + 256 * ((cs[1]?.map Char.toNat).getD 0)
        if kind == "x2" then ' ' :: (hexDigits (n / 256) ++ hexDigits (n % 256)) else ' ' :: octal n 6
      let rec rows : Nat → Nat → List Char → List Char
        | 0, _, _ => []
        | fuel + 1, place, s =>
          if s.isEmpty then (if (address place).isEmpty then [] else address place ++ ['\n'])
          else
            let row := s.take 16
            let body := if kind == "x2" || kind == "o2" then
                (List.range ((row.length + 1) / 2)).flatMap fun i => pair ((row.drop (2 * i)).take 2)
              else row.flatMap item
            address place ++ body ++ '\n' :: rows fuel (place + row.length) (s.drop 16)
      said (rows (s.length + 1) 0 s) 0

private def base64Alphabet : List Char := "ABCDEFGHIJKLMNOPQRSTUVWXYZabcdefghijklmnopqrstuvwxyz0123456789+/".toList

private def base64Encode : List Char → List Char
  | a :: b :: c :: rest =>
    let n := a.toNat * 65536 + b.toNat * 256 + c.toNat
    digit (n / 262144) :: digit (n / 4096) :: digit (n / 64) :: digit n :: base64Encode rest
  | [a, b] =>
    let n := a.toNat * 65536 + b.toNat * 256
    [digit (n / 262144), digit (n / 4096), digit (n / 64), '=']
  | [a] =>
    let n := a.toNat * 65536
    [digit (n / 262144), digit (n / 4096), '=', '=']
  | [] => []
where
  /-- The digit for the last six bits of a number. -/
  digit (n : Nat) : Char := base64Alphabet[n % 64]?.getD 'A'

private def base64Decode (s : List Char) : List Char :=
  let values := s.filterMap fun c => base64Alphabet.findIdx? (· == c)
  let rec go : List Nat → List Char
    | a :: b :: c :: d :: rest =>
      let n := a * 262144 + b * 4096 + c * 64 + d
      Char.ofNat (n / 65536) :: Char.ofNat (n / 256 % 256) :: Char.ofNat (n % 256) :: go rest
    | [a, b, c] =>
      let n := a * 262144 + b * 4096 + c * 64
      [Char.ofNat (n / 65536), Char.ofNat (n / 256 % 256)]
    | [a, b] => [Char.ofNat ((a * 262144 + b * 4096) / 65536)]
    | _ => []
  go values

/-- The program that writes bytes with sixty-four characters, and reads them. -/
def base64 (args : List (List Char)) : Job :=
  OptionTable.job { program := "base64", plain := "di", valued := "w", long := [("decode", 'd'), ("wrap", 'w')] } 1 args fun o =>
    .reading o.operands fun sources => wholeText "base64" 1 sources fun s =>
      if o.has 'd' then said (base64Decode s) 0
      else
        let width := ((o.value? 'w').bind number?).getD 76
        let rec rows : Nat → List Char → List Char
          | 0, _ => []
          | fuel + 1, s => if s.isEmpty then [] else s.take width ++ '\n' :: rows fuel (s.drop width)
        let all := base64Encode s
        said (if width = 0 then all else rows (all.length + 1) all) 0

end Attendant.Host.Tools

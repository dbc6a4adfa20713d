import Attendant.Host.Executable

/-!
# Programs of a machine

What a program is to do, as far as its arguments and what it finds around it say so. Most programs read all their input
before they write anything; `Job.digest` is what they do.
-/

namespace Attendant.Host.Tools

open Shell (ofBytes toBytes)

/-- What a program finds around it. -/
structure Setting where
  files : Files
  here : Path
  env : List (List Char × List Char)
  process : Nat
  parent : Nat
  mask : Nat

namespace Setting

/-- A path as the program sees it. -/
def seen (s : Setting) (path : List Char) : Path := Machine.seenAt s.here path

/-- What a path stands for. -/
def entry? (s : Setting) (path : List Char) : Option Entry := (s.files.entry (s.seen path)).toOption

/-- Whether a path stands for a directory. -/
def isDirectory (s : Setting) (path : List Char) : Bool := s.entry? path == some .directory

/-- The text of a file. -/
def read? (s : Setting) (path : List Char) : Except IoFault (List Char) := (s.files.read (s.seen path)).map ofBytes

end Setting

/-- What a program is to do: to come to its verdict at once or when it has read its sources, of which a dash is its input;
to copy; to sleep; to write the same again and again; to be a shell; or to let another program take its place, which
ignores some signals and about which it complains if there is none, or to watch over another program. -/
inductive Job where
  | finish (v : Verdict)
  | digest (sources : List (List Char)) (judge : List Source → Verdict) (enough : List UInt8 → Bool)
  | copy (sources targets : List (List Char)) (extending : Bool) (limit : Limit)
  | transfer (source target : Option (List Char)) (size : Nat) (blocks : Option Nat) (extending isQuiet : Bool)
  | sleep (length : Option Nat)
  | again (line : List Char)
  | shell (args : List (List Char))
  | exec (env : List (List Char × List Char)) (args : List (List Char)) (ignored : List Nat) (complaint : List Char)
  | watch (length signal : Nat) (args : List (List Char))

/-- The verdict of a program that has written something to its output. -/
def said (text : List Char) (code : Nat) : Verdict := { writes := [(1, toBytes text)], code }

/-- The verdict of a program that complains. -/
def complained (text : List Char) (code : Nat) : Verdict := { writes := [(2, toBytes text)], code }

/-- What a program does that has to read all of its sources; without any it reads its input. -/
def Job.reading (sources : List (List Char)) (judge : List Source → Verdict) : Job :=
  .digest (if sources.isEmpty then [['-']] else sources) judge fun _ => false

/-- What is said about a file that cannot be used: the fault's own words without its number. -/
def faultText (fault : IoFault) : List Char :=
  ((fault.message.splitOn " (os error").headD "").toList

/-- The complaint of a program about one of its operands, with a hint. -/
def misused (program : String) (what : List Char) (code : Nat) : Job :=
  .finish (complained ((program ++ ": ").toList ++ what ++
    ("\nTry '" ++ program ++ " --help' for more information.\n").toList) code)

/-- What is quoted in a complaint. -/
def quoted (s : List Char) : List Char := '\'' :: s ++ ['\'']

/-- What a program says: its name and the parts of the message. -/
def message (program : String) (parts : List (List Char)) : List Char :=
  (program ++ ": ").toList ++ parts.flatten ++ ['\n']

/-- The lines of a text; whether the last of them has an end comes with them. -/
def lines (s : List Char) : List (List Char) × Bool :=
  let pieces := s.foldr (fun c pieces =>
    if c == '\n' then [] :: pieces
    else match pieces with
      | piece :: rest => (c :: piece) :: rest
      | [] => [[c]]) [[]]
  if pieces.getLast? == some [] then (pieces.dropLast, true) else (pieces, false)

/-- Lines as a text; each gets an end. -/
def unlines (ls : List (List Char)) : List Char := ls.flatMap (· ++ ['\n'])

/-! ### Options -/

/-- Options with their values, in their order, and the arguments that are none. -/
structure Options where
  flags : List (Char × List Char) := []
  operands : List (List Char) := []
  deriving Repr, Inhabited

namespace Options

/-- Whether there is an option. -/
def has (o : Options) (letter : Char) : Bool := o.flags.any (·.1 == letter)

/-- The value of the last option of a letter. -/
def value? (o : Options) (letter : Char) : Option (List Char) := (o.flags.reverse.find? (·.1 == letter)).map (·.2)

/-- The values of all options of a letter. -/
def values (o : Options) (letter : Char) : List (List Char) := (o.flags.filter (·.1 == letter)).map (·.2)

end Options

/-- Which options a program has: letters, letters with a value, and long names for letters. `inOrder` says that nothing
after the first argument that is no option is one. -/
structure OptionTable where
  program : String
  plain : String := ""
  valued : String := ""
  long : List (String × Char) := []
  inOrder : Bool := false

namespace OptionTable

private def hint (t : OptionTable) : List Char :=
  ("\nTry '" ++ t.program ++ " --help' for more information.\n").toList

/-- The options in a cluster of letters. The value of one may be the rest of the cluster or the next argument. -/
private def cluster (t : OptionTable) : List Char → List (List Char) →
    Except (List Char) (List (Char × List Char) × List (List Char))
  | [], args => .ok ([], args)
  | c :: rest, args =>
    if t.valued.toList.contains c then
      match rest, args with
      | [], [] => .error ((t.program ++ ": option requires an argument -- '").toList ++ [c, '\''] ++ t.hint)
      | [], value :: args => .ok ([(c, value)], args)
      | value, args => .ok ([(c, value)], args)
    else if t.plain.toList.contains c then do
      let (more, args) ← cluster t rest args
      return ((c, []) :: more, args)
    else .error ((t.program ++ ": invalid option -- '").toList ++ [c, '\''] ++ t.hint)

/-- A long option. -/
private def named (t : OptionTable) (arg : List Char) (args : List (List Char)) :
    Except (List Char) ((Char × List Char) × List (List Char)) :=
  let name := String.ofList (arg.takeWhile (· != '='))
  let value := arg.drop (name.length + 1)
  let hasValue := arg.contains '='
  match (t.long.find? (·.1 == name)) <|> (t.long.find? fun (n, _) => n.startsWith name) with
  | some (_, c) =>
    if t.valued.toList.contains c then
      if hasValue then .ok ((c, value), args)
      else match args with
        | value :: args => .ok ((c, value), args)
        | [] => .error ((t.program ++ ": option '--" ++ name ++ "' requires an argument").toList ++ t.hint)
    else .ok ((c, value), args)
  | none => .error ((t.program ++ ": unrecognized option '--").toList ++ arg ++ ['\''] ++ t.hint)

/-- Reads the arguments of a program. -/
private def readFrom (t : OptionTable) : Nat → List (List Char) → Except (List Char) Options
  | 0, operands => .ok { operands }
  | _, [] => .ok {}
  | fuel + 1, arg :: args =>
    match arg with
    | ['-', '-'] => .ok { operands := args }
    | '-' :: '-' :: name => do
      let (flag, args) ← t.named name args
      let o ← readFrom t fuel args
      return { o with flags := flag :: o.flags }
    | '-' :: c :: rest => do
      let (flags, args) ← t.cluster (c :: rest) args
      let o ← readFrom t fuel args
      return { o with flags := flags ++ o.flags }
    | _ =>
      if t.inOrder then .ok { operands := arg :: args }
      else do
        let o ← readFrom t fuel args
        return { o with operands := arg :: o.operands }

/-- Reads the arguments of a program, or says what is wrong with them. -/
def read (t : OptionTable) (args : List (List Char)) : Except (List Char) Options := t.readFrom (args.length + 1) args

/-- What a program does with its options; it ends with a code if they are wrong. -/
def job (t : OptionTable) (code : Nat) (args : List (List Char)) (f : Options → Job) : Job :=
  match t.read args with
  | .ok o => f o
  | .error message => .finish (complained message code)

end OptionTable

/-- What a program writes of the texts of its sources, with a complaint about each that cannot be read. -/
def eachSource (program : String) (sources : List Source) (f : List Char → List Char → List Char) : Verdict :=
  let writes : Writes := sources.map fun source =>
    match source.content with
    | .ok bytes => (1, toBytes (f source.name (ofBytes bytes)))
    | .error fault => (2, toBytes (message program [source.name, ": ".toList, faultText fault]))
  let failed := sources.any fun source => match source.content with
    | .ok _ => false
    | .error _ => true
  { writes, code := if failed then 1 else 0 }

/-- What a program writes of all its sources as one text, with a complaint about each that cannot be read. -/
def wholeText (program : String) (code : Nat) (sources : List Source) (f : List Char → Verdict) : Verdict :=
  let complaints : Writes := sources.filterMap fun source =>
    match source.content with
    | .ok _ => none
    | .error fault => some (2, toBytes (message program [source.name, ": ".toList, faultText fault]))
  let all := sources.flatMap fun source => match source.content with
    | .ok bytes => ofBytes bytes
    | .error _ => []
  let v := f all
  { v with writes := complaints ++ v.writes, code := if complaints.isEmpty then v.code else max code v.code }

/-- The number that a whole text is. -/
def number? (s : List Char) : Option Nat :=
  if !s.isEmpty && s.all Char.isDigit then (String.ofList s).toNat? else none

/-- The number that a text is, perhaps with a sign. -/
def integer? (s : List Char) : Option Int :=
  match s with
  | '-' :: rest => (number? rest).map fun n => -(n : Int)
  | '+' :: rest => (number? rest).map fun n => (n : Int)
  | _ => (number? s).map fun n => (n : Int)

/-- The number that a text is, perhaps with a letter or two that multiply it. -/
def sized? (s : List Char) : Option Nat :=
  let digits := s.takeWhile Char.isDigit
  match number? digits, String.ofList (s.drop digits.length) with
  | some n, "" => some n
  | some n, "c" => some n
  | some n, "w" => some (2 * n)
  | some n, "b" => some (512 * n)
  | some n, "k" => some (1024 * n)
  | some n, "K" => some (1024 * n)
  | some n, "kB" => some (1000 * n)
  | some n, "M" => some (1048576 * n)
  | some n, "MB" => some (1000000 * n)
  | some n, "G" => some (1073741824 * n)
  | _, _ => none

end Attendant.Host.Tools

import Attendant.Host.Tools.Numbers

/-!
# Programs that run programs

Programs that let another take their place under other circumstances, that watch over another, or that run another for
what they read. And those that wait, or say where they are.
-/

namespace Attendant.Host.Tools

open Shell (ofBytes toBytes)

/-! ### Taking the place -/

/-- The environment with what assignments at the start of some arguments say, and the other arguments. -/
private def assigned (env : List (List Char × List Char)) :
    List (List Char) → List (List Char × List Char) × List (List Char)
  | arg :: rest =>
    if arg.contains '=' then
      let (name, value) := arg.span (· != '=')
      assigned (env.filter (·.1 != name) ++ [(name, value.drop 1)]) rest
    else (env, arg :: rest)
  | [] => (env, [])

/-- The program that runs another in another environment, or shows the environment. -/
def env (setting : Setting) (args : List (List Char)) : Job :=
  let table : OptionTable :=
    { program := "env", plain := "i0v", valued := "uCS", inOrder := true
      long := [("ignore-environment", 'i'), ("unset", 'u'), ("null", '0')] }
  table.job 125 args fun o =>
    let isBare := o.has 'i' || o.operands.head? == some ['-']
    let operands := if o.operands.head? == some ['-'] then o.operands.drop 1 else o.operands
    let start := if isBare then [] else setting.env.filter fun (name, _) => !(o.values 'u').contains name
    match assigned start operands with
    | (env, []) =>
      let stop := if o.has '0' then '\x00' else '\n'
      .finish (said (env.flatMap fun (name, value) => name ++ '=' :: value ++ [stop]) 0)
    | (env, program :: rest) => .exec env (program :: rest) [] ("env: ".toList ++ quoted program)

/-- The program that shows variables. -/
def printenv (setting : Setting) (args : List (List Char)) : Job :=
  let names := args.filter fun a => a.head? != some '-'
  if names.isEmpty then .finish (said (setting.env.flatMap fun (name, value) => name ++ '=' :: value ++ ['\n']) 0)
  else
    let values := names.filterMap fun name => setting.env.lookup name
    .finish (said (unlines values) (if values.length = names.length then 0 else 1))

/-- The programs that run another in much the same way. -/
def inPlace (setting : Setting) (program : String) (args : List (List Char)) : Job :=
  let isNice := program == "nice"
  let isStdbuf := program == "stdbuf"
  let table : OptionTable :=
    { program, plain := if isNice || isStdbuf then "" else "cfw", valued := if isNice then "n" else if isStdbuf then "ioe" else ""
      long := [("adjustment", 'n'), ("output", 'o'), ("input", 'i'), ("error", 'e'), ("wait", 'w'), ("fork", 'f')]
      inOrder := true }
  table.job 125 args fun o =>
    match o.operands with
    | [] => if isNice then .finish (said "0\n".toList 0) else misused program "missing operand".toList 125
    | name :: _ =>
      let complaint := match program with
        | "nohup" => "nohup: failed to run command ".toList ++ quoted name
        | "setsid" => "setsid: failed to execute ".toList ++ name
        | "stdbuf" => "stdbuf: failed to run command ".toList ++ quoted name
        | _ => (program ++ ": ").toList ++ quoted name
      .exec setting.env o.operands (if program == "nohup" then [1] else []) complaint

/-! ### Time -/

/-- A length of time in nanoseconds: a decimal with a unit; nothing inside where it has no end. -/
private def interval? (s : List Char) : Option (Option Nat) :=
  let lower := String.ofList (s.map Char.toLower)
  if lower == "inf" || lower == "infinity" then some none
  else
    let whole := s.takeWhile Char.isDigit
    let (decimals, rest) : List Char × List Char := match s.drop whole.length with
      | '.' :: rest => (rest.takeWhile Char.isDigit, rest.dropWhile Char.isDigit)
      | rest => ([], rest)
    let number (digits : List Char) : Nat := ((String.ofList digits).toNat?).getD 0
    let nanos := number whole * 1000000000 + number ((decimals ++ List.replicate 9 '0').take 9)
    if whole.isEmpty && decimals.isEmpty then none
    else match rest with
      | [] => some (some nanos)
      | ['s'] => some (some nanos)
      | ['m'] => some (some (60 * nanos))
      | ['h'] => some (some (3600 * nanos))
      | ['d'] => some (some (86400 * nanos))
      | _ => none

/-- The program that sleeps. -/
def sleep (args : List (List Char)) : Job :=
  OptionTable.job { program := "sleep" } 1 args fun o =>
    if o.operands.isEmpty then misused "sleep" "missing operand".toList 1
    else
      let wrong := o.operands.filter fun a => (interval? a).isNone
      if wrong.isEmpty then
        .sleep ((o.operands.filterMap interval?).foldl (fun total length => return (← total) + (← length)) (some 0))
      else .finish (complained ((wrong.flatMap fun a => "sleep: invalid time interval ".toList ++ quoted a ++ ['\n']) ++
          "Try 'sleep --help' for more information.\n".toList) 1)

/-- The program that ends another after a while. -/
def timeout (args : List (List Char)) : Job :=
  let table : OptionTable :=
    { program := "timeout", plain := "fpv", valued := "sk", inOrder := true
      long := [("signal", 's'), ("kill-after", 'k'), ("foreground", 'f'), ("preserve-status", 'p')] }
  table.job 125 args fun o =>
    match o.operands with
    | length :: program :: rest =>
      match interval? length, Signals.ofLongText? ((o.value? 's').getD "TERM".toList) with
      | none, _ => misused "timeout" ("invalid time interval ".toList ++ quoted length) 125
      | _, none => misused "timeout" (quoted ((o.value? 's').getD []) ++ ": invalid signal".toList) 125
      | some length, some signal =>
        match length with
        | none => .watch 0 signal (program :: rest)
        | some length => .watch length signal (program :: rest)
    | _ => misused "timeout" "missing operand".toList 125

/-- The moment at which programs that ask for the time find themselves, in seconds, with its parts. -/
private def dateParts : List (Char × String) :=
  [('s', "1700000000"), ('Y', "2023"), ('m', "11"), ('d', "14"), ('H', "22"), ('M', "13"), ('S', "20"), ('N', "000000000"),
    ('F', "2023-11-14"), ('T', "22:13:20"), ('y', "23"), ('j', "318"), ('Z', "UTC"), ('z', "+0000"), ('n', "\n"), ('%', "%")]

private def filledDate : List Char → List Char
  | '%' :: c :: rest => ((dateParts.lookup c).map String.toList).getD ['%', c] ++ filledDate rest
  | c :: rest => c :: filledDate rest
  | [] => []

/-- The program that shows the time, which stands still. -/
def date (args : List (List Char)) : Job :=
  let format := match args.find? fun a => a.head? == some '+' with
    | some ('+' :: format) => format
    | _ => "Tue Nov 14 %H:%M:%S UTC %Y".toList
  .finish (said (filledDate format ++ ['\n']) 0)

/-! ### What is around -/

/-- The program that shows its arguments as they are, unless it is told to replace escapes. -/
def echo (args : List (List Char)) : Job :=
  let isOption (a : List Char) : Bool := match a with
    | '-' :: c :: rest => (c :: rest).all fun c => "neE".toList.contains c
    | _ => false
  let options := (args.takeWhile isOption).flatten
  let line := Shell.unwords (args.dropWhile isOption)
  let replaces := (options.reverse.find? fun c => c == 'e' || c == 'E') == some 'e'
  let (shown, goesOn) := if replaces then Shell.unescape (line.length + 1) line else (line, true)
  .finish (said (shown ++ if options.contains 'n' || !goesOn then [] else ['\n']) 0)

/-- The program that follows a format. -/
def printf (args : List (List Char)) : Job :=
  if args.isEmpty then misused "printf" "missing operand".toList 1
  else
    let printed := Shell.printf args
    .finish { writes := [(1, toBytes printed.text)] ++ printed.complaints.map fun c => (2, toBytes (message "printf" [c]))
              code := min 1 printed.code }

/-- The program that decides a condition, under one of its two names. -/
def test (setting : Setting) (hasBracket : Bool) (args : List (List Char)) : Job :=
  let (code, complaint) := Shell.Test.outcome (Executable.facts setting.files setting.here) hasBracket args
  match complaint with
  | some text => .finish (complained (message (if hasBracket then "[" else "test") [text]) code)
  | none => .finish { code }

/-- The program that shows where other programs are. -/
def which (setting : Setting) (args : List (List Char)) : Job :=
  let search := (setting.env.lookup "PATH".toList).getD Executable.defaultSearch
  let found := args.filterMap fun name =>
    match Executable.search? setting.files setting.here search name with
    | .ok path => if (Executable.check setting.files (path.seenFrom setting.here)).toOption.isSome then some (ofBytes path.bytes) else none
    | .error _ => none
  .finish (said (unlines found) (if found.length = args.length && !args.isEmpty then 0 else 1))

/-- The program that sends signals. -/
def kill (args : List (List Char)) : Job :=
  let send (signal : Option Nat) (name : List Char) (targets : List (List Char)) : Job :=
    match signal with
    | none => misused "kill" (quoted name ++ ": invalid signal".toList) 1
    | some signal => .finish { signals := (targets.filterMap number?).map fun n => (n, signal) }
  match args with
  | [] => misused "kill" "no process ID specified".toList 1
  | ['-', 'l'] :: _ => .finish (said (unlines ((List.range' 1 31).map fun n => (Signals.name n).toList)) 0)
  | ['-', 's'] :: name :: targets => send (Signals.ofLongText? name) name targets
  | ('-' :: name) :: targets => send (Signals.ofLongText? name) name targets
  | targets => send (some Signals.terminate) [] targets

/-- What `id` shows. -/
private def identity (args : List (List Char)) : List Char :=
  let letters := (args.filter fun a => a.head? == some '-').flatten
  if letters.contains 'u' || letters.contains 'g' || letters.contains 'G' then
    (if letters.contains 'n' then "root\n" else "0\n").toList
  else "uid=0(root) gid=0(root) groups=0(root)\n".toList

/-- The programs that show one thing that does not change. -/
def known? (setting : Setting) (program : String) (args : List (List Char)) : Option Job :=
  let shown (s : String) : Option Job := some (.finish (said (s ++ "\n").toList 0))
  match program with
  | "pwd" => some (.finish (said (ofBytes setting.here.bytes ++ ['\n']) 0))
  | "whoami" => shown "root"
  | "hostname" => shown "localhost"
  | "nproc" => shown "1"
  | "id" => some (.finish (said (identity args) 0))
  | "uname" => shown (if args == [['-', 'm']] then "x86_64" else "Linux")
  | "tty" => some (.finish (said "not a tty\n".toList 1))
  | _ => none

/-! ### Blocks -/

/-- The program that copies blocks. -/
def dd (args : List (List Char)) : Job :=
  let operands := args.map fun a => let (name, value) := a.span (· != '='); (String.ofList name, value.drop 1)
  let value? (name : String) : Option (List Char) := (operands.reverse.find? (·.1 == name)).map (·.2)
  let size? (name : String) : Option Nat := (value? name).bind sized?
  let names := ["if", "of", "bs", "ibs", "obs", "cbs", "count", "skip", "seek", "status", "conv", "iflag", "oflag"]
  match args.find? fun a => !(a.contains '=' && names.contains (String.ofList (a.takeWhile (· != '=')))) with
  | some a => misused "dd" ("unrecognized operand ".toList ++ quoted a) 1
  | none =>
    match ["bs", "ibs", "count"].filterMap fun name => (value? name).filter fun v => (sized? v).isNone with
    | v :: _ => .finish (complained (message "dd" ["invalid number: ".toList, quoted v]) 1)
    | [] =>
      let size := ((size? "bs") <|> size? "ibs").getD 512
      .transfer (value? "if") (value? "of") size ((value? "count").bind sized?)
        ((value? "conv").any fun v => (String.ofList v).splitOn "," |>.contains "notrunc") (value? "status" == some "none".toList)

/-! ### Running a program for what is read -/

/-- The arguments in a text: quotes and backslashes protect blanks. -/
private def argumentsIn : List Char → Option (List Char) → Option Char → List (List Char)
  | [], held, _ => held.toList
  | '\\' :: c :: rest, held, none => argumentsIn rest (some (held.getD [] ++ [c])) none
  | c :: rest, held, some quote =>
    if c == quote then argumentsIn rest held none else argumentsIn rest (some (held.getD [] ++ [c])) (some quote)
  | c :: rest, held, none =>
    if c == '\'' || c == '"' then argumentsIn rest (some (held.getD [])) (some c)
    else if c == ' ' || c == '\t' || c == '\n' then held.toList ++ argumentsIn rest none none
    else argumentsIn rest (some (held.getD [] ++ [c])) none

/-- Some in a row. -/
private def groupsOf (n : Nat) : Nat → List (List Char) → List (List (List Char))
  | 0, _ => []
  | _, [] => []
  | fuel + 1, items => items.take (max 1 n) :: groupsOf n fuel (items.drop (max 1 n))

/-- A text with another in the place of a third. -/
private def replaced (old new : List Char) : Nat → List Char → List Char
  | 0, s => s
  | fuel + 1, s =>
    if !old.isEmpty && old.isPrefixOf s then new ++ replaced old new fuel (s.drop old.length)
    else match s with
      | c :: rest => c :: replaced old new fuel rest
      | [] => []

/-- The program that runs another with the arguments that it reads. -/
def xargs (setting : Setting) (args : List (List Char)) : Job :=
  let table : OptionTable :=
    { program := "xargs", plain := "0rtpx", valued := "nILdPs", inOrder := true
      long := [("null", '0'), ("no-run-if-empty", 'r'), ("max-args", 'n'), ("max-lines", 'L'), ("delimiter", 'd')] }
  table.job 1 args fun o =>
    .reading [] fun sources =>
      let text := sources.flatMap fun source => match source.content with
        | .ok bytes => ofBytes bytes
        | .error _ => []
      let items : List (List Char) := match o.value? 'I', o.value? 'd' with
        | some _, _ => ((lines text).1.map (List.dropWhile Shell.isBlank)).filter (· != [])
        | none, some [d] => (lines (text.map fun c => if c == d then '\n' else c)).1
        | none, _ => if o.has '0' then (lines (text.map fun c => if c == '\x00' then '\n' else c)).1 else argumentsIn text none none
      let command := if o.operands.isEmpty then ["echo".toList] else o.operands
      let runs : List (List (List Char)) := match o.value? 'I' with
        | some mark => items.map fun item => command.map fun (a : List Char) => replaced mark item (a.length + 1) a
        | none =>
          if items.isEmpty then (if o.has 'r' then [] else [command])
          else
            let size := ((o.value? 'n').bind number?).getD items.length
            let size := if o.has 'L' then ((o.value? 'L').bind number?).getD 1 else size
            (groupsOf size items.length items).map (command ++ ·)
      let word (s : List Char) : Shell.Word := [.text s true]
      let simple (assigns : List (List Char × Shell.Word)) (words : List (List Char)) : Shell.Command :=
        .simple 1 assigns (words.map word) []
      let code := "code".toList
      let step (run : List (List Char)) : Shell.Command :=
        .either (.subshell (simple [] ("exec".toList :: run))) (simple [(code, word "123".toList)] [])
      let ending : Shell.Command :=
        .simple 1 [] [word "exit".toList, [.param code (.orElse .stand true (word ['0'])) true]] []
      { shell := some
          { process := setting.process, name := "xargs".toList, bindings := Shell.State.imported setting.env
            work := (runs.map fun run => .run (step run) true []) ++ [.run ending true []] } }

end Attendant.Host.Tools

import Attendant.Host.Shell.Pattern
import Attendant.Host.Tools.Basic

/-!
# Programs for files

Programs that make, copy, move, remove and show files and directories, and those that take paths apart.
-/

namespace Attendant.Host.Tools

open Shell (ofBytes toBytes)

/-! ### Parts of paths -/

/-- A path without slashes at its end. -/
private def withoutSlashes (path : List Char) : List Char :=
  let s := (path.reverse.dropWhile (· == '/')).reverse
  if s.isEmpty && !path.isEmpty then ['/'] else s

/-- The last part of a path. -/
private def lastPart (path : List Char) : List Char :=
  let s := withoutSlashes path
  if s == ['/'] then s else (s.reverse.takeWhile (· != '/')).reverse

/-- The path of the directory that holds what a path names. -/
private def directoryPart (path : List Char) : List Char :=
  let s := withoutSlashes path
  if s == ['/'] then s
  else
    let start := (s.reverse.dropWhile (· != '/')).reverse
    if start.isEmpty then ['.'] else withoutSlashes start

private def missingOperand (program what : String) (code : Nat) : Job :=
  .finish (complained (program ++ ": missing " ++ what ++ "\nTry '" ++ program ++
    " --help' for more information.\n").toList code)

/-- The program that shows the last part of a path. -/
def basename (args : List (List Char)) : Job :=
  OptionTable.job { program := "basename", plain := "az", valued := "s", inOrder := true } 1 args fun o =>
    let many := o.has 'a' || o.has 's'
    let suffix := (o.value? 's') <|> (if many then none else o.operands[1]?)
    let shown (path : List Char) : List Char :=
      let name := lastPart path
      match suffix with
      | some s =>
        if s.length < name.length && s == name.drop (name.length - s.length) then name.take (name.length - s.length)
        else name
      | none => name
    match o.operands with
    | [] => missingOperand "basename" "operand" 1
    | path :: more =>
      if !many && 1 < more.length then
        .finish (complained ("basename: extra operand ".toList ++ quoted (more[1]?.getD []) ++
          "\nTry 'basename --help' for more information.\n".toList) 1)
      else .finish (said (unlines ((if many then path :: more else [path]).map shown)) 0)

/-- The program that shows the directory part of a path. -/
def dirname (args : List (List Char)) : Job :=
  OptionTable.job { program := "dirname", plain := "z" } 1 args fun o =>
    if o.operands.isEmpty then missingOperand "dirname" "operand" 1
    else .finish (said (unlines (o.operands.map directoryPart)) 0)

/-- The programs that show the full path of something. -/
def realpath (setting : Setting) (program : String) (args : List (List Char)) : Job :=
  OptionTable.job { program, plain := "femnqszvL" } 1 args fun o =>
    if o.operands.isEmpty then missingOperand program "operand" 1
    else if program == "readlink" && o.flags.isEmpty then .finish { code := 1 }
    else
      let results := o.operands.map fun path =>
        match setting.files.find (setting.seen path) with
        | .ok (name, some _) => Except.ok (ofBytes (Path.ofParts name).bytes)
        | .ok (name, none) => if o.has 'e' then .error (path, Fault.notFound) else .ok (ofBytes (Path.ofParts name).bytes)
        | .error fault => .error (path, fault)
      .finish
        { writes := results.map fun
            | .ok path => (1, toBytes (path ++ ['\n']))
            | .error (path, fault) => (2, toBytes (message program [path, ": ".toList, faultText fault]))
          code := if results.all (fun r => r.toOption.isSome) then 0 else 1 }

/-! ### Changes -/

/-- The files after some changes, with what has been said about them and how many have failed. -/
private structure Changes where
  files : Files
  writes : Writes := []
  failures : Nat := 0

private def Changes.verdict (c : Changes) : Verdict :=
  { writes := c.writes, code := if c.failures = 0 then 0 else 1, change := some fun _ => c.files }

/-- Makes one change after the other; `complaint` is what is said about one that fails. -/
private def changeAll {α : Type} (items : List α) (files : Files) (change : Files → α → Except IoFault Files)
    (complaint : α → IoFault → List Char) : Changes :=
  items.foldl (fun c item =>
    match change c.files item with
    | .ok files => { c with files }
    | .error fault =>
      { c with writes := c.writes ++ [(2, toBytes (complaint item fault))], failures := c.failures + 1 }) { files }

/-- The program that removes files. -/
def rm (setting : Setting) (args : List (List Char)) : Job :=
  OptionTable.job { program := "rm", plain := "rRfvdiI", long := [("recursive", 'r'), ("force", 'f'), ("verbose", 'v')] } 1 args
    fun o =>
    if o.operands.isEmpty then (if o.has 'f' then .finish {} else missingOperand "rm" "operand" 1)
    else
      let isRecursive := o.has 'r' || o.has 'R'
      let remove (fs : Files) (name : List Char) : Except IoFault Files :=
        let path := setting.seen name
        match fs.entry path with
        | .ok .directory => if isRecursive then fs.removeDirectory path else if o.has 'd' then fs.removeEmpty path
            else .error Fault.isDirectory
        | .ok (.file _) => fs.remove path
        | .error fault => if o.has 'f' && fault == Fault.notFound then .ok fs else .error fault
      .finish (changeAll o.operands setting.files remove fun name fault =>
        message "rm" ["cannot remove ".toList, quoted name, ": ".toList, faultText fault]).verdict

/-- The program that removes empty directories. -/
def rmdir (setting : Setting) (args : List (List Char)) : Job :=
  OptionTable.job { program := "rmdir", plain := "pv" } 1 args fun o =>
    if o.operands.isEmpty then missingOperand "rmdir" "operand" 1
    else .finish (changeAll o.operands setting.files (fun fs name => fs.removeEmpty (setting.seen name)) fun name fault =>
      message "rmdir" ["failed to remove ".toList, quoted name, ": ".toList, faultText fault]).verdict

/-- The program that makes directories. -/
def mkdir (setting : Setting) (args : List (List Char)) : Job :=
  OptionTable.job { program := "mkdir", plain := "pv", valued := "m", long := [("parents", 'p'), ("mode", 'm')] } 1 args
    fun o =>
    if o.operands.isEmpty then missingOperand "mkdir" "operand" 1
    else .finish (changeAll o.operands setting.files (fun fs name =>
        if o.has 'p' then fs.makeDirectories (setting.seen name) else fs.makeDirectory (setting.seen name))
      fun name fault =>
        message "mkdir" ["cannot create directory ".toList, quoted name, ": ".toList, faultText fault]).verdict

/-- The program that makes files that are not there yet. -/
def touch (setting : Setting) (args : List (List Char)) : Job :=
  OptionTable.job { program := "touch", plain := "acmfh", valued := "dtr" } 1 args fun o =>
    if o.operands.isEmpty then missingOperand "touch" "file operand" 1
    else .finish (changeAll o.operands setting.files (fun fs name =>
        let path := setting.seen name
        match fs.entry path with
        | .ok _ => .ok fs
        | .error _ =>
          if o.has 'c' then .ok fs else (fs.openToWrite path true (0o666 - (setting.mask &&& 0o666))).map (·.1))
      fun name fault => message "touch" ["cannot touch ".toList, quoted name, ": ".toList, faultText fault]).verdict

/-- Where a file goes that is given to a path: below it if it is a directory. -/
private def destination (setting : Setting) (fs : Files) (source target : List Char) : List Char :=
  match fs.entry (setting.seen target) with
  | .ok .directory => withoutSlashes target ++ '/' :: lastPart source
  | _ => target

/-- Copies what a full name stands for, and everything below it. -/
private def copyTree (fs : Files) (source target : List (List UInt8)) : Files :=
  let held := fs.names.filter fun (n, _) => source.isPrefixOf n
  held.foldl (fun fs (n, e) =>
    let path := Path.ofParts (target ++ n.drop source.length)
    match e with
    | .directory => (fs.makeDirectories path).toOption.getD fs
    | .file number =>
      let body := fs.body number
      (((fs.write path body.bytes).toOption).map (·.permit path body.mode)).getD fs) fs

/-- A copy of one file or directory. -/
private def copyOne (setting : Setting) (isRecursive : Bool) (fs : Files) (source target : List Char) :
    Except IoFault Files := do
  let path := setting.seen source
  let other := setting.seen (destination setting fs source target)
  match ← fs.entry path with
  | .file n =>
    let isNew := !fs.exists? other
    let fs ← fs.write other (fs.body n).bytes
    return if isNew then fs.permit other (fs.body n).mode else fs
  | .directory =>
    if !isRecursive then throw ⟨"Omitted", ""⟩
    let (name, _) ← fs.find path
    let (otherName, _) ← fs.find other
    return copyTree ((fs.makeDirectories other).toOption.getD fs) name otherName

/-- The target and the sources of a program that has both. -/
private def targetOf (o : Options) : Option (List Char × List (List Char)) :=
  match o.value? 't' with
  | some target => some (target, o.operands)
  | none =>
    match o.operands.getLast?, o.operands.dropLast with
    | some target, first :: rest => some (target, first :: rest)
    | _, _ => none

private def withoutTarget (program : String) (o : Options) : Job :=
  match o.operands with
  | [] => missingOperand program "file operand" 1
  | first :: _ =>
    .finish (complained ((program ++ ": missing destination file operand after ").toList ++ quoted first ++
      ("\nTry '" ++ program ++ " --help' for more information.\n").toList) 1)

/-- The program that copies files. -/
def cp (setting : Setting) (args : List (List Char)) : Job :=
  OptionTable.job { program := "cp", plain := "rRafpvnuidPLHT", valued := "tS", long := [("recursive", 'r'),
    ("archive", 'a'), ("force", 'f'), ("verbose", 'v')] } 1 args fun o =>
    match targetOf o with
    | none => withoutTarget "cp" o
    | some (target, sources) =>
      if 1 < sources.length && !setting.isDirectory target then
        .finish (complained (message "cp" ["target ".toList, quoted target, ": ".toList,
          faultText (if (setting.entry? target).isSome then Fault.notDirectory else Fault.notFound)]) 1)
      else
        let isRecursive := o.has 'r' || o.has 'R' || o.has 'a'
        .finish (changeAll sources setting.files (fun fs source =>
            if o.has 'n' && fs.exists? (setting.seen (destination setting fs source target)) then .ok fs
            else copyOne setting isRecursive fs source target)
          fun source fault =>
            if fault.kind == "Omitted" then message "cp" ["-r not specified; omitting directory ".toList, quoted source]
            else if (setting.entry? source).isNone then
              message "cp" ["cannot stat ".toList, quoted source, ": ".toList, faultText fault]
            else message "cp" ["cannot create regular file ".toList,
              quoted (destination setting setting.files source target), ": ".toList, faultText fault]).verdict

/-- The program that gives files other names. -/
def mv (setting : Setting) (args : List (List Char)) : Job :=
  OptionTable.job { program := "mv", plain := "fvniuT", valued := "tS" } 1 args fun o =>
    match targetOf o with
    | none => withoutTarget "mv" o
    | some (target, sources) =>
      if 1 < sources.length && !setting.isDirectory target then
        .finish (complained (message "mv" ["target ".toList, quoted target, ": ".toList,
          faultText (if (setting.entry? target).isSome then Fault.notDirectory else Fault.notFound)]) 1)
      else .finish (changeAll sources setting.files (fun fs source =>
          let other := setting.seen (destination setting fs source target)
          if o.has 'n' && fs.exists? other then .ok fs else fs.rename (setting.seen source) other)
        fun source fault =>
          if (setting.entry? source).isNone then
            message "mv" ["cannot stat ".toList, quoted source, ": ".toList, faultText fault]
          else message "mv" ["cannot move ".toList, quoted source, " to ".toList,
            quoted (destination setting setting.files source target), ": ".toList, faultText fault]).verdict

/-- The program that gives files further names. -/
def ln (setting : Setting) (args : List (List Char)) : Job :=
  OptionTable.job { program := "ln", plain := "sfnvrT", valued := "t" } 1 args fun o =>
    match targetOf o with
    | none => withoutTarget "ln" o
    | some (target, sources) =>
      .finish (changeAll sources setting.files (fun fs source =>
          let other := destination setting fs source target
          let path := if o.has 's' && source.head? != some '/' then
              setting.seen (directoryPart other ++ '/' :: source) else setting.seen source
          let fs := if o.has 'f' then ((fs.remove (setting.seen other)).toOption).getD fs else fs
          fs.link path (setting.seen other))
        fun source fault =>
          if !o.has 's' && (setting.entry? source).isNone then
            message "ln" ["failed to access ".toList, quoted source, ": ".toList, faultText fault]
          else message "ln" ["failed to create ".toList, (if o.has 's' then "symbolic link " else "hard link ").toList,
            quoted (destination setting setting.files source target), ": ".toList, faultText fault]).verdict

/-- Permissions after a change that is written with letters: who, an operator, and what. -/
private def symbolicMode (old : Nat) (clause : List Char) : Option Nat :=
  let who := clause.takeWhile fun c => "ugoa".toList.contains c
  match clause.drop who.length with
  | op :: what =>
    if !("+-=".toList.contains op) || !(what.all fun c => "rwxXst".toList.contains c) then none
    else
      let bits := (if what.contains 'r' then 4 else 0) + (if what.contains 'w' then 2 else 0) +
        (if what.contains 'x' || (what.contains 'X' && old &&& 0o111 != 0) then 1 else 0)
      let all := who.isEmpty || who.contains 'a'
      let user := if all || who.contains 'u' then 64 else 0
      let group := if all || who.contains 'g' then 8 else 0
      let others := if all || who.contains 'o' then 1 else 0
      let change := bits * (user + group + others)
      let whole := 7 * (user + group + others)
      let change := if who.isEmpty && what.contains 'w' then change &&& 0o755 else change
      some (match op with
        | '+' => old ||| change
        | '-' => old - (old &&& change)
        | _ => (old - (old &&& whole)) ||| change)
  | [] => none

/-- Permissions after a change: an octal number, or clauses with commas between them. -/
def newMode (old : Nat) (s : List Char) : Option Nat :=
  if s.all (fun c => '0' ≤ c && c ≤ '7') && !s.isEmpty then some (s.foldl (fun n c => 8 * n + (c.toNat - 48)) 0)
  else ((String.ofList s).splitOn ",").foldlM (fun old clause => symbolicMode old clause.toList) old

/-- The program that changes permissions. -/
def chmod (setting : Setting) (args : List (List Char)) : Job :=
  let isMode (a : List Char) : Bool := match a with
    | '-' :: c :: _ => "rwxXst".toList.contains c
    | _ => false
  let options := args.filter fun a => !isMode a
  let modes := args.filter isMode
  OptionTable.job { program := "chmod", plain := "Rvfc" } 1 options fun o =>
    match modes ++ o.operands with
    | [] => missingOperand "chmod" "operand" 1
    | [mode] => .finish (complained ("chmod: missing operand after ".toList ++ quoted mode ++
        "\nTry 'chmod --help' for more information.\n".toList) 1)
    | mode :: names =>
      if (newMode 0 mode).isNone then
        .finish (complained ("chmod: invalid mode: ".toList ++ quoted mode ++
          "\nTry 'chmod --help' for more information.\n".toList) 1)
      else .finish (changeAll names setting.files (fun fs name => do
          let path := setting.seen name
          match ← fs.entry path with
          | .file n => return fs.permit path ((newMode (fs.body n).mode mode).getD 0)
          | .directory => return fs)
        fun name fault => message "chmod" ["cannot access ".toList, quoted name, ": ".toList, faultText fault]).verdict

/-- The program that makes a file with a new name. -/
def mktemp (setting : Setting) (args : List (List Char)) : Job :=
  OptionTable.job { program := "mktemp", plain := "dqut", valued := "p" } 1 args fun o =>
    let template := o.operands.head?.getD "tmp.XXXXXXXXXX".toList
    let count := (template.reverse.takeWhile (· == 'X')).length
    let number := Shell.digits (setting.files.bodies.length + setting.files.names.length)
    let fill := List.replicate (count - number.length) 'A' ++ number.drop (number.length - count)
    let name := template.take (template.length - count) ++ fill
    let inTmp := o.operands.isEmpty || o.has 't' || o.has 'p'
    let dir := (o.value? 'p').getD ((setting.env.lookup "TMPDIR".toList).getD "/tmp".toList)
    let path := if inTmp then dir ++ '/' :: name else name
    let made := if o.has 'd' then setting.files.makeDirectory (setting.seen path)
      else (setting.files.openToWrite (setting.seen path) false 0o600).map (·.1)
    match made with
    | .ok files => .finish { said (path ++ ['\n']) 0 with change := some fun _ => files }
    | .error fault => .finish (complained (message "mktemp" ["failed to create file via template ".toList,
        quoted path, ": ".toList, faultText fault]) 1)

/-- The program that sets the size of files. -/
def truncate (setting : Setting) (args : List (List Char)) : Job :=
  OptionTable.job { program := "truncate", plain := "c", valued := "sr", long := [("size", 's')] } 1 args fun o =>
    let size (old : Nat) : Nat := match o.value? 's' with
      | some ('+' :: n) => old + (sized? n).getD 0
      | some ('-' :: n) => old - (sized? n).getD 0
      | some n => (sized? n).getD 0
      | none => 0
    .finish (changeAll o.operands setting.files (fun fs name => do
        let path := setting.seen name
        let (fs, n) ← fs.openToWrite path true (0o666 - (setting.mask &&& 0o666))
        return fs.setBody n fun b =>
          let count := size b.bytes.length
          { b with bytes := b.bytes.take count ++ List.replicate (count - b.bytes.length) 0 })
      fun name fault => message "truncate" ["cannot open ".toList, quoted name, " for writing: ".toList,
        faultText fault]).verdict

/-! ### Views -/

private def lsTable : OptionTable :=
  { program := "ls", plain := "1aAldRrtFpSchkLnQuUxXBCfgGiImNoqsvZ"
    long := [("all", 'a'), ("almost-all", 'A'), ("directory", 'd'), ("recursive", 'R'), ("color", 'k')] }

/-- The permissions of something, as letters. -/
private def modeText (isDirectory : Bool) (mode : Nat) : List Char :=
  let bit (n : Nat) (c : Char) : Char := if mode / n % 2 = 1 then c else '-'
  (if isDirectory then 'd' else '-') ::
    [bit 256 'r', bit 128 'w', bit 64 'x', bit 32 'r', bit 16 'w', bit 8 'x', bit 4 'r', bit 2 'w', bit 1 'x']

/-- The program that shows what directories hold. -/
def ls (setting : Setting) (args : List (List Char)) : Job :=
  lsTable.job 2 args fun o =>
    let operands := if o.operands.isEmpty then [['.']] else o.operands
    let fs := setting.files
    let sorted (names : List (List Char)) : List (List Char) :=
      let ordered := names.mergeSort fun a b => Files.inOrder (a.map Char.toNat) (b.map Char.toNat)
      if o.has 'r' then ordered.reverse else ordered
    let size (path : List Char) : Nat := ((fs.size (setting.seen path)).toOption).getD 0
    let shown (dir : List Char) (name : List Char) : List Char :=
      let path := if dir.isEmpty then name else dir ++ '/' :: name
      let isDirectory := setting.isDirectory path
      let mode := match setting.entry? path with
        | some (.file n) => (fs.body n).mode
        | _ => 0o755
      let mark := if (o.has 'F' || o.has 'p') && isDirectory then ['/']
        else if o.has 'F' && mode &&& 0o111 != 0 then ['*'] else []
      if o.has 'l' then modeText isDirectory mode ++ " 1 root root ".toList ++ Shell.digits (size path) ++
        " Jan  1 00:00 ".toList ++ name ++ mark ++ ['\n']
      else name ++ mark ++ ['\n']
    let held (path : List Char) : List (List Char) :=
      match fs.find (setting.seen path) with
      | .ok (name, some .directory) =>
        let names := (fs.list name).map ofBytes
        let dots := if o.has 'a' then [['.'], ['.', '.']] else []
        sorted (dots ++ names.filter fun n => o.has 'a' || o.has 'A' || n.head? != some '.')
      | _ => []
    let rec deep : Nat → List Char → List (List Char)
      | 0, _ => []
      | fuel + 1, path =>
        path :: if o.has 'R' then
          ((held path).filter fun n => n != ['.'] && n != ['.', '.'] && setting.isDirectory (path ++ '/' :: n)).flatMap
            fun n => deep fuel (path ++ '/' :: n)
        else []
    let missing := operands.filterMap fun path =>
      match fs.entry (setting.seen path) with
      | .ok _ => none
      | .error fault => some (2, toBytes (message "ls" ["cannot access ".toList, quoted path, ": ".toList, faultText fault]))
    let there := sorted (operands.filter fun path => (setting.entry? path).isSome)
    let plain := there.filter fun path => o.has 'd' || !setting.isDirectory path
    let dirs := (there.filter fun path => !o.has 'd' && setting.isDirectory path).flatMap (deep 64)
    let total (path : List Char) : List Char := if o.has 'l' then
        let _ := path
        "total 0\n".toList else []
    let titled := 1 < operands.length || o.has 'R'
    let blocks := (if plain.isEmpty then [] else [plain.flatMap (shown [])]) ++ dirs.map fun path =>
      (if titled then path ++ ":\n".toList else []) ++ total path ++ (held path).flatMap (shown path)
    .finish
      { writes := missing ++ [(1, toBytes (blocks.intersperse ['\n']).flatten)], code := if missing.isEmpty then 0 else 2 }

/-- What is asked of a file that is found. -/
private structure Wanted where
  names : List (List Char) := []
  kind : Option Char := none
  least : Nat := 0
  most : Nat := 1000
  deletes : Bool := false
  quits : Bool := false

private def wanted : List (List Char) → Wanted → Wanted
  | [], w => w
  | op :: rest, w =>
    match String.ofList op, rest with
    | "-name", value :: rest => wanted rest { w with names := value :: w.names }
    | "-iname", value :: rest => wanted rest { w with names := value :: w.names }
    | "-type", value :: rest => wanted rest { w with kind := value.head? }
    | "-maxdepth", value :: rest => wanted rest { w with most := (number? value).getD 1000 }
    | "-mindepth", value :: rest => wanted rest { w with least := (number? value).getD 0 }
    | "-delete", rest => wanted rest { w with deletes := true }
    | "-quit", rest => wanted rest { w with quits := true }
    | _, rest => wanted rest w

/-- The program that finds files below directories. -/
def find (setting : Setting) (args : List (List Char)) : Job :=
  let paths := args.takeWhile fun a => a.head? != some '-' && a != ['('] && a != ['!']
  let w := wanted (args.drop paths.length) {}
  let fs := setting.files
  let rec below : Nat → Nat → List Char → List (List Char)
    | 0, _, _ => []
    | fuel + 1, depth, path =>
      match fs.find (setting.seen path) with
      | .ok (name, some e) =>
        let isDirectory := e == .directory
        let chosen := w.least ≤ depth && (w.names.all fun n =>
            Shell.matchesPattern (Shell.patternOf (n.map (·, false))) (lastPart path)) &&
          match w.kind with
          | some 'd' => isDirectory
          | some 'f' => !isDirectory
          | some _ => false
          | none => true
        (if chosen then [path] else []) ++
          if isDirectory && depth < w.most then
            (fs.list name).flatMap fun n =>
              below fuel (depth + 1) (if path.getLast? == some '/' then path ++ ofBytes n else path ++ '/' :: ofBytes n)
          else []
      | _ => []
  let paths := if paths.isEmpty then [['.']] else paths
  let missing := paths.filter fun path => (setting.entry? path).isNone
  let found := paths.flatMap (below 64 0)
  let found := if w.quits then found.take 1 else found
  let complaints : Writes := missing.map fun path =>
    (2, toBytes (message "find" [quoted path, ": No such file or directory".toList]))
  .finish
    { writes := complaints ++ (if w.deletes then [] else [(1, toBytes (unlines found))])
      code := if missing.isEmpty then 0 else 1
      change := if w.deletes then
          some fun fs => found.reverse.foldl (fun fs path =>
            ((fs.remove (setting.seen path)).toOption <|> (fs.removeEmpty (setting.seen path)).toOption).getD fs) fs
        else none }

/-- The program that shows what is known of a file. -/
def stat (setting : Setting) (args : List (List Char)) : Job :=
  OptionTable.job { program := "stat", plain := "L", valued := "c", long := [("format", 'c'), ("printf", 'c')] } 1 args fun o =>
    let format := (o.value? 'c').getD "%n %s".toList
    let rec fill (path : List Char) (isDirectory : Bool) (size mode : Nat) : List Char → List Char
      | '%' :: c :: rest =>
        (match c with
          | 's' => Shell.digits size
          | 'n' => path
          | 'a' => Nat.toDigits 8 mode
          | 'A' => modeText isDirectory mode
          | 'F' => (if isDirectory then "directory" else if size = 0 then "regular empty file" else "regular file").toList
          | 'U' => "root".toList
          | 'G' => "root".toList
          | '%' => ['%']
          | _ => ['0']) ++ fill path isDirectory size mode rest
      | c :: rest => c :: fill path isDirectory size mode rest
      | [] => []
    let results := o.operands.map fun path =>
      match setting.files.entry (setting.seen path) with
      | .ok .directory => Except.ok (fill path true Files.directorySize 0o755 format)
      | .ok (.file n) => .ok (fill path false (setting.files.body n).bytes.length (setting.files.body n).mode format)
      | .error fault => .error (path, fault)
    .finish
      { writes := results.map fun
          | .ok text => (1, toBytes (text ++ ['\n']))
          | .error (path, fault) =>
            (2, toBytes (message "stat" ["cannot statx ".toList, quoted path, ": ".toList, faultText fault]))
        code := if results.all (fun r => r.toOption.isSome) then 0 else 1 }

/-- The program that compares two files byte by byte. -/
def cmp (args : List (List Char)) : Job :=
  OptionTable.job { program := "cmp", plain := "slb", valued := "n" } 2 args fun o =>
    .digest o.operands (fun sources =>
      match sources with
      | [a, b] =>
        match a.content, b.content with
        | .ok x, .ok y =>
          let same := (x.zip y).takeWhile fun (p, q) => p == q
          let line := (same.filter fun (p, _) => p == 10).length + 1
          if x == y then {}
          else if o.has 's' then { code := 1 }
          else if same.length = min x.length y.length then
            let short := if x.length < y.length then a.name else b.name
            let atEnd := if same.isEmpty then " which is empty".toList
              else " after byte ".toList ++ Shell.digits same.length ++
                (if (x.take same.length).getLast? == some 10 then ", line ".toList ++ Shell.digits (line - 1)
                  else ", in line ".toList ++ Shell.digits line)
            complained ("cmp: EOF on ".toList ++ short ++ atEnd ++ ['\n']) 1
          else said (a.name ++ ' ' :: b.name ++ " differ: byte ".toList ++ Shell.digits (same.length + 1) ++
            ", line ".toList ++ Shell.digits line ++ ['\n']) 1
        | .error fault, _ => complained (message "cmp" [a.name, ": ".toList, faultText fault]) 2
        | _, .error fault => complained (message "cmp" [b.name, ": ".toList, faultText fault]) 2
      | _ => complained (message "cmp" ["missing operand".toList]) 2) fun _ => false

/-- The program that tells whether two files differ. -/
def diff (args : List (List Char)) : Job :=
  OptionTable.job { program := "diff", plain := "qsuNrabBiwy" } 2 args fun o =>
    .digest o.operands (fun sources =>
      match sources with
      | [a, b] =>
        match a.content, b.content with
        | .ok x, .ok y =>
          if x == y then {}
          else if o.has 'q' then said ("Files ".toList ++ a.name ++ " and ".toList ++ b.name ++ " differ\n".toList) 1
          else
            let xs := (lines (ofBytes x)).1
            let ys := (lines (ofBytes y)).1
            let start := ((xs.zip ys).takeWhile fun (p, q) => p == q).length
            let stop := (((xs.drop start).reverse.zip (ys.drop start).reverse).takeWhile fun (p, q) => p == q).length
            let old := (xs.drop start).take (xs.length - start - stop)
            let new := (ys.drop start).take (ys.length - start - stop)
            let range (from' count : Nat) : List Char :=
              if count = 0 then Shell.digits start
              else if count = 1 then Shell.digits from' else Shell.digits from' ++ ',' :: Shell.digits (from' + count - 1)
            let op := if old.isEmpty then 'a' else if new.isEmpty then 'd' else 'c'
            said (range (start + 1) old.length ++ op :: range (start + 1) new.length ++ ['\n'] ++
              (old.flatMap fun l => "< ".toList ++ l ++ ['\n']) ++
              (if op == 'c' then "---\n".toList else []) ++ new.flatMap fun l => "> ".toList ++ l ++ ['\n']) 1
        | .error fault, _ => complained (message "diff" [a.name, ": ".toList, faultText fault]) 2
        | _, .error fault => complained (message "diff" [b.name, ": ".toList, faultText fault]) 2
      | _ => complained (message "diff" ["missing operand".toList]) 2) fun _ => false

end Attendant.Host.Tools

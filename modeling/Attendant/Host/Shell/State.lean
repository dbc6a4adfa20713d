import Attendant.Host.Shell.Parser
import Attendant.Host.Shell.Pattern
import Attendant.Termination

/-!
# The state of a shell

A shell works off a stack of things to do, with its variables, its functions, and what it does when a signal comes.
-/

namespace Attendant.Host.Shell

/-- A variable; an exported one is handed on to programs. One that has no value is known for what it is all the same. -/
structure Variable where
  name : List Char
  value : Option (List Char)
  exported : Bool := false
  isReadOnly : Bool := false
  deriving DecidableEq, Repr, Inhabited

/-- How far the reading of options has come: the text of options, and what is left of the argument that is being read. -/
structure OptionPlace where
  index : Nat := 1
  rest : List Char := []
  deriving DecidableEq, Repr, Inhabited

/-- Something to do. The signs of loops, calls and files stay on the stack while what is in them is done. A command is
`tested` if its failure does not end a shell that ends at failures; `outputs` are those of the commands in its words, as
far as they have been run; one that `isShown` has been shown before it is run. What is written for a command of the shell has its name with it. -/
inductive Work where
  | run (command : Command) (tested : Bool) (outputs : List (List Char))
  | start (line : Nat) (assigns : List (List Char × Word)) (args : List (List Char)) (isShown tested : Bool)
      (outputs : List (List Char))
  | script (input : Input) (tested : Bool)
  | emit (descriptor : Nat) (bytes : List UInt8) (speaker : List Char)
  | line (names : List (List Char)) (raw : Bool) (held : List Glyph) (escaped : Bool)
  | await (process : Nat)
  | awaitOutput (process : Nat)
  | wait (processes : List Nat) (isQuiet : Bool)
  | collect (descriptor : Nat) (held : List UInt8) (process : Nat)
  | decide (onSuccess onFailure : Option Command) (tested : Bool)
  | negate
  | test (positive : Bool) (condition body : Command) (tested : Bool) (code : Nat)
  | loop (positive : Bool) (condition body : Command) (tested : Bool)
  | each (name : List Char) (values : List (List Char)) (body : Command) (tested : Bool)
  | restore (moved : List (Nat × Option Nat))
  | call (params : List (List Char)) (place : OptionPlace) (locals : List Variable)
  | file
  | forget (bindings : List Variable)
  | code (n : Nat)
  | trapped (n : Nat)
  | named (command : List Char)
  | check

/-- A shell. `traps` says what it does at which signal, where no text means that the signal is ignored; the number nought
stands for its own end. `substituted` is how the last command has ended whose output has become part of a word. A shell
that is itself a child lets the last program that it runs take its place. `command` is the command of the shell that reads
what is run, if one does. -/
structure State where
  name : List Char := ['s', 'h']
  process : Nat
  params : List (List Char) := []
  bindings : List Variable := []
  functions : List (List Char × Command) := []
  aliases : List (List Char × List Char) := []
  options : List Char := []
  traps : List (Nat × List Char) := []
  caught : List Nat := []
  last : Nat := 0
  substituted : Option Nat := none
  job : Option Nat := none
  jobs : List Nat := []
  isChild : Bool := false
  command : List Char := []
  line : Nat := 1
  place : OptionPlace := {}
  work : List Work := []

/-- The options of a shell, with their letters, in the order in which they are shown. -/
def optionNames : List (String × Option Char) :=
  [("errexit", some 'e'), ("noglob", some 'f'), ("ignoreeof", some 'I'), ("interactive", some 'i'),
    ("monitor", some 'm'), ("noexec", some 'n'), ("stdin", some 's'), ("xtrace", some 'x'), ("verbose", some 'v'),
    ("vi", some 'V'), ("emacs", some 'E'), ("noclobber", some 'C'), ("allexport", some 'a'), ("notify", some 'b'),
    ("nounset", some 'u'), ("privileged", some 'p'), ("nolog", none), ("debug", none)]

namespace State

/-- The variables that come from an environment. -/
def imported (env : List (List Char × List Char)) : List Variable :=
  env.filterMap fun (name, value) => if isName name then some ⟨name, some value, true, false⟩ else none

/-- Whether an option is set. -/
def has (s : State) (option : Char) : Bool := s.options.contains option

/-- Sets an option, or takes it back. -/
def setOption (s : State) (option : Char) (isOn : Bool) : State :=
  let others := s.options.filter (· != option)
  { s with options := if isOn then option :: others else others }

/-- A variable by its name. -/
def binding? (s : State) (name : List Char) : Option Variable := s.bindings.find? (·.name == name)

/-- The value of a variable or parameter; the parameters as a whole are not among them. -/
def value? (s : State) (name : List Char) : Option (List Char) :=
  match name with
  | ['?'] => some (digits s.last)
  | ['#'] => some (digits s.params.length)
  | ['$'] => some (digits s.process)
  | ['!'] => s.job.map digits
  | ['-'] => some ((optionNames.filterMap (·.2)).reverse.filter s.has)
  | ['0'] => some s.name
  | ['@'] => none
  | ['*'] => none
  | _ =>
    match (String.ofList name).toNat? with
    | some 0 => some s.name
    | some n => s.params[n - 1]?
    | none => (s.binding? name).bind (·.value)

/-- The characters at which fields are taken apart. -/
def separators (s : State) : List Char := (s.value? "IFS".toList).getD " \t\n".toList

/-- Changes what is known of a variable. -/
def modifyBinding (s : State) (name : List Char) (f : Variable → Variable) : State :=
  if (s.binding? name).isSome then
    { s with bindings := s.bindings.map fun v => if v.name == name then f v else v }
  else { s with bindings := s.bindings ++ [f ⟨name, none, false, false⟩] }

/-- Gives a variable a value. -/
def assign (s : State) (name value : List Char) : State :=
  let s := s.modifyBinding name fun v => { v with value := some value, exported := v.exported || s.has 'a' }
  if name == "OPTIND".toList then { s with place := { index := ((String.ofList value).toNat?).getD 1 } } else s

/-- Whether a variable must keep its value. -/
def isReadOnly (s : State) (name : List Char) : Bool := ((s.binding? name).map (·.isReadOnly)).getD false

/-- The bindings that programs see. -/
def exports (s : State) : List (List Char × List Char) :=
  s.bindings.filterMap fun v => if v.exported then v.value.map (v.name, ·) else none

/-- Something to do before all else. -/
def push (s : State) (w : Work) : State := { s with work := w :: s.work }

/-- The code of the last command. -/
def withLast (s : State) (code : Nat) : State := { s with last := code }

/-- A message before all else. -/
def say (s : State) (text : List Char) : State :=
  if text.isEmpty then s else s.push (.emit 2 (toBytes text) [])

/-- A message of the shell: with its name, the line, and the command that it comes from. -/
def complaint (s : State) (text : List Char) : List Char :=
  let command := if s.command.isEmpty then [] else s.command ++ ": ".toList
  s.name ++ ": ".toList ++ digits s.line ++ ": ".toList ++ command ++ text ++ ['\n']

/-- A message of the shell before all else. -/
def complain (s : State) (text : List Char) : State := s.say (s.complaint text)

/-- Whether something is a sign that redirections have to be undone. -/
def isRestore : Work → Bool
  | .restore _ => true
  | _ => false

/-- Puts variables back as they have been. -/
def putBack (s : State) (old : List Variable) : State :=
  old.foldl (fun s v =>
    if v.name == ['-'] then { s with options := v.value.getD [] } else s.modifyBinding v.name fun _ => v) s

/-- A variable as it is, so that it can be put back. -/
def saved (s : State) (name : List Char) : Variable := (s.binding? name).getD ⟨name, none, false, false⟩

/-- Nothing more is done, but redirections are undone. -/
def abandon (s : State) (code : Nat) : State := { s with work := s.work.filter isRestore, last := code }

/-- The shell ends, as soon as it has said why. -/
def die (s : State) (text : List Char) : State := (s.abandon 2).complain text

end State

end Attendant.Host.Shell

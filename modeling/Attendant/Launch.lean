import Attendant.Path
import Attendant.Text.Blank
import Attendant.Value.Record

/-!
# How a worker is launched

The command of a worker, its arguments, and where it runs. A worker may be started directly or by a shell; a shell is
handed one line, in which arguments that it would take apart stand between double quotes.
-/

namespace Attendant

/-- The description of a worker process. -/
structure Launch where
  command : String
  args : List String := []
  shell : Bool := false
  cwd : Option Path := none
  deriving DecidableEq, Repr, Inhabited

namespace Launch

/-- Why a description cannot be used. -/
inductive Fault where
  | emptyCommand
  deriving DecidableEq, Repr

/-- How a fault is told to the user. -/
def Fault.message : Fault → String
  | .emptyCommand => "worker command must not be empty"

/-- A command has to have a character that is not blank. -/
def check (l : Launch) : Except Fault Unit :=
  if Text.isBlank l.command then .error .emptyCommand else .ok ()

/-- Whether an argument needs quotes to reach the worker in one piece. -/
def needsQuotes (arg : List Char) : Bool := arg.isEmpty || arg.any fun c => Text.isBlankChar c || c = '"'

/-- An argument between quotes; a quote in it is escaped. -/
def quoteArg (arg : List Char) : List Char :=
  '"' :: (arg.flatMap fun c => if c = '"' then ['\\', '"'] else [c]) ++ ['"']

/-- An argument as it stands on the line. -/
def lineArg (arg : List Char) : List Char := if needsQuotes arg then quoteArg arg else arg

/-- The line for the shell: the command as it is, then each argument after a blank. -/
def line (l : Launch) : String :=
  String.ofList (l.command.toList ++ l.args.flatMap fun arg => ' ' :: lineArg arg.toList)

/-- The fields of the record that describes a launch. -/
def slots : List Record.Slot := [⟨"command", false⟩, ⟨"args", true⟩, ⟨"shell", true⟩, ⟨"cwd", true⟩]

/-- Reads a launch from the values of its fields. -/
def ofFields? : List (Option Value) → Option Launch
  | [command, args, shell, cwd] => do
    return {
      command := ← command >>= Value.str?
      args := ← Value.orDefault Value.strings? [] args
      shell := ← Value.orDefault Value.bool? false shell
      cwd := (← Value.optionally Value.str? cwd).map Path.ofString }
  | _ => none

end Launch

end Attendant

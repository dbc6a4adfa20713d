/-!
# Signals

The names of signals, by their numbers, and how an end by one of them is announced.
-/

namespace Attendant.Host.Signals

/-- The names of the signals, in the order of their numbers, with what is said when one has ended a process. -/
private def table : List (String × String) :=
  [("EXIT", ""), ("HUP", "Hangup"), ("INT", "Interrupt"), ("QUIT", "Quit"), ("ILL", "Illegal instruction"),
    ("TRAP", "Trace/breakpoint trap"), ("ABRT", "Aborted"), ("BUS", "Bus error"), ("FPE", "Floating point exception"),
    ("KILL", "Killed"), ("USR1", "User defined signal 1"), ("SEGV", "Segmentation fault"),
    ("USR2", "User defined signal 2"), ("PIPE", "Broken pipe"), ("ALRM", "Alarm clock"), ("TERM", "Terminated"),
    ("16", "Stack fault"), ("CHLD", "Child exited"), ("CONT", "Continued"), ("STOP", "Stopped (signal)"),
    ("TSTP", "Stopped"), ("TTIN", "Stopped (tty input)"), ("TTOU", "Stopped (tty output)"),
    ("URG", "Urgent I/O condition"), ("XCPU", "CPU time limit exceeded"), ("XFSZ", "File size limit exceeded"),
    ("VTALRM", "Virtual timer expired"), ("PROF", "Profiling timer expired"), ("WINCH", "Window changed"),
    ("IO", "I/O possible"), ("PWR", "Power failure"), ("SYS", "Bad system call"), ("32", "Unknown signal 32"),
    ("33", "Unknown signal 33")]

/-- How many signals there are; the number nought, which stands for none, counts. -/
def count : Nat := 65

/-- The first of the signals without a fixed use. -/
private def firstFree : Nat := 34

/-- The last of the signals without a fixed use. -/
private def lastFree : Nat := 64

/-- The name of a signal. Those without a fixed use are counted from both ends. -/
def name (n : Nat) : String :=
  match table[n]? with
  | some (name, _) => name
  | none =>
    let fromStart := n - firstFree
    let fromEnd := lastFree - n
    if fromStart = 0 then "RTMIN"
    else if fromEnd = 0 then "RTMAX"
    else if fromStart < 16 then "RTMIN+" ++ toString fromStart
    else "RTMAX-" ++ toString fromEnd

/-- What is said when a signal has ended a process. -/
def announcement (n : Nat) : String :=
  match table[n]? with
  | some (_, text) => text
  | none => "Real-time signal " ++ toString (n - firstFree)

/-- The signal of a name, whatever its case. -/
def ofName? (s : List Char) : Option Nat :=
  (List.range count).find? fun n => (name n).toList == s.map Char.toUpper

/-- The signal of a number or a name. -/
def ofText? (s : List Char) : Option Nat :=
  if !s.isEmpty && s.all Char.isDigit then ((String.ofList s).toNat?).filter (· < count) else ofName? s

/-- The signal of a number or a name, which may begin with three letters that all of them share. -/
def ofLongText? (s : List Char) : Option Nat :=
  match s.map Char.toUpper with
  | 'S' :: 'I' :: 'G' :: rest => ofName? rest
  | _ => ofText? s

/-- The signals that do nothing to a process that does not ask for them. -/
def isHarmless (n : Nat) : Bool := [17, 18, 23, 28].contains n

/-- The signals that stop a process until it is told to go on. -/
def isStop (n : Nat) : Bool := [19, 20, 21, 22].contains n

/-- The signal that tells a process to go on. -/
def goOn : Nat := 18

/-- The signal that ends a process whatever it does. -/
def kill : Nat := 9

/-- The signal that asks a process to end. -/
def terminate : Nat := 15

/-- The signal for those that write where nobody reads. -/
def brokenPipe : Nat := 13

end Attendant.Host.Signals

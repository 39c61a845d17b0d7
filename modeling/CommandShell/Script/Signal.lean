import CommandShell.Script.Number

/-!
# Signals

The signals by their numbers and names, and what they do to a process that does not expect
them.
-/

namespace CommandShell.Script.Signal

/-- The names of the signals from one on, up to those that are left to programs. -/
def standardNames : List String :=
  ["HUP", "INT", "QUIT", "ILL", "TRAP", "ABRT", "BUS", "FPE", "KILL", "USR1", "SEGV", "USR2",
    "PIPE", "ALRM", "TERM", "16", "CHLD", "CONT", "STOP", "TSTP", "TTIN", "TTOU", "URG", "XCPU",
    "XFSZ", "VTALRM", "PROF", "WINCH", "IO", "PWR", "SYS", "32", "33", "RTMIN"]

/-- The number after the last signal. -/
def limit : Nat := 65

/-- The name of a signal; zero stands for the end of a process. -/
def name (n : Nat) : Text :=
  if n = 0 then "EXIT".toList
  else match standardNames[n - 1]? with
    | some s => s.toList
    | none =>
      if n < 50 then "RTMIN+".toList ++ Text.ofNat (n - 34)
      else if n < 64 then "RTMAX-".toList ++ Text.ofNat (64 - n)
      else "RTMAX".toList

/-- The signal that a number is. -/
def ofNumber? (t : Text) : Option Nat :=
  if t ≠ [] && t.all Text.isDigit then
    let n := digitsValue 10 t
    if n < limit then some n else none
  else none

/-- The signal of a number or a name, from a given one on, in whatever case the name is
written. -/
def ofText? (least : Nat) (t : Text) : Option Nat :=
  if t ≠ [] && t.all Text.isDigit then ofNumber? t
  else (List.range limit).find? fun n => least ≤ n && name n == t.map Char.toUpper

/-- How the end of a process by a signal is reported. -/
def report (n : Nat) : Text :=
  let standard := ["Hangup", "Interrupt", "Quit", "Illegal instruction", "Trace/breakpoint trap",
    "Aborted", "Bus error", "Floating point exception", "Killed", "User defined signal 1",
    "Segmentation fault", "User defined signal 2", "Broken pipe", "Alarm clock", "Terminated",
    "Stack fault", "Child exited", "Continued", "Stopped (signal)", "Stopped",
    "Stopped (tty input)", "Stopped (tty output)", "Urgent I/O condition",
    "CPU time limit exceeded", "File size limit exceeded", "Virtual timer expired",
    "Profiling timer expired", "Window changed", "I/O possible", "Power failure",
    "Bad system call"]
  match standard[n - 1]? with
  | some s => s.toList
  | none =>
    if n < 34 then "Unknown signal ".toList ++ Text.ofNat n
    else "Real-time signal ".toList ++ Text.ofNat (n - 34)

/-- The signals whose effect on another process is not reported. -/
def unreported : List Nat := [2, 13]

/-- The signals that do nothing to a process that does not expect them. -/
def harmless : List Nat := [0, 17, 18, 23, 28]

/-- The signals that always reach a process. -/
def unavoidable : List Nat := [9, 19]

end CommandShell.Script.Signal

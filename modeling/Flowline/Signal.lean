/-!
# Signals

The signals that processes send each other, by number and by name.
-/

namespace Flowline.Signal

/-- The names of the signals from 1 on. -/
def names : List String := ["HUP", "INT", "QUIT", "ILL", "TRAP", "ABRT", "BUS", "FPE", "KILL", "USR1", "SEGV",
  "USR2", "PIPE", "ALRM", "TERM", "STKFLT", "CHLD", "CONT", "STOP", "TSTP", "TTIN", "TTOU", "URG", "XCPU",
  "XFSZ", "VTALRM", "PROF", "WINCH", "IO", "PWR", "SYS"]

def name? (n : Nat) : Option String := if n = 0 then none else names[n - 1]?

/-- The last signal there is. -/
def last : Nat := 64

/-- The signal of a number or of a name in capital or small letters. -/
def parse? (s : String) : Option Nat :=
  let cs := s.toList
  if cs.all Char.isDigit && ! cs.isEmpty then
    let n := cs.foldl (fun n c => 10 * n + (c.toNat - '0'.toNat)) 0
    if n ≤ last then some n else none
  else
    let capital := String.ofList (cs.map Char.toUpper)
    (names.findIdx? (· = capital)).map (· + 1)

/-- What a shell says of a command that a signal has ended. -/
def description (n : Nat) : String :=
  let known := ["Hangup", "Interrupt", "Quit", "Illegal instruction", "Trace/breakpoint trap", "Aborted",
    "Bus error", "Floating point exception", "Killed", "User defined signal 1", "Segmentation fault",
    "User defined signal 2", "Broken pipe", "Alarm clock", "Terminated", "Stack fault", "Child exited",
    "Continued", "Stopped (signal)", "Stopped", "Stopped (tty input)", "Stopped (tty output)",
    "Urgent I/O condition", "CPU time limit exceeded", "File size limit exceeded", "Virtual timer expired",
    "Profiling timer expired", "Window changed", "I/O possible", "Power failure", "Bad system call"]
  if 34 ≤ n then "Real-time signal " ++ toString (n - 34)
  else if n = 0 then "Unknown signal 0"
  else known[n - 1]?.getD ("Unknown signal " ++ toString n)

/-- What a process is told of by a signal without minding it. -/
def isIgnored (n : Nat) : Bool := [17, 18, 23, 28].contains n

/-- Stops a process instead of ending it. -/
def suspends (n : Nat) : Bool := [19, 20, 21, 22].contains n

def hup : Nat := 1

def int : Nat := 2

def quit : Nat := 3

def pipe : Nat := 13

def kill : Nat := 9

def term : Nat := 15

def child : Nat := 17

def cont : Nat := 18

def stop : Nat := 19

end Flowline.Signal

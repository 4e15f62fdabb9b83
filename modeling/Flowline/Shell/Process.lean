import Flowline.Shell.Syntax
import Flowline.Shell.System

/-!
# Processes

The state of a process.  Most of it is that of a shell; a program that is no shell uses only its descriptors,
its variables and its directory.
-/

namespace Flowline.Shell

structure Var where
  /-- There is none after `export` alone. -/
  value : Option String
  exported : Bool
  readonly : Bool

/-- Processes that a shell has started together and may wait for. -/
structure Job where
  number : Nat
  /-- The processes in order, with the way in which each has ended. -/
  processes : List (Nat × Option Ending)
  /-- Its status has been asked for. -/
  waited : Bool

namespace Job

def isDone (j : Job) : Bool := j.processes.all fun (_, e) => e.isSome

/-- How the last process of a job has ended. -/
def ending? (j : Job) : Option Ending := j.processes.getLast?.bind Prod.snd

def last (j : Job) : Nat := (j.processes.getLast?.map Prod.fst).getD 0

/-- Notes that a process has ended. -/
def note (j : Job) (pid : Nat) (e : Ending) : Job :=
  { j with processes := j.processes.map fun (n, old) => if n = pid then (n, some e) else (n, old) }

end Job

/-- What a function is to restore when it returns. -/
inductive Saved
  | var (name : String) (old : Option Var)
  | flags (old : List Char)

/-- How much of something a process may use, and how far it can raise that by itself. -/
structure Limit where
  soft : Option Nat
  hard : Option Nat

structure Process where
  pid : Nat
  parent : Nat
  /-- The parameter `$`, which is that of the outermost shell. -/
  shell : Nat
  /-- The parameter `0`. -/
  name : String
  args : List String
  vars : Table Var
  functions : List (String × Command)
  aliases : List (String × String)
  /-- The names of programs that the shell has run. -/
  hashed : List String
  status : Nat
  fds : List (Nat × Handle)
  /-- What is kept open besides the descriptors, to be restored later or to be read. -/
  held : List Handle
  directory : String
  /-- The directory by the names by which the shell has come there. -/
  logical : String
  umask : Nat
  /-- The limits that have been changed, by their letters. -/
  limits : List (Char × Limit)
  /-- How far the process stands back behind others. -/
  niceness : Int
  /-- The jobs, the latest first. -/
  jobs : List Job
  /-- The last process that was started in the background. -/
  lastJob : Option Nat
  /-- The line of the current command. -/
  line : Nat
  /-- The line that the reading of the commands has reached, which is beyond the current command. -/
  reached : Nat
  /-- The command of the shell that is running, which its messages begin with. -/
  command : Option String
  /-- What to do at a signal, or at the end, which has number 0. -/
  traps : List (Nat × String)
  /-- The signals that are ignored. -/
  ignored : List Nat
  /-- Those that were ignored from the start, whose handling cannot be changed. -/
  fixed : List Nat
  flags : List Char
  /-- What the functions that have not returned are to restore, the innermost first. -/
  scopes : List (List Saved)
  /-- The number of loops around the current command. -/
  loops : Nat
  /-- The number of functions that have not returned. -/
  calls : Nat
  /-- Which parameter and which letter of it `getopts` looks at next; no letter if a new parameter comes. -/
  options : Nat × Option Nat
  /-- The status of the last command whose output stands in the words of the current command. -/
  substituted : Nat
  /-- The status that a shell goes back to when what it does at a signal or at its end is done. -/
  kept : Option Nat
  /-- What a program or a builtin command has yet to write to its standard output, and its size. -/
  buffer : String × Nat
  /-- What has prevented it from writing. -/
  writeError : Option OsError

/-- The limits that nobody has changed: a few are finite. -/
def Limit.usual (letter : Char) : Limit :=
  match letter with
  | 's' => ⟨some 8192, none⟩
  | 'c' => ⟨some 0, none⟩
  | 'l' => ⟨some 8192, some 8192⟩
  | 'n' => ⟨some 1048576, some 1048576⟩
  | 'r' => ⟨some 0, some 0⟩
  | _ => ⟨none, none⟩

/-- Why the commands that follow are not run. -/
inductive Halt
  | broke (levels : Nat)
  | continued (levels : Nat)
  /-- From a function or a file. -/
  | returned
  /-- By the command `exit`, so that a status that was kept counts. -/
  | exited
  /-- Because there is nothing more to do. -/
  | ended
  /-- By an error that ends a script. -/
  | failed

namespace Process

/-- The signals that a process handles itself. -/
def caught (p : Process) : List Nat :=
  p.traps.filterMap fun (n, action) => if n ≠ 0 && action ≠ "" && ! p.fixed.contains n then some n else none

/-- A limit, by its letter. -/
def limitOf (p : Process) (letter : Char) : Limit := (p.limits.lookup letter).getD (.usual letter)

/-- Whether anything is to be done at a signal or at the end. -/
def hasTraps (p : Process) : Bool := p.traps.any fun (_, action) => action ≠ ""

/-- Everything that a process keeps open. -/
def handles (p : Process) : List Handle := p.fds.map Prod.snd ++ p.held

def hasFlag (p : Process) (c : Char) : Bool := p.flags.contains c

def handle? (p : Process) (fd : Nat) : Option Handle := p.fds.lookup fd

/-- Makes a descriptor refer to something, or to nothing. -/
def bind (p : Process) (fd : Nat) (h : Option Handle) : Process :=
  let others := p.fds.filter (·.1 ≠ fd)
  { p with fds := match h with
      | some h => (fd, h) :: others
      | none => others }

/-- The value of a variable. -/
def value? (p : Process) (name : String) : Option String := (p.vars.get? name).bind Var.value

/-- The variables that programs are given. -/
def environment (p : Process) : Table String :=
  p.vars.filterMap fun (k, v) => if v.exported then v.value.map (k, ·) else none

/-- What the system has to know of a process. -/
def sync (p : Process) (w : World) : World :=
  w.updateEntry p.pid fun e => { e with handles := p.handles, ignored := p.ignored, caught := p.caught }

end Process

end Flowline.Shell

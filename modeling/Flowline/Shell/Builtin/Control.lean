import Flowline.Shell.Builtin.Options
import Flowline.Shell.Jobs

/-!
# Commands that steer a shell

Leaving loops, functions and the shell, traps, jobs and signals.
-/

namespace Flowline.Shell

namespace Signal

open Flowline.Signal

/-- What a shell calls a signal; 0 stands for its end. -/
def label (n : Nat) : String :=
  if n = 0 then "EXIT"
  else if n = 34 then "RTMIN"
  else if n = last then "RTMAX"
  else if 34 < n && n < 50 then "RTMIN+" ++ toString (n - 34)
  else if 50 ≤ n && n < last then "RTMAX-" ++ toString (last - n)
  else (name? n).getD (toString n)

/-- The signal, or the end, that a text names. -/
def labelled? (s : String) : Option Nat :=
  if s.toList.all Char.isDigit then parse? s
  else
    let capital := String.ofList (s.toList.map Char.toUpper)
    (List.range (last + 1)).find? (label · = capital)

end Signal

namespace Exec

/-! ## Leaving -/

def exit (args : List String) : Exec Unit := do
  match args with
  | [] => pure ()
  | a :: _ =>
    let n ← number a
    modify fun p => { p with status := n, kept := some n }
  halt .exited

/-- Leaves some loops, at most those that there are. -/
def leaveLoops (how : Nat → Halt) (args : List String) : Exec Unit := do
  let n ← match args with
    | [] => pure 1
    | a :: _ => number a
  if n = 0 then abort ("Illegal number: " ++ args.headD "")
  let levels := min n (← get).loops
  status 0
  if levels ≠ 0 then halt (how levels)

def leaveFunction (args : List String) : Exec Unit := do
  match args with
  | [] => halt .returned
  | a :: _ =>
    status (← number a)
    halt .returned

/-! ## Traps -/

/-- Sets what is to be done at each of some signals; false at one that there is not. -/
def setTraps (action : Option String) : List String → Exec Bool
  | [] => return true
  | s :: rest => do
    match Signal.labelled? s with
    | none =>
      tell 2 ("trap: " ++ s ++ ": bad trap\n")
      return false
    | some n =>
      modify fun p =>
        let others := p.traps.filter (·.1 ≠ n)
        let free := n = 0 || ! p.fixed.contains n
        let unignored := if free then p.ignored.filter (· ≠ n) else p.ignored
        { p with
          traps := match action with
            | some a => (n, a) :: others
            | none => others
          ignored := if free && n ≠ 0 && action = some "" then n :: unignored else unignored }
      setTraps action rest

def trap (args : List String) : Exec Unit := do
  let (_, args) ← splitOptions "" args
  match args with
  | [] =>
    let p ← get
    print (String.join ((List.range (Signal.last + 1)).filterMap fun n =>
      (p.traps.lookup n).map fun a => "trap -- " ++ inQuotes a ++ " " ++ Signal.label n ++ "\n"))
    status 0
  | first :: rest =>
    let isNumber := first.toList.all Char.isDigit && (Signal.parse? first).isSome
    let (action, signals) := if rest.isEmpty || isNumber then (none, args)
      else (if first = "-" then none else some first, rest)
    status (if ← setTraps action signals then 0 else 1)

/-! ## Signals -/

/-- The names that `kill -l` lists. -/
def allSignals : String := "0\n" ++ String.join ((List.range Signal.last).map fun n => Signal.label (n + 1) ++ "\n")

def killUsage : String :=
  "Usage: kill [-s sigspec | -signum | -sigspec] [pid | job]... or\nkill -l [exitstatus]"

/-- Sends a signal to a process, or to a group of them if the number is negative; false if there is none. -/
def sendSignal (target : Int) (signal : Nat) : Exec Bool := do
  let p ← get
  let w := p.sync (← world)
  let group := if target = 0 then (w.known? p.pid).map Entry.group
    else if target < -1 then some target.natAbs else none
  let isMeant (e : Entry) : Bool :=
    match group with
    | some g => e.group = g
    | none => if target = -1 then e.pid ≠ p.pid else (e.pid : Int) = target
  let targets := (w.entries.filter isMeant).map Entry.pid
  if targets.isEmpty then return false
  changeWorld fun _ => targets.foldl (fun w pid => w.deliver pid signal) w
  let w ← world
  if ! w.isRunning p.pid || (w.known? p.pid).any Entry.suspended then pause .turn false
  return true

/-- Sends a signal to each of some targets; whether there were all of them. -/
def killEach (signal : Nat) : List String → Bool → Exec Bool
  | [], fine => return fine
  | t :: rest, fine => do
    let target : Int ← match t.toList with
      | '%' :: _ => do
        let j ← namedJob t
        let first := (j.processes.head?.map Prod.fst).getD 0
        pure (-(first : Int))
      | '-' :: digits => do
        let n ← number (String.ofList digits)
        pure (-(n : Int))
      | _ => do
        let n ← number t
        pure (n : Int)
    if ← sendSignal target signal then killEach signal rest fine
    else
      warn (OsError.noProcess.text ++ "\n")
      killEach signal rest false

def kill (args : List String) : Exec Unit := do
  let direct := match args with
    | a :: _ => match a.toList with
      | '-' :: cs => Signal.labelled? (String.ofList cs)
      | _ => none
    | [] => none
  let (signal?, list, targets) ← match direct with
    | some n => pure (some n, false, args.drop 1)
    | none => do
      if args.head?.any fun a => a.toList.head? = some '-' then
        let (flags, rest) ← splitOptions "ls:" args
        let signal? ← match flags.filter (·.1 = 's') with
          | [] => pure none
          | found =>
            match Signal.labelled? ((found.getLast?.map Prod.snd).getD "") with
            | some n => pure (some n)
            | none => abort ("invalid signal number or name: " ++ (found.getLast?.map Prod.snd).getD "")
        pure (signal?, flags.any (·.1 = 'l'), rest)
      else pure (none, false, args)
  if list then
    if signal?.isSome then abort killUsage
    match targets with
    | [] => print allSignals
    | a :: _ =>
      let n ← number a
      let n := if 128 < n then n - 128 else n
      if 0 < n && n ≤ Signal.last then print (Signal.label n ++ "\n")
      else abort ("invalid signal number or exit status: " ++ a)
    status 0
  else
    if targets.isEmpty then abort killUsage
    status (if ← killEach (signal?.getD Signal.term) targets true then 0 else 1)

/-! ## Jobs -/

/-- What is said of a process that has ended, or has not. -/
def endingText : Option Ending → String
  | none => "Running"
  | some (.exited 0) => "Done"
  | some (.exited n) => "Done(" ++ toString n ++ ")"
  | some (.killed n) => Signal.description n

/-- A line on a job, which has a mark and perhaps the numbers of its processes. -/
def jobText (j : Job) (mark : String) (numbered : Bool) : String :=
  let first := "[" ++ toString j.number ++ "] " ++ mark ++ " "
  let pid := (j.processes.head?.map Prod.fst).getD 0
  let s := first ++ (if numbered then toString pid ++ " " else "") ++
    endingText (if j.isDone then j.ending? else none)
  let pad (s : String) : String := s ++ String.ofList (List.replicate (max 1 (33 - s.length)) ' ')
  if numbered then
    String.join (pad s :: (j.processes.drop 1).map fun (n, _) =>
      "\n" ++ pad (String.ofList (List.replicate (first.length - 2) ' ') ++ toString n ++ " ")) ++ "\n"
  else pad s ++ "\n"

def listJobs (args : List String) : Exec Unit := do
  let (flags, names) ← splitOptions "lp" args
  let _ ← pollChildren
  let chosen ← if names.isEmpty then pure (currentFirst (← get).jobs) else names.mapM namedJob
  for j in chosen do
    if (flags.getLast?.map Prod.fst) = some 'p' then
      print (toString ((j.processes.head?.map Prod.fst).getD 0) ++ "\n")
    else
      let current := currentFirst (← get).jobs
      let mark := if current.head?.any (·.number = j.number) then "+"
        else if (current.drop 1).head?.any (·.number = j.number) then "-" else " "
      print (jobText j mark (flags.any (·.1 = 'l')))
      -- a job that is over is not listed again, and the next one becomes the current one
      if j.isDone then dropJob j.number
  status 0

def wait (args : List String) : Exec Unit := do
  let (_, args) ← splitOptions "" args
  match args with
  | [] => if ← awaitAll patience then status 0 else status (← interrupted)
  | args => status (← awaitEach args 127)

/-- `fg` and `bg`, for which a shell without a terminal has no use. -/
def resumeJob (args : List String) : Exec Unit := do
  match args with
  | [] =>
    if (← get).jobs.isEmpty then abort "No current job"
    else abort "job (null) not created under job control"
  | a :: _ =>
    let _ ← namedJob a
    abort ("job " ++ a ++ " not created under job control")

end Exec

end Flowline.Shell

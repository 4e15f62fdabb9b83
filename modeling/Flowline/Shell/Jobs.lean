import Flowline.Shell.Variables

/-!
# Jobs

Starting processes and waiting for them.
-/

namespace Flowline.Shell

namespace Exec

/-! ## The table of jobs -/

/-- The least number from `n` on that is not among some. -/
def freeNumber (used : List Nat) : Nat → Nat → Nat
  | 0, n => n
  | fuel + 1, n => if used.contains n then freeNumber used fuel (n + 1) else n

/-- A new job without processes; its number.  It takes the place of the first that has been waited for. -/
def newJob : Exec Nat := do
  let p ← get
  let isOver (j : Job) : Bool := j.isDone && j.waited
  let free := freeNumber (p.jobs.map Job.number) (p.jobs.length + 1) 1
  let number := ((p.jobs.filter isOver).map Job.number).foldl min free
  set { p with jobs := ⟨number, [], false⟩ :: p.jobs.filter (·.number ≠ number) }
  return number

def updateJob (number : Nat) (f : Job → Job) : Exec Unit :=
  modify fun p => { p with jobs := p.jobs.map fun j => if j.number = number then f j else j }

def dropJob (number : Nat) : Exec Unit :=
  modify fun p => { p with jobs := p.jobs.filter (·.number ≠ number) }

def job? (number : Nat) : Exec (Option Job) := do return (← get).jobs.find? (·.number = number)

/-! ## Starting processes -/

/-- The process that a shell's child begins as. -/
def childOf (p : Process) : Process :=
  { p with jobs := [], traps := p.traps.filter (·.2 = ""), kept := none }

/-- The process that a child in the background begins as; the first of a job has no input. -/
def backgroundOf (p : Process) (null : Option Handle) : Process :=
  let p := { p with ignored := p.ignored ++ [Signal.int, Signal.quit].filter (! p.ignored.contains ·) }
  match null with
  | some h => p.bind 0 (some h)
  | none => p

/-- Starts a process of a job. -/
def start (number : Nat) (child : Process) (body : Exec Unit) : Exec Nat := do
  let pid ← fork child body
  updateJob number fun j => { j with processes := j.processes ++ [(pid, none)] }
  return pid

/-! ## Waiting -/

/-- Notices which children have ended; they are given with the ways in which they have. -/
def pollChildren : Exec (List (Nat × Ending)) := do
  let p ← get
  let w ← world
  let ended := w.entries.reverse.filterMap fun e =>
    if e.parent = p.pid then e.ending.map (e.pid, ·) else none
  if ended.isEmpty then return []
  changeWorld fun w => ended.foldl (fun w (pid, _) => w.reap pid) w
  set { p with jobs := p.jobs.map fun j => ended.foldl (fun j (pid, e) => j.note pid e) j }
  return ended

/-- Says of the processes of a job that they were killed. -/
def mourn (j : Job) : List (Nat × Ending) → Exec Unit
  | [] => return
  | (pid, .killed n) :: rest => do
    if (j.processes.lookup pid).isSome && n ≠ Signal.int && n ≠ Signal.pipe then
      tell 2 (Signal.description n ++ "\n")
    mourn j rest
  | _ :: rest => mourn j rest

/-- Whether a signal has come that the shell handles itself. -/
def isAlerted : Exec Bool := do
  let p ← get
  if p.traps.isEmpty then return false
  return ((← world).known? p.pid).any fun e => ! e.pending.isEmpty

/-- Waits until a job is over, or for a signal if it is `interruptible`; false after a signal. -/
def awaitJob (number : Nat) (interruptible : Bool) : Nat → Exec Bool
  | 0 => hang
  | fuel + 1 => do
    let ended ← pollChildren
    match ← job? number with
    | none => return true
    | some j =>
      mourn j ended
      if j.isDone then return true
      if interruptible && (← isAlerted) then return false
      pause .anyChild interruptible
      awaitJob number interruptible fuel

/-- More than the number of times that anything is waited for. -/
def patience : Nat := 0x100000000

/-- Waits for a job in the foreground and takes over its status. -/
def finishJob (number : Nat) : Exec Unit := do
  let _ ← awaitJob number false patience
  match ← job? number with
  | some j =>
    dropJob number
    status ((j.ending?.map Ending.status).getD 0)
  | none => return

/-- Runs a part in a process of its own and waits for it. -/
def inChild (child : Process → Process) (body : Exec Unit) : Exec Unit := do
  let number ← newJob
  let p ← get
  let _ ← start number (child (childOf p)) body
  finishJob number

/-- Jobs as they are listed: the current one first, and those that are over last. -/
def currentFirst (jobs : List Job) : List Job := jobs.filter (! ·.isDone) ++ jobs.filter Job.isDone

/-- The job that a text such as `%1` or the number of a process names. -/
def namedJob (name : String) : Exec Job := do
  let p ← get
  let current := currentFirst p.jobs
  let found? := match name.toList with
    | ['%'] => current.head?
    | ['%', '%'] => current.head?
    | ['%', '+'] => current.head?
    | ['%', '-'] => (current.drop 1).head?
    | '%' :: digits => (String.ofList digits).toNat?.bind fun n => p.jobs.find? (·.number = n)
    | _ => name.toNat?.bind fun n => p.jobs.find? (·.last = n)
  match found? with
  | some j => return j
  | none => abort ("No such job: " ++ name)

/-! ## Waiting for several jobs -/

/-- Waits until no job is running, or for a signal; false after a signal. -/
def awaitAll : Nat → Exec Bool
  | 0 => hang
  | fuel + 1 => do
    let _ ← pollChildren
    modify fun p => { p with jobs := p.jobs.map fun j => if j.isDone then { j with waited := true } else j }
    if (← get).jobs.all Job.isDone then return true
    if ← isAlerted then return false
    pause .anyChild true
    awaitAll fuel

/-- The status of a `wait` that a signal has interrupted. -/
def interrupted : Exec Nat := do
  let p ← get
  let pending := (((← world).known? p.pid).map Entry.pending).getD []
  return 128 + pending.getLast?.getD 0

/-- Waits for the jobs with some names in order; the status of the last one. -/
def awaitEach : List String → Nat → Exec Nat
  | [], last => return last
  | name :: rest, _ => do
    let j? ← if name.toList.head? = some '%' then some <$> namedJob name
      else do
        let n ← number name
        pure ((← get).jobs.find? (·.last = n))
    match j? with
    | none => awaitEach rest 127
    | some j =>
      if ← awaitJob j.number true patience then
        updateJob j.number fun j => { j with waited := true }
        let ending := (← job? j.number).bind Job.ending?
        awaitEach rest ((ending.map Ending.status).getD 0)
      else interrupted

end Exec

end Flowline.Shell

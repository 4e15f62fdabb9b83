import Flowline.Shell.Process

/-!
# Running processes

What a process does is a value that runs until it ends, has to wait or starts another process, and that can be
taken up again at that point.  `Exec` puts such values together; `Machine` runs several of them side by side,
one at a time, and lets time pass when all of them wait.
-/

namespace Flowline.Shell

/-- What a process waits for. -/
inductive Wait
  /-- The others shall have their turn. -/
  | turn
  | time (t : Nat)
  /-- Something to read, or the end of it. -/
  | readable (pipe : Nat)
  /-- Room for a number of characters, or the end of all reading. -/
  | writable (pipe size : Nat)
  /-- That a pipe with a name is opened at the other end, so that it has been opened there more than `before`
  times. -/
  | partner (node : Nat) (readable : Bool) (before : Nat)
  /-- The end of any child. -/
  | anyChild
  /-- The end of a process. -/
  | ending (pid : Nat)
  /-- The end of a process, or a time. -/
  | endingBefore (pid t : Nat)
  | never

/-- A process that waits; a signal that it handles wakes it too if it is on the `alert`. -/
structure Pause where
  pid : Nat
  why : Wait
  alert : Bool

/-- The future of a process. -/
inductive Task
  | ended (w : World)
  | pause (p : Pause) (w : World) (next : World → Task)
  | fork (pid : Nat) (child : World → Task) (w : World) (next : World → Task)

/-- The future of a process up to the end of a part of what it does. -/
inductive Out (α : Type)
  | done (r : Except Halt α) (p : Process) (w : World)
  | pause (p : Pause) (w : World) (next : World → Out α)
  | fork (pid : Nat) (child : World → Task) (w : World) (next : World → Out α)

namespace Out

/-- Goes on with `f` at the end. -/
def andThen {α β : Type} (o : Out α) (f : Except Halt α → Process → World → Out β) : Out β :=
  match o with
  | done r p w => f r p w
  | pause why w next => .pause why w fun w => (next w).andThen f
  | fork pid child w next => .fork pid child w fun w => (next w).andThen f

/-- The future of a process that ends when a part of it has ended. -/
def toTask {α : Type} (o : Out α) : Task :=
  match o with
  | done _ p w => .ended (w.finish p.pid (.exited (p.status % 256)))
  | pause why w next => .pause why w fun w => (next w).toTask
  | fork pid child w next => .fork pid child w fun w => (next w).toTask

end Out

/-- A part of what a process does. -/
def Exec (α : Type) : Type := Process → World → Out α

namespace Exec

@[inline] protected def pure {α : Type} (a : α) : Exec α := fun p w => .done (.ok a) p w

@[inline] protected def bind {α β : Type} (m : Exec α) (f : α → Exec β) : Exec β := fun p w =>
  match m p w with
  | .done (.ok a) p w => f a p w
  | .done (.error h) p w => .done (.error h) p w
  | o => o.andThen fun r p w =>
    match r with
    | .ok a => f a p w
    | .error h => .done (.error h) p w

instance : Monad Exec where
  pure := Exec.pure
  bind := Exec.bind

instance {α : Type} : Inhabited (Exec α) := ⟨fun p w => .done (.error .failed) p w⟩

@[inline] def get : Exec Process := fun p w => .done (.ok p) p w

@[inline] def set (p : Process) : Exec Unit := fun _ w => .done (.ok ()) p w

@[inline] def modify (f : Process → Process) : Exec Unit := fun p w => .done (.ok ()) (f p) w

@[inline] def world : Exec World := fun p w => .done (.ok w) p w

@[inline] def changeWorld (f : World → World) : Exec Unit := fun p w => .done (.ok ()) p (f w)

/-- Changes the world and gets something out of it. -/
@[inline] def withWorld {α : Type} (f : World → α × World) : Exec α := fun p w =>
  let (a, w) := f w
  .done (.ok a) p w

@[inline] def halt {α : Type} (h : Halt) : Exec α := fun p w => .done (.error h) p w

/-- Runs a part and catches what stops it. -/
@[inline] def attempt {α : Type} (m : Exec α) : Exec (Except Halt α) := fun p w =>
  match m p w with
  | .done r p w => .done (.ok r) p w
  | o => o.andThen fun r p w => .done (.ok r) p w

/-- Goes on with what `attempt` has caught. -/
@[inline] def resume {α : Type} (r : Except Halt α) : Exec α := fun p w => .done r p w

/-- Runs a part and changes the process afterwards, whatever has stopped it. -/
@[inline] def ensuring {α : Type} (m : Exec α) (after : Process → Process) : Exec α := fun p w =>
  match m p w with
  | .done r p w => .done r (after p) w
  | o => o.andThen fun r p w => .done r (after p) w

/-- Waits. -/
def pause (why : Wait) (alert : Bool) : Exec Unit := fun p w =>
  .pause ⟨p.pid, why, alert⟩ (p.sync w) fun w => .done (.ok ()) p w

/-- Waits until a time. -/
def waitUntil (time : Nat) (alert : Bool) : Exec Unit := do
  if (← world).now < time then pause (.time time) alert

/-- Never goes on. -/
def hang {α : Type} : Exec α := do
  pause .never false
  halt .failed

/-- Ends by a signal. -/
def die {α : Type} (signal : Nat) : Exec α := do
  let p ← get
  changeWorld (·.finish p.pid (.killed signal))
  hang

def status (n : Nat) : Exec Unit := modify fun p => { p with status := n }

/-! ## Work -/

/-- How much work a process may do before the others have their turn. -/
def turnWork : Nat := 256

/-- How much work can be done before time passes. -/
def sliceWork : Nat := 20000

/-- The milliseconds that pass after the `n`-th such amount of work: few at first, so that a long piece
of work takes little time, and more and more later, so that work without an end comes to one. -/
def sliceTime (n : Nat) : Nat := if n < 100 then 6 else 6 * Nat.pow 2 (min (n - 99) 20)

/-- Does an amount of work. -/
def work (amount : Nat) : Exec Unit := do
  let w ← world
  let done := w.work + amount
  if done < w.nextTurn then changeWorld fun w => { w with work := done }
  else if done < sliceWork then
    changeWorld fun w => { w with work := done, nextTurn := done + turnWork }
    pause .turn false
  else
    changeWorld fun w => { w with work := 0, nextTurn := turnWork, slices := w.slices + 1 }
    waitUntil (w.now + sliceTime w.slices) false

/-- How much work it is to start a process or a program. -/
def processWork : Nat := 100

/-- A world in which a process or a program has been started; that alone gives the others no turn. -/
def startWork (w : World) : World := { w with work := w.work + processWork, nextTurn := w.nextTurn + processWork }

/-- Starts a process that begins as `child` and does `body`; its number. -/
def fork (child : Process) (body : Exec Unit) : Exec Nat := fun p w =>
  let w := startWork w
  let pid := w.nextPid
  let child := { child with pid, parent := p.pid }
  let group := ((w.known? p.pid).map Entry.group).getD pid
  let w := w.addEntry {
    pid, parent := p.pid, group, ending := none, handles := child.handles, pending := []
    ignored := child.ignored, caught := child.caught, suspended := false }
  .fork pid (fun w => (body child w).toTask) w fun w => .done (.ok pid) p w

end Exec

/-! ## Machines -/

/-- A process that waits, and its future. -/
structure Waiting where
  pause : Pause
  next : World → Task

structure Machine where
  world : World
  /-- The processes that wait, those that have waited longest first. -/
  waiting : List Waiting

namespace Machine

/-- What waits after a task has gone on as far as it can. -/
def advance (waiting : List Waiting) : Task → Machine
  | .ended w => ⟨w, waiting⟩
  | .pause p w next => ⟨w, waiting ++ [⟨p, next⟩]⟩
  | .fork pid child w next => advance (waiting ++ [⟨⟨pid, .turn, false⟩, child⟩]) (next w)

/-- Whether what a process waits for has come. -/
def hasCome (w : World) (p : Pause) : Bool :=
  (match p.why with
    | .turn => true
    | .time t => t ≤ w.now
    | .readable n => ! w.isEmptyPipe n || ! w.isHeld (.writer n)
    | .writable n size => size ≤ w.pipeRoom n || ! w.isHeld (.reader n)
    | .partner node readable before => before < w.partners node readable
    | .anyChild => w.entries.any fun e => e.parent = p.pid && ! e.isRunning
    | .ending pid => ! w.isRunning pid
    | .endingBefore pid t => ! w.isRunning pid || t ≤ w.now
    | .never => false) ||
    (p.alert && (w.known? p.pid).any fun e => ! e.pending.isEmpty)

/-- Whether a process can go on now. -/
def isReady (w : World) (p : Pause) : Bool :=
  ((w.known? p.pid).any fun e => e.isRunning && ! e.suspended) && hasCome w p

/-- Takes out the first process that can go on. -/
def takeReady (w : World) : List Waiting → Option (Waiting × List Waiting)
  | [] => none
  | x :: xs =>
    if isReady w x.pause then some (x, xs)
    else (takeReady w xs).map fun (y, ys) => (y, x :: ys)

/-- The next time that a running process waits for. -/
def nextTime? (m : Machine) : Option Nat :=
  let isAble (x : Waiting) : Bool :=
    (m.world.known? x.pause.pid).any fun e => e.isRunning && ! e.suspended
  let times := m.waiting.filterMap fun x => match x.pause.why with
    | .time t => if isAble x then some t else none
    | .endingBefore _ t => if isAble x then some t else none
    | _ => none
  match times with
  | [] => none
  | t :: ts => some (ts.foldl min t)

/-- One process goes on, or time passes; nothing if nothing will ever happen before the limit. -/
def step (m : Machine) : Option Machine :=
  match takeReady m.world m.waiting with
  | some (x, rest) =>
    let m := advance rest (x.next m.world)
    some { m with world := m.world.noteClosed }
  | none =>
    match m.nextTime? with
    | none => none
    | some t =>
      if m.world.limit ≤ t then none
      else some { m with
        world := { m.world with now := max t m.world.now, work := 0, nextTurn := Exec.turnWork }
        waiting := m.waiting.filter fun x => m.world.isRunning x.pause.pid }

/-- At most `fuel` steps. -/
def run : Nat → Machine → World
  | 0, m => m.world
  | fuel + 1, m =>
    match m.step with
    | some m => run fuel m
    | none => m.world

end Machine

end Flowline.Shell

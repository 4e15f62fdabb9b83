import Flowline.Signal
import Flowline.Shell.Files

/-!
# The system

What processes share: the time, the files, pipes, and each other.  Time is counted in milliseconds and
passes only when every process waits.
-/

namespace Flowline.Shell

/-- The two outputs of a program that are watched. -/
inductive Console
  | out
  | err
  deriving DecidableEq

/-- What a descriptor refers to. -/
inductive Handle
  | console (c : Console)
  /-- The end of a pipe that is read. -/
  | reader (pipe : Nat)
  /-- The end of a pipe that is written to. -/
  | writer (pipe : Nat)
  /-- Both ends of a pipe. -/
  | duplex (pipe : Nat)
  /-- An opened file. -/
  | file (n : Nat)
  deriving DecidableEq

/-- Whether what a descriptor refers to is all of another thing, or has it as a part. -/
def Handle.includes (h part : Handle) : Bool :=
  h = part || match h, part with
    | .duplex m, .reader n => m = n
    | .duplex m, .writer n => m = n
    | _, _ => false

/-- Some text that was written at some time. -/
structure Chunk where
  time : Nat
  target : Console
  /-- The process that has written it, and the number of the one that was to be started next. -/
  source : Nat × Nat
  text : String

/-- Whether two texts leave a process in one go: nothing else has happened between them. -/
def Chunk.isJoined (c d : Chunk) : Bool := c.time = d.time && c.target = d.target && c.source = d.source

/-! ## Pipes -/

/-- Text on its way: first what has been taken apart already, then what has not. -/
structure Pipe where
  front : List Char
  back : Array String
  size : Nat

namespace Pipe

/-- The most characters that a pipe holds. -/
def capacity : Nat := 65536

def empty : Pipe := ⟨[], #[], 0⟩

def room (p : Pipe) : Nat := capacity - p.size

def push (p : Pipe) (s : String) (size : Nat) : Pipe := ⟨p.front, p.back.push s, p.size + size⟩

/-- The pipe with everything taken apart. -/
def unpacked (p : Pipe) : Pipe :=
  if p.back.isEmpty then p
  else ⟨p.front ++ p.back.toList.flatMap String.toList, #[], p.size⟩

/-- Takes characters from the front. -/
def drop (p : Pipe) (n : Nat) : Pipe :=
  let p := p.unpacked
  ⟨p.front.drop n, #[], p.size - n⟩

end Pipe

/-- A pipe with a name, from the time when it has been opened first. -/
structure NamedPipe where
  pipe : Nat
  /-- How often it has been opened for reading. -/
  readers : Nat
  /-- How often it has been opened for writing. -/
  writers : Nat

/-- An opened file, whose place all descriptors for it share. -/
structure Opened where
  node : Nat
  place : Nat
  /-- Everything is written at the end. -/
  append : Bool
  readable : Bool
  writable : Bool
  /-- What comes from the place on, for a version of the file. -/
  ahead : Option (Nat × List Char)

/-! ## Processes -/

/-- How a process has ended. -/
inductive Ending
  | exited (status : Nat)
  | killed (signal : Nat)
  deriving DecidableEq

/-- The status that a shell gives to an ending. -/
def Ending.status : Ending → Nat
  | exited n => n
  | killed n => 128 + n

/-- What the system knows of a process. -/
structure Entry where
  pid : Nat
  parent : Nat
  /-- The processes that a signal to a group reaches together. -/
  group : Nat
  ending : Option Ending
  handles : List Handle
  /-- Signals that have come and have not been handled. -/
  pending : List Nat
  ignored : List Nat
  caught : List Nat
  suspended : Bool

def Entry.isRunning (e : Entry) : Bool := e.ending.isNone

/-- Adds a signal to those that a process has to handle. -/
def Entry.alert (e : Entry) (signal : Nat) : Entry :=
  if e.caught.contains signal && ! e.pending.contains signal then { e with pending := e.pending ++ [signal] }
  else e

structure World where
  now : Nat
  /-- Nothing that happens from this time on matters. -/
  limit : Nat
  /-- How much work has been done since time passed last. -/
  work : Nat
  /-- The amount of work after which another process has its turn. -/
  nextTurn : Nat
  /-- How often time has passed because of work. -/
  slices : Nat
  /-- What has been written to the console, the latest first. -/
  output : List Chunk
  pipes : Array Pipe
  /-- The pipes with names, by the numbers of their nodes. -/
  namedPipes : List (Nat × NamedPipe)
  opened : Array Opened
  files : Files
  /-- The processes that run or whose end has not been noticed by their parents, the latest first. -/
  entries : List Entry
  nextPid : Nat
  /-- The process that was there first. -/
  root : Nat
  /-- When and how it has ended. -/
  rootEnding : Option (Nat × Ending)
  /-- When each output was closed for good. -/
  closed : List (Console × Nat)

namespace World

variable (w : World)

/-- The milliseconds from the beginning of 1970 to the start of everything. -/
def epoch : Nat := 1767225600000

/-- The milliseconds from the beginning of 1970 until now. -/
def clock : Nat := epoch + w.now

def known? (pid : Nat) : Option Entry := w.entries.find? (·.pid = pid)

def updateEntry (pid : Nat) (f : Entry → Entry) : World :=
  { w with entries := w.entries.map fun e => if e.pid = pid then f e else e }

/-- Whether a running process holds something. -/
def isHeld (h : Handle) : Bool := w.entries.any fun e => e.isRunning && e.handles.any (·.includes h)

def ending? (pid : Nat) : Option Ending := (w.known? pid).bind Entry.ending

/-- Whether there is a process that has not ended. -/
def isRunning (pid : Nat) : Bool := (w.known? pid).any Entry.isRunning

/-- Forgets a process that has ended. -/
def reap (pid : Nat) : World := { w with entries := w.entries.filter (·.pid ≠ pid) }

/-- Ends a process.  Its parent notices that, unless it has ended before. -/
def finish (pid : Nat) (how : Ending) : World :=
  match w.known? pid with
  | none => w
  | some e =>
    if ! e.isRunning then w
    else
      let ended := { e with ending := some how, handles := [], suspended := false }
      let isNoticed := w.isRunning e.parent
      let entries := w.entries.filterMap fun o =>
        if o.pid = pid then if isNoticed then some ended else none
        else if o.parent = pid && ! o.isRunning then none
        else if o.pid = e.parent then some (o.alert Signal.child)
        else some o
      { w with
        entries
        rootEnding := if pid = w.root then some (w.now, how) else w.rootEnding }

/-- Adds a process. -/
def addEntry (e : Entry) : World := { w with entries := e :: w.entries, nextPid := w.nextPid + 1 }

/-- Has a signal reach a process. -/
def deliver (pid signal : Nat) : World :=
  match w.known? pid with
  | none => w
  | some e =>
    if ! e.isRunning || signal = 0 then w
    else if signal = Signal.kill then w.finish pid (.killed signal)
    else if signal = Signal.stop then w.updateEntry pid fun e => { e with suspended := true }
    else
      let w := if signal = Signal.cont then w.updateEntry pid fun e => { e with suspended := false } else w
      if e.caught.contains signal then
        w.updateEntry pid (·.alert signal)
      else if e.ignored.contains signal || Signal.isIgnored signal then w
      else if Signal.suspends signal then w.updateEntry pid fun e => { e with suspended := true }
      else w.finish pid (.killed signal)

/-- Notes which outputs nobody can write to any more. -/
def noteClosed : World :=
  let newly := [Console.out, Console.err].filter fun c =>
    (w.closed.lookup c).isNone && ! w.isHeld (.console c)
  if newly.isEmpty then w else { w with closed := newly.map (·, w.now) ++ w.closed }

/-! ## Pipes -/

def newPipe : Nat × World := (w.pipes.size, { w with pipes := w.pipes.push .empty })

def isEmptyPipe (n : Nat) : Bool := (w.pipes[n]?.map Pipe.size).getD 0 = 0

def pipeRoom (n : Nat) : Nat := (w.pipes[n]?.map Pipe.room).getD 0

/-- Opens a pipe with a name; the number of the pipe.  What nobody has read is lost when nobody holds an end. -/
def openNamed (node : Nat) (readable writable : Bool) : Nat × World :=
  let (named, w) := match w.namedPipes.lookup node with
    | some named => (named, w)
    | none =>
      let (pipe, w) := w.newPipe
      (⟨pipe, 0, 0⟩, w)
  let isLost := ! w.isHeld (.reader named.pipe) && ! w.isHeld (.writer named.pipe)
  let named := ⟨named.pipe, named.readers + readable.toNat, named.writers + writable.toNat⟩
  (named.pipe, { w with
    pipes := if isLost then w.pipes.modify named.pipe fun _ => .empty else w.pipes
    namedPipes := (node, named) :: w.namedPipes.filter (·.1 ≠ node) })

/-- How often a pipe with a name has been opened at its other end. -/
def partners (node : Nat) (readable : Bool) : Nat :=
  ((w.namedPipes.lookup node).map fun named => if readable then named.writers else named.readers).getD 0

/-! ## Opened files -/

/-- Opens a node; the number of the opened file. -/
def openNode (node : Nat) (append readable writable : Bool) : Nat × World :=
  (w.opened.size, { w with opened := w.opened.push ⟨node, 0, append, readable, writable, none⟩ })

/-- What comes from the place of an opened file on. -/
def ahead (o : Opened) : List Char :=
  match w.files.nodes[o.node]? with
  | some n =>
    match o.ahead with
    | some (version, cs) => if version = n.version then cs else (n.text?.getD "").toList.drop o.place
    | none => (n.text?.getD "").toList.drop o.place
  | none => []

/-- Moves the place of an opened file; `cs` comes after it. -/
def moveTo (n place : Nat) (cs : List Char) : World :=
  match w.opened[n]? with
  | some o =>
    let version := (w.files.nodes[o.node]?.map Node.version).getD 0
    { w with opened := w.opened.modify n fun o => { o with place, ahead := some (version, cs) } }
  | none => w

/-- Writes a text of a size to an opened file. -/
def writeFile (n : Nat) (text : String) (size : Nat) : World :=
  match w.opened[n]? with
  | none => w
  | some o =>
    match w.files.nodes[o.node]?.bind Node.text? with
    | none => w
    | some old =>
      let length := old.length
      let place := if o.append then length else o.place
      let new := if place = length then old ++ text
        else
          let cs := old.toList
          String.ofList (cs.take place ++ List.replicate (place - length) '\x00') ++ text ++
            String.ofList (cs.drop (place + size))
      { w with
        files := w.files.setContent o.node w.clock (.text new)
        opened := w.opened.modify n fun o => { o with place := place + size, ahead := none } }

end World

end Flowline.Shell

import Flowline.Simulation.Lines
import Flowline.Simulation.Sandbox

/-!
# Runs

One run in the course of time, from before its launch until its session is forgotten.  `Run.step` is the
next thing that a run does at a moment, if there is anything to do.
-/

namespace Flowline.Simulation

open Shell (Console)

/-! ## Output on its way -/

/-- The output of a program on its way to the log. -/
structure Tap where
  /-- What the program has yet to write. -/
  coming : List (Nat × Console × List UInt8)
  /-- The bytes of the line that is open on the output for results. -/
  openedOut : List UInt8
  /-- The bytes of the line that is open on the output for errors. -/
  openedErr : List UInt8
  /-- Lines that wait to be taken. -/
  queue : List LogLine

/-- The stream that an output is. -/
def streamOf : Console → Stream
  | .out => .stdout
  | .err => .stderr

namespace Tap

def lines (o : Console) (pieces : List Lines.Piece) : List LogLine :=
  pieces.map fun p => ⟨streamOf o, p.text⟩

/-- The bytes of the line that is open on an output. -/
def opened (t : Tap) : Console → List UInt8
  | .out => t.openedOut
  | .err => t.openedErr

def setOpened (t : Tap) (o : Console) (bytes : List UInt8) : Tap :=
  match o with
  | .out => { t with openedOut := bytes }
  | .err => { t with openedErr := bytes }

/-- Lines that wait behind all others. -/
def enqueue (t : Tap) (ls : List LogLine) : Tap :=
  if ls.isEmpty then t else { t with queue := t.queue ++ ls }

/-- Takes in some bytes; the lines that they complete, the last one first, are put before others. -/
def pour (maxLine : Nat) (acc : Tap × List LogLine) (chunk : Nat × Console × List UInt8) :
    Tap × List LogLine :=
  let (t, ls) := acc
  let (_, o, bytes) := chunk
  let (pieces, rest) := Lines.feedAll maxLine (t.opened o) (Lines.arrivals bytes)
  (t.setOpened o rest, (lines o pieces).reverse ++ ls)

/-- Takes in what has been written until a moment. -/
def fill (maxLine elapsed : Nat) (t : Tap) : Tap :=
  let isDue (chunk : Nat × Console × List UInt8) : Bool := chunk.1 ≤ elapsed
  let (t', ls) := (t.coming.takeWhile isDue).foldl (pour maxLine) (t, [])
  { t' with coming := t.coming.dropWhile isDue }.enqueue ls.reverse

/-- Ends the open line of an output. -/
def flush (t : Tap) (o : Console) : Tap :=
  if (t.opened o).isEmpty then t else (t.setOpened o []).enqueue (lines o (Lines.flush (t.opened o)))

end Tap

/-! ## Stages -/

/-- A program that is being watched. -/
structure Watching where
  start : Nat
  timeline : Timeline
  watch : Watch
  /-- When the time given to output after the exit is over. -/
  drain : Option Nat
  tap : Tap

inductive Stage
  /-- Has been asked for. -/
  | waiting (code : String) (env : Table String)
  | watching (w : Watching)
  /-- Has ended; its session is kept until some time. -/
  | kept (stop : Nat)
  | gone

structure Run where
  session : String
  /-- The directory of the run. -/
  directory : String
  stage : Stage

/-- What a run does to its session. -/
inductive Action
  | nothing
  | log (l : LogLine)
  /-- Ends, after some last lines. -/
  | finish (last : List LogLine) (o : Outcome)
  | forget

/-- The milliseconds that output is given after the exit. -/
def drainMs : Nat := 500

namespace Watching

/-- The start of watching a program. -/
def launched (now : Nat) (timeline : Timeline) : Watching :=
  ⟨now, timeline, Watch.start, none, ⟨timeline.output, [], [], []⟩⟩

variable (config : Config) (now : Nat) (w : Watching)

def elapsed : Nat := now - w.start

def maxLine : Nat := Lines.bound config.maxOutputBytes

def isClosed (o : Console) : Bool :=
  match w.timeline.closes o with
  | some t => t ≤ w.elapsed now
  | none => false

/-- What has been written so far is taken in. -/
def filled : Tap :=
  let t := w.tap.fill (maxLine config) (w.elapsed now)
  let t := if w.isClosed now .out then t.flush .out else t
  if w.isClosed now .err then t.flush .err else t

/-- What can be handled now. -/
def ready (cancelled : Bool) : Ready where
  cancelled := cancelled
  deadline := config.timeoutMs ≤ w.elapsed now
  line := w.tap.queue.head?
  hungUp := w.isClosed now .out && w.isClosed now .err && w.tap.queue.isEmpty
  exit := w.timeline.exit.bind fun (t, e) => if t ≤ w.elapsed now then some e else none
  drained := w.drain.any (· ≤ now)

/-- The lines that are left when watching stops, and the notice. -/
def lastLines (notice : Option Notice) : List LogLine :=
  ((w.tap.flush .out).flush .err).queue ++ notice.toList.map Notice.line

/-- Unless it stops now, a run takes in what has been written before it takes a turn. -/
def taking (cancelled : Bool) : Watching :=
  if cancelled || config.timeoutMs ≤ w.elapsed now then w else { w with tap := w.filled config now }

/-- What a run makes of a turn. -/
def act : Turn → Option (Action × Stage)
  | .wait => none
  | .take l watch => some (.log l, .watching { w with
      watch, tap := { w.tap with queue := w.tap.queue.drop 1 } })
  | .go watch => some (.nothing, .watching { w with
      watch, drain := if w.watch.exited.isNone && watch.exited.isSome then some (now + drainMs) else w.drain })
  | .stop why =>
    let (outcome, notice) := why.outcome config.timeoutMs
    some (.finish (w.lastLines notice) outcome, .kept (now + config.retentionMs))

/-- The next thing to do. -/
def step (cancelled : Bool) : Option (Action × Stage) :=
  let w := w.taking config now cancelled
  w.act config now (w.watch.turn (w.ready config now cancelled))

/-- When something may happen next. -/
def times : List Nat :=
  (w.tap.coming.head?.map fun (t, _) => w.start + t).toList ++
    (w.timeline.exit.map fun (t, _) => w.start + t).toList ++
    [Console.out, .err].filterMap (fun o => (w.timeline.closes o).map (w.start + ·)) ++
    [w.start + config.timeoutMs] ++ w.drain.toList

end Watching

namespace Run

variable (config : Config) (host : Table String) (now : Nat)

/-- The next thing that a run does now. -/
def step (cancelled : Bool) (r : Run) : Option (Action × Run) :=
  match r.stage with
  | .waiting code env =>
    let (action, stage) := match Sandbox.launch ⟨config, host, r.directory⟩ code env with
      | .ok timeline => (Action.nothing, Stage.watching (.launched now timeline))
      | .error notice =>
        (.finish [notice.line] ⟨none, .launchFailed⟩, .kept (now + config.retentionMs))
    some (action, { r with stage })
  | .watching w => (w.step config now cancelled).map fun (a, stage) => (a, { r with stage })
  | .kept stop => if stop ≤ now then some (.forget, { r with stage := .gone }) else none
  | .gone => none

/-- When something may happen next. -/
def times (r : Run) : List Nat :=
  match r.stage with
  | .waiting _ _ => [now]
  | .watching w => w.times config
  | .kept stop => [stop]
  | .gone => []

/-- More than the number of things that a run still does once it has been launched. -/
def work (r : Run) : Nat :=
  match r.stage with
  | .watching w =>
    (w.tap.coming.map fun (_, _, bytes) => bytes.length + 2).foldl (· + ·) 0 + w.tap.queue.length + 16
  | _ => 16

end Run

end Flowline.Simulation

import Flowline.OsError
import Flowline.Signal
import Flowline.Simulation.Session

/-!
# Watching a program

What the runner does while a program runs: it takes lines, notes the end of the output and the exit,
and stops on cancellation, at the deadline, or once there is nothing more to wait for.  Of several things
that are ready it handles the first in this order: cancellation, deadline, output, exit, and the end of
the time that output is given after the exit.
-/

namespace Flowline.Simulation

/-- How a program ended. -/
inductive Exit
  | code (n : Nat)
  | signal (n : Nat)
  /-- The system does not say. -/
  | unknown (why : OsError)
  deriving DecidableEq

/-- `signal: N (SIGNAME)`. -/
def signalText (n : Nat) : String :=
  match Signal.name? n with
  | some name => "signal: " ++ toString n ++ " (SIG" ++ name ++ ")"
  | none => "signal: " ++ toString n

/-- What the runner has to say about a run. -/
inductive Notice
  | writeFailed (file : String) (why : OsError)
  | launchFailed (program : String) (why : OsError)
  | terminated (signal : Nat)
  | waitFailed (why : OsError)
  | timedOut (ms : Nat)
  | cancelled
  deriving DecidableEq

def Notice.message : Notice → String
  | writeFailed file why => "failed to write " ++ file ++ ": " ++ why.message
  | launchFailed program why => "failed to launch '" ++ program ++ "': " ++ why.message
  | terminated signal => "process terminated: " ++ signalText signal
  | waitFailed why => "failed to wait for process: " ++ why.message
  | timedOut ms => "timed out after " ++ toString ms ++ " ms"
  | cancelled => "cancelled"

def Notice.line (n : Notice) : LogLine := ⟨.system, n.message⟩

/-- Why the runner stops watching. -/
inductive Stop
  | exited (exit : Exit)
  | cancelled
  | timedOut
  deriving DecidableEq

/-- The outcome of a run, and what is said about it. -/
def Stop.outcome (timeoutMs : Nat) : Stop → Outcome × Option Notice
  | exited (.code n) => (⟨some n, .exited⟩, none)
  | exited (.signal n) => (⟨none, .exited⟩, some (.terminated n))
  | exited (.unknown why) => (⟨none, .exited⟩, some (.waitFailed why))
  | cancelled => (⟨none, .cancelled⟩, some .cancelled)
  | timedOut => (⟨none, .timedOut⟩, some (.timedOut timeoutMs))

/-- What can be handled at a moment. -/
structure Ready where
  cancelled : Bool
  deadline : Bool
  /-- The oldest line that has not been taken. -/
  line : Option LogLine
  /-- No line is left and none will come. -/
  hungUp : Bool
  exit : Option Exit
  /-- The time given to output after the exit is over. -/
  drained : Bool

/-- What the runner has seen so far. -/
structure Watch where
  /-- Output may still come. -/
  listening : Bool
  exited : Option Exit
  deriving DecidableEq

inductive Turn
  /-- Passes on a line. -/
  | take (l : LogLine) (w : Watch)
  | go (w : Watch)
  | stop (why : Stop)
  /-- Nothing is ready. -/
  | wait

namespace Watch

def start : Watch := ⟨true, none⟩

/-- An exit that has been seen counts, whatever comes after it. -/
def stopFor (w : Watch) (why : Stop) : Turn :=
  match w.exited with
  | some e => .stop (.exited e)
  | none => .stop why

/-- Stops when neither output nor an exit is to come. -/
def settle (w : Watch) : Turn :=
  match w.listening, w.exited with
  | false, some e => .stop (.exited e)
  | _, _ => .go w

/-- Handles the first thing that is ready. -/
def turn (w : Watch) (r : Ready) : Turn :=
  if r.cancelled then w.stopFor .cancelled
  else if r.deadline then w.stopFor .timedOut
  else match w.listening, r.line with
    | true, some l => .take l w
    | _, _ =>
      if w.listening && r.hungUp then settle { w with listening := false }
      else match w.exited, r.exit with
        | none, some e => settle { w with exited := some e }
        | some e, _ => if r.drained then .stop (.exited e) else .wait
        | none, none => .wait

end Watch

end Flowline.Simulation

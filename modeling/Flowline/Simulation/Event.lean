import Flowline.Json.Basic

/-!
# Events of a run

What a run of a script tells those who watch it.
-/

namespace Flowline.Simulation

inductive Stream
  | stdout
  | stderr
  /-- What the runner itself has to say. -/
  | system
  deriving DecidableEq

/-- Why a run ended. -/
inductive EndReason
  | exited
  | timedOut
  | cancelled
  | launchFailed
  deriving DecidableEq

inductive Event
  | log (stream : Stream) (line : String)
  /-- The watcher fell behind and lost some events. -/
  | gap (missed : Nat)
  /-- The last event of a run. -/
  | complete (success : Bool) (exitCode : Option Int) (reason : EndReason)
  deriving DecidableEq

/-- One line of a run's log. -/
structure LogLine where
  stream : Stream
  line : String
  deriving DecidableEq

namespace Stream

def all : List Stream := [stdout, stderr, system]

def name : Stream → String
  | stdout => "stdout"
  | stderr => "stderr"
  | system => "system"

/-- The name as a heading. -/
def title : Stream → String
  | stdout => "Stdout"
  | stderr => "Stderr"
  | system => "System"

end Stream

namespace EndReason

def all : List EndReason := [exited, timedOut, cancelled, launchFailed]

def name : EndReason → String
  | exited => "exited"
  | timedOut => "timed-out"
  | cancelled => "cancelled"
  | launchFailed => "launch-failed"

/-- The name as a heading. -/
def title : EndReason → String
  | exited => "Exited"
  | timedOut => "TimedOut"
  | cancelled => "Cancelled"
  | launchFailed => "LaunchFailed"

end EndReason

def LogLine.event (l : LogLine) : Event := .log l.stream l.line

def Event.isTerminal : Event → Bool
  | .complete _ _ _ => true
  | _ => false

end Flowline.Simulation

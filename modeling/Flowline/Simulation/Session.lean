import Flowline.Simulation.Event

/-!
# Sessions

One run of a script: its log so far and its outcome.  Output beyond a bound is dropped and one line of
the runner marks the place; after the end nothing changes.
-/

namespace Flowline.Simulation

inductive Status
  | running
  | succeeded
  | failed
  deriving DecidableEq

namespace Status

def name : Status → String
  | running => "running"
  | succeeded => "succeeded"
  | failed => "failed"

def isTerminal (s : Status) : Bool := s ≠ running

end Status

/-- How a run ended.  There is no exit code after a signal, a timeout or a cancellation, or when the
program could not be launched. -/
structure Outcome where
  exitCode : Option Int
  reason : EndReason
  deriving DecidableEq

def Outcome.success (o : Outcome) : Bool := o.reason = .exited && o.exitCode = some 0

structure Session where
  id : String
  pipeline : String
  status : Status
  logs : Array LogLine
  outcome : Option Outcome
  /-- The bytes of program output in the log. -/
  outputBytes : Nat
  truncated : Bool

namespace Session

def new (id pipeline : String) : Session := ⟨id, pipeline, .running, #[], none, 0, false⟩

/-- Stands for the output that was dropped. -/
def truncationMarker : String := "[output truncated: limit reached]"

variable (s : Session)

def exitCode : Option Int := s.outcome.bind Outcome.exitCode

def reason : Option EndReason := s.outcome.map Outcome.reason

/-- Records a line; the event tells of it. -/
def push (l : LogLine) : Option Event × Session :=
  (some l.event, { s with logs := s.logs.push l })

/-- Records a line of output within the bound, the marker instead of the first beyond it, and lines of
the runner always; the event, if any, is to be published. -/
def append (maxBytes : Nat) (l : LogLine) : Option Event × Session :=
  if s.status.isTerminal then (none, s)
  else if l.stream = .system then s.push l
  else if s.truncated then (none, s)
  else
    let bytes := s.outputBytes + l.line.utf8ByteSize
    if maxBytes < bytes then { s with truncated := true }.push ⟨.system, truncationMarker⟩
    else { s with outputBytes := bytes }.push l

/-- Ends the session; only the first end counts. -/
def finish (o : Outcome) : Option Event × Session :=
  if s.status.isTerminal then (none, s)
  else
    (some (.complete o.success o.exitCode o.reason),
      { s with status := if o.success then .succeeded else .failed, outcome := some o })

end Session

end Flowline.Simulation

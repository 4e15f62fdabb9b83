import Flowline.Simulation.Run
import Flowline.Simulation.Runner

/-!
# Schedules

The runner with its runs and a clock.  Runs do what they can at the time that the clock shows, in the
order in which they were started; when there is nothing left to do, the clock goes on to the next time at
which there is.
-/

namespace Flowline.Simulation

structure Schedule where
  runner : Runner
  runs : List Run
  now : Nat
  /-- The environment of the runner. -/
  host : Table String

namespace Schedule

def new (config : Config) (host : Table String) : Schedule := ⟨Runner.new config, [], 0, host⟩

variable (s : Schedule)

/-- The name of the next session. -/
def nextId : String := "#" ++ toString s.runs.length

/-- The directory of the next run. -/
def nextDirectory : String :=
  let digits := toString s.runs.length
  "/tmp/pipeline-sim-" ++ String.ofList (List.replicate (6 - digits.length) '0') ++ digits

/-- Has a session's run wait for its launch. -/
def spawn (id code : String) (env : Table String) : Schedule :=
  { s with runs := s.runs ++ [⟨id, s.nextDirectory, .waiting code env⟩] }

def stop (id : String) : Except RunnerError Schedule := do
  return { s with runner := ← s.runner.stop id }

/-- Does to a session what a run asks for. -/
def apply (id : String) (r : Runner) : Action → Runner
  | .nothing => r
  | .log l => r.append id l
  | .finish last o => (last.foldl (·.append id ·) r).complete id o
  | .forget => (r.closeTopic id).discard id

/-- The first run that has something to do does it. -/
def turn (config : Config) (host : Table String) (now : Nat) (r : Runner) :
    List Run → Option (Runner × List Run)
  | [] => none
  | run :: runs =>
    match run.step config host now (r.isCancelled run.session) with
    | some (a, run) => some (apply run.session r a, run :: runs)
    | none => (turn config host now r runs).map fun (r, runs) => (r, run :: runs)

/-- One thing happens, now or after some time; nothing if nothing ever will. -/
def step : Option Schedule :=
  let config := s.runner.config
  match turn config s.host s.now s.runner s.runs with
  | some (runner, runs) => some { s with runner, runs }
  | none =>
    match (s.runs.flatMap (·.times config s.now)).filter (s.now < ·) with
    | [] => none
    | t :: ts => some { s with now := ts.foldl min t }

/-- Launches the runs that wait. -/
def launch : Schedule :=
  let (runner, runs) := s.runs.foldl (fun (acc : Runner × List Run) run =>
    match run.stage with
    | .waiting _ _ =>
      match run.step s.runner.config s.host s.now (acc.1.isCancelled run.session) with
      | some (a, run') => (apply run.session acc.1 a, acc.2 ++ [run'])
      | none => (acc.1, acc.2 ++ [run])
    | _ => (acc.1, acc.2 ++ [run])) (s.runner, [])
  { s with runner, runs }

/-- More than the number of steps to the end of all runs that have been launched. -/
def work : Nat := 4 * (s.runs.map Run.work).foldl (· + ·) 0 + 16

/-- Steps until a condition holds, at most `fuel` of them. -/
def stepUntil (done : Schedule → Bool) : Nat → Schedule → Schedule
  | 0, s => s
  | fuel + 1, s =>
    if done s then s
    else match s.step with
      | some s => stepUntil done fuel s
      | none => s

/-- Waits until a condition holds. -/
def await (done : Schedule → Bool) : Schedule :=
  let s := s.launch
  s.stepUntil done s.work

/-- Reads a subscription while the runs go on, until its end; `read` is what has been read before. -/
def follow : Nat → Array Event → Subscription → Schedule → Array Event × Schedule
  | 0, read, _, s => (read, s)
  | fuel + 1, read, sub, s =>
    let channel := s.runner.channel
    let (events, ended, sub) := channel.drain (channel.backlog sub) sub
    let read := read ++ events.toArray
    if ended then (read, s)
    else match s.step with
      | some s => follow fuel read sub s
      | none => (read, s)

/-- All events of a subscription until its end. -/
def collect (sub : Subscription) : List Event × Schedule :=
  let s := s.launch
  let (events, s) := follow s.work #[] sub s
  (events.toList, s)

/-- Waits until a session is not running. -/
def waitFor (id : String) : Schedule :=
  s.await fun s => match s.runner.session? id with
    | some session => session.status.isTerminal
    | none => true

/-- Waits until a session is forgotten. -/
def waitGone (id : String) : Schedule := s.await fun s => (s.runner.session? id).isNone

end Schedule

end Flowline.Simulation

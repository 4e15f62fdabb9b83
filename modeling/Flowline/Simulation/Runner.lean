import Flowline.Simulation.Channel
import Flowline.Simulation.Config
import Flowline.Simulation.Session

/-!
# The runner

The runner knows the sessions, which of them holds the lock of each pipeline, and their topics.  Each
function up to the last two sections is one step that nothing can interrupt; runs and clients take such
steps in any order.
-/

namespace Flowline.Simulation

/-- A session that the runner knows. -/
structure Entry where
  session : Session
  /-- The run has been told to stop. -/
  cancelled : Bool

structure Runner where
  config : Config
  channel : Channel
  /-- For every pipeline that is being run, the session that runs it. -/
  locks : Table String
  sessions : Table Entry

/-- Why the runner refuses a request. -/
inductive RunnerError
  | conflict (pipeline session : String)
  | sessionNotFound (session : String)
  deriving DecidableEq

def RunnerError.message : RunnerError → String
  | conflict pipeline _ => "simulation already running for pipeline '" ++ pipeline ++ "'"
  | sessionNotFound session => "simulation session '" ++ session ++ "' not found"

namespace Runner

def new (config : Config) : Runner := ⟨config, Channel.new config.subscriberBuffer, [], []⟩

variable (r : Runner)

/-! ## Requests -/

def session? (id : String) : Option Session := (r.sessions.get? id).map Entry.session

/-- The session that runs a pipeline. -/
def active? (pipeline : String) : Option String := r.locks.get? pipeline

def isCancelled (id : String) : Bool := (r.sessions.get? id).any Entry.cancelled

/-- Takes the lock of a pipeline for a session. -/
def acquire (id pipeline : String) : Except RunnerError Runner :=
  match r.locks.get? pipeline with
  | some holder => .error (.conflict pipeline holder)
  | none => .ok { r with locks := r.locks.insert pipeline id }

def openTopic (id : String) : Runner := { r with channel := r.channel.openTopic id }

/-- Makes a running session known. -/
def enter (id pipeline : String) : Runner :=
  { r with sessions := r.sessions.insert id ⟨Session.new id pipeline, false⟩ }

/-- Tells a run to stop; it may already have ended. -/
def stop (id : String) : Except RunnerError Runner :=
  match r.sessions.get? id with
  | none => .error (.sessionNotFound id)
  | some e => .ok { r with sessions := r.sessions.insert id { e with cancelled := true } }

def subscribe (id : String) : Except RunnerError Subscription :=
  match r.channel.subscribe id with
  | some s => .ok s
  | none => .error (.sessionNotFound id)

/-! ## Steps of a run -/

/-- Changes a session and gives what is to be published. -/
def update (id : String) (f : Session → Option Event × Session) : Option Event × Runner :=
  match r.sessions.get? id with
  | none => (none, r)
  | some e =>
    let (event, session) := f e.session
    (event, { r with sessions := r.sessions.insert id { e with session } })

/-- Records a line in the log of a session. -/
def record (id : String) (l : LogLine) : Option Event × Runner :=
  r.update id (·.append r.config.maxOutputBytes l)

/-- Ends a session. -/
def finish (id : String) (o : Outcome) : Option Event × Runner := r.update id (·.finish o)

/-- Gives the lock of a pipeline back, if the session holds it. -/
def release (id pipeline : String) : Runner :=
  if r.locks.get? pipeline = some id then { r with locks := r.locks.erase pipeline } else r

def publish (id : String) (e : Event) : Runner := { r with channel := (r.channel.publish id e).2 }

def closeTopic (id : String) : Runner := { r with channel := r.channel.close id }

/-- Forgets a session. -/
def discard (id : String) : Runner := { r with sessions := r.sessions.erase id }

end Runner

/-! ## Starts in place -/

/-- A start in place.  It changes the runner section by section; what it has changed stays changed even if
it is refused afterwards. -/
abbrev Starting := ExceptT RunnerError (StateM Runner) Unit

namespace Starting

/-- What a start answers, and the runner that it leaves. -/
def on (x : Starting) (r : Runner) : Except RunnerError Unit × Runner := x.run.run r

/-- Takes the lock of a pipeline for a session. -/
def acquire (id pipeline : String) : Starting := do
  match (← get).acquire id pipeline with
  | .ok r => set r
  | .error why => throw why

/-- Makes a running session under a new name, with the lock of its pipeline and a topic. -/
def start (id pipeline : String) : Starting := do
  acquire id pipeline
  modify (·.openTopic id)
  modify (·.enter id pipeline)

end Starting

/-! ## What is done at once -/

namespace Runner

variable (r : Runner)

/-- The runner after a start. -/
def start (id pipeline : String) : Except RunnerError Runner :=
  match (Starting.start id pipeline).on r with
  | (.ok (), r) => .ok r
  | (.error why, _) => .error why

/-- Publishes an event if there is one. -/
def publish? (id : String) : Option Event → Runner
  | some e => r.publish id e
  | none => r

/-- Records a line and publishes it. -/
def append (id : String) (l : LogLine) : Runner :=
  let (event, r) := r.record id l
  r.publish? id event

/-- Ends a session, frees its pipeline and then announces the end. -/
def complete (id : String) (o : Outcome) : Runner :=
  let (event, r) := r.finish id o
  match r.session? id with
  | some s => (r.release id s.pipeline).publish? id event
  | none => r.publish? id event

end Runner

end Flowline.Simulation

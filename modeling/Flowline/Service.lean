import Flowline.Build
import Flowline.Catalog
import Flowline.Simulation.Schedule

/-!
# The service

Stores pipelines, builds them and simulates the scripts.  A pipeline is simulated by one run at a time;
the run finds the secrets that its nodes refer to in its environment.
-/

namespace Flowline

open Simulation

/-- Why a request is refused. -/
inductive ServiceError
  | pipelineNotFound (id : String)
  | sessionNotFound (id : String)
  | build (why : BuildError)
  | conflict (pipeline session : String)

namespace ServiceError

def message : ServiceError → String
  | pipelineNotFound id => "pipeline '" ++ id ++ "' not found"
  | sessionNotFound id => (RunnerError.sessionNotFound id).message
  | build why => why.message
  | conflict pipeline session => (RunnerError.conflict pipeline session).message

def ofRunner : RunnerError → ServiceError
  | .conflict pipeline session => conflict pipeline session
  | .sessionNotFound id => sessionNotFound id

end ServiceError

structure Service where
  store : Table Pipeline
  secrets : Secrets
  chains : Chains
  catalog : Catalog
  schedule : Schedule

namespace Service

/-- A service without pipelines. -/
def new (catalog : Catalog) (secrets : Secrets) (chains : Chains) (config : Config)
    (host : Table String) : Service :=
  ⟨[], secrets, chains, catalog, Schedule.new config host⟩

variable (s : Service)

def runner : Runner := s.schedule.runner

def resources : Resources := ⟨s.secrets, s.chains⟩

/-! ## The store -/

/-- Stores a pipeline under its id, instead of any other. -/
def insert (p : Pipeline) : Service := { s with store := s.store.insert p.id p }

def remove (id : String) : Option Pipeline × Service :=
  (s.store.get? id, { s with store := s.store.erase id })

def pipeline (id : String) : Except ServiceError Pipeline :=
  match s.store.get? id with
  | some p => .ok p
  | none => .error (.pipelineNotFound id)

/-! ## Building -/

def validate (id : String) : Except ServiceError (List Diagnostic) := do
  return (← s.pipeline id).validate s.catalog.schemas

def build (p : Pipeline) : Except ServiceError Compiled :=
  match s.catalog.build s.resources p with
  | .ok compiled => .ok compiled
  | .error why => .error (.build why)

def compile (id : String) : Except ServiceError Compiled := do s.build (← s.pipeline id)

theorem pipeline_of_stored {s : Service} {id : String} {p : Pipeline} (h : s.store.get? id = some p) :
    s.pipeline id = .ok p := by
  rw [pipeline, h]

theorem build_eq (s : Service) (p : Pipeline) :
    s.build p = (s.catalog.build s.resources p).mapError ServiceError.build := by
  rw [build]
  cases s.catalog.build s.resources p <;> rfl

theorem compile_of_stored {s : Service} {id : String} {p : Pipeline} (h : s.store.get? id = some p) :
    s.compile id = s.build p := by
  rw [compile, pipeline_of_stored h]
  rfl

/-! ## Simulating -/

/-- The names of the secrets that the nodes of a pipeline refer to. -/
def secretNames (p : Pipeline) : List String :=
  p.nodes.flatMap fun n =>
    match s.catalog.schemas.get? n.kind with
    | some schema => schema.secrets n
    | none => []

/-- The environment in which a run finds the secrets of its pipeline. -/
def secretEnv (p : Pipeline) : Table String :=
  Table.ofList ((s.secretNames p).filterMap fun name =>
    (s.secrets.value? name).map fun value => (Secrets.envVar name, value))

end Service

/-! ### Requests in place -/

/-- A request in place.  It looks at the service and changes it part by part; what it has changed stays
changed even if it is refused afterwards. -/
abbrev Serving (α : Type) := ExceptT ServiceError (StateM Service) α

namespace Serving

/-- What a request answers, and the service that it leaves. -/
def on (x : Serving α) (s : Service) : Except ServiceError α × Service := x.run.run s

/-- What a request answers with the service after it, or why it is refused. -/
def result (x : Serving α) (s : Service) : Except ServiceError (α × Service) :=
  match x.on s with
  | (.ok a, s) => .ok (a, s)
  | (.error why, _) => .error why

/-- A part that only looks at the service. -/
def ask (f : Service → Except ServiceError α) : Serving α := do
  match f (← get) with
  | .ok a => return a
  | .error why => throw why

/-- A part that the runner does. -/
def runner (x : Simulation.Starting) : Serving Unit := do
  let s ← get
  let (answer, runner) := x.on s.runner
  set { s with schedule := { s.schedule with runner } }
  match answer with
  | .ok () => return ()
  | .error why => throw (.ofRunner why)

/-- Starts a run of a script, with a session of a new name, for a pipeline, which need not be stored. -/
def start (session id code : String) (env : Table String) : Serving String := do
  runner (.start session id)
  modify fun s => { s with schedule := s.schedule.spawn session code env }
  return session

/-- The script of a pipeline that is not being run, and the environment of its run. -/
def prepare (id : String) : Serving (String × Table String) := do
  if let some holder := (← get).runner.active? id then throw (.conflict id holder)
  let p ← ask (·.pipeline id)
  let compiled ← ask (·.build p)
  return (compiled.code, (← get).secretEnv p)

/-- Starts a run of the script of a stored pipeline, with a session of a new name. -/
def simulate (session id : String) : Serving String := do
  let (code, env) ← prepare id
  start session id code env

end Serving

namespace Service

variable (s : Service)

/-- Starts a run of a script for a pipeline. -/
def start (id code : String) (env : Table String) : Except ServiceError (String × Service) :=
  (Serving.start s.schedule.nextId id code env).result s

/-- Starts a run of the script of a stored pipeline. -/
def simulate (id : String) : Except ServiceError (String × Service) :=
  (Serving.simulate s.schedule.nextId id).result s

def stop (session : String) : Except ServiceError Service :=
  match s.schedule.stop session with
  | .ok schedule => .ok { s with schedule }
  | .error e => .error (.ofRunner e)

def session (id : String) : Except ServiceError Session :=
  match s.runner.session? id with
  | some session => .ok session
  | none => .error (.sessionNotFound id)

def subscribe (session : String) : Except ServiceError Subscription :=
  match s.runner.subscribe session with
  | .ok sub => .ok sub
  | .error e => .error (.ofRunner e)

/-! ## Waiting -/

/-- All events of a subscription until its end. -/
def collect (sub : Subscription) : List Event × Service :=
  let (events, schedule) := s.schedule.collect sub
  (events, { s with schedule })

/-- Waits until a session is not running. -/
def waitFor (session : String) : Service := { s with schedule := s.schedule.waitFor session }

/-- Waits until a session is forgotten. -/
def waitGone (session : String) : Service := { s with schedule := s.schedule.waitGone session }

end Service

end Flowline

import Flowline.Kind.FieldType
import Flowline.Kind.Port
import Flowline.Pipeline.Basic

/-!
# Kind schemas

What is known about a kind of node: its category, the fields of its configuration, its ports, the
outside resources it is bound to and whether it has an effect.  `KindSchema.issues` lists what is wrong
with a node's configuration, and `Schemas.readiness` is the state that follows from it.
-/

namespace Flowline

/-- A requirement on a value that is of the right type; the answer says how it is violated. -/
abbrev Constraint := Json → Option String

structure FieldSpec where
  name : String
  type : FieldType
  required : Bool
  constraint : Option Constraint

/-- A resource outside the pipeline that a node needs when it is compiled. -/
inductive BindingSpec
  /-- The secret named by a field; nothing is needed while the field is unset. -/
  | secret (name field : String)
  /-- A chain client, from the port if it is connected, else by the chain name in the field. -/
  | chain (name field : String) (port : Option String)
  /-- A contract address, from the port if it is connected, else from the field. -/
  | contract (name field : String) (port : Option String)

namespace BindingSpec

def name : BindingSpec → String
  | secret name _ => name
  | chain name _ _ => name
  | contract name _ _ => name

def field : BindingSpec → String
  | secret _ field => field
  | chain _ field _ => field
  | contract _ field _ => field

def port? : BindingSpec → Option String
  | secret _ _ => none
  | chain _ _ port => port
  | contract _ _ port => port

def label : BindingSpec → String
  | secret _ _ => "secret"
  | chain _ _ _ => "chain"
  | contract _ _ _ => "contract"

end BindingSpec

structure KindSchema where
  kind : String
  category : Category
  fields : List FieldSpec
  inputs : List Port
  outputs : List Port
  bindings : List BindingSpec
  /-- Leaves a trace outside the run. -/
  effect : Bool
  description : String

/-- What is wrong with one field of a configuration. -/
inductive FieldIssue
  | missing (field : String)
  | invalidType (field : String) (why : Mismatch)
  | invalidValue (field reason : String)
  /-- Not a field of the kind. -/
  | unknown (field : String)

namespace FieldIssue

def field : FieldIssue → String
  | missing field => field
  | invalidType field _ => field
  | invalidValue field _ => field
  | unknown field => field

def reason? : FieldIssue → Option String
  | missing _ => none
  | invalidType _ why => some why.message
  | invalidValue _ reason => some reason
  | unknown _ => none

/-- Whether a node with this issue is not ready. -/
def isBlocking : FieldIssue → Bool
  | unknown _ => false
  | _ => true

end FieldIssue

/-- What is wrong with the value of a declared field. -/
def FieldSpec.issue? (spec : FieldSpec) (v : Option Json) : Option FieldIssue :=
  if isMissing v then if spec.required then some (.missing spec.name) else none
  else v.bind fun v =>
    match spec.type.check v with
    | .error why => some (.invalidType spec.name why)
    | .ok () => (spec.constraint.bind (· v)).map (.invalidValue spec.name)

namespace KindSchema

def declares (s : KindSchema) (field : String) : Bool := s.fields.any (·.name = field)

def input? (s : KindSchema) (name : String) : Option Port := s.inputs.find? (·.name = name)

def output? (s : KindSchema) (name : String) : Option Port := s.outputs.find? (·.name = name)

/-- The issues of a node's configuration: those of the declared fields in order of declaration, then
the unknown fields in order of their names. -/
def issues (s : KindSchema) (n : Node) : List FieldIssue :=
  s.fields.filterMap (fun spec => spec.issue? (n.config.get? spec.name)) ++
    (n.config.keys.filter (! s.declares ·)).map .unknown

/-- The names of the secrets that a node's fields refer to. -/
def secrets (s : KindSchema) (n : Node) : List String :=
  s.bindings.filterMap fun
    | .secret _ field => n.text? field
    | _ => none

end KindSchema

/-- The known kinds, under their names. -/
abbrev Schemas := Table KindSchema

namespace Schemas

/-- Adds a kind, instead of any kind of the same name. -/
def register (schemas : Schemas) (schema : KindSchema) : Schemas :=
  schemas.insert schema.kind schema

def ofList (schemas : List KindSchema) : Schemas := schemas.foldl register []

def isEffect (schemas : Schemas) (kind : String) : Bool := (schemas.get? kind).any (·.effect)

/-- Whether a node is of a known kind of its own category and has no blocking issue. -/
def isValid (schemas : Schemas) (n : Node) : Bool :=
  match schemas.get? n.kind with
  | some s => s.category = n.category && ! (s.issues n).any FieldIssue.isBlocking
  | none => false

/-- The state that follows from a node's configuration and its state so far.  A node that was ready
once is in error until it is valid again, also when its configuration is cleared. -/
def readiness (schemas : Schemas) (n : Node) : NodeState :=
  if schemas.isValid n then .ready
  else match n.state with
    | .ready => .error
    | .error => .error
    | _ => if n.config.all (fun (_, v) => isMissing (some v)) then .draft else .configured

end Schemas

end Flowline

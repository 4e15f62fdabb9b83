import Flowline.Json.Basic
import Flowline.Text

/-!
# Pipelines

A pipeline is a list of nodes, each of a category and a kind and with a configuration of its own, and
a list of edges between their ports.
-/

namespace Flowline

inductive Category
  | trigger
  | capability
  | logic
  | contract
  | chainConfig
  deriving DecidableEq

/-- Readiness of a node's configuration. -/
inductive NodeState
  /-- No field is set yet. -/
  | draft
  /-- Some fields are set, but the configuration is not valid. -/
  | configured
  /-- Every required field is set and every field is valid. -/
  | ready
  /-- Was ready, then an edit made it invalid. -/
  | error
  deriving DecidableEq

structure Node where
  id : String
  category : Category
  kind : String
  config : Members
  state : NodeState
  label : Option String

structure Edge where
  id : Option String
  source : String
  sourcePort : String
  target : String
  targetPort : String
  deriving DecidableEq

structure Pipeline where
  id : String
  name : String
  /-- Grows by one with every edit. -/
  version : Nat
  nodes : List Node
  edges : List Edge

namespace Category

def all : List Category := [trigger, capability, logic, contract, chainConfig]

def name : Category → String
  | trigger => "trigger"
  | capability => "capability"
  | logic => "logic"
  | contract => "contract"
  | chainConfig => "chain-config"

end Category

namespace NodeState

def all : List NodeState := [draft, configured, ready, error]

def name : NodeState → String
  | draft => "draft"
  | configured => "configured"
  | ready => "ready"
  | error => "error"

end NodeState

namespace Node

def isTrigger (n : Node) : Bool := n.category = .trigger

/-- The value of a field, unless it is `null`. -/
def field? (n : Node) (name : String) : Option Json :=
  (n.config.get? name).filter fun v => ! v.isNull

/-- The text of a string field, trimmed, unless nothing is left. -/
def text? (n : Node) (name : String) : Option String :=
  (((n.field? name).bind Json.string?).map Text.trim).filter (· ≠ "")

def textOr (n : Node) (name default : String) : String := (n.text? name).getD default

end Node

/-- `source.port -> target.port`. -/
def Edge.text (e : Edge) : String :=
  e.source ++ "." ++ e.sourcePort ++ " -> " ++ e.target ++ "." ++ e.targetPort

namespace Pipeline

/-- An empty pipeline. -/
def new (id name : String) : Pipeline := ⟨id, name, 0, [], []⟩

/-- The first node of an id. -/
def node? (p : Pipeline) (id : String) : Option Node := p.nodes.find? (·.id = id)

/-- Whether the first node of an id is a trigger. -/
def isTrigger (p : Pipeline) (id : String) : Bool := (p.node? id).any Node.isTrigger

def triggers (p : Pipeline) : List Node := p.nodes.filter Node.isTrigger

end Pipeline

end Flowline

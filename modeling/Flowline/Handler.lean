import Flowline.Binding
import Flowline.Catalog
import Flowline.Diagnostic
import Flowline.Graph.Reach
import Flowline.Script.Line

/-!
# Handlers

A handler is what runs when one trigger fires: a step for each node in the trigger's scope, in
topological order.  A step runs under a guard, the conditions of all control ports that it or a node
before it is fed by.
-/

namespace Flowline

/-- One node of a handler. -/
structure Step where
  node : Node
  inputs : EmitInputs
  /-- The conditions under which the step runs. -/
  guards : List Guard
  fragment : Fragment

structure Handler where
  trigger : String
  /-- The variable of the trigger. -/
  var : String
  hook : TriggerHook
  steps : List Step

/-- What the handlers of a pipeline are made from. -/
structure Plan where
  pipeline : Pipeline
  graph : Graph
  /-- All ids in topological order. -/
  order : List String
  catalog : Catalog
  resources : Resources
  graph_eq : graph = Graph.ofPipeline pipeline
  order_eq : graph.order = .ok order

namespace Plan

variable (plan : Plan)

def vars : List (String × String) := Script.assignVars (plan.pipeline.nodes.map Node.id)

/-- The variable of a node. -/
def var (id : String) : String := (plan.vars.lookup id).getD (Script.stepVar id)

/-- The triggers in topological order. -/
def triggers : List String := plan.order.filter plan.pipeline.isTrigger

/-- The nodes that a handler evaluates. -/
def members (trigger : String) : Ids := plan.graph.scope plan.pipeline.isTrigger trigger

/-- Whether the first node of an id has an effect. -/
def hasEffect (id : String) : Bool :=
  (plan.pipeline.node? id).any fun n => plan.catalog.schemas.isEffect n.kind

/-- The nodes on a path from a trigger to a node with an effect. -/
def critical : Ids :=
  let reached := Ids.ofList (plan.triggers.flatMap plan.graph.reachable)
  let feeding := plan.graph.closureOf plan.graph.predecessors (reached.filter plan.hasEffect)
  reached.filter (feeding.contains ·)

/-! ## Inputs -/

/-- What comes in at the ports of a node. -/
structure Feed where
  ports : Table String := []
  guards : List Guard := []
  warnings : List Diagnostic := []

def crossTriggerInput (n : Node) (l : Link) (trigger : String) : Diagnostic :=
  { severity := .warning, code := .crossTriggerInput, node := some n.id, port := some l.localPort
    nodes := [l.peer, trigger]
    message := "Input '" ++ l.localPort ++ "' of node '" ++ n.id ++ "' comes from '" ++ l.peer ++
      "', which does not run for trigger '" ++ trigger ++ "'; it will be undefined" }

/-- Adds what comes in along one edge.  A peer outside the handler feeds `undefined`. -/
def feedLink (trigger : String) (members : Ids) (steps : List Step) (n : Node) (feed : Feed)
    (l : Link) : Except CompileError Feed :=
  if ! members.contains l.peer then .ok
    { feed with
      ports := feed.ports.insert l.localPort "undefined"
      warnings := feed.warnings ++ [crossTriggerInput n l trigger] }
  else
    let peer? := steps.find? (·.node.id = l.peer)
    match peer?.bind (·.fragment.outputs.get? l.peerPort), peer? with
    | some expr, some peer =>
      let guards := peer.guards ++ (peer.fragment.control.get? l.peerPort).toList
      .ok { feed with
        ports := feed.ports.insert l.localPort expr
        guards := guards.foldl (fun gs g => g.insert gs) feed.guards }
    | _, _ => .error (.missingOutput l.peer l.peerPort)

/-- What comes in along the edges to a node, in the order of links. -/
def feed (trigger : String) (members : Ids) (steps : List Step) (n : Node) :
    Except CompileError Feed :=
  (plan.graph.incoming n.id).foldlM (feedLink trigger members steps n) {}

/-! ## Bindings -/

/-- The bindings of a node. -/
structure Bound where
  bindings : Table String := []
  warnings : List Diagnostic := []

def unresolvedBinding (n : Node) (message : String) : Diagnostic :=
  { severity := .warning, code := .unresolvedBinding, node := some n.id, message }

/-- Adds one binding.  One that is not resolved is an error at a critical node, elsewhere an expression
that fails when it is evaluated. -/
def bindSpec (critical : Ids) (ports : Table String) (n : Node) (bound : Bound)
    (spec : BindingSpec) : Except CompileError Bound :=
  match spec.resolve n (spec.port?.bind ports.get?) plan.resources with
  | .skipped => .ok bound
  | .resolved expr => .ok { bound with bindings := bound.bindings.insert spec.name expr }
  | .unresolved why =>
    if critical.contains n.id then .error (.unresolvedBinding n.id spec.label why.detail)
    else
      let message := CompileError.unresolvedMessage n.id spec.label why.detail
      .ok
        { bindings := bound.bindings.insert spec.name (placeholderExpr message)
          warnings := bound.warnings ++ [unresolvedBinding n message] }

/-- The bindings of a node's kind, in order of declaration. -/
def bindAll (critical : Ids) (ports : Table String) (n : Node) : Except CompileError Bound :=
  match plan.catalog.schemas.get? n.kind with
  | none => .ok {}
  | some schema => schema.bindings.foldlM (plan.bindSpec critical ports n) {}

/-! ## Steps -/

def contradictoryGuard (n : Node) : Diagnostic :=
  { severity := .warning, code := .contradictoryGuard, node := some n.id
    message := "Node '" ++ n.id ++
      "' requires both branches of the same condition and will never run" }

/-- The step of a node after the steps before it, and the warnings that it raises. -/
def step (critical : Ids) (trigger : String) (members : Ids) (steps : List Step) (n : Node) :
    Except CompileError (Step × List Diagnostic) := do
  let feed ← plan.feed trigger members steps n
  let bound ← plan.bindAll critical feed.ports n
  let inputs : EmitInputs := ⟨plan.var n.id, feed.ports, bound.bindings⟩
  match plan.catalog.emitters.get? n.kind with
  | none => throw (.unsupportedKind n.id n.kind)
  | some emit =>
    let fragment ← emit n inputs
    let never := if Guard.contradictory feed.guards then [contradictoryGuard n] else []
    return (⟨n, inputs, feed.guards, fragment⟩, feed.warnings ++ never ++ bound.warnings)

/-- Steps and the warnings raised on the way. -/
structure Steps where
  steps : List Step := []
  warnings : List Diagnostic := []

def addStep (critical : Ids) (trigger : String) (members : Ids) (s : Steps) (n : Node) :
    Except CompileError Steps := do
  let (step, warnings) ← plan.step critical trigger members s.steps n
  return ⟨s.steps ++ [step], s.warnings ++ warnings⟩

/-- The nodes of a handler, in topological order. -/
def memberNodes (members : Ids) : List Node :=
  (plan.order.filter (members.contains ·)).filterMap plan.pipeline.node?

/-- The handler of a trigger, and the warnings that it raises. -/
def handler (critical : Ids) (trigger : String) : Except CompileError (Handler × List Diagnostic) := do
  let members := plan.members trigger
  let s ← (plan.memberNodes members).foldlM (plan.addStep critical trigger members) {}
  match (s.steps.find? (·.node.id = trigger)).bind (·.fragment.trigger) with
  | none => throw (.missingTriggerHook trigger)
  | some hook => return (⟨trigger, plan.var trigger, hook, s.steps⟩, s.warnings)

end Plan

/-! ## Code -/

open Script

/-- The lines of a step.  Under a guard the variable is declared in front of the condition, so that
later steps can refer to it. -/
def Step.lines (s : Step) : List Line :=
  let var := s.inputs.var
  let body (assign : String) :=
    s.fragment.setup.map line ++ (s.fragment.value.map fun v => line (assign ++ " = " ++ v ++ ";")).toList
      ++ s.fragment.effects.map line
  if s.guards.isEmpty then body ("const " ++ var)
  else
    (s.fragment.value.map fun _ => line ("let " ++ var ++ ": any;")).toList ++
      block ("if (" ++ String.intercalate " && " (s.guards.map Guard.render) ++ ") \x7b")
        (body var) "\x7d"

/-- The comment in front of a step. -/
def Step.comment (index : Nat) (s : Step) : Line :=
  .comment 0 ("[" ++ toString index ++ "] " ++ s.node.id ++ " (" ++ s.node.kind ++ ")")

/-- The steps from a number on, with a blank line after each. -/
def Step.linesFrom : Nat → List Step → List Line
  | _, [] => []
  | index, s :: rest => s.comment index :: (s.lines ++ .blank :: linesFrom (index + 1) rest)

namespace Handler

/-- The name of a handler, from the variable of its trigger. -/
def name (h : Handler) : String := "on_" ++ String.ofList (h.var.toList.drop "step_".length)

def lines (h : Handler) : List Line :=
  block ("const " ++ h.name ++ " = (runtime: Runtime<Config>, payload: " ++ h.hook.payloadType ++
      "): string => \x7b")
    (Step.linesFrom 1 h.steps ++ [line "return \"ok\";"]) "\x7d;"

end Handler

end Flowline

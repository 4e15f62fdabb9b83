import Flowline.Diagnostic
import Flowline.Graph.Order
import Flowline.Graph.Reach
import Flowline.Kind.Schema

/-!
# Validation

Everything that is wrong with a pipeline, as diagnostics in a fixed order.  Repeated ids, unknown ends
of edges and cycles end the validation, since what follows presumes a well-formed graph.
-/

namespace Flowline

namespace Validation

/-! ## Structure -/

/-- One diagnostic for each id that is declared more than once. -/
def uniqueIds (g : Graph) : List Diagnostic :=
  g.duplicates.map fun id =>
    { severity := .error, code := .duplicateNodeId, node := some id
      message := "Node id '" ++ id ++ "' is used more than once" }

/-- One diagnostic for each end of an edge that is not declared. -/
def references (g : Graph) : List Diagnostic :=
  g.dangling.flatMap fun e =>
    ([("source", e.source), ("target", e.target)].filter fun (_, id) => ! g.contains id).map
      fun (role, id) =>
        { severity := .error, code := .unknownNodeReference, node := some id
          message := "Edge " ++ e.text ++ " references unknown " ++ role ++ " node '" ++ id ++ "'" }

/-- An input port of a node. -/
structure Socket where
  node : String
  port : String
  deriving DecidableEq

def Socket.before (a b : Socket) : Bool :=
  a.node < b.node || (a.node = b.node && a.port < b.port)

/-- Puts a socket into an ascending list, once. -/
def Socket.insert (s : Socket) : List Socket → List Socket
  | [] => [s]
  | x :: xs => if s.before x then s :: x :: xs else if s = x then x :: xs else x :: insert s xs

/-- The sockets that edges lead to, in order. -/
def sockets (p : Pipeline) : List Socket :=
  (p.edges.map fun e => Socket.mk e.target e.targetPort).foldr Socket.insert []

/-- The sources of the edges that lead to a socket. -/
def feeds (p : Pipeline) (s : Socket) : List String :=
  (p.edges.filter fun e => e.target = s.node && e.targetPort = s.port).map Edge.source

/-- One diagnostic for each socket that more than one edge leads to. -/
def fanIn (p : Pipeline) : List Diagnostic :=
  ((sockets p).filter fun s => 1 < (feeds p s).length).map fun s =>
    { severity := .error, code := .portFanIn, node := some s.node, port := some s.port
      nodes := feeds p s
      message := "Port '" ++ s.port ++ "' of node '" ++ s.node ++ "' has " ++
        toString (feeds p s).length ++ " incoming edges" }

def acyclic (g : Graph) : List Diagnostic :=
  match g.order with
  | .ok _ => []
  | .error cycle =>
    [{ severity := .error, code := .cycleDetected, message := cycle.message, nodes := cycle.ids }]

/-! ## Triggers -/

/-- One diagnostic for each trigger that an edge leads to. -/
def triggerInputs (p : Pipeline) (g : Graph) : List Diagnostic :=
  (p.triggers.filter fun t => ! (g.incoming t.id).isEmpty).map fun t =>
    let links := g.incoming t.id
    { severity := .error, code := .triggerHasIncoming, node := some t.id
      nodes := links.map Link.peer
      message := "Trigger node '" ++ t.id ++ "' must not have incoming edges, found " ++
        toString links.length }

/-- The nodes that run for some trigger. -/
def covered (p : Pipeline) (g : Graph) : List String :=
  p.triggers.flatMap fun t => g.scope p.isTrigger t.id

/-- One warning for each component with nodes that run for no trigger. -/
def unreachable (p : Pipeline) (g : Graph) : List Diagnostic :=
  let run := covered p g
  g.components.filterMap fun component =>
    match component.filter (! run.contains ·) with
    | [] => none
    | first :: rest => some
      { severity := .warning, code := .unreachableSubgraph, node := some first
        nodes := first :: rest
        message := toString (rest.length + 1) ++ " node(s) starting at '" ++ first ++
          "' do not run for any trigger" }

/-- Whether a trigger reaches a node with an effect. -/
def hasEffect (schemas : Schemas) (p : Pipeline) (g : Graph) : Bool :=
  let reached := p.triggers.flatMap fun t => g.reachable t.id
  p.nodes.any fun n => reached.contains n.id && schemas.isEffect n.kind

def effect (schemas : Schemas) (p : Pipeline) (g : Graph) : List Diagnostic :=
  if hasEffect schemas p g then []
  else [{ severity := .warning, code := .noEffectReachable
          message := "No trigger reaches a node with an observable effect" }]

def triggerUse (schemas : Schemas) (p : Pipeline) (g : Graph) : List Diagnostic :=
  if p.triggers.isEmpty then
    [{ severity := .error, code := .noTrigger
       message := "Pipeline must contain at least one trigger node" }]
  else triggerInputs p g ++ unreachable p g ++ effect schemas p g

/-! ## Nodes -/

/-- The diagnostic of an issue with a field of a node. -/
def ofIssue (n : Node) (issue : FieldIssue) : Diagnostic :=
  let about (reason : String) :=
    "Field '" ++ issue.field ++ "' of node '" ++ n.id ++ "': " ++ reason
  let (severity, code, message) : Severity × DiagnosticCode × String := match issue with
    | .missing field => (.error, .missingRequiredField,
      "Node '" ++ n.id ++ "' is missing required field '" ++ field ++ "'")
    | .invalidType _ why => (.error, .invalidFieldType, about why.message)
    | .invalidValue _ reason => (.error, .invalidFieldValue, about reason)
    | .unknown field => (.warning, .unknownField,
      "Field '" ++ field ++ "' is not used by kind '" ++ n.kind ++ "' and will be ignored")
  { severity, code, message, node := some n.id, field := some issue.field }

/-- The diagnostics of one node by itself. -/
def node (schemas : Schemas) (n : Node) : List Diagnostic :=
  match schemas.get? n.kind with
  | none =>
    [{ severity := .error, code := .unknownKind, node := some n.id
       message := "Node '" ++ n.id ++ "' has unknown kind '" ++ n.kind ++ "'" }]
  | some s =>
    (if s.category = n.category then [] else
      [{ severity := .error, code := .categoryMismatch, node := some n.id
         message := "Kind '" ++ n.kind ++ "' belongs to category '" ++ s.category.name ++
          "', node '" ++ n.id ++ "' says '" ++ n.category.name ++ "'" }]) ++
    (s.issues n).map (ofIssue n)

/-! ## Ports -/

/-- A port that an edge refers to and its kind does not have. -/
def unknownPort (kind role port node : String) (e : Edge) : Diagnostic :=
  { severity := .error, code := .unknownPort, node := some node, port := some port
    message := "Kind '" ++ kind ++ "' has no " ++ role ++ " port '" ++ port ++ "' (edge " ++ e.text ++
      ")" }

/-- The diagnostics of an edge between two nodes. -/
def edgePorts (schemas : Schemas) (source target : Node) (e : Edge) : List Diagnostic :=
  let output := (schemas.get? source.kind).map (·.output? e.sourcePort)
  let input := (schemas.get? target.kind).map (·.input? e.targetPort)
  (match output with
    | some none => [unknownPort source.kind "output" e.sourcePort source.id e]
    | _ => []) ++
  (match input with
    | some none => [unknownPort target.kind "input" e.targetPort target.id e]
    | _ => []) ++
  (match output, input with
    | some (some a), some (some b) =>
      if b.type.accepts a.type then [] else
        [{ severity := .error, code := .portTypeMismatch, node := some target.id
           port := some e.targetPort, nodes := [source.id, target.id]
           message := "Edge " ++ e.text ++ " connects a " ++ a.type.name ++ " output to a " ++
            b.type.name ++ " input" }]
    | _, _ => [])

/-- The diagnostics of all edges; those into triggers have been reported before. -/
def ports (schemas : Schemas) (p : Pipeline) : List Diagnostic :=
  p.edges.flatMap fun e =>
    match p.node? e.source, p.node? e.target with
    | some source, some target =>
      if target.isTrigger then [] else edgePorts schemas source target e
    | _, _ => []

end Validation

open Validation in
/-- Every diagnostic of a pipeline. -/
def Pipeline.validate (schemas : Schemas) (p : Pipeline) : List Diagnostic :=
  let g := Graph.ofPipeline p
  if ! (uniqueIds g).isEmpty then uniqueIds g
  else if ! (references g).isEmpty then references g
  else if ! (acyclic g).isEmpty then fanIn p ++ acyclic g
  else fanIn p ++ triggerUse schemas p g ++ p.nodes.flatMap (node schemas) ++ ports schemas p

end Flowline

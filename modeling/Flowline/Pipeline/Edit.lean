import Flowline.Kind.Schema

/-!
# Editing pipelines

Every edit either succeeds and raises the version by one, or is refused and changes nothing.
-/

namespace Flowline

inductive EditError
  | duplicateNode (id : String)
  | unknownNode (id : String)
  | portOccupied (node port : String)
  | unknownEdge (source sourcePort target targetPort : String)
  deriving DecidableEq

def EditError.message : EditError → String
  | duplicateNode id => "node '" ++ id ++ "' already exists"
  | unknownNode id => "node '" ++ id ++ "' does not exist"
  | portOccupied node port =>
    "port '" ++ port ++ "' of node '" ++ node ++ "' already has an incoming edge"
  | unknownEdge source sourcePort target targetPort =>
    "edge " ++ source ++ "." ++ sourcePort ++ " -> " ++ target ++ "." ++ targetPort ++
      " does not exist"

/-- Whether an edge leads from one port to another. -/
def Edge.joins (e : Edge) (source sourcePort target targetPort : String) : Bool :=
  e.source = source && e.sourcePort = sourcePort && e.target = target && e.targetPort = targetPort

/-- Whether an edge starts or ends at a node. -/
def Edge.touches (e : Edge) (id : String) : Bool := e.source = id || e.target = id

/-- The list with `f` applied to the first member that satisfies `p`. -/
def modifyFirst (p : α → Bool) (f : α → α) : List α → List α
  | [] => []
  | x :: xs => if p x then f x :: xs else x :: modifyFirst p f xs

/-! ## Edits in place -/

/-- An edit in place.  It looks at the pipeline and changes it part by part; what it has changed stays
changed even if it is refused afterwards. -/
abbrev Editing (α : Type) := ExceptT EditError (StateM Pipeline) α

namespace Editing

/-- What an edit answers, and the pipeline that it leaves. -/
def on (edit : Editing α) (p : Pipeline) : Except EditError α × Pipeline := edit.run.run p

/-- What an edit answers with the pipeline after it, or why it is refused. -/
def result (edit : Editing α) (p : Pipeline) : Except EditError (α × Pipeline) :=
  match edit.on p with
  | (.ok a, q) => .ok (a, q)
  | (.error why, _) => .error why

/-- Marks that there has been an edit. -/
def bump : Editing Unit := modify fun p => { p with version := p.version + 1 }

/-- The first node of an id, which there must be. -/
def node (id : String) : Editing Node := do
  match (← get).node? id with
  | some n => return n
  | none => throw (.unknownNode id)

/-- Adds a node of a new id. -/
def addNode (n : Node) : Editing Unit := do
  if ((← get).node? n.id).isSome then throw (.duplicateNode n.id)
  modify fun p => { p with nodes := p.nodes ++ [n] }
  bump

/-- Removes the first node of an id and every edge that touches it. -/
def removeNode (id : String) : Editing Node := do
  let n ← node id
  modify fun p => { p with nodes := p.nodes.eraseP (·.id = id) }
  modify fun p => { p with edges := p.edges.filter (! ·.touches id) }
  bump
  return n

/-- Adds an edge between existing nodes to a port that is still free. -/
def addEdge (e : Edge) : Editing Unit := do
  let _ ← node e.source
  let _ ← node e.target
  if (← get).edges.any fun f => f.target = e.target && f.targetPort = e.targetPort then
    throw (.portOccupied e.target e.targetPort)
  modify fun p => { p with edges := p.edges ++ [e] }
  bump

/-- Removes the first edge between two ports. -/
def removeEdge (source sourcePort target targetPort : String) : Editing Edge := do
  match (← get).edges.find? (·.joins source sourcePort target targetPort) with
  | none => throw (.unknownEdge source sourcePort target targetPort)
  | some e =>
    modify fun p => { p with edges := p.edges.eraseP (·.joins source sourcePort target targetPort) }
    bump
    return e

/-- Replaces the configuration of the first node of an id; the answer is the node's new state. -/
def updateConfig (schemas : Schemas) (id : String) (config : Members) : Editing NodeState := do
  let n ← node id
  let state := schemas.readiness { n with config }
  modify fun p =>
    { p with nodes := modifyFirst (·.id = id) (fun n => { n with config, state }) p.nodes }
  bump
  return state

end Editing

/-! ## Edited pipelines -/

namespace Pipeline

def addNode (p : Pipeline) (n : Node) : Except EditError Pipeline :=
  ((Editing.addNode n).result p).map Prod.snd

def removeNode (p : Pipeline) (id : String) : Except EditError (Node × Pipeline) :=
  (Editing.removeNode id).result p

def addEdge (p : Pipeline) (e : Edge) : Except EditError Pipeline :=
  ((Editing.addEdge e).result p).map Prod.snd

def removeEdge (p : Pipeline) (source sourcePort target targetPort : String) :
    Except EditError (Edge × Pipeline) :=
  (Editing.removeEdge source sourcePort target targetPort).result p

def updateConfig (schemas : Schemas) (p : Pipeline) (id : String) (config : Members) :
    Except EditError (NodeState × Pipeline) :=
  (Editing.updateConfig schemas id config).result p

end Pipeline

end Flowline

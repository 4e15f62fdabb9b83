import Flowline.Json.Record
import Flowline.Pipeline.Basic

/-!
# The pipeline document

Reading and writing pipelines as JSON.  `Pipeline.parse` reports the first fault of a document;
`Pipeline.serialize` writes one that it reads back.
-/

namespace Flowline

open Json.Reader

/-! ## Reading -/

namespace Edge

structure Draft where
  id : Option (Option String) := none
  source : Option String := none
  sourcePort : Option String := none
  target : Option String := none
  targetPort : Option String := none

def record : Record Draft Edge where
  name := "struct Edge"
  empty := {}
  fields := [
    .of "id" Draft.id (fun v s => { s with id := some v }) fun _ => string?,
    .of "source" Draft.source (fun v s => { s with source := some v }) fun _ => string,
    .of "sourcePort" Draft.sourcePort (fun v s => { s with sourcePort := some v }) fun _ => string,
    .of "target" Draft.target (fun v s => { s with target := some v }) fun _ => string,
    .of "targetPort" Draft.targetPort (fun v s => { s with targetPort := some v }) fun _ => string]
  close fault s := do
    return {
      id := s.id.getD none
      source := ← require (fault 1 "source") s.source
      sourcePort := ← require (fault 2 "sourcePort") s.sourcePort
      target := ← require (fault 3 "target") s.target
      targetPort := ← require (fault 4 "targetPort") s.targetPort }

end Edge

namespace Node

structure Draft where
  id : Option String := none
  category : Option Category := none
  kind : Option String := none
  config : Option Members := none
  state : Option NodeState := none
  label : Option (Option String) := none

def readCategory (room : Nat) : Json.Reader Category :=
  variant room (Category.all.map fun c => (c.name, c))

def readState (room : Nat) : Json.Reader NodeState :=
  variant room (NodeState.all.map fun s => (s.name, s))

def readConfig (room : Nat) : Json.Reader Members :=
  table room (fun (ms : Members) key v => ms.insert key v) [] value

def record : Record Draft Node where
  name := "struct Node"
  empty := {}
  fields := [
    .of "id" Draft.id (fun v s => { s with id := some v }) fun _ => string,
    .of "category" Draft.category (fun v s => { s with category := some v }) readCategory,
    .of "kind" Draft.kind (fun v s => { s with kind := some v }) fun _ => string,
    .of "config" Draft.config (fun v s => { s with config := some v }) readConfig,
    .of "state" Draft.state (fun v s => { s with state := some v }) readState,
    .of "label" Draft.label (fun v s => { s with label := some v }) fun _ => string?]
  close fault s := do
    return {
      id := ← require (fault 0 "id") s.id
      category := ← require (fault 1 "category") s.category
      kind := ← require (fault 2 "kind") s.kind
      config := s.config.getD []
      state := s.state.getD .draft
      label := s.label.getD none }

/-- The node that a document describes. -/
def parse (text : String) : Except Json.Fault Node := document (Json.Reader.record Node.record) text

end Node

namespace Pipeline

structure Draft where
  id : Option String := none
  name : Option String := none
  version : Option Nat := none
  nodes : Option (List Node) := none
  edges : Option (List Edge) := none

def record : Record Draft Pipeline where
  name := "struct Pipeline"
  empty := {}
  fields := [
    .of "id" Draft.id (fun v s => { s with id := some v }) fun _ => string,
    .of "name" Draft.name (fun v s => { s with name := some v }) fun _ => string,
    .of "version" Draft.version (fun v s => { s with version := some v }) fun _ => natural "u64",
    .of "nodes" Draft.nodes (fun v s => { s with nodes := some v })
      fun room => list room (Json.Reader.record Node.record),
    .of "edges" Draft.edges (fun v s => { s with edges := some v })
      fun room => list room (Json.Reader.record Edge.record)]
  close fault s := do
    return {
      id := ← require (fault 0 "id") s.id
      name := s.name.getD ""
      version := s.version.getD 0
      nodes := s.nodes.getD []
      edges := s.edges.getD [] }

/-- The pipeline that a document describes. -/
def parse (text : String) : Except Json.Fault Pipeline :=
  document (Json.Reader.record Pipeline.record) text

end Pipeline

/-- What is said of a document that cannot be read. -/
def Json.Fault.documentMessage (fault : Json.Fault) : String :=
  "failed to parse pipeline JSON: " ++ fault.message

/-! ## Writing -/

/-- A member that is left out when there is nothing to say. -/
def Members.optional (key : String) (text : Option String) : Members :=
  text.toList.map fun s => (key, .string s)

def Edge.toJson (e : Edge) : Json :=
  .object (Members.optional "id" e.id ++
    [("source", .string e.source), ("sourcePort", .string e.sourcePort),
      ("target", .string e.target), ("targetPort", .string e.targetPort)])

def Node.toJson (n : Node) : Json :=
  .object ([("id", .string n.id), ("category", .string n.category.name), ("kind", .string n.kind),
      ("config", .object n.config), ("state", .string n.state.name)] ++
    Members.optional "label" n.label)

def Pipeline.toJson (p : Pipeline) : Json :=
  .object [("id", .string p.id), ("name", .string p.name), ("version", .nat p.version),
    ("nodes", .array (p.nodes.map Node.toJson)), ("edges", .array (p.edges.map Edge.toJson))]

/-- The document of a pipeline. -/
def Pipeline.serialize (p : Pipeline) : String := p.toJson.render

end Flowline

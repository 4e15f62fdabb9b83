import Flowline.Json.Basic

/-!
# Diagnostics

Findings about a pipeline: how grave, of what sort, in which words and where.
-/

namespace Flowline

inductive Severity
  | error
  | warning
  deriving DecidableEq

/-- The sorts of findings; the last three come from compiling. -/
inductive DiagnosticCode
  | duplicateNodeId
  | unknownNodeReference
  | portFanIn
  | cycleDetected
  | noTrigger
  | triggerHasIncoming
  | unreachableSubgraph
  | noEffectReachable
  | unknownKind
  | categoryMismatch
  | missingRequiredField
  | invalidFieldType
  | invalidFieldValue
  | unknownField
  | unknownPort
  | portTypeMismatch
  | unresolvedBinding
  | contradictoryGuard
  | crossTriggerInput
  deriving DecidableEq

structure Diagnostic where
  severity : Severity
  code : DiagnosticCode
  message : String
  node : Option String := none
  nodes : List String := []
  field : Option String := none
  port : Option String := none
  deriving DecidableEq

def Severity.name : Severity → String
  | error => "error"
  | warning => "warning"

namespace DiagnosticCode

def all : List DiagnosticCode := [duplicateNodeId, unknownNodeReference, portFanIn, cycleDetected,
  noTrigger, triggerHasIncoming, unreachableSubgraph, noEffectReachable, unknownKind,
  categoryMismatch, missingRequiredField, invalidFieldType, invalidFieldValue, unknownField,
  unknownPort, portTypeMismatch, unresolvedBinding, contradictoryGuard, crossTriggerInput]

def name : DiagnosticCode → String
  | duplicateNodeId => "duplicate-node-id"
  | unknownNodeReference => "unknown-node-reference"
  | portFanIn => "port-fan-in"
  | cycleDetected => "cycle-detected"
  | noTrigger => "no-trigger"
  | triggerHasIncoming => "trigger-has-incoming"
  | unreachableSubgraph => "unreachable-subgraph"
  | noEffectReachable => "no-effect-reachable"
  | unknownKind => "unknown-kind"
  | categoryMismatch => "category-mismatch"
  | missingRequiredField => "missing-required-field"
  | invalidFieldType => "invalid-field-type"
  | invalidFieldValue => "invalid-field-value"
  | unknownField => "unknown-field"
  | unknownPort => "unknown-port"
  | portTypeMismatch => "port-type-mismatch"
  | unresolvedBinding => "unresolved-binding"
  | contradictoryGuard => "contradictory-guard"
  | crossTriggerInput => "cross-trigger-input"

end DiagnosticCode

namespace Diagnostic

def isError (d : Diagnostic) : Bool := d.severity = .error

/-- `severity[code]: message`. -/
def text (d : Diagnostic) : String :=
  d.severity.name ++ "[" ++ d.code.name ++ "]: " ++ d.message

/-- The members that are set, in the order in which they are declared. -/
def toJson (d : Diagnostic) : Json :=
  let optional (key : String) (value : Option String) : List (String × Json) :=
    value.toList.map fun s => (key, .string s)
  .object ([("severity", .string d.severity.name), ("code", .string d.code.name),
      ("message", .string d.message)] ++ optional "nodeId" d.node ++
    (if d.nodes.isEmpty then [] else [("nodes", .strings d.nodes)]) ++
    optional "field" d.field ++ optional "port" d.port)

/-- No diagnostic is an error. -/
def isCompilable (ds : List Diagnostic) : Bool := ! ds.any isError

/-- A diagnostic at the end of a list, unless the list has it already. -/
def append (ds : List Diagnostic) (d : Diagnostic) : List Diagnostic :=
  if ds.contains d then ds else ds ++ [d]

/-- Diagnostics followed by those of another list that are not there yet. -/
def merge (ds more : List Diagnostic) : List Diagnostic := more.foldl append ds

end Diagnostic

end Flowline

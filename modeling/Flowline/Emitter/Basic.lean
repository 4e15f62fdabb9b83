import Flowline.Graph.Order
import Flowline.Ordered

/-!
# Emitters

An emitter turns a node and the expressions that feed it into a fragment: the code that the node adds
to a handler and the expressions at its outputs.
-/

namespace Flowline

/-- Why a pipeline does not compile. -/
inductive CompileError
  | cycle (cycle : Cycle)
  | noTrigger
  | unsupportedKind (node kind : String)
  | unresolvedBinding (node binding detail : String)
  | missingOutput (node port : String)
  | missingTriggerHook (node : String)
  deriving DecidableEq

namespace CompileError

def code : CompileError → String
  | cycle _ => "cycle-detected"
  | noTrigger => "no-trigger"
  | unsupportedKind _ _ => "unsupported-kind"
  | unresolvedBinding _ _ _ => "unresolved-binding"
  | missingOutput _ _ => "missing-output"
  | missingTriggerHook _ => "missing-trigger-hook"

/-- The node at which the error lies. -/
def node? : CompileError → Option String
  | cycle _ => none
  | noTrigger => none
  | unsupportedKind node _ => some node
  | unresolvedBinding node _ _ => some node
  | missingOutput node _ => some node
  | missingTriggerHook node => some node

/-- What is said of a binding without an expression. -/
def unresolvedMessage (node binding detail : String) : String :=
  binding ++ " binding of node '" ++ node ++ "' cannot be resolved: " ++ detail

def message : CompileError → String
  | cycle c => c.message
  | noTrigger => "pipeline has no trigger node"
  | unsupportedKind node kind => "node '" ++ node ++ "' has unsupported kind '" ++ kind ++ "'"
  | unresolvedBinding node binding detail => unresolvedMessage node binding detail
  | missingOutput node port =>
    "emitter for node '" ++ node ++ "' did not produce output port '" ++ port ++ "'"
  | missingTriggerHook node => "trigger node '" ++ node ++ "' produced no trigger registration"

end CompileError

/-- A condition under which a step runs: the value of a variable, or its negation. -/
structure Guard where
  var : String
  negated : Bool
  deriving DecidableEq

namespace Guard

def render (g : Guard) : String := if g.negated then "!" ++ g.var else g.var

/-- By variable; the plain condition is before the negated one. -/
def before (a b : Guard) : Bool := a.var < b.var || (a.var = b.var && ! a.negated && b.negated)

/-- Puts a condition into an ascending list, once. -/
def insert (g : Guard) : List Guard → List Guard
  | [] => [g]
  | x :: xs => if g.before x then g :: x :: xs else if g = x then x :: xs else x :: insert g xs

theorem mem_insert {g x : Guard} {gs : List Guard} : x ∈ insert g gs ↔ x = g ∨ x ∈ gs := by
  induction gs with
  | nil => simp [insert]
  | cons y ys ih =>
    simp only [insert]
    split
    · simp
    · split
      · rename_i h
        simp [h]
      · simp [ih, or_left_comm]

theorem mem_foldl_insert {new gs : List Guard} {x : Guard} :
    x ∈ new.foldl (fun gs g => g.insert gs) gs ↔ x ∈ new ∨ x ∈ gs := by
  induction new generalizing gs with
  | nil => simp
  | cons y ys ih => simp [ih, mem_insert, or_assoc, or_left_comm]

/-- Some variable is wanted both true and false. -/
def contradictory (guards : List Guard) : Bool :=
  guards.any fun g => ! g.negated && guards.contains ⟨g.var, true⟩

end Guard

/-- How a trigger has its handler called. -/
structure TriggerHook where
  /-- Makes the trigger when the workflow starts. -/
  capability : String
  /-- The type of what the handler is given. -/
  payloadType : String
  deriving DecidableEq

/-- What one node adds to a handler. -/
structure Fragment where
  setup : List String := []
  /-- Becomes the value of the node's variable. -/
  value : Option String := none
  effects : List String := []
  /-- Expressions at the output ports. -/
  outputs : Table String := []
  /-- Conditions on what is fed by a control port. -/
  control : Table Guard := []
  trigger : Option TriggerHook := none
  deriving DecidableEq

/-- What an emitter knows besides the node. -/
structure EmitInputs where
  /-- The node's variable. -/
  var : String
  /-- Expressions at the connected input ports. -/
  ports : Table String := []
  /-- Expressions of the bindings. -/
  bindings : Table String := []

namespace EmitInputs

def portOr (i : EmitInputs) (name default : String) : String := (i.ports.get? name).getD default

/-- The expression at a port, `undefined` if it is not connected. -/
def port (i : EmitInputs) (name : String) : String := i.portOr name "undefined"

/-- The expression of a binding, `undefined` if it has none. -/
def binding (i : EmitInputs) (name : String) : String := (i.bindings.get? name).getD "undefined"

end EmitInputs

abbrev Emitter := Node → EmitInputs → Except CompileError Fragment

/-- The emitters of the kinds that have one. -/
abbrev Emitters := Table Emitter

end Flowline

import Flowline.Emitter.Basic
import Flowline.Kind.Schema

/-!
# Emitters from templates

A kind may be given an emitter as texts with holes: `{var}` for the node's variable, `{in:NAME}` and
`{bind:NAME}` for the expressions of its inputs and bindings.
-/

namespace Flowline

structure Template where
  setup : List String
  value : Option String
  effects : List String
  outputs : Table String
  /-- For each control port whether its condition is negated. -/
  control : Table Bool
  trigger : Option TriggerHook

namespace Template

/-- A text with its holes filled, inputs and bindings in the order given. -/
def fill (inputs bindings : List String) (i : EmitInputs) (text : String) : String :=
  let text := Text.replace text "\x7bvar\x7d" i.var
  let text := inputs.foldl
    (fun t name => Text.replace t ("\x7bin:" ++ name ++ "\x7d") (i.port name)) text
  bindings.foldl
    (fun t name => Text.replace t ("\x7bbind:" ++ name ++ "\x7d") (i.binding name)) text

/-- The emitter of a template for a kind. -/
def emitter (t : Template) (schema : KindSchema) : Emitter := fun _ i =>
  let fill := fill (schema.inputs.map Port.name) (schema.bindings.map BindingSpec.name) i
  .ok {
    setup := t.setup.map fill
    value := t.value.map fill
    effects := t.effects.map fill
    outputs := t.outputs.map fun (port, expr) => (port, fill expr)
    control := t.control.map fun (port, negated) => (port, ⟨i.var, negated⟩)
    trigger := t.trigger.map fun hook => { hook with capability := fill hook.capability } }

end Template

end Flowline

import Flowline.Build
import Flowline.Proofs.Compile.Rearranged

/-!
# No value of a secret enters a script

A binding asks of the secrets only whether there is one of some name.  So plans whose secrets have the
same names answer alike, and validation asks for no secrets at all: what is built is the same, whatever
the values of the secrets are.
-/

namespace Flowline

/-- Resources with the same chains and with secrets of the same names. -/
structure Resources.SameNames (a b : Resources) : Prop where
  secrets : ∀ name, a.secrets.has name = b.secrets.has name
  chains : a.chains = b.chains

variable {a b : Resources}

/-- A binding only asks for the name of a secret. -/
theorem BindingSpec.resolve_of_sameNames (h : a.SameNames b) (spec : BindingSpec) (n : Node)
    (feed : Option String) : spec.resolve n feed a = spec.resolve n feed b := by
  unfold resolve
  simp only [h.secrets, h.chains]

namespace Catalog

theorem workflow_of_sameNames (h : a.SameNames b) (c : Catalog) (p : Pipeline) :
    c.workflow a p = c.workflow b p := by
  cases hp : (Graph.ofPipeline p).order with
  | error cycle => rw [workflow_eq_of_cycle hp, workflow_eq_of_cycle hp]
  | ok order =>
    obtain ⟨x, hxp, hxo, hxc, hxr, hx⟩ := workflow_of_order (c := c) (r := a) hp
    obtain ⟨y, hyp, hyo, hyc, hyr, hy⟩ := workflow_of_order (c := c) (r := b) hp
    have halike : x.Alike y := Plan.alike_of_resolve (hxp.trans hyp.symm) (hxo.trans hyo.symm)
      (hxc.trans hyc.symm) fun spec n feed => by rw [hxr, hyr, BindingSpec.resolve_of_sameNames h]
    rw [hx, hy, halike.workflow]

theorem compile_of_sameNames (h : a.SameNames b) (c : Catalog) (p : Pipeline) :
    c.compile a p = c.compile b p := by
  rw [compile, compile, workflow_of_sameNames h]

/-- What a pipeline is built to, or why it is not built, depends on the names of the secrets alone. -/
theorem build_of_sameNames (h : a.SameNames b) (c : Catalog) (p : Pipeline) :
    c.build a p = c.build b p := by
  rw [build, build, compile_of_sameNames h]

end Catalog

end Flowline

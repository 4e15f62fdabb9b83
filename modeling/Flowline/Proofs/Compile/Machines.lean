import Flowline.Build
import Flowline.Proofs.Compile.Comments
import Flowline.Proofs.Compile.Provision
import Flowline.Proofs.Script.Integers

/-!
# One pipeline on two machines

How large a number a name along a path may be to be written as an index depends on the word of the machine
that compiles.  Nothing but the values of steps depends on it, and no other step sees more of a value than
its variable.  So on two machines a pipeline fails with the same error or compiles with the same warnings,
to scripts that differ in nothing but the values of nodes at which some name is an index for one machine
alone: `Catalog.workflow_sameBut` with `Catalog.sameBut_builtinFor`.
-/

namespace Flowline

/-- A fragment with another value, unless it has to be the same. -/
def Fragment.SameBut (differs : Prop) (f g : Fragment) : Prop :=
  ∃ value, g = { f with value } ∧ (differs ∨ value = f.value)

/-- A step with another value, at most at nodes that differ. -/
def Step.SameBut (differs : Node → Prop) (s t : Step) : Prop :=
  ∃ fragment, t = { s with fragment } ∧ s.fragment.SameBut (differs s.node) fragment

/-- A handler of which at most steps of nodes that differ have other values. -/
def Handler.SameBut (differs : Node → Prop) (h k : Handler) : Prop :=
  ∃ steps, k = { h with steps } ∧ List.Forall₂ (Step.SameBut differs) h.steps steps

/-- A workflow in which at most steps of nodes that differ have other values. -/
def Workflow.SameBut (differs : Node → Prop) (w v : Workflow) : Prop :=
  ∃ handlers, v = { w with handlers } ∧ List.Forall₂ (Handler.SameBut differs) w.handlers handlers

/-- Emitters of a kind that make fragments with other values, at most of nodes that differ. -/
def Emitter.SameBut (differs : Node → Prop) (kind : String) (emit emit' : Emitter) : Prop :=
  ∀ n i, n.kind = kind → EndsAlike (Fragment.SameBut (differs n)) (emit n i) (emit' n i)

/-- Catalogs with one list of schemas and emitters for the same kinds, which make the same but for the values
of nodes that differ. -/
structure Catalog.SameBut (differs : Node → Prop) (c d : Catalog) : Prop where
  schemas : c.schemas = d.schemas
  emitters : ∀ kind,
    Option.Rel (Emitter.SameBut differs kind) (c.emitters.get? kind) (d.emitters.get? kind)

variable {differs : Node → Prop}

theorem Fragment.SameBut.refl {differs : Prop} (f : Fragment) : f.SameBut differs f :=
  ⟨f.value, rfl, Or.inr rfl⟩

theorem Step.SameBut.sameFlow {s t : Step} (h : s.SameBut differs t) : s.SameFlow t := by
  obtain ⟨_, rfl, value, rfl, -⟩ := h
  exact ⟨rfl, rfl, rfl, rfl, rfl, rfl⟩

theorem Step.SameBut.eq {s t : Step} (h : s.SameBut differs t) (hnode : ¬ differs s.node) : t = s := by
  obtain ⟨_, rfl, value, rfl, hdiffers | rfl⟩ := h
  · exact absurd hdiffers hnode
  · rfl

/-- If no node differs, neither do the workflows. -/
theorem Workflow.SameBut.eq {w v : Workflow} (h : w.SameBut differs v)
    (hnodes : ∀ k ∈ w.handlers, ∀ s ∈ k.steps, ¬ differs s.node) : v = w := by
  obtain ⟨handlers, rfl, hhandlers⟩ := h
  have heq : handlers = w.handlers := by
    refine eq_of_forall₂ hhandlers fun k hk _ ⟨steps, hsteps, hall⟩ => ?_
    rw [hsteps, eq_of_forall₂ hall fun s hs t hst => hst.eq (hnodes k hk s hs)]
  rw [heq]

theorem Catalog.SameBut.has {c d : Catalog} (h : c.SameBut differs d) (kind : String) :
    c.emitters.has kind = d.emitters.has kind := by
  rw [Table.has_eq_isSome, Table.has_eq_isSome]
  rcases none_or_some_of_rel (h.emitters kind) with ⟨hc, hd⟩ | ⟨emit, emit', hc, hd, -⟩
  · rw [hc, hd]
  · rw [hc, hd]
    rfl

namespace Plan

variable {plan : Plan} {d : Catalog} {critical members : Ids} {trigger : String}
  {steps others : List Step} {n : Node}

/-- A plan for the same pipeline with other kinds. -/
def catalogued (plan : Plan) (d : Catalog) : Plan := { plan with catalog := d }

variable (hsame : plan.catalog.SameBut differs d)
include hsame

theorem critical_catalogued : (plan.catalogued d).critical = plan.critical := by
  have heffect : (plan.catalogued d).hasEffect = plan.hasEffect := by
    funext id
    rw [hasEffect, hasEffect, hsame.schemas]
    rfl
  rw [Plan.critical, Plan.critical, heffect]
  rfl

theorem bindAll_catalogued (ports : Table String) (n : Node) :
    (plan.catalogued d).bindAll critical ports n = plan.bindAll critical ports n := by
  rw [bindAll, bindAll, hsame.schemas]
  rfl

theorem step_catalogued (hsteps : List.Forall₂ (Step.SameBut differs) steps others) :
    EndsAlike (fun made made' => made.1.SameBut differs made'.1 ∧ made.2 = made'.2)
      (plan.step critical trigger members steps n)
      ((plan.catalogued d).step critical trigger members others n) := by
  have hfeed : (plan.catalogued d).feed trigger members others n = plan.feed trigger members steps n := by
    rw [feed, feed, feedLink_of_sameFlow (hsteps.imp fun _ _ => Step.SameBut.sameFlow)]
    rfl
  rw [step, step, hfeed]
  refine (EndsAlike.of_eq rfl).bind ?_
  rintro feed _ rfl
  rw [bindAll_catalogued hsame]
  refine (EndsAlike.of_eq rfl).bind ?_
  rintro bound _ rfl
  have hother : (plan.catalogued d).catalog.emitters.get? n.kind = d.emitters.get? n.kind := rfl
  rw [hother]
  rcases none_or_some_of_rel (hsame.emitters n.kind) with ⟨hc, hd⟩ | ⟨emit, emit', hc, hd, hemit⟩
  · rw [hc, hd]
    exact .error _
  · rw [hc, hd]
    exact (hemit n _ rfl).bind fun f g hfg => .ok ⟨⟨g, rfl, hfg⟩, rfl⟩

theorem handler_catalogued :
    EndsAlike (fun made made' => made.1.SameBut differs made'.1 ∧ made.2 = made'.2)
      (plan.handler critical trigger) ((plan.catalogued d).handler critical trigger) := by
  rw [handler, handler]
  refine EndsAlike.bind (endsAlike_foldlM
    (R := fun done done' => List.Forall₂ (Step.SameBut differs) done.steps done'.steps ∧
      done.warnings = done'.warnings) ?_ ⟨.nil, rfl⟩) ?_
  · rintro n - done done' ⟨hsteps, hwarnings⟩
    refine (step_catalogued hsame hsteps).bind ?_
    rintro ⟨s, raised⟩ ⟨t, _⟩ ⟨hst, rfl⟩
    exact .ok ⟨List.rel_append hsteps (.cons hst .nil), by rw [hwarnings]⟩
  · rintro done done' ⟨hsteps, hwarnings⟩
    have hnode : ∀ s t : Step, s.SameBut differs t → s.node = t.node := fun _ _ h => h.sameFlow.node
    have hhook : (stepOf? done'.steps trigger).bind (·.fragment.trigger) =
        (stepOf? done.steps trigger).bind (·.fragment.trigger) := by
      rcases none_or_some_of_rel (rel_stepOf? hnode hsteps trigger) with
        ⟨hs, ht⟩ | ⟨s, t, hs, ht, _, rfl, value, rfl, -⟩
      · rw [hs, ht]
      · rw [hs, ht]
        rfl
    rw [stepOf?, stepOf?] at hhook
    rw [hhook]
    cases (done.steps.find? (·.node.id = trigger)).bind (·.fragment.trigger) with
    | none => exact .error _
    | some hook => exact .ok ⟨⟨done'.steps, rfl, hsteps⟩, hwarnings⟩

theorem unsupported?_catalogued : (plan.catalogued d).unsupported? = plan.unsupported? := by
  have hhas : ∀ n : Node, d.emitters.has n.kind = plan.catalog.emitters.has n.kind :=
    fun n => (hsame.has n.kind).symm
  rw [unsupported?, unsupported?]
  simp only [catalogued, hhas]

/-- With the other kinds a workflow is made that is the same but for the values of nodes that differ, or the
same error is met. -/
theorem workflow_catalogued :
    EndsAlike (Workflow.SameBut differs) plan.workflow (plan.catalogued d).workflow := by
  have hhandlers : EndsAlike
      (fun made made' => List.Forall₂ (Handler.SameBut differs) made.1 made'.1 ∧ made.2 = made'.2)
      plan.handlers (plan.catalogued d).handlers := by
    rw [handlers, handlers, critical_catalogued hsame]
    refine (endsAlike_mapM fun trigger _ => handler_catalogued hsame).bind fun made made' hmade => ?_
    refine .ok ⟨?_, ?_⟩
    · exact List.forall₂_map_left_iff.mpr (List.forall₂_map_right_iff.mpr (hmade.imp fun _ _ h => h.1))
    · dsimp only
      induction hmade with
      | nil => rfl
      | cons h _ ih => rw [List.flatMap_cons, List.flatMap_cons, h.2, ih]
  have htriggers : (plan.catalogued d).triggers = plan.triggers := rfl
  rw [workflow, workflow, unsupported?_catalogued hsame, htriggers]
  split
  · exact .error _
  · split
    · exact .error _
    · refine hhandlers.bind ?_
      rintro ⟨made, raised⟩ ⟨made', _⟩ ⟨hmade, rfl⟩
      exact .ok ⟨made', rfl, hmade⟩

end Plan

/-- With either of two catalogs the same workflow is made but for the values of nodes that differ, or the same
error is met. -/
theorem Catalog.workflow_sameBut {c d : Catalog} (h : c.SameBut differs d) (r : Resources)
    (p : Pipeline) : EndsAlike (Workflow.SameBut differs) (c.workflow r p) (d.workflow r p) := by
  cases horder : (Graph.ofPipeline p).order with
  | error cycle =>
    rw [workflow_eq_of_cycle horder, workflow_eq_of_cycle horder]
    exact .error _
  | ok order =>
    obtain ⟨plan, hp, ho, rfl, hr, hplan⟩ := workflow_of_order (c := c) (r := r) horder
    obtain ⟨other, hp', ho', hd, hr', hother⟩ := workflow_of_order (c := d) (r := r) horder
    have halike : other.Alike (plan.catalogued d) := Plan.alike_of_resolve (hp'.trans hp.symm)
      (ho'.trans ho.symm) hd fun spec n feed => by rw [hr', ← hr]; rfl
    rw [hplan, hother, halike.workflow]
    exact Plan.workflow_catalogued h

/-! ## Word sizes -/

namespace Builtin

/-- The names that the emitter of a node's kind writes as accessors. -/
def accessedNames (n : Node) : List String :=
  if n.kind = "json-parse" then Script.pathNames (n.textOr "path" "")
  else if n.kind = "condition" then Script.pathNames (n.textOr "field" "")
  else []

end Builtin

/-- Every number among the names that are accessed at a node is counted to by machines of two word sizes, or
by neither. -/
def Node.AccessedAlike (here there : Nat) (n : Node) : Prop :=
  ∀ name ∈ Builtin.accessedNames n, ∀ plus zeros k, name = Text.spelled plus zeros k →
    (k ≤ here ↔ k ≤ there)

theorem Script.accessFor_congr {here there : Nat} {path : String} (base : String)
    (h : ∀ name ∈ pathNames path, ∀ plus zeros k, name = Text.spelled plus zeros k →
      (k ≤ here ↔ k ≤ there)) : accessFor there base path = accessFor here base path := by
  have haccessor : ∀ name ∈ pathNames path, accessorFor there name = accessorFor here name := by
    intro name hname
    rw [accessorFor, accessorFor, Text.naturalUpTo?_eq_iff.mpr (h name hname)]
  rw [accessFor, accessFor, List.map_congr_left haccessor]

/-- Between the two word sizes a number is an index for the larger alone. -/
example : Script.accessFor Text.maxHalfWord "step_x" "items.4294967296" =
      "step_x?.[\"items\"]?.[\"4294967296\"]" ∧
    Script.accessFor Text.maxWord "step_x" "items.4294967296" = "step_x?.[\"items\"]?.[4294967296]" := by
  decide +kernel

namespace Table

/-- Tables with the same keys have related values wherever the values beside one another are. -/
theorem rel_get? {α : Type} {R : String → α → α → Prop} {t t' : Table α}
    (h : List.Forall₂ (fun e e' => e.1 = e'.1 ∧ R e.1 e.2 e'.2) t t') (key : String) :
    Option.Rel (R key) (t.get? key) (t'.get? key) := by
  induction h with
  | nil => exact .none
  | @cons e e' t t' hR _ ih =>
    obtain ⟨k, v⟩ := e
    obtain ⟨k', v'⟩ := e'
    obtain ⟨rfl, hR⟩ := hR
    rw [get?_cons, get?_cons]
    split
    · rename_i hkey
      exact .some (hkey ▸ hR)
    · exact ih

end Table

/-- The built-in kinds on two machines differ in the values of nodes at which they do not access alike. -/
theorem Catalog.sameBut_builtinFor (here there : Nat) :
    (builtinFor here).SameBut (fun n => ¬ n.AccessedAlike here there) (builtinFor there) where
  schemas := rfl
  emitters := by
    refine Table.rel_get? ?_
    have hsame : ∀ kind (emit : Node → EmitInputs → Fragment),
        Emitter.SameBut (fun n => ¬ n.AccessedAlike here there) kind (fun n i => .ok (emit n i))
          fun n i => .ok (emit n i) := fun kind emit n i _ => .ok (Fragment.SameBut.refl _)
    simp only [builtinFor, Builtin.emittersFor, List.map_cons, List.map_nil, List.forall₂_cons,
      List.forall₂_nil_right_iff, true_and, hsame, and_true]
    constructor
    · intro n i hkind
      refine .ok ⟨(Builtin.emitCondition there n i).value, rfl, or_iff_not_imp_left.mpr fun halike => ?_⟩
      have hnames : Builtin.accessedNames n = Script.pathNames (n.textOr "field" "") := by
        rw [Builtin.accessedNames, hkind]
        rfl
      rw [not_not, Node.AccessedAlike, hnames] at halike
      simp only [Builtin.emitCondition, Script.accessFor_congr _ halike]
    · intro n i hkind
      refine .ok ⟨(Builtin.emitJsonParse there n i).value, rfl, or_iff_not_imp_left.mpr fun halike => ?_⟩
      have hnames : Builtin.accessedNames n = Script.pathNames (n.textOr "path" "") := by
        rw [Builtin.accessedNames, hkind]
        rfl
      rw [not_not, Node.AccessedAlike, hnames] at halike
      simp only [Builtin.emitJsonParse, Script.accessFor_congr _ halike]

/-- Machines of two word sizes access alike at all nodes. -/
def Pipeline.AccessedAlike (here there : Nat) (p : Pipeline) : Prop :=
  ∀ n ∈ p.nodes, n.AccessedAlike here there

/-- All of a script but its text. -/
def Compiled.withoutCode (compiled : Compiled) : Compiled := { compiled with code := "" }

namespace Catalog

variable {here there : Nat} {p : Pipeline}

theorem workflow_of_accessedAlike (h : p.AccessedAlike here there) (r : Resources) :
    (builtinFor there).workflow r p = (builtinFor here).workflow r p := by
  rcases (workflow_sameBut (sameBut_builtinFor here there) r p).error_or_ok with
    ⟨e, hhere, hthere⟩ | ⟨w, v, hhere, hthere, hwv⟩
  · rw [hhere, hthere]
  · have hnodes : ∀ k ∈ w.handlers, ∀ s ∈ k.steps, ¬ ¬ s.node.AccessedAlike here there :=
      fun k hk s hs hnot => hnot (h s.node ((emitted_of_workflow hhere).2 k hk s hs).1)
    rw [hhere, hthere, hwv.eq hnodes]

/-- What a pipeline is built to is the same on machines that access alike at all of its nodes. -/
theorem build_of_accessedAlike (h : p.AccessedAlike here there) (r : Resources) :
    (builtinFor there).build r p = (builtinFor here).build r p := by
  rw [build, build, compile, compile, workflow_of_accessedAlike h]
  rfl

/-- On any two machines a pipeline is built with the same warnings, or is not built for the same reason. -/
theorem build_endsAlike (here there : Nat) (r : Resources) (p : Pipeline) :
    EndsAlike (fun made made' => made.withoutCode = made'.withoutCode)
      ((builtinFor here).build r p) ((builtinFor there).build r p) := by
  have hschemas : (builtinFor there).schemas = (builtinFor here).schemas := rfl
  rw [build, build, compile, compile, hschemas]
  split
  · exact .error _
  · rcases (workflow_sameBut (sameBut_builtinFor here there) r p).error_or_ok with
      ⟨e, hhere, hthere⟩ | ⟨w, _, hhere, hthere, handlers, rfl, -⟩
    · rw [hhere, hthere]
      exact .error _
    · rw [hhere, hthere]
      exact .ok rfl

end Catalog

end Flowline

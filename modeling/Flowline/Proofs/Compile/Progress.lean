import Flowline.Proofs.Compile.WellScoped
import Flowline.Proofs.Validation.WellFormed

/-!
# Valid pipelines compile

A catalog is complete if every kind has an emitter that puts out all that the schema of the kind
promises.  With a complete catalog a pipeline that passes validation compiles, unless it is blocked: a
node between a trigger and an effect needs a resource that there is not.
-/

namespace Flowline

open Relation

/-- Every kind has an emitter that succeeds, with an expression at every output of the schema and, if
the kind is a trigger, with a hook. -/
def Catalog.Complete (c : Catalog) : Prop :=
  ∀ kind s, c.schemas.get? kind = some s → ∃ emit, c.emitters.get? kind = some emit ∧
    ∀ n i, n.kind = kind → ∃ f, emit n i = .ok f ∧
      (∀ port ∈ s.outputs, (f.outputs.get? port.name).isSome) ∧
      (s.category = .trigger → f.trigger.isSome)

namespace Pipeline

/-- No edge leads to a port of a node. -/
def Unconnected (p : Pipeline) (n : Node) (port : Option String) : Prop :=
  ∀ q, port = some q → ∀ e ∈ p.edges, e.target = n.id → e.targetPort ≠ q

/-- A binding of a node has no expression: its secret is named and not available, or its chain or
contract does not come in at a port and is not given by a field. -/
def Unresolvable (p : Pipeline) (r : Resources) (n : Node) : BindingSpec → Prop
  | .secret _ field => ∃ name, n.text? field = some name ∧ r.secrets.has name = false
  | .chain _ field port => p.Unconnected n port ∧
      ∀ name, n.text? field = some name → r.chains.get? name = none
  | .contract _ field port => p.Unconnected n port ∧
      ∀ text, n.text? field = some text → isAddress text = false

/-- A node is on a path from a trigger to a node with an effect. -/
def LeadsToEffect (schemas : Schemas) (p : Pipeline) (id : String) : Prop :=
  ∃ t ∈ p.nodes, t.category = .trigger ∧ ∃ m ∈ p.nodes, schemas.isEffect m.kind = true ∧
    ReflTransGen p.Adj t.id id ∧ ReflTransGen p.Adj id m.id

/-- A node on such a path has a binding without an expression. -/
def Blocks (schemas : Schemas) (r : Resources) (p : Pipeline) (n : Node) (spec : BindingSpec) :
    Prop :=
  n ∈ p.nodes ∧ p.LeadsToEffect schemas n.id ∧
    (∃ s, schemas.get? n.kind = some s ∧ spec ∈ s.bindings) ∧ p.Unresolvable r n spec

def Blocked (schemas : Schemas) (r : Resources) (p : Pipeline) : Prop :=
  ∃ n spec, p.Blocks schemas r n spec

/-- The error of a binding that blocks a pipeline. -/
def IsBlockage (schemas : Schemas) (r : Resources) (p : Pipeline) (e : CompileError) : Prop :=
  ∃ n spec detail, p.Blocks schemas r n spec ∧ e = .unresolvedBinding n.id spec.label detail

end Pipeline

/-! ## Bindings -/

namespace Plan

variable {plan : Plan} {critical members : Ids} {trigger : String} {steps : List Step} {n : Node}
  {ports : Table String} {guards : List Guard} {spec : BindingSpec}

/-- A port has an expression exactly if an edge leads to it. -/
theorem isSome_port_iff (h : Fed members steps (plan.graph.incoming n.id) ports guards)
    (hdeclared : ∀ e ∈ plan.pipeline.edges, e ∈ plan.graph.edges) (port : String) :
    (ports.get? port).isSome ↔
      ∃ e ∈ plan.pipeline.edges, e.target = n.id ∧ e.targetPort = port := by
  constructor
  · intro hport
    obtain ⟨expr, hexpr⟩ := Option.isSome_iff_exists.mp hport
    obtain ⟨l, hl, rfl, -⟩ := h.port hexpr
    obtain ⟨e, he, htarget, rfl⟩ := Graph.mem_incoming.mp hl
    rw [plan.graph_eq] at he
    exact ⟨e, (Graph.mem_edges_ofPipeline.mp he).1, htarget, rfl⟩
  · rintro ⟨e, he, htarget, rfl⟩
    exact (h.link _ (Graph.mem_incoming.mpr ⟨e, hdeclared e he, htarget, rfl⟩)).1

theorem bind_get?_eq_none_iff (h : Fed members steps (plan.graph.incoming n.id) ports guards)
    (hdeclared : ∀ e ∈ plan.pipeline.edges, e ∈ plan.graph.edges) (port : Option String) :
    port.bind ports.get? = none ↔ plan.pipeline.Unconnected n port := by
  cases port with
  | none => simp [Pipeline.Unconnected]
  | some q =>
    have hport := isSome_port_iff h hdeclared q
    rw [Option.bind_some, ← Option.not_isSome_iff_eq_none, hport]
    simp [Pipeline.Unconnected]

theorem exists_unresolved_iff (h : Fed members steps (plan.graph.incoming n.id) ports guards)
    (hdeclared : ∀ e ∈ plan.pipeline.edges, e ∈ plan.graph.edges) (spec : BindingSpec) :
    (∃ why, plan.resolution ports n spec = .unresolved why) ↔
      plan.pipeline.Unresolvable plan.resources n spec := by
  rw [resolution]
  cases spec with
  | secret name field =>
    simp only [BindingSpec.resolve, Pipeline.Unresolvable]
    cases n.text? field with
    | none => simp
    | some text => by_cases hhas : plan.resources.secrets.has text <;> simp [hhas]
  | chain name field port =>
    rw [Pipeline.Unresolvable, ← bind_get?_eq_none_iff h hdeclared port, BindingSpec.port?]
    cases port.bind ports.get? with
    | some expr => simp [BindingSpec.resolve]
    | none =>
      simp only [BindingSpec.resolve, true_and]
      cases n.text? field with
      | none => simp
      | some text => cases hchain : plan.resources.chains.get? text <;> simp [hchain]
  | contract name field port =>
    rw [Pipeline.Unresolvable, ← bind_get?_eq_none_iff h hdeclared port, BindingSpec.port?]
    cases port.bind ports.get? with
    | some expr => simp [BindingSpec.resolve]
    | none =>
      simp only [BindingSpec.resolve, true_and]
      cases n.text? field with
      | none => simp
      | some text => by_cases haddress : isAddress text <;> simp [haddress]

/-! ## Well-formed plans -/

section WellFormed

variable (hwf : plan.pipeline.WellFormed plan.catalog.schemas)
include hwf

theorem mem_edges_of_wellFormed : ∀ e ∈ plan.pipeline.edges, e ∈ plan.graph.edges := by
  intro e he
  rw [plan.graph_eq]
  exact Graph.mem_edges_ofPipeline.mpr ⟨he, hwf.declared e he⟩

theorem path_of_wellFormed : plan.graph.Path = ReflTransGen plan.pipeline.Adj := by
  rw [plan.graph_eq, ← Pipeline.adj_ofPipeline_iff hwf.declared]
  rfl

theorem mem_triggers_of_wellFormed {t : String} :
    t ∈ plan.triggers ↔ ∃ n ∈ plan.pipeline.nodes, n.id = t ∧ n.category = .trigger := by
  simp only [mem_triggers, Pipeline.isTrigger, Option.any_eq_true,
    Pipeline.node?_eq_some_iff hwf.ids_nodup, Node.isTrigger, decide_eq_true_eq]
  constructor
  · rintro ⟨-, n, ⟨hn, rfl⟩, hcat⟩
    exact ⟨n, hn, rfl, hcat⟩
  · rintro ⟨n, hn, rfl, hcat⟩
    exact ⟨List.mem_map_of_mem hn, n, ⟨hn, rfl⟩, hcat⟩

/-- The critical nodes are those on paths from triggers to effects. -/
theorem mem_critical_of_wellFormed {id : String} :
    id ∈ plan.critical ↔ plan.pipeline.LeadsToEffect plan.catalog.schemas id := by
  simp only [mem_critical, mem_triggers_of_wellFormed hwf, path_of_wellFormed hwf, hasEffect,
    Option.any_eq_true, Pipeline.node?_eq_some_iff hwf.ids_nodup, Pipeline.LeadsToEffect]
  constructor
  · rintro ⟨_, ⟨t, ht, rfl, hcat⟩, _, hfrom, hto, m, ⟨hm, rfl⟩, heffect⟩
    exact ⟨t, ht, hcat, m, hm, heffect, hfrom, hto⟩
  · rintro ⟨t, ht, hcat, m, hm, heffect, hfrom, hto⟩
    exact ⟨t.id, ⟨t, ht, rfl, hcat⟩, m.id, hfrom, hto, m, ⟨hm, rfl⟩, heffect⟩

/-- A node on a path from a trigger has a step in the handler of the trigger. -/
theorem exists_step_of_path {t : String} (ht : t ∈ plan.triggers)
    (hm : plan.MadeOf critical (plan.members t) (plan.memberNodes (plan.members t)) steps)
    (hn : n ∈ plan.pipeline.nodes) (hpath : plan.graph.Path t n.id) :
    ∃ s ∈ steps, stepOf? steps n.id = some s ∧ s.node = n := by
  have hnode : plan.pipeline.node? n.id = some n :=
    (Pipeline.node?_eq_some_iff hwf.ids_nodup).mpr ⟨hn, rfl⟩
  exact hm.exists_step (mem_members_of_path ht hpath) hnode

/-- A pipeline whose workflow has been made is not blocked. -/
theorem not_blocked_of_workflow {w : Workflow} (h : plan.workflow = .ok w) :
    ¬ plan.pipeline.Blocked plan.catalog.schemas plan.resources := by
  rintro ⟨n, spec, hn, hleads, ⟨schema, hschema, hspec⟩, hunresolvable⟩
  obtain ⟨htriggers, hhandlers⟩ := handlers_of_workflow h
  have hcritical := (mem_critical_of_wellFormed hwf).mpr hleads
  obtain ⟨t, ht, b, hpath, -, -⟩ := mem_critical.mp hcritical
  obtain ⟨handler, hhandler, rfl⟩ := List.mem_map.mp (htriggers ▸ ht)
  obtain ⟨warnings, hmade⟩ := hhandlers handler hhandler
  obtain ⟨-, hm⟩ := madeOf_handler hmade
  -- the node has a step in the handler, whose bindings have all been resolved
  obtain ⟨s, hs, -, rfl⟩ := exists_step_of_path hwf ht hm hn hpath
  obtain ⟨before, after, heq⟩ := List.append_of_mem hs
  have hs := hm.made before s after heq
  obtain ⟨bound, hbound, -⟩ := hs.bound
  obtain ⟨why, hwhy⟩ :=
    (exists_unresolved_iff hs.fed (mem_edges_of_wellFormed hwf) spec).mpr hunresolvable
  exact resolution_of_bindAll hbound hcritical hschema hspec hwhy

/-! ## Complete catalogs -/

variable (hc : plan.catalog.Complete)
include hc

/-- The emitter of a node succeeds with all outputs that its schema declares. -/
theorem exists_emit (hn : n ∈ plan.pipeline.nodes) :
    ∃ s emit, plan.catalog.schemas.get? n.kind = some s ∧ s.category = n.category ∧
      plan.catalog.emitters.get? n.kind = some emit ∧
      ∀ i, ∃ f, emit n i = .ok f ∧ (∀ port ∈ s.outputs, (f.outputs.get? port.name).isSome) ∧
        (s.category = .trigger → f.trigger.isSome) := by
  obtain ⟨s, hs, hcat, -⟩ := hwf.conforms n hn
  obtain ⟨emit, hemit, hf⟩ := hc n.kind s hs
  exact ⟨s, emit, hs, hcat, hemit, fun i => hf n i rfl⟩

theorem unsupported?_eq_none : plan.unsupported? = none := by
  rw [unsupported?, List.find?_eq_none]
  intro n hn
  obtain ⟨id, -, hid⟩ := List.mem_filterMap.mp hn
  obtain ⟨s, emit, -, -, hemit, -⟩ := exists_emit hwf hc (Pipeline.node?_eq_some hid).1
  simp [Table.has_eq_isSome, hemit]

/-- A step puts out all that the schema of its node declares. -/
theorem output_of_step {pre : List Node} {s : Step}
    (hm : plan.MadeOf critical members pre steps) (hs : s ∈ steps)
    (hn : s.node ∈ plan.pipeline.nodes) :
    ∃ schema, plan.catalog.schemas.get? s.node.kind = some schema ∧
      schema.category = s.node.category ∧
      (∀ port ∈ schema.outputs, (s.fragment.outputs.get? port.name).isSome) ∧
      (schema.category = .trigger → s.fragment.trigger.isSome) := by
  obtain ⟨before, after, heq⟩ := List.append_of_mem hs
  obtain ⟨emit, hemit, hfragment⟩ := (hm.made before s after heq).emitted
  obtain ⟨schema, emit', hschema, hcat, hemit', hf⟩ := exists_emit hwf hc hn
  obtain rfl := Option.some.inj (hemit.symm.trans hemit')
  obtain ⟨f, hf, houtputs, htrigger⟩ := hf s.inputs
  obtain rfl := Except.ok.inj (hfragment.symm.trans hf)
  exact ⟨schema, hschema, hcat, houtputs, htrigger⟩

/-- Every link of a node carries something: its source is made already, or is not a member. -/
theorem exists_carries {pre post : List Node} {l : Link}
    (hm : plan.MadeOf critical members pre steps)
    (heq : plan.memberNodes members = pre ++ n :: post) (hl : l ∈ plan.graph.incoming n.id) :
    ∃ expr, Carries members steps l expr := by
  by_cases hpeer : l.peer ∈ members
  · obtain ⟨e, he, htarget, rfl⟩ := Graph.mem_incoming.mp hl
    have hbefore := mem_before_of_adj heq ⟨e, he, rfl, htarget⟩ hpeer
    rw [← hm.nodes] at hbefore
    obtain ⟨s, hstep⟩ := exists_stepOf? hbefore
    obtain ⟨hs, hid⟩ := stepOf?_eq_some hstep
    have hmem : ∀ m ∈ pre ++ n :: post, m ∈ plan.pipeline.nodes := fun m hm =>
      mem_nodes_of_memberNodes (heq ▸ hm)
    have hnode : s.node ∈ plan.pipeline.nodes :=
      hmem _ (List.mem_append_left _ (hm.nodes ▸ List.mem_map_of_mem hs))
    -- the schema of the source declares the port, and the step puts out what the schema declares
    rw [plan.graph_eq, Graph.mem_edges_ofPipeline] at he
    obtain ⟨schema, -, a, -, hschema, -, ha, -⟩ :=
      hwf.connects e he.1 s.node hnode n (hmem n (by simp)) hid htarget.symm
    obtain ⟨schema', hschema', -, houtputs, -⟩ := output_of_step hwf hc hm hs hnode
    obtain rfl := Option.some.inj (hschema.symm.trans hschema')
    have hname : a.name = e.sourcePort := by simpa using List.find?_some ha
    obtain ⟨expr, hexpr⟩ :=
      Option.isSome_iff_exists.mp (houtputs a (List.mem_of_find?_eq_some ha))
    exact ⟨expr, Or.inr ⟨hpeer, s, hstep, hname ▸ hexpr⟩⟩
  · exact ⟨_, Or.inl ⟨hpeer, rfl⟩⟩

/-- A step is made, or its node blocks the pipeline. -/
theorem step_progress (trigger : String) {pre post : List Node}
    (hm : plan.MadeOf plan.critical members pre steps)
    (heq : plan.memberNodes members = pre ++ n :: post) :
    (∃ made, plan.step plan.critical trigger members steps n = .ok made) ∨
      ∃ e, plan.step plan.critical trigger members steps n = .error e ∧
        plan.pipeline.IsBlockage plan.catalog.schemas plan.resources e := by
  have hmem : n ∈ plan.memberNodes members := by simp [heq]
  have hn := mem_nodes_of_memberNodes hmem
  obtain ⟨feed, hfeed⟩ := exists_feed trigger fun l hl => exists_carries hwf hc hm heq hl
  rcases plan.bindAll_progress plan.critical feed.ports n with
    ⟨bound, hbound⟩ | ⟨e, he, schema, hschema, spec, hspec, hcritical, why, hwhy, rfl⟩
  · obtain ⟨_, emit, -, -, hemit, hemits⟩ := exists_emit hwf hc hn
    obtain ⟨f, hf, -⟩ := hemits ⟨plan.var n.id, feed.ports, bound.bindings⟩
    exact Or.inl ⟨_, step_eq_ok_iff.mpr ⟨feed, bound, emit, f, hfeed, hbound, hemit, hf, rfl⟩⟩
  · have herror : plan.step plan.critical trigger members steps n =
        .error (.unresolvedBinding n.id spec.label why.detail) := by
      simp only [step, bind, Except.bind, hfeed, he]
    have hblocks : plan.pipeline.Blocks plan.catalog.schemas plan.resources n spec :=
      ⟨hn, (mem_critical_of_wellFormed hwf).mp hcritical, ⟨schema, hschema, hspec⟩,
        (exists_unresolved_iff (fed_of_feed hfeed) (mem_edges_of_wellFormed hwf) spec).mp
          ⟨why, hwhy⟩⟩
    exact Or.inr ⟨_, herror, n, spec, why.detail, hblocks, rfl⟩

theorem addStep_progress {pre post : List Node} {done : Steps}
    (hm : plan.MadeOf plan.critical members pre done.steps)
    (heq : plan.memberNodes members = pre ++ n :: post) :
    (∃ done', plan.addStep plan.critical trigger members done n = .ok done' ∧
        plan.MadeOf plan.critical members (pre ++ [n]) done'.steps) ∨
      ∃ e, plan.addStep plan.critical trigger members done n = .error e ∧
        plan.pipeline.IsBlockage plan.catalog.schemas plan.resources e := by
  rcases step_progress hwf hc trigger hm heq with ⟨⟨s, warnings⟩, hs⟩ | ⟨e, he, hblock⟩
  · have hdone : plan.addStep plan.critical trigger members done n =
        .ok ⟨done.steps ++ [s], done.warnings ++ warnings⟩ := by
      rw [addStep, hs]
      rfl
    exact Or.inl ⟨_, hdone, madeOf_addStep hm hdone⟩
  · exact Or.inr ⟨e, by rw [addStep, he]; rfl, hblock⟩

/-- Of the handler of a trigger the steps are all that can fail. -/
theorem handler_progress {t : String} (ht : t ∈ plan.triggers) :
    (∃ made, plan.handler plan.critical t = .ok made) ∨
      ∃ e, plan.handler plan.critical t = .error e ∧
        plan.pipeline.IsBlockage plan.catalog.schemas plan.resources e := by
  rcases foldlM_progress (f := plan.addStep plan.critical t (plan.members t))
    (P := fun pre done => plan.MadeOf plan.critical (plan.members t) pre done.steps)
    (E := plan.pipeline.IsBlockage plan.catalog.schemas plan.resources)
    (plan.memberNodes (plan.members t)) [] {} ⟨rfl, by simp⟩
    (fun pre n post heq done hm => addStep_progress hwf hc hm heq) with
    ⟨done, hdone⟩ | ⟨e, he, hblock⟩
  · -- the trigger is among the members, and its step has a hook
    have hm := madeOf_addSteps hdone
    obtain ⟨n, hn, rfl, htrigger⟩ := (mem_triggers_of_wellFormed hwf).mp ht
    obtain ⟨s, hs, hstep, rfl⟩ := exists_step_of_path hwf ht hm hn (Graph.Path.refl _ n.id)
    obtain ⟨schema, -, hcat, -, hhook⟩ := output_of_step hwf hc hm hs hn
    obtain ⟨hook, hhook⟩ := Option.isSome_iff_exists.mp (hhook (hcat.trans htrigger))
    have hfound : (stepOf? done.steps s.node.id).bind (·.fragment.trigger) = some hook := by
      rw [hstep]
      exact hhook
    exact Or.inl ⟨_, handler_eq_ok_iff.mpr ⟨done, hook, hdone, hfound, rfl⟩⟩
  · exact Or.inr ⟨e, by rw [handler]; simp only [he]; rfl, hblock⟩

/-- The workflow of a plan is made unless the pipeline is blocked. -/
theorem workflow_progress :
    (∃ w, plan.workflow = .ok w) ∧ ¬ plan.pipeline.Blocked plan.catalog.schemas plan.resources ∨
      ∃ e, plan.workflow = .error e ∧
        plan.pipeline.IsBlockage plan.catalog.schemas plan.resources e := by
  suffices h : (∃ w, plan.workflow = .ok w) ∨ ∃ e, plan.workflow = .error e ∧
      plan.pipeline.IsBlockage plan.catalog.schemas plan.resources e from
    h.imp_left fun ⟨w, hw⟩ => ⟨⟨w, hw⟩, not_blocked_of_workflow hwf hw⟩
  obtain ⟨t, ht, hcat⟩ := hwf.trigger
  have htriggers : plan.triggers.isEmpty = false := by
    rw [List.isEmpty_eq_false_iff_exists_mem]
    exact ⟨t.id, (mem_triggers_of_wellFormed hwf).mpr ⟨t, ht, rfl, hcat⟩⟩
  rw [workflow_eq, htriggers, unsupported?_eq_none hwf hc, handlers]
  rcases mapM_progress fun t ht => handler_progress hwf hc ht with ⟨made, hmade⟩ | ⟨e, he, hblock⟩
  · rw [hmade]
    exact Or.inl ⟨_, rfl⟩
  · rw [he]
    exact Or.inr ⟨e, rfl, hblock⟩

end WellFormed

end Plan

/-! ## Compiling -/

namespace Catalog

variable {c : Catalog} {r : Resources} {p : Pipeline}

/-- What becomes of a well-formed pipeline. -/
theorem workflow_progress (hc : c.Complete) (hwf : p.WellFormed c.schemas) :
    (∃ w, c.workflow r p = .ok w) ∧ ¬ p.Blocked c.schemas r ∨
      ∃ e, c.workflow r p = .error e ∧ p.IsBlockage c.schemas r e := by
  obtain ⟨order, horder⟩ := Graph.exists_order_iff.mpr fun id => by
    rw [Pipeline.adj_ofPipeline_iff hwf.declared]
    exact hwf.acyclic id
  rw [workflow]
  split
  · rename_i e he
    rw [horder] at he
    cases he
  · refine Plan.workflow_progress ?_ ?_
    · exact hwf
    · exact hc

theorem compile_progress (hc : c.Complete) (hwf : p.WellFormed c.schemas) :
    (∃ compiled, c.compile r p = .ok compiled) ∧ ¬ p.Blocked c.schemas r ∨
      ∃ e, c.compile r p = .error e ∧ p.IsBlockage c.schemas r e := by
  rcases workflow_progress (r := r) hc hwf with ⟨⟨w, hw⟩, hnot⟩ | ⟨e, he, hblock⟩
  · exact Or.inl ⟨⟨_, by rw [compile, hw]; rfl⟩, hnot⟩
  · exact Or.inr ⟨e, by rw [compile, he]; rfl, hblock⟩

end Catalog

end Flowline

import Flowline.Proofs.Handler.Lines
import Flowline.Proofs.Handler.Members
import Flowline.Proofs.Handler.Steps
import Flowline.Proofs.Script.Variables

/-!
# Values are computed before they are read

An emitter is scoped if what it puts out mentions no variables but its own and those that came in.  With
scoped emitters every variable that a step reads is that of a step before it, from which edges lead
to it, and which runs whenever the step does.
-/

namespace Flowline

open Relation Script

/-! ## Reading and running -/

/-- A variable is read by a step: at a port, in a binding fed through a port, or in its guard. -/
inductive Step.Reads (schemas : Schemas) (s : Step) (x : String) : Prop
  | port (port expr : String) (hexpr : s.inputs.ports.get? port = some expr)
      (hx : x ∈ stepNames expr)
  | binding (schema : KindSchema) (spec : BindingSpec) (port expr : String)
      (hschema : schemas.get? s.node.kind = some schema) (hspec : spec ∈ schema.bindings)
      (hport : spec.port? = some port) (hfed : (s.inputs.ports.get? port).isSome)
      (hexpr : s.inputs.bindings.get? spec.name = some expr) (hx : x ∈ stepNames expr)
  | guard (g : Guard) (hg : g ∈ s.guards) (hx : x = g.var)

/-- A condition holds when its variable has the value that it asks for. -/
def Guard.Holds (σ : String → Bool) (g : Guard) : Prop := σ g.var = ! g.negated

/-- Under these values of the variables the guard of a step holds. -/
def Step.Runs (σ : String → Bool) (s : Step) : Prop := ∀ g ∈ s.guards, g.Holds σ

/-- An edge leads from one step of a handler to another. -/
def Feeds (p : Pipeline) (steps : List Step) (a b : Step) : Prop :=
  a ∈ steps ∧ b ∈ steps ∧ p.Adj a.node.id b.node.id

/-- A handler whose steps read only what has been computed before them. -/
structure Handler.WellScoped (schemas : Schemas) (p : Pipeline) (h : Handler) : Prop where
  trigger : p.isTrigger h.trigger = true
  /-- Every member of the trigger's scope has one step, and there are no other steps. -/
  ids_nodup : (h.steps.map fun s => s.node.id).Nodup
  mem_iff : ∀ id, (id ∈ h.steps.map fun s => s.node.id) ↔
    id ∈ (Graph.ofPipeline p).scope p.isTrigger h.trigger
  /-- No two steps have one variable. -/
  vars_nodup : (h.steps.map fun s => s.inputs.var).Nodup
  /-- What a step reads is the variable of an earlier step that feeds it, directly or through others,
  and that has declared it at the top level of the handler. -/
  computed : ∀ before s after, h.steps = before ++ s :: after → ∀ x, s.Reads schemas x →
    ∃ s' ∈ before, s'.inputs.var = x ∧ TransGen (Feeds p h.steps) s' s ∧
      ∃ pre post l, h.lines = pre ++ indent s.lines ++ post ∧ s'.Declares l ∧ l.deeper ∈ pre
  /-- A step runs under the conditions of the steps that feed it, and of the ports through which they
  do. -/
  guards : ∀ a ∈ h.steps, ∀ b ∈ h.steps, ∀ e ∈ p.edges, e.source = a.node.id →
    e.target = b.node.id → a.guards ⊆ b.guards ∧
      ∀ g, a.fragment.control.get? e.sourcePort = some g → g ∈ b.guards
  /-- When a step runs, so do all that feed it, directly or through others. -/
  runs : ∀ σ a b, TransGen (Feeds p h.steps) a b → b.Runs σ → a.Runs σ

/-! ## Scoped catalogs -/

/-- What is put out mentions no variables but those that came in and the node's own, which then
has a value; a condition is on the node's own. -/
structure Emitter.Scoped (emit : Emitter) : Prop where
  outputs : ∀ n i f, emit n i = .ok f → IsStepName i.var → ∀ port expr,
    f.outputs.get? port = some expr → ∀ x ∈ stepNames expr,
      (x = i.var ∧ f.value.isSome) ∨ ∃ p e, i.ports.get? p = some e ∧ x ∈ stepNames e
  control : ∀ n i f, emit n i = .ok f → ∀ port g, f.control.get? port = some g →
    g.var = i.var ∧ f.value.isSome

structure Catalog.Scoped (c : Catalog) : Prop where
  emitters : ∀ kind emit, c.emitters.get? kind = some emit → Emitter.Scoped emit
  /-- No two bindings of a kind have one name. -/
  bindings : ∀ kind schema, c.schemas.get? kind = some schema →
    (schema.bindings.map BindingSpec.name).Nodup

/-! ## Steps that feed each other -/

namespace Plan

variable {plan : Plan} {critical members : Ids} {steps before after : List Step} {s a b : Step}
  {e : Edge} {x : String}

namespace MadeOf

theorem ids_nodup (hm : plan.MadeOf critical members (plan.memberNodes members) steps) :
    (steps.map fun s => s.node.id).Nodup := by
  have hnodup := plan.nodup_memberNodes members
  rwa [← hm.nodes, List.map_map] at hnodup

/-- The steps of a handler are those of the members of its trigger's scope. -/
theorem mem_ids_iff {t id : String}
    (hm : plan.MadeOf critical (plan.members t) (plan.memberNodes (plan.members t)) steps) :
    (id ∈ steps.map fun s => s.node.id) ↔
      id ∈ (Graph.ofPipeline plan.pipeline).scope plan.pipeline.isTrigger t := by
  have hmem : id ∈ (plan.memberNodes (plan.members t)).map Node.id ↔ id ∈ plan.members t :=
    mem_map_id_memberNodes
  rw [← hm.nodes, List.map_map, members, plan.graph_eq] at hmem
  exact hmem

theorem mem_node (hm : plan.MadeOf critical members (plan.memberNodes members) steps)
    (hs : s ∈ steps) : s.node ∈ plan.memberNodes members := by
  rw [← hm.nodes]
  exact List.mem_map_of_mem hs

/-- A node of the trigger's scope has a step. -/
theorem exists_step {t : String} {n : Node}
    (hm : plan.MadeOf critical (plan.members t) (plan.memberNodes (plan.members t)) steps)
    (hmember : n.id ∈ plan.members t) (hn : plan.pipeline.node? n.id = some n) :
    ∃ s ∈ steps, stepOf? steps n.id = some s ∧ s.node = n := by
  have hmem := mem_map_id_memberNodes.mpr hmember
  rw [← hm.nodes] at hmem
  obtain ⟨s, hstep⟩ := exists_stepOf? hmem
  obtain ⟨hs, hid⟩ := stepOf?_eq_some hstep
  have hnode := (plan.mem_memberNodes (hm.mem_node hs)).2
  rw [hid, hn] at hnode
  exact ⟨s, hs, hstep, (Option.some.inj hnode).symm⟩

/-- The step from which an edge leads to a step has been made before it. -/
theorem produces (hm : plan.MadeOf critical members (plan.memberNodes members) steps)
    (heq : steps = before ++ b :: after) (ha : a ∈ steps) (he : e ∈ plan.graph.edges)
    (hsource : e.source = a.node.id) (htarget : e.target = b.node.id) :
    ∃ expr, Produces before ⟨e.source, e.targetPort, e.sourcePort⟩ a expr := by
  have hlink : (⟨e.source, e.targetPort, e.sourcePort⟩ : Link) ∈
      plan.graph.incoming b.node.id := Graph.mem_incoming.mpr ⟨e, he, htarget, rfl⟩
  obtain ⟨-, expr, ⟨hnot, -⟩ | ⟨-, s, hs⟩⟩ := (hm.made before b after heq).fed.link _ hlink
  · exact absurd (hsource ▸ (plan.mem_memberNodes (hm.mem_node ha)).1) hnot
  · obtain ⟨hmem, hid⟩ := stepOf?_eq_some hs.step
    obtain rfl : s = a := List.inj_on_of_nodup_map hm.ids_nodup
      (heq ▸ List.mem_append_left _ hmem) ha (hid.trans hsource)
    exact ⟨expr, hs⟩

theorem declared (hm : plan.MadeOf critical members (plan.memberNodes members) steps)
    (hs : s ∈ steps) : s.node.id ∈ plan.pipeline.nodes.map Node.id :=
  List.mem_map_of_mem (Pipeline.node?_eq_some (plan.mem_memberNodes (hm.mem_node hs)).2).1

theorem vars_nodup (hm : plan.MadeOf critical members (plan.memberNodes members) steps) :
    (steps.map fun s => s.inputs.var).Nodup := by
  refine List.Nodup.map_on (fun a ha b hb hvar => ?_) hm.ids_nodup.of_map
  have hmade : ∀ s ∈ steps, s.inputs.var = plan.var s.node.id := fun s hs => by
    obtain ⟨before, after, heq⟩ := List.append_of_mem hs
    exact (hm.made before s after heq).var
  rw [hmade a ha, hmade b hb] at hvar
  exact List.inj_on_of_nodup_map hm.ids_nodup ha hb
    (plan.var_injective (hm.declared ha) (hm.declared hb) hvar)

/-- An edge between steps does not dangle. -/
theorem mem_edges (hm : plan.MadeOf critical members (plan.memberNodes members) steps)
    (ha : a ∈ steps) (hb : b ∈ steps) (he : e ∈ plan.pipeline.edges) (hsource : e.source = a.node.id)
    (htarget : e.target = b.node.id) : e ∈ plan.graph.edges := by
  rw [plan.graph_eq]
  exact Graph.mem_edges_ofPipeline.mpr
    ⟨he, hsource ▸ hm.declared ha, htarget ▸ hm.declared hb⟩

theorem mem_before (hm : plan.MadeOf critical members (plan.memberNodes members) steps)
    (h : TransGen (Feeds plan.pipeline steps) a b) :
    ∀ before after, steps = before ++ b :: after → a ∈ before := by
  have hedge : ∀ {a b}, Feeds plan.pipeline steps a b → ∀ before after,
      steps = before ++ b :: after → a ∈ before := by
    intro a b hab before after heq
    obtain ⟨ha, hb, e, he, hsource, htarget⟩ := hab
    have hedge := hm.mem_edges ha hb he hsource htarget
    obtain ⟨expr, hproduces⟩ := hm.produces heq ha hedge hsource htarget
    exact (stepOf?_eq_some hproduces.step).1
  induction h with
  | single hab => exact hedge hab
  | tail _ hbc ih =>
    intro before after heq
    obtain ⟨l, l', rfl⟩ := List.append_of_mem (hedge hbc before after heq)
    exact List.mem_append_left _ (ih l (l' ++ _ :: after) (by simpa using heq))

/-! ## Guards -/

theorem guards_of_edge (hm : plan.MadeOf critical members (plan.memberNodes members) steps)
    (ha : a ∈ steps) (hb : b ∈ steps) (he : e ∈ plan.graph.edges) (hsource : e.source = a.node.id)
    (htarget : e.target = b.node.id) :
    a.guards ⊆ b.guards ∧ ∀ g, a.fragment.control.get? e.sourcePort = some g → g ∈ b.guards := by
  obtain ⟨before, after, heq⟩ := List.append_of_mem hb
  obtain ⟨expr, hproduces⟩ := hm.produces heq ha he hsource htarget
  have hlink : (⟨e.source, e.targetPort, e.sourcePort⟩ : Link) ∈
      plan.graph.incoming b.node.id := Graph.mem_incoming.mpr ⟨e, he, htarget, rfl⟩
  have hmem : e.source ∈ members := hsource ▸ (plan.mem_memberNodes (hm.mem_node ha)).1
  have hguards : ∀ g, g ∈ a.guards ∨ a.fragment.control.get? e.sourcePort = some g →
      g ∈ b.guards := fun g hg =>
    ((hm.made before b after heq).fed.guards g).mpr ⟨_, hlink, hmem, a, hproduces.step, hg⟩
  exact ⟨fun g hg => hguards g (Or.inl hg), fun g hg => hguards g (Or.inr hg)⟩

theorem guards_subset (hm : plan.MadeOf critical members (plan.memberNodes members) steps)
    (h : TransGen (Feeds plan.pipeline steps) a b) : a.guards ⊆ b.guards := by
  have hedge : ∀ {a b}, Feeds plan.pipeline steps a b → a.guards ⊆ b.guards := by
    intro a b hab
    obtain ⟨ha, hb, e, he, hsource, htarget⟩ := hab
    exact (hm.guards_of_edge ha hb (hm.mem_edges ha hb he hsource htarget) hsource htarget).1
  induction h with
  | single hab => exact hedge hab
  | tail _ hbc ih => exact List.Subset.trans ih (hedge hbc)

/-! ## Variables -/

/-- A variable is that of a step with a value which is a step or feeds it. -/
def Known (p : Pipeline) (steps : List Step) (s : Step) (x : String) : Prop :=
  ∃ s' ∈ steps, s'.inputs.var = x ∧ s'.fragment.value.isSome ∧ ReflTransGen (Feeds p steps) s' s

/-- A variable is that of a step with a value which feeds a step. -/
def Supplied (p : Pipeline) (steps : List Step) (s : Step) (x : String) : Prop :=
  ∃ s' ∈ steps, s'.inputs.var = x ∧ s'.fragment.value.isSome ∧ TransGen (Feeds p steps) s' s

/-- What a step hands on: expressions at its outputs, and conditions. -/
structure HandsOn (p : Pipeline) (steps : List Step) (s : Step) : Prop where
  outputs : ∀ port expr, s.fragment.outputs.get? port = some expr → ∀ x ∈ stepNames expr,
    Known p steps s x
  guards : ∀ g ∈ s.guards, Supplied p steps s g.var

theorem Known.supplied (h : Known plan.pipeline steps a x) (hab : Feeds plan.pipeline steps a b) :
    Supplied plan.pipeline steps b x := by
  obtain ⟨s', hs', hvar, hvalue, hpath⟩ := h
  exact ⟨s', hs', hvar, hvalue, TransGen.tail' hpath hab⟩

theorem Supplied.known (h : Supplied plan.pipeline steps s x) : Known plan.pipeline steps s x := by
  obtain ⟨s', hs', hvar, hvalue, hpath⟩ := h
  exact ⟨s', hs', hvar, hvalue, hpath.to_reflTransGen⟩

/-- The step that is found at the other end of a link feeds the step. -/
theorem feeds_of_link {l : Link} (heq : steps = before ++ b :: after)
    (hl : l ∈ plan.graph.incoming b.node.id) (hstep : stepOf? before l.peer = some a) :
    a ∈ before ∧ Feeds plan.pipeline steps a b := by
  obtain ⟨ha, hid⟩ := stepOf?_eq_some hstep
  obtain ⟨e, he, htarget, rfl⟩ := Graph.mem_incoming.mp hl
  rw [plan.graph_eq, Graph.mem_edges_ofPipeline] at he
  exact ⟨ha, heq ▸ List.mem_append_left _ ha, heq ▸ by simp, e, he.1, hid.symm, htarget⟩

/-- Once the steps before it hand on what is known, what comes in at the ports of a step is known. -/
theorem supplied_of_port (hm : plan.MadeOf critical members (plan.memberNodes members) steps)
    (heq : steps = before ++ s :: after) (hbefore : ∀ a ∈ before, HandsOn plan.pipeline steps a)
    {port expr : String} (hexpr : s.inputs.ports.get? port = some expr) (hx : x ∈ stepNames expr) :
    Supplied plan.pipeline steps s x := by
  obtain ⟨l, hl, -, ⟨-, rfl⟩ | ⟨-, a, ha⟩⟩ := (hm.made before s after heq).fed.port hexpr
  · simp [stepNames_undefined] at hx
  · obtain ⟨hmem, hfeeds⟩ := feeds_of_link heq hl ha.step
    exact ((hbefore a hmem).outputs _ _ ha.output x hx).supplied hfeeds

theorem handsOn (hc : plan.catalog.Scoped)
    (hm : plan.MadeOf critical members (plan.memberNodes members) steps) :
    ∀ s ∈ steps, HandsOn plan.pipeline steps s := by
  refine forall_mem_of_before fun before s after heq hbefore => ?_
  have hmade := hm.made before s after heq
  obtain ⟨emit, hemit, hfragment⟩ := hmade.emitted
  have hscoped := hc.emitters _ _ hemit
  constructor
  · intro port expr hexpr x hx
    have hvar : IsStepName s.inputs.var := hmade.var ▸ plan.isStepName_var _
    rcases hscoped.outputs _ _ _ hfragment hvar port expr hexpr x hx with
      ⟨rfl, hvalue⟩ | ⟨q, e, he, hx⟩
    · exact ⟨s, heq ▸ by simp, rfl, hvalue, ReflTransGen.refl⟩
    · exact (hm.supplied_of_port heq hbefore he hx).known
  · intro g hg
    obtain ⟨l, hl, -, a, ha, hguard⟩ := (hmade.fed.guards g).mp hg
    obtain ⟨hmem, hfeeds⟩ := feeds_of_link heq hl ha
    rcases hguard with hguard | hguard
    · exact ((hbefore a hmem).guards g hguard).known.supplied hfeeds
    · -- the condition of the port by which the step is fed
      obtain ⟨l1, l2, rfl⟩ := List.append_of_mem hmem
      obtain ⟨emit', hemit', hfragment'⟩ :=
        (hm.made l1 a (l2 ++ s :: after) (by simpa using heq)).emitted
      obtain ⟨hvar, hvalue⟩ := (hc.emitters _ _ hemit').control _ _ _ hfragment' _ _ hguard
      have hknown : Known plan.pipeline steps a g.var :=
        ⟨a, hfeeds.1, hvar.symm, hvalue, ReflTransGen.refl⟩
      exact hknown.supplied hfeeds

/-- What a step reads is the variable of a step that feeds it. -/
theorem supplied_of_reads (hc : plan.catalog.Scoped)
    (hm : plan.MadeOf critical members (plan.memberNodes members) steps)
    (heq : steps = before ++ s :: after) (h : s.Reads plan.catalog.schemas x) :
    Supplied plan.pipeline steps s x := by
  have hhands := hm.handsOn hc
  have hbefore : ∀ a ∈ before, HandsOn plan.pipeline steps a := fun a ha =>
    hhands a (heq ▸ List.mem_append_left _ ha)
  cases h with
  | port port expr hexpr hx => exact hm.supplied_of_port heq hbefore hexpr hx
  | binding schema spec port expr hschema hspec hport hfed hexpr hx =>
    obtain ⟨bound, hbound, hbindings⟩ := (hm.made before s after heq).bound
    obtain ⟨e, he⟩ := Option.isSome_iff_exists.mp hfed
    have hbinding := bindings_of_port hbound hschema (hc.bindings _ _ hschema) hspec hport he
    rw [← hbindings, hexpr] at hbinding
    obtain rfl := Option.some.inj hbinding
    exact hm.supplied_of_port heq hbefore he hx
  | guard g hg hx =>
    rw [hx]
    exact (hhands s (heq ▸ by simp)).guards g hg

end MadeOf

/-! ## Handlers -/

theorem wellScoped_handler (hc : plan.catalog.Scoped) {h : Handler} {t : String}
    {warnings : List Diagnostic} (ht : t ∈ plan.triggers)
    (hh : plan.handler critical t = .ok (h, warnings)) :
    h.WellScoped plan.catalog.schemas plan.pipeline := by
  obtain ⟨rfl, hm⟩ := madeOf_handler hh
  refine ⟨(plan.mem_triggers.mp ht).2, hm.ids_nodup, fun _ => hm.mem_ids_iff, hm.vars_nodup, ?_,
    ?_, ?_⟩
  · intro before s after heq x hx
    obtain ⟨s', hs', hvar, hvalue, hpath⟩ := hm.supplied_of_reads hc heq hx
    have hmem := hm.mem_before hpath before after heq
    obtain ⟨pre, post, hlines, hpre⟩ := h.lines_eq heq
    obtain ⟨l, hl, hdeclares⟩ := Step.exists_declares hvalue
    exact ⟨s', hmem, hvar, hpath, pre, post, l, hlines, hdeclares, hpre s' hmem l hl⟩
  · intro a ha b hb e he hsource htarget
    exact hm.guards_of_edge ha hb (hm.mem_edges ha hb he hsource htarget) hsource htarget
  · exact fun σ a b hpath hruns g hg => hruns g (hm.guards_subset hpath hg)

end Plan

end Flowline

import Flowline.Proofs.Compile.WellScoped
import Flowline.Proofs.Graph.Alike
import Flowline.Proofs.Script.Variables

/-!
# Scripts do not depend on the order of declaration

A script is made from a plan, and all that is asked of a plan is answered alike however the nodes and
edges are arranged: what a node's id stands for, since no id is declared twice, its variable, since no two
clash, the links of a node, since they are sorted, and what is reached from where.  So everything from the
first trigger to the last warning is the same, and so is the first error.
-/

namespace Flowline

open Script

/-- A node is found by its id in whatever order the nodes are declared. -/
theorem Pipeline.Rearranges.node? {p q : Pipeline} (h : p.Rearranges q)
    (hp : (p.nodes.map Node.id).Nodup) : p.node? = q.node? := by
  have hq : (q.nodes.map Node.id).Nodup := (h.nodes.map Node.id).nodup_iff.mp hp
  funext id
  refine Option.ext fun n => ?_
  rw [Pipeline.node?_eq_some_iff hp, Pipeline.node?_eq_some_iff hq, h.nodes.mem_iff]

namespace Plan

/-- Plans of which whatever is asked is answered alike. -/
structure Alike (a b : Plan) : Prop where
  id : a.pipeline.id = b.pipeline.id
  version : a.pipeline.version = b.pipeline.version
  node? : a.pipeline.node? = b.pipeline.node?
  graph : a.graph.Alike b.graph
  order : a.order = b.order
  var : a.var = b.var
  catalog : a.catalog = b.catalog
  resolve : ∀ spec n feed,
    BindingSpec.resolve spec n feed a.resources = BindingSpec.resolve spec n feed b.resources

namespace Alike

variable {a b : Plan} (h : a.Alike b)

include h

theorem isTrigger : a.pipeline.isTrigger = b.pipeline.isTrigger := by
  funext id
  rw [Pipeline.isTrigger, Pipeline.isTrigger, h.node?]

theorem triggers : a.triggers = b.triggers := by
  rw [Plan.triggers, Plan.triggers, h.order, h.isTrigger]

theorem members : a.members = b.members := by
  funext trigger
  rw [Plan.members, Plan.members, h.isTrigger, h.graph.scope]

theorem hasEffect : a.hasEffect = b.hasEffect := by
  funext id
  rw [Plan.hasEffect, Plan.hasEffect, h.node?, h.catalog]

theorem critical : a.critical = b.critical := by
  rw [Plan.critical, Plan.critical, h.triggers, h.graph.reachable, h.hasEffect, h.graph.feeding]

theorem memberNodes : a.memberNodes = b.memberNodes := by
  funext members
  rw [Plan.memberNodes, Plan.memberNodes, h.order, h.node?]

theorem feed : a.feed = b.feed := by
  funext trigger members steps n
  rw [Plan.feed, Plan.feed, h.graph.incoming]

theorem bindSpec : a.bindSpec = b.bindSpec := by
  funext critical ports n bound spec
  rw [Plan.bindSpec, Plan.bindSpec, h.resolve]

theorem bindAll : a.bindAll = b.bindAll := by
  funext critical ports n
  rw [Plan.bindAll, Plan.bindAll, h.catalog, h.bindSpec]

theorem step : a.step = b.step := by
  funext critical trigger members steps n
  rw [Plan.step, Plan.step, h.feed, h.bindAll, h.var, h.catalog]

theorem addStep : a.addStep = b.addStep := by
  funext critical trigger members s n
  rw [Plan.addStep, Plan.addStep, h.step]

theorem handler : a.handler = b.handler := by
  funext critical trigger
  rw [Plan.handler, Plan.handler, h.members, h.memberNodes, h.addStep, h.var]

theorem handlers : a.handlers = b.handlers := by
  rw [Plan.handlers, Plan.handlers, h.critical, h.triggers, h.handler]

theorem unsupported? : a.unsupported? = b.unsupported? := by
  rw [Plan.unsupported?, Plan.unsupported?, h.order, h.node?, h.catalog]

theorem workflow : a.workflow = b.workflow := by
  rw [Plan.workflow, Plan.workflow, h.triggers, h.unsupported?, h.handlers, h.id, h.version]

end Alike

/-- Plans for one pipeline are alike if their resources answer alike. -/
theorem alike_of_resolve {a b : Plan} (hpipeline : a.pipeline = b.pipeline) (horder : a.order = b.order)
    (hcatalog : a.catalog = b.catalog)
    (hresolve : ∀ spec n feed,
      BindingSpec.resolve spec n feed a.resources = BindingSpec.resolve spec n feed b.resources) :
    a.Alike b where
  id := by rw [hpipeline]
  version := by rw [hpipeline]
  node? := by rw [hpipeline]
  graph := by
    rw [a.graph_eq, b.graph_eq, hpipeline]
    exact ⟨fun _ => Iff.rfl, .refl _⟩
  order := horder
  var := by
    funext id
    rw [Plan.var, Plan.var, Plan.vars, Plan.vars, hpipeline]
  catalog := hcatalog
  resolve := hresolve

end Plan

namespace Catalog

variable {c : Catalog} {r : Resources} {p q : Pipeline} {order : List String}

/-- If the nodes have an order, the workflow is that of the plan with this order. -/
theorem workflow_of_order (h : (Graph.ofPipeline p).order = .ok order) :
    ∃ plan : Plan, plan.pipeline = p ∧ plan.order = order ∧ plan.catalog = c ∧ plan.resources = r ∧
      c.workflow r p = plan.workflow := by
  refine ⟨⟨p, Graph.ofPipeline p, order, c, r, rfl, h⟩, rfl, rfl, rfl, rfl, ?_⟩
  rw [workflow]
  split
  · rename_i cycle hcycle
    rw [h] at hcycle
    cases hcycle
  · rename_i order' horder
    obtain rfl := Except.ok.inj (h.symm.trans horder)
    rfl

theorem workflow_eq_of_cycle {cycle : Cycle} (h : (Graph.ofPipeline p).order = .error cycle) :
    c.workflow r p = .error (.cycle cycle) := by
  rw [workflow]
  split
  · rename_i cycle' hcycle
    obtain rfl := Except.error.inj (h.symm.trans hcycle)
    rfl
  · rename_i order horder
    rw [h] at horder
    cases horder

/-- Pipelines that differ in arrangement alone have the same workflow, if their nodes have an order. -/
theorem workflow_eq_of_rearranges (hid : p.id = q.id) (hversion : p.version = q.version)
    (hpq : p.Rearranges q) (hvars : (p.nodes.map fun n => stepVar n.id).Nodup)
    (horder : (Graph.ofPipeline p).order = .ok order) : c.workflow r p = c.workflow r q := by
  obtain ⟨a, hap, hao, hac, har, ha⟩ := workflow_of_order (c := c) (r := r) horder
  obtain ⟨b, hbq, hbo, hbc, hbr, hb⟩ := workflow_of_order (c := c) (r := r) (hpq.order_eq_ok horder)
  have hvars' : (q.nodes.map fun n => stepVar n.id).Nodup := (hpq.nodes.map _).nodup_iff.mp hvars
  have hids : (p.nodes.map Node.id).Nodup := by
    refine List.Nodup.of_map stepVar ?_
    rwa [List.map_map]
  have halike : a.Alike b :=
    { id := by rw [hap, hbq, hid]
      version := by rw [hap, hbq, hversion]
      node? := by rw [hap, hbq, hpq.node? hids]
      graph := by
        rw [a.graph_eq, b.graph_eq, hap, hbq]
        exact hpq.graph
      order := by rw [hao, hbo]
      var := by rw [Plan.var_of_nodup a (hap ▸ hvars), Plan.var_of_nodup b (hbq ▸ hvars')]
      catalog := by rw [hac, hbc]
      resolve := fun _ _ _ => by rw [har, hbr] }
  rw [ha, hb, halike.workflow]

/-- However its nodes and edges are arranged, a pipeline whose nodes have variables that do not clash
compiles to one script with one list of warnings, or fails with one error, or has a cycle. -/
theorem compile_rearranged (c : Catalog) (r : Resources) (p q : Pipeline) (hid : p.id = q.id)
    (hversion : p.version = q.version) (hnodes : p.nodes.Perm q.nodes)
    (hedges : p.edges.Perm q.edges) (hvars : (p.nodes.map fun n => stepVar n.id).Nodup) :
    ((∃ cycle, c.compile r p = .error (.cycle cycle)) ∧
      ∃ cycle, c.compile r q = .error (.cycle cycle)) ∨ c.compile r p = c.compile r q := by
  have hpq : p.Rearranges q := ⟨hnodes, hedges⟩
  cases hp : (Graph.ofPipeline p).order with
  | ok order =>
    right
    rw [compile, compile, workflow_eq_of_rearranges hid hversion hpq hvars hp]
  | error cycle =>
    cases hq : (Graph.ofPipeline q).order with
    | ok order =>
      rw [hpq.symm.order_eq_ok hq] at hp
      cases hp
    | error cycle' =>
      left
      constructor
      · exact ⟨cycle, by rw [compile, workflow_eq_of_cycle hp]; rfl⟩
      · exact ⟨cycle', by rw [compile, workflow_eq_of_cycle hq]; rfl⟩

theorem branching_reversed :
    ∃ compiled, builtin.compile ⟨Secrets.declared [], Chains.standard⟩ branching = .ok compiled ∧
      builtin.compile ⟨Secrets.declared [], Chains.standard⟩
        { branching with
          nodes := branching.nodes.reverse
          edges := branching.edges.reverse } = .ok compiled := by
  have hsome : (builtin.compile ⟨Secrets.declared [], Chains.standard⟩ branching).toOption.isSome := by
    decide +kernel
  cases hc : builtin.compile ⟨Secrets.declared [], Chains.standard⟩ branching with
  | error e =>
    rw [hc] at hsome
    cases hsome
  | ok compiled =>
    have hvars : (branching.nodes.map fun n => stepVar n.id).Nodup := by decide +kernel
    rcases compile_rearranged builtin ⟨Secrets.declared [], Chains.standard⟩ branching
        { branching with nodes := branching.nodes.reverse, edges := branching.edges.reverse } rfl rfl
        (List.reverse_perm _).symm (List.reverse_perm _).symm hvars with ⟨⟨cycle, hcycle⟩, -⟩ | heq
    · rw [hc] at hcycle
      cases hcycle
    · exact ⟨compiled, rfl, heq.symm.trans hc⟩

end Catalog

end Flowline

import Flowline.Proofs.Compile.Guards
import Flowline.Proofs.Graph.Alike
import Mathlib.Order.Bounds.Defs

/-!
# Scopes

The scope of a trigger is put together from what the trigger reaches and from the ancestors of that.  If
no edge leads to a trigger, this is the least set that has what the trigger reaches and, with a node, all
nodes but triggers from which edges lead to it.  Hence what comes in from outside a handler comes from
another trigger, and there is a warning of every such input.
-/

namespace Flowline

open Relation Script

namespace Pipeline

variable {p : Pipeline} {t id : String}

/-! ## Least scopes -/

/-- A set that has all that a node reaches and, with the target of an edge, its source, if that is
declared and no trigger. -/
structure Encloses (p : Pipeline) (t : String) (ids : Set String) : Prop where
  reached : ∀ id, ReflTransGen p.Joins t id → id ∈ ids
  closed : ∀ e ∈ p.edges, e.target ∈ ids → e.source ∈ p.nodes.map Node.id →
    p.isTrigger e.source = false → e.source ∈ ids

/-- No edge leads to a trigger. -/
def EntersNoTrigger (p : Pipeline) : Prop := ∀ e ∈ p.edges, p.isTrigger e.target = false

theorem declared_of_isTrigger (h : p.isTrigger id = true) : id ∈ p.nodes.map Node.id := by
  obtain ⟨n, hn, -⟩ := (Option.any_eq_true _ _).mp h
  obtain ⟨hmem, rfl⟩ := node?_eq_some hn
  exact List.mem_map_of_mem hmem

theorem mem_scope_iff (ht : p.isTrigger t = true) :
    id ∈ (Graph.ofPipeline p).scope p.isTrigger t ↔
      ReflTransGen p.Joins t id ∨
        p.isTrigger id = false ∧ ∃ b, ReflTransGen p.Joins t b ∧ ReflTransGen p.Joins id b := by
  rw [Graph.mem_scope, Graph.mem_ids_ofPipeline, path_ofPipeline,
    and_iff_right (declared_of_isTrigger ht)]

/-- Every edge into a member of a scope comes from a member or from a trigger. -/
theorem encloses_scope (ht : p.isTrigger t = true) :
    p.Encloses t {id | id ∈ (Graph.ofPipeline p).scope p.isTrigger t} where
  reached id hid := (mem_scope_iff ht).mpr (Or.inl hid)
  closed e he htarget hsource hnot := by
    have hdeclared : e.target ∈ p.nodes.map Node.id :=
      Graph.mem_ids_ofPipeline.mp (Graph.mem_ids_of_mem_scope htarget)
    have hjoins : p.Joins e.source e.target := ⟨⟨e, he, rfl, rfl⟩, hsource, hdeclared⟩
    rcases (mem_scope_iff ht).mp htarget with hpath | ⟨-, b, hb, hpath⟩
    · exact (mem_scope_iff ht).mpr (Or.inr ⟨hnot, e.target, hpath, .single hjoins⟩)
    · exact (mem_scope_iff ht).mpr (Or.inr ⟨hnot, b, hb, .head hjoins hpath⟩)

section EntersNoTrigger

variable (hp : p.EntersNoTrigger)
include hp

theorem isTrigger_of_joins {a b : String} (h : p.Joins a b) : p.isTrigger b = false := by
  obtain ⟨⟨e, he, -, rfl⟩, -, -⟩ := h
  exact hp e he

/-- A set that is closed has the ancestors of its members that are no triggers: an edge leads to every
further node of the path, so none of them is a trigger. -/
theorem Encloses.mem_of_path {ids : Set String} (h : p.Encloses t ids) {b : String} (hb : b ∈ ids)
    (hpath : ReflTransGen p.Joins id b) (hid : p.isTrigger id = false) : id ∈ ids := by
  induction hpath using ReflTransGen.head_induction_on with
  | refl => exact hb
  | head hjoins _ ih =>
    obtain ⟨⟨e, he, rfl, rfl⟩, hsource, -⟩ := hjoins
    exact h.closed e he (ih (hp e he)) hsource hid

theorem isLeast_scope (ht : p.isTrigger t = true) :
    IsLeast {ids | p.Encloses t ids} {id | id ∈ (Graph.ofPipeline p).scope p.isTrigger t} := by
  refine ⟨encloses_scope ht, fun ids hids id hid => ?_⟩
  rcases (mem_scope_iff ht).mp hid with hpath | ⟨hnot, b, hb, hpath⟩
  · exact hids.reached id hpath
  · exact hids.mem_of_path hp (hids.reached b hb) hpath hnot

/-- A scope has no trigger but its own. -/
theorem eq_of_mem_scope (ht : p.isTrigger t = true)
    (hid : id ∈ (Graph.ofPipeline p).scope p.isTrigger t) (h : p.isTrigger id = true) : id = t := by
  rcases (mem_scope_iff ht).mp hid with hpath | ⟨hnot, -⟩
  · rcases ReflTransGen.cases_tail hpath with heq | ⟨a, -, hjoins⟩
    · exact heq
    · rw [isTrigger_of_joins hp hjoins] at h
      cases h
  · rw [hnot] at h
    cases h

end EntersNoTrigger

/-! ## Inputs -/

/-- An edge from a declared node is the last of those to a port, which are in the order of their sources and
then of the ports that they leave. -/
structure LastInto (p : Pipeline) (e : Edge) (id port : String) : Prop where
  mem : e ∈ p.edges
  declared : e.source ∈ p.nodes.map Node.id
  target : e.target = id
  enters : e.targetPort = port
  last : ∀ e' ∈ p.edges, e'.source ∈ p.nodes.map Node.id → e'.target = id → e'.targetPort = port →
    toLex (e'.source, e'.sourcePort) ≤ toLex (e.source, e.sourcePort)

/-- The last edges to a port leave the same port of the same node. -/
theorem LastInto.unique {e e' : Edge} {port : String} (h : p.LastInto e id port)
    (h' : p.LastInto e' id port) : e.source = e'.source ∧ e.sourcePort = e'.sourcePort := by
  have hkey : toLex (e.source, e.sourcePort) = toLex (e'.source, e'.sourcePort) :=
    le_antisymm (h'.last e h.mem h.declared h.target h.enters)
      (h.last e' h'.mem h'.declared h'.target h'.enters)
  exact Prod.mk.inj (toLex.injective hkey)

/-- An edge leads from another trigger to a port of a member of a trigger's scope. -/
def Misses (p : Pipeline) (id port source t : String) : Prop :=
  p.isTrigger t = true ∧ id ∈ (Graph.ofPipeline p).scope p.isTrigger t ∧
    p.isTrigger source = true ∧ source ≠ t ∧
    ∃ e ∈ p.edges, e.source = source ∧ e.target = id ∧ e.targetPort = port

end Pipeline

/-- A diagnostic warns of an input of a node that comes from a node which does not run for a trigger. -/
structure Diagnostic.WarnsOf (d : Diagnostic) (id port source t : String) : Prop where
  code : d.code = .crossTriggerInput
  node : d.node = some id
  port : d.port = some port
  nodes : d.nodes = [source, t]

/-- At the ports of its steps a handler has what the last edge to each brings: `undefined` if that comes from
another trigger, and otherwise what an earlier step puts out. -/
def Handler.FedWithin (p : Pipeline) (h : Handler) : Prop :=
  ∀ before s after, h.steps = before ++ s :: after → ∀ port expr,
    s.inputs.ports.get? port = some expr ↔ ∃ e, p.LastInto e s.node.id port ∧
      ((p.isTrigger e.source = true ∧ e.source ≠ h.trigger ∧ expr = "undefined") ∨
        ∃ a ∈ before, a.node.id = e.source ∧ a.fragment.outputs.get? e.sourcePort = some expr)

namespace Plan

variable {plan : Plan} {w : Workflow} {d : Diagnostic} {t : String}

/-- From outside a handler comes what another trigger puts out, and nothing else. -/
theorem notMem_members_iff {source id : String} (hp : plan.pipeline.EntersNoTrigger)
    (ht : plan.pipeline.isTrigger t = true) (hid : id ∈ plan.members t)
    (hadj : plan.graph.Adj source id) :
    source ∉ plan.members t ↔ plan.pipeline.isTrigger source = true ∧ source ≠ t := by
  constructor
  · intro hnot
    have hsource : plan.pipeline.isTrigger source = true := by
      by_contra hplain
      exact hnot (mem_members_of_adj hid hadj (by simpa using hplain))
    refine ⟨hsource, ?_⟩
    rintro rfl
    have hdeclared := Pipeline.declared_of_isTrigger ht
    exact hnot (mem_members_of_path (plan.mem_triggers.mpr ⟨hdeclared, ht⟩) (.refl _ _))
  · rintro ⟨hsource, hne⟩ hmem
    rw [members, plan.graph_eq] at hmem
    exact hne (Pipeline.eq_of_mem_scope hp ht hmem hsource)

/-- Along an edge into a step comes what its source puts out, or nothing from another trigger. -/
theorem carries_iff {before after : List Step} {s : Step} {e : Edge} {expr : String}
    (hp : plan.pipeline.EntersNoTrigger) (ht : plan.pipeline.isTrigger t = true)
    (hm : plan.MadeOf plan.critical (plan.members t) (plan.memberNodes (plan.members t))
      (before ++ s :: after))
    (he : e ∈ plan.graph.edges) (htarget : e.target = s.node.id) :
    Carries (plan.members t) before ⟨e.source, e.targetPort, e.sourcePort⟩ expr ↔
      (plan.pipeline.isTrigger e.source = true ∧ e.source ≠ t ∧ expr = "undefined") ∨
        ∃ a ∈ before, a.node.id = e.source ∧ a.fragment.outputs.get? e.sourcePort = some expr := by
  have hmember {a : Step} (ha : a ∈ before ++ s :: after) : a.node.id ∈ plan.members t :=
    (plan.mem_memberNodes (hm.mem_node ha)).1
  have hforeign := notMem_members_iff hp ht (hmember (by simp)) ⟨e, he, rfl, htarget⟩
  constructor
  · rintro (⟨hnot, rfl⟩ | ⟨-, a, ha⟩)
    · obtain ⟨hsource, hne⟩ := hforeign.mp hnot
      exact Or.inl ⟨hsource, hne, rfl⟩
    · obtain ⟨hmem, hid⟩ := stepOf?_eq_some ha.step
      exact Or.inr ⟨a, hmem, hid, ha.output⟩
  · rintro (⟨hsource, hne, rfl⟩ | ⟨a, ha, hid, houtput⟩)
    · exact Or.inl ⟨hforeign.mpr ⟨hsource, hne⟩, rfl⟩
    · have hin : a ∈ before ++ s :: after := List.mem_append_left _ ha
      have hids : e.source ∈ (before.map Step.node).map Node.id :=
        hid ▸ List.mem_map_of_mem (List.mem_map_of_mem ha)
      obtain ⟨b, hb⟩ := exists_stepOf? hids
      obtain ⟨hbefore, hbid⟩ := stepOf?_eq_some hb
      -- no two steps have one node
      obtain rfl : b = a := List.inj_on_of_nodup_map hm.ids_nodup
        (List.mem_append_left _ hbefore) hin (hbid.trans hid.symm)
      exact Or.inr ⟨hid ▸ hmember hin, b, hb, houtput⟩

/-- What is at a port of a step came in along the last edge to it. -/
theorem exists_lastInto {before after : List Step} {s : Step} {port expr : String}
    (hm : plan.MadeOf plan.critical (plan.members t) (plan.memberNodes (plan.members t))
      (before ++ s :: after)) (hexpr : s.inputs.ports.get? port = some expr) :
    ∃ e ∈ plan.graph.edges, plan.pipeline.LastInto e s.node.id port ∧
      Carries (plan.members t) before ⟨e.source, e.targetPort, e.sourcePort⟩ expr := by
  have hdeclared : s.node.id ∈ plan.pipeline.nodes.map Node.id := hm.declared (by simp)
  obtain ⟨pre, l, post, heq, rfl, hlater, hcarries⟩ :=
    (hm.made before s after rfl).fed.last port expr hexpr
  have hl : l ∈ plan.graph.incoming s.node.id := heq ▸ List.mem_append_right _ List.mem_cons_self
  obtain ⟨e, he, htarget, rfl⟩ := Graph.mem_incoming.mp hl
  have hedge := he
  rw [plan.graph_eq] at hedge
  obtain ⟨hmem, hsource, -⟩ := Graph.mem_edges_ofPipeline.mp hedge
  refine ⟨e, he, ⟨hmem, hsource, htarget, rfl, ?_⟩, hcarries⟩
  intro e' he' hsource' htarget' hport
  have hin : (⟨e'.source, e'.targetPort, e'.sourcePort⟩ : Link) ∈ plan.graph.incoming s.node.id := by
    refine Graph.mem_incoming.mpr ⟨e', ?_, htarget', rfl⟩
    rw [plan.graph_eq]
    exact Graph.mem_edges_ofPipeline.mpr ⟨he', hsource', htarget' ▸ hdeclared⟩
  have hsorted : (plan.graph.incoming s.node.id).Pairwise fun a b => a.key ≤ b.key :=
    Link.sorted_sort _
  rw [heq] at hin hsorted
  exact (Link.key_le_iff hport).mp (Link.key_le_of_last hsorted hlater hin hport)

/-- At a port of a step there is what comes in along the last edge to it. -/
theorem get?_ports_iff {before after : List Step} {s : Step} {port expr : String}
    (hp : plan.pipeline.EntersNoTrigger) (ht : plan.pipeline.isTrigger t = true)
    (hm : plan.MadeOf plan.critical (plan.members t) (plan.memberNodes (plan.members t))
      (before ++ s :: after)) :
    s.inputs.ports.get? port = some expr ↔ ∃ e, plan.pipeline.LastInto e s.node.id port ∧
      ((plan.pipeline.isTrigger e.source = true ∧ e.source ≠ t ∧ expr = "undefined") ∨
        ∃ a ∈ before, a.node.id = e.source ∧ a.fragment.outputs.get? e.sourcePort = some expr) := by
  constructor
  · intro hexpr
    obtain ⟨e, he, hlast, hcarries⟩ := exists_lastInto hm hexpr
    exact ⟨e, hlast, (carries_iff hp ht hm he hlast.target).mp hcarries⟩
  · rintro ⟨e, hlast, horigin⟩
    have he : e ∈ plan.graph.edges := by
      rw [plan.graph_eq]
      exact Graph.mem_edges_ofPipeline.mpr
        ⟨hlast.mem, hlast.declared, hlast.target ▸ hm.declared (by simp)⟩
    have hcarries := (carries_iff hp ht hm he hlast.target).mpr horigin
    obtain ⟨hsome, -⟩ := (hm.made before s after rfl).fed.link _
      (Graph.mem_incoming.mpr ⟨e, he, hlast.target, rfl⟩)
    obtain ⟨expr', hexpr⟩ := Option.isSome_iff_exists.mp hsome
    rw [hlast.enters] at hexpr
    obtain ⟨e', -, hlast', hcarries'⟩ := exists_lastInto hm hexpr
    -- along both edges the same comes in
    obtain ⟨hsource, hport⟩ := hlast.unique hlast'
    rw [hlast.enters, hsource, hport] at hcarries
    rw [hlast'.enters] at hcarries'
    rw [hexpr, hcarries.unique hcarries']

/-- The inputs that are warned of are those from other triggers. -/
theorem mem_warnings_foreign_iff (hp : plan.pipeline.EntersNoTrigger)
    (h : plan.workflow = .ok w) :
    d ∈ w.warnings ∧ d.code = .crossTriggerInput ↔
      ∃ t n e, plan.pipeline.isTrigger t = true ∧ plan.pipeline.node? n.id = some n ∧
        n.id ∈ plan.members t ∧ e ∈ plan.pipeline.edges ∧ e.target = n.id ∧
        plan.pipeline.isTrigger e.source = true ∧ e.source ≠ t ∧
        d = crossTriggerInput n ⟨e.source, e.targetPort, e.sourcePort⟩ t := by
  obtain ⟨htriggers, hhandlers⟩ := handlers_of_workflow h
  have hmade : ∀ handler ∈ w.handlers, plan.pipeline.isTrigger handler.trigger = true ∧
      plan.MadeOf plan.critical (plan.members handler.trigger)
        (plan.memberNodes (plan.members handler.trigger)) handler.steps := by
    intro handler hhandler
    obtain ⟨warnings, hh⟩ := hhandlers handler hhandler
    have ht : handler.trigger ∈ plan.triggers := htriggers ▸ List.mem_map_of_mem hhandler
    exact ⟨(plan.mem_triggers.mp ht).2, (madeOf_handler hh).2⟩
  rw [mem_warnings_iff h]
  constructor
  · rintro ⟨⟨handler, hhandler, s, hs, hraised⟩, hcode⟩
    obtain ⟨ht, hm⟩ := hmade handler hhandler
    obtain ⟨l, hl, hpeer, rfl⟩ := mem_raised_of_foreign.mp ⟨hraised, hcode⟩
    obtain ⟨hmember, hnode⟩ := plan.mem_memberNodes (hm.mem_node hs)
    obtain ⟨e, he, htarget, rfl⟩ := Graph.mem_incoming.mp hl
    obtain ⟨hsource, hne⟩ := (notMem_members_iff hp ht hmember ⟨e, he, rfl, htarget⟩).mp hpeer
    rw [plan.graph_eq] at he
    exact ⟨handler.trigger, s.node, e, ht, hnode, hmember, (Graph.mem_edges_ofPipeline.mp he).1,
      htarget, hsource, hne, rfl⟩
  · rintro ⟨t, n, e, ht, hnode, hmember, he, htarget, hsource, hne, rfl⟩
    refine ⟨?_, rfl⟩
    have hsource' := Pipeline.declared_of_isTrigger hsource
    have ht' : t ∈ plan.triggers :=
      plan.mem_triggers.mpr ⟨Pipeline.declared_of_isTrigger ht, ht⟩
    obtain ⟨handler, hhandler, rfl⟩ := List.mem_map.mp (htriggers ▸ ht')
    obtain ⟨-, hm⟩ := hmade handler hhandler
    -- the member has a step, at which the warning is raised
    obtain ⟨s, hmem, -, rfl⟩ := hm.exists_step hmember hnode
    have hedge : e ∈ plan.graph.edges := by
      rw [plan.graph_eq]
      refine Graph.mem_edges_ofPipeline.mpr ⟨he, hsource', ?_⟩
      rw [htarget]
      exact members_declared hmember
    have hpeer : e.source ∉ plan.members handler.trigger :=
      (notMem_members_iff hp ht hmember ⟨e, hedge, rfl, htarget⟩).mpr ⟨hsource, hne⟩
    obtain ⟨hraised, -⟩ := mem_raised_of_foreign.mpr
      ⟨_, Graph.mem_incoming.mpr ⟨e, hedge, htarget, rfl⟩, hpeer, rfl⟩
    exact ⟨handler, hhandler, s, hmem, hraised⟩

end Plan

namespace Catalog

variable {p : Pipeline}

theorem fedWithin_of_workflow {c : Catalog} {r : Resources} {w : Workflow} (hp : p.EntersNoTrigger)
    (h : c.workflow r p = .ok w) : ∀ handler ∈ w.handlers, handler.FedWithin p := by
  obtain ⟨plan, rfl, rfl, rfl, hw⟩ := plan_of_workflow h
  obtain ⟨htriggers, hhandlers⟩ := Plan.handlers_of_workflow hw
  intro handler hhandler before s after heq port expr
  obtain ⟨warnings, hmade⟩ := hhandlers handler hhandler
  have ht : handler.trigger ∈ plan.triggers := htriggers ▸ List.mem_map_of_mem hhandler
  have hm := (Plan.madeOf_handler hmade).2
  rw [heq] at hm
  exact Plan.get?_ports_iff hp (plan.mem_triggers.mp ht).2 hm

/-- If no edge leads to a trigger, the scope of a trigger is the least set that encloses it, with no other
trigger in it.  What is compiled is emitted from what the nodes of the scope put out, and from `undefined` for
what comes from other triggers, and it comes with a warning for exactly these inputs. -/
theorem foreign_of_compile (hp : p.EntersNoTrigger) :
    (∀ t, p.isTrigger t = true →
      IsLeast {ids | p.Encloses t ids} {id | id ∈ (Graph.ofPipeline p).scope p.isTrigger t} ∧
      ∀ id ∈ (Graph.ofPipeline p).scope p.isTrigger t, p.isTrigger id = true → id = t) ∧
    ∀ (c : Catalog) (r : Resources) (compiled : Compiled), c.compile r p = .ok compiled →
      (∃ w, c.workflow r p = .ok w ∧ compiled.code = renderLines w.lines ∧
        ∀ handler ∈ w.handlers, handler.WrittenIn w.lines ∧ handler.FedWithin p ∧
          ∀ s ∈ handler.steps, ∃ emit, c.emitters.get? s.node.kind = some emit ∧
            emit s.node s.inputs = .ok s.fragment) ∧
      (∀ id port source t, (∃ d ∈ compiled.warnings, d.WarnsOf id port source t) ↔
        p.Misses id port source t) ∧
      ∀ d ∈ compiled.warnings, d.code = .crossTriggerInput →
        ∃ id port source t, d.WarnsOf id port source t := by
  refine ⟨fun t ht => ⟨Pipeline.isLeast_scope hp ht, fun id => Pipeline.eq_of_mem_scope hp ht⟩, ?_⟩
  intro c r compiled h
  obtain ⟨w, hw, hcode⟩ := workflow_of_compile h
  rw [warnings_of_compile h hw]
  refine ⟨⟨w, hw, hcode, fun handler hhandler => ⟨w.writtenIn_lines hhandler,
    fedWithin_of_workflow hp hw handler hhandler, fun s hs =>
      ((emitted_of_workflow hw).2 handler hhandler s hs).2⟩⟩, ?_⟩
  obtain ⟨plan, rfl, rfl, rfl, hplan⟩ := plan_of_workflow hw
  constructor
  · intro id port source t
    constructor
    · rintro ⟨d, hd, hwarns⟩
      obtain ⟨t', n, e, ht, -, hmember, he, htarget, hsource, hne, rfl⟩ :=
        (Plan.mem_warnings_foreign_iff hp hplan).mp ⟨hd, hwarns.code⟩
      obtain rfl : n.id = id := Option.some.inj hwarns.node
      obtain rfl : e.targetPort = port := Option.some.inj hwarns.port
      obtain ⟨rfl, hrest⟩ := List.cons.inj hwarns.nodes
      obtain ⟨rfl, -⟩ := List.cons.inj hrest
      rw [Plan.members, plan.graph_eq] at hmember
      exact ⟨ht, hmember, hsource, hne, e, he, rfl, htarget, rfl⟩
    · rintro ⟨ht, hmember, hsource, hne, e, he, rfl, rfl, rfl⟩
      obtain ⟨n, hn⟩ := Pipeline.exists_node?
        (Graph.mem_ids_ofPipeline.mp (Graph.mem_ids_of_mem_scope hmember))
      have hid := (Pipeline.node?_eq_some hn).2
      rw [← hid] at hmember hn
      rw [← plan.graph_eq] at hmember
      obtain ⟨hd, hcode⟩ := (Plan.mem_warnings_foreign_iff hp hplan).mpr
        ⟨t, n, e, ht, hn, hmember, he, hid.symm, hsource, hne, rfl⟩
      exact ⟨_, hd, hcode, congrArg some hid, rfl, rfl⟩
  · intro d hd hcode
    obtain ⟨t, n, e, -, -, -, -, -, -, -, rfl⟩ :=
      (Plan.mem_warnings_foreign_iff hp hplan).mp ⟨hd, hcode⟩
    exact ⟨n.id, e.targetPort, e.source, t, rfl, rfl, rfl, rfl⟩

/-- Two hooks feed one request, one of them by way of an expression. -/
def crossing : Pipeline where
  id := "crossing"
  name := "Crossing"
  version := 1
  nodes := [
    ⟨"first", .trigger, "http-trigger", [("method", .string "POST")], .ready, none⟩,
    ⟨"second", .trigger, "http-trigger", [("method", .string "POST")], .ready, none⟩,
    ⟨"echo", .logic, "data-transform", [("expression", .string "input")], .ready, none⟩,
    ⟨"send", .capability, "http-fetch",
      [("method", .string "POST"), ("url", .string "https://example.com")], .ready, none⟩,
    ⟨"note", .logic, "log", [("message", .string "sent")], .ready, none⟩]
  edges := [
    ⟨none, "first", "payload", "echo", "in"⟩, ⟨none, "second", "payload", "send", "in"⟩,
    ⟨none, "echo", "value", "send", "body"⟩, ⟨none, "send", "status", "note", "in"⟩]

theorem crossing_misses :
    crossing.EntersNoTrigger ∧
      IsLeast {ids | crossing.Encloses "second" ids}
        {id | id ∈ (Graph.ofPipeline crossing).scope crossing.isTrigger "second"} ∧
      (Graph.ofPipeline crossing).scope crossing.isTrigger "second" =
        ["echo", "note", "second", "send"] ∧
      ∃ compiled, builtin.compile ⟨Secrets.declared [], Chains.standard⟩ crossing = .ok compiled ∧
        (compiled.warnings.map fun d => (d.node, d.port, d.nodes)) =
          [(some "send", some "in", ["second", "first"]),
            (some "echo", some "in", ["first", "second"])] ∧
        (∀ d ∈ compiled.warnings, ∃ id port source t, d.WarnsOf id port source t ∧
          crossing.Misses id port source t) ∧
        ∃ w : Workflow, compiled.code = renderLines w.lines ∧
          (w.handlers.map fun h => h.steps.map fun s => (s.node.id, s.inputs.ports)) =
            [[("first", []), ("echo", [("in", "step_first")]),
              ("send", [("body", "step_echo"), ("in", "undefined")]), ("note", [("in", "step_send.status")])],
            [("echo", [("in", "undefined")]), ("second", []),
              ("send", [("body", "step_echo"), ("in", "step_second")]),
              ("note", [("in", "step_send.status")])]] ∧
          ∀ handler ∈ w.handlers, handler.FedWithin crossing := by
  have hp : crossing.EntersNoTrigger := by
    unfold Pipeline.EntersNoTrigger
    decide +kernel
  obtain ⟨hscope, hwarned⟩ := foreign_of_compile hp
  have hmade : ((builtin.compile ⟨Secrets.declared [], Chains.standard⟩ crossing).toOption.map
      fun compiled => (compiled.warnings.map fun d => (d.node, d.port, d.nodes),
        compiled.warnings.all (·.code = .crossTriggerInput))) =
      some ([(some "send", some "in", ["second", "first"]),
        (some "echo", some "in", ["first", "second"])], true) := by
    decide +kernel
  have hinputs : ((builtin.workflow ⟨Secrets.declared [], Chains.standard⟩ crossing).toOption.map
      fun w => w.handlers.map fun h => h.steps.map fun s => (s.node.id, s.inputs.ports)) =
      some [[("first", []), ("echo", [("in", "step_first")]),
          ("send", [("body", "step_echo"), ("in", "undefined")]), ("note", [("in", "step_send.status")])],
        [("echo", [("in", "undefined")]), ("second", []),
          ("send", [("body", "step_echo"), ("in", "step_second")]),
          ("note", [("in", "step_send.status")])]] := by
    decide +kernel
  cases hcompile : builtin.compile ⟨Secrets.declared [], Chains.standard⟩ crossing with
  | error e => simp [hcompile, Except.toOption] at hmade
  | ok compiled =>
    rw [hcompile] at hmade
    obtain ⟨hwarnings, hcodes⟩ := Prod.mk.inj (Option.some.inj hmade)
    obtain ⟨⟨w, hw, hcode, hhandlers⟩, hiff, hall⟩ := hwarned builtin _ compiled hcompile
    rw [hw] at hinputs
    have hfed : ∀ handler ∈ w.handlers, handler.FedWithin crossing :=
      fun handler hhandler => (hhandlers handler hhandler).2.1
    refine ⟨hp, (hscope "second" (by decide +kernel)).1, by decide +kernel, compiled, rfl, hwarnings,
      fun d hd => ?_, w, hcode, Option.some.inj hinputs, hfed⟩
    have hcode : d.code = .crossTriggerInput := by simpa using List.all_eq_true.mp hcodes d hd
    obtain ⟨id, port, source, t, hwarns⟩ := hall d hd hcode
    exact ⟨id, port, source, t, hwarns, (hiff id port source t).mp ⟨d, hd, hwarns⟩⟩

end Catalog

end Flowline

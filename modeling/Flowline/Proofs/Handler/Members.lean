import Flowline.Handler
import Flowline.Proofs.Graph.Order
import Flowline.Proofs.Graph.Reach
import Flowline.Proofs.Pipeline.Edges

/-!
# The nodes of a handler

A handler has each member of its trigger's scope once, after the members from which edges lead to it.
The critical nodes are those on the paths from triggers to nodes with an effect.
-/

namespace Flowline.Plan

variable (plan : Plan) {members : Ids} {id a t : String} {n : Node}

theorem isTopological : plan.graph.IsTopological plan.order :=
  Graph.isTopological_of_order plan.order_eq

theorem mem_order : id ∈ plan.order ↔ id ∈ plan.pipeline.nodes.map Node.id := by
  rw [plan.isTopological.mem_iff, plan.graph_eq, Graph.mem_ids_ofPipeline]

theorem mem_triggers :
    t ∈ plan.triggers ↔ t ∈ plan.pipeline.nodes.map Node.id ∧ plan.pipeline.isTrigger t = true := by
  rw [triggers, List.mem_filter, mem_order]

/-! ## Members -/

variable {plan}

theorem members_declared (h : id ∈ plan.members t) : id ∈ plan.pipeline.nodes.map Node.id := by
  rw [← Graph.mem_ids_ofPipeline, ← plan.graph_eq]
  exact Graph.mem_ids_of_mem_scope h

theorem trigger_mem_ids (h : t ∈ plan.triggers) : t ∈ plan.graph.ids := by
  rw [plan.graph_eq, Graph.mem_ids_ofPipeline]
  exact (plan.mem_triggers.mp h).1

/-- What a trigger reaches is in its scope. -/
theorem mem_members_of_path (h : t ∈ plan.triggers) (hpath : plan.graph.Path t id) :
    id ∈ plan.members t :=
  Graph.mem_scope.mpr ⟨trigger_mem_ids h, Or.inl hpath⟩

/-- What leads to a member is a member, other triggers apart. -/
theorem mem_members_of_adj (hid : id ∈ plan.members t) (h : plan.graph.Adj a id)
    (ha : plan.pipeline.isTrigger a = false) : a ∈ plan.members t := by
  obtain ⟨ht, hpath | ⟨-, b, htb, hpath⟩⟩ := Graph.mem_scope.mp hid
  · exact Graph.mem_scope.mpr ⟨ht, Or.inr ⟨ha, id, hpath, Relation.ReflTransGen.single h⟩⟩
  · exact Graph.mem_scope.mpr ⟨ht, Or.inr ⟨ha, b, htb, Relation.ReflTransGen.head h hpath⟩⟩

theorem mem_memberNodes (h : n ∈ plan.memberNodes members) :
    n.id ∈ members ∧ plan.pipeline.node? n.id = some n := by
  obtain ⟨id, hid, hn⟩ := List.mem_filterMap.mp h
  obtain ⟨-, rfl⟩ := Pipeline.node?_eq_some hn
  exact ⟨by simpa using (List.mem_filter.mp hid).2, hn⟩

theorem mem_nodes_of_memberNodes (h : n ∈ plan.memberNodes members) : n ∈ plan.pipeline.nodes :=
  (Pipeline.node?_eq_some (mem_memberNodes h).2).1

theorem map_id_filterMap_node? {p : Pipeline} {ids : List String}
    (h : ∀ id ∈ ids, id ∈ p.nodes.map Node.id) : (ids.filterMap p.node?).map Node.id = ids := by
  induction ids with
  | nil => rfl
  | cons id ids ih =>
    obtain ⟨n, hn⟩ := Pipeline.exists_node? (h id (by simp))
    rw [List.filterMap_cons_some hn, List.map_cons, ih fun x hx => h x (by simp [hx]),
      (Pipeline.node?_eq_some hn).2]

theorem map_id_memberNodes (plan : Plan) (members : Ids) :
    (plan.memberNodes members).map Node.id = plan.order.filter (members.contains ·) :=
  map_id_filterMap_node? fun _ hid => plan.mem_order.mp (List.mem_filter.mp hid).1

theorem nodup_memberNodes (plan : Plan) (members : Ids) :
    ((plan.memberNodes members).map Node.id).Nodup := by
  rw [map_id_memberNodes]
  exact plan.isTopological.nodup.filter _

theorem mem_map_id_memberNodes :
    id ∈ (plan.memberNodes (plan.members t)).map Node.id ↔ id ∈ plan.members t := by
  rw [map_id_memberNodes, List.mem_filter, List.contains_iff_mem, and_iff_right_iff_imp]
  exact fun h => plan.mem_order.mpr (members_declared h)

/-- A member is before those to which edges lead from it. -/
theorem mem_before_of_adj {before after : List Node}
    (heq : plan.memberNodes members = before ++ n :: after) (h : plan.graph.Adj a n.id)
    (ha : a ∈ members) : a ∈ before.map Node.id := by
  have hfilter : plan.order.filter (members.contains ·) =
      before.map Node.id ++ n.id :: after.map Node.id := by
    rw [← map_id_memberNodes, heq, List.map_append, List.map_cons]
  exact plan.isTopological.mem_of_filter hfilter h (by simpa using ha)

/-! ## Critical nodes -/

theorem mem_critical :
    id ∈ plan.critical ↔ ∃ t ∈ plan.triggers, ∃ b, plan.graph.Path t id ∧ plan.graph.Path id b ∧
      plan.hasEffect b = true := by
  simp only [critical, List.mem_filter, Ids.mem_ofList, List.mem_flatMap, Graph.mem_reachable,
    List.contains_iff_mem, Graph.mem_closureOf_predecessors]
  constructor
  · rintro ⟨⟨t, ht, -, hpath⟩, b, ⟨-, heffect⟩, hb⟩
    exact ⟨t, ht, b, hpath, hb, heffect⟩
  · rintro ⟨t, ht, b, hpath, hb, heffect⟩
    have hdeclared := trigger_mem_ids ht
    exact ⟨⟨t, ht, hdeclared, hpath⟩, b, ⟨⟨t, ht, hdeclared, hpath.trans hb⟩, heffect⟩, hb⟩

end Flowline.Plan

import Flowline.Proofs.Graph.Alike

/-!
# What the queries of a graph say of its pipeline

A pipeline may declare an id twice, and edges from or to nowhere.  What its graph answers is about the
declared ids and the edges between them: which id is reached from which, and which links lead into an id
and out of it, each as often as there are edges for it.
-/

namespace Flowline

open Relation

namespace Pipeline

variable {p q : Pipeline} {a b x : String}

/-! ## Reachability -/

/-- Two declared ids, and a chain of edges from the first to the second. -/
structure Reaches (p : Pipeline) (a b : String) : Prop where
  source : a ∈ p.nodes.map Node.id
  target : b ∈ p.nodes.map Node.id
  path : ReflTransGen p.Joins a b

/-- A path that starts at a declared id ends at one. -/
theorem reaches_iff_source :
    p.Reaches a b ↔ a ∈ (Graph.ofPipeline p).ids ∧ (Graph.ofPipeline p).Path a b := by
  constructor
  · rintro ⟨ha, -, hpath⟩
    exact ⟨Graph.mem_ids_ofPipeline.mpr ha, path_ofPipeline ▸ hpath⟩
  · rintro ⟨ha, hpath⟩
    have hb := hpath.target_mem ha
    rw [path_ofPipeline] at hpath
    exact ⟨Graph.mem_ids_ofPipeline.mp ha, Graph.mem_ids_ofPipeline.mp hb, hpath⟩

/-- A path that ends at a declared id starts at one. -/
theorem reaches_iff_target :
    p.Reaches a b ↔ b ∈ (Graph.ofPipeline p).ids ∧ (Graph.ofPipeline p).Path a b := by
  rw [reaches_iff_source]
  exact ⟨fun ⟨ha, h⟩ => ⟨h.target_mem ha, h⟩, fun ⟨hb, h⟩ => ⟨h.source_mem hb, h⟩⟩

theorem mem_reachable_iff : b ∈ (Graph.ofPipeline p).reachable a ↔ p.Reaches a b := by
  rw [Graph.mem_reachable, reaches_iff_source]

theorem mem_ancestors_iff : a ∈ (Graph.ofPipeline p).ancestors b ↔ p.Reaches a b := by
  rw [Graph.mem_ancestors, reaches_iff_target]

theorem mem_scope_iff_reaches {isTrigger : String → Bool} :
    x ∈ (Graph.ofPipeline p).scope isTrigger a ↔
      p.Reaches a x ∨ isTrigger x = false ∧ ∃ b, p.Reaches a b ∧ p.Reaches x b := by
  rw [Graph.mem_scope, reaches_iff_source]
  constructor
  · rintro ⟨ha, hpath | ⟨hx, b, hab, hxb⟩⟩
    · exact Or.inl ⟨ha, hpath⟩
    · have hb := hab.target_mem ha
      exact Or.inr ⟨hx, b, reaches_iff_source.mpr ⟨ha, hab⟩, reaches_iff_target.mpr ⟨hb, hxb⟩⟩
  · rintro (⟨ha, hpath⟩ | ⟨hx, b, hab, hxb⟩)
    · exact ⟨ha, Or.inl hpath⟩
    · obtain ⟨ha, hab⟩ := reaches_iff_source.mp hab
      exact ⟨ha, Or.inr ⟨hx, b, hab, (reaches_iff_source.mp hxb).2⟩⟩

/-- What an id reaches is what chains of edges between declared ids lead to, its ancestors are what reaches
it, and its scope is what it reaches together with what reaches some of that, triggers apart.  All three
are sets, and those of an id that is not declared are empty. -/
theorem reachability_exact (p : Pipeline) (isTrigger : String → Bool) (a : String) :
    (∀ b, b ∈ (Graph.ofPipeline p).reachable a ↔
      a ∈ p.nodes.map Node.id ∧ b ∈ p.nodes.map Node.id ∧ ReflTransGen p.Joins a b) ∧
    (∀ b, a ∈ (Graph.ofPipeline p).ancestors b ↔ b ∈ (Graph.ofPipeline p).reachable a) ∧
    (∀ x, x ∈ (Graph.ofPipeline p).scope isTrigger a ↔ x ∈ (Graph.ofPipeline p).reachable a ∨
      isTrigger x = false ∧
        ∃ b ∈ (Graph.ofPipeline p).reachable a, b ∈ (Graph.ofPipeline p).reachable x) ∧
    (a ∉ p.nodes.map Node.id → (Graph.ofPipeline p).reachable a = [] ∧
      (Graph.ofPipeline p).ancestors a = [] ∧ (Graph.ofPipeline p).scope isTrigger a = []) ∧
    ((Graph.ofPipeline p).reachable a).Pairwise (· < ·) ∧
    ((Graph.ofPipeline p).ancestors a).Pairwise (· < ·) ∧
    ((Graph.ofPipeline p).scope isTrigger a).Pairwise (· < ·) := by
  refine ⟨fun b => ?_, fun b => ?_, fun x => ?_, fun ha => ⟨?_, ?_, ?_⟩, Graph.sorted_closure _ _ a,
    Graph.sorted_closure _ _ a, Ids.sorted_ofList _⟩
  · rw [mem_reachable_iff]
    exact ⟨fun h => ⟨h.source, h.target, h.path⟩, fun ⟨ha, hb, hpath⟩ => ⟨ha, hb, hpath⟩⟩
  · rw [mem_ancestors_iff, mem_reachable_iff]
  · simp only [mem_scope_iff_reaches, mem_reachable_iff]
  · exact List.eq_nil_iff_forall_not_mem.mpr fun b hb => ha (mem_reachable_iff.mp hb).source
  · exact List.eq_nil_iff_forall_not_mem.mpr fun b hb => ha (mem_ancestors_iff.mp hb).target
  · refine List.eq_nil_iff_forall_not_mem.mpr fun x hx => ha ?_
    rcases mem_scope_iff_reaches.mp hx with h | ⟨-, b, h, -⟩
    · exact h.source
    · exact h.source

end Pipeline

/-! ## Links -/

/-- Whether an edge leads from one port to another. -/
def Edge.isBetween (source sourcePort target targetPort : String) (e : Edge) : Bool :=
  e.source = source && e.sourcePort = sourcePort && e.target = target && e.targetPort = targetPort

namespace Graph

/-- A link is there once for each edge that is seen as it. -/
theorem count_links (edges : List Edge) (keep : Edge → Bool) (view : Edge → Link) (l : Link) :
    (Link.sort ((edges.filter keep).map view)).count l =
      edges.countP fun e => decide (view e = l) && keep e := by
  rw [(Link.sort_perm _).count_eq, List.count_eq_countP, List.countP_map, List.countP_filter]
  rfl

theorem count_incoming (g : Graph) (a sp b tp : String) :
    (g.incoming b).count ⟨a, tp, sp⟩ = g.edges.countP (·.isBetween a sp b tp) := by
  rw [incoming, count_links]
  refine List.countP_congr fun e _ => ?_
  simp only [Link.mk.injEq, Bool.and_eq_true, decide_eq_true_eq, Edge.isBetween]
  tauto

theorem count_outgoing (g : Graph) (a sp b tp : String) :
    (g.outgoing a).count ⟨b, sp, tp⟩ = g.edges.countP (·.isBetween a sp b tp) := by
  rw [outgoing, count_links]
  refine List.countP_congr fun e _ => ?_
  simp only [Link.mk.injEq, Bool.and_eq_true, decide_eq_true_eq, Edge.isBetween]
  tauto

end Graph

namespace Pipeline

/-- Between declared ids the graph has all edges of the pipeline, and it has no others. -/
theorem countP_edges_ofPipeline (p : Pipeline) (a sp b tp : String) :
    (Graph.ofPipeline p).edges.countP (·.isBetween a sp b tp) =
      if a ∈ p.nodes.map Node.id ∧ b ∈ p.nodes.map Node.id then
        p.edges.countP (·.isBetween a sp b tp) else 0 := by
  have hends : ∀ e : Edge, e.isBetween a sp b tp = true → e.source = a ∧ e.target = b := by
    intro e he
    simp only [Edge.isBetween, Bool.and_eq_true, decide_eq_true_eq] at he
    exact ⟨he.1.1.1, he.1.2⟩
  split
  · rename_i hdeclared
    rw [Graph.ofPipeline, List.countP_filter]
    refine List.countP_congr fun e _ => ?_
    rw [Bool.and_eq_true, and_iff_left_iff_imp]
    intro he
    obtain ⟨rfl, rfl⟩ := hends e he
    exact Edge.isWithin_iff.mpr hdeclared
  · rename_i hdeclared
    refine List.countP_eq_zero.mpr fun e he hbetween => hdeclared ?_
    obtain ⟨rfl, rfl⟩ := hends e hbetween
    exact (Graph.mem_edges_ofPipeline.mp he).2

/-- Every edge of a pipeline is either in its graph or, if one of its ends is not declared, beside it.  For
every edge of the graph there is one link into its target and one out of its source.  The links of an id
are sorted, and do not depend on the order of declaration. -/
theorem links_balanced (p : Pipeline) :
    (∀ e, (Graph.ofPipeline p).edges.count e + (Graph.ofPipeline p).dangling.count e =
      p.edges.count e) ∧
    (∀ e ∈ p.edges, e ∈ (Graph.ofPipeline p).dangling ↔
      ¬ (e.source ∈ p.nodes.map Node.id ∧ e.target ∈ p.nodes.map Node.id)) ∧
    (∀ e ∈ (Graph.ofPipeline p).edges, e ∉ (Graph.ofPipeline p).dangling) ∧
    (Graph.ofPipeline p).dangling.Sublist p.edges ∧
    (∀ a sp b tp,
      ((Graph.ofPipeline p).incoming b).count ⟨a, tp, sp⟩ =
        ((Graph.ofPipeline p).outgoing a).count ⟨b, sp, tp⟩ ∧
      ((Graph.ofPipeline p).incoming b).count ⟨a, tp, sp⟩ =
        if a ∈ p.nodes.map Node.id ∧ b ∈ p.nodes.map Node.id then
          p.edges.countP (·.isBetween a sp b tp) else 0) ∧
    (∀ id, ((Graph.ofPipeline p).incoming id).Pairwise (fun l m => l.key ≤ m.key) ∧
      ((Graph.ofPipeline p).outgoing id).Pairwise fun l m => l.key ≤ m.key) ∧
    ∀ q : Pipeline, p.Rearranges q →
      (Graph.ofPipeline q).incoming = (Graph.ofPipeline p).incoming ∧
      (Graph.ofPipeline q).outgoing = (Graph.ofPipeline p).outgoing := by
  refine ⟨fun e => ?_, fun e he => ?_, fun e he hdangling => ?_, List.filter_sublist,
    fun a sp b tp => ⟨?_, ?_⟩, fun id => ⟨Link.sorted_sort _, Link.sorted_sort _⟩,
    fun q hq => ⟨hq.symm.graph.incoming, hq.symm.graph.outgoing⟩⟩
  · have hperm := List.filter_append_perm (·.isWithin (p.nodes.map Node.id)) p.edges
    rw [← List.count_append]
    exact hperm.count_eq e
  · rw [Graph.mem_dangling_ofPipeline, and_iff_right he]
  · exact (Graph.mem_dangling_ofPipeline.mp hdangling).2 (Graph.mem_edges_ofPipeline.mp he).2
  · rw [Graph.count_incoming, Graph.count_outgoing]
  · rw [Graph.count_incoming, countP_edges_ofPipeline]

end Pipeline

end Flowline

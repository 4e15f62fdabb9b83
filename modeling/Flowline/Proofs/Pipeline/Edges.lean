import Flowline.Proofs.Graph.Paths
import Mathlib.Data.List.Nodup

/-!
# Nodes and edges of a pipeline

The node under an id, and the edges of a pipeline as a relation between ids.
-/

namespace Flowline.Pipeline

variable {p : Pipeline} {id a b : String} {n : Node}

/-- Some edge leads from `a` to `b`. -/
def Adj (p : Pipeline) (a b : String) : Prop := ∃ e ∈ p.edges, e.source = a ∧ e.target = b

theorem node?_eq_some (h : p.node? id = some n) : n ∈ p.nodes ∧ n.id = id :=
  ⟨List.mem_of_find?_eq_some h, by simpa using List.find?_some h⟩

theorem exists_node? (h : id ∈ p.nodes.map Node.id) : ∃ n, p.node? id = some n := by
  obtain ⟨n, hn, rfl⟩ := List.mem_map.mp h
  exact Option.isSome_iff_exists.mp (List.find?_isSome.mpr ⟨n, hn, by simp⟩)

/-- If no id is declared twice, the node under an id is the one of that id. -/
theorem node?_eq_some_iff (h : (p.nodes.map Node.id).Nodup) :
    p.node? id = some n ↔ n ∈ p.nodes ∧ n.id = id := by
  refine ⟨node?_eq_some, ?_⟩
  rintro ⟨hn, rfl⟩
  obtain ⟨m, hm⟩ := exists_node? (List.mem_map_of_mem hn)
  obtain ⟨hmem, hid⟩ := node?_eq_some hm
  rw [hm, List.inj_on_of_nodup_map h hmem hn hid]

/-- If no edge dangles, the graph of a pipeline has the edges of the pipeline. -/
theorem adj_ofPipeline_iff (h : ∀ e ∈ p.edges,
    e.source ∈ p.nodes.map Node.id ∧ e.target ∈ p.nodes.map Node.id) :
    (Graph.ofPipeline p).Adj = p.Adj := by
  funext a b
  refine propext (exists_congr fun e => and_congr_left fun _ => ?_)
  rw [Graph.mem_edges_ofPipeline]
  exact ⟨And.left, fun he => ⟨he, h e he⟩⟩

end Flowline.Pipeline

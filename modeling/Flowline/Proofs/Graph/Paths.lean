import Flowline.Graph.Order
import Flowline.Graph.Reach
import Mathlib.Data.List.Basic
import Mathlib.Logic.Relation
import Mathlib.Tactic.Set

/-!
# Paths

The edges of a graph as a relation between its nodes, and what the lists of successors, predecessors
and links say in its terms.  A path is a chain of edges, possibly empty; a graph is acyclic if no
non-empty path leads from a node to itself.
-/

namespace Flowline

open Relation

namespace Graph

/-- Some edge leads from `a` to `b`. -/
def Adj (g : Graph) (a b : String) : Prop := ∃ e ∈ g.edges, e.source = a ∧ e.target = b

/-- A chain of edges leads from `a` to `b`. -/
def Path (g : Graph) (a b : String) : Prop := ReflTransGen g.Adj a b

/-- No non-empty chain of edges leads from a node to itself. -/
def Acyclic (g : Graph) : Prop := ∀ id, ¬ TransGen g.Adj id id

variable {g : Graph} {p : Pipeline} {a b id : String} {e : Edge}

theorem Adj.source_mem (h : g.Adj a b) : a ∈ g.ids := by
  obtain ⟨e, he, rfl, -⟩ := h
  exact (g.edges_within e he).1

theorem Adj.target_mem (h : g.Adj a b) : b ∈ g.ids := by
  obtain ⟨e, he, -, rfl⟩ := h
  exact (g.edges_within e he).2

theorem Path.refl (g : Graph) (a : String) : g.Path a a := ReflTransGen.refl

theorem Path.target_mem (h : g.Path a b) (ha : a ∈ g.ids) : b ∈ g.ids := by
  rcases ReflTransGen.cases_tail h with rfl | ⟨c, -, hcb⟩
  · exact ha
  · exact hcb.target_mem

theorem Path.source_mem (h : g.Path a b) (hb : b ∈ g.ids) : a ∈ g.ids := by
  rcases ReflTransGen.cases_head h with rfl | ⟨c, hac, -⟩
  · exact hb
  · exact hac.source_mem

/-! ## Neighbours -/

theorem mem_successors : b ∈ g.successors a ↔ g.Adj a b := by
  simp [successors, Adj, and_assoc]

theorem mem_predecessors : a ∈ g.predecessors b ↔ g.Adj a b := by
  simp [predecessors, Adj, and_assoc, and_comm]

theorem mem_incoming {l : Link} :
    l ∈ g.incoming id ↔
      ∃ e ∈ g.edges, e.target = id ∧ l = ⟨e.source, e.targetPort, e.sourcePort⟩ := by
  simp [incoming, and_assoc, eq_comm]

theorem contains_iff : g.contains id ↔ id ∈ g.ids := by simp [contains]

/-! ## The graph of a pipeline -/

@[simp] theorem mem_ids_ofPipeline : id ∈ (ofPipeline p).ids ↔ id ∈ p.nodes.map Node.id := by
  simp only [ofPipeline, mem_distinct]

theorem mem_edges_ofPipeline :
    e ∈ (ofPipeline p).edges ↔
      e ∈ p.edges ∧ e.source ∈ p.nodes.map Node.id ∧ e.target ∈ p.nodes.map Node.id := by
  simp only [ofPipeline, List.mem_filter, Edge.isWithin_iff]

theorem mem_dangling_ofPipeline :
    e ∈ (ofPipeline p).dangling ↔
      e ∈ p.edges ∧ ¬ (e.source ∈ p.nodes.map Node.id ∧ e.target ∈ p.nodes.map Node.id) := by
  simp only [ofPipeline, List.mem_filter, Bool.not_eq_true', ← Bool.not_eq_true, Edge.isWithin_iff]

end Graph

end Flowline

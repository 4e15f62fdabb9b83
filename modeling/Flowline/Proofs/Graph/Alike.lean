import Flowline.Proofs.Graph.Least
import Flowline.Proofs.Graph.Reach
import Mathlib.Data.List.Pairwise
import Mathlib.Data.Prod.Lex
import Mathlib.Data.String.Basic

/-!
# Graphs up to the order of declaration

Two graphs with the same nodes and the same edges, in whatever order, answer every query alike: what is
answered as a list is sorted, and a sorted list is determined by its members.
-/

namespace Flowline

/-! ## Sorted lists -/

/-- Sets with the same members are equal. -/
theorem Ids.eq_of_mem_iff {a b : Ids} (ha : a.Pairwise (· < ·)) (hb : b.Pairwise (· < ·))
    (h : ∀ id, id ∈ a ↔ id ∈ b) : a = b := by
  have hperm : a.Perm b :=
    (List.perm_ext_iff_of_nodup (Ids.nodup_of_sorted ha) (Ids.nodup_of_sorted hb)).mpr h
  exact hperm.eq_of_pairwise (fun _ _ _ _ hab hba => absurd hba (String.lt_asymm hab)) ha hb

namespace Link

variable {a b l : Link} {links links' : List Link}

/-- What links are compared by. -/
def key (l : Link) : String ×ₗ String ×ₗ String := toLex (l.localPort, toLex (l.peer, l.peerPort))

theorem key_injective (h : a.key = b.key) : a = b := by
  obtain ⟨hlocal, hrest⟩ := Prod.mk.inj (toLex_inj.mp h)
  obtain ⟨hpeer, hport⟩ := Prod.mk.inj (toLex_inj.mp hrest)
  cases a
  cases b
  rw [mk.injEq]
  exact ⟨hpeer, hlocal, hport⟩

theorem before_iff : a.before b = true ↔ a.key < b.key := by
  simp [before, key, Prod.Lex.toLex_lt_toLex]

theorem place_perm (l : Link) (links : List Link) : (l.place links).Perm (l :: links) := by
  induction links with
  | nil => exact List.Perm.refl _
  | cons x xs ih =>
    simp only [place]
    split
    · exact (ih.cons x).trans (List.Perm.swap l x xs)
    · exact List.Perm.refl _

theorem sort_perm (links : List Link) : (sort links).Perm links := by
  induction links with
  | nil => exact List.Perm.refl _
  | cons x xs ih => exact (place_perm x _).trans (ih.cons x)

theorem sorted_place (h : links.Pairwise fun a b => a.key ≤ b.key) :
    (l.place links).Pairwise fun a b => a.key ≤ b.key := by
  induction links with
  | nil => exact List.pairwise_singleton _ _
  | cons x xs ih =>
    obtain ⟨hx, hxs⟩ := List.pairwise_cons.mp h
    simp only [place]
    split
    · rename_i hlt
      refine List.pairwise_cons.mpr ⟨fun m hm => ?_, ih hxs⟩
      rcases mem_place.mp hm with rfl | hm
      · exact (before_iff.mp hlt).le
      · exact hx m hm
    · rename_i hnot
      have hle : l.key ≤ x.key := not_lt.mp fun hlt => hnot (before_iff.mpr hlt)
      refine List.pairwise_cons.mpr ⟨fun m hm => ?_, h⟩
      rcases List.mem_cons.mp hm with rfl | hm
      · exact hle
      · exact hle.trans (hx m hm)

theorem sorted_sort (links : List Link) : (sort links).Pairwise fun a b => a.key ≤ b.key := by
  induction links with
  | nil => exact List.Pairwise.nil
  | cons x xs ih => exact sorted_place ih

/-- Links with one local port are compared by what is at their other ends. -/
theorem key_le_iff (h : a.localPort = b.localPort) :
    a.key ≤ b.key ↔ toLex (a.peer, a.peerPort) ≤ toLex (b.peer, b.peerPort) := by
  simp [key, Prod.Lex.toLex_le_toLex, h]

/-- In a sorted list the last link with some local port is the greatest of them. -/
theorem key_le_of_last {pre post : List Link} {port : String}
    (hsorted : (pre ++ l :: post).Pairwise fun a b => a.key ≤ b.key)
    (hlater : ∀ m ∈ post, m.localPort ≠ port) {m : Link} (hm : m ∈ pre ++ l :: post)
    (hport : m.localPort = port) : m.key ≤ l.key := by
  rcases List.mem_append.mp hm with hm | hm
  · exact (List.pairwise_append.mp hsorted).2.2 m hm l List.mem_cons_self
  · rcases List.mem_cons.mp hm with rfl | hm
    · exact le_refl _
    · exact absurd hport (hlater m hm)

/-- Links in whatever order are sorted into one list. -/
theorem sort_eq_of_perm (h : links.Perm links') : sort links = sort links' := by
  have hperm := (sort_perm links).trans (h.trans (sort_perm links').symm)
  exact hperm.eq_of_pairwise (fun _ _ _ _ hab hba => key_injective (le_antisymm hab hba))
    (sorted_sort links) (sorted_sort links')

end Link

/-! ## Queries -/

namespace Graph

/-- The same nodes and the same edges, in whatever order. -/
structure Alike (g h : Graph) : Prop where
  ids : ∀ id, id ∈ g.ids ↔ id ∈ h.ids
  edges : g.edges.Perm h.edges

namespace Alike

variable {g h : Graph}

theorem adj (hgh : g.Alike h) : g.Adj = h.Adj := by
  funext a b
  exact propext (exists_congr fun e => and_congr_left' hgh.edges.mem_iff)

theorem path (hgh : g.Alike h) : g.Path = h.Path := by
  funext a b
  rw [Path, Path, hgh.adj]

theorem incoming (hgh : g.Alike h) : g.incoming = h.incoming := by
  funext id
  exact Link.sort_eq_of_perm ((hgh.edges.filter _).map _)

theorem outgoing (hgh : g.Alike h) : g.outgoing = h.outgoing := by
  funext id
  exact Link.sort_eq_of_perm ((hgh.edges.filter _).map _)

theorem reachable (hgh : g.Alike h) : g.reachable = h.reachable := by
  funext id
  refine Ids.eq_of_mem_iff (sorted_closure g _ id) (sorted_closure h _ id) fun x => ?_
  rw [mem_reachable, mem_reachable, hgh.ids, hgh.path]

/-- What leads to some nodes is the same. -/
theorem feeding (hgh : g.Alike h) :
    g.closureOf g.predecessors = h.closureOf h.predecessors := by
  funext ids
  refine Ids.eq_of_mem_iff (Ids.sorted_ofList _) (Ids.sorted_ofList _) fun x => ?_
  rw [mem_closureOf_predecessors, mem_closureOf_predecessors, hgh.path]

theorem scope (hgh : g.Alike h) (isTrigger : String → Bool) :
    g.scope isTrigger = h.scope isTrigger := by
  funext trigger
  refine Ids.eq_of_mem_iff (Ids.sorted_ofList _) (Ids.sorted_ofList _) fun x => ?_
  rw [mem_scope, mem_scope, hgh.ids, hgh.path]

end Alike

end Graph

/-- The graphs of a pipeline and of a rearranged one are alike. -/
theorem Pipeline.Rearranges.graph {p q : Pipeline} (h : p.Rearranges q) :
    (Graph.ofPipeline p).Alike (Graph.ofPipeline q) where
  ids id := by rw [Graph.mem_ids_ofPipeline, Graph.mem_ids_ofPipeline, h.declared]
  edges := by
    have hwithin : ∀ e : Edge, e.isWithin (p.nodes.map Node.id) = e.isWithin (q.nodes.map Node.id) := by
      intro e
      rw [Bool.eq_iff_iff, Edge.isWithin_iff, Edge.isWithin_iff, h.declared, h.declared]
    simp only [Graph.ofPipeline, hwithin]
    exact h.edges.filter _

end Flowline

import Flowline.Proofs.Graph.Order
import Flowline.Proofs.Pipeline.Edges

/-!
# The least topological order

Among all topological orders of a graph the one that is given is the least, place by place.  While nodes
are taken, what was taken begins every other topological order or is below it: the next node of that
order has lost all its predecessors, so it is ready, and the least ready node is taken.  Hence the order
depends on what is declared, but not on the order of declaration.

Degrees are lowered one edge at a time.  `Sorting.run?` does the same with a subtraction that fails at
zero, and never fails.
-/

namespace Flowline

open Relation

namespace Sorting

variable {g : Graph} {s : Sorting} {id : String} {rest : Ids} {order : List String}

/-! ## The least node first -/

/-- What was taken begins an order, or is below it whatever comes next. -/
def Below (taken order : List String) : Prop :=
  taken <+: order ∨ ∀ rest, taken ++ rest < order

/-- The node that comes next in a topological order is ready. -/
theorem Valid.mem_ready_of_next (hv : Valid g s) (ho : g.IsTopological order) {x : String}
    {l : List String} (heq : order = s.taken ++ x :: l) : x ∈ s.ready := by
  have hnot : x ∉ s.taken := by
    have hnodup := ho.nodup
    rw [heq] at hnodup
    exact fun hx => (List.nodup_append.mp hnodup).2.2 x hx x (by simp) rfl
  have hzero : s.degree x = 0 := by
    rw [hv.degree, List.countP_eq_zero]
    intro y hy
    simpa using ho.before s.taken x l heq y (Graph.mem_predecessors.mp hy)
  exact (hv.ready x).mpr ⟨(ho.mem_iff x).mp (by simp [heq]), hnot, hzero⟩

/-- The node that is taken is not above any that is ready. -/
theorem Valid.eq_or_lt_of_mem_ready (hv : Valid g s) (hready : s.ready = id :: rest) {x : String}
    (hx : x ∈ s.ready) : id = x ∨ id < x := by
  have hsorted := hv.sorted
  rw [hready] at hx hsorted
  rcases List.mem_cons.mp hx with rfl | hx
  · exact Or.inl rfl
  · exact Or.inr ((List.pairwise_cons.mp hsorted).1 x hx)

theorem Valid.below_take (hv : Valid g s) (hready : s.ready = id :: rest)
    (ho : g.IsTopological order) (hbelow : Below s.taken order) :
    Below (s.take g id rest).taken order := by
  rw [take_taken]
  rcases hbelow with ⟨l, hl⟩ | hlt
  · obtain ⟨hid, hnot, -⟩ := (hv.ready id).mp (by simp [hready])
    cases l with
    | nil =>
      -- nothing would be left to be taken
      rw [List.append_nil] at hl
      exact absurd ((ho.mem_iff id).mpr hid) (hl ▸ hnot)
    | cons x l =>
      rcases hv.eq_or_lt_of_mem_ready hready (hv.mem_ready_of_next ho hl.symm) with rfl | hlt
      · exact Or.inl ⟨l, by simpa using hl⟩
      · refine Or.inr fun after => ?_
        rw [← hl, List.append_assoc]
        exact List.append_left_lt (List.Lex.rel hlt)
  · refine Or.inr fun after => ?_
    rw [List.append_assoc]
    exact hlt _

theorem Valid.below_run (hv : Valid g s) (ho : g.IsTopological order)
    (hbelow : Below s.taken order) (fuel : ℕ) : Below (Sorting.run g fuel s).taken order := by
  induction fuel generalizing s with
  | zero => exact hbelow
  | succ fuel ih =>
    simp only [Sorting.run]
    split
    · exact hbelow
    · rename_i id rest hready
      exact ih (hv.take hready) (hv.below_take hready ho hbelow)

/-! ## Lowering degrees -/

/-- Releases a node, if its degree can be lowered. -/
def release? (s : Sorting) (id : String) : Option Sorting :=
  if s.degree id = 0 then none else some (s.release id)

/-- Takes a node, if all degrees can be lowered. -/
def take? (g : Graph) (s : Sorting) (id : String) (rest : Ids) : Option Sorting :=
  (g.successors id).foldlM release? { s with ready := rest, taken := s.taken ++ [id] }

/-- Takes nodes until none is ready, if all degrees can be lowered. -/
def run? (g : Graph) : ℕ → Sorting → Option Sorting
  | 0, s => some s
  | fuel + 1, s =>
    match s.ready with
    | [] => some s
    | id :: rest => (s.take? g id rest).bind (run? g fuel)

/-- Degrees that count all that is released can be lowered. -/
theorem foldlM_release? (ids : List String) (s : Sorting) (h : ∀ x, ids.count x ≤ s.degree x) :
    ids.foldlM release? s = some (ids.foldl release s) := by
  induction ids generalizing s with
  | nil => rfl
  | cons y ys ih =>
    have hy := h y
    rw [List.count_cons_self] at hy
    have hrelease : release? s y = some (s.release y) := if_neg (by omega)
    rw [List.foldlM_cons, hrelease, List.foldl_cons]
    refine ih (s.release y) fun x => ?_
    rw [release_degree]
    split
    · rename_i hxy
      rw [hxy]
      omega
    · rename_i hxy
      have hx := h x
      rwa [List.count_cons_of_ne (Ne.symm hxy)] at hx

/-- The edges of a node that is not taken are all counted. -/
theorem Valid.count_successors_le (hv : Valid g s) (hid : id ∉ s.taken) (x : String) :
    (g.successors id).count x ≤ s.degree x := by
  rw [count_successors, hv.degree, List.count_eq_countP]
  exact List.countP_mono_left fun y _ hy => by simpa [beq_iff_eq.mp hy] using hid

theorem Valid.take?_eq (hv : Valid g s) (hready : s.ready = id :: rest) :
    s.take? g id rest = some (s.take g id rest) := by
  obtain ⟨-, hnot, -⟩ := (hv.ready id).mp (by simp [hready])
  exact foldlM_release? _ _ (hv.count_successors_le hnot)

theorem Valid.run?_eq (hv : Valid g s) (fuel : ℕ) : Sorting.run? g fuel s = some (Sorting.run g fuel s) := by
  induction fuel generalizing s with
  | zero => rfl
  | succ fuel ih =>
    cases hready : s.ready with
    | nil => simp only [run?, Sorting.run, hready]
    | cons id rest =>
      simp only [run?, Sorting.run, hready, hv.take?_eq hready, Option.bind_some]
      exact ih (hv.take hready)

end Sorting

namespace Graph

variable {g h : Graph} {order other : List String}

/-- No topological order is below the one that is given. -/
theorem eq_or_lt_of_order (hg : g.order = .ok order) (ho : g.IsTopological other) :
    order = other ∨ order < other := by
  obtain ⟨rfl, -⟩ := order_eq_ok_iff.mp hg
  have hbelow := (unsorted_valid g).below_run ho (Or.inl List.nil_prefix) g.ids.length
  rcases hbelow with hbegins | hlt
  · have hmem : ∀ id ∈ other, id ∈ g.sorted.taken := fun id hid =>
      ((isTopological_of_order hg).mem_iff id).mpr ((ho.mem_iff id).mp hid)
    exact Or.inl (hbegins.eq_of_length_le (List.subperm_of_subset ho.nodup hmem).length_le)
  · have := hlt []
    rw [List.append_nil] at this
    exact Or.inr this

/-- Graphs with the same nodes and the same neighbours have the same topological orders. -/
theorem IsTopological.congr (hids : ∀ id, id ∈ g.ids ↔ id ∈ h.ids) (hadj : g.Adj = h.Adj)
    (ho : g.IsTopological order) : h.IsTopological order where
  nodup := ho.nodup
  mem_iff id := (ho.mem_iff id).trans (hids id)
  before := hadj ▸ ho.before

/-- The order that is given depends on the nodes and their neighbours alone. -/
theorem order_congr (hids : ∀ id, id ∈ g.ids ↔ id ∈ h.ids) (hadj : g.Adj = h.Adj)
    (hg : g.order = .ok order) : h.order = .ok order := by
  have hacyclic : h.Acyclic := by
    have := exists_order_iff.mp ⟨order, hg⟩
    rwa [Acyclic, hadj] at this
  obtain ⟨order', hh⟩ := exists_order_iff.mpr hacyclic
  have ho := (isTopological_of_order hg).congr hids hadj
  have ho' := (isTopological_of_order hh).congr (fun id => (hids id).symm) hadj.symm
  rcases eq_or_lt_of_order hg ho' with rfl | hlt
  · exact hh
  · rcases eq_or_lt_of_order hh ho with rfl | hgt
    · exact hh
    · exact absurd hgt (List.lt_asymm hlt)

end Graph

namespace Pipeline

variable {p q : Pipeline} {order : List String} {a b : String}

/-- An edge leads from `a` to `b`, both of which are declared. -/
def Joins (p : Pipeline) (a b : String) : Prop :=
  p.Adj a b ∧ a ∈ p.nodes.map Node.id ∧ b ∈ p.nodes.map Node.id

/-- Every declared id once, the source of an edge before its target if both are declared. -/
structure IsOrder (p : Pipeline) (order : List String) : Prop where
  nodup : order.Nodup
  mem_iff : ∀ id, id ∈ order ↔ id ∈ p.nodes.map Node.id
  idxOf_lt : ∀ a b, p.Joins a b → order.idxOf a < order.idxOf b

theorem adj_ofPipeline : (Graph.ofPipeline p).Adj = p.Joins := by
  funext a b
  refine propext ⟨?_, ?_⟩
  · rintro ⟨e, he, rfl, rfl⟩
    obtain ⟨he, hsource, htarget⟩ := Graph.mem_edges_ofPipeline.mp he
    exact ⟨⟨e, he, rfl, rfl⟩, hsource, htarget⟩
  · rintro ⟨⟨e, he, rfl, rfl⟩, hsource, htarget⟩
    exact ⟨e, Graph.mem_edges_ofPipeline.mpr ⟨he, hsource, htarget⟩, rfl, rfl⟩

theorem path_ofPipeline : (Graph.ofPipeline p).Path = ReflTransGen p.Joins := by
  funext a b
  rw [Graph.Path, adj_ofPipeline]

/-- In a list without repetitions, what has a lower place than a member stands before it. -/
theorem idxOf_lt_idxOf_iff {l l' : List String} (h : (l ++ b :: l').Nodup) :
    (l ++ b :: l').idxOf a < (l ++ b :: l').idxOf b ↔ a ∈ l := by
  have hb : b ∉ l := fun hb => (List.nodup_append.mp h).2.2 b hb b (by simp) rfl
  rw [List.idxOf_append_of_notMem hb, List.idxOf_cons_self]
  by_cases ha : a ∈ l
  · rw [List.idxOf_append_of_mem ha]
    exact iff_of_true (List.idxOf_lt_length_of_mem ha) ha
  · rw [List.idxOf_append_of_notMem ha]
    exact iff_of_false (by omega) ha

theorem isTopological_ofPipeline_iff :
    (Graph.ofPipeline p).IsTopological order ↔ p.IsOrder order := by
  constructor
  · intro ho
    refine ⟨ho.nodup, fun id => (ho.mem_iff id).trans Graph.mem_ids_ofPipeline, fun a b hab => ?_⟩
    rw [← adj_ofPipeline] at hab
    obtain ⟨l, l', rfl⟩ := List.append_of_mem ((ho.mem_iff b).mpr hab.target_mem)
    exact (idxOf_lt_idxOf_iff ho.nodup).mpr (ho.before l b l' rfl a hab)
  · intro ho
    refine ⟨ho.nodup, fun id => (ho.mem_iff id).trans Graph.mem_ids_ofPipeline.symm, ?_⟩
    rintro l b l' rfl a hab
    rw [adj_ofPipeline] at hab
    exact (idxOf_lt_idxOf_iff ho.nodup).mp (ho.idxOf_lt a b hab)

/-- The same nodes and the same edges, declared in whatever order. -/
structure Rearranges (p q : Pipeline) : Prop where
  nodes : p.nodes.Perm q.nodes
  edges : p.edges.Perm q.edges

theorem Rearranges.symm (h : p.Rearranges q) : q.Rearranges p := ⟨h.nodes.symm, h.edges.symm⟩

theorem Rearranges.declared (h : p.Rearranges q) (id : String) :
    id ∈ p.nodes.map Node.id ↔ id ∈ q.nodes.map Node.id := (h.nodes.map Node.id).mem_iff

theorem Rearranges.joins (h : p.Rearranges q) : p.Joins = q.Joins := by
  funext a b
  have hadj : p.Adj a b ↔ q.Adj a b := exists_congr fun e => and_congr_left' h.edges.mem_iff
  rw [Joins, Joins, hadj, h.declared, h.declared]

/-- The order of a pipeline's nodes does not depend on the order in which they are declared. -/
theorem Rearranges.order_eq_ok (h : p.Rearranges q) (hp : (Graph.ofPipeline p).order = .ok order) :
    (Graph.ofPipeline q).order = .ok order := by
  refine Graph.order_congr (fun id => ?_) ?_ hp
  · rw [Graph.mem_ids_ofPipeline, Graph.mem_ids_ofPipeline, h.declared]
  · rw [adj_ofPipeline, adj_ofPipeline, h.joins]

/-- Whatever a pipeline declares, its nodes have an order exactly if no chain of edges leads from one to
itself.  The order given is the least, the same in whatever order nodes and edges are declared, and is
found without lowering a degree below zero. -/
theorem order_least (p : Pipeline) :
    ((∃ order, (Graph.ofPipeline p).order = .ok order) ↔ ∀ id, ¬ TransGen p.Joins id id) ∧
    (∀ order, (Graph.ofPipeline p).order = .ok order →
      p.IsOrder order ∧
      (∀ other, p.IsOrder other → order = other ∨ order < other) ∧
      ∀ q : Pipeline, p.Rearranges q → (Graph.ofPipeline q).order = .ok order) ∧
    Sorting.run? (Graph.ofPipeline p) (Graph.ofPipeline p).ids.length (Graph.ofPipeline p).unsorted =
      some (Graph.ofPipeline p).sorted := by
  refine ⟨?_, fun order horder => ⟨?_, fun other hother => ?_, fun q hq => ?_⟩, ?_⟩
  · rw [Graph.exists_order_iff, Graph.Acyclic, adj_ofPipeline]
  · exact isTopological_ofPipeline_iff.mp (Graph.isTopological_of_order horder)
  · exact Graph.eq_or_lt_of_order horder (isTopological_ofPipeline_iff.mpr hother)
  · exact hq.order_eq_ok horder
  · exact (Graph.unsorted_valid _).run?_eq _

end Pipeline

end Flowline

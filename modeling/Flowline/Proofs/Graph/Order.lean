import Flowline.Proofs.Folds
import Flowline.Proofs.Graph.Paths
import Mathlib.Data.Fintype.Basic
import Mathlib.Data.Set.Finite.Basic
import Mathlib.Order.WellFounded

/-!
# Topological order

`Sorting.Valid` is what holds while nodes are taken: the degree of a node counts its predecessors that
are not taken, the ready nodes are those whose degree is zero, and every node was taken after its
predecessors.  From it: an order is given exactly for acyclic graphs, it lists every node once, and the
tail of an edge comes before its head.
-/

namespace Flowline

open Relation

/-- Every node once, and no node before one from which an edge leads to it. -/
structure Graph.IsTopological (g : Graph) (order : List String) : Prop where
  nodup : order.Nodup
  mem_iff : ∀ id, id ∈ order ↔ id ∈ g.ids
  before : ∀ l id l', order = l ++ id :: l' → ∀ a, g.Adj a id → a ∈ l

namespace Sorting

variable {g : Graph} {s : Sorting} {id x : String} {rest : Ids}

/-! ## Releasing nodes -/

theorem release_degree (s : Sorting) (id x : String) :
    (s.release id).degree x = if x = id then s.degree id - 1 else s.degree x := rfl

theorem release_ready (s : Sorting) (id : String) :
    (s.release id).ready = if s.degree id - 1 = 0 then Ids.insert id s.ready else s.ready := rfl

theorem foldl_release_degree (ids : List String) (s : Sorting) (x : String) :
    (ids.foldl release s).degree x = s.degree x - ids.count x := by
  induction ids generalizing s with
  | nil => simp
  | cons y ys ih =>
    rw [List.foldl_cons, ih, release_degree]
    by_cases h : x = y
    · subst h
      rw [if_pos rfl, List.count_cons_self]
      omega
    · rw [if_neg h, List.count_cons_of_ne (Ne.symm h)]

@[simp] theorem foldl_release_taken (ids : List String) (s : Sorting) :
    (ids.foldl release s).taken = s.taken := by
  induction ids generalizing s with
  | nil => rfl
  | cons y ys ih => rw [List.foldl_cons, ih]; rfl

/-- A node becomes ready when all that its degree counts has been released. -/
theorem mem_foldl_release_ready (ids : List String) (s : Sorting) (x : String) :
    x ∈ (ids.foldl release s).ready ↔ x ∈ s.ready ∨ (x ∈ ids ∧ s.degree x ≤ ids.count x) := by
  induction ids generalizing s with
  | nil => simp
  | cons y ys ih =>
    rw [List.foldl_cons, ih, release_degree]
    have hready : x ∈ (s.release y).ready ↔ x ∈ s.ready ∨ (x = y ∧ s.degree y ≤ 1) := by
      rw [release_ready]
      split
      · rename_i h
        have : s.degree y ≤ 1 := by omega
        simp [this, or_comm]
      · rename_i h
        have : ¬ s.degree y ≤ 1 := by omega
        simp [this]
    rw [hready]
    by_cases h : x = y
    · subst h
      rw [if_pos rfl, List.count_cons_self]
      have hcount : x ∉ ys → ys.count x = 0 := List.count_eq_zero.mpr
      by_cases hx : x ∈ ys
      · rw [or_assoc]
        refine or_congr_right ?_
        simp only [hx, true_and, List.mem_cons, or_true]
        omega
      · simp [hx, hcount hx]
    · rw [if_neg h, List.count_cons_of_ne (Ne.symm h)]
      simp [h]

theorem foldl_release_sorted (ids : List String) (s : Sorting) (h : s.ready.Pairwise (· < ·)) :
    (ids.foldl release s).ready.Pairwise (· < ·) := by
  induction ids generalizing s with
  | nil => exact h
  | cons y ys ih =>
    refine ih _ ?_
    rw [release_ready]
    split
    · exact Ids.sorted_insert h
    · exact h

/-! ## Taking a node -/

theorem take_taken : (s.take g id rest).taken = s.taken ++ [id] := by simp [take]

theorem take_degree : (s.take g id rest).degree x = s.degree x - (g.successors id).count x := by
  simp [take, foldl_release_degree]

theorem mem_take_ready :
    x ∈ (s.take g id rest).ready ↔
      x ∈ rest ∨ (g.Adj id x ∧ s.degree x ≤ (g.successors id).count x) := by
  simp [take, mem_foldl_release_ready, Graph.mem_successors]

/-- What holds while nodes are taken. -/
structure Valid (g : Graph) (s : Sorting) : Prop where
  nodup : s.taken.Nodup
  declared : ∀ x ∈ s.taken, x ∈ g.ids
  degree : ∀ x, s.degree x = (g.predecessors x).countP (· ∉ s.taken)
  ready : ∀ x, x ∈ s.ready ↔ x ∈ g.ids ∧ x ∉ s.taken ∧ s.degree x = 0
  sorted : s.ready.Pairwise (· < ·)
  before : ∀ l x l', s.taken = l ++ x :: l' → ∀ y, g.Adj y x → y ∈ l

/-- An edge from `a` to `b` counts among the successors of `a` as it does among the predecessors
of `b`. -/
theorem count_successors (g : Graph) (a b : String) :
    (g.successors a).count b = (g.predecessors b).count a := by
  simp only [Graph.successors, Graph.predecessors, List.count_eq_countP, List.countP_map,
    List.countP_filter]
  refine List.countP_congr fun e _ => ?_
  simp [and_comm]

theorem countP_notMem_concat {ids taken : List String} (h : id ∉ taken) :
    ids.countP (· ∉ taken ++ [id]) = ids.countP (· ∉ taken) - ids.count id := by
  induction ids with
  | nil => rfl
  | cons y ys ih =>
    have hle : ys.count id ≤ ys.countP (· ∉ taken) := by
      rw [List.count_eq_countP]
      exact List.countP_mono_left fun x _ hx => by simpa [beq_iff_eq.mp hx] using h
    by_cases hy : y = id
    · subst hy
      simp only [List.countP_cons, List.count_cons_self, ih]
      simp [h]
    · simp only [List.countP_cons, List.count_cons_of_ne hy, ih]
      by_cases hyt : y ∈ taken
      · simp [hyt]
      · simp only [List.mem_append, List.mem_singleton, hyt, hy, or_self, not_false_eq_true,
          decide_true, if_true]
        omega

/-- A node whose degree is zero has only predecessors that are taken. -/
theorem Valid.mem_of_adj (hv : Valid g s) (hx : s.degree x = 0) (h : g.Adj id x) : id ∈ s.taken := by
  have hzero : (g.predecessors x).countP (· ∉ s.taken) = 0 := (hv.degree x).symm.trans hx
  simpa using List.countP_eq_zero.mp hzero id (Graph.mem_predecessors.mpr h)

/-- A node that is taken has only predecessors that are taken. -/
theorem Valid.taken_of_adj (hv : Valid g s) (hx : x ∈ s.taken) (h : g.Adj id x) : id ∈ s.taken := by
  obtain ⟨l, l', heq⟩ := List.append_of_mem hx
  rw [heq]
  exact List.mem_append_left _ (hv.before l x l' heq id h)

theorem Valid.take (hv : Valid g s) (hready : s.ready = id :: rest) : Valid g (s.take g id rest) := by
  obtain ⟨hid, hnot, hzero⟩ := (hv.ready id).mp (by simp [hready])
  have hrest : id ∉ rest := by
    have := Ids.nodup_of_sorted hv.sorted
    rw [hready] at this
    exact (List.nodup_cons.mp this).1
  have hloop : ¬ g.Adj id id := fun h => hnot (hv.mem_of_adj hzero h)
  refine ⟨?_, ?_, ?_, ?_, ?_, ?_⟩
  · rw [take_taken]
    exact List.nodup_append.mpr ⟨hv.nodup, List.nodup_singleton id,
      fun a ha b hb hab => hnot (by rw [← List.mem_singleton.mp hb, ← hab]; exact ha)⟩
  · intro x hx
    rw [take_taken] at hx
    rcases List.mem_append.mp hx with hx | hx
    · exact hv.declared x hx
    · rwa [List.mem_singleton.mp hx]
  · intro x
    rw [take_taken, take_degree, hv.degree, countP_notMem_concat hnot, count_successors]
  · intro x
    rw [mem_take_ready, take_taken, take_degree]
    constructor
    · rintro (hx | ⟨hadj, hle⟩)
      · obtain ⟨h1, h2, h3⟩ := (hv.ready x).mp (by simp [hready, hx])
        have hne : x ≠ id := by rintro rfl; exact hrest hx
        exact ⟨h1, by simp [h2, hne], by omega⟩
      · have hne : x ≠ id := by rintro rfl; exact hloop hadj
        have hx : x ∉ s.taken := fun hx => hnot (hv.taken_of_adj hx hadj)
        exact ⟨hadj.target_mem, by simp [hx, hne], by omega⟩
    · rintro ⟨h1, h2, h3⟩
      have hx : x ∉ s.taken ∧ x ≠ id := by simpa using h2
      by_cases hadj : g.Adj id x
      · exact Or.inr ⟨hadj, by omega⟩
      · have hcount : (g.successors id).count x = 0 :=
          List.count_eq_zero.mpr fun h => hadj (Graph.mem_successors.mp h)
        have hmem : x ∈ s.ready := (hv.ready x).mpr ⟨h1, hx.1, by omega⟩
        rw [hready] at hmem
        exact Or.inl ((List.mem_cons.mp hmem).resolve_left hx.2)
  · have := hv.sorted
    rw [hready] at this
    exact foldl_release_sorted _ _ (List.pairwise_cons.mp this).2
  · rw [take_taken]
    exact forall_split_concat hv.before fun y => hv.mem_of_adj hzero

theorem Valid.length_le (hv : Valid g s) : s.taken.length ≤ g.ids.length :=
  (List.subperm_of_subset hv.nodup hv.declared).length_le

/-- All nodes are taken when there are as many as declared. -/
theorem Valid.mem_taken (hv : Valid g s) (hlen : s.taken.length = g.ids.length) (hx : x ∈ g.ids) :
    x ∈ s.taken :=
  ((List.subperm_of_subset hv.nodup hv.declared).perm_of_length_le hlen.ge).mem_iff.mpr hx

theorem Valid.run (hv : Valid g s) (fuel : ℕ) : Valid g (run g fuel s) := by
  induction fuel generalizing s with
  | zero => exact hv
  | succ fuel ih =>
    simp only [Sorting.run]
    split
    · exact hv
    · rename_i id rest hready
      exact ih (hv.take hready)

/-- With fuel for the nodes that are left, nodes are taken until none is ready. -/
theorem Valid.run_ready (hv : Valid g s) (fuel : ℕ) (hfuel : s.taken.length + fuel = g.ids.length) :
    (Sorting.run g fuel s).ready = [] := by
  induction fuel generalizing s with
  | zero =>
    refine List.eq_nil_iff_forall_not_mem.mpr fun x hx => ?_
    obtain ⟨hid, hnot, -⟩ := (hv.ready x).mp hx
    exact hnot (hv.mem_taken (by omega) hid)
  | succ fuel ih =>
    simp only [Sorting.run]
    split
    · assumption
    · rename_i id rest hready
      refine ih (hv.take hready) ?_
      rw [take_taken, List.length_append, List.length_singleton]
      omega

end Sorting

namespace Graph

variable {g : Graph} {order : List String} {a b id : String}

theorem unsorted_valid (g : Graph) : Sorting.Valid g g.unsorted where
  nodup := List.nodup_nil
  declared := by simp [unsorted]
  degree := by simp [unsorted, degree]
  ready := by simp [unsorted]
  sorted := Ids.sorted_ofList _
  before := by simp [unsorted]

theorem sorted_valid (g : Graph) : Sorting.Valid g g.sorted := (unsorted_valid g).run _

theorem sorted_ready (g : Graph) : g.sorted.ready = [] :=
  (unsorted_valid g).run_ready _ (by simp [unsorted])

theorem order_eq_ok_iff :
    g.order = .ok order ↔ g.sorted.taken = order ∧ g.sorted.taken.length = g.ids.length := by
  simp only [Graph.order]
  split
  · rename_i h
    simp [h]
  · rename_i h
    simp [h]

/-! ## Acyclic graphs -/

theorem IsTopological.mem_of_transGen (ho : g.IsTopological order) (h : TransGen g.Adj a b) :
    ∀ l l', order = l ++ b :: l' → a ∈ l := by
  induction h with
  | single hadj => exact fun l l' heq => ho.before l _ l' heq _ hadj
  | tail _ hadj ih =>
    intro l l' heq
    obtain ⟨l1, l2, rfl⟩ := List.append_of_mem (ho.before l _ l' heq _ hadj)
    exact List.mem_append_left _ (ih l1 (l2 ++ _ :: l') (by simpa using heq))

/-- What is kept of a topological order keeps the order. -/
theorem IsTopological.mem_of_filter (ho : g.IsTopological order) {keep : String → Bool}
    {l l' : List String} (heq : order.filter keep = l ++ b :: l') (h : g.Adj a b)
    (ha : keep a = true) : a ∈ l := by
  obtain ⟨l1, l2, rfl, rfl, hright⟩ := List.filter_eq_append_iff.mp heq
  obtain ⟨m1, m2, rfl, hdropped, -, -⟩ := List.filter_eq_cons_iff.mp hright
  have hmem : a ∈ l1 ++ m1 := ho.before (l1 ++ m1) b m2 (by simp) a h
  rcases List.mem_append.mp hmem with hmem | hmem
  · exact List.mem_filter.mpr ⟨hmem, ha⟩
  · exact absurd ha (hdropped a hmem)

/-- A graph with a topological order has no cycle. -/
theorem IsTopological.acyclic (ho : g.IsTopological order) : g.Acyclic := by
  intro id h
  obtain ⟨c, hc, -⟩ := TransGen.head'_iff.mp h
  obtain ⟨l, l', heq⟩ := List.append_of_mem ((ho.mem_iff id).mpr hc.source_mem)
  have hmem : id ∈ l := ho.mem_of_transGen h l l' heq
  have hnodup := ho.nodup
  rw [heq] at hnodup
  exact (List.nodup_append.mp hnodup).2.2 id hmem id (by simp) rfl

/-- In an acyclic graph all nodes are taken: one that is not has a predecessor that is not. -/
theorem Acyclic.mem_sorted (hg : g.Acyclic) (hid : id ∈ g.ids) : id ∈ g.sorted.taken := by
  let r : {x // x ∈ g.ids} → {x // x ∈ g.ids} → Prop := fun a b => TransGen g.Adj a b
  have : IsTrans _ r := ⟨fun _ _ _ => TransGen.trans⟩
  have : Std.Irrefl r := ⟨fun a => hg a⟩
  have hwf : WellFounded r := Finite.wellFounded_of_trans_of_irrefl r
  suffices h : ∀ x : {x // x ∈ g.ids}, x.1 ∈ g.sorted.taken from h ⟨id, hid⟩
  intro x
  induction x using hwf.induction with
  | _ x ih =>
    by_contra hx
    have hdegree : g.sorted.degree x ≠ 0 := by
      intro hzero
      have : x.1 ∈ g.sorted.ready := ((sorted_valid g).ready x).mpr ⟨x.2, hx, hzero⟩
      simp [sorted_ready] at this
    rw [(sorted_valid g).degree] at hdegree
    obtain ⟨y, hy, hyt⟩ := List.countP_pos_iff.mp (Nat.pos_of_ne_zero hdegree)
    have hadj : g.Adj y x := mem_predecessors.mp hy
    exact (of_decide_eq_true hyt) (ih ⟨y, hadj.source_mem⟩ (TransGen.single hadj))

theorem isTopological_of_order (h : g.order = .ok order) : g.IsTopological order := by
  obtain ⟨rfl, hlen⟩ := order_eq_ok_iff.mp h
  have hv := sorted_valid g
  exact ⟨hv.nodup, fun id => ⟨hv.declared id, hv.mem_taken hlen⟩, hv.before⟩

/-- An order is given exactly for acyclic graphs. -/
theorem exists_order_iff : (∃ order, g.order = .ok order) ↔ g.Acyclic := by
  constructor
  · rintro ⟨order, h⟩
    exact (isTopological_of_order h).acyclic
  · intro hg
    have hle : g.ids.length ≤ g.sorted.taken.length :=
      (List.subperm_of_subset g.ids_nodup fun _ => hg.mem_sorted).length_le
    exact ⟨_, order_eq_ok_iff.mpr ⟨rfl, le_antisymm (sorted_valid g).length_le hle⟩⟩

end Graph

end Flowline

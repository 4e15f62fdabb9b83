import Flowline.Proofs.Graph.Alike
import Flowline.Proofs.Graph.Components
import Mathlib.Data.List.Dedup

/-!
# Components by merging

Another way to the components of a graph: the nodes are numbered in order of declaration, each is alone at
first, for every edge the sets of its two ends are merged, and the nodes are grouped by the numbers that
stand for their sets.  A `UnionFind` keeps such sets.  Which number stands for a set is left to it, and
depends on the order of the edges; which nodes are in one set does not: it is those that are connected.
-/

namespace Flowline

open Relation

/-- A way to keep sets of the numbers below `n`: in each set one number stands for all. -/
structure UnionFind (n : ℕ) where
  State : Type
  /-- Every number is a set of its own. -/
  alone : State
  union : State → ℕ → ℕ → State
  find : State → ℕ → ℕ
  find_alone : ∀ x < n, ∀ y < n, (find alone x = find alone y ↔ x = y)
  /-- The sets of `a` and `b` become one, and all others stay as they are. -/
  find_union : ∀ s, ∀ a < n, ∀ b < n, ∀ x < n, ∀ y < n,
    (find (union s a b) x = find (union s a b) y ↔
      find s x = find s y ∨ find s x = find s a ∧ find s b = find s y ∨
        find s x = find s b ∧ find s a = find s y)

/-! ## Union by rank -/

/-- For each number the one that stands for its set, and for each of these a rank. -/
structure Ranked where
  root : ℕ → ℕ
  rank : ℕ → ℕ

namespace Ranked

variable {root : ℕ → ℕ} {old new a b x y : ℕ}

/-- Whatever `old` stood for, `new` stands for. -/
def redirect (root : ℕ → ℕ) (old new : ℕ) : ℕ → ℕ := fun x => if root x = old then new else root x

theorem redirect_eq_iff : redirect root old new x = redirect root old new y ↔
    root x = root y ∨ root x = old ∧ new = root y ∨ root x = new ∧ old = root y := by
  unfold redirect
  by_cases hx : root x = old
  · by_cases hy : root y = old
    · simp [hx, hy]
    · rw [if_pos hx, if_neg hy]
      grind
  · by_cases hy : root y = old
    · rw [if_neg hx, if_pos hy]
      grind
    · rw [if_neg hx, if_neg hy]
      grind

/-- Of two sets the one of higher rank keeps the number that stands for it, of two of the same rank the
first, whose rank then grows. -/
def union (s : Ranked) (a b : ℕ) : Ranked :=
  let x := s.root a
  let y := s.root b
  if x = y then s
  else if s.rank x < s.rank y then { s with root := redirect s.root x y }
  else
    { root := redirect s.root y x
      rank := fun z => if z = x ∧ s.rank x = s.rank y then s.rank z + 1 else s.rank z }

theorem root_union (s : Ranked) (a b x y : ℕ) :
    (s.union a b).root x = (s.union a b).root y ↔
      s.root x = s.root y ∨ s.root x = s.root a ∧ s.root b = s.root y ∨
        s.root x = s.root b ∧ s.root a = s.root y := by
  unfold union
  dsimp only
  split_ifs with hroot hrank
  · rw [← hroot, or_self, iff_self_or]
    exact fun ⟨hx, hy⟩ => hx.trans hy
  · exact redirect_eq_iff
  · rw [redirect_eq_iff, or_comm (a := s.root x = s.root b ∧ s.root a = s.root y)]

end Ranked

def UnionFind.byRank (n : ℕ) : UnionFind n where
  State := Ranked
  alone := ⟨id, fun _ => 0⟩
  union := Ranked.union
  find := Ranked.root
  find_alone _ _ _ _ := Iff.rfl
  find_union s a _ b _ x _ y _ := s.root_union a b x y

/-! ## Merging along the edges -/

namespace Graph

variable (g : Graph) (u : UnionFind g.ids.length) {es : List Edge} {a b id : String} {e : Edge} {c : Ids}

/-- The number of a node. -/
def index (id : String) : ℕ := g.ids.idxOf id

/-- The sets after those at the two ends of some edges have been merged. -/
def merged (es : List Edge) : u.State :=
  es.foldl (fun s e => u.union s (g.index e.source) (g.index e.target)) u.alone

/-- What stands for the set of a node after all edges. -/
def representative (id : String) : ℕ := u.find (g.merged u g.edges) (g.index id)

/-- The nodes for which a number stands. -/
def group (r : ℕ) : Ids := Ids.ofList (g.ids.filter fun id => g.representative u id = r)

/-- The group of each number that stands for some node. -/
def groups : List Ids := (g.ids.map (g.representative u)).dedup.map (g.group u)

variable {g u}

theorem index_lt (h : id ∈ g.ids) : g.index id < g.ids.length := List.idxOf_lt_length_of_mem h

theorem merged_concat (es : List Edge) (e : Edge) :
    g.merged u (es ++ [e]) = u.union (g.merged u es) (g.index e.source) (g.index e.target) := by
  rw [merged, List.foldl_concat, ← merged]

/-- Sets are only merged if an edge connects them. -/
theorem connected_of_find (hes : ∀ e ∈ es, e ∈ g.edges) :
    ∀ a ∈ g.ids, ∀ b ∈ g.ids,
      u.find (g.merged u es) (g.index a) = u.find (g.merged u es) (g.index b) → g.Connected a b := by
  induction es using List.reverseRecOn with
  | nil =>
    intro a ha b hb h
    have hab := (u.find_alone _ (index_lt ha) _ (index_lt hb)).mp h
    rw [(List.idxOf_inj ha).mp hab]
    exact EqvGen.refl b
  | append_singleton es e ih =>
    intro a ha b hb h
    have he : e ∈ g.edges := hes e (by simp)
    have hends := g.edges_within e he
    have hconnected := ih fun d hd => hes d (List.mem_append_left _ hd)
    have hedge : g.Connected e.source e.target := EqvGen.rel _ _ ⟨e, he, rfl, rfl⟩
    rw [merged_concat, u.find_union _ _ (index_lt hends.1) _ (index_lt hends.2) _ (index_lt ha) _
      (index_lt hb)] at h
    rcases h with hab | ⟨has, htb⟩ | ⟨hat, hsb⟩
    · exact hconnected a ha b hb hab
    · exact ((hconnected a ha _ hends.1 has).trans hedge).trans (hconnected _ hends.2 b hb htb)
    · exact ((hconnected a ha _ hends.2 hat).trans hedge.symm).trans (hconnected _ hends.1 b hb hsb)

/-- The ends of an edge are in one set once it has been gone through. -/
theorem find_eq_of_mem (hes : ∀ e ∈ es, e ∈ g.edges) (he : e ∈ es) :
    u.find (g.merged u es) (g.index e.source) = u.find (g.merged u es) (g.index e.target) := by
  induction es using List.reverseRecOn with
  | nil => exact absurd he List.not_mem_nil
  | append_singleton es d ih =>
    have hd := g.edges_within d (hes d (by simp))
    have hends := g.edges_within e (hes e he)
    rw [merged_concat, u.find_union _ _ (index_lt hd.1) _ (index_lt hd.2) _ (index_lt hends.1) _
      (index_lt hends.2)]
    rcases List.mem_append.mp he with he | he
    · exact Or.inl (ih (fun x hx => hes x (List.mem_append_left _ hx)) he)
    · rw [List.mem_singleton.mp he]
      exact Or.inr (Or.inl ⟨rfl, rfl⟩)

theorem Connected.representative_eq (h : g.Connected a b) :
    g.representative u a = g.representative u b := by
  induction h with
  | rel a b hab =>
    obtain ⟨e, he, rfl, rfl⟩ := hab
    exact find_eq_of_mem (fun _ hd => hd) he
  | refl => rfl
  | symm _ _ _ ih => exact ih.symm
  | trans _ _ _ _ _ hab hbc => exact hab.trans hbc

/-- One number stands for two nodes exactly if they are connected. -/
theorem representative_eq_iff (ha : a ∈ g.ids) (hb : b ∈ g.ids) :
    g.representative u a = g.representative u b ↔ g.Connected a b :=
  ⟨connected_of_find (fun _ he => he) a ha b hb, Connected.representative_eq⟩

/-- The group of a node is its component. -/
theorem group_representative (h : id ∈ g.ids) : g.group u (g.representative u id) = g.component id := by
  refine Ids.eq_of_mem_iff (Ids.sorted_ofList _) (sorted_closure g _ id) fun x => ?_
  rw [group, Ids.mem_ofList, List.mem_filter, decide_eq_true_eq, mem_component, and_iff_right h]
  constructor
  · rintro ⟨hx, heq⟩
    exact (representative_eq_iff h hx).mp heq.symm
  · intro hconnected
    exact ⟨hconnected.mem_ids h, hconnected.representative_eq.symm⟩

theorem mem_groups : c ∈ g.groups u ↔ ∃ id ∈ g.ids, c = g.component id := by
  simp only [groups, List.mem_map, List.mem_dedup]
  constructor
  · rintro ⟨-, ⟨id, hid, rfl⟩, rfl⟩
    exact ⟨id, hid, group_representative hid⟩
  · rintro ⟨id, hid, rfl⟩
    exact ⟨_, ⟨id, hid, rfl⟩, group_representative hid⟩

/-- Different numbers stand for different nodes. -/
theorem nodup_groups (g : Graph) (u : UnionFind g.ids.length) : (g.groups u).Nodup := by
  refine (List.nodup_dedup _).map_on fun r hr s hs h => ?_
  obtain ⟨id, hid, rfl⟩ := List.mem_map.mp (List.mem_dedup.mp hr)
  have hmem : id ∈ g.group u s := by
    rw [← h, group_representative hid]
    exact self_mem_component hid
  rw [group, Ids.mem_ofList, List.mem_filter] at hmem
  exact of_decide_eq_true hmem.2

end Graph

end Flowline

import Flowline.Proofs.Graph.Paths

/-!
# Reachability is exact

`expand` stops with all that can be reached from where it starts: every round adds a node, so the number
of nodes bounds the rounds.  Hence the queries of a graph are statements about paths.
-/

namespace Flowline

open Relation

section Expand

variable {next : String → List String} {seen frontier nodes : List String} {x y a : String}

/-- One of the values of `next` at `a` is `b`. -/
def Leads (next : String → List String) (a b : String) : Prop := b ∈ next a

theorem mem_of_closed (hclosed : ∀ x ∈ seen, ∀ y ∈ next x, y ∈ seen) (ha : a ∈ seen)
    (h : ReflTransGen (Leads next) a x) : x ∈ seen := by
  induction h with
  | refl => exact ha
  | tail _ hstep ih => exact hclosed _ ih _ hstep

theorem exists_path_iff_mem (hclosed : ∀ x ∈ seen, ∀ y ∈ next x, y ∈ seen) :
    (∃ a ∈ seen, ReflTransGen (Leads next) a x) ↔ x ∈ seen :=
  ⟨fun ⟨_, ha, h⟩ => mem_of_closed hclosed ha h, fun hx => ⟨x, hx, ReflTransGen.refl⟩⟩

/-- The nodes that a round of `expand` adds. -/
theorem mem_fresh :
    y ∈ distinct ((frontier.flatMap next).filter (! seen.contains ·)) ↔
      (∃ x ∈ frontier, y ∈ next x) ∧ y ∉ seen := by
  simp

/-- A round that finds something new leaves fewer nodes to be seen. -/
theorem length_unseen_lt {fresh : List String} (hy : y ∈ fresh) (hseen : y ∉ seen)
    (hnode : y ∈ nodes) :
    (nodes.filter (· ∉ seen ++ fresh)).length < (nodes.filter (· ∉ seen)).length := by
  have hsplit : nodes.filter (· ∉ seen ++ fresh) =
      (nodes.filter (· ∉ seen)).filter (· ∉ fresh) := by
    rw [List.filter_filter]
    refine List.filter_congr fun z _ => ?_
    simp [Bool.and_comm]
  rw [hsplit]
  refine List.length_filter_lt_length_iff_exists.mpr ⟨y, ?_, by simpa using hy⟩
  simpa [hseen] using hnode

/-- A round that finds nothing new has nothing left to see. -/
theorem closed_of_fresh_eq_nil
    (hdone : ∀ x ∈ seen, x ∉ frontier → ∀ y ∈ next x, y ∈ seen)
    (hnone : distinct ((frontier.flatMap next).filter (! seen.contains ·)) = []) :
    ∀ x ∈ seen, ∀ y ∈ next x, y ∈ seen := by
  intro x hx y hy
  by_cases hfrontier : x ∈ frontier
  · by_contra hseen
    have hfresh := mem_fresh.mpr ⟨⟨x, hfrontier, hy⟩, hseen⟩
    rw [hnone] at hfresh
    exact absurd hfresh List.not_mem_nil
  · exact hdone x hx hfrontier y hy

/-- `expand` finds all that a path leads to, if `fuel` rounds can see every node that is not seen. -/
theorem mem_expand (huniv : ∀ x, ∀ y ∈ next x, y ∈ nodes) :
    ∀ (fuel : ℕ) (seen frontier : List String), frontier ⊆ seen →
      (∀ x ∈ seen, x ∉ frontier → ∀ y ∈ next x, y ∈ seen) →
      (nodes.filter (· ∉ seen)).length ≤ fuel →
      (x ∈ expand next fuel seen frontier ↔ ∃ a ∈ seen, ReflTransGen (Leads next) a x) := by
  intro fuel
  induction fuel with
  | zero =>
    intro seen frontier _ _ hfuel
    have hall : ∀ y ∈ nodes, y ∈ seen := by simpa using hfuel
    rw [exists_path_iff_mem fun x _ y hy => hall y (huniv x y hy)]
    rfl
  | succ fuel ih =>
    intro seen frontier hsub hdone hfuel
    simp only [expand]
    set fresh := distinct ((frontier.flatMap next).filter (! seen.contains ·))
    have hmem : ∀ y, y ∈ fresh ↔ (∃ x ∈ frontier, y ∈ next x) ∧ y ∉ seen := fun y => mem_fresh
    split
    · rename_i hempty
      have hnone : fresh = [] := by simpa using hempty
      rw [exists_path_iff_mem (closed_of_fresh_eq_nil hdone hnone)]
    · rename_i hnonempty
      rw [ih (seen ++ fresh) fresh (List.subset_append_right _ _)]
      · constructor
        · rintro ⟨a, ha, hpath⟩
          rcases List.mem_append.mp ha with ha | ha
          · exact ⟨a, ha, hpath⟩
          · obtain ⟨⟨b, hb, hba⟩, -⟩ := (hmem a).mp ha
            exact ⟨b, hsub hb, ReflTransGen.head hba hpath⟩
        · rintro ⟨a, ha, hpath⟩
          exact ⟨a, List.mem_append_left _ ha, hpath⟩
      · -- what follows a node that was seen was seen then, or is fresh now
        intro x hx hxf y hy
        have hxs : x ∈ seen := (List.mem_append.mp hx).resolve_right hxf
        by_cases hys : y ∈ seen
        · exact List.mem_append_left _ hys
        · refine List.mem_append_right _ ((hmem y).mpr ⟨⟨x, ?_, hy⟩, hys⟩)
          by_contra hxfr
          exact hys (hdone x hxs hxfr y hy)
      · obtain ⟨y, hy⟩ := List.exists_mem_of_ne_nil fresh (by simpa using hnonempty)
        obtain ⟨⟨b, -, hby⟩, hys⟩ := (hmem y).mp hy
        have hlt := length_unseen_lt hy hys (huniv b y hby)
        omega

end Expand

namespace Graph

variable {g : Graph} {next : String → List String} {ids : List String} {a b x t : String}

theorem mem_closureOf (hnext : ∀ x, ∀ y ∈ next x, y ∈ g.ids) :
    x ∈ g.closureOf next ids ↔ ∃ a ∈ ids, ReflTransGen (Leads next) a x := by
  rw [closureOf, Ids.mem_ofList]
  exact mem_expand hnext _ ids ids (List.Subset.refl _) (fun x hx hn => absurd hx hn)
    (List.length_filter_le _ _)

theorem mem_closure (hnext : ∀ x, ∀ y ∈ next x, y ∈ g.ids) :
    x ∈ g.closure next a ↔ a ∈ g.ids ∧ ReflTransGen (Leads next) a x := by
  rw [closure]
  split
  · rename_i h
    rw [mem_closureOf hnext]
    simp [contains_iff.mp h]
  · rename_i h
    have ha : a ∉ g.ids := fun ha => h (contains_iff.mpr ha)
    simp [ha]

theorem sorted_closure (g : Graph) (next : String → List String) (id : String) :
    (g.closure next id).Pairwise (· < ·) := by
  rw [closure]
  split
  · exact Ids.sorted_ofList _
  · exact List.Pairwise.nil

theorem leads_successors : Leads g.successors = g.Adj := by
  funext a b
  exact propext mem_successors

theorem leads_predecessors : Leads g.predecessors = Function.swap g.Adj := by
  funext a b
  exact propext mem_predecessors

theorem mem_closureOf_predecessors :
    x ∈ g.closureOf g.predecessors ids ↔ ∃ b ∈ ids, g.Path x b := by
  rw [mem_closureOf fun x y hy => (mem_predecessors.mp hy).source_mem]
  simp only [leads_predecessors, reflTransGen_swap, Path]

/-- What can be reached from a node is what a path leads to. -/
theorem mem_reachable : b ∈ g.reachable a ↔ a ∈ g.ids ∧ g.Path a b := by
  rw [reachable, mem_closure fun x y hy => (mem_successors.mp hy).target_mem, leads_successors]
  rfl

/-- The ancestors of a node are the nodes from which a path leads to it. -/
theorem mem_ancestors : a ∈ g.ancestors b ↔ b ∈ g.ids ∧ g.Path a b := by
  rw [ancestors, mem_closure fun x y hy => (mem_predecessors.mp hy).source_mem, leads_predecessors,
    reflTransGen_swap]
  rfl

/-- A handler evaluates what its trigger reaches and what leads there, other triggers apart. -/
theorem mem_scope {isTrigger : String → Bool} :
    x ∈ g.scope isTrigger t ↔
      t ∈ g.ids ∧ (g.Path t x ∨ isTrigger x = false ∧ ∃ b, g.Path t b ∧ g.Path x b) := by
  simp only [scope, Ids.mem_ofList, mem_distinct, List.mem_append, List.mem_filter,
    mem_closureOf_predecessors, mem_reachable, Bool.not_eq_true']
  constructor
  · rintro (⟨ht, hpath⟩ | ⟨⟨b, ⟨ht, htb⟩, hxb⟩, hx⟩)
    · exact ⟨ht, Or.inl hpath⟩
    · exact ⟨ht, Or.inr ⟨hx, b, htb, hxb⟩⟩
  · rintro ⟨ht, hpath | ⟨hx, b, htb, hxb⟩⟩
    · exact Or.inl ⟨ht, hpath⟩
    · exact Or.inr ⟨⟨b, ⟨ht, htb⟩, hxb⟩, hx⟩

theorem mem_ids_of_mem_scope {isTrigger : String → Bool} (h : x ∈ g.scope isTrigger t) : x ∈ g.ids := by
  obtain ⟨ht, hpath | ⟨-, b, htb, hpath⟩⟩ := mem_scope.mp h
  · exact hpath.target_mem ht
  · exact hpath.source_mem (htb.target_mem ht)

end Graph

end Flowline

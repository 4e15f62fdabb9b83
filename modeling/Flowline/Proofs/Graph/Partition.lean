import Flowline.Proofs.Graph.Merging

/-!
# Components are the classes of connected ids

`Pipeline.IsPartition` says what the components of a pipeline are, without a graph or a way to find them:
the sets of ids that chains of edges join, in the order of their least ids.  A pipeline has one such list
and no other, and its components are it; so they depend on neither the order of declaration nor the
numbers by which a union-find tells sets apart.
-/

namespace Flowline

open Relation

variable {a b x : String} {c d : Ids}

/-- Some id of one set is before all of another, and so is its least. -/
def Ids.Below (c d : Ids) : Prop := ∃ a ∈ c, ∀ b ∈ d, a < b

theorem Ids.Below.ne (h : c.Below d) : c ≠ d := by
  rintro rfl
  obtain ⟨a, ha, hall⟩ := h
  exact String.lt_irrefl a (hall a ha)

theorem Ids.Below.asymm (h : c.Below d) : ¬ d.Below c := by
  rintro ⟨b, hb, hcb⟩
  obtain ⟨a, ha, hda⟩ := h
  exact String.lt_asymm (hda b hb) (hcb a ha)

/-- Sets that are compared member by member are in the order of their least members. -/
theorem Ids.Below.lt (h : c.Below d) (hc : c.Pairwise (· < ·)) (hd : d ≠ []) : c < d := by
  obtain ⟨a, ha, hall⟩ := h
  obtain ⟨y, ys, rfl⟩ := List.exists_cons_of_ne_nil hd
  have hay : a < y := hall y List.mem_cons_self
  cases c with
  | nil => exact absurd ha List.not_mem_nil
  | cons x xs =>
    rcases List.mem_cons.mp ha with rfl | ha
    · exact List.Lex.rel hay
    · exact List.Lex.rel (String.lt_trans ((List.pairwise_cons.mp hc).1 a ha) hay)

/-- No member is in two lists that together have no repetitions. -/
theorem eq_of_nodup_flatten {cs : List Ids} (h : cs.flatten.Nodup) (hc : c ∈ cs) (hd : d ∈ cs)
    (hac : a ∈ c) (had : a ∈ d) : c = d := by
  by_contra hne
  have : Std.Symm (@List.Disjoint String) := ⟨fun _ _ => List.Disjoint.symm⟩
  exact (List.nodup_flatten.mp h).2.forall hc hd hne hac had

namespace Pipeline

variable {p q : Pipeline} {cs ds : List Ids}

/-- Sets of ids: every declared id is in one of them, those of one set are joined by edges taken in either
direction and those of two are not, and the sets are in the order of their least ids. -/
structure IsPartition (p : Pipeline) (cs : List Ids) : Prop where
  nonempty : ∀ c ∈ cs, c ≠ []
  sorted : ∀ c ∈ cs, c.Pairwise (· < ·)
  nodup : cs.flatten.Nodup
  mem_iff : ∀ id, id ∈ cs.flatten ↔ id ∈ p.nodes.map Node.id
  joined_iff : ∀ a ∈ p.nodes.map Node.id, ∀ b ∈ p.nodes.map Node.id,
    ((∃ c ∈ cs, a ∈ c ∧ b ∈ c) ↔ ReflTransGen (SymmGen p.Joins) a b)
  ascending : cs.Pairwise Ids.Below

/-! ## One partition -/

namespace IsPartition

theorem declared (h : p.IsPartition cs) (hc : c ∈ cs) (ha : a ∈ c) : a ∈ p.nodes.map Node.id :=
  (h.mem_iff a).mp (List.mem_flatten.mpr ⟨c, hc, ha⟩)

/-- A set is determined by any of its ids. -/
theorem mem_iff_joined (h : p.IsPartition cs) (hc : c ∈ cs) (ha : a ∈ c) :
    x ∈ c ↔ x ∈ p.nodes.map Node.id ∧ ReflTransGen (SymmGen p.Joins) a x := by
  have hdeclared := h.declared hc ha
  constructor
  · intro hx
    exact ⟨h.declared hc hx, (h.joined_iff a hdeclared x (h.declared hc hx)).mp ⟨c, hc, ha, hx⟩⟩
  · rintro ⟨hx, hpath⟩
    obtain ⟨d, hd, had, hxd⟩ := (h.joined_iff a hdeclared x hx).mpr hpath
    rwa [eq_of_nodup_flatten h.nodup hc hd ha had]

theorem mem_of_mem (hcs : p.IsPartition cs) (hds : p.IsPartition ds) (hc : c ∈ cs) : c ∈ ds := by
  obtain ⟨a, ha⟩ := List.exists_mem_of_ne_nil c (hcs.nonempty c hc)
  obtain ⟨d, hd, had⟩ := List.mem_flatten.mp ((hds.mem_iff a).mpr (hcs.declared hc ha))
  have heq : c = d := Ids.eq_of_mem_iff (hcs.sorted c hc) (hds.sorted d hd) fun x => by
    rw [hcs.mem_iff_joined hc ha, hds.mem_iff_joined hd had]
  rwa [heq]

theorem nodup_sets (h : p.IsPartition cs) : cs.Nodup := h.ascending.imp Ids.Below.ne

/-- No other list is a partition. -/
theorem unique (hcs : p.IsPartition cs) (hds : p.IsPartition ds) : cs = ds := by
  have hperm : cs.Perm ds := (List.perm_ext_iff_of_nodup hcs.nodup_sets hds.nodup_sets).mpr
    fun _ => ⟨hcs.mem_of_mem hds, hds.mem_of_mem hcs⟩
  exact hperm.eq_of_pairwise (fun _ _ _ _ hcd hdc => absurd hdc hcd.asymm) hcs.ascending hds.ascending

theorem of_rearranges (h : p.IsPartition cs) (hpq : p.Rearranges q) : q.IsPartition cs where
  nonempty := h.nonempty
  sorted := h.sorted
  nodup := h.nodup
  mem_iff id := (h.mem_iff id).trans (hpq.declared id)
  joined_iff a ha b hb := by
    rw [← hpq.joins]
    exact h.joined_iff a ((hpq.declared a).mpr ha) b ((hpq.declared b).mpr hb)
  ascending := h.ascending

end IsPartition

end Pipeline

/-! ## The components -/

namespace Graph

variable {g : Graph} {done rest : List String}

/-- While components are found, every one has an id of those gone through, and they are in the order of
their least ids: what is found next has none of the ids before. -/
theorem ascending_foldl (hsorted : (done ++ rest).Pairwise (· < ·))
    (hids : ∀ id, id ∈ done ++ rest ↔ id ∈ g.ids) :
    (∀ c ∈ done.foldl g.addComponent [], ∃ id ∈ done, id ∈ c) ∧
      (done.foldl g.addComponent []).Pairwise Ids.Below := by
  induction done using List.reverseRecOn generalizing rest with
  | nil => exact ⟨by simp, List.Pairwise.nil⟩
  | append_singleton done id ih =>
    rw [List.append_assoc, List.singleton_append] at hsorted hids
    obtain ⟨hroots, hascending⟩ := ih hsorted hids
    have hseparates := separates_foldl fun x hx => (hids x).mp (List.mem_append_left _ hx)
    rw [List.foldl_concat, addComponent]
    split
    · refine ⟨fun c hc => ?_, hascending⟩
      obtain ⟨x, hx, hxc⟩ := hroots c hc
      exact ⟨x, List.mem_append_left _ hx, hxc⟩
    · rename_i hnew
      have hid : id ∈ g.ids := (hids id).mp (by simp)
      refine ⟨fun c hc => ?_, List.pairwise_append.mpr ⟨hascending, List.pairwise_singleton _ _, ?_⟩⟩
      · rcases List.mem_append.mp hc with hc | hc
        · obtain ⟨x, hx, hxc⟩ := hroots c hc
          exact ⟨x, List.mem_append_left _ hx, hxc⟩
        · rw [List.mem_singleton.mp hc]
          exact ⟨id, by simp, self_mem_component hid⟩
      · intro c hc d hd
        obtain ⟨x, hx, hxc⟩ := hroots c hc
        rw [List.mem_singleton.mp hd]
        refine ⟨x, hxc, fun b hb => ?_⟩
        obtain ⟨-, hidb⟩ := mem_component.mp hb
        -- an id before would have been found with its component, and this one in it
        have hb : b ∈ id :: rest := by
          refine (List.mem_append.mp ((hids b).mpr (hidb.mem_ids hid))).resolve_left fun hbdone => hnew ?_
          obtain ⟨e, he, hbe⟩ := hseparates.covers b hbdone
          obtain ⟨root, hroot, rfl⟩ := hseparates.component e he
          have hmem : id ∈ g.component root :=
            mem_component.mpr ⟨hroot, (mem_component.mp hbe).2.trans hidb.symm⟩
          simpa using ⟨_, he, hmem⟩
        exact (List.pairwise_append.mp hsorted).2.2 x hx b hb

theorem ascending_components (g : Graph) : g.components.Pairwise Ids.Below := by
  have hsorted : (Ids.ofList g.ids ++ []).Pairwise (· < ·) := by
    rw [List.append_nil]
    exact Ids.sorted_ofList g.ids
  rw [components_eq]
  exact (ascending_foldl hsorted (by simp)).2

theorem mem_components : c ∈ g.components ↔ ∃ id ∈ g.ids, c = g.component id := by
  refine ⟨(separates_components g).component c, ?_⟩
  rintro ⟨id, hid, rfl⟩
  obtain ⟨d, hd, hidd⟩ := (separates_components g).covers id (Ids.mem_ofList.mpr hid)
  obtain ⟨root, hroot, rfl⟩ := (separates_components g).component d hd
  have hrooted : g.Connected root id := (mem_component.mp hidd).2
  have heq : g.component id = g.component root :=
    Ids.eq_of_mem_iff (sorted_closure g _ id) (sorted_closure g _ root) fun x => by
      rw [mem_component, mem_component, and_iff_right hid, and_iff_right hroot]
      exact ⟨hrooted.trans, hrooted.symm.trans⟩
  rwa [heq]

/-- The groups of a union-find are the components, in some order. -/
theorem components_perm_groups (g : Graph) (u : UnionFind g.ids.length) :
    g.components.Perm (g.groups u) := by
  have hnodup : g.components.Nodup := (ascending_components g).imp Ids.Below.ne
  refine (List.perm_ext_iff_of_nodup hnodup (nodup_groups g u)).mpr fun c => ?_
  rw [mem_components, mem_groups]

end Graph

namespace Pipeline

theorem isPartition_components (p : Pipeline) : p.IsPartition (Graph.ofPipeline p).components where
  nonempty c hc := by
    obtain ⟨id, hid, rfl⟩ := Graph.mem_components.mp hc
    exact List.ne_nil_of_mem (Graph.self_mem_component hid)
  sorted _ := Graph.sorted_of_mem_components
  nodup := Graph.nodup_flatten_components _
  mem_iff id := Graph.mem_flatten_components.trans Graph.mem_ids_ofPipeline
  joined_iff a ha b hb := by
    rw [← adj_ofPipeline, EqvGen.reflTransGen_symmGen]
    constructor
    · rintro ⟨c, hc, hac, hbc⟩
      exact Graph.connected_of_mem_components hc hac hbc
    · intro hab
      have ha' := Graph.mem_ids_ofPipeline.mpr ha
      exact ⟨_, Graph.mem_components.mpr ⟨a, ha', rfl⟩, Graph.self_mem_component ha',
        Graph.mem_component.mpr ⟨ha', hab⟩⟩
  ascending := Graph.ascending_components _

/-- The components of a pipeline are its one partition.  They are the same in whatever order nodes and
edges are declared, and they are what the groups of any union-find are sorted into. -/
theorem components_canonical (p : Pipeline) :
    p.IsPartition (Graph.ofPipeline p).components ∧
    (∀ cs, p.IsPartition cs → cs = (Graph.ofPipeline p).components) ∧
    (∀ q : Pipeline, p.Rearranges q →
      (Graph.ofPipeline q).components = (Graph.ofPipeline p).components) ∧
    ∀ u : UnionFind (Graph.ofPipeline p).ids.length,
      (Graph.ofPipeline p).components.Perm ((Graph.ofPipeline p).groups u) ∧
      ∀ cs : List Ids, cs.Perm ((Graph.ofPipeline p).groups u) → cs.Pairwise (fun c d => ¬ d < c) →
        cs = (Graph.ofPipeline p).components := by
  have hp := isPartition_components p
  refine ⟨hp, fun cs hcs => hcs.unique hp, fun q hq => ?_, fun u => ?_⟩
  · exact (isPartition_components q).unique (hp.of_rearranges hq)
  · have hperm := Graph.components_perm_groups (Graph.ofPipeline p) u
    refine ⟨hperm, fun cs hcs hsorted => (hcs.trans hperm.symm).eq_of_pairwise ?_ hsorted ?_⟩
    · exact fun c d _ _ hcd hdc => List.le_antisymm (List.not_lt.mp hcd) (List.not_lt.mp hdc)
    · refine hp.ascending.imp_of_mem fun {c d} hc hd hcd => ?_
      exact List.lt_asymm (hcd.lt (hp.sorted c hc) (hp.nonempty d hd))

/-- Two pairs of steps, declared from the last id to the first and one of them twice, with an edge that
feeds itself and one that leads nowhere. -/
def scattered : Pipeline where
  id := "scattered"
  name := "Scattered"
  version := 1
  nodes := ["d", "c", "b", "a", "b"].map fun id => ⟨id, .logic, "log", [], .draft, none⟩
  edges := [("b", "d"), ("a", "c"), ("b", "b"), ("b", "d"), ("a", "gone")].map
    fun (source, target) => ⟨none, source, "out", target, "in"⟩

theorem scattered_components :
    (Graph.ofPipeline scattered).groups (.byRank _) = [["b", "d"], ["a", "c"]] ∧
      (Graph.ofPipeline scattered).components = [["a", "c"], ["b", "d"]] := by
  have hgroups : (Graph.ofPipeline scattered).groups (.byRank _) = [["b", "d"], ["a", "c"]] := by
    decide +kernel
  obtain ⟨-, -, -, hmerged⟩ := components_canonical scattered
  obtain ⟨-, hsorted⟩ := hmerged (.byRank _)
  refine ⟨hgroups, (hsorted [["a", "c"], ["b", "d"]] ?_ (by decide)).symm⟩
  rw [hgroups]
  exact List.Perm.swap _ _ _

end Pipeline

end Flowline

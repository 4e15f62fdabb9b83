import Flowline.Proofs.Graph.Reach
import Mathlib.Data.List.Induction
import Mathlib.Data.List.Nodup

/-!
# Components

Two nodes are connected if a chain of edges, each taken in either direction, leads from one to the other.
The components of a graph are the classes of connected nodes: each node is in one of them and in no
other.
-/

namespace Flowline

open Relation

namespace Graph

variable {g : Graph} {ids : List String} {found : List Ids} {a b id : String} {c : Ids}

/-- A chain of edges, each taken in either direction, leads from `a` to `b`. -/
def Connected (g : Graph) (a b : String) : Prop := EqvGen g.Adj a b

theorem Connected.symm (h : g.Connected a b) : g.Connected b a := EqvGen.symm _ _ h

theorem Connected.trans {c : String} (hab : g.Connected a b) (hbc : g.Connected b c) :
    g.Connected a c := EqvGen.trans _ _ _ hab hbc

theorem Connected.mem_ids (h : g.Connected a b) (ha : a ∈ g.ids) : b ∈ g.ids := by
  have hpath : ReflTransGen (SymmGen g.Adj) a b := by
    rw [EqvGen.reflTransGen_symmGen]
    exact h
  rcases ReflTransGen.cases_tail hpath with rfl | ⟨x, -, hx | hx⟩
  · exact ha
  · exact hx.target_mem
  · exact hx.source_mem

/-! ## One component -/

theorem leads_neighbours :
    Leads (fun x => g.successors x ++ g.predecessors x) = SymmGen g.Adj := by
  funext a b
  refine propext ?_
  unfold Leads SymmGen
  rw [List.mem_append, mem_successors, mem_predecessors]

theorem mem_component : b ∈ g.component a ↔ a ∈ g.ids ∧ g.Connected a b := by
  have hnext : ∀ x, ∀ y ∈ g.successors x ++ g.predecessors x, y ∈ g.ids := by
    intro x y hy
    rcases List.mem_append.mp hy with hy | hy
    · exact (mem_successors.mp hy).target_mem
    · exact (mem_predecessors.mp hy).source_mem
  unfold component
  rw [mem_closure hnext, leads_neighbours, EqvGen.reflTransGen_symmGen]
  rfl

theorem self_mem_component (h : id ∈ g.ids) : id ∈ g.component id :=
  mem_component.mpr ⟨h, EqvGen.refl id⟩

/-! ## All components -/

/-- Adds the component of a node, unless the node has been found in another. -/
def addComponent (g : Graph) (found : List Ids) (id : String) : List Ids :=
  if found.any (·.contains id) then found else found ++ [g.component id]

theorem components_eq (g : Graph) : g.components = (Ids.ofList g.ids).foldl g.addComponent [] := rfl

/-- Some components, which are not connected with each other and have all of `ids`. -/
structure Separates (g : Graph) (ids : List String) (found : List Ids) : Prop where
  component : ∀ c ∈ found, ∃ id ∈ g.ids, c = g.component id
  covers : ∀ id ∈ ids, ∃ c ∈ found, id ∈ c
  apart : found.Pairwise fun c d => ∀ a ∈ c, ∀ b ∈ d, ¬ g.Connected a b

theorem Separates.addComponent (h : g.Separates ids found) (hid : id ∈ g.ids) :
    g.Separates (ids ++ [id]) (g.addComponent found id) := by
  unfold Graph.addComponent
  by_cases hfound : ∃ c ∈ found, id ∈ c
  · rw [if_pos (by simpa using hfound)]
    refine ⟨h.component, ?_, h.apart⟩
    intro x hx
    rcases List.mem_append.mp hx with hx | hx
    · exact h.covers x hx
    · rw [List.mem_singleton.mp hx]
      exact hfound
  · rw [if_neg (by simpa using hfound)]
    refine ⟨?_, ?_, ?_⟩
    · intro c hc
      rcases List.mem_append.mp hc with hc | hc
      · exact h.component c hc
      · exact ⟨id, hid, List.mem_singleton.mp hc⟩
    · intro x hx
      rcases List.mem_append.mp hx with hx | hx
      · obtain ⟨c, hc, hxc⟩ := h.covers x hx
        exact ⟨c, List.mem_append_left _ hc, hxc⟩
      · rw [List.mem_singleton.mp hx]
        exact ⟨g.component id, by simp, self_mem_component hid⟩
    · refine List.pairwise_append.mpr ⟨h.apart, List.pairwise_singleton _ _, ?_⟩
      intro c hc d hd a ha b hb hab
      rw [List.mem_singleton.mp hd] at hb
      obtain ⟨root, hroot, rfl⟩ := h.component c hc
      -- a component that is connected with the node would have the node
      have hra : g.Connected root a := (mem_component.mp ha).2
      have hbid : g.Connected b id := (mem_component.mp hb).2.symm
      exact hfound ⟨_, hc, mem_component.mpr ⟨hroot, (hra.trans hab).trans hbid⟩⟩

theorem separates_foldl (hids : ∀ id ∈ ids, id ∈ g.ids) :
    g.Separates ids (ids.foldl g.addComponent []) := by
  induction ids using List.reverseRecOn with
  | nil => exact ⟨by simp, by simp, List.Pairwise.nil⟩
  | append_singleton ids id ih =>
    rw [List.foldl_concat]
    have hids' : ∀ x ∈ ids, x ∈ g.ids := fun x hx => hids x (List.mem_append_left _ hx)
    exact (ih hids').addComponent (hids id (by simp))

theorem separates_components (g : Graph) : g.Separates (Ids.ofList g.ids) g.components := by
  rw [components_eq]
  exact separates_foldl fun id hid => Ids.mem_ofList.mp hid

theorem connected_of_mem_components (h : c ∈ g.components) (ha : a ∈ c) (hb : b ∈ c) :
    g.Connected a b := by
  obtain ⟨id, -, rfl⟩ := (separates_components g).component c h
  have hida : g.Connected id a := (mem_component.mp ha).2
  have hidb : g.Connected id b := (mem_component.mp hb).2
  exact hida.symm.trans hidb

theorem sorted_of_mem_components (h : c ∈ g.components) : c.Pairwise (· < ·) := by
  obtain ⟨id, -, rfl⟩ := (separates_components g).component c h
  exact sorted_closure g _ id

theorem mem_flatten_components : id ∈ g.components.flatten ↔ id ∈ g.ids := by
  rw [List.mem_flatten]
  constructor
  · rintro ⟨c, hc, hid⟩
    obtain ⟨root, hroot, rfl⟩ := (separates_components g).component c hc
    exact (mem_component.mp hid).2.mem_ids hroot
  · intro hid
    exact (separates_components g).covers id (Ids.mem_ofList.mpr hid)

/-- No node is in two components, or twice in one. -/
theorem nodup_flatten_components (g : Graph) : g.components.flatten.Nodup := by
  rw [List.nodup_flatten]
  constructor
  · intro c hc
    exact Ids.nodup_of_sorted (sorted_of_mem_components hc)
  · refine (separates_components g).apart.imp ?_
    intro c d hcd x hxc hxd
    exact hcd x hxc x hxd (EqvGen.refl x)

end Graph

end Flowline

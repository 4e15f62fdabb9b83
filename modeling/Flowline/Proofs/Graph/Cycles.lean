import Flowline.Proofs.Graph.Least
import Mathlib.Data.List.Chain

/-!
# Cycles

When no node is ready any more, every node that remains has a predecessor that remains.  A walk against
the edges from such a node never stops, and as there are only so many nodes it comes to one of them
again.  The nodes that it has gone round are a cycle; they are given from the one declared first on.
-/

namespace Flowline

open Relation

variable {l l' ids : List String} {x : String}

/-! ## Rings -/

/-- Each member of a list is related to the next, and the last one to the first. -/
def Rounds (r : String → String → Prop) (ids : List String) : Prop := (ids ++ ids.take 1).IsChain r

/-- A ring may be entered anywhere. -/
theorem Rounds.rotate {r : String → String → Prop} (h : Rounds r (l ++ l')) : Rounds r (l' ++ l) := by
  cases l with
  | nil => simpa using h
  | cons a l =>
    cases l' with
    | nil => simpa using h
    | cons b l' =>
      -- both rings are the stretch from `a` to `b` and the stretch from `b` to `a`
      have hsplit : (a :: l ++ b :: (l' ++ [a])).IsChain r := by simpa [Rounds] using h
      obtain ⟨hab, hba⟩ := List.isChain_split.mp hsplit
      have hturned : (b :: l' ++ a :: (l ++ [b])).IsChain r :=
        List.isChain_split.mpr ⟨by simpa using hba, by simpa using hab⟩
      simpa [Rounds] using hturned

theorem takeWhile_ne (h : x ∉ l) : (l ++ x :: l').takeWhile (· ≠ x) = l := by
  have hall : ∀ y ∈ l, decide (y ≠ x) = true := by
    intro y hy
    simpa using fun hyx : y = x => h (hyx ▸ hy)
  rw [List.takeWhile_append_of_pos hall, List.takeWhile_cons_of_neg (by simp), List.append_nil]

theorem dropWhile_ne (h : x ∉ l) : (l ++ x :: l').dropWhile (· ≠ x) = x :: l' := by
  have hall : ∀ y ∈ l, decide (y ≠ x) = true := by
    intro y hy
    simpa using fun hyx : y = x => h (hyx ▸ hy)
  rw [List.dropWhile_append_of_pos hall, List.dropWhile_cons_of_neg (by simp)]

namespace Graph

variable {g : Graph} {back : String → Option String} {visited ring : List String}
  {current first : String}

/-! ## Walks -/

/-- The walk from `current` along `back`, after the nodes `visited`, goes on until it comes to a visited
node again, and has then gone round the `ring`.  Nodes are listed latest first. -/
inductive Closes (back : String → Option String) : List String → String → List String → Prop
  | again {visited : List String} {current : String} (h : current ∈ visited) :
      Closes back visited current (visited.takeWhile (· ≠ current) ++ [current])
  | step {visited ring : List String} {current id : String} (h : current ∉ visited)
      (hback : back current = some id) (hrest : Closes back (current :: visited) id ring) :
      Closes back visited current ring

/-- A walk among `ids` that can always go on closes, and with fuel for one step more than there are ids
`loop` follows it to the end. -/
theorem closes_loop {P : String → Prop} (hids : ∀ id, P id → id ∈ ids)
    (hback : ∀ id, P id → ∃ before, back id = some before ∧ P before) (fuel : ℕ)
    (hnodup : visited.Nodup) (hvisited : ∀ id ∈ visited, P id) (hcurrent : P current)
    (hfuel : ids.length < visited.length + fuel) :
    Closes back visited current (loop back fuel visited current) := by
  induction fuel generalizing visited current with
  | zero =>
    -- there are not so many different ids
    have hle := (List.subperm_of_subset hnodup fun id hid => hids id (hvisited id hid)).length_le
    omega
  | succ fuel ih =>
    rw [loop]
    by_cases hagain : current ∈ visited
    · rw [if_pos (by simpa using hagain)]
      exact .again hagain
    · rw [if_neg (by simpa using hagain)]
      obtain ⟨before, hbefore, hP⟩ := hback current hcurrent
      rw [hbefore]
      refine .step hagain hbefore (ih (List.nodup_cons.mpr ⟨hagain, hnodup⟩) ?_ hP ?_)
      · exact List.forall_mem_cons.mpr ⟨hcurrent, hvisited⟩
      · rw [List.length_cons]
        omega

/-- What a walk against the edges has gone round is a ring of different nodes. -/
theorem Closes.rounds (h : Closes back visited current ring)
    (hback : ∀ x y, back x = some y → g.Adj y x) (hnodup : visited.Nodup)
    (hchain : (current :: visited).IsChain g.Adj) :
    ring ≠ [] ∧ ring.Nodup ∧ Rounds g.Adj ring := by
  induction h with
  | @again visited current h =>
    obtain ⟨l, l', rfl, hl⟩ := List.eq_append_cons_of_mem h
    rw [takeWhile_ne hl]
    refine ⟨by simp, ?_, ?_⟩
    · refine hnodup.sublist ?_
      exact (List.Sublist.refl l).append (List.singleton_sublist.mpr List.mem_cons_self)
    · have hring : (current :: l ++ [current]).IsChain g.Adj := (List.isChain_split.mp hchain).1
      exact Rounds.rotate (l := [current]) (by simpa [Rounds] using hring)
  | step h hid _ ih =>
    refine ih (List.nodup_cons.mpr ⟨h, hnodup⟩) ?_
    exact List.isChain_cons_cons.mpr ⟨hback _ _ hid, hchain⟩

/-- The members of a ring are nodes. -/
theorem mem_ids_of_rounds (h : Rounds g.Adj ring) : ∀ id ∈ ring, id ∈ g.ids := by
  intro id hid
  obtain ⟨l, l', rfl⟩ := List.append_of_mem hid
  -- the ring may as well start with this member
  have hring : (id :: l' ++ l ++ [id]).IsChain g.Adj := by simpa [Rounds] using h.rotate
  cases hnext : l' ++ l with
  | nil =>
    rw [List.cons_append, hnext] at hring
    exact (List.isChain_cons_cons.mp hring).1.source_mem
  | cons next rest =>
    rw [List.cons_append, hnext] at hring
    exact (List.isChain_cons_cons.mp hring).1.source_mem

/-! ## What remains -/

/-- Some edge enters a node from one that could not be taken. -/
def remains (g : Graph) (id : String) : Bool := 0 < g.sorted.degree id

theorem remains_iff {id : String} : g.remains id = true ↔ ∃ a ∉ g.sorted.taken, g.Adj a id := by
  unfold remains
  rw [decide_eq_true_eq, (sorted_valid g).degree, List.countP_pos_iff]
  simp [mem_predecessors, and_comm]

theorem remains_of_notMem {id : String} (hid : id ∈ g.ids) (h : id ∉ g.sorted.taken) :
    g.remains id = true := by
  by_contra hnot
  have hzero : g.sorted.degree id = 0 := by simpa [remains] using hnot
  have hready : id ∈ g.sorted.ready := ((sorted_valid g).ready id).mpr ⟨hid, h, hzero⟩
  rw [sorted_ready] at hready
  exact absurd hready List.not_mem_nil

theorem mem_ids_of_remains {id : String} (h : g.remains id = true) : id ∈ g.ids := by
  obtain ⟨a, -, hadj⟩ := remains_iff.mp h
  exact hadj.target_mem

theorem exists_least? (h : ids ≠ []) : ∃ id ∈ ids, least? ids = some id := by
  induction ids with
  | nil => exact absurd rfl h
  | cons id ids ih =>
    rw [least?]
    cases hleast : least? ids with
    | none => exact ⟨id, List.mem_cons_self, rfl⟩
    | some other =>
      have hother : other ∈ ids := by
        cases ids with
        | nil => cases hleast
        | cons y ys =>
          obtain ⟨z, hz, heq⟩ := ih (List.cons_ne_nil y ys)
          rwa [Option.some.inj (hleast.symm.trans heq)]
      dsimp only
      split
      · exact ⟨other, List.mem_cons_of_mem _ hother, rfl⟩
      · exact ⟨id, List.mem_cons_self, rfl⟩

theorem adj_of_leastPredecessor? {p : String → Bool} {a b : String}
    (h : g.leastPredecessor? p b = some a) : g.Adj a b ∧ p a = true := by
  unfold leastPredecessor? at h
  have hne : (g.predecessors b).filter p ≠ [] := by
    intro hnil
    rw [hnil] at h
    cases h
  obtain ⟨x, hx, heq⟩ := exists_least? hne
  obtain rfl := Option.some.inj (h.symm.trans heq)
  obtain ⟨hmem, hp⟩ := List.mem_filter.mp hx
  exact ⟨mem_predecessors.mp hmem, hp⟩

/-- A node that remains has a predecessor that remains. -/
theorem exists_leastPredecessor? {id : String} (h : g.remains id = true) :
    ∃ a, g.leastPredecessor? g.remains id = some a ∧ g.remains a = true := by
  obtain ⟨a, hnot, hadj⟩ := remains_iff.mp h
  have ha : a ∈ (g.predecessors id).filter g.remains :=
    List.mem_filter.mpr ⟨mem_predecessors.mpr hadj, remains_of_notMem hadj.source_mem hnot⟩
  obtain ⟨b, hb, heq⟩ := exists_least? (List.ne_nil_of_mem ha)
  exact ⟨b, heq, (List.mem_filter.mp hb).2⟩

/-- In a graph with a cycle some node remains. -/
theorem exists_remains (h : ¬ g.Acyclic) : ∃ id, g.remains id = true := by
  by_contra hnone
  have htaken : ∀ id ∈ g.ids, id ∈ g.sorted.taken := by
    intro id hid
    by_contra hnot
    exact hnone ⟨id, remains_of_notMem hid hnot⟩
  have hle := (List.subperm_of_subset g.ids_nodup htaken).length_le
  exact h (exists_order_iff.mp
    ⟨_, order_eq_ok_iff.mpr ⟨rfl, le_antisymm (sorted_valid g).length_le hle⟩⟩)

theorem order_eq_error (h : ¬ g.Acyclic) : g.order = .error (g.cycleAmong g.remains) := by
  unfold order
  dsimp only
  split
  · rename_i hlen
    exact absurd (exists_order_iff.mp ⟨_, order_eq_ok_iff.mpr ⟨rfl, hlen⟩⟩) h
  · rfl

/-! ## The first member -/

/-- A ring from its first member on: the two parts before and from that member are exchanged. -/
theorem fromFirst_eq (h : g.ids.find? (ring.contains ·) = some first) :
    ∃ l l', ring = l ++ first :: l' ∧ g.fromFirst ring = first :: l' ++ l := by
  have hfirst : first ∈ ring := by simpa using List.find?_some h
  obtain ⟨l, l', rfl, hl⟩ := List.eq_append_cons_of_mem hfirst
  refine ⟨l, l', rfl, ?_⟩
  unfold fromFirst
  rw [h]
  dsimp only
  rw [dropWhile_ne hl, takeWhile_ne hl]

end Graph

/-- Repetitions do not count when the first member of some sort is looked for. -/
theorem find?_distinct (p : String → Bool) (ids : List String) :
    (distinct ids).find? p = ids.find? p := by
  induction ids with
  | nil => rfl
  | cons id ids ih =>
    rw [distinct, List.find?_cons, List.find?_cons]
    split
    · rfl
    · rename_i hid
      rw [List.find?_filter, ← ih]
      congr 1
      funext y
      by_cases hy : y = id
      · simp [hy, hid]
      · simp [hy]

namespace Pipeline

variable {p : Pipeline}

/-- Different ids with an edge from each to the next and from the last to the first, beginning with the
one that is declared first. -/
structure IsCycle (p : Pipeline) (ids : List String) : Prop where
  nodup : ids.Nodup
  rounds : Rounds p.Joins ids
  first : ∃ first ∈ ids.head?, ∀ id ∈ ids,
    (p.nodes.map Node.id).idxOf first ≤ (p.nodes.map Node.id).idxOf id

theorem idxOf_le_of_find? {q : String → Bool} {declared : List String} {first : String}
    (h : declared.find? q = some first) (hx : q x = true) :
    declared.idxOf first ≤ declared.idxOf x := by
  obtain ⟨hfirst, l, l', rfl, hl⟩ := List.find?_eq_some_iff_append.mp h
  have hnot : ∀ y, q y = true → y ∉ l := fun y hy hmem => by simpa [hy] using hl y hmem
  rw [List.idxOf_append_of_notMem (hnot first hfirst), List.idxOf_append_of_notMem (hnot x hx),
    List.idxOf_cons_self]
  omega

/-- A ring is a cycle once it starts with the member declared first. -/
theorem isCycle_fromFirst (hne : l ≠ []) (hnodup : l.Nodup)
    (hrounds : Rounds (Graph.ofPipeline p).Adj l)
    (hids : ∀ id ∈ l, id ∈ (Graph.ofPipeline p).ids) :
    p.IsCycle ((Graph.ofPipeline p).fromFirst l) := by
  obtain ⟨x, hx⟩ := List.exists_mem_of_ne_nil l hne
  obtain ⟨first, hfind⟩ : ∃ first, (Graph.ofPipeline p).ids.find? (l.contains ·) = some first :=
    Option.isSome_iff_exists.mp (List.find?_isSome.mpr ⟨x, hids x hx, by simpa using hx⟩)
  obtain ⟨before, after, rfl, heq⟩ := Graph.fromFirst_eq hfind
  have hperm : (first :: after ++ before).Perm (before ++ first :: after) := List.perm_append_comm
  rw [heq]
  refine ⟨hperm.nodup_iff.mpr hnodup, ?_, first, rfl, fun id hid => ?_⟩
  · rw [← adj_ofPipeline]
    exact hrounds.rotate
  · have hdeclared := find?_distinct ((before ++ first :: after).contains ·) (p.nodes.map Node.id)
    exact idxOf_le_of_find? (hdeclared.symm.trans hfind) (by simpa using hperm.mem_iff.mp hid)

/-- Of a pipeline some of whose edges go round, the error is a cycle from its first member on.  It is found
by a walk that starts at the first node that remains, always has an edge to go back along, and ends when
it comes to a node again. -/
theorem order_eq_cycle {id : String} (h : TransGen p.Joins id id) :
    ∃ start ring, (Graph.ofPipeline p).ids.find? (Graph.ofPipeline p).remains = some start ∧
      (∀ a, (Graph.ofPipeline p).remains a = true → ∃ b,
        (Graph.ofPipeline p).leastPredecessor? (Graph.ofPipeline p).remains a = some b ∧
          (Graph.ofPipeline p).remains b = true) ∧
      Graph.Closes ((Graph.ofPipeline p).leastPredecessor? (Graph.ofPipeline p).remains) [] start
        ring ∧
      (Graph.ofPipeline p).order = .error ⟨(Graph.ofPipeline p).fromFirst ring⟩ ∧
      p.IsCycle ((Graph.ofPipeline p).fromFirst ring) := by
  set g := Graph.ofPipeline p
  have hcyclic : ¬ g.Acyclic := by
    intro hacyclic
    rw [← adj_ofPipeline] at h
    exact hacyclic id h
  obtain ⟨node, hnode⟩ := Graph.exists_remains hcyclic
  obtain ⟨start, hstart⟩ : ∃ start, g.ids.find? g.remains = some start :=
    Option.isSome_iff_exists.mp
      (List.find?_isSome.mpr ⟨node, Graph.mem_ids_of_remains hnode, hnode⟩)
  have hback : ∀ a, g.remains a = true → ∃ b,
      g.leastPredecessor? g.remains a = some b ∧ g.remains b = true :=
    fun a ha => Graph.exists_leastPredecessor? ha
  have hcloses : Graph.Closes (g.leastPredecessor? g.remains) [] start
      (Graph.loop (g.leastPredecessor? g.remains) (g.ids.length + 1) [] start) :=
    Graph.closes_loop (P := fun id => g.remains id = true) (fun _ => Graph.mem_ids_of_remains) hback
      _ List.nodup_nil (List.forall_mem_nil _) (List.find?_some hstart) (by simp)
  have hadj : ∀ a b, g.leastPredecessor? g.remains a = some b → g.Adj b a :=
    fun a b hab => (Graph.adj_of_leastPredecessor? hab).1
  obtain ⟨hne, hnodup, hrounds⟩ := hcloses.rounds hadj List.nodup_nil (List.isChain_singleton _)
  refine ⟨start, _, hstart, hback, hcloses, ?_, ?_⟩
  · rw [Graph.order_eq_error hcyclic, Graph.cycleAmong, hstart]
  · exact isCycle_fromFirst hne hnodup hrounds (Graph.mem_ids_of_rounds hrounds)

/-- A step that feeds itself behind a ring of three, one of them declared twice; one edge of the ring is
declared twice, and another edge leads nowhere. -/
def tangled : Pipeline where
  id := "tangled"
  name := "Tangled"
  version := 1
  nodes := ["hook", "echo", "b", "a", "c", "b"].map fun id =>
    ⟨id, .logic, "log", [], .draft, none⟩
  edges := [("hook", "c"), ("c", "a"), ("a", "b"), ("a", "b"), ("b", "c"), ("b", "echo"),
    ("echo", "echo"), ("a", "gone")].map fun (source, target) =>
      ⟨none, source, "out", target, "in"⟩

theorem tangled_cycle :
    (Graph.ofPipeline tangled).order = .error ⟨["b", "c", "a"]⟩ ∧
      tangled.IsCycle ["b", "c", "a"] := by
  have hjoins : ∀ e ∈ [("b", "c"), ("c", "a"), ("a", "b")], tangled.Joins e.1 e.2 := by
    unfold Joins Adj
    decide +kernel
  have hround : TransGen tangled.Joins "b" "b" :=
    .head (hjoins ("b", "c") (by simp)) (.head (hjoins ("c", "a") (by simp))
      (.single (hjoins ("a", "b") (by simp))))
  have horder : (Graph.ofPipeline tangled).order = .error ⟨["b", "c", "a"]⟩ := by
    rfl
  obtain ⟨start, ring, -, -, -, heq, hcycle⟩ := order_eq_cycle hround
  have hids := Except.error.inj (heq.symm.trans horder)
  rw [Cycle.mk.inj hids] at hcycle
  exact ⟨horder, hcycle⟩

end Pipeline

end Flowline

import Flowline.Proofs.Compile.Rearranged

/-!
# Repeated ids and dangling edges

The generator takes any pipeline, also one in which ids are declared twice and edges lead from or to
nowhere.  `Pipeline.pruned` leaves out what does not count: later nodes of an id and edges without a
declared node at both ends.  Whatever the generator looks up, it looks up the first node of an id and the
edges between declared ids, so that a pipeline and the pruned one compile alike.
-/

namespace Flowline

open Script

/-! ## Lists in which the first counts -/

theorem distinct_of_nodup {xs : List String} (h : xs.Nodup) : distinct xs = xs := by
  induction xs with
  | nil => rfl
  | cons x xs ih =>
    obtain ⟨hx, hxs⟩ := List.nodup_cons.mp h
    rw [distinct, ih hxs, List.filter_eq_self.mpr]
    intro y hy
    have hne : y ≠ x := ne_of_mem_of_not_mem hy hx
    simpa using hne

/-- The nodes without those of an id that was declared before. -/
def firstOfEach : List Node → List Node
  | [] => []
  | n :: ns => n :: (firstOfEach ns).filter (·.id ≠ n.id)

theorem map_id_firstOfEach (ns : List Node) :
    (firstOfEach ns).map Node.id = distinct (ns.map Node.id) := by
  induction ns with
  | nil => rfl
  | cons n ns ih =>
    have hfilter : ((firstOfEach ns).filter (·.id ≠ n.id)).map Node.id =
        ((firstOfEach ns).map Node.id).filter (· ≠ n.id) := by
      rw [List.filter_map]
      rfl
    rw [firstOfEach, List.map_cons, hfilter, ih, List.map_cons, distinct]

/-- The first node of an id is found among the first nodes of all ids. -/
theorem find?_firstOfEach (ns : List Node) (id : String) :
    (firstOfEach ns).find? (·.id = id) = ns.find? (·.id = id) := by
  induction ns with
  | nil => rfl
  | cons n ns ih =>
    rw [firstOfEach, List.find?_cons, List.find?_cons]
    by_cases hn : n.id = id
    · simp [hn]
    · have hkept : ∀ m : Node, (m.id ≠ n.id ∧ m.id = id) ↔ m.id = id := by
        intro m
        rw [and_iff_right_iff_imp]
        rintro rfl
        exact Ne.symm hn
      simp only [List.find?_filter, decide_eq_true_eq, hkept, ih]

namespace Script

variable {vars : List (String × String)} {id : String}

theorem assignVar_of_isSome (h : (vars.lookup id).isSome) : assignVar vars id = vars := by
  rw [assignVar, if_pos h]

theorem isSome_lookup_assignVar (vars : List (String × String)) (id : String) :
    ((assignVar vars id).lookup id).isSome := by
  rw [assignVar]
  split
  · assumption
  · simp [List.lookup_append]

/-- A variable that is given stays given. -/
theorem isSome_lookup_assignVar_of (h : (vars.lookup id).isSome) (x : String) :
    ((assignVar vars x).lookup id).isSome := by
  rw [assignVar]
  split
  · exact h
  · rw [List.lookup_append, Option.isSome_or, h, Bool.true_or]

/-- An id that has its variable may as well be left out. -/
theorem foldl_assignVar_filter (ids : List String) (h : (vars.lookup id).isSome) :
    (ids.filter (· ≠ id)).foldl assignVar vars = ids.foldl assignVar vars := by
  induction ids generalizing vars with
  | nil => rfl
  | cons x xs ih =>
    by_cases hx : x = id
    · rw [List.filter_cons_of_neg (by simpa using hx), ih h, List.foldl_cons, hx,
        assignVar_of_isSome h]
    · rw [List.filter_cons_of_pos (by simpa using hx), List.foldl_cons, List.foldl_cons,
        ih (isSome_lookup_assignVar_of h x)]

theorem assignVars_distinct (ids : List String) : assignVars (distinct ids) = assignVars ids := by
  suffices h : ∀ vars, (distinct ids).foldl assignVar vars = ids.foldl assignVar vars from h []
  induction ids with
  | nil => exact fun _ => rfl
  | cons x xs ih =>
    intro vars
    rw [distinct, List.foldl_cons, foldl_assignVar_filter _ (isSome_lookup_assignVar vars x), ih,
      List.foldl_cons]

end Script

/-! ## Graphs with the same ids and edges -/

theorem Sorting.take_congr {g h : Graph} (hsuccessors : g.successors = h.successors) :
    take g = take h := by
  funext s id rest
  rw [take, take, hsuccessors]

theorem Sorting.run_congr {g h : Graph} (hsuccessors : g.successors = h.successors) :
    run g = run h := by
  funext fuel
  induction fuel with
  | zero => rfl
  | succ fuel ih =>
    funext s
    rw [run, run, ih, take_congr hsuccessors]

namespace Graph

/-- The order, or the cycle, depends on the ids and the edges of a graph alone. -/
theorem order_eq_of_edges {g h : Graph} (hids : g.ids = h.ids) (hedges : g.edges = h.edges) :
    g.order = h.order := by
  have hsuccessors : g.successors = h.successors := by
    funext id
    rw [successors, successors, hedges]
  have hpredecessors : g.predecessors = h.predecessors := by
    funext id
    rw [predecessors, predecessors, hedges]
  have hdegree : g.degree = h.degree := by
    funext id
    rw [degree, degree, hpredecessors]
  have hunsorted : g.unsorted = h.unsorted := by rw [unsorted, unsorted, hids, hdegree]
  have hsorted : g.sorted = h.sorted := by
    rw [sorted, sorted, hunsorted, hids, Sorting.run_congr hsuccessors]
  have hback : g.leastPredecessor? = h.leastPredecessor? := by
    funext p id
    rw [leastPredecessor?, leastPredecessor?, hpredecessors]
  have hcycle : g.cycleAmong = h.cycleAmong := by
    funext p
    rw [cycleAmong, cycleAmong, hids, hback]
    cases h.ids.find? p with
    | none => rfl
    | some start => dsimp only; rw [fromFirst, fromFirst, hids]
  rw [order, order, hsorted, hids, hcycle]

end Graph

/-! ## Pruned pipelines -/

namespace Pipeline

variable {p q : Pipeline}

/-- The first node of each id, and the edges between declared ids. -/
def pruned (p : Pipeline) : Pipeline :=
  { p with
    nodes := firstOfEach p.nodes
    edges := p.edges.filter (·.isWithin (p.nodes.map Node.id)) }

/-- Two pipelines are read alike: their graphs have the same nodes and edges, an id stands for the same
node and has the same variable. -/
structure ReadAlike (p q : Pipeline) : Prop where
  ids : (Graph.ofPipeline p).ids = (Graph.ofPipeline q).ids
  edges : (Graph.ofPipeline p).edges = (Graph.ofPipeline q).edges
  node? : p.node? = q.node?
  vars : assignVars (p.nodes.map Node.id) = assignVars (q.nodes.map Node.id)

theorem declared_pruned (p : Pipeline) :
    p.pruned.nodes.map Node.id = distinct (p.nodes.map Node.id) :=
  map_id_firstOfEach p.nodes

theorem readAlike_pruned (p : Pipeline) : p.pruned.ReadAlike p where
  ids := by
    have hdistinct : distinct (p.pruned.nodes.map Node.id) = distinct (p.nodes.map Node.id) := by
      rw [declared_pruned, distinct_of_nodup (nodup_distinct _)]
    exact hdistinct
  edges := by
    have hwithin : ∀ e : Edge, e.isWithin (p.pruned.nodes.map Node.id) =
        e.isWithin (p.nodes.map Node.id) := by
      intro e
      rw [Bool.eq_iff_iff, Edge.isWithin_iff, Edge.isWithin_iff, declared_pruned, mem_distinct,
        mem_distinct]
    simp only [Graph.ofPipeline, hwithin]
    rw [pruned, List.filter_filter]
    simp only [Bool.and_self]
  node? := funext fun id => find?_firstOfEach p.nodes id
  vars := by rw [declared_pruned, assignVars_distinct]

namespace ReadAlike

variable (h : p.ReadAlike q)
include h

theorem isTrigger : p.isTrigger = q.isTrigger := by
  funext id
  rw [Pipeline.isTrigger, Pipeline.isTrigger, h.node?]

theorem graph : (Graph.ofPipeline p).Alike (Graph.ofPipeline q) where
  ids id := by rw [h.ids]
  edges := by rw [h.edges]

/-- What is read alike compiles alike, to a script or to an error. -/
theorem workflow (hid : p.id = q.id) (hversion : p.version = q.version) (c : Catalog)
    (r : Resources) : c.workflow r p = c.workflow r q := by
  have horder := Graph.order_eq_of_edges h.ids h.edges
  cases hq : (Graph.ofPipeline q).order with
  | error cycle =>
    rw [Catalog.workflow_eq_of_cycle hq, Catalog.workflow_eq_of_cycle (horder.trans hq)]
  | ok order =>
    obtain ⟨a, hap, hao, hac, har, ha⟩ :=
      Catalog.workflow_of_order (c := c) (r := r) (horder.trans hq)
    obtain ⟨b, hbq, hbo, hbc, hbr, hb⟩ := Catalog.workflow_of_order (c := c) (r := r) hq
    have halike : a.Alike b :=
      { id := by rw [hap, hbq, hid]
        version := by rw [hap, hbq, hversion]
        node? := by rw [hap, hbq, h.node?]
        graph := by
          rw [a.graph_eq, b.graph_eq, hap, hbq]
          exact h.graph
        order := by rw [hao, hbo]
        var := by
          funext id
          rw [Plan.var, Plan.var, Plan.vars, Plan.vars, hap, hbq, h.vars]
        catalog := by rw [hac, hbc]
        resolve := fun _ _ _ => by rw [har, hbr] }
    rw [ha, hb, halike.workflow]

end ReadAlike

end Pipeline

/-- Of a pipeline in which ids are repeated and edges dangle, the first node of each id counts and the
edges between declared ids, in everything that is looked up and hence in the script or the error. -/
theorem Catalog.compile_pruned (c : Catalog) (r : Resources) (p : Pipeline) :
    (p.pruned.nodes.map Node.id).Nodup ∧
      (∀ e ∈ p.pruned.edges, e.isWithin (p.pruned.nodes.map Node.id)) ∧
      p.pruned.ReadAlike p ∧ p.pruned.isTrigger = p.isTrigger ∧
      (Graph.ofPipeline p.pruned).scope p.pruned.isTrigger =
        (Graph.ofPipeline p).scope p.isTrigger ∧
      c.compile r p.pruned = c.compile r p := by
  have h := p.readAlike_pruned
  refine ⟨?_, fun e he => ?_, h, h.isTrigger, ?_, ?_⟩
  · rw [Pipeline.declared_pruned]
    exact nodup_distinct _
  · have hwithin := Edge.isWithin_iff.mp (List.mem_filter.mp he).2
    rw [Edge.isWithin_iff, Pipeline.declared_pruned, mem_distinct, mem_distinct]
    exact hwithin
  · rw [h.isTrigger, h.graph.scope]
  · rw [compile, compile, h.workflow rfl rfl]

end Flowline

import Flowline.Proofs.Graph.Order
import Flowline.Proofs.Pipeline.Edges
import Flowline.Proofs.Text
import Flowline.Validation

/-!
# Well-formed pipelines

`Pipeline.WellFormed` says what a pipeline must be like to be compiled, without mention of diagnostics.
A pipeline passes validation exactly if it is well-formed: each check is silent exactly if its part of
the definition holds, and what a check skips is an error of another.
-/

namespace Flowline

open Relation

/-! ## Well-formed parts -/

/-- There, not `null` and not blank. -/
def Present (v : Option Json) : Prop :=
  ∃ x, v = some x ∧ x ≠ .null ∧ ∀ s, x = .string s → Text.trim s ≠ ""

/-- A value that a field may have: there if it is required, and if it is there, of the right type and
within the constraint. -/
structure FieldSpec.Admits (spec : FieldSpec) (v : Option Json) : Prop where
  present : spec.required = true → Present v
  typed : ∀ x, v = some x → Present v → spec.type.check x = .ok ()
  constrained : ∀ x, v = some x → Present v → ∀ c, spec.constraint = some c → c x = none

/-- A node of a known kind of its category whose declared fields all have values that they may have. -/
def Schemas.Conforms (schemas : Schemas) (n : Node) : Prop :=
  ∃ s, schemas.get? n.kind = some s ∧ s.category = n.category ∧
    ∀ spec ∈ s.fields, spec.Admits (n.config.get? spec.name)

/-- An edge from an output of the one node to an input of the other whose type accepts it. -/
def Schemas.Connects (schemas : Schemas) (source target : Node) (e : Edge) : Prop :=
  ∃ s t a b, schemas.get? source.kind = some s ∧ schemas.get? target.kind = some t ∧
    s.output? e.sourcePort = some a ∧ t.input? e.targetPort = some b ∧ b.type.accepts a.type = true

namespace Pipeline

structure WellFormed (schemas : Schemas) (p : Pipeline) : Prop where
  /-- No id is declared twice. -/
  ids_nodup : (p.nodes.map Node.id).Nodup
  /-- Both ends of every edge are declared. -/
  declared : ∀ e ∈ p.edges, e.source ∈ p.nodes.map Node.id ∧ e.target ∈ p.nodes.map Node.id
  /-- No two edges lead to one port of a node. -/
  sockets_nodup : (p.edges.map fun e => (e.target, e.targetPort)).Nodup
  /-- No chain of edges leads from a node to itself. -/
  acyclic : ∀ id, ¬ TransGen p.Adj id id
  trigger : ∃ n ∈ p.nodes, n.category = .trigger
  /-- No edge leads to a trigger. -/
  source_free : ∀ e ∈ p.edges, ∀ n ∈ p.nodes, n.id = e.target → n.category ≠ .trigger
  conforms : ∀ n ∈ p.nodes, schemas.Conforms n
  connects : ∀ e ∈ p.edges, ∀ m ∈ p.nodes, ∀ n ∈ p.nodes, m.id = e.source → n.id = e.target →
    schemas.Connects m n e

end Pipeline

/-! ## Diagnostics -/

namespace Diagnostic

theorem isCompilable_iff {ds : List Diagnostic} :
    isCompilable ds ↔ ∀ d ∈ ds, d.severity ≠ .error := by
  simp [isCompilable, isError]

@[simp] theorem isCompilable_nil : isCompilable [] = true := rfl

theorem isCompilable_append {ds es : List Diagnostic} :
    isCompilable (ds ++ es) ↔ isCompilable ds ∧ isCompilable es := by
  simp only [isCompilable_iff, List.mem_append, or_imp, forall_and]

theorem isCompilable_flatMap {α : Type} {xs : List α} {f : α → List Diagnostic} :
    isCompilable (xs.flatMap f) ↔ ∀ x ∈ xs, isCompilable (f x) := by
  simp only [isCompilable_iff, List.mem_flatMap]
  exact ⟨fun h x hx d hd => h d ⟨x, hx, hd⟩, fun h d ⟨x, hx, hd⟩ => h x hx d hd⟩

/-- Where only errors are reported, to be compilable is to report nothing. -/
theorem isCompilable_map_iff {α : Type} {xs : List α} {f : α → Diagnostic}
    (h : ∀ x, (f x).severity = .error) : isCompilable (xs.map f) ↔ xs.map f = [] := by
  rw [isCompilable_iff, List.map_eq_nil_iff, List.eq_nil_iff_forall_not_mem]
  simp [h]

end Diagnostic

namespace Validation

variable {p : Pipeline} {g : Graph} {schemas : Schemas}

/-! ## Structure -/

theorem repeats_eq_nil_iff {seen xs : List String} :
    repeats seen xs = [] ↔ xs.Nodup ∧ ∀ x ∈ xs, x ∉ seen := by
  induction xs generalizing seen with
  | nil => simp [repeats]
  | cons x xs ih =>
    simp only [repeats]
    split
    · rename_i h
      have hx : x ∈ seen := by simpa using h
      simp [hx]
    · rename_i h
      have hx : x ∉ seen := by simpa using h
      rw [ih, List.nodup_cons]
      constructor
      · rintro ⟨hnodup, hnot⟩
        exact ⟨⟨fun hmem => hnot x hmem (by simp), hnodup⟩, fun y hy => by
          rcases List.mem_cons.mp hy with rfl | hy
          · exact hx
          · exact fun hys => hnot y hy (by simp [hys])⟩
      · rintro ⟨⟨hxs, hnodup⟩, hnot⟩
        refine ⟨hnodup, fun y hy hmem => ?_⟩
        rcases List.mem_cons.mp hmem with rfl | hys
        · exact hxs hy
        · exact hnot y (by simp [hy]) hys

theorem uniqueIds_eq_nil_iff :
    uniqueIds (Graph.ofPipeline p) = [] ↔ (p.nodes.map Node.id).Nodup := by
  have hdistinct : ∀ xs, distinct xs = [] ↔ xs = [] := fun xs => by
    simp [List.eq_nil_iff_forall_not_mem]
  simp [uniqueIds, Graph.ofPipeline, hdistinct, repeats_eq_nil_iff]

theorem references_eq_nil_iff :
    references (Graph.ofPipeline p) = [] ↔
      ∀ e ∈ p.edges, e.source ∈ p.nodes.map Node.id ∧ e.target ∈ p.nodes.map Node.id := by
  simp only [references, List.flatMap_eq_nil_iff, List.map_eq_nil_iff]
  constructor
  · intro h e he
    by_contra hnot
    have hempty := h e (Graph.mem_dangling_ofPipeline.mpr ⟨he, hnot⟩)
    refine hnot ⟨?_, ?_⟩
    · simpa [Graph.contains] using List.filter_eq_nil_iff.mp hempty ("source", e.source) (by simp)
    · simpa [Graph.contains] using List.filter_eq_nil_iff.mp hempty ("target", e.target) (by simp)
  · intro h e he
    obtain ⟨he, hnot⟩ := Graph.mem_dangling_ofPipeline.mp he
    exact absurd (h e he) hnot

theorem mem_socketInsert {s x : Socket} {xs : List Socket} : x ∈ s.insert xs ↔ x = s ∨ x ∈ xs := by
  induction xs with
  | nil => simp [Socket.insert]
  | cons y ys ih =>
    simp only [Socket.insert]
    split
    · simp
    · split
      · rename_i h
        simp [h]
      · simp [ih, or_left_comm]

theorem mem_sockets {s : Socket} : s ∈ sockets p ↔ ∃ e ∈ p.edges, s = ⟨e.target, e.targetPort⟩ := by
  have hfold : ∀ xs : List Socket, s ∈ xs.foldr Socket.insert [] ↔ s ∈ xs := by
    intro xs
    induction xs with
    | nil => simp
    | cons x xs ih => simp [mem_socketInsert, ih]
  simp [sockets, hfold, eq_comm]

theorem length_feeds (s : Socket) :
    (feeds p s).length = (p.edges.map fun e => (e.target, e.targetPort)).count (s.node, s.port) := by
  rw [feeds, List.length_map, List.count_eq_countP, List.countP_map, List.countP_eq_length_filter]
  refine congrArg List.length (List.filter_congr fun e _ => ?_)
  rw [Bool.eq_iff_iff]
  simp

theorem fanIn_eq_nil_iff :
    fanIn p = [] ↔ (p.edges.map fun e => (e.target, e.targetPort)).Nodup := by
  rw [List.nodup_iff_count_le_one]
  simp only [fanIn, List.map_eq_nil_iff, List.filter_eq_nil_iff, decide_eq_true_eq, not_lt]
  constructor
  · intro h
    rintro ⟨node, port⟩
    by_cases hmem : (node, port) ∈ p.edges.map fun e => (e.target, e.targetPort)
    · obtain ⟨e, he, heq⟩ := List.mem_map.mp hmem
      obtain ⟨rfl, rfl⟩ := Prod.mk.inj heq
      have := h ⟨e.target, e.targetPort⟩ (mem_sockets.mpr ⟨e, he, rfl⟩)
      rwa [length_feeds] at this
    · rw [List.count_eq_zero.mpr hmem]
      omega
  · intro h s _
    rw [length_feeds]
    exact h _

theorem acyclic_eq_nil_iff : acyclic g = [] ↔ g.Acyclic := by
  rw [← Graph.exists_order_iff, acyclic]
  cases g.order with
  | ok order => simp
  | error cycle => simp

/-! ## Triggers -/

theorem isCompilable_unreachable : Diagnostic.isCompilable (unreachable p g) := by
  rw [Diagnostic.isCompilable_iff]
  intro d hd
  simp only [unreachable, List.mem_filterMap] at hd
  obtain ⟨component, -, hd⟩ := hd
  split at hd
  · simp at hd
  · simp only [Option.some.injEq] at hd
    simp [← hd]

theorem isCompilable_effect : Diagnostic.isCompilable (effect schemas p g) := by
  rw [effect]
  split
  · rfl
  · rfl

theorem isCompilable_triggerInputs_iff :
    Diagnostic.isCompilable (triggerInputs p g) ↔
      ∀ n ∈ p.nodes, n.category = .trigger → ∀ a, ¬ g.Adj a n.id := by
  rw [triggerInputs, Diagnostic.isCompilable_map_iff fun _ => rfl]
  simp only [List.map_eq_nil_iff, List.filter_eq_nil_iff, Pipeline.triggers, List.mem_filter,
    Node.isTrigger, decide_eq_true_eq, Bool.not_eq_true', Bool.not_eq_false, List.isEmpty_iff,
    and_imp]
  refine forall₃_congr fun n _ _ => ?_
  rw [List.eq_nil_iff_forall_not_mem]
  constructor
  · rintro h a ⟨e, he, -, htarget⟩
    exact h _ (Graph.mem_incoming.mpr ⟨e, he, htarget, rfl⟩)
  · intro h l hl
    obtain ⟨e, he, htarget, -⟩ := Graph.mem_incoming.mp hl
    exact h e.source ⟨e, he, rfl, htarget⟩

theorem isCompilable_triggerUse_iff :
    Diagnostic.isCompilable (triggerUse schemas p g) ↔
      (∃ n ∈ p.nodes, n.category = .trigger) ∧
        ∀ n ∈ p.nodes, n.category = .trigger → ∀ a, ¬ g.Adj a n.id := by
  have hsome : p.triggers.isEmpty = false ↔ ∃ n ∈ p.nodes, n.category = .trigger := by
    simp [Pipeline.triggers, Node.isTrigger]
  rw [triggerUse, ← hsome]
  cases h : p.triggers.isEmpty with
  | true => simp [Diagnostic.isCompilable_iff]
  | false =>
    simp only [Bool.false_eq_true, if_false, true_and, Diagnostic.isCompilable_append,
      isCompilable_unreachable, isCompilable_effect, and_true, isCompilable_triggerInputs_iff]

/-! ## Nodes -/

theorem isMissing_eq_false_iff {v : Option Json} : isMissing v = false ↔ Present v := by
  rcases v with - | x
  · simp [isMissing, Present]
  · cases x with
    | string s => simp [isMissing, Present, Text.trim_eq_empty_iff]
    | _ => simp [isMissing, Present]

/-- A declared field has no issue exactly if its value is one that it may have. -/
theorem issue?_eq_none_iff {spec : FieldSpec} {v : Option Json} :
    spec.issue? v = none ↔ spec.Admits v := by
  rw [FieldSpec.issue?]
  by_cases hp : Present v
  · rw [isMissing_eq_false_iff.mpr hp]
    have hpresent := hp
    obtain ⟨x, rfl, -⟩ := hp
    simp only [Bool.false_eq_true, if_false, Option.bind_some]
    constructor
    · intro h
      refine ⟨fun _ => hpresent, ?_, ?_⟩
      · intro y hy _
        obtain rfl := Option.some.inj hy
        cases hcheck : spec.type.check x with
        | ok u => rfl
        | error why => simp [hcheck] at h
      · intro y hy _ c hc
        obtain rfl := Option.some.inj hy
        cases hcheck : spec.type.check x with
        | ok u => simpa [hcheck, hc] using h
        | error why => simp [hcheck] at h
    · rintro ⟨-, htyped, hconstrained⟩
      rw [htyped x rfl hpresent]
      cases hc : spec.constraint with
      | none => rfl
      | some c => simp [hconstrained x rfl hpresent c hc]
  · have hmissing : isMissing v = true := by
      rwa [← isMissing_eq_false_iff, Bool.not_eq_false] at hp
    rw [hmissing]
    cases hr : spec.required with
    | true => exact ⟨fun h => by simp at h, fun h => absurd (h.present hr) hp⟩
    | false =>
      exact ⟨fun _ => ⟨fun h => by simp [hr] at h, fun _ _ h => absurd h hp,
        fun _ _ h => absurd h hp⟩, fun _ => rfl⟩

theorem isBlocking_of_issue? {spec : FieldSpec} {v : Option Json} {issue : FieldIssue}
    (h : spec.issue? v = some issue) : issue.isBlocking = true := by
  unfold FieldSpec.issue? at h
  split_ifs at h
  · cases h
    rfl
  · obtain ⟨x, -, hx⟩ := Option.bind_eq_some_iff.mp h
    split at hx
    · cases hx
      rfl
    · obtain ⟨reason, -, rfl⟩ := Option.map_eq_some_iff.mp hx
      rfl

/-- No issue is blocking exactly if every declared field has a value that it may have. -/
theorem any_isBlocking_issues_iff {s : KindSchema} {n : Node} :
    (s.issues n).any FieldIssue.isBlocking = false ↔
      ∀ spec ∈ s.fields, spec.Admits (n.config.get? spec.name) := by
  rw [List.any_eq_false]
  constructor
  · intro h spec hspec
    rw [← issue?_eq_none_iff, Option.eq_none_iff_forall_ne_some]
    intro issue hissue
    have hmem : issue ∈ s.issues n :=
      List.mem_append_left _ (List.mem_filterMap.mpr ⟨spec, hspec, hissue⟩)
    exact h issue hmem (isBlocking_of_issue? hissue)
  · intro h issue hmem
    rcases List.mem_append.mp hmem with hmem | hmem
    · obtain ⟨spec, hspec, hissue⟩ := List.mem_filterMap.mp hmem
      rw [issue?_eq_none_iff.mpr (h spec hspec)] at hissue
      cases hissue
    · obtain ⟨field, -, rfl⟩ := List.mem_map.mp hmem
      exact Bool.false_ne_true

theorem severity_ofIssue_eq_error_iff {n : Node} {issue : FieldIssue} :
    (ofIssue n issue).severity = .error ↔ issue.isBlocking = true := by
  cases issue <;> simp [ofIssue, FieldIssue.isBlocking]

theorem isCompilable_issues_iff {s : KindSchema} {n : Node} :
    Diagnostic.isCompilable ((s.issues n).map (ofIssue n)) ↔
      ∀ spec ∈ s.fields, spec.Admits (n.config.get? spec.name) := by
  rw [← any_isBlocking_issues_iff, Diagnostic.isCompilable_iff, List.forall_mem_map, List.any_eq_false]
  simp only [ne_eq, severity_ofIssue_eq_error_iff]

theorem isCompilable_node_iff {n : Node} :
    Diagnostic.isCompilable (node schemas n) ↔ schemas.Conforms n := by
  rw [node, Schemas.Conforms]
  cases schemas.get? n.kind with
  | none => simp [Diagnostic.isCompilable_iff]
  | some s =>
    simp only [Diagnostic.isCompilable_append, isCompilable_issues_iff, Option.some.injEq,
      exists_eq_left']
    refine and_congr_left fun _ => ?_
    split
    · simp_all
    · simp_all [Diagnostic.isCompilable_iff]

/-! ## Ports -/

theorem isCompilable_edgePorts_iff {source target : Node} {e : Edge}
    (hs : schemas.Conforms source) (ht : schemas.Conforms target) :
    Diagnostic.isCompilable (edgePorts schemas source target e) ↔
      schemas.Connects source target e := by
  obtain ⟨s, hs, -⟩ := hs
  obtain ⟨t, ht, -⟩ := ht
  simp only [edgePorts, Schemas.Connects, hs, ht, Option.map_some, Option.some.injEq,
    exists_and_left, exists_eq_left', Diagnostic.isCompilable_append]
  cases ha : s.output? e.sourcePort with
  | none => simp [Diagnostic.isCompilable_iff, unknownPort]
  | some a =>
    cases hb : t.input? e.targetPort with
    | none => simp [Diagnostic.isCompilable_iff, unknownPort]
    | some b =>
      cases hab : b.type.accepts a.type with
      | true => simp [hab]
      | false => simp [hab, Diagnostic.isCompilable_iff]

end Validation

/-! ## The validator accepts exactly the well-formed pipelines -/

namespace Pipeline

variable {p : Pipeline} {schemas : Schemas} {id : String} {n : Node}

open Validation

/-- Once the earlier checks are silent, edges into triggers apart, every edge has been looked at. -/
theorem isCompilable_ports_iff (hnodup : (p.nodes.map Node.id).Nodup)
    (hfree : ∀ e ∈ p.edges, ∀ n ∈ p.nodes, n.id = e.target → n.category ≠ .trigger)
    (hconforms : ∀ n ∈ p.nodes, schemas.Conforms n) :
    Diagnostic.isCompilable (ports schemas p) ↔
      ∀ e ∈ p.edges, ∀ m ∈ p.nodes, ∀ n ∈ p.nodes, m.id = e.source → n.id = e.target →
        schemas.Connects m n e := by
  rw [ports, Diagnostic.isCompilable_flatMap]
  refine forall₂_congr fun e he => ?_
  constructor
  · intro h m hm n hn hsource htarget
    rw [(node?_eq_some_iff hnodup).mpr ⟨hm, hsource⟩,
      (node?_eq_some_iff hnodup).mpr ⟨hn, htarget⟩] at h
    have hnot : n.isTrigger = false := by simpa [Node.isTrigger] using hfree e he n hn htarget
    simp only [hnot, Bool.false_eq_true, if_false] at h
    exact (isCompilable_edgePorts_iff (hconforms m hm) (hconforms n hn)).mp h
  · intro h
    split
    · rename_i m n hm hn
      obtain ⟨hm, hsource⟩ := (node?_eq_some_iff hnodup).mp hm
      obtain ⟨hn, htarget⟩ := (node?_eq_some_iff hnodup).mp hn
      split
      · rfl
      · exact (isCompilable_edgePorts_iff (hconforms m hm) (hconforms n hn)).mpr
          (h m hm n hn hsource htarget)
    · rfl

theorem isCompilable_validate_of_acyclic (hids : uniqueIds (Graph.ofPipeline p) = [])
    (hrefs : references (Graph.ofPipeline p) = []) (hcycle : acyclic (Graph.ofPipeline p) = []) :
    Diagnostic.isCompilable (p.validate schemas) ↔
      Diagnostic.isCompilable (fanIn p) ∧
      Diagnostic.isCompilable (triggerUse schemas p (Graph.ofPipeline p)) ∧
      (∀ n ∈ p.nodes, schemas.Conforms n) ∧ Diagnostic.isCompilable (ports schemas p) := by
  simp only [validate, hids, hrefs, hcycle, List.isEmpty_nil, Bool.not_true, Bool.false_eq_true,
    if_false, Diagnostic.isCompilable_append, Diagnostic.isCompilable_flatMap,
    isCompilable_node_iff, and_assoc]

/-- A check that ends the validation has reported errors. -/
theorem structure_of_isCompilable (h : Diagnostic.isCompilable (p.validate schemas)) :
    uniqueIds (Graph.ofPipeline p) = [] ∧ references (Graph.ofPipeline p) = [] ∧
      acyclic (Graph.ofPipeline p) = [] := by
  rw [validate] at h
  simp only [Bool.not_eq_true', List.isEmpty_eq_false_iff] at h
  split at h
  · rw [uniqueIds, Diagnostic.isCompilable_map_iff fun _ => rfl] at h
    contradiction
  · rename_i hids
    split at h
    · rename_i hrefs
      refine absurd ?_ hrefs
      rw [references, Diagnostic.isCompilable_flatMap] at h
      rw [references, List.flatMap_eq_nil_iff]
      exact fun e he => (Diagnostic.isCompilable_map_iff fun _ => rfl).mp (h e he)
    · rename_i hrefs
      split at h
      · rename_i hcycle
        obtain ⟨-, h⟩ := Diagnostic.isCompilable_append.mp h
        rw [acyclic] at h hcycle
        split at h
        · simp_all
        · simp [Diagnostic.isCompilable_iff] at h
      · rename_i hcycle
        exact ⟨not_not.mp hids, not_not.mp hrefs, not_not.mp hcycle⟩

theorem wellFormed_of_isCompilable (h : Diagnostic.isCompilable (p.validate schemas)) :
    p.WellFormed schemas := by
  obtain ⟨hids, hrefs, hcycle⟩ := structure_of_isCompilable h
  obtain ⟨hfan, huse, hnodes, hports⟩ :=
    (isCompilable_validate_of_acyclic hids hrefs hcycle).mp h
  have hnodup := uniqueIds_eq_nil_iff.mp hids
  have hdeclared := references_eq_nil_iff.mp hrefs
  obtain ⟨htrigger, hfree⟩ := isCompilable_triggerUse_iff.mp huse
  have hadj := adj_ofPipeline_iff hdeclared
  have hsource : ∀ e ∈ p.edges, ∀ n ∈ p.nodes, n.id = e.target → n.category ≠ .trigger := by
    intro e he n hn htarget hcat
    refine hfree n hn hcat e.source ?_
    rw [hadj]
    exact ⟨e, he, rfl, htarget.symm⟩
  exact {
    ids_nodup := hnodup
    declared := hdeclared
    sockets_nodup := fanIn_eq_nil_iff.mp ((Diagnostic.isCompilable_map_iff fun _ => rfl).mp hfan)
    acyclic := hadj ▸ acyclic_eq_nil_iff.mp hcycle
    trigger := htrigger
    source_free := hsource
    conforms := hnodes
    connects := (isCompilable_ports_iff hnodup hsource hnodes).mp hports }

theorem isCompilable_of_wellFormed (h : p.WellFormed schemas) :
    Diagnostic.isCompilable (p.validate schemas) := by
  have hadj := adj_ofPipeline_iff h.declared
  have hcycle : (Graph.ofPipeline p).Acyclic := fun id => by
    rw [hadj]
    exact h.acyclic id
  refine (isCompilable_validate_of_acyclic (uniqueIds_eq_nil_iff.mpr h.ids_nodup)
    (references_eq_nil_iff.mpr h.declared) (acyclic_eq_nil_iff.mpr hcycle)).mpr ⟨?_, ?_, ?_, ?_⟩
  · rw [fanIn_eq_nil_iff.mpr h.sockets_nodup]
    rfl
  · refine isCompilable_triggerUse_iff.mpr ⟨h.trigger, fun n hn hcat a hedge => ?_⟩
    rw [hadj] at hedge
    obtain ⟨e, he, -, htarget⟩ := hedge
    exact h.source_free e he n hn htarget.symm hcat
  · exact h.conforms
  · exact (isCompilable_ports_iff h.ids_nodup h.source_free h.conforms).mpr h.connects

/-- The validator accepts exactly the well-formed pipelines. -/
theorem isCompilable_validate_iff_wellFormed (schemas : Schemas) (p : Pipeline) :
    Diagnostic.isCompilable (p.validate schemas) = true ↔ p.WellFormed schemas :=
  ⟨wellFormed_of_isCompilable, isCompilable_of_wellFormed⟩

end Pipeline

end Flowline

import Flowline.Proofs.Graph.Components
import Flowline.Proofs.Validation.Structural

/-!
# Nodes that run for no trigger

One warning for each component that has nodes outside the scopes of all triggers lists these nodes, so
that together the warnings list each of them once.
-/

namespace Flowline

namespace Pipeline

variable {p : Pipeline} {a b : String}

/-- A chain of edges, each taken in either direction, leads from `a` to `b`. -/
def Connected (p : Pipeline) (a b : String) : Prop := Relation.EqvGen p.Adj a b

/-- Warnings about the nodes of which `Idle` holds: each lists connected ones in order and is located at
the first, no two are about connected nodes, and each node is listed once. -/
structure ReportsIdle (p : Pipeline) (Idle : String → Prop) (ds : List Diagnostic) : Prop where
  warning : ∀ d ∈ ds, d.severity = .warning
  located : ∀ d ∈ ds, ∃ first rest, d.nodes = first :: rest ∧ d.node = some first
  sorted : ∀ d ∈ ds, d.nodes.Pairwise (· < ·)
  connected : ∀ d ∈ ds, ∀ a ∈ d.nodes, ∀ b ∈ d.nodes, p.Connected a b
  apart : ds.Pairwise fun d e => ∀ a ∈ d.nodes, ∀ b ∈ e.nodes, ¬ p.Connected a b
  nodup : (ds.flatMap Diagnostic.nodes).Nodup
  mem_iff : ∀ id, id ∈ ds.flatMap Diagnostic.nodes ↔ Idle id

end Pipeline

namespace Validation

variable {p : Pipeline} {g : Graph} {schemas : Schemas} {d : Diagnostic} {nodes : List String}
  {id : String}

/-- The warning about some nodes that run for no trigger. -/
def idleWarning? : List String → Option Diagnostic
  | [] => none
  | first :: rest => some
    { severity := .warning, code := .unreachableSubgraph, node := some first
      nodes := first :: rest
      message := toString (rest.length + 1) ++ " node(s) starting at '" ++ first ++
        "' do not run for any trigger" }

theorem idleWarning?_eq_some (h : idleWarning? nodes = some d) :
    d.nodes = nodes ∧ d.severity = .warning ∧ d.code = .unreachableSubgraph ∧
      ∃ first rest, d.nodes = first :: rest ∧ d.node = some first := by
  cases nodes with
  | nil => cases h
  | cons first rest =>
    obtain rfl := Option.some.inj h
    exact ⟨rfl, rfl, rfl, first, rest, rfl, rfl⟩

theorem flatMap_nodes_filterMap (groups : List (List String)) :
    (groups.filterMap idleWarning?).flatMap Diagnostic.nodes = groups.flatten := by
  induction groups with
  | nil => rfl
  | cons nodes groups ih =>
    cases nodes with
    | nil =>
      rw [List.filterMap_cons_none rfl, ih, List.flatten_cons, List.nil_append]
    | cons first rest =>
      obtain ⟨d, hd⟩ : ∃ d, idleWarning? (first :: rest) = some d := ⟨_, rfl⟩
      rw [List.filterMap_cons_some hd, List.flatMap_cons, (idleWarning?_eq_some hd).1, ih,
        List.flatten_cons]

/-- The nodes of a component that run for no trigger. -/
def idle (p : Pipeline) (g : Graph) (component : Ids) : List String :=
  component.filter (! (covered p g).contains ·)

theorem unreachable_eq (p : Pipeline) (g : Graph) :
    unreachable p g = (g.components.map (idle p g)).filterMap idleWarning? := by
  unfold unreachable
  rw [List.filterMap_map]
  refine List.filterMap_congr fun component _ => ?_
  dsimp only [Function.comp_apply]
  unfold idle
  cases component.filter (! (covered p g).contains ·) with
  | nil => rfl
  | cons first rest => rfl

/-- A warning is about the idle nodes of some component. -/
theorem exists_component (h : d ∈ unreachable p g) :
    ∃ component ∈ g.components, idleWarning? (idle p g component) = some d := by
  rw [unreachable_eq] at h
  obtain ⟨nodes, hnodes, hd⟩ := List.mem_filterMap.mp h
  obtain ⟨component, hcomponent, rfl⟩ := List.mem_map.mp hnodes
  exact ⟨component, hcomponent, hd⟩

theorem flatMap_nodes_unreachable (p : Pipeline) (g : Graph) :
    (unreachable p g).flatMap Diagnostic.nodes =
      g.components.flatten.filter (! (covered p g).contains ·) := by
  rw [unreachable_eq, flatMap_nodes_filterMap, List.filter_flatten]
  rfl

theorem mem_covered :
    id ∈ covered p g ↔ ∃ t ∈ p.nodes, t.category = .trigger ∧ id ∈ g.scope p.isTrigger t.id := by
  simp [covered, Pipeline.triggers, Node.isTrigger, and_assoc]

theorem reportsIdle_unreachable (hadj : g.Adj = p.Adj) :
    p.ReportsIdle (fun id => id ∈ g.ids ∧ id ∉ covered p g) (unreachable p g) := by
  have hidle : ∀ component, (idle p g component).Sublist component :=
    fun component => List.filter_sublist
  have hconnected : g.Connected = p.Connected := by
    unfold Graph.Connected Pipeline.Connected
    rw [hadj]
  refine ⟨?_, ?_, ?_, ?_, ?_, ?_, ?_⟩
  · intro d hd
    obtain ⟨component, -, hd⟩ := exists_component hd
    exact (idleWarning?_eq_some hd).2.1
  · intro d hd
    obtain ⟨component, -, hd⟩ := exists_component hd
    exact (idleWarning?_eq_some hd).2.2.2
  · intro d hd
    obtain ⟨component, hcomponent, hd⟩ := exists_component hd
    rw [(idleWarning?_eq_some hd).1]
    exact (Graph.sorted_of_mem_components hcomponent).sublist (hidle component)
  · intro d hd a ha b hb
    obtain ⟨component, hcomponent, hd⟩ := exists_component hd
    rw [(idleWarning?_eq_some hd).1] at ha hb
    rw [← hconnected]
    exact Graph.connected_of_mem_components hcomponent ((hidle component).mem ha)
      ((hidle component).mem hb)
  · rw [unreachable_eq, List.filterMap_map]
    refine (Graph.separates_components g).apart.filterMap _ ?_
    intro component other hapart d hd e he a ha b hb
    rw [(idleWarning?_eq_some hd).1] at ha
    rw [(idleWarning?_eq_some he).1] at hb
    rw [← hconnected]
    exact hapart a ((hidle component).mem ha) b ((hidle other).mem hb)
  · rw [flatMap_nodes_unreachable]
    exact (Graph.nodup_flatten_components g).filter _
  · intro id
    rw [flatMap_nodes_unreachable, List.mem_filter, Graph.mem_flatten_components]
    simp

/-! ## The warnings among all diagnostics -/

theorem triggerInputs_eq_nil (h : p.WellFormed schemas) :
    triggerInputs p (Graph.ofPipeline p) = [] := by
  have hsilent : Diagnostic.isCompilable (triggerInputs p (Graph.ofPipeline p)) := by
    rw [isCompilable_triggerInputs_iff]
    intro n hn hcat a hadj
    rw [Pipeline.adj_ofPipeline_iff h.declared] at hadj
    obtain ⟨e, he, -, htarget⟩ := hadj
    exact h.source_free e he n hn htarget.symm hcat
  exact (Diagnostic.isCompilable_map_iff fun _ => rfl).mp hsilent

/-- Of a valid pipeline only warnings are left. -/
theorem validate_of_wellFormed (h : p.WellFormed schemas) :
    p.validate schemas =
      unreachable p (Graph.ofPipeline p) ++ effect schemas p (Graph.ofPipeline p) ++
        p.nodes.flatMap (Validation.node schemas) ++ ports schemas p := by
  have hacyclic : acyclic (Graph.ofPipeline p) = [] := by
    rw [acyclic_eq_nil_iff]
    unfold Graph.Acyclic
    rw [Pipeline.adj_ofPipeline_iff h.declared]
    exact h.acyclic
  have htriggers : p.triggers.isEmpty = false := by
    obtain ⟨n, hn, hcat⟩ := h.trigger
    rw [List.isEmpty_eq_false_iff]
    exact List.ne_nil_of_mem (List.mem_filter.mpr ⟨hn, by simpa [Node.isTrigger] using hcat⟩)
  unfold Pipeline.validate
  simp only [uniqueIds_eq_nil_iff.mpr h.ids_nodup, references_eq_nil_iff.mpr h.declared, hacyclic,
    fanIn_eq_nil_iff.mpr h.sockets_nodup, triggerUse, htriggers, triggerInputs_eq_nil h,
    List.isEmpty_nil, Bool.not_true, Bool.false_eq_true, if_false, List.nil_append]

/-- Findings of one sort are found by the check from which they come. -/
theorem filter_code_eq_nil {ds : List Diagnostic} {check : Check} {code : DiagnosticCode}
    (hcode : code.check ≠ check) (h : ∀ d ∈ ds, d.code.check = check) :
    ds.filter (·.code = code) = [] := by
  rw [List.filter_eq_nil_iff]
  intro d hd
  rw [decide_eq_true_eq]
  rintro rfl
  exact hcode (h d hd)

/-- What a valid pipeline is told about its triggers. -/
theorem filter_code_validate {code : DiagnosticCode} (h : p.WellFormed schemas)
    (hcode : code.check = .triggers) :
    (p.validate schemas).filter (·.code = code) =
      (unreachable p (Graph.ofPipeline p)).filter (·.code = code) ++
        (effect schemas p (Graph.ofPipeline p)).filter (·.code = code) := by
  have hnodes : (p.nodes.flatMap (Validation.node schemas)).filter (·.code = code) = [] := by
    have hne : code.check ≠ .nodes := by simp [hcode]
    refine filter_code_eq_nil hne fun d hd => ?_
    obtain ⟨n, -, hn⟩ := List.mem_flatMap.mp hd
    exact check_node hn
  have hports : (ports schemas p).filter (·.code = code) = [] := by
    have hne : code.check ≠ .ports := by simp [hcode]
    exact filter_code_eq_nil hne fun d hd => check_ports hd
  rw [validate_of_wellFormed h, List.filter_append, List.filter_append, List.filter_append, hnodes,
    hports, List.append_nil, List.append_nil]

theorem code_unreachable (h : d ∈ unreachable p g) : d.code = .unreachableSubgraph := by
  obtain ⟨component, -, hd⟩ := exists_component h
  exact (idleWarning?_eq_some hd).2.2.1

theorem code_effect (h : d ∈ effect schemas p g) : d.code = .noEffectReachable := by
  unfold effect at h
  split at h
  · cases h
  · rw [List.mem_singleton.mp h]

theorem filter_unreachableSubgraph (h : p.WellFormed schemas) :
    (p.validate schemas).filter (·.code = .unreachableSubgraph) =
      unreachable p (Graph.ofPipeline p) := by
  have hkept : (unreachable p (Graph.ofPipeline p)).filter (·.code = .unreachableSubgraph) =
      unreachable p (Graph.ofPipeline p) := by
    rw [List.filter_eq_self]
    intro d hd
    simp [code_unreachable hd]
  have hdropped : (effect schemas p (Graph.ofPipeline p)).filter
      (·.code = .unreachableSubgraph) = [] := by
    rw [List.filter_eq_nil_iff]
    intro d hd
    simp [code_effect hd]
  rw [filter_code_validate h rfl, hkept, hdropped, List.append_nil]

theorem exists_noEffectReachable_iff (h : p.WellFormed schemas) :
    (∃ d ∈ p.validate schemas, d.code = .noEffectReachable) ↔
      hasEffect schemas p (Graph.ofPipeline p) = false := by
  have hmem : ∀ d, d.code = .noEffectReachable →
      (d ∈ p.validate schemas ↔ d ∈ effect schemas p (Graph.ofPipeline p)) := by
    intro d hd
    have hcode : DiagnosticCode.noEffectReachable.check = .triggers := rfl
    have hfilter := congrArg (d ∈ ·) (filter_code_validate h hcode)
    simp only [List.mem_append, List.mem_filter, hd, decide_true, and_true, eq_iff_iff] at hfilter
    rw [hfilter, or_iff_right_iff_imp]
    intro hunreachable
    rw [code_unreachable hunreachable] at hd
    cases hd
  constructor
  · rintro ⟨d, hd, hcode⟩
    have heffect := (hmem d hcode).mp hd
    unfold effect at heffect
    split at heffect
    · cases heffect
    · rename_i hnone
      simpa using hnone
  · intro hnone
    obtain ⟨d, hd⟩ : ∃ d, d ∈ effect schemas p (Graph.ofPipeline p) := by
      unfold effect
      rw [hnone]
      exact ⟨_, List.mem_singleton.mpr rfl⟩
    exact ⟨d, (hmem d (code_effect hd)).mpr hd, code_effect hd⟩

end Validation

end Flowline

import Flowline.Proofs.Validation.WellFormed

/-!
# Diagnostics by check

Every sort of finding comes from one check and from no other.  Hence nothing is said of repeated ids,
undeclared ends of edges and ports with two edges where there are none, and what is said of a certain
sort can be read off the check that it comes from.
-/

namespace Flowline

/-- The parts of the validation, and the compilation after it. -/
inductive Check
  | ids
  | references
  | fanIn
  | cycles
  | triggers
  | nodes
  | ports
  | compilation
  deriving DecidableEq

/-- The check from which findings of a sort come. -/
def DiagnosticCode.check : DiagnosticCode → Check
  | duplicateNodeId => .ids
  | unknownNodeReference => .references
  | portFanIn => .fanIn
  | cycleDetected => .cycles
  | noTrigger | triggerHasIncoming | unreachableSubgraph | noEffectReachable => .triggers
  | unknownKind | categoryMismatch => .nodes
  | missingRequiredField | invalidFieldType | invalidFieldValue | unknownField => .nodes
  | unknownPort | portTypeMismatch => .ports
  | unresolvedBinding | contradictoryGuard | crossTriggerInput => .compilation

/-- Whether a diagnostic is about repeated ids, undeclared ends of edges or ports with two edges. -/
def DiagnosticCode.isStructural : DiagnosticCode → Bool
  | duplicateNodeId | unknownNodeReference | portFanIn => true
  | _ => false

theorem DiagnosticCode.isStructural_eq_false {code : DiagnosticCode} {check : Check}
    (h : code.check = check) (hcheck : check ∉ [.ids, .references, .fanIn]) :
    code.isStructural = false := by
  subst h
  cases code with
  | duplicateNodeId => exact absurd (by decide) hcheck
  | unknownNodeReference => exact absurd (by decide) hcheck
  | portFanIn => exact absurd (by decide) hcheck
  | _ => rfl

namespace Validation

variable {p : Pipeline} {g : Graph} {schemas : Schemas} {n source target : Node} {edge : Edge}
  {d : Diagnostic}

theorem check_acyclic (h : d ∈ acyclic g) : d.code.check = .cycles := by
  rw [acyclic] at h
  split at h
  · simp at h
  · obtain rfl := List.mem_singleton.mp h
    rfl

theorem check_triggerUse (h : d ∈ triggerUse schemas p g) : d.code.check = .triggers := by
  rw [triggerUse] at h
  split at h
  · obtain rfl := List.mem_singleton.mp h
    rfl
  · rcases List.mem_append.mp h with h | h
    · rcases List.mem_append.mp h with h | h
      · obtain ⟨t, -, rfl⟩ := List.mem_map.mp h
        rfl
      · obtain ⟨component, -, hcomponent⟩ := List.mem_filterMap.mp h
        split at hcomponent
        · cases hcomponent
        · obtain rfl := Option.some.inj hcomponent
          rfl
    · rw [effect] at h
      split at h
      · cases h
      · obtain rfl := List.mem_singleton.mp h
        rfl

theorem check_node (h : d ∈ Validation.node schemas n) : d.code.check = .nodes := by
  rw [Validation.node] at h
  split at h
  · obtain rfl := List.mem_singleton.mp h
    rfl
  · rcases List.mem_append.mp h with h | h
    · split at h
      · cases h
      · obtain rfl := List.mem_singleton.mp h
        rfl
    · obtain ⟨issue, -, rfl⟩ := List.mem_map.mp h
      cases issue with
      | _ => rfl

theorem check_edgePorts (h : d ∈ edgePorts schemas source target edge) : d.code.check = .ports := by
  simp only [edgePorts] at h
  rcases List.mem_append.mp h with h | h
  · rcases List.mem_append.mp h with h | h
    · split at h
      · obtain rfl := List.mem_singleton.mp h
        rfl
      · cases h
    · split at h
      · obtain rfl := List.mem_singleton.mp h
        rfl
      · cases h
  · split at h
    · split at h
      · cases h
      · obtain rfl := List.mem_singleton.mp h
        rfl
    · cases h

theorem check_ports (h : d ∈ ports schemas p) : d.code.check = .ports := by
  obtain ⟨edge, -, hedge⟩ := List.mem_flatMap.mp h
  split at hedge
  · split at hedge
    · cases hedge
    · exact check_edgePorts hedge
  · cases hedge

/-- If ids are distinct, edges join declared nodes and no port has two edges, nothing else is said. -/
theorem isStructural_validate (hids : (p.nodes.map Node.id).Nodup)
    (hdeclared : ∀ e ∈ p.edges, e.source ∈ p.nodes.map Node.id ∧ e.target ∈ p.nodes.map Node.id)
    (hsockets : (p.edges.map fun e => (e.target, e.targetPort)).Nodup)
    (h : d ∈ p.validate schemas) : d.code.isStructural = false := by
  rw [Pipeline.validate, uniqueIds_eq_nil_iff.mpr hids, references_eq_nil_iff.mpr hdeclared,
    fanIn_eq_nil_iff.mpr hsockets] at h
  simp only [List.isEmpty_nil, Bool.not_true, Bool.false_eq_true, if_false, List.nil_append] at h
  split at h
  · exact DiagnosticCode.isStructural_eq_false (check_acyclic h) (by decide)
  · rcases List.mem_append.mp h with h | h
    · rcases List.mem_append.mp h with h | h
      · exact DiagnosticCode.isStructural_eq_false (check_triggerUse h) (by decide)
      · obtain ⟨n, -, hn⟩ := List.mem_flatMap.mp h
        exact DiagnosticCode.isStructural_eq_false (check_node hn) (by decide)
    · exact DiagnosticCode.isStructural_eq_false (check_ports h) (by decide)

end Validation

end Flowline

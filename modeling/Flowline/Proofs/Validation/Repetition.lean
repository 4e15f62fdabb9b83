import Flowline.Proofs.Validation.Unreachable

/-!
# Nothing is found twice

What validation says of a valid pipeline are warnings: of groups of nodes that run for no trigger, of a
missing effect, and of fields that their kind does not know.  No two of them are equal, since no two
groups have a node in common and no node has two fields of one name.
-/

namespace Flowline.Validation

variable {p : Pipeline} {g : Graph} {schemas : Schemas} {n source target : Node} {edge : Edge}
  {d : Diagnostic}

/-! ## Nodes -/

/-- Of a node that conforms to its kind it is only said which of its fields the kind does not know. -/
theorem exists_node_eq (h : schemas.Conforms n) :
    ∃ s : KindSchema, Validation.node schemas n =
      (n.config.keys.filter (! s.declares ·)).map fun field => ofIssue n (.unknown field) := by
  obtain ⟨s, hs, hcategory, hfields⟩ := h
  have hdeclared : s.fields.filterMap (fun spec => spec.issue? (n.config.get? spec.name)) = [] := by
    rw [List.filterMap_eq_nil_iff]
    exact fun spec hspec => issue?_eq_none_iff.mpr (hfields spec hspec)
  refine ⟨s, ?_⟩
  rw [Validation.node, hs]
  dsimp only
  rw [if_pos hcategory, KindSchema.issues, hdeclared, List.nil_append, List.nil_append,
    List.map_map]
  rfl

theorem nodup_node (h : schemas.Conforms n) (hkeys : n.config.keys.Nodup) :
    (Validation.node schemas n).Nodup := by
  obtain ⟨s, hs⟩ := exists_node_eq h
  have hfields : (Validation.node schemas n).map Diagnostic.field =
      (n.config.keys.filter (! s.declares ·)).map some := by
    rw [hs, List.map_map]
    rfl
  refine List.Nodup.of_map Diagnostic.field ?_
  rw [hfields]
  exact (hkeys.filter _).map (Option.some_injective _)

theorem node_of_mem_node (h : d ∈ Validation.node schemas n) : d.node = some n.id := by
  rw [Validation.node] at h
  split at h
  · rw [List.mem_singleton.mp h]
  · rcases List.mem_append.mp h with h | h
    · split at h
      · cases h
      · rw [List.mem_singleton.mp h]
    · obtain ⟨issue, -, rfl⟩ := List.mem_map.mp h
      rfl

theorem nodup_nodes (h : p.WellFormed schemas) (hkeys : ∀ n ∈ p.nodes, n.config.keys.Nodup) :
    (p.nodes.flatMap (Validation.node schemas)).Nodup := by
  rw [List.nodup_flatMap]
  refine ⟨fun n hn => nodup_node (h.conforms n hn) (hkeys n hn), ?_⟩
  refine (List.pairwise_map.mp h.ids_nodup).imp ?_
  intro m n hne d hm hn
  exact hne (Option.some.inj ((node_of_mem_node hm).symm.trans (node_of_mem_node hn)))

/-! ## Ports -/

theorem severity_edgePorts (h : d ∈ edgePorts schemas source target edge) : d.severity = .error := by
  simp only [edgePorts] at h
  rcases List.mem_append.mp h with h | h
  · rcases List.mem_append.mp h with h | h
    · split at h
      · rw [List.mem_singleton.mp h]
        rfl
      · cases h
    · split at h
      · rw [List.mem_singleton.mp h]
        rfl
      · cases h
  · split at h
    · split at h
      · cases h
      · rw [List.mem_singleton.mp h]
    · cases h

/-- The ports of a valid pipeline give no cause for warnings. -/
theorem ports_eq_nil (h : p.WellFormed schemas) : ports schemas p = [] := by
  have hvalid := Pipeline.isCompilable_of_wellFormed h
  rw [validate_of_wellFormed h] at hvalid
  have hports := Diagnostic.isCompilable_iff.mp (Diagnostic.isCompilable_append.mp hvalid).2
  rw [List.eq_nil_iff_forall_not_mem]
  intro d hd
  refine hports d hd ?_
  obtain ⟨edge, -, hedge⟩ := List.mem_flatMap.mp hd
  split at hedge
  · split at hedge
    · cases hedge
    · exact severity_edgePorts hedge
  · cases hedge

/-! ## All diagnostics -/

theorem nodup_unreachable (hadj : g.Adj = p.Adj) : (unreachable p g).Nodup := by
  have hreports := reportsIdle_unreachable hadj
  refine hreports.apart.imp_of_mem ?_
  rintro d e hd - hapart rfl
  obtain ⟨first, rest, hnodes, -⟩ := hreports.located d hd
  have hfirst : first ∈ d.nodes := by rw [hnodes]; exact List.mem_cons_self
  exact hapart first hfirst first hfirst (.refl first)

theorem nodup_effect : (effect schemas p g).Nodup := by
  rw [effect]
  split
  · exact List.nodup_nil
  · exact List.nodup_singleton _

/-- Nothing is said twice of a valid pipeline in whose configurations no field occurs twice. -/
theorem nodup_validate (h : p.WellFormed schemas) (hkeys : ∀ n ∈ p.nodes, n.config.keys.Nodup) :
    (p.validate schemas).Nodup := by
  have hadj := Pipeline.adj_ofPipeline_iff h.declared
  rw [validate_of_wellFormed h, ports_eq_nil h, List.append_nil]
  refine ((nodup_unreachable hadj).append nodup_effect ?_).append (nodup_nodes h hkeys) ?_
  · intro d hd he
    have hcode := (code_unreachable hd).symm.trans (code_effect he)
    cases hcode
  · intro d hd hn
    obtain ⟨n, -, hn⟩ := List.mem_flatMap.mp hn
    have hcheck := check_node hn
    rcases List.mem_append.mp hd with hd | hd
    · rw [code_unreachable hd] at hcheck
      cases hcheck
    · rw [code_effect hd] at hcheck
      cases hcheck

end Flowline.Validation

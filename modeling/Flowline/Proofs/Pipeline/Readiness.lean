import Flowline.Kind.Builtin
import Flowline.Proofs.Pipeline.Editing

/-!
# When a node is ready

The nodes of an edited pipeline are exactly those that some edit has put there and no later edit has
touched.  A node with a new configuration is ready exactly if it conforms to its kind.  A node that is
added keeps the state that it is given, so it may be called ready when it is not.
-/

namespace Flowline

open Validation

/-! ## Conforming nodes -/

/-- Whether a node is valid is whether it conforms. -/
theorem Schemas.isValid_iff_conforms {schemas : Schemas} {n : Node} :
    schemas.isValid n = true ↔ schemas.Conforms n := by
  rw [isValid, Conforms]
  cases schemas.get? n.kind with
  | none => simp
  | some s =>
    simp only [← any_isBlocking_issues_iff, Bool.and_eq_true, decide_eq_true_eq, Bool.not_eq_true',
      Option.some.injEq, exists_eq_left']

/-- The state that follows from a configuration is ready exactly if the node conforms. -/
theorem Schemas.readiness_eq_ready_iff {schemas : Schemas} {n : Node} :
    schemas.readiness n = .ready ↔ schemas.Conforms n := by
  rw [← isValid_iff_conforms, readiness]
  by_cases h : schemas.isValid n = true
  · simp [h]
  · rw [if_neg h]
    refine iff_of_false (fun hready => ?_) h
    split at hready
    · cases hready
    · cases hready
    · split_ifs at hready

/-! ## What edits put and touch -/

namespace Edit

/-- An edit of a pipeline puts a node there: it adds it, or it gives it its configuration and its state. -/
inductive Puts (p : Pipeline) : Edit → Node → Prop
  | added {n : Node} (h : p.node? n.id = none) : Puts p (.addNode n) n
  | updated {schemas : Schemas} {id : String} {config : Members} {n : Node} (h : p.node? id = some n) :
      Puts p (.updateConfig schemas id config)
        { n with config, state := schemas.readiness { n with config } }

/-- Whether an edit takes the node of an id away or gives it another configuration. -/
def touches (id : String) : Edit → Bool
  | removeNode x => x = id
  | updateConfig _ x _ => x = id
  | _ => false

variable {p : Pipeline} {n : Node}

theorem puts_addNode_iff {m : Node} : (addNode m).Puts p n ↔ n = m ∧ p.node? m.id = none := by
  constructor
  · rintro ⟨h⟩
    exact ⟨rfl, h⟩
  · rintro ⟨rfl, h⟩
    exact .added h

theorem puts_updateConfig_iff {schemas : Schemas} {id : String} {config : Members} :
    (updateConfig schemas id config).Puts p n ↔
      ∃ m, p.node? id = some m ∧ n = { m with config, state := schemas.readiness { m with config } } := by
  constructor
  · intro h
    cases h with
    | updated h => exact ⟨_, h, rfl⟩
  · rintro ⟨m, h, rfl⟩
    exact .updated h

end Edit

section Nodup

variable {n x : Node} {nodes : List Node} {id : String}

theorem id_ne_of_nodup (h : ((n :: nodes).map Node.id).Nodup) (hn : n.id = id) (hx : x ∈ nodes) :
    x.id ≠ id := by
  rw [List.map_cons, List.nodup_cons] at h
  exact fun hid => h.1 (List.mem_map.mpr ⟨x, hx, hid.trans hn.symm⟩)

/-- If no id is declared twice, erasing the first node of an id erases the only one. -/
theorem mem_eraseP_id_iff (hnodup : (nodes.map Node.id).Nodup) :
    x ∈ nodes.eraseP (·.id = id) ↔ x ∈ nodes ∧ x.id ≠ id := by
  induction nodes with
  | nil => simp
  | cons n nodes ih =>
    by_cases hn : n.id = id
    · rw [List.eraseP_cons_of_pos (by simpa using hn), List.mem_cons]
      constructor
      · exact fun hx => ⟨Or.inr hx, id_ne_of_nodup hnodup hn hx⟩
      · rintro ⟨rfl | hx, hne⟩
        · exact absurd hn hne
        · exact hx
    · rw [List.eraseP_cons_of_neg (by simpa using hn), List.mem_cons, List.mem_cons,
        ih (List.nodup_cons.mp hnodup).2]
      constructor
      · rintro (rfl | ⟨hx, hne⟩)
        · exact ⟨Or.inl rfl, hn⟩
        · exact ⟨Or.inr hx, hne⟩
      · rintro ⟨rfl | hx, hne⟩
        · exact Or.inl rfl
        · exact Or.inr ⟨hx, hne⟩

/-- If no id is declared twice, changing the first node of an id changes the only one. -/
theorem mem_modifyFirst_id_iff {f : Node → Node} (hnodup : (nodes.map Node.id).Nodup) :
    x ∈ modifyFirst (·.id = id) f nodes ↔
      (x ∈ nodes ∧ x.id ≠ id) ∨ ∃ n, nodes.find? (·.id = id) = some n ∧ x = f n := by
  induction nodes with
  | nil => simp [modifyFirst]
  | cons n nodes ih =>
    by_cases hn : n.id = id
    · simp only [modifyFirst, hn, decide_true, if_true, List.mem_cons, List.find?_cons_of_pos,
        Option.some.injEq, exists_eq_left', or_and_right]
      constructor
      · rintro (rfl | hx)
        · exact Or.inr rfl
        · exact Or.inl (Or.inr ⟨hx, id_ne_of_nodup hnodup hn hx⟩)
      · rintro ((⟨rfl, hne⟩ | ⟨hx, -⟩) | rfl)
        · exact absurd hn hne
        · exact Or.inr hx
        · exact Or.inl rfl
    · simp only [modifyFirst, hn, decide_false, Bool.false_eq_true, if_false, List.mem_cons,
        ih (List.nodup_cons.mp hnodup).2, List.find?_cons_of_neg, not_false_eq_true, or_and_right]
      constructor
      · rintro (rfl | hx | hx)
        · exact Or.inl (Or.inl ⟨rfl, hn⟩)
        · exact Or.inl (Or.inr hx)
        · exact Or.inr hx
      · rintro ((⟨rfl, -⟩ | hx) | hx)
        · exact Or.inl rfl
        · exact Or.inr (Or.inl hx)
        · exact Or.inr (Or.inr hx)

end Nodup

namespace Pipeline

variable {p : Pipeline} {n : Node}

theorem id_ne_of_node?_eq_none {id : String} (h : p.node? id = none) (hn : n ∈ p.nodes) : n.id ≠ id :=
  fun hid => node?_eq_none_iff.mp h (List.mem_map.mpr ⟨n, hn, hid⟩)

/-- After an edit there are the nodes that it does not touch and the one that it puts there. -/
theorem mem_nodes_on_iff (hp : p.Sound) (e : Edit) :
    n ∈ (e.perform.on p).2.nodes ↔ (n ∈ p.nodes ∧ e.touches n.id = false) ∨ e.Puts p n := by
  cases e with
  | addNode m =>
    rw [Edit.perform, Editing.on_addNode, Edit.puts_addNode_iff]
    cases hm : p.node? m.id with
    | some k => simp [Edit.touches]
    | none => simp [Edit.touches]
  | removeNode id =>
    have hputs : ¬ (Edit.removeNode id).Puts p n := fun h => by cases h
    rw [Edit.perform, Editing.on_bind, Editing.on_removeNode]
    cases hm : p.node? id with
    | some k =>
      change n ∈ p.nodes.eraseP (·.id = id) ↔ _
      rw [mem_eraseP_id_iff hp.ids_nodup]
      simp [Edit.touches, hputs, eq_comm]
    | none =>
      have hne : n ∈ p.nodes → ¬ id = n.id := fun hn => Ne.symm (id_ne_of_node?_eq_none hm hn)
      simpa [Edit.touches, hputs] using hne
  | addEdge e =>
    have hputs : ¬ (Edit.addEdge e).Puts p n := fun h => by cases h
    have hnodes : ((Edit.addEdge e).perform.on p).2.nodes = p.nodes := by
      rw [Edit.perform, Editing.on_addEdge]
      split
      · split
        · rfl
        · rfl
      · rfl
      · rfl
    rw [hnodes]
    simp [Edit.touches, hputs]
  | removeEdge source sourcePort target targetPort =>
    have hputs : ¬ (Edit.removeEdge source sourcePort target targetPort).Puts p n :=
      fun h => by cases h
    have hnodes :
        ((Edit.removeEdge source sourcePort target targetPort).perform.on p).2.nodes = p.nodes := by
      rw [Edit.perform, Editing.on_bind, Editing.on_removeEdge]
      cases p.edges.find? (·.joins source sourcePort target targetPort) <;> rfl
    rw [hnodes]
    simp [Edit.touches, hputs]
  | updateConfig schemas id config =>
    rw [Edit.perform, Editing.on_bind, Editing.on_updateConfig, Edit.puts_updateConfig_iff]
    cases hm : p.node? id with
    | some k =>
      have hfind : p.nodes.find? (·.id = id) = some k := hm
      change n ∈ modifyFirst (·.id = id) _ p.nodes ↔ _
      rw [mem_modifyFirst_id_iff hp.ids_nodup, hfind]
      simp [Edit.touches, eq_comm]
    | none =>
      have hne : n ∈ p.nodes → ¬ id = n.id := fun hn => Ne.symm (id_ne_of_node?_eq_none hm hn)
      simpa [Edit.touches] using hne

/-! ## What has been put there and not been touched since -/

/-- An edit has put a node there, and no later one has touched it. -/
def Stands (p : Pipeline) (edits : List Edit) (e : Edit) (n : Node) : Prop :=
  ∃ before later, edits = before ++ e :: later ∧ e.Puts (p.after before) n ∧
    ∀ f ∈ later, f.touches n.id = false

/-- The nodes of an edited pipeline are those that have been put there and not been touched since. -/
theorem mem_nodes_after_iff (hp : p.Sound) (hempty : p.nodes = []) (edits : List Edit) :
    n ∈ (p.after edits).nodes ↔ ∃ e, p.Stands edits e n := by
  induction edits using List.reverseRecOn with
  | nil =>
    have hnone : ∀ e, ¬ p.Stands [] e n := by
      rintro e ⟨before, later, hnil, -⟩
      simp at hnil
    simp [after, hempty, hnone]
  | append_singleton edits f ih =>
    have hlast : (p.after (edits ++ [f])).nodes = (f.perform.on (p.after edits)).2.nodes := by
      rw [after_append]
      rfl
    rw [hlast, mem_nodes_on_iff (hp.after edits), ih]
    constructor
    · rintro (⟨⟨e, before, later, rfl, hputs, hlater⟩, hf⟩ | hputs)
      · refine ⟨e, before, later ++ [f], by simp, hputs, fun g hg => ?_⟩
        rcases List.mem_append.mp hg with hg | hg
        · exact hlater g hg
        · rw [List.mem_singleton.mp hg]
          exact hf
      · exact ⟨f, edits, [], rfl, hputs, List.forall_mem_nil _⟩
    · rintro ⟨e, before, later, heq, hputs, hlater⟩
      rcases List.eq_nil_or_concat later with rfl | ⟨later', g, rfl⟩
      · obtain ⟨rfl, he⟩ := List.append_inj' heq rfl
        obtain rfl : f = e := by simpa using he
        exact Or.inr hputs
      · have heq' : edits ++ [f] = (before ++ e :: later') ++ [g] := by simpa using heq
        obtain ⟨rfl, hg⟩ := List.append_inj' heq' rfl
        obtain rfl : f = g := by simpa using hg
        exact Or.inl ⟨⟨e, before, later', rfl, hputs, fun x hx => hlater x (by simp [hx])⟩,
          hlater f (by simp)⟩

/-! ## Ready nodes -/

/-- What holds of the nodes after some edits, of which those that set a configuration know some kinds. -/
structure Readied (schemas : Schemas) (p : Pipeline) (edits : List Edit) : Prop where
  nodes : ∀ n, n ∈ (p.after edits).nodes ↔ ∃ e, p.Stands edits e n
  /-- A node whose configuration was set is ready exactly if it conforms. -/
  updated : ∀ id config n, p.Stands edits (.updateConfig schemas id config) n →
    (n.state = .ready ↔ schemas.Conforms n)
  /-- A ready node conforms, unless it stands as it was added. -/
  ready : ∀ n ∈ (p.after edits).nodes, n.state = .ready →
    schemas.Conforms n ∨ p.Stands edits (.addNode n) n
  /-- All ready nodes conform exactly if those do that stand as they were added. -/
  conform_iff : (∀ n ∈ (p.after edits).nodes, n.state = .ready → schemas.Conforms n) ↔
    ∀ n, p.Stands edits (.addNode n) n → n.state = .ready → schemas.Conforms n

theorem ready_iff_of_stands {schemas : Schemas} {edits : List Edit} {id : String} {config : Members}
    (h : p.Stands edits (.updateConfig schemas id config) n) :
    n.state = .ready ↔ schemas.Conforms n := by
  obtain ⟨before, later, -, hputs, -⟩ := h
  obtain ⟨m, -, rfl⟩ := Edit.puts_updateConfig_iff.mp hputs
  exact Schemas.readiness_eq_ready_iff

/-- Only a node that was added as ready can be ready without conforming to its kind. -/
theorem readied_of_new (schemas : Schemas) (id name : String) (edits : List Edit)
    (hschemas : ∀ other x config, .updateConfig other x config ∈ edits → other = schemas) :
    Readied schemas (new id name) edits := by
  have hnodes : ∀ n, n ∈ ((new id name).after edits).nodes ↔ ∃ e, (new id name).Stands edits e n :=
    fun n => mem_nodes_after_iff (sound_new id name) rfl edits
  have hready : ∀ n ∈ ((new id name).after edits).nodes, n.state = .ready →
      schemas.Conforms n ∨ (new id name).Stands edits (.addNode n) n := by
    intro n hn hstate
    obtain ⟨e, hstands⟩ := (hnodes n).mp hn
    have hlast := hstands
    obtain ⟨before, later, hedits, hputs, -⟩ := hlast
    cases hputs with
    | added h => exact Or.inr hstands
    | @updated other x config m h =>
      obtain rfl : other = schemas := hschemas other x config (by simp [hedits])
      exact Or.inl ((ready_iff_of_stands hstands).mp hstate)
  constructor
  case nodes => exact hnodes
  case updated => exact fun x config n h => ready_iff_of_stands h
  case ready => exact hready
  case conform_iff =>
    constructor
    · exact fun h n hstands hstate => h n ((hnodes n).mpr ⟨_, hstands⟩) hstate
    · intro h n hn hstate
      rcases hready n hn hstate with hconforms | hstands
      · exact hconforms
      · exact h n hstands hstate

/-- A node gets its configuration, and another one loses it. -/
theorem readied_configured :
    let edits := [
      Edit.addNode ⟨"tick", .trigger, "cron-trigger", [], .draft, none⟩,
      .updateConfig Builtin.schemas "tick" [("schedule", .string "*/5 * * * *")],
      .addNode ⟨"note", .logic, "log", [("message", .string "tick")], .ready, none⟩,
      .updateConfig Builtin.schemas "note" []]
    Readied Builtin.schemas (new "p" "Configured") edits ∧
      ((new "p" "Configured").after edits).nodes.map Node.state = [.ready, .error] := by
  intro edits
  refine ⟨readied_of_new Builtin.schemas "p" "Configured" edits (fun other x config h => ?_),
    by decide +kernel⟩
  simp only [edits, List.mem_cons, Edit.updateConfig.injEq, reduceCtorEq, false_or, List.not_mem_nil,
    or_false] at h
  rcases h with ⟨rfl, -⟩ | ⟨rfl, -⟩
  · rfl
  · rfl

/-- A node that was added as ready is ready without a required field. -/
theorem ready_unconfigured :
    let tick : Node := ⟨"tick", .trigger, "cron-trigger", [], .ready, none⟩
    tick ∈ ((new "p" "Unconfigured").after [.addNode tick]).nodes ∧ tick.state = .ready ∧
      ¬ Builtin.schemas.Conforms tick := by
  intro tick
  refine ⟨List.mem_singleton.mpr rfl, rfl, ?_⟩
  rw [← Schemas.isValid_iff_conforms]
  decide +kernel

end Pipeline

end Flowline

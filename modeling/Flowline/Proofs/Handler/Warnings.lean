import Flowline.Proofs.Handler.Steps

/-!
# What a handler warns of

Each step of a handler may raise warnings: of inputs that come from nodes outside the handler, of a guard
that cannot hold and of bindings that have no expression.  The warnings of a workflow are those of its
steps, in their order, each once.
-/

namespace Flowline

/-! ## Lists of diagnostics -/

namespace Diagnostic

variable {ds more : List Diagnostic} {d x : Diagnostic}

theorem mem_append : d ∈ append ds x ↔ d ∈ ds ∨ d = x := by
  unfold append
  split
  · rename_i h
    have hx : x ∈ ds := by simpa using h
    refine ⟨Or.inl, ?_⟩
    rintro (hd | rfl)
    · exact hd
    · exact hx
  · simp

theorem mem_merge : d ∈ merge ds more ↔ d ∈ ds ∨ d ∈ more := by
  unfold merge
  induction more generalizing ds with
  | nil => simp
  | cons x xs ih => rw [List.foldl_cons, ih, mem_append, List.mem_cons, or_assoc]

theorem append_of_mem (h : x ∈ ds) : append ds x = ds := if_pos (List.contains_iff_mem.mpr h)

theorem append_of_notMem (h : x ∉ ds) : append ds x = ds ++ [x] := if_neg (by simpa using h)

theorem merge_concat (ds more : List Diagnostic) (x : Diagnostic) :
    merge ds (more ++ [x]) = append (merge ds more) x := by
  rw [merge, List.foldl_concat, merge]

/-- What is merged into a list follows it, each diagnostic at the place where it comes first. -/
theorem merge_eq (ds more : List Diagnostic) :
    merge ds more = ds ++ (more.filter fun d => ! ds.contains d).eraseDups := by
  induction more using List.reverseRecOn with
  | nil => simp [merge]
  | append_singleton more x ih =>
    rw [merge_concat, List.filter_append, List.eraseDups_append, ← List.append_assoc, ← ih]
    by_cases hx : x ∈ merge ds more
    · have hold : x ∈ ds ∨ x ∈ more := mem_merge.mp hx
      rw [append_of_mem hx]
      by_cases hds : x ∈ ds
      · simp [hds, List.removeAll]
      · simp [hds, hold.resolve_left hds, List.removeAll]
    · have hnew : x ∉ ds ∧ x ∉ more := not_or.mp fun h => hx (mem_merge.mpr h)
      rw [append_of_notMem hx]
      simp [hnew.1, hnew.2, List.removeAll, List.eraseDups_cons]

/-- What is left out of two lists is left out of the merged one. -/
theorem merge_filter (p : Diagnostic → Bool) (ds more : List Diagnostic) :
    merge (ds.filter p) (more.filter p) = (merge ds more).filter p := by
  induction more using List.reverseRecOn with
  | nil => rfl
  | append_singleton more x ih =>
    rw [merge_concat, List.filter_append]
    by_cases hp : p x
    · rw [List.filter_cons_of_pos hp, List.filter_nil, merge_concat, ih]
      by_cases hx : x ∈ merge ds more
      · rw [append_of_mem hx, append_of_mem (List.mem_filter.mpr ⟨hx, hp⟩)]
      · rw [append_of_notMem hx, append_of_notMem fun h => hx (List.mem_filter.mp h).1]
        simp [hp]
    · have hrest : (append (merge ds more) x).filter p = (merge ds more).filter p := by
        by_cases hx : x ∈ merge ds more
        · rw [append_of_mem hx]
        · rw [append_of_notMem hx]
          simp [hp]
      rw [hrest, List.filter_cons_of_neg hp, List.filter_nil, List.append_nil, ih]

theorem nodup_merge (h : ds.Nodup) (more : List Diagnostic) : (merge ds more).Nodup := by
  induction more using List.reverseRecOn with
  | nil => exact h
  | append_singleton more x ih =>
    rw [merge_concat]
    by_cases hx : x ∈ merge ds more
    · rwa [append_of_mem hx]
    · rw [append_of_notMem hx]
      exact ih.append (List.nodup_singleton x) (by simpa using hx)

end Diagnostic

namespace Plan

variable {plan : Plan} {critical members : Ids} {trigger : String} {steps : List Step} {n : Node}
  {s : Step} {ports : Table String} {warnings : List Diagnostic} {d : Diagnostic}

/-! ## What is raised -/

/-- The inputs of a node that come from outside a handler. -/
def foreignInputs (plan : Plan) (trigger : String) (members : Ids) (n : Node) : List Diagnostic :=
  ((plan.graph.incoming n.id).filter fun l => ! members.contains l.peer).map
    fun l => crossTriggerInput n l trigger

/-- The warning of a guard that cannot hold. -/
def neverRuns (n : Node) (guards : List Guard) : List Diagnostic :=
  if Guard.contradictory guards then [contradictoryGuard n] else []

/-- The warning of a binding without an expression. -/
def unbound? (plan : Plan) (ports : Table String) (n : Node) (spec : BindingSpec) :
    Option Diagnostic :=
  match plan.resolution ports n spec with
  | .unresolved why =>
    some (unresolvedBinding n (CompileError.unresolvedMessage n.id spec.label why.detail))
  | _ => none

/-- The bindings of a node without an expression. -/
def unbound (plan : Plan) (ports : Table String) (n : Node) : List Diagnostic :=
  match plan.catalog.schemas.get? n.kind with
  | none => []
  | some schema => schema.bindings.filterMap (plan.unbound? ports n)

/-- What a step warns of. -/
def raised (plan : Plan) (trigger : String) (members : Ids) (s : Step) : List Diagnostic :=
  plan.foreignInputs trigger members s.node ++ neverRuns s.node s.guards ++
    plan.unbound s.inputs.ports s.node

theorem warnings_feed {feed : Feed} (h : plan.feed trigger members steps n = .ok feed) :
    feed.warnings = plan.foreignInputs trigger members n := by
  refine foldlM_induction (f := feedLink trigger members steps n)
    (P := fun links feed => feed.warnings = (links.filter fun l => ! members.contains l.peer).map
      fun l => crossTriggerInput n l trigger)
    ?_ (plan.graph.incoming n.id) [] {} feed rfl h
  intro links l feed feed' hfeed hstep
  rw [List.filter_append, List.map_append, ← hfeed]
  unfold feedLink at hstep
  by_cases hl : l.peer ∈ members
  · rw [if_neg (by simpa using hl)] at hstep
    dsimp only at hstep
    split at hstep
    · obtain rfl := (Except.ok.inj hstep).symm
      simp [hl]
    · cases hstep
  · rw [if_pos (by simpa using hl)] at hstep
    obtain rfl := (Except.ok.inj hstep).symm
    simp [hl]

theorem warnings_bindAll {bound : Bound} (h : plan.bindAll critical ports n = .ok bound) :
    bound.warnings = plan.unbound ports n := by
  unfold bindAll at h
  unfold unbound
  cases hschema : plan.catalog.schemas.get? n.kind with
  | none =>
    rw [hschema] at h
    obtain rfl := (Except.ok.inj h).symm
    rfl
  | some schema =>
    rw [hschema] at h
    refine foldlM_induction (f := plan.bindSpec critical ports n)
      (P := fun specs bound => bound.warnings = specs.filterMap (plan.unbound? ports n))
      ?_ schema.bindings [] {} bound rfl h
    intro specs spec bound bound' hbound hstep
    rw [List.filterMap_append, ← hbound]
    rw [bindSpec, ← resolution] at hstep
    cases hr : plan.resolution ports n spec with
    | skipped =>
      rw [hr] at hstep
      obtain rfl := (Except.ok.inj hstep).symm
      simp [unbound?, hr]
    | resolved expr =>
      rw [hr] at hstep
      obtain rfl := (Except.ok.inj hstep).symm
      simp [unbound?, hr]
    | unresolved why =>
      rw [hr] at hstep
      dsimp only at hstep
      split at hstep
      · cases hstep
      · obtain rfl := (Except.ok.inj hstep).symm
        simp [unbound?, hr]

theorem warnings_step (h : plan.step critical trigger members steps n = .ok (s, warnings)) :
    warnings = plan.raised trigger members s := by
  obtain ⟨feed, bound, emit, fragment, hfeed, hbound, -, -, heq⟩ := step_eq_ok_iff.mp h
  obtain ⟨rfl, rfl⟩ := Prod.mk.inj heq
  rw [warnings_feed hfeed, warnings_bindAll hbound]
  rfl

/-- The warnings of a handler are those of its steps. -/
theorem warnings_handler {h : Handler}
    (hh : plan.handler critical trigger = .ok (h, warnings)) :
    warnings = h.steps.flatMap (plan.raised trigger (plan.members trigger)) := by
  obtain ⟨done, hook, hdone, -, heq⟩ := handler_eq_ok_iff.mp hh
  obtain ⟨rfl, rfl⟩ := Prod.mk.inj heq
  refine foldlM_induction (f := plan.addStep critical trigger (plan.members trigger))
    (P := fun _ done => done.warnings =
      done.steps.flatMap (plan.raised trigger (plan.members trigger)))
    ?_ (plan.memberNodes (plan.members trigger)) [] {} done rfl hdone
  intro _ n done done' hdone hstep
  simp only [addStep, bind_eq_ok_iff] at hstep
  obtain ⟨⟨s, warnings⟩, hs, hstep⟩ := hstep
  obtain rfl := (Except.ok.inj hstep).symm
  rw [List.flatMap_append, hdone, warnings_step hs]
  simp

/-- What the steps of some handlers warn of, in their order. -/
def emitted (plan : Plan) (handlers : List Handler) : List Diagnostic :=
  handlers.flatMap fun h => h.steps.flatMap (plan.raised h.trigger (plan.members h.trigger))

/-- A workflow warns of what its steps do, each warning given once. -/
theorem warnings_workflow {w : Workflow} (h : plan.workflow = .ok w) :
    w.warnings = Diagnostic.merge [] (plan.emitted w.handlers) := by
  obtain ⟨-, -, made, hmade, rfl⟩ := workflow_eq_ok_iff.mp h
  have hwarnings : ∀ pair ∈ made, pair.2 =
      pair.1.steps.flatMap (plan.raised pair.1.trigger (plan.members pair.1.trigger)) := by
    rintro ⟨handler, warnings⟩ hpair
    obtain ⟨t, -, ht⟩ := exists_mem_of_forall₂ (mapM_eq_ok_iff.mp hmade) hpair
    obtain ⟨rfl, -⟩ := madeOf_handler ht
    exact warnings_handler ht
  dsimp only
  rw [emitted, List.flatMap_map, List.flatMap_congr hwarnings]

theorem mem_warnings_iff {w : Workflow} (h : plan.workflow = .ok w) :
    d ∈ w.warnings ↔ ∃ handler ∈ w.handlers, ∃ s ∈ handler.steps,
      d ∈ plan.raised handler.trigger (plan.members handler.trigger) s := by
  rw [warnings_workflow h, Diagnostic.mem_merge]
  simp only [List.not_mem_nil, false_or, emitted, List.mem_flatMap]

/-! ## Warnings of one sort -/

theorem exists_of_mem_unbound (h : d ∈ plan.unbound ports n) :
    ∃ message, d = unresolvedBinding n message := by
  unfold unbound at h
  split at h
  · exact absurd h List.not_mem_nil
  · obtain ⟨spec, -, hd⟩ := List.mem_filterMap.mp h
    unfold unbound? at hd
    split at hd
    · exact ⟨_, (Option.some.inj hd).symm⟩
    · cases hd

theorem code_of_mem_unbound (h : d ∈ plan.unbound ports n) : d.code = .unresolvedBinding := by
  obtain ⟨message, rfl⟩ := exists_of_mem_unbound h
  rfl

theorem mem_foreignInputs :
    d ∈ plan.foreignInputs trigger members n ↔
      ∃ l ∈ plan.graph.incoming n.id, l.peer ∉ members ∧ d = crossTriggerInput n l trigger := by
  unfold foreignInputs
  simp only [List.mem_map, List.mem_filter, Bool.not_eq_true', List.contains_eq_mem,
    decide_eq_false_iff_not, and_assoc, eq_comm (b := d)]

theorem mem_neverRuns {guards : List Guard} :
    d ∈ neverRuns n guards ↔ Guard.contradictory guards = true ∧ d = contradictoryGuard n := by
  unfold neverRuns
  split
  · rename_i h
    simp [h]
  · rename_i h
    simp [h]

theorem mem_raised_of_foreign :
    d ∈ plan.raised trigger members s ∧ d.code = .crossTriggerInput ↔
      ∃ l ∈ plan.graph.incoming s.node.id, l.peer ∉ members ∧
        d = crossTriggerInput s.node l trigger := by
  rw [← mem_foreignInputs, raised, List.mem_append, List.mem_append]
  constructor
  · rintro ⟨(hd | hd) | hd, hcode⟩
    · exact hd
    · rw [(mem_neverRuns.mp hd).2] at hcode
      cases hcode
    · rw [code_of_mem_unbound hd] at hcode
      cases hcode
  · intro hd
    obtain ⟨l, -, -, rfl⟩ := mem_foreignInputs.mp hd
    exact ⟨Or.inl (Or.inl hd), rfl⟩

theorem mem_raised_of_never :
    d ∈ plan.raised trigger members s ∧ d.code = .contradictoryGuard ↔
      Guard.contradictory s.guards = true ∧ d = contradictoryGuard s.node := by
  rw [← mem_neverRuns, raised, List.mem_append, List.mem_append]
  constructor
  · rintro ⟨(hd | hd) | hd, hcode⟩
    · obtain ⟨l, -, -, rfl⟩ := mem_foreignInputs.mp hd
      cases hcode
    · exact hd
    · rw [code_of_mem_unbound hd] at hcode
      cases hcode
  · intro hd
    obtain ⟨-, rfl⟩ := mem_neverRuns.mp hd
    exact ⟨Or.inl (Or.inr hd), rfl⟩

end Plan

end Flowline

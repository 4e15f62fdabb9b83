import Flowline.Proofs.Compile.WellScoped

/-!
# Identifiers

The variables of the steps and the names of the handlers tell their nodes apart.  Ids are gone through in
order of declaration, and each new one gets the first of its candidates that no earlier one has: a name
of letters, digits and underscores, whatever the id is made of.  A handler has the name of its trigger's
variable with another beginning.
-/

namespace Flowline

/-- One more member of a list is one more distinct one, unless the list has it. -/
theorem distinct_concat (xs : List String) (x : String) :
    distinct (xs ++ [x]) = if x ∈ xs then distinct xs else distinct xs ++ [x] := by
  induction xs with
  | nil => rfl
  | cons y ys ih =>
    rw [List.cons_append, distinct, ih, distinct]
    by_cases hxy : x = y
    · rw [if_pos (List.mem_cons.mpr (Or.inl hxy))]
      split
      · rfl
      · rw [List.filter_append, hxy]
        simp
    · by_cases hx : x ∈ ys
      · rw [if_pos hx, if_pos (List.mem_cons_of_mem _ hx)]
      · rw [if_neg hx, if_neg (by simp [hxy, hx]), List.filter_append]
        simp [hxy]

namespace Script

variable {name id : String} {ids : List String} {vars : List (String × String)}

theorem IsPlain.ne_of_step {v : String} (h : IsPlain "on_" name) (hv : IsPlain "step_" v) : name ≠ v := by
  obtain ⟨rest, rfl, -⟩ := h
  obtain ⟨rest', rfl, -⟩ := hv
  intro heq
  simpa using congrArg String.toList heq

/-! ## One variable for each id -/

theorem isSome_lookup_iff : (vars.lookup id).isSome ↔ id ∈ vars.map Prod.fst := by
  induction vars with
  | nil => simp
  | cons e rest ih =>
    obtain ⟨x, v⟩ := e
    rw [List.lookup_cons, List.map_cons, List.mem_cons]
    by_cases hx : id = x
    · simp [hx]
    · have hb : (id == x) = false := by simpa using hx
      simp only [hb, hx, false_or]
      exact ih

theorem assignVars_concat (ids : List String) (id : String) :
    assignVars (ids ++ [id]) = assignVar (assignVars ids) id := by
  rw [assignVars, List.foldl_concat, ← assignVars]

/-- Each distinct id gets one variable, in the order in which the ids come. -/
theorem map_fst_assignVars (ids : List String) : (assignVars ids).map Prod.fst = distinct ids := by
  induction ids using List.reverseRecOn with
  | nil => rfl
  | append_singleton ids id ih =>
    have hiff : ((assignVars ids).lookup id).isSome = true ↔ id ∈ ids := by
      rw [isSome_lookup_iff, ih, mem_distinct]
    rw [assignVars_concat, assignVar, distinct_concat]
    by_cases hid : id ∈ ids
    · rw [if_pos (hiff.mpr hid), if_pos hid, ih]
    · rw [if_neg (mt hiff.mp hid), if_neg hid, List.map_append, ih]
      rfl

theorem isSome_lookup_assignVars_iff : ((assignVars ids).lookup id).isSome ↔ id ∈ ids := by
  rw [isSome_lookup_iff, map_fst_assignVars, mem_distinct]

/-- The variable of a new id is searched for among those of the ids before. -/
theorem assignVars_new (h : id ∉ ids) :
    ∃ passed ≤ (distinct ids).length, ∃ v,
      Search (stepVar id) ((assignVars ids).map Prod.snd) passed v ∧
      assignVars (ids ++ [id]) = assignVars ids ++ [(id, v)] := by
  obtain ⟨passed, hle, hsearch⟩ := search_freshVar (stepVar id) ((assignVars ids).map Prod.snd)
  refine ⟨passed, ?_, _, hsearch, ?_⟩
  · rwa [← map_fst_assignVars, List.length_map, ← List.length_map (f := Prod.snd)]
  · rw [assignVars_concat, assignVar, if_neg (mt isSome_lookup_assignVars_iff.mp h)]

theorem isPlain_of_mem_assignVars : ∀ e ∈ assignVars ids, IsPlain "step_" e.2 := by
  induction ids using List.reverseRecOn with
  | nil => exact fun e he => by simp [assignVars] at he
  | append_singleton ids id ih =>
    by_cases hid : id ∈ ids
    · rwa [assignVars_concat, assignVar, if_pos (isSome_lookup_assignVars_iff.mpr hid)]
    · obtain ⟨passed, -, v, hsearch, heq⟩ := assignVars_new hid
      rw [heq]
      intro e he
      rcases List.mem_append.mp he with he | he
      · exact ih e he
      · rw [List.mem_singleton.mp he, hsearch.eq]
        exact (isPlain_stepVar id).candidate passed

/-- Variables that are given stay as they are. -/
theorem isPrefix_assignVars (ids more : List String) : assignVars ids <+: assignVars (ids ++ more) := by
  induction more using List.reverseRecOn with
  | nil => rw [List.append_nil]
  | append_singleton more id ih =>
    rw [← List.append_assoc, assignVars_concat, assignVar]
    split
    · exact ih
    · exact ih.trans (List.prefix_append _ _)

end Script

open Script

/-! ## Names of handlers -/

namespace Handler

variable {h h' : Handler} {rest : List Char}

theorem name_eq (hvar : h.var = "step_" ++ String.ofList rest) : h.name = "on_" ++ String.ofList rest := by
  have hlength : "step_".length = 5 := by decide
  have hrest : h.var.toList.drop 5 = rest := by simp [hvar]
  rw [name, hlength, hrest]

theorem isPlain_name (hvar : IsPlain "step_" h.var) : IsPlain "on_" h.name := by
  obtain ⟨rest, hvar, hrest⟩ := hvar
  exact ⟨rest, name_eq hvar, hrest⟩

/-- The name of a handler tells the variable of its trigger. -/
theorem var_eq_of_name_eq (hvar : IsPlain "step_" h.var) (hvar' : IsPlain "step_" h'.var)
    (hname : h.name = h'.name) : h.var = h'.var := by
  obtain ⟨rest, hvar, -⟩ := hvar
  obtain ⟨rest', hvar', -⟩ := hvar'
  rw [name_eq hvar, name_eq hvar'] at hname
  have hrest : rest = rest' := by simpa [← String.toList_inj] using hname
  rw [hvar, hvar', hrest]

end Handler

/-- The variable that a handler has is that of its trigger. -/
theorem Plan.var_mem_vars (plan : Plan) {critical : Ids} {t : String} {h : Handler}
    {warnings : List Diagnostic} (ht : t ∈ plan.pipeline.nodes.map Node.id)
    (hmade : plan.handler critical t = .ok (h, warnings)) : (h.trigger, h.var) ∈ plan.vars := by
  obtain ⟨done, hook, -, -, heq⟩ := Plan.handler_eq_ok_iff.mp hmade
  obtain ⟨rfl, -⟩ := Prod.mk.inj heq
  obtain ⟨v, hv⟩ := Option.isSome_iff_exists.mp (plan.assigned_vars.all t ht)
  rw [Plan.var, hv]
  exact mem_of_lookup hv

/-- Every distinct id has one variable, which no other has: the first of its candidates that no id before
it has, so that no more candidates are passed over than there are such ids.  Variables and names of
handlers are plain names; no handler has the name of a variable, or of a handler of another trigger. -/
theorem Pipeline.identifiers_apart (p : Pipeline) :
    (assignVars (p.nodes.map Node.id)).map Prod.fst = distinct (p.nodes.map Node.id) ∧
    (∀ before id after, p.nodes.map Node.id = before ++ id :: after → id ∉ before →
      ∃ passed ≤ (distinct before).length, ∃ v,
        Search (stepVar id) ((assignVars before).map Prod.snd) passed v ∧
        (id, v) ∈ assignVars (p.nodes.map Node.id)) ∧
    (∀ e ∈ assignVars (p.nodes.map Node.id), IsPlain "step_" e.2) ∧
    ((assignVars (p.nodes.map Node.id)).map Prod.snd).Nodup ∧
    (∀ h : Handler, (h.trigger, h.var) ∈ assignVars (p.nodes.map Node.id) →
      IsPlain "on_" h.name ∧ h.name ∉ (assignVars (p.nodes.map Node.id)).map Prod.snd ∧
      ∀ h' : Handler, (h'.trigger, h'.var) ∈ assignVars (p.nodes.map Node.id) →
        h.name = h'.name → h.trigger = h'.trigger) ∧
    ∀ (c : Catalog) (r : Resources) (w : Workflow), c.workflow r p = .ok w →
      (∀ h ∈ w.handlers, (h.trigger, h.var) ∈ assignVars (p.nodes.map Node.id)) ∧
      (w.handlers.map Handler.name).Nodup := by
  have hnodup := (assigned_assignVars (p.nodes.map Node.id)).nodup
  have hapart : ∀ h h' : Handler, (h.trigger, h.var) ∈ assignVars (p.nodes.map Node.id) →
      (h'.trigger, h'.var) ∈ assignVars (p.nodes.map Node.id) →
        h.name = h'.name → h.trigger = h'.trigger := by
    intro h h' hh hh' hname
    have hvar := Handler.var_eq_of_name_eq (isPlain_of_mem_assignVars _ hh)
      (isPlain_of_mem_assignVars _ hh') hname
    exact congrArg Prod.fst (List.inj_on_of_nodup_map hnodup hh hh' hvar)
  refine ⟨map_fst_assignVars _, ?_, isPlain_of_mem_assignVars, hnodup, fun h hh => ?_, ?_⟩
  · intro before id after hsplit hnew
    obtain ⟨passed, hle, v, hsearch, heq⟩ := assignVars_new hnew
    refine ⟨passed, hle, v, hsearch, ?_⟩
    rw [hsplit, List.append_cons]
    exact (isPrefix_assignVars (before ++ [id]) after).mem (by simp [heq])
  · have hplain := Handler.isPlain_name (isPlain_of_mem_assignVars _ hh)
    refine ⟨hplain, fun hmem => ?_, fun h' => hapart h h' hh⟩
    obtain ⟨e, he, heq⟩ := List.mem_map.mp hmem
    exact hplain.ne_of_step (isPlain_of_mem_assignVars e he) heq.symm
  · intro c r w hw
    obtain ⟨plan, rfl, -, -, hplan⟩ := Catalog.plan_of_workflow hw
    obtain ⟨htriggers, hmade⟩ := Plan.handlers_of_workflow hplan
    have hvars : ∀ h ∈ w.handlers, (h.trigger, h.var) ∈ plan.vars := by
      intro h hh
      have ht : h.trigger ∈ plan.triggers := htriggers ▸ List.mem_map_of_mem hh
      obtain ⟨warnings, hmade⟩ := hmade h hh
      exact plan.var_mem_vars (plan.mem_triggers.mp ht).1 hmade
    refine ⟨hvars, ?_⟩
    have hdistinct : (w.handlers.map Handler.trigger).Nodup := by
      rw [htriggers]
      exact plan.isTopological.nodup.filter _
    have hhandlers : w.handlers.Nodup := List.Nodup.of_map _ hdistinct
    refine hhandlers.map_on fun h hh h' hh' hname => ?_
    exact List.inj_on_of_nodup_map hdistinct hh hh' (hapart h h' (hvars h hh) (hvars h' hh') hname)

/-- An id may be spelled like the variable that another has been given. -/
example : assignVars ["a-b", "a_b", "a_b_2"] =
    [("a-b", "step_a_b"), ("a_b", "step_a_b_2"), ("a_b_2", "step_a_b_2_2")] := by
  decide +kernel

end Flowline

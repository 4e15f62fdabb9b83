import Flowline.Handler
import Flowline.Proofs.Script.Names
import Mathlib.Data.List.Induction
import Mathlib.Data.List.Nodup
import Mathlib.Data.List.Perm.Basic
import Mathlib.Data.Nat.Notation

/-!
# Variables of steps

Every node has a variable of its own: a name that starts with `step_`, and that no other node has.  The
search for a free variable ends with one, since it looks at more candidates than there are variables.
-/

namespace Flowline

namespace Script

variable {base start name : String} {taken : List String} {vars : List (String × String)} {id : String}

/-! ## Form -/

/-- A name that begins with `start` and goes on with ASCII letters, digits and underscores. -/
def IsPlain (start name : String) : Prop :=
  ∃ rest : List Char, name = start ++ String.ofList rest ∧
    ∀ c ∈ rest, Text.isLetterOrDigit c = true ∨ c = '_'

theorem isPlain_stepVar (id : String) : IsPlain "step_" (stepVar id) := by
  refine ⟨id.toList.map fun c => if Text.isLetterOrDigit c then c else '_', rfl, fun c hc => ?_⟩
  obtain ⟨d, -, rfl⟩ := List.mem_map.mp hc
  by_cases hd : Text.isLetterOrDigit d = true
  · simp [hd]
  · simp [hd]

theorem IsPlain.numbered (h : IsPlain start name) (n : ℕ) :
    IsPlain start (name ++ "_" ++ toString n) := by
  obtain ⟨rest, rfl, hrest⟩ := h
  refine ⟨rest ++ '_' :: (toString n).toList, ?_, fun c hc => ?_⟩
  · rw [← String.toList_inj]
    simp
  · rcases List.mem_append.mp hc with hc | hc
    · exact hrest c hc
    · rcases List.mem_cons.mp hc with rfl | hc
      · exact Or.inr rfl
      · have hdigit : c.isDigit = true :=
          Nat.isDigit_of_mem_toDigits (b := 10) (n := n) (by decide) (by decide) (by simpa using hc)
        exact Or.inl (by simp [Text.isLetterOrDigit, hdigit])

theorem IsPlain.isStepName (h : IsPlain "step_" name) : IsStepName name := by
  obtain ⟨rest, rfl, hrest⟩ := h
  refine ⟨fun c hc => ?_, startsStep_append (by decide) _⟩
  rw [String.toList_append] at hc
  rcases List.mem_append.mp hc with hc | hc
  · have hstep : "step_".toList.all isNameChar = true := by decide
    exact List.all_eq_true.mp hstep c hc
  · rcases hrest c (by simpa using hc) with hc | rfl
    · simp [isNameChar, hc]
    · rfl

theorem isStepName_stepVar (id : String) : IsStepName (stepVar id) := (isPlain_stepVar id).isStepName

/-! ## Freshness -/

theorem numbered_injective {m n : ℕ} (h : base ++ "_" ++ toString m = base ++ "_" ++ toString n) :
    m = n := by
  have hdigits : Nat.toDigits 10 m = Nat.toDigits 10 n := by
    simpa using congrArg String.toList h
  calc m = Nat.ofDigitChars 10 (Nat.toDigits 10 m) 0 := by simp
    _ = n := by simp [hdigits]

theorem ne_numbered (base : String) (n : ℕ) : base ≠ base ++ "_" ++ toString n := by
  intro h
  have hlength := congrArg (fun s => s.toList.length) h
  simp only [String.toList_append, List.length_append] at hlength
  have : "_".toList.length = 1 := by decide
  omega

/-- The names that the search for a variable looks at, in turn. -/
def candidate (base : String) : ℕ → String
  | 0 => base
  | k + 1 => base ++ "_" ++ toString (k + 2)

theorem IsPlain.candidate (h : IsPlain start base) (k : ℕ) : IsPlain start (candidate base k) := by
  cases k with
  | zero => exact h
  | succ k => exact h.numbered (k + 2)

theorem candidate_injective (base : String) : Function.Injective (candidate base) := by
  intro k l h
  cases k with
  | zero =>
    cases l with
    | zero => rfl
    | succ l => exact absurd h (ne_numbered base (l + 2))
  | succ k =>
    cases l with
    | zero => exact absurd h.symm (ne_numbered base (k + 2))
    | succ l =>
      have := numbered_injective h
      omega

/-- Candidates that are passed over are different names, all of them taken. -/
theorem passed_le_length {passed : ℕ} (h : ∀ k < passed, candidate base k ∈ taken) :
    passed ≤ taken.length := by
  have hnodup : ((List.range passed).map (candidate base)).Nodup :=
    List.nodup_range.map (candidate_injective base)
  have hsub : (List.range passed).map (candidate base) ⊆ taken := by
    intro x hx
    obtain ⟨k, hk, rfl⟩ := List.mem_map.mp hx
    exact h k (List.mem_range.mp hk)
  simpa using (List.subperm_of_subset hnodup hsub).length_le

/-- A search without a bound passes over candidates that are taken and ends with the first, `v`, that is
not. -/
structure Search (base : String) (taken : List String) (passed : ℕ) (v : String) : Prop where
  eq : v = candidate base passed
  free : v ∉ taken
  passes : ∀ k < passed, candidate base k ∈ taken

/-- The search ends where one without a bound does, unless its fuel is used up before. -/
theorem exists_freshVar_eq (base : String) (taken : List String) (fuel : ℕ) :
    ∀ k, (∀ l < k, candidate base l ∈ taken) →
      ∃ passed, freshVar base taken fuel (k + 2) (candidate base k) = candidate base passed ∧
        (∀ l < passed, candidate base l ∈ taken) ∧
        (passed = k + fuel ∨ candidate base passed ∉ taken) := by
  induction fuel with
  | zero => exact fun k hk => ⟨k, rfl, hk, Or.inl rfl⟩
  | succ fuel ih =>
    intro k hk
    rw [freshVar]
    split
    · rename_i htaken
      have hnext : ∀ l < k + 1, candidate base l ∈ taken := by
        intro l hl
        rcases Nat.lt_succ_iff_lt_or_eq.mp hl with hl | rfl
        · exact hk l hl
        · simpa using htaken
      obtain ⟨passed, heq, hpasses, hend⟩ := ih (k + 1) hnext
      exact ⟨passed, heq, hpasses, hend.imp_left fun h => by omega⟩
    · rename_i hfree
      exact ⟨k, rfl, hk, Or.inr (by simpa using hfree)⟩

/-- The fuel is enough: no more candidates are taken than there are names that are. -/
theorem search_freshVar (base : String) (taken : List String) :
    ∃ passed ≤ taken.length,
      Search base taken passed (freshVar base taken (taken.length + 1) 2 base) := by
  obtain ⟨passed, heq, hpasses, hend⟩ :=
    exists_freshVar_eq base taken (taken.length + 1) 0 (fun l hl => absurd hl (Nat.not_lt_zero l))
  have hle := passed_le_length hpasses
  refine ⟨passed, hle, heq, ?_, hpasses⟩
  have hfree : candidate base passed ∉ taken := hend.resolve_left (by omega)
  exact fun hmem => hfree (heq ▸ hmem)

/-! ## Assignment -/

/-- The variables given to some ids. -/
structure Assigned (ids : List String) (vars : List (String × String)) : Prop where
  names : ∀ e ∈ vars, IsStepName e.2
  nodup : (vars.map Prod.snd).Nodup
  all : ∀ id ∈ ids, (vars.lookup id).isSome

theorem isSome_lookup_concat {e : String × String} (h : (vars.lookup id).isSome ∨ id = e.1) :
    ((vars ++ [e]).lookup id).isSome := by
  rw [List.lookup_append, Option.isSome_or, Bool.or_eq_true]
  refine h.imp_right fun heq => ?_
  simp [heq]

theorem Assigned.assignVar {ids : List String} (h : Assigned ids vars) (id : String) :
    Assigned (ids ++ [id]) (assignVar vars id) := by
  rw [Script.assignVar]
  split
  · rename_i hsome
    refine ⟨h.names, h.nodup, fun x hx => ?_⟩
    rcases List.mem_append.mp hx with hx | hx
    · exact h.all x hx
    · rwa [List.mem_singleton.mp hx]
  · obtain ⟨passed, -, hsearch⟩ := search_freshVar (stepVar id) (vars.map Prod.snd)
    refine ⟨fun e he => ?_, ?_, fun x hx => isSome_lookup_concat ?_⟩
    · rcases List.mem_append.mp he with he | he
      · exact h.names e he
      · obtain rfl := List.mem_singleton.mp he
        rw [hsearch.eq]
        exact ((isPlain_stepVar id).candidate passed).isStepName
    · rw [List.map_append, List.nodup_append]
      refine ⟨h.nodup, List.nodup_singleton _, fun a ha b hb hab => ?_⟩
      rw [hab, List.mem_singleton.mp hb] at ha
      exact hsearch.free ha
    · rcases List.mem_append.mp hx with hx | hx
      · exact Or.inl (h.all x hx)
      · exact Or.inr (List.mem_singleton.mp hx)

theorem assigned_assignVars (ids : List String) : Assigned ids (assignVars ids) := by
  induction ids using List.reverseRecOn with
  | nil => exact ⟨by simp [assignVars], by simp [assignVars], by simp⟩
  | append_singleton ids id ih =>
    rw [assignVars, List.foldl_append]
    exact ih.assignVar id

theorem mem_of_lookup {v : String} (h : vars.lookup id = some v) : (id, v) ∈ vars := by
  obtain ⟨l, l', rfl, -⟩ := List.lookup_eq_some_iff.mp h
  simp

theorem freshVar_eq_self (h : base ∉ taken) (fuel n : ℕ) : freshVar base taken fuel n base = base := by
  cases fuel with
  | zero => rfl
  | succ fuel => exact if_neg (by simpa using h)

/-- Ids whose variables do not clash all get them as they are. -/
theorem assignVars_of_nodup {ids : List String} (h : (ids.map stepVar).Nodup) :
    assignVars ids = ids.map fun id => (id, stepVar id) := by
  induction ids using List.reverseRecOn with
  | nil => rfl
  | append_singleton ids id ih =>
    rw [List.map_append, List.nodup_append] at h
    obtain ⟨hids, -, hdisjoint⟩ := h
    have hvar : stepVar id ∉ ids.map stepVar := fun hmem => hdisjoint _ hmem _ (by simp) rfl
    have hlookup : ((ids.map fun id => (id, stepVar id)).lookup id).isSome = false := by
      rw [Option.isSome_eq_false_iff, Option.isNone_iff_eq_none, List.lookup_eq_none_iff]
      rintro e he
      obtain ⟨x, hx, rfl⟩ := List.mem_map.mp he
      have hne : id ≠ x := by
        rintro rfl
        exact hvar (List.mem_map_of_mem hx)
      simpa using hne
    have htaken : (ids.map fun id => (id, stepVar id)).map Prod.snd = ids.map stepVar := by
      rw [List.map_map]
      rfl
    rw [assignVars, List.foldl_append, ← assignVars, ih hids, List.map_append]
    simp only [List.foldl_cons, List.foldl_nil, Script.assignVar, hlookup, htaken,
      freshVar_eq_self hvar, Bool.false_eq_true, if_false, List.map_cons, List.map_nil]

/-- Two ids that have one variable are one id. -/
theorem Assigned.injective {ids : List String} (h : Assigned ids vars) {a b v : String}
    (ha : vars.lookup a = some v) (hb : vars.lookup b = some v) : a = b :=
  congrArg Prod.fst
    (List.inj_on_of_nodup_map h.nodup (mem_of_lookup ha) (mem_of_lookup hb) rfl)

end Script

open Script

namespace Plan

variable (plan : Plan) {a b : String}

theorem assigned_vars : Assigned (plan.pipeline.nodes.map Node.id) plan.vars := assigned_assignVars _

/-- The variable of a step is one name, and starts as such a variable does. -/
theorem isStepName_var (id : String) : IsStepName (plan.var id) := by
  rw [Plan.var]
  cases h : plan.vars.lookup id with
  | none => exact isStepName_stepVar id
  | some v => exact plan.assigned_vars.names (id, v) (mem_of_lookup h)

/-- If the variables of the nodes do not clash, each has its own as it is. -/
theorem var_of_nodup (h : (plan.pipeline.nodes.map fun n => stepVar n.id).Nodup) :
    plan.var = stepVar := by
  funext id
  have hids : ((plan.pipeline.nodes.map Node.id).map stepVar).Nodup := by rwa [List.map_map]
  rw [Plan.var, Plan.vars, assignVars_of_nodup hids]
  cases hv : ((plan.pipeline.nodes.map Node.id).map fun id => (id, stepVar id)).lookup id with
  | none => rfl
  | some v =>
    obtain ⟨x, -, hx⟩ := List.mem_map.mp (mem_of_lookup hv)
    obtain ⟨rfl, rfl⟩ := Prod.mk.inj hx
    rfl

/-- No two nodes have one variable. -/
theorem var_injective (ha : a ∈ plan.pipeline.nodes.map Node.id)
    (hb : b ∈ plan.pipeline.nodes.map Node.id) (h : plan.var a = plan.var b) : a = b := by
  obtain ⟨v, hv⟩ := Option.isSome_iff_exists.mp (plan.assigned_vars.all a ha)
  obtain ⟨w, hw⟩ := Option.isSome_iff_exists.mp (plan.assigned_vars.all b hb)
  rw [Plan.var, Plan.var, hv, hw, Option.getD_some, Option.getD_some] at h
  exact plan.assigned_vars.injective hv (h ▸ hw)

end Plan

end Flowline

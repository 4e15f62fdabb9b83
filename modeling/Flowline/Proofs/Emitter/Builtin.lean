import Flowline.Catalog
import Flowline.Proofs.Handler.Dataflow

/-!
# The built-in emitters are scoped

Every built-in emitter puts out its own variable or a property of it, except that a condition hands its
input on to both of its branches.
-/

namespace Flowline

open Script

namespace Script

variable {v : String}

/-- The properties and items that built-in emitters put out. -/
theorem stepNames_own (h : IsStepName v) {suffix : String}
    (hs : suffix ∈ ["", ".body", ".status", "[1]", "[3]"]) : stepNames (v ++ suffix) = [v] := by
  have happend : ∀ (c : Char) (cs : List Char), isNameChar c = false →
      stepNames (String.ofList cs) = [] → stepNames (v ++ String.ofList (c :: cs)) = [v] :=
    fun c cs hc hcs => by rw [stepNames_append h hc, hcs]
  simp only [List.mem_cons, List.not_mem_nil, or_false] at hs
  rcases hs with rfl | rfl | rfl | rfl | rfl
  · rw [String.append_empty, stepNames_name h]
  · exact happend '.' "body".toList (by decide) (by decide)
  · exact happend '.' "status".toList (by decide) (by decide)
  · exact happend '[' "1]".toList (by decide) (by decide)
  · exact happend '[' "3]".toList (by decide) (by decide)

end Script

/-- An emitter is scoped if it mentions no variable but its own. -/
theorem Emitter.scoped_of_own {emit : Node → EmitInputs → Fragment}
    (houtputs : ∀ n i, IsStepName i.var → ∀ e ∈ (emit n i).outputs,
      stepNames e.2 = [i.var] ∧ (emit n i).value.isSome)
    (hcontrol : ∀ n i, (emit n i).control = []) : Emitter.Scoped fun n i => .ok (emit n i) := by
  constructor
  · rintro n i _ ⟨⟩ hvar port expr hexpr x hx
    obtain ⟨hnames, hvalue⟩ := houtputs n i hvar _ (Table.mem_of_get? hexpr)
    rw [hnames, List.mem_singleton] at hx
    exact Or.inl ⟨hx, hvalue⟩
  · rintro n i _ ⟨⟩ port g hg
    simp [hcontrol] at hg

namespace Builtin

/-- A condition puts out its own variable and its input. -/
theorem scoped_emitCondition (largest : Nat) : Emitter.Scoped fun n i => .ok (emitCondition largest n i) := by
  constructor
  · rintro n i _ ⟨⟩ hvar port expr hexpr x hx
    have hinput : x ∈ stepNames (i.port "in") →
        ∃ p e, i.ports.get? p = some e ∧ x ∈ stepNames e := by
      intro hx
      rw [EmitInputs.port, EmitInputs.portOr] at hx
      cases hport : i.ports.get? "in" with
      | none =>
        rw [hport, Option.getD_none] at hx
        simp [stepNames_undefined] at hx
      | some e => exact ⟨"in", e, hport, by rwa [hport] at hx⟩
    have hentry := Table.mem_of_get? hexpr
    simp only [emitCondition, List.mem_cons, Prod.mk.injEq, List.not_mem_nil, or_false] at hentry
    rcases hentry with ⟨-, rfl⟩ | ⟨-, rfl⟩ | ⟨-, rfl⟩
    · exact Or.inr (hinput hx)
    · rw [stepNames_name hvar, List.mem_singleton] at hx
      exact Or.inl ⟨hx, rfl⟩
    · exact Or.inr (hinput hx)
  · rintro n i _ ⟨⟩ port g hg
    have hentry := Table.mem_of_get? hg
    simp only [emitCondition, List.mem_cons, Prod.mk.injEq, List.not_mem_nil, or_false] at hentry
    rcases hentry with ⟨-, rfl⟩ | ⟨-, rfl⟩
    · exact ⟨rfl, rfl⟩
    · exact ⟨rfl, rfl⟩

theorem scoped_of_mem_emitters (largest : Nat) : ∀ e ∈ emittersFor largest, Emitter.Scoped e.2 := by
  have hown : ∀ i : EmitInputs, IsStepName i.var → ∀ suffix ∈ ["", ".body", ".status", "[1]", "[3]"],
      stepNames (i.var ++ suffix) = [i.var] := fun i hi suffix => stepNames_own hi
  have hvar : ∀ i : EmitInputs, IsStepName i.var → stepNames i.var = [i.var] :=
    fun i hi => stepNames_name hi
  simp only [emittersFor, List.map_cons, List.map_nil, List.forall_mem_cons]
  refine ⟨?_, scoped_emitCondition largest, ?_, ?_, ?_, ?_, ?_, ?_, ?_, ?_, ?_, ?_, ?_, ?_, by simp⟩
  all_goals
    refine Emitter.scoped_of_own (fun n i hi => ?_) fun _ _ => rfl
    simp [emitChainSelector, emitCronTrigger, emitDataTransform, emitErc20Token, emitEvmLogTrigger,
      emitEvmRead, emitEvmWrite, emitGetSecret, emitHttpFetch, emitHttpTrigger, emitJsonParse,
      emitLog, emitPriceFeedConsumer, hvar i hi, hown i hi]

end Builtin

theorem Catalog.scoped_builtin : Catalog.builtin.Scoped where
  emitters _ _ h := Builtin.scoped_of_mem_emitters _ _ (Table.mem_of_get? h)
  bindings kind schema h := by
    have hmem : schema ∈ Builtin.kinds := by
      obtain ⟨s, hs, heq⟩ := List.mem_map.mp (Table.mem_of_get? h)
      obtain ⟨-, rfl⟩ := Prod.mk.inj heq
      exact hs
    exact (by decide : ∀ s ∈ Builtin.kinds, (s.bindings.map BindingSpec.name).Nodup) schema hmem

end Flowline

import Flowline.Proofs.Compile.Progress

/-!
# Validation makes compilation safe

The built-in catalog is complete, and with a complete catalog the only way in which the compilation of a
pipeline without errors fails is that the pipeline is blocked.
-/

namespace Flowline

namespace Builtin

/-- An emitter that succeeds puts out what a schema declares. -/
theorem complete_of_outputs {emit : Node → EmitInputs → Fragment} {s : KindSchema}
    (houtputs : ∀ n i, s.outputs.all (fun port => (emit n i).outputs.has port.name) = true)
    (htrigger : ∀ n i, s.category = .trigger → (emit n i).trigger.isSome) (n : Node)
    (i : EmitInputs) :
    ∃ f, (Except.ok (emit n i) : Except CompileError Fragment) = .ok f ∧
      (∀ port ∈ s.outputs, (f.outputs.get? port.name).isSome) ∧
      (s.category = .trigger → f.trigger.isSome) :=
  ⟨_, rfl, fun port hport => List.all_eq_true.mp (houtputs n i) port hport, htrigger n i⟩

theorem exists_emitter : ∀ s ∈ kinds, ∃ emit, emitters.get? s.kind = some emit ∧
    ∀ n i, ∃ f, emit n i = .ok f ∧ (∀ port ∈ s.outputs, (f.outputs.get? port.name).isSome) ∧
      (s.category = .trigger → f.trigger.isSome) := by
  simp only [kinds, List.forall_mem_cons]
  refine ⟨?_, ?_, ?_, ?_, ?_, ?_, ?_, ?_, ?_, ?_, ?_, ?_, ?_, ?_, by simp⟩
  all_goals
    refine ⟨_, rfl, complete_of_outputs (fun _ _ => rfl) fun _ _ hcat => ?_⟩
    first | rfl | cases hcat

end Builtin

namespace Catalog

/-- The built-in kinds have emitters that put out what their schemas declare. -/
theorem complete_builtin : builtin.Complete := by
  intro kind s h
  obtain ⟨s, hs, heq⟩ := List.mem_map.mp (Table.mem_of_get? h)
  obtain ⟨rfl, rfl⟩ := Prod.mk.inj heq
  obtain ⟨emit, hemit, hf⟩ := Builtin.exists_emitter s hs
  exact ⟨emit, hemit, fun n i _ => hf n i⟩

/-- With a complete catalog, and the built-in one is such, a pipeline without errors compiles exactly
if it is not blocked, and what blocks it is the only error there is. -/
theorem compile_of_isCompilable :
    builtin.Complete ∧ ∀ (c : Catalog) (r : Resources) (p : Pipeline), c.Complete →
      Diagnostic.isCompilable (p.validate c.schemas) = true →
        (∀ e, c.compile r p = .error e → p.IsBlockage c.schemas r e) ∧
        ((∃ id label detail, c.compile r p = .error (.unresolvedBinding id label detail)) ↔
          p.Blocked c.schemas r) ∧
        ((∃ compiled, c.compile r p = .ok compiled) ↔ ¬ p.Blocked c.schemas r) := by
  refine ⟨complete_builtin, fun c r p hc hvalid => ?_⟩
  have hwf := Pipeline.wellFormed_of_isCompilable hvalid
  rcases compile_progress (r := r) hc hwf with ⟨⟨compiled, hcompiled⟩, hnot⟩ | ⟨e, he, hblock⟩
  · rw [hcompiled]
    refine ⟨fun e he => (by cases he), ⟨?_, fun hblocked => absurd hblocked hnot⟩, ?_⟩
    · rintro ⟨_, _, _, h⟩
      cases h
    · exact ⟨fun _ => hnot, fun _ => ⟨compiled, rfl⟩⟩
  · obtain ⟨n, spec, detail, hblocks, rfl⟩ := hblock
    rw [he]
    refine ⟨?_, ⟨fun _ => ⟨n, spec, hblocks⟩, fun _ => ⟨_, _, _, rfl⟩⟩, ?_⟩
    · rintro _ ⟨⟩
      exact ⟨n, spec, detail, hblocks, rfl⟩
    · constructor
      · rintro ⟨_, h⟩
        cases h
      · exact fun hnot => absurd ⟨n, spec, hblocks⟩ hnot

/-- A request is answered by another one, which needs a secret, and what comes back is noted. -/
def authorized : Pipeline where
  id := "authorized"
  name := "Authorized"
  version := 1
  nodes := [
    ⟨"hook", .trigger, "http-trigger", [("method", .string "POST")], .ready, none⟩,
    ⟨"ask", .capability, "http-fetch", [("authSecret", .string "token"), ("method", .string "GET"),
      ("url", .string "https://example.com")], .ready, none⟩,
    ⟨"note", .logic, "log", [("message", .string "answer")], .ready, none⟩]
  edges := [⟨none, "hook", "payload", "ask", "in"⟩, ⟨none, "ask", "body", "note", "in"⟩]

/-- Whether the pipeline is blocked depends on the secret. -/
theorem authorized_blocked_iff :
    Diagnostic.isCompilable (authorized.validate Builtin.schemas) = true ∧
      authorized.Blocked Builtin.schemas ⟨Secrets.declared [], Chains.standard⟩ ∧
      ¬ authorized.Blocked Builtin.schemas ⟨Secrets.declared ["token"], Chains.standard⟩ := by
  have hvalid : Diagnostic.isCompilable (authorized.validate Builtin.schemas) = true := by
    decide +kernel
  have hresult := fun r => compile_of_isCompilable.2 builtin r authorized complete_builtin hvalid
  refine ⟨hvalid, ?_, (hresult _).2.2.mp ?_⟩
  · have hfails : (builtin.compile ⟨Secrets.declared [], Chains.standard⟩ authorized).isOk =
        false := by decide +kernel
    cases h : builtin.compile ⟨Secrets.declared [], Chains.standard⟩ authorized with
    | error e =>
      obtain ⟨n, spec, -, hblocks, -⟩ := (hresult _).1 e h
      exact ⟨n, spec, hblocks⟩
    | ok compiled => simp [h, Except.isOk, Except.toBool] at hfails
  · have hsucceeds : (builtin.compile ⟨Secrets.declared ["token"], Chains.standard⟩
        authorized).isOk = true := by decide +kernel
    cases h : builtin.compile ⟨Secrets.declared ["token"], Chains.standard⟩ authorized with
    | error e => simp [h, Except.isOk, Except.toBool] at hsucceeds
    | ok compiled => exact ⟨compiled, rfl⟩

end Catalog

end Flowline

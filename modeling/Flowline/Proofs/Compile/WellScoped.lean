import Flowline.Compile
import Flowline.Proofs.Emitter.Builtin

/-!
# Scripts compute values before they read them

Every handler of a script that is made with the built-in kinds is well-scoped.
-/

namespace Flowline

open Script

/-- The lines of a handler are among those of its script. -/
theorem Workflow.lines_infix (w : Workflow) {handler : Handler} (h : handler ∈ w.handlers) :
    handler.lines <:+: w.lines := by
  obtain ⟨before, after, heq⟩ := List.append_of_mem h
  have hhandlers : handler.lines <:+: w.handlers.flatMap fun h => h.lines ++ [.blank] := by
    rw [heq]
    refine ⟨before.flatMap fun h => h.lines ++ [.blank],
      .blank :: after.flatMap fun h => h.lines ++ [.blank], ?_⟩
    simp
  rw [lines, List.append_assoc _ _ mainLines, List.append_assoc _ (initLines w.handlers)]
  exact hhandlers.trans (List.infix_append _ _ _)

namespace Catalog

variable {c : Catalog} {r : Resources} {p : Pipeline} {w : Workflow} {compiled : Compiled}

theorem workflow_of_compile (h : c.compile r p = .ok compiled) :
    ∃ w, c.workflow r p = .ok w ∧ compiled.code = renderLines w.lines := by
  rw [compile, bind_eq_ok_iff] at h
  obtain ⟨w, hw, h⟩ := h
  simp only [pure, Except.pure, Except.ok.injEq] at h
  subst h
  refine ⟨w, hw, ?_⟩
  dsimp only

/-- A workflow is that of a plan of the pipeline. -/
theorem plan_of_workflow (h : c.workflow r p = .ok w) :
    ∃ plan : Plan, plan.pipeline = p ∧ plan.catalog = c ∧ plan.resources = r ∧
      plan.workflow = .ok w := by
  rw [workflow] at h
  split at h
  · cases h
  · exact ⟨_, rfl, rfl, rfl, h⟩

theorem wellScoped_of_workflow (hc : c.Scoped) (h : c.workflow r p = .ok w) :
    ∀ handler ∈ w.handlers, handler.WellScoped c.schemas p := by
  obtain ⟨plan, rfl, rfl, rfl, hw⟩ := plan_of_workflow h
  obtain ⟨htriggers, hhandlers⟩ := Plan.handlers_of_workflow hw
  intro handler hhandler
  obtain ⟨warnings, hmade⟩ := hhandlers handler hhandler
  exact Plan.wellScoped_handler hc (htriggers ▸ List.mem_map_of_mem hhandler) hmade

theorem trigger_mem_of_workflow (h : c.workflow r p = .ok w) (t : String) :
    t ∈ w.handlers.map Handler.trigger ↔
      t ∈ p.nodes.map Node.id ∧ p.isTrigger t = true := by
  obtain ⟨plan, rfl, rfl, rfl, hw⟩ := plan_of_workflow h
  rw [(Plan.handlers_of_workflow hw).1, plan.mem_triggers]

/-- The handlers of a script of built-in kinds, one for each trigger, read nothing that they have not
computed. -/
theorem wellScoped_of_compile (h : builtin.compile r p = .ok compiled) :
    ∃ w, builtin.workflow r p = .ok w ∧ compiled.code = renderLines w.lines ∧
      (∀ t, t ∈ w.handlers.map Handler.trigger ↔
        t ∈ p.nodes.map Node.id ∧ p.isTrigger t = true) ∧
      ∀ handler ∈ w.handlers,
        handler.lines <:+: w.lines ∧ handler.WellScoped Builtin.schemas p := by
  obtain ⟨w, hw, hcode⟩ := workflow_of_compile h
  refine ⟨w, hw, hcode, trigger_mem_of_workflow hw, fun handler hhandler => ⟨?_, ?_⟩⟩
  · exact w.lines_infix hhandler
  · exact wellScoped_of_workflow scoped_builtin hw handler hhandler

/-- A request is checked, and noted on one of the two branches. -/
def branching : Pipeline where
  id := "branching"
  name := "Branching"
  version := 1
  nodes := [
    ⟨"hook", .trigger, "http-trigger", [("method", .string "POST")], .ready, none⟩,
    ⟨"check", .logic, "condition", [("operator", .string "exists")], .ready, none⟩,
    ⟨"note", .logic, "log", [("message", .string "seen")], .ready, none⟩]
  edges := [⟨none, "hook", "payload", "check", "in"⟩, ⟨none, "check", "true", "note", "in"⟩]

theorem branching_wellScoped :
    ∃ compiled w, builtin.compile ⟨Secrets.declared [], Chains.standard⟩ branching = .ok compiled ∧
      builtin.workflow ⟨Secrets.declared [], Chains.standard⟩ branching = .ok w ∧
      compiled.code = renderLines w.lines ∧ ∃ handler ∈ w.handlers,
        handler.steps.map (fun s => (s.node.id, s.guards.map Guard.render)) =
          [("hook", []), ("check", []), ("note", ["step_check"])] ∧
        handler.WellScoped Builtin.schemas branching := by
  have hsteps : ((builtin.workflow ⟨Secrets.declared [], Chains.standard⟩ branching).toOption.map
      fun w => w.handlers.map fun h => h.steps.map fun s => (s.node.id, s.guards.map Guard.render)) =
      some [[("hook", []), ("check", []), ("note", ["step_check"])]] := by decide +kernel
  cases hw : builtin.workflow ⟨Secrets.declared [], Chains.standard⟩ branching with
  | error e => simp [hw, Except.toOption] at hsteps
  | ok w =>
    obtain ⟨compiled, hcompiled⟩ : ∃ compiled,
        builtin.compile ⟨Secrets.declared [], Chains.standard⟩ branching = .ok compiled := by
      rw [compile, hw]
      exact ⟨_, rfl⟩
    obtain ⟨w', hw', hcode, -, hall⟩ := wellScoped_of_compile hcompiled
    obtain rfl := Except.ok.inj (hw.symm.trans hw')
    rw [hw] at hsteps
    simp only [Except.toOption, Option.map_some, Option.some.injEq] at hsteps
    obtain ⟨handler, hhandler, heq⟩ := List.mem_map.mp
      (hsteps ▸ List.mem_singleton.mpr rfl : _ ∈ w.handlers.map fun h => h.steps.map fun s =>
        (s.node.id, s.guards.map Guard.render))
    exact ⟨compiled, w, hcompiled, rfl, hcode, handler, hhandler, heq, (hall handler hhandler).2⟩

end Catalog

end Flowline

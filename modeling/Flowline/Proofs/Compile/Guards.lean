import Flowline.Proofs.Compile.Comments
import Flowline.Proofs.Handler.Warnings

/-!
# Guards and what they rule out

The guard of a step is gathered link by link on the way through a handler.  In the end it has the
conditions of all control ports that lead to the step, directly or through other steps.  Such a guard can
hold unless some variable is wanted both true and false, and of exactly these steps there is a warning.
-/

namespace Flowline

open Relation Script

/-- A condition comes in at a control port that feeds a step, or one from which edges lead to it. -/
def Controls (p : Pipeline) (steps : List Step) (s : Step) (g : Guard) : Prop :=
  ∃ e ∈ p.edges, ∃ a ∈ steps, ∃ b ∈ steps, e.source = a.node.id ∧ e.target = b.node.id ∧
    a.fragment.control.get? e.sourcePort = some g ∧ ReflTransGen (Feeds p steps) b s

/-- A handler with one step for every member of its trigger's scope, each under the conditions that control
it and no others. -/
structure Handler.Guarded (p : Pipeline) (h : Handler) : Prop where
  trigger : p.isTrigger h.trigger = true
  ids_nodup : (h.steps.map fun s => s.node.id).Nodup
  mem_iff : ∀ id, (id ∈ h.steps.map fun s => s.node.id) ↔
    id ∈ (Graph.ofPipeline p).scope p.isTrigger h.trigger
  guards : ∀ s ∈ h.steps, ∀ g, g ∈ s.guards ↔ Controls p h.steps s g

/-! ## Conditions that exclude each other -/

/-- A guard cannot hold exactly if some variable is wanted both true and false. -/
theorem Guard.contradictory_iff {guards : List Guard} :
    Guard.contradictory guards = true ↔ ∀ σ, ¬ ∀ g ∈ guards, g.Holds σ := by
  unfold Guard.contradictory
  simp only [List.any_eq_true, Bool.and_eq_true, Bool.not_eq_true', List.contains_iff_mem]
  constructor
  · rintro ⟨⟨x, _⟩, hg, rfl, hx⟩ σ hall
    have htrue : σ x = true := hall _ hg
    have hfalse : σ x = false := hall _ hx
    rw [htrue] at hfalse
    cases hfalse
  · intro hnever
    by_contra hnone
    -- let exactly those variables be true of which this is wanted
    refine hnever (fun x => guards.contains ⟨x, false⟩) fun g hg => ?_
    obtain ⟨x, negated⟩ := g
    cases negated with
    | false => simpa [Guard.Holds] using hg
    | true =>
      have hplain : (⟨x, false⟩ : Guard) ∉ guards := fun h => hnone ⟨⟨x, false⟩, h, rfl, hg⟩
      simpa [Guard.Holds] using hplain

/-! ## Where conditions come from -/

namespace Plan

variable {plan : Plan} {critical members : Ids} {steps : List Step} {s : Step} {g : Guard}

namespace MadeOf

theorem guard_of_controls (hm : plan.MadeOf critical members (plan.memberNodes members) steps)
    (h : Controls plan.pipeline steps s g) : g ∈ s.guards := by
  obtain ⟨e, he, a, ha, b, hb, hsource, htarget, hg, hpath⟩ := h
  have hedge := hm.mem_edges ha hb he hsource htarget
  have hgb : g ∈ b.guards := (hm.guards_of_edge ha hb hedge hsource htarget).2 g hg
  rcases reflTransGen_iff_eq_or_transGen.mp hpath with rfl | hpath
  · exact hgb
  · exact hm.guards_subset hpath hgb

/-- Every condition of a guard has come in somewhere, step by step in their order. -/
theorem controls_of_guard (hm : plan.MadeOf critical members (plan.memberNodes members) steps) :
    ∀ s ∈ steps, ∀ g ∈ s.guards, Controls plan.pipeline steps s g := by
  refine forall_mem_of_before fun before s after heq hbefore g hg => ?_
  obtain ⟨l, hl, -, a, hstep, hguard⟩ := ((hm.made before s after heq).fed.guards g).mp hg
  obtain ⟨hmem, hfeeds⟩ := feeds_of_link heq hl hstep
  rcases hguard with hguard | hguard
  · -- the step before this one has the condition already
    obtain ⟨e, he, x, hx, y, hy, hsource, htarget, hcontrol, hpath⟩ := hbefore a hmem g hguard
    exact ⟨e, he, x, hx, y, hy, hsource, htarget, hcontrol, hpath.tail hfeeds⟩
  · obtain ⟨e, he, htarget, rfl⟩ := Graph.mem_incoming.mp hl
    rw [plan.graph_eq] at he
    exact ⟨e, (Graph.mem_edges_ofPipeline.mp he).1, a, hfeeds.1, s, hfeeds.2.1,
      (stepOf?_eq_some hstep).2.symm, htarget, hguard, .refl⟩

end MadeOf

theorem guarded_handler {h : Handler} {t : String} {warnings : List Diagnostic}
    (ht : t ∈ plan.triggers) (hh : plan.handler critical t = .ok (h, warnings)) :
    h.Guarded plan.pipeline := by
  obtain ⟨rfl, hm⟩ := madeOf_handler hh
  refine ⟨(plan.mem_triggers.mp ht).2, hm.ids_nodup, fun _ => hm.mem_ids_iff, fun s hs g => ?_⟩
  exact ⟨hm.controls_of_guard s hs g, hm.guard_of_controls⟩

/-- The nodes that are warned of as never running are those of the steps whose guard cannot hold. -/
theorem exists_contradictory_iff {w : Workflow} {id : String} (h : plan.workflow = .ok w) :
    (∃ d ∈ w.warnings, d.code = .contradictoryGuard ∧ d.node = some id) ↔
      ∃ handler ∈ w.handlers, ∃ s ∈ handler.steps, s.node.id = id ∧ ∀ σ, ¬ s.Runs σ := by
  constructor
  · rintro ⟨d, hd, hcode, hnode⟩
    obtain ⟨handler, hhandler, s, hs, hraised⟩ := (mem_warnings_iff h).mp hd
    obtain ⟨hcontradictory, rfl⟩ := mem_raised_of_never.mp ⟨hraised, hcode⟩
    exact ⟨handler, hhandler, s, hs, Option.some.inj hnode,
      Guard.contradictory_iff.mp hcontradictory⟩
  · rintro ⟨handler, hhandler, s, hs, rfl, hnever⟩
    obtain ⟨hraised, hcode⟩ := mem_raised_of_never.mpr ⟨Guard.contradictory_iff.mpr hnever, rfl⟩
    exact ⟨_, (mem_warnings_iff h).mpr ⟨handler, hhandler, s, hs, hraised⟩, hcode, rfl⟩

end Plan

namespace Catalog

variable {c : Catalog} {r : Resources} {p : Pipeline} {w : Workflow} {compiled : Compiled}

theorem warnings_of_compile (h : c.compile r p = .ok compiled) (hw : c.workflow r p = .ok w) :
    compiled.warnings = w.warnings := by
  rw [compile, hw] at h
  obtain rfl := (Except.ok.inj h).symm
  rfl

/-- The steps of a script run under the conditions that control them, and what they do is written inside
these.  A node is warned of as never running exactly if in some handler no values of the variables let its
step run. -/
theorem guarded_of_compile (h : c.compile r p = .ok compiled) :
    ∃ w, c.workflow r p = .ok w ∧ compiled.code = renderLines w.lines ∧
      (∀ handler ∈ w.handlers, handler.Guarded p ∧ handler.WrittenIn w.lines ∧
        ∀ s ∈ handler.steps, s.Conditioned) ∧
      ∀ id, (∃ d ∈ compiled.warnings, d.code = .contradictoryGuard ∧ d.node = some id) ↔
        ∃ handler ∈ w.handlers, ∃ s ∈ handler.steps, s.node.id = id ∧ ∀ σ, ¬ s.Runs σ := by
  obtain ⟨w, hw, hcode⟩ := workflow_of_compile h
  refine ⟨w, hw, hcode, ?_, ?_⟩
  · obtain ⟨plan, rfl, rfl, rfl, hplan⟩ := plan_of_workflow hw
    obtain ⟨htriggers, hhandlers⟩ := Plan.handlers_of_workflow hplan
    intro handler hhandler
    obtain ⟨warnings, hmade⟩ := hhandlers handler hhandler
    exact ⟨Plan.guarded_handler (htriggers ▸ List.mem_map_of_mem hhandler) hmade,
      w.writtenIn_lines hhandler, fun s _ => s.conditioned⟩
  · rw [warnings_of_compile h hw]
    obtain ⟨plan, rfl, rfl, rfl, hplan⟩ := plan_of_workflow hw
    exact fun id => Plan.exists_contradictory_iff hplan

/-- Both branches of a check come together in a request, which is noted; on one branch there is a second
check. -/
def merging : Pipeline where
  id := "merging"
  name := "Merging"
  version := 1
  nodes := [
    ⟨"hook", .trigger, "http-trigger", [("method", .string "POST")], .ready, none⟩,
    ⟨"check", .logic, "condition", [("operator", .string "exists")], .ready, none⟩,
    ⟨"again", .logic, "condition", [("operator", .string "exists")], .ready, none⟩,
    ⟨"echo", .logic, "data-transform", [("expression", .string "input")], .ready, none⟩,
    ⟨"send", .capability, "http-fetch",
      [("method", .string "POST"), ("url", .string "https://example.com")], .ready, none⟩,
    ⟨"note", .logic, "log", [("message", .string "sent")], .ready, none⟩]
  edges := [
    ⟨none, "hook", "payload", "check", "in"⟩, ⟨none, "check", "true", "again", "in"⟩,
    ⟨none, "again", "true", "send", "in"⟩, ⟨none, "check", "false", "echo", "in"⟩,
    ⟨none, "echo", "value", "send", "body"⟩, ⟨none, "send", "status", "note", "in"⟩]

theorem merging_never_runs :
    ∃ compiled w, builtin.compile ⟨Secrets.declared [], Chains.standard⟩ merging = .ok compiled ∧
      builtin.workflow ⟨Secrets.declared [], Chains.standard⟩ merging = .ok w ∧
      (w.handlers.map fun h => h.steps.map fun s => (s.node.id, s.guards.map Guard.render)) =
        [[("hook", []), ("check", []), ("again", ["step_check"]), ("echo", ["!step_check"]),
          ("send", ["step_again", "step_check", "!step_check"]),
          ("note", ["step_again", "step_check", "!step_check"])]] ∧
      (∀ handler ∈ w.handlers, handler.Guarded merging ∧ handler.WrittenIn w.lines ∧
        ∀ s ∈ handler.steps, s.Conditioned) ∧
      ∀ id, id ∈ ["send", "note"] ↔
        ∃ handler ∈ w.handlers, ∃ s ∈ handler.steps, s.node.id = id ∧ ∀ σ, ¬ s.Runs σ := by
  obtain ⟨compiled, hcompile⟩ := isOk_iff.mp
    (by decide +kernel : (builtin.compile ⟨Secrets.declared [], Chains.standard⟩ merging).isOk)
  obtain ⟨w, hw, -, hguarded, hnever⟩ := guarded_of_compile hcompile
  have hmade : ((builtin.workflow ⟨Secrets.declared [], Chains.standard⟩ merging).toOption.map
      fun w => (w.handlers.map fun h => h.steps.map fun s => (s.node.id, s.guards.map Guard.render),
        w.warnings.map fun d => (d.code, d.node))) =
      some ([[("hook", []), ("check", []), ("again", ["step_check"]), ("echo", ["!step_check"]),
          ("send", ["step_again", "step_check", "!step_check"]),
          ("note", ["step_again", "step_check", "!step_check"])]],
        [(.contradictoryGuard, some "send"), (.contradictoryGuard, some "note")]) := by
    decide +kernel
  rw [hw] at hmade
  obtain ⟨hsteps, hwarnings⟩ := Prod.mk.inj (Option.some.inj hmade)
  refine ⟨compiled, w, hcompile, hw, hsteps, hguarded, fun id => ?_⟩
  rw [← hnever id, warnings_of_compile hcompile hw]
  have hmem : (∃ d ∈ w.warnings, d.code = .contradictoryGuard ∧ d.node = some id) ↔
      (.contradictoryGuard, some id) ∈ w.warnings.map fun d => (d.code, d.node) := by
    simp
  rw [hmem, hwarnings]
  simp

end Catalog

end Flowline

import Flowline.Proofs.Compile.Comments
import Flowline.Proofs.Compile.Progress
import Flowline.Proofs.Validation.Unreachable

/-!
# Validation and compilation agree on what runs

Validation finds the nodes that run for no trigger component by component, from the scopes of the declared
triggers; compilation makes handlers trigger by trigger, in the order of the nodes.  The nodes without a
step in any handler are those of the warnings.
-/

namespace Flowline

open Script

namespace Plan

variable {plan : Plan} {w : Workflow} {id : String}

/-- The steps of the handlers are the members of the triggers' scopes. -/
theorem exists_step_iff (h : plan.workflow = .ok w) :
    (∃ handler ∈ w.handlers, id ∈ handler.steps.map fun s => s.node.id) ↔
      ∃ t ∈ plan.triggers, id ∈ plan.members t := by
  obtain ⟨htriggers, hhandlers⟩ := handlers_of_workflow h
  have hsteps : ∀ handler ∈ w.handlers,
      (id ∈ handler.steps.map fun s => s.node.id) ↔ id ∈ plan.members handler.trigger := by
    intro handler hhandler
    obtain ⟨warnings, hmade⟩ := hhandlers handler hhandler
    obtain ⟨-, hm⟩ := madeOf_handler hmade
    rw [hm.mem_ids_iff, members, plan.graph_eq]
  rw [← htriggers]
  constructor
  · rintro ⟨handler, hhandler, hid⟩
    exact ⟨handler.trigger, List.mem_map_of_mem hhandler, (hsteps handler hhandler).mp hid⟩
  · rintro ⟨t, ht, hid⟩
    obtain ⟨handler, hhandler, rfl⟩ := List.mem_map.mp ht
    exact ⟨handler, hhandler, (hsteps handler hhandler).mpr hid⟩

section WellFormed

variable (hwf : plan.pipeline.WellFormed plan.catalog.schemas)
include hwf

theorem mem_covered_iff :
    id ∈ Validation.covered plan.pipeline (Graph.ofPipeline plan.pipeline) ↔
      ∃ t ∈ plan.triggers, id ∈ plan.members t := by
  rw [Validation.mem_covered]
  unfold members
  rw [plan.graph_eq]
  constructor
  · rintro ⟨n, hn, hcat, hid⟩
    exact ⟨n.id, (mem_triggers_of_wellFormed hwf).mpr ⟨n, hn, rfl, hcat⟩, hid⟩
  · rintro ⟨t, ht, hid⟩
    obtain ⟨n, hn, rfl, hcat⟩ := (mem_triggers_of_wellFormed hwf).mp ht
    exact ⟨n, hn, hcat, hid⟩

/-- An effect is reached exactly if some node is critical. -/
theorem hasEffect_eq_false_iff :
    Validation.hasEffect plan.catalog.schemas plan.pipeline (Graph.ofPipeline plan.pipeline) = false ↔
      plan.critical = [] := by
  have hreached : ∀ t m : Node, t ∈ plan.pipeline.nodes →
      (m.id ∈ (Graph.ofPipeline plan.pipeline).reachable t.id ↔
        Relation.ReflTransGen plan.pipeline.Adj t.id m.id) := by
    intro t m ht
    rw [Graph.mem_reachable, Graph.mem_ids_ofPipeline, ← path_of_wellFormed hwf, plan.graph_eq,
      and_iff_right (List.mem_map_of_mem ht)]
  rw [← Bool.not_eq_true, List.eq_nil_iff_forall_not_mem, not_iff_comm, not_forall]
  simp only [not_not, mem_critical_of_wellFormed hwf]
  unfold Validation.hasEffect Pipeline.triggers
  simp only [List.any_eq_true, Bool.and_eq_true, List.contains_iff_mem, List.mem_flatMap,
    List.mem_filter, Node.isTrigger, decide_eq_true_eq]
  constructor
  · rintro ⟨id, t, ht, hcat, m, hm, heffect, hfrom, hto⟩
    exact ⟨m, hm, ⟨t, ⟨ht, hcat⟩, (hreached t m ht).mpr (hfrom.trans hto)⟩, heffect⟩
  · rintro ⟨m, hm, ⟨t, ⟨ht, hcat⟩, hpath⟩, heffect⟩
    have hpath := (hreached t m ht).mp hpath
    exact ⟨m.id, t, ht, hcat, m, hm, heffect, hpath, Relation.ReflTransGen.refl⟩

theorem reportsIdle_validate (h : plan.workflow = .ok w) :
    plan.pipeline.ReportsIdle
      (fun id => id ∈ plan.pipeline.nodes.map Node.id ∧
        ∀ handler ∈ w.handlers, id ∉ handler.steps.map fun s => s.node.id)
      ((plan.pipeline.validate plan.catalog.schemas).filter (·.code = .unreachableSubgraph)) := by
  have hidle : (fun id => id ∈ plan.pipeline.nodes.map Node.id ∧
        ∀ handler ∈ w.handlers, id ∉ handler.steps.map fun s => s.node.id) =
      fun id => id ∈ (Graph.ofPipeline plan.pipeline).ids ∧
        id ∉ Validation.covered plan.pipeline (Graph.ofPipeline plan.pipeline) := by
    funext id
    refine propext ?_
    rw [Graph.mem_ids_ofPipeline, mem_covered_iff hwf, ← exists_step_iff h]
    simp only [not_exists, not_and]
  rw [Validation.filter_unreachableSubgraph hwf, hidle]
  exact Validation.reportsIdle_unreachable (Pipeline.adj_ofPipeline_iff hwf.declared)

end WellFormed

end Plan

namespace Catalog

variable {c : Catalog} {r : Resources} {p : Pipeline} {compiled : Compiled}

/-- Of a pipeline that is valid and compiles, the nodes that validation warns of as running for no trigger
are those without a step in any handler, and it misses an effect exactly if no node is critical.  The steps
stand in the script, each behind a comment that names its node, and no other node is named in a comment. -/
theorem idle_iff_of_compile (hvalid : Diagnostic.isCompilable (p.validate c.schemas) = true)
    (hcompile : c.compile r p = .ok compiled) :
    ∃ (plan : Plan) (w : Workflow), plan.pipeline = p ∧ plan.catalog = c ∧ plan.resources = r ∧
      plan.workflow = .ok w ∧ c.workflow r p = .ok w ∧ compiled.code = renderLines w.lines ∧
      (comments w.lines = header w.pipeline w.version ::
        w.handlers.flatMap fun h => (h.steps.zipIdx 1).map fun (s, i) => (s.comment i).deeper) ∧
      (∀ handler ∈ w.handlers, handler.WrittenIn w.lines) ∧
      p.ReportsIdle
        (fun id => id ∈ p.nodes.map Node.id ∧
          ∀ handler ∈ w.handlers, id ∉ handler.steps.map fun s => s.node.id)
        ((p.validate c.schemas).filter (·.code = .unreachableSubgraph)) ∧
      ((∃ d ∈ p.validate c.schemas, d.code = .noEffectReachable) ↔ plan.critical = []) := by
  have hwf : p.WellFormed c.schemas := Pipeline.wellFormed_of_isCompilable hvalid
  obtain ⟨w, hw, hcode⟩ := workflow_of_compile hcompile
  obtain ⟨plan, rfl, rfl, rfl, hplan⟩ := plan_of_workflow hw
  refine ⟨plan, w, rfl, rfl, rfl, hplan, hw, hcode, w.comments_lines,
    fun _ hhandler => w.writtenIn_lines hhandler, ?_, ?_⟩
  · exact Plan.reportsIdle_validate hwf hplan
  · rw [Validation.exists_noEffectReachable_iff hwf]
    exact Plan.hasEffect_eq_false_iff hwf

/-- A token feeds a reading that is noted and one for which nothing asks; some steps are joined to
neither. -/
def partlyIdle : Pipeline where
  id := "partly-idle"
  name := "Partly idle"
  version := 1
  nodes := [
    ⟨"hook", .trigger, "http-trigger", [("method", .string "POST")], .ready, none⟩,
    ⟨"token", .contract, "erc20-token",
      [("address", .string "0x1111111111111111111111111111111111111111")], .ready, none⟩,
    ⟨"read", .capability, "evm-read",
      [("chainName", .string "ethereum-mainnet"), ("functionName", .string "symbol")], .ready, none⟩,
    ⟨"unread", .capability, "evm-read",
      [("chainName", .string "ethereum-mainnet"), ("functionName", .string "name")], .ready, none⟩,
    ⟨"note", .logic, "log", [("message", .string "symbol")], .ready, none⟩,
    ⟨"parse", .logic, "json-parse", [], .ready, none⟩,
    ⟨"echo", .logic, "log", [("message", .string "echo")], .ready, none⟩]
  edges := [
    ⟨none, "hook", "payload", "read", "in"⟩, ⟨none, "token", "contract", "read", "contract"⟩,
    ⟨none, "token", "contract", "unread", "contract"⟩, ⟨none, "read", "result", "note", "in"⟩,
    ⟨none, "parse", "value", "echo", "in"⟩]

theorem partlyIdle_reported :
    ∃ (compiled : Compiled) (w : Workflow),
      builtin.compile ⟨Secrets.declared [], Chains.standard⟩ partlyIdle = .ok compiled ∧
      compiled.code = renderLines w.lines ∧ (∀ handler ∈ w.handlers, handler.WrittenIn w.lines) ∧
      (((partlyIdle.validate builtin.schemas).filter (·.code = .unreachableSubgraph)).map
        Diagnostic.nodes) = [["echo", "parse"], ["unread"]] ∧
      ∀ id, id ∈ ["echo", "parse", "unread"] ↔ id ∈ partlyIdle.nodes.map Node.id ∧
        ∀ handler ∈ w.handlers, id ∉ handler.steps.map fun s => s.node.id := by
  have hvalid : Diagnostic.isCompilable (partlyIdle.validate builtin.schemas) = true := by
    decide +kernel
  obtain ⟨compiled, hcompile⟩ := isOk_iff.mp
    (by decide +kernel : (builtin.compile ⟨Secrets.declared [], Chains.standard⟩ partlyIdle).isOk)
  have hnodes : (((partlyIdle.validate builtin.schemas).filter
      (·.code = .unreachableSubgraph)).map Diagnostic.nodes) = [["echo", "parse"], ["unread"]] := by
    decide +kernel
  obtain ⟨plan, w, -, -, -, -, -, hcode, -, hwritten, hreports, -⟩ := idle_iff_of_compile hvalid hcompile
  refine ⟨compiled, w, hcompile, hcode, hwritten, hnodes, fun id => ?_⟩
  rw [← hreports.mem_iff id, List.flatMap_def, hnodes]
  simp

end Catalog

end Flowline

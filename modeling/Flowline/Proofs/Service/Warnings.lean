import Flowline.Proofs.Compile.Guards
import Flowline.Proofs.Validation.Repetition
import Flowline.Service

/-!
# The warnings of a script

With the script of a stored pipeline come what validation says of the pipeline and then what the steps of
the script warn of.  The two lists are merged twice, within the workflow and with what validation says;
what results has every diagnostic once, because validation does not repeat itself and merging adds nothing
that is there already.
-/

namespace Flowline

namespace Diagnostic

variable {ds emitted : List Diagnostic} {d : Diagnostic}

/-- What has been merged into nothing merges into a list as it was before. -/
theorem merge_merge (ds more : List Diagnostic) : merge ds (merge [] more) = merge ds more := by
  induction more using List.reverseRecOn with
  | nil => rfl
  | append_singleton more x ih =>
    rw [merge_concat, merge_concat]
    by_cases hx : x ∈ merge [] more
    · have hthere : x ∈ merge ds more := by
        rw [← ih]
        exact mem_merge.mpr (Or.inr hx)
      rw [append_of_mem hx, append_of_mem hthere, ih]
    · rw [append_of_notMem hx, merge_concat, ih]

/-- What a compilable list says are warnings. -/
theorem severity_of_isCompilable (h : isCompilable ds) (hd : d ∈ ds) : d.severity = .warning := by
  have herror := isCompilable_iff.mp h d hd
  cases hs : d.severity with
  | error => exact absurd hs herror
  | warning => rfl

/-- Warnings that begin with some diagnostics and go on with what else is emitted, at the place where it
is emitted first. -/
structure Completes (diagnostics emitted warnings : List Diagnostic) : Prop where
  nodup : warnings.Nodup
  severity : ∀ d ∈ warnings, d.severity = .warning
  eq : warnings = diagnostics ++ (emitted.filter fun d => ! diagnostics.contains d).eraseDups

theorem completes_merge (hnodup : ds.Nodup) (hvalid : isCompilable ds)
    (hemitted : ∀ d ∈ emitted, d.severity = .warning) : Completes ds emitted (merge ds emitted) where
  nodup := nodup_merge hnodup emitted
  severity d hd := (mem_merge.mp hd).elim (severity_of_isCompilable hvalid) (hemitted d)
  eq := merge_eq ds emitted

end Diagnostic

namespace Plan

variable {plan : Plan} {trigger : String} {members : Ids} {handlers : List Handler} {s : Step}
  {d : Diagnostic}

/-- The sorts of diagnostics that steps raise. -/
def emittedCodes : List DiagnosticCode := [.contradictoryGuard, .crossTriggerInput, .unresolvedBinding]

theorem severity_raised (h : d ∈ plan.raised trigger members s) :
    d.severity = .warning ∧ d.code ∈ emittedCodes := by
  rcases List.mem_append.mp h with h | h
  · rcases List.mem_append.mp h with h | h
    · obtain ⟨l, -, -, rfl⟩ := mem_foreignInputs.mp h
      exact ⟨rfl, (by decide : .crossTriggerInput ∈ emittedCodes)⟩
    · obtain ⟨-, rfl⟩ := mem_neverRuns.mp h
      exact ⟨rfl, (by decide : .contradictoryGuard ∈ emittedCodes)⟩
  · obtain ⟨message, rfl⟩ := exists_of_mem_unbound h
    exact ⟨rfl, (by decide : .unresolvedBinding ∈ emittedCodes)⟩

theorem severity_emitted (h : d ∈ plan.emitted handlers) :
    d.severity = .warning ∧ d.code ∈ emittedCodes := by
  obtain ⟨handler, -, hd⟩ := List.mem_flatMap.mp h
  obtain ⟨s, -, hd⟩ := List.mem_flatMap.mp hd
  exact severity_raised hd

end Plan

/-! ## What comes with a script -/

theorem Catalog.build_eq_ok {c : Catalog} {r : Resources} {p : Pipeline} {compiled : Compiled}
    (h : c.build r p = .ok compiled) :
    Diagnostic.isCompilable (p.validate c.schemas) ∧ ∃ made, c.compile r p = .ok made ∧
      compiled = { made with warnings := Diagnostic.merge (p.validate c.schemas) made.warnings } := by
  simp only [build] at h
  split at h
  · cases h
  · rename_i hvalid
    split at h
    · cases h
    · rename_i made hmade
      obtain rfl := (Except.ok.inj h).symm
      exact ⟨by simpa using hvalid, made, hmade, rfl⟩

namespace Service

variable {s : Service} {id : String} {p : Pipeline} {compiled : Compiled}

theorem stored_of_compile (h : s.compile id = .ok compiled) :
    ∃ p, s.store.get? id = some p ∧ s.catalog.build s.resources p = .ok compiled := by
  cases hstored : s.store.get? id with
  | none =>
    rw [compile, pipeline, hstored] at h
    cases h
  | some p =>
    rw [compile_of_stored hstored, build] at h
    split at h
    · rename_i made hmade
      obtain rfl := (Except.ok.inj h).symm
      exact ⟨p, rfl, hmade⟩
    · cases h

theorem validate_of_stored (h : s.store.get? id = some p) :
    s.validate id = .ok (p.validate s.catalog.schemas) := by
  rw [validate, pipeline_of_stored h]
  rfl

/-- The script of a stored pipeline comes with all that validation says and with all that the steps of its
handlers raise, each once. -/
theorem completes_of_compile (h : s.compile id = .ok compiled)
    (hkeys : ∀ p, s.store.get? id = some p → ∀ n ∈ p.nodes, n.config.keys.Nodup) :
    ∃ (plan : Plan) (w : Workflow) (diagnostics : List Diagnostic),
      s.store.get? id = some plan.pipeline ∧ plan.catalog = s.catalog ∧
      plan.resources = s.resources ∧ plan.workflow = .ok w ∧ compiled.code = Script.renderLines w.lines ∧
      s.validate id = .ok diagnostics ∧
      (∀ d ∈ plan.emitted w.handlers, d.code ∈ Plan.emittedCodes) ∧
      Diagnostic.Completes diagnostics (plan.emitted w.handlers) compiled.warnings := by
  obtain ⟨p, hstored, hbuild⟩ := stored_of_compile h
  obtain ⟨hvalid, made, hmade, rfl⟩ := Catalog.build_eq_ok hbuild
  obtain ⟨w, hw, hcode⟩ := Catalog.workflow_of_compile hmade
  have hwarnings := Catalog.warnings_of_compile hmade hw
  obtain ⟨plan, rfl, hcatalog, hresources, hplan⟩ := Catalog.plan_of_workflow hw
  have hnodup := Validation.nodup_validate (Pipeline.wellFormed_of_isCompilable hvalid)
    (hkeys _ hstored)
  refine ⟨plan, w, _, hstored, hcatalog, hresources, hplan, hcode, validate_of_stored hstored,
    fun d hd => (Plan.severity_emitted hd).2, ?_⟩
  dsimp only
  rw [hwarnings, Plan.warnings_workflow hplan, Diagnostic.merge_merge]
  exact Diagnostic.completes_merge hnodup hvalid fun d hd => (Plan.severity_emitted hd).1

/-- What is fetched without a secret is sent on when one trigger fires, and the answer is sent on when
another does.  One field of the first request is not known, and one step is joined to nothing. -/
def relaying : Pipeline where
  id := "relaying"
  name := "Relaying"
  version := 1
  nodes := [
    ⟨"left", .trigger, "http-trigger", [("method", .string "POST")], .ready, none⟩,
    ⟨"right", .trigger, "http-trigger", [("method", .string "POST")], .ready, none⟩,
    ⟨"fetch", .capability, "http-fetch",
      [("method", .string "GET"), ("url", .string "https://example.com"),
        ("authSecret", .string "api-key"), ("retries", .string "3")], .ready, none⟩,
    ⟨"send", .capability, "http-fetch",
      [("method", .string "POST"), ("url", .string "https://example.com")], .ready, none⟩,
    ⟨"relay", .capability, "http-fetch",
      [("method", .string "POST"), ("url", .string "https://example.com")], .ready, none⟩,
    ⟨"note", .logic, "log", [("message", .string "relayed")], .ready, none⟩,
    ⟨"lone", .logic, "log", [("message", .string "lone")], .ready, none⟩]
  edges := [
    ⟨none, "left", "payload", "send", "in"⟩, ⟨none, "fetch", "body", "send", "body"⟩,
    ⟨none, "right", "payload", "relay", "in"⟩, ⟨none, "send", "body", "relay", "body"⟩,
    ⟨none, "relay", "status", "note", "in"⟩]

theorem completes_relaying :
    let s := (Service.new Catalog.builtin (Secrets.declared []) Chains.standard {} []).insert relaying
    ∃ (compiled : Compiled) (plan : Plan) (w : Workflow) (diagnostics : List Diagnostic),
      s.compile "relaying" = .ok compiled ∧ plan.pipeline = relaying ∧ plan.workflow = .ok w ∧
      s.validate "relaying" = .ok diagnostics ∧
      compiled.warnings.map (fun d => (d.code, d.node)) =
        [(.unreachableSubgraph, some "lone"), (.unknownField, some "fetch"),
          (.unresolvedBinding, some "fetch"), (.crossTriggerInput, some "relay"),
          (.crossTriggerInput, some "send")] ∧
      Diagnostic.Completes diagnostics (plan.emitted w.handlers) compiled.warnings := by
  intro s
  have hlisted : ((s.compile "relaying").toOption.map fun compiled =>
      compiled.warnings.map fun d => (d.code, d.node)) =
      some [(.unreachableSubgraph, some "lone"), (.unknownField, some "fetch"),
        (.unresolvedBinding, some "fetch"), (.crossTriggerInput, some "relay"),
        (.crossTriggerInput, some "send")] := by
    decide +kernel
  have hstored : s.store.get? "relaying" = some relaying := rfl
  have hkeys : ∀ p, s.store.get? "relaying" = some p → ∀ n ∈ p.nodes, n.config.keys.Nodup := by
    intro p hp
    obtain rfl := Option.some.inj (hstored.symm.trans hp)
    decide
  obtain ⟨compiled, hcompile⟩ := isOk_iff.mp (by decide +kernel : (s.compile "relaying").isOk)
  obtain ⟨plan, w, diagnostics, hpipeline, -, -, hw, -, hvalidate, -, hcompletes⟩ :=
    completes_of_compile hcompile hkeys
  rw [hcompile] at hlisted
  exact ⟨compiled, plan, w, diagnostics, hcompile,
    Option.some.inj (hpipeline.symm.trans hstored), hw, hvalidate, Option.some.inj hlisted, hcompletes⟩

end Service

end Flowline

import Flowline.Proofs.Compile.Guards
import Flowline.Proofs.Compile.Rearranged

/-!
# More resources never break a script

Two runs of the compiler on one pipeline, the second with resources that have all that those of the first
have.  A binding that has an expression in the first run has one in the second, and expressions of
bindings go nowhere but into the code of their own node.  So the steps of the two runs put out the same,
under the same conditions, and of the warnings only those disappear that ask for what there is now.
-/

namespace Flowline

/-- All that some resources have, others have too. -/
structure Resources.Within (r more : Resources) : Prop where
  secrets : ∀ name, r.secrets.has name = true → more.secrets.has name = true
  chains : ∀ name testnet, r.chains.get? name = some testnet → more.chains.get? name = some testnet

/-- Resources have what a binding lacks. -/
def Resources.supplies (r : Resources) : Unbound → Bool
  | .secretNotAvailable name => r.secrets.has name
  | .unknownChain name => r.chains.has name
  | .noChain => false
  | .notContractAddress _ => false
  | .noContractAddress => false

/-! ## Bindings -/

/-- What is lacking if a binding has no expression. -/
def Resolution.lack? : Resolution → Option Unbound
  | resolved _ => none
  | unresolved why => some why
  | skipped => none

theorem Resolution.lack?_eq_some {res : Resolution} {why : Unbound} :
    res.lack? = some why ↔ res = .unresolved why := by
  cases res <;> simp [lack?]

/-- With more resources a binding lacks what it has lacked, unless they supply it. -/
theorem BindingSpec.lack?_of_within {r more : Resources} (h : r.Within more) (spec : BindingSpec)
    (n : Node) (feed : Option String) :
    (spec.resolve n feed more).lack? = (spec.resolve n feed r).lack?.filter (! more.supplies ·) := by
  have hsecret : ∀ name, more.supplies (.secretNotAvailable name) = more.secrets.has name :=
    fun _ => rfl
  have hchain : ∀ name, more.supplies (.unknownChain name) = (more.chains.get? name).isSome :=
    fun _ => rfl
  have hcontract : ∀ text, more.supplies (.notContractAddress text) = false := fun _ => rfl
  cases spec with
  | secret name field =>
    simp only [resolve]
    cases n.text? field with
    | none => rfl
    | some text =>
      dsimp only
      by_cases hr : r.secrets.has text
      · simp [hr, h.secrets text hr, Resolution.lack?]
      · by_cases hmore : more.secrets.has text
        · simp [hr, hmore, hsecret, Resolution.lack?, Option.filter_some]
        · simp [hr, hmore, hsecret, Resolution.lack?, Option.filter_some]
  | chain name field port =>
    cases feed with
    | some expr => rfl
    | none =>
      simp only [resolve]
      cases n.text? field with
      | none => rfl
      | some text =>
        dsimp only
        cases hr : r.chains.get? text with
        | some testnet => simp [h.chains text testnet hr, Resolution.lack?]
        | none =>
          cases hmore : more.chains.get? text with
          | some testnet => simp [hmore, hchain, Resolution.lack?, Option.filter_some]
          | none => simp [hmore, hchain, Resolution.lack?, Option.filter_some]
  | contract name field port =>
    cases feed with
    | some expr => rfl
    | none =>
      simp only [resolve]
      cases n.text? field with
      | none => rfl
      | some text =>
        dsimp only
        by_cases haddress : isAddress text
        · simp [haddress, Resolution.lack?]
        · simp [haddress, hcontract, Resolution.lack?, Option.filter_some]

/-! ## What is said of bindings -/

theorem BindingSpec.label_inj {a b : BindingSpec} {x y : String} (h : a.label ++ x = b.label ++ y) :
    a.label = b.label := by
  have hopening := congrArg (fun s => s.toList.take 2) h
  cases a with
  | secret _ _ =>
    cases b with
    | secret _ _ => rfl
    | _ => exact absurd hopening (by simp [label])
  | chain _ _ _ =>
    cases b with
    | chain _ _ _ => rfl
    | _ => exact absurd hopening (by simp [label])
  | contract _ _ _ =>
    cases b with
    | contract _ _ _ => rfl
    | _ => exact absurd hopening (by simp [label])

/-- What is lacking can be told from what is said of it. -/
theorem Unbound.detail_injective : Function.Injective Unbound.detail := by
  intro a b h
  unfold detail at h
  -- texts of two sorts differ within five characters
  have hopening := congrArg (fun s => s.toList.take 5) h
  cases a with
  | secretNotAvailable _ =>
    cases b with
    | secretNotAvailable _ => simpa using h
    | _ => exact absurd hopening (by simp)
  | unknownChain _ =>
    cases b with
    | unknownChain _ => simpa using h
    | _ => exact absurd hopening (by simp)
  | noChain =>
    cases b with
    | noChain => rfl
    | _ => exact absurd hopening (by simp)
  | notContractAddress _ =>
    cases b with
    | notContractAddress _ => simpa using h
    | _ => exact absurd hopening (by simp)
  | noContractAddress =>
    cases b with
    | noContractAddress => rfl
    | _ => exact absurd hopening (by simp)

namespace Plan

/-- The warning of a binding that lacks something. -/
def lacking (n : Node) (spec : BindingSpec) (why : Unbound) : Diagnostic :=
  unresolvedBinding n (CompileError.unresolvedMessage n.id spec.label why.detail)

theorem lacking_inj {m n : Node} {a b : BindingSpec} {why other : Unbound}
    (h : lacking m a why = lacking n b other) : why = other := by
  have hid : m.id = n.id := Option.some.inj (congrArg Diagnostic.node h)
  have hmessage : CompileError.unresolvedMessage m.id a.label why.detail =
      CompileError.unresolvedMessage n.id b.label other.detail := congrArg Diagnostic.message h
  simp only [CompileError.unresolvedMessage, hid, String.append_assoc] at hmessage
  rw [BindingSpec.label_inj hmessage] at hmessage
  simp only [String.append_right_inj] at hmessage
  exact Unbound.detail_injective hmessage

theorem unbound?_eq (plan : Plan) (ports : Table String) (n : Node) (spec : BindingSpec) :
    plan.unbound? ports n spec = (plan.resolution ports n spec).lack?.map (lacking n spec) := by
  rw [unbound?]
  cases plan.resolution ports n spec <;> rfl

end Plan

/-- A warning is settled by resources that have what it says is lacking. -/
def Resources.Settles (r : Resources) (d : Diagnostic) : Prop :=
  ∃ n spec why, d = Plan.lacking n spec why ∧ r.supplies why = true

theorem Resources.settles_lacking {r : Resources} {n : Node} {spec : BindingSpec} {why : Unbound} :
    r.Settles (Plan.lacking n spec why) ↔ r.supplies why = true := by
  constructor
  · rintro ⟨m, other, reason, heq, hsupplies⟩
    rwa [Plan.lacking_inj heq]
  · exact fun h => ⟨n, spec, why, rfl, h⟩

theorem Resources.code_of_settles {r : Resources} {d : Diagnostic} (h : r.Settles d) :
    d.code = .unresolvedBinding := by
  obtain ⟨n, spec, why, rfl, -⟩ := h
  rfl

/-! ## Two runs -/

/-- An emitter uses bindings for the code of its node alone: with others it does not fail, and the same
flows out of the node. -/
def Emitter.Confined (emit : Emitter) : Prop :=
  ∀ n i bindings f, emit n i = .ok f → ∃ g, emit n { i with bindings } = .ok g ∧
    g.outputs = f.outputs ∧ g.control = f.control ∧ g.trigger.isSome = f.trigger.isSome

/-- Two steps of a node out of which the same flows, under the same conditions. -/
structure Step.SameFlow (s t : Step) : Prop where
  node : s.node = t.node
  ports : s.inputs.ports = t.inputs.ports
  guards : s.guards = t.guards
  outputs : s.fragment.outputs = t.fragment.outputs
  control : s.fragment.control = t.fragment.control
  hook : s.fragment.trigger.isSome = t.fragment.trigger.isSome

/-- The two handlers of a trigger. -/
structure Handler.SameFlow (h k : Handler) : Prop where
  trigger : h.trigger = k.trigger
  steps : List.Forall₂ Step.SameFlow h.steps k.steps

/-- Among the steps of two runs the same node is found in both, or in neither. -/
theorem rel_stepOf? {R : Step → Step → Prop} (hnode : ∀ s t, R s t → s.node = t.node)
    {steps others : List Step} (h : List.Forall₂ R steps others) (id : String) :
    Option.Rel R (stepOf? steps id) (stepOf? others id) := by
  induction h with
  | nil => exact .none
  | cons hs _ ih =>
    rw [stepOf?, stepOf?, List.find?_cons, List.find?_cons, hnode _ _ hs]
    split
    · exact .some hs
    · exact ih

namespace Plan

variable {plan : Plan} {critical members : Ids} {trigger : String} {steps others : List Step} {n : Node}
  {ports : Table String} {more : Resources}

/-- A plan for the same pipeline with other resources. -/
def equipped (plan : Plan) (more : Resources) : Plan := { plan with resources := more }

/-- What comes in along an edge does not depend on the code of the steps before it. -/
theorem feedLink_of_sameFlow (h : List.Forall₂ Step.SameFlow steps others) (trigger : String)
    (members : Ids) (n : Node) :
    feedLink trigger members others n = feedLink trigger members steps n := by
  funext feed l
  unfold feedLink
  split
  · rfl
  · rcases none_or_some_of_rel (rel_stepOf? (fun _ _ => Step.SameFlow.node) h l.peer) with
      ⟨hs, ht⟩ | ⟨s, t, hs, ht, hst⟩
    · rw [stepOf?] at hs ht
      rw [hs, ht]
    · rw [stepOf?] at hs ht
      simp only [hs, ht, Option.bind_some, hst.outputs]
      cases t.fragment.outputs.get? l.peerPort with
      | none => rfl
      | some expr => simp only [hst.control, hst.guards]

theorem feed_of_sameFlow (h : List.Forall₂ Step.SameFlow steps others) (trigger : String)
    (members : Ids) (n : Node) :
    (plan.equipped more).feed trigger members others n = plan.feed trigger members steps n := by
  rw [feed, feed, feedLink_of_sameFlow h]
  rfl

variable (hwithin : plan.resources.Within more)
include hwithin

theorem lack?_equipped (ports : Table String) (n : Node) (spec : BindingSpec) :
    ((plan.equipped more).resolution ports n spec).lack? =
      (plan.resolution ports n spec).lack?.filter (! more.supplies ·) :=
  BindingSpec.lack?_of_within hwithin spec n _

/-- Where all bindings of a node are had, they are had with more resources. -/
theorem exists_bindAll_equipped {bound : Bound} (h : plan.bindAll critical ports n = .ok bound) :
    ∃ more', (plan.equipped more).bindAll critical ports n = .ok more' := by
  rcases (plan.equipped more).bindAll_progress critical ports n with
    hok | ⟨e, -, schema, hschema, spec, hspec, hcritical, why, hwhy, -⟩
  · exact hok
  · -- what is lacking now has been lacking
    have hlack := lack?_equipped hwithin ports n spec
    rw [hwhy, eq_comm, Resolution.lack?, Option.filter_eq_some_iff, Resolution.lack?_eq_some] at hlack
    exact absurd hlack.1 (resolution_of_bindAll h hcritical hschema hspec)

variable (hconfined : ∀ kind emit, plan.catalog.emitters.get? kind = some emit → emit.Confined)
include hconfined

theorem step_equipped {s : Step} {warnings : List Diagnostic}
    (hsteps : List.Forall₂ Step.SameFlow steps others)
    (h : plan.step critical trigger members steps n = .ok (s, warnings)) :
    ∃ made, (plan.equipped more).step critical trigger members others n = .ok made ∧
      s.SameFlow made.1 := by
  obtain ⟨feed, bound, emit, f, hfeed, hbound, hemit, hf, heq⟩ := step_eq_ok_iff.mp h
  obtain ⟨rfl, -⟩ := Prod.mk.inj heq
  have hfeed' : (plan.equipped more).feed trigger members others n = .ok feed :=
    (feed_of_sameFlow hsteps trigger members n).trans hfeed
  obtain ⟨bound', hbound'⟩ := exists_bindAll_equipped hwithin hbound
  obtain ⟨g, hg, houtputs, hcontrol, hhook⟩ := hconfined n.kind emit hemit n _ bound'.bindings f hf
  exact ⟨_, step_eq_ok_iff.mpr ⟨feed, bound', emit, g, hfeed', hbound', hemit, hg, rfl⟩,
    rfl, rfl, rfl, houtputs.symm, hcontrol.symm, hhook.symm⟩

theorem handler_equipped {h : Handler} {warnings : List Diagnostic}
    (hh : plan.handler critical trigger = .ok (h, warnings)) :
    ∃ made, (plan.equipped more).handler critical trigger = .ok made ∧ h.SameFlow made.1 := by
  obtain ⟨done, hook, hdone, hhook, heq⟩ := handler_eq_ok_iff.mp hh
  obtain ⟨rfl, -⟩ := Prod.mk.inj heq
  obtain ⟨done', hdone', hsteps⟩ := foldlM_simulation
    (g := (plan.equipped more).addStep critical trigger (plan.members trigger))
    (R := fun done done' => List.Forall₂ Step.SameFlow done.steps done'.steps)
    (fun n done next done' hsteps hn => by
      obtain ⟨⟨s, warnings⟩, hs, hn⟩ := bind_eq_ok_iff.mp hn
      obtain rfl := (Except.ok.inj hn).symm
      obtain ⟨made, hmade, hsame⟩ := step_equipped hwithin hconfined hsteps hs
      exact ⟨_, bind_eq_ok_iff.mpr ⟨made, hmade, rfl⟩,
        List.rel_append hsteps (.cons hsame .nil)⟩)
    (plan.memberNodes (plan.members trigger)) {} done {} .nil hdone
  -- the step of the trigger has a hook in both runs
  obtain ⟨s, hs, hhook⟩ := Option.bind_eq_some_iff.mp hhook
  rcases none_or_some_of_rel (rel_stepOf? (fun _ _ => Step.SameFlow.node) hsteps trigger) with
    ⟨hnone, -⟩ | ⟨s', t, hs', ht, hst⟩
  · rw [hs] at hnone
    cases hnone
  · obtain rfl := Option.some.inj (hs.symm.trans hs')
    obtain ⟨hook', hhook'⟩ : ∃ hook', t.fragment.trigger = some hook' := by
      rw [← Option.isSome_iff_exists, ← hst.hook, hhook]
      rfl
    exact ⟨_, handler_eq_ok_iff.mpr ⟨done', hook', hdone', by rw [ht]; exact hhook', rfl⟩, rfl, hsteps⟩

theorem workflow_equipped {w : Workflow} (h : plan.workflow = .ok w) :
    ∃ w', (plan.equipped more).workflow = .ok w' ∧
      List.Forall₂ Handler.SameFlow w.handlers w'.handlers := by
  obtain ⟨htriggers, hsupported, made, hmade, rfl⟩ := workflow_eq_ok_iff.mp h
  obtain ⟨made', hmade', hsame⟩ := mapM_simulation
    (R := fun a b : Handler × List Diagnostic => a.1.SameFlow b.1)
    (fun t made ht => handler_equipped hwithin hconfined ht) hmade
  refine ⟨_, workflow_eq_ok_iff.mpr ⟨htriggers, hsupported, made', hmade', rfl⟩, ?_⟩
  exact List.forall₂_map_left_iff.mpr (List.forall₂_map_right_iff.mpr hsame)

end Plan

/-! ## The warnings of two runs -/

namespace Plan

variable {plan : Plan} {trigger : String} {members : Ids} {more : Resources} {keep : Diagnostic → Bool}

section Kept

variable (hwithin : plan.resources.Within more)
  (hlacking : ∀ n spec why, keep (lacking n spec why) = ! more.supplies why)
  (hother : ∀ d, d.code ≠ .unresolvedBinding → keep d = true)
include hwithin hlacking

theorem unbound_equipped (ports : Table String) (n : Node) :
    (plan.equipped more).unbound ports n = (plan.unbound ports n).filter keep := by
  have hcatalog : (plan.equipped more).catalog = plan.catalog := rfl
  rw [unbound, unbound, hcatalog]
  cases plan.catalog.schemas.get? n.kind with
  | none => rfl
  | some schema =>
    dsimp only
    rw [List.filter_filterMap]
    refine List.filterMap_congr fun spec _ => ?_
    rw [unbound?_eq, unbound?_eq, lack?_equipped hwithin]
    cases (plan.resolution ports n spec).lack? with
    | none => rfl
    | some why => simp [Option.filter_some, hlacking, apply_ite]

include hother

theorem raised_equipped {s t : Step} (h : s.SameFlow t) :
    (plan.equipped more).raised trigger members t = (plan.raised trigger members s).filter keep := by
  have hforeign : ∀ d ∈ plan.foreignInputs trigger members s.node ++ neverRuns s.node s.guards,
      keep d = true := by
    intro d hd
    refine hother d fun hcode => ?_
    rcases List.mem_append.mp hd with hd | hd
    · obtain ⟨l, -, -, rfl⟩ := mem_foreignInputs.mp hd
      cases hcode
    · rw [(mem_neverRuns.mp hd).2] at hcode
      cases hcode
  rw [raised, raised, List.filter_append, List.filter_eq_self.mpr hforeign, ← h.node, ← h.guards,
    ← h.ports, unbound_equipped hwithin hlacking]
  rfl

theorem flatMap_raised_equipped {steps others : List Step} (h : List.Forall₂ Step.SameFlow steps others) :
    others.flatMap ((plan.equipped more).raised trigger members) =
      (steps.flatMap (plan.raised trigger members)).filter keep := by
  induction h with
  | nil => rfl
  | cons hst _ ih =>
    rw [List.flatMap_cons, List.flatMap_cons, List.filter_append, ih,
      raised_equipped hwithin hlacking hother hst]

theorem emitted_equipped {handlers others : List Handler}
    (h : List.Forall₂ Handler.SameFlow handlers others) :
    (plan.equipped more).emitted others = (plan.emitted handlers).filter keep := by
  unfold emitted
  induction h with
  | nil => rfl
  | cons hab _ ih =>
    rw [List.flatMap_cons, List.flatMap_cons, List.filter_append, ih, ← hab.trigger,
      ← flatMap_raised_equipped hwithin hlacking hother hab.steps]
    rfl

end Kept

/-- With more resources the workflow is made with the same flow, and of its warnings those are left out
that are settled. -/
theorem warnings_equipped [DecidablePred more.Settles]
    (hconfined : ∀ kind emit, plan.catalog.emitters.get? kind = some emit → emit.Confined)
    (hwithin : plan.resources.Within more) {w : Workflow} (h : plan.workflow = .ok w) :
    ∃ w', (plan.equipped more).workflow = .ok w' ∧
      w'.warnings = w.warnings.filter fun d => ¬ more.Settles d := by
  obtain ⟨w', hw', hsame⟩ := workflow_equipped hwithin hconfined h
  refine ⟨w', hw', ?_⟩
  rw [warnings_workflow hw', warnings_workflow h, ← Diagnostic.merge_filter, List.filter_nil]
  congr 1
  refine emitted_equipped hwithin ?_ ?_ hsame
  · intro n spec why
    simp [Resources.settles_lacking]
  · intro d hd
    simpa using fun hsettles => hd (Resources.code_of_settles hsettles)

end Plan

theorem Emitter.confined_of_flow {emit : Node → EmitInputs → Fragment}
    (h : ∀ n i bindings, (emit n { i with bindings }).outputs = (emit n i).outputs ∧
      (emit n { i with bindings }).control = (emit n i).control ∧
      (emit n { i with bindings }).trigger.isSome = (emit n i).trigger.isSome) :
    Emitter.Confined fun n i => .ok (emit n i) := by
  rintro n i bindings _ ⟨⟩
  exact ⟨_, rfl, h n i bindings⟩

theorem Builtin.confined_of_mem_emitters (largest : ℕ) : ∀ e ∈ emittersFor largest, Emitter.Confined e.2 := by
  simp only [emittersFor, List.forall_mem_map, List.forall_mem_cons]
  refine ⟨?_, ?_, ?_, ?_, ?_, ?_, ?_, ?_, ?_, ?_, ?_, ?_, ?_, ?_, List.forall_mem_nil _⟩ <;>
    exact Emitter.confined_of_flow fun _ _ _ => ⟨rfl, rfl, rfl⟩

namespace Catalog

variable {c : Catalog} {r more : Resources} {p : Pipeline} {compiled : Compiled}

/-- The workflows with two resources are those of one plan, equipped with either. -/
theorem workflow_equipped {w : Workflow} (h : c.workflow r p = .ok w) (more : Resources) :
    ∃ plan : Plan, plan.catalog = c ∧ plan.resources = r ∧ plan.workflow = .ok w ∧
      c.workflow more p = (plan.equipped more).workflow := by
  cases horder : (Graph.ofPipeline p).order with
  | error cycle =>
    rw [workflow_eq_of_cycle horder] at h
    cases h
  | ok order =>
    obtain ⟨plan, hp, ho, hc, hr, hplan⟩ := workflow_of_order (c := c) (r := r) horder
    obtain ⟨other, hp', ho', hc', hr', hother⟩ := workflow_of_order (c := c) (r := more) horder
    have halike : other.Alike (plan.equipped more) := Plan.alike_of_resolve (hp'.trans hp.symm)
      (ho'.trans ho.symm) (hc'.trans hc.symm) fun spec n feed => by rw [hr']; rfl
    exact ⟨plan, hc, hr, hplan ▸ h, hother.trans halike.workflow⟩

/-- A pipeline of built-in kinds that compiles does so with more secrets and chains.  Of the warnings, which
stay in their order, exactly those disappear that say that there is not what there is now. -/
theorem compile_provided (hwithin : r.Within more) (h : builtin.compile r p = .ok compiled) :
    ∃ provided, builtin.compile more p = .ok provided ∧
      provided.warnings.Sublist compiled.warnings ∧ compiled.warnings.Nodup ∧
      ∀ d ∈ compiled.warnings, (d ∉ provided.warnings ↔ more.Settles d) ∧
        (d ∉ provided.warnings → d.code = .unresolvedBinding) := by
  classical
  obtain ⟨w, hw, -⟩ := workflow_of_compile h
  obtain ⟨plan, hcatalog, rfl, hplan, hmore⟩ := workflow_equipped hw more
  have hconfined : ∀ kind emit, plan.catalog.emitters.get? kind = some emit → emit.Confined :=
    fun kind emit hemit => Builtin.confined_of_mem_emitters _ _ (Table.mem_of_get? (hcatalog ▸ hemit))
  obtain ⟨w', hw', hwarnings⟩ := Plan.warnings_equipped hconfined hwithin hplan
  rw [hw'] at hmore
  obtain ⟨provided, hprovided⟩ : ∃ provided, builtin.compile more p = .ok provided :=
    ⟨_, by rw [compile, hmore]; rfl⟩
  have hnodup : w.warnings.Nodup := by
    rw [Plan.warnings_workflow hplan]
    exact Diagnostic.nodup_merge List.nodup_nil _
  refine ⟨provided, hprovided, ?_, ?_, ?_⟩
  · rw [warnings_of_compile hprovided hmore, warnings_of_compile h hw, hwarnings]
    exact List.filter_sublist
  · rwa [warnings_of_compile h hw]
  · intro d hd
    have hleft : d ∉ provided.warnings ↔ more.Settles d := by
      rw [warnings_of_compile h hw] at hd
      rw [warnings_of_compile hprovided hmore, hwarnings]
      simp [hd]
    exact ⟨hleft, fun hd => Resources.code_of_settles (hleft.mp hd)⟩

/-- A request and a reading that lead to no effect: the request wants a secret, the reading a chain and a
contract. -/
def wanting : Pipeline where
  id := "wanting"
  name := "Wanting"
  version := 1
  nodes := [
    ⟨"hook", .trigger, "http-trigger", [("method", .string "POST")], .ready, none⟩,
    ⟨"note", .logic, "log", [("message", .string "called")], .ready, none⟩,
    ⟨"fetch", .capability, "http-fetch",
      [("method", .string "GET"), ("url", .string "https://example.com"),
        ("authSecret", .string "api-key")], .ready, none⟩,
    ⟨"read", .capability, "evm-read",
      [("chainName", .string "moonbase"), ("functionName", .string "symbol")], .ready, none⟩]
  edges := [
    ⟨none, "hook", "payload", "note", "in"⟩, ⟨none, "hook", "payload", "fetch", "in"⟩,
    ⟨none, "fetch", "body", "read", "args"⟩]

theorem compile_provided_wanting :
    let r : Resources := ⟨Secrets.declared [], Chains.standard⟩
    let more : Resources := ⟨Secrets.declared ["api-key"], Chains.standard.insert "moonbase" true⟩
    r.Within more ∧ ∃ compiled provided, builtin.compile r wanting = .ok compiled ∧
      builtin.compile more wanting = .ok provided ∧
      provided.warnings.Sublist compiled.warnings ∧
      compiled.warnings.map Diagnostic.message =
        ["secret binding of node 'fetch' cannot be resolved: secret 'api-key' is not available",
          "chain binding of node 'read' cannot be resolved: unknown chain 'moonbase'",
          "contract binding of node 'read' cannot be resolved: no contract address"] ∧
      provided.warnings.map Diagnostic.message =
        ["contract binding of node 'read' cannot be resolved: no contract address"] := by
  intro r more
  have hwithin : r.Within more := by
    constructor
    · intro name hname
      exact absurd hname (by simp [r, Secrets.declared])
    · intro name testnet hname
      have hne : name ≠ "moonbase" := by
        rintro rfl
        have hnone : Chains.standard.get? "moonbase" = none := by decide
        exact absurd (hnone.symm.trans hname) (Option.some_ne_none testnet).symm
      exact (Table.get?_insert_of_ne _ _ hne).trans hname
  have hbefore : ((builtin.compile r wanting).toOption.map fun compiled =>
      compiled.warnings.map Diagnostic.message) =
      some ["secret binding of node 'fetch' cannot be resolved: secret 'api-key' is not available",
        "chain binding of node 'read' cannot be resolved: unknown chain 'moonbase'",
        "contract binding of node 'read' cannot be resolved: no contract address"] := by
    decide +kernel
  have hafter : ((builtin.compile more wanting).toOption.map fun compiled =>
      compiled.warnings.map Diagnostic.message) =
      some ["contract binding of node 'read' cannot be resolved: no contract address"] := by
    decide +kernel
  obtain ⟨compiled, hcompile⟩ := isOk_iff.mp
    (by decide +kernel : (builtin.compile r wanting).isOk)
  obtain ⟨provided, hprovided, hsublist, -⟩ := compile_provided hwithin hcompile
  rw [hcompile] at hbefore
  rw [hprovided] at hafter
  exact ⟨hwithin, compiled, provided, hcompile, hprovided, hsublist, Option.some.inj hbefore,
    Option.some.inj hafter⟩

end Catalog

end Flowline

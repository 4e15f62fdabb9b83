import Flowline.Compile
import Flowline.Proofs.Folds
import Flowline.Proofs.Graph.Order
import Flowline.Proofs.Graph.Reach

/-!
# The steps of a handler

What goes into one step: `Fed` says what the ports and the guard of a node are after some of its links,
`Made` what a step is after the steps before it.  A handler is made of one such step for each of its
nodes, in topological order.
-/

namespace Flowline

/-- The step of a node among some steps. -/
def stepOf? (steps : List Step) (id : String) : Option Step := steps.find? (·.node.id = id)

theorem stepOf?_eq_some {steps : List Step} {id : String} {s : Step}
    (h : stepOf? steps id = some s) : s ∈ steps ∧ s.node.id = id :=
  ⟨List.mem_of_find?_eq_some h, by simpa using List.find?_some h⟩

theorem exists_stepOf? {steps : List Step} {id : String}
    (h : id ∈ (steps.map Step.node).map Node.id) : ∃ s, stepOf? steps id = some s := by
  rw [List.map_map, List.mem_map] at h
  obtain ⟨s, hs, hid⟩ := h
  exact Option.isSome_iff_exists.mp (List.find?_isSome.mpr ⟨s, hs, by simpa using hid⟩)

namespace Plan

variable {plan : Plan} {critical : Ids} {trigger : String} {members : Ids} {steps : List Step}
  {n : Node} {feed feed' : Feed} {l : Link} {links : List Link} {ports : Table String}

/-! ## Feeds -/

/-- The step from which a link takes its expression. -/
structure Produces (steps : List Step) (l : Link) (s : Step) (expr : String) : Prop where
  step : stepOf? steps l.peer = some s
  output : s.fragment.outputs.get? l.peerPort = some expr

/-- The expression that comes in along a link. -/
def Carries (members : Ids) (steps : List Step) (l : Link) (expr : String) : Prop :=
  l.peer ∉ members ∧ expr = "undefined" ∨ l.peer ∈ members ∧ ∃ s, Produces steps l s expr

/-- The conditions that come in along a link: those of the step before it, and that of its port. -/
def Guards (members : Ids) (steps : List Step) (l : Link) (g : Guard) : Prop :=
  l.peer ∈ members ∧ ∃ s, stepOf? steps l.peer = some s ∧
    (g ∈ s.guards ∨ s.fragment.control.get? l.peerPort = some g)

/-- The ports and the guard of a node after some of its links. -/
structure Fed (members : Ids) (steps : List Step) (links : List Link) (ports : Table String)
    (guards : List Guard) : Prop where
  /-- At a port there is what the last link to it carries. -/
  last : ∀ port expr, ports.get? port = some expr → ∃ pre l post, links = pre ++ l :: post ∧
    l.localPort = port ∧ (∀ m ∈ post, m.localPort ≠ port) ∧ Carries members steps l expr
  link : ∀ l ∈ links, (ports.get? l.localPort).isSome ∧ ∃ expr, Carries members steps l expr
  guards : ∀ g, g ∈ guards ↔ ∃ l ∈ links, Guards members steps l g

theorem Fed.port {guards : List Guard} (h : Fed members steps links ports guards) {port expr : String}
    (hexpr : ports.get? port = some expr) :
    ∃ l ∈ links, l.localPort = port ∧ Carries members steps l expr := by
  obtain ⟨pre, l, post, rfl, hport, -, hcarries⟩ := h.last port expr hexpr
  exact ⟨l, by simp, hport, hcarries⟩

/-- A link carries one expression. -/
theorem Carries.unique {e e' : String} (h : Carries members steps l e) (h' : Carries members steps l e') :
    e = e' := by
  rcases h with ⟨hl, rfl⟩ | ⟨hl, s, hs⟩
  · rcases h' with ⟨-, rfl⟩ | ⟨hl', -⟩
    · rfl
    · exact absurd hl' hl
  · rcases h' with ⟨hl', -⟩ | ⟨-, s', hs'⟩
    · exact absurd hl hl'
    · obtain rfl := Option.some.inj (hs.step.symm.trans hs'.step)
      exact Option.some.inj (hs.output.symm.trans hs'.output)

/-- A link is added exactly if it carries an expression. -/
theorem feedLink_of_carries {expr : String} (trigger : String) (n : Node) (feed : Feed)
    (h : Carries members steps l expr) :
    ∃ feed', feedLink trigger members steps n feed l = .ok feed' ∧
      feed'.ports = feed.ports.insert l.localPort expr ∧
      ∀ g, g ∈ feed'.guards ↔ Guards members steps l g ∨ g ∈ feed.guards := by
  rcases h with ⟨hl, rfl⟩ | ⟨hl, s, hs⟩
  · refine ⟨_, by rw [feedLink, if_pos (by simpa using hl)], rfl, fun g => ?_⟩
    simp [Guards, hl]
  · have hstep := hs.step
    rw [stepOf?] at hstep
    refine ⟨_, by simp only [feedLink, hstep, Option.bind_some, hs.output]
                  rw [if_neg (by simpa using hl)], rfl, fun g => ?_⟩
    rw [Guard.mem_foldl_insert, List.mem_append, Option.mem_toList]
    simp [Guards, hl, hs.step]

theorem exists_carries_of_feedLink (h : feedLink trigger members steps n feed l = .ok feed') :
    ∃ expr, Carries members steps l expr := by
  by_cases hl : l.peer ∈ members
  · rw [feedLink, if_neg (by simpa using hl)] at h
    dsimp only at h
    split at h
    · rename_i expr s hexpr hs
      rw [hs, Option.bind_some] at hexpr
      exact ⟨expr, Or.inr ⟨hl, s, hs, hexpr⟩⟩
    · simp at h
  · exact ⟨_, Or.inl ⟨hl, rfl⟩⟩

theorem Fed.nil : Fed members steps [] [] [] :=
  ⟨fun _ _ h => by simp at h, fun _ h => by simp at h, fun _ => by simp⟩

theorem Fed.concat (hf : Fed members steps links feed.ports feed.guards)
    (h : feedLink trigger members steps n feed l = .ok feed') :
    Fed members steps (links ++ [l]) feed'.ports feed'.guards := by
  obtain ⟨expr, hcarries⟩ := exists_carries_of_feedLink h
  obtain ⟨_, heq, hports, hguards⟩ := feedLink_of_carries trigger n feed hcarries
  obtain rfl := Except.ok.inj (h.symm.trans heq)
  refine ⟨fun port e he => ?_, fun m hm => ?_, fun g => ?_⟩
  · rw [hports, Table.get?_insert] at he
    split at he
    · rename_i hport
      obtain rfl := Option.some.inj he
      exact ⟨links, l, [], rfl, hport.symm, List.forall_mem_nil _, hcarries⟩
    · rename_i hport
      obtain ⟨pre, m, post, heq, hm, hlater, hcarried⟩ := hf.last port e he
      refine ⟨pre, m, post ++ [l], by rw [heq]; simp, hm, ?_, hcarried⟩
      exact List.forall_mem_append.mpr ⟨hlater, List.forall_mem_singleton.mpr (Ne.symm hport)⟩
  · rw [hports, Table.get?_insert]
    rcases List.mem_append.mp hm with hm | hm
    · obtain ⟨hsome, hcarried⟩ := hf.link m hm
      refine ⟨?_, hcarried⟩
      split
      · rfl
      · exact hsome
    · obtain rfl := List.mem_singleton.mp hm
      exact ⟨by simp, expr, hcarries⟩
  · rw [hguards, hf.guards, or_comm]
    simp [or_and_right, exists_or]

/-- What comes in at a node is what its links carry. -/
theorem fed_of_feed (h : plan.feed trigger members steps n = .ok feed) :
    Fed members steps (plan.graph.incoming n.id) feed.ports feed.guards := by
  rw [Plan.feed] at h
  exact foldlM_induction (P := fun links feed => Fed members steps links feed.ports feed.guards)
    (fun _ _ _ _ hf hstep => hf.concat hstep) (plan.graph.incoming n.id) [] {} feed Fed.nil h

/-- A node is fed if all its links carry something. -/
theorem exists_feed (trigger : String)
    (h : ∀ l ∈ plan.graph.incoming n.id, ∃ expr, Carries members steps l expr) :
    ∃ feed, plan.feed trigger members steps n = .ok feed := by
  rcases foldlM_progress (P := fun _ _ => True) (E := fun _ => False)
    (f := feedLink trigger members steps n) (plan.graph.incoming n.id) [] {} trivial
    (fun pre l post heq feed _ => by
      obtain ⟨expr, hexpr⟩ := h l (by simp [heq])
      obtain ⟨feed', hfeed', -⟩ := feedLink_of_carries trigger n feed hexpr
      exact Or.inl ⟨feed', hfeed', trivial⟩) with hok | ⟨_, -, hfalse⟩
  · exact hok
  · exact hfalse.elim

/-! ## Bindings -/

/-- What becomes of a binding of a node. -/
def resolution (plan : Plan) (ports : Table String) (n : Node) (spec : BindingSpec) : Resolution :=
  spec.resolve n (spec.port?.bind ports.get?) plan.resources

/-- A binding of a critical node has no expression. -/
def Fails (plan : Plan) (critical : Ids) (ports : Table String) (n : Node) (spec : BindingSpec)
    (e : CompileError) : Prop :=
  n.id ∈ critical ∧ ∃ why, plan.resolution ports n spec = .unresolved why ∧
    e = .unresolvedBinding n.id spec.label why.detail

theorem bindSpec_progress (critical : Ids) (ports : Table String) (n : Node) (bound : Bound)
    (spec : BindingSpec) :
    (∃ bound', plan.bindSpec critical ports n bound spec = .ok bound') ∨
      ∃ e, plan.bindSpec critical ports n bound spec = .error e ∧
        plan.Fails critical ports n spec e := by
  rw [bindSpec, ← resolution]
  cases hr : plan.resolution ports n spec with
  | resolved expr => exact Or.inl ⟨_, rfl⟩
  | skipped => exact Or.inl ⟨_, rfl⟩
  | unresolved why =>
    by_cases hn : n.id ∈ critical
    · exact Or.inr ⟨_, if_pos (by simpa using hn), hn, why, hr, rfl⟩
    · exact Or.inl ⟨_, if_neg (by simpa using hn)⟩

theorem bindAll_progress (critical : Ids) (ports : Table String) (n : Node) :
    (∃ bound, plan.bindAll critical ports n = .ok bound) ∨
      ∃ e, plan.bindAll critical ports n = .error e ∧
        ∃ schema, plan.catalog.schemas.get? n.kind = some schema ∧
          ∃ spec ∈ schema.bindings, plan.Fails critical ports n spec e := by
  rw [bindAll]
  cases hs : plan.catalog.schemas.get? n.kind with
  | none => exact Or.inl ⟨_, rfl⟩
  | some schema =>
    simp only [Option.some.injEq, exists_eq_left']
    refine foldlM_progress (P := fun _ _ => True) schema.bindings [] ({} : Bound) trivial ?_
    intro pre spec post heq bound _
    rcases plan.bindSpec_progress critical ports n bound spec with ⟨b, hb⟩ | ⟨e, he, hfails⟩
    · exact Or.inl ⟨b, hb, trivial⟩
    · exact Or.inr ⟨e, he, spec, by simp [heq], hfails⟩

/-- At a critical node every binding has been resolved, or nothing was needed. -/
theorem resolution_of_bindAll {bound : Bound} {schema : KindSchema} {spec : BindingSpec}
    {why : Unbound} (h : plan.bindAll critical ports n = .ok bound) (hn : n.id ∈ critical)
    (hs : plan.catalog.schemas.get? n.kind = some schema) (hspec : spec ∈ schema.bindings) :
    plan.resolution ports n spec ≠ .unresolved why := by
  rw [bindAll, hs] at h
  refine foldlM_induction (f := plan.bindSpec critical ports n)
    (P := fun specs _ => ∀ spec ∈ specs, plan.resolution ports n spec ≠ .unresolved why)
    ?_ schema.bindings [] {} bound (by simp) h spec hspec
  intro pre x b b' hpre hx y hy
  rcases List.mem_append.mp hy with hy | hy
  · exact hpre y hy
  · rw [List.mem_singleton.mp hy]
    intro hr
    rw [bindSpec, ← resolution, hr] at hx
    simp [hn] at hx

/-- A binding that is fed through a port has the expression of that port. -/
theorem bindings_of_port {bound : Bound} {schema : KindSchema} {spec : BindingSpec}
    {port expr : String} (h : plan.bindAll critical ports n = .ok bound)
    (hs : plan.catalog.schemas.get? n.kind = some schema)
    (hnodup : (schema.bindings.map BindingSpec.name).Nodup) (hspec : spec ∈ schema.bindings)
    (hport : spec.port? = some port) (hexpr : ports.get? port = some expr) :
    bound.bindings.get? spec.name = some expr := by
  rw [bindAll, hs] at h
  refine foldlM_induction (f := plan.bindSpec critical ports n)
    (P := fun specs b => (specs.map BindingSpec.name).Nodup → ∀ spec ∈ specs, ∀ port expr,
      spec.port? = some port → ports.get? port = some expr →
        b.bindings.get? spec.name = some expr)
    ?_ schema.bindings [] {} bound (by simp) h hnodup spec hspec port expr hport hexpr
  intro pre x b b' hpre hx hnodup spec hspec port expr hport hexpr
  rw [List.map_append, List.nodup_append] at hnodup
  obtain ⟨hprenodup, -, hdisjoint⟩ := hnodup
  rcases List.mem_append.mp hspec with hspec | hspec
  · -- a later binding has another name
    have hne : spec.name ≠ x.name :=
      hdisjoint _ (List.mem_map_of_mem hspec) _ (by simp)
    have hold := hpre hprenodup spec hspec port expr hport hexpr
    rw [bindSpec] at hx
    split at hx
    · obtain rfl := Except.ok.inj hx
      exact hold
    · obtain rfl := (Except.ok.inj hx).symm
      rw [Table.get?_insert_of_ne _ _ hne, hold]
    · split at hx
      · simp at hx
      · obtain rfl := (Except.ok.inj hx).symm
        rw [Table.get?_insert_of_ne _ _ hne, hold]
  · obtain rfl := List.mem_singleton.mp hspec
    have hr : spec.resolve n (some expr) plan.resources = .resolved expr := by
      cases spec with
      | secret name field => simp [BindingSpec.port?] at hport
      | chain name field port => rfl
      | contract name field port => rfl
    rw [bindSpec, hport, Option.bind_some, hexpr, hr] at hx
    obtain rfl := (Except.ok.inj hx).symm
    simp

/-! ## Steps -/

/-- A step after the steps before it. -/
structure Made (plan : Plan) (critical members : Ids) (before : List Step) (s : Step) : Prop where
  fed : Fed members before (plan.graph.incoming s.node.id) s.inputs.ports s.guards
  bound : ∃ bound, plan.bindAll critical s.inputs.ports s.node = .ok bound ∧
    s.inputs.bindings = bound.bindings
  var : s.inputs.var = plan.var s.node.id
  emitted : ∃ emit, plan.catalog.emitters.get? s.node.kind = some emit ∧
    emit s.node s.inputs = .ok s.fragment

/-- A step is made exactly if something comes in along all links, the bindings are there and the emitter
of the kind succeeds. -/
theorem step_eq_ok_iff {made : Step × List Diagnostic} :
    plan.step critical trigger members steps n = .ok made ↔
      ∃ feed bound emit fragment, plan.feed trigger members steps n = .ok feed ∧
        plan.bindAll critical feed.ports n = .ok bound ∧
        plan.catalog.emitters.get? n.kind = some emit ∧
        emit n ⟨plan.var n.id, feed.ports, bound.bindings⟩ = .ok fragment ∧
        made = (⟨n, ⟨plan.var n.id, feed.ports, bound.bindings⟩, feed.guards, fragment⟩,
          feed.warnings ++ (if Guard.contradictory feed.guards then [contradictoryGuard n] else []) ++
            bound.warnings) := by
  simp only [step, bind_eq_ok_iff]
  constructor
  · rintro ⟨feed, hfeed, bound, hbound, h⟩
    split at h
    · simp [throw, throwThe, MonadExceptOf.throw] at h
    · rename_i emit hemit
      obtain ⟨fragment, hfragment, h⟩ := bind_eq_ok_iff.mp h
      exact ⟨feed, bound, emit, fragment, hfeed, hbound, hemit, hfragment, (Except.ok.inj h).symm⟩
  · rintro ⟨feed, bound, emit, fragment, hfeed, hbound, hemit, hfragment, rfl⟩
    refine ⟨feed, hfeed, bound, hbound, ?_⟩
    rw [hemit]
    exact bind_eq_ok_iff.mpr ⟨fragment, hfragment, rfl⟩

theorem made_of_step {s : Step} {warnings : List Diagnostic}
    (h : plan.step critical trigger members steps n = .ok (s, warnings)) :
    s.node = n ∧ plan.Made critical members steps s := by
  obtain ⟨feed, bound, emit, fragment, hfeed, hbound, hemit, hfragment, heq⟩ := step_eq_ok_iff.mp h
  obtain ⟨rfl, -⟩ := Prod.mk.inj heq
  exact ⟨rfl, fed_of_feed hfeed, ⟨bound, hbound, rfl⟩, rfl, emit, hemit, hfragment⟩

/-- A handler has a step for each of its nodes, each made after those before it. -/
structure MadeOf (plan : Plan) (critical members : Ids) (nodes : List Node) (steps : List Step) :
    Prop where
  nodes : steps.map Step.node = nodes
  made : ∀ before s after, steps = before ++ s :: after → plan.Made critical members before s

theorem madeOf_addStep {nodes : List Node} {done done' : Steps}
    (hd : plan.MadeOf critical members nodes done.steps)
    (h : plan.addStep critical trigger members done n = .ok done') :
    plan.MadeOf critical members (nodes ++ [n]) done'.steps := by
  simp only [addStep, bind_eq_ok_iff] at h
  obtain ⟨⟨s, warnings⟩, hs, h⟩ := h
  obtain rfl := (Except.ok.inj h).symm
  obtain ⟨rfl, hmade⟩ := made_of_step hs
  exact ⟨by simp [hd.nodes], forall_split_concat hd.made hmade⟩

theorem madeOf_addSteps {nodes : List Node} {done : Steps}
    (h : nodes.foldlM (plan.addStep critical trigger members) {} = .ok done) :
    plan.MadeOf critical members nodes done.steps :=
  foldlM_induction (P := fun nodes (done : Steps) => plan.MadeOf critical members nodes done.steps)
    (fun _ _ _ _ hd hstep => madeOf_addStep hd hstep) nodes [] {} done ⟨rfl, by simp⟩ h

/-- A handler is made exactly if all its steps are and that of the trigger has a hook. -/
theorem handler_eq_ok_iff {made : Handler × List Diagnostic} :
    plan.handler critical trigger = .ok made ↔
      ∃ done hook, (plan.memberNodes (plan.members trigger)).foldlM
          (plan.addStep critical trigger (plan.members trigger)) {} = .ok done ∧
        (stepOf? done.steps trigger).bind (·.fragment.trigger) = some hook ∧
        made = (⟨trigger, plan.var trigger, hook, done.steps⟩, done.warnings) := by
  simp only [handler, bind_eq_ok_iff]
  constructor
  · rintro ⟨done, hdone, h⟩
    split at h
    · simp [throw, throwThe, MonadExceptOf.throw] at h
    · rename_i hook hhook
      exact ⟨done, hook, hdone, hhook, (Except.ok.inj h).symm⟩
  · rintro ⟨done, hook, hdone, hhook, rfl⟩
    refine ⟨done, hdone, ?_⟩
    rw [stepOf?] at hhook
    rw [hhook]
    rfl

theorem madeOf_handler {h : Handler} {warnings : List Diagnostic}
    (hh : plan.handler critical trigger = .ok (h, warnings)) :
    h.trigger = trigger ∧ plan.MadeOf critical (plan.members trigger)
      (plan.memberNodes (plan.members trigger)) h.steps := by
  obtain ⟨done, hook, hdone, -, heq⟩ := handler_eq_ok_iff.mp hh
  obtain ⟨rfl, -⟩ := Prod.mk.inj heq
  exact ⟨rfl, madeOf_addSteps hdone⟩

/-- A workflow is what its handlers make, if there is a trigger and every kind has an emitter. -/
theorem workflow_eq (plan : Plan) : plan.workflow =
    if plan.triggers.isEmpty then .error .noTrigger
    else match plan.unsupported? with
      | some n => .error (.unsupportedKind n.id n.kind)
      | none => plan.handlers.map fun made =>
        ⟨plan.pipeline.id, plan.pipeline.version, made.1, Diagnostic.merge [] made.2⟩ := by
  rw [workflow]
  split
  · rfl
  · cases plan.unsupported? with
    | none =>
      cases plan.handlers with
      | error e => rfl
      | ok made => rfl
    | some n => rfl

theorem workflow_eq_ok_iff {w : Workflow} : plan.workflow = .ok w ↔
    plan.triggers.isEmpty = false ∧ plan.unsupported? = none ∧
      ∃ made, plan.triggers.mapM (plan.handler plan.critical) = .ok made ∧
        w = ⟨plan.pipeline.id, plan.pipeline.version, made.map Prod.fst,
          Diagnostic.merge [] (made.flatMap Prod.snd)⟩ := by
  rw [workflow_eq]
  cases plan.triggers.isEmpty with
  | true => simp
  | false =>
    cases plan.unsupported? with
    | some n => simp
    | none =>
      rw [handlers]
      cases plan.triggers.mapM (plan.handler plan.critical) with
      | error e => simp [bind, Except.bind, Except.map]
      | ok made => simp [bind, Except.bind, pure, Except.pure, Except.map, eq_comm]

/-- A workflow has one handler for each trigger, in their order. -/
theorem handlers_of_workflow {w : Workflow} (h : plan.workflow = .ok w) :
    w.handlers.map Handler.trigger = plan.triggers ∧ ∀ handler ∈ w.handlers,
      ∃ warnings, plan.handler plan.critical handler.trigger = .ok (handler, warnings) := by
  obtain ⟨-, -, made, hmade, rfl⟩ := workflow_eq_ok_iff.mp h
  have hall := mapM_eq_ok_iff.mp hmade
  constructor
  · have htriggers : List.Forall₂ (· = ·) plan.triggers (made.map fun pair => pair.1.trigger) :=
      List.forall₂_map_right_iff.mpr (hall.imp fun t pair hpair => by
        obtain ⟨handler, warnings⟩ := pair
        exact (madeOf_handler hpair).1.symm)
    rw [List.forall₂_eq_eq_eq] at htriggers
    rw [List.map_map, htriggers]
    rfl
  · intro handler hhandler
    obtain ⟨⟨_, warnings⟩, hpair, rfl⟩ := List.mem_map.mp hhandler
    obtain ⟨t, -, ht⟩ := exists_mem_of_forall₂ hall hpair
    obtain ⟨rfl, -⟩ := madeOf_handler ht
    exact ⟨warnings, ht⟩

end Plan

end Flowline

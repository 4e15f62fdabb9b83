import Flowline.Proofs.Compile.Validated
import Flowline.Proofs.Simulation.Exclusion
import Flowline.Proofs.Simulation.Rings
import Flowline.Proofs.Validation.Structural
import Flowline.Service

/-!
# A simulation starts as a whole or not at all

A request to simulate a pipeline looks at the lock, the store, the diagnostics and the script before it
asks the runner for anything, and the runner looks at the lock again before it changes anything.  So a
request that is refused leaves the service as it was, and one that is not leaves a running session with
the lock, a topic and a run of the script.  What is new about the session follows from the invariant of
the runner, whatever runs and requests there have been.
-/

namespace Flowline

open Simulation Relation

/-! ## Requests in place -/

namespace Serving

variable {α β : Type}

theorem on_bind (x : Serving α) (next : α → Serving β) (s : Service) :
    (x >>= next).on s = match x.on s with
      | (.ok a, t) => (next a).on t
      | (.error why, t) => (.error why, t) := by
  unfold on
  rw [run_bind]
  rcases x.run.run s with ⟨answer, t⟩
  cases answer with
  | ok a => rfl
  | error why => rfl

theorem on_get (s : Service) : (get : Serving Service).on s = (.ok s, s) := rfl

theorem on_ask (f : Service → Except ServiceError α) (s : Service) : (ask f).on s = (f s, s) := by
  rw [ask, on_bind, on_get]
  dsimp only
  cases f s with
  | ok a => rfl
  | error why => rfl

/-- What the service is after a run has been started in it. -/
def begun (session id code : String) (env : Table String) (s : Service) : Service :=
  let r := { s.runner with locks := s.runner.locks.insert id session }
  { s with schedule :=
      { s.schedule with runner := (r.openTopic session).enter session id }.spawn session code env }

/-- A start looks at the lock before it changes anything. -/
theorem on_start (session id code : String) (env : Table String) (s : Service) :
    (start session id code env).on s = match s.runner.active? id with
      | some holder => (.error (.conflict id holder), s)
      | none => (.ok session, begun session id code env s) := by
  have hrunner : (runner (.start session id)).on s = match s.runner.active? id with
      | some holder => (.error (.conflict id holder), s)
      | none => (.ok (), { s with schedule := { s.schedule with
          runner := ({ s.runner with locks := s.runner.locks.insert id session }.openTopic session).enter
            session id } }) := by
    rw [runner, on_bind, on_get]
    dsimp only
    rw [Starting.on_start, Runner.acquire, Runner.active?]
    cases s.runner.locks.get? id with
    | some holder => rfl
    | none => rfl
  rw [start, on_bind, hrunner]
  cases s.runner.active? id with
  | some holder => rfl
  | none => rfl

/-- What is prepared is only looked up. -/
theorem on_prepare (id : String) (s : Service) :
    (prepare id).on s = (match s.runner.active? id with
      | some holder => .error (.conflict id holder)
      | none => do
        let p ← s.pipeline id
        let compiled ← s.build p
        return (compiled.code, s.secretEnv p), s) := by
  rw [prepare, on_bind, on_get]
  dsimp only
  cases s.runner.active? id with
  | some holder => rfl
  | none =>
    change (ask (·.pipeline id) >>= _).on s = _
    rw [on_bind, on_ask]
    cases s.pipeline id with
    | error why => rfl
    | ok p =>
      change _ = ((do let compiled ← s.build p; return (compiled.code, s.secretEnv p)), s)
      dsimp only
      rw [on_bind, on_ask]
      cases s.build p with
      | error why => rfl
      | ok compiled => rfl

end Serving

/-! ## What is started, and what is refused -/

/-- A run of a script has been started, with a session of a new name. -/
structure Started (s : Service) (session id code : String) (env : Table String) (t : Service) : Prop where
  /-- No session, topic or lock was of this name. -/
  unknown : s.runner.session? session = none
  silent : s.runner.channel.isOpen session = false
  lockless : ∀ p, s.runner.active? p ≠ some session
  /-- The session is running, has the lock and can be subscribed to. -/
  running : t.runner.session? session = some (Session.new session id)
  lock : t.runner.active? id = some session
  topic : t.runner.channel.isOpen session = true
  /-- The script waits to be launched. -/
  run : t.schedule.runs =
    s.schedule.runs ++ [⟨session, s.schedule.nextDirectory, .waiting code env⟩]
  /-- Everything else is as it was. -/
  locks : ∀ p, p ≠ id → t.runner.active? p = s.runner.active? p
  sessions : ∀ x, x ≠ session → t.runner.session? x = s.runner.session? x
  topics : ∀ x, x ≠ session → t.runner.channel.topics.get? x = s.runner.channel.topics.get? x
  store : t.store = s.store

/-- The first thing that keeps a pipeline from being simulated. -/
inductive Service.Refuses (s : Service) (id : String) : ServiceError → Prop
  | conflict {holder : String} (h : s.runner.active? id = some holder) :
      Refuses s id (.conflict id holder)
  | pipelineNotFound (hfree : s.runner.active? id = none) (h : s.store.get? id = none) :
      Refuses s id (.pipelineNotFound id)
  | invalid {p : Pipeline} (hfree : s.runner.active? id = none) (hstored : s.store.get? id = some p)
      (h : ∃ d ∈ p.validate s.catalog.schemas, d.isError = true) :
      Refuses s id (.build (.invalid (p.validate s.catalog.schemas)))
  | failed {p : Pipeline} {why : CompileError} (hfree : s.runner.active? id = none)
      (hstored : s.store.get? id = some p)
      (hvalid : ∀ d ∈ p.validate s.catalog.schemas, d.isError = false)
      (h : s.catalog.compile s.resources p = .error why) : Refuses s id (.build (.failed why))

/-- Nothing keeps a pipeline from being simulated. -/
def Service.CanSimulate (s : Service) (id : String) : Prop :=
  s.runner.active? id = none ∧ ∃ p, s.store.get? id = some p ∧
    (∀ d ∈ p.validate s.catalog.schemas, d.isError = false) ∧
    ∃ compiled, s.catalog.compile s.resources p = .ok compiled

/-- What a name that no run has had is not the name of. -/
theorem Simulation.Hub.Valid.unknown_of_fresh {w : Hub} {session : String} (hv : w.Valid)
    (fresh : w.runs.get? session = none) :
    w.runner.session? session = none ∧ w.runner.channel.topics.get? session = none ∧
      ∀ p, w.runner.active? p ≠ some session := by
  refine ⟨?_, ?_, fun p hp => ?_⟩
  · rw [Runner.session?, hv.showing.unknown session fresh]
    rfl
  · have htopic := hv.topics session
    rw [fresh] at htopic
    simpa [Channel.terminal?] using htopic
  · obtain ⟨run, hrun, -⟩ := (hv.locking.holder p session).mp hp
    rw [fresh] at hrun
    cases hrun

theorem started_begun {s : Service} {session : String} (id code : String) (env : Table String)
    (hsession : s.runner.session? session = none)
    (htopic : s.runner.channel.topics.get? session = none)
    (hlock : ∀ p, s.runner.active? p ≠ some session) :
    Started s session id code env (Serving.begun session id code env s) where
  unknown := hsession
  silent := by rw [Channel.isOpen, Table.has_eq_isSome, htopic]; rfl
  lockless := hlock
  running := by
    change Option.map _ (Table.get? (Table.insert session _ _) session) = _
    rw [Table.get?_insert_self]
    rfl
  lock := Table.get?_insert_self _ id session
  topic := by
    change (s.runner.channel.openTopic session).isOpen session = true
    rw [Channel.openTopic_of_get?_eq_none htopic, Channel.isOpen, Table.has_eq_isSome,
      Table.get?_insert_self]
    rfl
  run := rfl
  locks p hp := Table.get?_insert_of_ne _ _ hp
  sessions x hx := by
    change Option.map _ (Table.get? (Table.insert session _ _) x) = _
    rw [Table.get?_insert_of_ne _ _ hx]
    rfl
  topics x hx := Channel.get?_openTopic_of_ne s.runner.channel hx
  store := rfl

namespace Service

variable {s : Service} {id : String} {p : Pipeline}

theorem build_of_error (h : ∃ d ∈ p.validate s.catalog.schemas, d.isError = true) :
    s.build p = .error (.build (.invalid (p.validate s.catalog.schemas))) := by
  have hnot : Diagnostic.isCompilable (p.validate s.catalog.schemas) = false := by
    simpa [Diagnostic.isCompilable] using h
  rw [build_eq, Catalog.build]
  simp [hnot, Except.mapError]

theorem build_of_valid (h : ∀ d ∈ p.validate s.catalog.schemas, d.isError = false) :
    (∀ why, s.catalog.compile s.resources p = .error why → s.build p = .error (.build (.failed why))) ∧
      ∀ c, s.catalog.compile s.resources p = .ok c → ∃ compiled, s.build p = .ok compiled := by
  have hvalid : Diagnostic.isCompilable (p.validate s.catalog.schemas) = true := by
    simpa [Diagnostic.isCompilable] using h
  constructor
  · intro why hwhy
    rw [build_eq, Catalog.build]
    simp [hvalid, hwhy, Except.mapError]
  · intro c hc
    rw [build_eq, Catalog.build]
    simp [hvalid, hc, Except.mapError]

/-- Nothing is in the way of a simulation, or something is that comes first. -/
theorem canSimulate_or_refuses (s : Service) (id : String) :
    (s.CanSimulate id ∧ ∃ p compiled, s.store.get? id = some p ∧ s.build p = .ok compiled) ∨
      ∃ e, s.Refuses id e := by
  cases hlock : s.runner.active? id with
  | some holder => exact Or.inr ⟨_, .conflict hlock⟩
  | none =>
    cases hstored : s.store.get? id with
    | none => exact Or.inr ⟨_, .pipelineNotFound hlock hstored⟩
    | some p =>
      by_cases hvalid : ∀ d ∈ p.validate s.catalog.schemas, d.isError = false
      · cases hcompile : s.catalog.compile s.resources p with
        | error why => exact Or.inr ⟨_, .failed hlock hstored hvalid hcompile⟩
        | ok c =>
          obtain ⟨compiled, hbuild⟩ := (build_of_valid hvalid).2 c hcompile
          exact Or.inl ⟨⟨hlock, p, hstored, hvalid, c, hcompile⟩, p, compiled, rfl, hbuild⟩
      · refine Or.inr ⟨_, .invalid hlock hstored ?_⟩
        simpa using hvalid

theorem Refuses.not_canSimulate {e : ServiceError} (h : s.Refuses id e) : ¬ s.CanSimulate id := by
  rintro ⟨hfree, p, hstored, hvalid, c, hcompile⟩
  cases h with
  | conflict h => simp [h] at hfree
  | pipelineNotFound _ h => simp [h] at hstored
  | invalid _ hstored' h =>
    obtain rfl := Option.some.inj (hstored.symm.trans hstored')
    obtain ⟨d, hd, herror⟩ := h
    simp [hvalid d hd] at herror
  | failed _ hstored' _ h =>
    obtain rfl := Option.some.inj (hstored.symm.trans hstored')
    simp [h] at hcompile

/-- What is refused is refused before anything is changed. -/
theorem Refuses.prepare {e : ServiceError} (h : s.Refuses id e) :
    (Serving.prepare id).on s = (.error e, s) := by
  rw [Serving.on_prepare]
  cases h with
  | conflict h => rw [h]
  | pipelineNotFound hfree h =>
    rw [hfree, pipeline, h]
    rfl
  | invalid hfree hstored h =>
    rw [hfree, pipeline_of_stored hstored]
    dsimp only [bind, Except.bind]
    rw [build_of_error h]
  | failed hfree hstored hvalid h =>
    rw [hfree, pipeline_of_stored hstored]
    dsimp only [bind, Except.bind]
    rw [(build_of_valid hvalid).1 _ h]

theorem prepare_of_built {compiled : Compiled} (hfree : s.runner.active? id = none)
    (hstored : s.store.get? id = some p) (hbuild : s.build p = .ok compiled) :
    (Serving.prepare id).on s = (.ok (compiled.code, s.secretEnv p), s) := by
  rw [Serving.on_prepare, hfree, pipeline_of_stored hstored]
  dsimp only [bind, Except.bind]
  rw [hbuild]
  rfl

theorem Refuses.unique {e e' : ServiceError} (h : s.Refuses id e) (h' : s.Refuses id e') : e = e' := by
  have heq := h.prepare.symm.trans h'.prepare
  exact Except.error.inj (congrArg Prod.fst heq)

end Service

namespace Serving

variable {s : Service} {session id : String}

theorem on_simulate_of_refuses {e : ServiceError} (h : s.Refuses id e) :
    (simulate session id).on s = (.error e, s) := by
  rw [simulate, on_bind, h.prepare]

theorem on_simulate_of_built {p : Pipeline} {compiled : Compiled} (hfree : s.runner.active? id = none)
    (hstored : s.store.get? id = some p) (hbuild : s.build p = .ok compiled) :
    (simulate session id).on s =
      (.ok session, begun session id compiled.code (s.secretEnv p) s) := by
  rw [simulate, on_bind, Service.prepare_of_built hfree hstored hbuild]
  change (start session id compiled.code (s.secretEnv p)).on s = _
  rw [on_start, hfree]

/-- A run of the script is started, or the request is refused for what is in the way. -/
theorem on_simulate_cases (s : Service) (session id : String) :
    (s.CanSimulate id ∧ ∃ p compiled, s.store.get? id = some p ∧ s.build p = .ok compiled ∧
      (simulate session id).on s =
        (.ok session, begun session id compiled.code (s.secretEnv p) s)) ∨
      ∃ e, s.Refuses id e ∧ (simulate session id).on s = (.error e, s) := by
  rcases s.canSimulate_or_refuses id with ⟨hcan, p, compiled, hstored, hbuild⟩ | ⟨e, he⟩
  · exact Or.inl ⟨hcan, p, compiled, hstored, hbuild, on_simulate_of_built hcan.1 hstored hbuild⟩
  · exact Or.inr ⟨e, he, on_simulate_of_refuses he⟩

end Serving

/-! ## The service in the course of time -/

/-- A service with the runs that were ever started and the subscribers of their sessions. -/
structure World where
  service : Service
  hub : Hub
  agree : service.runner = hub.runner

namespace World

/-- A service without pipelines. -/
def init (catalog : Catalog) (secrets : Secrets) (chains : Chains) (config : Config)
    (host : Table String) : World :=
  ⟨Service.new catalog secrets chains config host, Hub.init config, rfl⟩

/-- A change of the store, or one section of a run, of a client or of a start.  What else the schedule
has of the runs may be anything. -/
inductive Step : World → World → Prop
  | insert (w : World) (p : Pipeline) : Step w ⟨w.service.insert p, w.hub, w.agree⟩
  | remove (w : World) (id : String) : Step w ⟨(w.service.remove id).2, w.hub, w.agree⟩
  | turn {w : World} {hub : Hub} {schedule : Schedule} (h : Hub.Step w.hub hub)
      (agree : schedule.runner = hub.runner) : Step w ⟨{ w.service with schedule }, hub, agree⟩

/-- The services that come about. -/
def Reachable (w : World) : Prop :=
  ∃ catalog secrets chains config host, ReflTransGen Step (init catalog secrets chains config host) w

variable {w w' : World} {session id : String}

theorem Reachable.steps (hw : w.Reachable) (h : ReflTransGen Step w w') : w'.Reachable := by
  obtain ⟨catalog, secrets, chains, config, host, hsteps⟩ := hw
  exact ⟨catalog, secrets, chains, config, host, hsteps.trans h⟩

theorem Reachable.valid (hw : w.Reachable) : w.hub.Valid := by
  obtain ⟨catalog, secrets, chains, config, host, hsteps⟩ := hw
  induction hsteps with
  | refl => exact Hub.valid_init config
  | tail _ hstep hv =>
    cases hstep with
    | insert p => exact hv
    | remove id => exact hv
    | turn h agree => exact hv.step h

/-- Steps of the hub are steps of the service, whatever becomes of the schedule. -/
theorem steps_turn {hub : Hub} (h : ReflTransGen Hub.Step w.hub hub) {schedule : Schedule}
    (agree : schedule.runner = hub.runner) :
    ReflTransGen Step w ⟨{ w.service with schedule }, hub, agree⟩ := by
  induction h generalizing schedule with
  | refl => exact .single (.turn .look agree)
  | @tail hub _ _ hstep ih =>
    have hbefore : ReflTransGen Step w
        ⟨{ w.service with schedule := { schedule with runner := hub.runner } }, hub, rfl⟩ := ih rfl
    exact hbefore.tail (.turn hstep agree)

theorem Reachable.started (hw : w.Reachable) (fresh : w.hub.runs.get? session = none) (id code : String)
    (env : Table String) :
    Started w.service session id code env (Serving.begun session id code env w.service) := by
  have hunknown := hw.valid.unknown_of_fresh fresh
  rw [← w.agree] at hunknown
  exact started_begun id code env hunknown.1 hunknown.2.1 hunknown.2.2

/-- A run that is started comes about by the steps of a start. -/
theorem Reachable.begun (hw : w.Reachable) (fresh : w.hub.runs.get? session = none)
    (hfree : w.service.runner.active? id = none) (code : String) (env : Table String) :
    ∃ hub agree, Reachable ⟨Serving.begun session id code env w.service, hub, agree⟩ := by
  have hstart : ∃ r, w.hub.runner.start session id = .ok r ∧
      (Serving.begun session id code env w.service).runner = r := by
    refine ⟨_, Runner.start_eq_ok_iff.mpr ⟨_, Runner.acquire_eq_ok_iff.mpr ⟨?_, rfl⟩, rfl⟩, ?_⟩
    · rw [← w.agree]
      exact hfree
    · rw [← w.agree]
      rfl
  obtain ⟨r, hr, hrunner⟩ := hstart
  obtain ⟨hub, hsteps, hhub, -⟩ := Hub.steps_start fresh hr
  exact ⟨hub, hrunner.trans hhub.symm, hw.steps (steps_turn hsteps (hrunner.trans hhub.symm))⟩

/-! ## All or nothing -/

/-- What holds of a request to simulate a pipeline with a session of a new name. -/
structure AllOrNothing (w : World) (session id : String) : Prop where
  /-- It is accepted exactly if the lock is free, the pipeline is stored and valid, and it compiles. -/
  accepted_iff : (∃ x, ((Serving.simulate session id).on w.service).1 = .ok x) ↔ w.service.CanSimulate id
  /-- Then there is a new running session with the lock, a topic and a run of the compiled script. -/
  accepted : ∀ x t, (Serving.simulate session id).on w.service = (.ok x, t) → x = session ∧
    ∃ p compiled, w.service.store.get? id = some p ∧ w.service.compile id = .ok compiled ∧
      Started w.service session id compiled.code (w.service.secretEnv p) t
  /-- Otherwise it is refused for the first thing that is in the way. -/
  refused_iff : ∀ e, ((Serving.simulate session id).on w.service).1 = .error e ↔ w.service.Refuses id e
  /-- A request that is refused changes nothing. -/
  refused : ∀ e t, (Serving.simulate session id).on w.service = (.error e, t) → t = w.service
  /-- The service after it is again one that comes about. -/
  reachable : ∃ hub agree, Reachable ⟨((Serving.simulate session id).on w.service).2, hub, agree⟩
  /-- If others act before the run is started, the start is refused for a lock that was taken meanwhile,
  and changes nothing, or is done as a whole. -/
  late : ∀ w' code env, ReflTransGen Step w w' → w'.hub.runs.get? session = none →
    (∃ holder, w'.service.runner.active? id = some holder ∧
      (Serving.start session id code env).on w'.service = (.error (.conflict id holder), w'.service)) ∨
    ∃ t, w'.service.runner.active? id = none ∧
      (Serving.start session id code env).on w'.service = (.ok session, t) ∧
        Started w'.service session id code env t

/-- Whatever requests and runs there have been, a simulation starts as a whole or not at all. -/
theorem allOrNothing_of_reachable (hw : w.Reachable) (fresh : w.hub.runs.get? session = none)
    (id : String) : w.AllOrNothing session id := by
  have hcases := Serving.on_simulate_cases w.service session id
  constructor
  case accepted_iff =>
    rcases hcases with ⟨hcan, p, compiled, -, -, hon⟩ | ⟨e, he, hon⟩
    · exact ⟨fun _ => hcan, fun _ => ⟨session, by rw [hon]⟩⟩
    · refine ⟨fun ⟨x, hx⟩ => ?_, fun hcan => absurd hcan he.not_canSimulate⟩
      rw [hon] at hx
      cases hx
  case accepted =>
    intro x t hx
    rcases hcases with ⟨-, p, compiled, hstored, hbuild, hon⟩ | ⟨e, -, hon⟩
    · rw [hon] at hx
      cases hx
      exact ⟨rfl, p, compiled, hstored, (Service.compile_of_stored hstored).trans hbuild,
        hw.started fresh id _ _⟩
    · rw [hon] at hx
      cases hx
  case refused_iff =>
    intro e'
    rcases hcases with ⟨hcan, p, compiled, -, -, hon⟩ | ⟨e, he, hon⟩
    · rw [hon]
      exact ⟨nofun, fun he => absurd hcan he.not_canSimulate⟩
    · rw [hon]
      exact ⟨fun heq => Except.error.inj heq ▸ he, fun he' => congrArg _ (he.unique he')⟩
  case refused =>
    intro e' t ht
    rcases hcases with ⟨-, p, compiled, -, -, hon⟩ | ⟨e, -, hon⟩
    · rw [hon] at ht
      cases ht
    · rw [hon] at ht
      exact (congrArg Prod.snd ht).symm
  case reachable =>
    rcases hcases with ⟨hcan, p, compiled, -, -, hon⟩ | ⟨e, -, hon⟩
    · rw [hon]
      exact hw.begun fresh hcan.1 _ _
    · rw [hon]
      exact ⟨w.hub, w.agree, hw⟩
  case late =>
    intro w' code env hsteps hfresh
    rw [Serving.on_start]
    cases hlock : w'.service.runner.active? id with
    | some holder => exact Or.inl ⟨holder, rfl, rfl⟩
    | none => exact Or.inr ⟨_, rfl, rfl, (hw.steps hsteps).started hfresh id code env⟩

/-- A pipeline is simulated, and while it is running another request for it is refused. -/
theorem allOrNothing_twice :
    ∃ w w' : World, w.Reachable ∧ w'.Reachable ∧
      (Serving.simulate "#0" "authorized").on w.service = (.ok "#0", w'.service) ∧
      (Serving.simulate "#1" "authorized").on w'.service =
        (.error (.conflict "authorized" "#0"), w'.service) := by
  obtain ⟨w, hw, hfresh, hcan⟩ : ∃ w : World, w.Reachable ∧ w.hub.runs.get? "#0" = none ∧
      w.service.CanSimulate "authorized" := by
    let empty := init Catalog.builtin (Secrets.ofValues [("token", "s3cret")]) Chains.standard {} []
    exact ⟨⟨empty.service.insert Catalog.authorized, empty.hub, rfl⟩,
      ⟨_, _, _, _, _, .single (.insert empty Catalog.authorized)⟩, rfl, rfl, Catalog.authorized, rfl,
      by decide +kernel, isOk_iff.mp (by decide +kernel)⟩
  have hall := allOrNothing_of_reachable hw hfresh "authorized"
  obtain ⟨x, hx⟩ := hall.accepted_iff.mpr hcan
  obtain ⟨rfl, p, compiled, -, -, hstarted⟩ := hall.accepted x _ (Prod.ext hx rfl)
  obtain ⟨hub, agree, hw'⟩ := hall.reachable
  exact ⟨w, _, hw, hw', Prod.ext hx rfl, Serving.on_simulate_of_refuses (.conflict hstarted.lock)⟩

end World

end Flowline

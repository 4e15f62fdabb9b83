import Flowline.Proofs.Simulation.Steps

/-!
# One live run for each pipeline

What the invariant says to those who use the runner: a pipeline is run by one session at a time, the
lock is free before anyone learns of the end, an outcome does not change, and an id that has been
returned stays good until the session is discarded.
-/

namespace Flowline.Simulation

open Relation

/-- An event tells the status, the exit code and the reason of a session that has ended. -/
def Session.ToldBy (s : Session) (e : Event) : Prop :=
  s.status.isTerminal = true ∧ ∃ reason, s.reason = some reason ∧
    e = .complete (s.status = .succeeded) s.exitCode reason

theorem Session.Ended.toldBy {s : Session} {e : Event} (h : s.Ended (some e)) : s.ToldBy e := by
  refine ⟨h.isTerminal, ?_⟩
  obtain ⟨o, houtcome, hstatus, he⟩ := h
  refine ⟨o.reason, by rw [Session.reason, houtcome]; rfl, ?_⟩
  rw [Option.some.inj he, Session.exitCode, houtcome, hstatus]
  cases o.success <;> rfl

/-! ## Ends are final -/

namespace Runner

variable {r : Runner} {id : String} {s : Session}

theorem session?_eq_some_iff :
    r.session? id = some s ↔ ∃ x, r.sessions.get? id = some x ∧ x.session = s :=
  Option.map_eq_some_iff

theorem session?_insert_of_ne {t : String} {x : Entry} (h : id ≠ t) :
    { r with sessions := r.sessions.insert t x }.session? id = r.session? id := by
  rw [session?, session?, Table.get?_insert_of_ne _ _ h]

theorem session?_update_of_ne {t : String} (h : id ≠ t) (f : Session → Option Event × Session) :
    (r.update t f).2.session? id = r.session? id := by
  rw [update]
  split
  · rfl
  · exact session?_insert_of_ne h

@[simp] theorem session?_publish? (t : String) (e : Option Event) :
    (r.publish? t e).session? id = r.session? id := by
  cases e <;> rfl

@[simp] theorem session?_release (t p : String) : (r.release t p).session? id = r.session? id := by
  rw [session?, session?, release_sessions]

/-- No line, no second end and no stop changes a session that has ended. -/
theorem ended_unchanged (h : r.session? id = some s) (hs : s.status.isTerminal = true) :
    (∀ l, (r.record id l).1 = none ∧ (r.record id l).2.session? id = some s) ∧
      (∀ o, (r.finish id o).1 = none ∧ (r.finish id o).2.session? id = some s) ∧
      ∀ r', r.stop id = .ok r' → r'.session? id = some s := by
  obtain ⟨x, hx, rfl⟩ := session?_eq_some_iff.mp h
  refine ⟨fun l => ?_, fun o => ?_, fun r' hr' => ?_⟩
  · rw [record, update_eq hx, Session.append_terminal hs]
    exact ⟨rfl, by simp [session?]⟩
  · rw [finish, update_eq hx, Session.finish_terminal hs]
    exact ⟨rfl, by simp [session?]⟩
  · obtain ⟨y, hy, rfl⟩ := stop_eq_ok_iff.mp hr'
    obtain rfl := Option.some.inj (hx.symm.trans hy)
    simp [session?]

end Runner

theorem Phase.holds_of_announced {a : Phase} {e : Event} (h : a.announced? = some e) :
    a.holds = false := by
  cases a <;> first | rfl | cases h

theorem Phase.topic?_of_announced {a : Phase} {e : Event} (h : a.announced? = some e) :
    a.topic? ≠ some none := by
  cases a with
  | announced event =>
    obtain rfl : event = some e := h
    nofun
  | closed _ => nofun
  | gone _ => nofun
  | _ => cases h

namespace Hub

variable {w w' : Hub} {id p : String} {k : ℕ} {ses : Session} {e : Option Event}

theorem Valid.session_of_running (hv : w.Valid) (hid : w.runs.get? id = some ⟨p, k, .running⟩)
    (hses : w.runner.session? id = some ses) : ses.status = .running := by
  obtain ⟨x, hx, rfl⟩ := Runner.session?_eq_some_iff.mp hses
  obtain ⟨y, hy, -, hstatus⟩ := hv.entry hid
  obtain rfl := Option.some.inj (hx.symm.trans hy)
  exact hstatus

/-- A session that has ended is as it was, or has been discarded for good. -/
def Settled (w : Hub) (id : String) (ses : Session) : Prop :=
  w.runner.session? id = some ses ∨ ∃ p k e, w.runs.get? id = some ⟨p, k, .gone e⟩

/-- Only the step that discards it changes a session that has ended. -/
theorem Valid.settled_of_step (hv : w.Valid) (h : Step w w')
    (hses : w.runner.session? id = some ses) (hterminal : ses.status.isTerminal = true) :
    w'.Settled id ses := by
  have hrunning : ∀ {t p k}, w.runs.get? t = some ⟨p, k, .running⟩ → id ≠ t := by
    rintro t p k ht rfl
    rw [hv.session_of_running ht hses] at hterminal
    cases hterminal
  cases h with
  | acquire fresh h =>
    obtain ⟨-, rfl⟩ := Runner.acquire_eq_ok_iff.mp h
    exact Or.inl hses
  | refused h => exact Or.inl hses
  | openTopic h => exact Or.inl hses
  | @enter t _ _ h =>
    have hne : id ≠ t := by
      rintro rfl
      have hnone := hv.entry h
      rw [Runner.session?, hnone] at hses
      cases hses
    exact Or.inl ((Runner.session?_insert_of_ne hne).trans hses)
  | record l h => exact Or.inl ((Runner.session?_update_of_ne (hrunning h) _).trans hses)
  | publish h => exact Or.inl ((Runner.session?_publish? _ _).trans hses)
  | finish o h => exact Or.inl ((Runner.session?_update_of_ne (hrunning h) _).trans hses)
  | release h => exact Or.inl ((Runner.session?_release _ _).trans hses)
  | announce h => exact Or.inl ((Runner.session?_publish? _ _).trans hses)
  | closeTopic h => exact Or.inl hses
  | @discard t p k e h =>
    by_cases hid : id = t
    · exact Or.inr ⟨p, k, e, by rw [hid]; exact Table.get?_insert_self _ _ _⟩
    · refine Or.inl ?_
      rw [Hub.move, Runner.session?, Runner.discard, Table.get?_erase_of_ne _ hid]
      exact hses
  | @stop t r h =>
    by_cases hid : id = t
    · exact Or.inl ((Runner.ended_unchanged hses hterminal).2.2 r (hid ▸ h))
    · obtain ⟨x, -, rfl⟩ := Runner.stop_eq_ok_iff.mp h
      exact Or.inl ((Runner.session?_insert_of_ne hid).trans hses)
  | subscribe h => exact Or.inl hses
  | receive h => exact Or.inl hses
  | look => exact Or.inl hses

/-- A run that is over takes no further step. -/
theorem gone_of_step (h : Step w w') (hid : w.runs.get? id = some ⟨p, k, .gone e⟩) :
    w'.runs.get? id = some ⟨p, k, .gone e⟩ := by
  obtain ⟨y, hy, rfl | hnext⟩ := h.launch hid
  · exact hy
  · cases hnext

theorem Valid.steps (hv : w.Valid) (h : ReflTransGen Step w w') : w'.Valid := by
  induction h with
  | refl => exact hv
  | tail _ hstep ih => exact ih.step hstep

/-- However many steps are taken, a session that has ended is as it was, or has been discarded. -/
theorem Valid.settled_of_steps (hv : w.Valid) (h : ReflTransGen Step w w')
    (hses : w.runner.session? id = some ses) (hterminal : ses.status.isTerminal = true) :
    w'.Settled id ses := by
  induction h with
  | refl => exact Or.inl hses
  | tail hsteps hstep ih =>
    rcases ih with hses | ⟨p, k, e, hgone⟩
    · exact (hv.steps hsteps).settled_of_step hstep hses hterminal
    · exact Or.inr ⟨p, k, e, gone_of_step hstep hgone⟩

theorem Valid.final (hv : w.Valid) (h : ReflTransGen Step w w') {ses' : Session}
    (hses : w.runner.session? id = some ses) (hterminal : ses.status.isTerminal = true)
    (hses' : w'.runner.session? id = some ses') : ses' = ses := by
  rcases hv.settled_of_steps h hses hterminal with hsame | ⟨p, k, e, hgone⟩
  · exact Option.some.inj (hses'.symm.trans hsame)
  · have hnone := (hv.steps h).entry hgone
    rw [Runner.session?, hnone] at hses'
    cases hses'

/-! ## What users may rely on -/

/-- A running session holds the lock of its pipeline. -/
theorem Valid.lock_of_running (hv : w.Valid) (hses : w.runner.session? id = some ses)
    (hrunning : ses.status = .running) : w.runner.active? ses.pipeline = some id := by
  obtain ⟨x, hx, rfl⟩ := Runner.session?_eq_some_iff.mp hses
  have hended : ∀ {y : Entry} {event}, some x = some y → ¬ y.session.Ended event := by
    rintro y event ⟨⟩ hended
    have hterminal := hended.isTerminal
    rw [hrunning] at hterminal
    cases hterminal
  cases hrun : w.runs.get? id with
  | none =>
    rw [hv.showing.unknown id hrun] at hx
    cases hx
  | some run =>
    obtain ⟨p, k, phase⟩ := run
    have hshows := hv.entry hrun
    rw [hx] at hshows
    have hlock : x.session.pipeline = p → phase.holds = true →
        w.runner.active? x.session.pipeline = some id := fun hp hholds =>
      (hv.locking.holder _ id).mpr ⟨_, hrun, hp.symm, hholds⟩
    cases phase with
    | opening => cases hshows
    | entering => cases hshows
    | running =>
      obtain ⟨_, ⟨⟩, hp, -⟩ := hshows
      exact hlock hp rfl
    | recorded event =>
      obtain ⟨⟨_, ⟨⟩, hp, -⟩, -⟩ := hshows
      exact hlock hp rfl
    | gone event => cases hshows
    | _ =>
      obtain ⟨_, hy, -, hshows⟩ := hshows
      exact absurd hshows (hended hy)

/-- An end that was announced is that of the session, while this is known. -/
theorem Valid.toldBy_of_announced {e : Event} (hv : w.Valid) (h : Announced w.runs id e)
    (hses : w.runner.session? id = some ses) : ses.ToldBy e := by
  obtain ⟨⟨p, k, phase⟩, hrun, hphase⟩ := h
  obtain ⟨x, hx, rfl⟩ := Runner.session?_eq_some_iff.mp hses
  have hshows := hv.entry hrun
  rw [hx] at hshows
  cases phase with
  | announced event =>
    obtain ⟨_, ⟨⟩, -, hended⟩ := hshows
    obtain rfl : event = some e := hphase
    exact hended.toldBy
  | closed event =>
    obtain ⟨_, ⟨⟩, -, hended⟩ := hshows
    obtain rfl : event = some e := hphase
    exact hended.toldBy
  | gone event => cases hshows
  | _ => cases hphase

/-- Once the end of a session has been announced, a start of its pipeline can conflict only with a
session that was started after it. -/
theorem Valid.newer_of_announced {e : Event} (hv : w.Valid) (h : Announced w.runs id e) :
    ∃ run, w.runs.get? id = some run ∧ (∀ p, w.runner.active? p ≠ some id) ∧
      ∀ new err, w.runner.start new run.pipeline = .error err →
        ∃ s other, err = .conflict run.pipeline s ∧ w.runs.get? s = some other ∧
          other.pipeline = run.pipeline ∧ run.number < other.number := by
  obtain ⟨run, hrun, hphase⟩ := h
  have hdropped := Phase.holds_of_announced hphase
  have hfree : ∀ p, w.runner.active? p ≠ some id := by
    intro p hp
    obtain ⟨other, hother, -, hholds⟩ := (hv.locking.holder p id).mp hp
    obtain rfl := Option.some.inj (hrun.symm.trans hother)
    rw [hdropped] at hholds
    cases hholds
  refine ⟨run, hrun, hfree, fun new err herr => ?_⟩
  obtain ⟨s, hs, rfl⟩ := Runner.start_eq_error_iff.mp herr
  obtain ⟨other, hother, hpipeline, hholds⟩ := (hv.locking.holder _ s).mp hs
  refine ⟨s, other, rfl, hother, hpipeline, ?_⟩
  rcases Nat.lt_trichotomy run.number other.number with hlt | heq | hgt
  · exact hlt
  · obtain rfl := hv.locking.number_injective id s run other hrun hother heq
    exact absurd hs (hfree _)
  · rw [hv.locking.older s id other run hother hrun hpipeline hgt] at hholds
    cases hholds

theorem Valid.isSome_session?_iff (hv : w.Valid) (s : String) :
    (w.runner.session? s).isSome = true ↔
      ∃ run, w.runs.get? s = some run ∧ run.phase.isKnown = true := by
  rw [Runner.session?, Option.isSome_map]
  cases hrun : w.runs.get? s with
  | none => simp [hv.showing.unknown s hrun]
  | some run =>
    obtain ⟨p, k, phase⟩ := run
    have hshows := hv.entry hrun
    cases phase with
    | opening => simp [show w.runner.sessions.get? s = none from hshows, Phase.isKnown]
    | entering => simp [show w.runner.sessions.get? s = none from hshows, Phase.isKnown]
    | gone event => simp [show w.runner.sessions.get? s = none from hshows, Phase.isKnown]
    | recorded event =>
      obtain ⟨⟨x, hx, -⟩, -⟩ := hshows
      simp [hx, Phase.isKnown]
    | _ =>
      obtain ⟨x, hx, -⟩ := hshows
      simp [hx, Phase.isKnown]

theorem Valid.exists_subscribe_iff (hv : w.Valid) (s : String) :
    (∃ sub, w.runner.subscribe s = .ok sub) ↔
      ∃ run, w.runs.get? s = some run ∧ run.phase.topic?.isSome = true := by
  have htopic : (∃ sub, w.runner.subscribe s = .ok sub) ↔
      (w.runner.channel.terminal? s).isSome = true := by
    simp only [Runner.subscribe_eq_ok_iff, Channel.subscribe, Channel.terminal?, Option.isSome_map]
    cases w.runner.channel.topics.get? s with
    | none => simp
    | some topic => simp
  rw [htopic, hv.topics]
  cases w.runs.get? s with
  | none => simp
  | some run => simp

/-- What holds for those who use the runner, at any time. -/
structure Safe (w : Hub) : Prop where
  /-- No two sessions of one pipeline are running. -/
  running_unique : ∀ s t a b, w.runner.session? s = some a → w.runner.session? t = some b →
    a.pipeline = b.pipeline → a.status = .running → b.status = .running → s = t
  /-- A session has the lock of a pipeline exactly if it was started for the pipeline and its guard
  has not been dropped. -/
  lock_iff : ∀ p s, w.runner.active? p = some s ↔
    ∃ run, w.runs.get? s = some run ∧ run.pipeline = p ∧ run.phase.holds = true
  /-- A session whose topic has its terminal event has no lock. -/
  free : ∀ s topic, w.runner.channel.topics.get? s = some topic → topic.terminal.isSome = true →
    ∀ p, w.runner.active? p ≠ some s
  /-- Who has received the end of a session is refused its pipeline only for a newer session. -/
  newer : ∀ x ∈ w.clients, ∀ e ∈ x.received, e.isTerminal = true →
    ∃ run, w.runs.get? x.session = some run ∧ (∀ p, w.runner.active? p ≠ some x.session) ∧
      ∀ new err, w.runner.start new run.pipeline = .error err →
        ∃ s other, err = .conflict run.pipeline s ∧ w.runs.get? s = some other ∧
          other.pipeline = run.pipeline ∧ run.number < other.number
  /-- A session that has ended is never again different, whatever steps are taken. -/
  final : ∀ w', ReflTransGen Step w w' → ∀ s a b, w.runner.session? s = some a →
    w'.runner.session? s = some b → a.status.isTerminal = true → b = a
  /-- No line, no second end and no stop alters a session that has ended. -/
  unchanged : ∀ s a, w.runner.session? s = some a → a.status.isTerminal = true →
    (∀ l, (w.runner.record s l).1 = none ∧ (w.runner.record s l).2.session? s = some a) ∧
      (∀ o, (w.runner.finish s o).1 = none ∧ (w.runner.finish s o).2.session? s = some a) ∧
      ∀ r, w.runner.stop s = .ok r → r.session? s = some a
  /-- The terminal event of a topic tells the outcome of its session. -/
  told : ∀ s topic e a, w.runner.channel.topics.get? s = some topic → topic.terminal = some e →
    w.runner.session? s = some a → a.ToldBy e
  /-- The end that a subscriber has received tells the outcome of its session. -/
  heard : ∀ x ∈ w.clients, ∀ e ∈ x.received, e.isTerminal = true → ∀ a,
    w.runner.session? x.session = some a → a.ToldBy e
  /-- A session is known from when its id was returned until it is discarded. -/
  known : ∀ s, (w.runner.session? s).isSome = true ↔
    ∃ run, w.runs.get? s = some run ∧ run.phase.isKnown = true
  /-- A session can be subscribed to while its topic is open. -/
  subscribable : ∀ s, (∃ sub, w.runner.subscribe s = .ok sub) ↔
    ∃ run, w.runs.get? s = some run ∧ run.phase.topic?.isSome = true

/-- Whatever runs and clients do, in whatever order, a pipeline has one live run, and its lock is free
before the end of the run is seen. -/
theorem safe_of_reachable {config : Config} (h : Reachable config w) : w.Safe := by
  have hv := valid_of_reachable h
  have hannounced : ∀ s topic e, w.runner.channel.topics.get? s = some topic →
      topic.terminal = some e → Announced w.runs s e := by
    intro s topic e htopic he
    obtain ⟨run, hrun, hphase⟩ := hv.announced_of_topic htopic he
    exact ⟨run, hrun, by rw [hphase]; rfl⟩
  constructor
  case running_unique =>
    intro s t a b ha hb hpipeline hra hrb
    have hs := hv.lock_of_running ha hra
    have ht := hv.lock_of_running hb hrb
    rw [hpipeline, ht] at hs
    exact (Option.some.inj hs).symm
  case lock_iff => exact hv.locking.holder
  case free =>
    intro s topic htopic hsome
    obtain ⟨e, he⟩ := Option.isSome_iff_exists.mp hsome
    obtain ⟨-, -, hfree, -⟩ := hv.newer_of_announced (hannounced s topic e htopic he)
    exact hfree
  case newer =>
    exact fun x hx e he hterminal =>
      hv.newer_of_announced ((hv.clients x hx).received e he hterminal)
  case final => exact fun w' hsteps s a b ha hb hterminal => hv.final hsteps ha hterminal hb
  case unchanged => exact fun s a => Runner.ended_unchanged
  case told =>
    exact fun s topic e a htopic he => hv.toldBy_of_announced (hannounced s topic e htopic he)
  case heard =>
    exact fun x hx e he hterminal a =>
      hv.toldBy_of_announced ((hv.clients x hx).received e he hterminal)
  case known => exact hv.isSome_session?_iff
  case subscribable => exact hv.exists_subscribe_iff

/-- Someone has received the end of one session of a pipeline while the next one holds its lock. -/
theorem safe_handover :
    ∃ w, Reachable {} w ∧ w.Safe ∧ w.runner.active? "pipeline" = some "second" ∧
      ∃ x ∈ w.clients, x.session = "first" ∧
        x.received = [.complete true (some 0) .exited] := by
  have h : Reachable {} _ := ReflTransGen.refl
    |>.tail (@Step.acquire _ "first" "pipeline" _ rfl rfl)
    |>.tail (@Step.openTopic _ "first" "pipeline" 0 rfl)
    |>.tail (@Step.enter _ "first" "pipeline" 0 rfl)
    |>.tail (@Step.subscribe _ "first" _ rfl)
    |>.tail (@Step.finish _ "first" "pipeline" 0 ⟨some 0, .exited⟩ rfl)
    |>.tail (@Step.release _ "first" "pipeline" 0 _ rfl)
    |>.tail (@Step.announce _ "first" "pipeline" 0 _ rfl)
    |>.tail (@Step.receive _ [] [] _ rfl)
    |>.tail (@Step.acquire _ "second" "pipeline" _ rfl rfl)
  exact ⟨_, h, safe_of_reachable h, rfl, _, List.mem_singleton.mpr rfl, rfl, rfl⟩

end Hub

end Flowline.Simulation

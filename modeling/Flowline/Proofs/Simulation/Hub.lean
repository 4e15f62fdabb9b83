import Flowline.Proofs.Folds
import Flowline.Simulation.Runner
import Mathlib.Logic.Relation

/-!
# Runs and clients, interleaved

The runner as a step relation.  A step is one section of the runner that nothing can interrupt, taken by
a run, by a client or by the start of a run; between any two of them others may take theirs.  A run
records how far it has come: after the lock has been taken for it, it opens a topic and makes its
session known, then it records and publishes lines until it ends, gives the lock back, announces the
end, closes the topic and discards the session.
-/

namespace Flowline.Simulation

open Relation

/-- How far a run has come. -/
inductive Phase
  /-- The lock has been taken for it. -/
  | opening
  /-- Its topic is open. -/
  | entering
  /-- Its session is known, and its id has been returned. -/
  | running
  /-- A line has been recorded, of which this event tells. -/
  | recorded (event : Option Event)
  /-- The session has ended, of which this event tells. -/
  | finished (event : Option Event)
  /-- The lock has been given back. -/
  | released (event : Option Event)
  /-- The end has been announced. -/
  | announced (event : Option Event)
  /-- The topic has been closed. -/
  | closed (event : Option Event)
  /-- The session has been discarded. -/
  | gone (event : Option Event)

namespace Phase

/-- The guard of the lock has not been dropped. -/
def holds : Phase → Bool
  | opening | entering | running | recorded _ | finished _ => true
  | _ => false

/-- The id has been returned, and the session is not discarded yet. -/
def isKnown : Phase → Bool
  | running | recorded _ | finished _ | released _ | announced _ | closed _ => true
  | _ => false

/-- While the topic is open, its terminal event. -/
def topic? : Phase → Option (Option Event)
  | entering | running | recorded _ | finished _ | released _ => some none
  | announced event => some event
  | _ => none

/-- The end that has been announced. -/
def announced? : Phase → Option Event
  | announced event | closed event | gone event => event
  | _ => none

/-- A run comes from one phase to the next. -/
inductive Next : Phase → Phase → Prop
  | openTopic : Next opening entering
  | enter : Next entering running
  | record (event : Option Event) : Next running (recorded event)
  | publish (event : Option Event) : Next (recorded event) running
  | finish (event : Option Event) : Next running (finished event)
  | release (event : Option Event) : Next (finished event) (released event)
  | announce (event : Option Event) : Next (released event) (announced event)
  | closeTopic (event : Option Event) : Next (announced event) (closed event)
  | discard (event : Option Event) : Next (closed event) (gone event)

end Phase

/-- A run that was started for a pipeline. -/
structure Launch where
  pipeline : String
  /-- How many runs were started before it. -/
  number : Nat
  phase : Phase

/-- A subscriber of a session, and what it has received. -/
structure Client where
  session : String
  subscription : Subscription
  received : List Event

/-- A client asks for the next event. -/
def Client.receive (c : Channel) (x : Client) : Client :=
  match c.receive x.subscription with
  | (.event e, s) => { x with subscription := s, received := x.received ++ [e] }
  | (_, s) => { x with subscription := s }

/-- The runner with all runs that were ever started, by their sessions, and all subscribers. -/
structure Hub where
  runner : Runner
  runs : Table Launch
  /-- How many runs were started. -/
  started : Nat
  clients : List Client

namespace Starting

theorem on_acquire (id p : String) (r : Runner) :
    (acquire id p).on r = match r.acquire id p with
      | .ok s => (.ok (), s)
      | .error e => (.error e, r) := by
  refine (run_bind _ _ r).trans ?_
  change (match r.acquire id p with
    | .ok s => (set s : Starting)
    | .error e => throw e).run.run r = _
  cases r.acquire id p with
  | ok s => rfl
  | error e => rfl

/-- A start is refused before it has changed anything, or takes all of its sections. -/
theorem on_start (id p : String) (r : Runner) :
    (start id p).on r = match r.acquire id p with
      | .ok s => (.ok (), (s.openTopic id).enter id p)
      | .error e => (.error e, r) := by
  refine (run_bind _ _ r).trans ?_
  rw [← on, on_acquire]
  cases r.acquire id p with
  | ok s => rfl
  | error e => rfl

end Starting

namespace Runner

variable {r r' : Runner} {id p : String} {e : RunnerError} {x : Entry}

/-- A lock is taken exactly if it is free. -/
theorem acquire_eq_ok_iff :
    r.acquire id p = .ok r' ↔
      r.locks.get? p = none ∧ r' = { r with locks := r.locks.insert p id } := by
  rw [acquire]
  split
  · rename_i holder h
    simp [h]
  · rename_i h
    simp [h, eq_comm]

theorem acquire_eq_error_iff :
    r.acquire id p = .error e ↔ ∃ holder, r.locks.get? p = some holder ∧ e = .conflict p holder := by
  rw [acquire]
  split
  · rename_i holder h
    simp [h, eq_comm]
  · rename_i h
    simp [h]

theorem start_eq_ok_iff :
    r.start id p = .ok r' ↔
      ∃ s, r.acquire id p = .ok s ∧ r' = (s.openTopic id).enter id p := by
  rw [start, Starting.on_start]
  cases r.acquire id p with
  | error e => simp
  | ok s => simp [eq_comm]

/-- A start is refused only for the lock. -/
theorem start_eq_error_iff :
    r.start id p = .error e ↔ ∃ holder, r.active? p = some holder ∧ e = .conflict p holder := by
  rw [active?, ← acquire_eq_error_iff, start, Starting.on_start]
  cases r.acquire id p with
  | error e => simp
  | ok s => simp

@[simp] theorem release_sessions (id p : String) : (r.release id p).sessions = r.sessions := by
  rw [release]
  split <;> rfl

@[simp] theorem release_channel (id p : String) : (r.release id p).channel = r.channel := by
  rw [release]
  split <;> rfl

theorem stop_eq_ok_iff :
    r.stop id = .ok r' ↔ ∃ x, r.sessions.get? id = some x ∧
      r' = { r with sessions := r.sessions.insert id { x with cancelled := true } } := by
  rw [stop]
  split
  · rename_i h
    simp [h]
  · rename_i x h
    simp [h, eq_comm]

theorem subscribe_eq_ok_iff {s : Subscription} :
    r.subscribe id = .ok s ↔ r.channel.subscribe id = some s := by
  rw [subscribe]
  split
  · rename_i h
    simp [h]
  · rename_i h
    simp [h]

/-- Only a topic that is not open cannot be subscribed to. -/
theorem subscribe_eq_error_iff :
    r.subscribe id = .error e ↔ r.channel.isOpen id = false ∧ e = .sessionNotFound id := by
  rw [subscribe, Channel.subscribe, Channel.isOpen, Table.has_eq_isSome]
  cases r.channel.topics.get? id with
  | none => simp [eq_comm]
  | some topic => simp

theorem update_eq (h : r.sessions.get? id = some x) (f : Session → Option Event × Session) :
    r.update id f = ((f x.session).1,
      { r with sessions := r.sessions.insert id { x with session := (f x.session).2 } }) := by
  simp only [update, h]

end Runner

namespace Hub

def init (config : Config) : Hub := ⟨Runner.new config, [], 0, []⟩

variable (w : Hub)

/-- The step of a run after which it has come to some phase. -/
def move (id : String) (run : Launch) (r : Runner) : Hub :=
  { w with runner := r, runs := w.runs.insert id run }

/-- One section of a run or of a client. -/
inductive Step : Hub → Hub → Prop
  /-- A start takes the lock for a session with a new id. -/
  | acquire {w : Hub} {id p : String} {r : Runner} (fresh : w.runs.get? id = none)
      (h : w.runner.acquire id p = .ok r) :
      Step w { w.move id ⟨p, w.started, .opening⟩ r with started := w.started + 1 }
  /-- A start is refused. -/
  | refused {w : Hub} {id p : String} {e : RunnerError} (h : w.runner.acquire id p = .error e) :
      Step w w
  | openTopic {w : Hub} {id p : String} {k : Nat} (h : w.runs.get? id = some ⟨p, k, .opening⟩) :
      Step w (w.move id ⟨p, k, .entering⟩ (w.runner.openTopic id))
  | enter {w : Hub} {id p : String} {k : Nat} (h : w.runs.get? id = some ⟨p, k, .entering⟩) :
      Step w (w.move id ⟨p, k, .running⟩ (w.runner.enter id p))
  | record {w : Hub} {id p : String} {k : Nat} (l : LogLine)
      (h : w.runs.get? id = some ⟨p, k, .running⟩) :
      Step w (w.move id ⟨p, k, .recorded (w.runner.record id l).1⟩ (w.runner.record id l).2)
  | publish {w : Hub} {id p : String} {k : Nat} {e : Option Event}
      (h : w.runs.get? id = some ⟨p, k, .recorded e⟩) :
      Step w (w.move id ⟨p, k, .running⟩ (w.runner.publish? id e))
  | finish {w : Hub} {id p : String} {k : Nat} (o : Outcome)
      (h : w.runs.get? id = some ⟨p, k, .running⟩) :
      Step w (w.move id ⟨p, k, .finished (w.runner.finish id o).1⟩ (w.runner.finish id o).2)
  | release {w : Hub} {id p : String} {k : Nat} {e : Option Event}
      (h : w.runs.get? id = some ⟨p, k, .finished e⟩) :
      Step w (w.move id ⟨p, k, .released e⟩ (w.runner.release id p))
  | announce {w : Hub} {id p : String} {k : Nat} {e : Option Event}
      (h : w.runs.get? id = some ⟨p, k, .released e⟩) :
      Step w (w.move id ⟨p, k, .announced e⟩ (w.runner.publish? id e))
  | closeTopic {w : Hub} {id p : String} {k : Nat} {e : Option Event}
      (h : w.runs.get? id = some ⟨p, k, .announced e⟩) :
      Step w (w.move id ⟨p, k, .closed e⟩ (w.runner.closeTopic id))
  | discard {w : Hub} {id p : String} {k : Nat} {e : Option Event}
      (h : w.runs.get? id = some ⟨p, k, .closed e⟩) :
      Step w (w.move id ⟨p, k, .gone e⟩ (w.runner.discard id))
  /-- A client has any run stopped. -/
  | stop {w : Hub} {id : String} {r : Runner} (h : w.runner.stop id = .ok r) :
      Step w { w with runner := r }
  | subscribe {w : Hub} {id : String} {s : Subscription} (h : w.runner.subscribe id = .ok s) :
      Step w { w with clients := w.clients ++ [⟨id, s, []⟩] }
  | receive {w : Hub} {before after : List Client} {x : Client}
      (h : w.clients = before ++ x :: after) :
      Step w { w with clients := before ++ x.receive w.runner.channel :: after }
  /-- A client looks up a session, or the session that runs a pipeline. -/
  | look {w : Hub} : Step w w

/-- The hubs that come about. -/
def Reachable (config : Config) (w : Hub) : Prop := ReflTransGen Step (init config) w

variable {w} {w' : Hub} {id t p q : String} {k n : Nat} {x a b : Phase} {r : Runner}

/-- When one run comes to its next phase, all others stay where they are. -/
theorem launch_move (ht : w.runs.get? t = some ⟨q, n, a⟩) (hab : a.Next b)
    (hid : w.runs.get? id = some ⟨p, k, x⟩) :
    ∃ y, (w.move t ⟨q, n, b⟩ r).runs.get? id = some ⟨p, k, y⟩ ∧ (y = x ∨ x.Next y) := by
  by_cases heq : id = t
  · subst heq
    rw [ht] at hid
    obtain ⟨rfl, rfl, rfl⟩ := Launch.mk.inj (Option.some.inj hid)
    exact ⟨b, Table.get?_insert_self _ _ _, Or.inr hab⟩
  · exact ⟨x, (Table.get?_insert_of_ne _ _ heq).trans hid, Or.inl rfl⟩

/-- In a step a run stays where it is or comes to its next phase. -/
theorem Step.launch (h : Step w w') (hid : w.runs.get? id = some ⟨p, k, x⟩) :
    ∃ y, w'.runs.get? id = some ⟨p, k, y⟩ ∧ (y = x ∨ x.Next y) := by
  cases h with
  | @acquire t q r fresh _ =>
    have hne : id ≠ t := by
      rintro rfl
      rw [fresh] at hid
      cases hid
    exact ⟨x, (Table.get?_insert_of_ne _ _ hne).trans hid, Or.inl rfl⟩
  | openTopic ht => exact launch_move ht .openTopic hid
  | enter ht => exact launch_move ht .enter hid
  | record l ht => exact launch_move ht (.record _) hid
  | publish ht => exact launch_move ht (.publish _) hid
  | finish o ht => exact launch_move ht (.finish _) hid
  | release ht => exact launch_move ht (.release _) hid
  | announce ht => exact launch_move ht (.announce _) hid
  | closeTopic ht => exact launch_move ht (.closeTopic _) hid
  | discard ht => exact launch_move ht (.discard _) hid
  | refused _ => exact ⟨x, hid, Or.inl rfl⟩
  | stop _ => exact ⟨x, hid, Or.inl rfl⟩
  | subscribe _ => exact ⟨x, hid, Or.inl rfl⟩
  | receive _ => exact ⟨x, hid, Or.inl rfl⟩
  | look => exact ⟨x, hid, Or.inl rfl⟩

end Hub

end Flowline.Simulation

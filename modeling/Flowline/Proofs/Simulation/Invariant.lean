import Flowline.Proofs.Simulation.Channel
import Flowline.Proofs.Simulation.Hub

/-!
# The invariant of the runner

`Hub.Valid` is what every step keeps.  It has a part for each of the maps that the steps change: the
locks are those of the runs whose guard has not been dropped, the sessions and the topics are as the
phases of the runs say, and no subscriber has come upon an end that was not announced.
-/

namespace Flowline.Simulation

open Relation

/-! ## Sessions -/

namespace Session

variable {s : Session}

/-- A session has ended, and this event tells of it. -/
def Ended (s : Session) (event : Option Event) : Prop :=
  ∃ o, s.outcome = some o ∧ s.status = (if o.success then .succeeded else .failed) ∧
    event = some (.complete o.success o.exitCode o.reason)

theorem Ended.isTerminal {event : Option Event} (h : s.Ended event) : s.status.isTerminal = true := by
  obtain ⟨o, -, hstatus, -⟩ := h
  rw [hstatus]
  cases o.success <;> rfl

/-- A line that is recorded leaves a running session running, and tells of no end. -/
theorem append_running (h : s.status = .running) (maxBytes : ℕ) (l : LogLine) :
    (s.append maxBytes l).2.status = .running ∧ (s.append maxBytes l).2.pipeline = s.pipeline ∧
      ∀ e, (s.append maxBytes l).1 = some e → e.isTerminal = false := by
  have hpush : ∀ (s : Session) (l : LogLine), s.status = .running →
      (s.push l).2.status = .running ∧ (s.push l).2.pipeline = s.pipeline ∧
        ∀ e, (s.push l).1 = some e → e.isTerminal = false := by
    intro s l hs
    refine ⟨hs, rfl, fun e he => ?_⟩
    obtain rfl := Option.some.inj he
    rfl
  have hlive : s.status.isTerminal = false := by rw [h]; rfl
  rw [append, if_neg (by simp [hlive])]
  split
  · exact hpush s l h
  · split
    · exact ⟨h, rfl, fun e he => by cases he⟩
    · dsimp only
      split
      · exact hpush { s with truncated := true } ⟨.system, truncationMarker⟩ h
      · exact hpush { s with outputBytes := s.outputBytes + l.line.utf8ByteSize } l h

theorem ended_finish (h : s.status = .running) (o : Outcome) :
    (s.finish o).2.Ended (s.finish o).1 ∧ (s.finish o).2.pipeline = s.pipeline := by
  have hlive : s.status.isTerminal = false := by rw [h]; rfl
  rw [finish, if_neg (by simp [hlive])]
  exact ⟨⟨o, rfl, rfl, rfl⟩, rfl⟩

/-- Lines that come after the end are not recorded. -/
theorem append_terminal (h : s.status.isTerminal = true) (maxBytes : ℕ) (l : LogLine) :
    s.append maxBytes l = (none, s) := if_pos h

/-- Only the first end counts. -/
theorem finish_terminal (h : s.status.isTerminal = true) (o : Outcome) :
    s.finish o = (none, s) := if_pos h

end Session

/-- What is known of the session of a run. -/
def Launch.Shows (run : Launch) (entry : Option Entry) : Prop :=
  match run.phase with
  | .opening | .entering | .gone _ => entry = none
  | .running => ∃ x, entry = some x ∧ x.session.pipeline = run.pipeline ∧
      x.session.status = .running
  | .recorded e => (∃ x, entry = some x ∧ x.session.pipeline = run.pipeline ∧
      x.session.status = .running) ∧ ∀ event, e = some event → event.isTerminal = false
  | .finished e | .released e | .announced e | .closed e =>
    ∃ x, entry = some x ∧ x.session.pipeline = run.pipeline ∧ x.session.Ended e

/-- The sessions that are known are those that the runs show. -/
structure Showing (sessions : Table Entry) (runs : Table Launch) : Prop where
  unknown : ∀ s, runs.get? s = none → sessions.get? s = none
  shows : ∀ s run, runs.get? s = some run → run.Shows (sessions.get? s)

namespace Showing

variable {sessions sessions' : Table Entry} {runs : Table Launch} {id : String} {run : Launch}

theorem move (h : Showing sessions runs) (hother : ∀ s, s ≠ id → sessions'.get? s = sessions.get? s)
    (hshows : run.Shows (sessions'.get? id)) : Showing sessions' (runs.insert id run) := by
  constructor
  · intro s hs
    rw [Table.get?_insert] at hs
    split at hs
    · cases hs
    · rename_i hne
      rw [hother s hne]
      exact h.unknown s hs
  · intro s x hx
    rcases Table.get?_insert_eq_some.mp hx with ⟨rfl, rfl⟩ | ⟨hne, hx⟩
    · exact hshows
    · rw [hother s hne]
      exact h.shows s x hx

/-- That a run is to be stopped is not shown. -/
theorem cancel {x : Entry} (h : Showing sessions runs) (hx : sessions.get? id = some x) :
    Showing (sessions.insert id { x with cancelled := true }) runs := by
  constructor
  · intro s hs
    have hnone := h.unknown s hs
    have hne : s ≠ id := by
      rintro rfl
      rw [hx] at hnone
      cases hnone
    rw [Table.get?_insert_of_ne _ _ hne, hnone]
  · intro s run hrun
    have hshows := h.shows s run hrun
    by_cases hs : s = id
    · rw [hs, hx] at hshows
      rw [hs, Table.get?_insert_self]
      revert hshows
      rw [Launch.Shows, Launch.Shows]
      split <;> simp
    · rwa [Table.get?_insert_of_ne _ _ hs]

end Showing

/-! ## Locks -/

/-- The locks are those of the runs whose guard has not been dropped.  Runs of one pipeline hold its
lock one after the other, in the order in which they were started. -/
structure Locking (locks : Table String) (runs : Table Launch) (started : ℕ) : Prop where
  holder : ∀ p s, locks.get? p = some s ↔
    ∃ run, runs.get? s = some run ∧ run.pipeline = p ∧ run.phase.holds = true
  number_lt : ∀ s run, runs.get? s = some run → run.number < started
  number_injective : ∀ s t a b, runs.get? s = some a → runs.get? t = some b →
    a.number = b.number → s = t
  older : ∀ s t a b, runs.get? s = some a → runs.get? t = some b → a.pipeline = b.pipeline →
    a.number < b.number → a.phase.holds = false

namespace Locking

variable {locks : Table String} {runs : Table Launch} {started k : ℕ} {id p : String} {a b : Phase}

theorem acquire (h : Locking locks runs started) (fresh : runs.get? id = none)
    (hfree : locks.get? p = none) :
    Locking (locks.insert p id) (runs.insert id ⟨p, started, .opening⟩) (started + 1) := by
  have hid : ∀ q, locks.get? q ≠ some id := fun q hq => by
    obtain ⟨run, hrun, -⟩ := (h.holder q id).mp hq
    rw [fresh] at hrun
    cases hrun
  constructor
  · intro q s
    rw [Table.get?_insert, Table.get?_insert]
    by_cases hs : s = id
    · subst hs
      by_cases hq : q = p
      · simp [hq, Phase.holds]
      · simp [hq, hid, Ne.symm hq]
    · rw [if_neg hs, ← h.holder]
      by_cases hq : q = p
      · simp [hq, hfree, Ne.symm hs]
      · rw [if_neg hq]
  · intro s run hrun
    rcases Table.get?_insert_eq_some.mp hrun with ⟨-, rfl⟩ | ⟨-, hrun⟩
    · exact Nat.lt_succ_self _
    · exact Nat.lt_succ_of_lt (h.number_lt s run hrun)
  · intro s t x y hx hy hnumber
    rcases Table.get?_insert_eq_some.mp hx with ⟨rfl, rfl⟩ | ⟨-, hx⟩
    · rcases Table.get?_insert_eq_some.mp hy with ⟨rfl, -⟩ | ⟨-, hy⟩
      · rfl
      · exact absurd hnumber (Nat.ne_of_gt (h.number_lt t y hy))
    · rcases Table.get?_insert_eq_some.mp hy with ⟨-, rfl⟩ | ⟨-, hy⟩
      · exact absurd hnumber (Nat.ne_of_lt (h.number_lt s x hx))
      · exact h.number_injective s t x y hx hy hnumber
  · intro s t x y hx hy hpipeline hnumber
    rcases Table.get?_insert_eq_some.mp hx with ⟨-, rfl⟩ | ⟨-, hx⟩
    · -- none is newer than the new run
      rcases Table.get?_insert_eq_some.mp hy with ⟨-, rfl⟩ | ⟨-, hy⟩
      · exact absurd hnumber (Nat.lt_irrefl _)
      · exact absurd hnumber (Nat.not_lt_of_gt (h.number_lt t y hy))
    · rcases Table.get?_insert_eq_some.mp hy with ⟨-, rfl⟩ | ⟨-, hy⟩
      · -- the lock was free when the new run took it
        rw [← Bool.not_eq_true]
        intro hholds
        have hlock := (h.holder p s).mpr ⟨x, hx, hpipeline, hholds⟩
        rw [hfree] at hlock
        cases hlock
      · exact h.older s t x y hx hy hpipeline hnumber

/-- A run that goes on is still the run of its pipeline, with its number. -/
theorem get?_move (hid : runs.get? id = some ⟨p, k, a⟩) {s : String} {run : Launch}
    (hrun : (runs.insert id ⟨p, k, b⟩).get? s = some run) :
    ∃ before, runs.get? s = some before ∧ before.pipeline = run.pipeline ∧
      before.number = run.number ∧ (run.phase = before.phase ∨ before.phase = a ∧ run.phase = b) := by
  rcases Table.get?_insert_eq_some.mp hrun with ⟨rfl, rfl⟩ | ⟨-, hrun⟩
  · exact ⟨⟨p, k, a⟩, hid, rfl, rfl, Or.inr ⟨rfl, rfl⟩⟩
  · exact ⟨run, hrun, rfl, rfl, Or.inl rfl⟩

/-- When a run goes on, the locks lose its own at most. -/
theorem move {locks' : Table String} (h : Locking locks runs started)
    (hid : runs.get? id = some ⟨p, k, a⟩) (hholds : b.holds = true → a.holds = true)
    (hlocks : ∀ q s, locks'.get? q = some s ↔
      locks.get? q = some s ∧ (s = id → b.holds = true)) :
    Locking locks' (runs.insert id ⟨p, k, b⟩) started := by
  constructor
  · intro q s
    rw [hlocks, h.holder, Table.get?_insert]
    by_cases hs : s = id
    · subst hs
      simp only [hid, if_true, Option.some.injEq, exists_eq_left', true_implies]
      exact ⟨fun ⟨⟨hp, _⟩, hb⟩ => ⟨hp, hb⟩, fun ⟨hp, hb⟩ => ⟨⟨hp, hholds hb⟩, hb⟩⟩
    · simp [hs]
  · intro s run hrun
    obtain ⟨before, hbefore, -, hnumber, -⟩ := get?_move hid hrun
    rw [← hnumber]
    exact h.number_lt s before hbefore
  · intro s t x y hx hy hnumber
    obtain ⟨x', hx', -, hxnumber, -⟩ := get?_move hid hx
    obtain ⟨y', hy', -, hynumber, -⟩ := get?_move hid hy
    exact h.number_injective s t x' y' hx' hy' (by rw [hxnumber, hynumber, hnumber])
  · intro s t x y hx hy hpipeline hnumber
    obtain ⟨x', hx', hxp, hxnumber, hphase⟩ := get?_move hid hx
    obtain ⟨y', hy', hyp, hynumber, -⟩ := get?_move hid hy
    have hold := h.older s t x' y' hx' hy' (by rw [hxp, hyp, hpipeline])
      (by rw [hxnumber, hynumber]; exact hnumber)
    rcases hphase with hphase | ⟨ha, hb⟩
    · rwa [hphase]
    · rw [ha] at hold
      rw [hb, ← Bool.not_eq_true]
      intro hb
      rw [hholds hb] at hold
      cases hold

theorem keep (h : Locking locks runs started) (hid : runs.get? id = some ⟨p, k, a⟩)
    (hholds : b.holds = a.holds) : Locking locks (runs.insert id ⟨p, k, b⟩) started := by
  refine h.move hid (fun hb => by rw [← hholds, hb]) fun q s => ?_
  rw [iff_self_and]
  rintro hlock rfl
  obtain ⟨run, hrun, -, hrunHolds⟩ := (h.holder q s).mp hlock
  rw [hid] at hrun
  obtain rfl := Option.some.inj hrun
  rw [hholds, hrunHolds]

/-- Giving the lock back takes it from the run and from no other. -/
theorem release {r : Runner} (h : Locking r.locks runs started)
    (hid : runs.get? id = some ⟨p, k, a⟩) (ha : a.holds = true) (hb : b.holds = false) :
    Locking (r.release id p).locks (runs.insert id ⟨p, k, b⟩) started := by
  have hlock : r.locks.get? p = some id := (h.holder p id).mpr ⟨_, hid, rfl, ha⟩
  refine h.move hid (fun _ => ha) fun q s => ?_
  simp only [Runner.release, hlock, if_true, hb, Table.get?_erase]
  by_cases hq : q = p
  · simp [hq, hlock, eq_comm]
  · rw [if_neg hq, iff_self_and]
    rintro hs rfl
    obtain ⟨run, hrun, hpipeline, -⟩ := (h.holder q s).mp hs
    rw [hid] at hrun
    obtain rfl := Option.some.inj hrun
    exact absurd hpipeline.symm hq

end Locking

/-! ## Subscribers -/

/-- The end of a session has been announced with this event. -/
def Announced (runs : Table Launch) (s : String) (e : Event) : Prop :=
  ∃ run, runs.get? s = some run ∧ run.phase.announced? = some e

/-- A subscriber has come upon no end but one that was announced of its session, and will not. -/
structure Client.Tuned (c : Channel) (runs : Table Launch) (x : Client) : Prop where
  received : ∀ e ∈ x.received, e.isTerminal = true → Announced runs x.session e
  replay : ∀ e, x.subscription = .replay e → Announced runs x.session e
  ring_lt : ∀ ring next, x.subscription = .live ring next → ring < c.rings.size
  own : ∀ ring next, x.subscription = .live ring next → ∀ s topic, c.topics.get? s = some topic →
    topic.ring = ring → s = x.session
  live : ∀ ring next r, x.subscription = .live ring next → c.rings[ring]? = some r →
    ∀ e ∈ r.sent, e.isTerminal = true → Announced runs x.session e

namespace Client.Tuned

variable {c : Channel} {runs runs' : Table Launch} {x : Client} {id : String} {e : Event}

theorem mono (h : x.Tuned c runs) (hruns : ∀ s e, Announced runs s e → Announced runs' s e) :
    x.Tuned c runs' where
  received e he hterminal := hruns _ _ (h.received e he hterminal)
  replay e he := hruns _ _ (h.replay e he)
  ring_lt := h.ring_lt
  own := h.own
  live ring next r hsub hr e he hterminal := hruns _ _ (h.live ring next r hsub hr e he hterminal)

theorem openTopic (h : x.Tuned c runs) (id : String) : x.Tuned (c.openTopic id) runs := by
  rw [Channel.openTopic]
  split
  · exact h
  · refine ⟨h.received, h.replay, fun ring next hsub => ?_, fun ring next hsub s topic hs hring => ?_,
      fun ring next r hsub hr => ?_⟩
    · rw [Array.size_push]
      exact Nat.lt_succ_of_lt (h.ring_lt ring next hsub)
    · rcases Table.get?_insert_eq_some.mp hs with ⟨-, rfl⟩ | ⟨-, hs⟩
      · -- the ring of the new topic is not the subscriber's
        exact absurd hring (Nat.ne_of_gt (h.ring_lt ring next hsub))
      · exact h.own ring next hsub s topic hs hring
    · rw [Array.getElem?_push_lt (h.ring_lt ring next hsub), ← Array.getElem?_eq_getElem] at hr
      exact h.live ring next r hsub hr

theorem close (h : x.Tuned c runs) (id : String) : x.Tuned (c.close id) runs := by
  rw [Channel.close]
  split
  · exact h
  · refine ⟨h.received, h.replay, fun ring next hsub => ?_, fun ring next hsub s topic hs hring => ?_,
      fun ring next r hsub hr => ?_⟩
    · rw [Array.size_modify]
      exact h.ring_lt ring next hsub
    · obtain ⟨-, hs⟩ := Table.get?_erase_eq_some.mp hs
      exact h.own ring next hsub s topic hs hring
    · rw [Array.getElem?_modify] at hr
      split at hr
      · obtain ⟨before, hbefore, rfl⟩ := Option.map_eq_some_iff.mp hr
        exact h.live ring next before hsub hbefore
      · exact h.live ring next r hsub hr

/-- What is published is heard by the subscribers of its session only. -/
theorem publish (h : x.Tuned c runs) (he : e.isTerminal = true → Announced runs id e) :
    x.Tuned (c.publish id e).2 runs := by
  rw [Channel.publish]
  split
  · exact h
  · rename_i target htarget
    split
    · exact h
    · refine ⟨h.received, h.replay, fun ring next hsub => ?_,
        fun ring next hsub s topic hs hring => ?_, fun ring next r hsub hr => ?_⟩
      · rw [Array.size_modify]
        exact h.ring_lt ring next hsub
      · rcases Table.get?_insert_eq_some.mp hs with ⟨rfl, rfl⟩ | ⟨-, hs⟩
        · exact h.own ring next hsub s target htarget hring
        · exact h.own ring next hsub s topic hs hring
      · rw [Array.getElem?_modify] at hr
        split at hr
        · rename_i hring
          obtain ⟨before, hbefore, rfl⟩ := Option.map_eq_some_iff.mp hr
          intro y hy hterminal
          rcases Array.mem_push.mp hy with hy | rfl
          · exact h.live ring next before hsub hbefore y hy hterminal
          · rw [← h.own ring next hsub id target htarget hring]
            exact he hterminal
        · exact h.live ring next r hsub hr

end Client.Tuned

end Flowline.Simulation

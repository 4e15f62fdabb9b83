import Flowline.Proofs.Simulation.Exclusion
import Flowline.Proofs.Simulation.Rings

/-!
# What a run tells

A session keeps its log, and its topic keeps what was published; the run carries one to the other, a
line at a time, while other runs and clients take steps between.  An account notes which events the
topic of a session has accepted since the runner was made.  `Session.story` is what there is to tell of
a session, and the invariant is that the account, with what the run has yet to publish, is that story.
-/

namespace Flowline.Simulation

open Relation

/-! ## The story of a session -/

namespace Session

variable {s : Session}

/-- The events of the lines in the log. -/
def events (s : Session) : List Event := s.logs.toList.map LogLine.event

/-- The event of the end, if the session has ended. -/
def ending? (s : Session) : Option Event :=
  if s.status.isTerminal then s.reason.map (.complete (s.status = .succeeded) s.exitCode) else none

/-- All that there is to tell of a session. -/
def story (s : Session) : List Event := s.events ++ s.ending?.toList

theorem ending?_eq_some_iff {e : Event} : s.ending? = some e ↔ s.ToldBy e := by
  unfold ending? ToldBy
  by_cases hterminal : s.status.isTerminal = true
  · rw [if_pos hterminal, Option.map_eq_some_iff]
    simp only [hterminal, true_and, eq_comm]
  · rw [if_neg hterminal]
    simp [hterminal]

theorem story_of_running (h : s.status = .running) : s.story = s.events := by
  have hlive : s.status.isTerminal = false := by rw [h]; rfl
  simp [story, ending?, hlive]

theorem story_of_toldBy {e : Event} (h : s.ToldBy e) : s.story = s.events ++ [e] := by
  rw [story, ending?_eq_some_iff.mpr h, Option.toList_some]

theorem Ended.story {e : Option Event} (h : s.Ended e) : s.story = s.events ++ e.toList := by
  obtain ⟨o, houtcome, hstatus, rfl⟩ := h
  exact story_of_toldBy (Ended.toldBy ⟨o, houtcome, hstatus, rfl⟩)

/-- The line that is added to the log is told of. -/
theorem story_push (h : s.status = .running) (l : LogLine) :
    (s.push l).2.story = s.story ++ (s.push l).1.toList := by
  have hpush : (s.push l).2.status = .running := h
  rw [story_of_running h, story_of_running hpush]
  simp [push, events]

/-- A line that is dropped is neither in the log nor told of. -/
theorem story_append (h : s.status = .running) (maxBytes : ℕ) (l : LogLine) :
    (s.append maxBytes l).2.story = s.story ++ (s.append maxBytes l).1.toList := by
  have hlive : s.status.isTerminal = false := by rw [h]; rfl
  have hbytes : ∀ bytes, { s with outputBytes := bytes }.story = s.story := fun _ => rfl
  have htruncated : { s with truncated := true }.story = s.story := rfl
  rw [append, if_neg (by simp [hlive])]
  by_cases hsystem : l.stream = .system
  · rw [if_pos hsystem]
    exact story_push h l
  · rw [if_neg hsystem]
    by_cases hfull : s.truncated = true
    · rw [if_pos hfull]
      exact (List.append_nil _).symm
    · rw [if_neg hfull]
      dsimp only
      split
      · rw [← htruncated]
        exact story_push (s := { s with truncated := true }) h _
      · rw [← hbytes (s.outputBytes + l.line.utf8ByteSize)]
        exact story_push (s := { s with outputBytes := s.outputBytes + l.line.utf8ByteSize }) h l

/-- The end that is recorded is told of. -/
theorem story_finish (h : s.status = .running) (o : Outcome) :
    (s.finish o).2.story = s.story ++ (s.finish o).1.toList := by
  obtain ⟨hended, -⟩ := ended_finish h o
  have hevent : (s.finish o).1 = some (.complete o.success o.exitCode o.reason) := by
    have hlive : s.status.isTerminal = false := by rw [h]; rfl
    rw [finish, if_neg (by simp [hlive])]
  have hevents : (s.finish o).2.events = s.events := by
    unfold finish
    split <;> rfl
  rw [hevent] at hended ⊢
  rw [story_of_toldBy hended.toldBy, story_of_running h, hevents, Option.toList_some]

end Session

/-! ## Accounts -/

/-- What a topic takes of an event that it is given: all or nothing. -/
def Channel.takes (c : Channel) (id : String) : Option Event → List Event
  | some e => if (c.publish id e).1 then [e] else []
  | none => []

namespace Phase

/-- The event that a run gives to its topic when it goes from one phase to another. -/
def publishes : Phase → Phase → Option Event
  | .recorded e, .running => e
  | .released e, .announced _ => e
  | _, _ => none

/-- What a run has yet to publish. -/
def pending : Phase → List Event
  | .recorded e | .finished e | .released e => e.toList
  | _ => []

/-- Its session is not known yet. -/
def isNew : Phase → Bool
  | .opening | .entering => true
  | _ => false

theorem publishes_self (x : Phase) : x.publishes x = none := by
  cases x <;> rfl

end Phase

namespace Runner

variable {r r' : Runner}

@[simp] theorem update_channel (id : String) (f : Session → Option Event × Session) :
    (r.update id f).2.channel = r.channel := by
  unfold update
  split <;> rfl

/-- That a run is told to stop is not seen in any session. -/
theorem session?_stop {t : String} (h : r.stop t = .ok r') (id : String) :
    r'.session? id = r.session? id := by
  obtain ⟨x, hx, rfl⟩ := stop_eq_ok_iff.mp h
  by_cases hid : id = t
  · rw [hid, session?, session?, Table.get?_insert_self, hx]
    rfl
  · exact session?_insert_of_ne hid

end Runner

namespace Hub

/-- The events that the topic of a session accepts in a step. -/
def accepted (w w' : Hub) (id : String) : List Event :=
  match w.runs.get? id, w'.runs.get? id with
  | some x, some y => w.runner.channel.takes id (x.phase.publishes y.phase)
  | _, _ => []

variable {w w' : Hub} {id t p : String} {k : ℕ} {x y : Phase} {r : Runner} {e : Option Event}
  {told : List Event}

theorem accepted_eq {run run' : Launch} (h : w.runs.get? id = some run)
    (h' : w'.runs.get? id = some run') :
    w.accepted w' id = w.runner.channel.takes id (run.phase.publishes run'.phase) := by
  unfold accepted
  rw [h, h']

theorem accepted_move (hid : w.runs.get? id = some ⟨p, k, x⟩) :
    w.accepted (w.move id ⟨p, k, y⟩ r) id = w.runner.channel.takes id (x.publishes y) := by
  have hself : (w.move id ⟨p, k, y⟩ r).runs.get? id = some ⟨p, k, y⟩ := Table.get?_insert_self _ _ _
  rw [accepted_eq hid hself]

theorem accepted_of_runs_eq (h : w'.runs.get? id = w.runs.get? id) : w.accepted w' id = [] := by
  unfold accepted
  rw [h]
  cases w.runs.get? id with
  | none => rfl
  | some run =>
    dsimp only
    rw [Phase.publishes_self]
    rfl

/-- An account is right: with what the run has yet to publish it is the story of the session, and it is
what the topic keeps. -/
structure Accounts (w : Hub) (id : String) (told : List Event) : Prop where
  story : ∀ run s, w.runs.get? id = some run → w.runner.session? id = some s →
    told ++ run.phase.pending = s.story
  fresh : (∀ run, w.runs.get? id = some run → run.phase.isNew = true) → told = []
  topic : ∀ topic, w.runner.channel.topics.get? id = some topic →
    w.runner.channel.Keeps id topic.ring told

/-- After a step the account is right with what was accepted in it. -/
def AccountsNext (w w' : Hub) (id : String) (told : List Event) : Prop :=
  w'.Accounts id (told ++ w.accepted w' id)

theorem accounts_init (config : Config) (id : String) : (init config).Accounts id [] where
  story run s hrun := by simp [init] at hrun
  fresh _ := rfl
  topic topic h := by simp [init, Runner.new, Channel.new] at h

/-! ### Steps of others -/

/-- A step that leaves a run, its session and its topic as they are. -/
theorem Accounts.aside (h : w.Accounts id told) (hrun : w'.runs.get? id = w.runs.get? id)
    (hsession : w'.runner.session? id = w.runner.session? id)
    (htopic : w'.runner.channel.topics.get? id = w.runner.channel.topics.get? id)
    (hkeeps : ∀ ring, w.runner.channel.Keeps id ring told → w'.runner.channel.Keeps id ring told) :
    AccountsNext w w' id told := by
  unfold AccountsNext
  rw [accepted_of_runs_eq hrun, List.append_nil]
  constructor
  · rw [hrun, hsession]
    exact h.story
  · rw [hrun]
    exact h.fresh
  · intro topic hget
    rw [htopic] at hget
    exact hkeeps _ (h.topic topic hget)

/-- A step of another run that leaves the session and the topic as they are. -/
theorem Accounts.other {run : Launch} (h : w.Accounts id told) (hne : id ≠ t)
    (hsession : r.session? id = w.runner.session? id)
    (htopic : r.channel.topics.get? id = w.runner.channel.topics.get? id)
    (hkeeps : ∀ ring, w.runner.channel.Keeps id ring told → r.channel.Keeps id ring told) :
    AccountsNext w (w.move t run r) id told :=
  h.aside (Table.get?_insert_of_ne _ _ hne) hsession htopic hkeeps

theorem Accounts.other_update {run : Launch} (h : w.Accounts id told) (hne : id ≠ t)
    (f : Session → Option Event × Session) :
    AccountsNext w (w.move t run (w.runner.update t f).2) id told := by
  refine h.other hne (Runner.session?_update_of_ne hne f) ?_ ?_
  · rw [Runner.update_channel]
  · rw [Runner.update_channel]
    exact fun _ hring => hring

theorem Accounts.other_publish {run : Launch} (h : w.Accounts id told) (hv : w.Valid) (hne : id ≠ t)
    (e : Option Event) : AccountsNext w (w.move t run (w.runner.publish? t e)) id told := by
  refine h.other hne (Runner.session?_publish? t e) ?_ ?_
  · cases e with
    | none => rfl
    | some event => exact Channel.get?_publish_of_ne _ hne event
  · intro ring hring
    cases e with
    | none => exact hring
    | some event => exact hring.publish_of_ne hv.channel hne event

/-! ### Steps of the run -/

theorem Accounts.acquire (h : w.Accounts id told) (hv : w.Valid) (fresh : w.runs.get? id = none)
    (hacquire : w.runner.acquire id p = .ok r) :
    AccountsNext w { w.move id ⟨p, k, .opening⟩ r with started := k + 1 } id told := by
  obtain ⟨-, rfl⟩ := Runner.acquire_eq_ok_iff.mp hacquire
  have htold : told = [] := h.fresh fun run hrun => by
    rw [fresh] at hrun
    cases hrun
  unfold AccountsNext accepted
  rw [fresh, List.append_nil]
  constructor
  · intro run s _ hs
    have hentry := hv.showing.unknown id fresh
    simp [move, Runner.session?, hentry] at hs
  · exact fun _ => htold
  · exact h.topic

/-- A step in which the run gives nothing to its topic. -/
theorem Accounts.own (h : w.Accounts id told) (hid : w.runs.get? id = some ⟨p, k, x⟩)
    (hquiet : x.publishes y = none) (hnew : y.isNew = true → x.isNew = true)
    (hstory : ∀ s, r.session? id = some s → told ++ y.pending = s.story)
    (htopic : ∀ topic, r.channel.topics.get? id = some topic → r.channel.Keeps id topic.ring told) :
    AccountsNext w (w.move id ⟨p, k, y⟩ r) id told := by
  unfold AccountsNext
  rw [accepted_move hid, hquiet, Channel.takes, List.append_nil]
  have hself : (w.move id ⟨p, k, y⟩ r).runs.get? id = some ⟨p, k, y⟩ := Table.get?_insert_self _ _ _
  constructor
  · intro run s hrun hs
    obtain rfl := Option.some.inj (hself.symm.trans hrun)
    exact hstory s hs
  · intro hall
    refine h.fresh fun run hrun => ?_
    obtain rfl := Option.some.inj (hid.symm.trans hrun)
    exact hnew (hall _ hself)
  · exact htopic

theorem Accounts.eq_nil (h : w.Accounts id told) (hid : w.runs.get? id = some ⟨p, k, x⟩)
    (hnew : x.isNew = true) : told = [] := by
  refine h.fresh fun run hrun => ?_
  obtain rfl := Option.some.inj (hid.symm.trans hrun)
  exact hnew

theorem Accounts.openTopic (h : w.Accounts id told) (hv : w.Valid)
    (hid : w.runs.get? id = some ⟨p, k, .opening⟩) :
    AccountsNext w (w.move id ⟨p, k, .entering⟩ (w.runner.openTopic id)) id told := by
  have hnone : w.runner.channel.topics.get? id = none := Option.map_eq_none_iff.mp (hv.topic_eq hid)
  refine h.own hid rfl (fun _ => rfl) (fun s hs => ?_) fun topic htopic => ?_
  · have hentry : w.runner.sessions.get? id = none := hv.entry hid
    simp [Runner.session?, Runner.openTopic, hentry] at hs
  · have hkeeps := Channel.keeps_openTopic hnone
    have hring := Option.some.inj (hkeeps.topic.symm.trans htopic)
    rw [← hring, h.eq_nil hid rfl]
    exact hkeeps

theorem Accounts.enter (h : w.Accounts id told) (hid : w.runs.get? id = some ⟨p, k, .entering⟩) :
    AccountsNext w (w.move id ⟨p, k, .running⟩ (w.runner.enter id p)) id told := by
  refine h.own hid rfl nofun (fun s hs => ?_) h.topic
  rw [Runner.session?, Runner.enter, Table.get?_insert_self] at hs
  obtain rfl := Option.some.inj hs
  rw [h.eq_nil hid rfl]
  rfl

/-- A change of the session, of which the run is to tell. -/
theorem Accounts.update {f : Session → Option Event × Session} (h : w.Accounts id told) (hv : w.Valid)
    (hid : w.runs.get? id = some ⟨p, k, .running⟩) (hquiet : Phase.publishes .running y = none)
    (hnew : y.isNew = false) (hpending : y.pending = (w.runner.update id f).1.toList)
    (hf : ∀ s : Session, s.status = .running → (f s).2.story = s.story ++ (f s).1.toList) :
    AccountsNext w (w.move id ⟨p, k, y⟩ (w.runner.update id f).2) id told := by
  obtain ⟨entry, hentry, -, hstatus⟩ := hv.entry hid
  rw [Runner.update_eq hentry] at hpending ⊢
  refine h.own hid hquiet (by simp [hnew]) (fun s hs => ?_) h.topic
  rw [Runner.session?, Table.get?_insert_self] at hs
  obtain rfl := Option.some.inj hs
  have hbefore : told ++ [] = entry.session.story :=
    h.story _ _ hid (Runner.session?_eq_some_iff.mpr ⟨entry, hentry, rfl⟩)
  rw [hpending, hf entry.session hstatus, ← hbefore, List.append_nil]

/-- Before its end is announced a topic takes what the run gives to it. -/
theorem Accounts.takes (h : w.Accounts id told) (hv : w.Valid)
    (hid : w.runs.get? id = some ⟨p, k, x⟩) (hopen : x.topic? = some none) (e : Option Event) :
    w.runner.channel.takes id e = e.toList ∧
      ∃ ring, (w.runner.publish? id e).channel.Keeps id ring (told ++ e.toList) := by
  have hterminal := hv.topic_eq hid
  rw [hopen] at hterminal
  obtain ⟨topic, htopic, hnone⟩ := Option.map_eq_some_iff.mp hterminal
  have hkeeps := h.topic topic htopic
  have hongoing : Ongoing told := by
    rw [← find?_isTerminal_eq_none, ← hnone, Option.some.inj (htopic.symm.trans hkeeps.topic)]
  cases e with
  | none =>
    refine ⟨rfl, topic.ring, ?_⟩
    rw [Option.toList_none, List.append_nil]
    exact hkeeps
  | some event =>
    refine ⟨?_, topic.ring, hkeeps.publish hongoing event⟩
    rw [Channel.takes, if_pos ((hkeeps.publish_fst event).mpr hongoing)]
    rfl

/-- What the run had yet to publish it has published. -/
theorem Accounts.publish (h : w.Accounts id told) (hv : w.Valid)
    (hid : w.runs.get? id = some ⟨p, k, x⟩) (hopen : x.topic? = some none)
    (hpublishes : x.publishes y = e) (hnew : y.isNew = false) (hx : x.pending = e.toList)
    (hy : y.pending = []) : AccountsNext w (w.move id ⟨p, k, y⟩ (w.runner.publish? id e)) id told := by
  obtain ⟨htakes, ring, hring⟩ := h.takes hv hid hopen e
  unfold AccountsNext
  rw [accepted_move hid, hpublishes, htakes]
  have hself : (w.move id ⟨p, k, y⟩ (w.runner.publish? id e)).runs.get? id = some ⟨p, k, y⟩ :=
    Table.get?_insert_self _ _ _
  constructor
  · intro run s hrun hs
    obtain rfl := Option.some.inj (hself.symm.trans hrun)
    have hbefore := h.story _ s hid ((Runner.session?_publish? id e).symm.trans hs)
    dsimp only at hbefore ⊢
    rw [hy, List.append_nil, ← hbefore, hx]
  · intro hall
    have hcontra := hall _ hself
    rw [hnew] at hcontra
    cases hcontra
  · intro topic htopic
    have htopicRing := Option.some.inj (hring.topic.symm.trans htopic)
    rw [← htopicRing]
    exact hring

theorem Accounts.release (h : w.Accounts id told) (hid : w.runs.get? id = some ⟨p, k, .finished e⟩) :
    AccountsNext w (w.move id ⟨p, k, .released e⟩ (w.runner.release id p)) id told := by
  refine h.own hid rfl nofun (fun s hs => ?_) (by rw [Runner.release_channel]; exact h.topic)
  rw [Runner.session?_release] at hs
  exact h.story _ s hid hs

theorem Accounts.closeTopic (h : w.Accounts id told)
    (hid : w.runs.get? id = some ⟨p, k, .announced e⟩) :
    AccountsNext w (w.move id ⟨p, k, .closed e⟩ (w.runner.closeTopic id)) id told := by
  refine h.own hid rfl nofun (fun s hs => h.story _ s hid hs) fun topic htopic => ?_
  rw [Runner.closeTopic, Channel.get?_close, if_pos rfl] at htopic
  cases htopic

theorem Accounts.discard (h : w.Accounts id told) (hid : w.runs.get? id = some ⟨p, k, .closed e⟩) :
    AccountsNext w (w.move id ⟨p, k, .gone e⟩ (w.runner.discard id)) id told := by
  refine h.own hid rfl nofun (fun s hs => ?_) h.topic
  rw [Runner.session?, Runner.discard, Table.get?_erase_self] at hs
  cases hs

/-! ### All steps -/

theorem Accounts.step (h : w.Accounts id told) (hv : w.Valid) (hstep : Step w w') :
    AccountsNext w w' id told := by
  cases hstep with
  | @acquire t _ _ fresh hacquire =>
    by_cases heq : id = t
    · subst heq
      exact h.acquire hv fresh hacquire
    · obtain ⟨-, rfl⟩ := Runner.acquire_eq_ok_iff.mp hacquire
      exact h.aside (Table.get?_insert_of_ne _ _ heq) rfl rfl fun _ hring => hring
  | refused _ => exact h.aside rfl rfl rfl fun _ hring => hring
  | @openTopic t _ _ hid =>
    by_cases heq : id = t
    · subst heq
      exact h.openTopic hv hid
    · exact h.other heq rfl (Channel.get?_openTopic_of_ne _ heq) fun _ hring => hring.openTopic t
  | @enter t _ _ hid =>
    by_cases heq : id = t
    · subst heq
      exact h.enter hid
    · exact h.other heq (Runner.session?_insert_of_ne heq) rfl fun _ hring => hring
  | @record t _ _ l hid =>
    by_cases heq : id = t
    · subst heq
      exact h.update hv hid rfl rfl rfl fun s hs => Session.story_append hs _ l
    · exact h.other_update heq _
  | @publish t _ _ e hid =>
    by_cases heq : id = t
    · subst heq
      exact h.publish hv hid rfl rfl rfl rfl rfl
    · exact h.other_publish hv heq e
  | @finish t _ _ o hid =>
    by_cases heq : id = t
    · subst heq
      exact h.update hv hid rfl rfl rfl fun s hs => Session.story_finish hs o
    · exact h.other_update heq _
  | @release t _ _ e hid =>
    by_cases heq : id = t
    · subst heq
      exact h.release hid
    · refine h.other heq (Runner.session?_release t _) (by rw [Runner.release_channel]) ?_
      rw [Runner.release_channel]
      exact fun _ hring => hring
  | @announce t _ _ e hid =>
    by_cases heq : id = t
    · subst heq
      exact h.publish hv hid rfl rfl rfl rfl rfl
    · exact h.other_publish hv heq e
  | @closeTopic t _ _ e hid =>
    by_cases heq : id = t
    · subst heq
      exact h.closeTopic hid
    · refine h.other heq rfl ?_ fun _ hring => hring.close_of_ne hv.channel heq
      rw [Runner.closeTopic, Channel.get?_close, if_neg heq]
  | @discard t _ _ e hid =>
    by_cases heq : id = t
    · subst heq
      exact h.discard hid
    · refine h.other heq ?_ rfl fun _ hring => hring
      rw [Runner.session?, Runner.discard, Table.get?_erase_of_ne _ heq, Runner.session?]
  | stop hstop =>
    have hsession := Runner.session?_stop hstop id
    obtain ⟨_, -, rfl⟩ := Runner.stop_eq_ok_iff.mp hstop
    exact h.aside rfl hsession rfl fun _ hring => hring
  | subscribe _ => exact h.aside rfl rfl rfl fun _ hring => hring
  | receive _ => exact h.aside rfl rfl rfl fun _ hring => hring
  | look => exact h.aside rfl rfl rfl fun _ hring => hring

/-! ### After the end -/

/-- Nothing is published after the end has been announced. -/
theorem accepted_of_announced {event : Event} (h : Announced w.runs id event) (hstep : Step w w') :
    w.accepted w' id = [] ∧ Announced w'.runs id event := by
  obtain ⟨⟨p, k, x⟩, hrun, hevent⟩ := h
  obtain ⟨y, hy, hphase⟩ := hstep.launch hrun
  rw [accepted_eq hrun hy]
  rcases hphase with rfl | hnext
  · rw [Phase.publishes_self]
    exact ⟨rfl, _, hy, hevent⟩
  · -- only the topic and the session are still to be discarded
    cases hnext with
    | closeTopic _ => exact ⟨rfl, _, hy, hevent⟩
    | discard _ => exact ⟨rfl, _, hy, hevent⟩
    | _ => cases hevent

end Hub

end Flowline.Simulation

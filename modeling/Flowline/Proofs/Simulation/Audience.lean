import Flowline.Proofs.Simulation.Agreement
import Flowline.Proofs.Simulation.Listening
import Mathlib.Data.List.Infix

/-!
# Who listens to a session

A step of the runner opens, closes or publishes on one topic at most, so that whoever subscribes to a
session is a listener of its topic, for whom is published what the account of the session notes.  What
there was to hear is told by the record of the session, as it was last known.
-/

namespace Flowline.Simulation

open Relation

/-! ## Steps and topics -/

namespace Channel

variable (c : Channel) (id t : String)

theorem isOpen_openTopic_of_ne (h : id ≠ t) : (c.openTopic t).isOpen id = c.isOpen id := by
  rw [isOpen, isOpen, Table.has_eq_isSome, Table.has_eq_isSome, get?_openTopic_of_ne c h]

theorem isOpen_publish (e : Event) : (c.publish t e).2.isOpen id = c.isOpen id := by
  rw [isOpen, isOpen, Table.has_eq_isSome, Table.has_eq_isSome]
  by_cases h : id = t
  · subst h
    rw [publish]
    split
    · rfl
    · rename_i topic htopic
      split
      · rfl
      · simp [htopic]
  · rw [get?_publish_of_ne c h]

theorem isOpen_close : (c.close t).isOpen id = if id = t then false else c.isOpen id := by
  rw [isOpen, isOpen, Table.has_eq_isSome, Table.has_eq_isSome, get?_close]
  split <;> rfl

end Channel

namespace Hub

variable {w w' : Hub} {id t p : String} {k : ℕ} {x y : Phase} {r : Runner}

/-- A step may change one topic; what the topic of a session accepts is published on it. -/
inductive Airs (w w' : Hub) (id : String) : Prop
  | quiet (hchannel : w'.runner.channel = w.runner.channel) (haccepted : w.accepted w' id = [])
  | openTopic {t p : String} {k : ℕ} (hrun : w.runs.get? t = some ⟨p, k, .opening⟩)
      (hchannel : w'.runner.channel = w.runner.channel.openTopic t)
      (haccepted : w.accepted w' id = [])
  | publish (t : String) (e : Event) (hchannel : w'.runner.channel = (w.runner.channel.publish t e).2)
      (haccepted : w.accepted w' id = if id = t then w.runner.channel.takes id (some e) else [])
  | close (t : String) (hchannel : w'.runner.channel = w.runner.channel.close t)
      (haccepted : w.accepted w' id = [])

theorem accepted_of_move (ht : w.runs.get? t = some ⟨p, k, x⟩) (id : String) :
    w.accepted (w.move t ⟨p, k, y⟩ r) id =
      if id = t then w.runner.channel.takes id (x.publishes y) else [] := by
  split
  · rename_i heq
    subst heq
    exact accepted_move ht
  · rename_i hne
    exact accepted_of_runs_eq (Table.get?_insert_of_ne _ _ hne)

theorem accepted_of_quiet (ht : w.runs.get? t = some ⟨p, k, x⟩) (hquiet : x.publishes y = none)
    (id : String) : w.accepted (w.move t ⟨p, k, y⟩ r) id = [] := by
  rw [accepted_of_move ht, hquiet]
  split <;> rfl

theorem airs_publish? {e : Option Event} (ht : w.runs.get? t = some ⟨p, k, x⟩)
    (hpublishes : x.publishes y = e) (id : String) :
    Airs w (w.move t ⟨p, k, y⟩ (w.runner.publish? t e)) id := by
  cases e with
  | none => exact .quiet rfl (accepted_of_quiet ht hpublishes id)
  | some event => exact .publish t event rfl (hpublishes ▸ accepted_of_move ht id)

theorem Step.airs (h : Step w w') (id : String) : Airs w w' id := by
  cases h with
  | @acquire t p r fresh hacquire =>
    obtain ⟨-, rfl⟩ := Runner.acquire_eq_ok_iff.mp hacquire
    refine .quiet rfl ?_
    by_cases heq : id = t
    · rw [heq, accepted, fresh]
    · exact accepted_of_runs_eq (Table.get?_insert_of_ne _ _ heq)
  | openTopic ht => exact .openTopic ht rfl (accepted_of_quiet ht rfl id)
  | enter ht => exact .quiet rfl (accepted_of_quiet ht rfl id)
  | record l ht => exact .quiet (Runner.update_channel _ _) (accepted_of_quiet ht rfl id)
  | publish ht => exact airs_publish? ht rfl id
  | finish o ht => exact .quiet (Runner.update_channel _ _) (accepted_of_quiet ht rfl id)
  | release ht => exact .quiet (Runner.release_channel _ _) (accepted_of_quiet ht rfl id)
  | announce ht => exact airs_publish? ht rfl id
  | closeTopic ht => exact .close _ rfl (accepted_of_quiet ht rfl id)
  | discard ht => exact .quiet rfl (accepted_of_quiet ht rfl id)
  | stop hstop =>
    obtain ⟨_, -, rfl⟩ := Runner.stop_eq_ok_iff.mp hstop
    exact .quiet rfl (accepted_of_runs_eq rfl)
  | refused _ => exact .quiet rfl (accepted_of_runs_eq rfl)
  | subscribe _ => exact .quiet rfl (accepted_of_runs_eq rfl)
  | receive _ => exact .quiet rfl (accepted_of_runs_eq rfl)
  | look => exact .quiet rfl (accepted_of_runs_eq rfl)

end Hub

/-! ## Listeners of a session -/

namespace Channel

variable {c : Channel} {id t : String} {e : Event} {told missed heard : List Event} {s : Subscription}
  {kept : ℕ}

/-- Who has subscribed to a session when its topic, which has accepted all that is told, had accepted what
was missed. -/
def listener (c : Channel) (id : String) (told missed : List Event) (s : Subscription)
    (heard : List Event) : Listener :=
  ⟨id, missed, told.drop missed.length, c.isOpen id, s, heard.map some⟩

@[simp] theorem heard_listener : (c.listener id told missed s heard).heard = heard := by
  simp [listener, Listener.heard, List.reduceOption]

theorem events_listener (h : missed <+: told) : (c.listener id told missed s heard).events = told :=
  (List.prefix_append_drop h).symm

theorem detach_listener (t : String) :
    (c.listener id told missed s heard).detach t = (c.close t).listener id told missed s heard := by
  rw [listener, listener, Listener.detach, isOpen_close]
  by_cases h : id = t
  · rw [if_pos h, if_pos h]
  · rw [if_neg h, if_neg h]

theorem receive_listener {next : Subscription} (h : c.receive s = (.event e, next)) :
    (c.listener id told missed s heard).receive c =
      c.listener id told missed next (heard ++ [e]) := by
  rw [Listener.receive_of_event (l := c.listener id told missed s heard) h, listener, listener,
    List.map_append, List.map_singleton]

/-- What the topic of another session takes is not noticed. -/
theorem notice_listener (hfirst : missed <+: told) (haccepted : (c.publish t e).1 = true) :
    (c.listener id told missed s heard).notice t e = (c.publish t e).2.listener id
      (told ++ if id = t then c.takes id (some e) else []) missed s heard := by
  rw [listener, listener, Listener.notice, isOpen_publish]
  by_cases h : id = t
  · subst h
    have hopen : c.isOpen id = true := by
      by_contra hclosed
      rw [isOpen, Table.has_eq_isSome, Option.not_isSome_iff_eq_none] at hclosed
      rw [publish_of_get?_eq_none hclosed] at haccepted
      cases haccepted
    rw [if_pos ⟨rfl, hopen⟩, if_pos rfl, takes, if_pos haccepted,
      List.drop_append_of_le_length hfirst.length_le]
  · rw [if_neg fun hboth => h hboth.1, if_neg h, List.append_nil]

theorem sound_publish (hc : c.Valid) (h : (c.listener id told missed s heard).Sound kept c)
    (hkeeps : ∀ topic, c.topics.get? t = some topic → ∃ es, c.Keeps t topic.ring es)
    (hfirst : missed <+: told) (e : Event) :
    ((c.publish t e).2.listener id (told ++ if id = t then c.takes id (some e) else []) missed s
      heard).Sound kept (c.publish t e).2 := by
  cases haccepted : (c.publish t e).1 with
  | false =>
    have htakes : (if id = t then c.takes id (some e) else []) = [] := by
      split
      · rename_i heq
        simp [takes, heq, haccepted]
      · rfl
    rwa [htakes, List.append_nil, publish_of_refused haccepted]
  | true =>
    cases htopic : c.topics.get? t with
    | none =>
      rw [publish_of_get?_eq_none htopic] at haccepted
      cases haccepted
    | some topic =>
      obtain ⟨es, hes⟩ := hkeeps topic htopic
      rw [← notice_listener hfirst haccepted]
      exact h.notice hc hes haccepted

end Channel

namespace Account

variable {a b : Account} {id : String} {config : Config} {kept : ℕ} {missed heard : List Event}
  {s : Subscription}

/-- Every open topic keeps what it has accepted. -/
theorem exists_keeps (h : Reachable config id a) {t : String} (topic : Topic)
    (htopic : a.hub.runner.channel.topics.get? t = some topic) :
    ∃ es, a.hub.runner.channel.Keeps t topic.ring es := by
  have hhub : Hub.Reachable config a.hub :=
    ReflTransGen.lift hub (fun _ _ hstep => hstep.1) _ _ h
  obtain ⟨other, hother, hsame⟩ := exists_reachable hhub t
  obtain ⟨-, haccounts⟩ := accounts_of_reachable hother
  rw [hsame] at haccounts
  exact ⟨other.told, haccounts.topic topic htopic⟩

/-- Who has subscribed to the session of an account. -/
def listener (a : Account) (id : String) (missed : List Event) (s : Subscription)
    (heard : List Event) : Listener :=
  a.hub.runner.channel.listener id a.told missed s heard

/-- Who subscribes is a listener of the topic. -/
theorem sound_subscribe (h : Reachable config id a) (hs : a.hub.runner.subscribe id = .ok s) :
    (a.listener id a.told s []).Sound kept a.hub.runner.channel := by
  have hsubscribe := Runner.subscribe_eq_ok_iff.mp hs
  obtain ⟨topic, htopic, -⟩ := Option.map_eq_some_iff.mp hsubscribe
  have hkeeps := (accounts_of_reachable h).2.topic topic htopic
  have hsound := Listener.sound_subscribe hkeeps hsubscribe kept
  have hopen : a.hub.runner.channel.isOpen id = true := by
    rw [Channel.isOpen, Table.has_eq_isSome, htopic, Option.isSome_some]
  rwa [listener, Channel.listener, List.drop_length, hopen]

/-- Whatever step is taken, a listener of the topic is one still. -/
theorem sound_step {run : Launch} (h : Reachable config id a)
    (hrun : a.hub.runs.get? id = some run) (hold : run.phase.isNew = false)
    (hfirst : missed <+: a.told)
    (hsound : (a.listener id missed s heard).Sound kept a.hub.runner.channel) (hstep : Step id a b) :
    (b.listener id missed s heard).Sound kept b.hub.runner.channel := by
  obtain ⟨hv, -⟩ := accounts_of_reachable h
  obtain ⟨hstep, htold⟩ := hstep
  unfold listener at hsound ⊢
  cases hstep.airs id with
  | quiet hchannel haccepted =>
    rwa [htold, haccepted, List.append_nil, hchannel]
  | @openTopic t p k ht hchannel haccepted =>
    have hne : id ≠ t := by
      rintro rfl
      obtain rfl := Option.some.inj (hrun.symm.trans ht)
      cases hold
    rw [htold, haccepted, List.append_nil, hchannel, Channel.listener,
      Channel.isOpen_openTopic_of_ne _ id t hne]
    exact hsound.of_source fun _ hsource => hsource.openTopic t
  | publish t e hchannel haccepted =>
    rw [htold, haccepted, hchannel]
    exact Channel.sound_publish hv.channel hsound (exists_keeps h) hfirst e
  | close t hchannel haccepted =>
    rw [htold, haccepted, List.append_nil, hchannel, ← Channel.detach_listener]
    exact hsound.detach hv.channel (exists_keeps h)

end Account

/-! ## The record of a session -/

theorem Session.ongoing_events (s : Session) : Ongoing s.events := by
  intro e he
  obtain ⟨l, -, rfl⟩ := List.mem_map.mp he
  rfl

theorem Session.ToldBy.isTerminal {s : Session} {e : Event} (h : s.ToldBy e) : e.isTerminal = true := by
  obtain ⟨-, reason, -, rfl⟩ := h
  rfl

namespace Hub

variable {w : Hub} {id p : String} {k : ℕ} {x : Phase} {s : Session}

/-- A session that was known and is not is gone. -/
theorem Valid.gone_of_unknown (hv : w.Valid) (hrun : w.runs.get? id = some ⟨p, k, x⟩)
    (hold : x.isNew = false) (hs : w.runner.session? id = none) : ∃ e, x = .gone e := by
  have hknown := hv.isSome_session?_iff id
  rw [hs, hrun] at hknown
  have hunknown : x.isKnown = false := by simpa using hknown
  cases x with
  | gone e => exact ⟨e, rfl⟩
  | opening => cases hold
  | entering => cases hold
  | _ => cases hunknown

/-- A session whose topic has taken its end, or is closed, has ended. -/
theorem Valid.exists_toldBy (hv : w.Valid) (hrun : w.runs.get? id = some ⟨p, k, x⟩)
    (hs : w.runner.session? id = some s) (hover : x.topic? ≠ some none) : ∃ e, s.ToldBy e := by
  obtain ⟨entry, hentry, rfl⟩ := Runner.session?_eq_some_iff.mp hs
  have hshows := hv.entry hrun
  rw [hentry] at hshows
  have hended : ∀ {event}, entry.session.Ended event → ∃ e, entry.session.ToldBy e := by
    rintro _ ⟨o, houtcome, hstatus, rfl⟩
    exact ⟨_, Session.Ended.toldBy ⟨o, houtcome, hstatus, rfl⟩⟩
  cases x with
  | announced event =>
    obtain ⟨_, ⟨⟩, -, hevent⟩ := hshows
    exact hended hevent
  | closed event =>
    obtain ⟨_, ⟨⟩, -, hevent⟩ := hshows
    exact hended hevent
  | opening => cases hshows
  | gone event => cases hshows
  | _ => exact absurd rfl hover

end Hub

namespace Account

variable {a b : Account} {id : String} {config : Config} {last later : Session} {t : Event}

/-- A session as it was last known: the topic has accepted its story, but for what the run has yet to
publish. -/
structure Records (id : String) (a : Account) (last : Session) : Prop where
  run : ∃ p k x, a.hub.runs.get? id = some ⟨p, k, x⟩ ∧ x.isNew = false ∧
    a.told ++ x.pending = last.story ∧ (x.topic? ≠ some none → ∃ e, last.ToldBy e)
  latest : ∀ s, a.hub.runner.session? id = some s → s = last

theorem records_of_known (h : Reachable config id a) (hs : a.hub.runner.session? id = some last) :
    Records id a last := by
  obtain ⟨hv, haccounts⟩ := accounts_of_reachable h
  obtain ⟨⟨p, k, x⟩, hrun, hknown⟩ := (hv.isSome_session?_iff id).mp (by rw [hs, Option.isSome_some])
  refine ⟨⟨p, k, x, hrun, ?_, haccounts.story _ _ hrun hs, hv.exists_toldBy hrun hs⟩,
    fun s hs' => Option.some.inj (hs'.symm.trans hs)⟩
  cases x with
  | opening => cases hknown
  | entering => cases hknown
  | _ => rfl

/-- The record is kept after the session has been discarded. -/
theorem Records.step (h : Records id a last) (hb : Reachable config id b) (hstep : Step id a b) :
    Records id b ((b.hub.runner.session? id).getD last) := by
  cases hs : b.hub.runner.session? id with
  | some s => exact records_of_known hb hs
  | none =>
    obtain ⟨p, k, x, hrun, hold, hstory, hended⟩ := h.run
    obtain ⟨y, hy, hphase⟩ := hstep.1.launch hrun
    have hnew : y.isNew = false := by
      rcases hphase with rfl | hnext
      · exact hold
      · cases hnext with
        | openTopic => cases hold
        | _ => rfl
    obtain ⟨event, rfl⟩ := (accounts_of_reachable hb).1.gone_of_unknown hy hnew hs
    have haccepted := Hub.accepted_eq hrun hy
    have htold := hstep.2
    refine ⟨⟨p, k, .gone event, hy, rfl, ?_⟩, fun s hs' => by rw [hs] at hs'; cases hs'⟩
    rcases hphase with rfl | hnext
    · rw [htold, haccepted, Phase.publishes_self, Channel.takes, List.append_nil]
      exact ⟨hstory, hended⟩
    · cases hnext
      rw [htold, haccepted]
      exact ⟨by simpa [Channel.takes, Phase.publishes, Phase.pending] using hstory,
        fun _ => hended (by simp [Phase.topic?])⟩

/-- A terminal event that was accepted tells of the end of the session, and was accepted last. -/
theorem Records.ended (h : Records id a last) (hmem : t ∈ a.told) (ht : t.isTerminal = true) :
    last.ToldBy t ∧ a.told = last.events ++ [t] := by
  obtain ⟨p, k, x, -, -, hstory, -⟩ := h.run
  have hmem' : t ∈ last.story := hstory ▸ List.mem_append_left _ hmem
  have hending : last.ending? = some t := by
    rcases List.mem_append.mp hmem' with he | he
    · exact absurd ht (last.ongoing_events.not_terminal he)
    · exact Option.mem_toList.mp he
  have htoldBy := Session.ending?_eq_some_iff.mp hending
  rw [Session.story_of_toldBy htoldBy] at hstory
  refine ⟨htoldBy, ?_⟩
  rcases List.prefix_concat_iff.mp ⟨_, hstory⟩ with hall | hpart
  · exact hall
  · exact absurd ht (last.ongoing_events.not_terminal (hpart.subset hmem))

/-- Before the topic is closed it has accepted the end of the session. -/
theorem Records.exists_terminal (h : Records id a last) {run : Launch}
    (hrun : a.hub.runs.get? id = some run) (hover : run.phase.topic? ≠ some none) :
    ∃ t ∈ a.told, t.isTerminal = true := by
  obtain ⟨p, k, x, hx, hold, hstory, hended⟩ := h.run
  obtain rfl := Option.some.inj (hx.symm.trans hrun)
  obtain ⟨e, he⟩ := hended hover
  have hpending : x.pending = [] := by
    cases x with
    | opening => rfl
    | announced _ => rfl
    | closed _ => rfl
    | gone _ => rfl
    | _ => exact absurd rfl hover
  rw [hpending, List.append_nil, Session.story_of_toldBy he] at hstory
  exact ⟨e, hstory ▸ List.mem_append_right _ (List.mem_singleton_self e), he.isTerminal⟩

theorem Records.exists_terminal_of_closed (h : Records id a last) (hv : a.hub.Valid)
    (hclosed : a.hub.runner.channel.isOpen id = false) : ∃ t ∈ a.told, t.isTerminal = true := by
  obtain ⟨p, k, x, hrun, -⟩ := h.run
  refine h.exists_terminal hrun fun hopen => ?_
  rw [Channel.isOpen, Table.has_eq_isSome, ← Option.isSome_map (f := Topic.terminal)] at hclosed
  have hterminal := hv.topic_eq hrun
  rw [Channel.terminal?, hopen] at hterminal
  rw [hterminal] at hclosed
  cases hclosed

/-- Nothing is accepted after the end. -/
theorem Records.told_step (hb : Records id b later) (hstep : Step id a b)
    (hmem : t ∈ a.told) (ht : t.isTerminal = true) : b.told = a.told := by
  obtain ⟨-, hlast⟩ := hb.ended (hstep.2 ▸ List.mem_append_left _ hmem) ht
  rw [hstep.2] at hlast ⊢
  by_contra hne
  have haccepted : a.hub.accepted b.hub id ≠ [] := fun hnil => hne (by rw [hnil, List.append_nil])
  have hongoing : Ongoing (a.told ++ a.hub.accepted b.hub id).dropLast := by
    rw [hlast, List.dropLast_concat]
    exact later.ongoing_events
  exact (ongoing_of_dropLast_append hongoing haccepted).not_terminal hmem ht

end Account

end Flowline.Simulation

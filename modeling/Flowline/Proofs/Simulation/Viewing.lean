import Flowline.Command
import Flowline.Proofs.Simulation.Audience
import Mathlib.Algebra.GroupWithZero.Nat

/-!
# Watching a run

The command `simulate` as one of those who use the runner: once it has the id of a session it subscribes
to it and shows one event after the other until the end, while the run and all others take their steps
between.  The start of the run does not wait for the subscription, and nobody is told of what was published
before.  So the command shows the whole run exactly if it has subscribed before the first line was
published, and it is refused if it comes after the topic has been closed.
-/

namespace Flowline.Simulation

open Relation

/-! ## What some items stand for -/

/-- How many events an item stands for. -/
def Event.count : Event → ℕ
  | .gap missed => missed
  | _ => 1

theorem Tells.sum_counts {lost : ℕ} {items told : List Event} (h : Tells lost items told)
    (hplain : ∀ e ∈ told, e.count = 1) : (items.map Event.count).sum = told.length := by
  induction h with
  | nil => rfl
  | event e _ ih =>
    obtain ⟨htold, he⟩ := List.forall_mem_append.mp hplain
    rw [List.map_append, List.sum_append, ih htold, List.map_singleton, List.sum_singleton,
      he e (List.mem_singleton_self e), List.length_append, List.length_singleton]
  | gap _ _ _ _ ih =>
    rw [List.map_append, List.sum_append, ih (List.forall_mem_append.mp hplain).1, List.map_singleton,
      List.sum_singleton, Event.count, List.length_append]

/-- No item of the story of a session is a gap. -/
theorem Session.count_of_mem_story {s : Session} {e : Event} (h : e ∈ s.story) : e.count = 1 := by
  rcases List.mem_append.mp h with h | h
  · obtain ⟨l, -, rfl⟩ := List.mem_map.mp h
    rfl
  · obtain ⟨-, reason, -, rfl⟩ := Session.ending?_eq_some_iff.mp (Option.mem_toList.mp h)
    rfl

/-- What is heard before the terminal event of a stream whose first events were missed: all others, with
losses counted, or nothing, if the terminal event was missed and is heard alone. -/
inductive Seen (kept : ℕ) (t : Event) : (missed items told : List Event) → Prop
  | since {missed items since : List Event} (hmissed : Ongoing missed)
      (htells : Tells ((since ++ [t]).length - kept) items since) :
      Seen kept t missed items (missed ++ (since ++ [t]))
  | late {missed : List Event} (hmem : t ∈ missed) : Seen kept t missed [] missed

/-- The whole story of a session is shown or counted exactly if none of its lines was missed. -/
theorem Seen.whole_iff {kept : ℕ} {t : Event} {missed items : List Event} {s : Session}
    (h : Seen kept t missed items s.story) (ht : s.ToldBy t) :
    (∃ lost, Tells lost (items ++ [t]) s.story) ↔ ∀ e ∈ missed, e.isTerminal = true := by
  have hstory : s.story = s.events ++ [t] := Session.story_of_toldBy ht
  have hplain : ∀ e ∈ s.story, e.count = 1 := fun e he => Session.count_of_mem_story he
  have hcount : t.count = 1 := hplain t (by simp [hstory])
  generalize s.story = told at h hstory hplain
  cases h with
  | @since missed since hmissed htells =>
    constructor
    · rintro ⟨lost, hall⟩
      -- as many events are told of as there were since
      have hsum := hall.sum_counts hplain
      have hsince := htells.sum_counts fun e he =>
        hplain e (List.mem_append_right _ (List.mem_append_left _ he))
      simp only [List.map_append, List.sum_append, List.map_singleton, List.sum_singleton, hsince,
        hcount, List.length_append, List.length_singleton] at hsum
      have hnil : missed = [] := List.eq_nil_of_length_eq_zero (by omega)
      simp [hnil]
    · intro hall
      have hnil : missed = [] := List.eq_nil_iff_forall_not_mem.mpr fun e he =>
        hmissed.not_terminal he (hall e he)
      rw [hnil, List.nil_append]
      exact ⟨_, htells.event t⟩
  | late hmem =>
    subst hstory
    constructor
    · rintro ⟨lost, hall⟩
      have hsum := hall.sum_counts hplain
      have hnil : s.events = [] := by simpa [hcount] using hsum
      simp [hnil, ht.isTerminal]
    · intro hall
      have hnil : s.events = [] := List.eq_nil_iff_forall_not_mem.mpr fun e he =>
        s.ongoing_events.not_terminal he (hall e (List.mem_append_left _ he))
      rw [hnil]
      exact ⟨0, Tells.nil.event t⟩

/-! ## The command among others -/

/-- How far the command has come. -/
inductive Viewer.Stage
  /-- It has the id of a session. -/
  | called
  | refused (why : RunnerError)
  /-- It has subscribed after some events were published, and has shown what it has heard since. -/
  | listening (missed : List Event) (s : Subscription) (heard : List Event)
  /-- It has shown all that it has heard. -/
  | ended (missed heard : List Event)

/-- What the command answers in the end. -/
def Viewer.Stage.answer? (id : String) : Stage → Option (Except Command.Failure Command.Report)
  | .refused why => some (.error (.ofService (.ofRunner why)))
  | .ended _ heard => some (.ok (Command.showEvents id heard))
  | _ => none

/-- The command and the runner, with the account of the session and its record, as it was last known. -/
structure Viewer where
  account : Account
  last : Session
  stage : Viewer.Stage

namespace Viewer

/-- What the command does next, if it does not have to wait. -/
inductive Move (id : String) : Viewer → Viewer → Prop
  | refuse {a : Account} {last : Session} {why : RunnerError}
      (h : a.hub.runner.subscribe id = .error why) :
      Move id ⟨a, last, .called⟩ ⟨a, last, .refused why⟩
  | subscribe {a : Account} {last : Session} {s : Subscription}
      (h : a.hub.runner.subscribe id = .ok s) :
      Move id ⟨a, last, .called⟩ ⟨a, last, .listening a.told s []⟩
  | receive {a : Account} {last : Session} {missed heard : List Event} {s next : Subscription}
      {e : Event} (h : a.hub.runner.channel.receive s = (.event e, next)) (he : e.isTerminal = false) :
      Move id ⟨a, last, .listening missed s heard⟩ ⟨a, last, .listening missed next (heard ++ [e])⟩
  | finish {a : Account} {last : Session} {missed heard : List Event} {s next : Subscription}
      {e : Event} (h : a.hub.runner.channel.receive s = (.event e, next)) (he : e.isTerminal = true) :
      Move id ⟨a, last, .listening missed s heard⟩ ⟨a, last, .ended missed (heard ++ [e])⟩
  /-- The subscription ends without a terminal event. -/
  | stopShort {a : Account} {last : Session} {missed heard : List Event} {s next : Subscription}
      (h : a.hub.runner.channel.receive s = (.ended, next)) :
      Move id ⟨a, last, .listening missed s heard⟩ ⟨a, last, .ended missed heard⟩

/-- A step of the runner, or of the command. -/
inductive Step (id : String) : Viewer → Viewer → Prop
  | run {a b : Account} {last : Session} {stage : Stage} (h : Account.Step id a b) :
      Step id ⟨a, last, stage⟩ ⟨b, (b.hub.runner.session? id).getD last, stage⟩
  | own {v u : Viewer} (h : Move id v u) : Step id v u

theorem step_of_hub {id : String} {a : Account} {w : Hub} {last : Session} {stage : Stage}
    (h : Hub.Step a.hub w) :
    Step id ⟨a, last, stage⟩
      ⟨⟨w, a.told ++ a.hub.accepted w id⟩, (w.runner.session? id).getD last, stage⟩ :=
  .run (Account.step_of_hub h)

/-- What comes about after the command was given the id of a session. -/
def Reachable (config : Config) (id : String) (v : Viewer) : Prop :=
  ∃ a last, Account.Reachable config id a ∧ a.hub.runner.session? id = some last ∧
    ReflTransGen (Step id) ⟨a, last, .called⟩ v

theorem Reachable.tail {config : Config} {id : String} {v u : Viewer} (h : Reachable config id v)
    (hstep : Step id v u) : Reachable config id u := by
  obtain ⟨a, last, ha, hs, hsteps⟩ := h
  exact ⟨a, last, ha, hs, hsteps.tail hstep⟩

end Viewer

/-! ## The invariant -/

theorem Account.buffer_of_reachable {config : Config} {id : String} {a : Account}
    (h : Reachable config id a) : a.hub.runner.channel.buffer = max config.subscriberBuffer 1 := by
  induction h with
  | refl => rfl
  | tail _ hstep ih =>
    rw [← ih]
    cases hstep.1.airs id with
    | quiet hchannel _ => rw [hchannel]
    | openTopic _ hchannel _ => rw [hchannel, Channel.openTopic_buffer]
    | publish t e hchannel _ => rw [hchannel, Channel.publish_buffer]
    | close t hchannel _ => rw [hchannel, Channel.close_buffer]

/-- What is known at some stage, where the newest events are kept. -/
def Viewer.Stage.Stands (kept : ℕ) (id : String) (a : Account) : Stage → Prop
  | .called => True
  | .refused why => why = .sessionNotFound id ∧ ∃ t ∈ a.told, t.isTerminal = true
  | .listening missed s heard => missed <+: a.told ∧ Ongoing heard ∧
      (a.listener id missed s heard).Sound kept a.hub.runner.channel
  | .ended missed heard => ∃ items t, heard = items ++ [t] ∧ t ∈ a.told ∧ t.isTerminal = true ∧
      Seen kept t missed items a.told

namespace Viewer

/-- What holds whenever the command watches a session. -/
structure Valid (config : Config) (id : String) (v : Viewer) : Prop where
  account : Account.Reachable config id v.account
  records : v.account.Records id v.last
  stage : v.stage.Stands (Ring.powerOfTwo (max config.subscriberBuffer 1)) id v.account

variable {config : Config} {id : String} {v u : Viewer} {a b : Account} {last : Session}
  {missed heard : List Event} {s : Subscription}

theorem Valid.run {stage : Stage} (hv : Valid config id ⟨a, last, stage⟩) (h : Account.Step id a b) :
    Valid config id ⟨b, (b.hub.runner.session? id).getD last, stage⟩ := by
  have hb : Account.Reachable config id b := hv.account.tail h
  have hrecords := hv.records.step hb h
  have hgrows : a.told <+: b.told := ⟨_, h.2.symm⟩
  refine ⟨hb, hrecords, ?_⟩
  have hstage := hv.stage
  cases stage with
  | called => trivial
  | refused why =>
    obtain ⟨hwhy, t, hmem, ht⟩ := hstage
    exact ⟨hwhy, t, hgrows.subset hmem, ht⟩
  | listening missed s heard =>
    obtain ⟨hfirst, hheard, hsound⟩ := hstage
    obtain ⟨p, k, x, hrun, hold, -⟩ := hv.records.run
    exact ⟨hfirst.trans hgrows, hheard,
      Account.sound_step hv.account hrun hold hfirst hsound h⟩
  | ended missed heard =>
    obtain ⟨items, t, hlast, hmem, ht, hseen⟩ := hstage
    have htold : b.told = a.told := hrecords.told_step h hmem ht
    exact ⟨items, t, hlast, htold ▸ hmem, ht, htold ▸ hseen⟩

theorem Valid.kept (hv : Valid config id v) :
    Ring.powerOfTwo v.account.hub.runner.channel.buffer =
      Ring.powerOfTwo (max config.subscriberBuffer 1) := by
  rw [Account.buffer_of_reachable hv.account]

/-- The topic is closed after the end of the run has been published. -/
theorem Valid.exists_terminal (hv : Valid config id v)
    (hclosed : v.account.hub.runner.channel.isOpen id = false) :
    ∃ t ∈ v.account.told, t.isTerminal = true :=
  hv.records.exists_terminal_of_closed (Account.accounts_of_reachable hv.account).1 hclosed

/-- A subscription does not end before the terminal event. -/
theorem Valid.not_ended (hv : Valid config id ⟨a, last, .listening missed s heard⟩) :
    (a.hub.runner.channel.receive s).1 ≠ .ended := by
  obtain ⟨hfirst, hheard, hsound⟩ := hv.stage
  refine hsound.not_ended hv.kept (by rwa [Account.listener, Channel.heard_listener]) fun hclosed => ?_
  rw [Account.listener, Channel.events_listener hfirst]
  exact hv.exists_terminal hclosed

/-- The command hears no more than was published since it has subscribed. -/
theorem Valid.length_le (hv : Valid config id ⟨a, last, .listening missed s heard⟩) :
    missed.length + heard.length ≤ a.told.length := by
  obtain ⟨hfirst, hheard, hsound⟩ := hv.stage
  have hlength := hsound.length_heard_le (by rwa [Account.listener, Channel.heard_listener])
  rw [Account.listener, Channel.heard_listener, Channel.listener, List.length_drop] at hlength
  have hmissed : missed.length ≤ a.told.length := hfirst.length_le
  exact Nat.add_le_of_le_sub' hmissed hlength

/-- The command has come to the end. -/
theorem Valid.seen {next : Subscription} {e : Event}
    (hv : Valid config id ⟨a, last, .listening missed s heard⟩)
    (h : a.hub.runner.channel.receive s = (.event e, next)) (he : e.isTerminal = true) :
    e ∈ a.told ∧ Seen (Ring.powerOfTwo (max config.subscriberBuffer 1)) e missed heard a.told := by
  obtain ⟨hfirst, -, hsound⟩ := hv.stage
  have hnext := hsound.receive hv.kept
  rw [Account.listener, Channel.receive_listener h] at hnext
  have htold := List.prefix_append_drop hfirst
  rcases hnext.concluded Channel.heard_listener he with ⟨since, hsince, hmissed, htells⟩ |
    ⟨hmem, hnone, rfl⟩
  · have hsince' : a.told.drop missed.length = since ++ [e] := hsince
    rw [Channel.listener, hsince'] at htells
    rw [hsince'] at htold
    rw [htold]
    exact ⟨by simp, .since hmissed htells⟩
  · have hnone' : a.told.drop missed.length = [] := hnone
    rw [hnone', List.append_nil] at htold
    rw [htold]
    exact ⟨hmem, .late hmem⟩

theorem Valid.move (hv : Valid config id v) (h : Move id v u) : Valid config id u := by
  cases h with
  | refuse h =>
    obtain ⟨hclosed, hwhy⟩ := Runner.subscribe_eq_error_iff.mp h
    exact ⟨hv.account, hv.records, hwhy, hv.exists_terminal hclosed⟩
  | subscribe h =>
    exact ⟨hv.account, hv.records, List.prefix_refl _, ongoing_nil, Account.sound_subscribe hv.account h⟩
  | receive h he =>
    refine ⟨hv.account, hv.records, ?_⟩
    obtain ⟨hfirst, hheard, hsound⟩ := hv.stage
    have hnext := hsound.receive hv.kept
    rw [Account.listener, Channel.receive_listener h] at hnext
    exact ⟨hfirst, ongoing_append.mpr ⟨hheard, ongoing_singleton.mpr he⟩, hnext⟩
  | finish h he =>
    obtain ⟨hmem, hseen⟩ := hv.seen h he
    exact ⟨hv.account, hv.records, _, _, rfl, hmem, he, hseen⟩
  | stopShort h => exact absurd (by rw [h]) hv.not_ended

theorem valid_of_reachable (h : Reachable config id v) : Valid config id v := by
  obtain ⟨a, last, ha, hs, hsteps⟩ := h
  induction hsteps with
  | refl => exact ⟨ha, Account.records_of_known ha hs, trivial⟩
  | tail _ hstep ih =>
    cases hstep with
    | run h => exact ih.run h
    | own h => exact ih.move h

/-! ## Coming to the end -/

/-- Whoever listens does not have to wait once the end of the run has been published. -/
theorem Valid.exists_event (hv : Valid config id ⟨a, last, .listening missed s heard⟩) {t : Event}
    (hmem : t ∈ a.told) (ht : t.isTerminal = true) :
    ∃ e next, a.hub.runner.channel.receive s = (.event e, next) := by
  obtain ⟨hfirst, -, hsound⟩ := hv.stage
  have hevents : t ∈ (a.listener id missed s heard).events := by
    rwa [Account.listener, Channel.events_listener hfirst]
  have hpending : (a.hub.runner.channel.receive s).1 ≠ .pending := hsound.not_pending hevents ht
  have hended := hv.not_ended
  cases hreceive : a.hub.runner.channel.receive s with
  | mk delivery next =>
    rw [hreceive] at hpending hended
    cases delivery with
    | event e => exact ⟨e, next, rfl⟩
    | pending => exact absurd rfl hpending
    | ended => exact absurd rfl hended

theorem Valid.ends_listening {s : Subscription} {heard : List Event} {t : Event}
    (hv : Valid config id ⟨a, last, .listening missed s heard⟩) (hmem : t ∈ a.told)
    (ht : t.isTerminal = true) :
    ∃ u r, ReflTransGen (Move id) ⟨a, last, .listening missed s heard⟩ u ∧
      u.stage.answer? id = some r := by
  obtain ⟨e, next, hreceive⟩ := hv.exists_event hmem ht
  cases he : e.isTerminal with
  | true => exact ⟨_, _, .single (.finish hreceive he), rfl⟩
  | false =>
    have hmove : Move id ⟨a, last, .listening missed s heard⟩
        ⟨a, last, .listening missed next (heard ++ [e])⟩ := .receive hreceive he
    have hnext := hv.move hmove
    -- only so many events are left to be heard
    have hbound : missed.length + (heard ++ [e]).length ≤ a.told.length := hnext.length_le
    have hlength : (heard ++ [e]).length = heard.length + 1 := List.length_append
    obtain ⟨u, r, hmoves, hr⟩ := hnext.ends_listening hmem ht
    exact ⟨u, r, .head hmove hmoves, hr⟩
termination_by a.told.length - (missed.length + heard.length)

/-- Once the end of the run has been published, the command comes to its answer. -/
theorem Valid.ends (hv : Valid config id v) {t : Event} (hmem : t ∈ v.account.told)
    (ht : t.isTerminal = true) :
    ∃ u r, ReflTransGen (Move id) v u ∧ u.stage.answer? id = some r := by
  obtain ⟨a, last, stage⟩ := v
  cases stage with
  | called =>
    cases hsubscribe : a.hub.runner.subscribe id with
    | error why => exact ⟨_, _, .single (.refuse hsubscribe), rfl⟩
    | ok s =>
      have hmove : Move id ⟨a, last, .called⟩ ⟨a, last, .listening a.told s []⟩ :=
        .subscribe hsubscribe
      obtain ⟨u, r, hmoves, hr⟩ := (hv.move hmove).ends_listening hmem ht
      exact ⟨u, r, .head hmove hmoves, hr⟩
  | refused why => exact ⟨_, _, .refl, rfl⟩
  | listening missed s heard => exact hv.ends_listening hmem ht
  | ended missed heard => exact ⟨_, _, .refl, rfl⟩

/-! ## What the command shows -/

/-- The report ends with the last event, and with the exit code that this stands for. -/
theorem exit_showEvents {last : Session} {e : Event} (h : last.ToldBy e) (id : String)
    (items : List Event) :
    (Command.showEvents id (items ++ [e])).exit = if last.status = .succeeded then 0 else 1 := by
  obtain ⟨-, reason, -, rfl⟩ := h
  simp [Command.showEvents, Event.isTerminal, Command.Report.show]

/-- What is shown of a run. -/
structure Shows (id : String) (kept : ℕ) (v : Viewer) : Prop where
  /-- The command is refused only after the whole run has been published. -/
  refused : ∀ why, v.stage = .refused why → why = .sessionNotFound id ∧
    ∃ e, v.last.ToldBy e ∧ v.account.told = v.last.events ++ [e]
  /-- It asks for no more events than are published after it has subscribed. -/
  bounded : ∀ missed s heard, v.stage = .listening missed s heard →
    missed.length + heard.length ≤ v.account.told.length
  /-- In the end it has shown what was published since it subscribed, but for losses that are counted, or
  the end alone; its exit code is that of the session. -/
  ended : ∀ missed heard, v.stage = .ended missed heard → ∃ items e, heard = items ++ [e] ∧
    v.last.ToldBy e ∧ v.account.told = v.last.events ++ [e] ∧
    Seen kept e missed items v.account.told ∧
    (Command.showEvents id heard).exit = if v.last.status = .succeeded then 0 else 1
  /-- Every line that was recorded is shown or counted exactly if none was published before it has
  subscribed. -/
  whole : ∀ missed heard, v.stage = .ended missed heard →
    ((∃ lost, Tells lost heard v.last.story) ↔ ∀ e ∈ missed, e.isTerminal = true)
  /-- Once the end of the run has been announced it comes to its answer. -/
  ends : ∀ e, Announced v.account.hub.runs id e →
    ∃ u r, ReflTransGen (Move id) v u ∧ u.stage.answer? id = some r

/-- However the steps of a run and of others come between those of the command, it is told of the end of
the run, and of all that is published from when it has subscribed. -/
theorem shows_of_reachable (h : Reachable config id v) :
    v.Shows id (Ring.powerOfTwo (max config.subscriberBuffer 1)) := by
  have hv := valid_of_reachable h
  obtain ⟨a, last, stage⟩ := v
  have hstage := hv.stage
  constructor
  case refused =>
    rintro why rfl
    obtain ⟨hwhy, t, hmem, ht⟩ := hstage
    exact ⟨hwhy, t, hv.records.ended hmem ht⟩
  case bounded =>
    rintro missed s heard rfl
    exact hv.length_le
  case ended =>
    rintro missed heard rfl
    obtain ⟨items, t, rfl, hmem, ht, hseen⟩ := hstage
    obtain ⟨htoldBy, htold⟩ := hv.records.ended hmem ht
    exact ⟨items, t, rfl, htoldBy, htold, hseen, exit_showEvents htoldBy id items⟩
  case whole =>
    rintro missed heard rfl
    obtain ⟨items, t, rfl, hmem, ht, hseen⟩ := hstage
    obtain ⟨htoldBy, htold⟩ := hv.records.ended hmem ht
    rw [htold, ← Session.story_of_toldBy htoldBy] at hseen
    exact hseen.whole_iff htoldBy
  case ends =>
    rintro e ⟨run, hrun, hphase⟩
    obtain ⟨t, hmem, ht⟩ := hv.records.exists_terminal hrun (Phase.topic?_of_announced hphase)
    exact hv.ends hmem ht

/-- Two lines are published for a command that has subscribed at once, where one event is kept. -/
theorem shows_subscribed_at_once :
    ∃ v, Reachable { subscriberBuffer := 1 } "session" v ∧ v.Shows "session" 1 ∧
      v.stage.answer? "session" = some (.ok ⟨0, "two\n",
        "[gap] 1 events dropped\n[done] reason=Exited exit_code=Some(0)\n", none⟩) := by
  have h : Account.Reachable { subscriberBuffer := 1 } "session" _ := ReflTransGen.refl
    |>.tail (Account.step_of_hub (@Hub.Step.acquire _ "session" "pipeline" _ rfl rfl))
    |>.tail (Account.step_of_hub (@Hub.Step.openTopic _ "session" "pipeline" 0 rfl))
    |>.tail (Account.step_of_hub (@Hub.Step.enter _ "session" "pipeline" 0 rfl))
  have hv : Reachable { subscriberBuffer := 1 } "session" _ := ⟨_, _, h, rfl, ReflTransGen.refl
    |>.tail (.own (.subscribe rfl))
    |>.tail (step_of_hub (@Hub.Step.record _ "session" "pipeline" 0 ⟨.stdout, "one"⟩ rfl))
    |>.tail (step_of_hub (@Hub.Step.publish _ "session" "pipeline" 0 _ rfl))
    |>.tail (step_of_hub (@Hub.Step.record _ "session" "pipeline" 0 ⟨.stdout, "two"⟩ rfl))
    |>.tail (step_of_hub (@Hub.Step.publish _ "session" "pipeline" 0 _ rfl))
    |>.tail (.own (.receive rfl rfl))
    |>.tail (.own (.receive rfl rfl))
    |>.tail (step_of_hub (@Hub.Step.finish _ "session" "pipeline" 0 ⟨some 0, .exited⟩ rfl))
    |>.tail (step_of_hub (@Hub.Step.release _ "session" "pipeline" 0 _ rfl))
    |>.tail (step_of_hub (@Hub.Step.announce _ "session" "pipeline" 0 _ rfl))
    |>.tail (.own (.finish rfl rfl))⟩
  exact ⟨_, hv, shows_of_reachable hv, rfl⟩

/-- A run that was over before the command has subscribed: its line is neither shown nor counted, and when
the topic is closed the command fails, though the run has succeeded. -/
theorem not_whole_subscribed_late :
    (∃ v missed heard, Reachable {} "session" v ∧ v.stage = .ended missed heard ∧
      v.last.logs = #[⟨.stdout, "hi"⟩] ∧ (¬ ∃ lost, Tells lost heard v.last.story) ∧
      Command.showEvents "session" heard =
        ⟨0, "", "[done] reason=Exited exit_code=Some(0)\n", none⟩) ∧
    ∃ v, Reachable {} "session" v ∧ v.last.status = .succeeded ∧
      v.stage.answer? "session" = some (.error ⟨"simulation session 'session' not found", none⟩) := by
  have h : Account.Reachable {} "session" _ := ReflTransGen.refl
    |>.tail (Account.step_of_hub (@Hub.Step.acquire _ "session" "pipeline" _ rfl rfl))
    |>.tail (Account.step_of_hub (@Hub.Step.openTopic _ "session" "pipeline" 0 rfl))
    |>.tail (Account.step_of_hub (@Hub.Step.enter _ "session" "pipeline" 0 rfl))
  have hv : Reachable {} "session" _ := ⟨_, _, h, rfl, ReflTransGen.refl
    |>.tail (step_of_hub (@Hub.Step.record _ "session" "pipeline" 0 ⟨.stdout, "hi"⟩ rfl))
    |>.tail (step_of_hub (@Hub.Step.publish _ "session" "pipeline" 0 _ rfl))
    |>.tail (step_of_hub (@Hub.Step.finish _ "session" "pipeline" 0 ⟨some 0, .exited⟩ rfl))
    |>.tail (step_of_hub (@Hub.Step.release _ "session" "pipeline" 0 _ rfl))
    |>.tail (step_of_hub (@Hub.Step.announce _ "session" "pipeline" 0 _ rfl))⟩
  have hlate : Reachable {} "session" _ := hv
    |>.tail (.own (.subscribe rfl))
    |>.tail (.own (.finish rfl rfl))
  have hclosed : Reachable {} "session" _ := hv
    |>.tail (step_of_hub (@Hub.Step.closeTopic _ "session" "pipeline" 0 _ rfl))
    |>.tail (.own (.refuse rfl))
  refine ⟨⟨_, _, _, hlate, rfl, rfl, ?_, rfl⟩, _, hclosed, rfl, rfl⟩
  rintro ⟨lost, hall⟩
  exact absurd (hall.sum_counts fun e he => Session.count_of_mem_story he) (by decide)

end Viewer

end Flowline.Simulation

import Flowline.Proofs.Simulation.Invariant

/-!
# Every step keeps the invariant

Each step changes one of the maps of the runner and the phase of one run; the parts of the invariant
that are about the other maps are kept because the phase says the same of them before and after.
-/

namespace Flowline.Simulation

open Relation

/-! ## What subscribers find -/

/-- A subscription after something has been received: ended, as it was, or further on in its ring. -/
inductive Subscription.Follows (s : Subscription) : Subscription → Prop
  | done : Follows s .done
  | same : Follows s s
  | on (ring next next' : ℕ) (h : s = .live ring next) : Follows s (.live ring next')

/-- A terminal event that a subscriber finds was to be replayed, or is in the ring. -/
def Channel.Finds (c : Channel) (s : Subscription) (e : Event) : Prop :=
  s = .replay e ∨ ∃ ring next r, s = .live ring next ∧ c.rings[ring]? = some r ∧ e ∈ r.sent

theorem Channel.follows_receive (c : Channel) (s : Subscription) : s.Follows (c.receive s).2 := by
  cases s with
  | done => exact .done
  | replay e => exact .done
  | live ring next =>
    rw [receive]
    split
    · exact .done
    · split
      · dsimp only
        split
        · exact .done
        · exact .on ring next _ rfl
      · exact .on ring next _ rfl
      · exact .same
      · exact .done

theorem Channel.finds_receive {c : Channel} {s : Subscription} {e : Event}
    (h : (c.receive s).1 = .event e) (he : e.isTerminal = true) : c.Finds s e := by
  cases s with
  | done => cases h
  | replay e' =>
    obtain rfl := Delivery.event.inj h
    exact Or.inl rfl
  | live ring next =>
    rw [receive] at h
    split at h
    · cases h
    · rename_i r hr
      split at h
      · rename_i e' next' hreceived
        obtain rfl := Delivery.event.inj h
        refine Or.inr ⟨ring, next, r, rfl, hr, ?_⟩
        rw [Ring.receive] at hreceived
        split at hreceived
        · cases hreceived
        · split at hreceived
          · rename_i e'' hget
            obtain rfl := Received.event.inj (congrArg Prod.fst hreceived)
            exact Array.mem_of_getElem? hget
          · split at hreceived <;> cases hreceived
      · -- that some events were missed is no end
        obtain rfl := Delivery.event.inj h
        cases he
      · cases h
      · cases h

namespace Client

variable {c : Channel} {runs : Table Launch} {x : Client} {s : Subscription}

theorem Tuned.follows (h : x.Tuned c runs) (hs : x.subscription.Follows s) :
    { x with subscription := s }.Tuned c runs := by
  cases hs with
  | done => exact ⟨h.received, nofun, nofun, nofun, nofun⟩
  | same => exact h
  | on ring next next' hsub =>
    refine ⟨h.received, nofun, fun ring' next'' heq => ?_,
      fun ring' next'' heq => ?_, fun ring' next'' r heq => ?_⟩
    · obtain ⟨rfl, -⟩ := Subscription.live.inj heq
      exact h.ring_lt ring next hsub
    · obtain ⟨rfl, -⟩ := Subscription.live.inj heq
      exact h.own ring next hsub
    · obtain ⟨rfl, -⟩ := Subscription.live.inj heq
      exact h.live ring next r hsub

theorem Tuned.announced {e : Event} (h : x.Tuned c runs) (hfinds : c.Finds x.subscription e)
    (he : e.isTerminal = true) : Announced runs x.session e := by
  rcases hfinds with hreplay | ⟨ring, next, r, hsub, hr, hmem⟩
  · exact h.replay e hreplay
  · exact h.live ring next r hsub hr e hmem he

theorem Tuned.receive (h : x.Tuned c runs) : (x.receive c).Tuned c runs := by
  have hfollows := c.follows_receive x.subscription
  rw [Client.receive]
  split
  · rename_i e s hreceive
    rw [hreceive] at hfollows
    have hnext := h.follows hfollows
    refine ⟨fun e' he' hterminal => ?_, hnext.replay, hnext.ring_lt, hnext.own, hnext.live⟩
    rcases List.mem_append.mp he' with he' | he'
    · exact h.received e' he' hterminal
    · obtain rfl := List.mem_singleton.mp he'
      exact h.announced (Channel.finds_receive (by rw [hreceive]) hterminal) hterminal
  · rename_i s hne hreceive
    rw [hreceive] at hfollows
    exact h.follows hfollows

end Client

/-! ## The invariant -/

namespace Hub

/-- What holds in every hub that comes about. -/
structure Valid (w : Hub) : Prop where
  locking : Locking w.runner.locks w.runs w.started
  showing : Showing w.runner.sessions w.runs
  topics : ∀ s, w.runner.channel.terminal? s = (w.runs.get? s).bind fun run => run.phase.topic?
  channel : w.runner.channel.Valid
  clients : ∀ x ∈ w.clients, x.Tuned w.runner.channel w.runs

theorem valid_init (config : Config) : (init config).Valid where
  locking := ⟨by simp [init, Runner.new], by simp [init], by simp [init], by simp [init]⟩
  showing := ⟨by simp [init, Runner.new], by simp [init]⟩
  topics := by simp [init, Runner.new, Channel.new, Channel.terminal?]
  channel := Channel.valid_new _
  clients := by simp [init]

variable {w w' : Hub} {id p : String} {k : ℕ} {a b : Phase} {r : Runner} {e : Option Event}

/-! ## Runs -/

/-- When a run goes on, what was announced stays announced. -/
theorem announced_move (hid : w.runs.get? id = some ⟨p, k, a⟩)
    (hab : ∀ e, a.announced? = some e → b.announced? = some e) (s : String) (e : Event)
    (h : Announced w.runs s e) : Announced (w.runs.insert id ⟨p, k, b⟩) s e := by
  obtain ⟨run, hrun, he⟩ := h
  by_cases hs : s = id
  · rw [hs, hid] at hrun
    obtain rfl := Option.some.inj hrun
    exact ⟨⟨p, k, b⟩, by rw [hs, Table.get?_insert_self], hab e he⟩
  · exact ⟨run, by rw [Table.get?_insert_of_ne _ _ hs, hrun], he⟩

theorem topics_move {c : Channel} (hv : w.Valid)
    (hc : ∀ s, c.terminal? s = if s = id then b.topic? else w.runner.channel.terminal? s)
    (s : String) :
    c.terminal? s = ((w.runs.insert id ⟨p, k, b⟩).get? s).bind fun run => run.phase.topic? := by
  rw [hc, Table.get?_insert]
  split
  · rfl
  · exact hv.topics s

/-- The topic of a run is as its phase says. -/
theorem Valid.topic_eq (hv : w.Valid) (hid : w.runs.get? id = some ⟨p, k, a⟩) :
    w.runner.channel.terminal? id = a.topic? := by
  rw [hv.topics, hid]
  rfl

theorem Valid.entry (hv : w.Valid) (hid : w.runs.get? id = some ⟨p, k, a⟩) :
    (Launch.mk p k a).Shows (w.runner.sessions.get? id) := hv.showing.shows id _ hid

/-- A step of a run that leaves the locks as they are, and announces nothing but what it
publishes. -/
theorem Valid.move (hv : w.Valid)
    (hlocking : Locking r.locks (w.runs.insert id ⟨p, k, b⟩) w.started)
    (hother : ∀ s, s ≠ id → r.sessions.get? s = w.runner.sessions.get? s)
    (hshows : (Launch.mk p k b).Shows (r.sessions.get? id))
    (htopics : ∀ s, r.channel.terminal? s =
      if s = id then b.topic? else w.runner.channel.terminal? s)
    (hchannel : r.channel.Valid)
    (hclients : ∀ x ∈ w.clients, x.Tuned r.channel (w.runs.insert id ⟨p, k, b⟩)) :
    (w.move id ⟨p, k, b⟩ r).Valid :=
  ⟨hlocking, hv.showing.move hother hshows, topics_move hv htopics, hchannel, hclients⟩

/-- A step of a run that changes at most its session. -/
theorem Valid.session (hv : w.Valid) (hid : w.runs.get? id = some ⟨p, k, a⟩)
    (hholds : b.holds = a.holds) (htopic : b.topic? = a.topic?)
    (hannounced : ∀ e, a.announced? = some e → b.announced? = some e)
    (hlocks : r.locks = w.runner.locks) (hchannel : r.channel = w.runner.channel)
    (hother : ∀ s, s ≠ id → r.sessions.get? s = w.runner.sessions.get? s)
    (hshows : (Launch.mk p k b).Shows (r.sessions.get? id)) : (w.move id ⟨p, k, b⟩ r).Valid := by
  refine hv.move (hlocks ▸ hv.locking.keep hid hholds) hother hshows (fun s => ?_)
    (hchannel ▸ hv.channel) fun x hx => ?_
  · rw [hchannel, htopic]
    split
    · rename_i hs
      rw [hs, hv.topic_eq hid]
    · rfl
  · rw [hchannel]
    exact (hv.clients x hx).mono (announced_move hid hannounced)

/-- A step of a run that changes at most the channel. -/
theorem Valid.channelStep (hv : w.Valid) (hid : w.runs.get? id = some ⟨p, k, a⟩) {c : Channel}
    (hholds : b.holds = a.holds) (hshows : (Launch.mk p k b).Shows (w.runner.sessions.get? id))
    (htopics : ∀ s, c.terminal? s = if s = id then b.topic? else w.runner.channel.terminal? s)
    (hchannel : c.Valid) (hclients : ∀ x ∈ w.clients, x.Tuned c (w.runs.insert id ⟨p, k, b⟩)) :
    (w.move id ⟨p, k, b⟩ { w.runner with channel := c }).Valid :=
  hv.move (hv.locking.keep hid hholds) (fun _ _ => rfl) hshows htopics hchannel hclients

/-! ## The steps of a run -/

theorem Valid.acquire (hv : w.Valid) (fresh : w.runs.get? id = none)
    (h : w.runner.acquire id p = .ok r) :
    { w.move id ⟨p, w.started, .opening⟩ r with started := w.started + 1 }.Valid := by
  obtain ⟨hfree, rfl⟩ := Runner.acquire_eq_ok_iff.mp h
  have hannounced : ∀ s e, Announced w.runs s e →
      Announced (w.runs.insert id ⟨p, w.started, .opening⟩) s e := by
    rintro s e ⟨run, hrun, he⟩
    have hne : s ≠ id := by
      rintro rfl
      rw [fresh] at hrun
      cases hrun
    exact ⟨run, by rw [Table.get?_insert_of_ne _ _ hne, hrun], he⟩
  have htopics : ∀ s, w.runner.channel.terminal? s =
      if s = id then Phase.topic? .opening else w.runner.channel.terminal? s := by
    intro s
    split
    · rename_i hs
      rw [hs, hv.topics, fresh]
      rfl
    · rfl
  exact ⟨hv.locking.acquire fresh hfree,
    hv.showing.move (fun _ _ => rfl) (hv.showing.unknown id fresh), topics_move hv htopics,
    hv.channel, fun x hx => (hv.clients x hx).mono hannounced⟩

theorem Valid.openTopic (hv : w.Valid) (hid : w.runs.get? id = some ⟨p, k, .opening⟩) :
    (w.move id ⟨p, k, .entering⟩ (w.runner.openTopic id)).Valid := by
  have hentry := hv.entry hid
  refine hv.channelStep hid rfl hentry (Channel.terminal?_openTopic (hv.topic_eq hid))
    (hv.channel.openTopic id) fun x hx => ?_
  exact ((hv.clients x hx).openTopic id).mono (announced_move hid nofun)

theorem Valid.enter (hv : w.Valid) (hid : w.runs.get? id = some ⟨p, k, .entering⟩) :
    (w.move id ⟨p, k, .running⟩ (w.runner.enter id p)).Valid := by
  refine hv.session hid rfl rfl nofun rfl rfl (fun s hs => Table.get?_insert_of_ne _ _ hs) ?_
  rw [Runner.enter, Table.get?_insert_self]
  exact ⟨_, rfl, rfl, rfl⟩

theorem Valid.record (hv : w.Valid) (l : LogLine) (hid : w.runs.get? id = some ⟨p, k, .running⟩) :
    (w.move id ⟨p, k, .recorded (w.runner.record id l).1⟩ (w.runner.record id l).2).Valid := by
  obtain ⟨x, hx, hpipeline, hstatus⟩ := hv.entry hid
  obtain ⟨hrunning, hkept, hevent⟩ :=
    Session.append_running hstatus w.runner.config.maxOutputBytes l
  rw [Runner.record, Runner.update_eq hx]
  refine hv.session hid rfl rfl nofun rfl rfl (fun s hs => Table.get?_insert_of_ne _ _ hs) ?_
  rw [Table.get?_insert_self]
  exact ⟨⟨_, rfl, hkept.trans hpipeline, hrunning⟩, hevent⟩

theorem Valid.publish (hv : w.Valid) (hid : w.runs.get? id = some ⟨p, k, .recorded e⟩) :
    (w.move id ⟨p, k, .running⟩ (w.runner.publish? id e)).Valid := by
  obtain ⟨hentry, hevent⟩ := hv.entry hid
  cases e with
  | none => exact hv.session hid rfl rfl nofun rfl rfl (fun _ _ => rfl) hentry
  | some event =>
    have hline := hevent event rfl
    refine hv.channelStep hid rfl hentry (fun s => ?_) (hv.channel.publish id event)
      fun x hx => ?_
    · rw [Channel.terminal?_publish (hv.topic_eq hid), hline]
      rfl
    · exact ((hv.clients x hx).mono (announced_move hid nofun)).publish fun h => by
        rw [hline] at h
        cases h

theorem Valid.finish (hv : w.Valid) (o : Outcome) (hid : w.runs.get? id = some ⟨p, k, .running⟩) :
    (w.move id ⟨p, k, .finished (w.runner.finish id o).1⟩ (w.runner.finish id o).2).Valid := by
  obtain ⟨x, hx, hpipeline, hstatus⟩ := hv.entry hid
  obtain ⟨hended, hkept⟩ := Session.ended_finish hstatus o
  rw [Runner.finish, Runner.update_eq hx]
  refine hv.session hid rfl rfl nofun rfl rfl (fun s hs => Table.get?_insert_of_ne _ _ hs) ?_
  rw [Table.get?_insert_self]
  exact ⟨_, rfl, hkept.trans hpipeline, hended⟩

theorem Valid.release (hv : w.Valid) (hid : w.runs.get? id = some ⟨p, k, .finished e⟩) :
    (w.move id ⟨p, k, .released e⟩ (w.runner.release id p)).Valid := by
  have hentry := hv.entry hid
  have hchannel : (w.runner.release id p).channel.Valid := by
    rw [Runner.release_channel]
    exact hv.channel
  refine hv.move (hv.locking.release hid rfl rfl) (fun _ _ => by rw [Runner.release_sessions])
    (by rw [Runner.release_sessions]; exact hentry) (fun s => ?_) hchannel fun x hx => ?_
  · rw [Runner.release_channel]
    split
    · rename_i hs
      rw [hs, hv.topic_eq hid]
      rfl
    · rfl
  · rw [Runner.release_channel]
    exact (hv.clients x hx).mono (announced_move hid nofun)

/-- The end that is announced is that of the session, and the first that its topic is told of. -/
theorem Valid.announce (hv : w.Valid) (hid : w.runs.get? id = some ⟨p, k, .released e⟩) :
    (w.move id ⟨p, k, .announced e⟩ (w.runner.publish? id e)).Valid := by
  have hentry := hv.entry hid
  obtain ⟨x, hx, hpipeline, o, houtcome, hstatus, rfl⟩ := hentry
  have hself : Announced (w.runs.insert id
      ⟨p, k, .announced (some (.complete o.success o.exitCode o.reason))⟩) id
      (.complete o.success o.exitCode o.reason) := ⟨_, Table.get?_insert_self _ _ _, rfl⟩
  refine hv.channelStep hid rfl ⟨x, hx, hpipeline, o, houtcome, hstatus, rfl⟩ (fun s => ?_)
    (hv.channel.publish id _) fun y hy => ?_
  · rw [Channel.terminal?_publish (hv.topic_eq hid)]
    rfl
  · exact ((hv.clients y hy).mono (announced_move hid nofun)).publish fun _ => hself

theorem Valid.closeTopic (hv : w.Valid) (hid : w.runs.get? id = some ⟨p, k, .announced e⟩) :
    (w.move id ⟨p, k, .closed e⟩ (w.runner.closeTopic id)).Valid := by
  have hentry := hv.entry hid
  refine hv.channelStep hid rfl hentry (Channel.terminal?_close _ id) (hv.channel.close id)
    fun x hx => ?_
  exact ((hv.clients x hx).close id).mono (announced_move hid fun _ h => h)

theorem Valid.discard (hv : w.Valid) (hid : w.runs.get? id = some ⟨p, k, .closed e⟩) :
    (w.move id ⟨p, k, .gone e⟩ (w.runner.discard id)).Valid :=
  hv.session hid rfl rfl (fun _ h => h) rfl rfl (fun _ hs => Table.get?_erase_of_ne _ hs)
    (Table.get?_erase_self _ id)

/-! ## The steps of clients -/

theorem Valid.stop (hv : w.Valid) (h : w.runner.stop id = .ok r) : { w with runner := r }.Valid := by
  obtain ⟨x, hx, rfl⟩ := Runner.stop_eq_ok_iff.mp h
  exact ⟨hv.locking, hv.showing.cancel hx, hv.topics, hv.channel, hv.clients⟩

/-- A topic with an end is that of a run which has announced it. -/
theorem Valid.announced_of_topic {topic : Topic} {e : Event} (hv : w.Valid)
    (htopic : w.runner.channel.topics.get? id = some topic) (he : topic.terminal = some e) :
    ∃ run, w.runs.get? id = some run ∧ run.phase = .announced (some e) := by
  have hterminal : w.runner.channel.terminal? id = some (some e) := by
    rw [Channel.terminal?, htopic, Option.map_some, he]
  rw [hv.topics] at hterminal
  obtain ⟨run, hrun, hphase⟩ := Option.bind_eq_some_iff.mp hterminal
  refine ⟨run, hrun, ?_⟩
  cases hrunPhase : run.phase with
  | announced event =>
    rw [hrunPhase] at hphase
    rw [Option.some.inj hphase]
  | _ => simp [hrunPhase, Phase.topic?] at hphase

/-- Who subscribes hears what is published from now on, or the end that was announced. -/
theorem Valid.tuned_subscribe {s : Subscription} (hv : w.Valid)
    (h : w.runner.subscribe id = .ok s) :
    (Client.mk id s []).Tuned w.runner.channel w.runs := by
  obtain ⟨topic, htopic, rfl⟩ := Option.map_eq_some_iff.mp (Runner.subscribe_eq_ok_iff.mp h)
  cases hterminal : topic.terminal with
  | some e =>
    obtain ⟨run, hrun, hphase⟩ := hv.announced_of_topic htopic hterminal
    refine ⟨nofun, fun e' he' => ?_, nofun, nofun, nofun⟩
    obtain rfl := Subscription.replay.inj he'
    exact ⟨run, hrun, by rw [hphase]; rfl⟩
  | none =>
    refine ⟨nofun, nofun, fun ring next hsub => ?_, fun ring next hsub t other hother hring => ?_,
      fun ring next r hsub hr e he hend => ?_⟩
    · obtain ⟨rfl, -⟩ := Subscription.live.inj hsub
      exact hv.channel.ring_lt id topic htopic
    · obtain ⟨rfl, -⟩ := Subscription.live.inj hsub
      exact hv.channel.ring_injective t id other topic hother htopic hring
    · obtain ⟨rfl, -⟩ := Subscription.live.inj hsub
      have hsome := hv.channel.terminal id topic r htopic hr e he hend
      rw [hterminal] at hsome
      cases hsome

theorem Valid.subscribe {s : Subscription} (hv : w.Valid) (h : w.runner.subscribe id = .ok s) :
    ({ w with clients := w.clients ++ [⟨id, s, []⟩] } : Hub).Valid := by
  refine ⟨hv.locking, hv.showing, hv.topics, hv.channel, fun x hx => ?_⟩
  rcases List.mem_append.mp hx with hx | hx
  · exact hv.clients x hx
  · rw [List.mem_singleton.mp hx]
    exact hv.tuned_subscribe h

theorem Valid.receive {before after : List Client} {x : Client} (hv : w.Valid)
    (h : w.clients = before ++ x :: after) :
    { w with clients := before ++ x.receive w.runner.channel :: after }.Valid := by
  refine ⟨hv.locking, hv.showing, hv.topics, hv.channel, fun y hy => ?_⟩
  rcases List.mem_append.mp hy with hy | hy
  · exact hv.clients y (by simp [h, hy])
  · rcases List.mem_cons.mp hy with rfl | hy
    · exact (hv.clients x (by simp [h])).receive
    · exact hv.clients y (by simp [h, hy])

/-! ## All steps -/

theorem Valid.step (hv : w.Valid) (h : Step w w') : w'.Valid := by
  cases h with
  | acquire fresh h => exact hv.acquire fresh h
  | refused h => exact hv
  | openTopic h => exact hv.openTopic h
  | enter h => exact hv.enter h
  | record l h => exact hv.record l h
  | publish h => exact hv.publish h
  | finish o h => exact hv.finish o h
  | release h => exact hv.release h
  | announce h => exact hv.announce h
  | closeTopic h => exact hv.closeTopic h
  | discard h => exact hv.discard h
  | stop h => exact hv.stop h
  | subscribe h => exact hv.subscribe h
  | receive h => exact hv.receive h
  | look => exact hv

/-- The invariant holds in every hub that comes about. -/
theorem valid_of_reachable {config : Config} (h : Reachable config w) : w.Valid := by
  induction h with
  | refl => exact valid_init config
  | tail _ hstep hv => exact hv.step hstep

/-! ## What is done at once -/

/-- A start is made of steps, after which the session is running. -/
theorem steps_start (fresh : w.runs.get? id = none) (h : w.runner.start id p = .ok r) :
    ∃ w', ReflTransGen Step w w' ∧ w'.runner = r ∧
      w'.runs.get? id = some ⟨p, w.started, .running⟩ := by
  obtain ⟨s, hs, rfl⟩ := Runner.start_eq_ok_iff.mp h
  obtain ⟨w₁, h₁, hr₁, hid₁⟩ : ∃ w₁, Step w w₁ ∧ w₁.runner = s ∧
      w₁.runs.get? id = some ⟨p, w.started, .opening⟩ :=
    ⟨_, Step.acquire fresh hs, rfl, Table.get?_insert_self _ id _⟩
  obtain ⟨w₂, h₂, hr₂, hid₂⟩ : ∃ w₂, Step w₁ w₂ ∧ w₂.runner = w₁.runner.openTopic id ∧
      w₂.runs.get? id = some ⟨p, w.started, .entering⟩ :=
    ⟨_, Step.openTopic hid₁, rfl, Table.get?_insert_self _ id _⟩
  obtain ⟨w₃, h₃, hr₃, hid₃⟩ : ∃ w₃, Step w₂ w₃ ∧ w₃.runner = w₂.runner.enter id p ∧
      w₃.runs.get? id = some ⟨p, w.started, .running⟩ :=
    ⟨_, Step.enter hid₂, rfl, Table.get?_insert_self _ id _⟩
  exact ⟨w₃, ((ReflTransGen.single h₁).tail h₂).tail h₃, by rw [hr₃, hr₂, hr₁], hid₃⟩

/-- To append a line is made of steps, after which the session is still running. -/
theorem steps_append (hid : w.runs.get? id = some ⟨p, k, .running⟩) (l : LogLine) :
    ∃ w', ReflTransGen Step w w' ∧ w'.runner = w.runner.append id l ∧
      w'.runs.get? id = some ⟨p, k, .running⟩ := by
  obtain ⟨w₁, h₁, hr₁, hid₁⟩ : ∃ w₁, Step w w₁ ∧ w₁.runner = (w.runner.record id l).2 ∧
      w₁.runs.get? id = some ⟨p, k, .recorded (w.runner.record id l).1⟩ :=
    ⟨_, Step.record l hid, rfl, Table.get?_insert_self _ id _⟩
  exact ⟨_, (ReflTransGen.single h₁).tail (Step.publish hid₁), by rw [Hub.move, hr₁]; rfl,
    Table.get?_insert_self _ id _⟩

/-- To complete a run is made of steps, after which its end has been announced. -/
theorem Valid.steps_complete (hv : w.Valid) (hid : w.runs.get? id = some ⟨p, k, .running⟩)
    (o : Outcome) :
    ∃ w' e, ReflTransGen Step w w' ∧ w'.runner = w.runner.complete id o ∧
      w'.runs.get? id = some ⟨p, k, .announced e⟩ := by
  obtain ⟨x, hx, hpipeline, hstatus⟩ := hv.entry hid
  obtain ⟨-, hkept⟩ := Session.ended_finish hstatus o
  obtain ⟨w₁, h₁, hr₁, hid₁⟩ : ∃ w₁, Step w w₁ ∧ w₁.runner = (w.runner.finish id o).2 ∧
      w₁.runs.get? id = some ⟨p, k, .finished (w.runner.finish id o).1⟩ :=
    ⟨_, Step.finish o hid, rfl, Table.get?_insert_self _ id _⟩
  obtain ⟨w₂, h₂, hr₂, hid₂⟩ : ∃ w₂, Step w₁ w₂ ∧ w₂.runner = w₁.runner.release id p ∧
      w₂.runs.get? id = some ⟨p, k, .released (w.runner.finish id o).1⟩ :=
    ⟨_, Step.release hid₁, rfl, Table.get?_insert_self _ id _⟩
  refine ⟨_, _, ((ReflTransGen.single h₁).tail h₂).tail (Step.announce hid₂), ?_,
    Table.get?_insert_self _ id _⟩
  have hsession : (w.runner.finish id o).2.session? id = some (x.session.finish o).2 := by
    rw [Runner.finish, Runner.update_eq hx, Runner.session?, Table.get?_insert_self]
    rfl
  simp only [Runner.complete, hsession, Hub.move, hr₂, hr₁, hkept, hpipeline]

end Hub

end Flowline.Simulation

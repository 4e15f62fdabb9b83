import Flowline.Proofs.Simulation.Listening

/-!
# Delivery

Whatever the publishers and the listeners of a channel do, in whatever order: every listener is told of
what was published for its topic since it subscribed, in order and with all losses counted, and of the
end of it exactly once.
-/

namespace Flowline.Simulation.Fanout

variable {w : Fanout} {buffer i : ℕ} {id : String} {e t : Event} {l : Listener}

/-- What holds of a channel and its listeners after every operation. -/
structure Sound (buffer : ℕ) (w : Fanout) : Prop where
  valid : w.channel.Valid
  width : w.channel.buffer = max buffer 1
  /-- The log has what the topics have taken. -/
  log : ∀ id es, w.log.get? id = some es → ∃ ring, w.channel.Keeps id ring es
  topics : ∀ id, w.log.get? id = none → w.channel.topics.get? id = none
  listeners : ∀ l ∈ w.listeners, l.Sound (Ring.powerOfTwo (max buffer 1)) w.channel

theorem Sound.keeps (h : w.Sound buffer) (topic : Topic)
    (htopic : w.channel.topics.get? id = some topic) : ∃ es, w.channel.Keeps id topic.ring es := by
  cases hlog : w.log.get? id with
  | none =>
    have hnone := h.topics id hlog
    rw [htopic] at hnone
    cases hnone
  | some es =>
    obtain ⟨ring, hring⟩ := h.log id es hlog
    obtain rfl := Option.some.inj (hring.topic.symm.trans htopic)
    exact ⟨es, hring⟩

theorem Sound.accepts (h : w.Sound buffer) (id : String) (e : Event) :
    (w.channel.publish id e).1 = true ↔ ∃ es, w.log.get? id = some es ∧ Ongoing es := by
  cases hlog : w.log.get? id with
  | none => simp [Channel.publish_of_get?_eq_none (h.topics id hlog)]
  | some es =>
    obtain ⟨ring, hring⟩ := h.log id es hlog
    simp [hring.publish_fst]

theorem Sound.subscribes (h : w.Sound buffer) (id : String) :
    (w.channel.subscribe id).isSome = w.log.has id := by
  rw [Table.has_eq_isSome]
  cases hlog : w.log.get? id with
  | none => simp [Channel.subscribe, h.topics id hlog]
  | some es =>
    obtain ⟨ring, hring⟩ := h.log id es hlog
    rw [hring.subscribe_eq]
    rfl

theorem sound_new (buffer : ℕ) : (new buffer).Sound buffer where
  valid := Channel.valid_new buffer
  width := rfl
  log id es h := by simp [new] at h
  topics id _ := rfl
  listeners l h := by simp [new] at h

/-! ## Operations -/

theorem apply_publish_of_accepted (h : (w.channel.publish id e).1 = true) :
    w.apply (.publish id e) = {
      channel := (w.channel.publish id e).2
      log := w.log.insert id ((w.log.get? id).getD [] ++ [e])
      listeners := w.listeners.map (·.notice id e) } := by
  generalize hpublish : w.channel.publish id e = r at h
  obtain ⟨accepted, channel⟩ := r
  obtain rfl : accepted = true := h
  simp only [apply, hpublish]

theorem apply_publish_of_refused (h : (w.channel.publish id e).1 = false) :
    w.apply (.publish id e) = w := by
  simp only [apply, Channel.publish_of_refused h]

/-- Opening a topic that is open leaves what it has taken. -/
theorem get?_log_openTopic (w : Fanout) (id s : String) :
    (w.apply (.openTopic id)).log.get? s =
      if s = id then some ((w.log.get? id).getD []) else w.log.get? s := by
  rw [apply, Table.has_eq_isSome]
  cases hlog : w.log.get? id with
  | none => exact Table.get?_insert _ _ _ _
  | some es =>
    by_cases hs : s = id
    · rw [if_pos hs, hs]
      exact hlog
    · rw [if_neg hs]
      rfl

theorem Sound.openTopic (h : w.Sound buffer) (id : String) :
    (w.apply (.openTopic id)).Sound buffer := by
  refine ⟨h.valid.openTopic id, ?_, fun s es hs => ?_, fun s hs => ?_, fun l hl => ?_⟩
  · exact (Channel.openTopic_buffer _ _).trans h.width
  · have hold : w.log.get? s = some es → ∃ ring, (w.channel.openTopic id).Keeps s ring es := by
      intro hs
      obtain ⟨ring, hring⟩ := h.log s es hs
      exact ⟨ring, hring.openTopic id⟩
    rw [get?_log_openTopic] at hs
    split at hs
    · rename_i heq
      subst heq
      cases hlog : w.log.get? s with
      | none =>
        rw [hlog] at hs
        obtain rfl := Option.some.inj hs
        exact ⟨_, Channel.keeps_openTopic (h.topics s hlog)⟩
      | some es' =>
        rw [hlog] at hs
        exact hold (hlog.trans hs)
    · exact hold hs
  · rw [get?_log_openTopic] at hs
    split at hs
    · cases hs
    · rename_i hne
      exact (Channel.get?_openTopic_of_ne _ hne).trans (h.topics s hs)
  · have hl : l ∈ w.listeners := hl
    exact (h.listeners l hl).of_source fun ring hsource => hsource.openTopic id

theorem Sound.publish (h : w.Sound buffer) (id : String) (e : Event) :
    (w.apply (.publish id e)).Sound buffer := by
  cases haccepted : (w.channel.publish id e).1 with
  | false => rwa [apply_publish_of_refused haccepted]
  | true =>
    obtain ⟨es, hlog, hongoing⟩ := (h.accepts id e).mp haccepted
    obtain ⟨ring, hring⟩ := h.log id es hlog
    rw [apply_publish_of_accepted haccepted, hlog, Option.getD_some]
    refine ⟨h.valid.publish id e, ?_, fun s fs hs => ?_, fun s hs => ?_, fun l hl => ?_⟩
    · rw [Channel.publish_buffer, h.width]
    · rcases Table.get?_insert_eq_some.mp hs with ⟨rfl, rfl⟩ | ⟨hne, hs⟩
      · exact ⟨ring, hring.publish hongoing e⟩
      · obtain ⟨k, hk⟩ := h.log s fs hs
        exact ⟨k, hk.publish_of_ne h.valid hne e⟩
    · have hne : s ≠ id := by
        rintro rfl
        simp at hs
      rw [Channel.get?_publish_of_ne _ hne]
      exact h.topics s (by simpa [hne] using hs)
    · obtain ⟨x, hx, rfl⟩ := List.mem_map.mp hl
      exact (h.listeners x hx).notice h.valid hring haccepted

theorem Sound.subscribe (h : w.Sound buffer) (id : String) :
    (w.apply (.subscribe id)).Sound buffer := by
  rw [Fanout.apply]
  split
  · exact h
  · rename_i s hs
    have hlog : w.log.has id = true := by rw [← h.subscribes, hs, Option.isSome_some]
    rw [Table.has_eq_isSome] at hlog
    obtain ⟨es, hlog⟩ := Option.isSome_iff_exists.mp hlog
    obtain ⟨ring, hring⟩ := h.log id es hlog
    refine ⟨h.valid, h.width, h.log, h.topics, fun l hl => ?_⟩
    rw [hlog, Option.getD_some] at hl
    rcases List.mem_append.mp hl with hl | hl
    · exact h.listeners l hl
    · rw [List.mem_singleton.mp hl]
      exact Listener.sound_subscribe hring hs _

theorem Sound.receive (h : w.Sound buffer) (i : ℕ) : (w.apply (.receive i)).Sound buffer := by
  refine ⟨h.valid, h.width, h.log, h.topics, fun l hl => ?_⟩
  obtain ⟨j, hj⟩ := List.mem_iff_getElem?.mp hl
  rw [Fanout.apply, List.getElem?_modify] at hj
  obtain ⟨x, hx, rfl⟩ := Option.map_eq_some_iff.mp hj
  have hsound := h.listeners x (List.mem_of_getElem? hx)
  split
  · exact hsound.receive (congrArg Ring.powerOfTwo h.width)
  · exact hsound

theorem Sound.close (h : w.Sound buffer) (id : String) : (w.apply (.close id)).Sound buffer := by
  rw [Fanout.apply]
  refine ⟨h.valid.close id, ?_, fun s es hs => ?_, fun s hs => ?_, fun l hl => ?_⟩
  · rw [Channel.close_buffer, h.width]
  · obtain ⟨hne, hs⟩ := Table.get?_erase_eq_some.mp hs
    obtain ⟨k, hk⟩ := h.log s es hs
    exact ⟨k, hk.close_of_ne h.valid hne⟩
  · rw [Channel.get?_close]
    split
    · rfl
    · rename_i hne
      exact h.topics s (by simpa [hne] using hs)
  · obtain ⟨x, hx, rfl⟩ := List.mem_map.mp hl
    exact (h.listeners x hx).detach h.valid h.keeps

theorem Sound.apply (h : w.Sound buffer) (op : Op) : (w.apply op).Sound buffer := by
  cases op with
  | openTopic id => exact h.openTopic id
  | publish id e => exact h.publish id e
  | subscribe id => exact h.subscribe id
  | receive i => exact h.receive i
  | close id => exact h.close id

theorem Sound.run (h : w.Sound buffer) (ops : List Op) : (w.run ops).Sound buffer := by
  induction ops generalizing w with
  | nil => exact h
  | cons op ops ih => exact ih (h.apply op)

/-! ## After the end -/

/-- Once a topic has its terminal event, its listeners change by their own requests only. -/
theorem Sound.answered_apply (h : w.Sound buffer) (hl : w.listeners[i]? = some l) (hmem : t ∈ l.events)
    (ht : t.isTerminal = true) (op : Op) : ∃ l', (w.apply op).listeners[i]? = some l' ∧
      l.Answered ([op].count (.receive i)) l' := by
  have hsound := h.listeners l (List.mem_of_getElem? hl)
  cases op with
  | openTopic id => exact ⟨l, hl, .refl l⟩
  | publish id e =>
    cases haccepted : (w.channel.publish id e).1 with
    | false =>
      rw [apply_publish_of_refused haccepted]
      exact ⟨l, hl, .refl l⟩
    | true =>
      rw [apply_publish_of_accepted haccepted]
      refine ⟨l, ?_, .refl l⟩
      rw [List.getElem?_map, hl, Option.map_some, hsound.notice_eq hmem ht haccepted]
  | subscribe id =>
    rw [Fanout.apply]
    split
    · exact ⟨l, hl, .refl l⟩
    · obtain ⟨hlt, -⟩ := List.getElem?_eq_some_iff.mp hl
      exact ⟨l, by rw [List.getElem?_append_left hlt, hl], .refl l⟩
  | receive j =>
    rw [Fanout.apply, List.getElem?_modify, hl, Option.map_eq_map, Option.map_some]
    by_cases hj : j = i
    · subst hj
      exact ⟨l.receive w.channel, by simp, by simpa using hsound.answered hmem ht⟩
    · exact ⟨l, by simp [hj], by simpa [hj] using Listener.Answered.refl l⟩
  | close id =>
    rw [Fanout.apply, List.getElem?_map, hl, Option.map_some]
    exact ⟨l.detach id, rfl, .detach l id⟩

theorem Sound.answered_run (h : w.Sound buffer) (hl : w.listeners[i]? = some l) (hmem : t ∈ l.events)
    (ht : t.isTerminal = true) (ops : List Op) : ∃ l', (w.run ops).listeners[i]? = some l' ∧
      l.Answered (ops.count (.receive i)) l' := by
  induction ops generalizing w l with
  | nil => exact ⟨l, hl, .refl l⟩
  | cons op ops ih =>
    obtain ⟨l₁, hl₁, h₁⟩ := h.answered_apply hl hmem ht op
    obtain ⟨l₂, hl₂, h₂⟩ := ih (h.apply op) hl₁ (h₁.events_eq ▸ hmem)
    refine ⟨l₂, hl₂, ?_⟩
    rw [← List.singleton_append, List.count_append]
    exact h₁.trans h₂

/-- In every interleaving of the operations of a channel, over any sessions and subscribers, what
listeners are told is what was published for them. -/
theorem delivers_run (buffer : ℕ) (ops : List Op) :
    ((new buffer).run ops).Delivers buffer (Ring.powerOfTwo (max buffer 1)) := by
  have h : ((new buffer).run ops).Sound buffer := (sound_new buffer).run ops
  refine ⟨Ring.isLeast_powerOfTwo _, h.accepts, h.subscribes, fun l hl => (h.listeners l hl).faithful,
    fun l hl t hmem ht => (h.listeners l hl).late hmem ht, fun i l t hl hmem ht more => ?_⟩
  obtain ⟨l', hl', hanswered⟩ := h.answered_run hl hmem ht more
  refine ⟨l', hl', hanswered, fun hpublished hrequests => ?_⟩
  have hsound := (h.run more).listeners l' (List.mem_of_getElem? hl')
  have hpublished' : t ∈ l'.published := hanswered.published ▸ hpublished
  -- what follows the events taken before the subscription is not empty
  have hbefore : Ongoing l'.before :=
    ongoing_of_dropLast_append hsound.ends (List.ne_nil_of_mem hpublished')
  refine (hsound.faithful hbefore).terminal hpublished' ht ?_
  obtain ⟨answers, heq, hlength⟩ := hanswered.answers
  rw [hanswered.published, heq, List.length_append, hlength]
  omega

/-- With room for two events, four of six are lost to a listener that asks late; one that subscribes
after the end gets the end alone. -/
example :
    let line (s : String) : Op := .publish "s" (.log .stdout s)
    let ended : Event := .complete true (some 0) .exited
    ((new 2).run [.openTopic "s", .subscribe "s", line "0", line "1", line "2", line "3", line "4",
      .publish "s" ended, .subscribe "s", .receive 0, .receive 0, .receive 1, .receive 0, .receive 0,
      .receive 1]).listeners.map (·.answers) =
    [[some (.gap 4), some (.log .stdout "4"), some ended, none], [some ended, none]] := by
  decide

end Flowline.Simulation.Fanout

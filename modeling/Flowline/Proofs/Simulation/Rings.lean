import Flowline.Proofs.Simulation.Channel
import Flowline.Proofs.Simulation.Fanout
import Mathlib.Algebra.Group.Nat.Defs

/-!
# What rings hold

The ring of a topic holds the events that the topic has taken, and after the topic has been discarded
those that it had taken until then.  The operations of a channel change one topic and its ring, and a
request finds the next event, or learns how many were lost.
-/

namespace Flowline.Simulation

theorem ongoing_nil : Ongoing [] := fun _ h => absurd h List.not_mem_nil

theorem ongoing_append {es fs : List Event} : Ongoing (es ++ fs) ↔ Ongoing es ∧ Ongoing fs := by
  simp [Ongoing, or_imp, forall_and]

theorem ongoing_singleton {e : Event} : Ongoing [e] ↔ e.isTerminal = false := by
  simp [Ongoing]

/-- Among events that go on there is no terminal one. -/
theorem Ongoing.not_terminal {es : List Event} {t : Event} (h : Ongoing es) (ht : t ∈ es) :
    t.isTerminal ≠ true := by
  simp [h t ht]

/-- Where only the last of some events may be terminal, those that others follow are not. -/
theorem ongoing_of_dropLast_append {es fs : List Event} (h : Ongoing (es ++ fs).dropLast)
    (hne : fs ≠ []) : Ongoing es := by
  rw [List.dropLast_append_of_ne_nil hne] at h
  exact (ongoing_append.mp h).1

/-- Where only the last of some events may be terminal, a terminal one is the last. -/
theorem eq_concat_of_terminal {es : List Event} {t : Event} (h : Ongoing es.dropLast) (hmem : t ∈ es)
    (ht : t.isTerminal = true) : es = es.dropLast ++ [t] := by
  have hne : es ≠ [] := List.ne_nil_of_mem hmem
  have hsplit := List.dropLast_concat_getLast hne
  rw [← hsplit, List.mem_append, List.mem_singleton] at hmem
  rcases hmem with hmem | rfl
  · exact absurd ht (h.not_terminal hmem)
  · exact hsplit.symm

theorem find?_isTerminal_eq_none {es : List Event} : es.find? (·.isTerminal) = none ↔ Ongoing es := by
  simp [Ongoing]

/-! ## Rings -/

namespace Ring

/-- Doubling from a power of two finds the least one that reaches `n`. -/
theorem powerFrom_least (n : ℕ) : ∀ fuel k : ℕ, n ≤ 2 ^ fuel * 2 ^ k → (∀ j < k, 2 ^ j < n) →
    ∃ m, powerFrom n fuel (2 ^ k) = 2 ^ m ∧ n ≤ 2 ^ m ∧ ∀ j < m, 2 ^ j < n := by
  intro fuel
  induction fuel with
  | zero =>
    intro k hn hleast
    exact ⟨k, rfl, by simpa using hn, hleast⟩
  | succ fuel ih =>
    intro k hn hleast
    rw [powerFrom]
    split
    · rename_i hreached
      exact ⟨k, rfl, hreached, hleast⟩
    · rename_i hnot
      have hdouble : 2 * 2 ^ k = 2 ^ (k + 1) := by rw [Nat.pow_succ, Nat.mul_comm]
      rw [hdouble]
      refine ih (k + 1) (by rwa [Nat.pow_succ, Nat.mul_assoc, hdouble] at hn) fun j hj => ?_
      rcases Nat.lt_succ_iff_lt_or_eq.mp hj with hj | rfl
      · exact hleast j hj
      · exact Nat.lt_of_not_le hnot

theorem isLeast_powerOfTwo (n : ℕ) : IsLeast {p | n ≤ p ∧ p.isPowerOfTwo} (powerOfTwo n) := by
  have hreached : n ≤ 2 ^ n * 2 ^ 0 := by simpa using Nat.le_of_lt Nat.lt_two_pow_self
  obtain ⟨m, heq, hn, hleast⟩ :=
    powerFrom_least n n 0 hreached fun j hj => absurd hj (Nat.not_lt_zero j)
  rw [Nat.pow_zero] at heq
  rw [powerOfTwo, heq]
  refine ⟨⟨hn, m, rfl⟩, ?_⟩
  rintro p ⟨hp, k, rfl⟩
  have hmk : m ≤ k := Nat.le_of_not_lt fun hlt => Nat.lt_irrefl n (Nat.lt_of_le_of_lt hp (hleast k hlt))
  exact Nat.pow_le_pow_right Nat.two_pos hmk

theorem powerOfTwo_pos (n : ℕ) : 0 < powerOfTwo n := by
  obtain ⟨-, k, hk⟩ := (isLeast_powerOfTwo n).1
  rw [hk]
  exact Nat.two_pow_pos k

/-- A receiver that has passed some events finds the next one; if more than the ring keeps are to come,
it learns how many are lost instead. -/
theorem receive_eq {r : Ring} {passed rest : List Event} (h : r.sent = (passed ++ rest).toArray) :
    r.receive passed.length =
      if r.capacity < rest.length then
        (.lagged (rest.length - r.capacity), passed.length + (rest.length - r.capacity))
      else match rest with
        | e :: _ => (.event e, passed.length + 1)
        | [] => (if r.closed then .closed else .empty, passed.length) := by
  have holdest : r.oldest = passed.length + rest.length - r.capacity := by simp [oldest, h]
  rw [receive, holdest]
  by_cases hlost : r.capacity < rest.length
  · have hpassed : passed.length < passed.length + rest.length - r.capacity := by omega
    rw [if_pos hlost, if_pos hpassed, Nat.add_sub_assoc (Nat.le_of_lt hlost), Nat.add_sub_cancel_left]
  · have hpassed : ¬ passed.length < passed.length + rest.length - r.capacity := by omega
    rw [if_neg hlost, if_neg hpassed, h]
    cases rest with
    | nil => simp
    | cons e rest => simp

end Ring

/-! ## Topics -/

namespace Channel

variable {c : Channel} {id s : String} {ring k : ℕ} {es fs : List Event} {closed : Bool} {e : Event}

/-- A ring holds some events, of which only the last may be terminal. -/
structure Holds (c : Channel) (ring : ℕ) (es : List Event) (closed : Bool) : Prop where
  ring : c.rings[ring]? = some ⟨Ring.powerOfTwo c.buffer, es.toArray, closed⟩
  ends : Ongoing es.dropLast

/-- An open topic has taken some events. -/
structure Keeps (c : Channel) (id : String) (ring : ℕ) (es : List Event) : Prop where
  topic : c.topics.get? id = some ⟨ring, es.find? (·.isTerminal)⟩
  holds : c.Holds ring es false

/-- The ring of an open topic is not that of a discarded one. -/
theorem Keeps.ne_of_closed (h : c.Keeps id ring es) (hk : c.Holds k fs true) : ring ≠ k := by
  rintro rfl
  have := h.holds.ring.symm.trans hk.ring
  simp at this

/-- No other topic has the ring of an open topic. -/
theorem Keeps.ring_ne {topic : Topic} (hc : c.Valid) (h : c.Keeps s k fs)
    (htopic : c.topics.get? id = some topic) (hne : s ≠ id) : topic.ring ≠ k :=
  fun heq => hne (hc.ring_injective s id _ _ h.topic htopic heq.symm)

/-! ### Opening -/

@[simp] theorem openTopic_buffer (c : Channel) (id : String) : (c.openTopic id).buffer = c.buffer := by
  rw [openTopic]
  split <;> rfl

theorem openTopic_of_isOpen (h : c.isOpen id = true) : c.openTopic id = c := by
  rw [openTopic, if_pos h]

theorem openTopic_of_get?_eq_none (h : c.topics.get? id = none) :
    c.openTopic id = { c with
      rings := c.rings.push (Ring.new c.buffer), topics := c.topics.insert id ⟨c.rings.size, none⟩ } := by
  have hopen : c.isOpen id = false := by simp [isOpen, Table.has_eq_isSome, h]
  simp [openTopic, hopen]

theorem get?_openTopic_of_ne (c : Channel) (h : s ≠ id) :
    (c.openTopic id).topics.get? s = c.topics.get? s := by
  rw [openTopic]
  split
  · rfl
  · exact Table.get?_insert_of_ne _ _ h

theorem Holds.openTopic (h : c.Holds k fs closed) (id : String) : (c.openTopic id).Holds k fs closed := by
  rw [Channel.openTopic]
  split
  · exact h
  · refine ⟨?_, h.ends⟩
    obtain ⟨hk, -⟩ := Array.getElem?_eq_some_iff.mp h.ring
    rw [Array.getElem?_push_lt hk, ← Array.getElem?_eq_getElem]
    exact h.ring

theorem Keeps.openTopic (h : c.Keeps s k fs) (id : String) : (c.openTopic id).Keeps s k fs := by
  refine ⟨?_, h.holds.openTopic id⟩
  cases hopen : c.isOpen id with
  | true =>
    rw [openTopic_of_isOpen hopen]
    exact h.topic
  | false =>
    have hne : s ≠ id := by
      rintro rfl
      simp [isOpen, Table.has_eq_isSome, h.topic] at hopen
    rw [get?_openTopic_of_ne c hne, h.topic]

theorem keeps_openTopic (h : c.topics.get? id = none) :
    (c.openTopic id).Keeps id c.rings.size [] := by
  rw [openTopic_of_get?_eq_none h]
  exact ⟨by simp, by simp [Ring.new], ongoing_nil⟩

/-! ### Publishing -/

@[simp] theorem publish_buffer (c : Channel) (id : String) (e : Event) :
    (c.publish id e).2.buffer = c.buffer := by
  rw [Channel.publish]
  split
  · rfl
  · split <;> rfl

theorem get?_publish_of_ne (c : Channel) (h : s ≠ id) (e : Event) :
    (c.publish id e).2.topics.get? s = c.topics.get? s := by
  rw [Channel.publish]
  split
  · rfl
  · split
    · rfl
    · exact Table.get?_insert_of_ne _ _ h

theorem publish_of_refused (h : (c.publish id e).1 = false) : c.publish id e = (false, c) := by
  rw [Channel.publish] at h ⊢
  split
  · rfl
  · split
    · rfl
    · rename_i htopic hterminal
      simp [htopic, hterminal] at h

theorem publish_of_get?_eq_none (h : c.topics.get? id = none) (e : Event) :
    c.publish id e = (false, c) := by
  simp only [Channel.publish, h]

theorem Keeps.publish_eq (h : c.Keeps id ring es) (e : Event) :
    c.publish id e =
      if (es.find? (·.isTerminal)).isSome then (false, c)
      else (true, { c with
        rings := c.rings.modify ring (·.send e)
        topics := c.topics.insert id ⟨ring, if e.isTerminal then some e else none⟩ }) := by
  simp only [Channel.publish, h.topic]

/-- A topic refuses what comes after its terminal event. -/
theorem Keeps.publish_fst (h : c.Keeps id ring es) (e : Event) :
    (c.publish id e).1 = true ↔ Ongoing es := by
  rw [h.publish_eq, ← find?_isTerminal_eq_none]
  cases es.find? (·.isTerminal) <;> simp

theorem Keeps.publish (h : c.Keeps id ring es) (hes : Ongoing es) (e : Event) :
    (c.publish id e).2.Keeps id ring (es ++ [e]) := by
  have hnone := find?_isTerminal_eq_none.mpr hes
  rw [h.publish_eq, hnone]
  refine ⟨?_, ?_, by simpa using hes⟩
  · simp [hnone]
  · simp [Array.getElem?_modify, h.holds.ring, Ring.send]

/-- A topic that takes an event leaves all rings but its own as they are. -/
theorem Keeps.holds_publish (h : c.Keeps id ring es) (hne : ring ≠ k) (hk : c.Holds k fs closed)
    (e : Event) : (c.publish id e).2.Holds k fs closed := by
  rw [h.publish_eq]
  split
  · exact hk
  · exact ⟨by rw [Array.getElem?_modify, if_neg hne, hk.ring], hk.ends⟩

/-- What one topic takes is not kept by another. -/
theorem Keeps.publish_of_ne (hc : c.Valid) (h : c.Keeps s k fs) (hne : s ≠ id) (e : Event) :
    (c.publish id e).2.Keeps s k fs := by
  refine ⟨by rw [get?_publish_of_ne c hne, h.topic], ?_, h.holds.ends⟩
  rw [publish_buffer, Channel.publish]
  split
  · exact h.holds.ring
  · rename_i topic htopic
    split
    · exact h.holds.ring
    · rw [Array.getElem?_modify, if_neg (h.ring_ne hc htopic hne), h.holds.ring]

/-! ### Closing -/

@[simp] theorem close_buffer (c : Channel) (id : String) : (c.close id).buffer = c.buffer := by
  rw [Channel.close]
  split <;> rfl

theorem get?_close (c : Channel) (id s : String) :
    (c.close id).topics.get? s = if s = id then none else c.topics.get? s := by
  rw [Channel.close]
  split
  · rename_i hnone
    by_cases hs : s = id
    · rw [if_pos hs, hs, hnone]
    · rw [if_neg hs]
  · exact Table.get?_erase _ _ _

theorem close_of_get?_eq_none (h : c.topics.get? id = none) : c.close id = c := by
  simp only [Channel.close, h]

theorem Keeps.close_eq (h : c.Keeps id ring es) :
    c.close id = { c with
      rings := c.rings.modify ring fun r => { r with closed := true }
      topics := c.topics.erase id } := by
  simp only [Channel.close, h.topic]

/-- What a discarded topic had taken stays in its ring. -/
theorem Keeps.close (h : c.Keeps id ring es) : (c.close id).Holds ring es true := by
  rw [h.close_eq]
  exact ⟨by simp [Array.getElem?_modify, h.holds.ring], h.holds.ends⟩

/-- Discarding a topic changes no ring but its own. -/
theorem Keeps.holds_close (h : c.Keeps id ring es) (hne : ring ≠ k) (hk : c.Holds k fs closed) :
    (c.close id).Holds k fs closed := by
  rw [h.close_eq]
  exact ⟨by rw [Array.getElem?_modify, if_neg hne, hk.ring], hk.ends⟩

theorem Holds.close_of_closed (h : c.Holds k fs true)
    (hid : ∀ topic, c.topics.get? id = some topic → ∃ es, c.Keeps id topic.ring es) :
    (c.close id).Holds k fs true := by
  cases htopic : c.topics.get? id with
  | none => rwa [close_of_get?_eq_none htopic]
  | some topic =>
    obtain ⟨es, hes⟩ := hid topic htopic
    exact hes.holds_close (hes.ne_of_closed h) h

theorem Keeps.close_of_ne (hc : c.Valid) (h : c.Keeps s k fs) (hne : s ≠ id) :
    (c.close id).Keeps s k fs := by
  refine ⟨by rw [get?_close, if_neg hne, h.topic], ?_, h.holds.ends⟩
  rw [close_buffer, Channel.close]
  split
  · exact h.holds.ring
  · rename_i topic htopic
    rw [Array.getElem?_modify, if_neg (h.ring_ne hc htopic hne), h.holds.ring]

/-! ### Subscribing and receiving -/

theorem Keeps.subscribe_eq (h : c.Keeps id ring es) :
    c.subscribe id = some (match es.find? (·.isTerminal) with
      | some t => .replay t
      | none => .live ring es.length) := by
  rw [subscribe, h.topic]
  simp only [Option.map_some, h.holds.ring]
  cases es.find? (·.isTerminal) <;> rfl

/-- What a request comes to after some events: some are lost and the newest remain, the next one is
delivered, or all events have been passed. -/
theorem Holds.receive_live {passed rest : List Event} (h : c.Holds ring (passed ++ rest) closed) :
    (∃ missed kept, rest = missed ++ kept ∧ missed ≠ [] ∧ kept.length = Ring.powerOfTwo c.buffer ∧
      c.receive (.live ring passed.length) =
        (.event (.gap missed.length), .live ring (passed ++ missed).length)) ∨
    (∃ e kept, rest = e :: kept ∧ c.receive (.live ring passed.length) =
      (.event e, if e.isTerminal then .done else .live ring (passed ++ [e]).length)) ∨
    (rest = [] ∧ c.receive (.live ring passed.length) =
      if closed then (.ended, .done) else (.pending, .live ring passed.length)) := by
  rw [receive, h.ring]
  dsimp only
  rw [Ring.receive_eq rfl]
  dsimp only
  by_cases hlost : Ring.powerOfTwo c.buffer < rest.length
  · refine Or.inl ⟨rest.take (rest.length - Ring.powerOfTwo c.buffer),
      rest.drop (rest.length - Ring.powerOfTwo c.buffer), (List.take_append_drop _ _).symm, ?_, ?_, ?_⟩
    · rw [← List.length_pos_iff, List.length_take]
      omega
    · rw [List.length_drop]
      omega
    · rw [if_pos hlost]
      simp
  · rw [if_neg hlost]
    cases rest with
    | nil => cases closed <;> simp
    | cons e kept => simp

end Channel

end Flowline.Simulation

import Flowline.Simulation.Channel
import Mathlib.Data.Nat.Notation

/-!
# Topics and their rings

What the operations of a channel do to the topics, and what they keep: no two topics share a ring, and
a ring holds no terminal event but that of its topic.
-/

namespace Flowline.Simulation.Channel

variable {c : Channel} {id s : String} {topic : Topic} {e : Event}

/-- The terminal event of a topic, if there is the topic. -/
def terminal? (c : Channel) (id : String) : Option (Option Event) :=
  (c.topics.get? id).map Topic.terminal

/-! ## Topics -/

theorem terminal?_openTopic (h : c.terminal? id = none) (s : String) :
    (c.openTopic id).terminal? s = if s = id then some none else c.terminal? s := by
  have hnone : c.topics.get? id = none := by simpa [terminal?] using h
  have hopen : c.isOpen id = false := by simp [isOpen, Table.has_eq_isSome, hnone]
  simp only [terminal?, openTopic, hopen, Bool.false_eq_true, if_false, Table.get?_insert]
  split
  · rfl
  · rfl

theorem terminal?_close (c : Channel) (id s : String) :
    (c.close id).terminal? s = if s = id then none else c.terminal? s := by
  rw [close]
  split
  · rename_i h
    by_cases hs : s = id
    · simp [terminal?, hs, h]
    · rw [if_neg hs]
  · by_cases hs : s = id
    · simp [terminal?, hs]
    · simp [terminal?, hs]

/-- Before its end a topic takes every event, and a terminal one is its end. -/
theorem terminal?_publish (h : c.terminal? id = some none) (e : Event) (s : String) :
    (c.publish id e).2.terminal? s =
      if s = id then some (if e.isTerminal then some e else none) else c.terminal? s := by
  obtain ⟨topic, htopic, hterminal⟩ := Option.map_eq_some_iff.mp h
  simp only [terminal?, publish, htopic, hterminal, Option.isSome_none, Bool.false_eq_true,
    if_false, Table.get?_insert]
  split
  · rfl
  · rfl

/-! ## Rings -/

/-- No two topics share a ring, and the only terminal event in a ring is that of its topic. -/
structure Valid (c : Channel) : Prop where
  ring_lt : ∀ s topic, c.topics.get? s = some topic → topic.ring < c.rings.size
  ring_injective : ∀ s t a b, c.topics.get? s = some a → c.topics.get? t = some b →
    a.ring = b.ring → s = t
  terminal : ∀ s topic ring, c.topics.get? s = some topic → c.rings[topic.ring]? = some ring →
    ∀ e ∈ ring.sent, e.isTerminal = true → topic.terminal = some e

theorem valid_new (buffer : ℕ) : (new buffer).Valid :=
  ⟨fun _ _ h => by simp [new] at h, fun _ _ _ _ h => by simp [new] at h,
    fun _ _ _ h => by simp [new] at h⟩

theorem Valid.openTopic (hc : c.Valid) (id : String) : (c.openTopic id).Valid := by
  rw [Channel.openTopic]
  split
  · exact hc
  · refine ⟨fun s topic h => ?_, fun s t a b ha hb hring => ?_, fun s topic ring h hring => ?_⟩
    · rw [Array.size_push]
      rcases Table.get?_insert_eq_some.mp h with ⟨-, rfl⟩ | ⟨-, h⟩
      · exact Nat.lt_succ_self _
      · exact Nat.lt_succ_of_lt (hc.ring_lt s topic h)
    · -- the new ring comes after all others
      rcases Table.get?_insert_eq_some.mp ha with ⟨rfl, rfl⟩ | ⟨-, ha⟩
      · rcases Table.get?_insert_eq_some.mp hb with ⟨rfl, -⟩ | ⟨-, hb⟩
        · rfl
        · exact absurd hring (Nat.ne_of_gt (hc.ring_lt t b hb))
      · rcases Table.get?_insert_eq_some.mp hb with ⟨-, rfl⟩ | ⟨-, hb⟩
        · exact absurd hring (Nat.ne_of_lt (hc.ring_lt s a ha))
        · exact hc.ring_injective s t a b ha hb hring
    · rcases Table.get?_insert_eq_some.mp h with ⟨-, rfl⟩ | ⟨-, h⟩
      · obtain rfl : Ring.new c.buffer = ring := by simpa using hring
        simp [Ring.new]
      · rw [Array.getElem?_push_lt (hc.ring_lt s topic h),
          ← Array.getElem?_eq_getElem] at hring
        exact hc.terminal s topic ring h hring

theorem Valid.close (hc : c.Valid) (id : String) : (c.close id).Valid := by
  rw [Channel.close]
  split
  · exact hc
  · rename_i closed hclosed
    have hkept : ∀ s topic, (c.topics.erase id).get? s = some topic →
        c.topics.get? s = some topic ∧ topic.ring ≠ closed.ring := by
      intro s topic h
      obtain ⟨hs, h⟩ := Table.get?_erase_eq_some.mp h
      exact ⟨h, fun hring => hs (hc.ring_injective s id topic closed h hclosed hring)⟩
    refine ⟨fun s topic h => ?_, fun s t a b ha hb => ?_, fun s topic ring h hring => ?_⟩
    · rw [Array.size_modify]
      exact hc.ring_lt s topic (hkept s topic h).1
    · exact hc.ring_injective s t a b (hkept s a ha).1 (hkept t b hb).1
    · obtain ⟨h, hne⟩ := hkept s topic h
      rw [Array.getElem?_modify, if_neg hne.symm] at hring
      exact hc.terminal s topic ring h hring

theorem Valid.publish (hc : c.Valid) (id : String) (e : Event) : (c.publish id e).2.Valid := by
  rw [Channel.publish]
  split
  · exact hc
  · rename_i target htarget
    split
    · exact hc
    · rename_i hlive
      have hold : ∀ s topic, (c.topics.insert id
          { target with terminal := if e.isTerminal then some e else none }).get? s = some topic →
          ∃ before, c.topics.get? s = some before ∧ before.ring = topic.ring := by
        intro s topic h
        rcases Table.get?_insert_eq_some.mp h with ⟨rfl, rfl⟩ | ⟨-, h⟩
        · exact ⟨target, htarget, rfl⟩
        · exact ⟨topic, h, rfl⟩
      refine ⟨fun s topic h => ?_, fun s t a b ha hb hring => ?_, fun s topic ring h hring => ?_⟩
      · obtain ⟨before, hbefore, heq⟩ := hold s topic h
        rw [Array.size_modify, ← heq]
        exact hc.ring_lt s before hbefore
      · obtain ⟨a', ha', heqa⟩ := hold s a ha
        obtain ⟨b', hb', heqb⟩ := hold t b hb
        exact hc.ring_injective s t a' b' ha' hb' (by rw [heqa, heqb, hring])
      · rcases Table.get?_insert_eq_some.mp h with ⟨-, rfl⟩ | ⟨hs, h⟩
        · -- the ring that is sent to: what it held before was not terminal
          rw [Array.getElem?_modify, if_pos rfl] at hring
          obtain ⟨before, hbefore, rfl⟩ := Option.map_eq_some_iff.mp hring
          intro x hx hterminal
          rcases Array.mem_push.mp hx with hx | rfl
          · have := hc.terminal id target before htarget hbefore x hx hterminal
            simp [this] at hlive
          · simp [hterminal]
        · have hne : target.ring ≠ topic.ring := fun heq =>
            hs (hc.ring_injective s id topic target h htarget heq.symm)
          rw [Array.getElem?_modify, if_neg hne] at hring
          exact hc.terminal s topic ring h hring

end Flowline.Simulation.Channel

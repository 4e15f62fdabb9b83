import Flowline.Proofs.Simulation.Rings
import Mathlib.Data.List.ReduceOption

/-!
# What a listener has been told

A listener and the ring of its topic: the ring holds what the topic had taken before the listener
subscribed and what it has taken since, and the listener's place in it divides what it has been told of
from what is to come.  Every operation keeps this, and a request is left without an answer only if there
is no terminal event.
-/

namespace Flowline.Simulation

/-! ## Tellings -/

namespace Tells

variable {lost more : ℕ} {items told body : List Event} {t : Event}

theorem mono (h : Tells lost items told) (hle : lost ≤ more) : Tells more items told := by
  induction h with
  | nil => exact .nil
  | event e _ ih => exact .event e ih
  | gap _ hmissed hongoing hlost ih => exact .gap ih hmissed hongoing (Nat.le_trans hlost hle)

theorem length_le (h : Tells lost items told) : items.length ≤ told.length := by
  induction h with
  | nil => exact Nat.le_refl 0
  | event e _ ih => simpa using ih
  | gap _ hmissed _ _ ih =>
    have := List.length_pos_iff.mpr hmissed
    simp only [List.length_append, List.length_singleton]
    omega

theorem ongoing (h : Tells lost items told) (htold : Ongoing told) : Ongoing items := by
  induction h with
  | nil => exact ongoing_nil
  | event e _ ih =>
    obtain ⟨htold, he⟩ := ongoing_append.mp htold
    exact ongoing_append.mpr ⟨ih htold, he⟩
  | gap _ _ _ _ ih =>
    exact ongoing_append.mpr ⟨ih (ongoing_append.mp htold).1, ongoing_singleton.mpr rfl⟩

/-- No gap stands for a terminal event, which is told as the last item therefore. -/
theorem concat_terminal (h : Tells lost items (body ++ [t])) (ht : t.isTerminal = true) :
    ∃ items', items = items' ++ [t] ∧ Tells lost items' body := by
  generalize htold : body ++ [t] = told at h
  cases h with
  | nil => simp at htold
  | @event items' told' e h =>
    obtain ⟨rfl, he⟩ := List.append_inj' htold rfl
    obtain rfl := List.singleton_inj.mp he
    exact ⟨items', rfl, h⟩
  | @gap items' told' missed h hmissed hongoing hlost =>
    have hlast := congrArg List.getLast? htold
    rw [List.getLast?_concat, List.getLast?_append_of_ne_nil _ hmissed] at hlast
    exact absurd ht (hongoing.not_terminal (List.mem_of_getLast? hlast.symm))

/-- A terminal item is no gap, and tells of itself. -/
theorem of_concat_terminal (h : Tells lost (items ++ [t]) told) (ht : t.isTerminal = true) :
    ∃ told', told = told' ++ [t] ∧ Tells lost items told' := by
  generalize hitems : items ++ [t] = all at h
  cases h with
  | nil => simp at hitems
  | @event items' told' e h =>
    obtain ⟨rfl, he⟩ := List.append_inj' hitems rfl
    obtain rfl := List.singleton_inj.mp he
    exact ⟨told', rfl, h⟩
  | gap h _ _ _ =>
    obtain ⟨-, hgap⟩ := List.append_inj' hitems rfl
    obtain rfl := List.singleton_inj.mp hgap
    cases ht

end Tells

/-! ## Listeners and their rings -/

namespace Listener

variable {c c' : Channel} {l l' : Listener} {ring kept : ℕ} {id : String} {e t : Event}

/-- The ring that holds what a listener's topic has taken, or had taken until it was discarded. -/
inductive Source (c : Channel) (l : Listener) (ring : ℕ) : Prop
  | topic (h : l.attached = true) (hkeeps : c.Keeps l.session ring l.events)
  | discarded (h : l.attached = false) (hholds : c.Holds ring l.events true)

theorem Source.holds (h : l.Source c ring) : c.Holds ring l.events (!l.attached) := by
  cases h with
  | topic h hkeeps =>
    rw [h]
    exact hkeeps.holds
  | discarded h hholds =>
    rw [h]
    exact hholds

/-- A listener has been told of the first events published for it, none of them terminal. -/
structure Live (kept : ℕ) (l : Listener) (items told rest : List Event) : Prop where
  before : Ongoing l.before
  split : l.published = told ++ rest
  ongoing : Ongoing told
  answers : l.answers = items.map some
  tells : Tells (l.published.length - kept) items told

/-- How far a listener with some subscription has come. -/
inductive Stands (kept : ℕ) (l : Listener) : Subscription → Prop
  | live {items told rest : List Event} (ring : ℕ) (h : l.Live kept items told rest) :
      Stands kept l (.live ring (l.before ++ told).length)
  | replay {t : Event} (hmem : t ∈ l.before) (ht : t.isTerminal = true) (hanswers : l.answers = []) :
      Stands kept l (.replay t)
  /-- It has been told of everything. -/
  | done {items : List Event} {n : ℕ} (hbefore : Ongoing l.before)
      (hanswers : l.answers = items.map some ++ List.replicate n none)
      (htells : Tells (l.published.length - kept) items l.published)
      (hend : (∃ t ∈ l.published, t.isTerminal = true) ∨ l.attached = false) : Stands kept l .done
  | late {t : Event} {n : ℕ} (hmem : t ∈ l.before) (ht : t.isTerminal = true)
      (hanswers : l.answers = some t :: List.replicate n none) : Stands kept l .done

/-- A listener reads from the ring of its topic, and has come so far. -/
structure Sound (kept : ℕ) (c : Channel) (l : Listener) : Prop where
  source : ∃ ring, l.Source c ring ∧ ∀ k next, l.subscription = .live k next → k = ring
  stands : l.Stands kept l.subscription

theorem Sound.of_source (h : l.Sound kept c) (hsource : ∀ ring, l.Source c ring → l.Source c' ring) :
    l.Sound kept c' := by
  obtain ⟨ring, hring, hlive⟩ := h.source
  exact ⟨⟨ring, hsource ring hring, hlive⟩, h.stands⟩

theorem Sound.ends (h : l.Sound kept c) : Ongoing l.events.dropLast := by
  obtain ⟨ring, hring, -⟩ := h.source
  exact hring.holds.ends

/-! ### Subscribing -/

theorem Source.openTopic (h : l.Source c ring) (id : String) : l.Source (c.openTopic id) ring := by
  cases h with
  | topic h hkeeps => exact .topic h (hkeeps.openTopic id)
  | discarded h hholds => exact .discarded h (hholds.openTopic id)

/-- Whoever subscribes has everything to come, or the terminal event. -/
theorem sound_subscribe {s : Subscription} {es : List Event} (h : c.Keeps id ring es)
    (hs : c.subscribe id = some s) (kept : ℕ) : (Listener.mk id es [] true s []).Sound kept c := by
  have hkeeps : c.Keeps id ring (es ++ []) := by rwa [List.append_nil]
  rw [h.subscribe_eq] at hs
  obtain rfl := Option.some.inj hs
  cases hterminal : es.find? (·.isTerminal) with
  | some t =>
    have hmem := List.mem_of_find?_eq_some hterminal
    have ht : t.isTerminal = true := List.find?_some hterminal
    exact ⟨⟨ring, .topic rfl hkeeps, nofun⟩, .replay hmem ht rfl⟩
  | none =>
    have hlive : (Listener.mk id es [] true (.live ring es.length) []).Live kept [] [] [] :=
      ⟨find?_isTerminal_eq_none.mp hterminal, rfl, ongoing_nil, rfl, .nil⟩
    refine ⟨⟨ring, .topic rfl hkeeps, fun k next hk => (Subscription.live.inj hk).1.symm⟩, ?_⟩
    have hstands := Stands.live ring hlive
    rwa [List.append_nil] at hstands

/-! ### Publishing -/

/-- What is published for a listener is still to come. -/
theorem Stands.notice {s : Subscription} (h : l.Stands kept s) (hongoing : Ongoing l.events)
    (hattached : l.attached = true) (e : Event) :
    { l with published := l.published ++ [e] }.Stands kept s := by
  have hlost : l.published.length - kept ≤ (l.published ++ [e]).length - kept := by
    rw [List.length_append]
    omega
  cases h with
  | @live items told rest ring h =>
    have hsplit : l.published ++ [e] = told ++ (rest ++ [e]) := by rw [h.split, List.append_assoc]
    exact .live ring ⟨h.before, hsplit, h.ongoing, h.answers, h.tells.mono hlost⟩
  | replay hmem ht hanswers => exact .replay hmem ht hanswers
  | done _ _ _ hend =>
    -- nothing is published for a listener that has come to its end
    rcases hend with ⟨t, ht, hterminal⟩ | hdetached
    · exact absurd hterminal (hongoing.not_terminal (List.mem_append_right _ ht))
    · rw [hattached] at hdetached
      cases hdetached
  | late hmem ht hanswers => exact .late hmem ht hanswers

theorem Sound.notice {es : List Event} (h : l.Sound kept c) (hc : c.Valid) (hid : c.Keeps id ring es)
    (haccepted : (c.publish id e).1 = true) : (l.notice id e).Sound kept (c.publish id e).2 := by
  obtain ⟨k, hsource, hlive⟩ := h.source
  rw [Listener.notice]
  cases hsource with
  | topic hattached hkeeps =>
    split
    · rename_i hhears
      obtain ⟨rfl, -⟩ := hhears
      have hongoing : Ongoing l.events := (hkeeps.publish_fst e).mp haccepted
      have hpublish := hkeeps.publish hongoing e
      rw [events, List.append_assoc] at hpublish
      exact ⟨⟨k, .topic hattached hpublish, hlive⟩, h.stands.notice hongoing hattached e⟩
    · rename_i hdeaf
      have hne : l.session ≠ id := fun heq => hdeaf ⟨heq, hattached⟩
      exact ⟨⟨k, .topic hattached (hkeeps.publish_of_ne hc hne e), hlive⟩, h.stands⟩
  | discarded hdetached hholds =>
    rw [if_neg (fun hhears => by simp [hdetached] at hhears)]
    have hne := hid.ne_of_closed hholds
    exact ⟨⟨k, .discarded hdetached (hid.holds_publish hne hholds e), hlive⟩, h.stands⟩

/-! ### Closing -/

theorem Stands.detach {s : Subscription} (h : l.Stands kept s) :
    { l with attached := false }.Stands kept s := by
  cases h with
  | live ring h => exact .live ring ⟨h.before, h.split, h.ongoing, h.answers, h.tells⟩
  | replay hmem ht hanswers => exact .replay hmem ht hanswers
  | done hbefore hanswers htells _ => exact .done hbefore hanswers htells (Or.inr rfl)
  | late hmem ht hanswers => exact .late hmem ht hanswers

theorem Sound.detach (h : l.Sound kept c) (hc : c.Valid)
    (hid : ∀ topic, c.topics.get? id = some topic → ∃ es, c.Keeps id topic.ring es) :
    (l.detach id).Sound kept (c.close id) := by
  obtain ⟨k, hsource, hlive⟩ := h.source
  rw [Listener.detach]
  cases hsource with
  | topic hattached hkeeps =>
    split
    · rename_i heq
      rw [heq] at hkeeps
      exact ⟨⟨k, .discarded rfl hkeeps.close, hlive⟩, h.stands.detach⟩
    · rename_i hne
      exact ⟨⟨k, .topic hattached (hkeeps.close_of_ne hc hne), hlive⟩, h.stands⟩
  | discarded hdetached hholds =>
    have hclose := hholds.close_of_closed hid
    split
    · exact ⟨⟨k, .discarded rfl hclose, hlive⟩, h.stands.detach⟩
    · exact ⟨⟨k, .discarded hdetached hclose, hlive⟩, h.stands⟩

/-! ### Receiving -/

section Receive

variable {s : Subscription}

theorem receive_of_event (h : c.receive l.subscription = (.event e, s)) :
    l.receive c = { l with subscription := s, answers := l.answers ++ [some e] } := by
  rw [Listener.receive, h]

theorem receive_of_pending (h : c.receive l.subscription = (.pending, l.subscription)) :
    l.receive c = l := by
  rw [Listener.receive, h]

theorem receive_of_ended (h : c.receive l.subscription = (.ended, s)) :
    l.receive c = { l with subscription := s, answers := l.answers ++ [none] } := by
  rw [Listener.receive, h]

/-- A request changes the subscription and the answers only. -/
theorem exists_receive_eq (c : Channel) (l : Listener) :
    ∃ s answers, l.receive c = { l with subscription := s, answers } := by
  rw [Listener.receive]
  split
  · exact ⟨_, _, rfl⟩
  · exact ⟨_, _, rfl⟩
  · exact ⟨_, _, rfl⟩

theorem Source.receive (h : l.Source c ring) : (l.receive c).Source c ring := by
  obtain ⟨s, answers, heq⟩ := exists_receive_eq c l
  rw [heq]
  cases h with
  | topic h hkeeps => exact .topic h hkeeps
  | discarded h hholds => exact .discarded h hholds

namespace Live

variable {items told rest missed left : List Event}

theorem events_eq (h : l.Live kept items told rest) : l.events = l.before ++ told ++ rest := by
  rw [events, h.split, List.append_assoc]

/-- Events are lost that the ring keeps no longer. -/
theorem gap (h : l.Live kept items told (missed ++ left)) (hmissed : missed ≠ [])
    (hongoing : Ongoing missed) (hleft : left.length = kept) :
    { l with subscription := s, answers := l.answers ++ [some (Event.gap missed.length)] }.Live kept
      (items ++ [Event.gap missed.length]) (told ++ missed) left where
  before := h.before
  split := by rw [h.split, List.append_assoc]
  ongoing := ongoing_append.mpr ⟨h.ongoing, hongoing⟩
  answers := by simp [h.answers]
  tells := by
    refine h.tells.gap hmissed hongoing ?_
    simp only [h.split, ← hleft, List.length_append]
    omega

theorem event (h : l.Live kept items told (e :: left)) (he : e.isTerminal = false) :
    { l with subscription := s, answers := l.answers ++ [some e] }.Live kept
      (items ++ [e]) (told ++ [e]) left where
  before := h.before
  split := by rw [h.split, List.append_cons]
  ongoing := ongoing_append.mpr ⟨h.ongoing, ongoing_singleton.mpr he⟩
  answers := by simp [h.answers]
  tells := h.tells.event e

theorem last (h : l.Live kept items told [t]) (ht : t.isTerminal = true) :
    { l with subscription := s, answers := l.answers ++ [some t] }.Stands kept .done := by
  have hmem : t ∈ l.published := by simp [h.split]
  have hanswers : l.answers ++ [some t] = (items ++ [t]).map some ++ List.replicate 0 none := by
    simp [h.answers]
  have htells := h.tells.event t
  rw [← h.split] at htells
  exact .done h.before hanswers htells (Or.inl ⟨t, hmem, ht⟩)

theorem ended (h : l.Live kept items told []) (hdetached : l.attached = false) :
    { l with subscription := s, answers := l.answers ++ [none] }.Stands kept .done := by
  have hanswers : l.answers ++ [none] = items.map some ++ List.replicate 1 none := by
    rw [h.answers, List.replicate_one]
  have htells := h.tells
  rw [← List.append_nil told, ← h.split] at htells
  exact .done h.before hanswers htells (Or.inr hdetached)

/-- A request of a live listener: some events are lost, the next one is delivered, or there is none. -/
theorem receive (h : l.Live kept items told rest) (hsource : l.Source c ring)
    (hs : l.subscription = .live ring (l.before ++ told).length)
    (hkept : Ring.powerOfTwo c.buffer = kept) : (l.receive c).Sound kept c := by
  have hholds := hsource.holds
  have hnext := hsource.receive
  rw [h.events_eq] at hholds
  have hends := hholds.ends
  rcases hholds.receive_live with ⟨missed, left, rfl, hmissed, hleft, heq⟩ | ⟨e, left, rfl, heq⟩ |
    ⟨rfl, heq⟩
  · -- what is left in the ring has the terminal event, if there is one
    have hne : left ≠ [] := by
      rw [← List.length_pos_iff, hleft]
      exact Ring.powerOfTwo_pos _
    rw [← List.append_assoc] at hends
    have hongoing := (ongoing_append.mp (ongoing_of_dropLast_append hends hne)).2
    rw [receive_of_event (hs ▸ heq)] at hnext ⊢
    refine ⟨⟨ring, hnext, fun k next hk => (Subscription.live.inj hk).1.symm⟩, ?_⟩
    rw [List.append_assoc]
    exact .live ring (h.gap hmissed hongoing (hleft.trans hkept))
  · rw [receive_of_event (hs ▸ heq)] at hnext ⊢
    cases he : e.isTerminal with
    | true =>
      rw [he] at hnext
      -- nothing follows the terminal event
      have hlast : left = [] := by
        by_contra hne
        rw [List.append_cons] at hends
        have hongoing := (ongoing_append.mp (ongoing_of_dropLast_append hends hne)).2
        exact hongoing.not_terminal (List.mem_singleton_self e) he
      subst hlast
      exact ⟨⟨ring, hnext, nofun⟩, h.last he⟩
    | false =>
      rw [he] at hnext
      refine ⟨⟨ring, hnext, fun k next hk => (Subscription.live.inj hk).1.symm⟩, ?_⟩
      rw [List.append_assoc]
      exact .live ring (h.event he)
  · cases hattached : l.attached with
    | true =>
      rw [hattached] at heq
      rw [receive_of_pending (hs ▸ heq)]
      refine ⟨⟨ring, hsource, fun k next hk => ?_⟩, hs ▸ .live ring h⟩
      exact (Subscription.live.inj (hs.symm.trans hk)).1.symm
    | false =>
      rw [hattached] at heq
      rw [receive_of_ended (hs ▸ heq)] at hnext ⊢
      exact ⟨⟨ring, hnext, nofun⟩, h.ended hattached⟩

end Live

/-- A request brings a listener further in its ring, or to its end. -/
theorem Sound.receive (h : l.Sound kept c) (hkept : Ring.powerOfTwo c.buffer = kept) :
    (l.receive c).Sound kept c := by
  obtain ⟨ring, hsource, hlive⟩ := h.source
  have hnext := hsource.receive
  have hstands := h.stands
  generalize hs : l.subscription = s at hstands hlive
  cases hstands with
  | live k hlistens =>
    obtain rfl := hlive k _ rfl
    exact hlistens.receive hsource hs hkept
  | @replay t hmem ht hanswers =>
    rw [receive_of_event (by rw [hs]; rfl : c.receive l.subscription = (.event t, .done))] at hnext ⊢
    exact ⟨⟨ring, hnext, nofun⟩, .late hmem ht (n := 0) (by simp [hanswers])⟩
  | @done items n hbefore hanswers htells hend =>
    rw [receive_of_ended (by rw [hs]; rfl : c.receive l.subscription = (.ended, .done))] at hnext ⊢
    have hanswers' : l.answers ++ [none] = items.map some ++ List.replicate (n + 1) none := by
      rw [hanswers, List.append_assoc, ← List.replicate_succ']
    exact ⟨⟨ring, hnext, nofun⟩, .done hbefore hanswers' htells hend⟩
  | @late t n hmem ht hanswers =>
    rw [receive_of_ended (by rw [hs]; rfl : c.receive l.subscription = (.ended, .done))] at hnext ⊢
    have hanswers' : l.answers ++ [none] = some t :: List.replicate (n + 1) none := by
      rw [hanswers, List.cons_append, ← List.replicate_succ']
    exact ⟨⟨ring, hnext, nofun⟩, .late hmem ht hanswers'⟩

/-- Once there is a terminal event no request has to wait. -/
theorem Sound.not_pending (h : l.Sound kept c) (hmem : t ∈ l.events) (ht : t.isTerminal = true) :
    (c.receive l.subscription).1 ≠ .pending := by
  obtain ⟨ring, hsource, hlive⟩ := h.source
  have hstands := h.stands
  generalize l.subscription = s at hstands hlive
  cases hstands with
  | live k h =>
    obtain rfl := hlive k _ rfl
    have hholds := hsource.holds
    rw [h.events_eq] at hholds hmem
    rcases hholds.receive_live with ⟨_, _, -, -, -, heq⟩ | ⟨_, _, -, heq⟩ | ⟨rfl, -⟩
    · rw [heq]
      nofun
    · rw [heq]
      nofun
    · rw [List.append_nil] at hmem
      exact absurd ht ((ongoing_append.mpr ⟨h.before, h.ongoing⟩).not_terminal hmem)
  | replay => nofun
  | done => nofun
  | late => nofun

theorem exists_answers_receive (h : (c.receive l.subscription).1 ≠ .pending) :
    ∃ a, (l.receive c).answers = l.answers ++ [a] := by
  rw [Listener.receive]
  split
  · exact ⟨_, rfl⟩
  · rename_i hpending
    simp [hpending] at h
  · exact ⟨none, rfl⟩

theorem Sound.answered (h : l.Sound kept c) (hmem : t ∈ l.events) (ht : t.isTerminal = true) :
    l.Answered 1 (l.receive c) := by
  obtain ⟨a, ha⟩ := exists_answers_receive (h.not_pending hmem ht)
  obtain ⟨s, answers, heq⟩ := exists_receive_eq c l
  rw [heq] at ha ⊢
  exact ⟨rfl, rfl, rfl, [a], ha, rfl⟩

end Receive

/-! ### Requests and their answers -/

namespace Answered

variable {l'' : Listener} {m n : ℕ}

theorem refl (l : Listener) : l.Answered 0 l := ⟨rfl, rfl, rfl, [], (List.append_nil _).symm, rfl⟩

theorem trans (h : l.Answered m l') (h' : l'.Answered n l'') : l.Answered (m + n) l'' := by
  obtain ⟨more, hmore, hm⟩ := h.answers
  obtain ⟨more', hmore', hn⟩ := h'.answers
  refine ⟨h'.session.trans h.session, h'.before.trans h.before, h'.published.trans h.published,
    more ++ more', ?_, ?_⟩
  · rw [hmore', hmore, List.append_assoc]
  · rw [List.length_append, hm, hn]

theorem events_eq (h : l.Answered n l') : l'.events = l.events := by
  rw [events, events, h.before, h.published]

theorem detach (l : Listener) (id : String) : l.Answered 0 (l.detach id) := by
  rw [Listener.detach]
  split
  · exact ⟨rfl, rfl, rfl, [], (List.append_nil _).symm, rfl⟩
  · exact refl l

end Answered

/-- Nothing is published for a listener once there is a terminal event. -/
theorem Sound.notice_eq (h : l.Sound kept c) (hmem : t ∈ l.events) (ht : t.isTerminal = true)
    (haccepted : (c.publish id e).1 = true) : l.notice id e = l := by
  obtain ⟨ring, hsource, -⟩ := h.source
  rw [Listener.notice]
  split
  · rename_i hhears
    obtain ⟨rfl, hattached⟩ := hhears
    cases hsource with
    | topic _ hkeeps =>
      exact absurd ht (((hkeeps.publish_fst e).mp haccepted).not_terminal hmem)
    | discarded hdetached _ =>
      rw [hattached] at hdetached
      cases hdetached
  · rfl

/-! ### What the answers tell -/

theorem Sound.faithful (h : l.Sound kept c) (hbefore : Ongoing l.before) : l.Faithful kept := by
  have hends : Ongoing l.published.dropLast := by
    intro x hx
    have hne : l.published ≠ [] := by
      rintro hnil
      simp [hnil] at hx
    have hends := h.ends
    rw [events, List.dropLast_append_of_ne_nil hne] at hends
    exact hends x (List.mem_append_right _ hx)
  refine ⟨hends, ?_⟩
  have hstands := h.stands
  generalize l.subscription = s at hstands
  cases hstands with
  | @live items told rest ring h =>
    exact ⟨items, told, rest, 0, h.split, h.tells, by simp [h.answers], fun hn => absurd rfl hn⟩
  | replay hmem ht _ => exact absurd ht (hbefore.not_terminal hmem)
  | @done items n _ hanswers htells hend =>
    exact ⟨items, l.published, [], n, (List.append_nil _).symm, htells, hanswers, fun _ => ⟨rfl, hend⟩⟩
  | late hmem ht _ => exact absurd ht (hbefore.not_terminal hmem)

theorem Sound.late (h : l.Sound kept c) (hmem : t ∈ l.before) (ht : t.isTerminal = true) :
    l.answers = [] ∨ ∃ n, l.answers = some t :: List.replicate n none := by
  have hsame : ∀ u ∈ l.before, u.isTerminal = true → u = t := by
    intro u humem hu
    have hlast := eq_concat_of_terminal h.ends (List.mem_append_left _ humem) hu
    have hlast' := eq_concat_of_terminal h.ends (List.mem_append_left _ hmem) ht
    have hconcat := List.append_inj_right (hlast.symm.trans hlast') rfl
    exact List.singleton_inj.mp hconcat
  have hstands := h.stands
  generalize l.subscription = s at hstands
  cases hstands with
  | live ring h => exact absurd ht (h.before.not_terminal hmem)
  | replay _ _ hanswers => exact Or.inl hanswers
  | done hbefore _ _ _ => exact absurd ht (hbefore.not_terminal hmem)
  | @late u n humem hu hanswers =>
    rw [hsame u humem hu] at hanswers
    exact Or.inr ⟨n, hanswers⟩

/-- Within as many requests as events were published, the terminal event has been delivered. -/
theorem Faithful.terminal (h : l.Faithful kept) (hmem : t ∈ l.published) (ht : t.isTerminal = true)
    (hrequests : l.published.length ≤ l.answers.length) :
    ∃ items n, l.answers = (items ++ [t]).map some ++ List.replicate n none ∧ Ongoing items := by
  obtain ⟨items, told, rest, n, hsplit, htells, hanswers, hn⟩ := h.told
  have hrest : rest = [] := by
    rcases Nat.eq_zero_or_pos n with rfl | hpos
    · -- every event but the missed ones takes one request
      have hle := htells.length_le
      rw [hsplit, hanswers] at hrequests
      simp only [List.length_append, List.length_map, List.length_replicate] at hrequests
      exact List.eq_nil_of_length_eq_zero (by omega)
    · exact (hn (Nat.ne_of_gt hpos)).1
  rw [hrest, List.append_nil] at hsplit
  rw [← hsplit, eq_concat_of_terminal h.ends hmem ht] at htells
  obtain ⟨items', heq, hbody⟩ := htells.concat_terminal ht
  rw [heq] at hanswers
  exact ⟨items', n, hanswers, hbody.ongoing h.ends⟩

/-! ### What a listener has heard -/

/-- The events among the answers. -/
def heard (l : Listener) : List Event := l.answers.reduceOption

/-- Who subscribed before the end has heard of the first events published since then. -/
theorem Sound.hears (h : l.Sound kept c) (hbefore : Ongoing l.before) :
    ∃ told rest, l.published = told ++ rest ∧ Tells (l.published.length - kept) l.heard told ∧
      (none ∈ l.answers → rest = [] ∧ ((∃ t ∈ l.published, t.isTerminal = true) ∨ l.attached = false)) := by
  obtain ⟨items, told, rest, n, hsplit, htells, hanswers, hn⟩ := (h.faithful hbefore).told
  have hheard : l.heard = items := by simp [heard, hanswers, List.reduceOption]
  refine ⟨told, rest, hsplit, hheard ▸ htells, fun hnone => hn ?_⟩
  rintro rfl
  simp [hanswers] at hnone

/-- Who subscribed after the end has heard of nothing else. -/
theorem Sound.hears_late (h : l.Sound kept c) (hbefore : ¬ Ongoing l.before) :
    ∃ t ∈ l.before, t.isTerminal = true ∧ l.published = [] ∧ (l.answers = [] ∨ l.heard = [t]) := by
  obtain ⟨t, hmem, ht⟩ : ∃ t ∈ l.before, t.isTerminal = true := by simpa [Ongoing] using hbefore
  refine ⟨t, hmem, ht, ?_, ?_⟩
  · by_contra hne
    exact hbefore (ongoing_of_dropLast_append h.ends hne)
  · rcases h.late hmem ht with hnil | ⟨n, hlate⟩
    · exact Or.inl hnil
    · exact Or.inr (by simp [heard, hlate, List.reduceOption])

/-- No more is heard than was published, but for the end that a late listener is told of. -/
theorem Sound.length_heard_le (h : l.Sound kept c) (hheard : Ongoing l.heard) :
    l.heard.length ≤ l.published.length := by
  by_cases hbefore : Ongoing l.before
  · obtain ⟨told, rest, hsplit, htells, -⟩ := h.hears hbefore
    have hlength := htells.length_le
    rw [hsplit, List.length_append]
    omega
  · obtain ⟨t, -, ht, -, hnil | hlate⟩ := h.hears_late hbefore
    · simp [heard, hnil]
    · rw [hlate, ongoing_singleton, ht] at hheard
      cases hheard

/-- A listener that has heard the end has heard of all that was published since it subscribed, or
subscribed after the end. -/
theorem Sound.concluded {items : List Event} (h : l.Sound kept c) (hheard : l.heard = items ++ [t])
    (ht : t.isTerminal = true) :
    (∃ since, l.published = since ++ [t] ∧ Ongoing l.before ∧
      Tells (l.published.length - kept) items since) ∨
    (t ∈ l.before ∧ l.published = [] ∧ items = []) := by
  by_cases hbefore : Ongoing l.before
  · obtain ⟨told, rest, hsplit, htells, -⟩ := h.hears hbefore
    rw [hheard] at htells
    obtain ⟨since, rfl, hsince⟩ := htells.of_concat_terminal ht
    -- nothing follows the terminal event
    have hrest : rest = [] := by
      by_contra hne
      have hends := (h.faithful hbefore).ends
      rw [hsplit] at hends
      have hmem : t ∈ since ++ [t] := List.mem_append_right _ (List.mem_singleton_self t)
      exact (ongoing_of_dropLast_append hends hne).not_terminal hmem ht
    rw [hrest, List.append_nil] at hsplit
    exact Or.inl ⟨since, hsplit, hbefore, hsince⟩
  · obtain ⟨u, hmem, -, hpublished, hnil | hlate⟩ := h.hears_late hbefore
    · simp [heard, hnil] at hheard
    · rw [hlate, ← List.nil_append [u]] at hheard
      obtain ⟨rfl, hut⟩ := List.append_inj' hheard rfl
      obtain rfl := List.singleton_inj.mp hut
      exact Or.inr ⟨hmem, hpublished, rfl⟩

/-- Where topics are discarded after their terminal events only, a listener hears that event before it comes
to its end. -/
theorem Sound.exists_terminal (h : l.Sound kept c) (hnone : none ∈ l.answers)
    (hdetached : l.attached = false → ∃ t ∈ l.events, t.isTerminal = true) :
    ∃ t ∈ l.heard, t.isTerminal = true := by
  by_cases hbefore : Ongoing l.before
  · obtain ⟨told, rest, hsplit, htells, hall⟩ := h.hears hbefore
    obtain ⟨rfl, hend⟩ := hall hnone
    obtain ⟨t, hmem, ht⟩ : ∃ t ∈ l.published, t.isTerminal = true := by
      rcases hend with hend | hdeaf
      · exact hend
      · obtain ⟨t, hmem, ht⟩ := hdetached hdeaf
        have hlater := (List.mem_append.mp hmem).resolve_left fun hmem => hbefore.not_terminal hmem ht
        exact ⟨t, hlater, ht⟩
    have hlast := eq_concat_of_terminal (h.faithful hbefore).ends hmem ht
    rw [← List.append_nil told, ← hsplit, hlast] at htells
    obtain ⟨items, heq, -⟩ := htells.concat_terminal ht
    exact ⟨t, heq ▸ List.mem_append_right _ (List.mem_singleton_self t), ht⟩
  · obtain ⟨t, -, ht, -, hnil | hlate⟩ := h.hears_late hbefore
    · rw [hnil] at hnone
      cases hnone
    · exact ⟨t, hlate ▸ List.mem_singleton_self t, ht⟩

theorem Sound.not_ended (h : l.Sound kept c) (hkept : Ring.powerOfTwo c.buffer = kept)
    (hheard : Ongoing l.heard) (hdetached : l.attached = false → ∃ t ∈ l.events, t.isTerminal = true) :
    (c.receive l.subscription).1 ≠ .ended := by
  intro hended
  have hnext := h.receive hkept
  rw [receive_of_ended (Prod.ext hended rfl)] at hnext
  obtain ⟨t, hmem, ht⟩ := hnext.exists_terminal (by simp) hdetached
  have hmem' : t ∈ l.heard := by simpa [heard, List.reduceOption] using hmem
  exact hheard.not_terminal hmem' ht

end Listener

end Flowline.Simulation

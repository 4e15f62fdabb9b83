import Flowline.Simulation.Channel
import Mathlib.Data.Nat.Notation
import Mathlib.Order.Bounds.Defs

/-!
# A channel among its subscribers

A channel as those see it who publish and those who listen: the operations come in any order, over any
sessions, and every subscription remembers which events its topic took before it was made and after, and
how its requests were answered.  `Fanout.Delivers` says what the answers tell of those events.
-/

namespace Flowline.Simulation

/-! ## What is told of a stream -/

/-- None of some events is terminal. -/
def Ongoing (es : List Event) : Prop := ∀ e ∈ es, e.isTerminal = false

/-- Some items tell of a stream of events: each is the next event, or a gap that stands for as many of
the next events as it counts, none of them terminal and all among the first `lost` ones. -/
inductive Tells (lost : ℕ) : List Event → List Event → Prop
  | nil : Tells lost [] []
  | event {items told : List Event} (e : Event) (h : Tells lost items told) :
      Tells lost (items ++ [e]) (told ++ [e])
  | gap {items told missed : List Event} (h : Tells lost items told) (hmissed : missed ≠ [])
      (hongoing : Ongoing missed) (hlost : (told ++ missed).length ≤ lost) :
      Tells lost (items ++ [.gap missed.length]) (told ++ missed)

/-! ## Listeners -/

/-- A subscription with what was published for it and what it got. -/
structure Listener where
  session : String
  /-- The events that its topic had taken when the subscription was made. -/
  before : List Event
  /-- The events that its topic has taken since. -/
  published : List Event
  /-- Its topic has not been closed. -/
  attached : Bool
  subscription : Subscription
  /-- The answers to its requests; the end of the subscription is answered with nothing. -/
  answers : List (Option Event)

namespace Listener

/-- All events that the listener's topic has taken. -/
def events (l : Listener) : List Event := l.before ++ l.published

/-- A topic takes an event. -/
def notice (id : String) (e : Event) (l : Listener) : Listener :=
  if l.session = id ∧ l.attached = true then { l with published := l.published ++ [e] } else l

/-- A topic is closed. -/
def detach (id : String) (l : Listener) : Listener :=
  if l.session = id then { l with attached := false } else l

/-- The listener asks for the next event.  A request that has to wait has no answer. -/
def receive (c : Channel) (l : Listener) : Listener :=
  match c.receive l.subscription with
  | (.event e, s) => { l with subscription := s, answers := l.answers ++ [some e] }
  | (.pending, s) => { l with subscription := s }
  | (.ended, s) => { l with subscription := s, answers := l.answers ++ [none] }

/-- The listener has been told of the first events published since it subscribed, in their order, and
none of the `kept` newest events is missing; it comes to an end only after all of them, with the terminal
event or when its topic has been closed. -/
structure Faithful (kept : ℕ) (l : Listener) : Prop where
  ends : Ongoing l.published.dropLast
  told : ∃ items told rest n, l.published = told ++ rest ∧
    Tells (l.published.length - kept) items told ∧
    l.answers = items.map some ++ List.replicate n none ∧
    (n ≠ 0 → rest = [] ∧ ((∃ t ∈ l.published, t.isTerminal = true) ∨ l.attached = false))

/-- The listener some requests later: each was answered, and nothing was published for it meanwhile. -/
structure Answered (requests : ℕ) (l l' : Listener) : Prop where
  session : l'.session = l.session
  before : l'.before = l.before
  published : l'.published = l.published
  answers : ∃ more, l'.answers = l.answers ++ more ∧ more.length = requests

end Listener

/-! ## Interleavings -/

/-- A channel with the events that its topics have taken, and all subscriptions that were ever made. -/
structure Fanout where
  channel : Channel
  /-- The events that each open topic has taken. -/
  log : Table (List Event)
  listeners : List Listener

/-- One operation of a publisher or of a listener; listeners go by the order of their subscriptions. -/
inductive Op
  | openTopic (id : String)
  | publish (id : String) (e : Event)
  | subscribe (id : String)
  | receive (listener : ℕ)
  | close (id : String)
  deriving DecidableEq

namespace Fanout

def new (buffer : ℕ) : Fanout := ⟨Channel.new buffer, [], []⟩

variable (w : Fanout)

def apply : Op → Fanout
  | .openTopic id => { w with
      channel := w.channel.openTopic id
      log := if w.log.has id then w.log else w.log.insert id [] }
  | .publish id e =>
    match w.channel.publish id e with
    | (false, channel) => { w with channel }
    | (true, channel) => {
        channel
        log := w.log.insert id ((w.log.get? id).getD [] ++ [e])
        listeners := w.listeners.map (·.notice id e) }
  | .subscribe id =>
    match w.channel.subscribe id with
    | none => w
    | some s => { w with
        listeners := w.listeners ++ [⟨id, (w.log.get? id).getD [], [], true, s, []⟩] }
  | .receive i => { w with listeners := w.listeners.modify i (·.receive w.channel) }
  | .close id => {
      channel := w.channel.close id
      log := w.log.erase id
      listeners := w.listeners.map (·.detach id) }

/-- Operations one after the other. -/
def run (ops : List Op) : Fanout := ops.foldl apply w

/-- What a channel promises that is made for subscribers that fall behind by no more than `buffer`
events. -/
structure Delivers (buffer kept : ℕ) : Prop where
  /-- As many events are kept as the least power of two that reaches the buffer. -/
  capacity : IsLeast {n | max buffer 1 ≤ n ∧ n.isPowerOfTwo} kept
  /-- A topic takes events up to the first terminal one. -/
  accepts : ∀ id e, (w.channel.publish id e).1 = true ↔
    ∃ es, w.log.get? id = some es ∧ Ongoing es
  subscribes : ∀ id, (w.channel.subscribe id).isSome = w.log.has id
  /-- Whoever subscribes before the end of a topic is told of what is published from then on. -/
  faithful : ∀ l ∈ w.listeners, Ongoing l.before → l.Faithful kept
  /-- Whoever subscribes after it gets the terminal event, once and alone. -/
  late : ∀ l ∈ w.listeners, ∀ t ∈ l.before, t.isTerminal = true →
    l.answers = [] ∨ ∃ n, l.answers = some t :: List.replicate n none
  /-- Once a topic has its terminal event every request of its listeners is answered, whatever else
  goes on; those who subscribed before get the event within as many requests as events were published
  for them, and nothing but their end after it. -/
  ending : ∀ i l t, w.listeners[i]? = some l → t ∈ l.events → t.isTerminal = true → ∀ ops,
    ∃ l', (w.run ops).listeners[i]? = some l' ∧ l.Answered (ops.count (.receive i)) l' ∧
      (t ∈ l.published → l.published.length ≤ ops.count (.receive i) →
        ∃ items n, l'.answers = (items ++ [t]).map some ++ List.replicate n none ∧ Ongoing items)

end Fanout

end Flowline.Simulation

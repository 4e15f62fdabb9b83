import Flowline.Simulation.Event
import Flowline.Ordered

/-!
# Log channels

Every session has a topic with a ring that keeps the newest events.  Publishing never waits: a
subscriber that falls behind by more than the ring holds gets one gap with the number of events that it
lost, and goes on with the oldest event still kept.  The terminal event stays with the topic, so that
late subscribers learn the outcome.
-/

namespace Flowline.Simulation

/-! ## Rings -/

structure Ring where
  /-- How many events are kept. -/
  capacity : Nat
  /-- All events sent so far, of which the last ones are kept. -/
  sent : Array Event
  /-- No further event will be sent. -/
  closed : Bool

/-- What a receiver finds in a ring. -/
inductive Received
  | event (e : Event)
  | lagged (missed : Nat)
  | empty
  | closed

namespace Ring

/-- The least power of two that reaches `n`, among `p`, `2 p`, … `2 ^ fuel p`. -/
def powerFrom (n : Nat) : Nat → Nat → Nat
  | 0, p => p
  | fuel + 1, p => if n ≤ p then p else powerFrom n fuel (2 * p)

/-- The least power of two that reaches `n`. -/
def powerOfTwo (n : Nat) : Nat := powerFrom n n 1

/-- An empty ring for at least `n` events, that is for the least power of two that reaches `n`.  A ring of a
64-bit machine takes from one event to `2 ^ 63 - 1`; for any other number there is none, and asking for it
ends the task that asks. -/
def new (n : Nat) : Ring := ⟨powerOfTwo n, #[], false⟩

def send (r : Ring) (e : Event) : Ring := { r with sent := r.sent.push e }

/-- The position of the oldest event kept. -/
def oldest (r : Ring) : Nat := r.sent.size - r.capacity

/-- What a receiver finds whose next event has position `next`, and its next position after that. -/
def receive (r : Ring) (next : Nat) : Received × Nat :=
  if next < r.oldest then (.lagged (r.oldest - next), r.oldest)
  else match r.sent[next]? with
    | some e => (.event e, next + 1)
    | none => (if r.closed then .closed else .empty, next)

end Ring

/-! ## Topics and subscriptions -/

structure Topic where
  /-- The number of the topic's ring. -/
  ring : Nat
  terminal : Option Event

/-- The topics of all sessions. -/
structure Channel where
  /-- How many events a subscriber may fall behind. -/
  buffer : Nat
  /-- The rings of all topics that ever were; subscribers may still read from those of closed ones. -/
  rings : Array Ring
  topics : Table Topic

/-- A subscriber's place. -/
inductive Subscription
  | live (ring next : Nat)
  /-- Has only the terminal event to come. -/
  | replay (terminal : Event)
  | done

/-- What a subscriber gets. -/
inductive Delivery
  | event (e : Event)
  | pending
  | ended

namespace Channel

def new (buffer : Nat) : Channel := ⟨max buffer 1, #[], []⟩

variable (c : Channel)

def isOpen (id : String) : Bool := c.topics.has id

/-- Makes a topic, unless there is one.  Its ring is for as many events as the channel's buffer says, which
is at least one; see `Ring.new` for what is too large. -/
def openTopic (id : String) : Channel :=
  if c.isOpen id then c
  else { c with
    rings := c.rings.push (Ring.new c.buffer)
    topics := c.topics.insert id ⟨c.rings.size, none⟩ }

/-- Sends an event to the subscribers of a topic; refused without a topic and after the terminal
event. -/
def publish (id : String) (e : Event) : Bool × Channel :=
  match c.topics.get? id with
  | none => (false, c)
  | some topic =>
    if topic.terminal.isSome then (false, c)
    else
      let terminal := if e.isTerminal then some e else none
      (true, { c with
        rings := c.rings.modify topic.ring (·.send e)
        topics := c.topics.insert id { topic with terminal } })

/-- A subscription from now on; after the terminal event, to that event alone. -/
def subscribe (id : String) : Option Subscription :=
  (c.topics.get? id).map fun topic =>
    match topic.terminal with
    | some e => .replay e
    | none => .live topic.ring ((c.rings[topic.ring]?.map (·.sent.size)).getD 0)

/-- Discards a topic.  Its subscribers get what the ring holds, then their end. -/
def close (id : String) : Channel :=
  match c.topics.get? id with
  | none => c
  | some topic => { c with
      rings := c.rings.modify topic.ring fun r => { r with closed := true }
      topics := c.topics.erase id }

/-- The next event of a subscription. -/
def receive (s : Subscription) : Delivery × Subscription :=
  match s with
  | .done => (.ended, .done)
  | .replay e => (.event e, .done)
  | .live ring next =>
    match c.rings[ring]? with
    | none => (.ended, .done)
    | some r =>
      match r.receive next with
      | (.event e, next) => (.event e, if e.isTerminal then .done else .live ring next)
      | (.lagged missed, next) => (.event (.gap missed), .live ring next)
      | (.empty, _) => (.pending, s)
      | (.closed, _) => (.ended, .done)

/-- Everything that is there for a subscription, at most `fuel` events; whether it has ended, and what
is left of it. -/
def drain : Nat → Subscription → List Event × Bool × Subscription
  | 0, s => ([], false, s)
  | fuel + 1, s =>
    match c.receive s with
    | (.ended, s) => ([], true, s)
    | (.pending, s) => ([], false, s)
    | (.event e, s) =>
      let (events, ended, s) := drain fuel s
      (e :: events, ended, s)

/-- More than the events that a subscription can still get. -/
def backlog : Subscription → Nat
  | .live ring _ => ((c.rings[ring]?.map (·.sent.size)).getD 0) + 3
  | _ => 3

end Channel

end Flowline.Simulation

import CookieConsent.Page.Node

/-!
# The queue of events

What happens on a page waits in a queue of bounded length until it is dealt with, in order.
-/

namespace CookieConsent.Session

/-- What happens on a page. -/
inductive Event where
  /-- The document can be changed from now on. -/
  | ready
  /-- A control of the banner was activated. -/
  | click (action : Action)
  /-- The page goes away. -/
  | unload
deriving DecidableEq, Repr

/-- The events that wait, and how many can. -/
structure Queue where
  capacity : Nat
  events : List Event
  capacity_pos : 0 < capacity
deriving DecidableEq, Repr

namespace Queue

/-- An empty queue, if there is room for an event in it. Any capacity from one event on is taken:
the bound that a queue in memory has from above, far beyond what a page could fill, is left out. -/
def ofCapacity? (capacity : Nat) : Option Queue :=
  if h : 0 < capacity then some ⟨capacity, [], h⟩ else none

/-- The queue with one more event at its end, if there is room for it. -/
def push? (queue : Queue) (event : Event) : Option Queue :=
  if queue.events.length < queue.capacity then
    some { queue with events := queue.events ++ [event] }
  else none

end Queue

end CookieConsent.Session

import WormholeMap.Event.Decode
import WormholeMap.EventStream.Connection

/-!
Subscriptions: the events of a map as they arrive. Frames that are no events are left out. A sync
error is delivered and ends the subscription.
-/

namespace WormholeMap

open EventStream

/-- What a subscription delivers: news of its connection, events with the cursor after them, that
the backend has ended it, and that nothing will come any more though the connection stays open. -/
inductive Delivery where
  | connected
  | interrupted (fault : Fault)
  | event (cursor : Option Cursor) (event : Event)
  | closed
  | silence

/-- A subscription to the events of a map, with the cursor after the last event delivered. -/
structure Subscription where
  connection : Connection
  cursor : Option Cursor
  ended : Bool

namespace Subscription

/-- Subscribes, from a cursor. -/
def start (client : Client) (map : MapId) (resume : Option Cursor) : Subscription :=
  ⟨.start client map resume, resume, false⟩

def close (s : Subscription) : Subscription := { s with ended := true }

/-- The event that a frame is, with its cursor. -/
def accept (f : Frame) : Option (Option Cursor × Event) :=
  match Event.decode f.event f.data with
  | .ok e => some (f.id, e)
  | .error _ => none

def deliver (s : Subscription) : Signal (Option Cursor × Event) → Delivery × Subscription
  | .opened => (.connected, s)
  | .failed fault => (.interrupted fault, s)
  | .closed => (.closed, s.close)
  | .silent => (.silence, s)
  | .arrived (id, e) => (.event id e, { s with cursor := id <|> s.cursor, ended := e.endsStream })

/-- The next delivery, unless the subscription has ended. -/
def next (s : Subscription) : Run σ (Option Delivery × Subscription) := do
  if s.ended then return (none, s)
  else
    let (signal, connection) ← s.connection.next accept
    let (delivery, s) := { s with connection }.deliver signal
    return (some delivery, s)

end Subscription

end WormholeMap

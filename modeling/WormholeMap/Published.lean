/-!
Values that are published to subscribers.
-/

namespace WormholeMap

/-- A value and how often it has been published. A subscriber is notified of each publication. -/
structure Published (α : Type) where
  value : α
  count : Nat

namespace Published

/-- A value that no subscriber has been notified of yet. -/
def initial (a : α) : Published α := ⟨a, 0⟩

def publish (p : Published α) (a : α) : Published α := ⟨a, p.count + 1⟩

/-- Publishes a new value, if there is one. -/
def publish? (p : Published α) : Option α → Published α
  | some a => p.publish a
  | none => p

end Published

end WormholeMap

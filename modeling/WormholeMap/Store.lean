import WormholeMap.Graph
import WormholeMap.Published

/-!
The store: the graph of the open map as it is published to those who draw it. Every publication is
one revision further.
-/

namespace WormholeMap

abbrev Store := Published Graph

namespace Store

def empty : Store := .initial .empty

def load (s : Store) (detail : MapDetail) : Store :=
  s.publish (.ofDetail detail (s.value.revision + 1))

def clear (s : Store) : Store := s.publish { Graph.empty with revision := s.value.revision + 1 }

/-- Publishes what a write leads to, if it changes anything. -/
def modify (s : Store) (write : Graph → Option Graph) : Store :=
  s.publish? ((write s.value).map fun g => { g with revision := s.value.revision + 1 })

end Store

end WormholeMap

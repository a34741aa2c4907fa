import WormholeMap.Uuid

/-!
The identities of maps, nodes and links: three types, so that one cannot stand for another.
-/

namespace WormholeMap

open Json

/-- The identity of a map. -/
structure MapId where
  uuid : Uuid
  deriving DecidableEq

/-- The identity of a node within its map. -/
structure NodeId where
  uuid : Uuid
  deriving DecidableEq

/-- The identity of a link within its map. -/
structure LinkId where
  uuid : Uuid
  deriving DecidableEq

instance : ToString MapId := ⟨fun id => id.uuid.toText⟩
instance : ToString NodeId := ⟨fun id => id.uuid.toText⟩
instance : ToString LinkId := ⟨fun id => id.uuid.toText⟩

variable {δ : Type} [Document δ]

def MapId.read (d : δ) : Option MapId := (Uuid.read d).map MapId.mk
def NodeId.read (d : δ) : Option NodeId := (Uuid.read d).map NodeId.mk
def LinkId.read (d : δ) : Option LinkId := (Uuid.read d).map LinkId.mk

def MapId.toJson (id : MapId) : Json := id.uuid.toJson
def NodeId.toJson (id : NodeId) : Json := id.uuid.toJson
def LinkId.toJson (id : LinkId) : Json := id.uuid.toJson

/-- The cursor that a stream of events is resumed from: the id of the last event seen. Only the
backend gives it a meaning. -/
abbrev Cursor := String

end WormholeMap

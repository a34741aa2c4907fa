import WormholeMap.Map.Id
import WormholeMap.Published

/-!
The session: which map is open, whether it can be edited, and which node is selected. The map, its
read-only flag and the selection change together, so that no subscriber sees a node of the previous
map beside the new one.
-/

namespace WormholeMap

/-- The state of a session. A node is selected only while no other one is. The refresh counters move
when signatures or notes may have changed, and wrap at 64 bits. -/
structure SessionState where
  mapId : Option MapId
  readOnly : Bool
  selected : Option NodeId
  signatureRefresh : UInt64
  noteRefresh : UInt64
  deriving DecidableEq

def SessionState.initial : SessionState := ⟨none, false, none, 0, 0⟩

abbrev Session := Published SessionState

namespace Session

def empty : Session := .initial .initial

/-- Selects a single node; any other number of nodes selects none. -/
def select (s : Session) (nodes : List NodeId) : Session :=
  let selected := match nodes with
    | [only] => some only
    | _ => none
  if s.value.selected = selected then s else s.publish { s.value with selected }

/-- Opens another map, or none. -/
def switchMap (s : Session) (mapId : Option MapId) (readOnly : Bool) : Session :=
  s.publish { s.value with mapId, readOnly, selected := none }

/-- Opens a map that has been loaded. If it was open before, the selection stays while its node is
present, and both counters move, since anything may have been missed. -/
def reloadMap (s : Session) (mapId : MapId) (readOnly : Bool) (present : NodeId → Bool) : Session :=
  if s.value.mapId = some mapId then
    s.publish { s.value with
      readOnly
      selected := s.value.selected.filter present
      signatureRefresh := s.value.signatureRefresh + 1
      noteRefresh := s.value.noteRefresh + 1 }
  else s.publish { s.value with mapId := some mapId, readOnly, selected := none }

def bumpSignatures (s : Session) : Session :=
  s.publish { s.value with signatureRefresh := s.value.signatureRefresh + 1 }

def bumpNotes (s : Session) : Session :=
  s.publish { s.value with noteRefresh := s.value.noteRefresh + 1 }

/-- Clears the selection if it is a given node. -/
def deselect (s : Session) (node : NodeId) : Session :=
  if s.value.selected = some node then s.publish { s.value with selected := none } else s

end Session

end WormholeMap

import WormholeMap.Map.Info
import WormholeMap.Map.Record

/-!
The events that a backend streams about an open map.
-/

namespace WormholeMap

/-- What happened to signatures or notes. -/
inductive RecordChange where
  | created
  | updated
  | deleted
  | bulk
  deriving DecidableEq

/-- What happened to the presence of a character at a node. -/
inductive PresenceChange where
  | arrived
  | left
  | updated
  deriving DecidableEq

/-- Whose access to the map changed. -/
inductive AccessSubject where
  | character
  | corporation
  | alliance
  deriving DecidableEq

/-- An event about the open map. Signatures and notes are not carried along: an event only says that
they changed. -/
inductive Event where
  | nodeCreated (node : Node)
  | nodeUpdated (node : Node)
  | nodeDeleted (id : NodeId)
  | linkCreated (link : Link)
  | linkUpdated (link : Link)
  | linkDeleted (id : LinkId)
  | mapUpdated (map : MapInfo)
  | mapDeleted
  | signaturesChanged (change : RecordChange)
  | notesChanged (change : RecordChange)
  | presence (node : NodeId) (change : PresenceChange) (occupant : Occupant)
  | accessGranted (subject : AccessSubject)
  | accessRevoked (subject : AccessSubject)
  | syncError (message : Option String)

namespace Event

/-- The family of names that an event goes by. -/
def kind : Event → String
  | nodeCreated _ => "node_created"
  | nodeUpdated _ => "node_updated"
  | nodeDeleted _ => "node_deleted"
  | linkCreated _ => "link_created"
  | linkUpdated _ => "link_updated"
  | linkDeleted _ => "link_deleted"
  | mapUpdated _ => "map_updated"
  | mapDeleted => "map_deleted"
  | signaturesChanged _ => "signature_*"
  | notesChanged _ => "note_*"
  | presence .. => "character_*"
  | accessGranted _ => "access_*_granted"
  | accessRevoked _ => "access_*_revoked"
  | syncError _ => "sync_error"

/-- Whether a stream ends with the event: after a sync error the backend no longer vouches for what
the viewer sees. -/
def endsStream : Event → Bool
  | syncError _ => true
  | _ => false

end Event

end WormholeMap

import WormholeMap.Event.Basic
import WormholeMap.Text.Blank

/-!
Decoding events. A frame of the stream has a name and a text. The text is the payload of the event,
or an envelope with the payload under `data` and the name of the event under `event_type`; the
envelope names the event when the frame does not. A sync error is decoded whatever its text is,
since it must always reach the viewer.
-/

namespace WormholeMap

open Json

def unnamedFrame : String := "message"

/-- Why a payload cannot be read: its text is not JSON, or is JSON of another shape. -/
inductive PayloadFault where
  | notJson
  | wrongShape
  deriving DecidableEq

/-- Why a frame is not an event. -/
inductive DecodeError where
  | unknownEvent (name : String)
  | malformed (name : String) (fault : PayloadFault)
  deriving DecidableEq

/-- What a known event name says about the event: it, when it has no payload to read, or how to read
it. -/
inductive EventForm where
  | plain (event : Event)
  | payload (read : Json → Option Event)

namespace Event

/-- Reads the reference of a deletion, under `id` or the name that the kind of entity gives it. -/
def readReference (name : String) (read : Json → Option α) (payload : Json) : Option α := do
  required read "id" (← readRecord [["id", name]] payload)

/-- Reads the metadata of a map, under `changes` or bare. -/
def readMapChanges (payload : Json) : Option MapInfo :=
  (get? "changes" payload >>= MapInfo.read) <|> MapInfo.read payload

/-- The names that a nested character goes by. -/
def characterNames : List String := ["character", "character_data"]

/-- Reads who is present where: a node, and a character nested under one of its names or inline with
all other members of the object. A character that is null counts as none. -/
def readPresence (change : PresenceChange) : Json → Option Event
  | .object members => do
    let fields ← readRecord [["node_id"], characterNames] (Json.object members)
    let node ← required NodeId.read "node_id" fields
    let nested ← optional Occupant.read "character" fields
    let inline := members.filter fun m => m.1 ≠ "node_id" ∧ m.1 ∉ characterNames
    let occupant ← nested <|> Occupant.read (Json.object inline)
    return .presence node change occupant
  | _ => none

/-- The form of the event with a name; sync errors are no part of it. -/
def form? : String → Option EventForm
  | "node_created" => some (.payload fun p => (Node.read p).map .nodeCreated)
  | "node_updated" => some (.payload fun p => (Node.read p).map .nodeUpdated)
  | "node_deleted" => some (.payload fun p => (readReference "node_id" NodeId.read p).map
      .nodeDeleted)
  | "link_created" => some (.payload fun p => (Link.read p).map .linkCreated)
  | "link_updated" => some (.payload fun p => (Link.read p).map .linkUpdated)
  | "link_deleted" => some (.payload fun p => (readReference "link_id" LinkId.read p).map
      .linkDeleted)
  | "map_updated" => some (.payload fun p => (readMapChanges p).map .mapUpdated)
  | "map_deleted" => some (.plain .mapDeleted)
  | "signature_created" => some (.plain (.signaturesChanged .created))
  | "signature_updated" => some (.plain (.signaturesChanged .updated))
  | "signature_deleted" => some (.plain (.signaturesChanged .deleted))
  | "signatures_bulk_updated" => some (.plain (.signaturesChanged .bulk))
  | "note_created" => some (.plain (.notesChanged .created))
  | "note_updated" => some (.plain (.notesChanged .updated))
  | "note_deleted" => some (.plain (.notesChanged .deleted))
  | "character_arrived" => some (.payload (readPresence .arrived))
  | "character_left" => some (.payload (readPresence .left))
  | "character_updated" => some (.payload (readPresence .updated))
  | "access_character_granted" => some (.plain (.accessGranted .character))
  | "access_corporation_granted" => some (.plain (.accessGranted .corporation))
  | "access_alliance_granted" => some (.plain (.accessGranted .alliance))
  | "access_character_revoked" => some (.plain (.accessRevoked .character))
  | "access_corporation_revoked" => some (.plain (.accessRevoked .corporation))
  | "access_alliance_revoked" => some (.plain (.accessRevoked .alliance))
  | _ => none

/-- The name that an event is decoded under. -/
def resolveName (name : String) (parsed : Option Json) : String :=
  if name = "" ∨ name = unnamedFrame then
    ((parsed >>= get? "event_type") >>= text?).getD name
  else name

/-- The payload of an envelope, or the value itself when it is none. -/
def unwrapEnvelope (value : Json) : Json :=
  match get? "event_type" value, get? "data" value with
  | some _, some payload => payload
  | _, _ => value

/-- The message of a sync error: the first text under `message` or `detail`, unless it is blank. -/
def syncErrorMessage (value : Json) : Option String :=
  let inner := (get? "data" value).getD value
  ((get? "message" inner >>= text?) <|> (get? "detail" inner >>= text?)) >>= nonBlank?

/-- Decodes a frame whose text has been parsed, if it could be. -/
def decodeParsed (name : String) (parsed : Option Json) : Except DecodeError Event :=
  let name := resolveName name parsed
  if name = "sync_error" then .ok (.syncError (parsed >>= syncErrorMessage))
  else
    match parsed with
    | none => .error (.malformed name .notJson)
    | some value =>
      match form? name with
      | none => .error (.unknownEvent name)
      | some (.plain event) => .ok event
      | some (.payload read) =>
        match read (unwrapEnvelope value) with
        | some event => .ok event
        | none => .error (.malformed name .wrongShape)

def decode (name data : String) : Except DecodeError Event :=
  decodeParsed name (parseText? data)

end Event

def DecodeError.message : DecodeError → String
  | .unknownEvent name => "unknown event: '" ++ name ++ "'"
  | .malformed name _ => "malformed '" ++ name ++ "' payload"

end WormholeMap

import WormholeMap.Map.Id

/-!
Records kept beside a map: the signatures scanned at a node, and the notes about a system.
-/

namespace WormholeMap

open Json

/-- A cosmic signature or anomaly scanned at a node. -/
structure Signature where
  id : Uuid
  nodeId : NodeId
  code : String
  groupType : String
  subgroup : Option String
  siteType : Option String
  linkId : Option LinkId
  wormholeId : Option Int64
  deriving DecidableEq

/-- A note about a solar system within a map. -/
structure Note where
  id : Uuid
  systemId : Int64
  title : Option String
  content : String
  expires : Option String
  deriving DecidableEq

variable {δ : Type} [Document δ]

def Signature.fields : List (List String) :=
  [["id"], ["node_id"], ["code"], ["group_type"], ["subgroup"], ["type"], ["link_id"],
    ["wormhole_id"]]

def Signature.read (d : δ) : Option Signature := do
  let fields ← readRecord Signature.fields d
  return {
    id := ← required Uuid.read "id" fields
    nodeId := ← required NodeId.read "node_id" fields
    code := ← required readString "code" fields
    groupType := ← required readString "group_type" fields
    subgroup := ← optional readString "subgroup" fields
    siteType := ← optional readString "type" fields
    linkId := ← optional LinkId.read "link_id" fields
    wormholeId := ← optional readInt "wormhole_id" fields }

def Signature.toJson (s : Signature) : Json :=
  .object [
    ("id", s.id.toJson),
    ("node_id", s.nodeId.toJson),
    ("code", .string s.code),
    ("group_type", .string s.groupType),
    ("subgroup", option .string s.subgroup),
    ("type", option .string s.siteType),
    ("link_id", option LinkId.toJson s.linkId),
    ("wormhole_id", option int s.wormholeId)]

def Note.fields : List (List String) :=
  [["id"], ["solar_system_id"], ["title"], ["content"], ["date_expires"]]

def Note.read (d : δ) : Option Note := do
  let fields ← readRecord Note.fields d
  return {
    id := ← required Uuid.read "id" fields
    systemId := ← required readInt "solar_system_id" fields
    title := ← optional readString "title" fields
    content := ← required readString "content" fields
    expires := ← optional readString "date_expires" fields }

def Note.toJson (n : Note) : Json :=
  .object [
    ("id", n.id.toJson),
    ("solar_system_id", int n.systemId),
    ("title", option .string n.title),
    ("content", .string n.content),
    ("date_expires", option .string n.expires)]

end WormholeMap

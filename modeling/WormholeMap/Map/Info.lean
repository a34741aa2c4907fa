import WormholeMap.Map.Link
import WormholeMap.Map.Node

/-!
Maps: what one viewer knows about a map, the settings it is displayed with, and a map in full.
-/

namespace WormholeMap

open Json

/-- What one viewer knows about a map. Whether the viewer may edit it is the backend's word to that
viewer. -/
structure MapInfo where
  id : MapId
  ownerId : Uuid
  name : String
  description : Option String
  isPublic : Bool
  publicReadOnly : Bool
  lineStyle : LineStyle
  direction : RankDirection
  autoLayout : Bool
  nodeSep : Option Float
  rankSep : Option Float
  editAccess : Bool
  created : Option String
  updated : Option String
  deriving BEq

/-- The settings that a map is displayed with. -/
structure Display where
  lineStyle : LineStyle
  direction : RankDirection
  nodeSep : Float
  rankSep : Float
  autoLayout : Bool
  deriving BEq

def Display.standard : Display := ⟨.default, .tb, 50.0, 100.0, false⟩

/-- The settings that a map asks for, the standard gaps where it asks for none. -/
def MapInfo.display (m : MapInfo) : Display where
  lineStyle := m.lineStyle
  direction := m.direction
  nodeSep := m.nodeSep.getD Display.standard.nodeSep
  rankSep := m.rankSep.getD Display.standard.rankSep
  autoLayout := m.autoLayout

/-- A map in full. -/
structure MapDetail where
  map : MapInfo
  nodes : List Node
  links : List Link
  deriving BEq

variable {δ : Type} [Document δ]

def MapInfo.fields : List (List String) :=
  [["id"], ["owner_id"], ["name"], ["description"], ["is_public"], ["public_read_only"],
    ["edge_type"], ["rankdir"], ["auto_layout"], ["node_sep"], ["rank_sep"], ["edit_access"],
    ["date_created"], ["date_updated"]]

def MapInfo.read (d : δ) : Option MapInfo := do
  let fields ← readRecord MapInfo.fields d
  return {
    id := ← required MapId.read "id" fields
    ownerId := ← required Uuid.read "owner_id" fields
    name := ← required readString "name" fields
    description := ← optional readString "description" fields
    isPublic := ← defaulted false readBool "is_public" fields
    publicReadOnly := ← defaulted false readBool "public_read_only" fields
    lineStyle := ← defaulted .default LineStyle.read "edge_type" fields
    direction := ← defaulted .tb RankDirection.read "rankdir" fields
    autoLayout := ← defaulted false readBool "auto_layout" fields
    nodeSep := ← optional readFloat "node_sep" fields
    rankSep := ← optional readFloat "rank_sep" fields
    editAccess := ← defaulted false readBool "edit_access" fields
    created := ← optional readString "date_created" fields
    updated := ← optional readString "date_updated" fields }

def MapInfo.toJson (m : MapInfo) : Json :=
  .object [
    ("id", m.id.toJson),
    ("owner_id", m.ownerId.toJson),
    ("name", .string m.name),
    ("description", option .string m.description),
    ("is_public", .bool m.isPublic),
    ("public_read_only", .bool m.publicReadOnly),
    ("edge_type", m.lineStyle.toJson),
    ("rankdir", m.direction.toJson),
    ("auto_layout", .bool m.autoLayout),
    ("node_sep", option float m.nodeSep),
    ("rank_sep", option float m.rankSep),
    ("edit_access", .bool m.editAccess),
    ("date_created", option .string m.created),
    ("date_updated", option .string m.updated)]

def MapDetail.fields : List (List String) := [["map"], ["nodes"], ["links"]]

def MapDetail.read (d : δ) : Option MapDetail := do
  let fields ← readRecord MapDetail.fields d
  return {
    map := ← required MapInfo.read "map" fields
    nodes := ← defaulted [] (readList Node.read) "nodes" fields
    links := ← defaulted [] (readList Link.read) "links" fields }

def MapDetail.toJson (d : MapDetail) : Json :=
  .object [
    ("map", d.map.toJson),
    ("nodes", list Node.toJson d.nodes),
    ("links", list Link.toJson d.links)]

end WormholeMap

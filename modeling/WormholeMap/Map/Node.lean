import WormholeMap.Map.Amounts
import WormholeMap.Map.Geometry
import WormholeMap.Map.Id

/-!
Nodes: markers on a map, each bound to a solar system, with the characters seen there.
-/

namespace WormholeMap

open Json

/-- A character seen in the system of a node, where its name identifies it. -/
structure Occupant where
  name : String
  corporation : Option String
  alliance : Option String
  shipType : Option String
  online : Option Bool
  docked : Option Bool
  deriving DecidableEq

/-- A marker on a map. What follows the lock describes its system. -/
structure Node where
  id : NodeId
  systemId : Int64
  x : Float
  y : Float
  locked : Bool
  systemName : Option String
  constellationId : Option Int64
  constellationName : Option String
  regionId : Option Int64
  regionName : Option String
  securityStatus : Option Float
  securityClass : Option String
  className : Option String
  effectName : Option String
  effectBuffs : Option Amounts
  effectDebuffs : Option Amounts
  staticCodes : List String
  staticTargetClasses : List String
  occupants : List Occupant
  deriving BEq

/-- A node of which nothing but its system and its place is known. -/
def Node.bare (id : NodeId) (systemId : Int64) (position : Position) : Node where
  id := id
  systemId := systemId
  x := position.x
  y := position.y
  locked := false
  systemName := none
  constellationId := none
  constellationName := none
  regionId := none
  regionName := none
  securityStatus := none
  securityClass := none
  className := none
  effectName := none
  effectBuffs := none
  effectDebuffs := none
  staticCodes := []
  staticTargetClasses := []
  occupants := []

def Node.position (n : Node) : Position := ⟨n.x, n.y⟩

variable {δ : Type} [Document δ]

def Occupant.fields : List (List String) :=
  [["character_name"], ["corporation_name"], ["alliance_name"], ["ship_type_name"], ["online"],
    ["docked"]]

def Occupant.read (d : δ) : Option Occupant := do
  let fields ← readRecord Occupant.fields d
  return {
    name := ← required readString "character_name" fields
    corporation := ← optional readString "corporation_name" fields
    alliance := ← optional readString "alliance_name" fields
    shipType := ← optional readString "ship_type_name" fields
    online := ← optional readBool "online" fields
    docked := ← optional readBool "docked" fields }

def Occupant.toJson (o : Occupant) : Json :=
  .object [
    ("character_name", .string o.name),
    ("corporation_name", option .string o.corporation),
    ("alliance_name", option .string o.alliance),
    ("ship_type_name", option .string o.shipType),
    ("online", option .bool o.online),
    ("docked", option .bool o.docked)]

def Node.fields : List (List String) :=
  [["id"], ["system_id"], ["pos_x"], ["pos_y"], ["locked"], ["system_name"], ["constellation_id"],
    ["constellation_name"], ["region_id"], ["region_name"], ["security_status"],
    ["security_class"], ["class_name"], ["wh_effect_name"], ["wh_effect_buffs"],
    ["wh_effect_debuffs"], ["static_codes"], ["static_target_classes"], ["characters"]]

def Node.read (d : δ) : Option Node := do
  let fields ← readRecord Node.fields d
  return {
    id := ← required NodeId.read "id" fields
    systemId := ← required readInt "system_id" fields
    x := ← required readFloat "pos_x" fields
    y := ← required readFloat "pos_y" fields
    locked := ← defaulted false readBool "locked" fields
    systemName := ← optional readString "system_name" fields
    constellationId := ← optional readInt "constellation_id" fields
    constellationName := ← optional readString "constellation_name" fields
    regionId := ← optional readInt "region_id" fields
    regionName := ← optional readString "region_name" fields
    securityStatus := ← optional readFloat "security_status" fields
    securityClass := ← optional readString "security_class" fields
    className := ← optional readString "class_name" fields
    effectName := ← optional readString "wh_effect_name" fields
    effectBuffs := ← optional Amounts.read "wh_effect_buffs" fields
    effectDebuffs := ← optional Amounts.read "wh_effect_debuffs" fields
    staticCodes := ← defaulted [] (readList readString) "static_codes" fields
    staticTargetClasses := ← defaulted [] (readList readString) "static_target_classes" fields
    occupants := ← defaulted [] (readList Occupant.read) "characters" fields }

def Node.toJson (n : Node) : Json :=
  .object [
    ("id", n.id.toJson),
    ("system_id", int n.systemId),
    ("pos_x", float n.x),
    ("pos_y", float n.y),
    ("locked", .bool n.locked),
    ("system_name", option .string n.systemName),
    ("constellation_id", option int n.constellationId),
    ("constellation_name", option .string n.constellationName),
    ("region_id", option int n.regionId),
    ("region_name", option .string n.regionName),
    ("security_status", option float n.securityStatus),
    ("security_class", option .string n.securityClass),
    ("class_name", option .string n.className),
    ("wh_effect_name", option .string n.effectName),
    ("wh_effect_buffs", option Amounts.toJson n.effectBuffs),
    ("wh_effect_debuffs", option Amounts.toJson n.effectDebuffs),
    ("static_codes", list .string n.staticCodes),
    ("static_target_classes", list .string n.staticTargetClasses),
    ("characters", list Occupant.toJson n.occupants)]

end WormholeMap

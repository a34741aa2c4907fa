import WormholeMap.Map.Id
import WormholeMap.Map.Status

/-!
Links: directed connections between two nodes. The source side carries the type of the wormhole, the
target side is always the return signature.
-/

namespace WormholeMap

open Json

/-- A connection from one node to another. -/
structure Link where
  id : LinkId
  source : NodeId
  target : NodeId
  wormholeCode : Option String
  massTotal : Option Int64
  massJumpMax : Option Int64
  massRegen : Option Int64
  wormholeLifetime : Option Float
  lifetime : Lifetime
  lifetimeUpdated : Option String
  mass : MassUsage
  massUpdated : Option String
  deriving BEq

namespace Link

/-- A new connection of which nothing but its ends is known. -/
def between (id : LinkId) (source target : NodeId) : Link where
  id := id
  source := source
  target := target
  wormholeCode := none
  massTotal := none
  massJumpMax := none
  massRegen := none
  wormholeLifetime := none
  lifetime := .stable
  lifetimeUpdated := none
  mass := .stable
  massUpdated := none

/-- The label of the source end: the type of the wormhole, or a question mark before it is known. -/
def sourceLabel (l : Link) : String :=
  match l.wormholeCode with
  | some code => if code = "" then "?" else code
  | none => "?"

def targetLabel (_ : Link) : String := "K162"

def touches (l : Link) (node : NodeId) : Bool := l.source == node || l.target == node

def fields : List (List String) :=
  [["id"], ["source_node_id"], ["target_node_id"], ["wormhole_code"], ["wormhole_mass_total"],
    ["wormhole_mass_jump_max"], ["wormhole_mass_regen"], ["wormhole_lifetime"],
    ["lifetime_status"], ["date_lifetime_updated"], ["mass_usage"], ["date_mass_updated"]]

def read {δ : Type} [Document δ] (d : δ) : Option Link := do
  let fields ← readRecord Link.fields d
  return {
    id := ← required LinkId.read "id" fields
    source := ← required NodeId.read "source_node_id" fields
    target := ← required NodeId.read "target_node_id" fields
    wormholeCode := ← optional readString "wormhole_code" fields
    massTotal := ← optional readInt "wormhole_mass_total" fields
    massJumpMax := ← optional readInt "wormhole_mass_jump_max" fields
    massRegen := ← optional readInt "wormhole_mass_regen" fields
    wormholeLifetime := ← optional readFloat "wormhole_lifetime" fields
    lifetime := ← defaulted .stable Lifetime.read "lifetime_status" fields
    lifetimeUpdated := ← optional readString "date_lifetime_updated" fields
    mass := ← defaulted .stable MassUsage.read "mass_usage" fields
    massUpdated := ← optional readString "date_mass_updated" fields }

def toJson (l : Link) : Json :=
  .object [
    ("id", l.id.toJson),
    ("source_node_id", l.source.toJson),
    ("target_node_id", l.target.toJson),
    ("wormhole_code", option .string l.wormholeCode),
    ("wormhole_mass_total", option int l.massTotal),
    ("wormhole_mass_jump_max", option int l.massJumpMax),
    ("wormhole_mass_regen", option int l.massRegen),
    ("wormhole_lifetime", option float l.wormholeLifetime),
    ("lifetime_status", l.lifetime.toJson),
    ("date_lifetime_updated", option .string l.lifetimeUpdated),
    ("mass_usage", l.mass.toJson),
    ("date_mass_updated", option .string l.massUpdated)]

end Link

end WormholeMap

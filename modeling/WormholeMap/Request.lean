import WormholeMap.Map.Info

/-!
The requests that a client makes of a backend: what each one asks for, and its method, path,
parameter and body.
-/

namespace WormholeMap

/-- The method of a request. -/
inductive Method where
  | get
  | post
  | patch
  | delete
  deriving DecidableEq

def Method.name : Method → String
  | get => "GET"
  | post => "POST"
  | patch => "PATCH"
  | delete => "DELETE"

/-- A change to a map. -/
inductive Mutation where
  | createNode (system : Int64) (position : Position)
  | deleteNode (node : NodeId)
  | setLock (node : NodeId) (locked : Bool)
  | moveNode (node : NodeId) (position : Position)
  | setSystem (node : NodeId) (system : Int64)
  | createLink (source target : NodeId) (wormhole : Option Int64)
  | deleteLink (link : LinkId)
  | setMass (link : LinkId) (mass : MassUsage)
  | setLifetime (link : LinkId) (lifetime : Lifetime)
  | reverseLink (link : LinkId)
  | setWormhole (link : LinkId) (wormhole : Int64) (source : NodeId)
  deriving BEq

/-- A request. -/
inductive Request where
  | loadMap (map : MapId)
  | followMap (map : MapId) (cursor : Option Cursor)
  | listSignatures (map : MapId) (node : NodeId)
  | listNotes (map : MapId) (system : Int64)
  | saveViewport (map : MapId) (viewport : Viewport)
  | selectMap (map : MapId)
  | mutate (map : MapId) (mutation : Mutation)
  deriving BEq

namespace Mutation

def method : Mutation → Method
  | createNode .. | createLink .. => .post
  | deleteNode _ | deleteLink _ => .delete
  | _ => .patch

def path : Mutation → String
  | createNode .. => "/nodes"
  | deleteNode node => s!"/nodes/{node}"
  | setLock node _ => s!"/nodes/{node}/locked"
  | moveNode node _ => s!"/nodes/{node}/position"
  | setSystem node _ => s!"/nodes/{node}/system"
  | createLink .. => "/links"
  | deleteLink link | setMass link _ | setLifetime link _ | reverseLink link => s!"/links/{link}"
  | setWormhole link .. => s!"/links/{link}/set-type"

/-- The members of the body, where there is one. -/
def body? : Mutation → Option (List (String × Json))
  | createNode system p =>
    some [("system_id", .int system), ("pos_x", .float p.x), ("pos_y", .float p.y)]
  | setLock _ locked => some [("locked", .bool locked)]
  | moveNode _ p => some [("pos_x", .float p.x), ("pos_y", .float p.y)]
  | setSystem _ system => some [("system_id", .int system)]
  | createLink source target wormhole =>
    some ([("source_node_id", source.toJson), ("target_node_id", target.toJson)]
      ++ (wormhole.map fun w => ("wormhole_id", Json.int w)).toList)
  | deleteNode _ | deleteLink _ => none
  | setMass _ mass => some [("mass_usage", mass.toJson)]
  | setLifetime _ lifetime => some [("lifetime_status", lifetime.toJson)]
  | reverseLink _ => some [("reverse", .bool true)]
  | setWormhole _ wormhole source =>
    some [("wormhole_id", .int wormhole), ("from_node_id", source.toJson)]

/-- What the user is told when the mutation fails and the backend does not say why. -/
def failure : Mutation → String
  | createNode .. => "Failed to create node"
  | deleteNode _ => "Failed to delete node"
  | setLock .. => "Failed to update node lock"
  | moveNode .. => "Failed to update node position"
  | setSystem .. => "Failed to update node system"
  | createLink .. => "Failed to create connection"
  | deleteLink _ => "Failed to delete connection"
  | setMass .. => "Failed to update mass status"
  | setLifetime .. => "Failed to update lifetime status"
  | reverseLink _ => "Failed to reverse connection"
  | setWormhole .. => "Failed to set wormhole type"

end Mutation

namespace Request

def method : Request → Method
  | saveViewport .. | selectMap _ => .patch
  | mutate _ m => m.method
  | _ => .get

def path : Request → String
  | loadMap map => s!"/maps/{map}"
  | followMap map _ => s!"/maps/{map}/events"
  | listSignatures map node => s!"/maps/{map}/nodes/{node}/signatures"
  | listNotes map system => s!"/maps/{map}/systems/{system}/notes"
  | saveViewport map _ => s!"/users/preferences/maps/{map}/viewport"
  | selectMap _ => "/users/preferences"
  | mutate map m => s!"/maps/{map}" ++ m.path

/-- The cursor that the request carries. An empty one is not sent. -/
def cursor? : Request → Option Cursor
  | followMap _ cursor => cursor.filter (· ≠ "")
  | _ => none

/-- The media type that the request asks for, where it asks for one. -/
def accept? : Request → Option String
  | followMap .. => some "text/event-stream"
  | _ => none

/-- The body, where there is one. -/
def body? : Request → Option Json
  | saveViewport _ viewport => some (.object [("viewport", viewport.toJson)])
  | selectMap map => some (.object [("selected_map_id", map.toJson)])
  | mutate _ m => m.body?.map .object
  | _ => none

end Request

end WormholeMap

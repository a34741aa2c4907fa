import WormholeMap.Event.Basic

/-!
The graph of the open map: its metadata, and its nodes and links in the order they came in. A write
gives the graph that it leads to, or nothing where it would change nothing.
-/

namespace WormholeMap

/-- The open map as known here. The revision counts its changes. It is not meant to wrap, as the
refresh counters of a session are, and so has no bound. -/
structure Graph where
  map : Option MapInfo
  display : Display
  nodes : List Node
  links : List Link
  revision : Nat

namespace Graph

def empty : Graph := ⟨none, .standard, [], [], 0⟩

def mapId (g : Graph) : Option MapId := g.map.map (·.id)

def node? (g : Graph) (id : NodeId) : Option Node := g.nodes.find? (·.id == id)

def link? (g : Graph) (id : LinkId) : Option Link := g.links.find? (·.id == id)

/-- The place of a node in the order of nodes. -/
def nodeIndex? (g : Graph) (id : NodeId) : Option Nat := g.nodes.findIdx? (·.id == id)

/-- The place of a link in the order of links. -/
def linkIndex? (g : Graph) (id : LinkId) : Option Nat := g.links.findIdx? (·.id == id)

def nodeCount (g : Graph) : Nat := g.nodes.length

def linkCount (g : Graph) : Nat := g.links.length

/-- Puts an entry in the place of the one with its key, or at the end when there is none. -/
def upsert [BEq κ] (key : α → κ) (a : α) : List α → List α
  | [] => [a]
  | b :: rest => if key b == key a then a :: rest else b :: upsert key a rest

/-- The entries with each key once: in the place of the first with the key, the last one. -/
def collect [BEq κ] (key : α → κ) (entries : List α) : List α :=
  entries.foldl (fun done a => upsert key a done) []

def ofDetail (detail : MapDetail) (revision : Nat) : Graph where
  map := some detail.map
  display := detail.map.display
  nodes := collect Node.id detail.nodes
  links := collect Link.id detail.links
  revision

def insertNode (g : Graph) (n : Node) : Option Graph :=
  match g.node? n.id with
  | some _ => none
  | none => some { g with nodes := g.nodes ++ [n] }

/-- Puts a node in the place of the one with its id, or at the end. -/
def replaceNode (g : Graph) (n : Node) : Option Graph :=
  match g.node? n.id with
  | some old => if old == n then none else some { g with nodes := upsert Node.id n g.nodes }
  | none => some { g with nodes := g.nodes ++ [n] }

/-- Removes a node and the links at it. -/
def removeNode (g : Graph) (id : NodeId) : Option Graph :=
  match g.node? id with
  | none => none
  | some _ => some { g with
      nodes := g.nodes.filter (·.id != id)
      links := g.links.filter (!·.touches id) }

def insertLink (g : Graph) (l : Link) : Option Graph :=
  match g.link? l.id with
  | some _ => none
  | none => some { g with links := g.links ++ [l] }

/-- Puts a link in the place of the one with its id, or at the end. -/
def replaceLink (g : Graph) (l : Link) : Option Graph :=
  match g.link? l.id with
  | some old => if old == l then none else some { g with links := upsert Link.id l g.links }
  | none => some { g with links := g.links ++ [l] }

def removeLink (g : Graph) (id : LinkId) : Option Graph :=
  match g.link? id with
  | none => none
  | some _ => some { g with links := g.links.filter (·.id != id) }

/-- Replaces the metadata, and with it the display settings. -/
def setMap (g : Graph) (m : MapInfo) : Option Graph :=
  if g.map == some m then none else some { g with map := some m, display := m.display }

/-- The occupants of a node after a change to the presence of one, whom its name identifies. -/
def changeOccupants (change : PresenceChange) (o : Occupant) (occupants : List Occupant) :
    Option (List Occupant) :=
  match change, occupants.find? (·.name == o.name) with
  | .left, none => none
  | .left, some _ => some (occupants.eraseP (·.name == o.name))
  | _, some old => if old == o then none else some (upsert Occupant.name o occupants)
  | _, none => some (occupants ++ [o])

/-- Records a change to the presence of a character at a node. -/
def setPresence (g : Graph) (id : NodeId) (change : PresenceChange) (o : Occupant) :
    Option Graph :=
  match g.node? id with
  | none => none
  | some n =>
    (changeOccupants change o n.occupants).map fun occupants =>
      { g with nodes := upsert Node.id { n with occupants } g.nodes }

end Graph

end WormholeMap

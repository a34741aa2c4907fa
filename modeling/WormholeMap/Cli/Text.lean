import WormholeMap.Event.Basic
import WormholeMap.Reconcile
import WormholeMap.Render

/-!
What the command line prints about maps and events.
-/

namespace WormholeMap.Cli

/-- A system by its name, or its number when the name is not known. -/
def systemLabel (g : Graph) (node : NodeId) : String :=
  match g.node? node with
  | some n => n.systemName.getD (toString n.systemId)
  | none => toString node

def edgeLine (g : Graph) (e : RenderEdge) : String :=
  s!"  {systemLabel g e.source} [{e.sourceLabel}] -> {systemLabel g e.target} [{e.targetLabel}]"
    ++ s!"  {e.data.mass.name} / {e.data.lifetime.name}"

/-- A graph with a map in a few lines: how many systems and connections there are, and each
connection. -/
def summary (g : Graph) (readOnly : Bool) : List String :=
  match g.map with
  | none => []
  | some map =>
    let nodes := g.renderNodes readOnly
    let edges := g.renderEdges
    let pinned := (nodes.filter (!·.draggable)).length
    let mark := if readOnly then " (read-only)" else ""
    (s!"[rev {g.revision}] {map.name}{mark}: {nodes.length} systems ({pinned} pinned), "
      ++ s!"{edges.length} connections") :: edges.map (edgeLine g)

def changeName : PresenceChange → String
  | .arrived => "Arrived"
  | .left => "Left"
  | .updated => "Updated"

def reasonName : LeaveReason → String
  | .mapDeleted => "MapDeleted"
  | .accessRevoked => "AccessRevoked"

def subject : Event → Option String
  | .nodeCreated n | .nodeUpdated n => some s!"{n.id} system={n.systemId}"
  | .nodeDeleted id => some (toString id)
  | .linkCreated l | .linkUpdated l => some s!"{l.id} {l.source} -> {l.target}"
  | .linkDeleted id => some (toString id)
  | .mapUpdated m => some m.name
  | .presence node change o => some s!"{changeName change} {o.name} at {node}"
  | .syncError message => some (message.getD "(no message)")
  | _ => none

def describe (e : Event) : String :=
  match subject e with
  | some subject => e.kind ++ " " ++ subject
  | none => e.kind

/-- A mass status by its name or the name it is shown under, in capitals or not. -/
def massOfName? (name : String) : Option MassUsage :=
  match String.ofList (name.toList.map Char.toLower) with
  | "fresh" => some .stable
  | "reduced" => some .destabilized
  | name => MassUsage.ofName? name

/-- A lifetime status by its name, in capitals or not. -/
def lifetimeOfName? (name : String) : Option Lifetime :=
  Lifetime.ofName? (String.ofList (name.toList.map Char.toLower))

end WormholeMap.Cli

import WormholeMap.Action
import WormholeMap.Reconcile
import WormholeMap.Subscription

/-!
Views: a map is made the viewer's first one, loaded in full, and kept up to date by its events until
the backend ends them or the map must be left. After a sync error, or when access has been granted,
the map is loaded again and followed anew. A view goes on step by step, and in each step makes at
most one request.
-/

namespace WormholeMap

/-! ### Loading -/

/-- Loads a map in full and takes it up. When that fails the user is told, and nothing changes. -/
def Client.reload (c : Client) (map : MapId) (w : Workspace) :
    Run σ (Except ActionError Unit × Workspace) := do
  match ← report "Failed to load map" (← c.loadMap map) with
  | .ok detail => return (.ok (), w.enter map detail)
  | .error e => return (.error e, w)

/-! ### Views -/

/-- How a view ended: the map had to be left, or the backend ended its events. -/
inductive ViewExit where
  | left (reason : LeaveReason)
  | streamClosed
  deriving DecidableEq

/-- What a view does next, or how it ended. -/
inductive Phase where
  | opening
  | loading
  | following (subscription : Subscription)
  | ended (result : Except ActionError ViewExit)

/-- A view of a map: whether the user has been told of live updates, and whether of a connection
that has been lost and not been made again. -/
structure View where
  client : Client
  map : MapId
  workspace : Workspace
  phase : Phase
  announced : Bool
  outage : Bool

namespace View

def start (client : Client) (map : MapId) : View := ⟨client, map, .empty, .opening, false, false⟩

def finish (v : View) (result : Except ActionError ViewExit) : View :=
  { v with workspace := v.workspace.leave, phase := .ended result }

/-- Tells the user of live updates, once. -/
def connected (v : View) : Run σ View := do
  if !v.announced then notify (.success "Connected to live updates")
  return { v with announced := true, outage := false }

/-- Tells the user of a lost connection, once until it is made again. -/
def interrupted (v : View) : Run σ View := do
  if !v.outage then notify (.warning "Connection lost" "Reconnecting...")
  return { v with outage := true }

def take (v : View) (e : Event) : Run σ View := do
  let (workspace, outcome) := v.workspace.apply e
  let v := { v with workspace }
  match outcome with
  | .proceed => return v
  | .reload message =>
    if let some message := message then notify (.error "Sync error" message)
    return { v with phase := .loading }
  | .leave reason => return v.finish (.ok (.left reason))

/-- Takes up what the subscription delivers. -/
def deliver (v : View) : Option Delivery → Run σ View
  | some .connected => v.connected
  | some (.interrupted _) => v.interrupted
  | some (.event _ e) => v.take e
  | some .silence => return v
  | some .closed | none => return v.finish (.ok .streamClosed)

def step (v : View) : Run σ View := do
  match v.phase with
  | .opening =>
    let _ ← v.client.selectMap v.map
    return { v with phase := .loading }
  | .loading =>
    let (result, workspace) ← v.client.reload v.map v.workspace
    match result with
    | .ok _ => return { v with workspace, phase := .following (.start v.client v.map none) }
    | .error e => return { v with workspace }.finish (.error e)
  | .following subscription =>
    let (delivery, subscription) ← subscription.next
    { v with phase := .following subscription }.deliver delivery
  | .ended _ => return v

def result? (v : View) : Option (Except ActionError ViewExit) :=
  match v.phase with
  | .ended result => some result
  | _ => none

def run (v : View) : Nat → Run σ View
  | 0 => return v
  | n + 1 => do (← v.step).run n

end View

end WormholeMap

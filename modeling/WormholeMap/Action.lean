import WormholeMap.Client
import WormholeMap.Deletion

/-!
Actions: changes that the user asks for. The user is told of each failure, in the words of the
backend where it gives any. An action on several entities sends one request after another and stops
at the first that fails.
-/

namespace WormholeMap

/-- What went wrong in an action: the backend refused it, there was no usable response, or the
response could not be read. -/
inductive ActionFault where
  | rejected (status : Nat)
  | network
  | decode
  deriving DecidableEq

/-- A failed action, with what the user is told. -/
structure ActionError where
  fault : ActionFault
  message : String
  deriving DecidableEq

/-- The failure of an action by that of its request: the detail of a rejection is what the user is
told, unless it is blank. -/
def ActionError.ofApi (fallback : String) : ApiError → ActionError
  | .network => ⟨.network, fallback⟩
  | .decode => ⟨.decode, fallback⟩
  | .rejected status detail =>
    ⟨.rejected status, (detail.filter fun d => (nonBlank? d).isSome).getD fallback⟩

/-- What became of deleting a selection: it was carried out, or nothing was deleted as all of the
selected nodes are locked. -/
inductive DeletionOutcome where
  | completed (plan : DeletionPlan)
  | cancelled (locked : List NodeId)
  deriving DecidableEq

/-- Why a node and the link to it were not both created. A node that was created stays. -/
inductive ConnectError where
  | nodeFailed (cause : ActionError)
  | linkFailed (node : Node) (cause : ActionError)

/-- The failure of the request that failed. -/
def ConnectError.cause : ConnectError → ActionError
  | nodeFailed cause => cause
  | linkFailed _ cause => cause

namespace Client

def report (fallback : String) : Except ApiError α → Run σ (Except ActionError α)
  | .ok a => return .ok a
  | .error e => do
    let e := ActionError.ofApi fallback e
    notify (.error "Error" e.message)
    return .error e

/-- Makes a change of which nothing is read back. -/
def mutate (c : Client) (map : MapId) (m : Mutation) : Run σ (Except ActionError Unit) := do
  report m.failure (← c.submit (.mutate map m))

/-- Makes changes in order, up to the first that fails. -/
def mutateAll (c : Client) (map : MapId) : List Mutation → Run σ (Except ActionError Unit)
  | [] => return .ok ()
  | m :: rest => do
    match ← c.mutate map m with
    | .ok _ => c.mutateAll map rest
    | .error e => return .error e

def createNode (c : Client) (map : MapId) (system : Int64) (position : Position) :
    Run σ (Except ActionError Node) := do
  let m := Mutation.createNode system position
  report m.failure (← c.fetch Node.read (.mutate map m))

/-- Creates a link, with the type of its wormhole if that is known. -/
def createLink (c : Client) (map : MapId) (source target : NodeId) (wormhole : Option Int64) :
    Run σ (Except ActionError Link) := do
  let m := Mutation.createLink source target wormhole
  report m.failure (← c.fetch Link.read (.mutate map m))

/-- Locks an unlocked node and unlocks a locked one. -/
def toggleLock (c : Client) (map : MapId) (node : Node) : Run σ (Except ActionError Unit) :=
  c.mutate map (.setLock node.id (!node.locked))

/-- Creates a node and a link to it. The link is not tried when there is no node. -/
def createConnectedNode (c : Client) (map : MapId) (source : NodeId) (system : Int64)
    (position : Position) (wormhole : Option Int64) :
    Run σ (Except ConnectError (Node × Link)) := do
  match ← c.createNode map system position with
  | .error e => return .error (.nodeFailed e)
  | .ok node =>
    match ← c.createLink map source node.id wormhole with
    | .error e => return .error (.linkFailed node e)
    | .ok link => return .ok (node, link)

/-- Deletes a selection as planned, nodes first. -/
def deleteSelection (c : Client) (map : MapId) (nodes : List Node) (links : List Link) :
    Run σ (Except ActionError DeletionOutcome) := do
  match planDeletion nodes links with
  | none =>
    notify (.warning "Nothing deleted" "Locked systems cannot be deleted")
    return .ok (.cancelled (nodes.map (·.id)))
  | some plan =>
    match ← c.mutateAll map (plan.nodes.map .deleteNode) with
    | .error e => return .error e
    | .ok _ =>
      match ← c.mutateAll map (plan.links.map .deleteLink) with
      | .error e => return .error e
      | .ok _ => return .ok (.completed plan)

/-- Moves nodes in order, after some that have been moved, up to the first move that fails. Locked
nodes are passed over. -/
def moveEach (c : Client) (map : MapId) (moved : Nat) :
    List (Node × Position) → Run σ (Except ActionError Nat)
  | [] => return .ok moved
  | (n, p) :: rest => do
    if n.locked then c.moveEach map moved rest
    else
      match ← c.mutate map (.moveNode n.id p) with
      | .ok _ => c.moveEach map (moved + 1) rest
      | .error e => return .error e

/-- Moves nodes, but for locked ones, and counts those moved. -/
def moveSelection (c : Client) (map : MapId) (moves : List (Node × Position)) :
    Run σ (Except ActionError Nat) :=
  c.moveEach map 0 moves

/-- Makes a map the one that the viewer starts with. -/
def selectMap (c : Client) (map : MapId) : Run σ (Except ActionError Unit) := do
  report "Failed to save selected map" (← c.submit (.selectMap map))

end Client

end WormholeMap

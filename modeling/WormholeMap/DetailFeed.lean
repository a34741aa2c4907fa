import WormholeMap.Client
import WormholeMap.Session
import WormholeMap.Store

/-!
Detail feeds: the signatures or the notes at the selected node, fetched anew whenever the map, the
selection or the counter of such changes in the session has changed.
-/

namespace WormholeMap

/-- What a feed shows. -/
inductive DetailKind where
  | signatures
  | notes
  deriving DecidableEq

/-- What a feed comes up with: signatures, notes, or nothing as no single node is selected, or it is
no longer on the map. -/
inductive DetailPanel where
  | signatures (node : NodeId) (signatures : List Signature)
  | notes (node : NodeId) (system : Int64) (notes : List Note)
  | cleared

/-- The map, the node and the counter that a panel is for. -/
abbrev DetailKey := Option (MapId × NodeId × UInt64)

/-- A feed: how many publications of the session it has seen, and what its last panel is for. -/
structure DetailFeed where
  client : Client
  kind : DetailKind
  seen : Nat
  last : Option DetailKey

/-- What a feed answers: there is nothing new, there never will be as the session is gone, or a
panel. -/
inductive FeedAnswer where
  | pending
  | gone
  | panel (result : Except ApiError DetailPanel)

namespace DetailFeed

def start (client : Client) (kind : DetailKind) (session : Session) : DetailFeed :=
  ⟨client, kind, session.count, none⟩

def key (kind : DetailKind) (s : SessionState) : DetailKey :=
  let counter := match kind with
    | .signatures => s.signatureRefresh
    | .notes => s.noteRefresh
  match s.mapId, s.selected with
  | some map, some node => some (map, node, counter)
  | _, _ => none

/-- Fetches the panel for a node. Notes are those on the system of the node. -/
def fetch (f : DetailFeed) (store : Store) (map : MapId) (node : NodeId) :
    Run σ (Except ApiError DetailPanel) := do
  match f.kind with
  | .signatures => return (← f.client.fetchSignatures map node).map (.signatures node)
  | .notes =>
    match store.value.node? node with
    | none => return .ok .cleared
    | some n => return (← f.client.fetchNotes map n.systemId).map (.notes node n.systemId)

/-- The next answer. The first one is a panel; later ones are when the session has changed in what
matters. A session that nobody can change any more is `live` no longer. -/
def next (f : DetailFeed) (session : Session) (live : Bool) (store : Store) :
    Run σ (FeedAnswer × DetailFeed) := do
  let idle := if live then FeedAnswer.pending else .gone
  let key := DetailFeed.key f.kind session.value
  if f.last.isSome ∧ session.count = f.seen then return (idle, f)
  else if f.last = some key then return (idle, { f with seen := session.count })
  else
    let f := { f with seen := session.count, last := some key }
    match key with
    | none => return (.panel (.ok .cleared), f)
    | some (map, node, _) => return (.panel (← f.fetch store map node), f)

end DetailFeed

end WormholeMap

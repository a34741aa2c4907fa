import WormholeMap.Session
import WormholeMap.Store

/-!
Reconciling: every event of the stream becomes the smallest change of store and session that
reflects it. An event that ends the view or puts it in doubt changes neither; what to do then is the
outcome.
-/

namespace WormholeMap

/-- Why a view must be left. -/
inductive LeaveReason where
  | mapDeleted
  | accessRevoked
  deriving DecidableEq

/-- What an event asks of the view: to go on, to load the whole map again, telling the user why if
there is a message, or to leave. -/
inductive Outcome where
  | proceed
  | reload (message : Option String)
  | leave (reason : LeaveReason)
  deriving DecidableEq

/-- What the user is told about a sync error that says nothing. -/
def syncErrorFallback : String := "Map synchronization failed. Reloading map..."

/-- The store and the session of a view. -/
structure Workspace where
  store : Store
  session : Session

namespace Workspace

def empty : Workspace := ⟨.empty, .empty⟩

def write (w : Workspace) (f : Graph → Option Graph) : Workspace :=
  { w with store := w.store.modify f }

/-- Metadata with the access that the viewer is known to have: an event is sent to all viewers, so
its word on access counts for none. -/
def keepAccess (w : Workspace) (m : MapInfo) : MapInfo :=
  match w.store.value.map with
  | some current => { m with editAccess := current.editAccess }
  | none => m

/-- Applies an event. -/
def apply (w : Workspace) : Event → Workspace × Outcome
  | .nodeCreated n => (w.write (·.insertNode n), .proceed)
  | .nodeUpdated n => (w.write (·.replaceNode n), .proceed)
  | .nodeDeleted id =>
    ({ w with session := w.session.deselect id }.write (·.removeNode id), .proceed)
  | .linkCreated l => (w.write (·.insertLink l), .proceed)
  | .linkUpdated l => (w.write (·.replaceLink l), .proceed)
  | .linkDeleted id => (w.write (·.removeLink id), .proceed)
  | .mapUpdated m => (w.write (·.setMap (w.keepAccess m)), .proceed)
  | .presence id change o => (w.write (·.setPresence id change o), .proceed)
  | .signaturesChanged _ => ({ w with session := w.session.bumpSignatures }, .proceed)
  | .notesChanged _ => ({ w with session := w.session.bumpNotes }, .proceed)
  | .accessGranted _ => (w, .reload none)
  | .mapDeleted => (w, .leave .mapDeleted)
  | .accessRevoked _ => (w, .leave .accessRevoked)
  | .syncError message => (w, .reload (some (message.getD syncErrorFallback)))

def enter (w : Workspace) (mapId : MapId) (detail : MapDetail) : Workspace :=
  let store := w.store.load detail
  { store
    session := w.session.reloadMap mapId (!detail.map.editAccess) fun node =>
      (store.value.node? node).isSome }

def leave (w : Workspace) : Workspace :=
  ⟨w.store.clear, w.session.switchMap none false⟩

end Workspace

end WormholeMap

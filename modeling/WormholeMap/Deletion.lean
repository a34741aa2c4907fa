import WormholeMap.Map.Info

/-!
Deleting a selection: which of the selected nodes and links to ask the backend to delete.
-/

namespace WormholeMap

/-- What deleting a selection comes to. -/
structure DeletionPlan where
  nodes : List NodeId
  links : List LinkId
  skippedLocked : List NodeId
  deriving DecidableEq

/-- The plan for a selection: its unlocked nodes, and its links but for those at these nodes, which
go with them. There is none when nodes are selected and all of them are locked. -/
def planDeletion (nodes : List Node) (links : List Link) : Option DeletionPlan :=
  let locked := nodes.filter (·.locked)
  let unlocked := nodes.filter (!·.locked)
  if unlocked.isEmpty && !locked.isEmpty then none
  else
    let doomed := unlocked.map (·.id)
    some {
      nodes := doomed
      links := (links.filter fun l =>
        !doomed.contains l.source && !doomed.contains l.target).map (·.id)
      skippedLocked := locked.map (·.id) }

end WormholeMap

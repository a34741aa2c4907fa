import WormholeMap.Reconcile
import WormholeMap.Proofs.Graph.Keyed

/-!
What events make of one node and of one link. The node with an id is decided by the node with that
id before and by the event (`node?_apply`). So is the link with an id, but for the nodes that are
present: only the removal of a present node removes the links at it (`link?_apply`).
-/

namespace WormholeMap

/-- A node after a change to the presence of a character. -/
def Node.withPresence (change : PresenceChange) (o : Occupant) (n : Node) : Node :=
  { n with occupants := (Graph.changeOccupants change o n.occupants).getD n.occupants }

namespace Event

/-- What an event makes of the node with an id. -/
def nodeAfter (id : NodeId) (x : Option Node) : Event → Option Node
  | nodeCreated n => if n.id = id then x.or (some n) else x
  | nodeUpdated n => if n.id = id then some (Graph.replaced n x) else x
  | nodeDeleted d => if d = id then none else x
  | presence p change o => if p = id then x.map (·.withPresence change o) else x
  | _ => x

/-- What an event makes of the link with an id, when some nodes are present. -/
def linkAfter (id : LinkId) (present : NodeId → Bool) (x : Option Link) : Event → Option Link
  | linkCreated l => if l.id = id then x.or (some l) else x
  | linkUpdated l => if l.id = id then some (Graph.replaced l x) else x
  | linkDeleted d => if d = id then none else x
  | nodeDeleted d => if present d then x.filter (!·.touches d) else x
  | _ => x

end Event

namespace Graph

/-! ### Entries after writes -/

section

variable {g : Graph} {n : Node} {l : Link} {id : NodeId} {change : PresenceChange} {o : Occupant}

theorem nodes_insertNode : ((g.insertNode n).getD g).nodes = inserted Node.id n g.nodes := by
  cases h : g.node? n.id with
  | some old =>
    rw [insertNode, h, inserted_of_some h]
    rfl
  | none =>
    rw [insertNode, h, inserted_of_none h]
    rfl

theorem nodes_replaceNode : ((g.replaceNode n).getD g).nodes = put Node.id n g.nodes := by
  cases h : g.node? n.id with
  | some old =>
    by_cases hsame : old == n
    · simp [replaceNode, h, hsame, put_of_beq h hsame]
    · simp [replaceNode, h, hsame, put_of_not_beq h hsame]
  | none =>
    rw [replaceNode, h, put_of_none h]
    rfl

theorem nodes_removeNode : ((g.removeNode id).getD g).nodes = g.nodes.filter (·.id != id) := by
  unfold removeNode
  split
  · rename_i hnone
    exact (filter_ne_of_find?_eq_none hnone).symm
  · rfl

theorem links_removeNode : ((g.removeNode id).getD g).links =
    if (g.node? id).isSome then g.links.filter (!·.touches id) else g.links := by
  unfold removeNode
  split
  · rename_i hnone
    rw [hnone]
    rfl
  · rename_i n hn
    rw [hn]
    rfl

theorem links_insertLink : ((g.insertLink l).getD g).links = inserted Link.id l g.links := by
  cases h : g.link? l.id with
  | some old =>
    rw [insertLink, h, inserted_of_some h]
    rfl
  | none =>
    rw [insertLink, h, inserted_of_none h]
    rfl

theorem links_replaceLink : ((g.replaceLink l).getD g).links = put Link.id l g.links := by
  cases h : g.link? l.id with
  | some old =>
    by_cases hsame : old == l
    · simp [replaceLink, h, hsame, put_of_beq h hsame]
    · simp [replaceLink, h, hsame, put_of_not_beq h hsame]
  | none =>
    rw [replaceLink, h, put_of_none h]
    rfl

theorem links_removeLink {id : LinkId} :
    ((g.removeLink id).getD g).links = g.links.filter (·.id != id) := by
  unfold removeLink
  split
  · rename_i hnone
    exact (filter_ne_of_find?_eq_none hnone).symm
  · rfl

theorem node?_insertNode (id : NodeId) : ((g.insertNode n).getD g).node? id =
    if n.id = id then (g.node? id).or (some n) else g.node? id := by
  simp only [node?, nodes_insertNode, find?_inserted, beq_iff_eq]

theorem node?_replaceNode (id : NodeId) : ((g.replaceNode n).getD g).node? id =
    if n.id = id then some (replaced n (g.node? id)) else g.node? id := by
  simp only [node?, nodes_replaceNode, find?_put, beq_iff_eq]

theorem node?_removeNode (d id : NodeId) : ((g.removeNode d).getD g).node? id =
    if d = id then none else g.node? id := by
  simp only [node?, nodes_removeNode, find?_filter_ne, beq_iff_eq]

theorem link?_insertLink (id : LinkId) : ((g.insertLink l).getD g).link? id =
    if l.id = id then (g.link? id).or (some l) else g.link? id := by
  simp only [link?, links_insertLink, find?_inserted, beq_iff_eq]

theorem link?_replaceLink (id : LinkId) : ((g.replaceLink l).getD g).link? id =
    if l.id = id then some (replaced l (g.link? id)) else g.link? id := by
  simp only [link?, links_replaceLink, find?_put, beq_iff_eq]

theorem link?_removeLink (d id : LinkId) : ((g.removeLink d).getD g).link? id =
    if d = id then none else g.link? id := by
  simp only [link?, links_removeLink, find?_filter_ne, beq_iff_eq]

theorem node?_setPresence {p : NodeId} :
    ((g.setPresence p change o).getD g).node? id =
      if p = id then (g.node? id).map (·.withPresence change o) else g.node? id := by
  unfold setPresence
  split
  · rename_i hnone
    split
    · rename_i hid
      rw [← hid, Option.getD_none, hnone]
      rfl
    · rfl
  · rename_i n hn
    have hid : n.id = p := key_of_find? hn
    cases hchange : changeOccupants change o n.occupants with
    | none =>
      split
      · rename_i hp
        rw [← hp]
        simp [hn, Node.withPresence, hchange]
      · rfl
    | some occupants =>
      simp only [Option.map_some, Option.getD_some, node?, find?_upsert, hid, beq_iff_eq]
      split
      · rename_i hp
        simp only [node?] at hn
        simp [← hp, hn, hid, Node.withPresence, hchange]
      · rfl

/-- A change of presence leaves the ids of nodes as they are. -/
theorem map_id_setPresence :
    ((g.setPresence id change o).getD g).nodes.map Node.id = g.nodes.map Node.id := by
  unfold setPresence
  split
  · rfl
  · rename_i n hn
    have hmem : n.id ∈ g.nodes.map Node.id := List.mem_map_of_mem (List.mem_of_find?_eq_some hn)
    cases changeOccupants change o n.occupants with
    | none => rfl
    | some occupants =>
      simp only [Option.map_some, Option.getD_some, map_key_upsert]
      exact if_pos hmem

theorem mem_nodes_setPresence {m : Node} (h : m ∈ ((g.setPresence id change o).getD g).nodes) :
    m ∈ g.nodes ∨ ∃ old ∈ g.nodes, m = old.withPresence change o := by
  unfold setPresence at h
  split at h
  · exact .inl h
  · rename_i n hn
    cases hchange : changeOccupants change o n.occupants with
    | none =>
      rw [hchange] at h
      exact .inl h
    | some occupants =>
      rw [hchange] at h
      rcases mem_upsert h with rfl | h
      · exact .inr ⟨n, List.mem_of_find?_eq_some hn, by simp [Node.withPresence, hchange]⟩
      · exact .inl h

/-! ### What a write leaves alone -/

theorem links_insertNode : ((g.insertNode n).getD g).links = g.links := by
  unfold insertNode
  split <;> rfl

theorem links_replaceNode : ((g.replaceNode n).getD g).links = g.links := by
  unfold replaceNode
  split
  · split <;> rfl
  · rfl

theorem links_setPresence : ((g.setPresence id change o).getD g).links = g.links := by
  unfold setPresence
  split
  · rfl
  · cases changeOccupants change o _ <;> rfl

theorem nodes_insertLink : ((g.insertLink l).getD g).nodes = g.nodes := by
  unfold insertLink
  split <;> rfl

theorem nodes_replaceLink : ((g.replaceLink l).getD g).nodes = g.nodes := by
  unfold replaceLink
  split
  · split <;> rfl
  · rfl

theorem nodes_removeLink {id : LinkId} : ((g.removeLink id).getD g).nodes = g.nodes := by
  unfold removeLink
  split <;> rfl

theorem nodes_setMap {m : MapInfo} : ((g.setMap m).getD g).nodes = g.nodes := by
  unfold setMap
  split <;> rfl

theorem links_setMap {m : MapInfo} : ((g.setMap m).getD g).links = g.links := by
  unfold setMap
  split <;> rfl

end

end Graph

/-! ### Entries after events -/

namespace Workspace

variable (w : Workspace)

/-- A write publishes its graph, or leaves the one that is published. -/
theorem value_write (f : Graph → Option Graph) :
    (w.write f).store.value = { (f w.store.value).getD w.store.value with
      revision := (w.write f).store.value.revision } := by
  unfold write Store.modify
  cases f w.store.value <;> rfl

theorem node?_write (f : Graph → Option Graph) (id : NodeId) :
    (w.write f).store.value.node? id = ((f w.store.value).getD w.store.value).node? id := by
  rw [value_write]
  rfl

theorem link?_write (f : Graph → Option Graph) (id : LinkId) :
    (w.write f).store.value.link? id = ((f w.store.value).getD w.store.value).link? id := by
  rw [value_write]
  rfl

theorem nodes_write (f : Graph → Option Graph) :
    (w.write f).store.value.nodes = ((f w.store.value).getD w.store.value).nodes := by
  rw [value_write]

theorem links_write (f : Graph → Option Graph) :
    (w.write f).store.value.links = ((f w.store.value).getD w.store.value).links := by
  rw [value_write]

theorem node?_apply (e : Event) (id : NodeId) :
    (w.apply e).1.store.value.node? id = e.nodeAfter id (w.store.value.node? id) := by
  cases e with
  | nodeCreated n =>
    simp only [apply, Event.nodeAfter, node?_write, Graph.node?_insertNode]
  | nodeUpdated n =>
    simp only [apply, Event.nodeAfter, node?_write, Graph.node?_replaceNode]
  | nodeDeleted d =>
    simp only [apply, Event.nodeAfter, node?_write, Graph.node?_removeNode]
  | presence p change o =>
    simp only [apply, Event.nodeAfter, node?_write, Graph.node?_setPresence]
  | linkCreated l =>
    simp only [apply, Event.nodeAfter, Graph.node?, nodes_write, Graph.nodes_insertLink]
  | linkUpdated l =>
    simp only [apply, Event.nodeAfter, Graph.node?, nodes_write, Graph.nodes_replaceLink]
  | linkDeleted d =>
    simp only [apply, Event.nodeAfter, Graph.node?, nodes_write, Graph.nodes_removeLink]
  | mapUpdated m =>
    simp only [apply, Event.nodeAfter, Graph.node?, nodes_write, Graph.nodes_setMap]
  | _ => rfl

theorem link?_apply (h : (w.store.value.links.map Link.id).Nodup) (e : Event) (id : LinkId) :
    (w.apply e).1.store.value.link? id =
      e.linkAfter id (fun n => (w.store.value.node? n).isSome) (w.store.value.link? id) := by
  cases e with
  | linkCreated l =>
    simp only [apply, Event.linkAfter, link?_write, Graph.link?_insertLink]
  | linkUpdated l =>
    simp only [apply, Event.linkAfter, link?_write, Graph.link?_replaceLink]
  | linkDeleted d =>
    simp only [apply, Event.linkAfter, link?_write, Graph.link?_removeLink]
  | nodeDeleted d =>
    simp only [apply, Event.linkAfter, Graph.link?, links_write, Graph.links_removeNode]
    split
    · exact Graph.find?_filter_of_nodup h _
    · rfl
  | nodeCreated n =>
    simp only [apply, Event.linkAfter, Graph.link?, links_write, Graph.links_insertNode]
  | nodeUpdated n =>
    simp only [apply, Event.linkAfter, Graph.link?, links_write, Graph.links_replaceNode]
  | presence p change o =>
    simp only [apply, Event.linkAfter, Graph.link?, links_write, Graph.links_setPresence]
  | mapUpdated m =>
    simp only [apply, Event.linkAfter, Graph.link?, links_write, Graph.links_setMap]
  | _ => rfl

theorem edited_nodes_apply (e : Event) : Graph.Edited (w.store.value.nodes.map Node.id)
    ((w.apply e).1.store.value.nodes.map Node.id) := by
  cases e with
  | nodeCreated n =>
    simp only [apply, nodes_write, Graph.nodes_insertNode]
    exact Graph.edited_inserted
  | nodeUpdated n =>
    simp only [apply, nodes_write, Graph.nodes_replaceNode]
    exact Graph.edited_put
  | nodeDeleted d =>
    simp only [apply, nodes_write, Graph.nodes_removeNode]
    exact Graph.edited_filter _
  | presence p change o =>
    simp only [apply, nodes_write, Graph.map_id_setPresence]
    exact .refl _
  | linkCreated l =>
    simp only [apply, nodes_write, Graph.nodes_insertLink]
    exact .refl _
  | linkUpdated l =>
    simp only [apply, nodes_write, Graph.nodes_replaceLink]
    exact .refl _
  | linkDeleted d =>
    simp only [apply, nodes_write, Graph.nodes_removeLink]
    exact .refl _
  | mapUpdated m =>
    simp only [apply, nodes_write, Graph.nodes_setMap]
    exact .refl _
  | _ => exact .refl _

theorem edited_links_apply (e : Event) : Graph.Edited (w.store.value.links.map Link.id)
    ((w.apply e).1.store.value.links.map Link.id) := by
  cases e with
  | linkCreated l =>
    simp only [apply, links_write, Graph.links_insertLink]
    exact Graph.edited_inserted
  | linkUpdated l =>
    simp only [apply, links_write, Graph.links_replaceLink]
    exact Graph.edited_put
  | linkDeleted d =>
    simp only [apply, links_write, Graph.links_removeLink]
    exact Graph.edited_filter _
  | nodeDeleted d =>
    simp only [apply, links_write, Graph.links_removeNode]
    split
    · exact Graph.edited_filter _
    · exact .refl _
  | nodeCreated n =>
    simp only [apply, links_write, Graph.links_insertNode]
    exact .refl _
  | nodeUpdated n =>
    simp only [apply, links_write, Graph.links_replaceNode]
    exact .refl _
  | presence p change o =>
    simp only [apply, links_write, Graph.links_setPresence]
    exact .refl _
  | mapUpdated m =>
    simp only [apply, links_write, Graph.links_setMap]
    exact .refl _
  | _ => exact .refl _

/-- Events keep the ids of nodes different. -/
theorem nodup_nodes_apply (h : (w.store.value.nodes.map Node.id).Nodup) (e : Event) :
    ((w.apply e).1.store.value.nodes.map Node.id).Nodup :=
  (w.edited_nodes_apply e).nodup h

/-- Events keep the ids of links different. -/
theorem nodup_links_apply (h : (w.store.value.links.map Link.id).Nodup) (e : Event) :
    ((w.apply e).1.store.value.links.map Link.id).Nodup :=
  (w.edited_links_apply e).nodup h

/-- Where the nodes after an event come from. -/
theorem mem_nodes_apply {e : Event} {n : Node} (h : n ∈ (w.apply e).1.store.value.nodes) :
    n ∈ w.store.value.nodes ∨ e = .nodeCreated n ∨ e = .nodeUpdated n ∨
      ∃ old ∈ w.store.value.nodes, ∃ change o, n = old.withPresence change o := by
  cases e with
  | nodeCreated m =>
    simp only [apply, nodes_write, Graph.nodes_insertNode] at h
    rcases Graph.mem_inserted h with rfl | h
    · exact .inr (.inl rfl)
    · exact .inl h
  | nodeUpdated m =>
    simp only [apply, nodes_write, Graph.nodes_replaceNode] at h
    rcases Graph.mem_put h with rfl | h
    · exact .inr (.inr (.inl rfl))
    · exact .inl h
  | nodeDeleted d =>
    simp only [apply, nodes_write, Graph.nodes_removeNode] at h
    exact .inl (List.mem_of_mem_filter h)
  | presence p change o =>
    simp only [apply, nodes_write] at h
    rcases Graph.mem_nodes_setPresence h with h | ⟨old, hold, rfl⟩
    · exact .inl h
    · exact .inr (.inr (.inr ⟨old, hold, change, o, rfl⟩))
  | linkCreated l =>
    simp only [apply, nodes_write, Graph.nodes_insertLink] at h
    exact .inl h
  | linkUpdated l =>
    simp only [apply, nodes_write, Graph.nodes_replaceLink] at h
    exact .inl h
  | linkDeleted d =>
    simp only [apply, nodes_write, Graph.nodes_removeLink] at h
    exact .inl h
  | mapUpdated m =>
    simp only [apply, nodes_write, Graph.nodes_setMap] at h
    exact .inl h
  | _ => exact .inl h

/-- Where the links after an event come from. -/
theorem mem_links_apply {e : Event} {l : Link} (h : l ∈ (w.apply e).1.store.value.links) :
    l ∈ w.store.value.links ∨ e = .linkCreated l ∨ e = .linkUpdated l := by
  cases e with
  | linkCreated m =>
    simp only [apply, links_write, Graph.links_insertLink] at h
    rcases Graph.mem_inserted h with rfl | h
    · exact .inr (.inl rfl)
    · exact .inl h
  | linkUpdated m =>
    simp only [apply, links_write, Graph.links_replaceLink] at h
    rcases Graph.mem_put h with rfl | h
    · exact .inr (.inr rfl)
    · exact .inl h
  | linkDeleted d =>
    simp only [apply, links_write, Graph.links_removeLink] at h
    exact .inl (List.mem_of_mem_filter h)
  | nodeDeleted d =>
    simp only [apply, links_write, Graph.links_removeNode] at h
    split at h
    · exact .inl (List.mem_of_mem_filter h)
    · exact .inl h
  | nodeCreated n =>
    simp only [apply, links_write, Graph.links_insertNode] at h
    exact .inl h
  | nodeUpdated n =>
    simp only [apply, links_write, Graph.links_replaceNode] at h
    exact .inl h
  | presence p change o =>
    simp only [apply, links_write, Graph.links_setPresence] at h
    exact .inl h
  | mapUpdated m =>
    simp only [apply, links_write, Graph.links_setMap] at h
    exact .inl h
  | _ => exact .inl h

end Workspace

end WormholeMap

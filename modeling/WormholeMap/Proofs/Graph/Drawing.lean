import WormholeMap.Render
import WormholeMap.Proofs.Graph.Table
import WormholeMap.Proofs.Replay

/-!
The drawing of a graph. A store may hold links whose ends it lacks: they come before their nodes,
outlive them, or are moved away from them. The drawing has every node once, and every link once
whose two ends are nodes, so that no edge leads to where nothing is drawn (`drawn_of_reachable`).
No edge is drawn at a node that has been removed until an event brings it back.
-/

namespace WormholeMap

/-- What the two ends of a link are labelled with: the source with the type of its wormhole, if that
is known, and the target always with the return signature. -/
structure Link.Labelled (l : Link) (source target : String) : Prop where
  known : ∀ code, l.wormholeCode = some code → code ≠ "" → source = code
  unknown : (∀ code, l.wormholeCode = some code → code = "") → source = "?"
  returns : target = "K162"

/-- A node of the graph has the id. -/
def Graph.Has (g : Graph) (id : NodeId) : Prop := ∃ n ∈ g.nodes, n.id = id

/-- Nodes and edges draw a graph: all of its nodes in their order, and in their order those of its
links that have both ends. -/
structure Graph.Drawn (g : Graph) (readOnly : Bool) (nodes : List RenderNode)
    (edges : List RenderEdge) : Prop where
  nodes_eq : nodes.map (·.data) = g.nodes
  node_of : ∀ n ∈ nodes, n.id = n.data.id ∧ n.position = n.data.position ∧
    (n.draggable = true ↔ readOnly = false ∧ n.data.locked = false)
  nodes_once : (nodes.map (·.id)).Nodup
  edges_sublist : (edges.map (·.data)).Sublist g.links
  edge_iff : ∀ l ∈ g.links, l ∈ edges.map (·.data) ↔ g.Has l.source ∧ g.Has l.target
  edge_of : ∀ e ∈ edges, e.id = e.data.id ∧ e.source = e.data.source ∧
    e.target = e.data.target ∧ e.data.Labelled e.sourceLabel e.targetLabel
  edges_once : (edges.map (·.id)).Nodup
  ends : ∀ e ∈ edges, e.source ∈ nodes.map (·.id) ∧ e.target ∈ nodes.map (·.id)
  style : ∀ e ∈ edges, e.lineStyle = (g.map.map (·.lineStyle)).getD .default

/-- The event brings the node with an id, if it is not there. -/
def Event.Brings (id : NodeId) : Event → Prop
  | nodeCreated n | nodeUpdated n => n.id = id
  | _ => False

theorem Link.labelled (l : Link) : l.Labelled l.sourceLabel l.targetLabel where
  known code hcode hne := by
    rw [sourceLabel, hcode]
    exact if_neg hne
  unknown h := by
    unfold sourceLabel
    split
    · rename_i code hcode
      exact if_pos (h code hcode)
    · rfl
  returns := rfl

namespace Graph

variable {g : Graph} {readOnly : Bool} {id : NodeId} {e : RenderEdge}

theorem has_iff : g.Has id ↔ (g.node? id).isSome = true := by
  rw [node?, List.find?_isSome]
  simp [Has]

theorem has_iff_mem : g.Has id ↔ id ∈ g.nodes.map Node.id :=
  List.mem_map.symm

theorem data_renderNodes : (g.renderNodes readOnly).map (·.data) = g.nodes := by
  rw [renderNodes, List.map_map, Function.comp_def, List.map_id']

theorem ids_renderNodes : (g.renderNodes readOnly).map (·.id) = g.nodes.map Node.id := by
  rw [renderNodes, List.map_map]
  rfl

theorem data_renderEdges : g.renderEdges.map (·.data) =
    g.links.filter fun l => (g.node? l.source).isSome && (g.node? l.target).isSome := by
  rw [renderEdges, List.map_map, Function.comp_def, List.map_id']

theorem ids_renderEdges : g.renderEdges.map (·.id) = (g.renderEdges.map (·.data)).map Link.id := by
  rw [data_renderEdges, renderEdges, List.map_map]
  rfl

/-- An edge is drawn for a link that has both ends. -/
theorem mem_renderEdges (h : e ∈ g.renderEdges) :
    ∃ l ∈ g.links, g.Has l.source ∧ g.Has l.target ∧ e =
      ⟨l.id, l.source, l.target, l, g.display.lineStyle, l.sourceLabel, l.targetLabel⟩ := by
  obtain ⟨l, hl, rfl⟩ := List.mem_map.mp h
  obtain ⟨hmem, hends⟩ := List.mem_filter.mp hl
  rw [Bool.and_eq_true, ← has_iff, ← has_iff] at hends
  exact ⟨l, hmem, hends.1, hends.2, rfl⟩

theorem Displayed.lineStyle_eq (h : g.Displayed) :
    g.display.lineStyle = (g.map.map (·.lineStyle)).getD .default := by
  rw [Displayed] at h
  rw [h]
  cases g.map <;> rfl

theorem Consistent.drawn (h : g.Consistent) (readOnly : Bool) :
    g.Drawn readOnly (g.renderNodes readOnly) g.renderEdges where
  nodes_eq := data_renderNodes
  node_of n hn := by
    obtain ⟨m, -, rfl⟩ := List.mem_map.mp hn
    simp
  nodes_once := by
    rw [ids_renderNodes]
    exact h.nodes.nodup
  edges_sublist := by
    rw [data_renderEdges]
    exact List.filter_sublist
  edge_iff l hl := by
    rw [data_renderEdges, List.mem_filter, Bool.and_eq_true, has_iff, has_iff]
    exact and_iff_right hl
  edge_of e he := by
    obtain ⟨l, -, -, -, rfl⟩ := mem_renderEdges he
    exact ⟨rfl, rfl, rfl, l.labelled⟩
  edges_once := by
    rw [ids_renderEdges, data_renderEdges]
    exact nodup_filter h.links.nodup _
  ends e he := by
    obtain ⟨l, -, hsource, htarget, rfl⟩ := mem_renderEdges he
    rw [ids_renderNodes]
    exact ⟨has_iff_mem.mp hsource, has_iff_mem.mp htarget⟩
  style e he := by
    obtain ⟨l, -, -, -, rfl⟩ := mem_renderEdges he
    exact h.displayed.lineStyle_eq

/-- No edge is drawn at a node that is absent. -/
theorem Drawn.ne_of_absent {nodes : List RenderNode} {edges : List RenderEdge}
    (h : g.Drawn readOnly nodes edges) (habsent : ¬g.Has id) (he : e ∈ edges) :
    e.source ≠ id ∧ e.target ≠ id := by
  obtain ⟨hid, hsource, htarget, -⟩ := h.edge_of e he
  have hlink : e.data ∈ edges.map (·.data) := List.mem_map_of_mem he
  obtain ⟨hs, ht⟩ := (h.edge_iff _ (h.edges_sublist.subset hlink)).mp hlink
  constructor
  · rintro rfl
    exact habsent (hsource ▸ hs)
  · rintro rfl
    exact habsent (htarget ▸ ht)

end Graph

/-! ### After a removal -/

theorem Event.nodeAfter_none_of_not_brings {id : NodeId} {e : Event} (h : ¬e.Brings id) :
    e.nodeAfter id none = none := by
  cases e with
  | nodeCreated n => exact if_neg h
  | nodeUpdated n => exact if_neg h
  | nodeDeleted d => exact ite_self none
  | presence p change o => exact ite_self none
  | _ => rfl

/-- A node stays absent as long as no event brings it. -/
theorem Workspace.absent_run {w : Workspace} {id : NodeId} {events : List Event}
    (h : w.store.value.node? id = none) (hevents : ∀ e ∈ events, ¬e.Brings id) :
    (w.run events).store.value.node? id = none := by
  rw [node?_run, h]
  induction events with
  | nil => rfl
  | cons e events ih =>
    rw [List.forall_mem_cons] at hevents
    rw [List.foldl_cons, Event.nodeAfter_none_of_not_brings hevents.1]
    exact ih hevents.2

namespace Store

theorem Reachable.run {w : Workspace} (h : Reachable w.store) (events : List Event) :
    Reachable (w.run events).store := by
  induction events generalizing w with
  | nil => exact h
  | cons e events ih => exact ih (.apply h e)

/-- Whatever loads, drops and events lead to is drawn with all of its nodes, and with those of its
links that have both ends. After the removal of a node no edge is drawn at it, whatever comes before
and after, while it stays absent, which it does until an event brings it back. -/
theorem drawn_of_reachable {s : Store} (h : s.Reachable) (readOnly : Bool) :
    s.value.Drawn readOnly (s.value.renderNodes readOnly) s.value.renderEdges ∧
      ∀ (session : Session) (id : NodeId) (later : List Event),
        let removed := ((⟨s, session⟩ : Workspace).apply (.nodeDeleted id)).1
        let g := (removed.run later).store.value
        ((∀ e ∈ later, ¬e.Brings id) → ¬g.Has id) ∧
          (¬g.Has id → ∀ e ∈ g.renderEdges, e.source ≠ id ∧ e.target ≠ id) := by
  refine ⟨h.consistent.drawn readOnly, ?_⟩
  intro session id later removed g
  refine ⟨fun hlater => ?_, fun habsent e he => ?_⟩
  · have hremoved : removed.store.value.node? id = none := by
      rw [Workspace.node?_apply]
      exact if_pos rfl
    rw [Graph.has_iff, Workspace.absent_run hremoved hlater]
    exact Bool.false_ne_true
  · have hreachable : Reachable (removed.run later).store := .run (.apply h _) later
    exact (hreachable.consistent.drawn readOnly).ne_of_absent habsent he

/-- A link to a node that is not there comes by an event, and is not drawn. When the node at the
other end is removed and links at it come and change, neither are they. -/
theorem drawn_of_reachable_dangling :
    let uuid (k : Fin 16) : Uuid := ⟨List.replicate 31 0 ++ [k], rfl⟩
    let link : Link := .between ⟨uuid 5⟩ ⟨uuid 1⟩ ⟨uuid 9⟩
    let loaded : Workspace := ⟨Store.empty.load (repeating (uuid 0) (uuid 1) (uuid 2)), .empty⟩
    let s := (loaded.apply (.linkCreated link)).1.store
    let later : List Event := [.linkUpdated { link with target := ⟨uuid 2⟩ },
      .linkCreated (.between ⟨uuid 6⟩ ⟨uuid 2⟩ ⟨uuid 1⟩)]
    let removed := ((⟨s, .empty⟩ : Workspace).apply (.nodeDeleted ⟨uuid 1⟩)).1
    let g := (removed.run later).store.value
    s.value.links.length = 2 ∧ s.value.renderEdges.length = 1 ∧ g.links.length = 2 ∧
      s.Reachable ∧ s.value.Drawn false (s.value.renderNodes false) s.value.renderEdges ∧
      ∀ e ∈ g.renderEdges, e.source ≠ ⟨uuid 1⟩ ∧ e.target ≠ ⟨uuid 1⟩ := by
  intro uuid link loaded s later removed g
  have hs : s.Reachable := .apply (w := loaded) (.load .empty _) _
  obtain ⟨hdrawn, hafter⟩ := drawn_of_reachable hs false
  obtain ⟨habsent, hnone⟩ := hafter .empty ⟨uuid 1⟩ later
  refine ⟨by decide +kernel, by decide +kernel, by decide +kernel, hs, hdrawn, hnone (habsent ?_)⟩
  simp [later, Event.Brings]

end Store

end WormholeMap

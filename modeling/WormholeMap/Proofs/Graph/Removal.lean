import WormholeMap.Deletion
import WormholeMap.Proofs.Graph.Table
import WormholeMap.Proofs.Replay

/-!
Deleting a selection. The plan asks for the unlocked nodes, and only for those links that none of
these nodes takes with it. What it asks for, once removed, leaves the same graph as the removal of
every unlocked selected node and of every selected link: all other nodes, and all other links that
are not at a removed node, in their order (`planDeletion_removes`).
-/

namespace WormholeMap

/-- The events by which the backend tells that a plan has been carried out. -/
def DeletionPlan.events (plan : DeletionPlan) : List Event :=
  plan.nodes.map .nodeDeleted ++ plan.links.map .linkDeleted

/-- The events that remove a selection, but for its locked nodes, one entity after another. -/
def removals (nodes : List Node) (links : List Link) : List Event :=
  (nodes.filter (!·.locked)).map (.nodeDeleted ·.id) ++ links.map (.linkDeleted ·.id)

/-- The link is at none of some nodes, unless at a locked one. -/
def Link.Outlasts (nodes : List Node) (l : Link) : Prop :=
  ∀ n ∈ nodes, n.locked = false → l.touches n.id = false

instance (nodes : List Node) (l : Link) : Decidable (l.Outlasts nodes) :=
  inferInstanceAs (Decidable (∀ n ∈ nodes, n.locked = false → l.touches n.id = false))

/-- What is left of a graph, in its order, when a selection is removed, but for its locked nodes. -/
structure Graph.Spared (g : Graph) (nodes : List Node) (links : List Link) (left : Graph) :
    Prop where
  nodes_sublist : left.nodes.Sublist g.nodes
  links_sublist : left.links.Sublist g.links
  node_iff : ∀ n ∈ g.nodes, n ∈ left.nodes ↔ ¬(n ∈ nodes ∧ n.locked = false)
  link_iff : ∀ l ∈ g.links, l ∈ left.links ↔ l ∉ links ∧ l.Outlasts nodes
  locked : ∀ n ∈ g.nodes, n.locked = true → n ∈ left.nodes

/-- A plan for a selection asks for its unlocked nodes, skips the locked ones, and leaves the same
graph as the removal of all that is selected and unlocked. -/
structure DeletionPlan.Removes (plan : DeletionPlan) (w : Workspace) (nodes : List Node)
    (links : List Link) : Prop where
  nodes_eq : plan.nodes = (nodes.filter (!·.locked)).map (·.id)
  skipped_eq : plan.skippedLocked = (nodes.filter (·.locked)).map (·.id)
  same_nodes : (w.run plan.events).store.value.nodes =
    (w.run (removals nodes links)).store.value.nodes
  same_links : (w.run plan.events).store.value.links =
    (w.run (removals nodes links)).store.value.links
  spared : w.store.value.Spared nodes links (w.run plan.events).store.value

/-! ### Removals one after another -/

namespace Workspace

variable (w : Workspace)

/-- Events that each remove the entries with a key remove those with any of the keys. -/
theorem run_map_filter {κ : Type} [DecidableEq κ] (entries : Workspace → List α)
    {event : κ → Event} {key : α → κ}
    (hstep : ∀ w k, entries (w.apply (event k)).1 = (entries w).filter (key · != k))
    (keys : List κ) :
    entries (w.run (keys.map event)) = (entries w).filter fun a => key a ∉ keys := by
  induction keys generalizing w with
  | nil => simp [run]
  | cons k keys ih =>
    have hrest := ih (w.apply (event k)).1
    rw [hstep, List.filter_filter] at hrest
    rw [List.map_cons, run, List.foldl_cons]
    refine hrest.trans (List.filter_congr fun a _ => ?_)
    by_cases hk : key a = k <;> simp [hk]

theorem nodes_run_nodeDeleted (ids : List NodeId) :
    (w.run (ids.map .nodeDeleted)).store.value.nodes =
      w.store.value.nodes.filter fun n => n.id ∉ ids := by
  refine w.run_map_filter (fun w => w.store.value.nodes) (fun w d => ?_) ids
  simp only [apply, nodes_write, Graph.nodes_removeNode]

theorem links_run_linkDeleted (ids : List LinkId) :
    (w.run (ids.map .linkDeleted)).store.value.links =
      w.store.value.links.filter fun l => l.id ∉ ids := by
  refine w.run_map_filter (fun w => w.store.value.links) (fun w d => ?_) ids
  simp only [apply, links_write, Graph.links_removeLink]

theorem nodes_run_linkDeleted (ids : List LinkId) :
    (w.run (ids.map .linkDeleted)).store.value.nodes = w.store.value.nodes := by
  induction ids generalizing w with
  | nil => rfl
  | cons d ids ih =>
    rw [List.map_cons, run, List.foldl_cons]
    refine (ih _).trans ?_
    simp only [apply, nodes_write, Graph.nodes_removeLink]

/-- Only a node that is present takes its links with it: one that comes again has done so before. -/
theorem links_run_nodeDeleted (ids : List NodeId) :
    (w.run (ids.map .nodeDeleted)).store.value.links = w.store.value.links.filter fun l =>
      ∀ d ∈ ids, (w.store.value.node? d).isSome → l.touches d = false := by
  induction ids generalizing w with
  | nil => simp [run]
  | cons d ids ih =>
    have hnode (id : NodeId) : (w.apply (.nodeDeleted d)).1.store.value.node? id =
        if d = id then none else w.store.value.node? id := node?_apply w (.nodeDeleted d) id
    have hstep : (w.apply (.nodeDeleted d)).1.store.value.links =
        w.store.value.links.filter fun l =>
          (w.store.value.node? d).isSome → l.touches d = false := by
      simp only [apply, links_write, Graph.links_removeNode]
      cases (w.store.value.node? d).isSome <;> simp
    have hrest := ih (w.apply (.nodeDeleted d)).1
    rw [hstep, List.filter_filter] at hrest
    rw [List.map_cons, run, List.foldl_cons]
    refine hrest.trans (List.filter_congr fun l _ => ?_)
    rw [← Bool.decide_and, decide_eq_decide, List.forall_mem_cons, and_comm]
    refine and_congr_right fun hfirst => forall₂_congr fun id _ => ?_
    rw [hnode]
    by_cases hid : d = id
    · subst hid
      simpa using hfirst
    · rw [if_neg hid]

/-- Nodes of the graph go with all links at them, and further links after them. -/
theorem nodes_run_deleted (ids : List NodeId) (dropped : List LinkId) :
    (w.run (ids.map .nodeDeleted ++ dropped.map .linkDeleted)).store.value.nodes =
      w.store.value.nodes.filter fun n => n.id ∉ ids := by
  rw [run_append, nodes_run_linkDeleted, nodes_run_nodeDeleted]

theorem links_run_deleted {ids : List NodeId}
    (h : ∀ d ∈ ids, ∃ n ∈ w.store.value.nodes, n.id = d) (dropped : List LinkId) :
    (w.run (ids.map .nodeDeleted ++ dropped.map .linkDeleted)).store.value.links =
      w.store.value.links.filter fun l => l.id ∉ dropped ∧ ∀ d ∈ ids, l.touches d = false := by
  have hpresent : ∀ d ∈ ids, (w.store.value.node? d).isSome := by
    intro d hd
    obtain ⟨n, hn, rfl⟩ := h d hd
    exact List.find?_isSome.mpr ⟨n, hn, beq_self_eq_true _⟩
  rw [run_append, links_run_linkDeleted, links_run_nodeDeleted, List.filter_filter]
  refine List.filter_congr fun l _ => ?_
  rw [← Bool.decide_and, decide_eq_decide]
  exact and_congr_right fun _ => forall₂_congr fun d hd => by simp [hpresent d hd]

end Workspace

/-! ### Plans -/

section

variable {nodes : List Node} {links : List Link} {l : Link}

theorem touches_none_iff :
    (∀ d ∈ (nodes.filter (!·.locked)).map (·.id), l.touches d = false) ↔ l.Outlasts nodes := by
  rw [List.forall_mem_map, List.forall_mem_filter]
  simp [Link.Outlasts]

/-- A plan by what is selected: there is none if all selected nodes are locked, and otherwise it
leaves out the links at the nodes that it asks for. -/
theorem planDeletion_eq (nodes : List Node) (links : List Link) :
    planDeletion nodes links =
      if nodes ≠ [] ∧ ∀ n ∈ nodes, n.locked = true then none
      else some {
        nodes := (nodes.filter (!·.locked)).map (·.id)
        links := (links.filter fun l => l.Outlasts nodes).map (·.id)
        skippedLocked := (nodes.filter (·.locked)).map (·.id) } := by
  have hnone : (nodes.filter (!·.locked)).isEmpty = true ↔ ∀ n ∈ nodes, n.locked = true := by
    simp [List.filter_eq_nil_iff]
  have hcancelled : ((nodes.filter (!·.locked)).isEmpty && !(nodes.filter (·.locked)).isEmpty) =
      true ↔ nodes ≠ [] ∧ ∀ n ∈ nodes, n.locked = true := by
    rw [Bool.and_eq_true, hnone, and_comm]
    refine and_congr_left fun hall => ?_
    rw [List.filter_eq_self.mpr hall]
    simp
  have hends (l : Link) : (!((nodes.filter (!·.locked)).map (·.id)).contains l.source &&
      !((nodes.filter (!·.locked)).map (·.id)).contains l.target) =
        decide (l.Outlasts nodes) := by
    rw [Bool.eq_iff_iff, decide_eq_true_iff, ← touches_none_iff]
    simp [Link.touches]
    grind
  unfold planDeletion
  simp only [hcancelled, hends]

theorem removals_eq (nodes : List Node) (links : List Link) :
    removals nodes links = ((nodes.filter (!·.locked)).map (·.id)).map .nodeDeleted ++
      (links.map (·.id)).map .linkDeleted := by
  rw [removals, List.map_map, List.map_map]
  rfl

variable {w : Workspace}

theorem present_of_unlocked (hnodes : nodes ⊆ w.store.value.nodes) :
    ∀ d ∈ (nodes.filter (!·.locked)).map (·.id), ∃ n ∈ w.store.value.nodes, n.id = d := by
  intro d hd
  obtain ⟨n, hn, rfl⟩ := List.mem_map.mp hd
  exact ⟨n, hnodes (List.mem_of_mem_filter hn), rfl⟩

/-- Without the unlocked ones of its nodes, and without some links, a graph is spared the removal of
a selection if those are the selected links that outlast the nodes. Others make no difference. -/
theorem spared_run (h : w.store.value.Consistent) (hnodes : nodes ⊆ w.store.value.nodes)
    {dropped : List LinkId}
    (hdropped : ∀ l ∈ w.store.value.links, l.Outlasts nodes → (l.id ∈ dropped ↔ l ∈ links)) :
    w.store.value.Spared nodes links
      (w.run (((nodes.filter (!·.locked)).map (·.id)).map .nodeDeleted ++
        dropped.map .linkDeleted)).store.value := by
  have hnode : ∀ n ∈ w.store.value.nodes,
      n.id ∈ (nodes.filter (!·.locked)).map (·.id) ↔ n ∈ nodes ∧ n.locked = false := by
    intro n hn
    have hunlocked : nodes.filter (!·.locked) ⊆ w.store.value.nodes :=
      List.Subset.trans (List.filter_subset_self _) hnodes
    rw [Graph.key_mem_map_iff_of_nodup h.nodes.nodup hunlocked hn, List.mem_filter,
      Bool.not_eq_true']
  have hnodes' := w.nodes_run_deleted ((nodes.filter (!·.locked)).map (·.id)) dropped
  have hlinks' := w.links_run_deleted (present_of_unlocked hnodes) dropped
  refine ⟨?_, ?_, fun n hn => ?_, fun l hl => ?_, fun n hn hlocked => ?_⟩
  · rw [hnodes']
    exact List.filter_sublist
  · rw [hlinks']
    exact List.filter_sublist
  · rw [hnodes', List.mem_filter, decide_eq_true_iff, hnode n hn]
    exact and_iff_right hn
  · rw [hlinks', List.mem_filter, decide_eq_true_iff, touches_none_iff, and_iff_right hl]
    exact and_congr_left fun hlasts => not_congr (hdropped l hl hlasts)
  · rw [hnodes', List.mem_filter, decide_eq_true_iff, hnode n hn, hlocked]
    exact ⟨hn, fun hgone => by cases hgone.2⟩

/-- What a plan asks for leaves the graph without the unlocked selected nodes, and without the
selected links and those at these nodes. -/
theorem removes_of_planDeletion (h : w.store.value.Consistent)
    (hnodes : nodes ⊆ w.store.value.nodes) (hlinks : links ⊆ w.store.value.links)
    {plan : DeletionPlan} (hplan : planDeletion nodes links = some plan) :
    plan.Removes w nodes links := by
  have hselected : ∀ l ∈ w.store.value.links, l.id ∈ links.map (·.id) ↔ l ∈ links :=
    fun l hl => Graph.key_mem_map_iff_of_nodup h.links.nodup hlinks hl
  -- A selected link that is left out of the plan goes with a node.
  have hplanned : ∀ l ∈ w.store.value.links, l.Outlasts nodes →
      (l.id ∈ (links.filter fun l => l.Outlasts nodes).map (·.id) ↔ l ∈ links) := by
    intro l hl hlasts
    have houtlasting : links.filter (fun l => l.Outlasts nodes) ⊆ w.store.value.links :=
      List.Subset.trans (List.filter_subset_self _) hlinks
    rw [Graph.key_mem_map_iff_of_nodup h.links.nodup houtlasting hl, List.mem_filter,
      decide_eq_true_iff]
    exact and_iff_left hlasts
  rw [planDeletion_eq] at hplan
  split at hplan
  · cases hplan
  cases hplan
  refine ⟨rfl, rfl, ?_, ?_, spared_run h hnodes hplanned⟩
  · rw [removals_eq, DeletionPlan.events, w.nodes_run_deleted, w.nodes_run_deleted]
  · have hpresent := present_of_unlocked hnodes
    rw [removals_eq, DeletionPlan.events, w.links_run_deleted hpresent,
      w.links_run_deleted hpresent]
    refine List.filter_congr fun l hl => ?_
    rw [decide_eq_decide, touches_none_iff]
    refine and_congr_left fun hlasts => not_congr ?_
    rw [hplanned l hl hlasts, hselected l hl]

/-- Deleting a selection of a graph is cancelled exactly if nodes are selected and all of them are
locked. Otherwise the plan asks for the unlocked ones in order, and what it asks for leaves the same
graph as the removal of all of them and of all selected links. -/
theorem planDeletion_removes (h : w.store.value.Consistent)
    (hnodes : nodes ⊆ w.store.value.nodes) (hlinks : links ⊆ w.store.value.links) :
    (planDeletion nodes links = none ↔ nodes ≠ [] ∧ ∀ n ∈ nodes, n.locked = true) ∧
      ∀ plan, planDeletion nodes links = some plan → plan.Removes w nodes links := by
  refine ⟨?_, fun plan hplan => removes_of_planDeletion h hnodes hlinks hplan⟩
  rw [planDeletion_eq]
  split
  · rename_i hlocked
    exact ⟨fun _ => hlocked, fun _ => rfl⟩
  · rename_i hfree
    exact ⟨nofun, fun hlocked => absurd hlocked hfree⟩

/-- A map of three nodes that are all linked with one another. The second one is locked, and linked
twice with the third. -/
def forked (uuid : Nat → Uuid) : MapDetail where
  map :=
    ⟨⟨uuid 0⟩, uuid 0, "m", none, false, false, .step, .lr, false, none, none, true, none, none⟩
  nodes := [.bare ⟨uuid 1⟩ 30000001 .origin,
    { Node.bare ⟨uuid 2⟩ 30000002 .origin with locked := true },
    .bare ⟨uuid 3⟩ 30000003 .origin]
  links := [.between ⟨uuid 4⟩ ⟨uuid 1⟩ ⟨uuid 2⟩, .between ⟨uuid 5⟩ ⟨uuid 2⟩ ⟨uuid 3⟩,
    .between ⟨uuid 6⟩ ⟨uuid 3⟩ ⟨uuid 1⟩, .between ⟨uuid 7⟩ ⟨uuid 2⟩ ⟨uuid 3⟩]

/-- A node and a link are selected twice, the locked node once, and a link that goes with a node. -/
theorem planDeletion_removes_twice :
    let uuid (k : Nat) : Uuid := ⟨List.replicate 31 0 ++ [Fin.ofNat 16 k], rfl⟩
    let w : Workspace := ⟨Store.empty.load (forked uuid), .empty⟩
    let nodes := (forked uuid).nodes.take 2 ++ (forked uuid).nodes.take 1
    let links := (forked uuid).links.take 2 ++ ((forked uuid).links.drop 1).take 1
    let plan : DeletionPlan := ⟨[⟨uuid 1⟩, ⟨uuid 1⟩], [⟨uuid 5⟩, ⟨uuid 5⟩], [⟨uuid 2⟩]⟩
    let left := (w.run plan.events).store.value
    w.store.value.Consistent ∧ nodes ⊆ w.store.value.nodes ∧ links ⊆ w.store.value.links ∧
      planDeletion nodes links = some plan ∧ plan.Removes w nodes links ∧
      left.nodes.map (·.id) = [⟨uuid 2⟩, ⟨uuid 3⟩] ∧ left.links.map (·.id) = [⟨uuid 7⟩] := by
  intro uuid w nodes links plan left
  have hconsistent : w.store.value.Consistent := (Store.Reachable.load .empty _).consistent
  have hnodes : nodes ⊆ w.store.value.nodes := by
    show nodes ⊆ (forked uuid).nodes
    exact List.append_subset.mpr ⟨List.take_subset _ _, List.take_subset _ _⟩
  have hlinks : links ⊆ w.store.value.links := by
    show links ⊆ (forked uuid).links
    exact List.append_subset.mpr ⟨List.take_subset _ _,
      List.Subset.trans (List.take_subset _ _) (List.drop_subset _ _)⟩
  have hplan : planDeletion nodes links = some plan := by decide +kernel
  exact ⟨hconsistent, hnodes, hlinks, hplan,
    (planDeletion_removes hconsistent hnodes hlinks).2 plan hplan, by decide +kernel,
    by decide +kernel⟩

end

end WormholeMap

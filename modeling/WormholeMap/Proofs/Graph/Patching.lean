import WormholeMap.Proofs.Graph.Table
import WormholeMap.Proofs.Map.Equality

/-!
What an event about a node or a link leaves alone. A new entry comes last, a known one is replaced
in its place, and a deletion takes out one entry, the one of a node together with the links at it.
All other nodes and links stay, with their values and in their order, and so do the metadata and the
display settings (`apply_patches`).
-/

namespace WormholeMap

variable {α κ : Type} {key : α → κ} {a : α} {k : κ} {before after : List α}

/-- An entry is created: it comes last, unless its key is known. -/
structure Created (key : α → κ) (a : α) (before after : List α) : Prop where
  known : key a ∈ before.map key → after = before
  unknown : key a ∉ before.map key → after = before ++ [a]

/-- An entry is updated: it takes the place of the one with its key, or comes last if there is none.
Where both are equal it makes no difference which of them is kept. -/
structure Updated [BEq α] (key : α → κ) (a : α) (before after : List α) : Prop where
  known : ∀ pre old post, before = pre ++ old :: post → key old = key a →
    ∃ new, Same new a ∧ after = pre ++ new :: post
  unknown : key a ∉ before.map key → after = before ++ [a]

/-- The entry with a key is deleted, if there is one. -/
structure Deleted (key : α → κ) (k : κ) (before after : List α) : Prop where
  known : ∀ pre old post, before = pre ++ old :: post → key old = k → after = pre ++ post
  unknown : k ∉ before.map key → after = before

namespace Event

/-- The event is about a node or a link as such. -/
def OfEntity : Event → Prop
  | nodeCreated _ | nodeUpdated _ | nodeDeleted _ => True
  | linkCreated _ | linkUpdated _ | linkDeleted _ => True
  | _ => False

/-- What the event says of the nodes. -/
def NodesAfter (before after : List Node) : Event → Prop
  | nodeCreated n => Created Node.id n before after
  | nodeUpdated n => Updated Node.id n before after
  | nodeDeleted d => Deleted Node.id d before after
  | _ => after = before

/-- What the event says of the links. The deletion of a node is one of the links at it only if the
node is there. -/
def LinksAfter (g : Graph) (after : List Link) : Event → Prop
  | linkCreated l => Created Link.id l g.links after
  | linkUpdated l => Updated Link.id l g.links after
  | linkDeleted d => Deleted Link.id d g.links after
  | nodeDeleted d =>
    (d ∈ g.nodes.map Node.id → after = g.links.filter fun l => l.source ≠ d ∧ l.target ≠ d) ∧
      (d ∉ g.nodes.map Node.id → after = g.links)
  | _ => after = g.links

/-- The event creates what is known, updates an entry to one that equals it, or deletes what is
unknown. -/
def Idle (g : Graph) : Event → Prop
  | nodeCreated n => n.id ∈ g.nodes.map Node.id
  | nodeUpdated n => ∃ old ∈ g.nodes, (old == n) = true
  | nodeDeleted d => d ∉ g.nodes.map Node.id
  | linkCreated l => l.id ∈ g.links.map Link.id
  | linkUpdated l => ∃ old ∈ g.links, (old == l) = true
  | linkDeleted d => d ∉ g.links.map Link.id
  | _ => False

def namesNode (id : NodeId) : Event → Bool
  | nodeCreated n | nodeUpdated n => n.id = id
  | nodeDeleted d => d = id
  | _ => false

/-- The event names the link, or deletes a node at one of its ends that is there. -/
def concernsLink (g : Graph) (l : Link) : Event → Bool
  | linkCreated m | linkUpdated m => m.id = l.id
  | linkDeleted d => d = l.id
  | nodeDeleted d => d ∈ g.nodes.map Node.id ∧ (l.source = d ∨ l.target = d)
  | _ => false

/-- An event patches a store: it does what it says to the entry that it names, and nothing else. -/
structure Patches (e : Event) (s s' : Store) : Prop where
  nodes : e.NodesAfter s.value.nodes s'.value.nodes
  links : e.LinksAfter s.value s'.value.links
  otherNodes : s'.value.nodes.filter (!e.namesNode ·.id) = s.value.nodes.filter (!e.namesNode ·.id)
  otherLinks : s'.value.links.filter (!e.concernsLink s.value ·) =
    s.value.links.filter (!e.concernsLink s.value ·)
  idle : e.Idle s.value → s' = s
  settings : s'.value.settings = s.value.settings

end Event

/-! ### Lists with one entry written -/

/-- With each key once, the other entries have other keys. -/
theorem keys_ne_of_nodup {pre post : List α} {old : α}
    (h : ((pre ++ old :: post).map key).Nodup) :
    (∀ b ∈ pre, key b ≠ key old) ∧ ∀ b ∈ post, key b ≠ key old := by
  rw [List.map_append, List.map_cons, List.nodup_append, List.nodup_cons] at h
  obtain ⟨-, ⟨hpost, -⟩, hpre⟩ := h
  constructor
  · intro b hb
    exact hpre _ (List.mem_map_of_mem hb) _ List.mem_cons_self
  · intro b hb hkey
    exact hpost (hkey ▸ List.mem_map_of_mem hb)

/-- A known key is that of an entry with others before and after it. -/
theorem exists_split_of_mem_keys (h : k ∈ before.map key) :
    ∃ pre old post, before = pre ++ old :: post ∧ key old = k := by
  obtain ⟨old, hold, rfl⟩ := List.mem_map.mp h
  obtain ⟨pre, post, rfl⟩ := List.append_of_mem hold
  exact ⟨pre, old, post, rfl, rfl⟩

section

variable [BEq κ] [LawfulBEq κ]

theorem find?_split {pre post : List α} {old : α} (h : ((pre ++ old :: post).map key).Nodup) :
    (pre ++ old :: post).find? (key · == key old) = some old :=
  (Graph.find?_eq_some_iff_of_nodup h).mpr ⟨by simp, rfl⟩

theorem upsert_split {pre post : List α} {old : α} (h : ∀ b ∈ pre, key b ≠ key a)
    (hold : key old = key a) : Graph.upsert key a (pre ++ old :: post) = pre ++ a :: post := by
  induction pre with
  | nil => simp [Graph.upsert, hold]
  | cons b pre ih =>
    rw [List.forall_mem_cons] at h
    simp [Graph.upsert, h.1, ih h.2]

theorem created_inserted (a : α) (before : List α) :
    Created key a before (Graph.inserted key a before) where
  known h := by
    cases hfind : before.find? (key · == key a) with
    | some old => exact Graph.inserted_of_some hfind
    | none => exact absurd h (Graph.notMem_of_find?_eq_none hfind)
  unknown h := Graph.inserted_of_none (Graph.find?_eq_none_of_notMem h)

theorem updated_put [BEq α] (h : (before.map key).Nodup) (a : α) :
    Updated key a before (Graph.put key a before) where
  known := by
    rintro pre old post rfl hkey
    have hfind := find?_split h
    rw [hkey] at hfind
    by_cases hsame : old == a
    · exact ⟨old, .inr hsame, Graph.put_of_beq hfind hsame⟩
    · refine ⟨a, .refl a, ?_⟩
      rw [Graph.put_of_not_beq hfind hsame]
      exact upsert_split (hkey ▸ (keys_ne_of_nodup h).1) hkey
  unknown h := Graph.put_of_none (Graph.find?_eq_none_of_notMem h)

theorem deleted_filter (h : (before.map key).Nodup) (k : κ) :
    Deleted key k before (before.filter (key · != k)) where
  known := by
    rintro pre old post rfl rfl
    obtain ⟨hpre, hpost⟩ := keys_ne_of_nodup h
    rw [List.filter_append, List.filter_cons_of_neg (by simp),
      List.filter_eq_self.mpr fun b hb => bne_iff_ne.mpr (hpre b hb),
      List.filter_eq_self.mpr fun b hb => bne_iff_ne.mpr (hpost b hb)]
  unknown h := Graph.filter_ne_of_find?_eq_none (Graph.find?_eq_none_of_notMem h)

end

/-! ### The other entries -/

theorem Created.others (h : Created key a before after) {p : α → Bool}
    (hp : ∀ b, key b = key a → p b = false) : after.filter p = before.filter p := by
  by_cases hknown : key a ∈ before.map key
  · rw [h.known hknown]
  · rw [h.unknown hknown, List.filter_append]
    simp [hp a rfl]

theorem Updated.others [BEq α] (h : Updated key a before after)
    (hkey : ∀ b, Same b a → key b = key a) {p : α → Bool} (hp : ∀ b, key b = key a → p b = false) :
    after.filter p = before.filter p := by
  by_cases hknown : key a ∈ before.map key
  · obtain ⟨pre, old, post, rfl, hold⟩ := exists_split_of_mem_keys hknown
    obtain ⟨new, hnew, rfl⟩ := h.known pre old post rfl hold
    simp [hp old hold, hp new (hkey new hnew)]
  · rw [h.unknown hknown, List.filter_append]
    simp [hp a rfl]

theorem Deleted.others (h : Deleted key k before after) {p : α → Bool}
    (hp : ∀ b, key b = k → p b = false) : after.filter p = before.filter p := by
  by_cases hknown : k ∈ before.map key
  · obtain ⟨pre, old, post, rfl, hold⟩ := exists_split_of_mem_keys hknown
    rw [h.known pre old post rfl hold]
    simp [hp old hold]
  · rw [h.unknown hknown]

theorem Node.id_eq_of_same {n m : Node} (h : Same n m) : n.id = m.id := by
  rcases h with rfl | h
  · rfl
  · exact ((Node.beq_iff n m).mp h).1

theorem Link.id_eq_of_same {l m : Link} (h : Same l m) : l.id = m.id := by
  rcases h with rfl | h
  · rfl
  · exact ((Link.beq_iff l m).mp h).1

/-! ### Events -/

namespace Event

variable {e : Event}

theorem others_of_nodesAfter {before after : List Node} (h : e.NodesAfter before after) :
    after.filter (!e.namesNode ·.id) = before.filter (!e.namesNode ·.id) := by
  cases e with
  | nodeCreated n =>
    exact Created.others h fun m hm => by simp [namesNode, hm]
  | nodeUpdated n =>
    exact Updated.others h (fun _ => Node.id_eq_of_same) fun m hm => by simp [namesNode, hm]
  | nodeDeleted d =>
    exact Deleted.others h fun m hm => by simp [namesNode, hm]
  | _ => rw [show after = before from h]

theorem others_of_linksAfter {g : Graph} {after : List Link} (h : e.LinksAfter g after) :
    after.filter (!e.concernsLink g ·) = g.links.filter (!e.concernsLink g ·) := by
  cases e with
  | linkCreated l =>
    exact Created.others h fun m hm => by simp [concernsLink, hm]
  | linkUpdated l =>
    exact Updated.others h (fun _ => Link.id_eq_of_same) fun m hm => by simp [concernsLink, hm]
  | linkDeleted d =>
    exact Deleted.others h fun m hm => by simp [concernsLink, hm]
  | nodeDeleted d =>
    by_cases hd : d ∈ g.nodes.map Node.id
    · -- The links at the node are gone, and they are the ones that are left out.
      rw [h.1 hd, List.filter_filter]
      refine List.filter_congr fun l _ => ?_
      simp only [concernsLink, hd, true_and]
      by_cases hs : l.source = d <;> by_cases ht : l.target = d <;> simp [hs, ht]
    · rw [h.2 hd]
  | _ => rw [show after = g.links from h]

end Event

namespace Workspace

variable {w : Workspace} {e : Event}

theorem store_write_of_none {f : Graph → Option Graph} (h : f w.store.value = none) :
    (w.write f).store = w.store := by
  rw [write, Store.modify, h]
  rfl

theorem nodesAfter_apply (h : w.store.Reachable) (he : e.OfEntity) :
    e.NodesAfter w.store.value.nodes (w.apply e).1.store.value.nodes := by
  cases e with
  | nodeCreated n =>
    simp only [apply, nodes_write, Graph.nodes_insertNode]
    exact created_inserted n _
  | nodeUpdated n =>
    simp only [apply, nodes_write, Graph.nodes_replaceNode]
    exact updated_put h.nodup_nodes n
  | nodeDeleted d =>
    simp only [apply, nodes_write, Graph.nodes_removeNode]
    exact deleted_filter h.nodup_nodes d
  | linkCreated l => simp only [Event.NodesAfter, apply, nodes_write, Graph.nodes_insertLink]
  | linkUpdated l => simp only [Event.NodesAfter, apply, nodes_write, Graph.nodes_replaceLink]
  | linkDeleted d => simp only [Event.NodesAfter, apply, nodes_write, Graph.nodes_removeLink]
  | _ => exact he.elim

theorem linksAfter_apply (h : w.store.Reachable) (he : e.OfEntity) :
    e.LinksAfter w.store.value (w.apply e).1.store.value.links := by
  cases e with
  | linkCreated l =>
    simp only [apply, links_write, Graph.links_insertLink]
    exact created_inserted l _
  | linkUpdated l =>
    simp only [apply, links_write, Graph.links_replaceLink]
    exact updated_put h.nodup_links l
  | linkDeleted d =>
    simp only [apply, links_write, Graph.links_removeLink]
    exact deleted_filter h.nodup_links d
  | nodeDeleted d =>
    simp only [apply, links_write, Graph.links_removeNode]
    constructor
    · intro hd
      have hsome : (w.store.value.node? d).isSome := by simpa [Graph.node?] using hd
      rw [if_pos hsome]
      refine List.filter_congr fun l _ => ?_
      rw [Bool.eq_iff_iff]
      simp [Link.touches]
    · intro hd
      have hnone : w.store.value.node? d = none := Graph.find?_eq_none_of_notMem hd
      simp [hnone]
  | nodeCreated n => simp only [Event.LinksAfter, apply, links_write, Graph.links_insertNode]
  | nodeUpdated n => simp only [Event.LinksAfter, apply, links_write, Graph.links_replaceNode]
  | _ => exact he.elim

/-- What is created is there already, what is deleted is not, or an update changes nothing. -/
theorem store_apply_of_idle (h : w.store.Reachable) (hidle : e.Idle w.store.value) :
    (w.apply e).1.store = w.store := by
  have hnode {n : Node} (hn : n ∈ w.store.value.nodes) : w.store.value.node? n.id = some n :=
    (Graph.find?_eq_some_iff_of_nodup h.nodup_nodes).mpr ⟨hn, rfl⟩
  have hlink {l : Link} (hl : l ∈ w.store.value.links) : w.store.value.link? l.id = some l :=
    (Graph.find?_eq_some_iff_of_nodup h.nodup_links).mpr ⟨hl, rfl⟩
  -- In each case the write finds nothing to do, and then nothing is published.
  cases e with
  | nodeCreated n =>
    obtain ⟨old, hold, hid⟩ := List.mem_map.mp hidle
    have hfind : w.store.value.node? n.id = some old := hid ▸ hnode hold
    exact store_write_of_none (by rw [Graph.insertNode, hfind])
  | nodeUpdated n =>
    obtain ⟨old, hold, hsame⟩ := hidle
    have hid : old.id = n.id := Node.id_eq_of_same (.inr hsame)
    have hfind : w.store.value.node? n.id = some old := hid ▸ hnode hold
    exact store_write_of_none (by simp [Graph.replaceNode, hfind, hsame])
  | nodeDeleted d =>
    have hnone : w.store.value.node? d = none := Graph.find?_eq_none_of_notMem hidle
    exact store_write_of_none (w := ⟨w.store, w.session.deselect d⟩)
      (by rw [Graph.removeNode, hnone])
  | linkCreated l =>
    obtain ⟨old, hold, hid⟩ := List.mem_map.mp hidle
    have hfind : w.store.value.link? l.id = some old := hid ▸ hlink hold
    exact store_write_of_none (by rw [Graph.insertLink, hfind])
  | linkUpdated l =>
    obtain ⟨old, hold, hsame⟩ := hidle
    have hid : old.id = l.id := Link.id_eq_of_same (.inr hsame)
    have hfind : w.store.value.link? l.id = some old := hid ▸ hlink hold
    exact store_write_of_none (by simp [Graph.replaceLink, hfind, hsame])
  | linkDeleted d =>
    have hnone : w.store.value.link? d = none := Graph.find?_eq_none_of_notMem hidle
    exact store_write_of_none (by rw [Graph.removeLink, hnone])
  | _ => exact hidle.elim

/-- An event about a node or a link does what it says to the entry that it names. All other entries
stay, with their values and in their order, and so do the metadata and the display settings. Where
there is nothing to do, the store stays as it is. -/
theorem apply_patches (h : w.store.Reachable) (he : e.OfEntity) :
    e.Patches w.store (w.apply e).1.store where
  nodes := nodesAfter_apply h he
  links := linksAfter_apply h he
  otherNodes := Event.others_of_nodesAfter (nodesAfter_apply h he)
  otherLinks := Event.others_of_linksAfter (linksAfter_apply h he)
  idle := store_apply_of_idle h
  settings := by
    rcases settings_apply w e with hkept | ⟨m, rfl, -⟩
    · exact hkept
    · exact he.elim

/-- A link has been moved from a node that is then deleted: it stays where it was moved to. -/
theorem apply_patches_moved :
    let uuid (k : Fin 16) : Uuid := ⟨List.replicate 31 0 ++ [k], rfl⟩
    let detail := Store.repeating (uuid 0) (uuid 1) (uuid 2)
    let loaded : Workspace := ⟨Store.empty.load detail, .empty⟩
    let moved : Link := .between ⟨uuid 0⟩ ⟨uuid 2⟩ ⟨uuid 2⟩
    let w := (loaded.apply (.linkUpdated moved)).1
    let e : Event := .nodeDeleted ⟨uuid 1⟩
    let s := (w.apply e).1.store
    loaded.store.value.links.map (·.source) = [⟨uuid 1⟩] ∧ w.store.Reachable ∧ e.OfEntity ∧
      s.value.nodes.map (·.id) = [⟨uuid 2⟩] ∧ s.value.links.map (·.source) = [⟨uuid 2⟩] ∧
      e.Patches w.store s := by
  intro uuid detail loaded moved w e s
  have hloaded : loaded.store.Reachable := .load .empty _
  have hw : w.store.Reachable := .apply hloaded _
  exact ⟨rfl, hw, trivial, rfl, rfl, apply_patches hw trivial⟩

end Workspace

end WormholeMap

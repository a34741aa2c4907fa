import WormholeMap.Proofs.Graph.Settings
import Mathlib.Data.Set.Card

/-!
The store as tables of nodes and links. In every store that loads, drops and events lead to, no id
occurs twice, what is found under an id is the entry with it, the place of an id is that of its
entry, and the display settings are those of the metadata (`consistent_of_reachable`). The entries
of a load are in the order in which their ids occur first, each id with its last entry.
-/

namespace WormholeMap

/-- Entries with keys, in order, and what is looked up about them: the entry and the place of a key,
and the number of entries. -/
structure Table {κ : Type} (key : α → κ) (entries : List α) (find : κ → Option α)
    (place : κ → Option Nat) (count : Nat) : Prop where
  nodup : (entries.map key).Nodup
  find_iff : ∀ k a, find k = some a ↔ a ∈ entries ∧ key a = k
  place_iff : ∀ k i, place k = some i ↔ ∃ a, entries[i]? = some a ∧ key a = k
  place_none : ∀ k, place k = none ↔ k ∉ entries.map key
  count_eq : count = entries.length
  count_keys : count = {k | (find k).isSome}.ncard

/-- A list as the entries of another, each key where it is first, with the last entry that has
it. -/
structure Collected {κ : Type} [DecidableEq κ] (key : α → κ) (given entries : List α)
    (find : κ → Option α) : Prop where
  order : entries.map key = (given.map key).eraseDups
  last : ∀ k, find k = given.reverse.find? (key · == k)

/-- The lookups in a graph fit its nodes and links, and its display settings fit its metadata. -/
structure Graph.Consistent (g : Graph) : Prop where
  nodes : Table Node.id g.nodes g.node? g.nodeIndex? g.nodeCount
  links : Table Link.id g.links g.link? g.linkIndex? g.linkCount
  displayed : g.Displayed

/-- Stores that loads, drops and events lead to. The session beside the store may be any. -/
inductive Store.Reachable : Store → Prop
  | empty : Reachable .empty
  | load {s : Store} (h : Reachable s) (detail : MapDetail) : Reachable (s.load detail)
  | clear {s : Store} (h : Reachable s) : Reachable s.clear
  | apply {w : Workspace} (h : Reachable w.store) (e : Event) : Reachable (w.apply e).1.store

namespace Table

variable {κ : Type} {key : α → κ} {entries : List α}

theorem ncard_keys [BEq κ] [LawfulBEq κ] (h : (entries.map key).Nodup) :
    {k | (entries.find? (key · == k)).isSome}.ncard = entries.length := by
  classical
  have hkeys :
      {k | (entries.find? (key · == k)).isSome} = ((entries.map key).toFinset : Set κ) := by
    ext k
    simp
  rw [hkeys, Set.ncard_coe_finset, List.toFinset_card_of_nodup h, List.length_map]

/-- A list with each key once is a table by what is found in it. -/
theorem of_nodup [BEq κ] [LawfulBEq κ] (h : (entries.map key).Nodup) :
    Table key entries (fun k => entries.find? (key · == k))
      (fun k => entries.findIdx? (key · == k)) entries.length where
  nodup := h
  find_iff k a := Graph.find?_eq_some_iff_of_nodup h
  place_iff k i := Graph.findIdx?_eq_some_iff_of_nodup h
  place_none k := by simp [List.findIdx?_eq_none_iff]
  count_eq := rfl
  count_keys := (ncard_keys h).symm

end Table

namespace Store

theorem Reachable.nodup_nodes {s : Store} (h : s.Reachable) :
    (s.value.nodes.map Node.id).Nodup := by
  induction h with
  | empty => exact List.nodup_nil
  | load _ detail => exact Graph.nodup_collect
  | clear _ => exact List.nodup_nil
  | @apply w _ e ih => exact Workspace.nodup_nodes_apply w ih e

theorem Reachable.nodup_links {s : Store} (h : s.Reachable) :
    (s.value.links.map Link.id).Nodup := by
  induction h with
  | empty => exact List.nodup_nil
  | load _ detail => exact Graph.nodup_collect
  | clear _ => exact List.nodup_nil
  | @apply w _ e ih => exact Workspace.nodup_links_apply w ih e

theorem Reachable.displayed {s : Store} (h : s.Reachable) : s.value.Displayed := by
  induction h with
  | empty => rfl
  | load _ detail => rfl
  | clear _ => rfl
  | apply _ e ih => exact Workspace.displayed_apply ih e

theorem Reachable.consistent {s : Store} (h : s.Reachable) : s.value.Consistent where
  nodes := Table.of_nodup h.nodup_nodes
  links := Table.of_nodup h.nodup_links
  displayed := h.displayed

/-- Whatever loads, drops and events lead to, the lookups in a store fit its nodes and links, and
its display settings fit its metadata. A load collects the nodes and the links of its map. -/
theorem consistent_of_reachable {s : Store} (h : s.Reachable) :
    s.value.Consistent ∧ ∀ detail, let loaded := (s.load detail).value
      Collected Node.id detail.nodes loaded.nodes loaded.node? ∧
        Collected Link.id detail.links loaded.links loaded.link? := by
  refine ⟨h.consistent, fun detail => ⟨?_, ?_⟩⟩
  · exact ⟨Graph.map_key_collect, fun k => Graph.find?_collect⟩
  · exact ⟨Graph.map_key_collect, fun k => Graph.find?_collect⟩

/-- A map whose first node is listed again after its second. -/
def repeating (map first second : Uuid) : MapDetail where
  map := ⟨⟨map⟩, map, "m", none, false, false, .step, .lr, false, some 80.0, none, true, none, none⟩
  nodes := [.bare ⟨first⟩ 30000001 .origin, .bare ⟨second⟩ 30000002 .origin,
    .bare ⟨first⟩ 30000003 .origin]
  links := [.between ⟨map⟩ ⟨first⟩ ⟨second⟩]

/-- A node is listed twice in a load and another one is removed. -/
theorem consistent_of_reachable_repeating :
    let uuid (k : Fin 16) : Uuid := ⟨List.replicate 31 0 ++ [k], rfl⟩
    let detail := repeating (uuid 0) (uuid 1) (uuid 2)
    let w : Workspace := ⟨Store.empty.load detail, .empty⟩
    let s := (w.apply (.nodeDeleted ⟨uuid 2⟩)).1.store
    w.store.value.nodes.map (·.systemId) = [30000003, 30000002] ∧
      s.value.nodes.map (·.systemId) = [30000003] ∧ s.value.links.length = 0 ∧ s.Reachable ∧
      (s.value.Consistent ∧ ∀ detail, let loaded := (s.load detail).value
        Collected Node.id detail.nodes loaded.nodes loaded.node? ∧
          Collected Link.id detail.links loaded.links loaded.link?) := by
  intro uuid detail w s
  have hw : Reachable w.store := .load .empty detail
  have hs : s.Reachable := .apply hw _
  exact ⟨rfl, rfl, rfl, hs, consistent_of_reachable hs⟩

end Store

end WormholeMap

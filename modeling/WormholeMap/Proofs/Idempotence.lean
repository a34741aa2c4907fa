import WormholeMap.Proofs.Graph.Entity
import WormholeMap.Proofs.Map.Equality

/-!
An event that arrives again changes nothing more. Each write of the graph finds its work done after
it has been done once. For the departure of a character this takes that no node lists a name twice,
which holds in every workspace that loads and events without such nodes lead to (`Reachable`).
-/

namespace WormholeMap

namespace Graph

/-! ### Writes that find their work done -/

section

variable {g g' : Graph} {r : Nat}

theorem node?_withRevision (id : NodeId) : node? { g with revision := r } id = g.node? id := rfl

theorem link?_withRevision (id : LinkId) : link? { g with revision := r } id = g.link? id := rfl

theorem insertNode_again {n : Node} (h : g.insertNode n = some g') :
    insertNode { g' with revision := r } n = none := by
  have hfind := node?_insertNode (g := g) (n := n) n.id
  rw [h, Option.getD_some, if_pos rfl] at hfind
  cases hold : g.node? n.id <;> simp [insertNode, node?_withRevision, hfind, hold]

theorem replaceNode_again {n : Node} (hn : (n == n) = true) (h : g.replaceNode n = some g') :
    replaceNode { g' with revision := r } n = none := by
  have hfind := node?_replaceNode (g := g) (n := n) n.id
  rw [h, Option.getD_some, if_pos rfl] at hfind
  simp [replaceNode, node?_withRevision, hfind, replaced_beq hn]

theorem removeNode_again {id : NodeId} (h : g.removeNode id = some g') :
    removeNode { g' with revision := r } id = none := by
  have hfind := node?_removeNode (g := g) id id
  rw [h, Option.getD_some, if_pos rfl] at hfind
  rw [removeNode, node?_withRevision, hfind]

theorem insertLink_again {l : Link} (h : g.insertLink l = some g') :
    insertLink { g' with revision := r } l = none := by
  have hfind := link?_insertLink (g := g) (l := l) l.id
  rw [h, Option.getD_some, if_pos rfl] at hfind
  cases hold : g.link? l.id <;> simp [insertLink, link?_withRevision, hfind, hold]

theorem replaceLink_again {l : Link} (hl : (l == l) = true) (h : g.replaceLink l = some g') :
    replaceLink { g' with revision := r } l = none := by
  have hfind := link?_replaceLink (g := g) (l := l) l.id
  rw [h, Option.getD_some, if_pos rfl] at hfind
  simp [replaceLink, link?_withRevision, hfind, replaced_beq hl]

theorem removeLink_again {id : LinkId} (h : g.removeLink id = some g') :
    removeLink { g' with revision := r } id = none := by
  have hfind := link?_removeLink (g := g) id id
  rw [h, Option.getD_some, if_pos rfl] at hfind
  rw [removeLink, link?_withRevision, hfind]

theorem setMap_again {m : MapInfo} (hm : (m == m) = true) (h : g.setMap m = some g') :
    setMap { g' with revision := r } m = none := by
  unfold setMap at h
  split at h
  · cases h
  · cases h
    simp [setMap, hm]

/-! ### Occupants -/

theorem changeOccupants_left (o : Occupant) (occupants : List Occupant) :
    changeOccupants .left o occupants = (occupants.find? (·.name == o.name)).map fun _ =>
      occupants.eraseP (·.name == o.name) := by
  unfold changeOccupants
  cases occupants.find? (·.name == o.name) <;> rfl

theorem changeOccupants_of_ne_left {change : PresenceChange} (h : change ≠ .left) (o : Occupant)
    (occupants : List Occupant) :
    changeOccupants change o occupants =
      if occupants.find? (·.name == o.name) = some o then none
      else some (put Occupant.name o occupants) := by
  unfold changeOccupants put
  cases change with
  | left => exact absurd rfl h
  | arrived | updated =>
    cases hfind : occupants.find? (·.name == o.name) with
    | none => simp
    | some old =>
      simp only [beq_iff_eq, Option.some.injEq]
      split <;> rfl

section

variable {change : PresenceChange} {o : Occupant} {occupants after : List Occupant}

theorem nodup_changeOccupants (h : (occupants.map Occupant.name).Nodup)
    (hafter : changeOccupants change o occupants = some after) :
    (after.map Occupant.name).Nodup := by
  by_cases hchange : change = .left
  · subst hchange
    rw [changeOccupants_left] at hafter
    obtain ⟨_, _, rfl⟩ := Option.map_eq_some_iff.mp hafter
    exact h.sublist (List.eraseP_sublist.map _)
  · rw [changeOccupants_of_ne_left hchange] at hafter
    split at hafter
    · cases hafter
    · cases hafter
      exact nodup_put h

theorem changeOccupants_again (h : (occupants.map Occupant.name).Nodup)
    (hafter : changeOccupants change o occupants = some after) :
    changeOccupants change o after = none := by
  by_cases hchange : change = .left
  · subst hchange
    rw [changeOccupants_left] at hafter ⊢
    obtain ⟨_, _, rfl⟩ := Option.map_eq_some_iff.mp hafter
    rw [find?_eraseP_of_nodup h, Option.map_none]
  · rw [changeOccupants_of_ne_left hchange] at hafter ⊢
    split at hafter
    · cases hafter
    · cases hafter
      have hreplaced := replaced_beq (beq_self_eq_true o) (occupants.find? (·.name == o.name))
      rw [find?_put, if_pos (beq_self_eq_true o.name), eq_of_beq hreplaced]
      exact if_pos rfl

end

/-- The node that a change to the presence of a character leads to. -/
theorem setPresence_eq_some {id : NodeId} {change : PresenceChange} {o : Occupant}
    (h : g.setPresence id change o = some g') :
    ∃ n occupants, g.node? id = some n ∧ changeOccupants change o n.occupants = some occupants ∧
      g' = { g with nodes := upsert Node.id { n with occupants } g.nodes } := by
  unfold setPresence at h
  split at h
  · cases h
  · rename_i n hn
    obtain ⟨occupants, hoccupants, rfl⟩ := Option.map_eq_some_iff.mp h
    exact ⟨n, occupants, hn, hoccupants, rfl⟩

theorem setPresence_again {id : NodeId} {change : PresenceChange} {o : Occupant}
    (hg : ∀ n ∈ g.nodes, (n.occupants.map Occupant.name).Nodup)
    (h : g.setPresence id change o = some g') :
    setPresence { g' with revision := r } id change o = none := by
  obtain ⟨n, occupants, hn, hoccupants, rfl⟩ := setPresence_eq_some h
  have hid : n.id = id := key_of_find? hn
  have hnames := hg n (List.mem_of_find?_eq_some hn)
  have hagain := changeOccupants_again hnames hoccupants
  simp [setPresence, node?, find?_upsert, hid, hagain]

end

end Graph

/-! ### Names of occupants -/

/-- No occupant of the node is listed twice. -/
def Node.Distinct (n : Node) : Prop := (n.occupants.map Occupant.name).Nodup

/-- No node of the graph lists an occupant twice. -/
def Graph.Distinct (g : Graph) : Prop := ∀ n ∈ g.nodes, n.Distinct

/-- No node that the event carries lists an occupant twice. -/
def Event.Distinct : Event → Prop
  | nodeCreated n | nodeUpdated n => n.Distinct
  | _ => True

/-- No number that the event carries is NaN. -/
def Event.NaNFree : Event → Prop
  | nodeCreated n | nodeUpdated n => n.NaNFree
  | linkCreated l | linkUpdated l => l.NaNFree
  | mapUpdated m => m.NaNFree
  | _ => True

namespace Graph

theorem Distinct.ofDetail {detail : MapDetail} (h : ∀ n ∈ detail.nodes, n.Distinct) (r : Nat) :
    (ofDetail detail r).Distinct :=
  fun n hn => h n (mem_collect hn)

theorem distinct_withPresence {n : Node} (h : n.Distinct) (change : PresenceChange)
    (o : Occupant) : (n.withPresence change o).Distinct := by
  cases hchange : changeOccupants change o n.occupants with
  | none => simpa [Node.Distinct, Node.withPresence, hchange] using h
  | some occupants =>
    have hafter := nodup_changeOccupants h hchange
    simpa [Node.Distinct, Node.withPresence, hchange] using hafter

end Graph

namespace Workspace

theorem distinct_apply {w : Workspace} (h : w.store.value.Distinct) {e : Event} (he : e.Distinct) :
    (w.apply e).1.store.value.Distinct := by
  intro n hn
  rcases mem_nodes_apply w hn with hn | rfl | rfl | ⟨old, hold, change, o, rfl⟩
  · exact h n hn
  · exact he
  · exact he
  · exact Graph.distinct_withPresence (h old hold) change o

/-- Workspaces that loads, drops and events lead to, when no node that arrives lists an occupant
twice. The session may change in any way. -/
inductive Reachable : Workspace → Prop
  | empty : Reachable .empty
  | load {w : Workspace} {detail : MapDetail} (h : Reachable w)
    (hd : ∀ n ∈ detail.nodes, n.Distinct) : Reachable { w with store := w.store.load detail }
  | clear {w : Workspace} (h : Reachable w) : Reachable { w with store := w.store.clear }
  | apply {w : Workspace} {e : Event} (h : Reachable w) (he : e.Distinct) :
    Reachable (w.apply e).1
  | session {w : Workspace} (h : Reachable w) (session : Session) : Reachable { w with session }

theorem Reachable.distinct {w : Workspace} (h : Reachable w) : w.store.value.Distinct := by
  induction h with
  | empty => exact fun n hn => absurd hn List.not_mem_nil
  | load _ hd => exact Graph.Distinct.ofDetail hd _
  | clear _ => exact fun n hn => absurd hn List.not_mem_nil
  | apply _ he ih => exact distinct_apply ih he
  | session _ _ ih => exact ih

/-! ### Events that arrive again -/

theorem write_again {w : Workspace} {f : Graph → Option Graph}
    (h : ∀ g, f w.store.value = some g → ∀ r, f { g with revision := r } = none) :
    (w.write f).write f = w.write f := by
  cases hf : f w.store.value with
  | none => simp [write, Store.modify, Published.publish?, hf]
  | some g =>
    have hagain := h g hf (w.store.value.revision + 1)
    simp [write, Store.modify, Published.publish?, Published.publish, hf, hagain]

/-- Metadata that has been taken up keeps the access it has. -/
theorem keepAccess_again (w : Workspace) (m : MapInfo) :
    (w.write (·.setMap (w.keepAccess m))).keepAccess m = w.keepAccess m := by
  by_cases hsame : w.store.value.map == some (w.keepAccess m)
  · have hmap : (w.write (·.setMap (w.keepAccess m))).store.value.map = w.store.value.map := by
      simp [write, Store.modify, Published.publish?, Graph.setMap, hsame]
    rw [keepAccess, hmap]
    rfl
  · have hmap : (w.write (·.setMap (w.keepAccess m))).store.value.map = some (w.keepAccess m) := by
      simp [write, Store.modify, Published.publish?, Published.publish, Graph.setMap, hsame]
    rw [keepAccess, hmap, keepAccess]
    cases w.store.value.map <;> rfl

theorem nanFree_keepAccess {m : MapInfo} (h : m.NaNFree) (w : Workspace) :
    (w.keepAccess m).NaNFree := by
  unfold keepAccess
  split
  · exact ⟨h.nodeSep, h.rankSep⟩
  · exact h

theorem deselect_again (s : Session) (id : NodeId) :
    (s.deselect id).deselect id = s.deselect id := by
  by_cases h : s.value.selected = some id <;> simp [Session.deselect, h, Published.publish]

theorem outcome_apply (w w' : Workspace) (e : Event) : (w.apply e).2 = (w'.apply e).2 := by
  cases e <;> rfl

/-- An event that moves no counter leaves everything as it has made it. -/
theorem apply_again_eq {w : Workspace} (hw : w.store.value.Distinct) {e : Event} (he : e.NaNFree)
    (hsignatures : ∀ c, e ≠ .signaturesChanged c) (hnotes : ∀ c, e ≠ .notesChanged c) :
    ((w.apply e).1.apply e).1 = (w.apply e).1 := by
  cases e with
  | nodeCreated n => exact write_again fun g hg r => Graph.insertNode_again hg
  | nodeUpdated n => exact write_again fun g hg r => Graph.replaceNode_again (Node.beq_self he) hg
  | nodeDeleted id =>
    have hsession : ({ w with session := w.session.deselect id }.write
        (·.removeNode id)).session.deselect id = w.session.deselect id :=
      deselect_again w.session id
    simp only [apply]
    rw [hsession]
    exact write_again fun g hg r => Graph.removeNode_again hg
  | linkCreated l => exact write_again fun g hg r => Graph.insertLink_again hg
  | linkUpdated l => exact write_again fun g hg r => Graph.replaceLink_again (Link.beq_self he) hg
  | linkDeleted id => exact write_again fun g hg r => Graph.removeLink_again hg
  | mapUpdated m =>
    have hself := MapInfo.beq_self (nanFree_keepAccess he w)
    simp only [apply]
    rw [keepAccess_again]
    exact write_again fun g hg r => Graph.setMap_again hself hg
  | presence id change o => exact write_again fun g hg r => Graph.setPresence_again hw hg
  | signaturesChanged c => exact absurd rfl (hsignatures c)
  | notesChanged c => exact absurd rfl (hnotes c)
  | _ => rfl

/-- An event that arrives again has the same outcome and changes nothing more, nor does it notify a
subscriber of the store. Only the counters of signatures and of notes move again. -/
theorem apply_again {w : Workspace} (hw : w.Reachable) {e : Event} (he : e.NaNFree) :
    let once := w.apply e
    let twice := once.1.apply e
    twice.2 = once.2 ∧ twice.1.store = once.1.store ∧
      twice.1.session.value.selected = once.1.session.value.selected ∧
      (twice.1.session = once.1.session ∨
        (∃ c, e = .signaturesChanged c ∧
          twice.1.session = once.1.session.bumpSignatures) ∨
        (∃ c, e = .notesChanged c ∧ twice.1.session = once.1.session.bumpNotes)) := by
  intro once twice
  refine ⟨outcome_apply _ _ e, ?_⟩
  by_cases hsignatures : ∃ c, e = .signaturesChanged c
  · obtain ⟨c, rfl⟩ := hsignatures
    exact ⟨rfl, rfl, .inr (.inl ⟨c, rfl, rfl⟩)⟩
  by_cases hnotes : ∃ c, e = .notesChanged c
  · obtain ⟨c, rfl⟩ := hnotes
    exact ⟨rfl, rfl, .inr (.inr ⟨c, rfl, rfl⟩)⟩
  have hagain : twice.1 = once.1 := apply_again_eq hw.distinct he
    (fun c hc => hsignatures ⟨c, hc⟩) fun c hc => hnotes ⟨c, hc⟩
  rw [hagain]
  exact ⟨rfl, rfl, .inl rfl⟩

/-- A map with a node at which two characters are seen. -/
def crowded (uuid : Uuid) : MapDetail where
  map := ⟨⟨uuid⟩, uuid, "map", none, false, false, .default, .tb, false, none, none, true, none,
    none⟩
  nodes := [{ Node.bare ⟨uuid⟩ 30000142 .origin with
    occupants := [⟨"A", none, none, none, none, none⟩, ⟨"B", none, none, none, none, none⟩] }]
  links := []

/-- One of two characters leaves a node, which another event has changed before. -/
theorem apply_again_left :
    let uuid : Uuid := ⟨List.replicate 32 0, rfl⟩
    let pilot (name : String) : Occupant := ⟨name, none, none, none, some true, none⟩
    let w := ({ empty with store := Store.empty.load (crowded uuid) } |>.apply
      (.presence ⟨uuid⟩ .arrived (pilot "C"))).1
    let e : Event := .presence ⟨uuid⟩ .left (pilot "A")
    w.Reachable ∧ e.NaNFree ∧ (let once := w.apply e
      let twice := once.1.apply e
      twice.2 = once.2 ∧ twice.1.store = once.1.store ∧
        twice.1.session.value.selected = once.1.session.value.selected ∧
        (twice.1.session = once.1.session ∨
          (∃ c, e = .signaturesChanged c ∧
            twice.1.session = once.1.session.bumpSignatures) ∨
          (∃ c, e = .notesChanged c ∧ twice.1.session = once.1.session.bumpNotes))) := by
  intro uuid pilot w e
  have hloaded : Reachable { empty with store := Store.empty.load (crowded uuid) } :=
    .load .empty (by simp [crowded, Node.Distinct])
  have hw : w.Reachable := .apply hloaded trivial
  exact ⟨hw, trivial, apply_again hw trivial⟩

end Workspace

end WormholeMap

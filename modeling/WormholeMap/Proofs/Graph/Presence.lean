import WormholeMap.Proofs.Graph.Patching
import WormholeMap.Proofs.Idempotence

/-!
What the events about a character make of the occupants of a node. The entry with the name of the
character goes, or the character takes its place or comes last. Nothing else of the map changes. The
entry that is written is the first with the name, so the list shows what the event says exactly if
the name was listed at most once (`presence_records`). It is where no node that arrives lists a name
twice; where one does, a character who has left can stay behind (`presence_left_behind`).
-/

namespace WormholeMap

/-- What a node lists under the name of a character after a change to the presence of it: nothing
after it has left, and the character alone otherwise. -/
def PresenceChange.entries (o : Occupant) : PresenceChange → List Occupant
  | left => []
  | arrived | updated => [o]

/-- A change of presence in a list of occupants. -/
structure PresenceChange.Records (change : PresenceChange) (o : Occupant)
    (before after : List Occupant) : Prop where
  known : ∀ pre old post, before = pre ++ old :: post → old.name = o.name →
    (∀ p ∈ pre, p.name ≠ o.name) → after = pre ++ change.entries o ++ post
  unknown : o.name ∉ before.map Occupant.name → after = before ++ change.entries o
  others : after.filter (·.name ≠ o.name) = before.filter (·.name ≠ o.name)
  keyed_iff : after.filter (·.name = o.name) = change.entries o ↔
    (before.filter (·.name = o.name)).length ≤ 1

/-- A change of presence in a workspace: it is recorded at its node, if that is there, and nothing
else changes. -/
structure Workspace.Records (w : Workspace) (id : NodeId) (change : PresenceChange) (o : Occupant)
    (w' : Workspace) : Prop where
  unknown : id ∉ w.store.value.nodes.map Node.id → w' = w
  known : ∀ pre n post, w.store.value.nodes = pre ++ n :: post → n.id = id →
    ∃ occupants, w'.store.value.nodes = pre ++ { n with occupants } :: post ∧
      change.Records o n.occupants occupants
  links : w'.store.value.links = w.store.value.links
  settings : w'.store.value.settings = w.store.value.settings
  session : w'.session = w.session

/-! ### Lists of occupants -/

section

variable {change : PresenceChange} {o old : Occupant} {before pre post : List Occupant}

/-- The first entry with a name, and others before and after it. -/
theorem exists_first_of_mem_names {name : String} (h : name ∈ before.map Occupant.name) :
    ∃ pre old post, before = pre ++ old :: post ∧ old.name = name ∧ ∀ p ∈ pre, p.name ≠ name := by
  obtain ⟨p, hp, hname⟩ := List.mem_map.mp h
  obtain ⟨old, pre, post, hpre, hold, hsplit, -⟩ :=
    List.exists_of_eraseP (p := (·.name == name)) hp (beq_iff_eq.mpr hname)
  exact ⟨pre, old, post, hsplit, beq_iff_eq.mp hold, fun p hp => by simpa using hpre p hp⟩

theorem changeOccupants_split (hold : old.name = o.name) (hpre : ∀ p ∈ pre, p.name ≠ o.name) :
    (Graph.changeOccupants change o (pre ++ old :: post)).getD (pre ++ old :: post) =
      pre ++ change.entries o ++ post := by
  have hpre' : ∀ p ∈ pre, ¬(p.name == o.name) = true := fun p hp => by simpa using hpre p hp
  have hfind : (pre ++ old :: post).find? (·.name == o.name) = some old := by
    rw [List.find?_append, List.find?_eq_none.mpr hpre', Option.none_or]
    simp [hold]
  by_cases hchange : change = .left
  · subst hchange
    rw [Graph.changeOccupants_left, hfind, Option.map_some, Option.getD_some,
      List.eraseP_append_right _ hpre']
    simp [PresenceChange.entries, hold]
  · have hentries : change.entries o = [o] := by
      cases change with
      | left => exact absurd rfl hchange
      | arrived | updated => rfl
    rw [Graph.changeOccupants_of_ne_left hchange, hfind, hentries]
    by_cases hsame : old = o
    · simp [hsame]
    · have hne : ¬(old == o) = true := by simpa using hsame
      rw [if_neg (by simpa using hsame), Option.getD_some, Graph.put_of_not_beq hfind hne,
        upsert_split hpre hold]
      simp

theorem changeOccupants_concat (h : o.name ∉ before.map Occupant.name) :
    (Graph.changeOccupants change o before).getD before = before ++ change.entries o := by
  have hfind : before.find? (·.name == o.name) = none := Graph.find?_eq_none_of_notMem h
  cases change with
  | left => simp [Graph.changeOccupants, hfind, PresenceChange.entries]
  | arrived | updated => simp [Graph.changeOccupants, hfind, PresenceChange.entries]

theorem name_of_mem_entries {p : Occupant} (h : p ∈ change.entries o) : p.name = o.name := by
  cases change with
  | left => cases h
  | arrived | updated => rw [List.mem_singleton.mp h]

theorem records_changeOccupants (change : PresenceChange) (o : Occupant) (before : List Occupant) :
    change.Records o before ((Graph.changeOccupants change o before).getD before) := by
  have hsame : (change.entries o).filter (·.name = o.name) = change.entries o :=
    List.filter_eq_self.mpr fun p hp => decide_eq_true (name_of_mem_entries hp)
  have hother : (change.entries o).filter (·.name ≠ o.name) = [] :=
    List.filter_eq_nil_iff.mpr fun p hp => by simp [name_of_mem_entries hp]
  by_cases hknown : o.name ∈ before.map Occupant.name
  · obtain ⟨pre, old, post, rfl, hold, hpre⟩ := exists_first_of_mem_names hknown
    have hnone : pre.filter (·.name = o.name) = [] :=
      List.filter_eq_nil_iff.mpr fun p hp => by simpa using hpre p hp
    refine ⟨?_, fun h => absurd hknown h, ?_, ?_⟩
    · rintro pre' old' post' hsplit hold' hpre'
      rw [hsplit]
      exact changeOccupants_split hold' hpre'
    · rw [changeOccupants_split hold hpre, List.filter_append, List.filter_append, hother]
      simp [hold]
    · -- The entries with the name after the first one stay, so there must be none.
      rw [changeOccupants_split hold hpre, List.filter_append, List.filter_append,
        List.filter_append, hnone, hsame, List.filter_cons_of_pos (by simpa using hold)]
      simp
  · have hnone : before.filter (·.name = o.name) = [] :=
      List.filter_eq_nil_iff.mpr fun p hp hname =>
        hknown (List.mem_map.mpr ⟨p, hp, of_decide_eq_true hname⟩)
    refine ⟨?_, fun _ => changeOccupants_concat hknown, ?_, ?_⟩
    · rintro pre old post rfl hold -
      exact absurd (List.mem_map.mpr ⟨old, by simp, hold⟩) hknown
    · rw [changeOccupants_concat hknown, List.filter_append, hother, List.append_nil]
    · rw [changeOccupants_concat hknown, List.filter_append, hnone, hsame]
      simp

end

/-! ### Workspaces -/

namespace Workspace

variable {w : Workspace}

theorem nodes_setPresence_split {g : Graph} {pre post : List Node} {n : Node}
    (hnodes : g.nodes = pre ++ n :: post) (h : (g.nodes.map Node.id).Nodup)
    (change : PresenceChange) (o : Occupant) :
    ((g.setPresence n.id change o).getD g).nodes = pre ++ n.withPresence change o :: post := by
  rw [hnodes] at h
  have hfind : g.node? n.id = some n := by
    rw [Graph.node?, hnodes]
    exact find?_split h
  rw [Graph.setPresence, hfind]
  cases hchange : Graph.changeOccupants change o n.occupants with
  | none => simp [Node.withPresence, hchange, hnodes]
  | some occupants =>
    simp only [Option.map_some, Option.getD_some, Node.withPresence, hchange, hnodes]
    exact upsert_split (keys_ne_of_nodup h).1 rfl

theorem apply_presence_of_unknown {id : NodeId} (h : id ∉ w.store.value.nodes.map Node.id)
    (change : PresenceChange) (o : Occupant) : (w.apply (.presence id change o)).1 = w := by
  have hnone : w.store.value.node? id = none := Graph.find?_eq_none_of_notMem h
  have hstore : (w.write (·.setPresence id change o)).store = w.store :=
    store_write_of_none (by rw [Graph.setPresence, hnone])
  exact congrArg (Workspace.mk · w.session) hstore

theorem records_apply (h : w.store.Reachable) (id : NodeId) (change : PresenceChange)
    (o : Occupant) : w.Records id change o (w.apply (.presence id change o)).1 where
  unknown hid := apply_presence_of_unknown hid change o
  known := by
    rintro pre n post hnodes rfl
    refine ⟨(Graph.changeOccupants change o n.occupants).getD n.occupants, ?_,
      records_changeOccupants change o n.occupants⟩
    simp only [apply, nodes_write]
    exact nodes_setPresence_split hnodes h.nodup_nodes change o
  links := by simp only [apply, links_write, Graph.links_setPresence]
  settings := by simp only [apply, settings_write, Graph.settings_setPresence]
  session := rfl

theorem length_filter_name_le_one {n : Node} (h : n.Distinct) (name : String) :
    (n.occupants.filter (·.name = name)).length ≤ 1 := by
  have hnames : ((n.occupants.filter (·.name = name)).map Occupant.name).Nodup :=
    Graph.nodup_filter h _
  have hconst : (n.occupants.filter (·.name = name)).map Occupant.name =
      List.replicate (n.occupants.filter (·.name = name)).length name := by
    rw [List.eq_replicate_iff, List.length_map]
    refine ⟨rfl, fun x hx => ?_⟩
    obtain ⟨p, hp, rfl⟩ := List.mem_map.mp hx
    exact of_decide_eq_true (List.mem_filter.mp hp).2
  rw [hconst] at hnames
  exact List.nodup_replicate.mp hnames

/-- An event about a character is recorded at its node, if that is there, and changes nothing else.
Afterwards the node lists what the event says under the name of the character exactly if it listed
the name at most once. It did where no node that arrived listed a name twice. -/
theorem presence_records (h : w.store.Reachable) (id : NodeId) (change : PresenceChange)
    (o : Occupant) :
    let w' := (w.apply (.presence id change o)).1
    w.Records id change o w' ∧
      (w.Reachable → ∀ n ∈ w'.store.value.nodes, n.id = id →
        n.occupants.filter (·.name = o.name) = change.entries o) := by
  intro w'
  refine ⟨records_apply h id change o, fun hdistinct n hn hid => ?_⟩
  have hfind : w'.store.value.node? id = some n :=
    (Graph.find?_eq_some_iff_of_nodup (nodup_nodes_apply w h.nodup_nodes _)).mpr ⟨hn, hid⟩
  rw [node?_apply, Event.nodeAfter, if_pos rfl] at hfind
  obtain ⟨old, hold, rfl⟩ := Option.map_eq_some_iff.mp hfind
  have hnames : old.Distinct := hdistinct.distinct old (List.mem_of_find?_eq_some hold)
  exact (records_changeOccupants change o old.occupants).keyed_iff.mpr
    (length_filter_name_le_one hnames o.name)

/-- A map with a node that lists a character twice, and another one in between. -/
def doubled (uuid : Uuid) : MapDetail where
  map := ⟨⟨uuid⟩, uuid, "map", none, false, false, .default, .tb, false, none, none, true, none,
    none⟩
  nodes := [{ Node.bare ⟨uuid⟩ 30000142 .origin with
    occupants := [⟨"A", none, none, none, none, none⟩, ⟨"B", none, none, none, none, none⟩,
      ⟨"A", none, none, none, none, none⟩] }]
  links := []

/-- The character whom the node lists twice leaves, and is still there. -/
theorem presence_left_behind :
    let uuid : Uuid := ⟨List.replicate 32 0, rfl⟩
    let w : Workspace := { empty with store := Store.empty.load (doubled uuid) }
    let w' := (w.apply (.presence ⟨uuid⟩ .left ⟨"A", none, none, none, none, none⟩)).1
    w.store.Reachable ∧ w.store.value.nodes.map Node.id = [⟨uuid⟩] ∧
      ∃ n ∈ w'.store.value.nodes, n.id = ⟨uuid⟩ ∧ n.occupants.map Occupant.name = ["B", "A"] := by
  intro uuid w w'
  exact ⟨.load .empty _, rfl, w'.store.value.nodes[0], List.getElem_mem _, rfl, rfl⟩

/-- One of two characters of a node arrives there again, with a ship. -/
theorem presence_records_again :
    let uuid : Uuid := ⟨List.replicate 32 0, rfl⟩
    let w : Workspace := { empty with store := Store.empty.load (crowded uuid) }
    let o : Occupant := ⟨"A", none, none, some "Sabre", some true, none⟩
    let w' := (w.apply (.presence ⟨uuid⟩ .arrived o)).1
    w.store.Reachable ∧ w.Reachable ∧ w.Records ⟨uuid⟩ .arrived o w' ∧
      ∀ n ∈ w'.store.value.nodes, n.id = ⟨uuid⟩ →
        n.occupants.filter (·.name = "A") = [o] := by
  intro uuid w o w'
  have hstore : w.store.Reachable := .load .empty _
  have hw : w.Reachable := .load .empty (by simp [crowded, Node.Distinct])
  obtain ⟨hrecords, hkeyed⟩ := presence_records hstore ⟨uuid⟩ .arrived o
  exact ⟨hstore, hw, hrecords, hkeyed hw⟩

end Workspace

end WormholeMap

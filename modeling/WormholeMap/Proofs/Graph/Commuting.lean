import WormholeMap.Proofs.Graph.Table
import WormholeMap.Proofs.Replay

/-!
Events about different things, in either order. They come to the same metadata, nodes and links,
and the entries that were there before stay in the same order. The exception is the removal of a
node beside the creation or the update of a link at it: the link that comes first goes with the
node, and the one that comes after it stays. What exactly makes the difference is that the node is
there, and that the link would be left at it (`apply_either_order`).
-/

namespace WormholeMap

/-- What an event is about: a node, a link, or the metadata of the map. -/
inductive Subject where
  | node (id : NodeId)
  | link (id : LinkId)
  | map

namespace Event

/-- What an event is about, if that is something in the graph. A change to the presence of a
character is about the node. -/
def subject? : Event → Option Subject
  | nodeCreated n | nodeUpdated n => some (.node n.id)
  | nodeDeleted id | presence id _ _ => some (.node id)
  | linkCreated l | linkUpdated l => some (.link l.id)
  | linkDeleted id => some (.link id)
  | mapUpdated _ => some .map
  | _ => none

/-- The events are not about the same. -/
def Apart (e e' : Event) : Prop := ∀ s, e.subject? = some s → e'.subject? ≠ some s

/-- The link that the event creates or updates. -/
def carried? : Event → Option Link
  | linkCreated l | linkUpdated l => some l
  | _ => none

/-- One event removes a node, and the other creates or updates a link that is at this node, in the
graph or as the event has it. -/
def Collides (g : Graph) (e e' : Event) : Prop :=
  ∃ d l, e = nodeDeleted d ∧ e'.carried? = some l ∧
    (l.touches d ∨ ∃ old, g.link? l.id = some old ∧ old.touches d)

/-- One event removes a node that is present, and the other creates or updates the link with an id,
and leaves it at this node. -/
def Severs (id : LinkId) (present : NodeId → Bool) (x : Option Link) (e e' : Event) : Prop :=
  ∃ d l kept, e = nodeDeleted d ∧ present d ∧ e'.carried? = some l ∧ l.id = id ∧
    e'.linkAfter id present x = some kept ∧ kept.touches d

end Event

/-- Two workspaces have the same metadata and display settings, and the same nodes and links, in any
order. -/
structure Workspace.Matches (w w' : Workspace) : Prop where
  map : w.store.value.map = w'.store.value.map
  display : w.store.value.display = w'.store.value.display
  nodes : ∀ id, w.store.value.node? id = w'.store.value.node? id
  links : ∀ id, w.store.value.link? id = w'.store.value.link? id

/-- One of two events would take with it a link that the other one leaves. -/
def Workspace.Severed (w : Workspace) (e e' : Event) : Prop :=
  ∃ id, e.Severs id w.present (w.store.value.link? id) e'

/-- Two lists have the keys that were there before in the same order, and after them the same new
ones, in any order. -/
def Rearranged {κ : Type} (before first second : List κ) : Prop :=
  ∃ kept new new', first = kept ++ new ∧ second = kept ++ new' ∧ kept.Sublist before ∧
    new.Perm new' ∧ ∀ k ∈ new, k ∉ before

/-! ### Keys that stay in order -/

/-- The keys of before come first, in their order, as far as they are left. -/
def Arranged {κ : Type} [DecidableEq κ] (before after : List κ) : Prop :=
  ∃ new, after = (before.filter fun k => k ∈ after) ++ new ∧ ∀ k ∈ new, k ∉ before

section

variable {κ : Type} [DecidableEq κ] {first second third : List κ}

/-- Keys stay in order in the course of two changes, if none that goes with the first comes back
with the second. -/
theorem Arranged.trans (h : Arranged first second) (h' : Arranged second third)
    (hgone : ∀ k ∈ first, k ∈ third → k ∈ second) : Arranged first third := by
  obtain ⟨new, hsecond, hnew⟩ := h
  obtain ⟨new', hthird, hnew'⟩ := h'
  refine ⟨new.filter (fun k => k ∈ third) ++ new', ?_, fun k hk => ?_⟩
  · have hkept : (first.filter fun k => k ∈ second).filter (fun k => k ∈ third) =
        first.filter fun k => k ∈ third := by
      rw [List.filter_filter]
      refine List.filter_congr fun k hk => ?_
      rw [← Bool.decide_and, decide_eq_decide]
      exact and_iff_left_of_imp (hgone k hk)
    calc third = second.filter (fun k => k ∈ third) ++ new' := hthird
      _ = ((first.filter fun k => k ∈ second) ++ new).filter (fun k => k ∈ third) ++ new' := by
        rw [← hsecond]
      _ = _ := by rw [List.filter_append, hkept, List.append_assoc]
  · rcases List.mem_append.mp hk with hk | hk
    · exact hnew k (List.mem_of_mem_filter hk)
    · intro hfirst
      have hin : k ∈ third := by
        rw [hthird]
        exact List.mem_append_right _ hk
      exact hnew' k hk (hgone k hfirst hin)

/-- Lists that keep the same order and have the same keys differ in the order of the new ones. -/
theorem Arranged.rearranged {before : List κ} (h : Arranged before first)
    (h' : Arranged before second) (hfirst : first.Nodup) (hsecond : second.Nodup)
    (hsame : ∀ k, k ∈ first ↔ k ∈ second) : Rearranged before first second := by
  obtain ⟨new, heq, hnew⟩ := h
  obtain ⟨new', heq', -⟩ := h'
  have hkept : (before.filter fun k => k ∈ second) = before.filter fun k => k ∈ first :=
    List.filter_congr fun k _ => by simp only [hsame]
  rw [hkept] at heq'
  refine ⟨before.filter fun k => k ∈ first, new, new', heq, heq', List.filter_sublist, ?_, hnew⟩
  have hperm : first.Perm second := (List.perm_ext_iff_of_nodup hfirst hsecond).mpr hsame
  rw [heq, heq'] at hperm
  exact (List.perm_append_left_iff _).mp hperm

end

namespace Graph

/-- A write keeps the keys that are left in order, and a new one comes after them. -/
theorem Edited.arranged {κ : Type} [DecidableEq κ] {keys after : List κ} (h : Edited keys after)
    (hkeys : keys.Nodup) : Arranged keys after := by
  cases h with
  | lost hsub =>
    refine ⟨[], ?_, fun _ hk => absurd hk List.not_mem_nil⟩
    have hmem : ∀ k, k ∈ after ↔ k ∈ keys.filter fun k => k ∈ after := fun k => by
      rw [List.mem_filter, decide_eq_true_iff]
      exact (and_iff_right_of_imp fun hk => hsub.subset hk).symm
    have hperm : after.Perm (keys.filter fun k => k ∈ after) :=
      (List.perm_ext_iff_of_nodup (hkeys.sublist hsub) (hkeys.filter _)).mpr hmem
    have hfilter : (after.filter fun k => k ∈ after) = after :=
      List.filter_eq_self.mpr fun _ hk => decide_eq_true hk
    have hkept := hsub.filter fun k => decide (k ∈ after)
    rw [hfilter] at hkept
    rw [List.append_nil]
    exact hkept.eq_of_length hperm.length_eq
  | @gained k hk =>
    refine ⟨[k], ?_, by simpa using hk⟩
    rw [List.filter_eq_self.mpr fun k' hk' => by simp [hk']]

theorem mem_ids_nodes {g : Graph} {id : NodeId} :
    id ∈ g.nodes.map Node.id ↔ (g.node? id).isSome = true := by
  simp [node?]

theorem mem_ids_links {g : Graph} {id : LinkId} :
    id ∈ g.links.map Link.id ↔ (g.link? id).isSome = true := by
  simp [link?]

end Graph

/-! ### What an event leaves alone -/

namespace Event

variable {e e' : Event} {id : LinkId} {present : NodeId → Bool} {x : Option Link}
  {l kept : Link} {d : NodeId}

theorem Apart.symm (h : e.Apart e') : e'.Apart e := fun s hs hs' => h s hs' hs

theorem nodeAfter_of_subject_ne {id : NodeId} (h : e.subject? ≠ some (.node id))
    (x : Option Node) : e.nodeAfter id x = x := by
  cases e with
  | nodeCreated n => exact if_neg fun hid => h (congrArg (some ∘ Subject.node) hid)
  | nodeUpdated n => exact if_neg fun hid => h (congrArg (some ∘ Subject.node) hid)
  | nodeDeleted d => exact if_neg fun hid => h (congrArg (some ∘ Subject.node) hid)
  | presence p change o => exact if_neg fun hid => h (congrArg (some ∘ Subject.node) hid)
  | _ => rfl

theorem presentAfter_of_subject_ne {id : NodeId} (h : e.subject? ≠ some (.node id))
    (present : NodeId → Bool) : e.presentAfter present id = present id := by
  cases e with
  | nodeCreated n => simp [presentAfter, show n.id ≠ id from fun hid => h (hid ▸ rfl)]
  | nodeUpdated n => simp [presentAfter, show n.id ≠ id from fun hid => h (hid ▸ rfl)]
  | nodeDeleted d => simp [presentAfter, show d ≠ id from fun hid => h (hid ▸ rfl)]
  | _ => rfl

/-- An event leaves alone a link that it is not about, unless it removes a node. -/
theorem linkAfter_of_subject_ne (h : e.subject? ≠ some (.link id)) (hd : ∀ d, e ≠ nodeDeleted d)
    (present : NodeId → Bool) (x : Option Link) : e.linkAfter id present x = x := by
  cases e with
  | linkCreated l => exact if_neg fun hid => h (congrArg (some ∘ Subject.link) hid)
  | linkUpdated l => exact if_neg fun hid => h (congrArg (some ∘ Subject.link) hid)
  | linkDeleted d => exact if_neg fun hid => h (congrArg (some ∘ Subject.link) hid)
  | nodeDeleted d => exact absurd rfl (hd d)
  | _ => rfl

/-- Of the nodes that are present only the one that an event removes counts for a link. -/
theorem linkAfter_presentAfter (h : e.Apart e') (x : Option Link) :
    e'.linkAfter id (e.presentAfter present) x = e'.linkAfter id present x := by
  cases e' with
  | nodeDeleted d =>
    have hd : e.presentAfter present d = present d :=
      presentAfter_of_subject_ne (h.symm _ rfl) present
    simp only [linkAfter, hd]
  | _ => rfl

/-! ### Two events -/

theorem nodeAfter_comm (h : e.Apart e') (id : NodeId) (x : Option Node) :
    e'.nodeAfter id (e.nodeAfter id x) = e.nodeAfter id (e'.nodeAfter id x) := by
  by_cases hs : e.subject? = some (.node id)
  · have hs' := h _ hs
    rw [nodeAfter_of_subject_ne hs', nodeAfter_of_subject_ne hs']
  · rw [nodeAfter_of_subject_ne hs, nodeAfter_of_subject_ne hs]

theorem not_severs (h : ∀ d, e ≠ nodeDeleted d) : ¬e.Severs id present x e' := by
  rintro ⟨d, -, -, rfl, -⟩
  exact h d rfl

theorem subject_of_carried (h : e.carried? = some l) : e.subject? = some (.link l.id) := by
  cases e with
  | linkCreated l' | linkUpdated l' =>
    cases h
    rfl
  | _ => cases h

/-- An event with a link leaves one. -/
theorem linkAfter_carried (hcarried : e.carried? = some l) (hid : l.id = id)
    (present : NodeId → Bool) (x : Option Link) :
    ∃ kept, e.linkAfter id present x = some kept := by
  cases e with
  | linkCreated l' =>
    cases hcarried
    rw [linkAfter, if_pos hid]
    cases x with
    | none => exact ⟨l, rfl⟩
    | some old => exact ⟨old, rfl⟩
  | linkUpdated l' =>
    cases hcarried
    exact ⟨Graph.replaced l x, if_pos hid⟩
  | _ => cases hcarried

/-- Whether a link at a node was there before makes no difference to one that is not at it. -/
theorem linkAfter_filter_carried (hcarried : e.carried? = some l) (hid : l.id = id)
    (hkept : e.linkAfter id present x = some kept) (hd : kept.touches d = false) :
    e.linkAfter id present (x.filter (!·.touches d)) = some kept := by
  cases x with
  | none => exact hkept
  | some old =>
    cases hold : old.touches d with
    | false =>
      have hstays : (some old).filter (!·.touches d) = some old := by simp [Option.filter, hold]
      rwa [hstays]
    | true =>
      have hgoes : (some old).filter (!·.touches d) = none := by simp [Option.filter, hold]
      rw [hgoes]
      cases e with
      | linkCreated l' =>
        cases hcarried
        rw [linkAfter, if_pos hid] at hkept
        cases hkept
        rw [hold] at hd
        cases hd
      | linkUpdated l' =>
        cases hcarried
        rw [linkAfter, if_pos hid, Graph.replaced] at hkept
        rw [linkAfter, if_pos hid, Graph.replaced]
        split at hkept
        · cases hkept
          rw [hold] at hd
          cases hd
        · exact hkept
      | _ => cases hcarried

/-- An event without the link commutes with what takes the link away or leaves it. -/
theorem linkAfter_filter_of_not_carried (h : ∀ l, e.carried? = some l → l.id ≠ id)
    (p : Link → Bool) :
    e.linkAfter id present (x.filter p) = (e.linkAfter id present x).filter p := by
  cases e with
  | linkCreated l => rw [linkAfter, linkAfter, if_neg (h l rfl), if_neg (h l rfl)]
  | linkUpdated l => rw [linkAfter, linkAfter, if_neg (h l rfl), if_neg (h l rfl)]
  | linkDeleted d =>
    simp only [linkAfter]
    split <;> rfl
  | nodeDeleted d =>
    simp only [linkAfter]
    split
    · rw [Option.filter_filter, Option.filter_filter]
      simp only [Bool.and_comm]
    · rfl
  | _ => rfl

theorem not_severs_nodeDeleted : ¬e.Severs id present x (nodeDeleted d) := by
  rintro ⟨-, l, -, -, -, hl, -⟩
  cases hl

theorem severs_iff_touches (hd : present d = true) (hcarried : e.carried? = some l)
    (hid : l.id = id) (hkept : e.linkAfter id present x = some kept) :
    (nodeDeleted d).Severs id present x e ↔ kept.touches d = true := by
  constructor
  · rintro ⟨d', l', kept', ⟨⟩, -, -, -, hkept', htouches⟩
    rw [hkept] at hkept'
    cases hkept'
    exact htouches
  · intro htouches
    exact ⟨d, l, kept, rfl, hd, hcarried, hid, hkept, htouches⟩

/-- The removal of a node and another event come to the same link in either order, unless the other
one leaves it at the node. -/
theorem linkAfter_nodeDeleted_comm_iff (d : NodeId) (e : Event) :
    e.linkAfter id present ((nodeDeleted d).linkAfter id present x) =
        (nodeDeleted d).linkAfter id present (e.linkAfter id present x) ↔
      ¬(nodeDeleted d).Severs id present x e := by
  cases hd : present d with
  | false =>
    refine iff_of_true (by simp [linkAfter, hd]) ?_
    rintro ⟨d', l, kept, ⟨⟩, hpresent, -⟩
    rw [hd] at hpresent
    cases hpresent
  | true =>
    have hremoved (y : Option Link) :
        (nodeDeleted d).linkAfter id present y = y.filter (!·.touches d) := if_pos hd
    rw [hremoved, hremoved]
    by_cases hcarries : ∃ l, e.carried? = some l ∧ l.id = id
    · obtain ⟨l, hl, hid⟩ := hcarries
      obtain ⟨kept, hkept⟩ := linkAfter_carried hl hid present x
      rw [severs_iff_touches hd hl hid hkept, hkept]
      cases htouches : kept.touches d with
      | true =>
        obtain ⟨left, hleft⟩ := linkAfter_carried hl hid present (x.filter (!·.touches d))
        rw [hleft]
        simp [Option.filter, htouches]
      | false =>
        rw [linkAfter_filter_carried hl hid hkept htouches]
        simp [Option.filter, htouches]
    · have hnone : ∀ l, e.carried? = some l → l.id ≠ id := fun l hl hid => hcarries ⟨l, hl, hid⟩
      refine iff_of_true (linkAfter_filter_of_not_carried hnone _) ?_
      rintro ⟨d', l, kept, ⟨⟩, -, hl, hid, -⟩
      exact hnone l hl hid

/-- Events that are not about the same come to the same link with an id in either order, unless one
removes a node and the other leaves the link at it. -/
theorem linkAfter_comm_iff (h : e.Apart e') (id : LinkId) (present : NodeId → Bool)
    (x : Option Link) :
    e'.linkAfter id present (e.linkAfter id present x) =
        e.linkAfter id present (e'.linkAfter id present x) ↔
      ¬(e.Severs id present x e' ∨ e'.Severs id present x e) := by
  by_cases hremoves : ∃ d, e = nodeDeleted d
  · obtain ⟨d, rfl⟩ := hremoves
    rw [or_iff_left not_severs_nodeDeleted]
    exact linkAfter_nodeDeleted_comm_iff d e'
  by_cases hremoves' : ∃ d, e' = nodeDeleted d
  · obtain ⟨d, rfl⟩ := hremoves'
    rw [or_iff_right not_severs_nodeDeleted, eq_comm]
    exact linkAfter_nodeDeleted_comm_iff d e
  rw [not_exists] at hremoves hremoves'
  refine iff_of_true ?_ (not_or_intro (not_severs hremoves) (not_severs hremoves'))
  by_cases hs : e.subject? = some (.link id)
  · rw [linkAfter_of_subject_ne (h _ hs) hremoves', linkAfter_of_subject_ne (h _ hs) hremoves']
  · rw [linkAfter_of_subject_ne hs hremoves, linkAfter_of_subject_ne hs hremoves]

/-- A link that an event leaves is the one that was there, or the one that the event has. -/
theorem carried_of_linkAfter (h : e.linkAfter id present x = some l) :
    x = some l ∨ e.carried? = some l ∧ l.id = id := by
  rcases linkAfter_eq_some h [] with hx | ⟨hid, he | he⟩
  · exact .inl hx
  · obtain rfl := List.mem_singleton.mp he
    exact .inr ⟨rfl, hid⟩
  · obtain rfl := List.mem_singleton.mp he
    exact .inr ⟨rfl, hid⟩

theorem Severs.collides {g : Graph} (h : e.Severs id present (g.link? id) e') :
    e.Collides g e' := by
  obtain ⟨d, l, kept, rfl, -, hl, hid, hkept, htouches⟩ := h
  refine ⟨d, l, rfl, hl, ?_⟩
  rcases carried_of_linkAfter hkept with hold | ⟨hkept', -⟩
  · exact .inr ⟨kept, hid ▸ hold, htouches⟩
  · rw [hl] at hkept'
    cases hkept'
    exact .inl htouches

/-- Of two events that are not about the same one may bring back a link that the other takes away,
but only if the link goes with a node. -/
theorem collides_of_returned {g : Graph} {old : Link} {present' : NodeId → Bool}
    (h : e.Apart e') (hold : g.link? id = some old)
    (hgone : e.linkAfter id present (some old) = none)
    (hback : e'.linkAfter id present' none = some l) : e.Collides g e' := by
  rcases carried_of_linkAfter hback with hnone | ⟨hl, hid⟩
  · cases hnone
  have hs : e.subject? ≠ some (.link id) := h.symm _ (hid ▸ subject_of_carried hl)
  have hremoves : ∃ d, e = nodeDeleted d := by
    by_contra hnone
    rw [linkAfter_of_subject_ne hs (not_exists.mp hnone)] at hgone
    cases hgone
  obtain ⟨d, rfl⟩ := hremoves
  refine ⟨d, l, rfl, hl, .inr ⟨old, hid ▸ hold, ?_⟩⟩
  rw [linkAfter] at hgone
  split at hgone
  · simpa using Option.filter_eq_none_iff.mp hgone
  · cases hgone

end Event

/-! ### Workspaces after events -/

namespace Workspace

variable {w w' : Workspace} {e e' : Event}

theorem settings_apply_of_subject_ne (h : e.subject? ≠ some .map) (w : Workspace) :
    (w.apply e).1.store.value.settings = w.store.value.settings := by
  rcases settings_apply w e with hkept | ⟨m, rfl, -⟩
  · exact hkept
  · exact absurd rfl h

/-- What becomes of metadata and display settings depends on nothing else. -/
theorem settings_apply_congr (h : w.store.value.settings = w'.store.value.settings) (e : Event) :
    (w.apply e).1.store.value.settings = (w'.apply e).1.store.value.settings := by
  by_cases hs : e.subject? = some .map
  · cases e with
    | mapUpdated m =>
      have hmap : w.store.value.map = w'.store.value.map := congrArg Prod.fst h
      simp only [apply, settings_write, Graph.settings_setMap, keepAccess, hmap, h]
    | _ => cases hs
  · rw [settings_apply_of_subject_ne hs, settings_apply_of_subject_ne hs, h]

theorem settings_comm (h : e.Apart e') (w : Workspace) :
    (w.run [e, e']).store.value.settings = (w.run [e', e]).store.value.settings := by
  show ((w.apply e).1.apply e').1.store.value.settings =
    ((w.apply e').1.apply e).1.store.value.settings
  by_cases hs : e.subject? = some .map
  · rw [settings_apply_of_subject_ne (h _ hs)]
    exact (settings_apply_congr (settings_apply_of_subject_ne (h _ hs) w) e).symm
  · rw [settings_apply_of_subject_ne hs]
    exact settings_apply_congr (settings_apply_of_subject_ne hs w) e'

theorem node?_comm (h : e.Apart e') (w : Workspace) (id : NodeId) :
    (w.run [e, e']).store.value.node? id = (w.run [e', e]).store.value.node? id := by
  rw [node?_run, node?_run]
  exact Event.nodeAfter_comm h id _

theorem link?_comm_iff (hw : (w.store.value.links.map Link.id).Nodup) (h : e.Apart e')
    (id : LinkId) :
    (w.run [e, e']).store.value.link? id = (w.run [e', e]).store.value.link? id ↔
      ¬(e.Severs id w.present (w.store.value.link? id) e' ∨
        e'.Severs id w.present (w.store.value.link? id) e) := by
  rw [link?_run w hw, link?_run w hw]
  simp only [Link.fate, Event.linkAfter_presentAfter h, Event.linkAfter_presentAfter h.symm]
  exact Event.linkAfter_comm_iff h id w.present _

/-- Two events that are not about the same come to the same in either order, exactly if neither
takes a link with it that the other one leaves. -/
theorem matches_iff (hw : (w.store.value.links.map Link.id).Nodup) (h : e.Apart e') :
    (w.run [e, e']).Matches (w.run [e', e]) ↔ ¬(w.Severed e e' ∨ w.Severed e' e) := by
  constructor
  · rintro hsame (⟨id, hsevers⟩ | ⟨id, hsevers⟩)
    · exact (link?_comm_iff hw h id).mp (hsame.links id) (.inl hsevers)
    · exact (link?_comm_iff hw h id).mp (hsame.links id) (.inr hsevers)
  · intro hfree
    have hsettings := Prod.mk.inj (settings_comm h w)
    refine ⟨hsettings.1, hsettings.2, node?_comm h w, fun id => (link?_comm_iff hw h id).mpr ?_⟩
    rintro (hsevers | hsevers)
    · exact hfree (.inl ⟨id, hsevers⟩)
    · exact hfree (.inr ⟨id, hsevers⟩)

/-! ### Orders of entries -/

/-- A node that an event takes away does not come back with one about something else. -/
theorem nodes_not_returned (h : e.Apart e') (w : Workspace) :
    ∀ id ∈ w.store.value.nodes.map Node.id,
      id ∈ (w.run [e, e']).store.value.nodes.map Node.id →
        id ∈ (w.apply e).1.store.value.nodes.map Node.id := by
  intro id hid hlast
  rw [Graph.mem_ids_nodes] at hid hlast ⊢
  by_cases hs : e.subject? = some (.node id)
  · rw [node?_run, List.foldl_cons, List.foldl_cons, List.foldl_nil,
      Event.nodeAfter_of_subject_ne (h _ hs)] at hlast
    rwa [node?_apply]
  · rwa [node?_apply, Event.nodeAfter_of_subject_ne hs]

/-- A link that an event takes away does not come back with one about something else, unless it goes
with a node. -/
theorem links_not_returned (hw : (w.store.value.links.map Link.id).Nodup) (h : e.Apart e')
    (hfree : ¬e.Collides w.store.value e') :
    ∀ id ∈ w.store.value.links.map Link.id,
      id ∈ (w.run [e, e']).store.value.links.map Link.id →
        id ∈ (w.apply e).1.store.value.links.map Link.id := by
  intro id hid hlast
  rw [Graph.mem_ids_links, Option.isSome_iff_exists] at hid hlast
  obtain ⟨old, hold⟩ := hid
  obtain ⟨l, hback⟩ := hlast
  rw [link?_run w hw, hold] at hback
  rw [Graph.mem_ids_links, link?_apply w hw, hold]
  by_contra hgone
  rw [Option.not_isSome_iff_eq_none] at hgone
  simp only [Link.fate] at hback
  rw [show e.linkAfter id w.present (some old) = none from hgone] at hback
  exact hfree (Event.collides_of_returned h hold hgone hback)

theorem rearranged_nodes (hw : (w.store.value.nodes.map Node.id).Nodup) (h : e.Apart e')
    (hsame : (w.run [e, e']).Matches (w.run [e', e])) :
    Rearranged (w.store.value.nodes.map Node.id)
      ((w.run [e, e']).store.value.nodes.map Node.id)
      ((w.run [e', e]).store.value.nodes.map Node.id) := by
  have hstep := nodup_nodes_apply w hw
  have harranged {e e' : Event} (h : e.Apart e') :=
    ((w.edited_nodes_apply e).arranged hw).trans
      ((edited_nodes_apply _ e').arranged (hstep e)) (nodes_not_returned h w)
  refine (harranged h).rearranged (harranged h.symm) (nodup_nodes_apply _ (hstep e) e')
    (nodup_nodes_apply _ (hstep e') e) fun id => ?_
  rw [Graph.mem_ids_nodes, Graph.mem_ids_nodes]
  exact iff_of_eq (congrArg (·.isSome = true) (hsame.nodes id))

theorem rearranged_links (hw : (w.store.value.links.map Link.id).Nodup) (h : e.Apart e')
    (hfree : ¬(e.Collides w.store.value e' ∨ e'.Collides w.store.value e))
    (hsame : (w.run [e, e']).Matches (w.run [e', e])) :
    Rearranged (w.store.value.links.map Link.id)
      ((w.run [e, e']).store.value.links.map Link.id)
      ((w.run [e', e]).store.value.links.map Link.id) := by
  rw [not_or] at hfree
  have hstep := nodup_links_apply w hw
  have harranged {e e' : Event} (h : e.Apart e') (hfree : ¬e.Collides w.store.value e') :=
    ((w.edited_links_apply e).arranged hw).trans
      ((edited_links_apply _ e').arranged (hstep e)) (links_not_returned hw h hfree)
  refine (harranged h hfree.1).rearranged (harranged h.symm hfree.2)
    (nodup_links_apply _ (hstep e) e') (nodup_links_apply _ (hstep e') e) fun id => ?_
  rw [Graph.mem_ids_links, Graph.mem_ids_links]
  exact iff_of_eq (congrArg (·.isSome = true) (hsame.links id))

/-- Two events that are not about the same come to the same metadata, display settings, nodes and
links in either order, and only entries that are new may be in another order, unless one removes a
node and the other creates or updates a link at it. Even then they come to the same, exactly if the
node is not there or the link would not be left at it. -/
theorem apply_either_order (h : w.store.Reachable) (hapart : e.Apart e') :
    let g := w.store.value
    let first := (w.run [e, e']).store.value
    let second := (w.run [e', e]).store.value
    (¬(e.Collides g e' ∨ e'.Collides g e) →
      (w.run [e, e']).Matches (w.run [e', e]) ∧
        Rearranged (g.nodes.map Node.id) (first.nodes.map Node.id) (second.nodes.map Node.id) ∧
        Rearranged (g.links.map Link.id) (first.links.map Link.id) (second.links.map Link.id)) ∧
      ((w.run [e, e']).Matches (w.run [e', e]) ↔ ¬(w.Severed e e' ∨ w.Severed e' e)) := by
  intro g first second
  have hiff := matches_iff h.nodup_links hapart
  refine ⟨fun hfree => ?_, hiff⟩
  have hsame : (w.run [e, e']).Matches (w.run [e', e]) := by
    refine hiff.mpr ?_
    rintro (⟨id, hsevers⟩ | ⟨id, hsevers⟩)
    · exact hfree (.inl hsevers.collides)
    · exact hfree (.inr hsevers.collides)
  exact ⟨hsame, rearranged_nodes h.nodup_nodes hapart hsame,
    rearranged_links h.nodup_links hapart hfree hsame⟩

/-- Two links come in either order. A node is removed and a link at it comes: in one order the link
stays, in the other it goes. -/
theorem apply_either_order_links :
    let uuid (k : Fin 16) : Uuid := ⟨List.replicate 31 0 ++ [k], rfl⟩
    let w : Workspace := ⟨Store.empty.load (Store.repeating (uuid 0) (uuid 1) (uuid 2)), .empty⟩
    let e : Event := .linkCreated (.between ⟨uuid 5⟩ ⟨uuid 1⟩ ⟨uuid 2⟩)
    let e' : Event := .linkCreated (.between ⟨uuid 6⟩ ⟨uuid 2⟩ ⟨uuid 9⟩)
    let removal : Event := .nodeDeleted ⟨uuid 1⟩
    let ids (events : List Event) := (w.run events).store.value.links.map Link.id
    ids [e, e'] = [⟨uuid 0⟩, ⟨uuid 5⟩, ⟨uuid 6⟩] ∧ ids [e', e] = [⟨uuid 0⟩, ⟨uuid 6⟩, ⟨uuid 5⟩] ∧
      w.store.Reachable ∧ e.Apart e' ∧ (w.run [e, e']).Matches (w.run [e', e]) ∧
      Rearranged (ids []) (ids [e, e']) (ids [e', e]) ∧
      removal.Apart e ∧ ¬(w.run [removal, e]).Matches (w.run [e, removal]) := by
  intro uuid w e e' removal ids
  have hw : w.store.Reachable := .load .empty _
  have hapart : e.Apart e' := by
    rintro s ⟨⟩ hs
    simp [e', Event.subject?, Link.between, uuid] at hs
  have hapart' : removal.Apart e := by rintro s ⟨⟩ ⟨⟩
  have hfree : ¬(e.Collides w.store.value e' ∨ e'.Collides w.store.value e) := by
    rintro (⟨d, l, hd, -⟩ | ⟨d, l, hd, -⟩)
    · exact Event.noConfusion hd
    · exact Event.noConfusion hd
  obtain ⟨hsame, -, hlinks⟩ := (apply_either_order hw hapart).1 hfree
  refine ⟨rfl, rfl, hw, hapart, hsame, hlinks, hapart', fun hboth => ?_⟩
  refine (apply_either_order hw hapart').2.mp hboth (.inl ⟨⟨uuid 5⟩, ?_⟩)
  exact ⟨⟨uuid 1⟩, _, _, rfl, rfl, rfl, rfl, rfl, rfl⟩

end Workspace

end WormholeMap

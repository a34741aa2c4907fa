import WormholeMap.Proofs.Idempotence
import WormholeMap.Proofs.Graph.Table

/-!
The revision of a store. A write that gives a graph gives one with other content, so an event is
published exactly when it changes the content, and the revision is the number of publications
(`revision_eq_notified`). Content is compared by the equality of nodes, links and metadata, which
for numbers other than NaN is reflexive.
-/

namespace WormholeMap

namespace Graph

/-- All of a graph but its revision. -/
def parts (g : Graph) : Option MapInfo × Display × List Node × List Link :=
  (g.map, g.display, g.nodes, g.links)

/-- No number of the metadata, the nodes and the links is NaN. -/
structure NaNFree (g : Graph) : Prop where
  map : ∀ m ∈ g.map, m.NaNFree
  nodes : ∀ n ∈ g.nodes, n.NaNFree
  links : ∀ l ∈ g.links, l.NaNFree

/-! ### Lists that differ -/

section

variable [BEq α] {a b : α} {l l' : List α}

theorem length_eq_of_beq (h : (l == l') = true) : l.length = l'.length := by
  induction l generalizing l' with
  | nil => cases l' <;> simp_all
  | cons a l ih =>
    cases l' with
    | nil => cases h
    | cons b l' =>
      have htail : (l == l') = true := (Bool.and_eq_true_iff.mp h).2
      rw [List.length_cons, List.length_cons, ih htail]

theorem beq_eq_false_of_length (h : l.length ≠ l'.length) : (l == l') = false := by
  rw [Bool.eq_false_iff]
  intro hsame
  exact h (length_eq_of_beq hsame)

theorem beq_concat (a : α) (l : List α) : (l == l ++ [a]) = false :=
  beq_eq_false_of_length (by simp)

theorem beq_filter {p : α → Bool} (ha : a ∈ l) (hp : p a = false) : (l == l.filter p) = false := by
  have hless : (l.filter p).length < l.length :=
    List.length_filter_lt_length_iff_exists.mpr ⟨a, ha, by simp [hp]⟩
  exact beq_eq_false_of_length (by omega)

theorem list_beq_self (h : ∀ a ∈ l, (a == a) = true) : (l == l) = true := by
  induction l with
  | nil => rfl
  | cons a l ih =>
    rw [List.forall_mem_cons] at h
    exact Bool.and_eq_true_iff.mpr ⟨h.1, ih h.2⟩

/-- An entry put in the place of another shows, unless they are equal. -/
theorem beq_of_beq_upsert {κ : Type} [BEq κ] {key : α → κ}
    (hfind : l.find? (key · == key a) = some b) (h : (l == upsert key a l) = true) :
    (b == a) = true := by
  induction l with
  | nil => cases hfind
  | cons c l ih =>
    rw [upsert] at h
    rw [List.find?_cons] at hfind
    by_cases hc : key c == key a
    · rw [hc] at hfind
      rw [if_pos hc] at h
      cases hfind
      exact (Bool.and_eq_true_iff.mp h).1
    · rw [Bool.not_eq_true] at hc
      rw [hc] at hfind
      rw [if_neg (by simp [hc])] at h
      exact ih hfind (Bool.and_eq_true_iff.mp h).2

theorem beq_upsert {κ : Type} [BEq κ] {key : α → κ} (hfind : l.find? (key · == key a) = some b)
    (hne : ¬(b == a) = true) : (l == upsert key a l) = false := by
  rw [Bool.eq_false_iff]
  intro hsame
  exact hne (beq_of_beq_upsert hfind hsame)

end

/-! ### Writes change the content -/

section

variable {g g' : Graph} {n : Node} {l : Link} {id : NodeId}

theorem parts_ne_of_nodes (h : (g.nodes == g'.nodes) = false) : (g.parts == g'.parts) = false := by
  show (g.map == g'.map && (g.display == g'.display && (g.nodes == g'.nodes && _))) = false
  simp [h]

theorem parts_ne_of_links (h : (g.links == g'.links) = false) : (g.parts == g'.parts) = false := by
  show (g.map == g'.map && (g.display == g'.display && (_ && g.links == g'.links))) = false
  simp [h]

theorem parts_ne_of_map (h : (g.map == g'.map) = false) : (g.parts == g'.parts) = false := by
  show (g.map == g'.map && _) = false
  simp [h]

theorem insertNode_changes (h : g.insertNode n = some g') : (g.parts == g'.parts) = false := by
  unfold insertNode at h
  split at h
  · cases h
  · cases h
    exact parts_ne_of_nodes (beq_concat _ _)

theorem replaceNode_changes (h : g.replaceNode n = some g') : (g.parts == g'.parts) = false := by
  unfold replaceNode at h
  split at h
  · rename_i old hold
    split at h
    · cases h
    · rename_i hne
      cases h
      exact parts_ne_of_nodes (beq_upsert hold hne)
  · cases h
    exact parts_ne_of_nodes (beq_concat _ _)

theorem removeNode_changes (h : g.removeNode id = some g') : (g.parts == g'.parts) = false := by
  unfold removeNode at h
  split at h
  · cases h
  · rename_i n hn
    cases h
    have hid : n.id = id := key_of_find? hn
    exact parts_ne_of_nodes (beq_filter (List.mem_of_find?_eq_some hn) (by simp [hid]))

theorem insertLink_changes (h : g.insertLink l = some g') : (g.parts == g'.parts) = false := by
  unfold insertLink at h
  split at h
  · cases h
  · cases h
    exact parts_ne_of_links (beq_concat _ _)

theorem replaceLink_changes (h : g.replaceLink l = some g') : (g.parts == g'.parts) = false := by
  unfold replaceLink at h
  split at h
  · rename_i old hold
    split at h
    · cases h
    · rename_i hne
      cases h
      exact parts_ne_of_links (beq_upsert hold hne)
  · cases h
    exact parts_ne_of_links (beq_concat _ _)

theorem removeLink_changes {id : LinkId} (h : g.removeLink id = some g') :
    (g.parts == g'.parts) = false := by
  unfold removeLink at h
  split at h
  · cases h
  · rename_i l hl
    cases h
    have hid : l.id = id := key_of_find? hl
    exact parts_ne_of_links (beq_filter (List.mem_of_find?_eq_some hl) (by simp [hid]))

theorem setMap_changes {m : MapInfo} (h : g.setMap m = some g') :
    (g.parts == g'.parts) = false := by
  unfold setMap at h
  split at h
  · cases h
  · rename_i hne
    cases h
    exact parts_ne_of_map (Bool.eq_false_iff.mpr hne)

theorem changeOccupants_ne {change : PresenceChange} {o : Occupant}
    {occupants after : List Occupant} (h : changeOccupants change o occupants = some after) :
    occupants ≠ after := by
  by_cases hchange : change = .left
  · rw [hchange, changeOccupants_left] at h
    obtain ⟨old, hold, rfl⟩ := Option.map_eq_some_iff.mp h
    have hname : old.name = o.name := key_of_find? hold
    have hless := List.length_eraseP_add_one (p := (·.name == o.name))
      (List.mem_of_find?_eq_some hold) (beq_iff_eq.mpr hname)
    intro hsame
    have hlength := congrArg List.length hsame
    omega
  · rw [changeOccupants_of_ne_left hchange] at h
    split at h
    · cases h
    · rename_i hne
      cases h
      intro hsame
      cases hold : occupants.find? (·.name == o.name) with
      | none =>
        have hlength := congrArg List.length hsame
        rw [put_of_none hold, List.length_append, List.length_singleton] at hlength
        omega
      | some old =>
        have hdiffers : ¬(old == o) = true := fun hsame => hne (by rw [hold, eq_of_beq hsame])
        rw [put_of_not_beq hold hdiffers] at hsame
        exact hdiffers (beq_of_beq_upsert hold (beq_iff_eq.mpr hsame))

theorem setPresence_changes {change : PresenceChange} {o : Occupant}
    (h : g.setPresence id change o = some g') : (g.parts == g'.parts) = false := by
  obtain ⟨n, occupants, hn, hoccupants, rfl⟩ := setPresence_eq_some h
  have hid : n.id = id := key_of_find? hn
  refine parts_ne_of_nodes (Bool.eq_false_iff.mpr fun hsame => ?_)
  have hfind : g.nodes.find? (·.id == n.id) = some n := by rw [hid]; exact hn
  have hsame := beq_of_beq_upsert (a := { n with occupants }) hfind hsame
  rw [Node.beq_iff] at hsame
  have hkept : n.occupants = occupants := by grind
  exact changeOccupants_ne hoccupants hkept

/-! ### Content that equals itself -/

theorem Displayed.beq_self (h : g.Displayed) (hmap : ∀ m ∈ g.map, m.NaNFree) :
    (g.display == g.display) = true := by
  have hgap (x : Option Float) (d : Float) (hd : d.isNaN = false)
      (hx : ∀ y ∈ x, y.isNaN = false) : (x.getD d == x.getD d) = true := by
    cases x with
    | none => exact float_beq_self hd
    | some y => exact float_beq_self (hx y rfl)
  rw [h]
  cases hm : g.map with
  | none => rfl
  | some m =>
    have hnode := hgap m.nodeSep Display.standard.nodeSep rfl (hmap m hm).nodeSep
    have hrank := hgap m.rankSep Display.standard.rankSep rfl (hmap m hm).rankSep
    show instBEqDisplay.beq m.display m.display = true
    simp [MapInfo.display, instBEqDisplay.beq, hnode, hrank]

theorem NaNFree.parts_beq_self (h : g.NaNFree) (hdisplay : g.Displayed) :
    (g.parts == g.parts) = true := by
  have hmap := option_beq_self fun m hm => MapInfo.beq_self (h.map m hm)
  have hnodes := list_beq_self fun n hn => Node.beq_self (h.nodes n hn)
  have hlinks := list_beq_self fun l hl => Link.beq_self (h.links l hl)
  show (g.map == g.map && (g.display == g.display && (g.nodes == g.nodes && _))) = true
  rw [hmap, hdisplay.beq_self h.map, hnodes]
  exact hlinks

end

/-! ### Numbers other than NaN -/

theorem NaNFree.empty (r : Nat) : NaNFree { empty with revision := r } where
  map m hm := by cases hm
  nodes n hn := absurd hn List.not_mem_nil
  links l hl := absurd hl List.not_mem_nil

end Graph

/-- No number of the map is NaN. -/
structure MapDetail.NaNFree (detail : MapDetail) : Prop where
  map : detail.map.NaNFree
  nodes : ∀ n ∈ detail.nodes, n.NaNFree
  links : ∀ l ∈ detail.links, l.NaNFree

theorem Graph.NaNFree.ofDetail {detail : MapDetail} (h : detail.NaNFree) (r : Nat) :
    (Graph.ofDetail detail r).NaNFree where
  map m hm := by
    cases hm
    exact h.map
  nodes n hn := h.nodes n (mem_collect hn)
  links l hl := h.links l (mem_collect hl)

theorem Node.NaNFree.withPresence {n : Node} (h : n.NaNFree) (change : PresenceChange)
    (o : Occupant) : (n.withPresence change o).NaNFree :=
  ⟨h.x, h.y, h.securityStatus, h.effectBuffs, h.effectDebuffs⟩

namespace Workspace

variable {w : Workspace} {e : Event}

theorem nanFree_apply (h : w.store.value.NaNFree) (he : e.NaNFree) :
    (w.apply e).1.store.value.NaNFree where
  map m hm := by
    rcases settings_apply w e with hkept | ⟨m', rfl, hnew⟩
    · rw [(Prod.mk.inj hkept).1] at hm
      exact h.map m hm
    · rw [(Prod.mk.inj hnew).1] at hm
      cases hm
      exact nanFree_keepAccess he w
  nodes n hn := by
    rcases mem_nodes_apply w hn with hn | rfl | rfl | ⟨old, hold, change, o, rfl⟩
    · exact h.nodes n hn
    · exact he
    · exact he
    · exact (h.nodes old hold).withPresence change o
  links l hl := by
    rcases mem_links_apply w hl with hl | rfl | rfl
    · exact h.links l hl
    · exact he
    · exact he

end Workspace

namespace Store

/-! ### Publications -/

/-- The second store is one revision and one publication further than the first. -/
def Advances (s s' : Store) : Prop :=
  s'.value.revision = s.value.revision + 1 ∧ s'.count = s.count + 1

/-- The second store is the first, or has other content and is one publication further. -/
def Faithful (s s' : Store) : Prop :=
  if s.value.parts == s'.value.parts then s' = s else Advances s s'

theorem Faithful.refl {s : Store} (h : (s.value.parts == s.value.parts) = true) : Faithful s s := by
  rw [Faithful, if_pos h]

/-- A write that changes the content of the graphs it gives is published when it does. -/
theorem faithful_modify {s : Store} (hself : (s.value.parts == s.value.parts) = true)
    {write : Graph → Option Graph}
    (hwrite : ∀ g', write s.value = some g' → (s.value.parts == g'.parts) = false) :
    Faithful s (s.modify write) := by
  cases hgraph : write s.value with
  | none =>
    have hkept : s.modify write = s := by simp [modify, hgraph, Published.publish?]
    rw [hkept]
    exact .refl hself
  | some g' =>
    have hnew : s.modify write = s.publish { g' with revision := s.value.revision + 1 } := by
      simp [modify, hgraph, Published.publish?]
    have hparts : ¬(s.value.parts == (s.modify write).value.parts) = true := by
      rw [hnew]
      exact Bool.eq_false_iff.mp (hwrite g' hgraph)
    rw [Faithful, if_neg hparts, hnew]
    exact ⟨rfl, rfl⟩

/-- An event either leaves the store untouched or changes its content and is published. -/
theorem faithful_apply {w : Workspace}
    (hself : (w.store.value.parts == w.store.value.parts) = true) (e : Event) :
    Faithful w.store (w.apply e).1.store := by
  cases e with
  | nodeCreated n => exact faithful_modify hself fun _ => Graph.insertNode_changes
  | nodeUpdated n => exact faithful_modify hself fun _ => Graph.replaceNode_changes
  | nodeDeleted id => exact faithful_modify hself fun _ => Graph.removeNode_changes
  | linkCreated l => exact faithful_modify hself fun _ => Graph.insertLink_changes
  | linkUpdated l => exact faithful_modify hself fun _ => Graph.replaceLink_changes
  | linkDeleted id => exact faithful_modify hself fun _ => Graph.removeLink_changes
  | mapUpdated m => exact faithful_modify hself fun _ => Graph.setMap_changes
  | presence id change o => exact faithful_modify hself fun _ => Graph.setPresence_changes
  | _ => exact .refl hself

theorem advances_load (s : Store) (detail : MapDetail) : s.Advances (s.load detail) := ⟨rfl, rfl⟩

theorem advances_clear (s : Store) : s.Advances s.clear := ⟨rfl, rfl⟩

/-! ### Runs -/

/-- What changes a store. An event comes to a view, which has a session as well. -/
inductive Transition where
  | load (detail : MapDetail)
  | clear
  | event (session : Session) (e : Event)

/-- No number that the transition brings is NaN. -/
def Transition.NaNFree : Transition → Prop
  | load detail => detail.NaNFree
  | clear => True
  | event _ e => e.NaNFree

def perform (s : Store) : Transition → Store
  | .load detail => s.load detail
  | .clear => s.clear
  | .event session e => (Workspace.apply ⟨s, session⟩ e).1.store

/-- A new store after transitions. -/
def after (transitions : List Transition) : Store := transitions.foldl perform .empty

/-- How many of the transitions notify the subscribers of the store. -/
def notified (s : Store) : List Transition → Nat
  | [] => 0
  | t :: rest =>
    (if (s.perform t).count = s.count then 0 else 1) + notified (s.perform t) rest

theorem reachable_after (transitions : List Transition) : (after transitions).Reachable := by
  induction transitions using List.reverseRecOn with
  | nil => exact .empty
  | append_singleton transitions t ih =>
    rw [after, List.foldl_concat]
    cases t with
    | load detail => exact .load ih detail
    | clear => exact .clear ih
    | event session e => exact .apply (w := ⟨_, session⟩) ih e

theorem nanFree_after {transitions : List Transition} (h : ∀ t ∈ transitions, t.NaNFree) :
    (after transitions).value.NaNFree := by
  induction transitions using List.reverseRecOn with
  | nil => exact .empty 0
  | append_singleton transitions t ih =>
    rw [List.forall_mem_append, List.forall_mem_singleton] at h
    rw [after, List.foldl_concat]
    cases t with
    | load detail => exact .ofDetail h.2 _
    | clear => exact .empty _
    | event session e => exact Workspace.nanFree_apply (ih h.1) h.2

/-- Content without NaN equals itself in every store that transitions lead to. -/
theorem parts_beq_self_after {transitions : List Transition}
    (h : ∀ t ∈ transitions, t.NaNFree) :
    ((after transitions).value.parts == (after transitions).value.parts) = true :=
  (nanFree_after h).parts_beq_self (reachable_after transitions).displayed

theorem notified_concat (s : Store) (transitions : List Transition) (t : Transition) :
    notified s (transitions ++ [t]) =
      notified s transitions +
        if ((transitions.foldl perform s).perform t).count = (transitions.foldl perform s).count
        then 0 else 1 := by
  induction transitions generalizing s with
  | nil => exact Nat.add_comm _ 0
  | cons u transitions ih =>
    rw [List.cons_append, notified, notified, ih, List.foldl_cons, Nat.add_assoc]

/-- A transition leaves the store untouched or is one revision and one publication. -/
theorem perform_eq_or_advances {s : Store} (hself : (s.value.parts == s.value.parts) = true)
    (t : Transition) : s.perform t = s ∨ s.Advances (s.perform t) := by
  cases t with
  | load detail => exact .inr (s.advances_load detail)
  | clear => exact .inr s.advances_clear
  | event session e =>
    have hfaithful := faithful_apply (w := ⟨s, session⟩) hself e
    unfold Faithful at hfaithful
    split at hfaithful
    · exact .inl hfaithful
    · exact .inr hfaithful

theorem revision_count_after {transitions : List Transition} (h : ∀ t ∈ transitions, t.NaNFree) :
    (after transitions).value.revision = (after transitions).count ∧
      (after transitions).count = notified .empty transitions := by
  induction transitions using List.reverseRecOn with
  | nil => exact ⟨rfl, rfl⟩
  | append_singleton transitions t ih =>
    rw [List.forall_mem_append] at h
    obtain ⟨hrevision, hcount⟩ := ih h.1
    have hstep := perform_eq_or_advances (parts_beq_self_after h.1) t
    have hlast : after (transitions ++ [t]) = (after transitions).perform t :=
      List.foldl_concat ..
    have hnotified : notified .empty (transitions ++ [t]) = notified .empty transitions +
        if ((after transitions).perform t).count = (after transitions).count then 0 else 1 :=
      notified_concat .empty transitions t
    rw [hlast, hnotified]
    rcases hstep with hkept | ⟨hnext, hpublished⟩
    · rw [hkept, if_pos rfl]
      exact ⟨hrevision, hcount⟩
    · rw [if_neg (by omega)]
      omega

/-- In every store that transitions lead to, the revision is the number of transitions that have
notified the subscribers. A load and a clear notify them, and are one revision further. So is an
event that changes the content, while any other leaves the store untouched. -/
theorem revision_eq_notified (transitions : List Transition) (h : ∀ t ∈ transitions, t.NaNFree) :
    let s := after transitions
    s.value.revision = notified .empty transitions ∧ s.count = notified .empty transitions ∧
      (∀ detail, s.Advances (s.load detail)) ∧ s.Advances s.clear ∧
      ∀ session e, s.Faithful (Workspace.apply ⟨s, session⟩ e).1.store := by
  intro s
  obtain ⟨hrevision, hcount⟩ := revision_count_after h
  refine ⟨hrevision.trans hcount, hcount, s.advances_load, s.advances_clear, ?_⟩
  intro session e
  exact faithful_apply (w := ⟨s, session⟩) (parts_beq_self_after h) e

/-- A character leaves a crowded node twice: the load and the first departure are published. -/
theorem revision_eq_notified_leaving :
    let uuid : Uuid := ⟨List.replicate 32 0, rfl⟩
    let left : Event := .presence ⟨uuid⟩ .left ⟨"A", none, none, none, none, none⟩
    let transitions : List Transition :=
      [.load (Workspace.crowded uuid), .event .empty left, .event .empty left]
    let s := after transitions
    (∀ t ∈ transitions, t.NaNFree) ∧ notified .empty transitions = 2 ∧
      s.value.revision = notified .empty transitions ∧ s.count = notified .empty transitions ∧
      (∀ detail, s.Advances (s.load detail)) ∧ s.Advances s.clear ∧
      ∀ session e, s.Faithful (Workspace.apply ⟨s, session⟩ e).1.store := by
  intro uuid left transitions s
  have hcrowded : (Workspace.crowded uuid).NaNFree := by
    refine ⟨⟨?_, ?_⟩, ?_, ?_⟩
    · simp [Workspace.crowded]
    · simp [Workspace.crowded]
    · intro n hn
      obtain rfl := List.mem_singleton.mp hn
      have hzero : (0.0 : Float).isNaN = false := by decide
      exact ⟨hzero, hzero, by simp [Node.bare], by simp [Node.bare], by simp [Node.bare]⟩
    · simp [Workspace.crowded]
  have htransitions : ∀ t ∈ transitions, t.NaNFree := by
    simp [transitions, Transition.NaNFree, left, Event.NaNFree, hcrowded]
  exact ⟨htransitions, rfl, revision_eq_notified transitions htransitions⟩

end Store

end WormholeMap

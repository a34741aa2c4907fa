import WormholeMap.Proofs.Graph.Entity
import WormholeMap.Proofs.Map.Equality

/-!
Events that arrive again after later ones. A stream that resumes from an old cursor repeats a window
of events on the graph that they have led to. What becomes of each node and of each link in the
course of events says when this ends in the same graph (`run_replay_iff`). It need not: a node may
list its characters in another order, and a link at a removed node may come back, as the removal of
an absent node removes no links (`run_replay_dangling`).
-/

namespace WormholeMap

/-- The workspace after events. -/
def Workspace.run (w : Workspace) (events : List Event) : Workspace :=
  events.foldl (fun w e => (w.apply e).1) w

/-- Two workspaces have the same nodes and the same links, in any order. -/
structure Workspace.Agree (w w' : Workspace) : Prop where
  nodes : ∀ id, Same (w.store.value.node? id) (w'.store.value.node? id)
  links : ∀ id, Same (w.store.value.link? id) (w'.store.value.link? id)

namespace Event

/-- The event decides the node with an id, whatever was there. -/
def SettlesNode (id : NodeId) : Event → Prop
  | nodeUpdated n => n.id = id
  | nodeDeleted d => d = id
  | _ => False

/-- The event decides the link with an id, whatever was there. -/
def SettlesLink (id : LinkId) : Event → Prop
  | linkUpdated l => l.id = id
  | linkDeleted d => d = id
  | _ => False

/-- What an event makes of the occupants of the node with an id. -/
def occupantsAfter (id : NodeId) (occupants : List Occupant) : Event → List Occupant
  | presence p change o =>
    if p = id then (Graph.changeOccupants change o occupants).getD occupants else occupants
  | _ => occupants

/-- The nodes that are present after an event. -/
def presentAfter (present : NodeId → Bool) : Event → NodeId → Bool
  | nodeCreated n | nodeUpdated n => fun id => n.id == id || present id
  | nodeDeleted d => fun id => d != id && present id
  | _ => present

end Event

/-- What becomes of the link with an id in the course of events, when some nodes are present. -/
def Link.fate (id : LinkId) (present : NodeId → Bool) (x : Option Link) :
    List Event → Option Link
  | [] => x
  | e :: events => fate id (e.presentAfter present) (e.linkAfter id present x) events

/-- One of the events has a link with an id. -/
def Link.Told (id : LinkId) (events : List Event) (l : Link) : Prop :=
  l.id = id ∧ (.linkCreated l ∈ events ∨ .linkUpdated l ∈ events)

/-- One of the events removes a node that is an end of the link with an id, as the link is at first
or as one of them has it. -/
def Link.Struck (id : LinkId) (x : Option Link) (events : List Event) : Prop :=
  ∃ d l, .nodeDeleted d ∈ events ∧ l.touches d ∧ (x = some l ∨ Told id events l)

/-! ### A node in the course of events -/

/-- An entry put in the place of another is the same whatever was there. -/
theorem Graph.same_replaced [BEq α] (a : α) (x : Option α) : Same (replaced a x) a := by
  unfold replaced
  split
  · split
    · rename_i hsame
      exact .inr hsame
    · exact .refl a
  · exact .refl a

theorem Node.same_withPresence {n m : Node} (h : Same n m) (change : PresenceChange)
    (o : Occupant) : Same (n.withPresence change o) (m.withPresence change o) := by
  rcases h with rfl | h
  · exact .refl _
  · rw [Node.beq_iff] at h
    refine .inr ((Node.beq_iff _ _).mpr ?_)
    simp only [Node.withPresence]
    grind

theorem Node.same_withOccupants {n : Node} {a b : List Occupant} :
    Same { n with occupants := a } { n with occupants := b } ↔ a = b := by
  constructor
  · rintro (h | h)
    · exact congrArg Node.occupants h
    · rw [Node.beq_iff] at h
      grind
  · rintro rfl
    exact .refl _

section

variable {id : NodeId} {x y : Option Node} {e : Event} {events : List Event}

theorem Event.same_nodeAfter (h : Same x y) (e : Event) :
    Same (e.nodeAfter id x) (e.nodeAfter id y) := by
  cases e with
  | nodeCreated n =>
    simp only [nodeAfter]
    split
    · exact h.or (some n)
    · exact h
  | nodeUpdated n =>
    simp only [nodeAfter]
    split
    · exact same_some.mpr ((Graph.same_replaced n x).trans (Graph.same_replaced n y).symm)
    · exact h
  | nodeDeleted d =>
    simp only [nodeAfter]
    split
    · exact .refl none
    · exact h
  | presence p change o =>
    simp only [nodeAfter]
    split
    · exact h.map fun a b hab => Node.same_withPresence hab change o
    · exact h
  | _ => exact h

theorem Event.same_nodeAfter_of_settles (h : e.SettlesNode id) :
    Same (e.nodeAfter id x) (e.nodeAfter id y) := by
  cases e with
  | nodeUpdated n =>
    simp only [nodeAfter, if_pos (show n.id = id from h)]
    exact same_some.mpr ((Graph.same_replaced n x).trans (Graph.same_replaced n y).symm)
  | nodeDeleted d =>
    simp only [nodeAfter, if_pos (show d = id from h)]
    exact .refl none
  | _ => exact h.elim

theorem Event.nodeAfter_of_not_settles (h : ¬e.SettlesNode id) (n : Node) :
    e.nodeAfter id (some n) = some { n with occupants := e.occupantsAfter id n.occupants } := by
  cases e with
  | nodeCreated m =>
    simp only [nodeAfter, occupantsAfter]
    split <;> rfl
  | nodeUpdated m => exact if_neg h
  | nodeDeleted d => exact if_neg h
  | presence p change o =>
    simp only [nodeAfter, occupantsAfter]
    split <;> rfl
  | _ => rfl

theorem same_foldl_nodeAfter (h : Same x y) (events : List Event) :
    Same (events.foldl (Event.nodeAfter id) x) (events.foldl (Event.nodeAfter id) y) := by
  induction events generalizing x y with
  | nil => exact h
  | cons e events ih => exact ih (Event.same_nodeAfter h e)

/-- Events of which one decides a node come to the same node from wherever they start. -/
theorem same_foldl_nodeAfter_of_settles (h : ∃ e ∈ events, e.SettlesNode id) (x y : Option Node) :
    Same (events.foldl (Event.nodeAfter id) x) (events.foldl (Event.nodeAfter id) y) := by
  induction events generalizing x y with
  | nil => simp at h
  | cons e events ih =>
    obtain ⟨e', he', hsettles⟩ := h
    rcases List.mem_cons.mp he' with rfl | he'
    · exact same_foldl_nodeAfter (Event.same_nodeAfter_of_settles hsettles) events
    · exact ih ⟨e', he', hsettles⟩ _ _

/-- Events of which none decides a present node change its occupants alone. -/
theorem foldl_nodeAfter_of_not_settles (h : ∀ e ∈ events, ¬e.SettlesNode id) (n : Node) :
    events.foldl (Event.nodeAfter id) (some n) =
      some { n with occupants := events.foldl (Event.occupantsAfter id) n.occupants } := by
  induction events generalizing n with
  | nil => rfl
  | cons e events ih =>
    rw [List.forall_mem_cons] at h
    rw [List.foldl_cons, Event.nodeAfter_of_not_settles h.1, ih h.2]
    rfl

/-- What is still absent after events is so after them again. -/
theorem foldl_nodeAfter_none (h : ∀ e ∈ events, ¬e.SettlesNode id)
    (hx : events.foldl (Event.nodeAfter id) x = none) :
    events.foldl (Event.nodeAfter id) none = none := by
  cases x with
  | none => exact hx
  | some n =>
    rw [foldl_nodeAfter_of_not_settles h] at hx
    cases hx

/-- When a node that a window of events has come to, and other events after, is the same after the
window again: if one of the events decides it, or it is absent, or its occupants are the same. -/
theorem same_replay_node (id : NodeId) (x : Option Node) (window after : List Event) :
    let passed := window.foldl (Event.nodeAfter id) x
    Same ((window ++ after).foldl (Event.nodeAfter id) passed)
        (after.foldl (Event.nodeAfter id) passed) ↔
      ∀ n, passed = some n → (∀ e ∈ window ++ after, ¬e.SettlesNode id) →
        (window ++ after).foldl (Event.occupantsAfter id) n.occupants =
          after.foldl (Event.occupantsAfter id) n.occupants := by
  intro passed
  by_cases hafter : ∃ e ∈ after, e.SettlesNode id
  · obtain ⟨e, he, hsettles⟩ := hafter
    rw [List.foldl_append]
    refine iff_of_true (same_foldl_nodeAfter_of_settles ⟨e, he, hsettles⟩ _ _) ?_
    exact fun n hn hnone => absurd hsettles (hnone e (List.mem_append_right window he))
  by_cases hwindow : ∃ e ∈ window, e.SettlesNode id
  · obtain ⟨e, he, hsettles⟩ := hwindow
    have hagain := same_foldl_nodeAfter_of_settles ⟨e, he, hsettles⟩ passed x
    rw [List.foldl_append]
    refine iff_of_true (same_foldl_nodeAfter hagain after) ?_
    exact fun n hn hnone => absurd hsettles (hnone e (List.mem_append_left after he))
  have hnone : ∀ e ∈ window ++ after, ¬e.SettlesNode id := by
    intro e he hsettles
    rcases List.mem_append.mp he with he | he
    · exact hwindow ⟨e, he, hsettles⟩
    · exact hafter ⟨e, he, hsettles⟩
  cases hpassed : passed with
  | none =>
    have hkept : ∀ e ∈ window, ¬e.SettlesNode id := fun e he =>
      hnone e (List.mem_append_left after he)
    have hagain := foldl_nodeAfter_none hkept hpassed
    rw [List.foldl_append, hagain]
    exact iff_of_true (.refl _) fun n hn => by cases hn
  | some n =>
    rw [foldl_nodeAfter_of_not_settles hnone, foldl_nodeAfter_of_not_settles fun e he =>
      hnone e (List.mem_append_right window he), same_some, Node.same_withOccupants]
    constructor
    · rintro h m ⟨⟩ -
      exact h
    · exact fun h => h n rfl hnone

end

/-! ### The nodes that are present -/

theorem Event.isSome_nodeAfter (e : Event) (present : NodeId → Bool) {x : Option Node}
    {id : NodeId} (h : x.isSome = present id) :
    (e.nodeAfter id x).isSome = e.presentAfter present id := by
  cases e with
  | nodeCreated n =>
    simp only [nodeAfter, presentAfter]
    split <;> simp_all
  | nodeUpdated n =>
    simp only [nodeAfter, presentAfter]
    split <;> simp_all
  | nodeDeleted d =>
    simp only [nodeAfter, presentAfter]
    split <;> simp_all
  | presence p change o =>
    simp only [nodeAfter, presentAfter]
    split <;> simp_all
  | _ => exact h

/-- Events decide whether a node is present, or leave it as it is. -/
theorem foldl_presentAfter (events : List Event) (id : NodeId) :
    (∃ b, ∀ present, events.foldl Event.presentAfter present id = b) ∨
      ∀ present, events.foldl Event.presentAfter present id = present id := by
  induction events with
  | nil => exact .inr fun _ => rfl
  | cons e events ih =>
    rcases ih with ⟨b, hb⟩ | hkept
    · exact .inl ⟨b, fun present => hb _⟩
    · have hstep : (∃ b, ∀ present, e.presentAfter present id = b) ∨
          ∀ present, e.presentAfter present id = present id := by
        cases e with
        | nodeCreated n | nodeUpdated n =>
          by_cases hid : n.id = id
          · exact .inl ⟨true, fun present => by simp [Event.presentAfter, hid]⟩
          · exact .inr fun present => by simp [Event.presentAfter, hid]
        | nodeDeleted d =>
          by_cases hid : d = id
          · exact .inl ⟨false, fun present => by simp [Event.presentAfter, hid]⟩
          · exact .inr fun present => by simp [Event.presentAfter, hid]
        | _ => exact .inr fun _ => rfl
      rcases hstep with ⟨b, hb⟩ | hstep
      · exact .inl ⟨b, fun present => (hkept _).trans (hb present)⟩
      · exact .inr fun present => (hkept _).trans (hstep present)

theorem foldl_presentAfter_again (events : List Event) (present : NodeId → Bool) :
    events.foldl Event.presentAfter (events.foldl Event.presentAfter present) =
      events.foldl Event.presentAfter present := by
  funext id
  rcases foldl_presentAfter events id with ⟨b, hb⟩ | hkept
  · rw [hb, hb]
  · rw [hkept]

/-! ### A link in the course of events -/

theorem Link.same_touches {a b : Link} (h : Same a b) (d : NodeId) : a.touches d = b.touches d := by
  rcases h with rfl | h
  · rfl
  · obtain ⟨-, hsource, htarget, -⟩ := (Link.beq_iff a b).mp h
    rw [touches, touches, hsource, htarget]

section

variable {id : LinkId} {present : NodeId → Bool} {x y : Option Link} {e : Event} {l : Link}
  {events : List Event}

theorem Event.same_linkAfter (h : Same x y) (e : Event) :
    Same (e.linkAfter id present x) (e.linkAfter id present y) := by
  cases e with
  | linkCreated l =>
    simp only [linkAfter]
    split
    · exact h.or (some l)
    · exact h
  | linkUpdated l =>
    simp only [linkAfter]
    split
    · exact same_some.mpr ((Graph.same_replaced l x).trans (Graph.same_replaced l y).symm)
    · exact h
  | linkDeleted d =>
    simp only [linkAfter]
    split
    · exact .refl none
    · exact h
  | nodeDeleted d =>
    simp only [linkAfter]
    split
    · exact h.filter fun a b hab => by rw [Link.same_touches hab]
    · exact h
  | _ => exact h

theorem Event.same_linkAfter_of_settles (h : e.SettlesLink id) :
    Same (e.linkAfter id present x) (e.linkAfter id present y) := by
  cases e with
  | linkUpdated l =>
    simp only [linkAfter, if_pos (show l.id = id from h)]
    exact same_some.mpr ((Graph.same_replaced l x).trans (Graph.same_replaced l y).symm)
  | linkDeleted d =>
    simp only [linkAfter, if_pos (show d = id from h)]
    exact .refl none
  | _ => exact h.elim

theorem Link.Told.cons (h : Told id events l) (e : Event) : Told id (e :: events) l :=
  ⟨h.1, h.2.imp (List.mem_cons_of_mem e) (List.mem_cons_of_mem e)⟩

/-- A link after an event is as it was, or as the event has it. -/
theorem Event.linkAfter_eq_some (h : e.linkAfter id present x = some l) (events : List Event) :
    x = some l ∨ Link.Told id (e :: events) l := by
  cases e with
  | linkCreated l' =>
    simp only [linkAfter] at h
    split at h
    · cases x with
      | none =>
        cases h
        exact .inr ⟨by assumption, .inl List.mem_cons_self⟩
      | some old => exact .inl h
    · exact .inl h
  | linkUpdated l' =>
    simp only [linkAfter] at h
    split at h
    · have hl' : Link.Told id (linkUpdated l' :: events) l' :=
        ⟨by assumption, .inr List.mem_cons_self⟩
      cases x with
      | none =>
        cases h
        exact .inr hl'
      | some old =>
        simp only [Graph.replaced] at h
        split at h
        · exact .inl h
        · cases h
          exact .inr hl'
    · exact .inl h
  | linkDeleted d =>
    simp only [linkAfter] at h
    split at h
    · cases h
    · exact .inl h
  | nodeDeleted d =>
    simp only [linkAfter] at h
    split at h
    · exact .inl (Option.filter_eq_some_iff.mp h).1
    · exact .inl h
  | _ => exact .inl h

namespace Link

theorem fate_append (first second : List Event) : fate id present x (first ++ second) =
    fate id (first.foldl Event.presentAfter present) (fate id present x first) second := by
  induction first generalizing present x with
  | nil => rfl
  | cons e first ih => exact ih

theorem same_fate (h : Same x y) (events : List Event) :
    Same (fate id present x events) (fate id present y events) := by
  induction events generalizing present x y with
  | nil => exact h
  | cons e events ih => exact ih (Event.same_linkAfter h e)

/-- Events of which one decides a link come to the same link from wherever they start. -/
theorem same_fate_of_settles (h : ∃ e ∈ events, e.SettlesLink id) (x y : Option Link) :
    Same (fate id present x events) (fate id present y events) := by
  induction events generalizing present x y with
  | nil => simp at h
  | cons e events ih =>
    obtain ⟨e', he', hsettles⟩ := h
    rcases List.mem_cons.mp he' with rfl | he'
    · exact same_fate (Event.same_linkAfter_of_settles hsettles) events
    · exact ih ⟨e', he', hsettles⟩ _ _

/-- A link that comes of events is the first one, or one of them has it. -/
theorem fate_eq_some (h : fate id present x events = some l) : x = some l ∨ Told id events l := by
  induction events generalizing present x with
  | nil => exact .inl h
  | cons e events ih =>
    rcases ih h with hx | hl
    · exact Event.linkAfter_eq_some hx events
    · exact .inr (hl.cons e)

theorem not_struck_tail (h : ¬Struck id x (e :: events)) :
    ¬Struck id (e.linkAfter id present x) events := by
  rintro ⟨d, l, hd, htouches, hl⟩
  refine h ⟨d, l, List.mem_cons_of_mem e hd, htouches, ?_⟩
  rcases hl with hx | hl
  · exact Event.linkAfter_eq_some hx events
  · exact .inr (hl.cons e)

theorem not_struck_fate (h : ¬Struck id x events) :
    ¬Struck id (fate id present x events) events := by
  rintro ⟨d, l, hd, htouches, hl⟩
  refine h ⟨d, l, hd, htouches, ?_⟩
  rcases hl with hx | hl
  · exact fate_eq_some hx
  · exact .inr hl

/-- A link that no event strikes comes to what the events about it make of it. -/
theorem fate_of_not_struck (h : ¬Struck id x events) :
    fate id present x events = events.foldl (Event.linkAfter id fun _ => false) x := by
  induction events generalizing present x with
  | nil => rfl
  | cons e events ih =>
    have hstep : e.linkAfter id present x = e.linkAfter id (fun _ => false) x := by
      cases e with
      | nodeDeleted d =>
        cases x with
        | none => simp [Event.linkAfter]
        | some l =>
          have htouches : ¬l.touches d := fun hl => h ⟨d, l, List.mem_cons_self, hl, .inl rfl⟩
          simp [Event.linkAfter, htouches]
      | _ => rfl
    rw [fate, ih (not_struck_tail h), List.foldl_cons, hstep]

/-- Events about a link of which none decides it keep it, or come to the first that is created. -/
theorem foldl_linkAfter_of_not_settles (h : ∀ e ∈ events, ¬e.SettlesLink id) (x : Option Link) :
    events.foldl (Event.linkAfter id fun _ => false) x =
      x.or (events.foldl (Event.linkAfter id fun _ => false) none) := by
  induction events generalizing x with
  | nil => exact (Option.or_none).symm
  | cons e events ih =>
    rw [List.forall_mem_cons] at h
    have hstep : e.linkAfter id (fun _ => false) x =
        x.or (e.linkAfter id (fun _ => false) none) := by
      cases e with
      | linkCreated l =>
        simp only [Event.linkAfter]
        split <;> simp
      | linkUpdated l => simp [Event.linkAfter, show ¬l.id = id from h.1]
      | linkDeleted d => simp [Event.linkAfter, show ¬d = id from h.1]
      | _ => simp [Event.linkAfter]
    rw [List.foldl_cons, List.foldl_cons, hstep, ih h.2, ih h.2 (e.linkAfter id _ none),
      Option.or_assoc]

/-- A link that no event strikes is the same after the events again. -/
theorem same_fate_again {present' : NodeId → Bool} (h : ¬Struck id x events) :
    Same (fate id present' (fate id present x events) events) (fate id present x events) := by
  by_cases hsettles : ∃ e ∈ events, e.SettlesLink id
  · have hsame : fate id present' x events = fate id present x events := by
      rw [fate_of_not_struck h, fate_of_not_struck h]
    rw [← hsame]
    exact same_fate_of_settles hsettles _ _
  · have hnone : ∀ e ∈ events, ¬e.SettlesLink id := fun e he hs => hsettles ⟨e, he, hs⟩
    have honce : fate id present x events =
        x.or (events.foldl (Event.linkAfter id fun _ => false) none) := by
      rw [fate_of_not_struck h, foldl_linkAfter_of_not_settles hnone]
    rw [fate_of_not_struck (not_struck_fate h), foldl_linkAfter_of_not_settles hnone, honce,
      Option.or_assoc, Option.or_self]
    exact .refl _

/-- When a link that a window of events has come to, and other events after, is the same after the
window again: unless the window strikes it and no event after decides it. -/
theorem same_replay_link (id : LinkId) (present : NodeId → Bool) (x : Option Link)
    (window after : List Event) :
    let passed := fate id present x window
    let present' := window.foldl Event.presentAfter present
    Same (fate id present' passed (window ++ after)) (fate id present' passed after) ↔
      (Struck id x window → (∀ e ∈ after, ¬e.SettlesLink id) →
        Same (fate id present' passed (window ++ after)) (fate id present' passed after)) := by
  intro passed present'
  refine ⟨fun h _ _ => h, fun h => ?_⟩
  have happend : fate id present' passed (window ++ after) =
      fate id present' (fate id present' passed window) after := by
    rw [fate_append, foldl_presentAfter_again]
  by_cases hafter : ∃ e ∈ after, e.SettlesLink id
  · rw [happend]
    exact same_fate_of_settles hafter _ _
  by_cases hstruck : Struck id x window
  · exact h hstruck fun e he hsettles => hafter ⟨e, he, hsettles⟩
  · rw [happend]
    exact same_fate (same_fate_again hstruck) after

end Link

end

/-! ### Workspaces in the course of events -/

namespace Workspace

variable (w : Workspace)

theorem run_append (first second : List Event) :
    w.run (first ++ second) = (w.run first).run second :=
  List.foldl_append

theorem node?_run (events : List Event) (id : NodeId) : (w.run events).store.value.node? id =
    events.foldl (Event.nodeAfter id) (w.store.value.node? id) := by
  induction events generalizing w with
  | nil => rfl
  | cons e events ih =>
    rw [List.foldl_cons, ← node?_apply]
    exact ih (w.apply e).1

def present (id : NodeId) : Bool := (w.store.value.node? id).isSome

theorem present_apply (e : Event) : (w.apply e).1.present = e.presentAfter w.present := by
  funext id
  rw [present, node?_apply]
  exact e.isSome_nodeAfter w.present rfl

theorem present_run (events : List Event) :
    (w.run events).present = events.foldl Event.presentAfter w.present := by
  induction events generalizing w with
  | nil => rfl
  | cons e events ih =>
    rw [List.foldl_cons, ← present_apply]
    exact ih (w.apply e).1

theorem nodup_links_run (h : (w.store.value.links.map Link.id).Nodup) (events : List Event) :
    ((w.run events).store.value.links.map Link.id).Nodup := by
  induction events generalizing w with
  | nil => exact h
  | cons e events ih => exact ih (w.apply e).1 (nodup_links_apply w h e)

theorem link?_run (h : (w.store.value.links.map Link.id).Nodup) (events : List Event)
    (id : LinkId) : (w.run events).store.value.link? id =
      Link.fate id w.present (w.store.value.link? id) events := by
  induction events generalizing w with
  | nil => rfl
  | cons e events ih =>
    have hstep := link?_apply w h e id
    rw [Link.fate, ← present_apply]
    exact (ih (w.apply e).1 (nodup_links_apply w h e)).trans (by rw [hstep]; rfl)

section

variable {w w' w'' : Workspace}

theorem Agree.refl (w : Workspace) : w.Agree w := ⟨fun _ => .refl _, fun _ => .refl _⟩

theorem Agree.symm (h : w.Agree w') : w'.Agree w :=
  ⟨fun id => (h.nodes id).symm, fun id => (h.links id).symm⟩

theorem Agree.trans (h : w.Agree w') (h' : w'.Agree w'') : w.Agree w'' :=
  ⟨fun id => (h.nodes id).trans (h'.nodes id), fun id => (h.links id).trans (h'.links id)⟩

theorem Agree.present_eq (h : w.Agree w') : w.present = w'.present := by
  funext id
  rcases (h.nodes id).option with ⟨hn, hn'⟩ | ⟨n, n', hn, hn', -⟩
  · rw [present, present, hn, hn']
  · rw [present, present, hn, hn']
    rfl

/-- Workspaces that agree do so after the same events. -/
theorem Agree.run (h : w.Agree w') (hw : (w.store.value.links.map Link.id).Nodup)
    (hw' : (w'.store.value.links.map Link.id).Nodup) (events : List Event) :
    (w.run events).Agree (w'.run events) where
  nodes id := by
    rw [node?_run, node?_run]
    exact same_foldl_nodeAfter (h.nodes id) events
  links id := by
    rw [link?_run w hw, link?_run w' hw', h.present_eq]
    exact Link.same_fate (h.links id) events

end

/-- When a replay comes to the same nodes and links: a window of events arrives, and again before
the events after it. A node comes out the same if an event of the window or after it updates or
removes it, and otherwise if the changes to its occupants, made again, lead to the same list. A link
comes out the same if the window does not strike it or an event after the window updates or removes
it, and otherwise if its fate is the same from the nodes that are present after the window. -/
theorem run_replay_iff (detail : MapDetail) (before window after : List Event) :
    let loaded : Workspace := { w with store := w.store.load detail }
    let start := loaded.run before
    let passed := loaded.run (before ++ window)
    (loaded.run (before ++ window ++ (window ++ after))).Agree
        (loaded.run (before ++ window ++ after)) ↔
      (∀ id n, passed.store.value.node? id = some n →
        (∀ e ∈ window ++ after, ¬e.SettlesNode id) →
        (window ++ after).foldl (Event.occupantsAfter id) n.occupants =
          after.foldl (Event.occupantsAfter id) n.occupants) ∧
      ∀ id, Link.Struck id (start.store.value.link? id) window →
        (∀ e ∈ after, ¬e.SettlesLink id) →
        Same (Link.fate id passed.present (passed.store.value.link? id) (window ++ after))
          (Link.fate id passed.present (passed.store.value.link? id) after) := by
  intro loaded start passed
  have hrun : passed = start.run window := run_append loaded before window
  have hloaded : (loaded.store.value.links.map Link.id).Nodup := Graph.nodup_collect
  have hstart := nodup_links_run loaded hloaded before
  have hpassed := nodup_links_run loaded hloaded (before ++ window)
  have hnode (id : NodeId) := same_replay_node id (start.store.value.node? id) window after
  simp only [← node?_run, ← hrun] at hnode
  have hlink (id : LinkId) :=
    Link.same_replay_link id start.present (start.store.value.link? id) window after
  simp only [← link?_run start hstart, ← present_run, ← hrun] at hlink
  simp only [← link?_run passed hpassed] at hlink ⊢
  rw [run_append loaded (before ++ window), run_append loaded (before ++ window)]
  constructor
  · intro h
    exact ⟨fun id => (hnode id).mp (h.nodes id), fun id => (hlink id).mp (h.links id)⟩
  · rintro ⟨hnodes, hlinks⟩
    exact ⟨fun id => (hnode id).mpr (hnodes id), fun id => (hlink id).mpr (hlinks id)⟩

def paired (map first second : Uuid) : MapDetail where
  map := ⟨⟨map⟩, map, "m", none, false, false, .default, .tb, false, none, none, true, none, none⟩
  nodes := [.bare ⟨first⟩ 30000001 .origin, .bare ⟨second⟩ 30000002 .origin]
  links := []

/-- A link between two nodes is created and one of the nodes is removed. When both events arrive
again the link comes back and stays, as the node is not there to be removed. -/
theorem run_replay_dangling :
    let uuid (k : Fin 16) : Uuid := ⟨List.replicate 31 0 ++ [k], rfl⟩
    let events : List Event :=
      [.linkCreated (.between ⟨uuid 3⟩ ⟨uuid 1⟩ ⟨uuid 2⟩), .nodeDeleted ⟨uuid 1⟩]
    let loaded : Workspace :=
      { empty with store := Store.empty.load (paired (uuid 0) (uuid 1) (uuid 2)) }
    (∀ e ∈ events, ∀ w : Workspace, (w.apply e).2 = .proceed) ∧
      ¬(loaded.run (events ++ events)).Agree (loaded.run events) := by
  intro uuid events loaded
  refine ⟨by simp [events, apply], fun h => ?_⟩
  have honce : (loaded.run events).store.value.link? ⟨uuid 3⟩ = none := rfl
  have htwice : (loaded.run (events ++ events)).store.value.link? ⟨uuid 3⟩ =
      some (.between ⟨uuid 3⟩ ⟨uuid 1⟩ ⟨uuid 2⟩) := rfl
  have hsame := h.links ⟨uuid 3⟩
  rw [honce, htwice] at hsame
  cases same_none_right.mp hsame

end Workspace

end WormholeMap

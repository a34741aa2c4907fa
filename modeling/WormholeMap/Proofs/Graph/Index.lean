import WormholeMap.Proofs.Graph.Revision

/-!
The nodes and the links of a graph under keys. They are kept in an index, where each is found under a
key, and nothing but the writes of the graph says that the key of an entity is its own id. With such
indices in place of lists, loads, drops and events lead to the same graphs, and what is found under
an id is always the entity with that id (`IndexedStore.shows_after`).
-/

namespace WormholeMap

/-! ### Indices -/

/-- Values in the order in which their keys came in, each under a key of its own. -/
structure Index (κ α : Type) where
  entries : List (κ × α)
  nodup : (entries.map Prod.fst).Nodup

namespace Index

variable {κ : Type}

def empty : Index κ α := ⟨[], List.nodup_nil⟩

/-- Keeps the entries that fit. -/
def retain (i : Index κ α) (fits : κ → α → Bool) : Index κ α :=
  ⟨i.entries.filter fun e => fits e.1 e.2, Graph.nodup_filter i.nodup _⟩

section

variable [BEq κ]

def get? (i : Index κ α) (k : κ) : Option α := (i.entries.find? (·.1 == k)).map Prod.snd

def place? (i : Index κ α) (k : κ) : Option Nat := i.entries.findIdx? (·.1 == k)

/-- Removes what is under a key. What comes after it moves up. -/
def remove (i : Index κ α) (k : κ) : Index κ α :=
  ⟨i.entries.eraseP (·.1 == k), i.nodup.sublist (List.eraseP_sublist.map _)⟩

def remove? (i : Index κ α) (k : κ) : Option (Index κ α) := (i.get? k).map fun _ => i.remove k

variable [LawfulBEq κ]

/-- Puts a value under a key: in the place of the one there, or at the end. -/
def insert (i : Index κ α) (k : κ) (a : α) : Index κ α :=
  ⟨Graph.upsert Prod.fst (k, a) i.entries, Graph.nodup_upsert i.nodup⟩

/-- Puts values under their keys, one after another. -/
def collect (given : List (κ × α)) : Index κ α := given.foldl (fun i e => i.insert e.1 e.2) empty

/-- Puts a value under a key that is not taken. -/
def insertNew (i : Index κ α) (k : κ) (a : α) : Option (Index κ α) :=
  match i.get? k with
  | some _ => none
  | none => some (i.insert k a)

/-- Puts a value under a key, unless the one there equals it. -/
def replace [BEq α] (i : Index κ α) (k : κ) (a : α) : Option (Index κ α) :=
  match i.get? k with
  | some old => if old == a then none else some (i.insert k a)
  | none => i.insertNew k a

end

/-! ### Indices and lists -/

/-- An index holds the values of a list in their order, each under its own key. -/
def Holds (key : α → κ) (i : Index κ α) (l : List α) : Prop := i.entries = l.map fun a => (key a, a)

section

variable {key : α → κ} {i : Index κ α} {l : List α} {a : α} {k : κ}

theorem Holds.empty : (empty : Index κ α).Holds key [] := rfl

/-- The list has each key once, as the index has. -/
theorem Holds.nodup (h : i.Holds key l) : (l.map key).Nodup := by
  have hkeys := i.nodup
  rwa [h, List.map_map] at hkeys

theorem Holds.retain (h : i.Holds key l) (fits : α → Bool) :
    (i.retain fun _ => fits).Holds key (l.filter fits) := by
  show i.entries.filter (fun e => fits e.2) = _
  rw [h, List.filter_map]
  rfl

variable [BEq κ]

theorem Holds.get? (h : i.Holds key l) (k : κ) : i.get? k = l.find? (key · == k) := by
  rw [Index.get?, h, List.find?_map, Option.map_map]
  exact Option.map_id'

theorem Holds.place? (h : i.Holds key l) (k : κ) : i.place? k = l.findIdx? (key · == k) := by
  rw [Index.place?, h, List.findIdx?_map]
  rfl

/-- A new key comes last. -/
theorem upsert_of_none (h : l.find? (key · == key a) = none) : Graph.upsert key a l = l ++ [a] := by
  induction l with
  | nil => rfl
  | cons b l ih =>
    have hb : ¬key b == key a := List.find?_eq_none.mp h b List.mem_cons_self
    rw [List.find?_cons_of_neg (p := (key · == key a)) hb] at h
    rw [Graph.upsert, if_neg hb, ih h, List.cons_append]

variable [LawfulBEq κ]

theorem eraseP_eq_filter (h : (l.map key).Nodup) :
    l.eraseP (key · == k) = l.filter (key · != k) := by
  induction l with
  | nil => rfl
  | cons b l ih =>
    obtain ⟨hb, hl⟩ := List.nodup_cons.mp h
    by_cases hk : key b == k
    · have hothers : l.filter (key · != k) = l := Graph.filter_ne_of_find?_eq_none
        (Graph.find?_eq_none_of_notMem (eq_of_beq hk ▸ hb))
      rw [List.eraseP_cons_of_pos (p := (key · == k)) hk,
        List.filter_cons_of_neg (by simp [eq_of_beq hk]), hothers]
    · rw [List.eraseP_cons_of_neg (p := (key · == k)) hk, List.filter_cons_of_pos (by simpa using hk),
        ih hl]

theorem Holds.remove (h : i.Holds key l) (k : κ) :
    (i.remove k).Holds key (l.filter (key · != k)) := by
  show i.entries.eraseP (·.1 == k) = _
  rw [h, List.eraseP_map, ← eraseP_eq_filter h.nodup]
  rfl

theorem Holds.insert (h : i.Holds key l) (a : α) :
    (i.insert (key a) a).Holds key (Graph.upsert key a l) := by
  show Graph.upsert Prod.fst (key a, a) i.entries = _
  rw [h]
  clear h
  induction l with
  | nil => rfl
  | cons b l ih =>
    rw [Graph.upsert, List.map_cons, Graph.upsert]
    split
    · rfl
    · rw [ih]
      rfl

theorem holds_collect (l : List α) :
    (collect (l.map fun a => (key a, a))).Holds key (Graph.collect key l) := by
  induction l using List.reverseRecOn with
  | nil => exact .empty
  | append_singleton l a ih =>
    rw [collect, List.map_append, List.foldl_append, Graph.collect_concat]
    exact ih.insert a

/-! ### Writes that may change nothing -/

/-- Appends a value, if its key is new. -/
def append? (key : α → κ) (a : α) (l : List α) : Option (List α) :=
  match l.find? (key · == key a) with
  | some _ => none
  | none => some (l ++ [a])

/-- Puts a value in the place of the one with its key, if that differs from it, or appends it. -/
def put? [BEq α] (key : α → κ) (a : α) (l : List α) : Option (List α) :=
  match l.find? (key · == key a) with
  | some old => if old == a then none else some (Graph.upsert key a l)
  | none => some (l ++ [a])

/-- Removes the values with a key, if there is one. -/
def drop? (key : α → κ) (k : κ) (l : List α) : Option (List α) :=
  match l.find? (key · == k) with
  | some _ => some (l.filter (key · != k))
  | none => none

theorem Holds.insertNew (h : i.Holds key l) (a : α) :
    Option.Rel (Holds key) (i.insertNew (key a) a) (append? key a l) := by
  rw [Index.insertNew, h.get?, append?]
  split
  · exact .none
  · rename_i hnone
    rw [← upsert_of_none hnone]
    exact .some (h.insert a)

theorem Holds.replace [BEq α] (h : i.Holds key l) (a : α) :
    Option.Rel (Holds key) (i.replace (key a) a) (put? key a l) := by
  rw [Index.replace, h.get?, put?]
  cases hfind : l.find? (key · == key a) with
  | some old =>
    simp only
    split
    · exact .none
    · exact .some (h.insert a)
  | none =>
    have hnew := h.insertNew a
    rwa [append?, hfind] at hnew

theorem Holds.remove? (h : i.Holds key l) (k : κ) :
    Option.Rel (Holds key) (i.remove? k) (drop? key k l) := by
  rw [Index.remove?, h.get?, drop?]
  cases l.find? (key · == k) with
  | some _ => exact .some (h.remove k)
  | none => exact .none

end

end Index

/-! ### Graphs under keys -/

/-- The open map, with its nodes and links under keys. -/
structure IndexedGraph where
  map : Option MapInfo
  display : Display
  nodes : Index NodeId Node
  links : Index LinkId Link
  revision : Nat

namespace IndexedGraph

def empty : IndexedGraph := ⟨none, .standard, .empty, .empty, 0⟩

def ofDetail (detail : MapDetail) (revision : Nat) : IndexedGraph where
  map := some detail.map
  display := detail.map.display
  nodes := .collect (detail.nodes.map fun n => (n.id, n))
  links := .collect (detail.links.map fun l => (l.id, l))
  revision

section

variable (x : IndexedGraph)

def insertNode (n : Node) : Option IndexedGraph :=
  (x.nodes.insertNew n.id n).map ({ x with nodes := · })

def replaceNode (n : Node) : Option IndexedGraph :=
  (x.nodes.replace n.id n).map ({ x with nodes := · })

/-- Removes a node and the links at it. -/
def removeNode (id : NodeId) : Option IndexedGraph :=
  (x.nodes.remove? id).map fun nodes =>
    { x with nodes, links := x.links.retain fun _ l => !l.touches id }

def insertLink (l : Link) : Option IndexedGraph :=
  (x.links.insertNew l.id l).map ({ x with links := · })

def replaceLink (l : Link) : Option IndexedGraph :=
  (x.links.replace l.id l).map ({ x with links := · })

def removeLink (id : LinkId) : Option IndexedGraph :=
  (x.links.remove? id).map ({ x with links := · })

def setMap (m : MapInfo) : Option IndexedGraph :=
  if x.map == some m then none else some { x with map := some m, display := m.display }

/-- Records a change to the presence of a character, under the id of a node. -/
def setPresence (id : NodeId) (change : PresenceChange) (o : Occupant) : Option IndexedGraph :=
  match x.nodes.get? id with
  | none => none
  | some n =>
    (Graph.changeOccupants change o n.occupants).map fun occupants =>
      { x with nodes := x.nodes.insert id { n with occupants } }

def keepAccess (m : MapInfo) : MapInfo :=
  match x.map with
  | some current => { m with editAccess := current.editAccess }
  | none => m

/-- What an event writes, if it changes anything. -/
def write? : Event → Option IndexedGraph
  | .nodeCreated n => x.insertNode n
  | .nodeUpdated n => x.replaceNode n
  | .nodeDeleted id => x.removeNode id
  | .linkCreated l => x.insertLink l
  | .linkUpdated l => x.replaceLink l
  | .linkDeleted id => x.removeLink id
  | .mapUpdated m => x.setMap (x.keepAccess m)
  | .presence id change o => x.setPresence id change o
  | _ => none

end

/-- A graph has the nodes and links that are under their own ids, and is the same in the rest. -/
structure Shows (x : IndexedGraph) (g : Graph) : Prop where
  map : x.map = g.map
  display : x.display = g.display
  nodes : x.nodes.Holds Node.id g.nodes
  links : x.links.Holds Link.id g.links
  revision : x.revision = g.revision

namespace Shows

variable {x : IndexedGraph} {g : Graph}

theorem empty (revision : Nat) :
    Shows { IndexedGraph.empty with revision } { Graph.empty with revision } :=
  ⟨rfl, rfl, .empty, .empty, rfl⟩

theorem ofDetail (detail : MapDetail) (revision : Nat) :
    (IndexedGraph.ofDetail detail revision).Shows (.ofDetail detail revision) :=
  ⟨rfl, rfl, Index.holds_collect _, Index.holds_collect _, rfl⟩

theorem moved (h : x.Shows g) (revision : Nat) :
    Shows { x with revision } { g with revision } :=
  ⟨h.map, h.display, h.nodes, h.links, rfl⟩

theorem withNodes (h : x.Shows g) {nodes : Option (Index NodeId Node)} {list : Option (List Node)}
    (hnodes : Option.Rel (Index.Holds Node.id) nodes list) :
    Option.Rel Shows (nodes.map ({ x with nodes := · })) (list.map ({ g with nodes := · })) := by
  cases hnodes with
  | some hholds => exact .some { h with nodes := hholds }
  | none => exact .none

theorem withLinks (h : x.Shows g) {links : Option (Index LinkId Link)} {list : Option (List Link)}
    (hlinks : Option.Rel (Index.Holds Link.id) links list) :
    Option.Rel Shows (links.map ({ x with links := · })) (list.map ({ g with links := · })) := by
  cases hlinks with
  | some hholds => exact .some { h with links := hholds }
  | none => exact .none

theorem insertNode (h : x.Shows g) (n : Node) :
    Option.Rel Shows (x.insertNode n) (g.insertNode n) := by
  have hwritten : g.insertNode n = (Index.append? Node.id n g.nodes).map ({ g with nodes := · }) := by
    unfold Graph.insertNode Graph.node? Index.append?
    cases g.nodes.find? (·.id == n.id) <;> rfl
  rw [hwritten]
  exact h.withNodes (h.nodes.insertNew n)

theorem insertLink (h : x.Shows g) (l : Link) :
    Option.Rel Shows (x.insertLink l) (g.insertLink l) := by
  have hwritten : g.insertLink l = (Index.append? Link.id l g.links).map ({ g with links := · }) := by
    unfold Graph.insertLink Graph.link? Index.append?
    cases g.links.find? (·.id == l.id) <;> rfl
  rw [hwritten]
  exact h.withLinks (h.links.insertNew l)

theorem replaceNode (h : x.Shows g) (n : Node) :
    Option.Rel Shows (x.replaceNode n) (g.replaceNode n) := by
  have hwritten : g.replaceNode n = (Index.put? Node.id n g.nodes).map ({ g with nodes := · }) := by
    unfold Graph.replaceNode Graph.node? Index.put?
    cases g.nodes.find? (·.id == n.id) with
    | some old => cases hsame : old == n <;> simp [hsame]
    | none => rfl
  rw [hwritten]
  exact h.withNodes (h.nodes.replace n)

theorem replaceLink (h : x.Shows g) (l : Link) :
    Option.Rel Shows (x.replaceLink l) (g.replaceLink l) := by
  have hwritten : g.replaceLink l = (Index.put? Link.id l g.links).map ({ g with links := · }) := by
    unfold Graph.replaceLink Graph.link? Index.put?
    cases g.links.find? (·.id == l.id) with
    | some old => cases hsame : old == l <;> simp [hsame]
    | none => rfl
  rw [hwritten]
  exact h.withLinks (h.links.replace l)

theorem removeNode (h : x.Shows g) (id : NodeId) :
    Option.Rel Shows (x.removeNode id) (g.removeNode id) := by
  have hwritten : g.removeNode id = (Index.drop? Node.id id g.nodes).map fun nodes =>
      { g with nodes, links := g.links.filter (!·.touches id) } := by
    unfold Graph.removeNode Graph.node? Index.drop?
    cases g.nodes.find? (·.id == id) <;> rfl
  have hremoved := h.nodes.remove? id
  rw [hwritten, IndexedGraph.removeNode]
  generalize x.nodes.remove? id = removed at hremoved ⊢
  generalize Index.drop? Node.id id g.nodes = left at hremoved ⊢
  cases hremoved with
  | some hholds => exact .some { h with nodes := hholds, links := h.links.retain _ }
  | none => exact .none

theorem removeLink (h : x.Shows g) (id : LinkId) :
    Option.Rel Shows (x.removeLink id) (g.removeLink id) := by
  have hwritten : g.removeLink id = (Index.drop? Link.id id g.links).map ({ g with links := · }) := by
    unfold Graph.removeLink Graph.link? Index.drop?
    cases g.links.find? (·.id == id) <;> rfl
  rw [hwritten]
  exact h.withLinks (h.links.remove? id)

theorem setMap (h : x.Shows g) (m : MapInfo) : Option.Rel Shows (x.setMap m) (g.setMap m) := by
  unfold IndexedGraph.setMap Graph.setMap
  rw [h.map]
  split
  · exact .none
  · exact .some { h with map := rfl, display := rfl }

/-- The node found under an id has that id, so the changed one is put in its place. -/
theorem setPresence (h : x.Shows g) (id : NodeId) (change : PresenceChange) (o : Occupant) :
    Option.Rel Shows (x.setPresence id change o) (g.setPresence id change o) := by
  unfold IndexedGraph.setPresence Graph.setPresence Graph.node?
  rw [h.nodes.get? id]
  cases hfind : g.nodes.find? (·.id == id) with
  | none => exact .none
  | some n =>
    obtain rfl : n.id = id := Graph.key_of_find? hfind
    simp only
    cases Graph.changeOccupants change o n.occupants with
    | none => exact .none
    | some occupants => exact .some { h with nodes := h.nodes.insert { n with occupants } }

theorem keepAccess {w : Workspace} (h : x.Shows w.store.value) (m : MapInfo) :
    x.keepAccess m = w.keepAccess m := by
  have hmap := h.map
  cases hx : x.map <;> rw [hx] at hmap <;>
    simp only [IndexedGraph.keepAccess, Workspace.keepAccess, hx, ← hmap]

end Shows

end IndexedGraph

/-! ### Stores -/

/-- The store, with its nodes and links under keys. -/
abbrev IndexedStore := Published IndexedGraph

namespace IndexedStore

/-- Publishes what a write leads to, if it changes anything. -/
def modify (s : IndexedStore) (written : Option IndexedGraph) : IndexedStore :=
  s.publish? (written.map ({ · with revision := s.value.revision + 1 }))

def perform (s : IndexedStore) : Store.Transition → IndexedStore
  | .load detail => s.publish (.ofDetail detail (s.value.revision + 1))
  | .clear => s.publish { IndexedGraph.empty with revision := s.value.revision + 1 }
  | .event _ e => s.modify (s.value.write? e)

/-- A new store after transitions. -/
def after (transitions : List Store.Transition) : IndexedStore :=
  transitions.foldl perform (.initial .empty)

/-- Both stores have the same graph, and have been published as often. -/
structure Shows (s : IndexedStore) (t : Store) : Prop where
  value : s.value.Shows t.value
  count : s.count = t.count

variable {s : IndexedStore} {t : Store}

theorem Shows.modify (h : s.Shows t) {written : Option IndexedGraph} (write : Graph → Option Graph)
    (hwritten : Option.Rel IndexedGraph.Shows written (write t.value)) :
    (s.modify written).Shows (t.modify write) := by
  unfold IndexedStore.modify Store.modify
  rw [h.value.revision]
  generalize write t.value = after at hwritten
  cases hwritten with
  | some hshows => exact ⟨hshows.moved _, congrArg (· + 1) h.count⟩
  | none => exact h

theorem Shows.event (h : s.Shows t) (session : Session) (e : Event) :
    (s.modify (s.value.write? e)).Shows (Workspace.apply ⟨t, session⟩ e).1.store := by
  have hvalue := h.value
  cases e with
  | nodeCreated n => exact h.modify (·.insertNode n) (hvalue.insertNode n)
  | nodeUpdated n => exact h.modify (·.replaceNode n) (hvalue.replaceNode n)
  | nodeDeleted id => exact h.modify (·.removeNode id) (hvalue.removeNode id)
  | linkCreated l => exact h.modify (·.insertLink l) (hvalue.insertLink l)
  | linkUpdated l => exact h.modify (·.replaceLink l) (hvalue.replaceLink l)
  | linkDeleted id => exact h.modify (·.removeLink id) (hvalue.removeLink id)
  | mapUpdated m =>
    have hsame : s.value.keepAccess m = Workspace.keepAccess ⟨t, session⟩ m := hvalue.keepAccess m
    rw [IndexedGraph.write?, hsame]
    exact h.modify (·.setMap _) (hvalue.setMap _)
  | presence id change o => exact h.modify (·.setPresence id change o) (hvalue.setPresence id change o)
  | _ => exact h

theorem Shows.perform (h : s.Shows t) (transition : Store.Transition) :
    (s.perform transition).Shows (t.perform transition) := by
  cases transition with
  | load detail =>
    rw [IndexedStore.perform, h.value.revision]
    exact ⟨.ofDetail detail _, congrArg (· + 1) h.count⟩
  | clear =>
    rw [IndexedStore.perform, h.value.revision]
    exact ⟨.empty _, congrArg (· + 1) h.count⟩
  | event session e => exact h.event session e

/-- Whatever loads, drops and events lead to, the store with keys shows the same graph, and finds
the same entity under each id, at the same place. It is one with that id. -/
theorem shows_after (transitions : List Store.Transition) :
    let s := after transitions
    let t := Store.after transitions
    s.Shows t ∧
      (∀ id, s.value.nodes.get? id = t.value.node? id) ∧
      (∀ id, s.value.links.get? id = t.value.link? id) ∧
      (∀ id, s.value.nodes.place? id = t.value.nodeIndex? id) ∧
      (∀ id, s.value.links.place? id = t.value.linkIndex? id) ∧
      (∀ id n, s.value.nodes.get? id = some n → n.id = id) ∧
      ∀ id l, s.value.links.get? id = some l → l.id = id := by
  intro s t
  have hshows : s.Shows t := by
    induction transitions using List.reverseRecOn with
    | nil => exact ⟨.empty 0, rfl⟩
    | append_singleton transitions transition ih =>
      simp only [s, t, after, Store.after, List.foldl_concat]
      exact ih.perform transition
  have hnodes := hshows.value.nodes
  have hlinks := hshows.value.links
  refine ⟨hshows, hnodes.get?, hlinks.get?, hnodes.place?, hlinks.place?, fun id n hn => ?_,
    fun id l hl => ?_⟩
  · rw [hnodes.get?] at hn
    exact Graph.key_of_find? hn
  · rw [hlinks.get?] at hl
    exact Graph.key_of_find? hl

end IndexedStore

end WormholeMap

import WormholeMap.View
import WormholeMap.Proofs.Graph.Settings
import WormholeMap.Proofs.Replay
import WormholeMap.Proofs.Session.Transitions

/-!
Store and session of a view fit each other. Whatever is done to a view, a map is open in its
session exactly when the store has one, it can be edited exactly when the last load says so, and the
selected node is in the store (`coherent_of_possible`). A load that fails changes neither.
-/

namespace WormholeMap

/-! ### Loads -/

/-- A load takes up the map that comes back, or tells the user why none does. -/
theorem Client.run_reload (c : Client) (map : MapId) (w : Workspace) (ctx : Context σ) :
    (c.reload map w).run ctx =
      match (c.loadMap map).run ctx with
      | (.ok detail, after) => ((.ok (), w.enter map detail), after)
      | (.error e, after) =>
        let e := ActionError.ofApi "Failed to load map" e
        ((.error e, w),
          { after with toasts := after.toasts.notify (.error "Error" e.message) }) := by
  unfold reload
  generalize c.loadMap map = load
  rw [StateT.run_bind]
  rcases load.run ctx with ⟨answer, after⟩
  cases answer <;> rfl

/-! ### Events -/

namespace Workspace

variable {w : Workspace}

/-- Events leave the map of the session and its read-only flag as they are. -/
theorem session_apply (e : Event) :
    (w.apply e).1.session.value.mapId = w.session.value.mapId ∧
      (w.apply e).1.session.value.readOnly = w.session.value.readOnly := by
  cases e with
  | nodeDeleted d => exact Session.value_deselect d
  | _ => exact ⟨rfl, rfl⟩

/-- A node that is selected and present before an event is so after it, if it is selected. -/
theorem present_selected_apply {e : Event} {id : NodeId}
    (h : ∀ id, w.session.value.selected = some id → w.present id = true)
    (hselected : (w.apply e).1.session.value.selected = some id) :
    (w.apply e).1.present id = true := by
  rw [present_apply]
  cases e with
  | nodeDeleted d =>
    obtain ⟨hbefore, hne⟩ := Session.selected_deselect hselected
    simp [Event.presentAfter, h id hbefore, hne.symm]
  | nodeCreated n | nodeUpdated n => simp [Event.presentAfter, h id hselected]
  | _ => exact h id hselected

end Workspace

/-! ### Operations -/

namespace View

/-- What can be done to a view: a load of any map, whatever there is to act on then, an event, a
selection, and leaving. -/
inductive Operation (σ : Type) where
  | reload (map : MapId) (ctx : Context σ)
  | reconcile (e : Event)
  | select (nodes : List NodeId)
  | leave

namespace Operation

def perform (client : Client) (w : Workspace) : Operation σ → Workspace
  | reload map ctx => ((client.reload map w).run ctx).1.2
  | reconcile e => (w.apply e).1
  | select nodes => { w with session := w.session.select nodes }
  | leave => w.leave

/-- Events come while a map is open, and nodes are selected from those in the store. -/
def Possible (w : Workspace) : Operation σ → Prop
  | reconcile _ => w.store.value.map.isSome
  | select nodes => ∀ id ∈ nodes, w.present id = true
  | _ => True

instance (w : Workspace) : DecidablePred (Possible (σ := σ) w)
  | reconcile _ => inferInstanceAs (Decidable (w.store.value.map.isSome = true))
  | select nodes => inferInstanceAs (Decidable (∀ id ∈ nodes, w.present id = true))
  | reload .. | leave => .isTrue trivial

/-- The map in full that the operation loads, if it does. -/
def loaded? (client : Client) : Operation σ → Option MapDetail
  | reload map ctx => ((client.loadMap map).run ctx).1.toOption
  | _ => none

/-- What operations one after another lead to. -/
def performAll (client : Client) (w : Workspace) (operations : List (Operation σ)) : Workspace :=
  operations.foldl (fun w operation => operation.perform client w) w

/-- Each of the operations is possible when it is done. -/
def AllPossible (client : Client) : Workspace → List (Operation σ) → Prop
  | _, [] => True
  | w, operation :: rest =>
    operation.Possible w ∧ AllPossible client (operation.perform client w) rest

instance decidableAllPossible (client : Client) :
    (w : Workspace) → DecidablePred (AllPossible (σ := σ) client w)
  | _, [] => .isTrue trivial
  | w, operation :: rest =>
    have := decidableAllPossible client (operation.perform client w) rest
    inferInstanceAs (Decidable (_ ∧ _))

/-- The last map that operations load. -/
def lastLoad (client : Client) (operations : List (Operation σ)) : Option MapDetail :=
  (operations.filterMap (loaded? client)).getLast?

theorem lastLoad_cons (client : Client) (operation : Operation σ)
    (rest : List (Operation σ)) :
    lastLoad client (operation :: rest) = (lastLoad client rest).or (operation.loaded? client) := by
  unfold lastLoad
  rw [List.filterMap_cons]
  cases operation.loaded? client with
  | none => simp
  | some detail => simp [List.getLast?_cons]

end Operation

/-- Store and session fit each other and the last load. -/
structure Coherent (last : Option MapDetail) (w : Workspace) : Prop where
  open_iff : w.session.value.mapId.isSome = w.store.value.map.isSome
  loaded : ∀ m, w.store.value.map = some m → w.session.value.readOnly = !m.editAccess ∧
    ∃ detail, last = some detail ∧ m.editAccess = detail.map.editAccess
  left : w.store.value.map = none → w.session.value.readOnly = false
  selected : ∀ id, w.session.value.selected = some id → w.present id = true

namespace Coherent

variable {client : Client} {last : Option MapDetail} {w : Workspace}

theorem enter (map : MapId) (detail : MapDetail) : Coherent (some detail) (w.enter map detail) := by
  have hsession := w.session.value_reloadMap map (!detail.map.editAccess) fun node =>
    ((w.store.load detail).value.node? node).isSome
  have hmap : (w.enter map detail).store.value.map = some detail.map := rfl
  refine ⟨?_, ?_, by rw [hmap]; nofun, fun id hid => Session.present_of_selected_reloadMap hid⟩
  · exact congrArg Option.isSome hsession.1
  · rintro m ⟨⟩
    exact ⟨hsession.2, detail, rfl, rfl⟩

theorem reload (h : Coherent last w) (map : MapId) (ctx : Context σ) :
    Coherent ((Operation.reload map ctx).loaded? client |>.or last)
      ((Operation.reload map ctx).perform client w) := by
  simp only [Operation.perform, Operation.loaded?, Client.run_reload]
  rcases (client.loadMap map).run ctx with ⟨answer, after⟩
  cases answer with
  | ok detail => exact enter map detail
  | error e => exact h

theorem apply (h : Coherent last w) (hopen : w.store.value.map.isSome) (e : Event) :
    Coherent last (w.apply e).1 := by
  obtain ⟨current, hcurrent⟩ := Option.isSome_iff_exists.mp hopen
  obtain ⟨m, hm, haccess⟩ := Workspace.access_apply hcurrent e
  obtain ⟨hmap, hreadOnly⟩ := w.session_apply e
  obtain ⟨hflag, detail, hlast, hdetail⟩ := h.loaded current hcurrent
  refine ⟨?_, ?_, ?_, fun id hid => Workspace.present_selected_apply h.selected hid⟩
  · rw [hmap, h.open_iff, hcurrent, hm]
    rfl
  · intro m' hm'
    obtain rfl : m = m' := Option.some.inj (hm.symm.trans hm')
    exact ⟨by rw [hreadOnly, hflag, haccess], detail, hlast, haccess.trans hdetail⟩
  · intro hnone
    rw [hm] at hnone
    cases hnone

theorem select (h : Coherent last w) {nodes : List NodeId}
    (hnodes : ∀ id ∈ nodes, w.present id = true) :
    Coherent last { w with session := w.session.select nodes } := by
  have hmap : (w.session.select nodes).value.mapId = w.session.value.mapId := by
    rw [Session.value_select]
  have hreadOnly : (w.session.select nodes).value.readOnly = w.session.value.readOnly := by
    rw [Session.value_select]
  refine ⟨?_, ?_, ?_, fun id hid => hnodes id (Session.mem_of_selected_select hid)⟩
  · exact (congrArg Option.isSome hmap).trans h.open_iff
  · intro m hm
    exact ⟨hreadOnly.trans (h.loaded m hm).1, (h.loaded m hm).2⟩
  · exact fun hnone => hreadOnly.trans (h.left hnone)

/-- Nothing is open where neither the store nor the session has a map. -/
theorem of_closed (hstore : w.store.value.map = none) (hmap : w.session.value.mapId = none)
    (hreadOnly : w.session.value.readOnly = false) (hselected : w.session.value.selected = none) :
    Coherent last w where
  open_iff := by rw [hstore, hmap]; rfl
  loaded m hm := by rw [hstore] at hm; cases hm
  left _ := hreadOnly
  selected id hid := by rw [hselected] at hid; cases hid

theorem leave : Coherent last w.leave := of_closed rfl rfl rfl rfl

/-- Every operation that is possible keeps store and session fitting. -/
theorem perform (h : Coherent last w) {operation : Operation σ} (hpossible : operation.Possible w) :
    Coherent ((operation.loaded? client).or last) (operation.perform client w) := by
  cases operation with
  | reload map ctx => exact h.reload map ctx
  | reconcile e => exact h.apply hpossible e
  | select nodes => exact h.select hpossible
  | leave => exact leave

end Coherent

theorem Coherent.performAll {client : Client} {last : Option MapDetail} {w : Workspace}
    (h : Coherent last w) {operations : List (Operation σ)}
    (hpossible : Operation.AllPossible client w operations) :
    Coherent ((Operation.lastLoad client operations).or last)
      (Operation.performAll client w operations) := by
  induction operations generalizing last w with
  | nil => exact h
  | cons operation rest ih =>
    rw [Operation.lastLoad_cons, Option.or_assoc]
    exact ih (h.perform hpossible.1) hpossible.2

/-- Whatever is done to a view, store and session fit each other, and the viewer has the access of
the last load. A load that fails leaves both exactly as they were. -/
theorem coherent_of_possible {client : Client} {operations : List (Operation σ)}
    (h : Operation.AllPossible client .empty operations) :
    let w := Operation.performAll client .empty operations
    Coherent (Operation.lastLoad client operations) w ∧
      ∀ (map : MapId) (ctx : Context σ) (e : ActionError),
        ((client.reload map w).run ctx).1.1 = .error e →
          ((client.reload map w).run ctx).1.2 = w := by
  intro w
  refine ⟨?_, fun map ctx e => ?_⟩
  · have hempty : Coherent none .empty := .of_closed rfl rfl rfl rfl
    simpa using hempty.performAll h
  · rw [Client.run_reload]
    rcases (client.loadMap map).run ctx with ⟨answer, after⟩
    cases answer with
    | ok detail => nofun
    | error cause => exact fun _ => rfl

/-- A backend that answers every request with a text. -/
def answering (text : String) : Backend Unit where
  reply s _ _ := (.response ⟨200, [Utf8.encode text], .closed⟩, s)

/-- A map with a node that the viewer may edit. -/
def editableMap : String :=
  "\x7b\"map\":\x7b\"id\":\"00000000000000000000000000000000\","
    ++ "\"owner_id\":\"00000000000000000000000000000000\",\"name\":\"m\",\"edit_access\":true\x7d,"
    ++ "\"nodes\":[\x7b\"id\":\"00000000000000000000000000000001\",\"system_id\":30000001,"
    ++ "\"pos_x\":0,\"pos_y\":0\x7d]\x7d"

/-- A node of a loaded map is selected, an event says that the map is not to be edited, and another
load fails. -/
def refusedReload (map : MapId) (node : NodeId) : List (Operation Unit) :=
  [.reload map ⟨.start (answering editableMap) (), .empty⟩,
    .select [node],
    .reconcile (.mapUpdated ⟨map, map.uuid, "n", none, false, false, .default, .tb, false, none,
      none, false, none, none⟩),
    .reload map ⟨.start .unreachable (), .empty⟩]

theorem coherent_of_possible_refusedReload :
    let client : Client := ⟨"http://backend", none, 1000⟩
    let uuid (k : Fin 16) : Uuid := ⟨List.replicate 31 0 ++ [k], rfl⟩
    let operations := refusedReload ⟨uuid 0⟩ ⟨uuid 1⟩
    let w := Operation.performAll client .empty operations
    w.store.value.map.map (·.name) = some "n" ∧ w.session.value.readOnly = false ∧
      w.session.value.selected.isSome ∧ Operation.AllPossible client .empty operations ∧
      (Coherent (Operation.lastLoad client operations) w ∧
        ∀ (map : MapId) (ctx : Context Unit) (e : ActionError),
          ((client.reload map w).run ctx).1.1 = .error e →
            ((client.reload map w).run ctx).1.2 = w) := by
  have hrun :
      let client : Client := ⟨"http://backend", none, 1000⟩
      let uuid (k : Fin 16) : Uuid := ⟨List.replicate 31 0 ++ [k], rfl⟩
      let operations := refusedReload ⟨uuid 0⟩ ⟨uuid 1⟩
      let w := Operation.performAll client .empty operations
      w.store.value.map.map (·.name) = some "n" ∧ w.session.value.readOnly = false ∧
        w.session.value.selected.isSome ∧ Operation.AllPossible client .empty operations := by
    decide +kernel
  obtain ⟨hname, hreadOnly, hselected, hpossible⟩ := hrun
  exact ⟨hname, hreadOnly, hselected, hpossible, coherent_of_possible hpossible⟩

end View

end WormholeMap

import WormholeMap.Session
import Mathlib.Data.List.Basic
import Mathlib.Data.List.Induction

/-!
The states that a session publishes. Whatever is done to a session, a node of the previous map is
never seen beside the new one, the selected node is the one last selected on the map that is open,
unless it has been lost since, and the refresh counters count what may have changed
(`Session.safe_after`).
-/

namespace WormholeMap.Session

variable {s : Session}

/-! ### What operations change -/

theorem value_reloadMap (map : MapId) (readOnly : Bool) (present : NodeId → Bool) :
    (s.reloadMap map readOnly present).value.mapId = some map ∧
      (s.reloadMap map readOnly present).value.readOnly = readOnly := by
  unfold reloadMap
  split
  · rename_i hsame
    exact ⟨hsame, rfl⟩
  · exact ⟨rfl, rfl⟩

/-- A selection that outlasts a load is present after it. -/
theorem present_of_selected_reloadMap {map : MapId} {readOnly : Bool} {present : NodeId → Bool}
    {id : NodeId} (h : (s.reloadMap map readOnly present).value.selected = some id) :
    present id = true := by
  unfold reloadMap at h
  split at h
  · exact (Option.filter_eq_some_iff.mp h).2
  · cases h

theorem value_deselect (id : NodeId) :
    (s.deselect id).value.mapId = s.value.mapId ∧
      (s.deselect id).value.readOnly = s.value.readOnly := by
  unfold deselect
  split <;> exact ⟨rfl, rfl⟩

theorem selected_deselect {d id : NodeId} (h : (s.deselect d).value.selected = some id) :
    s.value.selected = some id ∧ id ≠ d := by
  unfold deselect at h
  split at h
  · cases h
  · rename_i hother
    refine ⟨h, ?_⟩
    rintro rfl
    exact hother h

/-- A selection changes nothing but the node that is selected, which is the only one asked for. -/
theorem value_select (nodes : List NodeId) :
    (s.select nodes).value = { s.value with
      selected := match nodes with
        | [only] => some only
        | _ => none } := by
  have hput (selected : Option NodeId) :
      (if s.value.selected = selected then s else s.publish { s.value with selected }).value =
        { s.value with selected } := by
    split
    · rename_i hsame
      rw [← hsame]
    · rfl
  exact hput _

theorem eq_of_selected_select {nodes : List NodeId} {id : NodeId}
    (h : (s.select nodes).value.selected = some id) : nodes = [id] := by
  rw [value_select] at h
  split at h
  · cases h
    rfl
  · cases h

theorem mem_of_selected_select {nodes : List NodeId} {id : NodeId}
    (h : (s.select nodes).value.selected = some id) : id ∈ nodes := by
  rw [eq_of_selected_select h]
  exact List.mem_singleton_self id

/-- A selection either stays as it is, or another one is published and nothing else with it. -/
theorem select_eq (s : Session) (nodes : List NodeId) : s.select nodes = s ∨
    ∃ selected, selected ≠ s.value.selected ∧
      s.select nodes = s.publish { s.value with selected } := by
  have hput (selected : Option NodeId) :
      (if s.value.selected = selected then s else s.publish { s.value with selected }) = s ∨
        ∃ selected', selected' ≠ s.value.selected ∧
          (if s.value.selected = selected then s else s.publish { s.value with selected }) =
            s.publish { s.value with selected := selected' } := by
    split
    · exact .inl rfl
    · rename_i hother
      exact .inr ⟨selected, fun hsame => hother hsame.symm, rfl⟩
  exact hput _

theorem deselect_eq (s : Session) (node : NodeId) : s.deselect node = s ∨
    ∃ selected, selected ≠ s.value.selected ∧
      s.deselect node = s.publish { s.value with selected } := by
  unfold deselect
  split
  · rename_i hselected
    exact .inr ⟨none, by rw [hselected]; nofun, rfl⟩
  · exact .inl rfl

/-! ### Operations -/

/-- What is done to a session. -/
inductive Operation where
  | select (nodes : List NodeId)
  | switchMap (map : Option MapId) (readOnly : Bool)
  | reloadMap (map : MapId) (readOnly : Bool) (present : NodeId → Bool)
  | bumpSignatures
  | bumpNotes
  | deselect (node : NodeId)

namespace Operation

/-- Whether the operation is about the selection only. -/
def selects : Operation → Bool
  | select _ | deselect _ => true
  | _ => false

/-- Whether the operation loads the map again that is open. -/
def reopens (found : SessionState) : Operation → Bool
  | reloadMap map .. => found.mapId = some map
  | _ => false

/-- What the operation switches the session to, a map or none, and the flag given with it. -/
def switch? (found : SessionState) : Operation → Option (Option MapId × Bool)
  | switchMap map readOnly => some (map, readOnly)
  | reloadMap map readOnly _ => if found.mapId = some map then none else some (some map, readOnly)
  | _ => none

/-- Whether a node that is selected stays so. -/
def keeps (node : NodeId) (found : SessionState) : Operation → Bool
  | select nodes => nodes = [node]
  | switchMap .. => false
  | reloadMap map _ present => found.mapId = some map && present node
  | bumpSignatures | bumpNotes => true
  | deselect other => other ≠ node

theorem switch?_of_keeps {node : NodeId} {found : SessionState} {op : Operation}
    (h : op.keeps node found = true) : op.switch? found = none := by
  cases op with
  | switchMap map readOnly => cases h
  | reloadMap map readOnly present => exact if_pos (of_decide_eq_true (Bool.and_eq_true_iff.mp h).1)
  | _ => rfl

end Operation

def perform (s : Session) : Operation → Session
  | .select nodes => s.select nodes
  | .switchMap map readOnly => s.switchMap map readOnly
  | .reloadMap map readOnly present => s.reloadMap map readOnly present
  | .bumpSignatures => s.bumpSignatures
  | .bumpNotes => s.bumpNotes
  | .deselect node => s.deselect node

/-- A new session after operations. -/
def after (operations : List Operation) : Session := operations.foldl perform .empty

/-- Operations one after another, each with the state that it finds. -/
def steps (s : Session) : List Operation → List (SessionState × Operation)
  | [] => []
  | op :: rest => (s.value, op) :: steps (s.perform op) rest

/-- The states that operations publish, in order. -/
def published (s : Session) : List Operation → List SessionState
  | [] => []
  | op :: rest =>
    let s' := s.perform op
    List.replicate (s'.count - s.count) s'.value ++ published s' rest

theorem after_concat (operations : List Operation) (op : Operation) :
    after (operations ++ [op]) = (after operations).perform op := by
  rw [after, List.foldl_append]
  rfl

theorem steps_concat (s : Session) (operations : List Operation) (op : Operation) :
    steps s (operations ++ [op]) =
      steps s operations ++ [((operations.foldl perform s).value, op)] := by
  induction operations generalizing s with
  | nil => rfl
  | cons first rest ih => rw [List.cons_append, steps, ih, List.foldl_cons, steps, List.cons_append]

theorem published_concat (s : Session) (operations : List Operation) (op : Operation) :
    published s (operations ++ [op]) =
      let before := operations.foldl perform s
      let now := before.perform op
      published s operations ++ List.replicate (now.count - before.count) now.value := by
  induction operations generalizing s with
  | nil => exact List.append_nil _
  | cons first rest ih =>
    rw [List.cons_append, published, ih, List.foldl_cons, published, List.append_assoc]

/-! ### One operation -/

/-- An operation opens another map in one go, with nothing selected, and publishes one state, unless
it is about a selection that it leaves as it is. -/
structure Moves (s : Session) (op : Operation) : Prop where
  switched : (s.perform op).value.mapId ≠ s.value.mapId →
    (s.perform op).value.selected = none ∧
      op.switch? s.value = some ((s.perform op).value.mapId, (s.perform op).value.readOnly)
  idle : op.selects = true → (s.perform op).value = s.value → s.perform op = s
  publishes : ¬(op.selects = true ∧ (s.perform op).value = s.value) →
    (s.perform op).count = s.count + 1

section

variable {op : Operation}

/-- An operation that always publishes a state. -/
theorem Moves.of_publish {next : SessionState} (h : s.perform op = s.publish next)
    (hselects : op.selects = false)
    (hswitched : next.mapId ≠ s.value.mapId →
      next.selected = none ∧ op.switch? s.value = some (next.mapId, next.readOnly)) :
    Moves s op where
  switched := by
    rw [h]
    exact hswitched
  idle hop := by
    rw [hselects] at hop
    cases hop
  publishes _ := by
    rw [h]
    rfl

/-- An operation on the selection alone, which publishes a state where that changes. -/
theorem Moves.of_selection (hselects : op.selects = true)
    (h : s.perform op = s ∨ ∃ selected, selected ≠ s.value.selected ∧
      s.perform op = s.publish { s.value with selected }) : Moves s op := by
  rcases h with hsame | ⟨selected, hother, hpublished⟩
  · have hvalue : (s.perform op).value = s.value := by rw [hsame]
    refine ⟨fun hmap => ?_, fun _ _ => hsame, fun hchanged => ?_⟩
    · exact absurd (congrArg SessionState.mapId hvalue) hmap
    · exact absurd ⟨hselects, hvalue⟩ hchanged
  · refine ⟨fun hmap => ?_, fun _ hvalue => ?_, fun _ => ?_⟩
    · rw [hpublished] at hmap
      exact absurd rfl hmap
    · rw [hpublished] at hvalue
      exact absurd (congrArg SessionState.selected hvalue) hother
    · rw [hpublished]
      rfl

theorem moves (s : Session) (op : Operation) : Moves s op := by
  cases op with
  | select nodes => exact .of_selection rfl (s.select_eq nodes)
  | deselect node => exact .of_selection rfl (s.deselect_eq node)
  | switchMap map readOnly => exact .of_publish rfl rfl fun _ => ⟨rfl, rfl⟩
  | bumpSignatures => exact .of_publish rfl rfl fun hmap => absurd rfl hmap
  | bumpNotes => exact .of_publish rfl rfl fun hmap => absurd rfl hmap
  | reloadMap map readOnly present =>
    by_cases hsame : s.value.mapId = some map
    · exact .of_publish (if_pos hsame) rfl fun hmap => absurd rfl hmap
    · exact .of_publish (if_neg hsame) rfl fun _ => ⟨rfl, if_neg hsame⟩

/-- A node is selected after an operation if it is the only one that the operation selects, or if it
was selected before and stays so. -/
theorem selected_perform (s : Session) (op : Operation) (node : NodeId) :
    (s.perform op).value.selected = some node ↔
      op = .select [node] ∨ s.value.selected = some node ∧ op.keeps node s.value = true := by
  cases op with
  | select nodes =>
    rw [perform, value_select]
    match nodes with
    | [] => simp [Operation.keeps]
    | [only] => simp +contextual [Operation.keeps]
    | _ :: _ :: _ => simp [Operation.keeps]
  | switchMap map readOnly => simp [perform, switchMap, Published.publish, Operation.keeps]
  | bumpSignatures => simp [perform, bumpSignatures, Published.publish, Operation.keeps]
  | bumpNotes => simp [perform, bumpNotes, Published.publish, Operation.keeps]
  | deselect other =>
    rw [perform, deselect]
    split
    · rename_i hother
      simp [hother, Published.publish, Operation.keeps]
    · rename_i hother
      refine ⟨fun hnode => .inr ⟨hnode, ?_⟩, ?_⟩
      · rw [Operation.keeps, decide_eq_true_iff]
        rintro rfl
        exact hother hnode
      · rintro (h | ⟨hnode, -⟩)
        · cases h
        · exact hnode
  | reloadMap map readOnly present =>
    rw [perform, reloadMap]
    split
    · rename_i hsame
      simp [hsame, Published.publish, Option.filter_eq_some_iff, Operation.keeps]
    · rename_i hother
      simp [hother, Published.publish, Operation.keeps]

/-- The counters move with the changes that they count, and when the open map is loaded again. -/
theorem refresh_perform (s : Session) (op : Operation) :
    (s.perform op).value.signatureRefresh = s.value.signatureRefresh +
        (if op matches .bumpSignatures then 1 else 0) + (if op.reopens s.value then 1 else 0) ∧
      (s.perform op).value.noteRefresh = s.value.noteRefresh +
        (if op matches .bumpNotes then 1 else 0) + (if op.reopens s.value then 1 else 0) := by
  have hselection (s' : Session) (h : s' = s ∨ ∃ selected, selected ≠ s.value.selected ∧
      s' = s.publish { s.value with selected }) :
      s'.value.signatureRefresh = s.value.signatureRefresh + 0 + 0 ∧
        s'.value.noteRefresh = s.value.noteRefresh + 0 + 0 := by
    rcases h with rfl | ⟨selected, -, rfl⟩ <;> simp [Published.publish]
  cases op with
  | select nodes => exact hselection _ (s.select_eq nodes)
  | deselect node => exact hselection _ (s.deselect_eq node)
  | switchMap map readOnly => simp [perform, switchMap, Published.publish, Operation.reopens]
  | bumpSignatures => simp [perform, bumpSignatures, Published.publish, Operation.reopens]
  | bumpNotes => simp [perform, bumpNotes, Published.publish, Operation.reopens]
  | reloadMap map readOnly present =>
    by_cases hsame : s.value.mapId = some map <;>
      simp [perform, reloadMap, hsame, Published.publish, Operation.reopens]

end

/-! ### All operations -/

/-- An operation publishes the state that it leads to, unless it is about a selection that it leaves
as it is: then it publishes none. -/
theorem published_after (operations : List Operation) (op : Operation) :
    published .empty (operations ++ [op]) = published .empty operations ++
      if op.selects = true ∧ ((after operations).perform op).value = (after operations).value then []
      else [((after operations).perform op).value] := by
  have hmoves := moves (after operations) op
  have hpublished : published .empty (operations ++ [op]) = published .empty operations ++
      List.replicate (((after operations).perform op).count - (after operations).count)
        ((after operations).perform op).value := published_concat .empty operations op
  rw [hpublished]
  split
  · rename_i hidle
    rw [hmoves.idle hidle.1 hidle.2, Nat.sub_self]
    rfl
  · rename_i hchanged
    rw [hmoves.publishes hchanged, Nat.add_sub_cancel_left]
    rfl

/-- What is true of a new session after operations. The last state published is the one it is in. A
node is selected exactly if it was the only one of a selection and has been kept since, and then no
map has been opened since. Each counter is that of the changes it stands for and of the loads of a
map that was open, modulo the size of a `UInt64`. -/
structure Safe (operations : List Operation) : Prop where
  latest : (published .empty operations).getLast?.getD .initial = (after operations).value
  kept : ∀ node, (after operations).value.selected = some node ↔
    ∃ before found since, steps .empty operations = before ++ (found, .select [node]) :: since ∧
      ∀ step ∈ since, step.2.keeps node step.1 = true
  selected : ∀ node, (after operations).value.selected = some node →
    ∃ before found since, steps .empty operations = before ++ (found, .select [node]) :: since ∧
      ∀ step ∈ since, step.2.switch? step.1 = none
  signatures : (after operations).value.signatureRefresh.toNat =
    (operations.countP (· matches .bumpSignatures) +
      (steps .empty operations).countP fun step => step.2.reopens step.1) % UInt64.size
  notes : (after operations).value.noteRefresh.toNat =
    (operations.countP (· matches .bumpNotes) +
      (steps .empty operations).countP fun step => step.2.reopens step.1) % UInt64.size

namespace Safe

variable {operations : List Operation}

theorem empty : Safe [] where
  latest := rfl
  kept node := by
    refine iff_of_false nofun ?_
    rintro ⟨before, found, since, hsteps, -⟩
    cases List.append_ne_nil_of_right_ne_nil before (List.cons_ne_nil _ since) hsteps.symm
  selected _ h := by cases h
  signatures := rfl
  notes := rfl

theorem latest_concat (h : Safe operations) (op : Operation) :
    (published .empty (operations ++ [op])).getLast?.getD .initial =
      (after (operations ++ [op])).value := by
  rw [published_after, after_concat]
  split
  · rename_i hidle
    rw [List.append_nil, h.latest, hidle.2]
  · rw [List.getLast?_concat, Option.getD_some]

theorem kept_concat (h : Safe operations) (op : Operation) (node : NodeId) :
    (after (operations ++ [op])).value.selected = some node ↔ ∃ before found since,
      steps .empty (operations ++ [op]) = before ++ (found, .select [node]) :: since ∧
        ∀ step ∈ since, step.2.keeps node step.1 = true := by
  rw [after_concat, selected_perform, steps_concat]
  constructor
  · rintro (rfl | ⟨hbefore, hkeeps⟩)
    · exact ⟨_, _, [], rfl, nofun⟩
    · obtain ⟨before, found, since, hsteps, hsince⟩ := (h.kept node).mp hbefore
      refine ⟨before, found, since ++ [((after operations).value, op)], ?_, ?_⟩
      · rw [hsteps, List.append_assoc, List.cons_append]
        rfl
      · exact List.forall_mem_append.mpr ⟨hsince, List.forall_mem_singleton.mpr hkeeps⟩
  · rintro ⟨before, found, since, hsteps, hsince⟩
    -- The last step is the selection itself, or one that has kept the node.
    rcases List.eq_nil_or_concat' since with rfl | ⟨earlier, last, rfl⟩
    · obtain ⟨-, hlast⟩ := List.append_inj' hsteps rfl
      exact .inl (congrArg Prod.snd (List.cons.inj hlast).1)
    · rw [← List.cons_append, ← List.append_assoc] at hsteps
      obtain ⟨hearlier, hlast⟩ := List.append_inj' hsteps rfl
      obtain ⟨hstill, hkeeps⟩ := List.forall_mem_append.mp hsince
      have hnow := List.forall_mem_singleton.mp hkeeps
      rw [← (List.cons.inj hlast).1] at hnow
      exact .inr ⟨(h.kept node).mpr ⟨before, found, earlier, hearlier, hstill⟩, hnow⟩

/-- A counter that moves by one with each of two kinds of operations, none of which is of both. -/
theorem count_concat {before now : UInt64} {bumps reopens : Nat} {bump reopen : Bool}
    (hbefore : before.toNat = (bumps + reopens) % UInt64.size)
    (hnow : now = before + (if bump then 1 else 0) + (if reopen then 1 else 0)) :
    now.toNat =
      (bumps + (if bump then 1 else 0) + (reopens + if reopen then 1 else 0)) % UInt64.size := by
  subst hnow
  cases bump <;> cases reopen <;> simp [UInt64.toNat_add, hbefore, UInt64.size] <;> omega

theorem concat (h : Safe operations) (op : Operation) : Safe (operations ++ [op]) := by
  obtain ⟨hsignatures, hnotes⟩ := refresh_perform (after operations) op
  refine ⟨h.latest_concat op, h.kept_concat op, fun node hselected => ?_, ?_, ?_⟩
  · obtain ⟨before, found, since, hsteps, hsince⟩ := (h.kept_concat op node).mp hselected
    exact ⟨before, found, since, hsteps, fun step hstep =>
      Operation.switch?_of_keeps (hsince step hstep)⟩
  · rw [after_concat, steps_concat, List.countP_append, List.countP_append, List.countP_singleton,
      List.countP_singleton]
    exact count_concat h.signatures hsignatures
  · rw [after_concat, steps_concat, List.countP_append, List.countP_append, List.countP_singleton,
      List.countP_singleton]
    exact count_concat h.notes hnotes

end Safe

/-- Whatever is done to a new session, it is safe at every point, and so is the operation that comes
next: it opens another map only with nothing selected, and publishes exactly the state it leads to,
or none if it is about a selection that it leaves as it is. -/
theorem safe_after (operations : List Operation) :
    Safe operations ∧ ∀ op, Moves (after operations) op ∧
      published .empty (operations ++ [op]) = published .empty operations ++
        if op.selects = true ∧ ((after operations).perform op).value = (after operations).value
        then [] else [((after operations).perform op).value] := by
  refine ⟨?_, fun op => ⟨moves _ op, published_after operations op⟩⟩
  induction operations using List.reverseRecOn with
  | nil => exact .empty
  | append_singleton operations op ih => exact ih.concat op

end WormholeMap.Session

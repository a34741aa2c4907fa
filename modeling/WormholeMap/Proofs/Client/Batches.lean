import WormholeMap.Proofs.Client.Outcomes
import WormholeMap.Proofs.Graph.Removal

/-!
Actions on several entities. Their requests go out one after another, in the order of the plan, up
to the first that fails: that one alone is told to the user, and what failed is its error
(`Client.Batch`). Neither the deletion nor the move of a selection ever asks for a change of a
locked node, and a selection of locked nodes alone sends nothing (`Client.selections_batched`).
-/

namespace WormholeMap

/-- Messages go out on a wire one after another, each when the one before has been answered. -/
inductive Wire.Sends : Wire σ → List Exchange → Wire σ → Prop
  | none (w : Wire σ) : Sends w [] w
  | more {w w' w'' : Wire σ} {e : Exchange} {made : List Exchange} (first : w.Sent e w')
    (rest : Sends w' made w'') : Sends w (e :: made) w''

/-- A response of success has come back. -/
def Exchange.Accepted (e : Exchange) : Prop := ∃ r, e.reply = .response r ∧ r.Accepts

/-- Changes have been asked for in order, up to the first that failed, with these exchanges, toasts
and this result. -/
structure Client.Batch (c : Client) (map : MapId) (plan : List Change) (made : List Exchange)
    (toasts : List Toast) (result : Except ActionError α) : Prop where
  messages : made.map (·.message) <+: plan.map fun change => c.message (change.request map)
  succeeds : result.isOk = true ↔
    (made.map (·.message) = plan.map fun change => c.message (change.request map)) ∧
      ∀ e ∈ made, e.Accepted
  quiet : result.isOk = true → toasts = []
  failed : ∀ error, result = .error error → toasts = [.error "Error" error.message] ∧
    ∃ before e change, made = before ++ [e] ∧ plan[before.length]? = some change ∧
      (∀ e' ∈ before, e'.Accepted) ∧ ¬e.Accepted ∧ (Action.plain change).Fails e.reply error

/-- The changes that a plan asks for, nodes first. -/
def DeletionPlan.changes (plan : DeletionPlan) : List Change :=
  plan.nodes.map .deleteNode ++ plan.links.map .deleteLink

/-- The changes of moves, but for those of locked nodes. -/
def Change.ofMoves (moves : List (Node × Position)) : List Change :=
  (moves.filter fun m => !m.1.locked).map fun m => .moveNode m.1.id m.2

/-- What comes of deleting a selection of a graph. -/
structure Client.Deletes (c : Client) (map : MapId) (g : Graph) (nodes : List Node)
    (links : List Link) (made : List Exchange) (toasts : List Toast)
    (result : Except ActionError DeletionOutcome) : Prop where
  cancelled : nodes ≠ [] → (∀ n ∈ nodes, n.locked = true) → made = [] ∧
    toasts = [.warning "Nothing deleted" "Locked systems cannot be deleted"] ∧
      result = .ok (.cancelled (nodes.map (·.id)))
  carried : ¬(nodes ≠ [] ∧ ∀ n ∈ nodes, n.locked = true) →
    ∃ plan, planDeletion nodes links = some plan ∧
      c.Batch map plan.changes made toasts result ∧
        ∀ outcome, result = .ok outcome → outcome = .completed plan
  unlocked : ∀ e ∈ made, ∀ n ∈ g.nodes, n.locked = true →
    e.message.request ≠ .mutate map (.deleteNode n.id)

/-- What comes of moving a selection of a graph. -/
structure Client.Moves (c : Client) (map : MapId) (g : Graph) (moves : List (Node × Position))
    (made : List Exchange) (toasts : List Toast) (result : Except ActionError Nat) : Prop where
  carried : c.Batch map (Change.ofMoves moves) made toasts result
  count : ∀ count, result = .ok count → count = (Change.ofMoves moves).length
  unlocked : ∀ e ∈ made, ∀ n ∈ g.nodes, n.locked = true → ∀ p,
    e.message.request ≠ .mutate map (.moveNode n.id p)

/-! ### One change -/

/-- A change is asked for once. It succeeds if the answer is one of success, and is told to the user
otherwise. -/
theorem Change.run_cases (change : Change) (c : Client) (map : MapId) (ctx : Context σ) :
    ∃ e wire, ctx.wire.Sent e wire ∧ e.message = c.message (change.request map) ∧
      (e.Accepted ∧ (change.run c map).run ctx = (.ok (), { ctx with wire }) ∨
        ∃ error, ¬e.Accepted ∧ (Action.plain change).Fails e.reply error ∧
          (change.run c map).run ctx =
            (.error error, ⟨wire, ctx.toasts.notify (.error "Error" error.message)⟩)) := by
  obtain ⟨e, wire, hsent, hmessage, ⟨r, _, hreply, hstatus, -, hrun⟩ | ⟨error, hfails, hrun⟩⟩ :=
    (Action.plain change).run_cases c map ctx
  · exact ⟨e, wire, hsent, hmessage, .inl ⟨⟨r, hreply, hstatus⟩, hrun⟩⟩
  · refine ⟨e, wire, hsent, hmessage, .inr ⟨error, ?_, hfails, hrun⟩⟩
    rintro ⟨r, hreply, hstatus⟩
    exact hfails.not_gives hreply hstatus () trivial

/-! ### Several changes -/

namespace Client.Batch

variable {c : Client} {map : MapId} {change : Change} {plan : List Change} {made : List Exchange}
  {toasts : List Toast} {result : Except ActionError α} {e : Exchange}

theorem nil (given : α) : Batch c map [] [] [] (.ok given) where
  messages := List.prefix_rfl
  succeeds := iff_of_true rfl ⟨rfl, fun _ he => absurd he List.not_mem_nil⟩
  quiet _ := rfl
  failed _ h := by cases h

theorem stopped {error : ActionError} (hmessage : e.message = c.message (change.request map))
    (hrefused : ¬e.Accepted) (hfails : (Action.plain change).Fails e.reply error) :
    Batch c map (change :: plan) [e] [.error "Error" error.message]
      (.error error : Except ActionError α) where
  messages := by
    rw [List.map_singleton, hmessage, List.map_cons]
    exact List.prefix_append [_] _
  succeeds := by
    refine iff_of_false nofun ?_
    rintro ⟨-, hall⟩
    exact hrefused (hall e (List.mem_singleton_self e))
  quiet h := by cases h
  failed error' h := by
    cases h
    exact ⟨rfl, [], e, change, rfl, rfl, fun _ he => absurd he List.not_mem_nil, hrefused, hfails⟩

theorem cons (hmessage : e.message = c.message (change.request map)) (haccepted : e.Accepted)
    (h : Batch c map plan made toasts result) :
    Batch c map (change :: plan) (e :: made) toasts result where
  messages := by
    rw [List.map_cons, hmessage, List.map_cons]
    exact List.prefix_cons_inj _ |>.mpr h.messages
  succeeds := by
    rw [h.succeeds, List.map_cons, hmessage, List.map_cons, List.cons_inj_right,
      List.forall_mem_cons, and_iff_right haccepted]
  quiet := h.quiet
  failed error herror := by
    obtain ⟨htoasts, before, last, failing, rfl, hfailing, hbefore, hrefused, hfails⟩ :=
      h.failed error herror
    exact ⟨htoasts, e :: before, last, failing, rfl, by simpa using hfailing,
      List.forall_mem_cons.mpr ⟨haccepted, hbefore⟩, hrefused, hfails⟩

theorem mapped (f : α → β) (h : Batch c map plan made toasts result) :
    Batch c map plan made toasts (result.map f) := by
  cases result with
  | ok given => exact ⟨h.messages, h.succeeds, h.quiet, fun _ herror => by cases herror⟩
  | error error =>
    refine ⟨h.messages, h.succeeds, h.quiet, fun error' herror => ?_⟩
    cases herror
    exact h.failed error rfl

theorem exists_change (h : Batch c map plan made toasts result) (he : e ∈ made) :
    ∃ change ∈ plan, e.message.request = change.request map := by
  obtain ⟨change, hchange, hmessage⟩ :=
    List.mem_map.mp (h.messages.subset (List.mem_map_of_mem he))
  exact ⟨change, hchange, congrArg Message.request hmessage.symm⟩

end Client.Batch

namespace Client

variable (c : Client) (map : MapId)

/-- Mutations made in order are a batch of the changes that they stand for. -/
theorem mutateAll_batch {plan : List Change} {ms : List Mutation}
    (hplan : plan.map Change.mutation? = ms.map some) (ctx : Context σ) :
    let after := (c.mutateAll map ms).run ctx
    ∃ made toasts, ctx.wire.Sends made after.2.wire ∧
      after.2.toasts.toasts = ctx.toasts.toasts ++ toasts ∧
      Batch c map plan made toasts after.1 := by
  induction ms generalizing plan ctx with
  | nil =>
    obtain rfl := List.map_eq_nil_iff.mp hplan
    exact ⟨[], [], .none _, (List.append_nil _).symm, .nil ()⟩
  | cons m ms ih =>
    cases plan with
    | nil => cases hplan
    | cons change plan =>
    obtain ⟨hm, hrest⟩ := List.cons.inj hplan
    have hchange : change.run c map = (c.mutate map m : Run σ _) := by
      cases change <;> cases hm <;> rfl
    obtain ⟨e, wire, hsent, hmessage, hcases⟩ := change.run_cases c map ctx
    rw [hchange] at hcases
    rw [mutateAll, StateT.run_bind]
    rcases hcases with ⟨haccepted, hrun⟩ | ⟨error, hrefused, hfails, hrun⟩
    · obtain ⟨made, toasts, hsends, htoasts, hbatch⟩ := ih hrest { ctx with wire }
      rw [hrun]
      exact ⟨e :: made, toasts, .more hsent hsends, htoasts, .cons hmessage haccepted hbatch⟩
    · rw [hrun]
      exact ⟨[e], _, .more hsent (.none _), rfl, .stopped hmessage hrefused hfails⟩

/-! ### Selections -/

theorem eq_of_map_const {result : Except ε α} {a b : β} (h : result.map (fun _ => a) = .ok b) :
    b = a := by
  cases result with
  | ok _ => exact (Except.ok.inj h).symm
  | error _ => cases h

/-- In a graph, what is locked and what is not have different ids. -/
theorem id_ne_of_locked {all : List Node} (h : (all.map Node.id).Nodup) {n other : Node}
    (hn : n ∈ all) (hlocked : n.locked = true) (hother : other ∈ all)
    (hunlocked : other.locked = false) : other.id ≠ n.id := by
  intro hid
  rw [List.inj_on_of_nodup_map h hother hn hid, hlocked] at hunlocked
  cases hunlocked

variable {g : Graph} (hg : (g.nodes.map Node.id).Nodup)

include hg

theorem deleteSelection_deletes {nodes : List Node} (hnodes : nodes ⊆ g.nodes) (links : List Link)
    (ctx : Context σ) :
    let after := (c.deleteSelection map nodes links).run ctx
    ∃ made toasts, ctx.wire.Sends made after.2.wire ∧
      after.2.toasts.toasts = ctx.toasts.toasts ++ toasts ∧
      c.Deletes map g nodes links made toasts after.1 := by
  by_cases hlocked : nodes ≠ [] ∧ ∀ n ∈ nodes, n.locked = true
  · have hplan : planDeletion nodes links = none := by rw [planDeletion_eq, if_pos hlocked]
    rw [deleteSelection, hplan]
    refine ⟨[], _, .none _, rfl, fun _ _ => ⟨rfl, rfl, rfl⟩, fun hfree => absurd hlocked hfree, ?_⟩
    exact fun _ he => absurd he List.not_mem_nil
  · obtain ⟨plan, hplan, hplanned⟩ : ∃ plan, planDeletion nodes links = some plan ∧
        plan.nodes = (nodes.filter (!·.locked)).map (·.id) := by
      rw [planDeletion_eq, if_neg hlocked]
      exact ⟨_, rfl, rfl⟩
    have hmutations : plan.changes.map Change.mutation? =
        (plan.nodes.map Mutation.deleteNode ++ plan.links.map Mutation.deleteLink).map some := by
      simp [DeletionPlan.changes, Function.comp_def, Change.mutation?]
    have hrun : (c.deleteSelection map nodes links).run ctx =
        let after := (c.mutateAll map
          (plan.nodes.map .deleteNode ++ plan.links.map .deleteLink)).run ctx
        (after.1.map fun _ => .completed plan, after.2) := by
      rw [c.deleteSelection_eq map hplan]
      rfl
    obtain ⟨made, toasts, hsends, htoasts, hbatch⟩ := c.mutateAll_batch map hmutations ctx
    rw [hrun]
    refine ⟨made, toasts, hsends, htoasts, fun hsome hall => absurd ⟨hsome, hall⟩ hlocked,
      fun _ => ⟨plan, hplan, hbatch.mapped _, fun outcome houtcome => eq_of_map_const houtcome⟩,
      fun e he n hn hn' hrequest => ?_⟩
    -- A node is asked for by its id, so that no locked one may share that of an unlocked one.
    obtain ⟨change, hchange, hasked⟩ := hbatch.exists_change he
    rw [hrequest] at hasked
    rcases List.mem_append.mp hchange with hchange | hchange
    · obtain ⟨id, hid, rfl⟩ := List.mem_map.mp hchange
      rw [hplanned] at hid
      obtain ⟨other, hother, rfl⟩ := List.mem_map.mp hid
      obtain ⟨hselected, hunlocked⟩ := List.mem_filter.mp hother
      have hsame : n.id = other.id := Mutation.deleteNode.inj (Request.mutate.inj hasked).2
      exact id_ne_of_locked hg hn hn' (hnodes hselected) (by simpa using hunlocked) hsame.symm
    · obtain ⟨id, -, rfl⟩ := List.mem_map.mp hchange
      cases (Request.mutate.inj hasked).2

theorem moveSelection_moves {moves : List (Node × Position)} (hmoves : moves.map Prod.fst ⊆ g.nodes)
    (ctx : Context σ) :
    let after := (c.moveSelection map moves).run ctx
    ∃ made toasts, ctx.wire.Sends made after.2.wire ∧
      after.2.toasts.toasts = ctx.toasts.toasts ++ toasts ∧
      c.Moves map g moves made toasts after.1 := by
  have hmutations : (Change.ofMoves moves).map Change.mutation? =
      ((moves.filter fun m => !m.1.locked).map fun m => Mutation.moveNode m.1.id m.2).map some := by
    simp [Change.ofMoves, Function.comp_def, Change.mutation?]
  have hrun : (c.moveSelection map moves).run ctx =
      let free := moves.filter fun m => !m.1.locked
      let after := (c.mutateAll map (free.map fun m => .moveNode m.1.id m.2)).run ctx
      (after.1.map fun _ => free.length, after.2) := by
    rw [c.moveSelection_eq map moves]
    rfl
  obtain ⟨made, toasts, hsends, htoasts, hbatch⟩ := c.mutateAll_batch map hmutations ctx
  rw [hrun]
  refine ⟨made, toasts, hsends, htoasts, hbatch.mapped _, fun count hcount => ?_,
    fun e he n hn hn' p hrequest => ?_⟩
  · rw [eq_of_map_const hcount, Change.ofMoves, List.length_map]
  · obtain ⟨change, hchange, hasked⟩ := hbatch.exists_change he
    rw [hrequest] at hasked
    obtain ⟨m, hm, rfl⟩ := List.mem_map.mp hchange
    obtain ⟨hselected, hunlocked⟩ := List.mem_filter.mp hm
    have hsame : n.id = m.1.id := (Mutation.moveNode.inj (Request.mutate.inj hasked).2).1
    exact id_ne_of_locked hg hn hn' (hmoves (List.mem_map_of_mem hselected))
      (by simpa using hunlocked) hsame.symm

/-- Whatever is selected of a graph, and whatever the backend answers, deleting the selection and
moving it send what is planned up to the first request that fails, and spare what is locked. -/
theorem selections_batched (ctx : Context σ) :
    (∀ nodes links, nodes ⊆ g.nodes →
      let after := (c.deleteSelection map nodes links).run ctx
      ∃ made toasts, ctx.wire.Sends made after.2.wire ∧
        after.2.toasts.toasts = ctx.toasts.toasts ++ toasts ∧
        c.Deletes map g nodes links made toasts after.1) ∧
    ∀ moves, moves.map Prod.fst ⊆ g.nodes →
      let after := (c.moveSelection map moves).run ctx
      ∃ made toasts, ctx.wire.Sends made after.2.wire ∧
        after.2.toasts.toasts = ctx.toasts.toasts ++ toasts ∧
        c.Moves map g moves made toasts after.1 :=
  ⟨fun _ links hnodes => c.deleteSelection_deletes map hg hnodes links ctx,
    fun _ hmoves => c.moveSelection_moves map hg hmoves ctx⟩

omit hg

/-- A backend that accepts a number of changes and refuses all others. -/
def acceptingSome : Backend Nat where
  reply left _ _ := (.response ⟨if left = 0 then 500 else 204, [], .closed⟩, left - 1)

/-- The only node that is asked for is deleted, and the only link is not. Of the same nodes, the
unlocked one is moved. -/
theorem selections_batched_halfway :
    let uuid (k : Nat) : Uuid := ⟨List.replicate 31 0 ++ [Fin.ofNat 16 k], rfl⟩
    let client : Client := ⟨"http://backend", none, 1000⟩
    let g := Graph.ofDetail (forked uuid) 1
    let nodes := (forked uuid).nodes.take 2
    let links := ((forked uuid).links.drop 1).take 1
    let ctx : Context Nat := ⟨.start acceptingSome 1, .empty⟩
    let moves := nodes.map fun n => (n, Position.origin)
    let after := (client.deleteSelection ⟨uuid 0⟩ nodes links).run ctx
    let moved := (client.moveSelection ⟨uuid 0⟩ moves).run ctx
    (g.nodes.map Node.id).Nodup ∧ nodes ⊆ g.nodes ∧ moves.map Prod.fst ⊆ g.nodes ∧
      (after.2.wire.exchanges.length = 2 ∧
        after.1 = .error ⟨.rejected 500, "Failed to delete connection"⟩) ∧
      (∃ made toasts, ctx.wire.Sends made after.2.wire ∧
        after.2.toasts.toasts = ctx.toasts.toasts ++ toasts ∧
        client.Deletes ⟨uuid 0⟩ g nodes links made toasts after.1) ∧
      moved.1 = .ok 1 ∧ ∃ made toasts, ctx.wire.Sends made moved.2.wire ∧
        moved.2.toasts.toasts = ctx.toasts.toasts ++ toasts ∧
        client.Moves ⟨uuid 0⟩ g moves made toasts moved.1 := by
  intro uuid client g nodes links ctx moves
  have hg : (g.nodes.map Node.id).Nodup := Graph.nodup_collect
  have hnodes : nodes ⊆ g.nodes := by
    show nodes ⊆ (forked uuid).nodes
    exact List.take_subset _ _
  have hmoves : moves.map Prod.fst ⊆ g.nodes := by
    rw [List.map_map, Function.comp_def, List.map_id']
    exact hnodes
  refine ⟨hg, hnodes, hmoves, ?_, ?_, ?_, ?_⟩
  · decide +kernel
  · exact (client.selections_batched ⟨uuid 0⟩ hg ctx).1 nodes links hnodes
  · decide +kernel
  · exact (client.selections_batched ⟨uuid 0⟩ hg ctx).2 moves hmoves

end Client

end WormholeMap

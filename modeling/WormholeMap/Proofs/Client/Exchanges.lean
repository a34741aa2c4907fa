import WormholeMap.Action

/-!
The exchanges that a client makes. What is run on a context only ever adds exchanges to its wire,
and `Run.Makes` says which ones, together with the result. Of several mutations the requests go out
in order, up to the first that fails (`Carried`).
-/

namespace WormholeMap

namespace Wire

/-- A message goes out on a wire and is answered: by the backend, unless it cannot leave. -/
structure Sent (w : Wire σ) (e : Exchange) (w' : Wire σ) : Prop where
  exchanges : w'.exchanges = w.exchanges ++ [e]
  backend : w'.backend = w.backend
  time_eq : e.time = w.clock
  clock : w'.clock = w.clock
  answer : (e.reply, w'.state) = (.unsent, w.state) ∨
    (e.reply, w'.state) = w.backend.reply w.state w.clock e.message

theorem sent_send (w : Wire σ) (message : Message) :
    w.Sent ⟨w.clock, message, (w.send message).1⟩ (w.send message).2 where
  exchanges := rfl
  backend := rfl
  time_eq := rfl
  clock := rfl
  answer := by
    cases hleave : message.canLeave with
    | true => exact .inr (by simp [send, hleave])
    | false => exact .inl (by simp [send, hleave])

/-- A response comes from the backend. -/
theorem Sent.of_response {w w' : Wire σ} {e : Exchange} (h : w.Sent e w') {r : Response}
    (hr : e.reply = .response r) :
    w.backend.reply w.state w.clock e.message = (.response r, w'.state) := by
  rcases h.answer with hnone | hreply
  · rw [hr] at hnone
    cases hnone
  · rw [← hreply, hr]

end Wire

/-- From one context to a later one, exchanges have been made and toasts shown, in order. -/
structure Context.Adds (ctx : Context σ) (made : List Exchange) (told : List Toast)
    (ctx' : Context σ) : Prop where
  exchanges : ctx'.wire.exchanges = ctx.wire.exchanges ++ made
  toasts : ctx'.toasts.toasts = ctx.toasts.toasts ++ told
  backend : ctx'.wire.backend = ctx.wire.backend

namespace Context.Adds

variable {ctx ctx' ctx'' : Context σ} {made more : List Exchange} {told further : List Toast}

theorem refl (ctx : Context σ) : ctx.Adds [] [] ctx :=
  ⟨(List.append_nil _).symm, (List.append_nil _).symm, rfl⟩

theorem sent {e : Exchange} {wire : Wire σ} (h : ctx.wire.Sent e wire) :
    ctx.Adds [e] [] { ctx with wire } :=
  ⟨h.exchanges, (List.append_nil _).symm, h.backend⟩

theorem notify (ctx : Context σ) (t : Toast) :
    ctx.Adds [] [t] { ctx with toasts := ctx.toasts.notify t } :=
  ⟨(List.append_nil _).symm, rfl, rfl⟩

theorem trans (h : ctx.Adds made told ctx') (h' : ctx'.Adds more further ctx'') :
    ctx.Adds (made ++ more) (told ++ further) ctx'' :=
  ⟨by rw [h'.exchanges, h.exchanges, List.append_assoc],
    by rw [h'.toasts, h.toasts, List.append_assoc], h'.backend.trans h.backend⟩

end Context.Adds

/-- Wherever it is run, it adds exchanges to those of the wire that satisfy, with its result, a
relation. -/
def Run.Makes (x : Run σ α) (P : List Exchange → α → Prop) : Prop :=
  ∀ ctx, ∃ made, (x.run ctx).2.wire.exchanges = ctx.wire.exchanges ++ made ∧ P made (x.run ctx).1

namespace Run.Makes

variable {x : Run σ α} {f : α → Run σ β} {P P' : List Exchange → α → Prop}
  {Q : List Exchange → β → Prop}

theorem mono (hx : Makes x P) (h : ∀ made a, P made a → P' made a) : Makes x P' := by
  intro ctx
  obtain ⟨made, hmade, hP⟩ := hx ctx
  exact ⟨made, hmade, h made _ hP⟩

theorem pure {a : α} (h : P [] a) : Makes (Pure.pure a : Run σ α) P :=
  fun _ => ⟨[], (List.append_nil _).symm, h⟩

theorem bind (hx : Makes x P)
    (hf : ∀ made a, P made a → Makes (f a) fun more b => Q (made ++ more) b) :
    Makes (x >>= f) Q := by
  intro ctx
  obtain ⟨made, hmade, hP⟩ := hx ctx
  obtain ⟨more, hmore, hQ⟩ := hf made _ hP (x.run ctx).2
  refine ⟨made ++ more, ?_, hQ⟩
  rw [← List.append_assoc, ← hmade]
  exact hmore

/-- What is done with a result without any exchange. -/
theorem bind_pure {g : α → β} (hx : Makes x P) (h : ∀ made a, P made a → Q made (g a)) :
    Makes (x >>= fun a => Pure.pure (g a)) Q :=
  hx.bind fun made a hP => .pure ((List.append_nil made).symm ▸ h made a hP)

end Run.Makes

theorem makes_notify (t : Toast) :
    Run.Makes (notify t : Run σ Unit) fun made _ => made = [] :=
  fun _ => ⟨[], (List.append_nil _).symm, rfl⟩

/-! ### Exchanges that succeed -/

namespace Exchange

/-- The map that an exchange has loaded. -/
def loaded? (e : Exchange) : Option MapDetail :=
  match e.message.request with
  | .loadMap _ => (e.reply.check.bind (·.read MapDetail.read)).toOption
  | _ => none

/-- The exchange has brought what was asked for: a map that can be read, or any response of
success. -/
def Succeeds (e : Exchange) : Prop :=
  match e.message.request with
  | .loadMap _ => e.loaded?.isSome = true
  | _ => e.reply.check.isOk = true

theorem succeeds_load {e : Exchange} {map : MapId} (h : e.message.request = .loadMap map) :
    e.Succeeds ↔ e.loaded?.isSome = true := by
  rw [Succeeds, h]

theorem succeeds_mutate {e : Exchange} {map : MapId} {m : Mutation}
    (h : e.message.request = .mutate map m) : e.Succeeds ↔ e.reply.check.isOk = true := by
  rw [Succeeds, h]

/-- The body never ends, and the program waits for the rest of it: that of a map that is loaded, or of
a refusal, unless that is of a stream. Of what views and commands ask for, no other body is read. -/
def Hangs (e : Exchange) : Prop :=
  ∃ r, e.reply = .response r ∧ r.ending = .held ∧
    match e.message.request with
    | .loadMap _ => True
    | .followMap .. => False
    | _ => r.isSuccess = false

/-- An exchange that hangs counts as one that has failed. -/
theorem Hangs.not_succeeds {e : Exchange} (h : e.Hangs) : ¬e.Succeeds := by
  obtain ⟨r, hreply, hheld, hread⟩ := h
  have hbody : r.body? = none := by simp [Response.body?, hheld]
  have hrefused (hrefused : r.isSuccess = false) : ¬e.reply.check.isOk = true := by
    rw [hreply, Reply.check, hrefused]
    exact Bool.false_ne_true
  cases hrequest : e.message.request with
  | loadMap map =>
    rw [succeeds_load hrequest, loaded?, hrequest]
    simp only [hreply, Reply.check]
    split
    · simp [Except.bind, Response.read, hbody, Except.toOption]
    · exact Bool.false_ne_true
  | followMap map cursor =>
    rw [hrequest] at hread
    exact hread.elim
  | _ =>
    rw [hrequest] at hread
    rw [Succeeds, hrequest]
    exact hrefused hread

/-- What the user is told of an exchange: an error if it has failed. -/
def Reported (e : Exchange) (told : List Toast) : Prop :=
  e.Succeeds ∧ told = [] ∨ ¬e.Succeeds ∧ ∃ text, told = [.error "Error" text]

end Exchange

namespace Client

variable (c : Client) (map : MapId)

theorem adds_send (r : Request) (ctx : Context σ) :
    ∃ e ctx', (c.send r).run ctx = (e.reply, ctx') ∧ ctx.Adds [e] [] ctx' ∧
      e.message = c.message r := by
  have hsent := ctx.wire.sent_send (c.message r)
  have hsend : (c.send r).run ctx = ((ctx.wire.send (c.message r)).1,
      { ctx with wire := (ctx.wire.send (c.message r)).2 }) := rfl
  generalize ctx.wire.send (c.message r) = sent at hsent hsend
  exact ⟨⟨ctx.wire.clock, c.message r, sent.1⟩, { ctx with wire := sent.2 }, hsend,
    .sent hsent, rfl⟩

theorem makes_send (r : Request) :
    Run.Makes (c.send r : Run σ Reply) fun made reply =>
      ∃ e, made = [e] ∧ e.message = c.message r ∧ e.reply = reply := by
  intro ctx
  obtain ⟨e, ctx', hsend, hadds, hmessage⟩ := c.adds_send r ctx
  rw [hsend]
  exact ⟨[e], hadds.exchanges, e, rfl, hmessage, rfl⟩

/-- A request is made once, and the result is what its answer reads as. -/
theorem makes_fetch (read : Json.Written → Option α) (r : Request) :
    Run.Makes (c.fetch read r : Run σ (Except ApiError α)) fun made result =>
      ∃ e, made = [e] ∧ e.message = c.message r ∧ result = e.reply.check.bind (·.read read) := by
  refine (c.makes_send r).bind_pure ?_
  rintro made reply ⟨e, rfl, hmessage, rfl⟩
  exact ⟨e, rfl, hmessage, rfl⟩

theorem adds_loadMap (ctx : Context σ) :
    ∃ e, ctx.Adds [e] [] ((c.loadMap map).run ctx).2 ∧ e.message.request = .loadMap map ∧
      e.loaded? = ((c.loadMap map).run ctx).1.toOption := by
  obtain ⟨e, ctx', hsend, hadds, hmessage⟩ := c.adds_send (.loadMap map) ctx
  have hrequest : e.message.request = .loadMap map := by rw [hmessage, message]
  have hload : (c.loadMap map).run ctx = (e.reply.check.bind (·.read MapDetail.read), ctx') := by
    rw [loadMap, fetch, StateT.run_bind, hsend]
    rfl
  rw [hload]
  exact ⟨e, hadds, hrequest, by rw [Exchange.loaded?, hrequest]⟩

theorem makes_loadMap : Run.Makes (c.loadMap map : Run σ (Except ApiError MapDetail))
    fun made result => ∃ e, made = [e] ∧ e.message.request = .loadMap map ∧
      e.loaded? = result.toOption := by
  intro ctx
  obtain ⟨e, hadds, hrequest, hloaded⟩ := c.adds_loadMap map ctx
  exact ⟨[e], hadds.exchanges, e, rfl, hrequest, hloaded⟩

/-- A result is shown to the user if it is a failure. -/
theorem run_report (fallback : String) (result : Except ApiError α) (ctx : Context σ) :
    (report fallback result).run ctx =
      match result with
      | .ok given => (.ok given, ctx)
      | .error e =>
        let e := ActionError.ofApi fallback e
        (.error e, { ctx with toasts := ctx.toasts.notify (.error "Error" e.message) }) := by
  cases result <;> rfl

/-- To make a map the first one is to send a request, and to tell the user when it fails. -/
theorem adds_selectMap (ctx : Context σ) :
    ∃ e told, ctx.Adds [e] told ((c.selectMap map).run ctx).2 ∧
      e.message.request = .selectMap map ∧ e.Reported told := by
  obtain ⟨e, ctx', hsend, hadds, hmessage⟩ := c.adds_send (.selectMap map) ctx
  have hrequest : e.message.request = .selectMap map := by rw [hmessage, message]
  have hselect : (c.selectMap map).run ctx =
      (report "Failed to save selected map" (e.reply.check.map fun _ => ())).run ctx' := by
    rw [selectMap, submit, StateT.run_bind, StateT.run_bind, hsend]
    rfl
  have hsucceeds : e.Succeeds ↔ e.reply.check.isOk = true := by rw [Exchange.Succeeds, hrequest]
  rw [hselect, run_report]
  cases hcheck : e.reply.check with
  | ok r =>
    rw [hcheck] at hsucceeds
    exact ⟨e, [], hadds, hrequest, .inl ⟨hsucceeds.mpr rfl, rfl⟩⟩
  | error error =>
    rw [hcheck] at hsucceeds
    have hfails : ¬e.Succeeds := fun h => by cases hsucceeds.mp h
    exact ⟨e, _, hadds.trans (.notify ctx' _), hrequest, .inr ⟨hfails, _, rfl⟩⟩

theorem makes_report (fallback : String) (result : Except ApiError α) :
    Run.Makes (report fallback result : Run σ (Except ActionError α)) fun made reported =>
      made = [] ∧ reported.isOk = result.isOk := by
  intro ctx
  rw [run_report]
  cases result <;> exact ⟨[], (List.append_nil _).symm, rfl, rfl⟩

theorem makes_mutate (m : Mutation) :
    Run.Makes (c.mutate map m : Run σ (Except ActionError Unit)) fun made result =>
      ∃ e, made = [e] ∧ e.message.request = .mutate map m ∧
        (result.isOk = true ↔ e.Succeeds) := by
  have hsubmit : Run.Makes (c.submit (.mutate map m) : Run σ (Except ApiError Unit))
      fun made result => ∃ e, made = [e] ∧ e.message.request = .mutate map m ∧
        (result.isOk = true ↔ e.Succeeds) := by
    refine (c.makes_send (.mutate map m)).bind_pure ?_
    rintro made reply ⟨e, rfl, hmessage, rfl⟩
    have hrequest : e.message.request = .mutate map m := by rw [hmessage, message]
    refine ⟨e, rfl, hrequest, ?_⟩
    rw [Exchange.succeeds_mutate hrequest]
    cases e.reply.check <;> rfl
  refine hsubmit.bind fun made result h => ?_
  refine (makes_report m.failure result).mono ?_
  rintro more reported ⟨rfl, hreported⟩
  rw [List.append_nil, hreported]
  exact h

end Client

/-! ### Several mutations -/

/-- Exchanges that carry out mutations of a map in order, up to the first that fails. -/
structure Carried (map : MapId) (plan : List Mutation) (made : List Exchange) (ok : Bool) :
    Prop where
  requests : made.map (·.message.request) <+: plan.map (.mutate map)
  kept : ∀ e ∈ made.dropLast, e.Succeeds
  completed : ok = true →
    made.map (·.message.request) = plan.map (.mutate map) ∧ ∀ e ∈ made, e.Succeeds
  failed : ok = false → ∃ e ∈ made, ¬e.Succeeds

namespace Carried

variable {map : MapId} {m : Mutation} {plan : List Mutation} {made : List Exchange} {ok : Bool}
  {e : Exchange}

theorem nil : Carried map [] [] true where
  requests := List.prefix_rfl
  kept _ he := absurd he List.not_mem_nil
  completed _ := ⟨rfl, fun _ he => absurd he List.not_mem_nil⟩
  failed h := by cases h

theorem stopped (hrequest : e.message.request = .mutate map m) (h : ¬e.Succeeds) :
    Carried map (m :: plan) [e] false where
  requests := by
    rw [List.map_singleton, hrequest, List.map_cons]
    exact List.prefix_append [_] _
  kept _ he := absurd he List.not_mem_nil
  completed h := by cases h
  failed _ := ⟨e, List.mem_singleton_self e, h⟩

theorem cons (hrequest : e.message.request = .mutate map m) (hsucceeds : e.Succeeds)
    (h : Carried map plan made ok) : Carried map (m :: plan) (e :: made) ok where
  requests := by
    rw [List.map_cons, hrequest, List.map_cons]
    exact List.prefix_cons_inj _ |>.mpr h.requests
  kept e' he' := by
    cases made with
    | nil => exact absurd he' List.not_mem_nil
    | cons first made =>
      rcases List.mem_cons.mp he' with rfl | he'
      · exact hsucceeds
      · exact h.kept e' he'
  completed hok := by
    obtain ⟨hrequests, hall⟩ := h.completed hok
    rw [List.map_cons, hrequest, hrequests, List.map_cons]
    exact ⟨rfl, List.forall_mem_cons.mpr ⟨hsucceeds, hall⟩⟩
  failed hok := by
    obtain ⟨e', he', hfails⟩ := h.failed hok
    exact ⟨e', List.mem_cons_of_mem e he', hfails⟩

theorem single (hrequest : e.message.request = .mutate map m) (h : ok = true ↔ e.Succeeds) :
    Carried map [m] [e] ok := by
  cases ok with
  | false => exact .stopped hrequest fun hsucceeds => by cases h.mpr hsucceeds
  | true => exact .cons hrequest (h.mp rfl) .nil

/-- An exchange that fails is the last one. -/
theorem last_of_not_succeeds (h : Carried map plan made ok) (he : e ∈ made) (hfails : ¬e.Succeeds) :
    made.getLast? = some e ∧ ok = false := by
  have hne : made ≠ [] := List.ne_nil_of_mem he
  have hsplit := List.dropLast_concat_getLast hne
  refine ⟨?_, ?_⟩
  · rw [← hsplit] at he
    rcases List.mem_append.mp he with he | he
    · exact absurd (h.kept e he) hfails
    · rw [List.getLast?_eq_some_getLast hne, List.mem_singleton.mp he]
  · cases ok with
    | false => rfl
    | true => exact absurd ((h.completed rfl).2 e he) hfails

/-- Something is sent if anything is planned. -/
theorem ne_nil (h : Carried map plan made ok) (hplan : plan ≠ []) : made ≠ [] := by
  cases ok with
  | false =>
    obtain ⟨e, he, -⟩ := h.failed rfl
    exact List.ne_nil_of_mem he
  | true =>
    rintro rfl
    exact hplan (List.map_eq_nil_iff.mp (h.completed rfl).1.symm)

/-- Every exchange makes a change. -/
theorem isMutation (h : Carried map plan made ok) (he : e ∈ made) :
    ∃ m, e.message.request = .mutate map m := by
  have hmem := h.requests.subset (List.mem_map_of_mem he)
  obtain ⟨m, -, hm⟩ := List.mem_map.mp hmem
  exact ⟨m, hm.symm⟩

end Carried

namespace Client

variable (c : Client) (map : MapId)

/-- A single mutation. -/
theorem makes_change (m : Mutation) :
    Run.Makes (c.mutate map m : Run σ (Except ActionError Unit)) fun made result =>
      Carried map [m] made result.isOk := by
  refine (c.makes_mutate map m).mono ?_
  rintro made result ⟨e, rfl, hrequest, hsucceeds⟩
  exact .single hrequest hsucceeds

theorem makes_toggleLock (n : Node) :
    Run.Makes (c.toggleLock map n : Run σ (Except ActionError Unit)) fun made result =>
      Carried map [.setLock n.id (!n.locked)] made result.isOk :=
  c.makes_change map _

theorem makes_mutateAll (plan : List Mutation) :
    Run.Makes (c.mutateAll map plan : Run σ (Except ActionError Unit)) fun made result =>
      Carried map plan made result.isOk := by
  induction plan with
  | nil => exact .pure .nil
  | cons m plan ih =>
    refine (c.makes_mutate map m).bind ?_
    rintro made result ⟨e, rfl, hrequest, hsucceeds⟩
    cases result with
    | error error =>
      have hfails : ¬e.Succeeds := fun h => by cases hsucceeds.mpr h
      exact .pure (.stopped hrequest hfails)
    | ok _ => exact ih.mono fun more result h => .cons hrequest (hsucceeds.mp rfl) h

/-- Mutations of two kinds, one after the other, are one list of mutations. -/
theorem mutateAll_append (ms ms' : List Mutation) :
    (c.mutateAll map (ms ++ ms') : Run σ (Except ActionError Unit)) = (do
      match ← c.mutateAll map ms with
      | .ok _ => c.mutateAll map ms'
      | .error e => return .error e) := by
  induction ms with
  | nil => rfl
  | cons m ms ih =>
    rw [List.cons_append, mutateAll, mutateAll, bind_assoc]
    refine bind_congr fun result => ?_
    cases result with
    | ok _ => exact ih
    | error e => rfl

/-- The moves made in a loop are those of the unlocked nodes. -/
theorem moveEach_eq (moved : Nat) (moves : List (Node × Position)) :
    (c.moveEach map moved moves : Run σ (Except ActionError Nat)) = (do
      let free := moves.filter fun m => !m.1.locked
      let result ← c.mutateAll map (free.map fun m => .moveNode m.1.id m.2)
      return result.map fun _ => moved + free.length) := by
  induction moves generalizing moved with
  | nil => rfl
  | cons m moves ih =>
    obtain ⟨n, p⟩ := m
    rw [moveEach]
    cases hlocked : n.locked with
    | true => simpa [hlocked] using ih moved
    | false =>
      have hfree : ((n, p) :: moves).filter (fun m => !m.1.locked) =
          (n, p) :: moves.filter fun m => !m.1.locked := List.filter_cons_of_pos (by simp [hlocked])
      simp only [hfree, List.map_cons, mutateAll, bind_assoc, Bool.false_eq_true, if_false]
      refine bind_congr fun result => ?_
      cases result with
      | ok _ =>
        refine (ih (moved + 1)).trans ?_
        simp only [List.length_cons, Nat.add_assoc, Nat.add_comm 1]
      | error e => rfl

theorem moveSelection_eq (moves : List (Node × Position)) :
    (c.moveSelection map moves : Run σ (Except ActionError Nat)) = (do
      let free := moves.filter fun m => !m.1.locked
      let result ← c.mutateAll map (free.map fun m => .moveNode m.1.id m.2)
      return result.map fun _ => free.length) := by
  rw [moveSelection, moveEach_eq]
  simp only [Nat.zero_add]

theorem deleteSelection_eq {nodes : List Node} {links : List Link} {plan : DeletionPlan}
    (h : planDeletion nodes links = some plan) :
    (c.deleteSelection map nodes links : Run σ (Except ActionError DeletionOutcome)) = (do
      let result ← c.mutateAll map (plan.nodes.map .deleteNode ++ plan.links.map .deleteLink)
      return result.map fun _ => .completed plan) := by
  rw [deleteSelection, h, mutateAll_append, bind_assoc]
  refine bind_congr fun result => ?_
  cases result with
  | error e => rfl
  | ok _ =>
    refine bind_congr fun result => ?_
    cases result <;> rfl

theorem makes_moveSelection (moves : List (Node × Position)) :
    Run.Makes (c.moveSelection map moves : Run σ (Except ActionError Nat)) fun made result =>
      let free := moves.filter fun m => !m.1.locked
      Carried map (free.map fun m => .moveNode m.1.id m.2) made result.isOk ∧
        ∀ count, result = .ok count → count = free.length := by
  rw [moveSelection_eq]
  refine (c.makes_mutateAll map _).bind_pure fun made result h => ?_
  cases result with
  | error e => exact ⟨h, fun count hcount => by cases hcount⟩
  | ok _ => exact ⟨h, fun count hcount => by cases hcount; rfl⟩

/-- A selection is deleted as planned, or nothing is where there is no plan. -/
theorem makes_deleteSelection (nodes : List Node) (links : List Link) :
    Run.Makes (c.deleteSelection map nodes links : Run σ (Except ActionError DeletionOutcome))
      fun made result =>
        match planDeletion nodes links with
        | none => made = [] ∧ ∃ locked, result = .ok (.cancelled locked)
        | some plan =>
          Carried map (plan.nodes.map .deleteNode ++ plan.links.map .deleteLink) made result.isOk ∧
            ∀ outcome, result = .ok outcome → outcome = .completed plan := by
  cases hplan : planDeletion nodes links with
  | none =>
    rw [deleteSelection, hplan]
    refine (makes_notify _).bind_pure ?_
    rintro made _ rfl
    exact ⟨rfl, _, rfl⟩
  | some plan =>
    rw [c.deleteSelection_eq map hplan]
    refine (c.makes_mutateAll map _).bind_pure fun made result h => ?_
    cases result with
    | error e => exact ⟨h, fun outcome houtcome => by cases houtcome⟩
    | ok _ => exact ⟨h, fun outcome houtcome => by cases houtcome; rfl⟩

end Client

end WormholeMap

import WormholeMap.Proofs.Subscription.Requests
import WormholeMap.Proofs.View.Following

/-!
What happens to a view turn by turn: the exchanges made, the answer taken, what its event asks of
the view, and the toasts shown. The moments of a run say all that is added to its context
(`Ahead.adds_moments`), and each turn is of one of a few kinds (`Ahead.turned`).
-/

namespace WormholeMap

namespace View

open ReadAhead (Turn)

/-! ### Answers -/

section

variable (v : View)

/-- The toast that tells of live updates. -/
def liveToast : Toast := .success "Connected to live updates"

/-- The toast that tells of a lost connection. -/
def lostToast : Toast := .warning "Connection lost" "Reconnecting..."

/-- What the user is told when the view takes an answer. -/
def tells : Option Delivery → List Toast
  | some .connected => if v.announced then [] else [liveToast]
  | some (.interrupted _) => if v.outage then [] else [lostToast]
  | some (.event _ e) =>
    match (v.workspace.apply e).2 with
    | .reload (some message) => [.error "Sync error" message]
    | _ => []
  | _ => []

/-- What the event that an answer hands out asks of the view. -/
def outcome? (answer : Option Delivery) : Option Outcome :=
  (Delivery.event? answer).map fun e => (v.workspace.apply e).2

/-- The view after it has taken an answer. -/
def takeUp : Option Delivery → View
  | some .connected => { v with announced := true, outage := false }
  | some (.interrupted _) => { v with outage := true }
  | some (.event _ e) =>
    let applied := { v with workspace := (v.workspace.apply e).1 }
    match (v.workspace.apply e).2 with
    | .proceed => applied
    | .reload _ => { applied with phase := .loading }
    | .leave reason => applied.finish (.ok (.left reason))
  | some .silence => v
  | some .closed | none => v.finish (.ok .streamClosed)

theorem deliver_run (answer : Option Delivery) (ctx : Context σ) :
    ∃ ctx', (v.deliver answer).run ctx = (v.takeUp answer, ctx') ∧
      ctx.Adds [] (v.tells answer) ctx' := by
  have hsame : ctx.Adds [] [] ctx := .refl ctx
  have htold (t : Toast) := Context.Adds.notify ctx t
  cases answer with
  | none => exact ⟨ctx, rfl, hsame⟩
  | some d =>
    cases d with
    | connected =>
      simp only [deliver, connected, tells, takeUp]
      cases v.announced
      · exact ⟨_, rfl, htold _⟩
      · exact ⟨ctx, rfl, hsame⟩
    | interrupted fault =>
      simp only [deliver, interrupted, tells, takeUp]
      cases v.outage
      · exact ⟨_, rfl, htold _⟩
      · exact ⟨ctx, rfl, hsame⟩
    | event cursor e =>
      simp only [deliver, take, tells, takeUp]
      cases (v.workspace.apply e).2 with
      | reload message =>
        cases message
        · exact ⟨ctx, rfl, hsame⟩
        · exact ⟨_, rfl, htold _⟩
      | _ => exact ⟨ctx, rfl, hsame⟩
    | _ => exact ⟨ctx, rfl, hsame⟩

end

/-! ### Moments -/

/-- What happens at a turn: the exchanges made, the message taken, if one is, what its event asks of
the view, if it is one, and the toasts shown. -/
structure Moment where
  made : List Exchange
  taken : Option Delivery
  outcome : Option Outcome
  toasts : List Toast

namespace Ahead

/-- A view with a workspace that may have been in use before. -/
def opened (client : Client) (map : MapId) (w : Workspace) (ctx : Context σ) : Ahead σ :=
  ⟨{ View.start client map with workspace := w }, [], ctx⟩

/-- The answer that the view takes at a turn: the first one that waits, or else the next one. -/
def taken? (a : Ahead σ) : Turn → Option Delivery
  | .read => none
  | .take =>
    match a.view.phase with
    | .following s => a.waiting.head?.getD (s.next.run a.context).1.1
    | _ => none

def moment (a : Ahead σ) (t : Turn) : Moment where
  made := (a.turn t).context.wire.exchanges.drop a.context.wire.exchanges.length
  taken := a.taken? t
  outcome := a.view.outcome? (a.taken? t)
  toasts := (a.turn t).context.toasts.toasts.drop a.context.toasts.toasts.length

def moments (a : Ahead σ) : List Turn → List Moment
  | [] => []
  | t :: turns => a.moment t :: (a.turn t).moments turns

variable {a : Ahead σ}

theorem moments_concat (a : Ahead σ) (turns : List Turn) (t : Turn) :
    a.moments (turns ++ [t]) = a.moments turns ++ [(a.run turns).moment t] := by
  induction turns generalizing a with
  | nil => rfl
  | cons first turns ih => exact congrArg (a.moment first :: ·) (ih (a.turn first))

theorem moment_eq {t : Turn} {made : List Exchange} {told : List Toast}
    (h : a.context.Adds made told (a.turn t).context) :
    a.moment t = ⟨made, a.taken? t, a.view.outcome? (a.taken? t), told⟩ := by
  rw [moment, h.exchanges, h.toasts, List.drop_left, List.drop_left]

/-- What a turn can do, with the view after it and the moment that it is. -/
inductive Turned (a : Ahead σ) : Turn → Ahead σ → Moment → Prop
  | idle {t : Turn} {waiting : List (Option Delivery)} (hphase : ∀ s, a.view.phase ≠ .following s)
    (hwaiting : waiting ⊆ a.waiting) (hended : t = .take → ∃ result, a.view.phase = .ended result) :
    Turned a t { a with waiting } ⟨[], none, none, []⟩
  | selects (hphase : a.view.phase = .opening) {e : Exchange} {told : List Toast} {ctx : Context σ}
    (hadds : a.context.Adds [e] told ctx) (hrequest : e.message.request = .selectMap a.view.map)
    (htold : e.Reported told) :
    Turned a .take ⟨{ a.view with phase := .loading }, [], ctx⟩ ⟨[e], none, none, told⟩
  | loads (hphase : a.view.phase = .loading) {e : Exchange} {detail : MapDetail} {ctx : Context σ}
    (hadds : a.context.Adds [e] [] ctx) (hrequest : e.message.request = .loadMap a.view.map)
    (hloaded : e.loaded? = some detail) :
    Turned a .take
      ⟨{ a.view with
        workspace := a.view.workspace.enter a.view.map detail
        phase := .following (.start a.view.client a.view.map none) }, [], ctx⟩
      ⟨[e], none, none, []⟩
  | fails (hphase : a.view.phase = .loading) {e : Exchange} {error : ActionError} {ctx : Context σ}
    (hadds : a.context.Adds [e] [.error "Error" error.message] ctx)
    (hrequest : e.message.request = .loadMap a.view.map) (hloaded : e.loaded? = none) :
    Turned a .take ⟨a.view.finish (.error error), [], ctx⟩
      ⟨[e], none, none, [.error "Error" error.message]⟩
  | reads {s : Subscription} (hphase : a.view.phase = .following s) {made : List Exchange}
    (hadds : a.context.Adds made [] a.read.context)
    (hfollow : ∀ e ∈ made, ∃ map cursor, e.message.request = .followMap map cursor) :
    Turned a .read a.read ⟨made, none, none, []⟩
  | takes {s : Subscription} (hphase : a.view.phase = .following s) {answer : Option Delivery}
    {waiting : List (Option Delivery)} (hwaiting : a.waiting = answer :: waiting) {ctx : Context σ}
    (hadds : a.context.Adds [] (a.view.tells answer) ctx) :
    Turned a .take ⟨a.view.takeUp answer, waiting, ctx⟩
      ⟨[], answer, a.view.outcome? answer, a.view.tells answer⟩
  | waits {s : Subscription} (hphase : a.view.phase = .following s) (hwaiting : a.waiting = [])
    {made : List Exchange} (hmade : a.context.Adds made [] a.read.context)
    (hfollow : ∀ e ∈ made, ∃ map cursor, e.message.request = .followMap map cursor)
    {answer : Option Delivery} (hanswer : a.read.waiting = [answer]) {ctx : Context σ}
    (hadds : a.read.context.Adds [] (a.view.tells answer) ctx) :
    Turned a .take ⟨a.read.view.takeUp answer, [], ctx⟩
      ⟨made, answer, a.view.outcome? answer, a.view.tells answer⟩

theorem Turned.adds {a' : Ahead σ} {t : Turn} {m : Moment} (h : Turned a t a' m) :
    a.context.Adds m.made m.toasts a'.context := by
  cases h with
  | idle => exact .refl _
  | selects _ hadds | loads _ hadds | fails _ hadds | reads _ hadds | takes _ _ hadds => exact hadds
  | waits _ _ hmade _ _ hadds =>
    have hboth := hmade.trans hadds
    rwa [List.append_nil, List.nil_append] at hboth

theorem adds_read {s : Subscription} (hphase : a.view.phase = .following s) :
    ∃ made, a.context.Adds made [] a.read.context ∧
      ∀ e ∈ made, ∃ map cursor, e.message.request = .followMap map cursor := by
  rw [read_following hphase]
  exact s.adds_next a.context

theorem taken?_waiting {s : Subscription} (hphase : a.view.phase = .following s)
    {answer : Option Delivery} {waiting : List (Option Delivery)}
    (hwaiting : a.waiting = answer :: waiting) : a.taken? .take = answer := by
  simp [taken?, hphase, hwaiting]

/-- A view takes the answer that waits. -/
theorem turned_takes {s : Subscription} (hphase : a.view.phase = .following s)
    {answer : Option Delivery} {waiting : List (Option Delivery)}
    (hwaiting : a.waiting = answer :: waiting) :
    Turned a .take (a.turn .take) (a.moment .take) := by
  obtain ⟨ctx, hrun, hadds⟩ := a.view.deliver_run answer a.context
  have htake : a.turn .take = ⟨a.view.takeUp answer, waiting, ctx⟩ := by
    rw [turn, take_waiting hphase hwaiting, hrun]
  have hmoment := moment_eq (t := .take) (by rw [htake]; exact hadds)
  rw [hmoment, htake, taken?_waiting hphase hwaiting]
  exact .takes hphase hwaiting hadds

/-- A view for which no answer waits takes the one that is read next. -/
theorem turned_waits {s : Subscription} (hphase : a.view.phase = .following s)
    (hwaiting : a.waiting = []) : Turned a .take (a.turn .take) (a.moment .take) := by
  obtain ⟨made, hmade, hfollow⟩ := adds_read hphase
  have hread := read_following hphase
  rw [hwaiting, List.nil_append] at hread
  generalize hanswer : (s.next.run a.context).1.1 = answer at hread
  have hnext : a.read.view.phase = .following (s.next.run a.context).1.2 := by rw [hread]
  have hwaits : a.read.waiting = [answer] := by rw [hread]
  have htells : a.read.view.tells answer = a.view.tells answer := by
    rw [hread]
    rfl
  obtain ⟨ctx, hrun, hadds⟩ := a.read.view.deliver_run answer a.read.context
  rw [htells] at hadds
  have htake : a.turn .take = ⟨a.read.view.takeUp answer, [], ctx⟩ := by
    rw [turn, take_eq_read_take hphase hwaiting, take_waiting hnext hwaits, hrun]
  have hboth := hmade.trans hadds
  rw [List.append_nil, List.nil_append] at hboth
  have hmoment := moment_eq (t := .take) (by rw [htake]; exact hboth)
  have htaken : a.taken? .take = answer := by simp [taken?, hphase, hwaiting, hanswer]
  rw [hmoment, htake, htaken]
  exact .waits hphase hwaiting hmade hfollow hwaits hadds

section

variable {t : Turn} (hne : ∀ s, a.view.phase ≠ .following s)

include hne

/-- A view that follows no stream takes no answer. -/
theorem moment_of_not_following {made : List Exchange} {told : List Toast}
    (h : a.context.Adds made told (a.turn t).context) : a.moment t = ⟨made, none, none, told⟩ := by
  have htaken : a.taken? t = none := by
    cases t with
    | read => rfl
    | take =>
      cases hphase : a.view.phase with
      | following s => exact absurd hphase (hne s)
      | _ => simp [taken?, hphase]
  rw [moment_eq h, htaken]
  rfl

theorem turned_idle {waiting : List (Option Delivery)} (hturn : a.turn t = { a with waiting })
    (hwaiting : waiting ⊆ a.waiting) (hended : t = .take → ∃ result, a.view.phase = .ended result) :
    Turned a t (a.turn t) (a.moment t) := by
  have hmoment := moment_of_not_following hne (t := t) (by rw [hturn]; exact .refl a.context)
  rw [hmoment, hturn]
  exact .idle hne hwaiting hended

theorem take_of_not_following :
    a.turn .take = ⟨(a.view.step.run a.context).1, [], (a.view.step.run a.context).2⟩ :=
  take_step (.inl hne)

end

theorem turned_selects (hphase : a.view.phase = .opening) :
    Turned a .take (a.turn .take) (a.moment .take) := by
  have hne : ∀ s, a.view.phase ≠ .following s := fun s => by rw [hphase]; nofun
  have htake := take_of_not_following hne
  rw [step_opening hphase] at htake
  obtain ⟨e, told, hadds, hrequest, htold⟩ := a.view.client.adds_selectMap a.view.map a.context
  have hmoment := moment_of_not_following hne (t := .take) (by rw [htake]; exact hadds)
  rw [hmoment, htake]
  exact .selects hphase hadds hrequest htold

theorem turned_loads (hphase : a.view.phase = .loading) :
    Turned a .take (a.turn .take) (a.moment .take) := by
  have hne : ∀ s, a.view.phase ≠ .following s := fun s => by rw [hphase]; nofun
  have htake := take_of_not_following hne
  rw [step_loading hphase] at htake
  obtain ⟨e, hadds, hrequest, hloaded⟩ := a.view.client.adds_loadMap a.view.map a.context
  generalize (a.view.client.loadMap a.view.map).run a.context = after at htake hadds hloaded
  obtain ⟨answer, ctx⟩ := after
  cases answer with
  | ok detail =>
    have hmoment := moment_of_not_following hne (t := .take) (by rw [htake]; exact hadds)
    rw [hmoment, htake]
    exact .loads hphase hadds hrequest hloaded
  | error error =>
    have htold : a.context.Adds [e]
        [.error "Error" (ActionError.ofApi "Failed to load map" error).message]
        (a.turn .take).context := by
      rw [htake]
      exact hadds.trans (.notify ctx _)
    rw [moment_of_not_following hne htold]
    rw [htake] at htold ⊢
    exact .fails hphase htold hrequest hloaded

/-- Each turn is of one of the kinds. -/
theorem turned (a : Ahead σ) (t : Turn) : Turned a t (a.turn t) (a.moment t) := by
  have hidle (hne : ∀ s, a.view.phase ≠ .following s) :
      Turned a .read (a.turn .read) (a.moment .read) :=
    turned_idle hne (read_of_not_following hne) (List.Subset.refl _) nofun
  cases hphase : a.view.phase with
  | opening =>
    cases t with
    | read => exact hidle fun s => by rw [hphase]; nofun
    | take => exact turned_selects hphase
  | loading =>
    cases t with
    | read => exact hidle fun s => by rw [hphase]; nofun
    | take => exact turned_loads hphase
  | ended result =>
    have hne : ∀ s, a.view.phase ≠ .following s := fun s => by rw [hphase]; nofun
    cases t with
    | read => exact hidle hne
    | take =>
      have htake := take_of_not_following hne
      rw [step_ended hphase] at htake
      exact turned_idle hne htake (List.nil_subset _) fun _ => ⟨result, hphase⟩
  | following s =>
    cases t with
    | read =>
      obtain ⟨made, hadds, hfollow⟩ := adds_read hphase
      rw [moment_eq (t := .read) hadds]
      exact .reads hphase hadds hfollow
    | take =>
      cases hwaiting : a.waiting with
      | nil => exact turned_waits hphase hwaiting
      | cons answer waiting => exact turned_takes hphase hwaiting

/-- The moments of a run are all that it adds to the context. -/
theorem adds_moments (a : Ahead σ) (turns : List Turn) :
    a.context.Adds ((a.moments turns).flatMap (·.made)) ((a.moments turns).flatMap (·.toasts))
      (a.run turns).context := by
  induction turns generalizing a with
  | nil => exact .refl a.context
  | cons t turns ih => exact (a.turned t).adds.trans (ih (a.turn t))

end Ahead

end View

end WormholeMap

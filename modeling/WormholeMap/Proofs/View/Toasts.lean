import WormholeMap.Proofs.Text.Blank
import WormholeMap.Proofs.View.Protocol

/-!
What a view tells the user. However often its streams are lost, made again, or replaced after a
load, live updates are announced once, and a lost connection once until it is made again; each sync
error, each load that fails and a choice of the first map that fails is told once, and nothing else
is (`View.informs`). The two flags that a view keeps carry this from turn to turn (`Account`).
-/

namespace WormholeMap

/-! ### Sync errors -/

/-- Payloads of a form can be read as an event. -/
def EventForm.Yields (e : Event) : EventForm → Prop
  | .plain event => event = e
  | .payload read => ∃ p, read p = some e

namespace Event

theorem readPresence_ne {change : PresenceChange} {p : Json} {message : Option String} :
    readPresence change p ≠ some (.syncError message) := by
  cases p with
  | object members => simp [readPresence, Option.bind_eq_some_iff]
  | _ => nofun

/-- No name but that of sync errors stands for one. -/
theorem form_ne_syncError {name : String} {form : EventForm} (h : form? name = some form)
    (message : Option String) : ¬form.Yields (.syncError message) := by
  unfold form? at h
  split at h <;> cases h <;> simp [EventForm.Yields, readPresence_ne]

/-- A sync error that is decoded says something, or has no message at all. -/
theorem not_blank_of_decode {name data text : String}
    (h : decode name data = .ok (.syncError (some text))) : ¬Blank text := by
  unfold decode decodeParsed at h
  simp only at h
  split at h
  · obtain ⟨value, -, hmessage⟩ := Option.bind_eq_some_iff.mp (syncError.inj (Except.ok.inj h))
    obtain ⟨whole, -, htext⟩ := Option.bind_eq_some_iff.mp hmessage
    obtain ⟨hblank, rfl⟩ := nonBlank?_eq_some_iff.mp htext
    exact not_blank_trimBlank hblank
  · split at h
    · cases h
    split at h
    · cases h
    · rename_i hform
      cases h
      exact absurd rfl (form_ne_syncError hform (some text))
    · rename_i read hform
      split at h
      · rename_i hread
        cases h
        exact absurd ⟨_, hread⟩ (form_ne_syncError hform (some text))
      · cases h

end Event

theorem not_blank_syncErrorFallback : ¬Blank syncErrorFallback := by
  intro h
  have hfirst : isBlank 'M' = true := h 'M' (by decide)
  revert hfirst
  decide

/-- An answer is no sync error with a blank message. -/
def Delivery.Sayable (answer : Option Delivery) : Prop :=
  ∀ cursor text, answer = some (.event cursor (.syncError (some text))) → ¬Blank text

open EventStream in
theorem Subscription.sayable_next (s : Subscription) (ctx : Context σ) :
    Delivery.Sayable (s.next.run ctx).1.1 := by
  intro cursor text h
  cases hended : s.ended with
  | true =>
    rw [next_ended hended] at h
    cases h
  | false =>
    obtain ⟨made, hnexts⟩ := Connection.nexts accept s.connection ctx
    rw [next_going hended] at h
    generalize (s.connection.next accept).run ctx = called at hnexts h
    obtain ⟨⟨signal, connection⟩, ctx'⟩ := called
    have hsignal : signal = .arrived (cursor, .syncError (some text)) := by
      cases signal with
      | arrived item =>
        obtain ⟨id, e⟩ := item
        cases h
        rfl
      | _ => cases h
    obtain ⟨f, hf⟩ := hnexts.accepted hsignal
    unfold accept at hf
    split at hf <;> cases hf
    rename_i hdecode
    exact Event.not_blank_of_decode hdecode

/-! ### Moments -/

/-- The exchange was to load a map, or to make one the first, and has failed. -/
def Exchange.FailsToShow (e : Exchange) : Prop :=
  (∃ map, e.message.request = .loadMap map ∨ e.message.request = .selectMap map) ∧ ¬e.Succeeds

/-- Exchanges that follow a map are none to load or to choose one. -/
theorem not_failsToShow {made : List Exchange}
    (h : ∀ e ∈ made, ∃ map cursor, e.message.request = .followMap map cursor) :
    ∀ e ∈ made, ¬e.FailsToShow := by
  rintro e he ⟨⟨map, hrequest⟩, -⟩
  obtain ⟨map', cursor, hfollow⟩ := h e he
  rw [hfollow] at hrequest
  rcases hrequest with hrequest | hrequest <;> cases hrequest

namespace View

open ReadAhead (Turn)
open Delivery (Sayable)

namespace Moment

/-- The view takes the message that a connection has been made. -/
def connects (m : Moment) : Bool :=
  match m.taken with
  | some .connected => true
  | _ => false

/-- The view takes the message that a connection has been lost or not made. -/
def interrupts (m : Moment) : Bool :=
  match m.taken with
  | some (.interrupted _) => true
  | _ => false

/-- The view takes a sync error. -/
def TakesSyncError (m : Moment) : Prop :=
  ∃ cursor message, m.taken = some (.event cursor (.syncError message))

/-- The view takes the news that access has been granted. -/
def TakesGrant (m : Moment) : Prop :=
  ∃ cursor audience, m.taken = some (.event cursor (.accessGranted audience))

/-- There is a reason for a toast at a moment. -/
inductive Warrants (m : Moment) : Toast → Prop
  | live (h : m.connects = true) : Warrants m liveToast
  | lost (h : m.interrupts = true) : Warrants m lostToast
  | syncError (h : m.TakesSyncError) (text : String) : Warrants m (.error "Sync error" text)
  | failure {e : Exchange} (he : e ∈ m.made) (h : e.FailsToShow) (text : String) :
    Warrants m (.error "Error" text)

/-- What is told at a moment, by whether live updates have been announced, and a lost connection. -/
structure Tells (announced outage : Bool) (m : Moment) : Prop where
  live : m.connects = true → m.toasts = if announced then [] else [liveToast]
  lost : m.interrupts = true → m.toasts = if outage then [] else [lostToast]
  syncErrors : m.TakesSyncError → ∃ text, ¬Blank text ∧ m.toasts = [.error "Sync error" text]
  grants : m.TakesGrant → m.toasts = []
  failures : ∀ e ∈ m.made, e.FailsToShow → m.made = [e] ∧ ∃ text, m.toasts = [.error "Error" text]
  warranted : ∀ t ∈ m.toasts, m.Warrants t

/-- The flags after a moment. -/
def announcedAfter (announced : Bool) (m : Moment) : Bool := announced || m.connects

def outageAfter (outage : Bool) (m : Moment) : Bool := !m.connects && (outage || m.interrupts)

variable {announced outage : Bool} {m : Moment}

theorem tells_nothing (hmade : ∀ e ∈ m.made, ¬e.FailsToShow) (hconnects : m.connects = false)
    (hinterrupts : m.interrupts = false) (hsync : ¬m.TakesSyncError) (htoasts : m.toasts = []) :
    Tells announced outage m where
  live h := by cases hconnects.symm.trans h
  lost h := by cases hinterrupts.symm.trans h
  syncErrors h := absurd h hsync
  grants _ := htoasts
  failures e he h := absurd h (hmade e he)
  warranted t ht := by
    rw [htoasts] at ht
    exact absurd ht List.not_mem_nil

theorem not_takesSyncError (htaken : m.taken = none) : ¬m.TakesSyncError := by
  rintro ⟨cursor, message, hsync⟩
  cases htaken.symm.trans hsync

theorem not_takesGrant (htaken : m.taken = none) : ¬m.TakesGrant := by
  rintro ⟨cursor, audience, hgrant⟩
  cases htaken.symm.trans hgrant

/-- A request to load the map, or to make it the first one, is told of when it fails. -/
theorem tells_reported {e : Exchange} {told : List Toast}
    (hrequest : ∃ map, e.message.request = .loadMap map ∨ e.message.request = .selectMap map)
    (htold : e.Reported told) : Tells announced outage ⟨[e], none, none, told⟩ := by
  rcases htold with ⟨hsucceeds, rfl⟩ | ⟨hfails, text, rfl⟩
  · refine tells_nothing (fun e' he' => ?_) rfl rfl (not_takesSyncError rfl) rfl
    rw [List.mem_singleton.mp he']
    exact fun h => h.2 hsucceeds
  · refine ⟨(absurd · Bool.false_ne_true), (absurd · Bool.false_ne_true),
      (absurd · (not_takesSyncError rfl)), (absurd · (not_takesGrant rfl)), fun e' he' _ => ?_,
      fun t ht => ?_⟩
    · rw [List.mem_singleton.mp he']
      exact ⟨rfl, text, rfl⟩
    · rw [List.mem_singleton.mp ht]
      exact .failure (List.mem_singleton_self e) ⟨hrequest, hfails⟩ text

theorem Tells.count_live (h : Tells announced outage m) :
    m.toasts.count liveToast = if !announced && m.connects then 1 else 0 := by
  cases hconnects : m.connects with
  | true =>
    rw [h.live hconnects]
    cases announced <;> rfl
  | false =>
    rw [Bool.and_false, if_neg Bool.false_ne_true, List.count_eq_zero]
    intro hmem
    cases h.warranted _ hmem with
    | live hlive => cases hconnects.symm.trans hlive

theorem Tells.count_lost (h : Tells announced outage m) :
    m.toasts.count lostToast = if !outage && m.interrupts then 1 else 0 := by
  cases hinterrupts : m.interrupts with
  | true =>
    rw [h.lost hinterrupts]
    cases outage <;> rfl
  | false =>
    rw [Bool.and_false, if_neg Bool.false_ne_true, List.count_eq_zero]
    intro hmem
    cases h.warranted _ hmem with
    | lost hlost => cases hinterrupts.symm.trans hlost

end Moment

/-- A view that takes an answer tells what there is to tell of it. -/
theorem tells_answer (v : View) {answer : Option Delivery} (h : Sayable answer)
    {made : List Exchange} (hmade : ∀ e ∈ made, ¬e.FailsToShow) (outcome : Option Outcome) :
    Moment.Tells v.announced v.outage ⟨made, answer, outcome, v.tells answer⟩ := by
  have hfailures (told : List Toast) (e : Exchange) (he : e ∈ made) (hfails : e.FailsToShow) :
      made = [e] ∧ ∃ text, told = [.error "Error" text] := absurd hfails (hmade e he)
  have hgrants (hgrant : Moment.TakesGrant ⟨made, answer, outcome, v.tells answer⟩) :
      v.tells answer = [] := by
    obtain ⟨cursor, audience, rfl⟩ := hgrant
    rfl
  by_cases hsync : Moment.TakesSyncError ⟨made, answer, outcome, v.tells answer⟩
  · obtain ⟨cursor, message, rfl⟩ := hsync
    let text := message.getD syncErrorFallback
    have htold : v.tells (some (.event cursor (.syncError message))) =
        [.error "Sync error" text] := rfl
    have hblank : ¬Blank text := by
      cases message with
      | none => exact not_blank_syncErrorFallback
      | some text => exact h cursor text rfl
    refine ⟨(absurd · Bool.false_ne_true), (absurd · Bool.false_ne_true),
      fun _ => ⟨text, hblank, htold⟩, hgrants, hfailures _, fun t ht => ?_⟩
    rw [List.mem_singleton.mp ht]
    exact .syncError ⟨cursor, message, rfl⟩ text
  cases answer with
  | none => exact Moment.tells_nothing hmade rfl rfl hsync rfl
  | some d =>
    cases d with
    | connected =>
      refine ⟨fun _ => rfl, (absurd · Bool.false_ne_true), (absurd · hsync), hgrants, hfailures _,
        fun t ht => ?_⟩
      cases hannounced : v.announced <;> simp [tells, hannounced] at ht
      rw [ht]
      exact .live rfl
    | interrupted fault =>
      refine ⟨(absurd · Bool.false_ne_true), fun _ => rfl, (absurd · hsync), hgrants, hfailures _,
        fun t ht => ?_⟩
      cases houtage : v.outage <;> simp [tells, houtage] at ht
      rw [ht]
      exact .lost rfl
    | event cursor e =>
      cases e with
      | syncError message => exact absurd ⟨cursor, message, rfl⟩ hsync
      | _ => exact Moment.tells_nothing hmade rfl rfl hsync rfl
    | _ => exact Moment.tells_nothing hmade rfl rfl hsync rfl

namespace Ahead

variable {a a' : Ahead σ} {t : Turn} {m : Moment}

/-- What a turn tells, and what becomes of the flags. -/
structure Told (a a' : Ahead σ) (m : Moment) : Prop where
  tells : m.Tells a.view.announced a.view.outage
  announced : a'.view.announced = m.announcedAfter a.view.announced
  outage : a'.view.outage = m.outageAfter a.view.outage
  waiting : ∀ answer ∈ a'.waiting, Sayable answer

/-- A turn at which no message is taken leaves the flags as they are. -/
theorem Told.of_none {made : List Exchange} {outcome : Option Outcome} {told : List Toast}
    (htells : Moment.Tells a.view.announced a.view.outage ⟨made, none, outcome, told⟩)
    (hannounced : a'.view.announced = a.view.announced) (houtage : a'.view.outage = a.view.outage)
    (hwaiting : ∀ answer ∈ a'.waiting, Sayable answer) : Told a a' ⟨made, none, outcome, told⟩ where
  tells := htells
  announced := by simp [Moment.announcedAfter, Moment.connects, hannounced]
  outage := by simp [Moment.outageAfter, Moment.connects, Moment.interrupts, houtage]
  waiting := hwaiting

theorem flags_takeUp (v : View) (answer : Option Delivery) (made : List Exchange)
    (outcome : Option Outcome) (told : List Toast) :
    let m : Moment := ⟨made, answer, outcome, told⟩
    (v.takeUp answer).announced = m.announcedAfter v.announced ∧
      (v.takeUp answer).outage = m.outageAfter v.outage := by
  simp only [Moment.announcedAfter, Moment.outageAfter, Moment.connects, Moment.interrupts]
  cases answer with
  | none => simp [takeUp, finish]
  | some d =>
    cases d with
    | event cursor e =>
      simp only [takeUp]
      cases (v.workspace.apply e).2 <;> simp [finish]
    | _ => simp [takeUp, finish]

theorem Turned.told (h : Turned a t a' m) (hwaiting : ∀ answer ∈ a.waiting, Sayable answer) :
    Told a a' m := by
  have hempty : ∀ answer ∈ ([] : List (Option Delivery)), Sayable answer :=
    fun _ h => absurd h List.not_mem_nil
  have hnone : ∀ e ∈ ([] : List Exchange), ¬e.FailsToShow := fun _ h => absurd h List.not_mem_nil
  cases h with
  | idle _ hsub =>
    exact .of_none (Moment.tells_nothing hnone rfl rfl (Moment.not_takesSyncError rfl) rfl) rfl rfl
      fun answer h => hwaiting answer (hsub h)
  | selects _ _ hrequest htold =>
    exact .of_none (Moment.tells_reported ⟨_, .inr hrequest⟩ htold) rfl rfl hempty
  | loads _ _ hrequest hloaded =>
    have hsucceeds := (Exchange.succeeds_load hrequest).mpr (by rw [hloaded]; rfl)
    exact .of_none (Moment.tells_reported ⟨_, .inl hrequest⟩ (.inl ⟨hsucceeds, rfl⟩)) rfl rfl hempty
  | @fails _ e error _ _ hrequest hloaded =>
    have hfails : ¬e.Succeeds := by
      rw [Exchange.succeeds_load hrequest, hloaded]
      nofun
    exact .of_none (Moment.tells_reported ⟨_, .inl hrequest⟩ (.inr ⟨hfails, _, rfl⟩)) rfl rfl hempty
  | @reads s hphase made _ hfollow =>
    have hread := read_following hphase
    have htells : Moment.Tells a.view.announced a.view.outage ⟨made, none, none, []⟩ :=
      Moment.tells_nothing (not_failsToShow hfollow) rfl rfl (Moment.not_takesSyncError rfl) rfl
    refine .of_none htells (by rw [hread]) (by rw [hread]) fun answer h => ?_
    rw [hread] at h
    rcases List.mem_append.mp h with h | h
    · exact hwaiting answer h
    · rw [List.mem_singleton.mp h]
      exact s.sayable_next a.context
  | @takes s hphase answer waiting hanswer =>
    rw [hanswer] at hwaiting
    obtain ⟨hsayable, hrest⟩ := List.forall_mem_cons.mp hwaiting
    obtain ⟨hannounced, houtage⟩ := flags_takeUp a.view answer [] _ (a.view.tells answer)
    exact ⟨tells_answer a.view hsayable hnone _, hannounced, houtage, hrest⟩
  | @waits s hphase hqueue made _ hfollow answer hanswer =>
    have hread := read_following hphase
    have hsayable : Sayable answer := by
      rw [hread, hqueue, List.nil_append] at hanswer
      rw [← (List.cons.inj hanswer).1]
      exact s.sayable_next a.context
    have hflags := flags_takeUp a.read.view answer made (a.view.outcome? answer) (a.view.tells answer)
    rw [show a.read.view.announced = a.view.announced by rw [hread],
      show a.read.view.outage = a.view.outage by rw [hread]] at hflags
    exact ⟨tells_answer a.view hsayable (not_failsToShow hfollow) _, hflags.1, hflags.2, hempty⟩

end Ahead

/-! ### Runs -/

/-- Moments one after another, by whether live updates have been announced before, and a lost
connection. -/
inductive Account : Bool → Bool → List Moment → Prop
  | nil {announced outage : Bool} : Account announced outage []
  | cons {announced outage : Bool} {m : Moment} {rest : List Moment}
    (hfirst : m.Tells announced outage)
    (hrest : Account (m.announcedAfter announced) (m.outageAfter outage) rest) :
    Account announced outage (m :: rest)

theorem Ahead.account (a : Ahead σ) (hwaiting : ∀ answer ∈ a.waiting, Sayable answer)
    (turns : List Turn) : Account a.view.announced a.view.outage (a.moments turns) := by
  induction turns generalizing a with
  | nil => exact .nil
  | cons t turns ih =>
    have htold := (a.turned t).told hwaiting
    have hrest := ih (a.turn t) htold.waiting
    rw [htold.announced, htold.outage] at hrest
    exact .cons htold.tells hrest

namespace Account

variable {announced outage : Bool} {moments : List Moment}

theorem tells (h : Account announced outage moments) :
    ∀ m ∈ moments, ∃ announced outage, m.Tells announced outage := by
  induction h with
  | nil => exact fun _ hm => absurd hm List.not_mem_nil
  | cons hfirst _ ih => exact List.forall_mem_cons.mpr ⟨⟨_, _, hfirst⟩, ih⟩

/-- Live updates are announced once, at the first connection. -/
theorem count_live (h : Account announced outage moments) :
    (moments.flatMap (·.toasts)).count liveToast =
      if !announced && moments.any (·.connects) then 1 else 0 := by
  induction h with
  | nil => simp
  | @cons announced _ m _ hfirst _ ih =>
    rw [List.flatMap_cons, List.count_append, ih, hfirst.count_live, List.any_cons,
      Moment.announcedAfter]
    cases announced <;> cases m.connects <;> simp

/-- In an interval the loss of the connection is told once, if it has not been told before. -/
def TellsLost (outage : Bool) (interval : List Moment) : Prop :=
  (interval.flatMap (·.toasts)).count lostToast =
    if !outage && interval.any (·.interrupts) then 1 else 0

/-- Intervals end where a connection is made. Only of the first one may it matter what has been told
before. -/
theorem tells_lost (h : Account announced outage moments) :
    ∃ first rest, moments.splitOnP (·.connects) = first :: rest ∧ TellsLost outage first ∧
      ∀ interval ∈ rest, TellsLost false interval := by
  induction h with
  | nil => exact ⟨[], [], List.splitOnP_nil, by simp [TellsLost], by simp⟩
  | @cons _ outage m _ hfirst _ ih =>
    obtain ⟨first, rest, hsplit, hlost, hrest⟩ := ih
    rw [List.splitOnP_cons_eq_if_modifyHead, hsplit]
    cases hconnects : m.connects with
    | true =>
      have hafter : m.outageAfter outage = false := by simp [Moment.outageAfter, hconnects]
      rw [hafter] at hlost
      exact ⟨[], first :: rest, by simp, by simp [TellsLost], List.forall_mem_cons.mpr ⟨hlost, hrest⟩⟩
    | false =>
      have hafter : m.outageAfter outage = (outage || m.interrupts) := by
        simp [Moment.outageAfter, hconnects]
      refine ⟨m :: first, rest, by simp, ?_, hrest⟩
      rw [hafter] at hlost
      rw [TellsLost, List.flatMap_cons, List.count_append, hlost, hfirst.count_lost, List.any_cons]
      cases outage <;> cases m.interrupts <;> simp

end Account

/-- What the user has been told in the course of a run, from its moments, and the requests that the
view begins with. -/
structure Informs (map : MapId) (turns : List Turn) (before after : List Toast)
    (moments : List Moment) : Prop where
  begins : Begins map (turns.count .take) (moments.flatMap (·.made))
  told : after = before ++ moments.flatMap (·.toasts)
  live : (moments.flatMap (·.toasts)).count liveToast = if moments.any (·.connects) then 1 else 0
  lost : ∀ interval ∈ moments.splitOnP (·.connects),
    (interval.flatMap (·.toasts)).count lostToast = if interval.any (·.interrupts) then 1 else 0
  syncErrors : ∀ m ∈ moments, m.TakesSyncError →
    ∃ text, ¬Blank text ∧ m.toasts = [.error "Sync error" text]
  grants : ∀ m ∈ moments, m.TakesGrant → m.toasts = []
  failures : ∀ m ∈ moments, ∀ e ∈ m.made, e.FailsToShow →
    m.made = [e] ∧ ∃ text, m.toasts = [.error "Error" text]
  warranted : ∀ m ∈ moments, ∀ t ∈ m.toasts, m.Warrants t

/-- In a run of a view, live updates are announced once if a connection is ever made, and a lost
connection once in each interval between connections in which there is a failure. Each sync error,
each load that fails and a choice of the first map that fails is told once, and nothing else is. The
view begins with the choice of its map, a load and a stream. It may take each answer when it asks for
it, or its stream may be read ahead.

A body that never ends counts as one that breaks off. The program waits there, with nothing told of
it. -/
theorem informs (client : Client) (map : MapId) (w : Workspace) (ctx : Context σ) :
    let a := Ahead.opened client map w ctx
    (∀ n, a.run (List.replicate n .take) =
      ⟨((a.view.run n).run ctx).1, [], ((a.view.run n).run ctx).2⟩) ∧
    ∀ turns : List Turn,
      Informs map turns ctx.toasts.toasts (a.run turns).context.toasts.toasts (a.moments turns) := by
  intro a
  refine ⟨Ahead.run_takes a.view ctx, fun turns => ?_⟩
  have haccount : Account false false (a.moments turns) :=
    a.account (fun _ h => absurd h List.not_mem_nil) turns
  refine ⟨Ahead.begins client map w ctx turns, (a.adds_moments turns).toasts, haccount.count_live, ?_,
    ?_, ?_, ?_, ?_⟩
  · obtain ⟨first, rest, hsplit, hfirst, hrest⟩ := haccount.tells_lost
    rw [hsplit]
    exact List.forall_mem_cons.mpr ⟨hfirst, hrest⟩
  · intro m hm
    obtain ⟨_, _, htells⟩ := haccount.tells m hm
    exact htells.syncErrors
  · intro m hm
    obtain ⟨_, _, htells⟩ := haccount.tells m hm
    exact htells.grants
  · intro m hm
    obtain ⟨_, _, htells⟩ := haccount.tells m hm
    exact htells.failures
  · intro m hm
    obtain ⟨_, _, htells⟩ := haccount.tells m hm
    exact htells.warranted

/-- A backend that does not take the choice of a map, and lets it be loaded once. Its first stream
breaks off, and its second one says that there is an error. -/
def faltering : Backend Nat where
  reply s _ message :=
    match message.request with
    | .loadMap _ => (.response ⟨if s = 0 then 200 else 500, [Utf8.encode editableMap], .closed⟩, s)
    | .followMap .. =>
      if s = 0 then (.dropped, 1)
      else (.response ⟨200, [Utf8.encode "event: sync_error\ndata: 0\n\n"], .held⟩, 2)
    | _ => (.response ⟨500, [], .closed⟩, s)

/-- All that a view can tell is told, each once, until the second load fails. -/
theorem informs_faltering :
    let client : Client := ⟨"http://backend", none, 1000⟩
    let map : MapId := ⟨⟨List.replicate 32 0, rfl⟩⟩
    let ctx : Context Nat := ⟨.start faltering 0, .empty⟩
    let turns : List Turn := List.replicate 6 .take
    let toasts := ((Ahead.opened client map .empty ctx).run turns).context.toasts.toasts
    toasts.map (·.title) =
        ["Error", "Connection lost", "Connected to live updates", "Sync error", "Error"] ∧
      Informs map turns [] toasts ((Ahead.opened client map .empty ctx).moments turns) := by
  intro client map ctx turns toasts
  have htitles : toasts.map (·.title) =
      ["Error", "Connection lost", "Connected to live updates", "Sync error", "Error"] := by
    decide +kernel
  exact ⟨htitles, (informs client map .empty ctx).2 turns⟩

end View

end WormholeMap

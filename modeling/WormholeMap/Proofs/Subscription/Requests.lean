import WormholeMap.Proofs.Client.Exchanges
import WormholeMap.Proofs.Subscription.Messages

/-!
What a subscription asks for while it is read ahead of the one who follows it. All its requests
follow the map, the first one from its start, and a request that the backend refuses for good is the
last (`Made`). What waits ends with the last message there is (`Queue`). Both are kept by a call for
the next delivery (`Runs.next`) and by taking the first answer that waits (`Runs.take`).
-/

namespace WormholeMap

open EventStream

/-- The answer says that no further request to follow the map is wanted: it is 204 or a client
error. -/
def Exchange.EndsStream (e : Exchange) : Prop :=
  ∃ r, e.reply = .response r ∧ (r.status = 204 ∨ 400 ≤ r.status ∧ r.status < 500)

/-- The last of some exchanges ends the stream. -/
def Refused (made : List Exchange) : Prop := ∃ e ∈ made.getLast?, e.EndsStream

theorem not_refused_nil : ¬Refused [] := fun ⟨e, he, _⟩ => Option.not_mem_none e he

theorem refused_concat (made : List Exchange) (e : Exchange) :
    Refused (made ++ [e]) ↔ e.EndsStream := by
  simp [Refused]

namespace EventStream.Connection

variable {accept : Frame → Option α} {c : Connection} {ctx : Context σ}

/-! ### Calls for the next signal -/

/-- What a call for the next signal does: it hands out a frame that waits, tells again that the
connection is over, reads the body that is open, or makes a request. -/
inductive Nexts (accept : Frame → Option α) (c : Connection) (ctx : Context σ) :
    List Exchange → Signal α × Connection → Context σ → Prop
  | frame {a : α} {pending : List Frame} (hfirst : firstAccepted accept c.pending = some (a, pending)) :
    Nexts accept c ctx [] (.arrived a, { c with pending }) ctx
  | finished (hnone : firstAccepted accept c.pending = none) (hstage : c.stage = .finished) :
    Nexts accept c ctx [] (.closed, { c with pending := [] }) ctx
  | body (hnone : firstAccepted accept c.pending = none) {chunks : List (List UInt8)}
    {ending : Ending} (hstage : c.stage = .reading chunks ending) :
    Nexts accept c ctx [] ({ c with pending := [] }.read accept ending chunks) ctx
  | asks (hnone : firstAccepted accept c.pending = none) {delayed : Bool}
    (hstage : c.stage = .connecting delayed) {e : Exchange} {ctx' : Context σ}
    (hrequest : e.message.request = .followMap c.map c.cursor) (hadds : ctx.Adds [e] [] ctx') :
    Nexts accept c ctx [e] ({ c with pending := [] }.accepted e.reply) ctx'

theorem nexts (accept : Frame → Option α) (c : Connection) (ctx : Context σ) :
    ∃ made, Nexts accept c ctx made ((c.next accept).run ctx).1 ((c.next accept).run ctx).2 := by
  obtain ⟨client, map, decoder, delay, pending, stage⟩ := c
  cases hfirst : firstAccepted accept pending with
  | some found =>
    obtain ⟨a, pending⟩ := found
    simp only [next, hfirst]
    exact ⟨[], .frame hfirst⟩
  | none =>
    have hdrained : next accept ⟨client, map, decoder, delay, pending, stage⟩ =
        (next accept ⟨client, map, decoder, delay, [], stage⟩ : Run σ _) := by
      simp only [next, hfirst, firstAccepted]
    rw [hdrained]
    cases stage with
    | finished => exact ⟨[], .finished hfirst rfl⟩
    | reading chunks ending => exact ⟨[], .body hfirst rfl⟩
    | connecting delayed =>
      obtain ⟨e, wire, hmessage, hsent, hnext⟩ := next_connecting
        (c := ⟨client, map, decoder, delay, [], .connecting delayed⟩) rfl rfl ctx.wire
      rw [hnext accept ctx.toasts]
      exact ⟨[e], .asks hfirst rfl (congrArg Message.request hmessage)
        ⟨hsent.exchanges, (List.append_nil _).symm, hsent.backend⟩⟩

theorem accept_of_firstAccepted {frames rest : List Frame} {a : α}
    (h : firstAccepted accept frames = some (a, rest)) : frames ≠ [] ∧ ∃ f, accept f = some a := by
  induction frames with
  | nil => cases h
  | cons f frames ih =>
    refine ⟨List.cons_ne_nil f frames, ?_⟩
    rw [firstAccepted] at h
    split at h
    · rename_i hf
      cases h
      exact ⟨f, hf⟩
    · exact (ih h).2

/-- Reading a body keeps the map, and the connection is not over after it. -/
structure Reads (accept : Frame → Option α) (map : MapId) (after : Signal α × Connection) :
    Prop where
  map_eq : after.2.map = map
  going : after.2.stage ≠ .finished
  not_closed : after.1 ≠ .closed
  accepted : ∀ a, after.1 = .arrived a → ∃ f, accept f = some a

theorem reads (accept : Frame → Option α) (c : Connection) (ending : Ending)
    (chunks : List (List UInt8)) : Reads accept c.map (c.read accept ending chunks) := by
  induction chunks generalizing c with
  | nil =>
    cases ending <;> exact ⟨rfl, by simp [read], by simp [read], by simp [read]⟩
  | cons chunk chunks ih =>
    have hmap : (({ c with pending := [] } : Connection).receive chunk).map = c.map := by
      rw [receive_eq]
    rw [read]
    split
    · rename_i a pending hfirst
      refine ⟨hmap, by simp, by simp, ?_⟩
      rintro _ ⟨⟩
      exact (accept_of_firstAccepted hfirst).2
    · have hrest := ih (({ c with pending := [] } : Connection).receive chunk)
      rwa [hmap] at hrest

/-- What a reply does to a connection: it is over exactly when no further request is wanted. -/
structure Answered (c : Connection) (e : Exchange) (after : Signal α × Connection) : Prop where
  map_eq : after.2.map = c.map
  pending_eq : after.2.pending = c.pending
  finished : after.2.stage = .finished ↔ e.EndsStream
  closed : after.1 = .closed → e.EndsStream
  not_arrived : ∀ a, after.1 ≠ .arrived a

theorem answered (c : Connection) (e : Exchange) :
    Answered c e (c.accepted e.reply : Signal α × Connection) := by
  have hresponse (r : Response) (h : e.reply = .response r) :
      e.EndsStream ↔ r.status = 204 ∨ 400 ≤ r.status ∧ r.status < 500 := by
    simp [Exchange.EndsStream, h]
  cases hreply : e.reply with
  | response r =>
    rw [Connection.accepted]
    split
    · rename_i hstatus
      have hends := (hresponse r hreply).mpr (.inl hstatus)
      exact ⟨rfl, rfl, iff_of_true rfl hends, fun _ => hends, by simp⟩
    split
    · rename_i hrefused
      have hends := (hresponse r hreply).mpr (.inr hrefused)
      exact ⟨rfl, rfl, iff_of_true rfl hends, fun _ => hends, by simp⟩
    · rename_i hstatus hrefused
      have hgoing : ¬e.EndsStream := fun hends =>
        ((hresponse r hreply).mp hends).elim hstatus hrefused
      split <;>
        exact ⟨rfl, rfl, iff_of_false (by simp) hgoing, by simp, by simp⟩
  | _ =>
    have hgoing : ¬e.EndsStream := by
      rintro ⟨r, hr, -⟩
      cases hreply.symm.trans hr
    exact ⟨rfl, rfl, iff_of_false (by simp [Connection.accepted]) hgoing,
      by simp [Connection.accepted], by simp [Connection.accepted]⟩

theorem Nexts.adds {made : List Exchange} {after : Signal α × Connection} {ctx' : Context σ}
    (h : Nexts accept c ctx made after ctx') : ctx.Adds made [] ctx' := by
  cases h with
  | asks _ _ _ hadds => exact hadds
  | _ => exact .refl ctx

/-- All that is asked for is to follow the map. -/
theorem Nexts.follow {made : List Exchange} {after : Signal α × Connection} {ctx' : Context σ}
    (h : Nexts accept c ctx made after ctx') :
    ∀ e ∈ made, ∃ cursor, e.message.request = .followMap c.map cursor := by
  cases h with
  | asks _ _ hrequest =>
    intro e he
    rw [List.mem_singleton.mp he]
    exact ⟨_, hrequest⟩
  | _ => exact fun _ he => absurd he List.not_mem_nil

/-- What is handed out is a frame that is accepted. -/
theorem Nexts.accepted {made : List Exchange} {after : Signal α × Connection} {ctx' : Context σ}
    (h : Nexts accept c ctx made after ctx') {a : α} (ha : after.1 = .arrived a) :
    ∃ f, accept f = some a := by
  cases h with
  | frame hfirst =>
    cases ha
    exact (accept_of_firstAccepted hfirst).2
  | finished => cases ha
  | body => exact (reads accept _ _ _).accepted a ha
  | asks => exact absurd ha ((answered _ _).not_arrived a)

/-! ### The requests of a connection -/

/-- A connection that is made for a map from its start, and the exchanges that it has made. -/
structure Made (map : MapId) (made : List Exchange) (c : Connection) : Prop where
  map_eq : c.map = map
  follow : ∀ e ∈ made, ∃ cursor, e.message.request = .followMap map cursor
  first : ∀ e ∈ made.head?, e.message.request = .followMap map none
  unmade : made = [] → c.cursor = none ∧ c.pending = [] ∧ ∃ delayed, c.stage = .connecting delayed
  finished : c.stage = .finished ↔ Refused made
  empty : Refused made → c.pending = []

theorem Made.start (client : Client) (map : MapId) : Made map [] (.start client map none) where
  map_eq := rfl
  follow _ he := absurd he List.not_mem_nil
  first _ he := absurd he (Option.not_mem_none _)
  unmade _ := ⟨rfl, rfl, false, rfl⟩
  finished := iff_of_false nofun not_refused_nil
  empty h := absurd h not_refused_nil

/-- What is known after a call for the next signal, with the exchanges made until then. -/
structure MadeNext (map : MapId) (made : List Exchange) (after : Signal α × Connection) : Prop where
  still : Made map made after.2
  begun : made ≠ []
  closed : after.1 = .closed → Refused made
  not_arrived : Refused made → ∀ a, after.1 ≠ .arrived a

theorem Made.next {made more : List Exchange} {after : Signal α × Connection} {ctx' : Context σ}
    {map : MapId} (h : Made map made c) (hnext : Nexts accept c ctx more after ctx') :
    MadeNext map (made ++ more) after := by
  have hbegun (hwaits : c.pending ≠ [] ∨ ∀ delayed, c.stage ≠ .connecting delayed) : made ≠ [] := by
    intro hmade
    obtain ⟨-, hpending, delayed, hstage⟩ := h.unmade hmade
    exact hwaits.elim (· hpending) (· delayed hstage)
  cases hnext with
  | frame hfirst =>
    have hpending := (accept_of_firstAccepted hfirst).1
    have hgoing : ¬Refused made := fun hrefused => hpending (h.empty hrefused)
    have hmade := hbegun (.inl hpending)
    rw [List.append_nil]
    exact ⟨⟨h.map_eq, h.follow, h.first, (absurd · hmade), h.finished, (absurd · hgoing)⟩, hmade, nofun,
      (absurd · hgoing)⟩
  | finished hnone hstage =>
    have hrefused := h.finished.mp hstage
    have hmade := hbegun (.inr fun delayed => by rw [hstage]; nofun)
    rw [List.append_nil]
    exact ⟨⟨h.map_eq, h.follow, h.first, (absurd · hmade), h.finished, fun _ => rfl⟩, hmade,
      fun _ => hrefused, fun _ => nofun⟩
  | @body _ chunks ending hstage =>
    have hgoing : ¬Refused made := fun hrefused => by
      cases hstage.symm.trans (h.finished.mpr hrefused)
    have hmade := hbegun (.inr fun delayed => by rw [hstage]; nofun)
    have hreads := reads accept { c with pending := [] } ending chunks
    rw [List.append_nil]
    exact ⟨⟨hreads.map_eq.trans h.map_eq, h.follow, h.first, (absurd · hmade),
      iff_of_false hreads.going hgoing, (absurd · hgoing)⟩, hmade, (absurd · hreads.not_closed),
      (absurd · hgoing)⟩
  | @asks _ delayed hstage e _ hrequest hadds =>
    have hanswered := answered (α := α) { c with pending := [] } e
    rw [h.map_eq] at hrequest
    refine ⟨⟨hanswered.map_eq.trans h.map_eq, ?_, ?_, ?_, ?_, fun _ => hanswered.pending_eq⟩, ?_, ?_,
      fun _ => hanswered.not_arrived⟩
    · intro e' he'
      rcases List.mem_append.mp he' with he' | he'
      · exact h.follow e' he'
      · rw [List.mem_singleton.mp he']
        exact ⟨_, hrequest⟩
    · cases made with
      | nil =>
        rintro e' ⟨⟩
        rw [hrequest, (h.unmade rfl).1]
      | cons first made => exact h.first
    · exact (absurd · (by simp))
    · rw [refused_concat]
      exact hanswered.finished
    · simp
    · rw [refused_concat]
      exact hanswered.closed

end EventStream.Connection

/-! ### Reading ahead -/

namespace Delivery

/-- What waits of a subscription, by whether it has ended: nothing comes after a last message. -/
inductive Queue : Bool → List (Option Delivery) → Prop
  | empty : Queue false []
  | more {d : Delivery} {ended : Bool} {waiting : List (Option Delivery)} (hd : d.isLast = false)
    (hrest : Queue ended waiting) : Queue ended (some d :: waiting)
  | last {d : Delivery} (hd : d.isLast = true) (n : Nat) :
    Queue true (some d :: List.replicate n none)

variable {waiting : List (Option Delivery)}

theorem Queue.push (h : Queue false waiting) (d : Delivery) :
    Queue d.isLast (waiting ++ [some d]) := by
  generalize hended : false = ended at h
  induction h with
  | empty =>
    cases hd : d.isLast with
    | false => exact .more hd .empty
    | true => exact .last hd 0
  | more hd _ ih => exact .more hd (ih hended)
  | last => cases hended

theorem Queue.pad (h : Queue true waiting) : Queue true (waiting ++ [none]) := by
  generalize hended : true = ended at h
  induction h with
  | empty => cases hended
  | more hd _ ih => exact .more hd (ih hended)
  | last hd n =>
    rw [List.cons_append, ← List.replicate_succ']
    exact .last hd (n + 1)

/-- While a subscription goes on, no message that waits is a last one. -/
theorem Queue.not_last {ended : Bool} (h : Queue ended waiting) (hended : ended = false)
    {d : Delivery} (hd : some d ∈ waiting) : d.isLast = false := by
  induction h with
  | empty => cases hd
  | more hfirst _ ih =>
    rcases List.mem_cons.mp hd with heq | hd
    · cases heq
      exact hfirst
    · exact ih hended hd
  | last => cases hended

end Delivery

namespace Subscription

open Delivery (Queue)

/-- A subscription to a map from its start, read ahead of the one who follows it, with the exchanges
that it has made and the answers that wait. -/
structure Runs (map : MapId) (made : List Exchange) (waiting : List (Option Delivery))
    (s : Subscription) : Prop where
  connection : s.connection.Made map made
  queue : Queue s.ended waiting
  begun : waiting ≠ [] → made ≠ []
  closed : some .closed ∈ waiting → Refused made
  refused : Refused made → ∀ d, waiting.getLast? = some (some d) → d.isEvent = false

variable {map : MapId} {made : List Exchange} {waiting : List (Option Delivery)} {s : Subscription}

theorem Runs.start (client : Client) (map : MapId) : Runs map [] [] (.start client map none) where
  connection := .start client map
  queue := .empty
  begun := absurd rfl
  closed h := absurd h List.not_mem_nil
  refused h := absurd h not_refused_nil

theorem adds_next (s : Subscription) (ctx : Context σ) :
    ∃ made, ctx.Adds made [] (s.next.run ctx).2 ∧
      ∀ e ∈ made, ∃ map cursor, e.message.request = .followMap map cursor := by
  cases hended : s.ended with
  | true =>
    rw [next_ended hended]
    exact ⟨[], .refl ctx, fun _ he => absurd he List.not_mem_nil⟩
  | false =>
    obtain ⟨made, hnexts⟩ := Connection.nexts accept s.connection ctx
    rw [next_going hended]
    exact ⟨made, hnexts.adds, fun e he => ⟨_, hnexts.follow e he⟩⟩

theorem Runs.next (h : Runs map made waiting s) (ctx : Context σ) :
    ∃ more, ctx.Adds more [] (s.next.run ctx).2 ∧
      Runs map (made ++ more) (waiting ++ [(s.next.run ctx).1.1]) (s.next.run ctx).1.2 := by
  cases hended : s.ended with
  | true =>
    have hqueue := h.queue
    rw [hended] at hqueue
    have hmade : made ≠ [] := h.begun fun hwaiting => by
      rw [hwaiting] at hqueue
      cases hqueue
    rw [next_ended hended]
    refine ⟨[], .refl ctx, ?_⟩
    rw [List.append_nil]
    refine ⟨h.connection, hended ▸ hqueue.pad, fun _ => hmade, fun hclosed => ?_, fun _ => ?_⟩
    · exact h.closed (by simpa using hclosed)
    · simp
  | false =>
    obtain ⟨more, hnexts⟩ := Connection.nexts accept s.connection ctx
    rw [next_going hended]
    generalize (s.connection.next accept).run ctx = called at hnexts ⊢
    obtain ⟨⟨signal, connection⟩, ctx'⟩ := called
    have hadds : ctx.Adds more [] ctx' := hnexts.adds
    have hconnection := h.connection.next hnexts
    simp only [deliver_eq (s := { s with connection }) hended]
    refine ⟨more, hadds, hconnection.still, ?_, fun _ => hconnection.begun, fun hclosed => ?_,
      fun hrefused d hd => ?_⟩
    · exact (hended ▸ h.queue).push signal.delivery
    · rcases List.mem_append.mp hclosed with hclosed | hclosed
      · cases h.queue.not_last hended hclosed
      · cases signal <;> simp [Signal.delivery] at hclosed
        exact hconnection.closed rfl
    · rw [List.getLast?_concat] at hd
      cases hd
      cases signal with
      | arrived item => exact absurd rfl (hconnection.not_arrived hrefused item)
      | _ => rfl

/-- What is known of an answer that is taken: it is a message, and all that is known of the
subscription stays so unless it is a last one. -/
structure Takes (map : MapId) (made : List Exchange) (d : Delivery)
    (waiting : List (Option Delivery)) (s : Subscription) : Prop where
  going : d.isLast = false → Runs map made waiting s
  begun : made ≠ []
  closed : d = .closed → Refused made
  refused : Refused made → waiting = [] → d.isEvent = false

theorem Runs.take {answer : Option Delivery} (h : Runs map made (answer :: waiting) s) :
    ∃ d, answer = some d ∧ Takes map made d waiting s := by
  have htakes (d : Delivery) (hanswer : answer = some d)
      (hqueue : d.isLast = false → Queue s.ended waiting) : Takes map made d waiting s := by
    refine ⟨fun hd => ⟨h.connection, hqueue hd, fun _ => h.begun (List.cons_ne_nil _ _),
      fun hclosed => h.closed (List.mem_cons_of_mem _ hclosed), fun hrefused d' hd' => ?_⟩,
      h.begun (List.cons_ne_nil _ _), fun hd => ?_, fun hrefused hwaiting => ?_⟩
    · refine h.refused hrefused d' ?_
      rw [List.getLast?_cons, hd']
      rfl
    · refine h.closed ?_
      rw [hanswer, hd]
      exact List.mem_cons_self
    · refine h.refused hrefused d ?_
      rw [hanswer, hwaiting]
      rfl
  have hqueue := h.queue
  generalize hended : s.ended = ended at hqueue
  cases hqueue with
  | more hd hrest => exact ⟨_, rfl, htakes _ rfl fun _ => hended ▸ hrest⟩
  | last hd n => exact ⟨_, rfl, htakes _ rfl fun hfalse => by cases hd.symm.trans hfalse⟩

end Subscription

end WormholeMap

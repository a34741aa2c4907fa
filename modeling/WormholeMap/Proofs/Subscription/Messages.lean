import WormholeMap.Proofs.EventStream.Accepted
import WormholeMap.Subscription

/-!
What a subscription hands out. Its messages are what its connection signals, with frames decoded and
those left out that are no events, up to a sync error or to the end of the stream. A call for the
next delivery is a number of calls of the connection, so calls one after another follow the signals
of the connection (`Follows`).
-/

namespace WormholeMap

open EventStream

/-! ### Messages -/

namespace Delivery

/-- Whether nothing is delivered any more after it: a sync error, or the end of the stream. -/
def isLast : Delivery → Bool
  | event _ (.syncError _) => true
  | closed => true
  | _ => false

def isEvent : Delivery → Bool
  | event .. => true
  | _ => false

def cursor? : Delivery → Option Cursor
  | event cursor _ => cursor
  | _ => none

/-- The message that an answer is. Silence is none. -/
def message? : Option Delivery → Option Delivery
  | some silence => none
  | answer => answer

/-- The messages up to the last one there can be. -/
def upToLast : List Delivery → List Delivery
  | [] => []
  | d :: rest => if d.isLast then [d] else d :: upToLast rest

/-- The cursor after messages, from the cursor before them. -/
def lastCursor (cursor : Option Cursor) (messages : List Delivery) : Option Cursor :=
  (messages.filterMap cursor?).getLast? <|> cursor

section

variable {a b : List Delivery} {d : Delivery}

theorem upToLast_append (ha : ∀ d ∈ a, d.isLast = false) (b : List Delivery) :
    upToLast (a ++ b) = a ++ upToLast b := by
  induction a with
  | nil => rfl
  | cons d a ih =>
    obtain ⟨hd, ha⟩ := List.forall_mem_cons.mp ha
    simp [upToLast, hd, ih ha]

/-- What follows a last message is left out. -/
theorem upToLast_append_last (ha : a.any isLast) (b : List Delivery) :
    upToLast (a ++ b) = upToLast a := by
  induction a with
  | nil => cases ha
  | cons d a ih =>
    rw [List.cons_append, upToLast, upToLast]
    cases hd : d.isLast with
    | true => rfl
    | false =>
      rw [List.any_cons, hd, Bool.false_or] at ha
      simp [ih ha]

theorem upToLast_mono (h : a <+: b) : upToLast a <+: upToLast b := by
  induction a generalizing b with
  | nil => exact List.nil_prefix
  | cons d a ih =>
    obtain ⟨rest, rfl⟩ := h
    rw [List.cons_append, upToLast, upToLast]
    split
    · exact List.prefix_rfl
    · exact (List.prefix_append_right_inj [d]).mpr (ih (List.prefix_append a rest))

theorem lastCursor_append (cursor : Option Cursor) (a b : List Delivery) :
    lastCursor cursor (a ++ b) = lastCursor (lastCursor cursor a) b := by
  simp only [lastCursor, List.filterMap_append, List.getLast?_append]
  cases (b.filterMap cursor?).getLast? <;> rfl

end

/-! The message that a delivery is, if it is one, says all there is to say of it. -/

section

variable (d : Delivery)

theorem upToLast_message? : upToLast (message? (some d)).toList = (message? (some d)).toList := by
  cases d with
  | event cursor e => cases e <;> rfl
  | _ => rfl

theorem any_message? : (message? (some d)).toList.any isLast = d.isLast := by
  cases d with
  | event cursor e => cases e <;> rfl
  | _ => rfl

theorem lastCursor_message? (cursor : Option Cursor) :
    lastCursor cursor (message? (some d)).toList = (d.cursor? <|> cursor) := by
  cases d with
  | event id e => cases id <;> rfl
  | _ => rfl

end

end Delivery

open Delivery

namespace EventStream

/-- The message that a signal is: nothing for a frame that is no event. -/
def Signal.message? : Signal Frame → Option Delivery
  | .opened => some .connected
  | .arrived f =>
    match Event.decode f.event f.data with
    | .ok e => some (.event f.id e)
    | .error _ => none
  | .failed fault => some (.interrupted fault)
  | .closed => some .closed
  | .silent => none

/-- The messages that the signals of calls are. -/
def messagesOf (calls : List Call) : List Delivery := calls.filterMap (·.signal.message?)

/-- The events that frames are. -/
def decoded (frames : List Frame) : List Delivery :=
  frames.filterMap fun f => (Signal.arrived f).message?

theorem messagesOf_cons (call : Call) (calls : List Call) :
    messagesOf (call :: calls) = call.signal.message?.toList ++ messagesOf calls := by
  rw [messagesOf, List.filterMap_cons]
  cases call.signal.message? <;> rfl

theorem messagesOf_append (a b : List Call) : messagesOf (a ++ b) = messagesOf a ++ messagesOf b :=
  List.filterMap_append

theorem decoded_append (a b : List Frame) : decoded (a ++ b) = decoded a ++ decoded b :=
  List.filterMap_append

theorem decoded_mono {a b : List Frame} (h : a <+: b) : decoded a <+: decoded b :=
  h.filterMap _

/-- A frame whose name is that of a sync error is one, whatever its text is. -/
theorem message?_syncError {f : Frame}
    (h : Event.resolveName f.event (Json.parseText? f.data) = "sync_error") :
    ∃ message, (Signal.arrived f).message? = some (.event f.id (.syncError message)) := by
  refine ⟨Json.parseText? f.data >>= Event.syncErrorMessage, ?_⟩
  simp [Signal.message?, Event.decode, Event.decodeParsed, h]

/-- The events among the messages are those that the frames are. -/
theorem events_messagesOf (calls : List Call) :
    (messagesOf calls).filter isEvent = decoded (framesIn calls) := by
  induction calls with
  | nil => rfl
  | cons call calls ih =>
    rw [framesIn_cons, decoded_append, ← ih, messagesOf_cons, List.filter_append]
    congr 1
    cases call.signal with
    | arrived f =>
      cases hf : Event.decode f.event f.data <;>
        simp [Signal.message?, Signal.frames, decoded, hf, isEvent]
    | _ => rfl

end EventStream

/-! ### Calls -/

/-- The answers to calls for the next delivery, and what is left to act on. -/
structure Polled (σ : Type) where
  answers : List (Option Delivery)
  subscription : Subscription
  context : Context σ

namespace Polled

def messages (p : Polled σ) : List Delivery := p.answers.filterMap message?

def events (p : Polled σ) : List Delivery := p.messages.filter isEvent

def poll (p : Polled σ) : Polled σ :=
  let ((answer, subscription), context) := p.subscription.next.run p.context
  ⟨p.answers ++ [answer], subscription, context⟩

end Polled

/-- What a subscription delivers for a signal. -/
def EventStream.Signal.delivery : Signal (Option Cursor × Event) → Delivery
  | .opened => .connected
  | .arrived (cursor, e) => .event cursor e
  | .failed fault => .interrupted fault
  | .closed => .closed
  | .silent => .silence

/-- The signal that passes is delivered as the message that it is. -/
theorem EventStream.Signal.message?_passed (signal : Signal Frame) :
    (signal.passed Subscription.accept).bind (Delivery.message? ∘ some ∘ Signal.delivery) =
      signal.message? := by
  cases signal with
  | arrived f =>
    cases hf : Event.decode f.event f.data <;>
      simp [Signal.passed, Signal.message?, Subscription.accept, hf, Signal.delivery,
        Delivery.message?]
  | _ => rfl

theorem EventStream.Connection.Passes.messagesOf_eq {c : Connection} {ctx : Context σ} {n : Nat}
    {signal : Signal (Option Cursor × Event)} (h : c.Passes Subscription.accept ctx n signal) :
    messagesOf (c.calls n ctx) = (Delivery.message? (some signal.delivery)).toList := by
  have hmessages : messagesOf (c.calls n ctx) =
      ((c.calls n ctx).filterMap (·.signal.passed Subscription.accept)).filterMap
        (Delivery.message? ∘ some ∘ Signal.delivery) := by
    rw [List.filterMap_filterMap, messagesOf]
    exact List.filterMap_congr fun call _ => call.signal.message?_passed.symm
  rw [hmessages, h.passed]
  cases hd : Delivery.message? (some signal.delivery) <;> simp [hd]

namespace Subscription

/-- A number of calls for the next delivery, one after another. -/
def polled (s : Subscription) (ctx : Context σ) : Nat → Polled σ
  | 0 => ⟨[], s, ctx⟩
  | n + 1 => (s.polled ctx n).poll

section

variable {s : Subscription} {ctx : Context σ}

theorem answers_poll (p : Polled σ) : ∃ answer, p.poll.answers = p.answers ++ [answer] :=
  ⟨_, rfl⟩

theorem length_answers (s : Subscription) (ctx : Context σ) (n : Nat) :
    (s.polled ctx n).answers.length = n := by
  induction n with
  | zero => rfl
  | succ n ih =>
    obtain ⟨answer, hpoll⟩ := answers_poll (s.polled ctx n)
    rw [polled, hpoll, List.length_append, ih, List.length_singleton]

theorem answers_mono (s : Subscription) (ctx : Context σ) {m n : Nat} (h : m ≤ n) :
    (s.polled ctx m).answers <+: (s.polled ctx n).answers := by
  induction n, h using Nat.le_induction with
  | base => exact List.prefix_rfl
  | succ n _ ih =>
    obtain ⟨answer, hpoll⟩ := answers_poll (s.polled ctx n)
    rw [polled, hpoll]
    exact ih.trans (List.prefix_append _ _)

theorem next_ended (h : s.ended = true) (ctx : Context σ) : s.next.run ctx = ((none, s), ctx) := by
  rw [next, if_pos h]
  rfl

theorem next_going (h : s.ended = false) (ctx : Context σ) :
    s.next.run ctx =
      let called := (s.connection.next accept).run ctx
      let delivered := { s with connection := called.1.2 }.deliver called.1.1
      ((some delivered.1, delivered.2), called.2) := by
  rw [next, if_neg (by simp [h])]
  rfl

theorem deliver_eq (h : s.ended = false) (signal : Signal (Option Cursor × Event)) :
    s.deliver signal = (signal.delivery, { s with
      cursor := signal.delivery.cursor? <|> s.cursor
      ended := signal.delivery.isLast }) := by
  obtain ⟨connection, cursor, ended⟩ := s
  subst h
  cases signal with
  | arrived item =>
    obtain ⟨id, e⟩ := item
    cases e <;> rfl
  | _ => rfl

/-- A call for the next delivery is a number of calls of the connection, with one signal that
passes. -/
theorem next_open (h : s.ended = false) {n : Nat} {signal : Signal (Option Cursor × Event)}
    (hpasses : s.connection.Passes accept ctx n signal) :
    s.next.run ctx = ((some signal.delivery,
      ⟨(s.connection.afterCalls n ctx).1, signal.delivery.cursor? <|> s.cursor,
        signal.delivery.isLast⟩), (s.connection.afterCalls n ctx).2) := by
  have hne : ¬s.ended = true := by simp [h]
  let after : Subscription := { s with connection := (s.connection.afterCalls n ctx).1 }
  have hdeliver := deliver_eq (s := after) h signal
  rw [next, if_neg hne, StateT.run_bind, hpasses.run_eq]
  exact congrArg (fun r : Delivery × Subscription =>
    ((some r.1, r.2), (s.connection.afterCalls n ctx).2)) hdeliver

theorem poll_ended {p : Polled σ} (h : p.subscription.ended = true) :
    p.poll = { p with answers := p.answers ++ [none] } := by
  rw [Polled.poll, next_ended h]

/-- Once a subscription has ended there are no more deliveries, and nothing is done any more. -/
theorem polled_ended {n : Nat} (h : (s.polled ctx n).subscription.ended = true) (m : Nat) :
    s.polled ctx (n + m) = { s.polled ctx n with
      answers := (s.polled ctx n).answers ++ List.replicate m none } := by
  induction m with
  | zero => simp
  | succ m ih =>
    have hended : (s.polled ctx (n + m)).subscription.ended = true := by
      rw [ih]
      exact h
    rw [← Nat.add_assoc, polled, poll_ended hended, ih, List.replicate_succ', List.append_assoc]

theorem close_polled (s : Subscription) (ctx : Context σ) (m : Nat) :
    s.close.polled ctx m = ⟨List.replicate m none, s.close, ctx⟩ := by
  have h : s.close.polled ctx (0 + m) = _ := polled_ended (n := 0) rfl m
  rwa [Nat.zero_add] at h

/-- After calls for the next delivery the messages are those of a number of calls of the connection,
at least as many, up to a last one. -/
structure Follows (s : Subscription) (ctx : Context σ) (n : Nat) (p : Polled σ) (k : Nat) :
    Prop where
  messages_eq : p.messages = messagesOf (s.connection.calls k ctx)
  left_eq : (p.subscription.connection, p.context) = s.connection.afterCalls k ctx
  upToLast_eq : upToLast p.messages = p.messages
  ended_eq : p.subscription.ended = p.messages.any isLast
  cursor_eq : p.subscription.cursor = lastCursor s.cursor p.messages
  reached : p.subscription.ended = true ∨ n ≤ k

section

variable {n k j : Nat} {p : Polled σ}

theorem Follows.start (h : s.ended = false) (ctx : Context σ) :
    Follows s ctx 0 (s.polled ctx 0) 0 where
  messages_eq := rfl
  left_eq := rfl
  upToLast_eq := rfl
  ended_eq := h
  cursor_eq := rfl
  reached := .inr (Nat.le_refl 0)

theorem Follows.poll_ended (h : Follows s ctx n p k) (hended : p.subscription.ended = true) :
    Follows s ctx (n + 1) p.poll k := by
  have hpoll := Subscription.poll_ended hended
  have hmessages : p.poll.messages = p.messages := by
    rw [hpoll]
    simp [Polled.messages, message?]
  constructor
  · rw [hmessages, h.messages_eq]
  · rw [hpoll, ← h.left_eq]
  · rw [hmessages, h.upToLast_eq]
  · rw [hmessages, ← h.ended_eq, hpoll]
  · rw [hmessages, ← h.cursor_eq, hpoll]
  · rw [hpoll]
    exact .inl hended

theorem Follows.poll_open (h : Follows s ctx n p k) (hended : p.subscription.ended = false)
    {signal : Signal (Option Cursor × Event)}
    (hpasses : p.subscription.connection.Passes accept p.context j signal) :
    Follows s ctx (n + 1) p.poll (k + j) := by
  have hpoll : p.poll = ⟨p.answers ++ [some signal.delivery],
      ⟨(p.subscription.connection.afterCalls j p.context).1,
        signal.delivery.cursor? <|> p.subscription.cursor, signal.delivery.isLast⟩,
      (p.subscription.connection.afterCalls j p.context).2⟩ := by
    rw [Polled.poll, next_open hended hpasses]
  have hmessages : p.poll.messages = p.messages ++ (message? (some signal.delivery)).toList := by
    rw [hpoll, Polled.messages, List.filterMap_append, Polled.messages]
    cases hd : message? (some signal.delivery) <;> simp [hd]
  -- As it has not ended, no message so far is a last one: the next one is not cut off.
  have hnone : ∀ d ∈ p.messages, d.isLast = false := by
    simpa using h.ended_eq.symm.trans hended
  have hcalls := s.connection.calls_add ctx k j
  rw [← h.left_eq] at hcalls
  constructor
  · rw [hcalls, messagesOf_append, hpasses.messagesOf_eq, ← h.messages_eq, hmessages]
  · rw [Connection.afterCalls_add, ← h.left_eq, hpoll]
  · rw [hmessages, upToLast_append hnone, upToLast_message?]
  · rw [hmessages, List.any_append, any_message?, ← h.ended_eq, hended, hpoll]
    rfl
  · rw [hmessages, lastCursor_append, ← h.cursor_eq, lastCursor_message?, hpoll]
  · have hpos := hpasses.pos
    have hreached := h.reached.resolve_left (by simp [hended])
    exact .inr (by omega)

end

/-- Calls for the next delivery follow the signals of the connection. -/
theorem follows (h : s.ended = false) (ctx : Context σ) (n : Nat) :
    ∃ k, Follows s ctx n (s.polled ctx n) k := by
  induction n with
  | zero => exact ⟨0, .start h ctx⟩
  | succ n ih =>
    obtain ⟨k, hk⟩ := ih
    cases hended : (s.polled ctx n).subscription.ended with
    | true => exact ⟨k, hk.poll_ended hended⟩
    | false =>
      obtain ⟨j, signal, hpasses⟩ := Connection.passes accept
        (s.polled ctx n).subscription.connection (s.polled ctx n).context
      exact ⟨k + j, hk.poll_open hended hpasses⟩

/-- The messages are those of the signals of the connection, up to a last one. -/
theorem Follows.messages_eq_upToLast {n k : Nat} {p : Polled σ} (h : Follows s ctx n p k) :
    p.messages = upToLast (messagesOf (s.connection.calls k ctx)) := by
  rw [← h.messages_eq, h.upToLast_eq]

theorem upToLast_calls {m n : Nat} (h : m ≤ n) :
    upToLast (messagesOf (s.connection.calls m ctx)) <+:
      upToLast (messagesOf (s.connection.calls n ctx)) := by
  obtain ⟨more, hmore⟩ := s.connection.calls_prefix ctx h
  rw [← hmore, messagesOf_append]
  exact upToLast_mono (List.prefix_append _ _)

/-- No signal is left out: a number of calls for the next delivery hands out what the signals of as
many calls of the connection are. -/
theorem Follows.upToLast_prefix {n k : Nat} {p : Polled σ} (h : Follows s ctx n p k) :
    upToLast (messagesOf (s.connection.calls n ctx)) <+: p.messages := by
  rw [h.messages_eq_upToLast]
  rcases h.reached with hended | hn
  · obtain ⟨more, hmore⟩ := s.connection.calls_prefix ctx (Nat.le_add_left k n)
    rw [h.ended_eq, h.messages_eq] at hended
    rw [← upToLast_append_last hended (messagesOf more), ← messagesOf_append, hmore]
    exact upToLast_calls (Nat.le_add_right n k)
  · exact upToLast_calls hn

end

end Subscription

end WormholeMap

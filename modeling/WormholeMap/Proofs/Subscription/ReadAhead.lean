import WormholeMap.Proofs.Subscription.Messages

/-!
A subscription that is read ahead of the one who follows it. What has been read waits in a queue,
and the cursor is the one after the last event taken from the queue, not after the last one read.
However reading and taking alternate, what is taken is what the subscription itself would hand out
to as many calls (`run_eq`), and closing it drops what waits.
-/

namespace WormholeMap

/-- A subscription as far as it has been read, the answers that wait, those that have been taken,
and the cursor after them. -/
structure ReadAhead (σ : Type) where
  source : Subscription
  context : Context σ
  waiting : List (Option Delivery)
  taken : List (Option Delivery)
  cursor : Option Cursor
  closed : Bool

namespace ReadAhead

/-- A turn of the one who reads or of the one who follows. -/
inductive Turn where
  | read
  | take
  deriving DecidableEq

def start (client : Client) (map : MapId) (resume : Option Cursor) (ctx : Context σ) :
    ReadAhead σ :=
  ⟨.start client map resume, ctx, [], [], resume, false⟩

def close (r : ReadAhead σ) : ReadAhead σ := { r with closed := true }

def read (r : ReadAhead σ) : ReadAhead σ :=
  let ((answer, source), context) := r.source.next.run r.context
  { r with source, context, waiting := r.waiting ++ [answer] }

/-- Takes the first answer that waits. -/
def pop (r : ReadAhead σ) : ReadAhead σ :=
  match r.waiting with
  | [] => r
  | answer :: waiting => { r with
      waiting
      taken := r.taken ++ [answer]
      cursor := (answer >>= Delivery.cursor?) <|> r.cursor }

/-- Takes the next answer, waiting for it to be read where none waits. -/
def take (r : ReadAhead σ) : ReadAhead σ :=
  match r.waiting with
  | [] => r.read.pop
  | _ => r.pop

def turn (r : ReadAhead σ) : Turn → ReadAhead σ
  | .read => if r.closed then r else r.read
  | .take => if r.closed then { r with taken := r.taken ++ [none] } else r.take

def run (r : ReadAhead σ) (turns : List Turn) : ReadAhead σ := turns.foldl turn r

/-! ### The queue -/

section

variable {s : Subscription} {ctx : Context σ} {r : ReadAhead σ} {n : Nat}

/-- What has been taken and what waits is what as many calls as were read for hand out. -/
structure Queues (s : Subscription) (ctx : Context σ) (r : ReadAhead σ) : Prop where
  polled_eq : s.polled ctx (r.taken.length + r.waiting.length) =
    ⟨r.taken ++ r.waiting, r.source, r.context⟩
  cursor_eq : r.cursor = Delivery.lastCursor s.cursor (r.taken.filterMap Delivery.message?)
  open_eq : r.closed = false

theorem Queues.read (h : Queues s ctx r) : Queues s ctx r.read := by
  obtain ⟨⟨⟨answer, source⟩, context⟩, hnext⟩ : ∃ after, r.source.next.run r.context = after :=
    ⟨_, rfl⟩
  have hread : r.read = { r with source, context, waiting := r.waiting ++ [answer] } := by
    rw [ReadAhead.read, hnext]
  rw [hread]
  refine ⟨?_, h.cursor_eq, h.open_eq⟩
  rw [List.length_append, List.length_singleton, ← Nat.add_assoc, Subscription.polled, h.polled_eq,
    Polled.poll, hnext]
  simp

theorem Queues.pop (h : Queues s ctx r) : Queues s ctx r.pop := by
  cases hwaiting : r.waiting with
  | nil =>
    have hpop : r.pop = r := by rw [ReadAhead.pop, hwaiting]
    rwa [hpop]
  | cons answer waiting =>
    have hpop : r.pop = { r with
        waiting
        taken := r.taken ++ [answer]
        cursor := (answer >>= Delivery.cursor?) <|> r.cursor } := by
      rw [ReadAhead.pop, hwaiting]
    have hpolled := h.polled_eq
    rw [hwaiting] at hpolled
    rw [hpop]
    refine ⟨?_, ?_, h.open_eq⟩
    · simpa [Nat.add_assoc, Nat.add_comm 1] using hpolled
    · rw [List.filterMap_append, Delivery.lastCursor_append, ← h.cursor_eq]
      cases answer with
      | none => rfl
      | some d =>
        have hd := Delivery.lastCursor_message? d r.cursor
        cases hmessage : Delivery.message? (some d) with
        | none => simpa [hmessage] using hd.symm
        | some message => simpa [hmessage] using hd.symm

theorem pop_taken {answer : Option Delivery} {waiting : List (Option Delivery)}
    (h : r.waiting = answer :: waiting) : r.pop.taken.length = r.taken.length + 1 := by
  rw [pop, h]
  exact List.length_append

theorem Queues.take (h : Queues s ctx r) :
    Queues s ctx r.take ∧ r.take.taken.length = r.taken.length + 1 := by
  cases hwaiting : r.waiting with
  | nil =>
    have htake : r.take = r.read.pop := by rw [ReadAhead.take, hwaiting]
    rw [htake]
    refine ⟨h.read.pop, ?_⟩
    have hread : r.read.waiting = [(r.source.next.run r.context).1.1] := by
      rw [ReadAhead.read, hwaiting]
      rfl
    exact pop_taken hread
  | cons answer waiting =>
    have htake : r.take = r.pop := by rw [ReadAhead.take, hwaiting]
    rw [htake]
    exact ⟨h.pop, pop_taken hwaiting⟩

theorem Queues.run (h : Queues s ctx r) (turns : List Turn) :
    Queues s ctx (r.run turns) ∧
      (r.run turns).taken.length = r.taken.length + turns.count .take := by
  induction turns generalizing r with
  | nil => exact ⟨h, rfl⟩
  | cons t turns ih =>
    rw [ReadAhead.run, List.foldl_cons]
    cases t with
    | read =>
      have hturn : r.turn .read = r.read := by simp [turn, h.open_eq]
      rw [hturn]
      obtain ⟨hqueues, hlength⟩ := ih h.read
      refine ⟨hqueues, hlength.trans ?_⟩
      rw [List.count_cons_of_ne (show Turn.read ≠ .take by decide)]
      rfl
    | take =>
      have hturn : r.turn .take = r.take := by simp [turn, h.open_eq]
      obtain ⟨htake, htaken⟩ := h.take
      rw [hturn]
      obtain ⟨hqueues, hlength⟩ := ih htake
      refine ⟨hqueues, hlength.trans ?_⟩
      rw [htaken, List.count_cons_self, Nat.add_right_comm, Nat.add_assoc]

end

variable (client : Client) (map : MapId) (resume : Option Cursor) (ctx : Context σ)

theorem queues_start : Queues (.start client map resume) ctx (start client map resume ctx) :=
  ⟨rfl, rfl, rfl⟩

/-- However reading and taking alternate, the answers taken are those that the subscription would
hand out, and the cursor is the one that it would have. What waits are the answers that come next. -/
theorem run_eq (turns : List Turn) :
    let r := (start client map resume ctx).run turns
    let p := (Subscription.start client map resume).polled ctx (turns.count .take)
    r.taken = p.answers ∧ r.cursor = p.subscription.cursor ∧
      (Subscription.start client map resume).polled ctx (r.taken.length + r.waiting.length) =
        ⟨r.taken ++ r.waiting, r.source, r.context⟩ := by
  intro r p
  obtain ⟨hqueues, hlength⟩ := (queues_start client map resume ctx).run turns
  have hcount : r.taken.length = turns.count .take := by
    rw [hlength, start, List.length_nil, Nat.zero_add]
  have htaken : r.taken = p.answers := by
    have hbegun := (Subscription.start client map resume).answers_mono ctx
      (Nat.le_add_right r.taken.length r.waiting.length)
    rw [hqueues.polled_eq, hcount] at hbegun
    have hlength : p.answers.length = r.taken.length := by
      rw [hcount, Subscription.length_answers]
    exact ((List.prefix_of_prefix_length_le hbegun (List.prefix_append r.taken r.waiting)
      hlength.le).eq_of_length hlength).symm
  refine ⟨htaken, ?_, hqueues.polled_eq⟩
  obtain ⟨k, hfollows⟩ :=
    Subscription.follows (s := .start client map resume) rfl ctx (turns.count .take)
  rw [hqueues.cursor_eq, hfollows.cursor_eq, htaken]
  rfl

/-- Once closed, nothing that waits is taken any more, and nothing is read. -/
theorem close_run (r : ReadAhead σ) (turns : List Turn) :
    r.close.run turns = { r.close with
      taken := r.taken ++ List.replicate (turns.count .take) none } := by
  induction turns generalizing r with
  | nil => simp [run, close]
  | cons t turns ih =>
    cases t with
    | read =>
      rw [List.count_cons_of_ne (show Turn.read ≠ .take by decide)]
      exact ih r
    | take =>
      have h := ih { r with taken := r.taken ++ [none] }
      rw [List.append_assoc] at h
      rw [List.count_cons_self, List.replicate_succ]
      exact h

end ReadAhead

end WormholeMap

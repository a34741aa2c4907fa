import WormholeMap.Proofs.Subscription.ReadAhead
import WormholeMap.Proofs.View.Coherence
import Mathlib.Data.List.Induction

/-!
What a view shows. At every step of a view that has loaded its map and goes on, its store holds what
the last load brought, changed by the events that the stream opened after it has handed out since,
in order and each once (`View.shows_last_load`). This is so however far the stream is read ahead of
the view. A stream that is closed by a load plays no part after it, whatever waits in it by then.
-/

namespace WormholeMap

/-! ### Content -/

namespace Graph

/-- A graph apart from its revision. -/
def content (g : Graph) : Graph := { g with revision := 0 }

section

variable {g : Graph}

theorem insertNode_content (n : Node) :
    (g.content.insertNode n).map content = (g.insertNode n).map content := by
  have hnode : g.content.node? n.id = g.node? n.id := rfl
  rw [insertNode, insertNode, hnode]
  cases g.node? n.id <;> rfl

theorem replaceNode_content (n : Node) :
    (g.content.replaceNode n).map content = (g.replaceNode n).map content := by
  have hnode : g.content.node? n.id = g.node? n.id := rfl
  rw [replaceNode, replaceNode, hnode]
  cases g.node? n.id with
  | none => rfl
  | some old =>
    simp only
    split <;> rfl

theorem removeNode_content (id : NodeId) :
    (g.content.removeNode id).map content = (g.removeNode id).map content := by
  have hnode : g.content.node? id = g.node? id := rfl
  rw [removeNode, removeNode, hnode]
  cases g.node? id <;> rfl

theorem insertLink_content (l : Link) :
    (g.content.insertLink l).map content = (g.insertLink l).map content := by
  have hlink : g.content.link? l.id = g.link? l.id := rfl
  rw [insertLink, insertLink, hlink]
  cases g.link? l.id <;> rfl

theorem replaceLink_content (l : Link) :
    (g.content.replaceLink l).map content = (g.replaceLink l).map content := by
  have hlink : g.content.link? l.id = g.link? l.id := rfl
  rw [replaceLink, replaceLink, hlink]
  cases g.link? l.id with
  | none => rfl
  | some old =>
    simp only
    split <;> rfl

theorem removeLink_content (id : LinkId) :
    (g.content.removeLink id).map content = (g.removeLink id).map content := by
  have hlink : g.content.link? id = g.link? id := rfl
  rw [removeLink, removeLink, hlink]
  cases g.link? id <;> rfl

theorem setMap_content (m : MapInfo) :
    (g.content.setMap m).map content = (g.setMap m).map content := by
  have hmap : g.content.map = g.map := rfl
  rw [setMap, setMap, hmap]
  split <;> rfl

theorem setPresence_content (id : NodeId) (change : PresenceChange) (o : Occupant) :
    (g.content.setPresence id change o).map content = (g.setPresence id change o).map content := by
  have hnode : g.content.node? id = g.node? id := rfl
  rw [setPresence, setPresence, hnode]
  cases g.node? id with
  | none => rfl
  | some n =>
    simp only
    cases changeOccupants change o n.occupants <;> rfl

end

end Graph

namespace Workspace

variable {w w' : Workspace}

theorem content_write (h : w.store.value.content = w'.store.value.content)
    {f : Graph → Option Graph}
    (hf : ∀ g : Graph, (f g.content).map Graph.content = (f g).map Graph.content) :
    (w.write f).store.value.content = (w'.write f).store.value.content := by
  have hcontent (w : Workspace) : (w.write f).store.value.content =
      ((f w.store.value.content).map Graph.content).getD w.store.value.content := by
    rw [value_write, hf]
    cases f w.store.value <;> rfl
  rw [hcontent, hcontent, h]

/-- Events do to the content of a store what they do to that of any other with the same. -/
theorem content_apply (h : w.store.value.content = w'.store.value.content) (e : Event) :
    (w.apply e).1.store.value.content = (w'.apply e).1.store.value.content := by
  cases e with
  | nodeCreated n => exact content_write h fun g => Graph.insertNode_content n
  | nodeUpdated n => exact content_write h fun g => Graph.replaceNode_content n
  | nodeDeleted id =>
    have hsession : ({ w with session := w.session.deselect id } : Workspace).store.value.content =
        ({ w' with session := w'.session.deselect id } : Workspace).store.value.content := h
    exact content_write hsession fun g => Graph.removeNode_content id
  | linkCreated l => exact content_write h fun g => Graph.insertLink_content l
  | linkUpdated l => exact content_write h fun g => Graph.replaceLink_content l
  | linkDeleted id => exact content_write h fun g => Graph.removeLink_content id
  | presence id change o => exact content_write h fun g => Graph.setPresence_content id change o
  | mapUpdated m =>
    have hmap : w.store.value.content.map = w'.store.value.content.map := by rw [h]
    have hmap : w.store.value.map = w'.store.value.map := hmap
    have hkeep : w.keepAccess m = w'.keepAccess m := by rw [keepAccess, keepAccess, hmap]
    simp only [apply, hkeep]
    exact content_write h fun g => Graph.setMap_content (w'.keepAccess m)
  | _ => exact h

theorem content_run (h : w.store.value.content = w'.store.value.content) (events : List Event) :
    (w.run events).store.value.content = (w'.run events).store.value.content := by
  induction events generalizing w w' with
  | nil => exact h
  | cons e events ih => exact ih (content_apply h e)

end Workspace

/-! ### Streams -/

namespace EventStream.Connection

/-- A call for the next signal acts on the wire alone. -/
theorem next_wire (accept : Frame → Option α) (c : Connection) {ctx ctx' : Context σ}
    (h : ctx.wire = ctx'.wire) :
    ((c.next accept).run ctx).1 = ((c.next accept).run ctx').1 ∧
      ((c.next accept).run ctx).2.wire = ((c.next accept).run ctx').2.wire := by
  obtain ⟨wire, toasts⟩ := ctx
  obtain ⟨wire', toasts'⟩ := ctx'
  obtain rfl : wire = wire' := h
  cases hfirst : firstAccepted accept c.pending with
  | some a =>
    simp only [next, hfirst]
    exact ⟨rfl, rfl⟩
  | none =>
    have hdrained : c.next accept = ({ c with pending := [] }.next accept : Run σ _) := by
      simp only [next, hfirst, firstAccepted]
    rw [hdrained]
    generalize hc : { c with pending := [] } = drained
    have hpending : drained.pending = [] := by rw [← hc]
    cases hstage : drained.stage with
    | connecting delayed =>
      obtain ⟨e, wire', -, -, hnext⟩ := next_connecting hpending hstage wire
      rw [hnext, hnext]
      exact ⟨rfl, rfl⟩
    | _ =>
      simp only [next, hpending, firstAccepted, hstage]
      exact ⟨rfl, rfl⟩

end EventStream.Connection

namespace Subscription

theorem next_wire (s : Subscription) {ctx ctx' : Context σ} (h : ctx.wire = ctx'.wire) :
    (s.next.run ctx).1 = (s.next.run ctx').1 ∧
      (s.next.run ctx).2.wire = (s.next.run ctx').2.wire := by
  cases hended : s.ended with
  | true =>
    rw [next_ended hended, next_ended hended]
    exact ⟨rfl, h⟩
  | false =>
    have hsame := s.connection.next_wire accept h
    rw [next_going hended, next_going hended]
    generalize (s.connection.next accept).run ctx = after at hsame ⊢
    generalize (s.connection.next accept).run ctx' = after' at hsame ⊢
    obtain ⟨answer, ctx⟩ := after
    obtain ⟨answer', ctx'⟩ := after'
    obtain ⟨rfl, hwire⟩ : answer = answer' ∧ ctx.wire = ctx'.wire := hsame
    exact ⟨rfl, hwire⟩

end Subscription

namespace Delivery

/-- The event that an answer hands out, if it is one. -/
def event? : Option Delivery → Option Event
  | some (event _ e) => some e
  | _ => none

end Delivery

namespace Polled

variable {p q : Polled σ}

/-- The events that have been handed out, in order. -/
def handedOut (p : Polled σ) : List Event := p.answers.filterMap Delivery.event?

theorem handedOut_concat {answer : Option Delivery} (h : q.answers = p.answers ++ [answer]) :
    q.handedOut = p.handedOut ++ (Delivery.event? answer).toList := by
  rw [handedOut, h, List.filterMap_append, handedOut]
  cases hevent : Delivery.event? answer <;> simp [hevent]

end Polled

/-! ### Views -/

namespace View

open ReadAhead (Turn)

section

variable {v : View}

theorem run_step (v : View) (ctx : Context σ) (n : Nat) :
    (v.run (n + 1)).run ctx = ((v.run n).run ctx).1.step.run ((v.run n).run ctx).2 := by
  induction n generalizing v ctx with
  | zero => rfl
  | succ n ih =>
    have hfirst (n : Nat) : (v.run (n + 1)).run ctx =
        ((v.step.run ctx).1.run n).run (v.step.run ctx).2 := rfl
    rw [hfirst, ih, hfirst]

theorem step_opening (h : v.phase = .opening) (ctx : Context σ) :
    v.step.run ctx = ({ v with phase := .loading }, ((v.client.selectMap v.map).run ctx).2) := by
  unfold step
  rw [h]
  rfl

theorem step_ended {result : Except ActionError ViewExit} (h : v.phase = .ended result)
    (ctx : Context σ) : v.step.run ctx = (v, ctx) := by
  unfold step
  rw [h]
  rfl

/-- A view that goes on after a step has gone on before it. -/
theorem going_of_step {ctx : Context σ} (h : (v.step.run ctx).1.result? = none) :
    v.result? = none := by
  cases hphase : v.phase with
  | ended result =>
    rw [step_ended hphase] at h
    exact h
  | _ => rw [result?, hphase]

theorem step_following {s : Subscription} (h : v.phase = .following s) (ctx : Context σ) :
    v.step.run ctx = ({ v with phase := .following (s.next.run ctx).1.2 }.deliver
      (s.next.run ctx).1.1).run (s.next.run ctx).2 := by
  unfold step
  rw [h]
  rfl

theorem step_loading (h : v.phase = .loading) (ctx : Context σ) :
    v.step.run ctx = match (v.client.loadMap v.map).run ctx with
      | (.ok detail, after) => ({ v with
          workspace := v.workspace.enter v.map detail
          phase := .following (.start v.client v.map none) }, after)
      | (.error e, after) =>
        let e := ActionError.ofApi "Failed to load map" e
        (v.finish (.error e),
          { after with toasts := after.toasts.notify (.error "Error" e.message) }) := by
  unfold step
  rw [h]
  simp only
  rw [StateT.run_bind, Client.run_reload]
  rcases (v.client.loadMap v.map).run ctx with ⟨answer, after⟩
  cases answer <;> rfl

/-- What an answer does to a view that goes on: the event that it hands out is applied, and the
stream is followed further unless the map is to be loaded again. -/
structure Delivered (v : View) (answer : Option Delivery) (ctx : Context σ) (v' : View)
    (ctx' : Context σ) : Prop where
  workspace : v'.workspace = v.workspace.run (Delivery.event? answer).toList
  phase : v'.phase = v.phase ∨ v'.phase = .loading ∧
    ∃ e, Delivery.event? answer = some e ∧ (v.workspace.apply e).2 ≠ .proceed
  wire : ctx'.wire = ctx.wire
  client : v'.client = v.client
  map : v'.map = v.map

theorem delivered {ctx : Context σ} (answer : Option Delivery)
    (h : ((v.deliver answer).run ctx).1.result? = none) :
    Delivered v answer ctx ((v.deliver answer).run ctx).1 ((v.deliver answer).run ctx).2 := by
  cases answer with
  | none => cases h
  | some d =>
    cases d with
    | connected =>
      simp only [deliver, connected] at h ⊢
      split <;> exact ⟨rfl, .inl rfl, rfl, rfl, rfl⟩
    | interrupted fault =>
      simp only [deliver, interrupted] at h ⊢
      split <;> exact ⟨rfl, .inl rfl, rfl, rfl, rfl⟩
    | silence => exact ⟨rfl, .inl rfl, rfl, rfl, rfl⟩
    | closed => cases h
    | event cursor e =>
      simp only [deliver, take] at h ⊢
      generalize houtcome : (v.workspace.apply e).2 = outcome at h ⊢
      cases outcome with
      | proceed => exact ⟨rfl, .inl rfl, rfl, rfl, rfl⟩
      | reload message =>
        have hreloads : (v.workspace.apply e).2 ≠ .proceed := by
          rw [houtcome]
          nofun
        cases message <;> exact ⟨rfl, .inr ⟨rfl, e, rfl, hreloads⟩, rfl, rfl, rfl⟩
      | leave reason => cases h

end

/-! ### Streams that are read ahead -/

/-- A view whose stream is read ahead of it, with the answers that wait for the view. -/
structure Ahead (σ : Type) where
  view : View
  waiting : List (Option Delivery)
  context : Context σ

namespace Ahead

def start (client : Client) (map : MapId) (ctx : Context σ) : Ahead σ :=
  ⟨.start client map, [], ctx⟩

/-- Reads the stream that the view follows, if it follows one. -/
def read (a : Ahead σ) : Ahead σ :=
  match a.view.phase with
  | .following s =>
    let ((answer, s), context) := s.next.run a.context
    ⟨{ a.view with phase := .following s }, a.waiting ++ [answer], context⟩
  | _ => a

/-- The view takes the first answer that waits. Where none waits, and when it does not follow a
stream, it makes a step of its own: when it loads its map, what still waits is lost. -/
def take (a : Ahead σ) : Ahead σ :=
  match a.view.phase, a.waiting with
  | .following _, answer :: waiting =>
    let (view, context) := (a.view.deliver answer).run a.context
    ⟨view, waiting, context⟩
  | _, _ =>
    let (view, context) := a.view.step.run a.context
    ⟨view, [], context⟩

def turn (a : Ahead σ) : Turn → Ahead σ
  | .read => a.read
  | .take => a.take

def run (a : Ahead σ) (turns : List Turn) : Ahead σ := turns.foldl turn a

variable {a : Ahead σ}

theorem run_concat (a : Ahead σ) (turns : List Turn) (t : Turn) :
    a.run (turns ++ [t]) = (a.run turns).turn t := by
  rw [run, List.foldl_append]
  rfl

theorem read_following {s : Subscription} (h : a.view.phase = .following s) :
    a.read = ⟨{ a.view with phase := .following (s.next.run a.context).1.2 },
      a.waiting ++ [(s.next.run a.context).1.1], (s.next.run a.context).2⟩ := by
  unfold read
  rw [h]
  rfl

theorem read_of_not_following (h : ∀ s, a.view.phase ≠ .following s) : a.read = a := by
  unfold read
  split
  · rename_i s hs
    exact absurd hs (h s)
  · rfl

theorem take_waiting {s : Subscription} (h : a.view.phase = .following s)
    {answer : Option Delivery} {waiting : List (Option Delivery)}
    (hwaiting : a.waiting = answer :: waiting) :
    a.take = ⟨((a.view.deliver answer).run a.context).1, waiting,
      ((a.view.deliver answer).run a.context).2⟩ := by
  unfold take
  rw [h, hwaiting]
  rfl

theorem take_step (h : (∀ s, a.view.phase ≠ .following s) ∨ a.waiting = []) :
    a.take = ⟨(a.view.step.run a.context).1, [], (a.view.step.run a.context).2⟩ := by
  unfold take
  split
  · rename_i s answer waiting hs hwaiting
    rcases h with h | h
    · exact absurd hs (h s)
    · cases hwaiting.symm.trans h
  · rfl

/-- To take an answer where none waits is to read one and to take it. -/
theorem take_eq_read_take {s : Subscription} (h : a.view.phase = .following s)
    (hwaiting : a.waiting = []) : a.take = a.read.take := by
  have hread := read_following h
  rw [hwaiting, List.nil_append] at hread
  have hphase : a.read.view.phase = .following (s.next.run a.context).1.2 := by rw [hread]
  rw [take_step (.inr hwaiting), step_following h, take_waiting hphase (by rw [hread]), hread]

/-- Where nothing is read ahead, turns are the steps of the view. -/
theorem run_takes (v : View) (ctx : Context σ) (n : Nat) :
    (⟨v, [], ctx⟩ : Ahead σ).run (List.replicate n .take) =
      ⟨((v.run n).run ctx).1, [], ((v.run n).run ctx).2⟩ := by
  induction n with
  | zero => rfl
  | succ n ih =>
    rw [List.replicate_succ', run_concat, ih, run_step]
    exact take_step (.inr rfl)

/-- A view that goes on after a turn has gone on before it. -/
theorem going_of_turn {t : Turn} (h : (a.turn t).view.result? = none) :
    a.view.result? = none := by
  cases hphase : a.view.phase with
  | ended result =>
    have hne : ∀ s, a.view.phase ≠ .following s := fun s => by rw [hphase]; nofun
    cases t with
    | read =>
      rw [turn, read_of_not_following hne] at h
      exact h
    | take =>
      rw [turn, take_step (.inl hne)] at h
      exact going_of_step h
  | _ => rw [result?, hphase]

end Ahead

/-! ### The last load -/

/-- A view after turns of reading its stream and of its own. -/
def ahead (client : Client) (map : MapId) (ctx : Context σ) (turns : List Turn) : Ahead σ :=
  (Ahead.start client map ctx).run turns

/-- After these turns, a turn of the view loads the map in full. -/
def LoadsAt (client : Client) (map : MapId) (ctx : Context σ) (turns : List Turn)
    (detail : MapDetail) : Prop :=
  (ahead client map ctx turns).view.phase = .loading ∧
    ((client.loadMap map).run (ahead client map ctx turns).context).1 = .ok detail

/-- After some turns, none of those that follow loads the map. -/
def NoLoad (client : Client) (map : MapId) (ctx : Context σ) (before since : List Turn) : Prop :=
  ∀ earlier later, since = earlier ++ .take :: later → ∀ detail,
    ¬LoadsAt client map ctx (before ++ earlier) detail

/-- Of the turns so far that load the map, the one between the given others is the last. -/
structure LastLoad (client : Client) (map : MapId) (ctx : Context σ)
    (turns before since : List Turn) (detail : MapDetail) : Prop where
  turns_eq : turns = before ++ .take :: since
  loads : LoadsAt client map ctx before detail
  last : NoLoad client map ctx (before ++ [.take]) since

/-- The view follows a stream of which it has taken a number of answers, and the next ones wait. -/
structure Reads (s : Subscription) (ctx : Context σ) (taken : Nat) (a : Ahead σ) : Prop where
  phase : a.view.phase = .following (s.polled ctx (taken + a.waiting.length)).subscription
  waiting : (s.polled ctx (taken + a.waiting.length)).answers =
    (s.polled ctx taken).answers ++ a.waiting
  wire : a.context.wire = (s.polled ctx (taken + a.waiting.length)).context.wire

/-- The store of a view has the content of a map as it was loaded, changed by the events that a
stream has handed out, in order. The view follows this stream, unless it is about to load the map
again. -/
structure Shows (map : MapId) (detail : MapDetail) (s : Subscription) (ctx : Context σ)
    (taken : Nat) (a : Ahead σ) : Prop where
  content : a.view.workspace.store.value.content =
    ((Workspace.empty.enter map detail).run (s.polled ctx taken).handedOut).store.value.content
  follows : Reads s ctx taken a ∨ a.view.phase = .loading

section

variable {s : Subscription} {ctx : Context σ} {taken : Nat} {a : Ahead σ}

theorem Reads.read (h : Reads s ctx taken a) : Reads s ctx taken a.read := by
  obtain ⟨hanswer, hwire⟩ := Subscription.next_wire
    (s.polled ctx (taken + a.waiting.length)).subscription h.wire
  rw [Ahead.read_following h.phase]
  refine ⟨?_, ?_, ?_⟩ <;>
    simp only [List.length_append, List.length_singleton, ← Nat.add_assoc, Subscription.polled]
  · rw [hanswer]
    rfl
  · rw [hanswer, ← List.append_assoc, ← h.waiting]
    rfl
  · exact hwire

theorem Reads.view_read (h : Reads s ctx taken a) :
    a.read.view.workspace = a.view.workspace ∧ a.read.view.client = a.view.client ∧
      a.read.view.map = a.view.map := by
  rw [Ahead.read_following h.phase]
  exact ⟨rfl, rfl, rfl⟩

/-- A view that takes an answer and goes on has applied the event that this is, if it is one. -/
structure Takes (s : Subscription) (ctx : Context σ) (taken : Nat) (a a' : Ahead σ) : Prop where
  workspace : ∃ answer,
    (s.polled ctx (taken + 1)).answers = (s.polled ctx taken).answers ++ [answer] ∧
      a'.view.workspace = a.view.workspace.run (Delivery.event? answer).toList
  follows : Reads s ctx (taken + 1) a' ∨ a'.view.phase = .loading
  client : a'.view.client = a.view.client
  map : a'.view.map = a.view.map

theorem Reads.take_waiting (h : Reads s ctx taken a) {answer : Option Delivery}
    {waiting : List (Option Delivery)} (hwaiting : a.waiting = answer :: waiting)
    (hgoing : a.take.view.result? = none) : Takes s ctx taken a a.take := by
  rw [Ahead.take_waiting h.phase hwaiting] at hgoing ⊢
  have hdelivered := delivered answer hgoing
  have hcount : taken + a.waiting.length = taken + 1 + waiting.length := by
    rw [hwaiting, List.length_cons]
    omega
  have hreads := h.waiting
  rw [hcount, hwaiting] at hreads
  have hnext : (s.polled ctx (taken + 1)).answers = (s.polled ctx taken).answers ++ [answer] := by
    obtain ⟨next, hnext⟩ := Subscription.answers_poll (s.polled ctx taken)
    have hbegun := s.answers_mono ctx (Nat.le_add_right (taken + 1) waiting.length)
    rw [hreads, Subscription.polled, hnext, List.prefix_append_right_inj,
      List.cons_prefix_cons] at hbegun
    rw [Subscription.polled, hnext, hbegun.1]
  refine ⟨⟨answer, hnext, hdelivered.workspace⟩, ?_, hdelivered.client, hdelivered.map⟩
  rcases hdelivered.phase with hsame | ⟨hloading, -⟩
  · left
    refine ⟨?_, ?_, ?_⟩
    · rw [← hcount]
      exact hsame.trans h.phase
    · rw [hreads, hnext, List.append_assoc]
      rfl
    · rw [← hcount]
      exact hdelivered.wire.trans h.wire
  · exact .inr hloading

theorem Reads.take (h : Reads s ctx taken a) (hgoing : a.take.view.result? = none) :
    Takes s ctx taken a a.take := by
  cases hwaiting : a.waiting with
  | cons answer waiting => exact h.take_waiting hwaiting hgoing
  | nil =>
    obtain ⟨answer, hread⟩ : ∃ answer, a.read.waiting = [answer] := by
      rw [Ahead.read_following h.phase, hwaiting, List.nil_append]
      exact ⟨_, rfl⟩
    rw [Ahead.take_eq_read_take h.phase hwaiting] at hgoing ⊢
    obtain ⟨⟨answer, hanswer, hworkspace⟩, hfollows, hclient, hmap⟩ :=
      h.read.take_waiting hread hgoing
    obtain ⟨hworkspace', hclient', hmap'⟩ := h.view_read
    rw [hworkspace'] at hworkspace
    exact ⟨⟨answer, hanswer, hworkspace⟩, hfollows, hclient.trans hclient', hmap.trans hmap'⟩

end

section

variable {client : Client} {map : MapId} {ctx : Context σ} {turns before since : List Turn}

theorem ahead_concat (client : Client) (map : MapId) (ctx : Context σ) (turns : List Turn)
    (t : Turn) : ahead client map ctx (turns ++ [t]) = (ahead client map ctx turns).turn t :=
  Ahead.run_concat _ turns t

theorem not_loadsAt (h : (ahead client map ctx turns).view.phase ≠ .loading) (detail : MapDetail) :
    ¬LoadsAt client map ctx turns detail :=
  fun hloads => h hloads.1

theorem NoLoad.concat (h : NoLoad client map ctx before since) {t : Turn}
    (ht : t = .take → ∀ detail, ¬LoadsAt client map ctx (before ++ since) detail) :
    NoLoad client map ctx before (since ++ [t]) := by
  intro earlier later hsplit
  rcases List.eq_nil_or_concat later with rfl | ⟨later, t', rfl⟩
  · obtain ⟨rfl, htake⟩ := List.append_inj' hsplit rfl
    exact ht (List.cons.inj htake).1
  · rw [List.concat_eq_append, ← List.cons_append, ← List.append_assoc] at hsplit
    exact h earlier later (List.append_inj' hsplit rfl).1

/-- What is true of a view that goes on: it has not loaded its map yet, or shows the last load. -/
structure Current (client : Client) (map : MapId) (ctx : Context σ) (turns : List Turn) : Prop where
  client_eq : (ahead client map ctx turns).view.client = client
  map_eq : (ahead client map ctx turns).view.map = map
  shown : (NoLoad client map ctx [] turns ∧
      (ahead client map ctx turns).view.workspace = .empty ∧
      ((ahead client map ctx turns).view.phase = .opening ∨
        (ahead client map ctx turns).view.phase = .loading)) ∨
    ∃ before since detail, LastLoad client map ctx turns before since detail ∧
      Shows map detail (.start client map none) (ahead client map ctx (before ++ [.take])).context
        (since.count .take) (ahead client map ctx turns)

/-- A view that is to load its map, and goes on, shows it and follows a stream of its own. -/
theorem Current.of_loading (hclient : (ahead client map ctx turns).view.client = client)
    (hmap : (ahead client map ctx turns).view.map = map)
    (hphase : (ahead client map ctx turns).view.phase = .loading)
    (hgoing : (ahead client map ctx (turns ++ [.take])).view.result? = none) :
    Current client map ctx (turns ++ [.take]) := by
  have hne : ∀ s, (ahead client map ctx turns).view.phase ≠ .following s :=
    fun s => by rw [hphase]; nofun
  have hturn : ahead client map ctx (turns ++ [.take]) = _ :=
    (ahead_concat client map ctx turns .take).trans (Ahead.take_step (.inl hne))
  have hstep := step_loading hphase (ahead client map ctx turns).context
  rw [hclient, hmap] at hstep
  rcases hload : (client.loadMap map).run (ahead client map ctx turns).context with ⟨answer, after⟩
  rw [hload] at hstep
  cases answer with
  | error e =>
    rw [hturn, hstep] at hgoing
    cases hgoing
  | ok detail =>
    rw [hstep] at hturn
    refine ⟨by rw [hturn], by rw [hturn], .inr ⟨turns, [], detail, ⟨rfl, ?_, ?_⟩, ?_⟩⟩
    · exact ⟨hphase, by rw [hload]⟩
    · intro earlier later hsplit
      cases List.append_eq_nil_iff.mp hsplit.symm |>.2
    · rw [hturn]
      exact ⟨rfl, .inl ⟨rfl, rfl, rfl⟩⟩

theorem LastLoad.concat {detail : MapDetail} (h : LastLoad client map ctx turns before since detail)
    {t : Turn} (ht : t = .take → ∀ detail, ¬LoadsAt client map ctx turns detail) :
    LastLoad client map ctx (turns ++ [t]) before (since ++ [t]) detail where
  turns_eq := by rw [h.turns_eq, List.append_assoc, List.cons_append]
  loads := h.loads
  last := by
    refine h.last.concat fun htake => ?_
    rw [List.append_assoc, List.singleton_append, ← h.turns_eq]
    exact ht htake

theorem Current.read (h : Current client map ctx turns) :
    Current client map ctx (turns ++ [.read]) := by
  have hturn : ahead client map ctx (turns ++ [.read]) = (ahead client map ctx turns).read :=
    ahead_concat client map ctx turns .read
  -- A view that follows no stream is left as it is.
  have hidle (hne : ∀ s, (ahead client map ctx turns).view.phase ≠ .following s) :
      ahead client map ctx (turns ++ [.read]) = ahead client map ctx turns :=
    hturn.trans (Ahead.read_of_not_following hne)
  rcases h.shown with ⟨hnone, hempty, hphase⟩ | ⟨before, since, detail, hlast, hcontent, hfollows⟩
  · have hsame := hidle fun s => by rcases hphase with hphase | hphase <;> rw [hphase] <;> nofun
    refine ⟨?_, ?_, .inl ⟨hnone.concat nofun, ?_, ?_⟩⟩ <;> rw [hsame]
    exacts [h.client_eq, h.map_eq, hempty, hphase]
  · have hlast' : LastLoad client map ctx (turns ++ [.read]) before (since ++ [.read]) detail :=
      hlast.concat nofun
    have hcount : (since ++ [Turn.read]).count .take = since.count .take := by simp
    rcases hfollows with hreads | hloading
    · obtain ⟨hworkspace, hclient, hmap⟩ := hreads.view_read
      rw [← hturn] at hworkspace hclient hmap
      refine ⟨hclient.trans h.client_eq, hmap.trans h.map_eq,
        .inr ⟨before, since ++ [.read], detail, hlast', ?_, ?_⟩⟩
      · rw [hworkspace, hcount]
        exact hcontent
      · rw [hturn, hcount]
        exact .inl hreads.read
    · have hsame := hidle fun s => by rw [hloading]; nofun
      refine ⟨?_, ?_, .inr ⟨before, since ++ [.read], detail, hlast', ?_, ?_⟩⟩
      · rw [hsame]
        exact h.client_eq
      · rw [hsame]
        exact h.map_eq
      · rw [hsame, hcount]
        exact hcontent
      · rw [hsame]
        exact .inr hloading

theorem Current.take (h : Current client map ctx turns)
    (hgoing : (ahead client map ctx (turns ++ [.take])).view.result? = none) :
    Current client map ctx (turns ++ [.take]) := by
  have hturn : ahead client map ctx (turns ++ [.take]) = (ahead client map ctx turns).take :=
    ahead_concat client map ctx turns .take
  rcases h.shown with ⟨hnone, hempty, hopening | hloading⟩ |
    ⟨before, since, detail, hlast, hcontent, hreads | hloading⟩
  · have hstep := step_opening hopening (ahead client map ctx turns).context
    rw [Ahead.take_step (.inl fun s => by rw [hopening]; nofun), hstep] at hturn
    have hloads (detail : MapDetail) : ¬LoadsAt client map ctx turns detail :=
      not_loadsAt (by rw [hopening]; nofun) detail
    refine ⟨?_, ?_, .inl ⟨hnone.concat fun _ => hloads, ?_, ?_⟩⟩ <;> rw [hturn]
    exacts [h.client_eq, h.map_eq, hempty, .inr rfl]
  · exact .of_loading h.client_eq h.map_eq hloading hgoing
  · rw [hturn] at hgoing
    obtain ⟨⟨answer, hanswer, hworkspace⟩, hfollows, hclient, hmap⟩ := hreads.take hgoing
    rw [← hturn] at hworkspace hfollows hclient hmap
    have hloads (detail : MapDetail) : ¬LoadsAt client map ctx turns detail :=
      not_loadsAt (by rw [hreads.phase]; nofun) detail
    have hcount : (since ++ [Turn.take]).count .take = since.count .take + 1 := by simp
    refine ⟨hclient.trans h.client_eq, hmap.trans h.map_eq,
      .inr ⟨before, since ++ [.take], detail, hlast.concat fun _ => hloads, ?_, ?_⟩⟩
    · rw [hworkspace, hcount, Polled.handedOut_concat hanswer, Workspace.run_append]
      exact Workspace.content_run hcontent _
    · rw [hcount]
      exact hfollows
  · exact .of_loading h.client_eq h.map_eq hloading hgoing

theorem current (h : (ahead client map ctx turns).view.result? = none) :
    Current client map ctx turns := by
  -- By induction on the turns from the last one back: each turn keeps what is true before it.
  induction turns using List.reverseRecOn with
  | nil =>
    refine ⟨rfl, rfl, .inl ⟨?_, rfl, .inl rfl⟩⟩
    intro earlier later hsplit
    cases List.append_eq_nil_iff.mp hsplit.symm |>.2
  | append_singleton turns t ih =>
    have hbefore := h
    rw [ahead_concat] at hbefore
    cases t with
    | read => exact (ih (Ahead.going_of_turn hbefore)).read
    | take => exact (ih (Ahead.going_of_turn hbefore)).take h

end

/-- Once a view has loaded its map, and as long as it goes on, it shows the map as it was last
loaded, changed by the events that the stream opened after this load has handed out since. The view
may take each answer when it asks for it, or its stream may be read ahead. -/
theorem shows_last_load (client : Client) (map : MapId) (ctx : Context σ) :
    (∀ n, ahead client map ctx (List.replicate n .take) =
      ⟨(((start client map).run n).run ctx).1, [], (((start client map).run n).run ctx).2⟩) ∧
    ∀ turns : List Turn, (ahead client map ctx turns).view.result? = none →
      (NoLoad client map ctx [] turns ∧ (ahead client map ctx turns).view.workspace = .empty) ∨
        ∃ before since detail, LastLoad client map ctx turns before since detail ∧
          Shows map detail (.start client map none)
            (ahead client map ctx (before ++ [.take])).context (since.count .take)
            (ahead client map ctx turns) := by
  refine ⟨Ahead.run_takes (start client map) ctx, fun turns hgoing => ?_⟩
  rcases (current hgoing).shown with ⟨hnone, hempty, -⟩ | hshown
  · exact .inl ⟨hnone, hempty⟩
  · exact .inr hshown

/-- What the first stream sends: that access has been granted, and then that the only node has been
deleted. -/
def grantedText : String :=
  "event: access_character_granted\ndata: 0\n\nevent: node_deleted\n"
    ++ "data: \x7b\"id\":\"00000000000000000000000000000001\"\x7d\n\n"

/-- A backend that loads a map with a node. Of the streams, only the first says anything of it. -/
def granting : Backend Nat where
  reply s _ message :=
    match message.request with
    | .loadMap _ => (.response ⟨200, [Utf8.encode editableMap], .closed⟩, s)
    | .followMap .. =>
      let text := if s = 0 then grantedText else "event: signature_created\ndata: 0\n\n"
      (.response ⟨200, [Utf8.encode text], .held⟩, s + 1)
    | _ => (.response ⟨200, [], .closed⟩, s)

/-- The view loads its map, its stream is read up to the deletion, and the view takes the grant. -/
def untilGrant : List Turn := [.take, .take, .read, .read, .read, .take, .take]

/-- The deletion waits in a stream that a load closes. It is never applied. -/
theorem shows_last_load_granting :
    let client : Client := ⟨"http://backend", none, 1000⟩
    let map : MapId := ⟨⟨List.replicate 32 0, rfl⟩⟩
    let ctx : Context Nat := ⟨.start granting 0, .empty⟩
    let turns := untilGrant ++ [.read, .take, .take, .take]
    (ahead client map ctx untilGrant).waiting.length = 1 ∧
      (ahead client map ctx turns).view.result? = none ∧
      (ahead client map ctx turns).context.wire.state = 2 ∧
      (ahead client map ctx turns).view.workspace.store.value.nodes.length = 1 ∧
      ∃ before since detail, LastLoad client map ctx turns before since detail ∧
        Shows map detail (.start client map none)
          (ahead client map ctx (before ++ [.take])).context (since.count .take)
          (ahead client map ctx turns) := by
  intro client map ctx turns
  have hrun : (ahead client map ctx untilGrant).waiting.length = 1 ∧
      (ahead client map ctx turns).view.result? = none ∧
      (ahead client map ctx turns).context.wire.state = 2 ∧
      (ahead client map ctx turns).view.workspace.store.value.nodes.length = 1 := by
    decide +kernel
  obtain ⟨hwaiting, hgoing, hstreams, hnodes⟩ := hrun
  refine ⟨hwaiting, hgoing, hstreams, hnodes, ?_⟩
  rcases (shows_last_load client map ctx).2 turns hgoing with ⟨-, hempty⟩ | hshows
  · rw [hempty] at hnodes
    cases hnodes
  · exact hshows

end View

end WormholeMap

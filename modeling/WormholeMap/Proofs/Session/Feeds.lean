import WormholeMap.DetailFeed
import WormholeMap.Proofs.Client.Exchanges
import WormholeMap.Proofs.Session.Transitions
import Mathlib.Data.List.Chain

/-!
Detail feeds beside a session that changes at any time, also while a panel is on its way. No two
panels in a row are for the same key, a call waits only while the last panel is for the state that
the session is in, and nothing is fetched but the panels (`DetailFeed.current_after`).
-/

namespace WormholeMap.DetailFeed

/-! ### One panel -/

/-- How the panel for a key comes about: that of a node is fetched, notes by the system that the
store has the node on, and there is nothing to fetch without a node. -/
inductive Fetched (c : Client) (store : Store) :
    DetailKind → DetailKey → List Exchange → Except ApiError DetailPanel → Prop
  | absent (kind : DetailKind) : Fetched c store kind none [] (.ok .cleared)
  | signatures {map : MapId} {node : NodeId} {e : Exchange} (counter : UInt64)
      (asks : e.message = c.message (.listSignatures map node)) :
      Fetched c store .signatures (some (map, node, counter)) [e]
        ((e.reply.check.bind (·.read (Client.readListing "signatures" Signature.read))).map
          (.signatures node))
  | missing {node : NodeId} (map : MapId) (counter : UInt64)
      (gone : store.value.node? node = none) :
      Fetched c store .notes (some (map, node, counter)) [] (.ok .cleared)
  | notes {map : MapId} {node : NodeId} {n : Node} {e : Exchange} (counter : UInt64)
      (found : store.value.node? node = some n)
      (asks : e.message = c.message (.listNotes map n.systemId)) :
      Fetched c store .notes (some (map, node, counter)) [e]
        ((e.reply.check.bind (·.read (Client.readListing "notes" Note.read))).map
          (.notes node n.systemId))

/-- Where the panel for a key is fetched from, if it is fetched at all. -/
def path? (kind : DetailKind) (store : Store) : DetailKey → Option String
  | none => none
  | some (map, node, _) =>
    match kind with
    | .signatures => some s!"/maps/{map}/nodes/{node}/signatures"
    | .notes => (store.value.node? node).map fun n => s!"/maps/{map}/systems/{n.systemId}/notes"

theorem Fetched.gets {c : Client} {store : Store} {kind : DetailKind} {key : DetailKey}
    {made : List Exchange} {panel : Except ApiError DetailPanel}
    (h : Fetched c store kind key made panel) :
    made.map (fun e => (e.message.request.method, e.message.request.path)) =
      (path? kind store key).toList.map (Prod.mk .get) := by
  cases h with
  | absent => rfl
  | signatures counter asks =>
    rw [List.map_singleton, asks]
    rfl
  | missing map counter gone =>
    rw [path?, gone]
    rfl
  | notes counter found asks =>
    rw [List.map_singleton, asks, path?, found]
    rfl

theorem makes_fetch (f : DetailFeed) (store : Store) (map : MapId) (node : NodeId)
    (counter : UInt64) :
    Run.Makes (f.fetch store map node : Run σ (Except ApiError DetailPanel)) fun made panel =>
      Fetched f.client store f.kind (some (map, node, counter)) made panel := by
  unfold fetch
  cases f.kind with
  | signatures =>
    refine (f.client.makes_fetch _ _).bind_pure ?_
    rintro made result ⟨e, rfl, hasks, rfl⟩
    exact .signatures counter hasks
  | notes =>
    cases hfound : store.value.node? node with
    | none => exact .pure (.missing map counter hfound)
    | some n =>
      refine (f.client.makes_fetch _ _).bind_pure ?_
      rintro made result ⟨e, rfl, hasks, rfl⟩
      exact .notes counter hfound hasks

/-- What a feed can answer. It has nothing new where the session has published nothing since, or
nothing that matters. -/
inductive Answers (f : DetailFeed) (session : Session) (live : Bool) (store : Store) :
    List Exchange → FeedAnswer × DetailFeed → Prop
  | unchanged (hlast : f.last.isSome = true) (hseen : session.count = f.seen) :
      Answers f session live store [] (if live then .pending else .gone, f)
  | irrelevant (hlast : f.last = some (key f.kind session.value)) :
      Answers f session live store []
        (if live then .pending else .gone, { f with seen := session.count })
  | panel {made : List Exchange} {panel : Except ApiError DetailPanel}
      (hlast : f.last ≠ some (key f.kind session.value))
      (hfetched : Fetched f.client store f.kind (key f.kind session.value) made panel) :
      Answers f session live store made (.panel panel,
        { f with seen := session.count, last := some (key f.kind session.value) })

theorem makes_next (f : DetailFeed) (session : Session) (live : Bool) (store : Store) :
    Run.Makes (f.next session live store : Run σ (FeedAnswer × DetailFeed))
      (f.Answers session live store) := by
  unfold next
  by_cases hunchanged : f.last.isSome ∧ session.count = f.seen
  · rw [if_pos hunchanged]
    exact .pure (.unchanged hunchanged.1 hunchanged.2)
  rw [if_neg hunchanged]
  by_cases hlast : f.last = some (key f.kind session.value)
  · rw [if_pos hlast]
    exact .pure (.irrelevant hlast)
  rw [if_neg hlast]
  cases hkey : key f.kind session.value with
  | none =>
    have hfetched : Fetched f.client store f.kind (key f.kind session.value) [] (.ok .cleared) := by
      rw [hkey]
      exact .absent _
    have hpanel : f.Answers session live store [] _ := .panel hlast hfetched
    rw [hkey] at hpanel
    exact .pure hpanel
  | some selected =>
    obtain ⟨map, node, counter⟩ := selected
    refine (makes_fetch _ store map node counter).bind_pure fun made panel hfetched => ?_
    rw [← hkey] at hfetched ⊢
    exact .panel hlast hfetched

/-! ### A feed and its session -/

/-- A panel that a feed has come up with, the state of the session and the store that it is for, and
the exchanges made for it. -/
structure Outcome where
  state : SessionState
  store : Store
  made : List Exchange
  panel : Except ApiError DetailPanel

/-- How the call for the next panel stands: there is none, it waits for the session to change, or
its panel is on the way. -/
inductive Call where
  | idle
  | suspended
  | fetching
  deriving DecidableEq

/-- A session and a feed of it, with the panels that the feed has come up with and all exchanges
that it has made, in order. -/
structure Watch where
  session : Session
  feed : DetailFeed
  call : Call
  outcomes : List Outcome
  exchanges : List Exchange

/-- What happens next: an operation on the session, whatever the call does; a call, or a call that
waits looking at the session again, with the store and the wire that there are by then; or the
arrival of a panel. -/
inductive Turn (σ : Type) where
  | operate (op : Session.Operation)
  | poll (live : Bool) (store : Store) (ctx : Context σ)
  | arrive

namespace Watch

variable {c : Client} {kind : DetailKind} {w : Watch}

def start (c : Client) (kind : DetailKind) (session : Session) : Watch :=
  ⟨session, .start c kind session, .idle, [], []⟩

/-- The feed has given an answer to a call, having made exchanges. -/
def answered (w : Watch) (store : Store) (made : List Exchange) : FeedAnswer × DetailFeed → Watch
  | (.pending, feed) => { w with feed, call := .suspended, exchanges := w.exchanges ++ made }
  | (.gone, feed) => { w with feed, call := .idle, exchanges := w.exchanges ++ made }
  | (.panel panel, feed) =>
    { w with
      feed
      call := .fetching
      outcomes := w.outcomes ++ [⟨w.session.value, store, made, panel⟩]
      exchanges := w.exchanges ++ made }

/-- There are no two calls of a feed at once, so that none is made while a panel is on the way. -/
def turn (w : Watch) : Turn σ → Watch
  | .operate op => { w with session := w.session.perform op }
  | .poll live store ctx =>
    if w.call = .fetching then w
    else
      let after := (w.feed.next w.session live store).run ctx
      w.answered store (after.2.wire.exchanges.drop ctx.wire.exchanges.length) after.1
  | .arrive => if w.call = .fetching then { w with call := .idle } else w

/-- A call waits, and no change of the session is there for it to look at. -/
def Waits (w : Watch) : Prop := w.call = .suspended ∧ w.session.count = w.feed.seen

/-- The key that the last panel is for. -/
def last? (kind : DetailKind) (w : Watch) : Option DetailKey :=
  w.outcomes.getLast?.map fun o => key kind o.state

/-- A feed follows its session: no panel is for the key of the one before, none is missed or late,
and nothing is fetched but the panels. -/
structure Current (c : Client) (kind : DetailKind) (w : Watch) : Prop where
  distinct : w.outcomes.IsChain fun o next => key kind o.state ≠ key kind next.state
  waits : w.Waits → w.last? kind = some (key kind w.session.value)
  prompt : w.call ≠ .fetching → w.last? kind ≠ some (key kind w.session.value) →
    ∀ (σ : Type) (live : Bool) (store : Store) (ctx : Context σ), ∃ made panel,
      (w.turn (.poll live store ctx)).outcomes =
        w.outcomes ++ [⟨w.session.value, store, made, panel⟩]
  fetched : ∀ o ∈ w.outcomes, Fetched c o.store kind (key kind o.state) o.made o.panel
  gets : ∀ o ∈ w.outcomes,
    o.made.map (fun e => (e.message.request.method, e.message.request.path)) =
      (path? kind o.store (key kind o.state)).toList.map (Prod.mk .get)
  exchanges : w.exchanges = w.outcomes.flatMap (·.made)

/-- What every turn keeps. The feed has the key of the last panel, and that is the key of the
session while there is no publication that it has not seen. -/
structure Kept (c : Client) (kind : DetailKind) (w : Watch) : Prop where
  client : w.feed.client = c
  kind_eq : w.feed.kind = kind
  last : w.feed.last = w.last? kind
  seen_le : w.feed.seen ≤ w.session.count
  seen : w.feed.last.isSome = true → w.session.count = w.feed.seen →
    w.last? kind = some (key kind w.session.value)
  suspended : w.call = .suspended → w.feed.last.isSome = true
  distinct : w.outcomes.IsChain fun o next => key kind o.state ≠ key kind next.state
  fetched : ∀ o ∈ w.outcomes, Fetched c o.store kind (key kind o.state) o.made o.panel
  exchanges : w.exchanges = w.outcomes.flatMap (·.made)

namespace Kept

theorem start (c : Client) (kind : DetailKind) (session : Session) :
    Kept c kind (.start c kind session) where
  client := rfl
  kind_eq := rfl
  last := rfl
  seen_le := Nat.le_refl _
  seen h := by cases h
  suspended h := by cases h
  distinct := .nil
  fetched _ ho := absurd ho List.not_mem_nil
  exchanges := rfl

/-- An operation that publishes anything is one that the feed has not seen. -/
theorem operate (h : Kept c kind w) (op : Session.Operation) :
    Kept c kind { w with session := w.session.perform op } := by
  have hmoves := Session.moves w.session op
  by_cases hidle : op.selects = true ∧ (w.session.perform op).value = w.session.value
  · rw [hmoves.idle hidle.1 hidle.2]
    exact h
  · have hcount := hmoves.publishes hidle
    have hle := h.seen_le
    refine { h with seen_le := ?_, seen := fun _ hseen => ?_ }
    · show w.feed.seen ≤ (w.session.perform op).count
      omega
    · have hseen : (w.session.perform op).count = w.feed.seen := hseen
      omega

/-- A call comes up with a panel exactly if the last one is not for the key of the session. -/
theorem poll_cases (h : Kept c kind w) (hcall : w.call ≠ .fetching) (live : Bool) (store : Store)
    (ctx : Context σ) :
    (w.last? kind = some (key kind w.session.value) ∧ ∃ call, call ≠ .fetching ∧
      w.turn (.poll live store ctx) =
        { w with call, feed := { w.feed with seen := w.session.count } }) ∨
    (w.last? kind ≠ some (key kind w.session.value) ∧ ∃ made panel,
      Fetched c store kind (key kind w.session.value) made panel ∧
      w.turn (.poll live store ctx) =
        { w with
          call := .fetching
          feed := { w.feed with
            seen := w.session.count, last := some (key kind w.session.value) }
          outcomes := w.outcomes ++ [⟨w.session.value, store, made, panel⟩]
          exchanges := w.exchanges ++ made }) := by
  obtain ⟨made, hmade, hanswers⟩ := w.feed.makes_next w.session live store ctx
  have hturn : w.turn (.poll live store ctx) =
      w.answered store made ((w.feed.next w.session live store).run ctx).1 := by
    rw [turn, if_neg hcall]
    show w.answered store (List.drop _ _) _ = _
    rw [hmade, List.drop_left]
  have hidle (feed : DetailFeed) (hfeed : feed = { w.feed with seen := w.session.count }) :
      ∃ call, call ≠ .fetching ∧ w.answered store [] (if live then .pending else .gone, feed) =
        { w with call, feed := { w.feed with seen := w.session.count } } := by
    subst hfeed
    cases live with
    | true => exact ⟨.suspended, nofun, by simp [answered]⟩
    | false => exact ⟨.idle, nofun, by simp [answered]⟩
  rw [hturn]
  generalize ((w.feed.next w.session live store).run ctx).1 = answer at hanswers
  cases hanswers with
  | unchanged hlast hseen =>
    -- Here the feed does not look at the session: that the key is the same is the invariant.
    refine .inl ⟨h.seen hlast hseen, hidle w.feed ?_⟩
    rw [hseen]
  | irrelevant hlast =>
    rw [h.kind_eq, h.last] at hlast
    exact .inl ⟨hlast, hidle _ rfl⟩
  | panel hlast hfetched =>
    rw [h.kind_eq, h.last] at hlast
    rw [h.kind_eq, h.client] at hfetched
    refine .inr ⟨hlast, made, _, hfetched, ?_⟩
    simp [answered, h.kind_eq]

theorem poll (h : Kept c kind w) (live : Bool) (store : Store) (ctx : Context σ) :
    Kept c kind (w.turn (.poll live store ctx)) := by
  by_cases hcall : w.call = .fetching
  · rw [turn, if_pos hcall]
    exact h
  rcases h.poll_cases hcall live store ctx with
    ⟨hlast, call, -, hturn⟩ | ⟨hlast, made, panel, hfetched, hturn⟩
  · rw [hturn]
    refine { h with seen_le := Nat.le_refl _, seen := fun _ _ => hlast, suspended := fun _ => ?_ }
    show w.feed.last.isSome = true
    rw [h.last, hlast, Option.isSome_some]
  · rw [hturn]
    refine ⟨h.client, h.kind_eq, ?_, Nat.le_refl _, fun _ _ => ?_, nofun, ?_, ?_, ?_⟩
    · simp [last?]
    · simp [last?]
    · refine List.isChain_append.mpr ⟨h.distinct, .singleton _, ?_⟩
      intro o ho next hnext hsame
      obtain rfl := Option.some.inj hnext
      refine hlast ?_
      rw [last?, ho, Option.map_some, hsame]
    · exact List.forall_mem_append.mpr ⟨h.fetched, List.forall_mem_singleton.mpr hfetched⟩
    · rw [h.exchanges, List.flatMap_append, List.flatMap_singleton]

theorem turn (h : Kept c kind w) (t : Turn σ) : Kept c kind (w.turn t) := by
  cases t with
  | operate op => exact h.operate op
  | poll live store ctx => exact h.poll live store ctx
  | arrive =>
    rw [Watch.turn]
    split
    · exact { h with suspended := nofun }
    · exact h

theorem current (h : Kept c kind w) : Current c kind w where
  distinct := h.distinct
  waits hwaits := h.seen (h.suspended hwaits.1) hwaits.2
  prompt hcall hlast σ live store ctx := by
    rcases h.poll_cases hcall live store ctx with ⟨hsame, -⟩ | ⟨-, made, panel, -, hturn⟩
    · exact absurd hsame hlast
    · rw [hturn]
      exact ⟨made, panel, rfl⟩
  fetched := h.fetched
  gets o ho := (h.fetched o ho).gets
  exchanges := h.exchanges

end Kept

end Watch

/-- However operations on a session, calls of a feed of it and arrivals of panels come one after
another, the feed follows the session. -/
theorem current_after (c : Client) (kind : DetailKind) (session : Session) (turns : List (Turn σ)) :
    (turns.foldl Watch.turn (.start c kind session)).Current c kind := by
  have hkept : (turns.foldl Watch.turn (.start c kind session)).Kept c kind := by
    induction turns using List.reverseRecOn with
    | nil => exact .start c kind session
    | append_singleton turns t ih =>
      rw [List.foldl_append]
      exact ih.turn t
  exact hkept.current

/-- Nothing is selected all the while, so that the next call waits once it has looked at the
session. -/
example (c : Client) (ctx : Context Unit) :
    let w := [Turn.poll true .empty ctx, .arrive, .operate .bumpNotes, .poll true .empty ctx].foldl
      Watch.turn (.start c .notes .empty)
    w.Waits ∧ w.outcomes.length = 1 := ⟨⟨rfl, rfl⟩, rfl⟩

end WormholeMap.DetailFeed

import WormholeMap.Proofs.EventStream.Growing
import WormholeMap.Proofs.View.Following

/-!
Whether a view comes to what the backend has. A backend adds events to a log, loads a map as it is
after all of them, and sends a stream the events that are added while it is open or that follow a
cursor. At every step a view shows what it has loaded, changed by the events logged since its stream
was last opened without a cursor (`shown_of_logs`). Those that were logged between the load and that
are missing for good, so the view may differ from the map of the backend (`lost_between`).
-/

namespace WormholeMap

open EventStream

/-! ### Logged events -/

/-- The events that frames are. -/
def eventsIn (frames : List Frame) : List Event :=
  frames.filterMap fun f => (Subscription.accept f).map (·.2)

theorem eventsIn_append (a b : List Frame) : eventsIn (a ++ b) = eventsIn a ++ eventsIn b :=
  List.filterMap_append

/-- The frame is an event that every view takes up and goes on. -/
def Proceeds (f : Frame) : Prop :=
  ∃ e, Event.decode f.event f.data = .ok e ∧ ∀ w : Workspace, (w.apply e).2 = .proceed

/-- A map as it is loaded at first, after the events of a log. -/
def Workspace.logged (map : MapId) (initial : MapDetail) (log : List Frame) : Workspace :=
  (empty.enter map initial).run (eventsIn log)

theorem Workspace.logged_nil (map : MapId) (initial : MapDetail) :
    logged map initial [] = empty.enter map initial := rfl

theorem Workspace.logged_append (map : MapId) (initial : MapDetail) (a b : List Frame) :
    logged map initial (a ++ b) = (logged map initial a).run (eventsIn b) := by
  rw [logged, eventsIn_append, run_append, logged]

/-- A backend that logs events on which views go on, and loads a map as the log has it. -/
structure Logs (backend : Backend σ) (map : MapId) (initial : MapDetail) (log : σ → List Frame) :
    Prop extends Appends backend map log where
  proceed : ∀ s, ∀ f ∈ log s, Proceeds f
  loads : ∀ s time message detail, message.request = .loadMap map →
    (backend.reply s time message).1.check.bind (·.read MapDetail.read) = .ok detail →
    (Workspace.empty.enter map detail).Agree (.logged map initial (log s))

/-- A signal that goes on with a log passes, and hands out the event that its frame is. -/
theorem EventStream.Signal.passed_of_proceed {signal : Signal Frame}
    (hproceed : ∀ f ∈ signal.frames, f.id ≠ none ∧ Proceeds f) (hopen : signal ≠ .closed)
    (cursor : Option Cursor) :
    ∃ passed, signal.passed Subscription.accept = some passed ∧
      passed.delivery.isLast = false ∧
      (passed.delivery.cursor? <|> cursor) = cursorAfter cursor signal.frames ∧
      (Delivery.event? (some passed.delivery)).toList = eventsIn signal.frames ∧
      ∀ e, Delivery.event? (some passed.delivery) = some e →
        ∀ w : Workspace, (w.apply e).2 = .proceed := by
  have hnone {d : Delivery} (hd : Delivery.event? (some d) = none) (e : Event)
      (he : Delivery.event? (some d) = some e) (w : Workspace) : (w.apply e).2 = .proceed := by
    rw [hd] at he
    cases he
  cases signal with
  | closed => exact absurd rfl hopen
  | arrived f =>
    obtain ⟨hid, e, hdecode, hgoes⟩ := hproceed f (List.mem_singleton_self f)
    have haccept : Subscription.accept f = some (f.id, e) := by
      rw [Subscription.accept, hdecode]
    refine ⟨.arrived (f.id, e), ?_, ?_, ?_, ?_, ?_⟩
    · rw [passed, haccept]
      rfl
    · cases e with
      | syncError message => cases hgoes .empty
      | _ => rfl
    · obtain ⟨id, hid⟩ := Option.ne_none_iff_exists'.mp hid
      rw [frames, cursorAfter_singleton, delivery, Delivery.cursor?, hid]
      rfl
    · simp [eventsIn, frames, haccept, delivery, Delivery.event?]
    · rintro _ ⟨⟩
      exact hgoes
  | opened => exact ⟨.opened, rfl, rfl, rfl, rfl, hnone rfl⟩
  | failed fault => exact ⟨.failed fault, rfl, rfl, rfl, rfl, hnone rfl⟩
  | silent => exact ⟨.silent, rfl, rfl, rfl, rfl, hnone rfl⟩

/-- A load is one exchange, of which the reply is read. -/
theorem Client.run_loadMap (c : Client) (map : MapId) (ctx : Context σ) :
    ∃ e wire, ctx.wire.Sent e wire ∧ e.message = c.message (.loadMap map) ∧
      (c.loadMap map).run ctx =
        (e.reply.check.bind (·.read MapDetail.read), { ctx with wire }) :=
  ⟨_, _, ctx.wire.sent_send (c.message (.loadMap map)), rfl, rfl⟩

namespace View

/-! ### Steps of a view -/

/-- A view after a number of steps, and what there is to act on then. -/
def reached (client : Client) (map : MapId) (ctx : Context σ) (n : Nat) : View × Context σ :=
  ((View.start client map).run n).run ctx

/-- The step opens a stream without a cursor. -/
def OpensAfresh (client : Client) (map : MapId) (ctx : Context σ) (n : Nat) : Prop :=
  ∃ e ∈ (reached client map ctx (n + 1)).2.wire.exchanges.drop
      (reached client map ctx n).2.wire.exchanges.length,
    e.OpensAfresh client map

/-- The step is the last one so far that opens a stream without a cursor. -/
structure LastAfresh (client : Client) (map : MapId) (ctx : Context σ) (m n : Nat) : Prop where
  before : m < n
  opens : OpensAfresh client map ctx m
  last : ∀ k, m < k → k < n → ¬OpensAfresh client map ctx k

/-- What is logged when the step is made. -/
def loggedAt (client : Client) (map : MapId) (ctx : Context σ) (log : σ → List Frame) (n : Nat) :
    List Frame :=
  log (reached client map ctx n).2.wire.state

def stream? (v : View) : Option Subscription :=
  match v.phase with
  | .following s => some s
  | _ => none

/-- The view follows a stream that is open, with some chunks to come, and has taken up all that has
arrived. -/
def Listens (v : View) (chunks : List (List UInt8)) (ending : Ending) : Prop :=
  ∃ s ∈ v.stream?, s.connection.pending = [] ∧ s.connection.stage = .reading chunks ending

instance (v : View) (chunks : List (List UInt8)) (ending : Ending) :
    Decidable (v.Listens chunks ending) :=
  inferInstanceAs (Decidable (∃ s ∈ v.stream?, _ ∧ _))

/-- A view follows a log. It has loaded what comes of the first frames, and has been handed out
those of the last ones that are `sent`. -/
structure Keeps (client : Client) (map : MapId) (ctx : Context σ) (log : σ → List Frame)
    (entered : Workspace) (base : List Frame) (n : Nat) (s : Subscription)
    (before since sent : List Frame) (phase : EventStream.Phase) : Prop where
  following : (reached client map ctx n).1.phase = .following s
  going : s.ended = false
  cursor : s.cursor = cursorAfter none sent
  tracks : Tracks client map since sent phase s.connection
  workspace : (reached client map ctx n).1.workspace = entered.run (eventsIn sent)
  backend : (reached client map ctx n).2.wire.backend = ctx.wire.backend
  log_eq : before ++ since = loggedAt client map ctx log n
  base : base <+: before
  origin : Idle sent phase ∨ ∃ m, LastAfresh client map ctx m n ∧
    before = loggedAt client map ctx log m

/-- What a view shows that has a stream with some chunks to come. Of the log, `missed` was added
after the load and before the last stream without a cursor was accepted, `told` has arrived since, up
to the cursor, and `later` is what follows. The view shows what was loaded, changed by what it was
told, and so agrees with the backend exactly if what was missed makes no difference. -/
structure ShowsLog (client : Client) (map : MapId) (ctx : Context σ) (log : σ → List Frame)
    (initial : MapDetail) (n : Nat) (chunks : List (List UInt8)) (ending : Ending) (m : Nat)
    (missed told later : List Frame) : Prop where
  opened : LastAfresh client map ctx m n
  missed_eq : loggedAt client map ctx log 1 ++ missed = loggedAt client map ctx log m
  told_eq : loggedAt client map ctx log m ++ told ++ later = loggedAt client map ctx log n
  settled : chunks = [] → ending = .held → later = []
  cursor : ∀ s ∈ (reached client map ctx n).1.stream?, s.cursor = cursorAfter none told
  shown : (reached client map ctx n).1.workspace.Agree
    ((Workspace.logged map initial (loggedAt client map ctx log 1)).run (eventsIn told))
  agree_iff : (reached client map ctx n).1.workspace.Agree
      (.logged map initial (loggedAt client map ctx log m ++ told)) ↔
    ((Workspace.logged map initial (loggedAt client map ctx log 1)).run (eventsIn told)).Agree
      ((Workspace.logged map initial (loggedAt client map ctx log 1)).run
        (eventsIn (missed ++ told)))

section

variable {client : Client} {map : MapId} {ctx : Context σ} {log : σ → List Frame}
  {initial : MapDetail} {entered : Workspace} {base before since sent : List Frame} {n : Nat}
  {s : Subscription} {phase : EventStream.Phase}

theorem reached_succ (client : Client) (map : MapId) (ctx : Context σ) (n : Nat) :
    reached client map ctx (n + 1) =
      (reached client map ctx n).1.step.run (reached client map ctx n).2 :=
  run_step _ ctx n

theorem reached_one (client : Client) (map : MapId) (ctx : Context σ) :
    ∃ ctx', reached client map ctx 1 = ({ start client map with phase := .loading }, ctx') ∧
      ctx'.wire.backend = ctx.wire.backend := by
  have hstart : (reached client map ctx 0).1.phase = .opening := rfl
  rw [reached_succ]
  obtain ⟨_, _, hadds, -⟩ := client.adds_selectMap map ctx
  exact ⟨_, step_opening hstart ctx, hadds.backend⟩

theorem LastAfresh.succ {m : Nat} (h : LastAfresh client map ctx m n)
    (hresumes : ¬OpensAfresh client map ctx n) : LastAfresh client map ctx m (n + 1) where
  before := Nat.lt_succ_of_lt h.before
  opens := h.opens
  last k hm hk := by
    rcases Nat.lt_succ_iff_lt_or_eq.mp hk with hk | rfl
    · exact h.last k hm hk
    · exact hresumes

theorem LastAfresh.anew (h : OpensAfresh client map ctx n) : LastAfresh client map ctx n (n + 1) where
  before := Nat.lt_succ_self n
  opens := h
  last k hm hk := by omega

/-- What a view that follows a stream and goes on takes up from a call of its connection. -/
structure TakesUp (v : View) (s : Subscription) (call : Call) (c' : Connection) (wire : Wire σ)
    (after : View × Context σ) : Prop where
  following : after.1.phase = .following ⟨c', cursorAfter s.cursor call.signal.frames, false⟩
  workspace : after.1.workspace = v.workspace.run (eventsIn call.signal.frames)
  wire : after.2.wire = wire

theorem step_takes {v : View} {ctx : Context σ} (h : v.phase = .following s) (hs : s.ended = false)
    (hproceed : (s.connection.call ctx).1.signal ≠ .closed →
      ∀ f ∈ (s.connection.call ctx).1.signal.frames, f.id ≠ none ∧ Proceeds f)
    (hgoing : (v.step.run ctx).1.result? = none) :
    (s.connection.call ctx).1.signal ≠ .closed ∧
      TakesUp v s (s.connection.call ctx).1 (s.connection.call ctx).2.1
        (s.connection.call ctx).2.2.wire (v.step.run ctx) := by
  have hopen : (s.connection.call ctx).1.signal ≠ .closed := by
    intro hclosed
    have hpassed : (s.connection.call ctx).1.signal.passed Subscription.accept = some .closed := by
      rw [hclosed]
      rfl
    rw [step_following h, Subscription.next_open hs (Connection.passes_of_call hpassed)] at hgoing
    cases hgoing
  obtain ⟨passed, hpassed, hlast, hcursor, hevents, hgoes⟩ :=
    Signal.passed_of_proceed (hproceed hopen) hopen s.cursor
  rw [step_following h, Subscription.next_open hs (Connection.passes_of_call hpassed), hlast,
    hcursor] at hgoing ⊢
  have hdelivered := delivered _ hgoing
  refine ⟨hopen, ?_, ?_, hdelivered.wire⟩
  · rcases hdelivered.phase with hsame | ⟨-, e, he, hreloads⟩
    · exact hsame
    · exact absurd (hgoes e he v.workspace) hreloads
  · rw [hdelivered.workspace, hevents]

/-- A view that goes on after a step follows the log further. -/
theorem Keeps.step (h : Keeps client map ctx log entered base n s before since sent phase)
    (hlogs : Logs ctx.wire.backend map initial log)
    (hgoing : (reached client map ctx (n + 1)).1.result? = none) :
    ∃ s' before' since' sent' phase',
      Keeps client map ctx log entered base (n + 1) s' before' since' sent' phase' := by
  obtain ⟨hfollowing, hs, hcursor, htracks, hworkspace, hbackend, hlog, hbase, horigin⟩ := h
  have hcall := htracks.call hlogs.toAppends hbackend hlog
  have hproceed (hopen : (s.connection.call (reached client map ctx n).2).1.signal ≠ .closed) :
      ∀ f ∈ (s.connection.call (reached client map ctx n).2).1.signal.frames,
        f.id ≠ none ∧ Proceeds f := by
    intro f hf
    have hlogged := (hcall hopen).2.mem_log hf
    exact ⟨(hlogs.ids _ f hlogged).1, hlogs.proceed _ f hlogged⟩
  rw [reached_succ] at hgoing
  obtain ⟨hopen, hfollowing', hworkspace', hwire⟩ := step_takes hfollowing hs hproceed hgoing
  obtain ⟨hbackend', hleads⟩ := hcall hopen
  rw [hcursor, ← cursorAfter_append] at hfollowing'
  rw [← reached_succ] at hfollowing' hworkspace' hwire
  rw [hworkspace, ← Workspace.run_append, ← eventsIn_append] at hworkspace'
  have hmade : (s.connection.call (reached client map ctx n).2).1.exchanges =
      (reached client map ctx (n + 1)).2.wire.exchanges.drop
        (reached client map ctx n).2.wire.exchanges.length := by
    rw [hwire]
    rfl
  rw [← hwire] at hbackend' hleads
  cases hleads with
  | on htracks' hlog' hresumes hidle =>
    rw [hmade] at hresumes
    have hnot : ¬OpensAfresh client map ctx n := fun ⟨e, he, hafresh⟩ => hresumes e he hafresh
    refine ⟨_, before, _, _, _, hfollowing', rfl, rfl, htracks', hworkspace', hbackend', hlog',
      hbase, ?_⟩
    rcases horigin with hnone | ⟨m, hlast, hm⟩
    · exact .inl (hidle hnone)
    · exact .inr ⟨m, hlast.succ hnot, hm⟩
  | anew htracks' hlog' hafresh =>
    rw [hmade] at hafresh
    have hbase' : base <+: loggedAt client map ctx log n :=
      hlog ▸ hbase.trans (List.prefix_append before since)
    exact ⟨_, _, _, _, _, hfollowing', rfl, rfl, htracks', hworkspace', hbackend', hlog', hbase',
      .inr ⟨n, .anew hafresh, rfl⟩⟩

/-- A view that goes on after the load follows the log from what it has loaded. -/
theorem keeps_loaded (hlogs : Logs ctx.wire.backend map initial log)
    (hgoing : (reached client map ctx 2).1.result? = none) :
    ∃ detail s before,
      (Workspace.empty.enter map detail).Agree
        (.logged map initial (loggedAt client map ctx log 1)) ∧
      Keeps client map ctx log (Workspace.empty.enter map detail)
        (loggedAt client map ctx log 1) 2 s before [] [] (.due 0) := by
  obtain ⟨ctx', hfirst, hbackend⟩ := reached_one client map ctx
  rw [← hbackend] at hlogs
  have hsecond := reached_succ client map ctx 1
  rw [hfirst, step_loading rfl] at hsecond
  obtain ⟨e, wire, hsent, hmessage, hload⟩ := client.run_loadMap map ctx'
  simp only [View.start, hload] at hsecond
  cases hdetail : e.reply.check.bind (·.read MapDetail.read) with
  | error fault =>
    rw [hsecond, hdetail] at hgoing
    cases hgoing
  | ok detail =>
    rw [hdetail] at hsecond
    have hreply : e.reply =
        (ctx'.wire.backend.reply ctx'.wire.state ctx'.wire.clock e.message).1 := by
      rcases hsent.answer with hnone | hreply
      · rw [(Prod.mk.inj hnone).1] at hdetail
        cases hdetail
      · exact congrArg Prod.fst hreply
    have hrequest : e.message.request = .loadMap map := by rw [hmessage, Client.message]
    rw [hreply] at hdetail
    have hagree := hlogs.loads _ _ _ detail hrequest hdetail
    have hloaded : loggedAt client map ctx log 1 = log ctx'.wire.state := by
      rw [loggedAt, hfirst]
    have hnow : log wire.state ++ [] = loggedAt client map ctx log 2 := by
      rw [loggedAt, hsecond, List.append_nil]
    have hbackend' : (reached client map ctx 2).2.wire.backend = ctx.wire.backend := by
      rw [hsecond]
      exact hsent.backend.trans hbackend
    rw [hloaded]
    refine ⟨detail, .start client map none, log wire.state, hagree, ?_⟩
    exact ⟨by rw [hsecond], rfl, rfl, .start client map, by rw [hsecond]; rfl, hbackend', hnow,
      hlogs.grown rfl hsent, .inl (idle_due 0)⟩

/-- A view that goes on has followed the log since it has loaded its map. -/
theorem keeps (hlogs : Logs ctx.wire.backend map initial log) (hn : 2 ≤ n)
    (hgoing : (reached client map ctx n).1.result? = none) :
    ∃ detail s before since sent phase,
      (Workspace.empty.enter map detail).Agree
        (.logged map initial (loggedAt client map ctx log 1)) ∧
      Keeps client map ctx log (Workspace.empty.enter map detail)
        (loggedAt client map ctx log 1) n s before since sent phase := by
  induction n, hn using Nat.le_induction with
  | base =>
    obtain ⟨detail, s, before, hagree, hkeeps⟩ := keeps_loaded hlogs hgoing
    exact ⟨detail, s, before, _, _, _, hagree, hkeeps⟩
  | succ n hn ih =>
    have hbefore : (reached client map ctx n).1.result? = none := by
      rw [reached_succ] at hgoing
      exact going_of_step hgoing
    obtain ⟨detail, s, before, since, sent, phase, hagree, hkeeps⟩ := ih hbefore
    obtain ⟨s', before', since', sent', phase', hkeeps'⟩ := hkeeps.step hlogs hgoing
    exact ⟨detail, s', before', since', sent', phase', hagree, hkeeps'⟩

theorem Listens.following {v : View} {chunks : List (List UInt8)} {ending : Ending}
    (h : v.Listens chunks ending) : ∃ s, v.phase = .following s ∧ s.connection.pending = [] ∧
      s.connection.stage = .reading chunks ending := by
  obtain ⟨s, hs, hstream⟩ := h
  unfold stream? at hs
  split at hs
  · cases hs
    exact ⟨s, ‹_›, hstream⟩
  · cases hs

/-- A view that follows a stream has loaded its map. -/
theorem two_le_of_following (h : (reached client map ctx n).1.phase = .following s) : 2 ≤ n := by
  by_contra hn
  have hn : n = 0 ∨ n = 1 := by omega
  rcases hn with rfl | rfl
  · cases h
  · obtain ⟨ctx', hfirst, -⟩ := reached_one client map ctx
    rw [hfirst] at h
    cases h

/-- Whenever a view has taken up all that has arrived on an open stream, it shows what it loaded,
changed by the events logged since the last stream without a cursor was accepted. -/
theorem shown_of_logs {chunks : List (List UInt8)} {ending : Ending}
    (hlogs : Logs ctx.wire.backend map initial log)
    (hlistens : (reached client map ctx n).1.Listens chunks ending) :
    ∃ m missed told later,
      ShowsLog client map ctx log initial n chunks ending m missed told later := by
  obtain ⟨s, hfollowing, hpending, hstage⟩ := hlistens.following
  have hgoing : (reached client map ctx n).1.result? = none := by
    rw [result?, hfollowing]
  obtain ⟨detail, s', before, since, sent, phase, hagree, hkeeps⟩ :=
    keeps hlogs (two_le_of_following hfollowing) hgoing
  obtain rfl : s = s' := Phase.following.inj (hfollowing.symm.trans hkeeps.following)
  have hphase := hkeeps.tracks.reading hpending hstage
  obtain ⟨later, hlater⟩ := (List.prefix_append sent _).trans hkeeps.tracks.ahead
  obtain ⟨missed, hmissed⟩ := hkeeps.base
  rcases hkeeps.origin with hidle | ⟨m, hlast, rfl⟩
  · exact absurd hphase (hidle.2 _ ending)
  have htold : loggedAt client map ctx log m ++ sent ++ later = loggedAt client map ctx log n := by
    rw [List.append_assoc, hlater]
    exact hkeeps.log_eq
  have hlogged : Workspace.logged map initial (loggedAt client map ctx log m ++ sent) =
      (Workspace.logged map initial (loggedAt client map ctx log 1)).run
        (eventsIn (missed ++ sent)) := by
    rw [← Workspace.logged_append, ← List.append_assoc, hmissed]
  have hshown : (reached client map ctx n).1.workspace.Agree
      ((Workspace.logged map initial (loggedAt client map ctx log 1)).run (eventsIn sent)) := by
    rw [hkeeps.workspace]
    exact hagree.run Graph.nodup_collect (Workspace.nodup_links_run _ Graph.nodup_collect _) _
  refine ⟨m, missed, sent, later, hlast, hmissed, htold, ?_, ?_, hshown, ?_⟩
  · rintro rfl rfl
    have hall := hkeeps.tracks.held _ hphase
    rw [← hlater] at hall
    exact (List.append_cancel_left hall).symm
  · intro s' hs'
    rw [stream?, hfollowing] at hs'
    cases hs'
    exact hkeeps.cursor
  · rw [hlogged]
    exact ⟨hshown.symm.trans, hshown.trans⟩

end

/-! ### A backend that drops the first stream -/

/-- What a value is read as, if it is read. -/
theorem eq_ok_get {x : Except ε α} (h : x.toOption.isSome) : x = .ok (x.toOption.get h) := by
  cases x with
  | error e => cases h
  | ok a => rfl

/-- The map with a node, as it is read. -/
def oneNode : MapDetail :=
  ((⟨200, [Utf8.encode editableMap], .closed⟩ : Response).read MapDetail.read).toOption.get
    (by decide +kernel)

theorem load_ok (body : List UInt8) :
    (Reply.response ⟨200, [body], .closed⟩).check.bind (·.read MapDetail.read) =
      (⟨200, [body], .closed⟩ : Response).read MapDetail.read := rfl

theorem load_oneNode : (Reply.response ⟨200, [Utf8.encode editableMap], .closed⟩).check.bind
    (·.read MapDetail.read) = .ok oneNode :=
  (load_ok _).trans (eq_ok_get _)

/-- The deletion of the node. -/
def deletedText : FrameText :=
  crlfText "21" ("\x7b\"event_type\":\"node_deleted\",\"data\":\x7b\"id\":"
    ++ "\"00000000000000000000000000000001\"\x7d\x7d") (by simp) (by simp)

theorem id_deletedText : deletedText.frame.id = some "21" := by decide +kernel

def deleted? : Except DecodeError Event → Option NodeId
  | .ok (.nodeDeleted id) => some id
  | _ => none

theorem eq_nodeDeleted {x : Except DecodeError Event} {id : NodeId} (h : deleted? x = some id) :
    x = .ok (.nodeDeleted id) := by
  unfold deleted? at h
  split at h
  · cases h
    rfl
  · cases h

/-- The node that is deleted, as it is decoded. -/
def theNode : NodeId :=
  (deleted? (Event.decode deletedText.frame.event deletedText.frame.data)).get (by decide +kernel)

theorem decode_deletedText : Event.decode deletedText.frame.event deletedText.frame.data =
    .ok (.nodeDeleted theNode) :=
  eq_nodeDeleted (Option.some_get _).symm

/-- The node is deleted after a number of requests. -/
def ledgerLog (k s : Nat) : List Frame := if s ≤ k then [] else [deletedText.frame]

/-- A backend with a map of which the node is deleted after a number of requests. The first stream
breaks off before anything arrives. -/
def ledger (k : Nat) : Backend Nat where
  reply s _ message :=
    match message.request with
    | .loadMap _ =>
      (if s ≤ k then .response ⟨200, [Utf8.encode editableMap], .closed⟩ else .dropped, s + 1)
    | .followMap .. =>
      let sent := if s = k ∧ message.request.cursor? = none then [deletedText.bytes] else []
      (.response (if s ≤ 2 then ⟨200, [], .broken⟩ else ⟨200, sent, .held⟩), s + 1)
    | _ => (.response ⟨204, [], .closed⟩, s + 1)

theorem state_ledger (k s time : Nat) (message : Message) :
    ((ledger k).reply s time message).2 = s + 1 := by
  unfold ledger
  simp only
  split <;> rfl

theorem mem_ledgerLog {k s : Nat} {f : Frame} (h : f ∈ ledgerLog k s) : f = deletedText.frame := by
  unfold ledgerLog at h
  split at h
  · cases h
  · exact List.mem_singleton.mp h

/-- What is due is the deletion if it comes while the stream is open, and otherwise nothing. -/
theorem due_ledgerLog {k s : Nat} {cursor : Option Cursor} {rest : List Frame}
    (h : Due (ledgerLog k s) (ledgerLog k (s + 1)) cursor rest) :
    rest = if s = k ∧ cursor = none then [deletedText.frame] else [] := by
  cases h with
  | afresh h =>
    unfold ledgerLog at h
    rcases Nat.lt_trichotomy s k with hs | rfl | hs
    · rw [if_pos (by omega), if_pos (by omega)] at h
      rw [if_neg (by omega)]
      exact h.symm
    · rw [if_neg (by omega), if_pos (by omega)] at h
      rw [if_pos ⟨rfl, rfl⟩]
      exact h.symm
    · rw [if_neg (by omega), if_neg (by omega)] at h
      rw [if_neg (by omega)]
      exact (List.self_eq_append_right.mp h)
  | @after earlier _ f h =>
    have hf : f = deletedText.frame := mem_ledgerLog (k := k) (s := s + 1) (by simp [h])
    rw [hf, id_deletedText, if_neg (by simp)]
    unfold ledgerLog at h
    split at h
    · simp at h
    · cases earlier with
      | nil => exact (List.cons.inj h).2.symm
      | cons g earlier => simp at h

theorem ledger_logs (map : MapId) (k : Nat) : Logs (ledger k) map oneNode (ledgerLog k) where
  grows s time message := by
    rw [state_ledger]
    unfold ledgerLog
    split
    · exact List.nil_prefix
    · rw [if_neg (by omega)]
  ids s f hf := by
    rw [mem_ledgerLog hf, id_deletedText]
    decide
  distinct s := by
    unfold ledgerLog
    split <;> simp
  sends s s' time message cursor r rest hrequest hreply hsuccess hstatus hdue := by
    have hstate := state_ledger k s time message
    rw [hreply] at hstate
    obtain rfl : s' = s + 1 := hstate
    have hrest := due_ledgerLog hdue
    simp only [ledger, hrequest] at hreply
    rw [hrequest] at hrest
    have hr := Reply.response.inj (Prod.mk.inj hreply).1
    generalize (Request.followMap map cursor).cursor? = asked at hrest hr
    have hencodes :
        Encodes (if s = k ∧ asked = none then [deletedText.bytes] else []).flatten rest := by
      rw [hrest]
      split
      · exact ⟨[deletedText], by simp, rfl⟩
      · exact ⟨[], rfl, rfl⟩
    refine ⟨_, hencodes, ?_⟩
    split at hr
    · rw [← hr]
      exact ⟨List.nil_prefix, nofun⟩
    · rw [← hr]
      exact ⟨List.prefix_rfl, fun _ => rfl⟩
  proceed s f hf := by
    rw [mem_ledgerLog hf]
    exact ⟨_, decode_deletedText, fun w => rfl⟩
  loads s time message detail hrequest hdetail := by
    unfold ledgerLog
    simp only [ledger, hrequest] at hdetail
    split
    · rename_i hs
      rw [if_pos hs, load_oneNode] at hdetail
      rw [Except.ok.inj hdetail, Workspace.logged_nil]
      exact .refl _
    · rename_i hs
      rw [if_neg hs] at hdetail
      cases hdetail

theorem not_agree_ledger {w : Workspace} {map : MapId} {k s : Nat}
    (hw : w.present theNode = true) (hs : k < s) :
    ¬w.Agree (.logged map oneNode (ledgerLog k s)) := by
  intro h
  have hevents : eventsIn (ledgerLog k s) = [.nodeDeleted theNode] := by
    simp [eventsIn, ledgerLog, Nat.not_le.mpr hs, Subscription.accept, decode_deletedText]
  have hpresent := congrFun h.present_eq theNode
  rw [hw, Workspace.logged, Workspace.present_run, hevents] at hpresent
  simp [Event.presentAfter] at hpresent

/-- The node is deleted between the load and the first stream, or while the first stream is open. As
both streams are opened without a cursor, the view is never told, and still shows the node. -/
theorem lost_between :
    let client : Client := ⟨"http://backend", none, 1000⟩
    let map : MapId := ⟨⟨List.replicate 32 0, rfl⟩⟩
    let loses (k : Nat) : Prop :=
      let now := reached client map ⟨.start (ledger k) 0, .empty⟩ 6
      Logs (ledger k) map oneNode (ledgerLog k) ∧ now.1.Listens [] .held ∧
        ¬now.1.workspace.Agree (.logged map oneNode (ledgerLog k now.2.wire.state))
    loses 1 ∧ loses 2 := by
  intro client map loses
  have hrun : ∀ k ∈ [1, 2],
      let now := reached client map ⟨.start (ledger k) 0, .empty⟩ 6
      now.1.Listens [] .held ∧ now.1.workspace.present theNode = true ∧
        k < now.2.wire.state := by
    decide +kernel
  have hloses (k : Nat) (hk : k ∈ [1, 2]) : loses k := by
    obtain ⟨hlistens, hpresent, hstate⟩ := hrun k hk
    exact ⟨ledger_logs map k, hlistens, not_agree_ledger hpresent hstate⟩
  exact ⟨hloses 1 (by decide), hloses 2 (by decide)⟩

/-- The node is deleted while the second stream is open. -/
theorem shown_of_logs_ledger :
    let client : Client := ⟨"http://backend", none, 1000⟩
    let map : MapId := ⟨⟨List.replicate 32 0, rfl⟩⟩
    let ctx : Context Nat := ⟨.start (ledger 3) 0, .empty⟩
    Logs ctx.wire.backend map oneNode (ledgerLog 3) ∧
      (reached client map ctx 6).1.Listens [] .held ∧
      (reached client map ctx 6).1.workspace.present theNode = false ∧
      ∃ m missed told later,
        ShowsLog client map ctx (ledgerLog 3) oneNode 6 [] .held m missed told later := by
  intro client map ctx
  have hrun : (reached client map ctx 6).1.Listens [] .held ∧
      (reached client map ctx 6).1.workspace.present theNode = false := by
    decide +kernel
  have hlogs : Logs ctx.wire.backend map oneNode (ledgerLog 3) := ledger_logs map 3
  exact ⟨hlogs, hrun.1, hrun.2, shown_of_logs hlogs hrun.1⟩

end View

end WormholeMap

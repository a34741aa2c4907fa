import WormholeMap.Proofs.EventStream.Reopening
import WormholeMap.Proofs.Subscription.ReadAhead
import Mathlib.Data.List.Induction
import Mathlib.Data.List.TakeWhile

/-!
The discipline of a subscription (`Subscription.disciplined`): its messages are what its connection
signals, up to a sync error or the end of the stream, and nothing after; its cursor is the one of
the last event handed out. So a subscription from that cursor goes on with the events that are left
of a log, whichever frames have been dropped.
-/

namespace WormholeMap

open EventStream Delivery

/-! ### Cursors of dropped frames -/

namespace Delivery

variable {a : List Delivery}

/-- Only events have cursors. -/
theorem lastCursor_events (cursor : Option Cursor) (a : List Delivery) :
    lastCursor cursor (a.filter isEvent) = lastCursor cursor a := by
  have hcursors : (a.filter isEvent).filterMap cursor? = a.filterMap cursor? := by
    rw [List.filterMap_filter]
    refine List.filterMap_congr fun d _ => ?_
    cases d <;> rfl
  rw [lastCursor, hcursors, lastCursor]

theorem upToLast_events (h : upToLast a = a) : upToLast (a.filter isEvent) = a.filter isEvent := by
  induction a with
  | nil => rfl
  | cons d a ih =>
    rw [upToLast] at h
    cases hd : d.isLast with
    | true =>
      rw [if_pos hd, List.cons.injEq] at h
      rw [← h.2]
      cases he : d.isEvent <;> simp [he, upToLast]
    | false =>
      rw [hd, if_neg Bool.false_ne_true, List.cons.injEq] at h
      cases he : d.isEvent
      · simpa [he] using ih h.2
      · simpa [he, upToLast, hd] using ih h.2

end Delivery

/-- The cursor after the events among frames is the one after some of the frames, and what follows
these is dropped. -/
theorem lastCursor_decoded (resume : Option Cursor) {frames : List Frame}
    (hid : ∀ f ∈ frames, f.id ≠ none) :
    ∃ kept dropped, frames = kept ++ dropped ∧ decoded dropped = [] ∧
      lastCursor resume (decoded frames) = cursorAfter resume kept := by
  induction frames using List.reverseRecOn with
  | nil => exact ⟨[], [], rfl, rfl, rfl⟩
  | append_singleton frames f ih =>
    obtain ⟨kept, dropped, hframes, hdropped, hcursor⟩ := ih fun f hf => hid f (by simp [hf])
    cases hf : Event.decode f.event f.data with
    | error _ =>
      have hnone : decoded [f] = [] := by simp [decoded, Signal.message?, hf]
      refine ⟨kept, dropped ++ [f], by rw [hframes, List.append_assoc], ?_, ?_⟩
      · rw [decoded_append, hdropped, hnone, List.append_nil]
      · rw [decoded_append, hnone, List.append_nil, hcursor]
    | ok e =>
      have hsome : decoded [f] = [.event f.id e] := by simp [decoded, Signal.message?, hf]
      refine ⟨frames ++ [f], [], (List.append_nil _).symm, rfl, ?_⟩
      rw [decoded_append, hsome, lastCursor_append, cursorAfter_concat]
      obtain ⟨id, hf⟩ := Option.ne_none_iff_exists'.mp (hid f (by simp))
      rw [hf]
      rfl

theorem EventStream.Signal.eq_closed {signal : Signal Frame}
    (h : signal.message? = some .closed) : signal = .closed := by
  cases signal with
  | closed => rfl
  | arrived f =>
    rw [Signal.message?] at h
    split at h
    · cases h
    · cases h
  | _ => cases h

/-! ### Subscriptions -/

namespace Subscription

/-- How a subscription that is opened anew goes on with the events that are left of a log: it hands
them out in order, and all of them once a connection sends all that is asked for. -/
structure Continues (client : Client) (map : MapId) (resume cursor : Option Cursor)
    (log : List Frame) (left : List Delivery) (ctx : Context σ) : Prop where
  events_prefix : ∀ n, ((start client map cursor).polled ctx n).events <+: upToLast left
  whole : ∀ n before call after,
    (start client map cursor).connection.calls n ctx = before ++ call :: after →
    call.signal = .opened → ∀ e ∈ call.exchanges, ∀ response frames,
    e.reply = .response response → Owed log resume e.message.request.cursor? frames →
    Encodes response.chunks.flatten frames → frames.length ≤ after.length →
    ∀ m, n ≤ m → ((start client map cursor).polled ctx m).events = upToLast left

/-- What a subscription hands out to calls one after another: the messages that its connection
signals, up to a last one, and nothing after that one or once it is closed. -/
structure Disciplined (s : Subscription) (ctx : Context σ) : Prop where
  messages : ∀ n, ∃ k,
    (s.polled ctx n).messages = upToLast (messagesOf (s.connection.calls k ctx)) ∧
      (s.polled ctx n).context = (s.connection.afterCalls k ctx).2
  complete : ∀ n, upToLast (messagesOf (s.connection.calls n ctx)) <+: (s.polled ctx n).messages
  cursor : ∀ n, (s.polled ctx n).subscription.cursor = lastCursor s.cursor (s.polled ctx n).messages
  ended : ∀ n, (∃ d ∈ (s.polled ctx n).messages, d.isLast) → ∀ m, s.polled ctx (n + m) =
    { s.polled ctx n with answers := (s.polled ctx n).answers ++ List.replicate m none }
  closed : ∀ n m, (s.polled ctx n).subscription.close.polled (s.polled ctx n).context m =
    ⟨List.replicate m none, (s.polled ctx n).subscription.close, (s.polled ctx n).context⟩

section

variable {s : Subscription} {ctx : Context σ} {p : Polled σ} {n k : Nat}

theorem Follows.events_eq (h : Follows s ctx n p k) :
    p.events = decoded (framesIn (s.connection.calls k ctx)) := by
  rw [Polled.events, h.messages_eq, events_messagesOf]

/-- Once calls of the connection have handed out frames, calls for the next delivery have come to a
sync error or to the end of these frames. -/
theorem Follows.over_or_whole {frames : List Frame} {m : Nat} (h : Follows s ctx n p k)
    (hm : m ≤ n) (hframes : framesIn (s.connection.calls m ctx) = frames)
    (hbegun : framesIn (s.connection.calls k ctx) <+: frames) :
    p.events.any isLast = true ∨ framesIn (s.connection.calls k ctx) = frames := by
  have hle (hk : m ≤ k) : framesIn (s.connection.calls k ctx) = frames := by
    obtain ⟨more, hmore⟩ := s.connection.calls_prefix ctx hk
    rw [← hmore, framesIn_append, hframes] at hbegun ⊢
    exact hbegun.eq_of_length_le (List.prefix_append _ _).length_le
  rcases h.reached with hended | hn
  · rw [h.ended_eq] at hended
    obtain ⟨d, hd, hlast⟩ := List.any_eq_true.mp hended
    cases d with
    | event cursor e => exact .inl (List.any_eq_true.mpr ⟨_, List.mem_filter.mpr ⟨hd, rfl⟩, hlast⟩)
    | closed =>
      right
      rw [h.messages_eq] at hd
      obtain ⟨call, hcall, hsignal⟩ := List.mem_filterMap.mp hd
      rcases Nat.le_total m k with hk | hk
      · exact hle hk
      · rw [← hframes, Connection.framesIn_closed hcall (Signal.eq_closed hsignal) hk]
    | _ => cases hlast
  · exact .inr (hle (hm.trans hn))

theorem Follows.upToLast_events (h : Follows s ctx n p k) : upToLast p.events = p.events :=
  Delivery.upToLast_events h.upToLast_eq

end

variable {client : Client} {map : MapId} {resume : Option Cursor} {log kept rest : List Frame}
  {ctx : Context σ}

/-- A subscription from the cursor after frames of a log goes on with the events among the rest. -/
theorem continues (hid : ∀ f ∈ log, f.id ≠ none ∧ f.id ≠ some "" ∧ f.id ≠ resume)
    (hnodup : (log.map Frame.id).Nodup) (hserves : Serves ctx.wire.backend map resume log)
    (hlog : log = kept ++ rest) :
    Continues client map resume (cursorAfter resume kept) log (decoded rest) ctx := by
  have hid' : ∀ f ∈ log, f.id ≠ none ∧ f.id ≠ some "" := fun f hf => ⟨(hid f hf).1, (hid f hf).2.1⟩
  have hstart : InStep client map resume log kept
      (start client map (cursorAfter resume kept)).connection :=
    restart_inStep ⟨rest, hlog.symm⟩
  have hbegun (n : Nat) : framesIn
      ((start client map (cursorAfter resume kept)).connection.calls n ctx) <+: rest := by
    have hframes := (hstart.afterCalls hid' hserves rfl n).1.synced.arrived_prefix
    rw [hlog, List.append_assoc, List.prefix_append_right_inj] at hframes
    exact (List.prefix_append _ _).trans hframes
  refine ⟨fun n => ?_, ?_⟩
  · obtain ⟨k, hk⟩ := follows (s := start client map (cursorAfter resume kept)) rfl ctx n
    rw [← hk.upToLast_events, hk.events_eq]
    exact upToLast_mono (decoded_mono (hbegun k))
  · intro n before call after hsplit hopened e he r frames hr howed hwhole hn m hm
    have hall := hstart.calls_owed hid hnodup hserves rfl hsplit hopened he hr howed hwhole hn
    rw [hlog, List.append_cancel_left_eq] at hall
    obtain ⟨k, hk⟩ := follows (s := start client map (cursorAfter resume kept)) rfl ctx m
    rcases hk.over_or_whole hm hall (hbegun k) with hlast | hwhole
    · obtain ⟨more, hmore⟩ := decoded_mono (hbegun k)
      rw [← hk.events_eq] at hmore
      rw [← hmore, upToLast_append_last hlast, hk.upToLast_events]
    · rw [← hk.upToLast_events, hk.events_eq, hwhole]

theorem Disciplined.of_open {s : Subscription} (h : s.ended = false) (ctx : Context σ) :
    Disciplined s ctx where
  messages n := by
    obtain ⟨k, hk⟩ := follows h ctx n
    exact ⟨k, hk.messages_eq_upToLast, congrArg Prod.snd hk.left_eq⟩
  complete n := by
    obtain ⟨k, hk⟩ := follows h ctx n
    exact hk.upToLast_prefix
  cursor n := by
    obtain ⟨k, hk⟩ := follows h ctx n
    exact hk.cursor_eq
  ended n hlast := by
    obtain ⟨k, hk⟩ := follows h ctx n
    refine polled_ended ?_
    rw [hk.ended_eq]
    exact List.any_eq_true.mpr hlast
  closed n := close_polled _ _

/-- A subscription hands out what its connection signals, in order: each frame that is an event, up
to a sync error, which is one whatever its text, or to the end of the stream, and then it makes no
further request. Read ahead, it hands out no other. From its cursor, that of the last event handed
out, a subscription opened anew goes on with the events of a log that are left. -/
theorem disciplined (client : Client) (map : MapId) (resume : Option Cursor) (ctx : Context σ) :
    Disciplined (start client map resume) ctx ∧
    (∀ f : Frame, Event.resolveName f.event (Json.parseText? f.data) = "sync_error" →
      ∃ message, (Signal.arrived f).message? = some (.event f.id (.syncError message))) ∧
    (∀ turns : List ReadAhead.Turn,
      let r := (ReadAhead.start client map resume ctx).run turns
      let p := (start client map resume).polled ctx (turns.count .take)
      r.taken = p.answers ∧ r.cursor = p.subscription.cursor ∧
        (start client map resume).polled ctx (r.taken.length + r.waiting.length) =
          ⟨r.taken ++ r.waiting, r.source, r.context⟩ ∧
        ∀ more : List ReadAhead.Turn, r.close.run more = { r.close with
          taken := r.taken ++ List.replicate (more.count .take) none }) ∧
    ∀ log : List Frame, (∀ f ∈ log, f.id ≠ none ∧ f.id ≠ some "" ∧ f.id ≠ resume) →
      (log.map Frame.id).Nodup → Serves ctx.wire.backend map resume log → ∀ n,
      let p := (start client map resume).polled ctx n
      ∃ left, decoded log = p.events ++ left ∧ ∀ ctx' : Context σ,
        Serves ctx'.wire.backend map resume log →
        Continues client map resume p.subscription.cursor log left ctx' := by
  refine ⟨.of_open rfl ctx, fun f hf => message?_syncError hf, fun turns => ?_, ?_⟩
  · obtain ⟨htaken, hcursor, hread⟩ := ReadAhead.run_eq client map resume ctx turns
    exact ⟨htaken, hcursor, hread, ReadAhead.close_run _⟩
  · intro log hid hnodup hserves n p
    have hid' : ∀ f ∈ log, f.id ≠ none ∧ f.id ≠ some "" :=
      fun f hf => ⟨(hid f hf).1, (hid f hf).2.1⟩
    obtain ⟨k, hk⟩ := follows (s := start client map resume) rfl ctx n
    have hstart : InStep client map resume log [] (start client map resume).connection :=
      start_inStep
    have hsent := (hstart.afterCalls hid' hserves rfl k).1.synced.arrived_prefix
    rw [List.nil_append] at hsent
    obtain ⟨rest, hlog⟩ := (List.prefix_append _ _).trans hsent
    have hidsent : ∀ f ∈ framesIn ((start client map resume).connection.calls k ctx),
        f.id ≠ none := fun f hf => (hid f (by simp [← hlog, hf])).1
    obtain ⟨kept, dropped, hframes, hdropped, hcursor⟩ := lastCursor_decoded resume hidsent
    have hp : p.subscription.cursor = cursorAfter resume kept := by
      rw [hk.cursor_eq, ← lastCursor_events, ← hcursor, ← hk.events_eq]
      rfl
    refine ⟨decoded (dropped ++ rest), ?_, ?_⟩
    · rw [hk.events_eq, ← hlog, hframes, decoded_append, decoded_append, decoded_append, hdropped,
        List.append_nil, List.nil_append]
    · intro ctx' hserves'
      rw [hp]
      refine continues hid hnodup hserves' ?_
      rw [← hlog, hframes, List.append_assoc]

/-- A connection that is made at once and sends all that is asked for. -/
theorem Continues.at_once {cursor : Option Cursor} {left : List Delivery} {frames : List Frame}
    (h : Continues client map resume cursor log left ctx)
    (hopened : ((start client map cursor).connection.call ctx).1.signal = .opened) {e : Exchange}
    (he : e ∈ ((start client map cursor).connection.call ctx).1.exchanges) {response : Response}
    (hreply : e.reply = .response response)
    (howed : Owed log resume e.message.request.cursor? frames)
    (hwhole : Encodes response.chunks.flatten frames) {n : Nat} (hn : frames.length < n) :
    ((start client map cursor).polled ctx n).events = upToLast left := by
  refine h.whole (frames.length + 1) [] _ _ (Connection.calls_succ _ ctx _) hopened e he response
    frames hreply howed hwhole ?_ n hn
  rw [Connection.length_calls]

/-! ### A backend that replays -/

/-- The frames after the one with a cursor as its id, or all if there is none. -/
def textsAfter (texts : List FrameText) (cursor : Option Cursor) : List FrameText :=
  match texts.dropWhile (·.frame.id ≠ cursor) with
  | [] => texts
  | _ :: rest => rest

/-- A backend that sends the frames asked for, and then no more. -/
def replaying (texts : List FrameText) : Backend Unit where
  reply s _ message :=
    let sent := textsAfter texts message.request.cursor?
    (.response ⟨200, [sent.flatMap FrameText.bytes], .held⟩, s)

theorem replaying_serves {texts : List FrameText} (map : MapId)
    (hid : ∀ t ∈ texts, t.frame.id ≠ none ∧ t.frame.id ≠ resume)
    (hnodup : (texts.map (·.frame.id)).Nodup) :
    Serves (replaying texts) map resume (texts.map FrameText.frame) := by
  intro s time message cursor r rest _ hr _ howed
  simp only [replaying, Reply.response.injEq] at hr
  refine ⟨r.chunks.flatten, ⟨textsAfter texts message.request.cursor?, by simp [← hr], ?_⟩,
    List.prefix_rfl⟩
  generalize message.request.cursor? = asked at howed
  rcases howed.cases_eq with ⟨hbefore, rfl⟩ | ⟨earlier, f, hlog, rfl⟩
  · have hdrop : texts.dropWhile (·.frame.id ≠ asked) = [] := by
      refine List.dropWhile_eq_nil_iff.mpr fun t ht => ?_
      rcases hbefore with rfl | rfl
      · simpa using (hid t ht).1
      · simpa using (hid t ht).2
    rw [textsAfter, hdrop]
  · obtain ⟨before, after, rfl, -, hafter⟩ := List.map_eq_append_iff.mp hlog
    obtain ⟨t, texts, rfl, rfl, rfl⟩ := List.map_eq_cons_iff.mp hafter
    have hne : ∀ a ∈ before, decide (a.frame.id ≠ t.frame.id) = true := by
      rw [List.map_append, List.nodup_append] at hnodup
      intro a ha
      exact decide_eq_true (hnodup.2.2 _ (List.mem_map_of_mem ha) _ (by simp))
    rw [textsAfter, List.dropWhile_append_of_pos hne]
    simp

/-- An event, a frame that is none, a sync error whose text is no record, and an event after it. -/
def mixedTexts : List FrameText :=
  [crlfText "11" "\x7b\"event_type\":\"signature_created\"\x7d" (by simp) (by simp),
    crlfText "12" "signature_created" (by simp) (by simp),
    crlfText "13" "\x7b\"event_type\":\"sync_error\",\"data\":0\x7d" (by simp) (by simp),
    crlfText "14" "\x7b\"event_type\":\"map_deleted\"\x7d" (by simp) (by simp)]

def mixedFrames : List Frame :=
  [⟨some "11", "message", "\x7b\"event_type\":\"signature_created\"\x7d"⟩,
    ⟨some "12", "message", "signature_created"⟩,
    ⟨some "13", "message", "\x7b\"event_type\":\"sync_error\",\"data\":0\x7d"⟩,
    ⟨some "14", "message", "\x7b\"event_type\":\"map_deleted\"\x7d"⟩]

theorem frame_mixedTexts : mixedTexts.map FrameText.frame = mixedFrames := by
  decide +kernel

theorem disciplined_replaying :
    let client : Client := ⟨"http://backend", none, 1000⟩
    let map : MapId := ⟨⟨List.replicate 32 0, rfl⟩⟩
    let ctx : Context Unit := ⟨.start (replaying mixedTexts) (), .empty⟩
    let first := (start client map none).polled ctx 2
    (∀ f ∈ mixedFrames, f.id ≠ none ∧ f.id ≠ some "" ∧ f.id ≠ none) ∧
      (mixedFrames.map Frame.id).Nodup ∧ Serves ctx.wire.backend map none mixedFrames ∧
      first.subscription.cursor = some "11" ∧ ∃ left, left.length = 2 ∧
        decoded mixedFrames = first.events ++ left ∧
        ((start client map first.subscription.cursor).polled ctx 4).events = upToLast left := by
  intro client map ctx
  have hrun : let first := (start client map none).polled ctx 2
      (∀ f ∈ mixedFrames, f.id ≠ none ∧ f.id ≠ some "" ∧ f.id ≠ none) ∧
      (mixedFrames.map Frame.id).Nodup ∧ first.subscription.cursor = some "11" ∧
      first.events.length = 1 ∧ (decoded mixedFrames).length = 3 ∧
      let call := ((start client map first.subscription.cursor).connection.call ctx).1
      call.signal = .opened ∧ ∃ e ∈ call.exchanges, e.message.request.cursor? = some "11" ∧
        e.reply = .response ⟨200, [mixedTexts.tail.flatMap FrameText.bytes], .held⟩ := by
    decide +kernel
  obtain ⟨hid, hnodup, hcursor, hfirst, hall, hopened, e, he, hasked, hreply⟩ := hrun
  have hserves : Serves ctx.wire.backend map none mixedFrames := by
    rw [← frame_mixedTexts] at hid hnodup ⊢
    rw [List.map_map] at hnodup
    refine replaying_serves map (fun t ht => ?_) hnodup
    obtain ⟨hnone, -, hresume⟩ := hid _ (List.mem_map_of_mem ht)
    exact ⟨hnone, hresume⟩
  obtain ⟨-, -, -, hreopened⟩ := disciplined client map none ctx
  obtain ⟨left, hleft, hcontinues⟩ := hreopened mixedFrames hid hnodup hserves 2
  refine ⟨hid, hnodup, hserves, hcursor, left, ?_, hleft, ?_⟩
  · have hlength := congrArg List.length hleft
    rw [hall, List.length_append, hfirst] at hlength
    omega
  · have howed : Owed mixedFrames none e.message.request.cursor? mixedFrames.tail := by
      rw [hasked]
      exact Owed.after (f := ⟨some "11", "message", "\x7b\"event_type\":\"signature_created\"\x7d"⟩)
        (show mixedFrames = [] ++ _ :: mixedFrames.tail from rfl)
    have hwhole : Encodes [mixedTexts.tail.flatMap FrameText.bytes].flatten mixedFrames.tail := by
      refine ⟨mixedTexts.tail, by simp, ?_⟩
      rw [← frame_mixedTexts, List.map_tail]
    exact (hcontinues ctx hserves).at_once hopened he hreply howed hwhole (by decide)

end Subscription

end WormholeMap

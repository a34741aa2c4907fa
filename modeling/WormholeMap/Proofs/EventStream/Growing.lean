import WormholeMap.Proofs.EventStream.Lifecycle

/-!
Following a log that grows. A request without a cursor is sent the frames that are logged after it
has been accepted, and one with a cursor those after it. So what calls hand out are the first of the
frames logged since a connection was last opened without a cursor (`Tracks`), and what was logged
before that never arrives. Each call keeps this (`Tracks.call`).
-/

namespace WormholeMap

/-- The exchange opens a connection to follow a map without a cursor. -/
def Exchange.OpensAfresh (client : Client) (map : MapId) (e : Exchange) : Prop :=
  e.message = client.message (.followMap map none) ∧
    ∃ r, e.reply = .response r ∧ r.isSuccess ∧ r.status ≠ 204

namespace EventStream

/-! ### Logs -/

/-- The frames due to a request, when some frames are logged as it is accepted and others follow:
those others if there is no cursor, and otherwise those after the frame whose id the cursor is. -/
inductive Due (before now : List Frame) : Option Cursor → List Frame → Prop
  | afresh {rest : List Frame} (h : now = before ++ rest) : Due before now none rest
  | after {earlier rest : List Frame} {f : Frame} (h : now = earlier ++ f :: rest) :
    Due before now f.id rest

/-- A backend that adds frames to a log and sends those due to a request, at once. The log of a state
is that at the time when the next message arrives. A connection may break off after any byte; on one
that stays open all frames arrive that are logged while it does. -/
structure Appends (backend : Backend σ) (map : MapId) (log : σ → List Frame) : Prop where
  grows : ∀ s time message, log s <+: log (backend.reply s time message).2
  ids : ∀ s, ∀ f ∈ log s, f.id ≠ none ∧ f.id ≠ some ""
  distinct : ∀ s, ((log s).map Frame.id).Nodup
  sends : ∀ s s' time message cursor r rest, message.request = .followMap map cursor →
    backend.reply s time message = (.response r, s') → r.isSuccess → r.status ≠ 204 →
    Due (log s) (log s') message.request.cursor? rest →
    ∃ bytes, Encodes bytes rest ∧ r.chunks.flatten <+: bytes ∧
      (r.ending = .held → r.chunks.flatten = bytes)

section

variable {backend : Backend σ} {client : Client} {map : MapId} {log : σ → List Frame}
  {w w' : Wire σ} {e : Exchange} {before since sent : List Frame} {phase : Phase} {c : Connection}
  {ctx : Context σ}

theorem Appends.grown (h : Appends backend map log) (hbackend : w.backend = backend)
    (hsent : w.Sent e w') : log w.state <+: log w'.state := by
  rcases hsent.answer with hnone | hreply
  · exact (Prod.mk.inj hnone).2 ▸ List.prefix_rfl
  · have hgrows := h.grows w.state w.clock e.message
    rw [← hbackend, ← hreply] at hgrows
    exact hgrows

/-! ### Connections to a log -/

/-- A connection that hands out a log from its beginning on: some frames have been handed out, and
those to come are the next ones. If it stays open they are all that are left. -/
structure Tracks (client : Client) (map : MapId) (since sent : List Frame) (phase : Phase)
    (c : Connection) : Prop where
  stands : ∃ delay, Stands client map phase delay (cursorAfter none (sent ++ phase.frames)) c
  ahead : sent ++ phase.frames <+: since
  held : ∀ frames, phase = .opened frames .held → sent ++ frames = since

/-- An open connection on which nothing waits is to hand out what its chunks hold. -/
theorem Tracks.reading (h : Tracks client map since sent phase c) (hpending : c.pending = [])
    {chunks : List (List UInt8)} {ending : Ending} (hstage : c.stage = .reading chunks ending) :
    phase = .opened (framesOf (c.decoder.feed chunks.flatten).2) ending := by
  obtain ⟨delay, hstands⟩ := h.stands
  have hfits := hstands.fits
  have hframes := hstands.frames
  rw [hstage] at hfits hframes
  cases phase with
  | due wait =>
    obtain ⟨delayed, hdue, -⟩ := hfits
    cases hdue
  | finished => cases hfits
  | opened frames ending' =>
    obtain ⟨chunks', hchunks⟩ := hfits
    obtain ⟨-, rfl⟩ := Stage.reading.inj hchunks
    rw [hpending] at hframes
    exact congrArg (Phase.opened · ending) hframes.symm

/-- No connection has been opened, so nothing has arrived. -/
def Idle (sent : List Frame) (phase : Phase) : Prop :=
  sent = [] ∧ ∀ frames ending, phase ≠ .opened frames ending

theorem Tracks.of_unopened {delay : Nat}
    (hstands : Stands client map phase delay (cursorAfter none sent) c)
    (hphase : ∀ frames ending, phase ≠ .opened frames ending) (hsent : sent <+: since) :
    Tracks client map since sent phase c := by
  have hframes : phase.frames = [] := by
    cases phase with
    | opened frames ending => exact absurd rfl (hphase frames ending)
    | _ => rfl
  refine ⟨⟨delay, ?_⟩, ?_, fun frames h => absurd h (hphase frames .held)⟩
  · rw [hframes, List.append_nil]
    exact hstands
  · rw [hframes, List.append_nil]
    exact hsent

theorem Tracks.start (client : Client) (map : MapId) :
    Tracks client map [] [] (.due 0) (.start client map none) :=
  .of_unopened (Stands.start client map none) nofun List.prefix_rfl

theorem idle_due (wait : Nat) : Idle [] (.due wait) := ⟨rfl, nofun⟩

/-- The frames due to a request from the cursor reached. Without a cursor the log begins anew. -/
theorem due_of_sent {now : List Frame} (hid : ∀ f ∈ since, f.id ≠ none)
    (hlog : before ++ since <+: now) (hsent : sent <+: since) :
    ∃ before' rest, before' ++ (sent ++ rest) = now ∧
      Due (before ++ since) now (cursorAfter none sent) rest ∧
      (before' = before ∧ cursorAfter none sent ≠ none ∨
        before' = before ++ since ∧ cursorAfter none sent = none) := by
  obtain ⟨growth, rfl⟩ := hlog
  rcases List.eq_nil_or_concat' sent with rfl | ⟨earlier, f, rfl⟩
  · exact ⟨before ++ since, growth, rfl, .afresh rfl, .inr ⟨rfl, rfl⟩⟩
  · obtain ⟨left, rfl⟩ := hsent
    have hnow : before ++ (earlier ++ [f] ++ left) ++ growth =
        (before ++ earlier) ++ f :: (left ++ growth) := by simp
    rw [cursorAfter_concat]
    exact ⟨before, left ++ growth, by simp, .after hnow, .inl ⟨rfl, hid f (by simp)⟩⟩

/-- A connection that is opened hands out what the log goes on with. -/
theorem Tracks.reopened {wait delay : Nat} {r : Response} {c' : Connection}
    (h : Tracks client map since sent (.due wait) c) (happends : Appends backend map log)
    (hbackend : w.backend = backend) (hlog : before ++ since = log w.state)
    (hmessage : e.message = client.message (.followMap map (cursorAfter none sent)))
    (hsent : w.Sent e w') (hr : e.reply = .response r) (hsuccess : r.isSuccess)
    (hstatus : r.status ≠ 204)
    (hopened :
      let decoded := (Decoder.start (cursorAfter none sent)).push r.chunks.flatten
      Stands client map (.opened (framesOf decoded.2) r.ending) delay decoded.1.lastId c') :
    ∃ before' since' frames, Tracks client map since' sent (.opened frames r.ending) c' ∧
      before' ++ since' = log w'.state ∧
      (before' = before ∧ cursorAfter none sent ≠ none ∨
        before' = log w.state ∧ cursorAfter none sent = none) := by
  have hbegun : sent <+: since := by simpa using h.ahead
  have hgrown := happends.grown hbackend hsent
  have hid : ∀ f ∈ since, f.id ≠ none ∧ f.id ≠ some "" := fun f hf =>
    happends.ids w.state f (hlog ▸ List.mem_append_right before hf)
  obtain ⟨before', rest, hnow, hdue, horigin⟩ :=
    due_of_sent (fun f hf => (hid f hf).1) (hlog ▸ hgrown) hbegun
  rw [hlog] at hdue horigin
  have hnone : (none : Option Cursor) ≠ some "" := nofun
  have hasked : e.message.request.cursor? = cursorAfter none sent := by
    rw [hmessage]
    exact cursor?_cursorAfter (fun f hf => (hid f hf).2) hnone hbegun map
  have hreply := hsent.of_response hr
  rw [hbackend] at hreply
  have hrequest : e.message.request = .followMap map (cursorAfter none sent) := by
    rw [hmessage, Client.message]
  obtain ⟨bytes, hencodes, hbody, hheld⟩ := happends.sends _ _ _ _ _ r rest hrequest hreply
    hsuccess hstatus (hasked ▸ hdue)
  have hrest : ∀ f ∈ rest, f.id ≠ none := by
    intro f hf
    exact (happends.ids w'.state f (by rw [← hnow]; simp [hf])).1
  obtain ⟨hframes, hlast⟩ := Decoder.decode_prefix hencodes hrest hbody (cursorAfter none sent)
  have hall (hending : r.ending = .held) :
      framesOf ((Decoder.start (cursorAfter none sent)).feed r.chunks.flatten).2 = rest := by
    rw [hheld hending]
    exact Decoder.decode_all hencodes hrest _
  simp only [Decoder.push_eq_feed (Decoder.clean_start _)] at hopened
  generalize (Decoder.start (cursorAfter none sent)).feed r.chunks.flatten = decoded at *
  refine ⟨before', sent ++ rest, framesOf decoded.2, ⟨⟨delay, ?_⟩, ?_, ?_⟩, hnow, horigin⟩
  · rw [cursorAfter_append, Phase.frames_opened, ← hlast]
    exact hopened
  · exact (List.prefix_append_right_inj sent).mpr hframes
  · intro frames hphase
    obtain ⟨rfl, hending⟩ := Phase.opened.inj hphase
    rw [hall hending]

/-- What a call leads to. The log goes on from where it was, or it begins anew, as a connection is
opened without a cursor. -/
inductive Leads (client : Client) (map : MapId) (log : σ → List Frame) (before sent : List Frame)
    (phase : Phase) (state : σ) (call : Call) (c' : Connection) (state' : σ) : Prop
  | on {since' : List Frame} {phase' : Phase}
    (htracks : Tracks client map since' (sent ++ call.signal.frames) phase' c')
    (hlog : before ++ since' = log state')
    (hresumes : ∀ e ∈ call.exchanges, ¬e.OpensAfresh client map)
    (hidle : Idle sent phase → Idle (sent ++ call.signal.frames) phase') :
    Leads client map log before sent phase state call c' state'
  | anew {since' : List Frame} {phase' : Phase}
    (htracks : Tracks client map since' (sent ++ call.signal.frames) phase' c')
    (hlog : log state ++ since' = log state')
    (hafresh : ∃ e ∈ call.exchanges, e.OpensAfresh client map) :
    Leads client map log before sent phase state call c' state'

/-- What is handed out has been logged. -/
theorem Leads.mem_log {state state' : σ} {call : Call} {c' : Connection}
    (h : Leads client map log before sent phase state call c' state') {f : Frame}
    (hf : f ∈ call.signal.frames) : f ∈ log state' := by
  have hmem {since' : List Frame} {phase' : Phase}
      (htracks : Tracks client map since' (sent ++ call.signal.frames) phase' c') : f ∈ since' :=
    htracks.ahead.subset (by simp [hf])
  cases h with
  | on htracks hlog hresumes hidle => exact hlog ▸ List.mem_append_right before (hmem htracks)
  | anew htracks hlog hafresh => exact hlog ▸ List.mem_append_right (log state) (hmem htracks)

/-- An open connection hands out the next frame to come, or loses nothing by its end. -/
theorem Tracks.call_opened {frames : List Frame} {ending : Ending}
    (h : Tracks client map since sent (.opened frames ending) c)
    (hlog : before ++ since = log ctx.wire.state) :
    ∃ signal c', c.call ctx = (⟨[], signal⟩, c', ctx) ∧
      Leads client map log before sent (.opened frames ending) ctx.wire.state ⟨[], signal⟩ c'
        ctx.wire.state := by
  obtain ⟨⟨delay, hstands⟩, hahead, hheld⟩ := h
  have hidle {sent' : List Frame} {phase' : Phase} (hidle : Idle sent (.opened frames ending)) :
      Idle sent' phase' := absurd rfl (hidle.2 frames ending)
  have hnone : ∀ e ∈ ([] : List Exchange), ¬e.OpensAfresh client map :=
    fun _ he => absurd he List.not_mem_nil
  cases frames with
  | cons f rest =>
    obtain ⟨c', hcall, hstands'⟩ := hstands.arrived ctx
    have hsent : sent ++ f :: rest = (sent ++ [f]) ++ rest := by simp
    rw [Phase.frames_opened, hsent] at hstands' hahead
    refine ⟨.arrived f, c', hcall, .on ⟨⟨delay, hstands'⟩, hahead, ?_⟩ hlog hnone hidle⟩
    rintro _ ⟨⟩
    rw [← hheld _ rfl, hsent]
    rfl
  | nil =>
    obtain ⟨c', hcall, hended⟩ := hstands.ended ctx
    rw [Phase.frames_opened, List.append_nil] at hended hahead
    refine ⟨endSignal ending, c', hcall, ?_⟩
    have hquiet : sent ++ (endSignal ending).frames = sent := by
      cases ending <;> exact List.append_nil sent
    have htracks : Tracks client map since sent (.afterEnd delay ending) c' := by
      cases ending with
      | closed => exact .of_unopened hended nofun hahead
      | broken => exact .of_unopened hended nofun hahead
      | held =>
        rw [← List.append_nil sent] at hended hahead
        exact ⟨⟨delay, hended⟩, hahead, hheld⟩
    exact .on (hquiet.symm ▸ htracks) hlog hnone hidle

/-- A connection that is not opened leaves the log where it was, with what has been added to it. -/
theorem Leads.of_unopened {phase' : Phase} {delay : Nat} {signal : Signal Frame} {c' : Connection}
    (hstands : Stands client map phase' delay (cursorAfter none sent) c')
    (hphase : ∀ frames ending, phase' ≠ .opened frames ending) (hsent : sent <+: since)
    (hlog : before ++ since = log w.state) (hgrown : log w.state <+: log w'.state)
    (hsignal : signal.frames = []) (hresumes : ¬e.OpensAfresh client map) :
    Leads client map log before sent phase w.state ⟨[e], signal⟩ c' w'.state := by
  obtain ⟨growth, hgrowth⟩ := hgrown
  have htracks : Tracks client map (since ++ growth) sent phase' c' :=
    .of_unopened hstands hphase (hsent.trans (List.prefix_append since growth))
  have hquiet : sent ++ signal.frames = sent := by rw [hsignal, List.append_nil]
  refine .on (hquiet.symm ▸ htracks) ?_ ?_ fun hidle => ?_
  · rw [← List.append_assoc, hlog, hgrowth]
  · intro e' he
    obtain rfl := List.mem_singleton.mp he
    exact hresumes
  · rw [hquiet]
    exact ⟨hidle.1, hphase⟩

/-- A connection that is due asks for what the log goes on with. -/
theorem Tracks.call_due {wait : Nat} (h : Tracks client map since sent (.due wait) c)
    (happends : Appends backend map log) (hbackend : ctx.wire.backend = backend)
    (hlog : before ++ since = log ctx.wire.state) (hopen : (c.call ctx).1.signal ≠ .closed) :
    (c.call ctx).2.2.wire.backend = backend ∧
      Leads client map log before sent (.due wait) ctx.wire.state (c.call ctx).1 (c.call ctx).2.1
        (c.call ctx).2.2.wire.state := by
  obtain ⟨⟨delay, hstands⟩, hahead, -⟩ := id h
  rw [Phase.frames_due, List.append_nil] at hstands hahead
  obtain ⟨e, ctx', hcall, hmessage, hsent⟩ := hstands.asked ctx
  have hbackend' : (ctx.wire.wait wait).backend = backend := hbackend
  have hgrown := happends.grown hbackend' hsent
  rw [hcall] at hopen ⊢
  refine ⟨hsent.backend.trans hbackend, ?_⟩
  rcases hstands.accepted e.reply with ⟨hreply, hsignal, hlost⟩ | ⟨r, hreply, hafter⟩
  · refine .of_unopened hlost nofun hahead hlog hgrown (by rw [hsignal]; rfl) ?_
    rintro ⟨-, r, hr, -⟩
    rcases hreply with hreply | hreply <;> cases hreply.symm.trans hr
  have hr {r' : Response} (hr' : e.reply = .response r') : r' = r :=
    (Reply.response.inj (hreply.symm.trans hr')).symm
  rcases hafter with ⟨-, hsignal, -⟩ | ⟨hrefused, hsignal, hfinished⟩ |
    ⟨hsuccess, -, hsignal, hlost⟩ | ⟨hsuccess, hstatus, hsignal, hopened⟩
  · exact absurd hsignal hopen
  · refine .of_unopened hfinished nofun hahead hlog hgrown (by rw [hsignal]; rfl) ?_
    rintro ⟨-, r', hr', hsuccess, -⟩
    simp only [hr hr', Response.isSuccess, Bool.and_eq_true, decide_eq_true_eq] at hsuccess
    omega
  · refine .of_unopened hlost nofun hahead hlog hgrown (by rw [hsignal]; rfl) ?_
    rintro ⟨-, r', hr', hsuccess', -⟩
    rw [hr hr', hsuccess] at hsuccess'
    cases hsuccess'
  · obtain ⟨before', since', frames, htracks, hlog', horigin⟩ := h.reopened happends hbackend'
      hlog hmessage hsent hreply hsuccess hstatus hopened
    rw [hsignal]
    rw [← List.append_nil sent] at htracks
    rcases horigin with ⟨rfl, hcursor⟩ | ⟨rfl, hcursor⟩
    · refine .on htracks hlog' ?_ fun hidle => ?_
      · rintro e' he ⟨hmessage', -⟩
        obtain rfl := List.mem_singleton.mp he
        have hrequest := congrArg Message.request (hmessage.symm.trans hmessage')
        exact absurd (Request.followMap.inj hrequest).2 hcursor
      · rw [hidle.1] at hcursor
        exact absurd rfl hcursor
    · refine .anew htracks hlog' ⟨e, List.mem_singleton_self e, ?_, r, hreply, hsuccess, hstatus⟩
      rw [hmessage, hcursor]

/-- A call that does not end the connection hands out what comes next of the log. -/
theorem Tracks.call (h : Tracks client map since sent phase c) (happends : Appends backend map log)
    (hbackend : ctx.wire.backend = backend) (hlog : before ++ since = log ctx.wire.state)
    (hopen : (c.call ctx).1.signal ≠ .closed) :
    (c.call ctx).2.2.wire.backend = backend ∧
      Leads client map log before sent phase ctx.wire.state (c.call ctx).1 (c.call ctx).2.1
        (c.call ctx).2.2.wire.state := by
  cases phase with
  | finished =>
    obtain ⟨delay, hstands⟩ := h.stands
    rw [hstands.finished] at hopen
    exact absurd rfl hopen
  | opened frames ending =>
    obtain ⟨signal, c', hcall, hleads⟩ := h.call_opened hlog
    rw [hcall]
    exact ⟨hbackend, hleads⟩
  | due wait => exact h.call_due happends hbackend hlog hopen

end

end EventStream

end WormholeMap

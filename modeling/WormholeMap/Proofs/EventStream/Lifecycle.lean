import WormholeMap.Proofs.EventStream.Resume

/-!
The life of a connection that is called again and again. Each call is one step of a course
(`Course`): a request leaves when it is due, its answer opens the connection or not, the frames of
an open one come in order, and what fails is due again after the delay, unless the backend wants no
further request. The delay is the last one that a line of any body has asked for (`retriesIn`).
-/

namespace WormholeMap

/-- Where a request to follow a map goes: a cursor that is not empty is a parameter. -/
def Client.streamUrl (c : Client) (map : MapId) (cursor : Option Cursor) : Option Url :=
  let plain := Url.parse? (c.baseUrl ++ s!"/maps/{map}/events")
  match cursor with
  | none | some "" => plain
  | some id => plain.map (·.withParameter "last_event_id" id)

theorem Client.url_followMap (c : Client) (map : MapId) (cursor : Option Cursor) :
    (c.message (.followMap map cursor)).url = c.streamUrl map cursor := by
  unfold message streamUrl Request.cursor? Request.path cursorParameter
  cases cursor with
  | none => simp
  | some id =>
    by_cases hid : id = ""
    · simp [hid, Option.filter]
    · simp [hid, Option.filter]

namespace EventStream

/-! ### Delays that a body asks for -/

/-- The delay in milliseconds that a line asks for. -/
def retryOf? (line : List UInt8) : Option Nat :=
  let field := Block.splitField (Utf8.decodeChars line)
  if field.1 = "retry" then Whole.parse64? field.2 else none

/-- The delays that a body asks for, whether its blocks are finished or not. -/
def retriesIn (body : List UInt8) : List Nat := (endedLines [] body).filterMap retryOf?

theorem Block.retriesOf_dispatch (b : Block) : retriesOf b.dispatch.2 = [] := by
  unfold dispatch
  split <;> rfl

theorem Block.retriesOf_field (b : Block) (f : String × String) :
    retriesOf (b.field f).2 =
      (if f.1 = "retry" then Whole.parse64? f.2 else none).toList := by
  unfold field
  split
  · rfl
  · rfl
  · rfl
  · simp only [if_true]
    split
    · rename_i ms hms
      rw [hms]
      rfl
    · rename_i hnone
      rw [hnone]
      rfl
  · rename_i hretry
    have hname : f.1 ≠ "retry" := fun hname => hretry f.2 (by rw [← hname])
    rw [if_neg hname]
    rfl

/-- Only a line of its own asks for a delay. -/
theorem Block.retriesOf_endLine (b : Block) (line : List UInt8) :
    retriesOf (b.endLine (Utf8.decodeChars line)).2 = (retryOf? line).toList := by
  unfold retryOf? endLine
  split
  · rename_i hempty
    rw [hempty, b.retriesOf_dispatch]
    rfl
  · rename_i rest hcomment
    rw [hcomment]
    rfl
  · exact b.retriesOf_field _

theorem Block.retriesOf_endLines (b : Block) (lines : List (List UInt8)) :
    retriesOf (b.endLines (lines.map Utf8.decodeChars)).2 = lines.filterMap retryOf? := by
  induction lines generalizing b with
  | nil => rfl
  | cons line rest ih =>
    rw [List.map_cons, endLines, retriesOf_append, b.retriesOf_endLine, ih, List.filterMap_cons]
    cases retryOf? line with
    | none => rfl
    | some ms => rfl

theorem Decoder.retriesOf_feed (line : List UInt8) (block : Block) (body : List UInt8) :
    retriesOf (feed ⟨line, block, false⟩ body).2 = (endedLines line body).filterMap retryOf? := by
  rw [(feed_endedLines line body block).2, Block.retriesOf_endLines]

/-! ### Courses -/

/-- A request to follow a map, made at a time from a cursor. -/
structure Asked (client : Client) (map : MapId) (time : Nat) (cursor : Option Cursor)
    (e : Exchange) : Prop where
  time_eq : e.time = time
  request_eq : e.message.request = .followMap map cursor
  url_eq : e.message.url = client.streamUrl map cursor

/-- What a connection is about to do: to make a request after a wait, to hand out the frames of an
open body before it ends, or nothing more. -/
inductive Phase where
  | due (wait : Nat)
  | opened (frames : List Frame) (ending : Ending)
  | finished

/-- What calls come to, one after another, from a phase at a time, with the delay before a request
is made again and the cursor to make it from. The last number is the time at the end. -/
inductive Course (client : Client) (map : MapId) :
    Phase → Nat → Nat → Option Cursor → List Call → Nat → Prop
  | stopped {phase : Phase} {clock delay : Nat} {cursor : Option Cursor} :
    Course client map phase clock delay cursor [] clock
  | lost {wait clock delay last : Nat} {cursor : Option Cursor} {e : Exchange} {calls : List Call}
    (hasked : Asked client map (clock + wait) cursor e)
    (hreply : e.reply = .unsent ∨ e.reply = .dropped)
    (hrest : Course client map (.due delay) (clock + wait) delay cursor calls last) :
    Course client map (.due wait) clock delay cursor (⟨[e], .failed .request⟩ :: calls) last
  | failed {wait clock delay last : Nat} {cursor : Option Cursor} {e : Exchange} {r : Response}
    {calls : List Call} (hasked : Asked client map (clock + wait) cursor e)
    (hreply : e.reply = .response r) (hsuccess : r.isSuccess = false)
    (hclient : ¬(400 ≤ r.status ∧ r.status < 500))
    (hrest : Course client map (.due delay) (clock + wait) delay cursor calls last) :
    Course client map (.due wait) clock delay cursor
      (⟨[e], .failed (.status r.status)⟩ :: calls) last
  | closed {wait clock delay last : Nat} {cursor : Option Cursor} {e : Exchange} {r : Response}
    {calls : List Call} (hasked : Asked client map (clock + wait) cursor e)
    (hreply : e.reply = .response r) (hstatus : r.status = 204)
    (hrest : Course client map .finished (clock + wait) delay cursor calls last) :
    Course client map (.due wait) clock delay cursor (⟨[e], .closed⟩ :: calls) last
  | refused {wait clock delay last : Nat} {cursor : Option Cursor} {e : Exchange} {r : Response}
    {calls : List Call} (hasked : Asked client map (clock + wait) cursor e)
    (hreply : e.reply = .response r) (hclient : 400 ≤ r.status ∧ r.status < 500)
    (hrest : Course client map .finished (clock + wait) delay cursor calls last) :
    Course client map (.due wait) clock delay cursor
      (⟨[e], .failed (.status r.status)⟩ :: calls) last
  | opened {wait clock delay last : Nat} {cursor : Option Cursor} {e : Exchange} {r : Response}
    {calls : List Call} (hasked : Asked client map (clock + wait) cursor e)
    (hreply : e.reply = .response r) (hsuccess : r.isSuccess) (hstatus : r.status ≠ 204)
    (hrest :
      let body := r.chunks.flatten
      let decoded := (Decoder.start cursor).push body
      Course client map (.opened (framesOf decoded.2) r.ending) (clock + wait)
        (delayAfter delay (retriesIn body)) decoded.1.lastId calls last) :
    Course client map (.due wait) clock delay cursor (⟨[e], .opened⟩ :: calls) last
  | arrived {f : Frame} {frames : List Frame} {ending : Ending} {clock delay last : Nat}
    {cursor : Option Cursor} {calls : List Call}
    (hrest : Course client map (.opened frames ending) clock delay cursor calls last) :
    Course client map (.opened (f :: frames) ending) clock delay cursor
      (⟨[], .arrived f⟩ :: calls) last
  | ended {clock delay last : Nat} {cursor : Option Cursor} {calls : List Call}
    (hrest : Course client map (.due delay) clock delay cursor calls last) :
    Course client map (.opened [] .closed) clock delay cursor (⟨[], .failed .ended⟩ :: calls) last
  | broken {clock delay last : Nat} {cursor : Option Cursor} {calls : List Call}
    (hrest : Course client map (.due delay) clock delay cursor calls last) :
    Course client map (.opened [] .broken) clock delay cursor
      (⟨[], .failed .request⟩ :: calls) last
  | silent {clock delay last : Nat} {cursor : Option Cursor} {calls : List Call}
    (hrest : Course client map (.opened [] .held) clock delay cursor calls last) :
    Course client map (.opened [] .held) clock delay cursor (⟨[], .silent⟩ :: calls) last
  | finished {clock delay last : Nat} {cursor : Option Cursor} {calls : List Call}
    (hrest : Course client map .finished clock delay cursor calls last) :
    Course client map .finished clock delay cursor (⟨[], .closed⟩ :: calls) last

/-! ### Connections on their course -/

def Phase.frames : Phase → List Frame
  | opened frames _ => frames
  | _ => []

@[simp] theorem Phase.frames_due (wait : Nat) : (due wait).frames = [] := rfl

@[simp] theorem Phase.frames_opened (frames : List Frame) (ending : Ending) :
    (opened frames ending).frames = frames := rfl

/-- The stage of a connection in a phase. -/
def Phase.Fits (delay : Nat) (stage : Stage) : Phase → Prop
  | due wait => ∃ delayed, stage = .connecting delayed ∧ wait = if delayed then delay else 0
  | opened _ ending => ∃ chunks, stage = .reading chunks ending
  | finished => stage = .finished

/-- A connection in a phase, with the frames, the delay and the cursor that it comes to when all
that is to come on it has arrived. -/
structure Stands (client : Client) (map : MapId) (phase : Phase) (delay : Nat)
    (cursor : Option Cursor) (c : Connection) : Prop where
  client_eq : c.client = client
  map_eq : c.map = map
  clean : c.decoder.Clean
  fits : phase.Fits c.delay c.stage
  frames : c.pending ++ framesOf (c.decoder.feed c.stage.toCome.flatten).2 = phase.frames
  delay_eq : delayAfter c.delay (retriesOf (c.decoder.feed c.stage.toCome.flatten).2) = delay
  cursor_eq : (c.decoder.feed c.stage.toCome.flatten).1.lastId = cursor

section

variable {client : Client} {map : MapId} {phase : Phase} {delay : Nat} {cursor : Option Cursor}
  {c : Connection}

/-- A connection on which nothing is to come. -/
theorem Stands.of_quiet (hclient : c.client = client) (hmap : c.map = map)
    (hclean : c.decoder.Clean) (hpending : c.pending = []) (hcome : c.stage.toCome = [])
    (hfits : phase.Fits delay c.stage) (hphase : phase.frames = []) (hdelay : c.delay = delay)
    (hcursor : c.cursor = cursor) : Stands client map phase delay cursor c where
  client_eq := hclient
  map_eq := hmap
  clean := hclean
  fits := by rw [hdelay]; exact hfits
  frames := by rw [hpending, hcome, hphase]; rfl
  delay_eq := by rw [hcome]; exact hdelay
  cursor_eq := by rw [hcome]; exact hcursor

/-- The phase after the end of a body, and the signal of it. -/
def Phase.afterEnd (delay : Nat) : Ending → Phase
  | .held => opened [] .held
  | _ => due delay

def endSignal : Ending → Signal Frame
  | .closed => .failed .ended
  | .broken => .failed .request
  | .held => .silent

/-- Reading hands out the first frame to come, or ends the body. -/
theorem Connection.read_stands (hclient : c.client = client) (hmap : c.map = map)
    (hclean : c.decoder.Clean) (chunks : List (List UInt8)) (ending : Ending) :
    let decoded := c.decoder.feed chunks.flatten
    let delay := delayAfter c.delay (retriesOf decoded.2)
    let after := c.read some ending chunks
    match framesOf decoded.2 with
    | [] => after.1 = endSignal ending ∧
      Stands client map (.afterEnd delay ending) delay decoded.1.lastId after.2
    | f :: rest => after.1 = .arrived f ∧
      Stands client map (.opened rest ending) delay decoded.1.lastId after.2 := by
  induction chunks generalizing c with
  | nil =>
    have hlost : Stands client map (.due c.delay) c.delay c.cursor
        { c with pending := [], stage := .connecting true } :=
      .of_quiet hclient hmap hclean rfl rfl ⟨true, rfl, rfl⟩ rfl rfl rfl
    have hheld : Stands client map (.opened [] .held) c.delay c.cursor
        { c with pending := [], stage := .reading [] .held } :=
      .of_quiet hclient hmap hclean rfl rfl ⟨[], rfl⟩ rfl rfl rfl
    cases ending with
    | closed => exact ⟨rfl, hlost⟩
    | broken => exact ⟨rfl, hlost⟩
    | held => exact ⟨rfl, hheld⟩
  | cons chunk chunks ih =>
    have hpush := Decoder.push_eq_feed hclean chunk
    have hnext : (c.decoder.push chunk).1.Clean := by
      rw [hpush]
      exact hclean.feed chunk
    simp only [List.flatten_cons, Decoder.feed_append, ← hpush, framesOf_append, retriesOf_append,
      delayAfter_append, read_cons]
    cases hframes : framesOf (c.decoder.push chunk).2 with
    | nil =>
      exact ih (c := { c with
        decoder := (c.decoder.push chunk).1
        delay := delayAfter c.delay (retriesOf (c.decoder.push chunk).2)
        pending := [] }) hclient hmap hnext
    | cons f more => exact ⟨rfl, hclient, hmap, hnext, ⟨chunks, rfl⟩, rfl, rfl, rfl⟩

theorem Stands.finished (h : Stands client map .finished delay cursor c) (ctx : Context σ) :
    c.call ctx = (⟨[], .closed⟩, c, ctx) :=
  Connection.call_finished (List.append_eq_nil_iff.mp h.frames).1 h.fits ctx

theorem Stands.arrived {f : Frame} {rest : List Frame} {ending : Ending}
    (h : Stands client map (.opened (f :: rest) ending) delay cursor c) (ctx : Context σ) :
    ∃ c', c.call ctx = (⟨[], .arrived f⟩, c', ctx) ∧
      Stands client map (.opened rest ending) delay cursor c' := by
  obtain ⟨hclient, hmap, hclean, ⟨chunks, hstage⟩, hframes, hdelay, hcursor⟩ := h
  cases hpending : c.pending with
  | cons g more =>
    rw [hpending] at hframes
    obtain ⟨rfl, hrest⟩ := List.cons.inj hframes
    refine ⟨_, Connection.call_pending hpending ctx, ?_⟩
    exact ⟨hclient, hmap, hclean, ⟨chunks, hstage⟩, hrest, hdelay, hcursor⟩
  | nil =>
    rw [hstage] at hframes hdelay hcursor
    rw [hpending] at hframes
    have hnext : framesOf (c.decoder.feed chunks.flatten).2 = f :: rest := hframes
    have hread := Connection.read_stands hclient hmap hclean chunks ending
    simp only [hnext] at hread
    obtain ⟨hsignal, hstands⟩ := hread
    refine ⟨(c.read some ending chunks).2, ?_, ?_⟩
    · rw [Connection.call_reading hpending hstage, hsignal]
    · rw [← hdelay, ← hcursor]
      exact hstands

theorem Stands.ended {ending : Ending}
    (h : Stands client map (.opened [] ending) delay cursor c) (ctx : Context σ) :
    ∃ c', c.call ctx = (⟨[], endSignal ending⟩, c', ctx) ∧
      Stands client map (.afterEnd delay ending) delay cursor c' := by
  obtain ⟨hclient, hmap, hclean, ⟨chunks, hstage⟩, hframes, hdelay, hcursor⟩ := h
  obtain ⟨hpending, hframes⟩ := List.append_eq_nil_iff.mp hframes
  rw [hstage] at hframes hdelay hcursor
  have hnone : framesOf (c.decoder.feed chunks.flatten).2 = [] := hframes
  have hread := Connection.read_stands hclient hmap hclean chunks ending
  simp only [hnone] at hread
  obtain ⟨hsignal, hstands⟩ := hread
  refine ⟨(c.read some ending chunks).2, ?_, ?_⟩
  · rw [Connection.call_reading hpending hstage, hsignal]
  · rw [← hdelay, ← hcursor]
    exact hstands

theorem Asked.of_sent {w w' : Wire σ} {wait : Nat} {e : Exchange}
    (hmessage : e.message = client.message (.followMap map cursor)) (h : (w.wait wait).Sent e w') :
    Asked client map (w.clock + wait) cursor e where
  time_eq := h.time_eq
  request_eq := by rw [hmessage, Client.message]
  url_eq := by rw [hmessage, Client.url_followMap]

/-- A connection that a request is due on sends it, and takes up the reply. -/
theorem Stands.asked {wait : Nat} (h : Stands client map (.due wait) delay cursor c)
    (ctx : Context σ) : ∃ e ctx',
      let after : Signal Frame × Connection := c.accepted e.reply
      c.call ctx = (⟨[e], after.1⟩, after.2, ctx') ∧
        e.message = client.message (.followMap map cursor) ∧
        (ctx.wire.wait wait).Sent e ctx'.wire := by
  obtain ⟨hclient, hmap, -, ⟨delayed, hstage, rfl⟩, hframes, -, hcursor⟩ := h
  have hpending : c.pending = [] := (List.append_eq_nil_iff.mp hframes).1
  have hlast : c.cursor = cursor := by
    rw [hstage] at hcursor
    exact hcursor
  obtain ⟨e, ctx', hcall, hmessage, hsent⟩ := Connection.call_connecting hpending hstage ctx
  rw [hclient, hmap, hlast] at hmessage
  exact ⟨e, ctx', hcall, hmessage, hsent⟩

/-- A connection that is opened has the whole body to come. -/
theorem Stands.reopened (hclient : c.client = client) (hmap : c.map = map)
    (hpending : c.pending = []) (hdelay : c.delay = delay) (hcursor : c.cursor = cursor)
    (r : Response) :
    let decoded := (Decoder.start cursor).push r.chunks.flatten
    Stands client map (.opened (framesOf decoded.2) r.ending)
      (delayAfter delay (retriesIn r.chunks.flatten)) decoded.1.lastId
      { c with decoder := c.decoder.reset, stage := .reading r.chunks r.ending } := by
  subst hdelay hcursor
  intro decoded
  have hclean := Decoder.clean_start c.cursor
  have hfeed : (Decoder.start c.cursor).feed r.chunks.flatten = decoded :=
    (Decoder.push_eq_feed hclean _).symm
  refine ⟨hclient, hmap, hclean, ⟨r.chunks, rfl⟩, ?_, ?_, ?_⟩
  · rw [hpending, ← hfeed]
    rfl
  · rw [retriesIn, ← Decoder.retriesOf_feed [] (.start c.cursor) r.chunks.flatten]
    rfl
  · rw [← hfeed]
    rfl

/-- What becomes of a connection that a request is due on when it takes up a reply. -/
theorem Stands.accepted {wait : Nat} (h : Stands client map (.due wait) delay cursor c)
    (reply : Reply) :
    let after : Signal Frame × Connection := c.accepted reply
    let lost := Stands client map (.due delay) delay cursor after.2
    let finished := Stands client map .finished delay cursor after.2
    ((reply = .unsent ∨ reply = .dropped) ∧ after.1 = .failed .request ∧ lost) ∨
      ∃ r, reply = .response r ∧
        ((r.status = 204 ∧ after.1 = .closed ∧ finished) ∨
          ((400 ≤ r.status ∧ r.status < 500) ∧ after.1 = .failed (.status r.status) ∧ finished) ∨
          (r.isSuccess = false ∧ ¬(400 ≤ r.status ∧ r.status < 500) ∧
            after.1 = .failed (.status r.status) ∧ lost) ∨
          (r.isSuccess ∧ r.status ≠ 204 ∧ after.1 = .opened ∧
            let decoded := (Decoder.start cursor).push r.chunks.flatten
            Stands client map (.opened (framesOf decoded.2) r.ending)
              (delayAfter delay (retriesIn r.chunks.flatten)) decoded.1.lastId after.2)) := by
  obtain ⟨hclient, hmap, hclean, ⟨delayed, hstage, -⟩, hframes, hdelay, hcursor⟩ := h
  have hpending : c.pending = [] := (List.append_eq_nil_iff.mp hframes).1
  rw [hstage] at hdelay hcursor
  have hdelay : c.delay = delay := hdelay
  have hcursor : c.cursor = cursor := hcursor
  have hlost : Stands client map (.due delay) delay cursor { c with stage := .connecting true } :=
    .of_quiet hclient hmap hclean hpending rfl ⟨true, rfl, rfl⟩ rfl hdelay hcursor
  have hfinished : Stands client map .finished delay cursor { c with stage := .finished } :=
    .of_quiet hclient hmap hclean hpending rfl rfl rfl hdelay hcursor
  cases reply with
  | unsent => exact .inl ⟨.inl rfl, rfl, hlost⟩
  | dropped => exact .inl ⟨.inr rfl, rfl, hlost⟩
  | response r =>
    refine .inr ⟨r, rfl, ?_⟩
    simp only [Connection.accepted]
    split
    · rename_i hstatus
      exact .inl ⟨hstatus, rfl, hfinished⟩
    split
    · rename_i hrefused
      exact .inr (.inl ⟨hrefused, rfl, hfinished⟩)
    split
    · rename_i hstatus _ hsuccess
      have hopened := Stands.reopened hclient hmap hpending hdelay hcursor r
      exact .inr (.inr (.inr ⟨hsuccess, hstatus, rfl, hopened⟩))
    · rename_i hserver hsuccess
      exact .inr (.inr (.inl ⟨Bool.not_eq_true _ ▸ hsuccess, hserver, rfl, hlost⟩))

/-- Calls of a connection in a phase run the course from there. -/
theorem Stands.course (h : Stands client map phase delay cursor c) (ctx : Context σ) (n : Nat) :
    Course client map phase ctx.wire.clock delay cursor (c.calls n ctx)
      (c.afterCalls n ctx).2.wire.clock := by
  induction n generalizing phase delay cursor c ctx with
  | zero => exact .stopped
  | succ n ih =>
    rw [Connection.calls_succ, Connection.afterCalls_succ]
    cases phase with
    | finished =>
      rw [h.finished]
      exact .finished (ih h ctx)
    | opened frames ending =>
      cases frames with
      | cons f rest =>
        obtain ⟨c', hcall, hstands⟩ := h.arrived ctx
        rw [hcall]
        exact .arrived (ih hstands ctx)
      | nil =>
        obtain ⟨c', hcall, hstands⟩ := h.ended ctx
        rw [hcall]
        cases ending with
        | closed => exact .ended (ih hstands ctx)
        | broken => exact .broken (ih hstands ctx)
        | held => exact .silent (ih hstands ctx)
    | due wait =>
      obtain ⟨e, ctx', hcall, hmessage, hsent⟩ := h.asked ctx
      have hasked := Asked.of_sent hmessage hsent
      have hclock : ctx'.wire.clock = ctx.wire.clock + wait := hsent.clock
      rw [hcall]
      rcases h.accepted e.reply with ⟨hreply, hsignal, hlost⟩ | ⟨r, hreply, hafter⟩
      · rw [hsignal]
        exact .lost hasked hreply (hclock ▸ ih hlost ctx')
      rcases hafter with ⟨hstatus, hsignal, hfinished⟩ | ⟨hrefused, hsignal, hfinished⟩ |
        ⟨hsuccess, hserver, hsignal, hlost⟩ | ⟨hsuccess, hstatus, hsignal, hopened⟩ <;>
        rw [hsignal]
      · exact .closed hasked hreply hstatus (hclock ▸ ih hfinished ctx')
      · exact .refused hasked hreply hrefused (hclock ▸ ih hfinished ctx')
      · exact .failed hasked hreply hsuccess hserver (hclock ▸ ih hlost ctx')
      · exact .opened hasked hreply hsuccess hstatus (hclock ▸ ih hopened ctx')

/-- A connection that is still to be made. -/
theorem Stands.start (client : Client) (map : MapId) (resume : Option Cursor) :
    Stands client map (.due 0) client.reconnectMs resume (.start client map resume) :=
  .of_quiet rfl rfl (Decoder.clean_start resume) rfl rfl ⟨false, rfl, rfl⟩ rfl rfl rfl

/-- Each call of a connection is a step of the course that starts with a request at once. -/
theorem calls_course (client : Client) (map : MapId) (resume : Option Cursor) (ctx : Context σ)
    (n : Nat) :
    let c := Connection.start client map resume
    Course client map (.due 0) ctx.wire.clock client.reconnectMs resume (c.calls n ctx)
      (c.afterCalls n ctx).2.wire.clock :=
  (Stands.start client map resume).course ctx n

end

end EventStream

end WormholeMap

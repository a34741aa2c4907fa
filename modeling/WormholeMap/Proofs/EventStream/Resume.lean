import WormholeMap.EventStream.Connection
import WormholeMap.Proofs.Client.Exchanges
import WormholeMap.Proofs.EventStream.Encoding

/-!
A connection that is made again whenever it is lost hands out each frame of a log once and in order.
The backend sends the frames after the cursor of a request, and any connection may break off after
any byte. What has arrived and what is still to come on the open connection stay in step with the
log (`Synced`): whichever beginning of it arrives, the frames are the next ones of the log, and the
cursor is the id of the last of them. Each call for the next signal keeps this, so a whole run does
(`calls_resume`).
-/

namespace WormholeMap

namespace EventStream

/-! ### Calls -/

def Signal.frames : Signal Frame → List Frame
  | .arrived f => [f]
  | _ => []

/-- A call for the next signal: the exchanges it makes, and the signal. -/
structure Call where
  exchanges : List Exchange
  signal : Signal Frame

def framesIn (calls : List Call) : List Frame := calls.flatMap (·.signal.frames)

@[simp] theorem framesIn_nil : framesIn [] = [] := rfl

@[simp] theorem framesIn_cons (call : Call) (calls : List Call) :
    framesIn (call :: calls) = call.signal.frames ++ framesIn calls := rfl

@[simp] theorem framesIn_append (a b : List Call) :
    framesIn (a ++ b) = framesIn a ++ framesIn b :=
  List.flatMap_append

namespace Connection

/-- The next signal with every frame accepted, and what is left to act on. -/
def call (c : Connection) (ctx : Context σ) : Call × Connection × Context σ :=
  let ((signal, c'), ctx') := (c.next some).run ctx
  (⟨ctx'.wire.exchanges.drop ctx.wire.exchanges.length, signal⟩, c', ctx')

/-- A number of calls, one after another. -/
def calls : Nat → Connection → Context σ → List Call
  | 0, _, _ => []
  | n + 1, c, ctx =>
    let (call, c', ctx') := c.call ctx
    call :: calls n c' ctx'

/-- What a number of calls leave to act on. -/
def afterCalls : Nat → Connection → Context σ → Connection × Context σ
  | 0, c, ctx => (c, ctx)
  | n + 1, c, ctx => afterCalls n (c.call ctx).2.1 (c.call ctx).2.2

section

variable (c : Connection) (ctx : Context σ)

theorem calls_succ (n : Nat) : c.calls (n + 1) ctx =
    (c.call ctx).1 :: (c.call ctx).2.1.calls n (c.call ctx).2.2 := rfl

theorem afterCalls_succ (n : Nat) : c.afterCalls (n + 1) ctx =
    (c.call ctx).2.1.afterCalls n (c.call ctx).2.2 := rfl

theorem length_calls (n : Nat) : (c.calls n ctx).length = n := by
  induction n generalizing c ctx with
  | zero => rfl
  | succ n ih => rw [calls_succ, List.length_cons, ih]

theorem calls_add (m n : Nat) : c.calls (m + n) ctx =
    c.calls m ctx ++ (c.afterCalls m ctx).1.calls n (c.afterCalls m ctx).2 := by
  induction m generalizing c ctx with
  | zero =>
    rw [Nat.zero_add]
    rfl
  | succ m ih =>
    rw [Nat.succ_add, calls_succ, ih]
    rfl

theorem afterCalls_add (m n : Nat) : c.afterCalls (m + n) ctx =
    (c.afterCalls m ctx).1.afterCalls n (c.afterCalls m ctx).2 := by
  induction m generalizing c ctx with
  | zero =>
    rw [Nat.zero_add]
    rfl
  | succ m ih =>
    rw [Nat.succ_add, afterCalls_succ, ih]
    rfl

/-- A call of a run is made on what the calls before it leave. -/
theorem calls_split {n : Nat} {before after : List Call} {call : Call}
    (h : c.calls n ctx = before ++ call :: after) :
    let (c', ctx') := c.afterCalls before.length ctx
    c.calls before.length ctx = before ∧ (c'.call ctx').1 = call ∧
      (c'.call ctx').2.1.calls after.length (c'.call ctx').2.2 = after := by
  have hn : n = before.length + (after.length + 1) := by
    rw [← length_calls c ctx n, h, List.length_append, List.length_cons]
  rw [hn, calls_add, calls_succ] at h
  obtain ⟨hbefore, hrest⟩ := List.append_inj h (length_calls c ctx before.length)
  obtain ⟨hcall, hafter⟩ := List.cons.inj hrest
  exact ⟨hbefore, hcall, hafter⟩

theorem calls_prefix {m n : Nat} (h : m ≤ n) : c.calls m ctx <+: c.calls n ctx := by
  obtain ⟨k, rfl⟩ := Nat.exists_eq_add_of_le h
  rw [calls_add]
  exact List.prefix_append _ _

end

end Connection

/-! ### Backends -/

/-- The frames of a log that a request with a cursor asks for: those after the frame whose id the
cursor is, or all of them if there is no cursor or it is the one that came before the log. -/
inductive Owed (log : List Frame) (resume : Option Cursor) : Option Cursor → List Frame → Prop
  | all {cursor : Option Cursor} (h : cursor = none ∨ cursor = resume) : Owed log resume cursor log
  | after {earlier rest : List Frame} {f : Frame} (h : log = earlier ++ f :: rest) :
    Owed log resume f.id rest

/-- A backend that sends the frames asked for, or a beginning of their bytes. It may refuse a
request, and it may break off or chunk a response as it likes. -/
def Serves (backend : Backend σ) (map : MapId) (resume : Option Cursor) (log : List Frame) : Prop :=
  ∀ state time message cursor response rest, message.request = .followMap map cursor →
    (backend.reply state time message).1 = .response response → response.isSuccess →
    Owed log resume message.request.cursor? rest →
    ∃ bytes, Encodes bytes rest ∧ response.chunks.flatten <+: bytes

/-- How calls hand out a log: each request carries the id of the last frame handed out before it,
and a connection on which all frames asked for are sent hands them out call by call. -/
structure Resumes (client : Client) (map : MapId) (resume : Option Cursor) (log : List Frame)
    (calls : List Call) : Prop where
  frames : framesIn calls <+: log
  messages : ∀ before call after, calls = before ++ call :: after → ∀ e ∈ call.exchanges,
    e.message = client.message (.followMap map (cursorAfter resume (framesIn before))) ∧
      e.message.request.cursor? = cursorAfter resume (framesIn before)
  whole : ∀ before call after, calls = before ++ call :: after → call.signal = .opened →
    ∀ e ∈ call.exchanges, ∀ response rest, e.reply = .response response →
      log = framesIn before ++ rest → Encodes response.chunks.flatten rest →
      rest.length ≤ after.length → framesIn calls = log

/-! ### In step with the log -/

/-- A decoder is in step with a log, with some of its frames arrived and some bytes to come. -/
structure Synced (log : List Frame) (resume : Option Cursor) (arrived : List Frame) (d : Decoder)
    (bytes : List UInt8) : Prop where
  clean : d.Clean
  ahead : ∀ p, p <+: bytes → arrived ++ framesOf (d.feed p).2 <+: log ∧
    (d.feed p).1.lastId = cursorAfter resume (arrived ++ framesOf (d.feed p).2)

section

variable {log arrived : List Frame} {resume : Option Cursor} {d : Decoder}
  {bytes chunk : List UInt8}

theorem Synced.start (h : arrived <+: log) :
    Synced log resume arrived (.start (cursorAfter resume arrived)) [] where
  clean := Decoder.clean_start _
  ahead := by
    intro p hp
    obtain rfl := List.prefix_nil.mp hp
    refine ⟨?_, ?_⟩
    · simpa [framesOf] using h
    · simp [Decoder.start, Decoder.lastId, Block.start, framesOf]

theorem Synced.lost (h : Synced log resume arrived d bytes) : Synced log resume arrived d [] :=
  ⟨h.clean, fun p hp => h.ahead p (hp.trans List.nil_prefix)⟩

theorem Synced.arrived_prefix (h : Synced log resume arrived d bytes) : arrived <+: log := by
  simpa [framesOf] using (h.ahead [] List.nil_prefix).1

theorem Synced.lastId_eq (h : Synced log resume arrived d bytes) :
    d.lastId = cursorAfter resume arrived := by
  simpa [framesOf] using (h.ahead [] List.nil_prefix).2

theorem Synced.push (h : Synced log resume arrived d (chunk ++ bytes)) :
    Synced log resume (arrived ++ framesOf (d.push chunk).2) (d.push chunk).1 bytes := by
  rw [Decoder.push_eq_feed h.clean]
  refine ⟨h.clean.feed chunk, fun p hp => ?_⟩
  have hahead := h.ahead (chunk ++ p) ((List.prefix_append_right_inj chunk).mpr hp)
  simpa only [Decoder.feed_append, framesOf_append, List.append_assoc] using hahead

/-- A connection that is made for the rest of the log. -/
theorem Synced.opened (h : Synced log resume arrived d bytes) {rest : List Frame}
    (hlog : log = arrived ++ rest) (hid : ∀ f ∈ log, f.id ≠ none) {sent whole : List UInt8}
    (hwhole : Encodes whole rest) (hsent : sent <+: whole) :
    Synced log resume arrived d.reset sent where
  clean := Decoder.clean_start _
  ahead := by
    intro p hp
    have hrest : ∀ f ∈ rest, f.id ≠ none := fun f hf => hid f (by simp [hlog, hf])
    obtain ⟨hframes, hlast⟩ := Decoder.decode_prefix hwhole hrest (hp.trans hsent) d.lastId
    refine ⟨?_, ?_⟩
    · rw [hlog]
      exact (List.prefix_append_right_inj arrived).mpr hframes
    · rw [cursorAfter_append, ← h.lastId_eq]
      exact hlast

end

/-! ### Steps of a connection -/

/-- The chunks still to come on a connection. -/
def Stage.toCome : Stage → List (List UInt8)
  | .reading chunks _ => chunks
  | _ => []

/-- A connection from which frames have been handed out is in step with a log. -/
structure InStep (client : Client) (map : MapId) (resume : Option Cursor) (log sent : List Frame)
    (c : Connection) : Prop where
  client_eq : c.client = client
  map_eq : c.map = map
  synced : Synced log resume (sent ++ c.pending) c.decoder c.stage.toCome.flatten

/-- A connection on which exactly some frames are still to be handed out. -/
structure Holds (rest : List Frame) (c : Connection) : Prop where
  clean : c.decoder.Clean
  reading : ∃ chunks ending, c.stage = .reading chunks ending ∧
    c.pending ++ framesOf (c.decoder.feed chunks.flatten).2 = rest

namespace Connection

theorem foldl_take (c : Connection) (items : List Item) :
    items.foldl take c = { c with
      pending := c.pending ++ framesOf items
      delay := delayAfter c.delay (retriesOf items) } := by
  induction items generalizing c with
  | nil => simp [delayAfter, framesOf, retriesOf]
  | cons item items ih =>
    rw [List.foldl_cons, ih]
    cases item with
    | frame f => simp [take, framesOf, retriesOf]
    | retry ms =>
      have hdelay : delayAfter c.delay (ms :: retriesOf items) = delayAfter ms (retriesOf items) :=
        delayAfter_append c.delay [ms] (retriesOf items)
      simpa [take, framesOf, retriesOf] using hdelay.symm

theorem receive_eq (c : Connection) (chunk : List UInt8) :
    c.receive chunk = { c with
      decoder := (c.decoder.push chunk).1
      pending := c.pending ++ framesOf (c.decoder.push chunk).2
      delay := delayAfter c.delay (retriesOf (c.decoder.push chunk).2) } :=
  foldl_take { c with decoder := (c.decoder.push chunk).1 } (c.decoder.push chunk).2

/-- Reads a chunk, and reads on unless it completes a frame. -/
theorem read_cons (c : Connection) (ending : Ending) (chunk : List UInt8)
    (rest : List (List UInt8)) :
    c.read some ending (chunk :: rest) =
      let c' := { c with
        decoder := (c.decoder.push chunk).1
        delay := delayAfter c.delay (retriesOf (c.decoder.push chunk).2) }
      match framesOf (c.decoder.push chunk).2 with
      | [] => { c' with pending := [] }.read some ending rest
      | f :: more => (.arrived f, { c' with pending := more, stage := .reading rest ending }) := by
  rw [read, receive_eq]
  simp only [List.nil_append]
  cases framesOf (c.decoder.push chunk).2 with
  | nil => rfl
  | cons f more => rfl

section

variable {client : Client} {map : MapId} {resume : Option Cursor} {log sent rest : List Frame}
  {c : Connection}

/-- Reading on stays in step, and makes no connection. -/
theorem read_inStep (hclient : c.client = client) (hmap : c.map = map)
    {chunks : List (List UInt8)} (h : Synced log resume sent c.decoder chunks.flatten)
    (ending : Ending) :
    let after := c.read some ending chunks
    InStep client map resume log (sent ++ after.1.frames) after.2 ∧ after.1 ≠ .opened := by
  induction chunks generalizing c with
  | nil =>
    have hsent : (sent ++ []) ++ [] = sent := by simp
    cases ending with
    | closed => exact ⟨⟨hclient, hmap, by rw [← hsent] at h; exact h⟩, nofun⟩
    | broken => exact ⟨⟨hclient, hmap, by rw [← hsent] at h; exact h⟩, nofun⟩
    | held => exact ⟨⟨hclient, hmap, by rw [← hsent] at h; exact h⟩, nofun⟩
  | cons chunk rest ih =>
    have hpush := Synced.push h
    rw [read_cons]
    cases hframes : framesOf (c.decoder.push chunk).2 with
    | nil =>
      rw [hframes, List.append_nil] at hpush
      exact ih hclient hmap hpush
    | cons f more =>
      rw [hframes] at hpush
      refine ⟨⟨hclient, hmap, ?_⟩, nofun⟩
      simpa [Signal.frames, Stage.toCome] using hpush

theorem read_holds (hclean : c.decoder.Clean) {chunks : List (List UInt8)} {f : Frame}
    (h : framesOf (c.decoder.feed chunks.flatten).2 = f :: rest) (ending : Ending) :
    ∃ c', c.read some ending chunks = (.arrived f, c') ∧ Holds rest c' := by
  induction chunks generalizing c with
  | nil => cases h
  | cons chunk chunks ih =>
    have hpush := Decoder.push_eq_feed hclean chunk
    have hnext : (c.decoder.push chunk).1.Clean := by
      rw [hpush]
      exact hclean.feed chunk
    rw [List.flatten_cons, Decoder.feed_append, framesOf_append, ← hpush] at h
    rw [read_cons]
    cases hframes : framesOf (c.decoder.push chunk).2 with
    | nil =>
      rw [hframes, List.nil_append] at h
      exact ih hnext h
    | cons g more =>
      rw [hframes, List.cons_append, List.cons.injEq] at h
      obtain ⟨rfl, hrest⟩ := h
      exact ⟨_, rfl, hnext, chunks, ending, rfl, hrest⟩

end

/-! ### Calls of a connection -/

theorem call_pending {c : Connection} {f : Frame} {more : List Frame} (h : c.pending = f :: more)
    (ctx : Context σ) : c.call ctx = (⟨[], .arrived f⟩, { c with pending := more }, ctx) := by
  have hnext : (c.next some).run ctx = ((.arrived f, { c with pending := more }), ctx) := by
    rw [next, h]
    rfl
  simp [call, hnext]

theorem call_finished {c : Connection} (h : c.pending = []) (hstage : c.stage = .finished)
    (ctx : Context σ) : c.call ctx = (⟨[], .closed⟩, c, ctx) := by
  obtain ⟨client, map, decoder, delay, pending, stage⟩ := c
  subst h hstage
  have hnext : (next some ⟨client, map, decoder, delay, [], .finished⟩).run ctx =
      ((.closed, ⟨client, map, decoder, delay, [], .finished⟩), ctx) := rfl
  simp [call, hnext]

theorem call_reading {c : Connection} (h : c.pending = []) {chunks : List (List UInt8)}
    {ending : Ending} (hstage : c.stage = .reading chunks ending) (ctx : Context σ) :
    c.call ctx =
      (⟨[], (c.read some ending chunks).1⟩, (c.read some ending chunks).2, ctx) := by
  obtain ⟨client, map, decoder, delay, pending, stage⟩ := c
  subst h hstage
  have hnext : (next some ⟨client, map, decoder, delay, [], .reading chunks ending⟩).run ctx =
      (read some ⟨client, map, decoder, delay, [], .reading chunks ending⟩ ending chunks, ctx) :=
    rfl
  simp [call, hnext]

/-- A call that makes the connection sends one message, from the cursor, perhaps after the delay.
Which frames are accepted is no matter. -/
theorem next_connecting {c : Connection} (h : c.pending = []) {delayed : Bool}
    (hstage : c.stage = .connecting delayed) (wire : Wire σ) :
    ∃ e wire', e.message = c.client.message (.followMap c.map c.cursor) ∧
      (wire.wait (if delayed then c.delay else 0)).Sent e wire' ∧
      ∀ {β : Type} (accept : Frame → Option β) (toasts : ToastLog),
        (c.next accept).run ⟨wire, toasts⟩ = (c.accepted e.reply, ⟨wire', toasts⟩) := by
  obtain ⟨client, map, decoder, delay, pending, stage⟩ := c
  subst h hstage
  let message := client.message (.followMap map decoder.lastId)
  refine ⟨_, _, rfl, (wire.wait (if delayed then delay else 0)).sent_send message, ?_⟩
  intro β accept toasts
  cases delayed <;> rfl

theorem call_connecting {c : Connection} (h : c.pending = []) {delayed : Bool}
    (hstage : c.stage = .connecting delayed) (ctx : Context σ) :
    ∃ e ctx',
      let after : Signal Frame × Connection := c.accepted e.reply
      c.call ctx = (⟨[e], after.1⟩, after.2, ctx') ∧
        e.message = c.client.message (.followMap c.map c.cursor) ∧
        (ctx.wire.wait (if delayed then c.delay else 0)).Sent e ctx'.wire := by
  obtain ⟨e, wire', hmessage, hsent, hnext⟩ := next_connecting h hstage ctx.wire
  refine ⟨e, ⟨wire', ctx.toasts⟩, ?_, hmessage, hsent⟩
  have hexchanges : wire'.exchanges = ctx.wire.exchanges ++ [e] := hsent.exchanges
  simp [call, hnext some ctx.toasts, hexchanges]

/-- A reply leaves a connection in step, if a body comes from where the log goes on. -/
theorem accepted_inStep {client : Client} {map : MapId} {resume : Option Cursor}
    {log sent : List Frame} {c : Connection} (h : InStep client map resume log sent c)
    (hpending : c.pending = []) (hid : ∀ f ∈ log, f.id ≠ none) {reply : Reply}
    (hbody : ∀ r, reply = .response r → r.isSuccess → ∃ rest whole, log = sent ++ rest ∧
      Encodes whole rest ∧ r.chunks.flatten <+: whole) :
    let after : Signal Frame × Connection := c.accepted reply
    InStep client map resume log (sent ++ after.1.frames) after.2 ∧
      (after.1 = .opened → ∀ r, reply = .response r →
        after.2 = { c with decoder := c.decoder.reset, stage := .reading r.chunks r.ending }) := by
  have hsynced := h.synced
  rw [hpending, List.append_nil] at hsynced
  have hstays (signal : Signal Frame) (stage : Stage) (hframes : signal.frames = [])
      (hcome : stage.toCome = []) :
      InStep client map resume log (sent ++ signal.frames) { c with stage } := by
    refine ⟨h.client_eq, h.map_eq, ?_⟩
    simpa [hframes, hcome, hpending] using hsynced.lost
  cases reply with
  | unsent => exact ⟨hstays (.failed .request) (.connecting true) rfl rfl, nofun⟩
  | dropped => exact ⟨hstays (.failed .request) (.connecting true) rfl rfl, nofun⟩
  | response r =>
    simp only [accepted]
    split
    · exact ⟨hstays .closed .finished rfl rfl, nofun⟩
    split
    · exact ⟨hstays (.failed (.status r.status)) .finished rfl rfl, nofun⟩
    split
    · rename_i hsuccess
      obtain ⟨rest, whole, hlog, hwhole, hsent⟩ := hbody r rfl hsuccess
      refine ⟨⟨h.client_eq, h.map_eq, ?_⟩, ?_⟩
      · simpa [Signal.frames, Stage.toCome, hpending] using hsynced.opened hlog hid hwhole hsent
      · rintro - r' ⟨⟩
        rfl
    · exact ⟨hstays (.failed (.status r.status)) (.connecting true) rfl rfl, nofun⟩

end Connection

/-! ### Requests -/

section

variable {log sent rest : List Frame} {resume : Option Cursor}

/-- A request from the cursor after frames of the log asks for the rest of it. A cursor from before
the log that is empty is not sent, which asks for all of it. -/
theorem owed_cursor? (hid : ∀ f ∈ log, f.id ≠ some "") (resume : Option Cursor)
    (h : log = sent ++ rest) (map : MapId) :
    Owed log resume (Request.followMap map (cursorAfter resume sent)).cursor? rest := by
  rcases List.eq_nil_or_concat' sent with rfl | ⟨earlier, f, rfl⟩
  · obtain rfl : log = rest := h
    refine .all ?_
    rw [cursorAfter_nil, Request.cursor?]
    cases resume with
    | none => exact .inl rfl
    | some id => simpa [Option.filter] using em (id = "")
  · have hne : f.id ≠ some "" := hid f (by simp [h])
    have hsent : (Request.followMap map f.id).cursor? = f.id := by
      cases hf : f.id with
      | none => rfl
      | some id => simpa [Request.cursor?, Option.filter, hf] using hne
    rw [cursorAfter_concat, hsent]
    exact .after (by simpa using h)

/-- The cursor after frames of the log is never empty, so it is sent. -/
theorem cursor?_cursorAfter (hid : ∀ f ∈ log, f.id ≠ some "") (hresume : resume ≠ some "")
    (h : sent <+: log) (map : MapId) :
    (Request.followMap map (cursorAfter resume sent)).cursor? = cursorAfter resume sent := by
  have hne : cursorAfter resume sent ≠ some "" := by
    rcases List.eq_nil_or_concat' sent with rfl | ⟨earlier, f, rfl⟩
    · exact hresume
    · rw [cursorAfter_concat]
      exact hid f (h.subset (by simp))
  generalize cursorAfter resume sent = cursor at hne
  cases cursor with
  | none => rfl
  | some id =>
    have hid : id ≠ "" := fun hempty => hne (by rw [hempty])
    simp [Request.cursor?, Option.filter, hid]

end

/-! ### Runs -/

section

variable {backend : Backend σ} {client : Client} {map : MapId} {resume : Option Cursor}
  {log sent rest : List Frame} {c : Connection} {ctx : Context σ}

/-- What a call does to a connection in step with a log. The message it may send is one from the
cursor reached, and the body of a reply that opens the connection is what is to come on it. -/
structure Advanced (client : Client) (map : MapId) (resume : Option Cursor) (log sent : List Frame)
    (call : Call) (c' : Connection) : Prop where
  inStep : InStep client map resume log (sent ++ call.signal.frames) c'
  message_eq : ∀ e ∈ call.exchanges,
    e.message = client.message (.followMap map (cursorAfter resume sent))
  opened : call.signal = .opened → ∀ e ∈ call.exchanges, ∀ r, e.reply = .response r →
    c'.pending = [] ∧ c'.decoder = .start (cursorAfter resume sent) ∧
      c'.stage = .reading r.chunks r.ending

theorem Advanced.alone {signal : Signal Frame}
    (h : InStep client map resume log (sent ++ signal.frames) c) (hsignal : signal ≠ .opened) :
    Advanced client map resume log sent ⟨[], signal⟩ c where
  inStep := h
  message_eq := fun _ he => absurd he List.not_mem_nil
  opened := fun hopened => absurd hopened hsignal

/-- What a call does when the cursor before the log is not empty: it is sent too. -/
structure Stepped (client : Client) (map : MapId) (resume : Option Cursor) (log sent : List Frame)
    (call : Call) (c' : Connection) : Prop
    extends Advanced client map resume log sent call c' where
  messages : ∀ e ∈ call.exchanges,
    e.message = client.message (.followMap map (cursorAfter resume sent)) ∧
      e.message.request.cursor? = cursorAfter resume sent

theorem Advanced.stepped {call : Call} (h : Advanced client map resume log sent call c)
    (hid : ∀ f ∈ log, f.id ≠ none ∧ f.id ≠ some "") (hresume : resume ≠ some "") :
    Stepped client map resume log sent call c := by
  have hsent : sent <+: log := by
    have harrived := h.inStep.synced.arrived_prefix
    rw [List.append_assoc] at harrived
    exact (List.prefix_append _ _).trans harrived
  refine ⟨h, fun e he => ⟨h.message_eq e he, ?_⟩⟩
  rw [h.message_eq e he]
  exact cursor?_cursorAfter (fun f hf => (hid f hf).2) hresume hsent map

theorem InStep.connecting (h : InStep client map resume log sent c)
    (hid : ∀ f ∈ log, f.id ≠ none ∧ f.id ≠ some "")
    (hserves : Serves backend map resume log) (hpending : c.pending = []) {e : Exchange}
    {w w' : Wire σ} (hmessage : e.message = c.client.message (.followMap c.map c.cursor))
    (hsent : w.Sent e w') (hbackend : w.backend = backend) :
    let after : Signal Frame × Connection := c.accepted e.reply
    Advanced client map resume log sent ⟨[e], after.1⟩ after.2 := by
  have hsynced := h.synced
  rw [hpending, List.append_nil] at hsynced
  obtain ⟨rest, hlog⟩ := hsynced.arrived_prefix
  have hlast := hsynced.lastId_eq
  rw [h.client_eq, h.map_eq, Connection.cursor, hlast] at hmessage
  have hbody : ∀ r, e.reply = .response r → r.isSuccess → ∃ rest whole, log = sent ++ rest ∧
      Encodes whole rest ∧ r.chunks.flatten <+: whole := by
    intro r hr hsuccess
    have hreply := congrArg Prod.fst (hsent.of_response hr)
    have howed := owed_cursor? (fun f hf => (hid f hf).2) resume hlog.symm map
    rw [hbackend, hmessage] at hreply
    obtain ⟨whole, hwhole, hbody⟩ := hserves _ _ _ _ _ rest rfl hreply hsuccess howed
    exact ⟨rest, whole, hlog.symm, hwhole, hbody⟩
  obtain ⟨hstep, hopened⟩ :=
    Connection.accepted_inStep h hpending (fun f hf => (hid f hf).1) hbody
  refine ⟨hstep, ?_, ?_⟩
  · intro e' he
    obtain rfl := List.mem_singleton.mp he
    exact hmessage
  · intro hsignal e' he r hr
    obtain rfl := List.mem_singleton.mp he
    rw [hopened hsignal r hr, ← hlast]
    exact ⟨hpending, rfl, rfl⟩

/-- Every call leads from a connection in step to one in step. -/
theorem InStep.advance (h : InStep client map resume log sent c)
    (hid : ∀ f ∈ log, f.id ≠ none ∧ f.id ≠ some "")
    (hserves : Serves backend map resume log) (hbackend : ctx.wire.backend = backend) :
    Advanced client map resume log sent (c.call ctx).1 (c.call ctx).2.1 ∧
      (c.call ctx).2.2.wire.backend = backend := by
  cases hpending : c.pending with
  | cons f more =>
    have hsynced := h.synced
    rw [hpending] at hsynced
    rw [Connection.call_pending hpending]
    refine ⟨.alone ⟨h.client_eq, h.map_eq, ?_⟩ nofun, hbackend⟩
    simpa [Signal.frames] using hsynced
  | nil =>
    have hsynced := h.synced
    rw [hpending, List.append_nil] at hsynced
    cases hstage : c.stage with
    | finished =>
      rw [Connection.call_finished hpending hstage]
      refine ⟨.alone ⟨h.client_eq, h.map_eq, ?_⟩ nofun, hbackend⟩
      simpa [Signal.frames] using h.synced
    | reading chunks ending =>
      rw [hstage] at hsynced
      obtain ⟨hstep, hopened⟩ := Connection.read_inStep h.client_eq h.map_eq hsynced ending
      rw [Connection.call_reading hpending hstage]
      exact ⟨.alone hstep hopened, hbackend⟩
    | connecting delayed =>
      obtain ⟨e, ctx', hcall, hmessage, hsent⟩ :=
        Connection.call_connecting hpending hstage ctx
      rw [hcall]
      exact ⟨h.connecting hid hserves hpending hmessage hsent hbackend,
        hsent.backend.trans hbackend⟩

theorem InStep.call (h : InStep client map resume log sent c)
    (hid : ∀ f ∈ log, f.id ≠ none ∧ f.id ≠ some "") (hresume : resume ≠ some "")
    (hserves : Serves backend map resume log) (hbackend : ctx.wire.backend = backend) :
    Stepped client map resume log sent (c.call ctx).1 (c.call ctx).2.1 ∧
      (c.call ctx).2.2.wire.backend = backend := by
  obtain ⟨hstep, hbackend'⟩ := h.advance hid hserves hbackend
  exact ⟨hstep.stepped hid hresume, hbackend'⟩

/-- A number of calls leads from a connection in step to one in step. -/
theorem InStep.afterCalls (h : InStep client map resume log sent c)
    (hid : ∀ f ∈ log, f.id ≠ none ∧ f.id ≠ some "")
    (hserves : Serves backend map resume log) (hbackend : ctx.wire.backend = backend) (n : Nat) :
    InStep client map resume log (sent ++ framesIn (c.calls n ctx)) (c.afterCalls n ctx).1 ∧
      (c.afterCalls n ctx).2.wire.backend = backend := by
  induction n generalizing sent c ctx with
  | zero =>
    refine ⟨?_, hbackend⟩
    rw [Connection.calls, framesIn_nil, List.append_nil]
    exact h
  | succ n ih =>
    obtain ⟨hstep, hbackend'⟩ := h.advance hid hserves hbackend
    rw [Connection.calls_succ, framesIn_cons, ← List.append_assoc]
    exact ih hstep.inStep hbackend'

theorem Holds.call {f : Frame} (h : Holds (f :: rest) c) (ctx : Context σ) :
    ∃ c', c.call ctx = (⟨[], .arrived f⟩, c', ctx) ∧ Holds rest c' := by
  obtain ⟨chunks, ending, hstage, hframes⟩ := h.reading
  cases hpending : c.pending with
  | cons g more =>
    rw [hpending, List.cons_append, List.cons.injEq] at hframes
    obtain ⟨rfl, hrest⟩ := hframes
    exact ⟨_, Connection.call_pending hpending ctx, h.clean, chunks, ending, hstage, hrest⟩
  | nil =>
    rw [hpending, List.nil_append] at hframes
    obtain ⟨c', hread, hholds⟩ := Connection.read_holds h.clean hframes ending
    rw [Connection.call_reading hpending hstage, hread]
    exact ⟨c', rfl, hholds⟩

/-- The frames held are handed out call by call. -/
theorem Holds.calls (h : Holds rest c) (ctx : Context σ) {n : Nat} (hn : rest.length ≤ n) :
    rest <+: framesIn (c.calls n ctx) := by
  induction rest generalizing c n with
  | nil => exact List.nil_prefix
  | cons f rest ih =>
    cases n with
    | zero => cases hn
    | succ n =>
      obtain ⟨c', hcall, hholds⟩ := h.call ctx
      rw [Connection.calls_succ, hcall]
      exact (List.prefix_append_right_inj [f]).mpr (ih hholds (Nat.le_of_succ_le_succ hn))

/-- The frames that calls hand out are the next ones of the log. -/
theorem InStep.calls (h : InStep client map resume log sent c)
    (hid : ∀ f ∈ log, f.id ≠ none ∧ f.id ≠ some "") (hresume : resume ≠ some "")
    (hserves : Serves backend map resume log) (hbackend : ctx.wire.backend = backend) (n : Nat) :
    sent ++ framesIn (c.calls n ctx) <+: log := by
  induction n generalizing sent c ctx with
  | zero =>
    have hprefix := h.synced.arrived_prefix
    have hsent : sent ++ framesIn (c.calls 0 ctx) <+: sent ++ c.pending :=
      (List.prefix_append_right_inj sent).mpr List.nil_prefix
    exact hsent.trans hprefix
  | succ n ih =>
    obtain ⟨hstep, hbackend'⟩ := h.call hid hresume hserves hbackend
    rw [Connection.calls, framesIn_cons, ← List.append_assoc]
    exact ih hstep.inStep hbackend'

/-- Before each call of a run, the connection is in step. -/
theorem InStep.calls_split (h : InStep client map resume log sent c)
    (hid : ∀ f ∈ log, f.id ≠ none ∧ f.id ≠ some "") (hresume : resume ≠ some "")
    (hserves : Serves backend map resume log) (hbackend : ctx.wire.backend = backend) {n : Nat}
    {before after : List Call} {call : Call} (hsplit : c.calls n ctx = before ++ call :: after) :
    ∃ c', ∃ ctx' : Context σ, Stepped client map resume log (sent ++ framesIn before) call c' ∧
      c'.calls after.length ctx' = after := by
  obtain ⟨hbefore, rfl, hafter⟩ := c.calls_split ctx hsplit
  obtain ⟨hstep, hbackend'⟩ := h.afterCalls hid hserves hbackend before.length
  rw [hbefore] at hstep
  exact ⟨_, _, (hstep.call hid hresume hserves hbackend').1, hafter⟩

/-- A connection made anew from the cursor after frames of the log. -/
theorem restart_inStep (h : sent <+: log) :
    InStep client map resume log sent (.start client map (cursorAfter resume sent)) := by
  refine ⟨rfl, rfl, ?_⟩
  simpa [Connection.start, Stage.toCome] using Synced.start h

theorem start_inStep : InStep client map resume log [] (.start client map resume) :=
  restart_inStep List.nil_prefix

/-- A connection that is made again whenever it is lost hands out each frame of a log once and in
order, whatever the backend breaks off. Each request carries the id of the last frame handed out
before it. -/
theorem calls_resume (hid : ∀ f ∈ log, f.id ≠ none ∧ f.id ≠ some "") (hresume : resume ≠ some "")
    (hserves : Serves backend map resume log) (hbackend : ctx.wire.backend = backend) (n : Nat) :
    Resumes client map resume log ((Connection.start client map resume).calls n ctx) := by
  have hstart : InStep client map resume log [] (.start client map resume) := start_inStep
  have hframes := hstart.calls hid hresume hserves hbackend n
  refine ⟨hframes, ?_, ?_⟩
  · intro before call after hsplit
    obtain ⟨_, _, hstep, _⟩ := hstart.calls_split hid hresume hserves hbackend hsplit
    exact hstep.messages
  · intro before call after hsplit hopened e he r rest hr hlog hwhole hn
    obtain ⟨c', ctx', hstep, hafter⟩ := hstart.calls_split hid hresume hserves hbackend hsplit
    obtain ⟨hpending, hdecoder, hstage⟩ := hstep.opened hopened e he r hr
    have hrestid : ∀ f ∈ rest, f.id ≠ none := fun f hf => (hid f (by simp [hlog, hf])).1
    have hholds : Holds rest c' := by
      refine ⟨?_, r.chunks, r.ending, hstage, ?_⟩
      · rw [hdecoder]
        exact Decoder.clean_start _
      · rw [hpending, hdecoder, Decoder.decode_all hwhole hrestid, List.nil_append]
    have hrest := hholds.calls ctx' hn
    rw [hafter] at hrest
    rw [hsplit] at hframes ⊢
    refine hframes.eq_of_length_le ?_
    have hlength := hrest.length_le
    simp only [hlog, framesIn_append, framesIn_cons, List.length_append] at hlength ⊢
    omega

end

/-! ### A backend that breaks off -/

/-- A frame of an id and a line of data, with lines ended by CRLF. -/
def crlfText (id data : String) (hid : ∀ c ∈ id.toList, c ≠ '\n' ∧ c ≠ '\r' ∧ c ≠ '\x00')
    (hdata : ∀ c ∈ data.toList, c ≠ '\n' ∧ c ≠ '\r') : FrameText where
  lines := [
    ⟨"id", true, id, .crlf, by simp, fun c hc => ⟨(hid c hc).1, (hid c hc).2.1⟩, nofun,
      fun _ hc => (hid _ hc).2.2 rfl⟩,
    ⟨"data", true, data, .crlf, by simp, hdata, nofun, fun h => absurd h (by simp)⟩]
  ending := .crlf
  data := by simp [Line.values]
  apart := by simp

def firstText : FrameText := crlfText "1" "é" (by simp) (by simp)

def secondText : FrameText := crlfText "2" "è" (by simp) (by simp)

def twoFrames : List Frame := [⟨some "1", "message", "é"⟩, ⟨some "2", "message", "è"⟩]

theorem frame_firstText : firstText.frame = ⟨some "1", "message", "é"⟩ := by
  simp [firstText, crlfText, FrameText.frame, Line.values]

theorem frame_secondText : secondText.frame = ⟨some "2", "message", "è"⟩ := by
  simp [secondText, crlfText, FrameText.frame, Line.values]

/-- The bytes of the frames after a cursor. -/
def bytesAfter (cursor : Option Cursor) : List UInt8 :=
  if cursor = some "1" then secondText.bytes
  else if cursor = some "2" then []
  else firstText.bytes ++ secondText.bytes

theorem encodes_bytesAfter {cursor : Option Cursor} {rest : List Frame}
    (h : Owed twoFrames (some "0") cursor rest) : Encodes (bytesAfter cursor) rest := by
  cases h with
  | all h =>
    rcases h with rfl | rfl
    · exact ⟨[firstText, secondText], by simp [bytesAfter],
        by simp [twoFrames, frame_firstText, frame_secondText]⟩
    · exact ⟨[firstText, secondText], by simp [bytesAfter],
        by simp [twoFrames, frame_firstText, frame_secondText]⟩
  | @after earlier _ f h =>
    match earlier, h with
    | [], h =>
      obtain ⟨rfl, rfl⟩ := List.cons.inj h
      exact ⟨[secondText], by simp [bytesAfter], by simp [frame_secondText]⟩
    | [_], h =>
      obtain ⟨rfl, rfl⟩ := List.cons.inj (List.cons.inj h).2
      exact ⟨[], by simp [bytesAfter], rfl⟩
    | _ :: _ :: _, h => simp [twoFrames] at h

/-- A backend that breaks off each response, one byte later each time, and cuts it into chunks after
14 bytes. -/
def breakingOff : Backend Nat where
  reply s _ message :=
    let sent := (bytesAfter message.request.cursor?).take s
    (.response ⟨200, [sent.take 14, [], sent.drop 14], .broken⟩, s + 1)

theorem breakingOff_serves (map : MapId) : Serves breakingOff map (some "0") twoFrames := by
  intro s time message cursor r rest _ hr _ howed
  refine ⟨_, encodes_bytesAfter howed, ?_⟩
  simp only [breakingOff, Reply.response.injEq] at hr
  rw [← hr]
  simpa using List.take_prefix s (bytesAfter message.request.cursor?)

/-- Two frames over connections that break off within lines, within characters and between the CR
and the LF of a line. -/
theorem calls_resume_breakingOff :
    let client : Client := ⟨"http://backend", none, 1000⟩
    let map : MapId := ⟨⟨List.replicate 32 0, rfl⟩⟩
    (∀ f ∈ twoFrames, f.id ≠ none ∧ f.id ≠ some "") ∧ some "0" ≠ some "" ∧
      Serves breakingOff map (some "0") twoFrames ∧
      Resumes client map (some "0") twoFrames
        ((Connection.start client map (some "0")).calls 100 ⟨.start breakingOff 0, .empty⟩) := by
  intro client map
  have hid : ∀ f ∈ twoFrames, f.id ≠ none ∧ f.id ≠ some "" := by simp [twoFrames]
  have hserves := breakingOff_serves map
  exact ⟨hid, by decide, hserves, calls_resume hid (by decide) hserves rfl 100⟩

end EventStream

end WormholeMap

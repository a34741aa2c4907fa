import WormholeMap.Proofs.EventStream.Resume
import Mathlib.Data.List.Nodup

/-!
Connections opened anew. From the cursor after frames of a log a connection hands out the rest of it
once a reply brings all that is asked for, and with distinct ids the cursor says what that is
(`InStep.calls_owed`). When a connection is over, no frames come any more.
-/

namespace WormholeMap.EventStream

/-! ### Connections that are over -/

namespace Connection

theorem read_ne_closed (c : Connection) (ending : Ending) (chunks : List (List UInt8)) :
    (c.read some ending chunks).1 ≠ .closed := by
  induction chunks generalizing c with
  | nil => cases ending <;> nofun
  | cons chunk rest ih =>
    rw [read_cons]
    cases framesOf (c.decoder.push chunk).2 with
    | nil => exact ih _
    | cons f more => nofun

/-- A call on which the connection is over leaves nothing to come. -/
theorem call_closed {c : Connection} {ctx : Context σ} (h : (c.call ctx).1.signal = .closed) :
    (c.call ctx).2.1.pending = [] ∧ (c.call ctx).2.1.stage = .finished := by
  cases hpending : c.pending with
  | cons f more =>
    rw [call_pending hpending] at h
    cases h
  | nil =>
    cases hstage : c.stage with
    | finished =>
      rw [call_finished hpending hstage]
      exact ⟨hpending, hstage⟩
    | reading chunks ending =>
      rw [call_reading hpending hstage] at h
      exact absurd h (c.read_ne_closed ending chunks)
    | connecting delayed =>
      obtain ⟨⟨time, message, reply⟩, ctx', hcall, -⟩ := call_connecting hpending hstage ctx
      rw [hcall] at h ⊢
      cases reply with
      | unsent => cases h
      | dropped => cases h
      | response r =>
        simp only [accepted] at h ⊢
        split at h
        · rename_i hstatus
          rw [if_pos hstatus]
          exact ⟨hpending, rfl⟩
        split at h
        · cases h
        split at h
        · cases h
        · cases h

theorem framesIn_finished {c : Connection} (hpending : c.pending = [])
    (hstage : c.stage = .finished) (ctx : Context σ) (n : Nat) : framesIn (c.calls n ctx) = [] := by
  induction n with
  | zero => rfl
  | succ n ih =>
    rw [calls_succ, call_finished hpending hstage]
    exact ih

/-- Once the connection is over, further calls hand out no frames. -/
theorem framesIn_closed {c : Connection} {ctx : Context σ} {m n : Nat} {call : Call}
    (hcall : call ∈ c.calls m ctx) (hclosed : call.signal = .closed) (h : m ≤ n) :
    framesIn (c.calls n ctx) = framesIn (c.calls m ctx) := by
  induction m generalizing n c ctx with
  | zero => cases hcall
  | succ m ih =>
    cases n with
    | zero => cases h
    | succ n =>
      rw [calls_succ] at hcall
      rw [calls_succ, calls_succ, framesIn_cons, framesIn_cons]
      rcases List.mem_cons.mp hcall with rfl | hcall
      · obtain ⟨hpending, hstage⟩ := call_closed hclosed
        rw [framesIn_finished hpending hstage, framesIn_finished hpending hstage]
      · rw [ih hcall (Nat.le_of_succ_le_succ h)]

end Connection

/-! ### Distinct ids -/

section

variable {log rest : List Frame} {resume : Option Cursor}

theorem Owed.cases_eq {cursor : Option Cursor} (h : Owed log resume cursor rest) :
    (cursor = none ∨ cursor = resume) ∧ log = rest ∨
      ∃ earlier f, log = earlier ++ f :: rest ∧ f.id = cursor := by
  cases h with
  | all h => exact .inl ⟨h, rfl⟩
  | after h => exact .inr ⟨_, _, h, rfl⟩

/-- With distinct ids, none of which is the cursor before the log, a cursor says what is owed. -/
theorem Owed.eq {a b : List Frame} {cursor : Option Cursor} (ha : Owed log resume cursor a)
    (hb : Owed log resume cursor b) (hid : ∀ f ∈ log, f.id ≠ none ∧ f.id ≠ resume)
    (hnodup : (log.map Frame.id).Nodup) : a = b := by
  have habsent {earlier rest : List Frame} {f : Frame} (h : log = earlier ++ f :: rest) :
      ¬(f.id = none ∨ f.id = resume) :=
    not_or.mpr (hid f (by simp [h]))
  rcases ha.cases_eq with ⟨hbefore, rfl⟩ | ⟨earlier, f, hlog, rfl⟩
  · rcases hb.cases_eq with ⟨-, rfl⟩ | ⟨earlier, f, hlog, rfl⟩
    · rfl
    · exact absurd hbefore (habsent hlog)
  · rcases hb.cases_eq with ⟨hbefore, -⟩ | ⟨earlier', g, hlog', hg⟩
    · exact absurd hbefore (habsent hlog)
    · have hlength : earlier.length = earlier'.length := by
        have hf : (log.map Frame.id)[earlier.length]? = some f.id := by simp [hlog]
        have hg : (log.map Frame.id)[earlier'.length]? = some f.id := by simp [hlog', hg]
        obtain ⟨_, hf⟩ := List.getElem?_eq_some_iff.mp hf
        obtain ⟨_, hg⟩ := List.getElem?_eq_some_iff.mp hg
        exact (List.Nodup.getElem_inj_iff hnodup).mp (hf.trans hg.symm)
      rw [hlog] at hlog'
      exact (List.cons.inj (List.append_inj hlog' hlength).2).2

end

/-! ### Whole bodies -/

section

variable {backend : Backend σ} {client : Client} {map : MapId} {resume : Option Cursor}
  {log sent rest : List Frame} {c : Connection} {ctx : Context σ}

theorem Advanced.holds {call : Call} (h : Advanced client map resume log sent call c)
    (hid : ∀ f ∈ log, f.id ≠ none ∧ f.id ≠ some "") (hopened : call.signal = .opened)
    {e : Exchange} (he : e ∈ call.exchanges) {r : Response} (hr : e.reply = .response r)
    (hlog : log = sent ++ rest) (hwhole : Encodes r.chunks.flatten rest) : Holds rest c := by
  obtain ⟨hpending, hdecoder, hstage⟩ := h.opened hopened e he r hr
  have hrestid : ∀ f ∈ rest, f.id ≠ none := fun f hf => (hid f (by simp [hlog, hf])).1
  refine ⟨?_, r.chunks, r.ending, hstage, ?_⟩
  · rw [hdecoder]
    exact Decoder.clean_start _
  · rw [hpending, hdecoder, Decoder.decode_all hwhole hrestid, List.nil_append]

/-- A connection on which all frames asked for are sent hands out the rest of the log. -/
theorem InStep.calls_whole (h : InStep client map resume log sent c)
    (hid : ∀ f ∈ log, f.id ≠ none ∧ f.id ≠ some "")
    (hserves : Serves backend map resume log) (hbackend : ctx.wire.backend = backend) {n : Nat}
    {before after : List Call} {call : Call} (hsplit : c.calls n ctx = before ++ call :: after)
    (hopened : call.signal = .opened) {e : Exchange} (he : e ∈ call.exchanges) {r : Response}
    (hr : e.reply = .response r) (hlog : log = sent ++ framesIn before ++ rest)
    (hwhole : Encodes r.chunks.flatten rest) (hn : rest.length ≤ after.length) :
    sent ++ framesIn (c.calls n ctx) = log := by
  obtain ⟨hbefore, rfl, hafter⟩ := c.calls_split ctx hsplit
  obtain ⟨hstep, hbackend'⟩ := h.afterCalls hid hserves hbackend before.length
  rw [hbefore] at hstep
  have hholds := (hstep.advance hid hserves hbackend').1.holds hid hopened he hr hlog hwhole
  have hrest := hholds.calls ((c.afterCalls before.length ctx).1.call
    (c.afterCalls before.length ctx).2).2.2 hn
  have hframes := (h.afterCalls hid hserves hbackend n).1.synced.arrived_prefix
  rw [hafter] at hrest
  rw [hsplit] at hframes ⊢
  refine ((List.prefix_append _ _).trans hframes).eq_of_length_le ?_
  have hlength := hrest.length_le
  simp only [hlog, framesIn_append, framesIn_cons, List.length_append] at hlength ⊢
  omega

/-- With distinct ids, the frames asked for are the rest of the log. -/
theorem InStep.calls_owed (h : InStep client map resume log sent c)
    (hid : ∀ f ∈ log, f.id ≠ none ∧ f.id ≠ some "" ∧ f.id ≠ resume)
    (hnodup : (log.map Frame.id).Nodup) (hserves : Serves backend map resume log)
    (hbackend : ctx.wire.backend = backend) {n : Nat} {before after : List Call} {call : Call}
    (hsplit : c.calls n ctx = before ++ call :: after) (hopened : call.signal = .opened)
    {e : Exchange} (he : e ∈ call.exchanges) {r : Response} (hr : e.reply = .response r)
    (howed : Owed log resume e.message.request.cursor? rest)
    (hwhole : Encodes r.chunks.flatten rest) (hn : rest.length ≤ after.length) :
    sent ++ framesIn (c.calls n ctx) = log := by
  have hid' : ∀ f ∈ log, f.id ≠ none ∧ f.id ≠ some "" := fun f hf => ⟨(hid f hf).1, (hid f hf).2.1⟩
  refine h.calls_whole hid' hserves hbackend hsplit hopened he hr ?_ hwhole hn
  obtain ⟨hbefore, rfl, -⟩ := c.calls_split ctx hsplit
  obtain ⟨hstep, hbackend'⟩ := h.afterCalls hid' hserves hbackend before.length
  rw [hbefore] at hstep
  obtain ⟨left, hlog⟩ := (List.prefix_append _ _).trans hstep.synced.arrived_prefix
  have hleft := owed_cursor? (fun f hf => (hid' f hf).2) resume hlog.symm map
  rw [(hstep.advance hid' hserves hbackend').1.message_eq e he] at howed
  rw [howed.eq hleft (fun f hf => ⟨(hid f hf).1, (hid f hf).2.2⟩) hnodup, hlog]

end

end WormholeMap.EventStream

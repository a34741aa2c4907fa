import WormholeMap.Proofs.EventStream.Resume

/-!
Connections of which only some frames are accepted. A call for the next accepted signal is a number
of calls for the next signal: frames that are dropped, and then the one signal that passes
(`passes`). What is known of all calls of a connection so carries over to those with frames dropped.
-/

namespace WormholeMap.EventStream

/-- A signal with its frame as what it is accepted for, if it is. -/
def Signal.passed (accept : Frame → Option α) : Signal Frame → Option (Signal α)
  | .opened => some .opened
  | .arrived f => (accept f).map .arrived
  | .failed fault => some (.failed fault)
  | .closed => some .closed
  | .silent => some .silent

namespace Connection

variable {accept : Frame → Option α} {c c' : Connection} {ctx : Context σ} {n : Nat}
  {signal : Signal α}

/-- A call for the next accepted signal is a number of calls for the next signal, of which the last
one passes. -/
structure Passes (accept : Frame → Option α) (c : Connection) (ctx : Context σ) (n : Nat)
    (signal : Signal α) : Prop where
  run_eq : (c.next accept).run ctx = ((signal, (c.afterCalls n ctx).1), (c.afterCalls n ctx).2)
  passed : (c.calls n ctx).filterMap (·.signal.passed accept) = [signal]
  before : ∀ k < n, (c.calls k ctx).filterMap (·.signal.passed accept) = []

theorem Passes.pos (h : Passes accept c ctx n signal) : 0 < n := by
  rcases Nat.eq_zero_or_pos n with rfl | hn
  · cases h.passed
  · exact hn

theorem Passes.single (hsignal : (c.call ctx).1.signal.passed accept = some signal)
    (hrun : (c.next accept).run ctx = ((signal, (c.call ctx).2.1), (c.call ctx).2.2)) :
    Passes accept c ctx 1 signal where
  run_eq := hrun
  passed := by simp [calls, hsignal]
  before k hk := by
    obtain rfl : k = 0 := by omega
    rfl

/-- Connections that behave alike at the next call behave alike from then on. -/
theorem Passes.congr (haccept : (c.next accept).run ctx = (c'.next accept).run ctx)
    (hsome : (c.next some).run ctx = (c'.next some).run ctx) (h : Passes accept c' ctx n signal) :
    Passes accept c ctx n signal := by
  have hcall : c.call ctx = c'.call ctx := by rw [call, call, hsome]
  have hcalls (k : Nat) : c.calls k ctx = c'.calls k ctx := by
    cases k with
    | zero => rfl
    | succ k => rw [calls_succ, calls_succ, hcall]
  refine ⟨?_, ?_, fun k hk => ?_⟩
  · obtain ⟨n, rfl⟩ := Nat.exists_eq_succ_of_ne_zero h.pos.ne'
    rw [haccept, h.run_eq, afterCalls_succ, afterCalls_succ, hcall]
  · rw [hcalls, h.passed]
  · rw [hcalls, h.before k hk]

/-! ### Pending frames -/

theorem Passes.dropped {f : Frame} {more : List Frame} (hpending : c.pending = f :: more)
    (hf : accept f = none) (h : Passes accept { c with pending := more } ctx n signal) :
    Passes accept c ctx (n + 1) signal := by
  have hcall := call_pending hpending ctx
  refine ⟨?_, ?_, fun k hk => ?_⟩
  · rw [afterCalls_succ, hcall, ← h.run_eq]
    simp [next, hpending, firstAccepted, hf]
  · rw [calls_succ, hcall, ← h.passed]
    simp [Signal.passed, hf]
  · cases k with
    | zero => rfl
    | succ k =>
      rw [calls_succ, hcall, ← h.before k (by omega)]
      simp [Signal.passed, hf]

/-- Pending frames are dropped up to one that is accepted, if there is one. -/
theorem passes_of_drained (h : ∃ n signal, Passes accept { c with pending := [] } ctx n signal) :
    ∃ n signal, Passes accept c ctx n signal := by
  obtain ⟨client, map, decoder, delay, pending, stage⟩ := c
  induction pending with
  | nil => exact h
  | cons f more ih =>
    cases hf : accept f with
    | none =>
      obtain ⟨n, signal, hpasses⟩ := ih h
      exact ⟨n + 1, signal, hpasses.dropped rfl hf⟩
    | some a =>
      have hcall := call_pending (c := ⟨client, map, decoder, delay, f :: more, stage⟩) rfl ctx
      refine ⟨1, .arrived a, .single ?_ ?_⟩
      · simp [hcall, Signal.passed, hf]
      · rw [hcall]
        simp only [next, firstAccepted, hf]
        rfl

/-! ### Chunks to come -/

theorem receive_stage (c : Connection) (chunk : List UInt8) (stage : Stage) :
    ({ c with stage } : Connection).receive chunk = { c.receive chunk with stage } := by
  rw [receive_eq, receive_eq]

/-- Reading goes by the chunks to come, not by the frames and the stage kept. -/
theorem read_kept (ending : Ending) (chunks : List (List UInt8)) (pending : List Frame)
    (stage : Stage) :
    { c with pending, stage }.read accept ending chunks = c.read accept ending chunks := by
  induction chunks generalizing c pending with
  | nil => cases ending <;> rfl
  | cons chunk rest ih =>
    have hreceive := receive_stage { c with pending := [] } chunk stage
    rw [read, read]
    simp only [hreceive]
    cases firstAccepted accept (({ c with pending := [] } : Connection).receive chunk).pending with
    | none => exact ih _
    | some a => rfl

/-- To read a chunk is to receive it, and to go on with the frames that it completes. -/
theorem next_reading (hpending : c.pending = []) {chunk : List UInt8} {rest : List (List UInt8)}
    {ending : Ending} (hstage : c.stage = .reading (chunk :: rest) ending) :
    c.next accept =
      ({ c.receive chunk with stage := .reading rest ending }.next accept : Run σ _) := by
  have hread : c.next accept = (return c.read accept ending (chunk :: rest) : Run σ _) := by
    obtain ⟨client, map, decoder, delay, pending, stage⟩ := c
    subst hpending hstage
    rfl
  have hc : { c with pending := [] } = c := by rw [← hpending]
  rw [hread, read, hc, next]
  cases hfirst : firstAccepted accept (c.receive chunk).pending with
  | some a => rfl
  | none =>
    exact congrArg pure (read_kept ending rest [] (.reading rest ending)).symm

theorem passes_reading (hpending : c.pending = []) {chunks : List (List UInt8)} {ending : Ending}
    (hstage : c.stage = .reading chunks ending) : ∃ n signal, Passes accept c ctx n signal := by
  induction chunks generalizing c with
  | nil =>
    have hcall := call_reading hpending hstage ctx
    obtain ⟨client, map, decoder, delay, pending, stage⟩ := c
    subst hpending hstage
    cases ending with
    | closed => exact ⟨1, .failed .ended, .single (by rw [hcall]; rfl) (by rw [hcall]; rfl)⟩
    | broken => exact ⟨1, .failed .request, .single (by rw [hcall]; rfl) (by rw [hcall]; rfl)⟩
    | held => exact ⟨1, .silent, .single (by rw [hcall]; rfl) (by rw [hcall]; rfl)⟩
  | cons chunk rest ih =>
    have hrest : ∃ n signal, Passes accept
        { c.receive chunk with stage := .reading rest ending } ctx n signal :=
      passes_of_drained (ih rfl rfl)
    obtain ⟨n, signal, hpasses⟩ := hrest
    refine ⟨n, signal, hpasses.congr ?_ ?_⟩
    · rw [next_reading hpending hstage]
    · rw [next_reading hpending hstage]

/-! ### Replies -/

/-- What a reply does to a connection does not depend on which frames are accepted. -/
theorem accepted_passed (accept : Frame → Option α) (c : Connection) (reply : Reply) :
    let all : Signal Frame × Connection := c.accepted reply
    all.1.passed accept = some (c.accepted reply).1 ∧
      all.2 = (c.accepted reply : Signal α × _).2 := by
  cases reply with
  | unsent => exact ⟨rfl, rfl⟩
  | dropped => exact ⟨rfl, rfl⟩
  | response r =>
    simp only [accepted]
    split
    · exact ⟨rfl, rfl⟩
    split
    · exact ⟨rfl, rfl⟩
    split
    · exact ⟨rfl, rfl⟩
    · exact ⟨rfl, rfl⟩

/-- A call for the next accepted signal is some calls for the next signal. -/
theorem passes (accept : Frame → Option α) (c : Connection) (ctx : Context σ) :
    ∃ n signal, Passes accept c ctx n signal := by
  refine passes_of_drained ?_
  generalize hc : { c with pending := [] } = drained
  have hpending : drained.pending = [] := by rw [← hc]
  cases hstage : drained.stage with
  | reading chunks ending => exact passes_reading hpending hstage
  | finished =>
    have hcall := call_finished hpending hstage ctx
    refine ⟨1, .closed, .single (by rw [hcall]; rfl) ?_⟩
    rw [hcall]
    obtain ⟨client, map, decoder, delay, pending, stage⟩ := drained
    subst hpending hstage
    rfl
  | connecting delayed =>
    obtain ⟨wire, toasts⟩ := ctx
    obtain ⟨e, wire', -, -, hnext⟩ := next_connecting hpending hstage wire
    obtain ⟨hsignal, hafter⟩ := accepted_passed accept drained e.reply
    refine ⟨1, (drained.accepted e.reply).1, .single ?_ ?_⟩
    · rw [call, hnext some toasts]
      exact hsignal
    · rw [call, hnext some toasts, hnext accept toasts]
      simp only
      rw [hafter]

/-- A call of which the signal passes is the call for the next accepted signal. -/
theorem passes_of_call (h : (c.call ctx).1.signal.passed accept = some signal) :
    Passes accept c ctx 1 signal := by
  obtain ⟨n, signal', hpasses⟩ := passes accept c ctx
  have hfirst : (c.calls 1 ctx).filterMap (·.signal.passed accept) = [signal] := by
    simp [calls, h]
  have hn : n = 1 := by
    by_contra hne
    have hpos := hpasses.pos
    rw [hpasses.before 1 (by omega)] at hfirst
    cases hfirst
  subst hn
  have hsame := hpasses.passed
  rw [hfirst] at hsame
  cases hsame
  exact hpasses

end Connection

end WormholeMap.EventStream

import WormholeMap.Proofs.EventStream.Blocks
import Mathlib.Data.List.DropRight

/-!
The scan of a buffer for whole lines, place by place, and what it leaves. Every line that is cut lies
within the buffer with its end, so the scan never reaches past the buffer and always gets on
(`cut?_spans`). What a decoder holds after it is told from the bytes that have come since the
connection was opened (`settled_feed`): the bytes after the last line end, whether the last of all is
a CR, and data where a line of the block that has begun gives some.
-/

namespace WormholeMap.EventStream

/-! ### Within a buffer -/

/-- A line that is cut from a buffer at a place goes up to `stop`, where a byte of the buffer ends
it. What follows is the next byte, or the one after it where a CR and an LF end the line together. -/
structure Cut.Spans (c : Cut) (buffer : List UInt8) (place stop : Nat) : Prop where
  place_le : place ≤ stop
  stop_lt : stop < buffer.length
  line : c.line = (buffer.take stop).drop place
  ended : endsLine buffer[stop] = true
  next : c.next = stop + 1 ∨
    c.next = stop + 2 ∧ buffer[stop]? = some 13 ∧ buffer[stop + 1]? = some 10
  next_le : c.next ≤ buffer.length

variable {buffer : List UInt8} {place stop : Nat} {c : Cut}

theorem Cut.Spans.advances (h : c.Spans buffer place stop) : place < c.next := by
  have hle := h.place_le
  have hnext := h.next
  omega

theorem afterEnd_cases (buffer : List UInt8) (stop : Nat) :
    (afterEnd buffer stop).1 = stop + 1 ∨
      (afterEnd buffer stop).1 = stop + 2 ∧ buffer[stop]? = some 13 ∧
        buffer[stop + 1]? = some 10 := by
  unfold afterEnd
  split
  · rename_i hcr hlf
    exact .inr ⟨rfl, hcr, hlf⟩
  · exact .inl rfl
  · exact .inl rfl

/-- A line that is cut lies within the buffer with its end. -/
theorem cut?_spans (h : cut? buffer place = some c) : ∃ stop, c.Spans buffer place stop := by
  have hbounds := cut?_bounds h
  unfold cut? at h
  split at h
  · cases h
  · rename_i offset hoffset
    obtain ⟨hlt, hend, -⟩ := List.findIdx?_eq_some_iff_getElem.mp hoffset
    rw [List.length_drop] at hlt
    rw [List.getElem_drop] at hend
    cases h
    refine ⟨place + offset, ?_⟩
    exact {
      place_le := Nat.le_add_right place offset
      stop_lt := by omega
      line := by rw [List.drop_take, Nat.add_sub_cancel_left]
      ended := hend
      next := afterEnd_cases buffer (place + offset)
      next_le := hbounds.2 }

/-! ### Place by place -/

/-- The scan of a buffer is at a place, with the block that has begun there: it starts at the first
byte, and a line that it takes up leads to the place after it. -/
inductive Visits (buffer : List UInt8) (block : Block) : Nat → Block → Prop
  | first : Visits buffer block 0 block
  | line {place : Nat} {begun : Block} {c : Cut} (h : Visits buffer block place begun)
      (hcut : cut? buffer place = some c) :
      Visits buffer block c.next (begun.endLine (Utf8.decodeChars c.line)).1

variable {block begun : Block}

theorem Visits.place_le (h : Visits buffer block place begun) : place ≤ buffer.length := by
  cases h with
  | first => exact Nat.zero_le _
  | line _ hcut => exact (cut?_bounds hcut).2

/-- The scan goes on from a place until no line ends any more. -/
theorem Visits.drain (h : Visits buffer block place begun) :
    let lines := drain buffer place begun
    Visits buffer block lines.next lines.block ∧ cut? buffer lines.next = none := by
  fun_induction EventStream.drain buffer place begun with
  | case1 place begun hcut => exact ⟨h, hcut⟩
  | case2 place begun c hcut ended items hended rest ih =>
    have hnext := h.line hcut
    rw [hended] at hnext
    exact ih hnext

/-- A block that has begun has data where a line of it gives some. -/
theorem Block.data_ofText_eq_nil_iff {cursor : Option String} {t : BlockText} :
    (ofText cursor t).data = [] ↔ t.values "data" = [] := by
  rw [ofText, List.flatMap_eq_nil_iff, List.eq_nil_iff_forall_not_mem]
  exact forall_congr' fun value => imp_congr_right fun _ => by simp

namespace Decoder

/-- The bytes that are scanned when a chunk comes: those of the line that has begun, and those of the
chunk without an LF that belongs to the end of the line before. -/
def scanned (d : Decoder) (chunk : List UInt8) : List UInt8 :=
  d.buffer ++ if d.skipLf ∧ chunk.head? = some 10 then chunk.tail else chunk

/-- What a chunk leads to is what the scan leads to, and of the bytes scanned those after its last
place are kept. -/
theorem push_eq_drain (d : Decoder) (chunk : List UInt8) :
    let lines := drain (d.scanned chunk) 0 d.block
    d.push chunk =
      (⟨(d.scanned chunk).drop lines.next, lines.block, (d.skipLf && chunk.isEmpty) || lines.atCr⟩,
        lines.items) := by
  cases chunk with
  | nil => simp [push, scanned]
  | cons b rest => simp [push, scanned]

/-! ### What is left -/

/-- A decoder and the bytes that have come since it was started, or reset for a new connection. -/
inductive Received : List UInt8 → Decoder → Prop
  | start (lastId : Option String) : Received [] (start lastId)
  | push {bytes : List UInt8} {d : Decoder} (h : Received bytes d) (chunk : List UInt8) :
      Received (bytes ++ chunk) (d.push chunk).1
  | reset {bytes : List UInt8} {d : Decoder} (h : Received bytes d) : Received [] d.reset

variable {bytes : List UInt8} {d : Decoder}

theorem Reachable.received (h : d.Reachable) : ∃ bytes, Received bytes d := by
  induction h with
  | start lastId => exact ⟨[], .start lastId⟩
  | push _ chunk ih =>
    obtain ⟨bytes, hbytes⟩ := ih
    exact ⟨bytes ++ chunk, hbytes.push chunk⟩
  | reset _ ih =>
    obtain ⟨bytes, hbytes⟩ := ih
    exact ⟨[], hbytes.reset⟩

/-- The bytes since the connection was opened, taken one after another from a cursor. -/
theorem Received.eq_feed (h : Received bytes d) :
    ∃ cursor, d = ((Decoder.start cursor).feed bytes).1 := by
  induction h with
  | start lastId => exact ⟨lastId, rfl⟩
  | @push bytes d _ chunk ih =>
    obtain ⟨cursor, rfl⟩ := ih
    refine ⟨cursor, ?_⟩
    rw [push_eq_feed ((clean_start cursor).feed bytes), feed_append]
  | @reset bytes d _ _ => exact ⟨d.lastId, rfl⟩

/-- What a decoder holds after the bytes of a connection: the bytes after the last line end, and
whether the last of all is a CR, after which nothing is held; and data where a line since the last
empty one gives some. -/
structure Settled (bytes : List UInt8) (d : Decoder) : Prop extends d.Clean where
  buffer_eq : d.buffer = bytes.rtakeWhile fun b => !endsLine b
  skipLf_iff : d.skipLf = true ↔ bytes.getLast? = some 13
  data_iff : d.block.data = [] ↔ (Body.ofBytes bytes).unfinished.values "data" = []
  hasData_iff : d.block.hasData = false ↔ d.block.data = []

/-- The line that has begun, byte by byte. -/
theorem buffer_feed (cursor : Option String) (bytes : List UInt8) :
    let after := ((start cursor).feed bytes).1
    after.buffer = (bytes.rtakeWhile fun b => !endsLine b) ∧
      (after.skipLf = true ↔ bytes.getLast? = some 13) := by
  induction bytes using List.reverseRecOn with
  | nil => exact ⟨rfl, by simp [start]⟩
  | append_singleton bytes b ih =>
    have hclean : ((start cursor).feed bytes).1.Clean := (clean_start cursor).feed bytes
    rw [feed_append]
    generalize ((start cursor).feed bytes).1 = d at ih hclean
    obtain ⟨hbuffer, hskip⟩ := ih
    rw [List.rtakeWhile_concat, List.getLast?_concat]
    by_cases hlf : b = 10
    · -- An LF ends a line, or belongs to the end of the line before; then nothing was held.
      cases hd : d.skipLf with
      | true => simp [feed, step, hlf, hd, endsLine, hclean.skipLf hd]
      | false => simp [feed, step, flush, hlf, hd, endsLine]
    · by_cases hcr : b = 13
      · simp [feed, step, flush, hcr, endsLine]
      · simp [feed, step, hlf, hcr, endsLine, hbuffer]

/-- The block that has begun is what the lines after the last empty one amount to. -/
theorem block_feed (cursor : Option String) (bytes : List UInt8) :
    let body := Body.ofBytes bytes
    ((start cursor).feed bytes).1.block =
      .ofText (BlockText.idAfter cursor body.finished) body.unfinished := by
  intro body
  -- Lines are taken up as they end, so the one that has begun is no part of the block yet.
  obtain ⟨hblock, -⟩ := feed_endedLines [] bytes (.start cursor)
  rw [Block.endLines_start] at hblock
  exact hblock

theorem settled_feed (cursor : Option String) (bytes : List UInt8) :
    Settled bytes ((start cursor).feed bytes).1 := by
  obtain ⟨hbuffer, hskip⟩ := buffer_feed cursor bytes
  have hblock := block_feed cursor bytes
  refine ⟨(clean_start cursor).feed bytes, hbuffer, hskip, ?_, ?_⟩
  · rw [hblock]
    exact Block.data_ofText_eq_nil_iff
  · rw [hblock, Block.data_ofText_eq_nil_iff]
    exact decide_eq_false_iff_not.trans not_not

/-- Whatever came before, the scan for a chunk stays within the buffer, gets on with each line and
goes on to where none ends. Of the bytes that have come since the connection was opened, those after
the last line end are left. -/
theorem scan_settles (h : d.Reachable) (chunk : List UInt8) :
    let buffer := d.scanned chunk
    let lines := drain buffer 0 d.block
    let after := (d.push chunk).1
    (∀ place begun, Visits buffer d.block place begun → place ≤ buffer.length ∧
      ∀ c, cut? buffer place = some c → (∃ stop, c.Spans buffer place stop) ∧ place < c.next) ∧
    (Visits buffer d.block lines.next lines.block ∧ cut? buffer lines.next = none) ∧
    (after.buffer = buffer.drop lines.next ∧ after.block = lines.block) ∧
    (∃ bytes, Received bytes d) ∧ ∀ bytes, Received bytes d → Settled (bytes ++ chunk) after := by
  intro buffer lines after
  have hpush : after = ⟨buffer.drop lines.next, lines.block, _⟩ :=
    congrArg Prod.fst (d.push_eq_drain chunk)
  refine ⟨fun place begun hplace => ⟨hplace.place_le, fun c hcut => ?_⟩, Visits.first.drain, ?_,
    h.received, fun bytes hbytes => ?_⟩
  · obtain ⟨stop, hspans⟩ := cut?_spans hcut
    exact ⟨⟨stop, hspans⟩, hspans.advances⟩
  · rw [hpush]
    exact ⟨rfl, rfl⟩
  · obtain ⟨cursor, hafter⟩ := (hbytes.push chunk).eq_feed
    rw [show after = _ from hafter]
    exact settled_feed cursor (bytes ++ chunk)

/-- A chunk that begins with the LF of a line that was ended by a CR, and ends within a line after an
empty datum. -/
theorem scan_settles_split :
    let bytes := Utf8.encode "data: a\r"
    let chunk := 10 :: Utf8.encode "data: b\r\n\r\ndata\nda"
    let d := (((start (some "7")).push (Utf8.encode "id: 8\ndata")).1.reset.push bytes).1
    let after := (d.push chunk).1
    d.Reachable ∧ Received bytes d ∧ Settled (bytes ++ chunk) after ∧
      after.buffer = Utf8.encode "da" ∧ after.skipLf = false ∧ after.block.data ≠ [] := by
  intro bytes chunk d after
  have hreach : d.Reachable := ((Reachable.start (some "7")).push _).reset.push _
  have hbytes : Received bytes d := ((Received.start (some "7")).push _).reset.push _
  obtain ⟨-, -, -, -, hsettled⟩ := scan_settles hreach chunk
  have hafter : Settled (bytes ++ chunk) after := hsettled bytes hbytes
  refine ⟨hreach, hbytes, hafter, hafter.buffer_eq.trans (by decide), ?_, ?_⟩
  · exact Bool.eq_false_iff.mpr (mt hafter.skipLf_iff.mp (by decide))
  · exact mt hafter.data_iff.mp (by decide +kernel)

end Decoder

end WormholeMap.EventStream

import WormholeMap.EventStream.Decoder
import Mathlib.Data.List.Basic

/-!
How a body is cut into chunks makes no difference. A decoder that is given a chunk scans a buffer
for whole lines; `Decoder.feed` takes the same bytes one after another. Between two chunks no line
end is left in the buffer (`Decoder.Clean`), and then both lead to the same decoder and the same
items (`push_eq_feed`). Since `feed` takes no notice of chunks, `push` takes none either.
-/

namespace WormholeMap.EventStream

namespace Decoder

/-! ### Byte by byte -/

def flush (d : Decoder) : Decoder × List Item :=
  let (block, items) := d.block.endLine (Utf8.decodeChars d.buffer)
  (⟨[], block, false⟩, items)

def step (d : Decoder) (b : UInt8) : Decoder × List Item :=
  if b = 10 then
    if d.skipLf then ({ d with skipLf := false }, []) else d.flush
  else if b = 13 then ({ d.flush.1 with skipLf := true }, d.flush.2)
  else ({ d with buffer := d.buffer ++ [b], skipLf := false }, [])

/-- Bytes one after another, and the items they complete. -/
def feed (d : Decoder) : List UInt8 → Decoder × List Item
  | [] => (d, [])
  | b :: rest =>
    let after := feed (d.step b).1 rest
    (after.1, (d.step b).2 ++ after.2)

@[simp] theorem feed_nil (d : Decoder) : d.feed [] = (d, []) := rfl

theorem feed_append (d : Decoder) (a b : List UInt8) :
    d.feed (a ++ b) = (((d.feed a).1.feed b).1, (d.feed a).2 ++ ((d.feed a).1.feed b).2) := by
  induction a generalizing d with
  | nil => simp
  | cons x a ih => simp [feed, ih, List.append_assoc]

/-- Bytes that end no line extend the line that has begun. -/
theorem feed_line {line : List UInt8} (h : ∀ b ∈ line, endsLine b = false) (buffer : List UInt8)
    (block : Block) :
    feed ⟨buffer, block, false⟩ line = (⟨buffer ++ line, block, false⟩, []) := by
  induction line generalizing buffer with
  | nil => simp
  | cons b line ih =>
    have hb : b ≠ 10 ∧ b ≠ 13 := by simpa [endsLine] using h b (by simp)
    have hstep : step ⟨buffer, block, false⟩ b = (⟨buffer ++ [b], block, false⟩, []) := by
      simp [step, hb]
    rw [feed, hstep, ih fun x hx => h x (by simp [hx])]
    simp

/-- Only an LF shows whether one is to be left out. -/
theorem feed_of_head_ne {bytes : List UInt8} (h : bytes ≠ []) (hlf : bytes.head? ≠ some 10)
    (buffer : List UInt8) (block : Block) (skipLf : Bool) :
    feed ⟨buffer, block, skipLf⟩ bytes = feed ⟨buffer, block, false⟩ bytes := by
  cases bytes with
  | nil => exact absurd rfl h
  | cons b rest =>
    have hb : b ≠ 10 := by simpa using hlf
    simp [feed, step, flush, hb]

/-! ### Whole lines -/

/-- How a line ends in a buffer: with an LF, with a CRLF, or with a CR that no LF follows. -/
inductive LineEnding : List UInt8 → List UInt8 → Bool → Prop
  | lf (rest : List UInt8) : LineEnding [10] rest false
  | crlf (rest : List UInt8) : LineEnding [13, 10] rest false
  | cr {b : UInt8} (rest : List UInt8) (h : b ≠ 10) : LineEnding [13] (b :: rest) false
  | pending : LineEnding [13] [] true

/-- What follows a line in a buffer is its end, and then the place after it. -/
theorem lineEnding_afterEnd {buffer : List UInt8} {stop : Nat} (h : stop < buffer.length)
    (hend : endsLine buffer[stop] = true) :
    ∃ ending, buffer.drop stop = ending ++ buffer.drop (afterEnd buffer stop).1 ∧
      LineEnding ending (buffer.drop (afterEnd buffer stop).1) (afterEnd buffer stop).2 := by
  have hdrop : buffer.drop stop = buffer[stop] :: buffer.drop (stop + 1) :=
    List.drop_eq_getElem_cons h
  have hget : buffer[stop]? = some buffer[stop] := List.getElem?_eq_getElem h
  by_cases hcr : buffer[stop] = 13
  · rw [hcr] at hdrop hget
    cases hnext : buffer[stop + 1]? with
    | none =>
      have hnil : buffer.drop (stop + 1) = [] :=
        List.drop_eq_nil_of_le (List.getElem?_eq_none_iff.mp hnext)
      have hafter : afterEnd buffer stop = (stop + 1, true) := by simp [afterEnd, hget, hnext]
      exact ⟨[13], by simp [hafter, hdrop], by rw [hafter, hnil]; exact .pending⟩
    | some b =>
      obtain ⟨hlt, hb⟩ := List.getElem?_eq_some_iff.mp hnext
      have htail : buffer.drop (stop + 1) = b :: buffer.drop (stop + 2) := by
        rw [List.drop_eq_getElem_cons hlt, hb]
      by_cases hlf : b = 10
      · have hafter : afterEnd buffer stop = (stop + 2, false) := by
          simp [afterEnd, hget, hnext, hlf]
        exact ⟨[13, 10], by simp [hafter, hdrop, htail, hlf], by rw [hafter]; exact .crlf _⟩
      · have hafter : afterEnd buffer stop = (stop + 1, false) := by
          simp [afterEnd, hget, hnext, hlf]
        exact ⟨[13], by simp [hafter, hdrop], by rw [hafter, htail]; exact .cr _ hlf⟩
  · have hlf : buffer[stop] = 10 := by simpa [endsLine, hcr] using hend
    rw [hlf] at hdrop hget
    have hafter : afterEnd buffer stop = (stop + 1, false) := by simp [afterEnd, hget]
    exact ⟨[10], by simp [hafter, hdrop], by rw [hafter]; exact .lf _⟩

/-- A line that is cut from a buffer, with what follows it. -/
theorem cut?_eq_some {buffer : List UInt8} {start : Nat} {c : Cut}
    (h : cut? buffer start = some c) :
    ∃ ending, buffer.drop start = c.line ++ (ending ++ buffer.drop c.next) ∧
      (∀ b ∈ c.line, endsLine b = false) ∧ LineEnding ending (buffer.drop c.next) c.atCr := by
  unfold cut? at h
  split at h
  · cases h
  · rename_i offset hoffset
    obtain ⟨hlt, hend, hbefore⟩ := List.findIdx?_eq_some_iff_getElem.mp hoffset
    have hstop : start + offset < buffer.length := by
      rw [List.length_drop] at hlt
      omega
    rw [List.getElem_drop] at hend
    obtain ⟨ending, hsplit, hending⟩ := lineEnding_afterEnd hstop hend
    cases h
    refine ⟨ending, ?_, fun b hb => ?_, hending⟩
    · rw [← hsplit, ← List.drop_drop, List.take_append_drop]
    · obtain ⟨i, hi, rfl⟩ := List.mem_iff_getElem.mp hb
      rw [List.length_take] at hi
      rw [List.getElem_take]
      simpa using hbefore i (by omega)

/-- No line that starts at a place of a buffer ends there. -/
theorem cut?_eq_none {buffer : List UInt8} {start : Nat} (h : cut? buffer start = none) :
    ∀ b ∈ buffer.drop start, endsLine b = false := by
  unfold cut? at h
  split at h
  · rename_i hnone
    simpa using hnone
  · cases h

/-- A line and its end, byte by byte, and then the rest of the buffer. -/
theorem feed_cut {line ending rest : List UInt8} {atCr : Bool}
    (hline : ∀ b ∈ line, endsLine b = false) (hending : LineEnding ending rest atCr)
    (block : Block) :
    let ended := block.endLine (Utf8.decodeChars line)
    let after := feed ⟨[], ended.1, false⟩ rest
    feed ⟨[], block, false⟩ (line ++ (ending ++ rest)) =
      ({ after.1 with skipLf := atCr || after.1.skipLf }, ended.2 ++ after.2) := by
  intro ended after
  rw [feed_append, feed_line hline]
  cases hending with
  | lf rest => simp [feed, step, flush, ended, after]
  | crlf rest => simp [feed, step, flush, ended, after]
  | cr rest hb =>
    have hskip := feed_of_head_ne (List.cons_ne_nil _ rest) (by simpa using hb) [] ended.1 true
    simp only [List.nil_append, List.cons_append]
    rw [feed]
    simp [step, flush, ended, hskip, after]
  | pending => simp [feed, step, flush, ended, after]

/-- Scanning a buffer for whole lines is taking its bytes one after another. -/
theorem feed_drop_eq_drain (buffer : List UInt8) (start : Nat) (block : Block) :
    let lines := drain buffer start block
    feed ⟨[], block, false⟩ (buffer.drop start) =
      (⟨buffer.drop lines.next, lines.block, lines.atCr⟩, lines.items) := by
  fun_induction drain buffer start block with
  | case1 start block hcut => exact feed_line (cut?_eq_none hcut) [] block
  | case2 start block c hcut ended items hended rest ih =>
    obtain ⟨ending, hsplit, hline, hending⟩ := cut?_eq_some hcut
    rw [hsplit, feed_cut hline hending, hended]
    simp only [rest] at ih ⊢
    rw [ih]

/-! ### Chunks -/

/-- Between two chunks: no line end is left, and an LF is left out only at the start of a line. -/
structure Clean (d : Decoder) : Prop where
  buffer : ∀ b ∈ d.buffer, endsLine b = false
  skipLf : d.skipLf = true → d.buffer = []

theorem clean_start (lastId : Option String) : (start lastId).Clean :=
  ⟨by simp [start], by simp [start]⟩

theorem Clean.step {d : Decoder} (h : d.Clean) (b : UInt8) : (d.step b).1.Clean := by
  unfold Decoder.step
  split
  · split
    · exact ⟨h.buffer, by simp⟩
    · exact ⟨by simp [flush], by simp [flush]⟩
  · split
    · exact ⟨by simp [flush], by simp [flush]⟩
    · rename_i hlf hcr
      refine ⟨fun x hx => ?_, by simp⟩
      rcases List.mem_append.mp hx with hx | hx
      · exact h.buffer x hx
      · simp_all [endsLine]

theorem Clean.feed {d : Decoder} (h : d.Clean) (bytes : List UInt8) : (d.feed bytes).1.Clean := by
  induction bytes generalizing d with
  | nil => exact h
  | cons b rest ih => exact ih (h.step b)

/-- Bytes after a line that has begun, scanned together with it. -/
theorem feed_eq_drain {buffer : List UInt8} (h : ∀ b ∈ buffer, endsLine b = false) (block : Block)
    (bytes : List UInt8) :
    let lines := drain (buffer ++ bytes) 0 block
    feed ⟨buffer, block, false⟩ bytes =
      (⟨(buffer ++ bytes).drop lines.next, lines.block, lines.atCr⟩, lines.items) := by
  have hlines := feed_drop_eq_drain (buffer ++ bytes) 0 block
  rw [List.drop_zero, feed_append, feed_line h] at hlines
  simpa only [List.nil_append] using hlines

/-- The bytes of a chunk are taken one after another. -/
theorem push_eq_feed {d : Decoder} (h : d.Clean) (chunk : List UInt8) :
    d.push chunk = d.feed chunk := by
  obtain ⟨buffer, block, skipLf⟩ := d
  have hlines := feed_eq_drain h.buffer block
  cases chunk with
  | nil =>
    have hnil := hlines []
    simp only [feed_nil, List.append_nil, Prod.mk.injEq, Decoder.mk.injEq] at hnil
    obtain ⟨⟨hbuffer, hblock, hatCr⟩, hitems⟩ := hnil
    simp [push, ← hbuffer, ← hblock, ← hatCr, ← hitems]
  | cons b rest =>
    cases skipLf with
    | false =>
      rw [hlines]
      simp [push]
    | true =>
      obtain rfl : buffer = [] := h.skipLf rfl
      by_cases hb : b = 10
      · have hrest := hlines rest
        simp only [feed, step, hb]
        simp [push, hrest]
      · rw [feed_of_head_ne (List.cons_ne_nil b rest) (by simpa using hb), hlines]
        simp [push, hb]

/-- Decoders that chunks and new connections lead to. -/
inductive Reachable : Decoder → Prop
  | start (lastId : Option String) : Reachable (start lastId)
  | push {d : Decoder} (h : Reachable d) (chunk : List UInt8) : Reachable (d.push chunk).1
  | reset {d : Decoder} (h : Reachable d) : Reachable d.reset

theorem Reachable.clean {d : Decoder} (h : d.Reachable) : d.Clean := by
  induction h with
  | start lastId => exact clean_start lastId
  | push _ chunk ih =>
    rw [push_eq_feed ih]
    exact ih.feed chunk
  | reset _ _ => exact clean_start _

/-- Chunks one after another, and the items they complete. -/
def pushAll (d : Decoder) : List (List UInt8) → Decoder × List Item
  | [] => (d, [])
  | chunk :: rest =>
    let after := pushAll (d.push chunk).1 rest
    (after.1, (d.push chunk).2 ++ after.2)

theorem pushAll_eq_feed {d : Decoder} (h : d.Clean) (chunks : List (List UInt8)) :
    d.pushAll chunks = d.feed chunks.flatten := by
  induction chunks generalizing d with
  | nil => rfl
  | cons chunk rest ih =>
    have hnext : (d.push chunk).1.Clean := by
      rw [push_eq_feed h]
      exact h.feed chunk
    rw [List.flatten_cons, feed_append, ← push_eq_feed h, ← ih hnext, pushAll]

/-- Chunks lead to the decoder and the items that their bytes in one chunk lead to, wherever they
are cut. -/
theorem pushAll_eq_push_flatten {d : Decoder} (h : d.Reachable) (chunks : List (List UInt8)) :
    d.pushAll chunks = d.push chunks.flatten := by
  rw [pushAll_eq_feed h.clean, push_eq_feed h.clean]

/-- Data `é` in a block with an id, cut within the character and between the CR and the LF of both
lines, after a chunk that ended with a CR. -/
theorem pushAll_eq_push_flatten_crlf :
    let d := ((start (some "7")).push (Utf8.encode "id: 8\r")).1
    let chunks := [[10], [], Utf8.encode "data: " ++ [0xC3], [0xA9, 13], [10, 13], [], [10]]
    d.Reachable ∧ d.pushAll chunks = d.push chunks.flatten := by
  intro d chunks
  have hreach : d.Reachable := .push (.start _) _
  exact ⟨hreach, pushAll_eq_push_flatten hreach chunks⟩

end Decoder

end WormholeMap.EventStream

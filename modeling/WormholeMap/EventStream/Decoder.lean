import WormholeMap.Text.Utf8
import WormholeMap.Text.Whole

/-!
Decoding `text/event-stream` bodies as they arrive. A body is lines of `field: value`, ended by LF,
CR or CRLF, in blocks that an empty line ends. A block with data becomes a frame. A body comes in
chunks that may be cut anywhere: the bytes of a line that has begun are kept, and so is whether an
LF would still belong to the end of the line before.

The id of a block becomes the cursor only when the block ends: a connection that drops in the middle
of a block resumes after the last whole one.
-/

namespace WormholeMap.EventStream

/-- A frame: the data of a finished block, its event name, and the cursor at its end. -/
structure Frame where
  id : Option String
  event : String
  data : String
  deriving DecidableEq

/-- What a stream yields: a frame, or the delay in milliseconds that the server asks for before a
reconnection. -/
inductive Item where
  | frame (frame : Frame)
  | retry (ms : Nat)
  deriving DecidableEq

/-! ### Blocks -/

/-- The fields of the block that has begun, its data with an LF after each line, and the cursor. -/
structure Block where
  event : Option String
  data : List Char
  hasData : Bool
  pendingId : Option String
  lastId : Option String
  deriving DecidableEq

namespace Block

/-- No field yet, with a cursor. -/
def start (lastId : Option String) : Block := ⟨none, [], false, none, lastId⟩

/-- The text of the data, without the LF at its end. -/
def text (data : List Char) : String :=
  String.ofList (if data.getLast? = some '\n' then data.dropLast else data)

def name (event : Option String) : String :=
  match event with
  | none | some "" => "message"
  | some name => name

/-- Ends a block: its id becomes the cursor, and data makes it a frame. -/
def dispatch (b : Block) : Block × List Item :=
  let lastId := b.pendingId <|> b.lastId
  if b.hasData then (start lastId, [.frame ⟨lastId, name b.event, text b.data⟩])
  else ({ b with event := none, pendingId := none, lastId }, [])

/-- A line as field and value: split at the first colon, one space after it left out. -/
def splitField (line : List Char) : String × String :=
  let name := line.takeWhile (· ≠ ':')
  let value := match line.dropWhile (· ≠ ':') with
    | _ :: ' ' :: value => value
    | _ :: value => value
    | [] => []
  (String.ofList name, String.ofList value)

/-- Takes up a field. An id with a NUL, a retry that is no number and an unknown field count for
nothing. -/
def field (b : Block) : String × String → Block × List Item
  | ("event", value) => ({ b with event := some value }, [])
  | ("data", value) =>
    ({ b with data := b.data ++ value.toList ++ ['\n'], hasData := true }, [])
  | ("id", value) => (if '\x00' ∈ value.toList then b else { b with pendingId := some value }, [])
  | ("retry", value) =>
    match Whole.parse64? value with
    | some ms => (b, [.retry ms])
    | none => (b, [])
  | _ => (b, [])

/-- Takes up a line. A line that starts with a colon is a comment. -/
def endLine (b : Block) (line : List Char) : Block × List Item :=
  match line with
  | [] => b.dispatch
  | ':' :: _ => (b, [])
  | _ => b.field (splitField line)

end Block

/-! ### Lines -/

def endsLine (b : UInt8) : Bool := b = 10 || b = 13

/-- A line of a buffer: its bytes, the place after its end, and whether it ends with a CR that
nothing follows yet. -/
structure Cut where
  line : List UInt8
  next : Nat
  atCr : Bool

/-- The place after the end of a line, a CRLF being one end, and whether the end is a CR that nothing
follows yet. -/
def afterEnd (buffer : List UInt8) (stop : Nat) : Nat × Bool :=
  match buffer[stop]?, buffer[stop + 1]? with
  | some 13, some 10 => (stop + 2, false)
  | some 13, none => (stop + 1, true)
  | _, _ => (stop + 1, false)

/-- The line that starts at a place of a buffer, if it ends there. -/
def cut? (buffer : List UInt8) (start : Nat) : Option Cut :=
  match (buffer.drop start).findIdx? endsLine with
  | none => none
  | some offset =>
    let after := afterEnd buffer (start + offset)
    some ⟨(buffer.drop start).take offset, after.1, after.2⟩

theorem afterEnd_bounds {buffer : List UInt8} {stop : Nat} (h : stop < buffer.length) :
    stop < (afterEnd buffer stop).1 ∧ (afterEnd buffer stop).1 ≤ buffer.length := by
  unfold afterEnd
  split
  · rename_i hlf
    have := (List.getElem?_eq_some_iff.mp hlf).1
    simp only
    omega
  all_goals
    simp only
    omega

/-- The place after a line is further on, and not past the end of the buffer. -/
theorem cut?_bounds {buffer : List UInt8} {start : Nat} {c : Cut} (h : cut? buffer start = some c) :
    start < c.next ∧ c.next ≤ buffer.length := by
  unfold cut? at h
  split at h
  · cases h
  · rename_i offset hoffset
    have hstop : start + offset < buffer.length := by
      have := (List.findIdx?_eq_some_iff_getElem.mp hoffset).1
      rw [List.length_drop] at this
      omega
    have hafter := afterEnd_bounds hstop
    cases h
    exact ⟨Nat.lt_of_le_of_lt (Nat.le_add_right start offset) hafter.1, hafter.2⟩

/-- What the whole lines of a buffer lead to: the block that has begun after them, the items they
complete, the place after them, and whether they end with a CR that nothing follows yet. -/
structure Drained where
  block : Block
  items : List Item
  next : Nat
  atCr : Bool

/-- Takes up the whole lines of a buffer, from a place on. -/
def drain (buffer : List UInt8) (start : Nat) (block : Block) : Drained :=
  match _h : cut? buffer start with
  | none => ⟨block, [], start, false⟩
  | some c =>
    let (block, items) := block.endLine (Utf8.decodeChars c.line)
    let rest := drain buffer c.next block
    { rest with items := items ++ rest.items, atCr := c.atCr || rest.atCr }
termination_by buffer.length - start
decreasing_by
  have := cut?_bounds _h
  omega

/-! ### Chunks -/

/-- A decoder between two chunks: the bytes of the line that has begun, the block that has begun,
and whether an LF now would belong to the end of the line before. -/
structure Decoder where
  buffer : List UInt8
  block : Block
  skipLf : Bool
  deriving DecidableEq

namespace Decoder

/-- A decoder at the start of a body, with a cursor to resume from. -/
def start (lastId : Option String) : Decoder := ⟨[], .start lastId, false⟩

def lastId (d : Decoder) : Option String := d.block.lastId

/-- Forgets what has begun of a block, as for a new connection. The cursor stays. -/
def reset (d : Decoder) : Decoder := start d.lastId

/-- The bytes of a chunk, and the items they complete. -/
def push (d : Decoder) (chunk : List UInt8) : Decoder × List Item :=
  let (skipLf, bytes) := match chunk with
    | [] => (d.skipLf, [])
    | b :: rest => (false, if d.skipLf ∧ b = 10 then rest else b :: rest)
  let buffer := d.buffer ++ bytes
  let lines := drain buffer 0 d.block
  (⟨buffer.drop lines.next, lines.block, skipLf || lines.atCr⟩, lines.items)

end Decoder

end WormholeMap.EventStream

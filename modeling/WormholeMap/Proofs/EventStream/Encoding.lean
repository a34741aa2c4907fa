import WormholeMap.Proofs.EventStream.Blocks
import WormholeMap.Proofs.Text.Utf8

/-!
How frames are written in a body, and what a decoder makes of a body that breaks off. A frame is a
block of lines, each with an end of its own, and the end of an empty line. A decoder that reads any
beginning of written frames has handed out the frames whose empty line has begun to end, and its
cursor is the id of the last of them (`decode_prefix`): until then a block changes neither
(`Quiet`).
-/

namespace WormholeMap.EventStream

/-! ### Written frames -/

/-- The ways to end a line. -/
inductive LineBreak where
  | lf
  | crlf
  | cr
  deriving DecidableEq

namespace LineBreak

def bytes : LineBreak → List UInt8
  | lf => [10]
  | crlf => [13, 10]
  | cr => [13]

/-- Whether an LF that follows would belong to the end of the line. -/
def takesLf : LineBreak → Bool
  | cr => true
  | _ => false

end LineBreak

/-- A line of a block: a field and its value, with or without a space between them. A line without
a name is a comment. -/
structure Line where
  name : String
  spaced : Bool
  value : String
  ending : LineBreak
  name_plain : ∀ c ∈ name.toList, c ≠ ':' ∧ c ≠ '\n' ∧ c ≠ '\r'
  value_plain : ∀ c ∈ value.toList, c ≠ '\n' ∧ c ≠ '\r'
  unspaced : spaced = false → value.toList.head? ≠ some ' '
  id_plain : name = "id" → '\x00' ∉ value.toList

namespace Line

def text (l : Line) : String := l.name ++ (if l.spaced then ": " else ":") ++ l.value

def bytes (l : Line) : List UInt8 := Utf8.encode l.text ++ l.ending.bytes

/-- The values of a field, in order. -/
def values (name : String) (lines : List Line) : List String :=
  (lines.filter (·.name = name)).map (·.value)

end Line

/-- A frame as it is written: lines with data among them, and the end of an empty line. -/
structure FrameText where
  lines : List Line
  ending : LineBreak
  data : Line.values "data" lines ≠ []
  apart : ∀ l ∈ lines.getLast?, l.ending = .cr → ending ≠ .lf

namespace FrameText

def bytes (t : FrameText) : List UInt8 := t.lines.flatMap Line.bytes ++ t.ending.bytes

/-- The frame that is written: the last id, the last event name unless it is empty, and all data. -/
def frame (t : FrameText) : Frame where
  id := (Line.values "id" t.lines).getLast?
  event := ((Line.values "event" t.lines).getLast?.filter (· ≠ "")).getD "message"
  data := "\n".intercalate (Line.values "data" t.lines)

end FrameText

/-- Bytes that write frames one after another. -/
def Encodes (bytes : List UInt8) (frames : List Frame) : Prop :=
  ∃ texts : List FrameText, texts.flatMap FrameText.bytes = bytes ∧
    texts.map FrameText.frame = frames

def framesOf (items : List Item) : List Frame :=
  items.filterMap fun
    | .frame f => some f
    | .retry _ => none

@[simp] theorem framesOf_append (a b : List Item) :
    framesOf (a ++ b) = framesOf a ++ framesOf b :=
  List.filterMap_append

@[simp] theorem framesOf_frame (f : Frame) : framesOf [.frame f] = [f] := rfl

def retriesOf (items : List Item) : List Nat :=
  items.filterMap fun
    | .frame _ => none
    | .retry ms => some ms

@[simp] theorem retriesOf_append (a b : List Item) :
    retriesOf (a ++ b) = retriesOf a ++ retriesOf b :=
  List.filterMap_append

/-- The delay after retries that were asked for, from the delay before them. -/
def delayAfter (delay : Nat) (retries : List Nat) : Nat := retries.getLast?.getD delay

theorem delayAfter_append (delay : Nat) (a b : List Nat) :
    delayAfter delay (a ++ b) = delayAfter (delayAfter delay a) b := by
  cases b with
  | nil => simp [delayAfter]
  | cons ms rest =>
    rw [delayAfter, List.getLast?_append_of_ne_nil a (List.cons_ne_nil ms rest), delayAfter,
      List.getLast?_eq_some_getLast (List.cons_ne_nil ms rest)]
    rfl

/-- The cursor after frames, from the cursor before them. -/
def cursorAfter (cursor : Option String) (frames : List Frame) : Option String :=
  (frames.getLast?.map Frame.id).getD cursor

@[simp] theorem cursorAfter_nil (cursor : Option String) : cursorAfter cursor [] = cursor := rfl

theorem cursorAfter_append (cursor : Option String) (a b : List Frame) :
    cursorAfter cursor (a ++ b) = cursorAfter (cursorAfter cursor a) b := by
  unfold cursorAfter
  cases b with
  | nil => simp
  | cons f rest =>
    rw [List.getLast?_append_of_ne_nil a (List.cons_ne_nil f rest),
      List.getLast?_eq_some_getLast (List.cons_ne_nil f rest)]
    rfl

theorem cursorAfter_singleton (cursor : Option String) (f : Frame) :
    cursorAfter cursor [f] = f.id :=
  rfl

theorem cursorAfter_concat (cursor : Option String) (frames : List Frame) (f : Frame) :
    cursorAfter cursor (frames ++ [f]) = f.id := by
  rw [cursorAfter_append, cursorAfter_singleton]

/-! ### Lines -/

/-- Text that ends no line. -/
def Plain (text : String) : Prop := ∀ c ∈ text.toList, c ≠ '\n' ∧ c ≠ '\r'

-- Not by going through all characters, as is found for a statement about every character.
instance (text : String) : Decidable (Plain text) := List.decidableBAll _ _

theorem Plain.encode {text : String} (h : Plain text) :
    ∀ b ∈ Utf8.encode text, b ≠ 10 ∧ b ≠ 13 := by
  intro b hb
  refine ⟨?_, ?_⟩
  · rintro rfl
    exact (h _ (Utf8.mem_of_mem_encode hb (by decide))).1 rfl
  · rintro rfl
    exact (h _ (Utf8.mem_of_mem_encode hb (by decide))).2 rfl

namespace Block

/-- A field makes no frame, and leaves the cursor as it is. -/
theorem field_quiet (b : Block) (f : String × String) :
    framesOf (b.field f).2 = [] ∧ (b.field f).1.lastId = b.lastId := by
  unfold field
  split
  · exact ⟨rfl, rfl⟩
  · exact ⟨rfl, rfl⟩
  · split
    · exact ⟨rfl, rfl⟩
    · exact ⟨rfl, rfl⟩
  · split
    · exact ⟨rfl, rfl⟩
    · exact ⟨rfl, rfl⟩
  · exact ⟨rfl, rfl⟩

/-- Only an empty line makes a frame or moves the cursor. -/
theorem endLine_quiet (b : Block) {line : List Char} (h : line ≠ []) :
    framesOf (b.endLine line).2 = [] ∧ (b.endLine line).1.lastId = b.lastId := by
  unfold endLine
  split
  · exact absurd rfl h
  · exact ⟨rfl, rfl⟩
  · exact field_quiet b _

end Block

namespace Line

theorem toList_text (l : Line) :
    l.text.toList =
      l.name.toList ++ ':' :: ((if l.spaced then [' '] else []) ++ l.value.toList) := by
  unfold text
  split <;> simp

theorem text_ne_nil (l : Line) : l.text.toList ≠ [] := by
  rw [toList_text]
  simp

theorem splitField_text (l : Line) : Block.splitField l.text.toList = (l.name, l.value) := by
  have hname : ':' ∉ l.name.toList := fun h => (l.name_plain _ h).1 rfl
  have hvalue : afterColon ((if l.spaced then [' '] else []) ++ l.value.toList) = l.value := by
    cases hspaced : l.spaced with
    | true => simp [afterColon]
    | false => simp [afterColon, l.unspaced hspaced]
  rw [toList_text, splitField_colon hname, hvalue, String.ofList_toList]

theorem endLine_text (b : Block) (l : Line) :
    b.endLine l.text.toList = b.field (l.name, l.value) := by
  rw [b.endLine_eq_field l.text_ne_nil, splitField_text]

theorem not_endsLine (l : Line) : ∀ b ∈ Utf8.encode l.text, endsLine b = false := by
  intro b hb
  have hplain : Plain l.text := by
    intro c hc
    rw [toList_text] at hc
    rcases List.mem_append.mp hc with hc | hc
    · exact (l.name_plain c hc).2
    rcases List.mem_cons.mp hc with rfl | hc
    · decide
    rcases List.mem_append.mp hc with hc | hc
    · split at hc
      · obtain rfl := List.mem_singleton.mp hc
        decide
      · cases hc
    · exact l.value_plain c hc
  simp [endsLine, Plain.encode hplain b hb]

theorem encode_text_ne_nil (l : Line) : Utf8.encode l.text ≠ [] :=
  Utf8.encode_ne_nil l.text_ne_nil

/-- The values of a field are those that its texts give. -/
theorem values_text {name : String} (h : ':' ∉ name.toList) (lines : List Line) :
    BlockText.values name (lines.map (·.text.toList)) = values name lines := by
  induction lines with
  | nil => rfl
  | cons l rest ih =>
    have hvalue : fieldValue? name l.text.toList =
        if l.name = name then some l.value else none := by
      rw [fieldValue?_eq h, splitField_text]
    rw [List.map_cons, BlockText.values, List.filterMap_cons, hvalue, ← BlockText.values, ih]
    by_cases hname : l.name = name
    · simp [values, hname]
    · simp [values, hname]

theorem ids_text (lines : List Line) :
    BlockText.ids (lines.map (·.text.toList)) = values "id" lines := by
  rw [BlockText.ids, values_text (by decide), List.filter_eq_self]
  intro id hid
  obtain ⟨l, hl, rfl⟩ := List.mem_map.mp hid
  exact decide_eq_true (l.id_plain (of_decide_eq_true (List.mem_filter.mp hl).2))

end Line

/-! ### Blocks -/

namespace Block

def afterLines (cursor : Option String) (lines : List Line) : Block where
  event := (Line.values "event" lines).getLast?
  data := (Line.values "data" lines).flatMap fun v => v.toList ++ ['\n']
  hasData := Line.values "data" lines ≠ []
  pendingId := (Line.values "id" lines).getLast?
  lastId := cursor

theorem afterLines_eq (cursor : Option String) (lines : List Line) :
    afterLines cursor lines = ofText cursor (lines.map (·.text.toList)) := by
  rw [ofText, Line.ids_text, Line.values_text (by decide), Line.values_text (by decide)]
  rfl

theorem field_afterLines (cursor : Option String) (lines : List Line) (l : Line) :
    ((afterLines cursor lines).field (l.name, l.value)).1 = afterLines cursor (lines ++ [l]) := by
  rw [← Line.endLine_text, afterLines_eq, endLine_ofText _ _ l.text_ne_nil, afterLines_eq,
    List.map_append, List.map_singleton]

theorem text_afterLines (cursor : Option String) (t : FrameText) :
    text (afterLines cursor t.lines).data = t.frame.data :=
  text_flatMap t.data

/-- The empty line hands out the frame, and its id becomes the cursor. -/
theorem dispatch_afterLines {t : FrameText} (h : t.frame.id ≠ none) (cursor : Option String) :
    (afterLines cursor t.lines).dispatch = (start t.frame.id, [.frame t.frame]) := by
  have hdata : (afterLines cursor t.lines).hasData = true := decide_eq_true t.data
  have hid : (afterLines cursor t.lines).pendingId = t.frame.id := rfl
  obtain ⟨id, hsome⟩ := Option.ne_none_iff_exists'.mp h
  have hframe : t.frame = ⟨some id, name (afterLines cursor t.lines).event, t.frame.data⟩ := by
    rw [← hsome, name_eq]
    rfl
  have hcursor : (some id <|> (afterLines cursor t.lines).lastId) = some id := rfl
  rw [dispatch, if_pos hdata, hid, text_afterLines, hsome, hcursor, ← hframe]

end Block

/-! ### A frame that breaks off -/

namespace Decoder

/-- Bytes of which no beginning makes a frame or moves the cursor. -/
def Quiet (d : Decoder) (bytes : List UInt8) : Prop :=
  ∀ p, p <+: bytes → framesOf (d.feed p).2 = [] ∧ (d.feed p).1.lastId = d.lastId

theorem Quiet.nil (d : Decoder) : d.Quiet [] := by
  intro p hp
  obtain rfl := List.prefix_nil.mp hp
  exact ⟨rfl, rfl⟩

/-- A beginning of bytes and more bytes ends within the first of them or after them. -/
theorem prefix_append_cases {p a b : List UInt8} (h : p <+: a ++ b) :
    p <+: a ∨ ∃ q, p = a ++ q ∧ q <+: b := by
  rcases List.prefix_or_prefix_of_prefix h (List.prefix_append a b) with hp | ⟨q, rfl⟩
  · exact .inl hp
  · exact .inr ⟨q, rfl, (List.prefix_append_right_inj a).mp h⟩

theorem Quiet.append {d : Decoder} {a b : List UInt8} (ha : d.Quiet a) (hb : (d.feed a).1.Quiet b) :
    d.Quiet (a ++ b) := by
  intro p hp
  rcases prefix_append_cases hp with hp | ⟨q, rfl, hq⟩
  · exact ha p hp
  · obtain ⟨hframes, hlast⟩ := ha a (List.prefix_refl a)
    obtain ⟨hframes', hlast'⟩ := hb q hq
    rw [feed_append]
    exact ⟨by simp [hframes, hframes'], hlast'.trans hlast⟩

theorem feed_beginning {line : List UInt8} (h : ∀ b ∈ line, endsLine b = false) (hne : line ≠ [])
    (block : Block) (skipLf : Bool) :
    feed ⟨[], block, skipLf⟩ line = (⟨line, block, false⟩, []) := by
  have hhead : line.head? ≠ some 10 := by
    intro h10
    have := h 10 (List.mem_of_mem_head? (by rw [h10]; rfl))
    exact absurd this (by decide)
  rw [feed_of_head_ne hne hhead, feed_line h, List.nil_append]

/-- The end of a line, once it has begun. -/
theorem feed_break {ending : LineBreak} {p : List UInt8} (hp : p <+: ending.bytes) (hne : p ≠ [])
    {skipLf : Bool} (hskip : skipLf = true → ending ≠ .lf) (line : List UInt8) (block : Block) :
    let ended := block.endLine (Utf8.decodeChars line)
    (feed ⟨line, block, skipLf⟩ p).2 = ended.2 ∧
      ∃ takesLf, (feed ⟨line, block, skipLf⟩ p).1 = ⟨[], ended.1, takesLf⟩ ∧
        (p = ending.bytes → takesLf = ending.takesLf) := by
  intro ended
  cases ending with
  | lf =>
    obtain rfl : skipLf = false := by simpa using hskip
    obtain rfl : p = [10] := by simpa [LineBreak.bytes, List.prefix_cons_iff, hne] using hp
    exact ⟨by simp [feed, step, flush, ended], false, by simp [feed, step, flush, ended],
      fun _ => rfl⟩
  | cr =>
    obtain rfl : p = [13] := by simpa [LineBreak.bytes, List.prefix_cons_iff, hne] using hp
    exact ⟨by simp [feed, step, flush, ended], true, by simp [feed, step, flush, ended],
      fun _ => rfl⟩
  | crlf =>
    obtain ⟨t, rfl, rfl | rfl⟩ : ∃ t, p = 13 :: t ∧ (t = [] ∨ t = [10]) := by
      simpa [LineBreak.bytes, List.prefix_cons_iff, hne] using hp
    · exact ⟨by simp [feed, step, flush, ended], true, by simp [feed, step, flush, ended],
        by decide⟩
    · exact ⟨by simp [feed, step, flush, ended], false, by simp [feed, step, flush, ended],
        fun _ => rfl⟩

theorem quiet_beginning {line : List UInt8} (h : ∀ b ∈ line, endsLine b = false) (block : Block)
    (skipLf : Bool) : Quiet ⟨[], block, skipLf⟩ line := by
  intro p hp
  by_cases hne : p = []
  · subst hne
    exact ⟨rfl, rfl⟩
  · rw [feed_beginning (fun b hb => h b (hp.subset hb)) hne]
    exact ⟨rfl, rfl⟩

theorem break_ne_nil (ending : LineBreak) : ending.bytes ≠ [] := by
  cases ending <;> simp [LineBreak.bytes]

/-- A line, byte by byte. -/
theorem feed_lineBytes (l : Line) (block : Block) (skipLf : Bool) :
    feed ⟨[], block, skipLf⟩ l.bytes =
      (⟨[], (block.field (l.name, l.value)).1, l.ending.takesLf⟩,
        (block.field (l.name, l.value)).2) := by
  have hskip : false = true → l.ending ≠ .lf := nofun
  obtain ⟨hitems, takesLf, hafter, htakes⟩ := feed_break (List.prefix_refl l.ending.bytes)
    (break_ne_nil l.ending) hskip (Utf8.encode l.text) block
  rw [htakes rfl] at hafter
  rw [Line.bytes, feed_append, feed_beginning l.not_endsLine l.encode_text_ne_nil, hafter, hitems,
    Utf8.decodeChars_encode, l.endLine_text, List.nil_append]

theorem quiet_lineBytes (l : Line) (block : Block) (skipLf : Bool) :
    Quiet ⟨[], block, skipLf⟩ l.bytes := by
  refine (quiet_beginning l.not_endsLine block skipLf).append ?_
  rw [feed_beginning l.not_endsLine l.encode_text_ne_nil]
  intro p hp
  by_cases hne : p = []
  · subst hne
    exact ⟨rfl, rfl⟩
  · have hskip : false = true → l.ending ≠ .lf := nofun
    obtain ⟨hitems, _, hafter, _⟩ := feed_break hp hne hskip (Utf8.encode l.text) block
    have hquiet := block.endLine_quiet l.text_ne_nil
    rw [hitems, hafter, Utf8.decodeChars_encode]
    exact hquiet

/-- The lines of a block, byte by byte. -/
theorem feed_lines (cursor : Option String) (before lines : List Line) (skipLf : Bool) :
    (feed ⟨[], Block.afterLines cursor before, skipLf⟩ (lines.flatMap Line.bytes)).1 =
      ⟨[], Block.afterLines cursor (before ++ lines),
        (lines.getLast?.map (·.ending.takesLf)).getD skipLf⟩ := by
  induction lines generalizing before skipLf with
  | nil => simp
  | cons l rest ih =>
    rw [List.flatMap_cons, feed_append, feed_lineBytes, Block.field_afterLines]
    simp only
    rw [ih, List.append_assoc, List.singleton_append]
    cases rest with
    | nil => rfl
    | cons m rest =>
      rw [List.getLast?_cons_cons, List.getLast?_eq_some_getLast (List.cons_ne_nil m rest)]
      rfl

theorem quiet_lines (cursor : Option String) (before lines : List Line) (skipLf : Bool) :
    Quiet ⟨[], Block.afterLines cursor before, skipLf⟩ (lines.flatMap Line.bytes) := by
  induction lines generalizing before skipLf with
  | nil => exact Quiet.nil _
  | cons l rest ih =>
    rw [List.flatMap_cons]
    refine (quiet_lineBytes l _ skipLf).append ?_
    rw [feed_lineBytes, Block.field_afterLines]
    exact ih _ _

/-! ### Frames -/

/-- A frame is complete once the end of its empty line has begun. -/
theorem feed_ended {t : FrameText} (hid : t.frame.id ≠ none) {q : List UInt8}
    (hq : q <+: t.ending.bytes) (hne : q ≠ []) (cursor : Option String) (skipLf : Bool) :
    let after := feed ⟨[], .start cursor, skipLf⟩ (t.lines.flatMap Line.bytes ++ q)
    framesOf after.2 = [t.frame] ∧ ∃ takesLf, after.1 = ⟨[], .start t.frame.id, takesLf⟩ := by
  intro after
  have hlines : t.lines ≠ [] := by
    intro hnil
    exact t.data (by rw [hnil]; rfl)
  have hfeed := feed_lines cursor [] t.lines skipLf
  obtain ⟨hquiet, _⟩ := quiet_lines cursor [] t.lines skipLf _ (List.prefix_refl _)
  rw [List.nil_append, List.getLast?_eq_some_getLast hlines, Option.map_some, Option.getD_some]
    at hfeed
  have hskip : (t.lines.getLast hlines).ending.takesLf = true → t.ending ≠ .lf := by
    intro htakes
    refine t.apart _ (List.getLast?_eq_some_getLast hlines) ?_
    revert htakes
    cases (t.lines.getLast hlines).ending <;> simp [LineBreak.takesLf]
  obtain ⟨hitems, takesLf, hafter, _⟩ :=
    feed_break hq hne hskip [] (Block.afterLines cursor t.lines)
  have hempty (b : Block) : b.endLine (Utf8.decodeChars []) = b.dispatch := by
    rw [Utf8.decodeChars]
    rfl
  rw [hempty, Block.dispatch_afterLines hid] at hitems hafter
  have hstart : Block.afterLines cursor [] = Block.start cursor := rfl
  rw [hstart] at hfeed hquiet
  simp only [after, feed_append, framesOf_append, hquiet, hfeed, hitems, hafter, List.nil_append,
    framesOf_frame]
  exact ⟨trivial, takesLf, rfl⟩

/-- A frame that may break off is quiet or complete. -/
theorem feed_frameText_prefix {t : FrameText} (hid : t.frame.id ≠ none) {p : List UInt8}
    (hp : p <+: t.bytes) (cursor : Option String) (skipLf : Bool) :
    let after := feed ⟨[], .start cursor, skipLf⟩ p
    (framesOf after.2 = [] ∧ after.1.lastId = cursor) ∨
      (framesOf after.2 = [t.frame] ∧ after.1.lastId = t.frame.id) := by
  intro after
  have hquiet : framesOf after.2 = [] ∧ after.1.lastId = cursor ∨
      ∃ q, p = t.lines.flatMap Line.bytes ++ q ∧ q <+: t.ending.bytes ∧ q ≠ [] := by
    rcases prefix_append_cases hp with hp | ⟨q, rfl, hq⟩
    · exact .inl (quiet_lines cursor [] t.lines skipLf p hp)
    · by_cases hne : q = []
      · subst hne
        have hall : t.lines.flatMap Line.bytes ++ [] <+: t.lines.flatMap Line.bytes :=
          ⟨[], by simp⟩
        exact .inl (quiet_lines cursor [] t.lines skipLf _ hall)
      · exact .inr ⟨q, rfl, hq, hne⟩
  rcases hquiet with hquiet | ⟨q, rfl, hq, hne⟩
  · exact .inl hquiet
  · obtain ⟨hframes, takesLf, hafter⟩ := feed_ended hid hq hne cursor skipLf
    exact .inr ⟨hframes, congrArg lastId hafter⟩

/-- A decoder that reads the beginning of written frames hands out the first of them, and its cursor
is the id of the last of those. -/
theorem decode_texts_prefix {texts : List FrameText} (hid : ∀ t ∈ texts, t.frame.id ≠ none)
    {p : List UInt8} (hp : p <+: texts.flatMap FrameText.bytes) (cursor : Option String)
    (skipLf : Bool) :
    let after := feed ⟨[], .start cursor, skipLf⟩ p
    framesOf after.2 <+: texts.map FrameText.frame ∧
      after.1.lastId = cursorAfter cursor (framesOf after.2) := by
  induction texts generalizing p cursor skipLf with
  | nil =>
    obtain rfl := List.prefix_nil.mp hp
    exact ⟨List.nil_prefix, rfl⟩
  | cons t rest ih =>
    intro after
    have ht := hid t (by simp)
    rcases prefix_append_cases hp with hp | ⟨q, rfl, hq⟩
    · rcases feed_frameText_prefix ht hp cursor skipLf with ⟨hframes, hlast⟩ | ⟨hframes, hlast⟩
      · exact ⟨by simp [after, hframes], by rw [hlast, hframes, cursorAfter_nil]⟩
      · exact ⟨by simp [after, hframes], by rw [hlast, hframes, cursorAfter_singleton]⟩
    · obtain ⟨hframes, takesLf, hafter⟩ :=
        feed_ended ht (List.prefix_refl _) (break_ne_nil t.ending) cursor skipLf
      obtain ⟨hrest, hlast⟩ := ih (fun u hu => hid u (by simp [hu])) hq t.frame.id takesLf
      rw [← FrameText.bytes] at hframes hafter
      simp only [after, feed_append, hafter, framesOf_append, hframes]
      rw [cursorAfter_append, cursorAfter_singleton, List.map_cons, List.singleton_append]
      exact ⟨(List.prefix_cons_inj _).mpr hrest, hlast⟩

/-- A decoder that reads all of written frames hands them all out. -/
theorem decode_texts {texts : List FrameText} (hid : ∀ t ∈ texts, t.frame.id ≠ none)
    (cursor : Option String) (skipLf : Bool) :
    framesOf (feed ⟨[], .start cursor, skipLf⟩ (texts.flatMap FrameText.bytes)).2 =
      texts.map FrameText.frame := by
  induction texts generalizing cursor skipLf with
  | nil => rfl
  | cons t rest ih =>
    obtain ⟨hframes, takesLf, hafter⟩ :=
      feed_ended (hid t (by simp)) (List.prefix_refl _) (break_ne_nil t.ending) cursor skipLf
    rw [← FrameText.bytes] at hframes hafter
    rw [List.flatMap_cons, feed_append, framesOf_append, hafter, hframes,
      ih (fun u hu => hid u (by simp [hu])), List.map_cons, List.singleton_append]

/-- A decoder that reads the beginning of written frames hands out the first of them, and its cursor
is the id of the last of those. -/
theorem decode_prefix {bytes p : List UInt8} {frames : List Frame} (h : Encodes bytes frames)
    (hid : ∀ f ∈ frames, f.id ≠ none) (hp : p <+: bytes) (cursor : Option String) :
    framesOf ((start cursor).feed p).2 <+: frames ∧
      ((start cursor).feed p).1.lastId =
        cursorAfter cursor (framesOf ((start cursor).feed p).2) := by
  obtain ⟨texts, rfl, rfl⟩ := h
  exact decode_texts_prefix (fun t ht => hid _ (List.mem_map_of_mem ht)) hp cursor false

theorem decode_all {bytes : List UInt8} {frames : List Frame} (h : Encodes bytes frames)
    (hid : ∀ f ∈ frames, f.id ≠ none) (cursor : Option String) :
    framesOf ((start cursor).feed bytes).2 = frames := by
  obtain ⟨texts, rfl, rfl⟩ := h
  exact decode_texts (fun t ht => hid _ (List.mem_map_of_mem ht)) cursor false

end Decoder

end WormholeMap.EventStream

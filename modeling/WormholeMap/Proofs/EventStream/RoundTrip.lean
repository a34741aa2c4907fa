import WormholeMap.Proofs.EventStream.Encoding

/-!
Frames that are written as lines are read back (`push_writeLines`). A message is written as an id
line if it has an id, an event line, a line for each piece of its data between two LFs, and an empty
line. Lines that count for nothing may stand between them (`Padded`), and any one of the ends of a
line is used throughout.
-/

namespace WormholeMap.EventStream

/-! ### Written messages -/

/-- What is to be sent as a frame: an id if it gets one of its own, an event name, and data. -/
structure Message where
  id? : Option String
  event : String
  data : String
  id_plain : ∀ id ∈ id?, Plain id ∧ '\x00' ∉ id.toList
  event_plain : Plain event
  data_plain : '\r' ∉ data.toList

def fieldLine (name value : String) : String := name ++ ": " ++ value

namespace Message

/-- The pieces of the data that LFs stand between: one at least, and all of them may be empty. -/
def pieces (m : Message) : List String := (m.data.toList.splitOn '\n').map String.ofList

/-- The lines of a message, without the empty line that ends it. -/
def lines (m : Message) : List String :=
  m.id?.toList.map (fieldLine "id") ++ fieldLine "event" m.event :: m.pieces.map (fieldLine "data")

/-- The frame that a message makes, with the cursor at its end. -/
def frame (cursor : Option String) (m : Message) : Frame where
  id := cursor
  event := if m.event = "" then "message" else m.event
  data := m.data

end Message

/-- The lines of messages, an empty line after each. -/
def messageLines (messages : List Message) : List String :=
  messages.flatMap fun m => m.lines ++ [""]

/-- A line that counts for nothing: a comment, or a field that is none of those that are known. A
colon or the end of the line ends the name of a field. -/
structure IsAside (line : String) : Prop where
  ne_empty : line ≠ ""
  plain : Plain line
  unknown : line.toList.head? = some ':' ∨
    String.ofList (line.toList.takeWhile (· ≠ ':')) ∉ ["event", "data", "id", "retry"]

/-- Lines with lines that count for nothing anywhere among them. -/
inductive Padded : List String → List String → Prop
  | nil : Padded [] []
  | line {lines padded : List String} (line : String) (h : Padded lines padded) :
    Padded (line :: lines) (line :: padded)
  | aside {lines padded : List String} {line : String} (hline : IsAside line)
    (h : Padded lines padded) : Padded lines (line :: padded)

def writeLines (ending : LineBreak) (lines : List String) : List UInt8 :=
  lines.flatMap fun line => Utf8.encode line ++ ending.bytes

/-- The frames that messages make, from a cursor: the id of a frame is the latest that a message has
given so far. -/
def framesFrom (cursor : Option String) (messages : List Message) : List Frame :=
  messages.mapIdx fun i m =>
    m.frame (((messages.take (i + 1)).filterMap Message.id?).getLast?.or cursor)

/-! ### Lines -/

/-- The line that has begun and its end. Where the end is a CR, the next line does not begin with an
LF. -/
theorem endedLines_line {line : List UInt8} (h : ∀ b ∈ line, b ≠ 10 ∧ b ≠ 13) (ending : LineBreak)
    {rest : List UInt8} (hrest : ending = .cr → rest.head? ≠ some 10) (begun : List UInt8) :
    endedLines begun (line ++ ending.bytes ++ rest) = (begun ++ line) :: endedLines [] rest := by
  induction line generalizing begun with
  | nil =>
    cases ending with
    | lf => simp [LineBreak.bytes, endedLines, endsLine]
    | crlf => simp [LineBreak.bytes, endedLines]
    | cr =>
      -- An LF after the CR would belong to the same end.
      cases rest with
      | nil => simp [LineBreak.bytes, endedLines, endsLine]
      | cons c rest =>
        have hc : c ≠ 10 := by simpa using hrest rfl
        simp [LineBreak.bytes, endedLines, endsLine, hc]
  | cons b line ih =>
    obtain ⟨hb, hline⟩ := List.forall_mem_cons.mp h
    have hstep (bytes : List UInt8) :
        endedLines begun (b :: bytes) = endedLines (begun ++ [b]) bytes := by
      have hend : ¬endsLine b = true := by simp [endsLine, hb]
      rw [endedLines, if_neg hend]
      rintro rest rfl
      exact absurd rfl hb.2
    rw [List.cons_append, List.cons_append, hstep, ih hline, List.append_assoc,
      List.singleton_append]

theorem writeLines_cons (ending : LineBreak) (line : String) (rest : List String) :
    writeLines ending (line :: rest) = Utf8.encode line ++ ending.bytes ++ writeLines ending rest :=
  List.flatMap_cons

/-- Lines that end with a CR do not begin with an LF. -/
theorem head?_writeLines_cr {lines : List String} (h : ∀ line ∈ lines, Plain line) :
    (writeLines .cr lines).head? ≠ some 10 := by
  cases lines with
  | nil => simp [writeLines]
  | cons line rest =>
    have hline := (List.forall_mem_cons.mp h).1.encode
    rw [writeLines_cons]
    cases hbytes : Utf8.encode line with
    | nil => simp [LineBreak.bytes]
    | cons b bytes =>
      have hb := (hline b (by rw [hbytes]; exact List.mem_cons_self)).1
      simpa using hb

theorem endedLines_writeLines (ending : LineBreak) {lines : List String}
    (h : ∀ line ∈ lines, Plain line) :
    endedLines [] (writeLines ending lines) = lines.map Utf8.encode := by
  induction lines with
  | nil => rfl
  | cons line rest ih =>
    obtain ⟨hline, hrest⟩ := List.forall_mem_cons.mp h
    have hhead : ending = .cr → (writeLines ending rest).head? ≠ some 10 := by
      rintro rfl
      exact head?_writeLines_cr hrest
    rw [writeLines_cons, endedLines_line hline.encode ending hhead, ih hrest, List.nil_append,
      List.map_cons]

/-- The items of written lines are those of the lines one after another. -/
theorem push_items (cursor : Option String) (ending : LineBreak) {lines : List String}
    (h : ∀ line ∈ lines, Plain line) :
    ((Decoder.start cursor).push (writeLines ending lines)).2 =
      ((Block.start cursor).endLines (lines.map String.toList)).2 := by
  have hchars : (lines.map Utf8.encode).map Utf8.decodeChars = lines.map String.toList := by
    rw [List.map_map]
    exact List.map_congr_left fun line _ => Utf8.decodeChars_encode line
  have hfeed := (Decoder.feed_endedLines [] (writeLines ending lines) (.start cursor)).2
  rw [endedLines_writeLines ending h, hchars] at hfeed
  rw [Decoder.push_eq_feed (Decoder.clean_start cursor)]
  exact hfeed

theorem splitField_fieldLine {name : String} (h : ':' ∉ name.toList) (value : String) :
    Block.splitField (fieldLine name value).toList = (name, value) := by
  have hline : (fieldLine name value).toList = name.toList ++ ':' :: ' ' :: value.toList := by
    simp [fieldLine]
  rw [hline, splitField_colon h]
  simp [afterColon]

theorem Plain.fieldLine {name value : String} (hname : Plain name) (hvalue : Plain value) :
    Plain (fieldLine name value) := by
  intro c hc
  have hcases : c ∈ name.toList ∨ c = ':' ∨ c = ' ' ∨ c ∈ value.toList := by
    simpa [EventStream.fieldLine] using hc
  rcases hcases with hc | rfl | rfl | hc
  · exact hname c hc
  · decide
  · decide
  · exact hvalue c hc

/-! ### Lines that count for nothing -/

namespace Block

theorem field_unknown (b : Block) {f : String × String}
    (h : f.1 ∉ ["event", "data", "id", "retry"]) : b.field f = (b, []) := by
  unfold field
  split
  · simp at h
  · simp at h
  · simp at h
  · simp at h
  · rfl

theorem endLine_aside (b : Block) {line : String} (h : IsAside line) :
    b.endLine line.toList = (b, []) := by
  have hne : line.toList ≠ [] := fun hnil => h.ne_empty (String.toList_eq_nil_iff.mp hnil)
  rw [b.endLine_eq_field hne]
  apply field_unknown
  rcases h.unknown with hcomment | hunknown
  · obtain ⟨rest, hline⟩ := List.head?_eq_some_iff.mp hcomment
    rw [hline, ← List.nil_append (':' :: rest), splitField_colon List.not_mem_nil]
    show "" ∉ ["event", "data", "id", "retry"]
    decide
  · exact hunknown

end Block

namespace Padded

variable {lines padded : List String}

theorem plain (h : Padded lines padded) (hlines : ∀ line ∈ lines, Plain line) :
    ∀ line ∈ padded, Plain line := by
  induction h with
  | nil => exact hlines
  | line line _ ih =>
    obtain ⟨hline, hrest⟩ := List.forall_mem_cons.mp hlines
    exact List.forall_mem_cons.mpr ⟨hline, ih hrest⟩
  | aside hline _ ih => exact List.forall_mem_cons.mpr ⟨hline.plain, ih hlines⟩

/-- A block is the same with lines among its own that count for nothing. -/
theorem endLines (h : Padded lines padded) (b : Block) :
    b.endLines (padded.map String.toList) = b.endLines (lines.map String.toList) := by
  induction h generalizing b with
  | nil => rfl
  | line line _ ih => rw [List.map_cons, List.map_cons, Block.endLines, Block.endLines, ih]
  | aside hline _ ih =>
    rw [List.map_cons, Block.endLines, b.endLine_aside hline]
    exact ih b

end Padded

/-! ### Messages -/

/-- A piece between separators has no separator, and only elements of the list. -/
theorem mem_splitOn {α : Type} [DecidableEq α] {sep : α} {xs piece : List α}
    (h : piece ∈ xs.splitOn sep) : ∀ x ∈ piece, x ∈ xs ∧ x ≠ sep := by
  induction xs generalizing piece with
  | nil => simp_all
  | cons y xs ih =>
    obtain ⟨first, others, hsplit⟩ := List.exists_cons_of_ne_nil (List.splitOn_ne_nil sep xs)
    have hrest : ∀ u ∈ xs.splitOn sep, ∀ x ∈ u, x ∈ y :: xs ∧ x ≠ sep :=
      fun u hu x hx => ⟨List.mem_cons_of_mem y (ih hu x hx).1, (ih hu x hx).2⟩
    rw [List.splitOn_cons_eq_if_modifyHead] at h
    split at h
    · rcases List.mem_cons.mp h with rfl | h
      · nofun
      · exact hrest piece h
    · rename_i hne
      rw [hsplit] at h hrest
      rcases List.mem_cons.mp h with rfl | h
      · intro x hx
        rcases List.mem_cons.mp hx with rfl | hx
        · exact ⟨List.mem_cons_self, by simpa using hne⟩
        · exact hrest first List.mem_cons_self x hx
      · exact hrest piece (List.mem_cons_of_mem first h)

namespace Message

variable (m : Message)

/-- The lines of a message as characters. -/
def text : BlockText := m.lines.map String.toList

theorem pieces_ne_nil : m.pieces ≠ [] := by
  simp [pieces, List.splitOn_ne_nil]

theorem intercalate_pieces : "\n".intercalate m.pieces = m.data := by
  rw [← String.toList_inj, String.toList_intercalate, pieces, List.map_map]
  have hid : String.toList ∘ String.ofList = id := funext fun _ => String.toList_ofList
  rw [hid, List.map_id]
  exact List.intercalate_splitOn '\n'

theorem values_fieldLines {name field : String} (hname : ':' ∉ name.toList)
    (hfield : ':' ∉ field.toList) (values : List String) :
    BlockText.values name ((values.map (fieldLine field)).map String.toList) =
      if field = name then values else [] := by
  have hvalue (value : String) : fieldValue? name (fieldLine field value).toList =
      if field = name then some value else none := by
    rw [fieldValue?_eq hname, splitField_fieldLine hfield]
  rw [BlockText.values, List.map_map, List.filterMap_map]
  by_cases heq : field = name
  · have hsome : fieldValue? name ∘ String.toList ∘ fieldLine field = some :=
      funext fun value => (hvalue value).trans (if_pos heq)
    rw [if_pos heq, hsome, List.filterMap_some]
  · have hnone : fieldValue? name ∘ String.toList ∘ fieldLine field = fun _ => none :=
      funext fun value => (hvalue value).trans (if_neg heq)
    rw [if_neg heq, hnone, List.filterMap_none]

theorem values_text {name : String} (h : ':' ∉ name.toList) :
    m.text.values name =
      (if "id" = name then m.id?.toList else []) ++ ((if "event" = name then [m.event] else []) ++
        if "data" = name then m.pieces else []) := by
  have hlines : m.lines = m.id?.toList.map (fieldLine "id") ++
      ([m.event].map (fieldLine "event") ++ m.pieces.map (fieldLine "data")) := rfl
  have hid := values_fieldLines h (show ':' ∉ "id".toList by decide) m.id?.toList
  have hevent := values_fieldLines h (show ':' ∉ "event".toList by decide) [m.event]
  have hdata := values_fieldLines h (show ':' ∉ "data".toList by decide) m.pieces
  rw [← hid, ← hevent, ← hdata, text, hlines, List.map_append, List.map_append]
  simp only [BlockText.values, List.filterMap_append]

theorem ids_text : m.text.ids = m.id?.toList := by
  have hvalues : m.text.values "id" = m.id?.toList := by
    rw [values_text m (by decide)]
    simp
  rw [BlockText.ids, hvalues, List.filter_eq_self]
  intro id hid
  exact decide_eq_true (m.id_plain id (Option.mem_toList.mp hid)).2

/-- A message is one frame, and asks for no delay. -/
theorem items_text (cursor : Option String) : m.text.items cursor = [.frame (m.frame cursor)] := by
  have hretry : m.text.values "retry" = [] := values_text m (by decide)
  have hdata : m.text.values "data" = m.pieces := values_text m (by decide)
  have hevent : m.text.event = if m.event = "" then "message" else m.event := by
    rw [BlockText.event, values_text m (by decide)]
    by_cases hempty : m.event = ""
    · simp [hempty, Option.filter]
    · simp [hempty, Option.filter]
  rw [BlockText.items, BlockText.retries, hretry, hdata, hevent, if_neg m.pieces_ne_nil,
    intercalate_pieces]
  rfl

theorem plain : ∀ line ∈ m.lines ++ [""], Plain line := by
  have hlines : m.lines ++ [""] = m.id?.toList.map (fieldLine "id") ++
      (fieldLine "event" m.event :: m.pieces.map (fieldLine "data")) ++ [""] := rfl
  have hname : Plain "id" := by decide
  have hevent : Plain "event" := by decide
  have hdata : Plain "data" := by decide
  rw [hlines]
  intro line hline
  rcases List.mem_append.mp hline with hline | hline
  · rcases List.mem_append.mp hline with hline | hline
    · obtain ⟨id, hid, rfl⟩ := List.mem_map.mp hline
      exact hname.fieldLine (m.id_plain id (Option.mem_toList.mp hid)).1
    · rcases List.mem_cons.mp hline with rfl | hline
      · exact hevent.fieldLine m.event_plain
      · obtain ⟨value, hvalue, rfl⟩ := List.mem_map.mp hline
        obtain ⟨piece, hpiece, rfl⟩ := List.mem_map.mp hvalue
        refine hdata.fieldLine fun c hc => ?_
        obtain ⟨hmem, hne⟩ := mem_splitOn hpiece c (by simpa using hc)
        exact ⟨hne, fun hcr => m.data_plain (hcr ▸ hmem)⟩
  · obtain rfl := List.mem_singleton.mp hline
    nofun

theorem nil_notMem_text : [] ∉ m.text := by
  intro hnil
  obtain ⟨line, hline, hempty⟩ := List.mem_map.mp hnil
  have hfield (name value : String) : fieldLine name value ≠ "" := by simp [fieldLine]
  obtain rfl := String.toList_eq_nil_iff.mp hempty
  simp [lines, hfield] at hline

end Message

theorem getLast?_toList {α : Type} (o : Option α) : o.toList.getLast? = o := by
  cases o with
  | none => rfl
  | some a => rfl

theorem framesFrom_cons (cursor : Option String) (m : Message) (rest : List Message) :
    framesFrom cursor (m :: rest) =
      m.frame (m.id?.or cursor) :: framesFrom (m.id?.or cursor) rest := by
  have hlast (later : List Message) :
      (((m :: later).filterMap Message.id?).getLast?.or cursor) =
        (later.filterMap Message.id?).getLast?.or (m.id?.or cursor) := by
    rw [List.filterMap_eq_flatMap_toList, List.flatMap_cons, List.getLast?_append, Option.or_assoc,
      ← List.filterMap_eq_flatMap_toList, getLast?_toList]
  rw [framesFrom, List.mapIdx_cons]
  simp only [List.take_succ_cons, hlast]
  rfl

/-- The lines of messages hand out their frames. -/
theorem endLines_messageLines (cursor : Option String) (messages : List Message) :
    ((Block.start cursor).endLines ((messageLines messages).map String.toList)).2 =
      (framesFrom cursor messages).map .frame := by
  induction messages generalizing cursor with
  | nil => rfl
  | cons m rest ih =>
    have hlines : (messageLines (m :: rest)).map String.toList =
        (m.text ++ [[]]) ++ (messageLines rest).map String.toList := by
      simp [messageLines, Message.text]
    have hblock := Block.endLines_block cursor m.nil_notMem_text
    simp only [Message.ids_text, getLast?_toList, Message.items_text, Block.ofText_nil] at hblock
    rw [hlines, Block.endLines_append, hblock, framesFrom_cons, List.map_cons]
    exact congrArg _ (ih _)

/-- Messages that are written with one of the ends of a line, and lines that count for nothing among
theirs, are read back as the frames that they make, and nothing else. -/
theorem push_writeLines {messages : List Message} {lines : List String}
    (h : Padded (messageLines messages) lines) (ending : LineBreak) (cursor : Option String) :
    ((Decoder.start cursor).push (writeLines ending lines)).2 =
      (framesFrom cursor messages).map .frame := by
  have hplain : ∀ line ∈ messageLines messages, Plain line := by
    intro line hline
    obtain ⟨m, _, hm⟩ := List.mem_flatMap.mp hline
    exact m.plain line hm
  rw [push_items cursor ending (h.plain hplain), h.endLines, endLines_messageLines]

/-- A message without a name or data, and one without an id whose name and data begin with a space
and whose data ends with LFs, with lines among theirs that are nearly fields. -/
theorem push_writeLines_asides :
    let first : Message := ⟨some "7", "", "", by decide, by decide, by decide⟩
    let second : Message := ⟨none, " moved", " é: 1\n\n", by decide, by decide, by decide⟩
    let lines := [": data", "id: 7", "event: ", " data: 1", "data: ", "", "idle", "event:  moved",
      "data:  é: 1", "data: ", "Data: 2", "data: ", "", ":"]
    Padded (messageLines [first, second]) lines ∧
      ((Decoder.start (some "3")).push (writeLines .cr lines)).2 =
        [.frame ⟨some "7", "message", ""⟩, .frame ⟨some "7", " moved", " é: 1\n\n"⟩] := by
  intro first second lines
  have hlines : messageLines [first, second] = ["id: 7", "event: ", "data: ", "", "event:  moved",
    "data:  é: 1", "data: ", "data: ", ""] := by decide
  have hcomment : IsAside ": data" := ⟨by decide, by decide, .inl (by decide)⟩
  have hspace : IsAside " data: 1" := ⟨by decide, by decide, .inr (by decide)⟩
  have hidle : IsAside "idle" := ⟨by decide, by decide, .inr (by decide)⟩
  have hcapital : IsAside "Data: 2" := ⟨by decide, by decide, .inr (by decide)⟩
  have hcolon : IsAside ":" := ⟨by decide, by decide, .inl (by decide)⟩
  have hpadded : Padded (messageLines [first, second]) lines := by
    rw [hlines]
    exact .aside hcomment <| .line _ <| .line _ <| .aside hspace <| .line _ <| .line _ <|
      .aside hidle <| .line _ <| .line _ <| .line _ <| .aside hcapital <| .line _ <| .line _ <|
      .aside hcolon .nil
  exact ⟨hpadded, push_writeLines hpadded .cr (some "3")⟩

end WormholeMap.EventStream

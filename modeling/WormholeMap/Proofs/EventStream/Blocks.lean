import WormholeMap.Proofs.EventStream.Chunks
import WormholeMap.Proofs.Text.Whole
import Mathlib.Data.List.TakeWhile
import Mathlib.Data.String.Basic

/-!
What a decoder makes of any bytes (`push_eq_items`). The bytes are read as a whole: they are split
into lines, the lines into blocks at the empty ones, and what each block yields is told from its
lines and from the ids before it. The decoder has read a part of a block where its state is what
those lines amount to (`Block.ofText`); a line that is not empty adds to it (`endLine_ofText`), and
an empty line hands it out and leaves none of it but the cursor (`dispatch_ofText`).
-/

namespace WormholeMap.EventStream

/-! ### A body, read as a whole -/

/-- The lines that end in a body, without their ends; some bytes of the first came before it. -/
def endedLines (line : List UInt8) : List UInt8 → List (List UInt8)
  | 13 :: 10 :: rest => line :: endedLines [] rest
  | b :: rest => if endsLine b then line :: endedLines [] rest else endedLines (line ++ [b]) rest
  | [] => []

/-- The value after a colon. One space there is not part of it. -/
def afterColon (rest : List Char) : String :=
  String.ofList (if rest.head? = some ' ' then rest.tail else rest)

/-- What a line gives as the value of a field. A line that is only the name gives an empty value. -/
def fieldValue? (name : String) (line : List Char) : Option String :=
  if line = name.toList then some ""
  else (line.dropPrefix? (name.toList ++ [':'])).map afterColon

/-- The lines of a block, without the empty line that ends it. -/
abbrev BlockText := List (List Char)

namespace BlockText

def values (name : String) (t : BlockText) : List String := t.filterMap (fieldValue? name)

/-- The ids that count: those without a NUL. -/
def ids (t : BlockText) : List String := (t.values "id").filter fun v => '\x00' ∉ v.toList

def event (t : BlockText) : String :=
  ((t.values "event").getLast?.filter (· ≠ "")).getD "message"

/-- The delays in milliseconds that the server asks for. -/
def retries (t : BlockText) : List Nat := (t.values "retry").filterMap Whole.unsigned64?

/-- What a finished block yields, with the cursor at its end. -/
def items (cursor : Option String) (t : BlockText) : List Item :=
  t.retries.map .retry ++
    if t.values "data" = [] then []
    else [.frame ⟨cursor, t.event, "\n".intercalate (t.values "data")⟩]

/-- The cursor after finished blocks: the last id that counts, or else the cursor before them. -/
def idAfter (cursor : Option String) (blocks : List BlockText) : Option String :=
  (blocks.flatMap ids).getLast?.or cursor

/-- What finished blocks yield, from a cursor. -/
def allItems (cursor : Option String) (blocks : List BlockText) : List Item :=
  (blocks.mapIdx fun i t => t.items (idAfter cursor (blocks.take (i + 1)))).flatten

end BlockText

/-- The blocks of a body, and the lines that no empty line follows any more. -/
structure Body where
  finished : List BlockText
  unfinished : BlockText

namespace Body

def ofLines (lines : List (List Char)) : Body :=
  let blocks := lines.splitOnP List.isEmpty
  ⟨blocks.dropLast, blocks.getLast?.getD []⟩

def ofBytes (bytes : List UInt8) : Body := ofLines ((endedLines [] bytes).map Utf8.decodeChars)

def items (cursor : Option String) (body : Body) : List Item :=
  BlockText.allItems cursor body.finished ++ body.unfinished.retries.map .retry

end Body

/-! ### Lines of a body -/

namespace Block

/-- Takes up lines one after another. -/
def endLines (b : Block) : List (List Char) → Block × List Item
  | [] => (b, [])
  | line :: rest =>
    let after := endLines (b.endLine line).1 rest
    (after.1, (b.endLine line).2 ++ after.2)

theorem endLines_append (b : Block) (first second : List (List Char)) :
    b.endLines (first ++ second) =
      (((b.endLines first).1.endLines second).1,
        (b.endLines first).2 ++ ((b.endLines first).1.endLines second).2) := by
  induction first generalizing b with
  | nil => simp [endLines]
  | cons line first ih => simp [endLines, ih, List.append_assoc]

end Block

namespace Decoder

/-- Where no LF follows, none is left out. -/
theorem feed_skipLf {bytes : List UInt8} (h : bytes.head? ≠ some 10) (buffer : List UInt8)
    (block : Block) :
    (feed ⟨buffer, block, true⟩ bytes).1.block = (feed ⟨buffer, block, false⟩ bytes).1.block ∧
      (feed ⟨buffer, block, true⟩ bytes).2 = (feed ⟨buffer, block, false⟩ bytes).2 := by
  cases bytes with
  | nil => exact ⟨rfl, rfl⟩
  | cons b rest =>
    rw [feed_of_head_ne (List.cons_ne_nil b rest) h]
    exact ⟨rfl, rfl⟩

/-- The bytes of a body are taken up as the lines that end in them. -/
theorem feed_endedLines (line bytes : List UInt8) (block : Block) :
    let ended := block.endLines ((endedLines line bytes).map Utf8.decodeChars)
    (feed ⟨line, block, false⟩ bytes).1.block = ended.1 ∧
      (feed ⟨line, block, false⟩ bytes).2 = ended.2 := by
  fun_induction endedLines line bytes generalizing block with
  | case1 line rest ih =>
    obtain ⟨hblock, hitems⟩ := ih (block.endLine (Utf8.decodeChars line)).1
    simp [feed, step, flush, Block.endLines, hblock, hitems]
  | case2 line b rest hcrlf hend ih =>
    obtain ⟨hblock, hitems⟩ := ih (block.endLine (Utf8.decodeChars line)).1
    by_cases hlf : b = 10
    · simp [feed, step, flush, Block.endLines, hlf, hblock, hitems]
    · -- The decoder is ready to leave out an LF after a CR, and none follows.
      obtain rfl : b = 13 := by simpa [endsLine, hlf] using hend
      have hhead : rest.head? ≠ some 10 := by
        intro hhead
        obtain ⟨after, hrest⟩ := List.head?_eq_some_iff.mp hhead
        exact hcrlf after rfl hrest
      obtain ⟨hblock', hitems'⟩ :=
        feed_skipLf hhead [] (block.endLine (Utf8.decodeChars line)).1
      simp [feed, step, flush, Block.endLines, hblock, hitems, hblock', hitems']
  | case3 line b rest hcrlf hend ih =>
    obtain ⟨hblock, hitems⟩ := ih block
    have hb : b ≠ 10 ∧ b ≠ 13 := by simpa [endsLine] using hend
    simp [feed, step, hb, hblock, hitems]
  | case4 line => exact ⟨rfl, rfl⟩

end Decoder

namespace Body

/-- A body is its blocks, each with an empty line after it, and then the lines that are left. -/
theorem lines_ofLines (lines : List (List Char)) :
    ((ofLines lines).finished.flatMap (· ++ [[]])) ++ (ofLines lines).unfinished = lines ∧
      (∀ t ∈ (ofLines lines).finished, [] ∉ t) ∧ [] ∉ (ofLines lines).unfinished := by
  induction lines with
  | nil => simp [ofLines]
  | cons line rest ih =>
    obtain ⟨t, blocks, hblocks⟩ :=
      List.exists_cons_of_ne_nil (List.splitOnP_ne_nil List.isEmpty rest)
    rw [ofLines, hblocks] at ih
    rw [ofLines, List.splitOnP_cons_eq_if_modifyHead, hblocks]
    cases line with
    | nil => simpa using ih
    | cons c line =>
      cases blocks with
      | nil => simpa using ih
      | cons u blocks => simpa using ih

end Body

/-! ### Fields -/

theorem splitField_colon {name : List Char} (h : ':' ∉ name) (value : List Char) :
    Block.splitField (name ++ ':' :: value) = (String.ofList name, afterColon value) := by
  have hname : ∀ c ∈ name, decide (c ≠ ':') = true := by
    intro c hc
    exact decide_eq_true fun heq => h (heq ▸ hc)
  unfold Block.splitField
  rw [List.takeWhile_append_of_pos hname, List.dropWhile_append_of_pos hname]
  cases value with
  | nil => simp [afterColon]
  | cons c value =>
    by_cases hc : c = ' '
    · simp [afterColon, hc]
    · simp [afterColon, hc]

theorem splitField_plain {line : List Char} (h : ':' ∉ line) :
    Block.splitField line = (String.ofList line, "") := by
  have hline : ∀ c ∈ line, decide (c ≠ ':') = true := by
    intro c hc
    exact decide_eq_true fun heq => h (heq ▸ hc)
  unfold Block.splitField
  rw [List.takeWhile_eq_self_iff.mpr hline, List.dropWhile_eq_nil_iff.mpr hline]

/-- A line gives a value to the one field that it is split into. -/
theorem fieldValue?_eq {name : String} (h : ':' ∉ name.toList) (line : List Char) :
    fieldValue? name line =
      if (Block.splitField line).1 = name then some (Block.splitField line).2 else none := by
  unfold fieldValue?
  by_cases hcolon : ':' ∈ line
  · obtain ⟨field, value, rfl, hfield⟩ := List.eq_append_cons_of_mem hcolon
    have hne : field ++ ':' :: value ≠ name.toList := by
      intro heq
      exact h (heq ▸ hcolon)
    rw [if_neg hne, splitField_colon hfield]
    by_cases hname : field = name.toList
    · subst hname
      have hdrop : (name.toList ++ ':' :: value).dropPrefix? (name.toList ++ [':']) =
          some value := by
        rw [List.append_cons]
        exact List.dropPrefix?_append_of_beq value (beq_self_eq_true _)
      rw [hdrop, if_pos String.ofList_toList, Option.map_some]
    · have hdrop : (field ++ ':' :: value).dropPrefix? (name.toList ++ [':']) = none := by
        rw [Option.eq_none_iff_forall_ne_some]
        intro rest hrest
        obtain ⟨start, heq, hstart⟩ := List.dropPrefix?_eq_some_iff.mp hrest
        rw [eq_of_beq hstart, ← List.append_cons] at heq
        have hsplit := congrArg Block.splitField heq
        rw [splitField_colon hfield, splitField_colon h, Prod.mk.injEq, String.ofList_inj] at hsplit
        exact hname hsplit.1
      rw [hdrop, if_neg (fun heq => hname (String.ofList_eq.mp heq)), Option.map_none]
  · have hdrop : line.dropPrefix? (name.toList ++ [':']) = none := by
      rw [Option.eq_none_iff_forall_ne_some]
      intro rest hrest
      obtain ⟨start, heq, hstart⟩ := List.dropPrefix?_eq_some_iff.mp hrest
      rw [eq_of_beq hstart] at heq
      exact hcolon (heq ▸ by simp)
    rw [splitField_plain hcolon, hdrop]
    simp only [String.ofList_eq, Option.map_none]

namespace BlockText

theorem values_concat {name : String} (h : ':' ∉ name.toList) (t : BlockText) (line : List Char) :
    values name (t ++ [line]) = values name t ++
      if (Block.splitField line).1 = name then [(Block.splitField line).2] else [] := by
  have hvalue := fieldValue?_eq h line
  by_cases hname : (Block.splitField line).1 = name
  · simp [values, hvalue, hname]
  · simp [values, hvalue, hname]

theorem values_singleton {name : String} (h : ':' ∉ name.toList) (line : List Char) :
    values name [line] =
      if (Block.splitField line).1 = name then [(Block.splitField line).2] else [] :=
  values_concat h [] line

theorem retries_append (first second : List (List Char)) :
    retries (first ++ second) = retries first ++ retries second := by
  simp only [retries, values, List.filterMap_append]

theorem idAfter_cons (cursor : Option String) (t : BlockText) (blocks : List BlockText) :
    idAfter cursor (t :: blocks) = idAfter (t.ids.getLast?.or cursor) blocks := by
  rw [idAfter, idAfter, List.flatMap_cons, List.getLast?_append, Option.or_assoc]

theorem allItems_cons (cursor : Option String) (t : BlockText) (blocks : List BlockText) :
    let last := t.ids.getLast?.or cursor
    allItems cursor (t :: blocks) = t.items last ++ allItems last blocks := by
  intro last
  rw [allItems, List.mapIdx_cons, List.flatten_cons]
  simp only [List.take_succ_cons, idAfter_cons]
  rfl

end BlockText

/-! ### Blocks -/

namespace Block

/-- A block of which a part has been read, with the cursor before it. -/
def ofText (cursor : Option String) (t : BlockText) : Block where
  event := (t.values "event").getLast?
  data := (t.values "data").flatMap fun v => v.toList ++ ['\n']
  hasData := t.values "data" ≠ []
  pendingId := t.ids.getLast?
  lastId := cursor

theorem ofText_nil (cursor : Option String) : ofText cursor [] = start cursor := rfl

/-- A line is taken up as its field. A comment counts for as little as an unknown field. -/
theorem endLine_eq_field (b : Block) {line : List Char} (h : line ≠ []) :
    b.endLine line = b.field (splitField line) := by
  unfold endLine
  split
  · exact absurd rfl h
  · rename_i rest
    rw [← List.nil_append (':' :: rest), splitField_colon List.not_mem_nil]
    rfl
  · rfl

/-- A line that is not empty adds to the block that has begun. -/
theorem endLine_ofText (cursor : Option String) (t : BlockText) {line : List Char}
    (h : line ≠ []) :
    (ofText cursor t).endLine line =
      (ofText cursor (t ++ [line]), (BlockText.retries [line]).map .retry) := by
  rw [endLine_eq_field _ h, BlockText.retries, BlockText.values_singleton (by decide)]
  have hevent := BlockText.values_concat (show ':' ∉ "event".toList by decide) t line
  have hdata := BlockText.values_concat (show ':' ∉ "data".toList by decide) t line
  have hid := BlockText.values_concat (show ':' ∉ "id".toList by decide) t line
  generalize splitField line = f at hevent hdata hid ⊢
  unfold field ofText BlockText.ids
  rw [hevent, hdata, hid]
  split
  · simp
  · simp
  · split
    · rename_i hnul
      simp [hnul]
    · rename_i hnul
      simp [hnul]
  · rename_i value
    rw [Whole.parse64?_eq]
    cases hms : Whole.unsigned64? value with
    | some ms => simp [hms]
    | none => simp [hms]
  · -- No list of values that the block is made of gets longer.
    rename_i hnoEvent hnoData hnoId hnoRetry
    have hother {name : String} (h : ∀ value, f = (name, value) → False) : f.1 ≠ name :=
      fun hname => h f.2 (Prod.ext hname rfl)
    simp [hother hnoEvent, hother hnoData, hother hnoId, hother hnoRetry]

/-- Data with an LF after each line is the lines with an LF between them, and an LF. -/
theorem flatMap_lines {values : List String} (h : values ≠ []) :
    (values.flatMap fun v => v.toList ++ ['\n']) =
      ("\n".intercalate values).toList ++ ['\n'] := by
  induction values with
  | nil => exact absurd rfl h
  | cons v rest ih =>
    cases rest with
    | nil => simp
    | cons w rest =>
      rw [List.flatMap_cons, ih (List.cons_ne_nil w rest), String.intercalate_cons_cons]
      simp [List.append_assoc]

theorem text_flatMap {values : List String} (h : values ≠ []) :
    text (values.flatMap fun v => v.toList ++ ['\n']) = "\n".intercalate values := by
  rw [flatMap_lines h, text, if_pos List.getLast?_concat, List.dropLast_concat,
    String.ofList_toList]

theorem name_eq (event : Option String) :
    name event = (event.filter (· ≠ "")).getD "message" := by
  unfold name
  split
  · rfl
  · rfl
  · rename_i name hname
    have hne : name ≠ "" := hname
    simp [Option.filter, hne]

/-- An empty line hands out the block, and only the cursor is left of it. -/
theorem dispatch_ofText (cursor : Option String) (t : BlockText) :
    let last := t.ids.getLast?.or cursor
    (ofText cursor t).dispatch =
      (ofText last [],
        if t.values "data" = [] then []
        else [.frame ⟨last, t.event, "\n".intercalate (t.values "data")⟩]) := by
  intro last
  have hlast : ((ofText cursor t).pendingId <|> (ofText cursor t).lastId) = last :=
    Option.orElse_eq_or
  rw [dispatch, hlast]
  by_cases hdata : t.values "data" = []
  · -- The data is kept where there is none, but then it is empty.
    have hnil : (ofText cursor t).hasData = false := decide_eq_false (not_not_intro hdata)
    have hrest : (ofText cursor t).data = [] := by rw [ofText, hdata, List.flatMap_nil]
    rw [hnil, if_neg Bool.false_ne_true, if_pos hdata, hrest]
    rfl
  · have hhas : (ofText cursor t).hasData = true := decide_eq_true hdata
    have hname : name (ofText cursor t).event = t.event := name_eq _
    have htext : text (ofText cursor t).data = "\n".intercalate (t.values "data") :=
      text_flatMap hdata
    rw [if_pos hhas, if_neg hdata, hname, htext, ofText_nil]

/-- Lines that are not empty add to the block that has begun, and only ask for delays. -/
theorem endLines_lines (cursor : Option String) (t : BlockText) {lines : List (List Char)}
    (h : [] ∉ lines) :
    (ofText cursor t).endLines lines =
      (ofText cursor (t ++ lines), (BlockText.retries lines).map .retry) := by
  induction lines generalizing t with
  | nil => simp [endLines, BlockText.retries, BlockText.values]
  | cons line rest ih =>
    obtain ⟨hline, hrest⟩ := not_or.mp (mt List.mem_cons.mpr h)
    rw [endLines, endLine_ofText cursor t (Ne.symm hline), ih _ hrest, List.append_assoc,
      List.singleton_append, ← List.map_append, ← BlockText.retries_append, List.singleton_append]

/-- A whole block with its empty line. -/
theorem endLines_block (cursor : Option String) {t : BlockText} (h : [] ∉ t) :
    let last := t.ids.getLast?.or cursor
    (ofText cursor []).endLines (t ++ [[]]) = (ofText last [], t.items last) := by
  intro last
  have hempty : (ofText cursor t).endLines [[]] =
      ((ofText cursor t).dispatch.1, (ofText cursor t).dispatch.2 ++ []) := rfl
  rw [endLines_append, endLines_lines cursor [] h, List.nil_append, hempty, dispatch_ofText,
    List.append_nil, BlockText.items]

/-- Whole blocks one after another. -/
theorem endLines_blocks (cursor : Option String) {blocks : List BlockText}
    (h : ∀ t ∈ blocks, [] ∉ t) :
    (ofText cursor []).endLines (blocks.flatMap (· ++ [[]])) =
      (ofText (BlockText.idAfter cursor blocks) [], BlockText.allItems cursor blocks) := by
  induction blocks generalizing cursor with
  | nil => rfl
  | cons t rest ih =>
    obtain ⟨ht, hrest⟩ := List.forall_mem_cons.mp h
    rw [List.flatMap_cons, endLines_append, endLines_block cursor ht]
    simp only
    rw [ih _ hrest, BlockText.allItems_cons, BlockText.idAfter_cons]

/-- The lines of a body, from its start. -/
theorem endLines_start (cursor : Option String) (lines : List (List Char)) :
    let body := Body.ofLines lines
    (start cursor).endLines lines =
      (ofText (BlockText.idAfter cursor body.finished) body.unfinished, body.items cursor) := by
  intro body
  obtain ⟨hlines, hfinished, hunfinished⟩ := Body.lines_ofLines lines
  conv_lhs => rw [← hlines]
  rw [← ofText_nil, endLines_append, endLines_blocks cursor hfinished,
    endLines_lines _ [] hunfinished]
  rfl

end Block

namespace Decoder

/-- The items of bytes are those that their blocks yield, and the cursor after them is the last id
that counts in a finished block. -/
theorem push_eq_items (cursor : Option String) (bytes : List UInt8) :
    let body := Body.ofBytes bytes
    let after := (start cursor).push bytes
    after.2 = body.items cursor ∧
      after.1.lastId = BlockText.idAfter cursor body.finished := by
  intro body after
  have hafter : after = (start cursor).feed bytes := push_eq_feed (clean_start cursor) bytes
  obtain ⟨hblock, hitems⟩ := feed_endedLines [] bytes (.start cursor)
  rw [Block.endLines_start] at hblock hitems
  refine ⟨?_, ?_⟩
  · rw [hafter]
    exact hitems
  · rw [hafter, lastId]
    exact congrArg Block.lastId hblock

/-- A block with a delay that begins with a plus sign, and lines that no empty line ends. -/
example :
    let lines := ["data", "retry: +5", "", "id: 8", "", "id: 9", "retry:7"].map String.toList
    let body := Body.ofLines lines
    body.items none = [.retry 5, .frame ⟨none, "message", ""⟩, .retry 7] ∧
      BlockText.idAfter none body.finished = some "8" := by
  decide

end Decoder

end WormholeMap.EventStream

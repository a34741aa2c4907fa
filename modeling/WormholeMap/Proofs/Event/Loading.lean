import WormholeMap.Client
import WormholeMap.Proofs.Event.Envelope
import WormholeMap.Proofs.Json.Reading

/-!
Entities that are loaded and entities that are sent. The body of a response is read as it is written,
the payload of an event as the value that its text is parsed as. A node or a link is read alike in
both ways (`Node.read_alike`, `Link.read_alike`), so what a map in full shows is what the same text
announces as an event.
-/

namespace WormholeMap

open Json

/-! ### Entities -/

theorem Uuid.read_alike : ReadAlike Uuid.read Uuid.read := by
  intro written value h
  rw [Uuid.read, Uuid.read, readString_alike h]

theorem NodeId.read_alike : ReadAlike NodeId.read NodeId.read := by
  intro written value h
  rw [NodeId.read, NodeId.read, Uuid.read_alike h]

theorem LinkId.read_alike : ReadAlike LinkId.read LinkId.read := by
  intro written value h
  rw [LinkId.read, LinkId.read, Uuid.read_alike h]

theorem Lifetime.read_alike : ReadAlike Lifetime.read Lifetime.read :=
  readCase_alike Lifetime.ofName?

theorem MassUsage.read_alike : ReadAlike MassUsage.read MassUsage.read :=
  readCase_alike MassUsage.ofName?

theorem Amounts.read_alike : ReadAlike Amounts.read Amounts.read := by
  intro written value h
  obtain ⟨s, s', hs, hs', hsame⟩ := h.exists_shapes
  rw [Amounts.read, Amounts.read, hs, hs']
  cases hsame with
  | object hmembers =>
    have hamounts := mapM_eq_of_forall₂ hmembers
      (f := fun m => (readFloat m.2).map (m.1, ·)) (g := fun m => (readFloat m.2).map (m.1, ·))
      fun m m' hm => by rw [hm.1, readFloat_alike hm.2]
    simp only [hamounts]
  | _ => rfl

theorem Occupant.read_alike : ReadAlike Occupant.read Occupant.read :=
  readAlike_record fun fields fields' h => by
    simp only [h.required readString_alike, h.optional readString_alike, h.optional readBool_alike]

theorem Node.read_alike : ReadAlike Node.read Node.read :=
  readAlike_record fun fields fields' h => by
    simp only [h.required NodeId.read_alike, h.required readInt_alike, h.required readFloat_alike,
      h.defaulted readBool_alike, h.optional readString_alike, h.optional readInt_alike,
      h.optional readFloat_alike, h.optional Amounts.read_alike, h.defaulted readString_alike.list,
      h.defaulted Occupant.read_alike.list]

theorem Link.read_alike : ReadAlike Link.read Link.read :=
  readAlike_record fun fields fields' h => by
    simp only [h.required LinkId.read_alike, h.required NodeId.read_alike,
      h.optional readString_alike, h.optional readInt_alike, h.optional readFloat_alike,
      h.defaulted Lifetime.read_alike, h.defaulted MassUsage.read_alike]

/-! ### Responses -/

/-- The text of a body that is whole is read as it is written. -/
theorem Response.read_of_body {r : Response} {bytes : List UInt8} {written : Written}
    (hbody : r.body? = some bytes) (hparse : Written.parse? bytes = some written)
    (read : Written → Option α) : r.read read = (read written).elim (.error .decode) .ok := by
  rw [Response.read, hbody]
  simp only [hparse, Option.bind_eq_bind, Option.bind_some]
  cases read written <;> rfl

theorem Response.eq_some_of_read {r : Response} {bytes : List UInt8} {written : Written}
    (hbody : r.body? = some bytes) (hparse : Written.parse? bytes = some written)
    {read : Written → Option α} {a : α} (h : r.read read = .ok a) : read written = some a := by
  rw [r.read_of_body hbody hparse] at h
  cases hread : read written with
  | none =>
    rw [hread] at h
    cases h
  | some found =>
    rw [hread] at h
    cases h
    rfl

/-! ### Ways to be seen -/

/-- A kind of entity: how it is read, the events that have one for payload, and the list of a map in
full that has those of the map. -/
structure EntityKind (α : Type) where
  readWritten : Written → Option α
  read : Json → Option α
  events : List (String × (α → Event))
  listName : String
  listed : MapDetail → List α

namespace EntityKind

def node : EntityKind Node where
  readWritten := Node.read
  read := Node.read
  events := [("node_created", .nodeCreated), ("node_updated", .nodeUpdated)]
  listName := "nodes"
  listed := MapDetail.nodes

def link : EntityKind Link where
  readWritten := Link.read
  read := Link.read
  events := [("link_created", .linkCreated), ("link_updated", .linkUpdated)]
  listName := "links"
  listed := MapDetail.links

/-- A map in full, as it is written, has an item at a place of its list of a kind. -/
def Lists (kind : EntityKind α) (load : Written) (i : Nat) (item : Written) : Prop :=
  ∃ fields items, readRecord MapDetail.fields load = some fields ∧
    fields.lookup kind.listName = some (.array items) ∧ items[i]? = some item

/-- Wherever a text is seen, it is the same entity of a kind, or none. -/
structure SeenAlike (kind : EntityKind α) (text : String) (written : Written) (value : Json) :
    Prop where
  /-- As it is written and as a value. -/
  read_eq : kind.readWritten written = kind.read value
  /-- In the body of a response. -/
  response : ∀ r : Response, r.body? = some (Utf8.encode text) →
    r.read kind.readWritten = (kind.read value).elim (.error .decode) .ok
  /-- As the payload of an event. -/
  event : ∀ e ∈ kind.events, ∀ frame sent, Event.Sends e.1 value frame sent →
    Event.decode frame sent =
      (kind.readWritten written).elim (.error (.malformed e.1 .wrongShape)) fun a => .ok (e.2 a)
  /-- In a map in full, and then as the payload of an event. -/
  listed : ∀ (r : Response) bytes load detail i, r.body? = some bytes →
    Written.parse? bytes = some load → r.read MapDetail.read = .ok detail →
    kind.Lists load i written → ∃ a, (kind.listed detail)[i]? = some a ∧
      ∀ e ∈ kind.events, ∀ frame sent, Event.Sends e.1 value frame sent →
        Event.decode frame sent = .ok (e.2 a)

/-- What a kind of entity says is so: values are read as texts are, its events have one for payload,
and its list is the one of a map in full. -/
structure Lawful (kind : EntityKind α) : Prop where
  read_alike : ReadAlike kind.readWritten kind.read
  form_eq : ∀ e ∈ kind.events,
    Event.form? e.1 = some (.payload fun payload => (kind.read payload).map e.2)
  listed_eq : ∀ {load detail fields}, MapDetail.read load = some detail →
    readRecord MapDetail.fields load = some fields →
    defaulted [] (readList kind.readWritten) kind.listName fields = some (kind.listed detail)

/-- A map in full is read list by list. -/
theorem lists_of_read {load : Written} {detail : MapDetail} {fields : List (String × Written)}
    (h : MapDetail.read load = some detail)
    (hfields : readRecord MapDetail.fields load = some fields) :
    defaulted [] (readList Node.read) "nodes" fields = some detail.nodes ∧
      defaulted [] (readList Link.read) "links" fields = some detail.links := by
  rw [MapDetail.read, hfields, Option.bind_eq_bind, Option.bind_some] at h
  obtain ⟨map, -, h⟩ := Option.bind_eq_some_iff.mp h
  obtain ⟨nodes, hnodes, h⟩ := Option.bind_eq_some_iff.mp h
  obtain ⟨links, hlinks, h⟩ := Option.bind_eq_some_iff.mp h
  cases h
  exact ⟨hnodes, hlinks⟩

theorem lawful_node : node.Lawful where
  read_alike := Node.read_alike
  form_eq := by simp [node, Event.form?]
  listed_eq h hfields := (lists_of_read h hfields).1

theorem lawful_link : link.Lawful where
  read_alike := Link.read_alike
  form_eq := by simp [link, Event.form?]
  listed_eq h hfields := (lists_of_read h hfields).2

end EntityKind

/-- A text in which no object repeats a key, as it is written and as the value that it is parsed
as. -/
structure Parsed (text : String) (written : Written) (value : Json) : Prop where
  written_eq : Written.parse? (Utf8.encode text) = some written
  value_eq : parseText? text = some value
  unrepeated : written.Unrepeated

section

variable {text : String} {written : Written} {value : Json}

theorem Parsed.becomes (h : Parsed text written value) : Becomes written value where
  unrepeated := h.unrepeated
  value := by
    have hvalue := h.value_eq
    rw [parseText?, parse?, h.written_eq] at hvalue
    exact ⟨maxDepth, hvalue⟩

theorem EntityKind.Lawful.event {kind : EntityKind α} (hkind : kind.Lawful)
    {e : String × (α → Event)} (he : e ∈ kind.events) {frame sent : String}
    (hsends : Event.Sends e.1 value frame sent) :
    Event.decode frame sent =
      (kind.read value).elim (.error (.malformed e.1 .wrongShape)) fun a => .ok (e.2 a) := by
  rw [Event.decode_of_sends hsends, Event.meaning_eq (hkind.form_eq e he)]
  cases kind.read value <;> rfl

/-- An item of a map in full that could be read is an entity of the list that it is in. -/
theorem EntityKind.Lawful.exists_listed {kind : EntityKind α} (hkind : kind.Lawful)
    {load : Written} {detail : MapDetail} {i : Nat} (hread : MapDetail.read load = some detail)
    (hlists : kind.Lists load i written) :
    ∃ a, (kind.listed detail)[i]? = some a ∧ kind.readWritten written = some a := by
  obtain ⟨fields, items, hfields, hlookup, hitem⟩ := hlists
  have hlist := hkind.listed_eq hread hfields
  rw [defaulted, hlookup] at hlist
  have hitems : items.mapM kind.readWritten = some (kind.listed detail) := hlist
  exact exists_getElem?_of_forall₂ (forall₂_of_mapM hitems) hitem

theorem EntityKind.Lawful.seenAlike {kind : EntityKind α} (hkind : kind.Lawful)
    (h : Parsed text written value) : kind.SeenAlike text written value where
  read_eq := hkind.read_alike h.becomes
  response r hbody := by
    rw [r.read_of_body hbody h.written_eq, hkind.read_alike h.becomes]
  event e he frame sent hsends := by
    rw [hkind.event he hsends, hkind.read_alike h.becomes]
  listed r bytes load detail i hbody hparse hdetail hlists := by
    have hread : MapDetail.read load = some detail := r.eq_some_of_read hbody hparse hdetail
    obtain ⟨a, ha, hwritten⟩ := hkind.exists_listed hread hlists
    refine ⟨a, ha, fun e he frame sent hsends => ?_⟩
    rw [hkind.event he hsends, ← hkind.read_alike h.becomes, hwritten]
    rfl

/-- A node or a link is the same wherever its text is seen, or is none everywhere: in the body of a
response, in a map in full, and as the payload of an event. -/
theorem seen_alike (h : Parsed text written value) :
    EntityKind.node.SeenAlike text written value ∧ EntityKind.link.SeenAlike text written value :=
  ⟨EntityKind.lawful_node.seenAlike h, EntityKind.lawful_link.seenAlike h⟩

/-- A node with numbers of three forms, an occupant in the form of an array, and a member that no
field asks for. -/
def outpostText : String :=
  "\x7b\"id\":\"00000000000000000000000000000001\",\"system_id\":31000005,\"pos_x\":-0," ++
    "\"pos_y\":15e1,\"characters\":[[\"Kali Ormand\",null]],\"seen\":[\x7b\"by\":null\x7d]\x7d"

def outpostWritten : Written :=
  .object [
    (some "id", .text (some "00000000000000000000000000000001")),
    (some "system_id", .numeral ⟨false, [3, 1, 0, 0, 0, 0, 0, 5], [], none⟩),
    (some "pos_x", .numeral ⟨true, [0], [], none⟩),
    (some "pos_y", .numeral ⟨false, [1, 5], [], some (false, [1])⟩),
    (some "characters", .array [.array [.text (some "Kali Ormand"), .null]]),
    (some "seen", .array [.object [(some "by", .null)]])]

def outpostValue : Json :=
  .object [
    ("id", .string "00000000000000000000000000000001"),
    ("system_id", .number (.whole 31000005)),
    ("pos_x", .number (.real (-0.0))),
    ("pos_y", .number (.real 150.0)),
    ("characters", .array [.array [.string "Kali Ormand", .null]]),
    ("seen", .array [.object [("by", .null)]])]

set_option maxRecDepth 20000 in
theorem parsed_outpost : Parsed outpostText outpostWritten outpostValue where
  written_eq := rfl
  value_eq := rfl
  unrepeated := by
    refine .object (by decide) ?_
    simp only [List.forall_mem_cons]
    refine ⟨.text _, .numeral _, .numeral _, .numeral _, .array ?_, .array ?_, nofun⟩
    · exact List.forall_mem_singleton.mpr
        (.array (List.forall_mem_cons.mpr ⟨.text _, List.forall_mem_singleton.mpr .null⟩))
    · exact List.forall_mem_singleton.mpr
        (.object (List.nodup_singleton _) (List.forall_mem_singleton.mpr .null))

/-- A map with the node for its only one. -/
def outpostMap : Response where
  status := 200
  chunks := [Utf8.encode ("\x7b\"map\":\x7b\"id\":\"00000000000000000000000000000002\"," ++
    "\"owner_id\":\"00000000000000000000000000000003\",\"name\":\"home\"\x7d,\"nodes\":["),
    Utf8.encode outpostText, Utf8.encode "]\x7d"]
  ending := .closed

def outpostLoad : Written :=
  .object [
    (some "map", .object [
      (some "id", .text (some "00000000000000000000000000000002")),
      (some "owner_id", .text (some "00000000000000000000000000000003")),
      (some "name", .text (some "home"))]),
    (some "nodes", .array [outpostWritten])]

set_option maxRecDepth 20000 in
/-- The node of the map is the one that its text announces as created. -/
theorem seen_alike_outpost :
    Parsed outpostText outpostWritten outpostValue ∧
      Written.parse? outpostMap.chunks.flatten = some outpostLoad ∧
      EntityKind.node.Lists outpostLoad 0 outpostWritten ∧
      ∃ detail n, outpostMap.read MapDetail.read = .ok detail ∧ detail.nodes[0]? = some n ∧
        Event.decode "node_created" outpostText = .ok (.nodeCreated n) := by
  have hparse : Written.parse? outpostMap.chunks.flatten = some outpostLoad := rfl
  have hlists : EntityKind.node.Lists outpostLoad 0 outpostWritten := ⟨_, _, rfl, rfl, rfl⟩
  have hsome : (MapDetail.read outpostLoad).isSome = true := rfl
  obtain ⟨detail, hdetail⟩ := Option.isSome_iff_exists.mp hsome
  have hload : outpostMap.read MapDetail.read = .ok detail := by
    rw [Response.read_of_body rfl hparse, hdetail, Option.elim_some]
  have hsends : Event.Sends "node_created" outpostValue "node_created" outpostText :=
    .bare (by decide) (by decide) rfl parsed_outpost.value_eq
  obtain ⟨hnode, -⟩ := seen_alike parsed_outpost
  obtain ⟨n, hn, hevents⟩ := hnode.listed outpostMap _ _ detail 0 rfl hparse hload hlists
  exact ⟨parsed_outpost, hparse, hlists, detail, n, hload, hn,
    hevents ("node_created", .nodeCreated) List.mem_cons_self _ _ hsends⟩

end

end WormholeMap

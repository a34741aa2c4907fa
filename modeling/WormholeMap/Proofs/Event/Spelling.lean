import WormholeMap.Proofs.Event.Envelope

/-!
The ways to spell a payload. A deletion refers to its entity under `id` or under the name of its
kind. The metadata of a map stands under `changes` or bare, and a character under one of its names
or inline. Each spelling is read as what it spells (`meaning_of_spells`), so that all spellings of
the same are decoded alike, be it to an event or to an error.
-/

namespace WormholeMap.Event

open Json

/-! ### What is spelt -/

/-- What a payload says, for the events whose payloads have more than one spelling. -/
inductive Content where
  | nodeDeleted (id : Json)
  | linkDeleted (id : Json)
  | mapUpdated (map : List (String × Json))
  | presence (change : PresenceChange) (node : Json) (character : List (String × Json))

namespace Content

/-- The name of the event. -/
def name : Content → String
  | nodeDeleted _ => "node_deleted"
  | linkDeleted _ => "link_deleted"
  | mapUpdated _ => "map_updated"
  | presence .arrived .. => "character_arrived"
  | presence .left .. => "character_left"
  | presence .updated .. => "character_updated"

/-- The event that is meant, if the values it is made of can be read. -/
def event? : Content → Option Event
  | nodeDeleted id => (NodeId.read id).map .nodeDeleted
  | linkDeleted id => (LinkId.read id).map .linkDeleted
  | mapUpdated map => (MapInfo.read (Json.object map)).map .mapUpdated
  | presence change node character => do
    let node ← NodeId.read node
    let occupant ← Occupant.read (Json.object character)
    return .presence node change occupant

def decoded (content : Content) : Except DecodeError Event :=
  content.event?.elim (.error (.malformed content.name .wrongShape)) .ok

end Content

/-- The payload has the reference under `id` or under the name of the kind of entity, and nothing
under the other name, whatever else it has. -/
inductive Refers (own : String) (id payload : Json) : Prop
  | plain (h : get? "id" payload = some id) (hown : get? own payload = none)
  | own (h : get? own payload = some id) (hplain : get? "id" payload = none)

/-- The payload is a spelling of the content. -/
inductive Spells : Content → Json → Prop
  | nodeDeleted {id payload : Json} (h : Refers "node_id" id payload) :
      Spells (.nodeDeleted id) payload
  | linkDeleted {id payload : Json} (h : Refers "link_id" id payload) :
      Spells (.linkDeleted id) payload
  | bareMap {map : List (String × Json)} (h : get? "changes" (.object map) = none) :
      Spells (.mapUpdated map) (.object map)
  | wrappedMap (map : List (String × Json)) :
      Spells (.mapUpdated map) (.object [("changes", .object map)])
  | nested {change : PresenceChange} {node : Json} {character members : List (String × Json)}
      {name : String} (hname : name ∈ characterNames)
      (h : members.Perm [("node_id", node), (name, .object character)]) :
      Spells (.presence change node character) (.object members)
  | inline {change : PresenceChange} {node : Json} {character members : List (String × Json)}
      (hcharacter : ∀ m ∈ character, m.1 ∉ "node_id" :: characterNames)
      (h : members.Perm (("node_id", node) :: character)) :
      Spells (.presence change node character) (.object members)

/-! ### How it is read -/

theorem exists_members {key : String} {payload value : Json} (h : get? key payload = some value) :
    ∃ members, payload = .object members := by
  cases payload with
  | object members => exact ⟨members, rfl⟩
  | _ => cases h

section

variable {own : String} {payload id : Json} {members : List (String × Json)}

/-- A reference depends on what is under its two names, and on nothing else. -/
theorem readReference_congr {read : Json → Option α} (members' : List (String × Json))
    (hu : Unrepeated (.object members)) (hkeys : (members'.map Prod.fst).Nodup)
    (hid : get? "id" (.object members) = get? "id" (.object members'))
    (hown : get? own (.object members) = get? own (.object members')) :
    readReference own read (.object members) = readReference own read (.object members') := by
  rw [readReference, readReference, readRecord_congr hu.keys hkeys]
  intro names hnames name hname
  rw [List.mem_singleton.mp hnames] at hname
  rcases List.mem_pair.mp hname with rfl | rfl
  · exact hid
  · exact hown

theorem Refers.readReference_eq {read : Json → Option α} (h : Refers own id payload)
    (hown : own ≠ "id") (hu : Unrepeated payload) : readReference own read payload = read id := by
  cases h with
  | plain h hnone =>
    obtain ⟨members, rfl⟩ := exists_members h
    rw [readReference_congr [("id", id)] hu (List.nodup_singleton _)]
    · simp [readReference, readRecord_eq, readField, holding, required]
    · exact h.trans (by simp [get?])
    · exact hnone.trans (by simp [get?, List.lookup_cons, beq_false_of_ne hown])
  | own h hnone =>
    obtain ⟨members, rfl⟩ := exists_members h
    rw [readReference_congr [(own, id)] hu (List.nodup_singleton _)]
    · simp [readReference, readRecord_eq, readField, holding, required]
    · exact hnone.trans (by simp [get?, List.lookup_cons, beq_false_of_ne hown.symm])
    · exact h.trans (by simp [get?])

/-- Two references at once are none. -/
theorem readReference_both {read : Json → Option α} {id' : Json} (h : get? "id" payload = some id)
    (h' : get? own payload = some id') (hown : own ≠ "id") (hu : Unrepeated payload) :
    readReference own read payload = none := by
  obtain ⟨members, rfl⟩ := exists_members h
  rw [readReference_congr [("id", id), (own, id')] hu]
  · simp [readReference, readRecord_eq, readField, holding]
  · simpa using hown.symm
  · exact h.trans (by simp [get?])
  · exact h'.trans (by simp [get?, List.lookup_cons, beq_false_of_ne hown])

end

theorem readMapChanges_bare {map : List (String × Json)}
    (h : get? "changes" (.object map) = none) :
    readMapChanges (.object map) = MapInfo.read (Json.object map) := by
  rw [readMapChanges, h]
  rfl

/-- No metadata can be read off an object with nothing but changes. -/
theorem readMapChanges_wrapped (map : List (String × Json)) :
    readMapChanges (.object [("changes", .object map)]) = MapInfo.read (Json.object map) := by
  have hbare : MapInfo.read (Json.object [("changes", .object map)]) = none := rfl
  have hchanges : get? "changes" (.object [("changes", .object map)]) = some (.object map) := rfl
  rw [readMapChanges, hbare, hchanges, Option.bind_eq_bind, Option.bind_some]
  cases MapInfo.read (Json.object map) <;> rfl

section

variable {change : PresenceChange} {node : Json} {character members : List (String × Json)}

theorem readPresence_nested {name : String} (hname : name ∈ characterNames)
    (h : members.Perm [("node_id", node), (name, .object character)])
    (hu : Unrepeated (.object members)) :
    readPresence change (.object members) = (Content.presence change node character).event? := by
  have hrecord : readRecord [["node_id"], characterNames] (Json.object members) =
      some [("node_id", node), ("character", .object character)] := by
    rw [readRecord_perm hu.keys h]
    rcases List.mem_pair.mp hname with rfl | rfl <;> rfl
  rw [readPresence, hrecord, Content.event?]
  change (NodeId.read node).bind (fun id =>
    ((Occupant.read (Json.object character)).map some).bind _) = _
  cases NodeId.read node with
  | none => rfl
  | some id => cases Occupant.read (Json.object character) <;> rfl

theorem readPresence_inline (hcharacter : ∀ m ∈ character, m.1 ∉ "node_id" :: characterNames)
    (h : members.Perm (("node_id", node) :: character)) (hu : Unrepeated (.object members)) :
    readPresence change (.object members) = (Content.presence change node character).event? := by
  have hlookup (key : String) (hkey : key ∈ "node_id" :: characterNames) :
      members.lookup key = List.lookup key [("node_id", node)] := by
    have hnone : character.lookup key = none :=
      List.lookup_eq_none_iff.mpr fun m hm =>
        bne_iff_ne.mpr fun heq => hcharacter m hm (heq ▸ hkey)
    rw [lookup_perm hu.keys h, ← List.singleton_append, List.lookup_append, hnone, Option.or_none]
  have hrecord : readRecord [["node_id"], characterNames] (Json.object members) =
      some [("node_id", node)] := by
    have hfields : ∀ names ∈ [["node_id"], characterNames], ∀ key ∈ names,
        members.lookup key = List.lookup key [("node_id", node)] := by
      simp only [List.forall_mem_cons]
      exact ⟨⟨hlookup _ List.mem_cons_self, nofun⟩,
        fun key hkey => hlookup key (List.mem_cons_of_mem _ hkey), nofun⟩
    have hkeys : ([("node_id", node)].map Prod.fst).Nodup := List.nodup_singleton _
    exact readRecord_congr hu.keys hkeys hfields
  -- What is left beside the node and the names of a nested character is the character.
  have hinline : (members.filter fun m => m.1 ≠ "node_id" ∧ m.1 ∉ characterNames).Perm
      character := by
    refine (h.filter _).trans (List.Perm.of_eq ?_)
    rw [List.filter_cons_of_neg (by simp), List.filter_eq_self]
    exact fun m hm => decide_eq_true (not_or.mp (List.mem_cons.not.mp (hcharacter m hm)))
  have hkeys : (character.map Prod.fst).Nodup := ((h.map Prod.fst).nodup_iff.mp hu.keys).of_cons
  rw [readPresence, hrecord, Content.event?, Occupant.read, readRecord_perm hkeys hinline.symm,
    ← Occupant.read]
  rfl

end

/-- However a content is spelt, it is what the payload means. -/
theorem meaning_of_spells {content : Content} {payload : Json} (h : Spells content payload)
    (hu : Unrepeated payload) : meaning content.name payload = content.decoded := by
  cases h with
  | nodeDeleted h =>
    rw [meaning_eq rfl, h.readReference_eq (by decide) hu]
    rfl
  | linkDeleted h =>
    rw [meaning_eq rfl, h.readReference_eq (by decide) hu]
    rfl
  | bareMap h =>
    rw [meaning_eq rfl, readMapChanges_bare h]
    rfl
  | wrappedMap map =>
    rw [meaning_eq rfl, readMapChanges_wrapped map]
    rfl
  | @nested change _ _ _ _ hname h =>
    rw [Content.decoded, ← readPresence_nested hname h hu]
    cases change <;> exact meaning_eq rfl _
  | @inline change _ _ _ hcharacter h =>
    rw [Content.decoded, ← readPresence_inline hcharacter h hu]
    cases change <;> exact meaning_eq rfl _

/-- The names that a deletion is sent under, each with the one that its reference goes by. -/
def deletions : List (String × String) :=
  [("node_deleted", "node_id"), ("link_deleted", "link_id")]

theorem meaning_both {event own : String} {payload id id' : Json}
    (hevent : (event, own) ∈ deletions) (h : get? "id" payload = some id)
    (h' : get? own payload = some id') (hu : Unrepeated payload) :
    meaning event payload = .error (.malformed event .wrongShape) := by
  rcases List.mem_pair.mp hevent with hevent | hevent
  all_goals
    cases hevent
    rw [meaning_eq rfl, readReference_both h h' (by decide) hu]
    rfl

/-- All spellings of a content are decoded alike, to the event that is meant or, if what it is made
of cannot be read, to the same error. A deletion that refers under both names is no spelling: it is
rejected. -/
theorem decode_spelt_alike :
    (∀ {content : Content} {payload payload' : Json} {frame text frame' text' : String},
      Spells content payload → Sends content.name payload frame text →
      Spells content payload' → Sends content.name payload' frame' text' →
        decode frame text = decode frame' text' ∧ decode frame text = content.decoded) ∧
    ∀ {event own frame text : String} {payload id id' : Json}, (event, own) ∈ deletions →
      get? "id" payload = some id → get? own payload = some id' → Sends event payload frame text →
        decode frame text = .error (.malformed event .wrongShape) := by
  refine ⟨fun hspells hsends hspells' hsends' => ?_, fun hevent h h' hsends => ?_⟩
  · have hdecoded := (decode_of_sends hsends).trans (meaning_of_spells hspells hsends.unrepeated)
    have hdecoded' :=
      (decode_of_sends hsends').trans (meaning_of_spells hspells' hsends'.unrepeated)
    exact ⟨hdecoded.trans hdecoded'.symm, hdecoded⟩
  · exact (decode_of_sends hsends).trans (meaning_both hevent h h' hsends.unrepeated)

def arrivalNode : Json := .string "00000000000000000000000000000001"

def arrivalCharacter : List (String × Json) :=
  [("character_name", .string "Kali Ormand"), ("online", .bool true)]

def arrival : Content := .presence .arrived arrivalNode arrivalCharacter

def nestedArrival : Json :=
  .object [("node_id", arrivalNode), ("character_data", .object arrivalCharacter)]

def inlineArrival : Json :=
  .object [("online", .bool true), ("character_name", .string "Kali Ormand"),
    ("node_id", arrivalNode)]

def nestedArrivalText : String :=
  "\x7b\"event_type\":\"character_arrived\",\"data\":\x7b" ++
    "\"node_id\":\"00000000000000000000000000000001\"," ++
    "\"character_data\":\x7b\"character_name\":\"Kali Ormand\",\"online\":true\x7d\x7d\x7d"

def inlineArrivalText : String :=
  "\x7b\"event_type\":\"character_arrived\",\"data\":\x7b" ++
    "\"online\":true,\"character_name\":\"Kali Ormand\"," ++
    "\"node_id\":\"00000000000000000000000000000001\"\x7d\x7d"

def doubledDeletion : Json := .object [("id", arrivalNode), ("node_id", arrivalNode)]

def doubledDeletionText : String :=
  "\x7b\"event_type\":\"node_deleted\",\"data\":\x7b" ++
    "\"id\":\"00000000000000000000000000000001\"," ++
    "\"node_id\":\"00000000000000000000000000000001\"\x7d\x7d"

set_option maxRecDepth 4000 in
/-- A character arrives, whether it is nested or inline, and a node that is referred to twice is not
deleted. -/
theorem decode_spelt_alike_arrival :
    decode unnamedFrame nestedArrivalText = decode "" inlineArrivalText ∧
      decode unnamedFrame nestedArrivalText = arrival.decoded ∧ arrival.decoded.isOk = true ∧
      decode unnamedFrame doubledDeletionText =
        .error (.malformed "node_deleted" .wrongShape) := by
  have hnested : Spells arrival nestedArrival := .nested (by decide) (.refl _)
  have hinline : Spells arrival inlineArrival :=
    .inline (by decide) (List.reverse_perm (("node_id", arrivalNode) :: arrivalCharacter))
  have hnestedSent : Sends arrival.name nestedArrival unnamedFrame nestedArrivalText :=
    .enveloped (by decide) ⟨_, rfl, rfl, rfl⟩
  have hinlineSent : Sends arrival.name inlineArrival "" inlineArrivalText :=
    .enveloped (by decide) ⟨_, rfl, rfl, rfl⟩
  have hdoubledSent : Sends "node_deleted" doubledDeletion unnamedFrame doubledDeletionText :=
    .enveloped (by decide) ⟨_, rfl, rfl, rfl⟩
  obtain ⟨halike, hrejected⟩ := decode_spelt_alike
  obtain ⟨hsame, hdecoded⟩ := halike hnested hnestedSent hinline hinlineSent
  exact ⟨hsame, hdecoded, by decide +kernel, hrejected List.mem_cons_self rfl rfl hdoubledSent⟩

end WormholeMap.Event

import WormholeMap.Map.Info
import WormholeMap.Map.Record
import WormholeMap.Proofs.Json.Members

/-!
What is written as a JSON value is read back as it was. This holds of identifiers, of the named
cases, and of every entity of a map whose numbers are finite: JSON has no others, and writes null in
their place.
-/

namespace WormholeMap

open Json

/-! ### Values -/

namespace Json

/-- A record that is written with the fields of a kind of record, in order, is read as that kind,
each field with its value. -/
theorem exists_readRecord (names : List (List String)) (value : Json)
    {members : List (String × Json)} (hvalue : value = .object members) (hnames : names.Nodup)
    (h : names = members.map fun m => [m.1]) :
    ∃ fields, readRecord names value = some fields ∧
      ∀ m ∈ members, fields.lookup m.1 = some m.2 := by
  subst hvalue
  subst h
  have hkeys : (members.map Prod.fst).Nodup := by
    refine List.Nodup.of_map (fun k => [k]) ?_
    rw [List.map_map]
    exact hnames
  exact ⟨members, readRecord_object hkeys, fun m hm => (lookup_eq_some_iff_mem hkeys).mpr hm⟩

theorem required_eq (read : Json → Option α) (name : String) (fields : List (String × Json)) :
    required read name fields = (fields.lookup name).bind read := rfl

@[simp] theorem readString_string (s : String) : readString (Json.string s) = some s := rfl

@[simp] theorem readBool_bool (b : Bool) : readBool (Json.bool b) = some b := rfl

@[simp] theorem readInt_int (n : Int64) : readInt (int n) = some n := by
  have h : (Number.whole n.toInt).toInt64? = some (Int64.ofInt n.toInt) :=
    if_pos ⟨n.minValue_le_toInt, n.toInt_le⟩
  rw [Int64.ofInt_toInt] at h
  exact h

theorem readFloat_float {x : Float} (h : x.isFinite = true) : readFloat (float x) = some x := by
  rw [float, if_pos h]
  rfl

/-- A value that may be missing, by a reader that takes null for none. -/
theorem readNullable_option {read : Json → Option α} {toJson : α → Json} (hnull : read .null = none)
    {value : Option α} (h : ∀ a ∈ value, read (toJson a) = some a) :
    readNullable read (option toJson value) = some value := by
  cases value with
  | none => rfl
  | some a =>
    have hread := h a rfl
    rw [option]
    generalize toJson a = v at hread
    cases v with
    | null =>
      rw [hnull] at hread
      cases hread
    | _ => exact congrArg (Option.map some) hread

@[simp] theorem readNullable_string (value : Option String) :
    readNullable readString (option .string value) = some value :=
  readNullable_option rfl fun s _ => readString_string s

theorem readNullable_bool (value : Option Bool) :
    readNullable readBool (option .bool value) = some value :=
  readNullable_option rfl fun b _ => readBool_bool b

@[simp] theorem readNullable_int (value : Option Int64) :
    readNullable readInt (option int value) = some value :=
  readNullable_option rfl fun n _ => readInt_int n

theorem readNullable_float {value : Option Float} (h : ∀ x ∈ value, x.isFinite = true) :
    readNullable readFloat (option float value) = some value :=
  readNullable_option rfl fun x hx => readFloat_float (h x hx)

theorem readList_list {read : Json → Option α} {toJson : α → Json} {items : List α}
    (h : ∀ a ∈ items, read (toJson a) = some a) : readList read (list toJson items) = some items :=
  mapM_map_of_forall h

@[simp] theorem readList_string (items : List String) :
    readList readString (list .string items) = some items :=
  readList_list fun s _ => readString_string s

end Json

/-! ### Identifiers -/

namespace Uuid

theorem digit?_digitChar (d : Fin 16) : digit? (digitChar d) = some d := by
  revert d
  decide

theorem parseSimple?_digits (u : Uuid) : parseSimple? (u.digits.map digitChar) = some u := by
  rw [parseSimple?, mapM_map_of_forall fun d _ => digit?_digitChar d]
  exact dif_pos u.length_digits

/-- Hyphens between groups of 8, 4, 4, 4 and 12 characters are read as such. -/
theorem parseHyphenated?_groups {a b c d e : List Char} (ha : a.length = 8) (hb : b.length = 4)
    (hc : c.length = 4) (hd : d.length = 4) (he : e.length = 12) :
    parseHyphenated? (a ++ '-' :: b ++ '-' :: c ++ '-' :: d ++ '-' :: e) =
      parseSimple? (a ++ b ++ c ++ d ++ e) := by
  rw [parseHyphenated?, if_pos]
  · simp [List.drop_append, List.drop_of_length_le, ha, hb, hc, hd]
  · simp [ha, hb, hc, hd, he]

theorem parse?_toText (u : Uuid) : parse? u.toText = some u := by
  have hlength : (u.digits.map digitChar).length = 32 := by
    rw [List.length_map, u.length_digits]
  have hparse : parseHyphenated? u.toChars = some u := by
    rw [← parseSimple?_digits u, toChars]
    generalize u.digits.map digitChar = cs at hlength
    rw [parseHyphenated?_groups (by simp [hlength]) (by simp [hlength]) (by simp [hlength])
      (by simp [hlength]) (by simp [hlength])]
    have hgroup (i n : Nat) : (cs.drop i).take n ++ cs.drop (i + n) = cs.drop i := by
      rw [← List.drop_drop, List.take_append_drop]
    simp only [List.append_assoc]
    rw [hgroup 16 4, hgroup 12 4, hgroup 8 4, List.take_append_drop]
  have hchars : u.toChars.length = 36 := by simp [toChars, hlength]
  simp [parse?, toText, hchars, hparse]

@[simp] theorem read_toJson (u : Uuid) : Uuid.read u.toJson = some u := parse?_toText u

end Uuid

@[simp] theorem MapId.read_toJson (id : MapId) : MapId.read id.toJson = some id :=
  congrArg (Option.map MapId.mk) id.uuid.read_toJson

@[simp] theorem NodeId.read_toJson (id : NodeId) : NodeId.read id.toJson = some id :=
  congrArg (Option.map NodeId.mk) id.uuid.read_toJson

@[simp] theorem LinkId.read_toJson (id : LinkId) : LinkId.read id.toJson = some id :=
  congrArg (Option.map LinkId.mk) id.uuid.read_toJson

/-! ### Tables of amounts -/

namespace Amounts

/-- Every amount of the table is finite. -/
def Finite (t : Amounts) : Prop := ∀ e ∈ t.entries, e.2.isFinite = true

theorem eq_of_entries {t t' : Amounts} (h : t.entries = t'.entries) : t = t' := by
  cases t
  cases t'
  cases h
  rfl

theorem insertEntry_of_lt {name : String} {amount : Float} {l : List (String × Float)}
    (h : ∀ e ∈ l, e.1 < name) : insertEntry name amount l = l ++ [(name, amount)] := by
  induction l with
  | nil => rfl
  | cons e l ih =>
    obtain ⟨he, hl⟩ := List.forall_mem_cons.mp h
    rw [insertEntry, if_neg (String.lt_asymm he), if_neg (String.ne_of_lt he).symm, ih hl]
    rfl

/-- Entries that follow those of a table, in order, are added at its end. -/
theorem entries_foldl_insert (t : Amounts) {l : List (String × Float)}
    (h : (t.entries ++ l).Pairwise fun a b => a.1 < b.1) :
    (l.foldl (fun t e => t.insert e.1 e.2) t).entries = t.entries ++ l := by
  induction l generalizing t with
  | nil => exact (List.append_nil _).symm
  | cons e l ih =>
    have hlast (e' : String × Float) (he' : e' ∈ t.entries) : e'.1 < e.1 :=
      (List.pairwise_append.mp h).2.2 e' he' e List.mem_cons_self
    have hinsert : (t.insert e.1 e.2).entries = t.entries ++ [e] := insertEntry_of_lt hlast
    rw [List.foldl_cons, ih]
    · rw [hinsert, List.append_assoc, List.singleton_append]
    · rw [hinsert, List.append_assoc, List.singleton_append]
      exact h

theorem read_toJson {t : Amounts} (h : t.Finite) : Amounts.read t.toJson = some t := by
  have hread : (t.entries.map fun e => (e.1, float e.2)).mapM
      (fun m => (readFloat m.2).map (m.1, ·)) = some t.entries := by
    refine mapM_map_of_forall fun e he => ?_
    rw [readFloat_float (h e he)]
    rfl
  have htable : t.entries.foldl (fun t e => t.insert e.1 e.2) empty = t :=
    eq_of_entries (entries_foldl_insert empty (l := t.entries) t.sorted)
  exact (congrArg (Option.map _) hread).trans (congrArg some htable)

theorem readNullable_option {value : Option Amounts} (h : ∀ t ∈ value, t.Finite) :
    readNullable Amounts.read (option toJson value) = some value :=
  Json.readNullable_option rfl fun t ht => read_toJson (h t ht)

end Amounts

/-! ### Named cases -/

@[simp] theorem Lifetime.read_toJson (s : Lifetime) : Lifetime.read s.toJson = some s := by
  cases s <;> rfl

@[simp] theorem MassUsage.read_toJson (s : MassUsage) : MassUsage.read s.toJson = some s := by
  cases s <;> rfl

@[simp] theorem LineStyle.read_toJson (s : LineStyle) : LineStyle.read s.toJson = some s := by
  cases s <;> rfl

@[simp] theorem RankDirection.read_toJson (s : RankDirection) :
    RankDirection.read s.toJson = some s := by
  cases s <;> rfl

/-! ### Entities -/

/-- Both coordinates are finite. -/
structure Position.Finite (p : Position) : Prop where
  x : p.x.isFinite = true
  y : p.y.isFinite = true

theorem Position.read_toJson {p : Position} (h : p.Finite) : Position.read p.toJson = some p := by
  obtain ⟨fields, hfields, hlookup⟩ :=
    exists_readRecord Position.fields p.toJson rfl (by decide) rfl
  simp only [List.forall_mem_cons] at hlookup
  simp [Position.read, hfields, required, hlookup, readFloat_float, h.x, h.y]

/-- The coordinates and the zoom are finite. -/
structure Viewport.Finite (v : Viewport) : Prop where
  x : v.x.isFinite = true
  y : v.y.isFinite = true
  zoom : v.zoom.isFinite = true

theorem Viewport.read_toJson {v : Viewport} (h : v.Finite) : Viewport.read v.toJson = some v := by
  obtain ⟨fields, hfields, hlookup⟩ :=
    exists_readRecord Viewport.fields v.toJson rfl (by decide) rfl
  simp only [List.forall_mem_cons] at hlookup
  simp [Viewport.read, hfields, required, hlookup, readFloat_float, h.x, h.y, h.zoom]

theorem Signature.read_toJson (s : Signature) : Signature.read s.toJson = some s := by
  obtain ⟨fields, hfields, hlookup⟩ :=
    exists_readRecord Signature.fields s.toJson rfl (by decide) rfl
  simp only [List.forall_mem_cons] at hlookup
  have hlink : readNullable LinkId.read (option LinkId.toJson s.linkId) = some s.linkId :=
    readNullable_option rfl fun id _ => id.read_toJson
  simp [Signature.read, hfields, required, Json.optional, defaulted, hlookup, hlink]

theorem Note.read_toJson (n : Note) : Note.read n.toJson = some n := by
  obtain ⟨fields, hfields, hlookup⟩ := exists_readRecord Note.fields n.toJson rfl (by decide) rfl
  simp only [List.forall_mem_cons] at hlookup
  simp [Note.read, hfields, required, Json.optional, defaulted, hlookup]

theorem Occupant.read_toJson (o : Occupant) : Occupant.read o.toJson = some o := by
  obtain ⟨fields, hfields, hlookup⟩ :=
    exists_readRecord Occupant.fields o.toJson rfl (by decide) rfl
  simp only [List.forall_mem_cons] at hlookup
  simp [Occupant.read, hfields, required, Json.optional, defaulted, hlookup, readNullable_bool]

/-- Every number of the node is finite, those of its tables included. -/
structure Node.Finite (n : Node) : Prop where
  x : n.x.isFinite = true
  y : n.y.isFinite = true
  securityStatus : ∀ x ∈ n.securityStatus, x.isFinite = true
  effectBuffs : ∀ t ∈ n.effectBuffs, t.Finite
  effectDebuffs : ∀ t ∈ n.effectDebuffs, t.Finite

theorem Node.read_toJson {n : Node} (h : n.Finite) : Node.read n.toJson = some n := by
  obtain ⟨fields, hfields, hlookup⟩ := exists_readRecord Node.fields n.toJson rfl (by decide) rfl
  simp only [List.forall_mem_cons] at hlookup
  have hoccupants : readList Occupant.read (list Occupant.toJson n.occupants) = some n.occupants :=
    readList_list fun o _ => o.read_toJson
  rw [Node.read, hfields, Option.bind_eq_bind, Option.bind_some]
  simp only [required_eq, Json.optional, defaulted, hlookup, Option.bind_some, NodeId.read_toJson,
    readInt_int, readFloat_float, h.x, h.y, readBool_bool, readNullable_string, readNullable_int,
    readNullable_float h.securityStatus, Amounts.readNullable_option h.effectBuffs,
    Amounts.readNullable_option h.effectDebuffs, readList_string, hoccupants]
  rfl

/-- The lifetime of the wormhole is finite, where it is known. -/
def Link.Finite (l : Link) : Prop := ∀ x ∈ l.wormholeLifetime, x.isFinite = true

theorem Link.read_toJson {l : Link} (h : l.Finite) : Link.read l.toJson = some l := by
  obtain ⟨fields, hfields, hlookup⟩ := exists_readRecord Link.fields l.toJson rfl (by decide) rfl
  simp only [List.forall_mem_cons] at hlookup
  rw [Link.read, hfields, Option.bind_eq_bind, Option.bind_some]
  simp only [required_eq, Json.optional, defaulted, hlookup, Option.bind_some, LinkId.read_toJson,
    NodeId.read_toJson, readNullable_string, readNullable_int, readNullable_float h,
    Lifetime.read_toJson, MassUsage.read_toJson]
  rfl

/-- The gaps that the map asks for are finite. -/
structure MapInfo.Finite (m : MapInfo) : Prop where
  nodeSep : ∀ x ∈ m.nodeSep, x.isFinite = true
  rankSep : ∀ x ∈ m.rankSep, x.isFinite = true

theorem MapInfo.read_toJson {m : MapInfo} (h : m.Finite) : MapInfo.read m.toJson = some m := by
  obtain ⟨fields, hfields, hlookup⟩ := exists_readRecord MapInfo.fields m.toJson rfl (by decide) rfl
  simp only [List.forall_mem_cons] at hlookup
  rw [MapInfo.read, hfields, Option.bind_eq_bind, Option.bind_some]
  simp only [required_eq, Json.optional, defaulted, hlookup, Option.bind_some, MapId.read_toJson,
    Uuid.read_toJson, readString_string, readBool_bool, readNullable_string, LineStyle.read_toJson,
    RankDirection.read_toJson, readNullable_float h.nodeSep, readNullable_float h.rankSep]
  rfl

/-- Every number of the map, its nodes and its links is finite. -/
structure MapDetail.Finite (d : MapDetail) : Prop where
  map : d.map.Finite
  nodes : ∀ n ∈ d.nodes, n.Finite
  links : ∀ l ∈ d.links, l.Finite

theorem MapDetail.read_toJson {d : MapDetail} (h : d.Finite) :
    MapDetail.read d.toJson = some d := by
  obtain ⟨fields, hfields, hlookup⟩ :=
    exists_readRecord MapDetail.fields d.toJson rfl (by decide) rfl
  simp only [List.forall_mem_cons] at hlookup
  have hnodes : readList Node.read (list Node.toJson d.nodes) = some d.nodes :=
    readList_list fun n hn => Node.read_toJson (h.nodes n hn)
  have hlinks : readList Link.read (list Link.toJson d.links) = some d.links :=
    readList_list fun l hl => Link.read_toJson (h.links l hl)
  simp [MapDetail.read, hfields, required, defaulted, hlookup, MapInfo.read_toJson h.map, hnodes,
    hlinks]

end WormholeMap

import WormholeMap.Json.Document
import Mathlib

/-!
The members of objects. In a value that has been parsed no object repeats a key
(`unrepeated_parseText?`). What is read from such an object as a record depends on nothing but the
values under the names of the fields, in whatever order the members come and whatever else there is
(`readRecord_congr`).
-/

namespace WormholeMap.Json

/-! ### Lists of optional results -/

theorem forall₂_of_mapM {f : α → Option β} {l : List α} {found : List β}
    (h : l.mapM f = some found) : List.Forall₂ (fun a b => f a = some b) l found := by
  induction l generalizing found with
  | nil =>
    cases h
    exact .nil
  | cons a l ih =>
    rw [List.mapM_cons] at h
    obtain ⟨first, hfirst, h⟩ := Option.bind_eq_some_iff.mp h
    obtain ⟨rest, hrest, h⟩ := Option.bind_eq_some_iff.mp h
    cases h
    exact .cons hfirst (ih hrest)

theorem exists_getElem?_of_forall₂ {R : α → β → Prop} {l : List α} {l' : List β}
    (h : List.Forall₂ R l l') {i : Nat} {a : α} (ha : l[i]? = some a) :
    ∃ b, l'[i]? = some b ∧ R a b := by
  induction h generalizing i with
  | nil => cases ha
  | @cons first first' _ _ hfirst _ ih =>
    cases i with
    | zero =>
      cases ha
      exact ⟨first', rfl, hfirst⟩
    | succ i => exact ih ha

/-- Lists whose elements are turned into the same, one by one, are turned into the same. -/
theorem mapM_eq_of_forall₂ {R : α → β → Prop} {f : α → Option γ} {g : β → Option γ} {l : List α}
    {l' : List β} (h : List.Forall₂ R l l') (hfg : ∀ a b, R a b → f a = g b) :
    l.mapM f = l'.mapM g := by
  induction h with
  | nil => rfl
  | cons hab _ ih => rw [List.mapM_cons, List.mapM_cons, hfg _ _ hab, ih]

/-- What a list is turned into comes from its elements. -/
theorem exists_of_mem_mapM {f : α → Option β} {l : List α} {found : List β}
    (h : l.mapM f = some found) {b : β} (hb : b ∈ found) : ∃ a ∈ l, f a = some b := by
  have hflipped : List.Forall₂ (fun b a => f a = some b) found l := (forall₂_of_mapM h).flip
  obtain ⟨i, hi⟩ := List.mem_iff_getElem?.mp hb
  obtain ⟨a, ha, hab⟩ := exists_getElem?_of_forall₂ hflipped hi
  exact ⟨a, List.mem_of_getElem? ha, hab⟩

theorem mapM_congr {f g : α → Option β} {l : List α} (h : ∀ a ∈ l, f a = g a) :
    l.mapM f = l.mapM g :=
  mapM_eq_of_forall₂ (R := fun a b => f a = g b) (List.forall₂_same.mpr h) fun _ _ => id

/-- A list that each element of another is turned into one of. -/
theorem mapM_map_of_forall {f : β → Option α} {g : α → β} {l : List α}
    (h : ∀ a ∈ l, f (g a) = some a) : (l.map g).mapM f = some l := by
  calc (l.map g).mapM f
    _ = l.mapM (f ∘ g) := List.mapM_map
    _ = l.mapM fun a => pure a := mapM_congr h
    _ = some (l.map fun a => a) := List.mapM_pure
    _ = some l := by rw [List.map_id']

/-! ### Objects without repeated keys -/

/-- No object within the value repeats a key. -/
inductive Unrepeated : Json → Prop
  | null : Unrepeated .null
  | bool (b : Bool) : Unrepeated (.bool b)
  | number (n : Number) : Unrepeated (.number n)
  | string (s : String) : Unrepeated (.string s)
  | array {items : List Json} (h : ∀ v ∈ items, Unrepeated v) : Unrepeated (.array items)
  | object {members : List (String × Json)} (hkeys : (members.map Prod.fst).Nodup)
      (h : ∀ m ∈ members, Unrepeated m.2) : Unrepeated (.object members)

theorem Unrepeated.keys {members : List (String × Json)} (h : Unrepeated (.object members)) :
    (members.map Prod.fst).Nodup := by
  cases h with
  | object hkeys _ => exact hkeys

theorem Unrepeated.get? {key : String} {value member : Json} (h : Unrepeated value)
    (hget : get? key value = some member) : Unrepeated member := by
  cases h with
  | object _ h =>
    obtain ⟨before, after, hmembers, -⟩ := List.lookup_eq_some_iff.mp hget
    exact h (key, member) (by simp [hmembers])
  | _ => cases hget

section

variable {key : String} {value : Json} {members : List (String × Json)}

theorem mem_insertMember {m : String × Json} (h : m ∈ insertMember key value members) :
    m = (key, value) ∨ m ∈ members := by
  induction members with
  | nil => exact .inl (List.mem_singleton.mp h)
  | cons first rest ih =>
    rw [insertMember] at h
    split at h
    · rename_i hkey
      rw [hkey] at h
      exact (List.mem_cons.mp h).imp_right (List.mem_cons_of_mem first)
    · rcases List.mem_cons.mp h with rfl | h
      · exact .inr List.mem_cons_self
      · exact (ih h).imp_right (List.mem_cons_of_mem first)

theorem nodup_insertMember (h : (members.map Prod.fst).Nodup) :
    ((insertMember key value members).map Prod.fst).Nodup := by
  induction members with
  | nil => exact List.nodup_singleton key
  | cons first rest ih =>
    rw [List.map_cons, List.nodup_cons] at h
    rw [insertMember]
    split
    · exact List.nodup_cons.mpr h
    · rename_i hkey
      refine List.nodup_cons.mpr ⟨fun hmem => ?_, ih h.2⟩
      obtain ⟨m, hm, hfirst⟩ := List.mem_map.mp hmem
      rcases mem_insertMember hm with rfl | hm
      · exact hkey hfirst.symm
      · exact h.1 (hfirst ▸ List.mem_map_of_mem hm)

end

/-- Merging leaves each key once, and no value that was not there. -/
theorem unrepeated_mergeMembers {members : List (String × Json)}
    (h : ∀ m ∈ members, Unrepeated m.2) : Unrepeated (.object (mergeMembers members)) := by
  have hmerged (done : List (String × Json)) (hdone : Unrepeated (.object done)) :
      Unrepeated (.object (members.foldl (fun done m => insertMember m.1 m.2 done) done)) := by
    induction members generalizing done with
    | nil => exact hdone
    | cons first rest ih =>
      obtain ⟨hfirst, hrest⟩ := List.forall_mem_cons.mp h
      refine ih hrest _ ?_
      cases hdone with
      | object hkeys hdone =>
        refine .object (nodup_insertMember hkeys) fun m hm => ?_
        rcases mem_insertMember hm with rfl | hm
        · exact hfirst
        · exact hdone m hm
  exact hmerged [] (.object List.nodup_nil nofun)

theorem unrepeated_ofWritten? :
    ∀ {depth : Nat} {written : Written} {value : Json}, ofWritten? depth written = some value →
      Unrepeated value
  | _, .null, _, h => by
    rw [ofWritten?] at h
    cases h
    exact .null
  | _, .bool b, _, h => by
    rw [ofWritten?] at h
    cases h
    exact .bool b
  | _, .numeral n, _, h => by
    rw [ofWritten?] at h
    obtain ⟨n, -, rfl⟩ := Option.map_eq_some_iff.mp h
    exact .number n
  | _, .text s, _, h => by
    rw [ofWritten?] at h
    obtain ⟨s, -, rfl⟩ := Option.map_eq_some_iff.mp h
    exact .string s
  | 0, .array _, _, h => by cases h
  | 0, .object _, _, h => by cases h
  | depth + 1, .array items, _, h => by
    obtain ⟨values, hvalues, rfl⟩ := Option.map_eq_some_iff.mp h
    refine .array fun v hv => ?_
    obtain ⟨w, -, hw⟩ := exists_of_mem_mapM hvalues hv
    exact unrepeated_ofWritten? hw
  | depth + 1, .object members, _, h => by
    obtain ⟨values, hvalues, rfl⟩ := Option.map_eq_some_iff.mp h
    refine unrepeated_mergeMembers fun m hm => ?_
    obtain ⟨w, -, hw⟩ := exists_of_mem_mapM hvalues hm
    obtain ⟨key, -, hw⟩ := Option.bind_eq_some_iff.mp hw
    obtain ⟨v, hv, hw⟩ := Option.bind_eq_some_iff.mp hw
    cases hw
    exact unrepeated_ofWritten? hv

theorem unrepeated_parseText? {text : String} {value : Json} (h : parseText? text = some value) :
    Unrepeated value := by
  obtain ⟨written, -, hvalue⟩ := Option.bind_eq_some_iff.mp h
  exact unrepeated_ofWritten? hvalue

/-! ### Records -/

section

variable {fields : List (List String)} {members members' : List (String × Json)}

theorem lookup_eq_some_iff_mem (hkeys : (members.map Prod.fst).Nodup) {m : String × Json} :
    members.lookup m.1 = some m.2 ↔ m ∈ members := by
  constructor
  · intro h
    obtain ⟨before, after, rfl, -⟩ := List.lookup_eq_some_iff.mp h
    simp
  · intro h
    obtain ⟨before, after, rfl⟩ := List.append_of_mem h
    refine List.lookup_eq_some_iff.mpr ⟨before, after, rfl, fun p hp => bne_iff_ne.mpr ?_⟩
    rw [List.map_append, List.map_cons] at hkeys
    have hdisjoint := List.disjoint_of_nodup_append hkeys
    intro heq
    exact hdisjoint (List.mem_map_of_mem hp) (heq ▸ List.mem_cons_self)

theorem lookup_perm (hkeys : (members.map Prod.fst).Nodup) (h : members.Perm members')
    (key : String) : members.lookup key = members'.lookup key := by
  have hkeys' : (members'.map Prod.fst).Nodup := (h.map Prod.fst).nodup_iff.mp hkeys
  refine Option.ext fun value => ?_
  rw [lookup_eq_some_iff_mem (m := (key, value)) hkeys,
    lookup_eq_some_iff_mem (m := (key, value)) hkeys', h.mem_iff]

theorem mem_holding {names : List String} {m : String × Json} :
    m ∈ holding names members ↔ m ∈ members ∧ m.1 ∈ names := by
  rw [holding, List.mem_filter, List.contains_iff_mem]

/-- Objects that agree on the names of a field hold the same under them. -/
theorem holding_perm (hkeys : (members.map Prod.fst).Nodup) (hkeys' : (members'.map Prod.fst).Nodup)
    {names : List String} (h : ∀ name ∈ names, members.lookup name = members'.lookup name) :
    (holding names members).Perm (holding names members') := by
  have hsame (m : String × Json) : m ∈ holding names members ↔ m ∈ holding names members' := by
    rw [mem_holding, mem_holding, ← lookup_eq_some_iff_mem hkeys, ← lookup_eq_some_iff_mem hkeys']
    refine and_congr_left fun hname => ?_
    rw [h m.1 hname]
  exact (List.perm_ext_iff_of_nodup (hkeys.of_map.filter _) (hkeys'.of_map.filter _)).mpr hsame

theorem holding_of_mem (hkeys : (members.map Prod.fst).Nodup) {m : String × Json}
    (hm : m ∈ members) : holding [m.1] members = [m] := by
  have hsame (m' : String × Json) : m' ∈ holding [m.1] members ↔ m' ∈ [m] := by
    rw [mem_holding, List.mem_singleton, List.mem_singleton]
    constructor
    · rintro ⟨hm', hkey⟩
      have hlookup := (lookup_eq_some_iff_mem hkeys).mpr hm'
      rw [hkey, (lookup_eq_some_iff_mem hkeys).mpr hm] at hlookup
      exact Prod.ext hkey (Option.some.inj hlookup).symm
    · rintro rfl
      exact ⟨hm, rfl⟩
  exact List.perm_singleton.mp ((List.perm_ext_iff_of_nodup (hkeys.of_map.filter _)
    (List.nodup_singleton m)).mpr hsame)

/-- What an object holds under the names of a field: at most one value, by its main name. -/
def readField (members : List (String × Json)) (names : List String) :
    Option (List (String × Json)) :=
  match holding names members with
  | [] => some []
  | [(_, v)] => some [(names.headD "", v)]
  | _ => none

theorem readRecord_eq (fields : List (List String)) (members : List (String × Json)) :
    readRecord fields (Json.object members) =
      (fields.mapM (readField members)).map List.flatten := by
  refine congrArg (Option.map List.flatten) (congrArg (fun f => List.mapM f fields) ?_)
  funext names
  rw [readField]
  rcases holding names members with _ | ⟨_, _ | _⟩ <;> rfl

theorem readField_congr {names : List String}
    (h : (holding names members).Perm (holding names members')) :
    readField members names = readField members' names := by
  rw [readField, readField]
  rcases hholding : holding names members with _ | ⟨first, _ | ⟨second, rest⟩⟩
  · rw [hholding] at h
    rw [List.nil_perm.mp h]
  · rw [hholding] at h
    rw [List.singleton_perm.mp h]
  · -- Neither object can be read where one holds several, whatever their order.
    rcases hholding' : holding names members' with _ | ⟨first', _ | ⟨second', rest'⟩⟩
    · simp [hholding, hholding'] at h
    · simp [hholding, hholding'] at h
    · rfl

/-- A record depends on what its object holds under the names of the fields, and on nothing else. -/
theorem readRecord_congr (hkeys : (members.map Prod.fst).Nodup)
    (hkeys' : (members'.map Prod.fst).Nodup)
    (h : ∀ names ∈ fields, ∀ name ∈ names, members.lookup name = members'.lookup name) :
    readRecord fields (Json.object members) = readRecord fields (Json.object members') := by
  rw [readRecord_eq, readRecord_eq]
  exact congrArg _ (mapM_congr fun names hnames =>
    readField_congr (holding_perm hkeys hkeys' (h names hnames)))

/-- The order of the members is of no consequence. -/
theorem readRecord_perm (hkeys : (members.map Prod.fst).Nodup) (h : members.Perm members') :
    readRecord fields (Json.object members) = readRecord fields (Json.object members') :=
  readRecord_congr hkeys ((h.map Prod.fst).nodup_iff.mp hkeys)
    fun _ _ name _ => lookup_perm hkeys h name

/-- An object that has exactly the fields of a record, in order and under their main names. -/
theorem readRecord_object (hkeys : (members.map Prod.fst).Nodup) :
    readRecord (members.map fun m => [m.1]) (Json.object members) = some members := by
  have hfield (m : String × Json) (hm : m ∈ members) : readField members [m.1] = pure [m] := by
    rw [readField, holding_of_mem hkeys hm]
    rfl
  have hfields : members.mapM (fun m => readField members [m.1]) =
      some (members.map fun m => [m]) := (mapM_congr hfield).trans List.mapM_pure
  rw [readRecord_eq, List.mapM_map, Function.comp_def, hfields, Option.map_some,
    ← List.flatMap_def, List.flatMap_singleton']

end

end WormholeMap.Json

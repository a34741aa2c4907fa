import WormholeMap.Proofs.Json.Members

/-!
Reading a text as it is written and reading the value that it becomes. Where no object repeats a key,
the two show the same shape, part by part (`Becomes.shape_alike`), and readers see nothing else: each
reads both alike (`ReadAlike`). What a reader does not ask for makes no difference, since a text with
a value has no part without one.
-/

namespace WormholeMap.Json

open Document (shape)

/-! ### Related results -/

theorem exists_mapM_of_forall₂ {P : α → β → Prop} {Q : γ → β → Prop} {f : α → Option γ}
    {l : List α} {l' : List β} (h : List.Forall₂ P l l')
    (hf : ∀ a b, P a b → ∃ c, f a = some c ∧ Q c b) :
    ∃ found, l.mapM f = some found ∧ List.Forall₂ Q found l' := by
  induction h with
  | nil => exact ⟨[], rfl, .nil⟩
  | cons hab _ ih =>
    obtain ⟨c, hc, hQ⟩ := hf _ _ hab
    obtain ⟨found, hfound, hrest⟩ := ih
    refine ⟨c :: found, ?_, .cons hQ hrest⟩
    rw [List.mapM_cons, hc, hfound]
    rfl

theorem rel_bind {R : α → β → Prop} {Q : γ → δ → Prop} {x : Option α} {y : Option β}
    {f : α → Option γ} {g : β → Option δ} (h : Option.Rel R x y)
    (hfg : ∀ a b, R a b → Option.Rel Q (f a) (g b)) : Option.Rel Q (x >>= f) (y >>= g) := by
  cases h with
  | none => exact .none
  | some h => exact hfg _ _ h

theorem rel_map {R : α → β → Prop} {Q : γ → δ → Prop} {x : Option α} {y : Option β} {f : α → γ}
    {g : β → δ} (h : Option.Rel R x y) (hfg : ∀ a b, R a b → Q (f a) (g b)) :
    Option.Rel Q (x.map f) (y.map g) := by
  cases h with
  | none => exact .none
  | some h => exact .some (hfg _ _ h)

theorem rel_mapM {R : β → γ → Prop} {f : α → Option β} {g : α → Option γ}
    (h : ∀ a, Option.Rel R (f a) (g a)) (l : List α) :
    Option.Rel (List.Forall₂ R) (l.mapM f) (l.mapM g) := by
  induction l with
  | nil => exact .some .nil
  | cons a l ih =>
    rw [List.mapM_cons, List.mapM_cons]
    exact rel_bind (h a) fun _ _ hfirst => rel_bind ih fun _ _ hrest => .some (.cons hfirst hrest)

/-! ### Texts without repeated keys -/

/-- No object within the text repeats a key. -/
inductive Written.Unrepeated : Written → Prop
  | null : Unrepeated .null
  | bool (b : Bool) : Unrepeated (.bool b)
  | numeral (n : Numeral) : Unrepeated (.numeral n)
  | text (s : Option String) : Unrepeated (.text s)
  | array {items : List Written} (h : ∀ w ∈ items, Unrepeated w) : Unrepeated (.array items)
  | object {members : List (Option String × Written)} (hkeys : (members.map Prod.fst).Nodup)
      (h : ∀ m ∈ members, Unrepeated m.2) : Unrepeated (.object members)

/-- A text without repeated keys, and the value that it becomes. -/
structure Becomes (written : Written) (value : Json) : Prop where
  unrepeated : written.Unrepeated
  value : ∃ depth, ofWritten? depth written = some value

/-- Members with the same key, one as it is written and one as the value it becomes. -/
def MemberBecomes (m : String × Written) (m' : String × Json) : Prop :=
  m.1 = m'.1 ∧ Becomes m.2 m'.2

/-- Shapes of a text and of a value that show the same, their parts being texts and the values that
they become. -/
inductive Shape.Alike : Shape Written → Shape Json → Prop
  | null : Alike .null .null
  | bool (b : Bool) : Alike (.bool b) (.bool b)
  | number (n : Number) : Alike (.number n) (.number n)
  | string (s : String) : Alike (.string s) (.string s)
  | array {items : List Written} {values : List Json} (h : List.Forall₂ Becomes items values) :
      Alike (.array items) (.array values)
  | object {members : List (String × Written)} {members' : List (String × Json)}
      (h : List.Forall₂ MemberBecomes members members') : Alike (.object members) (.object members')

theorem insertMember_of_notMem {key : String} {value : Json} {members : List (String × Json)}
    (h : key ∉ members.map Prod.fst) :
    insertMember key value members = members ++ [(key, value)] := by
  induction members with
  | nil => rfl
  | cons first rest ih =>
    rw [List.map_cons, List.mem_cons, not_or] at h
    rw [insertMember, if_neg (Ne.symm h.1), ih h.2]
    rfl

/-- Members of which none repeats a key stay as they are. -/
theorem mergeMembers_of_nodup {members : List (String × Json)}
    (h : (members.map Prod.fst).Nodup) : mergeMembers members = members := by
  have hmerged (done rest : List (String × Json)) (h : ((done ++ rest).map Prod.fst).Nodup) :
      rest.foldl (fun done m => insertMember m.1 m.2 done) done = done ++ rest := by
    induction rest generalizing done with
    | nil => rw [List.foldl_nil, List.append_nil]
    | cons m rest ih =>
      have hnew : m.1 ∉ done.map Prod.fst := by
        rw [List.map_append, List.map_cons] at h
        exact fun hmem => List.disjoint_of_nodup_append h hmem List.mem_cons_self
      rw [List.foldl_cons, insertMember_of_notMem hnew, ih, List.append_assoc,
        List.singleton_append]
      rwa [List.append_assoc, List.singleton_append]
  exact hmerged [] members h

/-- What is written of a member: its key, which must name a text, and what becomes of its value. -/
theorem member_of_ofWritten? {depth : Nat} {m : Option String × Written} {m' : String × Json}
    (h : (do return (← m.1, ← ofWritten? depth m.2)) = some m') :
    m.1 = some m'.1 ∧ ofWritten? depth m.2 = some m'.2 := by
  obtain ⟨key, hkey, h⟩ := Option.bind_eq_some_iff.mp h
  obtain ⟨value, hvalue, h⟩ := Option.bind_eq_some_iff.mp h
  cases h
  exact ⟨hkey, hvalue⟩

theorem shape_numeral {n : Numeral} {m : Number} (h : n.value? = some m) :
    shape (Written.numeral n) = .number m := by
  simp only [shape, h]

theorem shape_object {members : List (Option String × Written)} {named : List (String × Written)}
    (h : members.mapM (fun m => m.1.map (·, m.2)) = some named) :
    shape (Written.object members) = .object named := by
  simp only [shape, h]

theorem Becomes.shape_items {depth : Nat} {items : List Written} {values : List Json}
    (hitems : ∀ w ∈ items, w.Unrepeated) (h : items.mapM (ofWritten? depth) = some values) :
    Shape.Alike (shape (Written.array items)) (shape (Json.array values)) :=
  .array (((List.forall₂_and_left _ _).mpr ⟨hitems, forall₂_of_mapM h⟩).imp
    fun _ _ hw => ⟨hw.1, depth, hw.2⟩)

/-- Members without repeated keys become the members of a value one by one. -/
theorem Becomes.shape_members {depth : Nat} {members : List (Option String × Written)}
    {members' : List (String × Json)} (hkeys : (members.map Prod.fst).Nodup)
    (hmembers : ∀ m ∈ members, m.2.Unrepeated)
    (h : (members.mapM fun m => do return (← m.1, ← ofWritten? depth m.2)) = some members') :
    Shape.Alike (shape (Written.object members)) (shape (Json.object (mergeMembers members'))) := by
  have hpairs := (forall₂_of_mapM h).imp fun _ _ => member_of_ofWritten?
  -- The keys of the value are those of the text, so that merging leaves every member in its place.
  have hkeys' : (members'.map Prod.fst).Nodup := by
    have hsame : members.map Prod.fst = (members'.map Prod.fst).map some := by
      rw [List.map_map]
      refine List.forall₂_eq_eq_eq ▸ ?_
      exact List.forall₂_map_left_iff.mpr (List.forall₂_map_right_iff.mpr
        (hpairs.imp fun _ _ hpair => hpair.1))
    exact (hsame ▸ hkeys).of_map
  obtain ⟨named, hnamed, hbecomes⟩ := exists_mapM_of_forall₂ (Q := MemberBecomes)
    (f := fun m : Option String × Written => m.1.map (·, m.2))
    ((List.forall₂_and_left _ _).mpr ⟨hmembers, hpairs⟩)
    fun m m' ⟨hm, hkey, hvalue⟩ =>
      ⟨(m'.1, m.2), by rw [hkey, Option.map_some], rfl, hm, depth, hvalue⟩
  rw [mergeMembers_of_nodup hkeys', shape_object hnamed]
  exact .object hbecomes

theorem Becomes.shape_alike {written : Written} {value : Json} (h : Becomes written value) :
    Shape.Alike (shape written) (shape value) := by
  obtain ⟨hunrepeated, depth, hvalue⟩ := h
  cases hunrepeated with
  | null =>
    rw [ofWritten?] at hvalue
    cases hvalue
    exact .null
  | bool b =>
    rw [ofWritten?] at hvalue
    cases hvalue
    exact .bool b
  | numeral n =>
    rw [ofWritten?] at hvalue
    obtain ⟨m, hm, rfl⟩ := Option.map_eq_some_iff.mp hvalue
    rw [shape_numeral hm]
    exact .number m
  | text s =>
    rw [ofWritten?] at hvalue
    obtain ⟨t, rfl, rfl⟩ := Option.map_eq_some_iff.mp hvalue
    exact .string t
  | array hitems =>
    cases depth with
    | zero => cases hvalue
    | succ depth =>
      obtain ⟨values, hvalues, rfl⟩ := Option.map_eq_some_iff.mp hvalue
      exact shape_items hitems hvalues
  | object hkeys hmembers =>
    cases depth with
    | zero => cases hvalue
    | succ depth =>
      obtain ⟨members', hmembers', rfl⟩ := Option.map_eq_some_iff.mp hvalue
      exact shape_members hkeys hmembers hmembers'

theorem Becomes.exists_shapes {written : Written} {value : Json} (h : Becomes written value) :
    ∃ s s', shape written = s ∧ shape value = s' ∧ Shape.Alike s s' :=
  ⟨_, _, rfl, rfl, h.shape_alike⟩

/-! ### Readers -/

/-- Two readers, one for texts and one for values, read a text and the value it becomes alike. -/
def ReadAlike (read : Written → Option α) (read' : Json → Option α) : Prop :=
  ∀ {written : Written} {value : Json}, Becomes written value → read written = read' value

theorem readBool_alike : ReadAlike readBool readBool := by
  intro written value h
  obtain ⟨s, s', hs, hs', hsame⟩ := h.exists_shapes
  rw [readBool, readBool, hs, hs']
  cases hsame <;> rfl

theorem readInt_alike : ReadAlike readInt readInt := by
  intro written value h
  obtain ⟨s, s', hs, hs', hsame⟩ := h.exists_shapes
  rw [readInt, readInt, hs, hs']
  cases hsame <;> rfl

theorem readFloat_alike : ReadAlike readFloat readFloat := by
  intro written value h
  obtain ⟨s, s', hs, hs', hsame⟩ := h.exists_shapes
  rw [readFloat, readFloat, hs, hs']
  cases hsame <;> rfl

theorem readString_alike : ReadAlike readString readString := by
  intro written value h
  obtain ⟨s, s', hs, hs', hsame⟩ := h.exists_shapes
  rw [readString, readString, hs, hs']
  cases hsame <;> rfl

section

variable {read : Written → Option α} {read' : Json → Option α}

theorem ReadAlike.nullable (hread : ReadAlike read read') :
    ReadAlike (readNullable read) (readNullable read') := by
  intro written value h
  obtain ⟨s, s', hs, hs', hsame⟩ := h.exists_shapes
  rw [readNullable, readNullable, hread h, hs, hs']
  cases hsame <;> rfl

theorem ReadAlike.list (hread : ReadAlike read read') :
    ReadAlike (readList read) (readList read') := by
  intro written value h
  obtain ⟨s, s', hs, hs', hsame⟩ := h.exists_shapes
  rw [readList, readList, hs, hs']
  cases hsame with
  | array hitems => exact mapM_eq_of_forall₂ hitems fun _ _ hitem => hread hitem
  | _ => rfl

end

/-- A named case, be it a string or the only key of an object. -/
theorem readCase_alike (case? : String → Option α) :
    ReadAlike (readCase case?) (readCase case?) := by
  intro written value h
  obtain ⟨s, s', hs, hs', hsame⟩ := h.exists_shapes
  rw [readCase, readCase, hs, hs']
  cases hsame with
  | object hmembers =>
    rcases hmembers with _ | ⟨hm, _ | _⟩
    · rfl
    · obtain ⟨hkey, hvalue⟩ := hm
      obtain ⟨s, s', hs, hs', hsame⟩ := hvalue.exists_shapes
      simp only [hkey, hs, hs']
      cases hsame <;> rfl
    · rfl
  | _ => rfl

/-! ### Records -/

/-- Fields of a record, one by one with the same names. -/
abbrev FieldsAlike (fields : List (String × Written)) (fields' : List (String × Json)) : Prop :=
  List.Forall₂ MemberBecomes fields fields'

theorem holding_alike {members : List (String × Written)} {members' : List (String × Json)}
    (h : FieldsAlike members members') (names : List String) :
    FieldsAlike (holding names members) (holding names members') :=
  List.rel_filter (fun _ _ hm => iff_of_eq (congrArg (names.contains · = true) hm.1)) h

theorem zip_alike {items : List Written} {values : List Json}
    (h : List.Forall₂ Becomes items values) (names : List String) :
    FieldsAlike (names.zip items) (names.zip values) := by
  induction h generalizing names with
  | nil => simp
  | cons hitem _ ih =>
    cases names with
    | nil => exact .nil
    | cons name names => exact .cons ⟨rfl, hitem⟩ (ih names)

/-- Records have alike fields, or neither can be read. -/
theorem readRecord_alike {written : Written} {value : Json} (h : Becomes written value)
    (fields : List (List String)) :
    Option.Rel FieldsAlike (readRecord fields written) (readRecord fields value) := by
  obtain ⟨s, s', hs, hs', hsame⟩ := h.exists_shapes
  rw [readRecord, readRecord, hs, hs']
  cases hsame with
  | @object members members' hmembers =>
    refine rel_map (rel_mapM (fun names => ?_) fields) fun _ _ hfields => List.rel_flatten hfields
    have hheld := holding_alike hmembers names
    generalize holding names members = held, holding names members' = held' at hheld
    -- A field is absent, or has one member, or has a second under another of its names.
    rcases hheld with _ | ⟨hm, _ | _⟩
    · exact .some .nil
    · exact .some (.cons ⟨rfl, hm.2⟩ .nil)
    · exact .none
  | array hitems =>
    simp only [hitems.length_eq]
    split
    · exact .some (zip_alike hitems _)
    · exact .none
  | _ => exact .none

/-- What is built from the fields of a record, the same from alike fields. -/
theorem readAlike_record {fields : List (List String)}
    {build : List (String × Written) → Option α} {build' : List (String × Json) → Option α}
    (hbuild : ∀ fields fields', FieldsAlike fields fields' → build fields = build' fields') :
    ReadAlike (fun d => readRecord fields d >>= build) (fun d => readRecord fields d >>= build') := by
  intro written value h
  have hfields := readRecord_alike h fields
  simp only
  generalize readRecord fields written = found, readRecord fields value = found' at hfields ⊢
  cases hfields with
  | none => rfl
  | some hfields => exact hbuild _ _ hfields

section

variable {read : Written → Option α} {read' : Json → Option α}
  {fields : List (String × Written)} {fields' : List (String × Json)}

theorem FieldsAlike.lookup (h : FieldsAlike fields fields') (name : String) :
    Option.Rel Becomes (fields.lookup name) (fields'.lookup name) := by
  induction h with
  | nil => exact .none
  | @cons m m' _ _ hm _ ih =>
    obtain ⟨key, w⟩ := m
    obtain ⟨key', v⟩ := m'
    obtain ⟨rfl, hvalue⟩ := hm
    simp only [List.lookup_cons]
    cases name == key with
    | true => exact .some hvalue
    | false => exact ih

theorem FieldsAlike.required (h : FieldsAlike fields fields') (hread : ReadAlike read read')
    (name : String) : required read name fields = required read' name fields' := by
  have hlookup := h.lookup name
  rw [Json.required, Json.required]
  generalize fields.lookup name = found, fields'.lookup name = found' at hlookup ⊢
  cases hlookup with
  | none => rfl
  | some hfound => exact hread hfound

theorem FieldsAlike.defaulted (h : FieldsAlike fields fields') (hread : ReadAlike read read')
    (default : α) (name : String) :
    defaulted default read name fields = defaulted default read' name fields' := by
  have hlookup := h.lookup name
  rw [Json.defaulted, Json.defaulted]
  generalize fields.lookup name = found, fields'.lookup name = found' at hlookup ⊢
  cases hlookup with
  | none => rfl
  | some hfound => exact hread hfound

theorem FieldsAlike.optional (h : FieldsAlike fields fields') (hread : ReadAlike read read')
    (name : String) : optional read name fields = optional read' name fields' :=
  h.defaulted hread.nullable none name

end

end WormholeMap.Json

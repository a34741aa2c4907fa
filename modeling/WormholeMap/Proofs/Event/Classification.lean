import WormholeMap.Event.Decode
import WormholeMap.Proofs.Text.Blank

/-!
What a frame is decoded to, by its name and its text. The order of the checks decides which fault is
told: a sync error has none, text that is not JSON counts before a name that is unknown, and such a
name before a payload of the wrong shape (`decode_classified`).
-/

namespace WormholeMap

open Json

namespace Event

/-- The families of events, and the names in each. -/
def families : List (String × List String) :=
  [("node_created", ["node_created"]),
    ("node_updated", ["node_updated"]),
    ("node_deleted", ["node_deleted"]),
    ("link_created", ["link_created"]),
    ("link_updated", ["link_updated"]),
    ("link_deleted", ["link_deleted"]),
    ("map_updated", ["map_updated"]),
    ("map_deleted", ["map_deleted"]),
    ("signature_*",
      ["signature_created", "signature_updated", "signature_deleted", "signatures_bulk_updated"]),
    ("note_*", ["note_created", "note_updated", "note_deleted"]),
    ("character_*", ["character_arrived", "character_left", "character_updated"]),
    ("access_*_granted",
      ["access_character_granted", "access_corporation_granted", "access_alliance_granted"]),
    ("access_*_revoked",
      ["access_character_revoked", "access_corporation_revoked", "access_alliance_revoked"]),
    ("sync_error", ["sync_error"])]

/-- The families whose events have no payload. -/
def plainFamilies : List String :=
  ["map_deleted", "signature_*", "note_*", "access_*_granted", "access_*_revoked"]

/-- The name is in a family. -/
def InFamily (family name : String) : Prop := ∃ f ∈ families, f.1 = family ∧ name ∈ f.2

instance (family name : String) : Decidable (InFamily family name) :=
  inferInstanceAs (Decidable (∃ f ∈ families, f.1 = family ∧ name ∈ f.2))

/-- The name is that of an event. -/
def Known (name : String) : Prop := ∃ f ∈ families, name ∈ f.2

instance (name : String) : Decidable (Known name) :=
  inferInstanceAs (Decidable (∃ f ∈ families, name ∈ f.2))

/-- The name is that of an event without a payload. -/
def Plain (name : String) : Prop := ∃ family ∈ plainFamilies, InFamily family name

instance (name : String) : Decidable (Plain name) :=
  inferInstanceAs (Decidable (∃ family ∈ plainFamilies, InFamily family name))

/-- The name that an event goes by. Notes are never changed in bulk. -/
def name? : Event → Option String
  | nodeCreated _ => some "node_created"
  | nodeUpdated _ => some "node_updated"
  | nodeDeleted _ => some "node_deleted"
  | linkCreated _ => some "link_created"
  | linkUpdated _ => some "link_updated"
  | linkDeleted _ => some "link_deleted"
  | mapUpdated _ => some "map_updated"
  | mapDeleted => some "map_deleted"
  | signaturesChanged .created => some "signature_created"
  | signaturesChanged .updated => some "signature_updated"
  | signaturesChanged .deleted => some "signature_deleted"
  | signaturesChanged .bulk => some "signatures_bulk_updated"
  | notesChanged .created => some "note_created"
  | notesChanged .updated => some "note_updated"
  | notesChanged .deleted => some "note_deleted"
  | notesChanged .bulk => none
  | presence _ .arrived _ => some "character_arrived"
  | presence _ .left _ => some "character_left"
  | presence _ .updated _ => some "character_updated"
  | accessGranted .character => some "access_character_granted"
  | accessGranted .corporation => some "access_corporation_granted"
  | accessGranted .alliance => some "access_alliance_granted"
  | accessRevoked .character => some "access_character_revoked"
  | accessRevoked .corporation => some "access_corporation_revoked"
  | accessRevoked .alliance => some "access_alliance_revoked"
  | syncError _ => some "sync_error"

/-- The text was that of an object with a text under `event_type`. -/
def Typed (parsed : Option Json) (type : String) : Prop :=
  ∃ members, parsed = some (.object members) ∧
    get? "event_type" (.object members) = some (.string type)

/-- The name that counts for a frame: that of the frame, unless it has none and its text gives
one. -/
inductive Resolves (frame : String) (parsed : Option Json) : String → Prop
  | typed {type : String} (hframe : frame = "" ∨ frame = unnamedFrame) (h : Typed parsed type) :
    Resolves frame parsed type
  | own (h : ¬((frame = "" ∨ frame = unnamedFrame) ∧ ∃ type, Typed parsed type)) :
    Resolves frame parsed frame

/-- What a frame is decoded to, by the name that counts for it and what its text was parsed to. -/
structure Classified (name : String) (parsed : Option Json)
    (result : Except DecodeError Event) : Prop where
  syncError : name = "sync_error" →
    ∃ message, result = .ok (.syncError message) ∧ ∀ text, message = some text → Trimmed text
  notJson : name ≠ "sync_error" → parsed = none → result = .error (.malformed name .notJson)
  unknown : name ≠ "sync_error" → parsed ≠ none → ¬Known name →
    result = .error (.unknownEvent name)
  known : name ≠ "sync_error" → parsed ≠ none → Known name →
    (∃ e, result = .ok e ∧ e.name? = some name) ∨
      result = .error (.malformed name .wrongShape) ∧ ¬Plain name
  family_iff : ∀ e, result = .ok e → ∀ family, InFamily family name ↔ family = e.kind
  endsStream_iff : ∀ e, result = .ok e → (e.endsStream = true ↔ name = "sync_error")

variable {e : Event} {name : String} {form : EventForm}

/-! ### Names -/

/-- No name is in two families. -/
theorem family_unique :
    ∀ f ∈ families, ∀ f' ∈ families, ∀ name ∈ f.2, name ∈ f'.2 → f.1 = f'.1 := by
  decide +kernel

theorem inFamily_of_name? (h : e.name? = some name) : InFamily e.kind name := by
  cases e with
  | signaturesChanged change => cases change <;> cases h <;> simp only [kind] <;> decide
  | notesChanged change => cases change <;> cases h <;> simp only [kind] <;> decide
  | presence node change o => cases change <;> cases h <;> simp only [kind] <;> decide
  | accessGranted subject => cases subject <;> cases h <;> simp only [kind] <;> decide
  | accessRevoked subject => cases subject <;> cases h <;> simp only [kind] <;> decide
  | _ =>
    cases h
    simp only [kind]
    decide

theorem inFamily_iff_of_name? (h : e.name? = some name) (family : String) :
    InFamily family name ↔ family = e.kind := by
  constructor
  · rintro ⟨f, hf, rfl, hname⟩
    obtain ⟨f', hf', hkind, hname'⟩ := inFamily_of_name? h
    rw [← hkind]
    exact family_unique f hf f' hf' name hname hname'
  · rintro rfl
    exact inFamily_of_name? h

/-- Only sync errors are in the family of a sync error. -/
theorem endsStream_iff_of_name? (h : e.name? = some name) :
    e.endsStream = true ↔ name = "sync_error" := by
  have hkind : e.endsStream = true ↔ e.kind = "sync_error" := by
    cases e <;> simp [endsStream, kind]
  have hsync : InFamily "sync_error" name ↔ name = "sync_error" := by
    simp [InFamily, families]
  rw [hkind, ← hsync, inFamily_iff_of_name? h, eq_comm]

theorem typed_iff {parsed : Option Json} {type : String} :
    Typed parsed type ↔ ((parsed >>= get? "event_type") >>= text?) = some type := by
  constructor
  · rintro ⟨members, rfl, htype⟩
    exact congrArg (· >>= text?) htype
  · intro h
    obtain ⟨value, hvalue, htext⟩ := Option.bind_eq_some_iff.mp h
    obtain ⟨whole, rfl, hget⟩ := Option.bind_eq_some_iff.mp hvalue
    cases value with
    | string s =>
      cases htext
      cases whole with
      | object members => exact ⟨members, rfl, hget⟩
      | _ => cases hget
    | _ => cases htext

theorem resolveName_of_typed {frame type : String} {parsed : Option Json}
    (hframe : frame = "" ∨ frame = unnamedFrame) (h : Typed parsed type) :
    resolveName frame parsed = type := by
  rw [resolveName, if_pos hframe, typed_iff.mp h, Option.getD_some]

theorem resolveName_of_not_typed {frame : String} {parsed : Option Json}
    (h : ¬((frame = "" ∨ frame = unnamedFrame) ∧ ∃ type, Typed parsed type)) :
    resolveName frame parsed = frame := by
  rw [resolveName]
  split
  · rename_i hframe
    cases htype : (parsed >>= get? "event_type") >>= text? with
    | none => rfl
    | some type => exact absurd ⟨hframe, type, typed_iff.mpr htype⟩ h
  · rfl

/-- There is one name that counts for a frame. -/
theorem resolves_iff (frame : String) (parsed : Option Json) (name : String) :
    Resolves frame parsed name ↔ name = resolveName frame parsed := by
  constructor
  · rintro (⟨hframe, htyped⟩ | hown)
    · exact (resolveName_of_typed hframe htyped).symm
    · exact (resolveName_of_not_typed hown).symm
  · rintro rfl
    by_cases h : (frame = "" ∨ frame = unnamedFrame) ∧ ∃ type, Typed parsed type
    · obtain ⟨hframe, type, htyped⟩ := h
      rw [resolveName_of_typed hframe htyped]
      exact .typed hframe htyped
    · rw [resolveName_of_not_typed h]
      exact .own h

/-! ### Forms -/

/-- The name is that of the events of a form, which is read from a payload unless the name says
otherwise. -/
inductive Fits (name : String) : EventForm → Prop
  | plain {event : Event} (h : event.name? = some name) : Fits name (.plain event)
  | payload {read : Json → Option Event} (hplain : ¬Plain name)
    (h : ∀ p e, read p = some e → e.name? = some name) : Fits name (.payload read)

theorem Fits.map {read : Json → Option α} {make : α → Event}
    (h : ∀ a, (make a).name? = some name) (hplain : ¬Plain name) :
    Fits name (.payload fun p => (read p).map make) := by
  refine .payload hplain fun p e he => ?_
  obtain ⟨a, -, rfl⟩ := Option.map_eq_some_iff.mp he
  exact h a

theorem Fits.presence {change : PresenceChange}
    (h : ∀ node o, (Event.presence node change o).name? = some name) (hplain : ¬Plain name) :
    Fits name (.payload (readPresence change)) := by
  refine .payload hplain fun p e he => ?_
  cases p with
  | object members =>
    simp only [readPresence, Option.bind_eq_bind, Option.bind_eq_some_iff] at he
    obtain ⟨fields, -, node, -, nested, -, o, -, he⟩ := he
    cases he
    exact h node o
  | _ => cases he

theorem fits_of_form (h : form? name = some form) : Fits name form := by
  unfold form? at h
  split at h <;> cases h
  all_goals first
    | exact .plain rfl
    | exact .map (fun _ => rfl) (by decide)
    | exact .presence (fun _ _ => rfl) (by decide)

/-- Every known name has a form, but for that of sync errors. -/
theorem form_of_known (h : Known name) (hname : name ≠ "sync_error") :
    ∃ form, form? name = some form := by
  have hforms : ∀ f ∈ families, ∀ name ∈ f.2, name ≠ "sync_error" → (form? name).isSome := by
    decide
  obtain ⟨f, hf, hmem⟩ := h
  exact Option.isSome_iff_exists.mp (hforms f hf name hmem hname)

theorem known_of_form (h : form? name = some form) : Known name := by
  unfold form? at h
  split at h <;> cases h <;> decide

theorem form_of_not_known (h : ¬Known name) : form? name = none := by
  cases hform : form? name with
  | none => rfl
  | some form => exact absurd (known_of_form hform) h

/-! ### Results -/

section

variable {parsed : Option Json}

theorem trimmed_of_syncErrorMessage {value : Json} {text : String}
    (h : syncErrorMessage value = some text) : Trimmed text := by
  obtain ⟨whole, -, htext⟩ := Option.bind_eq_some_iff.mp h
  obtain ⟨hblank, rfl⟩ := nonBlank?_eq_some_iff.mp htext
  exact trimmed_trimBlank hblank

theorem Classified.of_syncError :
    Classified "sync_error" parsed (.ok (.syncError (parsed >>= syncErrorMessage))) where
  syncError _ := by
    refine ⟨_, rfl, fun text htext => ?_⟩
    obtain ⟨value, -, hmessage⟩ := Option.bind_eq_some_iff.mp htext
    exact trimmed_of_syncErrorMessage hmessage
  notJson h := absurd rfl h
  unknown h := absurd rfl h
  known h := absurd rfl h
  family_iff e he := by
    cases he
    exact inFamily_iff_of_name? rfl
  endsStream_iff e he := by
    cases he
    exact endsStream_iff_of_name? rfl

theorem Classified.of_ok {value : Json} (hname : name ≠ "sync_error") (h : e.name? = some name) :
    Classified name (some value) (.ok e) where
  syncError hsync := absurd hsync hname
  notJson _ hparsed := by cases hparsed
  unknown _ _ hunknown := by
    obtain ⟨f, hf, -, hmem⟩ := inFamily_of_name? h
    exact absurd ⟨f, hf, hmem⟩ hunknown
  known _ _ _ := .inl ⟨e, rfl, h⟩
  family_iff e' he' := by
    cases he'
    exact inFamily_iff_of_name? h
  endsStream_iff e' he' := by
    cases he'
    exact endsStream_iff_of_name? h

theorem Classified.of_notJson (hname : name ≠ "sync_error") :
    Classified name none (.error (.malformed name .notJson)) where
  syncError hsync := absurd hsync hname
  notJson _ _ := rfl
  unknown _ hparsed := absurd rfl hparsed
  known _ hparsed := absurd rfl hparsed
  family_iff e he := by cases he
  endsStream_iff e he := by cases he

theorem Classified.of_unknown {value : Json} (hname : name ≠ "sync_error")
    (hunknown : ¬Known name) : Classified name (some value) (.error (.unknownEvent name)) where
  syncError hsync := absurd hsync hname
  notJson _ hparsed := by cases hparsed
  unknown _ _ _ := rfl
  known _ _ hknown := absurd hknown hunknown
  family_iff e he := by cases he
  endsStream_iff e he := by cases he

theorem Classified.of_wrongShape {value : Json} (hname : name ≠ "sync_error")
    (hknown : Known name) (hplain : ¬Plain name) :
    Classified name (some value) (.error (.malformed name .wrongShape)) where
  syncError hsync := absurd hsync hname
  notJson _ hparsed := by cases hparsed
  unknown _ _ hunknown := absurd hknown hunknown
  known _ _ _ := .inr ⟨rfl, hplain⟩
  family_iff e he := by cases he
  endsStream_iff e he := by cases he

theorem classified_decodeParsed (frame : String) (parsed : Option Json) :
    Classified (resolveName frame parsed) parsed (decodeParsed frame parsed) := by
  unfold decodeParsed
  generalize resolveName frame parsed = name
  by_cases hname : name = "sync_error"
  · subst hname
    exact .of_syncError
  rw [if_neg hname]
  cases parsed with
  | none => exact .of_notJson hname
  | some value =>
    by_cases hknown : Known name
    · obtain ⟨form, hform⟩ := form_of_known hknown hname
      simp only [hform]
      cases fits_of_form hform with
      | plain h => exact .of_ok hname h
      | @payload read hplain h =>
        simp only
        cases hread : read (unwrapEnvelope value) with
        | some event => exact .of_ok hname (h _ event hread)
        | none => exact .of_wrongShape hname hknown hplain
    · simp only [form_of_not_known hknown]
      exact .of_unknown hname hknown

end

/-- How any frame of any text is decoded. One name counts for it. Under that of a sync error it is
one, with a message that says something or with none; otherwise it is a fault of the name that the
text is not JSON, or else that the name is unknown. What is left is decoded to an event with the
name, or is a fault of the name as the payload has another shape, which cannot be where there is no
payload. The kind of an event is the one family that its name is in, and it ends the stream exactly
if it is a sync error. -/
theorem decode_classified (frame text : String) :
    ∃ name, (∀ other, Resolves frame (parseText? text) other ↔ other = name) ∧
      Classified name (parseText? text) (decode frame text) :=
  ⟨resolveName frame (parseText? text), resolves_iff frame (parseText? text),
    classified_decodeParsed frame (parseText? text)⟩

/-- The fault of the text hides that of the name. -/
example : decode "route_calculated" "\x7b" = .error (.malformed "route_calculated" .notJson) := rfl

end Event

end WormholeMap

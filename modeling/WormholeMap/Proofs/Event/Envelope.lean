import WormholeMap.Event.Decode
import WormholeMap.Proofs.Json.Members

/-!
The ways to send a payload as an event. It goes in an envelope, in a frame that is named for the
event or goes without a name, or bare in a frame that is named for the event. However it is sent, it
is decoded to what it means under the name of the event (`decode_of_sends`).
-/

namespace WormholeMap.Event

open Json

/-- The text is that of an envelope: of an object with a type under `event_type` and a payload under
`data`, whatever else it has. -/
def Encloses (text : String) (type payload : Json) : Prop :=
  ∃ value, parseText? text = some value ∧ get? "event_type" value = some type ∧
    get? "data" value = some payload

/-- A frame, of a name and a text, sends a payload as an event. -/
inductive Sends (event : String) (payload : Json) : String → String → Prop
  /-- In an envelope that names the event, in a frame that does so too or goes without a name. -/
  | enveloped {frame text : String} (hframe : frame ∈ [event, unnamedFrame, ""])
      (h : Encloses text (.string event) payload) : Sends event payload frame text
  /-- In an envelope of any type, in a frame that names the event. -/
  | named {text : String} {type : Json} (hempty : event ≠ "") (hunnamed : event ≠ unnamedFrame)
      (h : Encloses text type payload) : Sends event payload event text
  /-- Bare, in a frame that names the event. -/
  | bare {text : String} (hempty : event ≠ "") (hunnamed : event ≠ unnamedFrame)
      (hdata : get? "data" payload = none) (h : parseText? text = some payload) :
      Sends event payload event text

/-- The message that a payload has as a sync error. -/
def messageOf (payload : Json) : Option String :=
  ((get? "message" payload >>= text?) <|> (get? "detail" payload >>= text?)) >>= nonBlank?

/-- What a payload means under the name of an event. -/
def meaning (event : String) (payload : Json) : Except DecodeError Event :=
  if event = "sync_error" then .ok (.syncError (messageOf payload))
  else
    match form? event with
    | none => .error (.unknownEvent event)
    | some (.plain e) => .ok e
    | some (.payload read) => (read payload).elim (.error (.malformed event .wrongShape)) .ok

variable {event frame text : String} {payload value : Json}

/-- A frame is decoded by the name that is found for it. The message of a sync error is looked for
where the payload of any other event is. -/
theorem decode_eq_meaning (hparse : parseText? text = some value)
    (hname : resolveName frame (some value) = event)
    (hinner : (get? "data" value).getD value = payload)
    (hunwrap : unwrapEnvelope value = payload) : decode frame text = meaning event payload := by
  rw [decode, hparse, decodeParsed, hname, meaning]
  split
  · rw [Option.bind_eq_bind, Option.bind_some, syncErrorMessage, hinner, messageOf]
  · cases form? event with
    | none => rfl
    | some form =>
      cases form with
      | plain e => rfl
      | payload read =>
        simp only [hunwrap]
        cases read payload <;> rfl

theorem meaning_eq {read : Json → Option Event} (hform : form? event = some (.payload read))
    (payload : Json) :
    meaning event payload = (read payload).elim (.error (.malformed event .wrongShape)) .ok := by
  have hname : event ≠ "sync_error" := by
    rintro rfl
    cases hform
  rw [meaning, if_neg hname, hform]

theorem meaning_of_read {read : Json → Option Event} {meant : Event}
    (hform : form? event = some (.payload read)) (hread : read payload = some meant) :
    meaning event payload = .ok meant := by
  rw [meaning_eq hform, hread, Option.elim_some]

theorem resolveName_named (hempty : event ≠ "") (hunnamed : event ≠ unnamedFrame)
    (parsed : Option Json) : resolveName event parsed = event := by
  rw [resolveName, if_neg (not_or.mpr ⟨hempty, hunnamed⟩)]

/-- An envelope names the event of a frame that does not name another. -/
theorem resolveName_enveloped (hframe : frame ∈ [event, unnamedFrame, ""])
    (htype : get? "event_type" value = some (.string event)) :
    resolveName frame (some value) = event := by
  rw [resolveName]
  split
  · show ((get? "event_type" value).bind text?).getD frame = event
    rw [htype]
    rfl
  · rename_i hname
    rw [not_or] at hname
    simp only [List.mem_cons, List.not_mem_nil, or_false] at hframe
    rcases hframe with hframe | hframe | hframe
    · exact hframe
    · exact absurd hframe hname.2
    · exact absurd hframe hname.1

theorem Encloses.decode_eq {type : Json} (h : Encloses text type payload)
    (hname : ∀ value, get? "event_type" value = some type →
      resolveName frame (some value) = event) : decode frame text = meaning event payload := by
  obtain ⟨value, hparse, htype, hdata⟩ := h
  refine decode_eq_meaning hparse (hname value htype) ?_ ?_
  · rw [hdata, Option.getD_some]
  · rw [unwrapEnvelope, htype, hdata]

/-- However a payload is sent as an event, it is decoded to what it means as that event. -/
theorem decode_of_sends (h : Sends event payload frame text) :
    decode frame text = meaning event payload := by
  cases h with
  | enveloped hframe h => exact h.decode_eq fun value htype => resolveName_enveloped hframe htype
  | named hempty hunnamed h => exact h.decode_eq fun value _ => resolveName_named hempty hunnamed _
  | bare hempty hunnamed hdata h =>
    refine decode_eq_meaning h (resolveName_named hempty hunnamed _) ?_ ?_
    · rw [hdata, Option.getD_none]
    · rw [unwrapEnvelope, hdata]
      cases get? "event_type" payload <;> rfl

/-- What is sent repeats no key. -/
theorem Sends.unrepeated (h : Sends event payload frame text) : Unrepeated payload := by
  have hencloses {type : Json} (h : Encloses text type payload) : Unrepeated payload := by
    obtain ⟨value, hparse, -, hdata⟩ := h
    exact (unrepeated_parseText? hparse).get? hdata
  cases h with
  | enveloped _ h => exact hencloses h
  | named _ _ h => exact hencloses h
  | bare _ _ _ h => exact unrepeated_parseText? h

/-- All frames that send a payload as an event are decoded alike, to the same event or the same
error: the naming of the event, the envelope and all that is in it beside the payload are of no
consequence. -/
theorem decode_sent_alike {frame' text' : String} (h : Sends event payload frame text)
    (h' : Sends event payload frame' text') :
    decode frame text = decode frame' text' ∧ decode frame text = meaning event payload :=
  ⟨(decode_of_sends h).trans (decode_of_sends h').symm, decode_of_sends h⟩

/-- A payload that is itself named as an event, though not as the one it is sent as. -/
def namedPayload : Json :=
  .object [("event_type", .string "map_deleted"),
    ("node_id", .string "00000000000000000000000000000001")]

def namedText : String :=
  "\x7b\"event_type\":\"map_deleted\",\"node_id\":\"00000000000000000000000000000001\"\x7d"

def envelopeText : String :=
  "\x7b\"event_id\":\"7\",\"data\":" ++ namedText ++ ",\"event_type\":\"node_deleted\"\x7d"

/-- In an envelope without a name to the frame, or bare in a frame with the name, it is the deletion
of a node. -/
theorem decode_sent_alike_named :
    Sends "node_deleted" namedPayload unnamedFrame envelopeText ∧
      Sends "node_deleted" namedPayload "node_deleted" namedText ∧
      decode unnamedFrame envelopeText = decode "node_deleted" namedText ∧
      decode unnamedFrame envelopeText = meaning "node_deleted" namedPayload ∧
      (meaning "node_deleted" namedPayload).isOk = true := by
  have henvelope : Sends "node_deleted" namedPayload unnamedFrame envelopeText :=
    .enveloped (by decide) ⟨_, rfl, rfl, rfl⟩
  have hbare : Sends "node_deleted" namedPayload "node_deleted" namedText :=
    .bare (by decide) (by decide) rfl rfl
  obtain ⟨halike, hmeaning⟩ := decode_sent_alike henvelope hbare
  exact ⟨henvelope, hbare, halike, hmeaning, by decide +kernel⟩

end WormholeMap.Event

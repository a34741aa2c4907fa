import WormholeMap.Proofs.Event.Envelope
import WormholeMap.Proofs.Map.RoundTrip

/-!
Entities that are sent as they are written. A node, a link or the metadata of a map, written as a
value and sent as the payload of an event, is decoded to the event with that entity.
-/

namespace WormholeMap.Event

open Json

/-- The written entity that an event of a name has for payload, and the event that carries it. -/
inductive Carries : String → Json → Event → Prop
  | nodeCreated {n : Node} (h : n.Finite) : Carries "node_created" n.toJson (.nodeCreated n)
  | nodeUpdated {n : Node} (h : n.Finite) : Carries "node_updated" n.toJson (.nodeUpdated n)
  | linkCreated {l : Link} (h : l.Finite) : Carries "link_created" l.toJson (.linkCreated l)
  | linkUpdated {l : Link} (h : l.Finite) : Carries "link_updated" l.toJson (.linkUpdated l)
  | mapUpdated {m : MapInfo} (h : m.Finite) : Carries "map_updated" m.toJson (.mapUpdated m)

variable {event frame text : String} {payload : Json} {carried : Event}

theorem Carries.meaning_eq (h : Carries event payload carried) :
    meaning event payload = .ok carried := by
  cases h with
  | nodeCreated h => exact meaning_of_read rfl (congrArg (Option.map _) (Node.read_toJson h))
  | nodeUpdated h => exact meaning_of_read rfl (congrArg (Option.map _) (Node.read_toJson h))
  | linkCreated h => exact meaning_of_read rfl (congrArg (Option.map _) (Link.read_toJson h))
  | linkUpdated h => exact meaning_of_read rfl (congrArg (Option.map _) (Link.read_toJson h))
  | @mapUpdated m h =>
    have hchanges : get? "changes" m.toJson = none := rfl
    have hread : readMapChanges m.toJson = some m := by
      rw [readMapChanges, hchanges, MapInfo.read_toJson h]
      rfl
    exact meaning_of_read rfl (congrArg (Option.map _) hread)

/-- No entity is written with a member that would make an envelope of it. -/
theorem Carries.sends_bare (h : Carries event payload carried)
    (hparse : parseText? text = some payload) : Sends event payload event text := by
  cases h <;> exact .bare (by decide) (by decide) rfl hparse

/-- Every entity is read back from what it is written as, and a node, a link or the metadata of a
map that is sent as it is written, be it bare or in an envelope, is carried by the event it is
decoded to. -/
theorem entities_survive :
    (∀ d : MapDetail, d.Finite → MapDetail.read d.toJson = some d) ∧
    (∀ s : Signature, Signature.read s.toJson = some s) ∧
    (∀ n : Note, Note.read n.toJson = some n) ∧
    (∀ p : Position, p.Finite → Position.read p.toJson = some p) ∧
    (∀ v : Viewport, v.Finite → Viewport.read v.toJson = some v) ∧
    ∀ {event : String} {payload : Json} {carried : Event}, Carries event payload carried →
      (∀ text, parseText? text = some payload → Sends event payload event text) ∧
      ∀ frame text, Sends event payload frame text → decode frame text = .ok carried :=
  ⟨fun _ => MapDetail.read_toJson, Signature.read_toJson, Note.read_toJson,
    fun _ => Position.read_toJson, fun _ => Viewport.read_toJson,
    fun h => ⟨fun _ => h.sends_bare, fun _ _ hsends => (decode_of_sends hsends).trans h.meaning_eq⟩⟩

/-- A connection from a node to itself. -/
def loopLink (uuid : Uuid) : Link :=
  { Link.between ⟨uuid⟩ ⟨uuid⟩ ⟨uuid⟩ with
    wormholeCode := some "C247"
    massTotal := some (-2000000000)
    lifetime := .eol }

/-- A map with that connection and a node with an effect and an occupant. -/
def surveyed (uuid : Uuid) : MapDetail where
  map := ⟨⟨uuid⟩, uuid, "home chain", none, true, false, .smoothstep, .rl, true, some 62.5, none,
    true, some "2026-01-27", none⟩
  nodes := [{ Node.bare ⟨uuid⟩ 31000005 ⟨120.5, -40.25⟩ with
    securityStatus := some (-0.5)
    effectBuffs := some (Amounts.empty.insert "shield" 30.0)
    effectDebuffs := some Amounts.empty
    staticCodes := ["N944"]
    occupants := [⟨"Kali Ormand", some "Hole Control", none, none, some true, none⟩] }]
  links := [{ loopLink uuid with wormholeLifetime := some 16.5 }]

def loopLinkText : String :=
  "\x7b\"id\":\"00000000-0000-0000-0000-000000000000\"," ++
    "\"source_node_id\":\"00000000-0000-0000-0000-000000000000\"," ++
    "\"target_node_id\":\"00000000-0000-0000-0000-000000000000\"," ++
    "\"wormhole_code\":\"C247\",\"wormhole_mass_total\":-2000000000," ++
    "\"wormhole_mass_jump_max\":null,\"wormhole_mass_regen\":null,\"wormhole_lifetime\":null," ++
    "\"lifetime_status\":\"eol\",\"date_lifetime_updated\":null," ++
    "\"mass_usage\":\"stable\",\"date_mass_updated\":null\x7d"

set_option maxRecDepth 20000 in
/-- The map is read back, and the connection is that of the event it is sent as. -/
theorem entities_survive_surveyed :
    let uuid : Uuid := ⟨List.replicate 32 0, rfl⟩
    (surveyed uuid).Finite ∧
      MapDetail.read (surveyed uuid).toJson = some (surveyed uuid) ∧
      Carries "link_created" (loopLink uuid).toJson (.linkCreated (loopLink uuid)) ∧
      decode "link_created" loopLinkText = .ok (.linkCreated (loopLink uuid)) := by
  intro uuid
  have hsome {α : Type} {p : α → Prop} {a : α} (h : p a) : ∀ b ∈ some a, p b :=
    fun _ hb => Option.mem_some_iff.mp hb ▸ h
  have hx : (120.5 : Float).isFinite = true := rfl
  have hy : (-40.25 : Float).isFinite = true := rfl
  have hbuffs : (Amounts.empty.insert "shield" 30.0).Finite := List.forall_mem_singleton.mpr rfl
  have hfinite : (surveyed uuid).Finite := {
    map := ⟨hsome rfl, nofun⟩
    nodes := List.forall_mem_singleton.mpr ⟨hx, hy, hsome rfl, hsome hbuffs, hsome nofun⟩
    links := List.forall_mem_singleton.mpr (hsome rfl) }
  have hcarries : Carries "link_created" (loopLink uuid).toJson (.linkCreated (loopLink uuid)) :=
    .linkCreated nofun
  obtain ⟨hdetail, -, -, -, -, hcarried⟩ := entities_survive
  obtain ⟨hbare, hdecoded⟩ := hcarried hcarries
  exact ⟨hfinite, hdetail _ hfinite, hcarries, hdecoded _ _ (hbare loopLinkText rfl)⟩

end WormholeMap.Event

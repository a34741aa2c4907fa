import WormholeMap.Proofs.Graph.Entity

/-!
What events make of the metadata of a map and of its display settings. Only new metadata changes
them: the display settings stay those of the metadata (`displayed_apply`), and the access of the
viewer stays what it is (`access_apply`).
-/

namespace WormholeMap

namespace Graph

/-- The metadata and the display settings. -/
def settings (g : Graph) : Option MapInfo × Display := (g.map, g.display)

/-- The display settings are those of the metadata, or the standard ones where there is none. -/
def Displayed (g : Graph) : Prop := g.display = (g.map.map MapInfo.display).getD .standard

section

variable {g : Graph} {n : Node} {l : Link} {id : NodeId}

theorem settings_insertNode : ((g.insertNode n).getD g).settings = g.settings := by
  unfold insertNode
  split <;> rfl

theorem settings_replaceNode : ((g.replaceNode n).getD g).settings = g.settings := by
  unfold replaceNode
  split
  · split <;> rfl
  · rfl

theorem settings_removeNode : ((g.removeNode id).getD g).settings = g.settings := by
  unfold removeNode
  split <;> rfl

theorem settings_insertLink : ((g.insertLink l).getD g).settings = g.settings := by
  unfold insertLink
  split <;> rfl

theorem settings_replaceLink : ((g.replaceLink l).getD g).settings = g.settings := by
  unfold replaceLink
  split
  · split <;> rfl
  · rfl

theorem settings_removeLink {id : LinkId} :
    ((g.removeLink id).getD g).settings = g.settings := by
  unfold removeLink
  split <;> rfl

theorem settings_setPresence {change : PresenceChange} {o : Occupant} :
    ((g.setPresence id change o).getD g).settings = g.settings := by
  unfold setPresence
  split
  · rfl
  · cases changeOccupants change o _ <;> rfl

/-- New metadata is taken up with its display settings, unless it equals the old. -/
theorem settings_setMap {m : MapInfo} : ((g.setMap m).getD g).settings =
    if g.map == some m then g.settings else (some m, m.display) := by
  unfold setMap
  split <;> rfl

end

end Graph

namespace Workspace

variable {w : Workspace}

theorem settings_write (f : Graph → Option Graph) :
    (w.write f).store.value.settings = ((f w.store.value).getD w.store.value).settings := by
  rw [value_write]
  rfl

/-- An event leaves metadata and display settings alone, or brings new ones that fit. -/
theorem settings_apply (w : Workspace) (e : Event) :
    (w.apply e).1.store.value.settings = w.store.value.settings ∨
      ∃ m, e = .mapUpdated m ∧ (w.apply e).1.store.value.settings =
        (some (w.keepAccess m), (w.keepAccess m).display) := by
  cases e with
  | nodeCreated n => exact .inl (by simp only [apply, settings_write, Graph.settings_insertNode])
  | nodeUpdated n => exact .inl (by simp only [apply, settings_write, Graph.settings_replaceNode])
  | nodeDeleted d => exact .inl (by simp only [apply, settings_write, Graph.settings_removeNode])
  | linkCreated l => exact .inl (by simp only [apply, settings_write, Graph.settings_insertLink])
  | linkUpdated l => exact .inl (by simp only [apply, settings_write, Graph.settings_replaceLink])
  | linkDeleted d => exact .inl (by simp only [apply, settings_write, Graph.settings_removeLink])
  | presence p change o =>
    exact .inl (by simp only [apply, settings_write, Graph.settings_setPresence])
  | mapUpdated m =>
    simp only [apply, settings_write, Graph.settings_setMap]
    split
    · exact .inl rfl
    · exact .inr ⟨m, rfl, rfl⟩
  | _ => exact .inl rfl

/-- Events keep the display settings those of the metadata. -/
theorem displayed_apply (h : w.store.value.Displayed) (e : Event) :
    (w.apply e).1.store.value.Displayed := by
  rcases settings_apply w e with hkept | ⟨m, -, hnew⟩
  · obtain ⟨hmap, hdisplay⟩ := Prod.mk.inj hkept
    rw [Graph.Displayed, hmap, hdisplay]
    exact h
  · obtain ⟨hmap, hdisplay⟩ := Prod.mk.inj hnew
    rw [Graph.Displayed, hmap, hdisplay]
    rfl

/-- Events keep the metadata of an open map there, with the access that the viewer has. -/
theorem access_apply {current : MapInfo} (h : w.store.value.map = some current) (e : Event) :
    ∃ m, (w.apply e).1.store.value.map = some m ∧ m.editAccess = current.editAccess := by
  rcases settings_apply w e with hkept | ⟨m, -, hnew⟩
  · exact ⟨current, (Prod.mk.inj hkept).1.trans h, rfl⟩
  · refine ⟨w.keepAccess m, (Prod.mk.inj hnew).1, ?_⟩
    rw [keepAccess, h]

end Workspace

end WormholeMap

import WormholeMap.Map.Info
import Mathlib

/-!
Equality of nodes, links and maps. Their numbers are equal when they are the same up to the sign of
zero and neither is NaN. So equality is symmetric and transitive, and what has no NaN equals itself.
-/

namespace WormholeMap

/-! ### Numbers -/

open Float.Model (UnpackedFloat)

/-- A number up to the sign of zero. -/
def unsignedZero : UnpackedFloat → UnpackedFloat
  | .zero _ => .zero .positive
  | x => x

theorem compare_eq_some_eq (x y : UnpackedFloat) :
    x.compare y = some .eq ↔ x ≠ .notANumber ∧ unsignedZero x = unsignedZero y := by
  cases x with
  | notANumber => cases y <;> simp [UnpackedFloat.compare]
  | infinity s =>
    cases s <;> cases y with
    | infinity t => cases t <;> simp [UnpackedFloat.compare, unsignedZero]; decide
    | _ => simp [UnpackedFloat.compare, unsignedZero]
  | zero s =>
    cases y with
    | infinity t => cases t <;> simp [UnpackedFloat.compare, unsignedZero]
    | finite t => cases t <;> simp [UnpackedFloat.compare, unsignedZero]
    | _ => simp [UnpackedFloat.compare, unsignedZero]
  | finite s =>
    cases s <;> cases y with
    | infinity t => cases t <;> simp [UnpackedFloat.compare, unsignedZero]
    | finite t => cases t <;> simp [UnpackedFloat.compare, unsignedZero, and_comm]
    | _ => simp [UnpackedFloat.compare, unsignedZero]

theorem float_beq_iff (x y : Float) :
    (x == y) = true ↔ x.isNaN = false ∧
      unsignedZero x.toModel.unpack = unsignedZero y.toModel.unpack := by
  have hbeq : (x == y) = (x.toModel.unpack.compare y.toModel.unpack == some .eq) := rfl
  have hnan : x.isNaN = x.toModel.unpack.isNaN := rfl
  rw [hbeq, hnan, beq_iff_eq, compare_eq_some_eq]
  cases x.toModel.unpack <;> simp [UnpackedFloat.isNaN]

theorem float_beq_self {x : Float} (h : x.isNaN = false) : (x == x) = true :=
  (float_beq_iff x x).mpr ⟨h, rfl⟩

/-- A number that equals another is not NaN, and nor is the other. -/
theorem isNaN_right {x y : Float} (h : (x == y) = true) : y.isNaN = false := by
  obtain ⟨hx, hxy⟩ := (float_beq_iff x y).mp h
  have hnan (z : Float) : z.isNaN = z.toModel.unpack.isNaN := rfl
  rw [hnan] at hx ⊢
  revert hx hxy
  cases x.toModel.unpack <;> cases y.toModel.unpack <;> simp [UnpackedFloat.isNaN, unsignedZero]

instance partialEquivBEq_float : PartialEquivBEq Float where
  symm := by
    intro x y h
    exact (float_beq_iff y x).mpr ⟨isNaN_right h, ((float_beq_iff x y).mp h).2.symm⟩
  trans := by
    intro x y z hxy hyz
    obtain ⟨hx, hxy⟩ := (float_beq_iff x y).mp hxy
    obtain ⟨_, hyz⟩ := (float_beq_iff y z).mp hyz
    exact (float_beq_iff x z).mpr ⟨hx, hxy.trans hyz⟩

/-! ### Options, pairs and tables of numbers -/

instance partialEquivBEq_option [BEq α] [PartialEquivBEq α] : PartialEquivBEq (Option α) where
  symm := by
    intro a b h
    cases a <;> cases b <;> simp_all
    exact BEq.symm h
  trans := by
    intro a b c hab hbc
    cases a <;> cases b <;> cases c <;> simp_all
    exact BEq.trans hab hbc

instance partialEquivBEq_prod [BEq α] [BEq β] [PartialEquivBEq α] [PartialEquivBEq β] :
    PartialEquivBEq (α × β) where
  symm := by
    intro a b h
    obtain ⟨h1, h2⟩ := Bool.and_eq_true_iff.mp h
    exact Bool.and_eq_true_iff.mpr ⟨BEq.symm h1, BEq.symm h2⟩
  trans := by
    intro a b c hab hbc
    obtain ⟨h1, h2⟩ := Bool.and_eq_true_iff.mp hab
    obtain ⟨h3, h4⟩ := Bool.and_eq_true_iff.mp hbc
    exact Bool.and_eq_true_iff.mpr ⟨BEq.trans h1 h3, BEq.trans h2 h4⟩

instance partialEquivBEq_list [BEq α] [PartialEquivBEq α] : PartialEquivBEq (List α) where
  symm := by
    intro a b h
    induction a generalizing b with
    | nil => cases b <;> simp_all
    | cons x a ih =>
      cases b with
      | nil => cases h
      | cons y b =>
        obtain ⟨hxy, hab⟩ := Bool.and_eq_true_iff.mp h
        exact Bool.and_eq_true_iff.mpr ⟨BEq.symm hxy, ih hab⟩
  trans := by
    intro a b c hab hbc
    induction a generalizing b c with
    | nil => cases b <;> cases c <;> simp_all
    | cons x a ih =>
      cases b with
      | nil => cases hab
      | cons y b =>
        cases c with
        | nil => cases hbc
        | cons z c =>
          obtain ⟨hxy, hab⟩ := Bool.and_eq_true_iff.mp hab
          obtain ⟨hyz, hbc⟩ := Bool.and_eq_true_iff.mp hbc
          exact Bool.and_eq_true_iff.mpr ⟨BEq.trans hxy hyz, ih hab hbc⟩

instance partialEquivBEq_amounts : PartialEquivBEq Amounts where
  symm := fun h => BEq.symm (α := List (String × Float)) h
  trans := fun hab hbc => BEq.trans (α := List (String × Float)) hab hbc

/-! ### Nodes, links and maps -/

theorem Node.beq_iff (a b : Node) :
    (a == b) = true ↔ a.id = b.id ∧ a.systemId = b.systemId ∧ (a.x == b.x) = true ∧
      (a.y == b.y) = true ∧ a.locked = b.locked ∧ a.systemName = b.systemName ∧
      a.constellationId = b.constellationId ∧ a.constellationName = b.constellationName ∧
      a.regionId = b.regionId ∧ a.regionName = b.regionName ∧
      (a.securityStatus == b.securityStatus) = true ∧ a.securityClass = b.securityClass ∧
      a.className = b.className ∧ a.effectName = b.effectName ∧
      (a.effectBuffs == b.effectBuffs) = true ∧ (a.effectDebuffs == b.effectDebuffs) = true ∧
      a.staticCodes = b.staticCodes ∧ a.staticTargetClasses = b.staticTargetClasses ∧
      a.occupants = b.occupants := by
  obtain ⟨⟩ := a
  obtain ⟨⟩ := b
  show instBEqNode.beq _ _ = true ↔ _
  simp only [instBEqNode.beq, Bool.and_eq_true, beq_iff_eq]

theorem Link.beq_iff (a b : Link) :
    (a == b) = true ↔ a.id = b.id ∧ a.source = b.source ∧ a.target = b.target ∧
      a.wormholeCode = b.wormholeCode ∧ a.massTotal = b.massTotal ∧
      a.massJumpMax = b.massJumpMax ∧ a.massRegen = b.massRegen ∧
      (a.wormholeLifetime == b.wormholeLifetime) = true ∧ a.lifetime = b.lifetime ∧
      a.lifetimeUpdated = b.lifetimeUpdated ∧ a.mass = b.mass ∧ a.massUpdated = b.massUpdated := by
  obtain ⟨⟩ := a
  obtain ⟨⟩ := b
  show instBEqLink.beq _ _ = true ↔ _
  simp only [instBEqLink.beq, Bool.and_eq_true, beq_iff_eq]

theorem MapInfo.beq_iff (a b : MapInfo) :
    (a == b) = true ↔ a.id = b.id ∧ a.ownerId = b.ownerId ∧ a.name = b.name ∧
      a.description = b.description ∧ a.isPublic = b.isPublic ∧
      a.publicReadOnly = b.publicReadOnly ∧ a.lineStyle = b.lineStyle ∧
      a.direction = b.direction ∧ a.autoLayout = b.autoLayout ∧ (a.nodeSep == b.nodeSep) = true ∧
      (a.rankSep == b.rankSep) = true ∧ a.editAccess = b.editAccess ∧ a.created = b.created ∧
      a.updated = b.updated := by
  obtain ⟨⟩ := a
  obtain ⟨⟩ := b
  show instBEqMapInfo.beq _ _ = true ↔ _
  simp only [instBEqMapInfo.beq, Bool.and_eq_true, beq_iff_eq]

instance partialEquivBEq_node : PartialEquivBEq Node where
  symm := by
    intro a b h
    rw [Node.beq_iff] at h ⊢
    grind [BEq.symm]
  trans := by
    intro a b c hab hbc
    rw [Node.beq_iff] at hab hbc ⊢
    grind [BEq.trans]

instance partialEquivBEq_link : PartialEquivBEq Link where
  symm := by
    intro a b h
    rw [Link.beq_iff] at h ⊢
    grind [BEq.symm]
  trans := by
    intro a b c hab hbc
    rw [Link.beq_iff] at hab hbc ⊢
    grind [BEq.trans]

/-! ### What equals itself -/

def Amounts.NaNFree (t : Amounts) : Prop := ∀ e ∈ t.entries, e.2.isNaN = false

/-- No number of the node is NaN. -/
structure Node.NaNFree (n : Node) : Prop where
  x : n.x.isNaN = false
  y : n.y.isNaN = false
  securityStatus : ∀ s ∈ n.securityStatus, s.isNaN = false
  effectBuffs : ∀ t ∈ n.effectBuffs, t.NaNFree
  effectDebuffs : ∀ t ∈ n.effectDebuffs, t.NaNFree

def Link.NaNFree (l : Link) : Prop := ∀ x ∈ l.wormholeLifetime, x.isNaN = false

/-- No number of the metadata is NaN. -/
structure MapInfo.NaNFree (m : MapInfo) : Prop where
  nodeSep : ∀ x ∈ m.nodeSep, x.isNaN = false
  rankSep : ∀ x ∈ m.rankSep, x.isNaN = false

theorem option_beq_self [BEq α] {a : Option α} (h : ∀ x ∈ a, (x == x) = true) :
    (a == a) = true := by
  cases a with
  | none => rfl
  | some x => exact h x rfl

theorem option_float_beq_self {x : Option Float} (h : ∀ y ∈ x, y.isNaN = false) :
    (x == x) = true :=
  option_beq_self fun y hy => float_beq_self (h y hy)

theorem Amounts.beq_self {t : Amounts} (h : t.NaNFree) : (t == t) = true := by
  have hentries (l : List (String × Float)) (h : ∀ e ∈ l, e.2.isNaN = false) :
      (l == l) = true := by
    induction l with
    | nil => rfl
    | cons e l ih =>
      have he : (e == e) = true :=
        Bool.and_eq_true_iff.mpr ⟨beq_self_eq_true e.1, float_beq_self (h e (by simp))⟩
      exact Bool.and_eq_true_iff.mpr ⟨he, ih fun x hx => h x (by simp [hx])⟩
  exact hentries t.entries h

theorem Node.beq_self {n : Node} (h : n.NaNFree) : (n == n) = true := by
  have hx := float_beq_self h.x
  have hy := float_beq_self h.y
  have hsecurity := option_float_beq_self h.securityStatus
  have hbuffs := option_beq_self fun t ht => Amounts.beq_self (h.effectBuffs t ht)
  have hdebuffs := option_beq_self fun t ht => Amounts.beq_self (h.effectDebuffs t ht)
  simp [Node.beq_iff, hx, hy, hsecurity, hbuffs, hdebuffs]

theorem Link.beq_self {l : Link} (h : l.NaNFree) : (l == l) = true := by
  simp [Link.beq_iff, option_float_beq_self h]

theorem MapInfo.beq_self {m : MapInfo} (h : m.NaNFree) : (m == m) = true := by
  simp [MapInfo.beq_iff, option_float_beq_self h.nodeSep, option_float_beq_self h.rankSep]

/-! ### Sameness -/

/-- Entries are the same if they are equal, or are one entry. Only an entry with NaN is not equal to
itself. -/
def Same [BEq α] (a b : α) : Prop := a = b ∨ (a == b) = true

section

variable [BEq α] {a b c : α}

theorem Same.refl (a : α) : Same a a := .inl rfl

theorem Same.symm [PartialEquivBEq α] (h : Same a b) : Same b a := by
  rcases h with rfl | h
  · exact .inl rfl
  · exact .inr (BEq.symm h)

theorem Same.trans [PartialEquivBEq α] (hab : Same a b) (hbc : Same b c) : Same a c := by
  rcases hab with rfl | hab
  · exact hbc
  · rcases hbc with rfl | hbc
    · exact .inr hab
    · exact .inr (BEq.trans hab hbc)

theorem same_some : Same (some a) (some b) ↔ Same a b := by
  simp [Same]

theorem same_none_left {x : Option α} : Same none x ↔ x = none := by
  cases x <;> simp [Same]

theorem same_none_right {x : Option α} : Same x none ↔ x = none := by
  cases x <;> simp [Same]

variable {x y : Option α}

theorem Same.option (h : Same x y) :
    x = none ∧ y = none ∨ ∃ a b, x = some a ∧ y = some b ∧ Same a b := by
  cases x with
  | none => exact .inl ⟨rfl, same_none_left.mp h⟩
  | some a =>
    cases y with
    | none => cases same_none_right.mp h
    | some b => exact .inr ⟨a, b, rfl, rfl, same_some.mp h⟩

theorem Same.or (h : Same x y) (z : Option α) : Same (x.or z) (y.or z) := by
  obtain ⟨rfl, rfl⟩ | ⟨a, b, rfl, rfl, hab⟩ := h.option
  · exact .refl _
  · exact h

theorem Same.map [BEq β] {f : α → β} (hf : ∀ a b, Same a b → Same (f a) (f b)) (h : Same x y) :
    Same (x.map f) (y.map f) := by
  obtain ⟨rfl, rfl⟩ | ⟨a, b, rfl, rfl, hab⟩ := h.option
  · exact .refl none
  · exact same_some.mpr (hf a b hab)

theorem Same.filter {p : α → Bool} (hp : ∀ a b, Same a b → p a = p b) (h : Same x y) :
    Same (x.filter p) (y.filter p) := by
  obtain ⟨rfl, rfl⟩ | ⟨a, b, rfl, rfl, hab⟩ := h.option
  · exact .refl none
  · simp only [Option.filter, hp a b hab]
    split
    · exact h
    · exact .refl none

end

end WormholeMap

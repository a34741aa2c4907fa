import WormholeMap.Json.Document

/-!
Tables of named amounts, in the order of their names.
-/

namespace WormholeMap

open Json

/-- Named amounts, each name once and in order. -/
structure Amounts where
  entries : List (String × Float)
  sorted : entries.Pairwise fun a b => a.1 < b.1

namespace Amounts

instance : BEq Amounts := ⟨fun a b => a.entries == b.entries⟩

def empty : Amounts := ⟨[], .nil⟩

def insertEntry (name : String) (amount : Float) : List (String × Float) → List (String × Float)
  | [] => [(name, amount)]
  | (k, v) :: rest =>
    if name < k then (name, amount) :: (k, v) :: rest
    else if name = k then (name, amount) :: rest
    else (k, v) :: insertEntry name amount rest

theorem mem_insertEntry {name : String} {amount : Float} {l : List (String × Float)}
    {e : String × Float} (h : e ∈ insertEntry name amount l) : e = (name, amount) ∨ e ∈ l := by
  induction l with
  | nil => simpa [insertEntry] using h
  | cons p rest ih =>
    simp only [insertEntry] at h
    split at h
    · simpa using h
    · split at h
      · simp only [List.mem_cons] at h ⊢
        exact h.imp_right .inr
      · simp only [List.mem_cons] at h ⊢
        rcases h with h | h
        · exact .inr (.inl h)
        · exact (ih h).imp_right .inr

theorem sorted_insertEntry {name : String} {amount : Float} {l : List (String × Float)}
    (h : l.Pairwise fun a b => a.1 < b.1) :
    (insertEntry name amount l).Pairwise fun a b => a.1 < b.1 := by
  induction l with
  | nil => simp [insertEntry]
  | cons p rest ih =>
    rw [List.pairwise_cons] at h
    simp only [insertEntry]
    split
    · rename_i hlt
      refine List.pairwise_cons.mpr ⟨fun b hb => ?_, List.pairwise_cons.mpr h⟩
      rcases List.mem_cons.mp hb with rfl | hb
      · exact hlt
      · exact String.lt_trans hlt (h.1 b hb)
    · split
      · rename_i heq
        exact List.pairwise_cons.mpr ⟨fun b hb => heq ▸ h.1 b hb, h.2⟩
      · rename_i hlt hne
        refine List.pairwise_cons.mpr ⟨fun b hb => ?_, ih h.2⟩
        rcases mem_insertEntry hb with rfl | hb
        · exact (String.le_total p.1 name).elim
            (fun hle => Decidable.byContradiction fun hnot =>
              hne (String.le_antisymm (String.not_lt.mp hnot) hle))
            fun hle => absurd (String.le_antisymm hle (String.not_lt.mp hlt)) hne
        · exact h.1 b hb

/-- The table with the amount under a name set. -/
def insert (name : String) (amount : Float) (t : Amounts) : Amounts :=
  ⟨insertEntry name amount t.entries, sorted_insertEntry t.sorted⟩

/-- Reads an object of numbers; of a repeated name the last amount counts. -/
def read {δ : Type} [Document δ] (d : δ) : Option Amounts :=
  match Document.shape d with
  | .object members =>
    (members.mapM fun (m : String × δ) => (readFloat m.2).map (m.1, ·)).map fun ms =>
      ms.foldl (fun t m => t.insert m.1 m.2) empty
  | _ => none

def toJson (t : Amounts) : Json := .object (t.entries.map fun e => (e.1, float e.2))

end Amounts

end WormholeMap

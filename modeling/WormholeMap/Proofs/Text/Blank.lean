import WormholeMap.Text.Blank
import Mathlib.Data.List.DropRight

/-!
Texts of nothing but white space, and what trimming leaves of the others.
-/

namespace WormholeMap

/-- The text is white space throughout. -/
def Blank (text : String) : Prop := ∀ c ∈ text.toList, isBlank c = true

/-- Text that neither starts nor ends with white space, and is not empty. -/
structure Trimmed (text : String) : Prop where
  nonempty : text ≠ ""
  head : ∀ c, text.toList.head? = some c → isBlank c = false
  last : ∀ c, text.toList.getLast? = some c → isBlank c = false

variable {text : String}

theorem trimBlank_eq_empty_iff : trimBlank text = "" ↔ Blank text := by
  have hdropped : trimBlank text = "" ↔ ∀ c ∈ text.toList.dropWhile isBlank, isBlank c = true := by
    rw [trimBlank, String.ofList_eq_empty_iff, List.reverse_eq_nil_iff, List.dropWhile_eq_nil_iff]
    simp only [List.mem_reverse]
  rw [hdropped, ← List.dropWhile_eq_nil_iff, List.dropWhile_idempotent, List.dropWhile_eq_nil_iff]
  rfl

theorem nonBlank?_eq_some_iff {trimmed : String} :
    nonBlank? text = some trimmed ↔ ¬Blank text ∧ trimmed = trimBlank text := by
  rw [nonBlank?, ← trimBlank_eq_empty_iff]
  split
  · rename_i hempty
    simp [hempty]
  · rename_i hne
    simp [hne, eq_comm]

theorem nonBlank?_eq_none_iff : nonBlank? text = none ↔ Blank text := by
  rw [nonBlank?, ← trimBlank_eq_empty_iff]
  split <;> simp [*]

theorem head?_dropWhile_not_blank {chars : List Char} {c : Char}
    (h : (chars.dropWhile isBlank).head? = some c) : isBlank c = false := by
  have hhead := List.head?_dropWhile_not isBlank chars
  rw [h] at hhead
  simpa using hhead

/-- Trimming leaves white space at neither end: not at the last, as it is dropped there, and not at
the first, as the text that is left begins like the one before. -/
theorem trimmed_trimBlank (h : ¬Blank text) : Trimmed (trimBlank text) where
  nonempty hempty := h (trimBlank_eq_empty_iff.mp hempty)
  head c hc := by
    have hprefix : (text.toList.dropWhile isBlank).rdropWhile isBlank <+:
        text.toList.dropWhile isBlank := List.rdropWhile_prefix isBlank _
    obtain ⟨rest, hrest⟩ := hprefix
    rw [trimBlank, String.toList_ofList] at hc
    refine @head?_dropWhile_not_blank text.toList c ?_
    rw [← hrest, List.head?_append, List.rdropWhile, hc, Option.some_or]
  last c hc := by
    rw [trimBlank, String.toList_ofList, List.getLast?_reverse] at hc
    exact head?_dropWhile_not_blank hc

theorem Trimmed.not_blank (h : Trimmed text) : ¬Blank text := by
  intro hblank
  cases hchars : text.toList with
  | nil => exact h.nonempty (String.toList_eq_nil_iff.mp hchars)
  | cons c chars =>
    have hc : isBlank c = true := hblank c (by rw [hchars]; exact List.mem_cons_self)
    rw [h.head c (by rw [hchars, List.head?_cons])] at hc
    cases hc

/-- What is left of a text that is not blank is not blank either. -/
theorem not_blank_trimBlank (h : ¬Blank text) : ¬Blank (trimBlank text) :=
  (trimmed_trimBlank h).not_blank

end WormholeMap

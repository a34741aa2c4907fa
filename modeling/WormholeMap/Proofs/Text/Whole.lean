import WormholeMap.Text.Whole
import Mathlib.Data.Nat.Digits.Defs

/-!
Which texts are read as unsigned numbers of 64 bits, and as which (`parse64?_eq`).
-/

namespace WormholeMap.Whole

/-- The number that digits write in base ten. -/
def decimal (digits : List Char) : Nat :=
  Nat.ofDigits 10 (digits.reverse.map fun c => c.toNat - '0'.toNat)

/-- The unsigned number of 64 bits that a text writes: with one digit at least, and at most one plus
sign before them. -/
def unsigned64? (text : String) : Option Nat :=
  let digits := if text.toList.head? = some '+' then text.toList.tail else text.toList
  if digits ≠ [] ∧ digits.all Char.isDigit ∧ decimal digits < 2 ^ 64 then some (decimal digits)
  else none

theorem mapM_digit? (chars : List Char) : chars.mapM digit? =
    if chars.all Char.isDigit then some (chars.map fun c => c.toNat - '0'.toNat) else none := by
  induction chars with
  | nil => rfl
  | cons c chars ih =>
    rw [List.mapM_cons, ih, List.all_cons, digit?]
    cases hc : c.isDigit with
    | false => rfl
    | true =>
      cases chars.all Char.isDigit with
      | false => rfl
      | true => rfl

/-- Digits are taken up from the most significant one. -/
theorem ofDigits_eq_decimal (chars : List Char) :
    ofDigits (chars.map fun c => c.toNat - '0'.toNat) = decimal chars := by
  have hstep : (fun n d : Nat => d + 10 * n) = fun n d => n * 10 + d := by
    funext n d
    omega
  rw [ofDigits, decimal, List.map_reverse, Nat.ofDigits_eq_foldr, List.foldr_reverse]
  simp only [Nat.cast_id, hstep]

theorem ofChars?_eq (chars : List Char) : ofChars? chars =
    if chars ≠ [] ∧ chars.all Char.isDigit then some (decimal chars) else none := by
  rw [ofChars?, mapM_digit?, ← ofDigits_eq_decimal]
  by_cases hnil : chars = []
  · simp [hnil]
  · by_cases hall : chars.all Char.isDigit
    · rw [if_neg hnil, if_pos hall, if_pos ⟨hnil, hall⟩, Option.map_some]
    · rw [if_neg hnil, if_neg hall, if_neg fun h => hall h.2, Option.map_none]

theorem ofChars?_bind_eq (chars : List Char) :
    ((ofChars? chars).bind fun n => if n < 2 ^ 64 then some n else none) =
      if chars ≠ [] ∧ chars.all Char.isDigit ∧ decimal chars < 2 ^ 64 then some (decimal chars)
      else none := by
  rw [ofChars?_eq]
  by_cases hall : chars ≠ [] ∧ chars.all Char.isDigit
  · rw [if_pos hall, Option.bind_some]
    by_cases hlt : decimal chars < 2 ^ 64
    · rw [if_pos hlt, if_pos ⟨hall.1, hall.2, hlt⟩]
    · rw [if_neg hlt, if_neg fun h => hlt h.2.2]
  · rw [if_neg hall, if_neg fun h => hall ⟨h.1, h.2.1⟩, Option.bind_none]

/-- A text is read as the number that it writes. -/
theorem parse64?_eq (text : String) : parse64? text = unsigned64? text := by
  unfold parse64? unsigned64?
  rw [← ofChars?_bind_eq]
  generalize text.toList = chars
  split
  · rename_i rest
    rw [if_pos List.head?_cons, List.tail_cons]
    dsimp only
    cases ofChars? rest with
    | none => rfl
    | some n => rfl
  · rename_i hplus
    have hhead : chars.head? ≠ some '+' := by
      intro hhead
      obtain ⟨rest, hchars⟩ := List.head?_eq_some_iff.mp hhead
      exact hplus rest hchars
    rw [if_neg hhead]
    dsimp only
    cases ofChars? chars with
    | none => rfl
    | some n => rfl

end WormholeMap.Whole

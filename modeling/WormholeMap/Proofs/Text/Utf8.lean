import WormholeMap.Text.Utf8
import Mathlib.Tactic.IntervalCases

/-!
The bytes of a text are read as that text (`decodeChars_encode`), and a byte below 0x80 among them
stands for a character of its own (`mem_of_mem_encode`). The reading goes by the first byte of a
character: what it announces is what the encoder of characters writes after it.
-/

namespace WormholeMap.Utf8

/-! ### The bytes of a character -/

/-- The bytes of a text are those of its characters. -/
theorem encode_eq (text : String) : encode text = text.toList.flatMap String.utf8EncodeChar := by
  rw [encode, String.toUTF8_eq_toByteArray, ← String.utf8Encode_toList, List.utf8Encode,
    List.toList_data_toByteArray]

theorem toNat_ofNat_of_lt {n : Nat} (h : n < 256) : (UInt8.ofNat n).toNat = n := by
  simpa using Nat.mod_eq_of_lt h

theorem lead?_two {n : Nat} (h : 2 ≤ n) (h' : n < 32) :
    lead? (UInt8.ofNat (n + 0xC0)) = some ⟨1, 0x80, 0xBF, n⟩ := by
  interval_cases n <;> rfl

theorem lead?_three {n : Nat} (h : n < 16) :
    lead? (UInt8.ofNat (n + 0xE0)) =
      some ⟨2, if n = 0 then 0xA0 else 0x80, if n = 13 then 0x9F else 0xBF, n⟩ := by
  interval_cases n <;> rfl

theorem lead?_four {n : Nat} (h : n < 5) :
    lead? (UInt8.ofNat (n + 0xF0)) =
      some ⟨3, if n = 0 then 0x90 else 0x80, if n = 4 then 0x8F else 0xBF, n⟩ := by
  interval_cases n <;> rfl

/-- A byte that follows in its range contributes six bits. -/
theorem follow_succ {n : Nat} {low high : UInt8} {bits m : Nat} (rest : List UInt8) (h : m < 64)
    (hlow : low.toNat ≤ m + 0x80) (hhigh : m + 0x80 ≤ high.toNat) :
    follow (n + 1) low high bits (UInt8.ofNat (m + 0x80) :: rest) =
      follow n 0x80 0xBF (bits * 64 + m) rest := by
  have hb := toNat_ofNat_of_lt (n := m + 0x80) (by omega)
  have hrange : low ≤ UInt8.ofNat (m + 0x80) ∧ UInt8.ofNat (m + 0x80) ≤ high := by
    simp only [UInt8.le_iff_toNat_le, hb]
    exact ⟨hlow, hhigh⟩
  rw [follow, if_pos hrange, hb, show (m + 0x80) % 64 = m by omega]

theorem follow_tail {n bits m : Nat} (rest : List UInt8) (h : m < 64) :
    follow (n + 1) 0x80 0xBF bits (UInt8.ofNat (m + 0x80) :: rest) =
      follow n 0x80 0xBF (bits * 64 + m) rest :=
  follow_succ rest h (Nat.le_add_left _ _) (show m + 128 ≤ 191 by omega)

/-- A first byte above 0x7F and what it announces. -/
theorem next_lead {n : Nat} {l : Lead} (h : 0x80 ≤ n) (hn : n < 256)
    (hl : lead? (UInt8.ofNat n) = some l) (rest : List UInt8) :
    next (UInt8.ofNat n) rest = follow l.follow l.low l.high l.bits rest := by
  have hlt : ¬UInt8.ofNat n < 0x80 := by
    rw [UInt8.lt_iff_toNat_lt, toNat_ofNat_of_lt hn]
    exact Nat.not_lt.mpr h
  rw [next, if_neg hlt, hl]

theorem next_one {v : Nat} (h : v ≤ 0x7F) (rest : List UInt8) :
    next (UInt8.ofNat v) rest = (some (Char.ofNat v), rest) := by
  have hb := toNat_ofNat_of_lt (n := v) (by omega)
  have hlt : UInt8.ofNat v < 0x80 := by
    rw [UInt8.lt_iff_toNat_lt, hb]
    exact Nat.lt_succ_of_le h
  rw [next, if_pos hlt, hb]

theorem next_two {v : Nat} (h : 0x7F < v) (h' : v ≤ 0x7FF) (rest : List UInt8) :
    next (UInt8.ofNat (v / 64 % 0x20 + 0xC0)) (UInt8.ofNat (v % 0x40 + 0x80) :: rest) =
      (some (Char.ofNat v), rest) := by
  rw [next_lead (by omega) (by omega) (lead?_two (by omega) (by omega)),
    follow_tail _ (by omega), follow, show v / 64 % 0x20 * 64 + v % 0x40 = v by omega]

/-- A character of three bytes. None is a surrogate. -/
theorem next_three {v : Nat} (h : 0x7FF < v) (h' : v ≤ 0xFFFF) (hv : v < 0xD800 ∨ 0xDFFF < v)
    (rest : List UInt8) :
    next (UInt8.ofNat (v / 4096 % 0x10 + 0xE0))
        (UInt8.ofNat (v / 64 % 0x40 + 0x80) :: UInt8.ofNat (v % 0x40 + 0x80) :: rest) =
      (some (Char.ofNat v), rest) := by
  rw [next_lead (by omega) (by omega) (lead?_three (by omega)), follow_succ _ (by omega),
    follow_tail _ (by omega), follow,
    show (v / 4096 % 0x10 * 64 + v / 64 % 0x40) * 64 + v % 0x40 = v by omega]
  · dsimp only
    split
    · show 160 ≤ _
      omega
    · exact Nat.le_add_left _ _
  · dsimp only
    split
    · show _ ≤ 159
      omega
    · show _ ≤ 191
      omega

theorem next_four {v : Nat} (h : 0xFFFF < v) (h' : v < 0x110000) (rest : List UInt8) :
    next (UInt8.ofNat (v / 262144 % 0x08 + 0xF0))
        (UInt8.ofNat (v / 4096 % 0x40 + 0x80) :: UInt8.ofNat (v / 64 % 0x40 + 0x80) ::
          UInt8.ofNat (v % 0x40 + 0x80) :: rest) =
      (some (Char.ofNat v), rest) := by
  rw [next_lead (by omega) (by omega) (lead?_four (by omega)), follow_succ _ (by omega),
    follow_tail _ (by omega), follow_tail _ (by omega), follow,
    show ((v / 262144 % 0x08 * 64 + v / 4096 % 0x40) * 64 + v / 64 % 0x40) * 64 + v % 0x40 = v by
      omega]
  · dsimp only
    split
    · show 144 ≤ _
      omega
    · exact Nat.le_add_left _ _
  · dsimp only
    split
    · show _ ≤ 143
      omega
    · show _ ≤ 191
      omega

theorem decodeChars_of_next {b : UInt8} {bytes rest : List UInt8} {c : Char}
    (h : next b bytes = (some c, rest)) : decodeChars (b :: bytes) = c :: decodeChars rest := by
  rw [decodeChars, h, Option.getD_some]

/-- The bytes of a character are read as that character. -/
theorem decodeChars_encodeChar_append (c : Char) (rest : List UInt8) :
    decodeChars (String.utf8EncodeChar c ++ rest) = c :: decodeChars rest := by
  have hvalid : c.val.toNat < 0xD800 ∨ 0xDFFF < c.val.toNat ∧ c.val.toNat < 0x110000 := c.valid
  have hc : Char.ofNat c.val.toNat = c := Char.ofNat_toNat c
  unfold String.utf8EncodeChar
  generalize c.val.toNat = v at hvalid hc
  subst hc
  simp only
  split
  · exact decodeChars_of_next (next_one (by omega) rest)
  split
  · exact decodeChars_of_next (next_two (by omega) (by omega) rest)
  split
  · exact decodeChars_of_next (next_three (by omega) (by omega) (by omega) rest)
  · exact decodeChars_of_next (next_four (by omega) (by omega) rest)

/-- The text of the bytes of a text is that text. -/
theorem decodeChars_encode (text : String) : decodeChars (encode text) = text.toList := by
  rw [encode_eq]
  induction text.toList with
  | nil => rw [List.flatMap_nil, decodeChars]
  | cons c chars ih => rw [List.flatMap_cons, decodeChars_encodeChar_append, ih]

/-! ### Bytes of a text -/

theorem encode_ne_nil {text : String} (h : text.toList ≠ []) : encode text ≠ [] := by
  intro hnil
  have hchars := decodeChars_encode text
  rw [hnil, decodeChars] at hchars
  exact h hchars.symm

theorem not_lt_of_mem_map (ns : List Nat) (h : ∀ n ∈ ns, 0x80 ≤ n ∧ n < 256) {b : UInt8}
    (hb : b ∈ ns.map UInt8.ofNat) : ¬b.toNat < 0x80 := by
  obtain ⟨n, hn, rfl⟩ := List.mem_map.mp hb
  rw [toNat_ofNat_of_lt (h n hn).2]
  exact Nat.not_lt.mpr (h n hn).1

/-- A byte below 0x80 of a character is the character. -/
theorem toNat_of_mem_encodeChar {b : UInt8} {c : Char} (hb : b ∈ String.utf8EncodeChar c)
    (hlt : b.toNat < 0x80) : c.val.toNat = b.toNat := by
  unfold String.utf8EncodeChar at hb
  generalize c.val.toNat = v at hb
  simp only at hb
  split at hb
  · obtain rfl := List.mem_singleton.mp hb
    rw [toNat_ofNat_of_lt (by omega)]
  split at hb
  · refine absurd hlt (not_lt_of_mem_map [_, _] ?_ hb)
    simp only [List.mem_cons, List.not_mem_nil, or_false, forall_eq_or_imp, forall_eq]
    omega
  split at hb
  · refine absurd hlt (not_lt_of_mem_map [_, _, _] ?_ hb)
    simp only [List.mem_cons, List.not_mem_nil, or_false, forall_eq_or_imp, forall_eq]
    omega
  · refine absurd hlt (not_lt_of_mem_map [_, _, _, _] ?_ hb)
    simp only [List.mem_cons, List.not_mem_nil, or_false, forall_eq_or_imp, forall_eq]
    omega

/-- A byte below 0x80 of a text is one of its characters. -/
theorem mem_of_mem_encode {b : UInt8} {text : String} (hb : b ∈ encode text)
    (hlt : b.toNat < 0x80) : Char.ofNat b.toNat ∈ text.toList := by
  rw [encode_eq] at hb
  obtain ⟨c, hc, hmem⟩ := List.mem_flatMap.mp hb
  rw [← toNat_of_mem_encodeChar hmem hlt, show Char.ofNat c.val.toNat = c from Char.ofNat_toNat c]
  exact hc

end WormholeMap.Utf8

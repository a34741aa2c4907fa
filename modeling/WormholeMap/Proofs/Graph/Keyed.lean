import WormholeMap.Graph
import Mathlib.Data.List.Induction
import Mathlib.Data.List.Nodup

/-!
Lists of entries with keys. Putting an entry in the place of the one with its key, and removing
entries, seen through the lookup of a key; and the keys stay different throughout. Entries that are
collected have their keys in the order of first occurrence, each with the last entry.
-/

namespace WormholeMap.Graph

section

variable {κ : Type} {key : α → κ} {a b : α} {l entries : List α}

theorem mem_upsert [BEq κ] (h : b ∈ upsert key a l) : b = a ∨ b ∈ l := by
  induction l with
  | nil => simpa [upsert] using h
  | cons c l ih =>
    rw [upsert] at h
    split at h
    · rcases List.mem_cons.mp h with h | h
      · exact .inl h
      · exact .inr (List.mem_cons_of_mem c h)
    · rcases List.mem_cons.mp h with h | h
      · exact .inr (List.mem_cons.mpr (.inl h))
      · exact (ih h).imp_right (List.mem_cons_of_mem c)

theorem nodup_filter (h : (l.map key).Nodup) (p : α → Bool) : ((l.filter p).map key).Nodup :=
  h.sublist (List.filter_sublist.map key)

/-- With each key once, an entry is one of some entries when its key is one of their keys. -/
theorem key_mem_map_iff_of_nodup (h : (l.map key).Nodup) (hentries : entries ⊆ l) (ha : a ∈ l) :
    key a ∈ entries.map key ↔ a ∈ entries := by
  constructor
  · intro hkey
    obtain ⟨b, hb, hba⟩ := List.mem_map.mp hkey
    rw [← List.inj_on_of_nodup_map h (hentries hb) ha hba]
    exact hb
  · exact List.mem_map_of_mem

theorem mem_collect [BEq κ] (h : b ∈ collect key entries) : b ∈ entries := by
  have hfold (done : List α) (hmem : b ∈ entries.foldl (fun done a => upsert key a done) done) :
      b ∈ done ∨ b ∈ entries := by
    clear h
    induction entries generalizing done with
    | nil => exact .inl hmem
    | cons a entries ih =>
      rcases ih _ hmem with h | h
      · rcases mem_upsert h with rfl | h
        · exact .inr (by simp)
        · exact .inl h
      · exact .inr (by simp [h])
  simpa using hfold [] h

theorem collect_concat [BEq κ] :
    collect key (entries ++ [a]) = upsert key a (collect key entries) := by
  rw [collect, List.foldl_append]
  rfl

variable [BEq κ] {k : κ}

theorem find?_concat :
    (l ++ [a]).find? (key · == k) =
      (l.find? (key · == k)).or (if key a == k then some a else none) := by
  rw [List.find?_append, List.find?_singleton]

variable [LawfulBEq κ]

theorem find?_upsert :
    (upsert key a l).find? (key · == k) = if key a == k then some a else l.find? (key · == k) := by
  induction l with
  | nil => rw [upsert, List.find?_singleton, List.find?_nil]
  | cons b l ih =>
    rw [upsert]
    by_cases hb : key b == key a
    · have hkey : key b = key a := eq_of_beq hb
      rw [if_pos hb, List.find?_cons, List.find?_cons, hkey]
      split <;> simp_all
    · rw [if_neg hb, List.find?_cons, List.find?_cons, ih]
      by_cases hk : key b == k
      · have hne : ¬key a == k := by
          intro hak
          exact hb (by rw [eq_of_beq hk, eq_of_beq hak]; exact beq_self_eq_true k)
        simp [hk, hne]
      · simp [hk]

/-- The keys after an upsert: one more if the key is new. -/
theorem map_key_upsert [DecidableEq κ] : (upsert key a l).map key =
    if key a ∈ l.map key then l.map key else l.map key ++ [key a] := by
  induction l with
  | nil => simp [upsert]
  | cons b l ih =>
    rw [upsert]
    by_cases hb : key b == key a
    · have hkey : key b = key a := eq_of_beq hb
      simp [hkey]
    · have hne : ¬key a = key b := fun h => hb (by simp [h])
      rw [if_neg hb, List.map_cons, ih]
      simp only [List.map_cons, List.mem_cons, hne, false_or]
      split <;> rfl

theorem nodup_upsert (h : (l.map key).Nodup) : ((upsert key a l).map key).Nodup := by
  classical
  rw [map_key_upsert]
  split
  · exact h
  · rename_i hnew
    rw [← List.concat_eq_append]
    exact h.concat hnew

theorem notMem_of_find?_eq_none (h : l.find? (key · == k) = none) : k ∉ l.map key := by
  intro hk
  obtain ⟨b, hb, rfl⟩ := List.mem_map.mp hk
  exact absurd (beq_self_eq_true (key b)) (List.find?_eq_none.mp h b hb)

theorem find?_eq_none_of_notMem (h : k ∉ l.map key) : l.find? (key · == k) = none := by
  rw [List.find?_eq_none]
  intro b hb hk
  exact h (by rw [← eq_of_beq hk]; exact List.mem_map_of_mem hb)

theorem nodup_collect : ((collect key entries).map key).Nodup := by
  have hfold (done : List α) (h : (done.map key).Nodup) :
      ((entries.foldl (fun done a => upsert key a done) done).map key).Nodup := by
    induction entries generalizing done with
    | nil => exact h
    | cons a entries ih => exact ih _ (nodup_upsert h)
  exact hfold [] List.nodup_nil

theorem eraseDups_concat [DecidableEq κ] {keys : List κ} :
    (keys ++ [k]).eraseDups = if k ∈ keys then keys.eraseDups else keys.eraseDups ++ [k] := by
  rw [List.eraseDups_append]
  by_cases hk : k ∈ keys <;> simp [List.removeAll, hk, List.eraseDups_cons]

/-- The keys of collected entries are in the order of their first occurrence. -/
theorem map_key_collect [DecidableEq κ] :
    (collect key entries).map key = (entries.map key).eraseDups := by
  induction entries using List.reverseRecOn with
  | nil => rfl
  | append_singleton entries a ih =>
    rw [collect_concat, map_key_upsert, ih, List.map_append, List.map_singleton, eraseDups_concat]
    simp only [List.mem_eraseDups]

/-- The entry collected under a key is the last one with it. -/
theorem find?_collect :
    (collect key entries).find? (key · == k) = entries.reverse.find? (key · == k) := by
  induction entries using List.reverseRecOn with
  | nil => rfl
  | append_singleton entries a ih =>
    rw [collect_concat, find?_upsert, ih, List.reverse_concat, List.find?_cons]
    cases key a == k <;> rfl

theorem find?_filter_ne {d : κ} :
    (l.filter (key · != d)).find? (key · == k) =
      if d == k then none else l.find? (key · == k) := by
  rw [List.find?_filter]
  split
  · rename_i hd
    rw [List.find?_eq_none]
    intro b hb
    simp [eq_of_beq hd]
  · rename_i hd
    congr 1
    funext b
    by_cases hb : key b = k
    · have hne : k ≠ d := fun h => hd (by simp [h])
      simp [hb, hne]
    · simp [hb]

theorem key_of_find? (h : l.find? (key · == k) = some a) : key a = k := by
  simpa using List.find?_some h

theorem filter_ne_of_find?_eq_none (h : l.find? (key · == k) = none) :
    l.filter (key · != k) = l := by
  rw [List.filter_eq_self]
  intro b hb
  simpa using List.find?_eq_none.mp h b hb

/-- With each key once, every entry is found under its key. -/
theorem find?_eq_some_iff_of_nodup (h : (l.map key).Nodup) :
    l.find? (key · == k) = some a ↔ a ∈ l ∧ key a = k := by
  constructor
  · intro ha
    exact ⟨List.mem_of_find?_eq_some ha, key_of_find? ha⟩
  · rintro ⟨ha, rfl⟩
    cases hb : l.find? (key · == key a) with
    | none => exact absurd (List.mem_map_of_mem ha) (notMem_of_find?_eq_none hb)
    | some b =>
      have hkey : key b = key a := key_of_find? hb
      rw [List.inj_on_of_nodup_map h (List.mem_of_find?_eq_some hb) ha hkey]

/-- With each key once, the place of a key is that of the entry with it. -/
theorem findIdx?_eq_some_iff_of_nodup (h : (l.map key).Nodup) {i : Nat} :
    l.findIdx? (key · == k) = some i ↔ ∃ a, l[i]? = some a ∧ key a = k := by
  rw [List.findIdx?_eq_some_iff_getElem]
  constructor
  · rintro ⟨hi, hk, -⟩
    exact ⟨l[i], List.getElem?_eq_getElem hi, eq_of_beq hk⟩
  · rintro ⟨a, ha, rfl⟩
    obtain ⟨hi, rfl⟩ := List.getElem?_eq_some_iff.mp ha
    refine ⟨hi, beq_self_eq_true _, fun j hj hkey => ?_⟩
    have hjl : j < l.length := Nat.lt_trans hj hi
    have hsame :
        (l.map key).get ⟨j, by simpa using hjl⟩ = (l.map key).get ⟨i, by simpa using hi⟩ := by
      simpa using hkey
    exact Nat.ne_of_lt hj ((List.Nodup.getElem_inj_iff h).mp hsame)

/-- With each key once, nothing is left of an entry that is erased. -/
theorem find?_eraseP_of_nodup (h : (l.map key).Nodup) :
    (l.eraseP (key · == k)).find? (key · == k) = none := by
  induction l with
  | nil => rfl
  | cons b l ih =>
    rw [List.map_cons, List.nodup_cons] at h
    by_cases hk : key b == k
    · rw [List.eraseP_cons_of_pos (p := (key · == k)) hk]
      exact find?_eq_none_of_notMem (eq_of_beq hk ▸ h.1)
    · rw [List.eraseP_cons_of_neg (p := (key · == k)) hk, List.find?_cons, ih h.2]
      simp [hk]

/-- With each key once, an entry that is not kept is not replaced by another. -/
theorem find?_filter_of_nodup (h : (l.map key).Nodup) (p : α → Bool) :
    (l.filter p).find? (key · == k) = (l.find? (key · == k)).filter p := by
  induction l with
  | nil => rfl
  | cons b l ih =>
    rw [List.map_cons, List.nodup_cons] at h
    by_cases hk : key b == k
    · have hnone : l.find? (key · == k) = none := find?_eq_none_of_notMem (eq_of_beq hk ▸ h.1)
      have hrest := ih h.2
      rw [hnone] at hrest
      have hfound (rest : List α) : (b :: rest).find? (key · == k) = some b :=
        List.find?_cons_of_pos hk
      rw [hfound]
      by_cases hp : p b
      · rw [List.filter_cons_of_pos hp, hfound]
        simp [Option.filter, hp]
      · rw [List.filter_cons_of_neg hp, hrest]
        simp [Option.filter, hp]
    · have hpassed (rest : List α) :
          (b :: rest).find? (key · == k) = rest.find? (key · == k) := List.find?_cons_of_neg hk
      by_cases hp : p b
      · rw [List.filter_cons_of_pos hp, hpassed, hpassed, ih h.2]
      · rw [List.filter_cons_of_neg hp, hpassed, ih h.2]

end

/-! ### Writes of one entry -/

/-- What one write makes of the keys of entries: some go, or a new one comes last. -/
inductive Edited {κ : Type} (keys : List κ) : List κ → Prop
  | lost {after : List κ} (h : after.Sublist keys) : Edited keys after
  | gained {k : κ} (h : k ∉ keys) : Edited keys (keys ++ [k])

theorem Edited.refl {κ : Type} (keys : List κ) : Edited keys keys := .lost (.refl keys)

theorem Edited.nodup {κ : Type} {keys after : List κ} (h : Edited keys after)
    (hkeys : keys.Nodup) : after.Nodup := by
  cases h with
  | lost hsub => exact hkeys.sublist hsub
  | gained hk =>
    rw [← List.concat_eq_append]
    exact hkeys.concat hk

theorem edited_filter {κ : Type} {key : α → κ} {l : List α} (p : α → Bool) :
    Edited (l.map key) ((l.filter p).map key) :=
  .lost (List.filter_sublist.map key)

section

variable {κ : Type} [BEq κ] {key : α → κ} {a b : α} {l : List α} {k : κ}

/-- Appends an entry unless its key is taken. -/
def inserted (key : α → κ) (a : α) (l : List α) : List α :=
  match l.find? (key · == key a) with
  | some _ => l
  | none => l ++ [a]

/-- Puts an entry in the place of the one with its key, unless that equals it, or appends it. -/
def put [BEq α] (key : α → κ) (a : α) (l : List α) : List α :=
  match l.find? (key · == key a) with
  | some old => if old == a then l else upsert key a l
  | none => l ++ [a]

/-- An entry put in the place of another, which stays if it equals the new one. -/
def replaced [BEq α] (a : α) : Option α → α
  | some old => if old == a then old else a
  | none => a

omit [BEq κ] in
theorem replaced_beq [BEq α] (h : (a == a) = true) (x : Option α) :
    (replaced a x == a) = true := by
  cases x with
  | none => exact h
  | some old =>
    rw [replaced]
    split
    · assumption
    · exact h

theorem inserted_of_some (h : l.find? (key · == key a) = some b) : inserted key a l = l := by
  rw [inserted, h]

theorem inserted_of_none (h : l.find? (key · == key a) = none) :
    inserted key a l = l ++ [a] := by
  rw [inserted, h]

theorem mem_inserted (h : b ∈ inserted key a l) : b = a ∨ b ∈ l := by
  unfold inserted at h
  split at h
  · exact .inr h
  · rcases List.mem_append.mp h with h | h
    · exact .inr h
    · exact .inl (List.mem_singleton.mp h)

section

variable [BEq α]

theorem mem_put (h : b ∈ put key a l) : b = a ∨ b ∈ l := by
  unfold put at h
  split at h
  · split at h
    · exact .inr h
    · exact mem_upsert h
  · rcases List.mem_append.mp h with h | h
    · exact .inr h
    · exact .inl (List.mem_singleton.mp h)

theorem put_of_beq (h : l.find? (key · == key a) = some b) (hsame : (b == a) = true) :
    put key a l = l := by
  rw [put, h]
  exact if_pos hsame

theorem put_of_not_beq (h : l.find? (key · == key a) = some b) (hsame : ¬(b == a) = true) :
    put key a l = upsert key a l := by
  rw [put, h]
  exact if_neg hsame

theorem put_of_none (h : l.find? (key · == key a) = none) : put key a l = l ++ [a] := by
  rw [put, h]

end

variable [LawfulBEq κ]

theorem find?_inserted :
    (inserted key a l).find? (key · == k) =
      if key a == k then (l.find? (key · == k)).or (some a) else l.find? (key · == k) := by
  cases h : l.find? (key · == key a) with
  | some old =>
    rw [inserted_of_some h]
    split
    · rename_i hk
      rw [← eq_of_beq hk, h]
      rfl
    · rfl
  | none =>
    rw [inserted_of_none h, find?_concat]
    split <;> simp

theorem edited_inserted : Edited (l.map key) ((inserted key a l).map key) := by
  cases hfind : l.find? (key · == key a) with
  | some old =>
    rw [inserted_of_some hfind]
    exact .refl _
  | none =>
    rw [inserted_of_none hfind, List.map_append]
    exact .gained (notMem_of_find?_eq_none hfind)

variable [BEq α]

theorem find?_put :
    (put key a l).find? (key · == k) =
      if key a == k then some (replaced a (l.find? (key · == k))) else l.find? (key · == k) := by
  cases h : l.find? (key · == key a) with
  | some old =>
    by_cases hsame : old == a
    · rw [put_of_beq h hsame]
      split
      · rename_i hk
        rw [← eq_of_beq hk, h, replaced, if_pos hsame]
      · rfl
    · rw [put_of_not_beq h hsame, find?_upsert]
      split
      · rename_i hk
        rw [← eq_of_beq hk, h, replaced, if_neg hsame]
      · rfl
  | none =>
    rw [put_of_none h, find?_concat]
    split
    · rename_i hk
      rw [← eq_of_beq hk, h]
      rfl
    · rw [Option.or_none]

theorem edited_put : Edited (l.map key) ((put key a l).map key) := by
  cases hfind : l.find? (key · == key a) with
  | some old =>
    by_cases hsame : old == a
    · rw [put_of_beq hfind hsame]
      exact .refl _
    · classical
      have hmem : key a ∈ l.map key :=
        key_of_find? hfind ▸ List.mem_map_of_mem (List.mem_of_find?_eq_some hfind)
      rw [put_of_not_beq hfind hsame, map_key_upsert, if_pos hmem]
      exact .refl _
  | none =>
    rw [put_of_none hfind, List.map_append]
    exact .gained (notMem_of_find?_eq_none hfind)

theorem nodup_put (h : (l.map key).Nodup) : ((put key a l).map key).Nodup :=
  edited_put.nodup h

end

end WormholeMap.Graph

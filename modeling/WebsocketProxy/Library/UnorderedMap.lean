import Mathlib.Data.List.AList

/-!
# Unordered maps

`UnorderedMap κ υ` is a finite map from keys to values, as a list of entries with distinct
keys; the order of the list is the order in which an iteration meets the entries. Lookup,
replacement and erasure are those of association lists. `emplace` inserts only when the
key is absent, and otherwise keeps the entry that is there.
-/

universe u v

/-- A finite map from `κ` to `υ`. -/
abbrev UnorderedMap (κ : Type u) (υ : Type v) : Type (max u v) :=
  AList (fun _ : κ => υ)

namespace UnorderedMap

variable {κ : Type u} {υ : Type v}

/-- Whether the map has no entry. -/
def isEmpty (m : UnorderedMap κ υ) : Bool := m.entries.isEmpty

/-- A map has no entry when no key is in it. -/
theorem isEmpty_iff {m : UnorderedMap κ υ} :
  m.isEmpty = true ↔ ∀ k, k ∉ m
  := by
  constructor
  · intro h k hk
    have hnil : m.entries = [] := List.isEmpty_iff.mp h
    rw [AList.mem_keys, AList.keys, hnil] at hk
    simp at hk
  · intro h
    apply List.isEmpty_iff.mpr
    apply List.eq_nil_iff_forall_not_mem.mpr
    intro e he
    apply h e.1
    apply List.mem_keys_of_mem he

variable [DecidableEq κ]

/-- The map with an entry for `k` added, unless there is one. -/
def emplace (m : UnorderedMap κ υ) (k : κ) (v : υ) : UnorderedMap κ υ :=
  if k ∈ m then m else m.insert k v

theorem mem_iff_lookup {m : UnorderedMap κ υ} {k : κ} :
  k ∈ m ↔ ∃ v, m.lookup k = some v
  := by
  rw [← AList.lookup_isSome, Option.isSome_iff_exists]

/-- Maps with the same lookups are both empty or both not. -/
theorem isEmpty_congr {m m' : UnorderedMap κ υ} (h : ∀ k, m'.lookup k = m.lookup k) :
  m'.isEmpty = m.isEmpty
  := by
  rw [Bool.eq_iff_iff, isEmpty_iff, isEmpty_iff]
  simp only [mem_iff_lookup, h]

/-- The entry a lookup finds is met by an iteration, and conversely. -/
theorem mem_entries_iff {m : UnorderedMap κ υ} {k : κ} {v : υ} :
  (⟨k, v⟩ : Σ _ : κ, υ) ∈ m.entries ↔ m.lookup k = some v
  := AList.mem_lookup_iff.symm

theorem lookup_insert_eq (m : UnorderedMap κ υ) (k k' : κ) (v : υ) :
  (m.insert k v).lookup k' = if k' = k then some v else m.lookup k'
  := by
  split
  case isTrue h =>
    subst h
    apply AList.lookup_insert
  case isFalse h => apply AList.lookup_insert_ne h

theorem lookup_erase_eq (m : UnorderedMap κ υ) (k k' : κ) :
  (m.erase k).lookup k' = if k' = k then none else m.lookup k'
  := by
  split
  case isTrue h =>
    subst h
    apply AList.lookup_erase
  case isFalse h => apply AList.lookup_erase_ne h

theorem lookup_erase_eq_some {m : UnorderedMap κ υ} {k k' : κ} {v : υ} :
  (m.erase k).lookup k' = some v ↔ k' ≠ k ∧ m.lookup k' = some v
  := by
  rw [lookup_erase_eq]
  split
  case isTrue h => simp [h]
  case isFalse h => simp [h]

theorem dlookup_kreplace (k k' : κ) (v : υ) (entries : List (Σ _ : κ, υ)) :
  List.dlookup k' (List.kreplace k v entries)
    = if k' = k ∧ k ∈ entries.keys then some v else List.dlookup k' entries
  := by
  induction entries with
  | nil => simp [List.kreplace]
  | cons e entries ih =>
      obtain ⟨j, w⟩ := e
      rw [List.kreplace] at ih ⊢
      rcases eq_or_ne k j with rfl | hkj
      · rw [List.lookmap_cons_some]
        case h => exact if_pos rfl
        rcases eq_or_ne k' k with rfl | hk'
        · simp
        · simp [List.dlookup_cons_ne, hk']
      · rw [List.lookmap_cons_none]
        case h => exact if_neg hkj
        rcases eq_or_ne k' j with rfl | hk'
        · simp [hkj.symm]
        · rw [List.dlookup_cons_ne _ _ hk', ih, List.dlookup_cons_ne _ _ hk']
          simp [hkj]

theorem lookup_replace_eq (m : UnorderedMap κ υ) (k k' : κ) (v : υ) :
  (m.replace k v).lookup k' = if k' = k ∧ k ∈ m then some v else m.lookup k'
  := by
  rw [AList.lookup, AList.replace, dlookup_kreplace]
  apply if_congr _ rfl rfl
  rfl

theorem lookup_replace {m : UnorderedMap κ υ} {k : κ} {v : υ} (h : m.lookup k = some v) (v' : υ) :
  (m.replace k v').lookup k = some v'
  := by
  rw [lookup_replace_eq, if_pos]
  use rfl
  apply mem_iff_lookup.mpr ⟨v, h⟩

theorem lookup_replace_ne (m : UnorderedMap κ υ) {k k' : κ} (hne : k' ≠ k) (v : υ) :
  (m.replace k v).lookup k' = m.lookup k'
  := by
  rw [lookup_replace_eq, if_neg]
  intro h
  apply hne h.1

/-- Replacing a value by itself changes nothing. -/
theorem replace_self {m : UnorderedMap κ υ} {k : κ} {v : υ} (h : m.lookup k = some v) :
  m.replace k v = m
  := by
  apply AList.ext
  apply List.kreplace_self m.nodupKeys
  apply mem_entries_iff.mpr h

/-- Emplacing keeps an entry that is there. -/
theorem lookup_emplace_of_some {m : UnorderedMap κ υ} {k k' : κ} {v v' : υ}
    (h : m.lookup k' = some v') :
  (m.emplace k v).lookup k' = some v'
  := by
  unfold emplace
  split
  case isTrue => apply h
  case isFalse hk =>
    rw [lookup_insert_eq, if_neg]
    · apply h
    · rintro rfl
      apply hk
      apply mem_iff_lookup.mpr ⟨v', h⟩

/-- Emplacing does not touch other keys. -/
theorem lookup_emplace_ne {m : UnorderedMap κ υ} {k k' : κ} (v : υ) (h : k' ≠ k) :
  (m.emplace k v).lookup k' = m.lookup k'
  := by
  unfold emplace
  split
  case isTrue => rfl
  case isFalse => apply AList.lookup_insert_ne h

/-- Emplacing at an absent key inserts. -/
theorem lookup_emplace_of_none {m : UnorderedMap κ υ} {k : κ} (v : υ) (h : m.lookup k = none) :
  (m.emplace k v).lookup k = some v
  := by
  rw [emplace, if_neg (AList.lookup_eq_none.mp h)]
  apply AList.lookup_insert

theorem mem_emplace {m : UnorderedMap κ υ} {k k' : κ} {v : υ} :
  k' ∈ m.emplace k v ↔ k' = k ∨ k' ∈ m
  := by
  unfold emplace
  split
  case isTrue h =>
    constructor
    · apply Or.inr
    · rintro (rfl | h')
      · exact h
      · exact h'
  case isFalse => apply AList.mem_insert

theorem lookup_emplace_eq (m : UnorderedMap κ υ) (k k' : κ) (v : υ) :
  (m.emplace k v).lookup k'
    = if k' = k ∧ m.lookup k = none then some v else m.lookup k'
  := by
  by_cases hk : k' = k
  · subst hk
    cases h : m.lookup k' with
    | none => simp [lookup_emplace_of_none v h]
    | some w => simp [lookup_emplace_of_some h]
  · rw [lookup_emplace_ne v hk, if_neg (fun h => hk h.1)]

end UnorderedMap

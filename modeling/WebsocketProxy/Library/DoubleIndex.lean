import WebsocketProxy.Library.UnorderedMap

/-!
# Objects stored under two keys

A component may store its objects in two maps, under two keys of each object. The two maps
index the same objects when each object found in one is found in the other, under its own
keys (`IndexesAgree`). Storing an object in both by `emplace` keeps this when neither map
has an entry at the keys of the object; dropping objects keeps it when what is dropped from
one map is dropped from the other.
-/

universe u v w

variable {α : Type u} {β : Type v} {ι : Type w}

/-- Two maps index the same objects, under the keys `a` and `b` of the objects. -/
structure IndexesAgree (byA : UnorderedMap α ι) (byB : UnorderedMap β ι)
    (a : ι → α) (b : ι → β) [DecidableEq α] [DecidableEq β] : Prop where
  ofA : ∀ {x i}, byA.lookup x = some i → a i = x ∧ byB.lookup (b i) = some i
  ofB : ∀ {y i}, byB.lookup y = some i → b i = y ∧ byA.lookup (a i) = some i

namespace IndexesAgree

variable [DecidableEq α] [DecidableEq β] {byA : UnorderedMap α ι} {byB : UnorderedMap β ι}
  {a : ι → α} {b : ι → β}

theorem empty (a : ι → α) (b : ι → β) :
  IndexesAgree ∅ ∅ a b
  := by
  constructor
  · intro x i h
    rw [AList.lookup_empty] at h
    cases h
  · intro y i h
    rw [AList.lookup_empty] at h
    cases h

/-- Only the lookups and the keys of the stored objects matter. -/
theorem congr {byA' : UnorderedMap α ι} {byB' : UnorderedMap β ι} {a' : ι → α} {b' : ι → β}
    (h : IndexesAgree byA byB a b) (hbyA : ∀ x, byA'.lookup x = byA.lookup x)
    (hbyB : ∀ y, byB'.lookup y = byB.lookup y)
    (hkeys : ∀ x i, byA.lookup x = some i → a' i = a i ∧ b' i = b i) :
  IndexesAgree byA' byB' a' b'
  := by
  constructor
  · intro x i hx
    rw [hbyA] at hx
    obtain ⟨ha, hb⟩ := hkeys x i hx
    rw [ha, hb, hbyB]
    apply h.ofA hx
  · intro y i hy
    rw [hbyB] at hy
    obtain ⟨hby, hax⟩ := h.ofB hy
    obtain ⟨ha, hb⟩ := hkeys _ i hax
    rw [ha, hb, hbyA]
    exact ⟨hby, hax⟩

/-- An object is stored in both maps, under its own keys, where there was no entry. -/
theorem emplace (h : IndexesAgree byA byB a b) {i : ι} (ha : byA.lookup (a i) = none)
    (hb : byB.lookup (b i) = none) :
  IndexesAgree (byA.emplace (a i) i) (byB.emplace (b i) i) a b
  := by
  constructor
  · intro x j hx
    rw [UnorderedMap.lookup_emplace_eq] at hx
    split at hx
    case isTrue hnew =>
      obtain rfl := Option.some.inj hx
      use hnew.1.symm
      apply UnorderedMap.lookup_emplace_of_none _ hb
    case isFalse =>
      obtain ⟨hax, hbj⟩ := h.ofA hx
      use hax
      apply UnorderedMap.lookup_emplace_of_some hbj
  · intro y j hy
    rw [UnorderedMap.lookup_emplace_eq] at hy
    split at hy
    case isTrue hnew =>
      obtain rfl := Option.some.inj hy
      use hnew.1.symm
      apply UnorderedMap.lookup_emplace_of_none _ ha
    case isFalse =>
      obtain ⟨hby, haj⟩ := h.ofB hy
      use hby
      apply UnorderedMap.lookup_emplace_of_some haj

/-- Objects are dropped: from one map by one key, and from the other whatever has the other
key of an object that is dropped. -/
theorem drop (h : IndexesAgree byA byB a b) {byA' : UnorderedMap α ι} {byB' : UnorderedMap β ι}
    {gone : ι → Prop}
    (hbyA : ∀ x i, byA'.lookup x = some i ↔ byA.lookup x = some i ∧ ¬ gone i)
    (hbyB : ∀ y i, byB'.lookup y = some i ↔ byB.lookup y = some i ∧
      ∀ j, (∃ x, byA.lookup x = some j) → gone j → b j ≠ y) :
  IndexesAgree byA' byB' a b
  := by
  constructor
  · intro x i hx
    obtain ⟨hx, hstays⟩ := (hbyA x i).mp hx
    obtain ⟨hax, hb⟩ := h.ofA hx
    use hax
    apply (hbyB _ i).mpr
    use hb
    rintro j ⟨x', hj⟩ hgone hkey
    have hbj := (h.ofA hj).2
    rw [hkey, hb] at hbj
    obtain rfl := Option.some.inj hbj
    apply hstays hgone
  · intro y i hy
    obtain ⟨hy, hstays⟩ := (hbyB y i).mp hy
    obtain ⟨hby, ha⟩ := h.ofB hy
    use hby
    apply (hbyA _ i).mpr
    use ha
    intro hgone
    exact hstays i ⟨_, ha⟩ hgone hby

end IndexesAgree

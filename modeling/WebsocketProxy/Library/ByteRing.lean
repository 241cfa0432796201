import WebsocketProxy.Library.Memory

/-!
# Rings of bytes

`ByteRing size` is a queue of messages of various lengths in `size` bytes of memory. A
message is given the next bytes that are consecutive in memory: where it does not fit before
the end of the memory it starts at the beginning. Its writer then writes these bytes. Indices
count on from round to round, and the address of an index is its remainder. Nothing waits for
a reader, so the bytes of a message are given out again a round later.
-/

/-- The bytes a message is given: its index, and its length. -/
structure ByteRange where
  index : ℕ
  length : ℕ
deriving DecidableEq

namespace ByteRange

/-- The address of the first byte, in `size` bytes of memory. -/
def address (r : ByteRange) (size : ℕ) : ℕ := r.index % size

/-- The byte at an address is one of those of the message. -/
def Covers (r : ByteRange) (size x : ℕ) : Prop :=
  r.address size ≤ x ∧ x < r.address size + r.length

instance (r : ByteRange) (size x : ℕ) : Decidable (r.Covers size x) :=
  inferInstanceAs (Decidable (_ ∧ _))

/-- Messages that are given out within one round share no byte. -/
theorem not_covers_of_round {r r' : ByteRange} {size x : ℕ} (hle : r.index + r.length ≤ r'.index)
    (hround : r'.index + r'.length ≤ r.index + size) (hx : r.Covers size x) :
  ¬ r'.Covers size x
  := by
  rintro ⟨hle', hlt'⟩
  obtain ⟨hle₁, hlt₁⟩ := hx
  have hindex := Nat.div_add_mod r.index size
  have hindex' := Nat.div_add_mod r'.index size
  unfold address at hle' hlt' hle₁ hlt₁
  -- the two indices of the byte differ by whole rounds
  rcases Nat.lt_or_ge (r.index / size) (r'.index / size) with hlt | hge
  · have hrounds := Nat.mul_le_mul_left size (Nat.succ_le_of_lt hlt)
    rw [Nat.mul_succ] at hrounds
    omega
  · have hrounds := Nat.mul_le_mul_left size hge
    omega

end ByteRange

/-- A queue of messages in `size` bytes. -/
structure ByteRing (size : ℕ) where
  memory : Memory
  /-- The next index. -/
  reserved : ℕ
  /-- The bytes given out so far, in their order. -/
  ranges : List ByteRange
  /-- Messages are consecutive in memory. -/
  within : ∀ r ∈ ranges, r.address size + r.length ≤ size
  /-- Indices are given out in their order. -/
  ordered : ranges.Pairwise (fun r r' => r.index + r.length ≤ r'.index)
  le_reserved : ∀ r ∈ ranges, r.index + r.length ≤ reserved

namespace ByteRing

variable {size : ℕ}

/-- The ring nothing was put in. -/
def empty : ByteRing size where
  memory _ := 0
  reserved := 0
  ranges := []
  within := by simp
  ordered := .nil
  le_reserved := by simp

/-- The bytes the next message of the given length is given. -/
def next (q : ByteRing size) (length : ℕ) : ByteRange :=
  ⟨if q.reserved % size + length > size then q.reserved + (size - q.reserved % size)
    else q.reserved, length⟩

theorem reserved_le_next (q : ByteRing size) (length : ℕ) :
  q.reserved ≤ (q.next length).index
  := by
  unfold next
  dsimp only
  split
  · apply Nat.le_add_right
  · apply Nat.le_refl

theorem next_within [NeZero size] (q : ByteRing size) {length : ℕ} (h : length ≤ size) :
  (q.next length).address size + length ≤ size
  := by
  unfold next ByteRange.address
  dsimp only
  split
  case isTrue =>
    have hlt := Nat.mod_lt q.reserved (Nat.pos_of_neZero size)
    have hstart : (q.reserved + (size - q.reserved % size)) % size = 0 := by
      have hindex := Nat.div_add_mod q.reserved size
      have hround : q.reserved + (size - q.reserved % size) = size * (q.reserved / size + 1) := by
        rw [Nat.mul_succ]
        omega
      rw [hround, Nat.mul_mod_right]
    omega
  case isFalse h => omega

/-- The ring with bytes given out for a message. -/
def reserve [NeZero size] (q : ByteRing size) (length : ℕ) (h : length ≤ size) :
    ByteRing size where
  memory := q.memory
  reserved := (q.next length).index + length
  ranges := q.ranges ++ [q.next length]
  within := by
    intro r hr
    rcases List.mem_append.mp hr with hr | hr
    · apply q.within r hr
    · obtain rfl := List.mem_singleton.mp hr
      apply q.next_within h
  ordered := by
    apply List.pairwise_append.mpr
    refine ⟨q.ordered, List.pairwise_singleton _ _, ?_⟩
    intro r hr r' hr'
    obtain rfl := List.mem_singleton.mp hr'
    exact (q.le_reserved r hr).trans (q.reserved_le_next length)
  le_reserved := by
    intro r hr
    rcases List.mem_append.mp hr with hr | hr
    · apply (q.le_reserved r hr).trans
      exact (q.reserved_le_next length).trans (Nat.le_add_right _ _)
    · obtain rfl := List.mem_singleton.mp hr
      apply Nat.le_refl _

/-- The ring with other bytes in the range of a message. -/
def write (q : ByteRing size) (r : ByteRange) (bytes : ℕ → UInt8) : ByteRing size :=
  { q with memory := q.memory.fill (r.address size) r.length bytes }

/-- The byte at an address is one of the `k`-th message, and was not given out again. -/
def Owns (q : ByteRing size) (k x : ℕ) : Prop :=
  (∃ r ∈ q.ranges[k]?, r.Covers size x) ∧ ∀ r ∈ q.ranges.drop (k + 1), ¬ r.Covers size x

instance (q : ByteRing size) (k x : ℕ) : Decidable (q.Owns k x) :=
  inferInstanceAs (Decidable (_ ∧ _))

/-- The bytes of a message are its own for a round. -/
theorem owns_of_round {q : ByteRing size} {k x : ℕ} {r : ByteRange} (hr : q.ranges[k]? = some r)
    (hround : q.reserved ≤ r.index + size) (hx : r.Covers size x) :
  q.Owns k x
  := by
  use ⟨r, hr, hx⟩
  intro r' hr'
  have hordered : ∀ r' ∈ q.ranges.drop (k + 1), r.index + r.length ≤ r'.index := by
    obtain ⟨hk, hget⟩ := List.getElem?_eq_some_iff.mp hr
    have hpairwise := q.ordered.sublist (List.drop_sublist k q.ranges)
    rw [List.drop_eq_getElem_cons hk, hget] at hpairwise
    exact (List.pairwise_cons.mp hpairwise).1
  apply ByteRange.not_covers_of_round (hordered r' hr') _ hx
  exact (q.le_reserved r' (List.mem_of_mem_drop hr')).trans hround

/-- Bytes of the `k`-th message may have been given out again. -/
def Lapped (q : ByteRing size) (k : ℕ) : Prop :=
  ∃ r ∈ q.ranges[k]?, r.index + size < q.reserved

instance (q : ByteRing size) (k : ℕ) : Decidable (q.Lapped k) :=
  Option.decidableExistsMem _

theorem round_of_not_lapped {q : ByteRing size} {k : ℕ} {r : ByteRange} (h : ¬ q.Lapped k)
    (hr : q.ranges[k]? = some r) :
  q.reserved ≤ r.index + size
  := by
  by_contra hgt
  exact h ⟨r, hr, Nat.lt_of_not_le hgt⟩

/-- A message behind one that is not lapped is not lapped. -/
theorem not_lapped_of_le {q : ByteRing size} {i k : ℕ} (h : ¬ q.Lapped i)
    (hk : k < q.ranges.length) (hle : i ≤ k) :
  ¬ q.Lapped k
  := by
  have hi := List.getElem?_eq_getElem (hle.trans_lt hk)
  have hround := round_of_not_lapped h hi
  rintro ⟨r, hr, hlapped⟩
  obtain ⟨_, hget⟩ := List.getElem?_eq_some_iff.mp hr
  rcases hle.eq_or_lt with rfl | hlt
  · rw [hget] at hround
    omega
  · have hordered := List.pairwise_iff_getElem.mp q.ordered i k (hlt.trans hk) hk hlt
    rw [hget] at hordered
    omega

/-- What is a message's own is in no other message that is not lapped. -/
theorem Owns.not_covers {q : ByteRing size} {j k x : ℕ} {r : ByteRange} (h : q.Owns j x)
    (hne : k ≠ j) (hr : q.ranges[k]? = some r) (hlapped : ¬ q.Lapped k) :
  ¬ r.Covers size x
  := by
  obtain ⟨⟨r', hr', hx⟩, hlater⟩ := h
  obtain ⟨hk, hget⟩ := List.getElem?_eq_some_iff.mp hr
  obtain ⟨hj, hget'⟩ := List.getElem?_eq_some_iff.mp hr'
  rcases Nat.lt_or_gt_of_ne hne with hlt | hgt
  · intro hcovers
    have hordered := List.pairwise_iff_getElem.mp q.ordered k j hk hj hlt
    rw [hget, hget'] at hordered
    apply ByteRange.not_covers_of_round hordered _ hcovers hx
    apply (q.le_reserved r' (List.mem_of_getElem? hr')).trans
    apply round_of_not_lapped hlapped hr
  · apply hlater r
    apply List.mem_of_getElem? (i := k - (j + 1))
    rw [List.getElem?_drop, Nat.add_sub_cancel' hgt]
    exact hr

/-- Messages that are not lapped share no byte. -/
theorem not_covers_of_not_lapped {q : ByteRing size} {j k x : ℕ} {r r' : ByteRange}
    (hr : q.ranges[j]? = some r) (hr' : q.ranges[k]? = some r') (hne : j ≠ k)
    (hj : ¬ q.Lapped j) (hk : ¬ q.Lapped k) (hx : r.Covers size x) :
  ¬ r'.Covers size x
  := by
  have howns := owns_of_round hr (round_of_not_lapped hj hr) hx
  exact howns.not_covers hne.symm hr' hk

/-- A message that is not lapped after bytes were given out to another was not before. -/
theorem not_lapped_of_reserve [NeZero size] {q : ByteRing size} {k length : ℕ} (h : length ≤ size)
    (hlapped : ¬ (q.reserve length h).Lapped k) (hk : k < q.ranges.length) :
  ¬ q.Lapped k
  := by
  rintro ⟨r, hr, hlt⟩
  apply hlapped
  use r, (List.getElem?_append_left hk).trans hr
  exact hlt.trans_le ((q.reserved_le_next length).trans (Nat.le_add_right _ _))

/-- What is a message's own after bytes were given out to another was so before. -/
theorem Owns.of_reserve [NeZero size] {q : ByteRing size} {k x length : ℕ} (h : length ≤ size)
    (howns : (q.reserve length h).Owns k x) (hk : k < q.ranges.length) :
  q.Owns k x
  := by
  obtain ⟨⟨r, hr, hx⟩, hlater⟩ := howns
  constructor
  · use r
    rw [reserve, List.getElem?_append_left hk] at hr
    exact ⟨hr, hx⟩
  · intro r' hr'
    apply hlater r'
    rw [reserve, List.drop_append_of_le_length hk]
    apply List.mem_append_left _ hr'

end ByteRing

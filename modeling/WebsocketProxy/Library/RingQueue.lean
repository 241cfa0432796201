import Mathlib.Logic.Function.Basic
import Mathlib.Tactic.Common

/-!
# Ring queues

`RingQueue α size` is a queue of elements kept in `size` cells. An element is given the
next index and put in the cell of that index modulo `size`, whatever the reader has read;
a cell holds the index of its element beside the element. A reader at index `i` looks at
the cell of `i`: an element of index at least `i` is read, and the reader goes on from the
index after it. A reader that was lapped so continues from the newer element it finds.
-/

universe u

/-- A queue of elements of `α` in `size` cells. -/
structure RingQueue (α : Type u) (size : ℕ) where
  /-- The cells: the index of the element last put there, and the element. -/
  cells : ℕ → Option (ℕ × α)
  /-- The index the next element is given. -/
  reserved : ℕ
  /-- The indices in the cells were given out. -/
  lt_reserved : ∀ {c j v}, cells c = some (j, v) → j < reserved
  /-- An element is in the cell of its index. -/
  mod_eq : ∀ {c j v}, cells c = some (j, v) → j % size = c

namespace RingQueue

variable {α : Type u} {size : ℕ}

/-- The queue nothing was put in. -/
def empty : RingQueue α size where
  cells _ := none
  reserved := 0
  lt_reserved := by simp
  mod_eq := by simp

instance : Inhabited (RingQueue α size) := ⟨empty⟩

/-- The queue with `v` put in. -/
def push (q : RingQueue α size) (v : α) : RingQueue α size where
  cells := Function.update q.cells (q.reserved % size) (some (q.reserved, v))
  reserved := q.reserved + 1
  lt_reserved := by
    intro c j w h
    by_cases hc : c = q.reserved % size
    · subst hc
      rw [Function.update_self, Option.some.injEq, Prod.mk.injEq] at h
      omega
    · rw [Function.update_of_ne hc] at h
      have := q.lt_reserved h
      omega
  mod_eq := by
    intro c j w h
    by_cases hc : c = q.reserved % size
    · subst hc
      rw [Function.update_self, Option.some.injEq, Prod.mk.injEq] at h
      rw [← h.1]
    · rw [Function.update_of_ne hc] at h
      apply q.mod_eq h

/-- What a reader at index `i` reads, and the index it goes on from. -/
def read (q : RingQueue α size) (i : ℕ) : Option (α × ℕ) :=
  match q.cells (i % size) with
  | some (j, v) => if i ≤ j then some (v, j + 1) else none
  | none => none

/-- Some cell of the queue holds `v`. -/
def Holds (q : RingQueue α size) (v : α) : Prop :=
  ∃ c j, q.cells c = some (j, v)

theorem not_holds_empty (v : α) :
  ¬ (empty : RingQueue α size).Holds v
  := by
  rintro ⟨c, j, h⟩
  simp [empty] at h

/-- An element in a queue after `v` was put in is `v`, or was there before. -/
theorem holds_push {q : RingQueue α size} {v w : α} (h : (q.push v).Holds w) :
  w = v ∨ q.Holds w
  := by
  obtain ⟨c, j, h⟩ := h
  by_cases hc : c = q.reserved % size
  · subst hc
    simp only [push, Function.update_self, Option.some.injEq, Prod.mk.injEq] at h
    left
    apply h.2.symm
  · simp only [push, Function.update_of_ne hc] at h
    right
    use c, j, h

/-- What is read is in the queue, and the reader goes forward, though not past the
elements put in. -/
theorem read_eq_some {q : RingQueue α size} {i j : ℕ} {v : α} (h : q.read i = some (v, j)) :
  q.Holds v ∧ i < j ∧ j ≤ q.reserved
  := by
  unfold read at h
  split at h
  case h_1 k w hcell =>
    split at h
    case isTrue hle =>
      rw [Option.some.injEq, Prod.mk.injEq] at h
      obtain ⟨rfl, rfl⟩ := h
      have := q.lt_reserved hcell
      refine ⟨⟨_, _, hcell⟩, ?_, ?_⟩
      · omega
      · omega
    case isFalse => cases h
  case h_2 => cases h

/-- A reader that is past all elements reads nothing. -/
theorem read_eq_none {q : RingQueue α size} {i : ℕ} (h : q.reserved ≤ i) :
  q.read i = none
  := by
  cases hr : q.read i with
  | none => rfl
  | some p =>
      obtain ⟨-, hlt, hle⟩ := read_eq_some hr
      omega

/-! ### Readers -/

/-- What a reader at an index reads in at most the given number of rounds. -/
def readAll (q : RingQueue α size) : ℕ → ℕ → List α
  | 0, _ => []
  | n + 1, i =>
      match q.read i with
      | none => []
      | some (v, j) => v :: readAll q n j

/-- What a reader at index `i` has not read. -/
def unread (q : RingQueue α size) (i : ℕ) : List α := q.readAll (q.reserved - i) i

theorem readAll_of_none {q : RingQueue α size} {i : ℕ} (h : q.read i = none) (n : ℕ) :
  q.readAll n i = []
  := by
  cases n with
  | zero => rfl
  | succ n => rw [readAll, h]

/-- More rounds than elements the reader is behind read nothing more. -/
theorem readAll_of_le (q : RingQueue α size) (n : ℕ) :
  ∀ {m i}, q.reserved - i ≤ n → q.reserved - i ≤ m → q.readAll m i = q.readAll n i
  := by
  induction n with
  | zero =>
      intro m i hn hm
      have hnone : q.read i = none := read_eq_none (by omega)
      rw [readAll_of_none hnone, readAll_of_none hnone]
  | succ n ih =>
      intro m i hn hm
      cases hread : q.read i with
      | none => rw [readAll_of_none hread, readAll_of_none hread]
      | some p =>
          obtain ⟨v, j⟩ := p
          obtain ⟨-, hlt, hle⟩ := read_eq_some hread
          cases m with
          | zero => omega
          | succ m =>
              rw [readAll, readAll, hread]
              apply congrArg (v :: ·)
              apply ih
              · omega
              · omega

theorem unread_of_none {q : RingQueue α size} {i : ℕ} (h : q.read i = none) :
  q.unread i = []
  := readAll_of_none h _

/-- What was not read is the next element, and what is not read after it. -/
theorem unread_of_some {q : RingQueue α size} {i j : ℕ} {v : α} (h : q.read i = some (v, j)) :
  q.unread i = v :: q.unread j
  := by
  obtain ⟨-, hlt, hle⟩ := read_eq_some h
  obtain ⟨n, hn⟩ : ∃ n, q.reserved - i = n + 1 := ⟨q.reserved - i - 1, by omega⟩
  rw [unread, hn, readAll, h]
  apply congrArg (v :: ·)
  apply readAll_of_le
  · omega
  · omega

/-- Indices of one cell are at least as far apart as there are cells. -/
theorem add_size_le {i j : ℕ} (hlt : i < j) (hmod : i % size = j % size) :
  i + size ≤ j
  := by
  have hdvd : size ∣ j - i := Nat.dvd_of_mod_eq_zero (Nat.sub_mod_eq_zero_of_mod_eq hmod.symm)
  have := Nat.le_of_dvd (by omega) hdvd
  omega

/-- The last elements put in are in their cells. -/
def Filled (q : RingQueue α size) : Prop :=
  ∀ j, j < q.reserved → q.reserved ≤ j + size → ∃ v, q.cells (j % size) = some (j, v)

theorem filled_empty :
  (empty : RingQueue α size).Filled
  := by
  intro j hj
  cases hj

theorem Filled.push {q : RingQueue α size} (h : q.Filled) (v : α) :
  (q.push v).Filled
  := by
  intro j hj hsize
  have hj : j < q.reserved + 1 := hj
  have hsize : q.reserved + 1 ≤ j + size := hsize
  rcases eq_or_ne j q.reserved with rfl | hne
  · use v
    exact Function.update_self ..
  · obtain ⟨w, hw⟩ := h j (by omega) (by omega)
    use w
    have hcell : j % size ≠ q.reserved % size := by
      intro heq
      have := add_size_le (by omega) heq
      omega
    exact (Function.update_of_ne hcell ..).trans hw

/-- A reader that is behind reads the last element put in the cell it looks at. -/
theorem Filled.read {q : RingQueue α size} (h : q.Filled) (hsize : 0 < size) {i : ℕ}
    (hi : i < q.reserved) :
  ∃ v j, q.read i = some (v, j + 1) ∧ j < q.reserved ∧ q.reserved ≤ j + size
  := by
  obtain ⟨j, hmod, hle, hlt, hlast⟩ :
      ∃ j, j % size = i % size ∧ i ≤ j ∧ j < q.reserved ∧ q.reserved ≤ j + size := by
    use i + size * ((q.reserved - 1 - i) / size)
    have hdiv := Nat.div_add_mod (q.reserved - 1 - i) size
    have hmod := Nat.mod_lt (q.reserved - 1 - i) hsize
    refine ⟨?_, ?_, ?_, ?_⟩
    · apply Nat.add_mul_mod_self_left
    · omega
    · omega
    · omega
  obtain ⟨v, hcell⟩ := h j hlt hlast
  refine ⟨v, j, ?_, hlt, hlast⟩
  rw [hmod] at hcell
  rw [RingQueue.read, hcell]
  apply if_pos hle

/-- The element is put in the cell that a reader at index `i` looks at, though the reader is
behind: it laps the reader. -/
def Laps (q : RingQueue α size) (i : ℕ) : Prop :=
  i ≠ q.reserved ∧ i % size = q.reserved % size

instance (q : RingQueue α size) (i : ℕ) : Decidable (q.Laps i) :=
  inferInstanceAs (Decidable (_ ∧ _))

theorem unread_push_of_mod_eq {q : RingQueue α size} {i : ℕ} (hi : i ≤ q.reserved)
    (hmod : i % size = q.reserved % size) (v : α) :
  (q.push v).unread i = [v]
  := by
  have hread : (q.push v).read i = some (v, q.reserved + 1) := by
    have hcell : (q.push v).cells (i % size) = some (q.reserved, v) := by
      rw [hmod]
      exact Function.update_self ..
    rw [RingQueue.read, hcell]
    apply if_pos hi
  have hdone : (q.push v).read (q.reserved + 1) = none := read_eq_none (Nat.le_refl _)
  rw [unread_of_some hread, unread_of_none hdone]

/-- A reader that is lapped by an element reads nothing else any more. -/
theorem Laps.unread_push {q : RingQueue α size} {i : ℕ} (h : q.Laps i) (hi : i ≤ q.reserved)
    (v : α) :
  (q.push v).unread i = [v]
  := unread_push_of_mod_eq hi h.2 v

/-- A reader that is not lapped by an element reads it last. -/
theorem Filled.unread_push {q : RingQueue α size} (h : q.Filled) (hsize : 0 < size) {i : ℕ}
    (hi : i ≤ q.reserved) (hnot : ¬ q.Laps i) (v : α) :
  (q.push v).unread i = q.unread i ++ [v]
  := by
  rcases Nat.eq_or_lt_of_le hi with rfl | hlt
  · rw [unread_push_of_mod_eq hi rfl, unread_of_none (read_eq_none hi), List.nil_append]
  · have hmod : i % size ≠ q.reserved % size := fun hmod => hnot ⟨Nat.ne_of_lt hlt, hmod⟩
    obtain ⟨w, j, hread, hj, hlast⟩ := h.read hsize hlt
    have hread' : (q.push v).read i = some (w, j + 1) := by
      rw [← hread, RingQueue.read, RingQueue.read]
      have hcell : (q.push v).cells (i % size) = q.cells (i % size) :=
        Function.update_of_ne hmod ..
      rw [hcell]
    have hnot' : ¬ q.Laps (j + 1) := by
      rintro ⟨hne, heq⟩
      have := add_size_le (by omega) heq
      omega
    have := (read_eq_some hread).2.1
    rw [unread_of_some hread', unread_of_some hread, h.unread_push hsize (by omega) hnot',
      List.cons_append]
termination_by q.reserved - i

end RingQueue

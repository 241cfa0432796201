import Mathlib.Algebra.Order.Ring.Nat
import Mathlib.Data.List.Basic

/-!
# Memory

Memory is a byte at each address. Bytes are replaced a range at a time (`fill`); numbers of
a fixed width are stored with the least significant byte first, and a C string is the bytes
before the first zero byte.
-/

/-- A byte at each address. -/
abbrev Memory : Type := ℕ → UInt8

namespace Memory

/-- The memory with the `n` bytes from `a` on replaced by those given by their offsets. -/
def fill (m : Memory) (a n : ℕ) (bytes : ℕ → UInt8) : Memory :=
  fun x => if a ≤ x ∧ x < a + n then bytes (x - a) else m x

theorem fill_inside {m : Memory} {a n x : ℕ} (bytes : ℕ → UInt8) (hle : a ≤ x) (hlt : x < a + n) :
  m.fill a n bytes x = bytes (x - a)
  := if_pos ⟨hle, hlt⟩

theorem fill_outside {m : Memory} {a n x : ℕ} (bytes : ℕ → UInt8) (h : x < a ∨ a + n ≤ x) :
  m.fill a n bytes x = m x
  := by
  apply if_neg
  rintro ⟨hle, hlt⟩
  omega

/-! ### Numbers -/

/-- The number in the `k` bytes from `a` on. -/
def readNat (m : Memory) (a : ℕ) : ℕ → ℕ
  | 0 => 0
  | k + 1 => (m a).toNat + 256 * m.readNat (a + 1) k

/-- The bytes of a number, by their offsets. -/
def digit (v k : ℕ) : UInt8 := UInt8.ofNat (v / 256 ^ k)

/-- The memory with a number stored in the `k` bytes from `a` on. -/
def writeNat (m : Memory) (a k v : ℕ) : Memory := m.fill a k (digit v)

theorem readNat_congr {m m' : Memory} {a k : ℕ} (h : ∀ x, a ≤ x → x < a + k → m x = m' x) :
  m.readNat a k = m'.readNat a k
  := by
  induction k generalizing a with
  | zero => rfl
  | succ k ih =>
      rw [readNat, readNat, h a (Nat.le_refl a) (by omega)]
      rw [ih]
      intro x hle hlt
      apply h x
      · omega
      · omega

/-- Reading digits gives the number, as far as it has so many. -/
theorem readNat_digits {m : Memory} {a k : ℕ} :
  ∀ v, (∀ i < k, m (a + i) = digit v i) → m.readNat a k = v % 256 ^ k
  := by
  induction k generalizing a with
  | zero =>
      intro v _
      rw [readNat, pow_zero, Nat.mod_one]
  | succ k ih =>
      intro v h
      have hfirst : (m a).toNat = v % 256 := by
        have h0 := h 0 (Nat.succ_pos k)
        rw [Nat.add_zero] at h0
        rw [h0, digit, pow_zero, Nat.div_one]
        apply UInt8.toNat_ofNat'
      have hrest : ∀ i < k, m (a + 1 + i) = digit (v / 256) i := by
        intro i hi
        have hnext := h (i + 1) (Nat.succ_lt_succ hi)
        rw [digit, Nat.div_div_eq_div_mul, ← pow_succ']
        rw [← Nat.add_assoc, Nat.add_right_comm] at hnext
        exact hnext
      rw [readNat, ih _ hrest, hfirst, pow_succ', Nat.mod_mul]

/-- A number is read as it was written. -/
theorem readNat_writeNat (m : Memory) (a : ℕ) {k v : ℕ} (hv : v < 256 ^ k) :
  (m.writeNat a k v).readNat a k = v
  := by
  rw [readNat_digits v, Nat.mod_eq_of_lt hv]
  intro i hi
  rw [writeNat, fill_inside _ (Nat.le_add_right a i) (by omega), Nat.add_sub_cancel_left]

/-- The bytes are the digits of the number in them. -/
theorem digit_readNat {m : Memory} {a i k : ℕ} (hi : i < k) :
  digit (m.readNat a k) i = m (a + i)
  := by
  induction k generalizing a i with
  | zero => exact absurd hi (Nat.not_lt_zero i)
  | succ k ih =>
      have hbyte := (m a).toNat_lt
      rw [readNat]
      cases i with
      | zero =>
          apply UInt8.toNat.inj
          rw [digit, pow_zero, Nat.div_one, UInt8.toNat_ofNat', Nat.add_zero a]
          omega
      | succ i =>
          have hrest : ((m a).toNat + 256 * m.readNat (a + 1) k) / 256 = m.readNat (a + 1) k := by
            omega
          rw [digit, pow_succ', ← Nat.div_div_eq_div_mul, hrest, ← Nat.add_assoc,
            Nat.add_right_comm]
          apply ih (Nat.lt_of_succ_lt_succ hi)

theorem readNat_lt (m : Memory) (a k : ℕ) :
  m.readNat a k < 256 ^ k
  := by
  induction k generalizing a with
  | zero => exact Nat.zero_lt_one
  | succ k ih =>
      have hbyte := (m a).toNat_lt
      have hrest := ih (a + 1)
      rw [readNat, pow_succ]
      omega

/-- A number is read exactly where its digits are. -/
theorem readNat_eq_iff {m : Memory} {a k v : ℕ} (hv : v < 256 ^ k) :
  m.readNat a k = v ↔ ∀ i < k, m (a + i) = digit v i
  := by
  constructor
  · rintro rfl i hi
    exact (digit_readNat hi).symm
  · intro h
    rw [readNat_digits v h, Nat.mod_eq_of_lt hv]

def readU32 (m : Memory) (a : ℕ) : UInt32 := UInt32.ofNat (m.readNat a 4)

theorem toNat_readU32 (m : Memory) (a : ℕ) :
  (m.readU32 a).toNat = m.readNat a 4
  := UInt32.toNat_ofNat_of_lt' (m.readNat_lt a 4)

def readU64 (m : Memory) (a : ℕ) : UInt64 := UInt64.ofNat (m.readNat a 8)

def writeU64 (m : Memory) (a : ℕ) (v : UInt64) : Memory := m.writeNat a 8 v.toNat

theorem readU64_congr {m m' : Memory} {a : ℕ} (h : ∀ x, a ≤ x → x < a + 8 → m x = m' x) :
  m.readU64 a = m'.readU64 a
  := by rw [readU64, readU64, readNat_congr h]

@[simp]
theorem readU64_writeU64 (m : Memory) (a : ℕ) (v : UInt64) :
  (m.writeU64 a v).readU64 a = v
  := by
  rw [readU64, writeU64, readNat_writeNat m a v.toNat_lt, UInt64.ofNat_toNat]

theorem writeU64_outside {m : Memory} {a x : ℕ} (v : UInt64) (h : x < a ∨ a + 8 ≤ x) :
  m.writeU64 a v x = m x
  := fill_outside _ h

/-- A number is read as before, when one was written beside it. -/
theorem readU64_writeU64_of_disjoint {m : Memory} {a b : ℕ} (v : UInt64)
    (h : b + 8 ≤ a ∨ a + 8 ≤ b) :
  (m.writeU64 a v).readU64 b = m.readU64 b
  := by
  apply readU64_congr
  intro x hle hlt
  apply writeU64_outside
  omega

/-! ### Strings -/

/-- The bytes from `a` on before the first zero byte, or `n` bytes if there is none. -/
def cString (m : Memory) (a : ℕ) : ℕ → List UInt8
  | 0 => []
  | n + 1 => if m a = 0 then [] else m a :: m.cString (a + 1) n

/-- A string depends on as many bytes as it has, and the one that ends it. -/
theorem cString_congr {m m' : Memory} {a n k : ℕ} {s : List UInt8}
    (h : ∀ x, a ≤ x → x < a + k → m x = m' x) (hs : s.length < k) (hm : m.cString a n = s) :
  m'.cString a n = s
  := by
  induction n generalizing a k s with
  | zero => exact hm
  | succ n ih =>
      rw [cString, h a (Nat.le_refl a) (by omega)] at hm
      rw [cString]
      split at hm
      case isTrue hend => rw [if_pos hend, hm]
      case isFalse hend =>
        subst hm
        rw [if_neg hend]
        congr 1
        apply ih (k := k - 1) _ _ rfl
        · intro x hle hlt
          apply h x
          · omega
          · omega
        · rw [List.length_cons] at hs
          omega

end Memory

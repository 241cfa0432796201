import WebsocketProxy.Library.Memory

/-!
# Stores

A store writes consecutive bytes, and code that fills a record in is a list of stores, which
run in their order (`run`). A record that is set to zero first, and whose fields are written
apart from each other, holds each field as it was written, and zeros between them: this is
`Record`, and `record_run` says that stores which `Lay` it out leave it.
-/

/-- A write of consecutive bytes. -/
structure Store where
  address : ℕ
  bytes : List UInt8
deriving DecidableEq

namespace Store

/-- The store writes the byte at an address. -/
def Covers (s : Store) (x : ℕ) : Prop := s.address ≤ x ∧ x < s.address + s.bytes.length

instance (s : Store) (x : ℕ) : Decidable (s.Covers x) := inferInstanceAs (Decidable (_ ∧ _))

/-- Every byte the store writes is one of the `n` from `a` on. -/
def Within (s : Store) (a n : ℕ) : Prop := ∀ x, s.Covers x → a ≤ x ∧ x < a + n

/-- Two stores write no byte both. -/
def Apart (s t : Store) : Prop :=
  s.address + s.bytes.length ≤ t.address ∨ t.address + t.bytes.length ≤ s.address

theorem within_of_le {s : Store} {a n : ℕ} (hle : a ≤ s.address)
    (hend : s.address + s.bytes.length ≤ a + n) :
  s.Within a n
  := by
  rintro x ⟨hx, hlt⟩
  use hle.trans hx
  apply hlt.trans_le hend

/-- `n` bytes are set to zero. -/
def zero (a n : ℕ) : Store := ⟨a, List.replicate n 0⟩

/-- The stores set the `n` bytes from `a` on to zero, and write fields in them apart from each
other. -/
structure Lay (stores : List Store) (a n : ℕ) : Prop where
  zeroed : stores.head? = some (zero a n)
  apart : stores.tail.Pairwise Apart
  within : ∀ s ∈ stores.tail, a ≤ s.address ∧ s.address + s.bytes.length ≤ a + n

/-- Stores that lay out a record write in its bytes only. -/
theorem Lay.all_within {stores : List Store} {a n : ℕ} (h : Lay stores a n) :
  ∀ s ∈ stores, s.Within a n
  := by
  obtain ⟨hzeroed, -, hwithin⟩ := h
  cases stores with
  | nil => cases hzeroed
  | cons t fields =>
      intro s hs
      rcases List.mem_cons.mp hs with rfl | hs
      · obtain rfl := Option.some.inj hzeroed
        apply within_of_le (Nat.le_refl a)
        rw [zero, List.length_replicate]
      · obtain ⟨hle, hend⟩ := hwithin s hs
        apply within_of_le hle hend

/-! ### Stores of numbers -/

def byte (a : ℕ) (v : UInt8) : Store := ⟨a, [v]⟩

/-- The bytes of a number are written, the least significant one first. -/
def nat (a k v : ℕ) : Store := ⟨a, (List.range k).map (Memory.digit v)⟩

theorem nat_getD {a i k v : ℕ} (hi : i < k) :
  (nat a k v).bytes.getD i 0 = Memory.digit v i
  := by
  have hlength : i < (nat a k v).bytes.length := by
    rw [nat, List.length_map, List.length_range]
    exact hi
  rw [← List.getElem_eq_getD (h := hlength)]
  simp only [nat, List.getElem_map, List.getElem_range]

def u32 (a : ℕ) (v : UInt32) : Store := nat a 4 v.toNat

def u64 (a : ℕ) (v : UInt64) : Store := nat a 8 v.toNat

@[simp]
theorem byte_address (a : ℕ) (v : UInt8) : (byte a v).address = a := rfl

@[simp]
theorem byte_length (a : ℕ) (v : UInt8) : (byte a v).bytes.length = 1 := rfl

@[simp]
theorem u32_address (a : ℕ) (v : UInt32) : (u32 a v).address = a := rfl

@[simp]
theorem u32_length (a : ℕ) (v : UInt32) : (u32 a v).bytes.length = 4 := rfl

@[simp]
theorem u64_address (a : ℕ) (v : UInt64) : (u64 a v).address = a := rfl

@[simp]
theorem u64_length (a : ℕ) (v : UInt64) : (u64 a v).bytes.length = 8 := rfl

end Store

namespace Memory

/-- The memory with the bytes of a store written. -/
def store (m : Memory) (s : Store) : Memory :=
  m.fill s.address s.bytes.length fun i => s.bytes.getD i 0

/-- The memory after stores, in their order. -/
def run (m : Memory) (stores : List Store) : Memory := stores.foldl store m

/-- The bytes from `a` on are the given ones. -/
def Holds (m : Memory) (a : ℕ) (bytes : List UInt8) : Prop :=
  ∀ i (h : i < bytes.length), m (a + i) = bytes[i]

/-- Two memories have the same `n` bytes from `a` on. -/
def Agree (m m' : Memory) (a n : ℕ) : Prop := ∀ x, a ≤ x → x < a + n → m x = m' x

/-! ### Reading what is held -/

theorem Holds.byte {m : Memory} {a : ℕ} {v : UInt8} (h : m.Holds a [v]) :
  m a = v
  := h 0 Nat.zero_lt_one

theorem Holds.readNat {m : Memory} {a k v : ℕ} (h : m.Holds a (Store.nat a k v).bytes)
    (hv : v < 256 ^ k) :
  m.readNat a k = v
  := by
  rw [readNat_digits v, Nat.mod_eq_of_lt hv]
  intro i hi
  have hlength : i < (Store.nat a k v).bytes.length := by
    rw [Store.nat, List.length_map, List.length_range]
    exact hi
  rw [h i hlength]
  simp only [Store.nat, List.getElem_map, List.getElem_range]

theorem Holds.readU32 {m : Memory} {a : ℕ} {v : UInt32} (h : m.Holds a (Store.u32 a v).bytes) :
  m.readU32 a = v
  := by rw [Memory.readU32, Holds.readNat h v.toNat_lt, UInt32.ofNat_toNat]

theorem Holds.readU64 {m : Memory} {a : ℕ} {v : UInt64} (h : m.Holds a (Store.u64 a v).bytes) :
  m.readU64 a = v
  := by rw [Memory.readU64, Holds.readNat h v.toNat_lt, UInt64.ofNat_toNat]

/-- Zero bytes are read as the number zero. -/
theorem readU64_blank {m : Memory} {a : ℕ} (h : ∀ x, a ≤ x → x < a + 8 → m x = 0) :
  m.readU64 a = 0
  := by
  apply Holds.readU64
  intro i hi
  rw [Store.u64_length] at hi
  rw [h _ (Nat.le_add_right a i) (Nat.add_lt_add_left hi a)]
  simp only [Store.u64, Store.nat, List.getElem_map, List.getElem_range, digit, UInt64.toNat_zero,
    Nat.zero_div]
  rfl

/-- A string is read as it is held, up to the zero byte behind it or to the end of its array. -/
theorem Holds.cString {m : Memory} {a n : ℕ} {s : List UInt8} (h : m.Holds a s) (hs : 0 ∉ s)
    (hend : s.length = n ∨ s.length < n ∧ m (a + s.length) = 0) :
  m.cString a n = s
  := by
  induction n generalizing a s with
  | zero =>
      rcases hend with hend | ⟨hlt, -⟩
      · exact (List.eq_nil_of_length_eq_zero hend).symm
      · exact absurd hlt (Nat.not_lt_zero _)
  | succ n ih =>
      cases s with
      | nil =>
          rcases hend with hend | ⟨-, hzero⟩
          · cases hend
          · rw [List.length_nil, Nat.add_zero] at hzero
            rw [Memory.cString, if_pos hzero]
      | cons b s =>
          have hb : m a = b := h 0 (Nat.succ_pos _)
          have hrest : m.Holds (a + 1) s := by
            intro i hi
            have hnext := h (i + 1) (Nat.succ_lt_succ hi)
            rw [← Nat.add_assoc, Nat.add_right_comm] at hnext
            exact hnext
          have hne : b ≠ 0 := by
            intro hzero
            apply hs
            rw [hzero]
            apply List.mem_cons_self
          rw [Memory.cString, hb, if_neg hne]
          congr 1
          apply ih hrest
          · intro hmem
            apply hs
            apply List.mem_cons_of_mem b hmem
          · rcases hend with hend | ⟨hlt, hzero⟩
            · apply Or.inl (Nat.succ.inj hend)
            · refine Or.inr ⟨Nat.lt_of_succ_lt_succ hlt, ?_⟩
              rw [List.length_cons, ← Nat.add_assoc, Nat.add_right_comm] at hzero
              exact hzero

/-! ### Running stores -/

theorem store_outside {m : Memory} {s : Store} {x : ℕ} (h : ¬ s.Covers x) :
  m.store s x = m x
  := if_neg h

/-- A store leaves the same byte where memory held the same. -/
theorem store_congr {m m' : Memory} {x : ℕ} (s : Store) (h : m x = m' x) :
  m.store s x = m'.store s x
  := by
  rw [store, store, fill, fill, h]

theorem store_holds (m : Memory) (s : Store) :
  (m.store s).Holds s.address s.bytes
  := by
  intro i hi
  rw [store, fill_inside _ (Nat.le_add_right _ _) (by omega), Nat.add_sub_cancel_left]
  exact (List.getElem_eq_getD 0).symm

/-- Where no store writes, memory stays as it was. -/
theorem run_outside {m : Memory} {stores : List Store} {x : ℕ} (h : ∀ s ∈ stores, ¬ s.Covers x) :
  m.run stores x = m x
  := by
  induction stores generalizing m with
  | nil => rfl
  | cons s stores ih =>
      rw [run, List.foldl_cons]
      refine (ih ?_).trans (store_outside (h s List.mem_cons_self))
      intro t ht
      apply h t (List.mem_cons_of_mem s ht)

/-- The last store that writes a byte leaves it. -/
theorem run_written {m : Memory} {before after : List Store} {s : Store} {x : ℕ} (hs : s.Covers x)
    (hafter : ∀ t ∈ after, ¬ t.Covers x) :
  m.run (before ++ s :: after) x = s.bytes.getD (x - s.address) 0
  := by
  rw [run, List.foldl_append, List.foldl_cons]
  apply (run_outside hafter).trans
  apply fill_inside _ hs.1 hs.2

/-- What a store has written is held after others that are apart from it. -/
theorem run_holds_of_after {m : Memory} {before after : List Store} {s : Store}
    (hafter : ∀ t ∈ after, s.Apart t) :
  (m.run (before ++ s :: after)).Holds s.address s.bytes
  := by
  intro i hi
  rw [run_written ⟨Nat.le_add_right _ i, Nat.add_lt_add_left hi _⟩, Nat.add_sub_cancel_left]
  · exact (List.getElem_eq_getD 0).symm
  · rintro t ht ⟨hle, hlt⟩
    rcases hafter t ht with happ | happ
    · omega
    · omega

/-- What stores apart from each other have written is held after the last of them. -/
theorem run_holds {m : Memory} {stores : List Store} (h : stores.Pairwise Store.Apart) {s : Store}
    (hs : s ∈ stores) :
  (m.run stores).Holds s.address s.bytes
  := by
  obtain ⟨before, after, rfl⟩ := List.append_of_mem hs
  obtain ⟨-, hpairs, -⟩ := List.pairwise_append.mp h
  apply run_holds_of_after
  exact (List.pairwise_cons.mp hpairs).1

/-! ### Records -/

/-- The `n` bytes from `a` on hold the given fields, and zeros where there is none. -/
structure Record (m : Memory) (a n : ℕ) (fields : List Store) : Prop where
  held : ∀ s ∈ fields, m.Holds s.address s.bytes
  blank : ∀ x, a ≤ x → x < a + n → (∀ s ∈ fields, ¬ s.Covers x) → m x = 0

/-- A record is that of its own bytes only. -/
theorem Record.congr {m m' : Memory} {a n : ℕ} {fields : List Store} (h : m.Record a n fields)
    (hwithin : ∀ s ∈ fields, s.Within a n) (hm : m.Agree m' a n) :
  m'.Record a n fields
  := by
  constructor
  · intro s hs i hi
    obtain ⟨hle, hlt⟩ := hwithin s hs (s.address + i) ⟨Nat.le_add_right _ _, by omega⟩
    rw [← hm _ hle hlt, h.held s hs i hi]
  · intro x hle hlt hx
    rw [← hm x hle hlt, h.blank x hle hlt hx]

/-- Stores that lay out a record leave it, whatever memory held before. -/
theorem record_run {m : Memory} {a n : ℕ} {stores : List Store} (h : Store.Lay stores a n) :
  (m.run stores).Record a n stores.tail
  := by
  obtain ⟨hzeroed, hapart, -⟩ := h
  cases stores with
  | nil => cases hzeroed
  | cons t fields =>
      obtain rfl := Option.some.inj hzeroed
      rw [run, List.foldl_cons]
      constructor
      · intro s hs
        apply run_holds hapart hs
      · intro x hle hlt hx
        refine (run_outside hx).trans ?_
        have hlength : x - a < (List.replicate n (0 : UInt8)).length := by
          rw [List.length_replicate]
          omega
        have hheld := store_holds m (.zero a n) (x - a) hlength
        simp only [Store.zero, Nat.add_sub_cancel' hle, List.getElem_replicate] at hheld
        exact hheld

end Memory

import WebsocketProxy.Library.ByteRing
import WebsocketProxy.Library.Stores

/-!
# Rings that are written store by store

`StoreRing size` is a ring of bytes together with what its writers do. A message is given bytes,
and its writer makes its stores one after the other, while other messages are given bytes and are
written. What was stored in a message is in its bytes until they are given out again
(`Sound.agree`), if every store is into the bytes of its own message, and is not made so late that
these were given out again.
-/

/-- A store into the bytes of a message writes them. -/
theorem ByteRing.write_store {size : ℕ} (q : ByteRing size) {r : ByteRange} {s : Store}
    (hs : s.Within (r.address size) r.length) :
  q.write r (fun i => q.memory.store s (r.address size + i))
    = { q with memory := q.memory.store s }
  := by
  rw [write]
  congr 1
  funext x
  rcases em (r.Covers size x) with hx | hx
  · rw [Memory.fill_inside _ hx.1 hx.2, Nat.add_sub_cancel' hx.1]
  · rw [Memory.store_outside fun hcovers => hx (hs x hcovers)]
    apply if_neg hx

/-- A ring of bytes, and the stores into its messages. -/
structure StoreRing (size : ℕ) extends ByteRing size where
  /-- The stores that were made into a message. -/
  made : ℕ → List Store := fun _ => []
  /-- The stores that its writer has still to make. -/
  left : ℕ → List Store := fun _ => []

namespace StoreRing

variable {size : ℕ}

/-- The ring with bytes given out for a message, and the stores of its writer. -/
def reserve [NeZero size] (q : StoreRing size) (length : ℕ) (h : length ≤ size)
    (stores : List Store) : StoreRing size :=
  { q with
    toByteRing := q.toByteRing.reserve length h
    left := Function.update q.left q.ranges.length stores }

/-- The ring with a store made into a message. -/
def write (q : StoreRing size) (k : ℕ) (s : Store) : StoreRing size :=
  { q with
    memory := q.memory.store s
    made := Function.update q.made k (q.made k ++ [s]) }

/-- The ring after the writer of a message made its next store. -/
def store (q : StoreRing size) (k : ℕ) : Option (StoreRing size) :=
  match q.left k with
  | s :: stores => some { q.write k s with left := Function.update q.left k stores }
  | [] => none

/-- Stores are into the bytes of their messages, and the bytes that are a message's own are as the
stores into it left them, whatever was there before. -/
structure Sound (q : StoreRing size) : Prop where
  unmade : ∀ k, q.ranges.length ≤ k → q.made k = []
  unused : ∀ k, q.ranges.length ≤ k → q.left k = []
  within : ∀ k, ∀ r ∈ q.ranges[k]?, ∀ s ∈ q.left k, s.Within (r.address size) r.length
  image : ∀ k, ∃ old : Memory, ∀ x, q.Owns k x → q.memory x = old.run (q.made k) x

/-- Nothing was written in a ring that no bytes were given out of. -/
theorem Sound.of_ranges {q : StoreRing size} (hranges : q.ranges = [])
    (hmade : ∀ k, q.made k = []) (hleft : ∀ k, q.left k = []) :
  q.Sound
  := by
  constructor
  · exact fun k _ => hmade k
  · exact fun k _ => hleft k
  · intro k r hr
    rw [hranges] at hr
    cases hr
  · intro k
    use q.memory
    rintro x ⟨⟨r, hr, -⟩, -⟩
    rw [hranges] at hr
    cases hr

variable {q q' : StoreRing size} {k : ℕ}

theorem Sound.reserve [NeZero size] (h : q.Sound) {length : ℕ} (hle : length ≤ size)
    {stores : List Store}
    (hstores : ∀ s ∈ stores, s.Within ((q.next length).address size) length) :
  (q.reserve length hle stores).Sound
  := by
  have hranges : (q.reserve length hle stores).ranges = q.ranges ++ [q.next length] := rfl
  constructor
  · intro k hk
    apply h.unmade k
    rw [hranges, List.length_append] at hk
    omega
  · intro k hk
    rw [hranges, List.length_append, List.length_singleton] at hk
    have hne : k ≠ q.ranges.length := by omega
    simp only [StoreRing.reserve, Function.update_of_ne hne]
    apply h.unused k (by omega)
  · intro k r hr s hs
    rw [hranges] at hr
    rcases Nat.lt_trichotomy k q.ranges.length with hlt | rfl | hgt
    · rw [List.getElem?_append_left hlt] at hr
      apply h.within k r hr s
      simpa only [StoreRing.reserve, Function.update_of_ne hlt.ne] using hs
    · rw [List.getElem?_append_right (Nat.le_refl _), Nat.sub_self] at hr
      obtain rfl := Option.some.inj hr
      apply hstores s
      simpa only [StoreRing.reserve, Function.update_self] using hs
    · rw [List.getElem?_eq_none] at hr
      · cases hr
      · rw [List.length_append]
        exact hgt
  · intro k
    rcases Nat.lt_or_ge k q.ranges.length with hlt | hge
    · obtain ⟨old, hold⟩ := h.image k
      use old
      exact fun x hx => hold x (ByteRing.Owns.of_reserve hle hx hlt)
    · -- nothing is stored in the new message yet
      use q.memory
      intro x _
      change q.memory x = q.memory.run (q.made k) x
      rw [h.unmade k hge]
      rfl

/-- A store into the bytes of a message that is not lapped leaves all others as they are. -/
theorem Sound.write (h : q.Sound) {r : ByteRange} (hr : q.ranges[k]? = some r)
    (hlapped : ¬ q.Lapped k) {s : Store} (hs : s.Within (r.address size) r.length) :
  (q.write k s).Sound
  := by
  constructor
  · intro j hj
    have hne : j ≠ k := by
      rintro rfl
      exact absurd (List.getElem?_eq_some_iff.mp hr).1 (Nat.not_lt_of_le hj)
    simp only [StoreRing.write, Function.update_of_ne hne]
    apply h.unmade j hj
  · exact h.unused
  · exact h.within
  · intro j
    obtain ⟨old, hold⟩ := h.image j
    use old
    intro x hx
    change q.memory.store s x = _
    rcases eq_or_ne k j with rfl | hne
    · simp only [StoreRing.write, Function.update_self]
      rw [Memory.run, List.foldl_append]
      apply Memory.store_congr s (hold x hx)
    · simp only [StoreRing.write, Function.update_of_ne hne.symm]
      rw [← hold x hx]
      apply Memory.store_outside
      intro hcovers
      exact ByteRing.Owns.not_covers hx hne hr hlapped (hs x hcovers)

/-- Whatever is written into the bytes of a message that is not lapped, leaves all others as they
are. -/
theorem Sound.fill (h : q.Sound) {r : ByteRange} (hr : q.ranges[k]? = some r)
    (hlapped : ¬ q.Lapped k) {m : Memory} (hm : ∀ x, ¬ r.Covers size x → m x = q.memory x) :
  ∃ made, { q with memory := m, made }.Sound ∧ ∀ j ≠ k, made j = q.made j
  := by
  let s : Store := ⟨r.address size, (List.range r.length).map fun i => m (r.address size + i)⟩
  have hlength : s.bytes.length = r.length := by
    simp only [s, List.length_map, List.length_range]
  have hstore : q.memory.store s = m := by
    funext x
    rcases em (s.Covers x) with hx | hx
    · obtain ⟨hle, hlt⟩ := hx
      have hi : x - s.address < s.bytes.length := by omega
      rw [Memory.store, Memory.fill_inside _ hle hlt, ← List.getElem_eq_getD (h := hi)]
      simp only [s, List.getElem_map, List.getElem_range, Nat.add_sub_cancel' hle]
    · rw [Memory.store_outside hx]
      symm
      apply hm
      rintro ⟨hle, hlt⟩
      apply hx ⟨hle, hlength.symm ▸ hlt⟩
  refine ⟨(q.write k s).made, ?_, ?_⟩
  · have hwrite := h.write hr hlapped (s := s)
      (Store.within_of_le (Nat.le_refl _) (Nat.le_of_eq (congrArg _ hlength)))
    rw [← hstore]
    exact hwrite
  · intro j hne
    exact Function.update_of_ne hne ..

theorem store_eq_some :
  q.store k = some q' ↔ ∃ s stores, q.left k = s :: stores ∧
    { q.write k s with left := Function.update q.left k stores } = q'
  := by
  unfold store
  cases q.left k with
  | nil => simp
  | cons s stores =>
      constructor
      · intro h
        exact ⟨s, stores, rfl, Option.some.inj h⟩
      · rintro ⟨_, _, ⟨⟩, rfl⟩
        rfl

/-- Only writers of messages make stores. -/
theorem Sound.lt_of_left (h : q.Sound) {s : Store} {stores : List Store}
    (hleft : q.left k = s :: stores) :
  k < q.ranges.length
  := by
  by_contra hge
  rw [h.unused k (Nat.le_of_not_lt hge)] at hleft
  cases hleft

/-- The next store of a writer, if it does not come a round late. -/
theorem Sound.store (h : q.Sound) (hlapped : ¬ q.Lapped k) (hstore : q.store k = some q') :
  q'.Sound
  := by
  obtain ⟨s, stores, hleft, rfl⟩ := store_eq_some.mp hstore
  have hk := h.lt_of_left hleft
  have hr := List.getElem?_eq_getElem hk
  have hwrite := h.write hr hlapped (h.within k _ hr s (by rw [hleft]; exact List.mem_cons_self))
  constructor
  · exact hwrite.unmade
  · intro j hj
    have hne : j ≠ k := by
      rintro rfl
      exact absurd hk (Nat.not_lt_of_le hj)
    simp only [Function.update_of_ne hne]
    apply h.unused j hj
  · intro j r' hr' s' hs'
    apply h.within j r' hr' s'
    rcases eq_or_ne j k with rfl | hne
    · simp only [Function.update_self] at hs'
      rw [hleft]
      apply List.mem_cons_of_mem s hs'
    · simpa only [Function.update_of_ne hne] using hs'
  · exact hwrite.image

/-- A message that is not lapped is in memory as the stores into it left it. -/
theorem Sound.agree (h : q.Sound) {r : ByteRange} (hr : q.ranges[k]? = some r)
    (hlapped : ¬ q.Lapped k) :
  ∃ old : Memory, (old.run (q.made k)).Agree q.memory (r.address size) r.length
  := by
  obtain ⟨old, hold⟩ := h.image k
  use old
  intro x hx hlt
  symm
  apply hold x
  apply ByteRing.owns_of_round hr (ByteRing.round_of_not_lapped hlapped hr)
  exact ⟨hx, hlt⟩

end StoreRing

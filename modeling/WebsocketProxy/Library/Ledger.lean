import Mathlib.Logic.Function.Basic
import Mathlib.Tactic.Common

/-!
# Ledgers of requests

Requests are taken one after the other, and numbered in that order. A request is answered
when it is taken, or handed to a worker who answers it later. `Ledger` keeps the answers of
each request, and the request each worker has to answer.

In a valid ledger every worker has a request of its own, which was not answered. `Settled`
requests are those with exactly one answer, or with a worker; taking requests and finishing
them keeps requests settled.
-/

universe u v

/-- The answers of requests, and the requests of workers. -/
structure Ledger (ω : Type u) (α : Type v) where
  /-- The number of requests taken. -/
  taken : ℕ
  answers : ℕ → List α
  /-- The request a worker has to answer. -/
  pending : ω → Option ℕ

namespace Ledger

variable {ω : Type u} {α : Type v}

/-- The next request is taken, and answered as given. -/
def take (d : Ledger ω α) (answers : List α) : Ledger ω α :=
  { d with
    taken := d.taken + 1
    answers := Function.update d.answers d.taken (d.answers d.taken ++ answers) }

variable [DecidableEq ω]

/-- The next request is taken, and handed to a worker. -/
def defer (d : Ledger ω α) (w : ω) : Ledger ω α :=
  { d with taken := d.taken + 1, pending := Function.update d.pending w (some d.taken) }

/-- A worker answers a request, and is done. -/
def finish (d : Ledger ω α) (w : ω) (n : ℕ) (a : α) : Ledger ω α :=
  { d with
    answers := Function.update d.answers n (d.answers n ++ [a])
    pending := Function.update d.pending w none }

omit [DecidableEq ω] in
/-- Answers stay when a request is taken. -/
theorem take_answers (d : Ledger ω α) (answers : List α) (n : ℕ) :
  ∃ news, (d.take answers).answers n = d.answers n ++ news
  := by
  rcases eq_or_ne n d.taken with rfl | hne
  · use answers
    exact Function.update_self ..
  · use []
    exact (Function.update_of_ne hne ..).trans (List.append_nil _).symm

/-- Answers stay when a worker is done. -/
theorem finish_answers (d : Ledger ω α) (w : ω) (m : ℕ) (a : α) (n : ℕ) :
  ∃ news, (d.finish w m a).answers n = d.answers n ++ news
  := by
  rcases eq_or_ne n m with rfl | hne
  · use [a]
    exact Function.update_self ..
  · use []
    exact (Function.update_of_ne hne ..).trans (List.append_nil _).symm

/-- Workers have requests of their own, which were taken and not answered. -/
structure Valid (d : Ledger ω α) : Prop where
  lt_taken : ∀ {w n}, d.pending w = some n → n < d.taken
  unanswered : ∀ {w n}, d.pending w = some n → d.answers n = []
  unique : ∀ {w w' n}, d.pending w = some n → d.pending w' = some n → w = w'
  fresh : ∀ {n}, d.taken ≤ n → d.answers n = []

/-- The request has one answer, of the given kind, or a worker to answer it. -/
def Settled (d : Ledger ω α) (P : α → Prop) (n : ℕ) : Prop :=
  (∃ a, P a ∧ d.answers n = [a]) ∨ (d.answers n = [] ∧ ∃ w, d.pending w = some n)

/-! ### Ledgers stay valid -/

omit [DecidableEq ω] in
theorem Valid.take {d : Ledger ω α} (hd : d.Valid) (answers : List α) :
  (d.take answers).Valid
  := by
  constructor
  · intro w n hw
    apply Nat.lt_succ_of_lt (hd.lt_taken hw)
  · intro w n hw
    have hne : n ≠ d.taken := Nat.ne_of_lt (hd.lt_taken hw)
    exact (Function.update_of_ne hne ..).trans (hd.unanswered hw)
  · exact hd.unique
  · intro n hn
    have hne : n ≠ d.taken := Nat.ne_of_gt hn
    exact (Function.update_of_ne hne ..).trans (hd.fresh (Nat.le_of_succ_le hn))

theorem Valid.defer {d : Ledger ω α} (hd : d.Valid) (w : ω) :
  (d.defer w).Valid
  := by
  have hpending : ∀ {w' n}, (d.defer w).pending w' = some n →
      w' = w ∧ n = d.taken ∨ w' ≠ w ∧ d.pending w' = some n := by
    intro w' n hw'
    rcases eq_or_ne w' w with rfl | hne
    · left
      simp only [Ledger.defer, Function.update_self, Option.some.injEq] at hw'
      use rfl, hw'.symm
    · right
      simp only [Ledger.defer, Function.update_of_ne hne] at hw'
      use hne
  constructor
  · intro w' n hw'
    rcases hpending hw' with ⟨-, rfl⟩ | ⟨-, hw'⟩
    · apply Nat.lt_succ_self _
    · apply Nat.lt_succ_of_lt (hd.lt_taken hw')
  · intro w' n hw'
    rcases hpending hw' with ⟨-, rfl⟩ | ⟨-, hw'⟩
    · apply hd.fresh (Nat.le_refl _)
    · apply hd.unanswered hw'
  · intro w₁ w₂ n h₁ h₂
    rcases hpending h₁ with ⟨rfl, rfl⟩ | ⟨-, h₁⟩
    · rcases hpending h₂ with ⟨rfl, -⟩ | ⟨-, h₂⟩
      · rfl
      · exact absurd (hd.lt_taken h₂) (Nat.lt_irrefl _)
    · rcases hpending h₂ with ⟨-, rfl⟩ | ⟨-, h₂⟩
      · exact absurd (hd.lt_taken h₁) (Nat.lt_irrefl _)
      · apply hd.unique h₁ h₂
  · intro n hn
    apply hd.fresh (Nat.le_of_succ_le hn)

theorem Valid.finish {d : Ledger ω α} (hd : d.Valid) {w : ω} {n : ℕ}
    (hw : d.pending w = some n) (a : α) :
  (d.finish w n a).Valid
  := by
  have hpending : ∀ {w' n'}, (d.finish w n a).pending w' = some n' →
      d.pending w' = some n' ∧ n' ≠ n := by
    intro w' n' hw'
    rcases eq_or_ne w' w with rfl | hne
    · simp only [Ledger.finish, Function.update_self] at hw'
      cases hw'
    · simp only [Ledger.finish, Function.update_of_ne hne] at hw'
      use hw'
      rintro rfl
      apply hne (hd.unique hw' hw)
  constructor
  · intro w' n' hw'
    apply hd.lt_taken (hpending hw').1
  · intro w' n' hw'
    obtain ⟨hw', hne⟩ := hpending hw'
    exact (Function.update_of_ne hne ..).trans (hd.unanswered hw')
  · intro w₁ w₂ n' h₁ h₂
    apply hd.unique (hpending h₁).1 (hpending h₂).1
  · intro n' hn'
    have hne : n' ≠ n := Nat.ne_of_gt (Nat.lt_of_lt_of_le (hd.lt_taken hw) hn')
    exact (Function.update_of_ne hne ..).trans (hd.fresh hn')

/-! ### Requests stay settled -/

omit [DecidableEq ω] in
theorem Settled.take {d : Ledger ω α} {P : α → Prop} {n : ℕ} (h : d.Settled P n)
    (hn : n < d.taken) (answers : List α) :
  (d.take answers).Settled P n
  := by
  have hsame : (d.take answers).answers n = d.answers n :=
    Function.update_of_ne (Nat.ne_of_lt hn) ..
  unfold Settled
  rw [hsame]
  exact h

theorem Settled.defer {d : Ledger ω α} {P : α → Prop} {n : ℕ} (h : d.Settled P n)
    {w : ω} (hw : d.pending w = none) :
  (d.defer w).Settled P n
  := by
  rcases h with hanswered | ⟨hanswers, w', hw'⟩
  · apply Or.inl hanswered
  · right
    use hanswers, w'
    have hne : w' ≠ w := by
      rintro rfl
      rw [hw] at hw'
      cases hw'
    exact (Function.update_of_ne hne ..).trans hw'

theorem Settled.finish {d : Ledger ω α} (hd : d.Valid) {P : α → Prop} {n m : ℕ}
    (h : d.Settled P n) {w : ω} (hw : d.pending w = some m) {a : α} (ha : P a) :
  (d.finish w m a).Settled P n
  := by
  rcases eq_or_ne n m with rfl | hne
  · left
    use a, ha
    simp only [Ledger.finish, Function.update_self, hd.unanswered hw]
    rfl
  · have hsame : (d.finish w m a).answers n = d.answers n := Function.update_of_ne hne ..
    unfold Settled
    rw [hsame]
    rcases h with hanswered | ⟨hanswers, w', hw'⟩
    · apply Or.inl hanswered
    · right
      use hanswers, w'
      have hne' : w' ≠ w := by
        rintro rfl
        rw [hw] at hw'
        apply hne (Option.some.inj hw').symm
      exact (Function.update_of_ne hne' ..).trans hw'

omit [DecidableEq ω] in
/-- A request that is answered when it is taken is settled. -/
theorem Valid.settled_take {d : Ledger ω α} (hd : d.Valid) {P : α → Prop} {a : α} (ha : P a) :
  (d.take [a]).Settled P d.taken
  := by
  left
  use a, ha
  simp only [Ledger.take, Function.update_self, hd.fresh (Nat.le_refl _)]
  rfl

/-- A request that is handed to a worker is settled. -/
theorem Valid.settled_defer {d : Ledger ω α} (hd : d.Valid) (P : α → Prop) (w : ω) :
  (d.defer w).Settled P d.taken
  := by
  right
  use hd.fresh (Nat.le_refl _), w
  exact Function.update_self ..

end Ledger

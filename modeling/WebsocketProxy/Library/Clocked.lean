import Mathlib.Data.Nat.Notation
import WebsocketProxy.Library.Transition

/-!
# Transition systems with a clock

`clocked S readings` is the transition system `S` with a clock that is never put back. The steps
of `S` read it: `readings s e t` is what it shows in the step of `e` from `s` to `t`. An event is
an event of `S` and the time at the end of its step. Time can pass in any step, so a condition on
the runs that bounds the time bounds how long the system can do without a step.
-/

universe u v

/-- A state, and the time. -/
structure Clocked (σ : Type u) where
  state : σ
  time : ℕ := 0

namespace TransitionSystem

variable {σ : Type u} {ε : Type v} {S : TransitionSystem σ ε} {readings : σ → ε → σ → List ℕ}

/-- From the time `start` to the time `stop` the clock can show `times`. -/
structure Shows (start stop : ℕ) (times : List ℕ) : Prop where
  le : start ≤ stop
  ge_start : ∀ time ∈ times, start ≤ time
  le_stop : ∀ time ∈ times, time ≤ stop

instance (start stop : ℕ) (times : List ℕ) : Decidable (Shows start stop times) :=
  decidable_of_iff
    (start ≤ stop ∧ (∀ time ∈ times, start ≤ time) ∧ ∀ time ∈ times, time ≤ stop)
    ⟨fun h => ⟨h.1, h.2.1, h.2.2⟩, fun h => ⟨h.le, h.ge_start, h.le_stop⟩⟩

variable (S readings) in
/-- The transition system `S` with a clock, the steps of which read it. -/
def clocked : TransitionSystem (Clocked σ) (ε × ℕ) where
  initial c := S.initial c.state
  step c e := (S.step c.state e.1).bind fun t =>
    if Shows c.time e.2 (readings c.state e.1 t) then some { state := t, time := e.2 } else none

/-- A step with a clock is a step, in which the clock shows what is read. -/
theorem clocked_step {c c' : Clocked σ} {e : ε × ℕ} (h : (S.clocked readings).step c e = some c') :
  S.step c.state e.1 = some c'.state ∧ c'.time = e.2 ∧
    Shows c.time c'.time (readings c.state e.1 c'.state)
  := by
  obtain ⟨t, ht, h⟩ := Option.bind_eq_some_iff.mp h
  split at h
  case isTrue hshows =>
    obtain rfl := Option.some.inj h
    exact ⟨ht, rfl, hshows⟩
  case isFalse => cases h

/-- What is reached with a clock is reached without. -/
theorem ReachableUnder.clocked {guard : Clocked σ → ε × ℕ → Prop} {c : Clocked σ}
    (h : (S.clocked readings).ReachableUnder guard c) :
  S.Reachable c.state
  := h.map Clocked.state Prod.fst (fun _ hc => hc) (fun _ _ _ hstep => (clocked_step hstep).1)

end TransitionSystem

import WebsocketProxy.Library.Transition

/-!
# Observed transition systems

`observed S first note` is the transition system `S` with an observer, who takes notes of its
steps. The notes do not change what the system does: a run of one is a run of the other.
-/

universe u v w

/-- A state, and the notes of an observer. -/
structure Observed (σ : Type u) (γ : Type v) where
  state : σ
  notes : γ

namespace TransitionSystem

variable {σ : Type u} {ε : Type v} {γ : Type w} {S : TransitionSystem σ ε} {first : γ}
  {note : σ → ε → σ → γ → γ}

variable (S first note) in
/-- The transition system `S`, with an observer who starts with the notes `first`; from the notes
before a step `note` makes those after it. -/
def observed : TransitionSystem (Observed σ γ) ε where
  initial w := S.initial w.state ∧ w.notes = first
  step w e := (S.step w.state e).map fun t => ⟨t, note w.state e t w.notes⟩

/-- A step with an observer is a step. -/
theorem observed_step {w w' : Observed σ γ} {e : ε} :
  (S.observed first note).step w e = some w' ↔
    S.step w.state e = some w'.state ∧ w'.notes = note w.state e w'.state w.notes
  := by
  constructor
  · intro h
    obtain ⟨t, ht, rfl⟩ := Option.map_eq_some_iff.mp h
    exact ⟨ht, rfl⟩
  · rintro ⟨hstep, hnotes⟩
    apply Option.map_eq_some_iff.mpr
    use w'.state, hstep
    rw [← hnotes]

/-- What is reached with an observer is reached without. -/
theorem ReachableUnder.observed {guard : Observed σ γ → ε → Prop} {w : Observed σ γ}
    (h : (S.observed first note).ReachableUnder guard w) :
  S.Reachable w.state
  := h.map Observed.state id (fun _ hw => hw.1) (fun _ _ _ hstep => (observed_step.mp hstep).1)

end TransitionSystem

import Mathlib.Data.Nat.Init
import Mathlib.Tactic.Common
import WebsocketProxy.Library.Transition

/-!
# Behaviours and fairness

A behaviour is a run without end: at every instant one event is performed, or none. What holds
in all runs holds at every instant of a behaviour. What happens in the end depends on fairness:
events that can be performed from some instant on are not put off forever.

`LeadsTo P Q` says that whenever `P` holds, `Q` holds then or later. It is shown from a fair set
of events by `leadsTo_of_fair`, from a measure that goes down by `leadsTo_of_rank`, and from both
by `leadsTo_of_decreases`; with `LeadsTo.unless` it is combined with what stays.
-/

universe u v

namespace TransitionSystem

variable {σ : Type u} {ε : Type v}

/-- A run without end from `s`, every step of which meets `guard`. At an instant with no event
the state stays. -/
structure Behaviour (S : TransitionSystem σ ε) (guard : σ → ε → Prop) (s : σ) where
  state : ℕ → σ
  event : ℕ → Option ε
  start : state 0 = s
  quiet : ∀ i, event i = none → state (i + 1) = state i
  step : ∀ i, ∀ e ∈ event i, guard (state i) e ∧ S.step (state i) e = some (state (i + 1))

/-- An event of `A` can be performed. -/
def Enabled (S : TransitionSystem σ ε) (A : ε → Prop) (s : σ) : Prop :=
  ∃ e t, A e ∧ S.step s e = some t

/-- The states that a run goes through. -/
theorem RunUnder.exists_states {S : TransitionSystem σ ε} {guard : σ → ε → Prop} {s t : σ}
    {es : List ε} (h : S.RunUnder guard s es t) :
  ∃ state : ℕ → σ, state 0 = s ∧ state es.length = t ∧
    ∀ i, ∀ e ∈ es[i]?, guard (state i) e ∧ S.step (state i) e = some (state (i + 1))
  := by
  induction h with
  | nil => exact ⟨fun _ => s, rfl, rfl, fun i e he => by cases he⟩
  | @snoc es t e u _ hguard hstep ih =>
      obtain ⟨state, hfirst, hlast, hsteps⟩ := ih
      refine ⟨fun i => if i ≤ es.length then state i else u, ?_, ?_, ?_⟩
      · exact (if_pos (Nat.zero_le _)).trans hfirst
      · rw [List.length_append, List.length_singleton]
        apply if_neg (Nat.not_succ_le_self _)
      · intro i e' he'
        dsimp only
        rcases Nat.lt_trichotomy i es.length with hlt | rfl | hlt
        · rw [List.getElem?_append_left hlt] at he'
          rw [if_pos (Nat.le_of_lt hlt), if_pos (Nat.succ_le_of_lt hlt)]
          apply hsteps i e' he'
        · rw [List.getElem?_concat_length] at he'
          obtain rfl := Option.some.inj he'
          rw [if_pos (Nat.le_refl _), if_neg (Nat.not_succ_le_self _), hlast]
          exact ⟨hguard, hstep⟩
        · have hpast : (es ++ [e])[i]? = none := by
            apply List.getElem?_eq_none
            rw [List.length_append, List.length_singleton]
            apply Nat.succ_le_of_lt hlt
          rw [hpast] at he'
          cases he'

namespace Behaviour

variable {S : TransitionSystem σ ε} {guard : σ → ε → Prop} {s : σ} (b : S.Behaviour guard s)

/-- The events of `A` are not put off forever, if from some instant on they can be performed. -/
def Fair (A : ε → Prop) : Prop :=
  ∀ i, (∀ j, i ≤ j → S.Enabled A (b.state j)) → ∃ j, i ≤ j ∧ ∃ e ∈ b.event j, A e

/-- Whenever `P` holds, `Q` holds then or later. -/
def LeadsTo (P Q : σ → Prop) : Prop :=
  ∀ i, P (b.state i) → ∃ j, i ≤ j ∧ Q (b.state j)

/-- `P` is kept in every step that does not lead to `Q`. -/
def Unless (P Q : σ → Prop) : Prop :=
  ∀ i, ∀ e ∈ b.event i, P (b.state i) → P (b.state (i + 1)) ∨ Q (b.state (i + 1))

variable {b}

/-! ### Runs -/

/-- A behaviour runs from each instant to every later one. -/
theorem run {i j : ℕ} (h : i ≤ j) :
  ∃ es, S.RunUnder guard (b.state i) es (b.state j)
  := by
  induction j, h using Nat.le_induction with
  | base => exact ⟨[], .nil⟩
  | succ j _ ih =>
      obtain ⟨es, hrun⟩ := ih
      cases hevent : b.event j with
      | none =>
          rw [b.quiet j hevent]
          exact ⟨es, hrun⟩
      | some e =>
          obtain ⟨hguard, hstep⟩ := b.step j e hevent
          exact ⟨es ++ [e], hrun.snoc hguard hstep⟩

theorem run_start (i : ℕ) :
  ∃ es, S.RunUnder guard s es (b.state i)
  := by
  obtain ⟨es, hrun⟩ := b.run (Nat.zero_le i)
  rw [b.start] at hrun
  exact ⟨es, hrun⟩

theorem reachable (hs : S.initial s) (i : ℕ) :
  S.ReachableUnder guard (b.state i)
  := by
  obtain ⟨es, hrun⟩ := b.run_start i
  exact ⟨s, es, hs, hrun⟩

/-! ### What stays -/

/-- What every step keeps unless it leads to `Q` stays up to an instant of `Q`. -/
theorem Unless.stays {P Q : σ → Prop} (h : b.Unless P Q) {i j : ℕ} (hij : i ≤ j)
    (hP : P (b.state i)) :
  P (b.state j) ∨ ∃ k, i ≤ k ∧ Q (b.state k)
  := by
  induction j, hij using Nat.le_induction with
  | base => exact Or.inl hP
  | succ j hij ih =>
      rcases ih with hj | hQ
      · cases hevent : b.event j with
        | none =>
            rw [b.quiet j hevent]
            exact Or.inl hj
        | some e =>
            apply (h j e hevent hj).imp_right
            intro hQ
            use j + 1, Nat.le_succ_of_le hij
      · exact Or.inr hQ

/-! ### What happens in the end -/

theorem leadsTo_of_imp {P Q : σ → Prop} (h : ∀ i, P (b.state i) → Q (b.state i)) :
  b.LeadsTo P Q
  := by
  intro i hP
  use i, Nat.le_refl i
  apply h i hP

theorem LeadsTo.trans {P Q R : σ → Prop} (h : b.LeadsTo P Q) (h' : b.LeadsTo Q R) :
  b.LeadsTo P R
  := by
  intro i hP
  obtain ⟨j, hij, hQ⟩ := h i hP
  obtain ⟨k, hjk, hR⟩ := h' j hQ
  use k, Nat.le_trans hij hjk

theorem LeadsTo.or {P Q R : σ → Prop} (h : b.LeadsTo P R) (h' : b.LeadsTo Q R) :
  b.LeadsTo (fun s => P s ∨ Q s) R
  := by
  rintro i (hP | hQ)
  · apply h i hP
  · apply h' i hQ

/-- What stays unless `R` holds is still there when `Q` holds, or `R` came before. -/
theorem LeadsTo.unless {P Q R : σ → Prop} (h : b.LeadsTo P Q) (hstays : b.Unless P R) :
  b.LeadsTo P (fun s => (P s ∧ Q s) ∨ R s)
  := by
  intro i hP
  obtain ⟨j, hij, hQ⟩ := h i hP
  rcases hstays.stays hij hP with hj | ⟨k, hik, hR⟩
  · exact ⟨j, hij, Or.inl ⟨hj, hQ⟩⟩
  · exact ⟨k, hik, Or.inr hR⟩

/-- Where `P` holds, the events of `A` can be performed; each of them leads to `Q`, and other
events keep `P` or lead to `Q`. If `A` is fair, `P` leads to `Q`. -/
theorem leadsTo_of_fair {A : ε → Prop} {P Q : σ → Prop} (hfair : b.Fair A)
    (henabled : ∀ i, P (b.state i) → S.Enabled A (b.state i)) (hstays : b.Unless P Q)
    (hacts : ∀ i, ∀ e ∈ b.event i, A e → P (b.state i) → Q (b.state (i + 1))) :
  b.LeadsTo P Q
  := by
  intro i hP
  by_contra hnever
  have hall : ∀ j, i ≤ j → P (b.state j) := by
    intro j hij
    rcases hstays.stays hij hP with hj | hQ
    · exact hj
    · exact absurd hQ hnever
  obtain ⟨j, hij, e, he, hA⟩ := hfair i fun j hij => henabled j (hall j hij)
  exact hnever ⟨j + 1, Nat.le_succ_of_le hij, hacts j e he hA (hall j hij)⟩

/-- If `P` leads to `Q`, or to `P` with a smaller rank, it leads to `Q`. -/
theorem leadsTo_of_rank {P Q : σ → Prop} (rank : σ → ℕ)
    (h : ∀ n, b.LeadsTo (fun s => P s ∧ ¬ Q s ∧ rank s = n) (fun s => Q s ∨ P s ∧ rank s < n)) :
  b.LeadsTo P Q
  := by
  have hall : ∀ n, b.LeadsTo (fun s => P s ∧ rank s = n) Q := by
    intro n
    induction n using Nat.strong_induction_on with
    | _ n ih =>
        rintro i ⟨hP, hrank⟩
        rcases em (Q (b.state i)) with hQ | hnot
        · use i, Nat.le_refl i
        · obtain ⟨j, hij, hQ | ⟨hP, hlt⟩⟩ := h n i ⟨hP, hnot, hrank⟩
          · use j, hij
          · obtain ⟨k, hjk, hQ⟩ := ih (rank (b.state j)) hlt j ⟨hP, rfl⟩
            use k, Nat.le_trans hij hjk
  intro i hP
  apply hall (rank (b.state i)) i ⟨hP, rfl⟩

/-- As long as `P` holds and `Q` does not, the events of `A` can be performed; a step leads to
`Q`, or keeps `P` and does not let the rank go up, and a step of `A` lets it go down. If `A` is
fair, `P` leads to `Q`. -/
theorem leadsTo_of_decreases {A : ε → Prop} {P Q : σ → Prop} (rank : σ → ℕ) (hfair : b.Fair A)
    (henabled : ∀ i, P (b.state i) → ¬ Q (b.state i) → S.Enabled A (b.state i))
    (hstep : ∀ i, ∀ e ∈ b.event i, P (b.state i) → ¬ Q (b.state i) → Q (b.state (i + 1)) ∨
      P (b.state (i + 1)) ∧ rank (b.state (i + 1)) ≤ rank (b.state i) ∧
        (A e → rank (b.state (i + 1)) < rank (b.state i))) :
  b.LeadsTo P Q
  := by
  apply leadsTo_of_rank rank
  intro n
  apply leadsTo_of_fair hfair
  · rintro i ⟨hP, hQ, -⟩
    apply henabled i hP hQ
  · rintro i e he ⟨hP, hQ, hrank⟩
    rcases em (Q (b.state (i + 1))) with hQ' | hQ'
    · exact Or.inr (Or.inl hQ')
    · obtain ⟨hP', hle, -⟩ := (hstep i e he hP hQ).resolve_left hQ'
      rcases Nat.lt_or_eq_of_le (hrank ▸ hle) with hlt | heq
      · exact Or.inr (Or.inr ⟨hP', hlt⟩)
      · exact Or.inl ⟨hP', hQ', heq⟩
  · rintro i e he hA ⟨hP, hQ, hrank⟩
    apply (hstep i e he hP hQ).imp_right
    rintro ⟨hP', -, hlt⟩
    exact ⟨hP', hrank ▸ hlt hA⟩

/-! ### Behaviours that go round -/

/-- A behaviour after a run is a behaviour. -/
theorem exists_after {t : σ} {es : List ε} (h : S.RunUnder guard s es t)
    (b : S.Behaviour guard t) :
  ∃ b' : S.Behaviour guard s, (∀ i < es.length, b'.event i = es[i]?) ∧
    ∀ i, b'.state (es.length + i) = b.state i ∧ b'.event (es.length + i) = b.event i
  := by
  induction h with
  | nil =>
      use b, fun i hi => absurd hi (Nat.not_lt_zero i)
      intro i
      rw [List.length_nil, Nat.zero_add]
      exact ⟨rfl, rfl⟩
  | @snoc es t e u _ hguard hstep ih =>
      -- the last event of the run comes first in the behaviour
      obtain ⟨b', hrun, hafter⟩ := ih
        { state := fun i => i.casesOn t b.state
          event := fun i => i.casesOn (some e) b.event
          start := rfl
          quiet := by
            intro i
            cases i with
            | zero => rintro ⟨⟩
            | succ i => apply b.quiet i
          step := by
            intro i
            cases i with
            | zero =>
                intro e' he'
                obtain rfl := Option.some.inj he'
                rw [← b.start] at hstep
                exact ⟨hguard, hstep⟩
            | succ i => apply b.step i }
      use b'
      rw [List.length_append, List.length_singleton]
      constructor
      · intro i hi
        rcases Nat.lt_or_eq_of_le (Nat.le_of_lt_succ hi) with hlt | rfl
        · rw [hrun i hlt, List.getElem?_append_left hlt]
        · rw [List.getElem?_concat_length]
          apply (hafter 0).2
      · intro i
        rw [Nat.add_assoc, Nat.add_comm 1 i]
        apply hafter (i + 1)

/-- A behaviour that performs one event over and over, or none, in a state that it keeps. -/
def loop (t : σ) (event : Option ε)
    (h : ∀ e ∈ event, guard t e ∧ S.step t e = some t) : S.Behaviour guard t where
  state _ := t
  event _ := event
  start := rfl
  quiet _ _ := rfl
  step _ := h

/-- A behaviour that performs a run and then another, and goes round at its end. -/
theorem exists_of_runs {t u : σ} {es fs : List ε} (h : S.RunUnder guard s es t)
    (h' : S.RunUnder guard t fs u) (event : Option ε)
    (hloop : ∀ e ∈ event, guard u e ∧ S.step u e = some u) :
  ∃ b : S.Behaviour guard s, (∀ i < es.length, b.event i = es[i]?) ∧ b.state es.length = t ∧
    ∀ i, b.state (es.length + fs.length + i) = u ∧ b.event (es.length + fs.length + i) = event
  := by
  obtain ⟨b, -, hround⟩ := exists_after h' (loop u event hloop)
  obtain ⟨b', hrun, hafter⟩ := exists_after h b
  use b', hrun
  constructor
  · exact (hafter 0).1.trans b.start
  · intro i
    rw [Nat.add_assoc, (hafter _).1, (hafter _).2]
    apply hround i

/-- A behaviour that goes round in a state is fair to the events that cannot be performed there,
and to those that it performs. -/
theorem fair_of_loop {t : σ} {n : ℕ} {event : Option ε} {A : ε → Prop}
    (h : ∀ i, b.state (n + i) = t ∧ b.event (n + i) = event)
    (hA : S.Enabled A t → ∃ e ∈ event, A e) :
  b.Fair A
  := by
  intro i henabled
  have hlate := henabled (n + i) (Nat.le_add_left i n)
  rw [(h i).1] at hlate
  use n + i, Nat.le_add_left i n
  rw [(h i).2]
  apply hA hlate

/-- A behaviour that performs a run, and then another over and over, which comes back to where it
began. -/
theorem exists_of_cycle {t : σ} {es fs : List ε} (h : S.RunUnder guard s es t)
    (h' : S.RunUnder guard t fs t) (hne : fs ≠ []) :
  ∃ b : S.Behaviour guard s, (∀ i < es.length, b.event i = es[i]?) ∧
    ∀ i, b.event (es.length + i) = fs[i % fs.length]?
  := by
  obtain ⟨state, hfirst, hlast, hsteps⟩ := h'.exists_states
  have hpos : 0 < fs.length := List.length_pos_iff.mpr hne
  obtain ⟨b, hrun, hafter⟩ := exists_after h
    { state := fun i => state (i % fs.length)
      event := fun i => fs[i % fs.length]?
      start := by rw [Nat.zero_mod, hfirst]
      quiet := by
        intro i hnone
        exact absurd (Nat.mod_lt i hpos) (Nat.not_lt.mpr (List.getElem?_eq_none_iff.mp hnone))
      step := by
        intro i e he
        have hnext : state ((i + 1) % fs.length) = state (i % fs.length + 1) := by
          rw [← Nat.mod_add_mod]
          have hle : i % fs.length + 1 ≤ fs.length := Nat.mod_lt i hpos
          rcases Nat.lt_or_eq_of_le hle with hlt | heq
          · rw [Nat.mod_eq_of_lt hlt]
          · rw [heq, Nat.mod_self, hfirst, hlast]
        rw [hnext]
        apply hsteps _ e he }
  exact ⟨b, hrun, fun i => (hafter i).2⟩

/-- A behaviour that goes round is fair to the events that it performs on its way. -/
theorem fair_of_cycle {n : ℕ} {es : List ε} {A : ε → Prop}
    (h : ∀ i, b.event (n + i) = es[i % es.length]?) {e : ε} (he : e ∈ es) (hA : A e) :
  b.Fair A
  := by
  intro i _
  obtain ⟨k, hk, rfl⟩ := List.mem_iff_getElem.mp he
  have hle : i ≤ es.length * i := Nat.le_mul_of_pos_left i (Nat.zero_lt_of_lt hk)
  use n + (es.length * i + k), by omega, es[k]
  rw [h, Nat.mul_add_mod, Nat.mod_eq_of_lt hk, List.getElem?_eq_getElem hk]
  exact ⟨rfl, hA⟩

end Behaviour

end TransitionSystem

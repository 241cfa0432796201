import Mathlib.Logic.Relation

/-!
# Transition systems and their runs

A transition system has a set of initial states and a partial step function: an event is
either not enabled in a state, or leads to one state. All choices of the environment are
in the event.

A run performs a list of events. `RunUnder guard` are the runs every step of which meets
`guard`, a condition on an event and on the state it is performed in. `ReachableUnder guard`
are the states such runs lead to from an initial state, and `ReachableUnder.invariant` is
the rule by which a property is shown of all of them.
-/

universe u v

/-- A transition system with states `σ` and events `ε`. -/
structure TransitionSystem (σ : Type u) (ε : Type v) where
  /-- The initial states. -/
  initial : σ → Prop
  /-- The state an event leads to, if the event is enabled. -/
  step : σ → ε → Option σ

namespace TransitionSystem

variable {σ : Type u} {ε : Type v} (S : TransitionSystem σ ε)

/-- The state a list of events leads to, if each is enabled and meets `guard` when its turn
comes. -/
def execUnder (guard : σ → ε → Prop) [∀ s e, Decidable (guard s e)] (s : σ) :
    List ε → Option σ
  | [] => some s
  | e :: es => if guard s e then (S.step s e).bind (fun t => execUnder guard t es) else none

/-- `RunUnder guard s es t`: performing the events `es` from `s` leads to `t`, and each of
them meets `guard` in the state it is performed in. -/
inductive RunUnder (guard : σ → ε → Prop) (s : σ) : List ε → σ → Prop
  | nil : RunUnder guard s [] s
  | snoc {es t e u} : RunUnder guard s es t → guard t e → S.step t e = some u →
      RunUnder guard s (es ++ [e]) u

/-- Execution with no condition on the steps. -/
abbrev exec (s : σ) (es : List ε) : Option σ := S.execUnder (fun _ _ => True) s es

/-- A run with no condition on its steps. -/
abbrev Run : σ → List ε → σ → Prop := S.RunUnder (fun _ _ => True)

/-- The states that runs under `guard` lead to from an initial state. -/
def ReachableUnder (guard : σ → ε → Prop) (t : σ) : Prop :=
  ∃ s es, S.initial s ∧ S.RunUnder guard s es t

/-- The states that runs lead to from an initial state. -/
abbrev Reachable : σ → Prop := S.ReachableUnder (fun _ _ => True)

/-- What a list of events puts out, where `out s e t` is put out when `e` leads from `s` to
`t`. -/
def outputs {ω : Type*} (out : σ → ε → σ → List ω) (s : σ) : List ε → List ω
  | [] => []
  | e :: es =>
      match S.step s e with
      | some t => out s e t ++ outputs out t es
      | none => []

variable {S}

/-! ### Runs -/

theorem RunUnder.single {guard : σ → ε → Prop} {s t : σ} {e : ε}
    (hg : guard s e) (h : S.step s e = some t) :
  S.RunUnder guard s [e] t
  := RunUnder.nil.snoc hg h

/-- Two runs one after the other are a run. -/
theorem RunUnder.append {guard : σ → ε → Prop} {s t u : σ} {es fs : List ε}
    (h : S.RunUnder guard s es t) (h' : S.RunUnder guard t fs u) :
  S.RunUnder guard s (es ++ fs) u
  := by
  induction h' with
  | nil => simpa using h
  | snoc _ hg hstep ih =>
      rw [← List.append_assoc]
      apply RunUnder.snoc ih hg hstep

/-- A run meets every condition weaker than the one it is known to meet. -/
theorem RunUnder.mono {guard guard' : σ → ε → Prop} (hle : ∀ s e, guard s e → guard' s e)
    {s t : σ} {es : List ε} (h : S.RunUnder guard s es t) :
  S.RunUnder guard' s es t
  := by
  induction h with
  | nil => apply RunUnder.nil
  | snoc _ hg hstep ih => apply RunUnder.snoc ih (hle _ _ hg) hstep

/-- An execution is a run. -/
theorem runUnder_of_execUnder {guard : σ → ε → Prop} [∀ s e, Decidable (guard s e)]
    {s t : σ} {es : List ε} (h : S.execUnder guard s es = some t) :
  S.RunUnder guard s es t
  := by
  induction es generalizing s with
  | nil =>
      obtain rfl : s = t := by simpa [execUnder] using h
      apply RunUnder.nil
  | cons e es ih =>
      rw [execUnder] at h
      split at h
      case isTrue hg =>
        obtain ⟨u, hu, ht⟩ := Option.bind_eq_some_iff.mp h
        apply RunUnder.append (RunUnder.single hg hu) (ih ht)
      case isFalse => cases h

/-- An execution whose result satisfies a property is a run to a state with the property. -/
theorem exists_runUnder {guard : σ → ε → Prop} [∀ s e, Decidable (guard s e)]
    {P : σ → Prop} {s : σ} {es : List ε} (h : ∃ t ∈ S.execUnder guard s es, P t) :
  ∃ t, S.RunUnder guard s es t ∧ P t
  := by
  obtain ⟨t, ht, hP⟩ := h
  use t, runUnder_of_execUnder ht

/-- What is put out by events after a run. -/
theorem RunUnder.outputs_append {ω : Type*} {out : σ → ε → σ → List ω} {guard : σ → ε → Prop}
    {s t : σ} {es : List ε} (h : S.RunUnder guard s es t) (fs : List ε) :
  S.outputs out s (es ++ fs) = S.outputs out s es ++ S.outputs out t fs
  := by
  induction h generalizing fs with
  | nil => rfl
  | @snoc es t e u hrun hg hstep ih =>
      have hone : ∀ fs, S.outputs out t (e :: fs) = out t e u ++ S.outputs out u fs := by
        intro fs
        simp only [outputs, hstep]
      rw [List.append_assoc, List.singleton_append, ih, ih, hone, hone, outputs, List.append_nil,
        List.append_assoc]

/-- A run puts out what its last event does after what the events before do. -/
theorem RunUnder.outputs_snoc {ω : Type*} {out : σ → ε → σ → List ω} {guard : σ → ε → Prop}
    {s t u : σ} {es : List ε} {e : ε} (h : S.RunUnder guard s es t) (hstep : S.step t e = some u) :
  S.outputs out s (es ++ [e]) = S.outputs out s es ++ out t e u
  := by
  rw [h.outputs_append]
  simp only [outputs, hstep, List.append_nil]

/-- What a run puts out is put out by one of its steps. -/
theorem RunUnder.mem_outputs {ω : Type*} {out : σ → ε → σ → List ω} {guard : σ → ε → Prop}
    {s t : σ} {es : List ε} (h : S.RunUnder guard s es t) {w : ω} (hw : w ∈ S.outputs out s es) :
  ∃ pre e post u v, es = pre ++ e :: post ∧ S.RunUnder guard s pre u ∧ guard u e ∧
    S.step u e = some v ∧ w ∈ out u e v
  := by
  induction h with
  | nil => cases hw
  | @snoc es t e u hrun hg hstep ih =>
      rw [hrun.outputs_snoc hstep, List.mem_append] at hw
      rcases hw with hw | hw
      · obtain ⟨pre, e', post, u', v, rfl, hpre⟩ := ih hw
        use pre, e', post ++ [e], u', v
        rw [List.append_assoc, List.cons_append]
        exact ⟨rfl, hpre⟩
      · exact ⟨es, e, [], t, u, rfl, hrun, hg, hstep, hw⟩

/-! ### Invariants -/

/-- A property of the first state of a run that every step under `guard` preserves is a
property of its last state. -/
theorem RunUnder.preserves {guard : σ → ε → Prop} {I : σ → Prop}
    (hstep : ∀ s e t, I s → guard s e → S.step s e = some t → I t)
    {s t : σ} {es : List ε} (h : S.RunUnder guard s es t) (hs : I s) :
  I t
  := by
  induction h with
  | nil => apply hs
  | snoc _ hg h ih => apply hstep _ _ _ ih hg h

theorem ReachableUnder.initial {guard : σ → ε → Prop} {s : σ} (h : S.initial s) :
  S.ReachableUnder guard s
  := ⟨s, [], h, .nil⟩

theorem ReachableUnder.step {guard : σ → ε → Prop} {s t : σ} {e : ε}
    (h : S.ReachableUnder guard s) (hg : guard s e) (hstep : S.step s e = some t) :
  S.ReachableUnder guard t
  := by
  obtain ⟨s₀, es, h₀, hrun⟩ := h
  use s₀, es ++ [e], h₀
  apply RunUnder.snoc hrun hg hstep

theorem ReachableUnder.mono {guard guard' : σ → ε → Prop}
    (hle : ∀ s e, guard s e → guard' s e) {s : σ} (h : S.ReachableUnder guard s) :
  S.ReachableUnder guard' s
  := by
  obtain ⟨s₀, es, h₀, hrun⟩ := h
  use s₀, es, h₀
  apply hrun.mono hle

/-- A state reachable under a condition is reachable. -/
theorem ReachableUnder.reachable {guard : σ → ε → Prop} {s : σ}
    (h : S.ReachableUnder guard s) :
  S.Reachable s
  := h.mono (fun _ _ _ => trivial)

/-- The states of a system that are reachable are so in every system that does the same, if
states and events are translated. -/
theorem ReachableUnder.map {σ' : Type*} {ε' : Type*} {T : TransitionSystem σ' ε'}
    {guard : σ → ε → Prop} {s : σ} (h : S.ReachableUnder guard s) (f : σ → σ') (g : ε → ε')
    (hinit : ∀ s, S.initial s → T.initial (f s))
    (hstep : ∀ s e t, S.step s e = some t → T.step (f s) (g e) = some (f t)) :
  T.Reachable (f s)
  := by
  obtain ⟨s₀, es, h₀, hrun⟩ := h
  use f s₀, es.map g, hinit _ h₀
  induction hrun with
  | nil => apply RunUnder.nil
  | snoc _ _ h ih =>
      rw [List.map_append]
      apply RunUnder.snoc ih trivial (hstep _ _ _ h)

/-- The states a run leads to from a reachable state are reachable. -/
theorem Reachable.run {s t : σ} {es : List ε} (h : S.Reachable s) (hrun : S.Run s es t) :
  S.Reachable t
  := by
  obtain ⟨s₀, es₀, h₀, h⟩ := h
  use s₀, es₀ ++ es, h₀
  apply h.append hrun

/-- A property that holds initially and that every step under `guard` from a reachable
state preserves holds of all states reachable under `guard`. -/
theorem ReachableUnder.invariant {guard : σ → ε → Prop} {I : σ → Prop}
    (hinit : ∀ s, S.initial s → I s)
    (hstep : ∀ s e t, S.ReachableUnder guard s → I s → guard s e → S.step s e = some t → I t)
    {t : σ} (h : S.ReachableUnder guard t) :
  I t
  := by
  obtain ⟨s, es, h₀, hrun⟩ := h
  induction hrun with
  | nil => apply hinit _ h₀
  | snoc hrun hg h ih => apply hstep _ _ _ ⟨s, _, h₀, hrun⟩ ih hg h

/-! ### Every step -/

variable (S) in
/-- Every step of the events `es`, from `s` on, satisfies `R`. -/
def Along (R : σ → ε → σ → Prop) (s : σ) : List ε → Prop
  | [] => True
  | e :: es => ∀ t, S.step s e = some t → R s e t ∧ Along R t es

/-- Steps satisfy two relations in the same runs, if they do so from reachable states. -/
theorem along_congr {R R' : σ → ε → σ → Prop}
    (h : ∀ s e t, S.Reachable s → S.step s e = some t → (R s e t ↔ R' s e t)) {s : σ}
    (hs : S.Reachable s) (es : List ε) :
  S.Along R s es ↔ S.Along R' s es
  := by
  induction es generalizing s with
  | nil => exact Iff.rfl
  | cons e es ih =>
      apply forall_congr'
      intro t
      apply forall_congr'
      intro hstep
      apply and_congr (h s e t hs hstep) (ih (hs.step trivial hstep))

end TransitionSystem

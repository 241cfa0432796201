import Mathlib.Data.List.Induction

/-!
# Since

Of a list of observations in the order in which they were made, `Since P Q` says that one of
them meets `P`, and none after it meets `Q`.
-/

universe u

variable {α : Type u} {P Q : α → Prop}

/-- One of the list meets `P`, and none after it meets `Q`. -/
def Since (P Q : α → Prop) (l : List α) : Prop :=
  ∃ pre a post, l = pre ++ a :: post ∧ P a ∧ ∀ b ∈ post, ¬ Q b

/-- Where an element of an appended list is. -/
theorem List.append_eq_append_cons_iff {l l' pre post : List α} {a : α} :
  l ++ l' = pre ++ a :: post ↔
    (∃ post', l = pre ++ a :: post' ∧ post = post' ++ l') ∨
      ∃ pre', pre = l ++ pre' ∧ l' = pre' ++ a :: post
  := by
  constructor
  · intro h
    rcases List.append_eq_append_iff.mp h with ⟨pre', hpre, hl'⟩ | ⟨cut, hl, hcut⟩
    · right
      use pre', hpre
    · cases cut with
      | nil =>
          right
          use []
          constructor
          · rw [hl, List.append_nil, List.append_nil]
          · rw [List.nil_append] at hcut
            apply hcut.symm
      | cons b post' =>
          left
          rw [List.cons_append] at hcut
          obtain ⟨rfl, rfl⟩ := List.cons.inj hcut
          use post', hl
  · rintro (⟨post', rfl, rfl⟩ | ⟨pre', rfl, rfl⟩)
    · rw [List.append_assoc, List.cons_append]
    · rw [List.append_assoc]

namespace Since

theorem not_nil : ¬ Since P Q [] := by
  rintro ⟨pre, a, post, h, -⟩
  cases pre <;> cases h

/-- After one more observation. -/
theorem concat_iff {l : List α} {a : α} :
  Since P Q (l ++ [a]) ↔ P a ∨ Since P Q l ∧ ¬ Q a
  := by
  constructor
  · rintro ⟨pre, b, post, h, hP, hQ⟩
    rcases List.append_eq_append_cons_iff.mp h with ⟨post', rfl, rfl⟩ | ⟨pre', rfl, hlast⟩
    · right
      constructor
      · use pre, b, post', rfl, hP
        exact fun c hc => hQ c (List.mem_append_left _ hc)
      · apply hQ a (List.mem_append_right _ (List.mem_singleton_self a))
    · left
      cases pre' with
      | nil =>
          obtain ⟨rfl, -⟩ := List.cons.inj hlast
          exact hP
      | cons c pre' => cases pre' <;> cases hlast
  · rintro (hP | ⟨⟨pre, b, post, rfl, hP, hQ⟩, hQa⟩)
    · use l, a, [], rfl, hP
      exact fun b hb => absurd hb (List.not_mem_nil)
    · use pre, b, post ++ [a]
      refine ⟨by simp, hP, ?_⟩
      intro c hc
      rcases List.mem_append.mp hc with hc | hc
      · apply hQ c hc
      · rw [List.mem_singleton.mp hc]
        exact hQa

/-- After observations none of which meets `P`. -/
theorem append_iff {l l' : List α} (h : ∀ a ∈ l', ¬ P a) :
  Since P Q (l ++ l') ↔ Since P Q l ∧ ∀ a ∈ l', ¬ Q a
  := by
  induction l' using List.reverseRecOn with
  | nil => simp
  | append_singleton l' a ih =>
      have hl' := ih (fun b hb => h b (List.mem_append_left _ hb))
      have ha := h a (List.mem_append_right _ (List.mem_singleton_self a))
      rw [← List.append_assoc, concat_iff, hl', List.forall_mem_append, List.forall_mem_singleton]
      tauto

/-- Since an observation that meets `P`, with none that meets `Q` after it. -/
theorem of_append_cons {l l' : List α} {a : α} (ha : P a) (h : ∀ b ∈ l', ¬ Q b) :
  Since P Q (l ++ a :: l')
  := ⟨l, a, l', rfl, ha, h⟩

end Since

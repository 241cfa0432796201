import Mathlib.Data.Finset.Basic
import Mathlib.Data.List.Chain

/-!
# Holders of a shared thing

A thing is shared by keys that join and leave. It is held by those keys whose latest event was
to join (`mem_holders_iff`).

Somebody upstream is told of some events: of a key that joins when there are no holders, perhaps
of other keys that join, and of a key that leaves as the last holder. Then the first that is
told of joins, and between two leaves that are told of there is a join (`Notifies.alternates`).
-/

universe u

/-- A key joins or leaves. -/
inductive Holding (κ : Type u) where
  | join (k : κ)
  | leave (k : κ)

namespace Holding

variable {κ : Type u}

def key : Holding κ → κ
  | join k => k
  | leave k => k

def joins : Holding κ → Bool
  | join _ => true
  | leave _ => false

variable [DecidableEq κ]

/-- The holders after an event. -/
def apply (s : Finset κ) : Holding κ → Finset κ
  | join k => insert k s
  | leave k => s.erase k

/-- The holders after some events. -/
def holders (es : List (Holding κ)) : Finset κ := es.foldl apply ∅

/-- The latest event of a key. -/
def latest (es : List (Holding κ)) (k : κ) : Option (Holding κ) :=
  es.reverse.find? fun e => e.key = k

theorem holders_append (es : List (Holding κ)) (e : Holding κ) :
  holders (es ++ [e]) = apply (holders es) e
  := by rw [holders, List.foldl_append]; rfl

theorem latest_append (es : List (Holding κ)) (e : Holding κ) (k : κ) :
  latest (es ++ [e]) k = if e.key = k then some e else latest es k
  := by
  rw [latest, List.reverse_append, List.reverse_singleton, List.singleton_append,
    List.find?_cons]
  split
  case h_1 h => rw [if_pos (of_decide_eq_true h)]
  case h_2 h => rw [if_neg (of_decide_eq_false h), latest]

/-- The holders are the keys whose latest event was to join. -/
theorem mem_holders_iff (es : List (Holding κ)) (k : κ) :
  k ∈ holders es ↔ latest es k = some (join k)
  := by
  induction es using List.reverseRecOn with
  | nil => simp [holders, latest]
  | append_singleton es e ih =>
      rw [holders_append, latest_append]
      cases e with
      | join k' =>
          rcases eq_or_ne k' k with rfl | hne
          · simp [apply, key]
          · simp [apply, key, hne, hne.symm, ih]
      | leave k' =>
          rcases eq_or_ne k' k with rfl | hne
          · simp [apply, key]
          · simp [apply, key, hne, hne.symm, ih]

/-! ### What upstream is told -/

/-- Upstream is told of events as it should be: the events, each with whether it is told of,
lead to the holders. -/
inductive Notifies : List (Holding κ × Bool) → Finset κ → Prop
  | nil : Notifies [] ∅
  | join {trace s told} (k : κ) : Notifies trace s → (s = ∅ → told = true) →
      Notifies (trace ++ [(.join k, told)]) (insert k s)
  | leave {trace s} (k : κ) (told : Bool) : Notifies trace s →
      (told = true ↔ s.Nonempty ∧ s.erase k = ∅) →
      Notifies (trace ++ [(.leave k, told)]) (s.erase k)

/-- What upstream is told, as whether it is that a key joins. -/
def told (trace : List (Holding κ × Bool)) : List Bool :=
  (trace.filter Prod.snd).map fun e => e.1.joins

omit [DecidableEq κ] in
theorem told_append (trace : List (Holding κ × Bool)) (e : Holding κ) (b : Bool) :
  told (trace ++ [(e, b)]) = told trace ++ if b then [e.joins] else []
  := by
  cases b with
  | true => simp [told]
  | false => simp [told]

theorem Notifies.holders {trace : List (Holding κ × Bool)} {s : Finset κ} (h : Notifies trace s) :
  s = Holding.holders (trace.map Prod.fst)
  := by
  induction h with
  | nil => rfl
  | join k _ _ ih =>
      rw [List.map_append, List.map_singleton, holders_append, ← ih]
      rfl
  | leave k _ _ _ ih =>
      rw [List.map_append, List.map_singleton, holders_append, ← ih]
      rfl

/-- Upstream is told of a join first, and of a join between two leaves. -/
theorem Notifies.alternates {trace : List (Holding κ × Bool)} {s : Finset κ}
    (h : Notifies trace s) :
  (told trace).head? ≠ some false ∧ (told trace).IsChain (fun a b => a = true ∨ b = true) ∧
    (s.Nonempty → (told trace).getLast? = some true)
  := by
  induction h with
  | nil =>
      refine ⟨by simp [told], .nil, ?_⟩
      exact fun h => absurd rfl h.ne_empty
  | @join trace s b k _ htold ih =>
      obtain ⟨hhead, hchain, hlast⟩ := ih
      rw [told_append]
      cases b with
      | true =>
          refine ⟨?_, ?_, ?_⟩
          · rw [if_pos rfl]
            cases htrace : told trace with
            | nil => simp [joins]
            | cons a as =>
                rw [htrace] at hhead
                exact hhead
          · apply List.isChain_append.mpr
            use hchain, .singleton _
            intro a _ b hb
            right
            rw [if_pos rfl, List.head?_cons] at hb
            exact (Option.some.inj hb).symm
          · intro _
            rw [if_pos rfl, List.getLast?_append]
            rfl
      | false =>
          have hs : s.Nonempty := by
            rw [Finset.nonempty_iff_ne_empty]
            intro hempty
            cases htold hempty
          rw [if_neg (by simp), List.append_nil]
          use hhead, hchain
          exact fun _ => hlast hs
  | @leave trace s k b _ htold ih =>
      obtain ⟨hhead, hchain, hlast⟩ := ih
      rw [told_append]
      cases b with
      | true =>
          obtain ⟨hs, hempty⟩ := htold.mp rfl
          have hlast := hlast hs
          refine ⟨?_, ?_, ?_⟩
          · cases htrace : told trace with
            | nil =>
                rw [htrace] at hlast
                cases hlast
            | cons a as =>
                rw [htrace] at hhead
                exact hhead
          · apply List.isChain_append.mpr
            use hchain, .singleton _
            intro a ha b _
            left
            rw [hlast] at ha
            exact (Option.some.inj ha).symm
          · intro hnonempty
            exact absurd hempty hnonempty.ne_empty
      | false =>
          rw [if_neg (by simp), List.append_nil]
          use hhead, hchain
          intro hnonempty
          apply hlast
          apply hnonempty.mono (Finset.erase_subset _ _)

end Holding

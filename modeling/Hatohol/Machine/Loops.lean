import Hatohol.Machine.Steps

/-!
# Loops over places

A loop whose body only touches the place that it is called for. Each place is seen through a view
of the state, and the loop does to a view what its body does to it, once.
-/

namespace Hatohol.Machine

universe u

section Places

variable {σ ι β : Type u} {view : ι → σ → β} {body : σ → ι → σ} {upd : β → β}

theorem view_foldl_of_not_mem (hother : ∀ s i k, k ≠ i → view k (body s i) = view k s) :
    ∀ (is : List ι) (s : σ) (k : ι), k ∉ is → view k (is.foldl body s) = view k s := by
  intro is
  induction is with
  | nil =>
    intro s k _
    rfl
  | cons i is ih =>
    intro s k hk
    rw [List.mem_cons, not_or] at hk
    rw [List.foldl_cons, ih (body s i) k hk.2, hother s i k hk.1]

/-- The rule for a loop over different places. -/
theorem view_foldl [DecidableEq ι] (hself : ∀ s i, view i (body s i) = upd (view i s))
    (hother : ∀ s i k, k ≠ i → view k (body s i) = view k s) :
    ∀ (is : List ι), is.Nodup → ∀ (s : σ) (k : ι),
      view k (is.foldl body s) = if k ∈ is then upd (view k s) else view k s := by
  intro is
  induction is with
  | nil =>
    intro _ s k
    rfl
  | cons i is ih =>
    intro hnodup s k
    obtain ⟨hi, hrest⟩ := List.nodup_cons.mp hnodup
    rw [List.foldl_cons]
    by_cases hk : k = i
    · subst hk
      rw [view_foldl_of_not_mem hother is (body s k) k hi, hself, if_pos List.mem_cons_self]
    · rw [ih hrest (body s i) k, hother s i k hk]
      simp only [List.mem_cons, hk, false_or]

end Places

section Heeds

variable {σ ι : Type u} {next : σ → ι → σ} {C D : σ → ι → Prop}

/-- Two conditions that agree where an invariant holds agree on runs. -/
theorem heeds_congr (inv : σ → Prop) (hkeep : ∀ s i, inv s → inv (next s i))
    (hagree : ∀ s i, inv s → (C s i ↔ D s i)) :
    ∀ (is : List ι) (s : σ), inv s → (Heeds next C s is ↔ Heeds next D s is) := by
  intro is
  induction is with
  | nil =>
    intro s _
    rfl
  | cons i is ih =>
    intro s hinv
    rw [Heeds, Heeds, hagree s i hinv, ih (next s i) (hkeep s i hinv)]

end Heeds

end Hatohol.Machine

import Mathlib.Algebra.Order.BigOperators.Group.Finset
import Mathlib.Algebra.Order.Group.Nat
import Mathlib.Data.Fintype.Basic

/-!
# Counting threads

Any finite number of threads, each of which is in a phase, and how many of them are in a phase of
some kind.
-/

namespace Hatohol.Machine

variable {T φ : Type*} [Fintype T]

def countThreads (p : φ → Bool) (phase : T → φ) : Nat := ∑ t, (p (phase t)).toNat

variable {p : φ → Bool} {phase : T → φ}

theorem countThreads_eq_zero (h : ∀ t, p (phase t) = false) : countThreads p phase = 0 :=
  Finset.sum_eq_zero fun t _ => by rw [h t]; rfl

theorem exists_of_countThreads_pos (h : 0 < countThreads p phase) : ∃ t, p (phase t) = true := by
  by_contra hnone
  have hzero : countThreads p phase = 0 := countThreads_eq_zero fun t => by
    cases ht : p (phase t) with
    | false => rfl
    | true => exact absurd ⟨t, ht⟩ hnone
  omega

theorem countThreads_le {q : φ → Bool} (h : ∀ t, p (phase t) = true → q (phase t) = true) :
    countThreads p phase ≤ countThreads q phase := by
  refine Finset.sum_le_sum fun t _ => ?_
  cases hp : p (phase t) with
  | false => exact Nat.zero_le _
  | true => rw [h t hp]

/-- Where no more threads are in a phase of the wider kind, each is in one of both or of neither. -/
theorem eq_of_countThreads_le {q : φ → Bool} (h : ∀ t, p (phase t) = true → q (phase t) = true)
    (hle : countThreads q phase ≤ countThreads p phase) (t : T) : q (phase t) = p (phase t) := by
  have hle' : ∀ u ∈ Finset.univ, (p (phase u)).toNat ≤ (q (phase u)).toNat := fun u _ => by
    cases hp : p (phase u) with
    | false => exact Nat.zero_le _
    | true => rw [h u hp]
  have heq := (Finset.sum_eq_sum_iff_of_le hle').mp (Nat.le_antisymm (countThreads_le h) hle) t
    (Finset.mem_univ t)
  cases hp : p (phase t) <;> cases hq : q (phase t) <;> simp_all

variable [DecidableEq T]

/-- One thread goes from its phase to another. -/
theorem countThreads_update (p : φ → Bool) (phase : T → φ) (t : T) (new : φ) :
    countThreads p (Function.update phase t new) + (p (phase t)).toNat =
      countThreads p phase + (p new).toNat := by
  unfold countThreads
  rw [← Finset.add_sum_erase _ _ (Finset.mem_univ t), ← Finset.add_sum_erase _ _ (Finset.mem_univ t)]
  have hothers : ∑ u ∈ Finset.univ.erase t, (p (Function.update phase t new u)).toNat =
      ∑ u ∈ Finset.univ.erase t, (p (phase u)).toNat := by
    refine Finset.sum_congr rfl fun u hu => ?_
    rw [Function.update_of_ne (Finset.ne_of_mem_erase hu)]
  rw [hothers, Function.update_self]
  omega

theorem countThreads_pos {t : T} (h : p (phase t) = true) : 0 < countThreads p phase := by
  have hle := Finset.single_le_sum (f := fun u => (p (phase u)).toNat) (fun _ _ => Nat.zero_le _)
    (Finset.mem_univ t)
  rw [h] at hle
  exact hle

theorem eq_of_countThreads_le_one (hle : countThreads p phase ≤ 1) {t u : T}
    (ht : p (phase t) = true) (hu : p (phase u) = true) : t = u := by
  by_contra hne
  have hpair := Finset.sum_le_sum_of_subset (f := fun v => (p (phase v)).toNat)
    (Finset.subset_univ {t, u})
  rw [Finset.sum_pair hne, ht, hu] at hpair
  exact absurd (hpair.trans hle) (by decide)

end Hatohol.Machine

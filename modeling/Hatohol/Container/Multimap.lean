import Mathlib.Order.Lattice
import Mathlib.Tactic.Basic

/-!
# Ordered multimaps

The `std::multimap` of the standard library: its elements stand in the order of their keys, and
those of one key in the order in which they were put in.
-/

namespace Hatohol.Container

universe u v

variable {κ : Type u} {α : Type v} [LinearOrder κ]

/-- Puts an element after those whose keys are not greater. -/
def insertUpperBound (k : κ) (v : α) : List (κ × α) → List (κ × α)
  | [] => [(k, v)]
  | e :: es => if k < e.1 then (k, v) :: e :: es else e :: insertUpperBound k v es

/-- The elements are sorted by their keys. -/
structure Multimap (κ : Type u) (α : Type v) [LinearOrder κ] where
  entries : List (κ × α)
  sorted : entries.Pairwise fun e e' => e.1 ≤ e'.1

theorem mem_insertUpperBound {k : κ} {v : α} {e : κ × α} {es : List (κ × α)}
    (hmem : e ∈ insertUpperBound k v es) : e = (k, v) ∨ e ∈ es := by
  induction es with
  | nil =>
    left
    simpa [insertUpperBound] using hmem
  | cons e' es ih =>
    rw [insertUpperBound] at hmem
    split at hmem
    · simpa using hmem
    · rcases List.mem_cons.mp hmem with rfl | hmem
      · right
        simp
      · rcases ih hmem with heq | hmem
        · left
          exact heq
        · right
          simp [hmem]

theorem insertUpperBound_sorted {k : κ} {v : α} {es : List (κ × α)}
    (hsorted : es.Pairwise fun e e' => e.1 ≤ e'.1) :
    (insertUpperBound k v es).Pairwise fun e e' => e.1 ≤ e'.1 := by
  induction es with
  | nil => simp [insertUpperBound]
  | cons e es ih =>
    obtain ⟨hfirst, hrest⟩ := List.pairwise_cons.mp hsorted
    rw [insertUpperBound]
    by_cases hlt : k < e.1
    · rw [if_pos hlt]
      apply List.pairwise_cons.mpr
      refine ⟨?_, hsorted⟩
      intro e' hmem
      rcases List.mem_cons.mp hmem with rfl | hmem
      · exact le_of_lt hlt
      · exact le_trans (le_of_lt hlt) (hfirst e' hmem)
    · rw [if_neg hlt]
      apply List.pairwise_cons.mpr
      refine ⟨?_, ih hrest⟩
      intro e' hmem
      rcases mem_insertUpperBound hmem with rfl | hmem
      · exact not_lt.mp hlt
      · exact hfirst e' hmem

/-- The new element comes after all those of its key. -/
theorem filterMap_insertUpperBound {k : κ} {v : α} {es : List (κ × α)}
    (hsorted : es.Pairwise fun e e' => e.1 ≤ e'.1) (k' : κ) :
    (insertUpperBound k v es).filterMap (fun e => if e.1 = k' then some e.2 else none) =
      es.filterMap (fun e => if e.1 = k' then some e.2 else none) ++ if k = k' then [v] else [] :=
        by
  induction es with
  | nil =>
    by_cases hk : k = k'
    · simp [insertUpperBound, hk]
    · simp [insertUpperBound, hk]
  | cons e es ih =>
    obtain ⟨hfirst, hrest⟩ := List.pairwise_cons.mp hsorted
    rw [insertUpperBound]
    by_cases hlt : k < e.1
    · rw [if_pos hlt]
      by_cases hk : k = k'
      · -- no element from here on has the key
        have hnone : (e :: es).filterMap (fun e => if e.1 = k' then some e.2 else none) = [] := by
          rw [List.filterMap_eq_nil_iff]
          intro e' hmem
          rw [if_neg]
          intro heq
          have hle : e.1 ≤ e'.1 := by
            rcases List.mem_cons.mp hmem with rfl | hmem
            · exact le_rfl
            · exact hfirst e' hmem
          exact absurd (heq.trans hk.symm) (ne_of_gt (lt_of_lt_of_le hlt hle))
        rw [List.filterMap_cons, hnone]
        simp [hk]
      · rw [List.filterMap_cons]
        simp [hk]
    · rw [if_neg hlt, List.filterMap_cons, List.filterMap_cons, ih hrest]
      by_cases he : e.1 = k'
      · simp [he]
      · simp [he]

namespace Multimap

def empty : Multimap κ α := ⟨[], List.Pairwise.nil⟩

def emplace (m : Multimap κ α) (k : κ) (v : α) : Multimap κ α :=
  ⟨insertUpperBound k v m.entries, insertUpperBound_sorted m.sorted⟩

/-- The values of a key, in their order. -/
def equalRange (m : Multimap κ α) (k : κ) : List α :=
  m.entries.filterMap fun e => if e.1 = k then some e.2 else none

def count (m : Multimap κ α) (k : κ) : Nat := (m.equalRange k).length

/-- Removes the elements of a key. -/
def erase (m : Multimap κ α) (k : κ) : Multimap κ α :=
  ⟨m.entries.filter fun e => e.1 ≠ k, m.sorted.filter _⟩

@[simp] theorem equalRange_empty (k : κ) : (empty : Multimap κ α).equalRange k = [] := rfl

theorem equalRange_emplace (m : Multimap κ α) (k k' : κ) (v : α) :
    (m.emplace k v).equalRange k' = m.equalRange k' ++ if k = k' then [v] else [] :=
  filterMap_insertUpperBound m.sorted k'

@[simp] theorem equalRange_emplace_self (m : Multimap κ α) (k : κ) (v : α) :
    (m.emplace k v).equalRange k = m.equalRange k ++ [v] := by
  rw [equalRange_emplace, if_pos rfl]

@[simp] theorem equalRange_erase_self (m : Multimap κ α) (k : κ) :
    (m.erase k).equalRange k = [] := by
  rw [equalRange, erase, List.filterMap_eq_nil_iff]
  intro e hmem
  rw [if_neg]
  simpa using (List.mem_filter.mp hmem).2

theorem equalRange_emplace_of_ne (m : Multimap κ α) {k k' : κ} (hne : k' ≠ k) (v : α) :
    (m.emplace k v).equalRange k' = m.equalRange k' := by
  rw [equalRange_emplace, if_neg hne.symm, List.append_nil]

theorem equalRange_erase_of_ne (m : Multimap κ α) {k k' : κ} (hne : k' ≠ k) :
    (m.erase k).equalRange k' = m.equalRange k' := by
  rw [equalRange, equalRange, erase, List.filterMap_filter]
  congr 1
  funext e
  by_cases he : e.1 = k'
  · simp [he, hne]
  · simp [he]

end Multimap

end Hatohol.Container

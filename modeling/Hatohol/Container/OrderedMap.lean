import Mathlib.Data.List.Basic
import Mathlib.Data.List.Nodup
import Mathlib.Data.List.Perm.Basic
import Mathlib.Order.Lattice

/-!
# Maps that are ordered by their keys

A `std::map`: its entries in the order of the keys, each key once. What is in a map is given up to a
permutation of its entries, so that the order is of no concern to its users.
-/

namespace Hatohol.Container

universe u v

@[ext]
structure OrderedMap (κ : Type u) (α : Type v) [LinearOrder κ] where
  entries : List (κ × α)
  sorted : entries.Pairwise fun e e' => e.1 < e'.1

namespace OrderedMap

variable {κ : Type u} {α : Type v} [LinearOrder κ]

def empty : OrderedMap κ α := ⟨[], List.Pairwise.nil⟩

/-- `m[k] = v` -/
def set (m : OrderedMap κ α) (k : κ) (v : α) : OrderedMap κ α where
  entries := m.entries.filter (·.1 < k) ++ (k, v) :: m.entries.filter (k < ·.1)
  sorted := by
    rw [List.pairwise_append, List.pairwise_cons]
    refine ⟨m.sorted.filter _, ⟨fun e he => ?_, m.sorted.filter _⟩, fun e he e' he' => ?_⟩
    · exact of_decide_eq_true (List.mem_filter.mp he).2
    · have hbelow : e.1 < k := of_decide_eq_true (List.mem_filter.mp he).2
      rcases List.mem_cons.mp he' with rfl | he'
      · exact hbelow
      · exact hbelow.trans (of_decide_eq_true (List.mem_filter.mp he').2)

@[simp] theorem entries_set_empty (k : κ) (v : α) :
    ((empty : OrderedMap κ α).set k v).entries = [(k, v)] := rfl

def find? (m : OrderedMap κ α) (k : κ) : Option α := m.entries.lookup k

def erase (m : OrderedMap κ α) (k : κ) : OrderedMap κ α where
  entries := m.entries.filter (·.1 ≠ k)
  sorted := m.sorted.filter _

/-- All the entries, in the order in which they are set. -/
def ofList (es : List (κ × α)) : OrderedMap κ α := es.foldl (fun m e => m.set e.1 e.2) empty

theorem mem_entries_of_find? {m : OrderedMap κ α} {k : κ} {v : α} (hfind : m.find? k = some v) :
    (k, v) ∈ m.entries := by
  obtain ⟨l, r, hentries, -⟩ := List.lookup_eq_some_iff.mp hfind
  rw [hentries]
  exact List.mem_append_right _ List.mem_cons_self

theorem keys_nodup (m : OrderedMap κ α) : (m.entries.map Prod.fst).Nodup :=
  List.pairwise_map.mpr (m.sorted.imp fun hlt => hlt.ne)

theorem find?_eq_some_iff {m : OrderedMap κ α} {k : κ} {v : α} :
    m.find? k = some v ↔ (k, v) ∈ m.entries := by
  refine ⟨mem_entries_of_find?, fun hmem => ?_⟩
  obtain ⟨w, hfind⟩ : ∃ w, m.find? k = some w := by
    cases hfind : m.find? k with
    | some w => exact ⟨w, rfl⟩
    | none =>
      have hne := List.lookup_eq_none_iff.mp hfind (k, v) hmem
      simp at hne
  have hsame : (k, v) = (k, w) :=
    List.inj_on_of_nodup_map m.keys_nodup hmem (mem_entries_of_find? hfind) rfl
  rw [hfind, (Prod.mk.inj hsame).2]

theorem find?_eq_none_iff {m : OrderedMap κ α} {k : κ} :
    m.find? k = none ↔ k ∉ m.entries.map Prod.fst := by
  constructor
  · rintro hfind hmem
    obtain ⟨e, he, rfl⟩ := List.mem_map.mp hmem
    rw [find?_eq_some_iff.mpr he] at hfind
    cases hfind
  · intro hmem
    cases hfind : m.find? k with
    | none => rfl
    | some v => exact absurd (List.mem_map.mpr ⟨_, mem_entries_of_find? hfind, rfl⟩) hmem

theorem mem_entries_set {m : OrderedMap κ α} {k : κ} {v : α} {e : κ × α} :
    e ∈ (m.set k v).entries ↔ e = (k, v) ∨ e.1 ≠ k ∧ e ∈ m.entries := by
  change e ∈ m.entries.filter (·.1 < k) ++ (k, v) :: m.entries.filter (k < ·.1) ↔ _
  rw [List.mem_append, List.mem_cons, List.mem_filter, List.mem_filter, decide_eq_true_iff,
    decide_eq_true_iff]
  constructor
  · rintro (⟨hmem, hlt⟩ | rfl | ⟨hmem, hlt⟩)
    · exact .inr ⟨hlt.ne, hmem⟩
    · exact .inl rfl
    · exact .inr ⟨hlt.ne', hmem⟩
  · rintro (rfl | ⟨hne, hmem⟩)
    · exact .inr (.inl rfl)
    · rcases lt_or_gt_of_ne hne with hlt | hlt
      · exact .inl ⟨hmem, hlt⟩
      · exact .inr (.inr ⟨hmem, hlt⟩)

theorem find?_set (m : OrderedMap κ α) (k k' : κ) (v : α) :
    (m.set k v).find? k' = if k' = k then some v else m.find? k' := by
  refine Option.ext fun w => ?_
  rw [find?_eq_some_iff, mem_entries_set]
  by_cases hk : k' = k
  · subst hk
    rw [if_pos rfl]
    constructor
    · rintro (heq | ⟨hne, -⟩)
      · rw [(Prod.mk.inj heq).2]
      · exact absurd rfl hne
    · rintro heq
      exact .inl (by rw [Option.some.inj heq])
  · rw [if_neg hk, find?_eq_some_iff]
    constructor
    · rintro (heq | ⟨-, hmem⟩)
      · exact absurd (Prod.mk.inj heq).1 hk
      · exact hmem
    · exact fun hmem => .inr ⟨hk, hmem⟩

theorem find?_empty (k : κ) : (empty : OrderedMap κ α).find? k = none := rfl

/-- Every other entry is before the key or after it. -/
theorem perm_of_filters (k : κ) {es : List (κ × α)} (hne : ∀ e ∈ es, e.1 ≠ k) :
    (es.filter (·.1 < k) ++ es.filter (k < ·.1)).Perm es := by
  have hcongr : es.filter (k < ·.1) = es.filter fun e => !decide (e.1 < k) := by
    refine List.filter_congr fun e he => ?_
    rw [← decide_not]
    exact decide_eq_decide.mpr
      ⟨fun hlt => hlt.not_gt, fun hnot => lt_of_le_of_ne (not_lt.mp hnot) (hne e he).symm⟩
  rw [hcongr]
  exact List.filter_append_perm _ _

theorem set_perm_of_fresh (m : OrderedMap κ α) {k : κ} (hfresh : k ∉ m.entries.map Prod.fst)
    (v : α) : (m.set k v).entries.Perm ((k, v) :: m.entries) := by
  have hne : ∀ e ∈ m.entries, e.1 ≠ k := by
    rintro e he rfl
    exact hfresh (List.mem_map_of_mem he)
  exact List.perm_middle.trans ((perm_of_filters k hne).cons _)

/-- A key after all others goes to the end. -/
theorem entries_set_of_lt {m : OrderedMap κ α} {k : κ} (hlt : ∀ e ∈ m.entries, e.1 < k) (v : α) :
    (m.set k v).entries = m.entries ++ [(k, v)] := by
  have hbelow : m.entries.filter (·.1 < k) = m.entries :=
    List.filter_eq_self.mpr fun e he => decide_eq_true (hlt e he)
  have habove : m.entries.filter (k < ·.1) = [] :=
    List.filter_eq_nil_iff.mpr fun e he => by simp [(hlt e he).le]
  change m.entries.filter (·.1 < k) ++ (k, v) :: m.entries.filter (k < ·.1) = _
  rw [hbelow, habove]

/-- A key that is there gets another value. -/
theorem set_perm_of_mem {m : OrderedMap κ α} {k : κ} {v : α} {rest : List (κ × α)}
    (hperm : m.entries.Perm ((k, v) :: rest)) (w : α) :
    (m.set k w).entries.Perm ((k, w) :: rest) := by
  have hnodup : (((k, v) :: rest).map Prod.fst).Nodup := (hperm.map _).nodup m.keys_nodup
  have hne : ∀ e ∈ rest, e.1 ≠ k := by
    rintro e he rfl
    exact (List.nodup_cons.mp hnodup).1 (List.mem_map.mpr ⟨e, he, rfl⟩)
  refine List.perm_middle.trans (List.Perm.cons _ ?_)
  refine (((hperm.filter _).append (hperm.filter _))).trans ?_
  rw [List.filter_cons_of_neg (by simp), List.filter_cons_of_neg (by simp)]
  exact perm_of_filters k hne

theorem erase_perm {m : OrderedMap κ α} {k : κ} {v : α} {rest : List (κ × α)}
    (hperm : m.entries.Perm ((k, v) :: rest)) : (m.erase k).entries.Perm rest := by
  have hnodup : (((k, v) :: rest).map Prod.fst).Nodup := (hperm.map _).nodup m.keys_nodup
  refine (hperm.filter _).trans ?_
  rw [List.filter_cons_of_neg (by simp), List.filter_eq_self.mpr]
  rintro e he
  refine decide_eq_true ?_
  rintro rfl
  exact (List.nodup_cons.mp hnodup).1 (List.mem_map.mpr ⟨e, he, rfl⟩)

theorem foldl_set_perm {es : List (κ × α)} {m : OrderedMap κ α}
    (hnodup : ((m.entries ++ es).map Prod.fst).Nodup) :
    (es.foldl (fun m e => m.set e.1 e.2) m).entries.Perm (m.entries ++ es) := by
  induction es generalizing m with
  | nil => rw [List.append_nil]; rfl
  | cons e es ih =>
    have hfresh : e.1 ∉ m.entries.map Prod.fst := by
      rw [List.map_append, List.map_cons] at hnodup
      exact fun hmem => (List.nodup_append.mp hnodup).2.2 _ hmem _ List.mem_cons_self rfl
    have hset : (m.set e.1 e.2).entries.Perm (e :: m.entries) := m.set_perm_of_fresh hfresh e.2
    have hall : ((m.set e.1 e.2).entries ++ es).Perm (m.entries ++ e :: es) :=
      (hset.append_right es).trans List.perm_middle.symm
    exact (ih ((hall.map Prod.fst).nodup_iff.mpr hnodup)).trans hall

/-- Distinct keys are all there. -/
theorem ofList_perm {es : List (κ × α)} (hnodup : (es.map Prod.fst).Nodup) :
    (ofList es).entries.Perm es :=
  foldl_set_perm (m := empty) hnodup

end OrderedMap

end Hatohol.Container

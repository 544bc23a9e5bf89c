import Hatohol.Table.Keyed
import Mathlib.Data.Option.Basic

/-!
# Reconciling stored rows with incoming ones

The rows that are stored now are put in a map by their keys. A loop over the incoming rows takes
those that are unchanged out of the map; the others are to be added, and what stays in the map is
to be removed. A row that is stored but changed is on both sides.
-/

namespace Hatohol.Table

variable {R K : Type} [Ord K]

/-- The map from keys to rows, built row by row. -/
def mapOf (key : R → K) (rows : List R) : Std.TreeMap K R :=
  rows.foldl (fun current r => current.insert (key r) r) ∅

/-- The incoming rows to be added, and what is left of the map. -/
def reconcile (key : R → K) (changed : R → R → Bool) :
    List R → Std.TreeMap K R → List R × Std.TreeMap K R
  | [], current => ([], current)
  | new :: news, current =>
      if !current[key new]?.any (changed new) && current.contains (key new) then
        reconcile key changed news (current.erase (key new))
      else
        let (added, left) := reconcile key changed news current
        (new :: added, left)

/-- The rows of a map in the order of their keys. -/
def values (current : Std.TreeMap K R) : List R := current.toList.map (·.2)

variable [Std.TransOrd K] {key : R → K}

section Unchanged

variable {changed : R → R → Bool}

/-- The row is taken out of the map if it is there and unchanged. -/
theorem unchanged_eq (current : Std.TreeMap K R) (new : R) :
    (!current[key new]?.any (changed new) && current.contains (key new)) =
      !current[key new]?.all (changed new) := by
  rw [Std.TreeMap.contains_eq_isSome_getElem?]
  cases current[key new]? <;> simp

theorem reconcile_cons (new : R) (news : List R) (current : Std.TreeMap K R) :
    reconcile key changed (new :: news) current =
      if current[key new]?.all (changed new) then
        (new :: (reconcile key changed news current).1, (reconcile key changed news current).2)
      else reconcile key changed news (current.erase (key new)) := by
  rw [reconcile, unchanged_eq]
  cases current[key new]?.all (changed new) <;> rfl

end Unchanged

variable [Std.LawfulEqOrd K] [DecidableEq K]

theorem getElem?_foldl_insert {rows : List R} (hrows : (rows.map key).Nodup)
    (current : Std.TreeMap K R) (k : K) :
    (rows.foldl (fun current r => current.insert (key r) r) current)[k]? =
      (lookup key rows k).or current[k]? := by
  induction rows generalizing current with
  | nil => rfl
  | cons row rows ih =>
    simp only [List.map_cons, List.nodup_cons, List.mem_map, not_exists, not_and] at hrows
    rw [List.foldl_cons, ih hrows.2, Std.TreeMap.getElem?_insert]
    by_cases hk : key row = k
    · have hnone : lookup key rows k = none := by
        rw [lookup_eq_none]
        intro r hr hr'
        exact hrows.1 r hr (hr'.trans hk.symm)
      have hhead : lookup key (row :: rows) k = some row := by simp [lookup, hk]
      rw [hnone, hhead]
      simp [hk]
    · have hskip : lookup key (row :: rows) k = lookup key rows k := by simp [lookup, hk]
      rw [hskip]
      simp [hk]

theorem getElem?_mapOf {rows : List R} (hrows : (rows.map key).Nodup) (k : K) :
    (mapOf key rows)[k]? = lookup key rows k := by
  rw [mapOf, getElem?_foldl_insert hrows]
  simp

section Reconcile

variable {changed : R → R → Bool}

omit [DecidableEq K] in
/-- The rows to be added are those that are not stored, or stored and changed. -/
theorem reconcile_added {news : List R} (hnews : (news.map key).Nodup)
    (current : Std.TreeMap K R) :
    (reconcile key changed news current).1 =
      news.filter fun new => current[key new]?.all (changed new) := by
  induction news generalizing current with
  | nil => rfl
  | cons new news ih =>
    simp only [List.map_cons, List.nodup_cons, List.mem_map, not_exists, not_and] at hnews
    rw [reconcile_cons]
    cases hchanged : current[key new]?.all (changed new) with
    | true => simp [hchanged, ih hnews.2]
    | false =>
      rw [List.filter_cons_of_neg (by simp [hchanged])]
      refine (ih hnews.2 _).trans (List.filter_congr fun x hx => ?_)
      -- a row that is taken out is none of the rows still to come
      have hne : key new ≠ key x := fun h => hnews.1 x hx h.symm
      simp [Std.TreeMap.getElem?_erase, hne]

/-- The rows that are left are those that do not come in, or come in changed. -/
theorem reconcile_left {news : List R} (hnews : (news.map key).Nodup)
    (current : Std.TreeMap K R) (k : K) :
    (reconcile key changed news current).2[k]? =
      current[k]?.filter fun old => (lookup key news k).all (changed · old) := by
  induction news generalizing current with
  | nil => cases h : current[k]? <;> simp [reconcile, lookup, h, Option.filter]
  | cons new news ih =>
    simp only [List.map_cons, List.nodup_cons, List.mem_map, not_exists, not_and] at hnews
    rw [reconcile_cons]
    by_cases hk : key new = k
    · subst hk
      have hnone : lookup key news (key new) = none := lookup_eq_none.mpr hnews.1
      have hhead : lookup key (new :: news) (key new) = some new := by simp [lookup]
      cases hold : current[key new]? with
      | none =>
        simp only [Option.all_none, if_true, Option.filter_none]
        rw [ih hnews.2, hold]
        rfl
      | some old =>
        cases hchanged : changed new old with
        | true => simp [hchanged, ih hnews.2, hold, hnone, hhead, Option.filter]
        | false => simp [hchanged, ih hnews.2, hhead, Option.filter]
    · have hskip : lookup key (new :: news) k = lookup key news k := by simp [lookup, hk]
      rw [hskip]
      split
      · exact ih hnews.2 current
      · rw [ih hnews.2, Std.TreeMap.getElem?_erase]
        simp [hk]

/-- A row that is to be added is removed first, if it is stored. -/
theorem left_of_mem_added {news : List R} (hnews : (news.map key).Nodup)
    {current : Std.TreeMap K R} {new : R} (hnew : new ∈ (reconcile key changed news current).1) :
    (reconcile key changed news current).2[key new]? = current[key new]? := by
  rw [reconcile_added hnews, List.mem_filter] at hnew
  rw [reconcile_left hnews, lookup_of_mem hnews hnew.1]
  cases hold : current[key new]? with
  | none => rfl
  | some old =>
    rw [hold, Option.all_some] at hnew
    simp [Option.filter, hnew.2]

/-! Without different keys: what is added comes in, what is left was there, and a row that does not
come in is left. -/

omit [Std.LawfulEqOrd K] [DecidableEq K] in
theorem mem_of_mem_added {news : List R} {current : Std.TreeMap K R} {new : R}
    (h : new ∈ (reconcile key changed news current).1) : new ∈ news := by
  induction news generalizing current with
  | nil => simp [reconcile] at h
  | cons x xs ih =>
    rw [reconcile_cons] at h
    split at h
    · rcases List.mem_cons.mp h with rfl | h
      · simp
      · exact List.mem_cons_of_mem _ (ih h)
    · exact List.mem_cons_of_mem _ (ih h)

omit [Std.LawfulEqOrd K] [DecidableEq K] in
theorem getElem?_of_left {news : List R} {current : Std.TreeMap K R} {k : K} {r : R}
    (h : (reconcile key changed news current).2[k]? = some r) : current[k]? = some r := by
  induction news generalizing current with
  | nil => exact h
  | cons x xs ih =>
    rw [reconcile_cons] at h
    split at h
    · exact ih h
    · have herase := ih h
      rw [Std.TreeMap.getElem?_erase] at herase
      split at herase
      · simp at herase
      · exact herase

omit [DecidableEq K] in
theorem left_of_notMem {news : List R} {current : Std.TreeMap K R} {k : K}
    (hk : k ∉ news.map key) : (reconcile key changed news current).2[k]? = current[k]? := by
  induction news generalizing current with
  | nil => rfl
  | cons x xs ih =>
    rw [List.map_cons, List.mem_cons, not_or] at hk
    rw [reconcile_cons]
    split
    · exact ih hk.2
    · rw [ih hk.2, Std.TreeMap.getElem?_erase]
      simp [Ne.symm hk.1]

/-- The rows that are left are those that no incoming row with their key leaves unchanged. -/
theorem getElem?_left (news : List R) (current : Std.TreeMap K R) (k : K) :
    (reconcile key changed news current).2[k]? =
      current[k]?.filter fun old => news.all fun new => decide (key new ≠ k) || changed new old :=
        by
  induction news generalizing current with
  | nil => cases h : current[k]? <;> simp [reconcile, h, Option.filter]
  | cons x xs ih =>
    rw [reconcile_cons]
    by_cases hx : key x = k
    · subst hx
      cases hold : current[key x]? with
      | none => simp [ih, hold]
      | some old =>
        cases hchanged : changed x old with
        | true => simp [hchanged, ih, hold, Option.filter]
        | false => simp [hchanged, ih, Option.filter]
    · split
      · rw [ih]
        simp [hx]
      · rw [ih, Std.TreeMap.getElem?_erase]
        simp [hx]

/-- A key is not among those to be added exactly when it does not come in, or comes in once and is
    unchanged. -/
theorem notMem_added_iff {news : List R} {current : Std.TreeMap K R} {k : K} :
    (∀ new ∈ (reconcile key changed news current).1, key new ≠ k) ↔
      k ∉ news.map key ∨ ∃ new old, news.filter (fun r => decide (key r = k)) = [new] ∧
        current[k]? = some old ∧ changed new old = false := by
  induction news generalizing current with
  | nil => simp [reconcile]
  | cons x xs ih =>
    rw [reconcile_cons]
    by_cases hx : key x = k
    · subst hx
      cases hold : current[key x]? with
      | none => simp
      | some old =>
        cases hchanged : changed x old with
        | true => simp [hchanged]
        | false =>
          -- the key is taken out of the map, and must not come again
          have herase : (current.erase (key x))[key x]? = none := by
            simp
          rw [Option.all_some, hchanged, if_neg Bool.false_ne_true, ih, herase]
          have hrest : xs.filter (fun r => decide (key r = key x)) = [] ↔ key x ∉ xs.map key := by
            simp [List.filter_eq_nil_iff]
          simp [hchanged, hrest]
    · have hkeys : k ∉ (x :: xs).map key ↔ k ∉ xs.map key := by simp [Ne.symm hx]
      rw [hkeys, List.filter_cons_of_neg (by simpa using hx)]
      split
      · rw [← ih]
        simp [hx]
      · rw [ih, Std.TreeMap.getElem?_erase]
        simp [hx]

omit [DecidableEq K] in
/-- A row that comes in and is not added again is not left. -/
theorem left_of_notMem_added {news : List R} {current : Std.TreeMap K R} {k : K}
    (hk : k ∈ news.map key) (hadded : ∀ new ∈ (reconcile key changed news current).1, key new ≠ k) :
    (reconcile key changed news current).2[k]? = none := by
  induction news generalizing current with
  | nil => simp at hk
  | cons x xs ih =>
    rw [reconcile_cons] at hadded ⊢
    split at hadded
    · rename_i hall
      have hx : key x ≠ k := hadded x (by simp)
      rw [if_pos hall]
      refine ih ?_ fun new hnew => hadded new (by simp [hnew])
      simpa [Ne.symm hx] using hk
    · rename_i hall
      rw [if_neg hall]
      by_cases hx : key x = k
      · rw [Option.eq_none_iff_forall_ne_some]
        intro r hr
        have hcurrent := getElem?_of_left hr
        simp [hx] at hcurrent
      · refine ih ?_ hadded
        simpa [Ne.symm hx] using hk

end Reconcile

/-! ## The rows of a map -/

section Values

variable {current : Std.TreeMap K R}

omit [DecidableEq K] in
theorem mem_values {r : R} : r ∈ values current ↔ ∃ k : K, current[k]? = some r := by
  rw [values, List.mem_map]
  constructor
  · rintro ⟨⟨k, r⟩, hmem, rfl⟩
    exact ⟨k, Std.TreeMap.mem_toList_iff_getElem?_eq_some.mp hmem⟩
  · rintro ⟨k, hk⟩
    exact ⟨(k, r), Std.TreeMap.mem_toList_iff_getElem?_eq_some.mpr hk, rfl⟩

omit [Std.LawfulEqOrd K] [DecidableEq K] in
/-- A row that is in the map is one that was put in. -/
theorem mem_of_mapOf {rows : List R} {k : K} {r : R} (h : (mapOf key rows)[k]? = some r) :
    r ∈ rows := by
  have hinsert : ∀ (rows : List R) (current : Std.TreeMap K R),
      (rows.foldl (fun current r => current.insert (key r) r) current)[k]? = some r →
        r ∈ rows ∨ current[k]? = some r := by
    intro rows
    induction rows with
    | nil => exact fun current h => .inr h
    | cons x xs ih =>
      intro current h
      rcases ih _ h with h | h
      · exact .inl (List.mem_cons_of_mem _ h)
      · rw [Std.TreeMap.getElem?_insert] at h
        split at h
        · exact .inl (by simp [Option.some.inj h])
        · exact .inr h
  rcases hinsert rows ∅ h with h | h
  · exact h
  · simp at h

omit [DecidableEq K] in
theorem mem_of_mem_left {changed : R → R → Bool} {news rows : List R} {r : R}
    (h : r ∈ values (reconcile key changed news (mapOf key rows)).2) : r ∈ rows := by
  obtain ⟨k, hk⟩ := mem_values.mp h
  exact mem_of_mapOf (getElem?_of_left hk)

end Values

end Hatohol.Table

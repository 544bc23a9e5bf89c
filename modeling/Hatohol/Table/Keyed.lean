import Mathlib.Data.List.Nodup

/-!
# Tables with unique keys

Rows of a table that has a unique index are seen through `lookup`, which is single-valued as long
as no key occurs twice. `put` is an insertion that updates the row with the same key, and
`AutoTable` a table whose primary key is counted up besides.
-/

namespace Hatohol.Table

variable {R K : Type} [DecidableEq K]

/-! ## One unique key -/

/-- The row with a key. -/
def lookup (key : R → K) (rows : List R) (k : K) : Option R :=
    rows.find? fun r => decide (key r = k)

section Lookup

variable {key : R → K} {rows : List R} {r : R} {k : K}

theorem mem_of_lookup (h : lookup key rows k = some r) : r ∈ rows := List.mem_of_find?_eq_some h

theorem key_of_lookup (h : lookup key rows k = some r) : key r = k := by
  simpa using List.find?_some h

theorem lookup_eq_none : lookup key rows k = none ↔ ∀ r ∈ rows, key r ≠ k := by
  simp [lookup]

theorem lookup_of_mem (hnodup : (rows.map key).Nodup) (hr : r ∈ rows) :
    lookup key rows (key r) = some r := by
  induction rows with
  | nil => simp at hr
  | cons x xs ih =>
    simp only [List.map_cons, List.nodup_cons, List.mem_map, not_exists, not_and] at hnodup
    rcases List.mem_cons.mp hr with rfl | hr
    · simp [lookup]
    · have hne : key x ≠ key r := fun h => hnodup.1 r hr h.symm
      simpa [lookup, hne] using ih hnodup.2 hr

/-- A row is in the table exactly when it is found under its key. -/
theorem mem_iff_lookup (hnodup : (rows.map key).Nodup) :
    r ∈ rows ↔ lookup key rows (key r) = some r :=
  ⟨lookup_of_mem hnodup, mem_of_lookup⟩

theorem lookup_filter (hnodup : (rows.map key).Nodup) (p : R → Bool) (k : K) :
    lookup key (rows.filter p) k = (lookup key rows k).filter p := by
  induction rows with
  | nil => rfl
  | cons x xs ih =>
    simp only [List.map_cons, List.nodup_cons, List.mem_map, not_exists, not_and] at hnodup
    by_cases hx : key x = k
    · have hnone : lookup key (xs.filter p) k = none := by
        rw [lookup_eq_none]
        intro r hr hk
        exact hnodup.1 r (List.mem_of_mem_filter hr) (hk.trans hx.symm)
      cases hp : p x with
      | true => simp [lookup, hx, hp, Option.filter]
      | false =>
        have hhead : lookup key (x :: xs) k = some x := by simp [lookup, hx]
        rw [List.filter_cons_of_neg (by simp [hp]), hnone, hhead]
        simp [Option.filter, hp]
    · have hskip : lookup key (x :: xs) k = lookup key xs k := by simp [lookup, hx]
      rw [hskip, ← ih hnodup.2]
      cases hp : p x with
      | true => simp [lookup, hx, hp]
      | false => simp [hp]

variable (key) in
/-- Rows that are rewritten under their keys. -/
theorem lookup_map {R' : Type} {key' : R' → K} {f : R → R'} (hf : ∀ r ∈ rows, key' (f r) = key r)
    (k : K) : lookup key' (rows.map f) k = (lookup key rows k).map f := by
  induction rows with
  | nil => rfl
  | cons x xs ih =>
    have hx := hf x (by simp)
    have hxs := ih fun r hr => hf r (by simp [hr])
    by_cases hk : key x = k
    · simp [lookup, hx, hk]
    · simpa [lookup, hx, hk] using hxs

theorem lookup_append (rows' : List R) (k : K) :
    lookup key (rows ++ rows') k = (lookup key rows k).or (lookup key rows' k) :=
  List.find?_append

/-- The row that is found is the only one with its key. -/
theorem filter_key_eq_singleton (hnodup : (rows.map key).Nodup) (h : lookup key rows k = some r) :
    rows.filter (fun r => decide (key r = k)) = [r] := by
  induction rows with
  | nil => simp [lookup] at h
  | cons x xs ih =>
    simp only [List.map_cons, List.nodup_cons, List.mem_map, not_exists, not_and] at hnodup
    by_cases hx : key x = k
    · obtain rfl : x = r := by simpa [lookup, hx] using h
      have hrest : xs.filter (fun r => decide (key r = k)) = [] := by
        rw [List.filter_eq_nil_iff]
        intro y hy
        simpa [← hx] using hnodup.1 y hy
      rw [List.filter_cons_of_pos (by simpa using hx), hrest]
    · have hskip : lookup key xs k = some r := by simpa [lookup, hx] using h
      rw [List.filter_cons_of_neg (by simpa using hx), ih hnodup.2 hskip]

/-- All rows with a key but the one that is found. -/
theorem countP_not_lookup [DecidableEq R] (hnodup : rows.Nodup) (key : R → K) (k : K) :
    rows.countP (fun r => decide (key r = k ∧ lookup key rows k ≠ some r)) =
      rows.countP (fun r => decide (key r = k)) - 1 := by
  induction rows with
  | nil => rfl
  | cons x xs ih =>
    rw [List.nodup_cons] at hnodup
    by_cases hx : key x = k
    · have hhead : lookup key (x :: xs) k = some x := by simp [lookup, hx]
      have hrest : xs.countP (fun r => decide (key r = k ∧ some x ≠ some r)) =
          xs.countP (fun r => decide (key r = k)) := by
        apply List.countP_congr
        intro r hr
        have hne : x ≠ r := fun h => hnodup.1 (h ▸ hr)
        simp [hne]
      rw [hhead, List.countP_cons, List.countP_cons, hrest]
      simp [hx]
    · have hskip : lookup key (x :: xs) k = lookup key xs k := by simp [lookup, hx]
      rw [hskip, List.countP_cons, List.countP_cons, ih hnodup.2]
      simp [hx]

/-- A key of two parts: among the rows with one first part the second part is a key. -/
theorem nodup_part {A B : Type} {f : R → A} {g : R → B}
    (hnodup : (rows.map fun r => (f r, g r)).Nodup) {p : R → Bool} {a : A}
    (hp : ∀ r ∈ rows, p r → f r = a) : ((rows.filter p).map g).Nodup := by
  apply List.Nodup.map_on _ (hnodup.of_map.filter p)
  intro r hr r' hr' heq
  rw [List.mem_filter] at hr hr'
  have hfirst := (hp r hr.1 hr.2).trans (hp r' hr'.1 hr'.2).symm
  exact List.inj_on_of_nodup_map hnodup hr.1 hr'.1 (Prod.ext hfirst heq)

theorem lookup_part {A B : Type} [DecidableEq A] [DecidableEq B] {f : R → A} {g : R → B}
    (hnodup : (rows.map fun r => (f r, g r)).Nodup) {p : R → Bool} {a : A}
    (hp : ∀ r ∈ rows, p r → f r = a) (k : B) :
    lookup g (rows.filter p) k = (lookup (fun r => (f r, g r)) rows (a, k)).filter p := by
  rw [← lookup_filter hnodup]
  have hall : ∀ r ∈ rows.filter p, f r = a := by
    intro r hr
    rw [List.mem_filter] at hr
    exact hp r hr.1 hr.2
  generalize rows.filter p = left at hall
  induction left with
  | nil => rfl
  | cons x xs ih =>
    have hx := hall x (by simp)
    have hxs := ih fun r hr => hall r (by simp [hr])
    by_cases hk : g x = k
    · simp [lookup, hk, hx]
    · simpa [lookup, hk] using hxs

end Lookup

/-! ## Insertion with update -/

/-- `INSERT ... ON DUPLICATE KEY UPDATE` in a table whose only unique index is the key. -/
def put (key : R → K) (rows : List R) (new : R) : List R :=
  if (lookup key rows (key new)).isSome then
    rows.map fun r => if key r = key new then new else r
  else rows ++ [new]

section Put

variable {key : R → K} {rows : List R}

theorem map_key_put (new : R) :
    (put key rows new).map key =
      if (lookup key rows (key new)).isSome then rows.map key else rows.map key ++ [key new] := by
  unfold put
  split
  · rw [List.map_map]
    apply List.map_congr_left
    intro r _
    by_cases hr : key r = key new
    · simp [hr]
    · simp [hr]
  · simp

theorem mem_of_mem_put {new r : R} (h : r ∈ put key rows new) : r = new ∨ r ∈ rows := by
  unfold put at h
  split at h
  next =>
    obtain ⟨r', hr', rfl⟩ := List.mem_map.mp h
    split
    next => exact Or.inl rfl
    next => exact Or.inr hr'
  next =>
    rcases List.mem_append.mp h with hold | hnew
    · exact Or.inr hold
    · exact Or.inl (List.mem_singleton.mp hnew)

theorem nodup_put (hnodup : (rows.map key).Nodup) (new : R) :
    ((put key rows new).map key).Nodup := by
  rw [map_key_put]
  split
  · exact hnodup
  · rename_i hnone
    rw [Bool.not_eq_true, Option.isSome_eq_false_iff, Option.isNone_iff_eq_none, lookup_eq_none]
      at hnone
    rw [List.nodup_append]
    refine ⟨hnodup, by simp, ?_⟩
    intro k hk k' hk' heq
    obtain ⟨r, hr, rfl⟩ := List.mem_map.mp hk
    rw [List.mem_singleton] at hk'
    exact hnone r hr (heq.trans hk')

theorem lookup_put (new : R) (k : K) :
    lookup key (put key rows new) k = if k = key new then some new else lookup key rows k := by
  unfold put
  split
  · rename_i hsome
    rw [lookup_map key]
    · by_cases hk : k = key new
      · subst hk
        obtain ⟨old, hold⟩ := Option.isSome_iff_exists.mp hsome
        simp [hold, key_of_lookup hold]
      · rw [if_neg hk]
        cases hold : lookup key rows k with
        | none => rfl
        | some old =>
          have hne : key old ≠ key new := by
            rw [key_of_lookup hold]
            exact hk
          simp [hne]
    · intro r _
      by_cases hr : key r = key new
      · simp [hr]
      · simp [hr]
  · rename_i hnone
    rw [Bool.not_eq_true, Option.isSome_eq_false_iff, Option.isNone_iff_eq_none] at hnone
    rw [lookup_append]
    by_cases hk : k = key new
    · subst hk
      rw [hnone]
      simp [lookup]
    · simp [lookup, Ne.symm hk, hk]

/-- Rows that are put under other keys do not matter. -/
theorem lookup_foldl_put_of_ne {news : List R} {k : K} (hnews : ∀ new ∈ news, key new ≠ k) :
    lookup key (news.foldl (put key) rows) k = lookup key rows k := by
  induction news generalizing rows with
  | nil => rfl
  | cons new news ih =>
    rw [List.foldl_cons, ih fun x hx => hnews x (by simp [hx]), lookup_put,
      if_neg (hnews new (by simp)).symm]

/-- Rows with different keys that are put one after another are all there, and the others are as
    they were. -/
theorem lookup_foldl_put {news : List R} (hnews : (news.map key).Nodup) (k : K) :
    lookup key (news.foldl (put key) rows) k = (lookup key news k).or (lookup key rows k) := by
  induction news generalizing rows with
  | nil => rfl
  | cons new news ih =>
    simp only [List.map_cons, List.nodup_cons, List.mem_map, not_exists, not_and] at hnews
    rw [List.foldl_cons, ih hnews.2, lookup_put]
    by_cases hk : key new = k
    · have hnone : lookup key news k = none := by
        rw [lookup_eq_none]
        intro r hr hr'
        exact hnews.1 r hr (hr'.trans hk.symm)
      have hhead : lookup key (new :: news) k = some new := by simp [lookup, hk]
      rw [hnone, hhead]
      simp [hk]
    · have hskip : lookup key (new :: news) k = lookup key news k := by simp [lookup, hk]
      rw [hskip, if_neg (Ne.symm hk)]

end Put

/-! ## A primary key that is counted up -/

/-- Rows under a number, and the number that the next row gets. -/
structure Counted (id : R → Nat) where
  rows : List R
  next : Nat
  id_lt : ∀ r ∈ rows, id r < next
  unique_id : (rows.map id).Nodup

namespace Counted

variable {id : R → Nat}

def empty (id : R → Nat) : Counted id where
  rows := []
  next := 1
  id_lt := by simp
  unique_id := by simp

/-- The row with a number. -/
def byId (t : Counted id) (n : Nat) : Option R := lookup id t.rows n

theorem byId_next (t : Counted id) : t.byId t.next = none := by
  rw [byId, lookup_eq_none]
  intro r hr
  have := t.id_lt r hr
  omega

theorem eq_of_id (t : Counted id) {r r' : R} (hr : r ∈ t.rows) (hr' : r' ∈ t.rows)
    (h : id r = id r') : r = r' :=
  List.inj_on_of_nodup_map t.unique_id hr hr' h

theorem nodup_rows (t : Counted id) : t.rows.Nodup := t.unique_id.of_map

omit [DecidableEq K] in
/-- A row that is replaced keeps its number. -/
theorem map_id_replace {withId : Nat → R → R} (hwithId : ∀ n r, id (withId n r) = n) {rows : List R}
    {n : Nat} {row : R} :
    (rows.map fun r => if id r = n then withId n row else r).map id = rows.map id := by
  rw [List.map_map]
  apply List.map_congr_left
  intro r _
  by_cases hr : id r = n
  · simp [hr, hwithId]
  · simp [hr]

/-- A row is inserted under a number that no other row has. -/
def append (t : Counted id) (row : R) (hrow : t.byId (id row) = none) : Counted id where
  rows := t.rows ++ [row]
  next := max t.next (id row + 1)
  id_lt := by
    intro r hr
    rcases List.mem_append.mp hr with hr | hr
    · have := t.id_lt r hr
      omega
    · rw [List.mem_singleton.mp hr]
      omega
  unique_id := by
    rw [List.map_append, List.nodup_append]
    refine ⟨t.unique_id, by simp, ?_⟩
    intro i hi j hj heq
    obtain ⟨r, hr, rfl⟩ := List.mem_map.mp hi
    rw [List.map_singleton, List.mem_singleton] at hj
    exact lookup_eq_none.mp hrow r hr (heq.trans hj)

/-- `INSERT ... ON DUPLICATE KEY UPDATE` where the number is the only key. A row with the number
    zero gets the next one. -/
def upsert (t : Counted id) (withId : Nat → R → R) (hwithId : ∀ n r, id (withId n r) = n)
    (row : R) :
    Counted id :=
  let n := if id row = 0 then t.next else id row
  match hn : t.byId n with
  | none => t.append (withId n row) (by rwa [hwithId])
  | some _ =>
      { rows := t.rows.map fun r => if id r = n then withId n row else r
        next := t.next
        id_lt := by
          intro r hr
          obtain ⟨old, hold, rfl⟩ := List.mem_map.mp hr
          have := t.id_lt old hold
          split
          · rw [hwithId]
            omega
          · exact this
        unique_id := by
          rw [map_id_replace hwithId]
          exact t.unique_id }

theorem map_id_append (t : Counted id) {row : R} (hrow : t.byId (id row) = none) :
    (t.append row hrow).rows.map id = t.rows.map id ++ [id row] := List.map_append

/-- The numbers that are there after an insertion with update. -/
theorem mem_upsert (t : Counted id) {withId : Nat → R → R} (hwithId : ∀ n r, id (withId n r) = n)
    (row : R) (n : Nat) : n ∈ (t.upsert withId hwithId row).rows.map id ↔
      n ∈ t.rows.map id ∨ n = if id row = 0 then t.next else id row := by
  fun_cases Counted.upsert t withId hwithId row with
  | case1 m hnone =>
    rw [map_id_append, List.mem_append, List.mem_singleton, hwithId]
  | case2 m old hold =>
    rw [map_id_replace hwithId]
    constructor
    · exact .inl
    · rintro (h | rfl)
      · exact h
      · exact List.mem_map.mpr ⟨old, mem_of_lookup hold, key_of_lookup hold⟩

/-- `DELETE`: the rows that are left keep their numbers, and no number is given again. -/
def keep (t : Counted id) (p : R → Bool) : Counted id where
  rows := t.rows.filter p
  next := t.next
  id_lt := fun r hr => t.id_lt r (List.mem_of_mem_filter hr)
  unique_id := t.unique_id.sublist (List.filter_sublist.map id)

/-- `UPDATE` of columns other than the number. -/
def modify (t : Counted id) (f : R → R) (hf : ∀ r, id (f r) = id r) : Counted id where
  rows := t.rows.map f
  next := t.next
  id_lt := by
    intro r hr
    obtain ⟨old, hold, rfl⟩ := List.mem_map.mp hr
    rw [hf]
    exact t.id_lt old hold
  unique_id := by
    rw [List.map_map, show id ∘ f = id from funext hf]
    exact t.unique_id

/-! ### Columns that a program keeps unique -/

section Unique

variable {L : Type} {col : R → L} {t : Counted id}

omit [DecidableEq K] in
theorem nodup_append (hnodup : (t.rows.map col).Nodup) {row : R} (hrow : t.byId (id row) = none)
    (hnew : ∀ r ∈ t.rows, col r ≠ col row) : ((t.append row hrow).rows.map col).Nodup := by
  rw [append, List.map_append, List.nodup_append]
  refine ⟨hnodup, by simp, ?_⟩
  intro l hl l' hl' heq
  obtain ⟨r, hr, rfl⟩ := List.mem_map.mp hl
  rw [List.map_singleton, List.mem_singleton] at hl'
  exact hnew r hr (heq.trans hl')

omit [DecidableEq K] in
theorem nodup_keep (hnodup : (t.rows.map col).Nodup) (p : R → Bool) :
    ((t.keep p).rows.map col).Nodup :=
  hnodup.sublist (List.filter_sublist.map col)

omit [DecidableEq K] in
/-- The row with a number is changed, to what no other row has. -/
theorem nodup_modify (hnodup : (t.rows.map col).Nodup) {f : R → R} (hf : ∀ r, id (f r) = id r)
    {n : Nat} (hothers : ∀ r, id r ≠ n → col (f r) = col r)
    (hnew : ∀ r ∈ t.rows, ∀ r' ∈ t.rows, id r = n → id r' ≠ n → col (f r) ≠ col r') :
    ((t.modify f hf).rows.map col).Nodup := by
  rw [modify, List.map_map]
  apply List.Nodup.map_on _ t.nodup_rows
  intro r hr r' hr' heq
  rw [Function.comp_apply, Function.comp_apply] at heq
  by_cases hn : id r = n <;> by_cases hn' : id r' = n
  · exact t.eq_of_id hr hr' (hn.trans hn'.symm)
  · rw [hothers r' hn'] at heq
    exact absurd heq (hnew r hr r' hr' hn hn')
  · rw [hothers r hn] at heq
    exact absurd heq.symm (hnew r' hr' r hr hn' hn)
  · rw [hothers r hn, hothers r' hn'] at heq
    exact List.inj_on_of_nodup_map hnodup hr hr' heq

end Unique

end Counted

/-- What a table with an auto-increment primary key and a unique index sees in a row. -/
structure Schema (R K : Type) where
  id : R → Nat
  withId : Nat → R → R
  key : R → K
  id_withId : ∀ n r, id (withId n r) = n
  key_withId : ∀ n r, key (withId n r) = key r

attribute [simp] Schema.id_withId Schema.key_withId

structure AutoTable (S : Schema R K) extends Counted S.id where
  unique_key : (rows.map S.key).Nodup

namespace AutoTable

variable {S : Schema R K}

def empty (S : Schema R K) : AutoTable S := { Counted.empty S.id with unique_key := by simp [Counted.empty] }

/-- The row with a key. -/
def byKey (t : AutoTable S) (k : K) : Option R := lookup S.key t.rows k

theorem mem_rows_iff (t : AutoTable S) {r : R} : r ∈ t.rows ↔ t.byKey (S.key r) = some r :=
  mem_iff_lookup t.unique_key

theorem key_of_byKey {t : AutoTable S} {k : K} {r : R} (h : t.byKey k = some r) : S.key r = k :=
  key_of_lookup h

theorem mem_of_byKey {t : AutoTable S} {k : K} {r : R} (h : t.byKey k = some r) : r ∈ t.rows :=
  mem_of_lookup h

def append (t : AutoTable S) (row : R) (hid : t.byId (S.id row) = none)
    (hkey : t.byKey (S.key row) = none) : AutoTable S where
  toCounted := t.toCounted.append row hid
  unique_key := by
    rw [Counted.append, List.map_append, List.nodup_append]
    refine ⟨t.unique_key, by simp, ?_⟩
    intro i hi j hj heq
    obtain ⟨r, hr, rfl⟩ := List.mem_map.mp hi
    rw [List.map_singleton, List.mem_singleton] at hj
    exact lookup_eq_none.mp hkey r hr (heq.trans hj)

theorem byKey_append (t : AutoTable S) {row : R} (hid : t.byId (S.id row) = none)
    (hkey : t.byKey (S.key row) = none) (k : K) :
    (t.append row hid hkey).byKey k = if k = S.key row then some row else t.byKey k := by
  have happend : (t.append row hid hkey).byKey k = (t.byKey k).or (lookup S.key [row] k) :=
    lookup_append [row] k
  rw [happend]
  by_cases hk : k = S.key row
  · subst hk
    rw [hkey]
    simp [lookup]
  · simp [lookup, Ne.symm hk, hk]

/-- The row of a number gets the values of another, its number excepted. The key it gets is no
    other row's. -/
def update (t : AutoTable S) (n : Nat) (row : R)
    (hkey : ∀ r ∈ t.rows, S.key r = S.key row → S.id r = n) : AutoTable S where
  rows := t.rows.map fun r => if S.id r = n then S.withId n row else r
  next := t.next
  id_lt := by
    intro r hr
    obtain ⟨old, hold, rfl⟩ := List.mem_map.mp hr
    have := t.id_lt old hold
    split
    · rw [S.id_withId]
      omega
    · exact this
  unique_id := by
    rw [Counted.map_id_replace S.id_withId]
    exact t.unique_id
  unique_key := by
    rw [List.map_map]
    apply List.Nodup.map_on _ t.nodup_rows
    intro r hr r' hr' heq
    simp only [Function.comp_apply] at heq
    by_cases hid : S.id r = n
    · by_cases hid' : S.id r' = n
      · exact t.eq_of_id hr hr' (hid.trans hid'.symm)
      · rw [if_pos hid, if_neg hid', S.key_withId] at heq
        exact absurd (hkey r' hr' heq.symm) hid'
    · by_cases hid' : S.id r' = n
      · rw [if_neg hid, if_pos hid', S.key_withId] at heq
        exact absurd (hkey r hr heq) hid
      · rw [if_neg hid, if_neg hid'] at heq
        exact List.inj_on_of_nodup_map t.unique_key hr hr' heq

/-- An update of the row that has the key already. -/
theorem byKey_update (t : AutoTable S) {n : Nat} {row old : R}
    (hkey : ∀ r ∈ t.rows, S.key r = S.key row → S.id r = n)
    (hold : t.byKey (S.key row) = some old) (k : K) :
    (t.update n row hkey).byKey k =
      if k = S.key row then some (S.withId n row) else t.byKey k := by
  have hid := hkey old (mem_of_byKey hold) (key_of_byKey hold)
  have hmap : (t.update n row hkey).byKey k =
      (t.byKey k).map fun r => if S.id r = n then S.withId n row else r := by
    apply lookup_map
    intro r hr
    by_cases hr' : S.id r = n
    · have : r = old := t.eq_of_id hr (mem_of_byKey hold) (hr'.trans hid.symm)
      rw [if_pos hr', S.key_withId, this]
      exact (key_of_byKey hold).symm
    · rw [if_neg hr']
  rw [hmap]
  by_cases hk : k = S.key row
  · subst hk
    simp [hold, hid]
  · rw [if_neg hk]
    cases hfound : t.byKey k with
    | none => rfl
    | some r =>
      have hne : S.id r ≠ n := by
        intro hr
        have : r = old := t.eq_of_id (mem_of_byKey hfound) (mem_of_byKey hold) (hr.trans hid.symm)
        subst this
        exact hk ((key_of_byKey hfound).symm.trans (key_of_byKey hold))
      simp [hne]

theorem id_of_key (t : AutoTable S) {k : K} {old : R} (hold : t.byKey k = some old) :
    ∀ r ∈ t.rows, S.key r = k → S.id r = S.id old := by
  intro r hr hk
  have hr' := t.mem_rows_iff.mp hr
  rw [hk, hold, Option.some.injEq] at hr'
  rw [hr']

/-! ### Insertion with update -/

section Upsert

variable [DecidableEq R]

/-- The number of affected rows that is reported for an update. -/
def affectedRows (old new : R) : Nat := if new = old then 0 else 2

/-- The number under which a row would be inserted: the next one if it has the number zero. -/
def insertId (t : AutoTable S) (row : R) : Nat := if S.id row = 0 then t.next else S.id row

/-- `INSERT ... ON DUPLICATE KEY UPDATE` of every column but the primary key. There is no result
    if the row would have the number of one row and the key of another, which is an error. The
    number of affected rows is one for an insertion, two for an update and zero for an update that
    changes nothing. -/
def upsert (t : AutoTable S) (row : R) : Option (AutoTable S × Nat) :=
  match hkey : t.byKey (S.key row) with
  | some old =>
      if (t.byId (t.insertId row)).all fun other => S.id other = S.id old then
        some (t.update (S.id old) row (t.id_of_key hkey),
          affectedRows old (S.withId (S.id old) row))
      else none
  | none =>
    match hid : t.byId (t.insertId row) with
    | some old =>
        some (t.update (t.insertId row) row
            (fun r hr heq => absurd heq (lookup_eq_none.mp hkey r hr)),
          affectedRows old (S.withId (t.insertId row) row))
    | none =>
        some (t.append (S.withId (t.insertId row) row) (by rwa [S.id_withId])
          (by rwa [S.key_withId]), 1)

/-- The number under which a row is found after it was inserted or updated by its key. -/
def upsertId (t : AutoTable S) (row : R) : Nat := ((t.byKey (S.key row)).map S.id).getD t.next

theorem upsert_of_mem (t : AutoTable S) {row old : R} (hkey : t.byKey (S.key row) = some old)
    (hid : S.id row = 0 ∨ S.id row = S.id old) :
    t.upsert row = some (t.update (S.id old) row (t.id_of_key hkey),
      affectedRows old (S.withId (S.id old) row)) := by
  have hall : (t.byId (t.insertId row)).all fun other => decide (S.id other = S.id old) := by
    by_cases hzero : S.id row = 0
    · simp [insertId, hzero, t.byId_next]
    · have hbyId : t.byId (S.id old) = some old := lookup_of_mem t.unique_id (mem_of_byKey hkey)
      rw [insertId, if_neg hzero, hid.resolve_left hzero, hbyId]
      simp
  unfold upsert
  split
  · rename_i old' hkey'
    obtain rfl : old' = old := Option.some.inj (hkey'.symm.trans hkey)
    rw [if_pos hall]
  · rename_i hkey'
    simp [hkey'] at hkey

theorem upsert_of_notMem (t : AutoTable S) {row : R} (hkey : t.byKey (S.key row) = none)
    (hid : S.id row = 0) :
    ∃ hid' hkey', t.upsert row = some (t.append (S.withId t.next row) hid' hkey', 1) := by
  refine ⟨by rw [S.id_withId, t.byId_next], by rwa [S.key_withId], ?_⟩
  unfold upsert
  split
  · rename_i old hkey'
    simp [hkey] at hkey'
  · split
    · rename_i old hold
      simp [insertId, hid, t.byId_next] at hold
    · simp only [insertId, if_pos hid]

/-- A row that has no number yet, or the number of the row with its key, is stored under its key
    and nothing else changes. -/
theorem upsert_spec (t : AutoTable S) (row : R)
    (hrow : S.id row = 0 ∨ ∃ old, t.byKey (S.key row) = some old ∧ S.id row = S.id old) :
    ∃ t', t.upsert row = some (t', match t.byKey (S.key row) with
        | none => 1
        | some old => affectedRows old (S.withId (S.id old) row)) ∧
      t.next ≤ t'.next ∧
      ∀ k, t'.byKey k =
        if k = S.key row then some (S.withId (t.upsertId row) row) else t.byKey k := by
  cases hkey : t.byKey (S.key row) with
  | some old =>
    have hid : S.id row = 0 ∨ S.id row = S.id old := by
      refine hrow.imp_right ?_
      rintro ⟨old', hold', hid⟩
      rwa [Option.some.inj (hold'.symm.trans hkey)] at hid
    refine ⟨_, t.upsert_of_mem hkey hid, Nat.le_refl _, fun k => ?_⟩
    rw [byKey_update t _ hkey]
    simp [upsertId, hkey]
  | none =>
    have hid : S.id row = 0 := hrow.resolve_right fun ⟨old, hold, _⟩ => by simp [hkey] at hold
    obtain ⟨hid', hkey', hupsert⟩ := t.upsert_of_notMem hkey hid
    refine ⟨_, hupsert, Nat.le_max_left _ _, fun k => ?_⟩
    rw [byKey_append t hid' hkey', S.key_withId]
    simp [upsertId, hkey]

theorem next_le_of_upsert {t t' : AutoTable S} {row : R} {affected : Nat}
    (h : t.upsert row = some (t', affected)) : t.next ≤ t'.next := by
  unfold upsert at h
  split at h
  · split at h
    · obtain ⟨rfl, -⟩ := Prod.mk.inj (Option.some.inj h)
      exact Nat.le_refl _
    · simp at h
  · split at h
    · obtain ⟨rfl, -⟩ := Prod.mk.inj (Option.some.inj h)
      exact Nat.le_refl _
    · obtain ⟨rfl, -⟩ := Prod.mk.inj (Option.some.inj h)
      exact Nat.le_max_left _ _

theorem affectedRows_ne_one (old new : R) : affectedRows old new ≠ 1 := by
  unfold affectedRows
  split <;> simp

/-- An insertion uses up the number it gives. -/
theorem insertId_lt_of_upsert {t t' : AutoTable S} {row : R} (h : t.upsert row = some (t', 1)) :
    t.insertId row < t'.next := by
  unfold upsert at h
  split at h
  · split at h
    · exact absurd (Prod.mk.inj (Option.some.inj h)).2 (affectedRows_ne_one _ _)
    · simp at h
  · split at h
    · exact absurd (Prod.mk.inj (Option.some.inj h)).2 (affectedRows_ne_one _ _)
    · obtain ⟨rfl, -⟩ := Prod.mk.inj (Option.some.inj h)
      have hid := S.id_withId (t.insertId row) row
      simp only [append, Counted.append, hid]
      omega

/-- A row is as it was or is the new one, under a number. -/
theorem mem_rows_upsert {t t' : AutoTable S} {row : R} {affected : Nat}
    (h : t.upsert row = some (t', affected)) {r : R} (hr : r ∈ t'.rows) :
    r ∈ t.rows ∨ ∃ n, r = S.withId n row := by
  have hupdate {n : Nat} {hkey} (hr : r ∈ (t.update n row hkey).rows) :
      r ∈ t.rows ∨ ∃ n, r = S.withId n row := by
    obtain ⟨old, hold, rfl⟩ := List.mem_map.mp hr
    split
    · exact .inr ⟨_, rfl⟩
    · exact .inl hold
  unfold upsert at h
  split at h
  · split at h
    · obtain ⟨rfl, -⟩ := Prod.mk.inj (Option.some.inj h)
      exact hupdate hr
    · simp at h
  · split at h
    · obtain ⟨rfl, -⟩ := Prod.mk.inj (Option.some.inj h)
      exact hupdate hr
    · obtain ⟨rfl, -⟩ := Prod.mk.inj (Option.some.inj h)
      rcases List.mem_append.mp hr with hr | hr
      · exact .inl hr
      · exact .inr ⟨_, List.mem_singleton.mp hr⟩

/-- Rows are inserted or updated one after another. -/
def upsertAll (t : AutoTable S) (rows : List R) : Option (AutoTable S) :=
  rows.foldlM (fun t row => (t.upsert row).map (·.1)) t

/-- Rows without numbers are stored under their keys; of several with one key one is stored. -/
theorem upsertAll_spec (t : AutoTable S) {rows : List R} (hid : ∀ r ∈ rows, S.id r = 0) :
    ∃ t', t.upsertAll rows = some t' ∧ (∀ k, k ∉ rows.map S.key → t'.byKey k = t.byKey k) ∧
      ∀ k ∈ rows.map S.key, ∃ r ∈ rows, ∃ n, t'.byKey k = some (S.withId n r) := by
  induction rows generalizing t with
  | nil => exact ⟨t, rfl, fun _ _ => rfl, by simp⟩
  | cons row rows ih =>
    obtain ⟨t₁, hupsert, -, hbyKey⟩ := t.upsert_spec row (.inl (hid row (by simp)))
    obtain ⟨t', hrest, hframe, hstored⟩ := ih t₁ fun r hr => hid r (by simp [hr])
    refine ⟨t', ?_, ?_, ?_⟩
    · rw [upsertAll, List.foldlM_cons, hupsert]
      exact hrest
    · intro k hk
      rw [List.map_cons, List.mem_cons, not_or] at hk
      rw [hframe k hk.2, hbyKey, if_neg hk.1]
    · intro k hk
      by_cases hlater : k ∈ rows.map S.key
      · obtain ⟨r, hr, hn⟩ := hstored k hlater
        exact ⟨r, by simp [hr], hn⟩
      · have hk' : k = S.key row := by
          rcases List.mem_cons.mp hk with hk | hk
          · exact hk
          · exact absurd hk hlater
        exact ⟨row, by simp, t.upsertId row, by rw [hframe k hlater, hbyKey, if_pos hk']⟩

end Upsert

/-- `DELETE` -/
def keep (t : AutoTable S) (p : R → Bool) : AutoTable S where
  toCounted := t.toCounted.keep p
  unique_key := t.unique_key.sublist (List.filter_sublist.map S.key)

omit [DecidableEq K] in
theorem keep_congr (t : AutoTable S) {p q : R → Bool} (h : ∀ r ∈ t.rows, p r = q r) :
    t.keep p = t.keep q := by
  simp only [keep, Counted.keep, List.filter_congr h]

omit [DecidableEq K] in
theorem keep_eq_self (t : AutoTable S) {p : R → Bool} (h : ∀ r ∈ t.rows, p r) : t.keep p = t := by
  simp only [keep, Counted.keep, List.filter_eq_self.mpr h]

theorem byKey_keep (t : AutoTable S) (p : R → Bool) (k : K) :
    (t.keep p).byKey k = (t.byKey k).filter p :=
  lookup_filter t.unique_key p k

/-- `DELETE` by the numbers of some rows, which are found under their keys. -/
theorem byKey_keep_ids (t : AutoTable S) {found : K → Option R} {ids : List Nat}
    (hfound : ∀ k r, found k = some r → t.byKey k = some r)
    (hids : ∀ n, n ∈ ids ↔ ∃ k r, found k = some r ∧ S.id r = n) (k : K) :
    (t.keep fun r => !ids.contains (S.id r)).byKey k =
      if (found k).isSome then none else t.byKey k := by
  rw [byKey_keep]
  cases hrow : t.byKey k with
  | none => simp
  | some row =>
    have hiff : S.id row ∈ ids ↔ (found k).isSome := by
      rw [hids, Option.isSome_iff_exists]
      constructor
      · rintro ⟨k', r, hr, hid⟩
        have hbyKey := hfound k' r hr
        obtain rfl : r = row := t.eq_of_id (mem_of_byKey hbyKey) (mem_of_byKey hrow) hid
        obtain rfl : k' = k := (key_of_byKey hbyKey).symm.trans (key_of_byKey hrow)
        exact ⟨r, hr⟩
      · rintro ⟨r, hr⟩
        obtain rfl : r = row := Option.some.inj ((hfound k r hr).symm.trans hrow)
        exact ⟨k, r, hr, rfl⟩
    by_cases hmem : S.id row ∈ ids
    · rw [if_pos (hiff.mp hmem)]
      simp [hmem]
    · rw [if_neg (hmem ∘ hiff.mpr)]
      simp [hmem]

end AutoTable

end Hatohol.Table

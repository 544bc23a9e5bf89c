import Mathlib.Data.Fin.VecNotation
import Hatohol.DBAgent

/-!
# Where the two upserts agree

The row that SQLite3 is told to update is named by the primary key, if one is given, else by the
columns of the unique key. It is the row that was in the way if that key is the one that collided.
-/

namespace Hatohol

namespace DBAgent

variable {n : Nat}

/-- A table profile that the constructor accepts, with one primary key. Other columns are not
    counted up; MySQL would not make the table. -/
structure KeyedProfile (n : Nat) extends TableProfile n where
  accepted : toTableProfile.numUniqueKeys ≤ 1
  pri : Fin n
  keyType_eq_pri : ∀ i, (columnDefs i).keyType = .pri ↔ i = pri
  pri_of_autoInc : ∀ i, (columnDefs i).autoInc = true → i = pri

/-- The contents of a table, and the number that the next row gets. -/
structure Contents (p : KeyedProfile n) where
  rows : List (Row n)
  next : Nat
  respects : respectsKeys p.toTableProfile rows
  pri_ne_null : ∀ r ∈ rows, r p.pri ≠ .null
  pri_ne_next : (p.columnDefs p.pri).autoInc = true → ∀ r ∈ rows, r p.pri ≠ .int next

namespace Contents

variable {p : KeyedProfile n} (t : Contents p) (row : Row n)

/-- The row as it is inserted. -/
abbrev newRow : Row n := numbered p.toTableProfile t.next row

/-- A value is given for every column that needs one. -/
def IsFull (p : KeyedProfile n) (row : Row n) : Prop :=
  row p.pri ≠ .null ∧ ∀ i, row i = .null → (p.columnDefs i).canBeNull = true

instance (p : KeyedProfile n) (row : Row n) : Decidable (IsFull p row) :=
  inferInstanceAs (Decidable (row p.pri ≠ .null ∧
    ∀ i, row i = .null → (p.columnDefs i).canBeNull = true))

def CollidesWithOne : Prop :=
  ∀ r ∈ t.rows, ∀ s ∈ t.rows, collides p.toTableProfile r (t.newRow row) = true →
    collides p.toTableProfile s (t.newRow row) = true → r = s

instance : Decidable (t.CollidesWithOne row) :=
  inferInstanceAs (Decidable (∀ r ∈ t.rows, ∀ s ∈ t.rows,
    collides p.toTableProfile r (t.newRow row) = true →
      collides p.toTableProfile s (t.newRow row) = true → r = s))

/-- The contents after a call: an error leaves them as they were. -/
def after (result : Except DBError (List (Row n))) : List (Row n) := result.toOption.getD t.rows

end Contents

/-- The same rows, in whatever order. -/
def SameRows (a b : List (Row n)) : Prop := ∀ r, r ∈ a ↔ r ∈ b

/-- Rows that may differ in the primary key only. -/
def SameData (p : KeyedProfile n) (r s : Row n) : Prop := ∀ i, i ≠ p.pri → r i = s i

/-! ## Keys -/

theorem matchesIn_iff {columns : List (Fin n)} {r s : Row n} :
    matchesIn columns r s = true ↔ ∀ i ∈ columns, r i = s i ∧ r i ≠ .null := by
  simp [matchesIn]

theorem matchesIn_comm {columns : List (Fin n)} {r s : Row n} (h : matchesIn columns r s = true) :
    matchesIn columns s r = true := by
  rw [matchesIn_iff] at h ⊢
  intro i hi
  obtain ⟨heq, hne⟩ := h i hi
  exact ⟨heq.symm, heq ▸ hne⟩

namespace KeyedProfile

variable (p : KeyedProfile n)

theorem primaryColumns_eq : p.primaryColumns = [p.pri] := by
  have hpri : p.primaryColumns = (List.finRange n).filter (· == p.pri) := by
    apply List.filter_congr
    intro i _
    rw [Bool.eq_iff_iff, beq_iff_eq, beq_iff_eq]
    exact p.keyType_eq_pri i
  rw [hpri, List.filter_beq, List.count_eq_one_of_mem (List.nodup_finRange n) (List.mem_finRange _)]
  rfl

/-- The columns that the constructor has collected are the unique key, if there is one. -/
theorem mem_keys_iff (key : List (Fin n)) :
    key ∈ p.keys ↔ key = [p.pri] ∨ p.uniqueKeyColumnIndexes ≠ [] ∧ key = p.uniqueKeyColumnIndexes :=
      by
  have hone := p.accepted
  unfold TableProfile.numUniqueKeys at hone
  simp only [TableProfile.keys, TableProfile.uniqueKeyColumnIndexes, p.primaryColumns_eq]
  rcases hcolumns : p.uniqueColumns with _ | ⟨i, _ | ⟨i', columns⟩⟩ <;>
    rcases hindexes : p.uniqueIndexes with _ | ⟨d, _ | ⟨d', indexes⟩⟩ <;>
    simp only [hcolumns, hindexes, List.length_cons, List.length_nil] at hone
  · simp
  · simp [d.columnIndexes_ne_nil]
  all_goals first | omega | simp

theorem collides_iff {r s : Row n} : collides p.toTableProfile r s = true ↔
    (r p.pri = s p.pri ∧ r p.pri ≠ .null) ∨
      p.uniqueKeyColumnIndexes ≠ [] ∧ matchesIn p.uniqueKeyColumnIndexes r s = true := by
  rw [collides, List.any_eq_true]
  constructor
  · rintro ⟨key, hkey, hmatches⟩
    rcases (p.mem_keys_iff key).mp hkey with rfl | ⟨hne, rfl⟩
    · exact .inl (matchesIn_iff.mp hmatches _ (List.mem_singleton_self _))
    · exact .inr ⟨hne, hmatches⟩
  · rintro (hpri | ⟨hne, hmatches⟩)
    · refine ⟨[p.pri], (p.mem_keys_iff _).mpr (.inl rfl), matchesIn_iff.mpr ?_⟩
      intro i hi
      rwa [List.mem_singleton.mp hi]
    · exact ⟨_, (p.mem_keys_iff _).mpr (.inr ⟨hne, rfl⟩), hmatches⟩

theorem collides_comm {r s : Row n} (h : collides p.toTableProfile r s = true) :
    collides p.toTableProfile s r = true := by
  rw [collides_iff] at h ⊢
  rcases h with ⟨heq, hne⟩ | ⟨hne, hmatches⟩
  · exact .inl ⟨heq.symm, heq ▸ hne⟩
  · exact .inr ⟨hne, matchesIn_comm hmatches⟩

theorem mysql_updatedColumns (i : Fin n) :
    DBAgentMySQL.updatedColumns p.toTableProfile i = true ↔ i ≠ p.pri := by
  rw [DBAgentMySQL.updatedColumns, bne_iff_ne]
  exact not_congr (p.keyType_eq_pri i)

theorem conditionColumns_eq (row : Row n) : DBAgentSQLite3.conditionColumns p.toTableProfile row =
    if isAutoIncrementValue (row p.pri) then p.uniqueKeyColumnIndexes else [p.pri] := by
  rw [DBAgentSQLite3.conditionColumns, p.primaryColumns_eq]
  rfl

theorem numbered_of_ne (next : Nat) (row : Row n) {i : Fin n} (hi : i ≠ p.pri) :
    numbered p.toTableProfile next row i = row i := by
  rw [numbered, if_neg]
  intro h
  exact hi (p.pri_of_autoInc i (Bool.and_eq_true_iff.mp h).1)

/-- A primary key is given, or zero is taken as it is. -/
theorem numbered_eq_self (next : Nat) {row : Row n}
    (h : (p.columnDefs p.pri).autoInc = false ∨ isAutoIncrementValue (row p.pri) = false) :
    numbered p.toTableProfile next row = row := by
  funext i
  by_cases hi : i = p.pri
  · subst hi
    rw [numbered, if_neg]
    intro hauto
    rw [Bool.and_eq_true, beq_iff_eq] at hauto
    rcases h with h | h
    · rw [hauto.1] at h
      cases h
    · rw [hauto.2] at h
      cases h
  · exact p.numbered_of_ne next row hi

theorem numbered_pri (next : Nat) {row : Row n} (hauto : (p.columnDefs p.pri).autoInc = true)
    (hzero : isAutoIncrementValue (row p.pri) = true) :
    numbered p.toTableProfile next row p.pri = .int next := by
  have hrow : row p.pri = .int 0 := by
    unfold isAutoIncrementValue at hzero
    split at hzero
    next val hval => rw [hval, beq_iff_eq.mp hzero]
    next => cases hzero
  rw [numbered, hauto, hrow]
  rfl

end KeyedProfile

namespace Contents

variable {p : KeyedProfile n} {t : Contents p} {row : Row n}

theorem eq_of_collides {r s : Row n} (hr : r ∈ t.rows) (hs : s ∈ t.rows)
    (h : collides p.toTableProfile r s = true) : r = s := by
  by_contra hne
  have hsymm : Std.Symm fun r s : Row n => collides p.toTableProfile r s = false := by
    refine ⟨fun a b hab => ?_⟩
    rw [Bool.eq_false_iff] at hab ⊢
    exact mt p.collides_comm hab
  have hfree := List.Pairwise.forall t.respects hr hs hne
  rw [h] at hfree
  cases hfree

theorem eq_of_pri {r s : Row n} (hr : r ∈ t.rows) (hs : s ∈ t.rows) (h : r p.pri = s p.pri) :
    r = s :=
  eq_of_collides hr hs (p.collides_iff.mpr (.inl ⟨h, t.pri_ne_null r hr⟩))

theorem pairwise_ne (t : Contents p) : t.rows.Pairwise (· ≠ ·) := by
  apply t.respects.imp_of_mem
  rintro r s hr - hfree rfl
  rw [p.collides_iff.mpr (.inl ⟨rfl, t.pri_ne_null r hr⟩)] at hfree
  cases hfree

/-- The row with the data that is given, under the number that it has. -/
def withData (p : KeyedProfile n) (row r : Row n) : Row n :=
  setColumns (DBAgentMySQL.updatedColumns p.toTableProfile) row r

theorem withData_pri (p : KeyedProfile n) (row r : Row n) : withData p row r p.pri = r p.pri := by
  rw [withData, setColumns, if_neg]
  exact fun h => (p.mysql_updatedColumns p.pri).mp h rfl

theorem withData_of_ne (p : KeyedProfile n) (row r : Row n) {i : Fin n} (hi : i ≠ p.pri) :
    withData p row r i = row i := by
  rw [withData, setColumns, if_pos ((p.mysql_updatedColumns i).mpr hi)]

theorem withData_eq_self_iff (p : KeyedProfile n) (row r : Row n) :
    withData p row r = r ↔ SameData p r row := by
  constructor
  · intro h i hi
    rw [← withData_of_ne p row r hi, h]
  · intro h
    funext i
    by_cases hi : i = p.pri
    · rw [hi, withData_pri]
    · rw [withData_of_ne p row r hi, h i hi]

/-- Rows that get the data keep their numbers. They break no key if only the row that collided is
    one of them, or there is no other key. -/
theorem respectsKeys_withData {old : Row n} (hold : old ∈ t.rows)
    (hcollides : collides p.toTableProfile old (t.newRow row) = true) (hone : t.CollidesWithOne row)
    {cond : Row n → Bool}
    (hcond : p.uniqueKeyColumnIndexes = [] ∨ ∀ r ∈ t.rows, cond r = true → r = old) :
    respectsKeys p.toTableProfile (t.rows.map fun r => if cond r then withData p row r else r) := by
  have hpri : ∀ r : Row n, (if cond r then withData p row r else r) p.pri = r p.pri := by
    intro r
    split
    · exact withData_pri p row r
    · rfl
  -- a row beside the one that collided does not have its unique key
  have hother : ∀ s ∈ t.rows, s ≠ old → p.uniqueKeyColumnIndexes ≠ [] →
      matchesIn p.uniqueKeyColumnIndexes (withData p row old) s = false := by
    intro s hs hne hkey
    by_contra hmatches
    rw [Bool.not_eq_false, matchesIn_iff] at hmatches
    by_cases hmem : p.pri ∈ p.uniqueKeyColumnIndexes
    · have heq := (hmatches _ hmem).1
      rw [withData_pri] at heq
      exact hne (eq_of_pri hs hold heq.symm)
    · refine hne (hone s hs old hold (p.collides_iff.mpr (.inr ⟨hkey,
        matchesIn_iff.mpr ?_⟩)) hcollides)
      intro i hi
      have hi' : i ≠ p.pri := fun h => hmem (h ▸ hi)
      obtain ⟨heq, hnull⟩ := hmatches i hi
      rw [withData_of_ne p row old hi'] at heq hnull
      rw [newRow, p.numbered_of_ne t.next row hi', heq]
      exact ⟨rfl, heq ▸ hnull⟩
  rw [respectsKeys, List.pairwise_map]
  refine (t.respects.and t.pairwise_ne).imp_of_mem ?_
  rintro r s hr hs ⟨hfree, hne⟩
  rw [Bool.eq_false_iff] at hfree ⊢
  intro hnow
  rcases p.collides_iff.mp hnow with ⟨heq, -⟩ | ⟨hkey, hmatches⟩
  · rw [hpri r, hpri s] at heq
    exact hne (eq_of_pri hr hs heq)
  · have honly := hcond.resolve_left hkey
    by_cases hcr : cond r = true <;> by_cases hcs : cond s = true
    · exact hne ((honly r hr hcr).trans (honly s hs hcs).symm)
    · obtain rfl := honly r hr hcr
      rw [if_pos hcr, if_neg hcs, hother s hs hne.symm hkey] at hmatches
      cases hmatches
    · obtain rfl := honly s hs hcs
      rw [if_neg hcr, if_pos hcs] at hmatches
      have hmatches := matchesIn_comm hmatches
      rw [hother r hr hne hkey] at hmatches
      cases hmatches
    · rw [if_neg hcr, if_neg hcs] at hmatches
      exact hfree (p.collides_iff.mpr (.inr ⟨hkey, hmatches⟩))

/-! ## What is left after a call -/

/-- The rows that meet a condition get the data. -/
def giveData (p : KeyedProfile n) (row : Row n) (cond : Row n → Bool) (r : Row n) : Row n :=
  if cond r then withData p row r else r

theorem giveData_pri (p : KeyedProfile n) (row : Row n) (cond : Row n → Bool) (r : Row n) :
    giveData p row cond r p.pri = r p.pri := by
  unfold giveData
  split
  · exact withData_pri p row r
  · rfl

/-- Numbers are not changed, so that tables are compared row by row. -/
theorem sameRows_giveData_iff {cond cond' : Row n → Bool} :
    SameRows (t.rows.map (giveData p row cond)) (t.rows.map (giveData p row cond')) ↔
      ∀ r ∈ t.rows, giveData p row cond r = giveData p row cond' r := by
  constructor
  · intro h r hr
    obtain ⟨s, hs, heq⟩ := List.mem_map.mp ((h _).mp (List.mem_map_of_mem hr))
    have hpri := congrFun heq p.pri
    rw [giveData_pri, giveData_pri] at hpri
    rw [← heq, eq_of_pri hs hr hpri]
  · intro h r
    rw [List.map_congr_left h]

theorem map_setColumns {columns : Fin n → Bool} {cond : Row n → Bool}
    (hset : ∀ r, cond r = true → setColumns columns row r = withData p row r) (rows : List (Row n)) :
    rows.map (fun r => if cond r then setColumns columns row r else r) =
      rows.map (giveData p row cond) := by
  refine List.map_congr_left fun r _ => ?_
  unfold giveData
  split
  next hcond => exact hset r hcond
  next => rfl

theorem after_updateRows {columns : Fin n → Bool} {cond : Row n → Bool}
    (hset : ∀ r, cond r = true → setColumns columns row r = withData p row r)
    (hrespects : respectsKeys p.toTableProfile (t.rows.map (giveData p row cond))) :
    t.after (updateRows p.toTableProfile columns row t.rows cond) =
      t.rows.map (giveData p row cond) := by
  have hmap := map_setColumns hset t.rows
  unfold updateRows
  split
  next hnone =>
    have hsame : ∀ r ∈ t.rows, (if cond r then setColumns columns row r else r) = r := by
      intro r _
      have hid : setColumns columns row r = r := funext fun i => by simp [setColumns, hnone i]
      rw [hid, ite_self]
    rw [← hmap, List.map_congr_left hsame, List.map_id']
    rfl
  next =>
    simp only [hmap, if_pos hrespects]
    rfl

/-- The row that `UPDATE` is told to change is the one that collided. -/
theorem eq_old_of_condition {old : Row n} (hone : t.CollidesWithOne row)
    (hold : old ∈ t.rows) (hcollides : collides p.toTableProfile old (t.newRow row) = true)
    (hkey : isAutoIncrementValue (row p.pri) = false ∨ p.uniqueKeyColumnIndexes ≠ [])
    {r : Row n} (hr : r ∈ t.rows)
    (hcond : matchesIn (DBAgentSQLite3.conditionColumns p.toTableProfile row) r row = true) :
    r = old := by
  apply hone r hr old hold _ hcollides
  rw [p.conditionColumns_eq] at hcond
  cases hauto : isAutoIncrementValue (row p.pri) with
  | false =>
    rw [hauto, if_neg (by decide), matchesIn_iff] at hcond
    rw [newRow, p.numbered_eq_self t.next (.inr hauto)]
    exact p.collides_iff.mpr (.inl (hcond _ (List.mem_singleton_self _)))
  | true =>
    have hkey : p.uniqueKeyColumnIndexes ≠ [] := hkey.resolve_left (by rw [hauto]; decide)
    rw [hauto, if_pos rfl] at hcond
    by_cases hinc : (p.columnDefs p.pri).autoInc = true
    · have hpri : t.newRow row p.pri = .int t.next := p.numbered_pri t.next hinc hauto
      have hnew : ∀ s ∈ t.rows, s p.pri ≠ t.newRow row p.pri := by
        rw [hpri]
        exact t.pri_ne_next hinc
      -- the unique key that collided is one without the number
      have hunique : ∀ i ∈ p.uniqueKeyColumnIndexes, i ≠ p.pri := by
        rintro i hi rfl
        rcases p.collides_iff.mp hcollides with ⟨heq, -⟩ | ⟨-, hmatches⟩
        · exact hnew old hold heq
        · exact hnew old hold (matchesIn_iff.mp hmatches _ hi).1
      refine p.collides_iff.mpr (.inr ⟨hkey, matchesIn_iff.mpr fun i hi => ?_⟩)
      rw [newRow, p.numbered_of_ne t.next row (hunique i hi)]
      exact matchesIn_iff.mp hcond i hi
    · rw [newRow, p.numbered_eq_self t.next (.inl (Bool.not_eq_true _ |>.mp hinc))]
      exact p.collides_iff.mpr (.inr ⟨hkey, hcond⟩)

/-- What `UPDATE` sets in the rows of its condition. -/
theorem sqlite_setColumns {r : Row n}
    (hcond : matchesIn (DBAgentSQLite3.conditionColumns p.toTableProfile row) r row = true) :
    setColumns (DBAgentSQLite3.updatedColumns p.toTableProfile row) row r = withData p row r := by
  funext i
  by_cases hi : i = p.pri
  · rw [hi, withData_pri]
    unfold setColumns
    split
    next hset =>
      have hauto : isAutoIncrementValue (row p.pri) = false := by
        have hpri := (p.keyType_eq_pri p.pri).mpr rfl
        simpa [DBAgentSQLite3.updatedColumns, hpri] using hset
      rw [p.conditionColumns_eq, hauto, if_neg (by decide), matchesIn_iff] at hcond
      exact (hcond _ (List.mem_singleton_self _)).1.symm
    next => rfl
  · have hset : DBAgentSQLite3.updatedColumns p.toTableProfile row i = true := by
      simp [DBAgentSQLite3.updatedColumns, mt (p.keyType_eq_pri i).mp hi]
    rw [withData_of_ne p row r hi, setColumns, if_pos hset]

theorem respectsKeys_sqlite {old : Row n} (hone : t.CollidesWithOne row) (hold : old ∈ t.rows)
    (hcollides : collides p.toTableProfile old (t.newRow row) = true) :
    respectsKeys p.toTableProfile (t.rows.map (giveData p row
      (matchesIn (DBAgentSQLite3.conditionColumns p.toTableProfile row) · row))) := by
  apply respectsKeys_withData hold hcollides hone
  by_cases hkey : isAutoIncrementValue (row p.pri) = false ∨ p.uniqueKeyColumnIndexes ≠ []
  · exact .inr fun r hr hcond => eq_old_of_condition hone hold hcollides hkey hr hcond
  · exact .inl (not_not.mp (not_or.mp hkey).2)

theorem after_sqlite {old : Row n} (hone : t.CollidesWithOne row)
    (hold : old ∈ t.rows) (hcollides : collides p.toTableProfile old (t.newRow row) = true) :
    t.after (DBAgentSQLite3.insert p.toTableProfile t.next t.rows row) =
      t.rows.map (giveData p row
        (matchesIn (DBAgentSQLite3.conditionColumns p.toTableProfile row) · row)) := by
  have hany : t.rows.any (fun r => collides p.toTableProfile r (t.newRow row)) = true :=
    List.any_eq_true.mpr ⟨old, hold, hcollides⟩
  unfold DBAgentSQLite3.insert
  rw [if_pos hany]
  exact after_updateRows (fun r => sqlite_setColumns) (respectsKeys_sqlite hone hold hcollides)

theorem after_mysql {old : Row n} (hfull : IsFull p row) (hone : t.CollidesWithOne row)
    (hold : old ∈ t.rows) (hcollides : collides p.toTableProfile old (t.newRow row) = true) :
    t.after (DBAgentMySQL.insert p.toTableProfile t.next t.rows row) =
      t.rows.map (giveData p row fun r => decide (r = old)) := by
  unfold DBAgentMySQL.insert
  split
  next hnone =>
    -- no column besides the number: there is nothing to give
    have hsame : ∀ r ∈ t.rows, giveData p row (fun r => decide (r = old)) r = r := by
      intro r _
      unfold giveData
      rw [ite_eq_right_iff]
      intro _
      rw [withData_eq_self_iff]
      intro i hi
      have := (p.mysql_updatedColumns i).mpr hi
      rw [hnone i] at this
      cases this
    rw [List.map_congr_left hsame, List.map_id']
    rfl
  next =>
    have hnull : ¬ ∃ i, (p.columnDefs i).canBeNull = false ∧ row i = .null := by
      rintro ⟨i, hnot, hi⟩
      rw [hfull.2 i hi] at hnot
      cases hnot
    rw [if_neg hnull]
    split
    next hnotFound =>
      have := List.find?_eq_none.mp hnotFound old hold
      exact absurd hcollides this
    next found hfound =>
      have hfound' := List.find?_some hfound
      obtain rfl := hone found (List.mem_of_find?_eq_some hfound) old hold hfound' hcollides
      apply after_updateRows
      · exact fun _ _ => rfl
      · apply respectsKeys_withData hold hcollides hone
        exact .inr fun r _ hcond => of_decide_eq_true hcond

/-- The row is new. -/
theorem after_of_new (hfull : IsFull p row)
    (hnew : ∀ r ∈ t.rows, ¬ collides p.toTableProfile r (t.newRow row) = true) :
    t.after (DBAgentSQLite3.insert p.toTableProfile t.next t.rows row) = t.rows ++ [t.newRow row] ∧
      t.after (DBAgentMySQL.insert p.toTableProfile t.next t.rows row) =
        if ∃ i, i ≠ p.pri then t.rows ++ [t.newRow row] else t.rows := by
  constructor
  · unfold DBAgentSQLite3.insert
    rw [if_neg]
    · rfl
    · rw [List.any_eq_true]
      rintro ⟨r, hr, hcollides⟩
      exact hnew r hr hcollides
  · have hcolumns : (∀ i, DBAgentMySQL.updatedColumns p.toTableProfile i = false) ↔
        ¬ ∃ i, i ≠ p.pri := by
      rw [not_exists]
      exact forall_congr' fun i => by rw [← p.mysql_updatedColumns i, Bool.not_eq_true]
    have hnull : ¬ ∃ i, (p.columnDefs i).canBeNull = false ∧ row i = .null := by
      rintro ⟨i, hnot, hi⟩
      rw [hfull.2 i hi] at hnot
      cases hnot
    unfold DBAgentMySQL.insert
    rw [if_neg hnull, List.find?_eq_none.mpr hnew]
    by_cases hsome : ∃ i, i ≠ p.pri
    · rw [if_pos hsome, if_neg (fun h => hcolumns.mp h hsome)]
      rfl
    · rw [if_neg hsome, if_pos (hcolumns.mpr hsome)]
      rfl

/-- The condition of the `UPDATE` finds the row that was in the way, and no other one. A row that
    already has the data need not be found, and may be. -/
def UpdateFinds (t : Contents p) (row : Row n) (old : Row n) : Prop :=
  if isAutoIncrementValue (row p.pri) then
    if p.uniqueKeyColumnIndexes = [] then ∀ r ∈ t.rows, r ≠ old → SameData p r row
    else matchesIn p.uniqueKeyColumnIndexes old row = true ∨ SameData p old row
  else old p.pri = row p.pri ∨ SameData p old row

/-- For a row that is new there must be something to write after `ON DUPLICATE KEY UPDATE`. -/
def UpsertsAgree (t : Contents p) (row : Row n) : Prop :=
  (∀ old ∈ t.rows, collides p.toTableProfile old (t.newRow row) = true → UpdateFinds t row old) ∧
    ((∀ r ∈ t.rows, ¬ collides p.toTableProfile r (t.newRow row) = true) → ∃ i, i ≠ p.pri)

instance (r s : Row n) : Decidable (SameData p r s) :=
  inferInstanceAs (Decidable (∀ i, i ≠ p.pri → r i = s i))

instance (t : Contents p) (row old : Row n) : Decidable (UpdateFinds t row old) :=
  inferInstanceAs (Decidable
    (if isAutoIncrementValue (row p.pri) then
      if p.uniqueKeyColumnIndexes = [] then ∀ r ∈ t.rows, r ≠ old → SameData p r row
      else matchesIn p.uniqueKeyColumnIndexes old row = true ∨ SameData p old row
    else old p.pri = row p.pri ∨ SameData p old row))

instance (t : Contents p) (row : Row n) : Decidable (UpsertsAgree t row) :=
  inferInstanceAs (Decidable
    ((∀ old ∈ t.rows, collides p.toTableProfile old (t.newRow row) = true → UpdateFinds t row old) ∧
      ((∀ r ∈ t.rows, ¬ collides p.toTableProfile r (t.newRow row) = true) → ∃ i, i ≠ p.pri)))

theorem giveData_eq_iff {cond cond' : Row n → Bool} {r : Row n} :
    giveData p row cond r = giveData p row cond' r ↔ cond r = cond' r ∨ SameData p r row := by
  unfold giveData
  rw [← withData_eq_self_iff]
  cases cond r <;> cases cond' r <;> simp [eq_comm]

theorem updateFinds_iff {old : Row n} (hone : t.CollidesWithOne row) (hold : old ∈ t.rows)
    (hcollides : collides p.toTableProfile old (t.newRow row) = true) :
    UpdateFinds t row old ↔ ∀ r ∈ t.rows,
      giveData p row (matchesIn (DBAgentSQLite3.conditionColumns p.toTableProfile row) · row) r =
        giveData p row (fun r => decide (r = old)) r := by
  simp only [giveData_eq_iff]
  -- unless all rows are updated, none but the old one is
  have honly (hkey : isAutoIncrementValue (row p.pri) = false ∨ p.uniqueKeyColumnIndexes ≠ []) :
      (∀ r ∈ t.rows, matchesIn (DBAgentSQLite3.conditionColumns p.toTableProfile row) r row =
          decide (r = old) ∨ SameData p r row) ↔
        matchesIn (DBAgentSQLite3.conditionColumns p.toTableProfile row) old row = true ∨
          SameData p old row := by
    constructor
    · intro h
      simpa using h old hold
    · intro h r hr
      by_cases hr' : r = old
      · rw [hr']
        simpa using h
      · left
        rw [decide_eq_false hr', ← Bool.not_eq_true]
        exact fun hcond => hr' (eq_old_of_condition hone hold hcollides hkey hr hcond)
  unfold UpdateFinds
  cases hauto : isAutoIncrementValue (row p.pri) with
  | false =>
    rw [if_neg (by decide), honly (.inl hauto), p.conditionColumns_eq, hauto, if_neg (by decide),
      matchesIn_iff]
    simp [t.pri_ne_null old hold]
  | true =>
    rw [if_pos rfl]
    by_cases hkey : p.uniqueKeyColumnIndexes = []
    · rw [if_pos hkey, p.conditionColumns_eq, hauto, if_pos rfl, hkey]
      apply forall₂_congr
      intro r _
      by_cases hr : r = old <;> simp [matchesIn, hr]
    · rw [if_neg hkey, honly (.inr hkey), p.conditionColumns_eq, hauto, if_pos rfl]

/-- Number, code and label; the code is unique. -/
def customIncidentStatusProfile : KeyedProfile 3 where
  columnDefs := ![⟨.pri, true, false⟩, ⟨.none, false, false⟩, ⟨.none, false, false⟩]
  indexDefArray := [⟨[1], true, by decide⟩]
  accepted := by decide
  pri := 0
  keyType_eq_pri := by decide
  pri_of_autoInc := by decide

def customIncidentStatus (id : Int) (code label : String) : Row 3 :=
  ![.int id, .string code, .string label]

def customIncidentStatuses : Contents customIncidentStatusProfile where
  rows := [customIncidentStatus 1 "HOLD" "on hold"]
  next := 2
  respects := List.pairwise_singleton _ _
  pri_ne_null := by decide
  pri_ne_next := by decide

end Contents

end DBAgent

end Hatohol

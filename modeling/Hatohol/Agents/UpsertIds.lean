import Hatohol.Agents.Upserts

/-!
# The IDs that upserts report

`runTransaction(InsertArg, id)` inserts and then asks the connection for the last insert ID
(server/src/DBAgent.cc:475-503). SQLite3 updates with a statement of its own
(DBAgentSQLite3.cc:569-578), and `sqlite3_last_insert_rowid` (DBAgentSQLite3.cc:821-824) does not know of
it.
-/

namespace Hatohol

namespace DBAgent

variable {n : Nat}

/-! ## Connections -/

inductive Agent where
  | sqlite3
  | mysql
  deriving DecidableEq, Repr

/-- A table with a primary key that is counted up and with a unique key of other columns. -/
structure CountedProfile (n : Nat) extends KeyedProfile n where
  autoInc_pri : (columnDefs pri).autoInc = true
  hasUniqueKey : toKeyedProfile.toTableProfile.uniqueKeyColumnIndexes ≠ []
  pri_notMem : pri ∉ toKeyedProfile.toTableProfile.uniqueKeyColumnIndexes

/-- A connection with the contents of the table. -/
structure Session (p : CountedProfile n) where
  table : Contents p.toKeyedProfile
  lastInsertId : Int
  pri_int : ∀ r ∈ table.rows, ∃ id, r p.pri = .int id

def Agent.insert (agent : Agent) (p : TableProfile n) :
    Nat → List (Row n) → Row n → Except DBError (List (Row n)) :=
  match agent with
  | sqlite3 => DBAgentSQLite3.insert p
  | mysql => DBAgentMySQL.insert p

def ItemData.number : ItemData → Int
  | .int val => val
  | _ => 0

variable {p : CountedProfile n}

/-- The row that is in the way of an insertion. -/
def Session.inTheWay (s : Session p) (row : Row n) : Option (Row n) :=
  s.table.rows.find? fun r => collides p.toTableProfile r (s.table.newRow row)

/-- `sqlite3_last_insert_rowid` after an upsert is that of the last `INSERT`. `LAST_INSERT_ID` is the
    number of the row that was inserted or updated. -/
def Agent.getLastInsertId (agent : Agent) (s : Session p) (row : Row n) : Int :=
  match s.inTheWay row, agent with
  | none, _ => s.table.next
  | some _, sqlite3 => s.lastInsertId
  | some old, mysql => (old p.pri).number

/-- `TrxInsert::operator ()`: the rows that are left, and `id`. -/
def trxInsert (agent : Agent) (s : Session p) (row : Row n) :
    Except DBError (List (Row n) × Int) := do
  let rows ← agent.insert p.toTableProfile s.table.next s.table.rows row
  return (rows, agent.getLastInsertId s row)

/-- What number the database gives next is left open. -/
structure Upserted (agent : Agent) (s : Session p) (row : Row n) (id : Int) (s' : Session p) : Prop
    where
  runs : trxInsert agent s row = .ok (s'.table.rows, id)
  lastInsertId : s'.lastInsertId = id

/-- An upsert of a run. -/
structure Upsert (p : CountedProfile n) where
  before : Session p
  row : Row n
  id : Int
  after : Session p

/-- Upserts with AUTO_INCREMENT_VALUE as the primary key. Other tables may be written to between them,
    by the same connection. -/
inductive Upserts (agent : Agent) : Session p → List (Upsert p) → Session p → Prop where
  | nil (s : Session p) : Upserts agent s [] s
  | upsert {s s₁ s' : Session p} {row : Row n} {id : Int} {us : List (Upsert p)}
      (hauto : row p.pri = .int 0) (hupserted : Upserted agent s row id s₁)
      (hrest : Upserts agent s₁ us s') : Upserts agent s (⟨s, row, id, s₁⟩ :: us) s'
  | otherTable {s s' : Session p} {us : List (Upsert p)} (lastInsertId : Int)
      (hrest : Upserts agent { s with lastInsertId } us s') : Upserts agent s us s'

/-- The ID is of a row that has the unique key now. -/
def Upsert.ReportsRow (u : Upsert p) : Prop :=
  ∃ r ∈ u.after.table.rows, r p.pri = .int u.id ∧
    ∀ i ∈ p.uniqueKeyColumnIndexes, r i = u.before.table.newRow u.row i

/-- The row that has the unique key, if there is one, was the last that the connection has inserted. -/
def Upsert.FindsLastInserted (u : Upsert p) : Prop :=
  ∀ old ∈ u.before.table.rows,
    matchesIn p.uniqueKeyColumnIndexes old (u.before.table.newRow u.row) = true →
      old p.pri = .int u.before.lastInsertId

instance (u : Upsert p) : Decidable u.ReportsRow :=
  inferInstanceAs (Decidable (∃ r ∈ u.after.table.rows, r p.pri = .int u.id ∧
    ∀ i ∈ p.uniqueKeyColumnIndexes, r i = u.before.table.newRow u.row i))

instance (u : Upsert p) : Decidable u.FindsLastInserted :=
  inferInstanceAs (Decidable (∀ old ∈ u.before.table.rows,
    matchesIn p.uniqueKeyColumnIndexes old (u.before.table.newRow u.row) = true →
      old p.pri = .int u.before.lastInsertId))

/-! ## The row in the way -/

section Step

variable {agent : Agent} {s s' : Session p} {row old : Row n} {id : Int}

theorem newRow_pri (hauto : row p.pri = .int 0) : s.table.newRow row p.pri = .int s.table.next :=
  p.numbered_pri s.table.next p.autoInc_pri (by rw [hauto]; rfl)

/-- The number of a new row is not yet there, so that only the unique key can be in the way. -/
theorem collides_newRow_iff (hauto : row p.pri = .int 0) (hold : old ∈ s.table.rows) :
    collides p.toTableProfile old (s.table.newRow row) = true ↔
      matchesIn p.uniqueKeyColumnIndexes old (s.table.newRow row) = true := by
  rw [p.collides_iff]
  constructor
  · rintro (⟨hpri, -⟩ | ⟨-, hmatches⟩)
    · rw [newRow_pri hauto] at hpri
      exact absurd hpri (s.table.pri_ne_next p.autoInc_pri old hold)
    · exact hmatches
  · exact fun hmatches => .inr ⟨p.hasUniqueKey, hmatches⟩

theorem matchesIn_trans {columns : List (Fin n)} {r r' r'' : Row n}
    (h : matchesIn columns r r'' = true) (h' : matchesIn columns r' r'' = true) :
    matchesIn columns r r' = true := by
  rw [matchesIn_iff] at h h' ⊢
  exact fun i hi => ⟨(h i hi).1.trans (h' i hi).1.symm, (h i hi).2⟩

theorem collidesWithOne (hauto : row p.pri = .int 0) : s.table.CollidesWithOne row := by
  intro r hr r' hr' hcollides hcollides'
  rw [collides_newRow_iff hauto hr] at hcollides
  rw [collides_newRow_iff hauto hr'] at hcollides'
  exact Contents.eq_of_collides hr hr'
    (p.collides_iff.mpr (.inr ⟨p.hasUniqueKey, matchesIn_trans hcollides hcollides'⟩))

theorem inTheWay_some (hold : s.inTheWay row = some old) : old ∈ s.table.rows ∧
    collides p.toTableProfile old (s.table.newRow row) = true := by
  have hfound := List.find?_some hold
  exact ⟨List.mem_of_find?_eq_some hold, hfound⟩

theorem isFull_of_mysql {rows : List (Row n)} (hauto : row p.pri = .int 0)
    (hruns : DBAgentMySQL.insert p.toTableProfile s.table.next s.table.rows row = .ok rows) :
    Contents.IsFull p.toKeyedProfile row := by
  unfold DBAgentMySQL.insert at hruns
  split at hruns
  next => cases hruns
  next =>
    split at hruns
    next => cases hruns
    next hnull =>
      refine ⟨by rw [hauto]; exact ItemData.noConfusion, fun i hi => ?_⟩
      rw [← Bool.not_eq_false]
      exact fun hnot => hnull ⟨i, hnot, hi⟩

theorem rows_of_new {rows : List (Row n)} (hnew : s.inTheWay row = none)
    (hruns : agent.insert p.toTableProfile s.table.next s.table.rows row = .ok rows) :
    rows = s.table.rows ++ [s.table.newRow row] := by
  cases agent with
  | sqlite3 =>
    have hany : ¬s.table.rows.any (fun r => collides p.toTableProfile r (s.table.newRow row)) = true := by
      rw [List.any_eq_true]
      rintro ⟨r, hr, hcollides⟩
      exact List.find?_eq_none.mp hnew r hr hcollides
    rw [Agent.insert, DBAgentSQLite3.insert, if_neg hany] at hruns
    exact (Except.ok.inj hruns).symm
  | mysql =>
    rw [Agent.insert, DBAgentMySQL.insert] at hruns
    split at hruns
    next => cases hruns
    next =>
      split at hruns
      next => cases hruns
      next =>
        have hfind : s.table.rows.find? (fun r => collides p.toTableProfile r
          (numbered p.toTableProfile s.table.next row)) = none := hnew
        rw [hfind] at hruns
        exact (Except.ok.inj hruns).symm

/-- The row that is in the way gets the data, and keeps its number. -/
theorem rows_of_old {rows : List (Row n)} (hauto : row p.pri = .int 0)
    (hold : s.inTheWay row = some old)
    (hruns : agent.insert p.toTableProfile s.table.next s.table.rows row = .ok rows) :
    ∃ cond, rows = s.table.rows.map (Contents.giveData p.toKeyedProfile row cond) := by
  obtain ⟨hmem, hcollides⟩ := inTheWay_some hold
  have hone : s.table.CollidesWithOne row := collidesWithOne hauto
  have hafter : s.table.after (agent.insert p.toTableProfile s.table.next s.table.rows row) = rows := by
    rw [hruns]
    rfl
  cases agent with
  | sqlite3 => exact ⟨_, hafter.symm.trans (Contents.after_sqlite hone hmem hcollides)⟩
  | mysql =>
    have hfull := isFull_of_mysql hauto hruns
    exact ⟨_, hafter.symm.trans (Contents.after_mysql hfull hone hmem hcollides)⟩

theorem giveData_key (cond : Row n → Bool)
    (hmatches : matchesIn p.uniqueKeyColumnIndexes old (s.table.newRow row) = true) :
    matchesIn p.uniqueKeyColumnIndexes (Contents.giveData p.toKeyedProfile row cond old)
      (s.table.newRow row) = true := by
  rw [matchesIn_iff] at hmatches ⊢
  intro i hi
  obtain ⟨heq, hne⟩ := hmatches i hi
  have hpri : i ≠ p.pri := fun h => p.pri_notMem (h ▸ hi)
  have hnew : s.table.newRow row i = row i := p.numbered_of_ne s.table.next row hpri
  unfold Contents.giveData
  split
  next =>
    rw [Contents.withData_of_ne _ _ _ hpri, hnew]
    exact ⟨rfl, hnew ▸ heq ▸ hne⟩
  next => exact ⟨heq, hne⟩

end Step

/-! ## The ID that is reported -/

theorem trxInsert_ok {agent : Agent} {s : Session p} {row : Row n} {rows : List (Row n)} {id : Int}
    (hruns : trxInsert agent s row = .ok (rows, id)) :
    agent.insert p.toTableProfile s.table.next s.table.rows row = .ok rows ∧
      agent.getLastInsertId s row = id := by
  unfold trxInsert at hruns
  cases hinsert : agent.insert p.toTableProfile s.table.next s.table.rows row with
  | error e =>
    rw [hinsert] at hruns
    cases hruns
  | ok rows' =>
    rw [hinsert] at hruns
    cases hruns
    exact ⟨rfl, rfl⟩

/-- An upsert reports the number of the row that was in the way, or the new number. -/
theorem reportsRow_iff {agent : Agent} {u : Upsert p} (hauto : u.row p.pri = .int 0)
    (hupserted : Upserted agent u.before u.row u.id u.after) :
    u.ReportsRow ↔ agent = .mysql ∨ u.FindsLastInserted := by
  obtain ⟨hinsert, hid⟩ := trxInsert_ok hupserted.runs
  cases hway : u.before.inTheWay u.row with
  | none =>
    have hnew : u.id = u.before.table.next := by
      rw [← hid]
      unfold Agent.getLastInsertId
      rw [hway]
    refine iff_of_true ⟨u.before.table.newRow u.row, ?_, ?_, fun _ _ => rfl⟩ (.inr ?_)
    · rw [rows_of_new hway hinsert]
      exact List.mem_append_right _ (List.mem_singleton_self _)
    · rw [newRow_pri hauto, hnew]
    · intro old hold hmatches
      exact absurd ((collides_newRow_iff hauto hold).mpr hmatches) (List.find?_eq_none.mp hway old hold)
  | some old =>
    obtain ⟨hmem, hcollides⟩ := inTheWay_some hway
    have hmatches := (collides_newRow_iff hauto hmem).mp hcollides
    obtain ⟨cond, hrows⟩ := rows_of_old hauto hway hinsert
    have hkey := giveData_key cond hmatches
    have hupdated : Contents.giveData p.toKeyedProfile u.row cond old ∈ u.after.table.rows := by
      rw [hrows]
      exact List.mem_map_of_mem hmem
    have hpri := Contents.giveData_pri p.toKeyedProfile u.row cond old
    -- the row with the unique key is the one that was in the way
    have hreports : u.ReportsRow ↔ old p.pri = .int u.id := by
      constructor
      · rintro ⟨r, hr, hid, hsame⟩
        have hcollide : matchesIn p.uniqueKeyColumnIndexes
            (Contents.giveData p.toKeyedProfile u.row cond old) r = true := by
          rw [matchesIn_iff] at hkey ⊢
          exact fun i hi => ⟨(hkey i hi).1.trans (hsame i hi).symm, (hkey i hi).2⟩
        have heq := Contents.eq_of_collides hupdated hr
          (p.collides_iff.mpr (.inr ⟨p.hasUniqueKey, hcollide⟩))
        rw [← hpri, heq, hid]
      · intro hold
        refine ⟨_, hupdated, hpri.trans hold, fun i hi => (matchesIn_iff.mp hkey i hi).1⟩
    have hfinds : u.FindsLastInserted ↔ old p.pri = .int u.before.lastInsertId := by
      refine ⟨fun hall => hall old hmem hmatches, fun hold other hother hmatches' => ?_⟩
      obtain rfl := Contents.eq_of_collides hother hmem
        (p.collides_iff.mpr (.inr ⟨p.hasUniqueKey, matchesIn_trans hmatches' hmatches⟩))
      exact hold
    rw [hreports, hfinds, ← hid]
    unfold Agent.getLastInsertId
    rw [hway]
    cases agent with
    | sqlite3 => simp
    | mysql =>
      obtain ⟨id, hnumber⟩ := u.before.pri_int old hmem
      refine iff_of_true ?_ (.inl rfl)
      dsimp only
      rw [hnumber]
      rfl

/-! ## Upserts go through -/

theorem exists_next (rows : List (Row n)) (i : Fin n) : ∃ next : Nat, ∀ r ∈ rows, r i ≠ .int next := by
  have hbound : ∃ next : Nat, ∀ r ∈ rows, ∀ m : Nat, r i = .int m → m < next := by
    induction rows with
    | nil => exact ⟨0, fun _ h => nomatch h⟩
    | cons r rows ih =>
      obtain ⟨next, hnext⟩ := ih
      refine ⟨max next ((r i).number.toNat + 1), ?_⟩
      rw [List.forall_mem_cons]
      refine ⟨fun m hm => ?_, fun r' hr' m hm => ?_⟩
      · rw [hm, ItemData.number, Int.toNat_natCast]
        omega
      · have := hnext r' hr' m hm
        omega
  obtain ⟨next, hnext⟩ := hbound
  exact ⟨next, fun r hr hpri => Nat.lt_irrefl _ (hnext r hr next hpri)⟩

theorem exists_session {rows : List (Row n)} (hrespects : respectsKeys p.toTableProfile rows)
    (hint : ∀ r ∈ rows, ∃ id, r p.pri = .int id) (lastInsertId : Int) :
    ∃ s : Session p, s.table.rows = rows ∧ s.lastInsertId = lastInsertId := by
  obtain ⟨next, hnext⟩ := exists_next rows p.pri
  have hnull : ∀ r ∈ rows, r p.pri ≠ .null := by
    intro r hr hnull
    obtain ⟨id, hid⟩ := hint r hr
    rw [hid] at hnull
    cases hnull
  exact ⟨⟨⟨rows, next, hrespects, hnull, fun _ => hnext⟩, lastInsertId, hint⟩, rfl, rfl⟩

theorem upserted_of_insert (agent : Agent) {s : Session p} {row : Row n} {rows : List (Row n)}
    (hinsert : agent.insert p.toTableProfile s.table.next s.table.rows row = .ok rows)
    (hrespects : respectsKeys p.toTableProfile rows)
    (hint : ∀ r ∈ rows, ∃ id, r p.pri = .int id) : ∃ id s', Upserted agent s row id s' := by
  obtain ⟨s', hrows, hlast⟩ := exists_session hrespects hint (agent.getLastInsertId s row)
  refine ⟨_, s', ?_, hlast⟩
  rw [trxInsert, hinsert, hrows]
  rfl

theorem exists_otherColumn (p : CountedProfile n) : ∃ i, i ≠ p.pri := by
  obtain ⟨i, hi⟩ := List.exists_mem_of_ne_nil _ p.hasUniqueKey
  exact ⟨i, fun h => p.pri_notMem (h ▸ hi)⟩

theorem updateRows_ok {t : Contents p.toKeyedProfile} {row : Row n} {columns : Fin n → Bool}
    {cond : Row n → Bool} (hcolumns : ∃ i, columns i = true)
    (hset : ∀ r, cond r = true → setColumns columns row r = Contents.withData p.toKeyedProfile row r)
    (hrespects : respectsKeys p.toTableProfile
      (t.rows.map (Contents.giveData p.toKeyedProfile row cond))) :
    updateRows p.toTableProfile columns row t.rows cond =
      .ok (t.rows.map (Contents.giveData p.toKeyedProfile row cond)) := by
  have hmap := Contents.map_setColumns hset t.rows
  obtain ⟨i, hi⟩ := hcolumns
  rw [updateRows, if_neg fun hnone => by rw [hnone i] at hi; cases hi]
  simp only [hmap, if_pos hrespects]

theorem exists_upserted (agent : Agent) (s : Session p) {row : Row n} (hauto : row p.pri = .int 0)
    (hfull : Contents.IsFull p.toKeyedProfile row) : ∃ id s', Upserted agent s row id s' := by
  have hcolumns : ¬∀ i, DBAgentMySQL.updatedColumns p.toTableProfile i = false := by
    intro hnone
    obtain ⟨i, hi⟩ := exists_otherColumn p
    have hset := (p.mysql_updatedColumns i).mpr hi
    rw [hnone i] at hset
    cases hset
  have hnull : ¬∃ i, (p.columnDefs i).canBeNull = false ∧ row i = .null := by
    rintro ⟨i, hnot, hi⟩
    rw [hfull.2 i hi] at hnot
    cases hnot
  cases hway : s.inTheWay row with
  | none =>
    have hnew := List.find?_eq_none.mp hway
    have hany : ¬s.table.rows.any (fun r => collides p.toTableProfile r (s.table.newRow row)) = true := by
      rw [List.any_eq_true]
      exact fun ⟨r, hr, hcollides⟩ => hnew r hr hcollides
    have hinsert : agent.insert p.toTableProfile s.table.next s.table.rows row =
        .ok (s.table.rows ++ [s.table.newRow row]) := by
      cases agent with
      | sqlite3 => exact if_neg hany
      | mysql =>
        have hfind : s.table.rows.find? (fun r => collides p.toTableProfile r
          (numbered p.toTableProfile s.table.next row)) = none := hway
        rw [Agent.insert, DBAgentMySQL.insert, if_neg hcolumns, if_neg hnull, hfind]
    refine upserted_of_insert _ hinsert ?_ ?_
    · rw [respectsKeys, List.pairwise_append]
      refine ⟨s.table.respects, List.pairwise_singleton _ _, fun r hr r' hr' => ?_⟩
      rw [List.mem_singleton.mp hr', ← Bool.not_eq_true]
      exact hnew r hr
    · rw [List.forall_mem_append]
      refine ⟨s.pri_int, fun r hr => ⟨s.table.next, ?_⟩⟩
      rw [List.mem_singleton.mp hr]
      exact newRow_pri hauto
  | some old =>
    obtain ⟨hmem, hcollides⟩ := inTheWay_some hway
    have hone : s.table.CollidesWithOne row := collidesWithOne hauto
    have hint (cond : Row n → Bool) :
        ∀ r ∈ s.table.rows.map (Contents.giveData p.toKeyedProfile row cond),
          ∃ id, r p.pri = .int id := by
      intro r hr
      obtain ⟨r', hr', rfl⟩ := List.mem_map.mp hr
      rw [Contents.giveData_pri]
      exact s.pri_int r' hr'
    cases agent with
    | sqlite3 =>
      have hrespects := Contents.respectsKeys_sqlite hone hmem hcollides
      obtain ⟨i, hi⟩ := exists_otherColumn p
      have hset : DBAgentSQLite3.updatedColumns p.toTableProfile row i = true := by
        simp [DBAgentSQLite3.updatedColumns, mt (p.keyType_eq_pri i).mp hi]
      have hupdate := updateRows_ok ⟨i, hset⟩ (fun r => Contents.sqlite_setColumns) hrespects
      refine upserted_of_insert .sqlite3 (Eq.trans ?_ hupdate) hrespects (hint _)
      exact if_pos (List.any_eq_true.mpr ⟨old, hmem, hcollides⟩)
    | mysql =>
      have hrespects := Contents.respectsKeys_withData hmem hcollides hone
        (.inr fun r _ hcond => of_decide_eq_true hcond)
      obtain ⟨i, hi⟩ := exists_otherColumn p
      have hupdate := updateRows_ok (p := p) (t := s.table)
        ⟨i, (p.mysql_updatedColumns i).mpr hi⟩ (fun _ _ => rfl) hrespects
      refine upserted_of_insert .mysql (Eq.trans ?_ hupdate) hrespects (hint _)
      have hfind : s.table.rows.find? (fun r => collides p.toTableProfile r
        (numbered p.toTableProfile s.table.next row)) = some old := hway
      rw [Agent.insert, DBAgentMySQL.insert, if_neg hcolumns, if_neg hnull, hfind]

/-! ## Runs -/

/-- In a run of upserts each reports the row it touched, if and only if no upsert by SQLite3 finds its
    unique key in a row other than the last one inserted. -/
theorem upserts_report_iff (agent : Agent) {s s' : Session p} {us : List (Upsert p)}
    (hrun : Upserts agent s us s') :
    (∀ u ∈ us, u.ReportsRow) ↔ ∀ u ∈ us, agent = .mysql ∨ u.FindsLastInserted := by
  induction hrun with
  | nil => exact iff_of_true (fun _ h => nomatch h) fun _ h => nomatch h
  | upsert hauto hupserted hrest ih =>
    rw [List.forall_mem_cons, List.forall_mem_cons, ih, reportsRow_iff hauto hupserted]
  | otherTable lastInsertId hrest ih => exact ih

/-! Two statuses of incidents; the label of the first one is changed. -/

def customIncidentStatusTable : CountedProfile 3 where
  toKeyedProfile := Contents.customIncidentStatusProfile
  autoInc_pri := by decide
  hasUniqueKey := by decide
  pri_notMem := by decide

def labelledRows (changed : Bool) : List (Row 3) :=
  [Contents.customIncidentStatus 1 "HOLD" (if changed then "waiting" else "on hold"),
    Contents.customIncidentStatus 2 "DONE" "done"]

def labelledSession (changed : Bool) (lastInsertId : Int) : Session customIncidentStatusTable where
  table := {
    rows := labelledRows changed
    next := 3
    respects := by cases changed <;> decide +kernel
    pri_ne_null := by cases changed <;> decide +kernel
    pri_ne_next := by cases changed <;> decide +kernel }
  lastInsertId := lastInsertId
  pri_int := by
    intro r hr
    rcases List.mem_pair.mp hr with rfl | rfl
    · exact ⟨1, rfl⟩
    · exact ⟨2, rfl⟩

def labelledUpsert (lastInsertId : Int) : Upsert customIncidentStatusTable where
  before := labelledSession false lastInsertId
  row := Contents.customIncidentStatus 0 "HOLD" "waiting"
  id := lastInsertId
  after := labelledSession true lastInsertId

theorem labelled_upserts (lastInsertId : Int) :
    Upserts .sqlite3 (labelledSession false lastInsertId) [labelledUpsert lastInsertId]
      (labelledSession true lastInsertId) := by
  refine .upsert rfl ⟨?_, rfl⟩ (.nil _)
  have hinsert : DBAgentSQLite3.insert customIncidentStatusTable.toTableProfile 3 (labelledRows false)
      (Contents.customIncidentStatus 0 "HOLD" "waiting") = .ok (labelledRows true) := by
    rw [DBAgentSQLite3.insert, if_pos (by decide +kernel), DBAgentSQLite3.update, updateRows,
      if_neg (by decide +kernel)]
    dsimp only
    rw [if_pos (by decide +kernel)]
    exact congrArg Except.ok (by decide +kernel)
  have hway : (labelledSession false lastInsertId).inTheWay
      (Contents.customIncidentStatus 0 "HOLD" "waiting") =
        some (Contents.customIncidentStatus 1 "HOLD" "on hold") := by
    change (labelledRows false).find? (fun r => collides customIncidentStatusTable.toTableProfile r
      (numbered customIncidentStatusTable.toTableProfile 3
        (Contents.customIncidentStatus 0 "HOLD" "waiting"))) = _
    decide +kernel
  have hid : Agent.sqlite3.getLastInsertId (labelledSession false lastInsertId)
      (Contents.customIncidentStatus 0 "HOLD" "waiting") = lastInsertId := by
    unfold Agent.getLastInsertId
    rw [hway]
    rfl
  have hruns : Agent.sqlite3.insert customIncidentStatusTable.toTableProfile
      (labelledSession false lastInsertId).table.next (labelledSession false lastInsertId).table.rows
      (Contents.customIncidentStatus 0 "HOLD" "waiting") = .ok (labelledRows true) := hinsert
  rw [trxInsert, hruns, hid]
  rfl

theorem upsert_reports_row_inserted_before : (labelledUpsert 1).ReportsRow :=
  (upserts_report_iff .sqlite3 (labelled_upserts 1)).mpr (by decide +kernel) _
    (List.mem_singleton_self _)

/-- The last insertion was that of the other status. -/
theorem upsert_reports_other_row : ¬∀ (agent : Agent) (n : Nat) (p : CountedProfile n)
    (s s' : Session p) (us : List (Upsert p)), Upserts agent s us s' → ∀ u ∈ us, u.ReportsRow := by
  intro hreports
  have hother : (labelledUpsert 2).ReportsRow :=
    hreports _ _ _ _ _ _ (labelled_upserts 2) _ (List.mem_singleton_self _)
  revert hother
  decide +kernel

end DBAgent

end Hatohol

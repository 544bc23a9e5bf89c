import Mathlib.Data.Fintype.Pi
import Mathlib.Data.List.FinRange

/-!
# Insertion with update in two databases

`DBAgentMySQL::insert` leaves it to MySQL to update the row that an insertion collides with.
`DBAgentSQLite3::insert` inserts; if a key is in the way, an `UPDATE` follows, with a condition made
from the row that could not be inserted.
-/

namespace Hatohol

namespace DBAgent

/-! ## Tables -/

/-- `ItemData`. Integers of all widths are one kind. -/
inductive ItemData where
  | null
  | int (val : Int)
  | string (val : String)
  deriving DecidableEq, Repr

inductive SQLKeyType where
  | none
  | idx
  | uni
  | pri
  deriving DecidableEq, Repr

structure ColumnDef where
  keyType : SQLKeyType
  /-- SQL_COLUMN_FLAG_AUTO_INC -/
  autoInc : Bool
  canBeNull : Bool
  deriving DecidableEq, Repr

structure IndexDef (n : Nat) where
  columnIndexes : List (Fin n)
  isUnique : Bool
  columnIndexes_ne_nil : columnIndexes ≠ []

structure TableProfile (n : Nat) where
  columnDefs : Fin n → ColumnDef
  indexDefArray : List (IndexDef n)

abbrev Row (n : Nat) := Fin n → ItemData

/-- (DBAgent.cc:505-516) -/
def isAutoIncrementValue : ItemData → Bool
  | .int val => val == 0
  | _ => false

namespace TableProfile

variable {n : Nat} (p : TableProfile n)

/-- The columns that are a unique key each. -/
def uniqueColumns : List (Fin n) :=
  (List.finRange n).filter fun i => (p.columnDefs i).keyType == .uni

def uniqueIndexes : List (IndexDef n) := p.indexDefArray.filter IndexDef.isUnique

/-- `numUniqueKeys` (DBAgent.cc:80-112), which the constructor asserts to be one at most. -/
def numUniqueKeys : Nat := p.uniqueColumns.length + p.uniqueIndexes.length

/-- (DBAgent.cc:80-112) -/
def uniqueKeyColumnIndexes : List (Fin n) :=
  p.uniqueColumns ++ p.uniqueIndexes.flatMap IndexDef.columnIndexes

def primaryColumns : List (Fin n) :=
  (List.finRange n).filter fun i => (p.columnDefs i).keyType == .pri

/-- The keys that the databases keep unique: the primary key, and what `fixupIndexes` makes indexes
    of (DBAgentSQLite3.cc:383-452, DBAgent.cc:353-443). -/
def keys : List (List (Fin n)) :=
  (p.primaryColumns.map fun i => [i]) ++ (p.uniqueColumns.map fun i => [i]) ++
    p.uniqueIndexes.map IndexDef.columnIndexes

end TableProfile

section Rows

variable {n : Nat}

/-- Two rows have the same values in some columns, and none of them is NULL. -/
def matchesIn (columns : List (Fin n)) (r s : Row n) : Bool :=
  columns.all fun i => r i == s i && r i != .null

def collides (p : TableProfile n) (r s : Row n) : Bool := p.keys.any fun key => matchesIn key r s

def respectsKeys (p : TableProfile n) (rows : List (Row n)) : Prop :=
  rows.Pairwise fun r s => collides p r s = false

instance (p : TableProfile n) (rows : List (Row n)) : Decidable (respectsKeys p rows) :=
  inferInstanceAs (Decidable (rows.Pairwise fun r s => collides p r s = false))

/-- The row that is inserted: zero in an auto-increment column stands for the next number. -/
def numbered (p : TableProfile n) (next : Nat) (row : Row n) : Row n := fun i =>
  if (p.columnDefs i).autoInc && row i == .int 0 then .int next else row i

/-- Some columns of a row are set as in another one. -/
def setColumns (columns : Fin n → Bool) (row r : Row n) : Row n := fun i =>
  if columns i then row i else r i

end Rows

inductive DBError where
  | syntaxError
  | constraint
  | nullValue
  deriving DecidableEq, Repr

/-- `UPDATE` of some columns in the rows that meet a condition. An update that breaks a key does
    nothing. -/
def updateRows {n : Nat} (p : TableProfile n) (columns : Fin n → Bool) (row : Row n)
    (rows : List (Row n)) (cond : Row n → Bool) : Except DBError (List (Row n)) :=
  if ∀ i, columns i = false then .error .syntaxError
  else
    let updated := rows.map fun r => if cond r then setColumns columns row r else r
    if respectsKeys p updated then .ok updated else .error .constraint

end DBAgent

open DBAgent

/-! ## SQLite3 -/

namespace DBAgentSQLite3

variable {n : Nat} (p : TableProfile n)

/-- The columns that `UPDATE` sets (DBAgentSQLite3.cc:655-667). -/
def updatedColumns (row : Row n) (i : Fin n) : Bool :=
  !((p.columnDefs i).keyType == .pri && isAutoIncrementValue (row i))

/-- The columns of the condition (DBAgentSQLite3.cc:669-683). Without columns it is empty, and met by
    every row. -/
def conditionColumns (row : Row n) : List (Fin n) :=
  match p.primaryColumns.getLast? with
  | none => p.uniqueKeyColumnIndexes
  | some i => if isAutoIncrementValue (row i) then p.uniqueKeyColumnIndexes else [i]

/-- (DBAgentSQLite3.cc:635-687) -/
def update (row : Row n) (rows : List (Row n)) : Except DBError (List (Row n)) :=
  updateRows p (updatedColumns p row) row rows (matchesIn (conditionColumns p row) · row)

/-- `insert` with `upsertOnDuplicate` (DBAgentSQLite3.cc:533-589). -/
def insert (next : Nat) (rows : List (Row n)) (row : Row n) : Except DBError (List (Row n)) :=
  if rows.any fun r => collides p r (numbered p next row) then update p row rows
  else .ok (rows ++ [numbered p next row])

end DBAgentSQLite3

/-! ## MySQL -/

namespace DBAgentMySQL

variable {n : Nat} (p : TableProfile n)

/-- The columns after `ON DUPLICATE KEY UPDATE` (DBAgentMySQL.cc:341-370). -/
def updatedColumns (i : Fin n) : Bool := (p.columnDefs i).keyType != .pri

/-- `insert` with `upsertOnDuplicate` (DBAgentMySQL.cc:313-391). There is no SQL without a column to
    update. -/
def insert (next : Nat) (rows : List (Row n)) (row : Row n) : Except DBError (List (Row n)) :=
  if ∀ i, updatedColumns p i = false then .error .syntaxError
  else if ∃ i, (p.columnDefs i).canBeNull = false ∧ row i = .null then .error .nullValue
  else
    match rows.find? fun r => collides p r (numbered p next row) with
    | none => .ok (rows ++ [numbered p next row])
    | some old => updateRows p (updatedColumns p) row rows fun r => decide (r = old)

end DBAgentMySQL

end Hatohol

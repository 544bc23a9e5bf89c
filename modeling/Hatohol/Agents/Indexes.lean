import Mathlib.Data.String.Basic
import Hatohol.DBAgent
import Hatohol.Container.OrderedMap
import Hatohol.Sql.IndexStatements

/-!
# The indexes of a table

`DBAgent::fixupIndexes` makes the indexes of a table those of its profile (DBAgent.cc:365-443). What
there is comes from the database as texts of `CREATE` statements, which are compared with those that
the profile needs. SQLite keeps the texts; for MySQL they are made anew from what `SHOW INDEX`
answers.
-/

namespace Hatohol.Indexes

open Container Sql

/-! ## Profiles -/

structure ColumnDef where
  columnName : String
  keyType : DBAgent.SQLKeyType
  deriving DecidableEq, Repr

structure IndexDef (n : Nat) where
  name : String
  columnIndexes : List (Fin n)
  isUnique : Bool
  deriving DecidableEq, Repr

/-- All names are written into statements as they are. -/
structure TableProfile (n : Nat) where
  name : String
  columnDefs : Fin n → ColumnDef
  indexDefArray : List (IndexDef n)
  name_plain : isPlainName name = true
  columnName_plain : ∀ i, isPlainName (columnDefs i).columnName = true
  columnName_injective : Function.Injective fun i => (columnDefs i).columnName
  indexName_plain : ∀ d ∈ indexDefArray, isPlainName d.name = true
  columnIndexes_ne_nil : ∀ d ∈ indexDefArray, d.columnIndexes ≠ []
  columnIndexes_nodup : ∀ d ∈ indexDefArray, d.columnIndexes.Nodup

structure IndexInfo where
  name : String
  tableName : String
  sql : String
  deriving DecidableEq, Repr

inductive DBException where
  | syntaxError
  | noSuchTable
  | noSuchColumn
  | duplicateColumnName
  | noSuchIndex
  | duplicateKeyName
  | wrongIndexName
  /-- The rows of the table or a limit of the database forbid the index. -/
  | notAllowed
  /-- `HATOHOL_ASSERT` -/
  | assertionFailed
  deriving DecidableEq, Repr

namespace TableProfile

variable {n : Nat} (p : TableProfile n)

def columnName (i : Fin n) : String := (p.columnDefs i).columnName

def columnNames (columnIndexes : List (Fin n)) : List String := columnIndexes.map p.columnName

/-- The index that a column with a key gets. -/
def columnIndexDef (i : Fin n) : Option (IndexDef n) :=
  match (p.columnDefs i).keyType with
  | .uni => some ⟨p.columnName i, [i], true⟩
  | .idx => some ⟨p.columnName i, [i], false⟩
  | _ => none

/-- The indexes that `fixupIndexes` processes, one after another. -/
def indexDefs : List (IndexDef n) :=
  (List.finRange n).filterMap p.columnIndexDef ++ p.indexDefArray

end TableProfile

/-! ## fixupIndexes -/

/-- The virtual methods of an agent, with the database that it is connected to. -/
structure Agent (n : Nat) (σ : Type) where
  makeIndexName : TableProfile n → IndexDef n → String
  makeCreateIndexStatement : TableProfile n → IndexDef n → String
  makeDropIndexStatement : String → String → String
  getIndexInfoVect : TableProfile n → σ → Except DBException (List IndexInfo)
  execSql : String → σ → Except DBException σ

/-- `ctx`, with the database and the statements that have been executed. -/
structure FixupContext (σ : Type) where
  existingIndexMap : OrderedMap String IndexInfo
  database : σ
  issued : List String

namespace Agent

variable {n : Nat} {σ : Type} (agent : Agent n σ) (p : TableProfile n)

def exec (sql : String) (ctx : FixupContext σ) : Except DBException (FixupContext σ) := do
  let database ← agent.execSql sql ctx.database
  return { ctx with database, issued := ctx.issued ++ [sql] }

def createIndex (indexDef : IndexDef n) (ctx : FixupContext σ) :
    Except DBException (FixupContext σ) :=
  agent.exec (agent.makeCreateIndexStatement p indexDef) ctx

def dropIndex (name tableName : String) (ctx : FixupContext σ) :
    Except DBException (FixupContext σ) :=
  agent.exec (agent.makeDropIndexStatement name tableName) ctx

def proc (indexDef : IndexDef n) (ctx : FixupContext σ) : Except DBException (FixupContext σ) :=
  let indexName := agent.makeIndexName p indexDef
  match ctx.existingIndexMap.find? indexName with
  | none => agent.createIndex p indexDef ctx
  | some indexInfo => do
      let ctx ← if agent.makeCreateIndexStatement p indexDef ≠ indexInfo.sql then do
          let ctx ← agent.dropIndex indexName p.name ctx
          agent.createIndex p indexDef ctx
        else pure ctx
      return { ctx with existingIndexMap := ctx.existingIndexMap.erase indexName }

def procs : List (IndexDef n) → FixupContext σ → Except DBException (FixupContext σ)
  | [], ctx => return ctx
  | indexDef :: indexDefs, ctx => do procs indexDefs (← agent.proc p indexDef ctx)

/-- The loop that drops what remains in the map, from its first entry on. -/
def dropRemaining :
    List (String × IndexInfo) → FixupContext σ → Except DBException (FixupContext σ)
  | [], ctx => return ctx
  | (_, indexInfo) :: entries, ctx => do
      dropRemaining entries (← agent.dropIndex indexInfo.name indexInfo.tableName ctx)

def fixupIndexes (database : σ) : Except DBException (FixupContext σ) := do
  let indexInfoVect ← agent.getIndexInfoVect p database
  let existingIndexMap := OrderedMap.ofList (indexInfoVect.map fun info => (info.name, info))
  let ctx ← agent.procs p p.indexDefs ⟨existingIndexMap, database, []⟩
  agent.dropRemaining ctx.existingIndexMap.entries ctx

end Agent

/-! ## Databases -/

/-- An index as a database has it. -/
structure Index where
  name : String
  columns : List String
  isUnique : Bool
  deriving DecidableEq, Repr

/-- Names of indexes are compared in one case. -/
def lower (s : String) : List Char := s.toList.map Char.toLower

/-- The table of the agent with its indexes, the primary key aside. What a database keeps of an index
    is of the type `ρ`. -/
structure Table (ρ : Type) (index : ρ → Index) where
  name : String
  columns : List String
  /-- What the rows of the table and the limits of the database allow. -/
  allows : Index → Bool
  records : List ρ
  columns_ne_nil : ∀ r ∈ records, (index r).columns ≠ []
  names_distinct : (records.map fun r => lower (index r).name).Nodup
  not_primary : ∀ r ∈ records, lower (index r).name ≠ "primary".toList

namespace Table

variable {ρ : Type} {index : ρ → Index}

local instance : LawfulBEq (List Char) := inferInstance

def createIndex (t : Table ρ index) (r : ρ) : Except DBException (Table ρ index) :=
  if hcolumns : (index r).columns = [] ∨ ∃ column ∈ (index r).columns, column ∉ t.columns then
    .error .noSuchColumn
  else if hprimary : lower (index r).name = "primary".toList then .error .wrongIndexName
  else if hname : lower (index r).name ∈ t.records.map fun r => lower (index r).name then
    .error .duplicateKeyName
  else if t.allows (index r) = false then .error .notAllowed
  else .ok { t with
    records := r :: t.records
    columns_ne_nil := by
      intro r' hr'
      rcases List.mem_cons.mp hr' with rfl | hr'
      · exact fun hnil => hcolumns (.inl hnil)
      · exact t.columns_ne_nil r' hr'
    names_distinct := List.nodup_cons.mpr ⟨hname, t.names_distinct⟩
    not_primary := by
      intro r' hr'
      rcases List.mem_cons.mp hr' with rfl | hr'
      · exact hprimary
      · exact t.not_primary r' hr' }

def dropIndex (t : Table ρ index) (name : String) : Except DBException (Table ρ index) :=
  if lower name ∈ t.records.map fun r => lower (index r).name then
    .ok { t with
      records := t.records.filter fun r => lower (index r).name ≠ lower name
      columns_ne_nil r hr := t.columns_ne_nil r (List.mem_filter.mp hr).1
      names_distinct := t.names_distinct.sublist (List.filter_sublist.map _)
      not_primary r hr := t.not_primary r (List.mem_filter.mp hr).1 }
  else .error .noSuchIndex

end Table

/-! ## MySQL -/

abbrev MySqlTable := Table Index id

/-- A row of `SHOW INDEX`. -/
structure IndexStruct where
  table : String
  nonUnique : Bool
  keyName : String
  seqInIndex : Nat
  columnName : String
  deriving DecidableEq, Repr

namespace MySql

variable {n : Nat}

/-- The rows of an index, with its columns from a number on. -/
def indexRows (table : String) (index : Index) : List String → Nat → List IndexStruct
  | [], _ => []
  | column :: columns, seq =>
      ⟨table, !index.isUnique, index.name, seq, column⟩ :: indexRows table index columns (seq + 1)

/-- `SHOW INDEX`, where the primary key comes first. -/
def getIndexes (primaryKey : List String) (t : MySqlTable) : List IndexStruct :=
  indexRows t.name ⟨"PRIMARY", primaryKey, true⟩ primaryKey 1 ++
    t.records.flatMap fun index => indexRows t.name index index.columns 1

def createIndexText (isUnique : Bool) (name table : String) (columns : List String) : String :=
  "CREATE " ++ (if isUnique then "UNIQUE " else "") ++ "INDEX " ++ name ++ " ON " ++ table ++ " (" ++
    columnsText columns

def makeCreateIndexStatement (p : TableProfile n) (indexDef : IndexDef n) : String :=
  createIndexText indexDef.isUnique indexDef.name p.name (p.columnNames indexDef.columnIndexes)

def makeDropIndexStatement (name tableName : String) : String :=
  "DROP INDEX " ++ name ++ " ON " ++ tableName

def columnIndexDict (p : TableProfile n) : OrderedMap String (Fin n) :=
  OrderedMap.ofList ((List.finRange n).map fun i => (p.columnName i, i))

/-- The columns of an index by their numbers in it. -/
abbrev IndexStructSeqMap := OrderedMap Nat IndexStruct

def groupIndex (m : OrderedMap String IndexStructSeqMap) (idxStruct : IndexStruct) :
    OrderedMap String IndexStructSeqMap :=
  if idxStruct.keyName = "PRIMARY" then m
  else m.set idxStruct.keyName
    (((m.find? idxStruct.keyName).getD .empty).set idxStruct.seqInIndex idxStruct)

def findColumns (p : TableProfile n) : List (Nat × IndexStruct) → Except DBException (List (Fin n))
  | [] => return []
  | (_, idxStruct) :: seqMap =>
      match (columnIndexDict p).find? idxStruct.columnName with
      | none => throw .assertionFailed
      | some i => do return i :: (← findColumns p seqMap)

/-- A group has a first element. -/
def makeIndexInfo (p : TableProfile n) (seqMap : IndexStructSeqMap) :
    Except DBException IndexInfo := do
  let columnIndexes ← findColumns p seqMap.entries
  match seqMap.entries with
  | [] => throw .assertionFailed
  | (_, firstElem) :: _ =>
      return ⟨firstElem.keyName, firstElem.table,
        makeCreateIndexStatement p ⟨firstElem.keyName, columnIndexes, !firstElem.nonUnique⟩⟩

def getIndexInfoVect (primaryKey : List String) (p : TableProfile n) (t : MySqlTable) :
    Except DBException (List IndexInfo) :=
  ((getIndexes primaryKey t).foldl groupIndex .empty).entries.mapM fun entry =>
    makeIndexInfo p entry.2

def execSql (sql : String) (t : MySqlTable) : Except DBException MySqlTable :=
  match readIndexStatement sql with
  | some (.create isUnique name table columns) =>
      if table ≠ t.name then .error .noSuchTable
      else if ¬ columns.Nodup then .error .duplicateColumnName
      else t.createIndex ⟨name, columns, isUnique⟩
  | some (.drop name (some table)) =>
      if table = t.name then t.dropIndex name else .error .noSuchTable
  | _ => .error .syntaxError

/-- `DBAgentMySQL`, with the columns of the primary key. -/
def agent (primaryKey : List String) : Agent n MySqlTable where
  makeIndexName _ indexDef := indexDef.name
  makeCreateIndexStatement := makeCreateIndexStatement
  makeDropIndexStatement := makeDropIndexStatement
  getIndexInfoVect := getIndexInfoVect primaryKey
  execSql := execSql

end MySql

/-! ## SQLite -/

/-- A row of `sqlite_master`. The text is the one that has made the index. -/
structure SqliteIndex where
  index : Index
  sql : String
  sql_index : ∀ isUnique name table columns,
    readIndexStatement sql = some (.create isUnique name table columns) →
      index = ⟨name, columns, isUnique⟩

abbrev SqliteTable := Table SqliteIndex SqliteIndex.index

namespace Sqlite

variable {n : Nat}

def makeIndexName (p : TableProfile n) (indexDef : IndexDef n) : String :=
  "i_" ++ p.name ++ "_" ++ indexDef.name

def makeCreateIndexStatement (p : TableProfile n) (indexDef : IndexDef n) : String :=
  "CREATE " ++ (if indexDef.isUnique then "UNIQUE " else "") ++ "INDEX " ++
    makeIndexName p indexDef ++ " ON " ++ p.name ++ "(" ++
    columnsText (p.columnNames indexDef.columnIndexes)

def makeDropIndexStatement (name : String) : String := "DROP INDEX " ++ name

def getIndexInfoVect (t : SqliteTable) : List IndexInfo :=
  t.records.map fun r => ⟨r.index.name, t.name, r.sql⟩

def execSql (sql : String) (t : SqliteTable) : Except DBException SqliteTable :=
  match hread : readIndexStatement sql with
  | some (.create isUnique name table columns) =>
      if table = t.name then
        t.createIndex ⟨⟨name, columns, isUnique⟩, sql, fun isUnique' name' table' columns' h => by
          rw [hread] at h
          injection Option.some.inj h with hunique hname _ hcolumns
          rw [hunique, hname, hcolumns]⟩
      else .error .noSuchTable
  | some (.drop name none) => t.dropIndex name
  | _ => .error .syntaxError

/-- `DBAgentSQLite3` -/
def agent : Agent n SqliteTable where
  makeIndexName := makeIndexName
  makeCreateIndexStatement := makeCreateIndexStatement
  makeDropIndexStatement name _ := makeDropIndexStatement name
  getIndexInfoVect _ t := .ok (getIndexInfoVect t)
  execSql := execSql

end Sqlite

end Hatohol.Indexes

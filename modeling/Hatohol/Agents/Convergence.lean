import Hatohol.Agents.IndexRows

/-!
# fixupIndexes converges

For both agents the indexes become those of the profile, and there is nothing more to do then.
-/

namespace Hatohol.Indexes

open Sql

/-- The first run makes the indexes those of the profile and the second one executes nothing. -/
def Agent.Converges {n : Nat} {σ : Type} (agent : Agent n σ) (indexes : σ → List Index)
    (p : TableProfile n) (s : σ) : Prop :=
  ∃ ctx ctx', agent.fixupIndexes p s = .ok ctx ∧
    (indexes ctx.database).Perm (p.indexDefs.map (agent.declaredIndex p)) ∧
    agent.fixupIndexes p ctx.database = .ok ctx' ∧ ctx'.issued = []

def SqliteTable.indexes (t : SqliteTable) : List Index := t.records.map SqliteIndex.index

/-- What the agent knows of the indexes is enough. -/
theorem Agent.Laws.converges {n : Nat} {σ : Type} {agent : Agent n σ} {p : TableProfile n}
    (laws : agent.Laws p) {indexes : σ → List Index}
    (hindexes : ∀ s, indexes s = (laws.records s).map Record.index) (hdistinct : p.IndexNamesDistinct)
    {s : σ} (hserves : laws.Serves s) (hfix : agent.CanFix p ((indexes s).map Index.name)) :
    agent.Converges indexes p s := by
  rw [hindexes, List.map_map] at hfix
  obtain ⟨ctx, hfirst, hholds⟩ := fixupIndexes_declares hdistinct ⟨hserves, List.Perm.refl _⟩ hfix
  obtain ⟨ctx', hsecond, hissued⟩ := fixupIndexes_settled hholds
  refine ⟨ctx, ctx', hfirst, ?_, hsecond, hissued⟩
  have hperm := hholds.perm.map Record.index
  rw [List.map_map] at hperm
  rw [hindexes]
  exact hperm

/-- A column with an index, and what else is declared. -/
def usersProfile (indexDefArray : List (IndexDef 2))
    (hplain : ∀ d ∈ indexDefArray, isPlainName d.name = true)
    (hne : ∀ d ∈ indexDefArray, d.columnIndexes ≠ [])
    (hnodup : ∀ d ∈ indexDefArray, d.columnIndexes.Nodup) : TableProfile 2 where
  name := "users"
  columnDefs i := if i = 0 then ⟨"id", .none⟩ else ⟨"name", .uni⟩
  indexDefArray
  name_plain := by decide
  columnName_plain := by decide
  columnName_injective := by decide
  indexName_plain := hplain
  columnIndexes_ne_nil := hne
  columnIndexes_nodup := hnodup

def users : TableProfile 2 :=
  usersProfile [⟨"both", [0, 1], false⟩] (by decide) (by decide) (by decide)

/-- Two names that a database takes for one. -/
def usersTwice : TableProfile 2 :=
  usersProfile [⟨"both", [0, 1], false⟩, ⟨"Both", [0], false⟩] (by decide) (by decide) (by decide)

/-- MySQL has no more than 16 columns in an index. -/
def fitsColumns (index : Index) : Bool := index.columns.length ≤ 16

/-- Some rows of the table are the same, so that no index can be unique. -/
def repeatsRows (index : Index) : Bool := !index.isUnique

def usersMySql (allows : Index → Bool) (records : List Index) (hne : ∀ i ∈ records, i.columns ≠ [])
    (hnames : (records.map fun i => lower i.name).Nodup)
    (hprimary : ∀ i ∈ records, lower i.name ≠ "primary".toList) : MySqlTable :=
  ⟨"users", ["id", "name", "age"], allows, records, hne, hnames, hprimary⟩

/-- A unique index too few and an index too many. -/
def usersStale : MySqlTable :=
  usersMySql fitsColumns [⟨"name", ["name"], false⟩, ⟨"old", ["id", "name"], true⟩]
    (by decide) (by decide) (by decide)

def staleIndex : SqliteIndex where
  index := ⟨"i_users_name", ["age"], true⟩
  sql := "CREATE UNIQUE INDEX i_users_name ON users (age)"
  sql_index isUnique name table columns h := by
    have hread : readIndexStatement "CREATE UNIQUE INDEX i_users_name ON users (age)" =
      some (.create true "i_users_name" "users" ["age"]) := by decide +kernel
    rw [hread] at h
    injection Option.some.inj h with hunique hname _ hcolumns
    rw [← hunique, ← hname, ← hcolumns]

def usersSqlite : SqliteTable :=
  ⟨"users", ["id", "name", "age"], fitsColumns, [staleIndex], by decide, by decide, by decide⟩

/-- The name of an index that has been made in quotation marks. -/
def quotedIndex : SqliteIndex where
  index := ⟨"old-index", ["name"], false⟩
  sql := "CREATE INDEX [old-index] ON users(name)"
  sql_index isUnique name table columns h := by
    have hread : readIndexStatement "CREATE INDEX [old-index] ON users(name)" = none := by
      decide +kernel
    rw [hread] at h
    cases h

theorem usersDistinct : users.IndexNamesDistinct := by
  unfold TableProfile.IndexNamesDistinct
  decide

theorem knowsColumns_usersStale : MySql.KnowsColumns users usersStale.records := by
  intro i hi
  rcases List.mem_cons.mp hi with rfl | hi
  · exact ⟨[1], by decide⟩
  · rcases List.mem_cons.mp hi with rfl | hi
    · exact ⟨[0, 1], by decide⟩
    · cases hi

theorem Agent.Converges.issues {n : Nat} {σ : Type} {agent : Agent n σ} {indexes : σ → List Index}
    {p : TableProfile n} {s : σ} (hconverges : agent.Converges indexes p s) (e : DBException) :
    (agent.fixupIndexes p s).map FixupContext.issued ≠ .error e := by
  obtain ⟨ctx, -, hfirst, -⟩ := hconverges
  rw [hfirst]
  exact fun heq => nomatch heq

end Hatohol.Indexes

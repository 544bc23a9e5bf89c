import Hatohol.DBTables
import Hatohol.DBTablesUser

/-!
# Administrators in an updated database

The updater of the users' tables gives all privileges to the users who had all that the old version
knew of. Which flags these are is computed in a `static` variable, once in a process
(server/src/DBTablesUser.cc:33-54, 229-273).
-/

namespace Hatohol

open DBTables

namespace DBTablesUser

/-- What `static const oldAdminFlags` of `updateAdminPrivilege` holds in the process, and the tables
    that are being updated. -/
structure Updating where
  oldAdminFlags : Option OperationPrivilegeFlag
  tables : UserTables

/-- The flags of a user who has the first `n` privileges. -/
def allFlags (n : Nat) : OperationPrivilegeFlag := 1#64 <<< n - 1#64

def allPrivileges : OperationPrivilegeFlag := OperationPrivilege.allPrivileges.flags

/-- (DBTablesUser.cc:229-240) -/
def Updating.updateAdminPrivilege (u : Updating) (oldNumOpprvlg : Nat) : Updating :=
  let oldAdminFlags := u.oldAdminFlags.getD (allFlags oldNumOpprvlg)
  ⟨some oldAdminFlags, u.tables.replaceFlags oldAdminFlags allPrivileges⟩

/-- (DBTablesUser.cc:242-273) -/
def updateDB (oldPackedVer : Version) (u : Updating) : Updating :=
  let oldVer := oldPackedVer.getPackedVer
  let u := if oldVer ≤ 1 then u.updateAdminPrivilege 10 else u
  let u := if oldVer ≤ 2 then u.updateAdminPrivilege 16 else u
  let u := if oldVer ≤ 3 then u.updateAdminPrivilege 19 else u
  let u := if oldVer ≤ Version.getPackedVer ⟨0, 1, 1⟩ then u.updateAdminPrivilege 23 else u
  let u := if oldVer ≤ Version.getPackedVer ⟨0, 1, 2⟩ then u.updateAdminPrivilege 29 else u
  if oldVer ≤ Version.getPackedVer ⟨0, 1, 2⟩ then u.updateAdminPrivilege 32 else u

/-- USER_DB_VERSION (DBTablesUser.cc:53-54) -/
def version : Version := ⟨0, 1, 3⟩

/-- The tables are there already. -/
def setupInfo : SetupInfo Updating where
  version := version.getPackedVer
  updater := some fun oldPackedVer u => some (updateDB oldPackedVer u)
  createTables := id

/-- The databases of a process, one after the other. -/
def setupAll : Option OperationPrivilegeFlag → List (TablesGroup UserTables) →
    List (TablesGroup UserTables)
  | _, [] => []
  | oldAdminFlags, database :: databases =>
      let group := setup setupInfo ⟨database.version, ⟨oldAdminFlags, database.contents⟩⟩
      ⟨group.version, group.contents.tables⟩ :: setupAll group.contents.oldAdminFlags databases

/-- The versions before 1.3. -/
inductive OldVersion where
  | v10
  | v11
  | v12
  deriving DecidableEq, Repr

namespace OldVersion

def version : OldVersion → Version
  | v10 => ⟨0, 1, 0⟩
  | v11 => ⟨0, 1, 1⟩
  | v12 => ⟨0, 1, 2⟩

/-- The privileges that there were (DBTablesUser.cc:42-51). -/
def numOpprvlg : OldVersion → Nat
  | v10 => 23
  | v11 => 29
  | v12 => 32

/-- The first number that `updateDB` passes on. -/
def firstNum : OldVersion → Nat
  | v10 => 23
  | v11 => 23
  | v12 => 29

end OldVersion

/-- Users who had all privileges have all privileges; nothing else is changed. -/
def Promotes (n : Nat) (t t' : UserTables) : Prop :=
  t'.users.rows = t.users.rows.map (fun row =>
      if row.flags = allFlags n then { row with flags := allPrivileges } else row) ∧
    t'.roles = t.roles ∧ t'.accessList = t.accessList

/-- No user has the one flags but not the other. -/
def Fits (oldAdminFlags : OperationPrivilegeFlag) (n : Nat) (t : UserTables) : Prop :=
  oldAdminFlags = allFlags n ∨
    ∀ row ∈ t.users.rows, row.flags ≠ oldAdminFlags ∧ row.flags ≠ allFlags n

theorem allPrivileges_ne (v : OldVersion) :
    allPrivileges ≠ allFlags v.numOpprvlg ∧ allPrivileges ≠ allFlags v.firstNum := by
  cases v <;> decide

theorem promotes_replaceFlags_iff {oldAdminFlags : OperationPrivilegeFlag} {n : Nat}
    (hold : allPrivileges ≠ oldAdminFlags) (hall : allPrivileges ≠ allFlags n) (t : UserTables) :
    Promotes n t (t.replaceFlags oldAdminFlags allPrivileges) ↔ Fits oldAdminFlags n t := by
  have hrow : ∀ row : UserRow, UserTables.updatedFlags oldAdminFlags allPrivileges row =
      (if row.flags = allFlags n then { row with flags := allPrivileges } else row) ↔
        oldAdminFlags = allFlags n ∨ (row.flags ≠ oldAdminFlags ∧ row.flags ≠ allFlags n) := by
    intro row
    have hflags : ∀ flags, allPrivileges ≠ flags → row.flags = flags →
        { row with flags := allPrivileges } ≠ row := by
      rintro flags hne rfl heq
      exact hne (congrArg UserRow.flags heq)
    unfold UserTables.updatedFlags
    by_cases hold' : row.flags = oldAdminFlags <;> by_cases hall' : row.flags = allFlags n
    · simp [hold', ← hold'.symm.trans hall']
    · have hne : oldAdminFlags ≠ allFlags n := hold' ▸ hall'
      rw [if_pos hold', if_neg hall']
      exact iff_of_false (hflags _ hold hold') (by simp [hne, hold'])
    · have hne : oldAdminFlags ≠ allFlags n := fun heq => hold' (hall'.trans heq.symm)
      rw [if_neg hold', if_pos hall']
      exact iff_of_false (hflags _ hall hall').symm (by simp [hne, hall'])
    · rw [if_neg hold', if_neg hall']
      exact iff_of_true rfl (Or.inr ⟨hold', hall'⟩)
  have hrows : (t.replaceFlags oldAdminFlags allPrivileges).users.rows =
      t.users.rows.map (UserTables.updatedFlags oldAdminFlags allPrivileges) := rfl
  rw [Promotes, and_iff_left ⟨rfl, rfl⟩, hrows, List.map_inj_left]
  simp only [hrow]
  by_cases hfits : oldAdminFlags = allFlags n
  · simp [Fits, hfits]
  · simp [Fits, hfits]

/-! ## A process -/

theorem replaceFlags_replaceFlags (t : UserTables) (old new : OperationPrivilegeFlag) :
    (t.replaceFlags old new).replaceFlags old new = t.replaceFlags old new := by
  have hrow : ∀ row : UserRow, UserTables.updatedFlags old new
    (UserTables.updatedFlags old new row) =
      UserTables.updatedFlags old new row := by
    intro row
    unfold UserTables.updatedFlags
    split <;> simp_all
  simp [UserTables.replaceFlags, Table.Counted.modify, hrow]

theorem updateAdminPrivilege_again (t : UserTables) (m : OperationPrivilegeFlag) (n : Nat) :
    Updating.updateAdminPrivilege ⟨some m, t.replaceFlags m allPrivileges⟩ n =
      ⟨some m, t.replaceFlags m allPrivileges⟩ := by
  simp [Updating.updateAdminPrivilege, replaceFlags_replaceFlags]

/-- All steps use the flags of the first one. -/
theorem updateDB_version (v : OldVersion) (u : Updating) :
    updateDB v.version u =
      ⟨some (u.oldAdminFlags.getD (allFlags v.firstNum)),
        u.tables.replaceFlags (u.oldAdminFlags.getD (allFlags v.firstNum)) allPrivileges⟩ := by
  have hfirst : ∀ n, u.updateAdminPrivilege n = ⟨some (u.oldAdminFlags.getD (allFlags n)),
      u.tables.replaceFlags (u.oldAdminFlags.getD (allFlags n)) allPrivileges⟩ := fun n => rfl
  cases v <;>
    simp [updateDB, OldVersion.version, OldVersion.firstNum, Version.getPackedVer, hfirst,
      updateAdminPrivilege_again]

theorem setup_version (v : OldVersion) (u : Updating) :
    setup setupInfo ⟨some v.version.getPackedVer, u⟩ =
      ⟨some version.getPackedVer, updateDB v.version u⟩ := by
  cases v <;>
    simp [setup, setupTables, updateTablesVersionIfNeeded, setupInfo, version, OldVersion.version,
      Version.getPackedVer, Version.setPackedVer] <;> rfl

/-- The flags that a process takes for those of an administrator, from its first database on. -/
def adminFlags : List (OldVersion × UserTables) → OperationPrivilegeFlag
  | [] => 0#64
  | (v, _) :: _ => allFlags v.firstNum

def database (v : OldVersion) (t : UserTables) : TablesGroup UserTables :=
  ⟨some v.version.getPackedVer, t⟩

theorem setupAll_of_some (m : OperationPrivilegeFlag) (databases : List (OldVersion × UserTables)) :
    setupAll (some m) (databases.map fun (v, t) => database v t) =
      databases.map fun (_, t) => ⟨some version.getPackedVer, t.replaceFlags m allPrivileges⟩ := by
  induction databases with
  | nil => rfl
  | cons first databases ih =>
    obtain ⟨v, t⟩ := first
    simp only [List.map_cons, setupAll, database, setup_version, updateDB_version, Option.getD_some]
    exact congrArg _ ih

theorem setupAll_eq (databases : List (OldVersion × UserTables)) :
    setupAll none (databases.map fun (v, t) => database v t) =
      databases.map fun (_, t) =>
        ⟨some version.getPackedVer, t.replaceFlags (adminFlags databases) allPrivileges⟩ := by
  cases databases with
  | nil => rfl
  | cons first databases =>
    obtain ⟨v, t⟩ := first
    simp only [List.map_cons, setupAll, database, setup_version, updateDB_version, Option.getD_none]
    exact congrArg _ (setupAll_of_some _ databases)

theorem allPrivileges_ne_adminFlags (databases : List (OldVersion × UserTables)) :
    allPrivileges ≠ adminFlags databases := by
  match databases with
  | [] => decide
  | (v, _) :: _ => exact (allPrivileges_ne v).2

/-- Databases are updated to version 1.3 in one process. In each of them just the old administrators
    are promoted, if and only if the flags that the first database has left are the right ones for
    it, or nobody has the one or the other. -/
theorem admins_promoted_iff (databases : List (OldVersion × UserTables)) :
    List.Forall₂ (fun (v, t) updated => Promotes v.numOpprvlg t updated.contents ∧
        updated.version = some version.getPackedVer)
      databases (setupAll none (databases.map fun (v, t) => database v t)) ↔
    ∀ v t, (v, t) ∈ databases → Fits (adminFlags databases) v.numOpprvlg t := by
  rw [setupAll_eq, List.forall₂_map_right_iff, List.forall₂_same]
  constructor
  · intro h v t hmem
    exact (promotes_replaceFlags_iff (allPrivileges_ne_adminFlags databases) (allPrivileges_ne v).1
      t).mp (h _ hmem).1
  · rintro h ⟨v, t⟩ hmem
    exact ⟨(promotes_replaceFlags_iff (allPrivileges_ne_adminFlags databases) (allPrivileges_ne v).1
      t).mpr (h v t hmem), rfl⟩

/-! A user with the first 23 privileges, who is no administrator of version 1.1, and one with all 29. -/

def usersOf11 : UserTables where
  users :=
    { rows := [⟨1, .ofString "user", emptyText, allFlags 23⟩, ⟨2, .ofString "admin", emptyText,
        allFlags 29⟩]
      next := 3
      id_lt := by decide
      unique_id := by decide }
  roles := .empty _
  accessList := .empty _

theorem admins_of_11_not_promoted :
    ¬ List.Forall₂ (fun (v, t) updated => Promotes (OldVersion.numOpprvlg v) t updated.contents ∧
        updated.version = some version.getPackedVer)
      [(.v11, usersOf11)] (setupAll none [database .v11 usersOf11]) ∧
    (setupAll none [database .v11 usersOf11]).map (·.contents.users.rows.map UserRow.flags) =
      [[allPrivileges, allFlags 29]] := by
  refine ⟨?_, by decide +kernel⟩
  rw [← List.map_singleton (f := fun p : OldVersion × UserTables => database p.1 p.2)
    (a := (.v11, usersOf11)), setupAll_eq, List.map_singleton, List.forall₂_cons]
  rintro ⟨⟨hpromotes, -⟩, -⟩
  have hfits := (promotes_replaceFlags_iff (by decide) (by decide) usersOf11).mp hpromotes
  revert hfits
  rw [Fits]
  decide +kernel

end DBTablesUser

end Hatohol

import Mathlib.Algebra.Group.Nat.Defs
import Mathlib.Data.List.Basic

/-!
# Groups of tables and their versions

A group of tables is set up when the program starts: its tables are made if they do not exist, and
if another version of the program is recorded, the updater of the group is called first
(server/src/DBTables.cc:35-72, 127-256). All this is one transaction.
-/

namespace Hatohol

namespace DBTables

/-- Packed into an `int` when it is recorded or compared. -/
structure Version where
  vendorVer : Nat
  majorVer : Nat
  minorVer : Nat
  deriving DecidableEq, Repr

namespace Version

/-- (DBTables.cc:35-49) -/
def getPackedVer (v : Version) : Nat :=
  v.minorVer % 2 ^ 12 + v.majorVer % 2 ^ 8 * 2 ^ 12 + v.vendorVer % 2 ^ 8 * 2 ^ 20

/-- (DBTables.cc:62-72) -/
def setPackedVer (packedVer : Nat) : Version where
  vendorVer := packedVer / 2 ^ 20 % 2 ^ 8
  majorVer := packedVer / 2 ^ 12 % 2 ^ 8
  minorVer := packedVer % 2 ^ 12

@[simp] theorem getPackedVer_setPackedVer (v : Version) :
    (setPackedVer v.getPackedVer).getPackedVer = v.getPackedVer := by
  simp only [setPackedVer, getPackedVer]
  omega

end Version

inductive SetupAssertion where
  | invalidVendorVersion
  | invalidMajorVersion
  | noUpdater
  | updateFailed
  deriving DecidableEq, Repr

/-- What a program knows of a group of tables. An updater is given the version that is recorded. -/
structure SetupInfo (σ : Type) where
  version : Nat
  updater : Option (Version → σ → Option σ)
  createTables : σ → σ

/-- A group in a database, with the record of its version. -/
structure TablesGroup (σ : Type) where
  version : Option Nat
  contents : σ

variable {σ : Type}

/-- (DBTables.cc:176-222) -/
def updateTablesVersionIfNeeded (setupInfo : SetupInfo σ) (versionInDB : Version) (contents : σ) :
    Except SetupAssertion σ := do
  if versionInDB.getPackedVer = setupInfo.version then return contents
  let versionInProg := Version.setPackedVer setupInfo.version
  if versionInDB.vendorVer ≠ versionInProg.vendorVer then throw .invalidVendorVersion
  if versionInDB.majorVer ≠ versionInProg.majorVer then throw .invalidMajorVersion
  match setupInfo.updater with
  | none => throw .noUpdater
  | some updater =>
    match updater versionInDB contents with
    | none => throw .updateFailed
    | some contents => return contents

/-- (DBTables.cc:127-165) A version that is recorded is there again afterwards, or overwritten. -/
def setupTables (setupInfo : SetupInfo σ) (group : TablesGroup σ) :
    Except SetupAssertion (TablesGroup σ) := do
  let contents ←
    match group.version with
    | none => pure group.contents
    | some packedVer =>
      updateTablesVersionIfNeeded setupInfo (Version.setPackedVer packedVer) group.contents
  return ⟨some setupInfo.version, setupInfo.createTables contents⟩

/-- A start of the program: where an assertion fails, the transaction is rolled back. -/
def setup (setupInfo : SetupInfo σ) (group : TablesGroup σ) : TablesGroup σ :=
  match setupTables setupInfo group with
  | .ok group => group
  | .error _ => group

theorem setup_of_commit {setupInfo : SetupInfo σ} {group group' : TablesGroup σ}
    (h : setupTables setupInfo group = .ok group') : setup setupInfo group = group' := by
  unfold setup
  rw [h]

theorem setup_of_ok {setupInfo : SetupInfo σ} {packedVer : Nat} {contents contents' : σ}
    (h : updateTablesVersionIfNeeded setupInfo (.setPackedVer packedVer) contents = .ok contents') :
    setup setupInfo ⟨some packedVer, contents⟩ =
      ⟨some setupInfo.version, setupInfo.createTables contents'⟩ := by
  apply setup_of_commit
  unfold setupTables
  dsimp only
  rw [h]
  rfl

theorem setup_of_rollback {setupInfo : SetupInfo σ} {group : TablesGroup σ} {e : SetupAssertion}
    (h : setupTables setupInfo group = .error e) : setup setupInfo group = group := by
  unfold setup
  rw [h]

theorem setup_of_error {setupInfo : SetupInfo σ} {packedVer : Nat} {contents : σ}
    {e : SetupAssertion}
    (h : updateTablesVersionIfNeeded setupInfo (.setPackedVer packedVer) contents = .error e) :
    setup setupInfo ⟨some packedVer, contents⟩ = ⟨some packedVer, contents⟩ := by
  apply setup_of_rollback
  unfold setupTables
  dsimp only
  rw [h]
  rfl

end DBTables

end Hatohol

import Mathlib.Data.Fintype.EquivFin

/-!
# Identifiers

The identifier types and special values of `server/common/Params.h` that the query options and
the tables use, and the sets and maps built from them. A set or a map is walked in the order of
its keys, as the source's are.
-/

namespace Hatohol

/-- Text as it reaches the tables. Requests, plugins' messages and column values come through
    C strings, and `DBTermCodec` reads a text up to its first NUL, so a text holds none. -/
structure CString where
  text : String
  noNul : '\x00' ∉ text.toList
  deriving DecidableEq, Repr

namespace CString

@[ext] theorem ext {a b : CString} (h : a.text = b.text) : a = b := by
  cases a
  cases b
  simp_all

@[simp] theorem text_beq (a b : CString) : (a.text == b.text) = (a == b) := by
  rw [Bool.eq_iff_iff]
  simp [CString.ext_iff]

/-- What `c_str()` shows of a string. -/
def ofString (s : String) : CString where
  text := String.ofList (s.toList.takeWhile (· != '\x00'))
  noNul := by
    intro h
    have hall := List.all_takeWhile (p := (· != '\x00')) (l := s.toList)
    rw [List.all_eq_true] at hall
    exact absurd rfl (bne_iff_ne.mp (hall '\x00' (by simpa using h)))

instance : Ord CString := ⟨fun a b => compare a.text b.text⟩

theorem compare_def (a b : CString) : compare a b = compare a.text b.text := rfl

instance : Std.TransOrd CString where
  eq_swap := by
    intro a b
    rw [compare_def, compare_def]
    exact Std.OrientedCmp.eq_swap
  isLE_trans := by
    intro a b c hab hbc
    rw [compare_def] at hab hbc ⊢
    exact Std.TransCmp.isLE_trans hab hbc

instance : Std.LawfulEqOrd CString where
  eq_of_compare {a b} h := ext (Std.LawfulEqCmp.eq_of_compare (by rwa [compare_def] at h))

/-- There are as many texts as there are lengths. -/
instance : Infinite CString :=
  Infinite.of_injective (fun n : Nat => ⟨String.ofList (List.replicate n 'a'),
    by simp⟩) fun m n h => by
    have hlen := congrArg (fun id : CString => id.text.length) h
    simpa using hlen

end CString

theorem exists_notMem {α : Type} [Infinite α] [DecidableEq α] (xs : List α) : ∃ x, x ∉ xs := by
  obtain ⟨x, hx⟩ := Infinite.exists_notMem_finset xs.toFinset
  exact ⟨x, fun hmem => hx (List.mem_toFinset.mpr hmem)⟩

theorem exists_not_contains {α : Type} [Infinite α] [DecidableEq α] [Ord α] [Std.TransOrd α]
    [Std.LawfulEqOrd α] (s : Std.TreeSet α) : ∃ x, s.contains x = false := by
  obtain ⟨x, hx⟩ := exists_notMem s.toList
  refine ⟨x, ?_⟩
  rw [Bool.eq_false_iff]
  intro hmem
  exact hx (by simpa using hmem)

def emptyText : CString := ⟨"", by decide⟩

theorem noNul_star : '\x00' ∉ "*".toList := by decide

/-- `timespec` -/
@[ext] structure Timespec where
  sec : Int
  nsec : Int
  deriving DecidableEq, Repr

/-- `int` in the source; no identifier is computed, so the width plays no part. -/
abbrev ServerIdType := Int

abbrev LocalHostIdType := CString

abbrev HostgroupIdType := CString

/-- Entries of the access list and query parameters may hold this in place of a server. -/
def allServers : ServerIdType := -1

def allLocalHosts : LocalHostIdType := ⟨"*", noNul_star⟩

def allHostGroups : HostgroupIdType := ⟨"*", noNul_star⟩

abbrev ServerIdSet := Std.TreeSet ServerIdType

abbrev LocalHostIdSet := Std.TreeSet LocalHostIdType

abbrev HostgroupIdSet := Std.TreeSet HostgroupIdType

abbrev ServerHostSetMap := Std.TreeMap ServerIdType LocalHostIdSet

abbrev ServerHostGrpSetMap := Std.TreeMap ServerIdType HostgroupIdSet

end Hatohol

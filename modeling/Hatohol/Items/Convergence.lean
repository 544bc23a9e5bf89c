import Hatohol.Items.Sync

/-!
# Repeated additions of an item

What `addItemInfo` leaves of the names of an item's categories after a sequence of calls: whether
they are those of the last call, and whether they stay when the last call is made again.
-/

namespace Hatohol

open Table

/-! ## The difference, applied twice -/

section DeltaCount

variable {stored incoming once twice : List CString}
  (honce : ∀ name, once.count name = deltaCount stored incoming name)

include honce

/-- The same names are stored as come in exactly when no other name was stored twice. -/
theorem mem_iff_of_deltaCount :
    (∀ name, name ∈ once ↔ name ∈ incoming) ↔
      ∀ name, 1 < stored.count name → name ∈ incoming := by
  rw [← subset_iff_of_deltaCount honce]
  refine forall_congr' fun name => ⟨Iff.mp, fun hmem => ⟨hmem, fun hincoming => ?_⟩⟩
  have hpos := List.count_pos_iff.mpr hincoming
  rw [← List.count_pos_iff, honce, deltaCount, if_pos hincoming]
  by_cases hstored : name ∈ stored
  · have hcount := List.count_pos_iff.mpr hstored
    omega
  · rw [if_neg hstored]
    omega

/-- The names stay when the difference is made again exactly when none comes in twice and none that
    does not come in was stored twice. -/
theorem perm_twice_iff (htwice : ∀ name, twice.count name = deltaCount once incoming name) :
    twice.Perm once ↔
      incoming.Nodup ∧ ∀ name, 1 < stored.count name → name ∈ incoming := by
  rw [List.perm_iff_count, List.nodup_iff_count_le_one, ← forall_and]
  refine forall_congr' fun name => ?_
  have hcount := honce name
  rw [htwice]
  rw [deltaCount] at hcount ⊢
  by_cases hincoming : name ∈ incoming
  · have hpos := List.count_pos_iff.mpr hincoming
    rw [if_pos hincoming] at hcount ⊢
    have hstays : name ∈ once := by
      rw [← List.count_pos_iff, hcount]
      by_cases hstored : name ∈ stored
      · have := List.count_pos_iff.mpr hstored
        omega
      · rw [if_neg hstored]
        omega
    rw [if_pos hstays]
    simp only [hincoming, implies_true, and_true]
    omega
  · have hzero := List.count_eq_zero_of_not_mem hincoming
    rw [if_neg hincoming, hzero] at hcount ⊢
    simp only [hincoming, imp_false]
    omega

end DeltaCount

namespace ItemTables

/-! ## One call -/

/-- The names of the categories that are stored for an item. -/
def storedNames (t : ItemTables) (k : ServerIdType × ItemIdType) : List CString :=
  ((t.stored k).map (·.2)).getD []

/-- The row of an item, without its categories. -/
def storedRow (t : ItemTables) (k : ServerIdType × ItemIdType) : Option ItemRow :=
  (t.stored k).map (·.1)

/-- The tables after a call of `addItemInfo`, which never fails. -/
def add (t : ItemTables) (itemInfo : ItemInfo) : ItemTables :=
  (t.addItemInfo itemInfo).toOption.getD t

variable (t : ItemTables) (itemInfo : ItemInfo)

theorem addItemInfo_eq_add : t.addItemInfo itemInfo = .ok (t.add itemInfo) := by
  obtain ⟨t', hok, -⟩ := t.addItemInfo_spec itemInfo
  rw [add, hok]
  rfl

theorem count_storedNames_add (name : CString) :
    ((t.add itemInfo).storedNames itemInfo.key).count name =
      deltaCount (t.storedNames itemInfo.key) itemInfo.categoryNames name := by
  obtain ⟨t', hok, -, ⟨names, hstored, hcount⟩, -⟩ := t.addItemInfo_spec itemInfo
  rw [addItemInfo_eq_add] at hok
  obtain rfl := Except.ok.inj hok
  rw [storedNames, hstored]
  exact hcount name

theorem storedRow_add : (t.add itemInfo).storedRow itemInfo.key = some { itemInfo.toItemRow with
    globalId := ((t.storedRow itemInfo.key).map ItemRow.globalId).getD t.items.next } := by
  obtain ⟨t', hok, -, ⟨names, hstored, -⟩, -⟩ := t.addItemInfo_spec itemInfo
  rw [addItemInfo_eq_add] at hok
  obtain rfl := Except.ok.inj hok
  rw [storedRow, hstored, storedRow, Option.map_map]
  rfl

theorem stored_add_of_ne {k : ServerIdType × ItemIdType} (hk : k ≠ itemInfo.key) :
    (t.add itemInfo).stored k = t.stored k := by
  obtain ⟨t', hok, hframe, -⟩ := t.addItemInfo_spec itemInfo
  rw [addItemInfo_eq_add] at hok
  obtain rfl := Except.ok.inj hok
  exact hframe k hk

/-! ## Sequences of calls -/

/-- The same items are stored, with the same names as often. -/
def SameItems (t t' : ItemTables) : Prop :=
  ∀ k, t'.storedRow k = t.storedRow k ∧ (t'.storedNames k).Perm (t.storedNames k)

/-- After the last of the calls the stored names are those that it gives, and the same call once
    more changes nothing. -/
def Converges (t : ItemTables) (calls : List ItemInfo) (last : ItemInfo) : Prop :=
  (∀ name, name ∈ ((calls ++ [last]).foldl add t).storedNames last.key ↔
    name ∈ last.categoryNames) ∧
  SameItems ((calls ++ [last]).foldl add t) ((calls ++ [last, last]).foldl add t)

/-- A call that is repeated keeps the rows. -/
theorem sameItems_add_add_iff :
    SameItems (t.add itemInfo) ((t.add itemInfo).add itemInfo) ↔
      (((t.add itemInfo).add itemInfo).storedNames itemInfo.key).Perm
        ((t.add itemInfo).storedNames itemInfo.key) := by
  refine ⟨fun hsame => (hsame itemInfo.key).2, fun hperm k => ?_⟩
  by_cases hk : k = itemInfo.key
  · subst hk
    refine ⟨?_, hperm⟩
    rw [storedRow_add, storedRow_add]
    rfl
  · have hstored := (t.add itemInfo).stored_add_of_ne itemInfo hk
    rw [storedRow, storedRow, storedNames, storedNames, hstored]
    exact ⟨rfl, .refl _⟩

/-- An item with the name of a category twice. -/
def twiceNamedItem : ItemInfo :=
  { plainItem with categoryNames := [.ofString "CPU", .ofString "CPU"] }

end ItemTables

end Hatohol

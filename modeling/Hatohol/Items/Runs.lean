import Hatohol.Items.Sync

/-!
# Runs of calls on the tables of items

Which categories are there after any sequence of calls. Deletion takes a row out of the table of
items and leaves its categories, so that after a run every category is one of a stored item only if
no item was deleted that had any.
-/

namespace Hatohol

open Sql DBTermCodec Table ItemsQueryOption

/-- A call that changes the tables of items. The synchronised server is a single one. -/
inductive ItemCall where
  | addItemInfo (itemInfo : ItemInfo)
  | addItemInfoList (itemInfoList : List ItemInfo)
  | deleteItemInfo (idList : List ItemIdType) (serverId : ServerIdType)
  | syncItems (hosts : HostTables) (servers : ServerIdSet) (itemInfoList : List ItemInfo)
      (serverId : ServerIdType) (hserver : serverId ≠ allServers)

namespace ItemCall

/-- The tables after a call. What throws is rolled back. -/
def run (t : ItemTables) : ItemCall → ItemTables
  | .addItemInfo itemInfo => (t.addItemInfo itemInfo).toOption.getD t
  | .addItemInfoList itemInfoList => (t.addItemInfoList itemInfoList).toOption.getD t
  | .deleteItemInfo idList serverId => (t.deleteItemInfo idList serverId).2
  | .syncItems hosts servers itemInfoList serverId _ =>
      ((t.syncItems hosts servers itemInfoList serverId).toOption.map (·.2)).getD t

/-- The item is deleted by the call: it is of the IDs that are given, or `syncItems` reads it and
    finds it changed in every incoming item with its ID. -/
def deletes (t : ItemTables) (row : ItemRow) : ItemCall → Bool
  | .addItemInfo _ | .addItemInfoList _ => false
  | .deleteItemInfo idList serverId => idList.contains row.id && row.serverId == serverId
  | .syncItems _ servers itemInfoList serverId _ =>
      itemInfoList ≠ [] && sees servers serverId (ItemTables.targetHostOf itemInfoList) row &&
        itemInfoList.all fun item =>
          decide (item.id ≠ row.id) || ItemTables.isItemChanged item (t.info row)

/-- The items that the call adds, in their order. -/
def additions (t : ItemTables) : ItemCall → List ItemInfo
  | .addItemInfo itemInfo => [itemInfo]
  | .addItemInfoList itemInfoList => itemInfoList
  | .deleteItemInfo _ _ => []
  | .syncItems _ servers itemInfoList serverId _ => (t.syncPlan servers serverId itemInfoList).1

end ItemCall

/-- A run so far: the tables, what has been added, the latest first, and which items have been
    deleted. -/
structure ItemHistory where
  tables : ItemTables
  added : List ItemInfo
  deleted : List (ServerIdType × ItemIdType)

namespace ItemHistory

def empty : ItemHistory := ⟨.empty, [], []⟩

/-- A single addition. -/
def add (h : ItemHistory) (item : ItemInfo) : ItemHistory :=
  ⟨(h.tables.addItemInfo item).toOption.getD h.tables, item :: h.added, h.deleted⟩

/-- The deletion of a call. -/
def delete (h : ItemHistory) (call : ItemCall) : ItemHistory where
  tables :=
    { items := h.tables.items.keep fun row => !call.deletes h.tables row
      itemCategories := h.tables.itemCategories
      given := h.tables.given }
  added := h.added
  deleted := (h.tables.items.rows.filter (call.deletes h.tables ·)).map ItemRow.key ++ h.deleted

/-- A call of a run. -/
def step (h : ItemHistory) (call : ItemCall) : ItemHistory where
  tables := call.run h.tables
  added := (call.additions h.tables).reverse ++ h.added
  deleted := (h.delete call).deleted

def run (calls : List ItemCall) : ItemHistory := calls.foldl step empty

/-! ## Calls as deletions and additions -/

theorem add_tables (h : ItemHistory) {item : ItemInfo} {t : ItemTables}
    (hok : h.tables.addItemInfo item = .ok t) : (h.add item).tables = t := by
  rw [add, hok]
  rfl

theorem foldl_add (h : ItemHistory) (items : List ItemInfo) {t : ItemTables}
    (hok : h.tables.addItemInfoList items = .ok t) :
    items.foldl add h = ⟨t, items.reverse ++ h.added, h.deleted⟩ := by
  induction items generalizing h with
  | nil =>
    obtain rfl : h.tables = t := Except.ok.inj hok
    rfl
  | cons item items ih =>
    obtain ⟨t₁, hok₁, -⟩ := h.tables.addItemInfo_spec item
    have htables := h.add_tables hok₁
    have hrest : (h.add item).tables.addItemInfoList items = .ok t := by
      rw [ItemTables.addItemInfoList, List.foldlM_cons, hok₁] at hok
      rw [htables]
      exact hok
    rw [List.foldl_cons, ih (h.add item) hrest]
    simp [add]

theorem delete_of_none (h : ItemHistory) {call : ItemCall}
    (hnone : ∀ row ∈ h.tables.items.rows, call.deletes h.tables row = false) : h.delete call = h :=
      by
  have hkeep : (h.tables.items.keep fun row => !call.deletes h.tables row) = h.tables.items := by
    apply AutoTable.keep_eq_self
    intro row hrow
    simp [hnone row hrow]
  have hdeleted : h.tables.items.rows.filter (call.deletes h.tables ·) = [] := by
    rw [List.filter_eq_nil_iff]
    intro row hrow
    simp [hnone row hrow]
  simp only [delete, hkeep, hdeleted, List.map_nil, List.nil_append]

theorem tables_delete_deleteItemInfo (h : ItemHistory) (idList : List ItemIdType)
    (serverId : ServerIdType) :
    (h.delete (.deleteItemInfo idList serverId)).tables =
      (h.tables.deleteItemInfo idList serverId).2 := by
  cases idList with
  | nil =>
    rw [h.delete_of_none (by simp [ItemCall.deletes])]
    rfl
  | cons id ids =>
    simp only [delete, ItemTables.deleteItemInfo, ItemTables.deleteRows, reduceCtorEq, if_false,
      ItemTables.selects_makeConditionForDeleteItem]
    rfl

theorem tables_delete_syncItems (h : ItemHistory) (hosts : HostTables) (servers : ServerIdSet)
    {incoming : List ItemInfo} (hne : incoming ≠ []) {serverId : ServerIdType}
    (hserver : serverId ≠ allServers) :
    (h.delete (.syncItems hosts servers incoming serverId hserver)).tables =
      h.tables.afterDelete servers serverId incoming := by
  apply ItemTables.ext
  · rw [ItemTables.afterDelete, ItemTables.deleteInvalidItems_items]
    apply AutoTable.keep_congr
    intro row hrow
    congr 1
    by_cases hrowServer : row.serverId = serverId
    · have hbyKey : h.tables.items.byKey (serverId, row.id) = some row := by
        rw [← hrowServer]
        exact h.tables.items.mem_rows_iff.mp hrow
      rw [Bool.eq_iff_iff, Bool.and_eq_true, List.contains_iff_mem, ItemTables.mem_idsToDelete,
        ItemTables.syncPlan, getElem?_left, ItemTables.getElem?_current, hbyKey]
      by_cases hsees : sees servers serverId (ItemTables.targetHostOf incoming) row
      · simp [ItemCall.deletes, hne, hsees, hrowServer, Option.filter]
      · simp [ItemCall.deletes, hsees, Option.filter]
    · have hsees : sees servers serverId (ItemTables.targetHostOf incoming) row = false := by
        simp [sees, hrowServer]
      simp [ItemCall.deletes, hsees, hrowServer]
  · rw [ItemTables.afterDelete, ItemTables.deleteInvalidItems_itemCategories]
    rfl

/-- A call deletes and then adds. -/
theorem addItemInfoList_delete (h : ItemHistory) (call : ItemCall) :
    (h.delete call).tables.addItemInfoList (call.additions h.tables) = .ok (call.run h.tables) := by
  cases call with
  | addItemInfo item =>
    obtain ⟨t, hok, -⟩ := h.tables.addItemInfo_spec item
    rw [h.delete_of_none fun _ _ => by rfl]
    simp [ItemCall.additions, ItemCall.run, ItemTables.addItemInfoList, hok, Except.toOption]
  | addItemInfoList items =>
    obtain ⟨t, hok, -⟩ := h.tables.addItemInfoList_frame items
    rw [h.delete_of_none fun _ _ => by rfl]
    simp [ItemCall.additions, ItemCall.run, hok, Except.toOption]
  | deleteItemInfo idList serverId =>
    rw [tables_delete_deleteItemInfo]
    rfl
  | syncItems hosts servers incoming serverId hserver =>
    by_cases hne : incoming = []
    · subst hne
      rw [h.delete_of_none (by simp [ItemCall.deletes])]
      rfl
    · obtain ⟨t, hok, -⟩ := (h.tables.afterDelete servers serverId incoming).addItemInfoList_frame
        (h.tables.syncPlan servers serverId incoming).1
      rw [h.tables_delete_syncItems hosts servers hne hserver]
      simp only [ItemCall.additions, ItemCall.run, hok,
        h.tables.syncItems_eq servers serverId incoming hosts hserver hne]
      rfl

theorem step_eq (h : ItemHistory) (call : ItemCall) :
    h.step call = (call.additions h.tables).foldl add (h.delete call) := by
  rw [(h.delete call).foldl_add _ (h.addItemInfoList_delete call)]
  rfl

/-! ## Every category is one of a stored item -/

def Attached (h : ItemHistory) : Prop :=
  ∀ category ∈ h.tables.itemCategories.rows,
    ∃ row ∈ h.tables.items.rows, row.globalId = category.globalItemId

/-- The call deletes no item that has categories. -/
def DeletesBare (h : ItemHistory) (call : ItemCall) : Prop :=
  ∀ row ∈ h.tables.items.rows, call.deletes h.tables row →
    h.tables.itemCategories.names row.globalId = []

theorem attached_delete {h : ItemHistory} {call : ItemCall} (hbare : h.DeletesBare call)
    (hattached : h.Attached) : (h.delete call).Attached := by
  intro category hcategory
  obtain ⟨row, hrow, hid⟩ := hattached category hcategory
  refine ⟨row, List.mem_filter.mpr ⟨hrow, ?_⟩, hid⟩
  rw [Bool.not_eq_true', Bool.eq_false_iff]
  intro hdeletes
  have hnil := hbare row hrow hdeletes
  rw [ItemCategories.names, List.map_eq_nil_iff, List.filter_eq_nil_iff] at hnil
  exact hnil category hcategory (by simp [hid])

theorem attached_add {h : ItemHistory} (item : ItemInfo) (hattached : h.Attached) :
    (h.add item).Attached := by
  obtain ⟨t, hok, hframe, ⟨names, hstored, -⟩, hcategories⟩ := h.tables.addItemInfo_spec item
  rw [ItemTables.stored_eq_some] at hstored
  intro category hcategory
  rw [h.add_tables hok] at hcategory ⊢
  -- the row of the item now, and the number it has
  have hnew := AutoTable.mem_of_byKey hstored.1
  rcases hcategories category hcategory with hold | hid
  · obtain ⟨row, hrow, hrowId⟩ := hattached category hold
    have hrowStored : h.tables.stored row.key =
        some (row, h.tables.itemCategories.names row.globalId) :=
      h.tables.stored_eq_some.mpr ⟨h.tables.items.mem_rows_iff.mp hrow, rfl⟩
    by_cases hkey : row.key = item.key
    · refine ⟨_, hnew, ?_⟩
      rw [← hkey, hrowStored]
      exact hrowId
    · rw [← hframe _ hkey, ItemTables.stored_eq_some] at hrowStored
      exact ⟨row, AutoTable.mem_of_byKey hrowStored.1, hrowId⟩
  · exact ⟨_, hnew, hid.symm⟩

theorem attached_foldl_add {h : ItemHistory} (items : List ItemInfo) (hattached : h.Attached) :
    (items.foldl add h).Attached := by
  induction items generalizing h with
  | nil => exact hattached
  | cons item items ih => exact ih (attached_add item hattached)

theorem attached_step {h : ItemHistory} {call : ItemCall} (hbare : h.DeletesBare call)
    (hattached : h.Attached) : (h.step call).Attached := by
  rw [step_eq]
  exact attached_foldl_add _ (attached_delete hbare hattached)

/-! ## An item that was deleted and added again -/

/-- An item that was deleted shows no category that the last addition did not give it. -/
def ShowsLast (h : ItemHistory) : Prop :=
  ∀ row ∈ h.tables.items.rows, row.key ∈ h.deleted →
    ∀ name ∈ h.tables.itemCategories.names row.globalId,
      ∃ item, lookup (fun item : ItemInfo => item.key) h.added row.key = some item ∧
        name ∈ item.categoryNames

/-- Where the item is still stored after an earlier deletion, it gives every name again that is
    stored more than once. -/
def GivesAgain (h : ItemHistory) (item : ItemInfo) : Prop :=
  item.key ∈ h.deleted → ∀ row names, h.tables.stored item.key = some (row, names) →
    ∀ name, 1 < names.count name → name ∈ item.categoryNames

def AllGiveAgain : ItemHistory → List ItemInfo → Prop
  | _, [] => True
  | h, item :: items => h.GivesAgain item ∧ AllGiveAgain (h.add item) items

theorem showsLast_delete {h : ItemHistory} (call : ItemCall) (hshows : h.ShowsLast) :
    (h.delete call).ShowsLast := by
  intro row hrow hdeleted
  obtain ⟨hrow, hkept⟩ := List.mem_filter.mp hrow
  rcases List.mem_append.mp hdeleted with hdeleted | hdeleted
  · obtain ⟨row', hrow', hkey⟩ := List.mem_map.mp hdeleted
    rw [List.mem_filter] at hrow'
    obtain rfl := List.inj_on_of_nodup_map h.tables.items.unique_key hrow'.1 hrow hkey
    simp [hrow'.2] at hkept
  · exact hshows row hrow hdeleted

theorem showsLast_add {h : ItemHistory} {item : ItemInfo} (hgives : h.GivesAgain item)
    (hshows : h.ShowsLast) : (h.add item).ShowsLast := by
  obtain ⟨t, hok, hframe, ⟨names, hstored, hcount⟩, -⟩ := h.tables.addItemInfo_spec item
  intro row hrow hdeleted name hname
  rw [h.add_tables hok] at hrow hname
  have hrowStored : t.stored row.key = some (row, t.itemCategories.names row.globalId) :=
    t.stored_eq_some.mpr ⟨t.items.mem_rows_iff.mp hrow, rfl⟩
  by_cases hkey : row.key = item.key
  · refine ⟨item, by simp [add, lookup, hkey], ?_⟩
    rw [hkey, hstored] at hrowStored
    obtain ⟨-, rfl⟩ := Prod.mk.inj (Option.some.inj hrowStored)
    refine (subset_iff_of_deltaCount hcount).mpr ?_ name hname
    intro name' htwice
    cases hold : h.tables.stored item.key with
    | none => simp [hold] at htwice
    | some old =>
      rw [hold] at htwice
      exact hgives (hkey ▸ hdeleted) old.1 old.2 hold name' htwice
  · rw [hframe _ hkey, ItemTables.stored_eq_some] at hrowStored
    rw [← hrowStored.2] at hname
    obtain ⟨item', hitem', hname'⟩ :=
      hshows row (AutoTable.mem_of_byKey hrowStored.1) hdeleted name hname
    refine ⟨item', ?_, hname'⟩
    have hskip : lookup (fun item : ItemInfo => item.key) (item :: h.added) row.key =
        lookup (fun item : ItemInfo => item.key) h.added row.key := by
      simp [lookup, Ne.symm hkey]
    exact hskip.trans hitem'

theorem showsLast_foldl_add {h : ItemHistory} {items : List ItemInfo} (hgive : h.AllGiveAgain items)
    (hshows : h.ShowsLast) : (items.foldl add h).ShowsLast := by
  induction items generalizing h with
  | nil => exact hshows
  | cons item items ih => exact ih hgive.2 (showsLast_add hgive.1 hshows)

/-! ## Runs -/

/-- The call meets the conditions under which the categories stay with their items. -/
def Meets (h : ItemHistory) (call : ItemCall) : Prop :=
  h.DeletesBare call ∧ (h.delete call).AllGiveAgain (call.additions h.tables)

def AllMeet : ItemHistory → List ItemCall → Prop
  | _, [] => True
  | h, call :: calls => h.Meets call ∧ AllMeet (h.step call) calls

theorem attached_and_showsLast_foldl {h : ItemHistory} {calls : List ItemCall}
    (hmeet : h.AllMeet calls) (hattached : h.Attached) (hshows : h.ShowsLast) :
    (calls.foldl step h).Attached ∧ (calls.foldl step h).ShowsLast := by
  induction calls generalizing h with
  | nil => exact ⟨hattached, hshows⟩
  | cons call calls ih =>
    obtain ⟨⟨hbare, hgive⟩, hrest⟩ := hmeet
    refine ih hrest (attached_step hbare hattached) ?_
    rw [step_eq]
    exact showsLast_foldl_add hgive (showsLast_delete call hshows)

/-- An item with a category. -/
def categorisedItem : ItemInfo :=
  { ItemTables.plainItem with categoryNames := [.ofString "CPU"] }

/-- An item without categories is deleted and added again with one. -/
def addedAgain : List ItemCall :=
  [.addItemInfo ItemTables.plainItem, .deleteItemInfo [ItemTables.plainItem.id] 1,
    .addItemInfo categorisedItem]

end ItemHistory

end Hatohol

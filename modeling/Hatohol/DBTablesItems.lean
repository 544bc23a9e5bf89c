import Hatohol.ItemsQueryOption
import Hatohol.DBTablesTriggers

/-!
# The tables of items and their categories

How items are read, stored and deleted with the names of their categories, and how they are
synchronised with what a monitoring server reports (server/src/DBTablesMonitoring.cc:2779-3088,
3868-4007). The categories of an item are rows of a table of their own, under its global ID.
-/

namespace Hatohol

open Sql DBTermCodec Table

structure ItemCategory where
  id : Nat
  globalItemId : Nat
  name : CString
  deriving DecidableEq, Repr

def ItemCategory.value (category : ItemCategory) : String → Value
  | "id" => .int category.id
  | "global_item_id" => .int category.globalItemId
  | "name" => .str category.name.text
  | _ => .null

/-- The unique index ItemsUniqId (DBTablesMonitoring.cc:553-560). -/
def ItemRow.key (item : ItemRow) : ServerIdType × ItemIdType := (item.serverId, item.id)

def itemsSchema : Schema ItemRow (ServerIdType × ItemIdType) where
  id := ItemRow.globalId
  withId n item := { item with globalId := n }
  key := ItemRow.key
  id_withId _ _ := rfl
  key_withId _ _ := rfl

abbrev ItemCategories := Counted ItemCategory.id

namespace ItemCategories

/-- The names of the categories with a global item ID. -/
def names (categories : ItemCategories) (globalItemId : Nat) : List CString :=
  (categories.rows.filter fun category => category.globalItemId == globalItemId).map ItemCategory.name

/-- (DBTablesMonitoring.cc:3879-3899) -/
def getItemCategoriesFromId (categories : ItemCategories) (globalItemId : Nat) :
    List ItemCategory :=
  categories.rows.filter fun category =>
    selects ("global_item_id" ++ "=" ++ encInt globalItemId) category.value

/-- `deleteItemCateoryWithoutTransaction` (DBTablesMonitoring.cc:3901-3909) -/
def deleteItemCategory (categories : ItemCategories) (id : Nat) : ItemCategories :=
  categories.keep fun category => !selects ("id" ++ "=" ++ encInt id) category.value

/-- (DBTablesMonitoring.cc:3868-3877) The ID is always one that is still to be given. -/
def addItemCategory (globalItemId : Nat) (categories : ItemCategories) (name : CString) :
    ItemCategories :=
  categories.append ⟨categories.next, globalItemId, name⟩ categories.byId_next

/-- The loop of `calcDelta` over the names: a name that is stored is taken out of the map, any other
    is to be added. -/
def calcDeltaLoop : List CString → Std.TreeMap CString ItemCategory →
    List CString × Std.TreeMap CString ItemCategory
  | [], categoriesMap => ([], categoriesMap)
  | name :: names, categoriesMap =>
      match categoriesMap[name]? with
      | none =>
          let (addCategories, left) := calcDeltaLoop names categoriesMap
          (name :: addCategories, left)
      | some _ => calcDeltaLoop names (categoriesMap.erase name)

/-- (DBTablesMonitoring.cc:3911-3938) The names to be added and the IDs of the categories to be
    deleted. Of several categories with one name the first is in the map. -/
def calcDelta (currCategories : List ItemCategory) (latestCategoryNames : List CString) :
    List CString × List Nat :=
  let categoriesMap := currCategories.foldl
    (fun categoriesMap category => categoriesMap.insertIfNew category.name category) ∅
  let (addCategories, left) := calcDeltaLoop latestCategoryNames categoriesMap
  (addCategories, (values left).map ItemCategory.id)

/-- The deletions and then the insertions at the end of `addItemInfoWithoutTransaction`. -/
def store (categories : ItemCategories) (globalItemId : Nat) (newItemCategories : List CString)
    (delCategoryIds : List Nat) : ItemCategories :=
  newItemCategories.foldl (addItemCategory globalItemId)
    (delCategoryIds.foldl deleteItemCategory categories)

theorem mem_of_mem_delete {categories : ItemCategories} {ids : List Nat} {category : ItemCategory}
    (h : category ∈ (ids.foldl deleteItemCategory categories).rows) : category ∈ categories.rows :=
      by
  induction ids generalizing categories with
  | nil => exact h
  | cons id ids ih => exact List.mem_of_mem_filter (ih h)

theorem mem_store {categories : ItemCategories} {globalItemId : Nat} {names : List CString}
    {ids : List Nat} {category : ItemCategory}
    (h : category ∈ (categories.store globalItemId names ids).rows) :
    category ∈ categories.rows ∨ category.globalItemId = globalItemId := by
  unfold store at h
  have hdeleted : category ∈ (ids.foldl deleteItemCategory categories).rows →
      category ∈ categories.rows := mem_of_mem_delete
  generalize ids.foldl deleteItemCategory categories = deleted at h hdeleted
  induction names generalizing deleted with
  | nil => exact .inl (hdeleted h)
  | cons name names ih =>
    by_cases hid : category.globalItemId = globalItemId
    · exact .inr hid
    · apply ih _ h
      intro hadded
      rcases List.mem_append.mp hadded with hadded | hadded
      · exact hdeleted hadded
      · rw [List.mem_singleton.mp hadded] at hid
        exact absurd rfl hid

end ItemCategories

/-- The tables of items. A category is one of an item that is there or was there before, so its
    number has been given already. -/
@[ext] structure ItemTables where
  items : AutoTable itemsSchema
  itemCategories : ItemCategories
  given : ∀ category ∈ itemCategories.rows, category.globalItemId < items.next

def ItemTables.empty : ItemTables where
  items := .empty _
  itemCategories := .empty _
  given := by simp [Counted.empty]

/-- The item with no joined rows. -/
def noJoin : ItemJoin := ⟨none, none, none⟩

/-- What a `LEFT JOIN` puts beside a row. -/
def leftJoin {α : Type} (rows : List α) : List (Option α) :=
  if rows.isEmpty then [none] else rows.map some

namespace ItemTables

/-! ## Reading -/

/-- What is joined to an item: its categories, its host and, if they are used, its host groups. -/
def joins (t : ItemTables) (hosts : HostTables) (isHostgroupUsed : Bool) (item : ItemRow) :
    List ItemJoin :=
  let hostStatus :=
    (hosts.serverHostDef.byKey (item.serverId, item.hostIdInServer)).map ServerHostDef.status
  let members := if isHostgroupUsed then
      (hosts.hostgroupMember.filter fun member => item.globalHostId == member.hostId).map some
    else [none]
  (leftJoin (t.itemCategories.names item.globalId)).flatMap fun categoryName =>
    members.map fun member => ⟨categoryName, hostStatus, member⟩

/-- `getGlobalItemIds` (DBTablesMonitoring.cc:2967-3003) -/
def getGlobalItemIds (t : ItemTables) (hosts : HostTables) (isHostgroupUsed : Bool)
    (condition : String) : List Nat :=
  if isAlwaysFalseCondition condition then []
  else (t.items.rows.filter fun item => (t.joins hosts isHostgroupUsed item).any fun joined =>
    selects condition (item.value joined)).map ItemRow.globalId

def setCategoryName (itemInfo : ItemInfo) (name : CString) : ItemInfo :=
  if name = emptyText then itemInfo
  else { itemInfo with categoryNames := itemInfo.categoryNames ++ [name] }

/-- The loop over the joined rows (DBTablesMonitoring.cc:3052-3087): the first row of an item makes
    it, the others add their categories. -/
def collectItems : List (ItemRow × Option CString) → List ItemInfo → List ItemInfo
  | [], itemInfoList => itemInfoList
  | (row, category) :: rest, itemInfoList =>
      let name := category.getD emptyText
      if itemInfoList.any fun itemInfo => itemInfo.globalId == row.globalId then
        collectItems rest (itemInfoList.map fun itemInfo =>
          if itemInfo.globalId = row.globalId then setCategoryName itemInfo name else itemInfo)
      else collectItems rest (itemInfoList ++ [setCategoryName ⟨row, []⟩ name])

/-- (DBTablesMonitoring.cc:2964-3088) With host groups the rows of the second query are distinct. -/
def getItemInfoList (t : ItemTables) (hosts : HostTables) (option : ItemsQueryOption) :
    Except HatoholException (List ItemInfo) := do
  let option := option.setTableNameAlways
  let condition ← option.getCondition
  let itemGlobalIds := t.getGlobalItemIds hosts option.base.isHostgroupUsed condition
  if itemGlobalIds = [] then pure []
  else
    let condition := Column.getFullColumnName ⟨tableProfileItems, ⟨0, by decide⟩⟩ ++ " IN (" ++
      commaSeparated (itemGlobalIds.map fun (globalId : Nat) => encInt globalId) ++ ")"
    let rows := (t.items.rows.filter fun item => selects condition (item.value noJoin)).flatMap
      fun item =>
        let names := t.itemCategories.names item.globalId
        (leftJoin (if option.base.isHostgroupUsed then names.eraseDups else names)).map (item, ·)
    pure (collectItems rows [])

/-! ## Storing -/

/-- (DBTablesMonitoring.cc:3973-3990) -/
def getGlobalItemId (t : ItemTables) (serverId : ServerIdType) (itemId : ItemIdType) :
    Except HatoholException (Fin t.items.next) :=
  let condition := itemsColumnName idxItemsServerId ++ "=" ++ encInt serverId ++ " AND " ++
    itemsColumnName idxItemsId ++ "=" ++ encString itemId
  match h : t.items.rows.filter fun item => selects condition (item.value noJoin) with
  | [item] => .ok ⟨item.globalId,
      t.items.id_lt item (List.mem_of_mem_filter (h ▸ List.mem_singleton_self item))⟩
  | rows => .error ⟨"ASSERTION failed: [grpList.size() == 1] : Unexpected size: " ++
      toString rows.length⟩

/-- `lastUpsertDidInsert` of the number of affected rows. -/
def lastUpsertDidInsert (affected : Nat) : Bool := affected == 1

/-- The row of the items table that is inserted or updated, still without its number. -/
def itemRow (itemInfo : ItemInfo) : ItemRow :=
  { itemInfo.toItemRow with globalId := autoIncrementValue }

/-- The tables with the categories of an item brought up to date. -/
def storeCategories (t : ItemTables) (globalItemId : Fin t.items.next)
    (newItemCategories : List CString) (delCategoryIds : List Nat) : ItemTables where
  items := t.items
  itemCategories := t.itemCategories.store globalItemId newItemCategories delCategoryIds
  given := by
    intro category hcategory
    rcases ItemCategories.mem_store hcategory with hcategory | hcategory
    · exact t.given category hcategory
    · rw [hcategory]
      exact globalItemId.isLt

/-- `addItemInfoWithoutTransaction` (DBTablesMonitoring.cc:3940-4007) -/
def addItemInfo (t : ItemTables) (itemInfo : ItemInfo) : Except HatoholException ItemTables :=
  match hupsert : t.items.upsert (itemRow itemInfo) with
  | none => .error ⟨"Failed to query: INSERT INTO items"⟩
  | some (items, affected) =>
      let upserted : ItemTables :=
        { items := items
          itemCategories := t.itemCategories
          given := fun category hcategory =>
            Nat.lt_of_lt_of_le (t.given category hcategory) (AutoTable.next_le_of_upsert hupsert) }
      if hinsert : lastUpsertDidInsert affected then
        let lastInsertId : Fin upserted.items.next :=
          ⟨t.items.insertId (itemRow itemInfo),
            AutoTable.insertId_lt_of_upsert ((beq_iff_eq.mp hinsert) ▸ hupsert)⟩
        .ok (upserted.storeCategories lastInsertId itemInfo.categoryNames [])
      else do
        let globalItemId ← upserted.getGlobalItemId itemInfo.serverId itemInfo.id
        let (newItemCategories, delCategoryIds) := ItemCategories.calcDelta
          (upserted.itemCategories.getItemCategoriesFromId globalItemId) itemInfo.categoryNames
        pure (upserted.storeCategories globalItemId newItemCategories delCategoryIds)

/-- (DBTablesMonitoring.cc:2797-2808) -/
def addItemInfoList (t : ItemTables) (itemInfoList : List ItemInfo) :
    Except HatoholException ItemTables :=
  itemInfoList.foldlM addItemInfo t

/-! ## Deleting -/

/-- (DBTablesMonitoring.cc:2810-2838) -/
def makeConditionForDeleteItem (idList : List ItemIdType) (serverId : ServerIdType) : String :=
  itemsColumnName idxItemsId ++ " IN (" ++ commaSeparated (idList.map encString) ++ ")" ++
    " AND " ++
    itemsColumnName idxItemsServerId ++ "=" ++ encInt serverId

/-- `DELETE` from the table of items, with the number of rows that are deleted. Their categories
    stay. -/
def deleteRows (t : ItemTables) (condition : String) : ItemTables × Nat :=
  ({ items := t.items.keep fun item => !selects condition (item.value noJoin)
     itemCategories := t.itemCategories
     given := t.given },
    t.items.rows.countP fun item => selects condition (item.value noJoin))

/-- (DBTablesMonitoring.cc:2840-2874) -/
def deleteItemInfo (t : ItemTables) (idList : List ItemIdType) (serverId : ServerIdType) :
    HatoholErrorCode × ItemTables :=
  if idList = [] then (.invalidParameter, t)
  else
    let (t, numAffectedRows) := t.deleteRows (makeConditionForDeleteItem idList serverId)
    (if numAffectedRows ≠ idList.length then .deleteIncomplete else .ok, t)

/-! ## Synchronisation -/

/-- What `isItemChanged` compares (DBTablesMonitoring.cc:2876-2904). -/
def isItemChanged (item current : ItemInfo) : Bool :=
  current.brief != item.brief || current.lastValue != item.lastValue ||
  current.categoryNames != item.categoryNames ||
  (current.lastValueTime.sec != item.lastValueTime.sec ||
    current.lastValueTime.nsec != item.lastValueTime.nsec) ||
  current.valueType != item.valueType || current.unit != item.unit

/-- (DBTablesMonitoring.cc:2906-2915) The host of all items if they have the same. -/
def getTargetHostId (firstItem : ItemInfo) (itemInfoList : List ItemInfo) : LocalHostIdType :=
  if itemInfoList.any fun item => item.hostIdInServer != firstItem.hostIdInServer then allLocalHosts
  else firstItem.hostIdInServer

/-- The query of `syncItems`. -/
def syncOption (servers : ServerIdSet) (serverId : ServerIdType) (targetHostId : LocalHostIdType) :
    ItemsQueryOption :=
  let option := ItemsQueryOption.new (systemContext servers)
  { option with
    base := { option.base with targetServerId := serverId, targetHostId := targetHostId } }

/-- The deletion in `syncItems`, which is left out if there is nothing to delete. -/
def deleteInvalidItems (t : ItemTables) (invalidItemIdList : List ItemIdType)
    (serverId : ServerIdType) : HatoholErrorCode × ItemTables :=
  if invalidItemIdList.length > 0 then t.deleteItemInfo invalidItemIdList serverId else (.ok, t)

/-- (DBTablesMonitoring.cc:2917-2962) -/
def syncItems (t : ItemTables) (hosts : HostTables) (servers : ServerIdSet)
    (itemInfoList : List ItemInfo) (serverId : ServerIdType) :
    Except HatoholException (HatoholErrorCode × ItemTables) :=
  match itemInfoList with
  | [] => .ok (.ok, t)
  | firstItem :: rest => do
      let targetHostId := getTargetHostId firstItem (firstItem :: rest)
      let currItems ← t.getItemInfoList hosts (syncOption servers serverId targetHostId)
      let (addItems, invalidItemMap) :=
        reconcile (fun item : ItemInfo => item.id) isItemChanged (firstItem :: rest)
          (mapOf (fun item : ItemInfo => item.id) currItems)
      let (err, t) :=
        t.deleteInvalidItems ((values invalidItemMap).map fun item => item.id) serverId
      let t ← if addItems.length > 0 then t.addItemInfoList addItems else pure t
      pure (err, t)

end ItemTables

end Hatohol

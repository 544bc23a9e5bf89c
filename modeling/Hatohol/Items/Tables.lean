import Hatohol.Items.Categories
import Hatohol.HostResource.System

/-!
# What the tables of items hold

An item is stored as its row and the names of its categories. Insertion, update and deletion are
described by what they do to each stored item, and a query of the server itself by the stored items
it reads.
-/

namespace Hatohol

open Sql DBTermCodec Table

namespace ItemTables

/-- The item with an ID of a server: its row and the names of its categories. -/
def stored (t : ItemTables) (k : ServerIdType × ItemIdType) : Option (ItemRow × List CString) :=
  (t.items.byKey k).map fun row => (row, t.itemCategories.names row.globalId)

variable (t : ItemTables)

theorem stored_eq_some {k : ServerIdType × ItemIdType} {row : ItemRow} {names : List CString} :
    t.stored k = some (row, names) ↔
      t.items.byKey k = some row ∧ t.itemCategories.names row.globalId = names := by
  simp only [stored, Option.map_eq_some_iff, Prod.mk.injEq]
  constructor
  · rintro ⟨row', hrow, rfl, hnames⟩
    exact ⟨hrow, hnames⟩
  · rintro ⟨hrow, hnames⟩
    exact ⟨row, hrow, rfl, hnames⟩

/-- No category has a number that is still to be given. -/
theorem names_next : t.itemCategories.names t.items.next = [] := by
  rw [ItemCategories.names, List.filter_eq_nil_iff.mpr, List.map_nil]
  intro category hcategory
  have := t.given category hcategory
  rw [beq_iff_eq]
  omega

/-! ## Storing -/

theorem selects_itemKey (item : ItemRow) (serverId : ServerIdType) (itemId : ItemIdType) :
    selects (itemsColumnName idxItemsServerId ++ "=" ++ encInt serverId ++ " AND " ++
      itemsColumnName idxItemsId ++ "=" ++ encString itemId) (item.value noJoin) =
        decide (item.key = (serverId, itemId)) := by
  have hserver : isName (itemsColumnName idxItemsServerId) := by decide
  have hid : isName (itemsColumnName idxItemsId) := by decide
  have hvalue : item.value noJoin (itemsColumnName idxItemsServerId) = .int item.serverId := rfl
  have hvalue' : item.value noJoin (itemsColumnName idxItemsId) = .str item.id.text := rfl
  rw [selects_eq_pair hserver hid, hvalue, hvalue', Bool.eq_iff_iff]
  simp [ItemRow.key, ← CString.ext_iff]

/-- The number of an item that is stored is found. -/
theorem getGlobalItemId_eq {row : ItemRow} {serverId : ServerIdType} {itemId : ItemIdType}
    (hrow : t.items.byKey (serverId, itemId) = some row) :
    ∃ globalItemId : Fin t.items.next, globalItemId.val = row.globalId ∧
      t.getGlobalItemId serverId itemId = .ok globalItemId := by
  have hone : (t.items.rows.filter fun item => selects (itemsColumnName idxItemsServerId ++ "=" ++
      encInt serverId ++ " AND " ++ itemsColumnName idxItemsId ++ "=" ++ encString itemId)
        (item.value noJoin)) = [row] := by
    simp only [selects_itemKey]
    exact filter_key_eq_singleton t.items.unique_key hrow
  refine ⟨⟨row.globalId, t.items.id_lt row (AutoTable.mem_of_byKey hrow)⟩, rfl, ?_⟩
  unfold getGlobalItemId
  dsimp only
  split
  · rename_i item hitem
    obtain rfl : row = item := List.singleton_injective (hone.symm.trans hitem)
    rfl
  · rename_i hne
    exact absurd hone (hne row)

section AddItemInfo

variable {t} {itemInfo : ItemInfo} {items : AutoTable itemsSchema} {affected : Nat}
  (hupsert : t.items.upsert (itemRow itemInfo) = some (items, affected))

include hupsert

theorem addItemInfo_of_insert (hinsert : affected = 1) :
    ∃ t', t.addItemInfo itemInfo = .ok t' ∧ t'.items = items ∧
      t'.itemCategories = t.itemCategories.store t.items.next itemInfo.categoryNames [] := by
  unfold addItemInfo
  split
  · rename_i hnone
    rw [hupsert] at hnone
    simp at hnone
  · rename_i items' affected' hupsert'
    obtain ⟨rfl, rfl⟩ := Prod.mk.inj (Option.some.inj (hupsert'.symm.trans hupsert))
    simp only [lastUpsertDidInsert, hinsert, beq_self_eq_true, dite_true]
    exact ⟨_, rfl, rfl, rfl⟩

theorem addItemInfo_of_update (hupdate : affected ≠ 1) {row : ItemRow}
    (hrow : items.byKey itemInfo.key = some row) :
    ∃ t', t.addItemInfo itemInfo = .ok t' ∧ t'.items = items ∧
      t'.itemCategories = t.itemCategories.store row.globalId
        (ItemCategories.calcDelta (t.itemCategories.getItemCategoriesFromId row.globalId)
          itemInfo.categoryNames).1
        (ItemCategories.calcDelta (t.itemCategories.getItemCategoriesFromId row.globalId)
          itemInfo.categoryNames).2 := by
  unfold addItemInfo
  split
  · rename_i hnone
    rw [hupsert] at hnone
    simp at hnone
  · rename_i items' affected' hupsert'
    obtain ⟨rfl, rfl⟩ := Prod.mk.inj (Option.some.inj (hupsert'.symm.trans hupsert))
    have hnot : lastUpsertDidInsert affected' = false := beq_false_of_ne hupdate
    simp only [hnot, Bool.false_eq_true, dite_false]
    have hgiven : ∀ category ∈ t.itemCategories.rows, category.globalItemId < items'.next :=
      fun category hcategory =>
        Nat.lt_of_lt_of_le (t.given category hcategory) (AutoTable.next_le_of_upsert hupsert)
    obtain ⟨globalItemId, hid, hget⟩ :=
      getGlobalItemId_eq ⟨items', t.itemCategories, hgiven⟩ hrow
    rw [hget, ← hid]
    exact ⟨_, rfl, rfl, rfl⟩

end AddItemInfo

/-- What `addItemInfo` does: the item is stored under the number it has, or the next one, its
    categories are brought up to date, and every other item stays. -/
theorem addItemInfo_spec (itemInfo : ItemInfo) :
    ∃ t', t.addItemInfo itemInfo = .ok t' ∧
      (∀ k, k ≠ itemInfo.key → t'.stored k = t.stored k) ∧
      (∃ names, t'.stored itemInfo.key = some
          ({ itemInfo.toItemRow with
            globalId := ((t.stored itemInfo.key).map (·.1.globalId)).getD t.items.next }, names) ∧
        ∀ name, names.count name = deltaCount
          (((t.stored itemInfo.key).map (·.2)).getD []) itemInfo.categoryNames name) ∧
      ∀ category ∈ t'.itemCategories.rows, category ∈ t.itemCategories.rows ∨
        category.globalItemId = ((t.stored itemInfo.key).map (·.1.globalId)).getD t.items.next := by
  obtain ⟨items, hupsert, -, hbyKey⟩ := t.items.upsert_spec (itemRow itemInfo) (.inl rfl)
  have hkey : itemsSchema.key (itemRow itemInfo) = itemInfo.key := rfl
  rw [hkey] at hupsert hbyKey
  -- the row that is stored now, and the number it is stored under
  generalize hid : t.items.upsertId (itemRow itemInfo) = n at hbyKey
  have hrow : items.byKey itemInfo.key = some { itemInfo.toItemRow with globalId := n } :=
    (hbyKey itemInfo.key).trans (if_pos rfl)
  have hother {k : ServerIdType × ItemIdType} (hk : k ≠ itemInfo.key) {row : ItemRow}
      (hrow' : t.items.byKey k = some row) : row.globalId ≠ n := by
    have hrow'' : items.byKey k = some row := ((hbyKey k).trans (if_neg hk)).trans hrow'
    intro hn
    have heq := items.eq_of_id (AutoTable.mem_of_byKey hrow'') (AutoTable.mem_of_byKey hrow) hn
    rw [heq] at hrow''
    exact hk (AutoTable.key_of_byKey hrow'').symm
  have hframe {categories : ItemCategories} {t' : ItemTables} (hitems : t'.items = items)
      (hcategories : t'.itemCategories = categories)
      (hnames : ∀ m, m ≠ n → categories.names m = t.itemCategories.names m)
      (k : ServerIdType × ItemIdType) (hk : k ≠ itemInfo.key) : t'.stored k = t.stored k := by
    unfold stored
    rw [hitems, hcategories, hbyKey, if_neg hk]
    apply Option.map_congr
    intro row hrow'
    rw [hnames row.globalId (hother hk hrow')]
  cases hold : t.items.byKey itemInfo.key with
  | none =>
    obtain rfl : t.items.next = n := by rw [← hid, AutoTable.upsertId, hkey, hold]; rfl
    rw [hold] at hupsert
    obtain ⟨t', hok, hitems, hcategories⟩ := addItemInfo_of_insert hupsert rfl
    refine ⟨t', hok, hframe hitems hcategories ?_, ⟨itemInfo.categoryNames, ?_, ?_⟩, ?_⟩
    · intro m hm
      rw [ItemCategories.names_store_nil, if_neg hm, List.append_nil]
    · rw [stored_eq_some, hitems, hcategories, hrow]
      refine ⟨by simp [stored, hold], ?_⟩
      rw [ItemCategories.names_store_nil]
      simp [stored, hold, names_next]
    · intro name
      simp [stored, hold, deltaCount]
    · rw [hcategories]
      simpa [stored, hold] using fun category => ItemCategories.mem_store
  | some old =>
    obtain rfl : old.globalId = n := by rw [← hid, AutoTable.upsertId, hkey, hold]; rfl
    rw [hold] at hupsert
    obtain ⟨t', hok, hitems, hcategories⟩ :=
      addItemInfo_of_update hupsert (AutoTable.affectedRows_ne_one _ _) hrow
    refine ⟨t', hok, hframe hitems hcategories ?_,
      ⟨t'.itemCategories.names old.globalId, ?_, ?_⟩, ?_⟩
    · intro m hm
      exact ItemCategories.names_store_of_ne _ hm _
    · rw [stored_eq_some, hitems, hrow]
      simp [stored, hold]
    · intro name
      rw [hcategories]
      simpa [stored, hold] using ItemCategories.count_names_store _ _ _ name
    · rw [hcategories]
      simpa [stored, hold] using fun category => ItemCategories.mem_store

/-! ## Deleting -/

theorem selects_makeConditionForDeleteItem (idList : List ItemIdType) (serverId : ServerIdType)
    (item : ItemRow) :
    selects (makeConditionForDeleteItem idList serverId) (item.value noJoin) =
      (idList.contains item.id && item.serverId == serverId) := by
  have hid : isName (itemsColumnName idxItemsId) := by decide
  have hserver : isName (itemsColumnName idxItemsServerId) := by decide
  have hpair := selects_in_pair hid hserver (item.value noJoin) opens_in
    (separates rfl) idList serverId
  have hvalue : item.value noJoin (itemsColumnName idxItemsId) = .str item.id.text := rfl
  have hvalue' : item.value noJoin (itemsColumnName idxItemsServerId) = .int item.serverId := rfl
  refine hpair.trans ?_
  rw [hvalue, hvalue', Bool.eq_iff_iff]
  simp [← CString.ext_iff]

theorem deleteInvalidItems_items (idList : List ItemIdType) (serverId : ServerIdType) :
    (t.deleteInvalidItems idList serverId).2.items = t.items.keep fun item =>
      !(idList.contains item.id && item.serverId == serverId) := by
  cases idList with
  | nil => simp [deleteInvalidItems, AutoTable.keep, Counted.keep]
  | cons id ids =>
    simp only [deleteInvalidItems, List.length_cons, gt_iff_lt, Nat.zero_lt_succ, if_true,
      deleteItemInfo, deleteRows, reduceCtorEq, if_false, selects_makeConditionForDeleteItem]

theorem deleteInvalidItems_itemCategories (idList : List ItemIdType) (serverId : ServerIdType) :
    (t.deleteInvalidItems idList serverId).2.itemCategories = t.itemCategories := by
  unfold deleteInvalidItems
  split
  · unfold deleteItemInfo
    split
    · rfl
    · rfl
  · rfl

/-- The items that are left when those of some IDs of the server are deleted. -/
theorem stored_deleteInvalidItems (idList : List ItemIdType) (serverId : ServerIdType)
    (k : ServerIdType × ItemIdType) :
    (t.deleteInvalidItems idList serverId).2.stored k =
      if k.1 = serverId ∧ k.2 ∈ idList then none else t.stored k := by
  unfold stored
  rw [deleteInvalidItems_items, deleteInvalidItems_itemCategories, AutoTable.byKey_keep]
  cases hk : t.items.byKey k with
  | none => simp
  | some row =>
    obtain rfl : row.key = k := AutoTable.key_of_byKey hk
    by_cases hdel : row.key.1 = serverId ∧ row.key.2 ∈ idList
    · rw [if_pos hdel]
      simp only [ItemRow.key] at hdel
      simp [Option.filter, hdel]
    · rw [if_neg hdel]
      simp only [ItemRow.key, not_and] at hdel
      simp only [Option.filter_some, Bool.not_and]
      by_cases hserver : row.serverId = serverId
      · simp [hdel hserver]
      · simp [hserver]

/-! ## Reading -/

/-- What is read of a stored item. -/
def info (row : ItemRow) : ItemInfo where
  toItemRow := row
  categoryNames := (t.itemCategories.names row.globalId).filter (· ≠ emptyText)

theorem foldl_setCategoryName (itemInfo : ItemInfo) (names : List CString) :
    names.foldl setCategoryName itemInfo = { itemInfo with
      categoryNames := itemInfo.categoryNames ++ names.filter (· ≠ emptyText) } := by
  induction names generalizing itemInfo with
  | nil => simp
  | cons name names ih =>
    rw [List.foldl_cons, ih]
    by_cases hname : name = emptyText
    · simp [setCategoryName, hname]
    · simp [setCategoryName, hname]

section Collect

variable {read : List ItemInfo} {row : ItemRow} (hread : ∀ item ∈ read,
  item.globalId ≠ row.globalId)
  (rest : List (ItemRow × Option CString))

include hread

/-- The rows that are joined to an item that has been read already. -/
theorem collectItems_names {itemInfo : ItemInfo} (hitem : itemInfo.globalId = row.globalId)
    (names : List CString) :
    collectItems (names.map (fun name => (row, some name)) ++ rest) (read ++ [itemInfo]) =
      collectItems rest (read ++ [names.foldl setCategoryName itemInfo]) := by
  induction names generalizing itemInfo with
  | nil => rfl
  | cons name names ih =>
    have hmap : (read ++ [itemInfo]).map (fun other => if other.globalId = row.globalId then
        setCategoryName other name else other) = read ++ [setCategoryName itemInfo name] := by
      rw [List.map_append, List.map_singleton, if_pos hitem]
      congr 1
      refine (List.map_congr_left ?_).trans (List.map_id read)
      intro other hother
      exact if_neg (hread other hother)
    have hset : (setCategoryName itemInfo name).globalId = row.globalId := by
      unfold setCategoryName
      split
      · exact hitem
      · exact hitem
    rw [List.map_cons, List.cons_append, collectItems, if_pos (by simp [hitem]), Option.getD_some,
      hmap,
      ih hset, List.foldl_cons]

/-- All rows that are joined to an item. -/
theorem collectItems_item (names : List CString) :
    collectItems ((leftJoin names).map (row, ·) ++ rest) read =
      collectItems rest (read ++ [names.foldl setCategoryName ⟨row, []⟩]) := by
  have hnew : (read.any fun item => item.globalId == row.globalId) = false := by
    rw [List.any_eq_false]
    intro item hitem
    simpa using hread item hitem
  have hskip (name : Option CString) (left : List (ItemRow × Option CString)) :
      collectItems ((row, name) :: left) read =
        collectItems left (read ++ [setCategoryName ⟨row, []⟩ (name.getD emptyText)]) := by
    rw [collectItems, if_neg (by simp [hnew])]
  cases names with
  | nil => exact hskip none rest
  | cons name names =>
    have hset : (setCategoryName ⟨row, []⟩ name).globalId = row.globalId := by
      unfold setCategoryName
      split
      · rfl
      · rfl
    have hjoin : (leftJoin (name :: names)).map (row, ·) ++ rest =
        (row, some name) :: (names.map (fun name => (row, some name)) ++ rest) := by
      simp [leftJoin]
    rw [hjoin, hskip, Option.getD_some, collectItems_names hread rest hset, List.foldl_cons]

end Collect

/-- The loop over the joined rows reads each item once, with all its categories. -/
theorem collectItems_flatMap {rows : List ItemRow} (hrows : (rows.map ItemRow.globalId).Nodup)
    {read : List ItemInfo}
    (hread : ∀ row ∈ rows, ∀ item ∈ read, item.globalId ≠ row.globalId) :
    collectItems (rows.flatMap fun row =>
        (leftJoin (t.itemCategories.names row.globalId)).map (row, ·)) read =
      read ++ rows.map t.info := by
  induction rows generalizing read with
  | nil => simp [collectItems]
  | cons row rows ih =>
    simp only [List.map_cons, List.nodup_cons, List.mem_map, not_exists, not_and] at hrows
    have hinfo : (t.itemCategories.names row.globalId).foldl setCategoryName ⟨row, []⟩ =
      t.info row := by
      rw [foldl_setCategoryName]
      rfl
    rw [List.flatMap_cons, collectItems_item (hread row (by simp)), hinfo, ih hrows.2]
    · simp
    · intro row' hrow' item hitem
      rcases List.mem_append.mp hitem with hitem | hitem
      · exact hread row' (by simp [hrow']) item hitem
      · rw [List.mem_singleton.mp hitem]
        exact fun h => hrows.1 row' hrow' h.symm

end ItemTables

namespace ItemsQueryOption

/-! ### The query of the server itself -/

/-- A query of the server itself for the items of one server and, unless it is for all, one host. -/
def system (servers : ServerIdSet) (serverId : ServerIdType) (hostId : LocalHostIdType) :
    ItemsQueryOption where
  base := { HostResourceQueryOption.new synapseItemsQueryOption (systemContext servers) with
    tableNameAlways := true, targetServerId := serverId, targetHostId := hostId }
  isItems := rfl
  targetId := allItems
  itemCategoryName := emptyText
  excludeFlags := noExcludeHost

/-- The item is one that such a query shows. -/
def sees (servers : ServerIdSet) (serverId : ServerIdType) (hostId : LocalHostIdType)
    (row : ItemRow) : Bool :=
  servers.contains row.serverId && row.serverId == serverId &&
    (hostId == allLocalHosts || row.hostIdInServer == hostId)

section System

variable (servers : ServerIdSet) {serverId : ServerIdType} (hostId : LocalHostIdType)

theorem isSystemQuery_system (serverId : ServerIdType) :
    (system servers serverId hostId).base.IsSystemQuery :=
  HostResourceQueryOption.isSystemQuery_new (.inl rfl) servers true serverId

theorem hasRow_value {o : ItemsQueryOption} (ho : o.base.IsSystemQuery) (row : ItemRow)
    (joined : ItemJoin) :
    o.base.HasRow (row.value joined) ⟨row.serverId, row.hostIdInServer, emptyText⟩ := by
  apply HostResourceQueryOption.hasRow_of_names o.isItems
  · intro full
    cases full <;> rfl
  · intro hnames
    simp [ho.namesHostgroup] at hnames
  · rintro idx hidx full
    obtain rfl : ⟨4, by decide⟩ = idx := Option.some.inj hidx
    cases full <;> rfl

/-- The items that the text of the query selects, whatever is joined to them. -/
theorem getCondition_system (hserver : serverId ≠ allServers) :
    ∃ s, (system servers serverId hostId).getCondition = .ok s ∧
      ∀ row joined, selects s (ItemRow.value row joined) = sees servers serverId hostId row := by
  have ho := isSystemQuery_system servers hostId serverId
  obtain ⟨s, hs, hdenotes⟩ := ho.getCondition
  have hne : (serverId == allServers) = false := by simpa using hserver
  refine ⟨s, ?_, fun row joined => ?_⟩
  · unfold getCondition
    rw [hs]
    have hown : (system servers serverId hostId).addOwnConditions s = s := by
      simp [addOwnConditions, system, shouldExcludeInvalidHost, noExcludeHost]
    simp only [bind, Except.bind, pure, Except.pure, hown, ite_self]
  · rw [ho.selects_form (hasRow_value ho row joined) hdenotes]
    simp [system, sees, HostResourceQueryOption.isValid, HostResourceQueryOption.new,
      HostResourceQueryOption.isTargeted, HostResourceQueryOption.getValidServerIdSet,
        systemContext,
      hne, Bool.and_assoc]

end System

end ItemsQueryOption

namespace ItemTables

open ItemsQueryOption

variable (t : ItemTables)

theorem joins_ne_nil (hosts : HostTables) (row : ItemRow) : t.joins hosts false row ≠ [] := by
  simp only [joins, leftJoin, Bool.false_eq_true, if_false, List.map_cons, List.map_nil]
  split
  · simp
  · rename_i hnames
    simpa [List.isEmpty_iff, List.eq_nil_iff_forall_not_mem] using hnames

/-- The second query reads the items whose numbers the first has found. -/
theorem selects_globalIds (row : ItemRow) (ids : List Nat) :
    selects (Column.getFullColumnName ⟨tableProfileItems, ⟨0, by decide⟩⟩ ++ " IN (" ++
      commaSeparated (ids.map fun (globalId : Nat) => encInt globalId) ++ ")") (row.value noJoin) =
        ids.contains row.globalId := by
  have hvalue : row.value noJoin (Column.getFullColumnName ⟨tableProfileItems, ⟨0, by decide⟩⟩) =
      .int row.globalId := rfl
  have hname : isName (Column.getFullColumnName ⟨tableProfileItems, ⟨0, by decide⟩⟩) := by decide
  rw [selects_in_nat hname (row.value noJoin) opens_in (separates rfl), hvalue, Bool.eq_iff_iff]
  simp

/-- An option that becomes a query of the server itself reads what that sees. -/
theorem getItemInfoList_eq (hosts : HostTables) {option : ItemsQueryOption} {servers : ServerIdSet}
    {serverId : ServerIdType} {hostId : LocalHostIdType} (hserver : serverId ≠ allServers)
    (hoption : option.setTableNameAlways = system servers serverId hostId) :
    t.getItemInfoList hosts option =
      .ok ((t.items.rows.filter (sees servers serverId hostId)).map t.info) := by
  obtain ⟨s, hs, hselects⟩ := getCondition_system servers hostId hserver
  have hused := (isSystemQuery_system servers hostId serverId).isHostgroupUsed
  have hids : t.getGlobalItemIds hosts false s =
      (t.items.rows.filter (sees servers serverId hostId)).map ItemRow.globalId := by
    unfold getGlobalItemIds
    split
    · rename_i hfalse
      have hempty : t.items.rows.filter (sees servers serverId hostId) = [] := by
        rw [List.filter_eq_nil_iff]
        intro row _
        rw [← hselects row noJoin,
          show s = "0" by simpa [isAlwaysFalseCondition, alwaysFalseCondition] using hfalse]
        exact Bool.false_ne_true
      rw [hempty]
      rfl
    · congr 1
      apply List.filter_congr
      intro row _
      simp only [hselects]
      rw [Bool.eq_iff_iff, List.any_eq_true]
      constructor
      · rintro ⟨_, -, h⟩
        exact h
      · intro h
        obtain ⟨joined, hjoined⟩ := List.exists_mem_of_ne_nil _ (t.joins_ne_nil hosts row)
        exact ⟨joined, hjoined, h⟩
  have hrows : (t.items.rows.filter fun row => ((t.items.rows.filter
      (sees servers serverId hostId)).map ItemRow.globalId).contains row.globalId) =
        t.items.rows.filter (sees servers serverId hostId) := by
    apply List.filter_congr
    intro row hrow
    rw [Bool.eq_iff_iff, List.contains_iff_mem, List.mem_map]
    constructor
    · rintro ⟨row', hrow', hid⟩
      rw [List.mem_filter] at hrow'
      obtain rfl := t.items.eq_of_id hrow'.1 hrow hid
      exact hrow'.2
    · intro hsees
      exact ⟨row, List.mem_filter.mpr ⟨hrow, hsees⟩, rfl⟩
  unfold getItemInfoList
  simp only [hoption, hs, hused, bind, Except.bind, pure, Except.pure, Bool.false_eq_true, if_false,
    hids, selects_globalIds, hrows]
  split
  · rename_i hnil
    rw [List.map_eq_nil_iff] at hnil
    rw [hnil]
    rfl
  · rw [t.collectItems_flatMap]
    · rfl
    · exact t.items.unique_id.sublist (List.filter_sublist.map _)
    · simp

end ItemTables

end Hatohol

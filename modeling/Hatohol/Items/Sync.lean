import Hatohol.Items.Tables

/-!
# Synchronisation of items

What `syncItems` leaves in the tables of items. The incoming items are compared with those that a
query of the server itself shows: the items of the synchronised server if it is set up, and only
those of one host if all incoming items are of that host.
-/

namespace Hatohol

open Sql DBTermCodec Table ItemsQueryOption

namespace ItemTables

/-! ## Storing a list -/

/-- After a list is stored, an item is one of the list or as it was before. -/
theorem addItemInfoList_frame (t : ItemTables) (items : List ItemInfo) :
    ∃ t', t.addItemInfoList items = .ok t' ∧
      (∀ k, k ∉ items.map (·.key) → t'.stored k = t.stored k) ∧
      ∀ k ∈ items.map (·.key), ∃ item ∈ items, ∃ n names,
        t'.stored k = some ({ item.toItemRow with globalId := n }, names) := by
  induction items generalizing t with
  | nil => exact ⟨t, rfl, fun _ _ => rfl, by simp⟩
  | cons item items ih =>
    obtain ⟨t₁, hok, hframe, ⟨names, hstored, -⟩, -⟩ := t.addItemInfo_spec item
    obtain ⟨t', hok', hframe', hlist⟩ := ih t₁
    refine ⟨t', ?_, ?_, ?_⟩
    · rw [addItemInfoList, List.foldlM_cons, hok]
      exact hok'
    · intro k hk
      simp only [List.map_cons, List.mem_cons, not_or] at hk
      rw [hframe' k hk.2, hframe k hk.1]
    · intro k hk
      by_cases hrest : k ∈ items.map (·.key)
      · obtain ⟨item', hitem', hstored'⟩ := hlist k hrest
        exact ⟨item', by simp [hitem'], hstored'⟩
      · obtain rfl : k = item.key := by
          rcases List.mem_cons.mp hk with hk | hk
          · exact hk
          · exact absurd hk hrest
        exact ⟨item, by simp, _, names, by rw [hframe' _ hrest, hstored]⟩

/-- Each item of a list with different keys is stored with its categories brought up to date. -/
theorem addItemInfoList_stored (t : ItemTables) {items : List ItemInfo}
    (hdistinct : (items.map (·.key)).Nodup) :
    ∃ t', t.addItemInfoList items = .ok t' ∧
      (∀ k, k ∉ items.map (·.key) → t'.stored k = t.stored k) ∧
      ∀ item ∈ items, ∃ n names,
        t'.stored item.key = some ({ item.toItemRow with globalId := n }, names) ∧
        ∀ name, names.count name = deltaCount
          (((t.stored item.key).map (·.2)).getD []) item.categoryNames name := by
  induction items generalizing t with
  | nil => exact ⟨t, rfl, fun _ _ => rfl, by simp⟩
  | cons item items ih =>
    rw [List.map_cons, List.nodup_cons] at hdistinct
    obtain ⟨t₁, hok, hframe, ⟨names, hstored, hcount⟩, -⟩ := t.addItemInfo_spec item
    obtain ⟨t', hok', hframe', hlist⟩ := ih t₁ hdistinct.2
    refine ⟨t', ?_, ?_, ?_⟩
    · rw [addItemInfoList, List.foldlM_cons, hok]
      exact hok'
    · intro k hk
      simp only [List.map_cons, List.mem_cons, not_or] at hk
      rw [hframe' k hk.2, hframe k hk.1]
    · intro item' hitem'
      rcases List.mem_cons.mp hitem' with rfl | hitem'
      · exact ⟨_, names, by rw [hframe' _ hdistinct.1, hstored], hcount⟩
      · have hne : item'.key ≠ item.key := by
          intro hkey
          exact hdistinct.1 (List.mem_map.mpr ⟨item', hitem', hkey⟩)
        have hlist' := hlist item' hitem'
        rwa [hframe _ hne] at hlist'

/-! ## syncItems -/

/-- The host of the query that the stored items are read with. -/
def targetHostOf : List ItemInfo → LocalHostIdType
  | [] => allLocalHosts
  | firstItem :: rest => getTargetHostId firstItem (firstItem :: rest)

section Sync

variable (t : ItemTables) (servers : ServerIdSet) (serverId : ServerIdType)
  (incoming : List ItemInfo)

/-- The items that are compared with, by their IDs. -/
def current : Std.TreeMap ItemIdType ItemInfo :=
  mapOf (fun item : ItemInfo => item.id)
    ((t.items.rows.filter (sees servers serverId (targetHostOf incoming))).map t.info)

/-- The items to be added, and those to be deleted. -/
def syncPlan : List ItemInfo × Std.TreeMap ItemIdType ItemInfo :=
  reconcile (fun item : ItemInfo => item.id) isItemChanged incoming
    (t.current servers serverId incoming)

def idsToDelete : List ItemIdType :=
  (values (t.syncPlan servers serverId incoming).2).map fun item => item.id

/-- The tables after the deletion of `syncItems`. -/
def afterDelete : ItemTables :=
  (t.deleteInvalidItems (t.idsToDelete servers serverId incoming) serverId).2

theorem syncItems_eq (hosts : HostTables) (hserver : serverId ≠ allServers) (hne : incoming ≠ []) :
    t.syncItems hosts servers incoming serverId =
      ((t.afterDelete servers serverId incoming).addItemInfoList
        (t.syncPlan servers serverId incoming).1).map fun t' =>
          ((t.deleteInvalidItems (t.idsToDelete servers serverId incoming) serverId).1, t') := by
  cases incoming with
  | nil => exact absurd rfl hne
  | cons firstItem rest =>
    have hoption : (syncOption servers serverId
        (getTargetHostId firstItem (firstItem :: rest))).setTableNameAlways =
          system servers serverId (targetHostOf (firstItem :: rest)) := rfl
    have hplan : reconcile (fun item : ItemInfo => item.id) isItemChanged (firstItem :: rest)
        (mapOf (fun item : ItemInfo => item.id) ((t.items.rows.filter
          (sees servers serverId (targetHostOf (firstItem :: rest)))).map t.info)) =
            t.syncPlan servers serverId (firstItem :: rest) := rfl
    unfold syncItems
    simp only [t.getItemInfoList_eq hosts hserver hoption, bind, Except.bind, pure, Except.pure,
      hplan]
    split
    · rfl
    · rename_i hnil
      rw [List.length_eq_zero_iff.mp (Nat.eq_zero_of_not_pos hnil)]
      rfl

variable {t servers serverId incoming}

theorem getElem?_current (id : ItemIdType) :
    (t.current servers serverId incoming)[id]? =
      ((t.items.byKey (serverId, id)).filter
        (sees servers serverId (targetHostOf incoming))).map t.info := by
  have hserver : ∀ row ∈ t.items.rows, sees servers serverId (targetHostOf incoming) row →
      row.serverId = serverId := by
    intro row _ hsees
    simp only [sees, Bool.and_eq_true, beq_iff_eq] at hsees
    exact hsees.1.2
  have hmap (rows : List ItemRow) : lookup (fun item : ItemInfo => item.id) (rows.map t.info) id =
      (lookup ItemRow.id rows id).map t.info := by
    apply lookup_map
    intro row _
    rfl
  rw [current, getElem?_mapOf]
  · rw [hmap]
    congr 1
    exact lookup_part t.items.unique_key hserver id
  · rw [List.map_map]
    exact nodup_part t.items.unique_key hserver

theorem mem_idsToDelete {id : ItemIdType} : id ∈ t.idsToDelete servers serverId incoming ↔
    (t.syncPlan servers serverId incoming).2[id]?.isSome := by
  have hid {id' : ItemIdType} {old : ItemInfo}
      (hold : (t.syncPlan servers serverId incoming).2[id']? = some old) : old.id = id' := by
    have hcurrent := getElem?_of_left hold
    rw [getElem?_current, Option.map_eq_some_iff] at hcurrent
    obtain ⟨row, hrow, rfl⟩ := hcurrent
    rw [Option.filter_eq_some_iff] at hrow
    exact congrArg Prod.snd (AutoTable.key_of_byKey hrow.1)
  rw [idsToDelete, List.mem_map, Option.isSome_iff_exists]
  constructor
  · rintro ⟨old, hold, rfl⟩
    obtain ⟨id', hold⟩ := mem_values.mp hold
    rw [hid hold]
    exact ⟨old, hold⟩
  · rintro ⟨old, hold⟩
    exact ⟨old, mem_values.mpr ⟨id, hold⟩, hid hold⟩

theorem stored_afterDelete (id : ItemIdType) :
    (t.afterDelete servers serverId incoming).stored (serverId, id) =
      if (t.syncPlan servers serverId incoming).2[id]?.isSome then none
      else t.stored (serverId, id) := by
  rw [afterDelete, stored_deleteInvalidItems]
  simp only [true_and, mem_idsToDelete]

section Distinct

variable (hincoming : ∀ item ∈ incoming, item.serverId = serverId)
  (hdistinct : (incoming.map fun item => item.id).Nodup)

include hdistinct

theorem nodup_added : ((t.syncPlan servers serverId incoming).1.map (·.key)).Nodup := by
  have hkeys : (incoming.map (·.key)).Nodup := by
    apply List.Nodup.of_map Prod.snd
    rw [List.map_map]
    exact hdistinct
  rw [syncPlan, reconcile_added hdistinct]
  exact hkeys.sublist (List.filter_sublist.map _)

include hincoming

/-- What comes of an item that is compared with a stored one and found unchanged. -/
theorem stored_of_unchanged {t' : ItemTables} {item : ItemInfo} (hitem : item ∈ incoming)
    (hframe : ∀ k, k ∉ (t.syncPlan servers serverId incoming).1.map (·.key) →
      t'.stored k = (t.afterDelete servers serverId incoming).stored k)
    {old : ItemInfo} (hold : (t.current servers serverId incoming)[item.id]? = some old)
    (hunchanged : isItemChanged item old = false) : t'.stored item.key = t.stored item.key := by
  have hkey : item.key = (serverId, item.id) := Prod.ext (hincoming item hitem) rfl
  have hleft : (t.syncPlan servers serverId incoming).2[item.id]? = none := by
    rw [syncPlan, reconcile_left hdistinct, hold,
      show lookup (fun item : ItemInfo => item.id) incoming item.id = some item from
        lookup_of_mem hdistinct hitem]
    simp [Option.filter, hunchanged]
  rw [hframe, hkey, stored_afterDelete, hleft]
  · rfl
  · rw [List.mem_map]
    rintro ⟨other, hother, hkey'⟩
    rw [syncPlan, reconcile_added hdistinct, List.mem_filter] at hother
    have hid : other.id = item.id := congrArg Prod.snd hkey'
    obtain rfl := List.inj_on_of_nodup_map hdistinct hother.1 hitem hid
    rw [hold] at hother
    simp [hunchanged] at hother

/-- The names that an item that is to be added is brought up to date from. -/
theorem stored_of_changed {item : ItemInfo} (hitem : item ∈ incoming)
    (hchanged : (t.current servers serverId incoming)[item.id]?.all (isItemChanged item)) :
    (t.afterDelete servers serverId incoming).stored item.key =
      if (t.current servers serverId incoming)[item.id]?.isSome then none
      else t.stored item.key := by
  have hkey : item.key = (serverId, item.id) := Prod.ext (hincoming item hitem) rfl
  rw [hkey, stored_afterDelete, syncPlan, reconcile_left hdistinct,
    show lookup (fun item : ItemInfo => item.id) incoming item.id = some item from
      lookup_of_mem hdistinct hitem]
  cases hold : (t.current servers serverId incoming)[item.id]? with
  | none => rfl
  | some old =>
    rw [hold, Option.all_some] at hchanged
    simp [Option.filter, hchanged]

end Distinct

end Sync

/-! ## What is stored -/

/-- The item is stored, each of its fields with the value it has. The order of the categories plays
    no part. -/
def Stores (t : ItemTables) (item : ItemInfo) : Prop :=
  ∃ n names, t.stored item.key = some ({ item.toItemRow with globalId := n }, names) ∧
    names.Perm item.categoryNames

/-- The condition for an incoming item to be stored. One that is compared with a stored item and
    found unchanged is not written, so that the fields that are not compared, and the empty names
    of categories, which are not read, must be the same already. One that is stored but not
    compared with is updated, and its categories must be different ones. -/
def Keeps (t : ItemTables) (servers : ServerIdSet) (serverId : ServerIdType)
    (hostId : LocalHostIdType) (item : ItemInfo) : Prop :=
  ∀ row names, t.stored item.key = some (row, names) →
    if sees servers serverId hostId row then
      isItemChanged item (t.info row) = false →
        row.globalHostId = item.globalHostId ∧ row.hostIdInServer = item.hostIdInServer ∧
        row.prevValue = item.prevValue ∧ emptyText ∉ names
    else names.Nodup

theorem isItemChanged_eq_false {item current : ItemInfo} : isItemChanged item current = false ↔
    current.brief = item.brief ∧ current.lastValue = item.lastValue ∧
      current.categoryNames = item.categoryNames ∧ current.lastValueTime = item.lastValueTime ∧
      current.valueType = item.valueType ∧ current.unit = item.unit := by
  simp only [isItemChanged, Bool.or_eq_false_iff, bne_eq_false_iff_eq, Timespec.ext_iff]
  tauto

/-- A stored item that was found unchanged is the incoming one exactly when the rest agrees. -/
theorem matches_iff_of_unchanged (t : ItemTables) {item : ItemInfo} {row : ItemRow}
    (hkey : row.key = item.key) (hunchanged : isItemChanged item (t.info row) = false) :
    ((∃ n, row = { item.toItemRow with globalId := n }) ∧
      (t.itemCategories.names row.globalId).Perm item.categoryNames) ↔
      row.globalHostId = item.globalHostId ∧ row.hostIdInServer = item.hostIdInServer ∧
        row.prevValue = item.prevValue ∧ emptyText ∉ t.itemCategories.names row.globalId := by
  obtain ⟨hbrief, hvalue, hcategories, htime, htype, hunit⟩ := isItemChanged_eq_false.mp hunchanged
  have hserver : row.serverId = item.serverId := congrArg Prod.fst hkey
  have hid : row.id = item.id := congrArg Prod.snd hkey
  have hrow : (∃ n, row = { item.toItemRow with globalId := n }) ↔
      row.globalHostId = item.globalHostId ∧ row.hostIdInServer = item.hostIdInServer ∧
        row.prevValue = item.prevValue := by
    constructor
    · rintro ⟨n, rfl⟩
      exact ⟨rfl, rfl, rfl⟩
    · rintro ⟨hhost, hlocal, hprev⟩
      refine ⟨row.globalId, ?_⟩
      dsimp only
      rw [← hserver, ← hid, ← hhost, ← hlocal, ← hbrief, ← htime, ← hvalue, ← hprev, ← htype,
        ← hunit]
      rfl
  have hnames : (t.itemCategories.names row.globalId).Perm item.categoryNames ↔
      emptyText ∉ t.itemCategories.names row.globalId := by
    -- the names that are read are a part of the stored ones, in their order
    rw [← hcategories]
    change List.Perm _ ((t.itemCategories.names row.globalId).filter _) ↔ _
    constructor
    · intro hperm hempty
      have hmem := hperm.mem_iff.mp hempty
      simp at hmem
    · intro hempty
      rw [List.filter_eq_self.mpr]
      intro name hname
      simpa using fun h : name = emptyText => hempty (h ▸ hname)
  rw [hrow, hnames, and_assoc, and_assoc]

section Stores

variable {t t' : ItemTables} {servers : ServerIdSet} {serverId : ServerIdType}
  {incoming : List ItemInfo} (hincoming : ∀ item ∈ incoming, item.serverId = serverId)
  (hdistinct : (incoming.map fun item => item.id).Nodup)
  (hadd : (t.afterDelete servers serverId incoming).addItemInfoList
    (t.syncPlan servers serverId incoming).1 = .ok t')

include hincoming hdistinct hadd

theorem stores_iff_of_changed {item : ItemInfo} (hitem : item ∈ incoming)
    (hchanged : (t.current servers serverId incoming)[item.id]?.all (isItemChanged item)) :
    t'.Stores item ↔ t.Keeps servers serverId (targetHostOf incoming) item := by
  have hnodup : ((t.syncPlan servers serverId incoming).1.map (·.key)).Nodup :=
    nodup_added hdistinct
  obtain ⟨t'', hadd', -, hlist⟩ :=
    (t.afterDelete servers serverId incoming).addItemInfoList_stored hnodup
  obtain rfl := Except.ok.inj (hadd'.symm.trans hadd)
  have hadded : item ∈ (t.syncPlan servers serverId incoming).1 := by
    rw [syncPlan, reconcile_added hdistinct, List.mem_filter]
    exact ⟨hitem, hchanged⟩
  obtain ⟨n, names, hstored, hcount⟩ := hlist item hadded
  have hstores : t''.Stores item ↔ names.Perm item.categoryNames := by
    constructor
    · rintro ⟨n', names', hstored', hperm⟩
      rw [hstored] at hstored'
      obtain ⟨-, rfl⟩ := Prod.mk.inj (Option.some.inj hstored')
      exact hperm
    · intro hperm
      exact ⟨n, names, hstored, hperm⟩
  have hkey : item.key = (serverId, item.id) := Prod.ext (hincoming item hitem) rfl
  rw [hstores, perm_iff_of_deltaCount hcount, stored_of_changed hincoming hdistinct hitem hchanged]
  cases hrow : t.items.byKey item.key with
  | none =>
    have hnone : t.stored item.key = none := by rw [stored, hrow]; rfl
    simp [Keeps, hnone]
  | some row =>
    have hsome : t.stored item.key = some (row, t.itemCategories.names row.globalId) :=
      (t.stored_eq_some).mpr ⟨hrow, rfl⟩
    have hcurrent : (t.current servers serverId incoming)[item.id]? =
        if sees servers serverId (targetHostOf incoming) row then some (t.info row) else none := by
      rw [getElem?_current, ← hkey, hrow, Option.filter_some]
      split
      · rfl
      · rfl
    rw [hcurrent] at hchanged ⊢
    by_cases hsees : sees servers serverId (targetHostOf incoming) row
    · rw [if_pos hsees, Option.all_some] at hchanged
      simp [Keeps, hsome, hsees, hchanged]
    · simp [Keeps, hsome, hsees]

theorem stores_iff_of_unchanged {item : ItemInfo} (hitem : item ∈ incoming)
    (hunchanged : (t.current servers serverId incoming)[item.id]?.all (isItemChanged item) =
      false) :
    t'.Stores item ↔ t.Keeps servers serverId (targetHostOf incoming) item := by
  obtain ⟨t'', hadd', hframe, -⟩ := (t.afterDelete servers serverId incoming).addItemInfoList_frame
    (t.syncPlan servers serverId incoming).1
  obtain rfl := Except.ok.inj (hadd'.symm.trans hadd)
  have hkey : item.key = (serverId, item.id) := Prod.ext (hincoming item hitem) rfl
  cases hold : (t.current servers serverId incoming)[item.id]? with
  | none => simp [hold] at hunchanged
  | some old =>
    rw [hold, Option.all_some] at hunchanged
    have hstored := stored_of_unchanged hincoming hdistinct hitem hframe hold hunchanged
    rw [getElem?_current, ← hkey, Option.map_eq_some_iff] at hold
    obtain ⟨row, hrow, rfl⟩ := hold
    rw [Option.filter_eq_some_iff] at hrow
    have hsome : t.stored item.key = some (row, t.itemCategories.names row.globalId) :=
      (t.stored_eq_some).mpr ⟨hrow.1, rfl⟩
    have hmatches := t.matches_iff_of_unchanged (AutoTable.key_of_byKey hrow.1) hunchanged
    have hkeeps : t.Keeps servers serverId (targetHostOf incoming) item ↔
        row.globalHostId = item.globalHostId ∧ row.hostIdInServer = item.hostIdInServer ∧
          row.prevValue = item.prevValue ∧ emptyText ∉ t.itemCategories.names row.globalId := by
      simp [Keeps, hsome, hrow.2, hunchanged]
    rw [hkeeps, ← hmatches, Stores, hstored, hsome]
    constructor
    · rintro ⟨n, names, heq, hperm⟩
      obtain ⟨hrow', rfl⟩ := Prod.mk.inj (Option.some.inj heq)
      exact ⟨⟨n, hrow'⟩, hperm⟩
    · rintro ⟨⟨n, hrow'⟩, hperm⟩
      exact ⟨n, _, by rw [← hrow'], hperm⟩

end Stores

/-- An item of server 1. -/
def plainItem : ItemInfo where
  globalId := 1
  serverId := 1
  id := .ofString "10"
  globalHostId := 1
  hostIdInServer := .ofString "5"
  brief := .ofString "cpu"
  lastValueTime := ⟨1, 0⟩
  lastValue := .ofString "3"
  prevValue := .ofString "2"
  valueType := .integer
  unit := emptyText
  categoryNames := []

/-- The table with one item and no categories. -/
def plainItems : ItemTables where
  items := { rows := [plainItem.toItemRow], next := 2, id_lt := by decide, unique_id := by decide,
             unique_key := by decide }
  itemCategories := .empty _
  given := fun _ hcategory => absurd hcategory List.not_mem_nil

/-- The item with another previous value. -/
def newPrevValue : ItemInfo := { plainItem with prevValue := .ofString "9" }

/-- The server and the host of an item. -/
def hostOf (row : ItemRow) : ServerIdType × LocalHostIdType := (row.serverId, row.hostIdInServer)

/-- The condition for a stored item to be left alone: it does not come in and is not compared with,
    or it comes in once, is compared with and found unchanged. -/
def Undisturbed (t : ItemTables) (servers : ServerIdSet) (serverId : ServerIdType)
    (incoming : List ItemInfo) (row : ItemRow) : Prop :=
  if row.id ∈ incoming.map (·.id) then
    sees servers serverId (targetHostOf incoming) row ∧
      ∃ item, incoming.filter (fun item => decide (item.id = row.id)) = [item] ∧
        isItemChanged item (t.info row) = false
  else sees servers serverId (targetHostOf incoming) row = false

section OtherHosts

variable {t t' : ItemTables} {servers : ServerIdSet} {serverId : ServerIdType}
  {incoming : List ItemInfo} (hincoming : ∀ item ∈ incoming, item.serverId = serverId)
  (hadd : (t.afterDelete servers serverId incoming).addItemInfoList
    (t.syncPlan servers serverId incoming).1 = .ok t')

include hincoming

theorem key_of_added {item : ItemInfo} (hitem : item ∈ (t.syncPlan servers serverId incoming).1) :
    item.key = (serverId, item.id) :=
  Prod.ext (hincoming item (mem_of_mem_added hitem)) rfl

include hadd

/-- Items of other servers stay. -/
theorem stored_of_other_server {k : ServerIdType × ItemIdType} (hk : k.1 ≠ serverId) :
    t'.stored k = t.stored k := by
  obtain ⟨t'', hadd', hframe, -⟩ := (t.afterDelete servers serverId incoming).addItemInfoList_frame
    (t.syncPlan servers serverId incoming).1
  obtain rfl := Except.ok.inj (hadd'.symm.trans hadd)
  rw [hframe, afterDelete, stored_deleteInvalidItems, if_neg fun h => hk h.1]
  rw [List.mem_map]
  rintro ⟨item, hitem, rfl⟩
  rw [key_of_added hincoming hitem] at hk
  exact hk rfl

variable {row : ItemRow} (hrow : t.items.byKey (serverId, row.id) = some row)
  (hhost : row.hostIdInServer ∉ incoming.map (·.hostIdInServer))

include hrow hhost

/-- An item of another host stays exactly when its ID is not added and not deleted. -/
theorem stored_eq_iff_notMem :
    t'.stored (serverId, row.id) = t.stored (serverId, row.id) ↔
      (∀ item ∈ (t.syncPlan servers serverId incoming).1, item.id ≠ row.id) ∧
        (t.syncPlan servers serverId incoming).2[row.id]? = none := by
  obtain ⟨t'', hadd', hframe, hlist⟩ := (t.afterDelete servers serverId incoming).addItemInfoList_frame
    (t.syncPlan servers serverId incoming).1
  obtain rfl := Except.ok.inj (hadd'.symm.trans hadd)
  have hstored : t.stored (serverId, row.id) = some (row, t.itemCategories.names row.globalId) :=
    t.stored_eq_some.mpr ⟨hrow, rfl⟩
  by_cases hmem : ∃ item ∈ (t.syncPlan servers serverId incoming).1, item.id = row.id
  · -- the host of what is stored then is one of the incoming ones
    obtain ⟨item, hitem, hid⟩ := hmem
    have hkey : (serverId, row.id) ∈ (t.syncPlan servers serverId incoming).1.map (·.key) := by
      rw [← hid, ← key_of_added hincoming hitem]
      exact List.mem_map_of_mem hitem
    obtain ⟨item', hitem', n, names, hstored'⟩ := hlist _ hkey
    have hne : t''.stored (serverId, row.id) ≠ t.stored (serverId, row.id) := by
      rw [hstored, hstored']
      intro heq
      have hhost' := congrArg ItemRow.hostIdInServer (Prod.mk.inj (Option.some.inj heq)).1
      exact hhost (List.mem_map.mpr ⟨item', mem_of_mem_added hitem', hhost'⟩)
    constructor
    · intro heq
      exact absurd heq hne
    · intro h
      exact absurd hid (h.1 item hitem)
  · have hnot : ∀ item ∈ (t.syncPlan servers serverId incoming).1, item.id ≠ row.id :=
      fun item hitem hid => hmem ⟨item, hitem, hid⟩
    have hkey : (serverId, row.id) ∉ (t.syncPlan servers serverId incoming).1.map (·.key) := by
      rw [List.mem_map]
      rintro ⟨item, hitem, hkey⟩
      exact hnot item hitem (congrArg Prod.snd hkey)
    rw [hframe _ hkey, stored_afterDelete, hstored]
    cases (t.syncPlan servers serverId incoming).2[row.id]? with
    | none => simpa using hnot
    | some old => simp

theorem stored_eq_iff_undisturbed :
    t'.stored (serverId, row.id) = t.stored (serverId, row.id) ↔
      t.Undisturbed servers serverId incoming row := by
  have hcurrent : (t.current servers serverId incoming)[row.id]? =
      if sees servers serverId (targetHostOf incoming) row then some (t.info row) else none := by
    rw [getElem?_current, hrow, Option.filter_some]
    split
    · rfl
    · rfl
  rw [stored_eq_iff_notMem hincoming hadd hrow hhost, Undisturbed]
  by_cases hid : row.id ∈ incoming.map (·.id)
  · have hadded : (∀ item ∈ (t.syncPlan servers serverId incoming).1, item.id ≠ row.id) ↔
        sees servers serverId (targetHostOf incoming) row ∧
          ∃ item, incoming.filter (fun item => decide (item.id = row.id)) = [item] ∧
            isItemChanged item (t.info row) = false := by
      have hiff : (∀ item ∈ (reconcile (fun item : ItemInfo => item.id) isItemChanged incoming
        (t.current servers serverId incoming)).1, item.id ≠ row.id) ↔ _ := notMem_added_iff
      rw [syncPlan, hiff, hcurrent]
      by_cases hsees : sees servers serverId (targetHostOf incoming) row
      · simp [hsees, hid]
      · simp [hsees, hid]
    rw [if_pos hid, ← hadded]
    constructor
    · exact fun h => h.1
    · exact fun h => ⟨h, left_of_notMem_added hid h⟩
  · have hleft : (t.syncPlan servers serverId incoming).2[row.id]? =
        (t.current servers serverId incoming)[row.id]? := left_of_notMem hid
    have hnot : ∀ item ∈ (t.syncPlan servers serverId incoming).1, item.id ≠ row.id := by
      intro item hitem hid'
      exact hid (List.mem_map.mpr ⟨item, mem_of_mem_added hitem, hid'⟩)
    rw [if_neg hid, hleft, hcurrent]
    by_cases hsees : sees servers serverId (targetHostOf incoming) row
    · simp [hsees]
    · simpa [hsees] using hnot

end OtherHosts

/-- Items of server 1 on two hosts that are new. -/
def twoHosts : List ItemInfo :=
  [{ plainItem with id := .ofString "20", hostIdInServer := .ofString "6" },
    { plainItem with id := .ofString "30", hostIdInServer := .ofString "7" }]

end ItemTables

end Hatohol

import Hatohol.Table.Transaction
import Hatohol.Triggers.Sync
import Hatohol.Items.Sync
import Hatohol.Hostgroups.Sync
import Hatohol.Hosts.Sync

/-!
# Synchronisation when a transaction fails

`syncTriggers`, `syncItems`, `syncHostgroups` and `syncHostgroupMembers` delete and store in two
transactions, `syncHosts` stores in one. If the second of the two fails, the rows that were to be
stored again are gone (DBAgent.cc:445-473 rolls back the failing transaction only).
-/

namespace Hatohol

open Sql DBTermCodec Table

/-! ## Triggers -/

namespace TriggersTable

/-- The triggers that `syncTriggers` reads. -/
def currTriggers (members : List HostgroupMember) (servers : ServerIdSet) (serverId : ServerIdType)
    (t : TriggersTable) : Except HatoholException (List TriggerInfo) :=
  t.getTriggerInfoList members (syncOption servers serverId)

/-- The transactions that `syncTriggers` issues. -/
def syncTriggersTrxs (t : TriggersTable) (members : List HostgroupMember) (servers : ServerIdSet)
    (incoming : List TriggerInfo) (serverId : ServerIdType) :
    List (Transaction TriggersTable HatoholException) :=
  readDeleteStore (currTriggers members servers serverId)
    (fun currTriggers =>
      let (serverTriggers, invalidTriggerMap) := reconcile TriggerInfo.id
        isTriggerDescriptionChanged incoming (mapOf TriggerInfo.id currTriggers)
      ((values invalidTriggerMap).map TriggerInfo.id, serverTriggers))
    (fun idList t => .ok (t.deleteTriggerInfo idList serverId).2)
    (fun serverTriggers t => .ok (t.addTriggerInfoList serverTriggers)) t

/-- The triggers of a server by their IDs. -/
def triggersOf (serverId : ServerIdType) (t : TriggersTable) (id : TriggerIdType) :
    Option TriggerInfo := t.trigger (serverId, id)

/-- The triggers of a server that are shown to `syncTriggers`. -/
def shownTriggers (t : TriggersTable) (servers : ServerIdSet) (serverId : ServerIdType)
    (id : TriggerIdType) : Option TriggerInfo :=
  (t.triggersOf serverId id).filter (TriggersQueryOption.sees servers serverId noExcludeHost)

/-- A synchronisation of triggers with nothing to delete or nothing to store. -/
def SyncsOneWay (t : TriggersTable) (servers : ServerIdSet) (incoming : List TriggerInfo)
    (serverId : ServerIdType) : Prop :=
  NothingToDelete TriggerInfo.id isTriggerDescriptionChanged (t.shownTriggers servers serverId)
      incoming ∨
    NothingToStore TriggerInfo.id isTriggerDescriptionChanged (t.shownTriggers servers serverId)
      incoming

section Atomic

variable (t : TriggersTable) (members : List HostgroupMember) (servers : ServerIdSet)
  (incoming : List TriggerInfo) {serverId : ServerIdType} (hserver : serverId ≠ allServers)

include hserver

theorem currTriggers_eq : currTriggers members servers serverId t =
    .ok (t.rows.filter (TriggersQueryOption.sees servers serverId noExcludeHost)) :=
  t.getTriggerInfoList_eq members hserver rfl

/-- The transactions together are the call. -/
theorem runAll_syncTriggersTrxs :
    runAll (t.syncTriggersTrxs members servers incoming serverId) t =
      (t.syncTriggers members servers incoming serverId).map (·.2) := by
  have hread : t.getTriggerInfoList members (syncOption servers serverId) = _ :=
    t.currTriggers_eq members servers hserver
  rw [syncTriggersTrxs, runAll_readDeleteStore (t.currTriggers_eq members servers hserver)]
  unfold syncTriggers
  rw [hread]
  simp only [bind, Except.bind, pure, Except.pure, deleteInvalidTriggers]
  generalize reconcile TriggerInfo.id isTriggerDescriptionChanged incoming _ = plan
  by_cases hids : ((values plan.2).map TriggerInfo.id).length > 0 <;>
    by_cases hnews : plan.1.length > 0 <;>
      simp only [if_pos, if_neg, hids, hnews, not_false_eq_true] <;> rfl

omit hserver in
theorem shownTriggers_eq : t.shownTriggers servers serverId =
    fun id => (t.current servers serverId noExcludeHost)[id]? :=
  funext fun id => (t.getElem?_current servers serverId noExcludeHost id).symm

omit hserver in
theorem idsToDelete_eq_nil_iff : t.idsToDelete servers serverId incoming = [] ↔
    NothingToDelete TriggerInfo.id isTriggerDescriptionChanged (t.shownTriggers servers serverId)
      incoming := by
  rw [idsToDelete, List.map_eq_nil_iff, shownTriggers_eq]
  exact values_left_eq_nil_iff

omit hserver in
theorem syncPlan_eq_nil_iff : (t.syncPlan servers serverId incoming).1 = [] ↔
    NothingToStore TriggerInfo.id isTriggerDescriptionChanged (t.shownTriggers servers serverId)
      incoming := by
  rw [shownTriggers_eq]
  exact added_eq_nil_iff

omit hserver in
/-- A trigger is shown to be deleted only if the server is set up. -/
theorem registered_of_idsToDelete (hids : t.idsToDelete servers serverId incoming ≠ []) :
    servers.contains serverId := by
  obtain ⟨id, hid⟩ := List.exists_mem_of_ne_nil _ hids
  obtain ⟨old, hold⟩ := Option.isSome_iff_exists.mp (mem_idsToDelete.mp hid)
  have hcurrent := getElem?_of_left hold
  rw [getElem?_current, Option.filter_eq_some_iff] at hcurrent
  simp only [TriggersQueryOption.sees, Bool.and_eq_true, beq_iff_eq] at hcurrent
  obtain ⟨-, ⟨⟨hcontains, rfl⟩, -⟩, -⟩ := hcurrent
  exact hcontains

/-- A synchronisation of triggers that both deletes and stores may be left half done. -/
theorem syncTriggers_not_atomic (hincoming : ∀ trig ∈ incoming, trig.serverId = serverId)
    (hdistinct : (incoming.map TriggerInfo.id).Nodup)
    (hids : t.idsToDelete servers serverId incoming ≠ [])
    (hnews : (t.syncPlan servers serverId incoming).1 ≠ []) :
    ¬ FailureAtomic (triggersOf serverId)
      (t.syncTriggersTrxs members servers incoming serverId) t := by
  have hregistered := t.registered_of_idsToDelete servers incoming hids
  have hdeleted (id : TriggerIdType) :
      (t.deleteTriggerInfo (t.idsToDelete servers serverId incoming) serverId).2.trigger
        (serverId, id) =
        if (t.syncPlan servers serverId incoming).2[id]?.isSome then none
        else t.trigger (serverId, id) := by
    have hdelete := t.trigger_deleteInvalidTriggers (t.idsToDelete servers serverId incoming) serverId
      (serverId, id)
    rw [deleteInvalidTriggers, if_pos (List.length_pos_iff.mpr hids)] at hdelete
    simpa only [true_and, mem_idsToDelete] using hdelete
  apply not_failureAtomic (t.currTriggers_eq members servers hserver) hids hnews rfl rfl
  · -- a trigger that is deleted was there before
    obtain ⟨id, hid⟩ := List.exists_mem_of_ne_nil _ hids
    rw [mem_idsToDelete] at hid
    obtain ⟨old, hold⟩ := Option.isSome_iff_exists.mp hid
    have hcurrent := getElem?_of_left hold
    rw [getElem?_current_registered hregistered] at hcurrent
    refine ⟨id, fun heq => ?_⟩
    have hid' := (hdeleted id).symm.trans heq
    rw [if_pos hid, triggersOf, hcurrent] at hid'
    cases hid'
  · -- a trigger that is stored is not there in between
    obtain ⟨new, hnew⟩ := List.exists_mem_of_ne_nil _ hnews
    have hnone := hdeleted new.id
    rw [syncPlan, left_of_mem_added hdistinct hnew, getElem?_current_registered hregistered] at hnone
    have hkey : new.key = (serverId, new.id) := Prod.ext (hincoming new (mem_of_mem_added hnew)) rfl
    have hnodup : ((t.syncPlan servers serverId incoming).1.map TriggerInfo.key).Nodup := by
      rw [syncPlan_added hregistered hdistinct]
      exact (nodup_incoming hdistinct).sublist (List.filter_sublist.map _)
    have hstored := trigger_addTriggerInfoList
      (t.deleteTriggerInfo (t.idsToDelete servers serverId incoming) serverId).2 hnodup new.key
    rw [lookup_of_mem hnodup hnew, hkey, Option.some_or] at hstored
    refine ⟨new.id, fun heq => ?_⟩
    have hnew' := hnone.symm.trans (heq.trans hstored)
    cases htrig : t.trigger (serverId, new.id) <;> simp [htrig] at hnew'

theorem syncTriggers_atomic (h : t.SyncsOneWay servers incoming serverId) :
    FailureAtomic (triggersOf serverId) (t.syncTriggersTrxs members servers incoming serverId) t :=
      by
  apply failureAtomic_of_nil (t.currTriggers_eq members servers hserver)
  exact h.imp (t.idsToDelete_eq_nil_iff servers incoming).mpr
    (t.syncPlan_eq_nil_iff servers incoming).mpr

theorem syncsOneWay_of_atomic (hincoming : ∀ trig ∈ incoming, trig.serverId = serverId)
    (hdistinct : (incoming.map TriggerInfo.id).Nodup)
    (hatomic : FailureAtomic (triggersOf serverId)
      (t.syncTriggersTrxs members servers incoming serverId) t) :
    t.SyncsOneWay servers incoming serverId := by
  rw [SyncsOneWay, ← idsToDelete_eq_nil_iff, ← syncPlan_eq_nil_iff]
  by_contra! hne
  exact t.syncTriggers_not_atomic members servers incoming hserver hincoming hdistinct hne.1 hne.2
    hatomic

end Atomic

end TriggersTable

/-! ## Items -/

namespace ItemTables

open ItemsQueryOption

/-- The items that `syncItems` reads, in one transaction or two. -/
def currItems (hosts : HostTables) (servers : ServerIdSet) (serverId : ServerIdType)
    (targetHostId : LocalHostIdType) (t : ItemTables) : Except HatoholException (List ItemInfo) :=
  t.getItemInfoList hosts (syncOption servers serverId targetHostId)

/-- The transactions that `syncItems` issues. -/
def syncItemsTrxs (t : ItemTables) (hosts : HostTables) (servers : ServerIdSet)
    (incoming : List ItemInfo) (serverId : ServerIdType) :
    List (Transaction ItemTables HatoholException) :=
  match incoming with
  | [] => []
  | firstItem :: rest =>
      readDeleteStore
        (currItems hosts servers serverId (getTargetHostId firstItem (firstItem :: rest)))
        (fun currItems =>
          let (addItems, invalidItemMap) :=
            reconcile (fun item : ItemInfo => item.id) isItemChanged (firstItem :: rest)
              (mapOf (fun item : ItemInfo => item.id) currItems)
          ((values invalidItemMap).map fun item => item.id, addItems))
        (fun idList t => .ok (t.deleteItemInfo idList serverId).2)
        (fun addItems t => t.addItemInfoList addItems) t

/-- The items of a server by their IDs, with their categories. -/
def itemsOf (serverId : ServerIdType) (t : ItemTables) (id : ItemIdType) :
    Option (ItemRow × List CString) := t.stored (serverId, id)

/-- The items that are shown to `syncItems`. -/
def shownItems (t : ItemTables) (servers : ServerIdSet) (serverId : ServerIdType)
    (incoming : List ItemInfo) (id : ItemIdType) : Option ItemInfo :=
  ((t.items.byKey (serverId, id)).filter (sees servers serverId (targetHostOf incoming))).map t.info

/-- A synchronisation of items with nothing to delete or nothing to store. -/
def SyncsOneWay (t : ItemTables) (servers : ServerIdSet) (incoming : List ItemInfo)
    (serverId : ServerIdType) : Prop :=
  NothingToDelete (fun item : ItemInfo => item.id) isItemChanged
      (t.shownItems servers serverId incoming) incoming ∨
    NothingToStore (fun item : ItemInfo => item.id) isItemChanged
      (t.shownItems servers serverId incoming) incoming

section Atomic

variable (t : ItemTables) (hosts : HostTables) (servers : ServerIdSet) (incoming : List ItemInfo)
  {serverId : ServerIdType}

theorem currItems_eq (hserver : serverId ≠ allServers) (targetHostId : LocalHostIdType) :
    currItems hosts servers serverId targetHostId t =
      .ok ((t.items.rows.filter (sees servers serverId targetHostId)).map t.info) :=
  t.getItemInfoList_eq hosts hserver rfl

theorem runAll_syncItemsTrxs (hserver : serverId ≠ allServers) :
    runAll (t.syncItemsTrxs hosts servers incoming serverId) t =
      (t.syncItems hosts servers incoming serverId).map (·.2) := by
  cases incoming with
  | nil => rfl
  | cons firstItem rest =>
    have hread : t.getItemInfoList hosts
      (syncOption servers serverId (getTargetHostId firstItem (firstItem :: rest))) = _ :=
        t.currItems_eq hosts servers hserver _
    rw [syncItemsTrxs, runAll_readDeleteStore (t.currItems_eq hosts servers hserver _)]
    unfold syncItems
    simp only [hread, bind, Except.bind, pure, Except.pure, deleteInvalidItems]
    generalize reconcile (fun item : ItemInfo => item.id) isItemChanged (firstItem :: rest) _ = plan
    by_cases hids : ((values plan.2).map fun item => item.id).length > 0 <;>
      by_cases hnews : plan.1.length > 0 <;>
        simp only [if_pos, if_neg, hids, hnews, not_false_eq_true] <;>
          first | rfl | (generalize addItemInfoList _ _ = result; cases result <;> rfl)

theorem shownItems_eq : t.shownItems servers serverId incoming =
    fun id => (t.current servers serverId incoming)[id]? :=
  funext fun id => (getElem?_current id).symm

theorem idsToDelete_eq_nil_iff : t.idsToDelete servers serverId incoming = [] ↔
    NothingToDelete (fun item : ItemInfo => item.id) isItemChanged
      (t.shownItems servers serverId incoming) incoming := by
  rw [idsToDelete, List.map_eq_nil_iff, shownItems_eq]
  exact values_left_eq_nil_iff

theorem syncPlan_eq_nil_iff : (t.syncPlan servers serverId incoming).1 = [] ↔
    NothingToStore (fun item : ItemInfo => item.id) isItemChanged
      (t.shownItems servers serverId incoming) incoming := by
  rw [shownItems_eq]
  exact added_eq_nil_iff

variable {servers incoming}

/-- An item that is hidden though the server is set up is of another host than all that come in. -/
theorem host_ne_of_hidden {row : ItemRow} (hregistered : servers.contains serverId)
    (hrow : row.serverId = serverId)
    (hhidden : sees servers serverId (targetHostOf incoming) row = false) {item : ItemInfo}
    (hitem : item ∈ incoming) : row.hostIdInServer ≠ item.hostIdInServer := by
  cases incoming with
  | nil => simp at hitem
  | cons firstItem rest =>
    simp only [sees, targetHostOf, getTargetHostId, hrow, hregistered, beq_self_eq_true,
      Bool.true_and, Bool.or_eq_false_iff, beq_eq_false_iff_ne] at hhidden
    by_cases hany : (firstItem :: rest).any fun item => item.hostIdInServer != firstItem.hostIdInServer
    · rw [if_pos hany] at hhidden
      exact absurd rfl hhidden.1
    · rw [if_neg hany] at hhidden
      have hhost : item.hostIdInServer = firstItem.hostIdInServer := by
        by_contra hne
        exact hany (List.any_eq_true.mpr ⟨item, hitem, by simpa using hne⟩)
      rw [hhost]
      exact hhidden.2

theorem registered_of_idsToDelete (hids : t.idsToDelete servers serverId incoming ≠ []) :
    servers.contains serverId := by
  obtain ⟨id, hid⟩ := List.exists_mem_of_ne_nil _ hids
  obtain ⟨old, hold⟩ := Option.isSome_iff_exists.mp (mem_idsToDelete.mp hid)
  have hcurrent := getElem?_of_left hold
  rw [getElem?_current, Option.map_eq_some_iff] at hcurrent
  obtain ⟨row, hrow, -⟩ := hcurrent
  simp only [Option.filter_eq_some_iff, sees, Bool.and_eq_true, beq_iff_eq] at hrow
  obtain ⟨-, ⟨hcontains, rfl⟩, -⟩ := hrow
  exact hcontains

/-- A synchronisation of items that both deletes and stores may be left half done. -/
theorem syncItems_not_atomic (hserver : serverId ≠ allServers)
    (hincoming : ∀ item ∈ incoming, item.serverId = serverId)
    (hdistinct : (incoming.map fun item => item.id).Nodup)
    (hids : t.idsToDelete servers serverId incoming ≠ [])
    (hnews : (t.syncPlan servers serverId incoming).1 ≠ []) :
    ¬ FailureAtomic (itemsOf serverId) (t.syncItemsTrxs hosts servers incoming serverId) t := by
  have hregistered := t.registered_of_idsToDelete hids
  have hdelete : (t.deleteItemInfo (t.idsToDelete servers serverId incoming) serverId).2 =
      t.afterDelete servers serverId incoming := by
    rw [afterDelete, deleteInvalidItems, if_pos (List.length_pos_iff.mpr hids)]
  have hnodup : ((t.syncPlan servers serverId incoming).1.map (·.key)).Nodup :=
    nodup_added hdistinct
  obtain ⟨t', hadd, -, hlist⟩ :=
    (t.afterDelete servers serverId incoming).addItemInfoList_stored hnodup
  have hbefore : ∃ id, itemsOf serverId (t.afterDelete servers serverId incoming) id ≠
      itemsOf serverId t id := by
    obtain ⟨id, hid⟩ := List.exists_mem_of_ne_nil _ hids
    rw [mem_idsToDelete] at hid
    obtain ⟨old, hold⟩ := Option.isSome_iff_exists.mp hid
    have hcurrent := getElem?_of_left hold
    rw [getElem?_current, Option.map_eq_some_iff] at hcurrent
    obtain ⟨row, hrow, -⟩ := hcurrent
    rw [Option.filter_eq_some_iff] at hrow
    refine ⟨id, ?_⟩
    rw [itemsOf, itemsOf, stored_afterDelete, if_pos hid, (t.stored_eq_some).mpr ⟨hrow.1, rfl⟩]
    simp
  have hafter : ∃ id, itemsOf serverId (t.afterDelete servers serverId incoming) id ≠
      itemsOf serverId t' id := by
    obtain ⟨new, hnew⟩ := List.exists_mem_of_ne_nil _ hnews
    have hmem := mem_of_mem_added hnew
    obtain ⟨n, names, hstored, -⟩ := hlist new hnew
    rw [key_of_added hincoming hnew] at hstored
    refine ⟨new.id, ?_⟩
    rw [itemsOf, itemsOf, hstored, stored_afterDelete, syncPlan, left_of_mem_added hdistinct hnew,
      getElem?_current]
    cases hrow : t.items.byKey (serverId, new.id) with
    | none => simp [stored, hrow]
    | some row =>
      cases hsees : sees servers serverId (targetHostOf incoming) row with
      | true => simp [hsees, Option.filter]
      | false =>
        -- the item is stored under another host, and moves
        have hserver' : row.serverId = serverId := congrArg Prod.fst (AutoTable.key_of_byKey hrow)
        have hhost := host_ne_of_hidden hregistered hserver' hsees hmem
        rw [(t.stored_eq_some).mpr ⟨hrow, rfl⟩, Option.filter_some, hsees]
        intro heq
        have hrow' := (Prod.mk.inj (Option.some.inj heq)).1
        have hhost' : row.hostIdInServer = new.hostIdInServer := by rw [hrow']
        exact hhost hhost'
  cases incoming with
  | nil => exact absurd rfl hnews
  | cons firstItem rest =>
    rw [← hdelete] at hadd hbefore hafter
    rw [syncItemsTrxs]
    refine not_failureAtomic (t.currItems_eq hosts servers hserver _) ?_ ?_ rfl ?_ hbefore hafter
    · exact hids
    · exact hnews
    · exact hadd

theorem syncItems_atomic (hserver : serverId ≠ allServers)
    (h : t.SyncsOneWay servers incoming serverId) :
    FailureAtomic (itemsOf serverId) (t.syncItemsTrxs hosts servers incoming serverId) t := by
  cases incoming with
  | nil =>
    intro i hi
    simp [syncItemsTrxs] at hi
  | cons firstItem rest =>
    rw [syncItemsTrxs]
    apply failureAtomic_of_nil (t.currItems_eq hosts servers hserver _)
    exact h.imp (t.idsToDelete_eq_nil_iff servers (firstItem :: rest)).mpr
      (t.syncPlan_eq_nil_iff servers (firstItem :: rest)).mpr

theorem syncsOneWay_of_atomic (hserver : serverId ≠ allServers)
    (hincoming : ∀ item ∈ incoming, item.serverId = serverId)
    (hdistinct : (incoming.map fun item => item.id).Nodup)
    (hatomic : FailureAtomic (itemsOf serverId)
      (t.syncItemsTrxs hosts servers incoming serverId) t) :
    t.SyncsOneWay servers incoming serverId := by
  rw [SyncsOneWay, ← idsToDelete_eq_nil_iff, ← syncPlan_eq_nil_iff]
  by_contra! hne
  exact t.syncItems_not_atomic hosts hserver hincoming hdistinct hne.1 hne.2 hatomic

end Atomic

end ItemTables

/-! ## Host groups and their members -/

namespace HostgroupTables

section Hostgroups

/-- What `syncHostgroups` reads, as the plan that it makes of it. -/
def readHostgroups (servers : ServerIdSet) (incoming : List Hostgroup) (serverId : ServerIdType)
    (t : HostgroupTables) : Except HatoholException (List Nat × List Hostgroup) :=
  t.syncHostgroupsPlan servers incoming serverId

/-- The transactions that `syncHostgroups` issues. -/
def syncHostgroupsTrxs (t : HostgroupTables) (servers : ServerIdSet) (incoming : List Hostgroup)
    (serverId : ServerIdType) : List (Transaction HostgroupTables HatoholException) :=
  readDeleteStore (readHostgroups servers incoming serverId) id
    (fun idList t => .ok (t.deleteHostgroupList idList).2)
    (fun serverHostgroups t => t.upsertHostgroups serverHostgroups) t

/-- The host groups of a server by their IDs. -/
def hostgroupsOf (serverId : ServerIdType) (t : HostgroupTables) (id : HostgroupIdType) :
    Option Hostgroup := t.hostgroupList.byKey (serverId, id)

/-- The host groups of a server that are shown to `syncHostgroups`. -/
def shownHostgroups (t : HostgroupTables) (servers : ServerIdSet) (serverId : ServerIdType)
    (id : HostgroupIdType) : Option Hostgroup :=
  (t.hostgroupsOf serverId id).filter fun hostgroup =>
    seesServer servers serverId hostgroup.serverId

/-- A synchronisation of host groups with nothing to delete or nothing to store. -/
def SyncsHostgroupsOneWay (t : HostgroupTables) (servers : ServerIdSet) (incoming : List Hostgroup)
    (serverId : ServerIdType) : Prop :=
  NothingToDelete Hostgroup.idInServer isHostgroupNameChanged (t.shownHostgroups servers serverId)
      incoming ∨
    NothingToStore Hostgroup.idInServer isHostgroupNameChanged (t.shownHostgroups servers serverId)
      incoming

variable (t : HostgroupTables) (servers : ServerIdSet) (incoming : List Hostgroup)
  {serverId : ServerIdType}

theorem readHostgroups_eq (hserver : serverId ≠ allServers) :
    readHostgroups servers incoming serverId t =
      .ok ((values (t.hostgroupsPlan servers serverId incoming).2).map Hostgroup.id,
        (t.hostgroupsPlan servers serverId incoming).1) :=
  t.syncHostgroupsPlan_eq servers hserver incoming

theorem runAll_syncHostgroupsTrxs (hserver : serverId ≠ allServers) :
    runAll (t.syncHostgroupsTrxs servers incoming serverId) t =
      (t.syncHostgroups servers incoming serverId).map (·.2) := by
  rw [syncHostgroupsTrxs, runAll_readDeleteStore (t.readHostgroups_eq servers incoming hserver)]
  unfold syncHostgroups
  simp only [t.syncHostgroupsPlan_eq servers hserver, bind, Except.bind, pure, Except.pure, id]
  generalize (values (t.hostgroupsPlan servers serverId incoming).2).map Hostgroup.id = ids
  generalize (t.hostgroupsPlan servers serverId incoming).1 = news
  by_cases hids : ids.length > 0 <;> by_cases hnews : news.length > 0 <;>
    simp only [if_pos, if_neg, hids, hnews, not_false_eq_true] <;>
      first | rfl | (generalize upsertHostgroups _ _ = result; cases result <;> rfl)

theorem shownHostgroups_eq : t.shownHostgroups servers serverId =
    fun id => (t.currentHostgroups servers serverId)[id]? :=
  funext fun id => (t.getElem?_currentHostgroups servers id).symm

theorem hostgroupsToDelete_eq_nil_iff :
    (values (t.hostgroupsPlan servers serverId incoming).2).map Hostgroup.id = [] ↔
      NothingToDelete Hostgroup.idInServer isHostgroupNameChanged
        (t.shownHostgroups servers serverId) incoming := by
  rw [List.map_eq_nil_iff, shownHostgroups_eq]
  exact values_left_eq_nil_iff

theorem hostgroupsToStore_eq_nil_iff : (t.hostgroupsPlan servers serverId incoming).1 = [] ↔
    NothingToStore Hostgroup.idInServer isHostgroupNameChanged
      (t.shownHostgroups servers serverId) incoming := by
  rw [shownHostgroups_eq]
  exact added_eq_nil_iff

variable {servers incoming}

/-- A synchronisation of host groups that both deletes and stores may be left half done. -/
theorem syncHostgroups_not_atomic (hserver : serverId ≠ allServers)
    (hincoming : ∀ hostgroup ∈ incoming, hostgroup.serverId = serverId)
    (hid : ∀ hostgroup ∈ incoming, hostgroup.id = autoIncrementValue)
    (hdistinct : (incoming.map Hostgroup.idInServer).Nodup)
    (hids : (values (t.hostgroupsPlan servers serverId incoming).2).map Hostgroup.id ≠ [])
    (hnews : (t.hostgroupsPlan servers serverId incoming).1 ≠ []) :
    ¬ FailureAtomic (hostgroupsOf serverId) (t.syncHostgroupsTrxs servers incoming serverId) t := by
  obtain ⟨t', hupsert, -, hstored⟩ := upsertHostgroups_afterDelete t servers serverId hid
  -- a host group that is deleted was there before
  obtain ⟨old, hmem⟩ := List.exists_mem_of_ne_nil _ (mt List.map_eq_nil_iff.mpr hids)
  obtain ⟨id, hleft⟩ := mem_values.mp hmem
  have hcurrent := getElem?_of_left hleft
  rw [getElem?_currentHostgroups, Option.filter_eq_some_iff] at hcurrent
  have hregistered : servers.contains serverId := by
    simp only [seesServer, Bool.and_eq_true, beq_iff_eq] at hcurrent
    obtain ⟨-, hcontains, rfl⟩ := hcurrent
    exact hcontains
  have hbefore : hostgroupsOf serverId (t.afterDeleteHostgroups servers serverId incoming) id ≠
      hostgroupsOf serverId t id := by
    rw [hostgroupsOf, hostgroupsOf, byKey_afterDeleteHostgroups, hleft, if_pos ⟨rfl, rfl⟩,
      hcurrent.1]
    simp
  -- one that is stored is not there in between
  obtain ⟨new, hnew⟩ := List.exists_mem_of_ne_nil _ hnews
  have hkey : new.key = (serverId, new.idInServer) :=
    Prod.ext (hincoming new (mem_of_mem_added hnew)) rfl
  have hafter : hostgroupsOf serverId (t.afterDeleteHostgroups servers serverId incoming)
      new.idInServer ≠ hostgroupsOf serverId t' new.idInServer := by
    obtain ⟨hostgroup, -, n, hbyKey⟩ := hstored (serverId, new.idInServer)
      (List.mem_map.mpr ⟨new, hnew, hkey⟩)
    rw [hostgroupsOf, hostgroupsOf, hbyKey, byKey_afterDeleteHostgroups, hostgroupsPlan,
      left_of_mem_added hdistinct hnew, getElem?_currentHostgroups_of_registered t hregistered]
    cases t.hostgroupList.byKey (serverId, new.idInServer) <;> simp
  rw [syncHostgroupsTrxs]
  refine not_failureAtomic (t.readHostgroups_eq servers incoming hserver) ?_ ?_ rfl ?_ ⟨id, hbefore⟩
    ⟨new.idInServer, hafter⟩
  · exact hids
  · exact hnews
  · exact hupsert

theorem syncHostgroups_atomic (hserver : serverId ≠ allServers)
    (h : t.SyncsHostgroupsOneWay servers incoming serverId) :
    FailureAtomic (hostgroupsOf serverId) (t.syncHostgroupsTrxs servers incoming serverId) t := by
  apply failureAtomic_of_nil (t.readHostgroups_eq servers incoming hserver)
  exact h.imp (t.hostgroupsToDelete_eq_nil_iff servers incoming).mpr
    (t.hostgroupsToStore_eq_nil_iff servers incoming).mpr

theorem syncsHostgroupsOneWay_of_atomic (hserver : serverId ≠ allServers)
    (hincoming : ∀ hostgroup ∈ incoming, hostgroup.serverId = serverId)
    (hid : ∀ hostgroup ∈ incoming, hostgroup.id = autoIncrementValue)
    (hdistinct : (incoming.map Hostgroup.idInServer).Nodup)
    (hatomic : FailureAtomic (hostgroupsOf serverId)
      (t.syncHostgroupsTrxs servers incoming serverId) t) :
    t.SyncsHostgroupsOneWay servers incoming serverId := by
  rw [SyncsHostgroupsOneWay, ← hostgroupsToDelete_eq_nil_iff, ← hostgroupsToStore_eq_nil_iff]
  by_contra! hne
  exact t.syncHostgroups_not_atomic hserver hincoming hid hdistinct hne.1 hne.2 hatomic

end Hostgroups

section Members

/-- What `syncHostgroupMembers` reads, as the plan that it makes of it. -/
def readMembers (servers : ServerIdSet) (incoming : List HostgroupMember) (serverId : ServerIdType)
    (t : HostgroupTables) : Except HatoholException (List Nat × List HostgroupMember) :=
  t.syncHostgroupMembersPlan servers incoming serverId

/-- The transactions that `syncHostgroupMembers` issues. -/
def syncHostgroupMembersTrxs (t : HostgroupTables) (servers : ServerIdSet)
    (incoming : List HostgroupMember) (serverId : ServerIdType) :
    List (Transaction HostgroupTables HatoholException) :=
  readDeleteStore (readMembers servers incoming serverId) id
    (fun idList t => .ok (t.deleteHostgroupMemberList idList).2)
    (fun serverHostgroupMembers t => t.upsertHostgroupMembers serverHostgroupMembers) t

/-- The members of the host groups of a server. -/
def membersOf (serverId : ServerIdType) (t : HostgroupTables)
    (p : HostgroupIdType × LocalHostIdType) : Option HostgroupMember :=
  t.hostgroupMember.byKey (serverId, p)

/-- The members that are shown to `syncHostgroupMembers`. -/
def shownMembers (t : HostgroupTables) (servers : ServerIdSet) (serverId : ServerIdType)
    (p : HostgroupIdType × LocalHostIdType) : Option HostgroupMember :=
  (t.membersOf serverId p).filter fun member => seesServer servers serverId member.serverId

/-- A member that is stored is never taken for changed. -/
def isMemberChanged (_ _ : HostgroupMember) : Bool := false

/-- A synchronisation of members with nothing to delete or nothing to store. -/
def SyncsMembersOneWay (t : HostgroupTables) (servers : ServerIdSet)
    (incoming : List HostgroupMember) (serverId : ServerIdType) : Prop :=
  NothingToDelete HostgroupMember.pair isMemberChanged (t.shownMembers servers serverId) incoming ∨
    NothingToStore HostgroupMember.pair isMemberChanged (t.shownMembers servers serverId) incoming

variable (t : HostgroupTables) (servers : ServerIdSet) (incoming : List HostgroupMember)
  {serverId : ServerIdType}

theorem readMembers_eq (hserver : serverId ≠ allServers) :
    readMembers servers incoming serverId t =
      .ok (memberIds (t.membersPlan servers serverId incoming).2,
        (t.membersPlan servers serverId incoming).1) :=
  t.syncHostgroupMembersPlan_eq servers hserver incoming

theorem runAll_syncHostgroupMembersTrxs (hserver : serverId ≠ allServers) :
    runAll (t.syncHostgroupMembersTrxs servers incoming serverId) t =
      (t.syncHostgroupMembers servers incoming serverId).map (·.2) := by
  rw [syncHostgroupMembersTrxs, runAll_readDeleteStore (t.readMembers_eq servers incoming hserver)]
  unfold syncHostgroupMembers
  simp only [t.syncHostgroupMembersPlan_eq servers hserver, bind, Except.bind, pure, Except.pure,
    id]
  generalize memberIds (t.membersPlan servers serverId incoming).2 = ids
  generalize (t.membersPlan servers serverId incoming).1 = news
  by_cases hids : ids.length > 0 <;> by_cases hnews : news.length > 0 <;>
    simp only [if_pos, if_neg, hids, hnews, not_false_eq_true] <;>
      first | rfl | (generalize upsertHostgroupMembers _ _ = result; cases result <;> rfl)

theorem shownMembers_eq (p : HostgroupIdType × LocalHostIdType) :
    t.shownMembers servers serverId p = memberAt (t.currentMembers servers serverId) p :=
  (t.memberAt_currentMembers servers p).symm

theorem membersToDelete_eq_nil_iff :
    memberIds (t.membersPlan servers serverId incoming).2 = [] ↔
      NothingToDelete HostgroupMember.pair isMemberChanged (t.shownMembers servers serverId)
        incoming := by
  have hids : memberIds (t.membersPlan servers serverId incoming).2 = [] ↔
      ∀ p, memberAt (t.membersPlan servers serverId incoming).2 p = none := by
    rw [List.eq_nil_iff_forall_not_mem]
    simp only [mem_memberIds, not_exists, not_and, Option.eq_none_iff_forall_ne_some]
    constructor
    · intro h p member hmember
      exact h member.id p member hmember rfl
    · intro h n p member hmember
      exact absurd hmember (h p member)
  rw [hids]
  refine forall_congr' fun p => ?_
  rw [membersPlan, memberAt_left, shownMembers_eq]
  by_cases hp : p ∈ incoming.map HostgroupMember.pair
  · simpa [hp, isMemberChanged] using fun _ _ => List.mem_map.mp hp
  · have hnone : ¬ ∃ new ∈ incoming, new.pair = p := mt List.mem_map.mpr hp
    simp [hp, isMemberChanged, hnone, Option.eq_none_iff_forall_ne_some]

theorem membersToStore_eq_nil_iff : (t.membersPlan servers serverId incoming).1 = [] ↔
    NothingToStore HostgroupMember.pair isMemberChanged (t.shownMembers servers serverId)
      incoming := by
  have hadded : (t.membersPlan servers serverId incoming).1 = [] ↔
      ∀ p, p ∉ (t.membersPlan servers serverId incoming).1.map HostgroupMember.pair := by
    rw [← List.eq_nil_iff_forall_not_mem, List.map_eq_nil_iff]
  rw [hadded]
  simp only [membersPlan, notMem_membersLoop_iff, NothingToStore, shownMembers_eq, isMemberChanged,
    and_true]
  constructor
  · intro h
    have hone (p : HostgroupIdType × LocalHostIdType)
        (hp : p ∈ incoming.map HostgroupMember.pair) :=
      (h p).resolve_left (not_not_intro hp)
    refine ⟨?_, fun new hnew => ?_⟩
    · rw [List.nodup_iff_count_eq_one]
      exact fun p hp => (hone p hp).1
    · exact Option.isSome_iff_exists.mp (hone new.pair (List.mem_map_of_mem hnew)).2
  · rintro ⟨hnodup, hshown⟩ p
    by_cases hp : p ∈ incoming.map HostgroupMember.pair
    · obtain ⟨new, hnew, rfl⟩ := List.mem_map.mp hp
      exact .inr ⟨List.count_eq_one_of_mem hnodup hp, Option.isSome_iff_exists.mpr (hshown new hnew)⟩
    · exact .inl hp

variable {servers incoming}

/-- A synchronisation of members that both deletes and stores may be left half done. -/
theorem syncHostgroupMembers_not_atomic (hserver : serverId ≠ allServers)
    (hincoming : ∀ member ∈ incoming, member.serverId = serverId)
    (hid : ∀ member ∈ incoming, member.id = autoIncrementValue)
    (hdistinct : (incoming.map HostgroupMember.pair).Nodup)
    (hids : memberIds (t.membersPlan servers serverId incoming).2 ≠ [])
    (hnews : (t.membersPlan servers serverId incoming).1 ≠ []) :
    ¬ FailureAtomic (membersOf serverId) (t.syncHostgroupMembersTrxs servers incoming serverId) t :=
      by
  obtain ⟨t', hupsert, -, hstored⟩ := upsertHostgroupMembers_afterDelete t servers serverId hid
  -- a member that is deleted was there before
  obtain ⟨n, hn⟩ := List.exists_mem_of_ne_nil _ hids
  obtain ⟨p, old, hleft, -⟩ := mem_memberIds.mp hn
  have hcurrent := hleft
  rw [membersPlan, memberAt_left, Option.ite_none_left_eq_some, memberAt_currentMembers,
    Option.filter_eq_some_iff] at hcurrent
  have hregistered : servers.contains serverId := by
    simp only [seesServer, Bool.and_eq_true, beq_iff_eq] at hcurrent
    obtain ⟨-, -, hcontains, rfl⟩ := hcurrent
    exact hcontains
  have hbefore : membersOf serverId (t.afterDeleteMembers servers serverId incoming) p ≠
      membersOf serverId t p := by
    rw [membersOf, membersOf, byKey_afterDeleteMembers, hleft, if_pos ⟨rfl, rfl⟩, hcurrent.2.1]
    simp
  -- one that is stored is not there in between
  obtain ⟨new, hnew⟩ := List.exists_mem_of_ne_nil _ hnews
  have hkey : new.key = (serverId, new.pair) :=
    Prod.ext (hincoming new (mem_of_mem_membersLoop hnew)) rfl
  have hafter : membersOf serverId (t.afterDeleteMembers servers serverId incoming) new.pair ≠
      membersOf serverId t' new.pair := by
    obtain ⟨member, -, n, hbyKey⟩ := hstored (serverId, new.pair)
      (List.mem_map.mpr ⟨new, hnew, hkey⟩)
    have hmem := List.mem_map_of_mem (f := HostgroupMember.pair) (mem_of_mem_membersLoop hnew)
    have hnotStored : memberAt (t.currentMembers servers serverId) new.pair = none := by
      have hnew' := List.mem_map_of_mem (f := HostgroupMember.pair) hnew
      rw [← Option.not_isSome_iff_eq_none]
      intro hsome
      exact absurd hnew' (notMem_membersLoop_iff.mpr
        (.inr ⟨List.count_eq_one_of_mem hdistinct hmem, hsome⟩))
    rw [memberAt_currentMembers_of_registered t hregistered] at hnotStored
    rw [membersOf, membersOf, hbyKey, byKey_afterDeleteMembers, hnotStored]
    simp
  rw [syncHostgroupMembersTrxs]
  refine not_failureAtomic (t.readMembers_eq servers incoming hserver) ?_ ?_ rfl ?_ ⟨p, hbefore⟩
    ⟨new.pair, hafter⟩
  · exact hids
  · exact hnews
  · exact hupsert

theorem syncHostgroupMembers_atomic (hserver : serverId ≠ allServers)
    (h : t.SyncsMembersOneWay servers incoming serverId) :
    FailureAtomic (membersOf serverId) (t.syncHostgroupMembersTrxs servers incoming serverId) t :=
      by
  apply failureAtomic_of_nil (t.readMembers_eq servers incoming hserver)
  exact h.imp (t.membersToDelete_eq_nil_iff servers incoming).mpr
    (t.membersToStore_eq_nil_iff servers incoming).mpr

theorem syncsMembersOneWay_of_atomic (hserver : serverId ≠ allServers)
    (hincoming : ∀ member ∈ incoming, member.serverId = serverId)
    (hid : ∀ member ∈ incoming, member.id = autoIncrementValue)
    (hdistinct : (incoming.map HostgroupMember.pair).Nodup)
    (hatomic : FailureAtomic (membersOf serverId)
      (t.syncHostgroupMembersTrxs servers incoming serverId) t) :
    t.SyncsMembersOneWay servers incoming serverId := by
  rw [SyncsMembersOneWay, ← membersToDelete_eq_nil_iff, ← membersToStore_eq_nil_iff]
  by_contra! hne
  exact t.syncHostgroupMembers_not_atomic hserver hincoming hid hdistinct hne.1 hne.2 hatomic

end Members

end HostgroupTables

/-! ## Hosts -/

namespace HostTables

/-- The hosts that `syncHosts` reads. -/
def currHosts (servers : ServerIdSet) (serverId : ServerIdType) (t : HostTables) :
    Except HatoholException (List ServerHostDef) :=
  t.getServerHostDefs (currHostsOption servers serverId)

/-- The transactions that `syncHosts` issues. Nothing is deleted. -/
def syncHostsTrxs (t : HostTables) (servers : ServerIdSet) (svHostDefs : List ServerHostDef)
    (serverId : ServerIdType) : List (Transaction HostTables HatoholException) :=
  readDeleteStore (currHosts servers serverId)
    (fun currHosts => (([] : List Nat), hostsToUpsert currHosts svHostDefs)) (fun _ t => .ok t)
    (fun serverHostDefs t => (upsertHosts serverHostDefs t ∅).map (·.1)) t

section Atomic

variable (t : HostTables) (servers : ServerIdSet) (svHostDefs : List ServerHostDef)
  {serverId : ServerIdType} (hserver : serverId ≠ allServers)

include hserver

theorem currHosts_eq : currHosts servers serverId t =
    .ok (t.serverHostDef.rows.filter (isCurrent servers serverId)) :=
  t.getServerHostDefs_current servers hserver

theorem runAll_syncHostsTrxs : runAll (t.syncHostsTrxs servers svHostDefs serverId) t =
    (t.syncHosts servers svHostDefs serverId).map SyncedHosts.tables := by
  rw [syncHostsTrxs, runAll_readDeleteStore (t.currHosts_eq servers hserver)]
  unfold syncHosts
  simp only [t.getServerHostDefs_current servers hserver, bind, Except.bind, pure, Except.pure,
    List.length_nil, gt_iff_lt, Nat.lt_irrefl, if_false]
  generalize hostsToUpsert _ _ = serverHostDefs
  cases serverHostDefs with
  | nil => rfl
  | cons h hs =>
    simp only [List.length_cons, Nat.zero_lt_succ, if_true, reduceCtorEq, if_false]
    cases upsertHosts (h :: hs) t ∅ <;> rfl

/-- All is stored in one transaction. -/
theorem syncHosts_atomic :
    FailureAtomic (fun t : HostTables => t) (t.syncHostsTrxs servers svHostDefs serverId) t :=
  failureAtomic_of_nil (t.currHosts_eq servers hserver) (.inl rfl) _

end Atomic

end HostTables

/-! ## All of them -/

/-- The trigger of `plainTable` with another text. -/
def newBrief : TriggerInfo := { TriggersTable.plainTrigger with brief := .ofString "up" }

end Hatohol

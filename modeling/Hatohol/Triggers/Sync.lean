import Hatohol.DBTablesTriggers
import Hatohol.HostResource.System

/-!
# Synchronisation of triggers

What `syncTriggers` and `updateTrigger` leave in the table of triggers. Both compare with the
triggers that a query of the server itself shows: those of the synchronised server if it is set
up, and for `updateTrigger` without those of self-monitoring.
-/

namespace Hatohol

open Sql DBTermCodec Table

/-! ## Reading -/

namespace TriggersQueryOption

/-- A query of the server itself for the triggers of one server, as the builder of the join sees
    it. -/
def system (servers : ServerIdSet) (serverId : ServerIdType) (flags : ExcludeFlags) :
    TriggersQueryOption where
  base := { HostResourceQueryOption.new synapseTriggersQueryOption (systemContext servers) with
    tableNameAlways := true, targetServerId := serverId }
  isTriggers := rfl
  targetId := allTriggers
  minSeverity := triggerSeverityUnknown
  triggerStatus := triggerStatusAll
  excludeFlags := flags
  beginTime := ⟨0, 0⟩
  endTime := ⟨0, 0⟩
  hostnameList := []
  triggerBrief := emptyText

/-- The trigger is one that such a query shows. -/
def sees (servers : ServerIdSet) (serverId : ServerIdType) (flags : ExcludeFlags)
    (trig : TriggerInfo) : Bool :=
  servers.contains trig.serverId && trig.serverId == serverId &&
    (flags &&& excludeSelfMonitoring == 0#32 || trig.validity != .validSelfMonitoring) &&
    (flags &&& excludeInvalidHost == 0#32 || trig.validity != .invalid)

def validityText (validity : TriggerValidity) : Text :=
  .cmp (triggersFullColumnName idxTriggersValidity) .ne (.int validity.value)

theorem denotes_excludeValidity (validity : TriggerValidity) :
    Denotes (excludeValidity validity) (some (validityText validity)) := by
  have hname : isName (triggersFullColumnName idxTriggersValidity) := by decide
  exact denotes_cmp hname opens_bang (separates rfl) (denotes_encInt validity.value)

theorem holds_validityText (trig : TriggerInfo) (validity : TriggerValidity) :
    (validityText validity).holds (trig.value none) = (trig.validity != validity) := by
  have hvalue : trig.value none (triggersFullColumnName idxTriggersValidity) =
      .int trig.validity.value := rfl
  rw [validityText, Text.holds_cmp, hvalue, Text.compareValue_ne_int]
  cases trig.validity <;> cases validity <;> rfl

theorem hasRow_value {o : TriggersQueryOption} (ho : o.base.IsSystemQuery) (trig : TriggerInfo) :
    o.base.HasRow (trig.value none) ⟨trig.serverId, trig.hostIdInServer, emptyText⟩ := by
  apply HostResourceQueryOption.hasRow_of_names o.isTriggers
  · intro full
    cases full <;> rfl
  · intro hnames
    simp [ho.namesHostgroup] at hnames
  · rintro idx hidx full
    obtain rfl : ⟨7, by decide⟩ = idx := Option.some.inj hidx
    cases full <;> rfl

section System

variable (servers : ServerIdSet) {serverId : ServerIdType} (flags : ExcludeFlags)

theorem isSystemQuery_system (serverId : ServerIdType) :
    (system servers serverId flags).base.IsSystemQuery :=
  HostResourceQueryOption.isSystemQuery_new (.inl rfl) servers true serverId

/-- The filters that are appended, of which only those by validity can be set. -/
def ownForms (flags : ExcludeFlags) : List (Option Text) :=
  [if flags &&& excludeSelfMonitoring != 0#32 then some (validityText .validSelfMonitoring) else none,
    if flags &&& excludeInvalidHost != 0#32 then some (validityText .invalid) else none]

theorem denotes_addOwnConditions {condition : String} {t : Option Text}
    (hcondition : Denotes condition t) :
    Denotes ((system servers serverId flags).addOwnConditions condition)
      ((ownForms flags).foldl (Text.glue .and) t) := by
  have hown : (system servers serverId flags).addOwnConditions condition =
      if flags &&& excludeInvalidHost != 0#32 then
        addAnd (if flags &&& excludeSelfMonitoring != 0#32 then
          addAnd condition (excludeValidity .validSelfMonitoring) else condition)
          (excludeValidity .invalid)
      else if flags &&& excludeSelfMonitoring != 0#32 then
        addAnd condition (excludeValidity .validSelfMonitoring) else condition := by
    simp [addOwnConditions, system, shouldExcludeSelfMonitoring, shouldExcludeInvalidHost]
  rw [hown]
  exact denotes_addAnd_if (denotes_addAnd_if hcondition (denotes_excludeValidity _))
    (denotes_excludeValidity _)

theorem all_ownForms (trig : TriggerInfo) :
    ((ownForms flags).all fun form => form.all (Text.holds (trig.value none))) =
      ((flags &&& excludeSelfMonitoring == 0#32 || trig.validity != .validSelfMonitoring) &&
        (flags &&& excludeInvalidHost == 0#32 || trig.validity != .invalid)) := by
  simp only [ownForms, List.all_cons, List.all_nil, Bool.and_true]
  congr 1
  · cases hflags : flags &&& excludeSelfMonitoring == 0#32 <;>
      simp [bne, hflags, holds_validityText]
  · cases hflags : flags &&& excludeInvalidHost == 0#32 <;>
      simp [bne, hflags, holds_validityText]

theorem isSingle_ownForms : ∀ u, some u ∈ ownForms flags → u.isSingle ∧ u.wellFormed := by
  intro u hu
  simp only [ownForms, List.mem_cons, List.not_mem_nil, or_false] at hu
  rcases hu with hu | hu
  all_goals
    split at hu
    · obtain rfl := Option.some.inj hu
      exact ⟨rfl, rfl⟩
    · simp at hu

/-- The triggers that the text of the query selects. -/
theorem getCondition_system (hserver : serverId ≠ allServers) :
    ∃ s, (system servers serverId flags).getCondition = .ok s ∧
      ∀ trig, selects s (TriggerInfo.value trig none) = sees servers serverId flags trig := by
  have ho := isSystemQuery_system servers flags serverId
  obtain ⟨s, hs, hdenotes⟩ := ho.getCondition
  have hne : (serverId == allServers) = false := by simpa using hserver
  have hbase (trig : TriggerInfo) : ((system servers serverId flags).base.isValid
        ⟨trig.serverId, trig.hostIdInServer, emptyText⟩ &&
      (system servers serverId flags).base.isTargeted
        ⟨trig.serverId, trig.hostIdInServer, emptyText⟩) =
      (servers.contains trig.serverId && trig.serverId == serverId) := by
    simp [system, HostResourceQueryOption.isValid, HostResourceQueryOption.new,
      HostResourceQueryOption.isTargeted, HostResourceQueryOption.getValidServerIdSet,
        systemContext,
      hne]
  unfold getCondition
  rw [hs]
  refine ⟨_, rfl, fun trig => ?_⟩
  unfold sees
  by_cases hfalse : isAlwaysFalseCondition s
  · -- the false condition stays alone, and selects nothing of the base either
    have hempty : selects s (trig.value none) = false := by
      rw [show s = "0" by simpa [isAlwaysFalseCondition, alwaysFalseCondition] using hfalse]
      rfl
    have hnone := ho.selects_form (hasRow_value ho trig) hdenotes
    rw [hempty, hbase] at hnone
    rw [if_pos hfalse, hempty, ← hnone]
    simp
  · rw [if_neg hfalse, ho.selects_appended (hasRow_value ho trig) _ (isSingle_ownForms flags)
      (denotes_addOwnConditions servers flags hdenotes), hbase, all_ownForms, Bool.and_assoc,
      Bool.and_assoc, Bool.and_assoc]

end System

end TriggersQueryOption

namespace TriggersTable

open TriggersQueryOption

/-- The trigger with an ID of a server. -/
def trigger (t : TriggersTable) (k : ServerIdType × TriggerIdType) : Option TriggerInfo :=
  lookup TriggerInfo.key t.rows k

theorem key_of_trigger {t : TriggersTable} {k : ServerIdType × TriggerIdType} {trig : TriggerInfo}
    (h : t.trigger k = some trig) : trig.key = k := key_of_lookup h

theorem mem_rows_iff {t : TriggersTable} {trig : TriggerInfo} :
    trig ∈ t.rows ↔ t.trigger trig.key = some trig := mem_iff_lookup t.unique

/-- An option that becomes a query of the server itself reads what that sees. -/
theorem getTriggerInfoList_eq (t : TriggersTable) (members : List HostgroupMember)
    {option : TriggersQueryOption} {servers : ServerIdSet} {serverId : ServerIdType}
    {flags : ExcludeFlags} (hserver : serverId ≠ allServers)
    (hoption : option.setTableNameAlways = system servers serverId flags) :
    t.getTriggerInfoList members option = .ok (t.rows.filter (sees servers serverId flags)) := by
  obtain ⟨s, hs, hselects⟩ := getCondition_system servers flags hserver
  have hused := (isSystemQuery_system servers flags serverId).isHostgroupUsed
  unfold getTriggerInfoList
  simp only [hoption, hs, hused, bind, Except.bind, pure, Except.pure, Bool.false_eq_true, if_false,
    hselects]
  split
  · rename_i hfalse
    have hempty : t.rows.filter (sees servers serverId flags) = [] := by
      rw [List.filter_eq_nil_iff]
      intro trig _
      rw [← hselects, show s = "0" by simpa [isAlwaysFalseCondition,
        alwaysFalseCondition] using hfalse]
      exact Bool.false_ne_true
    rw [hempty]
  · rfl

section Current

variable (t : TriggersTable) (servers : ServerIdSet) (serverId : ServerIdType)
  (flags : ExcludeFlags)

/-- The triggers that are compared with, by their IDs. -/
def current : Std.TreeMap TriggerIdType TriggerInfo :=
  mapOf TriggerInfo.id (t.rows.filter (sees servers serverId flags))

theorem getElem?_current (id : TriggerIdType) :
    (t.current servers serverId flags)[id]? =
      (t.trigger (serverId, id)).filter (sees servers serverId flags) := by
  have hserver : ∀ trig ∈ t.rows, sees servers serverId flags trig → trig.serverId = serverId := by
    intro trig _ hsees
    simp only [sees, Bool.and_eq_true, beq_iff_eq] at hsees
    exact hsees.1.1.2
  rw [current, getElem?_mapOf (nodup_part t.unique hserver)]
  exact lookup_part t.unique hserver id

end Current

/-! ## Storing and deleting -/

theorem rows_addTriggerInfoList (t : TriggersTable) (news : List TriggerInfo) :
    (t.addTriggerInfoList news).rows = news.foldl (put TriggerInfo.key) t.rows := by
  unfold addTriggerInfoList
  induction news generalizing t with
  | nil => rfl
  | cons new news ih => exact ih (t.addTriggerInfo new)

theorem trigger_addTriggerInfoList_of_ne {t : TriggersTable} {news : List TriggerInfo}
    {k : ServerIdType × TriggerIdType} (hnews : ∀ new ∈ news, new.key ≠ k) :
    (t.addTriggerInfoList news).trigger k = t.trigger k := by
  unfold trigger
  rw [rows_addTriggerInfoList]
  exact lookup_foldl_put_of_ne hnews

theorem trigger_addTriggerInfoList (t : TriggersTable) {news : List TriggerInfo}
    (hnews : (news.map TriggerInfo.key).Nodup) (k : ServerIdType × TriggerIdType) :
    (t.addTriggerInfoList news).trigger k =
      (lookup TriggerInfo.key news k).or (t.trigger k) := by
  unfold trigger
  rw [rows_addTriggerInfoList]
  exact lookup_foldl_put hnews k

theorem selects_makeConditionForDeleteTrigger (idList : List TriggerIdType)
    (serverId : ServerIdType)
    (trig : TriggerInfo) :
    selects (makeConditionForDeleteTrigger idList serverId) (trig.value none) =
      (idList.contains trig.id && trig.serverId == serverId) := by
  have hid : isName (triggersColumnName idxTriggersId) := by decide
  have hserver : isName (triggersColumnName idxTriggersServerId) := by decide
  have hpair := selects_in_pair hid hserver (trig.value none) opens_in_lower
    (separates rfl) idList serverId
  have hvalue : trig.value none (triggersColumnName idxTriggersId) = .str trig.id.text := rfl
  have hvalue' : trig.value none (triggersColumnName idxTriggersServerId) = .int trig.serverId :=
    rfl
  refine hpair.trans ?_
  rw [hvalue, hvalue', Bool.eq_iff_iff]
  simp [← CString.ext_iff]

/-- The triggers that are left when those of some IDs of the server are deleted. -/
theorem trigger_deleteInvalidTriggers (t : TriggersTable) (idList : List TriggerIdType)
    (serverId : ServerIdType) (k : ServerIdType × TriggerIdType) :
    (t.deleteInvalidTriggers idList serverId).2.trigger k =
      if k.1 = serverId ∧ k.2 ∈ idList then none else t.trigger k := by
  have hfilter : (t.deleteInvalidTriggers idList serverId).2.trigger k = (t.trigger k).filter
      fun trig => !(idList.contains trig.id && trig.serverId == serverId) := by
    cases idList with
    | nil => cases h : t.trigger k <;> simp [deleteInvalidTriggers, h, Option.filter]
    | cons id ids =>
      simp only [deleteInvalidTriggers, List.length_cons, gt_iff_lt, Nat.zero_lt_succ, if_true,
        deleteTriggerInfo, deleteRows, reduceCtorEq, if_false,
          selects_makeConditionForDeleteTrigger]
      exact lookup_filter t.unique _ k
  rw [hfilter]
  cases hk : t.trigger k with
  | none => simp
  | some trig =>
    have hkey := key_of_trigger hk
    subst hkey
    by_cases hdel : trig.key.1 = serverId ∧ trig.key.2 ∈ idList
    · rw [if_pos hdel]
      simp only [TriggerInfo.key] at hdel
      simp [Option.filter, hdel]
    · rw [if_neg hdel]
      simp only [TriggerInfo.key, not_and] at hdel
      simp only [Option.filter_some, Bool.not_and]
      by_cases hserver : trig.serverId = serverId
      · simp [hdel hserver]
      · simp [hserver]

/-! ## syncTriggers -/

section Sync

variable (t : TriggersTable) (servers : ServerIdSet) (serverId : ServerIdType)
  (incoming : List TriggerInfo)

/-- The triggers to be added, and those to be deleted. -/
def syncPlan : List TriggerInfo × Std.TreeMap TriggerIdType TriggerInfo :=
  reconcile TriggerInfo.id isTriggerDescriptionChanged incoming
    (t.current servers serverId noExcludeHost)

def idsToDelete : List TriggerIdType :=
  (values (t.syncPlan servers serverId incoming).2).map TriggerInfo.id

theorem syncTriggers_eq (members : List HostgroupMember) (hserver : serverId ≠ allServers) :
    t.syncTriggers members servers incoming serverId =
      .ok ((t.deleteInvalidTriggers (t.idsToDelete servers serverId incoming) serverId).1,
        (t.deleteInvalidTriggers (t.idsToDelete servers serverId incoming) serverId).2.addTriggerInfoList
          (t.syncPlan servers serverId incoming).1) := by
  have hoption : (syncOption servers serverId).setTableNameAlways =
      system servers serverId noExcludeHost := rfl
  have hplan : reconcile TriggerInfo.id isTriggerDescriptionChanged incoming
      (mapOf TriggerInfo.id (t.rows.filter (sees servers serverId noExcludeHost))) =
        t.syncPlan servers serverId incoming := rfl
  unfold syncTriggers
  rw [t.getTriggerInfoList_eq members hserver hoption]
  simp only [bind, Except.bind, pure, Except.pure, hplan]
  congr 2
  split
  · rfl
  · rename_i hnil
    rw [List.length_eq_zero_iff.mp (Nat.eq_zero_of_not_pos hnil)]
    rfl

variable {t servers serverId incoming}

theorem mem_idsToDelete {id : TriggerIdType} : id ∈ t.idsToDelete servers serverId incoming ↔
    (t.syncPlan servers serverId incoming).2[id]?.isSome := by
  have hid {id' : TriggerIdType} {old : TriggerInfo}
      (hold : (t.syncPlan servers serverId incoming).2[id']? = some old) : old.id = id' := by
    have hcurrent := getElem?_of_left hold
    rw [getElem?_current, Option.filter_eq_some_iff] at hcurrent
    exact congrArg Prod.snd (key_of_trigger hcurrent.1)
  rw [idsToDelete, List.mem_map, Option.isSome_iff_exists]
  constructor
  · rintro ⟨old, hold, rfl⟩
    obtain ⟨id', hold⟩ := mem_values.mp hold
    rw [hid hold]
    exact ⟨old, hold⟩
  · rintro ⟨old, hold⟩
    exact ⟨old, mem_values.mpr ⟨id, hold⟩, hid hold⟩

/-- A trigger that is unchanged is the one that is stored. -/
theorem eq_of_unchanged {trigger current : TriggerInfo} (hkey : trigger.key = current.key)
    (h : isTriggerDescriptionChanged trigger current = false) : trigger = current := by
  simp only [isTriggerDescriptionChanged, Bool.or_eq_false_iff, bne_eq_false_iff_eq] at h
  obtain ⟨⟨⟨⟨⟨⟨⟨⟨h1, h2⟩, h3, h4⟩, h5⟩, h6⟩, h7⟩, h8⟩, h9⟩, h10⟩ := h
  have htime : trigger.lastChangeTime = current.lastChangeTime := by
    cases ht : trigger.lastChangeTime
    cases hc : current.lastChangeTime
    simp_all
  cases trigger
  cases current
  simp_all [TriggerInfo.key]

theorem unchanged_self (trigger : TriggerInfo) :
    isTriggerDescriptionChanged trigger trigger = false := by
  simp [isTriggerDescriptionChanged]

/-! ### A server that is set up -/

section Registered

variable (hregistered : servers.contains serverId)

include hregistered

/-- Every trigger of the server is compared with. -/
theorem getElem?_current_registered (id : TriggerIdType) :
    (t.current servers serverId noExcludeHost)[id]? = t.trigger (serverId, id) := by
  rw [getElem?_current]
  cases htrig : t.trigger (serverId, id) with
  | none => rfl
  | some trig =>
    have hserver : trig.serverId = serverId := congrArg Prod.fst (key_of_trigger htrig)
    have hsees : sees servers serverId noExcludeHost trig := by
      simp only [sees, hserver, hregistered, beq_self_eq_true, Bool.true_and]
      rfl
    rw [Option.filter_some, if_pos hsees]

variable (hserver : ∀ trig ∈ incoming, trig.serverId = serverId)
  (hdistinct : (incoming.map TriggerInfo.id).Nodup)

include hdistinct

theorem syncPlan_added : (t.syncPlan servers serverId incoming).1 =
    incoming.filter fun new =>
      (t.trigger (serverId, new.id)).all (isTriggerDescriptionChanged new) := by
  rw [syncPlan, reconcile_added hdistinct]
  simp only [getElem?_current_registered hregistered]

theorem syncPlan_left (id : TriggerIdType) : (t.syncPlan servers serverId incoming).2[id]? =
    (t.trigger (serverId, id)).filter fun old =>
      (lookup TriggerInfo.id incoming id).all (isTriggerDescriptionChanged · old) := by
  rw [syncPlan, reconcile_left hdistinct, getElem?_current_registered hregistered]

omit hregistered in
theorem nodup_incoming : (incoming.map TriggerInfo.key).Nodup := by
  apply List.Nodup.of_map Prod.snd
  rw [List.map_map]
  exact hdistinct

include hserver

omit hregistered in
theorem lookup_incoming (k : ServerIdType × TriggerIdType) :
    lookup TriggerInfo.key incoming k =
      if k.1 = serverId then lookup TriggerInfo.id incoming k.2 else none := by
  split
  · rename_i hk
    cases hid : lookup TriggerInfo.id incoming k.2 with
    | none =>
      rw [lookup_eq_none] at hid ⊢
      intro trig htrig hkey
      exact hid trig htrig (congrArg Prod.snd hkey)
    | some trig =>
      have hmem := mem_of_lookup hid
      have hid' : trig.id = k.2 := key_of_lookup hid
      have hkey : trig.key = k := Prod.ext ((hserver trig hmem).trans hk.symm) hid'
      rw [← hkey]
      exact lookup_of_mem (nodup_incoming hdistinct) hmem
  · rename_i hk
    rw [lookup_eq_none]
    intro trig htrig hkey
    exact hk ((congrArg Prod.fst hkey).symm.trans (hserver trig htrig))

/-- The triggers of the server are the incoming ones, and those of other servers are as they
    were. -/
theorem trigger_synced (k : ServerIdType × TriggerIdType) :
    ((t.deleteInvalidTriggers (t.idsToDelete servers serverId incoming) serverId).2.addTriggerInfoList
        (t.syncPlan servers serverId incoming).1).trigger k =
      if k.1 = serverId then lookup TriggerInfo.id incoming k.2 else t.trigger k := by
  have hnodup := nodup_incoming hdistinct
  rw [trigger_addTriggerInfoList, trigger_deleteInvalidTriggers,
    syncPlan_added hregistered hdistinct,
    lookup_filter hnodup, lookup_incoming hserver hdistinct]
  · simp only [mem_idsToDelete, syncPlan_left hregistered hdistinct]
    obtain ⟨server, id⟩ := k
    by_cases hk : server = serverId
    · subst hk
      simp only [if_true, true_and]
      cases hnew : lookup TriggerInfo.id incoming id with
      | none =>
        -- what does not come in is deleted, if it is there
        cases hold : t.trigger (server, id) <;> simp [Option.filter]
      | some new =>
        have hid : new.id = id := key_of_lookup hnew
        rw [Option.filter_some, hid]
        cases hold : t.trigger (server, id) with
        | none => simp
        | some old =>
          cases hchanged : isTriggerDescriptionChanged new old with
          | true => simp [hchanged]
          | false =>
            have hkey : new.key = old.key := by
              rw [key_of_trigger hold, ← hid]
              exact Prod.ext (hserver new (mem_of_lookup hnew)) rfl
            obtain rfl := eq_of_unchanged hkey hchanged
            simp [hchanged, Option.filter]
    · simp [hk]
  · rw [syncPlan_added hregistered hdistinct]
    exact hnodup.sublist (List.filter_sublist.map _)

end Registered

/-- Nothing is compared with, so that the triggers are only added. -/
theorem trigger_synced_unregistered (hregistered : servers.contains serverId = false)
    (hdistinct : (incoming.map TriggerInfo.id).Nodup) (k : ServerIdType × TriggerIdType) :
    ((t.deleteInvalidTriggers (t.idsToDelete servers serverId incoming) serverId).2.addTriggerInfoList
        (t.syncPlan servers serverId incoming).1).trigger k =
      (lookup TriggerInfo.key incoming k).or (t.trigger k) := by
  have hcurrent (id : TriggerIdType) : (t.current servers serverId noExcludeHost)[id]? = none := by
    rw [getElem?_current, Option.filter_eq_none_iff]
    rintro trig htrig hsees
    have hserver : trig.serverId = serverId := congrArg Prod.fst (key_of_trigger htrig)
    simp [sees, hserver, hregistered] at hsees
  have hadded : (t.syncPlan servers serverId incoming).1 = incoming := by
    rw [syncPlan, reconcile_added hdistinct]
    simp [hcurrent]
  have hdeleted : t.idsToDelete servers serverId incoming = [] := by
    rw [List.eq_nil_iff_forall_not_mem]
    intro id hid
    rw [mem_idsToDelete, syncPlan, reconcile_left hdistinct, hcurrent] at hid
    cases hid
  rw [hadded, hdeleted]
  exact trigger_addTriggerInfoList t (nodup_incoming hdistinct) k

end Sync

/-- A trigger of server 1. -/
def plainTrigger : TriggerInfo where
  serverId := 1
  id := .ofString "10"
  status := 0
  severity := 1
  lastChangeTime := ⟨1, 0⟩
  globalHostId := 1
  hostIdInServer := .ofString "5"
  hostName := .ofString "web"
  brief := .ofString "down"
  extendedInfo := .ofString ""
  validity := .valid

def plainTable : TriggersTable := ⟨[plainTrigger], by decide⟩

/-- A trigger is neither deleted nor made invalid. -/
def Keeps (t : TriggersTable) (trig : TriggerInfo) : Prop :=
  ∃ trig', t.trigger trig.key = some trig' ∧ trig'.validity ≠ .invalid

theorem mem_of_mem_updateTriggerLoop {news : List TriggerInfo}
    {triggerMap : Std.TreeMap TriggerIdType TriggerInfo} {new : TriggerInfo}
    (h : new ∈ (updateTriggerLoop news triggerMap).1) : new ∈ news := by
  induction news generalizing triggerMap with
  | nil => simp [updateTriggerLoop] at h
  | cons x xs ih =>
    unfold updateTriggerLoop at h
    split at h
    · simp only at h
      split at h
      · exact List.mem_cons_of_mem _ (ih h)
      · rcases List.mem_cons.mp h with rfl | h
        · simp
        · exact List.mem_cons_of_mem _ (ih h)
    · rcases List.mem_cons.mp h with rfl | h
      · simp
      · exact List.mem_cons_of_mem _ (ih h)

theorem getElem?_of_updateTriggerLoop {news : List TriggerInfo}
    {triggerMap : Std.TreeMap TriggerIdType TriggerInfo} {id : TriggerIdType} {old : TriggerInfo}
    (h : (updateTriggerLoop news triggerMap).2[id]? = some old) : triggerMap[id]? = some old := by
  induction news generalizing triggerMap with
  | nil => exact h
  | cons x xs ih =>
    unfold updateTriggerLoop at h
    split at h
    · have herase := ih h
      rw [Std.TreeMap.getElem?_erase] at herase
      split at herase
      · simp at herase
      · exact herase
    · exact ih h

section SelfMonitoring

variable {t : TriggersTable} {servers : ServerIdSet} {serverId : ServerIdType}
  {incoming : List TriggerInfo} {trig : TriggerInfo} (hserver : serverId ≠ allServers)
  (htrig : t.trigger (serverId, trig.id) = some trig)
  (hself : trig.validity = .validSelfMonitoring) (habsent : trig.id ∉ incoming.map TriggerInfo.id)

include hserver htrig hself habsent

/-- `updateTrigger` does not see a trigger for self-monitoring. -/
theorem keeps_updateTrigger (members : List HostgroupMember) :
    ∃ t', t.updateTrigger members servers incoming serverId = .ok t' ∧ t'.Keeps trig := by
  have hoption : (updateOption servers serverId).setTableNameAlways =
      system servers serverId excludeSelfMonitoring := rfl
  unfold updateTrigger
  rw [t.getTriggerInfoList_eq members hserver hoption]
  refine ⟨_, rfl, trig, ?_, by simp [hself]⟩
  have hkey : trig.key = (serverId, trig.id) := key_of_trigger htrig
  rw [trigger_addTriggerInfoList_of_ne, hkey, htrig]
  intro new hnew hnewKey
  rw [hkey] at hnewKey
  have hid : new.id = trig.id := congrArg Prod.snd hnewKey
  rcases List.mem_append.mp hnew with hnew | hnew
  · exact habsent (hid ▸ List.mem_map_of_mem (mem_of_mem_updateTriggerLoop hnew))
  · obtain ⟨old, hold, rfl⟩ := List.mem_map.mp hnew
    obtain ⟨id, hleft⟩ := mem_values.mp hold
    have hcurrent : (t.current servers serverId excludeSelfMonitoring)[id]? = some old :=
      getElem?_of_updateTriggerLoop hleft
    rw [getElem?_current, Option.filter_eq_some_iff] at hcurrent
    have hid' : old.id = id := congrArg Prod.snd (key_of_trigger hcurrent.1)
    have hold' : some old = some trig := by
      rw [← hcurrent.1, ← hid', ← htrig, ← hid]
    simp [sees, Option.some.inj hold', hself, excludeSelfMonitoring] at hcurrent

/-- `syncTriggers` deletes a trigger for self-monitoring where it sees it. -/
theorem keeps_syncTriggers_iff (members : List HostgroupMember) :
    (∃ err t', t.syncTriggers members servers incoming serverId = .ok (err, t') ∧ t'.Keeps trig) ↔
      servers.contains serverId = false := by
  have hkey : trig.key = (serverId, trig.id) := key_of_trigger htrig
  have hleft : (t.syncPlan servers serverId incoming).2[trig.id]? =
      (some trig).filter (sees servers serverId noExcludeHost) := by
    rw [syncPlan, left_of_notMem habsent, getElem?_current, htrig]
  have hsees : sees servers serverId noExcludeHost trig = servers.contains serverId := by
    have hserver' : trig.serverId = serverId := congrArg Prod.fst hkey
    simp [sees, noExcludeHost, hserver']
  have hresult : ((t.deleteInvalidTriggers (t.idsToDelete servers serverId incoming)
      serverId).2.addTriggerInfoList (t.syncPlan servers serverId incoming).1).trigger trig.key =
        if servers.contains serverId then none else some trig := by
    rw [trigger_addTriggerInfoList_of_ne, trigger_deleteInvalidTriggers, hkey, htrig]
    · simp only [mem_idsToDelete, hleft, Option.filter_some, hsees]
      cases servers.contains serverId <;> rfl
    · intro new hnew hnewKey
      rw [hkey] at hnewKey
      have hid : new.id = trig.id := congrArg Prod.snd hnewKey
      exact habsent (hid ▸ List.mem_map_of_mem (mem_of_mem_added hnew))
  rw [syncTriggers_eq t servers serverId incoming members hserver]
  constructor
  · rintro ⟨err, t', hok, trig', htrig', -⟩
    obtain ⟨-, rfl⟩ := Prod.mk.inj (Except.ok.inj hok)
    rw [hresult] at htrig'
    rw [Bool.eq_false_iff]
    intro hcontains
    simp [hcontains] at htrig'
  · intro hcontains
    rw [hcontains] at hresult
    exact ⟨_, _, rfl, trig, hresult, by simp [hself]⟩

end SelfMonitoring

/-- Synchronisation leaves the triggers for self-monitoring alone that do not come in, exactly when
    the server is not set up or every such trigger comes in. -/
theorem keeps_self_monitoring_iff (t : TriggersTable) (members : List HostgroupMember)
    (servers : ServerIdSet) (serverId : ServerIdType) (incoming : List TriggerInfo)
    (hserver : serverId ≠ allServers) :
    (∀ trig ∈ t.rows, trig.serverId = serverId → trig.validity = .validSelfMonitoring →
      trig.id ∉ incoming.map TriggerInfo.id →
      (∃ t', t.updateTrigger members servers incoming serverId = .ok t' ∧ t'.Keeps trig) ∧
        ∃ err t', t.syncTriggers members servers incoming serverId = .ok (err, t') ∧
          t'.Keeps trig) ↔
      (servers.contains serverId → ∀ trig ∈ t.rows, trig.serverId = serverId →
        trig.validity = .validSelfMonitoring → trig.id ∈ incoming.map TriggerInfo.id) := by
  have hstored {trig : TriggerInfo} (htrig : trig ∈ t.rows) (hserver' : trig.serverId = serverId) :
      t.trigger (serverId, trig.id) = some trig := by
    rw [← hserver']
    exact mem_rows_iff.mp htrig
  constructor
  · intro hkeeps hregistered trig htrig hserver' hself
    by_contra habsent
    have hsync := (hkeeps trig htrig hserver' hself habsent).2
    rw [keeps_syncTriggers_iff hserver (hstored htrig hserver') hself habsent, hregistered] at hsync
    simp at hsync
  · intro hincoming trig htrig hserver' hself habsent
    refine ⟨keeps_updateTrigger hserver (hstored htrig hserver') hself habsent members, ?_⟩
    rw [keeps_syncTriggers_iff hserver (hstored htrig hserver') hself habsent, Bool.eq_false_iff]
    exact fun hregistered => habsent (hincoming hregistered trig htrig hserver' hself)

/-- The trigger for the connection to a plugin (FAILED_CONNECT_HAP2_TRIGGER_ID). -/
def selfMonitoringTrigger : TriggerInfo :=
  { plainTrigger with
    id := .ofString "__CON_HAP2"
    hostIdInServer := .ofString "__SELF_MONITOR"
    hostName := .ofString "(self-monitor)"
    validity := .validSelfMonitoring }

def selfMonitoredTable : TriggersTable := ⟨[selfMonitoringTrigger], by decide⟩

theorem keeps_self_monitoring_deleted :
    selfMonitoringTrigger ∈ selfMonitoredTable.rows ∧
      selfMonitoringTrigger.validity = .validSelfMonitoring ∧
      selfMonitoringTrigger.id ∉ [plainTrigger].map TriggerInfo.id ∧
      ((selfMonitoredTable.syncTriggers [] {1} [plainTrigger] 1).toOption.map fun result =>
        result.2.rows) = some [plainTrigger] := by
  decide +kernel

theorem keeps_self_monitoring_unregistered :
    ∃ err t', selfMonitoredTable.syncTriggers [] ∅ [plainTrigger] 1 = .ok (err, t') ∧
      t'.Keeps selfMonitoringTrigger :=
  ((keeps_self_monitoring_iff selfMonitoredTable [] ∅ 1 [plainTrigger] (by decide)).mpr
    (fun hregistered => absurd hregistered (by decide)) selfMonitoringTrigger (by decide) rfl rfl
      (by decide)).2

end TriggersTable

end Hatohol

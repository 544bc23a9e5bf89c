import Hatohol.TriggersQueryOption

/-!
# The table of triggers

How triggers are read, stored and deleted, and the two ways in which they are synchronised with
what a monitoring server reports (server/src/DBTablesMonitoring.cc:2113-2524). The queries that
`updateTrigger` and `syncTriggers` make have no order, limit or offset.
-/

namespace Hatohol

open Sql DBTermCodec Table

inductive HatoholErrorCode where
  | ok
  | invalidParameter
  | deleteIncomplete
  deriving DecidableEq, Repr

/-- The unique index TrigUniqId (DBTablesMonitoring.cc:235-242). -/
def TriggerInfo.key (trig : TriggerInfo) : ServerIdType × TriggerIdType := (trig.serverId, trig.id)

structure TriggersTable where
  rows : List TriggerInfo
  unique : (rows.map TriggerInfo.key).Nodup

namespace TriggersTable

/-- (DBTablesMonitoring.cc:2168-2233) The host groups are joined by the global ID of the host; the
    host that is joined besides is not named in any condition. -/
def getTriggerInfoList (t : TriggersTable) (members : List HostgroupMember)
    (option : TriggersQueryOption) : Except HatoholException (List TriggerInfo) := do
  let option := option.setTableNameAlways
  let condition ← option.getCondition
  pure (if isAlwaysFalseCondition condition then []
    else if option.base.isHostgroupUsed then
      t.rows.filter fun trig => members.any fun member =>
        trig.globalHostId == member.hostId && selects condition (trig.value (some member))
    else t.rows.filter fun trig => selects condition (trig.value none))

/-! ## Storing and deleting -/

/-- (DBTablesMonitoring.cc:3823-3841) -/
def addTriggerInfo (t : TriggersTable) (triggerInfo : TriggerInfo) : TriggersTable where
  rows := put TriggerInfo.key t.rows triggerInfo
  unique := nodup_put t.unique triggerInfo

/-- (DBTablesMonitoring.cc:2136-2151) -/
def addTriggerInfoList (t : TriggersTable) (triggerInfoList : List TriggerInfo) : TriggersTable :=
  triggerInfoList.foldl addTriggerInfo t

/-- (DBTablesMonitoring.cc:2376-2408) -/
def makeConditionForDeleteTrigger (idList : List TriggerIdType) (serverId : ServerIdType) :
    String :=
  makeListCondition (triggersColumnName idxTriggersId) idList ++ " AND " ++
    triggersColumnName idxTriggersServerId ++ "=" ++ toString serverId

/-- `DELETE`, with the number of rows that are deleted. -/
def deleteRows (t : TriggersTable) (condition : String) : TriggersTable × Nat :=
  ({ rows := t.rows.filter fun trig => !selects condition (trig.value none)
     unique := t.unique.sublist (List.filter_sublist.map _) },
    t.rows.countP fun trig => selects condition (trig.value none))

/-- (DBTablesMonitoring.cc:2410-2441) -/
def deleteTriggerInfo (t : TriggersTable) (idList : List TriggerIdType) (serverId : ServerIdType) :
    HatoholErrorCode × TriggersTable :=
  if idList = [] then (.invalidParameter, t)
  else
    let (t, numAffectedRows) := t.deleteRows (makeConditionForDeleteTrigger idList serverId)
    (if numAffectedRows ≠ idList.length then .deleteIncomplete else .ok, t)

/-! ## Synchronisation -/

/-- The loop of `updateTrigger`: a trigger that is stored is taken out of the map in any case, and
    is to be updated unless it is valid. -/
def updateTriggerLoop : List TriggerInfo → Std.TreeMap TriggerIdType TriggerInfo →
    List TriggerInfo × Std.TreeMap TriggerIdType TriggerInfo
  | [], triggerMap => ([], triggerMap)
  | newTriggerInfo :: rest, triggerMap =>
      match triggerMap[newTriggerInfo.id]? with
      | some currTrigger =>
          let (updateTriggerList, left) := updateTriggerLoop rest
            (triggerMap.erase newTriggerInfo.id)
          (if currTrigger.validity = .valid then updateTriggerList
            else newTriggerInfo :: updateTriggerList, left)
      | none =>
          let (updateTriggerList, left) := updateTriggerLoop rest triggerMap
          (newTriggerInfo :: updateTriggerList, left)

/-- The query of `updateTrigger`. -/
def updateOption (servers : ServerIdSet) (serverId : ServerIdType) : TriggersQueryOption :=
  let option := TriggersQueryOption.new (systemContext servers)
  { option with
    base := { option.base with targetServerId := serverId }
    excludeFlags := excludeSelfMonitoring }

/-- (DBTablesMonitoring.cc:2333-2374) -/
def updateTrigger (t : TriggersTable) (members : List HostgroupMember) (servers : ServerIdSet)
    (triggerInfoList : List TriggerInfo) (serverId : ServerIdType) :
    Except HatoholException TriggersTable := do
  let currTrigger ← t.getTriggerInfoList members (updateOption servers serverId)
  let (updateTriggerList, left) :=
    updateTriggerLoop triggerInfoList (mapOf TriggerInfo.id currTrigger)
  pure (t.addTriggerInfoList
    (updateTriggerList ++ (values left).map fun trig => { trig with validity := .invalid }))

/-- What `isTriggerDescriptionChanged` compares (DBTablesMonitoring.cc:2443-2480). -/
def isTriggerDescriptionChanged (trigger current : TriggerInfo) : Bool :=
  current.status != trigger.status || current.severity != trigger.severity ||
  (current.lastChangeTime.sec != trigger.lastChangeTime.sec ||
    current.lastChangeTime.nsec != trigger.lastChangeTime.nsec) ||
  current.globalHostId != trigger.globalHostId ||
  current.hostIdInServer != trigger.hostIdInServer || current.hostName != trigger.hostName ||
  current.brief != trigger.brief || current.extendedInfo != trigger.extendedInfo ||
  current.validity != trigger.validity

/-- The query of `syncTriggers`. -/
def syncOption (servers : ServerIdSet) (serverId : ServerIdType) : TriggersQueryOption :=
  let option := TriggersQueryOption.new (systemContext servers)
  { option with base := { option.base with targetServerId := serverId } }

/-- The deletion in `syncTriggers`, which is left out if there is nothing to delete. -/
def deleteInvalidTriggers (t : TriggersTable) (invalidTriggerIdList : List TriggerIdType)
    (serverId : ServerIdType) : HatoholErrorCode × TriggersTable :=
  if invalidTriggerIdList.length > 0 then t.deleteTriggerInfo invalidTriggerIdList serverId
  else (.ok, t)

/-- (DBTablesMonitoring.cc:2482-2524) -/
def syncTriggers (t : TriggersTable) (members : List HostgroupMember) (servers : ServerIdSet)
    (incomingTriggerInfoList : List TriggerInfo) (serverId : ServerIdType) :
    Except HatoholException (HatoholErrorCode × TriggersTable) := do
  let currTriggers ← t.getTriggerInfoList members (syncOption servers serverId)
  let (serverTriggers, invalidTriggerMap) :=
    reconcile TriggerInfo.id isTriggerDescriptionChanged incomingTriggerInfoList
      (mapOf TriggerInfo.id currTriggers)
  let (err, t) := t.deleteInvalidTriggers ((values invalidTriggerMap).map TriggerInfo.id) serverId
  pure (err, if serverTriggers.length > 0 then t.addTriggerInfoList serverTriggers else t)

end TriggersTable

end Hatohol

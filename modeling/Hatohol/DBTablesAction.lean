import Hatohol.HostResourceQueryOption

/-!
# The tables of actions and of action logs

How actions are read, changed and deleted, who may do so, and what is logged of their execution
(server/src/DBTablesAction.cc:428-860, 1055-1126, 1163-1474). The queries that are made here have no
order, limit or offset. A column that may be NULL is an `Option`; it is NULL where the condition of
an action is not enabled.
-/

namespace Hatohol

open Sql DBTermCodec

abbrev UserIdType := Int

abbrev ActionIdType := Int

abbrev IncidentTrackerIdType := Int

def invalidUserId : UserIdType := -1

def userIdSystem : UserIdType := 0

/-- The first two stand for several types in a query. -/
inductive ActionType where
  | userDefined
  | all
  | command
  | resident
  | incidentSender
  deriving DecidableEq, Repr

def ActionType.value : ActionType → Int
  | userDefined => -2
  | all => -1
  | command => 0
  | resident => 1
  | incidentSender => 2

inductive ComparisonType where
  | invalid
  | eq
  | eqGt
  deriving DecidableEq, Repr

def ComparisonType.value : ComparisonType → Int
  | invalid => 0
  | eq => 1
  | eqGt => 2

/-- `triggerSeverityCompType` is NULL with the severity. -/
structure ActionCondition where
  serverId : Option ServerIdType
  hostIdInServer : Option LocalHostIdType
  hostgroupId : Option HostgroupIdType
  triggerId : Option CString
  triggerStatus : Option Int
  triggerSeverity : Option (Int × ComparisonType)
  deriving DecidableEq, Repr

structure ActionDef where
  id : ActionIdType
  condition : ActionCondition
  type : ActionType
  workingDir : CString
  command : CString
  timeout : Int
  ownerUserId : UserIdType
  deriving DecidableEq, Repr

/-- What the query for the actions of an event reads of it. -/
structure EventInfo where
  serverId : ServerIdType
  id : CString
  time : Timespec
  hostIdInServer : LocalHostIdType
  triggerId : CString
  status : Int
  severity : Int
  deriving DecidableEq, Repr

namespace ActionDef

def value (actionDef : ActionDef) : String → Value
  | "action_id" => .int actionDef.id
  | "server_id" => actionDef.condition.serverId.elim .null .int
  | "host_id_in_server" => actionDef.condition.hostIdInServer.elim .null (.str ·.text)
  | "host_group_id" => actionDef.condition.hostgroupId.elim .null (.str ·.text)
  | "trigger_id" => actionDef.condition.triggerId.elim .null (.str ·.text)
  | "trigger_status" => actionDef.condition.triggerStatus.elim .null .int
  | "trigger_severity" => actionDef.condition.triggerSeverity.elim .null (.int ·.1)
  | "trigger_severity_comp_type" =>
      actionDef.condition.triggerSeverity.elim .null (.int ·.2.value)
  | "action_type" => .int actionDef.type.value
  | "command" => .str actionDef.command.text
  | "working_dir" => .str actionDef.workingDir.text
  | "timeout" => .int actionDef.timeout
  | "owner_user_id" => .int actionDef.ownerUserId
  | _ => .null

/-- `isspace` in the C locale. -/
def isSpace (c : Char) : Bool := c == ' ' || ('\t' ≤ c && c ≤ '\r')

/-- `sscanf` with `%d`: white space, a sign and digits, of which there must be one. The number is
    read as a `long`, which stops at its bounds, and stored as an `int`. -/
def scanInt (s : String) : Option Int :=
  let (negative, cs) := match s.toList.dropWhile isSpace with
    | '-' :: cs => (true, cs)
    | '+' :: cs => (false, cs)
    | cs => (false, cs)
  let digits := cs.takeWhile Char.isDigit
  if digits = [] then none
  else
    let n : Int := digitsFrom 0 digits
    let long := if negative then max (-n) (-2 ^ 63) else min n (2 ^ 63 - 1)
    some (long.bmod (2 ^ 32))

/-- (DBTablesAction.cc:1411-1415) -/
def parseIncidentSenderCommand (actionDef : ActionDef) : Option IncidentTrackerIdType :=
  scanInt actionDef.command.text

end ActionDef

/-! ## Valid actions -/

/-- The users and the incident trackers that are set up. -/
structure ActionValidator where
  userIdSet : Std.TreeSet UserIdType
  incidentTrackerIdSet : Std.TreeSet IncidentTrackerIdType

namespace ActionValidator

/-- (DBTablesAction.cc:1421-1434) -/
def isValidActionOwnerId (validator : ActionValidator) (id : UserIdType) : Bool :=
  validator.userIdSet.contains id || id == userIdSystem

/-- (DBTablesAction.cc:1455-1462) -/
def isValidIncidentTracker (validator : ActionValidator) (actionDef : ActionDef) : Bool :=
  match actionDef.parseIncidentSenderCommand with
  | none => false
  | some trackerId => validator.incidentTrackerIdSet.contains trackerId

/-- (DBTablesAction.cc:1464-1474) -/
def isValid (validator : ActionValidator) (actionDef : ActionDef) : Bool :=
  validator.isValidActionOwnerId actionDef.ownerUserId &&
    (actionDef.type != .incidentSender || validator.isValidIncidentTracker actionDef)

end ActionValidator

/-! ## Conditions -/

/-- (DBTablesAction.cc:602-618) -/
def makeIdListCondition (idList : List ActionIdType) : String :=
  "action_id" ++ " in (" ++ commaSeparated (idList.map encInt) ++ ")"

/-- (DBTablesAction.cc:620-626) -/
def makeOwnerCondition (userId : UserIdType) : String := "owner_user_id" ++ "=" ++ encInt userId

/-- (DBTablesAction.cc:628-639) -/
def makeUserActionsCondition (ownerCondition : String) : String :=
  if ownerCondition = "" then
    "(" ++ ("action_type" ++ ">=" ++ encInt 0 ++ " AND " ++
      ("action_type" ++ "<" ++ encInt ActionType.incidentSender.value)) ++ ")"
  else
    "(" ++ (ownerCondition ++ " AND " ++ ("action_type" ++ ">=" ++ encInt 0 ++ " AND " ++
      ("action_type" ++ "<" ++ encInt ActionType.incidentSender.value))) ++ ")"

def makeTypeCondition (type : ActionType) : String := "action_type" ++ "=" ++ encInt type.value

/-- (DBTablesAction.cc:641-662) -/
def makeConditionForDeleteActions (idList : List ActionIdType) (userId : UserIdType)
    (privilege : OperationPrivilege) : String :=
  let condition := makeIdListCondition idList
  if privilege.has .deleteAllAction then condition
  else
    let userActions := makeUserActionsCondition (makeOwnerCondition userId)
    let allowed :=
      if privilege.has .deleteIncidentSetting then
        userActions ++ " OR " ++ makeTypeCondition .incidentSender
      else userActions
    condition ++ " AND " ++ ("(" ++ allowed ++ ")")

structure ActionsQueryOption where
  userId : UserIdType
  privilege : OperationPrivilege
  eventInfo : Option EventInfo
  type : ActionType
  idList : List ActionIdType

namespace ActionsQueryOption

/-- The option of USER_ID_SYSTEM, who has all privileges. -/
def system : ActionsQueryOption where
  userId := userIdSystem
  privilege := .allPrivileges
  eventInfo := none
  type := .userDefined
  idList := []

/-- (DBTablesAction.cc:1295-1339) -/
def getActionTypeAndOwnerCondition (option : ActionsQueryOption) : String :=
  let ownerCondition :=
    if option.privilege.has .getAllAction then "" else makeOwnerCondition option.userId
  match option.type with
  | .all =>
      if option.privilege.has .getAllIncidentSettings then
        if ownerCondition = "" then ""
        else "(" ++ (makeUserActionsCondition ownerCondition ++ " OR " ++
          makeTypeCondition .incidentSender) ++ ")"
      else makeUserActionsCondition ownerCondition
  | .userDefined => makeUserActionsCondition ownerCondition
  | .incidentSender =>
      if option.privilege.has .getAllIncidentSettings then makeTypeCondition .incidentSender
      else alwaysFalseCondition
  | type =>
      if ownerCondition = "" then makeTypeCondition type
      else "(" ++ (ownerCondition ++ " AND " ++ makeTypeCondition type) ++ ")"

/-- A column that is NULL or compares with a value. -/
def nullOr (column comparison : String) : String :=
  "((" ++ column ++ " IS NULL) OR " ++ comparison ++ ")"

/-- (DBTablesAction.cc:1188-1243, 1363-1386) The condition template with the values of the event. A
    host without host groups is looked up in a list that has the text of the condition that is
    always false. -/
def makeEventCondition (eventInfo : EventInfo) (hostgroupIdList : List HostgroupIdType) : String :=
  let hostgroups :=
    if hostgroupIdList = [] then encString (.ofString alwaysFalseCondition)
    else commaSeparated (hostgroupIdList.map encString)
  nullOr "server_id" ("(server_id=" ++ encInt eventInfo.serverId ++ ")") ++ " AND " ++
  nullOr "host_id_in_server"
    ("(host_id_in_server=" ++ encString eventInfo.hostIdInServer ++ ")") ++ " AND " ++
  nullOr "host_group_id" ("host_group_id IN (" ++ hostgroups ++ ")") ++ " AND " ++
  nullOr "trigger_id" ("(trigger_id=" ++ encString eventInfo.triggerId ++ ")") ++ " AND " ++
  nullOr "trigger_status" ("(trigger_status=" ++ encInt eventInfo.status ++ ")") ++ " AND " ++
  nullOr "trigger_severity"
    ("(trigger_severity_comp_type=" ++ encInt ComparisonType.eq.value ++
      " AND trigger_severity=" ++ encInt eventInfo.severity ++
      ") OR (trigger_severity_comp_type=" ++ encInt ComparisonType.eqGt.value ++
      " AND trigger_severity<=" ++ encInt eventInfo.severity ++ ")")

/-- (DBTablesAction.cc:1341-1387) `hostgroupIdList` is what `getHostgroupIdList` reads for the host of
    the event. -/
def getCondition (option : ActionsQueryOption) (hostgroupIdList : List HostgroupIdType) : String :=
  let cond := option.getActionTypeAndOwnerCondition
  let cond := if option.idList = [] then cond else addAnd cond (makeIdListCondition option.idList)
  match option.eventInfo with
  | none => cond
  | some eventInfo => addAnd cond (makeEventCondition eventInfo hostgroupIdList)

end ActionsQueryOption

/-! ## The table -/

inductive ActionError where
  | ok
  | invalidUser
  | noPrivilege
  | invalidParameter
  | deleteIncomplete
  deriving DecidableEq, Repr

/-- The IDs are numbered from 1 by the database. -/
structure ActionsTable where
  rows : List ActionDef
  unique : (rows.map ActionDef.id).Nodup
  positive : ∀ id ∈ rows.map ActionDef.id, 0 < id

/-- (DBTablesAction.cc:1108-1126) -/
def checkPrivilegeForUpdate (userId : UserIdType) (privilege : OperationPrivilege)
    (actionDef : ActionDef) : ActionError :=
  if userId = invalidUserId then .invalidUser
  else if actionDef.type = .incidentSender then
    if privilege.has .updateIncidentSetting then .ok else .noPrivilege
  else if !privilege.has .updateAction then .noPrivilege
  else .ok

/-- The owner is the caller, or anyone if the system calls. An incident sender is the system's. -/
def ActionDef.setOwner (actionDef : ActionDef) (userId : UserIdType) : ActionDef :=
  let ownerUserId := if userId = userIdSystem then actionDef.ownerUserId else userId
  let ownerUserId := if actionDef.type = .incidentSender then userIdSystem else ownerUserId
  { actionDef with ownerUserId := ownerUserId }

namespace ActionsTable

/-- (DBTablesAction.cc:520-600) -/
def getActionList (t : ActionsTable) (validator : ActionValidator) (option : ActionsQueryOption)
    (hostgroupIdList : List HostgroupIdType) : List ActionDef :=
  let condition := option.getCondition hostgroupIdList
  (t.rows.filter fun actionDef => selects condition actionDef.value).filter validator.isValid

/-- What an `UPDATE` of all columns but the ID makes of a row. -/
def updated (condition : String) (new actionDef : ActionDef) : ActionDef :=
  if selects condition actionDef.value then { new with id := actionDef.id } else actionDef

theorem map_id_updated (condition : String) (new : ActionDef) (rows : List ActionDef) :
    (rows.map (updated condition new)).map ActionDef.id = rows.map ActionDef.id := by
  rw [List.map_map]
  apply List.map_congr_left
  intro actionDef _
  rw [Function.comp_apply, updated]
  split <;> rfl

def updateRows (t : ActionsTable) (condition : String) (new : ActionDef) : ActionsTable where
  rows := t.rows.map (updated condition new)
  unique := (map_id_updated condition new t.rows).symm ▸ t.unique
  positive := (map_id_updated condition new t.rows).symm ▸ t.positive

/-- (DBTablesAction.cc:471-518) -/
def updateAction (t : ActionsTable) (actionDef : ActionDef) (userId : UserIdType)
    (privilege : OperationPrivilege) : ActionError × ActionsTable :=
  let err := checkPrivilegeForUpdate userId privilege actionDef
  if err ≠ .ok then (err, t)
  else
    let condition := "action_id" ++ "=" ++ encInt actionDef.id
    (.ok, t.updateRows condition (actionDef.setOwner userId))

/-- (DBTablesAction.cc:1075-1104) -/
def checkPrivilegeForDelete (t : ActionsTable) (validator : ActionValidator) (userId : UserIdType)
    (privilege : OperationPrivilege) (idList : List ActionIdType) : ActionError :=
  if userId = invalidUserId then .invalidUser
  else
    let option := { ActionsQueryOption.system with idList := idList, type := .incidentSender }
    let incidentSenderList := t.getActionList validator option []
    let canDeleteIncidentSender := privilege.has .deleteIncidentSetting
    if !canDeleteIncidentSender && !incidentSenderList.isEmpty then .noPrivilege
    else if canDeleteIncidentSender && idList.length == incidentSenderList.length then .ok
    else if privilege.has .deleteAllAction then .ok
    else if !privilege.has .deleteAction then .noPrivilege
    else .ok

/-- `DELETE`, with the number of rows that are deleted. -/
def deleteRows (t : ActionsTable) (condition : String) : ActionsTable × Nat :=
  ({ rows := t.rows.filter fun actionDef => !selects condition actionDef.value
     unique := t.unique.sublist (List.filter_sublist.map _)
     positive := fun id hid => t.positive id ((List.filter_sublist.map _).subset hid) },
    t.rows.countP fun actionDef => selects condition actionDef.value)

/-- (DBTablesAction.cc:664-703) -/
def deleteActions (t : ActionsTable) (validator : ActionValidator) (idList : List ActionIdType)
    (userId : UserIdType) (privilege : OperationPrivilege) : ActionError × ActionsTable :=
  let err := t.checkPrivilegeForDelete validator userId privilege idList
  if err ≠ .ok then (err, t)
  else if idList = [] then (.invalidParameter, t)
  else
    let (t, numAffectedRows) := t.deleteRows (makeConditionForDeleteActions idList userId privilege)
    (if numAffectedRows ≠ idList.length then .deleteIncomplete else .ok, t)

end ActionsTable

/-! ## Action logs -/

abbrev EventIdType := CString

abbrev ActionLogIdType := Nat

inductive ActionLogStatus where
  | invalid
  | queuing
  | started
  | succeeded
  | failed
  | launchingResident
  | residentQueuing
  | aborted
  deriving DecidableEq, Repr

inductive ActionLogExecFailureCode where
  | none
  | execFailure
  | entryNotFound
  | modFailDlopen
  | modNotFoundSymbol
  | modVerInvalid
  | modInitFailure
  | modNotFoundNotifyEvent
  | modUnknownReason
  | killedTimeout
  | pipeReadDataUnexpected
  | pipeReadErr
  | pipeWriteErr
  | killedSignal
  | dumpedSignal
  | unexpectedExit
  deriving DecidableEq, Repr

/-- The times are not read by anything here. -/
structure ActionLog where
  id : ActionLogIdType
  actionId : ActionIdType
  status : ActionLogStatus
  failureCode : ActionLogExecFailureCode
  exitCode : Option Int
  serverId : ServerIdType
  eventId : EventIdType
  deriving DecidableEq, Repr

/-- The columns that conditions name. -/
def ActionLog.value (log : ActionLog) : String → Value
  | "action_log_id" => .int log.id
  | "action_id" => .int log.actionId
  | "status" => .int log.status.ctorIdx
  | "exec_failure_code" => .int log.failureCode.ctorIdx
  | "exit_code" => log.exitCode.elim .null .int
  | "server_id" => .int log.serverId
  | "event_id" => .str log.eventId.text
  | _ => .null

/-- `nextId` is the ID that the database gives to the next log. -/
structure ActionLogsTable where
  rows : List ActionLog
  nextId : ActionLogIdType
  fresh : ∀ log ∈ rows, log.id < nextId

namespace ActionLogsTable

theorem fresh_append {rows : List ActionLog} {nextId : ActionLogIdType}
    (hfresh : ∀ log ∈ rows, log.id < nextId) {log : ActionLog} (hid : log.id = nextId) :
    ∀ log' ∈ rows ++ [log], log'.id < nextId + 1 := by
  intro log' hmem
  rcases List.mem_append.mp hmem with hmem | hmem
  · exact Nat.lt_succ_of_lt (hfresh log' hmem)
  · rw [List.mem_singleton.mp hmem, hid]
    exact Nat.lt_succ_self nextId

/-- (DBTablesAction.cc:742-786) -/
def createActionLog (t : ActionLogsTable) (actionDef : ActionDef) (eventInfo : EventInfo)
    (failureCode : ActionLogExecFailureCode) (initialStatus : ActionLogStatus) :
    ActionLogIdType × ActionLogsTable :=
  let log : ActionLog :=
    { id := t.nextId
      actionId := actionDef.id
      status := if failureCode = .none then initialStatus else .failed
      failureCode := failureCode
      exitCode := none
      serverId := eventInfo.serverId
      eventId := eventInfo.id }
  (t.nextId,
    { rows := t.rows ++ [log]
      nextId := t.nextId + 1
      fresh := fresh_append t.fresh rfl })

/-- (DBTablesAction.cc:848-860, 964-985) Whether there is a log of the event. -/
def getLog (t : ActionLogsTable) (serverId : ServerIdType) (eventId : EventIdType) : Bool :=
  let condition := "server_id" ++ "=" ++ encInt serverId ++ " AND " ++ "event_id" ++ "=" ++
    encString eventId
  t.rows.any fun log => selects condition log.value

end ActionLogsTable

end Hatohol

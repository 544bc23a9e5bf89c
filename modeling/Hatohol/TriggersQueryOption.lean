import Hatohol.EventsQueryOption
import Hatohol.DBTablesHost

/-!
# TriggersQueryOption

The condition of a query for triggers (server/src/DBTablesMonitoring.cc:1450-1745): the condition
of the host resource query and behind it the filters of the option's own.
-/

namespace Hatohol

open Sql DBTermCodec

abbrev TriggerIdType := CString

inductive TriggerValidity where
  | invalid
  | valid
  | validSelfMonitoring
  deriving DecidableEq, Repr

def TriggerValidity.value : TriggerValidity → Int
  | .invalid => 0
  | .valid => 1
  | .validSelfMonitoring => 2

/-- Statuses and severities are stored as the numbers that come in. -/
structure TriggerInfo where
  serverId : ServerIdType
  id : TriggerIdType
  status : Int
  severity : Int
  lastChangeTime : Timespec
  globalHostId : HostIdType
  hostIdInServer : LocalHostIdType
  hostName : CString
  brief : CString
  extendedInfo : CString
  validity : TriggerValidity
  deriving DecidableEq, Repr

/-- The values of a row and of the host group that is joined to it, if there is one. -/
def TriggerInfo.value (trig : TriggerInfo) (member : Option HostgroupMember) : String → Value
  | "server_id" | "triggers.server_id" => .int trig.serverId
  | "id" | "triggers.id" => .str trig.id.text
  | "status" | "triggers.status" => .int trig.status
  | "severity" | "triggers.severity" => .int trig.severity
  | "last_change_time_sec" | "triggers.last_change_time_sec" => .int trig.lastChangeTime.sec
  | "last_change_time_ns" | "triggers.last_change_time_ns" => .int trig.lastChangeTime.nsec
  | "global_host_id" | "triggers.global_host_id" => .int trig.globalHostId
  | "host_id_in_server" | "triggers.host_id_in_server" => .str trig.hostIdInServer.text
  | "hostname" | "triggers.hostname" => .str trig.hostName.text
  | "brief" | "triggers.brief" => .str trig.brief.text
  | "extended_info" | "triggers.extended_info" => .str trig.extendedInfo.text
  | "validity" | "triggers.validity" => .int trig.validity.value
  | "hostgroup_member.host_group_id" => member.elim .null (.str ·.hostgroupIdInServer.text)
  | _ => .null

abbrev ExcludeFlags := BitVec 32

/-- NO_EXCLUDE_HOST -/
def noExcludeHost : ExcludeFlags := 0#32

def excludeSelfMonitoring : ExcludeFlags := 1#32

def excludeInvalidHost : ExcludeFlags := 2#32

/-! The columns of the triggers table that the filters name. -/

def idxTriggersId : Fin tableProfileTriggers.numColumns := ⟨1, by decide⟩

def idxTriggersStatus : Fin tableProfileTriggers.numColumns := ⟨2, by decide⟩

def idxTriggersSeverity : Fin tableProfileTriggers.numColumns := ⟨3, by decide⟩

def idxTriggersLastChangeTimeSec : Fin tableProfileTriggers.numColumns := ⟨4, by decide⟩

def idxTriggersLastChangeTimeNs : Fin tableProfileTriggers.numColumns := ⟨5, by decide⟩

def idxTriggersHostname : Fin tableProfileTriggers.numColumns := ⟨8, by decide⟩

def idxTriggersBrief : Fin tableProfileTriggers.numColumns := ⟨9, by decide⟩

def idxTriggersValidity : Fin tableProfileTriggers.numColumns := ⟨11, by decide⟩

/-- The name of a column without the table's, as `COLUMN_DEF_TRIGGERS` has it. -/
def triggersColumnName (idx : Fin tableProfileTriggers.numColumns) : String :=
  Column.columnName ⟨tableProfileTriggers, idx⟩

def triggersFullColumnName (idx : Fin tableProfileTriggers.numColumns) : String :=
  Column.getFullColumnName ⟨tableProfileTriggers, idx⟩

structure TriggersQueryOption where
  base : HostResourceQueryOption
  isTriggers : base.synapse = synapseTriggersQueryOption
  targetId : TriggerIdType
  minSeverity : Int
  triggerStatus : Int
  excludeFlags : ExcludeFlags
  beginTime : Timespec
  endTime : Timespec
  hostnameList : List CString
  triggerBrief : CString

namespace TriggersQueryOption

/-- The option as its constructor leaves it (DBTablesMonitoring.cc:1475-1487). -/
def new (context : DataQueryContext) : TriggersQueryOption where
  base := .new synapseTriggersQueryOption context
  isTriggers := rfl
  targetId := allTriggers
  minSeverity := triggerSeverityUnknown
  triggerStatus := triggerStatusAll
  excludeFlags := noExcludeHost
  beginTime := ⟨0, 0⟩
  endTime := ⟨0, 0⟩
  hostnameList := []
  triggerBrief := emptyText

/-- What the builder of a join does to the option, so that columns are named with their tables. -/
def setTableNameAlways (o : TriggersQueryOption) : TriggersQueryOption :=
  { o with base := { o.base with tableNameAlways := true } }

def shouldExcludeSelfMonitoring (o : TriggersQueryOption) : Bool :=
  o.excludeFlags &&& excludeSelfMonitoring != 0#32

def shouldExcludeInvalidHost (o : TriggersQueryOption) : Bool :=
  o.excludeFlags &&& excludeInvalidHost != 0#32

/-- (DBTablesMonitoring.cc:1731-1747) -/
def makeHostnameListCondition (o : TriggersQueryOption) : String :=
  makeListCondition (triggersColumnName idxTriggersHostname) o.hostnameList

def beginTimeCondition (o : TriggersQueryOption) : String :=
  let sec := triggersColumnName idxTriggersLastChangeTimeSec
  "(" ++ sec ++ ">" ++ toString o.beginTime.sec ++ " OR (" ++ sec ++ "=" ++
    toString o.beginTime.sec ++ " AND " ++ triggersColumnName idxTriggersLastChangeTimeNs ++ ">=" ++
    toString o.beginTime.nsec ++ "))"

/-- Triggers that have never changed are not before any time. -/
def endTimeCondition (o : TriggersQueryOption) : String :=
  let sec := triggersColumnName idxTriggersLastChangeTimeSec
  "((" ++ sec ++ "<" ++ toString o.endTime.sec ++ " OR (" ++ sec ++ "=" ++ toString o.endTime.sec ++
    " AND " ++ triggersColumnName idxTriggersLastChangeTimeNs ++ "<=" ++ toString o.endTime.nsec ++
    ")) AND (" ++ sec ++ " != 0))"

/-- The filter that leaves out the triggers with a validity. -/
def excludeValidity (validity : TriggerValidity) : String :=
  triggersFullColumnName idxTriggersValidity ++ "!=" ++ toString validity.value

/-- The filters of the option's own, in the order of the source
    (DBTablesMonitoring.cc:1532-1612). -/
def addOwnConditions (o : TriggersQueryOption) (condition : String) : String :=
  let condition := if o.shouldExcludeSelfMonitoring then
      addAnd condition (excludeValidity .validSelfMonitoring) else condition
  let condition := if o.shouldExcludeInvalidHost then
      addAnd condition (excludeValidity .invalid) else condition
  let condition := if o.targetId ≠ allTriggers then
      addAnd condition (triggersFullColumnName idxTriggersId ++ "=" ++ encString o.targetId)
    else condition
  let condition := if o.minSeverity ≠ triggerSeverityUnknown then
      addAnd condition (triggersFullColumnName idxTriggersSeverity ++ ">=" ++
        toString o.minSeverity)
    else condition
  let condition := if o.triggerStatus ≠ triggerStatusAll then
      addAnd condition (triggersFullColumnName idxTriggersStatus ++ "=" ++ toString o.triggerStatus)
    else condition
  let condition := if o.beginTime.sec ≠ 0 ∨ o.beginTime.nsec ≠ 0 then
      addAnd condition o.beginTimeCondition else condition
  let condition := if o.endTime.sec ≠ 0 ∨ o.endTime.nsec ≠ 0 then
      addAnd condition o.endTimeCondition else condition
  let condition := if o.hostnameList ≠ [] then addAnd condition o.makeHostnameListCondition
    else condition
  if o.triggerBrief ≠ emptyText then
    addAnd condition (triggersFullColumnName idxTriggersBrief ++ "=" ++ encString o.triggerBrief)
  else condition

/-- (DBTablesMonitoring.cc:1525-1614) -/
def getCondition (o : TriggersQueryOption) : Except HatoholException String := do
  let condition ← o.base.getCondition
  pure (if isAlwaysFalseCondition condition then condition else o.addOwnConditions condition)

end TriggersQueryOption

end Hatohol

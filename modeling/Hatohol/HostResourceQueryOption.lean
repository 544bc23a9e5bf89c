import Hatohol.DataQueryOption

/-!
# HostResourceQueryOption

The condition of a query for anything that belongs to a host (hosts, triggers, events, items,
host groups and their members), as server/src/HostResourceQueryOption.cc assembles it: the
servers that are set up, the servers and host groups the user may see, the targets of the query
and six sets of selected and excluded servers, host groups and hosts.
-/

namespace Hatohol

open Sql DBTermCodec

/-- The name of a table and the names of its columns (`DBAgent::TableProfile`). -/
structure TableProfile where
  name : String
  columnNames : List String
  isName_name : isName name
  isName_columns : ∀ c ∈ columnNames, isName c

def TableProfile.numColumns (p : TableProfile) : Nat := p.columnNames.length

/-- A column of a table. The index is below the number of columns, which is what
    `getColumnNameCommon` asserts. -/
structure Column where
  profile : TableProfile
  idx : Fin profile.numColumns

namespace Column

def columnName (c : Column) : String := c.profile.columnNames.get c.idx

def getFullColumnName (c : Column) : String := c.profile.name ++ "." ++ c.columnName

/-- The name that stands in a text, with or without the table's. -/
def nameIn (full : Bool) (c : Column) : String := if full then c.getFullColumnName else c.columnName

theorem isName_nameIn (full : Bool) (c : Column) : isName (c.nameIn full) := by
  have hcolumn : isName c.columnName := c.profile.isName_columns _ (List.get_mem _ _)
  cases full with
  | false => exact hcolumn
  | true => exact isName_qualified c.profile.isName_name hcolumn

end Column

/-- The tables and columns of a query (`HostResourceQueryOption::Synapse`). A column that is
    `none` has the index INVALID_COLUMN_IDX in the source. -/
structure Synapse where
  serverIdColumn : Column
  hostTableProfile : TableProfile
  hostIdColumnIdx : Option (Fin hostTableProfile.numColumns)
  needToJoinHostgroup : Bool
  hostgroupMapServerIdColumn : Column
  hostgroupMapHostIdColumn : Column
  /-- What `getHostgroupIdColumnName` names. HostgroupsQueryOption overrides it with a column
      of its own table; elsewhere it is the group's column of the membership table. -/
  hostgroupIdColumn : Column
  globalHostIdColumn : Option Column
  hostgroupMapGlobalHostIdColumn : Option Column
  server_ne_hostgroup : ∀ full, serverIdColumn.nameIn full ≠ hostgroupIdColumn.nameIn full
  host_ne : ∀ idx ∈ hostIdColumnIdx, ∀ full,
    Column.nameIn full ⟨hostTableProfile, idx⟩ ≠ serverIdColumn.nameIn full ∧
      Column.nameIn full ⟨hostTableProfile, idx⟩ ≠ hostgroupIdColumn.nameIn full

/-- A failed HATOHOL_ASSERT. -/
structure HatoholException where
  brief : String
  deriving DecidableEq, Repr

structure HostResourceQueryOption where
  synapse : Synapse
  context : DataQueryContext
  tableNameAlways : Bool
  targetServerId : ServerIdType
  targetHostId : LocalHostIdType
  targetHostgroupId : HostgroupIdType
  excludeDefunctServers : Bool
  selectedServerIdSet : ServerIdSet
  excludedServerIdSet : ServerIdSet
  selectedServerHostgroupSetMap : ServerHostGrpSetMap
  excludedServerHostgroupSetMap : ServerHostGrpSetMap
  selectedServerHostSetMap : ServerHostSetMap
  excludedServerHostSetMap : ServerHostSetMap

/-- The option as its constructor leaves it (HostResourceQueryOption.cc:84-93). -/
def HostResourceQueryOption.new (synapse : Synapse) (context : DataQueryContext) :
    HostResourceQueryOption where
  synapse := synapse
  context := context
  tableNameAlways := false
  targetServerId := allServers
  targetHostId := allLocalHosts
  targetHostgroupId := allHostGroups
  excludeDefunctServers := true
  selectedServerIdSet := ∅
  excludedServerIdSet := ∅
  selectedServerHostgroupSetMap := ∅
  excludedServerHostgroupSetMap := ∅
  selectedServerHostSetMap := ∅
  excludedServerHostSetMap := ∅

/-- `DBHatohol::getAlwaysFalseCondition` -/
def alwaysFalseCondition : String := "0"

def isAlwaysFalseCondition (condition : String) : Bool := condition == alwaysFalseCondition

namespace HostResourceQueryOption

def has (o : HostResourceQueryOption) (type : OperationPrivilegeType) : Bool :=
  o.context.privilege.has type

def getValidServerIdSet (o : HostResourceQueryOption) : ServerIdSet := o.context.validServerIdSet

def getAllowedServersAndHostgroups (o : HostResourceQueryOption) : ServerHostGrpSetMap :=
  o.context.serverHostGrpSetMap

/-- (HostResourceQueryOption.cc:815-832) -/
def isHostgroupEnumerationInCondition (o : HostResourceQueryOption) : Bool :=
  if o.has .getAllServer then false
  else o.getAllowedServersAndHostgroups.toList.any fun (serverId, hostgrpIdSet) =>
    serverId != allServers && !hostgrpIdSet.contains allHostGroups

/-- (HostResourceQueryOption.cc:216-227) -/
def isHostgroupUsed (o : HostResourceQueryOption) : Bool :=
  if !o.synapse.needToJoinHostgroup then false
  else if o.isHostgroupEnumerationInCondition then true
  else o.targetHostgroupId != allHostGroups || !o.selectedServerHostgroupSetMap.isEmpty ||
    !o.excludedServerHostgroupSetMap.isEmpty

/-- (HostResourceQueryOption.cc:797-813) -/
def getColumnNameCommon (o : HostResourceQueryOption) (c : Column) : String :=
  c.nameIn (o.tableNameAlways || o.isHostgroupUsed)

def getServerIdColumnName (o : HostResourceQueryOption) : String :=
  o.getColumnNameCommon o.synapse.serverIdColumn

def getHostgroupIdColumnName (o : HostResourceQueryOption) : String :=
  o.getColumnNameCommon o.synapse.hostgroupIdColumn

/-- The assertion fails where the query has no column for the host's ID. -/
def getHostIdColumnName (o : HostResourceQueryOption) : Except HatoholException String :=
  match o.synapse.hostIdColumnIdx with
  | some idx => .ok (o.getColumnNameCommon ⟨o.synapse.hostTableProfile, idx⟩)
  | none => .error ⟨"ASSERTION failed: [idx < tableProfile.numColumns] : idx: -1, numColumns: " ++
      toString o.synapse.hostTableProfile.numColumns ++ ", table: " ++
      o.synapse.hostTableProfile.name⟩

/-- (HostResourceQueryOption.cc:370-381) -/
def isAllowedServer (o : HostResourceQueryOption) (targetServerId : ServerIdType) : Bool :=
  if o.has .getAllServer then true
  else o.getAllowedServersAndHostgroups.contains allServers ||
    o.getAllowedServersAndHostgroups.contains targetServerId

/-- (HostResourceQueryOption.cc:383-399) Where the server has no entry the source reads through
    the map's end iterator; there is no result then. -/
def isAllowedHostgroup (o : HostResourceQueryOption) (targetServerId : ServerIdType)
    (_targetHostgroupId : HostgroupIdType) : Option Bool :=
  if o.has .getAllServer then some true
  else if o.getAllowedServersAndHostgroups.contains allServers then some true
  else if o.getAllowedServersAndHostgroups.contains targetServerId then some false
  else none

/-! ## Targets, valid servers and allowed servers -/

/-- (HostResourceQueryOption.cc:401-430) -/
def makeConditionTargetIds (o : HostResourceQueryOption) : Except HatoholException String := do
  let condition :=
    if o.targetServerId ≠ allServers then
      addAnd "" (o.getServerIdColumnName ++ "=" ++ encInt o.targetServerId)
    else ""
  let condition ←
    if o.targetHostId ≠ allLocalHosts then do
      let hostIdColumnName ← o.getHostIdColumnName
      pure (addAnd condition (hostIdColumnName ++ "=" ++ encString o.targetHostId))
    else pure condition
  let condition :=
    if o.targetHostgroupId ≠ allHostGroups then
      addAnd condition (o.getHostgroupIdColumnName ++ "=" ++ encString o.targetHostgroupId)
    else condition
  pure (if condition = "" then condition else "(" ++ condition ++ ")")

/-- The loop of `makeConditionHostgroup`: the items of the list with `commaCnt` commas still to
    be written, or nothing if all host groups are among them. -/
def hostgroupItems : List HostgroupIdType → Nat → String → Option String
  | [], _, hostGrps => some hostGrps
  | hostgroupId :: rest, commaCnt, hostGrps =>
      if hostgroupId = allHostGroups then none
      else
        hostgroupItems rest (commaCnt - 1)
          (hostGrps ++ encString hostgroupId ++ (if commaCnt ≠ 0 then "," else ""))

/-- (HostResourceQueryOption.cc:432-451) -/
def makeConditionHostgroup (hostgroupIdSet : HostgroupIdSet) (hostgroupIdColumnName : String) :
    String :=
  match hostgroupItems hostgroupIdSet.toList (hostgroupIdSet.size - 1) "" with
  | none => ""
  | some hostGrps => hostgroupIdColumnName ++ " IN (" ++ hostGrps ++ ")"

/-- (HostResourceQueryOption.cc:453-474) -/
def makeConditionServer (serverIdSet : ServerIdSet) (serverIdColumnName : String) : String :=
  if serverIdSet.isEmpty then alwaysFalseCondition
  else serverIdColumnName ++ " IN (" ++ commaSeparated (serverIdSet.toList.map encInt) ++ ")"

/-- The overload for one server and its host groups (HostResourceQueryOption.cc:476-503). -/
def makeConditionServerHostgroup (serverId : ServerIdType) (hostgroupIdSet : HostgroupIdSet)
    (serverIdColumnName hostgroupIdColumnName : String) (hostgroupId : HostgroupIdType) : String :=
  let condition := serverIdColumnName ++ "=" ++ encInt serverId
  let conditionHostgroup :=
    if hostgroupId = allHostGroups then
      makeConditionHostgroup hostgroupIdSet hostgroupIdColumnName
    else hostgroupIdColumnName ++ "=" ++ encString hostgroupId
  if conditionHostgroup ≠ "" then "(" ++ condition ++ " AND " ++ conditionHostgroup ++ ")"
  else condition

/-- The loop of `makeConditionAllowedHosts` over what is left of the map, with the condition and
    the number of servers so far. -/
def allowedHostsLoop (o : HostResourceQueryOption) :
    List (ServerIdType × HostgroupIdSet) → String → Nat → String
  | [], condition, numServers =>
      if numServers = 1 then condition else "(" ++ condition ++ ")"
  | (serverId, hostgroupIdSet) :: rest, condition, numServers =>
      if o.targetServerId ≠ allServers ∧ o.targetServerId ≠ serverId then
        o.allowedHostsLoop rest condition numServers
      else if serverId = allServers then ""
      else
        let conditionServer := makeConditionServerHostgroup serverId hostgroupIdSet
          o.getServerIdColumnName o.getHostgroupIdColumnName o.targetHostgroupId
        o.allowedHostsLoop rest (addOr condition conditionServer) (numServers + 1)

/-- The name of the host's column that `makeConditionAllowedHosts` asks for and does not use. -/
def unusedHostIdColumnName (o : HostResourceQueryOption) : Except HatoholException String :=
  if o.targetHostId ≠ allLocalHosts then o.getHostIdColumnName else .ok ""

/-- (HostResourceQueryOption.cc:505-564) -/
def makeConditionAllowedHosts (o : HostResourceQueryOption) : Except HatoholException String := do
  let _hostIdColumnName ← o.unusedHostIdColumnName
  let allowed := o.getAllowedServersAndHostgroups
  pure (if allowed.size = 0 then alwaysFalseCondition
    else if o.targetServerId ≠ allServers ∧ !o.isAllowedServer o.targetServerId then
      alwaysFalseCondition
    else o.allowedHostsLoop allowed.toList "" 0)

/-! ## Filters -/

/-- `makeConditionSelectedServers` and `makeConditionExcludedServers` differ in the operator and
    in the connective. -/
def makeConditionServers (o : HostResourceQueryOption) (serverIdSet : ServerIdSet) (op : String)
    (type : AddConditionType) : String :=
  if serverIdSet.isEmpty then ""
  else
    let condition := serverIdSet.toList.foldl (fun condition serverId =>
      if !o.isAllowedServer serverId then condition
      else addCondition condition (o.getServerIdColumnName ++ op ++ encInt serverId) type false) ""
    if serverIdSet.size > 1 then "(" ++ condition ++ ")" else condition

/-- (HostResourceQueryOption.cc:566-588) -/
def makeConditionSelectedServers (o : HostResourceQueryOption) : String :=
  o.makeConditionServers o.selectedServerIdSet "=" .or

/-- (HostResourceQueryOption.cc:590-611) -/
def makeConditionExcludedServers (o : HostResourceQueryOption) : String :=
  o.makeConditionServers o.excludedServerIdSet "<>" .and

/-- The loops of the four builders below: one term for each ID of each server the user may see,
    opened with `opening`, then parentheses if there is more than one server. -/
def makeConditionServerIdPairs (o : HostResourceQueryOption)
    (map : Std.TreeMap ServerIdType (Std.TreeSet CString))
    (isAllowedId : ServerIdType → CString → Bool) (idColumnName opening : String)
    (type : AddConditionType) : String :=
  let condition := map.toList.foldl (fun condition (serverId, ids) =>
    if !o.isAllowedServer serverId then condition
    else ids.toList.foldl (fun condition id =>
      if !isAllowedId serverId id then condition
      else addCondition condition
        (opening ++ o.getServerIdColumnName ++ "=" ++ encInt serverId ++ " AND " ++ idColumnName ++
          "=" ++ encString id ++ ")") type false) condition) ""
  if map.size > 1 then "(" ++ condition ++ ")" else condition

/-- (HostResourceQueryOption.cc:613-644) -/
def makeConditionSelectedHostgroups (o : HostResourceQueryOption) : String :=
  if o.selectedServerHostgroupSetMap.isEmpty then ""
  else o.makeConditionServerIdPairs o.selectedServerHostgroupSetMap
    (fun serverId hostgroupId => (o.isAllowedHostgroup serverId hostgroupId).getD false)
    o.getHostgroupIdColumnName "(" .or

/-- (HostResourceQueryOption.cc:646-676) -/
def makeConditionExcludedHostgroups (o : HostResourceQueryOption) : String :=
  if o.excludedServerHostgroupSetMap.isEmpty then ""
  else o.makeConditionServerIdPairs o.excludedServerHostgroupSetMap
    (fun serverId hostgroupId => (o.isAllowedHostgroup serverId hostgroupId).getD false)
    o.getHostgroupIdColumnName "NOT (" .and

/-- (HostResourceQueryOption.cc:678-707) -/
def makeConditionSelectedHosts (o : HostResourceQueryOption) : Except HatoholException String :=
  if o.selectedServerHostSetMap.isEmpty then pure ""
  else do
    let hostIdColumnName ← o.getHostIdColumnName
    pure (o.makeConditionServerIdPairs o.selectedServerHostSetMap (fun _ _ => true)
      hostIdColumnName "(" .or)

/-- (HostResourceQueryOption.cc:709-737) -/
def makeConditionExcludedHosts (o : HostResourceQueryOption) : Except HatoholException String :=
  if o.excludedServerHostSetMap.isEmpty then pure ""
  else do
    let hostIdColumnName ← o.getHostIdColumnName
    pure (o.makeConditionServerIdPairs o.excludedServerHostSetMap (fun _ _ => true)
      hostIdColumnName "NOT (" .and)

/-- One of the six steps of `makeConditionHostsFilter`. -/
def addFilter (type : AddConditionType) (acc : String × Nat) (nextCondition : String) :
    String × Nat :=
  (addCondition acc.1 nextCondition type false,
    if nextCondition ≠ "" then acc.2 + 1 else acc.2)

/-- (HostResourceQueryOption.cc:739-779) -/
def makeConditionHostsFilter (o : HostResourceQueryOption) : Except HatoholException String := do
  let acc := addFilter .or ("", 0) o.makeConditionSelectedServers
  let acc := addFilter .and acc o.makeConditionExcludedServers
  let acc := addFilter .or acc o.makeConditionSelectedHostgroups
  let acc := addFilter .and acc o.makeConditionExcludedHostgroups
  let acc := addFilter .or acc (← o.makeConditionSelectedHosts)
  let (condition, numFilters) := addFilter .and acc (← o.makeConditionExcludedHosts)
  pure (if numFilters > 1 then "(" ++ condition ++ ")" else condition)

/-! ## The condition -/

/-- The end of `getCondition`: what the caller specified. -/
def addCallersConditions (o : HostResourceQueryOption) (condition : String) :
    Except HatoholException String := do
  let condition := addAnd condition (← o.makeConditionTargetIds)
  pure (addAnd condition (← o.makeConditionHostsFilter))

/-- (HostResourceQueryOption.cc:145-172) -/
def getCondition (o : HostResourceQueryOption) : Except HatoholException String :=
  let condition :=
    if o.excludeDefunctServers then
      addAnd "" (makeConditionServer o.getValidServerIdSet o.getServerIdColumnName)
    else ""
  if o.has .getAllServer then o.addCallersConditions condition
  else do
    let allowedHostsCondition ← o.makeConditionAllowedHosts
    if isAlwaysFalseCondition allowedHostsCondition then pure allowedHostsCondition
    else o.addCallersConditions (addAnd condition allowedHostsCondition)

end HostResourceQueryOption

end Hatohol

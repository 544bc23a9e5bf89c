import Hatohol.Tables
import Hatohol.Table.Reconcile

/-!
# DBTablesHost

The tables of hosts (server/src/DBTablesHost.cc): how a host is stored (`upsertHost`), how the
hosts of a server are read and how they are synchronised with what a monitoring server reports.
A failed assertion leaves the tables as they are, because it ends the transaction.
-/

namespace Hatohol

open Sql DBTermCodec Table

/-- The ID of a host in `host_list`: an unsigned number of 64 bits. -/
abbrev HostIdType := Nat

/-- AUTO_ASSIGNED_ID, which is -5 as an unsigned number. -/
def autoAssignedId : HostIdType := 2 ^ 64 - 5

/-- AUTO_INCREMENT_VALUE -/
def autoIncrementValue : Nat := 0

inductive HostStatus where
  | all
  | normal
  | removed
  | selfMonitor
  | inapplicable
  deriving DecidableEq, Repr

def HostStatus.value : HostStatus → Int
  | .all => -1
  | .normal => 0
  | .removed => 1
  | .selfMonitor => 2
  | .inapplicable => 3

instance : Ord HostStatus := ⟨fun a b => compare a.value b.value⟩

structure ServerHostDef where
  id : Nat
  hostId : HostIdType
  serverId : ServerIdType
  hostIdInServer : LocalHostIdType
  name : CString
  status : HostStatus
  deriving DecidableEq, Repr

structure HostgroupMember where
  id : Nat
  serverId : ServerIdType
  hostIdInServer : LocalHostIdType
  hostgroupIdInServer : HostgroupIdType
  hostId : HostIdType
  deriving DecidableEq, Repr

/-- A row of `host_list`. -/
structure HostListRow where
  id : HostIdType
  name : CString
  deriving DecidableEq, Repr

/-- The values of a row and of the host group that is joined to it, if there is one. -/
def ServerHostDef.value (h : ServerHostDef) (member : Option HostgroupMember) : String → Value
  | "id" | "server_host_def.id" => .int h.id
  | "host_id" | "server_host_def.host_id" => .int h.hostId
  | "server_id" | "server_host_def.server_id" => .int h.serverId
  | "host_id_in_server" | "server_host_def.host_id_in_server" => .str h.hostIdInServer.text
  | "name" | "server_host_def.name" => .str h.name.text
  | "status" | "server_host_def.status" => .int h.status.value
  | "hostgroup_member.host_group_id" => member.elim .null (.str ·.hostgroupIdInServer.text)
  | _ => .null

def HostListRow.value (h : HostListRow) : String → Value
  | "id" => .int h.id
  | "name" => .str h.name.text
  | _ => .null

/-- The unique index HostServerDefIdx (DBTablesHost.cc:134-141). -/
def ServerHostDef.key (h : ServerHostDef) : ServerIdType × LocalHostIdType :=
  (h.serverId, h.hostIdInServer)

def serverHostDefSchema : Schema ServerHostDef (ServerIdType × LocalHostIdType) where
  id := ServerHostDef.id
  withId n h := { h with id := n }
  key := ServerHostDef.key
  id_withId _ _ := rfl
  key_withId _ _ := rfl

/-- A host has a name, unless it stands for the monitoring of a server itself. -/
def ServerHostDef.isNamed (h : ServerHostDef) : Prop := h.status ≠ .selfMonitor → h.name ≠ emptyText

instance (h : ServerHostDef) : Decidable h.isNamed := inferInstanceAs (Decidable (_ → _))

/-- The tables of hosts. Every host that is stored has passed the assertion of `upsertHost`. -/
structure HostTables where
  hostList : Counted HostListRow.id
  serverHostDef : AutoTable serverHostDefSchema
  hostgroupMember : List HostgroupMember
  named : ∀ h ∈ serverHostDef.rows, h.isNamed

def HostTables.empty : HostTables where
  hostList := .empty _
  serverHostDef := .empty _
  hostgroupMember := []
  named := by simp [AutoTable.empty, Counted.empty]

/-! ## HostsQueryOption -/

structure HostsQueryOption where
  base : HostResourceQueryOption
  isHosts : base.synapse = synapseHostsQueryOption
  statuses : Std.TreeSet HostStatus

namespace HostsQueryOption

/-- The option as its constructor leaves it (DBTablesHost.cc:400-413). -/
def new (context : DataQueryContext) : HostsQueryOption where
  base := .new synapseHostsQueryOption context
  isHosts := rfl
  statuses := {.all}

def statusColumnName : String := Column.columnName ⟨tableProfileServerHostDef,
    idxHostServerHostDefHostStatus⟩

/-- (DBTablesHost.cc:425-443) -/
def getCondition (o : HostsQueryOption) : Except HatoholException String := do
  let condition ← o.base.getCondition
  pure (if o.statuses.contains .all then condition
    else addAnd condition (statusColumnName ++ " IN (" ++
      commaSeparated (o.statuses.toList.map (encInt ·.value)) ++ ")"))

end HostsQueryOption

namespace HostTables

/-- (DBTablesHost.cc:1285-1345) With host groups the condition stands in a subquery over the groups
    of the host. -/
def getServerHostDefs (t : HostTables) (option : HostsQueryOption) :
    Except HatoholException (List ServerHostDef) := do
  let condition ← option.getCondition
  pure (if option.base.isHostgroupUsed then
      t.serverHostDef.rows.filter fun h => t.hostgroupMember.any fun member =>
        h.hostId == member.hostId && selects ("(" ++ condition ++ ")") (h.value (some member))
    else t.serverHostDef.rows.filter fun h => selects condition (h.value none))

/-! ## Storing a host -/

/-- (DBTablesHost.cc:602-609, 699-703) -/
def conditionSelectSvHostDef (h : ServerHostDef) : String :=
  Column.columnName ⟨tableProfileServerHostDef, idxHostServerHostDefServerId⟩ ++ "=" ++
    encInt h.serverId ++
    " AND " ++ Column.columnName ⟨tableProfileServerHostDef, idxHostServerHostDefHostIdInServer⟩ ++
      "=" ++
    encString h.hostIdInServer

/-- (DBTablesHost.cc:681-728) -/
def selectServerHostDef (t : HostTables) (h : ServerHostDef) : Option ServerHostDef :=
  (t.serverHostDef.rows.filter fun curr =>
    selects (conditionSelectSvHostDef h) (curr.value none)).head?

/-- (DBTablesHost.cc:730-744) -/
def isChanged (shd0 shd1 : ServerHostDef) : Bool := shd0.name != shd1.name || shd0.status != shd1.status

/-- (DBTablesHost.cc:785-794) -/
def hasHost (t : HostTables) (hostId : HostIdType) : Bool :=
  t.hostList.rows.any fun h => selects ("id=" ++ toString hostId) h.value

/-- (DBTablesHost.cc:746-761) -/
def addHost (t : HostTables) (hostId : HostIdType) (name : CString) : HostTables × HostIdType :=
  if hostId = autoAssignedId then
    ({ t with hostList := t.hostList.append ⟨t.hostList.next, name⟩ t.hostList.byId_next },
      t.hostList.next)
  else
    ({ t with hostList :=
        t.hostList.upsert (fun n h => { h with id := n }) (fun _ _ => rfl) ⟨hostId, name⟩ }, hostId)

/-- (DBTablesHost.cc:763-771) -/
def removeHost (t : HostTables) (hostId : HostIdType) : HostTables :=
  { t with hostList := t.hostList.keep fun h => !selects ("id=" ++ toString hostId) h.value }

/-- The insertion into `server_host_def` and the number of affected rows; there is no result
    where the insertion is an error. -/
def insertServerHostDef (t : HostTables) (h : ServerHostDef) (hname : h.isNamed) :
    Option (HostTables × Nat) :=
  match hupsert : t.serverHostDef.upsert h with
  | none => none
  | some (serverHostDef, affected) =>
      some ({ t with
        serverHostDef := serverHostDef
        named := by
          intro r hr
          rcases AutoTable.mem_rows_upsert hupsert hr with hr | ⟨n, rfl⟩
          · exact t.named r hr
          · exact hname }, affected)

/-- `lastUpsertDidUpdate` of the number of affected rows. -/
def lastUpsertDidUpdate (affected : Nat) : Bool := affected == 2

/-- The end of the transaction of `upsertHost` (DBTablesHost.cc:665-681). The last case is for
    another session that has stored the host in between. -/
def storeHost (t : HostTables) (h : ServerHostDef) (hname : h.isNamed) (hostId : HostIdType)
    (tookNewHostId : Bool) : Except HatoholException (HostTables × HostIdType) :=
  match t.insertServerHostDef { h with hostId := hostId } hname with
  | none => .error ⟨"Failed to query: INSERT INTO server_host_def"⟩
  | some (t, affected) =>
      if lastUpsertDidUpdate affected && tookNewHostId then
        let t := t.removeHost hostId
        match t.selectServerHostDef h with
        | none => .error ⟨"ASSERTION failed: [selectServerHostDef(dbAgent, currSvHostDef)] : " ++
            "Record is not found."⟩
        | some curr => .ok (t, curr.hostId)
      else .ok (t, hostId)

/-- (DBTablesHost.cc:611-800) -/
def upsertHost (t : HostTables) (h : ServerHostDef) :
    Except HatoholException (HostTables × HostIdType) :=
  if hname : h.isNamed then
    match t.selectServerHostDef h with
    | some curr =>
        if !isChanged h curr then .ok (t, curr.hostId)
        else if h.hostId ≠ autoAssignedId ∧ curr.hostId ≠ h.hostId then
          .error ⟨"ASSERTION failed: [currSvHostDef.hostId == serverHostDef.hostId] : " ++
            "Host ID inconsistent: DB: " ++ toString curr.hostId ++ ", Input: " ++
            toString h.hostId⟩
        else t.storeHost h hname curr.hostId false
    | none =>
        if h.hostId = autoAssignedId ∨ !t.hasHost h.hostId then
          let (t, hostId) := t.addHost h.hostId h.name
          t.storeHost h hname hostId true
        else t.storeHost h hname h.hostId false
  else .error ⟨"ASSERTION failed: [!serverHostDef.name.empty()] : Empty host name"⟩

abbrev HostHostIdMap := Std.TreeMap LocalHostIdType HostIdType

/-- (DBTablesHost.cc:802-821) -/
def upsertHosts : List ServerHostDef → HostTables → HostHostIdMap →
    Except HatoholException (HostTables × HostHostIdMap)
  | [], t, hostIds => .ok (t, hostIds)
  | h :: hs, t, hostIds => do
      let (t, hostId) ← t.upsertHost h
      upsertHosts hs t (hostIds.insert h.hostIdInServer hostId)

/-! ## Synchronisation -/

/-- What a plugin reports of a host: its ID in the monitoring server and its name. -/
structure HostReport where
  hostId : LocalHostIdType
  hostName : CString
  deriving DecidableEq, Repr

/-- The host that is made from a report (HatoholArmPluginGateHAPI2.cc:2023-2029). -/
def hostInfo (serverId : ServerIdType) (report : HostReport) : ServerHostDef where
  id := autoIncrementValue
  hostId := autoAssignedId
  serverId := serverId
  hostIdInServer := report.hostId
  name := report.hostName
  status := .normal

/-- What `isHostNameChanged` compares (DBTablesHost.cc:1352-1363). -/
def isHostNameChanged (newSvHostDef currHost : ServerHostDef) : Bool :=
  currHost.name != newSvHostDef.name

/-- The query of `syncHosts` for the hosts that are stored now. -/
def currHostsOption (servers : ServerIdSet) (serverId : ServerIdType) : HostsQueryOption where
  base := { HostResourceQueryOption.new synapseHostsQueryOption (systemContext servers) with
    targetServerId := serverId }
  isHosts := rfl
  statuses := {.normal}

/-- What `syncHosts` stores: the hosts that are new or have another name, and then the hosts that
    are left, as removed. -/
def hostsToUpsert (currHosts svHostDefs : List ServerHostDef) : List ServerHostDef :=
  let currValidHosts := mapOf ServerHostDef.hostIdInServer currHosts
  let (serverHostDefs, invalidHostMap) :=
    reconcile ServerHostDef.hostIdInServer isHostNameChanged svHostDefs currValidHosts
  serverHostDefs ++ (values invalidHostMap).map fun invalidHost => { invalidHost with status := .removed }

/-- What a synchronisation leaves: the tables, the host IDs that `upsertHosts` reports and the flag
    that `wasStoredHostsChanged` reads. -/
structure SyncedHosts where
  tables : HostTables
  hostIds : HostHostIdMap
  storedHostsChanged : Bool

/-- (DBTablesHost.cc:1380-1426) The servers that are set up are what the query for the stored hosts
    is restricted to. -/
def syncHosts (t : HostTables) (servers : ServerIdSet) (svHostDefs : List ServerHostDef)
    (serverId : ServerIdType) : Except HatoholException SyncedHosts := do
  let currHosts ← t.getServerHostDefs (currHostsOption servers serverId)
  let serverHostDefs := hostsToUpsert currHosts svHostDefs
  if serverHostDefs = [] then pure ⟨t, ∅, true⟩
  else do
    let (t, hostIds) ← upsertHosts serverHostDefs t ∅
    pure ⟨t, hostIds, false⟩

end HostTables

end Hatohol

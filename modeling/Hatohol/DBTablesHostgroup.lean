import Hatohol.DBTablesTriggers

/-!
# The tables of host groups

How host groups and their members are read, stored and deleted, and how they are synchronised with
what a monitoring server reports (server/src/DBTablesHost.cc:884-1137, 1428-1526).
-/

namespace Hatohol

open Sql DBTermCodec Table

structure Hostgroup where
  id : Nat
  serverId : ServerIdType
  idInServer : HostgroupIdType
  name : CString
  deriving DecidableEq, Repr

def Hostgroup.value (hostgroup : Hostgroup) : String → Value
  | "id" => .int hostgroup.id
  | "server_id" => .int hostgroup.serverId
  | "id_in_server" => .str hostgroup.idInServer.text
  | "name" => .str hostgroup.name.text
  | _ => .null

/-- The unique index HostgroupListUniqId (DBTablesHost.cc:281-290). -/
def Hostgroup.key (hostgroup : Hostgroup) : ServerIdType × HostgroupIdType :=
  (hostgroup.serverId, hostgroup.idInServer)

def hostgroupSchema : Schema Hostgroup (ServerIdType × HostgroupIdType) where
  id := Hostgroup.id
  withId n hostgroup := { hostgroup with id := n }
  key := Hostgroup.key
  id_withId _ _ := rfl
  key_withId _ _ := rfl

/-- The values of a row of the table by itself. -/
def HostgroupMember.value (member : HostgroupMember) : String → Value
  | "id" => .int member.id
  | "server_id" => .int member.serverId
  | "host_id_in_server" => .str member.hostIdInServer.text
  | "host_group_id" => .str member.hostgroupIdInServer.text
  | "host_id" => .int member.hostId
  | _ => .null

/-- The group and the host of a member. -/
def HostgroupMember.pair (member : HostgroupMember) : HostgroupIdType × LocalHostIdType :=
  (member.hostgroupIdInServer, member.hostIdInServer)

/-- The unique index HostsHostgroupUniqId (DBTablesHost.cc:342-353). -/
def HostgroupMember.key (member : HostgroupMember) :
    ServerIdType × HostgroupIdType × LocalHostIdType := (member.serverId, member.pair)

def hostgroupMemberSchema :
    Schema HostgroupMember (ServerIdType × HostgroupIdType × LocalHostIdType) where
  id := HostgroupMember.id
  withId n member := { member with id := n }
  key := HostgroupMember.key
  id_withId _ _ := rfl
  key_withId _ _ := rfl

structure HostgroupTables where
  hostgroupList : AutoTable hostgroupSchema
  hostgroupMember : AutoTable hostgroupMemberSchema

/-! ## Query options -/

structure HostgroupsQueryOption where
  base : HostResourceQueryOption
  isHostgroups : base.synapse = synapseHostgroupsQueryOption
  hostgroupName : CString

/-- (DBTablesHost.cc:507-519) -/
def HostgroupsQueryOption.getCondition (o : HostgroupsQueryOption) :
    Except HatoholException String := do
  let condition ← o.base.getCondition
  pure (if o.hostgroupName ≠ emptyText then
      addAnd condition ("name" ++ "=" ++ encString o.hostgroupName)
    else condition)

structure HostgroupMembersQueryOption where
  base : HostResourceQueryOption
  isMembers : base.synapse = synapseHostgroupMembersQueryOption

/-- `makeConditionForDelete` (DBTablesHost.cc:978-1000) The column is `id` in both tables. -/
def makeConditionForDelete (idList : List Nat) : String :=
  "id" ++ " in (" ++ commaSeparated (idList.map fun (id : Nat) => encInt id) ++ ")"

namespace HostgroupTables

/-! ## Host groups -/

/-- (DBTablesHost.cc:921-949) -/
def getHostgroups (t : HostgroupTables) (option : HostgroupsQueryOption) :
    Except HatoholException (List Hostgroup) := do
  let condition ← option.getCondition
  pure (t.hostgroupList.rows.filter fun hostgroup => selects condition hostgroup.value)

/-- (DBTablesHost.cc:884-905) -/
def upsertHostgroup (t : HostgroupTables) (hostgroup : Hostgroup) :
    Except HatoholException HostgroupTables :=
  match t.hostgroupList.upsert hostgroup with
  | none => .error ⟨"Failed to query: INSERT INTO hostgroup_list"⟩
  | some (hostgroupList, _) => .ok { t with hostgroupList := hostgroupList }

/-- (DBTablesHost.cc:907-919) -/
def upsertHostgroups (t : HostgroupTables) (hostgroups : List Hostgroup) :
    Except HatoholException HostgroupTables :=
  hostgroups.foldlM upsertHostgroup t

/-- (DBTablesHost.cc:1002-1034) -/
def deleteHostgroupList (t : HostgroupTables) (idList : List Nat) :
    HatoholErrorCode × HostgroupTables :=
  if idList = [] then (.invalidParameter, t)
  else
    let condition := makeConditionForDelete idList
    let numAffectedRows := t.hostgroupList.rows.countP fun row => selects condition row.value
    (if numAffectedRows ≠ idList.length then .deleteIncomplete else .ok,
      { t with hostgroupList := t.hostgroupList.keep fun row => !selects condition row.value })

/-- What `isHostgroupNameChanged` compares (DBTablesHost.cc:1428-1438). -/
def isHostgroupNameChanged (hostgroup current : Hostgroup) : Bool := current.name != hostgroup.name

/-- The query of `syncHostgroups`. -/
def hostgroupsOption (servers : ServerIdSet) (serverId : ServerIdType) : HostgroupsQueryOption where
  base := { HostResourceQueryOption.new synapseHostgroupsQueryOption (systemContext servers) with
    targetServerId := serverId }
  isHostgroups := rfl
  hostgroupName := emptyText

/-- What `syncHostgroups` is going to do: the IDs to be deleted and the host groups to be stored. -/
def syncHostgroupsPlan (t : HostgroupTables) (servers : ServerIdSet)
    (incomingHostgroups : List Hostgroup) (serverId : ServerIdType) :
    Except HatoholException (List Nat × List Hostgroup) := do
  let currHostgroups ← t.getHostgroups (hostgroupsOption servers serverId)
  let (serverHostgroups, invalidHostgroupMap) :=
    reconcile Hostgroup.idInServer isHostgroupNameChanged incomingHostgroups
      (mapOf Hostgroup.idInServer currHostgroups)
  pure ((values invalidHostgroupMap).map Hostgroup.id, serverHostgroups)

/-- (DBTablesHost.cc:1440-1481) -/
def syncHostgroups (t : HostgroupTables) (servers : ServerIdSet)
    (incomingHostgroups : List Hostgroup) (serverId : ServerIdType) :
    Except HatoholException (HatoholErrorCode × HostgroupTables) := do
  let (invalidHostgroupIdList, serverHostgroups) ←
    t.syncHostgroupsPlan servers incomingHostgroups serverId
  let (err, t) := if invalidHostgroupIdList.length > 0 then
    t.deleteHostgroupList invalidHostgroupIdList else (.ok, t)
  let t ← if serverHostgroups.length > 0 then t.upsertHostgroups serverHostgroups else pure t
  pure (err, t)

/-! ## Members -/

/-- (DBTablesHost.cc:1071-1101) -/
def getHostgroupMembers (t : HostgroupTables) (option : HostgroupMembersQueryOption) :
    Except HatoholException (List HostgroupMember) := do
  let condition ← option.base.getCondition
  pure (t.hostgroupMember.rows.filter fun member => selects condition member.value)

/-- (DBTablesHost.cc:1036-1054) -/
def upsertHostgroupMember (t : HostgroupTables) (member : HostgroupMember) :
    Except HatoholException HostgroupTables :=
  match t.hostgroupMember.upsert member with
  | none => .error ⟨"Failed to query: INSERT INTO hostgroup_member"⟩
  | some (hostgroupMember, _) => .ok { t with hostgroupMember := hostgroupMember }

/-- (DBTablesHost.cc:1056-1069) -/
def upsertHostgroupMembers (t : HostgroupTables) (members : List HostgroupMember) :
    Except HatoholException HostgroupTables :=
  members.foldlM upsertHostgroupMember t

/-- (DBTablesHost.cc:1103-1137) -/
def deleteHostgroupMemberList (t : HostgroupTables) (idList : List Nat) :
    HatoholErrorCode × HostgroupTables :=
  if idList = [] then (.invalidParameter, t)
  else
    let condition := makeConditionForDelete idList
    let numAffectedRows := t.hostgroupMember.rows.countP fun row => selects condition row.value
    (if numAffectedRows ≠ idList.length then .deleteIncomplete else .ok,
      { t with hostgroupMember := t.hostgroupMember.keep fun row => !selects condition row.value })

/-- The stored members by their groups and hosts. -/
abbrev HostgroupMapHostsMap :=
  Std.TreeMap HostgroupIdType (Std.TreeMap LocalHostIdType HostgroupMember)

def mapOfMembers (members : List HostgroupMember) : HostgroupMapHostsMap :=
  members.foldl (fun current member =>
    current.insert member.hostgroupIdInServer
      ((current.getD member.hostgroupIdInServer ∅).insert member.hostIdInServer member)) ∅

/-- The loop of `syncHostgroupMembers`: a member that is stored is taken out of the map, any other
    is to be stored. -/
def membersLoop : List HostgroupMember → HostgroupMapHostsMap →
    List HostgroupMember × HostgroupMapHostsMap
  | [], current => ([], current)
  | member :: members, current =>
      match current[member.hostgroupIdInServer]? with
      | some hosts =>
          if hosts.contains member.hostIdInServer then
            membersLoop members
              (current.insert member.hostgroupIdInServer (hosts.erase member.hostIdInServer))
          else
            let (serverHostgroupMembers, left) := membersLoop members current
            (member :: serverHostgroupMembers, left)
      | none =>
          let (serverHostgroupMembers, left) := membersLoop members current
          (member :: serverHostgroupMembers, left)

/-- The query of `syncHostgroupMembers`. -/
def membersOption (servers : ServerIdSet) (serverId : ServerIdType) :
    HostgroupMembersQueryOption where
  base := { HostResourceQueryOption.new synapseHostgroupMembersQueryOption
      (systemContext servers) with
    targetServerId := serverId }
  isMembers := rfl

/-- What `syncHostgroupMembers` is going to do: the IDs to be deleted and the members to be
    stored. -/
def syncHostgroupMembersPlan (t : HostgroupTables) (servers : ServerIdSet)
    (incomingHostgroupMembers : List HostgroupMember) (serverId : ServerIdType) :
    Except HatoholException (List Nat × List HostgroupMember) := do
  let currHostgroupMembers ← t.getHostgroupMembers (membersOption servers serverId)
  let (serverHostgroupMembers, invalidHostgroupMapHostsMap) :=
    membersLoop incomingHostgroupMembers (mapOfMembers currHostgroupMembers)
  pure ((values invalidHostgroupMapHostsMap).flatMap fun hosts =>
    (values hosts).map HostgroupMember.id, serverHostgroupMembers)

/-- (DBTablesHost.cc:1483-1526) The result is HTERR_OK also where the deletion is incomplete. -/
def syncHostgroupMembers (t : HostgroupTables) (servers : ServerIdSet)
    (incomingHostgroupMembers : List HostgroupMember) (serverId : ServerIdType) :
    Except HatoholException (HatoholErrorCode × HostgroupTables) := do
  let (invalidHostgroupMemberIdList, serverHostgroupMembers) ←
    t.syncHostgroupMembersPlan servers incomingHostgroupMembers serverId
  let t := if invalidHostgroupMemberIdList.length > 0 then
    (t.deleteHostgroupMemberList invalidHostgroupMemberIdList).2 else t
  let t ← if serverHostgroupMembers.length > 0 then
    t.upsertHostgroupMembers serverHostgroupMembers else pure t
  pure (.ok, t)

end HostgroupTables

end Hatohol

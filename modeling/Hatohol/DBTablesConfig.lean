import Hatohol.DBTablesHost
import Hatohol.DBTablesUser

/-!
# Monitoring servers and their plugins

How the servers are stored that are monitored, together with the settings of their plugins
(server/src/DBTablesConfig.cc:1120-1338, 2390-2592), through an agent that knows transactions
(server/src/DBAgent.cc:445-473). The two agents differ in what they make of a COMMIT where no
transaction is open.
-/

namespace Hatohol

open Sql DBTermCodec

/-! ## Servers and plugins -/

abbrev MonitoringSystemType := Int

namespace MonitoringSystemType

def unknown : MonitoringSystemType := -2

def fake : MonitoringSystemType := -1

def hapiJSON : MonitoringSystemType := 4

def incidentTracker : MonitoringSystemType := 5

def hapi2 : MonitoringSystemType := 7

/-- NUM_MONITORING_SYSTEMS -/
def num : MonitoringSystemType := 8

end MonitoringSystemType

abbrev ArmPluginIdType := Int

structure MonitoringServerInfo where
  id : ServerIdType
  type : MonitoringSystemType
  hostName : CString
  ipAddress : CString
  nickname : CString
  port : Int
  pollingIntervalSec : Int
  retryIntervalSec : Int
  userName : CString
  password : CString
  dbName : CString
  baseURL : CString
  extendedInfo : CString
  deriving DecidableEq, Repr

namespace MonitoringServerInfo

def withId (serverInfo : MonitoringServerInfo) (id : ServerIdType) : MonitoringServerInfo :=
  { serverInfo with id := id }

def minPollingIntervalSec : Int := 1

def maxPollingIntervalSec : Int := 60 * 60 * 24 * 366

def minRetryIntervalSec : Int := 1

def maxRetryIntervalSec : Int := 60 * 60 * 24 * 31

end MonitoringServerInfo

structure ArmPluginInfo where
  id : ArmPluginIdType
  type : MonitoringSystemType
  path : CString
  brokerUrl : CString
  staticQueueAddress : CString
  serverId : ServerIdType
  tlsCertificatePath : CString
  tlsKeyPath : CString
  tlsCACertificatePath : CString
  tlsEnableVerify : Int
  uuid : CString
  deriving DecidableEq, Repr

/-- (DBTablesConfig.cc:976-983) -/
def isHatoholArmPlugin (type : MonitoringSystemType) : Bool :=
  type == .hapiJSON || type == .hapi2

/-- The codes of `HatoholError`, and an exception that is thrown by the database. -/
inductive ServerError where
  | noPrivilege
  | invalidMonitoringSystemType
  | invalidPortNumber
  | noIPAddressAndHostName
  | invalidHostName
  | invalidIPAddress
  | invalidPollingInterval
  | invalidRetryInterval
  | differTypeServerAndArmPlugin
  | invalidArmPluginPath
  | invalidArmPluginType
  | reservedQueueName
  | duplicateQueueName
  | invalidArmPluginId
  | notFoundTargetRecord
  | failedToCreateDataStore
  | failedToRegisterDataStore
  | invalidParameter
  | exception
  deriving DecidableEq, Repr

def validHostName (_hostName : CString) : Bool := true

/-- (DBTablesConfig.cc:1127-1153) `inet_pton` decides what an address is. -/
def validServerInfo (isValidIPAddress : CString → Bool) (serverInfo : MonitoringServerInfo) :
    Except ServerError Unit :=
  if serverInfo.type ≤ .unknown ∨ serverInfo.type ≥ .num then throw .invalidMonitoringSystemType
  else if serverInfo.port < 0 ∨ serverInfo.port > 65535 then throw .invalidPortNumber
  else if serverInfo.ipAddress.text.isEmpty ∧ serverInfo.hostName.text.isEmpty then
    throw .noIPAddressAndHostName
  else if !serverInfo.hostName.text.isEmpty ∧ !validHostName serverInfo.hostName then
    throw .invalidHostName
  else if !serverInfo.ipAddress.text.isEmpty ∧ !isValidIPAddress serverInfo.ipAddress then
    throw .invalidIPAddress
  else if serverInfo.pollingIntervalSec < MonitoringServerInfo.minPollingIntervalSec ∨
      serverInfo.pollingIntervalSec > MonitoringServerInfo.maxPollingIntervalSec then
    throw .invalidPollingInterval
  else if serverInfo.retryIntervalSec < MonitoringServerInfo.minRetryIntervalSec ∨
      serverInfo.retryIntervalSec > MonitoringServerInfo.maxRetryIntervalSec then
    throw .invalidRetryInterval
  else pure ()

/-! ## Tables -/

/-- `servers` and `arm_plugins` with their keys: a server has one id, a plugin one id, and no two
    plugins belong to one server. -/
@[ext] structure ServerTables where
  servers : List MonitoringServerInfo
  armPlugins : List ArmPluginInfo
  nodup_servers : (servers.map (·.id)).Nodup
  nodup_armPlugins : (armPlugins.map (·.id)).Nodup
  nodup_serverIds : (armPlugins.map (·.serverId)).Nodup

namespace ServerTables

def empty : ServerTables := ⟨[], [], List.nodup_nil, List.nodup_nil, List.nodup_nil⟩

/-- `INSERT`, which fails where a key is taken. -/
def insertServer (t : ServerTables) (row : MonitoringServerInfo) : Option ServerTables :=
  if h : ((t.servers ++ [row]).map (·.id)).Nodup then
    some { t with servers := t.servers ++ [row], nodup_servers := h }
  else none

def insertArmPlugin (t : ServerTables) (row : ArmPluginInfo) : Option ServerTables :=
  if h : ((t.armPlugins ++ [row]).map (·.id)).Nodup ∧
      ((t.armPlugins ++ [row]).map (·.serverId)).Nodup then
    some { t with
      armPlugins := t.armPlugins ++ [row]
      nodup_armPlugins := h.1
      nodup_serverIds := h.2 }
  else none

/-- The columns that `UPDATE` sets are all but the id. -/
def updatedServer (id : ServerIdType) (serverInfo row : MonitoringServerInfo) :
    MonitoringServerInfo :=
  if row.id = id then serverInfo.withId row.id else row

theorem id_updatedServer (id : ServerIdType) (serverInfo row : MonitoringServerInfo) :
    (updatedServer id serverInfo row).id = row.id := by
  unfold updatedServer
  split <;> rfl

def updateServer (t : ServerTables) (id : ServerIdType) (serverInfo : MonitoringServerInfo) :
    ServerTables :=
  { t with
    servers := t.servers.map (updatedServer id serverInfo)
    nodup_servers := by
      have hid : (fun row : MonitoringServerInfo => row.id) ∘ updatedServer id serverInfo =
          fun row => row.id := funext (id_updatedServer id serverInfo)
      rw [List.map_map, hid]
      exact t.nodup_servers }

/-- The columns that `UPDATE` sets are all but the id and the type. -/
def updatedArmPlugin (armPluginInfo row : ArmPluginInfo) : ArmPluginInfo :=
  if row.id = armPluginInfo.id then { armPluginInfo with type := row.type } else row

theorem id_updatedArmPlugin (armPluginInfo row : ArmPluginInfo) :
    (updatedArmPlugin armPluginInfo row).id = row.id := by
  unfold updatedArmPlugin
  split
  next hid => exact hid.symm
  next => rfl

/-- It fails where the server is that of another plugin. -/
def updateArmPlugin (t : ServerTables) (armPluginInfo : ArmPluginInfo) : Option ServerTables :=
  if h : ((t.armPlugins.map (updatedArmPlugin armPluginInfo)).map (·.serverId)).Nodup then
    some { t with
      armPlugins := t.armPlugins.map (updatedArmPlugin armPluginInfo)
      nodup_armPlugins := by
        have hid : (fun row : ArmPluginInfo => row.id) ∘ updatedArmPlugin armPluginInfo =
            fun row => row.id := funext (id_updatedArmPlugin armPluginInfo)
        rw [List.map_map, hid]
        exact t.nodup_armPlugins
      nodup_serverIds := h }
  else none

def deleteServer (t : ServerTables) (serverId : ServerIdType) : ServerTables where
  servers := t.servers.filter (·.id != serverId)
  armPlugins := t.armPlugins.filter (·.serverId != serverId)
  nodup_servers := (List.filter_sublist.map _).nodup t.nodup_servers
  nodup_armPlugins := (List.filter_sublist.map _).nodup t.nodup_armPlugins
  nodup_serverIds := (List.filter_sublist.map _).nodup t.nodup_serverIds

/-! ## Plugins -/

/-- What a call asks of the database and the model does not compute: the answer to a condition that
    is not read as it was meant (`none` is a failure), and the last ids that were given to a server
    and to a plugin. -/
structure Answers where
  misread : Option Bool
  lastServerId : Nat
  lastArmPluginId : Nat

/-- The value between the quotes of a term that has not been encoded, if the term ends where it was
    meant to. -/
def readUnencoded (d : Dialect) (val : CString) (rest : String) : Option String :=
  match readString d ("'" ++ val.text ++ "'" ++ rest).toList with
  | some (value, left) => if left = rest.toList then some (String.ofList value) else none
  | none => none

/-- (DBTablesConfig.cc:2583-2592) -/
def isDuplicateQueueName (t : ServerTables) (d : Dialect) (answers : Answers)
    (armPluginInfo : ArmPluginInfo) : Option Bool :=
  let rest := " and id!=" ++ encInt armPluginInfo.id
  (readUnencoded d armPluginInfo.staticQueueAddress rest).elim answers.misread fun value =>
    some (t.armPlugins.any fun row =>
      row.staticQueueAddress.text == value && row.id != armPluginInfo.id)

/-- (DBTablesConfig.cc:2401-2427) The overload for a plugin. The result is the id of the condition
    under which the plugin is looked up. -/
def preprocForSaveArmPlugin (t : ServerTables) (d : Dialect) (answers : Answers)
    (armPluginInfo : ArmPluginInfo) : Except ServerError ArmPluginIdType :=
  if armPluginInfo.type ≠ .hapiJSON ∧ armPluginInfo.type ≠ .hapi2 ∧
      armPluginInfo.path.text.isEmpty then throw .invalidArmPluginPath
  else if armPluginInfo.type ≠ .hapiJSON ∧ armPluginInfo.type ≠ .hapi2 then
    throw .invalidArmPluginType
  else if armPluginInfo.staticQueueAddress.text.startsWith "hap2." then throw .reservedQueueName
  else if armPluginInfo.staticQueueAddress.text.isEmpty then pure armPluginInfo.id
  else match t.isDuplicateQueueName d answers armPluginInfo with
    | none => throw .exception
    | some true => throw .duplicateQueueName
    | some false => pure armPluginInfo.id

/-- (DBTablesConfig.cc:2390-2399) There is no condition for a server that has no plugin. -/
def preprocForSaveArmPluginInfo (t : ServerTables) (d : Dialect) (answers : Answers)
    (serverInfo : MonitoringServerInfo) (armPluginInfo : ArmPluginInfo) :
    Except ServerError (Option ArmPluginIdType) :=
  if !isHatoholArmPlugin serverInfo.type then pure none
  else if armPluginInfo.type ≠ serverInfo.type then throw .differTypeServerAndArmPlugin
  else some <$> t.preprocForSaveArmPlugin d answers armPluginInfo

/-- (DBTablesConfig.cc:2429-2473) -/
def saveArmPluginInfoWithoutTransaction (t : ServerTables) (answers : Answers)
    (armPluginInfo : ArmPluginInfo) (condition : ArmPluginIdType) :
    Except ServerError (ArmPluginInfo × ServerTables) :=
  if armPluginInfo.id ≠ autoIncrementValue ∧ !t.armPlugins.any (·.id == condition) then
    throw .invalidArmPluginId
  else if armPluginInfo.id ≠ autoIncrementValue then
    match t.updateArmPlugin armPluginInfo with
    | none => throw .exception
    | some t => pure (armPluginInfo, t)
  else
    let armPluginInfo := { armPluginInfo with id := (answers.lastArmPluginId : Int) + 1 }
    match t.insertArmPlugin armPluginInfo with
    | none => throw .exception
    | some t => pure (armPluginInfo, t)

/-- (DBTablesConfig.cc:2484-2490) -/
def saveArmPluginInfoIfNeededWithoutTransaction (t : ServerTables) (answers : Answers)
    (armPluginInfo : ArmPluginInfo) (condition : Option ArmPluginIdType) :
    Except ServerError (ArmPluginInfo × ServerTables) :=
  match condition with
  | none => pure (armPluginInfo, t)
  | some condition => t.saveArmPluginInfoWithoutTransaction answers armPluginInfo condition

end ServerTables

/-! ## Agents -/

/-- A connection to the database. The tables of an open transaction are not those that others
    see. -/
structure ServerAgent where
  dialect : Dialect
  tables : ServerTables
  working : Option ServerTables

namespace ServerAgent

/-- No transaction is open. -/
def idle (d : Dialect) (t : ServerTables) : ServerAgent := ⟨d, t, none⟩

/-- The tables that a statement works on. -/
def current (a : ServerAgent) : ServerTables := a.working.getD a.tables

def put (a : ServerAgent) (t : ServerTables) : ServerAgent :=
  match a.working with
  | some _ => { a with working := some t }
  | none => { a with tables := t }

/-- (DBAgentMySQL.cc:201-205, DBAgentSQLite3.cc:183-187) MySQL commits what is open. -/
def begin (a : ServerAgent) : Option ServerAgent :=
  match a.working, a.dialect with
  | none, _ => some { a with working := some a.tables }
  | some _, .sqlite => none
  | some t, .mysql => some { a with tables := t, working := some t }

/-- (DBAgentMySQL.cc:207-211, DBAgentSQLite3.cc:189-193) SQLite has an error for a COMMIT where no
    transaction is open. -/
def commit (a : ServerAgent) : Option ServerAgent :=
  match a.working, a.dialect with
  | some t, _ => some { a with tables := t, working := none }
  | none, .sqlite => none
  | none, .mysql => some a

/-- (DBAgentMySQL.cc:213-217, DBAgentSQLite3.cc:195-199) -/
def rollback (a : ServerAgent) : Option ServerAgent :=
  match a.working, a.dialect with
  | some _, _ => some { a with working := none }
  | none, .sqlite => none
  | none, .mysql => some a

/-- (DBAgent.cc:445-473) The result of the procedure is what it leaves in `err`; an exception rolls
    back and is thrown again. -/
def runTransaction {α : Type} (a : ServerAgent)
    (proc : ServerAgent → Except ServerError α × ServerAgent) : Except ServerError α × ServerAgent :=
  match a.begin with
  | none => (.error .exception, a)
  | some a =>
    match proc a with
    | (.error .exception, a) => (.error .exception, a.rollback.getD a)
    | (err, a) =>
      match a.commit with
      | none => (.error .exception, a)
      | some a => (err, a)

/-- The end of the procedures of `addTargetServer` and `updateTargetServer`, which roll back by
    themselves if the plugin is not saved. -/
def saveArmPluginInfo (a : ServerAgent) (answers : ServerTables.Answers)
    (serverInfo : MonitoringServerInfo) (armPluginInfo : ArmPluginInfo)
    (condition : Option ArmPluginIdType) :
    Except ServerError (MonitoringServerInfo × ArmPluginInfo) × ServerAgent :=
  match a.current.saveArmPluginInfoIfNeededWithoutTransaction answers armPluginInfo condition with
  | .ok (armPluginInfo, t) => (.ok (serverInfo, armPluginInfo), a.put t)
  | .error .exception => (.error .exception, a)
  | .error e =>
    match a.rollback with
    | none => (.error .exception, a)
    | some a => (.error e, a)

end ServerAgent

/-! ## Calls -/

/-- Who calls, and what the access list says of him. -/
structure ServerCaller where
  userId : UserIdType
  privilege : OperationPrivilege
  accessList : List AccessRow

namespace ServerCaller

/-- (DBTablesUser.cc:1175-1213) -/
def isAccessible (caller : ServerCaller) (serverId : ServerIdType) : Bool :=
  caller.userId != invalidUserId && caller.accessList.any fun access =>
    access.info.userId == caller.userId &&
      (access.info.serverId == serverId || access.info.serverId == allServers) &&
      access.info.hostgroupId == allHostGroups

/-- (DBTablesConfig.cc:2328-2341) -/
def canUpdateTargetServer (caller : ServerCaller) (serverId : ServerIdType) : Bool :=
  caller.privilege.has .updateAllServer ||
    caller.privilege.has .updateServer && caller.isAccessible serverId

/-- (DBTablesConfig.cc:2343-2355) -/
def canDeleteTargetServer (caller : ServerCaller) (serverId : ServerIdType) : Bool :=
  caller.privilege.has .deleteAllServer ||
    caller.privilege.has .deleteServer && caller.isAccessible serverId

end ServerCaller

/-- The number that `%u` writes for an int. -/
def unsignedId (id : Int) : Int := if id < 0 then id + 2 ^ 32 else id

/-- The server with the id that `INSERT` gives to it. -/
def insertedServer (answers : ServerTables.Answers) (serverInfo : MonitoringServerInfo) :
    MonitoringServerInfo :=
  if serverInfo.id = autoIncrementValue then
    serverInfo.withId ((answers.lastServerId : Int) + 1) else serverInfo

/-- The plugin with the id of its server, unless the server has none. -/
def pluginOfServer (serverInfo : MonitoringServerInfo) (armPluginInfo : ArmPluginInfo)
    (condition : Option ArmPluginIdType) : ArmPluginInfo :=
  if condition.isSome then { armPluginInfo with serverId := serverInfo.id } else armPluginInfo

namespace ServerAgent

section Calls

variable (isValidIPAddress : CString → Bool) (answers : ServerTables.Answers)

/-- The transaction of `addTargetServer` (DBTablesConfig.cc:1205-1222). -/
def addProc (serverInfo : MonitoringServerInfo) (armPluginInfo : ArmPluginInfo)
    (condition : Option ArmPluginIdType) (a : ServerAgent) :
    Except ServerError (MonitoringServerInfo × ArmPluginInfo) × ServerAgent :=
  let serverInfo := insertedServer answers serverInfo
  match a.current.insertServer serverInfo with
  | none => (.error .exception, a)
  | some t =>
    let armPluginInfo := pluginOfServer serverInfo armPluginInfo condition
    (a.put t).saveArmPluginInfo answers serverInfo armPluginInfo condition

/-- (DBTablesConfig.cc:1155-1227) The result is the arguments as the call leaves them. -/
def addTargetServer (a : ServerAgent) (caller : ServerCaller) (serverInfo : MonitoringServerInfo)
    (armPluginInfo : ArmPluginInfo) :
    Except ServerError (MonitoringServerInfo × ArmPluginInfo) × ServerAgent :=
  if !caller.privilege.has .createServer then (.error .noPrivilege, a)
  else match validServerInfo isValidIPAddress serverInfo with
  | .error e => (.error e, a)
  | .ok () =>
    match a.current.preprocForSaveArmPluginInfo a.dialect answers serverInfo armPluginInfo with
    | .error e => (.error e, a)
    | .ok condition => a.runTransaction (addProc answers serverInfo armPluginInfo condition)

/-- The transaction of `updateTargetServer` (DBTablesConfig.cc:1271-1283). -/
def updateProc (serverInfo : MonitoringServerInfo) (armPluginInfo : ArmPluginInfo)
    (condition : Option ArmPluginIdType) (a : ServerAgent) :
    Except ServerError (MonitoringServerInfo × ArmPluginInfo) × ServerAgent :=
  if !a.current.servers.any (·.id == unsignedId serverInfo.id) then
    (.error .notFoundTargetRecord, a)
  else
    (a.put (a.current.updateServer (unsignedId serverInfo.id) serverInfo)).saveArmPluginInfo
      answers serverInfo armPluginInfo condition

/-- (DBTablesConfig.cc:1229-1306) -/
def updateTargetServer (a : ServerAgent) (caller : ServerCaller)
    (serverInfo : MonitoringServerInfo) (armPluginInfo : ArmPluginInfo) :
    Except ServerError (MonitoringServerInfo × ArmPluginInfo) × ServerAgent :=
  if !caller.canUpdateTargetServer serverInfo.id then (.error .noPrivilege, a)
  else match validServerInfo isValidIPAddress serverInfo with
  | .error e => (.error e, a)
  | .ok () =>
    match a.current.preprocForSaveArmPluginInfo a.dialect answers serverInfo armPluginInfo with
    | .error e => (.error e, a)
    | .ok condition => a.runTransaction (updateProc answers serverInfo armPluginInfo condition)

end Calls

/-- (DBTablesConfig.cc:1308-1338) -/
def deleteTargetServer (a : ServerAgent) (caller : ServerCaller) (serverId : ServerIdType) :
    Except ServerError Unit × ServerAgent :=
  if !caller.canDeleteTargetServer serverId then (.error .noPrivilege, a)
  else a.runTransaction fun a => (.ok (), a.put (a.current.deleteServer serverId))

end ServerAgent

end Hatohol

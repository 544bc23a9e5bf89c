import Hatohol.DBTablesConfig
import Hatohol.TriggersQueryOption

/-!
# The triggers of an arm

An arm that polls a monitoring server has triggers of its own, one for each kind of failure, which
tell of the connection to the server (server/src/ArmUtils.cc). The main loop updates them with the
result of each round (server/src/ArmBase.cc).
-/

namespace Hatohol

inductive TriggerStatusType where
  | all
  | ok
  | problem
  | unknown
  deriving DecidableEq, Repr

/-- (common/Monitoring.h:27-32) -/
def TriggerStatusType.value : TriggerStatusType → Int
  | all => -1
  | ok => 0
  | problem => 1
  | unknown => 2

inductive EventType where
  | good
  | bad
  deriving DecidableEq, Repr

/-- A trigger that is not used has the status ALL. -/
structure ArmTrigger where
  triggerId : TriggerIdType
  status : TriggerStatusType
  msg : CString
  deriving DecidableEq, Repr

/-- An event of an arm's trigger. Where the trigger stands among those of the arm is not stored. -/
structure ArmEvent where
  place : Nat
  serverId : ServerIdType
  id : CString
  time : Timespec
  globalHostId : HostIdType
  hostIdInServer : LocalHostIdType
  triggerId : TriggerIdType
  severity : Int
  status : Int
  type : EventType
  deriving DecidableEq, Repr

/-- The triggers of an arm, with what has been given to the tables of triggers and events. -/
structure ArmUtils (numArmTriggers : Nat) where
  serverInfo : MonitoringServerInfo
  armTriggers : Fin numArmTriggers → ArmTrigger
  globalHostId : HostIdType
  triggerInfoList : List TriggerInfo
  eventInfoList : List ArmEvent

namespace ArmUtils

variable {numArmTriggers : Nat}

def triggerSeverityEmergency : Int := 5

/-- MONITORING_SELF_LOCAL_HOST_ID and SERVER_SELF_MONITORING_SUFFIX -/
def monitoringSelfLocalHostId : LocalHostIdType := .ofString "__SELF_MONITOR"

def serverSelfMonitoringSuffix : String := "_SELF"

def invalidHostId : HostIdType := 0

/-- (ArmUtils.cc:38-53) All triggers are unused. -/
def new (serverInfo : MonitoringServerInfo) : ArmUtils numArmTriggers where
  serverInfo := serverInfo
  armTriggers := fun _ => ⟨emptyText, .all, emptyText⟩
  globalHostId := invalidHostId
  triggerInfoList := []
  eventInfoList := []

def isUsed (u : ArmUtils numArmTriggers) (idx : Fin numArmTriggers) : Bool :=
  (u.armTriggers idx).status ≠ .all

/-- (ArmUtils.cc:187-207) -/
def createTrigger (u : ArmUtils numArmTriggers) (now : Timespec) (armTrigger : ArmTrigger) :
    ArmUtils numArmTriggers :=
  { u with triggerInfoList := u.triggerInfoList ++
      [{ serverId := u.serverInfo.id
         id := armTrigger.triggerId
         status := armTrigger.status.value
         severity := triggerSeverityEmergency
         lastChangeTime := now
         globalHostId := u.globalHostId
         hostIdInServer := monitoringSelfLocalHostId
         hostName := .ofString (u.serverInfo.hostName.text ++ serverSelfMonitoringSuffix)
         brief := armTrigger.msg
         extendedInfo := emptyText
         validity := .validSelfMonitoring }] }

/-- (ArmUtils.cc:209-228) -/
def createEvent (u : ArmUtils numArmTriggers) (now : Timespec) (idx : Fin numArmTriggers)
    (armTrigger : ArmTrigger) : ArmUtils numArmTriggers :=
  { u with eventInfoList := u.eventInfoList ++
      [{ place := idx
         serverId := u.serverInfo.id
         id := emptyText
         time := now
         globalHostId := u.globalHostId
         hostIdInServer := monitoringSelfLocalHostId
         triggerId := armTrigger.triggerId
         severity := triggerSeverityEmergency
         status := armTrigger.status.value
         type := if armTrigger.status = .ok then .good else .bad }] }

def setStatus (u : ArmUtils numArmTriggers) (idx : Fin numArmTriggers)
    (status : TriggerStatusType) : ArmUtils numArmTriggers :=
  { u with
    armTriggers := Function.update u.armTriggers idx { u.armTriggers idx with status := status } }

/-- (ArmUtils.cc:146-155) -/
def setTriggerToStatusOK (now : Timespec) (u : ArmUtils numArmTriggers)
    (idx : Fin numArmTriggers) : ArmUtils numArmTriggers :=
  let prevStat := (u.armTriggers idx).status
  let u :=
    if prevStat ≠ .ok then
      let u := u.setStatus idx .ok
      u.createTrigger now (u.armTriggers idx)
    else u
  if prevStat = .problem then u.createEvent now idx (u.armTriggers idx) else u

/-- (ArmUtils.cc:157-164) -/
def setTriggerToStatusUnknown (now : Timespec) (u : ArmUtils numArmTriggers)
    (idx : Fin numArmTriggers) : ArmUtils numArmTriggers :=
  if (u.armTriggers idx).status = .ok then
    let u := u.setStatus idx .unknown
    u.createTrigger now (u.armTriggers idx)
  else u

/-- The body of the three loops. -/
def unlessUnused (set : ArmUtils numArmTriggers → Fin numArmTriggers → ArmUtils numArmTriggers)
    (u : ArmUtils numArmTriggers) (idx : Fin numArmTriggers) : ArmUtils numArmTriggers :=
  if !u.isUsed idx then u else set u idx

/-- (ArmUtils.cc:95-104) -/
def updateTriggersForCollectingOK (u : ArmUtils numArmTriggers) (now : Timespec) :
    ArmUtils numArmTriggers :=
  (List.finRange numArmTriggers).foldl (unlessUnused (setTriggerToStatusOK now)) u

/-- (ArmUtils.cc:128-135) -/
def updateLowerTriggers (u : ArmUtils numArmTriggers) (now : Timespec)
    (triggerIdx : Fin numArmTriggers) : ArmUtils numArmTriggers :=
  ((List.finRange numArmTriggers).filter (triggerIdx < ·)).foldl
    (unlessUnused (setTriggerToStatusOK now)) u

/-- (ArmUtils.cc:137-144) -/
def updateUpperTriggers (u : ArmUtils numArmTriggers) (now : Timespec)
    (triggerIdx : Fin numArmTriggers) : ArmUtils numArmTriggers :=
  ((List.finRange numArmTriggers).filter (· < triggerIdx)).foldl
    (unlessUnused (setTriggerToStatusUnknown now)) u

/-- (ArmUtils.cc:106-126) -/
def updateTriggersForCollectingFailure (u : ArmUtils numArmTriggers) (now : Timespec)
    (triggerIdx : Fin numArmTriggers) (status : TriggerStatusType) : ArmUtils numArmTriggers :=
  if !u.isUsed triggerIdx then u
  else if (u.armTriggers triggerIdx).status = status then u
  else
    let u := u.setStatus triggerIdx status
    let u := u.createTrigger now (u.armTriggers triggerIdx)
    let u :=
      if status ≠ .unknown then u.createEvent now triggerIdx (u.armTriggers triggerIdx) else u
    (u.updateLowerTriggers now triggerIdx).updateUpperTriggers now triggerIdx

/-- (ArmUtils.cc:55-58) -/
def isCollectingOK (numArmTriggers idx : Nat) : Bool := idx == numArmTriggers + 1

/-- (ArmUtils.cc:65-85) An index that is neither that of a trigger nor that of COLLECT_OK is not
    passed. -/
def updateTriggerStatus (u : ArmUtils numArmTriggers) (now : Timespec) (triggerIdx : Nat)
    (status : TriggerStatusType) : ArmUtils numArmTriggers :=
  if isCollectingOK numArmTriggers triggerIdx then u.updateTriggersForCollectingOK now
  else if h : triggerIdx < numArmTriggers then
    u.updateTriggersForCollectingFailure now ⟨triggerIdx, h⟩ status
  else u

end ArmUtils

/-! ## The main loop -/

/-- `NUM_COLLECT_NG_KIND` (ArmBase.h:30-39) -/
def numCollectNgKind : Nat := 6

/-- The kinds of failures, in the order of `ArmPollingResult`. -/
inductive CollectNgKind where
  | parserError
  | disconnectZabbix
  | disconnectNagios
  | disconnectRedmine
  | internalError
  | objectGone
  deriving DecidableEq, Repr

def CollectNgKind.idx (kind : CollectNgKind) : Fin numCollectNgKind :=
  ⟨kind.ctorIdx, by cases kind <;> decide⟩

/-- `ArmBase::ArmPollingResult` -/
inductive ArmBase.ArmPollingResult where
  | collectNg (kind : CollectNgKind)
  | collectOk
  deriving DecidableEq, Repr

/-- The number of a result; between the failures and COLLECT_OK stands NUM_COLLECT_NG_KIND. -/
def ArmBase.ArmPollingResult.index : ArmBase.ArmPollingResult → Nat
  | .collectNg kind => kind.idx
  | .collectOk => numCollectNgKind + 1

inductive ArmWorkingStatus where
  | init
  | ok
  | failure
  deriving DecidableEq, Repr

structure ArmBase where
  utils : ArmUtils numCollectNgKind
  previousArmWorkStatus : ArmWorkingStatus
  lastFailureStatus : ArmWorkingStatus

namespace ArmBase

def new (serverInfo : MonitoringServerInfo) : ArmBase := ⟨.new serverInfo, .init, .failure⟩

/-- What `registerAvailableTrigger` is given. -/
structure AvailableTrigger where
  type : CollectNgKind
  triggerId : TriggerIdType
  msg : CString

/-- (ArmBase.cc:372-379) -/
def registerAvailableTrigger (arm : ArmBase) (available : AvailableTrigger) : ArmBase :=
  { arm with utils := { arm.utils with
      armTriggers := Function.update arm.utils.armTriggers available.type.idx
        ⟨available.triggerId, .unknown, available.msg⟩ } }

/-- An arm with its triggers, before the first round. -/
def registered (serverInfo : MonitoringServerInfo) (available : List AvailableTrigger) : ArmBase :=
  available.foldl registerAvailableTrigger (.new serverInfo)

/-- The loop of `setInitialTriggerStatus`. -/
def createInitialTriggers (u : ArmUtils numCollectNgKind) (now : Timespec) :
    ArmUtils numCollectNgKind :=
  (List.finRange numCollectNgKind).foldl (fun u idx =>
    if (u.armTriggers idx).status = .unknown then u.createTrigger now (u.armTriggers idx)
    else u) u

/-- (ArmBase.cc:386-406) The host for the triggers gets a number when it is stored. -/
def setInitialTriggerStatus (arm : ArmBase) (now : Timespec) (hostId : Option HostIdType) :
    ArmBase :=
  let utils := createInitialTriggers arm.utils now
  if utils.triggerInfoList = [] then arm
  else { arm with
    utils := { utils with globalHostId := hostId.getD utils.globalHostId } }

/-- (ArmBase.cc:408-416) -/
def setServerConnectStatus (arm : ArmBase) (now : Timespec) (type : ArmPollingResult) : ArmBase :=
  let status := if type = ArmPollingResult.collectOk then TriggerStatusType.ok else .problem
  { arm with utils := arm.utils.updateTriggerStatus now type.index status }

/-- A round of the main loop: when it was, the number under which the host for the triggers would be
    stored, and the result. -/
structure Round where
  now : Timespec
  hostId : Option HostIdType
  armPollingResult : ArmPollingResult

/-- (ArmBase.cc:450-462) -/
def logResult (arm : ArmBase) (round : Round) : ArmBase :=
  let arm := { arm with lastFailureStatus :=
    if round.armPollingResult = ArmPollingResult.collectOk then .ok else .failure }
  if arm.previousArmWorkStatus = .init then arm.setInitialTriggerStatus round.now round.hostId
  else arm

/-- A success is reported only after a failure, or in the first round (ArmBase.cc:463-468). -/
def reportResult (arm : ArmBase) (round : Round) : ArmBase :=
  if arm.lastFailureStatus ≠ .ok then
    arm.setServerConnectStatus round.now round.armPollingResult
  else if arm.previousArmWorkStatus ≠ arm.lastFailureStatus then
    arm.setServerConnectStatus round.now round.armPollingResult
  else arm

/-- The end of a round (ArmBase.cc:450-469). -/
def next (arm : ArmBase) (round : Round) : ArmBase :=
  let arm := arm.logResult round
  { arm.reportResult round with previousArmWorkStatus := arm.lastFailureStatus }

end ArmBase

end Hatohol

import Hatohol.DBTablesAction

/-!
# Actions for events

`checkEvents` looks up the actions for each event and runs them (server/src/ActionManager.cc:499-550,
624-679, 745-842, 911-954, 1409-1437, 1570-1650). Running an action writes an action log on most of
its paths. What other threads do to a log meanwhile changes its status only, which is not read here.
-/

namespace Hatohol

open Sql DBTermCodec

/-- DISCONNECT_SERVER_EVENT_ID -/
def disconnectServerEventId : EventIdType := emptyText

/-- ConfigManager.cc:45 and 432-435; 0 allows actions for all old events. -/
def allowActionForAllOldEvents : Int := 0

def allowedTimeOfActionForOldEvents : Int := 60 * 60 * 24

/-- `GError` of a spawn: G_SPAWN_ERROR_NOENT or another one. -/
inductive SpawnError where
  | noent
  | other
  deriving DecidableEq, Repr

/-- What an action finds when it is run: the severity and the host of the trigger, whether the
    limit of commands is reached, whether the resident is running or can set up its pipes, whether
    the process is spawned, and whether there is a sender of incidents. -/
structure ActionEnv where
  triggerInfo : Option (Int × LocalHostIdType)
  isFullHouse : Bool
  isRunning : Bool
  isInitialized : Bool
  spawnError : Option SpawnError
  hasSender : Bool
  deriving DecidableEq, Repr

/-- What `checkEvents` finds at an event: the time, who and what is set up, the host groups of the
    host, and what the actions find. -/
structure EventEnv where
  currTime : Timespec
  validator : ActionValidator
  hostgroupIdList : List HostgroupIdType
  action : ActionIdType → ActionEnv

/-- An event that is in the queue of a sender of incidents. -/
structure IncidentJob where
  trackerId : IncidentTrackerIdType
  actionId : ActionIdType
  serverId : ServerIdType
  eventId : EventIdType
  deriving DecidableEq, Repr

/-- The logs and the incidents that have been queued so far. -/
structure ActionRecords where
  logs : ActionLogsTable
  incidents : List IncidentJob

/-- (ActionManager.cc:499-519) Whether the action is skipped, and the incident sender that is run. -/
def shouldSkipIncidentSender (incidentSenderActionId : ActionIdType) (actionDef : ActionDef) :
    Bool × ActionIdType :=
  if actionDef.type ≠ .incidentSender then (false, incidentSenderActionId)
  else if incidentSenderActionId > 0 then (true, incidentSenderActionId)
  else (false, actionDef.id)

/-- (ActionManager.cc:624-636) The seconds that have passed are compared as they are, not as a
    `double`. -/
def shouldSkipByTime (eventInfo : EventInfo) (currTime : Timespec) : Bool :=
  if allowedTimeOfActionForOldEvents = allowActionForAllOldEvents then false
  else
    let passedTime := (currTime.sec - eventInfo.time.sec) * 10 ^ 9 +
      (currTime.nsec - eventInfo.time.nsec)
    passedTime > allowedTimeOfActionForOldEvents * 10 ^ 9

/-- (ActionManager.cc:649-660) `none` is the assertion. -/
def checkActionOwner (actionDef : ActionDef) : Option Bool :=
  if actionDef.type = .incidentSender then some (actionDef.ownerUserId == userIdSystem)
  else if actionDef.ownerUserId ≠ userIdSystem then some true
  else none

/-- (ActionManager.cc:1619-1650) -/
def fillTriggerInfoInEventInfo (eventInfo : EventInfo)
    (triggerInfo : Option (Int × LocalHostIdType)) : EventInfo :=
  match triggerInfo with
  | some (severity, hostIdInServer) =>
      { eventInfo with severity := severity, hostIdInServer := hostIdInServer }
  | none => { eventInfo with severity := 0, hostIdInServer := emptyText }

namespace ActionRecords

def createActionLog (r : ActionRecords) (actionDef : ActionDef) (eventInfo : EventInfo)
    (failureCode : ActionLogExecFailureCode) (initialStatus : ActionLogStatus) : ActionRecords :=
  { r with logs := (r.logs.createActionLog actionDef eventInfo failureCode initialStatus).2 }

/-- (ActionManager.cc:685-789, 1570-1582) The process is spawned or not. -/
def spawn (r : ActionRecords) (actionDef : ActionDef) (eventInfo : EventInfo)
    (error : Option SpawnError) : ActionRecords :=
  match error with
  | none =>
      let initialStatus := if actionDef.type = .command then .started else .launchingResident
      r.createActionLog actionDef eventInfo .none initialStatus
  | some error =>
      let failureCode := if error = .noent then .entryNotFound else .execFailure
      r.createActionLog actionDef eventInfo failureCode .started

/-- (ActionManager.cc:795-842) -/
def execCommandAction (r : ActionRecords) (actionDef : ActionDef) (eventInfo : EventInfo)
    (env : ActionEnv) : ActionRecords :=
  if env.isFullHouse then r.createActionLog actionDef eventInfo .none .queuing
  else r.spawn actionDef eventInfo env.spawnError

/-- (ActionManager.cc:911-954, 1248-1301) -/
def execResidentAction (r : ActionRecords) (actionDef : ActionDef) (eventInfo : EventInfo)
    (env : ActionEnv) : ActionRecords :=
  if env.isRunning then r.createActionLog actionDef eventInfo .none .residentQueuing
  else if !env.isInitialized then r
  else r.spawn actionDef eventInfo env.spawnError

/-- (ActionManager.cc:1409-1437, IncidentSenderManager.cc:126-140) -/
def execIncidentSenderAction (r : ActionRecords) (actionDef : ActionDef) (eventInfo : EventInfo)
    (env : ActionEnv) : ActionRecords :=
  match actionDef.parseIncidentSenderCommand with
  | none => r
  | some trackerId =>
      let r := r.createActionLog actionDef eventInfo .none .queuing
      let job : IncidentJob := ⟨trackerId, actionDef.id, eventInfo.serverId, eventInfo.id⟩
      if env.hasSender then { r with incidents := r.incidents ++ [job] } else r

/-- (ActionManager.cc:662-679) `none` if the assertion throws. -/
def runAction (r : ActionRecords) (actionDef : ActionDef) (eventInfo : EventInfo)
    (env : ActionEnv) : Option ActionRecords :=
  let eventInfo := fillTriggerInfoInEventInfo eventInfo env.triggerInfo
  match checkActionOwner actionDef with
  | none => none
  | some false => some r
  | some true =>
      match actionDef.type with
      | .command => some (r.execCommandAction actionDef eventInfo env)
      | .resident => some (r.execResidentAction actionDef eventInfo env)
      | .incidentSender => some (r.execIncidentSenderAction actionDef eventInfo env)
      | _ => some r

/-- The loop over the actions of an event, and whether it comes to its end. -/
def runActions (eventInfo : EventInfo) (env : ActionIdType → ActionEnv) :
    List ActionDef → ActionIdType → ActionRecords → ActionRecords × Bool
  | [], _, r => (r, true)
  | actionDef :: rest, incidentSenderActionId, r =>
      let (skip, incidentSenderActionId) := shouldSkipIncidentSender incidentSenderActionId actionDef
      if skip then runActions eventInfo env rest incidentSenderActionId r
      else
        match r.runAction actionDef eventInfo (env actionDef.id) with
        | none => (r, false)
        | some r => runActions eventInfo env rest incidentSenderActionId r

def shouldSkip (r : ActionRecords) (eventInfo : EventInfo) (currTime : Timespec) : Bool :=
  eventInfo.id != disconnectServerEventId &&
    (shouldSkipByTime eventInfo currTime || r.logs.getLog eventInfo.serverId eventInfo.id)

/-- (ActionManager.cc:521-550) Each event comes with what is found at it. -/
def checkEvents (t : ActionsTable) : List (EventInfo × EventEnv) → ActionRecords → ActionRecords
  | [], r => r
  | (eventInfo, env) :: rest, r =>
      if r.shouldSkip eventInfo env.currTime then checkEvents t rest r
      else
        let option :=
          { ActionsQueryOption.system with type := .all, eventInfo := some eventInfo }
        let actionDefList := t.getActionList env.validator option env.hostgroupIdList
        match runActions eventInfo env.action actionDefList 0 r with
        | (r, true) => checkEvents t rest r
        | (r, false) => r

end ActionRecords

end Hatohol

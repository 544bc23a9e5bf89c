import Hatohol.ActionManager
import Hatohol.RestResourceIncident

/-!
# Unfinished actions

When Hatohol starts, `reExecuteUnfinishedAction` gives up the logs of the actions that had not been
finished and runs the actions again (server/src/ActionManager.cc:552-604, DBTablesAction.cc:826-879,
984-1053, main.cc:243-251). Nothing else runs at that time.
-/

namespace Hatohol

open Sql DBTermCodec

/-- (DBTablesMonitoring.cc:2566-2679) Without the incidents. -/
def MonitoringTables.getEventInfos (t : MonitoringTables) (option : EventsQueryOption) :
    Except HatoholException (List EventRecord) := do
  let option := option.setTableNameAlways
  let condition ← option.getCondition
  pure (if isAlwaysFalseCondition condition then []
    else t.events.filter fun event =>
      (t.joinHostgroups option event).any fun hostgroupId =>
        selects condition (event.row hostgroupId none).value)

def EventRecord.eventInfo (event : EventRecord) : EventInfo where
  serverId := event.serverId
  id := event.id
  time := event.time
  hostIdInServer := event.hostIdInServer
  triggerId := event.triggerId
  status := event.status
  severity := event.severity

namespace ActionLogsTable

/-- What an `UPDATE` of the status makes of a row. -/
def aborted (logId : ActionLogIdType) (log : ActionLog) : ActionLog :=
  if log.id = logId then { log with status := .aborted } else log

@[simp] theorem id_aborted (logId : ActionLogIdType) (log : ActionLog) :
    (aborted logId log).id = log.id := by
  unfold aborted
  split <;> rfl

theorem fresh_map_aborted (t : ActionLogsTable) (logId : ActionLogIdType) :
    ∀ log ∈ t.rows.map (aborted logId), log.id < t.nextId := by
  intro log hlog
  obtain ⟨old, hold, rfl⟩ := List.mem_map.mp hlog
  rw [id_aborted]
  exact t.fresh old hold

/-- (DBTablesAction.cc:826-838) The statement is a transaction of its own. -/
def updateLogStatusToAborted (t : ActionLogsTable) (logId : ActionLogIdType) :
    ActionLogsTable where
  rows := t.rows.map (aborted logId)
  nextId := t.nextId
  fresh := t.fresh_map_aborted logId

/-- (DBTablesAction.cc:862-879) -/
def getTargetStatusesLogs (t : ActionLogsTable) (targetStatuses : List ActionLogStatus) :
    List ActionLog :=
  t.rows.filter fun log => targetStatuses.contains log.status && log.eventId != emptyText

end ActionLogsTable

def targetStatuses : List ActionLogStatus :=
  [.queuing, .started, .residentQueuing, .launchingResident]

/-- The tables that are read only, and who and what is set up. -/
structure ActionSources where
  monitoring : MonitoringTables
  actions : ActionsTable
  validator : ActionValidator
  servers : ServerIdSet

/-- An execution of an action, and the log that it is done for. -/
structure ActionRun where
  logId : ActionLogIdType
  actionDef : ActionDef
  eventInfo : EventInfo
  deriving DecidableEq, Repr

structure Recovery where
  records : ActionRecords
  runs : List ActionRun

inductive RecoveryEnd where
  | finished
  | stopped
  | thrown
  deriving DecidableEq, Repr

namespace ActionSources

def eventOption (s : ActionSources) (log : ActionLog) : EventsQueryOption :=
  let option := EventsQueryOption.new (systemContext s.servers)
  { option with
    base := { option.base with targetServerId := log.serverId }
    isEvents := option.isEvents
    eventIds := [log.eventId] }

def actionOption (log : ActionLog) : ActionsQueryOption :=
  { ActionsQueryOption.system with idList := [log.actionId] }

/-- The loop over the logs, in a process that stops after a number of steps: giving up a log is
    one, running an action another. -/
def reExecuteLogs (s : ActionSources) (env : ActionLogIdType → ActionEnv) :
    List ActionLog → Nat → Recovery → Recovery × RecoveryEnd
  | [], _, r => (r, .finished)
  | actionLog :: rest, steps, r =>
    match s.monitoring.getEventInfos (s.eventOption actionLog) with
    | .error _ => (r, .thrown)
    | .ok [] => s.reExecuteLogs env rest steps r
    | .ok (event :: _) =>
      match s.actions.getActionList s.validator (actionOption actionLog) [] with
      | [] => s.reExecuteLogs env rest steps r
      | actionDef :: _ =>
        match steps with
        | 0 => (r, .stopped)
        | steps + 1 =>
          let logs := r.records.logs.updateLogStatusToAborted actionLog.id
          let r := { r with records := { r.records with logs := logs } }
          match steps with
          | 0 => (r, .stopped)
          | steps + 1 =>
            match r.records.runAction actionDef event.eventInfo (env actionLog.id) with
            | none => (r, .thrown)
            | some records =>
              let run : ActionRun := ⟨actionLog.id, actionDef, event.eventInfo⟩
              let runs :=
                if checkActionOwner actionDef = some true then r.runs ++ [run] else r.runs
              s.reExecuteLogs env rest steps ⟨records, runs⟩

/-- (ActionManager.cc:552-604) -/
def reExecuteUnfinishedAction (s : ActionSources) (env : ActionLogIdType → ActionEnv)
    (steps : Nat) (records : ActionRecords) : Recovery × RecoveryEnd :=
  s.reExecuteLogs env (records.logs.getTargetStatusesLogs targetStatuses) steps ⟨records, []⟩

/-- The process does not stop: there are two steps for each log. -/
def recover (s : ActionSources) (env : ActionLogIdType → ActionEnv) (records : ActionRecords) :
    Recovery × RecoveryEnd :=
  s.reExecuteUnfinishedAction env
    (2 * (records.logs.getTargetStatusesLogs targetStatuses).length) records

end ActionSources

end Hatohol

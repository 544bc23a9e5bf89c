import Mathlib
import Hatohol.ActionRecovery
import Hatohol.Actions.OncePerEvent
import Hatohol.Actions.Ownership
import Hatohol.Incidents.Creation

/-!
# Which actions a restart recovers

A log is recovered where the queries find its event and its action, and the queries leave out more
than what does not exist. Between the two steps that a recovered log takes it is neither unfinished
nor run, and an assertion that fails keeps the other logs from being looked at.
-/

namespace Hatohol

open Sql DBTermCodec Table

namespace ActionRecords

/-- At most one log is written, for the action and the event. -/
def LogsOneAtMost (r r' : ActionRecords) (key : ActionIdType × ServerIdType × EventIdType) : Prop :=
  r'.logs = r.logs ∨ ∃ log, log.id = r.logs.nextId ∧ log.key = key ∧
    r'.logs.rows = r.logs.rows ++ [log] ∧ r'.logs.nextId = r.logs.nextId + 1

theorem logsOneAtMost_createActionLog (r : ActionRecords) (actionDef : ActionDef)
    (eventInfo : EventInfo) (failureCode : ActionLogExecFailureCode)
    (initialStatus : ActionLogStatus) :
    LogsOneAtMost r (r.createActionLog actionDef eventInfo failureCode initialStatus)
      (actionDef.id, eventInfo.serverId, eventInfo.id) :=
  Or.inr ⟨_, rfl, rfl, rfl, rfl⟩

theorem logsOneAtMost_spawn (r : ActionRecords) (actionDef : ActionDef) (eventInfo : EventInfo)
    (error : Option SpawnError) :
    LogsOneAtMost r (r.spawn actionDef eventInfo error)
      (actionDef.id, eventInfo.serverId, eventInfo.id) := by
  cases error <;> exact r.logsOneAtMost_createActionLog actionDef eventInfo _ _

theorem logsOneAtMost_runAction {r r' : ActionRecords} {actionDef : ActionDef}
    {eventInfo : EventInfo} {env : ActionEnv}
    (hrun : r.runAction actionDef eventInfo env = some r') :
    LogsOneAtMost r r' (actionDef.id, eventInfo.serverId, eventInfo.id) := by
  have hserver : (fillTriggerInfoInEventInfo eventInfo env.triggerInfo).serverId =
      eventInfo.serverId := by
    unfold fillTriggerInfoInEventInfo
    split <;> rfl
  have hid : (fillTriggerInfoInEventInfo eventInfo env.triggerInfo).id = eventInfo.id := by
    unfold fillTriggerInfoInEventInfo
    split <;> rfl
  rw [← hserver, ← hid]
  unfold runAction at hrun
  simp only at hrun
  split at hrun
  · cases hrun
  · obtain rfl := Option.some.inj hrun
    exact Or.inl rfl
  · cases htype : actionDef.type with
    | command =>
      rw [htype] at hrun
      obtain rfl := Option.some.inj hrun
      unfold execCommandAction
      split
      · exact r.logsOneAtMost_createActionLog actionDef _ _ _
      · exact r.logsOneAtMost_spawn actionDef _ _
    | resident =>
      rw [htype] at hrun
      obtain rfl := Option.some.inj hrun
      unfold execResidentAction
      split
      · exact r.logsOneAtMost_createActionLog actionDef _ _ _
      · split
        · exact Or.inl rfl
        · exact r.logsOneAtMost_spawn actionDef _ _
    | incidentSender =>
      rw [htype] at hrun
      obtain rfl := Option.some.inj hrun
      unfold execIncidentSenderAction
      split
      · exact Or.inl rfl
      · have hlog := r.logsOneAtMost_createActionLog actionDef
          (fillTriggerInfoInEventInfo eventInfo env.triggerInfo) .none .queuing
        simp only
        split <;> exact hlog
    | userDefined =>
      rw [htype] at hrun
      obtain rfl := Option.some.inj hrun
      exact Or.inl rfl
    | all =>
      rw [htype] at hrun
      obtain rfl := Option.some.inj hrun
      exact Or.inl rfl

theorem runAction_eq_none {r : ActionRecords} {actionDef : ActionDef} {eventInfo : EventInfo}
    {env : ActionEnv} :
    r.runAction actionDef eventInfo env = none ↔ checkActionOwner actionDef = none := by
  unfold runAction
  simp only
  cases checkActionOwner actionDef with
  | none => simp
  | some allowed =>
    cases allowed with
    | false => simp
    | true => cases actionDef.type <;> simp

end ActionRecords

/-! ## What the queries find -/

namespace ActionSources

theorem passesOwn_eventOption (s : ActionSources) (log : ActionLog) (event : EventRecord)
    (hostgroupId : HostgroupIdType) :
    (s.eventOption log).setTableNameAlways.passesOwn (event.row hostgroupId none) =
      (event.id == log.eventId) := by
  simp [eventOption, EventsQueryOption.new, EventsQueryOption.setTableNameAlways,
    EventsQueryOption.passesOwn, EventRecord.row, beq_eq_decide]

theorem has_getAllServer_eventOption (s : ActionSources) (log : ActionLog) :
    (s.eventOption log).setTableNameAlways.base.has .getAllServer = true := by
  change OperationPrivilege.allPrivileges.has .getAllServer = true
  decide

theorem hasNoFilters_eventOption (s : ActionSources) (log : ActionLog) :
    (s.eventOption log).setTableNameAlways.base.hasNoFilters := by
  simp [eventOption, EventsQueryOption.new, EventsQueryOption.setTableNameAlways,
    HostResourceQueryOption.hasNoFilters, HostResourceQueryOption.new]

theorem base_shows_eventOption (s : ActionSources) {log : ActionLog}
    (hserver : log.serverId ≠ allServers) (event : EventRecord) (hostgroupId : HostgroupIdType) :
    (s.eventOption log).setTableNameAlways.base.shows (event.row hostgroupId none).value =
      (s.servers.contains event.serverId && event.serverId == log.serverId) := by
  have hall := s.has_getAllServer_eventOption log
  obtain ⟨hterms, hpasses, hgroups, hhosts⟩ :=
    HostResourceQueryOption.noFilters_spec (s.hasNoFilters_eventOption log)
  have hallowed : (s.eventOption log).setTableNameAlways.base.isAllowed
      (event.row hostgroupId none).host = true := by
    rw [HostResourceQueryOption.isAllowed, hall, Bool.true_or, Bool.true_or]
  have hvalid : (s.eventOption log).setTableNameAlways.base.isValid
      (event.row hostgroupId none).host = s.servers.contains event.serverId := by
    rw [HostResourceQueryOption.isValid]
    rfl
  have htargeted : (s.eventOption log).setTableNameAlways.base.isTargeted
      (event.row hostgroupId none).host = (event.serverId == log.serverId) := by
    have htarget : (log.serverId == allServers) = false := beq_eq_false_iff_ne.mpr hserver
    have heq : (s.eventOption log).setTableNameAlways.base.isTargeted
        (event.row hostgroupId none).host =
          ((log.serverId == allServers || event.serverId == log.serverId) && true && true) := rfl
    rw [heq, htarget, Bool.false_or, Bool.and_true, Bool.and_true]
  have hcolumns : (s.eventOption log).setTableNameAlways.base.hasColumns = true := rfl
  rw [HostResourceQueryOption.shows_row
    ((s.eventOption log).setTableNameAlways.hasRow_value (event.row hostgroupId none)),
    hpasses, HostResourceQueryOption.leaks, hgroups, hhosts, HostResourceQueryOption.answers,
    HostResourceQueryOption.denied, HostResourceQueryOption.hasEntries, hall, hterms, hcolumns,
    HostResourceQueryOption.inBase, hallowed, hvalid, htargeted]
  simp

theorem getEventInfos_eventOption (s : ActionSources) {log : ActionLog}
    (hserver : log.serverId ≠ allServers) :
    s.monitoring.getEventInfos (s.eventOption log) = .ok (s.monitoring.events.filter fun event =>
      s.servers.contains event.serverId && event.serverId == log.serverId &&
        event.id == log.eventId) := by
  have hall := s.has_getAllServer_eventOption log
  have hdenied : (s.eventOption log).setTableNameAlways.base.denied = false := by
    rw [HostResourceQueryOption.denied, hall]
    rfl
  obtain ⟨base, hbase, -⟩ := HostResourceQueryOption.denotes_form
    (o := (s.eventOption log).setTableNameAlways.base) rfl hdenied
  obtain ⟨condition, hcondition⟩ :
      ∃ condition, (s.eventOption log).setTableNameAlways.getCondition = .ok condition := by
    rw [EventsQueryOption.getCondition, hbase]
    exact ⟨_, rfl⟩
  have hshows : ∀ (event : EventRecord) (hostgroupId : HostgroupIdType),
      selects condition (event.row hostgroupId none).value =
        (s.servers.contains event.serverId && event.serverId == log.serverId &&
          event.id == log.eventId) := by
    intro event hostgroupId
    have hrow := EventsQueryOption.shows_eq_passesOwn (s.hasNoFilters_eventOption log)
      (by simp [eventOption, EventsQueryOption.new, EventsQueryOption.setTableNameAlways])
      (event.row hostgroupId none)
    rw [base_shows_eventOption s hserver, passesOwn_eventOption, EventsQueryOption.shows,
      hcondition] at hrow
    exact hrow
  have hgroups : ∀ event, s.monitoring.joinHostgroups (s.eventOption log).setTableNameAlways event =
      [allHostGroups] := by
    intro event
    have hunused : (s.eventOption log).setTableNameAlways.base.isHostgroupUsed = false := by
      rw [HostResourceQueryOption.isHostgroupUsed,
        HostResourceQueryOption.isHostgroupEnumerationInCondition, hall]
      rfl
    rw [MonitoringTables.joinHostgroups, hunused]
    rfl
  simp only [MonitoringTables.getEventInfos, hcondition, hgroups, List.any_cons, List.any_nil,
    Bool.or_false]
  change Except.ok _ = Except.ok _
  congr 1
  split
  next hfalse =>
    obtain rfl : condition = alwaysFalseCondition := beq_iff_eq.mp hfalse
    symm
    rw [List.filter_eq_nil_iff]
    intro event _
    rw [← hshows event allHostGroups]
    exact Bool.false_ne_true
  next =>
    apply List.filter_congr
    intro event _
    exact hshows event allHostGroups

theorem selects_actionOption (log : ActionLog) (actionDef : ActionDef) :
    selects ((actionOption log).getCondition []) actionDef.value =
      (actionDef.isUserDefined && actionDef.id == log.actionId) := by
  have hge : Denotes ("action_type" ++ ">=" ++ encInt 0) (some (.cmp "action_type" .ge (.int 0))) :=
    denotes_cmp (by decide) opens_ge (separates rfl) (denotes_encInt 0)
  have hlt : Denotes ("action_type" ++ "<" ++ encInt 2) (some (.cmp "action_type" .lt (.int 2))) :=
    denotes_lt (by decide) 2
  have huser : Denotes (makeUserActionsCondition "")
      (some (.paren (.and (.cmp "action_type" .ge (.int 0)) (.cmp "action_type" .lt (.int 2))))) :=
        by
    rw [makeUserActionsCondition, if_pos rfl]
    exact (hge.and hlt).paren
  have hidList := denotes_makeIdListCondition [log.actionId]
  have hcondition : (actionOption log).getCondition [] =
      makeUserActionsCondition "" ++ " AND " ++ makeIdListCondition [log.actionId] := by
    have hall : OperationPrivilege.allPrivileges.has .getAllAction := by decide
    simp [actionOption, ActionsQueryOption.getCondition,
      ActionsQueryOption.getActionTypeAndOwnerCondition, ActionsQueryOption.system, hall, addAnd,
      addCondition, hidList.ne_empty, huser.ne_empty]
  have hholds : (Text.paren (.and (.cmp "action_type" .ge (.int 0))
      (.cmp "action_type" .lt (.int 2)))).holds actionDef.value = actionDef.isUserDefined := by
    have htype : actionDef.value "action_type" = .int actionDef.type.value := rfl
    rw [Text.holds_paren _ rfl]
    simp only [Text.alternatives, conjoin, Text.holds_cmp, htype,
      (Text.compareValue_order_int actionDef.type.value 0).2.2.2,
      (Text.compareValue_order_int actionDef.type.value 2).1, List.any_cons, List.any_nil,
      Bool.or_false]
    rw [ActionDef.isUserDefined]
    cases actionDef.type <;> rfl
  rw [hcondition, selects_and huser hidList rfl rfl, hholds, ActionDef.holds_idList]
  simp [beq_eq_decide]

theorem getActionList_actionOption (s : ActionSources) (log : ActionLog) :
    s.actions.getActionList s.validator (actionOption log) [] = s.actions.rows.filter
      fun actionDef => actionDef.isUserDefined && actionDef.id == log.actionId &&
        s.validator.isValid actionDef := by
  rw [ActionsTable.getActionList, List.filter_filter]
  apply List.filter_congr
  intro actionDef _
  rw [selects_actionOption, Bool.and_comm]

/-- The event and the action that the loop finds for a log. -/
def found (s : ActionSources) (log : ActionLog) : Option (EventRecord × ActionDef) :=
  (s.monitoring.events.find? fun event => s.servers.contains event.serverId &&
    event.serverId == log.serverId && event.id == log.eventId).bind fun event =>
      (s.actions.rows.find? fun actionDef => actionDef.isUserDefined &&
        actionDef.id == log.actionId && s.validator.isValid actionDef).map (event, ·)

/-- What is found depends on the action and the event of the log only. -/
theorem found_congr (s : ActionSources) {log log' : ActionLog} (h : log.key = log'.key) :
    s.found log = s.found log' := by
  obtain ⟨haction, hserver, hevent⟩ :
      log.actionId = log'.actionId ∧ log.serverId = log'.serverId ∧ log.eventId = log'.eventId := by
    simpa [ActionLog.key] using h
  simp only [found, haction, hserver, hevent]

/-- What a log takes from the records as it is given up. -/
def giveUp (r : Recovery) (log : ActionLog) : Recovery :=
  { r with records := { r.records with logs := r.records.logs.updateLogStatusToAborted log.id } }

/-- The records as the action of a log has been run. -/
def ran (r : Recovery) (log : ActionLog) (event : EventRecord) (actionDef : ActionDef)
    (records : ActionRecords) : Recovery where
  records := records
  runs :=
    if checkActionOwner actionDef = some true then
      r.runs ++ [⟨log.id, actionDef, event.eventInfo⟩]
    else r.runs

section Loop

variable {s : ActionSources} {env : ActionLogIdType → ActionEnv} {log : ActionLog}

theorem reExecuteLogs_of_found_none (hserver : log.serverId ≠ allServers)
    (h : s.found log = none) (rest : List ActionLog) (steps : Nat) (r : Recovery) :
    s.reExecuteLogs env (log :: rest) steps r = s.reExecuteLogs env rest steps r := by
  simp only [found, ← List.head?_filter] at h
  rw [reExecuteLogs, s.getEventInfos_eventOption hserver, s.getActionList_actionOption]
  cases hevents : s.monitoring.events.filter fun event => s.servers.contains event.serverId &&
      event.serverId == log.serverId && event.id == log.eventId with
  | nil => rfl
  | cons event events =>
    rw [hevents, List.head?_cons, Option.bind_some, Option.map_eq_none_iff,
      List.head?_eq_none_iff] at h
    rw [h]

theorem reExecuteLogs_of_found (hserver : log.serverId ≠ allServers)
    {event : EventRecord} {actionDef : ActionDef} (h : s.found log = some (event, actionDef))
    (rest : List ActionLog) (steps : Nat) (r : Recovery) :
    s.reExecuteLogs env (log :: rest) steps r =
      match steps with
      | 0 => (r, .stopped)
      | 1 => (giveUp r log, .stopped)
      | steps + 2 =>
        match (giveUp r log).records.runAction actionDef event.eventInfo (env log.id) with
        | none => (giveUp r log, .thrown)
        | some records =>
          s.reExecuteLogs env rest steps (ran (giveUp r log) log event actionDef records) := by
  simp only [found, ← List.head?_filter] at h
  rw [reExecuteLogs, s.getEventInfos_eventOption hserver, s.getActionList_actionOption]
  obtain ⟨event', hevent, hrest⟩ := Option.bind_eq_some_iff.mp h
  obtain ⟨actionDef', haction, heq⟩ := Option.map_eq_some_iff.mp hrest
  obtain ⟨rfl, rfl⟩ := Prod.mk.inj heq
  obtain ⟨events, hevents⟩ := List.head?_eq_some_iff.mp hevent
  obtain ⟨actionDefs, hactions⟩ := List.head?_eq_some_iff.mp haction
  rw [hevents, hactions]
  rcases steps with - | - | steps <;> rfl

end Loop

/-! ## Logs that can be recovered -/

/-- The event and the action of a log exist. -/
def Exists (s : ActionSources) (log : ActionLog) : Prop :=
  (∃ event ∈ s.monitoring.events, event.serverId = log.serverId ∧ event.id = log.eventId) ∧
    ∃ actionDef ∈ s.actions.rows, actionDef.id = log.actionId

instance (s : ActionSources) (log : ActionLog) : Decidable (s.Exists log) :=
  inferInstanceAs (Decidable (_ ∧ _))

/-- The server is set up, and the action is a command or a resident of a user who exists. -/
def Recoverable (s : ActionSources) (log : ActionLog) : Prop :=
  s.servers.contains log.serverId ∧ ∃ actionDef ∈ s.actions.rows, actionDef.id = log.actionId ∧
    actionDef.isUserDefined ∧ s.validator.isValid actionDef ∧ actionDef.ownerUserId ≠ userIdSystem

instance (s : ActionSources) (log : ActionLog) : Decidable (s.Recoverable log) :=
  inferInstanceAs (Decidable (_ ∧ _))

theorem recoverable_congr (s : ActionSources) {log log' : ActionLog} (h : log.key = log'.key) :
    s.Recoverable log ↔ s.Recoverable log' := by
  obtain ⟨haction, hserver, -⟩ :
      log.actionId = log'.actionId ∧ log.serverId = log'.serverId ∧ log.eventId = log'.eventId := by
    simpa [ActionLog.key] using h
  simp only [Recoverable, haction, hserver]

/-- The owner of a user-defined action is checked by an assertion. -/
theorem checkActionOwner_of_isUserDefined {actionDef : ActionDef} (h : actionDef.isUserDefined) :
    checkActionOwner actionDef =
      if actionDef.ownerUserId ≠ userIdSystem then some true else none := by
  have htype : actionDef.type ≠ .incidentSender := by
    intro htype
    simp [ActionDef.isUserDefined, htype] at h
  rw [checkActionOwner, if_neg htype]

/-- What is found, and that the owner is one who may have the action run. -/
structure Finds (s : ActionSources) (log : ActionLog) (event : EventRecord)
    (actionDef : ActionDef) : Prop where
  event_mem : event ∈ s.monitoring.events
  serverId : event.serverId = log.serverId
  eventId : event.id = log.eventId
  server : s.servers.contains log.serverId
  action_mem : actionDef ∈ s.actions.rows
  actionId : actionDef.id = log.actionId
  isUserDefined : actionDef.isUserDefined
  isValid : s.validator.isValid actionDef

theorem finds_of_found {s : ActionSources} {log : ActionLog} {event : EventRecord}
    {actionDef : ActionDef} (h : s.found log = some (event, actionDef)) :
    s.Finds log event actionDef := by
  obtain ⟨event', hevent, hrest⟩ := Option.bind_eq_some_iff.mp h
  obtain ⟨actionDef', haction, heq⟩ := Option.map_eq_some_iff.mp hrest
  obtain ⟨rfl, rfl⟩ := Prod.mk.inj heq
  have heventSome := List.find?_some hevent
  have hactionSome := List.find?_some haction
  simp only [Bool.and_eq_true, beq_iff_eq] at heventSome hactionSome
  obtain ⟨⟨hserver, hserverId⟩, heventId⟩ := heventSome
  obtain ⟨⟨huser, hactionId⟩, hvalid⟩ := hactionSome
  exact
    { event_mem := List.mem_of_find?_eq_some hevent
      serverId := hserverId
      eventId := heventId
      server := hserverId ▸ hserver
      action_mem := List.mem_of_find?_eq_some haction
      actionId := hactionId
      isUserDefined := huser
      isValid := hvalid }

/-- The log is one whose action is run. -/
def Runs (s : ActionSources) (log : ActionLog) : Prop :=
  ∃ event actionDef, s.found log = some (event, actionDef) ∧ checkActionOwner actionDef = some true

theorem runs_congr (s : ActionSources) {log log' : ActionLog} (h : log.key = log'.key) :
    s.Runs log ↔ s.Runs log' := by
  simp only [Runs, s.found_congr h]

theorem exists_of_found {s : ActionSources} {log : ActionLog} (h : (s.found log).isSome) :
    s.Exists log := by
  obtain ⟨⟨event, actionDef⟩, hfound⟩ := Option.isSome_iff_exists.mp h
  have hfinds := finds_of_found hfound
  exact ⟨⟨event, hfinds.event_mem, hfinds.serverId, hfinds.eventId⟩, actionDef, hfinds.action_mem,
    hfinds.actionId⟩

theorem runs_iff (s : ActionSources) {log : ActionLog} (hexists : s.Exists log) :
    s.Runs log ↔ s.Recoverable log := by
  constructor
  · rintro ⟨event, actionDef, hfound, howner⟩
    have hfinds := finds_of_found hfound
    refine ⟨hfinds.server, actionDef, hfinds.action_mem, hfinds.actionId, hfinds.isUserDefined,
      hfinds.isValid, ?_⟩
    intro hsystem
    rw [checkActionOwner_of_isUserDefined hfinds.isUserDefined, if_neg (not_not.mpr hsystem)]
      at howner
    cases howner
  · rintro ⟨hserver, actionDef, hmem, hid, huser, hvalid, howner⟩
    obtain ⟨⟨event, hevent, hserverId, heventId⟩, -⟩ := hexists
    have hfoundEvent : (s.monitoring.events.find? fun event =>
        s.servers.contains event.serverId && event.serverId == log.serverId &&
          event.id == log.eventId).isSome := by
      rw [List.find?_isSome]
      exact ⟨event, hevent, by simp [hserver, hserverId, heventId]⟩
    have hfoundAction : (s.actions.rows.find? fun actionDef => actionDef.isUserDefined &&
        actionDef.id == log.actionId && s.validator.isValid actionDef).isSome := by
      rw [List.find?_isSome]
      exact ⟨actionDef, hmem, by simp [huser, hid, hvalid]⟩
    obtain ⟨event', hevent'⟩ := Option.isSome_iff_exists.mp hfoundEvent
    obtain ⟨actionDef', haction'⟩ := Option.isSome_iff_exists.mp hfoundAction
    have hfound : s.found log = some (event', actionDef') := by
      rw [found, hevent', Option.bind_some, haction', Option.map_some]
    have hfinds := finds_of_found hfound
    -- the ids of actions are different, so the action that is found is this one
    obtain rfl : actionDef' = actionDef :=
      s.actions.eq_of_id hfinds.action_mem hmem (hfinds.actionId.trans hid.symm)
    refine ⟨event', actionDef', hfound, ?_⟩
    rw [checkActionOwner_of_isUserDefined huser, if_pos howner]

/-! ## The loop -/

/-- The logs whose event and action are found. -/
def foundLogs (s : ActionSources) (logs : List ActionLog) : List ActionLog :=
  logs.filter fun log => (s.found log).isSome

def runOf (s : ActionSources) (log : ActionLog) : Option ActionRun :=
  (s.found log).map fun (event, actionDef) => ⟨log.id, actionDef, event.eventInfo⟩

/-- The logs with some ids are given up. -/
def abortAll (ids : List ActionLogIdType) (log : ActionLog) : ActionLog :=
  if log.id ∈ ids then { log with status := .aborted } else log

@[simp] theorem id_abortAll (ids : List ActionLogIdType) (log : ActionLog) :
    (abortAll ids log).id = log.id := by
  unfold abortAll
  split <;> rfl

@[simp] theorem key_abortAll (ids : List ActionLogIdType) (log : ActionLog) :
    (abortAll ids log).key = log.key := by
  unfold abortAll
  split <;> rfl

theorem abortAll_aborted (logId : ActionLogIdType) (ids : List ActionLogIdType) (log : ActionLog) :
    abortAll ids (ActionLogsTable.aborted logId log) = abortAll (logId :: ids) log := by
  simp only [abortAll, ActionLogsTable.aborted, List.mem_cons]
  by_cases hid : log.id = logId <;> by_cases hids : log.id ∈ ids <;> simp [hid, hids]

/-- Some logs have been given up and the actions of some of them run. Each log that this has
    written is for the action and the event of one of these. -/
structure Recovered (s : ActionSources) (r r' : Recovery) (givenUp ran : List ActionLog) :
    Prop where
  rows : ∃ added, r'.records.logs.rows =
      r.records.logs.rows.map (abortAll (givenUp.map ActionLog.id)) ++ added ∧
    (added.map ActionLog.id).Nodup ∧
    ∀ log ∈ added, r.records.logs.nextId ≤ log.id ∧ ∃ log' ∈ ran, log.key = log'.key
  runs : r'.runs = r.runs ++ ran.filterMap s.runOf

theorem recovered_nil (s : ActionSources) (r : Recovery) : Recovered s r r [] [] where
  rows := by
    have hid : abortAll [] = id := by
      funext log
      simp [abortAll]
    exact ⟨[], by simp [hid], List.nodup_nil, by simp⟩
  runs := by simp

theorem recovered_giveUp (s : ActionSources) (r : Recovery) (log : ActionLog) :
    Recovered s r (giveUp r log) [log] [] where
  rows := by
    have haborted : abortAll [log.id] = ActionLogsTable.aborted log.id := by
      funext other
      simp [abortAll, ActionLogsTable.aborted]
    exact ⟨[], by simp [giveUp, ActionLogsTable.updateLogStatusToAborted, haborted],
      List.nodup_nil, by simp⟩
  runs := by simp [giveUp]

/-- A log whose action is run, and then the others. -/
theorem Recovered.cons {s : ActionSources} {r r' : Recovery} {log : ActionLog}
    {event : EventRecord} {actionDef : ActionDef} {records : ActionRecords} {env : ActionEnv}
    {givenUp rest : List ActionLog} (hfound : s.found log = some (event, actionDef))
    (howner : checkActionOwner actionDef = some true)
    (hrun : (giveUp r log).records.runAction actionDef event.eventInfo env = some records)
    (hlt : ∀ log ∈ givenUp, log.id < r.records.logs.nextId)
    (h : Recovered s (ran (giveUp r log) log event actionDef records) r' givenUp rest) :
    Recovered s r r' (log :: givenUp) (log :: rest) where
  rows := by
    obtain ⟨added, hrows, hnodup, hadded⟩ := h.rows
    have hmap : (giveUp r log).records.logs.rows.map (abortAll (givenUp.map ActionLog.id)) =
        r.records.logs.rows.map (abortAll ((log :: givenUp).map ActionLog.id)) := by
      simp [giveUp, ActionLogsTable.updateLogStatusToAborted, abortAll_aborted]
    rcases ActionRecords.logsOneAtMost_runAction hrun with hsame | ⟨new, hid, hkey, hnew, hnext⟩
    · rw [ran, hsame] at hrows hadded
      refine ⟨added, by rw [hrows, hmap], hnodup, fun other hother => ?_⟩
      obtain ⟨hge, log', hlog', heq⟩ := hadded other hother
      exact ⟨hge, log', List.mem_cons_of_mem _ hlog', heq⟩
    · have hfinds := finds_of_found hfound
      have hnewKey : new.key = log.key := by
        rw [hkey, ActionLog.key, hfinds.actionId]
        exact congrArg₂ (fun a b => (log.actionId, a, b)) hfinds.serverId hfinds.eventId
      have hkept : abortAll (givenUp.map ActionLog.id) new = new := by
        rw [abortAll, if_neg]
        intro hmem
        obtain ⟨other, hother, heq⟩ := List.mem_map.mp hmem
        have hltOther := hlt other hother
        rw [heq, hid] at hltOther
        exact absurd hltOther (Nat.lt_irrefl _)
      have hafter : ∀ other ∈ added, r.records.logs.nextId + 1 ≤ other.id := by
        intro other hother
        have hge := (hadded other hother).1
        rwa [ran, hnext] at hge
      refine ⟨new :: added, ?_, ?_, ?_⟩
      · rw [hrows, ran, hnew, List.map_append, hmap, List.map_singleton, hkept, List.append_assoc]
        rfl
      · rw [List.map_cons, List.nodup_cons]
        refine ⟨?_, hnodup⟩
        intro hmem
        obtain ⟨other, hother, heq⟩ := List.mem_map.mp hmem
        have hge := hafter other hother
        rw [heq, hid] at hge
        exact absurd hge (Nat.not_succ_le_self _)
      · intro other hother
        rcases List.mem_cons.mp hother with rfl | hother
        · exact ⟨hid.ge, log, by simp, hnewKey⟩
        · obtain ⟨-, log', hlog', heq⟩ := hadded other hother
          exact ⟨(Nat.le_succ _).trans (hafter other hother), log', List.mem_cons_of_mem _ hlog',
            heq⟩
  runs := by
    rw [h.runs, ran, if_pos howner]
    simp [runOf, hfound, giveUp]

theorem reExecuteLogs_spec (s : ActionSources) (env : ActionLogIdType → ActionEnv)
    {logs : List ActionLog} (hservers : ∀ log ∈ logs, log.serverId ≠ allServers) (steps : Nat)
    (r : Recovery) (hlt : ∀ log ∈ logs, log.id < r.records.logs.nextId) :
    ∃ a b, (∀ log ∈ (s.foundLogs logs).take b, s.Runs log) ∧
      ((∀ log ∈ s.foundLogs logs, s.Runs log) → a = (steps + 1) / 2 ∧ b = steps / 2) ∧
      Recovered s r (s.reExecuteLogs env logs steps r).1 ((s.foundLogs logs).take a)
        ((s.foundLogs logs).take b) := by
  induction logs generalizing steps r with
  | nil =>
    refine ⟨(steps + 1) / 2, steps / 2, by simp [foundLogs], fun _ => ⟨rfl, rfl⟩, ?_⟩
    simpa [foundLogs, reExecuteLogs] using recovered_nil s r
  | cons log rest ih =>
    have hserver := hservers log (by simp)
    have hrest : ∀ log ∈ rest, log.serverId ≠ allServers := fun log hlog =>
      hservers log (List.mem_cons_of_mem _ hlog)
    cases hfound : s.found log with
    | none =>
      have hskip : s.foundLogs (log :: rest) = s.foundLogs rest := by simp [foundLogs, hfound]
      rw [reExecuteLogs_of_found_none hserver hfound, hskip]
      exact ih hrest steps r fun log hlog => hlt log (List.mem_cons_of_mem _ hlog)
    | some pair =>
      obtain ⟨event, actionDef⟩ := pair
      have htake : s.foundLogs (log :: rest) = log :: s.foundLogs rest := by
        simp [foundLogs, hfound]
      rw [reExecuteLogs_of_found hserver hfound, htake]
      match steps with
      | 0 => exact ⟨0, 0, by simp, fun _ => ⟨rfl, rfl⟩, recovered_nil s r⟩
      | 1 => exact ⟨1, 0, by simp, fun _ => ⟨rfl, rfl⟩, by simpa using recovered_giveUp s r log⟩
      | steps + 2 =>
        cases hrun : (giveUp r log).records.runAction actionDef event.eventInfo (env log.id) with
        | none =>
          refine ⟨1, 0, by simp, fun hall => ?_, by simpa using recovered_giveUp s r log⟩
          obtain ⟨event', actionDef', hfound', howner⟩ := hall log (by simp)
          rw [hfound] at hfound'
          cases hfound'
          rw [ActionRecords.runAction_eq_none.mp hrun] at howner
          cases howner
        | some records =>
          have huser := (finds_of_found hfound).isUserDefined
          have howner : checkActionOwner actionDef = some true := by
            have hne : checkActionOwner actionDef ≠ none := fun hnone => by
              rw [ActionRecords.runAction_eq_none.mpr hnone] at hrun
              cases hrun
            rw [checkActionOwner_of_isUserDefined huser] at hne ⊢
            exact if_pos (by_contra fun hsystem => hne (if_neg hsystem))
          have hnext : r.records.logs.nextId ≤ records.logs.nextId := by
            rcases ActionRecords.logsOneAtMost_runAction hrun with hsame | ⟨-, -, -, -, hnext⟩
            · rw [hsame]
              exact le_rfl
            · rw [hnext]
              exact Nat.le_succ _
          have hltRest : ∀ log ∈ rest, log.id < r.records.logs.nextId := fun log hlog =>
            hlt log (List.mem_cons_of_mem _ hlog)
          obtain ⟨a, b, hruns, hall, hrecovered⟩ := ih hrest steps
            (ran (giveUp r log) log event actionDef records) fun log hlog =>
              (hltRest log hlog).trans_le hnext
          refine ⟨a + 1, b + 1, ?_, ?_, ?_⟩
          · intro log' hlog'
            rcases List.mem_cons.mp hlog' with rfl | hlog'
            · exact ⟨event, actionDef, hfound, howner⟩
            · exact hruns log' hlog'
          · intro hallCons
            obtain ⟨ha, hb⟩ := hall fun log hlog => hallCons log (List.mem_cons_of_mem _ hlog)
            omega
          · exact hrecovered.cons hfound howner hrun fun log hlog =>
              hltRest log (List.mem_filter.mp (List.mem_of_mem_take hlog)).1

/-! ## Runs for the logs -/

/-- The run is one of the action of a log, for the event of it. -/
def IsOf (run : ActionRun) (log : ActionLog) : Prop :=
  (run.actionDef.id, run.eventInfo.serverId, run.eventInfo.id) = log.key

theorem runOf_spec {s : ActionSources} {log : ActionLog} {run : ActionRun}
    (h : s.runOf log = some run) : run.logId = log.id ∧ IsOf run log := by
  obtain ⟨⟨event, actionDef⟩, hfound, rfl⟩ := Option.map_eq_some_iff.mp h
  have hfinds := finds_of_found hfound
  refine ⟨rfl, ?_⟩
  rw [IsOf, ActionLog.key, ← hfinds.actionId, ← hfinds.serverId, ← hfinds.eventId]
  rfl

theorem exists_runOf {s : ActionSources} {log : ActionLog} (h : s.Runs log) :
    ∃ run, s.runOf log = some run := by
  obtain ⟨event, actionDef, hfound, -⟩ := h
  exact ⟨_, by rw [runOf, hfound]; rfl⟩

theorem mem_foundLogs_of_runs {s : ActionSources} {log : ActionLog} {logs : List ActionLog}
    (hlog : log ∈ logs) (h : s.Runs log) : log ∈ s.foundLogs logs := by
  obtain ⟨event, actionDef, hfound, -⟩ := h
  exact List.mem_filter.mpr ⟨hlog, by simp [hfound]⟩

/-- Of logs with different ids one has the run for an id. -/
theorem filter_filterMap_runOf {s : ActionSources} {logs : List ActionLog}
    (hnodup : (logs.map ActionLog.id).Nodup) {log : ActionLog} (hlog : log ∈ logs)
    {run : ActionRun} (hrun : s.runOf log = some run) :
    (logs.filterMap s.runOf).filter (fun run => decide (run.logId = log.id)) = [run] := by
  have hone := filter_key_eq_singleton hnodup (lookup_of_mem hnodup hlog)
  have hrest : (logs.filterMap s.runOf).filter (fun run => decide (run.logId = log.id)) =
      (logs.filter fun other => decide (other.id = log.id)).filterMap s.runOf := by
    rw [List.filter_filterMap, List.filterMap_filter]
    congr 1
    funext other
    cases hother : s.runOf other with
    | none => simp
    | some otherRun => simp [Option.filter, (runOf_spec hother).1]
  rw [hrest, hone]
  simp [hrun]

/-! ## The logs -/

/-- The ids are a primary key, and a server is one server. -/
structure LogsSound (r : ActionRecords) : Prop where
  unique : (r.logs.rows.map ActionLog.id).Nodup
  servers : ∀ log ∈ r.logs.rows, log.serverId ≠ allServers

def unfinished (r : ActionRecords) : List ActionLog := r.logs.getTargetStatusesLogs targetStatuses

theorem mem_unfinished {r : ActionRecords} {log : ActionLog} :
    log ∈ unfinished r ↔
      log ∈ r.logs.rows ∧ log.status ∈ targetStatuses ∧ log.eventId ≠ emptyText := by
  simp [unfinished, ActionLogsTable.getTargetStatusesLogs]

theorem nodup_unfinished {r : ActionRecords} (h : LogsSound r) :
    ((unfinished r).map ActionLog.id).Nodup :=
  h.unique.sublist (List.filter_sublist.map _)

namespace Recovered

variable {s : ActionSources} {r r' : Recovery} {givenUp ran : List ActionLog}

theorem logsSound (h : Recovered s r r' givenUp ran) (hsound : LogsSound r.records)
    (hservers : ∀ log ∈ ran, log.serverId ≠ allServers) : LogsSound r'.records := by
  obtain ⟨added, hrows, hnodup, hadded⟩ := h.rows
  constructor
  · have hids : r.records.logs.rows.map (ActionLog.id ∘ abortAll (givenUp.map ActionLog.id)) =
        r.records.logs.rows.map ActionLog.id :=
      List.map_congr_left fun log _ => id_abortAll _ log
    rw [hrows, List.map_append, List.map_map, hids, List.nodup_append]
    refine ⟨hsound.unique, hnodup, ?_⟩
    intro id hold id' hnew heq
    obtain ⟨log, hlog, rfl⟩ := List.mem_map.mp hold
    obtain ⟨log', hlog', rfl⟩ := List.mem_map.mp hnew
    have hlt := r.records.logs.fresh log hlog
    have hge := (hadded log' hlog').1
    rw [← heq] at hge
    exact absurd hlt (Nat.not_lt.mpr hge)
  · intro log hlog
    rw [hrows] at hlog
    rcases List.mem_append.mp hlog with hold | hnew
    · obtain ⟨old, hmem, rfl⟩ := List.mem_map.mp hold
      have hkey := key_abortAll (givenUp.map ActionLog.id) old
      have hserver : (abortAll (givenUp.map ActionLog.id) old).serverId = old.serverId :=
        congrArg (fun key => key.2.1) hkey
      rw [hserver]
      exact hsound.servers old hmem
    · obtain ⟨-, log', hlog', hkey⟩ := hadded log hnew
      have hserver : log.serverId = log'.serverId := congrArg (fun key => key.2.1) hkey
      rw [hserver]
      exact hservers log' hlog'

theorem mem_unfinished_of_mem (h : Recovered s r r' givenUp ran) {log : ActionLog}
    (hlog : log ∈ unfinished r'.records) :
    (log ∈ unfinished r.records ∧ log ∉ givenUp) ∨ ∃ log' ∈ ran, log.key = log'.key := by
  obtain ⟨added, hrows, -, hadded⟩ := h.rows
  obtain ⟨hmem, hstatus, hevent⟩ := ActionSources.mem_unfinished.mp hlog
  rw [hrows] at hmem
  rcases List.mem_append.mp hmem with hold | hnew
  · left
    obtain ⟨old, holdMem, heq⟩ := List.mem_map.mp hold
    have hid : old.id ∉ givenUp.map ActionLog.id := by
      intro hid
      rw [abortAll, if_pos hid] at heq
      rw [← heq] at hstatus
      exact absurd hstatus (by simp [targetStatuses])
    rw [abortAll, if_neg hid] at heq
    subst heq
    exact ⟨ActionSources.mem_unfinished.mpr ⟨holdMem, hstatus, hevent⟩,
      fun hgivenUp => hid (List.mem_map_of_mem hgivenUp)⟩
  · exact Or.inr (hadded log hnew).2

theorem mem_unfinished (h : Recovered s r r' givenUp ran) {log : ActionLog}
    (hlog : log ∈ unfinished r.records) (hid : ∀ other ∈ givenUp, other.id ≠ log.id) :
    log ∈ unfinished r'.records := by
  obtain ⟨added, hrows, -, -⟩ := h.rows
  obtain ⟨hmem, hstatus, hevent⟩ := ActionSources.mem_unfinished.mp hlog
  have hkept : abortAll (givenUp.map ActionLog.id) log = log := by
    rw [abortAll, if_neg]
    intro hgivenUp
    obtain ⟨other, hother, heq⟩ := List.mem_map.mp hgivenUp
    exact hid other hother heq
  refine ActionSources.mem_unfinished.mpr ⟨?_, hstatus, hevent⟩
  rw [hrows, ← hkept]
  exact List.mem_append_left _ (List.mem_map_of_mem hmem)

end Recovered

/-! ## Restarts -/

/-- The unfinished logs whose action and event exist. -/
def existing (s : ActionSources) (r : ActionRecords) : List ActionLog :=
  (unfinished r).filter fun log => decide (s.Exists log)

def RecoverableAll (s : ActionSources) (r : ActionRecords) : Prop :=
  ∀ log ∈ s.existing r, s.Recoverable log

instance (s : ActionSources) (r : ActionRecords) : Decidable (s.RecoverableAll r) :=
  inferInstanceAs (Decidable (∀ log ∈ _, _))

def LeavesFinished (r : ActionRecords) (done : Recovery) : Prop :=
  ∀ log ∈ r.logs.rows, log.status ∉ targetStatuses →
    lookup ActionLog.id done.records.logs.rows log.id = some log

/-- The log has been given up, and its action has been run once. -/
structure Recovers (done : Recovery) (log : ActionLog) : Prop where
  aborted : lookup ActionLog.id done.records.logs.rows log.id =
    some { log with status := .aborted }
  once : ∃ run, done.runs.filter (fun run => decide (run.logId = log.id)) = [run] ∧ IsOf run log

section Restart

variable {s : ActionSources} {env : ActionLogIdType → ActionEnv} {r : ActionRecords}

theorem mem_existing {log : ActionLog} :
    log ∈ s.existing r ↔ log ∈ unfinished r ∧ s.Exists log := by
  simp [existing]

theorem reExecuteUnfinishedAction_spec (h : LogsSound r) (env : ActionLogIdType → ActionEnv)
    (steps : Nat) :
    ∃ a b, (∀ log ∈ (s.foundLogs (unfinished r)).take b, s.Runs log) ∧
      ((∀ log ∈ s.foundLogs (unfinished r), s.Runs log) → a = (steps + 1) / 2 ∧ b = steps / 2) ∧
      Recovered s ⟨r, []⟩ (s.reExecuteUnfinishedAction env steps r).1
        ((s.foundLogs (unfinished r)).take a) ((s.foundLogs (unfinished r)).take b) :=
  s.reExecuteLogs_spec env
    (fun log hlog => h.servers log (mem_unfinished.mp hlog).1) steps ⟨r, []⟩
    fun log hlog => r.logs.fresh log (mem_unfinished.mp hlog).1

theorem mem_of_mem_foundLogs {logs : List ActionLog} {log : ActionLog}
    (h : log ∈ s.foundLogs logs) : log ∈ logs ∧ s.Exists log :=
  ⟨(List.mem_filter.mp h).1, exists_of_found (List.mem_filter.mp h).2⟩

theorem nodup_foundLogs (h : LogsSound r) :
    ((s.foundLogs (unfinished r)).map ActionLog.id).Nodup :=
  (nodup_unfinished h).sublist (List.filter_sublist.map _)

theorem runs_of_recoverableAll (h : s.RecoverableAll r) {log : ActionLog}
    (hlog : log ∈ s.foundLogs (unfinished r)) : s.Runs log := by
  obtain ⟨hunfinished, hexists⟩ := mem_of_mem_foundLogs hlog
  exact (s.runs_iff hexists).mpr (h log (mem_existing.mpr ⟨hunfinished, hexists⟩))

theorem foundLogs_eq_existing (h : s.RecoverableAll r) :
    s.foundLogs (unfinished r) = s.existing r := by
  apply List.filter_congr
  intro log hlog
  rw [Bool.eq_iff_iff, decide_eq_true_iff]
  refine ⟨exists_of_found, fun hexists => ?_⟩
  have hruns := (s.runs_iff hexists).mpr (h log (mem_existing.mpr ⟨hlog, hexists⟩))
  exact (List.mem_filter.mp (mem_foundLogs_of_runs hlog hruns)).2

/-- A run is for a log whose action is run. -/
theorem exists_runs_of_mem (h : LogsSound r) {steps : Nat} {run : ActionRun}
    (hrun : run ∈ (s.reExecuteUnfinishedAction env steps r).1.runs) :
    ∃ log ∈ unfinished r, s.Runs log ∧ run.logId = log.id ∧ IsOf run log := by
  obtain ⟨a, b, hruns, -, hrecovered⟩ := reExecuteUnfinishedAction_spec (s := s) h env steps
  rw [hrecovered.runs, List.nil_append] at hrun
  obtain ⟨log, hlog, hof⟩ := List.mem_filterMap.mp hrun
  have hspec := runOf_spec hof
  exact ⟨log, (mem_of_mem_foundLogs (List.mem_of_mem_take hlog)).1, hruns log hlog, hspec⟩

theorem logsSound_reExecuteUnfinishedAction (h : LogsSound r) (env : ActionLogIdType → ActionEnv)
    (steps : Nat) : LogsSound (s.reExecuteUnfinishedAction env steps r).1.records := by
  obtain ⟨a, b, -, -, hrecovered⟩ := reExecuteUnfinishedAction_spec (s := s) h env steps
  apply hrecovered.logsSound h
  intro log hlog
  have hunfinished := (mem_of_mem_foundLogs (List.mem_of_mem_take hlog)).1
  exact h.servers log (mem_unfinished.mp hunfinished).1

theorem eq_of_logId (h : LogsSound r) {log log' : ActionLog} (hlog : log ∈ r.logs.rows)
    (hlog' : log' ∈ r.logs.rows) (hid : log.id = log'.id) : log = log' :=
  List.inj_on_of_nodup_map h.unique hlog hlog' hid

theorem leavesFinished (h : LogsSound r) (env : ActionLogIdType → ActionEnv) (steps : Nat) :
    LeavesFinished r (s.reExecuteUnfinishedAction env steps r).1 := by
  intro log hlog hstatus
  obtain ⟨a, b, -, -, hrecovered⟩ := reExecuteUnfinishedAction_spec (s := s) h env steps
  obtain ⟨added, hrows, -, -⟩ := hrecovered.rows
  have hkept : abortAll (((s.foundLogs (unfinished r)).take a).map ActionLog.id) log = log := by
    rw [abortAll, if_neg]
    intro hgivenUp
    obtain ⟨other, hother, heq⟩ := List.mem_map.mp hgivenUp
    have hunfinished := mem_unfinished.mp (mem_of_mem_foundLogs (List.mem_of_mem_take hother)).1
    obtain rfl := eq_of_logId h hunfinished.1 hlog heq
    exact hstatus hunfinished.2.1
  apply lookup_of_mem (logsSound_reExecuteUnfinishedAction h env steps).unique
  rw [hrows, ← hkept]
  exact List.mem_append_left _ (List.mem_map_of_mem hlog)

theorem recover_eq (s : ActionSources) (env : ActionLogIdType → ActionEnv) (r : ActionRecords) :
    s.recover env r = s.reExecuteUnfinishedAction env (2 * (unfinished r).length) r := rfl

/-- Where no assertion fails, all logs that are found are given up and run. -/
theorem recover_of_runs (h : LogsSound r) (env : ActionLogIdType → ActionEnv)
    (hruns : ∀ log ∈ s.foundLogs (unfinished r), s.Runs log) :
    Recovered s ⟨r, []⟩ (s.recover env r).1 (s.foundLogs (unfinished r))
      (s.foundLogs (unfinished r)) := by
  obtain ⟨a, b, -, hsteps, hrecovered⟩ := reExecuteUnfinishedAction_spec (s := s) h env
    (2 * (unfinished r).length)
  obtain ⟨ha, hb⟩ := hsteps hruns
  have hlength : (s.foundLogs (unfinished r)).length ≤ (unfinished r).length :=
    List.length_filter_le _ _
  rw [List.take_of_length_le (by omega), List.take_of_length_le (by omega)] at hrecovered
  rwa [recover_eq]

theorem recovers_iff (h : LogsSound r) (env : ActionLogIdType → ActionEnv) :
    (∀ log ∈ s.existing r, Recovers (s.recover env r).1 log) ↔ s.RecoverableAll r := by
  constructor
  · intro hrecovers log hlog
    obtain ⟨run, hrun, -⟩ := (hrecovers log hlog).once
    have hmem : run ∈ [run] := List.mem_singleton_self run
    rw [← hrun, List.mem_filter, decide_eq_true_iff] at hmem
    obtain ⟨log', hlog', hruns, hid, -⟩ := exists_runs_of_mem h hmem.1
    obtain ⟨hunfinished, hexists⟩ := mem_existing.mp hlog
    obtain rfl := eq_of_logId h (mem_unfinished.mp hlog').1 (mem_unfinished.mp hunfinished).1
      (hid.symm.trans hmem.2)
    exact (s.runs_iff hexists).mp hruns
  · intro hall log hlog
    have hrecovered := recover_of_runs h env fun log hlog => runs_of_recoverableAll hall hlog
    have hfound : log ∈ s.foundLogs (unfinished r) := by
      rw [foundLogs_eq_existing hall]
      exact hlog
    constructor
    · obtain ⟨added, hrows, -, -⟩ := hrecovered.rows
      have hmem := (mem_unfinished.mp (mem_existing.mp hlog).1).1
      have haborted : abortAll ((s.foundLogs (unfinished r)).map ActionLog.id) log =
          { log with status := .aborted } := if_pos (List.mem_map_of_mem hfound)
      have hunique : ((s.recover env r).1.records.logs.rows.map ActionLog.id).Nodup :=
        (logsSound_reExecuteUnfinishedAction h env _).unique
      apply lookup_of_mem (r := { log with status := .aborted }) hunique
      rw [hrows, ← haborted]
      exact List.mem_append_left _ (List.mem_map_of_mem hmem)
    · obtain ⟨run, hrun⟩ := exists_runOf (runs_of_recoverableAll hall hfound)
      refine ⟨run, ?_, (runOf_spec hrun).2⟩
      rw [hrecovered.runs, List.nil_append]
      exact filter_filterMap_runOf (nodup_foundLogs h) hfound hrun

/-! ## A stop and a second start -/

/-- The action of the log has been run for its event. -/
def RunsFor (runs : List ActionRun) (log : ActionLog) : Prop := ∃ run ∈ runs, IsOf run log

/-- Where the process stops between giving up a log and running its action, another log is for the
    same action and event. -/
def NotCut (s : ActionSources) (r : ActionRecords) (steps : Nat) : Prop :=
  steps % 2 = 1 → ∀ log ∈ (s.existing r)[steps / 2]?,
    ∃ k ≠ steps / 2, ∃ other ∈ (s.existing r)[k]?, other.key = log.key

theorem exists_getElem?_of_mem_take {α : Type} {xs : List α} {n : Nat} {x : α}
    (h : x ∈ xs.take n) : ∃ k < n, xs[k]? = some x := by
  obtain ⟨k, hk⟩ := List.mem_iff_getElem?.mp h
  rw [List.getElem?_take] at hk
  split at hk
  next hlt => exact ⟨k, hlt, hk⟩
  next => cases hk

theorem mem_take_of_getElem? {α : Type} {xs : List α} {n k : Nat} {x : α} (hk : k < n)
    (h : xs[k]? = some x) : x ∈ xs.take n :=
  List.mem_of_getElem? (i := k) (by rw [List.getElem?_take, if_pos hk, h])

theorem recoverableAll_of_runsFor (h : LogsSound r) {env env' : ActionLogIdType → ActionEnv}
    {steps : Nat}
    (hruns : ∀ log ∈ s.existing r, RunsFor ((s.reExecuteUnfinishedAction env steps r).1.runs ++
      (s.recover env' (s.reExecuteUnfinishedAction env steps r).1.records).1.runs) log) :
    s.RecoverableAll r := by
  intro log hlog
  obtain ⟨run, hrun, hof⟩ := hruns log hlog
  have hsame : ∃ log', s.Runs log' ∧ IsOf run log' := by
    rcases List.mem_append.mp hrun with hfirst | hsecond
    · obtain ⟨log', -, hruns', -, hof'⟩ := exists_runs_of_mem h hfirst
      exact ⟨log', hruns', hof'⟩
    · obtain ⟨log', -, hruns', -, hof'⟩ :=
        exists_runs_of_mem (logsSound_reExecuteUnfinishedAction h env steps) hsecond
      exact ⟨log', hruns', hof'⟩
  obtain ⟨log', hruns', hof'⟩ := hsame
  have hkey : log'.key = log.key := hof'.symm.trans hof
  exact (s.runs_iff (mem_existing.mp hlog).2).mp ((s.runs_congr hkey).mp hruns')

section Recoverable

variable (h : LogsSound r) (hall : s.RecoverableAll r) (env env' : ActionLogIdType → ActionEnv)
  (steps : Nat)

include h hall

theorem recovered_of_recoverableAll :
    Recovered s ⟨r, []⟩ (s.reExecuteUnfinishedAction env steps r).1
      ((s.existing r).take ((steps + 1) / 2)) ((s.existing r).take (steps / 2)) := by
  obtain ⟨a, b, -, hsteps, hrecovered⟩ := reExecuteUnfinishedAction_spec (s := s) h env steps
  obtain ⟨rfl, rfl⟩ := hsteps fun log hlog => runs_of_recoverableAll hall hlog
  rwa [foundLogs_eq_existing hall] at hrecovered

/-- The second start finds logs that the first has left or made. -/
theorem mem_unfinished_stopped {log : ActionLog}
    (hlog : log ∈ unfinished (s.reExecuteUnfinishedAction env steps r).1.records)
    (hruns : s.Runs log) :
    (∃ k, (steps + 1) / 2 ≤ k ∧ (s.existing r)[k]? = some log) ∨
      ∃ k < steps / 2, ∃ other ∈ (s.existing r)[k]?, other.key = log.key := by
  have hrecovered := recovered_of_recoverableAll h hall env steps
  rcases hrecovered.mem_unfinished_of_mem hlog with ⟨hunfinished, hkept⟩ | ⟨log', hlog', hkey⟩
  · left
    have hmem : log ∈ s.existing r := by
      rw [← foundLogs_eq_existing hall]
      exact mem_foundLogs_of_runs hunfinished hruns
    obtain ⟨k, hk⟩ := List.mem_iff_getElem?.mp hmem
    exact ⟨k, Nat.not_lt.mp fun hlt => hkept (mem_take_of_getElem? hlt hk), hk⟩
  · right
    obtain ⟨k, hk, hget⟩ := exists_getElem?_of_mem_take hlog'
    exact ⟨k, hk, log', hget, hkey.symm⟩

theorem notCut_of_runsFor
    (hruns : ∀ log ∈ s.existing r, RunsFor ((s.reExecuteUnfinishedAction env steps r).1.runs ++
      (s.recover env' (s.reExecuteUnfinishedAction env steps r).1.records).1.runs) log) :
    s.NotCut r steps := by
  intro hodd log hlog
  obtain ⟨run, hrun, hof⟩ := hruns log (List.mem_of_getElem? hlog)
  rcases List.mem_append.mp hrun with hfirst | hsecond
  · rw [(recovered_of_recoverableAll h hall env steps).runs, List.nil_append] at hfirst
    obtain ⟨log', hlog', hrunOf⟩ := List.mem_filterMap.mp hfirst
    obtain ⟨k, hk, hget⟩ := exists_getElem?_of_mem_take hlog'
    exact ⟨k, hk.ne, log', hget, (runOf_spec hrunOf).2.symm.trans hof⟩
  · obtain ⟨log', hlog', hruns', -, hof'⟩ :=
      exists_runs_of_mem (logsSound_reExecuteUnfinishedAction h env steps) hsecond
    have hkey : log'.key = log.key := hof'.symm.trans hof
    rcases mem_unfinished_stopped h hall env steps hlog' hruns' with
      ⟨k, hk, hget⟩ | ⟨k, hk, other, hget, hkey'⟩
    · exact ⟨k, by omega, log', hget, hkey⟩
    · exact ⟨k, hk.ne, other, hget, hkey'.trans hkey⟩

theorem runsFor_of_notCut (hcut : s.NotCut r steps) :
    ∀ log ∈ s.existing r, RunsFor ((s.reExecuteUnfinishedAction env steps r).1.runs ++
      (s.recover env' (s.reExecuteUnfinishedAction env steps r).1.records).1.runs) log := by
  have hrecovered := recovered_of_recoverableAll h hall env steps
  have hrunsExisting : ∀ log ∈ s.existing r, s.Runs log := fun log hlog =>
    runs_of_recoverableAll hall (foundLogs_eq_existing hall ▸ hlog)
  intro log hlog
  -- a log for the action and the event at which the process does not stop
  obtain ⟨k, other, hget, hkey, hside⟩ : ∃ k other, (s.existing r)[k]? = some other ∧
      other.key = log.key ∧ (k < steps / 2 ∨ (steps + 1) / 2 ≤ k) := by
    obtain ⟨p, hp⟩ := List.mem_iff_getElem?.mp hlog
    by_cases hcutHere : steps % 2 = 1 ∧ p = steps / 2
    · obtain ⟨hodd, rfl⟩ := hcutHere
      obtain ⟨k, hk, other, hget, hkey⟩ := hcut hodd log hp
      exact ⟨k, other, hget, hkey, by omega⟩
    · exact ⟨p, log, hp, rfl, by omega⟩
  have hother := hrunsExisting other (List.mem_of_getElem? hget)
  obtain ⟨run, hrun⟩ := exists_runOf hother
  refine ⟨run, ?_, (runOf_spec hrun).2.trans hkey⟩
  rw [List.mem_append]
  rcases hside with hfirst | hsecond
  · left
    rw [hrecovered.runs, List.nil_append]
    exact List.mem_filterMap.mpr ⟨other, mem_take_of_getElem? hfirst hget, hrun⟩
  · right
    have hleft : other ∈ unfinished (s.reExecuteUnfinishedAction env steps r).1.records := by
      apply hrecovered.mem_unfinished (mem_existing.mp (List.mem_of_getElem? hget)).1
      intro givenUp hgivenUp heq
      obtain ⟨j, hj, hgetj⟩ := exists_getElem?_of_mem_take hgivenUp
      have hnodup : ((s.existing r).map ActionLog.id).Nodup :=
        (nodup_unfinished h).sublist (List.filter_sublist.map _)
      obtain rfl : givenUp = other := List.inj_on_of_nodup_map hnodup (List.mem_of_getElem? hgetj)
        (List.mem_of_getElem? hget) heq
      have hlt := (List.getElem?_eq_some_iff.mp hgetj).1
      have hjk := (List.getElem?_inj hlt hnodup.of_map).mp (hgetj.trans hget.symm)
      omega
    have hruns : ∀ log ∈ s.foundLogs
        (unfinished (s.reExecuteUnfinishedAction env steps r).1.records), s.Runs log := by
      intro log hlog
      obtain ⟨hunfinished, hfound⟩ := List.mem_filter.mp hlog
      rcases hrecovered.mem_unfinished_of_mem hunfinished with ⟨hold, -⟩ | ⟨log', hlog', hkey⟩
      · exact runs_of_recoverableAll hall (List.mem_filter.mpr ⟨hold, hfound⟩)
      · exact (s.runs_congr hkey).mpr (hrunsExisting log' (List.mem_of_mem_take hlog'))
    have hsound := logsSound_reExecuteUnfinishedAction (s := s) h env steps
    rw [(recover_of_runs hsound env' hruns).runs, List.nil_append]
    exact List.mem_filterMap.mpr ⟨other, mem_foundLogs_of_runs hleft hother, hrun⟩

end Recoverable

theorem runsFor_second_iff (h : LogsSound r) (env env' : ActionLogIdType → ActionEnv)
    (steps : Nat) :
    (∀ log ∈ s.existing r, RunsFor ((s.reExecuteUnfinishedAction env steps r).1.runs ++
      (s.recover env' (s.reExecuteUnfinishedAction env steps r).1.records).1.runs) log) ↔
        s.RecoverableAll r ∧ s.NotCut r steps := by
  constructor
  · intro hruns
    have hall := recoverableAll_of_runsFor h hruns
    exact ⟨hall, notCut_of_runsFor h hall env env' steps hruns⟩
  · rintro ⟨hall, hcut⟩
    exact runsFor_of_notCut h hall env env' steps hcut

end Restart

end ActionSources

/-- User 7 and incident tracker 1 are set up, and so is server 1 with event 1. -/
def recoverySources (actionDef : ActionDef) (hid : 0 < actionDef.id) : ActionSources where
  monitoring :=
    { events := [⟨1, 1, .ofString "1", ⟨0, 0⟩, 0, .ofString "1", 0, 0, 1, .ofString "1", emptyText⟩]
      members := []
      incidents := ⟨[], .empty _, IncidentTables.nodup_key_nil⟩ }
  actions :=
    { rows := [actionDef]
      unique := List.nodup_singleton _
      positive := fun _ hmem => List.mem_singleton.mp hmem ▸ hid }
  validator := ⟨{7}, {1}⟩
  servers := {1}

/-- Action 1 has been queued for the event. -/
def queuedRecords : ActionRecords where
  logs :=
    { rows := [⟨1, 1, .queuing, .none, none, 1, .ofString "1"⟩]
      nextId := 2
      fresh := fun _ hmem => List.mem_singleton.mp hmem ▸ Nat.lt_succ_self 1 }
  incidents := []

def incidentSenderOne : ActionDef :=
  { commandOf userIdSystem with type := .incidentSender, command := .ofString "1" }

def quietEnv : ActionLogIdType → ActionEnv := fun _ => ⟨none, false, false, false, none, true⟩

theorem logsSound_queuedRecords : ActionSources.LogsSound queuedRecords where
  unique := List.nodup_singleton _
  servers := by decide

namespace ActionSources

end ActionSources

end Hatohol

import Hatohol.Tables

/-!
# EventsQueryOption

The condition of a query for events (server/src/DBTablesMonitoring.cc:1000-1450): the condition
of the host resource query and behind it a dozen filters of its own. Types, severities and
statuses are numbers here, because a request may carry any number for them.
-/

namespace Hatohol

open Sql DBTermCodec

inductive SortDirection where
  | dontCare
  | ascending
  | descending
  deriving DecidableEq, Repr

inductive EventsSortType where
  | unifiedId
  | time
  deriving DecidableEq, Repr

/-- EVENT_TYPE_ALL -/
def eventTypeAll : Int := -1

/-- TRIGGER_SEVERITY_UNKNOWN -/
def triggerSeverityUnknown : Int := 0

/-- TRIGGER_STATUS_ALL -/
def triggerStatusAll : Int := -1

/-- ALL_TRIGGERS -/
def allTriggers : CString := ⟨"*", noNul_star⟩

/-! The columns of the events table that the filters name. -/

def idxEventsUnifiedId : Fin tableProfileEvents.numColumns := ⟨0, by decide⟩

def idxEventsId : Fin tableProfileEvents.numColumns := ⟨2, by decide⟩

def idxEventsTimeSec : Fin tableProfileEvents.numColumns := ⟨3, by decide⟩

def idxEventsTimeNs : Fin tableProfileEvents.numColumns := ⟨4, by decide⟩

def idxEventsEventType : Fin tableProfileEvents.numColumns := ⟨5, by decide⟩

def idxEventsTriggerId : Fin tableProfileEvents.numColumns := ⟨6, by decide⟩

def idxEventsStatus : Fin tableProfileEvents.numColumns := ⟨7, by decide⟩

def idxEventsSeverity : Fin tableProfileEvents.numColumns := ⟨8, by decide⟩

def idxEventsHostName : Fin tableProfileEvents.numColumns := ⟨11, by decide⟩

/-- The name of a column without the table's, as `COLUMN_DEF_EVENTS` has it. -/
def eventsColumnName (idx : Fin tableProfileEvents.numColumns) : String :=
  Column.columnName ⟨tableProfileEvents, idx⟩

/-- The status of the incident that was made from an event. -/
def incidentsStatusColumnName : String := "incidents" ++ "." ++ "status"

structure EventsQueryOption where
  base : HostResourceQueryOption
  isEvents : base.synapse = synapseEventsQueryOption
  limitOfUnifiedId : Nat
  sortType : EventsSortType
  sortDirection : SortDirection
  type : Int
  minSeverity : Int
  triggerStatus : Int
  triggerId : CString
  beginTime : Timespec
  endTime : Timespec
  eventTypes : Std.TreeSet Int
  triggerSeverities : Std.TreeSet Int
  triggerStatuses : Std.TreeSet Int
  incidentStatuses : Std.TreeSet CString
  groupByColumns : List String
  hostnameList : List CString
  eventIds : List CString

namespace EventsQueryOption

/-- The option as its constructor leaves it (DBTablesMonitoring.cc:1017-1029). -/
def new (context : DataQueryContext) : EventsQueryOption where
  base := .new synapseEventsQueryOption context
  isEvents := rfl
  limitOfUnifiedId := 0
  sortType := .unifiedId
  sortDirection := .dontCare
  type := eventTypeAll
  minSeverity := triggerSeverityUnknown
  triggerStatus := triggerStatusAll
  triggerId := allTriggers
  beginTime := ⟨0, 0⟩
  endTime := ⟨0, 0⟩
  eventTypes := ∅
  triggerSeverities := ∅
  triggerStatuses := ∅
  incidentStatuses := ∅
  groupByColumns := []
  hostnameList := []
  eventIds := []

def getColumnName (o : EventsQueryOption) (idx : Fin tableProfileEvents.numColumns) : String :=
  o.base.getColumnNameCommon ⟨tableProfileEvents, idx⟩

end EventsQueryOption

/-- What the filters that do not use `addCondition` do to append their text. -/
def appendAnd (condition added : String) : String :=
  (if condition ≠ "" then condition ++ " AND " else condition) ++ added

/-- `makeHostnameListCondition` and `makeEventIdListCondition` differ in the column. -/
def makeListCondition (columnName : String) (ids : List CString) : String :=
  columnName ++ " in (" ++ commaSeparated (ids.map encString) ++ ")"

/-- The conditions by a set of types, severities or statuses: one alternative for each, in
    parentheses if there are several. -/
def makeSetCondition (columnName : String) (values : Std.TreeSet Int) : String :=
  let condition := values.toList.foldl (fun condition value =>
    addOr condition (columnName ++ "=" ++ toString value)) ""
  if values.size > 1 then "(" ++ condition ++ ")" else condition

namespace EventsQueryOption

/-- (DBTablesMonitoring.cc:1416-1431) -/
def makeHostnameListCondition (o : EventsQueryOption) : String :=
  makeListCondition (eventsColumnName idxEventsHostName) o.hostnameList

/-- (DBTablesMonitoring.cc:1433-1447) -/
def makeEventIdListCondition (o : EventsQueryOption) : String :=
  makeListCondition (eventsColumnName idxEventsId) o.eventIds

def beginTimeCondition (o : EventsQueryOption) : String :=
  "(" ++ o.getColumnName idxEventsTimeSec ++ ">" ++ toString o.beginTime.sec ++ " OR (" ++
    o.getColumnName idxEventsTimeSec ++ "=" ++ toString o.beginTime.sec ++ " AND " ++
    o.getColumnName idxEventsTimeNs ++ ">=" ++ toString o.beginTime.nsec ++ "))"

def endTimeCondition (o : EventsQueryOption) : String :=
  "(" ++ o.getColumnName idxEventsTimeSec ++ "<" ++ toString o.endTime.sec ++ " OR (" ++
    o.getColumnName idxEventsTimeSec ++ "=" ++ toString o.endTime.sec ++ " AND " ++
    o.getColumnName idxEventsTimeNs ++ "<=" ++ toString o.endTime.nsec ++ "))"

def typeCondition (o : EventsQueryOption) : String :=
  makeSetCondition (o.getColumnName idxEventsEventType) o.eventTypes

def severityCondition (o : EventsQueryOption) : String :=
  makeSetCondition (o.getColumnName idxEventsSeverity) o.triggerSeverities

def statusCondition (o : EventsQueryOption) : String :=
  makeSetCondition (o.getColumnName idxEventsStatus) o.triggerStatuses

/-- An empty status stands for events without an incident too, and gets a second alternative
    for them. Whether there are parentheses is decided by the number of statuses. -/
def incidentStatusCondition (o : EventsQueryOption) : String :=
  let condition := o.incidentStatuses.toList.foldl (fun condition status =>
    let condition := addOr condition (incidentsStatusColumnName ++ "=" ++ encString status)
    if status.text = "" then addOr condition (incidentsStatusColumnName ++ " is NULL")
    else condition) ""
  if o.incidentStatuses.size > 1 then "(" ++ condition ++ ")" else condition

/-- The filters of the option's own, in the order of the source (DBTablesMonitoring.cc:1063-1220). -/
def addOwnConditions (o : EventsQueryOption) (condition : String) : String :=
  let condition := if o.limitOfUnifiedId ≠ 0 then
      appendAnd condition
        (o.getColumnName idxEventsUnifiedId ++ "<=" ++ toString o.limitOfUnifiedId)
    else condition
  let condition := if o.type ≠ eventTypeAll then
      appendAnd condition (o.getColumnName idxEventsEventType ++ "=" ++ toString o.type)
    else condition
  let condition := if o.minSeverity ≠ triggerSeverityUnknown then
      appendAnd condition (eventsColumnName idxEventsSeverity ++ ">=" ++ toString o.minSeverity)
    else condition
  let condition := if o.triggerStatus ≠ triggerStatusAll then
      appendAnd condition (o.getColumnName idxEventsStatus ++ "=" ++ toString o.triggerStatus)
    else condition
  let condition := if o.triggerId ≠ allTriggers then
      appendAnd condition (o.getColumnName idxEventsTriggerId ++ "=" ++ encString o.triggerId)
    else condition
  let condition := if o.beginTime.sec ≠ 0 ∨ o.beginTime.nsec ≠ 0 then
      appendAnd condition o.beginTimeCondition
    else condition
  let condition := if o.endTime.sec ≠ 0 ∨ o.endTime.nsec ≠ 0 then
      appendAnd condition o.endTimeCondition
    else condition
  let condition := if o.hostnameList ≠ [] then addAnd condition o.makeHostnameListCondition
    else condition
  let condition := if o.eventIds ≠ [] then addAnd condition o.makeEventIdListCondition
    else condition
  let condition := addAnd condition o.typeCondition
  let condition := addAnd condition o.severityCondition
  let condition := addAnd condition o.statusCondition
  addAnd condition o.incidentStatusCondition

/-- (DBTablesMonitoring.cc:1056-1221) -/
def getCondition (o : EventsQueryOption) : Except HatoholException String := do
  let condition ← o.base.getCondition
  pure (if isAlwaysFalseCondition condition then condition else o.addOwnConditions condition)

/-- The rows a query may show: those its condition selects. An exception shows none. -/
def shows (o : EventsQueryOption) (row : String → Value) : Bool :=
  match o.getCondition with
  | .ok condition => selects condition row
  | .error _ => false

end EventsQueryOption

end Hatohol

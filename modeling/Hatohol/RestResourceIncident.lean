import Hatohol.DBTablesHost
import Hatohol.DBTablesIncidents
import Hatohol.Events.Composition

/-!
# Requests for incidents

How incidents are looked up, created and changed through the REST interface
(server/src/RestResourceIncident.cc:65-157, 187-234, 285-389). A reply that the callback of the job
makes later is `queued` here. Of an event there is what the query for it and the trackers read.
-/

namespace Hatohol

open Sql DBTermCodec

/-- A row of the events table. -/
structure EventRecord where
  unifiedId : UnifiedEventIdType
  serverId : ServerIdType
  id : CString
  time : Timespec
  type : Int
  triggerId : CString
  status : Int
  severity : Int
  globalHostId : HostIdType
  hostIdInServer : LocalHostIdType
  hostName : CString
  deriving DecidableEq, Repr

/-- The row that is joined with a host group of the host and with an incident. -/
def EventRecord.row (event : EventRecord) (hostgroupId : HostgroupIdType)
    (incident : Option IncidentInfo) : EventRow where
  host := ⟨event.serverId, event.hostIdInServer, hostgroupId⟩
  unifiedId := event.unifiedId
  id := event.id
  time := event.time
  eventType := event.type
  triggerId := event.triggerId
  status := event.status
  severity := event.severity
  hostname := event.hostName
  incidentStatus := incident.map (·.status)

/-- The table names are set because the query joins tables (DBClientJoinBuilder.cc:52-59). -/
def EventsQueryOption.setTableNameAlways (o : EventsQueryOption) : EventsQueryOption :=
  { o with base := { o.base with tableNameAlways := true } }

structure MonitoringTables where
  events : List EventRecord
  members : List HostgroupMember
  incidents : IncidentTables

namespace MonitoringTables

/-- The incidents of an event, or none (LEFT JOIN). -/
def joinIncidents (t : MonitoringTables) (event : EventRecord) : List (Option IncidentInfo) :=
  match t.incidents.incidents.filter (·.unifiedEventId = event.unifiedId) with
  | [] => [none]
  | incidents => incidents.map some

/-- The host groups of the host of an event, if they are joined; the group of a row is not read
    otherwise. -/
def joinHostgroups (t : MonitoringTables) (o : EventsQueryOption) (event : EventRecord) :
    List HostgroupIdType :=
  if o.base.isHostgroupUsed then
    (t.members.filter fun member => member.hostId = event.globalHostId).map (·.hostgroupIdInServer)
  else [allHostGroups]

/-- (DBTablesMonitoring.cc:2566-2679) With the incidents. Rows that differ in the host group only are
    one row (DBClientJoinBuilder.cc:66-67). -/
def getEventInfoList (t : MonitoringTables) (option : EventsQueryOption) :
    Except HatoholException (List (EventRecord × Option IncidentInfo)) := do
  let option := option.setTableNameAlways
  let condition ← option.getCondition
  pure (if isAlwaysFalseCondition condition then []
    else t.events.flatMap fun event =>
      ((t.joinIncidents event).filter fun incident =>
        (t.joinHostgroups option event).any fun hostgroupId =>
          selects condition (event.row hostgroupId incident).value).map (event, ·))

end MonitoringTables

/-! ## Incidents and histories of an event -/

/-- `-1` of an unsigned number of 64 bits. -/
def invalidId : Nat := 2 ^ 64 - 1

/-- ALL_INCIDENTS is the same number. -/
def allIncidents : UnifiedEventIdType := 2 ^ 64 - 1

structure IncidentsQueryOption where
  unifiedEventId : UnifiedEventIdType

/-- (DBTablesMonitoring.cc:1918-1931) Nothing of the user is in it. -/
def IncidentsQueryOption.getCondition (o : IncidentsQueryOption) : String :=
  if o.unifiedEventId ≠ allIncidents then
    addAnd "" ("unified_event_id" ++ "=" ++ encInt o.unifiedEventId)
  else ""

structure IncidentHistoriesQueryOption where
  id : IncidentHistoryIdType
  unifiedEventId : UnifiedEventIdType
  userId : UserIdType

/-- (DBTablesMonitoring.cc:2064-2095) -/
def IncidentHistoriesQueryOption.getCondition (o : IncidentHistoriesQueryOption) : String :=
  let condition := if o.id ≠ invalidId then addAnd "" ("id" ++ "=" ++ encInt o.id) else ""
  let condition := if o.unifiedEventId ≠ invalidId then
      addAnd condition ("unified_event_id" ++ "=" ++ encInt o.unifiedEventId)
    else condition
  if o.userId ≠ invalidUserId then addAnd condition ("user_id" ++ "=" ++ encInt o.userId)
  else condition

def IncidentInfo.value (incident : IncidentInfo) : String → Value
  | "tracker_id" => .int incident.trackerId
  | "identifier" => .str incident.identifier.text
  | "unified_event_id" => .int incident.unifiedEventId
  | _ => .null

def IncidentHistory.value (history : IncidentHistory) : String → Value
  | "id" => .int history.id
  | "unified_event_id" => .int history.unifiedEventId
  | "user_id" => .int history.userId
  | _ => .null

namespace IncidentTables

/-- (DBTablesMonitoring.cc:3499-3548) -/
def getIncidentInfoVect (t : IncidentTables) (option : IncidentsQueryOption) : List IncidentInfo :=
  t.incidents.filter fun incident => selects option.getCondition incident.value

/-- The condition is one for the event. -/
theorem getIncidentInfoVect_eq (t : IncidentTables) {unifiedEventId : UnifiedEventIdType}
    (h : unifiedEventId ≠ invalidId) :
    t.getIncidentInfoVect ⟨unifiedEventId⟩ = t.incidentsOf unifiedEventId := by
  have hall : unifiedEventId ≠ allIncidents := h
  unfold getIncidentInfoVect incidentsOf
  apply List.filter_congr
  intro incident _
  simp only [IncidentsQueryOption.getCondition, hall, ne_eq, not_false_eq_true, if_true]
  rw [addAnd_empty, selects_eq_int (by decide), Bool.eq_iff_iff]
  simp [IncidentInfo.value]

/-- (DBTablesMonitoring.cc:3677-3714) -/
def getIncidentHistory (t : IncidentTables) (option : IncidentHistoriesQueryOption) :
    List IncidentHistory :=
  t.histories.rows.filter fun history => selects option.getCondition history.value

end IncidentTables

/-! ## Handlers -/

structure IncidentHistoryReply where
  id : IncidentHistoryIdType
  unifiedEventId : UnifiedEventIdType
  userId : UserIdType
  userName : CString
  status : CString
  time : Int
  comment : Option CString
  deriving DecidableEq, Repr

inductive IncidentReply where
  | notFoundIdInUrl
  | notFoundTargetRecord
  | recordExists
  | notImplemented
  | failedToSendIncident
  | httpNotFound
  | exception
  | incidentHistory (histories : List IncidentHistoryReply)
  | queued
  deriving DecidableEq, Repr

structure CreateIncidentJob where
  trackerId : IncidentTrackerIdType
  event : EventRecord
  deriving DecidableEq, Repr

structure UpdateIncidentJob where
  incidentInfo : IncidentInfo
  comment : CString
  deriving DecidableEq, Repr

/-- The parameters of a PUT; `doneRatio` is a text that a number is to be read from. -/
structure IncidentQuery where
  status : Option CString
  priority : Option CString
  assignee : Option CString
  doneRatio : Option CString
  comment : Option CString
  deriving DecidableEq, Repr

namespace RestResourceIncident

/-- (RestResourceIncident.cc:109-152) `userNames` are those that the user may see. -/
def handlerGetIncidentHistory (t : IncidentTables) (userNames : UserIdType → Option CString)
    (unifiedEventId : UnifiedEventIdType) : IncidentReply :=
  .incidentHistory <|
    (t.getIncidentHistory ⟨invalidId, unifiedEventId, invalidUserId⟩).map fun history =>
      { id := history.id
        unifiedEventId := history.unifiedEventId
        userId := history.userId
        userName := (userNames history.userId).getD emptyText
        status := history.status
        time := history.createdAt.sec
        comment := if history.comment = emptyText then none else some history.comment }

/-- (RestResourceIncident.cc:67-103) The path is the id and the name after it. -/
def handlerGetIncident (t : IncidentTables) (userNames : UserIdType → Option CString)
    (unifiedEventId : UnifiedEventIdType) (resourceName : String) : IncidentReply :=
  if unifiedEventId = invalidId then .notFoundIdInUrl
  else if t.getIncidentInfoVect ⟨unifiedEventId⟩ = [] then .notFoundTargetRecord
  else if resourceName = "" then .notImplemented
  else if resourceName = "history" then handlerGetIncidentHistory t userNames unifiedEventId
  else .httpNotFound

/-- A number that cannot be read is no error, because nothing is required of an update
    (RestResourceIncident.cc:187-234). -/
def parseIncidentParameter (incidentInfo : IncidentInfo) (query : IncidentQuery) :
    IncidentInfo × CString :=
  ({ incidentInfo with
      status := query.status.getD incidentInfo.status
      priority := query.priority.getD incidentInfo.priority
      assignee := query.assignee.getD incidentInfo.assignee
      doneRatio := (query.doneRatio.bind fun value => ActionDef.scanInt value.text).getD
        incidentInfo.doneRatio },
    query.comment.getD emptyText)

/-- (RestResourceIncident.cc:342-389) `hasSender` tells for which trackers there is a sender. -/
def handlerPutIncident (t : IncidentTables) (hasSender : IncidentTrackerIdType → Bool)
    (unifiedEventId : UnifiedEventIdType) (query : IncidentQuery) :
    IncidentReply × List UpdateIncidentJob :=
  if unifiedEventId = invalidId then (.notFoundIdInUrl, [])
  else
    match t.getIncidentInfoVect ⟨unifiedEventId⟩ with
    | [] => (.notFoundTargetRecord, [])
    | incident :: _ =>
        let (incidentInfo, comment) :=
          parseIncidentParameter { incident with unifiedEventId := unifiedEventId } query
        if hasSender incidentInfo.trackerId then (.queued, [⟨incidentInfo, comment⟩])
        else (.failedToSendIncident, [])

/-- A job of a PUT is a copy of the first incident of the event, with what the query sets. -/
theorem handlerPutIncident_queued {t : IncidentTables} {hasSender : IncidentTrackerIdType → Bool}
    {unifiedEventId : UnifiedEventIdType} {query : IncidentQuery} {job : UpdateIncidentJob}
    (h : handlerPutIncident t hasSender unifiedEventId query = (.queued, [job])) :
    ∃ incident, (t.incidentsOf unifiedEventId).head? = some incident ∧
      job.incidentInfo =
        (parseIncidentParameter { incident with unifiedEventId := unifiedEventId } query).1 := by
  unfold handlerPutIncident at h
  split at h
  next => cases h
  next hvalid =>
    rw [IncidentTables.getIncidentInfoVect_eq t hvalid] at h
    cases hincidents : t.incidentsOf unifiedEventId with
    | nil =>
      rw [hincidents] at h
      cases h
    | cons incident incidents =>
      rw [hincidents] at h
      simp only at h
      split at h
      next =>
        obtain rfl := (List.cons.inj (Prod.mk.inj h).2).1
        exact ⟨incident, rfl, rfl⟩
      next => cases h

/-- The query for the newest event whose id is not above another; zero is no limit. -/
def findEvent (t : MonitoringTables) (context : DataQueryContext) (eventId : UnifiedEventIdType) :
    Except HatoholException (Option (EventRecord × Option IncidentInfo)) := do
  let rows ← t.getEventInfoList { EventsQueryOption.new context with limitOfUnifiedId := eventId }
  -- SORT_UNIFIED_ID, SORT_DESCENDING and the maximum number 1
  pure (rows.find? fun row => rows.all fun other => decide (other.1.unifiedId ≤ row.1.unifiedId))

/-- A row without an incident has zero and the empty text in its columns. -/
def showsIncident (incident : Option IncidentInfo) : Bool :=
  incident.any fun incidentInfo => incidentInfo.trackerId ≠ 0 || incidentInfo.status ≠ emptyText

/-- (RestResourceIncident.cc:285-327) -/
def createIncidentAsync (t : MonitoringTables) (context : DataQueryContext)
    (hasSender : IncidentTrackerIdType → Bool) (eventId : UnifiedEventIdType)
    (trackerId : IncidentTrackerIdType) : IncidentReply × List CreateIncidentJob :=
  match findEvent t context eventId with
  | .error _ => (.exception, [])
  | .ok none => (.notFoundTargetRecord, [])
  | .ok (some (event, incident)) =>
      if showsIncident incident then (.recordExists, [])
      else if hasSender trackerId then (.queued, [⟨trackerId, event⟩])
      else (.failedToSendIncident, [])

end RestResourceIncident

end Hatohol

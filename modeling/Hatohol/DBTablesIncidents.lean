import Hatohol.DBTablesAction
import Hatohol.Table.Keyed

/-!
# The tables of incidents and of their histories

Incidents are found by tracker and identifier, or by the event that they were made for, and a row of
the history holds a comment or none (server/src/DBTablesMonitoring.cc:651-930, 3431-3497, 3604-3785,
4019-4041). Every function that reads or writes does so in one transaction, except where a second
transaction is told of.
-/

namespace Hatohol

open Table

abbrev UnifiedEventIdType := Nat

abbrev IncidentHistoryIdType := Nat

structure IncidentInfo where
  trackerId : IncidentTrackerIdType
  serverId : ServerIdType
  eventId : CString
  triggerId : CString
  identifier : CString
  location : CString
  status : CString
  assignee : CString
  createdAt : Timespec
  updatedAt : Timespec
  priority : CString
  doneRatio : Int
  unifiedEventId : UnifiedEventIdType
  commentCount : Int
  deriving DecidableEq, Repr

structure IncidentHistory where
  id : IncidentHistoryIdType
  unifiedEventId : UnifiedEventIdType
  userId : UserIdType
  status : CString
  comment : CString
  createdAt : Timespec
  deriving DecidableEq, Repr

/-- The columns of the unique index (DBTablesMonitoring.cc:818-836). -/
def IncidentInfo.key (incident : IncidentInfo) : IncidentTrackerIdType × CString :=
  (incident.trackerId, incident.identifier)

/-- A number is given to a history that has none. -/
structure IncidentTables where
  incidents : List IncidentInfo
  histories : Counted IncidentHistory.id
  uniqueKey : (incidents.map IncidentInfo.key).Nodup

namespace IncidentTables

theorem nodup_key_nil : (([] : List IncidentInfo).map IncidentInfo.key).Nodup := List.nodup_nil

/-- (DBTablesMonitoring.cc:4019-4041) -/
def addIncidentInfo (t : IncidentTables) (incidentInfo : IncidentInfo) : IncidentTables where
  incidents := put IncidentInfo.key t.incidents incidentInfo
  histories := t.histories
  uniqueKey := nodup_put t.uniqueKey incidentInfo

/-- Rows get other values in columns that are not in the unique index. -/
def updateIncidents (t : IncidentTables) (f : IncidentInfo → IncidentInfo)
    (hf : ∀ incident, (f incident).key = incident.key) : IncidentTables where
  incidents := t.incidents.map f
  histories := t.histories
  uniqueKey := by
    rw [List.map_map, show IncidentInfo.key ∘ f = IncidentInfo.key from funext hf]
    exact t.uniqueKey

/-- The columns that `updateIncidentInfo` sets (DBTablesMonitoring.cc:3478-3489). -/
def setUpdated (incidentInfo row : IncidentInfo) : IncidentInfo :=
  { row with
    status := incidentInfo.status
    assignee := incidentInfo.assignee
    createdAt := incidentInfo.createdAt
    updatedAt := incidentInfo.updatedAt
    priority := incidentInfo.priority
    doneRatio := incidentInfo.doneRatio
    commentCount := incidentInfo.commentCount }

theorem key_setUpdated (incidentInfo row : IncidentInfo) :
    (if row.key = incidentInfo.key then setUpdated incidentInfo row else row).key = row.key := by
  split <;> rfl

/-- (DBTablesMonitoring.cc:3448-3497) There is no result where there is no such record. -/
def updateIncidentInfo (t : IncidentTables) (incidentInfo : IncidentInfo) : Option IncidentTables :=
  if t.incidents.any (·.key = incidentInfo.key) then
    some (t.updateIncidents
      (fun row => if row.key = incidentInfo.key then setUpdated incidentInfo row else row)
      (key_setUpdated incidentInfo))
  else none

/-- The insertion of `addIncidentHistory`; its caller leaves the number to the database
    (DBTablesMonitoring.cc:3609-3619, IncidentSender.cc:177). -/
def insertIncidentHistory (t : IncidentTables) (history : IncidentHistory) : IncidentTables where
  incidents := t.incidents
  histories := t.histories.append { history with id := t.histories.next } t.histories.byId_next
  uniqueKey := t.uniqueKey

theorem id_replaceHistory (history row : IncidentHistory) :
    (if row.id = history.id then history else row).id = row.id := by
  split
  next heq => exact heq.symm
  next => rfl

/-- The transaction of `updateIncidentHistory` that writes; it does nothing where there is no such
    record (DBTablesMonitoring.cc:3629-3657). -/
def writeIncidentHistory (t : IncidentTables) (history : IncidentHistory) : IncidentTables where
  incidents := t.incidents
  histories := t.histories.modify (fun row => if row.id = history.id then history else row)
    (id_replaceHistory history)
  uniqueKey := t.uniqueKey

def isCommentOn (unifiedEventId : UnifiedEventIdType) (history : IncidentHistory) : Bool :=
  history.unifiedEventId = unifiedEventId ∧ history.comment ≠ emptyText

/-- `count(distinct id)` (DBTablesMonitoring.cc:3716-3745) -/
def getIncidentCommentCount (t : IncidentTables) (unifiedEventId : UnifiedEventIdType) : Nat :=
  ((t.histories.rows.filter (isCommentOn unifiedEventId)).map IncidentHistory.id).dedup.length

theorem key_setCommentCount (unifiedEventId : UnifiedEventIdType) (count : Int)
    (row : IncidentInfo) :
    (if row.unifiedEventId = unifiedEventId then { row with commentCount := count } else row).key =
      row.key := by
  split <;> rfl

/-- The second transaction of `updateIncidentCommentCount` (DBTablesMonitoring.cc:3747-3785). -/
def storeIncidentCommentCount (t : IncidentTables) (unifiedEventId : UnifiedEventIdType)
    (count : Int) : IncidentTables :=
  t.updateIncidents
    (fun row => if row.unifiedEventId = unifiedEventId then { row with commentCount := count } else row)
    (key_setCommentCount unifiedEventId count)

/-! ## What the functions are for -/

def incidentsOf (t : IncidentTables) (unifiedEventId : UnifiedEventIdType) : List IncidentInfo :=
  t.incidents.filter (·.unifiedEventId = unifiedEventId)

theorem incidentsOf_updateIncidents (t : IncidentTables) {f : IncidentInfo → IncidentInfo}
    (hf : ∀ incident, (f incident).key = incident.key)
    (hevent : ∀ incident, (f incident).unifiedEventId = incident.unifiedEventId)
    (unifiedEventId : UnifiedEventIdType) :
    (t.updateIncidents f hf).incidentsOf unifiedEventId = (t.incidentsOf unifiedEventId).map f := by
  simp only [incidentsOf, updateIncidents, List.filter_map]
  congr 1
  apply List.filter_congr
  intro incident _
  simp only [Function.comp_apply, hevent]

/-- The history rows with a comment on an event. -/
def comments (t : IncidentTables) (unifiedEventId : UnifiedEventIdType) : Nat :=
  (t.histories.rows.filter (isCommentOn unifiedEventId)).length

/-- Every incident of an event shows how many comments there are. -/
def CommentsCounted (t : IncidentTables) (unifiedEventId : UnifiedEventIdType) : Prop :=
  ∀ incident ∈ t.incidents, incident.unifiedEventId = unifiedEventId →
    incident.commentCount = t.comments unifiedEventId

theorem getIncidentCommentCount_eq (t : IncidentTables) (unifiedEventId : UnifiedEventIdType) :
    t.getIncidentCommentCount unifiedEventId = t.comments unifiedEventId := by
  have hnodup := t.histories.unique_id.sublist
    ((List.filter_sublist (p := isCommentOn unifiedEventId)).map IncidentHistory.id)
  rw [getIncidentCommentCount, hnodup.dedup, List.length_map, comments]

end IncidentTables

end Hatohol

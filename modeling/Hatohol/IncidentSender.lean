import Hatohol.RestResourceIncident

/-!
# Senders of incidents

What a sender does with a job, by the type of its tracker (server/src/IncidentSender.cc:38-92,
168-215, server/src/IncidentSenderHatohol.cc:25-143, server/src/IncidentSenderRedmine.cc:282-315,
373-410). Hatohol's own tracker has no server; its incidents are the rows of the table.
-/

namespace Hatohol

/-- What `RedmineAPI::parseIssue` reads of an issue (RedmineAPI.cc:86-127). -/
structure RedmineIssue where
  identifier : CString
  status : CString
  assignee : CString
  priority : CString
  doneRatio : Int
  createdAt : Timespec
  updatedAt : Timespec
  deriving DecidableEq, Repr

namespace IncidentSenderHatohol

def statusNone : CString := .ofString "NONE"

def statusHold : CString := .ofString "HOLD"

def statusInProgress : CString := .ofString "IN PROGRESS"

def statusDone : CString := .ofString "DONE"

def systemDefinedStatuses : List CString := [statusNone, statusHold, statusInProgress, statusDone]

/-- (IncidentSenderHatohol.cc:50-61) -/
def isKnownStatus (customStatuses : List CString) (status : CString) : Bool :=
  systemDefinedStatuses.contains status || customStatuses.contains status

/-- (IncidentSenderHatohol.cc:63-83) -/
def validate (trackerId : IncidentTrackerIdType) (customStatuses : List CString)
    (incident : IncidentInfo) : Bool :=
  incident.trackerId = trackerId && isKnownStatus customStatuses incident.status

/-- (IncidentSenderHatohol.cc:85-106) -/
def buildNewIncidentInfo (trackerId : IncidentTrackerIdType) (currentTime : Timespec)
    (eventInfo : EventRecord) : IncidentInfo where
  trackerId := trackerId
  serverId := eventInfo.serverId
  eventId := eventInfo.id
  triggerId := eventInfo.triggerId
  identifier := .ofString (toString eventInfo.unifiedId)
  location := emptyText
  status := statusNone
  assignee := emptyText
  createdAt := currentTime
  updatedAt := currentTime
  priority := emptyText
  doneRatio := 0
  unifiedEventId := eventInfo.unifiedId
  commentCount := 0

/-- (IncidentSenderHatohol.cc:130-143) There is no result where the job fails. -/
def sendIncident (t : IncidentTables) (trackerId : IncidentTrackerIdType)
    (customStatuses : List CString) (currentTime : Timespec) (incident : IncidentInfo) :
    Option IncidentTables :=
  let incidentInfo := { incident with updatedAt := currentTime }
  if validate trackerId customStatuses incidentInfo then t.updateIncidentInfo incidentInfo else none

end IncidentSenderHatohol

namespace IncidentSenderRedmine

/-- (IncidentSenderRedmine.cc:282-315) `location` is the URL of the issue. -/
def buildIncidentInfo (trackerId : IncidentTrackerIdType) (location : CString)
    (issue : RedmineIssue)
    (event : EventRecord) : IncidentInfo where
  trackerId := trackerId
  serverId := event.serverId
  eventId := event.id
  triggerId := event.triggerId
  identifier := issue.identifier
  location := location
  status := issue.status
  assignee := issue.assignee
  createdAt := issue.createdAt
  updatedAt := issue.updatedAt
  priority := issue.priority
  doneRatio := issue.doneRatio
  unifiedEventId := event.unifiedId
  commentCount := 0

end IncidentSenderRedmine

/-- (IncidentSender.cc:168-186) The number is left to the database. -/
def saveIncidentHistory (userId : UserIdType) (incidentInfo : IncidentInfo) (comment : CString)
    (now : Timespec) : IncidentHistory where
  id := 0
  unifiedEventId := incidentInfo.unifiedEventId
  userId := userId
  status := incidentInfo.status
  comment := comment
  createdAt := now

end Hatohol

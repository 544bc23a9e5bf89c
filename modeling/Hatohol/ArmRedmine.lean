import Hatohol.IncidentSender

/-!
# Polling of Redmine

An arm asks Redmine again and again for the issues that were updated since the last time, and writes
what it reads to the incidents (server/src/ArmRedmine.cc:133-351, RedmineAPI.cc:29-38, 86-146).
-/

namespace Hatohol

/-- The members of an issue that are read. A date is the number of seconds that
    `g_time_val_from_iso8601` gives for it, or zero where it gives none. -/
structure IssueMembers where
  id : Option Int64
  status : CString
  assignee : Option CString
  priority : Option CString
  doneRatio : Int
  createdOn : Option Int
  updatedOn : Option Int
  deriving DecidableEq, Repr

/-- A new variable. The structure has no constructor: its texts are empty, and the other members
    hold what the memory held (Monitoring.h:225-259). -/
def IncidentInfo.fresh (residue : IncidentInfo) : IncidentInfo :=
  { residue with
    eventId := emptyText
    triggerId := emptyText
    identifier := emptyText
    location := emptyText
    status := emptyText
    assignee := emptyText
    priority := emptyText }

namespace RedmineAPI

def getIssueURL (baseURL id : CString) : CString :=
  let slash := if baseURL.text.endsWith "/" then "" else "/"
  .ofString (baseURL.text ++ slash ++ "issues/" ++ id.text)

/-- `to_string((uint64_t)issueId)` -/
def identifier (issueId : Int64) : CString := .ofString (toString issueId.toUInt64.toNat)

/-- (RedmineAPI.cc:86-127) -/
def parseIssue (members : IssueMembers) (incidentInfo : IncidentInfo) : Bool × IncidentInfo :=
  match members.id with
  | none => (false, incidentInfo)
  | some issueId =>
    if issueId = 0 then (false, incidentInfo)
    else
      let incidentInfo :=
        { incidentInfo with
          identifier := identifier issueId
          status := members.status
          assignee := members.assignee.getD incidentInfo.assignee
          priority := members.priority.getD incidentInfo.priority
          doneRatio := members.doneRatio
          commentCount := 0 }
      match members.createdOn with
      | none => (false, incidentInfo)
      | some createdOn =>
        let incidentInfo := { incidentInfo with createdAt := ⟨createdOn, 0⟩ }
        match members.updatedOn with
        | none => (false, incidentInfo)
        | some updatedOn => (true, { incidentInfo with updatedAt := ⟨updatedOn, 0⟩ })

end RedmineAPI

/-- A page of issues. With each issue comes what the memory of the variable for it holds. -/
structure IssuesPage where
  issues : List (IssueMembers × IncidentInfo)
  offset : Int
  totalCount : Int

/-- The body of an answer is no page where it does not parse, holds errors or has no issues. -/
inductive PollResponse where
  | httpError
  | answered (response : Option IssuesPage)

/-- What a request asks for: the day since 1970-01-01 from which on the updates are wanted, and the
    page (ArmRedmine.cc:119-166). -/
structure RedmineQuery where
  updatedOn : Option Int
  page : Nat
  deriving DecidableEq, Repr

inductive ParseResult where
  | ok
  | error
  | needNextPage
  deriving DecidableEq, Repr

inductive ArmPollingResult where
  | collectOk
  | collectNgParserError
  | collectNgDisconnectRedmine
  | collectNgInternalError
  deriving DecidableEq, Repr

/-- The arm and the tables that it writes to. -/
structure ArmRedmine where
  trackerId : IncidentTrackerIdType
  baseURL : CString
  lastUpdateTime : Int
  lastUpdateTimePending : Int
  tables : IncidentTables

namespace ArmRedmine

def pageLimit : Nat := 100

/-- `limit` of the query -/
def issuesPerPage : Nat := 100

def secondsPerDay : Int := 86400

def allIncidentTrackers : IncidentTrackerIdType := -1

/-- (DBTablesMonitoring.cc:3551-3570) -/
def getLastUpdateTimeOfIncidents (tables : IncidentTables) (trackerId : IncidentTrackerIdType) :
    Int :=
  let rows := tables.incidents.filter
    fun row => trackerId = allIncidentTrackers ∨ row.trackerId = trackerId
  ((rows.map (·.updatedAt.sec)).max?).getD 0

/-- (ArmRedmine.cc:343-351) There is no result where the arm is not started. -/
def startIfNeeded (arm : ArmRedmine) : Option ArmRedmine :=
  let arm := { arm with
    lastUpdateTime := getLastUpdateTimeOfIncidents arm.tables arm.trackerId }
  if 0 < arm.lastUpdateTime then some arm else none

/-- (ArmRedmine.cc:133-143) `utcOffset` is what the local time is ahead of UTC. -/
def getLastUpdateDate (arm : ArmRedmine) (utcOffset : Int → Int) : Int :=
  (arm.lastUpdateTime + utcOffset arm.lastUpdateTime) / secondsPerDay

/-- (ArmRedmine.cc:145-163) -/
def getQuery (arm : ArmRedmine) (utcOffset : Int → Int) (page : Nat) : RedmineQuery where
  updatedOn := if 0 < arm.lastUpdateTime then some (arm.getLastUpdateDate utcOffset) else none
  page := page

/-- (ArmRedmine.cc:240-249) -/
def parseIssue (arm : ArmRedmine) (members : IssueMembers) (incident : IncidentInfo) :
    Bool × IncidentInfo :=
  let parsed := RedmineAPI.parseIssue members incident
  (parsed.1,
    { parsed.2 with
      trackerId := arm.trackerId
      location := RedmineAPI.getIssueURL arm.baseURL parsed.2.identifier })

/-- (ArmRedmine.cc:229-238) -/
def hasNextPage (page : IssuesPage) : Bool :=
  !(page.totalCount ≤ page.offset + page.issues.length)

/-- The turn of one issue: whether all issues have been read so far, and the incident. -/
def readIssue (arm : ArmRedmine) (succeeded : Bool) (issue : IssueMembers × IncidentInfo) :
    Bool × IncidentInfo :=
  if succeeded then arm.parseIssue issue.1 issue.2.fresh else (false, issue.2.fresh)

def updateIncidentInfo (arm : ArmRedmine) (incident : IncidentInfo) : ArmRedmine :=
  { arm with tables := (arm.tables.updateIncidentInfo incident).getD arm.tables }

/-- `m_lastUpdateTimePending` follows the times that are seen. -/
def seeTime (arm : ArmRedmine) (updateTime : Int) : ArmRedmine :=
  { arm with
    lastUpdateTimePending :=
      if arm.lastUpdateTimePending < updateTime then updateTime else arm.lastUpdateTimePending }

/-- The loop over the issues of a page; it tells whether it came to the end
    (ArmRedmine.cc:201-220). -/
def parseIssues : Bool → List (IssueMembers × IncidentInfo) → ArmRedmine → Bool × ArmRedmine
  | _, [], arm => (true, arm)
  | succeeded, issue :: issues, arm =>
    let (succeeded, incident) := arm.readIssue succeeded issue
    let updateTime := incident.updatedAt.sec
    let arm := arm.seeTime updateTime
    if arm.lastUpdateTime ≤ updateTime then
      parseIssues succeeded issues (arm.updateIncidentInfo incident)
    else
      -- All incidents are updated
      (false, arm)

/-- (ArmRedmine.cc:178-227) -/
def parseResponse (arm : ArmRedmine) : Option IssuesPage → ParseResult × ArmRedmine
  | none => (.error, arm)
  | some page =>
    let (complete, arm) := parseIssues true page.issues (arm.seeTime arm.lastUpdateTime)
    if page.issues ≠ [] ∧ complete ∧ hasNextPage page then (.needNextPage, arm)
    else (.ok, { arm with lastUpdateTime := arm.lastUpdateTimePending })

/-- The pages from `page` on, where `left` more pages may be asked for
    (ArmRedmine.cc:294-340). -/
def collectPages (utcOffset : Int → Int) (redmine : RedmineQuery → PollResponse) :
    Nat → Nat → ArmRedmine → ArmPollingResult × ArmRedmine
  | left, page, arm =>
    match redmine (arm.getQuery utcOffset page) with
    | .httpError => (.collectNgDisconnectRedmine, arm)
    | .answered response =>
      match arm.parseResponse response with
      | (.ok, arm) => (.collectOk, arm)
      | (.error, arm) => (.collectNgParserError, arm)
      | (.needNextPage, arm) =>
        match left with
        | 0 => (.collectNgInternalError, arm)
        | left + 1 => collectPages utcOffset redmine left (page + 1) arm

/-- (ArmRedmine.cc:282-341) -/
def mainThreadOneProc (arm : ArmRedmine) (utcOffset : Int → Int)
    (redmine : RedmineQuery → PollResponse) : ArmPollingResult × ArmRedmine :=
  if arm.lastUpdateTime = 0 then (.collectOk, arm)
  else collectPages utcOffset redmine (pageLimit - 1) 1 arm

end ArmRedmine

end Hatohol

import Hatohol.IncidentSender

/-!
# Incidents of an event that are made at the same time

A POST looks for an incident of the event, queues a job later, and the thread of the tracker writes
the row later still (RestResourceIncident.cc:285-327, IncidentSender.cc:124-166). An action of the
type incident sender queues its job without a look (ActionManager.cc:1402-1425).
-/

namespace Hatohol

open Table

inductive IncidentTrackerType where
  | redmine
  | hatohol
  deriving DecidableEq, Repr

/-- The jobs for a sender and the one that its thread works at. -/
structure SenderThread where
  queue : List EventRecord
  runningJob : Option EventRecord
  deriving DecidableEq, Repr

/-- `checked` are the jobs of POSTs that have found no incident and have not queued their job yet. -/
structure CreationSystem where
  tables : MonitoringTables
  checked : List CreateIncidentJob
  senders : IncidentTrackerIdType → SenderThread

/-- What Redmine answers, with the URL of the issue; there is none if the job fails. -/
abbrev RedmineResponse := Option (RedmineIssue × CString)

inductive CreationEvent where
  | check (context : DataQueryContext) (eventId : UnifiedEventIdType)
      (trackerId : IncidentTrackerIdType)
  | queue (k : Nat)
  | execIncidentSenderAction (trackerId : IncidentTrackerIdType) (eventInfo : EventRecord)
  | popJob (trackerId : IncidentTrackerIdType)
  | send (trackerId : IncidentTrackerIdType) (currentTime : Timespec) (response : RedmineResponse)
  | updateIncidentInfo (incidentInfo : IncidentInfo)

namespace CreationSystem

def start (tables : MonitoringTables) : CreationSystem where
  tables := tables
  checked := []
  senders := fun _ => ⟨[], none⟩

def setSender (s : CreationSystem) (trackerId : IncidentTrackerIdType) (thread : SenderThread) :
    CreationSystem :=
  { s with senders := Function.update s.senders trackerId thread }

def setIncidents (s : CreationSystem) (incidents : IncidentTables) : CreationSystem :=
  { s with tables := { s.tables with incidents := incidents } }

section Steps

variable (trackers : IncidentTrackerIdType → Option IncidentTrackerType)

/-- (IncidentSenderManager.cc:126-140) Nothing is queued for a tracker that does not exist. -/
def pushJob (s : CreationSystem) (job : CreateIncidentJob) : CreationSystem :=
  if (trackers job.trackerId).isSome then
    let thread := s.senders job.trackerId
    s.setSender job.trackerId { thread with queue := thread.queue ++ [job.event] }
  else s

/-- (IncidentSender.cc:134-146) -/
def popJob (s : CreationSystem) (trackerId : IncidentTrackerIdType) : CreationSystem :=
  match s.senders trackerId with
  | ⟨event :: queue, none⟩ => s.setSender trackerId ⟨queue, some event⟩
  | _ => s

/-- The incident that a sender makes for an event. -/
def buildIncident (trackerId : IncidentTrackerIdType) (currentTime : Timespec)
    (response : RedmineResponse) (event : EventRecord) : Option IncidentInfo :=
  match trackers trackerId with
  | some .hatohol =>
      some (IncidentSenderHatohol.buildNewIncidentInfo trackerId currentTime event)
  | some .redmine =>
      response.map fun (issue, location) =>
        IncidentSenderRedmine.buildIncidentInfo trackerId location issue event
  | none => none

/-- The thread ends its job, with a new row or without. -/
def send (s : CreationSystem) (trackerId : IncidentTrackerIdType) (currentTime : Timespec)
    (response : RedmineResponse) : CreationSystem :=
  match s.senders trackerId with
  | ⟨queue, some event⟩ =>
      let s := s.setSender trackerId ⟨queue, none⟩
      match buildIncident trackers trackerId currentTime response event with
      | some incidentInfo => s.setIncidents (s.tables.incidents.addIncidentInfo incidentInfo)
      | none => s
  | _ => s

def step (s : CreationSystem) : CreationEvent → CreationSystem
  | .check context eventId trackerId =>
      let (_, jobs) := RestResourceIncident.createIncidentAsync s.tables context
        (fun trackerId => (trackers trackerId).isSome) eventId trackerId
      { s with checked := s.checked ++ jobs }
  | .queue k =>
      match s.checked[k]? with
      | some job => pushJob trackers { s with checked := s.checked.eraseIdx k } job
      | none => s
  | .execIncidentSenderAction trackerId eventInfo => s.pushJob trackers ⟨trackerId, eventInfo⟩
  | .popJob trackerId => s.popJob trackerId
  | .send trackerId currentTime response => s.send trackers trackerId currentTime response
  | .updateIncidentInfo incidentInfo =>
      match s.tables.incidents.updateIncidentInfo incidentInfo with
      | some incidents => s.setIncidents incidents
      | none => s

def run (s : CreationSystem) (events : List CreationEvent) : CreationSystem :=
  events.foldl (step trackers) s

end Steps

end CreationSystem

/-! ## Tables -/

namespace IncidentTables

def HasNone (t : IncidentTables) (e : UnifiedEventIdType) : Prop := t.incidentsOf e = []

def HasAtMostOne (t : IncidentTables) (e : UnifiedEventIdType) : Prop :=
  ∀ a ∈ t.incidentsOf e, ∀ b ∈ t.incidentsOf e, a = b

theorem HasNone.hasAtMostOne {t : IncidentTables} {e : UnifiedEventIdType} (h : t.HasNone e) :
    t.HasAtMostOne e := by
  intro a ha
  rw [show t.incidentsOf e = [] from h] at ha
  cases ha

theorem mem_incidentsOf {t : IncidentTables} {e : UnifiedEventIdType} {incident : IncidentInfo} :
    incident ∈ t.incidentsOf e ↔ incident ∈ t.incidents ∧ incident.unifiedEventId = e := by
  simp [incidentsOf]

/-- A row for the event is the new one or an old one. -/
theorem incidentsOf_addIncidentInfo {t : IncidentTables} {e : UnifiedEventIdType}
    {incidentInfo incident : IncidentInfo}
    (h : incident ∈ (t.addIncidentInfo incidentInfo).incidentsOf e) :
    (incident = incidentInfo ∧ incidentInfo.unifiedEventId = e) ∨ incident ∈ t.incidentsOf e := by
  rw [mem_incidentsOf] at h
  obtain ⟨hmem, rfl⟩ := h
  rcases mem_of_mem_put hmem with rfl | hold
  · exact Or.inl ⟨rfl, rfl⟩
  · exact Or.inr (mem_incidentsOf.mpr ⟨hold, rfl⟩)

theorem HasNone.addIncidentInfo_other {t : IncidentTables} {e : UnifiedEventIdType}
    (h : t.HasNone e) {incidentInfo : IncidentInfo} (hother : incidentInfo.unifiedEventId ≠ e) :
    (t.addIncidentInfo incidentInfo).HasNone e := by
  refine List.eq_nil_iff_forall_not_mem.mpr fun incident hincident => ?_
  rcases incidentsOf_addIncidentInfo hincident with ⟨-, heq⟩ | hold
  · exact hother heq
  · rw [show t.incidentsOf e = [] from h] at hold
    cases hold

theorem HasAtMostOne.addIncidentInfo_other {t : IncidentTables} {e : UnifiedEventIdType}
    (h : t.HasAtMostOne e) {incidentInfo : IncidentInfo} (hother : incidentInfo.unifiedEventId ≠ e) :
    (t.addIncidentInfo incidentInfo).HasAtMostOne e := by
  have hold : ∀ incident ∈ (t.addIncidentInfo incidentInfo).incidentsOf e,
      incident ∈ t.incidentsOf e := fun incident hincident =>
    (incidentsOf_addIncidentInfo hincident).resolve_left fun hnew => hother hnew.2
  exact fun a ha b hb => h a (hold a ha) b (hold b hb)

theorem HasNone.addIncidentInfo {t : IncidentTables} {e : UnifiedEventIdType} (h : t.HasNone e)
    (incidentInfo : IncidentInfo) : (t.addIncidentInfo incidentInfo).HasAtMostOne e := by
  have hnew : ∀ incident ∈ (t.addIncidentInfo incidentInfo).incidentsOf e,
      incident = incidentInfo := by
    intro incident hincident
    rcases incidentsOf_addIncidentInfo hincident with ⟨heq, -⟩ | hold
    · exact heq
    · rw [show t.incidentsOf e = [] from h] at hold
      cases hold
  intro a ha b hb
  rw [hnew a ha, hnew b hb]

/-- An update leaves the events of the incidents. -/
theorem incidentsOf_updateIncidentInfo {t t' : IncidentTables} {incidentInfo : IncidentInfo}
    (h : t.updateIncidentInfo incidentInfo = some t') (e : UnifiedEventIdType) :
    ∃ f, t'.incidentsOf e = (t.incidentsOf e).map f := by
  unfold updateIncidentInfo at h
  split at h
  next =>
    obtain rfl := Option.some.inj h
    refine ⟨_, t.incidentsOf_updateIncidents (key_setUpdated incidentInfo) (fun row => ?_) e⟩
    split <;> rfl
  next => cases h

theorem HasNone.updateIncidentInfo {t t' : IncidentTables} {e : UnifiedEventIdType}
    (hnone : t.HasNone e) {incidentInfo : IncidentInfo}
    (h : t.updateIncidentInfo incidentInfo = some t') : t'.HasNone e := by
  obtain ⟨f, hf⟩ := incidentsOf_updateIncidentInfo h e
  rw [HasNone, hf, show t.incidentsOf e = [] from hnone, List.map_nil]

theorem HasAtMostOne.updateIncidentInfo {t t' : IncidentTables} {e : UnifiedEventIdType}
    (hone : t.HasAtMostOne e) {incidentInfo : IncidentInfo}
    (h : t.updateIncidentInfo incidentInfo = some t') : t'.HasAtMostOne e := by
  obtain ⟨f, hf⟩ := incidentsOf_updateIncidentInfo h e
  intro a ha b hb
  rw [hf, List.mem_map] at ha hb
  obtain ⟨a, ha, rfl⟩ := ha
  obtain ⟨b, hb, rfl⟩ := hb
  rw [hone a ha b hb]

end IncidentTables

/-! ## Jobs -/

/-- The jobs for an event that a sender has not ended. -/
def SenderThread.jobsFor (thread : SenderThread) (e : UnifiedEventIdType) : Nat :=
  (thread.runningJob.toList ++ thread.queue).countP (·.unifiedId = e)

namespace CreationSystem

/-- An event without an incident in the table or in the making. -/
def Untouched (s : CreationSystem) (e : UnifiedEventIdType) : Prop :=
  s.tables.incidents.HasNone e ∧ ∀ trackerId, (s.senders trackerId).jobsFor e = 0

/-- One job that is to make the only incident of the event. -/
def InTheMaking (s : CreationSystem) (e : UnifiedEventIdType) : Prop :=
  s.tables.incidents.HasNone e ∧ ∃ trackerId, (s.senders trackerId).jobsFor e = 1 ∧
    ∀ other, other ≠ trackerId → (s.senders other).jobsFor e = 0

/-- Nobody makes an incident of the event, and there is one at most. -/
def Settled (s : CreationSystem) (e : UnifiedEventIdType) : Prop :=
  s.tables.incidents.HasAtMostOne e ∧ ∀ trackerId, (s.senders trackerId).jobsFor e = 0

variable {s : CreationSystem} {e : UnifiedEventIdType}

/-- A step that changes neither the tables nor the number of jobs for the event. -/
theorem single_of_jobsFor (s' : CreationSystem) (htables : s'.tables = s.tables)
    (hjobs : ∀ trackerId, (s'.senders trackerId).jobsFor e = (s.senders trackerId).jobsFor e)
    (h : s.InTheMaking e ∨ s.Settled e) : s'.InTheMaking e ∨ s'.Settled e := by
  unfold InTheMaking Settled at *
  rw [htables]
  simp only [hjobs]
  exact h

theorem jobsFor_setSender (trackerId : IncidentTrackerIdType) (thread : SenderThread)
    (other : IncidentTrackerIdType) :
    ((s.setSender trackerId thread).senders other).jobsFor e =
      if other = trackerId then thread.jobsFor e else (s.senders other).jobsFor e := by
  simp only [setSender, Function.update_apply]
  split <;> rfl

section Steps

variable {trackers : IncidentTrackerIdType → Option IncidentTrackerType}

/-- A job for another event, or for the event when it is untouched. -/
theorem single_pushJob {job : CreateIncidentJob}
    (halone : (trackers job.trackerId).isSome → job.event.unifiedId = e → s.Untouched e)
    (h : s.InTheMaking e ∨ s.Settled e) :
    (s.pushJob trackers job).InTheMaking e ∨ (s.pushJob trackers job).Settled e := by
  unfold pushJob
  split
  next htracker =>
    by_cases hevent : job.event.unifiedId = e
    · obtain ⟨hnone, hjobs⟩ := halone htracker hevent
      refine Or.inl ⟨hnone, job.trackerId, ?_, ?_⟩
      · have hidle := hjobs job.trackerId
        rw [SenderThread.jobsFor] at hidle
        rw [jobsFor_setSender, if_pos rfl, SenderThread.jobsFor]
        simp only [← List.append_assoc, List.countP_append, List.countP_singleton]
        simp only [List.countP_append] at hidle
        simp [hevent, hidle]
      · intro other hother
        rw [jobsFor_setSender, if_neg hother]
        exact hjobs other
    · refine single_of_jobsFor (s := s) _ rfl (fun trackerId => ?_) h
      rw [jobsFor_setSender]
      split
      next heq =>
        rw [heq, SenderThread.jobsFor, SenderThread.jobsFor, ← List.append_assoc,
          List.countP_append]
        simp [hevent]
      next => rfl
  next => exact h

theorem single_popJob (trackerId : IncidentTrackerIdType) (h : s.InTheMaking e ∨ s.Settled e) :
    (s.popJob trackerId).InTheMaking e ∨ (s.popJob trackerId).Settled e := by
  unfold popJob
  split
  next event queue hthread =>
    refine single_of_jobsFor (s := s) _ rfl (fun other => ?_) h
    rw [jobsFor_setSender]
    split
    next heq =>
      rw [heq, hthread]
      rfl
    next => rfl
  next => exact h

theorem unifiedEventId_buildIncident {trackerId : IncidentTrackerIdType} {currentTime : Timespec}
    {response : RedmineResponse} {event : EventRecord} {incidentInfo : IncidentInfo}
    (h : buildIncident trackers trackerId currentTime response event = some incidentInfo) :
    incidentInfo.unifiedEventId = event.unifiedId := by
  unfold buildIncident at h
  split at h
  next =>
    obtain rfl := Option.some.inj h
    rfl
  next =>
    obtain ⟨⟨issue, location⟩, -, rfl⟩ := Option.map_eq_some_iff.mp h
    rfl
  next => cases h

/-- A sender that works for the event is the one that makes the only incident. -/
theorem inTheMaking_of_running {trackerId : IncidentTrackerIdType} {queue : List EventRecord}
    {event : EventRecord} (hthread : s.senders trackerId = ⟨queue, some event⟩)
    (hevent : event.unifiedId = e) (h : s.InTheMaking e ∨ s.Settled e) :
    s.tables.incidents.HasNone e ∧ queue.countP (·.unifiedId = e) = 0 ∧
      ∀ other, other ≠ trackerId → (s.senders other).jobsFor e = 0 := by
  have hjobs : (s.senders trackerId).jobsFor e = queue.countP (·.unifiedId = e) + 1 := by
    rw [hthread, SenderThread.jobsFor]
    simp [hevent]
  rcases h with ⟨hnone, maker, hmaker, hothers⟩ | ⟨-, hidle⟩
  · have heq : trackerId = maker := by
      by_contra hne
      have hzero := hothers trackerId hne
      omega
    subst heq
    exact ⟨hnone, by omega, hothers⟩
  · have hzero := hidle trackerId
    omega

theorem single_send (trackerId : IncidentTrackerIdType) (currentTime : Timespec)
    (response : RedmineResponse) (h : s.InTheMaking e ∨ s.Settled e) :
    (s.send trackers trackerId currentTime response).InTheMaking e ∨
      (s.send trackers trackerId currentTime response).Settled e := by
  unfold send
  split
  next queue event hthread =>
    simp only
    by_cases hevent : event.unifiedId = e
    · obtain ⟨hnone, hqueue, hothers⟩ := inTheMaking_of_running hthread hevent h
      have hjobs : ∀ other, ((s.setSender trackerId ⟨queue, none⟩).senders other).jobsFor e = 0 :=
        by
        intro other
        rw [jobsFor_setSender]
        split
        next => exact hqueue
        next hne => exact hothers other hne
      split
      next incidentInfo _ => exact Or.inr ⟨hnone.addIncidentInfo incidentInfo, hjobs⟩
      next => exact Or.inr ⟨hnone.hasAtMostOne, hjobs⟩
    · have hjobs : ∀ other, ((s.setSender trackerId ⟨queue, none⟩).senders other).jobsFor e =
          (s.senders other).jobsFor e := by
        intro other
        rw [jobsFor_setSender]
        split
        next heq =>
          rw [heq, hthread, SenderThread.jobsFor, SenderThread.jobsFor]
          simp [hevent]
        next => rfl
      have h' := single_of_jobsFor (s := s) (s.setSender trackerId ⟨queue, none⟩) rfl hjobs h
      split
      next incidentInfo hincident =>
        have hother : incidentInfo.unifiedEventId ≠ e := by
          rw [unifiedEventId_buildIncident hincident]
          exact hevent
        rcases h' with ⟨hnone, hmaker⟩ | ⟨hone, hidle⟩
        · exact Or.inl ⟨hnone.addIncidentInfo_other hother, hmaker⟩
        · exact Or.inr ⟨hone.addIncidentInfo_other hother, hidle⟩
      next => exact h'
  next => exact h

/-- The job that a step queues. -/
def pushedJob (s : CreationSystem) : CreationEvent → Option CreateIncidentJob
  | .queue k => s.checked[k]?
  | .execIncidentSenderAction trackerId eventInfo => some ⟨trackerId, eventInfo⟩
  | _ => none

variable (trackers) in
/-- Whoever queues a job for the event does so when the event has no incident, in the table or in the
    making. -/
def QueuesAlone (s : CreationSystem) (e : UnifiedEventIdType) (event : CreationEvent) : Prop :=
  ∀ job, s.pushedJob event = some job → (trackers job.trackerId).isSome →
    job.event.unifiedId = e → s.Untouched e

theorem queuesAlone_of_none {event : CreationEvent} (hnone : s.pushedJob event = none) :
    s.QueuesAlone trackers e event := by
  intro job hjob
  rw [hnone] at hjob
  cases hjob

theorem single_step {event : CreationEvent} (halone : s.QueuesAlone trackers e event)
    (h : s.InTheMaking e ∨ s.Settled e) :
    (s.step trackers event).InTheMaking e ∨ (s.step trackers event).Settled e := by
  cases event with
  | check context eventId trackerId => exact h
  | queue k =>
    simp only [step]
    split
    next job hjob =>
      exact single_pushJob (s := { s with checked := s.checked.eraseIdx k }) (halone job hjob) h
    next => exact h
  | execIncidentSenderAction trackerId eventInfo =>
    exact single_pushJob (halone ⟨trackerId, eventInfo⟩ rfl) h
  | popJob trackerId => exact single_popJob trackerId h
  | send trackerId currentTime response => exact single_send trackerId currentTime response h
  | updateIncidentInfo incidentInfo =>
    simp only [step]
    split
    next incidents hupdate =>
      rcases h with ⟨hnone, hmaker⟩ | ⟨hone, hidle⟩
      · exact Or.inl ⟨hnone.updateIncidentInfo hupdate, hmaker⟩
      · exact Or.inr ⟨hone.updateIncidentInfo hupdate, hidle⟩
    next => exact h

variable (trackers) in
/-- Every step of a run queues alone. -/
def RunsAlone (s : CreationSystem) (e : UnifiedEventIdType) (events : List CreationEvent) : Prop :=
  ∀ before event after, events = before ++ event :: after →
    (s.run trackers before).QueuesAlone trackers e event

theorem single_run {events : List CreationEvent} (halone : s.RunsAlone trackers e events)
    (h : s.InTheMaking e ∨ s.Settled e) :
    (s.run trackers events).InTheMaking e ∨ (s.run trackers events).Settled e := by
  induction events generalizing s with
  | nil => exact h
  | cons event events ih =>
    refine ih ?_ (single_step (halone [] event events rfl) h)
    intro before event' after heq
    exact halone (event :: before) event' after (by rw [heq, List.cons_append])

variable (trackers) in
/-- The incident that a step adds to the table. -/
def newIncident (s : CreationSystem) : CreationEvent → Option IncidentInfo
  | .send trackerId currentTime response => (s.senders trackerId).runningJob.bind
      (buildIncident trackers trackerId currentTime response)
  | _ => none

theorem runsAlone_cons {event : CreationEvent} {events : List CreationEvent}
    (hevent : s.QueuesAlone trackers e event)
    (hevents : (s.step trackers event).RunsAlone trackers e events) :
    s.RunsAlone trackers e (event :: events) := by
  intro before event' after heq
  cases before with
  | nil =>
    obtain ⟨rfl, -⟩ := List.cons.inj heq
    exact hevent
  | cons first before =>
    obtain ⟨rfl, hrest⟩ := List.cons.inj heq
    exact hevents before event' after hrest

end Steps

end CreationSystem

open CreationSystem IncidentTables

/-- (RestResourceIncident.cc:285-327, ActionManager.cc:1402-1425) Clients and actions make incidents
    in any order of their steps. If nobody queues a job for an event that has an incident in the
    table or in the making, then the event never gets a second incident, and a row is added for it
    only when it has none, so that none is written over. -/
theorem one_incident_per_event (trackers : IncidentTrackerIdType → Option IncidentTrackerType)
    (tables : MonitoringTables) (e : UnifiedEventIdType) (events : List CreationEvent)
    (hone : tables.incidents.HasAtMostOne e)
    (halone : (CreationSystem.start tables).RunsAlone trackers e events) :
    ∀ before after, events = before ++ after →
      ((CreationSystem.start tables).run trackers before).tables.incidents.HasAtMostOne e ∧
        ∀ event incidentInfo, after.head? = some event →
          ((CreationSystem.start tables).run trackers before).newIncident trackers event =
            some incidentInfo →
          incidentInfo.unifiedEventId = e →
          ((CreationSystem.start tables).run trackers before).tables.incidents.HasNone e := by
  rintro before after rfl
  have hsettled : (CreationSystem.start tables).Settled e := ⟨hone, fun _ => rfl⟩
  have hbefore : (CreationSystem.start tables).RunsAlone trackers e before := by
    intro before' event after' heq
    exact halone before' event (after' ++ after) (by rw [heq, List.append_assoc]; rfl)
  have hsingle := single_run hbefore (Or.inr hsettled)
  refine ⟨?_, ?_⟩
  · rcases hsingle with ⟨hnone, -⟩ | ⟨hone', -⟩
    · exact hnone.hasAtMostOne
    · exact hone'
  · intro event incidentInfo _ hnew hevent
    cases event with
    | send trackerId currentTime response =>
      obtain ⟨job, hjob, hincident⟩ := Option.bind_eq_some_iff.mp hnew
      have hthread : ((CreationSystem.start tables).run trackers before).senders trackerId =
          ⟨(((CreationSystem.start tables).run trackers before).senders trackerId).queue,
            some job⟩ := by
        rw [← hjob]
      rw [unifiedEventId_buildIncident hincident] at hevent
      exact (inTheMaking_of_running hthread hevent hsingle).1
    | _ => cases hnew

/-! Two trackers of Hatohol's own, an event without incidents, and a user who may see it. -/

def twoTrackers (trackerId : IncidentTrackerIdType) : Option IncidentTrackerType :=
  if trackerId = 1 ∨ trackerId = 2 then some .hatohol else none

def someEvent : EventRecord :=
  ⟨7, 1, .ofString "1", ⟨0, 0⟩, 0, .ofString "1", 0, 0, 1, .ofString "1", emptyText⟩

def oneEvent : MonitoringTables where
  events := [someEvent]
  members := []
  incidents := ⟨[], .empty _, IncidentTables.nodup_key_nil⟩

/-- A POST and what the thread of the tracker does for it. -/
def oneCreation : List CreationEvent :=
  [.check (systemContext {1}) 7 1, .queue 0, .popJob 1, .send 1 ⟨10, 0⟩ none]

/-- The incidents after a run. -/
def incidentsAfter (events : List CreationEvent) : IncidentTables :=
  ((CreationSystem.start oneEvent).run twoTrackers events).tables.incidents

theorem one_incident_per_event_oneCreation : (incidentsAfter oneCreation).HasAtMostOne 7 := by
  refine (one_incident_per_event twoTrackers oneEvent 7 oneCreation (fun a ha => ?_) ?_
    oneCreation [] (by simp)).1
  · cases ha
  · refine runsAlone_cons (queuesAlone_of_none rfl) (runsAlone_cons ?_
      (runsAlone_cons (queuesAlone_of_none rfl) (runsAlone_cons (queuesAlone_of_none rfl) ?_)))
    · exact fun job _ _ _ => ⟨rfl, fun _ => rfl⟩
    · intro before event after heq
      cases before <;> cases heq

/-- Two POSTs for different trackers; both look before there is an incident. -/
def twoCreations : List CreationEvent :=
  [.check (systemContext {1}) 7 1, .check (systemContext {1}) 7 2, .queue 0, .queue 0, .popJob 1,
    .send 1 ⟨10, 0⟩ none, .popJob 2, .send 2 ⟨20, 0⟩ none]

/-- The incident is done, and an action makes it once more. -/
def creationAgain : List CreationEvent :=
  oneCreation ++
    [.updateIncidentInfo { IncidentSenderHatohol.buildNewIncidentInfo 1 ⟨10, 0⟩ someEvent with
        status := IncidentSenderHatohol.statusDone },
      .execIncidentSenderAction 1 someEvent, .popJob 1, .send 1 ⟨30, 0⟩ none]

theorem two_incidents_per_event :
    ¬ (incidentsAfter twoCreations).HasAtMostOne 7 ∧
      (incidentsAfter creationAgain.dropLast).incidents.map (·.status) =
        [IncidentSenderHatohol.statusDone] ∧
      (incidentsAfter creationAgain).incidents.map (·.status) =
        [IncidentSenderHatohol.statusNone] := by
  refine ⟨?_, by decide +kernel, by decide +kernel⟩
  have htwo : (incidentsAfter twoCreations).incidentsOf 7 =
      [IncidentSenderHatohol.buildNewIncidentInfo 1 ⟨10, 0⟩ someEvent,
        IncidentSenderHatohol.buildNewIncidentInfo 2 ⟨20, 0⟩ someEvent] := by
    decide +kernel
  intro hone
  have heq := hone _ (by rw [htwo]; exact List.mem_cons_self) _
    (by rw [htwo]; exact List.mem_cons_of_mem _ List.mem_cons_self)
  cases congrArg IncidentInfo.trackerId heq

end Hatohol

import Hatohol.RestResourceIncident

/-!
# Which event an incident is made for

A POST names an event by its unified id, and the query for it has that id as an upper limit only.
-/

namespace Hatohol

open Sql DBTermCodec

namespace EventsQueryOption

theorem shows_of_alwaysFalse {o : EventsQueryOption}
    (hfalse : o.base.getCondition = .ok alwaysFalseCondition) (e : EventRow) :
    o.shows e.value = false := by
  have htrue : isAlwaysFalseCondition alwaysFalseCondition = true := rfl
  rw [shows, getCondition, hfalse]
  simp only [bind, Except.bind, pure, Except.pure, htrue, if_true]
  rfl

/-- Behind a base without filters the filters of the option's own are a conjunct. -/
theorem shows_eq_passesOwn {o : EventsQueryOption} (hfilters : o.base.hasNoFilters)
    (hstatuses : o.incidentStatuses.isEmpty) (e : EventRow) :
    o.shows e.value = (o.base.shows e.value && o.passesOwn e) := by
  by_cases hfalse : o.base.getCondition = .ok alwaysFalseCondition
  · have hbase : o.base.shows e.value = false := by
      rw [HostResourceQueryOption.shows, hfalse]
      rfl
    rw [shows_of_alwaysFalse hfalse, hbase, Bool.false_and]
  rw [shows_eq hfalse]
  cases hanswers : o.base.answers with
  | false =>
    rw [HostResourceQueryOption.shows_row (o.hasRow_value e), hanswers]
    simp
  | true =>
    have hbare : o.asksForNoIncident = false := by
      have hnil : o.incidentStatuses.toList = [] := by
        simpa [← Std.TreeSet.isEmpty_toList] using hstatuses
      simp [asksForNoIncident, hnil]
    have hescapes : (Text.alts e.value o.base.form).dropLast.any id = false := by
      obtain ⟨-, -, hgroups, hhosts⟩ := HostResourceQueryOption.noFilters_spec hfilters
      rw [HostResourceQueryOption.dropLast_form hanswers (o.hasRow_value e)]
      simp [HostResourceQueryOption.escapes, hgroups, hhosts]
    rw [base_shows_eq hanswers, picks_form hbare, picks_eq_dropLast, hescapes]
    simp [passesIncident, hstatuses]

/-- The query that `createIncidentAsync` makes, less its limit. -/
def withLimit (context : DataQueryContext) (limit : Nat) : EventsQueryOption :=
  { new context with limitOfUnifiedId := limit }.setTableNameAlways

theorem hasNoFilters_withLimit (context : DataQueryContext) (limit : Nat) :
    (withLimit context limit).base.hasNoFilters := by
  simp [withLimit, new, setTableNameAlways, HostResourceQueryOption.hasNoFilters,
    HostResourceQueryOption.new]

theorem incidentStatuses_withLimit (context : DataQueryContext) (limit : Nat) :
    (withLimit context limit).incidentStatuses.isEmpty := by
  simp [withLimit, new, setTableNameAlways]

/-- With a limit it shows what it shows without, up to the limit. -/
theorem shows_withLimit (context : DataQueryContext) (limit : Nat) (e : EventRow) :
    (withLimit context limit).shows e.value =
      ((withLimit context 0).shows e.value && (limit == 0 || decide (e.unifiedId ≤ limit))) := by
  rw [shows_eq_passesOwn (hasNoFilters_withLimit context limit)
      (incidentStatuses_withLimit context limit),
    shows_eq_passesOwn (hasNoFilters_withLimit context 0) (incidentStatuses_withLimit context 0)]
  have hown : (withLimit context 0).passesOwn e = true := by
    simp [withLimit, new, setTableNameAlways, passesOwn]
  have hlimit : (withLimit context limit).passesOwn e =
      (limit == 0 || decide (e.unifiedId ≤ limit)) := by
    simp [withLimit, new, setTableNameAlways, passesOwn]
    rfl
  rw [hown, hlimit, Bool.and_true]
  rfl

theorem shows_withLimit_host (context : DataQueryContext) (e e' : EventRow) (h : e.host = e'.host) :
    (withLimit context 0).shows e.value = (withLimit context 0).shows e'.value := by
  have hbase : ∀ e : EventRow, (withLimit context 0).shows e.value =
      (withLimit context 0).base.shows e.value := by
    intro e
    rw [shows_eq_passesOwn (hasNoFilters_withLimit context 0) (incidentStatuses_withLimit context 0)]
    simp [withLimit, new, setTableNameAlways, passesOwn]
  rw [hbase, hbase, HostResourceQueryOption.shows_row (hasRow_value _ e),
    HostResourceQueryOption.shows_row (hasRow_value _ e'), h]

end EventsQueryOption

namespace MonitoringTables

open EventsQueryOption

/-- The rows of an event that a query shows. -/
def shownRows (t : MonitoringTables) (o : EventsQueryOption) :
    List (EventRecord × Option IncidentInfo) :=
  t.events.flatMap fun event =>
    ((t.joinIncidents event).filter fun incident =>
      (t.joinHostgroups o event).any fun hostgroupId =>
        o.shows (event.row hostgroupId incident).value).map (event, ·)

theorem getEventInfoList_eq {t : MonitoringTables} {o : EventsQueryOption}
    {rows : List (EventRecord × Option IncidentInfo)} (h : t.getEventInfoList o = .ok rows) :
    rows = t.shownRows o.setTableNameAlways := by
  simp only [getEventInfoList] at h
  cases hcondition : o.setTableNameAlways.getCondition with
  | error e =>
    rw [hcondition] at h
    cases h
  | ok condition =>
    have hshows : ∀ row, o.setTableNameAlways.shows row = selects condition row := by
      intro row
      rw [shows, hcondition]
    rw [hcondition] at h
    simp only [shownRows, hshows]
    rw [← Except.ok.inj h]
    split
    next hfalse =>
      obtain rfl : condition = alwaysFalseCondition := beq_iff_eq.mp hfalse
      have hnone : ∀ row, selects alwaysFalseCondition row = false := fun row => rfl
      simp [hnone]
    next => rfl

/-- The user gets the event from a query for events that has no filters. -/
def VisibleTo (t : MonitoringTables) (context : DataQueryContext) (event : EventRecord) : Prop :=
  ∃ rows, t.getEventInfoList (.new context) = .ok rows ∧ ∃ incident, (event, incident) ∈ rows

/-- The event is one that the user may see: by its host and the groups of that, not by its
    incidents. -/
def seen (t : MonitoringTables) (context : DataQueryContext) (event : EventRecord) : Bool :=
  (t.joinHostgroups (withLimit context 0) event).any fun hostgroupId =>
    (withLimit context 0).shows (event.row hostgroupId none).value

/-- The rows of an event that are shown up to a limit are all or none. -/
theorem shownRows_withLimit (t : MonitoringTables) (context : DataQueryContext) (limit : Nat) :
    t.shownRows (withLimit context limit) = t.events.flatMap fun event =>
      if t.seen context event && (limit == 0 || decide (event.unifiedId ≤ limit)) then
        (t.joinIncidents event).map (event, ·)
      else [] := by
  unfold shownRows
  congr 1
  funext event
  have hshown : ∀ incident, (t.joinHostgroups (withLimit context limit) event).any
      (fun hostgroupId => (withLimit context limit).shows (event.row hostgroupId incident).value) =
        (t.seen context event && (limit == 0 || decide (event.unifiedId ≤ limit))) := by
    intro incident
    have hlimit : ∀ hostgroupId,
        (withLimit context limit).shows (event.row hostgroupId incident).value =
          ((withLimit context 0).shows (event.row hostgroupId none).value &&
            (limit == 0 || decide (event.unifiedId ≤ limit))) := by
      intro hostgroupId
      rw [shows_withLimit, shows_withLimit_host context (event.row hostgroupId incident)
        (event.row hostgroupId none) rfl]
      rfl
    simp only [hlimit, seen]
    rw [List.and_any_distrib_right]
    rfl
  simp only [hshown]
  split
  next hseen => simp [hseen]
  next hseen => simp [hseen]

/-- Whether a query fails is decided by its base. -/
theorem exists_getEventInfoList {t : MonitoringTables} {o : EventsQueryOption}
    (o' : EventsQueryOption)
    (hbase : o'.base = o.base) {rows : List (EventRecord × Option IncidentInfo)}
    (h : t.getEventInfoList o = .ok rows) : ∃ rows', t.getEventInfoList o' = .ok rows' := by
  have hbase' : o'.setTableNameAlways.base = o.setTableNameAlways.base := by
    simp only [setTableNameAlways, hbase]
  simp only [getEventInfoList, getCondition] at h ⊢
  rw [hbase']
  cases hcondition : o.setTableNameAlways.base.getCondition with
  | error e =>
    rw [hcondition] at h
    cases h
  | ok condition => exact ⟨_, rfl⟩

theorem joinIncidents_ne_nil (t : MonitoringTables) (event : EventRecord) :
    t.joinIncidents event ≠ [] := by
  unfold joinIncidents
  split
  next => simp
  next hincidents => simpa using hincidents

theorem mem_shownRows {t : MonitoringTables} {context : DataQueryContext} {limit : Nat}
    {event : EventRecord} {incident : Option IncidentInfo} :
    (event, incident) ∈ t.shownRows (withLimit context limit) ↔
      (event ∈ t.events ∧ t.seen context event) ∧ (limit = 0 ∨ event.unifiedId ≤ limit) ∧
        incident ∈ t.joinIncidents event := by
  rw [shownRows_withLimit, List.mem_flatMap]
  constructor
  · rintro ⟨event', hevent, hrow⟩
    split at hrow
    next hseen =>
      obtain ⟨incident', hincident, heq⟩ := List.mem_map.mp hrow
      obtain ⟨rfl, rfl⟩ := Prod.mk.inj heq
      rw [Bool.and_eq_true, Bool.or_eq_true, beq_iff_eq, decide_eq_true_iff] at hseen
      exact ⟨⟨hevent, hseen.1⟩, hseen.2, hincident⟩
    next => cases hrow
  · rintro ⟨⟨hevent, hseen⟩, hlimit, hincident⟩
    refine ⟨event, hevent, ?_⟩
    rw [if_pos (by simpa [hseen] using hlimit)]
    exact List.mem_map_of_mem hincident

section Found

variable {t : MonitoringTables} {context : DataQueryContext} {limit : Nat}
  {rows : List (EventRecord × Option IncidentInfo)}

theorem visibleTo_iff
    (h : t.getEventInfoList { EventsQueryOption.new context with limitOfUnifiedId := limit } =
      .ok rows) {event : EventRecord} :
    t.VisibleTo context event ↔ event ∈ t.events ∧ t.seen context event := by
  obtain ⟨rows', hrows'⟩ :=
    exists_getEventInfoList (o := { EventsQueryOption.new context with limitOfUnifiedId := limit })
      (.new context) rfl h
  have hmem : ∀ incident, (event, incident) ∈ rows' ↔
      (event ∈ t.events ∧ t.seen context event) ∧ (0 = 0 ∨ event.unifiedId ≤ 0) ∧
        incident ∈ t.joinIncidents event := by
    intro incident
    rw [getEventInfoList_eq hrows']
    exact mem_shownRows
  constructor
  · rintro ⟨rows'', hrows'', incident, hincident⟩
    obtain rfl := Except.ok.inj (hrows''.symm.trans hrows')
    exact ((hmem incident).mp hincident).1
  · intro hseen
    obtain ⟨incident, hincident⟩ := List.exists_mem_of_ne_nil _ (t.joinIncidents_ne_nil event)
    exact ⟨rows', hrows', incident, (hmem incident).mpr ⟨hseen, Or.inl rfl, hincident⟩⟩

/-- What is found up to a limit is visible. -/
theorem mem_rows_iff
    (h : t.getEventInfoList { EventsQueryOption.new context with limitOfUnifiedId := limit } =
      .ok rows) {event : EventRecord} {incident : Option IncidentInfo} :
    (event, incident) ∈ rows ↔ t.VisibleTo context event ∧
      (limit = 0 ∨ event.unifiedId ≤ limit) ∧ incident ∈ t.joinIncidents event := by
  rw [visibleTo_iff h, getEventInfoList_eq h]
  exact mem_shownRows

/-- The first of the rows that a property of the event picks is the first of that event. -/
theorem head?_joinIncidents_of_find?
    (h : t.getEventInfoList { EventsQueryOption.new context with limitOfUnifiedId := limit } =
      .ok rows) {p : EventRecord → Bool} {event : EventRecord} {incident : Option IncidentInfo}
    (hfind : (rows.find? fun row => p row.1) = some (event, incident)) :
    (t.joinIncidents event).head? = some incident := by
  have hrows : rows = t.shownRows (withLimit context limit) := getEventInfoList_eq h
  rw [hrows, shownRows_withLimit, List.find?_flatMap] at hfind
  obtain ⟨event', -, hfind'⟩ := List.exists_of_findSome?_eq_some hfind
  split at hfind'
  next =>
    rw [List.find?_map] at hfind'
    obtain ⟨incident', hincident', heq⟩ := Option.map_eq_some_iff.mp hfind'
    obtain ⟨rfl, rfl⟩ := Prod.mk.inj heq
    have hp := List.find?_some hincident'
    have hall : ((fun row : EventRecord × Option IncidentInfo => p row.1) ∘
        fun incident => (event', incident)) = fun _ => true := by
      funext incident
      exact hp
    rw [hall] at hincident'
    rw [← hincident']
    cases t.joinIncidents event' <;> rfl
  next => cases hfind'

end Found

/-- The newest event of those that the user may see and that are not above the id; all are not above
    zero. -/
def IsNewest (t : MonitoringTables) (context : DataQueryContext) (eventId : UnifiedEventIdType)
    (event : EventRecord) : Prop :=
  (t.VisibleTo context event ∧ (eventId = 0 ∨ event.unifiedId ≤ eventId)) ∧
    ∀ other, t.VisibleTo context other → (eventId = 0 ∨ other.unifiedId ≤ eventId) →
      other.unifiedId ≤ event.unifiedId

theorem IsNewest.unifiedId_eq {t : MonitoringTables} {context : DataQueryContext}
    {eventId : UnifiedEventIdType} {event event' : EventRecord}
    (h : t.IsNewest context eventId event) (h' : t.IsNewest context eventId event') :
    event.unifiedId = event'.unifiedId :=
  Nat.le_antisymm (h'.2 event h.1.1 h.1.2) (h.2 event' h'.1.1 h'.1.2)

theorem joinIncidents_congr (t : MonitoringTables) {event event' : EventRecord}
    (h : event.unifiedId = event'.unifiedId) : t.joinIncidents event = t.joinIncidents event' := by
  simp only [joinIncidents, h]

end MonitoringTables

namespace RestResourceIncident

open MonitoringTables

section Found

variable {t : MonitoringTables} {context : DataQueryContext} {eventId : UnifiedEventIdType}

theorem findEvent_none (h : findEvent t context eventId = .ok none) (event : EventRecord) :
    ¬ t.IsNewest context eventId event := by
  simp only [findEvent] at h
  cases hrows : t.getEventInfoList
      { EventsQueryOption.new context with limitOfUnifiedId := eventId } with
  | error e =>
    rw [hrows] at h
    cases h
  | ok rows =>
    rw [hrows] at h
    have hnone := List.find?_eq_none.mp (Except.ok.inj h)
    rintro ⟨⟨hvisible, hlimit⟩, hnewest⟩
    obtain ⟨incident, hincident⟩ := List.exists_mem_of_ne_nil _ (t.joinIncidents_ne_nil event)
    refine hnone (event, incident) ((mem_rows_iff hrows).mpr ⟨hvisible, hlimit, hincident⟩) ?_
    rw [List.all_eq_true]
    rintro ⟨other, incident'⟩ hother
    obtain ⟨hvisible', hlimit', -⟩ := (mem_rows_iff hrows).mp hother
    exact decide_eq_true (hnewest other hvisible' hlimit')

theorem findEvent_error {e : HatoholException} (h : findEvent t context eventId = .error e)
    (event : EventRecord) : ¬ t.IsNewest context eventId event := by
  rintro ⟨⟨⟨rows, hrows, -⟩, -⟩, -⟩
  obtain ⟨rows', hrows'⟩ := exists_getEventInfoList (o := .new context)
    { EventsQueryOption.new context with limitOfUnifiedId := eventId } rfl hrows
  simp only [findEvent, hrows'] at h
  cases h

theorem findEvent_some {event : EventRecord} {incident : Option IncidentInfo}
    (h : findEvent t context eventId = .ok (some (event, incident))) :
    t.IsNewest context eventId event ∧ (t.joinIncidents event).head? = some incident := by
  simp only [findEvent] at h
  cases hrows : t.getEventInfoList
      { EventsQueryOption.new context with limitOfUnifiedId := eventId } with
  | error e =>
    rw [hrows] at h
    cases h
  | ok rows =>
    rw [hrows] at h
    have hfind := Except.ok.inj h
    obtain ⟨hvisible, hlimit, -⟩ := (mem_rows_iff hrows).mp (List.mem_of_find?_eq_some hfind)
    refine ⟨⟨⟨hvisible, hlimit⟩, ?_⟩, ?_⟩
    · intro other hvisible' hlimit'
      obtain ⟨incident', hincident'⟩ := List.exists_mem_of_ne_nil _ (t.joinIncidents_ne_nil other)
      have hother := (mem_rows_iff hrows).mpr ⟨hvisible', hlimit', hincident'⟩
      have hnewest := List.find?_some hfind
      rw [List.all_eq_true] at hnewest
      exact of_decide_eq_true (hnewest (other, incident') hother)
    · exact head?_joinIncidents_of_find? hrows
        (p := fun event => rows.all fun other => decide (other.1.unifiedId ≤ event.unifiedId)) hfind

end Found

/-- The event has no incident in the table. -/
def HasNoIncident (t : MonitoringTables) (event : EventRecord) : Prop :=
  ∀ incident ∈ t.incidents.incidents, incident.unifiedEventId ≠ event.unifiedId

theorem head?_joinIncidents_eq_none {t : MonitoringTables} {event : EventRecord} :
    (t.joinIncidents event).head? = some none ↔ HasNoIncident t event := by
  have hnil : HasNoIncident t event ↔
      t.incidents.incidents.filter (·.unifiedEventId = event.unifiedId) = [] := by
    rw [List.filter_eq_nil_iff]
    simp only [HasNoIncident, decide_eq_true_eq, ne_eq]
  rw [hnil, joinIncidents]
  cases t.incidents.incidents.filter (·.unifiedEventId = event.unifiedId) with
  | nil => simp
  | cons incident incidents => simp

/-- An error and no job, or one job for the event that was asked for, which the user may see and
    which has no incident yet. -/
def CreatesForRequested (t : MonitoringTables) (context : DataQueryContext)
    (eventId : UnifiedEventIdType) : IncidentReply × List CreateIncidentJob → Prop
  | (reply, jobs) =>
    (reply ≠ .queued ∧ jobs = []) ∨
      ∃ job, (reply = .queued ∧ jobs = [job]) ∧ job.event.unifiedId = eventId ∧
        t.VisibleTo context job.event ∧ HasNoIncident t job.event

/-- The incident that is joined first, if any, is one that the handler takes for an incident. -/
def ShowsIncidentFirst (t : MonitoringTables) (event : EventRecord) : Prop :=
  ∃ incident, (t.joinIncidents event).head? = some incident ∧ showsIncident incident

/-- The handler makes an incident of the event that was asked for unless the newest visible event up
    to it is another one without an incident; an incident with neither tracker nor status counts as
    none. -/
theorem createsForRequested_iff (t : MonitoringTables) (context : DataQueryContext)
    (hasSender : IncidentTrackerIdType → Bool) (eventId : UnifiedEventIdType)
    (trackerId : IncidentTrackerIdType) :
    CreatesForRequested t context eventId
        (createIncidentAsync t context hasSender eventId trackerId) ↔
      (hasSender trackerId → ∀ event, t.IsNewest context eventId event →
        ShowsIncidentFirst t event ∨ (event.unifiedId = eventId ∧ HasNoIncident t event)) := by
  unfold createIncidentAsync
  split
  next e herror =>
    exact iff_of_true (Or.inl ⟨nofun, rfl⟩) fun _ event hnewest =>
      absurd hnewest (findEvent_error herror event)
  next hnone =>
    exact iff_of_true (Or.inl ⟨nofun, rfl⟩) fun _ event hnewest =>
      absurd hnewest (findEvent_none hnone event)
  next event incident hfound =>
    obtain ⟨hnewest, hhead⟩ := findEvent_some hfound
    split
    next hshows =>
      refine iff_of_true (Or.inl ⟨nofun, rfl⟩) fun _ event' hnewest' => Or.inl ?_
      have hid := hnewest.unifiedId_eq hnewest'
      exact ⟨incident, by rw [← joinIncidents_congr t hid, hhead], hshows⟩
    next hshows =>
      have hnot : ¬ ShowsIncidentFirst t event := by
        rintro ⟨incident', hhead', hshows'⟩
        obtain rfl := Option.some.inj (hhead.symm.trans hhead')
        exact hshows hshows'
      split
      next hsender =>
        constructor
        · rintro (⟨hqueued, -⟩ | ⟨job, ⟨-, hjob⟩, hid, -, hnone⟩) _ event' hnewest'
          · exact absurd rfl hqueued
          · obtain rfl := (List.cons.inj hjob).1
            have heq := hnewest.unifiedId_eq hnewest'
            refine Or.inr ⟨heq.symm.trans hid, ?_⟩
            simpa only [HasNoIncident, ← heq] using hnone
        · intro h
          have hright := (h hsender event hnewest).resolve_left hnot
          exact Or.inr ⟨⟨trackerId, event⟩, ⟨rfl, rfl⟩, hright.1, hnewest.1.1, hright.2⟩
      next hsender =>
        exact iff_of_true (Or.inl ⟨nofun, rfl⟩) fun hsender' => absurd hsender' hsender

/-- A user who may see the hosts of server 1 only. -/
def oneServerUser : DataQueryContext where
  privilege := ⟨0⟩
  validServerIdSet := {1, 2}
  serverHostGrpSetMap := {(1, {allHostGroups})}

def eventOf (unifiedId : UnifiedEventIdType) (serverId : ServerIdType) : EventRecord :=
  ⟨unifiedId, serverId, .ofString "1", ⟨0, 0⟩, 0, .ofString "1", 0, 0, 1, .ofString "1", emptyText⟩

/-- Event 1 of server 1 and event 2 of server 2. -/
def eventsOfTwoServers : MonitoringTables where
  events := [eventOf 1 1, eventOf 2 2]
  members := []
  incidents := ⟨[], .empty _, IncidentTables.nodup_key_nil⟩

/-- The user asks for an incident of event 2, and event 1 gets one. -/
theorem incident_for_other_event :
    ¬ CreatesForRequested eventsOfTwoServers oneServerUser 2
      (createIncidentAsync eventsOfTwoServers oneServerUser (fun _ => true) 2 1) := by
  have hqueued : createIncidentAsync eventsOfTwoServers oneServerUser (fun _ => true) 2 1 =
      (.queued, [⟨1, eventOf 1 1⟩]) := by decide +kernel
  rw [hqueued]
  rintro (⟨hreply, -⟩ | ⟨job, ⟨-, hjob⟩, hid, -⟩)
  · exact hreply rfl
  · obtain rfl := (List.cons.inj hjob).1
    cases hid

end RestResourceIncident

end Hatohol

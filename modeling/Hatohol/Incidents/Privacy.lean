import Hatohol.RestResourceIncident

/-!
# Whom incidents are shown to

An event is shown to users that may see its host. Its incident and the history of that are looked up
by the id of the event alone.
-/

namespace Hatohol

open Sql DBTermCodec Table

namespace MonitoringTables

/-- No query for events that the user makes has the event in its result. -/
def HiddenFrom (t : MonitoringTables) (context : DataQueryContext)
    (unifiedEventId : UnifiedEventIdType) : Prop :=
  ∀ o : EventsQueryOption, o.base.context = context → ∀ rows, t.getEventInfoList o = .ok rows →
    ∀ row ∈ rows, row.1.unifiedId ≠ unifiedEventId

/-- A user without access to any server gets no events. -/
theorem hiddenFrom_of_no_access (t : MonitoringTables) {context : DataQueryContext}
    (hprivilege : context.privilege.has .getAllServer = false)
    (hservers : context.serverHostGrpSetMap.isEmpty) (unifiedEventId : UnifiedEventIdType) :
    t.HiddenFrom context unifiedEventId := by
  rintro o rfl rows hrows row hrow
  have hdenied : o.setTableNameAlways.base.denied := by
    simp only [HostResourceQueryOption.denied, HostResourceQueryOption.has,
      HostResourceQueryOption.getAllowedServersAndHostgroups, EventsQueryOption.setTableNameAlways,
      hprivilege, hservers]
    rfl
  simp only [getEventInfoList, EventsQueryOption.getCondition] at hrows
  cases hcondition : o.setTableNameAlways.base.getCondition with
  | error e =>
    rw [hcondition] at hrows
    cases hrows
  | ok condition =>
    obtain rfl := HostResourceQueryOption.getCondition_denied hdenied hcondition
    rw [hcondition] at hrows
    have hempty : rows = [] := (Except.ok.inj hrows).symm
    rw [hempty] at hrow
    cases hrow

end MonitoringTables

namespace IncidentTables

/-- The tables differ in incidents and histories of the event only. -/
def AgreeExcept (unifiedEventId : UnifiedEventIdType) (t t' : IncidentTables) : Prop :=
  t.incidents.filter (·.unifiedEventId ≠ unifiedEventId) =
      t'.incidents.filter (·.unifiedEventId ≠ unifiedEventId) ∧
    t.histories.rows.filter (·.unifiedEventId ≠ unifiedEventId) =
      t'.histories.rows.filter (·.unifiedEventId ≠ unifiedEventId)

/-- Another table without incidents of the event. -/
theorem exists_agreeExcept_without (t : IncidentTables) (unifiedEventId : UnifiedEventIdType) :
    ∃ t', AgreeExcept unifiedEventId t t' ∧ t'.incidentsOf unifiedEventId = [] := by
  refine ⟨⟨t.incidents.filter (·.unifiedEventId ≠ unifiedEventId), t.histories,
    t.uniqueKey.sublist (List.filter_sublist.map _)⟩, ⟨?_, rfl⟩, ?_⟩
  · rw [List.filter_filter]
    simp
  · simp [incidentsOf]

/-- Another table with an incident of the event, whose identifier is one that is not used. -/
theorem exists_agreeExcept_with (t : IncidentTables) (unifiedEventId : UnifiedEventIdType) :
    ∃ t', AgreeExcept unifiedEventId t t' ∧ t'.incidentsOf unifiedEventId ≠ [] := by
  obtain ⟨identifier, hidentifier⟩ := exists_notMem (t.incidents.map (·.identifier))
  let incident : IncidentInfo :=
    ⟨0, 0, emptyText, emptyText, identifier, emptyText, emptyText, emptyText, ⟨0, 0⟩, ⟨0, 0⟩,
      emptyText, 0, unifiedEventId, 0⟩
  have hunique : ((incident :: t.incidents).map IncidentInfo.key).Nodup := by
    refine List.nodup_cons.mpr ⟨?_, t.uniqueKey⟩
    intro hmem
    obtain ⟨other, hother, hkey⟩ := List.mem_map.mp hmem
    exact hidentifier (List.mem_map.mpr ⟨other, hother, congrArg Prod.snd hkey⟩)
  refine ⟨⟨incident :: t.incidents, t.histories, hunique⟩, ⟨?_, rfl⟩, ?_⟩
  · simp [incident]
  · simp [incidentsOf, incident]

end IncidentTables

namespace RestResourceIncident

open IncidentTables

theorem handlerPutIncident_notFound_iff {t : IncidentTables} {unifiedEventId : UnifiedEventIdType}
    (h : unifiedEventId ≠ invalidId) (hasSender : IncidentTrackerIdType → Bool)
    (query : IncidentQuery) :
    (handlerPutIncident t hasSender unifiedEventId query).1 = .notFoundTargetRecord ↔
      t.incidentsOf unifiedEventId = [] := by
  rw [handlerPutIncident, if_neg h, getIncidentInfoVect_eq t h]
  cases t.incidentsOf unifiedEventId with
  | nil => simp
  | cons incident incidents =>
    simp only [reduceCtorEq, iff_false]
    split <;> nofun

/-- Neither the answers to a GET of the history and to a PUT tell anything of the incident and the
    history of the event, nor does the PUT queue a job that would write. -/
def KeepsPrivate (t : IncidentTables) (unifiedEventId : UnifiedEventIdType) : Prop :=
  ∀ t', AgreeExcept unifiedEventId t t' →
    ∀ (userNames : UserIdType → Option CString) (hasSender : IncidentTrackerIdType → Bool)
      (query : IncidentQuery),
      (handlerGetIncident t userNames unifiedEventId "history" =
          handlerGetIncident t' userNames unifiedEventId "history" ∧
        (handlerPutIncident t hasSender unifiedEventId query).1 =
          (handlerPutIncident t' hasSender unifiedEventId query).1) ∧
      (handlerPutIncident t hasSender unifiedEventId query).2 = []

theorem keepsPrivate_invalidId (t : IncidentTables) : KeepsPrivate t invalidId := by
  intro t' _ userNames hasSender query
  simp [handlerGetIncident, handlerPutIncident]

/-- A PUT tells whether there is an incident. -/
theorem not_keepsPrivate {unifiedEventId : UnifiedEventIdType} (h : unifiedEventId ≠ invalidId)
    (t : IncidentTables) : ¬ KeepsPrivate t unifiedEventId := by
  intro hprivate
  have hsame : ∀ t', AgreeExcept unifiedEventId t t' →
      (t.incidentsOf unifiedEventId = [] ↔ t'.incidentsOf unifiedEventId = []) := by
    intro t' hagree
    have heq := (hprivate t' hagree (fun _ => none) (fun _ => false) ⟨none, none, none, none,
      none⟩).1.2
    rw [← handlerPutIncident_notFound_iff h, heq, handlerPutIncident_notFound_iff h]
  obtain ⟨without, hagree, hnil⟩ := t.exists_agreeExcept_without unifiedEventId
  obtain ⟨other, hagree', hsome⟩ := t.exists_agreeExcept_with unifiedEventId
  exact hsome ((hsame other hagree').mp ((hsame without hagree).mpr hnil))

/-- (RestResourceIncident.cc:67-157, 342-389) Whatever is in the tables and whoever asks, an incident
    of an event that is hidden from the user is private only if no event can be asked for. -/
theorem incident_private_iff (t : MonitoringTables) (context : DataQueryContext)
    (unifiedEventId : UnifiedEventIdType) (_hhidden : t.HiddenFrom context unifiedEventId) :
    KeepsPrivate t.incidents unifiedEventId ↔ unifiedEventId = invalidId := by
  constructor
  · intro hprivate
    by_contra h
    exact not_keepsPrivate h t.incidents hprivate
  · rintro rfl
    exact keepsPrivate_invalidId t.incidents

/-- A user without any access. -/
def noServerUser : DataQueryContext where
  privilege := ⟨0⟩
  validServerIdSet := {1}
  serverHostGrpSetMap := ∅

/-- An event that has an incident with a comment. -/
def commentedEvent : MonitoringTables where
  events := [⟨2, 1, .ofString "1", ⟨0, 0⟩, 0, .ofString "1", 0, 0, 1, .ofString "1", emptyText⟩]
  members := []
  incidents :=
    { incidents := [⟨5, 1, .ofString "1", .ofString "1", .ofString "2", emptyText, .ofString "NONE",
        emptyText, ⟨0, 0⟩, ⟨0, 0⟩, emptyText, 0, 2, 1⟩]
      histories := (Counted.empty _).append ⟨1, 2, 1, .ofString "NONE", .ofString "secret",
        ⟨0, 0⟩⟩ rfl
      uniqueKey := List.nodup_singleton _ }

theorem hiddenFrom_noServerUser : commentedEvent.HiddenFrom noServerUser 2 :=
  commentedEvent.hiddenFrom_of_no_access rfl rfl 2

theorem incident_private_iff_commentedEvent :
    KeepsPrivate commentedEvent.incidents 2 ↔ 2 = invalidId :=
  incident_private_iff commentedEvent noServerUser 2 hiddenFrom_noServerUser

/-- A user who gets no event at all reads the comment and may change the incident. -/
theorem hidden_incident_shown :
    commentedEvent.HiddenFrom noServerUser 2 ∧
      handlerGetIncident commentedEvent.incidents (fun _ => none) 2 "history" =
        .incidentHistory
          [⟨1, 2, 1, emptyText, .ofString "NONE", 0, some (.ofString "secret")⟩] ∧
      ¬ KeepsPrivate commentedEvent.incidents 2 := by
  refine ⟨hiddenFrom_noServerUser, by decide +kernel, ?_⟩
  intro hprivate
  have hnone := (hprivate _ ⟨rfl, rfl⟩ (fun _ => none) (fun _ => true)
    ⟨some (.ofString "DONE"), none, none, none, none⟩).2
  revert hnone
  decide +kernel

end RestResourceIncident

end Hatohol

import Mathlib.Algebra.BigOperators.Group.List.Lemmas
import Hatohol.RestResourceIncident
import Hatohol.Hosts.Listing
import Hatohol.Sql.Statements

/-!
# How many events a query counts

`getNumberOfEvents`, `getEventSeverityStatistics` and `getEventInfoList` select rows of one join by
one condition (DBTablesMonitoring.cc:2566-2679, 3349-3427). An event has a row for each of its
incidents, and for each host group of its host if host groups are joined. Distinct IDs are counted
or listed by two of the functions; the statistics count rows.
-/

namespace Hatohol

open Sql DBTermCodec

def tableProfileIncidents : TableProfile where
  name := "incidents"
  columnNames := ["tracker_id", "server_id", "event_id", "trigger_id", "identifier", "location",
    "status", "assignee", "created_at_sec", "created_at_ns", "updated_at_sec", "updated_at_ns",
    "priority", "done_ratio", "unified_event_id", "comment_count"]
  isName_name := by decide
  isName_columns := by decide

/-- `unified_id` is the primary key of the events. -/
structure EventTables extends MonitoringTables where
  uniqueId : (events.map EventRecord.unifiedId).Nodup

structure EventSeverityStatistics where
  severity : Int
  num : Nat
  deriving DecidableEq, Repr

/-- The columns of the tables that are joined. -/
def EventsQueryOption.joinedColumns (o : EventsQueryOption) (joinsIncidents : Bool) :
    List (List String) :=
  [tableProfileEvents.columnNames] ++
    (if joinsIncidents then [tableProfileIncidents.columnNames] else []) ++
    if o.base.isHostgroupUsed then [tableProfileHostgroupMember.columnNames] else []

namespace EventTables

variable (t : EventTables)

/-- What the database answers to a statement with the condition of the option. -/
def execute {α : Type} (o : EventsQueryOption) (joinsIncidents : Bool) (condition : String)
    (rows : List α) : Except HatoholException (List α) :=
  if isAccepted (o.joinedColumns joinsIncidents) condition then .ok rows
  else .error ⟨"Failed to query: SELECT"⟩

/-- The rows of an event in the join. -/
def joinedRows (o : EventsQueryOption) (event : EventRecord) : List EventRow :=
  (t.joinIncidents event).flatMap fun incident =>
    (t.joinHostgroups o event).map fun hostgroupId => event.row hostgroupId incident

/-- The rows that the statements with an aggregate function are about. -/
def selectRows (option : EventsQueryOption) : Except HatoholException (List EventRow) := do
  let option := option.setTableNameAlways
  let condition ← option.getCondition
  execute option true condition
    ((t.events.flatMap (t.joinedRows option)).filter fun row => selects condition row.value)

/-- (DBTablesMonitoring.cc:3349-3368) `count(distinct unified_id)` -/
def getNumberOfEvents (option : EventsQueryOption) : Except HatoholException Nat := do
  return ((← t.selectRows option).map EventRow.unifiedId).dedup.length

/-- (DBTablesMonitoring.cc:3390-3427) `count(severity)`, grouped by `severity` -/
def getEventSeverityStatistics (option : EventsQueryOption) :
    Except HatoholException (List EventSeverityStatistics) := do
  let rows ← t.selectRows option
  let severities := rows.map EventRow.severity
  return severities.dedup.map fun severity => ⟨severity, severities.count severity⟩

/-- (DBTablesMonitoring.cc:2566-2679) Incidents are joined if the caller asks for them, or the
    condition does. Rows that differ in the host group only are one row. -/
def getEventInfoList (option : EventsQueryOption) (incidentInfoVect : Bool) :
    Except HatoholException (List (EventRecord × Option IncidentInfo)) := do
  let option := option.setTableNameAlways
  let condition ← option.getCondition
  if isAlwaysFalseCondition condition then return []
  else
    let joinsIncidents := incidentInfoVect || !option.incidentStatuses.isEmpty
    execute option joinsIncidents condition (t.events.flatMap fun event =>
      ((if joinsIncidents then t.joinIncidents event else [none]).filter fun incident =>
        (t.joinHostgroups option event).any fun hostgroupId =>
          selects condition (event.row hostgroupId incident).value).map (event, ·))

end EventTables

/-! ## What the database takes -/

namespace EventsQueryOption

variable {o : EventsQueryOption}

theorem hasHostColumn (o : EventsQueryOption) : o.base.synapse.hostIdColumnIdx.isSome := by
  rw [o.isEvents]
  rfl

theorem needsHostgroup (o : EventsQueryOption) : o.base.synapse.needToJoinHostgroup := by
  rw [o.isEvents]
  rfl

theorem hasColumns (o : EventsQueryOption) : o.base.hasColumns := by
  rw [HostResourceQueryOption.hasColumns, o.hasHostColumn, Bool.true_or]

/-- The condition is the false one of the base, or a text of the form. -/
theorem getCondition_cases (o : EventsQueryOption) :
    (o.base.getCondition = .ok alwaysFalseCondition ∧ o.getCondition = .ok alwaysFalseCondition) ∨
      (o.base.getCondition ≠ .ok alwaysFalseCondition ∧ o.base.denied = false ∧
        ∃ s, o.getCondition = .ok s ∧ Denotes s o.form) := by
  unfold getCondition
  by_cases hfalse : o.base.getCondition = .ok alwaysFalseCondition
  · refine .inl ⟨hfalse, ?_⟩
    have htrue : isAlwaysFalseCondition alwaysFalseCondition = true := rfl
    rw [hfalse]
    simp only [bind, Except.bind, pure, Except.pure, htrue, if_true]
  · right
    cases hdenied : o.base.denied with
    | true =>
      exact absurd (HostResourceQueryOption.getCondition_of_denied o.hasColumns hdenied) hfalse
    | false =>
      obtain ⟨s, hs, htext⟩ := HostResourceQueryOption.denotes_form o.hasColumns hdenied
      have hne : isAlwaysFalseCondition s = false := by
        rw [Bool.eq_false_iff]
        intro hcondition
        exact hfalse (hs.trans (congrArg Except.ok (beq_iff_eq.mp hcondition)))
      refine ⟨hfalse, rfl, o.addOwnConditions s, ?_, o.denotes_addOwnConditions htext⟩
      rw [hs]
      simp only [bind, Except.bind, pure, Except.pure, hne, Bool.false_eq_true, if_false]

theorem getCondition_ok (o : EventsQueryOption) : ∃ s, o.getCondition = .ok s := by
  rcases o.getCondition_cases with ⟨-, hs⟩ | ⟨-, -, s, hs, -⟩
  · exact ⟨_, hs⟩
  · exact ⟨s, hs⟩

/-- The names in a condition that no other table can have. -/
def plainColumns : List String :=
  ["events.server_id", "events.host_id_in_server", "hostgroup_member.host_group_id",
    "events.unified_id", "events.event_value", "severity", "events.status", "events.trigger_id",
    "events.time_sec", "events.time_ns", "hostname", "events.severity"]

section Names

variable (halways : o.base.tableNameAlways)

include halways

theorem getColumnName_always (idx : Fin tableProfileEvents.numColumns) :
    o.getColumnName idx = Column.getFullColumnName ⟨tableProfileEvents, idx⟩ := by
  rw [getColumnName, HostResourceQueryOption.getColumnNameCommon, halways, Bool.true_or]
  rfl

theorem mem_plainColumns_of_isColumn {name : String} (hname : o.base.IsColumn name) :
    name ∈ plainColumns := by
  have hfull : (o.base.tableNameAlways || o.base.isHostgroupUsed) = true := by
    rw [halways, Bool.true_or]
  obtain ⟨base, hsynapse, limitOfUnifiedId⟩ := o
  obtain ⟨synapse, context⟩ := base
  obtain rfl : synapse = synapseEventsQueryOption := hsynapse
  have hnames (full : Bool) (hfull : full = true) :
      Column.nameIn full synapseEventsQueryOption.serverIdColumn ∈ plainColumns ∧
      Column.nameIn full ⟨tableProfileEvents, ⟨10, by decide⟩⟩ ∈ plainColumns ∧
      Column.nameIn full synapseEventsQueryOption.hostgroupIdColumn ∈ plainColumns := by
    subst hfull
    decide
  obtain ⟨hserver, hhost, hgroup⟩ := hnames _ hfull
  rcases hname with rfl | rfl | ⟨-, rfl⟩
  · exact hserver
  · exact hhost
  · exact hgroup

end Names

theorem names_wrapIf {P : String → Prop} {p : Prop} [Decidable p] {form : Option Text}
    (hform : Text.Names P form) : Text.Names P (HostResourceQueryOption.wrapIf p form) := by
  unfold HostResourceQueryOption.wrapIf
  split
  · exact hform.wrap
  · exact hform

theorem names_setForm {P : String → Prop} {column : String} (hcolumn : P column)
    (values : Std.TreeSet Int) : Text.Names P (setForm column values) := by
  refine names_wrapIf (Text.names_chain (fun _ _ => rfl) (List.forall_mem_map.mpr fun n _ => ?_))
  intro name hname
  rwa [List.mem_singleton.mp hname]

theorem names_if {P : String → Prop} {p : Prop} [Decidable p] {t : Text}
    (ht : p → ∀ name ∈ t.columns, P name) : Text.Names P (if p then some t else none) := by
  split
  next hp => exact Text.names_some.mpr (ht hp)
  next => exact Text.names_none

/-- A name is one of the condition's. The ID of the event and the status of the incident are only
    there if the option asks for them. -/
def NamesColumn (o : EventsQueryOption) (name : String) : Prop :=
  name ∈ plainColumns ∨ (name = eventsColumnName idxEventsId ∧ o.eventIds ≠ []) ∨
    (name = incidentsStatusColumnName ∧ o.incidentStatuses.isEmpty = false)

theorem names_ownForms (halways : o.base.tableNameAlways) :
    ∀ form ∈ o.ownForms, Text.Names o.NamesColumn form := by
  have hfull (idx : Fin tableProfileEvents.numColumns)
      (hidx : Column.getFullColumnName ⟨tableProfileEvents, idx⟩ ∈ plainColumns) :
      o.NamesColumn (o.getColumnName idx) := by
    rw [getColumnName_always halways]
    exact .inl hidx
  have hone {column : String} {t : Text} (ht : t.columns = [column])
      (hcolumn : o.NamesColumn column) :
      ∀ name ∈ t.columns, o.NamesColumn name := by
    rw [ht]
    intro name hname
    rwa [List.mem_singleton.mp hname]
  have hthree {a b c : String} (ha : o.NamesColumn a) (hb : o.NamesColumn b)
      (hc : o.NamesColumn c) :
      ∀ name ∈ [a, b, c], o.NamesColumn name := by
    simp only [List.mem_cons, List.not_mem_nil, or_false]
    rintro name (rfl | rfl | rfl)
    · exact ha
    · exact hb
    · exact hc
  have hsec := hfull idxEventsTimeSec (by decide)
  have hns := hfull idxEventsTimeNs (by decide)
  intro form hform
  simp only [ownForms, List.mem_cons, List.not_mem_nil, or_false] at hform
  rcases hform with rfl | rfl | rfl | rfl | rfl | rfl | rfl | rfl | rfl | rfl | rfl | rfl
  · exact names_if fun _ => hone rfl (hfull _ (by decide))
  · exact names_if fun _ => hone rfl (hfull _ (by decide))
  · exact names_if fun _ => hone rfl (.inl (by decide))
  · exact names_if fun _ => hone rfl (hfull _ (by decide))
  · exact names_if fun _ => hone rfl (hfull _ (by decide))
  · exact names_if fun _ => hthree hsec hsec hns
  · exact names_if fun _ => hthree hsec hsec hns
  · exact names_if fun _ => hone rfl (.inl (by decide))
  · exact names_if fun hids => hone rfl (.inr (.inl ⟨rfl, hids⟩))
  · exact names_setForm (hfull _ (by decide)) _
  · exact names_setForm (hfull _ (by decide)) _
  · exact names_setForm (hfull _ (by decide)) _

theorem names_incidentForm (o : EventsQueryOption) :
    Text.Names o.NamesColumn o.incidentForm := by
  refine names_wrapIf (Text.names_chain (fun _ _ => rfl) fun t ht name hname => ?_)
  obtain ⟨status, hstatus, ht⟩ := List.mem_flatMap.mp ht
  have hcolumn : name = incidentsStatusColumnName := by
    unfold incidentTexts at ht
    split at ht
    · simp only [List.mem_cons, List.not_mem_nil, or_false] at ht
      rcases ht with rfl | rfl <;> exact List.mem_singleton.mp hname
    · simp only [List.mem_cons, List.not_mem_nil, or_false] at ht
      subst ht
      exact List.mem_singleton.mp hname
  have hempty : o.incidentStatuses.isEmpty = false := by
    rw [← Std.TreeSet.isEmpty_toList]
    exact List.isEmpty_eq_false_iff.mpr (List.ne_nil_of_mem hstatus)
  exact .inr (.inr ⟨hcolumn, hempty⟩)

/-- The names in the condition. -/
theorem names_form (halways : o.base.tableNameAlways) : Text.Names o.NamesColumn o.form := by
  have hbase : Text.Names o.NamesColumn o.base.form := fun t ht name hname =>
    .inl (mem_plainColumns_of_isColumn halways
      (HostResourceQueryOption.names_form o.needsHostgroup t ht name hname))
  have hown : Text.Names o.NamesColumn (o.ownForms.foldl (Text.glue .and) o.base.form) := by
    rw [Text.names_iff, Text.columnsOf_foldl_glue]
    intro name hname
    rcases List.mem_append.mp hname with hname | hname
    · exact Text.names_iff.mp hbase name hname
    · obtain ⟨form, hform, hname⟩ := List.mem_flatMap.mp hname
      exact Text.names_iff.mp (names_ownForms halways form hform) name hname
  exact hown.glue_and o.names_incidentForm

/-- The ID of the event is named without its table. -/
theorem id_mem_columnsOf_form (hids : o.eventIds ≠ []) :
    eventsColumnName idxEventsId ∈ Text.columnsOf o.form := by
  have hform : some (listText (eventsColumnName idxEventsId) o.eventIds) ∈ o.ownForms := by
    simp [ownForms, hids]
  rw [form, Text.columnsOf_glue_and, Text.columnsOf_foldl_glue]
  refine List.mem_append_left _ (List.mem_append_right _ (List.mem_flatMap.mpr ⟨_, hform, ?_⟩))
  exact List.mem_singleton.mpr rfl

/-- The database takes the text of the form: no list in it is empty, and host groups are not joined
    to a condition on IDs of events. -/
def takesForm (o : EventsQueryOption) : Bool :=
  o.base.answers && !(o.base.isHostgroupUsed && !o.eventIds.isEmpty)

theorem namesAmbiguous_form (halways : o.base.tableNameAlways) (joinsIncidents : Bool) :
    (Text.columnsOf o.form).any (isAmbiguous (o.joinedColumns joinsIncidents)) =
      (o.base.isHostgroupUsed && !o.eventIds.isEmpty) := by
  have hplain : ∀ name ∈ plainColumns,
      isAmbiguous (o.joinedColumns joinsIncidents) name = false := by
    unfold joinedColumns
    cases joinsIncidents <;> cases o.base.isHostgroupUsed <;> decide
  have hid : isAmbiguous (o.joinedColumns joinsIncidents) (eventsColumnName idxEventsId) =
      o.base.isHostgroupUsed := by
    unfold joinedColumns
    cases joinsIncidents <;> cases o.base.isHostgroupUsed <;> decide
  have hstatus : isAmbiguous (o.joinedColumns joinsIncidents) incidentsStatusColumnName = false := by
    unfold joinedColumns
    cases joinsIncidents <;> cases o.base.isHostgroupUsed <;> decide
  rw [Bool.eq_iff_iff, List.any_eq_true, Bool.and_eq_true, Bool.not_eq_true',
    List.isEmpty_eq_false_iff]
  constructor
  · rintro ⟨name, hname, hambiguous⟩
    rcases Text.names_iff.mp (names_form halways) name hname with hmem | ⟨rfl, hids⟩ | ⟨rfl, -⟩
    · rw [hplain name hmem] at hambiguous
      cases hambiguous
    · exact ⟨hid ▸ hambiguous, hids⟩
    · rw [hstatus] at hambiguous
      cases hambiguous
  · rintro ⟨hused, hids⟩
    exact ⟨_, id_mem_columnsOf_form hids, hid.trans hused⟩

theorem isAccepted_alwaysFalse (tables : List (List String)) :
    isAccepted tables alwaysFalseCondition = true := by
  have hconst : Denotes alwaysFalseCondition (some (.const 0)) := denotes_const 0
  rw [isAccepted, hconst.isReadable_eq, hconst.namesAmbiguous_eq]
  rfl

/-- The database takes the statement or not, whether incidents are joined or not. -/
theorem isAccepted_iff (halways : o.base.tableNameAlways) (joinsIncidents : Bool) {s : String}
    (hs : o.getCondition = .ok s) :
    isAccepted (o.joinedColumns joinsIncidents) s = true ↔
      o.base.getCondition = .ok alwaysFalseCondition ∨ o.takesForm := by
  unfold takesForm
  rcases o.getCondition_cases with ⟨hbase, hfalse⟩ | ⟨hbase, hdenied, s', hs', htext⟩
  · obtain rfl : s = alwaysFalseCondition := Except.ok.inj (hs.symm.trans hfalse)
    exact iff_of_true (isAccepted_alwaysFalse _) (.inl hbase)
  · obtain rfl : s = s' := Except.ok.inj (hs.symm.trans hs')
    have hanswers : Text.complete o.form = o.base.answers := by
      rw [o.complete_form otherServersEvent, HostResourceQueryOption.complete_form]
      simp [HostResourceQueryOption.answers, hdenied, o.hasColumns]
    rw [isAccepted, htext.isReadable_eq, htext.namesAmbiguous_eq, namesAmbiguous_form halways,
      hanswers]
    exact (or_iff_right hbase).symm

theorem not_selects_alwaysFalse (row : String → Value) :
    selects alwaysFalseCondition row = false := by
  have hconst : Denotes alwaysFalseCondition (some (.const 0)) := denotes_const 0
  rw [hconst.selects_eq]
  rfl

/-- A condition that asks for no incident says the same of a row with an incident and without. -/
theorem selects_row_incident (halways : o.base.tableNameAlways)
    (hempty : o.incidentStatuses.isEmpty) {s : String} (hs : o.getCondition = .ok s)
    (event : EventRecord) (hostgroupId : HostgroupIdType) (incident : Option IncidentInfo) :
    selects s (event.row hostgroupId incident).value =
      selects s (event.row hostgroupId none).value := by
  rcases o.getCondition_cases with ⟨-, hfalse⟩ | ⟨-, -, s', hs', htext⟩
  · obtain rfl : s = alwaysFalseCondition := Except.ok.inj (hs.symm.trans hfalse)
    rw [not_selects_alwaysFalse, not_selects_alwaysFalse]
  · obtain rfl : s = s' := Except.ok.inj (hs.symm.trans hs')
    have hagree : ∀ name, o.NamesColumn name →
        (event.row hostgroupId incident).value name = (event.row hostgroupId none).value name := by
      rintro name (hmem | ⟨rfl, -⟩ | ⟨-, hstatuses⟩)
      · simp only [plainColumns, List.mem_cons, List.not_mem_nil, or_false] at hmem
        rcases hmem with rfl | rfl | rfl | rfl | rfl | rfl | rfl | rfl | rfl | rfl | rfl | rfl
        all_goals rfl
      · rfl
      · rw [hempty] at hstatuses
        cases hstatuses
    rw [htext.selects_eq, htext.selects_eq, (names_form halways).alts_congr hagree]

end EventsQueryOption

namespace EventTables

variable {t : EventTables} {option : EventsQueryOption}

/-! ## Counting the rows -/

theorem unifiedId_of_mem_joinedRows {o : EventsQueryOption} {event : EventRecord} {row : EventRow}
    (hrow : row ∈ t.joinedRows o event) : row.unifiedId = event.unifiedId := by
  obtain ⟨incident, -, hrow⟩ := List.mem_flatMap.mp hrow
  obtain ⟨hostgroupId, -, rfl⟩ := List.mem_map.mp hrow
  rfl

/-- The rows of an event in the answer. -/
def selectedRows (t : EventTables) (option : EventsQueryOption) (event : EventRecord) :
    List EventRow :=
  (t.joinedRows option.setTableNameAlways event).filter fun row =>
    option.setTableNameAlways.shows row.value

/-- The IDs are distinct exactly when no event has two rows in the answer. -/
theorem nodup_unifiedIds_iff (t : EventTables) (option : EventsQueryOption) :
    ((t.events.flatMap (t.selectedRows option)).map EventRow.unifiedId).Nodup ↔
      ∀ event ∈ t.events, (t.selectedRows option event).length ≤ 1 := by
  have hids (event : EventRecord) : (t.selectedRows option event).map EventRow.unifiedId =
      List.replicate (t.selectedRows option event).length event.unifiedId := by
    refine List.eq_replicate_iff.mpr ⟨List.length_map _, List.forall_mem_map.mpr fun row hrow => ?_⟩
    exact unifiedId_of_mem_joinedRows (List.mem_of_mem_filter hrow)
  have hdisjoint : t.events.Pairwise (Function.onFun List.Disjoint fun event =>
      (t.selectedRows option event).map EventRow.unifiedId) := by
    refine (List.pairwise_map.mp t.uniqueId).imp fun {event event'} hne => ?_
    dsimp only [Function.onFun]
    rw [hids, hids]
    intro id hid hid'
    exact hne ((List.eq_of_mem_replicate hid).symm.trans (List.eq_of_mem_replicate hid'))
  rw [List.map_flatMap, List.nodup_flatMap, and_iff_left hdisjoint]
  simp only [hids, List.nodup_replicate]

/-- Every row is counted for its severity. -/
theorem sum_statistics (severities : List Int) :
    ((severities.dedup.map fun severity =>
      (⟨severity, severities.count severity⟩ : EventSeverityStatistics)).map (·.num)).sum =
        severities.length := by
  rw [List.map_map]
  exact List.sum_map_count_dedup_eq_length severities

theorem length_eq_length_dedup_iff {α : Type} [DecidableEq α] {xs : List α} :
    xs.length = xs.dedup.length ↔ xs.Nodup := by
  rw [eq_comm, ← List.dedup_eq_self]
  exact (List.dedup_sublist xs).length_eq

/-! ## The three functions -/

/-- The rows that are counted, if the statement is taken. -/
theorem selectRows_eq (t : EventTables) {s : String}
    (hs : option.setTableNameAlways.getCondition = .ok s) :
    t.selectRows option = execute option.setTableNameAlways true s
      (t.events.flatMap (t.selectedRows option)) := by
  have hshows (row : EventRow) :
      option.setTableNameAlways.shows row.value = selects s row.value := by
    rw [EventsQueryOption.shows, hs]
  unfold selectRows selectedRows
  dsimp only
  rw [hs]
  simp only [bind, Except.bind, List.filter_flatMap, hshows]

theorem joinIncidents_ne_nil (t : EventTables) (event : EventRecord) :
    t.joinIncidents event ≠ [] := by
  unfold MonitoringTables.joinIncidents
  split
  · exact List.cons_ne_nil _ _
  · rename_i hne
    exact fun hnil => hne (List.map_eq_nil_iff.mp hnil)

theorem mem_selectedRows_iff {s : String}
    (hs : option.setTableNameAlways.getCondition = .ok s) {event : EventRecord} {row : EventRow} :
    row ∈ t.selectedRows option event ↔ ∃ incident ∈ t.joinIncidents event,
      ∃ hostgroupId ∈ t.joinHostgroups option.setTableNameAlways event,
        event.row hostgroupId incident = row ∧ selects s row.value = true := by
  have hshows : option.setTableNameAlways.shows row.value = selects s row.value := by
    rw [EventsQueryOption.shows, hs]
  rw [selectedRows, List.mem_filter, hshows, joinedRows, List.mem_flatMap]
  simp only [List.mem_map]
  constructor
  · rintro ⟨⟨incident, hincident, hostgroupId, hgroup, hrow⟩, hselects⟩
    exact ⟨incident, hincident, hostgroupId, hgroup, hrow, hselects⟩
  · rintro ⟨incident, hincident, hostgroupId, hgroup, hrow, hselects⟩
    exact ⟨⟨incident, hincident, hostgroupId, hgroup, hrow⟩, hselects⟩

/-- An event is listed, with its incidents joined or not, exactly when it has a row that is
    counted. -/
theorem exists_listed_iff (t : EventTables) {joinsIncidents : Bool} {s : String}
    (hjoins : joinsIncidents = false → option.incidentStatuses.isEmpty)
    (hs : option.setTableNameAlways.getCondition = .ok s) (event : EventRecord) :
    (∃ incident ∈ if joinsIncidents then t.joinIncidents event else [none],
        ∃ hostgroupId ∈ t.joinHostgroups option.setTableNameAlways event,
          selects s (event.row hostgroupId incident).value = true) ↔
      ∃ row, row ∈ t.selectedRows option event := by
  simp only [mem_selectedRows_iff hs]
  cases joinsIncidents with
  | true =>
    constructor
    · rintro ⟨incident, hincident, hostgroupId, hgroup, hselects⟩
      exact ⟨_, incident, hincident, hostgroupId, hgroup, rfl, hselects⟩
    · rintro ⟨_, incident, hincident, hostgroupId, hgroup, rfl, hselects⟩
      exact ⟨incident, hincident, hostgroupId, hgroup, hselects⟩
  | false =>
    have hsame (hostgroupId : HostgroupIdType) (incident : Option IncidentInfo) :
        selects s (event.row hostgroupId incident).value =
          selects s (event.row hostgroupId none).value :=
      EventsQueryOption.selects_row_incident (o := option.setTableNameAlways) rfl (hjoins rfl) hs
        event hostgroupId incident
    constructor
    · rintro ⟨incident, -, hostgroupId, hgroup, hselects⟩
      obtain ⟨joined, hjoined⟩ := List.exists_mem_of_ne_nil _ (t.joinIncidents_ne_nil event)
      rw [hsame] at hselects
      exact ⟨_, joined, hjoined, hostgroupId, hgroup, rfl, (hsame hostgroupId joined).trans hselects⟩
    · rintro ⟨_, incident, -, hostgroupId, hgroup, rfl, hselects⟩
      exact ⟨none, List.mem_singleton.mpr rfl, hostgroupId, hgroup,
        (hsame hostgroupId incident).symm.trans hselects⟩

/-- The list has the IDs of the rows that are counted. -/
theorem getEventInfoList_eq (t : EventTables) (incidentInfoVect : Bool) {s : String}
    (hs : option.setTableNameAlways.getCondition = .ok s) :
    ∃ events : List (EventRecord × Option IncidentInfo),
      t.getEventInfoList option incidentInfoVect = execute option.setTableNameAlways
        (incidentInfoVect || !option.incidentStatuses.isEmpty) s events ∧
      (events.map (·.1.unifiedId)).toFinset =
        ((t.events.flatMap (t.selectedRows option)).map EventRow.unifiedId).toFinset := by
  have hjoins : (incidentInfoVect || !option.incidentStatuses.isEmpty) = false →
      option.incidentStatuses.isEmpty := by
    intro hfalse
    simpa using (Bool.or_eq_false_iff.mp hfalse).2
  unfold getEventInfoList
  dsimp only
  rw [hs]
  simp only [bind, Except.bind, pure, Except.pure]
  by_cases hfalse : isAlwaysFalseCondition s = true
  · obtain rfl : s = alwaysFalseCondition := beq_iff_eq.mp hfalse
    have hnone (event : EventRecord) : t.selectedRows option event = [] := by
      refine List.eq_nil_iff_forall_not_mem.mpr fun row hrow => ?_
      obtain ⟨incident, -, hostgroupId, -, -, hselects⟩ := (mem_selectedRows_iff hs).mp hrow
      rw [EventsQueryOption.not_selects_alwaysFalse] at hselects
      cases hselects
    have hrows : t.events.flatMap (t.selectedRows option) = [] :=
      List.flatMap_eq_nil_iff.mpr fun event _ => hnone event
    refine ⟨[], ?_, by simp [hrows]⟩
    rw [if_pos hfalse, execute, if_pos (EventsQueryOption.isAccepted_alwaysFalse _)]
  · rw [if_neg hfalse]
    refine ⟨_, rfl, Finset.ext fun id => ?_⟩
    simp only [List.mem_toFinset, List.mem_map, List.mem_flatMap, List.mem_filter, List.any_eq_true]
    constructor
    · rintro ⟨_, ⟨event, hevent, incident, ⟨hincident, hgroups⟩, rfl⟩, rfl⟩
      obtain ⟨row, hrow⟩ := (t.exists_listed_iff hjoins hs event).mp ⟨incident, hincident, hgroups⟩
      exact ⟨row, ⟨event, hevent, hrow⟩, unifiedId_of_mem_joinedRows (List.mem_of_mem_filter hrow)⟩
    · rintro ⟨row, ⟨event, hevent, hrow⟩, rfl⟩
      obtain ⟨incident, hincident, hgroups⟩ := (t.exists_listed_iff hjoins hs event).mpr ⟨row, hrow⟩
      exact ⟨_, ⟨event, hevent, incident, ⟨hincident, hgroups⟩, rfl⟩,
        (unifiedId_of_mem_joinedRows (List.mem_of_mem_filter hrow)).symm⟩

/-! ## The agreement -/

/-- The three functions have results, and these agree. -/
def StatisticsAgree (t : EventTables) (option : EventsQueryOption) (incidentInfoVect : Bool) :
    Prop :=
  ∃ statistics events,
    t.getEventSeverityStatistics option = .ok statistics ∧
    t.getNumberOfEvents option = .ok (statistics.map EventSeverityStatistics.num).sum ∧
    t.getEventInfoList option incidentInfoVect = .ok events ∧
    (statistics.map EventSeverityStatistics.num).sum = (events.map (·.1.unifiedId)).dedup.length

/-- The database takes the statements of the option. -/
def Taken (option : EventsQueryOption) : Prop :=
  option.setTableNameAlways.base.getCondition = .ok alwaysFalseCondition ∨
    option.setTableNameAlways.takesForm

/-- An event of a host in two host groups. -/
def twoHostgroupsTables : EventTables where
  events := [⟨1, 1, .ofString "10", ⟨1, 0⟩, 1, .ofString "5", 1, 4, 7, .ofString "host",
    .ofString "web"⟩]
  members := [⟨1, 1, .ofString "host", .ofString "2", 7⟩,
    ⟨2, 1, .ofString "host", .ofString "3", 7⟩]
  incidents := ⟨[], .empty _, List.nodup_nil⟩
  uniqueId := by decide

/-- A user who may see these host groups. -/
def twoHostgroupsQuery : EventsQueryOption :=
  .new ⟨⟨0⟩, {1}, {(1, {.ofString "2", .ofString "3"})}⟩

end EventTables

end Hatohol

import Hatohol.EventsQueryOption
import Hatohol.HostResource.Appending

/-!
# How the filters of an events query compose

Every filter of an events query is meant to be one more conjunct of the condition of the host
resource query. `conjoins_iff` says when it is: a base that leaks is bound at its last alternative
only, and the filter for the empty incident status alone is a bare `OR`, which takes whatever is
before it out of force.
-/

namespace Hatohol

open Sql DBTermCodec

/-- What the condition looks at in a row of the joined tables: an event, a host group of its host
    and the status of its incident, if there is one. -/
structure EventRow where
  host : HostRow
  unifiedId : Nat
  id : CString
  time : Timespec
  eventType : Int
  triggerId : CString
  status : Int
  severity : Int
  hostname : CString
  incidentStatus : Option CString
  deriving DecidableEq, Repr

/-- The value of a column, named with or without its table. A bare name is the events'. -/
def EventRow.value (e : EventRow) : String → Value
  | "unified_id" | "events.unified_id" => .int e.unifiedId
  | "server_id" | "events.server_id" => .int e.host.serverId
  | "id" | "events.id" => .str e.id.text
  | "time_sec" | "events.time_sec" => .int e.time.sec
  | "time_ns" | "events.time_ns" => .int e.time.nsec
  | "event_value" | "events.event_value" => .int e.eventType
  | "trigger_id" | "events.trigger_id" => .str e.triggerId.text
  | "status" | "events.status" => .int e.status
  | "severity" | "events.severity" => .int e.severity
  | "host_id_in_server" | "events.host_id_in_server" => .str e.host.hostId.text
  | "hostname" | "events.hostname" => .str e.hostname.text
  | "host_group_id" | "hostgroup_member.host_group_id" => .str e.host.hostgroupId.text
  | "incidents.status" => e.incidentStatus.elim .null (.str ·.text)
  | _ => .null

namespace EventsQueryOption

/-! ## The filters, one by one -/

/-- The row passes the filters of the option's own, that for incidents apart. -/
def passesOwn (o : EventsQueryOption) (e : EventRow) : Bool :=
  (o.limitOfUnifiedId == 0 || decide (e.unifiedId ≤ o.limitOfUnifiedId)) &&
  (o.type == eventTypeAll || e.eventType == o.type) &&
  (o.minSeverity == triggerSeverityUnknown || decide (o.minSeverity ≤ e.severity)) &&
  (o.triggerStatus == triggerStatusAll || e.status == o.triggerStatus) &&
  (o.triggerId == allTriggers || e.triggerId == o.triggerId) &&
  (o.beginTime == ⟨0, 0⟩ || decide (o.beginTime.sec < e.time.sec) ||
    (e.time.sec == o.beginTime.sec && decide (o.beginTime.nsec ≤ e.time.nsec))) &&
  (o.endTime == ⟨0, 0⟩ || decide (e.time.sec < o.endTime.sec) ||
    (e.time.sec == o.endTime.sec && decide (e.time.nsec ≤ o.endTime.nsec))) &&
  (o.hostnameList.isEmpty || o.hostnameList.contains e.hostname) &&
  (o.eventIds.isEmpty || o.eventIds.contains e.id) &&
  (o.eventTypes.isEmpty || o.eventTypes.contains e.eventType) &&
  (o.triggerSeverities.isEmpty || o.triggerSeverities.contains e.severity) &&
  (o.triggerStatuses.isEmpty || o.triggerStatuses.contains e.status)

/-- An event without an incident has the empty status. -/
def passesIncident (o : EventsQueryOption) (e : EventRow) : Bool :=
  o.incidentStatuses.isEmpty || o.incidentStatuses.contains (e.incidentStatus.getD emptyText)

/-- None of these filters is set. -/
def isUnfiltered (o : EventsQueryOption) : Bool :=
  o.limitOfUnifiedId == 0 && o.type == eventTypeAll && o.minSeverity == triggerSeverityUnknown &&
  o.triggerStatus == triggerStatusAll && o.triggerId == allTriggers && o.beginTime == ⟨0, 0⟩ &&
  o.endTime == ⟨0, 0⟩ && o.hostnameList.isEmpty && o.eventIds.isEmpty && o.eventTypes.isEmpty &&
  o.triggerSeverities.isEmpty && o.triggerStatuses.isEmpty

/-- The filter for incidents asks for the empty status and no other. -/
def asksForNoIncident (o : EventsQueryOption) : Bool := o.incidentStatuses.toList == [emptyText]

/-! ## Their texts -/

def cmpInt (column : String) (op : CmpOp) (n : Int) : Text := .cmp column op (.int n)

def beginTimeText (o : EventsQueryOption) : Text :=
  .paren (.or (cmpInt (o.getColumnName idxEventsTimeSec) .gt o.beginTime.sec)
    (.paren (.and (cmpInt (o.getColumnName idxEventsTimeSec) .eq o.beginTime.sec)
      (cmpInt (o.getColumnName idxEventsTimeNs) .ge o.beginTime.nsec))))

def endTimeText (o : EventsQueryOption) : Text :=
  .paren (.or (cmpInt (o.getColumnName idxEventsTimeSec) .lt o.endTime.sec)
    (.paren (.and (cmpInt (o.getColumnName idxEventsTimeSec) .eq o.endTime.sec)
      (cmpInt (o.getColumnName idxEventsTimeNs) .le o.endTime.nsec))))

def listText (column : String) (ids : List CString) : Text := .inList column (ids.map (.str ·.text))

def setForm (column : String) (values : Std.TreeSet Int) : Option Text :=
  HostResourceQueryOption.wrapIf (values.size > 1)
    (Text.chain .or (values.toList.map (cmpInt column .eq)))

/-- The filters in the order in which they are appended, that for incidents apart. -/
def ownForms (o : EventsQueryOption) : List (Option Text) :=
  [if o.limitOfUnifiedId ≠ 0 then
      some (cmpInt (o.getColumnName idxEventsUnifiedId) .le o.limitOfUnifiedId) else none,
    if o.type ≠ eventTypeAll then
      some (cmpInt (o.getColumnName idxEventsEventType) .eq o.type) else none,
    if o.minSeverity ≠ triggerSeverityUnknown then
      some (cmpInt (eventsColumnName idxEventsSeverity) .ge o.minSeverity) else none,
    if o.triggerStatus ≠ triggerStatusAll then
      some (cmpInt (o.getColumnName idxEventsStatus) .eq o.triggerStatus) else none,
    if o.triggerId ≠ allTriggers then
      some (.cmp (o.getColumnName idxEventsTriggerId) .eq (.str o.triggerId.text)) else none,
    if o.beginTime.sec ≠ 0 ∨ o.beginTime.nsec ≠ 0 then some o.beginTimeText else none,
    if o.endTime.sec ≠ 0 ∨ o.endTime.nsec ≠ 0 then some o.endTimeText else none,
    if o.hostnameList ≠ [] then
      some (listText (eventsColumnName idxEventsHostName) o.hostnameList) else none,
    if o.eventIds ≠ [] then some (listText (eventsColumnName idxEventsId) o.eventIds) else none,
    setForm (o.getColumnName idxEventsEventType) o.eventTypes,
    setForm (o.getColumnName idxEventsSeverity) o.triggerSeverities,
    setForm (o.getColumnName idxEventsStatus) o.triggerStatuses]

def incidentTexts (status : CString) : List Text :=
  .cmp incidentsStatusColumnName .eq (.str status.text) ::
    if status.text = "" then [.isNull incidentsStatusColumnName] else []

def incidentForm (o : EventsQueryOption) : Option Text :=
  HostResourceQueryOption.wrapIf (o.incidentStatuses.size > 1)
    (Text.chain .or (o.incidentStatuses.toList.flatMap incidentTexts))

def form (o : EventsQueryOption) : Option Text :=
  Text.glue .and (o.ownForms.foldl (Text.glue .and) o.base.form) o.incidentForm

theorem isName_getColumnName (o : EventsQueryOption) (idx : Fin tableProfileEvents.numColumns) :
    isName (o.getColumnName idx) := Column.isName_nameIn _ _

theorem isName_eventsColumnName (idx : Fin tableProfileEvents.numColumns) :
    isName (eventsColumnName idx) := Column.isName_nameIn false ⟨tableProfileEvents, idx⟩

theorem isName_incidentsStatusColumnName : isName incidentsStatusColumnName :=
  isName_qualified (by decide) (by decide)

theorem appendAnd_eq {condition added : String} (hadded : added ≠ "") :
    appendAnd condition added = addAnd condition added := by
  unfold appendAnd addAnd addCondition
  rw [if_neg hadded]
  by_cases hcond : condition = ""
  · simp [hcond]
  · simp [hcond]

theorem denotes_appendAnd_if {p : Prop} [Decidable p] {curr added : String} {o : Option Text}
    {t : Text} (hcurr : Denotes curr o) (hadded : Denotes added (some t)) :
    Denotes (if p then appendAnd curr added else curr)
      (Text.glue .and o (if p then some t else none)) := by
  rw [appendAnd_eq hadded.ne_empty]
  exact denotes_addAnd_if hcurr hadded

theorem denotes_cmpInt {column op : String} {c : CmpOp} (hcolumn : isName column)
    (hop : Opens op.toList [.op c]) (hsep : ∀ d ∈ op.toList.head?, isSeparator d) (n : Int) :
    Denotes (column ++ op ++ toString n) (some (cmpInt column c n)) :=
  denotes_cmp hcolumn hop hsep (denotes_encInt n)

/-- The text of a bound on the time, taken apart at its parentheses. -/
theorem denotes_time {sec op secBound ns op' nsBound : String} {a b c : Text}
    (ha : Denotes (sec ++ op ++ secBound) (some a)) (hb : Denotes (sec ++ "=" ++ secBound) (some b))
    (hc : Denotes (ns ++ op' ++ nsBound) (some c)) :
    Denotes ("(" ++ sec ++ op ++ secBound ++ " OR (" ++ sec ++ "=" ++ secBound ++ " AND " ++ ns ++
      op' ++ nsBound ++ "))") (some (.paren (.or a (.paren (.and b c))))) := by
  have hall := (ha.or (hb.and hc).paren).paren
  have hopen : " OR (" = " OR " ++ "(" := rfl
  have hclose : "))" = ")" ++ ")" := rfl
  rw [hopen, hclose]
  simpa only [String.append_assoc] using hall

theorem denotes_beginTimeCondition (o : EventsQueryOption) :
    Denotes o.beginTimeCondition (some o.beginTimeText) := by
  have hsec := o.isName_getColumnName idxEventsTimeSec
  have hns := o.isName_getColumnName idxEventsTimeNs
  exact denotes_time (denotes_gt hsec o.beginTime.sec)
    (denotes_cmpInt hsec opens_eq (separates rfl) o.beginTime.sec)
    (denotes_cmpInt hns opens_ge (separates rfl) o.beginTime.nsec)

theorem denotes_endTimeCondition (o : EventsQueryOption) :
    Denotes o.endTimeCondition (some o.endTimeText) := by
  have hsec := o.isName_getColumnName idxEventsTimeSec
  have hns := o.isName_getColumnName idxEventsTimeNs
  exact denotes_time (denotes_lt hsec o.endTime.sec)
    (denotes_cmpInt hsec opens_eq (separates rfl) o.endTime.sec)
    (denotes_cmpInt hns opens_le (separates rfl) o.endTime.nsec)

theorem denotes_makeListCondition {column : String} (hcolumn : isName column) (ids : List CString) :
    Denotes (makeListCondition column ids) (some (listText column ids)) :=
  denotes_inList hcolumn opens_in_lower (separates rfl) encString
    (.str ·.text) denotes_encString ids

theorem denotes_makeSetCondition {column : String} (hcolumn : isName column)
    (values : Std.TreeSet Int) :
    Denotes (makeSetCondition column values) (setForm column values) := by
  have hchain := HostResourceQueryOption.denotes_chain .or
    (fun n => denotes_cmpInt hcolumn opens_eq (separates rfl) n) values.toList
  exact HostResourceQueryOption.denotes_wrapIf hchain

/-- The loop over the incident statuses appends the texts of each. -/
theorem denotes_incidentStatuses (statuses : List CString) {condition : String} {t : Option Text}
    (hcond : Denotes condition t) :
    Denotes (statuses.foldl (fun condition status =>
        let condition := addOr condition (incidentsStatusColumnName ++ "=" ++ encString status)
        if status.text = "" then addOr condition (incidentsStatusColumnName ++ " is NULL")
        else condition) condition)
      ((statuses.flatMap incidentTexts).foldl (fun t u => Text.glue .or t (some u)) t) := by
  induction statuses generalizing condition t with
  | nil => exact hcond
  | cons status statuses ih =>
    have hstatus := denotes_addOr hcond
      (denotes_eq isName_incidentsStatusColumnName (denotes_encString status))
    have hnull := denotes_addOr hstatus (denotes_isNull isName_incidentsStatusColumnName)
    rw [List.foldl_cons, List.flatMap_cons, List.foldl_append]
    apply ih
    by_cases hempty : status.text = ""
    · simpa [incidentTexts, hempty] using hnull
    · simpa [incidentTexts, hempty] using hstatus

theorem denotes_incidentStatusCondition (o : EventsQueryOption) :
    Denotes o.incidentStatusCondition o.incidentForm := by
  have hloop := denotes_incidentStatuses o.incidentStatuses.toList (show Denotes "" none from rfl)
  exact HostResourceQueryOption.denotes_wrapIf hloop

theorem denotes_addOwnConditions (o : EventsQueryOption) {condition : String} {t : Option Text}
    (hcond : Denotes condition t) :
    Denotes (o.addOwnConditions condition)
      (Text.glue .and (o.ownForms.foldl (Text.glue .and) t) o.incidentForm) := by
  have hcolumn := o.isName_getColumnName
  have h := denotes_appendAnd_if (p := o.limitOfUnifiedId ≠ 0) hcond
    (denotes_cmpInt (hcolumn idxEventsUnifiedId) opens_le (separates rfl) o.limitOfUnifiedId)
  have h := denotes_appendAnd_if (p := o.type ≠ eventTypeAll) h
    (denotes_cmpInt (hcolumn idxEventsEventType) opens_eq (separates rfl) o.type)
  have h := denotes_appendAnd_if (p := o.minSeverity ≠ triggerSeverityUnknown) h
    (denotes_cmpInt (isName_eventsColumnName idxEventsSeverity) opens_ge (separates rfl) o.minSeverity)
  have h := denotes_appendAnd_if (p := o.triggerStatus ≠ triggerStatusAll) h
    (denotes_cmpInt (hcolumn idxEventsStatus) opens_eq (separates rfl) o.triggerStatus)
  have h := denotes_appendAnd_if (p := o.triggerId ≠ allTriggers) h
    (denotes_eq (hcolumn idxEventsTriggerId) (denotes_encString o.triggerId))
  have h := denotes_appendAnd_if (p := o.beginTime.sec ≠ 0 ∨ o.beginTime.nsec ≠ 0) h
    o.denotes_beginTimeCondition
  have h := denotes_appendAnd_if (p := o.endTime.sec ≠ 0 ∨ o.endTime.nsec ≠ 0) h
    o.denotes_endTimeCondition
  have h := denotes_addAnd_if (p := o.hostnameList ≠ []) h
    (denotes_makeListCondition (isName_eventsColumnName idxEventsHostName) o.hostnameList)
  have h := denotes_addAnd_if (p := o.eventIds ≠ []) h
    (denotes_makeListCondition (isName_eventsColumnName idxEventsId) o.eventIds)
  have h := denotes_addAnd h (denotes_makeSetCondition (hcolumn idxEventsEventType) o.eventTypes)
  have h := denotes_addAnd h
    (denotes_makeSetCondition (hcolumn idxEventsSeverity) o.triggerSeverities)
  have h := denotes_addAnd h (denotes_makeSetCondition (hcolumn idxEventsStatus) o.triggerStatuses)
  exact denotes_addAnd h o.denotes_incidentStatusCondition

/-! ## Their meaning -/

section Values

variable (o : EventsQueryOption) (e : EventRow)

/-- A name of a column with or without its table has the same value. -/
theorem value_getColumnName {idx : Fin tableProfileEvents.numColumns} {v : Value}
    (hv : ∀ full, e.value (Column.nameIn full ⟨tableProfileEvents, idx⟩) = v) :
    e.value (o.getColumnName idx) = v := hv _

theorem value_unifiedId : e.value (o.getColumnName idxEventsUnifiedId) = .int e.unifiedId :=
  o.value_getColumnName e fun full => by cases full <;> rfl

theorem value_timeSec : e.value (o.getColumnName idxEventsTimeSec) = .int e.time.sec :=
  o.value_getColumnName e fun full => by cases full <;> rfl

theorem value_timeNs : e.value (o.getColumnName idxEventsTimeNs) = .int e.time.nsec :=
  o.value_getColumnName e fun full => by cases full <;> rfl

theorem value_eventType : e.value (o.getColumnName idxEventsEventType) = .int e.eventType :=
  o.value_getColumnName e fun full => by cases full <;> rfl

theorem value_triggerId : e.value (o.getColumnName idxEventsTriggerId) = .str e.triggerId.text :=
  o.value_getColumnName e fun full => by cases full <;> rfl

theorem value_status : e.value (o.getColumnName idxEventsStatus) = .int e.status :=
  o.value_getColumnName e fun full => by cases full <;> rfl

theorem value_severity : e.value (o.getColumnName idxEventsSeverity) = .int e.severity :=
  o.value_getColumnName e fun full => by cases full <;> rfl

theorem hasRow_value : o.base.HasRow e.value e.host := by
  apply HostResourceQueryOption.hasRow_of_names o.isEvents
  · intro full
    cases full <;> rfl
  · intro _ full
    cases full <;> rfl
  · rintro idx hidx full
    obtain rfl : ⟨10, by decide⟩ = idx := Option.some.inj hidx
    cases full <;> rfl

end Values

theorem all_if {p : Prop} [Decidable p] (t : Text) (f : Text → Bool) :
    (if p then some t else none).all f = (!decide p || f t) := by
  by_cases hp : p <;> simp [hp]

/-- A filter by a set is one text, true of the rows whose value is in the set. -/
theorem setForm_spec (row : String → Value) {column : String} {v : Int} (hv : row column = .int v)
    (values : Std.TreeSet Int) :
    (∀ t, setForm column values = some t → t.isSingle ∧ t.wellFormed) ∧
      (setForm column values).isNone = values.isEmpty ∧
      (setForm column values).all (Text.holds row) = (values.isEmpty || values.contains v) := by
  have hsize := Std.TreeSet.length_toList (t := values)
  have hempty : values.isEmpty = values.toList.isEmpty := Std.TreeSet.isEmpty_toList.symm
  have hcontains : values.contains v = values.toList.any (v == ·) := by
    rw [Bool.eq_iff_iff]
    simp
  have hholds (n : Int) : (cmpInt column .eq n).holds row = (v == n) := by simp [cmpInt, hv]
  unfold setForm
  rw [← hsize, hempty, hcontains]
  match hlist : values.toList with
  | [] => simp [HostResourceQueryOption.wrapIf, Text.chain]
  | [n] =>
    simp [HostResourceQueryOption.wrapIf, Text.chain, Text.glue, hholds]
    simp [cmpInt, Text.isSingle, Text.wellFormed]
  | n :: m :: ns =>
    have hsingle : ∀ t ∈ (n :: m :: ns).map (cmpInt column .eq), t.isSingle := by
      simp [cmpInt, Text.isSingle]
    obtain ⟨t, ht⟩ : ∃ t, Text.chain .or ((n :: m :: ns).map (cmpInt column .eq)) = some t :=
      Option.isSome_iff_exists.mp (by simp)
    have hwf : t.wellFormed := by
      rw [← Text.complete_some, ← ht, Text.complete_chain_or]
      simp [cmpInt, Text.wellFormed]
    have halts : t.alternatives row = (n :: m :: ns).map fun n => v == n := by
      have hchain := Text.alts_chain_or row hsingle
      rw [ht, List.map_map] at hchain
      simpa [Text.alts, Function.comp_def, hholds] using hchain
    rw [ht]
    simp [HostResourceQueryOption.wrapIf, Text.wrap, Text.isSingle, Text.wellFormed, hwf,
      Text.holds_paren row hwf, halts]

theorem single_ownForms (o : EventsQueryOption) (e : EventRow) :
    ∀ t, some t ∈ o.ownForms → t.isSingle ∧ t.wellFormed := by
  have hif {p : Prop} [Decidable p] {t u : Text} (ht : some t = if p then some u else none)
      (hu : p → u.isSingle ∧ u.wellFormed) : t.isSingle ∧ t.wellFormed := by
    by_cases hp : p
    · rw [if_pos hp, Option.some.injEq] at ht
      exact ht ▸ hu hp
    · simp [hp] at ht
  have hlist {column : String} {ids : List CString} (hids : ids ≠ []) :
      (listText column ids).isSingle ∧ (listText column ids).wellFormed := by
    simpa [listText, Text.isSingle, Text.wellFormed] using hids
  intro t ht
  simp only [ownForms, List.mem_cons, List.not_mem_nil, or_false] at ht
  rcases ht with h | h | h | h | h | h | h | h | h | h | h | h
  · exact hif h fun _ => ⟨rfl, rfl⟩
  · exact hif h fun _ => ⟨rfl, rfl⟩
  · exact hif h fun _ => ⟨rfl, rfl⟩
  · exact hif h fun _ => ⟨rfl, rfl⟩
  · exact hif h fun _ => ⟨rfl, rfl⟩
  · exact hif h fun _ => ⟨rfl, rfl⟩
  · exact hif h fun _ => ⟨rfl, rfl⟩
  · exact hif h hlist
  · exact hif h hlist
  · exact (setForm_spec e.value (o.value_eventType e) o.eventTypes).1 t h.symm
  · exact (setForm_spec e.value (o.value_severity e) o.triggerSeverities).1 t h.symm
  · exact (setForm_spec e.value (o.value_status e) o.triggerStatuses).1 t h.symm

theorem isSet_time (t : Timespec) : decide (t.sec ≠ 0 ∨ t.nsec ≠ 0) = !(t == ⟨0, 0⟩) := by
  obtain ⟨sec, nsec⟩ := t
  rw [Bool.eq_iff_iff]
  simp [imp_iff_not_or]

theorem isSet_list (ids : List CString) : decide (ids ≠ []) = !ids.isEmpty := by
  cases ids <;> simp

theorem isNone_ownForms (o : EventsQueryOption) (e : EventRow) :
    o.ownForms.all Option.isNone = o.isUnfiltered := by
  have hif {p : Prop} [Decidable p] (t : Text) :
      (if p then some t else none).isNone = !decide p := by
    by_cases hp : p <;> simp [hp]
  simp only [ownForms, List.all_cons, List.all_nil, hif, isSet_time, isSet_list, isUnfiltered,
    Bool.and_true, Bool.and_assoc, (setForm_spec e.value (o.value_eventType e) o.eventTypes).2.1,
    (setForm_spec e.value (o.value_severity e) o.triggerSeverities).2.1,
    (setForm_spec e.value (o.value_status e) o.triggerStatuses).2.1]
  simp [beq_eq_decide]

theorem holds_listText (e : EventRow) {column : String} {v : CString}
    (hv : e.value column = .str v.text)
    (ids : List CString) : (listText column ids).holds e.value = ids.contains v := by
  rw [listText, Text.holds_inList, Bool.eq_iff_iff]
  simp [hv, Literal.value, ← CString.ext_iff]

/-- A bound on the time: a later second, or the same second and a later nanosecond. -/
theorem holds_time (row : String → Value) {a b c : Text} (ha : a.isSingle) (hb : b.isSingle)
    (hc : c.isSingle) (hwf : (Text.or a (.paren (.and b c))).wellFormed) :
    (Text.paren (.or a (.paren (.and b c)))).holds row =
      (a.holds row || (b.holds row && c.holds row)) := by
  have hpair : (Text.and b c).wellFormed := by
    simp only [Text.wellFormed, Bool.and_eq_true] at hwf ⊢
    exact hwf.2
  rw [Text.holds_paren row hwf, Text.alternatives, Text.alternatives_single row ha,
    Text.alternatives_single row rfl, HostResourceQueryOption.holds_pair row hb hc hpair]
  simp

theorem holds_ownForms (o : EventsQueryOption) (e : EventRow) :
    (o.ownForms.all fun form => form.all (Text.holds e.value)) = o.passesOwn e := by
  have hseverity : e.value (eventsColumnName idxEventsSeverity) = .int e.severity := rfl
  have hbegin : o.beginTimeText.holds e.value = (decide (o.beginTime.sec < e.time.sec) ||
      (e.time.sec == o.beginTime.sec && decide (o.beginTime.nsec ≤ e.time.nsec))) := by
    rw [beginTimeText, holds_time e.value rfl rfl rfl rfl]
    simp [cmpInt, value_timeSec, value_timeNs, Text.compareValue_order_int]
  have hend : o.endTimeText.holds e.value = (decide (e.time.sec < o.endTime.sec) ||
      (e.time.sec == o.endTime.sec && decide (e.time.nsec ≤ o.endTime.nsec))) := by
    rw [endTimeText, holds_time e.value rfl rfl rfl rfl]
    simp [cmpInt, value_timeSec, value_timeNs, Text.compareValue_order_int]
  have hhostname := holds_listText e (show e.value (eventsColumnName idxEventsHostName) =
    _ from rfl)
    o.hostnameList
  have hid := holds_listText e (show e.value (eventsColumnName idxEventsId) = _ from rfl) o.eventIds
  simp only [ownForms, List.all_cons, List.all_nil, all_if, isSet_time, isSet_list, Bool.not_not,
    hbegin, hend, hhostname, hid, passesOwn, Bool.and_true, Bool.and_assoc, Bool.or_assoc,
    (setForm_spec e.value (o.value_eventType e) o.eventTypes).2.2,
    (setForm_spec e.value (o.value_severity e) o.triggerSeverities).2.2,
    (setForm_spec e.value (o.value_status e) o.triggerStatuses).2.2]
  simp only [cmpInt, Text.holds_cmp, value_unifiedId, value_eventType, value_status,
    value_triggerId,
    hseverity, Text.compareValue_order_int, Text.compareValue_eq_int, Text.compareValue_eq_str,
    CString.text_beq]
  simp [beq_eq_decide]

/-! ### Incidents -/

theorem holds_incidentTexts (e : EventRow) (status : CString) :
    (incidentTexts status).any (Text.holds e.value) =
      (status == e.incidentStatus.getD emptyText) := by
  have hvalue : e.value incidentsStatusColumnName = e.incidentStatus.elim .null (.str ·.text) := rfl
  have hempty : status.text = "" ↔ status = emptyText := by
    rw [CString.ext_iff]
    rfl
  rw [incidentTexts, Bool.eq_iff_iff]
  cases hincident : e.incidentStatus with
  | none =>
    by_cases hstatus : status.text = ""
    · simp [hvalue, hincident, hempty.mp hstatus, emptyText]
    · have hne : status ≠ emptyText := fun h => hstatus (hempty.mpr h)
      simp [hvalue, hincident, hstatus, compareValue, hne]
  | some s =>
    have heq : s = status ↔ status = s := eq_comm
    by_cases hstatus : status.text = ""
    · have hs : s.text = "" ↔ status = s := by
        rw [CString.ext_iff, hstatus]
        exact eq_comm
      simp [hvalue, hincident, hstatus, hs]
    · simp [hvalue, hincident, hstatus, heq]

theorem single_incidentTexts (statuses : List CString) :
    ∀ t ∈ statuses.flatMap incidentTexts, t.isSingle ∧ t.wellFormed := by
  intro t ht
  obtain ⟨status, -, ht⟩ := List.mem_flatMap.mp ht
  unfold incidentTexts at ht
  split at ht <;> simp at ht
  · rcases ht with rfl | rfl <;> exact ⟨rfl, rfl⟩
  · exact ht ▸ ⟨rfl, rfl⟩

theorem complete_incidentForm (o : EventsQueryOption) : Text.complete o.incidentForm := by
  have hwf : (o.incidentStatuses.toList.flatMap incidentTexts).all Text.wellFormed := by
    rw [List.all_eq_true]
    exact fun t ht => (single_incidentTexts _ t ht).2
  have hwrap : Text.complete (HostResourceQueryOption.wrapIf (o.incidentStatuses.size > 1)
      (Text.chain AddConditionType.or.join (o.incidentStatuses.toList.flatMap incidentTexts))) =
        _ :=
    HostResourceQueryOption.wrapIf_chain hwf
  rw [← Std.TreeSet.length_toList] at hwrap
  rw [incidentForm, ← Std.TreeSet.length_toList]
  refine hwrap.trans ?_
  cases o.incidentStatuses.toList <;> simp [incidentTexts]

/-- The filter for incidents is one alternative or none, except for the empty status alone. -/
theorem alts_incidentForm (o : EventsQueryOption) (e : EventRow) :
    Text.alts e.value o.incidentForm =
      if o.asksForNoIncident then
        [e.incidentStatus == some emptyText, e.incidentStatus == none]
      else if o.incidentStatuses.isEmpty then [] else [o.passesIncident e] := by
  have hsize := Std.TreeSet.length_toList (t := o.incidentStatuses)
  have hempty : o.incidentStatuses.isEmpty = o.incidentStatuses.toList.isEmpty :=
    Std.TreeSet.isEmpty_toList.symm
  have hany : ((o.incidentStatuses.toList.flatMap incidentTexts).map (Text.holds e.value)).any id =
      o.incidentStatuses.contains (e.incidentStatus.getD emptyText) := by
    rw [List.any_map, List.any_flatMap, Bool.eq_iff_iff]
    simp [Function.comp_def, holds_incidentTexts]
  have hcomplete := o.complete_incidentForm
  have hchain := Text.alts_chain_or e.value fun t ht =>
    (single_incidentTexts o.incidentStatuses.toList t ht).1
  rw [incidentForm] at hcomplete ⊢
  rw [HostResourceQueryOption.alts_wrapIf e.value _ hcomplete, hchain, hany, ← hsize]
  unfold asksForNoIncident passesIncident
  rw [hempty, ← hany]
  match hlist : o.incidentStatuses.toList with
  | [] => simp
  | [status] =>
    by_cases hstatus : status = emptyText
    · subst hstatus
      have hvalue : e.value incidentsStatusColumnName = e.incidentStatus.elim .null (.str ·.text) :=
        rfl
      have htexts : incidentTexts emptyText = [.cmp incidentsStatusColumnName .eq (.str emptyText.text),
          .isNull incidentsStatusColumnName] := rfl
      cases hincident : e.incidentStatus with
      | none => simp [htexts, hvalue, hincident, compareValue]
      | some s =>
        simp [htexts, hvalue, hincident]
    · have htext : status.text ≠ "" := fun h => hstatus (CString.ext h)
      simp [incidentTexts, hstatus, htext]
  | _ :: _ :: _ => simp

/-! ## The condition -/

theorem complete_form (o : EventsQueryOption) (e : EventRow) :
    Text.complete o.form = Text.complete o.base.form := by
  have hown : o.ownForms.all Text.complete := by
    rw [List.all_eq_true]
    intro form hform
    cases form with
    | none => rfl
    | some t => exact (o.single_ownForms e t hform).2
  rw [form, Text.complete_glue_and, Text.complete_foldl_glue, hown, complete_incidentForm]
  simp

/-- The alternatives of the whole condition. -/
theorem alts_form (o : EventsQueryOption) (e : EventRow) :
    Text.alts e.value o.form =
      conjoin (conjoin (Text.alts e.value o.base.form)
        (if o.isUnfiltered then [] else [o.passesOwn e])) (Text.alts e.value o.incidentForm) := by
  rw [form, Text.alts_glue_and, Text.alts_foldl_glue e.value
    (fun t ht => (o.single_ownForms e t ht).1), o.isNone_ownForms e, holds_ownForms]

theorem passesOwn_of_isUnfiltered {o : EventsQueryOption} (h : o.isUnfiltered) (e : EventRow) :
    o.passesOwn e := by
  simp only [isUnfiltered, Bool.and_eq_true] at h
  simp [passesOwn, h]

/-- A query whose base text is not the false condition shows what its text picks. -/
theorem shows_eq {o : EventsQueryOption} (hbase : o.base.getCondition ≠ .ok alwaysFalseCondition)
    (e : EventRow) :
    o.shows e.value = (o.base.answers && picks (Text.alts e.value o.form)) := by
  have hform := o.base.complete_form
  unfold shows getCondition HostResourceQueryOption.answers
  cases hdenied : o.base.denied with
  | true =>
    cases hs : o.base.getCondition with
    | error ex => rfl
    | ok s => exact absurd (HostResourceQueryOption.getCondition_denied hdenied hs ▸ hs) hbase
  | false =>
    cases hcolumns : o.base.hasColumns with
    | false =>
      obtain ⟨ex, hex⟩ := HostResourceQueryOption.getCondition_missing_column hcolumns hdenied
      rw [hex]
      rfl
    | true =>
      obtain ⟨s, hs, htext⟩ := HostResourceQueryOption.denotes_form hcolumns hdenied
      have hne : isAlwaysFalseCondition s = false := by
        rw [Bool.eq_false_iff]
        intro hfalse
        exact hbase (hs.trans (congrArg Except.ok (beq_iff_eq.mp hfalse)))
      have hall := o.denotes_addOwnConditions htext
      rw [hs]
      simp only [bind, Except.bind, pure, Except.pure, hne, Bool.false_eq_true, if_false]
      rw [hall.selects_eq, show Text.glue .and _ _ = o.form from rfl, o.complete_form e, hform]
      simp

theorem base_shows_eq {o : EventsQueryOption} (hanswers : o.base.answers) (e : EventRow) :
    o.base.shows e.value = picks (Text.alts e.value o.base.form) := by
  have hcomplete := o.base.complete_form
  simp only [HostResourceQueryOption.answers, Bool.and_eq_true] at hanswers
  obtain ⟨⟨⟨hdenied, hcolumns⟩, hentries⟩, hterms⟩ := hanswers
  rw [HostResourceQueryOption.shows_eq, hcomplete, hdenied, hcolumns, hentries, hterms]
  simp

/-- Some event of the host and with the incident fails a filter that is set. -/
theorem exists_fails_own {o : EventsQueryOption} (h : o.isUnfiltered = false) (host : HostRow)
    (incidentStatus : Option CString) :
    ∃ e : EventRow, e.host = host ∧ e.incidentStatus = incidentStatus ∧ o.passesOwn e = false := by
  obtain ⟨triggerId, htrigger⟩ := exists_ne o.triggerId
  obtain ⟨hostname, hhostname⟩ := exists_notMem o.hostnameList
  obtain ⟨id, hid⟩ := exists_notMem o.eventIds
  obtain ⟨eventType, htype⟩ := exists_not_contains o.eventTypes
  obtain ⟨severity, hseverity⟩ := exists_not_contains o.triggerSeverities
  obtain ⟨status, hstatus⟩ := exists_not_contains o.triggerStatuses
  let e : EventRow := ⟨host, 0, emptyText, ⟨0, 0⟩, 0, emptyText, 0, 0, emptyText, incidentStatus⟩
  simp only [isUnfiltered, Bool.and_eq_false_iff] at h
  rcases h with ((((((((((h | h) | h) | h) | h) | h) | h) | h) | h) | h) | h) | h
  · refine ⟨{ e with unifiedId := o.limitOfUnifiedId + 1 }, rfl, rfl, ?_⟩
    simp [passesOwn, h]
  · refine ⟨{ e with eventType := o.type + 1 }, rfl, rfl, ?_⟩
    simp [passesOwn, h]
  · refine ⟨{ e with severity := o.minSeverity - 1 }, rfl, rfl, ?_⟩
    simp [passesOwn, h]
  · refine ⟨{ e with status := o.triggerStatus + 1 }, rfl, rfl, ?_⟩
    simp [passesOwn, h]
  · refine ⟨{ e with triggerId := triggerId }, rfl, rfl, ?_⟩
    simp [passesOwn, h, htrigger]
  · refine ⟨{ e with time := ⟨o.beginTime.sec - 1, 0⟩ }, rfl, rfl, ?_⟩
    simp [passesOwn, h]
  · refine ⟨{ e with time := ⟨o.endTime.sec + 1, 0⟩ }, rfl, rfl, ?_⟩
    simp [passesOwn, h]
  · refine ⟨{ e with hostname := hostname }, rfl, rfl, ?_⟩
    simp [passesOwn, h, hhostname]
  · refine ⟨{ e with id := id }, rfl, rfl, ?_⟩
    simp [passesOwn, h, hid]
  · refine ⟨{ e with eventType := eventType }, rfl, rfl, ?_⟩
    simp [passesOwn, h, htype]
  · refine ⟨{ e with severity := severity }, rfl, rfl, ?_⟩
    simp [passesOwn, h, hseverity]
  · refine ⟨{ e with status := status }, rfl, rfl, ?_⟩
    simp [passesOwn, h, hstatus]

theorem exists_fails {o : EventsQueryOption}
    (h : ¬(o.isUnfiltered ∧ o.incidentStatuses.isEmpty)) (host : HostRow) :
    ∃ e : EventRow, e.host = host ∧ (o.passesOwn e && o.passesIncident e) = false := by
  cases hown : o.isUnfiltered with
  | false =>
    obtain ⟨e, hhost, -, hfails⟩ := exists_fails_own hown host none
    exact ⟨e, hhost, by simp [hfails]⟩
  | true =>
    have hempty : o.incidentStatuses.isEmpty = false := by simpa [hown] using h
    obtain ⟨status, hstatus⟩ := exists_not_contains o.incidentStatuses
    refine ⟨⟨host, 0, emptyText, ⟨0, 0⟩, 0, emptyText, 0, 0, emptyText, some status⟩, rfl, ?_⟩
    simp [passesIncident, hempty, hstatus]

/-- Unless the filter for incidents asks for the empty status alone, the filters of the option's
    own are one conjunct, and it is bound to the last alternative of the base. -/
theorem picks_form {o : EventsQueryOption} (hbare : o.asksForNoIncident = false) (e : EventRow) :
    let base := Text.alts e.value o.base.form
    picks (Text.alts e.value o.form) =
      (base.dropLast.any id || (base.getLast?.getD true && (o.passesOwn e && o.passesIncident e))) := by
  intro base
  have hincident := o.alts_incidentForm e
  rw [hbare, if_neg (by simp)] at hincident
  rw [alts_form, hincident]
  cases hown : o.isUnfiltered with
  | true =>
    rw [passesOwn_of_isUnfiltered hown e]
    cases hempty : o.incidentStatuses.isEmpty with
    | true => simp [passesIncident, hempty, base, picks_eq_dropLast]
    | false => simp [base, picks_conjoin_last]
  | false =>
    cases hempty : o.incidentStatuses.isEmpty with
    | true => simp [passesIncident, hempty, base, picks_conjoin_last]
    | false => simp [base, conjoin_conjoin_single, picks_conjoin_last]

/-- The empty incident status alone: every event without an incident is picked. -/
theorem picks_form_no_incident {o : EventsQueryOption} (hbare : o.asksForNoIncident) {e : EventRow}
    (he : e.incidentStatus = none) : picks (Text.alts e.value o.form) := by
  have hincident := o.alts_incidentForm e
  rw [hbare, if_pos rfl] at hincident
  rw [alts_form, hincident, picks_conjoin_two, he]
  simp

/-- What keeps the condition a conjunction: a filter for the empty incident status alone has
    nothing before it; any other filter follows a base that binds what is appended to it. -/
def KeepsConjunction (o : EventsQueryOption) : Prop :=
  if o.asksForNoIncident then o.base.getCondition = .ok "" ∧ o.isUnfiltered
  else (o.isUnfiltered ∧ o.incidentStatuses.isEmpty) ∨ o.base.BindsAppended

theorem form_eq_none_iff {o : EventsQueryOption} (hanswers : o.base.answers) :
    o.base.form = none ↔ o.base.getCondition = .ok "" := by
  simp only [HostResourceQueryOption.answers, Bool.and_eq_true, Bool.not_eq_true'] at hanswers
  obtain ⟨s, hs, htext⟩ := HostResourceQueryOption.denotes_form hanswers.1.1.2 hanswers.1.1.1
  rw [hs, Except.ok.injEq, htext.eq_empty_iff]

section Conjunction

variable {o : EventsQueryOption} (hanswers : o.base.answers)

include hanswers

/-- The empty incident status alone behind anything else. -/
theorem conjoins_iff_of_bare (hbare : o.asksForNoIncident) :
    (∀ e : EventRow, picks (Text.alts e.value o.form) →
        picks (Text.alts e.value o.base.form) ∧ o.passesOwn e ∧ o.passesIncident e) ↔
      (o.base.form = none ∧ o.isUnfiltered) := by
  constructor
  · intro hall
    constructor
    · by_contra hform
      have hterms : o.base.hasTerms := by
        simp only [HostResourceQueryOption.answers, Bool.and_eq_true] at hanswers
        exact hanswers.2
      obtain ⟨r, hr⟩ := HostResourceQueryOption.exists_rejected hterms hform
      let e : EventRow := ⟨r, 0, emptyText, ⟨0, 0⟩, 0, emptyText, 0, 0, emptyText, none⟩
      have hpicks := (hall e (picks_form_no_incident hbare rfl)).1
      rw [← base_shows_eq hanswers, HostResourceQueryOption.shows_row (o.hasRow_value e), hr,
        Bool.and_false] at hpicks
      exact absurd hpicks (by simp)
    · by_contra hown
      obtain ⟨e, -, hincident, hfails⟩ :=
        exists_fails_own (by simpa using hown) ⟨0, emptyText, emptyText⟩ none
      have hpasses := (hall e (picks_form_no_incident hbare hincident)).2.1
      rw [hfails] at hpasses
      exact absurd hpasses (by simp)
  · rintro ⟨hform, hown⟩ e hpicks
    refine ⟨by simp [hform, picks], passesOwn_of_isUnfiltered hown e, ?_⟩
    have hincident := o.alts_incidentForm e
    rw [hbare, if_pos rfl] at hincident
    have hlist : o.incidentStatuses.toList = [emptyText] := by
      simpa [asksForNoIncident] using hbare
    have hmem : emptyText ∈ o.incidentStatuses := by
      rw [← Std.TreeSet.mem_toList, hlist]
      simp
    rw [alts_form, hincident, hform, hown] at hpicks
    rcases hstatus : e.incidentStatus with _ | status
    · simp [passesIncident, hstatus, hmem]
    · have heq : status = emptyText := by simpa [picks, hstatus] using hpicks
      simp [passesIncident, hstatus, heq, hmem]

theorem conjoins_iff_of_not_bare (hbare : o.asksForNoIncident = false) :
    (∀ e : EventRow, picks (Text.alts e.value o.form) →
        picks (Text.alts e.value o.base.form) ∧ o.passesOwn e ∧ o.passesIncident e) ↔
      ((o.isUnfiltered ∧ o.incidentStatuses.isEmpty) ∨ o.base.BindsAppended) := by
  have hescapes (e : EventRow) :=
    HostResourceQueryOption.dropLast_form hanswers (o.hasRow_value e)
  constructor
  · intro hall
    by_contra hnot
    rw [not_or, ← HostResourceQueryOption.escapes_iff] at hnot
    obtain ⟨hfilters, hloose⟩ := hnot
    obtain ⟨r, hr⟩ := not_forall.mp hloose
    obtain ⟨e, rfl, hfails⟩ := exists_fails hfilters r
    have hpicks : picks (Text.alts e.value o.form) := by
      rw [picks_form hbare, hescapes, Bool.eq_true_of_not_eq_false hr]
      rfl
    obtain ⟨-, hown, hincident⟩ := hall e hpicks
    rw [hown, hincident] at hfails
    exact absurd hfails (by simp)
  · intro hkeeps e hpicks
    rw [picks_form hbare, hescapes] at hpicks
    rw [picks_eq_dropLast, hescapes]
    rcases hkeeps with ⟨hown, hempty⟩ | hbinds
    · have hpasses := passesOwn_of_isUnfiltered hown e
      have hincident : o.passesIncident e := by simp [passesIncident, hempty]
      rw [hpasses, hincident] at hpicks
      exact ⟨by simpa using hpicks, hpasses, hincident⟩
    · rw [o.base.escapes_iff.mpr hbinds] at hpicks ⊢
      simp only [Bool.false_or, Bool.and_eq_true] at hpicks ⊢
      exact hpicks

end Conjunction

/-- A user who may see one host group of server 1 asks for events without an incident. -/
def noIncidentQuery : EventsQueryOption :=
  { new HostResourceQueryOption.oneHostgroupUser with incidentStatuses := {emptyText} }

/-- An event of another server. -/
def otherServersEvent : EventRow :=
  ⟨⟨2, .ofString "5", .ofString "11"⟩, 1, .ofString "1", ⟨1, 0⟩, 1, .ofString "1", 1, 1,
    .ofString "host", none⟩

end EventsQueryOption

end Hatohol

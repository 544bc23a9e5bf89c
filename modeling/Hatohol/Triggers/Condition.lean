import Hatohol.DBTablesTriggers
import Hatohol.Events.Statistics

/-!
# The text of a query for triggers

Behind the condition of the host resource query stand up to nine filters, each one conjunct. The
columns that they name belong to one table only.
-/

namespace Hatohol

open Sql DBTermCodec

/-- `id` is the primary key of the server's hosts, `host_group_id` is a column of the host groups. -/
def TriggersQueryOption.joinedColumns (o : TriggersQueryOption) : List (List String) :=
  [tableProfileTriggers.columnNames, tableProfileServerHostDef.columnNames] ++
    if o.base.isHostgroupUsed then [tableProfileHostgroupMember.columnNames] else []

namespace TriggersQueryOption

variable {o : TriggersQueryOption}

theorem hasHostColumn (o : TriggersQueryOption) : o.base.synapse.hostIdColumnIdx.isSome := by
  rw [o.isTriggers]
  rfl

theorem needsHostgroup (o : TriggersQueryOption) : o.base.synapse.needToJoinHostgroup := by
  rw [o.isTriggers]
  rfl

theorem hasColumns (o : TriggersQueryOption) : o.base.hasColumns := by
  rw [HostResourceQueryOption.hasColumns, o.hasHostColumn, Bool.true_or]

/-! ## The filters -/

/-- The seconds and the nanoseconds are named without their table. -/
def cmpChange (idx : Fin tableProfileTriggers.numColumns) (op : CmpOp) (n : Int) : Text :=
  .cmp (triggersColumnName idx) op (.int n)

def cmpTrigger (idx : Fin tableProfileTriggers.numColumns) (op : CmpOp) (l : Literal) : Text :=
  .cmp (triggersFullColumnName idx) op l

def beginTimeText (o : TriggersQueryOption) : Text :=
  .paren (.or (cmpChange idxTriggersLastChangeTimeSec .gt o.beginTime.sec)
    (.paren (.and (cmpChange idxTriggersLastChangeTimeSec .eq o.beginTime.sec)
      (cmpChange idxTriggersLastChangeTimeNs .ge o.beginTime.nsec))))

def endTimeText (o : TriggersQueryOption) : Text :=
  .paren (.and
    (.paren (.or (cmpChange idxTriggersLastChangeTimeSec .lt o.endTime.sec)
      (.paren (.and (cmpChange idxTriggersLastChangeTimeSec .eq o.endTime.sec)
        (cmpChange idxTriggersLastChangeTimeNs .le o.endTime.nsec)))))
    (.paren (cmpChange idxTriggersLastChangeTimeSec .ne 0)))

/-- The filters in the order in which they are appended. -/
def filterForms (o : TriggersQueryOption) : List (Option Text) :=
  [if o.shouldExcludeSelfMonitoring then
      some (cmpTrigger idxTriggersValidity .ne (.int TriggerValidity.validSelfMonitoring.value))
    else none,
    if o.shouldExcludeInvalidHost then
      some (cmpTrigger idxTriggersValidity .ne (.int TriggerValidity.invalid.value)) else none,
    if o.targetId ≠ allTriggers then
      some (cmpTrigger idxTriggersId .eq (.str o.targetId.text)) else none,
    if o.minSeverity ≠ triggerSeverityUnknown then
      some (cmpTrigger idxTriggersSeverity .ge (.int o.minSeverity)) else none,
    if o.triggerStatus ≠ triggerStatusAll then
      some (cmpTrigger idxTriggersStatus .eq (.int o.triggerStatus)) else none,
    if o.beginTime.sec ≠ 0 ∨ o.beginTime.nsec ≠ 0 then some o.beginTimeText else none,
    if o.endTime.sec ≠ 0 ∨ o.endTime.nsec ≠ 0 then some o.endTimeText else none,
    if o.hostnameList ≠ [] then
      some (EventsQueryOption.listText (triggersColumnName idxTriggersHostname) o.hostnameList)
    else none,
    if o.triggerBrief ≠ emptyText then
      some (cmpTrigger idxTriggersBrief .eq (.str o.triggerBrief.text)) else none]

def form (o : TriggersQueryOption) : Option Text :=
  o.filterForms.foldl (Text.glue .and) o.base.form

theorem isName_triggersColumnName (idx : Fin tableProfileTriggers.numColumns) :
    isName (triggersColumnName idx) := Column.isName_nameIn false ⟨tableProfileTriggers, idx⟩

theorem isName_triggersFullColumnName (idx : Fin tableProfileTriggers.numColumns) :
    isName (triggersFullColumnName idx) := Column.isName_nameIn true ⟨tableProfileTriggers, idx⟩

theorem denotes_beginTimeCondition (o : TriggersQueryOption) :
    Denotes o.beginTimeCondition (some o.beginTimeText) := by
  have hsec := isName_triggersColumnName idxTriggersLastChangeTimeSec
  have hns := isName_triggersColumnName idxTriggersLastChangeTimeNs
  exact EventsQueryOption.denotes_time (denotes_gt hsec o.beginTime.sec)
    (denotes_eq hsec (denotes_encInt o.beginTime.sec))
    (denotes_cmp hns opens_ge (separates rfl) (denotes_encInt o.beginTime.nsec))

theorem denotes_endTimeCondition (o : TriggersQueryOption) :
    Denotes o.endTimeCondition (some o.endTimeText) := by
  have hsec := isName_triggersColumnName idxTriggersLastChangeTimeSec
  have hns := isName_triggersColumnName idxTriggersLastChangeTimeNs
  have hop : Opens " != ".toList [.op .ne] := opens_of_run .blank rfl rfl rfl fun _ => rfl
  have hbefore := EventsQueryOption.denotes_time (denotes_lt hsec o.endTime.sec)
    (denotes_eq hsec (denotes_encInt o.endTime.sec))
    (denotes_cmp hns opens_le (separates rfl) (denotes_encInt o.endTime.nsec))
  have hchanged := (denotes_cmp hsec hop (separates rfl) (denotes_encInt 0)).paren
  have hboth := (hbefore.and hchanged).paren
  refine Eq.mp (congrArg (Denotes · _) ?_) hboth
  have hopen : "((" = "(" ++ "(" := rfl
  have hclose : ")) AND (" = "))" ++ " AND " ++ "(" := rfl
  have hend : " != 0))" = " != " ++ encInt 0 ++ ")" ++ ")" := rfl
  unfold endTimeCondition
  dsimp only
  rw [hopen, hclose, hend]
  simp only [String.append_assoc, encInt]

theorem denotes_addFilters (o : TriggersQueryOption) {condition : String} {t : Option Text}
    (hcond : Denotes condition t) :
    Denotes (o.addOwnConditions condition) (o.filterForms.foldl (Text.glue .and) t) := by
  have hcolumn := isName_triggersFullColumnName
  have hexclude (validity : TriggerValidity) : Denotes (excludeValidity validity)
      (some (cmpTrigger idxTriggersValidity .ne (.int validity.value))) :=
    denotes_cmp (hcolumn idxTriggersValidity) opens_bang (separates rfl)
      (denotes_encInt validity.value)
  have h := denotes_addAnd_if (p := o.shouldExcludeSelfMonitoring) hcond
    (hexclude .validSelfMonitoring)
  have h := denotes_addAnd_if (p := o.shouldExcludeInvalidHost) h (hexclude .invalid)
  have h := denotes_addAnd_if (p := o.targetId ≠ allTriggers) h
    (denotes_eq (hcolumn idxTriggersId) (denotes_encString o.targetId))
  have h := denotes_addAnd_if (p := o.minSeverity ≠ triggerSeverityUnknown) h
    (denotes_cmp (hcolumn idxTriggersSeverity) opens_ge (separates rfl)
      (denotes_encInt o.minSeverity))
  have h := denotes_addAnd_if (p := o.triggerStatus ≠ triggerStatusAll) h
    (denotes_eq (hcolumn idxTriggersStatus) (denotes_encInt o.triggerStatus))
  have h := denotes_addAnd_if (p := o.beginTime.sec ≠ 0 ∨ o.beginTime.nsec ≠ 0) h
    o.denotes_beginTimeCondition
  have h := denotes_addAnd_if (p := o.endTime.sec ≠ 0 ∨ o.endTime.nsec ≠ 0) h
    o.denotes_endTimeCondition
  have h := denotes_addAnd_if (p := o.hostnameList ≠ []) h
    (EventsQueryOption.denotes_makeListCondition (isName_triggersColumnName idxTriggersHostname)
      o.hostnameList)
  exact denotes_addAnd_if (p := o.triggerBrief ≠ emptyText) h
    (denotes_eq (hcolumn idxTriggersBrief) (denotes_encString o.triggerBrief))

theorem single_filterForms (o : TriggersQueryOption) :
    ∀ t, some t ∈ o.filterForms → t.isSingle ∧ t.wellFormed := by
  have hif {p : Prop} [Decidable p] {t u : Text} (ht : some t = if p then some u else none)
      (hu : p → u.isSingle ∧ u.wellFormed) : t.isSingle ∧ t.wellFormed := by
    by_cases hp : p
    · rw [if_pos hp, Option.some.injEq] at ht
      exact ht ▸ hu hp
    · simp [hp] at ht
  have hlist {column : String} {ids : List CString} (hids : ids ≠ []) :
      (EventsQueryOption.listText column ids).isSingle ∧
        (EventsQueryOption.listText column ids).wellFormed := by
    simpa [EventsQueryOption.listText, Text.isSingle, Text.wellFormed] using hids
  intro t ht
  simp only [filterForms, List.mem_cons, List.not_mem_nil, or_false] at ht
  rcases ht with h | h | h | h | h | h | h | h | h
  · exact hif h fun _ => ⟨rfl, rfl⟩
  · exact hif h fun _ => ⟨rfl, rfl⟩
  · exact hif h fun _ => ⟨rfl, rfl⟩
  · exact hif h fun _ => ⟨rfl, rfl⟩
  · exact hif h fun _ => ⟨rfl, rfl⟩
  · exact hif h fun _ => ⟨rfl, rfl⟩
  · exact hif h fun _ => ⟨rfl, rfl⟩
  · exact hif h hlist
  · exact hif h fun _ => ⟨rfl, rfl⟩

/-- No filter leaves anything out of the text. -/
theorem complete_form (o : TriggersQueryOption) :
    Text.complete o.form = Text.complete o.base.form := by
  have hfilters : o.filterForms.all Text.complete := by
    rw [List.all_eq_true]
    intro form hform
    cases form with
    | none => rfl
    | some t => exact (o.single_filterForms t hform).2
  rw [form, Text.complete_foldl_glue, hfilters, Bool.and_true]

/-! ## The columns -/

/-- The names that a condition or the statements with an aggregate function can have. -/
def plainColumns : List String :=
  ["triggers.server_id", "triggers.host_id_in_server", "hostgroup_member.host_group_id",
    "triggers.validity", "triggers.id", "triggers.severity", "triggers.status",
    "last_change_time_sec", "last_change_time_ns", "hostname", "triggers.brief"]

theorem isAmbiguous_plainColumns (o : TriggersQueryOption) :
    ∀ name ∈ plainColumns, isAmbiguous o.joinedColumns name = false := by
  unfold joinedColumns
  cases o.base.isHostgroupUsed <;> decide

theorem mem_plainColumns_of_isColumn (halways : o.base.tableNameAlways) {name : String}
    (hname : o.base.IsColumn name) : name ∈ plainColumns := by
  have hfull : (o.base.tableNameAlways || o.base.isHostgroupUsed) = true := by
    rw [halways, Bool.true_or]
  have hnames (full : Bool) (hfull : full = true) :
      Column.nameIn full synapseTriggersQueryOption.serverIdColumn ∈ plainColumns ∧
      Column.nameIn full ⟨tableProfileTriggers, ⟨7, by decide⟩⟩ ∈ plainColumns ∧
      Column.nameIn full synapseTriggersQueryOption.hostgroupIdColumn ∈ plainColumns := by
    subst hfull
    decide
  obtain ⟨base, hsynapse⟩ := o
  obtain ⟨synapse, context⟩ := base
  obtain rfl : synapse = synapseTriggersQueryOption := hsynapse
  obtain ⟨hserver, hhost, hgroup⟩ := hnames _ hfull
  rcases hname with rfl | rfl | ⟨-, rfl⟩
  · exact hserver
  · exact hhost
  · exact hgroup

theorem names_form (halways : o.base.tableNameAlways) :
    Text.Names (· ∈ plainColumns) o.form := by
  have hbase : Text.Names (· ∈ plainColumns) o.base.form := fun t ht name hname =>
    mem_plainColumns_of_isColumn halways
      (HostResourceQueryOption.names_form o.needsHostgroup t ht name hname)
  have hif {p : Prop} [Decidable p] {u : Text} (hu : ∀ name ∈ u.columns, name ∈ plainColumns) :
      Text.Names (· ∈ plainColumns) (if p then some u else none) :=
    EventsQueryOption.names_if fun _ => hu
  have hfilters : ∀ form ∈ o.filterForms, Text.Names (· ∈ plainColumns) form := by
    intro form hform
    simp only [filterForms, List.mem_cons, List.not_mem_nil, or_false] at hform
    rcases hform with rfl | rfl | rfl | rfl | rfl | rfl | rfl | rfl | rfl
    all_goals
      refine hif ?_
      simp only [cmpTrigger, beginTimeText, endTimeText, cmpChange, EventsQueryOption.listText,
        Text.columns]
      decide
  rw [Text.names_iff, form, Text.columnsOf_foldl_glue]
  intro name hname
  rcases List.mem_append.mp hname with hname | hname
  · exact Text.names_iff.mp hbase name hname
  · obtain ⟨form, hform, hname⟩ := List.mem_flatMap.mp hname
    exact Text.names_iff.mp (hfilters form hform) name hname

/-- What is written of the columns is taken exactly when nothing is left out of it. -/
theorem isAccepted_eq (o : TriggersQueryOption) {s : String} {t : Option Text} (hs : Denotes s t)
    (hnames : Text.Names (· ∈ plainColumns) t) :
    isAccepted o.joinedColumns s = Text.complete t := by
  have hplain : (Text.columnsOf t).any (isAmbiguous o.joinedColumns) = false := by
    rw [List.any_eq_false]
    intro name hname
    rw [o.isAmbiguous_plainColumns name (Text.names_iff.mp hnames name hname)]
    exact Bool.false_ne_true
  rw [isAccepted, hs.isReadable_eq, hs.namesAmbiguous_eq, hplain, Bool.not_false, Bool.and_true]

/-- The database takes the condition: it is the false one, or no list in it is empty. -/
def Taken (o : TriggersQueryOption) : Prop :=
  o.base.getCondition = .ok alwaysFalseCondition ∨ o.base.answers

theorem exists_text (halways : o.base.tableNameAlways) :
    ∃ s t, o.getCondition = .ok s ∧ Denotes s t ∧ Text.Names (· ∈ plainColumns) t ∧
      (Text.complete t ↔ o.Taken) := by
  unfold getCondition Taken
  by_cases hfalse : o.base.getCondition = .ok alwaysFalseCondition
  · have htrue : isAlwaysFalseCondition alwaysFalseCondition = true := rfl
    have hconst : Denotes alwaysFalseCondition (some (.const 0)) := denotes_const 0
    refine ⟨alwaysFalseCondition, _, ?_, hconst, ?_, iff_of_true rfl (.inl hfalse)⟩
    · rw [hfalse]
      simp only [bind, Except.bind, pure, Except.pure, htrue, if_true]
    · exact Text.names_some.mpr fun _ hname => absurd hname List.not_mem_nil
  · have hdenied : o.base.denied = false := by
      rw [Bool.eq_false_iff]
      exact fun hdenied =>
        hfalse (HostResourceQueryOption.getCondition_of_denied o.hasColumns hdenied)
    obtain ⟨s, hs, htext⟩ := HostResourceQueryOption.denotes_form o.hasColumns hdenied
    have hne : isAlwaysFalseCondition s = false := by
      rw [Bool.eq_false_iff]
      intro hcondition
      exact hfalse (hs.trans (congrArg Except.ok (beq_iff_eq.mp hcondition)))
    refine ⟨o.addOwnConditions s, o.form, ?_, o.denotes_addFilters htext, names_form halways, ?_⟩
    · rw [hs]
      simp only [bind, Except.bind, pure, Except.pure, hne, Bool.false_eq_true, if_false]
    · rw [complete_form, HostResourceQueryOption.complete_form, or_iff_right hfalse]
      simp [HostResourceQueryOption.answers, hdenied, o.hasColumns]

end TriggersQueryOption

end Hatohol

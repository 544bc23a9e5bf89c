import Hatohol.DBTablesHost
import Hatohol.HostResource.Appending
import Hatohol.HostResource.Joins

/-!
# Which hosts a query lists

The hosts that `getServerHostDefs` finds, in terms of the option and the tables: `lists` says of a
host whether it is found. Where the condition is about host groups it is one of a subquery, and a
host is found for one of its groups; a subquery with no condition is an error of the database.
-/

namespace Hatohol

open Sql DBTermCodec

namespace HostResourceQueryOption

variable {o : HostResourceQueryOption}

/-- Nothing is asked of a row: no server is left out, the user may see all of them, and neither a
    target nor a filter is set. -/
def isUnrestricted (o : HostResourceQueryOption) : Bool :=
  !o.excludeDefunctServers && (o.has .getAllServer || o.seesAllServers) &&
    o.targetServerId == allServers && o.targetHostId == allLocalHosts &&
    o.targetHostgroupId == allHostGroups && o.emptyFilters.all id

theorem isSome_validForm : o.validForm.isSome = o.excludeDefunctServers := by
  unfold validForm
  cases o.excludeDefunctServers <;> rfl

theorem isSome_allowedForm : o.allowedForm.isSome = !o.seesAllServers := by
  unfold allowedForm wrapIf
  cases hall : o.seesAllServers with
  | true => rfl
  | false =>
    rw [if_neg Bool.false_ne_true]
    split
    · rfl
    · rename_i hlen
      have hne : o.entries ≠ [] := by
        intro hnil
        exact hlen (by simp [hnil])
      simpa using hne

theorem isSome_targetForm : o.targetForm.isSome = !o.targetTexts.isEmpty := by
  unfold targetForm
  rw [Option.isSome_map, Text.isSome_chain]

theorem isSome_filterForm (hterms : o.hasTerms) :
    o.filterForm.isSome = !o.emptyFilters.all id := by
  have hflat := isSome_flatForm o
  rw [numFilters_eq hterms] at hflat
  have hwrap : o.filterForm.isSome = o.flatForm.isSome := by
    unfold filterForm wrapIf
    split
    · rename_i hmany
      have hsome := (isSome_flatForm o).mpr (Nat.lt_of_succ_lt (of_decide_eq_true hmany))
      rw [hsome]
      rfl
    · rfl
  rw [hwrap, Bool.eq_iff_iff, hflat, List.count_pos_iff]
  simp

/-- The condition is empty exactly where nothing is asked. -/
theorem isSome_form (hterms : o.hasTerms) : o.form.isSome = !o.isUnrestricted := by
  have hallowed : (if o.has .getAllServer then none else o.allowedForm).isSome =
      !(o.has .getAllServer || o.seesAllServers) := by
    cases o.has .getAllServer with
    | true => rfl
    | false => simpa using isSome_allowedForm
  have htargets : o.targetTexts.isEmpty = (o.targetServerId == allServers &&
      o.targetHostId == allLocalHosts && o.targetHostgroupId == allHostGroups) := by
    unfold targetTexts
    by_cases hserver : o.targetServerId = allServers <;>
      by_cases hhost : o.targetHostId = allLocalHosts <;>
        by_cases hgroup : o.targetHostgroupId = allHostGroups <;>
          simp [hserver, hhost, hgroup]
  rw [form, baseForm, Text.isSome_glue, Text.isSome_glue, Text.isSome_glue, isSome_validForm,
    hallowed, isSome_targetForm, isSome_filterForm hterms, htargets, isUnrestricted]
  simp only [Bool.not_and, Bool.not_or, Bool.not_not, Bool.or_assoc]

/-- A user who may see nothing gets the false condition. -/
theorem getCondition_of_denied (h : o.hasColumns) (hdenied : o.denied) :
    o.getCondition = .ok alwaysFalseCondition := by
  have hprivilege : o.has .getAllServer = false := by
    simp only [denied, Bool.and_eq_true] at hdenied
    simpa using hdenied.1
  obtain ⟨column, hcolumn⟩ := unusedHostIdColumnName_of_hasColumns h
  have hfalse : isAlwaysFalseCondition alwaysFalseCondition = true := rfl
  unfold getCondition
  rw [hprivilege, makeConditionAllowedHosts_eq hcolumn hprivilege, hdenied]
  simp [bind, Except.bind, hfalse, pure, Except.pure]

end HostResourceQueryOption

theorem HostStatus.value_inj {a b : HostStatus} : a.value = b.value ↔ a = b := by
  cases a <;> cases b <;> simp [HostStatus.value]

theorem HostStatus.compare_def (a b : HostStatus) : compare a b = compare a.value b.value := rfl

instance : Std.TransOrd HostStatus where
  eq_swap := by
    intro a b
    rw [HostStatus.compare_def, HostStatus.compare_def]
    exact Std.OrientedCmp.eq_swap
  isLE_trans := by
    intro a b c hab hbc
    rw [HostStatus.compare_def] at hab hbc ⊢
    exact Std.TransCmp.isLE_trans hab hbc

instance : Std.LawfulEqOrd HostStatus where
  eq_of_compare h := HostStatus.value_inj.mp
    (Std.LawfulEqCmp.eq_of_compare (by rwa [HostStatus.compare_def] at h))

/-- The host with one of its host groups, as a condition sees it. -/
def ServerHostDef.rowIn (h : ServerHostDef) (hostgroupId : HostgroupIdType) : HostRow :=
  ⟨h.serverId, h.hostIdInServer, hostgroupId⟩

namespace HostsQueryOption

variable (o : HostsQueryOption)

/-- The condition of the query says this of a host with one of its host groups. What leaks from the
    filters escapes the filter for the status, the last alternative apart. -/
def passes (r : HostRow) (status : HostStatus) : Bool :=
  o.base.answers &&
    if o.statuses.contains .all then (o.base.inBase r && o.base.passesFilters r) || o.base.leaks r
    else !o.statuses.isEmpty && (o.base.escapes r ||
      (((o.base.inBase r && o.base.passesFilters r) || o.base.leaks r) &&
        o.statuses.contains status))

/-- The condition of the query is empty. -/
def isUnrestricted : Bool := o.base.isUnrestricted && o.statuses.contains .all

/-- The query finds the host. -/
def lists (members : List HostgroupMember) (h : ServerHostDef) : Bool :=
  if o.base.isHostgroupUsed then
    !o.isUnrestricted && members.any fun member =>
      h.hostId == member.hostId && o.passes (h.rowIn member.hostgroupIdInServer) h.status
  else o.passes (h.rowIn allHostGroups) h.status

/-! ## The text of the condition -/

def statusForm : Option Text :=
  if o.statuses.contains .all then none
  else some (.inList statusColumnName (o.statuses.toList.map fun status => .int status.value))

def form : Option Text :=
  Text.glue .and (if o.base.denied then some (.const 0) else o.base.form) o.statusForm

theorem hasColumns : o.base.hasColumns := by
  have hidx : o.base.synapse.hostIdColumnIdx.isSome := by
    rw [o.isHosts]
    rfl
  rw [HostResourceQueryOption.hasColumns, hidx, Bool.true_or]

theorem getCondition_eq : ∃ s, o.getCondition = .ok s ∧ Denotes s o.form := by
  have hbase : ∃ s, o.base.getCondition = .ok s ∧
      Denotes s (if o.base.denied then some (.const 0) else o.base.form) := by
    cases hdenied : o.base.denied with
    | true =>
      exact ⟨_, HostResourceQueryOption.getCondition_of_denied o.hasColumns hdenied,
        denotes_const 0⟩
    | false => exact HostResourceQueryOption.denotes_form o.hasColumns hdenied
  obtain ⟨s, hs, hdenotes⟩ := hbase
  unfold getCondition form statusForm
  rw [hs]
  split
  · exact ⟨s, rfl, denotes_addAnd hdenotes (show Denotes "" none from rfl)⟩
  · have hname : isName statusColumnName := by decide
    have hstatuses := denotes_inList hname opens_in (separates rfl)
      (fun status : HostStatus => encInt status.value) (fun status => .int status.value)
      (fun status => denotes_encInt status.value) o.statuses.toList
    exact ⟨_, rfl, denotes_addAnd hdenotes hstatuses⟩

theorem complete_statusForm :
    Text.complete o.statusForm = (o.statuses.contains .all || !o.statuses.isEmpty) := by
  unfold statusForm
  cases o.statuses.contains .all with
  | true => rfl
  | false =>
    rw [if_neg Bool.false_ne_true, Text.complete_some, Bool.false_or, ← Std.TreeSet.isEmpty_toList]
    cases o.statuses.toList <;> rfl

theorem alts_statusForm {row : String → Value} {status : HostStatus}
    (hstatus : row statusColumnName = .int status.value) : Text.alts row o.statusForm =
      if o.statuses.contains .all then [] else [o.statuses.contains status] := by
  unfold statusForm
  cases o.statuses.contains .all with
  | true => rfl
  | false =>
    have hmem : (o.statuses.toList.map fun status => Literal.int status.value).any
        (fun l => row statusColumnName == l.value) = o.statuses.contains status := by
      rw [Bool.eq_iff_iff]
      simp [hstatus, Literal.value, HostStatus.value_inj]
    simp only [Bool.false_eq_true, if_false, Text.alts, Text.alternatives, Text.holds_inList, hmem]

theorem picks_form {row : String → Value} {r : HostRow} {status : HostStatus}
    (hrow : o.base.HasRow row r) (hstatus : row statusColumnName = .int status.value) :
    (Text.complete o.form && picks (Text.alts row o.form)) = o.passes r status := by
  rw [form, Text.complete_glue_and, Text.alts_glue_and, complete_statusForm,
    o.alts_statusForm hstatus, passes]
  cases hdenied : o.base.denied with
  | true =>
    have hanswers : o.base.answers = false := by
      simp [HostResourceQueryOption.answers, hdenied]
    have hzero : Text.alts row (some (.const 0)) = [false] := rfl
    rw [if_pos rfl, hanswers, hzero]
    cases o.statuses.contains .all with
    | true => simp [picks]
    | false => simp [picks, conjoin]
  | false =>
    have hshows := (o.base.shows_eq row).symm.trans (HostResourceQueryOption.shows_row hrow)
    rw [hdenied, o.hasColumns] at hshows
    rw [if_neg Bool.false_ne_true]
    cases hall : o.statuses.contains .all with
    | true => simpa using hshows
    | false =>
      have hcomplete : Text.complete o.base.form = o.base.answers := by
        rw [HostResourceQueryOption.complete_form]
        simp [HostResourceQueryOption.answers, hdenied, o.hasColumns]
      rw [hcomplete] at hshows ⊢
      cases hanswers : o.base.answers with
      | false => simp
      | true =>
        -- the filter for the status is bound to the last alternative
        have hescapes := HostResourceQueryOption.dropLast_form hanswers hrow
        rw [hanswers] at hshows
        simp only [Bool.not_false, Bool.true_and] at hshows
        have hlast := picks_eq_dropLast (Text.alts row o.base.form)
        rw [hshows, hescapes] at hlast
        simp only [Bool.false_eq_true, if_false, Bool.false_or, Bool.true_and, picks_conjoin_last,
          hescapes, hlast]
        cases o.base.escapes r <;> simp

/-! ## The rows of the query -/

/-- The columns of the host have their values with and without a host group. -/
theorem value_columns (h : ServerHostDef) (member : Option HostgroupMember) :
    h.value member o.base.getServerIdColumnName = .int h.serverId ∧
      h.value member o.base.hostIdColumn = .str h.hostIdInServer.text := by
  obtain ⟨base, hsynapse, statuses⟩ := o
  obtain ⟨synapse, context⟩ := base
  obtain rfl : synapse = synapseHostsQueryOption := hsynapse
  have hserver (full : Bool) : h.value member
      (Column.nameIn full synapseHostsQueryOption.serverIdColumn) = .int h.serverId := by
    cases full <;> rfl
  have hhost (full : Bool) : h.value member
      (Column.nameIn full ⟨tableProfileServerHostDef, ⟨3, by decide⟩⟩) =
        .str h.hostIdInServer.text := by
    cases full <;> rfl
  exact ⟨hserver _, hhost _⟩

theorem statusColumnName_ne : statusColumnName ≠ o.base.getServerIdColumnName ∧
    statusColumnName ≠ o.base.getHostgroupIdColumnName ∧
    statusColumnName ≠ o.base.hostIdColumn := by
  obtain ⟨base, hsynapse, statuses⟩ := o
  obtain ⟨synapse, context⟩ := base
  obtain rfl : synapse = synapseHostsQueryOption := hsynapse
  have hnames (full : Bool) :
      statusColumnName ≠ Column.nameIn full synapseHostsQueryOption.serverIdColumn ∧
      statusColumnName ≠ Column.nameIn full synapseHostsQueryOption.hostgroupIdColumn ∧
      statusColumnName ≠ Column.nameIn full ⟨tableProfileServerHostDef, ⟨3, by decide⟩⟩ := by
    cases full <;> decide
  exact hnames _

theorem hasRow_value (hused : o.base.isHostgroupUsed) (h : ServerHostDef)
    (member : HostgroupMember) :
    o.base.HasRow (h.value (some member)) (h.rowIn member.hostgroupIdInServer) where
  server := (o.value_columns h _).1
  hostgroup _ := by
    have hcolumn : o.base.getHostgroupIdColumnName = "hostgroup_member.host_group_id" := by
      rw [HostResourceQueryOption.getHostgroupIdColumnName,
        HostResourceQueryOption.getColumnNameCommon, o.isHosts, hused, Bool.or_true]
      rfl
    rw [hcolumn]
    rfl
  host _ := (o.value_columns h _).2

/-- Without host groups the condition says the same of a row in any host group. -/
theorem selects_of_unused (hused : o.base.isHostgroupUsed = false) {s : String}
    (hs : Denotes s o.form) (h : ServerHostDef) (hostgroupId : HostgroupIdType) :
    selects s (h.value none) = o.passes (h.rowIn hostgroupId) h.status := by
  have hneed : o.base.synapse.needToJoinHostgroup := by
    rw [o.isHosts]
    rfl
  have hrow := o.base.hasRow_rowOf (h.rowIn hostgroupId) (h.value none)
  have hidx : o.base.synapse.hostIdColumnIdx.isSome := by
    rw [o.isHosts]
    rfl
  have hnames : Text.Names (fun name => o.base.IsColumn name ∨ name = statusColumnName) o.form := by
    unfold form statusForm
    refine Text.Names.glue_and ?_ ?_
    · split
      · exact Text.names_some.mpr fun _ hname => absurd hname List.not_mem_nil
      · intro t ht name hname
        exact .inl (HostResourceQueryOption.names_form hneed t ht name hname)
    · split
      · exact Text.names_none
      · exact Text.names_some.mpr fun name hname => .inr (List.mem_singleton.mp hname)
  have hstatus : o.base.rowOf (h.rowIn hostgroupId) (h.value none) statusColumnName =
      .int h.status.value := by
    obtain ⟨hserver, hgroup, hhost⟩ := o.statusColumnName_ne
    simp only [HostResourceQueryOption.rowOf, hserver, hgroup, hhost, if_false]
    rfl
  have hagree : ∀ name, o.base.IsColumn name ∨ name = statusColumnName →
      h.value none name = o.base.rowOf (h.rowIn hostgroupId) (h.value none) name := by
    rintro name ((rfl | rfl | ⟨htrue, -⟩) | rfl)
    · exact (o.value_columns h none).1.trans hrow.server.symm
    · exact (o.value_columns h none).2.trans (hrow.host hidx).symm
    · rw [hused] at htrue
      cases htrue
    · exact hstatus.symm
  rw [hs.selects_eq, hnames.alts_congr hagree, o.picks_form hrow hstatus]

/-- A condition in parentheses, as it stands in the subquery. -/
theorem selects_of_used (hused : o.base.isHostgroupUsed) {s : String} (hs : Denotes s o.form)
    (h : ServerHostDef) (member : HostgroupMember) :
    selects ("(" ++ s ++ ")") (h.value (some member)) =
      (!o.isUnrestricted && o.passes (h.rowIn member.hostgroupIdInServer) h.status) := by
  have hstatus : h.value (some member) statusColumnName = .int h.status.value := rfl
  have hpicks := o.picks_form (o.hasRow_value hused h member) hstatus
  have hform : (o.form.isSome && o.passes (h.rowIn member.hostgroupIdInServer) h.status) =
      (!o.isUnrestricted && o.passes (h.rowIn member.hostgroupIdInServer) h.status) := by
    cases hpasses : o.passes (h.rowIn member.hostgroupIdInServer) h.status with
    | false => simp
    | true =>
      have hanswers : o.base.answers := by
        rw [passes, Bool.and_eq_true] at hpasses
        exact hpasses.1
      simp only [HostResourceQueryOption.answers, Bool.and_eq_true, Bool.not_eq_true'] at hanswers
      rw [form, hanswers.1.1.1, if_neg Bool.false_ne_true, Text.isSome_glue,
        HostResourceQueryOption.isSome_form hanswers.2, isUnrestricted, statusForm]
      cases o.statuses.contains .all <;> simp
  rw [hs.wrap.selects_eq, Text.complete_some, Text.wellFormed_wrap, ← hform, ← hpicks]
  cases hsome : o.form.isSome with
  | false => simp
  | true =>
    cases hcomplete : Text.complete o.form with
    | false => simp
    | true =>
      have hne : Text.alts (h.value (some member)) o.form ≠ [] := by
        rw [Ne, Text.alts_eq_nil, ← Ne, ← Option.isSome_iff_ne_none]
        exact hsome
      rw [Text.alts_wrap _ hsome hcomplete]
      simp [picks, hne]

end HostsQueryOption

/-- The hosts that a query finds. -/
theorem HostTables.getServerHostDefs_eq (t : HostTables) (option : HostsQueryOption) :
    t.getServerHostDefs option =
      .ok (t.serverHostDef.rows.filter (option.lists t.hostgroupMember)) := by
  obtain ⟨s, hs, hform⟩ := option.getCondition_eq
  unfold getServerHostDefs HostsQueryOption.lists
  rw [hs]
  cases hused : option.base.isHostgroupUsed with
  | true =>
    simp only [bind, Except.bind, pure, Except.pure, if_true]
    refine congrArg Except.ok (List.filter_congr fun h _ => ?_)
    simp only [option.selects_of_used hused hform]
    cases option.isUnrestricted <;> simp
  | false =>
    simp only [bind, Except.bind, pure, Except.pure, Bool.false_eq_true, if_false]
    exact congrArg Except.ok (List.filter_congr fun h _ =>
      option.selects_of_unused hused hform h allHostGroups)

namespace HostTables

/-! ## The number of hosts -/

def idxHostServerHostDefId : Fin tableProfileServerHostDef.numColumns := ⟨0, by decide⟩

/-- (DBTablesHost.cc:1364-1378) The number of distinct values of the column. The option names the
    column; its condition is not set, so it is the empty one. -/
def getNumberOfHosts (t : HostTables) (option : HostsQueryOption) : Nat :=
  let column := option.base.getColumnNameCommon ⟨tableProfileServerHostDef, idxHostServerHostDefId⟩
  ((t.serverHostDef.rows.filter fun h => selects "" (h.value none)).map
    (·.value none column)).dedup.length

/-- Every host is counted. -/
theorem getNumberOfHosts_eq_length (t : HostTables) (option : HostsQueryOption) :
    t.getNumberOfHosts option = t.serverHostDef.rows.length := by
  have hall : (t.serverHostDef.rows.filter fun h => selects "" (h.value none)) =
      t.serverHostDef.rows :=
    List.filter_eq_self.mpr fun h _ => Denotes.selects_all rfl _
  have hcolumn (full : Bool) (h : ServerHostDef) :
      h.value none (Column.nameIn full ⟨tableProfileServerHostDef, idxHostServerHostDefId⟩) =
        .int h.id := by
    cases full <;> rfl
  have hnodup : (t.serverHostDef.rows.map fun h => Value.int h.id).Nodup := by
    have hids := t.serverHostDef.unique_id.map (f := fun n : Nat => Value.int n) fun m n heq =>
      Int.ofNat.inj (Value.int.inj heq)
    rwa [List.map_map] at hids
  unfold getNumberOfHosts HostResourceQueryOption.getColumnNameCommon
  simp only [hall, hcolumn]
  rw [hnodup.dedup, List.length_map]

/-- One host of each of two servers. -/
def twoServersTables : HostTables where
  hostList := ⟨[⟨1, .ofString "web"⟩, ⟨2, .ofString "db"⟩], 3, by decide, by decide⟩
  serverHostDef := ⟨⟨[⟨1, 1, 1, .ofString "7", .ofString "web", .normal⟩,
    ⟨2, 2, 2, .ofString "9", .ofString "db", .normal⟩], 3, by decide, by decide⟩, by decide⟩
  hostgroupMember := []
  named := by decide

/-- The hosts of server 1, asked for by the server itself. -/
def firstServerHosts : HostsQueryOption where
  base := { HostResourceQueryOption.new synapseHostsQueryOption (systemContext {1, 2}) with
    targetServerId := 1 }
  isHosts := rfl
  statuses := {.all}

end HostTables

end Hatohol

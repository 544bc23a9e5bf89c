import Hatohol.HostResource.Filters
import Hatohol.Rest.HostFilters

/-!
# Queries by the name of a host group

What `parseHostgroupNameParameter` adds to a query. The host groups that have the name take the place of
the selected ones, which are one alternative of the filters beside the servers and the hosts, and no host
group at all is no filter.
-/

namespace Hatohol

open Sql DBTermCodec Table

namespace RestResourceUtils

/-! ## The host groups of a name -/

/-- The host group as the query for host groups sees it, which has no column for a host. -/
def groupRow (hostgroup : Hostgroup) : HostRow :=
  ⟨hostgroup.serverId, allLocalHosts, hostgroup.idInServer⟩

/-- The query for host groups, before the name is asked for. -/
abbrev hostgroupsQuery (context : DataQueryContext) : HostResourceQueryOption :=
  .new synapseHostgroupsQueryOption context

/-- The user may see the host group. -/
def isVisible (context : DataQueryContext) (hostgroup : Hostgroup) : Bool :=
  (hostgroupsQuery context).asksFor (groupRow hostgroup)

def namedHostgroups (t : HostgroupTables) (context : DataQueryContext) (hostgroupName : CString) :
    List Hostgroup :=
  t.hostgroupList.rows.filter fun hostgroup =>
    isVisible context hostgroup && hostgroup.name == hostgroupName

/-- The host groups of the name by their servers. -/
def namedMap (t : HostgroupTables) (context : DataQueryContext) (hostgroupName : CString) :
    ServerHostGrpSetMap :=
  (namedHostgroups t context hostgroupName).foldl
    (fun map hostgroup => insertId map hostgroup.serverId hostgroup.idInServer) ∅

theorem any_foldl_insertId (hostgroups : List Hostgroup) (serverId : ServerIdType)
    (id : HostgroupIdType) : ∀ map : ServerHostGrpSetMap,
    (hostgroups.foldl (fun map hostgroup => insertId map hostgroup.serverId hostgroup.idInServer)
        map)[serverId]?.any (·.contains id) ↔
      (∃ hostgroup ∈ hostgroups, hostgroup.key = (serverId, id)) ∨
        map[serverId]?.any (·.contains id) := by
  induction hostgroups with
  | nil => intro map; simp
  | cons hostgroup hostgroups ih =>
    intro map
    rw [List.foldl_cons, ih, any_insertId, List.exists_mem_cons_iff, Hostgroup.key, Prod.mk.injEq,
      eq_comm (a := serverId), eq_comm (a := id), ← or_assoc]
    exact or_congr_left (or_comm)

/-- A pair is in the map if a host group that the user may see has the name. -/
theorem any_namedMap (t : HostgroupTables) (context : DataQueryContext) (hostgroupName : CString)
    (serverId : ServerIdType) (id : HostgroupIdType) :
    (namedMap t context hostgroupName)[serverId]?.any (·.contains id) ↔
      ∃ hostgroup ∈ namedHostgroups t context hostgroupName, hostgroup.key = (serverId, id) :=
  (any_foldl_insertId _ _ _ ∅).trans (or_iff_left (by simp))

/-- No server of the map is without a host group. -/
theorem exists_of_contains_namedMap {t : HostgroupTables} {context : DataQueryContext}
    {hostgroupName : CString} {serverId : ServerIdType}
    (hcontains : (namedMap t context hostgroupName).contains serverId) :
    ∃ hostgroup ∈ namedHostgroups t context hostgroupName, hostgroup.serverId = serverId := by
  have hall : ∀ (hostgroups : List Hostgroup) (map : ServerHostGrpSetMap),
      (hostgroups.foldl (fun map hostgroup => insertId map hostgroup.serverId hostgroup.idInServer)
        map).contains serverId ↔
        (∃ hostgroup ∈ hostgroups, hostgroup.serverId = serverId) ∨ map.contains serverId := by
    intro hostgroups
    induction hostgroups with
    | nil => intro map; simp
    | cons hostgroup hostgroups ih =>
      intro map
      rw [List.foldl_cons, ih, contains_insertId, List.exists_mem_cons_iff, eq_comm (a := serverId),
        ← or_assoc]
      exact or_congr_left (or_comm)
  exact ((hall _ ∅).mp hcontains).resolve_right (by simp)

section HostgroupsQuery

variable (context : DataQueryContext)

theorem hasNoFilters_hostgroupsQuery : (hostgroupsQuery context).hasNoFilters := by rfl

theorem hasColumns_hostgroupsQuery : (hostgroupsQuery context).hasColumns := by
  simp [HostResourceQueryOption.hasColumns, HostResourceQueryOption.namesHost, hostgroupsQuery,
    HostResourceQueryOption.new]

theorem hasRow_hostgroupsQuery (hostgroup : Hostgroup) :
    (hostgroupsQuery context).HasRow hostgroup.value (groupRow hostgroup) where
  server := rfl
  hostgroup _ := rfl
  host h := absurd h Bool.false_ne_true

/-- Without targets the access list lets through what it grants. -/
theorem isAllowed_hostgroupsQuery (r : HostRow) : (hostgroupsQuery context).isAllowed r =
    ((hostgroupsQuery context).has .getAllServer || (hostgroupsQuery context).grants r) := by
  rw [HostResourceQueryOption.isAllowed, HostResourceQueryOption.grants, Bool.or_assoc]
  congr 1
  have hsees : (hostgroupsQuery context).seesAllServers =
      (hostgroupsQuery context).getAllowedServersAndHostgroups.contains allServers := rfl
  rw [hsees]
  congr 1
  rw [Bool.eq_iff_iff, List.any_eq_true, Option.any_eq_true]
  have hshows : ∀ entry, (hostgroupsQuery context).entryShows r entry =
      (r.serverId == entry.1 && (entry.2.contains allHostGroups || entry.2.contains r.hostgroupId)) :=
    fun entry => by
      rw [HostResourceQueryOption.entryShows]
      exact congrArg _ (if_pos rfl)
  constructor
  · rintro ⟨entry, hentry, hrow⟩
    rw [hshows, Bool.and_eq_true, beq_iff_eq, Bool.or_comm] at hrow
    rw [hrow.1]
    exact ⟨entry.2, (HostResourceQueryOption.mem_entries.mp hentry).1, hrow.2⟩
  · rintro ⟨ids, hids, hrow⟩
    refine ⟨(r.serverId, ids), HostResourceQueryOption.mem_entries.mpr ⟨hids, .inl rfl⟩, ?_⟩
    rw [hshows, Bool.and_eq_true, beq_iff_eq, Bool.or_comm]
    exact ⟨rfl, hrow⟩

theorem inBase_hostgroupsQuery (r : HostRow) :
    (hostgroupsQuery context).inBase r = (hostgroupsQuery context).asksFor r := by
  rw [HostResourceQueryOption.inBase, HostResourceQueryOption.asksFor, isAllowed_hostgroupsQuery]
  rfl

/-- The condition of the query for the host groups of a name. -/
def nameForm (hostgroupName : CString) : Option Text :=
  Text.glue .and
    (if (hostgroupsQuery context).denied then some (.const 0) else (hostgroupsQuery context).form)
    (some (.cmp "name" .eq (.str hostgroupName.text)))

theorem denotes_nameForm {hostgroupName : CString} (hname : hostgroupName ≠ emptyText) :
    ∃ condition, HostgroupsQueryOption.getCondition
        ⟨hostgroupsQuery context, rfl, hostgroupName⟩ = .ok condition ∧
      Denotes condition (nameForm context hostgroupName) := by
  obtain ⟨condition, hcondition, hdenotes⟩ : ∃ condition,
      (hostgroupsQuery context).getCondition = .ok condition ∧ Denotes condition
        (if (hostgroupsQuery context).denied then some (.const 0)
          else (hostgroupsQuery context).form) := by
    cases hdenied : (hostgroupsQuery context).denied with
    | false =>
      exact HostResourceQueryOption.denotes_form (hasColumns_hostgroupsQuery context) hdenied
    | true =>
      have hprivilege : (hostgroupsQuery context).has .getAllServer = false := by
        simp only [HostResourceQueryOption.denied, Bool.and_eq_true, Bool.not_eq_true'] at hdenied
        exact hdenied.1
      refine ⟨alwaysFalseCondition, ?_, denotes_const 0⟩
      have hcolumn : (hostgroupsQuery context).unusedHostIdColumnName = .ok "" := rfl
      have hallowed := HostResourceQueryOption.makeConditionAllowedHosts_eq hcolumn hprivilege
      rw [hdenied, if_pos rfl] at hallowed
      rw [HostResourceQueryOption.getCondition, hprivilege]
      simp only [Bool.false_eq_true, if_false, hallowed, bind, Except.bind]
      rfl
  refine ⟨addAnd condition ("name" ++ "=" ++ encString hostgroupName), ?_,
    denotes_addAnd hdenotes (denotes_eq (by decide) (denotes_encString hostgroupName))⟩
  simp only [HostgroupsQueryOption.getCondition, hcondition, bind, Except.bind, ne_eq, hname,
    not_false_eq_true, if_true]
  rfl

/-- The rows of the name that the user may see. -/
theorem selects_nameForm {hostgroupName : CString} {condition : String}
    (hdenotes : Denotes condition (nameForm context hostgroupName))
    (hcomplete : (hostgroupsQuery context).denied = false →
      (hostgroupsQuery context).hasEntries = true) (hostgroup : Hostgroup) :
    selects condition hostgroup.value =
      (isVisible context hostgroup && hostgroup.name == hostgroupName) := by
  rw [hdenotes.selects_eq, nameForm, Text.complete_glue_and, Text.alts_glue_and]
  have hname : Text.alts hostgroup.value (some (.cmp "name" .eq (.str hostgroupName.text))) =
      [hostgroup.name == hostgroupName] := by
    have hvalue : hostgroup.value "name" = .str hostgroup.name.text := rfl
    rw [Text.alts, Text.alternatives_single _ rfl, Text.holds_cmp, hvalue,
      Text.compareValue_eq_str, CString.text_beq]
  cases hdenied : (hostgroupsQuery context).denied with
  | true =>
    have hhidden : isVisible context hostgroup = false := by
      simp only [HostResourceQueryOption.denied, Bool.and_eq_true, Bool.not_eq_true'] at hdenied
      obtain ⟨hprivilege, hempty⟩ := hdenied
      have hnone : (hostgroupsQuery context).getAllowedServersAndHostgroups.isEmpty := by
        simpa [HostResourceQueryOption.new] using hempty
      have hgrants : (hostgroupsQuery context).grants (groupRow hostgroup) = false := by
        have hget := Std.TreeMap.getElem?_of_isEmpty (a := hostgroup.serverId) hnone
        have hcontains := Std.TreeMap.contains_of_isEmpty (a := allServers) hnone
        simp [HostResourceQueryOption.grants, hget, hcontains, groupRow]
      rw [isVisible, HostResourceQueryOption.asksFor, hprivilege, hgrants]
      simp
    have hfalse : Text.alts hostgroup.value (some (.const 0)) = [false] := rfl
    rw [hhidden, if_pos rfl, hname, hfalse]
    simp [picks, conjoin]
  | false =>
    obtain ⟨hterms, hpasses, hgroups, hhosts⟩ :=
      HostResourceQueryOption.noFilters_spec (hasNoFilters_hostgroupsQuery context)
    have hcolumns := hasColumns_hostgroupsQuery context
    have hrow := hasRow_hostgroupsQuery context hostgroup
    have hentries := hcomplete hdenied
    obtain ⟨hlen, hbase⟩ := HostResourceQueryOption.alts_baseForm hcolumns hrow
      ((HostResourceQueryOption.complete_baseForm _).trans hentries)
    have hlen' := HostResourceQueryOption.length_alts_filterForm hcolumns hrow hterms hgroups hhosts
    have hform : Text.complete (hostgroupsQuery context).form = true := by
      rw [HostResourceQueryOption.complete_form, hentries, hterms]
      rfl
    rw [if_neg Bool.false_ne_true, hform, hname, HostResourceQueryOption.form, Text.alts_glue_and,
      picks_conjoin_single (length_conjoin_le hlen hlen') (by simp),
      picks_conjoin_single hlen hlen', hbase,
      HostResourceQueryOption.picks_filterForm hcolumns hrow hterms, hpasses,
      inBase_hostgroupsQuery]
    simp [picks, isVisible, Text.wellFormed]

end HostgroupsQuery

/-- The statement is refused, or it gives the host groups of the name. -/
theorem getServerHostGrpSetMap_eq (t : HostgroupTables) (context : DataQueryContext)
    {hostgroupName : CString} (hname : hostgroupName ≠ emptyText) :
    getServerHostGrpSetMap t ⟨hostgroupsQuery context, rfl, hostgroupName⟩ =
      if (hostgroupsQuery context).denied || (hostgroupsQuery context).hasEntries then
        .ok (namedMap t context hostgroupName)
      else .error ⟨"Failed to query: SELECT server_id,id_in_server FROM hostgroup_list"⟩ := by
  obtain ⟨condition, hcondition, hdenotes⟩ := denotes_nameForm context hname
  have hterms := (HostResourceQueryOption.noFilters_spec (hasNoFilters_hostgroupsQuery context)).1
  have hreadable : isReadable condition =
      ((hostgroupsQuery context).denied || (hostgroupsQuery context).hasEntries) := by
    rw [hdenotes.isReadable_eq, nameForm, Text.complete_glue_and]
    cases hdenied : (hostgroupsQuery context).denied with
    | true => rfl
    | false =>
      rw [if_neg Bool.false_ne_true, HostResourceQueryOption.complete_form, hterms]
      simp [Text.wellFormed]
  rw [getServerHostGrpSetMap]
  simp only [hcondition, bind, Except.bind, hreadable]
  cases htaken : (hostgroupsQuery context).denied || (hostgroupsQuery context).hasEntries with
  | false => rfl
  | true =>
    have hcomplete : (hostgroupsQuery context).denied = false →
        (hostgroupsQuery context).hasEntries = true := by
      intro hdenied
      rwa [hdenied, Bool.false_or] at htaken
    have hrows := List.filter_congr (l := t.hostgroupList.rows)
      fun hostgroup _ => selects_nameForm context hdenotes hcomplete hostgroup
    simp only [hrows]
    rfl

end RestResourceUtils

namespace HostResourceQueryOption

/-! ## The filters with the host groups of a name -/

/-- The selected host groups are replaced. -/
def withHostgroups (o : HostResourceQueryOption) (named : ServerHostGrpSetMap) :
    HostResourceQueryOption :=
  { o with selectedServerHostgroupSetMap := named }

/-- The row passes the filters as they are meant: it is selected, if anything is, and not excluded. -/
def meetsFilters (o : HostResourceQueryOption) (r : HostRow) : Bool :=
  ((o.selectedServerIdSet.isEmpty && o.selectedServerHostgroupSetMap.isEmpty &&
      o.selectedServerHostSetMap.isEmpty) ||
    (o.selectedServerIdSet.contains r.serverId ||
      o.selectedServerHostgroupSetMap[r.serverId]?.any (·.contains r.hostgroupId) ||
      o.selectedServerHostSetMap[r.serverId]?.any (·.contains r.hostId))) && !o.excludes r

/-- The host groups become a filter: there are some, and the user may see all servers. The host groups of
    all others are dropped. -/
def filtersByName (o : HostResourceQueryOption) (named : ServerHostGrpSetMap) : Bool :=
  (o.has .getAllServer || o.getAllowedServersAndHostgroups.contains allServers) && !named.isEmpty

/-- The row is let through by the servers or the hosts. -/
def passesBesides (o : HostResourceQueryOption) (r : HostRow) : Bool :=
  (!(o.selectedServers.isEmpty && o.excludedServers.isEmpty) && o.passesServers r) ||
    o.freeHosts.any r.hasHost || (o.boundHosts.any r.hasHost && !o.excludedHosts.any r.hasHost)

/-- The row is let through by the selected host groups. The excluded host groups are bound to the last of
    them, and so are the excluded hosts if no host is selected. -/
def passesHostgroups (o : HostResourceQueryOption) (r : HostRow) : Bool :=
  o.freeHostgroups.any r.hasHostgroup ||
    (o.boundHostgroups.any r.hasHostgroup && !o.excludedHostgroups.any r.hasHostgroup &&
      (!o.selectedHosts.isEmpty || !o.excludedHosts.any r.hasHost))

theorem passesFilters_selected {o : HostResourceQueryOption} (hterms : o.hasTerms)
    (hgroups : o.selectedHostgroups ≠ []) (r : HostRow) :
    o.passesFilters r = (o.passesBesides r || o.passesHostgroups r) := by
  by_cases hhosts : o.selectedHosts = []
  · have hfree : o.freeHosts = [] := by
      rw [freeHosts, hhosts, freePairs]
      split <;> rfl
    have hbound : o.boundHosts = [] := by
      rw [boundHosts, hhosts, boundPairs]
      split <;> rfl
    rw [passesFilters_hostgroups hgroups ((terms_of_nil hterms r).2 hhosts), passesBesides,
      passesHostgroups, hfree, hbound, hhosts]
    simp [Bool.or_assoc]
  · rw [passesFilters_both hgroups hhosts, passesBesides, passesHostgroups,
      List.isEmpty_eq_false_iff.mpr hhosts]
    simp only [Bool.not_false, Bool.true_or, Bool.and_true]
    ac_rfl

section WithHostgroups

variable {o : HostResourceQueryOption} {named : ServerHostGrpSetMap}

theorem mem_leftPairs {pair : ServerIdType × HostgroupIdType}
    (hpair : pair ∈ (o.withHostgroups named).selectedHostgroups) :
    named[pair.1]?.any (·.contains pair.2) := by
  simp only [selectedHostgroups, leftPairs, List.mem_flatMap] at hpair
  obtain ⟨⟨serverId, ids⟩, hentry, hpair⟩ := hpair
  split at hpair
  · obtain ⟨id, hid, rfl⟩ := List.mem_map.mp hpair
    have hget := Std.TreeMap.mem_toList_iff_getElem?_eq_some.mp hentry
    change named[serverId]? = some ids at hget
    rw [hget]
    simpa using (List.mem_filter.mp hid).1
  · cases hpair

/-- Where no server of the map is without a host group. -/
theorem selectedHostgroups_eq_nil_iff
    (hinhabited : ∀ serverId, named.contains serverId →
      ∃ id, named[serverId]?.any (·.contains id)) :
    (o.withHostgroups named).selectedHostgroups = [] ↔ o.filtersByName named = false := by
  cases hsees : o.has .getAllServer || o.getAllowedServersAndHostgroups.contains allServers with
  | false =>
    rw [filtersByName, hsees]
    refine iff_of_true ?_ rfl
    rw [Bool.or_eq_false_iff] at hsees
    exact leftPairs_hostgroups (o := o.withHostgroups named) hsees.1 hsees.2 _
  | true =>
    rw [filtersByName, hsees, Bool.true_and]
    cases hempty : named.isEmpty with
    | true => exact iff_of_true (leftPairs_isEmpty hempty) rfl
    | false =>
      refine iff_of_false (fun hnil => ?_) Bool.noConfusion
      obtain ⟨serverId, hserver⟩ : ∃ serverId, named.contains serverId := by
        by_contra hnone
        have hall := Std.TreeMap.isEmpty_iff_forall_contains.mpr fun serverId =>
          Bool.not_eq_true _ ▸ not_exists.mp hnone serverId
        rw [hall] at hempty
        cases hempty
      obtain ⟨id, hid⟩ := hinhabited serverId hserver
      obtain ⟨ids, hget, hcontains⟩ := (Option.any_eq_true _ _).mp hid
      have hallowed : (o.withHostgroups named).isAllowedServer serverId = true := by
        change o.isAllowedServer serverId = true
        rw [isAllowedServer]
        cases hprivilege : o.has .getAllServer with
        | true => rfl
        | false =>
          rw [hprivilege, Bool.false_or] at hsees
          rw [hsees]
          rfl
      have hgroup : o.allowsHostgroup serverId id = true := by
        rw [allowsHostgroup, isAllowedHostgroup]
        cases hprivilege : o.has .getAllServer with
        | true => rfl
        | false =>
          rw [hprivilege, Bool.false_or] at hsees
          rw [hsees]
          rfl
      have hmem : (serverId, id) ∈ (o.withHostgroups named).selectedHostgroups := by
        refine List.mem_flatMap.mpr
          ⟨(serverId, ids), Std.TreeMap.mem_toList_iff_getElem?_eq_some.mpr hget, ?_⟩
        dsimp only
        rw [if_pos hallowed]
        exact List.mem_map.mpr ⟨id, List.mem_filter.mpr ⟨by simpa using hcontains, hgroup⟩, rfl⟩
      rw [hnil] at hmem
      cases hmem

theorem answers_withHostgroups : (o.withHostgroups named).answers =
    ((o.withHostgroups ∅).answers &&
      !(named.size > 1 && (o.withHostgroups named).selectedHostgroups.isEmpty)) := by
  have hbase : (o.withHostgroups named).hasEntries = (o.withHostgroups ∅).hasEntries ∧
      (o.withHostgroups named).denied = (o.withHostgroups ∅).denied ∧
      (o.withHostgroups named).hasColumns = (o.withHostgroups ∅).hasColumns := ⟨rfl, rfl, rfl⟩
  have hterms : (o.withHostgroups named).hasTerms = ((o.withHostgroups ∅).hasTerms &&
      !(named.size > 1 && (o.withHostgroups named).selectedHostgroups.isEmpty)) := by
    have hmove : ∀ a b c d e f x : Bool, (a && b && c && d && e && f) =
        ((a && b && !(decide (0 > 1) && x) && d && e && f) && c) := by decide
    exact hmove _ _ _ _ _ _ _
  rw [answers, answers, hterms, hbase.1, hbase.2.1, hbase.2.2]
  simp only [Bool.and_assoc]

/-- Host groups that are dropped do not change what is shown. -/
theorem shows_of_dropped (hanswers : (o.withHostgroups named).answers)
    (hnil : (o.withHostgroups named).selectedHostgroups = []) (r : HostRow)
    (others others' : String → Value) :
    (o.withHostgroups named).shows ((o.withHostgroups named).rowOf r others) =
      (o.withHostgroups ∅).shows ((o.withHostgroups ∅).rowOf r others') := by
  have hanswers' : (o.withHostgroups ∅).answers := by
    rw [answers_withHostgroups, Bool.and_eq_true] at hanswers
    exact hanswers.1
  have hnil' : (o.withHostgroups ∅).selectedHostgroups = [] := rfl
  have hterms : ∀ {o : HostResourceQueryOption}, o.answers → o.hasTerms := fun h => by
    rw [answers, Bool.and_eq_true] at h
    exact h.2
  have hgroups := (terms_of_nil (hterms hanswers) r).1 hnil
  have hgroups' := (terms_of_nil (hterms hanswers') r).1 hnil'
  have hpasses : (o.withHostgroups named).passesFilters r =
      (o.withHostgroups ∅).passesFilters r := by
    rw [passesFilters, passesFilters, filterAlternatives, filterAlternatives, hostgroupAlternatives,
      hostgroupAlternatives, hgroups, hgroups']
    rfl
  have hleaks : (o.withHostgroups named).leaks r = (o.withHostgroups ∅).leaks r := by
    rw [leaks, leaks, leakedHostgroups, leakedHostgroups, leakedHosts, leakedHosts, hnil, hnil']
    simp only [List.tail_nil, ite_self]
    rfl
  rw [shows_row (hasRow_rowOf _ r others), shows_row (hasRow_rowOf _ r others'), hanswers, hanswers',
    hpasses, hleaks]
  rfl

/-- What must hold for the rows that are shown to be of a named host group and to pass the filters. Where
    the name is no filter nothing else may be shown. Where it is one, the servers and hosts let no other
    rows through, and what the named host groups let through passes the other filters. -/
structure RestrictsToName (o : HostResourceQueryOption) (named : ServerHostGrpSetMap) : Prop where
  dropped : o.filtersByName named = false → ∀ r others,
    (o.withHostgroups ∅).shows ((o.withHostgroups ∅).rowOf r others) →
      named[r.serverId]?.any (·.contains r.hostgroupId) ∧ o.meetsFilters r
  besides : o.filtersByName named → ∀ r, o.inBase r → o.passesBesides r →
    named[r.serverId]?.any (·.contains r.hostgroupId) ∧ o.meetsFilters r
  hostgroups : o.filtersByName named → ∀ r, o.inBase r →
    (o.withHostgroups named).passesHostgroups r → o.meetsFilters r
  leaked : o.filtersByName named → ∀ r, (o.withHostgroups named).leaks r → o.meetsFilters r

theorem named_of_hasHostgroup {pairs : List (ServerIdType × HostgroupIdType)} {r : HostRow}
    (hsub : ∀ pair ∈ pairs, pair ∈ (o.withHostgroups named).selectedHostgroups)
    (hany : pairs.any r.hasHostgroup) : named[r.serverId]?.any (·.contains r.hostgroupId) := by
  obtain ⟨pair, hmem, hrow⟩ := List.any_eq_true.mp hany
  rw [HostRow.hasHostgroup, Bool.and_eq_true, beq_iff_eq, beq_iff_eq] at hrow
  rw [hrow.1, hrow.2]
  exact mem_leftPairs (hsub pair hmem)

theorem named_of_passesHostgroups {r : HostRow}
    (hpasses : (o.withHostgroups named).passesHostgroups r) :
    named[r.serverId]?.any (·.contains r.hostgroupId) := by
  have hfree : ∀ pair ∈ (o.withHostgroups named).freeHostgroups,
      pair ∈ (o.withHostgroups named).selectedHostgroups := by
    intro pair hmem
    rw [freeHostgroups, freePairs] at hmem
    split at hmem
    · cases hmem
    · exact List.mem_of_mem_dropLast hmem
  have hbound : ∀ pair ∈ (o.withHostgroups named).boundHostgroups,
      pair ∈ (o.withHostgroups named).selectedHostgroups := by
    intro pair hmem
    rw [boundHostgroups, boundPairs] at hmem
    split at hmem
    · exact hmem
    · exact List.mem_of_getLast? (Option.mem_toList.mp hmem)
  rw [passesHostgroups, Bool.or_eq_true, Bool.and_eq_true, Bool.and_eq_true] at hpasses
  rcases hpasses with hany | ⟨⟨hany, -⟩, -⟩
  · exact named_of_hasHostgroup hfree hany
  · exact named_of_hasHostgroup hbound hany

theorem restricts_iff (hinhabited : ∀ serverId, named.contains serverId →
      ∃ id, named[serverId]?.any (·.contains id)) :
    (∀ r others, (o.withHostgroups named).shows ((o.withHostgroups named).rowOf r others) →
        named[r.serverId]?.any (·.contains r.hostgroupId) ∧ o.meetsFilters r) ↔
      ((o.withHostgroups ∅).answers → (o.filtersByName named ∨ named.size ≤ 1) →
        o.RestrictsToName named) := by
  have hnil := selectedHostgroups_eq_nil_iff (o := o) hinhabited
  have hanswers : (o.withHostgroups named).answers = true ↔
      (o.withHostgroups ∅).answers ∧ (o.filtersByName named ∨ named.size ≤ 1) := by
    rw [answers_withHostgroups, Bool.and_eq_true, Bool.not_eq_true', Bool.and_eq_false_iff,
      decide_eq_false_iff_not, List.isEmpty_eq_false_iff, Ne, hnil, Bool.not_eq_false, Nat.not_lt,
      or_comm]
  have hshows : ∀ r others, (o.withHostgroups named).shows ((o.withHostgroups named).rowOf r others) =
      ((o.withHostgroups named).answers &&
        ((o.inBase r && (o.withHostgroups named).passesFilters r) ||
          (o.withHostgroups named).leaks r)) :=
    fun r others => shows_row (hasRow_rowOf _ r others)
  by_cases hanswered : (o.withHostgroups named).answers = true
  · rw [← and_imp, ← hanswers, imp_iff_right hanswered]
    have hterms : (o.withHostgroups named).hasTerms := by
      rw [answers, Bool.and_eq_true] at hanswered
      exact hanswered.2
    cases hfilters : o.filtersByName named with
    | false =>
      have hdropped := shows_of_dropped hanswered (hnil.mpr hfilters)
      constructor
      · intro hall
        refine ⟨fun _ r others hrow => hall r others ?_, ?_, ?_, ?_⟩
        · rw [hdropped r others others]
          exact hrow
        all_goals
          intro hfilters'
          rw [hfilters] at hfilters'
          cases hfilters'
      · rintro hrestricts r others hrow
        rw [hdropped r others others] at hrow
        exact hrestricts.dropped hfilters r others hrow
    | true =>
      have hgroups : (o.withHostgroups named).selectedHostgroups ≠ [] := by
        rw [Ne, hnil, hfilters]
        exact Bool.noConfusion
      have hpasses := passesFilters_selected hterms hgroups
      have hbesides : ∀ r, (o.withHostgroups named).passesBesides r = o.passesBesides r :=
        fun r => rfl
      simp only [hshows, hanswered, Bool.true_and, hpasses, hbesides, Bool.or_eq_true,
        Bool.and_eq_true]
      constructor
      · intro hall
        refine ⟨fun hfilters' => ?_, fun _ r hbase hrow => ?_, fun _ r hbase hrow => ?_,
          fun _ r hrow => ?_⟩
        · rw [hfilters] at hfilters'
          cases hfilters'
        · exact hall r (fun _ => .null) (.inl ⟨hbase, .inl hrow⟩)
        · exact (hall r (fun _ => .null) (.inl ⟨hbase, .inr hrow⟩)).2
        · exact (hall r (fun _ => .null) (.inr hrow)).2
      · rintro hrestricts r - (⟨hbase, hrow | hrow⟩ | hrow)
        · exact hrestricts.besides hfilters r hbase hrow
        · exact ⟨named_of_passesHostgroups hrow, hrestricts.hostgroups hfilters r hbase hrow⟩
        · refine ⟨?_, hrestricts.leaked hfilters r hrow⟩
          have hhosts : (o.withHostgroups named).leakedHosts = [] := by
            by_contra hne
            exact hgroups (leakedHosts_ne_nil hne).1.2.2.1
          rw [leaks, hhosts, List.any_nil, Bool.or_false] at hrow
          have hsub : ∀ pair ∈ (o.withHostgroups named).leakedHostgroups,
              pair ∈ (o.withHostgroups named).selectedHostgroups := by
            intro pair hmem
            rw [(leakedHostgroups_ne_nil (List.ne_nil_of_mem hmem)).2.1] at hmem
            exact List.mem_of_mem_tail hmem
          exact named_of_hasHostgroup hsub hrow
  · refine iff_of_true (fun r others hrow => ?_) fun hquery hsome => ?_
    · rw [hshows, Bool.eq_false_of_not_eq_true hanswered] at hrow
      cases hrow
    · exact absurd (hanswers.mpr ⟨hquery, hsome⟩) hanswered

end WithHostgroups

end HostResourceQueryOption

namespace RestResourceUtils

/-- The rows that a request with this name shows are of a host group of the name that the user may see, and
    they pass the other filters. -/
def NameRestricts (t : HostgroupTables) (option : HostResourceQueryOption)
    (hostgroupName : CString) : Prop :=
  ∀ option', parseHostgroupNameParameter t option (some hostgroupName) = .ok option' →
    ∀ r others, option'.shows (option'.rowOf r others) →
      (∃ hostgroup ∈ t.hostgroupList.rows, isVisible option.context hostgroup ∧
        hostgroup.name = hostgroupName ∧ hostgroup.key = (r.serverId, r.hostgroupId)) ∧
      option.meetsFilters r

/-- The statement for the host groups is taken, the query without host groups answers, and the terms for
    the host groups are there or are of one server. -/
def IsAnswered (t : HostgroupTables) (option : HostResourceQueryOption)
    (hostgroupName : CString) : Prop :=
  ((hostgroupsQuery option.context).denied ∨ (hostgroupsQuery option.context).hasEntries) ∧
    (option.withHostgroups ∅).answers ∧
    (option.filtersByName (namedMap t option.context hostgroupName) ∨
      (namedMap t option.context hostgroupName).size ≤ 1)

theorem any_namedMap_iff (t : HostgroupTables) (context : DataQueryContext)
    (hostgroupName : CString) (r : HostRow) :
    (namedMap t context hostgroupName)[r.serverId]?.any (·.contains r.hostgroupId) ↔
      ∃ hostgroup ∈ t.hostgroupList.rows, isVisible context hostgroup ∧
        hostgroup.name = hostgroupName ∧ hostgroup.key = (r.serverId, r.hostgroupId) := by
  rw [any_namedMap]
  simp only [namedHostgroups, List.mem_filter, Bool.and_eq_true, beq_iff_eq, and_assoc]

def noHostgroups : HostgroupTables := ⟨AutoTable.empty _, AutoTable.empty _⟩

/-- An administrator's query for triggers. -/
def triggersQuery : HostResourceQueryOption :=
  .new synapseTriggersQueryOption HostResourceQueryOption.administrator

end RestResourceUtils

end Hatohol

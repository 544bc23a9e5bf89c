import Mathlib.Algebra.Order.BigOperators.Group.List
import Hatohol.HostResource.Meaning
import Hatohol.Tables

/-!
# Access control of host resource queries

What the access list grants, and when a query shows no more and no less of it. The condition of a
query goes wrong in three ways: a target host group takes the place of the granted host groups, a
list of hosts of one server escapes the access list, and the text may be no condition at all.
-/

namespace Hatohol

open Sql

namespace HostResourceQueryOption

/-- The access list grants the row to the user. -/
def grants (o : HostResourceQueryOption) (r : HostRow) : Bool :=
  o.getAllowedServersAndHostgroups.contains allServers ||
    o.getAllowedServersAndHostgroups[r.serverId]?.any fun hostgroupIdSet =>
      hostgroupIdSet.contains r.hostgroupId || hostgroupIdSet.contains allHostGroups

theorem mem_entries {o : HostResourceQueryOption} {entry : ServerIdType × HostgroupIdSet} :
    entry ∈ o.entries ↔ o.getAllowedServersAndHostgroups[entry.1]? = some entry.2 ∧
      (o.targetServerId = allServers ∨ entry.1 = o.targetServerId) := by
  simp only [entries, List.mem_filter, Bool.or_eq_true, beq_iff_eq]
  rw [Std.TreeMap.mem_toList_iff_getElem?_eq_some]

section Ordinary

variable {o : HostResourceQueryOption} (hprivilege : o.has .getAllServer = false)
  (hall : o.getAllowedServersAndHostgroups.contains allServers = false)

include hprivilege hall

theorem isAllowedServer_iff (serverId : ServerIdType) :
    o.isAllowedServer serverId = o.getAllowedServersAndHostgroups.contains serverId := by
  simp [isAllowedServer, hprivilege, hall]

/-- Every host group is dropped from the filters: `isAllowedHostgroup` refuses those of the
    servers that are in the access list. -/
theorem allowsHostgroup_eq_false (serverId : ServerIdType) (hostgroupId : HostgroupIdType) :
    o.allowsHostgroup serverId hostgroupId = false := by
  unfold allowsHostgroup isAllowedHostgroup
  simp only [hprivilege, hall, Bool.false_eq_true, if_false]
  split <;> rfl

theorem leftPairs_hostgroups (map : ServerHostGrpSetMap) :
    o.leftPairs map o.allowsHostgroup = [] := by
  simp only [leftPairs, List.flatMap_eq_nil_iff]
  rintro ⟨serverId, ids⟩ -
  split
  · simp [allowsHostgroup_eq_false hprivilege hall]
  · rfl

theorem leakedHostgroups_eq_nil : o.leakedHostgroups = [] := by
  have hnil : o.selectedHostgroups = [] := leftPairs_hostgroups hprivilege hall _
  unfold leakedHostgroups
  split <;> simp [hnil]

/-- A host that leaks is one of a server in the access list. -/
theorem getElem?_of_mem_leakedHosts {pair : ServerIdType × LocalHostIdType}
    (hpair : pair ∈ o.leakedHosts) :
    ∃ hostgroupIdSet, o.getAllowedServersAndHostgroups[pair.1]? = some hostgroupIdSet := by
  have hselected : pair ∈ o.selectedHosts := by
    unfold leakedHosts at hpair
    split at hpair
    · exact List.mem_of_mem_tail hpair
    · simp at hpair
  simp only [selectedHosts, leftPairs, List.mem_flatMap] at hselected
  obtain ⟨⟨serverId, ids⟩, -, hmem⟩ := hselected
  split at hmem
  · rename_i hallowed
    simp only [List.mem_map] at hmem
    obtain ⟨id, -, rfl⟩ := hmem
    rw [isAllowedServer_iff hprivilege hall, Std.TreeMap.contains_eq_isSome_getElem?] at hallowed
    exact Option.isSome_iff_exists.mp hallowed
  · simp at hmem

end Ordinary

/-- A row that an entry lets through is granted, if the entry grants its host group. -/
theorem grants_eq {o : HostResourceQueryOption}
    (hall : o.getAllowedServersAndHostgroups.contains allServers =
      false) {r : HostRow} {hostgroupIdSet : HostgroupIdSet}
    (hget : o.getAllowedServersAndHostgroups[r.serverId]? = some hostgroupIdSet) :
    o.grants r =
      (hostgroupIdSet.contains r.hostgroupId || hostgroupIdSet.contains allHostGroups) := by
  simp [grants, hall, hget]

/-! ## Nothing but what is granted -/

/-- What a query must not do to stay within the access list, where it answers at all: let the
    hosts of a server leak of which not all host groups are granted, or name a host group that
    some entry with a host left by the targets and the filters does not grant. -/
structure KeepsAccess (o : HostResourceQueryOption) : Prop where
  leaked : ∀ pair ∈ o.leakedHosts, ∀ hostgroupIdSet,
    o.getAllowedServersAndHostgroups[pair.1]? = some hostgroupIdSet →
      hostgroupIdSet.contains allHostGroups
  targeted : o.targetHostgroupId ≠ allHostGroups → ∀ entry ∈ o.entries, ∀ hostId,
    let r : HostRow := ⟨entry.1, hostId, o.targetHostgroupId⟩
    o.isValid r → o.isTargeted r → o.passesFilters r →
      entry.2.contains o.targetHostgroupId || entry.2.contains allHostGroups

theorem entryShows_target {o : HostResourceQueryOption}
    (htarget : o.targetHostgroupId ≠ allHostGroups)
    (entry : ServerIdType × HostgroupIdSet) (hostId : LocalHostIdType) :
    o.entryShows ⟨entry.1, hostId, o.targetHostgroupId⟩ entry := by
  simp [entryShows, htarget]

section Grants

variable {o : HostResourceQueryOption} (hprivilege : o.has .getAllServer = false)
  (hall : o.getAllowedServersAndHostgroups.contains allServers = false)

include hprivilege hall

theorem grants_of_inBase (hkeeps : o.KeepsAccess) {r : HostRow} (hbase : o.inBase r)
    (hfilters : o.passesFilters r) : o.grants r := by
  simp only [inBase, Bool.and_eq_true] at hbase
  obtain ⟨⟨hvalid, hallowed⟩, htargeted⟩ := hbase
  have hsees : o.seesAllServers = false := by simp [seesAllServers, hall]
  simp only [isAllowed, hprivilege, hsees, Bool.false_or, List.any_eq_true] at hallowed
  obtain ⟨entry, hentry, hshows⟩ := hallowed
  have hget := (mem_entries.mp hentry).1
  simp only [entryShows, Bool.and_eq_true, beq_iff_eq] at hshows
  obtain ⟨hserver, hgroup⟩ := hshows
  rw [← hserver] at hget
  rw [grants_eq hall hget]
  by_cases htarget : o.targetHostgroupId = allHostGroups
  · rw [if_pos htarget] at hgroup
    rwa [Bool.or_comm]
  · rw [if_neg htarget, beq_iff_eq] at hgroup
    have hrow : r = ⟨entry.1, r.hostId, o.targetHostgroupId⟩ := by rw [← hserver, ← hgroup]
    rw [hgroup]
    exact hkeeps.targeted htarget entry hentry r.hostId (hrow ▸ hvalid) (hrow ▸ htargeted)
      (hrow ▸ hfilters)

theorem grants_of_leaks (hkeeps : o.KeepsAccess) {r : HostRow} (hleaks : o.leaks r) :
    o.grants r := by
  simp only [leaks, leakedHostgroups_eq_nil hprivilege hall, List.any_nil, Bool.false_or,
    List.any_eq_true] at hleaks
  obtain ⟨pair, hpair, hhost⟩ := hleaks
  simp only [HostRow.hasHost, Bool.and_eq_true, beq_iff_eq] at hhost
  obtain ⟨hostgroupIdSet, hget⟩ := getElem?_of_mem_leakedHosts hprivilege hall hpair
  have hgroups := hkeeps.leaked pair hpair hostgroupIdSet hget
  rw [← hhost.1] at hget
  rw [grants_eq hall hget, hgroups, Bool.or_true]

omit hprivilege in
theorem keepsAccess_of_grants
    (hgrants : ∀ r, (o.inBase r && o.passesFilters r) || o.leaks r → o.grants r) :
    o.KeepsAccess := by
  refine ⟨fun pair hpair hostgroupIdSet hget => ?_, fun htarget entry hentry hostId => ?_⟩
  · obtain ⟨hostgroupId, hfresh⟩ := exists_not_contains hostgroupIdSet
    have hleaks : o.leaks ⟨pair.1, pair.2, hostgroupId⟩ := by
      simp only [leaks, Bool.or_eq_true, List.any_eq_true]
      exact .inr ⟨pair, hpair, by simp [HostRow.hasHost]⟩
    have hrow := hgrants ⟨pair.1, pair.2, hostgroupId⟩ (by simp [hleaks])
    rw [grants_eq hall hget] at hrow
    simpa [hfresh] using hrow
  · intro r hvalid htargeted hfilters
    have hget := (mem_entries.mp hentry).1
    have hallowed : o.isAllowed r := by
      simp only [isAllowed, Bool.or_eq_true, List.any_eq_true]
      exact .inr ⟨entry, hentry, entryShows_target htarget entry hostId⟩
    have hrow := hgrants r (by simp [inBase, hvalid, hallowed, htargeted, hfilters])
    rwa [grants_eq hall hget] at hrow

end Grants

/-- The user of a query for triggers who may see host group 10 of server 1. -/
def oneHostgroupUser : DataQueryContext where
  privilege := ⟨0⟩
  validServerIdSet := {1}
  serverHostGrpSetMap := {(1, {.ofString "10"})}

/-- This user asks for host group 20. -/
def otherHostgroupQuery : HostResourceQueryOption :=
  { new synapseTriggersQueryOption oneHostgroupUser with targetHostgroupId := .ofString "20" }

/-- No select or exclude filter is set. -/
def hasNoFilters (o : HostResourceQueryOption) : Bool :=
  o.selectedServerIdSet.isEmpty && o.excludedServerIdSet.isEmpty &&
    o.selectedServerHostgroupSetMap.isEmpty && o.excludedServerHostgroupSetMap.isEmpty &&
    o.selectedServerHostSetMap.isEmpty && o.excludedServerHostSetMap.isEmpty

theorem leftServers_isEmpty (o : HostResourceQueryOption) {serverIdSet : ServerIdSet}
    (h : serverIdSet.isEmpty) : o.leftServers serverIdSet = [] ∧ serverIdSet.size = 0 := by
  have hsize : serverIdSet.size = 0 := by
    simpa [Std.TreeSet.isEmpty_eq_size_eq_zero] using h
  have hlist : serverIdSet.toList = [] := by simpa [← Std.TreeSet.length_toList] using hsize
  simp [leftServers, hlist, hsize]

section NoFilters

variable {o : HostResourceQueryOption} (hfilters : o.hasNoFilters)

include hfilters

/-- Without filters nothing is lost from them, everything passes them and nothing leaks. -/
theorem noFilters_spec : o.hasTerms ∧ (∀ r, o.passesFilters r) ∧ o.leakedHostgroups = [] ∧
    o.leakedHosts = [] := by
  simp only [hasNoFilters, Bool.and_eq_true] at hfilters
  obtain ⟨⟨⟨⟨⟨h1, h2⟩, h3⟩, h4⟩, h5⟩, h6⟩ := hfilters
  have hs1 := o.leftServers_isEmpty h1
  have hs2 := o.leftServers_isEmpty h2
  have hsize {map : Std.TreeMap ServerIdType (Std.TreeSet CString)} (h : map.isEmpty) :
      map.size = 0 := by
    simpa [Std.TreeMap.isEmpty_eq_size_eq_zero] using h
  refine ⟨?_, fun r => ?_, ?_, ?_⟩
  · simp [hasTerms, hs1.2, hs2.2, hsize h3, hsize h4, hsize h5, hsize h6]
  · simp [passesFilters, filterAlternatives, hostgroupAlternatives, serverAlternatives,
      hostgroupTerms, hostTerms, oneUnless, termAlternatives, selectedServers, excludedServers,
      selectedHostgroups, excludedHostgroups, selectedHosts, excludedHosts, hs1.1, hs2.1,
      leftPairs_isEmpty h3, leftPairs_isEmpty h4, leftPairs_isEmpty h5, leftPairs_isEmpty h6,
      hsize h3, hsize h5, picks]
  · simp [leakedHostgroups, selectedHostgroups, leftPairs_isEmpty h3]
  · simp [leakedHosts, selectedHosts, leftPairs_isEmpty h5]

/-- Without filters a query shows its base. -/
theorem shows_of_hasNoFilters (r : HostRow) (others : String → Value) :
    o.shows (o.rowOf r others) =
      (!o.denied && o.hasColumns && o.hasEntries && o.inBase r) := by
  obtain ⟨hterms, hpasses, hgroups, hhosts⟩ := noFilters_spec hfilters
  rw [shows_row (o.hasRow_rowOf r others), hpasses, leaks, hgroups, hhosts, answers, hterms]
  simp

end NoFilters

/-- The user asks for the row and may see it. -/
def asksFor (o : HostResourceQueryOption) (r : HostRow) : Bool :=
  o.getValidServerIdSet.contains r.serverId && (o.has .getAllServer || o.grants r) && o.isTargeted r

/-- What a query must do to show all that is granted: name no host where it has no column for
    one; have no entry without host groups among those it enumerates; and have an entry for its
    target server beside the one for all servers, with all host groups in it unless the query
    has a target host group. -/
structure CoversAccess (o : HostResourceQueryOption) : Prop where
  columns : o.hasColumns
  everyServer : o.has .getAllServer = false → o.targetServerId = allServers →
    o.getAllowedServersAndHostgroups.contains allServers = false →
    o.targetHostgroupId = allHostGroups →
    ∀ entry ∈ o.getAllowedServersAndHostgroups.toList, entry.2.isEmpty = false
  oneServer : o.has .getAllServer = false → o.targetServerId ≠ allServers →
    o.getAllowedServersAndHostgroups.contains allServers →
    ∃ hostgroupIdSet, o.getAllowedServersAndHostgroups[o.targetServerId]? = some hostgroupIdSet ∧
      (o.targetHostgroupId ≠ allHostGroups ∨ hostgroupIdSet.contains allHostGroups)

theorem entries_of_allServers {o : HostResourceQueryOption}
    (htarget : o.targetServerId = allServers) :
    o.entries = o.getAllowedServersAndHostgroups.toList := by
  simp [entries, htarget]

section Covers

variable {o : HostResourceQueryOption} {r : HostRow}

theorem serverId_of_isTargeted (htarget : o.targetServerId ≠ allServers) (hr : o.isTargeted r) :
    r.serverId = o.targetServerId := by
  simp only [isTargeted, Bool.and_eq_true, Bool.or_eq_true, beq_iff_eq] at hr
  exact hr.1.1.resolve_left htarget

theorem hostgroupId_of_isTargeted (htarget : o.targetHostgroupId ≠ allHostGroups)
    (hr : o.isTargeted r) : r.hostgroupId = o.targetHostgroupId := by
  simp only [isTargeted, Bool.and_eq_true, Bool.or_eq_true, beq_iff_eq] at hr
  exact hr.2.resolve_left htarget

/-- An entry that grants a row of the target lets it through. -/
theorem isAllowed_of_entry {hostgroupIdSet : HostgroupIdSet}
    (hget : o.getAllowedServersAndHostgroups[r.serverId]? = some hostgroupIdSet)
    (htargeted : o.isTargeted r) (hgroup : o.targetHostgroupId ≠ allHostGroups ∨
      (hostgroupIdSet.contains r.hostgroupId || hostgroupIdSet.contains allHostGroups)) :
    o.isAllowed r := by
  have hserver : o.targetServerId = allServers ∨ r.serverId = o.targetServerId := by
    by_cases htarget : o.targetServerId = allServers
    · exact .inl htarget
    · exact .inr (serverId_of_isTargeted htarget htargeted)
  have hentry : (r.serverId, hostgroupIdSet) ∈ o.entries := mem_entries.mpr ⟨hget, hserver⟩
  have hshows : o.entryShows r (r.serverId, hostgroupIdSet) := by
    simp only [entryShows, beq_self_eq_true, Bool.true_and]
    split
    · rename_i htarget
      rw [Bool.or_comm]
      exact hgroup.resolve_left (fun hne => hne htarget)
    · rename_i htarget
      simpa using hostgroupId_of_isTargeted htarget htargeted
  simp only [isAllowed, Bool.or_eq_true, List.any_eq_true]
  exact .inr ⟨_, hentry, hshows⟩

/-- A granted row has an entry in the access list. -/
theorem contains_of_grants (hgrants : o.grants r) :
    o.getAllowedServersAndHostgroups.contains allServers ∨
      o.getAllowedServersAndHostgroups.contains r.serverId := by
  simp only [grants, Bool.or_eq_true] at hgrants
  refine hgrants.imp_right fun hany => ?_
  rw [Std.TreeMap.contains_eq_isSome_getElem?]
  exact Option.isSome_of_any hany

theorem not_denied_of_grants (hgrants : o.grants r) (htargeted : o.isTargeted r) :
    o.denied = false := by
  have hcontains := contains_of_grants hgrants
  have hempty : o.getAllowedServersAndHostgroups.isEmpty = false := by
    rw [Bool.eq_false_iff]
    intro hempty
    rw [Std.TreeMap.isEmpty_iff_forall_contains] at hempty
    simp [hempty] at hcontains
  have hserver : o.targetServerId ≠ allServers → o.isAllowedServer o.targetServerId := by
    intro htarget
    rw [serverId_of_isTargeted htarget htargeted] at hcontains
    simp only [isAllowedServer]
    split
    · rfl
    · simpa using hcontains
  simp only [denied, hempty, Bool.false_or]
  by_cases htarget : o.targetServerId = allServers
  · simp [htarget]
  · simp [hserver htarget]

theorem isEmpty_of_contains {s : Std.TreeSet CString} {id : CString} (h : s.contains id) :
    s.isEmpty = false := by
  rw [Bool.eq_false_iff]
  intro hempty
  rw [Std.TreeSet.isEmpty_iff_forall_contains] at hempty
  simp [hempty] at h

theorem hasEntries_of_mem {entry : ServerIdType × HostgroupIdSet} (hentry : entry ∈ o.entries)
    (hne : o.targetHostgroupId = allHostGroups → ∀ entry ∈ o.entries, entry.2.isEmpty = false) :
    o.hasEntries := by
  have hsome : o.entries.isEmpty = false := by
    simpa using List.ne_nil_of_mem hentry
  by_cases htarget : o.targetHostgroupId = allHostGroups
  · have hall : (o.entries.all fun entry => !entry.2.isEmpty) := by
      simpa using fun serverId ids hmem => hne htarget (serverId, ids) hmem
    simp [hasEntries, hsome, hall]
  · have htest : (o.targetHostgroupId != allHostGroups) = true := by simpa using htarget
    simp [hasEntries, hsome, htest]

/-- For one target server the query enumerates at most one entry. -/
theorem snd_of_mem_entries (htarget : o.targetServerId ≠ allServers)
    {hostgroupIdSet : HostgroupIdSet}
    (hget : o.getAllowedServersAndHostgroups[o.targetServerId]? = some hostgroupIdSet)
    {entry : ServerIdType × HostgroupIdSet} (hentry : entry ∈ o.entries) :
    entry.2 = hostgroupIdSet := by
  obtain ⟨hget', hserver⟩ := mem_entries.mp hentry
  rw [hserver.resolve_left htarget, hget] at hget'
  exact (Option.some.inj hget').symm

/-- A query that covers the access list lets through what the user asks for. -/
theorem inBase_of_covers (hcovers : o.CoversAccess) (hasks : o.asksFor r) :
    o.denied = false ∧ o.hasEntries ∧ o.inBase r := by
  simp only [asksFor, Bool.and_eq_true, Bool.or_eq_true] at hasks
  obtain ⟨⟨hserver, hmay⟩, htargeted⟩ := hasks
  have hvalid : o.isValid r := by simp [isValid, hserver]
  cases hprivilege : o.has .getAllServer with
  | true => simp [denied, hasEntries, inBase, isAllowed, hprivilege, hvalid, htargeted]
  | false =>
    have hgrants : o.grants r := by simpa [hprivilege] using hmay
    refine ⟨not_denied_of_grants hgrants htargeted, ?_⟩
    have hbase (hallowed : o.isAllowed r) : o.inBase r := by
      simp [inBase, hvalid, hallowed, htargeted]
    cases hall : o.getAllowedServersAndHostgroups.contains allServers with
    | true =>
      by_cases htarget : o.targetServerId = allServers
      · have hsees : o.seesAllServers := by simp [seesAllServers, htarget, hall]
        exact ⟨by simp [hasEntries, hsees], hbase (by simp [isAllowed, hsees])⟩
      · obtain ⟨hostgroupIdSet, hget, hgroup⟩ := hcovers.oneServer hprivilege htarget hall
        have hget' := hget
        rw [← serverId_of_isTargeted htarget htargeted] at hget'
        have hmem : (o.targetServerId, hostgroupIdSet) ∈ o.entries :=
          mem_entries.mpr ⟨hget, .inr rfl⟩
        refine ⟨hasEntries_of_mem hmem fun hgroups entry hentry => ?_,
          hbase (isAllowed_of_entry hget' htargeted (hgroup.imp_right fun h => by simp [h]))⟩
        rw [snd_of_mem_entries htarget hget hentry]
        exact isEmpty_of_contains (hgroup.resolve_left fun hne => hne hgroups)
    | false =>
      simp only [grants, hall, Bool.false_or] at hgrants
      obtain ⟨hostgroupIdSet, hget⟩ := Option.isSome_iff_exists.mp (Option.isSome_of_any hgrants)
      have hgroup : hostgroupIdSet.contains r.hostgroupId ||
          hostgroupIdSet.contains allHostGroups := by
        rwa [hget] at hgrants
      have hentry : (r.serverId, hostgroupIdSet) ∈ o.entries := by
        refine mem_entries.mpr ⟨hget, ?_⟩
        by_cases htarget : o.targetServerId = allServers
        · exact .inl htarget
        · exact .inr (serverId_of_isTargeted htarget htargeted)
      refine ⟨hasEntries_of_mem hentry fun hgroups entry hmem => ?_,
        hbase (isAllowed_of_entry hget htargeted (.inr hgroup))⟩
      by_cases htarget : o.targetServerId = allServers
      · rw [entries_of_allServers htarget] at hmem
        exact hcovers.everyServer hprivilege htarget hall hgroups entry hmem
      · rw [serverId_of_isTargeted htarget htargeted] at hget
        rw [snd_of_mem_entries htarget hget hmem]
        rw [Bool.or_eq_true] at hgroup
        exact hgroup.elim isEmpty_of_contains isEmpty_of_contains

/-- A query that shows something it is asked for, and all of it, covers the access list. -/
theorem covers_of_inBase (hr : o.asksFor r) (hcolumns : o.hasColumns)
    (hshows : ∀ r, o.asksFor r → o.hasEntries ∧ o.inBase r) : o.CoversAccess := by
  refine ⟨hcolumns, fun hprivilege htarget hall hgroups entry hentry => ?_,
    fun hprivilege htarget hall => ?_⟩
  · have hentries := (hshows r hr).1
    have hsees : o.seesAllServers = false := by simp [seesAllServers, hall]
    simp only [hasEntries, hprivilege, hsees, hgroups, bne_self_eq_false, Bool.false_or,
      Bool.and_eq_true, List.all_eq_true] at hentries
    rw [entries_of_allServers htarget] at hentries
    simpa using hentries.2 entry hentry
  · obtain ⟨hentries, -⟩ := hshows r hr
    simp only [asksFor, Bool.and_eq_true] at hr
    have hserver := serverId_of_isTargeted htarget hr.2
    have hsees : o.seesAllServers = false := by simp [seesAllServers, htarget]
    simp only [hasEntries, hprivilege, hsees, Bool.false_or, Bool.and_eq_true,
      Bool.not_eq_true', List.isEmpty_eq_false_iff] at hentries
    obtain ⟨entry, hentry⟩ := List.exists_mem_of_ne_nil _ hentries.1
    obtain ⟨hget, hkey⟩ := mem_entries.mp hentry
    rw [hkey.resolve_left htarget] at hget
    refine ⟨entry.2, hget, ?_⟩
    by_cases hgroups : o.targetHostgroupId = allHostGroups
    · -- a row of a host group that the entry does not list is granted by the one for all servers
      obtain ⟨hostgroupId, hfresh⟩ := exists_not_contains entry.2
      have htargeted : o.isTargeted ⟨r.serverId, r.hostId, hostgroupId⟩ := by
        simpa [isTargeted, hgroups] using hr.2
      have hfreshRow : o.asksFor ⟨r.serverId, r.hostId, hostgroupId⟩ := by
        simpa [asksFor, grants, hall, htargeted] using hr.1.1
      obtain ⟨-, hbase⟩ := hshows _ hfreshRow
      simp only [inBase, isAllowed, hprivilege, hsees, Bool.false_or, Bool.and_eq_true,
        List.any_eq_true] at hbase
      obtain ⟨entry', hentry', hentryShows⟩ := hbase.1.2
      rw [entryShows, if_pos hgroups, snd_of_mem_entries htarget hget hentry', hfresh,
        Bool.or_false,
        Bool.and_eq_true] at hentryShows
      exact .inr hentryShows.2
    · exact .inl hgroups

end Covers

/-- A user who may see all servers asks for one of them. -/
def allServersQuery : HostResourceQueryOption :=
  { new synapseTriggersQueryOption { oneHostgroupUser with
      serverHostGrpSetMap := {(allServers, {allHostGroups})} } with targetServerId := 1 }

end HostResourceQueryOption

end Hatohol

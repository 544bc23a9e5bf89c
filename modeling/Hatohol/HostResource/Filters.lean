import Hatohol.HostResource.Access

/-!
# What the filters of a host resource query do

Filters are meant to restrict a query, and an exclusion to win over a selection. Whether they do
depends on where parentheses stand: the terms of a filter that leaks are not bound by the base,
and an exclusion is bound to the alternative just before it only.
-/

namespace Hatohol

open Sql

namespace HostResourceQueryOption

/-! ## Filters restrict -/

/-- The same option with the six filter sets empty. -/
def withoutFilters (o : HostResourceQueryOption) : HostResourceQueryOption :=
  { o with
    selectedServerIdSet := ∅
    excludedServerIdSet := ∅
    selectedServerHostgroupSetMap := ∅
    excludedServerHostgroupSetMap := ∅
    selectedServerHostSetMap := ∅
    excludedServerHostSetMap := ∅ }

theorem hasColumns_withoutFilters {o : HostResourceQueryOption} (h : o.hasColumns) :
    o.withoutFilters.hasColumns := by
  simp only [hasColumns, namesHost, Bool.or_eq_true, Bool.not_eq_true', Bool.or_eq_false_iff] at h ⊢
  exact h.imp_right fun hnames => ⟨⟨hnames.1.1, rfl⟩, rfl⟩

theorem shows_withoutFilters (o : HostResourceQueryOption) (r : HostRow) (others : String → Value) :
    o.withoutFilters.shows (o.withoutFilters.rowOf r others) =
      (!o.denied && o.withoutFilters.hasColumns && o.hasEntries && o.inBase r) :=
  shows_of_hasNoFilters (by rfl) r others

/-- Every row of the host is in the base. -/
def BaseCoversHost (o : HostResourceQueryOption) (pair : ServerIdType × LocalHostIdType) : Prop :=
  (o.excludeDefunctServers → o.getValidServerIdSet.contains pair.1) ∧
  (o.targetServerId = allServers ∨ pair.1 = o.targetServerId) ∧
  (o.targetHostId = allLocalHosts ∨ pair.2 = o.targetHostId) ∧
  o.targetHostgroupId = allHostGroups ∧
  (o.has .getAllServer ∨ o.seesAllServers ∨
    ∃ entry ∈ o.entries, pair.1 = entry.1 ∧ entry.2.contains allHostGroups)

/-- Every row of the host group is in the base. -/
def BaseCoversHostgroup (o : HostResourceQueryOption) (pair : ServerIdType × HostgroupIdType) :
    Prop :=
  (o.excludeDefunctServers → o.getValidServerIdSet.contains pair.1) ∧
  (o.targetServerId = allServers ∨ pair.1 = o.targetServerId) ∧
  o.targetHostId = allLocalHosts ∧
  (o.targetHostgroupId = allHostGroups ∨ pair.2 = o.targetHostgroupId) ∧
  (o.has .getAllServer ∨ o.seesAllServers ∨ ∃ entry ∈ o.entries, pair.1 = entry.1 ∧
    (o.targetHostgroupId ≠ allHostGroups ∨ entry.2.contains allHostGroups ∨
      entry.2.contains pair.2))

theorem inBase_iff (o : HostResourceQueryOption) (r : HostRow) :
    o.inBase r ↔ (o.excludeDefunctServers → o.getValidServerIdSet.contains r.serverId) ∧
      (o.has .getAllServer ∨ o.seesAllServers ∨ ∃ entry ∈ o.entries, o.entryShows r entry) ∧
      (o.targetServerId = allServers ∨ r.serverId = o.targetServerId) ∧
      (o.targetHostId = allLocalHosts ∨ r.hostId = o.targetHostId) ∧
      (o.targetHostgroupId = allHostGroups ∨ r.hostgroupId = o.targetHostgroupId) := by
  cases hdefunct : o.excludeDefunctServers <;>
    simp [inBase, isValid, isAllowed, isTargeted, hdefunct, and_assoc, or_assoc]

/-- Entries for the same server are the same. -/
theorem entries_unique {o : HostResourceQueryOption} {entry entry' : ServerIdType × HostgroupIdSet}
    (h : entry ∈ o.entries) (h' : entry' ∈ o.entries) (hkey : entry.1 = entry'.1) :
    entry.2 = entry'.2 := by
  have hget := (mem_entries.mp h).1
  rw [hkey, (mem_entries.mp h').1] at hget
  exact (Option.some.inj hget).symm

theorem baseCoversHost_iff (o : HostResourceQueryOption) (pair : ServerIdType × LocalHostIdType) :
    (∀ r : HostRow, r.hasHost pair → o.inBase r) ↔ o.BaseCoversHost pair := by
  constructor
  · intro hall
    have hrow (hostgroupId : HostgroupIdType) :=
      (inBase_iff o ⟨pair.1, pair.2, hostgroupId⟩).mp (hall _ (by simp [HostRow.hasHost]))
    have hgroups : o.targetHostgroupId = allHostGroups := by
      obtain ⟨hostgroupId, hne⟩ := exists_ne o.targetHostgroupId
      exact (hrow hostgroupId).2.2.2.2.resolve_right hne
    obtain ⟨hvalid, hallowed, hserver, hhost, -⟩ := hrow allHostGroups
    refine ⟨hvalid, hserver, hhost, hgroups, ?_⟩
    rcases hallowed with hprivilege | hsees | ⟨entry, hentry, hshows⟩
    · exact .inl hprivilege
    · exact .inr (.inl hsees)
    · -- a host group that the entry does not list shows whether it lists all of them
      obtain ⟨hostgroupId, hfresh⟩ := exists_not_contains entry.2
      rcases (hrow hostgroupId).2.1 with hprivilege | hsees | ⟨entry', hentry', hshows'⟩
      · exact .inl hprivilege
      · exact .inr (.inl hsees)
      · simp only [entryShows, Bool.and_eq_true, beq_iff_eq, if_pos hgroups] at hshows hshows'
        rw [entries_unique hentry' hentry (hshows'.1.symm.trans hshows.1), hfresh,
          Bool.or_false] at hshows'
        exact .inr (.inr ⟨entry, hentry, hshows.1, hshows'.2⟩)
  · rintro ⟨hvalid, hserver, hhost, hgroups, hallowed⟩ r hr
    simp only [HostRow.hasHost, Bool.and_eq_true, beq_iff_eq] at hr
    rw [inBase_iff, hr.1, hr.2]
    refine ⟨hvalid, hallowed.imp_right (Or.imp_right ?_), hserver, hhost, .inl hgroups⟩
    rintro ⟨entry, hentry, hkey, hmem⟩
    exact ⟨entry, hentry, by simp [entryShows, hgroups, hr.1, hkey, hmem]⟩

theorem baseCoversHostgroup_iff (o : HostResourceQueryOption)
    (pair : ServerIdType × HostgroupIdType) :
    (∀ r : HostRow, r.hasHostgroup pair → o.inBase r) ↔ o.BaseCoversHostgroup pair := by
  have hshows (entry : ServerIdType × HostgroupIdSet) (hostId : LocalHostIdType)
      (hgroups : o.targetHostgroupId = allHostGroups ∨ pair.2 = o.targetHostgroupId) :
      o.entryShows ⟨pair.1, hostId, pair.2⟩ entry ↔ pair.1 = entry.1 ∧
        (o.targetHostgroupId ≠ allHostGroups ∨ entry.2.contains allHostGroups ∨
          entry.2.contains pair.2) := by
    by_cases hgroup : o.targetHostgroupId = allHostGroups
    · simp [entryShows, hgroup]
    · simp [entryShows, hgroup, hgroups.resolve_left hgroup]
  constructor
  · intro hall
    have hrow (hostId : LocalHostIdType) :=
      (inBase_iff o ⟨pair.1, hostId, pair.2⟩).mp (hall _ (by simp [HostRow.hasHostgroup]))
    have hhost : o.targetHostId = allLocalHosts := by
      obtain ⟨hostId, hne⟩ := exists_ne o.targetHostId
      exact (hrow hostId).2.2.2.1.resolve_right hne
    obtain ⟨hvalid, hallowed, hserver, -, hgroups⟩ := hrow allLocalHosts
    refine ⟨hvalid, hserver, hhost, hgroups, hallowed.imp_right (Or.imp_right ?_)⟩
    rintro ⟨entry, hentry, hentryShows⟩
    exact ⟨entry, hentry, (hshows entry _ hgroups).mp hentryShows⟩
  · rintro ⟨hvalid, hserver, hhost, hgroups, hallowed⟩ ⟨serverId, hostId, hostgroupId⟩ hr
    simp only [HostRow.hasHostgroup, Bool.and_eq_true, beq_iff_eq] at hr
    obtain ⟨rfl, rfl⟩ := hr
    rw [inBase_iff]
    refine ⟨hvalid, hallowed.imp_right (Or.imp_right ?_), hserver, .inl hhost, hgroups⟩
    rintro ⟨entry, hentry, hmem⟩
    exact ⟨entry, hentry, (hshows entry _ hgroups).mpr hmem⟩

/-- An administrator, who needs no entry in the access list. -/
def administrator : DataQueryContext where
  privilege := ⟨OperationPrivilege.makeFlag .getAllServer⟩
  validServerIdSet := {1}
  serverHostGrpSetMap := ∅

/-- An administrator asks for host 5 of server 1 and selects hosts 5 and 6. -/
def twoHostsQuery : HostResourceQueryOption :=
  { new synapseTriggersQueryOption administrator with
    targetHostId := .ofString "5"
    selectedServerHostSetMap := {(1, {.ofString "5", .ofString "6"})} }

/-- The row is in one of the exclude sets. -/
def excludes (o : HostResourceQueryOption) (r : HostRow) : Bool :=
  o.excludedServerIdSet.contains r.serverId ||
    (o.excludedServerHostgroupSetMap[r.serverId]?.any (·.contains r.hostgroupId) ||
      o.excludedServerHostSetMap[r.serverId]?.any (·.contains r.hostId))

/-- The terms of a list that stand before its last one, without parentheses. -/
def freePairs (parentheses : Bool) (pairs : List (ServerIdType × CString)) :
    List (ServerIdType × CString) :=
  if parentheses then [] else pairs.dropLast

/-- The terms of a list that what follows is bound to. -/
def boundPairs (parentheses : Bool) (pairs : List (ServerIdType × CString)) :
    List (ServerIdType × CString) :=
  if parentheses then pairs else pairs.getLast?.toList

theorem termAlternatives_eq (parentheses : Bool) {pairs : List (ServerIdType × CString)}
    (hne : pairs ≠ []) (f : ServerIdType × CString → Bool) :
    termAlternatives parentheses (pairs.map f) =
      (freePairs parentheses pairs).map f ++ [(boundPairs parentheses pairs).any f] := by
  cases parentheses with
  | true => simp [termAlternatives, freePairs, boundPairs]
  | false =>
    rw [← List.dropLast_append_getLast hne]
    simp [termAlternatives, freePairs, boundPairs]

theorem conjoin_concat_oneUnless (as : List Bool) (a : Bool) {α : Type} (left : List α) (b : Bool) :
    conjoin (as ++ [a]) (oneUnless left b) = as ++ [a && (left.isEmpty || b)] := by
  rw [conjoin_concat]
  cases h : left.isEmpty <;> simp [oneUnless, h, conjoin]

section Administrator

variable {o : HostResourceQueryOption} (hprivilege : o.has .getAllServer)

include hprivilege

theorem isAllowedServer_of_getAllServer (serverId : ServerIdType) : o.isAllowedServer serverId := by
  simp [isAllowedServer, hprivilege]

theorem contains_excludedServers (r : HostRow) :
    o.excludedServers.contains r.serverId = o.excludedServerIdSet.contains r.serverId := by
  rw [Bool.eq_iff_iff]
  simp [excludedServers, leftServers, isAllowedServer_of_getAllServer hprivilege]

/-- For an administrator the pairs of a filter are those of its map. -/
theorem any_leftPairs (map : Std.TreeMap ServerIdType (Std.TreeSet CString))
    (isAllowedId : ServerIdType → CString → Bool) (hid : ∀ serverId id, isAllowedId serverId id)
    (serverId : ServerIdType) (id : CString) :
    ((o.leftPairs map isAllowedId).any fun pair => serverId == pair.1 && id == pair.2) =
      map[serverId]?.any (·.contains id) := by
  rw [Bool.eq_iff_iff, List.any_eq_true]
  simp only [leftPairs, isAllowedServer_of_getAllServer hprivilege, if_true, List.mem_flatMap,
    List.mem_map, List.mem_filter, hid, and_true, Bool.and_eq_true, beq_iff_eq]
  constructor
  · rintro ⟨pair, ⟨⟨key, ids⟩, hmem, id', hid', rfl⟩, rfl, rfl⟩
    rw [Std.TreeMap.mem_toList_iff_getElem?_eq_some] at hmem
    simpa [hmem] using hid'
  · intro hany
    obtain ⟨ids, hget⟩ := Option.isSome_iff_exists.mp (Option.isSome_of_any hany)
    rw [hget] at hany
    refine ⟨(serverId, id), ⟨(serverId, ids), ?_, id, by simpa using hany, rfl⟩, rfl, rfl⟩
    exact Std.TreeMap.mem_toList_iff_getElem?_eq_some.mpr hget

theorem allowsHostgroup_of_getAllServer (serverId : ServerIdType) (hostgroupId : HostgroupIdType) :
    o.allowsHostgroup serverId hostgroupId := by
  simp [allowsHostgroup, isAllowedHostgroup, hprivilege]

theorem excludes_eq (r : HostRow) :
    o.excludes r = (o.excludedServers.contains r.serverId ||
      (o.excludedHostgroups.any r.hasHostgroup || o.excludedHosts.any r.hasHost)) := by
  have hgroups := any_leftPairs hprivilege o.excludedServerHostgroupSetMap _
    (allowsHostgroup_of_getAllServer hprivilege) r.serverId r.hostgroupId
  have hhosts := any_leftPairs hprivilege o.excludedServerHostSetMap
    (fun _ _ => true) (fun _ _ => rfl) r.serverId r.hostId
  rw [excludes, contains_excludedServers hprivilege, ← hgroups, ← hhosts]
  rfl

theorem excludes_eq_false {r : HostRow} :
    o.excludes r = false ↔ o.excludedServers.contains r.serverId = false ∧
      o.excludedHostgroups.any r.hasHostgroup = false ∧ o.excludedHosts.any r.hasHost = false := by
  rw [excludes_eq hprivilege, Bool.or_eq_false_iff, Bool.or_eq_false_iff]

end Administrator

/-- The row is of a selected server, if there are any, and of no excluded one. -/
def passesServers (o : HostResourceQueryOption) (r : HostRow) : Bool :=
  (o.selectedServers.isEmpty || o.selectedServers.contains r.serverId) &&
    !o.excludedServers.contains r.serverId

theorem picks_oneUnless {α : Type} (left : List α) (b : Bool) :
    picks (oneUnless left b) = (left.isEmpty || b) := by
  cases h : left.isEmpty <;> simp [oneUnless, h, picks]

theorem not_contains_of_isEmpty (o : HostResourceQueryOption) (r : HostRow) :
    (o.excludedServers.isEmpty || !o.excludedServers.contains r.serverId) =
      !o.excludedServers.contains r.serverId := by
  cases o.excludedServers <;> simp

theorem not_any_of_isEmpty {α : Type} (left : List α) (f : α → Bool) :
    (left.isEmpty || !left.any f) = !left.any f := by
  cases left <;> simp

def freeHostgroups (o : HostResourceQueryOption) : List (ServerIdType × HostgroupIdType) :=
  freePairs (o.selectedServerHostgroupSetMap.size > 1) o.selectedHostgroups

def boundHostgroups (o : HostResourceQueryOption) : List (ServerIdType × HostgroupIdType) :=
  boundPairs (o.selectedServerHostgroupSetMap.size > 1) o.selectedHostgroups

def freeHosts (o : HostResourceQueryOption) : List (ServerIdType × LocalHostIdType) :=
  freePairs (o.selectedServerHostSetMap.size > 1) o.selectedHosts

def boundHosts (o : HostResourceQueryOption) : List (ServerIdType × LocalHostIdType) :=
  boundPairs (o.selectedServerHostSetMap.size > 1) o.selectedHosts

section Alternatives

variable (o : HostResourceQueryOption) (r : HostRow)

theorem length_serverAlternatives : (o.serverAlternatives r).length ≤ 1 :=
  length_conjoin_le (length_oneUnless _ _) (length_oneUnless _ _)

theorem picks_serverAlternatives : picks (o.serverAlternatives r) = o.passesServers r := by
  rw [serverAlternatives, picks_conjoin_single (length_oneUnless _ _) (length_oneUnless _ _),
    picks_oneUnless, picks_oneUnless, not_contains_of_isEmpty, passesServers]

theorem serverAlternatives_eq_nil :
    (o.serverAlternatives r).isEmpty = (o.selectedServers.isEmpty && o.excludedServers.isEmpty) :=
      by
  unfold serverAlternatives oneUnless
  cases o.selectedServers.isEmpty <;> cases o.excludedServers.isEmpty <;> simp [conjoin]

theorem any_of_picks (bs : List Bool) : bs.any id = (!bs.isEmpty && picks bs) := by
  cases bs <;> simp [picks]

variable {o r}

/-- Without lists of terms there is one conjunction. -/
theorem passesFilters_servers (hgroups : o.hostgroupTerms r = []) (hhosts : o.hostTerms r = []) :
    o.passesFilters r = (o.passesServers r && !o.excludedHostgroups.any r.hasHostgroup &&
      !o.excludedHosts.any r.hasHost) := by
  have hlen := o.length_serverAlternatives r
  have hlenGroups := length_conjoin_le hlen
    (length_oneUnless o.excludedHostgroups (!o.excludedHostgroups.any r.hasHostgroup))
  rw [passesFilters, filterAlternatives, hostgroupAlternatives, hgroups, hhosts, List.append_nil,
    List.append_nil, picks_conjoin_single hlenGroups (length_oneUnless _ _),
    picks_conjoin_single hlen (length_oneUnless _ _), picks_oneUnless, picks_oneUnless,
    not_any_of_isEmpty, not_any_of_isEmpty, picks_serverAlternatives]

/-- A list of hosts follows the one conjunction. -/
theorem passesFilters_hosts (hgroups : o.hostgroupTerms r = []) (hhosts : o.selectedHosts ≠ []) :
    o.passesFilters r = ((!(o.selectedServers.isEmpty && o.excludedServers.isEmpty &&
        o.excludedHostgroups.isEmpty) && (o.passesServers r &&
          !o.excludedHostgroups.any r.hasHostgroup)) ||
      o.freeHosts.any r.hasHost || (o.boundHosts.any r.hasHost && !o.excludedHosts.any r.hasHost)) := by
  have hlen := o.length_serverAlternatives r
  have hpicks := picks_conjoin_single hlen
    (length_oneUnless o.excludedHostgroups (!o.excludedHostgroups.any r.hasHostgroup))
  have hempty : (o.hostgroupAlternatives r).isEmpty = (o.selectedServers.isEmpty &&
      o.excludedServers.isEmpty && o.excludedHostgroups.isEmpty) := by
    rw [← o.serverAlternatives_eq_nil r, hostgroupAlternatives, hgroups, List.append_nil]
    cases hs : o.serverAlternatives r with
    | nil => cases he : o.excludedHostgroups.isEmpty <;> simp [oneUnless, he]
    | cons b bs =>
      have := conjoin_ne_nil (oneUnless o.excludedHostgroups
        (!o.excludedHostgroups.any r.hasHostgroup)) (List.cons_ne_nil b bs)
      simpa using this
  have hterms : o.hostTerms r = _ := termAlternatives_eq _ hhosts r.hasHost
  have hany := any_of_picks (o.hostgroupAlternatives r)
  rw [hempty, hostgroupAlternatives, hgroups, List.append_nil, hpicks, picks_oneUnless,
    not_any_of_isEmpty, picks_serverAlternatives] at hany
  rw [passesFilters, filterAlternatives, hterms, ← List.append_assoc, conjoin_concat_oneUnless,
    not_any_of_isEmpty, hostgroupAlternatives, hgroups, List.append_nil]
  simp only [picks, List.any_append, hany, List.any_map, List.any_cons, List.any_nil]
  simp [freeHosts, boundHosts, Function.comp_def]

/-- A list of host groups follows the servers. -/
theorem hostgroupAlternatives_eq (hgroups : o.selectedHostgroups ≠ []) :
    o.hostgroupAlternatives r = o.serverAlternatives r ++ o.freeHostgroups.map r.hasHostgroup ++
      [o.boundHostgroups.any r.hasHostgroup && !o.excludedHostgroups.any r.hasHostgroup] := by
  have hterms : o.hostgroupTerms r = _ := termAlternatives_eq _ hgroups r.hasHostgroup
  rw [hostgroupAlternatives, hterms, ← List.append_assoc, conjoin_concat_oneUnless,
    not_any_of_isEmpty]
  rfl

theorem any_serverAlternatives : (o.serverAlternatives r).any id =
    (!(o.selectedServers.isEmpty && o.excludedServers.isEmpty) && o.passesServers r) := by
  rw [any_of_picks, serverAlternatives_eq_nil, picks_serverAlternatives]

theorem passesFilters_hostgroups (hgroups : o.selectedHostgroups ≠ [])
    (hhosts : o.hostTerms r = []) :
    o.passesFilters r = ((!(o.selectedServers.isEmpty && o.excludedServers.isEmpty) &&
        o.passesServers r) || o.freeHostgroups.any r.hasHostgroup ||
      (o.boundHostgroups.any r.hasHostgroup && !o.excludedHostgroups.any r.hasHostgroup &&
        !o.excludedHosts.any r.hasHost)) := by
  rw [passesFilters, filterAlternatives, hhosts, List.append_nil, hostgroupAlternatives_eq hgroups,
    conjoin_concat_oneUnless, not_any_of_isEmpty]
  simp only [picks, List.any_append, any_serverAlternatives, List.any_map, List.any_cons,
    List.any_nil]
  simp [Function.comp_def]

theorem passesFilters_both (hgroups : o.selectedHostgroups ≠ []) (hhosts : o.selectedHosts ≠ []) :
    o.passesFilters r = ((!(o.selectedServers.isEmpty && o.excludedServers.isEmpty) &&
        o.passesServers r) || o.freeHostgroups.any r.hasHostgroup ||
      (o.boundHostgroups.any r.hasHostgroup && !o.excludedHostgroups.any r.hasHostgroup) ||
      o.freeHosts.any r.hasHost || (o.boundHosts.any r.hasHost && !o.excludedHosts.any r.hasHost)) := by
  have hterms : o.hostTerms r = _ := termAlternatives_eq _ hhosts r.hasHost
  rw [passesFilters, filterAlternatives, hterms, ← List.append_assoc, conjoin_concat_oneUnless,
    not_any_of_isEmpty, hostgroupAlternatives_eq hgroups]
  simp only [picks, List.any_append, any_serverAlternatives, List.any_map, List.any_cons,
    List.any_nil]
  simp [freeHosts, boundHosts, Function.comp_def]

end Alternatives

/-- No row of the base is picked by a selection that an exclusion of the row is not bound to. The
    excluded servers are bound to the selected ones. The excluded host groups are bound to the
    last term of the selected ones, or to the servers if no host group is selected, and the
    excluded hosts to the last term of whatever comes before them. -/
structure ExclusionsBind (o : HostResourceQueryOption) : Prop where
  servers_hostgroups : o.selectedHostgroups ≠ [] →
    (o.selectedServers.isEmpty && o.excludedServers.isEmpty) = false →
    ∀ r, o.inBase r → o.passesServers r →
      o.excludedHostgroups.any r.hasHostgroup = false ∧ o.excludedHosts.any r.hasHost = false
  servers_hosts : o.selectedHostgroups = [] → o.selectedHosts ≠ [] →
    (o.selectedServers.isEmpty && o.excludedServers.isEmpty && o.excludedHostgroups.isEmpty) =
      false →
    ∀ r, o.inBase r → o.passesServers r → o.excludedHostgroups.any r.hasHostgroup = false →
      o.excludedHosts.any r.hasHost = false
  freeHostgroups : ∀ r, o.inBase r → o.freeHostgroups.any r.hasHostgroup → o.excludes r = false
  boundHostgroups : ∀ r, o.inBase r → o.boundHostgroups.any r.hasHostgroup →
    o.excludedHostgroups.any r.hasHostgroup = false →
    (o.selectedHosts = [] → o.excludedHosts.any r.hasHost = false) →
      o.excludedServers.contains r.serverId = false ∧ o.excludedHosts.any r.hasHost = false
  freeHosts : ∀ r, o.inBase r → o.freeHosts.any r.hasHost → o.excludes r = false
  boundHosts : ∀ r, o.inBase r → o.boundHosts.any r.hasHost →
    o.excludedHosts.any r.hasHost = false →
      o.excludedServers.contains r.serverId = false ∧
        o.excludedHostgroups.any r.hasHostgroup = false

section Exclusions

variable {o : HostResourceQueryOption} (hprivilege : o.has .getAllServer) (hterms : o.hasTerms)

include hprivilege hterms

/-- Bound exclusions keep their rows out. -/
theorem not_excludes_of_bind (hbind : o.ExclusionsBind) {r : HostRow} (hbase : o.inBase r)
    (hpasses : o.passesFilters r) : o.excludes r = false := by
  have hservers : o.passesServers r → o.excludedServers.contains r.serverId = false := by
    intro h
    simp only [passesServers, Bool.and_eq_true, Bool.not_eq_true'] at h
    exact h.2
  obtain ⟨hnoGroups, hnoHosts⟩ := terms_of_nil hterms r
  by_cases hgroups : o.selectedHostgroups = []
  · by_cases hhosts : o.selectedHosts = []
    · rw [passesFilters_servers (hnoGroups hgroups) (hnoHosts hhosts)] at hpasses
      simp only [Bool.and_eq_true, Bool.not_eq_true'] at hpasses
      exact (excludes_eq_false hprivilege).mpr ⟨hservers hpasses.1.1, hpasses.1.2, hpasses.2⟩
    · rw [passesFilters_hosts (hnoGroups hgroups) hhosts] at hpasses
      simp only [Bool.or_eq_true, Bool.and_eq_true, Bool.not_eq_true'] at hpasses
      rcases hpasses with (⟨hany, hserver, hgroup⟩ | hfree) | ⟨hbound, hhost⟩
      · have hhost := hbind.servers_hosts hgroups hhosts hany r hbase hserver hgroup
        exact (excludes_eq_false hprivilege).mpr ⟨hservers hserver, hgroup, hhost⟩
      · exact hbind.freeHosts r hbase hfree
      · obtain ⟨hserver, hgroup⟩ := hbind.boundHosts r hbase hbound hhost
        exact (excludes_eq_false hprivilege).mpr ⟨hserver, hgroup, hhost⟩
  · by_cases hhosts : o.selectedHosts = []
    · rw [passesFilters_hostgroups hgroups (hnoHosts hhosts)] at hpasses
      simp only [Bool.or_eq_true, Bool.and_eq_true, Bool.not_eq_true'] at hpasses
      rcases hpasses with (⟨hany, hserver⟩ | hfree) | ⟨⟨hbound, hgroup⟩, hhost⟩
      · obtain ⟨hgroup, hhost⟩ := hbind.servers_hostgroups hgroups hany r hbase hserver
        exact (excludes_eq_false hprivilege).mpr ⟨hservers hserver, hgroup, hhost⟩
      · exact hbind.freeHostgroups r hbase hfree
      · obtain ⟨hserver, -⟩ := hbind.boundHostgroups r hbase hbound hgroup fun _ => hhost
        exact (excludes_eq_false hprivilege).mpr ⟨hserver, hgroup, hhost⟩
    · rw [passesFilters_both hgroups hhosts] at hpasses
      simp only [Bool.or_eq_true, Bool.and_eq_true, Bool.not_eq_true'] at hpasses
      rcases hpasses with (((⟨hany, hserver⟩ | hfree) | ⟨hbound, hgroup⟩) | hfree) | ⟨hbound, hhost⟩
      · obtain ⟨hgroup, hhost⟩ := hbind.servers_hostgroups hgroups hany r hbase hserver
        exact (excludes_eq_false hprivilege).mpr ⟨hservers hserver, hgroup, hhost⟩
      · exact hbind.freeHostgroups r hbase hfree
      · obtain ⟨hserver, hhost⟩ :=
          hbind.boundHostgroups r hbase hbound hgroup fun h => absurd h hhosts
        exact (excludes_eq_false hprivilege).mpr ⟨hserver, hgroup, hhost⟩
      · exact hbind.freeHosts r hbase hfree
      · obtain ⟨hserver, hgroup⟩ := hbind.boundHosts r hbase hbound hhost
        exact (excludes_eq_false hprivilege).mpr ⟨hserver, hgroup, hhost⟩

/-- Where exclusions keep their rows out they are bound. -/
theorem bind_of_not_excludes
    (hwins : ∀ r, o.inBase r → o.passesFilters r → o.excludes r = false) : o.ExclusionsBind := by
  have hterm := terms_of_nil hterms
  refine ⟨fun hgroups hany r hbase hserver => ?_, fun hgroups hhosts hany r hbase hserver hgroup => ?_,
    fun r hbase hfree => ?_, fun r hbase hbound hgroup hhost => ?_, fun r hbase hfree => ?_,
    fun r hbase hbound hhost => ?_⟩
  · refine ((excludes_eq_false hprivilege).mp (hwins r hbase ?_)).2
    by_cases hhosts : o.selectedHosts = []
    · simp [passesFilters_hostgroups hgroups ((hterm r).2 hhosts), hany, hserver]
    · simp [passesFilters_both hgroups hhosts, hany, hserver]
  · refine ((excludes_eq_false hprivilege).mp (hwins r hbase ?_)).2.2
    simp [passesFilters_hosts ((hterm r).1 hgroups) hhosts, hany, hserver, hgroup]
  · have hgroups : o.selectedHostgroups ≠ [] := by
      rintro hnil
      simp [freeHostgroups, freePairs, hnil] at hfree
    refine hwins r hbase ?_
    by_cases hhosts : o.selectedHosts = []
    · simp [passesFilters_hostgroups hgroups ((hterm r).2 hhosts), hfree]
    · simp [passesFilters_both hgroups hhosts, hfree]
  · have hgroups : o.selectedHostgroups ≠ [] := by
      rintro hnil
      simp [boundHostgroups, boundPairs, hnil] at hbound
    have hexcludes := (excludes_eq_false hprivilege).mp (hwins r hbase ?_)
    · exact ⟨hexcludes.1, hexcludes.2.2⟩
    · by_cases hhosts : o.selectedHosts = []
      · simp [passesFilters_hostgroups hgroups ((hterm r).2 hhosts), hbound, hgroup, hhost hhosts]
      · simp [passesFilters_both hgroups hhosts, hbound, hgroup]
  · have hhosts : o.selectedHosts ≠ [] := by
      rintro hnil
      simp [freeHosts, freePairs, hnil] at hfree
    refine hwins r hbase ?_
    by_cases hgroups : o.selectedHostgroups = []
    · simp [passesFilters_hosts ((hterm r).1 hgroups) hhosts, hfree]
    · simp [passesFilters_both hgroups hhosts, hfree]
  · have hhosts : o.selectedHosts ≠ [] := by
      rintro hnil
      simp [boundHosts, boundPairs, hnil] at hbound
    have hexcludes := (excludes_eq_false hprivilege).mp (hwins r hbase ?_)
    · exact ⟨hexcludes.1, hexcludes.2.1⟩
    · by_cases hgroups : o.selectedHostgroups = []
      · simp [passesFilters_hosts ((hterm r).1 hgroups) hhosts, hbound, hhost]
      · simp [passesFilters_both hgroups hhosts, hbound, hhost]

omit hterms in
/-- Where something leaks there is no exclusion. -/
theorem not_excludes_of_leaks {r : HostRow} (hleaks : o.leaks r) : o.excludes r = false := by
  rw [excludes_eq_false hprivilege]
  simp only [leaks, leakedHostgroups, leakedHosts, Bool.or_eq_true, List.any_eq_true] at hleaks
  rcases hleaks with ⟨pair, hpair, -⟩ | ⟨pair, hpair, -⟩ <;> split at hpair <;> simp_all

end Exclusions

/-- An administrator selects server 1 and host 5 of server 1 and excludes host 5. -/
def hostSelectedAndExcludedQuery : HostResourceQueryOption :=
  { new synapseTriggersQueryOption administrator with
    selectedServerIdSet := {1}
    selectedServerHostSetMap := {(1, {.ofString "5"})}
    excludedServerHostSetMap := {(1, {.ofString "5"})} }

/-- An administrator excludes host 5 of server 1. -/
def hostExcludedQuery : HostResourceQueryOption :=
  { new synapseTriggersQueryOption administrator with
    excludedServerHostSetMap := {(1, {.ofString "5"})} }

end HostResourceQueryOption

end Hatohol

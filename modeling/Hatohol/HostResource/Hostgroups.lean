import Hatohol.HostResource.Access

/-!
# Two checks of a host group

Whether a user may see a host group is asked in two ways: `isAllowedHostgroup` looks it up in the
access list, and `makeConditionAllowedHosts` writes the access list into the condition of a query.
-/

namespace Hatohol

open Sql DBTermCodec

namespace HostResourceQueryOption

variable {o : HostResourceQueryOption}

/-- The option with all of its targets set to ALL. -/
def allTargets (o : HostResourceQueryOption) : HostResourceQueryOption :=
  { o with
    targetServerId := allServers
    targetHostId := allLocalHosts
    targetHostgroupId := allHostGroups }

/-- The condition for the access list says this of every row of a server and a host group. -/
def AllowsRow (o : HostResourceQueryOption) (pair : ServerIdType × HostgroupIdType)
    (allowed : Bool) : Prop :=
  ∃ condition, o.allTargets.makeConditionAllowedHosts = .ok condition ∧
    ∀ hostId others,
      selects condition (o.allTargets.rowOf ⟨pair.1, hostId, pair.2⟩ others) = allowed

/-- The two checks give one answer. -/
def ChecksAgree (o : HostResourceQueryOption) (pair : ServerIdType × HostgroupIdType) : Prop :=
  ∃ allowed, o.isAllowedHostgroup pair.1 pair.2 = some allowed ∧ o.AllowsRow pair allowed

/-- An entry of the access list grants the pair, and the text of the whole list can be read. -/
def entryGrants (o : HostResourceQueryOption) (pair : ServerIdType × HostgroupIdType) : Bool :=
  (o.getAllowedServersAndHostgroups.toList.all fun entry => !entry.2.isEmpty) &&
    o.getAllowedServersAndHostgroups[pair.1]?.any fun hostgroupIdSet =>
      hostgroupIdSet.contains allHostGroups || hostgroupIdSet.contains pair.2

theorem entries_allTargets (o : HostResourceQueryOption) :
    o.allTargets.entries = o.getAllowedServersAndHostgroups.toList :=
  entries_of_allServers rfl

theorem seesAllServers_allTargets (o : HostResourceQueryOption) :
    o.allTargets.seesAllServers = o.getAllowedServersAndHostgroups.contains allServers := by
  rw [seesAllServers]
  exact Bool.true_and _

theorem any_entryShows_allTargets (pair : ServerIdType × HostgroupIdType)
    (hostId : LocalHostIdType) :
    o.allTargets.entries.any (o.allTargets.entryShows ⟨pair.1, hostId, pair.2⟩) =
      o.getAllowedServersAndHostgroups[pair.1]?.any fun hostgroupIdSet =>
        hostgroupIdSet.contains allHostGroups || hostgroupIdSet.contains pair.2 := by
  rw [entries_allTargets, Bool.eq_iff_iff, List.any_eq_true, Option.any_eq_true]
  constructor
  · rintro ⟨⟨serverId, hostgroupIdSet⟩, hentry, hshows⟩
    rw [entryShows, Bool.and_eq_true, beq_iff_eq] at hshows
    obtain ⟨rfl, hgroups⟩ := hshows
    exact ⟨hostgroupIdSet, Std.TreeMap.mem_toList_iff_getElem?_eq_some.mp hentry, hgroups⟩
  · rintro ⟨hostgroupIdSet, hget, hgroups⟩
    refine ⟨(pair.1, hostgroupIdSet), Std.TreeMap.mem_toList_iff_getElem?_eq_some.mpr hget, ?_⟩
    rw [entryShows, Bool.and_eq_true, beq_iff_eq]
    exact ⟨rfl, hgroups⟩

/-- What the condition for the access list says of the rows of a pair. -/
theorem allowsRow_iff (hne : o.getAllowedServersAndHostgroups.isEmpty = false)
    (pair : ServerIdType × HostgroupIdType) (allowed : Bool) :
    o.AllowsRow pair allowed ↔
      (o.getAllowedServersAndHostgroups.contains allServers || o.entryGrants pair) = allowed := by
  have hsize : o.getAllowedServersAndHostgroups.size ≠ 0 := by
    rw [Std.TreeMap.isEmpty_eq_size_eq_zero] at hne
    simpa using hne
  have hlist : o.getAllowedServersAndHostgroups.toList.isEmpty = false := by
    rw [← Bool.not_eq_true, List.isEmpty_iff_length_eq_zero, Std.TreeMap.length_toList]
    exact hsize
  have hcondition : o.allTargets.makeConditionAllowedHosts = .ok
      (o.allTargets.allowedHostsLoop o.getAllowedServersAndHostgroups.toList "" 0) := by
    change Except.ok (if o.getAllowedServersAndHostgroups.size = 0 then _ else _) = _
    rw [if_neg hsize, if_neg fun h => h.1 rfl]
    rfl
  have hselects : ∀ hostId others,
      selects (o.allTargets.allowedHostsLoop o.getAllowedServersAndHostgroups.toList "" 0)
        (o.allTargets.rowOf ⟨pair.1, hostId, pair.2⟩ others) =
      (o.getAllowedServersAndHostgroups.contains allServers || o.entryGrants pair) := by
    intro hostId others
    have hdenotes : Denotes (o.allTargets.allowedHostsLoop
        o.getAllowedServersAndHostgroups.toList "" 0) o.allTargets.allowedForm :=
      denotes_allowedForm o.allTargets
    rw [hdenotes.selects_eq]
    have hcomplete := complete_allowedForm o.allTargets
    rw [seesAllServers_allTargets, entries_allTargets, hlist] at hcomplete
    cases hform : Text.complete o.allTargets.allowedForm with
    | false =>
      rw [hform] at hcomplete
      obtain ⟨hall, hentries⟩ := Bool.or_eq_false_iff.mp hcomplete.symm
      rw [hall, entryGrants]
      have hnone : (o.getAllowedServersAndHostgroups.toList.all fun entry => !entry.2.isEmpty) =
          false := hentries
      rw [hnone]
      rfl
    | true =>
      rw [hform] at hcomplete
      have hrow : o.allTargets.rowOf ⟨pair.1, hostId, pair.2⟩ others
          o.allTargets.getHostgroupIdColumnName = .str pair.2.text := by
        have hne : o.allTargets.getServerIdColumnName ≠ o.allTargets.getHostgroupIdColumnName :=
          o.synapse.server_ne_hostgroup _
        simp [rowOf, hne.symm]
      rw [(alts_allowedForm (hasRow_rowOf _ _ _).server hrow hform).2, seesAllServers_allTargets,
        any_entryShows_allTargets, Bool.true_and, entryGrants]
      cases hall : o.getAllowedServersAndHostgroups.contains allServers with
      | true => rfl
      | false =>
        rw [hall] at hcomplete
        have hentries : (o.getAllowedServersAndHostgroups.toList.all fun entry =>
          !entry.2.isEmpty) = true := hcomplete.symm
        rw [hentries, Bool.true_and]
  constructor
  · rintro ⟨condition, hok, hrows⟩
    obtain rfl := Except.ok.inj (hcondition.symm.trans hok)
    rw [← hselects (.ofString "") (fun _ => .null)]
    exact hrows _ _
  · rintro rfl
    exact ⟨_, hcondition, hselects⟩

/-- The two checks agree where all servers are granted, where a user who sees all servers has the
    pair in the access list, and where any other user has the server in it but not the pair. -/
theorem checksAgree_iff (hne : o.getAllowedServersAndHostgroups.isEmpty = false)
    (pair : ServerIdType × HostgroupIdType) :
    o.ChecksAgree pair ↔ o.getAllowedServersAndHostgroups.contains allServers ∨
      (o.has .getAllServer ∧ o.entryGrants pair) ∨
      (o.has .getAllServer = false ∧ o.getAllowedServersAndHostgroups.contains pair.1 ∧
        o.entryGrants pair = false) := by
  have hrow := allowsRow_iff hne pair
  simp only [ChecksAgree, hrow]
  cases hprivilege : o.has .getAllServer with
  | true => simp [isAllowedHostgroup, hprivilege]
  | false =>
    cases hall : o.getAllowedServersAndHostgroups.contains allServers with
    | true => simp [isAllowedHostgroup, hprivilege, hall]
    | false =>
      cases hserver : o.getAllowedServersAndHostgroups.contains pair.1 with
      | true => simp [isAllowedHostgroup, hprivilege, hall, hserver]
      | false => simp [isAllowedHostgroup, hprivilege, hall, hserver]

/-! ## The filter for selected host groups -/

/-- The filter names the pair. -/
def names (o : HostResourceQueryOption) (pair : ServerIdType × HostgroupIdType) : Bool :=
  o.selectedServerHostgroupSetMap[pair.1]?.any (·.contains pair.2)

def MaySee (o : HostResourceQueryOption) (pair : ServerIdType × HostgroupIdType) : Prop :=
  o.has .getAllServer ∨ o.AllowsRow pair true

/-- The filter selects the rows of the pairs that it names, and no others. -/
def FilterExact (o : HostResourceQueryOption) : Prop :=
  ∀ r others, selects o.makeConditionSelectedHostgroups (o.rowOf r others) =
    o.names (r.serverId, r.hostgroupId)

section Unrestricted

variable (hsees : o.has .getAllServer ∨ o.getAllowedServersAndHostgroups.contains allServers)

include hsees

theorem isAllowedServer_of_sees (serverId : ServerIdType) : o.isAllowedServer serverId := by
  rw [isAllowedServer]
  rcases hsees with hprivilege | hall
  · rw [if_pos hprivilege]
  · rw [hall, Bool.true_or]
    exact ite_self _

theorem allowsHostgroup_of_sees (serverId : ServerIdType) (hostgroupId : HostgroupIdType) :
    o.allowsHostgroup serverId hostgroupId := by
  rw [allowsHostgroup, isAllowedHostgroup]
  rcases hsees with hprivilege | hall
  · rw [if_pos hprivilege]
    rfl
  · rw [if_pos hall]
    split <;> rfl

/-- Every pair that is named is left in the filter. -/
theorem mem_selectedHostgroups (pair : ServerIdType × HostgroupIdType) :
    pair ∈ o.selectedHostgroups ↔ o.names pair := by
  simp only [selectedHostgroups, leftPairs, isAllowedServer_of_sees hsees,
    allowsHostgroup_of_sees hsees, if_true, List.mem_flatMap, List.mem_map, List.mem_filter,
    and_true]
  rw [names, Option.any_eq_true]
  constructor
  · rintro ⟨⟨serverId, ids⟩, hentry, id, hid, rfl⟩
    exact ⟨ids, Std.TreeMap.mem_toList_iff_getElem?_eq_some.mp hentry, by simpa using hid⟩
  · rintro ⟨ids, hget, hid⟩
    exact ⟨(pair.1, ids), Std.TreeMap.mem_toList_iff_getElem?_eq_some.mpr hget, pair.2,
      by simpa using hid, rfl⟩

theorem filterExact_of_sees {named : ServerIdType × HostgroupIdType} (hnamed : o.names named) :
    o.FilterExact := by
  intro r others
  have hmem : named ∈ o.selectedHostgroups := (mem_selectedHostgroups hsees named).mpr hnamed
  have hleft : o.leftPairs o.selectedServerHostgroupSetMap o.allowsHostgroup ≠ [] :=
    List.ne_nil_of_mem hmem
  have hcomplete : Text.complete o.selectedHostgroupsForm := by
    rw [selectedHostgroupsForm, complete_pairsForm _ _ _ _ Text.wellFormed_paren,
      List.isEmpty_eq_false_iff.mpr hleft, Bool.and_false]
    rfl
  have hne : o.getServerIdColumnName ≠ o.getHostgroupIdColumnName :=
    o.synapse.server_ne_hostgroup _
  have hid : o.rowOf r others o.getHostgroupIdColumnName = .str r.hostgroupId.text := by
    simp [rowOf, hne.symm]
  have halts : Text.alts (o.rowOf r others) o.selectedHostgroupsForm =
      termAlternatives (o.selectedServerHostgroupSetMap.size > 1)
        (o.selectedHostgroups.map r.hasHostgroup) :=
    alts_selectedPairs (hasRow_rowOf o r others) (fun _ => hid) hcomplete
  have hpicks : picks (termAlternatives (o.selectedServerHostgroupSetMap.size > 1)
      (o.selectedHostgroups.map r.hasHostgroup)) = o.selectedHostgroups.any r.hasHostgroup := by
    have hterms : o.selectedHostgroups.isEmpty = false := List.isEmpty_eq_false_iff.mpr hleft
    rw [termAlternatives, picks]
    split <;> simp [hterms, Function.comp_def]
  rw [(denotes_makeConditionSelectedHostgroups o).selects_eq, hcomplete, Bool.true_and, halts,
    hpicks, Bool.eq_iff_iff, ← mem_selectedHostgroups hsees, List.any_eq_true]
  constructor
  · rintro ⟨pair, hpair, hhas⟩
    rw [HostRow.hasHostgroup, Bool.and_eq_true, beq_iff_eq, beq_iff_eq] at hhas
    obtain ⟨hserver, hgroup⟩ := hhas
    rwa [hserver, hgroup]
  · intro hpair
    exact ⟨_, hpair, by simp [HostRow.hasHostgroup]⟩

end Unrestricted

/-- For any other user the filter loses every term: what is left is no text, or none that can be
    read. -/
theorem not_filterExact (hprivilege : o.has .getAllServer = false)
    (hall : o.getAllowedServersAndHostgroups.contains allServers = false)
    {named : ServerIdType × HostgroupIdType} (hnamed : o.names named) : ¬ o.FilterExact := by
  intro hexact
  have hnil := leftPairs_hostgroups hprivilege hall o.selectedServerHostgroupSetMap
  have hform : o.selectedHostgroupsForm =
      wrapIf (o.selectedServerHostgroupSetMap.size > 1) none := by
    rw [selectedHostgroupsForm, pairsForm, hnil]
    rfl
  have hselects := fun r others => (denotes_makeConditionSelectedHostgroups o).selects_eq
    (o.rowOf r others)
  rw [hform] at hselects
  by_cases hsize : o.selectedServerHostgroupSetMap.size > 1
  · have hrow := hexact ⟨named.1, .ofString "", named.2⟩ fun _ => .null
    rw [hselects, wrapIf, if_pos (by simpa using hsize)] at hrow
    rw [← hrow] at hnamed
    simp [Text.wrap, Text.wellFormed] at hnamed
  · obtain ⟨ids, hget, -⟩ := (Option.any_eq_true _ _).mp hnamed
    obtain ⟨hostgroupId, hfresh⟩ := exists_not_contains ids
    have hrow := hexact ⟨named.1, .ofString "", hostgroupId⟩ fun _ => .null
    rw [hselects, wrapIf, if_neg (by simpa using hsize), names, hget, Option.any_some, hfresh] at hrow
    simp [Text.complete, Text.alts, picks] at hrow

theorem filterExact_iff {named : ServerIdType × HostgroupIdType} (hnamed : o.names named) :
    o.FilterExact ↔
      o.has .getAllServer ∨ o.getAllowedServersAndHostgroups.contains allServers := by
  constructor
  · intro hexact
    by_contra hsees
    rw [not_or, Bool.not_eq_true, Bool.not_eq_true] at hsees
    exact not_filterExact hsees.1 hsees.2 hnamed hexact
  · exact fun hsees => filterExact_of_sees hsees hnamed

/-- A user who may see host group 10 of server 1 selects it. -/
def ownHostgroupFilter : HostResourceQueryOption :=
  { new synapseTriggersQueryOption oneHostgroupUser with
    selectedServerHostgroupSetMap := {(1, {.ofString "10"})} }

end HostResourceQueryOption

end Hatohol

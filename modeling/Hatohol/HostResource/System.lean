import Hatohol.HostResource.Access

/-!
# Queries of the server itself

Before hosts, triggers or items are synchronised, what is stored of them is read as the user
USER_ID_SYSTEM: with every privilege, without filters, for one server. Such a query shows the rows
of its target if that is a server that is set up, and every appended condition restricts it.
-/

namespace Hatohol

open Sql

namespace OperationPrivilege

theorem has_allPrivileges (type : OperationPrivilegeType) : allPrivileges.has type := by
  cases type <;> decide

end OperationPrivilege

namespace HostResourceQueryOption

structure IsSystemQuery (o : HostResourceQueryOption) : Prop where
  privilege : o.has .getAllServer
  filters : o.hasNoFilters
  hostgroup : o.targetHostgroupId = allHostGroups
  host : o.synapse.hostIdColumnIdx.isSome ∨ o.targetHostId = allLocalHosts

theorem isSystemQuery_new {synapse : Synapse} {hostId : LocalHostIdType}
    (hhost : synapse.hostIdColumnIdx.isSome ∨ hostId = allLocalHosts) (servers : ServerIdSet)
    (full : Bool) (serverId : ServerIdType) :
    IsSystemQuery { new synapse (systemContext servers) with
      tableNameAlways := full, targetServerId := serverId, targetHostId := hostId } where
  privilege := OperationPrivilege.has_allPrivileges _
  filters := by simp [hasNoFilters, new]
  hostgroup := rfl
  host := hhost

namespace IsSystemQuery

variable {o : HostResourceQueryOption} (ho : o.IsSystemQuery) {row : String → Value} {r : HostRow}

include ho

theorem isHostgroupUsed : o.isHostgroupUsed = false := by
  have hfilters := ho.filters
  simp only [hasNoFilters, Bool.and_eq_true] at hfilters
  simp [HostResourceQueryOption.isHostgroupUsed, isHostgroupEnumerationInCondition, ho.privilege,
    ho.hostgroup, hfilters.1.1.1.2, hfilters.1.1.2]

theorem namesHostgroup : o.namesHostgroup = false := by
  have hfilters := ho.filters
  simp only [hasNoFilters, Bool.and_eq_true] at hfilters
  simp [HostResourceQueryOption.namesHostgroup, ho.privilege, ho.hostgroup, hfilters.1.1.1.2,
    hfilters.1.1.2]

theorem denied : o.denied = false := by simp [HostResourceQueryOption.denied, ho.privilege]

theorem hasColumns : o.hasColumns := by
  have hfilters := ho.filters
  simp only [hasNoFilters, Bool.and_eq_true] at hfilters
  rcases ho.host with hhost | hhost
  · simp [HostResourceQueryOption.hasColumns, hhost]
  · simp [HostResourceQueryOption.hasColumns, namesHost, hhost, hfilters.1.2, hfilters.2]

theorem hasEntries : o.hasEntries := by simp [HostResourceQueryOption.hasEntries, ho.privilege]

theorem inBase_eq (r : HostRow) : o.inBase r = (o.isValid r && o.isTargeted r) := by
  simp [inBase, isAllowed, ho.privilege]

theorem complete_form : Text.complete o.form := by
  rw [HostResourceQueryOption.complete_form, ho.hasEntries, (noFilters_spec ho.filters).1]
  rfl

theorem getCondition : ∃ s, o.getCondition = .ok s ∧ Denotes s o.form :=
  denotes_form ho.hasColumns ho.denied

theorem alts_form (hrow : o.HasRow row r) :
    (Text.alts row o.form).length ≤ 1 ∧
      picks (Text.alts row o.form) = (o.isValid r && o.isTargeted r) := by
  obtain ⟨hterms, hpasses, hgroups, hhosts⟩ := noFilters_spec ho.filters
  obtain ⟨hlen, hbase⟩ :=
    alts_baseForm ho.hasColumns hrow ((complete_baseForm o).trans ho.hasEntries)
  have hlen' := length_alts_filterForm ho.hasColumns hrow hterms hgroups hhosts
  rw [form, Text.alts_glue_and, picks_conjoin_single hlen hlen', hbase,
    picks_filterForm ho.hasColumns hrow hterms, hpasses, Bool.and_true, ho.inBase_eq]
  exact ⟨length_conjoin_le hlen hlen', rfl⟩

/-- Conditions that are appended one by one, some of them absent, restrict what is shown. -/
theorem selects_appended (hrow : o.HasRow row r) (forms : List (Option Text))
    (hforms : ∀ t, some t ∈ forms → t.isSingle ∧ t.wellFormed) {s : String}
    (hs : Denotes s (forms.foldl (Text.glue .and) o.form)) :
    selects s row =
      (o.isValid r && o.isTargeted r && forms.all fun form => form.all (Text.holds row)) := by
  obtain ⟨hlen, hpicks⟩ := ho.alts_form hrow
  have hcomplete : forms.all Text.complete := by
    rw [List.all_eq_true]
    intro form hform
    cases form with
    | none => rfl
    | some t => exact (hforms t hform).2
  rw [hs.selects_eq, Text.complete_foldl_glue, ho.complete_form, hcomplete,
    Text.alts_foldl_glue row fun t ht => (hforms t ht).1]
  split
  · rename_i hnone
    have hall : (forms.all fun form => form.all (Text.holds row)) = true := by
      rw [List.all_eq_true] at hnone ⊢
      intro form hform
      rw [Option.isNone_iff_eq_none.mp (hnone form hform)]
      rfl
    rw [conjoin_nil_right, hpicks, hall]
    simp
  · rw [picks_conjoin_single hlen (by simp), hpicks]
    simp [picks]

theorem selects_form (hrow : o.HasRow row r) {s : String} (hs : Denotes s o.form) :
    selects s row = (o.isValid r && o.isTargeted r) := by
  simpa using ho.selects_appended hrow [] (by simp) hs

end IsSystemQuery

end HostResourceQueryOption

end Hatohol

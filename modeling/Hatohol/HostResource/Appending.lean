import Hatohol.HostResource.Filters

/-!
# Conditions appended to a host resource query

The queries for events and triggers append filters of their own to the condition with `AND`. They
bind its last alternative only: `escapes` is what the others pick. A condition that is there at
all rejects some row, which is what a bare `OR` behind it undoes.
-/

namespace Hatohol

open Sql

namespace HostResourceQueryOption

/-! ## What an appended condition does not reach -/

/-- The row is picked by an alternative before the last one. -/
def escapes (o : HostResourceQueryOption) (r : HostRow) : Bool :=
  (!o.leakedHostgroups.isEmpty && (o.inBase r && o.selectedHostgroups.head?.any r.hasHostgroup)) ||
    o.leakedHostgroups.dropLast.any r.hasHostgroup ||
    (!o.leakedHosts.isEmpty && (o.inBase r && o.selectedHosts.head?.any r.hasHost)) ||
    o.leakedHosts.dropLast.any r.hasHost

/-- Terms with no parentheses around them, behind a conjunction. -/
theorem dropLast_conjoin_map {as : List Bool} (has : as.length ≤ 1) {α : Type} {terms : List α}
    (hterms : terms.tail ≠ []) (f : α → Bool) :
    (conjoin as (terms.map f)).dropLast.any id =
      ((picks as && terms.head?.any f) || terms.tail.dropLast.any f) := by
  match terms with
  | [] => simp at hterms
  | [_] => simp at hterms
  | first :: second :: rest =>
    rw [List.map_cons, conjoin_cons has, List.map_cons, List.dropLast_cons_cons, ← List.map_cons,
      ← List.map_dropLast, List.any_cons, List.any_map]
    rfl

theorem dropLast_form {o : HostResourceQueryOption} {row : String → Value} {r : HostRow}
    (hanswers : o.answers) (hrow : o.HasRow row r) :
    (Text.alts row o.form).dropLast.any id = o.escapes r := by
  simp only [answers, Bool.and_eq_true] at hanswers
  obtain ⟨⟨⟨-, hcolumns⟩, hentries⟩, hterms⟩ := hanswers
  obtain ⟨hlen, hbase⟩ := alts_baseForm hcolumns hrow ((complete_baseForm o).trans hentries)
  rw [form, Text.alts_glue_and]
  unfold escapes
  by_cases hgroups : o.leakedHostgroups = []
  · by_cases hhosts : o.leakedHosts = []
    · have hfilter := length_alts_filterForm hcolumns hrow hterms hgroups hhosts
      have hall := length_conjoin_le hlen hfilter
      have hnil : (conjoin (Text.alts row o.baseForm) (Text.alts row o.filterForm)).dropLast = [] :=
        by
        apply List.eq_nil_of_length_eq_zero
        rw [List.length_dropLast]
        omega
      simp [hnil, hgroups, hhosts]
    · have htail := (leakedHosts_ne_nil hhosts).2.1
      rw [alts_filterForm_hosts hcolumns hrow hterms hhosts,
        dropLast_conjoin_map hlen (by rwa [← htail]), hbase, ← htail]
      simp [hgroups, List.isEmpty_eq_false_iff.mpr hhosts]
  · obtain ⟨-, htail, hhosts⟩ := leakedHostgroups_ne_nil hgroups
    rw [alts_filterForm_hostgroups hcolumns hrow hterms hgroups,
      dropLast_conjoin_map hlen (by rwa [← htail]), hbase, ← htail]
    simp [List.isEmpty_eq_false_iff.mpr hgroups, hhosts]

/-- Appended conditions bind every row: nothing leaks, or one term does and no row of the base has
    the term before it. -/
structure BindsAppended (o : HostResourceQueryOption) : Prop where
  hostgroups : o.leakedHostgroups ≠ [] → o.leakedHostgroups.length = 1 ∧
    ∀ first ∈ o.selectedHostgroups.head?, ∀ r, o.inBase r → r.hasHostgroup first = false
  hosts : o.leakedHosts ≠ [] → o.leakedHosts.length = 1 ∧
    ∀ first ∈ o.selectedHosts.head?, ∀ r, o.inBase r → r.hasHost first = false

theorem dropLast_eq_nil {α : Type} {xs : List α} (hne : xs ≠ []) :
    xs.dropLast = [] ↔ xs.length = 1 := by
  have hpos := List.length_pos_iff.mpr hne
  rw [← List.length_eq_zero_iff, List.length_dropLast]
  omega

/-- The rows that a list of terms picks before its last one. -/
theorem forall_escapes {α : Type} (base : HostRow → Bool) (first? : Option α) {leaked : List α}
    {f : HostRow → α → Bool} (hsome : ∀ a, ∃ r, f r a) (hne : leaked ≠ []) :
    (∀ r, ((base r && first?.any (f r)) || leaked.dropLast.any (f r)) = false) ↔
      leaked.length = 1 ∧ ∀ first ∈ first?, ∀ r, base r → f r first = false := by
  constructor
  · intro hall
    refine ⟨(dropLast_eq_nil hne).mp ?_, ?_⟩
    · apply List.eq_nil_iff_forall_not_mem.mpr
      intro a ha
      obtain ⟨r, hr⟩ := hsome a
      have hrow := (Bool.or_eq_false_iff.mp (hall r)).2
      rw [List.any_eq_false] at hrow
      exact hrow a ha hr
    · intro first hfirst r hbase
      have hrow := (Bool.or_eq_false_iff.mp (hall r)).1
      rw [Option.mem_def.mp hfirst, hbase] at hrow
      simpa using hrow
  · rintro ⟨hlen, hfirst⟩ r
    rw [(dropLast_eq_nil hne).mpr hlen]
    cases hbase : base r with
    | false => simp
    | true =>
      cases hf : first? with
      | none => simp
      | some a => simpa using hfirst a hf r hbase

theorem escapes_iff (o : HostResourceQueryOption) :
    (∀ r, o.escapes r = false) ↔ o.BindsAppended := by
  have hgroupRow (pair : ServerIdType × HostgroupIdType) : ∃ r : HostRow, r.hasHostgroup pair :=
    ⟨⟨pair.1, allLocalHosts, pair.2⟩, by simp [HostRow.hasHostgroup]⟩
  have hhostRow (pair : ServerIdType × LocalHostIdType) : ∃ r : HostRow, r.hasHost pair :=
    ⟨⟨pair.1, pair.2, allHostGroups⟩, by simp [HostRow.hasHost]⟩
  by_cases hgroups : o.leakedHostgroups = []
  · by_cases hhosts : o.leakedHosts = []
    · simp only [escapes, hgroups, hhosts]
      exact ⟨fun _ => ⟨fun h => absurd hgroups h, fun h => absurd hhosts h⟩, fun _ _ => by simp⟩
    · have hall := forall_escapes o.inBase o.selectedHosts.head? hhostRow hhosts
      simp only [escapes, hgroups, List.isEmpty_nil, List.dropLast_nil, List.any_nil, Bool.not_true,
        Bool.false_and, Bool.false_or, List.isEmpty_eq_false_iff.mpr hhosts, Bool.not_false,
        Bool.true_and, hall]
      exact ⟨fun h => ⟨fun hne => absurd hgroups hne, fun _ => h⟩, fun h => h.hosts hhosts⟩
  · have hhosts := (leakedHostgroups_ne_nil hgroups).2.2
    have hall := forall_escapes o.inBase o.selectedHostgroups.head? hgroupRow hgroups
    simp only [escapes, hhosts, List.isEmpty_nil, List.dropLast_nil, List.any_nil, Bool.not_true,
      Bool.false_and, Bool.or_false, List.isEmpty_eq_false_iff.mpr hgroups, Bool.not_false,
      Bool.true_and, hall]
    exact ⟨fun h => ⟨fun _ => h, fun hne => absurd hhosts hne⟩, fun h => h.hostgroups hgroups⟩

/-! ## Every condition rejects some row -/

theorem any_freePairs (parentheses : Bool) {pairs : List (ServerIdType × CString)}
    {f : ServerIdType × CString → Bool} (hpairs : pairs.any f = false) :
    (freePairs parentheses pairs).any f = false ∧ (boundPairs parentheses pairs).any f = false := by
  rw [List.any_eq_false] at hpairs
  simp only [List.any_eq_false]
  refine ⟨fun pair hpair => hpairs pair ?_, fun pair hpair => hpairs pair ?_⟩
  · unfold freePairs at hpair
    split at hpair
    · simp at hpair
    · exact List.mem_of_mem_dropLast hpair
  · unfold boundPairs at hpair
    split at hpair
    · exact hpair
    · exact List.mem_of_getLast? (by simpa using hpair)

section Rejected

variable {o : HostResourceQueryOption} {r : HostRow}

/-- The row has none of the host groups and hosts that the filters select. -/
structure Unselected (o : HostResourceQueryOption) (r : HostRow) : Prop where
  hostgroups : o.selectedHostgroups.any r.hasHostgroup = false
  hosts : o.selectedHosts.any r.hasHost = false

theorem Unselected.leaks (h : o.Unselected r) : o.leaks r = false := by
  have hgroups := List.any_eq_false.mp h.hostgroups
  have hhosts := List.any_eq_false.mp h.hosts
  rw [HostResourceQueryOption.leaks, Bool.or_eq_false_iff, List.any_eq_false, List.any_eq_false]
  refine ⟨fun pair hpair => hgroups pair ?_, fun pair hpair => hhosts pair ?_⟩
  · have hne : o.leakedHostgroups ≠ [] := List.ne_nil_of_mem hpair
    rw [(leakedHostgroups_ne_nil hne).2.1] at hpair
    exact List.mem_of_mem_tail hpair
  · have hne : o.leakedHosts ≠ [] := List.ne_nil_of_mem hpair
    rw [(leakedHosts_ne_nil hne).2.1] at hpair
    exact List.mem_of_mem_tail hpair

/-- What lets a row pass that no selection names: the servers, and what is bound to them. -/
theorem Unselected.passesFilters (h : o.Unselected r) (hterms : o.hasTerms) :
    o.passesFilters r =
      if o.selectedHostgroups ≠ [] then
        !(o.selectedServers.isEmpty && o.excludedServers.isEmpty) && o.passesServers r
      else if o.selectedHosts ≠ [] then
        !(o.selectedServers.isEmpty && o.excludedServers.isEmpty && o.excludedHostgroups.isEmpty) &&
          (o.passesServers r && !o.excludedHostgroups.any r.hasHostgroup)
      else o.passesServers r && !o.excludedHostgroups.any r.hasHostgroup &&
        !o.excludedHosts.any r.hasHost := by
  obtain ⟨hnoGroups, hnoHosts⟩ := terms_of_nil hterms r
  have hgroup := any_freePairs (o.selectedServerHostgroupSetMap.size > 1) h.hostgroups
  have hhost := any_freePairs (o.selectedServerHostSetMap.size > 1) h.hosts
  by_cases hgroups : o.selectedHostgroups = []
  · by_cases hhosts : o.selectedHosts = []
    · simp [passesFilters_servers (hnoGroups hgroups) (hnoHosts hhosts), hgroups, hhosts]
    · simp [passesFilters_hosts (hnoGroups hgroups) hhosts, hgroups, hhosts, freeHosts, boundHosts,
        hhost]
  · by_cases hhosts : o.selectedHosts = []
    · simp [passesFilters_hostgroups hgroups (hnoHosts hhosts), hgroups, freeHostgroups,
        boundHostgroups, hgroup]
    · simp [passesFilters_both hgroups hhosts, hgroups, freeHostgroups, boundHostgroups, hgroup,
        freeHosts, boundHosts, hhost]

theorem unselected_of_notMem {serverId : ServerIdType} {hostId : LocalHostIdType}
    {hostgroupId : HostgroupIdType} (hgroup : hostgroupId ∉ o.selectedHostgroups.map (·.2))
    (hhost : hostId ∉ o.selectedHosts.map (·.2)) :
    o.Unselected ⟨serverId, hostId, hostgroupId⟩ := by
  refine ⟨List.any_eq_false.mpr fun pair hpair => ?_, List.any_eq_false.mpr fun pair hpair => ?_⟩
  · intro hr
    simp only [HostRow.hasHostgroup, Bool.and_eq_true, beq_iff_eq] at hr
    exact hgroup (hr.2 ▸ List.mem_map_of_mem hpair)
  · intro hr
    simp only [HostRow.hasHost, Bool.and_eq_true, beq_iff_eq] at hr
    exact hhost (hr.2 ▸ List.mem_map_of_mem hpair)

/-- Filters with something left reject a row. -/
theorem exists_not_passesFilters (hterms : o.hasTerms) (hsome : o.filterForm.isSome) :
    ∃ r, o.passesFilters r = false ∧ o.leaks r = false := by
  obtain ⟨serverId, hserver⟩ := exists_notMem o.selectedServers
  obtain ⟨hostId, hhost⟩ := exists_notMem (o.selectedHosts.map (·.2))
  obtain ⟨hostgroupId, hgroup⟩ := exists_notMem (o.selectedHostgroups.map (·.2))
  have hfresh (serverId : ServerIdType) : o.Unselected ⟨serverId, hostId, hostgroupId⟩ :=
    unselected_of_notMem hgroup hhost
  have hreject {r : HostRow} (hr : o.Unselected r) (hpasses : o.passesFilters r = false) :
      ∃ r, o.passesFilters r = false ∧ o.leaks r = false := ⟨r, hpasses, hr.leaks⟩
  cases hselected : o.selectedServers with
  | cons first rest =>
    -- a server that is not selected
    apply hreject (hfresh serverId)
    have hnot : o.passesServers ⟨serverId, hostId, hostgroupId⟩ = false := by
      have hcontains : o.selectedServers.contains serverId = false := by simpa using hserver
      rw [passesServers, hcontains, hselected]
      rfl
    rw [(hfresh serverId).passesFilters hterms, hnot]
    simp
  | nil =>
    cases hexcluded : o.excludedServers with
    | cons first rest =>
      -- a server that is excluded
      apply hreject (hfresh first)
      have hnot : o.passesServers ⟨first, hostId, hostgroupId⟩ = false := by
        simp [passesServers, hexcluded]
      rw [(hfresh first).passesFilters hterms, hnot]
      simp
    | nil =>
      by_cases hgroups : o.selectedHostgroups = []
      · cases hexGroups : o.excludedHostgroups with
        | cons pair rest =>
          -- a host group that is excluded
          have hrow : o.Unselected ⟨pair.1, hostId, pair.2⟩ :=
            unselected_of_notMem (by simp [hgroups]) hhost
          apply hreject hrow
          rw [hrow.passesFilters hterms]
          simp [hgroups, hexGroups, HostRow.hasHostgroup]
        | nil =>
          by_cases hhosts : o.selectedHosts = []
          · cases hexHosts : o.excludedHosts with
            | cons pair rest =>
              -- a host that is excluded
              have hrow : o.Unselected ⟨pair.1, pair.2, hostgroupId⟩ :=
                unselected_of_notMem hgroup (by simp [hhosts])
              apply hreject hrow
              rw [hrow.passesFilters hterms]
              simp [hgroups, hhosts, hexHosts, HostRow.hasHost]
            | nil =>
              -- no filter has anything left
              have hnum : o.numFilters = 0 := by
                rw [numFilters_eq hterms]
                simp [emptyFilters, hselected, hexcluded, hgroups, hexGroups, hhosts, hexHosts]
              have hnone : o.filterForm = none := by
                have hflat := (isSome_flatForm o).not.mpr (by omega)
                simpa [filterForm, wrapIf, hnum] using hflat
              simp [hnone] at hsome
          · apply hreject (hfresh serverId)
            rw [(hfresh serverId).passesFilters hterms]
            simp [hgroups, hhosts, hselected, hexcluded, hexGroups]
      · apply hreject (hfresh serverId)
        rw [(hfresh serverId).passesFilters hterms]
        simp [hgroups, hselected, hexcluded]

/-- Whatever stands before the filters rejects a row of a new server, host and host group. -/
theorem inBase_of_notMem (hsome : o.baseForm.isSome) {serverId : ServerIdType}
    {hostId : LocalHostIdType} {hostgroupId : HostgroupIdType}
    (hserver : serverId ∉ o.targetServerId :: (o.getValidServerIdSet.toList ++ o.entries.map (·.1)))
    (hhost : hostId ≠ o.targetHostId) (hgroup : hostgroupId ≠ o.targetHostgroupId) :
    o.inBase ⟨serverId, hostId, hostgroupId⟩ = false := by
  simp only [List.mem_cons, List.mem_append, not_or] at hserver
  obtain ⟨htarget, hvalid, hentries⟩ := hserver
  simp only [baseForm, Text.isSome_glue, Bool.or_eq_true] at hsome
  rcases hsome with (hform | hform) | hform
  · have hdefunct : o.excludeDefunctServers := by
      simp only [validForm] at hform
      split at hform
      · assumption
      · simp at hform
    have hcontains : o.getValidServerIdSet.contains serverId = false := by
      rw [Bool.eq_false_iff]
      intro hmem
      exact hvalid (by simpa using hmem)
    simp [inBase, isValid, hdefunct, hcontains]
  · have hprivilege : o.has .getAllServer = false := by
      split at hform
      · simp at hform
      · rename_i hnot
        simpa using hnot
    have hsees : o.seesAllServers = false := by
      simp only [hprivilege, Bool.false_eq_true, if_false, allowedForm] at hform
      split at hform
      · simp at hform
      · rename_i hnot
        simpa using hnot
    have hentry : o.entries.any (o.entryShows ⟨serverId, hostId, hostgroupId⟩) = false := by
      rw [List.any_eq_false]
      intro entry hentry hshows
      simp only [entryShows, Bool.and_eq_true, beq_iff_eq] at hshows
      exact hentries (hshows.1 ▸ List.mem_map_of_mem hentry)
    simp [inBase, isAllowed, hprivilege, hsees, hentry]
  · have htexts : o.targetTexts ≠ [] := by simpa [targetForm] using hform
    have hnot : o.isTargeted ⟨serverId, hostId, hostgroupId⟩ = false := by
      rw [Bool.eq_false_iff]
      intro htargeted
      simp only [isTargeted, Bool.and_eq_true, Bool.or_eq_true, beq_iff_eq, htarget, hhost, hgroup,
        or_false] at htargeted
      exact htexts (by simp [targetTexts, htargeted])
    simp [inBase, hnot]

/-- A condition that is there rejects a row. -/
theorem exists_rejected (hterms : o.hasTerms) (hform : o.form ≠ none) :
    ∃ r, ((o.inBase r && o.passesFilters r) || o.leaks r) = false := by
  cases hbase : o.baseForm with
  | some t =>
    obtain ⟨serverId, hserver⟩ := exists_notMem
      (o.targetServerId :: (o.getValidServerIdSet.toList ++ o.entries.map (·.1)))
    obtain ⟨hostId, hhost⟩ := exists_notMem (o.targetHostId :: o.selectedHosts.map (·.2))
    obtain ⟨hostgroupId, hgroup⟩ :=
      exists_notMem (o.targetHostgroupId :: o.selectedHostgroups.map (·.2))
    simp only [List.mem_cons, not_or] at hhost hgroup
    have hrow : o.Unselected ⟨serverId, hostId, hostgroupId⟩ :=
      unselected_of_notMem hgroup.2 hhost.2
    refine ⟨⟨serverId, hostId, hostgroupId⟩, ?_⟩
    rw [inBase_of_notMem (by simp [hbase]) hserver hhost.1 hgroup.1, hrow.leaks]
    rfl
  | none =>
    have hfilter : o.filterForm.isSome := by
      rw [Option.isSome_iff_ne_none]
      intro hnone
      exact hform (by simp [form, hbase, hnone, Text.glue])
    obtain ⟨r, hpasses, hleaks⟩ := exists_not_passesFilters hterms hfilter
    exact ⟨r, by simp [hpasses, hleaks]⟩

end Rejected

end HostResourceQueryOption

end Hatohol

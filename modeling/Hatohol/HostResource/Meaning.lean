import Hatohol.HostResource.Form

/-!
# Which rows a host resource query shows

The meaning of the text `form` for a row of one server, host and host group: `shows_row` says
that a query shows the rows of its base (valid, allowed and targeted) that pass the filters, and
besides them those that leak: where the only filter is a list of host groups or hosts of one
server, its terms are joined by `OR` with no parentheses around them, and the base is bound to the
first of them only.
-/

namespace Hatohol

open Sql DBTermCodec

/-- What the condition of a query looks at in a row of the joined tables. -/
structure HostRow where
  serverId : ServerIdType
  hostId : LocalHostIdType
  hostgroupId : HostgroupIdType
  deriving DecidableEq, Repr

namespace HostResourceQueryOption

/-- The condition may name the column of the host group. -/
def namesHostgroup (o : HostResourceQueryOption) : Bool :=
  !o.has .getAllServer || o.targetHostgroupId != allHostGroups ||
    !o.selectedServerHostgroupSetMap.isEmpty || !o.excludedServerHostgroupSetMap.isEmpty

/-- The row of the joined tables has these values in the columns of the query. -/
structure HasRow (o : HostResourceQueryOption) (row : String → Value) (r : HostRow) : Prop where
  server : row o.getServerIdColumnName = .int r.serverId
  hostgroup : o.namesHostgroup → row o.getHostgroupIdColumnName = .str r.hostgroupId.text
  host : o.synapse.hostIdColumnIdx.isSome → row o.hostIdColumn = .str r.hostId.text

/-- The names of a query's columns are those of its synapse, with or without the table. -/
theorem hasRow_of_names {o : HostResourceQueryOption} {row : String → Value} {r : HostRow}
    {synapse : Synapse} (hsynapse : o.synapse = synapse)
    (hserver : ∀ full, row (synapse.serverIdColumn.nameIn full) = .int r.serverId)
    (hgroup : o.namesHostgroup →
      ∀ full, row (synapse.hostgroupIdColumn.nameIn full) = .str r.hostgroupId.text)
    (hhost : ∀ idx ∈ synapse.hostIdColumnIdx, ∀ full,
      row (Column.nameIn full ⟨synapse.hostTableProfile, idx⟩) = .str r.hostId.text) :
    o.HasRow row r := by
  subst hsynapse
  refine ⟨hserver _, fun h => hgroup h _, fun h => ?_⟩
  obtain ⟨idx, hidx⟩ := Option.isSome_iff_exists.mp h
  have hcolumn : o.hostIdColumn = o.getColumnNameCommon ⟨o.synapse.hostTableProfile, idx⟩ := by
    simp [hostIdColumn, hidx]
  rw [hcolumn]
  exact hhost idx hidx _

/-- A row of the joined tables with other columns besides the three. -/
def rowOf (o : HostResourceQueryOption) (r : HostRow) (others : String → Value) : String → Value :=
  fun column =>
    if column = o.getServerIdColumnName then .int r.serverId
    else if column = o.getHostgroupIdColumnName then .str r.hostgroupId.text
    else if column = o.hostIdColumn then .str r.hostId.text
    else others column

theorem hasRow_rowOf (o : HostResourceQueryOption) (r : HostRow) (others : String → Value) :
    o.HasRow (o.rowOf r others) r where
  server := by simp [rowOf]
  hostgroup := by
    intro _
    have hne : o.getServerIdColumnName ≠ o.getHostgroupIdColumnName :=
      o.synapse.server_ne_hostgroup (o.tableNameAlways || o.isHostgroupUsed)
    simp [rowOf, hne.symm]
  host := by
    intro h
    obtain ⟨idx, hidx⟩ := Option.isSome_iff_exists.mp h
    have hcolumn : o.hostIdColumn = o.getColumnNameCommon ⟨o.synapse.hostTableProfile, idx⟩ := by
      simp [hostIdColumn, hidx]
    have hne : o.hostIdColumn ≠ o.getServerIdColumnName ∧
        o.hostIdColumn ≠ o.getHostgroupIdColumnName := by
      rw [hcolumn]
      exact o.synapse.host_ne idx hidx (o.tableNameAlways || o.isHostgroupUsed)
    simp [rowOf, hne]

/-! ## The base -/

/-- The row belongs to a server that is set up, where defunct ones are left out. -/
def isValid (o : HostResourceQueryOption) (r : HostRow) : Bool :=
  !o.excludeDefunctServers || o.getValidServerIdSet.contains r.serverId

/-- The row is one of the query's target. -/
def isTargeted (o : HostResourceQueryOption) (r : HostRow) : Bool :=
  (o.targetServerId == allServers || r.serverId == o.targetServerId) &&
    (o.targetHostId == allLocalHosts || r.hostId == o.targetHostId) &&
    (o.targetHostgroupId == allHostGroups || r.hostgroupId == o.targetHostgroupId)

/-- What the text of an entry of the access list lets through: a target host group takes the
    place of the host groups of the entry. -/
def entryShows (o : HostResourceQueryOption) (r : HostRow)
    (entry : ServerIdType × HostgroupIdSet) : Bool :=
  r.serverId == entry.1 &&
    if o.targetHostgroupId = allHostGroups then
      entry.2.contains allHostGroups || entry.2.contains r.hostgroupId
    else r.hostgroupId == o.targetHostgroupId

/-- What the text of the access list lets through. -/
def isAllowed (o : HostResourceQueryOption) (r : HostRow) : Bool :=
  o.has .getAllServer || o.seesAllServers || o.entries.any (o.entryShows r)

def inBase (o : HostResourceQueryOption) (r : HostRow) : Bool :=
  o.isValid r && o.isAllowed r && o.isTargeted r

/-- Nothing is left out of the text of the access list: some entry concerns the target server,
    and no list of host groups is empty. -/
def hasEntries (o : HostResourceQueryOption) : Bool :=
  o.has .getAllServer || o.seesAllServers ||
    (!o.entries.isEmpty && (o.targetHostgroupId != allHostGroups ||
      o.entries.all fun entry => !entry.2.isEmpty))

theorem alts_validForm {o : HostResourceQueryOption} {row : String → Value} {r : HostRow}
    (hrow : o.HasRow row r) :
    (Text.alts row o.validForm).length ≤ 1 ∧ picks (Text.alts row o.validForm) = o.isValid r := by
  unfold validForm isValid
  cases o.excludeDefunctServers with
  | false => simp [picks]
  | true =>
    cases hempty : o.getValidServerIdSet.isEmpty with
    | true =>
      have hnot : o.getValidServerIdSet.contains r.serverId = false :=
        Std.TreeSet.isEmpty_iff_forall_contains.mp hempty r.serverId
      simp [Text.alts, Text.alternatives, picks, hnot]
    | false =>
      have hmem : (o.getValidServerIdSet.toList.map Literal.int).any
          (fun l => row o.getServerIdColumnName == l.value) =
          o.getValidServerIdSet.contains r.serverId := by
        rw [Bool.eq_iff_iff]
        simp [hrow.server, Literal.value]
      simp [Text.alts, Text.alternatives, Text.holds_inList, picks, hmem]

theorem all_unless {α : Type} (p : Prop) [Decidable p] (f : α → Bool) (x : α) :
    (if p then [] else [x]).all f = (decide p || f x) := by
  by_cases hp : p <;> simp [hp]

theorem alts_targetForm {o : HostResourceQueryOption} {row : String → Value} {r : HostRow}
    (h : o.hasColumns) (hrow : o.HasRow row r) :
    (Text.alts row o.targetForm).length ≤ 1 ∧
      picks (Text.alts row o.targetForm) = o.isTargeted r := by
  have hsingle : ∀ t ∈ o.targetTexts, t.isSingle ∧ t.wellFormed := by
    intro t ht
    simp only [targetTexts, List.mem_append] at ht
    rcases ht with (ht | ht) | ht <;>
    · split at ht <;> simp_all [Text.isSingle, Text.wellFormed]
  have halts := Text.alts_chain_and row fun t ht => (hsingle t ht).1
  have hall : o.targetTexts.all (Text.holds row) = o.isTargeted r := by
    have hhost : o.targetHostId ≠ allLocalHosts → row o.hostIdColumn = .str r.hostId.text :=
      fun htarget => hrow.host (targetHost_of_hasColumns h htarget)
    have hgroup : o.targetHostgroupId ≠ allHostGroups →
        row o.getHostgroupIdColumnName = .str r.hostgroupId.text :=
      fun htarget => hrow.hostgroup (by simp [namesHostgroup, htarget])
    have hserverTerm : (decide (o.targetServerId = allServers) ||
        (Text.cmp o.getServerIdColumnName .eq (.int o.targetServerId)).holds row) =
        (o.targetServerId == allServers || r.serverId == o.targetServerId) := by
      rw [Text.holds_cmp, hrow.server, Text.compareValue_eq_int,
        beq_eq_decide (a := o.targetServerId)]
    have hhostTerm : (decide (o.targetHostId = allLocalHosts) ||
        (Text.cmp o.hostIdColumn .eq (.str o.targetHostId.text)).holds row) =
        (o.targetHostId == allLocalHosts || r.hostId == o.targetHostId) := by
      by_cases htarget : o.targetHostId = allLocalHosts
      · simp [htarget]
      · simp [htarget, hhost htarget]
    have hgroupTerm : (decide (o.targetHostgroupId = allHostGroups) ||
        (Text.cmp o.getHostgroupIdColumnName .eq (.str o.targetHostgroupId.text)).holds row) =
        (o.targetHostgroupId == allHostGroups || r.hostgroupId == o.targetHostgroupId) := by
      by_cases htarget : o.targetHostgroupId = allHostGroups
      · simp [htarget]
      · simp [htarget, hgroup htarget]
    unfold targetTexts isTargeted
    rw [List.all_append, List.all_append, all_unless, all_unless, all_unless, hserverTerm,
      hhostTerm,
      hgroupTerm]
  unfold targetForm
  cases hchain : Text.chain .and o.targetTexts with
  | none =>
    have hnil : o.targetTexts = [] := by
      simpa [← Option.not_isSome_iff_eq_none] using hchain
    simpa [picks, hnil] using hall
  | some t =>
    have hwf : t.wellFormed := by
      have hcomplete := Text.complete_chain_and o.targetTexts
      rw [hchain] at hcomplete
      rw [← Text.complete_some, hcomplete, List.all_eq_true]
      exact fun t ht => (hsingle t ht).2
    have hne : o.targetTexts ≠ [] := by
      intro hnil
      simp [hnil, Text.chain] at hchain
    have hparen : (Text.paren t).holds row = o.isTargeted r := by
      rw [hchain] at halts
      rw [Text.holds_paren row hwf, ← hall]
      simpa [hne, Text.alts] using congrArg (·.any id) halts
    simp [Text.alts, Text.alternatives, picks, hparen]

theorem isSingle_entryForm (o : HostResourceQueryOption)
    (entry : ServerIdType × HostgroupIdSet) : (o.entryForm entry).isSingle := by
  unfold entryForm
  split
  · split <;> rfl
  · rfl

theorem wellFormed_entryForm (o : HostResourceQueryOption)
    (entry : ServerIdType × HostgroupIdSet) :
    (o.entryForm entry).wellFormed =
      (o.targetHostgroupId != allHostGroups || !entry.2.isEmpty) := by
  unfold entryForm
  by_cases htarget : o.targetHostgroupId = allHostGroups
  · by_cases hmem : allHostGroups ∈ entry.2
    · have hne : entry.2.isEmpty = false := by
        rw [Bool.eq_false_iff]
        exact fun hempty => Std.TreeSet.isEmpty_iff_forall_not_mem.mp hempty _ hmem
      simp [htarget, hmem, hne, Text.wellFormed]
    · simp [htarget, hmem, Text.wellFormed]
  · have hne : (o.targetHostgroupId != allHostGroups) = true := by simpa using htarget
    simp [htarget, hne, Text.wellFormed]

theorem holds_pair (row : String → Value) {a b : Text} (ha : a.isSingle) (hb : b.isSingle)
    (hwf : (Text.and a b).wellFormed) :
    (Text.paren (.and a b)).holds row = (a.holds row && b.holds row) := by
  rw [Text.holds_paren row hwf, Text.alternatives, Text.alternatives_single row ha,
    Text.alternatives_single row hb]
  simp [conjoin]

theorem holds_entryForm {o : HostResourceQueryOption} {row : String → Value} {r : HostRow}
    (hserver : row o.getServerIdColumnName = .int r.serverId)
    (hgroup : row o.getHostgroupIdColumnName = .str r.hostgroupId.text)
    (entry : ServerIdType × HostgroupIdSet) (hwf : (o.entryForm entry).wellFormed) :
    (o.entryForm entry).holds row = o.entryShows r entry := by
  unfold entryForm at hwf ⊢
  unfold entryShows
  by_cases htarget : o.targetHostgroupId = allHostGroups
  · by_cases hmem : allHostGroups ∈ entry.2
    · simp [htarget, hmem, hserver]
    · have hitems : (entry.2.toList.map fun id => Literal.str id.text).any
          (fun l => row o.getHostgroupIdColumnName == l.value) =
          entry.2.contains r.hostgroupId := by
        rw [Bool.eq_iff_iff]
        simp [hgroup, Literal.value, ← CString.ext_iff]
      simp only [htarget, hmem, if_true, if_false] at hwf ⊢
      rw [holds_pair row rfl rfl hwf, Text.holds_inList, hitems, Text.holds_cmp, hserver,
        Text.compareValue_eq_int]
      rw [Std.TreeSet.mem_iff_contains, Bool.not_eq_true] at hmem
      simp [hmem]
  · simp only [htarget, if_false] at hwf ⊢
    rw [holds_pair row rfl rfl hwf, Text.holds_cmp, Text.holds_cmp, hserver, hgroup]
    simp

theorem complete_allowedForm (o : HostResourceQueryOption) :
    Text.complete o.allowedForm = (o.seesAllServers ||
      (!o.entries.isEmpty && (o.targetHostgroupId != allHostGroups ||
        o.entries.all fun entry => !entry.2.isEmpty))) := by
  unfold allowedForm wrapIf
  have hall : (o.entries.map o.entryForm).all Text.wellFormed =
      (o.targetHostgroupId != allHostGroups || o.entries.all fun entry => !entry.2.isEmpty) := by
    have hform : Text.wellFormed ∘ o.entryForm =
        fun entry => o.targetHostgroupId != allHostGroups || !entry.2.isEmpty :=
      funext o.wellFormed_entryForm
    rw [List.all_map, hform]
    cases o.targetHostgroupId != allHostGroups <;> simp
  cases hsees : o.seesAllServers with
  | true => simp
  | false =>
    match hentries : o.entries with
    | [] => simp [Text.chain, Text.wrap, Text.wellFormed]
    | [entry] =>
      rw [hentries] at hall
      simpa [Text.complete_chain_or] using hall
    | entry :: entry' :: rest =>
      rw [hentries] at hall
      simpa [Text.complete_chain_or] using hall

theorem alts_wrapIf (row : String → Value) (b : Bool) {t : Option Text}
    (hcomplete : Text.complete (wrapIf b t)) :
    Text.alts row (wrapIf b t) = if b then [(Text.alts row t).any id] else Text.alts row t := by
  cases b with
  | false => rfl
  | true =>
    simp only [wrapIf, if_true, Text.complete_some, Text.wellFormed_wrap, Bool.and_eq_true]
      at hcomplete
    simpa [wrapIf] using Text.alts_wrap row hcomplete.1 hcomplete.2

theorem alts_allowedForm {o : HostResourceQueryOption} {row : String → Value} {r : HostRow}
    (hserver : row o.getServerIdColumnName = .int r.serverId)
    (hgroup : row o.getHostgroupIdColumnName = .str r.hostgroupId.text)
    (hcomplete : Text.complete o.allowedForm) :
    (Text.alts row o.allowedForm).length ≤ 1 ∧
      picks (Text.alts row o.allowedForm) =
        (o.seesAllServers || o.entries.any (o.entryShows r)) := by
  unfold allowedForm at hcomplete ⊢
  cases hsees : o.seesAllServers with
  | true => simp [picks]
  | false =>
    simp only [hsees, Bool.false_eq_true, if_false] at hcomplete ⊢
    have hwf : ∀ entry ∈ o.entries, (o.entryForm entry).wellFormed := by
      have hchain : Text.complete (Text.chain .or (o.entries.map o.entryForm)) := by
        unfold wrapIf at hcomplete
        split at hcomplete
        · simp only [Text.complete_some, Text.wellFormed_wrap, Bool.and_eq_true] at hcomplete
          exact hcomplete.2
        · exact hcomplete
      simpa using hchain
    have hchain : Text.alts row (Text.chain .or (o.entries.map o.entryForm)) =
        o.entries.map (o.entryShows r) := by
      rw [Text.alts_chain_or row (List.forall_mem_map.mpr fun entry _ =>
        o.isSingle_entryForm entry), List.map_map]
      exact List.map_congr_left fun entry hentry =>
        holds_entryForm hserver hgroup entry (hwf entry hentry)
    rw [alts_wrapIf row _ hcomplete, hchain]
    by_cases hlen : o.entries.length = 1
    · obtain ⟨entry, hentry⟩ := List.length_eq_one_iff.mp hlen
      simp [hentry, picks]
    · simp [hlen, picks]

/-- The conditions before the filters are one conjunction. -/
theorem alts_baseForm {o : HostResourceQueryOption} {row : String → Value} {r : HostRow}
    (h : o.hasColumns) (hrow : o.HasRow row r) (hcomplete : Text.complete o.baseForm) :
    (Text.alts row o.baseForm).length ≤ 1 ∧ picks (Text.alts row o.baseForm) = o.inBase r := by
  obtain ⟨hlenValid, hvalid⟩ := alts_validForm hrow
  obtain ⟨hlenTarget, htarget⟩ := alts_targetForm h hrow
  have hallowed : (Text.alts row (if o.has .getAllServer then none else o.allowedForm)).length ≤ 1 ∧
      picks (Text.alts row (if o.has .getAllServer then none else o.allowedForm)) =
        o.isAllowed r := by
    unfold isAllowed
    cases hprivilege : o.has .getAllServer with
    | true => simp [picks]
    | false =>
      simp only [baseForm, hprivilege, Text.complete_glue_and, Bool.and_eq_true, Bool.false_eq_true,
        if_false] at hcomplete
      have hgroup := hrow.hostgroup (by simp [namesHostgroup, hprivilege])
      simpa using alts_allowedForm hrow.server hgroup hcomplete.1.2
  have hlen := length_conjoin_le hlenValid hallowed.1
  unfold baseForm inBase
  rw [Text.alts_glue_and, Text.alts_glue_and]
  refine ⟨length_conjoin_le hlen hlenTarget, ?_⟩
  rw [picks_conjoin_single hlen hlenTarget, picks_conjoin_single hlenValid hallowed.1, hvalid,
    hallowed.2, htarget]

theorem complete_validForm (o : HostResourceQueryOption) : Text.complete o.validForm := by
  unfold validForm
  split
  · split
    · rfl
    · rename_i hempty
      simpa [Text.wellFormed] using hempty
  · rfl

theorem complete_targetForm (o : HostResourceQueryOption) : Text.complete o.targetForm := by
  have hchain := Text.complete_chain_and o.targetTexts
  have hall : o.targetTexts.all Text.wellFormed := by
    unfold targetTexts
    simp only [List.all_append, all_unless, Text.wellFormed, Bool.or_true, Bool.and_self]
  rw [hall] at hchain
  unfold targetForm
  cases hform : Text.chain .and o.targetTexts with
  | none => rfl
  | some t =>
    rw [hform] at hchain
    simpa [Text.wellFormed] using hchain

theorem complete_baseForm (o : HostResourceQueryOption) :
    Text.complete o.baseForm = o.hasEntries := by
  unfold baseForm
  rw [Text.complete_glue_and, Text.complete_glue_and, complete_validForm, complete_targetForm]
  cases hprivilege : o.has .getAllServer with
  | true => simp [hasEntries, hprivilege]
  | false => simp [complete_allowedForm, hasEntries, hprivilege]

/-! ## The filters -/

end HostResourceQueryOption

def HostRow.hasHostgroup (r : HostRow) (pair : ServerIdType × HostgroupIdType) : Bool :=
  r.serverId == pair.1 && r.hostgroupId == pair.2

def HostRow.hasHost (r : HostRow) (pair : ServerIdType × LocalHostIdType) : Bool :=
  r.serverId == pair.1 && r.hostId == pair.2

namespace HostResourceQueryOption

/-! What is left of each filter without the servers and host groups the user may not see. -/

def selectedServers (o : HostResourceQueryOption) : List ServerIdType :=
  o.leftServers o.selectedServerIdSet

def excludedServers (o : HostResourceQueryOption) : List ServerIdType :=
  o.leftServers o.excludedServerIdSet

def selectedHostgroups (o : HostResourceQueryOption) : List (ServerIdType × HostgroupIdType) :=
  o.leftPairs o.selectedServerHostgroupSetMap o.allowsHostgroup

def excludedHostgroups (o : HostResourceQueryOption) : List (ServerIdType × HostgroupIdType) :=
  o.leftPairs o.excludedServerHostgroupSetMap o.allowsHostgroup

def selectedHosts (o : HostResourceQueryOption) : List (ServerIdType × LocalHostIdType) :=
  o.leftPairs o.selectedServerHostSetMap fun _ _ => true

def excludedHosts (o : HostResourceQueryOption) : List (ServerIdType × LocalHostIdType) :=
  o.leftPairs o.excludedServerHostSetMap fun _ _ => true

/-- One alternative of a filter that has something left. -/
def oneUnless {α : Type} (left : List α) (b : Bool) : List Bool := if left.isEmpty then [] else [b]

/-- The terms of a filter by server and ID: one alternative if they stand in parentheses, which
    they do if there is more than one server, else an alternative for each. -/
def termAlternatives (parentheses : Bool) (terms : List Bool) : List Bool :=
  if parentheses then [terms.any id] else terms

def serverAlternatives (o : HostResourceQueryOption) (r : HostRow) : List Bool :=
  conjoin (oneUnless o.selectedServers (o.selectedServers.contains r.serverId))
    (oneUnless o.excludedServers (!o.excludedServers.contains r.serverId))

def hostgroupTerms (o : HostResourceQueryOption) (r : HostRow) : List Bool :=
  termAlternatives (o.selectedServerHostgroupSetMap.size > 1)
    (o.selectedHostgroups.map r.hasHostgroup)

def hostTerms (o : HostResourceQueryOption) (r : HostRow) : List Bool :=
  termAlternatives (o.selectedServerHostSetMap.size > 1) (o.selectedHosts.map r.hasHost)

def hostgroupAlternatives (o : HostResourceQueryOption) (r : HostRow) : List Bool :=
  conjoin (o.serverAlternatives r ++ o.hostgroupTerms r)
    (oneUnless o.excludedHostgroups (!o.excludedHostgroups.any r.hasHostgroup))

/-- The alternatives that `makeConditionHostsFilter` joins: an exclusion is bound to the last
    alternative before it only. -/
def filterAlternatives (o : HostResourceQueryOption) (r : HostRow) : List Bool :=
  conjoin (o.hostgroupAlternatives r ++ o.hostTerms r)
    (oneUnless o.excludedHosts (!o.excludedHosts.any r.hasHost))

/-- No filter with more than one server has lost all its terms. -/
def hasTerms (o : HostResourceQueryOption) : Bool :=
  !(o.selectedServerIdSet.size > 1 && o.selectedServers.isEmpty) &&
  !(o.excludedServerIdSet.size > 1 && o.excludedServers.isEmpty) &&
  !(o.selectedServerHostgroupSetMap.size > 1 && o.selectedHostgroups.isEmpty) &&
  !(o.excludedServerHostgroupSetMap.size > 1 && o.excludedHostgroups.isEmpty) &&
  !(o.selectedServerHostSetMap.size > 1 && o.selectedHosts.isEmpty) &&
  !(o.excludedServerHostSetMap.size > 1 && o.excludedHosts.isEmpty)

theorem wrapIf_chain {type : AddConditionType} {b : Bool} {ts : List Text}
    (hts : ts.all Text.wellFormed) :
    Text.complete (wrapIf b (Text.chain type.join ts)) = !(b && ts.isEmpty) := by
  have hchain : Text.complete (Text.chain type.join ts) := by
    cases type
    · simpa [AddConditionType.join] using hts
    · simpa [AddConditionType.join] using hts
  cases b with
  | false => simpa [wrapIf] using hchain
  | true => simp [wrapIf, hchain]

theorem isSome_wrapIf_chain {type : AddConditionType} {b : Bool} {ts : List Text}
    (hts : ts.all Text.wellFormed)
    (hcomplete : Text.complete (wrapIf b (Text.chain type.join ts))) :
    (wrapIf b (Text.chain type.join ts)).isSome = !ts.isEmpty := by
  rw [wrapIf_chain hts] at hcomplete
  cases b with
  | false => simp [wrapIf]
  | true =>
    simp only [Bool.true_and, Bool.not_eq_true'] at hcomplete
    simp [wrapIf, hcomplete]

/-- Alternatives that stand in parentheses or not. -/
theorem alts_wrapIf_or {row : String → Value} {b : Bool} {ts : List Text}
    (hts : ∀ t ∈ ts, t.isSingle) (hcomplete : Text.complete (wrapIf b (Text.chain .or ts))) :
    Text.alts row (wrapIf b (Text.chain .or ts)) = termAlternatives b (ts.map (Text.holds row)) :=
      by
  rw [alts_wrapIf row b hcomplete, Text.alts_chain_or row hts]
  rfl

theorem alts_wrapIf_and {row : String → Value} {b : Bool} {ts : List Text}
    (hts : ∀ t ∈ ts, t.isSingle) (hcomplete : Text.complete (wrapIf b (Text.chain .and ts))) :
    Text.alts row (wrapIf b (Text.chain .and ts)) = oneUnless ts (ts.all (Text.holds row)) := by
  rw [alts_wrapIf row b hcomplete, Text.alts_chain_and row hts]
  cases ts with
  | nil =>
    cases b with
    | false => rfl
    | true => simp [wrapIf, Text.chain, Text.wrap, Text.wellFormed] at hcomplete
  | cons t ts => cases b <;> simp [oneUnless]

theorem termAlternatives_eq_oneUnless {α : Type} {b : Bool} {xs : List α} (f : α → Bool)
    (hmany : b = false → xs.length ≤ 1) (hne : b = true → xs ≠ []) :
    termAlternatives b (xs.map f) = oneUnless xs (xs.any f) := by
  match xs, b with
  | [], false => rfl
  | [], true => exact absurd rfl (hne rfl)
  | [_], _ => simp [termAlternatives, oneUnless]
  | _ :: _ :: _, false => simp at hmany
  | _ :: _ :: _, true => simp [termAlternatives, oneUnless]

section Rows

variable {o : HostResourceQueryOption} {row : String → Value} {r : HostRow}

theorem alts_selectedServersForm (hrow : o.HasRow row r)
    (hcomplete : Text.complete o.selectedServersForm) :
    Text.alts row o.selectedServersForm =
      oneUnless o.selectedServers (o.selectedServers.contains r.serverId) := by
  have hlen : o.selectedServers.length ≤ o.selectedServerIdSet.size := by
    rw [← Std.TreeSet.length_toList]
    exact List.length_filter_le _ _
  have hleft := hcomplete
  unfold selectedServersForm serversForm at hleft
  rw [wrapIf_chain (by simp [Text.wellFormed])] at hleft
  refine (alts_wrapIf_or (by simp [Text.isSingle]) hcomplete).trans ?_
  rw [List.map_map, List.contains_eq_any_beq]
  have hholds : Text.holds row ∘ (fun serverId => .cmp o.getServerIdColumnName .eq (.int serverId)) =
      fun serverId => r.serverId == serverId := by
    funext serverId
    simp [hrow.server]
  rw [hholds]
  refine termAlternatives_eq_oneUnless _ (fun hsize => ?_) fun hsize hnil => ?_
  · exact hlen.trans (by simpa using hsize)
  · rw [hsize, hnil] at hleft
    simp at hleft

theorem alts_excludedServersForm (hrow : o.HasRow row r)
    (hcomplete : Text.complete o.excludedServersForm) :
    Text.alts row o.excludedServersForm =
      oneUnless o.excludedServers (!o.excludedServers.contains r.serverId) := by
  have hall : (o.excludedServers.map fun serverId =>
      Text.cmp o.getServerIdColumnName .ne (.int serverId)).all (Text.holds row) =
      !o.excludedServers.contains r.serverId := by
    rw [List.all_map, List.contains_eq_any_beq, List.not_any_eq_all_not]
    simp [Function.comp_def, hrow.server, bne]
  refine (alts_wrapIf_and (by simp [Text.isSingle]) hcomplete).trans ?_
  rw [← hall]
  simp [oneUnless, excludedServers]

theorem holds_pairText (hrow : o.HasRow row r) {column : String} {id : CString}
    (hid : row column = .str id.text) (pair : ServerIdType × CString) :
    (Text.paren (o.pairText column pair)).holds row = (r.serverId == pair.1 && id == pair.2) := by
  unfold pairText
  rw [holds_pair row rfl rfl rfl, Text.holds_cmp, Text.holds_cmp, hrow.server, hid,
    Text.compareValue_eq_int, Text.compareValue_eq_str, CString.text_beq]

theorem holds_not_pairText (hrow : o.HasRow row r) {column : String} {id : CString}
    (hid : row column = .str id.text) (pair : ServerIdType × CString) :
    (Text.notParen (o.pairText column pair)).holds row =
      !(r.serverId == pair.1 && id == pair.2) := by
  simp [Text.holds, Text.truth, Text.step, pairText, hrow.server, hid, Text.compareValue_int,
    Text.compareValue_str]

variable {map : Std.TreeMap ServerIdType (Std.TreeSet CString)}
  {isAllowedId : ServerIdType → CString → Bool} {column : String} {id : CString}

theorem alts_selectedPairs (hrow : o.HasRow row r)
    (hid : o.leftPairs map isAllowedId ≠ [] → row column = .str id.text)
    (hcomplete : Text.complete (o.pairsForm map isAllowedId column .paren .or)) :
    Text.alts row (o.pairsForm map isAllowedId column .paren .or) =
      termAlternatives (map.size > 1) ((o.leftPairs map isAllowedId).map
        fun pair => r.serverId == pair.1 && id == pair.2) := by
  refine (alts_wrapIf_or (List.forall_mem_map.mpr fun _ _ => rfl) hcomplete).trans ?_
  rw [List.map_map]
  refine congrArg _ (List.map_congr_left fun pair hpair => ?_)
  exact holds_pairText hrow (hid (List.ne_nil_of_mem hpair)) pair

theorem alts_excludedPairs (hrow : o.HasRow row r)
    (hid : o.leftPairs map isAllowedId ≠ [] → row column = .str id.text)
    (hcomplete : Text.complete (o.pairsForm map isAllowedId column .notParen .and)) :
    Text.alts row (o.pairsForm map isAllowedId column .notParen .and) =
      oneUnless (o.leftPairs map isAllowedId) (!(o.leftPairs map isAllowedId).any
        fun pair => r.serverId == pair.1 && id == pair.2) := by
  refine (alts_wrapIf_and (List.forall_mem_map.mpr fun _ _ => rfl) hcomplete).trans ?_
  rw [List.all_map, List.not_any_eq_all_not]
  have hall : (o.leftPairs map isAllowedId).all
      (Text.holds row ∘ fun pair => .notParen (o.pairText column pair)) =
      (o.leftPairs map isAllowedId).all fun pair => !(r.serverId == pair.1 && id == pair.2) := by
    rw [Bool.eq_iff_iff, List.all_eq_true, List.all_eq_true]
    refine forall₂_congr fun pair hpair => ?_
    rw [Function.comp_apply, holds_not_pairText hrow (hid (List.ne_nil_of_mem hpair)) pair]
  rw [hall]
  simp [oneUnless]

theorem leftPairs_isEmpty (hmap : map.isEmpty) : o.leftPairs map isAllowedId = [] := by
  have hsize : map.size = 0 := by simpa [Std.TreeMap.isEmpty_eq_size_eq_zero] using hmap
  have hlist : map.toList = [] := by simpa [← Std.TreeMap.length_toList] using hsize
  simp [leftPairs, hlist]

theorem hostgroupIdColumn_of_selected (hrow : o.HasRow row r) (hne : o.selectedHostgroups ≠ []) :
    row o.getHostgroupIdColumnName = .str r.hostgroupId.text := by
  apply hrow.hostgroup
  have hmap : o.selectedServerHostgroupSetMap.isEmpty = false := by
    rw [Bool.eq_false_iff]
    exact fun hempty => hne (leftPairs_isEmpty hempty)
  simp [namesHostgroup, hmap]

theorem hostgroupIdColumn_of_excluded (hrow : o.HasRow row r) (hne : o.excludedHostgroups ≠ []) :
    row o.getHostgroupIdColumnName = .str r.hostgroupId.text := by
  apply hrow.hostgroup
  have hmap : o.excludedServerHostgroupSetMap.isEmpty = false := by
    rw [Bool.eq_false_iff]
    exact fun hempty => hne (leftPairs_isEmpty hempty)
  simp [namesHostgroup, hmap]

theorem hostIdColumn_of_selectedHosts (h : o.hasColumns) (hrow : o.HasRow row r)
    (hne : o.selectedHosts ≠ []) : row o.hostIdColumn = .str r.hostId.text := by
  refine hrow.host ?_
  have hmap : o.selectedServerHostSetMap.isEmpty = false := by
    rw [Bool.eq_false_iff]
    exact fun hempty => hne (leftPairs_isEmpty hempty)
  simpa [hasColumns, namesHost, hmap] using h

theorem hostIdColumn_of_excludedHosts (h : o.hasColumns) (hrow : o.HasRow row r)
    (hne : o.excludedHosts ≠ []) : row o.hostIdColumn = .str r.hostId.text := by
  refine hrow.host ?_
  have hmap : o.excludedServerHostSetMap.isEmpty = false := by
    rw [Bool.eq_false_iff]
    exact fun hempty => hne (leftPairs_isEmpty hempty)
  simpa [hasColumns, namesHost, hmap] using h

end Rows

theorem complete_serversForm (o : HostResourceQueryOption) (set : ServerIdSet) (op : CmpOp)
    (type : AddConditionType) :
    Text.complete (o.serversForm set op type) = !(set.size > 1 && (o.leftServers set).isEmpty) := by
  rw [serversForm, wrapIf_chain (by simp [Text.wellFormed])]
  simp

theorem isSome_serversForm (o : HostResourceQueryOption) {set : ServerIdSet} {op : CmpOp}
    {type : AddConditionType} (hcomplete : Text.complete (o.serversForm set op type)) :
    (o.serversForm set op type).isSome = !(o.leftServers set).isEmpty := by
  unfold serversForm at hcomplete ⊢
  rw [isSome_wrapIf_chain (by simp [Text.wellFormed]) hcomplete]
  simp

theorem wellFormed_pairTexts (o : HostResourceQueryOption) (pairs : List (ServerIdType × CString))
    (column : String) {enclose : Text → Text} (henclose : ∀ t, (enclose t).wellFormed =
      t.wellFormed) :
    (pairs.map fun pair => enclose (o.pairText column pair)).all Text.wellFormed := by
  simp [henclose, pairText, Text.wellFormed]

theorem complete_pairsForm (o : HostResourceQueryOption)
    (map : Std.TreeMap ServerIdType (Std.TreeSet CString))
    (isAllowedId : ServerIdType → CString → Bool) (column : String) {enclose : Text → Text}
    (henclose : ∀ t, (enclose t).wellFormed = t.wellFormed) (type : AddConditionType) :
    Text.complete (o.pairsForm map isAllowedId column enclose type) =
      !(map.size > 1 && (o.leftPairs map isAllowedId).isEmpty) := by
  rw [pairsForm, wrapIf_chain (o.wellFormed_pairTexts _ column henclose)]
  simp

theorem isSome_pairsForm (o : HostResourceQueryOption)
    {map : Std.TreeMap ServerIdType (Std.TreeSet CString)}
    {isAllowedId : ServerIdType → CString → Bool} {column : String} {enclose : Text → Text}
    (henclose : ∀ t, (enclose t).wellFormed = t.wellFormed) {type : AddConditionType}
    (hcomplete : Text.complete (o.pairsForm map isAllowedId column enclose type)) :
    (o.pairsForm map isAllowedId column enclose type).isSome =
      !(o.leftPairs map isAllowedId).isEmpty := by
  unfold pairsForm at hcomplete ⊢
  rw [isSome_wrapIf_chain (o.wellFormed_pairTexts _ column henclose) hcomplete]
  simp

/-- The six texts are complete when none of them has lost all its terms. -/
theorem complete_filterForms (o : HostResourceQueryOption) :
    o.hasTerms = o.filterForms.all fun form => Text.complete form.2 := by
  have hparen (map isAllowedId column) := o.complete_pairsForm map isAllowedId column
    Text.wellFormed_paren
  have hnot (map isAllowedId column) := o.complete_pairsForm map isAllowedId column
    Text.wellFormed_notParen
  simp only [hasTerms, filterForms, List.all_cons, List.all_nil, Bool.and_true, Bool.and_assoc,
    selectedServersForm, excludedServersForm, selectedHostgroupsForm, excludedHostgroupsForm,
    selectedHostsForm, excludedHostsForm, complete_serversForm, hparen, hnot,
    selectedServers, excludedServers, selectedHostgroups,
    excludedHostgroups, selectedHosts, excludedHosts]

/-- The filters that have something left, one after another. -/
def emptyFilters (o : HostResourceQueryOption) : List Bool :=
  [o.selectedServers.isEmpty, o.excludedServers.isEmpty, o.selectedHostgroups.isEmpty,
    o.excludedHostgroups.isEmpty, o.selectedHosts.isEmpty, o.excludedHosts.isEmpty]

theorem numFilters_eq {o : HostResourceQueryOption} (hterms : o.hasTerms) :
    o.numFilters = o.emptyFilters.count false := by
  rw [complete_filterForms] at hterms
  simp only [filterForms, List.all_cons, List.all_nil, Bool.and_true, Bool.and_eq_true] at hterms
  obtain ⟨h1, h2, h3, h4, h5, h6⟩ := hterms
  simp only [numFilters, filterForms, List.countP_cons, List.countP_nil, emptyFilters,
    List.count_cons, List.count_nil]
  rw [selectedServersForm, excludedServersForm, selectedHostgroupsForm, excludedHostgroupsForm,
    selectedHostsForm, excludedHostsForm, isSome_serversForm o h1, isSome_serversForm o h2,
    isSome_pairsForm o Text.wellFormed_paren h3, isSome_pairsForm o Text.wellFormed_notParen h4,
    isSome_pairsForm o Text.wellFormed_paren h5, isSome_pairsForm o Text.wellFormed_notParen h6]
  simp [selectedServers, excludedServers, selectedHostgroups, excludedHostgroups, selectedHosts,
    excludedHosts]

theorem alts_flatForm {o : HostResourceQueryOption} {row : String → Value} {r : HostRow}
    (h : o.hasColumns) (hrow : o.HasRow row r) (hterms : o.hasTerms) :
    Text.alts row o.flatForm = o.filterAlternatives r := by
  rw [complete_filterForms] at hterms
  simp only [filterForms, List.all_cons, List.all_nil, Bool.and_true, Bool.and_eq_true] at hterms
  obtain ⟨h1, h2, h3, h4, h5, h6⟩ := hterms
  unfold flatForm filterForms
  simp only [List.foldl_cons, List.foldl_nil, AddConditionType.join, Text.alts_glue_and,
    Text.alts_glue_or, Text.alts_none, List.nil_append]
  rw [alts_selectedServersForm hrow h1, alts_excludedServersForm hrow h2, selectedHostgroupsForm,
    alts_selectedPairs hrow (hostgroupIdColumn_of_selected hrow) h3, excludedHostgroupsForm,
    alts_excludedPairs hrow (hostgroupIdColumn_of_excluded hrow) h4, selectedHostsForm,
    alts_selectedPairs hrow (hostIdColumn_of_selectedHosts h hrow) h5, excludedHostsForm,
    alts_excludedPairs hrow (hostIdColumn_of_excludedHosts h hrow) h6]
  rfl

/-- The row passes the filters. -/
def passesFilters (o : HostResourceQueryOption) (r : HostRow) : Bool :=
  picks (o.filterAlternatives r)

/-- The only filter with anything left is the list of host groups of one server. Its terms stand
    in the condition without parentheses, and all but the first are out of the reach of what
    comes before them. -/
def leakedHostgroups (o : HostResourceQueryOption) : List (ServerIdType × HostgroupIdType) :=
  if o.selectedServers.isEmpty && o.excludedServers.isEmpty && o.excludedHostgroups.isEmpty &&
      o.selectedHosts.isEmpty && o.excludedHosts.isEmpty &&
      !(o.selectedServerHostgroupSetMap.size > 1) then
    o.selectedHostgroups.tail
  else []

/-- The same for the list of hosts of one server. -/
def leakedHosts (o : HostResourceQueryOption) : List (ServerIdType × LocalHostIdType) :=
  if o.selectedServers.isEmpty && o.excludedServers.isEmpty && o.selectedHostgroups.isEmpty &&
      o.excludedHostgroups.isEmpty && o.excludedHosts.isEmpty &&
      !(o.selectedServerHostSetMap.size > 1) then
    o.selectedHosts.tail
  else []

def leaks (o : HostResourceQueryOption) (r : HostRow) : Bool :=
  o.leakedHostgroups.any r.hasHostgroup || o.leakedHosts.any r.hasHost

theorem length_oneUnless {α : Type} (left : List α) (b : Bool) : (oneUnless left b).length ≤ 1 := by
  unfold oneUnless
  split <;> simp

theorem termAlternatives_nil {α : Type} {b : Bool} {left : List α} (f : α → Bool)
    (hterms : !(b && left.isEmpty)) (hnil : left = []) :
    termAlternatives b (left.map f) = [] := by
  subst hnil
  cases b <;> simp_all [termAlternatives]

theorem terms_of_nil {o : HostResourceQueryOption} (hterms : o.hasTerms) (r : HostRow) :
    (o.selectedHostgroups = [] → o.hostgroupTerms r = []) ∧
      (o.selectedHosts = [] → o.hostTerms r = []) := by
  simp only [hasTerms, Bool.and_eq_true] at hterms
  obtain ⟨⟨⟨_, hgroups⟩, _⟩, hhosts⟩ := hterms.1
  exact ⟨termAlternatives_nil r.hasHostgroup hgroups, termAlternatives_nil r.hasHost hhosts⟩

theorem count_selectedHostgroups : ∀ a b c d e f : Bool, [a, b, c, d, e, f].count false ≤ 1 →
    c = false → a = true ∧ b = true ∧ d = true ∧ e = true ∧ f = true := by
  decide

theorem count_selectedHosts : ∀ a b c d e f : Bool, [a, b, c, d, e, f].count false ≤ 1 →
    e = false → a = true ∧ b = true ∧ c = true ∧ d = true ∧ f = true := by
  decide

theorem count_others : ∀ a b c d e f : Bool, 1 < [a, b, c, d, e, f].count false →
    (a && b && d && e && f) = false ∧ (a && b && c && d && f) = false := by
  decide

/-- Where more than one filter has something left, nothing leaks. -/
theorem leaked_of_count {o : HostResourceQueryOption} (hcount : 1 < o.emptyFilters.count false) :
    o.leakedHostgroups = [] ∧ o.leakedHosts = [] := by
  obtain ⟨hgroups, hhosts⟩ := count_others _ _ _ _ _ _ hcount
  unfold leakedHostgroups leakedHosts
  rw [hgroups, hhosts]
  exact ⟨rfl, rfl⟩

/-- Host groups that leak are the only filter. -/
theorem leakedHostgroups_ne_nil {o : HostResourceQueryOption} (hne : o.leakedHostgroups ≠ []) :
    (o.selectedServers = [] ∧ o.excludedServers = [] ∧ o.excludedHostgroups = [] ∧
        o.selectedHosts = [] ∧ o.excludedHosts = [] ∧ ¬o.selectedServerHostgroupSetMap.size > 1) ∧
      o.leakedHostgroups = o.selectedHostgroups.tail ∧ o.leakedHosts = [] := by
  unfold leakedHostgroups at hne ⊢
  split at hne
  · rename_i hcond
    have hhosts : o.leakedHosts = [] := by
      unfold leakedHosts
      simp only [Bool.and_eq_true, List.isEmpty_iff] at hcond
      simp [hcond.1.1.2]
    refine ⟨?_, if_pos hcond, hhosts⟩
    simpa [and_assoc] using hcond
  · exact absurd rfl hne

/-- Hosts that leak are the only filter. -/
theorem leakedHosts_ne_nil {o : HostResourceQueryOption} (hne : o.leakedHosts ≠ []) :
    (o.selectedServers = [] ∧ o.excludedServers = [] ∧ o.selectedHostgroups = [] ∧
        o.excludedHostgroups = [] ∧ o.excludedHosts = [] ∧ ¬o.selectedServerHostSetMap.size > 1) ∧
      o.leakedHosts = o.selectedHosts.tail ∧ o.leakedHostgroups = [] := by
  unfold leakedHosts at hne ⊢
  split at hne
  · rename_i hcond
    have hgroups : o.leakedHostgroups = [] := by
      unfold leakedHostgroups
      simp only [Bool.and_eq_true, List.isEmpty_iff] at hcond
      simp [hcond.1.1.1.2]
    refine ⟨?_, if_pos hcond, hgroups⟩
    simpa [and_assoc] using hcond
  · exact absurd rfl hne

theorem filterAlternatives_hostgroups {o : HostResourceQueryOption} (hterms : o.hasTerms)
    (hne : o.leakedHostgroups ≠ []) (r : HostRow) :
    o.filterAlternatives r = o.selectedHostgroups.map r.hasHostgroup := by
  obtain ⟨⟨h1, h2, h4, h5, h6, hsize⟩, -, -⟩ := leakedHostgroups_ne_nil hne
  have hhosts := (terms_of_nil hterms r).2 h5
  simp [filterAlternatives, hostgroupAlternatives, serverAlternatives, oneUnless, h1, h2, h4, h6,
    hhosts, hostgroupTerms, termAlternatives, hsize]

theorem filterAlternatives_hosts {o : HostResourceQueryOption} (hterms : o.hasTerms)
    (hne : o.leakedHosts ≠ []) (r : HostRow) :
    o.filterAlternatives r = o.selectedHosts.map r.hasHost := by
  obtain ⟨⟨h1, h2, h3, h4, h6, hsize⟩, -, -⟩ := leakedHosts_ne_nil hne
  have hgroups := (terms_of_nil hterms r).1 h3
  simp [filterAlternatives, hostgroupAlternatives, serverAlternatives, oneUnless, h1, h2, h4, h6,
    hgroups, hostTerms, termAlternatives, hsize]

theorem length_termAlternatives {b : Bool} {terms : List Bool} (h : b = false → terms.tail = []) :
    (termAlternatives b terms).length ≤ 1 := by
  cases b with
  | true => simp [termAlternatives]
  | false =>
    have hlen := congrArg List.length (h rfl)
    simp only [List.length_tail, List.length_nil] at hlen
    simp only [termAlternatives, Bool.false_eq_true, if_false]
    omega

/-- Where nothing leaks, a filter that stands alone is one alternative. -/
theorem length_filterAlternatives {o : HostResourceQueryOption} (hterms : o.hasTerms)
    (hcount : o.emptyFilters.count false ≤ 1) (hgroups : o.leakedHostgroups = [])
    (hhosts : o.leakedHosts = []) (r : HostRow) : (o.filterAlternatives r).length ≤ 1 := by
  obtain ⟨hnoGroups, hnoHosts⟩ := terms_of_nil hterms r
  unfold filterAlternatives hostgroupAlternatives serverAlternatives
  by_cases hg : o.selectedHostgroups = []
  · rw [hnoGroups hg, List.append_nil]
    by_cases hh : o.selectedHosts = []
    · -- no lists of terms: the exclusions and the servers are one conjunction
      rw [hnoHosts hh, List.append_nil]
      exact length_conjoin_le (length_conjoin_le (length_conjoin_le
        (length_oneUnless _ _) (length_oneUnless _ _)) (length_oneUnless _ _)) (length_oneUnless _ _)
    · obtain ⟨h1, h2, h3, h4, h6⟩ := count_selectedHosts _ _ _ _ _ _ hcount (by simpa using hh)
      simp only [leakedHosts, h1, h2, h3, h4, h6, Bool.and_self, Bool.true_and] at hhosts
      simp only [oneUnless, h1, h2, h4, h6, if_true, conjoin_nil_right,
        List.nil_append]
      apply length_termAlternatives
      intro hsize
      rw [hsize] at hhosts
      simpa [← List.map_tail] using hhosts
  · obtain ⟨h1, h2, h4, h5, h6⟩ := count_selectedHostgroups _ _ _ _ _ _ hcount (by simpa using hg)
    rw [hnoHosts (by simpa using h5), List.append_nil]
    simp only [leakedHostgroups, h1, h2, h4, h5, h6, Bool.and_self, Bool.true_and] at hgroups
    simp only [oneUnless, h1, h2, h4, h6, if_true, conjoin_nil_right,
      List.nil_append]
    apply length_termAlternatives
    intro hsize
    rw [hsize] at hgroups
    simpa [← List.map_tail] using hgroups

/-- Where every text is there and complete. -/
def answers (o : HostResourceQueryOption) : Bool :=
  !o.denied && o.hasColumns && o.hasEntries && o.hasTerms

theorem complete_flatForm (o : HostResourceQueryOption) :
    Text.complete o.flatForm = o.hasTerms := by
  rw [complete_filterForms]
  simp [flatForm, filterForms, AddConditionType.join, Bool.and_assoc]

theorem isSome_flatForm (o : HostResourceQueryOption) :
    o.flatForm.isSome ↔ 0 < o.numFilters := by
  have hflat : o.flatForm.isSome = o.filterForms.any fun form => form.2.isSome := by
    simp [flatForm, filterForms, Bool.or_assoc]
  rw [hflat, List.any_eq_true]
  exact List.countP_pos_iff.symm

theorem complete_filterForm (o : HostResourceQueryOption) :
    Text.complete o.filterForm = o.hasTerms := by
  unfold filterForm wrapIf
  split
  · rename_i hnum
    rw [Text.complete_some, Text.wellFormed_wrap, (isSome_flatForm o).mpr (by grind),
      complete_flatForm, Bool.true_and]
  · exact complete_flatForm o

theorem complete_form (o : HostResourceQueryOption) :
    Text.complete o.form = (o.hasEntries && o.hasTerms) := by
  rw [form, Text.complete_glue_and, complete_baseForm, complete_filterForm]

section FilterForm

variable {o : HostResourceQueryOption} {row : String → Value} {r : HostRow}
  (h : o.hasColumns) (hrow : o.HasRow row r) (hterms : o.hasTerms)

include h hrow hterms

/-- The alternatives of the filters, in parentheses if there is more than one filter. -/
theorem alts_filterForm : Text.alts row o.filterForm =
    if o.numFilters > 1 then [(o.filterAlternatives r).any id] else o.filterAlternatives r := by
  have hcomplete := (complete_filterForm o).trans hterms
  unfold filterForm at hcomplete ⊢
  rw [alts_wrapIf row _ hcomplete, alts_flatForm h hrow hterms]
  simp

theorem picks_filterForm : picks (Text.alts row o.filterForm) = o.passesFilters r := by
  rw [alts_filterForm h hrow hterms, passesFilters]
  by_cases hnum : o.numFilters > 1
  · have hne : o.filterAlternatives r ≠ [] := by
      rw [← alts_flatForm h hrow hterms, Ne, Text.alts_eq_nil, ← Option.not_isSome_iff_eq_none,
        isSome_flatForm]
      omega
    simp [hnum, picks, hne]
  · simp [hnum]

theorem length_alts_filterForm (hgroups : o.leakedHostgroups = []) (hhosts : o.leakedHosts = []) :
    (Text.alts row o.filterForm).length ≤ 1 := by
  rw [alts_filterForm h hrow hterms]
  split
  · simp
  · rename_i hnum
    rw [numFilters_eq hterms] at hnum
    exact length_filterAlternatives hterms (by omega) hgroups hhosts r

theorem alts_filterForm_hostgroups (hne : o.leakedHostgroups ≠ []) :
    Text.alts row o.filterForm = o.selectedHostgroups.map r.hasHostgroup := by
  rw [alts_filterForm h hrow hterms, if_neg, filterAlternatives_hostgroups hterms hne]
  intro hnum
  rw [numFilters_eq hterms] at hnum
  exact hne (leaked_of_count hnum).1

theorem alts_filterForm_hosts (hne : o.leakedHosts ≠ []) :
    Text.alts row o.filterForm = o.selectedHosts.map r.hasHost := by
  rw [alts_filterForm h hrow hterms, if_neg, filterAlternatives_hosts hterms hne]
  intro hnum
  rw [numFilters_eq hterms] at hnum
  exact hne (leaked_of_count hnum).2

/-- Alternatives beyond the first stand outside all parentheses only where they leak. -/
theorem tail_filterForm : (Text.alts row o.filterForm).tail.any id = o.leaks r := by
  unfold leaks
  by_cases hgroups : o.leakedHostgroups = []
  · by_cases hhosts : o.leakedHosts = []
    · have hlen := length_alts_filterForm h hrow hterms hgroups hhosts
      rw [List.eq_nil_of_length_eq_zero (List.length_tail.trans (Nat.sub_eq_zero_of_le hlen))]
      simp [hgroups, hhosts]
    · rw [alts_filterForm_hosts h hrow hterms hhosts, ← List.map_tail,
        ← (leakedHosts_ne_nil hhosts).2.1]
      simp [hgroups]
  · rw [alts_filterForm_hostgroups h hrow hterms hgroups, ← List.map_tail,
      ← (leakedHostgroups_ne_nil hgroups).2.1]
    simp [(leakedHostgroups_ne_nil hgroups).2.2]

end FilterForm

/-- A query shows the rows of its base that pass its filters, and the rows that leak. -/
theorem shows_row {o : HostResourceQueryOption} {row : String → Value} {r : HostRow}
    (hrow : o.HasRow row r) :
    o.shows row = (o.answers && ((o.inBase r && o.passesFilters r) || o.leaks r)) := by
  rw [shows_eq, complete_form]
  unfold answers
  cases hcolumns : o.hasColumns with
  | false => simp
  | true =>
    cases hentries : o.hasEntries with
    | false => simp
    | true =>
      cases hterms : o.hasTerms with
      | false => simp
      | true =>
        obtain ⟨hlen, hbase⟩ := alts_baseForm hcolumns hrow ((complete_baseForm o).trans hentries)
        rw [form, Text.alts_glue_and, picks_conjoin hlen, hbase,
          picks_filterForm hcolumns hrow hterms, tail_filterForm hcolumns hrow hterms]
        simp

end HostResourceQueryOption

end Hatohol

import Hatohol.HostResource.Form
import Hatohol.Sql.Columns
import Hatohol.Tables

/-!
# When the table of host groups is joined

`getFromClause` and the names of the columns are decided by `isHostgroupUsed`, and whether the
condition is about a host group by the builders. The two agree.
-/

namespace Hatohol

open Sql

/-! ## The FROM clause -/

/-- The table of the query, which is the one of the server's column. -/
def Synapse.tableProfile (synapse : Synapse) : TableProfile := synapse.serverIdColumn.profile

def Synapse.hostgroupMapTableProfile (synapse : Synapse) : TableProfile :=
  synapse.hostgroupMapServerIdColumn.profile

/-- What the tables of a query have in common that joins the host groups. -/
structure Synapse.Joinable (synapse : Synapse) : Prop where
  needToJoinHostgroup : synapse.needToJoinHostgroup
  hostTable : synapse.hostTableProfile = synapse.tableProfile
  hostgroupTable : synapse.hostgroupIdColumn.profile = synapse.hostgroupMapTableProfile
  hostColumn : synapse.hostIdColumnIdx.isSome
  /-- No name of a column of one table, with or without the table's, is one of the other's, unless
      it is that of a column that both tables have. -/
  distinct : ∀ (c : Fin synapse.hostgroupMapTableProfile.numColumns)
    (c' : Fin synapse.tableProfile.numColumns) (full : Bool),
    Column.getFullColumnName ⟨_, c⟩ ≠ Column.nameIn full ⟨_, c'⟩ ∧
      (Column.columnName ⟨_, c⟩ ∉ synapse.tableProfile.columnNames →
        Column.columnName ⟨_, c⟩ ≠ Column.nameIn full ⟨_, c'⟩)

/-- The synapses of the program that join the host groups. -/
def joiningSynapses : List Synapse :=
  [synapseHostsQueryOption, synapseEventsQueryOption, synapseTriggersQueryOption,
    synapseItemsQueryOption]

/-- All synapses of the program. -/
def synapses : List Synapse :=
  joiningSynapses ++ [synapseHostgroupsQueryOption, synapseHostgroupMembersQueryOption]

theorem joinable_of_mem {synapse : Synapse} (hmem : synapse ∈ synapses)
    (hneed : synapse.needToJoinHostgroup) : synapse.Joinable := by
  simp only [synapses, joiningSynapses, List.cons_append, List.nil_append, List.mem_cons,
    List.not_mem_nil, or_false] at hmem
  rcases hmem with rfl | rfl | rfl | rfl | rfl | rfl
  · exact ⟨rfl, rfl, rfl, rfl, by decide⟩
  · exact ⟨rfl, rfl, rfl, rfl, by decide⟩
  · exact ⟨rfl, rfl, rfl, rfl, by decide⟩
  · exact ⟨rfl, rfl, rfl, rfl, by decide⟩
  · cases hneed
  · cases hneed

namespace HostResourceQueryOption

variable {o : HostResourceQueryOption}

/-- (HostResourceQueryOption.cc:182-214, 834-845) -/
def getJoinClause (o : HostResourceQueryOption) : Except HatoholException String :=
  if !o.isHostgroupUsed then .ok ""
  else match o.synapse.globalHostIdColumn, o.synapse.hostgroupMapGlobalHostIdColumn with
    | some globalHostId, some hostgroupMapGlobalHostId =>
        .ok ("INNER JOIN " ++ o.synapse.hostgroupMapTableProfile.name ++ " ON " ++
          globalHostId.getFullColumnName ++ "=" ++ hostgroupMapGlobalHostId.getFullColumnName)
    | _, _ => do
        let hostIdColumnName ← o.getHostIdColumnName
        pure ("INNER JOIN " ++ o.synapse.hostgroupMapTableProfile.name ++ " ON ((" ++
          o.getServerIdColumnName ++ "=" ++ o.synapse.hostgroupMapServerIdColumn.getFullColumnName ++
          ") AND (" ++ hostIdColumnName ++ "=" ++
          o.synapse.hostgroupMapHostIdColumn.getFullColumnName ++ "))")

/-- (HostResourceQueryOption.cc:174-180, 781-795) -/
def getFromClause (o : HostResourceQueryOption) : Except HatoholException String :=
  if o.isHostgroupUsed then do
    let joinClause ← o.getJoinClause
    pure (o.synapse.tableProfile.name ++ " " ++ joinClause)
  else .ok o.synapse.tableProfile.name

/-- The FROM clause has the join with the host groups. -/
def JoinsHostgroup (o : HostResourceQueryOption) : Prop :=
  ∃ on, o.getFromClause = .ok (o.synapse.tableProfile.name ++ " INNER JOIN " ++
    o.synapse.hostgroupMapTableProfile.name ++ " ON " ++ on)

theorem getJoinClause_of_used (hcolumn : o.synapse.hostIdColumnIdx.isSome)
    (hused : o.isHostgroupUsed) : ∃ on, o.getJoinClause =
      .ok ("INNER JOIN " ++ o.synapse.hostgroupMapTableProfile.name ++ " ON " ++ on) := by
  obtain ⟨hhost, -⟩ := getHostIdColumnName_eq hcolumn
  have hopen : " ON ((" = " ON " ++ "((" := rfl
  unfold getJoinClause
  rw [hused, hhost, Bool.not_true, if_neg Bool.false_ne_true]
  split
  · exact ⟨_, congrArg Except.ok (by simp only [String.append_assoc]; rfl)⟩
  · exact ⟨_, congrArg Except.ok (by rw [hopen]; simp only [String.append_assoc]; rfl)⟩

theorem joinsHostgroup_of_used (hcolumn : o.synapse.hostIdColumnIdx.isSome)
    (hused : o.isHostgroupUsed) : o.JoinsHostgroup := by
  obtain ⟨on, hjoin⟩ := getJoinClause_of_used hcolumn hused
  have hspace : " INNER JOIN " = " " ++ "INNER JOIN " := rfl
  refine ⟨on, ?_⟩
  rw [getFromClause, if_pos hused, hjoin, hspace]
  simp only [bind, Except.bind, pure, Except.pure, String.append_assoc]

theorem getFromClause_of_unused (hused : o.isHostgroupUsed = false) :
    o.getFromClause = .ok o.synapse.tableProfile.name := by
  rw [getFromClause, if_neg (Bool.eq_false_iff.mp hused)]

/-! ## The columns of the condition -/

/-- The columns that the builders ask for. -/
def IsColumn (o : HostResourceQueryOption) (name : String) : Prop :=
  name = o.getServerIdColumnName ∨ name = o.hostIdColumn ∨
    o.isHostgroupUsed ∧ name = o.getHostgroupIdColumnName

section

variable (hneed : o.synapse.needToJoinHostgroup)

include hneed

theorem isHostgroupUsed_eq : o.isHostgroupUsed = (o.isHostgroupEnumerationInCondition ||
    (o.targetHostgroupId != allHostGroups || !o.selectedServerHostgroupSetMap.isEmpty ||
      !o.excludedServerHostgroupSetMap.isEmpty)) := by
  rw [isHostgroupUsed, hneed, Bool.not_true, if_neg Bool.false_ne_true]
  cases o.isHostgroupEnumerationInCondition <;> rfl

/-- An entry of the access list that names host groups. It is not one of all servers, since the loop
    would have ended there. -/
theorem isHostgroupUsed_of_entry (hprivilege : o.has .getAllServer = false)
    (hall : o.seesAllServers = false) {entry : ServerIdType × HostgroupIdSet}
    (hentry : entry ∈ o.entries) (hgroups : allHostGroups ∉ entry.2) : o.isHostgroupUsed := by
  obtain ⟨hmem, htarget⟩ := List.mem_filter.mp hentry
  have hne : entry.1 ≠ allServers := by
    intro hserver
    have hkey : o.getAllowedServersAndHostgroups.contains allServers := by
      rw [Std.TreeMap.contains_iff_mem, ← Std.TreeMap.mem_keys, ← Std.TreeMap.map_fst_toList_eq_keys,
        ← hserver]
      exact List.mem_map_of_mem hmem
    rw [seesAllServers, hkey, Bool.and_true] at hall
    rw [hall, Bool.false_or, hserver] at htarget
    rw [eq_of_beq htarget, beq_self_eq_true] at hall
    cases hall
  have hnone : entry.2.contains allHostGroups = false :=
    Bool.eq_false_iff.mpr fun hcontains => hgroups (Std.TreeSet.contains_iff_mem.mp hcontains)
  have henumeration : o.isHostgroupEnumerationInCondition := by
    rw [isHostgroupEnumerationInCondition, hprivilege, if_neg Bool.false_ne_true, List.any_eq_true]
    exact ⟨entry, hmem, by simp [hne, hnone]⟩
  rw [isHostgroupUsed_eq hneed, henumeration, Bool.true_or]

theorem isHostgroupUsed_of_target (htarget : o.targetHostgroupId ≠ allHostGroups) :
    o.isHostgroupUsed := by
  simp [isHostgroupUsed_eq hneed, htarget]

theorem names_allowedForm (hprivilege : o.has .getAllServer = false) :
    Text.Names o.IsColumn o.allowedForm := by
  cases hall : o.seesAllServers with
  | true =>
    rw [allowedForm, hall, if_pos rfl]
    exact Text.names_none
  | false =>
    have hchain : Text.Names o.IsColumn (Text.chain .or (o.entries.map o.entryForm)) := by
      refine Text.names_chain (fun _ _ => rfl) (List.forall_mem_map.mpr fun entry hentry => ?_)
      unfold entryForm
      dsimp only
      split_ifs with htarget hgroups
      · intro name hname
        exact .inl (List.mem_singleton.mp hname)
      · intro name hname
        rcases List.mem_cons.mp hname with rfl | hname
        · exact .inl rfl
        · exact .inr (.inr ⟨isHostgroupUsed_of_entry hneed hprivilege hall hentry hgroups,
            List.mem_singleton.mp hname⟩)
      · intro name hname
        rcases List.mem_cons.mp hname with rfl | hname
        · exact .inl rfl
        · exact .inr (.inr ⟨isHostgroupUsed_of_target hneed htarget, List.mem_singleton.mp hname⟩)
    rw [allowedForm, hall, if_neg Bool.false_ne_true, wrapIf]
    split
    · exact hchain.wrap
    · exact hchain

theorem names_targetForm : Text.Names o.IsColumn o.targetForm := by
  have hchain : Text.Names o.IsColumn (Text.chain .and o.targetTexts) := by
    refine Text.names_chain (fun _ _ => rfl) fun t ht => ?_
    simp only [targetTexts, List.mem_append] at ht
    rcases ht with (ht | ht) | ht
    · split at ht
      · cases ht
      · obtain rfl := List.mem_singleton.mp ht
        exact fun name hname => .inl (List.mem_singleton.mp hname)
    · split at ht
      · cases ht
      · obtain rfl := List.mem_singleton.mp ht
        exact fun name hname => .inr (.inl (List.mem_singleton.mp hname))
    · split at ht
      · cases ht
      · rename_i htarget
        obtain rfl := List.mem_singleton.mp ht
        exact fun name hname =>
          .inr (.inr ⟨isHostgroupUsed_of_target hneed htarget, List.mem_singleton.mp hname⟩)
  unfold targetForm
  cases hform : Text.chain .and o.targetTexts with
  | none => exact Text.names_none
  | some t =>
    rw [hform] at hchain
    exact Text.names_some.mpr (hchain t rfl)

omit hneed in
theorem names_validForm : Text.Names o.IsColumn o.validForm := by
  unfold validForm
  split
  · refine Text.names_some.mpr fun name hname => ?_
    split at hname
    · cases hname
    · exact .inl (List.mem_singleton.mp hname)
  · exact Text.names_none

end

theorem names_join {P : String → Prop} (type : AddConditionType) {t u : Option Text}
    (ht : Text.Names P t) (hu : Text.Names P u) : Text.Names P (Text.glue type.join t u) := by
  cases type
  · exact ht.glue_and hu
  · exact ht.glue_or hu

theorem names_serversForm (serverIdSet : ServerIdSet) (op : CmpOp) (type : AddConditionType) :
    Text.Names o.IsColumn (o.serversForm serverIdSet op type) := by
  have hchain : Text.Names o.IsColumn (Text.chain type.join
      ((o.leftServers serverIdSet).map fun serverId =>
        Text.cmp o.getServerIdColumnName op (.int serverId))) := by
    refine Text.names_chain (fun _ _ => by cases type <;> rfl)
      (List.forall_mem_map.mpr fun _ _ => ?_)
    exact fun name hname => .inl (List.mem_singleton.mp hname)
  rw [serversForm, wrapIf]
  split
  · exact hchain.wrap
  · exact hchain

theorem names_pairsForm (map : Std.TreeMap ServerIdType (Std.TreeSet CString))
    (isAllowedId : ServerIdType → CString → Bool) {column : String} {enclose : Text → Text}
    (henclose : ∀ t, (enclose t).columns = t.columns) (type : AddConditionType)
    (hcolumn : map.isEmpty = false → o.IsColumn column) :
    Text.Names o.IsColumn (o.pairsForm map isAllowedId column enclose type) := by
  cases hmap : map.isEmpty with
  | true =>
    rw [o.pairsForm_isEmpty hmap]
    exact Text.names_none
  | false =>
    have hchain : Text.Names o.IsColumn (Text.chain type.join
        ((o.leftPairs map isAllowedId).map fun pair => enclose (o.pairText column pair))) := by
      refine Text.names_chain (fun _ _ => by cases type <;> rfl)
        (List.forall_mem_map.mpr fun _ _ => ?_)
      rw [henclose]
      intro name hname
      rcases List.mem_cons.mp hname with rfl | hname
      · exact .inl rfl
      · rw [List.mem_singleton.mp hname]
        exact hcolumn hmap
    rw [pairsForm, wrapIf]
    split
    · exact hchain.wrap
    · exact hchain

theorem names_filterForm (hneed : o.synapse.needToJoinHostgroup) :
    Text.Names o.IsColumn o.filterForm := by
  have hparen (t : Text) : (Text.paren t).columns = t.columns := rfl
  have hnot (t : Text) : (Text.notParen t).columns = t.columns := rfl
  have hhost : o.IsColumn o.hostIdColumn := .inr (.inl rfl)
  have hflat : Text.Names o.IsColumn o.flatForm := by
    unfold flatForm filterForms
    refine names_join .and (names_join .or (names_join .and (names_join .or (names_join .and
      (names_join .or Text.names_none ?_) ?_) ?_) ?_) ?_) ?_
    · exact names_serversForm _ _ _
    · exact names_serversForm _ _ _
    · exact names_pairsForm _ _ hparen _ fun hmap =>
        .inr (.inr ⟨by simp [isHostgroupUsed_eq hneed, hmap], rfl⟩)
    · exact names_pairsForm _ _ hnot _ fun hmap =>
        .inr (.inr ⟨by simp [isHostgroupUsed_eq hneed, hmap], rfl⟩)
    · exact names_pairsForm _ _ hparen _ fun _ => hhost
    · exact names_pairsForm _ _ hnot _ fun _ => hhost
  rw [filterForm, wrapIf]
  split
  · exact hflat.wrap
  · exact hflat

theorem names_form (hneed : o.synapse.needToJoinHostgroup) : Text.Names o.IsColumn o.form := by
  unfold form baseForm
  refine ((names_validForm.glue_and ?_).glue_and (names_targetForm hneed)).glue_and
    (names_filterForm hneed)
  split
  · exact Text.names_none
  · rename_i hprivilege
    exact names_allowedForm hneed (Bool.eq_false_iff.mpr hprivilege)

/-- The words of a condition are columns that the builders ask for. -/
theorem lex_getCondition (hneed : o.synapse.needToJoinHostgroup) {s : String}
    (hs : o.getCondition = .ok s) :
    ∃ ts, lex s = some ts ∧ ∀ name, Token.word name ∈ ts → o.IsColumn name := by
  cases hdenied : o.denied with
  | true =>
    rw [getCondition_denied hdenied hs]
    exact ⟨[.int 0], rfl, fun _ hname => by cases List.mem_singleton.mp hname⟩
  | false =>
    cases hcolumns : o.hasColumns with
    | false =>
      obtain ⟨e, he⟩ := getCondition_missing_column hcolumns hdenied
      rw [hs] at he
      cases he
    | true =>
      obtain ⟨s', hs', hform⟩ := denotes_form hcolumns hdenied
      obtain rfl := Except.ok.inj (hs.symm.trans hs')
      exact (names_form hneed).lex hform

/-! ## The agreement -/

/-- The tokens name a column of a table, with the table's name or with a name that no column of the
    other table has. -/
def Mentions (profile other : TableProfile) (ts : List Token) : Prop :=
  ∃ c : Fin profile.numColumns, .word (Column.getFullColumnName ⟨profile, c⟩) ∈ ts ∨
    .word (Column.columnName ⟨profile, c⟩) ∈ ts ∧
      Column.columnName ⟨profile, c⟩ ∉ other.columnNames

theorem nameIn_of_isColumn (hjoinable : o.synapse.Joinable) {name : String}
    (hname : o.IsColumn name) :
    (∃ c, name = Column.nameIn (o.tableNameAlways || o.isHostgroupUsed)
        ⟨o.synapse.tableProfile, c⟩) ∨
      o.isHostgroupUsed ∧ ∃ c, name = Column.nameIn (o.tableNameAlways || o.isHostgroupUsed)
        ⟨o.synapse.hostgroupMapTableProfile, c⟩ := by
  rcases hname with rfl | rfl | ⟨hused, rfl⟩
  · exact .inl ⟨o.synapse.serverIdColumn.idx, rfl⟩
  · left
    obtain ⟨idx, hidx⟩ := Option.isSome_iff_exists.mp hjoinable.hostColumn
    have hcolumn : o.hostIdColumn =
        Column.nameIn (o.tableNameAlways || o.isHostgroupUsed) ⟨o.synapse.hostTableProfile, idx⟩ := by
      simp [hostIdColumn, hidx, getColumnNameCommon]
    rw [hcolumn, ← hjoinable.hostTable]
    exact ⟨idx, rfl⟩
  · refine .inr ⟨hused, ?_⟩
    rw [← hjoinable.hostgroupTable]
    exact ⟨o.synapse.hostgroupIdColumn.idx, rfl⟩

/-- A condition that mentions the table of host groups is read with it, and all its columns have the
    names of their tables. Without the join all its columns are those of the table of the query. -/
theorem getCondition_joins (o : HostResourceQueryOption) (hsynapse : o.synapse ∈ synapses)
    (hneed : o.synapse.needToJoinHostgroup) {s : String} (hs : o.getCondition = .ok s) :
    ∃ ts, lex s = some ts ∧
      (Mentions o.synapse.hostgroupMapTableProfile o.synapse.tableProfile ts →
        o.JoinsHostgroup ∧ ∀ name, Token.word name ∈ ts → ∃ c : Column,
          (c.profile = o.synapse.tableProfile ∨ c.profile = o.synapse.hostgroupMapTableProfile) ∧
            name = c.getFullColumnName) ∧
      (¬ o.JoinsHostgroup → o.getFromClause = .ok o.synapse.tableProfile.name ∧
        ∀ name, Token.word name ∈ ts → ∃ c : Column,
          c.profile = o.synapse.tableProfile ∧ name = c.nameIn o.tableNameAlways) := by
  have hjoinable := joinable_of_mem hsynapse hneed
  obtain ⟨ts, hlex, hwords⟩ := lex_getCondition hneed hs
  refine ⟨ts, hlex, ?_⟩
  cases hused : o.isHostgroupUsed with
  | true =>
    have hjoins := joinsHostgroup_of_used hjoinable.hostColumn hused
    refine ⟨fun _ => ⟨hjoins, fun name hname => ?_⟩, fun hnot => absurd hjoins hnot⟩
    have hcolumn := nameIn_of_isColumn hjoinable (hwords name hname)
    rw [hused, Bool.or_true] at hcolumn
    rcases hcolumn with ⟨c, rfl⟩ | ⟨-, c, rfl⟩
    · exact ⟨⟨_, c⟩, .inl rfl, rfl⟩
    · exact ⟨⟨_, c⟩, .inr rfl, rfl⟩
  | false =>
    have hprimary (name : String) (hname : Token.word name ∈ ts) :
        ∃ c, name = Column.nameIn o.tableNameAlways ⟨o.synapse.tableProfile, c⟩ := by
      have hcolumn := nameIn_of_isColumn hjoinable (hwords name hname)
      rw [hused, Bool.or_false] at hcolumn
      rcases hcolumn with hcolumn | ⟨hfalse, -⟩
      · exact hcolumn
      · cases hfalse
    constructor
    · -- no name of the other table can be meant
      rintro ⟨c, hfull | ⟨hshort, hnone⟩⟩
      · obtain ⟨c', heq⟩ := hprimary _ hfull
        exact absurd heq (hjoinable.distinct c c' _).1
      · obtain ⟨c', heq⟩ := hprimary _ hshort
        exact absurd heq ((hjoinable.distinct c c' _).2 hnone)
    · refine fun _ => ⟨getFromClause_of_unused hused, fun name hname => ?_⟩
      obtain ⟨c, rfl⟩ := hprimary name hname
      exact ⟨⟨_, c⟩, rfl, rfl⟩

/-- A user who may see host group 2 of server 1. -/
def oneHostgroupQuery : HostResourceQueryOption :=
  new synapseTriggersQueryOption ⟨⟨0⟩, {1}, {(1, {.ofString "2"})}⟩

theorem getCondition_joins_one_hostgroup :
    ∃ s ts, oneHostgroupQuery.getCondition = .ok s ∧ lex s = some ts ∧
      Token.word "hostgroup_member.host_group_id" ∈ ts ∧ oneHostgroupQuery.JoinsHostgroup := by
  have hs : oneHostgroupQuery.getCondition = .ok ("triggers.server_id IN (1) AND " ++
      "(triggers.server_id=1 AND hostgroup_member.host_group_id IN ('2'))") := by
    decide +kernel
  obtain ⟨ts, hlex, hjoins, -⟩ := getCondition_joins oneHostgroupQuery
    (by simp [synapses, joiningSynapses, oneHostgroupQuery, new]) rfl hs
  have hword : Token.word "hostgroup_member.host_group_id" ∈ (lex ("triggers.server_id IN (1) " ++
      "AND (triggers.server_id=1 AND hostgroup_member.host_group_id IN ('2'))")).get! := by
    decide +kernel
  have hmem : Token.word "hostgroup_member.host_group_id" ∈ ts := by
    rw [← Option.get!_some (a := ts), ← hlex]
    exact hword
  exact ⟨_, ts, hs, hlex, hmem, (hjoins ⟨⟨3, by decide⟩, .inl hmem⟩).1⟩

end HostResourceQueryOption

end Hatohol

import Hatohol.HostResourceQueryOption

/-!
# The texts that the builders assemble

For each builder of `HostResourceQueryOption` the text it writes, as a `Sql.Text`: which terms
are left, with which connective they are joined and where parentheses stand. `denotes_form` says
that the string `getCondition` returns is the text `form`.
-/

namespace Hatohol

open Sql DBTermCodec

namespace HostResourceQueryOption

/-- The host's column, where the query has one. -/
def hostIdColumn (o : HostResourceQueryOption) : String :=
  match o.synapse.hostIdColumnIdx with
  | some idx => o.getColumnNameCommon ⟨o.synapse.hostTableProfile, idx⟩
  | none => ""

/-- Something in the option is about a host. -/
def namesHost (o : HostResourceQueryOption) : Bool :=
  o.targetHostId != allLocalHosts || !o.selectedServerHostSetMap.isEmpty ||
    !o.excludedServerHostSetMap.isEmpty

/-- The builders find every column they ask for. -/
def hasColumns (o : HostResourceQueryOption) : Bool :=
  o.synapse.hostIdColumnIdx.isSome || !o.namesHost

theorem getHostIdColumnName_eq {o : HostResourceQueryOption}
    (h : o.synapse.hostIdColumnIdx.isSome) :
    o.getHostIdColumnName = .ok o.hostIdColumn ∧ isName o.hostIdColumn := by
  obtain ⟨idx, hidx⟩ := Option.isSome_iff_exists.mp h
  simp [getHostIdColumnName, hostIdColumn, hidx, getColumnNameCommon, Column.isName_nameIn]

theorem isName_serverIdColumn (o : HostResourceQueryOption) : isName o.getServerIdColumnName :=
  Column.isName_nameIn _ _

theorem isName_hostgroupIdColumn (o : HostResourceQueryOption) :
    isName o.getHostgroupIdColumnName :=
  Column.isName_nameIn _ _

/-! ## Valid servers -/

def validForm (o : HostResourceQueryOption) : Option Text :=
  if o.excludeDefunctServers then
    some (if o.getValidServerIdSet.isEmpty then .const 0
      else .inList o.getServerIdColumnName (o.getValidServerIdSet.toList.map .int))
  else none

theorem denotes_makeConditionServer (serverIdSet : ServerIdSet) {column : String}
    (hc : isName column) :
    Denotes (makeConditionServer serverIdSet column)
      (some (if serverIdSet.isEmpty then .const 0
        else .inList column (serverIdSet.toList.map .int))) := by
  unfold makeConditionServer
  split
  · exact denotes_const 0
  · exact denotes_inList hc opens_in (separates rfl) encInt .int denotes_encInt _

/-! ## Allowed servers and host groups -/

/-- The entries of the access list that concern the target server. -/
def entries (o : HostResourceQueryOption) : List (ServerIdType × HostgroupIdSet) :=
  o.getAllowedServersAndHostgroups.toList.filter fun entry =>
    o.targetServerId == allServers || entry.1 == o.targetServerId

/-- The user may see all servers and has not asked for one. -/
def seesAllServers (o : HostResourceQueryOption) : Bool :=
  o.targetServerId == allServers && o.getAllowedServersAndHostgroups.contains allServers

def entryForm (o : HostResourceQueryOption) (entry : ServerIdType × HostgroupIdSet) : Text :=
  let server := Text.cmp o.getServerIdColumnName .eq (.int entry.1)
  if o.targetHostgroupId = allHostGroups then
    if allHostGroups ∈ entry.2 then server
    else .paren (.and server
      (.inList o.getHostgroupIdColumnName (entry.2.toList.map (.str ·.text))))
  else .paren (.and server (.cmp o.getHostgroupIdColumnName .eq (.str o.targetHostgroupId.text)))

def wrapIf (b : Bool) (t : Option Text) : Option Text := if b then some (Text.wrap t) else t

def allowedForm (o : HostResourceQueryOption) : Option Text :=
  if o.seesAllServers then none
  else wrapIf (o.entries.length != 1) (Text.chain .or (o.entries.map o.entryForm))

theorem hostgroupItems_eq (ids : List HostgroupIdType) (hostGrps : String) :
    hostgroupItems ids (ids.length - 1) hostGrps =
      if allHostGroups ∈ ids then none
      else some (hostGrps ++ commaSeparated (ids.map encString)) := by
  induction ids generalizing hostGrps with
  | nil => simp [hostgroupItems, commaSeparated]
  | cons id ids ih =>
    by_cases hid : id = allHostGroups
    · simp [hostgroupItems, hid]
    · have hmem : allHostGroups ∈ id :: ids ↔ allHostGroups ∈ ids := by
        simp [Ne.symm hid]
      have htail := ih (hostGrps ++ encString id ++ if ids.length ≠ 0 then "," else "")
      simp only [hostgroupItems, hid, if_false, List.length_cons, Nat.add_sub_cancel, hmem]
      rw [htail]
      cases ids with
      | nil => simp [commaSeparated]
      | cons id' ids => simp [commaSeparated, String.append_assoc]

theorem makeConditionHostgroup_eq (hostgroupIdSet : HostgroupIdSet) (column : String) :
    makeConditionHostgroup hostgroupIdSet column =
      if allHostGroups ∈ hostgroupIdSet then ""
      else column ++ " IN (" ++ commaSeparated (hostgroupIdSet.toList.map encString) ++ ")" := by
  unfold makeConditionHostgroup
  rw [← Std.TreeSet.length_toList, hostgroupItems_eq]
  by_cases hmem : allHostGroups ∈ hostgroupIdSet
  · simp [hmem]
  · simp [hmem]

theorem denotes_entry (o : HostResourceQueryOption) (entry : ServerIdType × HostgroupIdSet) :
    Denotes (makeConditionServerHostgroup entry.1 entry.2 o.getServerIdColumnName
      o.getHostgroupIdColumnName o.targetHostgroupId) (some (o.entryForm entry)) := by
  have hserver := denotes_eq o.isName_serverIdColumn (denotes_encInt entry.1)
  have hboth {s : String} {t : Text} (hs : Denotes s (some t)) :=
    Denotes.paren (hserver.and hs)
  unfold makeConditionServerHostgroup entryForm
  by_cases htarget : o.targetHostgroupId = allHostGroups
  · rw [makeConditionHostgroup_eq]
    by_cases hmem : allHostGroups ∈ entry.2
    · simpa [htarget, hmem] using hserver
    · have hlist := denotes_inList o.isName_hostgroupIdColumn opens_in (separates rfl) encString
        (.str ·.text) denotes_encString entry.2.toList
      simpa [htarget, hmem, hlist.ne_empty, String.append_assoc] using hboth hlist
  · have hgroup := denotes_eq o.isName_hostgroupIdColumn (denotes_encString o.targetHostgroupId)
    simpa [htarget, hgroup.ne_empty, String.append_assoc] using hboth hgroup

/-- The loop ends with no condition at the entry for all servers. -/
theorem allowedHostsLoop_all (o : HostResourceQueryOption) (htarget : o.targetServerId = allServers)
    (rest : List (ServerIdType × HostgroupIdSet)) (hall : allServers ∈ rest.map (·.1))
    (condition : String) (numServers : Nat) :
    o.allowedHostsLoop rest condition numServers = "" := by
  induction rest generalizing condition numServers with
  | nil => simp at hall
  | cons entry rest ih =>
    obtain ⟨serverId, hostgroupIdSet⟩ := entry
    unfold allowedHostsLoop
    by_cases hserver : serverId = allServers
    · simp [htarget, hserver]
    · have hrest : allServers ∈ rest.map (·.1) := by simpa [Ne.symm hserver] using hall
      simpa [htarget, hserver] using ih hrest _ _

/-- Elsewhere it has one alternative for each entry that concerns the target server. -/
theorem denotes_allowedHostsLoop (o : HostResourceQueryOption)
    (rest : List (ServerIdType × HostgroupIdSet))
    (hall : ¬(o.targetServerId = allServers ∧ allServers ∈ rest.map (·.1))) {condition : String}
    {form : Option Text} (numServers : Nat) (hcond : Denotes condition form) :
    let left := rest.filter fun entry => o.targetServerId == allServers || entry.1 == o.targetServerId
    Denotes (o.allowedHostsLoop rest condition numServers)
      (wrapIf (numServers + left.length != 1)
        ((left.map o.entryForm).foldl (fun t u => Text.glue .or t (some u)) form)) := by
  induction rest generalizing condition form numServers with
  | nil =>
    unfold allowedHostsLoop wrapIf
    by_cases hnum : numServers = 1
    · simpa [hnum] using hcond
    · simpa [hnum] using hcond.wrap
  | cons entry rest ih =>
    obtain ⟨serverId, hostgroupIdSet⟩ := entry
    have hrest : ¬(o.targetServerId = allServers ∧ allServers ∈ rest.map (·.1)) :=
      fun h => hall ⟨h.1, List.mem_cons_of_mem _ h.2⟩
    have hentry := denotes_entry o (serverId, hostgroupIdSet)
    unfold allowedHostsLoop
    by_cases hserver : o.targetServerId = allServers ∨ o.targetServerId = serverId
    · have hne : serverId ≠ allServers := by
        rintro rfl
        exact hall ⟨hserver.elim id id, by simp⟩
      have hskip : ¬(o.targetServerId ≠ allServers ∧ o.targetServerId ≠ serverId) := by tauto
      have htest : (o.targetServerId == allServers || serverId == o.targetServerId) = true := by
        rw [Bool.or_eq_true, beq_iff_eq, beq_iff_eq]
        exact hserver.imp_right Eq.symm
      have htail := ih hrest (numServers + 1) (denotes_addOr hcond hentry)
      simpa [hskip, hne, htest, Nat.add_assoc, Nat.add_comm 1] using htail
    · have hskip : o.targetServerId ≠ allServers ∧ o.targetServerId ≠ serverId := by tauto
      have htest : (o.targetServerId == allServers || serverId == o.targetServerId) = false := by
        rw [Bool.or_eq_false_iff, beq_eq_false_iff_ne, beq_eq_false_iff_ne]
        exact ⟨hskip.1, hskip.2.symm⟩
      simpa [hskip, htest] using ih hrest numServers hcond

/-- The user may see nothing of what is asked for. -/
def denied (o : HostResourceQueryOption) : Bool :=
  !o.has .getAllServer && (o.getAllowedServersAndHostgroups.isEmpty ||
    (o.targetServerId != allServers && !o.isAllowedServer o.targetServerId))

theorem denotes_allowedForm (o : HostResourceQueryOption) :
    Denotes (o.allowedHostsLoop o.getAllowedServersAndHostgroups.toList "" 0) o.allowedForm := by
  have hmem : allServers ∈ o.getAllowedServersAndHostgroups.toList.map (·.1) ↔
      o.getAllowedServersAndHostgroups.contains allServers := by
    rw [Std.TreeMap.map_fst_toList_eq_keys]
    simp
  by_cases hall : o.seesAllServers
  · have hboth : o.targetServerId = allServers ∧
        o.getAllowedServersAndHostgroups.contains allServers := by simpa [seesAllServers] using hall
    have hloop := allowedHostsLoop_all o hboth.1 _ (hmem.mpr hboth.2) "" 0
    simpa [allowedForm, hall, Denotes] using hloop
  · have hboth : ¬(o.targetServerId = allServers ∧
        allServers ∈ o.getAllowedServersAndHostgroups.toList.map (·.1)) := by
      simpa [seesAllServers, hmem] using hall
    have hloop := denotes_allowedHostsLoop o _ hboth 0 (show Denotes "" none from rfl)
    simpa [allowedForm, hall, entries, Text.chain] using hloop

/-! ## Targets -/

def targetTexts (o : HostResourceQueryOption) : List Text :=
  (if o.targetServerId = allServers then []
    else [.cmp o.getServerIdColumnName .eq (.int o.targetServerId)]) ++
  (if o.targetHostId = allLocalHosts then []
    else [.cmp o.hostIdColumn .eq (.str o.targetHostId.text)]) ++
  (if o.targetHostgroupId = allHostGroups then []
    else [.cmp o.getHostgroupIdColumnName .eq (.str o.targetHostgroupId.text)])

def targetForm (o : HostResourceQueryOption) : Option Text :=
  (Text.chain .and o.targetTexts).map .paren

theorem targetHost_of_hasColumns {o : HostResourceQueryOption} (h : o.hasColumns)
    (htarget : o.targetHostId ≠ allLocalHosts) : o.synapse.hostIdColumnIdx.isSome := by
  simpa [hasColumns, namesHost, htarget] using h

/-- A condition that is appended only in some options. -/
theorem denotes_addAnd_unless {p : Prop} [Decidable p] {curr added : String} {o : Option Text}
    {t : Text} (hcurr : Denotes curr o) (hadded : ¬p → Denotes added (some t)) :
    Denotes (if ¬p then addAnd curr added else curr)
      (Text.glue .and o (if p then none else some t)) := by
  by_cases hp : p
  · cases o <;> simpa [hp, Text.glue] using hcurr
  · simpa [hp] using denotes_addAnd hcurr (hadded hp)

theorem denotes_makeConditionTargetIds {o : HostResourceQueryOption} (h : o.hasColumns) :
    ∃ s, o.makeConditionTargetIds = .ok s ∧ Denotes s o.targetForm := by
  have hserver := denotes_addAnd_unless (p := o.targetServerId = allServers)
    (show Denotes "" none from rfl)
    fun _ => denotes_eq o.isName_serverIdColumn (denotes_encInt o.targetServerId)
  have hhost := denotes_addAnd_unless (p := o.targetHostId = allLocalHosts) hserver
    fun hp => denotes_eq (getHostIdColumnName_eq (targetHost_of_hasColumns h hp)).2
      (denotes_encString o.targetHostId)
  have hgroup := denotes_addAnd_unless (p := o.targetHostgroupId = allHostGroups) hhost
    fun _ => denotes_eq o.isName_hostgroupIdColumn (denotes_encString o.targetHostgroupId)
  generalize hcond : (if ¬o.targetHostgroupId = allHostGroups then _ else _) = condition at hgroup
  have hrun : o.makeConditionTargetIds =
      .ok (if condition = "" then condition else "(" ++ condition ++ ")") := by
    subst hcond
    unfold makeConditionTargetIds
    by_cases hp : o.targetHostId = allLocalHosts
    · simp only [hp, ne_eq, not_true_eq_false, if_false]
      rfl
    · rw [(getHostIdColumnName_eq (targetHost_of_hasColumns h hp)).1]
      simp only [hp, ne_eq, not_false_eq_true, if_true]
      rfl
  refine ⟨_, hrun, ?_⟩
  have hchain : Text.chain .and o.targetTexts = Text.glue .and (Text.glue .and (Text.glue .and none
      (if o.targetServerId = allServers then none
        else some (.cmp o.getServerIdColumnName .eq (.int o.targetServerId))))
      (if o.targetHostId = allLocalHosts then none
        else some (.cmp o.hostIdColumn .eq (.str o.targetHostId.text))))
      (if o.targetHostgroupId = allHostGroups then none
        else some (.cmp o.getHostgroupIdColumnName .eq (.str o.targetHostgroupId.text))) := by
    simp only [Text.chain, targetTexts]
    split <;> split <;> split <;> rfl
  rw [← hchain] at hgroup
  rw [targetForm]
  cases hform : Text.chain .and o.targetTexts with
  | none =>
    rw [hform] at hgroup
    have hempty : condition = "" := hgroup
    simp [hempty, Denotes]
  | some t =>
    rw [hform] at hgroup
    simpa [hgroup.ne_empty] using hgroup.paren

/-! ## Filters -/

/-- The servers of a filter that the user may see. -/
def leftServers (o : HostResourceQueryOption) (serverIdSet : ServerIdSet) : List ServerIdType :=
  serverIdSet.toList.filter o.isAllowedServer

def serversForm (o : HostResourceQueryOption) (serverIdSet : ServerIdSet) (op : CmpOp)
    (type : AddConditionType) : Option Text :=
  wrapIf (serverIdSet.size > 1) (Text.chain type.join
    ((o.leftServers serverIdSet).map fun serverId =>
      .cmp o.getServerIdColumnName op (.int serverId)))

/-- A loop that passes over the elements that are not allowed. -/
theorem foldl_unless {α β : Type} (p : α → Bool) (f : β → α → β) (init : β) (xs : List α) :
    xs.foldl (fun b x => if !p x then b else f b x) init = (xs.filter p).foldl f init := by
  rw [List.foldl_filter]
  congr 1
  funext b x
  cases p x <;> rfl

theorem denotes_wrapIf {s : String} {t : Option Text} {p : Prop} [Decidable p] (hs : Denotes s t) :
    Denotes (if p then "(" ++ s ++ ")" else s) (wrapIf p t) := by
  by_cases hp : p
  · simpa [wrapIf, hp] using hs.wrap
  · simpa [wrapIf, hp] using hs

theorem denotes_chain {α : Type} (type : AddConditionType) {cond : α → String} {form : α → Text}
    (hcond : ∀ x, Denotes (cond x) (some (form x))) (xs : List α) :
    Denotes (xs.foldl (fun condition x => addCondition condition (cond x) type false) "")
      (Text.chain type.join (xs.map form)) := by
  have h := denotes_foldl (denotes_addCondition type) hcond xs (show Denotes "" none from rfl)
  simpa [Text.chain, List.foldl_map] using h

theorem denotes_makeConditionServers (o : HostResourceQueryOption) (serverIdSet : ServerIdSet)
    (type : AddConditionType) {op : String} {c : CmpOp} (hop : Opens op.toList [.op c])
    (hsep : ∀ c ∈ op.toList.head?, isSeparator c) :
    Denotes (o.makeConditionServers serverIdSet op type) (o.serversForm serverIdSet c type) := by
  have hloop := denotes_chain type
    (fun serverId => denotes_cmp o.isName_serverIdColumn hop hsep (denotes_encInt serverId))
    (o.leftServers serverIdSet)
  unfold makeConditionServers serversForm
  cases hempty : serverIdSet.isEmpty with
  | true =>
    have hsize : serverIdSet.size = 0 := by
      simpa [Std.TreeSet.isEmpty_eq_size_eq_zero] using hempty
    have hlist : serverIdSet.toList = [] := by simpa [← Std.TreeSet.length_toList] using hsize
    simp [leftServers, hlist, hsize, wrapIf, Text.chain, Denotes]
  | false =>
    simp only [foldl_unless, Bool.false_eq_true, if_false]
    exact denotes_wrapIf hloop

/-- The server and ID pairs of a filter that the user may see. -/
def leftPairs (o : HostResourceQueryOption) (map : Std.TreeMap ServerIdType (Std.TreeSet CString))
    (isAllowedId : ServerIdType → CString → Bool) : List (ServerIdType × CString) :=
  map.toList.flatMap fun (serverId, ids) =>
    if o.isAllowedServer serverId then (ids.toList.filter (isAllowedId serverId)).map (serverId, ·)
    else []

def pairText (o : HostResourceQueryOption) (column : String) (pair : ServerIdType × CString) :
    Text :=
  .and (.cmp o.getServerIdColumnName .eq (.int pair.1)) (.cmp column .eq (.str pair.2.text))

/-- The text of a filter by server and ID, each pair enclosed in its own parentheses. -/
def pairsForm (o : HostResourceQueryOption) (map : Std.TreeMap ServerIdType (Std.TreeSet CString))
    (isAllowedId : ServerIdType → CString → Bool) (column : String) (enclose : Text → Text)
    (type : AddConditionType) : Option Text :=
  wrapIf (map.size > 1) (Text.chain type.join
    ((o.leftPairs map isAllowedId).map fun pair => enclose (o.pairText column pair)))

theorem denotes_makeConditionServerIdPairs (o : HostResourceQueryOption)
    (map : Std.TreeMap ServerIdType (Std.TreeSet CString))
    (isAllowedId : ServerIdType → CString → Bool) {column opening : String} {enclose : Text → Text}
    (type : AddConditionType) (hc : isName column)
    (hopen : ∀ {s t}, Denotes s (some t) → Denotes (opening ++ s ++ ")") (some (enclose t))) :
    Denotes (o.makeConditionServerIdPairs map isAllowedId column opening type)
      (o.pairsForm map isAllowedId column enclose type) := by
  have hpair : ∀ pair : ServerIdType × CString,
      Denotes (opening ++ o.getServerIdColumnName ++ "=" ++ encInt pair.1 ++ " AND " ++ column ++
        "=" ++ encString pair.2 ++ ")") (some (enclose (o.pairText column pair))) := by
    intro pair
    have hserver := denotes_eq o.isName_serverIdColumn (denotes_encInt pair.1)
    have hid := denotes_eq hc (denotes_encString pair.2)
    simpa [pairText, String.append_assoc] using hopen (hserver.and hid)
  have hloop := denotes_chain type hpair (o.leftPairs map isAllowedId)
  rw [leftPairs, List.foldl_flatMap] at hloop
  unfold makeConditionServerIdPairs pairsForm
  refine denotes_wrapIf ?_
  refine Eq.subst (motive := fun s => Denotes s _) (List.foldl_ext _ _ "" fun condition entry _ => ?_)
    hloop
  obtain ⟨serverId, ids⟩ := entry
  cases hserver : o.isAllowedServer serverId with
  | false => simp [hserver]
  | true => simp only [Bool.not_true, Bool.false_eq_true, if_false, if_true, foldl_unless, hserver,
      List.foldl_map]

theorem pairsForm_isEmpty (o : HostResourceQueryOption)
    {map : Std.TreeMap ServerIdType (Std.TreeSet CString)} (hmap : map.isEmpty)
    (isAllowedId : ServerIdType → CString → Bool) (column : String) (enclose : Text → Text)
    (type : AddConditionType) : o.pairsForm map isAllowedId column enclose type = none := by
  have hsize : map.size = 0 := by simpa [Std.TreeMap.isEmpty_eq_size_eq_zero] using hmap
  have hlist : map.toList = [] := by simpa [← Std.TreeMap.length_toList] using hsize
  simp [pairsForm, leftPairs, hlist, hsize, wrapIf, Text.chain]

def allowsHostgroup (o : HostResourceQueryOption) (serverId : ServerIdType)
    (hostgroupId : HostgroupIdType) : Bool :=
  (o.isAllowedHostgroup serverId hostgroupId).getD false

def selectedServersForm (o : HostResourceQueryOption) : Option Text :=
  o.serversForm o.selectedServerIdSet .eq .or

def excludedServersForm (o : HostResourceQueryOption) : Option Text :=
  o.serversForm o.excludedServerIdSet .ne .and

def selectedHostgroupsForm (o : HostResourceQueryOption) : Option Text :=
  o.pairsForm o.selectedServerHostgroupSetMap o.allowsHostgroup o.getHostgroupIdColumnName .paren .or

def excludedHostgroupsForm (o : HostResourceQueryOption) : Option Text :=
  o.pairsForm o.excludedServerHostgroupSetMap o.allowsHostgroup o.getHostgroupIdColumnName
    .notParen .and

def selectedHostsForm (o : HostResourceQueryOption) : Option Text :=
  o.pairsForm o.selectedServerHostSetMap (fun _ _ => true) o.hostIdColumn .paren .or

def excludedHostsForm (o : HostResourceQueryOption) : Option Text :=
  o.pairsForm o.excludedServerHostSetMap (fun _ _ => true) o.hostIdColumn .notParen .and

/-- The filters in the order in which they are appended, each with its connective. -/
def filterForms (o : HostResourceQueryOption) : List (AddConditionType × Option Text) :=
  [(.or, o.selectedServersForm), (.and, o.excludedServersForm),
    (.or, o.selectedHostgroupsForm), (.and, o.excludedHostgroupsForm),
    (.or, o.selectedHostsForm), (.and, o.excludedHostsForm)]

def numFilters (o : HostResourceQueryOption) : Nat :=
  o.filterForms.countP fun form => form.2.isSome

def flatForm (o : HostResourceQueryOption) : Option Text :=
  o.filterForms.foldl (fun t form => Text.glue form.1.join t form.2) none

def filterForm (o : HostResourceQueryOption) : Option Text := wrapIf (o.numFilters > 1) o.flatForm

theorem denotes_makeConditionSelectedHostgroups (o : HostResourceQueryOption) :
    Denotes o.makeConditionSelectedHostgroups o.selectedHostgroupsForm := by
  unfold makeConditionSelectedHostgroups selectedHostgroupsForm
  split
  · rename_i hmap
    simp [pairsForm_isEmpty o hmap, Denotes]
  · exact denotes_makeConditionServerIdPairs o _ _ .or o.isName_hostgroupIdColumn Denotes.paren

theorem denotes_makeConditionExcludedHostgroups (o : HostResourceQueryOption) :
    Denotes o.makeConditionExcludedHostgroups o.excludedHostgroupsForm := by
  unfold makeConditionExcludedHostgroups excludedHostgroupsForm
  split
  · rename_i hmap
    simp [pairsForm_isEmpty o hmap, Denotes]
  · exact denotes_makeConditionServerIdPairs o _ _ .and o.isName_hostgroupIdColumn Denotes.notParen

theorem denotes_makeConditionSelectedHosts {o : HostResourceQueryOption} (h : o.hasColumns) :
    ∃ s, o.makeConditionSelectedHosts = .ok s ∧ Denotes s o.selectedHostsForm := by
  unfold makeConditionSelectedHosts selectedHostsForm
  cases hmap : o.selectedServerHostSetMap.isEmpty with
  | true => exact ⟨"", rfl, by simp [pairsForm_isEmpty o hmap, Denotes]⟩
  | false =>
    have hidx : o.synapse.hostIdColumnIdx.isSome := by simpa [hasColumns, namesHost, hmap] using h
    obtain ⟨hcolumn, hname⟩ := getHostIdColumnName_eq hidx
    refine ⟨_, by rw [hcolumn]; rfl, ?_⟩
    exact denotes_makeConditionServerIdPairs o _ _ .or hname Denotes.paren

theorem denotes_makeConditionExcludedHosts {o : HostResourceQueryOption} (h : o.hasColumns) :
    ∃ s, o.makeConditionExcludedHosts = .ok s ∧ Denotes s o.excludedHostsForm := by
  unfold makeConditionExcludedHosts excludedHostsForm
  cases hmap : o.excludedServerHostSetMap.isEmpty with
  | true => exact ⟨"", rfl, by simp [pairsForm_isEmpty o hmap, Denotes]⟩
  | false =>
    have hidx : o.synapse.hostIdColumnIdx.isSome := by simpa [hasColumns, namesHost, hmap] using h
    obtain ⟨hcolumn, hname⟩ := getHostIdColumnName_eq hidx
    refine ⟨_, by rw [hcolumn]; rfl, ?_⟩
    exact denotes_makeConditionServerIdPairs o _ _ .and hname Denotes.notParen

theorem denotes_addFilter {acc : String × Nat} {next : String} {t u : Option Text}
    (type : AddConditionType) (hacc : Denotes acc.1 t) (hnext : Denotes next u) :
    Denotes (addFilter type acc next).1 (Text.glue type.join t u) ∧
      (addFilter type acc next).2 = acc.2 + if u.isSome then 1 else 0 := by
  refine ⟨denotes_addCondition type hacc hnext, ?_⟩
  cases u with
  | none =>
    have hempty : next = "" := hnext
    simp [addFilter, hempty]
  | some u => simp [addFilter, hnext.ne_empty]

/-- Conditions appended one after another, and how many of them were not empty. -/
theorem denotes_addFilters (parts : List (AddConditionType × String × Option Text))
    (hparts : ∀ part ∈ parts, Denotes part.2.1 part.2.2) (acc : String × Nat) {t : Option Text}
    (hacc : Denotes acc.1 t) :
    Denotes (parts.foldl (fun acc part => addFilter part.1 acc part.2.1) acc).1
        (parts.foldl (fun t part => Text.glue part.1.join t part.2.2) t) ∧
      (parts.foldl (fun acc part => addFilter part.1 acc part.2.1) acc).2 =
        acc.2 + parts.countP (fun part => part.2.2.isSome) := by
  induction parts generalizing acc t with
  | nil => exact ⟨hacc, rfl⟩
  | cons part parts ih =>
    obtain ⟨hcond, hnum⟩ := denotes_addFilter part.1 hacc (hparts part (by simp))
    obtain ⟨hconds, hnums⟩ := ih (fun p hp => hparts p (by simp [hp])) _ hcond
    refine ⟨hconds, ?_⟩
    rw [List.foldl_cons, hnums, hnum, List.countP_cons, Nat.add_assoc,
      Nat.add_comm (List.countP _ _)]

theorem denotes_makeConditionHostsFilter {o : HostResourceQueryOption} (h : o.hasColumns) :
    ∃ s, o.makeConditionHostsFilter = .ok s ∧ Denotes s o.filterForm := by
  obtain ⟨hosts, hrun, hhosts⟩ := denotes_makeConditionSelectedHosts h
  obtain ⟨exHosts, hrunEx, hexHosts⟩ := denotes_makeConditionExcludedHosts h
  let parts : List (AddConditionType × String × Option Text) :=
    [(.or, o.makeConditionSelectedServers, o.selectedServersForm),
      (.and, o.makeConditionExcludedServers, o.excludedServersForm),
      (.or, o.makeConditionSelectedHostgroups, o.selectedHostgroupsForm),
      (.and, o.makeConditionExcludedHostgroups, o.excludedHostgroupsForm),
      (.or, hosts, o.selectedHostsForm), (.and, exHosts, o.excludedHostsForm)]
  have hparts : ∀ part ∈ parts, Denotes part.2.1 part.2.2 := by
    simp only [parts, List.forall_mem_cons]
    exact ⟨denotes_makeConditionServers o _ .or opens_eq (separates rfl),
      denotes_makeConditionServers o _ .and opens_ne (separates rfl),
      denotes_makeConditionSelectedHostgroups o, denotes_makeConditionExcludedHostgroups o,
      hhosts, hexHosts, by simp⟩
  obtain ⟨hcond, hnum⟩ := denotes_addFilters parts hparts ("", 0) (show Denotes "" none from rfl)
  have hcount : (parts.foldl (fun acc part => addFilter part.1 acc part.2.1) ("", 0)).2 =
      o.numFilters := by
    rw [hnum]
    simp [parts, numFilters, filterForms, List.countP_cons]
  refine ⟨_, by simp only [makeConditionHostsFilter, hrun, hrunEx]; rfl, ?_⟩
  have hwrapped := denotes_wrapIf (p := o.numFilters > 1) hcond
  rw [← hcount] at hwrapped
  unfold filterForm
  rw [← hcount]
  exact hwrapped

/-! ## The condition -/

/-- The text of the conditions that come before the filters. -/
def baseForm (o : HostResourceQueryOption) : Option Text :=
  Text.glue .and (Text.glue .and o.validForm (if o.has .getAllServer then none else o.allowedForm))
    o.targetForm

def form (o : HostResourceQueryOption) : Option Text := Text.glue .and o.baseForm o.filterForm

theorem allowedForm_ne_const (o : HostResourceQueryOption) (n : Int) :
    o.allowedForm ≠ some (.const n) := by
  unfold allowedForm wrapIf
  split
  · simp
  · split
    · cases Text.chain .or (o.entries.map o.entryForm) <;> simp [Text.wrap]
    · rename_i hlen
      obtain ⟨entry, hentry⟩ := List.length_eq_one_iff.mp (by simpa using hlen)
      simp only [hentry, List.map_cons, List.map_nil, Text.chain, List.foldl_cons, List.foldl_nil,
        Text.glue, ne_eq, Option.some.injEq]
      unfold entryForm
      split
      · split <;> simp
      · simp

theorem eq_const_of_isAlwaysFalse {s : String} {t : Option Text} (h : Denotes s t)
    (hs : isAlwaysFalseCondition s) : t = some (.const 0) := by
  have hzero : s = toString (0 : Int) := by
    exact beq_iff_eq.mp hs
  cases t with
  | none =>
    have hempty : s = "" := h
    rw [hempty] at hzero
    exact absurd hzero (by decide)
  | some t => rw [h.eq_const hzero]

theorem makeConditionAllowedHosts_eq {o : HostResourceQueryOption} {column : String}
    (h : o.unusedHostIdColumnName = .ok column) (hprivilege : o.has .getAllServer = false) :
    o.makeConditionAllowedHosts = .ok (if o.denied then alwaysFalseCondition
      else o.allowedHostsLoop o.getAllowedServersAndHostgroups.toList "" 0) := by
  have hempty : o.getAllowedServersAndHostgroups.isEmpty =
      decide (o.getAllowedServersAndHostgroups.size = 0) := by
    rw [Std.TreeMap.isEmpty_eq_size_eq_zero]
    rfl
  unfold makeConditionAllowedHosts denied
  rw [h]
  refine congrArg Except.ok ?_
  simp only [hprivilege, hempty]
  by_cases hsize : o.getAllowedServersAndHostgroups.size = 0
  · simp [hsize]
  · by_cases hserver : o.targetServerId = allServers
    · simp [hsize, hserver]
    · simp [hsize, hserver]

theorem unusedHostIdColumnName_of_hasColumns {o : HostResourceQueryOption} (h : o.hasColumns) :
    ∃ column, o.unusedHostIdColumnName = .ok column := by
  unfold unusedHostIdColumnName
  split
  · rename_i htarget
    exact ⟨_, (getHostIdColumnName_eq (targetHost_of_hasColumns h htarget)).1⟩
  · exact ⟨"", rfl⟩

theorem denotes_addCallersConditions {o : HostResourceQueryOption} (h : o.hasColumns)
    {condition : String} {t : Option Text} (hcond : Denotes condition t) :
    ∃ s, o.addCallersConditions condition = .ok s ∧
      Denotes s (Text.glue .and (Text.glue .and t o.targetForm) o.filterForm) := by
  obtain ⟨target, hrunTarget, htarget⟩ := denotes_makeConditionTargetIds h
  obtain ⟨filter, hrunFilter, hfilter⟩ := denotes_makeConditionHostsFilter h
  refine ⟨addAnd (addAnd condition target) filter, ?_,
    denotes_addAnd (denotes_addAnd hcond htarget) hfilter⟩
  unfold addCallersConditions
  rw [hrunTarget, hrunFilter]
  rfl

theorem denotes_validForm (o : HostResourceQueryOption) :
    Denotes (if o.excludeDefunctServers then
        addAnd "" (makeConditionServer o.getValidServerIdSet o.getServerIdColumnName)
      else "") o.validForm := by
  unfold validForm
  cases o.excludeDefunctServers with
  | false => rfl
  | true =>
    have hserver := denotes_makeConditionServer o.getValidServerIdSet o.isName_serverIdColumn
    exact denotes_addAnd (show Denotes "" none from rfl) hserver

theorem allowedHostsLoop_not_alwaysFalse (o : HostResourceQueryOption) :
    isAlwaysFalseCondition (o.allowedHostsLoop o.getAllowedServersAndHostgroups.toList "" 0) =
      false := by
  rw [Bool.eq_false_iff]
  exact fun hfalse => o.allowedForm_ne_const 0 (eq_const_of_isAlwaysFalse (denotes_allowedForm o) hfalse)

/-- A user who may see something gets the text `form`. -/
theorem denotes_form {o : HostResourceQueryOption} (h : o.hasColumns) (hdenied : o.denied = false) :
    ∃ s, o.getCondition = .ok s ∧ Denotes s o.form := by
  unfold getCondition form baseForm
  cases hprivilege : o.has .getAllServer with
  | true =>
    have hvalid := denotes_addCallersConditions h o.denotes_validForm
    cases hform : o.validForm <;> simpa [hform, Text.glue] using hvalid
  | false =>
    obtain ⟨column, hcolumn⟩ := unusedHostIdColumnName_of_hasColumns h
    have hallowed := denotes_allowedForm o
    have hrest := denotes_addCallersConditions h (denotes_addAnd o.denotes_validForm hallowed)
    rw [makeConditionAllowedHosts_eq hcolumn hprivilege, hdenied]
    simpa [bind, Except.bind, o.allowedHostsLoop_not_alwaysFalse] using hrest

/-- A user who may see nothing gets the false condition or, where the query has no column for
    the target host, an exception. -/
theorem getCondition_denied {o : HostResourceQueryOption} (hdenied : o.denied) {s : String}
    (hs : o.getCondition = .ok s) : s = alwaysFalseCondition := by
  have hprivilege : o.has .getAllServer = false := by
    simp only [denied, Bool.and_eq_true] at hdenied
    simpa using hdenied.1
  unfold getCondition at hs
  rw [hprivilege] at hs
  cases hcolumn : o.unusedHostIdColumnName with
  | error e => simp [makeConditionAllowedHosts, hcolumn, bind, Except.bind] at hs
  | ok column =>
    rw [makeConditionAllowedHosts_eq hcolumn hprivilege, hdenied] at hs
    have htrue : isAlwaysFalseCondition alwaysFalseCondition = true := rfl
    simpa [bind, Except.bind, htrue, pure, Except.pure, eq_comm] using hs

theorem makeConditionTargetIds_error {o : HostResourceQueryOption} {e : HatoholException}
    (he : o.getHostIdColumnName = .error e) (htarget : o.targetHostId ≠ allLocalHosts) :
    o.makeConditionTargetIds = .error e := by
  simp [makeConditionTargetIds, htarget, he, bind, Except.bind]

theorem makeConditionHostsFilter_error {o : HostResourceQueryOption} {e : HatoholException}
    (he : o.getHostIdColumnName = .error e)
    (hsets : o.selectedServerHostSetMap.isEmpty = false ∨
      o.excludedServerHostSetMap.isEmpty = false) :
    o.makeConditionHostsFilter = .error e := by
  unfold makeConditionHostsFilter makeConditionSelectedHosts makeConditionExcludedHosts
  rcases hsets with hselected | hexcluded
  · simp [hselected, he, bind, Except.bind]
  · cases hselected : o.selectedServerHostSetMap.isEmpty <;>
      simp [hexcluded, he, bind, Except.bind, pure, Except.pure]

theorem addCallersConditions_error {o : HostResourceQueryOption} {e : HatoholException}
    (he : o.getHostIdColumnName = .error e) (hnames : o.namesHost) (condition : String) :
    o.addCallersConditions condition = .error e := by
  unfold addCallersConditions
  by_cases htarget : o.targetHostId = allLocalHosts
  · have hsets : o.selectedServerHostSetMap.isEmpty = false ∨
        o.excludedServerHostSetMap.isEmpty = false := by
      simpa [namesHost, htarget] using hnames
    simp [makeConditionTargetIds, htarget, makeConditionHostsFilter_error he hsets, bind,
      Except.bind, pure, Except.pure]
  · simp [makeConditionTargetIds_error he htarget, bind, Except.bind]

/-- Where a column is missing there is no text, unless the user may see nothing anyway. -/
theorem getCondition_missing_column {o : HostResourceQueryOption} (h : o.hasColumns = false)
    (hdenied : o.denied = false) : ∃ e, o.getCondition = .error e := by
  have hidx : o.synapse.hostIdColumnIdx = none := by
    simp only [hasColumns, Bool.or_eq_false_iff, Option.isSome_eq_false_iff] at h
    simpa using h.1
  have hnames : o.namesHost := by simpa [hasColumns, hidx] using h
  obtain ⟨e, he⟩ : ∃ e, o.getHostIdColumnName = .error e := by simp [getHostIdColumnName, hidx]
  refine ⟨e, ?_⟩
  unfold getCondition
  cases hprivilege : o.has .getAllServer with
  | true => exact addCallersConditions_error he hnames _
  | false =>
    cases hcolumn : o.unusedHostIdColumnName with
    | error e' =>
      have : e' = e := by
        unfold unusedHostIdColumnName at hcolumn
        split at hcolumn
        · simpa [he, eq_comm] using hcolumn
        · simp at hcolumn
      simp [makeConditionAllowedHosts, hcolumn, bind, Except.bind, this]
    | ok column =>
      rw [makeConditionAllowedHosts_eq hcolumn hprivilege, hdenied]
      simpa [bind, Except.bind, o.allowedHostsLoop_not_alwaysFalse]
        using addCallersConditions_error he hnames _

/-- The rows a query may show: those its condition selects. An exception shows none. -/
def shows (o : HostResourceQueryOption) (row : String → Value) : Bool :=
  match o.getCondition with
  | .ok condition => selects condition row
  | .error _ => false

/-- The rows that the text `form` picks, for a user who may see something. -/
theorem shows_eq (o : HostResourceQueryOption) (row : String → Value) :
    o.shows row =
      (!o.denied && o.hasColumns && Text.complete o.form && picks (Text.alts row o.form)) := by
  unfold shows
  cases hdenied : o.denied with
  | true =>
    cases hs : o.getCondition with
    | error e => rfl
    | ok s =>
      rw [getCondition_denied hdenied hs]
      rfl
  | false =>
    cases hcolumns : o.hasColumns with
    | false =>
      obtain ⟨e, he⟩ := getCondition_missing_column hcolumns hdenied
      simp [he]
    | true =>
      obtain ⟨s, hs, hform⟩ := denotes_form hcolumns hdenied
      simp [hs, hform.selects_eq]

end HostResourceQueryOption

end Hatohol

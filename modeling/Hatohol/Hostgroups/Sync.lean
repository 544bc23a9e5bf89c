import Hatohol.DBTablesHostgroup
import Hatohol.HostResource.System

/-!
# Synchronisation of host groups and their members

What `syncHostgroups` and `syncHostgroupMembers` leave in the tables of host groups. Both read the
rows of the synchronised server if it is set up, delete what does not come in and store what is
not there yet.
-/

namespace Hatohol

open Sql DBTermCodec Table

/-- A row of a server that a query of the server itself shows. -/
def seesServer (servers : ServerIdSet) (serverId : ServerIdType) (rowServerId : ServerIdType) :
    Bool :=
  servers.contains rowServerId && rowServerId == serverId

theorem selects_makeConditionForDelete {row : String → Value} {id : Nat} (hrow : row "id" = .int id)
    (idList : List Nat) : selects (makeConditionForDelete idList) row = idList.contains id := by
  have hname : isName "id" := by decide
  rw [makeConditionForDelete, selects_in_nat hname row opens_in_lower (separates rfl), hrow,
    Bool.eq_iff_iff]
  simp

namespace HostgroupTables

/-! ## Host groups -/

section Hostgroups

variable (t : HostgroupTables) (servers : ServerIdSet) {serverId : ServerIdType}

theorem isSystemQuery_hostgroups (serverId : ServerIdType) :
    (hostgroupsOption servers serverId).base.IsSystemQuery :=
  HostResourceQueryOption.isSystemQuery_new (.inr rfl) servers false serverId

theorem getHostgroups_eq (hserver : serverId ≠ allServers) :
    t.getHostgroups (hostgroupsOption servers serverId) = .ok (t.hostgroupList.rows.filter
      fun hostgroup => seesServer servers serverId hostgroup.serverId) := by
  have ho := isSystemQuery_hostgroups servers serverId
  obtain ⟨s, hs, hdenotes⟩ := ho.getCondition
  have hne : (serverId == allServers) = false := by simpa using hserver
  have hselects (hostgroup : Hostgroup) : selects s hostgroup.value =
      seesServer servers serverId hostgroup.serverId := by
    have hrow : (hostgroupsOption servers serverId).base.HasRow hostgroup.value
        ⟨hostgroup.serverId, emptyText, emptyText⟩ := by
      refine ⟨rfl, ?_, ?_⟩
      · intro hnames
        simp [ho.namesHostgroup] at hnames
      · intro hhost
        exact absurd hhost Bool.false_ne_true
    rw [ho.selects_form hrow hdenotes]
    simp [hostgroupsOption, seesServer, HostResourceQueryOption.isValid,
      HostResourceQueryOption.new,
      HostResourceQueryOption.isTargeted, HostResourceQueryOption.getValidServerIdSet,
        systemContext,
      hne]
  have hcondition : (hostgroupsOption servers serverId).getCondition = .ok s := by
    rw [HostgroupsQueryOption.getCondition, hs]
    rfl
  simp only [getHostgroups, hcondition, bind, Except.bind, pure, Except.pure, hselects]

/-- The host groups that are compared with, by their IDs. -/
def currentHostgroups (serverId : ServerIdType) : Std.TreeMap HostgroupIdType Hostgroup :=
  mapOf Hostgroup.idInServer (t.hostgroupList.rows.filter
    fun hostgroup => seesServer servers serverId hostgroup.serverId)

theorem getElem?_currentHostgroups (id : HostgroupIdType) :
    (t.currentHostgroups servers serverId)[id]? = (t.hostgroupList.byKey (serverId, id)).filter
      fun hostgroup => seesServer servers serverId hostgroup.serverId := by
  have hserver : ∀ row ∈ t.hostgroupList.rows, seesServer servers serverId row.serverId →
      row.serverId = serverId := by
    intro row _ hsees
    simp only [seesServer, Bool.and_eq_true, beq_iff_eq] at hsees
    exact hsees.2
  rw [currentHostgroups, getElem?_mapOf (nodup_part t.hostgroupList.unique_key hserver)]
  exact lookup_part t.hostgroupList.unique_key hserver id

variable (serverId) in
/-- The host groups to be stored, and those to be deleted. -/
def hostgroupsPlan (incoming : List Hostgroup) :
    List Hostgroup × Std.TreeMap HostgroupIdType Hostgroup :=
  reconcile Hostgroup.idInServer isHostgroupNameChanged incoming
    (t.currentHostgroups servers serverId)

theorem syncHostgroupsPlan_eq (hserver : serverId ≠ allServers) (incoming : List Hostgroup) :
    t.syncHostgroupsPlan servers incoming serverId =
      .ok ((values (t.hostgroupsPlan servers serverId incoming).2).map Hostgroup.id,
        (t.hostgroupsPlan servers serverId incoming).1) := by
  unfold syncHostgroupsPlan
  rw [t.getHostgroups_eq servers hserver]
  rfl

end Hostgroups

theorem upsertHostgroups_eq (t : HostgroupTables) (hostgroups : List Hostgroup)
    {hostgroupList : AutoTable hostgroupSchema}
    (hupsert : t.hostgroupList.upsertAll hostgroups = some hostgroupList) :
    t.upsertHostgroups hostgroups = .ok { t with hostgroupList := hostgroupList } := by
  induction hostgroups generalizing t with
  | nil =>
    obtain rfl := Option.some.inj hupsert
    rfl
  | cons hostgroup hostgroups ih =>
    rw [AutoTable.upsertAll, List.foldlM_cons] at hupsert
    rw [upsertHostgroups, List.foldlM_cons, upsertHostgroup]
    cases hfirst : t.hostgroupList.upsert hostgroup with
    | none => simp [hfirst] at hupsert
    | some result =>
      rw [hfirst] at hupsert
      exact ih { t with hostgroupList := result.1 } hupsert

/-- The host groups that are left when some are deleted by their numbers. -/
theorem deleteHostgroupList_eq (t : HostgroupTables) (idList : List Nat) :
    (t.deleteHostgroupList idList).2 =
      { t with hostgroupList := t.hostgroupList.keep fun row => !idList.contains row.id } := by
  cases idList with
  | nil => simp [deleteHostgroupList, AutoTable.keep, Counted.keep]
  | cons id ids =>
    have hvalue (row : Hostgroup) : row.value "id" = .int row.id := rfl
    simp only [deleteHostgroupList, reduceCtorEq, if_false,
      fun row : Hostgroup => selects_makeConditionForDelete (hvalue row) (id :: ids)]

section SyncHostgroups

variable {t : HostgroupTables} {servers : ServerIdSet} {serverId : ServerIdType}
  {incoming : List Hostgroup}

/-- The tables after the deletion of `syncHostgroups`. -/
def afterDeleteHostgroups (t : HostgroupTables) (servers : ServerIdSet) (serverId : ServerIdType)
    (incoming : List Hostgroup) : HostgroupTables :=
  (t.deleteHostgroupList
    ((values (t.hostgroupsPlan servers serverId incoming).2).map Hostgroup.id)).2

theorem byKey_afterDeleteHostgroups (k : ServerIdType × HostgroupIdType) :
    (t.afterDeleteHostgroups servers serverId incoming).hostgroupList.byKey k =
      if k.1 = serverId ∧ (t.hostgroupsPlan servers serverId incoming).2[k.2]?.isSome then none
      else t.hostgroupList.byKey k := by
  -- what is left in the map, under the keys of the table
  let left (k : ServerIdType × HostgroupIdType) : Option Hostgroup :=
    if k.1 = serverId then (t.hostgroupsPlan servers serverId incoming).2[k.2]? else none
  have hstored (k : ServerIdType × HostgroupIdType) (row : Hostgroup) (hleft : left k = some row) :
      t.hostgroupList.byKey k = some row := by
    obtain ⟨rfl, hleft⟩ := Option.ite_none_right_eq_some.mp hleft
    have hcurrent := getElem?_of_left hleft
    rw [getElem?_currentHostgroups, Option.filter_eq_some_iff] at hcurrent
    exact hcurrent.1
  have hids (n : Nat) : n ∈ (values (t.hostgroupsPlan servers serverId incoming).2).map Hostgroup.id ↔
      ∃ k row, left k = some row ∧ row.id = n := by
    rw [List.mem_map]
    constructor
    · rintro ⟨row, hrow, hid⟩
      obtain ⟨id, hleft⟩ := mem_values.mp hrow
      exact ⟨(serverId, id), row, by simpa [left] using hleft, hid⟩
    · rintro ⟨k, row, hleft, hid⟩
      exact ⟨row, mem_values.mpr ⟨k.2, (Option.ite_none_right_eq_some.mp hleft).2⟩, hid⟩
  rw [afterDeleteHostgroups, deleteHostgroupList_eq]
  refine (t.hostgroupList.byKey_keep_ids hstored hids k).trans ?_
  by_cases hk : k.1 = serverId
  · simp [left, hk]
  · simp [left, hk]

variable (t servers serverId) in
/-- What is stored is one of the host groups to be stored, or what the deletion has left. -/
theorem upsertHostgroups_afterDelete (hid : ∀ hostgroup ∈ incoming, hostgroup.id =
    autoIncrementValue) :
    ∃ t', (t.afterDeleteHostgroups servers serverId incoming).upsertHostgroups
        (t.hostgroupsPlan servers serverId incoming).1 = .ok t' ∧
      (∀ k, k ∉ (t.hostgroupsPlan servers serverId incoming).1.map Hostgroup.key →
        t'.hostgroupList.byKey k =
          (t.afterDeleteHostgroups servers serverId incoming).hostgroupList.byKey k) ∧
      ∀ k ∈ (t.hostgroupsPlan servers serverId incoming).1.map Hostgroup.key,
        ∃ hostgroup ∈ (t.hostgroupsPlan servers serverId incoming).1, ∃ n,
          t'.hostgroupList.byKey k = some { hostgroup with id := n } := by
  have hadded : ∀ hostgroup ∈ (t.hostgroupsPlan servers serverId incoming).1, hostgroup.id = 0 := by
    intro hostgroup hmem
    exact hid hostgroup (mem_of_mem_added hmem)
  obtain ⟨hostgroupList, hupsert, hframe, hstored⟩ :=
    (t.afterDeleteHostgroups servers serverId incoming).hostgroupList.upsertAll_spec hadded
  exact ⟨_, upsertHostgroups_eq _ _ hupsert, hframe, hstored⟩

variable (t servers incoming) in
/-- What `syncHostgroups` returns where the plan is known. -/
theorem syncHostgroups_eq (hserver : serverId ≠ allServers) :
    ∃ err, t.syncHostgroups servers incoming serverId =
      ((t.afterDeleteHostgroups servers serverId incoming).upsertHostgroups
        (t.hostgroupsPlan servers serverId incoming).1).map (err, ·) := by
  unfold syncHostgroups afterDeleteHostgroups
  rw [t.syncHostgroupsPlan_eq servers hserver]
  generalize (values (t.hostgroupsPlan servers serverId incoming).2).map Hostgroup.id = ids
  generalize (t.hostgroupsPlan servers serverId incoming).1 = hostgroups
  simp only [bind, Except.bind, pure, Except.pure]
  cases ids with
  | nil =>
    refine ⟨.ok, ?_⟩
    cases hostgroups with
    | nil => rfl
    | cons hostgroup hostgroups =>
      simp only [List.length_cons, List.length_nil, Nat.zero_lt_succ, Nat.lt_irrefl, gt_iff_lt,
        if_true, if_false, deleteHostgroupList]
      cases t.upsertHostgroups (hostgroup :: hostgroups) <;> rfl
  | cons id ids =>
    refine ⟨(t.deleteHostgroupList (id :: ids)).1, ?_⟩
    simp only [List.length_cons, Nat.zero_lt_succ, gt_iff_lt, if_true]
    cases hostgroups with
    | nil => rfl
    | cons hostgroup hostgroups =>
      simp only [List.length_cons, Nat.zero_lt_succ, if_true]
      cases (t.deleteHostgroupList (id :: ids)).2.upsertHostgroups (hostgroup :: hostgroups) <;> rfl

/-- The host groups of a server are those of a list, by their IDs and names. -/
def HoldsHostgroups (t : HostgroupTables) (serverId : ServerIdType) (incoming : List Hostgroup) :
    Prop :=
  ∀ id, (t.hostgroupList.byKey (serverId, id)).map Hostgroup.name =
    (lookup Hostgroup.idInServer incoming id).map Hostgroup.name

/-- The query shows all host groups of a server that is set up. -/
theorem getElem?_currentHostgroups_of_registered (t : HostgroupTables)
    (hregistered : servers.contains serverId) (id : HostgroupIdType) :
    (t.currentHostgroups servers serverId)[id]? = t.hostgroupList.byKey (serverId, id) := by
  rw [getElem?_currentHostgroups]
  cases hrow : t.hostgroupList.byKey (serverId, id) with
  | none => rfl
  | some row =>
    obtain rfl : row.serverId = serverId := congrArg Prod.fst (AutoTable.key_of_byKey hrow)
    simp [seesServer, hregistered]

theorem syncHostgroups_holds (hserver : serverId ≠ allServers)
    (hregistered : servers.contains serverId)
    (hincoming : ∀ hostgroup ∈ incoming, hostgroup.serverId = serverId)
    (hid : ∀ hostgroup ∈ incoming, hostgroup.id = autoIncrementValue)
    (hdistinct : (incoming.map Hostgroup.idInServer).Nodup) :
    ∃ err t', t.syncHostgroups servers incoming serverId = .ok (err, t') ∧
      t'.HoldsHostgroups serverId incoming ∧
      ∀ k, k.1 ≠ serverId → t'.hostgroupList.byKey k = t.hostgroupList.byKey k := by
  obtain ⟨err, hsync⟩ := syncHostgroups_eq t servers incoming hserver
  obtain ⟨t', hupsert, hframe, hstored⟩ := upsertHostgroups_afterDelete t servers serverId hid
  rw [hupsert] at hsync
  have hkeys (k : ServerIdType × HostgroupIdType)
      (hk : k ∈ (t.hostgroupsPlan servers serverId incoming).1.map Hostgroup.key) :
      k.1 = serverId := by
    obtain ⟨hostgroup, hmem, rfl⟩ := List.mem_map.mp hk
    exact hincoming hostgroup (mem_of_mem_added hmem)
  refine ⟨err, t', hsync, ?_, ?_⟩
  · intro id
    by_cases hk : (serverId, id) ∈ (t.hostgroupsPlan servers serverId incoming).1.map Hostgroup.key
    · obtain ⟨hostgroup, hmem, n, hbyKey⟩ := hstored _ hk
      have hkey := congrArg Prod.snd (AutoTable.key_of_byKey hbyKey)
      obtain rfl : hostgroup.idInServer = id := hkey
      rw [hbyKey, lookup_of_mem hdistinct (mem_of_mem_added hmem)]
      rfl
    · rw [hframe _ hk, byKey_afterDeleteHostgroups]
      simp only [true_and]
      rw [hostgroupsPlan, reconcile_left hdistinct,
        getElem?_currentHostgroups_of_registered t hregistered]
      cases hlookup : lookup Hostgroup.idInServer incoming id with
      | none => cases t.hostgroupList.byKey (serverId, id) <;> simp
      | some hostgroup =>
        -- it is not to be stored, so it is there under the same name
        obtain rfl := key_of_lookup hlookup
        have hunchanged : ¬ (t.hostgroupList.byKey (serverId, hostgroup.idInServer)).all
            (isHostgroupNameChanged hostgroup) := by
          intro hall
          refine hk (List.mem_map.mpr ⟨hostgroup, ?_, ?_⟩)
          · rw [hostgroupsPlan, reconcile_added hdistinct, List.mem_filter,
              getElem?_currentHostgroups_of_registered t hregistered]
            exact ⟨mem_of_lookup hlookup, hall⟩
          · rw [Hostgroup.key, hincoming _ (mem_of_lookup hlookup)]
        cases hold : t.hostgroupList.byKey (serverId, hostgroup.idInServer) with
        | none => simp [hold] at hunchanged
        | some old =>
          rw [hold, Option.all_some, Bool.not_eq_true] at hunchanged
          simpa [hunchanged, isHostgroupNameChanged] using hunchanged
  · intro k hk
    rw [hframe k fun h => hk (hkeys k h), byKey_afterDeleteHostgroups, if_neg fun h => hk h.1]

/-- Where all host groups are there, there is nothing to do. -/
theorem syncHostgroupsPlan_of_holds (hserver : serverId ≠ allServers)
    (hregistered : servers.contains serverId)
    (hdistinct : (incoming.map Hostgroup.idInServer).Nodup)
    (hholds : t.HoldsHostgroups serverId incoming) :
    t.syncHostgroupsPlan servers incoming serverId = .ok ([], []) := by
  have hadded : (t.hostgroupsPlan servers serverId incoming).1 = [] := by
    rw [hostgroupsPlan, reconcile_added hdistinct, List.filter_eq_nil_iff]
    intro hostgroup hmem
    have hname := hholds hostgroup.idInServer
    rw [lookup_of_mem hdistinct hmem, Option.map_some, Option.map_eq_some_iff] at hname
    obtain ⟨old, hold, hname⟩ := hname
    simp [getElem?_currentHostgroups_of_registered t hregistered, hold, isHostgroupNameChanged,
      hname]
  have hleft : values (t.hostgroupsPlan servers serverId incoming).2 = [] := by
    rw [List.eq_nil_iff_forall_not_mem]
    intro old hold
    obtain ⟨id, hid⟩ := mem_values.mp hold
    rw [hostgroupsPlan, reconcile_left hdistinct, Option.filter_eq_some_iff,
      getElem?_currentHostgroups_of_registered t hregistered] at hid
    have hname := hholds id
    rw [hid.1, Option.map_some, eq_comm, Option.map_eq_some_iff] at hname
    obtain ⟨hostgroup, hlookup, hname⟩ := hname
    simp [hlookup, isHostgroupNameChanged, hname] at hid
  rw [t.syncHostgroupsPlan_eq servers hserver, hadded, hleft]
  rfl

end SyncHostgroups

/-! ## Members

The map from groups to maps from hosts to members is seen through the two keys together. -/

/-- The member of a group and a host. -/
def memberAt (current : HostgroupMapHostsMap) (p : HostgroupIdType × LocalHostIdType) :
    Option HostgroupMember := current[p.1]?.bind fun hosts => hosts[p.2]?

theorem memberAt_insert (current : HostgroupMapHostsMap) (g : HostgroupIdType)
    (hosts : Std.TreeMap LocalHostIdType HostgroupMember) (p : HostgroupIdType × LocalHostIdType) :
    memberAt (current.insert g hosts) p = if p.1 = g then hosts[p.2]? else memberAt current p := by
  unfold memberAt
  rw [Std.TreeMap.getElem?_insert]
  by_cases hg : g = p.1
  · simp [hg]
  · simp [hg, Ne.symm hg]

theorem memberAt_add (current : HostgroupMapHostsMap) (member : HostgroupMember)
    (p : HostgroupIdType × LocalHostIdType) :
    memberAt (current.insert member.hostgroupIdInServer
        ((current.getD member.hostgroupIdInServer ∅).insert member.hostIdInServer member)) p =
      if member.pair = p then some member else memberAt current p := by
  obtain ⟨g, h⟩ := p
  rw [memberAt_insert, Std.TreeMap.getElem?_insert, Std.TreeMap.getD_eq_getD_getElem?]
  by_cases hg : g = member.hostgroupIdInServer
  · subst hg
    by_cases hh : member.hostIdInServer = h
    · simp [HostgroupMember.pair, hh]
    · cases hcurrent : current[member.hostgroupIdInServer]? with
      | none => simp [HostgroupMember.pair, hh, memberAt, hcurrent]
      | some hosts => simp [HostgroupMember.pair, hh, memberAt, hcurrent]
  · simp [HostgroupMember.pair, hg, Ne.symm hg]

/-- A member is taken out of the map. -/
theorem memberAt_take {current : HostgroupMapHostsMap} {member : HostgroupMember}
    {hosts : Std.TreeMap LocalHostIdType HostgroupMember}
    (hhosts : current[member.hostgroupIdInServer]? = some hosts)
    (p : HostgroupIdType × LocalHostIdType) :
    memberAt (current.insert member.hostgroupIdInServer (hosts.erase member.hostIdInServer)) p =
      if member.pair = p then none else memberAt current p := by
  obtain ⟨g, h⟩ := p
  rw [memberAt_insert, Std.TreeMap.getElem?_erase]
  by_cases hg : g = member.hostgroupIdInServer
  · subst hg
    by_cases hh : member.hostIdInServer = h
    · simp [HostgroupMember.pair, hh]
    · simp [HostgroupMember.pair, hh, memberAt, hhosts]
  · simp [HostgroupMember.pair, hg, Ne.symm hg]

theorem memberAt_foldl {members : List HostgroupMember}
    (hmembers : (members.map HostgroupMember.pair).Nodup) (current : HostgroupMapHostsMap)
    (p : HostgroupIdType × LocalHostIdType) :
    memberAt (members.foldl (fun current member =>
        current.insert member.hostgroupIdInServer
          ((current.getD member.hostgroupIdInServer ∅).insert member.hostIdInServer member))
        current) p =
      (lookup HostgroupMember.pair members p).or (memberAt current p) := by
  induction members generalizing current with
  | nil => rfl
  | cons member members ih =>
    simp only [List.map_cons, List.nodup_cons] at hmembers
    rw [List.foldl_cons, ih hmembers.2, memberAt_add]
    by_cases hp : member.pair = p
    · have hnone : lookup HostgroupMember.pair members p = none := by
        rw [lookup_eq_none]
        intro r hr hr'
        exact hmembers.1 (List.mem_map.mpr ⟨r, hr, hr'.trans hp.symm⟩)
      rw [hnone]
      simp [lookup, hp]
    · simp [lookup, hp]

theorem memberAt_mapOfMembers {members : List HostgroupMember}
    (hmembers : (members.map HostgroupMember.pair).Nodup) (p : HostgroupIdType × LocalHostIdType) :
    memberAt (mapOfMembers members) p = lookup HostgroupMember.pair members p := by
  rw [mapOfMembers, memberAt_foldl hmembers]
  simp [memberAt]

/-- One pass of the loop: a member that is stored is taken out of the map. -/
theorem membersLoop_cons (member : HostgroupMember) (members : List HostgroupMember)
    (current : HostgroupMapHostsMap) :
    (memberAt current member.pair = none ∧ membersLoop (member :: members) current =
        (member :: (membersLoop members current).1, (membersLoop members current).2)) ∨
    ∃ current', (memberAt current member.pair).isSome ∧
      (∀ p, memberAt current' p = if member.pair = p then none else memberAt current p) ∧
      membersLoop (member :: members) current = membersLoop members current' := by
  rw [membersLoop]
  cases hhosts : current[member.hostgroupIdInServer]? with
  | none => exact .inl ⟨by simp [memberAt, HostgroupMember.pair, hhosts], rfl⟩
  | some hosts =>
    have hmember : memberAt current member.pair = hosts[member.hostIdInServer]? := by
      simp [memberAt, HostgroupMember.pair, hhosts]
    have hcontains : hosts.contains member.hostIdInServer =
        (memberAt current member.pair).isSome := by
      rw [hmember, Std.TreeMap.contains_eq_isSome_getElem?]
    simp only [hcontains]
    cases hold : memberAt current member.pair with
    | none => exact .inl ⟨rfl, rfl⟩
    | some old => exact .inr ⟨_, rfl, memberAt_take hhosts, rfl⟩

/-- What is left of the map does not come in. -/
theorem memberAt_left (members : List HostgroupMember) (current : HostgroupMapHostsMap)
    (p : HostgroupIdType × LocalHostIdType) :
    memberAt (membersLoop members current).2 p =
      if p ∈ members.map HostgroupMember.pair then none else memberAt current p := by
  induction members generalizing current with
  | nil => rfl
  | cons member members ih =>
    rcases membersLoop_cons member members current with ⟨hnone, hloop⟩ | ⟨current', -, htake, hloop⟩
    · rw [hloop, ih]
      by_cases hp : p = member.pair
      · simp [hp, hnone]
      · simp [hp]
    · rw [hloop, ih, htake]
      by_cases hp : p = member.pair
      · simp [hp]
      · simp [hp, Ne.symm hp]

theorem mem_of_mem_membersLoop {members : List HostgroupMember} {current : HostgroupMapHostsMap}
    {member : HostgroupMember} (h : member ∈ (membersLoop members current).1) :
    member ∈ members := by
  induction members generalizing current with
  | nil => simp [membersLoop] at h
  | cons x xs ih =>
    rcases membersLoop_cons x xs current with ⟨-, hloop⟩ | ⟨current', -, -, hloop⟩
    · rw [hloop] at h
      rcases List.mem_cons.mp h with rfl | h
      · simp
      · exact List.mem_cons_of_mem _ (ih h)
    · rw [hloop] at h
      exact List.mem_cons_of_mem _ (ih h)

/-- A member is not among those to be stored exactly when it does not come in, or comes in once and
    is stored. -/
theorem notMem_membersLoop_iff {members : List HostgroupMember} {current : HostgroupMapHostsMap}
    {p : HostgroupIdType × LocalHostIdType} :
    p ∉ (membersLoop members current).1.map HostgroupMember.pair ↔
      p ∉ members.map HostgroupMember.pair ∨
        (members.map HostgroupMember.pair).count p = 1 ∧ (memberAt current p).isSome := by
  induction members generalizing current with
  | nil => simp [membersLoop]
  | cons member members ih =>
    rcases membersLoop_cons member members current with
      ⟨hnone, hloop⟩ | ⟨current', hsome, htake, hloop⟩
    · rw [hloop]
      by_cases hp : p = member.pair
      · simp [hp, hnone]
      · simp only [List.map_cons, List.mem_cons, hp, false_or,
          List.count_cons_of_ne (Ne.symm hp)]
        exact ih
    · rw [hloop, ih, htake]
      by_cases hp : p = member.pair
      · subst hp
        simp [hsome, List.count_eq_zero]
      · simp only [List.map_cons, List.mem_cons, hp, false_or,
          List.count_cons_of_ne (Ne.symm hp), if_neg (Ne.symm hp)]

section Members

variable (t : HostgroupTables) (servers : ServerIdSet) {serverId : ServerIdType}

theorem isSystemQuery_members (serverId : ServerIdType) :
    (membersOption servers serverId).base.IsSystemQuery :=
  HostResourceQueryOption.isSystemQuery_new (.inr rfl) servers false serverId

theorem getHostgroupMembers_eq (hserver : serverId ≠ allServers) :
    t.getHostgroupMembers (membersOption servers serverId) = .ok (t.hostgroupMember.rows.filter
      fun member => seesServer servers serverId member.serverId) := by
  have ho := isSystemQuery_members servers serverId
  obtain ⟨s, hs, hdenotes⟩ := ho.getCondition
  have hne : (serverId == allServers) = false := by simpa using hserver
  have hselects (member : HostgroupMember) : selects s member.value =
      seesServer servers serverId member.serverId := by
    have hrow : (membersOption servers serverId).base.HasRow member.value
        ⟨member.serverId, member.hostIdInServer, emptyText⟩ := by
      refine ⟨rfl, ?_, fun _ => rfl⟩
      intro hnames
      simp [ho.namesHostgroup] at hnames
    rw [ho.selects_form hrow hdenotes]
    simp [membersOption, seesServer, HostResourceQueryOption.isValid, HostResourceQueryOption.new,
      HostResourceQueryOption.isTargeted, HostResourceQueryOption.getValidServerIdSet,
        systemContext,
      hne]
  simp only [getHostgroupMembers, hs, bind, Except.bind, pure, Except.pure, hselects]

/-- The members that are compared with, by their groups and hosts. -/
def currentMembers (serverId : ServerIdType) : HostgroupMapHostsMap :=
  mapOfMembers (t.hostgroupMember.rows.filter
    fun member => seesServer servers serverId member.serverId)

theorem memberAt_currentMembers (p : HostgroupIdType × LocalHostIdType) :
    memberAt (t.currentMembers servers serverId) p =
      (t.hostgroupMember.byKey (serverId, p)).filter
        fun member => seesServer servers serverId member.serverId := by
  have hserver : ∀ row ∈ t.hostgroupMember.rows, seesServer servers serverId row.serverId →
      row.serverId = serverId := by
    intro row _ hsees
    simp only [seesServer, Bool.and_eq_true, beq_iff_eq] at hsees
    exact hsees.2
  rw [currentMembers, memberAt_mapOfMembers (nodup_part t.hostgroupMember.unique_key hserver)]
  exact lookup_part t.hostgroupMember.unique_key hserver p

variable (serverId) in
/-- The members to be stored, and those to be deleted. -/
def membersPlan (incoming : List HostgroupMember) : List HostgroupMember × HostgroupMapHostsMap :=
  membersLoop incoming (t.currentMembers servers serverId)

/-- The numbers of all members in a map. -/
def memberIds (current : HostgroupMapHostsMap) : List Nat :=
  (values current).flatMap fun hosts => (values hosts).map HostgroupMember.id

theorem mem_memberIds {current : HostgroupMapHostsMap} {n : Nat} :
    n ∈ memberIds current ↔ ∃ p member, memberAt current p = some member ∧ member.id = n := by
  rw [memberIds, List.mem_flatMap]
  constructor
  · rintro ⟨hosts, hhosts, hmem⟩
    obtain ⟨member, hmember, hid⟩ := List.mem_map.mp hmem
    obtain ⟨g, hg⟩ := mem_values.mp hhosts
    obtain ⟨h, hh⟩ := mem_values.mp hmember
    exact ⟨(g, h), member, Option.bind_eq_some_iff.mpr ⟨hosts, hg, hh⟩, hid⟩
  · rintro ⟨⟨g, h⟩, member, hmember, hid⟩
    obtain ⟨hosts, hg, hh⟩ := Option.bind_eq_some_iff.mp hmember
    exact ⟨hosts, mem_values.mpr ⟨g, hg⟩, List.mem_map.mpr ⟨member, mem_values.mpr ⟨h, hh⟩, hid⟩⟩

theorem syncHostgroupMembersPlan_eq (hserver : serverId ≠ allServers)
    (incoming : List HostgroupMember) :
    t.syncHostgroupMembersPlan servers incoming serverId =
      .ok (memberIds (t.membersPlan servers serverId incoming).2,
        (t.membersPlan servers serverId incoming).1) := by
  unfold syncHostgroupMembersPlan
  rw [t.getHostgroupMembers_eq servers hserver]
  rfl

end Members

theorem upsertHostgroupMembers_eq (t : HostgroupTables) (members : List HostgroupMember)
    {hostgroupMember : AutoTable hostgroupMemberSchema}
    (hupsert : t.hostgroupMember.upsertAll members = some hostgroupMember) :
    t.upsertHostgroupMembers members = .ok { t with hostgroupMember := hostgroupMember } := by
  induction members generalizing t with
  | nil =>
    obtain rfl := Option.some.inj hupsert
    rfl
  | cons member members ih =>
    rw [AutoTable.upsertAll, List.foldlM_cons] at hupsert
    rw [upsertHostgroupMembers, List.foldlM_cons, upsertHostgroupMember]
    cases hfirst : t.hostgroupMember.upsert member with
    | none => simp [hfirst] at hupsert
    | some result =>
      rw [hfirst] at hupsert
      exact ih { t with hostgroupMember := result.1 } hupsert

/-- The members that are left when some are deleted by their numbers. -/
theorem deleteHostgroupMemberList_eq (t : HostgroupTables) (idList : List Nat) :
    (t.deleteHostgroupMemberList idList).2 =
      { t with hostgroupMember := t.hostgroupMember.keep fun row => !idList.contains row.id } := by
  cases idList with
  | nil => simp [deleteHostgroupMemberList, AutoTable.keep, Counted.keep]
  | cons id ids =>
    have hvalue (row : HostgroupMember) : row.value "id" = .int row.id := rfl
    simp only [deleteHostgroupMemberList, reduceCtorEq, if_false,
      fun row : HostgroupMember => selects_makeConditionForDelete (hvalue row) (id :: ids)]

section SyncMembers

variable {t : HostgroupTables} {servers : ServerIdSet} {serverId : ServerIdType}
  {incoming : List HostgroupMember}

/-- The tables after the deletion of `syncHostgroupMembers`. -/
def afterDeleteMembers (t : HostgroupTables) (servers : ServerIdSet) (serverId : ServerIdType)
    (incoming : List HostgroupMember) : HostgroupTables :=
  (t.deleteHostgroupMemberList (memberIds (t.membersPlan servers serverId incoming).2)).2

theorem byKey_afterDeleteMembers (k : ServerIdType × HostgroupIdType × LocalHostIdType) :
    (t.afterDeleteMembers servers serverId incoming).hostgroupMember.byKey k =
      if k.1 = serverId ∧ (memberAt (t.membersPlan servers serverId incoming).2 k.2).isSome then none
      else t.hostgroupMember.byKey k := by
  let left (k : ServerIdType × HostgroupIdType × LocalHostIdType) : Option HostgroupMember :=
    if k.1 = serverId then memberAt (t.membersPlan servers serverId incoming).2 k.2 else none
  have hstored (k : ServerIdType × HostgroupIdType × LocalHostIdType) (row : HostgroupMember)
      (hleft : left k = some row) : t.hostgroupMember.byKey k = some row := by
    obtain ⟨rfl, hleft⟩ := Option.ite_none_right_eq_some.mp hleft
    rw [membersPlan, memberAt_left, Option.ite_none_left_eq_some, memberAt_currentMembers,
      Option.filter_eq_some_iff] at hleft
    exact hleft.2.1
  have hids (n : Nat) : n ∈ memberIds (t.membersPlan servers serverId incoming).2 ↔
      ∃ k row, left k = some row ∧ row.id = n := by
    rw [mem_memberIds]
    constructor
    · rintro ⟨p, row, hrow, hid⟩
      exact ⟨(serverId, p), row, by simpa [left] using hrow, hid⟩
    · rintro ⟨k, row, hleft, hid⟩
      exact ⟨k.2, row, (Option.ite_none_right_eq_some.mp hleft).2, hid⟩
  rw [afterDeleteMembers, deleteHostgroupMemberList_eq]
  refine (t.hostgroupMember.byKey_keep_ids hstored hids k).trans ?_
  by_cases hk : k.1 = serverId
  · simp [left, hk]
  · simp [left, hk]

variable (t servers incoming) in
/-- What `syncHostgroupMembers` returns where the plan is known. -/
theorem syncHostgroupMembers_eq (hserver : serverId ≠ allServers) :
    t.syncHostgroupMembers servers incoming serverId =
      ((t.afterDeleteMembers servers serverId incoming).upsertHostgroupMembers
        (t.membersPlan servers serverId incoming).1).map (.ok, ·) := by
  unfold syncHostgroupMembers afterDeleteMembers
  rw [t.syncHostgroupMembersPlan_eq servers hserver]
  generalize memberIds (t.membersPlan servers serverId incoming).2 = ids
  generalize (t.membersPlan servers serverId incoming).1 = members
  simp only [bind, Except.bind, pure, Except.pure]
  have hdelete : (if ids.length > 0 then (t.deleteHostgroupMemberList ids).2 else t) =
      (t.deleteHostgroupMemberList ids).2 := by
    cases ids <;> rfl
  rw [hdelete]
  cases members with
  | nil => rfl
  | cons member members =>
    simp only [List.length_cons, Nat.zero_lt_succ, gt_iff_lt, if_true]
    cases (t.deleteHostgroupMemberList ids).2.upsertHostgroupMembers (member :: members) <;> rfl

variable (t servers serverId) in
theorem upsertHostgroupMembers_afterDelete
    (hid : ∀ member ∈ incoming, member.id = autoIncrementValue) :
    ∃ t', (t.afterDeleteMembers servers serverId incoming).upsertHostgroupMembers
        (t.membersPlan servers serverId incoming).1 = .ok t' ∧
      (∀ k, k ∉ (t.membersPlan servers serverId incoming).1.map HostgroupMember.key →
        t'.hostgroupMember.byKey k =
          (t.afterDeleteMembers servers serverId incoming).hostgroupMember.byKey k) ∧
      ∀ k ∈ (t.membersPlan servers serverId incoming).1.map HostgroupMember.key,
        ∃ member ∈ (t.membersPlan servers serverId incoming).1, ∃ n,
          t'.hostgroupMember.byKey k = some { member with id := n } := by
  have hadded : ∀ member ∈ (t.membersPlan servers serverId incoming).1, member.id = 0 := by
    intro member hmem
    exact hid member (mem_of_mem_membersLoop hmem)
  obtain ⟨hostgroupMember, hupsert, hframe, hstored⟩ :=
    (t.afterDeleteMembers servers serverId incoming).hostgroupMember.upsertAll_spec hadded
  exact ⟨_, upsertHostgroupMembers_eq _ _ hupsert, hframe, hstored⟩

/-- The members of a server are those of a list, by their groups and hosts. -/
def HoldsMembers (t : HostgroupTables) (serverId : ServerIdType) (incoming : List HostgroupMember) :
    Prop :=
  ∀ p, (t.hostgroupMember.byKey (serverId, p)).isSome ↔ p ∈ incoming.map HostgroupMember.pair

theorem memberAt_currentMembers_of_registered (t : HostgroupTables)
    (hregistered : servers.contains serverId) (p : HostgroupIdType × LocalHostIdType) :
    memberAt (t.currentMembers servers serverId) p = t.hostgroupMember.byKey (serverId, p) := by
  rw [memberAt_currentMembers]
  cases hrow : t.hostgroupMember.byKey (serverId, p) with
  | none => rfl
  | some row =>
    obtain rfl : row.serverId = serverId := congrArg Prod.fst (AutoTable.key_of_byKey hrow)
    simp [seesServer, hregistered]

/-- A member that is not to be stored is there, or does not come in. -/
theorem byKey_afterDeleteMembers_of_notMem (hregistered : servers.contains serverId)
    (hincoming : ∀ member ∈ incoming, member.serverId = serverId)
    {p : HostgroupIdType × LocalHostIdType}
    (hp : (serverId, p) ∉ (t.membersPlan servers serverId incoming).1.map HostgroupMember.key) :
    (t.afterDeleteMembers servers serverId incoming).hostgroupMember.byKey (serverId, p) =
        (if p ∈ incoming.map HostgroupMember.pair then t.hostgroupMember.byKey (serverId, p)
        else none) ∧
      (p ∈ incoming.map HostgroupMember.pair →
        (t.hostgroupMember.byKey (serverId, p)).isSome) := by
  have hnotMem : p ∉ (t.membersPlan servers serverId incoming).1.map HostgroupMember.pair := by
    intro h
    obtain ⟨member, hmem, rfl⟩ := List.mem_map.mp h
    refine hp (List.mem_map.mpr ⟨member, hmem, ?_⟩)
    rw [HostgroupMember.key, hincoming member (mem_of_mem_membersLoop hmem)]
  rw [membersPlan, notMem_membersLoop_iff, memberAt_currentMembers_of_registered t hregistered]
    at hnotMem
  rw [byKey_afterDeleteMembers]
  simp only [true_and, membersPlan, memberAt_left,
    memberAt_currentMembers_of_registered t hregistered]
  by_cases hmem : p ∈ incoming.map HostgroupMember.pair
  · rw [if_pos hmem, if_pos hmem]
    exact ⟨by simp, fun _ => (hnotMem.resolve_left (not_not_intro hmem)).2⟩
  · rw [if_neg hmem, if_neg hmem]
    refine ⟨?_, fun h => absurd h hmem⟩
    cases t.hostgroupMember.byKey (serverId, p) <;> simp

/-- A member that is stored again has the global host ID of an incoming one, any other the one that
    it had. -/
theorem syncHostgroupMembers_holds (hserver : serverId ≠ allServers)
    (hregistered : servers.contains serverId)
    (hincoming : ∀ member ∈ incoming, member.serverId = serverId)
    (hid : ∀ member ∈ incoming, member.id = autoIncrementValue)
    (hdistinct : (incoming.map HostgroupMember.pair).Nodup) :
    ∃ t', t.syncHostgroupMembers servers incoming serverId = .ok (.ok, t') ∧
      t'.HoldsMembers serverId incoming ∧
      (∀ member ∈ incoming,
        (∀ old ∈ t.hostgroupMember.byKey member.key, old.hostId = member.hostId) →
        (t'.hostgroupMember.byKey member.key).map HostgroupMember.hostId = some member.hostId) ∧
      ∀ k, k.1 ≠ serverId → t'.hostgroupMember.byKey k = t.hostgroupMember.byKey k := by
  have hsync := syncHostgroupMembers_eq t servers incoming hserver
  obtain ⟨t', hupsert, hframe, hstored⟩ := upsertHostgroupMembers_afterDelete t servers serverId hid
  rw [hupsert] at hsync
  have hkeys (k : ServerIdType × HostgroupIdType × LocalHostIdType)
      (hk : k ∈ (t.membersPlan servers serverId incoming).1.map HostgroupMember.key) :
      k.1 = serverId := by
    obtain ⟨member, hmem, rfl⟩ := List.mem_map.mp hk
    exact hincoming member (mem_of_mem_membersLoop hmem)
  refine ⟨t', hsync, ?_, ?_, ?_⟩
  · intro p
    by_cases hp : (serverId, p) ∈ (t.membersPlan servers serverId incoming).1.map HostgroupMember.key
    · obtain ⟨member, hmem, n, hbyKey⟩ := hstored _ hp
      obtain rfl : member.pair = p := congrArg Prod.snd (AutoTable.key_of_byKey hbyKey)
      simp only [hbyKey, Option.isSome_some, true_iff]
      exact List.mem_map.mpr ⟨member, mem_of_mem_membersLoop hmem, rfl⟩
    · obtain ⟨hbyKey, hsome⟩ := byKey_afterDeleteMembers_of_notMem hregistered hincoming hp
      rw [hframe _ hp, hbyKey]
      by_cases hmem : p ∈ incoming.map HostgroupMember.pair
      · rw [if_pos hmem]
        exact iff_of_true (hsome hmem) hmem
      · simp [hmem]
  · intro member hmember hold
    have hkey : member.key = (serverId, member.pair) := by
      rw [HostgroupMember.key, hincoming member hmember]
    rw [hkey] at hold ⊢
    by_cases hp : (serverId, member.pair) ∈
        (t.membersPlan servers serverId incoming).1.map HostgroupMember.key
    · obtain ⟨new, hnew, n, hbyKey⟩ := hstored _ hp
      have hpair : new.pair = member.pair := congrArg Prod.snd (AutoTable.key_of_byKey hbyKey)
      obtain rfl : new = member :=
        List.inj_on_of_nodup_map hdistinct (mem_of_mem_membersLoop hnew) hmember hpair
      rw [hbyKey]
      rfl
    · obtain ⟨hbyKey, hsome⟩ := byKey_afterDeleteMembers_of_notMem hregistered hincoming hp
      have hmem := List.mem_map_of_mem (f := HostgroupMember.pair) hmember
      obtain ⟨old, hrow⟩ := Option.isSome_iff_exists.mp (hsome hmem)
      rw [hframe _ hp, hbyKey, if_pos hmem, hrow, Option.map_some, hold old hrow]
  · intro k hk
    rw [hframe k fun h => hk (hkeys k h), byKey_afterDeleteMembers, if_neg fun h => hk h.1]

theorem syncHostgroupMembersPlan_of_holds (hserver : serverId ≠ allServers)
    (hregistered : servers.contains serverId)
    (hdistinct : (incoming.map HostgroupMember.pair).Nodup)
    (hholds : t.HoldsMembers serverId incoming) :
    t.syncHostgroupMembersPlan servers incoming serverId = .ok ([], []) := by
  have hadded : (t.membersPlan servers serverId incoming).1 = [] := by
    rw [List.eq_nil_iff_forall_not_mem]
    intro member hmem
    have hmem' := List.mem_map_of_mem (f := HostgroupMember.pair) hmem
    have hincoming := List.mem_map_of_mem (f := HostgroupMember.pair) (mem_of_mem_membersLoop hmem)
    refine absurd hmem' (notMem_membersLoop_iff.mpr (.inr ⟨?_, ?_⟩))
    · exact List.count_eq_one_of_mem hdistinct hincoming
    · rw [memberAt_currentMembers_of_registered t hregistered]
      exact (hholds _).mpr hincoming
  have hleft : memberIds (t.membersPlan servers serverId incoming).2 = [] := by
    rw [List.eq_nil_iff_forall_not_mem]
    intro n hn
    obtain ⟨p, old, hold, -⟩ := mem_memberIds.mp hn
    rw [membersPlan, memberAt_left, Option.ite_none_left_eq_some,
      memberAt_currentMembers_of_registered t hregistered] at hold
    exact hold.1 ((hholds p).mp (by rw [hold.2]; rfl))
  rw [t.syncHostgroupMembersPlan_eq servers hserver, hadded, hleft]

end SyncMembers

/-- Host groups and members of a server that is set up are synchronised: the host groups of the
    server are the incoming ones, and so are the members, where a global host ID is the incoming
    one unless another is stored already; nothing of another server is touched, and there is
    nothing to delete or to store the second time. -/
theorem syncHostgroups_spec (t : HostgroupTables) (servers : ServerIdSet) (serverId : ServerIdType)
    (hserver : serverId ≠ allServers) (hregistered : servers.contains serverId) :
    (∀ incoming : List Hostgroup, (∀ hostgroup ∈ incoming, hostgroup.serverId = serverId) →
      (∀ hostgroup ∈ incoming, hostgroup.id = autoIncrementValue) →
      (incoming.map Hostgroup.idInServer).Nodup →
      ∃ err t', t.syncHostgroups servers incoming serverId = .ok (err, t') ∧
        t'.HoldsHostgroups serverId incoming ∧
        (∀ k, k.1 ≠ serverId → t'.hostgroupList.byKey k = t.hostgroupList.byKey k) ∧
        t'.syncHostgroupsPlan servers incoming serverId = .ok ([], [])) ∧
    ∀ incoming : List HostgroupMember, (∀ member ∈ incoming, member.serverId = serverId) →
      (∀ member ∈ incoming, member.id = autoIncrementValue) →
      (incoming.map HostgroupMember.pair).Nodup →
      ∃ err t', t.syncHostgroupMembers servers incoming serverId = .ok (err, t') ∧
        t'.HoldsMembers serverId incoming ∧
        (∀ member ∈ incoming,
          (∀ old ∈ t.hostgroupMember.byKey member.key, old.hostId = member.hostId) →
          (t'.hostgroupMember.byKey member.key).map HostgroupMember.hostId = some member.hostId) ∧
        (∀ k, k.1 ≠ serverId → t'.hostgroupMember.byKey k = t.hostgroupMember.byKey k) ∧
        t'.syncHostgroupMembersPlan servers incoming serverId = .ok ([], []) := by
  constructor
  · intro incoming hincoming hid hdistinct
    obtain ⟨err, t', hsync, hholds, hothers⟩ :=
      syncHostgroups_holds hserver hregistered hincoming hid hdistinct
    exact ⟨err, t', hsync, hholds, hothers,
      syncHostgroupsPlan_of_holds hserver hregistered hdistinct hholds⟩
  · intro incoming hincoming hid hdistinct
    obtain ⟨t', hsync, hholds, hhostId, hothers⟩ :=
      syncHostgroupMembers_holds hserver hregistered hincoming hid hdistinct
    exact ⟨.ok, t', hsync, hholds, hhostId, hothers,
      syncHostgroupMembersPlan_of_holds hserver hregistered hdistinct hholds⟩

def webServers : Hostgroup := ⟨0, 1, .ofString "10", .ofString "web"⟩

def webMember : HostgroupMember := ⟨0, 1, .ofString "5", .ofString "10", 3⟩

/-- One host group with one member. -/
def oneHostgroup : HostgroupTables where
  hostgroupList := { rows := [{ webServers with id := 1 }], next := 2, id_lt := by decide
                     unique_id := by decide, unique_key := by decide }
  hostgroupMember := { rows := [{ webMember with id := 1 }], next := 2, id_lt := by decide
                       unique_id := by decide, unique_key := by decide }

/-- The host groups and the members of a server that is not set up are not seen, and stay. -/
theorem syncHostgroups_unregistered :
    ((oneHostgroup.syncHostgroups ∅ [] 1).toOption.map fun result => result.2.hostgroupList.rows) =
        some [{ webServers with id := 1 }] ∧
      ((oneHostgroup.syncHostgroupMembers ∅ [] 1).toOption.map fun result =>
        result.2.hostgroupMember.rows) = some [{ webMember with id := 1 }] := by
  decide +kernel

theorem syncHostgroups_spec_one_hostgroup :
    (∃ err t', oneHostgroup.syncHostgroups {1} [webServers] 1 = .ok (err, t') ∧
      t'.HoldsHostgroups 1 [webServers]) ∧
    ∃ err t', oneHostgroup.syncHostgroupMembers {1} [webMember] 1 = .ok (err, t') ∧
      t'.HoldsMembers 1 [webMember] := by
  have hspec := syncHostgroups_spec oneHostgroup {1} 1 (by decide) (by decide)
  obtain ⟨err, t', hsync, hholds, -⟩ :=
    hspec.1 [webServers] (by decide) (by decide) (by decide)
  obtain ⟨err', t'', hsync', hholds', -⟩ :=
    hspec.2 [webMember] (by decide) (by decide) (by decide)
  exact ⟨⟨err, t', hsync, hholds⟩, err', t'', hsync', hholds'⟩

end HostgroupTables

end Hatohol

import Hatohol.Hosts.Accessibility

/-!
# Three readings of the access list

The access list is asked for a server, for a host group of a server, and it is read into the map
that the query options consult. A row for all servers with a single host group is where the first
question and the other two part.
-/

namespace Hatohol

open Sql DBTermCodec Table

/-- The entries that a query option takes for a grant of the host group. -/
def ServerHostGrpSetMap.allows (map : ServerHostGrpSetMap) (serverId : ServerIdType)
    (hostgroupId : HostgroupIdType) : Bool :=
  map.contains allServers || map[serverId]?.any fun hostgroupIdSet =>
    hostgroupIdSet.contains hostgroupId || hostgroupIdSet.contains allHostGroups

theorem HostResourceQueryOption.grants_eq_allows (o : HostResourceQueryOption) (r : HostRow) :
    o.grants r = o.getAllowedServersAndHostgroups.allows r.serverId r.hostgroupId := rfl

namespace UserTables

variable (users : UserTables) (userId : UserIdType)

/-- (DBTablesUser.cc:1185-1196) -/
def wholeServerCondition (serverId : ServerIdType) : String :=
  "user_id=" ++ encInt userId ++ " AND " ++
    ("(server_id=" ++ encInt serverId ++ " OR server_id=" ++ encInt allServers ++ ") AND " ++
      "host_group_id=" ++ encString allHostGroups)

/-- (DBTablesUser.cc:1175-1213) The overload without a host group. -/
def isAccessibleServer (serverId : ServerIdType) : Bool :=
  userId != invalidUserId && decide (0 < users.accessList.rows.countP fun access =>
    selects (wholeServerCondition userId serverId) access.value)

theorem isTest_wholeServerCondition (userId : UserIdType) (serverId : ServerIdType) :
    IsTest (wholeServerCondition userId serverId) fun row =>
      row "user_id" == .int userId && (row "server_id" == .int serverId ||
        row "server_id" == .int allServers) && row "host_group_id" == .str allHostGroups.text := by
  have huserName : isName "user_id" := by decide
  have hserverName : isName "server_id" := by decide
  have hgroupName : isName "host_group_id" := by decide
  have hservers := (isTest_eq hserverName (denotes_encInt serverId)).paren_or
    (isTest_eq hserverName (denotes_encInt allServers))
  have hgroup := isTest_eq hgroupName (denotes_encString allHostGroups)
  have hall := ((isTest_eq huserName (denotes_encInt userId)).and hservers).and hgroup
  refine Eq.mp (congrArg (IsTest · _) ?_) hall
  apply String.toList_injective
  simp [wholeServerCondition]

variable {users userId}

theorem isAccessibleServer_iff {serverId : ServerIdType} :
    users.isAccessibleServer userId serverId ↔ userId ≠ invalidUserId ∧
      (users.HasHostgroup userId serverId allHostGroups ∨
        users.HasHostgroup userId allServers allHostGroups) := by
  simp only [isAccessibleServer, Bool.and_eq_true, bne_iff_ne, decide_eq_true_eq,
    List.countP_pos_iff, (isTest_wholeServerCondition userId serverId).selects]
  refine and_congr_right fun _ => ?_
  have htext (access : AccessRow) : access.info.hostgroupId.text = allHostGroups.text ↔
      access.info.hostgroupId = allHostGroups := CString.ext_iff.symm
  simp only [HasHostgroup, AccessRow.value, Bool.or_eq_true, beq_iff_eq,
    Value.int.injEq, Value.str.injEq, htext]
  constructor
  · rintro ⟨access, haccess, ⟨huser, hserver | hserver⟩, hgroup⟩
    · exact .inl ⟨access, haccess, huser, hserver, hgroup⟩
    · exact .inr ⟨access, haccess, huser, hserver, hgroup⟩
  · rintro (⟨access, haccess, huser, hserver, hgroup⟩ | ⟨access, haccess, huser, hserver, hgroup⟩)
    · exact ⟨access, haccess, ⟨huser, .inl hserver⟩, hgroup⟩
    · exact ⟨access, haccess, ⟨huser, .inr hserver⟩, hgroup⟩

theorem allows_map_iff {serverId : ServerIdType} {hostgroupId : HostgroupIdType} :
    (getServerHostGrpSetMap users.accessList.rows userId).allows serverId hostgroupId ↔
      users.HasServer userId allServers ∨ users.Grants userId serverId hostgroupId := by
  rw [ServerHostGrpSetMap.allows, Bool.or_eq_true, Std.TreeMap.contains_iff_mem, mem_map_iff]
  refine or_congr_right ?_
  simp only [Option.any_eq_true, Bool.or_eq_true, ← Std.TreeSet.mem_iff_contains, Grants,
    ← inMap_iff, InMap]
  constructor
  · rintro ⟨hostgroupIdSet, hget, hgroup | hall⟩
    · exact .inr ⟨hostgroupIdSet, hget, hgroup⟩
    · exact .inl ⟨hostgroupIdSet, hget, hall⟩
  · rintro (⟨hostgroupIdSet, hget, hall⟩ | ⟨hostgroupIdSet, hget, hgroup⟩)
    · exact ⟨hostgroupIdSet, hget, .inr hall⟩
    · exact ⟨hostgroupIdSet, hget, .inl hgroup⟩

/-- The list is finite, so a host group beside all of its rows is there to be asked for. -/
theorem exists_unlisted (users : UserTables) :
    ∃ hostgroupId, hostgroupId ≠ allHostGroups ∧
      ∀ access ∈ users.accessList.rows, access.info.hostgroupId ≠ hostgroupId := by
  classical
  obtain ⟨hostgroupId, hfresh⟩ := Infinite.exists_notMem_finset
    (allHostGroups :: users.accessList.rows.map fun access => access.info.hostgroupId).toFinset
  simp only [List.mem_toFinset, List.mem_cons, List.mem_map, not_or, not_exists, not_and] at hfresh
  exact ⟨hostgroupId, hfresh.1, hfresh.2⟩

/-- A host group that the list does not name is granted by the wildcards alone. -/
theorem grants_unlisted {serverId : ServerIdType} {hostgroupId : HostgroupIdType}
    (hfresh : ∀ access ∈ users.accessList.rows, access.info.hostgroupId ≠ hostgroupId) :
    users.Grants userId serverId hostgroupId ↔
      users.HasHostgroup userId serverId allHostGroups := by
  constructor
  · rintro (hall | ⟨access, haccess, -, -, hgroup⟩)
    · exact hall
    · exact absurd hgroup (hfresh access haccess)
  · exact .inl

theorem forall_isAccessible_iff {serverId : ServerIdType} :
    (∀ hostgroupId, hostgroupId ≠ allHostGroups →
        users.isAccessible userId serverId hostgroupId) ↔
      userId ≠ invalidUserId ∧ (users.HasServer userId allServers ∨
        users.HasHostgroup userId serverId allHostGroups) := by
  constructor
  · intro hevery
    obtain ⟨hostgroupId, hne, hfresh⟩ := users.exists_unlisted
    have haccessible := isAccessible_iff.mp (hevery hostgroupId hne)
    rwa [grants_unlisted hfresh] at haccessible
  · rintro ⟨huser, hwild⟩ hostgroupId -
    exact isAccessible_iff.mpr ⟨huser, hwild.imp_right .inl⟩

/-- Some host group is granted on a server where and only where the list has a row for it. -/
theorem exists_grants_iff {serverId : ServerIdType} :
    (∃ hostgroupId, hostgroupId ≠ allHostGroups ∧ users.Grants userId serverId hostgroupId) ↔
      users.HasServer userId serverId := by
  constructor
  · rintro ⟨hostgroupId, -, hgrants⟩
    exact hgrants.hasServer
  · rintro ⟨access, haccess, huser, hserver⟩
    have hlisted : users.HasHostgroup userId serverId access.info.hostgroupId :=
      ⟨access, haccess, huser, hserver, rfl⟩
    by_cases hall : access.info.hostgroupId = allHostGroups
    · obtain ⟨hostgroupId, hne, -⟩ := users.exists_unlisted
      exact ⟨hostgroupId, hne, .inl (hall ▸ hlisted)⟩
    · exact ⟨_, hall, .inr hlisted⟩

variable (users userId)

/-- What the list must be for the three readings to agree on a server. -/
structure PermissionsAgree (serverId : ServerIdType) : Prop where
  /-- Nothing is accessible without a user, so nothing may be listed either. -/
  nobody : userId = invalidUserId →
    ¬users.HasServer userId allServers ∧ ¬users.HasServer userId serverId
  /-- A row for all servers is there with all host groups, or the server has all of its own. -/
  everyServer : userId ≠ invalidUserId → users.HasServer userId allServers →
    users.HasHostgroup userId serverId allHostGroups ∨
      users.HasHostgroup userId allServers allHostGroups

theorem isAccessible_eq_allows_iff (serverId : ServerIdType) :
    (∀ hostgroupId, hostgroupId ≠ allHostGroups →
        users.isAccessible userId serverId hostgroupId =
          (getServerHostGrpSetMap users.accessList.rows userId).allows serverId hostgroupId) ↔
      (userId = invalidUserId →
        ¬users.HasServer userId allServers ∧ ¬users.HasServer userId serverId) := by
  have hiff (hostgroupId : HostgroupIdType) :
      users.isAccessible userId serverId hostgroupId =
          (getServerHostGrpSetMap users.accessList.rows userId).allows serverId hostgroupId ↔
        (userId ≠ invalidUserId ∧
            (users.HasServer userId allServers ∨ users.Grants userId serverId hostgroupId) ↔
          users.HasServer userId allServers ∨ users.Grants userId serverId hostgroupId) := by
    rw [Bool.eq_iff_iff, isAccessible_iff, allows_map_iff]
  simp only [hiff]
  constructor
  · intro hagree hnobody
    have hdenied (hostgroupId : HostgroupIdType) (hne : hostgroupId ≠ allHostGroups) :
        ¬(users.HasServer userId allServers ∨ users.Grants userId serverId hostgroupId) :=
      fun hallowed => ((hagree hostgroupId hne).mpr hallowed).1 hnobody
    refine ⟨fun hall => ?_, fun hserver => ?_⟩
    · obtain ⟨hostgroupId, hne, -⟩ := users.exists_unlisted
      exact hdenied hostgroupId hne (.inl hall)
    · obtain ⟨hostgroupId, hne, hgrants⟩ := exists_grants_iff.mpr hserver
      exact hdenied hostgroupId hne (.inr hgrants)
  · intro hnobody hostgroupId _
    refine and_iff_right_of_imp fun hallowed huser => ?_
    obtain ⟨hall, hserver⟩ := hnobody huser
    rcases hallowed with hlisted | hgrants
    · exact hall hlisted
    · exact hserver hgrants.hasServer

theorem isAccessibleServer_iff_forall_iff (serverId : ServerIdType) :
    (users.isAccessibleServer userId serverId ↔ ∀ hostgroupId, hostgroupId ≠ allHostGroups →
        users.isAccessible userId serverId hostgroupId) ↔
      (userId ≠ invalidUserId → users.HasServer userId allServers →
        users.HasHostgroup userId serverId allHostGroups ∨
          users.HasHostgroup userId allServers allHostGroups) := by
  rw [isAccessibleServer_iff, forall_isAccessible_iff, and_congr_right_iff]
  refine forall_congr' fun _ => ?_
  constructor
  · exact fun hiff hall => hiff.mpr (.inl hall)
  · intro hwhole
    constructor
    · rintro (hgroups | hall)
      · exact .inr hgroups
      · exact .inl hall.hasServer
    · rintro (hall | hgroups)
      · exact hwhole hall
      · exact .inl hgroups

/-- User 5 has host group 7 of all servers. -/
def everyServerUsers : UserTables :=
  { UserTables.empty with
    accessList := ⟨[⟨1, ⟨5, allServers, .ofString "7"⟩⟩], 2, by decide, by decide⟩ }

end UserTables

end Hatohol

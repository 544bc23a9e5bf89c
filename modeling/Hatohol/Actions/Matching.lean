import Hatohol.Actions.Conditions
import Hatohol.Hostgroups.Sync

/-!
# Which actions are taken for an event

The query of the system for the actions of an event. The host groups of the event's host are read
first, and written into the condition; a host without any is looked for in a list that consists of
the quoted text of the condition that is always false, which is the ID of a host group like any
other.
-/

namespace Hatohol

open Sql DBTermCodec

/-! ## The query -/

namespace ActionsQueryOption

/-- The query of `getHostgroupIdList`. -/
def hostgroupMembersOption (servers : ServerIdSet) (serverId : ServerIdType)
    (hostId : LocalHostIdType) : HostgroupMembersQueryOption where
  base := { HostResourceQueryOption.new synapseHostgroupMembersQueryOption
      (systemContext servers) with
    targetServerId := serverId, targetHostId := hostId }
  isMembers := rfl

/-- (DBTablesAction.cc:1389-1409) -/
def getHostgroupIdList (t : HostgroupTables) (servers : ServerIdSet) (serverId : ServerIdType)
    (hostId : LocalHostIdType) : Except HatoholException (List HostgroupIdType) := do
  let hostgrpMembers ← t.getHostgroupMembers (hostgroupMembersOption servers serverId hostId)
  pure (hostgrpMembers.map HostgroupMember.hostgroupIdInServer)

/-- The option of USER_ID_SYSTEM for all actions of an event. -/
def ofEvent (eventInfo : EventInfo) : ActionsQueryOption :=
  { system with type := .all, eventInfo := some eventInfo }

/-- The condition with the host groups that are stored. -/
def getConditionOfEvent (t : HostgroupTables) (servers : ServerIdSet) (eventInfo : EventInfo) :
    Except HatoholException String := do
  let hostgroupIdList ← getHostgroupIdList t servers eventInfo.serverId eventInfo.hostIdInServer
  pure ((ofEvent eventInfo).getCondition hostgroupIdList)

end ActionsQueryOption

/-- The query for the actions of an event finds the action. -/
def ActionDef.isSelected (actionDef : ActionDef) (t : HostgroupTables) (servers : ServerIdSet)
    (eventInfo : EventInfo) : Bool :=
  match ActionsQueryOption.getConditionOfEvent t servers eventInfo with
  | .ok condition => selects condition actionDef.value
  | .error _ => false

/-! ## What the conditions of an action mean -/

/-- The host of the event is in the host group. -/
def InHostgroup (t : HostgroupTables) (eventInfo : EventInfo) (id : HostgroupIdType) : Prop :=
  ∃ member ∈ t.hostgroupMember.rows, member.serverId = eventInfo.serverId ∧
    member.hostIdInServer = eventInfo.hostIdInServer ∧ member.hostgroupIdInServer = id

/-- The severity of an event compared with that of an action. -/
def ComparisonType.Holds : ComparisonType → Int → Int → Prop
  | invalid, _, _ => False
  | eq, severity, limit => severity = limit
  | eqGt, severity, limit => limit ≤ severity

/-- Every condition that is enabled holds of the event, but for the one on the host group. -/
structure ActionDef.MatchesRest (actionDef : ActionDef) (eventInfo : EventInfo) : Prop where
  server : ∀ id ∈ actionDef.condition.serverId, id = eventInfo.serverId
  host : ∀ id ∈ actionDef.condition.hostIdInServer, id = eventInfo.hostIdInServer
  trigger : ∀ id ∈ actionDef.condition.triggerId, id = eventInfo.triggerId
  status : ∀ status ∈ actionDef.condition.triggerStatus, status = eventInfo.status
  severity : ∀ severity ∈ actionDef.condition.triggerSeverity,
    severity.2.Holds eventInfo.severity severity.1

/-- Every condition that is enabled holds of the event. -/
structure ActionDef.Matches (actionDef : ActionDef) (t : HostgroupTables) (eventInfo : EventInfo) :
    Prop extends actionDef.MatchesRest eventInfo where
  hostgroup : ∀ id ∈ actionDef.condition.hostgroupId, InHostgroup t eventInfo id

/-! ## The host groups that are read -/

/-- The host group is read for the event: the servers are those that are set up, and two IDs stand
    for all servers and for all hosts. -/
def IsRead (t : HostgroupTables) (servers : ServerIdSet) (eventInfo : EventInfo)
    (id : HostgroupIdType) : Prop :=
  ∃ member ∈ t.hostgroupMember.rows, servers.contains member.serverId = true ∧
    (eventInfo.serverId = allServers ∨ member.serverId = eventInfo.serverId) ∧
    (eventInfo.hostIdInServer = allLocalHosts ∨
      member.hostIdInServer = eventInfo.hostIdInServer) ∧ member.hostgroupIdInServer = id

/-- The event is of a server that is set up, and its IDs stand for themselves. -/
def EventInfo.IsPlain (eventInfo : EventInfo) (servers : ServerIdSet) : Prop :=
  servers.contains eventInfo.serverId = true ∧ eventInfo.serverId ≠ allServers ∧
    eventInfo.hostIdInServer ≠ allLocalHosts

instance (eventInfo : EventInfo) (servers : ServerIdSet) :
    Decidable (eventInfo.IsPlain servers) :=
  inferInstanceAs (Decidable (_ ∧ _ ∧ _))

/-- The host group "0" is not taken for one of a host that has none. For an event that is not
    plain, what is read must tell of the host group what is stored. -/
def HostgroupTold (t : HostgroupTables) (servers : ServerIdSet) (eventInfo : EventInfo)
    (id : HostgroupIdType) : Prop :=
  if eventInfo.IsPlain servers then
    id = .ofString alwaysFalseCondition → ∃ other, InHostgroup t eventInfo other
  else
    (IsRead t servers eventInfo id ∨
        id = .ofString alwaysFalseCondition ∧ ∀ other, ¬IsRead t servers eventInfo other) ↔
      InHostgroup t eventInfo id

theorem EventInfo.IsPlain.isRead_iff {eventInfo : EventInfo} {servers : ServerIdSet}
    (hplain : eventInfo.IsPlain servers) (t : HostgroupTables) (id : HostgroupIdType) :
    IsRead t servers eventInfo id ↔ InHostgroup t eventInfo id := by
  obtain ⟨hregistered, hserver, hhost⟩ := hplain
  refine exists_congr fun member => and_congr_right fun _ => ?_
  simp only [hserver, hhost, false_or]
  constructor
  · rintro ⟨-, hserver, hhost, hid⟩
    exact ⟨hserver, hhost, hid⟩
  · rintro ⟨hserver, hhost, hid⟩
    exact ⟨hserver ▸ hregistered, hserver, hhost, hid⟩

namespace ActionsQueryOption

variable (t : HostgroupTables) (servers : ServerIdSet)

theorem isSystemQuery_hostgroupMembers (serverId : ServerIdType) (hostId : LocalHostIdType) :
    (hostgroupMembersOption servers serverId hostId).base.IsSystemQuery :=
  HostResourceQueryOption.isSystemQuery_new (.inl rfl) servers false serverId

theorem getHostgroupIdList_spec (eventInfo : EventInfo) :
    ∃ ids, getHostgroupIdList t servers eventInfo.serverId eventInfo.hostIdInServer = .ok ids ∧
      ∀ id, id ∈ ids ↔ IsRead t servers eventInfo id := by
  have ho := isSystemQuery_hostgroupMembers servers eventInfo.serverId eventInfo.hostIdInServer
  obtain ⟨s, hs, hdenotes⟩ := ho.getCondition
  have hselects (member : HostgroupMember) : selects s member.value = true ↔
      servers.contains member.serverId = true ∧
        (eventInfo.serverId = allServers ∨ member.serverId = eventInfo.serverId) ∧
        (eventInfo.hostIdInServer = allLocalHosts ∨
          member.hostIdInServer = eventInfo.hostIdInServer) := by
    have hrow : (hostgroupMembersOption servers eventInfo.serverId
        eventInfo.hostIdInServer).base.HasRow member.value
          ⟨member.serverId, member.hostIdInServer, emptyText⟩ := by
      refine ⟨rfl, ?_, fun _ => rfl⟩
      intro hnames
      simp [ho.namesHostgroup] at hnames
    rw [ho.selects_form hrow hdenotes]
    simp [hostgroupMembersOption, HostResourceQueryOption.isValid, HostResourceQueryOption.new,
      HostResourceQueryOption.isTargeted, HostResourceQueryOption.getValidServerIdSet,
      systemContext]
  refine ⟨(t.hostgroupMember.rows.filter fun member => selects s member.value).map
    HostgroupMember.hostgroupIdInServer, ?_, fun id => ?_⟩
  · simp only [getHostgroupIdList, HostgroupTables.getHostgroupMembers, hs, bind, Except.bind, pure,
      Except.pure]
  · rw [List.mem_map]
    refine exists_congr fun member => ?_
    rw [List.mem_filter, hselects]
    grind

end ActionsQueryOption

/-! ## The main result -/

namespace ActionDef

open ActionsQueryOption

variable (actionDef : ActionDef)

theorem severityTest_iff (severity : Int) : severityTest severity actionDef.value = true ↔
    ∀ s ∈ actionDef.condition.triggerSeverity, s.2.Holds severity s.1 := by
  have hseverity : actionDef.value "trigger_severity" =
      actionDef.condition.triggerSeverity.elim .null (.int ·.1) := rfl
  have htype : actionDef.value "trigger_severity_comp_type" =
      actionDef.condition.triggerSeverity.elim .null (.int ·.2.value) := rfl
  rw [severityTest, hseverity, htype]
  cases hcondition : actionDef.condition.triggerSeverity with
  | none => simp
  | some s =>
    obtain ⟨limit, type⟩ := s
    have hle : (compareValue .le (.int limit) (.int severity) == some true) = true ↔
        limit ≤ severity := by simp [compareValue]
    cases type with
    | invalid => simp [ComparisonType.Holds, ComparisonType.value]
    | eq =>
      have heq : ComparisonType.eq.Holds severity limit ↔ limit = severity := eq_comm
      simp [heq, ComparisonType.value]
    | eqGt => simpa [ComparisonType.Holds, ComparisonType.value] using hle

/-- A column that is NULL or has one of some values. -/
theorem nullOrTest_iff {α : Type} (column : String) (f : Value → Bool) {o : Option α}
    {value : α → Value} (hcolumn : actionDef.value column = o.elim .null value)
    (hvalue : ∀ x, value x ≠ .null) :
    nullOrTest column (fun row => f (row column)) actionDef.value = true ↔
      ∀ x ∈ o, f (value x) = true := by
  rw [nullOrTest, hcolumn]
  cases o with
  | none => simp
  | some x => simp [hvalue x]

theorem eventTest_iff (eventInfo : EventInfo) (hostgroupIdList : List HostgroupIdType) :
    eventTest eventInfo hostgroupIdList actionDef.value = true ↔ actionDef.MatchesRest eventInfo ∧
      ∀ id ∈ actionDef.condition.hostgroupId, id ∈ listedHostgroups hostgroupIdList := by
  have hint (n : Int) : Value.int n ≠ .null := nofun
  have hstr (s : CString) : Value.str s.text ≠ .null := nofun
  have hserver := nullOrTest_iff actionDef "server_id" (· == .int eventInfo.serverId) rfl hint
  have hhost := nullOrTest_iff actionDef "host_id_in_server"
    (· == .str eventInfo.hostIdInServer.text) rfl hstr
  have hgroup := nullOrTest_iff actionDef "host_group_id"
    (fun v => (listedHostgroups hostgroupIdList).any fun id => v == .str id.text) rfl hstr
  have htrigger := nullOrTest_iff actionDef "trigger_id" (· == .str eventInfo.triggerId.text) rfl
    hstr
  have hstatus := nullOrTest_iff actionDef "trigger_status" (· == .int eventInfo.status) rfl hint
  have hseverity := actionDef.severityTest_iff eventInfo.severity
  have hlisted (id : HostgroupIdType) : ((listedHostgroups hostgroupIdList).any fun id' =>
      Value.str id.text == .str id'.text) = true ↔ id ∈ listedHostgroups hostgroupIdList := by
    simp [← CString.ext_iff]
  have htext (s s' : CString) : (Value.str s.text == .str s'.text) = true ↔ s = s' := by
    simp [← CString.ext_iff]
  have hnumber (n m : Int) : (Value.int n == .int m) = true ↔ n = m := by simp
  simp only [hnumber, htext, hlisted] at hserver hhost hgroup htrigger hstatus
  simp only [eventTest, Bool.and_eq_true, hserver, hhost, hgroup, htrigger, hstatus, hseverity]
  constructor
  · rintro ⟨⟨⟨⟨⟨h1, h2⟩, h3⟩, h4⟩, h5⟩, h6⟩
    exact ⟨⟨h1, h2, h4, h5, h6⟩, h3⟩
  · rintro ⟨⟨h1, h2, h4, h5, h6⟩, h3⟩
    exact ⟨⟨⟨⟨⟨h1, h2⟩, h3⟩, h4⟩, h5⟩, h6⟩

theorem allowsIdOf_ofEvent (eventInfo : EventInfo) (row : String → Value) :
    (ofEvent eventInfo).allowsIdOf row = true := by
  have hall := OperationPrivilege.has_allPrivileges
  simp [allowsIdOf, allowsRow, ofEvent, system, hall]

/-- What the query tests. -/
theorem isSelected_iff (t : HostgroupTables) (servers : ServerIdSet) (eventInfo : EventInfo) :
    actionDef.isSelected t servers eventInfo = true ↔ actionDef.MatchesRest eventInfo ∧
      ∀ id ∈ actionDef.condition.hostgroupId, IsRead t servers eventInfo id ∨
        id = .ofString alwaysFalseCondition ∧ ∀ other, ¬IsRead t servers eventInfo other := by
  obtain ⟨ids, hids, hread⟩ := getHostgroupIdList_spec t servers eventInfo
  have hcondition : getConditionOfEvent t servers eventInfo =
      .ok ((ofEvent eventInfo).getCondition ids) := by
    simp only [getConditionOfEvent, hids, bind, Except.bind, pure, Except.pure]
  have hlisted (id : HostgroupIdType) : id ∈ listedHostgroups ids ↔
      IsRead t servers eventInfo id ∨
        id = .ofString alwaysFalseCondition ∧ ∀ other, ¬IsRead t servers eventInfo other := by
    simp only [← hread, ← List.eq_nil_iff_forall_not_mem]
    unfold listedHostgroups
    split
    next hnil => simp [hnil]
    next hne => simp [hne]
  rw [isSelected, hcondition]
  change selects ((ofEvent eventInfo).getCondition ids) actionDef.value = true ↔ _
  rw [selects_getCondition, rowTest, allowsIdOf_ofEvent, Bool.true_and]
  simp only [← hlisted]
  exact actionDef.eventTest_iff eventInfo ids

/-- An action for the host group "0". -/
def ofHostgroupZero : ActionDef where
  id := 1
  condition :=
    { serverId := none, hostIdInServer := none, hostgroupId := some (.ofString "0")
      triggerId := none, triggerStatus := none, triggerSeverity := none }
  type := .command
  workingDir := emptyText
  command := .ofString "/usr/bin/notify"
  timeout := 0
  ownerUserId := 1

def eventOfServer1 : EventInfo where
  serverId := 1
  id := .ofString "7"
  time := ⟨0, 0⟩
  hostIdInServer := .ofString "5"
  triggerId := .ofString "3"
  status := 1
  severity := 4

end ActionDef

end Hatohol

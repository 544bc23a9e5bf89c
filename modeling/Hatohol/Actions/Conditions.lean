import Hatohol.Sql.Tests
import Hatohol.DBTablesAction

/-!
# The condition of a query for actions

What the text that `ActionsQueryOption::getCondition` assembles tests in a row: the type and the
owner, the list of IDs, and for an event the six conditions of an action, each of which a NULL
takes out of the test.
-/

namespace Hatohol

open Sql DBTermCodec

namespace ActionsQueryOption

/-! ## Type and owner -/

/-- COMMAND or RESIDENT. -/
def rowIsUserAction (row : String → Value) : Bool :=
  compareValue .ge (row "action_type") (.int 0) == some true &&
    compareValue .lt (row "action_type") (.int ActionType.incidentSender.value) == some true

def rowIsOfType (type : ActionType) (row : String → Value) : Bool :=
  row "action_type" == .int type.value

variable (option : ActionsQueryOption)

/-- The caller may see the actions of this owner. -/
def rowIsOwn (row : String → Value) : Bool :=
  option.privilege.has .getAllAction || row "owner_user_id" == .int option.userId

/-- The type and the owner of a row are among those of the query. -/
def allowsRow (row : String → Value) : Bool :=
  match option.type with
  | .all =>
      option.privilege.has .getAllIncidentSettings && option.privilege.has .getAllAction ||
        option.rowIsOwn row && rowIsUserAction row ||
        option.privilege.has .getAllIncidentSettings && rowIsOfType .incidentSender row
  | .userDefined => option.rowIsOwn row && rowIsUserAction row
  | .incidentSender =>
      option.privilege.has .getAllIncidentSettings && rowIsOfType .incidentSender row
  | type => option.rowIsOwn row && rowIsOfType type row

theorem isTest_makeOwnerCondition (userId : UserIdType) :
    IsTest (makeOwnerCondition userId) fun row => row "owner_user_id" == .int userId :=
  isTest_eq (by decide) (denotes_encInt userId)

theorem isTest_makeTypeCondition (type : ActionType) :
    IsTest (makeTypeCondition type) (rowIsOfType type) :=
  isTest_eq (by decide) (denotes_encInt type.value)

theorem isTest_userActions : IsTest ("action_type" ++ ">=" ++ encInt 0 ++ " AND " ++
    ("action_type" ++ "<" ++ encInt ActionType.incidentSender.value)) rowIsUserAction :=
  (isTest_cmp (by decide) opens_ge (separates rfl) (denotes_encInt 0)).and
    (isTest_lt (by decide) ActionType.incidentSender.value)

/-- The condition on the owner, which is left out for those who may see all actions. -/
def ownerCondition : String :=
  if option.privilege.has .getAllAction then "" else makeOwnerCondition option.userId

theorem ownerCondition_spec : option.ownerCondition = "" ∧ (∀ row, option.rowIsOwn row = true) ∨
    IsTest option.ownerCondition option.rowIsOwn := by
  have howner := isTest_makeOwnerCondition option.userId
  unfold ownerCondition
  cases hall : option.privilege.has .getAllAction with
  | true =>
    refine .inl ⟨rfl, fun row => ?_⟩
    rw [rowIsOwn, hall, Bool.true_or]
  | false =>
    refine .inr (howner.congr fun row => ?_)
    rw [rowIsOwn, hall, Bool.false_or]

theorem isTest_makeUserActionsCondition : IsTest (makeUserActionsCondition option.ownerCondition)
    fun row => option.rowIsOwn row && rowIsUserAction row := by
  unfold makeUserActionsCondition
  rcases option.ownerCondition_spec with ⟨hempty, hall⟩ | howner
  · rw [if_pos hempty]
    refine isTest_userActions.paren.congr fun row => ?_
    rw [hall, Bool.true_and]
  · rw [if_neg howner.ne_empty]
    exact (howner.and isTest_userActions).paren

theorem isTest_ownOfType (type : ActionType) :
    IsTest (if option.ownerCondition = "" then makeTypeCondition type
      else "(" ++ (option.ownerCondition ++ " AND " ++ makeTypeCondition type) ++ ")") fun row =>
        option.rowIsOwn row && rowIsOfType type row := by
  rcases option.ownerCondition_spec with ⟨hempty, hall⟩ | howner
  · rw [if_pos hempty]
    refine (isTest_makeTypeCondition type).congr fun row => ?_
    rw [hall, Bool.true_and]
  · rw [if_neg howner.ne_empty]
    exact (howner.and (isTest_makeTypeCondition type)).paren

theorem getActionTypeAndOwnerCondition_all (htype : option.type = .all) :
    option.getActionTypeAndOwnerCondition =
      if option.privilege.has .getAllIncidentSettings then
        if option.ownerCondition = "" then ""
        else "(" ++ (makeUserActionsCondition option.ownerCondition ++ " OR " ++
          makeTypeCondition .incidentSender) ++ ")"
      else makeUserActionsCondition option.ownerCondition := by
  rw [getActionTypeAndOwnerCondition, htype]
  rfl

/-- The condition is left out where every row is allowed. -/
theorem getActionTypeAndOwnerCondition_spec :
    option.getActionTypeAndOwnerCondition = "" ∧ (∀ row, option.allowsRow row = true) ∨
      IsTest option.getActionTypeAndOwnerCondition option.allowsRow := by
  have hactions := option.isTest_makeUserActionsCondition
  cases htype : option.type with
  | userDefined =>
    right
    unfold getActionTypeAndOwnerCondition allowsRow
    rw [htype]
    exact hactions
  | all =>
    rw [option.getActionTypeAndOwnerCondition_all htype]
    unfold allowsRow
    rw [htype]
    cases hincident : option.privilege.has .getAllIncidentSettings with
    | false =>
      right
      exact hactions.congr fun row => by simp
    | true =>
      rw [if_pos rfl]
      rcases option.ownerCondition_spec with ⟨hempty, hown⟩ | howner
      · left
        rw [if_pos hempty]
        have hall : option.privilege.has .getAllAction = true := by
          by_contra hnot
          rw [ownerCondition, if_neg hnot] at hempty
          exact (isTest_makeOwnerCondition option.userId).ne_empty hempty
        exact ⟨rfl, fun row => by simp [hall]⟩
      · right
        have hall : option.privilege.has .getAllAction = false := by
          by_contra hnot
          rw [Bool.not_eq_false] at hnot
          exact howner.ne_empty (if_pos hnot)
        rw [if_neg howner.ne_empty]
        refine (hactions.paren_or (isTest_makeTypeCondition .incidentSender)).congr fun row => ?_
        simp [hall]
  | incidentSender =>
    right
    unfold getActionTypeAndOwnerCondition allowsRow
    rw [htype]
    cases option.privilege.has .getAllIncidentSettings with
    | true => exact (isTest_makeTypeCondition .incidentSender).congr fun row => by simp
    | false => exact (isTest_const 0).congr fun row => by simp
  | command =>
    right
    unfold getActionTypeAndOwnerCondition allowsRow
    rw [htype]
    exact option.isTest_ownOfType .command
  | resident =>
    right
    unfold getActionTypeAndOwnerCondition allowsRow
    rw [htype]
    exact option.isTest_ownOfType .resident

/-! ## The event -/

/-- The column is NULL or passes the test. -/
def nullOrTest (column : String) (f : (String → Value) → Bool) (row : String → Value) : Bool :=
  row column == .null || f row

theorem isTest_nullOr {column comparison : String} (hcolumn : isName column)
    {f : (String → Value) → Bool} (hcomparison : IsTest comparison f) :
    IsTest (nullOr column comparison) (nullOrTest column f) := by
  have htest := (isTest_isNull hcolumn).paren.paren_or hcomparison
  have htext : nullOr column comparison =
      "(" ++ ("(" ++ (column ++ " IS NULL") ++ ")" ++ " OR " ++ comparison) ++ ")" := by
    simp only [nullOr, String.append_assoc, show "((" = "(" ++ "(" from rfl,
      show " IS NULL) OR " = " IS NULL" ++ (")" ++ " OR ") from rfl]
  rw [htext]
  exact htest

theorem isTest_nullOr_or {column a b : String} (hcolumn : isName column)
    {f g : (String → Value) → Bool} (ha : IsTest a f) (hb : IsTest b g) :
    IsTest (nullOr column ("(" ++ a ++ ") OR (" ++ b ++ ")")) fun row =>
      row column == .null || f row || g row := by
  have htest := (isTest_isNull hcolumn).paren.paren_or_or ha.paren hb.paren
  have htext : nullOr column ("(" ++ a ++ ") OR (" ++ b ++ ")") =
      "(" ++ ("(" ++ (column ++ " IS NULL") ++ ")" ++ " OR " ++ ("(" ++ a ++ ")") ++ " OR " ++
        ("(" ++ b ++ ")")) ++ ")" := by
    simp only [nullOr, String.append_assoc, show "((" = "(" ++ "(" from rfl,
      show " IS NULL) OR " = " IS NULL" ++ (")" ++ " OR ") from rfl,
      show ") OR (" = ")" ++ (" OR " ++ "(") from rfl]
  rw [htext]
  exact htest

/-- What stands in the list of host groups: those of the host, or the text of the condition that is
    always false. -/
def listedHostgroups (hostgroupIdList : List HostgroupIdType) : List HostgroupIdType :=
  if hostgroupIdList = [] then [.ofString alwaysFalseCondition] else hostgroupIdList

/-- The severity of the event is what the row asks for. -/
def severityTest (severity : Int) (row : String → Value) : Bool :=
  row "trigger_severity" == .null ||
    (row "trigger_severity_comp_type" == .int ComparisonType.eq.value &&
      row "trigger_severity" == .int severity) ||
    (row "trigger_severity_comp_type" == .int ComparisonType.eqGt.value &&
      compareValue .le (row "trigger_severity") (.int severity) == some true)

/-- The six conditions of an action. -/
def eventTest (eventInfo : EventInfo) (hostgroupIdList : List HostgroupIdType)
    (row : String → Value) : Bool :=
  nullOrTest "server_id" (fun row => row "server_id" == .int eventInfo.serverId) row &&
    nullOrTest "host_id_in_server"
      (fun row => row "host_id_in_server" == .str eventInfo.hostIdInServer.text) row &&
    nullOrTest "host_group_id" (fun row => (listedHostgroups hostgroupIdList).any fun id =>
      row "host_group_id" == .str id.text) row &&
    nullOrTest "trigger_id" (fun row => row "trigger_id" == .str eventInfo.triggerId.text) row &&
    nullOrTest "trigger_status" (fun row => row "trigger_status" == .int eventInfo.status) row &&
    severityTest eventInfo.severity row

theorem listedHostgroups_ne_nil (hostgroupIdList : List HostgroupIdType) :
    listedHostgroups hostgroupIdList ≠ [] := by
  unfold listedHostgroups
  split
  · exact List.cons_ne_nil _ _
  · assumption

theorem isTest_hostgroups (hostgroupIdList : List HostgroupIdType) :
    IsTest ("host_group_id IN (" ++ (if hostgroupIdList = [] then
        encString (.ofString alwaysFalseCondition)
      else commaSeparated (hostgroupIdList.map encString)) ++ ")") fun row =>
        (listedHostgroups hostgroupIdList).any fun id => row "host_group_id" == .str id.text := by
  have hname : isName "host_group_id" := by decide
  have hlist := isTest_inList hname opens_in (separates rfl) encString
    (.str ·.text) denotes_encString (listedHostgroups_ne_nil hostgroupIdList)
  have hitems : commaSeparated ((listedHostgroups hostgroupIdList).map encString) =
      if hostgroupIdList = [] then encString (.ofString alwaysFalseCondition)
      else commaSeparated (hostgroupIdList.map encString) := by
    unfold listedHostgroups
    split <;> rfl
  rw [hitems] at hlist
  exact hlist

theorem isTest_severity (severity : Int) :
    IsTest (nullOr "trigger_severity"
      ("(trigger_severity_comp_type=" ++ encInt ComparisonType.eq.value ++
        " AND trigger_severity=" ++ encInt severity ++
        ") OR (trigger_severity_comp_type=" ++ encInt ComparisonType.eqGt.value ++
        " AND trigger_severity<=" ++ encInt severity ++ ")")) (severityTest severity) := by
  have htype (type : ComparisonType) : IsTest ("trigger_severity_comp_type" ++ "=" ++
      encInt type.value) fun row => row "trigger_severity_comp_type" == .int type.value :=
    isTest_eq (by decide) (denotes_encInt type.value)
  have heq : IsTest ("trigger_severity" ++ "=" ++ encInt severity) fun row =>
      row "trigger_severity" == .int severity := isTest_eq (by decide) (denotes_encInt severity)
  have hname : isName "trigger_severity" := by decide
  have hle := isTest_cmp hname opens_le (separates rfl) (denotes_encInt severity)
  have htest := isTest_nullOr_or hname ((htype .eq).and heq) ((htype .eqGt).and hle)
  simp only [String.append_assoc] at htest ⊢
  exact htest

theorem isTest_makeEventCondition (eventInfo : EventInfo)
    (hostgroupIdList : List HostgroupIdType) :
    IsTest (makeEventCondition eventInfo hostgroupIdList)
      (eventTest eventInfo hostgroupIdList) := by
  have hserver : IsTest ("server_id" ++ "=" ++ encInt eventInfo.serverId) _ :=
    isTest_eq (by decide) (denotes_encInt eventInfo.serverId)
  have hhost : IsTest ("host_id_in_server" ++ "=" ++ encString eventInfo.hostIdInServer) _ :=
    isTest_eq (by decide) (denotes_encString eventInfo.hostIdInServer)
  have htrigger : IsTest ("trigger_id" ++ "=" ++ encString eventInfo.triggerId) _ :=
    isTest_eq (by decide) (denotes_encString eventInfo.triggerId)
  have hstatus : IsTest ("trigger_status" ++ "=" ++ encInt eventInfo.status) _ :=
    isTest_eq (by decide) (denotes_encInt eventInfo.status)
  exact (((((isTest_nullOr (by decide) hserver.paren).and
    (isTest_nullOr (by decide) hhost.paren)).and
    (isTest_nullOr (by decide) (isTest_hostgroups hostgroupIdList))).and
    (isTest_nullOr (by decide) htrigger.paren)).and
    (isTest_nullOr (by decide) hstatus.paren)).and (isTest_severity eventInfo.severity)

/-! ## The whole condition -/

/-- A condition that may be left out, with what it tests. -/
theorem addAnd_spec {s u : String} {f g : (String → Value) → Bool}
    (hs : s = "" ∧ (∀ row, f row = true) ∨ IsTest s f) (hu : IsTest u g) :
    IsTest (addAnd s u) fun row => f row && g row := by
  rcases hs with ⟨rfl, hall⟩ | hs
  · rw [addAnd_empty]
    refine hu.congr fun row => ?_
    rw [hall, Bool.true_and]
  · rw [addAnd, addCondition, if_neg hu.ne_empty, if_neg hs.ne_empty]
    exact hs.and hu

/-- The type, the owner and the ID of a row are among those of the query. -/
def allowsIdOf (row : String → Value) : Bool :=
  option.allowsRow row &&
    (option.idList.isEmpty || option.idList.any fun id => row "action_id" == .int id)

/-- The rows that a query selects. -/
def rowTest (hostgroupIdList : List HostgroupIdType) (row : String → Value) : Bool :=
  option.allowsIdOf row && option.eventInfo.all fun eventInfo => eventTest eventInfo hostgroupIdList row

/-- The condition on the type, the owner and the ID. -/
theorem idCondition_spec : ∀ cond, cond = (if option.idList = [] then
      option.getActionTypeAndOwnerCondition
    else addAnd option.getActionTypeAndOwnerCondition (makeIdListCondition option.idList)) →
    cond = "" ∧ (∀ row, option.allowsIdOf row = true) ∨ IsTest cond option.allowsIdOf := by
  rintro cond rfl
  unfold allowsIdOf
  by_cases hempty : option.idList = []
  · simpa [hempty] using option.getActionTypeAndOwnerCondition_spec
  · have hlist : IsTest (makeIdListCondition option.idList) fun row =>
        option.idList.any fun id => row "action_id" == .int id :=
      isTest_inList (by decide) opens_in_lower (separates rfl) encInt .int denotes_encInt hempty
    right
    rw [if_neg hempty]
    refine (addAnd_spec option.getActionTypeAndOwnerCondition_spec hlist).congr fun row => ?_
    rw [List.isEmpty_eq_false_iff.mpr hempty, Bool.false_or]

theorem selects_getCondition (hostgroupIdList : List HostgroupIdType) (row : String → Value) :
    selects (option.getCondition hostgroupIdList) row = option.rowTest hostgroupIdList row := by
  have hids := option.idCondition_spec _ rfl
  unfold getCondition rowTest
  cases option.eventInfo with
  | none =>
    rw [Option.all_none, Bool.and_true]
    rcases hids with ⟨hempty, hall⟩ | htest
    · change selects (if option.idList = [] then _ else _) row = _
      rw [hempty, hall]
      rfl
    · exact htest.selects row
  | some eventInfo =>
    exact (addAnd_spec hids (isTest_makeEventCondition eventInfo hostgroupIdList)).selects row

end ActionsQueryOption

end Hatohol

import Hatohol.Actions.Storage

/-!
# What is listed of the actions that were added

An action that was added is listed to its owner with the conditions that were enabled in it. What
is listed to others is restricted by the text condition on type and owner.
-/

namespace Hatohol

open Sql DBTermCodec DBAgent ItemGroupStream

/-! ## Enable bits -/

/-- A bit that is set, and the others as they were. -/
theorem and_bit_or (bits : BitVec 32) (flag flag' : ActionConditionEnableFlag) :
    ((bits ||| flag.bit) &&& flag'.bit != 0#32) =
      (bits &&& flag'.bit != 0#32 || decide (flag' = flag)) := by
  have hbits : (flag.bit &&& flag'.bit = 0#32) ↔ ¬flag' = flag := by
    cases flag <;> cases flag' <;> decide
  rw [BitVec.and_or_distrib_right, Bool.eq_iff_iff, bne_iff_ne, Ne, BitVec.or_eq_zero_iff, hbits]
  simp only [Bool.or_eq_true, bne_iff_ne, decide_eq_true_eq, ne_eq]
  tauto

theorem and_bit_unless {p : Prop} [Decidable p] (bits : BitVec 32)
    (flag flag' : ActionConditionEnableFlag) :
    ((if p then bits else bits ||| flag.bit) &&& flag'.bit != 0#32) =
      (bits &&& flag'.bit != 0#32 || (decide (flag' = flag) && !decide p)) := by
  by_cases hp : p
  · simp [hp]
  · rw [if_neg hp, and_bit_or, decide_eq_false hp, Bool.not_false, Bool.and_true]

/-! ## What the stream reads of a row -/

/-- The number that is read of an item. -/
def itemToInt : ItemData → Int
  | .int n => n
  | _ => 0

def itemToString : ItemData → CString
  | .string s => .ofString s
  | _ => emptyText

theorem readInt_cons {item : ItemData} (hitem : accepts false item = true) (items : List ItemData) :
    readInt (item :: items) = some (itemToInt item, items) := by
  cases item with
  | null => rfl
  | int n => rfl
  | string s => cases hitem

theorem readString_cons {item : ItemData} (hitem : accepts true item = true)
    (items : List ItemData) : readString (item :: items) = some (itemToString item, items) := by
  cases item with
  | null => rfl
  | int n => cases hitem
  | string s => rfl

/-- The condition after the look at an item. -/
def RawActionCondition.enableUnless (condition : RawActionCondition) (item : ItemData)
    (flag : ActionConditionEnableFlag) : RawActionCondition :=
  { condition with
    enableBits := if item = .null then condition.enableBits else condition.enableBits ||| flag.bit }

theorem enableUnlessNull_cons (flag : ActionConditionEnableFlag) (condition : RawActionCondition)
    (item : ItemData) (items : List ItemData) :
    enableUnlessNull flag condition (item :: items) =
      some (condition.enableUnless item flag, item :: items) := by
  change some ((if item = .null then condition else condition.enable flag), item :: items) = _
  rw [RawActionCondition.enableUnless, RawActionCondition.enable]
  split <;> rfl

theorem bind_of_eq_some {α β : Type} {x : ItemGroupStream α} {f : α → ItemGroupStream β}
    {items items' : List ItemData} {a : α} (hx : x items = some (a, items')) :
    (x >>= f) items = f a items' := by
  change (x items).bind _ = _
  rw [hx]
  rfl

/-- The column that tells whether a condition is enabled. -/
def ActionConditionEnableFlag.column : ActionConditionEnableFlag → IdxActions
  | serverId => .serverId
  | hostId => .hostId
  | hostgroupId => .hostGroupId
  | triggerId => .triggerId
  | triggerStatus => .triggerStatus
  | triggerSeverity => .triggerSeverity

/-- The action is what its row holds. -/
structure ReadFrom (row : ActionRow) (actionDef : RawActionDef) : Prop where
  id : actionDef.id = itemToInt (row .actionId)
  isEnable : ∀ flag, actionDef.condition.isEnable flag = true ↔ row flag.column ≠ .null
  serverId : actionDef.condition.serverId = itemToInt (row .serverId)
  hostIdInServer : actionDef.condition.hostIdInServer = itemToString (row .hostId)
  hostgroupId : actionDef.condition.hostgroupId = itemToString (row .hostGroupId)
  triggerId : actionDef.condition.triggerId = itemToString (row .triggerId)
  triggerStatus : actionDef.condition.triggerStatus = itemToInt (row .triggerStatus)
  triggerSeverity : actionDef.condition.triggerSeverity = itemToInt (row .triggerSeverity)
  triggerSeverityCompType :
    actionDef.condition.triggerSeverityCompType = itemToInt (row .triggerSeverityCompType)
  type : actionDef.type = itemToInt (row .actionType)
  command : actionDef.command = itemToString (row .command)
  workingDir : actionDef.workingDir = itemToString (row .workingDir)
  timeout : actionDef.timeout = itemToInt (row .timeout)
  ownerUserId : actionDef.ownerUserId = itemToInt (row .ownerUserId)

/-- Every item is read at the position where its column was selected. -/
theorem readActionDef_spec {row : ActionRow}
    (htyped : ∀ idx : IdxActions, accepts idx.isText (row idx) = true) :
    ∃ actionDef, readActionDef.run' (selectedColumns.map row) = some actionDef ∧
      ReadFrom row actionDef := by
  have hread : ∃ actionDef, readActionDef (selectedColumns.map row) = some (actionDef, []) ∧
      ReadFrom row actionDef := by
    simp only [selectedColumns, List.map_cons, List.map_nil]
    unfold readActionDef
    rw [bind_of_eq_some (readInt_cons (htyped .actionId) _),
      bind_of_eq_some (enableUnlessNull_cons ..),
      bind_of_eq_some (readInt_cons (htyped .serverId) _),
      bind_of_eq_some (enableUnlessNull_cons ..),
      bind_of_eq_some (readString_cons (htyped .hostId) _),
      bind_of_eq_some (enableUnlessNull_cons ..),
      bind_of_eq_some (readString_cons (htyped .hostGroupId) _),
      bind_of_eq_some (enableUnlessNull_cons ..),
      bind_of_eq_some (readString_cons (htyped .triggerId) _),
      bind_of_eq_some (enableUnlessNull_cons ..),
      bind_of_eq_some (readInt_cons (htyped .triggerStatus) _),
      bind_of_eq_some (enableUnlessNull_cons ..),
      bind_of_eq_some (readInt_cons (htyped .triggerSeverity) _),
      bind_of_eq_some (readInt_cons (htyped .triggerSeverityCompType) _),
      bind_of_eq_some (readInt_cons (htyped .actionType) _),
      bind_of_eq_some (readString_cons (htyped .command) _),
      bind_of_eq_some (readString_cons (htyped .workingDir) _),
      bind_of_eq_some (readInt_cons (htyped .timeout) _),
      bind_of_eq_some (readInt_cons (htyped .ownerUserId) _)]
    refine ⟨_, rfl, ?_⟩
    refine ⟨rfl, fun flag => ?_, rfl, rfl, rfl, rfl, rfl, rfl, rfl, rfl, rfl, rfl, rfl, rfl⟩
    have hzero : (0#32 &&& flag.bit != 0#32) = false := by
      rw [BitVec.zero_and]
      rfl
    simp only [RawActionCondition.isEnable, RawActionCondition.enableUnless, and_bit_unless,
      RawActionCondition.new, hzero]
    cases flag <;> simp [ActionConditionEnableFlag.column]
  obtain ⟨actionDef, hrun, hfrom⟩ := hread
  refine ⟨actionDef, ?_, hfrom⟩
  change (readActionDef (selectedColumns.map row)).map (·.1) = _
  rw [hrun]
  rfl

/-! ## The row of an action that was added -/

theorem CString.ofString_text (s : CString) : CString.ofString s.text = s := by
  have hall : ∀ c ∈ s.text.toList, (c != '\x00') = true := by
    intro c hc
    rw [bne_iff_ne]
    rintro rfl
    exact s.noNul hc
  have hwhole : (s.text.toList ++ []).takeWhile (· != '\x00') =
      s.text.toList ++ [].takeWhile (· != '\x00') := List.takeWhile_append_of_pos hall
  rw [List.takeWhile_nil, List.append_nil] at hwhole
  apply CString.ext
  change String.ofList (s.text.toList.takeWhile (· != '\x00')) = s.text
  rw [hwhole, String.ofList_toList]

/-- The same conditions are enabled with the same values, and the rest is the same but for the ID
    and the owner. -/
structure SameAction (actionDef actionDef' : RawActionDef) : Prop where
  isEnable : ∀ flag, actionDef'.condition.isEnable flag = actionDef.condition.isEnable flag
  serverId : actionDef.condition.isEnable .serverId →
    actionDef'.condition.serverId = actionDef.condition.serverId
  hostIdInServer : actionDef.condition.isEnable .hostId →
    actionDef'.condition.hostIdInServer = actionDef.condition.hostIdInServer
  hostgroupId : actionDef.condition.isEnable .hostgroupId →
    actionDef'.condition.hostgroupId = actionDef.condition.hostgroupId
  triggerId : actionDef.condition.isEnable .triggerId →
    actionDef'.condition.triggerId = actionDef.condition.triggerId
  triggerStatus : actionDef.condition.isEnable .triggerStatus →
    actionDef'.condition.triggerStatus = actionDef.condition.triggerStatus
  triggerSeverity : actionDef.condition.isEnable .triggerSeverity →
    actionDef'.condition.triggerSeverity = actionDef.condition.triggerSeverity ∧
      actionDef'.condition.triggerSeverityCompType = actionDef.condition.triggerSeverityCompType
  type : actionDef'.type = actionDef.type
  command : actionDef'.command = actionDef.command
  workingDir : actionDef'.workingDir = actionDef.workingDir
  timeout : actionDef'.timeout = actionDef.timeout

theorem insertedRow_of_ne (items : List ItemData) (nextId : Nat) (idx : IdxActions)
    (hidx : idx ≠ .actionId) : insertedRow items nextId idx = items.getD idx.ctorIdx .null :=
  if_neg fun h => hidx h.1

theorem itemToInt_itemInt (val : Int) {isNull : Bool} (hnull : isNull = false) :
    itemToInt (itemInt val isNull) = val := by
  rw [hnull]
  rfl

theorem itemToString_itemString (val : CString) {isNull : Bool} (hnull : isNull = false) :
    itemToString (itemString val isNull) = val := by
  rw [hnull]
  exact val.ofString_text

theorem itemInt_eq_null (val : Int) (isNull : Bool) : itemInt val isNull = .null ↔ isNull = true := by
  cases isNull <;> simp [itemInt]

theorem itemString_eq_null (val : CString) (isNull : Bool) :
    itemString val isNull = .null ↔ isNull = true := by
  cases isNull <;> simp [itemString]

section Inserted

variable (actionDef : RawActionDef) (ownerUserId : UserIdType) (nextId : Nat)

/-- The column of a condition is NULL iff the condition is not enabled. -/
theorem insertedRow_eq_null_iff (flag : ActionConditionEnableFlag) :
    insertedRow (insertArg actionDef ownerUserId) nextId flag.column = .null ↔
      actionDef.condition.isEnable flag = false := by
  rw [insertedRow_of_ne _ _ flag.column (by cases flag <;> exact nofun)]
  have hnull : getNullFlag actionDef flag = true ↔ actionDef.condition.isEnable flag = false := by
    rw [getNullFlag, Bool.not_eq_true']
  rw [← hnull]
  cases flag with
  | serverId => exact itemInt_eq_null _ _
  | hostId => exact itemString_eq_null _ _
  | hostgroupId => exact itemString_eq_null _ _
  | triggerId => exact itemString_eq_null _ _
  | triggerStatus => exact itemInt_eq_null _ _
  | triggerSeverity => exact itemInt_eq_null _ _

/-- What is read of the row is what was inserted. -/
theorem ReadFrom.sameAction {actionDef' : RawActionDef}
    (hread : ReadFrom (insertedRow (insertArg actionDef ownerUserId) nextId) actionDef') :
    SameAction actionDef actionDef' ∧ actionDef'.id = nextId ∧
      actionDef'.ownerUserId = ownerUserId := by
  have hnull {flag : ActionConditionEnableFlag} (henable : actionDef.condition.isEnable flag) :
      getNullFlag actionDef flag = false := by rw [getNullFlag, henable, Bool.not_true]
  refine ⟨⟨fun flag => ?_, fun h => ?_, fun h => ?_, fun h => ?_, fun h => ?_, fun h => ?_,
    fun h => ⟨?_, ?_⟩, ?_, ?_, ?_, ?_⟩, ?_, ?_⟩
  · rw [Bool.eq_iff_iff, hread.isEnable, Ne, insertedRow_eq_null_iff, Bool.not_eq_false]
  · rw [hread.serverId, insertedRow_of_ne _ _ .serverId nofun]
    exact itemToInt_itemInt _ (hnull h)
  · rw [hread.hostIdInServer, insertedRow_of_ne _ _ .hostId nofun]
    exact itemToString_itemString _ (hnull h)
  · rw [hread.hostgroupId, insertedRow_of_ne _ _ .hostGroupId nofun]
    exact itemToString_itemString _ (hnull h)
  · rw [hread.triggerId, insertedRow_of_ne _ _ .triggerId nofun]
    exact itemToString_itemString _ (hnull h)
  · rw [hread.triggerStatus, insertedRow_of_ne _ _ .triggerStatus nofun]
    exact itemToInt_itemInt _ (hnull h)
  · rw [hread.triggerSeverity, insertedRow_of_ne _ _ .triggerSeverity nofun]
    exact itemToInt_itemInt _ (hnull h)
  · rw [hread.triggerSeverityCompType, insertedRow_of_ne _ _ .triggerSeverityCompType nofun]
    exact itemToInt_itemInt _ (hnull h)
  · rw [hread.type, insertedRow_of_ne _ _ .actionType nofun]
    rfl
  · rw [hread.command, insertedRow_of_ne _ _ .command nofun]
    exact itemToString_itemString _ rfl
  · rw [hread.workingDir, insertedRow_of_ne _ _ .workingDir nofun]
    exact itemToString_itemString _ rfl
  · rw [hread.timeout, insertedRow_of_ne _ _ .timeout nofun]
    rfl
  · rw [hread.id]
    rfl
  · rw [hread.ownerUserId, insertedRow_of_ne _ _ .ownerUserId nofun]
    rfl

end Inserted

/-! ## The list -/

/-- Reading that never fails gives the readings of all elements. -/
theorem mapM_of_isSome {α β : Type} {f : α → Option β} : ∀ {l : List α},
    (∀ x ∈ l, (f x).isSome) → ∃ l', l.mapM f = some l' ∧ ∀ y, y ∈ l' ↔ ∃ x ∈ l, f x = some y := by
  intro l
  induction l with
  | nil =>
    intro _
    exact ⟨[], rfl, by simp⟩
  | cons x l ih =>
    intro hsome
    obtain ⟨l', hl', hmem⟩ := ih fun x' hx' => hsome x' (List.mem_cons_of_mem x hx')
    obtain ⟨y, hy⟩ := Option.isSome_iff_exists.mp (hsome x List.mem_cons_self)
    refine ⟨y :: l', ?_, fun z => ?_⟩
    · rw [List.mapM_cons, hy, hl']
      rfl
    · simp [hmem, hy, eq_comm]

theorem ActionRows.getActionList_spec (t : ActionRows) (validator : ActionValidator)
    (option : ActionsQueryOption) (hostgroupIdList : List HostgroupIdType) :
    ∃ list, t.getActionList validator option hostgroupIdList = some list ∧
      ∀ actionDef, actionDef ∈ list ↔ validator.isValidRaw actionDef = true ∧ ∃ row ∈ t.rows,
        option.rowTest hostgroupIdList row.value = true ∧
          readActionDef.run' (selectedColumns.map row) = some actionDef := by
  let grpList := (t.rows.filter fun row =>
    selects (option.getCondition hostgroupIdList) row.value).map fun row => selectedColumns.map row
  obtain ⟨list, hlist, hmem⟩ : ∃ list,
      grpList.mapM (fun items => readActionDef.run' items) = some list ∧
        ∀ actionDef, actionDef ∈ list ↔
          ∃ items ∈ grpList, readActionDef.run' items = some actionDef := by
    apply mapM_of_isSome
    intro items hitems
    obtain ⟨row, hrow, rfl⟩ := List.mem_map.mp hitems
    obtain ⟨actionDef, hrun, -⟩ := readActionDef_spec (t.typed row (List.mem_filter.mp hrow).1)
    rw [hrun]
    rfl
  refine ⟨list.filter validator.isValidRaw, ?_, fun actionDef => ?_⟩
  · unfold getActionList
    change Option.bind (grpList.mapM fun items => readActionDef.run' items) _ = _
    rw [hlist]
    rfl
  · rw [List.mem_filter, hmem, and_comm]
    refine and_congr_right fun _ => ?_
    simp only [grpList, List.mem_map, List.mem_filter, option.selects_getCondition]
    constructor
    · rintro ⟨items, ⟨row, ⟨hrow, htest⟩, rfl⟩, hrun⟩
      exact ⟨row, hrow, htest, hrun⟩
    · rintro ⟨row, hrow, htest, hrun⟩
      exact ⟨_, ⟨row, ⟨hrow, htest⟩, rfl⟩, hrun⟩

/-! ## Who is shown an action -/

namespace ActionsQueryOption

theorem value_eq (row : ActionRow) : row.value "action_type" = itemValue (row .actionType) ∧
    row.value "owner_user_id" = itemValue (row .ownerUserId) := ⟨rfl, rfl⟩

theorem eq_int_of_itemValue {item : ItemData} {n : Int} (hitem : itemValue item = .int n) :
    item = .int n := by
  cases item with
  | null => cases hitem
  | int m =>
    cases hitem
    rfl
  | string s => cases hitem

theorem rowIsUserAction_iff {row : String → Value} : rowIsUserAction row = true ↔
    ∃ n, row "action_type" = .int n ∧ 0 ≤ n ∧ n < ActionType.incidentSender.value := by
  unfold rowIsUserAction
  cases row "action_type" <;> simp [compareValue]

theorem rowIsOfType_iff {row : String → Value} {type : ActionType} :
    rowIsOfType type row = true ↔ row "action_type" = .int type.value := by
  rw [rowIsOfType, beq_iff_eq]

variable (option : ActionsQueryOption) {row : String → Value}

theorem rowIsOwn_iff (hall : option.privilege.has .getAllAction = false) :
    option.rowIsOwn row = true ↔ row "owner_user_id" = .int option.userId := by
  rw [rowIsOwn, hall, Bool.false_or, beq_iff_eq]

/-- Without the privilege for all actions a row is the caller's own and no incident sender, or it
    is an incident sender and the caller has the privilege for these. -/
theorem allowsRow_cases (hall : option.privilege.has .getAllAction = false)
    (hrow : option.allowsRow row = true) :
    (∃ n, row "action_type" = .int n ∧ n ≠ ActionType.incidentSender.value ∧
        row "owner_user_id" = .int option.userId) ∨
      option.privilege.has .getAllIncidentSettings = true ∧
        row "action_type" = .int ActionType.incidentSender.value := by
  have hown : option.rowIsOwn row = true ↔ row "owner_user_id" = .int option.userId :=
    option.rowIsOwn_iff hall
  have huser (h : rowIsUserAction row = true) : ∃ n, row "action_type" = .int n ∧
      n ≠ ActionType.incidentSender.value := by
    obtain ⟨n, hn, -, hlt⟩ := rowIsUserAction_iff.mp h
    exact ⟨n, hn, Int.ne_of_lt hlt⟩
  unfold allowsRow at hrow
  rw [hall] at hrow
  cases htype : option.type with
  | userDefined =>
    rw [htype, Bool.and_eq_true, hown] at hrow
    obtain ⟨n, hn, hne⟩ := huser hrow.2
    exact .inl ⟨n, hn, hne, hrow.1⟩
  | all =>
    simp only [htype, Bool.and_false, Bool.false_or, Bool.or_eq_true, Bool.and_eq_true, hown,
      rowIsOfType_iff] at hrow
    rcases hrow with ⟨howner, huserAction⟩ | hincident
    · obtain ⟨n, hn, hne⟩ := huser huserAction
      exact .inl ⟨n, hn, hne, howner⟩
    · exact .inr hincident
  | command =>
    rw [htype, Bool.and_eq_true, hown, rowIsOfType_iff] at hrow
    exact .inl ⟨_, hrow.2, by decide, hrow.1⟩
  | resident =>
    rw [htype, Bool.and_eq_true, hown, rowIsOfType_iff] at hrow
    exact .inl ⟨_, hrow.2, by decide, hrow.1⟩
  | incidentSender =>
    rw [htype, Bool.and_eq_true, rowIsOfType_iff] at hrow
    exact .inr hrow

/-- The query asks for actions of a type. -/
def asksForType (type : Int) : Prop :=
  option.type = .all ∨ option.type.value = type ∨
    option.type = .userDefined ∧ 0 ≤ type ∧ type < ActionType.incidentSender.value

/-- A query of the owner shows an action of a type that it asks for, if nobody but the system owns
    incident senders. -/
theorem allowsRow_of_owner {type : Int}
    (htype : type = ActionType.command.value ∨ type = ActionType.resident.value ∨
      type = ActionType.incidentSender.value)
    (hasks : option.asksForType type) (hrowType : row "action_type" = .int type)
    (howner : row "owner_user_id" = .int option.userId)
    (hincident : type = ActionType.incidentSender.value →
      option.privilege = OperationPrivilege.allPrivileges) : option.allowsRow row = true := by
  have hown : option.rowIsOwn row = true := by
    rw [rowIsOwn, howner, beq_self_eq_true, Bool.or_true]
  have huser (hlt : 0 ≤ type ∧ type < ActionType.incidentSender.value) :
      rowIsUserAction row = true := rowIsUserAction_iff.mpr ⟨type, hrowType, hlt.1, hlt.2⟩
  have hof (t : ActionType) (ht : t.value = type) : rowIsOfType t row = true := by
    rw [rowIsOfType_iff, hrowType, ht]
  have hprivilege (h : type = ActionType.incidentSender.value) :
      option.privilege.has .getAllIncidentSettings = true := by
    rw [hincident h]
    decide
  unfold allowsRow
  rcases hasks with hrequest | hrequest | ⟨hrequest, hlt⟩
  · rw [hrequest]
    rcases htype with h | h | h
    · rw [hown, huser (by rw [h]; decide)]
      simp
    · rw [hown, huser (by rw [h]; decide)]
      simp
    · rw [hprivilege h, hof .incidentSender h.symm]
      simp
  · cases hkind : option.type with
    | userDefined =>
      rw [hkind] at hrequest
      rcases htype with h | h | h <;> rw [h] at hrequest <;> exact absurd hrequest (by decide)
    | all =>
      rw [hkind] at hrequest
      rcases htype with h | h | h <;> rw [h] at hrequest <;> exact absurd hrequest (by decide)
    | command =>
      rw [hkind] at hrequest
      change (option.rowIsOwn row && rowIsOfType .command row) = true
      rw [hown, hof .command hrequest]
      rfl
    | resident =>
      rw [hkind] at hrequest
      change (option.rowIsOwn row && rowIsOfType .resident row) = true
      rw [hown, hof .resident hrequest]
      rfl
    | incidentSender =>
      rw [hkind] at hrequest
      rw [hprivilege hrequest.symm, hof .incidentSender hrequest]
      rfl
  · rw [hrequest, hown, huser hlt]
    rfl

end ActionsQueryOption

namespace ActionRows

open ActionsQueryOption

/-- What is listed to a caller without the privilege for all actions. -/
theorem visible_of_mem_getActionList {t : ActionRows} {validator : ActionValidator}
    {option : ActionsQueryOption} {hostgroupIdList : List HostgroupIdType} {list : List RawActionDef}
    (hlist : t.getActionList validator option hostgroupIdList = some list)
    (hall : option.privilege.has .getAllAction = false) {actionDef : RawActionDef}
    (hmem : actionDef ∈ list) :
    (actionDef.type ≠ ActionType.incidentSender.value → actionDef.ownerUserId = option.userId) ∧
      (option.privilege.has .getAllIncidentSettings = false →
        actionDef.type ≠ ActionType.incidentSender.value) := by
  obtain ⟨list', hlist', hspec⟩ := t.getActionList_spec validator option hostgroupIdList
  rw [hlist] at hlist'
  cases hlist'
  obtain ⟨-, row, hrow, htest, hrun⟩ := (hspec actionDef).mp hmem
  obtain ⟨actionDef', hrun', hread⟩ := readActionDef_spec (t.typed row hrow)
  rw [hrun] at hrun'
  cases hrun'
  rw [rowTest, allowsIdOf, Bool.and_eq_true, Bool.and_eq_true] at htest
  have hcases := option.allowsRow_cases hall htest.1.1
  rw [(value_eq row).1, (value_eq row).2] at hcases
  rw [hread.type, hread.ownerUserId]
  rcases hcases with ⟨n, hn, hne, howner⟩ | ⟨hincident, hn⟩
  · rw [eq_int_of_itemValue hn, eq_int_of_itemValue howner]
    exact ⟨fun _ => rfl, fun _ => hne⟩
  · rw [eq_int_of_itemValue hn]
    refine ⟨fun hne => absurd rfl hne, fun hnot => ?_⟩
    rw [hincident] at hnot
    cases hnot

/-- An action that was added is listed to its owner as it was given, and what is listed to a caller
    without the privilege for all actions is the caller's own, or an incident sender if the caller
    has the privilege for these. -/
theorem getActionList_addAction (t : ActionRows) (validator : ActionValidator)
    (hostgroupIdList : List HostgroupIdType) :
    (∀ (actionDef : RawActionDef) (userId : UserIdType) (privilege : OperationPrivilege)
        (option : ActionsQueryOption),
      (t.addAction actionDef userId privilege).1 = .ok →
      (actionDef.type = ActionType.command.value ∨ actionDef.type = ActionType.resident.value ∨
        actionDef.type = ActionType.incidentSender.value) →
      validator.isValidRaw { actionDef with ownerUserId := actionDef.owner userId } = true →
      option.userId = actionDef.owner userId →
      (option.userId = userIdSystem → option.privilege = OperationPrivilege.allPrivileges) →
      option.asksForType actionDef.type → option.idList = [] → option.eventInfo = none →
      ∃ list, (t.addAction actionDef userId privilege).2.2.getActionList validator option
          hostgroupIdList = some list ∧
        ∃ listed ∈ list, SameAction actionDef listed ∧
          listed.id = (t.addAction actionDef userId privilege).2.1.id ∧
          listed.ownerUserId = option.userId) ∧
    ∀ (option : ActionsQueryOption) (list : List RawActionDef),
      t.getActionList validator option hostgroupIdList = some list →
      option.privilege.has .getAllAction = false → ∀ actionDef ∈ list,
        (actionDef.type ≠ ActionType.incidentSender.value →
            actionDef.ownerUserId = option.userId) ∧
          (option.privilege.has .getAllIncidentSettings = false →
            actionDef.type ≠ ActionType.incidentSender.value) := by
  refine ⟨?_, fun option list hlist hall actionDef hmem =>
    visible_of_mem_getActionList hlist hall hmem⟩
  intro actionDef userId privilege option hok htype hvalid howner hsystem hasks hids hevent
  have hcheck : checkPrivilegeForAdd userId privilege actionDef = .ok := by
    unfold addAction at hok
    by_contra hne
    rw [if_pos hne] at hok
    exact hne hok
  have hadd : t.addAction actionDef userId privilege = (.ok, { actionDef with id := t.nextId },
      (t.addAction actionDef userId privilege).2.2) ∧
      insertedRow (insertArg actionDef (actionDef.owner userId)) t.nextId ∈
        (t.addAction actionDef userId privilege).2.2.rows := by
    unfold addAction
    rw [if_neg (not_not.mpr hcheck)]
    exact ⟨rfl, List.mem_append.mpr (.inr (List.mem_singleton.mpr rfl))⟩
  have hid : (t.addAction actionDef userId privilege).2.1.id = t.nextId := by rw [hadd.1]
  obtain ⟨list, hlist, hspec⟩ := (t.addAction actionDef userId privilege).2.2.getActionList_spec
    validator option hostgroupIdList
  obtain ⟨listed, hrun, hread⟩ := readActionDef_spec
    (accepts_insertedRow actionDef (actionDef.owner userId) t.nextId)
  obtain ⟨hsame, hlistedId, hlistedOwner⟩ := hread.sameAction
  refine ⟨list, hlist, listed, (hspec listed).mpr ⟨?_, _, hadd.2, ?_, hrun⟩, hsame, ?_, ?_⟩
  · rw [ActionValidator.isValidRaw, hlistedOwner, hsame.type, hsame.command]
    exact hvalid
  · have hallows : option.allowsRow
        (insertedRow (insertArg actionDef (actionDef.owner userId)) t.nextId).value = true := by
      refine option.allowsRow_of_owner htype hasks ?_ ?_ fun hincident => hsystem ?_
      · rw [(value_eq _).1, insertedRow_of_ne _ _ .actionType nofun]
        rfl
      · rw [(value_eq _).2, insertedRow_of_ne _ _ .ownerUserId nofun, howner]
        rfl
      · rw [howner, RawActionDef.owner, if_pos hincident]
    rw [rowTest, allowsIdOf, hallows, hids, hevent]
    rfl
  · rw [hlistedId, hid]
  · rw [hlistedOwner, howner]

/-- A user without privileges but for creating actions. -/
def onlyCreates : OperationPrivilege := ⟨OperationPrivilege.makeFlag .createAction⟩

def notifyOfHost : RawActionDef where
  id := 0
  condition := { RawActionCondition.new with
    enableBits := ActionConditionEnableFlag.hostId.bit, hostIdInServer := .ofString "5" }
  type := ActionType.command.value
  workingDir := emptyText
  command := .ofString "/usr/bin/notify"
  timeout := 0
  ownerUserId := 0

def ofUser7 : ActionsQueryOption where
  userId := 7
  privilege := onlyCreates
  eventInfo := none
  type := .userDefined
  idList := []

theorem getActionList_addAction_notifyOfHost :
    (∃ list, (ActionRows.addAction ⟨[], 1, nofun⟩ notifyOfHost 7 onlyCreates).2.2.getActionList
        ⟨{7}, {}⟩ ofUser7 [] = some list ∧
      ∃ listed ∈ list, SameAction notifyOfHost listed ∧ listed.id = 1 ∧ listed.ownerUserId = 7) ∧
    ∀ listed ∈ ([] : List RawActionDef), listed.type ≠ ActionType.incidentSender.value →
      listed.ownerUserId = 7 := by
  have hspec := getActionList_addAction ⟨[], 1, nofun⟩ ⟨{7}, {}⟩ []
  refine ⟨hspec.1 notifyOfHost 7 onlyCreates ofUser7 (by decide) (.inl rfl) (by decide) (by decide)
    (by decide) (.inr (.inr ⟨rfl, by decide, by decide⟩)) rfl rfl, fun listed hlisted => ?_⟩
  exact (hspec.2 ofUser7 [] rfl (by decide) listed hlisted).1

end ActionRows

/-! ## Rows with their conditions as options -/

/-- The columns of an action of the table. -/
def ActionDef.row (actionDef : ActionDef) : ActionRow
  | .actionId => .int actionDef.id
  | .serverId => actionDef.condition.serverId.elim .null .int
  | .hostId => actionDef.condition.hostIdInServer.elim .null (.string ·.text)
  | .hostGroupId => actionDef.condition.hostgroupId.elim .null (.string ·.text)
  | .triggerId => actionDef.condition.triggerId.elim .null (.string ·.text)
  | .triggerStatus => actionDef.condition.triggerStatus.elim .null .int
  | .triggerSeverity => actionDef.condition.triggerSeverity.elim .null (.int ·.1)
  | .triggerSeverityCompType =>
      actionDef.condition.triggerSeverity.elim .null (.int ·.2.value)
  | .actionType => .int actionDef.type.value
  | .command => .string actionDef.command.text
  | .workingDir => .string actionDef.workingDir.text
  | .timeout => .int actionDef.timeout
  | .ownerUserId => .int actionDef.ownerUserId

/-- A condition sees the same of both. -/
theorem ActionDef.value_row (actionDef : ActionDef) (column : String) :
    actionDef.row.value column = actionDef.value column := by
  have helim {α : Type} (o : Option α) (f : α → ItemData) :
      itemValue (o.elim .null f) = o.elim .null fun x => itemValue (f x) := by cases o <;> rfl
  unfold ActionDef.value
  split
  case h_2 => exact helim _ _
  case h_3 => exact helim _ _
  case h_4 => exact helim _ _
  case h_5 => exact helim _ _
  case h_6 => exact helim _ _
  case h_7 => exact helim _ _
  case h_8 => exact helim _ _
  case h_14 =>
    have hnone : IdxActions.all.find? (·.columnName == column) = none := by
      rw [List.find?_eq_none]
      intro idx _ hname
      rw [beq_iff_eq] at hname
      cases idx <;> simp_all [IdxActions.columnName]
    rw [ActionRow.value, hnone]
  all_goals rfl

end Hatohol

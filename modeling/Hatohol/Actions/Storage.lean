import Hatohol.Actions.Conditions
import Hatohol.DBAgent

/-!
# Actions in the columns of their table

How an action is written to the table and read back (server/src/DBTablesAction.cc:427-469, 520-600).
A condition that is not enabled is written as NULL, and enabled again where the column is not
NULL; the stream that an action is read from knows the columns by their position only.
-/

namespace Hatohol

open Sql DBTermCodec DBAgent

/-! ## Actions as the callers have them -/

inductive ActionConditionEnableFlag where
  | serverId
  | hostId
  | hostgroupId
  | triggerId
  | triggerStatus
  | triggerSeverity
  deriving DecidableEq, Repr

def ActionConditionEnableFlag.bit (flag : ActionConditionEnableFlag) : BitVec 32 :=
  1#32 <<< flag.ctorIdx

/-- `ActionCondition` (DBTablesAction.h:56-98) with its enable bits. The enumerations are the
    numbers that the columns hold. -/
structure RawActionCondition where
  enableBits : BitVec 32
  serverId : ServerIdType
  hostIdInServer : LocalHostIdType
  hostgroupId : HostgroupIdType
  triggerId : CString
  triggerStatus : Int
  triggerSeverity : Int
  triggerSeverityCompType : Int
  deriving DecidableEq, Repr

namespace RawActionCondition

/-- As the constructor leaves it. The numbers that it does not set are overwritten wherever a
    condition is read. -/
def new : RawActionCondition where
  enableBits := 0#32
  serverId := 0
  hostIdInServer := emptyText
  hostgroupId := emptyText
  triggerId := emptyText
  triggerStatus := 0
  triggerSeverity := 0
  triggerSeverityCompType := ComparisonType.invalid.value

def enable (condition : RawActionCondition) (flag : ActionConditionEnableFlag) :
    RawActionCondition :=
  { condition with enableBits := condition.enableBits ||| flag.bit }

def isEnable (condition : RawActionCondition) (flag : ActionConditionEnableFlag) : Bool :=
  condition.enableBits &&& flag.bit != 0#32

end RawActionCondition

/-- `ActionDef` (DBTablesAction.h:100-150) with its condition as it is before it is stored. -/
structure RawActionDef where
  id : ActionIdType
  condition : RawActionCondition
  type : Int
  workingDir : CString
  command : CString
  timeout : Int
  ownerUserId : UserIdType
  deriving DecidableEq, Repr

/-- The owner is the caller, or anyone if the system calls. An incident sender is the system's. -/
def RawActionDef.owner (actionDef : RawActionDef) (userId : UserIdType) : UserIdType :=
  let ownerUserId := if userId = userIdSystem then actionDef.ownerUserId else userId
  if actionDef.type = ActionType.incidentSender.value then userIdSystem else ownerUserId

/-- (DBTablesAction.cc:1464-1474) -/
def ActionValidator.isValidRaw (validator : ActionValidator) (actionDef : RawActionDef) : Bool :=
  validator.isValidActionOwnerId actionDef.ownerUserId &&
    (actionDef.type != ActionType.incidentSender.value ||
      match ActionDef.scanInt actionDef.command.text with
      | none => false
      | some trackerId => validator.incidentTrackerIdSet.contains trackerId)

/-! ## The table -/

/-- The columns in the order of the table (DBTablesAction.cc:208-223). -/
inductive IdxActions where
  | actionId
  | serverId
  | hostId
  | hostGroupId
  | triggerId
  | triggerStatus
  | triggerSeverity
  | triggerSeverityCompType
  | actionType
  | command
  | workingDir
  | timeout
  | ownerUserId
  deriving DecidableEq, Repr

namespace IdxActions

def columnName : IdxActions → String
  | actionId => "action_id"
  | serverId => "server_id"
  | hostId => "host_id_in_server"
  | hostGroupId => "host_group_id"
  | triggerId => "trigger_id"
  | triggerStatus => "trigger_status"
  | triggerSeverity => "trigger_severity"
  | triggerSeverityCompType => "trigger_severity_comp_type"
  | actionType => "action_type"
  | command => "command"
  | workingDir => "working_dir"
  | timeout => "timeout"
  | ownerUserId => "owner_user_id"

def all : List IdxActions :=
  [actionId, serverId, hostId, hostGroupId, triggerId, triggerStatus, triggerSeverity,
    triggerSeverityCompType, actionType, command, workingDir, timeout, ownerUserId]

/-- The columns of the type VARCHAR. -/
def isText : IdxActions → Bool
  | hostId | hostGroupId | triggerId | command | workingDir => true
  | _ => false

end IdxActions

abbrev ActionRow := IdxActions → ItemData

/-- A column holds a value of its type or NULL. -/
def accepts (isText : Bool) : ItemData → Bool
  | .null => true
  | .int _ => !isText
  | .string _ => isText

def itemValue : ItemData → Value
  | .null => .null
  | .int n => .int n
  | .string s => .str s

/-- What a condition sees of a row. -/
def ActionRow.value (row : ActionRow) (column : String) : Value :=
  match IdxActions.all.find? (·.columnName == column) with
  | some idx => itemValue (row idx)
  | none => .null

/-- `nextId` is the ID that the database gives to the next action. -/
structure ActionRows where
  rows : List ActionRow
  nextId : Nat
  typed : ∀ row ∈ rows, ∀ idx : IdxActions, accepts idx.isText (row idx) = true

/-! ## Writing -/

/-- (DBTablesAction.cc:917-924) Whether the column is NULL. -/
def getNullFlag (actionDef : RawActionDef) (enableFlag : ActionConditionEnableFlag) : Bool :=
  !actionDef.condition.isEnable enableFlag

def itemInt (val : Int) (isNull : Bool) : ItemData := if isNull then .null else .int val

def itemString (val : CString) (isNull : Bool) : ItemData :=
  if isNull then .null else .string val.text

/-- The items of the insertion, in the order in which they are added. The ID is
    AUTO_INCREMENT_VALUE. -/
def insertArg (actionDef : RawActionDef) (ownerUserId : UserIdType) : List ItemData :=
  [itemInt 0 false,
    itemInt actionDef.condition.serverId (getNullFlag actionDef .serverId),
    itemString actionDef.condition.hostIdInServer (getNullFlag actionDef .hostId),
    itemString actionDef.condition.hostgroupId (getNullFlag actionDef .hostgroupId),
    itemString actionDef.condition.triggerId (getNullFlag actionDef .triggerId),
    itemInt actionDef.condition.triggerStatus (getNullFlag actionDef .triggerStatus),
    itemInt actionDef.condition.triggerSeverity (getNullFlag actionDef .triggerSeverity),
    itemInt actionDef.condition.triggerSeverityCompType (getNullFlag actionDef .triggerSeverity),
    itemInt actionDef.type false,
    itemString actionDef.command false,
    itemString actionDef.workingDir false,
    itemInt actionDef.timeout false,
    itemInt ownerUserId false]

/-- The row that the database makes of the items, the n-th of which is for the n-th column. -/
def insertedRow (items : List ItemData) (nextId : Nat) : ActionRow := fun idx =>
  let item := items.getD idx.ctorIdx .null
  if idx = .actionId ∧ isAutoIncrementValue item then .int nextId else item

/-- (DBTablesAction.cc:1055-1073) -/
def checkPrivilegeForAdd (userId : UserIdType) (privilege : OperationPrivilege)
    (actionDef : RawActionDef) : ActionError :=
  if userId = invalidUserId then .invalidUser
  else if actionDef.type = ActionType.incidentSender.value then
    if privilege.has .createIncidentSetting then .ok else .noPrivilege
  else if !privilege.has .createAction then .noPrivilege
  else .ok

theorem accepts_itemInt (val : Int) (isNull : Bool) : accepts false (itemInt val isNull) = true := by
  cases isNull <;> rfl

theorem accepts_itemString (val : CString) (isNull : Bool) :
    accepts true (itemString val isNull) = true := by
  cases isNull <;> rfl

theorem accepts_insertedRow (actionDef : RawActionDef) (ownerUserId : UserIdType) (nextId : Nat)
    (idx : IdxActions) :
    accepts idx.isText (insertedRow (insertArg actionDef ownerUserId) nextId idx) = true := by
  cases idx <;> first
    | exact accepts_itemInt _ _
    | exact accepts_itemString _ _
    | rfl

namespace ActionRows

/-- (DBTablesAction.cc:427-469) The ID is stored in the argument. -/
def addAction (t : ActionRows) (actionDef : RawActionDef) (userId : UserIdType)
    (privilege : OperationPrivilege) : ActionError × RawActionDef × ActionRows :=
  let err := checkPrivilegeForAdd userId privilege actionDef
  if err ≠ .ok then (err, actionDef, t)
  else
    let ownerUserId := actionDef.owner userId
    (.ok, { actionDef with id := t.nextId },
      { rows := t.rows ++ [insertedRow (insertArg actionDef ownerUserId) t.nextId]
        nextId := t.nextId + 1
        typed := by
          intro row hrow
          rcases List.mem_append.mp hrow with hrow | hrow
          · exact t.typed row hrow
          · rw [List.mem_singleton.mp hrow]
            exact accepts_insertedRow actionDef ownerUserId t.nextId })

end ActionRows

/-! ## Reading -/

/-- The items that are left of an `ItemGroupStream`. A value of another type is an exception. -/
abbrev ItemGroupStream := StateT (List ItemData) Option

namespace ItemGroupStream

/-- A NULL is the number 0 (SQLUtils.cc:38-43). -/
def readInt : ItemGroupStream Int
  | .int n :: items => some (n, items)
  | .null :: items => some (0, items)
  | _ => none

/-- A NULL is the empty text. -/
def readString : ItemGroupStream CString
  | .string s :: items => some (.ofString s, items)
  | .null :: items => some (emptyText, items)
  | _ => none

/-- The item at the position, which does not move. -/
def getItem : ItemGroupStream ItemData := fun items => items.head?.map fun item => (item, items)

end ItemGroupStream

open ItemGroupStream

def enableUnlessNull (flag : ActionConditionEnableFlag) (condition : RawActionCondition) :
    ItemGroupStream RawActionCondition := do
  let item ← getItem
  pure (if item = .null then condition else condition.enable flag)

/-- The loop body of `getActionList` (DBTablesAction.cc:556-594). -/
def readActionDef : ItemGroupStream RawActionDef := do
  let id ← readInt
  let condition ← enableUnlessNull .serverId .new
  let condition := { condition with serverId := ← readInt }
  let condition ← enableUnlessNull .hostId condition
  let condition := { condition with hostIdInServer := ← readString }
  let condition ← enableUnlessNull .hostgroupId condition
  let condition := { condition with hostgroupId := ← readString }
  let condition ← enableUnlessNull .triggerId condition
  let condition := { condition with triggerId := ← readString }
  let condition ← enableUnlessNull .triggerStatus condition
  let condition := { condition with triggerStatus := ← readInt }
  let condition ← enableUnlessNull .triggerSeverity condition
  let condition := { condition with triggerSeverity := ← readInt }
  let condition := { condition with triggerSeverityCompType := ← readInt }
  let type ← readInt
  let command ← readString
  let workingDir ← readString
  let timeout ← readInt
  let ownerUserId ← readInt
  pure { id, condition, type, workingDir, command, timeout, ownerUserId }

/-- The columns that `getActionList` selects, in its order (DBTablesAction.cc:524-536). -/
def selectedColumns : List IdxActions :=
  [.actionId, .serverId, .hostId, .hostGroupId, .triggerId, .triggerStatus, .triggerSeverity,
    .triggerSeverityCompType, .actionType, .command, .workingDir, .timeout, .ownerUserId]

/-- (DBTablesAction.cc:520-600) -/
def ActionRows.getActionList (t : ActionRows) (validator : ActionValidator)
    (option : ActionsQueryOption) (hostgroupIdList : List HostgroupIdType) :
    Option (List RawActionDef) := do
  let condition := option.getCondition hostgroupIdList
  let grpList := (t.rows.filter fun row => selects condition row.value).map fun row =>
    selectedColumns.map row
  let actionDefList ← grpList.mapM fun items => (readActionDef.run' items)
  pure (actionDefList.filter validator.isValidRaw)

end Hatohol

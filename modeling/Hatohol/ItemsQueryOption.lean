import Hatohol.TriggersQueryOption

/-!
# ItemsQueryOption

The condition of a query for items (server/src/DBTablesMonitoring.cc:1750-1870): the condition of
the host resource query and behind it filters by the status of the host, the item and a category.
-/

namespace Hatohol

open Sql DBTermCodec

abbrev ItemIdType := CString

/-- ALL_ITEMS -/
def allItems : ItemIdType := ⟨"*", noNul_star⟩

inductive ItemInfoValueType where
  | unknown
  | float
  | integer
  | string
  deriving DecidableEq, Repr

def ItemInfoValueType.value : ItemInfoValueType → Int
  | .unknown => 0
  | .float => 1
  | .integer => 2
  | .string => 3

/-- A row of the items table. -/
structure ItemRow where
  globalId : Nat
  serverId : ServerIdType
  id : ItemIdType
  globalHostId : HostIdType
  hostIdInServer : LocalHostIdType
  brief : CString
  lastValueTime : Timespec
  lastValue : CString
  prevValue : CString
  valueType : ItemInfoValueType
  unit : CString
  deriving DecidableEq, Repr

/-- An item with the names of its categories. -/
structure ItemInfo extends ItemRow where
  categoryNames : List CString
  deriving DecidableEq, Repr

/-- What is joined to an item: a category, the status of the host and a host group, each if there is
    one. -/
structure ItemJoin where
  categoryName : Option CString
  hostStatus : Option HostStatus
  member : Option HostgroupMember
  deriving DecidableEq, Repr

def ItemRow.value (item : ItemRow) (joined : ItemJoin) : String → Value
  | "global_id" | "items.global_id" => .int item.globalId
  | "server_id" | "items.server_id" => .int item.serverId
  | "id" | "items.id" => .str item.id.text
  | "global_host_id" | "items.global_host_id" => .int item.globalHostId
  | "host_id_in_server" | "items.host_id_in_server" => .str item.hostIdInServer.text
  | "brief" | "items.brief" => .str item.brief.text
  | "last_value_time_sec" | "items.last_value_time_sec" => .int item.lastValueTime.sec
  | "last_value_time_ns" | "items.last_value_time_ns" => .int item.lastValueTime.nsec
  | "last_value" | "items.last_value" => .str item.lastValue.text
  | "prev_value" | "items.prev_value" => .str item.prevValue.text
  | "value_type" | "items.value_type" => .int item.valueType.value
  | "unit" | "items.unit" => .str item.unit.text
  | "item_categories.name" => joined.categoryName.elim .null (.str ·.text)
  | "server_host_def.status" => joined.hostStatus.elim .null (.int ·.value)
  | "hostgroup_member.host_group_id" => joined.member.elim .null (.str ·.hostgroupIdInServer.text)
  | _ => .null

/-! The columns of the items table that the conditions name. -/

def idxItemsId : Fin tableProfileItems.numColumns := ⟨2, by decide⟩

def itemsColumnName (idx : Fin tableProfileItems.numColumns) : String :=
  Column.columnName ⟨tableProfileItems, idx⟩

structure ItemsQueryOption where
  base : HostResourceQueryOption
  isItems : base.synapse = synapseItemsQueryOption
  targetId : ItemIdType
  itemCategoryName : CString
  excludeFlags : ExcludeFlags

namespace ItemsQueryOption

/-- The option as its constructor leaves it (DBTablesMonitoring.cc:1762-1771). -/
def new (context : DataQueryContext) : ItemsQueryOption where
  base := .new synapseItemsQueryOption context
  isItems := rfl
  targetId := allItems
  itemCategoryName := emptyText
  excludeFlags := noExcludeHost

def setTableNameAlways (o : ItemsQueryOption) : ItemsQueryOption :=
  { o with base := { o.base with tableNameAlways := true } }

def shouldExcludeInvalidHost (o : ItemsQueryOption) : Bool :=
  o.excludeFlags &&& excludeInvalidHost != 0#32

/-- The filters of the option's own, in the order of the source
    (DBTablesMonitoring.cc:1811-1840). -/
def addOwnConditions (o : ItemsQueryOption) (condition : String) : String :=
  let condition := if o.shouldExcludeInvalidHost then
      addAnd condition (Column.getFullColumnName ⟨tableProfileServerHostDef,
        idxHostServerHostDefHostStatus⟩ ++
        "!=" ++ toString HostStatus.removed.value)
    else condition
  let condition := if o.targetId ≠ allItems then
      appendAnd condition
        (Column.getFullColumnName ⟨tableProfileItems, idxItemsId⟩ ++ "=" ++ encString o.targetId)
    else condition
  if o.itemCategoryName ≠ emptyText then
    appendAnd condition (Column.getFullColumnName ⟨tableProfileItemCategories, ⟨2, by decide⟩⟩ ++
      "=" ++ encString o.itemCategoryName)
  else condition

/-- (DBTablesMonitoring.cc:1804-1843) -/
def getCondition (o : ItemsQueryOption) : Except HatoholException String := do
  let condition ← o.base.getCondition
  pure (if isAlwaysFalseCondition condition then condition else o.addOwnConditions condition)

end ItemsQueryOption

end Hatohol

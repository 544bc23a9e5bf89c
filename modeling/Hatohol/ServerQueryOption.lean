import Hatohol.DBTablesUser
import Hatohol.HostResource.Form

/-!
# ServerQueryOption

The condition of a query for the monitoring servers (server/src/DBTablesConfig.cc:825-908). The rows
carry the passwords of the servers.
-/

namespace Hatohol

open Sql DBTermCodec

def tableProfileServers : TableProfile where
  name := "servers"
  columnNames := ["id", "type", "hostname", "ip_address", "nickname", "port",
    "polling_interval_sec", "retry_interval_sec", "user_name", "password", "db_name", "base_url",
    "extended_info"]
  isName_name := by decide
  isName_columns := by decide

def idxServersId : Fin tableProfileServers.numColumns := ⟨0, by decide⟩

/-- (DBTablesUser.cc:938-968) -/
def getServerHostGrpSetMap (accessList : List AccessRow) (userId : UserIdType) :
    ServerHostGrpSetMap :=
  (accessList.filter (·.info.userId == userId)).foldl (fun srvHostGrpSetMap access =>
    srvHostGrpSetMap.insert access.info.serverId
      ((srvHostGrpSetMap.getD access.info.serverId ∅).insert access.info.hostgroupId)) ∅

def serverIdCondition (serverId : ServerIdType) (needTableName : Bool) : String :=
  Column.nameIn needTableName ⟨tableProfileServers, idxServersId⟩ ++ "=" ++ encInt serverId

structure ServerQueryOption where
  userId : UserIdType
  privilege : OperationPrivilege
  tableNameAlways : Bool
  targetServerId : ServerIdType

/-- A row of `servers`, or of a join with it. -/
structure ServerRow where
  id : ServerIdType
  column : String → Value
  column_id : ∀ full, column (Column.nameIn full ⟨tableProfileServers, idxServersId⟩) = .int id

namespace ServerQueryOption

def has (o : ServerQueryOption) (type : OperationPrivilegeType) : Bool := o.privilege.has type

/-- The condition for those who need no entry in the access list, and for nobody. -/
def hasPrivilegeCondition (o : ServerQueryOption) : Option String :=
  if o.userId = userIdSystem ∨ o.has .getAllServer then
    some (if o.targetServerId ≠ allServers then
      serverIdCondition o.targetServerId o.tableNameAlways else "")
  else if o.userId = invalidUserId then some alwaysFalseCondition
  else none

/-- The loop over the servers of the access list. -/
def allowedServersLoop (o : ServerQueryOption) : List ServerIdType → String → Nat → String
  | [], condition, numServers => if numServers = 1 then condition else "(" ++ condition ++ ")"
  | serverId :: rest, condition, numServers =>
      if serverId = allServers then ""
      else
        o.allowedServersLoop rest
          ((if condition = "" then condition else condition ++ " OR ") ++
            serverIdCondition serverId o.tableNameAlways) (numServers + 1)

def getCondition (o : ServerQueryOption) (accessList : List AccessRow) : String :=
  match o.hasPrivilegeCondition with
  | some condition => condition
  | none =>
      let srvHostGrpSetMap := getServerHostGrpSetMap accessList o.userId
      if srvHostGrpSetMap.size = 0 then alwaysFalseCondition
      else if o.targetServerId ≠ allServers ∧ srvHostGrpSetMap.contains o.targetServerId then
        serverIdCondition o.targetServerId o.tableNameAlways
      else o.allowedServersLoop srvHostGrpSetMap.keys "" 0

/-! ## Who may see what -/

/-- The access list has an entry of the user for the server. -/
def Granted (o : ServerQueryOption) (accessList : List AccessRow) (serverId : ServerIdType) : Prop :=
  ∃ access ∈ accessList, access.info.userId = o.userId ∧ access.info.serverId = serverId

def SeesAll (o : ServerQueryOption) : Prop := o.userId = userIdSystem ∨ o.has .getAllServer

def MaySee (o : ServerQueryOption) (accessList : List AccessRow) (serverId : ServerIdType) : Prop :=
  o.SeesAll ∨ o.Granted accessList allServers ∨ o.Granted accessList serverId

def IsTarget (o : ServerQueryOption) (serverId : ServerIdType) : Prop :=
  o.targetServerId = allServers ∨ serverId = o.targetServerId

/-- The condition selects what the user may see of the target. -/
def ShowsWhatItMay (o : ServerQueryOption) (accessList : List AccessRow)
    (servers : List ServerRow) : Prop :=
  ∀ sv ∈ servers, selects (o.getCondition accessList) sv.column ↔
    o.MaySee accessList sv.id ∧ o.IsTarget sv.id

/-- The target is looked at: the user needs no entry, or has one for the target. Otherwise the loop
    writes down all that the user may see, and there must be nothing of it but the target. -/
def TargetCounts (o : ServerQueryOption) (accessList : List AccessRow)
    (servers : List ServerRow) : Prop :=
  o.SeesAll ∨
  (o.userId = invalidUserId ∧ ∀ sv ∈ servers, o.IsTarget sv.id →
    ¬o.Granted accessList allServers ∧ ¬o.Granted accessList sv.id) ∨
  (o.userId ≠ invalidUserId ∧
    (o.targetServerId = allServers ∨ o.Granted accessList o.targetServerId ∨
      ∀ sv ∈ servers, sv.id = o.targetServerId ∨
        ¬o.Granted accessList allServers ∧ ¬o.Granted accessList sv.id))

/-! ## The entries of the access list -/

theorem mem_foldl_grants (rows : List AccessRow) (map : ServerHostGrpSetMap)
    (serverId : ServerIdType) :
    serverId ∈ rows.foldl (fun srvHostGrpSetMap access =>
      srvHostGrpSetMap.insert access.info.serverId
        ((srvHostGrpSetMap.getD access.info.serverId ∅).insert access.info.hostgroupId)) map ↔
      serverId ∈ map ∨ ∃ access ∈ rows, access.info.serverId = serverId := by
  induction rows generalizing map with
  | nil => simp
  | cons access rows ih =>
    rw [List.foldl_cons, ih, Std.TreeMap.mem_insert, Std.LawfulEqCmp.compare_eq_iff_eq]
    simp only [List.mem_cons, exists_eq_or_imp]
    tauto

theorem mem_getServerHostGrpSetMap {o : ServerQueryOption} {accessList : List AccessRow}
    {serverId : ServerIdType} :
    serverId ∈ getServerHostGrpSetMap accessList o.userId ↔ o.Granted accessList serverId := by
  rw [getServerHostGrpSetMap, mem_foldl_grants]
  simp [Granted, and_assoc]

theorem size_getServerHostGrpSetMap {o : ServerQueryOption} {accessList : List AccessRow} :
    (getServerHostGrpSetMap accessList o.userId).size = 0 ↔
      ∀ serverId, ¬o.Granted accessList serverId := by
  have hempty : (getServerHostGrpSetMap accessList o.userId).size = 0 ↔
      (getServerHostGrpSetMap accessList o.userId).isEmpty := by
    rw [Std.TreeMap.isEmpty_eq_size_eq_zero, beq_iff_eq]
  rw [hempty, Std.TreeMap.isEmpty_iff_forall_not_mem]
  simp only [mem_getServerHostGrpSetMap]

/-! ## The condition -/

section Condition

variable {o : ServerQueryOption} {accessList : List AccessRow} {sv : ServerRow}

theorem denotes_serverIdCondition (serverId : ServerIdType) (full : Bool) :
    Denotes (serverIdCondition serverId full)
      (some (.cmp (Column.nameIn full ⟨tableProfileServers, idxServersId⟩) .eq (.int serverId))) :=
  denotes_eq (Column.isName_nameIn full _) (denotes_encInt serverId)

theorem selects_serverIdCondition (serverId : ServerIdType) (full : Bool) :
    selects (serverIdCondition serverId full) sv.column ↔ sv.id = serverId := by
  rw [serverIdCondition, selects_eq_int (Column.isName_nameIn full _), sv.column_id, beq_iff_eq,
    Value.int.injEq]

theorem not_selects_alwaysFalseCondition : ¬selects alwaysFalseCondition sv.column := by
  have hzero : Denotes alwaysFalseCondition (some (.const 0)) := denotes_const 0
  rw [hzero.selects_eq]
  simp [Text.alts, Text.alternatives, picks]

theorem allowedServersLoop_all {serverIds : List ServerIdType} (hall : allServers ∈ serverIds)
    (condition : String) (numServers : Nat) :
    o.allowedServersLoop serverIds condition numServers = "" := by
  induction serverIds generalizing condition numServers with
  | nil => cases hall
  | cons serverId rest ih =>
    rw [allowedServersLoop]
    split
    next => rfl
    next hne => exact ih ((List.mem_cons.mp hall).resolve_left (Ne.symm hne)) _ _

/-- The loop adds its servers to what the condition selects already. -/
theorem selects_allowedServersLoop {serverIds : List ServerIdType} (hall : allServers ∉ serverIds)
    {condition : String} {t : Text} (hcondition : Denotes condition (some t)) (hwf : t.wellFormed)
    (numServers : Nat) :
    selects (o.allowedServersLoop serverIds condition numServers) sv.column ↔
      selects condition sv.column ∨ sv.id ∈ serverIds := by
  induction serverIds generalizing condition t numServers with
  | nil =>
    rw [allowedServersLoop, List.mem_nil_iff, or_false]
    split
    next => rfl
    next =>
      rw [hcondition.paren.selects_eq, hcondition.selects_eq]
      simp [Text.alts, Text.alternatives, Text.holds_paren sv.column hwf, hwf, picks,
        Text.alternatives_ne_nil, Text.wellFormed_paren]
  | cons serverId rest ih =>
    obtain ⟨hne, hrest⟩ := not_or.mp (mt List.mem_cons.mpr hall)
    have hserver := denotes_serverIdCondition serverId o.tableNameAlways
    have hor := hcondition.or hserver
    have hselects : selects (condition ++ " OR " ++ serverIdCondition serverId o.tableNameAlways)
        sv.column ↔ selects condition sv.column ∨ sv.id = serverId := by
      rw [← selects_serverIdCondition serverId o.tableNameAlways, hor.selects_eq,
        hcondition.selects_eq, hserver.selects_eq]
      simp [Text.alts, Text.alternatives, Text.wellFormed, hwf, picks, Text.alternatives_ne_nil]
    rw [allowedServersLoop, if_neg (Ne.symm hne), if_neg hcondition.ne_empty,
      ih hrest hor (by simp [Text.wellFormed, hwf]), hselects, List.mem_cons, or_assoc]

/-- The servers of the access list, if the target is not one of them. -/
theorem selects_allowedServers {serverIds : List ServerIdType} (hne : serverIds ≠ []) :
    selects (o.allowedServersLoop serverIds "" 0) sv.column ↔
      allServers ∈ serverIds ∨ sv.id ∈ serverIds := by
  by_cases hall : allServers ∈ serverIds
  · rw [allowedServersLoop_all hall]
    simp [hall, selects]
  · cases serverIds with
    | nil => exact absurd rfl hne
    | cons serverId rest =>
      obtain ⟨hserver, hrest⟩ := not_or.mp (mt List.mem_cons.mpr hall)
      have hcondition := denotes_serverIdCondition serverId o.tableNameAlways
      rw [allowedServersLoop, if_neg (Ne.symm hserver), if_pos rfl, String.empty_append,
        selects_allowedServersLoop hrest hcondition rfl, selects_serverIdCondition, List.mem_cons,
        List.mem_cons, or_iff_right (not_or.mpr ⟨hserver, hrest⟩)]

theorem selects_of_seesAll (hsees : o.SeesAll) :
    selects (o.getCondition accessList) sv.column ↔ o.IsTarget sv.id := by
  have hprivilege : o.userId = userIdSystem ∨ o.has .getAllServer := hsees
  rw [getCondition, hasPrivilegeCondition, if_pos hprivilege, IsTarget]
  by_cases htarget : o.targetServerId = allServers
  · simp [htarget, selects]
  · simp [htarget, selects_serverIdCondition]

theorem not_selects_of_invalid (hsees : ¬o.SeesAll) (hinvalid : o.userId = invalidUserId) :
    ¬selects (o.getCondition accessList) sv.column := by
  have hprivilege : ¬(o.userId = userIdSystem ∨ o.has .getAllServer) := hsees
  rw [getCondition, hasPrivilegeCondition, if_neg hprivilege, if_pos hinvalid]
  exact not_selects_alwaysFalseCondition

theorem hasPrivilegeCondition_eq_none (hsees : ¬o.SeesAll) (hvalid : o.userId ≠ invalidUserId) :
    o.hasPrivilegeCondition = none := by
  have hprivilege : ¬(o.userId = userIdSystem ∨ o.has .getAllServer) := hsees
  rw [hasPrivilegeCondition, if_neg hprivilege, if_neg hvalid]

/-- The target is looked at only if the user has an entry for it. -/
theorem selects_of_target (hsees : ¬o.SeesAll) (hvalid : o.userId ≠ invalidUserId)
    (htarget : o.targetServerId ≠ allServers) (hgranted : o.Granted accessList o.targetServerId) :
    selects (o.getCondition accessList) sv.column ↔ sv.id = o.targetServerId := by
  have hsome : (getServerHostGrpSetMap accessList o.userId).size ≠ 0 :=
    fun hnone => size_getServerHostGrpSetMap.mp hnone _ hgranted
  have hmem := mem_getServerHostGrpSetMap.mpr hgranted
  rw [getCondition, hasPrivilegeCondition_eq_none hsees hvalid]
  simp only [if_neg hsome, Std.TreeMap.contains_iff_mem, if_pos (And.intro htarget hmem)]
  exact selects_serverIdCondition _ _

theorem selects_of_granted (hsees : ¬o.SeesAll) (hvalid : o.userId ≠ invalidUserId)
    (htarget : o.targetServerId = allServers ∨ ¬o.Granted accessList o.targetServerId) :
    selects (o.getCondition accessList) sv.column ↔
      o.Granted accessList allServers ∨ o.Granted accessList sv.id := by
  rw [getCondition, hasPrivilegeCondition_eq_none hsees hvalid]
  by_cases hnone : (getServerHostGrpSetMap accessList o.userId).size = 0
  · have hnot := size_getServerHostGrpSetMap.mp hnone
    simp only [if_pos hnone, hnot, or_self, iff_false]
    exact not_selects_alwaysFalseCondition
  · have hskip : ¬(o.targetServerId ≠ allServers ∧
        o.targetServerId ∈ getServerHostGrpSetMap accessList o.userId) := by
      rw [mem_getServerHostGrpSetMap]
      tauto
    have hne : (getServerHostGrpSetMap accessList o.userId).keys ≠ [] := by
      intro hkeys
      refine hnone (size_getServerHostGrpSetMap.mpr fun serverId hgranted => ?_)
      rw [← mem_getServerHostGrpSetMap, ← Std.TreeMap.mem_keys, hkeys] at hgranted
      cases hgranted
    simp only [if_neg hnone, Std.TreeMap.contains_iff_mem, if_neg hskip]
    rw [selects_allowedServers hne, Std.TreeMap.mem_keys, Std.TreeMap.mem_keys,
      mem_getServerHostGrpSetMap, mem_getServerHostGrpSetMap]

end Condition

end ServerQueryOption

/-- A row with a given id. -/
def ServerRow.ofId (id : ServerIdType) (others : String → Value) : ServerRow where
  id := id
  column name := if name = "id" ∨ name = "servers.id" then .int id else others name
  column_id full := by cases full <;> rfl

end Hatohol

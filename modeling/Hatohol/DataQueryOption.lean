import Hatohol.DBTermCodec
import Hatohol.Sql.Alternatives

/-!
# What every query option carries

The privileges of the user who asks (server/src/OperationPrivilege.cc), what is known about the
servers when the query is made (server/src/DataQueryContext.cc) and how a condition grows
(`DataQueryOption::addCondition`).
-/

namespace Hatohol

open Sql

inductive OperationPrivilegeType where
  | createUser
  | updateUser
  | deleteUser
  | getAllUser
  | createServer
  | updateServer
  | updateAllServer
  | deleteServer
  | deleteAllServer
  | getAllServer
  | createAction
  | updateAction
  | updateAllAction
  | deleteAction
  | deleteAllAction
  | getAllAction
  | createUserRole
  | updateAllUserRole
  | deleteAllUserRole
  | createIncidentSetting
  | updateIncidentSetting
  | deleteIncidentSetting
  | getAllIncidentSettings
  | getSystemInfo
  | systemOperation
  | createSeverityRank
  | updateSeverityRank
  | deleteSeverityRank
  deriving DecidableEq, Repr

abbrev OperationPrivilegeFlag := BitVec 64

structure OperationPrivilege where
  flags : OperationPrivilegeFlag
  deriving DecidableEq, Repr

namespace OperationPrivilege

def makeFlag (type : OperationPrivilegeType) : OperationPrivilegeFlag := 1#64 <<< type.ctorIdx

/-- (OperationPrivilege.cc:104-108) -/
def has (p : OperationPrivilege) (type : OperationPrivilegeType) : Bool :=
  p.flags &&& makeFlag type != 0#64

/-- (OperationPrivilege.cc:26-27) -/
def allPrivileges : OperationPrivilege := ⟨(1#64 <<< 28) - 1#64⟩

end OperationPrivilege

/-- The server tables, as the context of a query has read them: the servers that are set up and
    what the access list grants to the user. -/
structure DataQueryContext where
  privilege : OperationPrivilege
  validServerIdSet : ServerIdSet
  serverHostGrpSetMap : ServerHostGrpSetMap

/-- The context of USER_ID_SYSTEM, for whom there is no access list. -/
def systemContext (servers : ServerIdSet) : DataQueryContext where
  privilege := .allPrivileges
  validServerIdSet := servers
  serverHostGrpSetMap := ∅

inductive AddConditionType where
  | and
  | or
  deriving DecidableEq, Repr

/-- (DataQueryOption.cc:276-304) -/
def addCondition (currCondition addedCondition : String) (type : AddConditionType)
    (useParenthesis : Bool) : String :=
  if addedCondition = "" then currCondition
  else if currCondition = "" then addedCondition
  else
    let connective := match type with
      | .and => " AND "
      | .or => " OR "
    let added := if useParenthesis then "(" ++ addedCondition ++ ")" else addedCondition
    currCondition ++ connective ++ added

/-- `addCondition` with its default arguments. -/
def addAnd (currCondition addedCondition : String) : String :=
  addCondition currCondition addedCondition .and false

def addOr (currCondition addedCondition : String) : String :=
  addCondition currCondition addedCondition .or false

theorem addAnd_empty (addedCondition : String) : addAnd "" addedCondition = addedCondition := by
  unfold addAnd addCondition
  split
  next hadded => exact hadded.symm
  next => rfl

/-- The connective between two texts. -/
def AddConditionType.join : AddConditionType → Text → Text → Text
  | .and => Text.and
  | .or => Text.or

theorem denotes_addCondition {curr added : String} {o p : Option Text} (type : AddConditionType)
    (hcurr : Denotes curr o) (hadded : Denotes added p) :
    Denotes (addCondition curr added type false) (Text.glue type.join o p) := by
  unfold addCondition
  cases p with
  | none =>
    have hempty : added = "" := hadded
    cases o <;> simpa [hempty, Text.glue] using hcurr
  | some b =>
    rw [if_neg hadded.ne_empty]
    cases o with
    | none =>
      have hempty : curr = "" := hcurr
      simpa [hempty, Text.glue] using hadded
    | some a =>
      rw [if_neg hcurr.ne_empty]
      cases type with
      | and => simpa [Text.glue, AddConditionType.join] using hcurr.and hadded
      | or => simpa [Text.glue, AddConditionType.join] using hcurr.or hadded

theorem denotes_addAnd {curr added : String} {o p : Option Text} (hcurr : Denotes curr o)
    (hadded : Denotes added p) : Denotes (addAnd curr added) (Text.glue .and o p) :=
  denotes_addCondition .and hcurr hadded

/-- A condition that is appended only if the option asks for it. -/
theorem denotes_addAnd_if {p : Prop} [Decidable p] {curr added : String} {o : Option Text}
    {t : Text} (hcurr : Denotes curr o) (hadded : Denotes added (some t)) :
    Denotes (if p then addAnd curr added else curr)
      (Text.glue .and o (if p then some t else none)) := by
  by_cases hp : p
  · rw [if_pos hp, if_pos hp]
    exact denotes_addAnd hcurr hadded
  · cases o <;> simpa [hp, Text.glue] using hcurr

theorem denotes_addOr {curr added : String} {o p : Option Text} (hcurr : Denotes curr o)
    (hadded : Denotes added p) : Denotes (addOr curr added) (Text.glue .or o p) :=
  denotes_addCondition .or hcurr hadded

/-- A loop that appends one condition for each element, seen as texts. -/
theorem denotes_foldl {α : Type} {add : String → String → String} {k : Text → Text → Text}
    (hadd : ∀ {curr added : String} {o p : Option Text}, Denotes curr o → Denotes added p →
      Denotes (add curr added) (Text.glue k o p))
    {cond : α → String} {form : α → Text} (hcond : ∀ x, Denotes (cond x) (some (form x)))
    (xs : List α) {curr : String} {o : Option Text} (hcurr : Denotes curr o) :
    Denotes (xs.foldl (fun curr x => add curr (cond x)) curr)
      (xs.foldl (fun o x => Text.glue k o (some (form x))) o) := by
  induction xs generalizing curr o with
  | nil => exact hcurr
  | cons x xs ih => exact ih (hadd hcurr (hcond x))

end Hatohol

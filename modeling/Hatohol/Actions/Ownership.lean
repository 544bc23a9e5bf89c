import Mathlib.Data.List.Perm.Subperm
import Hatohol.Sql.Alternatives
import Hatohol.DBTablesAction

/-!
# Who changes an action

An update is checked against the type of the action that is submitted, a deletion against the
incident senders that a query finds and by its condition. What is stored is not looked at in an
update, and incident senders that are not valid are not found by the query.
-/

namespace Hatohol

open Sql DBTermCodec

/-! ## The conditions -/

theorem denotes_makeIdListCondition (idList : List ActionIdType) :
    Denotes (makeIdListCondition idList) (some (.inList "action_id" (idList.map .int))) :=
  denotes_inList (by decide) opens_in_lower (separates rfl) encInt .int denotes_encInt idList

theorem denotes_makeTypeCondition (type : ActionType) :
    Denotes (makeTypeCondition type) (some (.cmp "action_type" .eq (.int type.value))) :=
  denotes_eq (by decide) (denotes_encInt _)

theorem denotes_makeUserActionsCondition (userId : UserIdType) :
    Denotes (makeUserActionsCondition (makeOwnerCondition userId))
      (some (.paren (.and (.cmp "owner_user_id" .eq (.int userId))
        (.and (.cmp "action_type" .ge (.int 0)) (.cmp "action_type" .lt (.int 2)))))) := by
  have howner : Denotes (makeOwnerCondition userId) (some (.cmp "owner_user_id" .eq (.int userId))) :=
    denotes_eq (by decide) (denotes_encInt userId)
  have hge : Denotes ("action_type" ++ ">=" ++ encInt 0) (some (.cmp "action_type" .ge (.int 0))) :=
    denotes_cmp (by decide) opens_ge (separates rfl) (denotes_encInt 0)
  have hlt : Denotes ("action_type" ++ "<" ++ encInt 2) (some (.cmp "action_type" .lt (.int 2))) :=
    denotes_lt (by decide) 2
  rw [makeUserActionsCondition, if_neg howner.ne_empty]
  exact (howner.and (hge.and hlt)).paren

/-- Two conditions that must both hold. -/
theorem selects_and {s u : String} {a b : Text} (hs : Denotes s (some a)) (hu : Denotes u (some b))
    (ha : a.wellFormed && a.isSingle) (hb : b.wellFormed && b.isSingle) (row : String → Value) :
    selects (s ++ " AND " ++ u) row = (a.holds row && b.holds row) := by
  rw [Bool.and_eq_true] at ha hb
  rw [(hs.and hu).selects_eq]
  simp [Text.wellFormed, Text.alts, Text.alternatives, Text.alternatives_single, conjoin, picks,
    ha, hb]

namespace ActionDef

/-- COMMAND or RESIDENT. -/
def isUserDefined (actionDef : ActionDef) : Bool :=
  actionDef.type == .command || actionDef.type == .resident

variable (actionDef : ActionDef)

theorem selects_id (id : ActionIdType) :
    selects ("action_id" ++ "=" ++ encInt id) actionDef.value = (actionDef.id == id) := by
  rw [selects_eq_int (by decide), Bool.eq_iff_iff]
  simp [value]

theorem holds_idList (idList : List ActionIdType) :
    (Text.inList "action_id" (idList.map .int)).holds actionDef.value =
      idList.contains actionDef.id := by
  rw [Text.holds_inList, Bool.eq_iff_iff]
  simp [value, Literal.value]

theorem holds_type (type : ActionType) :
    (Text.cmp "action_type" .eq (.int type.value)).holds actionDef.value =
      (actionDef.type == type) := by
  rw [Text.holds_cmp, Bool.eq_iff_iff]
  cases htype : actionDef.type <;> cases type <;> simp [value, htype, ActionType.value]

theorem holds_userActions (userId : UserIdType) :
    (Text.paren (.and (.cmp "owner_user_id" .eq (.int userId))
        (.and (.cmp "action_type" .ge (.int 0)) (.cmp "action_type" .lt (.int 2))))).holds
      actionDef.value = (actionDef.ownerUserId == userId && actionDef.isUserDefined) := by
  have hge := (Text.compareValue_order_int actionDef.type.value 0).2.2.2
  have hlt := (Text.compareValue_order_int actionDef.type.value 2).1
  have howner : actionDef.value "owner_user_id" = .int actionDef.ownerUserId := rfl
  have htype : actionDef.value "action_type" = .int actionDef.type.value := rfl
  rw [Text.holds_paren _ rfl]
  simp only [Text.alternatives, conjoin, Text.holds_cmp, howner, htype, hge, hlt,
    Text.compareValue_eq_int, List.any_cons, List.any_nil, Bool.or_false]
  congr 1
  rw [isUserDefined]
  cases actionDef.type <;> rfl

/-- What is deleted. -/
theorem selects_makeConditionForDelete {idList : List ActionIdType} (hids : idList ≠ [])
    (userId : UserIdType) (privilege : OperationPrivilege) :
    selects (makeConditionForDeleteActions idList userId privilege) actionDef.value =
      (idList.contains actionDef.id && (privilege.has .deleteAllAction ||
        ((actionDef.ownerUserId == userId && actionDef.isUserDefined) ||
          (privilege.has .deleteIncidentSetting && actionDef.type == .incidentSender)))) := by
  have hlist : (Text.inList "action_id" (idList.map .int)).wellFormed := by
    simpa [Text.wellFormed] using hids
  have hidList := denotes_makeIdListCondition idList
  have huser := denotes_makeUserActionsCondition userId
  have hsender := denotes_makeTypeCondition .incidentSender
  rw [makeConditionForDeleteActions]
  split
  · rename_i hall
    rw [hidList.selects_eq, Text.complete_some, hlist]
    simp [Text.alts, Text.alternatives, picks, holds_idList, hall]
  · rename_i hall
    rw [Bool.not_eq_true] at hall
    rw [hall, Bool.false_or]
    split
    · rename_i hincident
      rw [selects_and hidList (huser.or hsender).paren (by simpa [Text.isSingle] using hlist) rfl,
        holds_idList, Text.holds_paren _ rfl]
      simp only [Text.alternatives, holds_userActions, holds_type, hincident, List.cons_append,
        List.nil_append, List.any_cons, List.any_nil, id_eq, Bool.or_false, Bool.true_and]
    · rename_i hincident
      rw [selects_and hidList huser.paren (by simpa [Text.isSingle] using hlist) rfl,
        holds_idList, Text.holds_paren _ rfl]
      simp [Text.alternatives, holds_userActions, hincident]

/-- The incident senders that are looked for before a deletion. -/
theorem selects_incidentSenders {idList : List ActionIdType} (hids : idList ≠ []) :
    selects (ActionsQueryOption.getCondition
        { ActionsQueryOption.system with idList := idList, type := .incidentSender } [])
      actionDef.value = (actionDef.type == .incidentSender && idList.contains actionDef.id) := by
  have hlist : (Text.inList "action_id" (idList.map .int)).wellFormed := by
    simpa [Text.wellFormed] using hids
  have hidList := denotes_makeIdListCondition idList
  have hsender := denotes_makeTypeCondition .incidentSender
  have hcondition : ActionsQueryOption.getCondition
      { ActionsQueryOption.system with idList := idList, type := .incidentSender } [] =
        makeTypeCondition .incidentSender ++ " AND " ++ makeIdListCondition idList := by
    have hall : OperationPrivilege.allPrivileges.has .getAllIncidentSettings := by decide
    simp [ActionsQueryOption.getCondition, ActionsQueryOption.getActionTypeAndOwnerCondition,
      ActionsQueryOption.system, hall, hids, addAnd, addCondition, hidList.ne_empty,
      hsender.ne_empty]
  rw [hcondition, selects_and hsender hidList rfl (by simpa [Text.isSingle] using hlist),
    holds_type, holds_idList]

end ActionDef

/-! ## Ownership -/

section Ownership

variable (userId : UserIdType) (privilege : OperationPrivilege)

/-- A user-defined action of the caller, any user-defined action with the privilege for all of them,
    or an incident sender with the privilege for incident settings. -/
def Entitled (own all incident : OperationPrivilegeType) (stored : ActionDef) : Prop :=
  stored.isUserDefined ∧ stored.ownerUserId = userId ∧ privilege.has own ∨
    stored.isUserDefined ∧ privilege.has all ∨
    stored.type = .incidentSender ∧ privilege.has incident

def MayUpdate : ActionDef → Prop :=
  Entitled userId privilege .updateAction .updateAllAction .updateIncidentSetting

def MayDelete : ActionDef → Prop :=
  Entitled userId privilege .deleteAction .deleteAllAction .deleteIncidentSetting

/-- Every action but some is stored as it was before. -/
def KeepsOthers (may : ActionDef → Prop) (t t' : ActionsTable) : Prop :=
  ∀ stored ∈ t.rows, ¬ may stored → stored ∈ t'.rows

/-- The submitted ID is that of an action which is of someone else or of another kind than the
    privileges of the caller are for, and the action differs from what is submitted. -/
def Overwrites (t : ActionsTable) (actionDef : ActionDef) : Prop :=
  checkPrivilegeForUpdate userId privilege actionDef = .ok ∧
    ∃ stored ∈ t.rows, stored.id = actionDef.id ∧ actionDef.setOwner userId ≠ stored ∧
      (stored.isUserDefined → privilege.has .updateAllAction = false ∧
        (stored.ownerUserId = userId → privilege.has .updateAction = false)) ∧
      (stored.type = .incidentSender → privilege.has .updateIncidentSetting = false)

/-- A caller who may delete all user-defined actions lists an action of another kind that the caller
    may not delete, and no incident sender that is valid. -/
def Overlooks (t : ActionsTable) (validator : ActionValidator) (idList : List ActionIdType) :
    Prop :=
  userId ≠ invalidUserId ∧ privilege.has .deleteAllAction ∧
    (privilege.has .deleteIncidentSetting ∨ ∀ actionDef ∈ t.rows, actionDef.id ∈ idList →
      actionDef.type = .incidentSender → validator.isValid actionDef = false) ∧
    ∃ stored ∈ t.rows, stored.id ∈ idList ∧ stored.isUserDefined = false ∧
      (stored.type = .incidentSender → privilege.has .deleteIncidentSetting = false)

end Ownership

theorem not_entitled {userId : UserIdType} {privilege : OperationPrivilege}
    {own all incident : OperationPrivilegeType} {stored : ActionDef} :
    ¬ Entitled userId privilege own all incident stored ↔
      (stored.isUserDefined → privilege.has all = false ∧
        (stored.ownerUserId = userId → privilege.has own = false)) ∧
      (stored.type = .incidentSender → privilege.has incident = false) := by
  simp only [Entitled, not_or, not_and, Bool.not_eq_true]
  grind

namespace ActionsTable

variable (t : ActionsTable)

theorem eq_of_id {a b : ActionDef} (ha : a ∈ t.rows) (hb : b ∈ t.rows) (hid : a.id = b.id) :
    a = b :=
  List.inj_on_of_nodup_map t.unique ha hb hid

theorem mem_updateRows {condition : String} {new stored : ActionDef} (hstored : stored ∈ t.rows) :
    stored ∈ (t.updateRows condition new).rows ↔ updated condition new stored = stored := by
  constructor
  · intro hmem
    obtain ⟨old, hold, heq⟩ := List.mem_map.mp hmem
    have hid : old.id = stored.id := by
      rw [← heq, updated]
      split <;> rfl
    rw [t.eq_of_id hold hstored hid] at heq
    exact heq
  · intro heq
    exact List.mem_map.mpr ⟨stored, hstored, heq⟩

theorem keepsOthers_updateAction_iff (actionDef : ActionDef) (userId : UserIdType)
    (privilege : OperationPrivilege) :
    KeepsOthers (MayUpdate userId privilege) t (t.updateAction actionDef userId privilege).2 ↔
      ¬ Overwrites userId privilege t actionDef := by
  unfold updateAction
  by_cases hcheck : checkPrivilegeForUpdate userId privilege actionDef = .ok
  · have hupdated (stored : ActionDef) :
        updated ("action_id" ++ "=" ++ encInt actionDef.id) (actionDef.setOwner userId) stored =
            stored ↔ stored.id = actionDef.id → actionDef.setOwner userId = stored := by
      rw [updated, ActionDef.selects_id]
      by_cases hid : stored.id = actionDef.id
      · simp [hid, ActionDef.setOwner]
      · simp [hid]
    simp only [hcheck, ne_eq, not_true_eq_false, if_false]
    constructor
    · rintro hkeeps ⟨-, stored, hstored, hid, hne, hnot⟩
      have hmem := hkeeps stored hstored (not_entitled.mpr hnot)
      exact hne ((hupdated stored).mp ((t.mem_updateRows hstored).mp hmem) hid)
    · intro hover stored hstored hmay
      rw [t.mem_updateRows hstored, hupdated]
      intro hid
      by_contra hne
      exact hover ⟨hcheck, stored, hstored, hid, hne, not_entitled.mp hmay⟩
  · simp only [ne_eq, hcheck, not_false_eq_true, if_true]
    constructor
    · rintro - ⟨hok, -⟩
      exact hcheck hok
    · intro _ stored hstored _
      exact hstored

/-! ### Deletion -/

/-- The incident senders that are found before a deletion. -/
def incidentSenders (validator : ActionValidator) (idList : List ActionIdType) : List ActionDef :=
  t.getActionList validator
    { ActionsQueryOption.system with idList := idList, type := .incidentSender } []

theorem mem_incidentSenders (validator : ActionValidator) {idList : List ActionIdType}
    (hids : idList ≠ []) {actionDef : ActionDef} :
    actionDef ∈ t.incidentSenders validator idList ↔ actionDef ∈ t.rows ∧
      actionDef.type = .incidentSender ∧ actionDef.id ∈ idList ∧ validator.isValid actionDef := by
  rw [incidentSenders, getActionList, List.mem_filter, List.mem_filter,
    ActionDef.selects_incidentSenders _ hids]
  simp [and_assoc]

/-- If there are as many incident senders as IDs, every ID is that of an incident sender. -/
theorem type_of_length_eq (validator : ActionValidator) {idList : List ActionIdType}
    (hids : idList ≠ []) (hlength : idList.length = (t.incidentSenders validator idList).length)
    {stored : ActionDef} (hstored : stored ∈ t.rows) (hlisted : stored.id ∈ idList) :
    stored.type = .incidentSender := by
  have hnodup : ((t.incidentSenders validator idList).map ActionDef.id).Nodup :=
    t.unique.sublist ((List.filter_sublist.trans List.filter_sublist).map _)
  have hsub : (t.incidentSenders validator idList).map ActionDef.id ⊆ idList := by
    intro id hid
    obtain ⟨sender, hsender, rfl⟩ := List.mem_map.mp hid
    exact ((t.mem_incidentSenders validator hids).mp hsender).2.2.1
  have hperm : ((t.incidentSenders validator idList).map ActionDef.id).Perm idList := by
    apply (hnodup.subperm hsub).perm_of_length_le
    rw [List.length_map, hlength]
  obtain ⟨sender, hsender, hid⟩ := List.mem_map.mp (hperm.mem_iff.mpr hlisted)
  obtain ⟨hmem, htype, -⟩ := (t.mem_incidentSenders validator hids).mp hsender
  rw [← t.eq_of_id hmem hstored hid]
  exact htype

theorem checkPrivilegeForDelete_eq_ok (validator : ActionValidator) (userId : UserIdType)
    (privilege : OperationPrivilege) (idList : List ActionIdType) :
    t.checkPrivilegeForDelete validator userId privilege idList = .ok ↔
      userId ≠ invalidUserId ∧
      (privilege.has .deleteIncidentSetting ∨ t.incidentSenders validator idList = []) ∧
      (privilege.has .deleteIncidentSetting ∧
          idList.length = (t.incidentSenders validator idList).length ∨
        privilege.has .deleteAllAction ∨ privilege.has .deleteAction) := by
  rw [checkPrivilegeForDelete]
  change (if _ then _ else if _ && !(t.incidentSenders validator idList).isEmpty then _ else
    if _ && _ == (t.incidentSenders validator idList).length then _ else _) = _ ↔ _
  grind

theorem mem_deleteActions (validator : ActionValidator) {idList : List ActionIdType}
    (hids : idList ≠ []) {userId : UserIdType} {privilege : OperationPrivilege}
    (hcheck : t.checkPrivilegeForDelete validator userId privilege idList = .ok)
    (stored : ActionDef) :
    stored ∈ (t.deleteActions validator idList userId privilege).2.rows ↔
      stored ∈ t.rows ∧ ¬ (stored.id ∈ idList ∧ (privilege.has .deleteAllAction ∨
        stored.ownerUserId = userId ∧ stored.isUserDefined ∨
        privilege.has .deleteIncidentSetting ∧ stored.type = .incidentSender)) := by
  rw [deleteActions]
  simp only [hcheck, ne_eq, not_true_eq_false, if_false, hids]
  rw [deleteRows, List.mem_filter, ActionDef.selects_makeConditionForDelete _ hids]
  grind

theorem keepsOthers_deleteActions_iff (validator : ActionValidator) (idList : List ActionIdType)
    (userId : UserIdType) (privilege : OperationPrivilege) :
    KeepsOthers (MayDelete userId privilege) t
        (t.deleteActions validator idList userId privilege).2 ↔
      ¬ Overlooks userId privilege t validator idList := by
  by_cases hids : idList = []
  · have hsame : (t.deleteActions validator idList userId privilege).2 = t := by
      rw [deleteActions]
      simp only [hids, if_true]
      split <;> rfl
    rw [hsame]
    constructor
    · rintro - ⟨-, -, -, stored, -, hlisted, -⟩
      rw [hids] at hlisted
      cases hlisted
    · intro _ stored hstored _
      exact hstored
  have hnone : t.incidentSenders validator idList = [] ↔ ∀ actionDef ∈ t.rows,
      actionDef.id ∈ idList → actionDef.type = .incidentSender →
        validator.isValid actionDef = false := by
    rw [List.eq_nil_iff_forall_not_mem]
    simp only [t.mem_incidentSenders validator hids]
    grind
  constructor
  · rintro hkeeps ⟨huser, hall, hsenders, stored, hstored, hlisted, hkind, hincident⟩
    have hcheck : t.checkPrivilegeForDelete validator userId privilege idList = .ok := by
      rw [checkPrivilegeForDelete_eq_ok, hnone]
      exact ⟨huser, hsenders, Or.inr (Or.inl hall)⟩
    have hmay : ¬ MayDelete userId privilege stored := by
      refine not_entitled.mpr ⟨?_, hincident⟩
      rw [hkind]
      simp
    have hmem := hkeeps stored hstored hmay
    rw [t.mem_deleteActions validator hids hcheck] at hmem
    exact hmem.2 ⟨hlisted, Or.inl hall⟩
  · intro hover stored hstored hmay
    obtain ⟨huserDefined, hincident⟩ := not_entitled.mp hmay
    by_cases hcheck : t.checkPrivilegeForDelete validator userId privilege idList = .ok
    · obtain ⟨huser, hsenders, hpassed⟩ := (t.checkPrivilegeForDelete_eq_ok ..).mp hcheck
      rw [t.mem_deleteActions validator hids hcheck]
      refine ⟨hstored, ?_⟩
      rintro ⟨hlisted, hall | ⟨howner, hkind⟩ | ⟨hpriv, htype⟩⟩
      · -- Without the condition on types the listed actions are all deleted.
        have hkind : stored.isUserDefined = false := by
          by_contra hud
          rw [Bool.not_eq_false] at hud
          rw [(huserDefined hud).1] at hall
          cases hall
        rw [hnone] at hsenders
        exact hover ⟨huser, hall, hsenders, stored, hstored, hlisted, hkind, hincident⟩
      · obtain ⟨hnotAll, hnotOwn⟩ := huserDefined hkind
        rcases hpassed with ⟨-, hlength⟩ | hall | hown
        · have htype := t.type_of_length_eq validator hids hlength hstored hlisted
          rw [ActionDef.isUserDefined, htype] at hkind
          cases hkind
        · rw [hnotAll] at hall
          cases hall
        · rw [hnotOwn howner] at hown
          cases hown
      · rw [hincident htype] at hpriv
        cases hpriv
    · have hsame : (t.deleteActions validator idList userId privilege).2 = t := by
        rw [deleteActions]
        simp only [ne_eq, hcheck, not_false_eq_true, if_true]
      rw [hsame]
      exact hstored

end ActionsTable

/-- An update keeps the actions that the caller may not update unless it overwrites one of them, and
    a deletion keeps those that the caller may not delete unless it overlooks one of them. -/
theorem actions_of_others_kept_iff (t : ActionsTable) (validator : ActionValidator)
    (userId : UserIdType) (privilege : OperationPrivilege) :
    (∀ actionDef,
      KeepsOthers (MayUpdate userId privilege) t (t.updateAction actionDef userId privilege).2 ↔
        ¬ Overwrites userId privilege t actionDef) ∧
    ∀ idList, KeepsOthers (MayDelete userId privilege) t
        (t.deleteActions validator idList userId privilege).2 ↔
      ¬ Overlooks userId privilege t validator idList :=
  ⟨fun actionDef => t.keepsOthers_updateAction_iff actionDef userId privilege,
    fun idList => t.keepsOthers_deleteActions_iff validator idList userId privilege⟩

/-- A command of a user, on any event. -/
def commandOf (ownerUserId : UserIdType) : ActionDef where
  id := 1
  condition := ⟨none, none, none, none, none, none⟩
  type := .command
  workingDir := emptyText
  command := emptyText
  timeout := 0
  ownerUserId := ownerUserId

/-- User 7 has a command. -/
def commandOfSeven : ActionsTable where
  rows := [commandOf 7]
  unique := List.nodup_singleton _
  positive := fun _ hid => List.mem_singleton.mp hid ▸ Int.one_pos

/-- User 5, who may update actions, makes the command of user 7 one of their own. -/
theorem update_takes_action :
    ¬ ∀ (t : ActionsTable) (validator : ActionValidator) (userId : UserIdType)
      (privilege : OperationPrivilege), userId ≠ userIdSystem →
      (∀ actionDef, KeepsOthers (MayUpdate userId privilege) t
        (t.updateAction actionDef userId privilege).2) ∧
      ∀ idList, KeepsOthers (MayDelete userId privilege) t
        (t.deleteActions validator idList userId privilege).2 := by
  intro h
  have hkeeps := (h commandOfSeven ⟨∅, ∅⟩ 5 ⟨OperationPrivilege.makeFlag .updateAction⟩
    (by decide)).1 (commandOf 5)
  rw [commandOfSeven.keepsOthers_updateAction_iff] at hkeeps
  refine hkeeps ⟨by decide, commandOf 7, List.mem_singleton_self _, rfl, by decide, ?_, ?_⟩
  · intro _
    exact ⟨by decide, by decide⟩
  · decide

end Hatohol

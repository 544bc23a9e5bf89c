import Mathlib.Data.List.Count
import Mathlib.Data.List.Nodup
import Hatohol.ActionManager

/-!
# An action is run once for an event

The logs that are written while the actions of an event are run are those of different actions. When
the event comes again, any of these logs keeps all actions from being run; if there is none, no
action has left anything.
-/

namespace Hatohol

open Sql DBTermCodec

/-- The action and the event of a log. -/
def ActionLog.key (log : ActionLog) : ActionIdType × ServerIdType × EventIdType :=
  (log.actionId, log.serverId, log.eventId)

def IncidentJob.key (job : IncidentJob) : ActionIdType × ServerIdType × EventIdType :=
  (job.actionId, job.serverId, job.eventId)

theorem ActionLogsTable.getLog_iff (t : ActionLogsTable) (serverId : ServerIdType)
    (eventId : EventIdType) :
    t.getLog serverId eventId ↔ ∃ log ∈ t.rows, log.key.2 = (serverId, eventId) := by
  rw [getLog, List.any_eq_true]
  refine exists_congr fun log => and_congr_right fun _ => ?_
  rw [selects_eq_pair (by decide) (by decide)]
  simp [ActionLog.value, ActionLog.key, ← CString.ext_iff]

/-- Logs of some actions and events are added, each at most once, and at most `n` incidents, each
    with a log. -/
def Adds (r r' : ActionRecords) (keys : List (ActionIdType × ServerIdType × EventIdType))
    (n : Nat) : Prop :=
  ∃ logs jobs, r'.logs.rows = r.logs.rows ++ logs ∧ r'.incidents = r.incidents ++ jobs ∧
    (logs.map ActionLog.key).Sublist keys ∧
    jobs.map IncidentJob.key ⊆ logs.map ActionLog.key ∧ jobs.length ≤ n

namespace Adds

variable {r r' r'' : ActionRecords} {keys keys' : List (ActionIdType × ServerIdType × EventIdType)}
  {n n' : Nat}

theorem refl (r : ActionRecords) (keys : List (ActionIdType × ServerIdType × EventIdType))
    (n : Nat) :
    Adds r r keys n :=
  ⟨[], [], by simp, by simp, List.nil_sublist _, by simp, Nat.zero_le n⟩

theorem trans (h : Adds r r' keys n) (h' : Adds r' r'' keys' n') :
    Adds r r'' (keys ++ keys') (n + n') := by
  obtain ⟨logs, jobs, hrows, hincidents, hkeys, hlogged, hle⟩ := h
  obtain ⟨logs', jobs', hrows', hincidents', hkeys', hlogged', hle'⟩ := h'
  refine ⟨logs ++ logs', jobs ++ jobs', ?_, ?_, ?_, ?_, ?_⟩
  · rw [hrows', hrows, List.append_assoc]
  · rw [hincidents', hincidents, List.append_assoc]
  · rw [List.map_append]
    exact hkeys.append hkeys'
  · rw [List.map_append, List.map_append]
    exact List.append_subset.mpr ⟨List.subset_append_of_subset_left _ hlogged,
      List.subset_append_of_subset_right _ hlogged'⟩
  · rw [List.length_append]
    exact Nat.add_le_add hle hle'

theorem mono (h : Adds r r' keys n) (hkeys : keys.Sublist keys') (hn : n ≤ n') :
    Adds r r' keys' n' := by
  obtain ⟨logs, jobs, hrows, hincidents, hsub, hlogged, hle⟩ := h
  exact ⟨logs, jobs, hrows, hincidents, hsub.trans hkeys, hlogged, hle.trans hn⟩

end Adds

namespace ActionRecords

variable (r : ActionRecords) (actionDef : ActionDef) (eventInfo : EventInfo)

theorem adds_createActionLog (failureCode : ActionLogExecFailureCode)
    (initialStatus : ActionLogStatus) :
    Adds r (r.createActionLog actionDef eventInfo failureCode initialStatus)
      [(actionDef.id, eventInfo.serverId, eventInfo.id)] 0 :=
  ⟨[_], [], rfl, by simp [createActionLog], List.Sublist.refl _, by simp, Nat.le_refl 0⟩

theorem adds_spawn (error : Option SpawnError) :
    Adds r (r.spawn actionDef eventInfo error)
      [(actionDef.id, eventInfo.serverId, eventInfo.id)] 0 := by
  cases error <;> exact r.adds_createActionLog actionDef eventInfo _ _

theorem adds_execCommandAction (env : ActionEnv) :
    Adds r (r.execCommandAction actionDef eventInfo env)
      [(actionDef.id, eventInfo.serverId, eventInfo.id)] 0 := by
  unfold execCommandAction
  split
  · exact r.adds_createActionLog actionDef eventInfo _ _
  · exact r.adds_spawn actionDef eventInfo _

theorem adds_execResidentAction (env : ActionEnv) :
    Adds r (r.execResidentAction actionDef eventInfo env)
      [(actionDef.id, eventInfo.serverId, eventInfo.id)] 0 := by
  unfold execResidentAction
  split
  · exact r.adds_createActionLog actionDef eventInfo _ _
  · split
    · exact Adds.refl r _ 0
    · exact r.adds_spawn actionDef eventInfo _

theorem adds_execIncidentSenderAction (env : ActionEnv) :
    Adds r (r.execIncidentSenderAction actionDef eventInfo env)
      [(actionDef.id, eventInfo.serverId, eventInfo.id)] 1 := by
  unfold execIncidentSenderAction
  split
  · exact Adds.refl r _ 1
  · simp only
    split
    · exact ⟨[_], [_], rfl, rfl, List.Sublist.refl _, List.Subset.refl _, Nat.le_refl 1⟩
    · exact (r.adds_createActionLog actionDef eventInfo _ _).mono (List.Sublist.refl _) (by decide)

/-- An action adds a log of its own for the event, or nothing, and an incident if it is an incident
    sender. -/
theorem adds_runAction {r' : ActionRecords} {env : ActionEnv}
    (hrun : r.runAction actionDef eventInfo env = some r') :
    Adds r r' [(actionDef.id, eventInfo.serverId, eventInfo.id)]
      (if actionDef.type = .incidentSender then 1 else 0) := by
  have hserver : (fillTriggerInfoInEventInfo eventInfo env.triggerInfo).serverId =
      eventInfo.serverId := by
    unfold fillTriggerInfoInEventInfo
    split <;> rfl
  have hid : (fillTriggerInfoInEventInfo eventInfo env.triggerInfo).id = eventInfo.id := by
    unfold fillTriggerInfoInEventInfo
    split <;> rfl
  rw [← hserver, ← hid]
  unfold runAction at hrun
  simp only at hrun
  split at hrun
  · cases hrun
  · obtain rfl := Option.some.inj hrun
    exact Adds.refl r _ _
  · cases htype : actionDef.type with
    | command =>
      rw [htype] at hrun
      obtain rfl := Option.some.inj hrun
      exact r.adds_execCommandAction actionDef _ env
    | resident =>
      rw [htype] at hrun
      obtain rfl := Option.some.inj hrun
      exact r.adds_execResidentAction actionDef _ env
    | incidentSender =>
      rw [htype] at hrun
      obtain rfl := Option.some.inj hrun
      exact r.adds_execIncidentSenderAction actionDef _ env
    | userDefined =>
      rw [htype] at hrun
      obtain rfl := Option.some.inj hrun
      exact Adds.refl r _ _
    | all =>
      rw [htype] at hrun
      obtain rfl := Option.some.inj hrun
      exact Adds.refl r _ _

/-- The actions of an event add their logs, and one of them an incident. -/
theorem adds_runActions (env : ActionIdType → ActionEnv) :
    ∀ (actionDefs : List ActionDef) (incidentSenderActionId : ActionIdType) (r : ActionRecords),
      (∀ actionDef ∈ actionDefs, 0 < actionDef.id) →
      Adds r (runActions eventInfo env actionDefs incidentSenderActionId r).1
        (actionDefs.map fun actionDef => (actionDef.id, eventInfo.serverId, eventInfo.id))
        (if incidentSenderActionId > 0 then 0 else 1) := by
  intro actionDefs
  induction actionDefs with
  | nil =>
    intro incidentSenderActionId r _
    exact Adds.refl r _ _
  | cons actionDef rest ih =>
    intro incidentSenderActionId r hpositive
    have hrest : ∀ actionDef ∈ rest, 0 < actionDef.id := fun a ha =>
      hpositive a (List.mem_cons_of_mem _ ha)
    have hid : 0 < actionDef.id := hpositive actionDef List.mem_cons_self
    -- What is left to the rest once this action is run.
    have hrun {n m : Nat} (sender : ActionIdType) (r' : ActionRecords)
        (hran : r.runAction actionDef eventInfo (env actionDef.id) = some r')
        (hn : (if actionDef.type = .incidentSender then 1 else 0) ≤ n)
        (hm : (if sender > 0 then 0 else 1) ≤ m) :
        Adds r (runActions eventInfo env rest sender r').1
          ((actionDef :: rest).map fun a => (a.id, eventInfo.serverId, eventInfo.id)) (n + m) := by
      have hfirst := (r.adds_runAction actionDef eventInfo hran).mono (List.Sublist.refl _) hn
      exact hfirst.trans ((ih sender r' hrest).mono (List.Sublist.refl _) hm)
    rw [runActions, shouldSkipIncidentSender]
    by_cases htype : actionDef.type ≠ .incidentSender
    · simp only [if_pos htype, Bool.false_eq_true, if_false]
      cases hran : r.runAction actionDef eventInfo (env actionDef.id) with
      | none => exact Adds.refl r _ _
      | some r' =>
        have := hrun incidentSenderActionId r' hran (by rw [if_neg htype]) (Nat.le_refl _)
        rwa [Nat.zero_add] at this
    · simp only [if_neg htype]
      by_cases hsender : incidentSenderActionId > 0
      · simp only [if_pos hsender, if_true]
        have hskip := ih incidentSenderActionId r hrest
        rw [if_pos hsender] at hskip
        exact hskip.mono (List.sublist_cons_self _ _) (Nat.le_refl 0)
      · simp only [if_neg hsender, Bool.false_eq_true, if_false]
        cases hran : r.runAction actionDef eventInfo (env actionDef.id) with
        | none => exact Adds.refl r _ _
        | some r' =>
          exact hrun (n := 1) (m := 0) actionDef.id r' hran (by split <;> decide)
            (by rw [if_pos hid])

end ActionRecords

/-- What has been added since a start. Every incident has a log, and for an event that is not a
    disconnection there is at most one log of each action and at most one incident. -/
def FiresOnce (r r' : ActionRecords) : Prop :=
  ∃ logs jobs, r'.logs.rows = r.logs.rows ++ logs ∧ r'.incidents = r.incidents ++ jobs ∧
    jobs.map IncidentJob.key ⊆ logs.map ActionLog.key ∧
    ∀ serverId eventId, eventId ≠ disconnectServerEventId →
      (∀ actionId, (logs.map ActionLog.key).count (actionId, serverId, eventId) ≤ 1) ∧
      jobs.countP (fun job => job.key.2 = (serverId, eventId)) ≤ 1

theorem FiresOnce.refl (r : ActionRecords) : FiresOnce r r :=
  ⟨[], [], by simp, by simp, by simp, by simp⟩

/-- The actions of an event that has no log yet. -/
theorem FiresOnce.trans_adds {r₀ r r' : ActionRecords} {eventInfo : EventInfo}
    {actionIds : List ActionIdType} (h : FiresOnce r₀ r)
    (hadds : Adds r r' (actionIds.map fun id => (id, eventInfo.serverId, eventInfo.id)) 1)
    (hnodup : actionIds.Nodup)
    (hnone : eventInfo.id ≠ disconnectServerEventId →
      r.logs.getLog eventInfo.serverId eventInfo.id = false) : FiresOnce r₀ r' := by
  obtain ⟨logs, jobs, hrows, hincidents, hlogged, honce⟩ := h
  obtain ⟨logs', jobs', hrows', hincidents', hkeys, hlogged', hle⟩ := hadds
  have hkeysNodup : (logs'.map ActionLog.key).Nodup := by
    apply List.Nodup.sublist hkeys
    exact hnodup.map fun a b heq => (Prod.mk.inj heq).1
  have hevent : ∀ key ∈ logs'.map ActionLog.key, key.2 = (eventInfo.serverId, eventInfo.id) := by
    intro key hkey
    obtain ⟨id, -, rfl⟩ := List.mem_map.mp (hkeys.subset hkey)
    rfl
  refine ⟨logs ++ logs', jobs ++ jobs', ?_, ?_, ?_, ?_⟩
  · rw [hrows', hrows, List.append_assoc]
  · rw [hincidents', hincidents, List.append_assoc]
  · rw [List.map_append, List.map_append]
    exact List.append_subset.mpr ⟨List.subset_append_of_subset_left _ hlogged,
      List.subset_append_of_subset_right _ hlogged'⟩
  intro serverId eventId hid
  obtain ⟨hcount, hjobs⟩ := honce serverId eventId hid
  rw [List.map_append]
  by_cases hsame : (serverId, eventId) = (eventInfo.serverId, eventInfo.id)
  · -- There was no log of the event, and hence no incident.
    obtain ⟨rfl, rfl⟩ := Prod.mk.inj hsame
    have hfree : ∀ key ∈ logs.map ActionLog.key, key.2 ≠ (eventInfo.serverId, eventInfo.id) := by
      intro key hkey heq
      obtain ⟨log, hlog, rfl⟩ := List.mem_map.mp hkey
      have hfound : r.logs.getLog eventInfo.serverId eventInfo.id :=
        (r.logs.getLog_iff _ _).mpr ⟨log, hrows ▸ List.mem_append_right _ hlog, heq⟩
      rw [hnone hid] at hfound
      cases hfound
    constructor
    · intro actionId
      have hzero : (logs.map ActionLog.key).count (actionId, eventInfo.serverId, eventInfo.id) =
        0 :=
        List.count_eq_zero.mpr fun hmem => hfree _ hmem rfl
      rw [List.count_append, hzero, Nat.zero_add]
      exact List.nodup_iff_count_le_one.mp hkeysNodup _
    · have hzero : jobs.countP (fun job => job.key.2 = (eventInfo.serverId, eventInfo.id)) = 0 := by
        rw [List.countP_eq_zero]
        intro job hjob
        simpa using hfree job.key (hlogged (List.mem_map_of_mem hjob))
      rw [List.countP_append, hzero, Nat.zero_add]
      exact List.countP_le_length.trans hle
  · constructor
    · intro actionId
      have hzero : (logs'.map ActionLog.key).count (actionId, serverId, eventId) = 0 :=
        List.count_eq_zero.mpr fun hmem => hsame (hevent _ hmem)
      rw [List.count_append, hzero, Nat.add_zero]
      exact hcount actionId
    · have hzero : jobs'.countP (fun job => job.key.2 = (serverId, eventId)) = 0 := by
        rw [List.countP_eq_zero]
        intro job hjob
        have hkey := hevent job.key (hlogged' (List.mem_map_of_mem hjob))
        simpa [hkey] using fun heq => Ne.symm hsame heq
      rw [List.countP_append, hzero, Nat.add_zero]
      exact hjobs

theorem ActionsTable.sublist_getActionList (t : ActionsTable) (validator : ActionValidator)
    (option : ActionsQueryOption) (hostgroupIdList : List HostgroupIdType) :
    ((t.getActionList validator option hostgroupIdList).map ActionDef.id).Sublist
      (t.rows.map ActionDef.id) :=
  (List.filter_sublist.trans List.filter_sublist).map _

theorem FiresOnce.checkEvents (t : ActionsTable) {r₀ : ActionRecords} :
    ∀ (events : List (EventInfo × EventEnv)) (r : ActionRecords), FiresOnce r₀ r →
      FiresOnce r₀ (ActionRecords.checkEvents t events r) := by
  intro events
  induction events with
  | nil =>
    intro r h
    exact h
  | cons event rest ih =>
    obtain ⟨eventInfo, env⟩ := event
    intro r h
    rw [ActionRecords.checkEvents]
    split
    · exact ih r h
    · rename_i hskip
      have hnone (hid : eventInfo.id ≠ disconnectServerEventId) :
          r.logs.getLog eventInfo.serverId eventInfo.id = false := by
        simp only [ActionRecords.shouldSkip, Bool.and_eq_true, bne_iff_ne, ne_eq, hid,
          not_false_eq_true, true_and, Bool.or_eq_true, not_or, Bool.not_eq_true] at hskip
        exact hskip.2
      have hsub := t.sublist_getActionList env.validator
        { ActionsQueryOption.system with type := .all, eventInfo := some eventInfo }
        env.hostgroupIdList
      have hadds := ActionRecords.adds_runActions eventInfo env.action _ 0 r
        fun actionDef hmem => t.positive _ (hsub.subset (List.mem_map_of_mem hmem))
      have hnext := h.trans_adds (by rw [List.map_map]; exact hadds) (t.unique.sublist hsub) hnone
      simp only
      split
      · rename_i heq
        rw [heq] at hnext
        exact ih _ hnext
      · rename_i heq
        rw [heq] at hnext
        exact hnext

end Hatohol

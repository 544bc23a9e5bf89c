import Hatohol.Hap2ZabbixAPI
import Hatohol.Triggers.Sync

/-!
# Fetches of the triggers of some hosts

The Zabbix plugin answers a fetch with the triggers of the hosts that are named in it, and with update
type ALL. The server takes the answer for all triggers of the monitored server.
-/

namespace Hatohol

open Haplib Machine Table

/-- What an effect leaves of the table of triggers. -/
def TriggersTable.perform (members : List HostgroupMember) (servers : ServerIdSet)
    (serverId : ServerIdType) (t : TriggersTable) : PutEffect TriggerInfo → TriggersTable
  | .dataStore .syncTriggers elements _ =>
      match t.syncTriggers members servers elements serverId with
      | .ok (_, t) => t
      | .error _ => t
  | .dataStore .addTriggers elements _ => t.addTriggerInfoList elements
  | _ => t

namespace ZabbixAPI

/-- A trigger of the monitored server as Hatohol reads it, and the hosts whose items it is about. The
    plugin gives it the first of them. -/
structure MonitoredTrigger where
  trigger : TriggerInfo
  hosts : List LocalHostIdType
  first : hosts.head? = some trigger.hostIdInServer

/-- The active triggers of the monitored server. -/
structure MonitoredTriggers (serverId : ServerIdType) where
  triggers : List MonitoredTrigger
  distinct : (triggers.map fun trig => trig.trigger.id).Nodup
  server : ∀ trig ∈ triggers, trig.trigger.serverId = serverId

/-- `fetchTriggers` has no `hostIds` if the list is empty
    (HatoholArmPluginGateHAPI2.cc:1473-1478). -/
def hostIdsParam (hostIds : List LocalHostIdType) : Option (List LocalHostIdType) :=
  if hostIds.isEmpty then none else some hostIds

variable {serverId : ServerIdType}

/-- `get_triggers` without `requestSince` (zabbixapi.py:203-244). -/
def get_triggers (current : MonitoredTriggers serverId)
    (host_ids : Option (List LocalHostIdType)) : List TriggerInfo :=
  (current.triggers.filter fun trig =>
    host_ids.all fun ids => trig.hosts.any ids.contains).map MonitoredTrigger.trigger

/-- The requests for a fetch. -/
def triggerRequests (lastChangeTime : TriggerInfo → List Char) (requestId : String)
    (last_info : List Char) (current : MonitoredTriggers serverId)
    (hostIds : List LocalHostIdType) (fetchId : String) : List (PutRequest TriggerInfo) :=
  (update_triggers recording requestId lastChangeTime (some last_info)
    (fun _ => some (get_triggers current (hostIdsParam hostIds))) (some fetchId) none []).2.2

/-- When the requests have been processed, every stored trigger is unchanged that is not one of the
    hosts. -/
def LeavesOthers (members : List HostgroupMember) (servers : ServerIdSet)
    (serverId : ServerIdType) (t : TriggersTable) (hostIds : List LocalHostIdType)
    (impl : GateImpl TriggerInfo) (requests : List (PutRequest TriggerInfo)) : Prop :=
  ∃ answered impl', run procedureHandler impl requests = .returned (answered, impl') ∧
    ∀ trig ∈ t.rows, ¬ (trig.serverId = serverId ∧ trig.hostIdInServer ∈ hostIds) →
      trig ∈ ((answered.flatMap fun x => x.2.effects).foldl
        (TriggersTable.perform members servers serverId) t).rows

theorem nodup_get_triggers (current : MonitoredTriggers serverId)
    (host_ids : Option (List LocalHostIdType)) :
    ((get_triggers current host_ids).map TriggerInfo.id).Nodup := by
  rw [get_triggers, List.map_map]
  exact current.distinct.sublist (List.filter_sublist.map _)

theorem serverId_get_triggers {current : MonitoredTriggers serverId}
    {host_ids : Option (List LocalHostIdType)} {trig : TriggerInfo}
    (htrig : trig ∈ get_triggers current host_ids) : trig.serverId = serverId := by
  obtain ⟨monitored, hmem, rfl⟩ := List.mem_map.mp htrig
  exact current.server monitored (List.mem_of_mem_filter hmem)

section

variable {members : List HostgroupMember} {servers : ServerIdSet} {t : TriggersTable}
  {hostIds : List LocalHostIdType} {impl : GateImpl TriggerInfo}

theorem leavesOthers_nil : LeavesOthers members servers serverId t hostIds impl [] :=
  ⟨[], impl, rfl, fun _ htrig _ => htrig⟩

/-- The answers before the last one do nothing. -/
theorem foldl_perform_of_answers {params : PutParams TriggerInfo}
    {incoming : List TriggerInfo} {answered : List (PutRequest TriggerInfo × PutAnswer TriggerInfo)}
    {first : List (Part TriggerInfo)} (hall : params.updateType = some "ALL")
    (hanswers : answered.map Prod.snd = first.map (fun _ => ⟨.success, []⟩) ++
      [PutProcedure.putTriggers.handler.finish params incoming]) :
    (answered.flatMap fun x => x.2.effects).foldl
        (TriggersTable.perform members servers serverId) t =
      t.perform members servers serverId (.dataStore .syncTriggers incoming
        (some (params.lastInfo.getD ""))) := by
  have heffects : answered.flatMap (fun x => x.2.effects) =
      .dataStore .syncTriggers incoming (some (params.lastInfo.getD "")) ::
        fetchCallback params := by
    have hsplit : answered.flatMap (fun x => x.2.effects) =
        (answered.map Prod.snd).flatMap PutAnswer.effects := (List.flatMap_map ..).symm
    have hfinish : (PutProcedure.putTriggers.handler.finish params incoming).effects =
        .dataStore .syncTriggers incoming (some (params.lastInfo.getD "")) ::
          fetchCallback params := by
      change (PutHandler.putTriggers.finish params incoming).effects = _
      rw [PutHandler.finish, hall]
      rfl
    rw [hsplit, hanswers, List.flatMap_append, List.flatMap_map, List.flatMap_singleton, hfinish]
    have hnone : (first.flatMap fun _ => ([] : List (PutEffect TriggerInfo))) = [] :=
      List.flatMap_eq_nil_iff.mpr fun _ _ => rfl
    exact congrArg (· ++ _) hnone
  have hcallback (t : TriggersTable) : (fetchCallback params).foldl
      (TriggersTable.perform members servers serverId) t = t := by
    unfold fetchCallback
    split
    · split <;> rfl
    · rfl
  rw [heffects, List.foldl_cons, hcallback]

/-- What a fetch leaves that finds something. -/
theorem leavesOthers_triggerRequests (lastChangeTime : TriggerInfo → List Char)
    {requestId : String} (last_info : List Char) {current : MonitoredTriggers serverId}
    {fetchId : String} (hfresh : impl.parts .putTriggers requestId = [])
    (hne : get_triggers current (hostIdsParam hostIds) ≠ []) :
    LeavesOthers members servers serverId t hostIds impl
        (triggerRequests lastChangeTime requestId last_info current hostIds fetchId) ↔
      ∀ trig ∈ t.rows, ¬ (trig.serverId = serverId ∧ trig.hostIdInServer ∈ hostIds) →
        trig ∈ (t.perform members servers serverId (.dataStore .syncTriggers
          (get_triggers current (hostIdsParam hostIds)) none)).rows := by
  have hanswers : Answers .putTriggers (putTriggersParams "ALL"
      (Hapcommon.get_biggest_num_of_dict_array
        ((get_triggers current (hostIdsParam hostIds)).map lastChangeTime)) (some fetchId)) impl
      (get_triggers current (hostIdsParam hostIds))
      (triggerRequests lastChangeTime requestId last_info current hostIds fetchId) := by
    rw [triggerRequests, update_triggers_fetch requestId lastChangeTime last_info hne]
    exact answers_recording _ rfl hfresh _
  obtain ⟨answered, impl', hrun, ⟨first, hmap⟩, -⟩ := hanswers
  have hfold : (answered.flatMap fun x => x.2.effects).foldl
      (TriggersTable.perform members servers serverId) t = _ :=
    foldl_perform_of_answers rfl hmap
  constructor
  · rintro ⟨answered', impl'', hrun', hkept⟩
    obtain rfl := congrArg Prod.fst (Outcome.returned.inj (hrun.symm.trans hrun'))
    rw [hfold] at hkept
    exact hkept
  · intro hkept
    refine ⟨answered, impl', hrun, ?_⟩
    rw [hfold]
    exact hkept

end

/-! ## The frame -/

section

variable {servers : ServerIdSet} {t : TriggersTable} {incoming : List TriggerInfo}
  (members : List HostgroupMember) (hserverId : serverId ≠ allServers)
  (hserver : ∀ trig ∈ incoming, trig.serverId = serverId)
  (hdistinct : (incoming.map TriggerInfo.id).Nodup)

include hserverId hserver hdistinct

/-- A stored trigger is still there if it comes in, or if its server is not set up and it is not
    replaced. -/
theorem mem_synced_iff {trig : TriggerInfo} (htrig : trig ∈ t.rows) (lastInfo : Option String) :
    trig ∈ (t.perform members servers serverId
        (.dataStore .syncTriggers incoming lastInfo)).rows ↔
      trig.serverId = serverId → trig ∈ incoming ∨
        servers.contains serverId = false ∧ trig.id ∉ incoming.map TriggerInfo.id := by
  have hstored := TriggersTable.mem_rows_iff.mp htrig
  rw [TriggersTable.perform, TriggersTable.syncTriggers_eq t servers serverId incoming members
    hserverId, TriggersTable.mem_rows_iff]
  have hlookup : lookup TriggerInfo.id incoming trig.id = some trig ↔ trig ∈ incoming :=
    (mem_iff_lookup hdistinct).symm
  cases hregistered : servers.contains serverId with
  | true =>
    rw [TriggersTable.trigger_synced hregistered hserver hdistinct, hstored]
    change (if trig.serverId = serverId then _ else _) = _ ↔ _
    split_ifs with hown
    · simp [hown, TriggerInfo.key, hlookup]
    · simp [hown]
  | false =>
    rw [TriggersTable.trigger_synced_unregistered hregistered hdistinct,
      TriggersTable.lookup_incoming hserver hdistinct, hstored]
    change (if trig.serverId = serverId then _ else none).or _ = _ ↔ _
    split_ifs with hown
    · simp only [hown, TriggerInfo.key, forall_const, true_and]
      cases hnew : lookup TriggerInfo.id incoming trig.id with
      | none =>
        have habsent : trig.id ∉ incoming.map TriggerInfo.id := by
          rintro hid
          obtain ⟨new, hmem, hid⟩ := List.mem_map.mp hid
          exact lookup_eq_none.mp hnew new hmem hid
        simp [habsent]
      | some new =>
        have hid : trig.id ∈ incoming.map TriggerInfo.id :=
          List.mem_map.mpr ⟨new, mem_of_lookup hnew, key_of_lookup hnew⟩
        rw [hnew] at hlookup
        simpa [hid] using hlookup
    · simp [hown]

end

/-- A trigger of host 6 of server 1. -/
def otherTrigger : TriggerInfo :=
  { TriggersTable.plainTrigger with id := .ofString "11", hostIdInServer := .ofString "6" }

/-- The trigger that is stored, of host 5, and that of host 6. -/
def twoHosts : MonitoredTriggers 1 where
  triggers := [⟨TriggersTable.plainTrigger, [.ofString "5"], rfl⟩,
    ⟨otherTrigger, [.ofString "6"], rfl⟩]
  distinct := by decide
  server := by decide

end ZabbixAPI

end Hatohol

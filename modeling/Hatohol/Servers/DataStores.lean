import Hatohol.Servers.Pairing
import Hatohol.UnifiedDataStore

/-!
# Configured servers and registered data stores

The calls change the configuration first and the data stores after that. The two stay in step as
long as the second part does not fail.
-/

namespace Hatohol

open Sql Machine

/-! ## The servers that a change leaves -/

namespace ServerChange

variable {c : ServerChange} {answers : ServerTables.Answers} {t t₁ t' : ServerTables}
  {serverInfo : MonitoringServerInfo} {armPluginInfo armPluginInfo' : ArmPluginInfo}
  {condition : Option ArmPluginIdType}

theorem servers_of_save
    (hsave : t.saveArmPluginInfoIfNeededWithoutTransaction answers armPluginInfo condition =
      .ok (armPluginInfo', t')) : t'.servers = t.servers := by
  rcases ServerTables.save_cases hsave with ⟨-, rfl⟩ | ⟨-, -, -, -, hupdate⟩ | ⟨-, -, hinsert⟩
  · rfl
  · exact (ServerTables.mem_updateArmPlugin hupdate).1
  · exact (ServerTables.mem_insertArmPlugin hinsert).1

/-- The ids of the servers once the tables are written. -/
theorem id_of_reaches
    (hreaches : c.ReachesPlugin t answers condition serverInfo armPluginInfo t₁) :
    match c.type with
    | .add => (∀ sv ∈ t.servers, sv.id ≠ serverInfo.id) ∧
        ∀ id, (∃ sv ∈ t₁.servers, sv.id = id) ↔ (∃ sv ∈ t.servers, sv.id = id) ∨ id = serverInfo.id
    | .update => serverInfo = c.serverInfo ∧ (∃ sv ∈ t.servers, sv.id = unsignedId serverInfo.id) ∧
        ∀ id, (∃ sv ∈ t₁.servers, sv.id = id) ↔ ∃ sv ∈ t.servers, sv.id = id := by
  obtain ⟨type, serverInfo₀, armPluginInfo₀⟩ := c
  cases type with
  | add =>
    obtain ⟨rfl, -, hinsert⟩ := hreaches
    obtain ⟨hservers, -, hfresh⟩ := ServerTables.mem_insertServer hinsert
    refine ⟨hfresh, fun id => ?_⟩
    simp only [hservers, List.mem_append, List.mem_singleton, or_and_right, exists_or,
      exists_eq_left]
    exact or_congr_right eq_comm
  | update =>
    obtain ⟨rfl, -, hrecord, rfl⟩ := hreaches
    refine ⟨rfl, hrecord, fun id => ?_⟩
    simp only [ServerTables.updateServer, List.mem_map, exists_exists_and_eq_and,
      ServerTables.id_updatedServer]

end ServerChange

/-! ## Calls -/

/-- A call with what the database answers and whether `DataStoreFactory::create` fails. -/
inductive DataStoreCall where
  | change (c : ServerChange) (answers : ServerTables.Answers) (fails : Bool)
  | delete (serverId : ServerIdType)

namespace UnifiedDataStore

variable (isValidIPAddress : CString → Bool)

def call (u : UnifiedDataStore) :
    ServerCaller × DataStoreCall → Except ServerError Unit × UnifiedDataStore
  | (caller, .change c answers fails) =>
      match c.type with
      | .add =>
          u.addTargetServer isValidIPAddress answers fails caller c.serverInfo c.armPluginInfo
      | .update =>
          u.updateTargetServer isValidIPAddress answers fails caller c.serverInfo c.armPluginInfo
  | (caller, .delete serverId) => u.deleteTargetServer caller serverId

def next (u : UnifiedDataStore) (called : ServerCaller × DataStoreCall) : UnifiedDataStore :=
  (u.call isValidIPAddress called).2

/-- Servers are configured and data stores registered for the same ids. -/
structure InStep (u : UnifiedDataStore) : Prop where
  idle : u.agent.working = none
  ids : ∀ id, u.dataStores.has id ↔ ∃ sv ∈ u.agent.tables.servers, sv.id = id

/-- A data store is created for what has been stored, under the id of the row, and what is deleted
    without a server leaves no plugin behind. -/
def Safe (u : UnifiedDataStore) : ServerCaller × DataStoreCall → Prop
  | (caller, .change c answers fails) => ∀ svInfo armPluginInfo agent,
      c.run isValidIPAddress answers caller u.agent = (.ok (svInfo, armPluginInfo), agent) →
        createsDataStore svInfo fails ∧ (c.type = .update → 0 ≤ svInfo.id)
  | (caller, .delete serverId) => caller.canDeleteTargetServer serverId →
      (∃ sv ∈ u.agent.tables.servers, sv.id = serverId) ∨
        ∀ row ∈ u.agent.tables.armPlugins, row.serverId ≠ serverId

/-- A call that fails has changed nothing, and the ids stay in step. -/
structure Kept (u : UnifiedDataStore) (result : Except ServerError Unit × UnifiedDataStore) :
    Prop where
  inStep : result.2.InStep
  unchanged : result.1 ≠ .ok () → result.2 = u

variable {isValidIPAddress} {u : UnifiedDataStore}

theorem agent_of_inStep (hstep : u.InStep) : u.agent = .idle u.agent.dialect u.agent.tables := by
  have hidle := hstep.idle
  obtain ⟨⟨dialect, tables, working⟩, dataStores⟩ := u
  obtain rfl : working = none := hidle
  rfl

theorem kept_of_error (hstep : u.InStep) (e : ServerError) : u.Kept (.error e, u) :=
  ⟨hstep, fun _ => rfl⟩

theorem has_remove (s : DataStores) (serverId id : ServerIdType) :
    (s.remove serverId).has id ↔ s.has id ∧ id ≠ serverId := by
  simp only [DataStores.has, DataStores.remove, List.mem_filter, bne_iff_ne]
  constructor
  · rintro ⟨store, ⟨hmem, hne⟩, rfl⟩
    exact ⟨⟨store, hmem, rfl⟩, hne⟩
  · rintro ⟨⟨store, hmem, rfl⟩, hne⟩
    exact ⟨store, ⟨hmem, hne⟩, rfl⟩

/-- A data store is registered under an id that has none. -/
theorem startDataStore_of_creates (u : UnifiedDataStore) {svInfo : MonitoringServerInfo}
    {fails : Bool} (hcreates : createsDataStore svInfo fails)
    (hfree : ¬u.dataStores.has svInfo.id) :
    ∃ dataStores : DataStores,
      u.startDataStore svInfo fails = (.ok (), { u with dataStores := dataStores }) ∧
      ∀ id, dataStores.has id ↔ u.dataStores.has id ∨ id = svInfo.id := by
  rw [startDataStore, hcreates, Bool.not_true, if_neg Bool.false_ne_true, DataStores.add,
    dif_neg hfree]
  refine ⟨_, rfl, fun id => ?_⟩
  simp only [DataStores.has, List.mem_append, List.mem_singleton, or_and_right, exists_or,
    exists_eq_left]
  exact or_congr_right eq_comm

/-! ## Steps -/

section Change

variable {c : ServerChange} {answers : ServerTables.Answers} {caller : ServerCaller}
  {fails : Bool} {agent : ServerAgent}

theorem call_of_error {e : ServerError}
    (hrun : c.run isValidIPAddress answers caller u.agent = (.error e, agent)) :
    u.call isValidIPAddress (caller, .change c answers fails) =
      (.error e, { u with agent := agent }) := by
  obtain ⟨type, serverInfo, armPluginInfo⟩ := c
  cases type with
  | add =>
    have hadd : u.agent.addTargetServer isValidIPAddress answers caller serverInfo armPluginInfo =
        (.error e, agent) := hrun
    simp only [call, addTargetServer, hadd]
  | update =>
    have hupdate : u.agent.updateTargetServer isValidIPAddress answers caller serverInfo
        armPluginInfo = (.error e, agent) := hrun
    simp only [call, updateTargetServer, hupdate]

theorem call_of_ok {svInfo : MonitoringServerInfo} {armPluginInfo' : ArmPluginInfo}
    (hrun : c.run isValidIPAddress answers caller u.agent =
      (.ok (svInfo, armPluginInfo'), agent)) :
    u.call isValidIPAddress (caller, .change c answers fails) =
      match c.type with
      | .add => ({ u with agent := agent } : UnifiedDataStore).startDataStore svInfo fails
      | .update =>
          match ({ u with agent := agent } : UnifiedDataStore).stopDataStore svInfo.id with
          | (.error e, u) => (.error e, u)
          | (.ok (), u) => u.startDataStore svInfo fails := by
  obtain ⟨type, serverInfo, armPluginInfo⟩ := c
  cases type with
  | add =>
    have hadd : u.agent.addTargetServer isValidIPAddress answers caller serverInfo armPluginInfo =
        (.ok (svInfo, armPluginInfo'), agent) := hrun
    simp only [call, addTargetServer, hadd]
  | update =>
    have hupdate : u.agent.updateTargetServer isValidIPAddress answers caller serverInfo
        armPluginInfo = (.ok (svInfo, armPluginInfo'), agent) := hrun
    rewrite [call, updateTargetServer, hupdate]
    rfl

/-- A change that ends with a data store under the id of the row. -/
theorem kept_of_started {svInfo : MonitoringServerInfo} {stores : DataStores} {t' : ServerTables}
    (hcreates : createsDataStore svInfo fails) (hfree : ¬stores.has svInfo.id)
    (hids : ∀ id, stores.has id ∨ id = svInfo.id ↔ ∃ sv ∈ t'.servers, sv.id = id) (d : Dialect) :
    u.Kept ((UnifiedDataStore.mk (.idle d t') stores).startDataStore svInfo fails) := by
  obtain ⟨dataStores, hstart, hhas⟩ :=
    startDataStore_of_creates ⟨.idle d t', stores⟩ hcreates hfree
  rw [hstart]
  exact ⟨⟨rfl, fun id => (hhas id).trans (hids id)⟩, fun hne => absurd rfl hne⟩

theorem kept_change (hstep : u.InStep)
    (hsafe : u.Safe isValidIPAddress (caller, .change c answers fails)) :
    u.Kept (u.call isValidIPAddress (caller, .change c answers fails)) := by
  have hagent := agent_of_inStep hstep
  rcases c.run_cases isValidIPAddress answers caller u.agent.dialect u.agent.tables with
    ⟨e, hrun⟩ | ⟨condition, svInfo, armPluginInfo, armPluginInfo', t₁, t', -, -, hreaches, hsave,
      hrun⟩
  · rw [← hagent] at hrun
    rw [call_of_error hrun]
    exact kept_of_error hstep e
  · rw [← hagent] at hrun
    obtain ⟨hcreates, hsigned⟩ := hsafe _ _ _ hrun
    have hservers := ServerChange.servers_of_save hsave
    have hids := ServerChange.id_of_reaches hreaches
    rw [call_of_ok hrun]
    cases htype : c.type with
    | add =>
      rw [htype] at hids
      obtain ⟨hfresh, hids⟩ := hids
      refine kept_of_started hcreates ?_ (fun id => ?_) u.agent.dialect
      · rw [hstep.ids]
        exact fun ⟨sv, hsv, hid⟩ => hfresh sv hsv hid
      · rw [hservers, hids, hstep.ids]
    | update =>
      rw [htype] at hids
      obtain ⟨-, hrecord, hids⟩ := hids
      have hid : unsignedId svInfo.id = svInfo.id := if_neg (not_lt.mpr (hsigned htype))
      rw [hid] at hrecord
      have hregistered : u.dataStores.has svInfo.id := (hstep.ids _).mpr hrecord
      simp only [stopDataStore, if_pos hregistered]
      refine kept_of_started hcreates ?_ (fun id => ?_) u.agent.dialect
      · rw [has_remove]
        exact fun h => h.2 rfl
      · rw [hservers, hids, has_remove, hstep.ids]
        constructor
        · rintro (⟨hconfigured, -⟩ | rfl)
          · exact hconfigured
          · exact hrecord
        · exact fun hconfigured => (em (id = svInfo.id)).symm.imp_left fun hne => ⟨hconfigured, hne⟩

end Change

theorem kept_delete (hstep : u.InStep) {caller : ServerCaller} {serverId : ServerIdType}
    (hsafe : u.Safe isValidIPAddress (caller, .delete serverId)) :
    u.Kept (u.deleteTargetServer caller serverId) := by
  have hagent := agent_of_inStep hstep
  have hdelete : u.agent.deleteTargetServer caller serverId =
      if caller.canDeleteTargetServer serverId then
        (.ok (), .idle u.agent.dialect (u.agent.tables.deleteServer serverId))
      else (.error .noPrivilege, u.agent) := by
    rw [ServerAgent.deleteTargetServer]
    cases caller.canDeleteTargetServer serverId with
    | false => rfl
    | true =>
      rw [hagent]
      rfl
  rw [deleteTargetServer, hdelete]
  by_cases hcan : caller.canDeleteTargetServer serverId
  case neg =>
    rw [if_neg hcan]
    exact kept_of_error hstep _
  rw [if_pos hcan]
  simp only [stopDataStore]
  by_cases hregistered : u.dataStores.has serverId
  · rw [if_pos hregistered]
    refine ⟨⟨rfl, fun id => ?_⟩, fun hne => absurd rfl hne⟩
    rw [has_remove, hstep.ids]
    simp only [ServerAgent.idle, ServerTables.deleteServer, List.mem_filter, bne_iff_ne]
    constructor
    · rintro ⟨⟨sv, hsv, rfl⟩, hne⟩
      exact ⟨sv, ⟨hsv, hne⟩, rfl⟩
    · rintro ⟨sv, ⟨hsv, hne⟩, rfl⟩
      exact ⟨⟨sv, hsv, rfl⟩, hne⟩
  · -- Neither the server nor a plugin of it is there, so nothing is deleted.
    have hnone := mt (hstep.ids serverId).mpr hregistered
    have hplugins := (hsafe hcan).resolve_left hnone
    have hsame : u.agent.tables.deleteServer serverId = u.agent.tables := by
      refine ServerTables.ext ?_ ?_
      · exact List.filter_eq_self.mpr fun sv hsv =>
          bne_iff_ne.mpr fun hid => hnone ⟨sv, hsv, hid⟩
      · exact List.filter_eq_self.mpr fun row hrow => bne_iff_ne.mpr (hplugins row hrow)
    rw [if_neg hregistered, hsame, ← hagent]
    exact kept_of_error hstep _

theorem kept_call (hstep : u.InStep) (called : ServerCaller × DataStoreCall)
    (hsafe : u.Safe isValidIPAddress called) : u.Kept (u.call isValidIPAddress called) := by
  obtain ⟨caller, called⟩ := called
  cases called with
  | change c answers fails => exact kept_change hstep hsafe
  | delete serverId => exact kept_delete hstep hsafe

/-- In a run of safe calls, configuration and data stores are in step before and after each call,
    and a call that returns an error leaves both as they were. -/
theorem inStep_of_safe (isValidIPAddress : CString → Bool) (u : UnifiedDataStore)
    (before after : List (ServerCaller × DataStoreCall)) (hstart : u.InStep)
    (hsafe : Heeds (next isValidIPAddress) (Safe isValidIPAddress) u (before ++ after)) :
    let reached := before.foldl (next isValidIPAddress) u
    reached.InStep ∧ ∀ called rest, after = called :: rest →
      (reached.call isValidIPAddress called).1 ≠ .ok () →
        (reached.call isValidIPAddress called).2 = reached := by
  obtain ⟨hbefore, hafter⟩ := (heeds_append before after u).mp hsafe
  have hreached : (before.foldl (next isValidIPAddress) u).InStep :=
    foldl_invariant_of_heeds InStep
      (fun u called hu hcalled => (kept_call hu called hcalled).inStep) before u hstart hbefore
  refine ⟨hreached, fun called rest hcons => ?_⟩
  rw [hcons] at hafter
  exact (kept_call hreached called hafter.1).unchanged

end UnifiedDataStore

section Examples

def nothingConfigured : UnifiedDataStore := ⟨.idle .sqlite .empty, .empty⟩

theorem UnifiedDataStore.inStep_nothingConfigured : nothingConfigured.InStep where
  idle := rfl
  ids := fun _ => iff_of_false (fun ⟨_, hstore, _⟩ => nomatch hstore) (fun ⟨_, hsv, _⟩ => nomatch hsv)

/-- A server of a type, with the plugin that is named for it. -/
def addServerOfType (type : MonitoringSystemType) : ServerCaller × DataStoreCall :=
  (administrator, .change ⟨.add, serverOfType 0 type, pluginOfType 0 type 0⟩ ⟨none, 0, 0⟩ false)

/-- A server without a plugin is added, and then one deleted that is not there. -/
theorem UnifiedDataStore.inStep_addFake_delete :
    (nothingConfigured.next (fun _ => true) (addServerOfType .fake)).InStep ∧
    ((nothingConfigured.next (fun _ => true) (addServerOfType .fake)).call (fun _ => true)
      (administrator, .delete 5)).2 =
      nothingConfigured.next (fun _ => true) (addServerOfType .fake) := by
  have hsafe : Heeds (next fun _ => true) (Safe fun _ => true) nothingConfigured
      [addServerOfType .fake, (administrator, .delete 5)] := by
    refine ⟨?_, ?_, trivial⟩
    · intro svInfo armPluginInfo agent hrun
      have hserver : svInfo = serverOfType 1 .fake :=
        congrArg Prod.fst (Except.ok.inj (congrArg Prod.fst hrun)).symm
      rw [hserver]
      exact ⟨rfl, fun _ => by decide⟩
    · exact fun _ => .inr fun _ hrow => nomatch hrow
  obtain ⟨hreached, hunchanged⟩ := inStep_of_safe (fun _ => true) nothingConfigured
    [addServerOfType .fake] [(administrator, .delete 5)] inStep_nothingConfigured hsafe
  exact ⟨hreached, hunchanged _ [] rfl fun hok => nomatch hok⟩

/-- A server of an incident tracker's type is valid, and there is no data store for it. -/
theorem UnifiedDataStore.not_inStep_incidentTracker :
    (nothingConfigured.call (fun _ => true) (addServerOfType .incidentTracker)).1 =
      .error .failedToCreateDataStore ∧
    (nothingConfigured.call (fun _ => true) (addServerOfType .incidentTracker)).2.agent.tables.servers =
      [serverOfType 1 .incidentTracker] ∧
    ¬(nothingConfigured.next (fun _ => true) (addServerOfType .incidentTracker)).InStep := by
  refine ⟨rfl, rfl, fun hstep => ?_⟩
  obtain ⟨store, hstore, -⟩ := (hstep.ids 1).mpr ⟨serverOfType 1 .incidentTracker,
    List.mem_singleton.mpr rfl, rfl⟩
  cases hstore

end Examples

end Hatohol

import Hatohol.Servers.Refusals

/-!
# Servers and their data stores

`UnifiedDataStore` (server/src/UnifiedDataStore.cc:141-176, 852-894) stores what servers are
monitored and starts a data store for each. `DataStoreManager` registers them by the ids of the
servers.
-/

namespace Hatohol

open Sql

/-- The registered data stores, each with the server that it was made for. -/
@[ext] structure DataStores where
  stores : List MonitoringServerInfo
  nodup : (stores.map (·.id)).Nodup

namespace DataStores

def empty : DataStores := ⟨[], List.nodup_nil⟩

def has (s : DataStores) (serverId : ServerIdType) : Prop := ∃ store ∈ s.stores, store.id = serverId

instance (s : DataStores) (serverId : ServerIdType) : Decidable (s.has serverId) :=
  inferInstanceAs (Decidable (∃ store ∈ s.stores, store.id = serverId))

/-- (DataStoreManager.cc:90-104) -/
def add (s : DataStores) (svInfo : MonitoringServerInfo) : Option DataStores :=
  if h : s.has svInfo.id then none
  else some
    { stores := s.stores ++ [svInfo]
      nodup := by
        rw [List.map_append, List.nodup_append]
        refine ⟨s.nodup, List.nodup_singleton _, ?_⟩
        rintro id hid _ hnew rfl
        obtain ⟨store, hstore, hsame⟩ := List.mem_map.mp hid
        exact h ⟨store, hstore, hsame.trans (List.mem_singleton.mp hnew)⟩ }

/-- (DataStoreManager.cc:106-124) -/
def remove (s : DataStores) (serverId : ServerIdType) : DataStores where
  stores := s.stores.filter (·.id != serverId)
  nodup := (List.filter_sublist.map _).nodup s.nodup

end DataStores

/-- The type is one that `DataStoreFactory::create` knows, and it does not fail for another
    reason (DataStoreFactory.cc:31-49). -/
def createsDataStore (svInfo : MonitoringServerInfo) (fails : Bool) : Bool :=
  !fails && (svInfo.type == .fake || svInfo.type == .hapiJSON || svInfo.type == .hapi2)

/-- The configuration and what runs of it. -/
structure UnifiedDataStore where
  agent : ServerAgent
  dataStores : DataStores

namespace UnifiedDataStore

/-- (UnifiedDataStore.cc:141-152) -/
def startDataStore (u : UnifiedDataStore) (svInfo : MonitoringServerInfo) (fails : Bool) :
    Except ServerError Unit × UnifiedDataStore :=
  if !createsDataStore svInfo fails then (.error .failedToCreateDataStore, u)
  else match u.dataStores.add svInfo with
  | none => (.error .failedToRegisterDataStore, u)
  | some dataStores => (.ok (), { u with dataStores := dataStores })

/-- (UnifiedDataStore.cc:154-176) -/
def stopDataStore (u : UnifiedDataStore) (serverId : ServerIdType) :
    Except ServerError Unit × UnifiedDataStore :=
  if u.dataStores.has serverId then
    (.ok (), { u with dataStores := u.dataStores.remove serverId })
  else (.error .invalidParameter, u)

/-- (UnifiedDataStore.cc:852-864) -/
def addTargetServer (isValidIPAddress : CString → Bool) (answers : ServerTables.Answers)
    (fails : Bool) (u : UnifiedDataStore) (caller : ServerCaller)
    (svInfo : MonitoringServerInfo) (armPluginInfo : ArmPluginInfo) :
    Except ServerError Unit × UnifiedDataStore :=
  match u.agent.addTargetServer isValidIPAddress answers caller svInfo armPluginInfo with
  | (.error e, agent) => (.error e, { u with agent := agent })
  | (.ok (svInfo, _), agent) => ({ u with agent := agent } : UnifiedDataStore).startDataStore svInfo fails

/-- (UnifiedDataStore.cc:866-883) -/
def updateTargetServer (isValidIPAddress : CString → Bool) (answers : ServerTables.Answers)
    (fails : Bool) (u : UnifiedDataStore) (caller : ServerCaller)
    (svInfo : MonitoringServerInfo) (armPluginInfo : ArmPluginInfo) :
    Except ServerError Unit × UnifiedDataStore :=
  match u.agent.updateTargetServer isValidIPAddress answers caller svInfo armPluginInfo with
  | (.error e, agent) => (.error e, { u with agent := agent })
  | (.ok (svInfo, _), agent) =>
    match ({ u with agent := agent } : UnifiedDataStore).stopDataStore svInfo.id with
    | (.error e, u) => (.error e, u)
    | (.ok (), u) => u.startDataStore svInfo fails

/-- (UnifiedDataStore.cc:885-894) -/
def deleteTargetServer (u : UnifiedDataStore) (caller : ServerCaller) (serverId : ServerIdType) :
    Except ServerError Unit × UnifiedDataStore :=
  match u.agent.deleteTargetServer caller serverId with
  | (.error e, agent) => (.error e, { u with agent := agent })
  | (.ok (), agent) => ({ u with agent := agent } : UnifiedDataStore).stopDataStore serverId

end UnifiedDataStore

end Hatohol

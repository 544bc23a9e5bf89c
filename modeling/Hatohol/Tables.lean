import Hatohol.HostResourceQueryOption

/-!
# The tables of hosts and of what is monitored

The table profiles of server/src/DBTablesHost.cc and server/src/DBTablesMonitoring.cc that host
resource queries read, and the synapse of each query option.
-/

namespace Hatohol

open Sql

def tableProfileServerHostDef : TableProfile where
  name := "server_host_def"
  columnNames := ["id", "host_id", "server_id", "host_id_in_server", "name", "status"]
  isName_name := by decide
  isName_columns := by decide

def idxHostServerHostDefServerId : Fin tableProfileServerHostDef.numColumns := ⟨2, by decide⟩

def idxHostServerHostDefHostIdInServer : Fin tableProfileServerHostDef.numColumns := ⟨3, by decide⟩

def idxHostServerHostDefHostStatus : Fin tableProfileServerHostDef.numColumns := ⟨5, by decide⟩

def tableProfileHostgroupList : TableProfile where
  name := "hostgroup_list"
  columnNames := ["id", "server_id", "id_in_server", "name"]
  isName_name := by decide
  isName_columns := by decide

def tableProfileHostgroupMember : TableProfile where
  name := "hostgroup_member"
  columnNames := ["id", "server_id", "host_id_in_server", "host_group_id", "host_id"]
  isName_name := by decide
  isName_columns := by decide

def tableProfileTriggers : TableProfile where
  name := "triggers"
  columnNames := ["server_id", "id", "status", "severity", "last_change_time_sec",
    "last_change_time_ns", "global_host_id", "host_id_in_server", "hostname", "brief",
    "extended_info", "validity"]
  isName_name := by decide
  isName_columns := by decide

def idxTriggersServerId : Fin tableProfileTriggers.numColumns := ⟨0, by decide⟩

def tableProfileEvents : TableProfile where
  name := "events"
  columnNames := ["unified_id", "server_id", "id", "time_sec", "time_ns", "event_value",
    "trigger_id", "status", "severity", "global_host_id", "host_id_in_server", "hostname", "brief",
    "extended_info"]
  isName_name := by decide
  isName_columns := by decide

def tableProfileItems : TableProfile where
  name := "items"
  columnNames := ["global_id", "server_id", "id", "global_host_id", "host_id_in_server", "brief",
    "last_value_time_sec", "last_value_time_ns", "last_value", "prev_value", "value_type", "unit"]
  isName_name := by decide
  isName_columns := by decide

def idxItemsServerId : Fin tableProfileItems.numColumns := ⟨1, by decide⟩

def tableProfileItemCategories : TableProfile where
  name := "item_categories"
  columnNames := ["id", "global_item_id", "name"]
  isName_name := by decide
  isName_columns := by decide

/-- (DBTablesHost.cc:391-398) -/
def synapseHostsQueryOption : Synapse where
  serverIdColumn := ⟨tableProfileServerHostDef, ⟨2, by decide⟩⟩
  hostTableProfile := tableProfileServerHostDef
  hostIdColumnIdx := some ⟨3, by decide⟩
  needToJoinHostgroup := true
  hostgroupMapServerIdColumn := ⟨tableProfileHostgroupMember, ⟨1, by decide⟩⟩
  hostgroupMapHostIdColumn := ⟨tableProfileHostgroupMember, ⟨2, by decide⟩⟩
  hostgroupIdColumn := ⟨tableProfileHostgroupMember, ⟨3, by decide⟩⟩
  globalHostIdColumn := none
  hostgroupMapGlobalHostIdColumn := none
  server_ne_hostgroup := by decide
  host_ne := by decide

/-- (DBTablesHost.cc:460-468) Its host group is the row's own (DBTablesHost.cc:522-526). -/
def synapseHostgroupsQueryOption : Synapse where
  serverIdColumn := ⟨tableProfileHostgroupList, ⟨1, by decide⟩⟩
  hostTableProfile := tableProfileHostgroupList
  hostIdColumnIdx := none
  needToJoinHostgroup := false
  hostgroupMapServerIdColumn := ⟨tableProfileHostgroupMember, ⟨1, by decide⟩⟩
  hostgroupMapHostIdColumn := ⟨tableProfileHostgroupMember, ⟨2, by decide⟩⟩
  hostgroupIdColumn := ⟨tableProfileHostgroupList, ⟨2, by decide⟩⟩
  globalHostIdColumn := none
  hostgroupMapGlobalHostIdColumn := none
  server_ne_hostgroup := by decide
  host_ne := by decide

/-- (DBTablesHost.cc:536-543) -/
def synapseHostgroupMembersQueryOption : Synapse where
  serverIdColumn := ⟨tableProfileHostgroupMember, ⟨1, by decide⟩⟩
  hostTableProfile := tableProfileHostgroupMember
  hostIdColumnIdx := some ⟨2, by decide⟩
  needToJoinHostgroup := false
  hostgroupMapServerIdColumn := ⟨tableProfileHostgroupMember, ⟨1, by decide⟩⟩
  hostgroupMapHostIdColumn := ⟨tableProfileHostgroupMember, ⟨2, by decide⟩⟩
  hostgroupIdColumn := ⟨tableProfileHostgroupMember, ⟨3, by decide⟩⟩
  globalHostIdColumn := none
  hostgroupMapGlobalHostIdColumn := none
  server_ne_hostgroup := by decide
  host_ne := by decide

/-- The queries for triggers, events and items join the host groups by the global host ID. -/
def monitoringSynapse (serverIdColumn hostIdColumn globalHostIdColumn : Column)
    (hgroup : ∀ full, serverIdColumn.nameIn full ≠
      Column.nameIn full ⟨tableProfileHostgroupMember, ⟨3, by decide⟩⟩)
    (hhost : ∀ full, hostIdColumn.nameIn full ≠ serverIdColumn.nameIn full ∧
      hostIdColumn.nameIn full ≠ Column.nameIn full ⟨tableProfileHostgroupMember, ⟨3, by decide⟩⟩) :
    Synapse where
  serverIdColumn := serverIdColumn
  hostTableProfile := hostIdColumn.profile
  hostIdColumnIdx := some hostIdColumn.idx
  needToJoinHostgroup := true
  hostgroupMapServerIdColumn := ⟨tableProfileHostgroupMember, ⟨1, by decide⟩⟩
  hostgroupMapHostIdColumn := ⟨tableProfileHostgroupMember, ⟨2, by decide⟩⟩
  hostgroupIdColumn := ⟨tableProfileHostgroupMember, ⟨3, by decide⟩⟩
  globalHostIdColumn := some globalHostIdColumn
  hostgroupMapGlobalHostIdColumn := some ⟨tableProfileHostgroupMember, ⟨4, by decide⟩⟩
  server_ne_hostgroup := hgroup
  host_ne := by
    intro idx hidx full
    obtain rfl : hostIdColumn.idx = idx := by simpa using hidx
    exact hhost full

/-- (DBTablesMonitoring.cc:988-997) -/
def synapseEventsQueryOption : Synapse :=
  monitoringSynapse ⟨tableProfileEvents, ⟨1, by decide⟩⟩ ⟨tableProfileEvents, ⟨10, by decide⟩⟩
    ⟨tableProfileEvents, ⟨9, by decide⟩⟩ (by decide) (by decide)

/-- (DBTablesMonitoring.cc:1452-1461) -/
def synapseTriggersQueryOption : Synapse :=
  monitoringSynapse ⟨tableProfileTriggers, ⟨0, by decide⟩⟩ ⟨tableProfileTriggers, ⟨7, by decide⟩⟩
    ⟨tableProfileTriggers, ⟨6, by decide⟩⟩ (by decide) (by decide)

/-- (DBTablesMonitoring.cc:1753-1760) -/
def synapseItemsQueryOption : Synapse :=
  monitoringSynapse ⟨tableProfileItems, ⟨1, by decide⟩⟩ ⟨tableProfileItems, ⟨4, by decide⟩⟩
    ⟨tableProfileItems, ⟨3, by decide⟩⟩ (by decide) (by decide)

end Hatohol

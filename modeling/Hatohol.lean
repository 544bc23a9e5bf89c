import Hatohol.Sql.Lexer
import Hatohol.Sql.Condition
import Hatohol.Sql.Text
import Hatohol.Sql.Alternatives
import Hatohol.Sql.Grammar
import Hatohol.Table.Keyed
import Hatohol.Table.Reconcile
import Hatohol.Params
import Hatohol.Sql.Dialects
import Hatohol.DBTermCodec
import Hatohol.DataQueryOption
import Hatohol.HostResourceQueryOption
import Hatohol.Tables
import Hatohol.HostResource.Form
import Hatohol.HostResource.Joins
import Hatohol.HostResource.Meaning
import Hatohol.HostResource.Access
import Hatohol.HostResource.Filters
import Hatohol.HostResource.Grammar
import Hatohol.HostResource.Appending
import Hatohol.HostResource.System
import Hatohol.EventsQueryOption
import Hatohol.Events.Composition
import Hatohol.DBTablesHost
import Hatohol.Hosts.Listing
import Hatohol.Hosts.Sync
import Hatohol.TriggersQueryOption
import Hatohol.DBTablesTriggers
import Hatohol.Triggers.Sync
import Hatohol.ItemsQueryOption
import Hatohol.DBTablesItems
import Hatohol.Items.Categories
import Hatohol.Items.Tables
import Hatohol.Items.Sync
import Hatohol.Items.Runs
import Hatohol.Sync.Atomicity
import Hatohol.Hosts.Sessions
import Hatohol.Container.Multimap
import Hatohol.Machine.Component
import Hatohol.HatoholArmPluginGateHAPI2
import Hatohol.Divided.Parts
import Hatohol.Divided.Transfer
import Hatohol.Divided.Errors
import Hatohol.Divided.Timers
import Hatohol.HatoholArmPluginInterfaceHAPI2
import Hatohol.Calls.Completion
import Hatohol.Calls.Fetch
import Hatohol.Calls.Closures
import Hatohol.Machine.Steps
import Hatohol.CommandActionContext
import Hatohol.Commands.Stage
import Hatohol.SessionManager
import Hatohol.Sessions.Logout
import Hatohol.DBTablesAction
import Hatohol.Actions.Ownership
import Hatohol.ActionManager
import Hatohol.Actions.OncePerEvent
import Hatohol.Machine.Programs
import Hatohol.ResidentInfo
import Hatohol.Resident.Turns
import Hatohol.Resident.Steps
import Hatohol.DBTablesIncidents
import Hatohol.Incidents.CommentCount
import Hatohol.RestResourceIncident
import Hatohol.Incidents.Creation
import Hatohol.Incidents.Privacy
import Hatohol.FaceRest
import Hatohol.Rest.Queueing
import Hatohol.IncidentSender
import Hatohol.IncidentSenderThread
import Hatohol.IncidentSenderManager
import Hatohol.Incidents.Duplicates
import Hatohol.Incidents.Updates
import Hatohol.Rest.Answers
import Hatohol.ArmRedmine
import Hatohol.Incidents.Jobs
import Hatohol.Incidents.Settings
import Hatohol.Incidents.PageLoop
import Hatohol.Incidents.Polling
import Hatohol.ActionRecovery
import Hatohol.Actions.Recovery
import Hatohol.DBTables
import Hatohol.Migrations.Once
import Hatohol.DBTablesUser
import Hatohol.Migrations.Privileges
import Hatohol.Users.SelfService
import Hatohol.Users.Uniqueness
import Hatohol.Users.AccessList
import Hatohol.DBAgent
import Hatohol.Agents.Upserts
import Hatohol.DBAgentMySQL
import Hatohol.Agents.Transactions
import Hatohol.Haplib
import Hatohol.Plugins.Division
import Hatohol.Plugins.Suppression
import Hatohol.Dispatcher
import Hatohol.Plugins.Replies
import Hatohol.Time.Digits
import Hatohol.Time.Calendar
import Hatohol.Time.Rounding
import Hatohol.TimeStamp
import Hatohol.Hapcommon
import Hatohol.Plugins.TimeStamps
import Hatohol.Hap2NagiosNDOUtils
import Hatohol.Plugins.NagiosTriggers
import Hatohol.HapiProcessor
import Hatohol.Hap2ZabbixAPI
import Hatohol.Plugins.FetchCompletion
import Hatohol.Plugins.TriggerFetch
import Hatohol.ServerQueryOption
import Hatohol.DBTablesConfig
import Hatohol.Servers.Refusals
import Hatohol.Servers.Pairing
import Hatohol.UnifiedDataStore
import Hatohol.Servers.DataStores
import Hatohol.StringUtils
import Hatohol.Buffers.Bytes
import Hatohol.SmartBuffer
import Hatohol.NamedPipe
import Hatohol.Pipes.Timeouts
import Hatohol.Pipes.Transparency
import Hatohol.ChildProcessManager
import Hatohol.Children.Collection
import Hatohol.FetchWorker
import Hatohol.Fetches.Rounds
import Hatohol.Fetches.Completion
import Hatohol.HostResource.Hostgroups
import Hatohol.Items.Convergence
import Hatohol.Machine.Loops
import Hatohol.ArmBase
import Hatohol.Arms.ConnectStatus
import Hatohol.Time.Acceptance
import Hatohol.Sql.Tests
import Hatohol.Actions.Conditions
import Hatohol.Actions.Matching
import Hatohol.Actions.Storage
import Hatohol.Actions.RoundTrip
import Hatohol.Hosts.Accessibility
import Hatohol.JSONParser
import Hatohol.Divided.Parsing
import Hatohol.Divided.ResponseIds
import Hatohol.Divided.Times
import Hatohol.Sql.Statements
import Hatohol.Events.Statistics
import Hatohol.ActionExecArgMaker
import Hatohol.Actions.Quoting
import Hatohol.Buffers.Strings
import Hatohol.ZabbixAPI
import Hatohol.Users.Permissions
import Hatohol.Triggers.Condition
import Hatohol.Triggers.HostCounts
import Hatohol.Fetches.Targets
import Hatohol.Python.Values
import Hatohol.Haplib.Receiver
import Hatohol.Container.OrderedMap
import Hatohol.Sql.IndexStatements
import Hatohol.Agents.Indexes
import Hatohol.Agents.Fixup
import Hatohol.Agents.IndexLaws
import Hatohol.Agents.IndexRows
import Hatohol.Agents.Convergence
import Hatohol.SmartTime
import Hatohol.StatisticsCounter
import Hatohol.Python.Biggest
import Hatohol.Documents.Cursor
import Hatohol.RestResourceUtils
import Hatohol.Rest.HostFilters
import Hatohol.Rest.HostgroupName
import Hatohol.Resident.RoundTrip
import Hatohol.Agents.UpsertIds
import Hatohol.SQLUtils
import Hatohol.Agents.ColumnValues
import Hatohol.SelfMonitor
import Hatohol.Monitors.Cascade
import Hatohol.Monitors.StatusLaw
import Hatohol.Machine.Threads
import Hatohol.Arms.JobQueue
import Hatohol.HatoholThreadBase
import Hatohol.Plugins.Starter
import Hatohol.Plugins.Poller
import Hatohol.HatoholDBUtils
import Hatohol.ThreadLocalDBCache
import Hatohol.AMQPConsumer
import Hatohol.Monitors.Circularity
import Hatohol.HostInfoCache
import Hatohol.Hosts.ReportedIds
import Hatohol.Hosts.Cached
import Hatohol.GateJSONEventMessage
import Hatohol.HatoholArmPluginGateJSON
import Hatohol.Events.Storing

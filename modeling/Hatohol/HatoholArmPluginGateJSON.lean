import Hatohol.GateJSONEventMessage
import Hatohol.HostInfoCache
import Hatohol.Hosts.ReportedIds

/-!
# HatoholArmPluginGateJSON

The gate for events that come as JSON messages (server/src/HatoholArmPluginGateJSON.cc). It finds
the host of an event by its name, or makes one, and remembers the IDs. Hosts are stored by others
too, and the server may be started anew; what is remembered is lost then, and not read again.
-/

namespace Hatohol

/-- An event as it is handed to `addEventList`. -/
structure JSONEventInfo where
  serverId : ServerIdType
  id : List Char
  time : Timespec
  type : GateJSON.EventType
  severity : GateJSON.TriggerSeverityType
  hostName : CString
  globalHostId : HostIdType
  hostIdInServer : LocalHostIdType
  brief : CString
  deriving DecidableEq, Repr

/-- `hosts` is what AMQPJSONMessageHandler remembers, `errors` what is logged. An exception ends the
    thread of the consumer. -/
structure JSONGate where
  tables : HostTables
  hosts : Std.TreeMap CString HostIdType
  events : List JSONEventInfo
  errors : List String
  running : Bool

/-- `deliver` brings what json-glib makes of a message, if it can parse it. -/
inductive JSONGateEvent where
  | deliver (root : Option JsonNode)
  | store (call : HostCall)
  | restart

namespace JSONGate

open GateJSONEventMessage Sql

/-- The context of INVALID_USER_ID: there is no privilege, no server that is seen without one, and
    no entry in the access list. -/
def nobody : DataQueryContext := ⟨⟨0⟩, ∅, ∅⟩

/-- The query is made without a user. -/
def initialOption (serverId : ServerIdType) : HostsQueryOption :=
  let o := HostsQueryOption.new nobody
  { o with base := { o.base with targetServerId := serverId } }

/-- (HatoholArmPluginGateJSON.cc:71-86) -/
def initializeHosts (t : HostTables) (serverId : ServerIdType) :
    Except HatoholException (Std.TreeMap CString HostIdType) := do
  let svHostDefVect ← t.getServerHostDefs (initialOption serverId)
  pure (svHostDefVect.foldl (fun hosts svHostDef => hosts.insert svHostDef.name svHostDef.hostId) ∅)

variable (glib : GateJSON.GLib) (serverId : ServerIdType)

/-- The host that is made for a name. -/
def namedHost (hostName : CString) : ServerHostDef where
  id := autoIncrementValue
  hostId := autoAssignedId
  serverId := serverId
  hostIdInServer := hostName
  name := hostName
  status := .inapplicable

/-- (HatoholArmPluginGateJSON.cc:122-146) -/
def findOrCreateHostID (g : JSONGate) (hostName : CString) :
    Except HatoholException (JSONGate × HostIdType) :=
  if hostName = emptyText then .ok (g, invalidHostId)
  else
    match g.hosts[hostName]? with
    | some hostId => .ok (g, hostId)
    | none =>
      match g.tables.upsertHost (namedHost serverId hostName) with
      | .error e => .error e
      | .ok (tables, hostId) =>
        .ok ({ g with tables := tables, hosts := g.hosts.insert hostName hostId }, hostId)

/-- The event of a message with the ID of its host. -/
def eventInfo (message : GateJSONEventMessage) (globalHostId : HostIdType) : JSONEventInfo where
  serverId := serverId
  id := idString message.id
  time := message.timestamp
  type := message.type
  severity := message.severity
  hostName := message.hostName
  globalHostId := globalHostId
  hostIdInServer := message.hostName
  brief := message.content

/-- (HatoholArmPluginGateJSON.cc:104-120) -/
def processEventMessage (g : JSONGate) (message : GateJSONEventMessage) : JSONGate :=
  match g.findOrCreateHostID serverId message.hostName with
  | .error _ => { g with running := false }
  | .ok (g, globalHostId) =>
    { g with events := g.events ++ [eventInfo serverId message globalHostId] }

/-- (HatoholArmPluginGateJSON.cc:88-102) Where a getter had nothing to read, the process would
    end. -/
def process (g : JSONGate) (root : JsonNode) : JSONGate :=
  match validate glib root with
  | .error error => { g with errors := g.errors ++ [error] }
  | .ok () =>
    match read glib root with
    | none => { g with running := false }
    | some message => g.processEventMessage serverId message

/-- What happens to the gate and its tables. -/
def step (g : JSONGate) : JSONGateEvent → JSONGate
  | .deliver root =>
    if g.running then
      match root with
      | none => g
      | some root => g.process glib serverId root
    else g
  | .store call => { g with tables := call.run g.tables }
  | .restart =>
    match initializeHosts g.tables serverId with
    | .error _ => { g with running := false }
    | .ok hosts => { g with hosts := hosts, running := true }

def run (g : JSONGate) (events : List JSONGateEvent) : JSONGate :=
  events.foldl (step glib serverId) g

/-- The gate is made while the tables are as they are. -/
def new (t : HostTables) : JSONGate := step glib serverId ⟨t, ∅, [], [], false⟩ .restart

/-! ## What the gate is for -/

/-- What a message says that passes the checks. -/
def accepted : JSONGateEvent → Option GateJSONEventMessage
  | .deliver (some root) =>
    match validate glib root with
    | .error _ => none
    | .ok () => read glib root
  | _ => none

/-- The ID that the tables have for a name. -/
def directory (t : HostTables) (hostName : CString) : HostIdType :=
  if hostName = emptyText then invalidHostId
  else ((t.host (serverId, hostName)).map ServerHostDef.hostId).getD invalidHostId

/-- Nobody else stores a new host with the ID zero. -/
def Meets (g : JSONGate) : JSONGateEvent → Prop
  | .store call => call.NoHostIdZero g.tables
  | .deliver _ | .restart => True

def AllMeet (g : JSONGate) : List JSONGateEvent → Prop
  | [] => True
  | event :: events => g.Meets event ∧ (g.step glib serverId event).AllMeet events

/-- Every event has the ID that the tables have, and is there for a message. -/
structure Sound (seen : List GateJSONEventMessage) (g : JSONGate) : Prop where
  running : g.running = true
  hosts : ∀ hostName hostId, g.hosts[hostName]? = some hostId →
    ∃ curr, g.tables.host (serverId, hostName) = some curr ∧ curr.hostId = hostId
  events : g.events = seen.map fun message =>
    eventInfo serverId message (directory serverId g.tables message.hostName)
  stored : ∀ message ∈ seen, message.hostName ≠ emptyText →
    (g.tables.host (serverId, message.hostName)).isSome

variable {glib serverId} {seen : List GateJSONEventMessage} {g : JSONGate}

/-! ## The start -/

theorem getCondition_initialOption :
    (initialOption serverId).getCondition = .ok alwaysFalseCondition := by
  have hhas : nobody.privilege.has .getAllServer = false := by decide
  have hcondition : (initialOption serverId).base.getCondition = .ok alwaysFalseCondition := by
    unfold HostResourceQueryOption.getCondition HostResourceQueryOption.has
    rw [show (initialOption serverId).base.context = nobody from rfl, hhas]
    rfl
  have hall : (initialOption serverId).statuses.contains .all = true :=
    (by decide : (HostsQueryOption.new nobody).statuses.contains .all = true)
  unfold HostsQueryOption.getCondition
  rw [hcondition]
  simp only [bind, Except.bind, pure, Except.pure, hall, if_true]

theorem initializeHosts_eq (t : HostTables) : initializeHosts t serverId = .ok ∅ := by
  have hread : t.getServerHostDefs (initialOption serverId) = .ok [] := by
    unfold HostTables.getServerHostDefs
    rw [getCondition_initialOption]
    have hgroups : (initialOption serverId).base.isHostgroupUsed = false :=
      (by decide : (HostsQueryOption.new nobody).base.isHostgroupUsed = false)
    simp only [bind, Except.bind, pure, Except.pure, hgroups, Bool.false_eq_true, if_false]
    have hconst : Denotes alwaysFalseCondition (some (.const 0)) := denotes_const 0
    refine congrArg Except.ok (List.filter_eq_nil_iff.mpr fun h _ => ?_)
    rw [hconst.selects_eq]
    exact Bool.false_ne_true
  rw [initializeHosts, hread]
  rfl

/-! ## A step -/

theorem directory_of_host {t : HostTables} {hostName : CString} (hne : hostName ≠ emptyText)
    {curr : ServerHostDef} (hcurr : t.host (serverId, hostName) = some curr) :
    directory serverId t hostName = curr.hostId := by
  rw [directory, if_neg hne, hcurr]
  rfl

theorem directory_of_extends {t t' : HostTables} (hextends : t.Extends t') {hostName : CString}
    (hstored : hostName ≠ emptyText → (t.host (serverId, hostName)).isSome) :
    directory serverId t' hostName = directory serverId t hostName := by
  by_cases hne : hostName = emptyText
  · rw [directory, directory, if_pos hne, if_pos hne]
  · obtain ⟨curr, hcurr⟩ := Option.isSome_iff_exists.mp (hstored hne)
    obtain ⟨curr', hcurr', -, hsame⟩ := hextends.hosts _ curr hcurr
    rw [directory_of_host hne hcurr, directory_of_host hne hcurr', hsame]

/-- The tables may be extended. -/
theorem Sound.extend (h : g.Sound serverId seen) {t : HostTables}
    (hextends : g.tables.Extends t) : ({ g with tables := t } : JSONGate).Sound serverId seen where
  running := h.running
  hosts hostName hostId hfound := by
    obtain ⟨curr, hcurr, hid⟩ := h.hosts hostName hostId hfound
    obtain ⟨curr', hcurr', -, hsame⟩ := hextends.hosts _ curr hcurr
    exact ⟨curr', hcurr', hsame.trans hid⟩
  events := h.events.trans (List.map_congr_left fun message hmessage => by
    rw [directory_of_extends hextends (h.stored message hmessage)])
  stored message hmessage hne := by
    obtain ⟨curr, hcurr⟩ := Option.isSome_iff_exists.mp (h.stored message hmessage hne)
    obtain ⟨curr', hcurr', -⟩ := hextends.hosts _ curr hcurr
    exact Option.isSome_iff_exists.mpr ⟨curr', hcurr'⟩

/-- The ID that is found or made is that of the tables. -/
theorem Sound.findOrCreateHostID (h : g.Sound serverId seen) (hostName : CString) :
    ∃ g' : JSONGate, g.findOrCreateHostID serverId hostName =
        .ok (g', directory serverId g'.tables hostName) ∧ g'.Sound serverId seen ∧
      (hostName ≠ emptyText → (g'.tables.host (serverId, hostName)).isSome) := by
  unfold JSONGate.findOrCreateHostID
  split
  next hempty =>
    have hdirectory : directory serverId g.tables hostName = invalidHostId := if_pos hempty
    exact ⟨g, by rw [hdirectory], h, fun hne => absurd hempty hne⟩
  next hne =>
    split
    next hostId hfound =>
      obtain ⟨curr, hcurr, hid⟩ := h.hosts hostName hostId hfound
      refine ⟨g, ?_, h, fun _ => Option.isSome_iff_exists.mpr ⟨curr, hcurr⟩⟩
      rw [directory_of_host hne hcurr, hid]
    next hnone =>
      have hfits : g.tables.Fits (namedHost serverId hostName) := ⟨fun _ => hne, .inl ⟨rfl, rfl⟩⟩
      obtain ⟨t, hostId, hupsert, -⟩ := HostTables.upsertHost_spec hfits
      obtain ⟨curr, hcurr, hid⟩ := HostTables.hostId_upsertHost hfits hupsert
      have hdirectory : directory serverId t hostName = hostId :=
        (directory_of_host hne hcurr).trans hid
      have hextends := HostTables.extends_upsertHost hfits.admits hupsert
      rw [hupsert]
      refine ⟨{ g with tables := t, hosts := g.hosts.insert hostName hostId }, ?_,
        { h.extend hextends with hosts := fun name id hfound => ?_ },
        fun _ => Option.isSome_iff_exists.mpr ⟨curr, hcurr⟩⟩
      · rw [hdirectory]
      · rw [Std.TreeMap.getElem?_insert] at hfound
        split at hfound
        next hsame =>
          obtain rfl : hostName = name := Std.LawfulEqCmp.eq_of_compare hsame
          exact ⟨curr, hcurr, hid.trans (Option.some.inj hfound)⟩
        next => exact (h.extend hextends).hosts name id hfound

theorem Sound.processEventMessage (h : g.Sound serverId seen) (message : GateJSONEventMessage) :
    (g.processEventMessage serverId message).Sound serverId (seen ++ [message]) := by
  obtain ⟨g', hfound, hsound, hstored⟩ := h.findOrCreateHostID message.hostName
  unfold JSONGate.processEventMessage
  rw [hfound]
  refine ⟨hsound.running, hsound.hosts, ?_, fun message' hmessage' => ?_⟩
  · rw [List.map_append, ← hsound.events]
    rfl
  · rcases List.mem_append.mp hmessage' with hseen | hlast
    · exact hsound.stored message' hseen
    · rw [List.mem_singleton.mp hlast]
      exact hstored

/-- Nothing is accepted. -/
theorem Sound.unaccepted (h : g.Sound serverId seen) {event : JSONGateEvent}
    (hnone : accepted glib event = none) :
    g.Sound serverId (seen ++ (accepted glib event).toList) := by
  rwa [hnone, Option.toList_none, List.append_nil]

theorem Sound.process (h : g.Sound serverId seen) (root : JsonNode) :
    (g.process glib serverId root).Sound serverId
      (seen ++ (accepted glib (.deliver (some root))).toList) := by
  unfold JSONGate.process
  cases hvalid : validate glib root with
  | error error =>
    have hnone : accepted glib (.deliver (some root)) = none := by rw [accepted, hvalid]
    have hlogged : ({ g with errors := g.errors ++ [error] } : JSONGate).Sound serverId seen :=
      ⟨h.running, h.hosts, h.events, h.stored⟩
    exact hlogged.unaccepted hnone
  | ok =>
    obtain ⟨message, hread⟩ := Option.isSome_iff_exists.mp (validate_ok_iff.mp hvalid).2
    have haccepted : accepted glib (.deliver (some root)) = some message := by
      rw [accepted, hvalid]
      exact hread
    rw [haccepted, hread]
    exact h.processEventMessage message

theorem Sound.step (h : g.Sound serverId seen) {event : JSONGateEvent} (hmeets : g.Meets event) :
    (g.step glib serverId event).Sound serverId (seen ++ (accepted glib event).toList) := by
  cases event with
  | deliver root =>
    unfold JSONGate.step
    dsimp only
    rw [if_pos h.running]
    cases root with
    | none => exact h.unaccepted rfl
    | some root => exact h.process root
  | store call => exact (h.extend (HostCall.extends_run hmeets)).unaccepted rfl
  | restart =>
    unfold JSONGate.step
    rw [initializeHosts_eq]
    have hanew : ({ g with hosts := ∅, running := true } : JSONGate).Sound serverId seen :=
      ⟨rfl, fun hostName hostId hfound => absurd hfound (by simp), h.events, h.stored⟩
    exact hanew.unaccepted rfl

theorem Sound.run {events : List JSONGateEvent} (h : g.Sound serverId seen)
    (hmeets : g.AllMeet glib serverId events) :
    (g.run glib serverId events).Sound serverId (seen ++ events.filterMap (accepted glib)) := by
  induction events generalizing g seen with
  | nil =>
    rw [List.filterMap_nil, List.append_nil]
    exact h
  | cons event events ih =>
    have hlast := ih (h.step hmeets.1) hmeets.2
    rw [List.append_assoc] at hlast
    rw [List.filterMap_cons]
    cases haccepted : accepted glib event <;> rw [haccepted] at hlast <;> exact hlast

theorem sound_new (t : HostTables) : (new glib serverId t).Sound serverId [] := by
  unfold new JSONGate.step
  rw [initializeHosts_eq]
  exact ⟨rfl, fun hostName hostId hfound => absurd hfound (by simp), rfl, nofun⟩

/-- GLib for one text that is a time. -/
def oneTime : GateJSON.GLib where
  generate _ := "null"
  doubleTime _ := ⟨1407824772, 500000000⟩
  iso8601 text := if text.text = "2014-08-12T06:26:12Z" then some (1407824772, 0) else none

def webMessage (id : Int64) : JsonNode :=
  .object [("type", .string "event"), ("body", .object [("id", .int id),
    ("timestamp", .string "2014-08-12T06:26:12Z"), ("hostName", .string "web"),
    ("content", .string "Error!")])]

/-- A host has two events, one after a restart, and a message between them has no body. -/
def restarted : List JSONGateEvent :=
  [.deliver (some (webMessage 1)), .deliver (some (.object [("type", .string "event")])), .restart,
    .deliver none, .deliver (some (webMessage 2))]

end JSONGate

end Hatohol

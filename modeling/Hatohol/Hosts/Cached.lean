import Hatohol.HostInfoCache
import Hatohol.Hosts.ReportedIds

/-!
# The host IDs of triggers

Plugins put hosts, and their triggers and events name hosts. The gate stores the hosts that are put
and keeps them in its cache, where the triggers find the IDs
(server/src/HatoholArmPluginGateHAPI2.cc:2157-2168, 2579-2594, 2628-2631, 2844-2847). A host that a
trigger has named before it was put has no ID there, and gets one only with another name.
-/

namespace Hatohol

open Table

namespace HostTables

variable {serverId : ServerIdType}

/-! ## Hosts that are put -/

theorem isNamed_of_upsertHosts {hs : List ServerHostDef} {t t' : HostTables}
    {hostIds hostIds' : HostHostIdMap} (hruns : upsertHosts hs t hostIds = .ok (t', hostIds')) :
    ∀ h ∈ hs, h.isNamed := by
  induction hs generalizing t hostIds with
  | nil => exact fun _ hmem => absurd hmem List.not_mem_nil
  | cons h hs ih =>
    rw [upsertHosts] at hruns
    cases hupsert : t.upsertHost h with
    | error e =>
      rw [hupsert] at hruns
      cases hruns
    | ok result =>
      rw [hupsert] at hruns
      intro h' hh'
      rcases List.mem_cons.mp hh' with rfl | hh'
      · by_contra hname
        rw [upsertHost, dif_neg hname] at hupsert
        cases hupsert
      · exact ih hruns h' hh'

/-- Of the hosts with one key the last one counts. -/
theorem hasHost_upsertHosts {hs : List ServerHostDef} {t t' : HostTables}
    {hostIds hostIds' : HostHostIdMap} (hfits : ∀ h ∈ hs, t.Fits h)
    (hruns : upsertHosts hs t hostIds = .ok (t', hostIds')) {pre post : List ServerHostDef}
    {h : ServerHostDef} (hsplit : hs = pre ++ h :: post) (hlast : ∀ h' ∈ post, h'.key ≠ h.key) :
    t'.HasHost h.key h.name h.status := by
  induction pre generalizing hs t hostIds with
  | nil =>
    subst hsplit
    obtain ⟨u, hostId, hupsert, hstores⟩ := upsertHost_spec (hfits h List.mem_cons_self)
    rw [List.nil_append, upsertHosts, hupsert] at hruns
    obtain ⟨t₁, hostIds₁, hruns₁, hothers, -⟩ :=
      upsertHosts_spec (fun h' hh' => hstores.fits (hfits h' (List.mem_cons_of_mem _ hh')))
        (hostIds.insert h.hostIdInServer hostId)
    obtain ⟨rfl, -⟩ := Prod.mk.inj (Except.ok.inj (hruns₁.symm.trans hruns))
    obtain ⟨curr, hcurr, hname, hstatus, -⟩ := hstores.stored
    exact ⟨curr, (hothers _ hlast).trans hcurr, hname, hstatus⟩
  | cons g pre ih =>
    subst hsplit
    obtain ⟨u, hostId, hupsert, hstores⟩ := upsertHost_spec (hfits g List.mem_cons_self)
    rw [List.cons_append, upsertHosts, hupsert] at hruns
    exact ih (fun h' hh' => hstores.fits (hfits h' (List.mem_cons_of_mem _ hh'))) hruns rfl

/-- `updateHostsInfo` without the cache (HatoholArmPluginGateHAPI2.cc:2157-2168). -/
def putHosts (t : HostTables) (servers : ServerIdSet) (serverId : ServerIdType) (all : Bool)
    (reports : List HostReport) : Except HatoholException (HostTables × HostHostIdMap) :=
  if all then
    (t.syncHosts servers (reports.map (hostInfo serverId)) serverId).map fun synced =>
      (synced.tables, synced.hostIds)
  else upsertHosts (reports.map (hostInfo serverId)) t ∅

/-- What a put changes. A host that has no entry in the map is one that was current already, under
    the name that is reported. -/
structure Puts (t : HostTables) (servers : ServerIdSet) (serverId : ServerIdType)
    (reports : List HostReport) (t' : HostTables) (hostIds : HostHostIdMap) : Prop where
  keeps : t.Extends t'
  others : ∀ k : ServerIdType × LocalHostIdType, k.1 ≠ serverId → t'.host k = t.host k
  named : ∀ report ∈ reports, report.hostName ≠ emptyText
  hostIds : ∀ report ∈ reports, ∃ curr, t'.host (serverId, report.hostId) = some curr ∧
    (hostIds[report.hostId]? = some curr.hostId ∨
      hostIds[report.hostId]? = none ∧
        (∀ report' ∈ reports, report'.hostId = report.hostId → report' = report) ∧
        ∃ old, t.host (serverId, report.hostId) = some old ∧ isCurrent servers serverId old ∧
          old.name = report.hostName)
  current : ∀ id curr, t'.host (serverId, id) = some curr → isCurrent servers serverId curr →
    (∃ pre report post, reports = pre ++ report :: post ∧ report.hostId = id ∧
      (∀ report' ∈ post, report'.hostId ≠ id) ∧ curr.name = report.hostName) ∨
    (∀ report ∈ reports, report.hostId ≠ id) ∧ t.host (serverId, id) = some curr

theorem exists_last {α : Type} {p : α → Prop} {l : List α} (hex : ∃ a ∈ l, p a) :
    ∃ pre a post, l = pre ++ a :: post ∧ p a ∧ ∀ b ∈ post, ¬p b := by
  induction l with
  | nil => exact absurd hex (by simp)
  | cons a l ih =>
    by_cases hlater : ∃ b ∈ l, p b
    · obtain ⟨pre, b, post, rfl, hb, hpost⟩ := ih hlater
      exact ⟨a :: pre, b, post, rfl, hb, hpost⟩
    · obtain ⟨b, hmem, hb⟩ := hex
      rcases List.mem_cons.mp hmem with rfl | hmem
      · exact ⟨[], b, l, rfl, hb, fun c hc hpc => hlater ⟨c, hc, hpc⟩⟩
      · exact absurd ⟨b, hmem, hb⟩ hlater

theorem fits_hostInfo (t : HostTables) {report : HostReport} (hname : report.hostName ≠ emptyText) :
    t.Fits (hostInfo serverId report) := ⟨fun _ => hname, .inl ⟨rfl, rfl⟩⟩

theorem fits_hostInfos (t : HostTables) {reports : List HostReport}
    (hnames : ∀ report ∈ reports, report.hostName ≠ emptyText) :
    ∀ h ∈ reports.map (hostInfo serverId), t.Fits h := by
  intro h hh
  obtain ⟨report, hreport, rfl⟩ := List.mem_map.mp hh
  exact t.fits_hostInfo (hnames report hreport)

theorem hosts_upsertHosts {hs : List ServerHostDef} {t t' : HostTables}
    {hostIds hostIds' : HostHostIdMap} (hfits : ∀ h ∈ hs, t.Fits h)
    (hruns : upsertHosts hs t hostIds = .ok (t', hostIds')) {k : ServerIdType × LocalHostIdType}
    (hkeys : ∀ h ∈ hs, h.key ≠ k) : t'.host k = t.host k := by
  obtain ⟨t₁, hostIds₁, hruns₁, hothers, -⟩ := upsertHosts_spec hfits hostIds
  obtain ⟨rfl, -⟩ := Prod.mk.inj (Except.ok.inj (hruns₁.symm.trans hruns))
  exact hothers k hkeys

theorem puts_of_upsertHosts {t t' : HostTables} {servers : ServerIdSet} {reports : List HostReport}
    {hostIds : HostHostIdMap}
    (hruns : upsertHosts (reports.map (hostInfo serverId)) t ∅ = .ok (t', hostIds)) :
    t.Puts servers serverId reports t' hostIds := by
  have hnames : ∀ report ∈ reports, report.hostName ≠ emptyText := fun report hreport =>
    isNamed_of_upsertHosts hruns _ (List.mem_map_of_mem hreport) nofun
  have hfits : ∀ h ∈ reports.map (hostInfo serverId), t.Fits h := t.fits_hostInfos hnames
  have hserver : ∀ h ∈ reports.map (hostInfo serverId), h.serverId = serverId := by
    intro h hh
    obtain ⟨report, -, rfl⟩ := List.mem_map.mp hh
    rfl
  refine ⟨extends_upsertHosts (fun h hh => (hfits h hh).admits) hruns, fun k hk => ?_, hnames,
    fun report hreport => ?_, fun id curr hcurr hcurrent => ?_⟩
  · refine hosts_upsertHosts hfits hruns fun h hh hkey => hk ?_
    rw [← hkey]
    exact hserver h hh
  · obtain ⟨curr, hcurr, hid⟩ := (hostIds_upsertHosts hfits hserver hruns report.hostId).1
      ⟨_, List.mem_map_of_mem hreport, rfl⟩
    exact ⟨curr, hcurr, .inl hid⟩
  · by_cases hreported : ∃ report ∈ reports, report.hostId = id
    · obtain ⟨pre, report, post, rfl, hid, hlast⟩ := exists_last hreported
      obtain ⟨curr', hcurr', hname, -⟩ := hasHost_upsertHosts hfits hruns
        (List.map_append.trans (congrArg _ List.map_cons)) (by
          intro h hh hkey
          obtain ⟨report', hreport', rfl⟩ := List.mem_map.mp hh
          exact hlast report' hreport' ((congrArg Prod.snd hkey).trans hid))
      have hsame : curr' = curr := by
        rw [ServerHostDef.key] at hcurr'
        simp only [hostInfo, hid, hcurr] at hcurr'
        exact (Option.some.inj hcurr').symm
      exact .inl ⟨pre, report, post, rfl, hid, hlast, hsame ▸ hname⟩
    · have habsent : ∀ report ∈ reports, report.hostId ≠ id := fun report hreport hid =>
        hreported ⟨report, hreport, hid⟩
      refine .inr ⟨habsent, (hosts_upsertHosts hfits hruns fun h hh hkey => ?_).symm.trans hcurr⟩
      obtain ⟨report, hreport, rfl⟩ := List.mem_map.mp hh
      exact habsent report hreport (congrArg Prod.snd hkey)

/-- What `syncHosts` stores has been stored by `upsertHosts`. -/
theorem upserts_of_syncHosts {t : HostTables} {servers : ServerIdSet} {reports : List HostReport}
    {synced : SyncedHosts} (hserver : serverId ≠ allServers)
    (hruns : t.syncHosts servers (reports.map (hostInfo serverId)) serverId = .ok synced) :
    upsertHosts (t.upserts servers serverId reports) t ∅ = .ok (synced.tables, synced.hostIds) := by
  unfold syncHosts at hruns
  rw [t.getServerHostDefs_current servers hserver] at hruns
  simp only [bind, Except.bind] at hruns
  unfold upserts
  split at hruns
  next hnil =>
    obtain rfl := Except.ok.inj hruns
    rw [hnil]
    rfl
  next =>
    cases hupsert : upsertHosts (hostsToUpsert (t.serverHostDef.rows.filter
        (isCurrent servers serverId)) (reports.map (hostInfo serverId))) t ∅ with
    | error e =>
      rw [hupsert] at hruns
      cases hruns
    | ok result =>
      rw [hupsert] at hruns
      obtain rfl := Except.ok.inj hruns
      rfl

section Upserts

variable {t t' : HostTables} {servers : ServerIdSet} {reports : List HostReport}
  {hostIds : HostHostIdMap} (hdistinct : (reports.map HostReport.hostId).Nodup)

include hdistinct

/-- A host that is not stored is current already. -/
theorem current_of_not_upserted {report : HostReport} (hreport : report ∈ reports)
    (hnone : ¬∃ h ∈ t.upserts servers serverId reports, h.hostIdInServer = report.hostId) :
    ∃ old, t.host (serverId, report.hostId) = some old ∧ isCurrent servers serverId old ∧
      old.name = report.hostName := by
  by_contra hnew
  refine hnone ⟨hostInfo serverId report,
    (mem_upserts hdistinct).mpr (.inl ⟨report, hreport, rfl, ?_⟩), rfl⟩
  exact fun old hold hcurrent hname => hnew ⟨old, hold, hcurrent, hname⟩

variable (hruns : upsertHosts (t.upserts servers serverId reports) t ∅ = .ok (t', hostIds))

include hruns

theorem named_of_upserts : ∀ report ∈ reports, report.hostName ≠ emptyText := by
  intro report hreport hempty
  refine isNamed_of_upsertHosts hruns _
    ((mem_upserts hdistinct).mpr (.inl ⟨report, hreport, rfl, ?_⟩)) nofun hempty
  intro old hold hcurrent hname
  have hrow : old ∈ t.serverHostDef.rows := mem_rows_iff.mpr (key_of_host hold ▸ hold)
  refine t.named old hrow ?_ (hname.trans hempty)
  rw [(isCurrent_iff.mp hcurrent).2.2]
  nofun

/-- The last host that is stored under an ID is not one that is removed, if its row is current. -/
theorem name_of_upserted {id : LocalHostIdType} {curr : ServerHostDef}
    (hcurr : t'.host (serverId, id) = some curr) (hnormal : curr.status = .normal)
    (hstored : ∃ h ∈ t.upserts servers serverId reports, h.hostIdInServer = id) :
    ∃ report ∈ reports, report.hostId = id ∧ curr.name = report.hostName := by
  have hfits : ∀ h ∈ t.upserts servers serverId reports, t.Fits h := fun h hh =>
    fits_of_mem hdistinct (named_of_upserts hdistinct hruns) hh
  obtain ⟨pre, h, post, hsplit, hid, hpost⟩ := exists_last hstored
  have hh : h ∈ t.upserts servers serverId reports := by
    rw [hsplit]
    exact List.mem_append_right _ List.mem_cons_self
  have hkey : h.key = (serverId, id) := by
    rw [ServerHostDef.key, serverId_of_mem hdistinct hh, hid]
  obtain ⟨curr', hcurr', hname, hstatus⟩ := hasHost_upsertHosts hfits hruns hsplit
    fun h' hh' hkey' => hpost h' hh' ((congrArg Prod.snd hkey').trans hid)
  obtain rfl : curr = curr' := Option.some.inj (hcurr.symm.trans (hkey ▸ hcurr'))
  rcases (mem_upserts hdistinct).mp hh with ⟨report, hreport, rfl, -⟩ | ⟨old, -, -, -, rfl⟩
  · exact ⟨report, hreport, hid, hname⟩
  · rw [hnormal] at hstatus
    cases hstatus

end Upserts

theorem puts_of_syncHosts {t : HostTables} {servers : ServerIdSet} {reports : List HostReport}
    {synced : SyncedHosts} (hserver : serverId ≠ allServers)
    (hdistinct : (reports.map HostReport.hostId).Nodup)
    (hruns : t.syncHosts servers (reports.map (hostInfo serverId)) serverId = .ok synced) :
    t.Puts servers serverId reports synced.tables synced.hostIds := by
  have hruns := upserts_of_syncHosts hserver hruns
  have hnames := named_of_upserts hdistinct hruns
  have hfits : ∀ h ∈ t.upserts servers serverId reports, t.Fits h := fun h hh =>
    fits_of_mem hdistinct hnames hh
  have hservers : ∀ h ∈ t.upserts servers serverId reports, h.serverId = serverId := fun h hh =>
    serverId_of_mem hdistinct hh
  have hkeys {id : LocalHostIdType}
      (hnone : ¬∃ h ∈ t.upserts servers serverId reports, h.hostIdInServer = id) :
      synced.tables.host (serverId, id) = t.host (serverId, id) :=
    hosts_upsertHosts hfits hruns fun h hh hkey => hnone ⟨h, hh, congrArg Prod.snd hkey⟩
  refine ⟨extends_upsertHosts (fun h hh => (hfits h hh).admits) hruns, fun k hk => ?_, hnames,
    fun report hreport => ?_, fun id curr hcurr hcurrent => ?_⟩
  · refine hosts_upsertHosts hfits hruns fun h hh hkey => hk ?_
    rw [← hkey]
    exact hservers h hh
  · by_cases hstored : ∃ h ∈ t.upserts servers serverId reports, h.hostIdInServer = report.hostId
    · obtain ⟨curr, hcurr, hid⟩ :=
        (hostIds_upsertHosts hfits hservers hruns report.hostId).1 hstored
      exact ⟨curr, hcurr, .inl hid⟩
    · obtain ⟨old, hold, hcurrent, hname⟩ := current_of_not_upserted hdistinct hreport hstored
      have hid := (hostIds_upsertHosts hfits hservers hruns report.hostId).2 fun h hh hid =>
        hstored ⟨h, hh, hid⟩
      refine ⟨old, (hkeys hstored).trans hold, .inr ⟨hid.trans (by simp), ?_, old, hold, hcurrent,
        hname⟩⟩
      exact fun report' hreport' hsame => List.inj_on_of_nodup_map hdistinct hreport' hreport hsame
  · have hnormal : curr.status = .normal := (isCurrent_iff.mp hcurrent).2.2
    by_cases hreported : ∃ report ∈ reports, report.hostId = id
    · obtain ⟨pre, report, post, hsplit, hid, hpost⟩ := exists_last hreported
      have hreport : report ∈ reports := by
        rw [hsplit]
        exact List.mem_append_right _ List.mem_cons_self
      refine .inl ⟨pre, report, post, hsplit, hid, hpost, ?_⟩
      by_cases hstored : ∃ h ∈ t.upserts servers serverId reports, h.hostIdInServer = id
      · obtain ⟨report', hreport', hid', hname⟩ :=
          name_of_upserted hdistinct hruns hcurr hnormal hstored
        rwa [List.inj_on_of_nodup_map hdistinct hreport' hreport (hid'.trans hid.symm)] at hname
      · obtain ⟨old, hold, -, hname⟩ :=
          current_of_not_upserted hdistinct hreport (hid ▸ hstored)
        rw [hid, ← hkeys hstored, hcurr] at hold
        exact Option.some.inj hold ▸ hname
    · refine .inr ⟨fun report hreport hid => hreported ⟨report, hreport, hid⟩, ?_⟩
      rw [← hkeys fun hstored => ?_, hcurr]
      obtain ⟨report, hreport, hid, -⟩ := name_of_upserted hdistinct hruns hcurr hnormal hstored
      exact hreported ⟨report, hreport, hid⟩

theorem puts_of_putHosts {t t' : HostTables} {servers : ServerIdSet} {all : Bool}
    {reports : List HostReport} {hostIds : HostHostIdMap} (hserver : serverId ≠ allServers)
    (hdistinct : all = true → (reports.map HostReport.hostId).Nodup)
    (hruns : t.putHosts servers serverId all reports = .ok (t', hostIds)) :
    t.Puts servers serverId reports t' hostIds := by
  unfold putHosts at hruns
  split at hruns
  next hall =>
    cases hsync : t.syncHosts servers (reports.map (hostInfo serverId)) serverId with
    | error e =>
      rw [hsync] at hruns
      cases hruns
    | ok synced =>
      rw [hsync] at hruns
      obtain ⟨rfl, rfl⟩ := Prod.mk.inj (Except.ok.inj hruns)
      exact puts_of_syncHosts hserver (hdistinct hall) hsync
  next => exact puts_of_upsertHosts hruns

/-- Hosts with names can be put. -/
theorem putHosts_returns (t : HostTables) (servers : ServerIdSet) {all : Bool}
    {reports : List HostReport} (hserver : serverId ≠ allServers)
    (hdistinct : all = true → (reports.map HostReport.hostId).Nodup)
    (hnames : ∀ report ∈ reports, report.hostName ≠ emptyText) :
    ∃ t' hostIds, t.putHosts servers serverId all reports = .ok (t', hostIds) := by
  unfold putHosts
  split
  next hall =>
    obtain ⟨t', hostIds, hruns, -⟩ :=
      upsertHosts_spec (fun h (hh : h ∈ t.upserts servers serverId reports) =>
        fits_of_mem (hdistinct hall) hnames hh) ∅
    obtain ⟨synced, hsync, -⟩ := syncHosts_eq hserver hruns
    rw [hsync]
    exact ⟨_, _, rfl⟩
  next =>
    obtain ⟨t', hostIds, hruns, -⟩ := upsertHosts_spec (t.fits_hostInfos hnames) ∅
    exact ⟨t', hostIds, hruns⟩

end HostTables

/-! ## The gate -/

open HostTables (HostReport HostHostIdMap hostInfo)

structure HostGate where
  tables : HostTables
  cache : HostInfoCache

/-- A host for the monitoring of a server itself (SelfMonitor.cc:101-113, ArmUtils.cc:230-247). -/
def selfMonitoringHost (serverId : ServerIdType) (name : CString) : ServerHostDef where
  id := autoIncrementValue
  hostId := autoAssignedId
  serverId := serverId
  hostIdInServer := .ofString "__SELF_MONITOR"
  name := name
  status := .selfMonitor

/-- What comes to the tables and the gate: hosts of any server, the monitoring of any server itself,
    and hosts that the triggers and the events of the gate's own server name. -/
inductive HostMessage where
  | putHosts (serverId : ServerIdType) (all : Bool) (reports : List HostReport)
  | monitorSelf (serverId : ServerIdType) (name : CString)
  | mention (hostId : LocalHostIdType) (hostName : CString)
  deriving DecidableEq, Repr

/-- A host as the gate knows it. `adhoc` says that it came with a trigger or an event when it got
    the name that it has. -/
structure KnownHost where
  adhoc : Bool
  name : CString
  deriving DecidableEq, Repr

namespace KnownHost

def put (known : Option KnownHost) (name : CString) : KnownHost :=
  match known with
  | some k => if k.name = name then k else ⟨false, name⟩
  | none => ⟨false, name⟩

def puts (known : Option KnownHost) (reports : List HostReport) : Option KnownHost :=
  reports.foldl (fun known report => some (put known report.hostName)) known

/-- What a message says of a host. A put with an empty name is refused. -/
def step (serverId : ServerIdType) (id : LocalHostIdType) (known : Option KnownHost) :
    HostMessage → Option KnownHost
  | .putHosts s _ reports =>
    if s = serverId ∧ ∀ report ∈ reports, report.hostName ≠ emptyText then
      puts known (reports.filter (·.hostId = id))
    else known
  | .monitorSelf _ _ => known
  | .mention hostId hostName =>
    if hostId = id then some (known.getD ⟨true, hostName⟩) else known

theorem name_put (known : Option KnownHost) (name : CString) : (put known name).name = name := by
  unfold put
  split
  · split
    next hname => exact hname
    next => rfl
  · rfl

/-- The last report names the host. -/
theorem name_puts (known : Option KnownHost) {reports pre post : List HostReport}
    {report : HostReport}
    {id : LocalHostIdType} (hsplit : reports = pre ++ report :: post) (hid : report.hostId = id)
    (hpost : ∀ report' ∈ post, report'.hostId ≠ id) :
    ∃ k, puts known (reports.filter (·.hostId = id)) = some k ∧ k.name = report.hostName := by
  have hnil : post.filter (·.hostId = id) = [] :=
    List.filter_eq_nil_iff.mpr fun report' hreport' => by simpa using hpost report' hreport'
  rw [hsplit, List.filter_append, List.filter_cons_of_pos (by simpa using hid), hnil, puts,
    List.foldl_append]
  exact ⟨_, rfl, name_put _ _⟩

end KnownHost

/-- A put of all hosts of a server has each host once. -/
def HostMessage.Meets : HostMessage → Prop
  | .putHosts s all reports =>
    s ≠ allServers ∧ (all = true → (reports.map HostReport.hostId).Nodup)
  | .monitorSelf _ _ | .mention _ _ => True

namespace HostGate

open HostInfoCache

variable (servers : ServerIdSet) (serverId : ServerIdType)

def step (g : HostGate) : HostMessage → HostGate
  | .putHosts s all reports =>
    match g.tables.putHosts servers s all reports with
    | .error _ => g
    | .ok (tables, hostIds) =>
      { tables := tables
        cache := if s = serverId then g.cache.updateAll (reports.map (hostInfo s)) hostIds
          else g.cache }
  | .monitorSelf s name =>
    match g.tables.upsertHost (selfMonitoringHost s name) with
    | .error _ => g
    | .ok (tables, _) => { g with tables := tables }
  | .mention hostId hostName =>
    { g with cache := (g.cache.getHostInfoCacheWithAdhocRegistration hostId hostName).1 }

def run (g : HostGate) (messages : List HostMessage) : HostGate :=
  messages.foldl (step servers serverId) g

/-- The ID of a host in the tables. -/
def hostIdOf (t : HostTables) (id : LocalHostIdType) : HostIdType :=
  ((t.host (serverId, id)).map ServerHostDef.hostId).getD invalidHostId

/-- What the cache has of a host: no ID if it came with a trigger. -/
def elementOf (t : HostTables) (id : LocalHostIdType) (known : KnownHost) : Element :=
  ⟨if known.adhoc then invalidHostId else hostIdOf serverId t id, known.name⟩

structure Sound (known : LocalHostIdType → Option KnownHost) (g : HostGate) : Prop where
  free : g.cache.lockHeld = false
  elements : ∀ id, g.cache.getName id = (known id).map (elementOf serverId g.tables id)
  stored : ∀ id k, known id = some k → k.adhoc = false → (g.tables.host (serverId, id)).isSome
  current : ∀ id curr, g.tables.host (serverId, id) = some curr →
    HostTables.isCurrent servers serverId curr → ∃ k, known id = some k ∧ k.name = curr.name

variable {servers serverId} {known : LocalHostIdType → Option KnownHost} {g : HostGate}

theorem hostIdOf_of_host {t : HostTables} {id : LocalHostIdType} {curr : ServerHostDef}
    (hcurr : t.host (serverId, id) = some curr) : hostIdOf serverId t id = curr.hostId := by
  rw [hostIdOf, hcurr]
  rfl

/-- The elements stay as they are while the tables are extended. -/
theorem Sound.elements_of_extends (h : g.Sound servers serverId known) {t : HostTables}
    (hextends : g.tables.Extends t) (id : LocalHostIdType) :
    g.cache.getName id = (known id).map (elementOf serverId t id) := by
  rw [h.elements]
  cases hknown : known id with
  | none => rfl
  | some k =>
    rw [Option.map_some, Option.map_some, elementOf, elementOf]
    cases hadhoc : k.adhoc with
    | true => rfl
    | false =>
      obtain ⟨curr, hcurr⟩ := Option.isSome_iff_exists.mp (h.stored id k hknown hadhoc)
      obtain ⟨curr', hcurr', -, hsame⟩ := hextends.hosts _ curr hcurr
      rw [hostIdOf_of_host hcurr, hostIdOf_of_host hcurr', hsame]

theorem Sound.stored_of_extends (h : g.Sound servers serverId known) {t : HostTables}
    (hextends : g.tables.Extends t) (id : LocalHostIdType) (k : KnownHost)
    (hknown : known id = some k) (hadhoc : k.adhoc = false) : (t.host (serverId, id)).isSome := by
  obtain ⟨curr, hcurr⟩ := Option.isSome_iff_exists.mp (h.stored id k hknown hadhoc)
  obtain ⟨curr', hcurr', -⟩ := hextends.hosts _ curr hcurr
  rw [hcurr']
  rfl

/-- The reports of a host come with the ID that is stored. -/
theorem foldl_renew {t : HostTables} {id : LocalHostIdType} {hostId : HostIdType}
    (hhostId : hostId = hostIdOf serverId t id) (reports : List HostReport) (k : Option KnownHost) :
    reports.foldl (fun old report => some (.renew old ⟨hostId, report.hostName⟩))
        (k.map (elementOf serverId t id)) =
      (KnownHost.puts k reports).map (elementOf serverId t id) := by
  induction reports generalizing k with
  | nil => rfl
  | cons report reports ih =>
    have hone : Element.renew (k.map (elementOf serverId t id)) ⟨hostId, report.hostName⟩ =
        elementOf serverId t id (KnownHost.put k report.hostName) := by
      cases k with
      | none =>
        rw [hhostId]
        rfl
      | some k =>
        rw [Option.map_some, Element.renew, KnownHost.put]
        change (if k.name = report.hostName then elementOf serverId t id k
          else ⟨hostId, report.hostName⟩) = _
        by_cases hname : k.name = report.hostName
        · rw [if_pos hname, if_pos hname]
        · rw [if_neg hname, if_neg hname, hhostId]
          rfl
    rw [List.foldl_cons, hone]
    exact ih (some (KnownHost.put k report.hostName))

/-- The reports of a host under the name that it has change nothing. -/
theorem foldl_renew_of_name {elem : Element} {hostId : HostIdType} {reports : List HostReport}
    (hnames : ∀ report ∈ reports, report.hostName = elem.name) :
    reports.foldl (fun old report => some (Element.renew old ⟨hostId, report.hostName⟩)) (some elem) =
      some elem := by
  induction reports with
  | nil => rfl
  | cons report reports ih =>
    rw [List.foldl_cons, Element.renew_of_name (hnames report List.mem_cons_self).symm]
    exact ih fun report' hreport' => hnames report' (List.mem_cons_of_mem _ hreport')

theorem puts_of_name {k : KnownHost} {reports : List HostReport}
    (hnames : ∀ report ∈ reports, report.hostName = k.name) :
    KnownHost.puts (some k) reports = some k := by
  induction reports with
  | nil => rfl
  | cons report reports ih =>
    have hone : KnownHost.put (some k) report.hostName = k :=
      if_pos (hnames report List.mem_cons_self).symm
    rw [KnownHost.puts, List.foldl_cons, hone]
    exact ih fun report' hreport' => hnames report' (List.mem_cons_of_mem _ hreport')

/-- The hosts that are put, in the cache. -/
theorem updateAll_hostInfos {c : HostInfoCache} (hfree : c.lockHeld = false)
    (reports : List HostReport) (hostIds : HostHostIdMap) :
    (c.updateAll (reports.map (hostInfo serverId)) hostIds).lockHeld = false ∧
    ∀ id, (c.updateAll (reports.map (hostInfo serverId)) hostIds).getName id =
      (reports.filter (·.hostId = id)).foldl (fun old report => some (.renew old
        ⟨if hostIds[id]?.getD invalidHostId ≠ invalidHostId then hostIds[id]?.getD invalidHostId
          else autoAssignedId, report.hostName⟩)) (c.getName id) := by
  have hvalid : ∀ h ∈ reports.map (hostInfo serverId), entered h
      (((some hostIds).bind fun ids => ids[h.hostIdInServer]?).getD invalidHostId) ≠
        invalidHostId := by
    intro h hh
    obtain ⟨report, -, rfl⟩ := List.mem_map.mp hh
    unfold entered
    split
    next hne => exact hne
    next => exact (by decide : autoAssignedId ≠ invalidHostId)
  obtain ⟨hend, hget⟩ := updateAll_spec hvalid hfree
  refine ⟨hend, fun id => (hget id).trans ?_⟩
  rw [List.filter_map, List.foldl_map]
  rfl

/-! ## Messages -/

theorem extends_step (message : HostMessage) :
    g.tables.Extends (g.step servers serverId message).tables := by
  cases message with
  | mention hostId hostName => exact .refl _
  | monitorSelf s name =>
    unfold HostGate.step
    dsimp only
    split
    next => exact .refl _
    next tables hostId hruns =>
      exact HostTables.extends_upsertHost ⟨.inl rfl, fun hzero =>
        absurd hzero (by decide : autoAssignedId ≠ autoIncrementValue)⟩ hruns
  | putHosts s all reports =>
    have hadmits : ∀ h ∈ reports.map (hostInfo s), g.tables.Admits h := by
      intro h hh
      obtain ⟨report, -, rfl⟩ := List.mem_map.mp hh
      exact ⟨.inl rfl, nofun⟩
    unfold HostGate.step
    dsimp only
    split
    next => exact .refl _
    next tables hostIds hruns =>
      unfold HostTables.putHosts at hruns
      split at hruns
      next =>
        cases hsync : g.tables.syncHosts servers (reports.map (hostInfo s)) s with
        | error e =>
          rw [hsync] at hruns
          cases hruns
        | ok synced =>
          rw [hsync] at hruns
          obtain ⟨rfl, -⟩ := Prod.mk.inj (Except.ok.inj hruns)
          exact HostTables.extends_syncHosts hadmits hsync
      next => exact HostTables.extends_upsertHosts hadmits hruns

theorem extends_run (messages : List HostMessage) (g : HostGate) :
    g.tables.Extends (g.run servers serverId messages).tables := by
  induction messages generalizing g with
  | nil => exact .refl _
  | cons message messages ih => exact (extends_step message).trans (ih _)

/-- What leaves the current hosts of the server as they are leaves the gate alone. -/
theorem Sound.of_current (h : g.Sound servers serverId known) {t : HostTables}
    (hextends : g.tables.Extends t)
    (hcurrent : ∀ id curr, t.host (serverId, id) = some curr →
      HostTables.isCurrent servers serverId curr → g.tables.host (serverId, id) = some curr) :
    (⟨t, g.cache⟩ : HostGate).Sound servers serverId known where
  free := h.free
  elements := h.elements_of_extends hextends
  stored := h.stored_of_extends hextends
  current id curr hcurr hnormal := h.current id curr (hcurrent id curr hcurr hnormal) hnormal

theorem Sound.monitorSelf (h : g.Sound servers serverId known) (s : ServerIdType) (name : CString) :
    (g.step servers serverId (.monitorSelf s name)).Sound servers serverId known := by
  have hfits : g.tables.Fits (selfMonitoringHost s name) :=
    ⟨fun hne => absurd rfl hne, .inl ⟨rfl, rfl⟩⟩
  obtain ⟨t, hostId, hruns, hstores⟩ := HostTables.upsertHost_spec hfits
  unfold HostGate.step
  dsimp only
  rw [hruns]
  refine h.of_current (HostTables.extends_upsertHost hfits.admits hruns)
    fun id curr hcurr hnormal => ?_
  by_cases hkey : (serverId, id) = (selfMonitoringHost s name).key
  · obtain ⟨curr', hcurr', -, hstatus, -⟩ := hstores.stored
    obtain rfl : curr = curr' := Option.some.inj (hcurr.symm.trans (hkey ▸ hcurr'))
    rw [(HostTables.isCurrent_iff.mp hnormal).2.2] at hstatus
    cases hstatus
  · exact (hstores.others _ hkey).symm.trans hcurr

/-- Hosts of the gate's own server. -/
theorem Sound.puts (h : g.Sound servers serverId known) {t : HostTables} {reports : List HostReport}
    {hostIds : HostHostIdMap} (hputs : g.tables.Puts servers serverId reports t hostIds)
    (hids : ∀ id curr, t.host (serverId, id) = some curr → curr.hostId ≠ invalidHostId) :
    (⟨t, g.cache.updateAll (reports.map (hostInfo serverId)) hostIds⟩ : HostGate).Sound servers
      serverId fun id => KnownHost.puts (known id) (reports.filter (·.hostId = id)) := by
  obtain ⟨hend, hget⟩ := @updateAll_hostInfos serverId _ h.free reports hostIds
  have hfilter {id : LocalHostIdType} (hnone : ¬∃ report ∈ reports, report.hostId = id) :
      reports.filter (·.hostId = id) = [] :=
    List.filter_eq_nil_iff.mpr fun report hreport => by
      simpa using fun hid => hnone ⟨report, hreport, hid⟩
  refine ⟨hend, fun id => (hget id).trans ?_, fun id k hknown hadhoc => ?_,
    fun id curr hcurr hcurrent => ?_⟩
  · by_cases hreported : ∃ report ∈ reports, report.hostId = id
    · obtain ⟨report, hreport, rfl⟩ := hreported
      obtain ⟨curr, hcurr, hsome | ⟨hnone, honly, old, hold, hcurrent, hname⟩⟩ :=
        hputs.hostIds report hreport
      · rw [h.elements_of_extends hputs.keeps, hsome, Option.getD_some, if_pos (hids _ _ hcurr)]
        exact foldl_renew (hostIdOf_of_host hcurr).symm _ _
      · -- the host was current under this name, so that it is known under it
        obtain ⟨k, hknown, hsame⟩ := h.current _ old hold hcurrent
        have hnames : ∀ r ∈ reports.filter (·.hostId = report.hostId), r.hostName = k.name := by
          intro r hr
          obtain ⟨hr, hid⟩ := List.mem_filter.mp hr
          rw [honly r hr (by simpa using hid), hsame, hname]
        rw [h.elements_of_extends hputs.keeps, hknown, puts_of_name hnames]
        exact foldl_renew_of_name hnames
    · rw [hfilter hreported]
      exact h.elements_of_extends hputs.keeps id
  · by_cases hreported : ∃ report ∈ reports, report.hostId = id
    · obtain ⟨report, hreport, rfl⟩ := hreported
      obtain ⟨curr, hcurr, -⟩ := hputs.hostIds report hreport
      exact Option.isSome_iff_exists.mpr ⟨curr, hcurr⟩
    · rw [hfilter hreported] at hknown
      exact h.stored_of_extends hputs.keeps id k hknown hadhoc
  · rcases hputs.current id curr hcurr hcurrent with
      ⟨pre, report, post, hsplit, hid, hpost, hname⟩ | ⟨hnone, hold⟩
    · rw [hname]
      exact KnownHost.name_puts _ hsplit hid hpost
    · rw [hfilter fun ⟨report, hreport, hid⟩ => hnone report hreport hid]
      exact h.current id curr hold hcurrent

theorem Sound.mention (h : g.Sound servers serverId known) (hostId : LocalHostIdType)
    (hostName : CString) :
    (g.step servers serverId (.mention hostId hostName)).Sound servers serverId
      fun id => KnownHost.step serverId id (known id) (.mention hostId hostName) := by
  have hother {id : LocalHostIdType} (hne : hostId ≠ id) :
      KnownHost.step serverId id (known id) (.mention hostId hostName) = known id := if_neg hne
  cases hknown : known hostId with
  | some k =>
    have hget : g.cache.getName hostId = some (elementOf serverId g.tables hostId k) := by
      rw [h.elements, hknown]
      rfl
    have hsame : (fun id => KnownHost.step serverId id (known id) (.mention hostId hostName)) =
        known := by
      funext id
      by_cases hid : hostId = id
      · subst hid
        rw [hknown]
        exact if_pos rfl
      · exact hother hid
    rw [hsame]
    unfold HostGate.step getHostInfoCacheWithAdhocRegistration
    dsimp only
    rw [hget]
    exact h
  | none =>
    have hget : g.cache.getName hostId = none := by
      rw [h.elements, hknown]
      rfl
    have hself : KnownHost.step serverId hostId (known hostId) (.mention hostId hostName) =
        some ⟨true, hostName⟩ := by
      rw [hknown]
      exact if_pos rfl
    unfold HostGate.step getHostInfoCacheWithAdhocRegistration
    dsimp only
    rw [hget]
    obtain ⟨hend, hgets⟩ := @update_spec _ ⟨2 ^ 64 - 1, invalidHostId, invalidServerId, hostId,
      hostName, .inapplicable⟩ invalidHostId true h.free nofun
    refine ⟨hend, fun id => (hgets id).trans ?_, fun id k hk hadhoc => ?_,
      fun id curr hcurr hcurrent => ?_⟩
    · by_cases hid : hostId = id
      · subst hid
        rw [if_pos rfl, hself, hget]
        rfl
      · rw [if_neg hid, hother hid]
        exact h.elements id
    · by_cases hid : hostId = id
      · subst hid
        obtain rfl := Option.some.inj (hself.symm.trans hk)
        cases hadhoc
      · exact h.stored id k ((hother hid).symm.trans hk) hadhoc
    · obtain ⟨k, hk, hname⟩ := h.current id curr hcurr hcurrent
      have hid : hostId ≠ id := by
        rintro rfl
        rw [hknown] at hk
        cases hk
      exact ⟨k, (hother hid).trans hk, hname⟩

theorem Sound.step (h : g.Sound servers serverId known) {message : HostMessage}
    (hmeets : message.Meets)
    (hids : ∀ id curr, (g.step servers serverId message).tables.host (serverId, id) = some curr →
      curr.hostId ≠ invalidHostId) :
    (g.step servers serverId message).Sound servers serverId
      fun id => KnownHost.step serverId id (known id) message := by
  cases message with
  | mention hostId hostName => exact h.mention hostId hostName
  | monitorSelf s name => exact h.monitorSelf s name
  | putHosts s all reports =>
    obtain ⟨hserver, hdistinct⟩ := hmeets
    cases hruns : g.tables.putHosts servers s all reports with
    | error e =>
      have hstep : g.step servers serverId (.putHosts s all reports) = g := by
        unfold HostGate.step
        dsimp only
        rw [hruns]
      have hrefused : ¬(s = serverId ∧ ∀ report ∈ reports, report.hostName ≠ emptyText) := by
        rintro ⟨-, hnames⟩
        obtain ⟨t, hostIds, hreturns⟩ :=
          g.tables.putHosts_returns servers hserver hdistinct hnames
        rw [hruns] at hreturns
        cases hreturns
      have hsame : (fun id => KnownHost.step serverId id (known id) (.putHosts s all reports)) =
          known := funext fun id => if_neg hrefused
      rw [hstep, hsame]
      exact h
    | ok result =>
      obtain ⟨t, hostIds⟩ := result
      have hputs := HostTables.puts_of_putHosts hserver hdistinct hruns
      have hstep : g.step servers serverId (.putHosts s all reports) = ⟨t, if s = serverId then
          g.cache.updateAll (reports.map (hostInfo s)) hostIds else g.cache⟩ := by
        unfold HostGate.step
        dsimp only
        rw [hruns]
      rw [hstep] at hids ⊢
      by_cases hs : s = serverId
      · subst hs
        have hstep' : (fun id => KnownHost.step s id (known id) (.putHosts s all reports)) =
            fun id => KnownHost.puts (known id) (reports.filter (·.hostId = id)) :=
          funext fun id => if_pos ⟨rfl, hputs.named⟩
        rw [hstep', if_pos rfl]
        exact h.puts hputs hids
      · have hsame : (fun id => KnownHost.step serverId id (known id) (.putHosts s all reports)) =
            known := funext fun id => if_neg fun hand => hs hand.1
        rw [hsame, if_neg hs]
        exact h.of_current hputs.keeps fun id curr hcurr _ =>
          (hputs.others _ (Ne.symm hs)).symm.trans hcurr

theorem Sound.run {messages : List HostMessage} (hmeets : ∀ message ∈ messages, message.Meets)
    (h : g.Sound servers serverId known)
    (hids : ∀ id curr, (g.run servers serverId messages).tables.host (serverId, id) = some curr →
      curr.hostId ≠ invalidHostId) :
    (g.run servers serverId messages).Sound servers serverId
      fun id => messages.foldl (KnownHost.step serverId id) (known id) := by
  induction messages generalizing g known with
  | nil => exact h
  | cons message messages ih =>
    refine ih (fun m hm => hmeets m (List.mem_cons_of_mem _ hm))
      (h.step (hmeets message List.mem_cons_self) fun id curr hcurr => ?_) hids
    obtain ⟨curr', hcurr', -, hsame⟩ :=
      (extends_run messages (g.step servers serverId message)).hosts _ curr hcurr
    exact hsame ▸ hids id curr' hcurr'

/-! ## The start of the gate -/

/-- The constructor of the gate loads the hosts that are stored. -/
def new (t : HostTables) (servers : ServerIdSet) (serverId : ServerIdType) :
    Except HatoholException HostGate := do
  let cache ← HostInfoCache.new t servers serverId
  pure ⟨t, cache⟩

def isOwn (servers : ServerIdSet) (serverId : ServerIdType) (h : ServerHostDef) : Bool :=
  servers.contains h.serverId && h.serverId == serverId

/-- The gate with all hosts of its server in the cache. -/
def loaded (t : HostTables) (servers : ServerIdSet) (serverId : ServerIdType) : HostGate :=
  ⟨t, HostInfoCache.empty.updateAll (t.serverHostDef.rows.filter (isOwn servers serverId)) none⟩

theorem new_eq (t : HostTables) (servers : ServerIdSet) (hserver : serverId ≠ allServers) :
    new t servers serverId = .ok (loaded t servers serverId) := by
  have ho : (serverOption servers serverId).base.IsSystemQuery :=
    HostResourceQueryOption.isSystemQuery_new (.inl rfl) servers false serverId
  obtain ⟨s, hs, hdenotes⟩ := ho.getCondition
  have hstatuses : (serverOption servers serverId).statuses = {.all} := rfl
  have hall : (serverOption servers serverId).statuses.contains .all = true := by
    rw [hstatuses]
    decide
  have hrows : t.getServerHostDefs (serverOption servers serverId) =
      .ok (t.serverHostDef.rows.filter (isOwn servers serverId)) := by
    unfold HostTables.getServerHostDefs HostsQueryOption.getCondition
    rw [hs]
    simp only [bind, Except.bind, pure, Except.pure, hall, if_true, ho.isHostgroupUsed,
      Bool.false_eq_true, if_false]
    congr 1
    apply List.filter_congr
    intro h _
    rw [ho.selects_form (HostTables.hasRow_value ho rfl h) hdenotes]
    have hne : (serverId == allServers) = false := by simpa using hserver
    simp [isOwn, serverOption, HostsQueryOption.new, HostResourceQueryOption.isValid,
      HostResourceQueryOption.new, HostResourceQueryOption.isTargeted,
      HostResourceQueryOption.getValidServerIdSet, systemContext, hne]
  unfold new HostInfoCache.new
  rw [hrows]
  rfl

theorem filter_eq_lookup {R K : Type} [DecidableEq K] {key : R → K} {rows : List R}
    (hnodup : (rows.map key).Nodup) (k : K) :
    rows.filter (fun r => decide (key r = k)) = (lookup key rows k).toList := by
  induction rows with
  | nil => rfl
  | cons r rows ih =>
    obtain ⟨hr, hrows⟩ := List.nodup_cons.mp hnodup
    by_cases hk : key r = k
    · have hnone : rows.filter (fun r => decide (key r = k)) = [] :=
        List.filter_eq_nil_iff.mpr fun r' hr' => by
          simpa using fun hk' => hr (List.mem_map.mpr ⟨r', hr', hk'.trans hk.symm⟩)
      rw [List.filter_cons_of_pos (by simpa using hk), hnone, lookup,
        List.find?_cons_of_pos (by simpa using hk)]
      rfl
    · rw [List.filter_cons_of_neg (by simpa using hk), ih hrows, lookup, lookup,
        List.find?_cons_of_neg (by simpa using hk)]

/-- A host as the gate knows it at its start. -/
def knownFirst (t : HostTables) (servers : ServerIdSet) (serverId : ServerIdType)
    (id : LocalHostIdType) : Option KnownHost :=
  ((t.host (serverId, id)).filter (isOwn servers serverId)).map fun h => ⟨false, h.name⟩

theorem sound_loaded (t : HostTables) (servers : ServerIdSet)
    (hids : ∀ id curr, t.host (serverId, id) = some curr → curr.hostId ≠ invalidHostId) :
    (loaded t servers serverId).Sound servers serverId (knownFirst t servers serverId) := by
  have hown : ∀ h ∈ t.serverHostDef.rows, isOwn servers serverId h → h.serverId = serverId := by
    intro h _ hown
    rw [isOwn, Bool.and_eq_true] at hown
    exact beq_iff_eq.mp hown.2
  have hvalid : ∀ h ∈ t.serverHostDef.rows.filter (isOwn servers serverId), entered h
      (((none : Option HostHostIdMap).bind fun ids => ids[h.hostIdInServer]?).getD invalidHostId) ≠
        invalidHostId := by
    intro h hh
    obtain ⟨hrow, hh⟩ := List.mem_filter.mp hh
    have hkey : h.key = (serverId, h.hostIdInServer) := congrArg (·, _) (hown h hrow hh)
    exact hids h.hostIdInServer h (hkey ▸ HostTables.mem_rows_iff.mp hrow)
  obtain ⟨hend, hget⟩ := updateAll_spec (c := HostInfoCache.empty) hvalid rfl
  have hlookup (id : LocalHostIdType) :
      lookup ServerHostDef.hostIdInServer (t.serverHostDef.rows.filter (isOwn servers serverId)) id =
        (t.host (serverId, id)).filter (isOwn servers serverId) :=
    lookup_part t.serverHostDef.unique_key hown id
  refine ⟨hend, fun id => (hget id).trans ?_, fun id k hk hadhoc => ?_,
    fun id curr hcurr hcurrent => ?_⟩
  · rw [filter_eq_lookup (nodup_part t.serverHostDef.unique_key hown), hlookup, knownFirst]
    cases hfound : (t.host (serverId, id)).filter (isOwn servers serverId) with
    | none => exact Std.TreeMap.getElem?_emptyc
    | some h =>
      obtain ⟨hhost, -⟩ := Option.filter_eq_some_iff.mp hfound
      have hnone : HostInfoCache.empty.getName id = none := Std.TreeMap.getElem?_emptyc
      rw [hnone, Option.map_some]
      change some (⟨h.hostId, h.name⟩ : Element) = some ⟨hostIdOf serverId t id, h.name⟩
      rw [hostIdOf_of_host hhost]
  · obtain ⟨h, hfound, -⟩ := Option.map_eq_some_iff.mp hk
    exact Option.isSome_iff_exists.mpr ⟨h, (Option.filter_eq_some_iff.mp hfound).1⟩
  · obtain ⟨hcontains, hserver, -⟩ := HostTables.isCurrent_iff.mp hcurrent
    have hfound : (t.host (serverId, id)).filter (isOwn servers serverId) = some curr := by
      rw [(show t.host (serverId, id) = some curr from hcurr), Option.filter_some, if_pos]
      rw [isOwn, hserver, hcontains, beq_self_eq_true]
      rfl
    exact ⟨⟨false, curr.name⟩, by rw [knownFirst, hfound]; rfl, rfl⟩

/-- A trigger comes before its host, which is put then under the same name, and another host. -/
def triggerFirst : List HostMessage :=
  [.mention (.ofString "7") (.ofString "web"),
    .putHosts 1 true [⟨.ofString "7", .ofString "web"⟩, ⟨.ofString "8", .ofString "db"⟩]]

end HostGate

end Hatohol

import Hatohol.DBTablesHost
import Hatohol.HostResource.System

/-!
# Synchronisation of hosts

What `syncHosts` leaves in the table of hosts. A host is stored under its server and its ID there;
`upsertHost` changes the name and the status that are stored under them and nothing else, and of
several hosts with one key the last one counts.
-/

namespace Hatohol

open Sql DBTermCodec Table

namespace HostTables

/-- The host that is stored for an ID of a server. -/
def host (t : HostTables) (k : ServerIdType × LocalHostIdType) : Option ServerHostDef :=
  t.serverHostDef.byKey k

theorem key_of_host {t : HostTables} {k : ServerIdType × LocalHostIdType} {h : ServerHostDef}
    (hh : t.host k = some h) : h.key = k := AutoTable.key_of_byKey hh

theorem mem_rows_iff {t : HostTables} {h : ServerHostDef} :
    h ∈ t.serverHostDef.rows ↔ t.host h.key = some h := t.serverHostDef.mem_rows_iff

/-! ## Storing one host -/

theorem selectServerHostDef_eq (t : HostTables) (h : ServerHostDef) :
    t.selectServerHostDef h = t.host h.key := by
  have hselects (curr : ServerHostDef) :
      selects (conditionSelectSvHostDef h) (curr.value none) = decide (curr.key = h.key) := by
    have hpair := selects_eq_pair
      (Column.isName_nameIn false ⟨tableProfileServerHostDef, idxHostServerHostDefServerId⟩)
      (Column.isName_nameIn false ⟨tableProfileServerHostDef, idxHostServerHostDefHostIdInServer⟩)
      (curr.value none) h.serverId h.hostIdInServer
    refine hpair.trans ?_
    have hserver : curr.value none (Column.nameIn false ⟨tableProfileServerHostDef,
        idxHostServerHostDefServerId⟩) = .int curr.serverId := rfl
    have hhost : curr.value none (Column.nameIn false ⟨tableProfileServerHostDef,
        idxHostServerHostDefHostIdInServer⟩) = .str curr.hostIdInServer.text := rfl
    rw [hserver, hhost, Bool.eq_iff_iff]
    simp [ServerHostDef.key, ← CString.ext_iff]
  unfold selectServerHostDef
  rw [List.head?_filter]
  simp only [hselects]
  rfl

theorem host_addHost (t : HostTables) (hostId : HostIdType) (name : CString) :
    (t.addHost hostId name).1.host = t.host := by
  unfold addHost
  split <;> rfl

/-- The host can be stored: it has a name, and it either has no numbers yet or those of the host
    that is stored under its key. -/
structure Fits (t : HostTables) (h : ServerHostDef) : Prop where
  named : h.isNamed
  numbers : h.id = 0 ∧ h.hostId = autoAssignedId ∨
    ∃ curr, t.host h.key = some curr ∧ h.id = curr.id ∧ h.hostId = curr.hostId

theorem insertServerHostDef_spec (t : HostTables) {h : ServerHostDef} (hname : h.isNamed)
    (hid : h.id = 0 ∨ ∃ curr, t.host h.key = some curr ∧ h.id = curr.id) :
    ∃ t' affected n, t.insertServerHostDef h hname = some (t', affected) ∧
      (t.host h.key = none → affected = 1) ∧
      (∀ curr, t.host h.key = some curr → n = curr.id) ∧
      ∀ k, t'.host k = if k = h.key then some { h with id := n } else t.host k := by
  obtain ⟨s, hupsert, -, hhosts⟩ := t.serverHostDef.upsert_spec h hid
  unfold insertServerHostDef
  split
  · rename_i hnone
    rw [hnone] at hupsert
    simp at hupsert
  · rename_i s' affected hsome
    rw [hsome, Option.some.injEq, Prod.mk.injEq] at hupsert
    obtain ⟨rfl, haffected⟩ := hupsert
    refine ⟨_, affected, t.serverHostDef.upsertId h, rfl, ?_, ?_, hhosts⟩
    · intro hnone
      rw [haffected]
      have hbyKey : t.serverHostDef.byKey (serverHostDefSchema.key h) = none := hnone
      rw [hbyKey]
    · intro curr hcurr
      have hbyKey : t.serverHostDef.byKey (serverHostDefSchema.key h) = some curr := hcurr
      rw [AutoTable.upsertId, hbyKey]
      rfl

/-- What storing a host changes: the name and the status under its key. -/
structure Stores (t : HostTables) (h : ServerHostDef) (t' : HostTables) : Prop where
  others : ∀ k ≠ h.key, t'.host k = t.host k
  stored : ∃ curr', t'.host h.key = some curr' ∧ curr'.name = h.name ∧ curr'.status = h.status ∧
    ∀ curr, t.host h.key = some curr → curr'.id = curr.id ∧ curr'.hostId = curr.hostId

theorem storeHost_spec (t : HostTables) {h : ServerHostDef} (hname : h.isNamed)
    (hostId : HostIdType)
    (tookNewHostId : Bool) (hid : h.id = 0 ∨ ∃ curr, t.host h.key = some curr ∧ h.id = curr.id)
    (hhostId : ∀ curr, t.host h.key = some curr → hostId = curr.hostId)
    (hnew : tookNewHostId → t.host h.key = none) :
    ∃ t', t.storeHost h hname hostId tookNewHostId = .ok (t', hostId) ∧ t.Stores h t' := by
  obtain ⟨t', affected, n, hinsert, haffected, hn, hhosts⟩ :=
    t.insertServerHostDef_spec (h := { h with hostId := hostId }) hname hid
  have hupdate : (lastUpsertDidUpdate affected && tookNewHostId) = false := by
    cases tookNewHostId with
    | false => simp
    | true => simp [haffected (hnew rfl), lastUpsertDidUpdate]
  refine ⟨t', ?_, fun k hk => (hhosts k).trans (if_neg hk), { h with hostId := hostId, id := n },
    ?_,
    rfl, rfl, fun curr hcurr => ⟨hn curr hcurr, hhostId curr hcurr⟩⟩
  · unfold storeHost
    rw [hinsert]
    simp only [hupdate]
    rfl
  · exact (hhosts h.key).trans (if_pos rfl)

theorem upsertHost_spec {t : HostTables} {h : ServerHostDef} (hfits : t.Fits h) :
    ∃ t' hostId, t.upsertHost h = .ok (t', hostId) ∧ t.Stores h t' := by
  have hid : h.id = 0 ∨ ∃ curr, t.host h.key = some curr ∧ h.id = curr.id :=
    hfits.numbers.imp (·.1) fun ⟨curr, hcurr, hid, _⟩ => ⟨curr, hcurr, hid⟩
  unfold upsertHost
  rw [dif_pos hfits.named, selectServerHostDef_eq]
  cases hcurr : t.host h.key with
  | some curr =>
    simp only
    by_cases hchanged : isChanged h curr
    · have hconsistent : ¬(h.hostId ≠ autoAssignedId ∧ curr.hostId ≠ h.hostId) := by
        rintro ⟨hassigned, hne⟩
        rcases hfits.numbers with ⟨-, hauto⟩ | ⟨curr', hcurr', -, hsame⟩
        · exact hassigned hauto
        · rw [hcurr, Option.some.injEq] at hcurr'
          exact hne (hcurr' ▸ hsame.symm)
      obtain ⟨t', hstore, hspec⟩ := t.storeHost_spec hfits.named curr.hostId false
        hid (by simp [hcurr]) (by simp)
      refine ⟨t', curr.hostId, ?_, hspec⟩
      rw [if_neg (by simp [hchanged]), if_neg hconsistent, hstore]
    · -- nothing is written where the name and the status are as they are stored
      refine ⟨t, curr.hostId, if_pos (by simpa using hchanged), fun k _ => rfl, curr, hcurr, ?_⟩
      simp only [isChanged, Bool.or_eq_true, bne_iff_ne, not_or, not_not] at hchanged
      refine ⟨hchanged.1.symm, hchanged.2.symm, fun curr' hcurr' => ?_⟩
      rw [hcurr, Option.some.injEq] at hcurr'
      simp [hcurr']
  | none =>
    have hauto : h.hostId = autoAssignedId := by
      rcases hfits.numbers with ⟨-, hauto⟩ | ⟨curr, hsome, -⟩
      · exact hauto
      · simp [hcurr] at hsome
    have hadd := t.host_addHost h.hostId h.name
    obtain ⟨t', hstore, hspec⟩ := (t.addHost h.hostId h.name).1.storeHost_spec hfits.named
      (t.addHost h.hostId h.name).2 true (by rwa [hadd]) (by simp [hadd, hcurr])
        (by simp [hadd, hcurr])
    refine ⟨t', (t.addHost h.hostId h.name).2, (if_pos (.inl hauto)).trans hstore,
      fun k hk => (hspec.others k hk).trans (by rw [hadd]), ?_⟩
    obtain ⟨curr', hcurr', hname, hstatus, -⟩ := hspec.stored
    exact ⟨curr', hcurr', hname, hstatus, by simp [hcurr]⟩

/-! ## Storing several hosts -/

theorem Stores.fits {t t' : HostTables} {h h' : ServerHostDef} (hstores : t.Stores h t')
    (hfits : t.Fits h') : t'.Fits h' := by
  refine ⟨hfits.named, hfits.numbers.imp_right ?_⟩
  rintro ⟨curr, hcurr, hid, hhostId⟩
  by_cases hk : h'.key = h.key
  · obtain ⟨curr', hcurr', -, -, hsame⟩ := hstores.stored
    rw [hk] at hcurr
    obtain ⟨hid', hhostId'⟩ := hsame curr hcurr
    exact ⟨curr', hk ▸ hcurr', hid.trans hid'.symm, hhostId.trans hhostId'.symm⟩
  · exact ⟨curr, (hstores.others _ hk).trans hcurr, hid, hhostId⟩

/-- The host is stored with this name and this status. -/
def HasHost (t : HostTables) (k : ServerIdType × LocalHostIdType) (name : CString)
    (status : HostStatus) : Prop :=
  ∃ curr, t.host k = some curr ∧ curr.name = name ∧ curr.status = status

/-- Hosts are stored one after another; those with the same key agree in the end with the last. -/
theorem upsertHosts_spec {hs : List ServerHostDef} {t : HostTables} (hfits : ∀ h ∈ hs, t.Fits h)
    (hostIds : HostHostIdMap) :
    ∃ t' hostIds', upsertHosts hs t hostIds = .ok (t', hostIds') ∧
      (∀ k, (∀ h ∈ hs, h.key ≠ k) → t'.host k = t.host k) ∧
      ∀ h ∈ hs, (∀ h' ∈ hs, h'.key = h.key → h'.name = h.name ∧ h'.status = h.status) →
        t'.HasHost h.key h.name h.status := by
  induction hs generalizing t hostIds with
  | nil => exact ⟨t, hostIds, rfl, fun _ _ => rfl, by simp⟩
  | cons g hs ih =>
    obtain ⟨u, hostId, hupsert, hstores⟩ := upsertHost_spec (hfits g (by simp))
    obtain ⟨t', hostIds', hrun, hothers, hlast⟩ :=
      ih (fun h hh => hstores.fits (hfits h (by simp [hh])))
        (hostIds.insert g.hostIdInServer hostId)
    refine ⟨t', hostIds', ?_, fun k hk => ?_, fun h hh hagree => ?_⟩
    · rw [upsertHosts, hupsert]
      exact hrun
    · rw [hothers k fun h hh => hk h (by simp [hh])]
      exact hstores.others k fun heq => hk g (by simp) heq.symm
    · have hagree' (h' : ServerHostDef) (hh' : h' ∈ hs) := hagree h' (by simp [hh'])
      by_cases hlater : ∃ h' ∈ hs, h'.key = h.key
      · obtain ⟨h', hh', hkey⟩ := hlater
        obtain ⟨hname, hstatus⟩ := hagree' h' hh' hkey
        have hhas := hlast h' hh' fun h'' hh'' hkey' => by
          rw [hname, hstatus]
          exact hagree' h'' hh'' (hkey'.trans hkey)
        rwa [hkey, hname, hstatus] at hhas
      · -- the first host is the only one with its key
        have hg : h = g := by
          rcases List.mem_cons.mp hh with rfl | hh
          · rfl
          · exact absurd ⟨h, hh, rfl⟩ hlater
        subst hg
        have hkeep := hothers h.key fun h' hh' hkey => hlater ⟨h', hh', hkey⟩
        obtain ⟨curr', hcurr', hname, hstatus, -⟩ := hstores.stored
        exact ⟨curr', hkeep.trans hcurr', hname, hstatus⟩

/-! ## The hosts that are stored now -/

theorem hasRow_value {o : HostResourceQueryOption} (ho : o.IsSystemQuery)
    (hsynapse : o.synapse = synapseHostsQueryOption) (h : ServerHostDef) :
    o.HasRow (h.value none) ⟨h.serverId, h.hostIdInServer, emptyText⟩ := by
  apply HostResourceQueryOption.hasRow_of_names hsynapse
  · intro full
    cases full <;> rfl
  · intro hnames
    simp [ho.namesHostgroup] at hnames
  · rintro idx hidx full
    obtain rfl : ⟨3, by decide⟩ = idx := Option.some.inj hidx
    cases full <;> rfl

/-- The host is one of those that `syncHosts` compares with. -/
def isCurrent (servers : ServerIdSet) (serverId : ServerIdType) (h : ServerHostDef) : Bool :=
  servers.contains h.serverId && h.serverId == serverId && h.status == .normal

theorem isSystemQuery_currHosts (servers : ServerIdSet) (serverId : ServerIdType) :
    (currHostsOption servers serverId).base.IsSystemQuery :=
  HostResourceQueryOption.isSystemQuery_new (.inl rfl) servers false serverId

/-- The filter for the status NORMAL. -/
def normalText : Text :=
  .inList HostsQueryOption.statusColumnName ([HostStatus.normal].map fun status => .int status.value)

theorem denotes_normalText : Denotes (HostsQueryOption.statusColumnName ++ " IN (" ++
    commaSeparated ([HostStatus.normal].map (encInt ·.value)) ++ ")") (some normalText) := by
  have hname : isName HostsQueryOption.statusColumnName := by decide
  exact denotes_inList hname opens_in (separates rfl) (fun status : HostStatus => encInt status.value)
    (fun status => .int status.value) (fun status => denotes_encInt status.value) [HostStatus.normal]

theorem holds_normalText (h : ServerHostDef) :
    normalText.holds (h.value none) = (h.status == .normal) := by
  have hvalue : h.value none HostsQueryOption.statusColumnName = .int h.status.value := rfl
  rw [normalText, Text.holds_inList, hvalue]
  cases h.status <;> rfl

theorem getCondition_currHosts (servers : ServerIdSet) (serverId : ServerIdType) :
    ∃ s, (currHostsOption servers serverId).getCondition = .ok s ∧
      Denotes s ([some normalText].foldl (Text.glue .and)
        (currHostsOption servers serverId).base.form) := by
  obtain ⟨s, hs, hdenotes⟩ := (isSystemQuery_currHosts servers serverId).getCondition
  refine ⟨_, ?_, denotes_addAnd hdenotes denotes_normalText⟩
  have hall : ({.normal} : Std.TreeSet HostStatus).contains .all = false := by decide
  have hlist : ({.normal} : Std.TreeSet HostStatus).toList = [.normal] := by decide
  unfold HostsQueryOption.getCondition
  rw [hs]
  simp only [bind, Except.bind, pure, Except.pure, currHostsOption, hall, hlist, Bool.false_eq_true,
    if_false]

theorem getServerHostDefs_current (t : HostTables) (servers : ServerIdSet) {serverId : ServerIdType}
    (hserver : serverId ≠ allServers) :
    t.getServerHostDefs (currHostsOption servers serverId) =
      .ok (t.serverHostDef.rows.filter (isCurrent servers serverId)) := by
  have ho := isSystemQuery_currHosts servers serverId
  obtain ⟨s, hs, hdenotes⟩ := getCondition_currHosts servers serverId
  unfold getServerHostDefs
  rw [hs]
  simp only [bind, Except.bind, pure, Except.pure, ho.isHostgroupUsed, Bool.false_eq_true, if_false]
  congr 1
  apply List.filter_congr
  intro h _
  have hforms : ∀ u, some u ∈ [some normalText] → u.isSingle ∧ u.wellFormed := by
    intro u hu
    obtain rfl := Option.some.inj (List.mem_singleton.mp hu)
    exact ⟨rfl, rfl⟩
  rw [ho.selects_appended (hasRow_value ho rfl h) [some normalText] hforms hdenotes]
  have hne : (serverId == allServers) = false := by simpa using hserver
  simp [isCurrent, currHostsOption, HostResourceQueryOption.isValid, HostResourceQueryOption.new,
    HostResourceQueryOption.isTargeted, HostResourceQueryOption.getValidServerIdSet, systemContext,
    hne, holds_normalText]

/-! ## What is to be stored -/

/-- The hosts that `syncHosts` compares with, by their IDs. -/
theorem getElem?_current (t : HostTables) (servers : ServerIdSet) (serverId : ServerIdType)
    (id : LocalHostIdType) :
    (mapOf ServerHostDef.hostIdInServer
        (t.serverHostDef.rows.filter (isCurrent servers serverId)))[id]? =
      (t.host (serverId, id)).filter (isCurrent servers serverId) := by
  have hserver : ∀ h ∈ t.serverHostDef.rows, isCurrent servers serverId h → h.serverId = serverId :=
    by
    intro h _ hcurrent
    simp only [isCurrent, Bool.and_eq_true, beq_iff_eq] at hcurrent
    exact hcurrent.1.2
  rw [getElem?_mapOf (nodup_part t.serverHostDef.unique_key hserver)]
  exact lookup_part t.serverHostDef.unique_key hserver id

/-- What is to be stored when a server reports hosts. -/
def upserts (t : HostTables) (servers : ServerIdSet) (serverId : ServerIdType)
    (reports : List HostReport) : List ServerHostDef :=
  hostsToUpsert (t.serverHostDef.rows.filter (isCurrent servers serverId))
    (reports.map (hostInfo serverId))

theorem isCurrent_iff {servers : ServerIdSet} {serverId : ServerIdType} {h : ServerHostDef} :
    isCurrent servers serverId h ↔
      servers.contains serverId ∧ h.serverId = serverId ∧ h.status = .normal := by
  simp only [isCurrent, Bool.and_eq_true, beq_iff_eq]
  constructor
  · rintro ⟨⟨hserver, rfl⟩, hstatus⟩
    exact ⟨hserver, rfl, hstatus⟩
  · rintro ⟨hserver, rfl, hstatus⟩
    exact ⟨⟨hserver, rfl⟩, hstatus⟩

/-- The report gives another name to a host that is compared with. -/
def Renames (t : HostTables) (servers : ServerIdSet) (serverId : ServerIdType)
    (report : HostReport) :
    Prop :=
  ∃ old, t.host (serverId, report.hostId) = some old ∧ isCurrent servers serverId old ∧
    old.name ≠ report.hostName

section Sync

variable {t : HostTables} {servers : ServerIdSet} {serverId : ServerIdType}
  {reports : List HostReport} (hdistinct : (reports.map HostReport.hostId).Nodup)

include hdistinct

/-- A host is stored because it is reported and new or renamed, or because it is compared with and
    not reported under its name. -/
theorem mem_upserts {h : ServerHostDef} : h ∈ t.upserts servers serverId reports ↔
    (∃ report ∈ reports, h = hostInfo serverId report ∧
      ∀ old, t.host (serverId, report.hostId) = some old → isCurrent servers serverId old →
        old.name ≠ report.hostName) ∨
    ∃ old, t.host (serverId, old.hostIdInServer) = some old ∧ isCurrent servers serverId old ∧
      (∀ report ∈ reports, report.hostId = old.hostIdInServer → report.hostName ≠ old.name) ∧
      h = { old with status := .removed } := by
  have hnews : ((reports.map (hostInfo serverId)).map ServerHostDef.hostIdInServer).Nodup := by
    rw [List.map_map]
    exact hdistinct
  unfold upserts hostsToUpsert
  simp only [List.mem_append, List.mem_map, mem_values]
  rw [reconcile_added hnews]
  refine or_congr ?_ ?_
  · rw [List.mem_filter, getElem?_current, List.mem_map]
    constructor
    · rintro ⟨⟨report, hreport, rfl⟩, hchanged⟩
      refine ⟨report, hreport, rfl, fun old hold hcurrent => ?_⟩
      have hfound : t.host (serverId, (hostInfo serverId report).hostIdInServer) = some old := hold
      rw [hfound, Option.filter_some, if_pos hcurrent] at hchanged
      simpa [isHostNameChanged, hostInfo] using hchanged
    · rintro ⟨report, hreport, rfl, hchanged⟩
      refine ⟨⟨report, hreport, rfl⟩, ?_⟩
      rw [Option.all_eq_true]
      intro old hold
      rw [Option.filter_eq_some_iff] at hold
      simpa [isHostNameChanged, hostInfo] using hchanged old hold.1 hold.2
  · constructor
    · rintro ⟨old, ⟨id, hold⟩, rfl⟩
      rw [reconcile_left hnews, getElem?_current, Option.filter_eq_some_iff,
        Option.filter_eq_some_iff] at hold
      obtain ⟨⟨hhost, hcurrent⟩, hchanged⟩ := hold
      have hid : old.hostIdInServer = id := congrArg Prod.snd (key_of_host hhost)
      subst hid
      refine ⟨old, hhost, hcurrent, fun report hreport hid hname => ?_, rfl⟩
      have hlookup := lookup_of_mem hnews (List.mem_map_of_mem hreport)
      simp only [hostInfo, hid] at hlookup
      simp [hlookup, isHostNameChanged, hname] at hchanged
    · rintro ⟨old, hhost, hcurrent, hnames, rfl⟩
      refine ⟨old, ⟨old.hostIdInServer, ?_⟩, rfl⟩
      rw [reconcile_left hnews, getElem?_current, Option.filter_eq_some_iff,
        Option.filter_eq_some_iff]
      refine ⟨⟨hhost, hcurrent⟩, ?_⟩
      rw [Option.all_eq_true]
      intro new hnew
      obtain ⟨report, hreport, rfl⟩ := List.mem_map.mp (mem_of_lookup hnew)
      have hid : (hostInfo serverId report).hostIdInServer = old.hostIdInServer :=
        key_of_lookup hnew
      have hne := hnames report hreport hid
      simpa [isHostNameChanged, hostInfo] using hne.symm

/-- What is to be stored fits, if every host that is reported has a name. -/
theorem fits_of_mem (hnames : ∀ report ∈ reports, report.hostName ≠ emptyText) {h : ServerHostDef}
    (hh : h ∈ t.upserts servers serverId reports) : t.Fits h := by
  rcases (mem_upserts hdistinct).mp hh with ⟨report, hreport, rfl, -⟩ | ⟨old, hold, hcurrent, -,
    rfl⟩
  · exact ⟨fun _ => hnames report hreport, .inl ⟨rfl, rfl⟩⟩
  · obtain ⟨-, -, hstatus⟩ := isCurrent_iff.mp hcurrent
    have hkey : old.key = (serverId, old.hostIdInServer) := key_of_host hold
    have hmem : old ∈ t.serverHostDef.rows := mem_rows_iff.mpr (hkey ▸ hold)
    exact ⟨fun _ => t.named old hmem (by simp [hstatus]), .inr ⟨old, hkey ▸ hold, rfl, rfl⟩⟩

/-- What is to be stored belongs to the server. -/
theorem serverId_of_mem {h : ServerHostDef} (hh : h ∈ t.upserts servers serverId reports) :
    h.serverId = serverId := by
  rcases (mem_upserts hdistinct).mp hh with ⟨report, -, rfl, -⟩ | ⟨old, -, hcurrent, -, rfl⟩
  · rfl
  · exact (isCurrent_iff.mp hcurrent).2.1

/-- A host that is reported under the name it has is not stored again. -/
theorem notMem_of_unchanged {report : HostReport} (hreport : report ∈ reports) {old : ServerHostDef}
    (hold : t.host (serverId, report.hostId) = some old) (hcurrent : isCurrent servers serverId old)
    (hname : old.name = report.hostName) :
    ∀ h ∈ t.upserts servers serverId reports, h.key ≠ (serverId, report.hostId) := by
  intro h hh hkey
  rcases (mem_upserts hdistinct).mp hh with ⟨report', hreport', rfl, hchanged⟩ | ⟨old', hold', -,
    hnames, rfl⟩
  · obtain rfl : report' = report :=
      List.inj_on_of_nodup_map hdistinct hreport' hreport (congrArg Prod.snd hkey)
    exact hchanged old hold hcurrent hname
  · have hid : old'.hostIdInServer = report.hostId := congrArg Prod.snd hkey
    rw [hid, hold, Option.some.injEq] at hold'
    exact hnames report hreport hid.symm (hold' ▸ hname.symm)

/-- A host that does not rename one that is compared with is stored in one form only. -/
theorem eq_of_mem_reported {report : HostReport} (hreport : report ∈ reports)
    (hold : ∀ old, t.host (serverId, report.hostId) = some old → isCurrent servers serverId old =
      false)
    {h : ServerHostDef} (hh : h ∈ t.upserts servers serverId reports)
    (hkey : h.key = (serverId, report.hostId)) : h = hostInfo serverId report := by
  rcases (mem_upserts hdistinct).mp hh with ⟨report', hreport', rfl, -⟩ | ⟨old', hold', hcurrent, -,
    rfl⟩
  · rw [List.inj_on_of_nodup_map hdistinct hreport' hreport (congrArg Prod.snd hkey)]
  · have hid : old'.hostIdInServer = report.hostId := congrArg Prod.snd hkey
    rw [hid] at hold'
    simp [hold old' hold'] at hcurrent

/-- A host that is not reported is stored as removed, if at all. -/
theorem eq_of_mem_absent {old : ServerHostDef} (hold : t.host (serverId, old.hostIdInServer) =
    some old)
    (habsent : old.hostIdInServer ∉ reports.map HostReport.hostId) {h : ServerHostDef}
    (hh : h ∈ t.upserts servers serverId reports) (hkey : h.key = (serverId, old.hostIdInServer)) :
    h = { old with status := .removed } ∧ isCurrent servers serverId old := by
  rcases (mem_upserts hdistinct).mp hh with ⟨report, hreport, rfl, -⟩ | ⟨old', hold', hcurrent, -,
    rfl⟩
  · exact absurd (List.mem_map.mpr ⟨report, hreport, congrArg Prod.snd hkey⟩) habsent
  · have hid : old'.hostIdInServer = old.hostIdInServer := congrArg Prod.snd hkey
    rw [hid, hold, Option.some.injEq] at hold'
    subst hold'
    exact ⟨rfl, hcurrent⟩

omit hdistinct in
theorem syncHosts_eq {t' : HostTables} (hserver : serverId ≠ allServers) {hostIds : HostHostIdMap}
    (hrun : upsertHosts (t.upserts servers serverId reports) t ∅ = .ok (t', hostIds)) :
    ∃ synced, t.syncHosts servers (reports.map (hostInfo serverId)) serverId = .ok synced ∧
      synced.tables = t' := by
  unfold upserts at hrun
  unfold syncHosts
  rw [t.getServerHostDefs_current servers hserver]
  simp only [bind, Except.bind]
  split
  · rename_i hnil
    rw [hnil] at hrun
    obtain ⟨rfl, -⟩ := Prod.mk.inj (Except.ok.inj hrun)
    exact ⟨_, rfl, rfl⟩
  · rw [hrun]
    exact ⟨_, rfl, rfl⟩

end Sync

/-- A server whose monitoring itself is a host, as SelfMonitor sets it up. -/
def selfMonitorHost : ServerHostDef where
  id := 1
  hostId := 1
  serverId := 1
  hostIdInServer := .ofString "__SELF_MONITOR"
  name := .ofString "(self-monitor)"
  status := .selfMonitor

def selfMonitoredTables : HostTables where
  hostList := ⟨[⟨1, .ofString "(self-monitor)"⟩], 2, by decide, by decide⟩
  serverHostDef := ⟨⟨[selfMonitorHost], 2, by decide, by decide⟩, by decide⟩
  hostgroupMember := []
  named := by decide

end HostTables

end Hatohol

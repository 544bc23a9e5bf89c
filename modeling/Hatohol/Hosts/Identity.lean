import Hatohol.Hosts.Sync

/-!
# The identity of hosts

The ID that a host has in `host_list` is what triggers, items and events refer to. Hosts that are
stored one call after another keep it, and it stays in `host_list`, unless a host comes with the
explicit ID zero, for which the database gives another number than the one that is written in
`server_host_def`.
-/

namespace Hatohol

open Sql DBTermCodec Table

namespace HostTables

/-! ## The list of hosts -/

/-- The ID is one of `host_list`. -/
def HasHostId (t : HostTables) (hostId : HostIdType) : Prop :=
  hostId ∈ t.hostList.rows.map HostListRow.id

instance (t : HostTables) (hostId : HostIdType) : Decidable (t.HasHostId hostId) :=
  inferInstanceAs (Decidable (_ ∈ _))

theorem selects_hostListId (hostId : HostIdType) (row : HostListRow) :
    selects ("id=" ++ toString hostId) row.value = decide (row.id = hostId) := by
  have hname : isName "id" := by decide
  have hselects := selects_eq_int hname row.value (hostId : Int)
  have hvalue : row.value "id" = .int row.id := rfl
  refine hselects.trans ?_
  rw [hvalue, Bool.eq_iff_iff]
  simp

theorem hasHost_eq (t : HostTables) (hostId : HostIdType) :
    t.hasHost hostId = decide (t.HasHostId hostId) := by
  simp only [hasHost, selects_hostListId]
  rw [Bool.eq_iff_iff]
  simp [HasHostId]

/-- A host that is added under a number other than zero is in the list, with all others. -/
theorem hasHostId_addHost {t : HostTables} {hostId : HostIdType} (name : CString)
    (hhostId : hostId ≠ autoIncrementValue) (n : HostIdType) :
    (t.addHost hostId name).1.HasHostId n ↔ t.HasHostId n ∨ n = (t.addHost hostId name).2 := by
  unfold addHost
  split
  · simp only [HasHostId, Counted.map_id_append, List.mem_append, List.mem_singleton]
  · have hne : ¬hostId = 0 := hhostId
    simp only [HasHostId, Counted.mem_upsert, if_neg hne]

theorem hostList_insertServerHostDef {t t' : HostTables} {h : ServerHostDef} {hname : h.isNamed}
    {affected : Nat} (hinsert : t.insertServerHostDef h hname = some (t', affected)) :
    t'.hostList = t.hostList := by
  unfold insertServerHostDef at hinsert
  split at hinsert
  · simp at hinsert
  · obtain ⟨rfl, -⟩ := Prod.mk.inj (Option.some.inj hinsert)
    rfl

/-! ## What a call may change -/

/-- The host that is stored for an ID of a server, if any, is in the list. -/
def Consistent (t : HostTables) (k : ServerIdType × LocalHostIdType) : Prop :=
  ∀ curr, t.host k = some curr → t.HasHostId curr.hostId

/-- Hosts that are stored keep their numbers, and so do those in the list. -/
structure Extends (t t' : HostTables) : Prop where
  hosts : ∀ k curr, t.host k = some curr →
    ∃ curr', t'.host k = some curr' ∧ curr'.id = curr.id ∧ curr'.hostId = curr.hostId
  hostList : ∀ n, t.HasHostId n → t'.HasHostId n
  consistent : ∀ k, t.Consistent k → t'.Consistent k

theorem Extends.refl (t : HostTables) : t.Extends t where
  hosts _ curr hcurr := ⟨curr, hcurr, rfl, rfl⟩
  hostList _ h := h
  consistent _ h := h

theorem Extends.trans {t₁ t₂ t₃ : HostTables} (h₁₂ : t₁.Extends t₂) (h₂₃ : t₂.Extends t₃) :
    t₁.Extends t₃ where
  hosts := by
    intro k curr hcurr
    obtain ⟨curr₂, hcurr₂, hid₂, hhostId₂⟩ := h₁₂.hosts k curr hcurr
    obtain ⟨curr₃, hcurr₃, hid₃, hhostId₃⟩ := h₂₃.hosts k curr₂ hcurr₂
    exact ⟨curr₃, hcurr₃, hid₃.trans hid₂, hhostId₃.trans hhostId₂⟩
  hostList n h := h₂₃.hostList n (h₁₂.hostList n h)
  consistent k h := h₂₃.consistent k (h₁₂.consistent k h)

/-- What throws leaves the tables as they are. -/
theorem Extends.getD {α : Type} {t : HostTables} {result : Except HatoholException α}
    {tables : α → HostTables} (h : ∀ a, result = .ok a → t.Extends (tables a)) :
    t.Extends ((result.toOption.map tables).getD t) := by
  cases result with
  | error e => exact .refl t
  | ok a => exact h a rfl

/-- The row is stored with the ID that is given for it. -/
theorem extends_insertServerHostDef (t : HostTables) {h : ServerHostDef} (hname : h.isNamed)
    (hid : h.id = 0 ∨ ∃ curr, t.host h.key = some curr ∧ h.id = curr.id)
    (hhostId : ∀ curr, t.host h.key = some curr → h.hostId = curr.hostId)
    (hlist : t.Consistent h.key → t.HasHostId h.hostId) :
    ∃ t' affected, t.insertServerHostDef h hname = some (t', affected) ∧ t.Extends t' ∧
      (t.host h.key = none → affected = 1) ∧
      ∃ curr', t'.host h.key = some curr' ∧ curr'.hostId = h.hostId := by
  obtain ⟨t', affected, n, hinsert, haffected, hn, hhosts⟩ := t.insertServerHostDef_spec hname hid
  have hsame := hostList_insertServerHostDef hinsert
  refine ⟨t', affected, hinsert, ⟨?_, ?_, ?_⟩, haffected, { h with id := n }, ?_, rfl⟩
  · intro k curr hcurr
    rw [hhosts]
    split
    · rename_i hk
      subst hk
      exact ⟨_, rfl, hn curr hcurr, hhostId curr hcurr⟩
    · exact ⟨curr, hcurr, rfl, rfl⟩
  · intro m hm
    rwa [HasHostId, hsame]
  · intro k hconsistent curr hcurr
    rw [HasHostId, hsame]
    rw [hhosts] at hcurr
    split at hcurr
    · rename_i hk
      obtain rfl := Option.some.inj hcurr
      exact hlist (hk ▸ hconsistent)
    · exact hconsistent curr hcurr
  · rw [hhosts, if_pos rfl]

theorem extends_storeHost {t t' : HostTables} {h : ServerHostDef} {hname : h.isNamed}
    {hostId hostId' : HostIdType} {tookNewHostId : Bool}
    (hid : h.id = 0 ∨ ∃ curr, t.host h.key = some curr ∧ h.id = curr.id)
    (hhostId : ∀ curr, t.host h.key = some curr → hostId = curr.hostId)
    (hnew : tookNewHostId → t.host h.key = none) (hlist : t.Consistent h.key → t.HasHostId hostId)
    (hstore : t.storeHost h hname hostId tookNewHostId = .ok (t', hostId')) : t.Extends t' := by
  obtain ⟨t'', affected, hinsert, hextends, haffected, -⟩ :=
    t.extends_insertServerHostDef (h := { h with hostId := hostId }) hname hid hhostId hlist
  have hupdate : (lastUpsertDidUpdate affected && tookNewHostId) = false := by
    cases tookNewHostId with
    | false => simp
    | true => simp [haffected (hnew rfl), lastUpsertDidUpdate]
  unfold storeHost at hstore
  simp only [hinsert, hupdate] at hstore
  obtain ⟨rfl, rfl⟩ := Prod.mk.inj (Except.ok.inj hstore)
  exact hextends

/-- What a host may be stored with: no number of its own, or that of the host under its key, and the
    ID zero only if it is there already. -/
structure Admits (t : HostTables) (h : ServerHostDef) : Prop where
  id : h.id = 0 ∨ ∃ curr, t.host h.key = some curr ∧ h.id = curr.id
  hostId : h.hostId = autoIncrementValue → (t.host h.key).isSome

theorem Extends.admits {t t' : HostTables} (hextends : t.Extends t') {h : ServerHostDef}
    (hadmits : t.Admits h) : t'.Admits h where
  id := by
    refine hadmits.id.imp_right ?_
    rintro ⟨curr, hcurr, hid⟩
    obtain ⟨curr', hcurr', hid', -⟩ := hextends.hosts _ curr hcurr
    exact ⟨curr', hcurr', hid.trans hid'.symm⟩
  hostId := by
    intro hzero
    obtain ⟨curr, hcurr⟩ := Option.isSome_iff_exists.mp (hadmits.hostId hzero)
    obtain ⟨curr', hcurr', -⟩ := hextends.hosts _ curr hcurr
    exact Option.isSome_iff_exists.mpr ⟨curr', hcurr'⟩

/-- A host that is not there yet is given an ID that is in the list. -/
theorem extends_addHost (t : HostTables) {h : ServerHostDef}
    (hzero : h.hostId ≠ autoIncrementValue) : t.Extends (t.addHost h.hostId h.name).1 where
  hosts k curr hcurr := ⟨curr, by rwa [host_addHost], rfl, rfl⟩
  hostList n hn := (hasHostId_addHost h.name hzero n).mpr (.inl hn)
  consistent := by
    intro k hconsistent curr hcurr
    rw [host_addHost] at hcurr
    exact (hasHostId_addHost h.name hzero _).mpr (.inl (hconsistent curr hcurr))

/-- One call of `upsertHost`. -/
theorem extends_upsertHost {t t' : HostTables} {h : ServerHostDef} {hostId : HostIdType}
    (hadmits : t.Admits h) (hupsert : t.upsertHost h = .ok (t', hostId)) : t.Extends t' := by
  unfold upsertHost at hupsert
  split at hupsert
  · rw [selectServerHostDef_eq] at hupsert
    cases hcurr : t.host h.key with
    | some curr =>
      simp only [hcurr] at hupsert
      split at hupsert
      · obtain ⟨rfl, -⟩ := Prod.mk.inj (Except.ok.inj hupsert)
        exact .refl t
      · split at hupsert
        · cases hupsert
        · refine extends_storeHost hadmits.id ?_ (by simp) ?_ hupsert
          · intro curr' hcurr'
            rw [Option.some.inj (hcurr.symm.trans hcurr')]
          · exact fun hconsistent => hconsistent curr hcurr
    | none =>
      have hzero : h.hostId ≠ autoIncrementValue := by
        intro hzero
        have := hadmits.hostId hzero
        simp [hcurr] at this
      simp only [hcurr] at hupsert
      split at hupsert
      · have hadd := t.extends_addHost hzero
        have hnone : (t.addHost h.hostId h.name).1.host h.key = none := by rw [host_addHost, hcurr]
        refine hadd.trans (extends_storeHost (hadd.admits hadmits).id ?_ (fun _ => hnone) ?_ hupsert)
        · intro curr hcurr'
          rw [hnone] at hcurr'
          cases hcurr'
        · exact fun _ => (hasHostId_addHost h.name hzero _).mpr (.inr rfl)
      · rename_i hhas
        simp only [not_or, Bool.not_eq_true', Bool.not_eq_false, hasHost_eq, decide_eq_true_eq]
          at hhas
        refine extends_storeHost hadmits.id ?_ (by simp) (fun _ => hhas.2) hupsert
        intro curr hcurr'
        rw [hcurr] at hcurr'
        cases hcurr'
  · cases hupsert

/-- The transaction of `upsertHosts`. -/
theorem extends_upsertHosts {hs : List ServerHostDef} {t t' : HostTables}
    {hostIds hostIds' : HostHostIdMap} (hadmits : ∀ h ∈ hs, t.Admits h)
    (hupsert : upsertHosts hs t hostIds = .ok (t', hostIds')) : t.Extends t' := by
  induction hs generalizing t hostIds with
  | nil =>
    obtain ⟨rfl, -⟩ := Prod.mk.inj (Except.ok.inj hupsert)
    exact .refl t
  | cons h hs ih =>
    rw [upsertHosts] at hupsert
    cases hfirst : t.upsertHost h with
    | error e => simp [hfirst, bind, Except.bind] at hupsert
    | ok result =>
      obtain ⟨t₁, hostId⟩ := result
      simp only [hfirst, bind, Except.bind] at hupsert
      have hextends := extends_upsertHost (hadmits h (by simp)) hfirst
      exact hextends.trans (ih (fun h' hh' => hextends.admits (hadmits h' (by simp [hh']))) hupsert)

/-- The hosts that are read are stored. -/
theorem host_of_mem_currHosts {t : HostTables} {option : HostsQueryOption}
    {currHosts : List ServerHostDef} (hread : t.getServerHostDefs option = .ok currHosts)
    {h : ServerHostDef} (hh : h ∈ currHosts) : t.host h.key = some h := by
  unfold getServerHostDefs at hread
  cases hcondition : option.getCondition with
  | error e => simp [hcondition, bind, Except.bind] at hread
  | ok condition =>
    simp only [hcondition, bind, Except.bind, pure, Except.pure, Except.ok.injEq] at hread
    subst hread
    apply mem_rows_iff.mp
    split at hh <;> exact List.mem_of_mem_filter hh

/-- `syncHosts` stores what comes in and what it has read. -/
theorem extends_syncHosts {t : HostTables} {servers : ServerIdSet} {svHostDefs : List ServerHostDef}
    {serverId : ServerIdType} {synced : SyncedHosts} (hadmits : ∀ h ∈ svHostDefs, t.Admits h)
    (hsync : t.syncHosts servers svHostDefs serverId = .ok synced) : t.Extends synced.tables := by
  unfold syncHosts at hsync
  cases hread : t.getServerHostDefs (currHostsOption servers serverId) with
  | error e => simp [hread, bind, Except.bind] at hsync
  | ok currHosts =>
    simp only [hread, bind, Except.bind] at hsync
    split at hsync
    · obtain rfl := Except.ok.inj hsync
      exact .refl t
    · cases hupsert : upsertHosts (hostsToUpsert currHosts svHostDefs) t ∅ with
      | error e => simp [hupsert] at hsync
      | ok result =>
        simp only [hupsert] at hsync
        obtain rfl := Except.ok.inj hsync
        refine extends_upsertHosts ?_ hupsert
        intro h hh
        rcases List.mem_append.mp hh with hh | hh
        · exact hadmits h (mem_of_mem_added hh)
        · obtain ⟨old, hold, rfl⟩ := List.mem_map.mp hh
          have hstored := host_of_mem_currHosts hread (mem_of_mem_left hold)
          exact ⟨.inr ⟨old, hstored, rfl⟩, fun _ => Option.isSome_iff_exists.mpr ⟨old, hstored⟩⟩

end HostTables

/-! ## Runs of calls -/

/-- A host as a caller gives it, without a number of its own. -/
abbrev NewServerHostDef := { h : ServerHostDef // h.id = autoIncrementValue }

/-- A call that stores hosts. -/
inductive HostCall where
  | upsertHost (serverHostDef : NewServerHostDef)
  | upsertHosts (serverHostDefs : List NewServerHostDef)
  | syncHosts (servers : ServerIdSet) (svHostDefs : List NewServerHostDef) (serverId : ServerIdType)

namespace HostCall

/-- The tables after a call. What throws is rolled back. -/
def run (t : HostTables) : HostCall → HostTables
  | .upsertHost h => ((t.upsertHost h).toOption.map (·.1)).getD t
  | .upsertHosts hs => ((HostTables.upsertHosts (hs.map (·.1)) t ∅).toOption.map (·.1)).getD t
  | .syncHosts servers hs serverId =>
      ((t.syncHosts servers (hs.map (·.1)) serverId).toOption.map (·.tables)).getD t

/-- The hosts that a call is given. -/
def hosts : HostCall → List NewServerHostDef
  | .upsertHost h => [h]
  | .upsertHosts hs => hs
  | .syncHosts _ hs _ => hs

/-- No host is given with the ID zero, unless it is there already. -/
def NoHostIdZero (t : HostTables) (call : HostCall) : Prop :=
  ∀ h ∈ call.hosts, h.1.hostId = autoIncrementValue → (t.host h.1.key).isSome

theorem extends_run {t : HostTables} {call : HostCall} (hmeets : call.NoHostIdZero t) :
    t.Extends (call.run t) := by
  have hadmits (h : NewServerHostDef) (hh : h ∈ call.hosts) : t.Admits h.1 :=
    ⟨.inl h.2, hmeets h hh⟩
  have hall (hs : List NewServerHostDef) (hhs : ∀ h ∈ hs, h ∈ call.hosts) :
      ∀ h ∈ hs.map (·.1), t.Admits h := by
    intro h hh
    obtain ⟨h', hh', rfl⟩ := List.mem_map.mp hh
    exact hadmits h' (hhs h' hh')
  cases call with
  | upsertHost h =>
    exact .getD fun result hrun =>
      HostTables.extends_upsertHost (hadmits h (by simp [hosts])) hrun
  | upsertHosts hs =>
    exact .getD fun result hrun => HostTables.extends_upsertHosts (hall hs fun _ h => h) hrun
  | syncHosts servers hs serverId =>
    exact .getD fun synced hrun => HostTables.extends_syncHosts (hall hs fun _ h => h) hrun

end HostCall

namespace HostTables

/-- The tables after some calls. -/
def runCalls (t : HostTables) (calls : List HostCall) : HostTables := calls.foldl HostCall.run t

/-- Every call of a run meets the condition where it is made. -/
def AllMeet (t : HostTables) : List HostCall → Prop
  | [] => True
  | call :: calls => call.NoHostIdZero t ∧ (call.run t).AllMeet calls

theorem allMeet_append {t : HostTables} {calls calls' : List HostCall} :
    t.AllMeet (calls ++ calls') ↔ t.AllMeet calls ∧ (t.runCalls calls).AllMeet calls' := by
  induction calls generalizing t with
  | nil => simp [AllMeet, runCalls]
  | cons call calls ih =>
    rw [List.cons_append, AllMeet, AllMeet, ih, and_assoc]
    rfl

theorem extends_runCalls {t : HostTables} {calls : List HostCall} (hmeet : t.AllMeet calls) :
    t.Extends (t.runCalls calls) := by
  induction calls generalizing t with
  | nil => exact .refl t
  | cons call calls ih => exact (HostCall.extends_run hmeet.1).trans (ih hmeet.2)

theorem consistent_empty (k : ServerIdType × LocalHostIdType) : HostTables.empty.Consistent k := by
  intro curr hcurr
  simp [host, HostTables.empty, AutoTable.empty, Counted.empty, AutoTable.byKey, lookup] at hcurr

/-- A host that is given the ID zero. -/
def hostIdZero : NewServerHostDef := ⟨⟨0, 0, 1, .ofString "7", .ofString "web", .normal⟩, rfl⟩

/-- A host whose ID is assigned, and that is removed then. -/
def storedAndRemoved : List HostCall :=
  [.upsertHost ⟨⟨0, autoAssignedId, 1, .ofString "7", .ofString "web", .normal⟩, rfl⟩,
    .syncHosts {1} [] 1]

end HostTables

end Hatohol

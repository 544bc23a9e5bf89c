import Hatohol.Hosts.Identity

/-!
# The host IDs that are reported

`upsertHost` and `upsertHosts` report the IDs of the hosts that they store
(server/src/DBTablesHost.cc:611-821). They are the IDs that are stored in the end.
-/

namespace Hatohol

open Table

namespace HostTables

theorem Fits.admits {t : HostTables} {h : ServerHostDef} (hfits : t.Fits h) : t.Admits h where
  id := hfits.numbers.imp (·.1) fun ⟨curr, hcurr, hid, _⟩ => ⟨curr, hcurr, hid⟩
  hostId := by
    intro hzero
    rcases hfits.numbers with ⟨-, hauto⟩ | ⟨curr, hcurr, -⟩
    · rw [hzero] at hauto
      cases hauto
    · rw [hcurr]
      rfl

theorem hostId_storeHost {t t' : HostTables} {h : ServerHostDef} {hname : h.isNamed}
    {hostId hostId' : HostIdType} {tookNewHostId : Bool}
    (hid : h.id = 0 ∨ ∃ curr, t.host h.key = some curr ∧ h.id = curr.id)
    (hnew : tookNewHostId → t.host h.key = none)
    (hstore : t.storeHost h hname hostId tookNewHostId = .ok (t', hostId')) :
    ∃ curr, t'.host h.key = some curr ∧ curr.hostId = hostId' := by
  obtain ⟨t₁, affected, n, hinsert, haffected, -, hhosts⟩ :=
    t.insertServerHostDef_spec (h := { h with hostId := hostId }) hname hid
  have hupdate : (lastUpsertDidUpdate affected && tookNewHostId) = false := by
    cases tookNewHostId with
    | false => exact Bool.and_false _
    | true =>
      rw [haffected (hnew rfl)]
      rfl
  unfold storeHost at hstore
  simp only [hinsert, hupdate] at hstore
  obtain ⟨rfl, rfl⟩ := Prod.mk.inj (Except.ok.inj hstore)
  exact ⟨_, (hhosts h.key).trans (if_pos rfl), rfl⟩

/-- The ID that `upsertHost` reports is the one that is stored. -/
theorem hostId_upsertHost {t t' : HostTables} {h : ServerHostDef} {hostId : HostIdType}
    (hfits : t.Fits h) (hupsert : t.upsertHost h = .ok (t', hostId)) :
    ∃ curr, t'.host h.key = some curr ∧ curr.hostId = hostId := by
  have hid := hfits.admits.id
  unfold upsertHost at hupsert
  rw [dif_pos hfits.named, selectServerHostDef_eq] at hupsert
  cases hcurr : t.host h.key with
  | some curr =>
    simp only [hcurr] at hupsert
    split at hupsert
    · obtain ⟨rfl, rfl⟩ := Prod.mk.inj (Except.ok.inj hupsert)
      exact ⟨curr, hcurr, rfl⟩
    · split at hupsert
      · cases hupsert
      · exact hostId_storeHost hid (by simp) hupsert
  | none =>
    have hnone : (t.addHost h.hostId h.name).1.host h.key = none := by rw [host_addHost, hcurr]
    simp only [hcurr] at hupsert
    split at hupsert
    · refine hostId_storeHost (t := (t.addHost h.hostId h.name).1) ?_ (fun _ => hnone) hupsert
      rwa [host_addHost]
    · exact hostId_storeHost hid (by simp) hupsert

variable {serverId : ServerIdType}

/-- The map of `upsertHosts` has the IDs that are stored in the end. -/
theorem hostIds_upsertHosts {hs : List ServerHostDef} {t t' : HostTables}
    {hostIds hostIds' : HostHostIdMap} (hfits : ∀ h ∈ hs, t.Fits h)
    (hserver : ∀ h ∈ hs, h.serverId = serverId)
    (hruns : upsertHosts hs t hostIds = .ok (t', hostIds')) (id : LocalHostIdType) :
    ((∃ h ∈ hs, h.hostIdInServer = id) →
      ∃ curr, t'.host (serverId, id) = some curr ∧ hostIds'[id]? = some curr.hostId) ∧
    ((∀ h ∈ hs, h.hostIdInServer ≠ id) → hostIds'[id]? = hostIds[id]?) := by
  induction hs generalizing t hostIds with
  | nil =>
    obtain ⟨-, rfl⟩ := Prod.mk.inj (Except.ok.inj hruns)
    exact ⟨fun ⟨_, hmem, _⟩ => absurd hmem List.not_mem_nil, fun _ => rfl⟩
  | cons h hs ih =>
    obtain ⟨u, hostId, hupsert, hstores⟩ := upsertHost_spec (hfits h List.mem_cons_self)
    rw [upsertHosts, hupsert] at hruns
    simp only [bind, Except.bind] at hruns
    have hfits' : ∀ h' ∈ hs, u.Fits h' := fun h' hh' =>
      hstores.fits (hfits h' (List.mem_cons_of_mem _ hh'))
    obtain ⟨hsome, hnone⟩ := ih hfits' (fun h' hh' => hserver h' (List.mem_cons_of_mem _ hh')) hruns
    refine ⟨fun hex => ?_, fun hall => ?_⟩
    · by_cases hlater : ∃ h' ∈ hs, h'.hostIdInServer = id
      · exact hsome hlater
      · -- this host is the last one with its key, and its number is kept
        obtain ⟨h', hh', hid⟩ := hex
        rcases List.mem_cons.mp hh' with rfl | hh'
        · obtain ⟨curr, hcurr, rfl⟩ := hostId_upsertHost (hfits h' List.mem_cons_self) hupsert
          obtain ⟨curr', hcurr', -, hsame⟩ :=
            (extends_upsertHosts (fun h hh => (hfits' h hh).admits) hruns).hosts _ curr hcurr
          have hkey : h'.key = (serverId, id) := by
            rw [ServerHostDef.key, hserver h' List.mem_cons_self, hid]
          refine ⟨curr', hkey ▸ hcurr', (hnone fun g hg hgid => hlater ⟨g, hg, hgid⟩).trans ?_⟩
          rw [hid, Std.TreeMap.getElem?_insert_self, hsame]
        · exact absurd ⟨h', hh', hid⟩ hlater
    · rw [hnone fun h' hh' => hall h' (List.mem_cons_of_mem _ hh'), Std.TreeMap.getElem?_insert,
        if_neg fun heq => hall h List.mem_cons_self (Std.LawfulEqCmp.eq_of_compare heq)]

end HostTables

end Hatohol

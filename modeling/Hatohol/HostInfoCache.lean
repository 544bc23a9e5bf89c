import Hatohol.Hosts.Identity

/-!
# The names of hosts

The gate of a plugin keeps the names and the IDs of the hosts of its server, so that the triggers
and the events of a host get its ID without a query (server/src/HostInfoCache.cc). A trigger of a
host that the gate does not know registers the host without an ID.
-/

namespace Hatohol

/-- INVALID_HOST_ID, which is -2 as an unsigned number. -/
def invalidHostId : HostIdType := 2 ^ 64 - 2

/-- INVALID_SERVER_ID -/
def invalidServerId : ServerIdType := -2

namespace HostInfoCache

structure Element where
  hostId : HostIdType
  name : CString
  deriving DecidableEq, Repr

end HostInfoCache

/-- An assertion that fails in `update` leaves the lock held. -/
structure HostInfoCache where
  hostIdNameMap : Std.TreeMap LocalHostIdType HostInfoCache.Element
  lockHeld : Bool

namespace HostInfoCache

def empty : HostInfoCache := ⟨∅, false⟩

/-- (HostInfoCache.cc:117-129) -/
def getName (c : HostInfoCache) (id : LocalHostIdType) : Option Element := c.hostIdNameMap[id]?

/-- The ID that is entered for a host (HostInfoCache.cc:78-79). -/
def entered (svHostDef : ServerHostDef) (hostId : HostIdType) : HostIdType :=
  if hostId ≠ invalidHostId then hostId else svHostDef.hostId

/-- (HostInfoCache.cc:63-88) -/
def update (c : HostInfoCache) (svHostDef : ServerHostDef) (hostId : HostIdType) (adhoc : Bool) :
    HostInfoCache :=
  if c.lockHeld then c
  else if (c.getName svHostDef.hostIdInServer).any fun elem => elem.name == svHostDef.name then c
  else
    let elem : Element := ⟨entered svHostDef hostId, svHostDef.name⟩
    if adhoc || elem.hostId != invalidHostId then
      { c with hostIdNameMap := c.hostIdNameMap.insert svHostDef.hostIdInServer elem }
    else { c with lockHeld := true }

/-- (HostInfoCache.cc:90-115) -/
def updateAll (c : HostInfoCache) (svHostDefs : List ServerHostDef)
    (hostIds : Option HostTables.HostHostIdMap) : HostInfoCache :=
  svHostDefs.foldl (fun c svHostDef =>
    c.update svHostDef ((hostIds.bind fun ids => ids[svHostDef.hostIdInServer]?).getD invalidHostId)
      false) c

/-- (HostInfoCache.cc:131-145) -/
def registerAdHoc (c : HostInfoCache) (idInServer : LocalHostIdType) (name : CString) :
    HostInfoCache × Element :=
  let svHostDef : ServerHostDef := {
    id := 2 ^ 64 - 1
    hostId := invalidHostId
    serverId := invalidServerId
    hostIdInServer := idInServer
    name := name
    status := .inapplicable }
  (c.update svHostDef invalidHostId true, ⟨svHostDef.hostId, svHostDef.name⟩)

/-- (HatoholArmPluginGateHAPI2.cc:2579-2594) -/
def getHostInfoCacheWithAdhocRegistration (c : HostInfoCache) (hostIdInServer : LocalHostIdType)
    (name : CString) : HostInfoCache × HostIdType :=
  match c.getName hostIdInServer with
  | some cacheElem => (c, cacheElem.hostId)
  | none =>
    let (c, cacheElem) := c.registerAdHoc hostIdInServer name
    (c, cacheElem.hostId)

/-- What the constructor reads (HostInfoCache.cc:50-51). -/
def serverOption (servers : ServerIdSet) (serverId : ServerIdType) : HostsQueryOption :=
  let o := HostsQueryOption.new (systemContext servers)
  { o with base := { o.base with targetServerId := serverId } }

/-- (HostInfoCache.cc:44-57) -/
def new (t : HostTables) (servers : ServerIdSet) (serverId : ServerIdType) :
    Except HatoholException HostInfoCache := do
  let svHostDefs ← t.getServerHostDefs (serverOption servers serverId)
  pure (empty.updateAll svHostDefs none)

/-! ## Updates -/

/-- What stands under an ID when an element comes: one of the same name stays. -/
def Element.renew (old : Option Element) (elem : Element) : Element :=
  match old with
  | some e => if e.name = elem.name then e else elem
  | none => elem

theorem Element.renew_of_name {e elem : Element} (hname : e.name = elem.name) :
    renew (some e) elem = e := if_pos hname

variable {c : HostInfoCache} {svHostDef : ServerHostDef} {hostId : HostIdType} {adhoc : Bool}

theorem update_spec (hfree : c.lockHeld = false)
    (hvalid : adhoc = false → entered svHostDef hostId ≠ invalidHostId) :
    (c.update svHostDef hostId adhoc).lockHeld = false ∧
    ∀ id, (c.update svHostDef hostId adhoc).getName id =
      if svHostDef.hostIdInServer = id then
        some (.renew (c.getName id) ⟨entered svHostDef hostId, svHostDef.name⟩)
      else c.getName id := by
  have hpasses : (adhoc || entered svHostDef hostId != invalidHostId) = true := by
    cases adhoc with
    | true => rfl
    | false => exact bne_iff_ne.mpr (hvalid rfl)
  unfold update
  rw [if_neg (by rw [hfree]; exact Bool.false_ne_true)]
  split
  next hsame =>
    refine ⟨hfree, fun id => ?_⟩
    obtain ⟨e, he, hname⟩ := (Option.any_eq_true _ _).mp hsame
    split
    next hid =>
      rw [← hid, he, Element.renew_of_name (beq_iff_eq.mp hname)]
    next => rfl
  next hdiffers =>
    dsimp only
    rw [if_pos hpasses]
    refine ⟨hfree, fun id => ?_⟩
    change (c.hostIdNameMap.insert _ _)[id]? = _
    rw [Std.TreeMap.getElem?_insert]
    simp only [Std.LawfulEqCmp.compare_eq_iff_eq]
    split
    next hid =>
      subst hid
      cases he : c.getName svHostDef.hostIdInServer with
      | none => rfl
      | some e =>
        rw [he] at hdiffers
        rw [Element.renew, if_neg fun hname => hdiffers (beq_iff_eq.mpr hname)]
    next => rfl

/-- Several hosts, one after another. -/
theorem updateAll_spec {svHostDefs : List ServerHostDef} {hostIds : Option HostTables.HostHostIdMap}
    (hvalid : ∀ h ∈ svHostDefs, entered h ((hostIds.bind fun ids =>
      ids[h.hostIdInServer]?).getD invalidHostId) ≠ invalidHostId) (hfree : c.lockHeld = false) :
    (c.updateAll svHostDefs hostIds).lockHeld = false ∧
    ∀ id, (c.updateAll svHostDefs hostIds).getName id =
      (svHostDefs.filter (·.hostIdInServer = id)).foldl (fun old h =>
        some (.renew old ⟨entered h ((hostIds.bind fun ids => ids[id]?).getD invalidHostId), h.name⟩))
        (c.getName id) := by
  induction svHostDefs generalizing c with
  | nil => exact ⟨hfree, fun _ => rfl⟩
  | cons h hs ih =>
    obtain ⟨hfree', hget⟩ := update_spec hfree fun _ => hvalid h List.mem_cons_self
    obtain ⟨hend, hgets⟩ := ih (fun h' hh' => hvalid h' (List.mem_cons_of_mem _ hh')) hfree'
    refine ⟨hend, fun id => (hgets id).trans ?_⟩
    rw [hget]
    by_cases hid : h.hostIdInServer = id
    · rw [if_pos hid, List.filter_cons_of_pos (by simpa using hid), List.foldl_cons, hid]
    · rw [if_neg hid, List.filter_cons_of_neg (by simpa using hid)]

end HostInfoCache

end Hatohol

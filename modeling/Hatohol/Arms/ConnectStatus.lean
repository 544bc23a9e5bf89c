import Hatohol.ArmBase
import Hatohol.Machine.Loops

/-!
# What the triggers of an arm tell

After a round the triggers should tell of its result: the trigger of the failure is PROBLEM, those
of the kinds above it are OK, and those below it are not. A failure that is repeated changes
nothing, so they do as long as no other trigger has become a PROBLEM since its first time.
-/

namespace Hatohol

open Machine

namespace ArmUtils

variable {numArmTriggers : Nat} {u : ArmUtils numArmTriggers} {now : Timespec}

/-! ## A trigger and its events -/

/-- The types of the events that have been created for a trigger. -/
def history (u : ArmUtils numArmTriggers) (idx : Fin numArmTriggers) : List EventType :=
  (u.eventInfoList.filter fun event => event.place == idx.val).map (·.type)

def view (idx : Fin numArmTriggers) (u : ArmUtils numArmTriggers) : ArmTrigger × List EventType :=
  (u.armTriggers idx, u.history idx)

theorem view_createTrigger (idx : Fin numArmTriggers) (armTrigger : ArmTrigger) :
    view idx (u.createTrigger now armTrigger) = view idx u := rfl

theorem history_createEvent (idx k : Fin numArmTriggers) (armTrigger : ArmTrigger) :
    (u.createEvent now idx armTrigger).history k = u.history k ++
      if k = idx then [if armTrigger.status = .ok then .good else .bad] else [] := by
  rw [history, createEvent, List.filter_append, List.map_append, ← history]
  by_cases hk : k = idx
  · subst hk
    simp
  · have hne : (idx : Nat) ≠ k := fun h => hk (Fin.ext h.symm)
    simp [hk, hne]

theorem armTriggers_setStatus_self (idx : Fin numArmTriggers) (status : TriggerStatusType) :
    (u.setStatus idx status).armTriggers idx = { u.armTriggers idx with status := status } :=
  Function.update_self ..

theorem view_setStatus_self (idx : Fin numArmTriggers) (status : TriggerStatusType) :
    view idx (u.setStatus idx status) =
      ({ u.armTriggers idx with status := status }, u.history idx) := by
  rw [view, armTriggers_setStatus_self]
  rfl

theorem view_setStatus_of_ne {idx k : Fin numArmTriggers} (hk : k ≠ idx)
    (status : TriggerStatusType) : view k (u.setStatus idx status) = view k u :=
  Prod.ext (Function.update_of_ne hk ..) rfl

/-- A trigger that is used becomes OK, with an event if it was a PROBLEM. -/
def becomesOK (v : ArmTrigger × List EventType) : ArmTrigger × List EventType :=
  if v.1.status = .all then v
  else ({ v.1 with status := .ok }, if v.1.status = .problem then v.2 ++ [.good] else v.2)

/-- A trigger that is OK becomes UNKNOWN, without an event. -/
def becomesUnknown (v : ArmTrigger × List EventType) : ArmTrigger × List EventType :=
  if v.1.status = .ok then ({ v.1 with status := .unknown }, v.2) else v

/-- Any other trigger becomes a PROBLEM, with an event. -/
def becomesProblem (v : ArmTrigger × List EventType) : ArmTrigger × List EventType :=
  ({ v.1 with status := .problem }, v.2 ++ [.bad])

theorem view_createEvent_self (idx : Fin numArmTriggers) (armTrigger : ArmTrigger) :
    view idx (u.createEvent now idx armTrigger) = (u.armTriggers idx,
      u.history idx ++ [if armTrigger.status = .ok then .good else .bad]) := by
  rw [view, history_createEvent, if_pos rfl]
  rfl

theorem view_createEvent_of_ne {idx k : Fin numArmTriggers} (hk : k ≠ idx)
    (armTrigger : ArmTrigger) : view k (u.createEvent now idx armTrigger) = view k u := by
  rw [view, history_createEvent, if_neg hk, List.append_nil]
  rfl

theorem view_unlessUnused_ok_self (u : ArmUtils numArmTriggers) (idx : Fin numArmTriggers) :
    view idx (unlessUnused (setTriggerToStatusOK now) u idx) = becomesOK (view idx u) := by
  rw [unlessUnused, isUsed, setTriggerToStatusOK]
  cases hstatus : (u.armTriggers idx).status with
  | all => simp [becomesOK, view, hstatus]
  | ok =>
    have hsame : { u.armTriggers idx with status := .ok } = u.armTriggers idx := by rw [← hstatus]
    simp [becomesOK, view, hstatus, hsame]
  | problem =>
    simp only [becomesOK, view, hstatus, reduceCtorEq, ne_eq, not_false_eq_true, decide_true,
      Bool.not_true, Bool.false_eq_true, if_true, if_false]
    change view idx (createEvent _ now idx _) = _
    rw [view_createEvent_self]
    change ((u.setStatus idx .ok).armTriggers idx,
      u.history idx ++ [if ((u.setStatus idx .ok).armTriggers idx).status = .ok then .good
        else .bad]) = _
    rw [armTriggers_setStatus_self, if_pos rfl]
  | unknown =>
    simp only [becomesOK, view, hstatus, reduceCtorEq, ne_eq, not_false_eq_true, decide_true,
      Bool.not_true, Bool.false_eq_true, if_true, if_false]
    exact view_setStatus_self idx .ok

theorem view_unlessUnused_ok_of_ne (u : ArmUtils numArmTriggers) (idx k : Fin numArmTriggers)
    (hk : k ≠ idx) : view k (unlessUnused (setTriggerToStatusOK now) u idx) = view k u := by
  have hset : view k ((u.setStatus idx .ok).createTrigger now
      ((u.setStatus idx .ok).armTriggers idx)) = view k u := view_setStatus_of_ne hk .ok
  rw [unlessUnused, setTriggerToStatusOK]
  split
  · rfl
  · dsimp only
    split <;> split
    · rw [view_createEvent_of_ne hk, hset]
    · exact view_createEvent_of_ne hk _
    · exact hset
    · rfl

theorem view_unlessUnused_unknown_self (u : ArmUtils numArmTriggers) (idx : Fin numArmTriggers) :
    view idx (unlessUnused (setTriggerToStatusUnknown now) u idx) = becomesUnknown (view idx u) := by
  rw [unlessUnused, isUsed, setTriggerToStatusUnknown, becomesUnknown]
  change view idx (if _ then u else _) = if (u.armTriggers idx).status = .ok then _ else view idx u
  by_cases hok : (u.armTriggers idx).status = .ok
  · rw [if_pos hok, if_pos hok, if_neg (by simp [hok])]
    exact view_setStatus_self idx .unknown
  · rw [if_neg hok, if_neg hok]
    exact congrArg (view idx) (ite_self u)

theorem view_unlessUnused_unknown_of_ne (u : ArmUtils numArmTriggers) (idx k : Fin numArmTriggers)
    (hk : k ≠ idx) : view k (unlessUnused (setTriggerToStatusUnknown now) u idx) = view k u := by
  rw [unlessUnused, setTriggerToStatusUnknown]
  split
  · rfl
  · split
    · exact view_setStatus_of_ne hk .unknown
    · rfl

/-! ## Updates -/

theorem view_updateTriggersForCollectingOK (u : ArmUtils numArmTriggers)
    (k : Fin numArmTriggers) :
    view k (u.updateTriggersForCollectingOK now) = becomesOK (view k u) := by
  rw [updateTriggersForCollectingOK, view_foldl view_unlessUnused_ok_self
    view_unlessUnused_ok_of_ne _ (List.nodup_finRange _), if_pos (List.mem_finRange k)]

theorem view_updateLowerTriggers (u : ArmUtils numArmTriggers)
    (triggerIdx k : Fin numArmTriggers) :
    view k (u.updateLowerTriggers now triggerIdx) =
      if triggerIdx < k then becomesOK (view k u) else view k u := by
  rw [updateLowerTriggers, view_foldl view_unlessUnused_ok_self view_unlessUnused_ok_of_ne _
    ((List.nodup_finRange _).filter _)]
  simp only [List.mem_filter, List.mem_finRange, true_and, decide_eq_true_iff]

theorem view_updateUpperTriggers (u : ArmUtils numArmTriggers)
    (triggerIdx k : Fin numArmTriggers) :
    view k (u.updateUpperTriggers now triggerIdx) =
      if k < triggerIdx then becomesUnknown (view k u) else view k u := by
  rw [updateUpperTriggers, view_foldl view_unlessUnused_unknown_self
    view_unlessUnused_unknown_of_ne _ ((List.nodup_finRange _).filter _)]
  simp only [List.mem_filter, List.mem_finRange, true_and, decide_eq_true_iff]

/-- What a failure does to a trigger, at its first time. -/
theorem view_updateTriggersForCollectingFailure {triggerIdx : Fin numArmTriggers}
    (hused : u.isUsed triggerIdx) (hnew : (u.armTriggers triggerIdx).status ≠ .problem)
    (k : Fin numArmTriggers) :
    view k (u.updateTriggersForCollectingFailure now triggerIdx .problem) =
      if k < triggerIdx then becomesUnknown (view k u)
      else if triggerIdx < k then becomesOK (view k u) else becomesProblem (view k u) := by
  rw [updateTriggersForCollectingFailure, hused, Bool.not_true, if_neg Bool.false_ne_true,
    if_neg hnew]
  simp only [ne_eq, reduceCtorEq, not_false_eq_true, if_true]
  rw [view_updateUpperTriggers, view_updateLowerTriggers]
  by_cases hk : k = triggerIdx
  · subst hk
    rw [if_neg (lt_irrefl k), if_neg (lt_irrefl k), if_neg (lt_irrefl k), if_neg (lt_irrefl k),
      view_createEvent_self]
    change ((u.setStatus k .problem).armTriggers k,
      u.history k ++ [if ((u.setStatus k .problem).armTriggers k).status = .ok then .good
        else .bad]) = _
    rw [armTriggers_setStatus_self, if_neg (by simp)]
    rfl
  · rw [view_createEvent_of_ne hk, view_createTrigger, view_setStatus_of_ne hk]
    rcases lt_or_gt_of_ne hk with hlt | hgt
    · rw [if_pos hlt, if_neg (not_lt_of_gt hlt), if_pos hlt]
    · rw [if_neg (not_lt_of_gt hgt), if_pos hgt, if_neg (not_lt_of_gt hgt), if_pos hgt]

theorem updateTriggerStatus_collectOk (u : ArmUtils numArmTriggers)
    (status : TriggerStatusType) :
    u.updateTriggerStatus now (numArmTriggers + 1) status =
      u.updateTriggersForCollectingOK now := by
  rw [updateTriggerStatus, isCollectingOK, if_pos (beq_self_eq_true _)]

theorem updateTriggerStatus_of_lt (u : ArmUtils numArmTriggers)
    (triggerIdx : Fin numArmTriggers) (status : TriggerStatusType) :
    u.updateTriggerStatus now triggerIdx status =
      u.updateTriggersForCollectingFailure now triggerIdx status := by
  have hindex : (triggerIdx.val == numArmTriggers + 1) = false := by
    rw [beq_eq_false_iff_ne]
    omega
  rw [updateTriggerStatus, isCollectingOK, hindex, if_neg Bool.false_ne_true,
    dif_pos triggerIdx.isLt]

/-- A failure that is repeated, or whose trigger is not used, changes nothing. -/
theorem updateTriggersForCollectingFailure_of_not {triggerIdx : Fin numArmTriggers}
    (hnot : u.isUsed triggerIdx = false ∨ (u.armTriggers triggerIdx).status = .problem) :
    u.updateTriggersForCollectingFailure now triggerIdx .problem = u := by
  rw [updateTriggersForCollectingFailure]
  rcases hnot with hunused | hproblem
  · rw [hunused]
    rfl
  · rw [if_pos hproblem]
    exact ite_self u

end ArmUtils

namespace ArmBase

open ArmUtils

variable {arm : ArmBase} {round : Round}

def status (arm : ArmBase) (k : Fin numCollectNgKind) : TriggerStatusType :=
  (arm.utils.armTriggers k).status

/-- After a failure whose trigger is used that trigger is PROBLEM, the used ones above it are OK and
    those below it are not; after a success all used triggers are OK. -/
def TellsTruth (arm : ArmBase) : ArmPollingResult → Prop
  | .collectNg kind => arm.status kind.idx ≠ .all →
      arm.status kind.idx = .problem ∧
      (∀ k, kind.idx < k → arm.status k ≠ .all → arm.status k = .ok) ∧
      (∀ k, k < kind.idx → arm.status k ≠ .ok)
  | .collectOk => ∀ k, arm.status k ≠ .all → arm.status k = .ok

/-- A failure whose trigger is PROBLEM already comes while the used triggers above it are OK. -/
def Clean (arm : ArmBase) (round : Round) : Prop :=
  ∀ kind, round.armPollingResult = .collectNg kind → arm.status kind.idx = .problem →
    ∀ k, kind.idx < k → arm.status k ≠ .all → arm.status k = .ok

/-! ## A round -/

theorem view_createInitialTriggers (u : ArmUtils numCollectNgKind) (now : Timespec)
    (k : Fin numCollectNgKind) : view k (createInitialTriggers u now) = view k u := by
  rw [createInitialTriggers]
  generalize List.finRange numCollectNgKind = is
  induction is generalizing u with
  | nil => rfl
  | cons i is ih =>
    rw [List.foldl_cons, ih]
    split <;> rfl

theorem view_setInitialTriggerStatus (arm : ArmBase) (now : Timespec) (hostId : Option HostIdType)
    (k : Fin numCollectNgKind) :
    view k (arm.setInitialTriggerStatus now hostId).utils = view k arm.utils := by
  have hcreated := view_createInitialTriggers arm.utils now k
  rw [setInitialTriggerStatus]
  generalize createInitialTriggers arm.utils now = utils at hcreated ⊢
  by_cases hnone : utils.triggerInfoList = []
  · rw [if_pos hnone]
  · rw [if_neg hnone]
    exact hcreated

theorem setInitialTriggerStatus_statuses (arm : ArmBase) (now : Timespec)
    (hostId : Option HostIdType) :
    (arm.setInitialTriggerStatus now hostId).lastFailureStatus = arm.lastFailureStatus ∧
      (arm.setInitialTriggerStatus now hostId).previousArmWorkStatus =
        arm.previousArmWorkStatus := by
  rw [setInitialTriggerStatus]
  generalize createInitialTriggers arm.utils now = utils
  by_cases hnone : utils.triggerInfoList = []
  · rw [if_pos hnone]
    exact ⟨rfl, rfl⟩
  · rw [if_neg hnone]
    exact ⟨rfl, rfl⟩

/-- What a round does to a trigger and its events. -/
def told (arm : ArmBase) (k : Fin numCollectNgKind) :
    ArmPollingResult → ArmTrigger × List EventType
  | .collectOk =>
    if arm.previousArmWorkStatus = .ok then view k arm.utils else becomesOK (view k arm.utils)
  | .collectNg kind =>
    if arm.status kind.idx = .all ∨ arm.status kind.idx = .problem then view k arm.utils
    else if k < kind.idx then becomesUnknown (view k arm.utils)
    else if kind.idx < k then becomesOK (view k arm.utils)
    else becomesProblem (view k arm.utils)

theorem view_setServerConnectStatus_ok (arm : ArmBase) (now : Timespec)
    (k : Fin numCollectNgKind) :
    view k (arm.setServerConnectStatus now .collectOk).utils = becomesOK (view k arm.utils) := by
  rw [setServerConnectStatus]
  dsimp only [ArmPollingResult.index]
  rw [updateTriggerStatus_collectOk, view_updateTriggersForCollectingOK]

theorem view_setServerConnectStatus_ng (arm : ArmBase) (now : Timespec) (kind : CollectNgKind)
    (k : Fin numCollectNgKind) :
    view k (arm.setServerConnectStatus now (.collectNg kind)).utils =
      arm.told k (.collectNg kind) := by
  rw [setServerConnectStatus, if_neg (by simp), told]
  dsimp only [ArmPollingResult.index]
  rw [updateTriggerStatus_of_lt]
  by_cases hnot : arm.status kind.idx = .all ∨ arm.status kind.idx = .problem
  · rw [if_pos hnot, updateTriggersForCollectingFailure_of_not]
    exact hnot.imp_left fun hall => by simpa [isUsed, status] using hall
  · rw [if_neg hnot]
    rw [not_or] at hnot
    exact view_updateTriggersForCollectingFailure (by simpa [isUsed, status] using hnot.1) hnot.2 k

theorem logResult_statuses (arm : ArmBase) (round : Round) :
    (arm.logResult round).lastFailureStatus =
        (if round.armPollingResult = .collectOk then .ok else .failure) ∧
      (arm.logResult round).previousArmWorkStatus = arm.previousArmWorkStatus := by
  have hset := setInitialTriggerStatus_statuses { arm with lastFailureStatus :=
    if round.armPollingResult = ArmPollingResult.collectOk then .ok else .failure }
    round.now round.hostId
  rw [logResult]
  by_cases hinit : arm.previousArmWorkStatus = .init
  · rw [if_pos hinit]
    exact hset
  · rw [if_neg hinit]
    exact ⟨rfl, rfl⟩

theorem view_logResult (arm : ArmBase) (round : Round) (k : Fin numCollectNgKind) :
    view k (arm.logResult round).utils = view k arm.utils := by
  have hset := view_setInitialTriggerStatus { arm with lastFailureStatus :=
    if round.armPollingResult = ArmPollingResult.collectOk then .ok else .failure }
    round.now round.hostId k
  rw [logResult]
  by_cases hinit : arm.previousArmWorkStatus = .init
  · rw [if_pos hinit]
    exact hset
  · rw [if_neg hinit]

theorem told_logResult (arm : ArmBase) (round : Round) (k : Fin numCollectNgKind)
    (result : ArmPollingResult) : (arm.logResult round).told k result = arm.told k result := by
  have hstatus : ∀ k, (arm.logResult round).status k = arm.status k := fun k =>
    congrArg (fun v => v.1.status) (view_logResult arm round k)
  cases result with
  | collectOk => rw [told, told, view_logResult, (logResult_statuses arm round).2]
  | collectNg kind => rw [told, told, view_logResult, hstatus]

theorem view_next (arm : ArmBase) (round : Round) (k : Fin numCollectNgKind) :
    view k (arm.next round).utils = arm.told k round.armPollingResult := by
  have hlast := (logResult_statuses arm round).1
  rw [← told_logResult arm round]
  change view k ((arm.logResult round).reportResult round).utils = _
  generalize arm.logResult round = arm at hlast ⊢
  rw [reportResult]
  cases hresult : round.armPollingResult with
  | collectNg kind =>
    rw [hresult, if_neg (by simp)] at hlast
    rw [if_pos (by simp [hlast])]
    exact view_setServerConnectStatus_ng arm round.now kind k
  | collectOk =>
    rw [hresult, if_pos rfl] at hlast
    rw [hlast, if_neg (fun h => h rfl), told]
    by_cases hprevious : arm.previousArmWorkStatus = .ok
    · rw [if_neg (fun h => h hprevious), if_pos hprevious]
    · rw [if_pos hprevious, if_neg hprevious]
      exact view_setServerConnectStatus_ok arm round.now k

theorem previousArmWorkStatus_next (arm : ArmBase) (round : Round) :
    (arm.next round).previousArmWorkStatus =
      if round.armPollingResult = .collectOk then .ok else .failure :=
  (logResult_statuses arm round).1

/-! ## Events -/

/-- The events of a trigger begin with a bad one, and bad and good ones take turns. -/
def turn (n : Nat) : EventType := if n % 2 = 0 then .bad else .good

def Alternates (events : List EventType) : Prop := events = (List.range events.length).map turn

theorem alternates_concat {events : List EventType} (halternates : Alternates events) :
    Alternates (events ++ [turn events.length]) := by
  rw [Alternates, List.length_append, List.length_singleton, List.range_succ, List.map_append,
    ← halternates]
  rfl

/-- A trigger is PROBLEM exactly when its last event is a bad one. -/
def Tells (v : ArmTrigger × List EventType) : Prop :=
  Alternates v.2 ∧ (v.1.status = .problem ↔ v.2.length % 2 = 1)

variable {v : ArmTrigger × List EventType}

theorem tells_becomesOK (htells : Tells v) : Tells (becomesOK v) := by
  obtain ⟨halternates, hproblem⟩ := htells
  rw [becomesOK]
  by_cases hall : v.1.status = .all
  · rw [if_pos hall]
    exact ⟨halternates, hproblem⟩
  · rw [if_neg hall]
    by_cases hbad : v.1.status = .problem
    · have hodd := hproblem.mp hbad
      have hgood : turn v.2.length = .good := by rw [turn, if_neg (by omega)]
      rw [if_pos hbad, ← hgood]
      refine ⟨alternates_concat halternates, ?_⟩
      simp only [List.length_append, List.length_singleton, reduceCtorEq, false_iff]
      omega
    · have heven := mt hproblem.mpr hbad
      rw [if_neg hbad]
      refine ⟨halternates, ?_⟩
      simp only [reduceCtorEq, false_iff]
      exact heven

theorem tells_becomesUnknown (htells : Tells v) : Tells (becomesUnknown v) := by
  obtain ⟨halternates, hproblem⟩ := htells
  rw [becomesUnknown]
  by_cases hok : v.1.status = .ok
  · have heven : v.2.length % 2 ≠ 1 := fun hodd => by
      rw [hproblem.mpr hodd] at hok
      cases hok
    rw [if_pos hok]
    refine ⟨halternates, ?_⟩
    simp only [reduceCtorEq, false_iff]
    exact heven
  · rw [if_neg hok]
    exact ⟨halternates, hproblem⟩

theorem tells_becomesProblem (htells : Tells v) (hnew : v.1.status ≠ .problem) :
    Tells (becomesProblem v) := by
  obtain ⟨halternates, hproblem⟩ := htells
  have heven := mt hproblem.mpr hnew
  have hbad : turn v.2.length = .bad := by rw [turn, if_pos (by omega)]
  rw [becomesProblem, ← hbad]
  refine ⟨alternates_concat halternates, ?_⟩
  simp only [List.length_append, List.length_singleton, true_iff]
  omega

/-! ## Runs -/

/-- What holds after every round of an arm that began with the triggers `initial`. -/
structure Sound (initial : Fin numCollectNgKind → ArmTrigger) (arm : ArmBase) : Prop where
  unused : ∀ k, (initial k).status = .all → arm.utils.armTriggers k = initial k
  used : ∀ k, (initial k).status ≠ .all → arm.status k ≠ .all
  tells : ∀ k, Tells (view k arm.utils)
  /-- No trigger below a PROBLEM is OK. -/
  below : ∀ j k, j < k → arm.status k = .problem → arm.status j ≠ .ok
  ok : arm.previousArmWorkStatus = .ok → ∀ k, arm.status k ≠ .all → arm.status k = .ok

variable {initial : Fin numCollectNgKind → ArmTrigger}

/-- The status of a trigger after a round. -/
theorem status_next (arm : ArmBase) (round : Round) (k : Fin numCollectNgKind) :
    (arm.next round).status k = (arm.told k round.armPollingResult).1.status :=
  congrArg (fun v => v.1.status) (view_next arm round k)

theorem status_becomesOK (v : ArmTrigger × List EventType) :
    (becomesOK v).1.status = if v.1.status = .all then .all else .ok := by
  rw [becomesOK]
  by_cases hall : v.1.status = .all
  · rw [if_pos hall, if_pos hall, hall]
  · rw [if_neg hall, if_neg hall]

theorem status_becomesUnknown (v : ArmTrigger × List EventType) :
    (becomesUnknown v).1.status = if v.1.status = .ok then .unknown else v.1.status := by
  rw [becomesUnknown]
  split <;> rfl

/-- What a round makes of the statuses, by the result and the statuses before. -/
theorem status_told (arm : ArmBase) (k : Fin numCollectNgKind) (kind : CollectNgKind)
    (hnew : ¬ (arm.status kind.idx = .all ∨ arm.status kind.idx = .problem)) :
    (arm.told k (.collectNg kind)).1.status =
      if k < kind.idx then (if arm.status k = .ok then .unknown else arm.status k)
      else if kind.idx < k then (if arm.status k = .all then .all else .ok)
      else .problem := by
  rw [told, if_neg hnew]
  split
  · exact status_becomesUnknown _
  · split
    · exact status_becomesOK _
    · rfl

theorem told_of_all {result : ArmPollingResult} {k : Fin numCollectNgKind}
    (hall : arm.status k = .all) : arm.told k result = view k arm.utils := by
  have hview : (view k arm.utils).1.status = .all := hall
  cases result with
  | collectOk =>
    rw [told, becomesOK, if_pos hview]
    exact ite_self _
  | collectNg kind =>
    rw [told]
    split
    next => rfl
    next hnew =>
      split
      next => rw [becomesUnknown, if_neg (by rw [hview]; decide)]
      next hge =>
        split
        next => rw [becomesOK, if_pos hview]
        next hle =>
          have hk : k = kind.idx := le_antisymm (not_lt.mp hle) (not_lt.mp hge)
          rw [hk] at hall
          exact absurd (.inl hall) hnew

theorem tells_told (htells : ∀ k, Tells (view k arm.utils)) (k : Fin numCollectNgKind)
    (result : ArmPollingResult) : Tells (arm.told k result) := by
  cases result with
  | collectOk =>
    rw [told]
    split
    · exact htells k
    · exact tells_becomesOK (htells k)
  | collectNg kind =>
    rw [told]
    split
    next => exact htells k
    next hnew =>
      split
      next => exact tells_becomesUnknown (htells k)
      next hge =>
        split
        next => exact tells_becomesOK (htells k)
        next hle =>
          have hk : k = kind.idx := le_antisymm (not_lt.mp hle) (not_lt.mp hge)
          refine tells_becomesProblem (htells k) fun hproblem => hnew (.inr ?_)
          rw [← hk]
          exact hproblem

/-- After a success all used triggers are OK. -/
theorem status_next_collectOk (hok : arm.previousArmWorkStatus = .ok →
      ∀ k, arm.status k ≠ .all → arm.status k = .ok)
    (hresult : round.armPollingResult = .collectOk) (k : Fin numCollectNgKind)
    (hused : (arm.next round).status k ≠ .all) : (arm.next round).status k = .ok := by
  rw [status_next, hresult, told] at hused ⊢
  by_cases hprevious : arm.previousArmWorkStatus = .ok
  · rw [if_pos hprevious] at hused ⊢
    exact hok hprevious k hused
  · rw [if_neg hprevious, status_becomesOK] at hused ⊢
    split at hused
    next => exact absurd rfl hused
    next hall => rw [if_neg hall]

theorem sound_next (hsound : Sound initial arm) (round : Round) :
    Sound initial (arm.next round) where
  unused k hall := by
    have hstatus : arm.status k = .all := by rw [status, hsound.unused k hall, hall]
    have hview := view_next arm round k
    rw [told_of_all hstatus] at hview
    exact (congrArg Prod.fst hview).trans (hsound.unused k hall)
  used k hused := by
    have hbefore := hsound.used k hused
    rw [status_next]
    cases hresult : round.armPollingResult with
    | collectOk =>
      rw [told]
      split
      · exact hbefore
      · have hview : (view k arm.utils).1.status ≠ .all := hbefore
        rw [status_becomesOK, if_neg hview]
        decide
    | collectNg kind =>
      by_cases hnew : arm.status kind.idx = .all ∨ arm.status kind.idx = .problem
      · rw [told, if_pos hnew]
        exact hbefore
      · rw [status_told arm k kind hnew, if_neg hbefore]
        split
        · split
          · decide
          · exact hbefore
        · split <;> decide
  tells k := by
    rw [view_next]
    exact tells_told hsound.tells k _
  below j k hlt hproblem := by
    cases hresult : round.armPollingResult with
    | collectOk =>
      have hok := status_next_collectOk hsound.ok hresult k (by rw [hproblem]; decide)
      rw [hproblem] at hok
      cases hok
    | collectNg kind =>
      rw [status_next, hresult] at hproblem ⊢
      by_cases hnew : arm.status kind.idx = .all ∨ arm.status kind.idx = .problem
      · rw [told, if_pos hnew] at hproblem ⊢
        exact hsound.below j k hlt hproblem
      · rw [status_told arm _ kind hnew] at hproblem ⊢
        have hle : ¬ kind.idx < k := fun hgt => by
          rw [if_neg (not_lt_of_gt hgt), if_pos hgt] at hproblem
          split at hproblem <;> cases hproblem
        rw [if_pos (lt_of_lt_of_le hlt (not_lt.mp hle))]
        split
        · decide
        · assumption
  ok hprevious k hused := by
    rw [previousArmWorkStatus_next] at hprevious
    split at hprevious
    next hresult => exact status_next_collectOk hsound.ok hresult k hused
    next => cases hprevious

/-- A round tells the truth exactly when it is clean. -/
theorem tellsTruth_next_iff (hsound : Sound initial arm) (round : Round) :
    (arm.next round).TellsTruth round.armPollingResult ↔ arm.Clean round := by
  cases hresult : round.armPollingResult with
  | collectOk =>
    refine ⟨fun _ kind hkind => ?_, fun _ => status_next_collectOk hsound.ok hresult⟩
    rw [hresult] at hkind
    cases hkind
  | collectNg kind =>
    have hclean : arm.Clean round ↔ (arm.status kind.idx = .problem →
        ∀ k, kind.idx < k → arm.status k ≠ .all → arm.status k = .ok) := by
      refine ⟨fun hclean => hclean kind hresult, fun hclean other hother => ?_⟩
      obtain rfl := ArmPollingResult.collectNg.inj (hresult.symm.trans hother)
      exact hclean
    rw [hclean, TellsTruth]
    by_cases hnew : arm.status kind.idx = .all ∨ arm.status kind.idx = .problem
    · have hsame : ∀ k, (arm.next round).status k = arm.status k := fun k => by
        rw [status_next, hresult, told, if_pos hnew]
        rfl
      simp only [hsame]
      rcases hnew with hall | hproblem
      · simp [hall]
      · constructor
        · exact fun htruth _ => (htruth (by rw [hproblem]; decide)).2.1
        · exact fun hcl _ => ⟨hproblem, hcl hproblem, fun k hk => hsound.below k _ hk hproblem⟩
    · have hstatus : ∀ k, (arm.next round).status k = _ := fun k => by
        rw [status_next, hresult, status_told arm k kind hnew]
      refine ⟨fun _ hproblem => absurd (.inr hproblem) hnew, fun _ _ => ⟨?_, ?_, ?_⟩⟩
      · rw [hstatus, if_neg (lt_irrefl _), if_neg (lt_irrefl _)]
      · intro k hk hused
        rw [hstatus, if_neg (not_lt_of_gt hk), if_pos hk] at hused ⊢
        split at hused
        next => exact absurd rfl hused
        next hall => rw [if_neg hall]
      · intro k hk
        rw [hstatus, if_pos hk]
        split
        · decide
        · assumption

theorem sound_registered (serverInfo : MonitoringServerInfo) (available : List AvailableTrigger) :
    Sound (registered serverInfo available).utils.armTriggers (registered serverInfo available) := by
  have hregistered : (registered serverInfo available).utils.eventInfoList = [] ∧
      (registered serverInfo available).previousArmWorkStatus = .init ∧
      ∀ k, (registered serverInfo available).status k = .all ∨
        (registered serverInfo available).status k = .unknown := by
    refine foldl_invariant (fun arm : ArmBase => arm.utils.eventInfoList = [] ∧
      arm.previousArmWorkStatus = .init ∧ ∀ k, arm.status k = .all ∨ arm.status k = .unknown)
      ?_ available (.new serverInfo) ⟨rfl, rfl, fun _ => .inl rfl⟩
    rintro arm one ⟨hevents, hprevious, hstatus⟩
    refine ⟨hevents, hprevious, fun k => ?_⟩
    rw [status, registerAvailableTrigger]
    by_cases hk : k = one.type.idx
    · subst hk
      exact .inr (by simp)
    · simp only [Function.update_of_ne hk]
      exact hstatus k
  obtain ⟨hevents, hprevious, hstatus⟩ := hregistered
  have hnot : ∀ k, (registered serverInfo available).status k ≠ .problem ∧
      (registered serverInfo available).status k ≠ .ok := fun k => by
    rcases hstatus k with h | h <;> rw [h] <;> decide
  exact
    { unused := fun _ _ => rfl
      used := fun _ hused => hused
      tells := fun k => by
        have hhistory : (registered serverInfo available).utils.history k = [] := by
          rw [history, hevents]
          rfl
        rw [view, hhistory]
        exact ⟨rfl, fun h => absurd h (hnot k).1, fun h => absurd h Nat.zero_ne_one⟩
      below := fun _ k _ hproblem => absurd hproblem (hnot k).1
      ok := fun h => by
        rw [hprevious] at h
        cases h }

/-- In every run unused triggers never change and the events of each trigger alternate, beginning
    with a bad one; and the triggers tell the truth after every round exactly when no failure is
    repeated while a used trigger above its own is not OK. -/
theorem connection_triggers (serverInfo : MonitoringServerInfo) (available : List AvailableTrigger)
    (rounds : List Round) :
    (∀ k, (registered serverInfo available).status k = .all →
      (rounds.foldl next (registered serverInfo available)).utils.armTriggers k =
        (registered serverInfo available).utils.armTriggers k) ∧
    (∀ k, Alternates
      ((rounds.foldl next (registered serverInfo available)).utils.history k)) ∧
    (Heeds next (fun arm round => (arm.next round).TellsTruth round.armPollingResult)
        (registered serverInfo available) rounds ↔
      Heeds next Clean (registered serverInfo available) rounds) := by
  have hstart := sound_registered serverInfo available
  have hsound := foldl_invariant (Sound (registered serverInfo available).utils.armTriggers)
    (fun _ round hsound => sound_next hsound round) rounds _ hstart
  refine ⟨hsound.unused, fun k => (hsound.tells k).1, ?_⟩
  exact heeds_congr (Sound (registered serverInfo available).utils.armTriggers)
    (fun _ round hsound => sound_next hsound round)
    (fun _ round hsound => tellsTruth_next_iff hsound round) rounds _ hstart

/-- Two triggers are used, for a failure in the parser and for an internal error. -/
def twoTriggers : List AvailableTrigger :=
  [⟨.parserError, .ofString "P", emptyText⟩, ⟨.internalError, .ofString "I", emptyText⟩]

/-- A failure in the parser, an internal error and a failure in the parser. -/
def takingTurns : List Round :=
  [.parserError, .internalError, .parserError].map fun kind => ⟨⟨0, 0⟩, none, .collectNg kind⟩

def anyServer : MonitoringServerInfo where
  id := 1
  type := .hapiJSON
  hostName := emptyText
  ipAddress := emptyText
  nickname := emptyText
  port := 0
  pollingIntervalSec := 30
  retryIntervalSec := 10
  userName := emptyText
  password := emptyText
  dbName := emptyText
  baseURL := emptyText
  extendedInfo := emptyText

/-- The last failure in the parser leaves the trigger for internal errors at PROBLEM. -/
theorem not_tellsTruth_takingTurns : ¬ ∀ serverInfo available rounds,
    Heeds next (fun arm round => (arm.next round).TellsTruth round.armPollingResult)
      (registered serverInfo available) rounds := by
  intro hall
  obtain ⟨-, -, htruth, -⟩ := hall anyServer twoTriggers takingTurns
  have hproblem : (takingTurns.foldl next (registered anyServer twoTriggers)).status
      CollectNgKind.internalError.idx = .problem := by decide +kernel
  have hused : (takingTurns.foldl next (registered anyServer twoTriggers)).status
      CollectNgKind.parserError.idx ≠ .all := by decide +kernel
  have hok := (htruth hused).2.1 CollectNgKind.internalError.idx (by decide)
    (fun hall => by
      have hboth := hproblem.symm.trans hall
      cases hboth)
  exact absurd (hproblem.symm.trans hok) (by decide)

end ArmBase

end Hatohol

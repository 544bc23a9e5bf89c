import Hatohol.RestResourceIncident
import Hatohol.Triggers.Condition
import Hatohol.Triggers.Sync
import Hatohol.HostInfoCache

/-!
# Storing of events

`UnifiedDataStore::addEventList` stores a list of events in one transaction, fills what they leave
open from their triggers, and then has the actions checked for the same list. Every gate calls it on
a thread of its own, so that what the threads do comes in any order.
-/

namespace Hatohol

open Sql DBTermCodec

/-- All that is stored of an `EventInfo`: a row, with the texts that no condition reads. -/
structure StoredEvent extends EventRecord where
  brief : CString
  extendedInfo : CString
  deriving DecidableEq, Repr

/-- (DBTablesMonitoring.cc:4064-4069) -/
def substIfNeeded {α : Type} [DecidableEq α] (lhs rhs initialValue : α) : α :=
  if lhs = initialValue then rhs else lhs

namespace StoredEvent

/-- What an event leaves open is that of its trigger (DBTablesMonitoring.cc:4119-4124). -/
def setIfNeeded (eventInfo : StoredEvent) (trigInfo : TriggerInfo) : StoredEvent :=
  { eventInfo with
    severity := substIfNeeded eventInfo.severity trigInfo.severity triggerSeverityUnknown
    globalHostId := substIfNeeded eventInfo.globalHostId trigInfo.globalHostId invalidHostId
    hostIdInServer := substIfNeeded eventInfo.hostIdInServer trigInfo.hostIdInServer emptyText
    hostName := substIfNeeded eventInfo.hostName trigInfo.hostName emptyText
    brief := substIfNeeded eventInfo.brief trigInfo.brief emptyText
    extendedInfo := substIfNeeded eventInfo.extendedInfo trigInfo.extendedInfo emptyText }

/-- The query for the trigger of an event. -/
def triggerOption (servers : ServerIdSet) (eventInfo : StoredEvent) : TriggersQueryOption :=
  let option := TriggersQueryOption.new (systemContext servers)
  { option with
    base := { option.base with targetServerId := eventInfo.serverId }
    targetId := eventInfo.triggerId }

end StoredEvent

/-- (DBTablesMonitoring.cc:4071-4126) The first row of the result is taken; the order of the rows is
    that of the table. -/
def TriggersTable.mergeTriggerInfo (t : TriggersTable) (servers : ServerIdSet)
    (eventInfo : StoredEvent) : Except HatoholException StoredEvent := do
  let condition ← (eventInfo.triggerOption servers).getCondition
  pure (match t.rows.filter fun trig => selects condition (trig.value none) with
    | [] => eventInfo
    | trigInfo :: _ => eventInfo.setIfNeeded trigInfo)

/-- The tables that a call uses, and what each thread has in hand. A row has the thread that stored
    it beside it; `pending` is the list between the transaction and the check of its actions, and
    `checked` is what the actions have been checked for. The unified IDs go up to
    `lastUnifiedId`. -/
structure EventStore (θ : Type) where
  triggers : TriggersTable
  servers : ServerIdSet
  rows : List (θ × StoredEvent)
  lastUnifiedId : Nat
  pending : θ → List StoredEvent
  checked : θ → List StoredEvent

/-- How a transaction ends. A number that has been given to a row may be lost with it. -/
inductive StoringEnd where
  | committed
  | rolledBack (lostIds : Nat)
  deriving DecidableEq, Repr

inductive StoringEvent (θ : Type) where
  /-- Somebody stores other triggers or sets up other servers. -/
  | change (triggers : TriggersTable) (servers : ServerIdSet)
  | addEventInfoList (thread : θ) (eventInfoList : List StoredEvent) (result : StoringEnd)
  | checkEvents (thread : θ)

namespace EventStore

variable {θ : Type}

def new (triggers : TriggersTable) (servers : ServerIdSet) : EventStore θ :=
  ⟨triggers, servers, [], 0, fun _ => [], fun _ => []⟩

/-- (DBTablesMonitoring.cc:3843-3866) -/
def addEventInfo (s : EventStore θ) (thread : θ) (eventInfo : StoredEvent) :
    Except HatoholException (EventStore θ × StoredEvent) := do
  let merged ← s.triggers.mergeTriggerInfo s.servers eventInfo
  let unifiedId := s.lastUnifiedId + 1
  let stored := { merged with unifiedId := unifiedId }
  pure ({ s with rows := s.rows ++ [(thread, stored)], lastUnifiedId := unifiedId }, stored)

/-- The procedure of the transaction (DBTablesMonitoring.cc:2548-2564). It changes the list. -/
def addEventInfos (thread : θ) (s : EventStore θ) :
    List StoredEvent → Except HatoholException (EventStore θ × List StoredEvent)
  | [] => pure (s, [])
  | eventInfo :: rest => do
      let (s, stored) ← s.addEventInfo thread eventInfo
      let (s, rest) ← addEventInfos thread s rest
      pure (s, stored :: rest)

variable [DecidableEq θ]

/-- (UnifiedDataStore.cc:706-713) A thread that has a list in hand is not yet at its next call. -/
def step (s : EventStore θ) : StoringEvent θ → EventStore θ
  | .change triggers servers => { s with triggers := triggers, servers := servers }
  | .addEventInfoList thread eventInfoList result =>
      if s.pending thread ≠ [] then s
      else
        match result, s.addEventInfos thread eventInfoList with
        | .committed, .ok (s, stored) =>
            { s with pending := Function.update s.pending thread stored }
        | .committed, .error _ => s
        | .rolledBack lostIds, _ => { s with lastUnifiedId := s.lastUnifiedId + lostIds }
  | .checkEvents thread =>
      { s with
        pending := Function.update s.pending thread []
        checked := Function.update s.checked thread (s.checked thread ++ s.pending thread) }

def run (s : EventStore θ) (events : List (StoringEvent θ)) : EventStore θ :=
  events.foldl step s

end EventStore

/-! ## What is known of an event -/

/-- The trigger is one of an event. The ID of all servers and that of all triggers ask for any. -/
def StoredEvent.isOf (servers : ServerIdSet) (eventInfo : StoredEvent) (trig : TriggerInfo) :
    Bool :=
  servers.contains trig.serverId &&
    (eventInfo.serverId == allServers || trig.serverId == eventInfo.serverId) &&
    (eventInfo.triggerId == allTriggers || trig.id == eventInfo.triggerId)

/-- An event as it is known when the triggers are as they are. -/
def StoredEvent.known (triggers : TriggersTable) (servers : ServerIdSet) (eventInfo : StoredEvent) :
    StoredEvent :=
  match triggers.rows.find? (eventInfo.isOf servers) with
  | none => eventInfo
  | some trig => eventInfo.setIfNeeded trig

namespace StoredEvent

variable (servers : ServerIdSet) (eventInfo : StoredEvent)

/-- An event that names its server and its trigger has at most one. -/
theorem find?_isOf (triggers : TriggersTable) (hserver : eventInfo.serverId ≠ allServers)
    (htrigger : eventInfo.triggerId ≠ allTriggers) :
    triggers.rows.find? (eventInfo.isOf servers) =
      (triggers.trigger (eventInfo.serverId, eventInfo.triggerId)).filter
        fun trig => servers.contains trig.serverId := by
  have hnamed (trig : TriggerInfo) : eventInfo.isOf servers trig =
      (servers.contains trig.serverId &&
        decide (trig.key = (eventInfo.serverId, eventInfo.triggerId))) := by
    have hall : (eventInfo.serverId == allServers) = false := beq_false_of_ne hserver
    have hany : (eventInfo.triggerId == allTriggers) = false := beq_false_of_ne htrigger
    rw [isOf, hall, hany, Bool.false_or, Bool.false_or, Bool.and_assoc]
    simp only [TriggerInfo.key, Prod.mk.injEq, Bool.decide_and, beq_eq_decide]
  rw [TriggersTable.trigger, ← Table.lookup_filter triggers.unique, Table.lookup, List.find?_filter]
  refine congrArg (triggers.rows.find? ·) (funext fun trig => (hnamed trig).trans ?_)
  rw [Bool.decide_and, Bool.decide_eq_true, Bool.decide_eq_true]

theorem isSystemQuery_triggerOption : (eventInfo.triggerOption servers).base.IsSystemQuery :=
  HostResourceQueryOption.isSystemQuery_new (.inl rfl) servers false eventInfo.serverId

/-- Of the nine filters of a query for triggers only that for the ID is set. -/
theorem all_filterForms (trig : TriggerInfo) :
    ((eventInfo.triggerOption servers).filterForms.all fun form =>
        form.all (Text.holds (trig.value none))) =
      (eventInfo.triggerId == allTriggers || trig.id == eventInfo.triggerId) := by
  have hvalue : trig.value none (triggersFullColumnName idxTriggersId) = .str trig.id.text := rfl
  by_cases hall : eventInfo.triggerId = allTriggers <;>
    simp [TriggersQueryOption.filterForms, triggerOption, TriggersQueryOption.new,
      TriggersQueryOption.shouldExcludeSelfMonitoring, TriggersQueryOption.shouldExcludeInvalidHost,
      noExcludeHost, TriggersQueryOption.cmpTrigger, hvalue, hall]

theorem isTargeted_triggerOption (trig : TriggerInfo) :
    ((eventInfo.triggerOption servers).base.isValid
        ⟨trig.serverId, trig.hostIdInServer, emptyText⟩ &&
      (eventInfo.triggerOption servers).base.isTargeted
        ⟨trig.serverId, trig.hostIdInServer, emptyText⟩) =
      (servers.contains trig.serverId &&
        (eventInfo.serverId == allServers || trig.serverId == eventInfo.serverId)) := by
  simp [triggerOption, TriggersQueryOption.new, HostResourceQueryOption.new,
    HostResourceQueryOption.isValid, HostResourceQueryOption.isTargeted,
    HostResourceQueryOption.getValidServerIdSet, systemContext]

/-- The triggers that the text of the query selects. -/
theorem getCondition_triggerOption :
    ∃ s, (eventInfo.triggerOption servers).getCondition = .ok s ∧
      ∀ trig, selects s (TriggerInfo.value trig none) = eventInfo.isOf servers trig := by
  have ho := isSystemQuery_triggerOption servers eventInfo
  obtain ⟨s, hs, hdenotes⟩ := ho.getCondition
  have hrow := TriggersQueryOption.hasRow_value ho
  unfold TriggersQueryOption.getCondition
  rw [hs]
  refine ⟨_, rfl, fun trig => ?_⟩
  unfold isOf
  by_cases hfalse : isAlwaysFalseCondition s
  · -- the false condition stays alone, and selects nothing of the base either
    have hempty : selects s (trig.value none) = false := by
      rw [show s = "0" by simpa [isAlwaysFalseCondition, alwaysFalseCondition] using hfalse]
      rfl
    have hnone := ho.selects_form (hrow trig) hdenotes
    rw [hempty, isTargeted_triggerOption] at hnone
    rw [if_pos hfalse, hempty, ← hnone, Bool.false_and]
  · have hdenotes' := (eventInfo.triggerOption servers).denotes_addFilters hdenotes
    have hsingle := (eventInfo.triggerOption servers).single_filterForms
    rw [if_neg hfalse, ho.selects_appended (hrow trig) _ hsingle hdenotes',
      isTargeted_triggerOption, all_filterForms]

end StoredEvent

/-- An event becomes what is known of it. -/
theorem TriggersTable.mergeTriggerInfo_eq (t : TriggersTable) (servers : ServerIdSet)
    (eventInfo : StoredEvent) :
    t.mergeTriggerInfo servers eventInfo = .ok (eventInfo.known t servers) := by
  obtain ⟨s, hs, hselects⟩ := eventInfo.getCondition_triggerOption servers
  unfold mergeTriggerInfo
  rw [hs]
  simp only [bind, Except.bind, pure, Except.pure, hselects]
  refine congrArg Except.ok ?_
  unfold StoredEvent.known
  rw [← List.head?_filter]
  cases t.rows.filter (eventInfo.isOf servers) <;> rfl

/-! ## A transaction -/

/-- The events of a list with the unified IDs that follow a number. -/
def StoredEvent.numbered (lastUnifiedId : Nat) : List StoredEvent → List StoredEvent
  | [] => []
  | eventInfo :: rest =>
      { eventInfo with unifiedId := lastUnifiedId + 1 } :: numbered (lastUnifiedId + 1) rest

/-- An event without its number. -/
def StoredEvent.unnumbered (eventInfo : StoredEvent) : StoredEvent :=
  { eventInfo with unifiedId := 0 }

namespace StoredEvent

theorem unnumbered_numbered (lastUnifiedId : Nat) (events : List StoredEvent) :
    (numbered lastUnifiedId events).map unnumbered = events.map unnumbered := by
  induction events generalizing lastUnifiedId with
  | nil => rfl
  | cons event events ih =>
    rw [numbered, List.map_cons, List.map_cons, ih]
    rfl

theorem lt_of_mem_numbered {lastUnifiedId : Nat} {events : List StoredEvent} {event : StoredEvent}
    (hevent : event ∈ numbered lastUnifiedId events) :
    lastUnifiedId < event.unifiedId ∧ event.unifiedId ≤ lastUnifiedId + events.length := by
  induction events generalizing lastUnifiedId with
  | nil => cases hevent
  | cons first events ih =>
    rw [numbered, List.mem_cons] at hevent
    rw [List.length_cons]
    rcases hevent with rfl | hrest
    · exact ⟨Nat.lt_succ_self _, by simp⟩
    · obtain ⟨hlt, hle⟩ := ih hrest
      exact ⟨(Nat.lt_succ_self _).trans hlt, hle.trans_eq (Nat.succ_add_eq_add_succ _ _)⟩

theorem pairwise_numbered (lastUnifiedId : Nat) (events : List StoredEvent) :
    (numbered lastUnifiedId events).Pairwise (·.unifiedId < ·.unifiedId) := by
  induction events generalizing lastUnifiedId with
  | nil => exact .nil
  | cons event events ih =>
    exact .cons (fun later hlater => (lt_of_mem_numbered hlater).1) (ih (lastUnifiedId + 1))

end StoredEvent

namespace EventStore

variable {θ : Type}

/-- The state when a thread has stored events in one transaction that has not ended. -/
def stored (s : EventStore θ) (thread : θ) (events : List StoredEvent) : EventStore θ :=
  { s with
    rows := s.rows ++ (StoredEvent.numbered s.lastUnifiedId events).map (thread, ·)
    lastUnifiedId := s.lastUnifiedId + events.length }

/-- The transaction stores what is known of its events, and hands it back. -/
theorem addEventInfos_eq (thread : θ) (s : EventStore θ) (eventInfoList : List StoredEvent) :
    s.addEventInfos thread eventInfoList =
      .ok (s.stored thread (eventInfoList.map (·.known s.triggers s.servers)),
        StoredEvent.numbered s.lastUnifiedId
          (eventInfoList.map (·.known s.triggers s.servers))) := by
  induction eventInfoList generalizing s with
  | nil =>
    refine congrArg Except.ok (Prod.ext ?_ rfl)
    rw [List.map_nil, stored, StoredEvent.numbered, List.map_nil, List.append_nil]
    rfl
  | cons eventInfo rest ih =>
    have hmerged := s.triggers.mergeTriggerInfo_eq s.servers eventInfo
    unfold addEventInfos addEventInfo
    rw [hmerged]
    simp only [bind, Except.bind, pure, Except.pure, ih]
    refine congrArg Except.ok (Prod.ext ?_ rfl)
    simp only [stored, List.map_cons, StoredEvent.numbered, List.length_cons, List.append_assoc,
      List.singleton_append]
    congr 1
    omega

/-! ## A run -/

variable [DecidableEq θ]

/-- What a step stores, as it is known then. -/
def arrivals (s : EventStore θ) : StoringEvent θ → List (θ × StoredEvent)
  | .addEventInfoList thread eventInfoList .committed =>
      if s.pending thread ≠ [] then []
      else eventInfoList.map fun eventInfo => (thread, eventInfo.known s.triggers s.servers)
  | _ => []

/-- What a run stores, each event as it is known when it is stored. -/
def recorded (s : EventStore θ) : List (StoringEvent θ) → List (θ × StoredEvent)
  | [] => []
  | event :: events => s.arrivals event ++ (s.step event).recorded events

def contents (rows : List (θ × StoredEvent)) : List (θ × StoredEvent) :=
  rows.map fun row => (row.1, row.2.unnumbered)

/-- What a thread has stored. -/
def storedBy (s : EventStore θ) (thread : θ) : List StoredEvent :=
  (s.rows.filter (·.1 = thread)).map (·.2)

/-- The unified IDs go up, and the actions of what a thread has stored have been checked or are
    about to be. -/
structure Sound (s : EventStore θ) : Prop where
  ascending : s.rows.Pairwise (·.2.unifiedId < ·.2.unifiedId)
  bound : ∀ row ∈ s.rows, row.2.unifiedId ≤ s.lastUnifiedId
  handedOver : ∀ thread, s.storedBy thread = s.checked thread ++ s.pending thread

variable {s : EventStore θ}

theorem storedBy_stored (thread other : θ) (events : List StoredEvent) :
    (s.stored thread events).storedBy other =
      s.storedBy other ++
        if thread = other then StoredEvent.numbered s.lastUnifiedId events else [] := by
  unfold storedBy stored
  rw [List.filter_append, List.map_append, List.filter_map, List.map_map]
  by_cases hsame : thread = other
  · have hall : ∀ event ∈ StoredEvent.numbered s.lastUnifiedId events,
        ((fun row : θ × StoredEvent => decide (row.1 = other)) ∘ (thread, ·)) event := by
      intro event _
      exact decide_eq_true hsame
    rw [List.filter_eq_self.mpr hall, if_pos hsame]
    exact congrArg _ (List.map_id _)
  · have hnone : ∀ event ∈ StoredEvent.numbered s.lastUnifiedId events,
        ¬((fun row : θ × StoredEvent => decide (row.1 = other)) ∘ (thread, ·)) event := by
      intro event _
      simpa using hsame
    rw [List.filter_eq_nil_iff.mpr hnone, if_neg hsame]
    rfl

/-- A transaction is committed by a thread that has nothing in hand. -/
theorem Sound.commit (h : s.Sound) {thread : θ} (hidle : s.pending thread = [])
    (events : List StoredEvent) :
    Sound { s.stored thread events with
      pending := Function.update s.pending thread
        (StoredEvent.numbered s.lastUnifiedId events) } where
  ascending := by
    refine List.pairwise_append.mpr ⟨h.ascending, ?_, ?_⟩
    · exact List.pairwise_map.mpr (StoredEvent.pairwise_numbered _ _)
    · intro row hrow new hnew
      obtain ⟨event, hevent, rfl⟩ := List.mem_map.mp hnew
      exact (h.bound row hrow).trans_lt (StoredEvent.lt_of_mem_numbered hevent).1
  bound row hrow := by
    rcases List.mem_append.mp hrow with hold | hnew
    · exact (h.bound row hold).trans (Nat.le_add_right _ _)
    · obtain ⟨event, hevent, rfl⟩ := List.mem_map.mp hnew
      exact (StoredEvent.lt_of_mem_numbered hevent).2
  handedOver other := by
    have hstored := storedBy_stored (s := s) thread other events
    refine hstored.trans ?_
    rw [h.handedOver other, List.append_assoc]
    refine congrArg _ ?_
    by_cases hsame : thread = other
    · subst hsame
      simp only [hidle, if_true, List.nil_append, Function.update_self]
    · simp only [if_neg hsame, List.append_nil, Function.update_of_ne (Ne.symm hsame)]

/-- The actions of what a thread has in hand are checked. -/
theorem Sound.check (h : s.Sound) (thread : θ) : Sound { s with
    pending := Function.update s.pending thread []
    checked := Function.update s.checked thread (s.checked thread ++ s.pending thread) } where
  ascending := h.ascending
  bound := h.bound
  handedOver other := by
    refine (h.handedOver other).trans ?_
    by_cases hsame : other = thread
    · subst hsame
      simp only [Function.update_self, List.append_nil]
    · simp only [Function.update_of_ne hsame]

theorem Sound.step (h : s.Sound) (event : StoringEvent θ) : (s.step event).Sound := by
  cases event with
  | change triggers servers => exact ⟨h.ascending, h.bound, h.handedOver⟩
  | addEventInfoList thread eventInfoList result =>
    unfold EventStore.step
    dsimp only
    split
    next => exact h
    next hidle =>
      rw [not_not] at hidle
      rw [addEventInfos_eq]
      cases result with
      | committed => exact h.commit hidle _
      | rolledBack lostIds =>
        exact ⟨h.ascending, fun row hrow => (h.bound row hrow).trans (Nat.le_add_right _ _),
          h.handedOver⟩
  | checkEvents thread => exact h.check thread

theorem Sound.run (h : s.Sound) (events : List (StoringEvent θ)) : (s.run events).Sound := by
  induction events generalizing s with
  | nil => exact h
  | cons event events ih => exact ih (h.step event)

theorem sound_new (triggers : TriggersTable) (servers : ServerIdSet) :
    (new triggers servers : EventStore θ).Sound :=
  ⟨.nil, nofun, fun _ => rfl⟩

/-- A step leaves the rows, and adds those that it stores. -/
theorem contents_step (s : EventStore θ) (event : StoringEvent θ) :
    contents (s.step event).rows = contents s.rows ++ contents (s.arrivals event) := by
  have hnone : contents s.rows = contents s.rows ++ contents [] := (List.append_nil _).symm
  cases event with
  | change triggers servers => exact hnone
  | addEventInfoList thread eventInfoList result =>
    cases result with
    | committed =>
      unfold EventStore.step arrivals
      dsimp only
      split
      next => exact hnone
      next =>
        rw [addEventInfos_eq]
        have hrows (events : List StoredEvent) : contents (events.map (thread, ·)) =
            (events.map StoredEvent.unnumbered).map (thread, ·) := by
          simp only [contents, List.map_map, Function.comp_def]
        refine (List.map_append).trans (congrArg _ ?_)
        refine (hrows _).trans ?_
        rw [StoredEvent.unnumbered_numbered]
        simp only [contents, List.map_map, Function.comp_def]
    | rolledBack lostIds =>
      unfold EventStore.step
      dsimp only
      split <;> exact hnone
  | checkEvents thread => exact hnone

theorem contents_run (s : EventStore θ) (events : List (StoringEvent θ)) :
    contents (s.run events).rows = contents s.rows ++ contents (s.recorded events) := by
  induction events generalizing s with
  | nil => exact (List.append_nil _).symm
  | cons event events ih =>
    refine (ih (s.step event)).trans ?_
    rw [contents_step, List.append_assoc]
    exact congrArg _ List.map_append.symm

end EventStore

end Hatohol

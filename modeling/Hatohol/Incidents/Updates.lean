import Hatohol.IncidentSender
import Hatohol.Incidents.CommentCount

/-!
# Clients that change an incident at the same time

A PUT copies the incident, sets what it was asked to set and queues the copy; the thread of the
tracker writes the copy later, with all of its columns (RestResourceIncident.cc:342-389,
IncidentSenderHatohol.cc:130-143, IncidentSender.cc:148-215). The tracker is Hatohol's own.
-/

namespace Hatohol

open Table

structure PutIncident where
  query : IncidentQuery
  userId : UserIdType
  deriving DecidableEq, Repr

/-- How far a PUT is. `readAt` tells how many copies had been written when the incident was read. -/
inductive PutClient where
  | reading
  | queueing (readAt : Nat) (job : UpdateIncidentJob)
  | queued (readAt : Nat) (job : UpdateIncidentJob)
  | sending (readAt : Nat) (job : UpdateIncidentJob)
  | recording (job : UpdateIncidentJob)
  | counting
  | storing (commentCount : Nat)
  | notifying (succeeded : Bool)
  | answered (succeeded : Bool)
  deriving DecidableEq, Repr

/-- `written` are the PUTs whose copies have been written, in this order. -/
structure UpdateSystem where
  tables : IncidentTables
  clients : List PutClient
  queue : List Nat
  runningJob : Option Nat
  written : List Nat

/-- A step of the worker that a PUT has, or of the thread of the sender. -/
inductive UpdateEvent where
  | client (k : Nat)
  | sender (now : Timespec) (customStatuses : List CString)
  deriving DecidableEq, Repr

namespace UpdateSystem

def start (tables : IncidentTables) (requests : List PutIncident) : UpdateSystem where
  tables := tables
  clients := requests.map fun _ => .reading
  queue := []
  runningJob := none
  written := []

def setClient (s : UpdateSystem) (k : Nat) (client : PutClient) : UpdateSystem :=
  { s with clients := s.clients.set k client }

section Steps

variable (trackerId : IncidentTrackerIdType) (e : UnifiedEventIdType) (requests : List PutIncident)

/-- The worker reads the incident, or queues the copy. -/
def stepClient (s : UpdateSystem) (k : Nat) : UpdateSystem :=
  match requests[k]?, s.clients[k]? with
  | some request, some .reading =>
      match RestResourceIncident.handlerPutIncident s.tables (· == trackerId) e request.query with
      | (.queued, [job]) => s.setClient k (.queueing s.written.length job)
      | _ => s.setClient k (.answered false)
  | _, some (.queueing readAt job) =>
      { s.setClient k (.queued readAt job) with queue := s.queue ++ [k] }
  | _, _ => s

/-- The thread goes on with its job. -/
def stepJob (s : UpdateSystem) (k : Nat) (request : PutIncident) (now : Timespec)
    (customStatuses : List CString) : UpdateSystem :=
  match s.clients[k]? with
  | some (.sending _ job) =>
      match IncidentSenderHatohol.sendIncident s.tables trackerId customStatuses now
          job.incidentInfo with
      | some tables =>
          { s.setClient k (.recording job) with tables := tables, written := s.written ++ [k] }
      | none => s.setClient k (.notifying false)
  | some (.recording job) =>
      { s.setClient k .counting with
        tables := s.tables.insertIncidentHistory
          (saveIncidentHistory request.userId job.incidentInfo job.comment now) }
  | some .counting => s.setClient k (.storing (s.tables.getIncidentCommentCount e))
  | some (.storing commentCount) =>
      { s.setClient k (.notifying true) with
        tables := s.tables.storeIncidentCommentCount e commentCount }
  | some (.notifying succeeded) =>
      { s.setClient k (.answered succeeded) with runningJob := none }
  | _ => s

/-- The thread takes the next job if it has none. -/
def popJob (s : UpdateSystem) : UpdateSystem :=
  match s.queue with
  | [] => s
  | k :: queue =>
      match s.clients[k]? with
      | some (.queued readAt job) =>
          { s.setClient k (.sending readAt job) with queue := queue, runningJob := some k }
      | _ => s

def step (s : UpdateSystem) : UpdateEvent → UpdateSystem
  | .client k => s.stepClient trackerId e requests k
  | .sender now customStatuses =>
      match s.runningJob with
      | none => s.popJob
      | some k =>
          match requests[k]? with
          | some request => s.stepJob trackerId e k request now customStatuses
          | none => s

def run (s : UpdateSystem) (events : List UpdateEvent) : UpdateSystem :=
  events.foldl (step trackerId e requests) s

end Steps

end UpdateSystem

/-! ## Fields -/

inductive IncidentField where
  | status
  | priority
  | assignee
  | doneRatio
  deriving DecidableEq, Repr

instance : Fintype IncidentField :=
  ⟨{.status, .priority, .assignee, .doneRatio}, fun f => by cases f <;> decide⟩

abbrev FieldValue := CString ⊕ Int

def IncidentInfo.field (incident : IncidentInfo) : IncidentField → FieldValue
  | .status => .inl incident.status
  | .priority => .inl incident.priority
  | .assignee => .inl incident.assignee
  | .doneRatio => .inr incident.doneRatio

/-- The value that a PUT sets a field to. -/
def IncidentQuery.sets (query : IncidentQuery) : IncidentField → Option FieldValue
  | .status => query.status.map .inl
  | .priority => query.priority.map .inl
  | .assignee => query.assignee.map .inl
  | .doneRatio => (query.doneRatio.bind fun value => ActionDef.scanInt value.text).map .inr

theorem field_parseIncidentParameter (incident : IncidentInfo) (query : IncidentQuery)
    (f : IncidentField) :
    (RestResourceIncident.parseIncidentParameter incident query).1.field f =
      (query.sets f).getD (incident.field f) := by
  cases f with
  | status => cases hset : query.status <;>
      simp [RestResourceIncident.parseIncidentParameter, IncidentInfo.field, IncidentQuery.sets,
        hset]
  | priority => cases hset : query.priority <;>
      simp [RestResourceIncident.parseIncidentParameter, IncidentInfo.field, IncidentQuery.sets,
        hset]
  | assignee => cases hset : query.assignee <;>
      simp [RestResourceIncident.parseIncidentParameter, IncidentInfo.field, IncidentQuery.sets,
        hset]
  | doneRatio =>
    cases hset : query.doneRatio.bind fun value => ActionDef.scanInt value.text <;>
      simp [RestResourceIncident.parseIncidentParameter, IncidentInfo.field, IncidentQuery.sets,
        hset]

namespace UpdateSystem

variable {requests : List PutIncident}

variable (requests) in
def setsAt (k : Nat) (f : IncidentField) : Option FieldValue :=
  requests[k]?.bind (·.query.sets f)

variable (requests) in
/-- The value that the last of some PUTs has left in a field. -/
def lastValue (initial : IncidentInfo) (written : List Nat) (f : IncidentField) : FieldValue :=
  written.foldl (fun value k => (setsAt requests k f).getD value) (initial.field f)

theorem lastValue_append (initial : IncidentInfo) (ks : List Nat) (k : Nat) (f : IncidentField) :
    lastValue requests initial (ks ++ [k]) f =
      (setsAt requests k f).getD (lastValue requests initial ks f) := by
  simp [lastValue]

/-- PUTs that leave the field do not count. -/
theorem lastValue_append_unset (initial : IncidentInfo) (ks : List Nat) {ks' : List Nat}
    {f : IncidentField} (h : ∀ k ∈ ks', setsAt requests k f = none) :
    lastValue requests initial (ks ++ ks') f = lastValue requests initial ks f := by
  induction ks' generalizing ks with
  | nil => rw [List.append_nil]
  | cons k ks' ih =>
    rw [List.append_cons, ih (ks ++ [k]) fun j hj => h j (List.mem_cons_of_mem k hj),
      lastValue_append, h k List.mem_cons_self, Option.getD_none]

/-- The only PUT that sets the field counts, wherever it stands. -/
theorem lastValue_of_unique (initial : IncidentInfo) {ks : List Nat} {k : Nat} {f : IncidentField}
    {value : FieldValue} (hk : k ∈ ks) (hvalue : setsAt requests k f = some value)
    (hunique : ∀ j ∈ ks, setsAt requests j f ≠ none → j = k) :
    lastValue requests initial ks f = value := by
  induction ks using List.reverseRecOn with
  | nil => cases hk
  | append_singleton ks j ih =>
    rw [lastValue_append]
    cases hj : setsAt requests j f with
    | some value' =>
      obtain rfl := hunique j (by simp) (by simp [hj])
      rw [hvalue] at hj
      exact (Option.some.inj hj).symm
    | none =>
      have hmem : k ∈ ks := by
        rcases List.mem_append.mp hk with hmem | hlast
        · exact hmem
        · obtain rfl := List.mem_singleton.mp hlast
          rw [hvalue] at hj
          cases hj
      exact ih hmem fun i hi => hunique i (List.mem_append_left _ hi)

/-! ## Steps -/

/-- When the copy was read that is to be written next. -/
def readAt (s : UpdateSystem) (k : Nat) : Option Nat :=
  match s.clients[k]? with
  | some (.sending readAt _) => some readAt
  | _ => none

variable (requests) in
/-- Since the copy that the sender writes was read, no PUT has been written that sets a field which
    this one leaves. -/
def WritesFresh (s : UpdateSystem) : UpdateEvent → Prop
  | .client _ => True
  | .sender _ _ => ∀ k ∈ s.runningJob, ∀ readAt ∈ s.readAt k, ∀ j ∈ s.written.drop readAt, ∀ f,
      setsAt requests j f ≠ none → setsAt requests k f ≠ none

instance decidableWritesFresh (s : UpdateSystem) (event : UpdateEvent) :
    Decidable (s.WritesFresh requests event) :=
  match event with
  | .client _ => instDecidableTrue
  | .sender _ _ => inferInstanceAs (Decidable (∀ k ∈ s.runningJob, ∀ readAt ∈ s.readAt k,
      ∀ j ∈ s.written.drop readAt, ∀ f, setsAt requests j f ≠ none → setsAt requests k f ≠ none))

section Moves

variable (trackerId : IncidentTrackerIdType) (e : UnifiedEventIdType) (requests)

/-- What a step does. -/
inductive Moves (s : UpdateSystem) : UpdateSystem → Prop where
  | stays : Moves s s
  | read (k : Nat) (request : PutIncident) (job : UpdateIncidentJob)
      (hrequest : requests[k]? = some request) (hclient : s.clients[k]? = some .reading)
      (hjob : RestResourceIncident.handlerPutIncident s.tables (· == trackerId) e request.query =
        (.queued, [job])) :
      Moves s (s.setClient k (.queueing s.written.length job))
  | refuse (k : Nat) (hclient : s.clients[k]? = some .reading) :
      Moves s (s.setClient k (.answered false))
  | enqueue (k readAt : Nat) (job : UpdateIncidentJob)
      (hclient : s.clients[k]? = some (.queueing readAt job)) :
      Moves s { s.setClient k (.queued readAt job) with queue := s.queue ++ [k] }
  | pop (k readAt : Nat) (job : UpdateIncidentJob) (queue : List Nat) (hidle : s.runningJob = none)
      (hclient : s.clients[k]? = some (.queued readAt job)) :
      Moves s { s.setClient k (.sending readAt job) with queue := queue, runningJob := some k }
  | write (k readAt : Nat) (job : UpdateIncidentJob) (now : Timespec)
    (customStatuses : List CString)
      (tables : IncidentTables) (hrunning : s.runningJob = some k)
      (hclient : s.clients[k]? = some (.sending readAt job))
      (hfresh : ∀ j ∈ s.written.drop readAt, ∀ f, setsAt requests j f ≠ none →
        setsAt requests k f ≠ none)
      (hsend : IncidentSenderHatohol.sendIncident s.tables trackerId customStatuses now
        job.incidentInfo = some tables) :
      Moves s { s.setClient k (.recording job) with
        tables := tables, written := s.written ++ [k] }
  | fail (k readAt : Nat) (job : UpdateIncidentJob) (hrunning : s.runningJob = some k)
      (hclient : s.clients[k]? = some (.sending readAt job)) :
      Moves s (s.setClient k (.notifying false))
  | record (k : Nat) (job : UpdateIncidentJob) (history : IncidentHistory)
      (hrunning : s.runningJob = some k) (hclient : s.clients[k]? = some (.recording job)) :
      Moves s { s.setClient k .counting with tables := s.tables.insertIncidentHistory history }
  | count (k : Nat) (hrunning : s.runningJob = some k) (hclient : s.clients[k]? = some .counting) :
      Moves s (s.setClient k (.storing (s.tables.comments e)))
  | store (k commentCount : Nat) (hrunning : s.runningJob = some k)
      (hclient : s.clients[k]? = some (.storing commentCount)) :
      Moves s { s.setClient k (.notifying true) with
        tables := s.tables.storeIncidentCommentCount e commentCount }
  | notify (k : Nat) (succeeded : Bool) (hrunning : s.runningJob = some k)
      (hclient : s.clients[k]? = some (.notifying succeeded)) :
      Moves s { s.setClient k (.answered succeeded) with runningJob := none }

variable {trackerId e requests} {s : UpdateSystem}

theorem moves_stepClient (k : Nat) : Moves requests trackerId e s
    (s.stepClient trackerId e requests k) := by
  unfold stepClient
  split
  next request hrequest hclient =>
    split
    next job hjob => exact .read k request job hrequest hclient hjob
    next => exact .refuse k hclient
  next readAt job hclient => exact .enqueue k readAt job hclient
  next => exact .stays

theorem moves_popJob (hidle : s.runningJob = none) : Moves requests trackerId e s s.popJob := by
  unfold popJob
  split
  next => exact .stays
  next k queue _ =>
    split
    next readAt job hclient => exact .pop k readAt job queue hidle hclient
    next => exact .stays

theorem moves_stepJob {k : Nat} (request : PutIncident) (now : Timespec)
    (customStatuses : List CString) (hrunning : s.runningJob = some k)
    (hfresh : s.WritesFresh requests (.sender now customStatuses)) :
    Moves requests trackerId e s (s.stepJob trackerId e k request now customStatuses) := by
  unfold stepJob
  split
  next readAt job hclient =>
    split
    next tables hsend =>
      have hread : s.readAt k = some readAt := by rw [UpdateSystem.readAt, hclient]
      exact .write k readAt job now customStatuses tables hrunning hclient
        (hfresh k hrunning readAt hread) hsend
    next => exact .fail k readAt job hrunning hclient
  next job hclient => exact .record k job _ hrunning hclient
  next hclient =>
    rw [IncidentTables.getIncidentCommentCount_eq]
    exact .count k hrunning hclient
  next commentCount hclient => exact .store k commentCount hrunning hclient
  next succeeded hclient => exact .notify k succeeded hrunning hclient
  next => exact .stays

theorem moves_step {event : UpdateEvent} (hfresh : s.WritesFresh requests event) :
    Moves requests trackerId e s (s.step trackerId e requests event) := by
  cases event with
  | client k => exact moves_stepClient k
  | sender now customStatuses =>
    simp only [step]
    split
    next hidle => exact moves_popJob hidle
    next k hrunning =>
      split
      next request _ => exact moves_stepJob request now customStatuses hrunning hfresh
      next => exact .stays

theorem getElem?_setClient {k : Nat} {old : PutClient} (hk : s.clients[k]? = some old)
    (client : PutClient) (j : Nat) :
    (s.setClient k client).clients[j]? = if j = k then some client else s.clients[j]? := by
  obtain ⟨hlt, -⟩ := List.getElem?_eq_some_iff.mp hk
  simp only [setClient, List.getElem?_set]
  by_cases heq : k = j
  · subst heq
    simp [hlt]
  · simp [heq, Ne.symm heq]

end Moves

end UpdateSystem

/-! ## Which PUTs are written -/

/-- The copy has been written. -/
def PutClient.hasWritten : PutClient → Bool
  | .recording _ => true
  | .counting => true
  | .storing _ => true
  | .notifying succeeded => succeeded
  | .answered succeeded => succeeded
  | _ => false

/-- The thread of the sender works at it. -/
def PutClient.isRunning : PutClient → Bool
  | .sending _ _ => true
  | .recording _ => true
  | .counting => true
  | .storing _ => true
  | .notifying _ => true
  | _ => false

namespace UpdateSystem

structure LogSound (s : UpdateSystem) : Prop where
  nodup : s.written.Nodup
  mem_iff : ∀ k, k ∈ s.written ↔ ∃ c, s.clients[k]? = some c ∧ c.hasWritten
  running : ∀ (k : Nat) c, s.clients[k]? = some c → c.isRunning → s.runningJob = some k

section Log

variable {requests : List PutIncident} {trackerId : IncidentTrackerIdType} {e : UnifiedEventIdType}
  {s s' : UpdateSystem}

/-- A client goes on without writing. -/
theorem LogSound.setClient (h : s.LogSound) {k : Nat} {old c : PutClient}
    (hk : s.clients[k]? = some old) (hclients : s'.clients = (s.setClient k c).clients)
    (hwritten : c.hasWritten = old.hasWritten) (hlog : s'.written = s.written)
    (hrunning : (c.isRunning ∧ s'.runningJob = some k ∧
        (s.runningJob = none ∨ s.runningJob = some k)) ∨
      (c.isRunning = false ∧ (s'.runningJob = s.runningJob ∨ s.runningJob = some k))) :
    s'.LogSound := by
  refine ⟨by rw [hlog]; exact h.nodup, ?_, ?_⟩
  · intro j
    rw [hlog, h.mem_iff, hclients]
    simp only [getElem?_setClient hk]
    by_cases heq : j = k
    · subst heq
      simp [hk, hwritten]
    · simp [heq]
  · intro j c' hj hrun
    rw [hclients, getElem?_setClient hk] at hj
    by_cases heq : j = k
    · subst heq
      rw [if_pos rfl] at hj
      obtain rfl := Option.some.inj hj
      rcases hrunning with ⟨-, hnow, -⟩ | ⟨hnot, -⟩
      · exact hnow
      · rw [hnot] at hrun
        cases hrun
    · rw [if_neg heq] at hj
      have hbefore := h.running j c' hj hrun
      rcases hrunning with ⟨-, -, hnone | hsome⟩ | ⟨-, hsame | hsome⟩
      · rw [hnone] at hbefore
        cases hbefore
      · exact absurd (Option.some.inj (hbefore.symm.trans hsome)) heq
      · rw [hsame, hbefore]
      · exact absurd (Option.some.inj (hbefore.symm.trans hsome)) heq

theorem logSound_start (tables : IncidentTables) (requests : List PutIncident) :
    (start tables requests).LogSound := by
  have hreading : ∀ (k : Nat) c, (start tables requests).clients[k]? = some c → c = .reading := by
    intro k c hc
    simp only [start, List.getElem?_map, Option.map_eq_some_iff] at hc
    obtain ⟨-, -, rfl⟩ := hc
    rfl
  refine ⟨List.nodup_nil, fun k => ⟨nofun, ?_⟩, ?_⟩
  · rintro ⟨c, hc, hwritten⟩
    rw [hreading k c hc] at hwritten
    cases hwritten
  · intro k c hc hrunning
    rw [hreading k c hc] at hrunning
    cases hrunning

theorem LogSound.moves (h : s.LogSound) (hmoves : Moves requests trackerId e s s') :
    s'.LogSound := by
  cases hmoves with
  | stays => exact h
  | read k request job hrequest hclient hjob =>
    exact h.setClient hclient rfl rfl rfl (.inr ⟨rfl, .inl rfl⟩)
  | refuse k hclient => exact h.setClient hclient rfl rfl rfl (.inr ⟨rfl, .inl rfl⟩)
  | enqueue k readAt job hclient => exact h.setClient hclient rfl rfl rfl (.inr ⟨rfl, .inl rfl⟩)
  | pop k readAt job queue hidle hclient =>
    exact h.setClient hclient rfl rfl rfl (.inl ⟨rfl, rfl, .inl hidle⟩)
  | write k readAt job now customStatuses tables hrunning hclient hfresh hsend =>
    have hnew : k ∉ s.written := by
      rw [h.mem_iff]
      rintro ⟨c, hc, hwritten⟩
      obtain rfl := Option.some.inj (hclient.symm.trans hc)
      cases hwritten
    refine ⟨List.nodup_append.mpr ⟨h.nodup, List.nodup_singleton k, ?_⟩, ?_, ?_⟩
    · rintro j hj i hi rfl
      rw [List.mem_singleton] at hi
      exact hnew (hi ▸ hj)
    · intro j
      simp only [List.mem_append, List.mem_singleton, getElem?_setClient hclient]
      by_cases heq : j = k
      · simp [heq, PutClient.hasWritten]
      · simp [heq, h.mem_iff]
    · intro j c hj hrun
      rw [show _ = (s.setClient k (.recording job)).clients[j]? from rfl,
        getElem?_setClient hclient] at hj
      by_cases heq : j = k
      · rw [heq]
        exact hrunning
      · rw [if_neg heq] at hj
        exact h.running j c hj hrun
  | fail k readAt job hrunning hclient =>
    exact h.setClient hclient rfl rfl rfl (.inl ⟨rfl, hrunning, .inr hrunning⟩)
  | record k job history hrunning hclient =>
    exact h.setClient hclient rfl rfl rfl (.inl ⟨rfl, hrunning, .inr hrunning⟩)
  | count k hrunning hclient =>
    exact h.setClient hclient rfl rfl rfl (.inl ⟨rfl, hrunning, .inr hrunning⟩)
  | store k commentCount hrunning hclient =>
    exact h.setClient hclient rfl rfl rfl (.inl ⟨rfl, hrunning, .inr hrunning⟩)
  | notify k succeeded hrunning hclient =>
    exact h.setClient hclient rfl rfl rfl (.inr ⟨rfl, .inr hrunning⟩)

end Log

end UpdateSystem

/-! ## What the incident holds -/

/-- The copy that a PUT has of the incident, until it is written. -/
def PutClient.copy : PutClient → Option (Nat × UpdateIncidentJob)
  | .queueing readAt job => some (readAt, job)
  | .queued readAt job => some (readAt, job)
  | .sending readAt job => some (readAt, job)
  | _ => none

theorem field_setUpdated (incidentInfo row : IncidentInfo) (f : IncidentField) :
    (IncidentTables.setUpdated incidentInfo row).field f = incidentInfo.field f := by
  cases f <;> rfl

/-- What the tables show of the first incident of the event after an update of it. -/
theorem head?_incidentsOf_updateIncidentInfo {t t' : IncidentTables} {incidentInfo row : IncidentInfo}
    {e : UnifiedEventIdType} (h : t.updateIncidentInfo incidentInfo = some t')
    (hrow : (t.incidentsOf e).head? = some row) (hkey : row.key = incidentInfo.key) :
    ∃ row', (t'.incidentsOf e).head? = some row' ∧ row'.key = row.key ∧
      ∀ f, row'.field f = incidentInfo.field f := by
  unfold IncidentTables.updateIncidentInfo at h
  split at h
  next =>
    obtain rfl := Option.some.inj h
    rw [IncidentTables.incidentsOf_updateIncidents _ _ (fun row => by split <;> rfl),
      List.head?_map, hrow]
    refine ⟨_, rfl, IncidentTables.key_setUpdated incidentInfo row, fun f => ?_⟩
    simp only [hkey, if_true]
    exact field_setUpdated incidentInfo row f
  next => cases h

theorem head?_incidentsOf_sendIncident {t t' : IncidentTables} {trackerId : IncidentTrackerIdType}
    {customStatuses : List CString} {now : Timespec} {incident row : IncidentInfo}
    {e : UnifiedEventIdType}
    (h : IncidentSenderHatohol.sendIncident t trackerId customStatuses now incident = some t')
    (hrow : (t.incidentsOf e).head? = some row) (hkey : row.key = incident.key) :
    ∃ row', (t'.incidentsOf e).head? = some row' ∧ row'.key = row.key ∧
      ∀ f, row'.field f = incident.field f := by
  unfold IncidentSenderHatohol.sendIncident at h
  simp only at h
  split at h
  next =>
    obtain ⟨row', hrow', hkey', hfields⟩ := head?_incidentsOf_updateIncidentInfo h hrow hkey
    refine ⟨row', hrow', hkey', fun f => ?_⟩
    rw [hfields]
    cases f <;> rfl
  next => cases h

theorem head?_incidentsOf_storeIncidentCommentCount {t : IncidentTables} {row : IncidentInfo}
    {e : UnifiedEventIdType} (hrow : (t.incidentsOf e).head? = some row) (count : Int) :
    ∃ row', ((t.storeIncidentCommentCount e count).incidentsOf e).head? = some row' ∧
      row'.key = row.key ∧ ∀ f, row'.field f = row.field f := by
  rw [IncidentTables.storeIncidentCommentCount,
    IncidentTables.incidentsOf_updateIncidents _ _ (fun row => by split <;> rfl), List.head?_map,
      hrow]
  refine ⟨_, rfl, IncidentTables.key_setCommentCount e count row, fun f => ?_⟩
  beta_reduce
  split
  next => cases f <;> rfl
  next => rfl

namespace UpdateSystem

/-- The incident holds in each field what the last PUT has set it to, and a copy what the field held
    when it was read, or what its own PUT sets it to. -/
structure Tracks (requests : List PutIncident) (e : UnifiedEventIdType) (initial : IncidentInfo)
    (s : UpdateSystem) : Prop where
  row : ∃ row, (s.tables.incidentsOf e).head? = some row ∧ row.key = initial.key ∧
    ∀ f, row.field f = lastValue requests initial s.written f
  copies : ∀ (k : Nat) c readAt job, s.clients[k]? = some c → c.copy = some (readAt, job) →
    readAt ≤ s.written.length ∧ job.incidentInfo.key = initial.key ∧
      ∀ f, job.incidentInfo.field f =
        (setsAt requests k f).getD (lastValue requests initial (s.written.take readAt) f)

section Tracking

variable {requests : List PutIncident} {trackerId : IncidentTrackerIdType} {e : UnifiedEventIdType}
  {initial : IncidentInfo} {s s' : UpdateSystem}

/-- A client goes on, with the copy that it has or without. -/
theorem Tracks.setClient (h : s.Tracks requests e initial) {k : Nat} {old c : PutClient}
    (hk : s.clients[k]? = some old) (hclients : s'.clients = (s.setClient k c).clients)
    (hcopy : c.copy = old.copy ∨ c.copy = none) (hlog : s'.written = s.written)
    (hrow : ∃ row, (s'.tables.incidentsOf e).head? = some row ∧ row.key = initial.key ∧
      ∀ f, row.field f = lastValue requests initial s.written f) :
    s'.Tracks requests e initial := by
  refine ⟨by rw [hlog]; exact hrow, ?_⟩
  intro j c' readAt job hj hcopied
  rw [hlog]
  rw [hclients, getElem?_setClient hk] at hj
  by_cases heq : j = k
  · subst heq
    rw [if_pos rfl] at hj
    obtain rfl := Option.some.inj hj
    rcases hcopy with hsame | hnone
    · exact h.copies j old readAt job hk (hsame ▸ hcopied)
    · rw [hnone] at hcopied
      cases hcopied
  · rw [if_neg heq] at hj
    exact h.copies j c' readAt job hj hcopied

/-- A field that a fresh copy leaves holds what the copy holds. -/
theorem lastValue_take_of_fresh {written : List Nat} {readAt k : Nat}
    (hfresh : ∀ j ∈ written.drop readAt, ∀ f, setsAt requests j f ≠ none →
      setsAt requests k f ≠ none) (f : IncidentField) :
    (setsAt requests k f).getD (lastValue requests initial (written.take readAt) f) =
      (setsAt requests k f).getD (lastValue requests initial written f) := by
  cases hset : setsAt requests k f with
  | some value => rfl
  | none =>
    have hunset : ∀ j ∈ written.drop readAt, setsAt requests j f = none := by
      intro j hj
      by_contra hsome
      exact hfresh j hj f hsome hset
    have heq := lastValue_append_unset initial (written.take readAt) hunset
    rw [List.take_append_drop] at heq
    rw [Option.getD_none, Option.getD_none, heq]

theorem Tracks.write (h : s.Tracks requests e initial) {k readAt : Nat} {job : UpdateIncidentJob}
    {now : Timespec} {customStatuses : List CString} {tables : IncidentTables}
    (hclient : s.clients[k]? = some (.sending readAt job))
    (hfresh : ∀ j ∈ s.written.drop readAt, ∀ f, setsAt requests j f ≠ none →
      setsAt requests k f ≠ none)
    (hsend : IncidentSenderHatohol.sendIncident s.tables trackerId customStatuses now
      job.incidentInfo = some tables) :
    ({ s.setClient k (.recording job) with
      tables := tables, written := s.written ++ [k] } : UpdateSystem).Tracks requests e initial := by
  obtain ⟨row, hrow, hkey, hfields⟩ := h.row
  obtain ⟨-, hjobkey, hjob⟩ := h.copies k _ readAt job hclient rfl
  obtain ⟨row', hrow', hkey', hfields'⟩ :=
    head?_incidentsOf_sendIncident hsend hrow (hkey.trans hjobkey.symm)
  constructor
  · refine ⟨row', hrow', hkey'.trans hkey, fun f => ?_⟩
    rw [hfields', hjob, lastValue_append, lastValue_take_of_fresh hfresh]
  · intro j c readAt' job' hj hcopied
    rw [show _ = (s.setClient k (.recording job)).clients[j]? from rfl,
      getElem?_setClient hclient] at hj
    by_cases heq : j = k
    · rw [if_pos heq] at hj
      obtain rfl := Option.some.inj hj
      cases hcopied
    · rw [if_neg heq] at hj
      obtain ⟨hle, hjobkey', hjob'⟩ := h.copies j c readAt' job' hj hcopied
      refine ⟨?_, hjobkey', fun f => ?_⟩
      · rw [List.length_append]
        omega
      · rw [hjob', List.take_append_of_le_length hle]

/-- What is read is what the incident holds, and the query sets the rest. -/
theorem Tracks.read (h : s.Tracks requests e initial) {k : Nat} {request : PutIncident}
    {job : UpdateIncidentJob} (hrequest : requests[k]? = some request)
    (hclient : s.clients[k]? = some .reading)
    (hjob : RestResourceIncident.handlerPutIncident s.tables (· == trackerId) e request.query =
      (.queued, [job])) :
    (s.setClient k (.queueing s.written.length job)).Tracks requests e initial := by
  obtain ⟨row, hrow, hkey, hfields⟩ := h.row
  obtain ⟨incident, hincident, hcopy⟩ := RestResourceIncident.handlerPutIncident_queued hjob
  obtain rfl := Option.some.inj (hrow.symm.trans hincident)
  refine ⟨⟨row, hrow, hkey, hfields⟩, ?_⟩
  intro j c readAt job' hj hcopied
  rw [getElem?_setClient hclient] at hj
  by_cases heq : j = k
  · subst heq
    rw [if_pos rfl] at hj
    obtain rfl := Option.some.inj hj
    obtain ⟨rfl, rfl⟩ := Prod.mk.inj (Option.some.inj hcopied)
    refine ⟨Nat.le_refl _, ?_, fun f => ?_⟩
    · rw [hcopy, ← hkey]
      rfl
    · have hfield : ({ row with unifiedEventId := e } : IncidentInfo).field f = row.field f := by
        cases f <;> rfl
      have hsets : setsAt requests j f = request.query.sets f := by simp [setsAt, hrequest]
      have htake : (s.setClient j (.queueing s.written.length job)).written.take s.written.length =
          s.written := List.take_length
      rw [hcopy, field_parseIncidentParameter, hfield, hfields, hsets, htake]
  · rw [if_neg heq] at hj
    exact h.copies j c readAt job' hj hcopied

theorem Tracks.moves (h : s.Tracks requests e initial) (hmoves : Moves requests trackerId e s s') :
    s'.Tracks requests e initial := by
  cases hmoves with
  | stays => exact h
  | read k request job hrequest hclient hjob => exact h.read hrequest hclient hjob
  | refuse k hclient => exact h.setClient hclient rfl (.inr rfl) rfl h.row
  | enqueue k readAt job hclient => exact h.setClient hclient rfl (.inl rfl) rfl h.row
  | pop k readAt job queue hidle hclient => exact h.setClient hclient rfl (.inl rfl) rfl h.row
  | write k readAt job now customStatuses tables hrunning hclient hfresh hsend =>
    exact h.write hclient hfresh hsend
  | fail k readAt job hrunning hclient => exact h.setClient hclient rfl (.inr rfl) rfl h.row
  | record k job history hrunning hclient => exact h.setClient hclient rfl (.inr rfl) rfl h.row
  | count k hrunning hclient => exact h.setClient hclient rfl (.inr rfl) rfl h.row
  | store k commentCount hrunning hclient =>
    obtain ⟨row, hrow, hkey, hfields⟩ := h.row
    obtain ⟨row', hrow', hkey', hfields'⟩ :=
      head?_incidentsOf_storeIncidentCommentCount hrow commentCount
    refine h.setClient hclient rfl (.inr rfl) rfl ⟨row', hrow', hkey'.trans hkey, fun f => ?_⟩
    rw [hfields', hfields]
  | notify k succeeded hrunning hclient => exact h.setClient hclient rfl (.inr rfl) rfl h.row

end Tracking

/-! ## Comments -/

/-- The sender has written and has not stored the count yet. -/
def isMidway : PutClient → Bool
  | .recording _ => true
  | .counting => true
  | .storing _ => true
  | _ => false

/-- The count is right unless the sender is about to store another one, which is right then. -/
structure CountSound (e : UnifiedEventIdType) (s : UpdateSystem) : Prop where
  counted : (∀ (k : Nat) c, s.clients[k]? = some c → isMidway c = false) →
    s.tables.CommentsCounted e
  storing : ∀ (k : Nat) n, s.clients[k]? = some (.storing n) → n = s.tables.comments e

section Counting

variable {requests : List PutIncident} {trackerId : IncidentTrackerIdType} {e : UnifiedEventIdType}
  {initial : IncidentInfo} {s s' : UpdateSystem}

/-- A client that neither was nor is in between goes on. -/
theorem CountSound.setClient (h : s.CountSound e) {k : Nat} {old c : PutClient}
    (hk : s.clients[k]? = some old) (hclients : s'.clients = (s.setClient k c).clients)
    (htables : s'.tables = s.tables) (hold : isMidway old = false) (hc : isMidway c = false) :
    s'.CountSound e := by
  refine ⟨?_, ?_⟩
  · intro hnone
    rw [htables]
    refine h.counted fun j c' hj => ?_
    by_cases heq : j = k
    · subst heq
      obtain rfl := Option.some.inj (hk.symm.trans hj)
      exact hold
    · refine hnone j c' ?_
      rw [hclients, getElem?_setClient hk, if_neg heq]
      exact hj
  · intro j n hj
    rw [htables]
    rw [hclients, getElem?_setClient hk] at hj
    by_cases heq : j = k
    · rw [if_pos heq] at hj
      obtain rfl := Option.some.inj hj
      cases hc
    · rw [if_neg heq] at hj
      exact h.storing j n hj

/-- The client that the sender works at goes on to a place in between. -/
theorem CountSound.midway (hlog : s.LogSound) {k : Nat} {old c : PutClient}
    (hk : s.clients[k]? = some old) (hrunning : s.runningJob = some k)
    (hclients : s'.clients = (s.setClient k c).clients) (hc : isMidway c)
    (hstoring : ∀ n, c = .storing n → n = s'.tables.comments e) : s'.CountSound e := by
  refine ⟨?_, ?_⟩
  · intro hnone
    have hfalse := hnone k c (by rw [hclients, getElem?_setClient hk, if_pos rfl])
    rw [hc] at hfalse
    cases hfalse
  · intro j n hj
    rw [hclients, getElem?_setClient hk] at hj
    by_cases heq : j = k
    · rw [if_pos heq] at hj
      exact hstoring n (Option.some.inj hj)
    · rw [if_neg heq] at hj
      have hother := hlog.running j _ hj rfl
      exact absurd (Option.some.inj (hother.symm.trans hrunning)) heq

theorem CountSound.store (h : s.CountSound e) (hlog : s.LogSound)
    (htracks : s.Tracks requests e initial)
    {k n : Nat} (hrunning : s.runningJob = some k) (hclient : s.clients[k]? = some (.storing n)) :
    ({ s.setClient k (.notifying true) with
      tables := s.tables.storeIncidentCommentCount e n } : UpdateSystem).CountSound e := by
  obtain ⟨row, hrow, -⟩ := htracks.row
  have hmem := List.mem_of_head? hrow
  rw [IncidentTables.incidentsOf, List.mem_filter, decide_eq_true_eq] at hmem
  refine ⟨fun _ => ?_, ?_⟩
  · exact (HistorySystem.commentsCounted_store_iff ⟨row, hmem⟩ n).mpr (h.storing k n hclient)
  · intro j m hj
    rw [show _ = (s.setClient k (.notifying true)).clients[j]? from rfl,
      getElem?_setClient hclient] at hj
    by_cases heq : j = k
    · rw [if_pos heq] at hj
      cases hj
    · rw [if_neg heq] at hj
      have hother := hlog.running j _ hj rfl
      exact absurd (Option.some.inj (hother.symm.trans hrunning)) heq

theorem CountSound.moves (h : s.CountSound e) (hlog : s.LogSound)
    (htracks : s.Tracks requests e initial) (hmoves : Moves requests trackerId e s s') :
    s'.CountSound e := by
  cases hmoves with
  | stays => exact h
  | read k request job hrequest hclient hjob => exact h.setClient hclient rfl rfl rfl rfl
  | refuse k hclient => exact h.setClient hclient rfl rfl rfl rfl
  | enqueue k readAt job hclient => exact h.setClient hclient rfl rfl rfl rfl
  | pop k readAt job queue hidle hclient => exact h.setClient hclient rfl rfl rfl rfl
  | write k readAt job now customStatuses tables hrunning hclient hfresh hsend =>
    exact .midway hlog hclient hrunning rfl rfl nofun
  | fail k readAt job hrunning hclient => exact h.setClient hclient rfl rfl rfl rfl
  | record k job history hrunning hclient => exact .midway hlog hclient hrunning rfl rfl nofun
  | count k hrunning hclient =>
    refine .midway hlog hclient hrunning rfl rfl fun n hn => ?_
    obtain rfl := PutClient.storing.inj hn
    rfl
  | store k commentCount hrunning hclient => exact h.store hlog htracks hrunning hclient
  | notify k succeeded hrunning hclient => exact h.setClient hclient rfl rfl rfl rfl

end Counting

/-! ## Runs -/

section Runs

variable {requests : List PutIncident} {trackerId : IncidentTrackerIdType} {e : UnifiedEventIdType}
  {initial : IncidentInfo} {s s' : UpdateSystem}

theorem length_moves (hmoves : Moves requests trackerId e s s') :
    s'.clients.length = s.clients.length := by
  cases hmoves with
  | stays => rfl
  | _ => exact List.length_set

variable (requests trackerId e) in
/-- Everything that a run keeps. -/
structure Sound (initial : IncidentInfo) (s : UpdateSystem) : Prop where
  length : s.clients.length = requests.length
  log : s.LogSound
  tracks : s.Tracks requests e initial
  count : s.CountSound e

theorem Sound.moves (h : s.Sound requests e initial) (hmoves : Moves requests trackerId e s s') :
    s'.Sound requests e initial :=
  ⟨(length_moves hmoves).trans h.length, h.log.moves hmoves, h.tracks.moves hmoves,
    h.count.moves h.log h.tracks hmoves⟩

theorem sound_start {tables : IncidentTables} (requests : List PutIncident)
    (hinitial : (tables.incidentsOf e).head? = some initial) (hcounted : tables.CommentsCounted e) :
    (start tables requests).Sound requests e initial := by
  have hreading : ∀ (k : Nat) c, (start tables requests).clients[k]? = some c → c = .reading := by
    intro k c hc
    simp only [start, List.getElem?_map, Option.map_eq_some_iff] at hc
    obtain ⟨-, -, rfl⟩ := hc
    rfl
  refine ⟨List.length_map _, logSound_start tables requests, ⟨?_, ?_⟩, ⟨fun _ => hcounted, ?_⟩⟩
  · exact ⟨initial, hinitial, rfl, fun f => rfl⟩
  · intro k c readAt job hc hcopy
    rw [hreading k c hc] at hcopy
    cases hcopy
  · intro k n hc
    cases hreading k _ hc

variable (requests trackerId e) in
/-- Whatever is written in the run is fresh. -/
def RunsFresh (s : UpdateSystem) : List UpdateEvent → Prop
  | [] => True
  | event :: events =>
      s.WritesFresh requests event ∧ RunsFresh (s.step trackerId e requests event) events

instance decidableRunsFresh (s : UpdateSystem) (events : List UpdateEvent) :
    Decidable (s.RunsFresh requests trackerId e events) :=
  match events with
  | [] => instDecidableTrue
  | event :: events =>
      have := decidableRunsFresh (s.step trackerId e requests event) events
      instDecidableAnd

theorem Sound.run {events : List UpdateEvent} (h : s.Sound requests e initial)
    (hfresh : s.RunsFresh requests trackerId e events) :
    (s.run trackerId e requests events).Sound requests e initial := by
  induction events generalizing s with
  | nil => exact h
  | cons event events ih =>
    exact ih (h.moves (moves_step hfresh.1)) hfresh.2

end Runs

end UpdateSystem

open UpdateSystem

/-- (RestResourceIncident.cc:342-389, IncidentSender.cc:148-215) PUTs for an incident of Hatohol's own
    tracker, in any order of their steps. If no copy is written after another that sets a field which
    this one leaves and that was not written yet when this one was read, then all are done what they
    ask for: a field that one PUT sets has its value, a field that none sets is as before, and the
    comments are counted. -/
theorem updates_survive (trackerId : IncidentTrackerIdType) (e : UnifiedEventIdType)
    (tables : IncidentTables) (initial : IncidentInfo) (requests : List PutIncident)
    (events : List UpdateEvent) (hinitial : (tables.incidentsOf e).head? = some initial)
    (hcounted : tables.CommentsCounted e)
    (hfresh : (start tables requests).RunsFresh requests trackerId e events)
    (hanswered : ∀ c ∈ ((start tables requests).run trackerId e requests events).clients,
      c = .answered true) :
    ∃ row, (((start tables requests).run trackerId e requests events).tables.incidentsOf e).head? =
        some row ∧ row.key = initial.key ∧
      (∀ k f value, setsAt requests k f = some value →
        (∀ j, setsAt requests j f ≠ none → j = k) → row.field f = value) ∧
      (∀ f, (∀ k, setsAt requests k f = none) → row.field f = initial.field f) ∧
      ((start tables requests).run trackerId e requests events).tables.CommentsCounted e := by
  have hsound := (sound_start requests hinitial hcounted).run hfresh
  obtain ⟨row, hrow, hkey, hfields⟩ := hsound.tracks.row
  refine ⟨row, hrow, hkey, ?_, ?_, ?_⟩
  · intro k f value hvalue hunique
    rw [hfields]
    refine lastValue_of_unique initial ?_ hvalue fun j _ => hunique j
    obtain ⟨request, hrequest, -⟩ := Option.bind_eq_some_iff.mp hvalue
    obtain ⟨hlt, -⟩ := List.getElem?_eq_some_iff.mp hrequest
    rw [← hsound.length] at hlt
    have hclient := List.getElem?_eq_getElem hlt
    refine (hsound.log.mem_iff k).mpr ⟨_, hclient, ?_⟩
    rw [hanswered _ (List.mem_of_getElem? hclient)]
    rfl
  · intro f hunset
    rw [hfields]
    exact lastValue_append_unset initial [] fun k _ => hunset k
  · refine hsound.count.counted fun k c hc => ?_
    rw [hanswered c (List.mem_of_getElem? hc)]
    rfl

/-! One PUT sets the status, another one the priority. -/

def putRequests : List PutIncident :=
  [⟨⟨some IncidentSenderHatohol.statusDone, none, none, none, some (.ofString "a")⟩, 1⟩,
    ⟨⟨none, some (.ofString "HIGH"), none, none, none⟩, 2⟩]

def putRun (events : List UpdateEvent) : UpdateSystem :=
  (start commentedTables putRequests).run 5 100 putRequests events

/-- The steps of the sender for a job. -/
def sendsJob : List UpdateEvent := List.replicate 6 (.sender ⟨10, 0⟩ [])

/-- The second PUT reads when the first one has been answered. -/
def inTurn : List UpdateEvent :=
  [.client 0, .client 0] ++ sendsJob ++ [.client 1, .client 1] ++ sendsJob

/-- Both PUTs read before one of them is written. -/
def atOnce : List UpdateEvent :=
  [.client 0, .client 1, .client 0, .client 1] ++ sendsJob ++ sendsJob

theorem updates_survive_inTurn :
    ∃ row, ((putRun inTurn).tables.incidentsOf 100).head? = some row ∧
      row.field .status = .inl IncidentSenderHatohol.statusDone := by
  obtain ⟨row, hrow, -, hset, -⟩ := updates_survive 5 100 commentedTables _ putRequests inTurn rfl
    (by unfold IncidentTables.CommentsCounted; decide) (by decide +kernel) (by decide +kernel)
  refine ⟨row, hrow, hset 0 .status _ rfl fun j hj => ?_⟩
  match j with
  | 0 => rfl
  | 1 => exact absurd rfl hj
  | j + 2 => exact absurd rfl hj

/-- Both are answered, and the status that only one of them sets is what it was. -/
theorem status_update_lost :
    (putRun atOnce).clients = [.answered true, .answered true] ∧
      setsAt putRequests 0 .status = some (.inl IncidentSenderHatohol.statusDone) ∧
      setsAt putRequests 1 .status = none ∧
      ((putRun atOnce).tables.incidentsOf 100).map (·.field .status) =
        [.inl IncidentSenderHatohol.statusNone] := by
  decide +kernel

end Hatohol

import Hatohol.DBTablesAction

/-!
# Answers to REST requests

A worker handles a request, unpauses the message if a reply is there and drops its reference
(server/src/FaceRest.cc:213-236, 777-815). A request for an incident is answered by the thread of a
sender instead, through a callback with a reference of its own (server/src/RestResourceIncident.cc:
236-327, server/src/IncidentSender.cc:108-215). Senders are deleted with their trackers
(server/src/IncidentSenderManager.cc:85-116). Any number of workers may be at work.
-/

namespace Hatohol

/-- What a handler does: it replies, with the error if there is an exception, or hands a job to the
    sender of a tracker. -/
inductive RestHandler where
  | replies
  | sendsIncident (trackerId : IncidentTrackerIdType)
  deriving DecidableEq, Repr

/-- Where a worker is with a request. `sender` is the object that `getSender` has returned. -/
inductive WorkerPhase where
  | queued
  | handling (worker : Nat)
  | pushing (worker sender : Nat)
  | testing (worker : Nat)
  | unpausing (worker : Nat)
  | unreffing (worker : Nat)
  | done
  deriving DecidableEq, Repr

/-- Where a sender is with the job of a request. -/
inductive SenderPhase where
  | none
  | queued (sender : Nat)
  | popped (sender : Nat)
  | sending (sender : Nat)
  | unpausing (sender : Nat)
  | unreffing (sender : Nat)
  | done
  | deleted
  deriving DecidableEq, Repr

/-- A request and its job. `bodies` are the replies that were written, `unpauses` and `deletions` tell
    how often the message was unpaused and the job was deleted. -/
structure RestJob where
  handler : RestHandler
  worker : WorkerPhase
  sender : SenderPhase
  usedCount : Int
  replyIsPrepared : Bool
  bodies : Nat
  unpauses : Nat
  deletions : Nat
  deriving DecidableEq, Repr

namespace RestJob

def new (handler : RestHandler) : RestJob where
  handler := handler
  worker := .queued
  sender := .none
  usedCount := 1
  replyIsPrepared := false
  bodies := 0
  unpauses := 0
  deletions := 0

def ref (job : RestJob) : RestJob := { job with usedCount := job.usedCount + 1 }

/-- (UsedCountable.cc:32-36) -/
def unref (job : RestJob) : RestJob :=
  { job with
    usedCount := job.usedCount - 1
    deletions := if job.usedCount - 1 = 0 then job.deletions + 1 else job.deletions }

/-- `replyError` and `replyJSONData` (FaceRest.cc:869-922) -/
def reply (job : RestJob) : RestJob :=
  { job with bodies := job.bodies + 1, replyIsPrepared := true }

def unpause (job : RestJob) : RestJob := { job with unpauses := job.unpauses + 1 }

/-- The worker that has the request. -/
def heldBy (job : RestJob) : Option Nat :=
  match job.worker with
  | .handling worker => some worker
  | .pushing worker _ => some worker
  | .testing worker => some worker
  | .unpausing worker => some worker
  | .unreffing worker => some worker
  | _ => none

/-- The sender whose thread works at the job. -/
def runningIn (job : RestJob) : Option Nat :=
  match job.sender with
  | .popped sender => some sender
  | .sending sender => some sender
  | .unpausing sender => some sender
  | .unreffing sender => some sender
  | _ => none

end RestJob

structure SenderObject where
  trackerId : IncidentTrackerIdType
  queue : List Nat
  exitRequested : Bool
  isDestroyed : Bool
  deriving DecidableEq, Repr

structure RestSystem where
  jobs : List RestJob
  restJobQueue : List Nat
  senders : List SenderObject
  deriving DecidableEq, Repr

inductive RestEvent where
  | queueRestJob (handler : RestHandler)
  | popJob (worker : Nat)
  | worker (r : Nat)
  | senderPopJob (sender : Nat)
  | sender (r : Nat)
  | deleteSender (sender : Nat)
  | destroySender (sender : Nat)
  deriving DecidableEq, Repr

namespace RestSystem

def start : RestSystem := ⟨[], [], []⟩

def setJob (s : RestSystem) (r : Nat) (job : RestJob) : RestSystem :=
  { s with jobs := s.jobs.set r job }

def setSender (s : RestSystem) (i : Nat) (sender : SenderObject) : RestSystem :=
  { s with senders := s.senders.set i sender }

/-- The sender of a tracker; those that are being deleted are not in the map. -/
def findSender (s : RestSystem) (trackerId : IncidentTrackerIdType) : Option Nat :=
  s.senders.findIdx? fun sender => sender.trackerId = trackerId && !sender.exitRequested

/-- (IncidentSenderManager.cc:85-102) A sender is made for a tracker that exists. -/
def getSender (s : RestSystem) (trackerExists : IncidentTrackerIdType → Bool)
    (trackerId : IncidentTrackerIdType) : RestSystem × Option Nat :=
  match s.findSender trackerId with
  | some i => (s, some i)
  | none =>
      if trackerExists trackerId then
        ({ s with senders := s.senders ++ [⟨trackerId, [], false, false⟩] }, some s.senders.length)
      else (s, none)

/-- The handler, up to the queueing (RestResourceIncident.cc:314-326). -/
def handle (s : RestSystem) (trackerExists : IncidentTrackerIdType → Bool) (r : Nat) (job : RestJob)
    (worker : Nat) : RestSystem :=
  match job.handler with
  | .replies => s.setJob r { job.reply with worker := .testing worker }
  | .sendsIncident trackerId =>
      match s.getSender trackerExists trackerId with
      | (s, some sender) => s.setJob r { job.ref with worker := .pushing worker sender }
      | (s, none) => s.setJob r { job.ref.unref.reply with worker := .testing worker }

/-- (IncidentSender.cc:124-131) -/
def pushJob (s : RestSystem) (r : Nat) (job : RestJob) (worker sender : Nat) : RestSystem :=
  match s.senders[sender]? with
  | some object =>
      -- a queue that does not exist any more takes no job
      if object.isDestroyed then
        s.setJob r { job with worker := .testing worker, sender := .deleted }
      else
        (s.setJob r
          { job with worker := .testing worker, sender := .queued sender }).setSender sender
          { object with queue := object.queue ++ [r] }
  | none => s

/-- A step of the worker that has the request. -/
def stepWorker (s : RestSystem) (trackerExists : IncidentTrackerIdType → Bool) (r : Nat) :
    RestSystem :=
  match s.jobs[r]? with
  | none => s
  | some job =>
      match job.worker with
      | .handling worker => s.handle trackerExists r job worker
      | .pushing worker sender => s.pushJob r job worker sender
      | .testing worker =>
          s.setJob r (if job.replyIsPrepared then { job with worker := .unpausing worker }
            else { job with worker := .unreffing worker })
      | .unpausing worker => s.setJob r { job.unpause with worker := .unreffing worker }
      | .unreffing _ => s.setJob r { job.unref with worker := .done }
      | _ => s

/-- A step of the thread that works at the job of the request. The reply is the same for a failure,
    which ends the attempts of a sender that is being deleted too. -/
def stepSender (s : RestSystem) (r : Nat) : RestSystem :=
  match s.jobs[r]? with
  | none => s
  | some job =>
      match job.sender with
      | .popped sender =>
          if (s.senders[sender]?).any (·.exitRequested) then s.setJob r { job with sender := .deleted }
          else s.setJob r { job with sender := .sending sender }
      | .sending sender => s.setJob r { job.reply with sender := .unpausing sender }
      | .unpausing sender => s.setJob r { job.unpause with sender := .unreffing sender }
      | .unreffing _ => s.setJob r { job.unref with sender := .done }
      | _ => s

def step (trackerExists : IncidentTrackerIdType → Bool) (s : RestSystem) : RestEvent → RestSystem
  | .queueRestJob handler =>
      { s with jobs := s.jobs ++ [.new handler], restJobQueue := s.restJobQueue ++ [s.jobs.length] }
  | .popJob worker =>
      if s.jobs.any (·.heldBy = some worker) then s
      else
        match s.restJobQueue with
        | [] => s
        | r :: restJobQueue =>
            match s.jobs[r]? with
            | some job =>
                { s.setJob r { job with worker := .handling worker } with
                  restJobQueue := restJobQueue }
            | none => s
  | .worker r => s.stepWorker trackerExists r
  | .senderPopJob i =>
      if s.jobs.any (·.runningIn = some i) then s
      else
        match s.senders[i]? with
        | some ⟨trackerId, r :: queue, false, false⟩ =>
            match s.jobs[r]? with
            | some job =>
                (s.setJob r { job with sender := .popped i }).setSender i
                  ⟨trackerId, queue, false, false⟩
            | none => s
        | _ => s
  | .sender r => s.stepSender r
  | .deleteSender i =>
      match s.senders[i]? with
      | some object => s.setSender i { object with exitRequested := true }
      | none => s
  | .destroySender i =>
      match s.senders[i]? with
      | some object =>
          -- the thread has ended; what is queued is deleted without a call
          if object.exitRequested ∧ ¬ s.jobs.any (·.runningIn = some i) then
            { s.setSender i { object with queue := [], isDestroyed := true } with
              jobs := s.jobs.map fun job =>
                if job.sender = .queued i then { job with sender := .deleted } else job }
          else s
      | none => s

def run (trackerExists : IncidentTrackerIdType → Bool) (s : RestSystem) (events : List RestEvent) :
    RestSystem :=
  events.foldl (step trackerExists) s

end RestSystem

/-! ## What a request shows, by where it is -/

namespace RestJob

/-- There is at most one reply, and it is there when it is said to be. -/
def Shows (job : RestJob) (usedCount : Int) (prepared : Bool) (unpauses deletions : Nat) : Prop :=
  job.usedCount = usedCount ∧ job.replyIsPrepared = prepared ∧ job.bodies = prepared.toNat ∧
    job.unpauses = unpauses ∧ job.deletions = deletions

/-- The worker and the sender are never both about to reply, and each has a reference as long as it
    has something left to do. -/
def Accounted (job : RestJob) : Prop :=
  match job.worker, job.sender with
  | .queued, .none => job.Shows 1 false 0 0
  | .handling _, .none => job.Shows 1 false 0 0
  | .pushing _ _, .none => job.Shows 2 false 0 0
  -- the worker has replied
  | .testing _, .none => job.Shows 1 true 0 0
  | .unpausing _, .none => job.Shows 1 true 0 0
  | .unreffing _, .none => job.Shows 1 true 1 0
  | .done, .none => job.Shows 0 true 1 1
  -- the sender is to reply
  | .testing _, .queued _ => job.Shows 2 false 0 0
  | .testing _, .popped _ => job.Shows 2 false 0 0
  | .testing _, .sending _ => job.Shows 2 false 0 0
  | .unreffing _, .queued _ => job.Shows 2 false 0 0
  | .unreffing _, .popped _ => job.Shows 2 false 0 0
  | .unreffing _, .sending _ => job.Shows 2 false 0 0
  | .unreffing _, .unpausing _ => job.Shows 2 true 0 0
  | .unreffing _, .unreffing _ => job.Shows 2 true 1 0
  | .unreffing _, .done => job.Shows 1 true 1 0
  | .done, .queued _ => job.Shows 1 false 0 0
  | .done, .popped _ => job.Shows 1 false 0 0
  | .done, .sending _ => job.Shows 1 false 0 0
  | .done, .unpausing _ => job.Shows 1 true 0 0
  | .done, .unreffing _ => job.Shows 1 true 1 0
  | .done, .done => job.Shows 0 true 1 1
  | _, _ => False

/-- The worker has looked for a reply. -/
def isTested (job : RestJob) : Bool :=
  match job.worker with
  | .unreffing _ => true
  | .done => true
  | _ => false

def isSending (job : RestJob) : Bool :=
  match job.sender with
  | .sending _ => true
  | _ => false

/-- The worker is about to hand the job to the sender. -/
def isPushedTo (job : RestJob) (i : Nat) : Bool :=
  match job.worker with
  | .pushing _ sender => sender = i
  | _ => false

/-- The sender has the job before it. -/
def waitsFor (job : RestJob) (i : Nat) : Bool :=
  match job.sender with
  | .queued sender => sender = i
  | .popped sender => sender = i
  | _ => false

theorem accounted_new (handler : RestHandler) : (new handler).Accounted :=
  ⟨rfl, rfl, rfl, rfl, rfl⟩

variable {job : RestJob}

section Worker

variable {w : Nat}

theorem Accounted.handling (h : job.Accounted) (hworker : job.worker = .handling w) :
    job.sender = .none ∧ job.Shows 1 false 0 0 := by
  unfold Accounted at h
  rw [hworker] at h
  cases hsender : job.sender <;> rw [hsender] at h
  case none => exact ⟨rfl, h⟩
  all_goals exact h.elim

theorem Accounted.replied (h : job.Accounted) (hworker : job.worker = .handling w) :
    Accounted { job.reply with worker := .testing w } := by
  obtain ⟨hsender, hused, hprepared, hbodies, hunpauses, hdeletions⟩ := h.handling hworker
  simp only [Accounted, reply, hsender]
  exact ⟨hused, rfl, by simp [hbodies], hunpauses, hdeletions⟩

theorem Accounted.refused (h : job.Accounted) (hworker : job.worker = .handling w) :
    Accounted { job.ref.unref.reply with worker := .testing w } := by
  obtain ⟨hsender, hused, hprepared, hbodies, hunpauses, hdeletions⟩ := h.handling hworker
  simp only [Accounted, reply, unref, ref, hsender]
  exact ⟨by simp [hused], rfl, by simp [hbodies], hunpauses, by simp [hused, hdeletions]⟩

theorem Accounted.pushing (h : job.Accounted) (hworker : job.worker = .handling w) (i : Nat) :
    Accounted { job.ref with worker := .pushing w i } := by
  obtain ⟨hsender, hused, hprepared, hbodies, hunpauses, hdeletions⟩ := h.handling hworker
  simp only [Accounted, ref, hsender]
  exact ⟨by simp [hused], hprepared, hbodies, hunpauses, hdeletions⟩

theorem Accounted.pushed {i : Nat} (h : job.Accounted) (hworker : job.worker = .pushing w i) :
    job.sender = .none ∧ Accounted { job with worker := .testing w, sender := .queued i } := by
  unfold Accounted at h
  rw [hworker] at h
  cases hsender : job.sender <;> rw [hsender] at h
  case none => exact ⟨rfl, h⟩
  all_goals exact h.elim

/-- A reply that is there at the test is the worker's own. -/
theorem Accounted.tested (h : job.Accounted) (hworker : job.worker = .testing w) :
    Accounted (if job.replyIsPrepared then { job with worker := .unpausing w }
      else { job with worker := .unreffing w }) := by
  unfold Accounted at h
  rw [hworker] at h
  cases hsender : job.sender <;> rw [hsender] at h
  case none =>
    rw [if_pos h.2.1]
    simp only [Accounted]
    exact h
  case queued =>
    rw [if_neg (by simp [h.2.1])]
    simp only [Accounted]
    exact h
  case popped =>
    rw [if_neg (by simp [h.2.1])]
    simp only [Accounted]
    exact h
  case sending =>
    rw [if_neg (by simp [h.2.1])]
    simp only [Accounted]
    exact h
  all_goals exact h.elim

theorem Accounted.unpaused (h : job.Accounted) (hworker : job.worker = .unpausing w) :
    Accounted { job.unpause with worker := .unreffing w } := by
  unfold Accounted at h
  rw [hworker] at h
  cases hsender : job.sender <;> rw [hsender] at h
  case none =>
    obtain ⟨hused, hprepared, hbodies, hunpauses, hdeletions⟩ := h
    simp only [Accounted, unpause, hsender]
    exact ⟨hused, hprepared, hbodies, by simp [hunpauses], hdeletions⟩
  all_goals exact h.elim

theorem Accounted.unreffed (h : job.Accounted) (hworker : job.worker = .unreffing w) :
    Accounted { job.unref with worker := .done } := by
  unfold Accounted at h
  rw [hworker] at h
  cases hsender : job.sender <;> rw [hsender] at h
  case deleted => exact h.elim
  all_goals
    obtain ⟨hused, hprepared, hbodies, hunpauses, hdeletions⟩ := h
    simp only [Accounted, unref, hsender]
    exact ⟨by simp [hused], hprepared, hbodies, hunpauses, by simp [hused, hdeletions]⟩

end Worker

section Sender

variable {i : Nat}

theorem Accounted.popped (h : job.Accounted) (hsender : job.sender = .queued i) :
    Accounted { job with sender := .popped i } := by
  unfold Accounted at h ⊢
  rw [hsender] at h
  cases hworker : job.worker <;> rw [hworker] at h <;> exact h

theorem Accounted.sending (h : job.Accounted) (hsender : job.sender = .popped i) :
    Accounted { job with sender := .sending i } := by
  unfold Accounted at h ⊢
  rw [hsender] at h
  cases hworker : job.worker <;> rw [hworker] at h <;> exact h

/-- The reply of the sender comes after the test of the worker. -/
theorem Accounted.called (h : job.Accounted) (hsender : job.sender = .sending i)
    (htested : job.isTested) : Accounted { job.reply with sender := .unpausing i } := by
  unfold Accounted at h
  unfold isTested at htested
  rw [hsender] at h
  cases hworker : job.worker <;> rw [hworker] at h htested
  case unreffing =>
    obtain ⟨hused, hprepared, hbodies, hunpauses, hdeletions⟩ := h
    simp only [Accounted, reply, hworker]
    exact ⟨hused, rfl, by simp [hbodies], hunpauses, hdeletions⟩
  case done =>
    obtain ⟨hused, hprepared, hbodies, hunpauses, hdeletions⟩ := h
    simp only [Accounted, reply, hworker]
    exact ⟨hused, rfl, by simp [hbodies], hunpauses, hdeletions⟩
  all_goals cases htested

theorem Accounted.callbackUnpaused (h : job.Accounted) (hsender : job.sender = .unpausing i) :
    Accounted { job.unpause with sender := .unreffing i } := by
  unfold Accounted at h
  rw [hsender] at h
  cases hworker : job.worker <;> rw [hworker] at h
  case unreffing =>
    obtain ⟨hused, hprepared, hbodies, hunpauses, hdeletions⟩ := h
    simp only [Accounted, unpause, hworker]
    exact ⟨hused, hprepared, hbodies, by simp [hunpauses], hdeletions⟩
  case done =>
    obtain ⟨hused, hprepared, hbodies, hunpauses, hdeletions⟩ := h
    simp only [Accounted, unpause, hworker]
    exact ⟨hused, hprepared, hbodies, by simp [hunpauses], hdeletions⟩
  all_goals exact h.elim

theorem Accounted.callbackUnreffed (h : job.Accounted) (hsender : job.sender = .unreffing i) :
    Accounted { job.unref with sender := .done } := by
  unfold Accounted at h
  rw [hsender] at h
  cases hworker : job.worker <;> rw [hworker] at h
  case unreffing =>
    obtain ⟨hused, hprepared, hbodies, hunpauses, hdeletions⟩ := h
    simp only [Accounted, unref, hworker]
    exact ⟨by simp [hused], hprepared, hbodies, hunpauses, by simp [hused, hdeletions]⟩
  case done =>
    obtain ⟨hused, hprepared, hbodies, hunpauses, hdeletions⟩ := h
    simp only [Accounted, unref, hworker]
    exact ⟨by simp [hused], hprepared, hbodies, hunpauses, by simp [hused, hdeletions]⟩
  all_goals exact h.elim

end Sender

end RestJob

/-! ## The system -/

namespace RestSystem

def IsLive (s : RestSystem) (i : Nat) : Prop :=
  ∃ object, s.senders[i]? = some object ∧ object.exitRequested = false ∧ object.isDestroyed = false

structure Sound (s : RestSystem) : Prop where
  accounted : ∀ job ∈ s.jobs, job.Accounted
  live : ∀ job ∈ s.jobs, ∀ i, job.isPushedTo i ∨ job.waitsFor i → s.IsLive i
  destroyed : ∀ object ∈ s.senders, object.isDestroyed → object.exitRequested
  nodup : s.restJobQueue.Nodup
  queued : ∀ r ∈ s.restJobQueue, ∃ job, s.jobs[r]? = some job ∧ job.worker = .queued
  senderNodup : ∀ object ∈ s.senders, object.queue.Nodup
  senderQueued : ∀ (i : Nat) object, s.senders[i]? = some object → ∀ r ∈ object.queue,
    ∃ job, s.jobs[r]? = some job ∧ job.sender = .queued i

variable {s : RestSystem}

theorem getElem?_setJob {r : Nat} {old : RestJob} (hr : s.jobs[r]? = some old) (new : RestJob)
    (j : Nat) : (s.setJob r new).jobs[j]? = if j = r then some new else s.jobs[j]? := by
  obtain ⟨hlt, -⟩ := List.getElem?_eq_some_iff.mp hr
  simp only [setJob, List.getElem?_set]
  by_cases heq : r = j
  · subst heq
    simp [hlt]
  · simp [heq, Ne.symm heq]

/-- A request goes on, and no queue holds it in a place that it leaves. -/
theorem Sound.setJob (h : s.Sound) {r : Nat} {old new : RestJob} (hr : s.jobs[r]? = some old)
    (haccounted : new.Accounted)
    (hlive : ∀ i, new.isPushedTo i ∨ new.waitsFor i → s.IsLive i)
    (hworker : new.worker = old.worker ∨ r ∉ s.restJobQueue)
    (hsender : new.sender = old.sender ∨ ∀ object ∈ s.senders, r ∉ object.queue) :
    (s.setJob r new).Sound := by
  refine ⟨?_, ?_, h.destroyed, h.nodup, ?_, h.senderNodup, ?_⟩
  · intro job hjob
    rcases List.mem_or_eq_of_mem_set hjob with hold | rfl
    · exact h.accounted job hold
    · exact haccounted
  · intro job hjob i hneeds
    rcases List.mem_or_eq_of_mem_set hjob with hold | rfl
    · exact h.live job hold i hneeds
    · exact hlive i hneeds
  · intro j hj
    rw [getElem?_setJob hr]
    obtain ⟨job, hjob, hqueued⟩ := h.queued j hj
    by_cases heq : j = r
    · subst heq
      rcases hworker with hsame | hnot
      · obtain rfl := Option.some.inj (hr.symm.trans hjob)
        exact ⟨new, if_pos rfl, hsame.trans hqueued⟩
      · exact absurd hj hnot
    · exact ⟨job, (if_neg heq).trans hjob, hqueued⟩
  · intro i object hobject j hj
    rw [getElem?_setJob hr]
    obtain ⟨job, hjob, hqueued⟩ := h.senderQueued i object hobject j hj
    by_cases heq : j = r
    · subst heq
      rcases hsender with hsame | hnot
      · obtain rfl := Option.some.inj (hr.symm.trans hjob)
        exact ⟨new, if_pos rfl, hsame.trans hqueued⟩
      · exact absurd hj (hnot object (List.mem_of_getElem? hobject))
    · exact ⟨job, (if_neg heq).trans hjob, hqueued⟩

theorem Sound.notMem_restJobQueue (h : s.Sound) {r : Nat} {job : RestJob}
    (hr : s.jobs[r]? = some job) (hworker : job.worker ≠ .queued) : r ∉ s.restJobQueue := by
  intro hmem
  obtain ⟨job', hjob', hqueued⟩ := h.queued r hmem
  obtain rfl := Option.some.inj (hr.symm.trans hjob')
  exact hworker hqueued

theorem Sound.notMem_queue (h : s.Sound) {r : Nat} {job : RestJob} (hr : s.jobs[r]? = some job)
    (hsender : ∀ i, job.sender ≠ .queued i) : ∀ object ∈ s.senders, r ∉ object.queue := by
  intro object hobject hmem
  obtain ⟨i, hi⟩ := List.mem_iff_getElem?.mp hobject
  obtain ⟨job', hjob', hqueued⟩ := h.senderQueued i object hi r hmem
  obtain rfl := Option.some.inj (hr.symm.trans hjob')
  exact hsender i hqueued

theorem sound_start : start.Sound where
  accounted := fun _ hjob => absurd hjob List.not_mem_nil
  live := fun _ hjob => absurd hjob List.not_mem_nil
  destroyed := fun _ hobject => absurd hobject List.not_mem_nil
  nodup := List.nodup_nil
  queued := fun _ hr => absurd hr List.not_mem_nil
  senderNodup := fun _ hobject => absurd hobject List.not_mem_nil
  senderQueued := fun _ _ hobject => absurd hobject.symm (Option.some_ne_none _)

theorem Sound.queueRestJob (h : s.Sound) (handler : RestHandler) :
    ({ s with
      jobs := s.jobs ++ [.new handler],
      restJobQueue := s.restJobQueue ++ [s.jobs.length] } : RestSystem).Sound := by
  have hold : ∀ (r : Nat) job, s.jobs[r]? = some job → (s.jobs ++ [.new handler])[r]? = some job :=
    by
    intro r job hr
    obtain ⟨hlt, -⟩ := List.getElem?_eq_some_iff.mp hr
    rw [List.getElem?_append_left hlt]
    exact hr
  refine ⟨?_, ?_, h.destroyed, ?_, ?_, h.senderNodup, ?_⟩
  · intro job hjob
    rcases List.mem_append.mp hjob with hjob | hjob
    · exact h.accounted job hjob
    · rw [List.mem_singleton.mp hjob]
      exact RestJob.accounted_new handler
  · intro job hjob i hneeds
    rcases List.mem_append.mp hjob with hjob | hjob
    · exact h.live job hjob i hneeds
    · rw [List.mem_singleton.mp hjob] at hneeds
      rcases hneeds with hneeds | hneeds <;> cases hneeds
  · refine List.nodup_append.mpr ⟨h.nodup, List.nodup_singleton _, ?_⟩
    rintro r hr r' hr' rfl
    obtain ⟨job, hjob, -⟩ := h.queued r hr
    obtain ⟨hlt, -⟩ := List.getElem?_eq_some_iff.mp hjob
    rw [List.mem_singleton.mp hr'] at hlt
    exact Nat.lt_irrefl _ hlt
  · intro r hr
    rcases List.mem_append.mp hr with hr | hr
    · obtain ⟨job, hjob, hqueued⟩ := h.queued r hr
      exact ⟨job, hold r job hjob, hqueued⟩
    · rw [List.mem_singleton.mp hr]
      exact ⟨.new handler, by simp, rfl⟩
  · intro i object hobject r hr
    obtain ⟨job, hjob, hqueued⟩ := h.senderQueued i object hobject r hr
    exact ⟨job, hold r job hjob, hqueued⟩

/-! ### Senders -/

theorem IsLive.append {i : Nat} (h : s.IsLive i) (object : SenderObject) :
    ({ s with senders := s.senders ++ [object] } : RestSystem).IsLive i := by
  obtain ⟨found, hi, hlive⟩ := h
  obtain ⟨hlt, -⟩ := List.getElem?_eq_some_iff.mp hi
  exact ⟨found, (List.getElem?_append_left hlt).trans hi, hlive⟩

theorem Sound.addSender (h : s.Sound) (trackerId : IncidentTrackerIdType) :
    ({ s with senders := s.senders ++ [⟨trackerId, [], false, false⟩] } : RestSystem).Sound := by
  refine ⟨h.accounted, ?_, ?_, h.nodup, h.queued, ?_, ?_⟩
  · intro job hjob i hneeds
    exact (h.live job hjob i hneeds).append _
  · intro object hobject hdestroyed
    rcases List.mem_append.mp hobject with hobject | hobject
    · exact h.destroyed object hobject hdestroyed
    · rw [List.mem_singleton.mp hobject] at hdestroyed
      cases hdestroyed
  · intro object hobject
    rcases List.mem_append.mp hobject with hobject | hobject
    · exact h.senderNodup object hobject
    · rw [List.mem_singleton.mp hobject]
      exact List.nodup_nil
  · intro i object hobject r hr
    by_cases hlt : i < s.senders.length
    · rw [show _ = (s.senders ++ [_])[i]? from rfl, List.getElem?_append_left hlt] at hobject
      exact h.senderQueued i object hobject r hr
    · rw [show _ = (s.senders ++ [_])[i]? from rfl,
        List.getElem?_append_right (Nat.le_of_not_lt hlt)] at hobject
      rw [List.mem_singleton.mp (List.mem_of_getElem? hobject)] at hr
      cases hr

/-- The object that is found is in the map, and a new one is too. -/
theorem Sound.getSender (h : s.Sound) (trackerExists : IncidentTrackerIdType → Bool)
    (trackerId : IncidentTrackerIdType) :
    (s.getSender trackerExists trackerId).1.Sound ∧
      (s.getSender trackerExists trackerId).1.jobs = s.jobs ∧
      (s.getSender trackerExists trackerId).1.restJobQueue = s.restJobQueue ∧
      ∀ i, (s.getSender trackerExists trackerId).2 = some i →
        (s.getSender trackerExists trackerId).1.IsLive i := by
  unfold RestSystem.getSender
  split
  next i hi =>
    refine ⟨h, rfl, rfl, fun j hj => ?_⟩
    obtain rfl := Option.some.inj hj
    obtain ⟨hlt, hfound, -⟩ := List.findIdx?_eq_some_iff_getElem.mp hi
    rw [Bool.and_eq_true] at hfound
    refine ⟨s.senders[i], List.getElem?_eq_getElem hlt, by simpa using hfound.2, ?_⟩
    have hdestroyed := h.destroyed s.senders[i] (List.getElem_mem hlt)
    rw [Bool.eq_false_iff]
    intro htrue
    have hexit := hdestroyed htrue
    simp [hexit] at hfound
  next =>
    split
    next =>
      refine ⟨h.addSender trackerId, rfl, rfl, fun j hj => ?_⟩
      obtain rfl := Option.some.inj hj
      exact ⟨⟨trackerId, [], false, false⟩, by simp, rfl, rfl⟩
    next => exact ⟨h, rfl, rfl, nofun⟩

theorem getElem?_setSender {i : Nat} {old : SenderObject} (hi : s.senders[i]? = some old)
    (new : SenderObject) (j : Nat) :
    (s.setSender i new).senders[j]? = if j = i then some new else s.senders[j]? := by
  obtain ⟨hlt, -⟩ := List.getElem?_eq_some_iff.mp hi
  simp only [setSender, List.getElem?_set]
  by_cases heq : i = j
  · subst heq
    simp [hlt]
  · simp [heq, Ne.symm heq]

/-- A sender changes, and its queue holds requests that wait for it. -/
theorem Sound.setSender (h : s.Sound) {i : Nat} {old new : SenderObject}
    (hi : s.senders[i]? = some old) (hdestroyed : new.isDestroyed → new.exitRequested)
    (hlive : (new.exitRequested = old.exitRequested ∧ new.isDestroyed = old.isDestroyed) ∨
      ∀ job ∈ s.jobs, ¬ (job.isPushedTo i ∨ job.waitsFor i))
    (hnodup : new.queue.Nodup)
    (hqueue : ∀ r ∈ new.queue, ∃ job, s.jobs[r]? = some job ∧ job.sender = .queued i) :
    (s.setSender i new).Sound := by
  refine ⟨h.accounted, ?_, ?_, h.nodup, h.queued, ?_, ?_⟩
  · intro job hjob j hneeds
    obtain ⟨object, hobject, hexit, hgone⟩ := h.live job hjob j hneeds
    by_cases heq : j = i
    · subst heq
      obtain rfl := Option.some.inj (hi.symm.trans hobject)
      rcases hlive with ⟨hsame, hsame'⟩ | hnone
      · refine ⟨new, ?_, hsame.trans hexit, hsame'.trans hgone⟩
        rw [getElem?_setSender hi, if_pos rfl]
      · exact absurd hneeds (hnone job hjob)
    · refine ⟨object, ?_, hexit, hgone⟩
      rw [getElem?_setSender hi, if_neg heq]
      exact hobject
  · intro object hobject
    rcases List.mem_or_eq_of_mem_set hobject with hold | rfl
    · exact h.destroyed object hold
    · exact hdestroyed
  · intro object hobject
    rcases List.mem_or_eq_of_mem_set hobject with hold | rfl
    · exact h.senderNodup object hold
    · exact hnodup
  · intro j object hobject r hr
    rw [getElem?_setSender hi] at hobject
    by_cases heq : j = i
    · subst heq
      rw [if_pos rfl] at hobject
      obtain rfl := Option.some.inj hobject
      exact hqueue r hr
    · rw [if_neg heq] at hobject
      exact h.senderQueued j object hobject r hr

/-! ### Steps -/

/-- The callback of a sender comes after the worker has looked for a reply, and a sender is deleted
    when it has no job before it and none is handed to it. -/
def Orderly (s : RestSystem) : RestEvent → Prop
  | .sender r => ∀ job ∈ s.jobs[r]?, job.isSending → job.isTested
  | .deleteSender i => ∀ job ∈ s.jobs, ¬ (job.isPushedTo i ∨ job.waitsFor i)
  | _ => True

theorem Sound.popJob (h : s.Sound) {r : Nat} {restJobQueue : List Nat} {job : RestJob}
    (hqueue : s.restJobQueue = r :: restJobQueue) (hr : s.jobs[r]? = some job) (worker : Nat) :
    ({ s.setJob r { job with worker := .handling worker } with
      restJobQueue := restJobQueue } : RestSystem).Sound := by
  obtain ⟨hnot, hnodup⟩ := List.nodup_cons.mp (hqueue ▸ h.nodup)
  obtain ⟨job', hjob', hworker⟩ := h.queued r (by rw [hqueue]; exact List.mem_cons_self)
  obtain rfl := Option.some.inj (hr.symm.trans hjob')
  have hshorter : ({ s with restJobQueue := restJobQueue } : RestSystem).Sound :=
    ⟨h.accounted, h.live, h.destroyed, hnodup,
      fun j hj => h.queued j (by rw [hqueue]; exact List.mem_cons_of_mem r hj), h.senderNodup,
      h.senderQueued⟩
  refine Sound.setJob hshorter hr ?_ ?_ (.inr hnot) (.inl rfl)
  · have haccounted := h.accounted job (List.mem_of_getElem? hr)
    unfold RestJob.Accounted at haccounted ⊢
    rw [hworker] at haccounted
    cases hsender : job.sender <;> rw [hsender] at haccounted <;> exact haccounted
  · intro i hneeds
    refine h.live job (List.mem_of_getElem? hr) i (Or.inr ?_)
    rcases hneeds with hneeds | hneeds
    · cases hneeds
    · exact hneeds

theorem Sound.senderPopJob (h : s.Sound) {i r : Nat} {trackerId : IncidentTrackerIdType}
    {queue : List Nat} {job : RestJob}
    (hi : s.senders[i]? = some ⟨trackerId, r :: queue, false, false⟩)
    (hr : s.jobs[r]? = some job) :
    ((s.setJob r { job with sender := .popped i }).setSender i
      ⟨trackerId, queue, false, false⟩).Sound := by
  have hnodup := h.senderNodup _ (List.mem_of_getElem? hi)
  obtain ⟨hnot, hnodup⟩ := List.nodup_cons.mp hnodup
  obtain ⟨job', hjob', hsender⟩ := h.senderQueued i _ hi r List.mem_cons_self
  obtain rfl := Option.some.inj (hr.symm.trans hjob')
  have hlive : s.IsLive i := ⟨_, hi, rfl, rfl⟩
  have hshorter : (s.setSender i ⟨trackerId, queue, false, false⟩).Sound :=
    h.setSender hi nofun (.inl ⟨rfl, rfl⟩) hnodup fun j hj =>
      h.senderQueued i _ hi j (List.mem_cons_of_mem r hj)
  refine Sound.setJob (s := s.setSender i ⟨trackerId, queue, false, false⟩) hshorter hr ?_ ?_
    (.inl rfl) (.inr ?_)
  · exact (h.accounted job (List.mem_of_getElem? hr)).popped hsender
  · intro j hneeds
    have hj : j = i ∨ job.isPushedTo j := by
      rcases hneeds with hneeds | hneeds
      · exact Or.inr hneeds
      · exact Or.inl (of_decide_eq_true hneeds).symm
    rcases hj with rfl | hpushed
    · exact ⟨_, by rw [getElem?_setSender hi, if_pos rfl], rfl, rfl⟩
    · exact hshorter.live job (List.mem_of_getElem? hr) j (Or.inl hpushed)
  · intro object hobject hmem
    obtain ⟨j, hj⟩ := List.mem_iff_getElem?.mp hobject
    rw [getElem?_setSender hi] at hj
    by_cases heq : j = i
    · rw [if_pos heq] at hj
      obtain rfl := Option.some.inj hj
      exact hnot hmem
    · rw [if_neg heq] at hj
      obtain ⟨job', hjob', hsender'⟩ := h.senderQueued j object hj r hmem
      obtain rfl := Option.some.inj (hr.symm.trans hjob')
      exact heq (SenderPhase.queued.inj (hsender'.symm.trans hsender))

theorem Sound.destroySender (h : s.Sound) {i : Nat} {object : SenderObject}
    (hi : s.senders[i]? = some object) (hexit : object.exitRequested) :
    ({ s.setSender i { object with queue := [], isDestroyed := true } with
      jobs := s.jobs.map fun job =>
        if job.sender = .queued i then { job with sender := .deleted } else job } :
      RestSystem).Sound := by
  have hnone : ∀ job ∈ s.jobs, ¬ (job.isPushedTo i ∨ job.waitsFor i) := by
    intro job hjob hneeds
    obtain ⟨object', hobject', hrunning, -⟩ := h.live job hjob i hneeds
    obtain rfl := Option.some.inj (hi.symm.trans hobject')
    rw [hrunning] at hexit
    cases hexit
  -- nobody waits for a sender that is being deleted
  have hsame : (s.jobs.map fun job =>
      if job.sender = .queued i then { job with sender := .deleted } else job) = s.jobs := by
    conv_rhs => rw [← List.map_id s.jobs]
    refine List.map_congr_left fun job hjob => ?_
    rw [if_neg, id]
    intro hqueued
    refine hnone job hjob (Or.inr ?_)
    rw [RestJob.waitsFor, hqueued]
    exact decide_eq_true rfl
  rw [hsame]
  exact h.setSender hi (fun _ => hexit) (.inr hnone) List.nodup_nil nofun

/-- A request goes on without another sender. -/
theorem live_of_job (h : s.Sound) {r : Nat} {old new : RestJob} (hr : s.jobs[r]? = some old)
    (hpushed : ∀ i, new.isPushedTo i → old.isPushedTo i)
    (hwaits : ∀ i, new.waitsFor i → old.isPushedTo i ∨ old.waitsFor i) :
    ∀ i, new.isPushedTo i ∨ new.waitsFor i → s.IsLive i := by
  intro i hneeds
  refine h.live old (List.mem_of_getElem? hr) i ?_
  rcases hneeds with hneeds | hneeds
  · exact Or.inl (hpushed i hneeds)
  · exact hwaits i hneeds

theorem Sound.handle (h : s.Sound) (trackerExists : IncidentTrackerIdType → Bool) {r : Nat}
    {job : RestJob} {worker : Nat} (hr : s.jobs[r]? = some job)
    (hworker : job.worker = .handling worker) : (s.handle trackerExists r job worker).Sound := by
  have haccounted := h.accounted job (List.mem_of_getElem? hr)
  have hnot := h.notMem_restJobQueue hr (by rw [hworker]; nofun)
  unfold RestSystem.handle
  split
  next =>
    exact h.setJob hr (haccounted.replied hworker)
      (live_of_job h hr nofun fun i hi => Or.inr hi) (.inr hnot) (.inl rfl)
  next trackerId _ =>
    obtain ⟨hsound, hjobs, hrest, hlive⟩ := h.getSender trackerExists trackerId
    rw [← hjobs] at hr
    rw [← hrest] at hnot
    split
    next s' i heq =>
      rw [heq] at hsound hr hlive hnot
      refine hsound.setJob hr (haccounted.pushing hworker i) ?_ (.inr hnot) (.inl rfl)
      rintro j (hneeds | hneeds)
      · obtain rfl : i = j := of_decide_eq_true hneeds
        exact hlive i rfl
      · have hwaits : job.waitsFor j := hneeds
        rw [RestJob.waitsFor, (haccounted.handling hworker).1] at hwaits
        cases hwaits
    next s' heq =>
      rw [heq] at hsound hr hnot
      exact hsound.setJob hr (haccounted.refused hworker)
        (live_of_job hsound hr nofun fun i hi => Or.inr hi) (.inr hnot) (.inl rfl)

theorem Sound.pushJob (h : s.Sound) {r : Nat} {job : RestJob} {worker i : Nat}
    (hr : s.jobs[r]? = some job) (hworker : job.worker = .pushing worker i) :
    (s.pushJob r job worker i).Sound := by
  have hnot := h.notMem_restJobQueue hr (by rw [hworker]; nofun)
  obtain ⟨hsender, hpushed⟩ := (h.accounted job (List.mem_of_getElem? hr)).pushed hworker
  have hpushedTo : job.isPushedTo i := by
    rw [RestJob.isPushedTo, hworker]
    exact decide_eq_true rfl
  obtain ⟨object, hobject, hexit, hgone⟩ :=
    h.live job (List.mem_of_getElem? hr) i (Or.inl hpushedTo)
  have hfree := h.notMem_queue hr (by rw [hsender]; nofun)
  have hwaits : ∀ j,
      RestJob.waitsFor { job with worker := .testing worker, sender := .queued i } j →
      job.isPushedTo j ∨ job.waitsFor j := by
    intro j hj
    obtain rfl : i = j := of_decide_eq_true hj
    exact Or.inl hpushedTo
  have hsound := h.setJob hr hpushed (live_of_job h hr nofun hwaits) (.inr hnot) (.inr hfree)
  unfold RestSystem.pushJob
  rw [hobject]
  simp only [hgone, Bool.false_eq_true, if_false]
  refine hsound.setSender hobject nofun (.inl ⟨rfl, hgone.symm⟩) ?_ ?_
  · refine List.nodup_append.mpr
      ⟨h.senderNodup object (List.mem_of_getElem? hobject), List.nodup_singleton r, ?_⟩
    rintro j hj j' hj' rfl
    rw [List.mem_singleton.mp hj'] at hj
    exact hfree object (List.mem_of_getElem? hobject) hj
  · intro j hj
    rcases List.mem_append.mp hj with hj | hj
    · exact hsound.senderQueued i object hobject j hj
    · rw [List.mem_singleton.mp hj]
      exact ⟨_, by rw [getElem?_setJob hr, if_pos rfl], rfl⟩

theorem Sound.stepWorker (h : s.Sound) (trackerExists : IncidentTrackerIdType → Bool) (r : Nat) :
    (s.stepWorker trackerExists r).Sound := by
  unfold RestSystem.stepWorker
  split
  next => exact h
  next job hr =>
    have haccounted := h.accounted job (List.mem_of_getElem? hr)
    split
    next worker hworker => exact h.handle trackerExists hr hworker
    next worker i hworker => exact h.pushJob hr hworker
    next worker hworker =>
      have hnot := h.notMem_restJobQueue hr (by rw [hworker]; nofun)
      refine h.setJob hr (haccounted.tested hworker) (live_of_job h hr ?_ ?_) (.inr hnot) ?_
      · intro i
        split <;> nofun
      · intro i
        split <;> exact fun hi => Or.inr hi
      · split <;> exact .inl rfl
    next worker hworker =>
      have hnot := h.notMem_restJobQueue hr (by rw [hworker]; nofun)
      exact h.setJob hr (haccounted.unpaused hworker)
        (live_of_job h hr nofun fun i hi => Or.inr hi) (.inr hnot) (.inl rfl)
    next worker hworker =>
      have hnot := h.notMem_restJobQueue hr (by rw [hworker]; nofun)
      exact h.setJob hr (haccounted.unreffed hworker)
        (live_of_job h hr nofun fun i hi => Or.inr hi) (.inr hnot) (.inl rfl)
    next => exact h

theorem Sound.stepSender (h : s.Sound) {r : Nat} (horderly : s.Orderly (.sender r)) :
    (s.stepSender r).Sound := by
  unfold RestSystem.stepSender
  split
  next => exact h
  next job hr =>
    have haccounted := h.accounted job (List.mem_of_getElem? hr)
    have hfree : (∀ i, job.sender ≠ .queued i) → ∀ object ∈ s.senders, r ∉ object.queue :=
      h.notMem_queue hr
    split
    next i hsender =>
      have hwaits : job.waitsFor i := by
        rw [RestJob.waitsFor, hsender]
        exact decide_eq_true rfl
      obtain ⟨object, hobject, hexit, -⟩ := h.live job (List.mem_of_getElem? hr) i (Or.inr hwaits)
      rw [if_neg (by simp [hobject, hexit])]
      exact h.setJob hr (haccounted.sending hsender)
        (live_of_job h hr (fun i hi => hi) nofun) (.inl rfl) (.inr (hfree (by rw [hsender]; nofun)))
    next i hsender =>
      have htested := horderly job hr (by rw [RestJob.isSending, hsender])
      exact h.setJob hr (haccounted.called hsender htested)
        (live_of_job h hr (fun i hi => hi) nofun) (.inl rfl) (.inr (hfree (by rw [hsender]; nofun)))
    next i hsender =>
      exact h.setJob hr (haccounted.callbackUnpaused hsender)
        (live_of_job h hr (fun i hi => hi) nofun) (.inl rfl) (.inr (hfree (by rw [hsender]; nofun)))
    next i hsender =>
      exact h.setJob hr (haccounted.callbackUnreffed hsender)
        (live_of_job h hr (fun i hi => hi) nofun) (.inl rfl) (.inr (hfree (by rw [hsender]; nofun)))
    next => exact h

theorem Sound.step (h : s.Sound) (trackerExists : IncidentTrackerIdType → Bool) {event : RestEvent}
    (horderly : s.Orderly event) : (s.step trackerExists event).Sound := by
  cases event with
  | queueRestJob handler => exact h.queueRestJob handler
  | popJob worker =>
    simp only [RestSystem.step]
    split
    next => exact h
    next =>
      split
      next => exact h
      next r restJobQueue hqueue =>
        split
        next job hr => exact h.popJob hqueue hr worker
        next => exact h
  | worker r => exact h.stepWorker trackerExists r
  | senderPopJob i =>
    simp only [RestSystem.step]
    split
    next => exact h
    next =>
      split
      next trackerId r queue hi =>
        split
        next job hr => exact h.senderPopJob hi hr
        next => exact h
      next => exact h
  | sender r => exact h.stepSender horderly
  | deleteSender i =>
    simp only [RestSystem.step]
    split
    next object hi =>
      exact h.setSender hi (fun _ => rfl) (.inr horderly)
        (h.senderNodup object (List.mem_of_getElem? hi)) (h.senderQueued i object hi)
    next => exact h
  | destroySender i =>
    simp only [RestSystem.step]
    split
    next object hi =>
      split
      next hended => exact h.destroySender hi hended.1
      next => exact h
    next => exact h

instance decidableOrderly (s : RestSystem) (event : RestEvent) : Decidable (s.Orderly event) :=
  match event with
  | .queueRestJob _ => instDecidableTrue
  | .popJob _ => instDecidableTrue
  | .worker _ => instDecidableTrue
  | .senderPopJob _ => instDecidableTrue
  | .sender r => inferInstanceAs (Decidable (∀ job ∈ s.jobs[r]?, job.isSending → job.isTested))
  | .deleteSender i =>
      inferInstanceAs (Decidable (∀ job ∈ s.jobs, ¬ (job.isPushedTo i ∨ job.waitsFor i)))
  | .destroySender _ => instDecidableTrue

/-- Every step of the run is orderly. -/
def RunsOrderly (trackerExists : IncidentTrackerIdType → Bool) (s : RestSystem) :
    List RestEvent → Prop
  | [] => True
  | event :: events =>
      s.Orderly event ∧ RunsOrderly trackerExists (s.step trackerExists event) events

instance decidableRunsOrderly (trackerExists : IncidentTrackerIdType → Bool) (s : RestSystem)
    (events : List RestEvent) : Decidable (s.RunsOrderly trackerExists events) :=
  match events with
  | [] => instDecidableTrue
  | event :: events =>
      have := decidableRunsOrderly trackerExists (s.step trackerExists event) events
      instDecidableAnd

theorem Sound.run (h : s.Sound) (trackerExists : IncidentTrackerIdType → Bool)
    {events : List RestEvent} (horderly : s.RunsOrderly trackerExists events) :
    (s.run trackerExists events).Sound := by
  induction events generalizing s with
  | nil => exact h
  | cons event events ih => exact ih (h.step trackerExists horderly.1) horderly.2

end RestSystem

namespace RestJob

/-- Neither a worker nor a sender has anything left to do. -/
def isOver (job : RestJob) : Bool :=
  match job.worker, job.sender with
  | .done, .none => true
  | .done, .done => true
  | .done, .deleted => true
  | _, _ => false

/-- The message is unpaused once at most, after the one reply, and the job deleted after that. When
    nothing is left to do, all this has been done. -/
def AnsweredOnce (job : RestJob) : Prop :=
  (job.bodies ≤ 1 ∧ job.unpauses ≤ job.bodies ∧ job.deletions ≤ job.unpauses ∧
      (job.deletions = 1 ↔ job.usedCount = 0)) ∧
    (job.isOver → job.bodies = 1 ∧ job.unpauses = 1 ∧ job.deletions = 1)

instance (job : RestJob) : Decidable job.AnsweredOnce := inferInstanceAs (Decidable (_ ∧ _))

theorem Accounted.answeredOnce {job : RestJob} (h : job.Accounted) : job.AnsweredOnce := by
  unfold Accounted at h
  unfold AnsweredOnce isOver
  cases hworker : job.worker <;> cases hsender : job.sender <;> rw [hworker, hsender] at h <;>
    first
    | exact h.elim
    | (obtain ⟨hused, -, hbodies, hunpauses, hdeletions⟩ := h
       simp [hused, hbodies, hunpauses, hdeletions])

end RestJob

open RestSystem

/-- (FaceRest.cc:213-236, RestResourceIncident.cc:236-327) Workers and senders answer requests in any
    order of their steps. If a callback always comes after the worker has looked for a reply, and no
    sender is deleted with jobs before it, then every request is answered once. -/
theorem requests_answered_once (trackerExists : IncidentTrackerIdType → Bool)
    (events : List RestEvent) (horderly : RestSystem.start.RunsOrderly trackerExists events) :
    ∀ job ∈ (RestSystem.start.run trackerExists events).jobs, job.AnsweredOnce := by
  intro job hjob
  exact ((sound_start.run trackerExists horderly).accounted job hjob).answeredOnce

/-! A request for an incident of tracker 1. -/

/-- A worker takes the request and queues the job. -/
def queuesIncident : List RestEvent :=
  [.queueRestJob (.sendsIncident 1), .popJob 0, .worker 0, .worker 0]

/-- The sender takes the job, replies, unpauses the message and drops its reference. -/
def callsBack : List RestEvent :=
  [.senderPopJob 0, .sender 0, .sender 0, .sender 0, .sender 0]

theorem requests_answered_once_slow_sender :
    ((RestSystem.start.run (fun _ => true)
      (queuesIncident ++ [.worker 0, .worker 0] ++ callsBack ++
        [.deleteSender 0, .destroySender 0])).jobs.all fun job => decide job.AnsweredOnce) = true :=
  List.all_eq_true.mpr fun job hjob => decide_eq_true
    (requests_answered_once (fun _ => true)
      (queuesIncident ++ [.worker 0, .worker 0] ++ callsBack ++
        [.deleteSender 0, .destroySender 0]) (by decide) job hjob)

/-- A sender that is faster than the worker makes it unpause the message again; a job that is queued
    when its sender is deleted is never answered. -/
theorem request_answered_twice_or_never :
    (∃ job ∈ (RestSystem.start.run (fun _ => true)
        (queuesIncident ++ callsBack ++ [.worker 0, .worker 0, .worker 0])).jobs,
      job.isOver ∧ job.unpauses = 2) ∧
    (∃ job ∈ (RestSystem.start.run (fun _ => true)
        (queuesIncident ++ [.worker 0, .worker 0, .deleteSender 0, .destroySender 0])).jobs,
      job.isOver ∧ job.unpauses = 0 ∧ job.bodies = 0 ∧ job.deletions = 0) := by
  decide

end Hatohol

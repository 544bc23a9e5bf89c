import Hatohol.IncidentSenderThread
import Hatohol.Machine.Steps

/-!
# What a job's callback is told

The statuses of a job are those of its place: in the queue, with the thread, or behind it. An exit
that is requested drops what the thread has not begun to send, and ends the retries of what it has.
-/

namespace Hatohol

open Machine

/-! ## The words of statuses -/

namespace JobStatus

/-- QUEUED STARTED (WAITING_RETRY RETRYING)*, with the number of the retries. -/
def begun : Nat → List JobStatus
  | 0 => [.queued, .started]
  | i + 1 => begun i ++ [.waitingRetry, .retrying]

/-- A job that is reported to its end. -/
def Complete (word : List JobStatus) : Prop :=
  ∃ i, word = begun i ++ [.succeeded] ∨ word = begun i ++ [.failed]

/-- An exit is requested while the job waits for a retry. -/
def CutShort (word : List JobStatus) : Prop := ∃ i, word = begun i ++ [.waitingRetry, .failed]

/-- The statuses of a job that the thread has left, with the number of times that it has been sent.
    It has been skipped or cut short only by an exit. -/
inductive Left (retryLimit : Nat) (exitRequested : Bool) : List JobStatus → Nat → Prop where
  | skipped : exitRequested → Left retryLimit exitRequested (begun 0) 0
  | succeeded (i : Nat) : i ≤ retryLimit →
      Left retryLimit exitRequested (begun i ++ [.succeeded]) (i + 1)
  | failed (i : Nat) : i ≤ retryLimit → Left retryLimit exitRequested (begun i ++ [.failed]) (i + 1)
  | cutShort (i : Nat) : i ≤ retryLimit → exitRequested →
      Left retryLimit exitRequested (begun i ++ [.waitingRetry, .failed]) (i + 1)

theorem Left.of_exitRequested {retryLimit : Nat} {exitRequested : Bool} {word : List JobStatus}
    {count : Nat} (hleft : Left retryLimit exitRequested word count) :
    Left retryLimit true word count := by
  cases hleft with
  | skipped => exact .skipped rfl
  | succeeded i hi => exact .succeeded i hi
  | failed i hi => exact .failed i hi
  | cutShort i hi => exact .cutShort i hi rfl

theorem length_begun (i : Nat) : (begun i).length = 2 * i + 2 := by
  induction i with
  | zero => rfl
  | succ i ih =>
    rw [begun, List.length_append, ih]
    rfl

section

variable {retryLimit count : Nat} {exitRequested : Bool} {word : List JobStatus}

theorem Left.count_le (hleft : Left retryLimit exitRequested word count) :
    count ≤ retryLimit + 1 := by
  cases hleft <;> omega

/-- What has been sent has ended. -/
theorem Left.ended (hleft : Left retryLimit exitRequested word count) (hsent : 0 < count) :
    Complete word ∨ CutShort word := by
  cases hleft with
  | skipped => exact absurd hsent (Nat.lt_irrefl 0)
  | succeeded i => exact .inl ⟨i, .inl rfl⟩
  | failed i => exact .inl ⟨i, .inr rfl⟩
  | cutShort i => exact .inr ⟨i, rfl⟩

theorem Left.complete (hleft : Left retryLimit false word count) : Complete word := by
  cases hleft with
  | skipped hexit => cases hexit
  | succeeded i => exact ⟨i, .inl rfl⟩
  | failed i => exact ⟨i, .inr rfl⟩
  | cutShort i _ hexit => cases hexit

theorem begun_prefix (i : Nat) : ∃ word, Complete word ∧ begun i <+: word :=
  ⟨_, ⟨i, .inl rfl⟩, ⟨_, rfl⟩⟩

theorem waitingRetry_prefix (i : Nat) :
    ∃ word, Complete word ∧ begun i ++ [.waitingRetry] <+: word := by
  refine ⟨begun (i + 1) ++ [.succeeded], ⟨i + 1, .inl rfl⟩, ⟨[.retrying, .succeeded], ?_⟩⟩
  rw [begun, List.append_assoc, List.append_assoc]
  rfl

theorem Left.begins (hleft : Left retryLimit exitRequested word count) :
    ∃ whole, (Complete whole ∨ CutShort whole) ∧ word <+: whole := by
  cases hcount : count with
  | zero =>
    obtain rfl : word = begun 0 := by
      cases hleft with
      | skipped => rfl
      | _ => cases hcount
    exact ⟨_, .inl ⟨0, .inl rfl⟩, ⟨_, rfl⟩⟩
  | succ n => exact ⟨word, hleft.ended (hcount ▸ Nat.succ_pos n), List.prefix_rfl⟩

end

end JobStatus

open JobStatus

def SenderStage.job : SenderStage → Option Nat
  | .started job | .sending job _ | .refused job _ | .sleeping job _ => some job
  | .waiting | .exited => none

namespace IncidentSender

/-! ## The log of a job -/

section Log

variable (s : IncidentSender) (job : Nat)

theorem statuses_notifyStatus (status : JobStatus) (other : Nat) :
    (s.notifyStatus job status).statuses other =
      s.statuses other ++ if job = other then [status] else [] := by
  rw [statuses, notifyStatus, List.filter_append, List.map_append, ← statuses]
  by_cases h : job = other <;> simp [h]

theorem statuses_notifyStatus_self (status : JobStatus) :
    (s.notifyStatus job status).statuses job = s.statuses job ++ [status] := by
  rw [statuses_notifyStatus, if_pos rfl]

theorem statuses_notifyStatus_of_ne (status : JobStatus) {other : Nat} (hne : other ≠ job) :
    (s.notifyStatus job status).statuses other = s.statuses other := by
  rw [statuses_notifyStatus, if_neg hne.symm, List.append_nil]

theorem startedJobs_notifyStatus {status : JobStatus} (hne : status ≠ .started) :
    (s.notifyStatus job status).startedJobs = s.startedJobs := by
  rw [startedJobs, notifyStatus, List.filter_append, List.map_append, ← startedJobs]
  simp [hne]

theorem startedJobs_notifyStatus_started :
    (s.notifyStatus job .started).startedJobs = s.startedJobs ++ [job] := by
  rw [startedJobs, notifyStatus, List.filter_append, List.map_append, ← startedJobs]
  simp

end Log

/-! ## The invariant -/

/-- What the callback of a job has been told, and how often the job has been sent. -/
def Told (s : IncidentSender) (job : Nat) (word : List JobStatus) (count : Nat) : Prop :=
  s.statuses job = word ∧ s.sends.count job = count

/-- The job that is with the thread. -/
def CurrentTold (s : IncidentSender) : Prop :=
  match s.thread with
  | .started job => s.Told job (begun 0) 0
  | .sending job i => i ≤ s.retryLimit ∧ s.Told job (begun i) i
  | .refused job i => i < s.retryLimit ∧ s.Told job (begun i) (i + 1)
  | .sleeping job i => i < s.retryLimit ∧ s.Told job (begun i ++ [.waitingRetry]) (i + 1)
  | .waiting | .exited => True

structure Sound (limit : Nat) (s : IncidentSender) : Prop where
  limit : s.retryLimit = limit
  order : s.startedJobs = List.range s.startedJobs.length
  bound : s.startedJobs.length ≤ s.queued
  queue : s.deleted = false →
    s.queue = List.range' s.startedJobs.length (s.queued - s.startedJobs.length)
  gone : s.deleted → s.thread = .exited
  last : ∀ job, s.thread.job = some job → job + 1 = s.startedJobs.length
  current : s.CurrentTold
  fresh : ∀ job, s.queued ≤ job → s.Told job [] 0
  waiting : ∀ job, s.startedJobs.length ≤ job → job < s.queued → s.Told job [.queued] 0
  left : ∀ job, job < s.startedJobs.length → s.thread.job ≠ some job →
    JobStatus.Left s.retryLimit s.exitRequested (s.statuses job) (s.sends.count job)

/-- A step of the thread for its job, which leaves the others alone. -/
structure Turn (s s' : IncidentSender) (job : Nat) : Prop where
  retryLimit : s'.retryLimit = s.retryLimit
  queue : s'.queue = s.queue
  exitRequested : s'.exitRequested = s.exitRequested
  queued : s'.queued = s.queued
  deleted : s'.deleted = s.deleted
  startedJobs : s'.startedJobs = s.startedJobs
  statuses : ∀ other, other ≠ job → s'.statuses other = s.statuses other
  sends : ∀ other, other ≠ job → s'.sends.count other = s.sends.count other

variable {limit : Nat} {s s' : IncidentSender} {job : Nat}

theorem Told.of_turn {other : Nat} {word : List JobStatus} {count : Nat} (hturn : Turn s s' job)
    (hne : other ≠ job) (htold : s.Told other word count) : s'.Told other word count :=
  ⟨(hturn.statuses other hne).trans htold.1, (hturn.sends other hne).trans htold.2⟩

theorem Told.left {word : List JobStatus} {count retryLimit : Nat} {exitRequested : Bool}
    (htold : s.Told job word count) (hleft : Left retryLimit exitRequested word count) :
    Left retryLimit exitRequested (s.statuses job) (s.sends.count job) := by
  rwa [htold.1, htold.2]

/-- The job stays with the thread, or it is left. -/
theorem sound_turn (hsound : s.Sound limit) (hjob : s.thread.job = some job)
    (hturn : Turn s s' job)
    (hjob' : s'.thread.job = some job ∧ s'.CurrentTold ∨ s'.thread = .waiting ∧
      Left s.retryLimit s.exitRequested (s'.statuses job) (s'.sends.count job)) :
    s'.Sound limit := by
  have hlast := hsound.last job hjob
  have hbound := hsound.bound
  have hpresent : s.deleted = false := by
    by_contra hdeleted
    rw [hsound.gone (Bool.not_eq_false _ ▸ hdeleted)] at hjob
    cases hjob
  refine
    { limit := hturn.retryLimit.trans hsound.limit
      order := by rw [hturn.startedJobs]; exact hsound.order
      bound := by rw [hturn.startedJobs, hturn.queued]; exact hbound
      queue := fun _ => by
        rw [hturn.startedJobs, hturn.queued, hturn.queue]
        exact hsound.queue hpresent
      gone := fun hdeleted => by
        rw [hturn.deleted, hpresent] at hdeleted
        cases hdeleted
      last := ?_
      current := ?_
      fresh := fun other hfresh => ?_
      waiting := fun other hstarted hqueued => ?_
      left := fun other hstarted hother => ?_ }
  · rw [hturn.startedJobs]
    intro other hother
    obtain ⟨hsame, _⟩ | ⟨hwaiting, _⟩ := hjob'
    · rw [hsame] at hother
      exact Option.some.inj hother ▸ hlast
    · rw [hwaiting] at hother
      cases hother
  · obtain ⟨_, hcurrent⟩ | ⟨hwaiting, _⟩ := hjob'
    · exact hcurrent
    · rw [CurrentTold, hwaiting]
      trivial
  · rw [hturn.queued] at hfresh
    exact (hsound.fresh other hfresh).of_turn hturn (by omega)
  · rw [hturn.startedJobs] at hstarted
    rw [hturn.queued] at hqueued
    exact (hsound.waiting other hstarted hqueued).of_turn hturn (by omega)
  · rw [hturn.startedJobs] at hstarted
    rw [hturn.retryLimit, hturn.exitRequested]
    by_cases hsame : other = job
    · obtain ⟨hkeeps, _⟩ | ⟨_, hleft⟩ := hjob'
      · exact absurd (hsame ▸ hkeeps) hother
      · exact hsame ▸ hleft
    · rw [hturn.statuses other hsame, hturn.sends other hsame]
      refine hsound.left other hstarted ?_
      rw [hjob]
      exact fun h => hsame (Option.some.inj h).symm

theorem Sound.unstarted (hsound : s.Sound limit) (hstarted : ¬job < s.startedJobs.length) :
    s.sends.count job = 0 := by
  by_cases hqueued : job < s.queued
  · exact (hsound.waiting job (Nat.le_of_not_lt hstarted) hqueued).2
  · exact (hsound.fresh job (Nat.le_of_not_lt hqueued)).2

/-! ## Steps -/

theorem sound_new (limit : Nat) : (new limit).Sound limit where
  limit := rfl
  order := rfl
  bound := Nat.zero_le _
  queue := fun _ => rfl
  gone := fun h => nomatch h
  last := fun _ h => nomatch h
  current := trivial
  fresh := fun _ _ => ⟨rfl, rfl⟩
  waiting := fun _ _ h => absurd h (Nat.not_lt_zero _)
  left := fun _ h => absurd h (Nat.not_lt_zero _)

theorem turn_phase (phase : SenderStage) : Turn s { s with thread := phase } job :=
  ⟨rfl, rfl, rfl, rfl, rfl, rfl, fun _ _ => rfl, fun _ _ => rfl⟩

theorem turn_notifyStatus {phase : SenderStage} {status : JobStatus} (hne : status ≠ .started) :
    Turn s (notifyStatus { s with thread := phase } job status) job where
  retryLimit := rfl
  queue := rfl
  exitRequested := rfl
  queued := rfl
  deleted := rfl
  startedJobs := startedJobs_notifyStatus _ job hne
  statuses := fun _ hother => statuses_notifyStatus_of_ne _ job status hother
  sends := fun _ _ => rfl

theorem Turn.trans {s'' : IncidentSender} (hfirst : Turn s s' job) (hsecond : Turn s' s'' job) :
    Turn s s'' job where
  retryLimit := hsecond.retryLimit.trans hfirst.retryLimit
  queue := hsecond.queue.trans hfirst.queue
  exitRequested := hsecond.exitRequested.trans hfirst.exitRequested
  queued := hsecond.queued.trans hfirst.queued
  deleted := hsecond.deleted.trans hfirst.deleted
  startedJobs := hsecond.startedJobs.trans hfirst.startedJobs
  statuses := fun other hne => (hsecond.statuses other hne).trans (hfirst.statuses other hne)
  sends := fun other hne => (hsecond.sends other hne).trans (hfirst.sends other hne)

theorem turn_send : Turn s { s with sends := s.sends ++ [job] } job where
  retryLimit := rfl
  queue := rfl
  exitRequested := rfl
  queued := rfl
  deleted := rfl
  startedJobs := rfl
  statuses := fun _ _ => rfl
  sends := fun other hne => by
    rw [List.count_append, List.count_singleton, if_neg (by simpa using hne.symm)]
    rfl

theorem turn_endJob_send {status : JobStatus} (hne : status ≠ .started) :
    Turn s (endJob { s with sends := s.sends ++ [job] } job status) job :=
  turn_send.trans (turn_notifyStatus hne)

theorem turn_refused (i : Nat) :
    Turn s { s with sends := s.sends ++ [job], thread := .refused job i } job :=
  turn_send.trans (turn_phase (.refused job i))

theorem Told.notifyStatus {word : List JobStatus} {count : Nat} (htold : s.Told job word count)
    (status : JobStatus) : (s.notifyStatus job status).Told job (word ++ [status]) count :=
  ⟨(statuses_notifyStatus_self s job status).trans (congrArg (· ++ [status]) htold.1), htold.2⟩

theorem Told.send {word : List JobStatus} {count : Nat} (htold : s.Told job word count) :
    Told { s with sends := s.sends ++ [job] } job word (count + 1) :=
  ⟨htold.1, by rw [List.count_append, htold.2, List.count_singleton_self]⟩

theorem sound_send (hsound : s.Sound limit) {i : Nat} (hthread : s.thread = .sending job i)
    (result : SendResult) : (s.send job i result).Sound limit := by
  have hcurrent := hsound.current
  rw [CurrentTold, hthread] at hcurrent
  obtain ⟨hi, htold⟩ := hcurrent
  have hjob : s.thread.job = some job := by
    rw [hthread]
    rfl
  cases result with
  | ok =>
    refine sound_turn hsound hjob (turn_endJob_send (by decide)) (.inr ⟨rfl, ?_⟩)
    exact (htold.send.notifyStatus .succeeded).left (.succeeded i hi)
  | otherError =>
    refine sound_turn hsound hjob (turn_endJob_send (by decide)) (.inr ⟨rfl, ?_⟩)
    exact (htold.send.notifyStatus .failed).left (.failed i hi)
  | failedToSendIncident =>
    rw [IncidentSender.send]
    split
    next =>
      refine sound_turn hsound hjob (turn_endJob_send (by decide)) (.inr ⟨rfl, ?_⟩)
      exact (htold.send.notifyStatus .failed).left (.failed i hi)
    next hlimit =>
      exact sound_turn hsound hjob (turn_refused i)
        (.inl ⟨rfl, Nat.lt_of_le_of_ne hi hlimit, htold.send⟩)

/-- Where the thread has no job, it may end. -/
theorem sound_exit (hsound : s.Sound limit) (hjob : s.thread.job = none) :
    Sound limit { s with thread := .exited } where
  limit := hsound.limit
  order := hsound.order
  bound := hsound.bound
  queue := hsound.queue
  gone := fun _ => rfl
  last := fun _ h => nomatch h
  current := trivial
  fresh := hsound.fresh
  waiting := hsound.waiting
  left := fun other hstarted _ =>
    hsound.left other hstarted (by rw [hjob]; exact fun h => nomatch h)

/-- The first job of the queue is the one after those that have been started. -/
theorem sound_popJob (hsound : s.Sound limit) (hthread : s.thread = .waiting)
    (hdeleted : s.deleted = false) : s.popJob.Sound limit := by
  have hjob : s.thread.job = none := by
    rw [hthread]
    rfl
  have hqueue := hsound.queue hdeleted
  rw [popJob]
  split
  next => exact sound_exit hsound hjob
  next job rest hcons =>
    rw [hcons] at hqueue
    obtain ⟨hlt, hfirst, hrest⟩ : s.startedJobs.length < s.queued ∧ job = s.startedJobs.length ∧
        rest = List.range' (s.startedJobs.length + 1) (s.queued - (s.startedJobs.length + 1)) := by
      cases hcount : s.queued - s.startedJobs.length with
      | zero =>
        rw [hcount, List.range'_zero] at hqueue
        cases hqueue
      | succ count =>
        rw [hcount, List.range'_succ] at hqueue
        obtain ⟨hfirst, hrest⟩ := List.cons.inj hqueue
        refine ⟨by omega, hfirst, ?_⟩
        rw [hrest]
        congr 1
        omega
    have htold := hsound.waiting job (Nat.le_of_eq hfirst.symm) (hfirst ▸ hlt)
    have hstarted : (notifyStatus { s with queue := rest, thread := .started job } job
        .started).startedJobs = s.startedJobs ++ [job] :=
      startedJobs_notifyStatus_started _ job
    have hlength : (s.startedJobs ++ [job]).length = s.startedJobs.length + 1 := by simp
    have hother : ∀ other word count, other ≠ job → s.Told other word count →
        (notifyStatus { s with queue := rest, thread := .started job } job .started).Told other word
          count :=
      fun other word count hne htold =>
        ⟨(statuses_notifyStatus_of_ne _ job _ hne).trans htold.1, htold.2⟩
    refine
      { limit := hsound.limit
        order := ?_
        bound := ?_
        queue := fun _ => ?_
        gone := fun h => absurd h (by rw [Bool.not_eq_true]; exact hdeleted)
        last := fun other hjob => ?_
        current := ?_
        fresh := fun other hfresh => ?_
        waiting := fun other hle hlt => ?_
        left := fun other hlt hne => ?_ } <;>
      try rw [hstarted, hlength]
    · rw [List.range_succ, ← hsound.order, hfirst]
    · exact hlt
    · exact hrest
    · rw [← Option.some.inj hjob, hfirst]
    · exact htold.notifyStatus .started
    · have hne : other ≠ job := by
        have hqueued : s.queued ≤ other := hfresh
        omega
      exact hother other _ _ hne (hsound.fresh other hfresh)
    · rw [hstarted, hlength] at hle
      exact hother other _ _ (by omega) (hsound.waiting other (by omega) hlt)
    · rw [hstarted, hlength] at hlt
      have hne' : other ≠ job := fun h => hne (congrArg some h.symm)
      have hleft := hsound.left other (by omega) (by rw [hjob]; exact fun h => nomatch h)
      exact Told.left (hother other _ _ hne' ⟨rfl, rfl⟩) hleft

theorem sound_pushJob (hsound : s.Sound limit) (hdeleted : s.deleted = false) :
    s.pushJob.Sound limit := by
  have hstarted : s.pushJob.startedJobs = s.startedJobs := startedJobs_notifyStatus _ _ (by decide)
  have hqueued : s.pushJob.queued = s.queued + 1 := rfl
  have hbound := hsound.bound
  have hother : ∀ other word count, other ≠ s.queued → s.Told other word count →
      s.pushJob.Told other word count :=
    fun other word count hne htold =>
      ⟨(statuses_notifyStatus_of_ne _ s.queued _ hne).trans htold.1, htold.2⟩
  have hnew : s.pushJob.Told s.queued [.queued] 0 :=
    (hsound.fresh s.queued (Nat.le_refl _)).notifyStatus .queued
  refine
    { limit := hsound.limit
      order := by rw [hstarted]; exact hsound.order
      bound := by rw [hstarted, hqueued]; omega
      queue := fun _ => ?_
      gone := fun h => absurd h (by rw [Bool.not_eq_true]; exact hdeleted)
      last := fun job hjob => by rw [hstarted]; exact hsound.last job hjob
      current := ?_
      fresh := fun job hfresh => ?_
      waiting := fun job hle hlt => ?_
      left := fun job hlt hne => ?_ }
  · have hqueue : s.pushJob.queue = s.queue ++ [s.queued] := rfl
    rw [hqueue, hsound.queue hdeleted, hstarted, hqueued, Nat.succ_sub hbound, List.range'_concat]
    congr 3
    omega
  · have hcurrent := hsound.current
    have hlast := hsound.last
    rw [CurrentTold] at hcurrent ⊢
    have hthread : s.pushJob.thread = s.thread := rfl
    rw [hthread]
    cases hphase : s.thread with
    | waiting | exited => trivial
    | started job =>
      rw [hphase] at hcurrent hlast
      have := hlast job rfl
      exact hother job _ _ (by omega) hcurrent
    | sending job i | refused job i | sleeping job i =>
      rw [hphase] at hcurrent hlast
      have := hlast job rfl
      exact ⟨hcurrent.1, hother job _ _ (by omega) hcurrent.2⟩
  · rw [hqueued] at hfresh
    exact hother job _ _ (by omega) (hsound.fresh job (by omega))
  · rw [hstarted] at hle
    by_cases hsame : job = s.queued
    · exact hsame ▸ hnew
    · rw [hqueued] at hlt
      exact hother job _ _ hsame (hsound.waiting job hle (by omega))
  · rw [hstarted] at hlt
    exact Told.left (hother job _ _ (by omega) ⟨rfl, rfl⟩) (hsound.left job hlt hne)

theorem sound_advance (hsound : s.Sound limit) (hdeleted : s.deleted = false)
    (result : SendResult) : (s.advance result).Sound limit := by
  have hcurrent := hsound.current
  rw [CurrentTold] at hcurrent
  rw [advance]
  cases hphase : s.thread with
  | waiting =>
    dsimp only
    rw [waitNextJob]
    split
    next => exact hsound
    next =>
      have hposts : Sound limit { s with posts := s.posts - 1 } := { hsound with }
      dsimp only
      split
      next => exact sound_exit hposts (by rw [hphase]; rfl)
      next => exact sound_popJob hposts hphase hdeleted
  | started job =>
    rw [hphase] at hcurrent
    have hjob : s.thread.job = some job := by rw [hphase]; rfl
    dsimp only
    split
    next hexit =>
      exact sound_turn hsound hjob (turn_phase .waiting) (.inr ⟨rfl, hcurrent.left (.skipped hexit)⟩)
    next =>
      exact sound_turn hsound hjob (turn_phase (.sending job 0))
        (.inl ⟨rfl, Nat.zero_le _, hcurrent⟩)
  | sending job i => exact sound_send hsound hphase result
  | refused job i =>
    rw [hphase] at hcurrent
    obtain ⟨hi, htold⟩ := hcurrent
    have hjob : s.thread.job = some job := by rw [hphase]; rfl
    dsimp only
    split
    next =>
      refine sound_turn hsound hjob (turn_notifyStatus (by decide)) (.inr ⟨rfl, ?_⟩)
      exact (htold.notifyStatus .failed).left (.failed i (Nat.le_of_lt hi))
    next =>
      exact sound_turn hsound hjob (turn_notifyStatus (by decide))
        (.inl ⟨rfl, hi, htold.notifyStatus .waitingRetry⟩)
  | sleeping job i =>
    rw [hphase] at hcurrent
    obtain ⟨hi, htold⟩ := hcurrent
    have hjob : s.thread.job = some job := by rw [hphase]; rfl
    dsimp only
    split
    next hexit =>
      refine sound_turn hsound hjob (turn_notifyStatus (by decide)) (.inr ⟨rfl, ?_⟩)
      have hfailed := htold.notifyStatus .failed
      rw [List.append_assoc] at hfailed
      exact hfailed.left (.cutShort i (Nat.le_of_lt hi) hexit)
    next =>
      have hretrying := htold.notifyStatus .retrying
      rw [List.append_assoc] at hretrying
      exact sound_turn hsound hjob (turn_notifyStatus (by decide)) (.inl ⟨rfl, hi, hretrying⟩)
  | exited => exact hsound

theorem sound_delete (hsound : s.Sound limit) : s.delete.Sound limit := by
  rw [delete]
  split
  next hexited =>
    exact { hsound with
      queue := fun h => nomatch h
      gone := fun _ => hexited }
  next => exact hsound

theorem sound_next (hsound : s.Sound limit) (input : Input) : (s.next input).Sound limit := by
  unfold next
  split
  next => exact hsound
  next hdeleted =>
    rw [Bool.not_eq_true] at hdeleted
    cases input with
    | queue => exact sound_pushJob hsound hdeleted
    | requestExit =>
      exact { hsound with
        left := fun job hstarted hne => (hsound.left job hstarted hne).of_exitRequested }
    | waitExit => exact { hsound with }
    | advance result => exact sound_advance hsound hdeleted result
    | delete => exact sound_delete hsound

theorem sound_run (limit : Nat) (inputs : List Input) :
    (inputs.foldl next (new limit)).Sound limit :=
  foldl_invariant (Sound limit) (fun _ input hsound => sound_next hsound input) inputs _
    (sound_new limit)

theorem Turn.keeps (hturn : Turn s s' job) (hexit : s.exitRequested) :
    s'.exitRequested ∧ s'.startedJobs = s.startedJobs :=
  ⟨hturn.exitRequested.trans hexit, hturn.startedJobs⟩

theorem startedJobs_advance_of_exitRequested (hexit : s.exitRequested) (result : SendResult) :
    (s.advance result).exitRequested ∧ (s.advance result).startedJobs = s.startedJobs := by
  unfold advance
  cases hphase : s.thread with
  | waiting =>
    dsimp only
    rw [waitNextJob]
    split
    · exact ⟨hexit, rfl⟩
    · rw [if_pos hexit]
      exact ⟨hexit, rfl⟩
  | started job =>
    dsimp only
    rw [if_pos hexit]
    exact ⟨hexit, rfl⟩
  | sending job i =>
    dsimp only
    cases result with
    | ok | otherError => exact (turn_endJob_send (by decide)).keeps hexit
    | failedToSendIncident =>
      rw [send]
      split
      · exact (turn_endJob_send (by decide)).keeps hexit
      · have hturn : Turn s { s with sends := s.sends ++ [job], thread := .refused job i } job :=
          turn_refused i
        exact hturn.keeps hexit
  | refused job i | sleeping job i =>
    dsimp only
    rw [if_pos hexit]
    exact (turn_notifyStatus (by decide)).keeps hexit
  | exited => exact ⟨hexit, rfl⟩

/-- After the request no job is started. -/
theorem startedJobs_next_of_exitRequested (hexit : s.exitRequested) (input : Input) :
    (s.next input).exitRequested ∧ (s.next input).startedJobs = s.startedJobs := by
  unfold next
  split
  next => exact ⟨hexit, rfl⟩
  next =>
    cases input with
    | queue => exact ⟨hexit, startedJobs_notifyStatus _ _ (by decide)⟩
    | requestExit => exact ⟨rfl, rfl⟩
    | waitExit => exact ⟨hexit, rfl⟩
    | advance result => exact startedJobs_advance_of_exitRequested hexit result
    | delete =>
      dsimp only
      rw [delete]
      split
      · exact ⟨hexit, rfl⟩
      · exact ⟨hexit, rfl⟩

theorem startedJobs_run_of_exitRequested (hexit : s.exitRequested) (inputs : List Input) :
    (inputs.foldl next s).startedJobs = s.startedJobs := by
  have hrun : (inputs.foldl next s).exitRequested ∧
      (inputs.foldl next s).startedJobs = s.startedJobs := by
    refine foldl_invariant (fun s' => s'.exitRequested ∧ s'.startedJobs = s.startedJobs)
      (fun s' input ⟨hexit', hsame'⟩ => ?_) inputs s ⟨hexit, rfl⟩
    obtain ⟨hexit'', hsame''⟩ := startedJobs_next_of_exitRequested hexit' input
    exact ⟨hexit'', hsame''.trans hsame'⟩
  exact hrun.2

/-! ## Reports -/

/-- What can be told of every run: the claims about single jobs, and those that hold while no exit
    is requested. -/
structure Reported (limit : Nat) (s : IncidentSender) : Prop where
  inOrder : s.startedJobs = List.range s.startedJobs.length
  sends : ∀ job, s.sends.count job ≤ limit + 1
  word : ∀ job, job < s.queued →
    ∃ word, (Complete word ∨ CutShort word) ∧ s.statuses job <+: word
  ended : s.thread = .exited → ∀ job, 0 < s.sends.count job →
    Complete (s.statuses job) ∨ CutShort (s.statuses job)
  complete : s.exitRequested = false → ∀ job, job < s.startedJobs.length →
    s.thread.job ≠ some job → Complete (s.statuses job)
  dropped : ∀ job, s.startedJobs.length ≤ job → job < s.queued → s.statuses job = [.queued]

/-- The job that is with the thread has not yet ended. -/
theorem current_told (hsound : s.Sound limit) (hjob : s.thread.job = some job) :
    s.sends.count job ≤ limit + 1 ∧ ∃ word, Complete word ∧ s.statuses job <+: word := by
  have hcurrent := hsound.current
  have hlimit := hsound.limit
  rw [CurrentTold] at hcurrent
  cases hphase : s.thread with
  | waiting | exited =>
    rw [hphase] at hjob
    cases hjob
  | started other =>
    rw [hphase] at hjob hcurrent
    obtain rfl := Option.some.inj hjob
    obtain ⟨hword, hcount⟩ := hcurrent
    rw [hword, hcount]
    exact ⟨Nat.zero_le _, begun_prefix 0⟩
  | sending other i =>
    rw [hphase] at hjob hcurrent
    obtain rfl := Option.some.inj hjob
    obtain ⟨hi, hword, hcount⟩ := hcurrent
    rw [hword, hcount]
    exact ⟨by omega, begun_prefix i⟩
  | refused other i =>
    rw [hphase] at hjob hcurrent
    obtain rfl := Option.some.inj hjob
    obtain ⟨hi, hword, hcount⟩ := hcurrent
    rw [hword, hcount]
    exact ⟨by omega, begun_prefix i⟩
  | sleeping other i =>
    rw [hphase] at hjob hcurrent
    obtain rfl := Option.some.inj hjob
    obtain ⟨hi, hword, hcount⟩ := hcurrent
    rw [hword, hcount]
    exact ⟨by omega, waitingRetry_prefix i⟩

theorem reported_of_sound (hsound : s.Sound limit) : s.Reported limit where
  inOrder := hsound.order
  sends := fun job => by
    by_cases hstarted : job < s.startedJobs.length
    case neg =>
      rw [hsound.unstarted hstarted]
      exact Nat.zero_le _
    by_cases hjob : s.thread.job = some job
    · exact (current_told hsound hjob).1
    · exact hsound.limit ▸ (hsound.left job hstarted hjob).count_le
  word := fun job hqueued => by
    by_cases hstarted : job < s.startedJobs.length
    case neg =>
      rw [(hsound.waiting job (Nat.le_of_not_lt hstarted) hqueued).1]
      exact ⟨_, .inl ⟨0, .inl rfl⟩, ⟨[.started, .succeeded], rfl⟩⟩
    by_cases hjob : s.thread.job = some job
    · obtain ⟨word, hcomplete, hbegins⟩ := (current_told hsound hjob).2
      exact ⟨word, .inl hcomplete, hbegins⟩
    · exact (hsound.left job hstarted hjob).begins
  ended := fun hexited job hsent => by
    have hjob : s.thread.job ≠ some job := by
      rw [hexited]
      exact fun h => nomatch h
    by_cases hstarted : job < s.startedJobs.length
    · exact (hsound.left job hstarted hjob).ended hsent
    · rw [hsound.unstarted hstarted] at hsent
      exact absurd hsent (Nat.lt_irrefl 0)
  complete := fun hexit job hstarted hjob => by
    have hleft := hsound.left job hstarted hjob
    rw [hexit] at hleft
    exact hleft.complete
  dropped := fun job hstarted hqueued => (hsound.waiting job hstarted hqueued).1


end IncidentSender

end Hatohol

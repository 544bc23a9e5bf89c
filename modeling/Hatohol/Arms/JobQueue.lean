import Hatohol.Machine.Steps
import Hatohol.Machine.Threads

/-!
# The jobs of an arm

Other threads hand jobs to the thread of an arm and wake it up by a semaphore; it works at one job,
or polls, in a round and sleeps between two rounds (server/src/ArmBase.cc:36-110, 163-205, 249-283,
320-353, 410-478). What is left is run by the destructor, which waits for the thread before.
-/

namespace Hatohol

namespace ArmBase

inductive UpdateType where
  | polling
  | itemRequest
  | historyRequest
  | triggerRequest
  deriving DecidableEq, Repr

/-- A job of another thread, with its closure, which is a number here. -/
structure FetcherJob where
  updateType : UpdateType
  closure : Nat
  deriving DecidableEq, Repr

/-- Where `mainThread` is: not started, before the test of the loop, in the procedure for a job or
    for a polling, before the second test, and between it and the next round. -/
inductive MainThread where
  | unstarted
  | looping
  | working (job : Option FetcherJob)
  | finishing
  | sleeping
  | exited
  | destroyed
  deriving DecidableEq, Repr

/-- 1 for a thread that sleeps though it is to exit. -/
@[simp] def MainThread.sleepsToExit : MainThread → Bool → Nat
  | .sleeping, exitRequest => exitRequest.toNat
  | .unstarted, _ | .looping, _ | .working _, _ | .finishing, _ | .exited, _ | .destroyed, _ => 0

theorem MainThread.sleepsToExit_true_le (mainThread : MainThread) (exitRequest : Bool) :
    mainThread.sleepsToExit true ≤ mainThread.sleepsToExit exitRequest + 1 := by
  cases mainThread <;> simp

@[simp] def MainThread.isLooping : MainThread → Nat
  | .looping => 1
  | .unstarted | .working _ | .finishing | .sleeping | .exited | .destroyed => 0

/-- `posting` are the threads that have pushed a job or set the flag and not yet posted. `requested`
    are the jobs that were pushed, `ran` those whose closures were called, and `lost` the one whose
    procedure has thrown an exception. -/
structure Jobs (T : Type) where
  jobQueue : List FetcherJob
  sleepSemaphore : Nat
  exitRequest : Bool
  mainThread : MainThread
  posting : T → Bool
  requested : List FetcherJob
  ran : List FetcherJob
  lost : List FetcherJob

inductive JobEvent (T : Type) where
  | start
  | fetch (t : T) (job : FetcherJob)
  | requestExit (t : T)
  | post (t : T)
  | main (throws : Bool)
  | timeout
  | destroy
  deriving DecidableEq, Repr

namespace Jobs

variable {T : Type} [DecidableEq T]

def new : Jobs T where
  jobQueue := []
  sleepSemaphore := 0
  exitRequest := false
  mainThread := .unstarted
  posting _ := false
  requested := []
  ran := []
  lost := []

def setPosting (a : Jobs T) (t : T) (posting : Bool) : Jobs T :=
  { a with posting := Function.update a.posting t posting }

/-- `pushJob`, before the semaphore is posted. -/
def pushJob (a : Jobs T) (t : T) (job : FetcherJob) : Jobs T :=
  { a with jobQueue := a.jobQueue ++ [job], requested := a.requested ++ [job] }.setPosting t true

/-- One statement of `mainThread`, or of `sleepInterruptible` if the semaphore is up. An exception
    ends the thread. -/
def main (a : Jobs T) (throws : Bool) : Jobs T :=
  match a.mainThread with
  | .unstarted => a
  | .looping =>
    if a.exitRequest then { a with mainThread := .exited }
    else { a with jobQueue := a.jobQueue.tail, mainThread := .working a.jobQueue.head? }
  | .working job =>
    if throws then { a with lost := a.lost ++ job.toList, mainThread := .exited }
    else { a with ran := a.ran ++ job.toList, mainThread := .finishing }
  | .finishing => { a with mainThread := if throws || a.exitRequest then .exited else .sleeping }
  | .sleeping =>
    if 0 < a.sleepSemaphore then
      { a with sleepSemaphore := a.sleepSemaphore - 1, mainThread := .looping }
    else a
  | .exited => a
  | .destroyed => a

/-- The destructor, with `clearJob`. -/
def destroy (a : Jobs T) : Jobs T :=
  { a with ran := a.ran ++ a.jobQueue, jobQueue := [], mainThread := .destroyed }

variable [Fintype T]

/-- The destructor waits for the thread, and nobody calls an arm that is being destroyed. -/
def step (a : Jobs T) : JobEvent T → Jobs T
  | .start => if a.mainThread = .unstarted then { a with mainThread := .looping } else a
  | .fetch t job =>
    if a.posting t = false ∧ a.mainThread ≠ .destroyed then a.pushJob t job else a
  | .requestExit t =>
    if a.posting t = false ∧ a.mainThread ≠ .destroyed then
      { a with exitRequest := true }.setPosting t true
    else a
  | .post t =>
    if a.posting t then
      { a with sleepSemaphore := a.sleepSemaphore + 1 }.setPosting t false
    else a
  | .main throws => a.main throws
  | .timeout => if a.mainThread = .sleeping then { a with mainThread := .looping } else a
  | .destroy =>
    if (a.mainThread = .exited ∨ a.mainThread = .unstarted) ∧ ∀ t, a.posting t = false then
      a.destroy
    else a

/-! ## What every step keeps -/

/-- The job that the thread works at. -/
def inHand (a : Jobs T) : List FetcherJob :=
  match a.mainThread with
  | .working job => job.toList
  | _ => []

/-- How many wakings the thread may still need before it sees what it was given. -/
def owed (a : Jobs T) : Nat :=
  a.jobQueue.length + a.mainThread.sleepsToExit a.exitRequest

/-- The wakings that are there, are about to be there, or have just been used. -/
def wakings (a : Jobs T) : Nat :=
  a.sleepSemaphore + Machine.countThreads id a.posting + a.mainThread.isLooping

/-- `last` are the jobs that the destructor has run. -/
structure Sound (a : Jobs T) : Prop where
  order : ∃ first last, a.ran = first ++ last ∧
    a.requested = first ++ (a.lost ++ (a.inHand ++ (last ++ a.jobQueue))) ∧
    (a.mainThread ≠ .destroyed → last = [])
  lostOne : a.lost.length ≤ 1
  lostExited : a.lost ≠ [] → a.mainThread = .exited ∨ a.mainThread = .destroyed
  cleared : a.mainThread = .destroyed → a.jobQueue = []
  awake : a.mainThread ≠ .exited → a.mainThread ≠ .destroyed → a.owed ≤ a.wakings

omit [DecidableEq T] in
theorem sound_new : (new : Jobs T).Sound where
  order := ⟨[], [], rfl, rfl, fun _ => rfl⟩
  lostOne := Nat.zero_le _
  lostExited := fun h => absurd rfl h
  cleared := fun _ => rfl
  awake := fun _ _ => Nat.zero_le _

variable {a : Jobs T}

omit [DecidableEq T] in
/-- Before the destructor, the jobs are in the order in which they were requested. -/
theorem Sound.requested_eq (h : a.Sound) (hlive : a.mainThread ≠ .destroyed) :
    a.requested = a.ran ++ (a.lost ++ (a.inHand ++ a.jobQueue)) := by
  obtain ⟨first, last, hran, hrequested, hlast⟩ := h.order
  rw [hlast hlive, List.append_nil] at hran
  rw [hrequested, hlast hlive, hran, List.nil_append]

omit [DecidableEq T] in
/-- A step of the thread, which does not destroy the arm. -/
theorem sound_of_live {b : Jobs T} (hlive : b.mainThread ≠ .destroyed)
    (horder : b.requested = b.ran ++ (b.lost ++ (b.inHand ++ b.jobQueue)))
    (hone : b.lost.length ≤ 1) (hexited : b.lost ≠ [] → b.mainThread = .exited)
    (hawake : b.mainThread ≠ .exited → b.owed ≤ b.wakings) : b.Sound where
  order := ⟨b.ran, [], (List.append_nil _).symm, horder, fun _ => rfl⟩
  lostOne := hone
  lostExited := fun hlost => .inl (hexited hlost)
  cleared := fun hdestroyed => absurd hdestroyed hlive
  awake := fun hnot _ => hawake hnot

omit [DecidableEq T] in
theorem Sound.lost_nil (h : a.Sound) (hexited : a.mainThread ≠ .exited)
    (hlive : a.mainThread ≠ .destroyed) : a.lost = [] := by
  by_contra hlost
  exact (h.lostExited hlost).elim hexited hlive

omit [DecidableEq T] in
/-- While the thread runs, nothing is lost and it is not behind with its wakings. -/
theorem Sound.running (h : a.Sound) (hexited : a.mainThread ≠ .exited)
    (hlive : a.mainThread ≠ .destroyed) :
    a.lost = [] ∧ a.requested = a.ran ++ (a.inHand ++ a.jobQueue) ∧ a.owed ≤ a.wakings := by
  have hlost := h.lost_nil hexited hlive
  have hrequested := h.requested_eq hlive
  rw [hlost, List.nil_append] at hrequested
  exact ⟨hlost, hrequested, h.awake hexited hlive⟩

omit [DecidableEq T] in
/-- A step by which nothing is lost. -/
theorem sound_of_running {b : Jobs T} (hlive : b.mainThread ≠ .destroyed) (hlost : b.lost = [])
    (horder : b.requested = b.ran ++ (b.inHand ++ b.jobQueue))
    (hawake : b.mainThread ≠ .exited → b.owed ≤ b.wakings) : b.Sound := by
  apply sound_of_live hlive
  · rw [hlost, List.nil_append]
    exact horder
  · rw [hlost]
    exact Nat.zero_le 1
  · exact fun hsome => absurd hlost hsome
  · exact hawake

omit [DecidableEq T] in
theorem Sound.looping (h : a.Sound) (hmain : a.mainThread = .looping) (throws : Bool) :
    (a.main throws).Sound := by
  obtain ⟨hlost, hrequested, hawake⟩ := h.running (by simp [hmain]) (by simp [hmain])
  simp only [owed, wakings, inHand, hmain] at hrequested hawake
  simp only [Jobs.main, hmain]
  split
  · apply sound_of_running
    · simp
    · exact hlost
    · simpa [inHand] using hrequested
    · exact fun hnot => absurd rfl hnot
  · apply sound_of_running
    · simp
    · exact hlost
    · cases hqueue : a.jobQueue <;> simpa [inHand, hqueue] using hrequested
    · intro _
      simp only [owed, wakings, List.length_tail]
      simp at hawake ⊢
      omega

omit [DecidableEq T] in
/-- The procedure that throws an exception loses its job, and ends the thread. -/
theorem Sound.working (h : a.Sound) {job : Option FetcherJob} (hmain : a.mainThread = .working job)
    (throws : Bool) : (a.main throws).Sound := by
  obtain ⟨hlost, hrequested, hawake⟩ := h.running (by simp [hmain]) (by simp [hmain])
  simp only [owed, wakings, inHand, hmain] at hrequested hawake
  simp only [Jobs.main, hmain]
  split
  · apply sound_of_live
    · simp
    · simpa [inHand, hlost] using hrequested
    · cases job <;> simp [hlost]
    · exact fun _ => rfl
    · exact fun hnot => absurd rfl hnot
  · apply sound_of_running
    · simp
    · exact hlost
    · simpa [inHand] using hrequested
    · intro _
      simp only [owed, wakings]
      simp at hawake ⊢
      omega

omit [DecidableEq T] in
theorem Sound.finishing (h : a.Sound) (hmain : a.mainThread = .finishing) (throws : Bool) :
    (a.main throws).Sound := by
  obtain ⟨hlost, hrequested, hawake⟩ := h.running (by simp [hmain]) (by simp [hmain])
  simp only [owed, wakings, inHand, hmain] at hrequested hawake
  simp only [Jobs.main, hmain]
  split
  · apply sound_of_running
    · simp
    · exact hlost
    · simpa [inHand] using hrequested
    · exact fun hnot => absurd rfl hnot
  next hgoes =>
    have hexit : a.exitRequest = false := by
      cases hexit : a.exitRequest with
      | false => rfl
      | true => simp [hexit] at hgoes
    apply sound_of_running
    · simp
    · exact hlost
    · simpa [inHand] using hrequested
    · intro _
      simp only [owed, wakings, hexit]
      simp at hawake ⊢
      omega

omit [DecidableEq T] in
theorem Sound.sleeping (h : a.Sound) (hmain : a.mainThread = .sleeping) (throws : Bool) :
    (a.main throws).Sound := by
  obtain ⟨hlost, hrequested, hawake⟩ := h.running (by simp [hmain]) (by simp [hmain])
  simp only [owed, wakings, inHand, hmain] at hrequested hawake
  simp only [Jobs.main, hmain]
  split
  · apply sound_of_running
    · simp
    · exact hlost
    · simpa [inHand] using hrequested
    · intro _
      simp only [owed, wakings]
      simp at hawake ⊢
      omega
  · exact h

omit [DecidableEq T] in
theorem Sound.main (h : a.Sound) (throws : Bool) : (a.main throws).Sound := by
  cases hmain : a.mainThread with
  | unstarted =>
    rw [Jobs.main, hmain]
    exact h
  | looping => exact h.looping hmain throws
  | working job => exact h.working hmain throws
  | finishing => exact h.finishing hmain throws
  | sleeping => exact h.sleeping hmain throws
  | exited =>
    rw [Jobs.main, hmain]
    exact h
  | destroyed =>
    rw [Jobs.main, hmain]
    exact h

/-- Another thread puts a job into the queue, or the flag, and is about to post the semaphore. -/
theorem Sound.posting (h : a.Sound) {b : Jobs T} {t : T} (hidle : a.posting t = false)
    (hlive : a.mainThread ≠ .destroyed) (hmain : b.mainThread = a.mainThread)
    (hlost : b.lost = a.lost) (hposting : b.posting = Function.update a.posting t true)
    (hsemaphore : b.sleepSemaphore = a.sleepSemaphore) (howed : b.owed ≤ a.owed + 1)
    (horder : b.requested = b.ran ++ (b.lost ++ (b.inHand ++ b.jobQueue))) : b.Sound := by
  have hcount := Machine.countThreads_update id a.posting t true
  simp only [hidle, id, Bool.toNat_true, Bool.toNat_false] at hcount
  apply sound_of_live (hmain.trans_ne hlive) horder
  · rw [hlost]
    exact h.lostOne
  · rw [hlost, hmain]
    exact fun hsome => (h.lostExited hsome).resolve_right hlive
  · intro hnot
    have hawake := h.awake (hmain ▸ hnot) hlive
    simp only [wakings, hmain, hposting, hsemaphore] at hawake ⊢
    omega

omit [DecidableEq T] in
/-- The thread goes into its loop, at its start or at the end of its sleep. -/
theorem Sound.loop (h : a.Sound) (hmain : a.mainThread = .unstarted ∨ a.mainThread = .sleeping) :
    ({ a with mainThread := .looping } : Jobs T).Sound := by
  have hexited : a.mainThread ≠ .exited := by rcases hmain with hmain | hmain <;> simp [hmain]
  have hlive : a.mainThread ≠ .destroyed := by rcases hmain with hmain | hmain <;> simp [hmain]
  have hhand : a.inHand = [] := by rcases hmain with hmain | hmain <;> rw [inHand, hmain]
  obtain ⟨hlost, hrequested, hawake⟩ := h.running hexited hlive
  rw [hhand] at hrequested
  apply sound_of_running
  · simp
  · exact hlost
  · exact hrequested
  · intro _
    simp only [owed, wakings] at hawake ⊢
    rcases hmain with hmain | hmain <;> simp [hmain] at hawake ⊢ <;> omega

theorem Sound.step (h : a.Sound) (event : JobEvent T) : (a.step event).Sound := by
  cases event with
  | start =>
    rw [Jobs.step]
    split
    next hmain => exact h.loop (.inl hmain)
    next => exact h
  | fetch t job =>
    rw [Jobs.step]
    split
    next hcalls =>
      obtain ⟨hidle, hlive⟩ := hcalls
      apply h.posting hidle hlive <;> try rfl
      · simp only [owed, pushJob, setPosting, List.length_append, List.length_singleton]
        omega
      · have hrequested := h.requested_eq hlive
        simp only [pushJob, setPosting, inHand] at hrequested ⊢
        rw [hrequested]
        simp only [List.append_assoc]
    next => exact h
  | requestExit t =>
    rw [Jobs.step]
    split
    next hcalls =>
      obtain ⟨hidle, hlive⟩ := hcalls
      apply h.posting hidle hlive <;> try rfl
      · have hmost := a.mainThread.sleepsToExit_true_le a.exitRequest
        simp only [owed, setPosting]
        omega
      · exact h.requested_eq hlive
    next => exact h
  | post t =>
    rw [Jobs.step]
    split
    next hposting =>
      have hcount := Machine.countThreads_update id a.posting t false
      refine ⟨h.order, h.lostOne, h.lostExited, h.cleared, fun hnot hlive => ?_⟩
      have hawake := h.awake hnot hlive
      simp only [owed, wakings, setPosting] at hawake ⊢
      simp only [hposting, id, Bool.toNat_true, Bool.toNat_false] at hcount
      omega
    next => exact h
  | main throws => exact h.main throws
  | timeout =>
    rw [Jobs.step]
    split
    next hsleeping => exact h.loop (.inr hsleeping)
    next => exact h
  | destroy =>
    rw [Jobs.step]
    split
    next hexited =>
      have hlive : a.mainThread ≠ .destroyed := by
        rcases hexited.1 with hmain | hmain <;> simp [hmain]
      have hhand : a.inHand = [] := by
        rcases hexited.1 with hmain | hmain <;> rw [inHand, hmain]
      have hrequested := h.requested_eq hlive
      rw [hhand, List.nil_append, ← List.append_nil a.jobQueue] at hrequested
      refine ⟨⟨a.ran, a.jobQueue, rfl, ?_, fun hnot => absurd rfl hnot⟩, h.lostOne,
        fun _ => .inr rfl, fun _ => rfl, fun _ hnot => absurd rfl hnot⟩
      exact hrequested
    next => exact h

/-- The states that an arm can come into. -/
def Reachable (a : Jobs T) : Prop := ∃ events : List (JobEvent T), a = events.foldl step new

theorem Reachable.sound (h : a.Reachable) : a.Sound := by
  obtain ⟨events, rfl⟩ := h
  exact Machine.foldl_invariant Sound (fun _ event hsound => hsound.step event) events new sound_new

/-- No closure is called for a job that was not requested, or twice, and none is called out of turn.
    At most one job is lost, by an exception in its procedure, which ends the thread; all others
    have been run when the arm is gone. -/
theorem requests_run_once (h : a.Reachable) :
    a.ran.Sublist a.requested ∧
    (a.ran ++ (a.lost ++ (a.inHand ++ a.jobQueue))).Perm a.requested ∧ a.lost.length ≤ 1 ∧
    (a.lost = [] → a.requested = a.ran ++ (a.inHand ++ a.jobQueue)) ∧
    (a.mainThread = .destroyed → a.inHand = [] ∧ a.jobQueue = []) := by
  obtain ⟨first, last, hran, hrequested, hlast⟩ := h.sound.order
  have hgone : a.mainThread = .destroyed → a.inHand = [] ∧ a.jobQueue = [] := fun hdestroyed =>
    ⟨by rw [inHand, hdestroyed], h.sound.cleared hdestroyed⟩
  refine ⟨?_, ?_, h.sound.lostOne, ?_, hgone⟩
  · rw [hran, hrequested]
    refine List.Sublist.append (List.Sublist.refl _) ?_
    refine (List.sublist_append_left last a.jobQueue).trans ?_
    exact (List.sublist_append_right _ _).trans (List.sublist_append_right _ _)
  · rw [hran, hrequested, List.append_assoc]
    refine List.Perm.append_left first ?_
    by_cases hdestroyed : a.mainThread = .destroyed
    · rw [(hgone hdestroyed).1, (hgone hdestroyed).2]
      simpa using List.perm_append_comm
    · rw [hlast hdestroyed]
      rfl
  · intro hlost
    by_cases hdestroyed : a.mainThread = .destroyed
    · rw [hran, hrequested, hlost, (hgone hdestroyed).1, (hgone hdestroyed).2]
      simp
    · rw [h.sound.requested_eq hdestroyed, hlost, List.nil_append]

/-- An arm runs two jobs and is destroyed with a third one in its queue. -/
theorem requests_run_once_destroyed :
    let a : Jobs Unit := [.start, .fetch () ⟨.itemRequest, 1⟩, .post (),
      .fetch () ⟨.triggerRequest, 2⟩, .main false, .main false, .main false, .post (), .main false,
      .main false, .fetch () ⟨.itemRequest, 3⟩, .post (), .main false, .requestExit (), .post (),
      .main false, .destroy].foldl step new
    a.mainThread = .destroyed ∧ a.ran.map (·.closure) = [1, 2, 3] ∧ a.inHand = [] ∧
      a.jobQueue = [] :=
  ⟨rfl, rfl, (requests_run_once ⟨_, rfl⟩).2.2.2.2 rfl⟩

/-- A thread that sleeps while a job is queued, or while it is to exit, is woken up or about to be.
    -/
theorem no_wakeup_lost (h : a.Reachable) (hsleeping : a.mainThread = .sleeping)
    (hgiven : a.jobQueue ≠ [] ∨ a.exitRequest = true) :
    0 < a.sleepSemaphore ∨ ∃ t, a.posting t = true := by
  have hawake := h.sound.awake (by simp [hsleeping]) (by simp [hsleeping])
  have howed : 0 < a.owed := by
    rw [owed]
    rcases hgiven with hqueue | hexit
    · have := List.length_pos_iff.mpr hqueue
      omega
    · rw [hsleeping, hexit]
      exact Nat.succ_pos _
  simp only [wakings, hsleeping] at hawake
  by_cases hsem : 0 < a.sleepSemaphore
  · exact .inl hsem
  · right
    exact Machine.exists_of_countThreads_pos (p := id) (by simp at hawake; omega)

theorem no_wakeup_lost_pushed :
    let a : Jobs Unit := [.start, .main false, .fetch () ⟨.itemRequest, 1⟩, .main false,
      .main false].foldl step new
    0 < a.sleepSemaphore ∨ ∃ t, a.posting t = true :=
  no_wakeup_lost ⟨_, rfl⟩ rfl (.inl (List.cons_ne_nil _ _))

end Jobs

end ArmBase

end Hatohol

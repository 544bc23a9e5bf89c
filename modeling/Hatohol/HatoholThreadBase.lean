import Hatohol.Machine.Steps
import Hatohol.Machine.Threads

/-!
# Threads

An object starts a thread for its `mainThread` and waits for the end of it, with two semaphores
(server/common/HatoholThreadBase.cc). It can be started again, also while the thread still runs. A
`mainThread` that throws an exception may be executed again after a sleep, which ends early when the
mutex that is held for it is unlocked.
-/

namespace Hatohol.HatoholThreadBase

def EXIT_THREAD : Int := -1

def EXIT_FATAL : Int := -2

/-- A thread that has been created: before and behind the wait of `notifyThreadStarted`, in
    `mainThread`, in the sleep, in `threadCleanup`, and behind its post. -/
inductive RunnerPhase where
  | uncreated
  | created
  | notifying
  | main
  | sleeping
  | cleaning
  | done
  deriving DecidableEq, Repr

/-- A thread that uses the object: in `start` behind the creation, and in `waitExit` before and
    behind the wait. -/
inductive UserPhase where
  | idle
  | starting
  | exiting
  | passing
  deriving DecidableEq, Repr

/-- How `mainThread` ends, with the answer of `onCaughtException`. -/
inductive MainEnd where
  | returned
  | caught (sleepTimeOrExit : Int)
  deriving DecidableEq, Repr

/-- The state of an object whose threads are numbered by `R` and whose users are numbered by `U`.
    `mutexFree` says whether `mutexForReexecSleep` is unlocked, `begins` counts the executions of
    `mainThread` by each thread; `failed` counts the threads that could not be created, and
    `returned` the calls of `start` that have returned. -/
structure Thread (R U : Type) where
  semThreadStart : Nat
  semThreadExit : Nat
  mutexFree : Bool
  exitRequested : Bool
  runner : R → RunnerPhase
  user : U → UserPhase
  begins : R → Nat
  failed : Nat
  returned : Nat

inductive ThreadEvent (R U : Type) where
  | start (u : U) (created : Option R)
  | started (u : U)
  | waitExit (u : U)
  | passExit (u : U)
  | requestExit
  | cancelReexecSleep
  | run (r : R) (mainEnd : MainEnd)
  | timeout (r : R)
  deriving Repr

/-- The thread has taken the semaphore for the exit and not posted it again. -/
def RunnerPhase.holdsExit : RunnerPhase → Bool
  | .notifying | .main | .sleeping | .cleaning => true
  | .uncreated | .created | .done => false

/-- The thread has posted the semaphore for the start. -/
def RunnerPhase.toldStart : RunnerPhase → Bool
  | .main | .sleeping | .cleaning | .done => true
  | .uncreated | .created | .notifying => false

def RunnerPhase.isCreated : RunnerPhase → Bool
  | .uncreated => false
  | _ => true

def UserPhase.holdsExit : UserPhase → Bool
  | .passing => true
  | _ => false

def UserPhase.isStarting : UserPhase → Bool
  | .starting => true
  | _ => false

namespace Thread

variable {R U : Type} [DecidableEq R] [DecidableEq U]

def new : Thread R U where
  semThreadStart := 0
  semThreadExit := 1
  mutexFree := false
  exitRequested := false
  runner _ := .uncreated
  user _ := .idle
  begins _ := 0
  failed := 0
  returned := 0

def setRunner (s : Thread R U) (r : R) (phase : RunnerPhase) : Thread R U :=
  { s with runner := Function.update s.runner r phase }

def setUser (s : Thread R U) (u : U) (phase : UserPhase) : Thread R U :=
  { s with user := Function.update s.user u phase }

def beginMain (s : Thread R U) (r : R) : Thread R U :=
  { s with begins := Function.update s.begins r (s.begins r + 1) }.setRunner r .main

/-- One statement of `threadStarter` or of `threadCleanup`, where it can go on. -/
def run (s : Thread R U) (r : R) (mainEnd : MainEnd) : Thread R U :=
  match s.runner r with
  | .uncreated => s
  | .created =>
    if 0 < s.semThreadExit then
      { s with semThreadExit := s.semThreadExit - 1 }.setRunner r .notifying
    else s
  | .notifying => { s with semThreadStart := s.semThreadStart + 1 }.beginMain r
  | .main =>
    match mainEnd with
    | .returned => s.setRunner r .cleaning
    | .caught sleepTimeOrExit =>
      if sleepTimeOrExit ≥ 0 then s.setRunner r .sleeping else s.setRunner r .cleaning
  | .sleeping =>
    -- `timedlock` takes the mutex as soon as it is free.
    if s.mutexFree then { s with mutexFree := false }.setRunner r .cleaning else s
  | .cleaning => { s with semThreadExit := s.semThreadExit + 1 }.setRunner r .done
  | .done => s

/-- The thread may fail to be created, and `start` waits nevertheless. -/
def step (s : Thread R U) : ThreadEvent R U → Thread R U
  | .start u created =>
    if s.user u ≠ .idle then s
    else
      match created with
      | none => { s with failed := s.failed + 1 }.setUser u .starting
      | some r => if s.runner r = .uncreated then (s.setRunner r .created).setUser u .starting else s
  | .started u =>
    if s.user u = .starting ∧ 0 < s.semThreadStart then
      { s with semThreadStart := s.semThreadStart - 1, returned := s.returned + 1 }.setUser u .idle
    else s
  | .waitExit u => if s.user u = .idle then s.setUser u .exiting else s
  | .passExit u =>
    if s.user u = .exiting ∧ 0 < s.semThreadExit then
      { s with semThreadExit := s.semThreadExit - 1 }.setUser u .passing
    else if s.user u = .passing then
      { s with semThreadExit := s.semThreadExit + 1 }.setUser u .idle
    else s
  | .requestExit => { s with exitRequested := true }
  | .cancelReexecSleep => { s with mutexFree := true }
  | .run r mainEnd => s.run r mainEnd
  | .timeout r =>
    -- A mutex that is free has been taken before.
    if s.runner r = .sleeping ∧ s.mutexFree = false then s.beginMain r else s

/-! ## The semaphores -/

variable [Fintype R] [Fintype U]

/-- One of the threads that have been created and of the users that wait for the exit has the
    semaphore for the exit, or it is up; and as many threads have told that they are started as
    calls of `start` have returned or may return. -/
structure Sound (s : Thread R U) : Prop where
  exit : s.semThreadExit + Machine.countThreads RunnerPhase.holdsExit s.runner +
    Machine.countThreads UserPhase.holdsExit s.user = 1
  told : Machine.countThreads RunnerPhase.toldStart s.runner = s.semThreadStart + s.returned
  calls : Machine.countThreads RunnerPhase.isCreated s.runner + s.failed =
    s.returned + Machine.countThreads UserPhase.isStarting s.user

omit [DecidableEq R] [DecidableEq U] in
theorem sound_new : (new : Thread R U).Sound where
  exit := by
    rw [Machine.countThreads_eq_zero fun _ => rfl, Machine.countThreads_eq_zero fun _ => rfl]
    rfl
  told := Machine.countThreads_eq_zero fun _ => rfl
  calls := by
    rw [Machine.countThreads_eq_zero fun _ => rfl, Machine.countThreads_eq_zero fun _ => rfl]
    rfl

omit [DecidableEq U] in
/-- A thread goes on to another phase, and the semaphores change as it does. -/
theorem sound_of_runner {s s' : Thread R U} (h : s.Sound) (r : R) (phase : RunnerPhase)
    (hrunner : s'.runner = Function.update s.runner r phase) (huser : s'.user = s.user)
    (hfailed : s'.failed = s.failed) (hreturned : s'.returned = s.returned)
    (hcreated : (s.runner r).isCreated = phase.isCreated)
    (hexit : s'.semThreadExit + phase.holdsExit.toNat =
      s.semThreadExit + (s.runner r).holdsExit.toNat)
    (hstart : s'.semThreadStart + (s.runner r).toldStart.toNat =
      s.semThreadStart + phase.toldStart.toNat) : s'.Sound := by
  have hcountExit := Machine.countThreads_update RunnerPhase.holdsExit s.runner r phase
  have hcountStart := Machine.countThreads_update RunnerPhase.toldStart s.runner r phase
  have hcountCreated := Machine.countThreads_update RunnerPhase.isCreated s.runner r phase
  rw [← hrunner] at hcountExit hcountStart hcountCreated
  rw [hcreated] at hcountCreated
  have h1 := h.exit
  have h2 := h.told
  have h3 := h.calls
  constructor
  · rw [huser]
    omega
  · rw [hreturned]
    omega
  · rw [huser, hfailed, hreturned]
    omega

omit [DecidableEq R] in
/-- A user goes on to another phase. -/
theorem sound_of_user {s s' : Thread R U} (h : s.Sound) (u : U) (phase : UserPhase)
    (huser : s'.user = Function.update s.user u phase) (hrunner : s'.runner = s.runner)
    (hexit : s'.semThreadExit + phase.holdsExit.toNat =
      s.semThreadExit + (s.user u).holdsExit.toNat)
    (hstart : s'.semThreadStart + s'.returned = s.semThreadStart + s.returned)
    (hcalls : s'.returned + s.failed + phase.isStarting.toNat =
      s.returned + s'.failed + (s.user u).isStarting.toNat) : s'.Sound := by
  have hcountExit := Machine.countThreads_update UserPhase.holdsExit s.user u phase
  have hcountStart := Machine.countThreads_update UserPhase.isStarting s.user u phase
  rw [← huser] at hcountExit hcountStart
  have h1 := h.exit
  have h2 := h.told
  have h3 := h.calls
  constructor
  · rw [hrunner]
    omega
  · rw [hrunner]
    omega
  · rw [hrunner]
    omega

omit [DecidableEq U] in
theorem Sound.beginMain {s : Thread R U} (h : s.Sound) {r : R} (hphase : s.runner r = .sleeping) :
    (s.beginMain r).Sound :=
  sound_of_runner h r .main rfl rfl rfl rfl (by rw [hphase]; rfl) (by rw [hphase]; rfl)
    (by rw [hphase]; rfl)

omit [DecidableEq U] in
theorem Sound.run {s : Thread R U} (h : s.Sound) (r : R) (mainEnd : MainEnd) :
    (s.run r mainEnd).Sound := by
  unfold Thread.run
  split
  next => exact h
  next hphase =>
    split
    next hup =>
      refine sound_of_runner h r .notifying rfl rfl rfl rfl ?_ ?_ ?_
      · rw [hphase]; rfl
      · rw [hphase]
        exact Nat.sub_add_cancel hup
      · rw [hphase]; rfl
    next => exact h
  next hphase =>
    refine sound_of_runner h r .main rfl rfl rfl rfl ?_ ?_ ?_
    · rw [hphase]; rfl
    · rw [hphase]; rfl
    · rw [hphase]; rfl
  next hphase =>
    have hgone (phase : RunnerPhase) (hcreated : phase.isCreated = true)
        (hholds : phase.holdsExit = true) (htold : phase.toldStart = true) :
        (s.setRunner r phase).Sound := by
      refine sound_of_runner h r phase rfl rfl rfl rfl ?_ ?_ ?_
      · rw [hphase, hcreated]; rfl
      · rw [hphase, hholds]; rfl
      · rw [hphase, htold]; rfl
    split
    · exact hgone _ rfl rfl rfl
    · split
      · exact hgone _ rfl rfl rfl
      · exact hgone _ rfl rfl rfl
  next hphase =>
    split
    next =>
      refine sound_of_runner h r .cleaning rfl rfl rfl rfl ?_ ?_ ?_
      · rw [hphase]; rfl
      · rw [hphase]; rfl
      · rw [hphase]; rfl
    next => exact h
  next hphase =>
    refine sound_of_runner h r .done rfl rfl rfl rfl ?_ ?_ ?_
    · rw [hphase]; rfl
    · rw [hphase]; rfl
    · rw [hphase]; rfl
  next => exact h

theorem Sound.start {s : Thread R U} (h : s.Sound) (u : U) (created : Option R) :
    (s.step (.start u created)).Sound := by
  unfold step
  dsimp only
  split
  next => exact h
  next hidle =>
    have hidle := not_not.mp hidle
    split
    next =>
      refine sound_of_user h u .starting rfl rfl ?_ rfl ?_
      · rw [hidle]; rfl
      · rw [hidle]
        exact Nat.add_assoc _ _ _
    next r =>
      split
      next hphase =>
        have hcreated := Machine.countThreads_update RunnerPhase.isCreated s.runner r .created
        have hholds := Machine.countThreads_update RunnerPhase.holdsExit s.runner r .created
        have htold := Machine.countThreads_update RunnerPhase.toldStart s.runner r .created
        have hstarting := Machine.countThreads_update UserPhase.isStarting s.user u .starting
        have hpassing := Machine.countThreads_update UserPhase.holdsExit s.user u .starting
        rw [hphase] at hcreated hholds htold
        rw [hidle] at hstarting hpassing
        have h1 := h.exit
        have h2 := h.told
        have h3 := h.calls
        simp only [RunnerPhase.isCreated, RunnerPhase.holdsExit, RunnerPhase.toldStart,
          UserPhase.isStarting, UserPhase.holdsExit, Bool.toNat_true, Bool.toNat_false]
          at hcreated hholds htold hstarting hpassing
        refine ⟨?_, ?_, ?_⟩
        · simp only [setUser, setRunner]
          omega
        · simp only [setUser, setRunner]
          omega
        · simp only [setUser, setRunner]
          omega
      next => exact h

theorem Sound.step {s : Thread R U} (h : s.Sound) (event : ThreadEvent R U) :
    (s.step event).Sound := by
  cases event with
  | start u created => exact h.start u created
  | started u =>
    rw [Thread.step]
    split
    next hup =>
      refine sound_of_user h u .idle rfl rfl ?_ ?_ ?_
      · rw [hup.1]; rfl
      · simp only [setUser]
        omega
      · rw [hup.1]
        exact Nat.add_right_comm s.returned 1 s.failed
    next => exact h
  | waitExit u =>
    rw [Thread.step]
    split
    next hidle =>
      refine sound_of_user h u .exiting rfl rfl ?_ rfl ?_
      · rw [hidle]; rfl
      · rw [hidle]; rfl
    next => exact h
  | passExit u =>
    rw [Thread.step]
    split
    next hup =>
      refine sound_of_user h u .passing rfl rfl ?_ rfl ?_
      · rw [hup.1]
        exact Nat.sub_add_cancel hup.2
      · rw [hup.1]; rfl
    next =>
      split
      next hpassing =>
        refine sound_of_user h u .idle rfl rfl ?_ rfl ?_
        · rw [hpassing]; rfl
        · rw [hpassing]; rfl
      next => exact h
  | requestExit => exact ⟨h.exit, h.told, h.calls⟩
  | cancelReexecSleep => exact ⟨h.exit, h.told, h.calls⟩
  | run r mainEnd => exact h.run r mainEnd
  | timeout r =>
    rw [Thread.step]
    split
    next hphase => exact h.beginMain hphase.1
    next => exact h

/-- The states that an object can come into. -/
def Reachable (s : Thread R U) : Prop := ∃ events : List (ThreadEvent R U), s = events.foldl step new

theorem Reachable.sound {s : Thread R U} (h : s.Reachable) : s.Sound := by
  obtain ⟨events, rfl⟩ := h
  exact Machine.foldl_invariant Sound (fun _ event hsound => hsound.step event) events new sound_new

/-! ## What the users can rely on -/

omit [DecidableEq U] in
/-- At most one thread has the semaphore for the exit. -/
theorem Sound.alone {s : Thread R U} (h : s.Sound) {r r' : R}
    (hr : (s.runner r).holdsExit = true) (hr' : (s.runner r').holdsExit = true) : r = r' := by
  refine Machine.eq_of_countThreads_le_one ?_ hr hr'
  have hexit := h.exit
  omega

/-- No two threads are in `mainThread` at a time. A `waitExit` that returns while no `start` waits
    has seen the end of every thread, and a thread that could not be created leaves a `start` that
    waits. -/
theorem waitExit_waits (s : Thread R U) (h : s.Reachable) :
    (∀ r r', s.runner r = .main → s.runner r' = .main → r = r') ∧
    (∀ u, s.user u = .passing → (∀ v, s.user v ≠ .starting) →
      ∀ r, s.runner r = .uncreated ∨ s.runner r = .done) ∧
    (0 < s.failed → ∃ v, s.user v = .starting) := by
  have hsound := h.sound
  have hle : Machine.countThreads RunnerPhase.toldStart s.runner ≤
      Machine.countThreads RunnerPhase.isCreated s.runner :=
    Machine.countThreads_le fun r => by cases s.runner r <;> decide
  have hstart := hsound.told
  have hcalls := hsound.calls
  refine ⟨fun r r' hr hr' => hsound.alone (by rw [hr]; rfl) (by rw [hr']; rfl), ?_, ?_⟩
  · intro u hu hnone r
    have hstarting : Machine.countThreads UserPhase.isStarting s.user = 0 :=
      Machine.countThreads_eq_zero fun v => by
        cases hv : s.user v with
        | starting => exact absurd hv (hnone v)
        | idle | exiting | passing => rfl
    have hpass : 0 < Machine.countThreads UserPhase.holdsExit s.user :=
      Machine.countThreads_pos (t := u) (by rw [hu]; rfl)
    have hexit := hsound.exit
    have hfree : (s.runner r).holdsExit = false := by
      cases hr : (s.runner r).holdsExit with
      | false => rfl
      | true =>
        have hpos := Machine.countThreads_pos hr
        omega
    have htold : (s.runner r).isCreated = (s.runner r).toldStart :=
      Machine.eq_of_countThreads_le (fun r => by cases s.runner r <;> decide) (by omega) r
    cases hr : s.runner r with
    | uncreated => exact .inl rfl
    | done => exact .inr rfl
    | created => rw [hr] at htold; cases htold
    | notifying | main | sleeping | cleaning => rw [hr] at hfree; cases hfree
  · intro hfailed
    have hpos : 0 < Machine.countThreads UserPhase.isStarting s.user := by omega
    obtain ⟨v, hv⟩ := Machine.exists_of_countThreads_pos hpos
    refine ⟨v, ?_⟩
    cases hphase : s.user v with
    | starting => rfl
    | idle | exiting | passing => rw [hphase] at hv; cases hv

/-- One thread has been created and has ended, and the other could not be created. -/
theorem waitExit_waits_failed :
    let s : Thread Bool Bool := [.start true (some true), .start false none, .run true .returned,
      .run true .returned, .started true, .run true .returned, .run true .returned].foldl step new
    s.runner true = .done ∧ ∃ v, s.user v = .starting :=
  ⟨rfl, (waitExit_waits _ ⟨_, rfl⟩).2.2 Nat.one_pos⟩

/-! ## The last execution -/

/-- The thread is in its last execution of `mainThread`, or behind it. -/
def IsLast (s : Thread R U) (r : R) : Prop :=
  s.mutexFree = true ∧ (s.runner r = .main ∨ s.runner r = .sleeping) ∨
    s.runner r = .cleaning ∨ s.runner r = .done

omit [DecidableEq R] [DecidableEq U] [Fintype R] [Fintype U] in
theorem IsLast.of_same {s s' : Thread R U} {r : R} (h : s.IsLast r)
    (hfree : s.mutexFree = true → s'.mutexFree = true) (hrunner : s'.runner r = s.runner r) :
    s'.IsLast r := by
  rw [IsLast, hrunner]
  exact h.imp_left fun hmain => ⟨hfree hmain.1, hmain.2⟩

omit [DecidableEq U] in
/-- Only the thread itself takes the mutex, as no other one sleeps. -/
theorem IsLast.run {s : Thread R U} {r : R} (h : s.IsLast r) (hsound : s.Sound) (r' : R)
    (mainEnd : MainEnd) :
    (s.run r' mainEnd).IsLast r ∧ (s.run r' mainEnd).begins r = s.begins r := by
  by_cases hself : r' = r
  · subst hself
    unfold Thread.run
    rcases h with ⟨hfree, hmain | hsleeping⟩ | hcleaning | hdone
    · rw [hmain]
      cases mainEnd with
      | returned => exact ⟨.inr (.inl (Function.update_self ..)), rfl⟩
      | caught sleepTimeOrExit =>
        dsimp only
        split
        · exact ⟨.inl ⟨hfree, .inr (Function.update_self ..)⟩, rfl⟩
        · exact ⟨.inr (.inl (Function.update_self ..)), rfl⟩
    · rw [hsleeping]
      dsimp only
      rw [if_pos hfree]
      exact ⟨.inr (.inl (Function.update_self ..)), rfl⟩
    · rw [hcleaning]
      exact ⟨.inr (.inr (Function.update_self ..)), rfl⟩
    · rw [hdone]
      exact ⟨.inr (.inr hdone), rfl⟩
  · have hother (phase : RunnerPhase) : Function.update s.runner r' phase r = s.runner r :=
      Function.update_of_ne (Ne.symm hself) ..
    unfold Thread.run
    split
    next => exact ⟨h, rfl⟩
    next =>
      split
      · exact ⟨h.of_same id (hother _), rfl⟩
      · exact ⟨h, rfl⟩
    next => exact ⟨h.of_same id (hother _), Function.update_of_ne (Ne.symm hself) ..⟩
    next =>
      split
      · exact ⟨h.of_same id (hother _), rfl⟩
      · split
        · exact ⟨h.of_same id (hother _), rfl⟩
        · exact ⟨h.of_same id (hother _), rfl⟩
    next hsleeping =>
      split
      next =>
        refine ⟨?_, rfl⟩
        rcases h with ⟨-, hmain⟩ | hgone
        · refine absurd (hsound.alone ?_ ?_) hself
          · rw [hsleeping]; rfl
          · rcases hmain with hmain | hmain <;> rw [hmain] <;> rfl
        · have hsame : ({ s with mutexFree := false }.setRunner r' .cleaning).runner r = s.runner r :=
            hother _
          rw [IsLast, hsame]
          exact .inr hgone
      next => exact ⟨h, rfl⟩
    next => exact ⟨h.of_same id (hother _), rfl⟩
    next => exact ⟨h, rfl⟩

theorem IsLast.step {s : Thread R U} {r : R} (h : s.IsLast r) (hsound : s.Sound)
    (event : ThreadEvent R U) :
    (s.step event).IsLast r ∧ (s.step event).begins r = s.begins r := by
  cases event with
  | start u created =>
    unfold Thread.step
    dsimp only
    split
    · exact ⟨h, rfl⟩
    · split
      · exact ⟨h, rfl⟩
      · split
        next r' huncreated =>
          refine ⟨h.of_same id (Function.update_of_ne ?_ ..), rfl⟩
          rintro rfl
          rcases h with ⟨-, hmain | hmain⟩ | hmain | hmain <;> rw [hmain] at huncreated <;>
            cases huncreated
        next => exact ⟨h, rfl⟩
  | started u =>
    unfold Thread.step
    dsimp only
    split
    · exact ⟨h, rfl⟩
    · exact ⟨h, rfl⟩
  | waitExit u =>
    unfold Thread.step
    dsimp only
    split
    · exact ⟨h, rfl⟩
    · exact ⟨h, rfl⟩
  | passExit u =>
    unfold Thread.step
    dsimp only
    split
    · exact ⟨h, rfl⟩
    · split
      · exact ⟨h, rfl⟩
      · exact ⟨h, rfl⟩
  | requestExit => exact ⟨h, rfl⟩
  | cancelReexecSleep => exact ⟨h.of_same (fun _ => rfl) rfl, rfl⟩
  | run r' mainEnd => exact h.run hsound r' mainEnd
  | timeout r' =>
    unfold Thread.step
    dsimp only
    split
    next hsleeping =>
      have hself : r ≠ r' := by
        rintro rfl
        rcases h with ⟨hfree, -⟩ | hgone | hgone
        · rw [hsleeping.2] at hfree
          cases hfree
        · rw [hsleeping.1] at hgone
          cases hgone
        · rw [hsleeping.1] at hgone
          cases hgone
      exact ⟨h.of_same id (Function.update_of_ne hself ..), Function.update_of_ne hself ..⟩
    next => exact ⟨h, rfl⟩

/-- A thread that is in `mainThread`, or sleeps before the next execution of it, when
    `cancelReexecSleep` is called does not execute it again, whatever happens then. -/
theorem cancelReexecSleep_ends (s : Thread R U) (h : s.Reachable) (r : R)
    (hmain : s.runner r = .main ∨ s.runner r = .sleeping) (events : List (ThreadEvent R U)) :
    (events.foldl step (s.step .cancelReexecSleep)).begins r = s.begins r := by
  have hlast : ∀ s' : Thread R U, s'.Sound → s'.IsLast r →
      (events.foldl step s').begins r = s'.begins r := by
    induction events with
    | nil => exact fun _ _ _ => rfl
    | cons event events ih =>
      intro s' hsound hlast
      obtain ⟨hnext, hbegins⟩ := hlast.step hsound event
      rw [List.foldl_cons, ih _ (hsound.step event) hnext, hbegins]
  exact hlast _ (h.sound.step .cancelReexecSleep) (.inl ⟨rfl, hmain⟩)

/-- The thread sleeps for the first time. -/
theorem cancelReexecSleep_ends_sleeping :
    let s : Thread Unit Unit := [.start () (some ()), .run () .returned, .run () .returned,
      .run () (.caught 500)].foldl step new
    s.runner () = .sleeping ∧
      ([.run () .returned, .timeout ()].foldl step (s.step .cancelReexecSleep)).begins () = 1 :=
  ⟨rfl, cancelReexecSleep_ends _ ⟨_, rfl⟩ () (.inr rfl) _⟩

end Thread

end Hatohol.HatoholThreadBase

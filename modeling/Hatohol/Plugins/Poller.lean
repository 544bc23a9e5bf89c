import Hatohol.Machine.Steps

/-!
# The poller

The process that polls runs the commands in its queue, polls once, reports how that went and waits
(`CommandQueue` and `BasePoller` of server/hap2/hatohol/haplib.py:208-245, 1023-1158). The main
process puts the information on the server that is monitored into the queue whenever it comes.
-/

namespace Hatohol.Haplib

/-- What the poller takes from a `MonitoringServerInfo`; the rest is a number here. -/
structure MsInfo where
  polling_interval_sec : Int
  retry_interval_sec : Int
  rest : Nat
  deriving DecidableEq, Repr

/-- How a call of the sub class comes back: it returns, or raises a `Signal`, SystemExit or
    something else, of which the class and the value are given as a text. -/
inductive Raised where
  | returned
  | signal (restart critical : Bool)
  | systemExit
  | other (text : String)
  deriving DecidableEq, Repr

/-- The `failure_reason` of `__poll_in_try_block`. -/
def Raised.text : Raised → String
  | .other text => text
  | .returned | .signal _ _ | .systemExit => ""

/-- The fields of `ArmInfo` but the times. -/
structure ArmInfo where
  last_status : String
  failure_reason : String
  num_success : Nat
  num_failure : Nat
  deriving DecidableEq, Repr

namespace ArmInfo

def new : ArmInfo := ⟨"", "", 0, 0⟩

def success (info : ArmInfo) : ArmInfo :=
  { info with last_status := "OK", num_success := info.num_success + 1 }

/-- The reason is the default one, which is empty. -/
def fail (info : ArmInfo) : ArmInfo :=
  { info with last_status := "NG", num_failure := info.num_failure + 1, failure_reason := "" }

end ArmInfo

/-- Where the process is: before a test of `pop_all`, in `poll`, in `put_arm_info` and `log_status`,
    or in `wait`. -/
inductive PollerPhase where
  | popping
  | polling
  | reporting (sleep_time : Int)
  | waiting
  | exited
  deriving DecidableEq, Repr

/-- A poll that was begun: the information that had been put into the queue by then, and the one
    that the poller has. -/
structure BegunPoll where
  pushed : List MsInfo
  msInfo : Option MsInfo
  deriving DecidableEq, Repr

/-- A poll that ended: how, the information that the poller has then, and what it does next. -/
structure EndedPoll where
  outcome : Raised
  msInfo : Option MsInfo
  sleep_time : Int
  reported : ArmInfo
  deriving DecidableEq, Repr

/-- The intervals for an information, or those at the start. -/
def intervals (msInfo : Option MsInfo) : Int × Int :=
  msInfo.elim (30, 10) fun info => (info.polling_interval_sec, info.retry_interval_sec)

/-- The time to sleep and the report are those for the outcome. -/
structure EndedPoll.Fits (e : EndedPoll) : Prop where
  sleep : e.sleep_time =
    if e.outcome = .returned then (intervals e.msInfo).1 else (intervals e.msInfo).2
  status : e.reported.last_status = if e.outcome = .returned then "OK" else "NG"
  reason : e.reported.failure_reason = e.outcome.text

/-- `pushed` and `applied` are the commands that were put into the queue and those that were run. -/
structure Poller where
  queue : List MsInfo
  msInfo : Option MsInfo
  pollingInterval : Int
  retryInterval : Int
  armInfo : ArmInfo
  phase : PollerPhase
  pushed : List MsInfo
  applied : List MsInfo
  begun : List BegunPoll
  ended : List EndedPoll
  deriving DecidableEq, Repr

inductive PollerEvent where
  | push (msInfo : MsInfo)
  | pop
  | poll (outcome : Raised)
  | report (outcome : Raised)
  | wake
  | signal (critical : Bool)
  deriving DecidableEq, Repr

namespace Poller

def new : Poller where
  queue := []
  msInfo := none
  pollingInterval := 30
  retryInterval := 10
  armInfo := .new
  phase := .popping
  pushed := []
  applied := []
  begun := []
  ended := []

/-- `__set_ms_info`. The signal that it raises ends `__poll_in_try_block`. -/
def set_ms_info (p : Poller) (msInfo : MsInfo) (queue : List MsInfo) : Poller :=
  { p with
    queue := queue
    msInfo := some msInfo
    pollingInterval := msInfo.polling_interval_sec
    retryInterval := msInfo.retry_interval_sec
    applied := p.applied ++ [msInfo]
    phase := .popping }

/-- One test of `pop_all`, with the command that it finds. -/
def pop_all (p : Poller) : Poller :=
  match p.queue with
  | [] => { p with phase := .polling, begun := p.begun ++ [⟨p.pushed, p.msInfo⟩] }
  | msInfo :: queue => p.set_ms_info msInfo queue

/-- What follows a poll that has succeeded or failed. -/
def settle (p : Poller) (outcome : Raised) (succeeded : Bool) (failure_reason : String) : Poller :=
  let sleep_time := if succeeded then p.pollingInterval else p.retryInterval
  let info := if succeeded then p.armInfo.success else p.armInfo.fail
  let info := { info with failure_reason := failure_reason }
  { p with
    armInfo := info
    phase := .reporting sleep_time
    ended := p.ended ++ [⟨outcome, p.msInfo, sleep_time, info⟩] }

/-- The first `try` block behind `pop_all`. `handle_exception` raises SystemExit and a critical
    signal again, which ends the process. -/
def poll (p : Poller) (outcome : Raised) : Poller :=
  match outcome with
  | .returned => p.settle outcome true ""
  | .signal restart critical =>
    if critical then { p with phase := .exited }
    else if restart then { p with phase := .popping }
    else p.settle outcome false ""
  | .systemExit => { p with phase := .exited }
  | .other text => p.settle outcome false text

/-- The second `try` block; `wait` returns at once if there is no time to sleep. -/
def report (p : Poller) (sleep_time : Int) (outcome : Raised) : Poller :=
  match outcome with
  | .signal _ true | .systemExit => { p with phase := .exited }
  | _ => { p with phase := if sleep_time ≤ 0 then .popping else .waiting }

/-- `wait` ends with the time, or with a command. -/
def wake (p : Poller) : Poller :=
  match p.queue with
  | [] => { p with phase := .popping }
  | msInfo :: queue => p.set_ms_info msInfo queue

/-- A signal of the system is raised wherever the process is. -/
def raiseSignal (p : Poller) (critical : Bool) : Poller :=
  match p.phase with
  | .popping | .polling => p.poll (.signal false critical)
  | .reporting sleep_time => p.report sleep_time (.signal false critical)
  | .waiting => { p with phase := if critical then .exited else .popping }
  | .exited => p

/-- An event that cannot be where the process is does nothing. -/
def step (p : Poller) : PollerEvent → Poller
  | .push msInfo => { p with queue := p.queue ++ [msInfo], pushed := p.pushed ++ [msInfo] }
  | .pop => if p.phase = .popping then p.pop_all else p
  | .poll outcome => if p.phase = .polling then p.poll outcome else p
  | .report outcome =>
    match p.phase with
    | .reporting sleep_time => p.report sleep_time outcome
    | _ => p
  | .wake => if p.phase = .waiting then p.wake else p
  | .signal critical => p.raiseSignal critical

/-! ## What every step keeps -/

structure Sound (p : Poller) : Prop where
  order : p.pushed = p.applied ++ p.queue
  current : p.msInfo = p.applied.getLast?
  intervals : (p.pollingInterval, p.retryInterval) = intervals p.msInfo
  begun : ∀ b ∈ p.begun, b.msInfo = b.pushed.getLast?
  ended : ∀ e ∈ p.ended, e.Fits
  successes : p.armInfo.num_success = p.ended.countP (·.outcome = .returned)
  failures : p.armInfo.num_success + p.armInfo.num_failure = p.ended.length

theorem sound_new : new.Sound where
  order := rfl
  current := rfl
  intervals := rfl
  begun _ hmem := absurd hmem List.not_mem_nil
  ended _ hmem := absurd hmem List.not_mem_nil
  successes := rfl
  failures := rfl

namespace Sound

variable {p : Poller}

theorem setPhase (h : p.Sound) (phase : PollerPhase) : Sound { p with phase := phase } where
  order := h.order
  current := h.current
  intervals := h.intervals
  begun := h.begun
  ended := h.ended
  successes := h.successes
  failures := h.failures

theorem push (h : p.Sound) (msInfo : MsInfo) : (p.step (.push msInfo)).Sound where
  order := by
    change p.pushed ++ [msInfo] = p.applied ++ (p.queue ++ [msInfo])
    rw [h.order, List.append_assoc]
  current := h.current
  intervals := h.intervals
  begun := h.begun
  ended := h.ended
  successes := h.successes
  failures := h.failures

theorem set_ms_info (h : p.Sound) {msInfo : MsInfo} {queue : List MsInfo}
    (hqueue : p.queue = msInfo :: queue) : (p.set_ms_info msInfo queue).Sound where
  order := by
    change p.pushed = (p.applied ++ [msInfo]) ++ queue
    rw [h.order, hqueue, List.append_assoc, List.singleton_append]
  current := List.getLast?_concat.symm
  intervals := rfl
  begun := h.begun
  ended := h.ended
  successes := h.successes
  failures := h.failures

/-- A poll is begun when no command is left. -/
theorem pop_all (h : p.Sound) : p.pop_all.Sound := by
  rw [Poller.pop_all]
  split
  next hqueue =>
    have hpushed : p.pushed = p.applied := by rw [h.order, hqueue, List.append_nil]
    refine ⟨h.order, h.current, h.intervals, fun b hb => ?_, h.ended, h.successes, h.failures⟩
    rcases List.mem_append.mp hb with hb | hb
    · exact h.begun b hb
    · rw [List.mem_singleton.mp hb, hpushed]
      exact h.current
  next msInfo queue hqueue => exact h.set_ms_info hqueue

theorem wake (h : p.Sound) : p.wake.Sound := by
  rw [Poller.wake]
  split
  next => exact h.setPhase _
  next msInfo queue hqueue => exact h.set_ms_info hqueue

theorem settle (h : p.Sound) {outcome : Raised} {succeeded : Bool} {failure_reason : String}
    (hsucceeded : succeeded = decide (outcome = .returned))
    (hreason : failure_reason = outcome.text) :
    (p.settle outcome succeeded failure_reason).Sound := by
  have hpolling : p.pollingInterval = (Haplib.intervals p.msInfo).1 := congrArg Prod.fst h.intervals
  have hretry : p.retryInterval = (Haplib.intervals p.msInfo).2 := congrArg Prod.snd h.intervals
  refine ⟨h.order, h.current, h.intervals, h.begun, fun e he => ?_, ?_, ?_⟩
  · rcases List.mem_append.mp he with he | he
    · exact h.ended e he
    · rw [List.mem_singleton.mp he]
      refine ⟨?_, ?_, hreason⟩
      · dsimp only
        rw [hsucceeded, hpolling, hretry]
        simp only [decide_eq_true_eq]
      · dsimp only
        rw [hsucceeded]
        by_cases hreturned : outcome = .returned
        · rw [if_pos hreturned, decide_eq_true hreturned]
          rfl
        · rw [if_neg hreturned, decide_eq_false hreturned]
          rfl
  · have hcount := h.successes
    simp only [Poller.settle, List.countP_append, List.countP_singleton, hsucceeded]
    by_cases hreturned : outcome = .returned
    · simp only [hreturned, decide_true, if_true, ArmInfo.success]
      omega
    · simp only [hreturned, decide_false, Bool.false_eq_true, if_false, ArmInfo.fail]
      omega
  · have hcount := h.failures
    simp only [Poller.settle, List.length_append, List.length_singleton]
    cases succeeded
    · simp only [Bool.false_eq_true, if_false, ArmInfo.fail]
      omega
    · simp only [if_true, ArmInfo.success]
      omega

theorem poll (h : p.Sound) (outcome : Raised) : (p.poll outcome).Sound := by
  cases outcome with
  | returned => exact h.settle rfl rfl
  | signal restart critical =>
    rw [Poller.poll]
    split
    · exact h.setPhase _
    · split
      · exact h.setPhase _
      · exact h.settle rfl rfl
  | systemExit => exact h.setPhase _
  | other text => exact h.settle rfl rfl

theorem report (h : p.Sound) (sleep_time : Int) (outcome : Raised) :
    (p.report sleep_time outcome).Sound := by
  unfold Poller.report
  split
  next => exact h.setPhase _
  next => exact h.setPhase _
  next => exact h.setPhase _

theorem raiseSignal (h : p.Sound) (critical : Bool) : (p.raiseSignal critical).Sound := by
  rw [Poller.raiseSignal]
  split
  · exact h.poll _
  · exact h.poll _
  · exact h.report _ _
  · exact h.setPhase _
  · exact h

theorem step (h : p.Sound) (event : PollerEvent) : (p.step event).Sound := by
  cases event with
  | push msInfo => exact h.push msInfo
  | pop =>
    rw [Poller.step]
    split
    · exact h.pop_all
    · exact h
  | poll outcome =>
    rw [Poller.step]
    split
    · exact h.poll outcome
    · exact h
  | report outcome =>
    rw [Poller.step]
    split
    · exact h.report _ outcome
    · exact h
  | wake =>
    rw [Poller.step]
    split
    · exact h.wake
    · exact h
  | signal critical => exact h.raiseSignal critical

end Sound

/-- Every command is run once and in order, and each poll begins with the newest information that
    was in the queue by then. After a poll the process waits for the interval of the information
    that it has, and what it reports counts the polls. -/
theorem polls_with_newest_info (events : List PollerEvent) :
    let p := events.foldl step new
    p.pushed = p.applied ++ p.queue ∧
    (∀ b ∈ p.begun, b.msInfo = b.pushed.getLast?) ∧
    (∀ e ∈ p.ended, e.Fits) ∧
    p.armInfo.num_success = p.ended.countP (·.outcome = .returned) ∧
    p.armInfo.num_success + p.armInfo.num_failure = p.ended.length := by
  have h : (events.foldl step new).Sound :=
    Machine.foldl_invariant Sound (fun _ event hsound => hsound.step event) events new sound_new
  exact ⟨h.order, h.begun, h.ended, h.successes, h.failures⟩

end Poller

end Hatohol.Haplib

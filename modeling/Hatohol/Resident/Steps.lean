import Hatohol.Resident.Turns

/-!
# The steps of a resident action

What the threads, the main loop and the collector have to do has one of a few forms at any time. From
these it follows what a step can be, and that none fails.
-/

namespace Hatohol

open Machine

namespace ResidentInfo

open ResidentOp

/-! ## Operations -/

/-- What an operation does. -/
inductive Performs (r : ResidentInfo) : ResidentOp → ResidentInfo → List ResidentOp → Prop
  | tryNothing (h : r.status ≠ .idle ∨ r.notifyQueue = []) : Performs r tryNotifyEvent r []
  | tryNotify (x : Nat) (queue : List Nat) (hidle : r.status = .idle)
      (hqueue : r.notifyQueue = x :: queue) :
      Performs r tryNotifyEvent { r with status := .waitNotifyAck } (notifyEvent x)
  | push (request : ResidentRequest) :
      Performs r (push request) ({ r with pipeWr := r.pipeWr ++ [request] }.recordSent request) []
  | pullData (callback : ResidentPullCallback) (arg : Option Nat) (hnone : r.pullCallback = none) :
      Performs r (pullData callback arg)
        { r with pullCallback := some callback, pullCallbackArg := arg.getD r.pullCallbackArg } []
  | updateLogStatusToStart (x : Nat) :
      Performs r (updateLogStatusToStart x) (r.setLog x { r.logs x with status := .started }) []
  | logEndExecAction (x : Nat) (status : ActionLogStatus) (code : ActionLogExecFailureCode) :
      Performs r (logEndExecAction x status code) (r.setLog x ⟨status, code⟩) []
  | deleteFrontNotifyInfo (x : Nat) (queue : List Nat) (hqueue : r.notifyQueue = x :: queue) :
      Performs r deleteFrontNotifyInfo { r with notifyQueue := queue } []
  | setStatus (status : ResidentStatus) : Performs r (setStatus status) { r with status := status } []
  | setDontLog : Performs r setDontLog { r with dontLog := true } []
  | kill : Performs r kill { r with exitStatus := some (r.exitStatus.getD .killed) } []
  | postCollectedProc : Performs r postCollectedProc r
      (if r.dontLog then [] else
        [ResidentOp.logEndExecAction 0 (r.exitStatus.getD .killed).log.status
          (r.exitStatus.getD .killed).log.failureCode])
  | deleteOnGLibEventLoop : Performs r deleteOnGLibEventLoop { r with isToDelete := true } []
  | deleteNotifyQueue :
      Performs r deleteNotifyQueue { r with notifyQueue := [], isDeleted := true } []
  | eraseFromMap : Performs r eraseFromMap { r with inRunningResidentMap := false } []

theorem performs_of_perform {r r' : ResidentInfo} {op : ResidentOp} {next : List ResidentOp}
    (hperform : r.perform op = .ok (r', next)) : Performs r op r' next := by
  cases op with
  | tryNotifyEvent =>
    simp only [perform] at hperform
    split at hperform
    next hbusy =>
      obtain ⟨rfl, rfl⟩ := Prod.mk.inj (Except.ok.inj hperform)
      exact .tryNothing (.inl hbusy)
    next hidle =>
      split at hperform
      next hqueue =>
        obtain ⟨rfl, rfl⟩ := Prod.mk.inj (Except.ok.inj hperform)
        exact .tryNothing (.inr hqueue)
      next x queue hqueue =>
        obtain ⟨rfl, rfl⟩ := Prod.mk.inj (Except.ok.inj hperform)
        exact .tryNotify x queue (not_not.mp hidle) hqueue
  | pullData callback arg =>
    simp only [perform] at hperform
    split at hperform
    · cases hperform
    next hnone =>
      obtain ⟨rfl, rfl⟩ := Prod.mk.inj (Except.ok.inj hperform)
      exact .pullData callback arg (Option.not_isSome_iff_eq_none.mp hnone)
  | deleteFrontNotifyInfo =>
    simp only [perform] at hperform
    split at hperform
    · cases hperform
    next x queue hqueue =>
      obtain ⟨rfl, rfl⟩ := Prod.mk.inj (Except.ok.inj hperform)
      exact .deleteFrontNotifyInfo x queue hqueue
  | push request =>
    obtain ⟨rfl, rfl⟩ := Prod.mk.inj (Except.ok.inj hperform)
    exact .push request
  | _ =>
    obtain ⟨rfl, rfl⟩ := Prod.mk.inj (Except.ok.inj hperform)
    constructor

/-! ## Programs -/

/-- What a thread that calls `checkEvents` may have to do. -/
inductive ThreadOps : List ResidentOp → Prop
  | done : ThreadOps []
  | tryNotifyEvent : ThreadOps [tryNotifyEvent]
  | push (x : Nat) : ThreadOps [push (.notifyEvent x), pullData .gotNotifyEventAckCb (some x),
      updateLogStatusToStart x]
  | pullData (x : Nat) : ThreadOps [pullData .gotNotifyEventAckCb (some x),
    updateLogStatusToStart x]
  | updateLog (x : Nat) : ThreadOps [updateLogStatusToStart x]

/-- What the main loop may have to do. `launchedCb` goes on after it has closed the resident. -/
inductive MainOps : List ResidentOp → Prop
  | thread {ops : List ResidentOp} (hops : ThreadOps ops) : MainOps ops
  | sendParameters : MainOps [push .parameters, pullData .moduleLoadedCb none,
      setStatus .waitParamAck]
  | pullData : MainOps [pullData .moduleLoadedCb none, setStatus .waitParamAck]
  | waitParamAck : MainOps [setStatus .waitParamAck]
  | ack (x : Nat) : MainOps [logEndExecAction x .succeeded .none, deleteFrontNotifyInfo,
      setStatus .idle, tryNotifyEvent]
  | deleteFront : MainOps [deleteFrontNotifyInfo, setStatus .idle, tryNotifyEvent]
  | setIdle : MainOps [setStatus .idle, tryNotifyEvent]
  | close (x : Nat) (code : ActionLogExecFailureCode) {ops : List ResidentOp}
      (hops : ops = [] ∨ ops = ResidentInfo.sendParameters) :
      MainOps (logEndExecAction x .failed code :: setDontLog :: kill :: ops)
  | setDontLog {ops : List ResidentOp} (hops : ops = [] ∨ ops = ResidentInfo.sendParameters) :
      MainOps (setDontLog :: kill :: ops)
  | kill {ops : List ResidentOp} (hops : ops = [] ∨ ops = ResidentInfo.sendParameters) :
      MainOps (kill :: ops)
  | deleteNotifyQueue : MainOps [deleteNotifyQueue, eraseFromMap]
  | eraseFromMap : MainOps [eraseFromMap]

/-- What the collector may have to do for a process that has ended. -/
inductive CollectorOps (childExit : ChildExit) : List ResidentOp → Prop
  | done : CollectorOps childExit []
  | postCollectedProc : CollectorOps childExit [postCollectedProc, deleteOnGLibEventLoop]
  | logEnd : CollectorOps childExit
      [logEndExecAction 0 childExit.log.status childExit.log.failureCode, deleteOnGLibEventLoop]
  | delete : CollectorOps childExit [deleteOnGLibEventLoop]

theorem ThreadOps.next {op : ResidentOp} {ops next : List ResidentOp} (h : ThreadOps (op :: ops))
    {r r' : ResidentInfo} (hperforms : Performs r op r' next) : ThreadOps (next ++ ops) := by
  cases h with
  | tryNotifyEvent =>
    cases hperforms with
    | tryNothing _ => exact .done
    | tryNotify x _ _ _ => exact .push x
  | push x =>
    cases hperforms
    exact .pullData x
  | pullData x =>
    cases hperforms
    exact .updateLog x
  | updateLog x =>
    cases hperforms
    exact .done

theorem mainOps_of_parameters {ops : List ResidentOp}
    (hops : ops = [] ∨ ops = ResidentInfo.sendParameters) : MainOps ops := by
  rcases hops with rfl | rfl
  · exact .thread .done
  · exact .sendParameters

theorem MainOps.next {op : ResidentOp} {ops next : List ResidentOp} (h : MainOps (op :: ops))
    {r r' : ResidentInfo} (hperforms : Performs r op r' next) : MainOps (next ++ ops) := by
  cases h with
  | thread hops => exact .thread (hops.next hperforms)
  | sendParameters =>
    cases hperforms
    exact .pullData
  | pullData =>
    cases hperforms
    exact .waitParamAck
  | waitParamAck =>
    cases hperforms
    exact .thread .done
  | ack x =>
    cases hperforms
    exact .deleteFront
  | deleteFront =>
    cases hperforms
    exact .setIdle
  | setIdle =>
    cases hperforms
    exact .thread .tryNotifyEvent
  | close x code hops =>
    cases hperforms
    exact .setDontLog hops
  | setDontLog hops =>
    cases hperforms
    exact .kill hops
  | kill hops =>
    cases hperforms
    exact mainOps_of_parameters hops
  | deleteNotifyQueue =>
    cases hperforms
    exact .eraseFromMap
  | eraseFromMap =>
    cases hperforms
    exact .thread .done

/-- What a callback may have to do, for the packet that it is called with. -/
inductive CallbackOps (x : Nat) :
    ResidentPullCallback → Option ResidentPacket → List ResidentOp → Prop
  | close (callback : ResidentPullCallback) (packet : Option ResidentPacket)
      (code : ActionLogExecFailureCode)
      (hbad : callback = .gotNotifyEventAckCb → packet.map (·.type) ≠ some .notifyEventAck) :
      CallbackOps x callback packet (closeResident x code)
  | closeAndSend (packet : ResidentPacket) (htype : packet.type ≠ .launched) :
      CallbackOps x .launchedCb (some packet)
        (closeResident x .pipeReadDataUnexpected ++ sendParameters)
  | sendParameters (packet : ResidentPacket) (htype : packet.type = .launched) :
      CallbackOps x .launchedCb (some packet) ResidentInfo.sendParameters
  | setIdle (packet : ResidentPacket) (htype : packet.type = .moduleLoaded) :
      CallbackOps x .moduleLoadedCb (some packet) [setStatus .idle, tryNotifyEvent]
  | ack (packet : ResidentPacket) (htype : packet.type = .notifyEventAck) :
      CallbackOps x .gotNotifyEventAckCb (some packet)
        [logEndExecAction x .succeeded .none, deleteFrontNotifyInfo, setStatus .idle,
          tryNotifyEvent]

theorem callbackOps_pullCallbackOps (callback : ResidentPullCallback)
    (packet : Option ResidentPacket) (x : Nat) :
    CallbackOps x callback packet (pullCallbackOps callback packet x) := by
  cases callback with
  | launchedCb =>
    cases packet with
    | none => exact .close _ _ _ nofun
    | some packet =>
      simp only [pullCallbackOps, launchedCb]
      split
      · exact .close _ _ _ nofun
      · split
        next htype => exact .closeAndSend packet htype
        next htype => exact .sendParameters packet (not_not.mp htype)
  | moduleLoadedCb =>
    cases packet with
    | none => exact .close _ _ _ nofun
    | some packet =>
      simp only [pullCallbackOps, moduleLoadedCb]
      split
      · exact .close _ _ _ nofun
      next htype =>
        split
        · exact .close _ _ _ nofun
        · exact .setIdle packet (not_not.mp htype)
  | gotNotifyEventAckCb =>
    cases packet with
    | none => exact .close _ _ _ nofun
    | some packet =>
      simp only [pullCallbackOps, gotNotifyEventAckCb]
      split
      next htype => exact .close _ _ _ (fun _ heq => htype (Option.some.inj heq))
      next htype => exact .ack packet (not_not.mp htype)

theorem CallbackOps.mainOps {x : Nat} {callback : ResidentPullCallback}
    {packet : Option ResidentPacket} {ops : List ResidentOp}
      (h : CallbackOps x callback packet ops) :
    MainOps ops := by
  cases h with
  | close callback packet code _ => exact .close x code (.inl rfl)
  | closeAndSend packet htype => exact .close x _ (.inr rfl)
  | sendParameters packet htype => exact .sendParameters
  | setIdle packet htype => exact .setIdle
  | ack packet htype => exact .ack x

theorem mainOps_residentActionTimeoutCb (notifyQueue : List Nat) :
    MainOps (residentActionTimeoutCb notifyQueue) := by
  cases notifyQueue with
  | nil => exact .kill (.inl rfl)
  | cons x queue => exact .close x .killedTimeout (.inl rfl)

/-- A thread leaves the process and the object alive or dead. -/
theorem ThreadOps.frame {op : ResidentOp} {ops next : List ResidentOp} (h : ThreadOps (op :: ops))
    {r r' : ResidentInfo} (hperforms : Performs r op r' next) :
    r'.exitStatus = r.exitStatus ∧ r'.isCollected = r.isCollected ∧
      r'.isToDelete = r.isToDelete ∧ r'.isDeleted = r.isDeleted := by
  cases h <;> cases hperforms <;> exact ⟨rfl, rfl, rfl, rfl⟩

theorem ThreadOps.not_mem_deleteNotifyQueue {ops : List ResidentOp} (h : ThreadOps ops) :
    deleteNotifyQueue ∉ ops := by
  cases h <;> simp

/-- The main loop deletes the object before anything else, or does not delete it. -/
theorem MainOps.frame {op : ResidentOp} {ops next : List ResidentOp} (h : MainOps (op :: ops))
    {r r' : ResidentInfo} (hperforms : Performs r op r' next) :
    r'.exitStatus.getD .killed = r.exitStatus.getD .killed ∧
      (r.exitStatus.isSome → r'.exitStatus.isSome) ∧ r'.isCollected = r.isCollected ∧
      r'.isToDelete = r.isToDelete ∧ ResidentOp.deleteNotifyQueue ∉ next ++ ops ∧
      (r'.isDeleted = r.isDeleted ∨
        op = ResidentOp.deleteNotifyQueue ∧ next ++ ops = [ResidentOp.eraseFromMap]) := by
  cases h with
  | thread hops =>
    obtain ⟨hexit, hcollected, hto, hdeleted⟩ := hops.frame hperforms
    refine ⟨by rw [hexit], by rw [hexit]; exact id, hcollected, hto, ?_, .inl hdeleted⟩
    exact (hops.next hperforms).not_mem_deleteNotifyQueue
  | close x code hops =>
    cases hperforms
    rcases hops with rfl | rfl <;> simp [setLog, ResidentInfo.sendParameters]
  | setDontLog hops =>
    cases hperforms
    rcases hops with rfl | rfl <;> simp [ResidentInfo.sendParameters]
  | kill hops =>
    cases hperforms
    rcases hops with rfl | rfl <;> simp [ResidentInfo.sendParameters]
  | _ =>
    cases hperforms
    simp [setLog, recordSent]

theorem MainOps.ne_postCollectedProc {op : ResidentOp} {ops : List ResidentOp}
    (h : MainOps (op :: ops)) : op ≠ postCollectedProc := by
  rintro rfl
  cases h with
  | thread hops => cases hops

/-- The first notification is deleted on the way to the status idle. -/
theorem MainOps.deleteFront_ops {ops : List ResidentOp} (h : MainOps (deleteFrontNotifyInfo :: ops)) :
    ops = [setStatus .idle, ResidentOp.tryNotifyEvent] := by
  cases h with
  | thread hops => cases hops
  | deleteFront => rfl

/-- Who has no turn has nothing to do with the queue. -/
theorem ThreadOps.needs {ops : List ResidentOp} (h : ThreadOps ops) (hturn : weight turn ops = 0)
    (r : ResidentInfo) : ∀ op ∈ ops, op.Needs r := by
  intro op hop
  cases h with
  | done => cases hop
  | tryNotifyEvent =>
    obtain rfl := List.mem_singleton.mp hop
    trivial
  | push x => cases hturn
  | pullData x => cases hturn
  | updateLog x =>
    obtain rfl := List.mem_singleton.mp hop
    trivial

/-- A callback is about the notification that is its argument, and has one turn at most. -/
theorem CallbackOps.needs {x : Nat} {callback : ResidentPullCallback}
    {packet : Option ResidentPacket} {ops : List ResidentOp} (h : CallbackOps x callback packet ops)
    {r : ResidentInfo} (hhead : r.notifyQueue.head? = some x) (harg : r.pullCallbackArg = x) :
    weight turn ops ≤ 1 ∧ ∀ op ∈ ops, op.Needs r := by
  have hne : r.notifyQueue ≠ [] := by
    intro hnil
    rw [hnil] at hhead
    cases hhead
  cases h <;> simp [closeResident, ResidentInfo.sendParameters, turn, Needs, hhead, harg, hne]

theorem CallbackOps.not_mem_deleteNotifyQueue {x : Nat} {callback : ResidentPullCallback}
    {packet : Option ResidentPacket} {ops : List ResidentOp}
    (h : CallbackOps x callback packet ops) : deleteNotifyQueue ∉ ops := by
  cases h <;> simp [closeResident, ResidentInfo.sendParameters]

theorem residentActionTimeoutCb_needs (r : ResidentInfo) :
    weight turn (residentActionTimeoutCb r.notifyQueue) ≤ 0 ∧
      ∀ op ∈ residentActionTimeoutCb r.notifyQueue, op.Needs r := by
  cases hqueue : r.notifyQueue with
  | nil => simp [residentActionTimeoutCb, turn, Needs]
  | cons x queue => simp [residentActionTimeoutCb, closeResident, turn, Needs, hqueue]

end ResidentInfo

namespace ResidentSystem

open ResidentOp ResidentInfo

/-! ## Steps -/

theorem isListening_iff (s : ResidentSystem) :
    s.isListening = true ↔ s.mainLoop = [] ∧ s.info.isDeleted = false := by
  simp [isListening]

/-- What a step does. -/
inductive Moves (s : ResidentSystem) : ResidentEvent → ResidentSystem → Prop
  | stay (event : ResidentEvent) : Moves s event s
  | queueNotifyInfo (hmap : s.info.inRunningResidentMap = true) : Moves s .execResidentAction
      { s with info := s.info.queueNotifyInfo, threads := [tryNotifyEvent] :: s.threads }
  | thread {op : ResidentOp} {ops next : List ResidentOp} {rest : List (List ResidentOp)}
      {info : ResidentInfo} (hops : ThreadOps (op :: ops))
      (hperm : s.threads.Perm ((op :: ops) :: rest)) (hperforms : Performs s.info op info next) :
      Moves s (.thread (op :: ops)) { s with info := info, threads := (next ++ ops) :: rest }
  | mainLoop {op : ResidentOp} {ops next : List ResidentOp} {info : ResidentInfo}
      (hmain : s.mainLoop = op :: ops) (hperforms : Performs s.info op info next) :
      Moves s .mainLoop { s with info := info, mainLoop := next ++ ops }
  | collector {op : ResidentOp} {ops next : List ResidentOp} {info : ResidentInfo}
      (hcollector : s.collector = op :: ops) (hperforms : Performs s.info op info next) :
      Moves s .collector { s with info := info, collector := next ++ ops }
  | answer (packet : ResidentPacket) (halive : s.info.exitStatus = none) :
      Moves s (.answer packet)
        { s with info := { s.info with
          pipeWr := s.info.pipeWr.tail
          pipeRd := s.info.pipeRd ++ [(packet, s.info.pipeWr.head?)] } }
  | exit (childExit : ChildExit) : Moves s (.exit childExit)
      { s with info := { s.info with exitStatus := some (s.info.exitStatus.getD childExit) } }
  | read (hmain : s.mainLoop = []) (hnot : s.info.isDeleted = false)
      {callback : ResidentPullCallback} {packet : ResidentPacket}
      {request : Option ResidentRequest} {pipeRd : List (ResidentPacket × Option ResidentRequest)}
      (hcallback : s.info.pullCallback = some callback)
      (hpipe : s.info.pipeRd = (packet, request) :: pipeRd) :
      Moves s .read { s with
        info := { s.info with pullCallback := none, pipeRd := pipeRd }.recordAck callback packet request
        mainLoop := pullCallbackOps callback (some packet) s.info.pullCallbackArg }
  | readError (hmain : s.mainLoop = []) (hnot : s.info.isDeleted = false)
      {callback : ResidentPullCallback} (hcallback : s.info.pullCallback = some callback) :
      Moves s .readError { s with
        info := { s.info with pullCallback := none }
        mainLoop := pullCallbackOps callback none s.info.pullCallbackArg }
  | pipeError (hmain : s.mainLoop = []) (hnot : s.info.isDeleted = false) :
      Moves s .pipeError { s with mainLoop := [kill] }
  | timeout (hmain : s.mainLoop = []) (hnot : s.info.isDeleted = false) :
      Moves s .timeout { s with mainLoop := residentActionTimeoutCb s.info.notifyQueue }
  | delete (hmain : s.mainLoop = []) (hnot : s.info.isDeleted = false)
      (hto : s.info.isToDelete = true) :
      Moves s .delete { s with mainLoop := [deleteNotifyQueue, eraseFromMap] }
  | collect (hexit : s.info.exitStatus.isSome) (hnot : s.info.isCollected = false) :
      Moves s .collect { s with
        info := { s.info with isCollected := true }
        collector := [postCollectedProc, deleteOnGLibEventLoop] }

/-- What holds in every run. The object is deleted when the collector is done with it. -/
structure Sound (s : ResidentSystem) : Prop where
  turns : s.info.TurnsSound (s.mainLoop :: s.threads)
  threads : ∀ ops ∈ s.threads, ThreadOps ops
  mainLoop : MainOps s.mainLoop
  collector : CollectorOps (s.info.exitStatus.getD .killed) s.collector
  collected : s.info.isCollected = false → s.collector = [] ∧ s.info.isToDelete = false
  exited : s.info.isCollected = true → s.info.exitStatus.isSome
  toDelete : s.info.isToDelete = true → s.collector = []
  deleting : deleteNotifyQueue ∈ s.mainLoop → s.info.isToDelete = true
  deleted : s.info.isDeleted = true →
    s.info.isToDelete = true ∧ (s.mainLoop = [] ∨ s.mainLoop = [eraseFromMap])

theorem sound_launched : launched.Sound where
  turns := ⟨by decide, by simp [launched], by decide, 0, by decide, rfl⟩
  threads := by simp [launched]
  mainLoop := .thread .done
  collector := .done
  collected := fun _ => ⟨rfl, rfl⟩
  exited := nofun
  toDelete := nofun
  deleting := nofun
  deleted := nofun

/-- A thread puts a notification into the queue. -/
theorem Sound.queueNotifyInfo {s : ResidentSystem} (h : Sound s) :
    Sound { s with info := s.info.queueNotifyInfo, threads := [tryNotifyEvent] :: s.threads } := by
  refine ⟨?_, ?_, h.mainLoop, h.collector, h.collected, h.exited, h.toDelete, h.deleting, h.deleted⟩
  · have hturns := h.turns.queueNotifyInfo
    refine ⟨?_, ?_, hturns.pulled, hturns.queue⟩
    · have hone := hturns.one
      simp only [load_cons, weight_cons, weight_nil, turn] at hone ⊢
      omega
    · intro hnot ops hops op hop
      rcases List.mem_cons.mp hops with rfl | hops
      · exact hturns.needs hnot _ (List.mem_cons_self ..) op hop
      · rcases List.mem_cons.mp hops with rfl | hops
        · obtain rfl := List.mem_singleton.mp hop
          trivial
        · exact hturns.needs hnot ops (List.mem_cons_of_mem _ hops) op hop
  · intro ops hops
    rcases List.mem_cons.mp hops with rfl | hops
    · exact .tryNotifyEvent
    · exact h.threads ops hops

theorem Sound.thread {s : ResidentSystem} (h : Sound s) {op : ResidentOp} {ops : List ResidentOp}
    {rest : List (List ResidentOp)} (hperm : s.threads.Perm ((op :: ops) :: rest)) :
    ∃ info next, s.info.perform op = .ok (info, next) ∧
      Sound { s with info := info, threads := (next ++ ops) :: rest } := by
  have hops : ThreadOps (op :: ops) := h.threads _ (hperm.mem_iff.mpr (List.mem_cons_self ..))
  have hturns := h.turns.perm ((hperm.cons s.mainLoop).trans (List.Perm.swap ..))
  obtain ⟨info, next, hperform, hturns'⟩ :=
    hturns.perform (by cases hops <;> nofun) (by cases hops <;> nofun)
  have hperforms := performs_of_perform hperform
  obtain ⟨hexit, hcollected, hto, hdeleted⟩ := hops.frame hperforms
  refine ⟨info, next, hperform, hturns'.perm (List.Perm.swap ..), ?_, h.mainLoop, ?_, ?_, ?_, ?_,
    ?_,
    ?_⟩
  · intro ops' hops'
    rcases List.mem_cons.mp hops' with rfl | hops'
    · exact hops.next hperforms
    · exact h.threads ops' (hperm.mem_iff.mpr (List.mem_cons_of_mem _ hops'))
  · show CollectorOps (info.exitStatus.getD .killed) s.collector
    rw [hexit]
    exact h.collector
  · show info.isCollected = false → _
    rw [hcollected, hto]
    exact h.collected
  · show info.isCollected = true → info.exitStatus.isSome
    rw [hcollected, hexit]
    exact h.exited
  · show info.isToDelete = true → _
    rw [hto]
    exact h.toDelete
  · show _ → info.isToDelete = true
    rw [hto]
    exact h.deleting
  · show info.isDeleted = true → info.isToDelete = true ∧ _
    rw [hdeleted, hto]
    exact h.deleted

/-- While the main loop has the turn, no thread has to do with the queue. -/
theorem Sound.pop {s : ResidentSystem} (h : Sound s) {ops : List ResidentOp}
    (hmain : s.mainLoop = deleteFrontNotifyInfo :: ops) :
    ∃ info, s.info.perform deleteFrontNotifyInfo = .ok (info, []) ∧
      info.TurnsSound (ops :: s.threads) := by
  have hturns := hmain ▸ h.turns
  have hone := hturns.one
  obtain rfl := (hmain ▸ h.mainLoop).deleteFront_ops
  have hnonneg := load_nonneg turn_nonneg s.threads
  simp only [load_cons, weight_cons, weight_nil, turn, openTurns] at hone
  have hnone : s.info.pullCallback = none := by
    cases hcallback : s.info.pullCallback with
    | none => rfl
    | some callback =>
      rw [hcallback, Option.isSome_some, if_pos rfl] at hone
      split at hone <;> omega
  have hnot : s.info.isDeleted = false := by
    cases hdeleted : s.info.isDeleted with
    | false => rfl
    | true => rcases (h.deleted hdeleted).2 with heq | heq <;> cases hmain.symm.trans heq
  obtain ⟨x, queue, -, hperform, hturns'⟩ := hturns.pop hnot hnone (by
    intro ops hops op hop r'
    rcases List.mem_cons.mp hops with rfl | hops
    · rcases List.mem_cons.mp hop with rfl | hop
      · trivial
      · obtain rfl := List.mem_singleton.mp hop
        trivial
    · apply (h.threads ops hops).needs _ r' op hop
      have hle := le_load_program turn_nonneg hops
      have hweight := weight_nonneg turn_nonneg ops
      split at hone <;> split at hone <;> omega)
  exact ⟨_, hperform, hturns'⟩

theorem Sound.mainLoop_step {s : ResidentSystem} (h : Sound s) {op : ResidentOp}
    {ops : List ResidentOp} (hmain : s.mainLoop = op :: ops) :
    ∃ info next, s.info.perform op = .ok (info, next) ∧
      Sound { s with info := info, mainLoop := next ++ ops } := by
  have hops : MainOps (op :: ops) := hmain ▸ h.mainLoop
  obtain ⟨info, next, hperform, hturns⟩ : ∃ info next, s.info.perform op = .ok (info, next) ∧
      info.TurnsSound ((next ++ ops) :: s.threads) := by
    by_cases hpop : op = deleteFrontNotifyInfo
    · subst hpop
      obtain ⟨info, hperform, hturns⟩ := h.pop hmain
      exact ⟨info, [], hperform, hturns⟩
    · exact (hmain ▸ h.turns).perform hpop hops.ne_postCollectedProc
  have hperforms := performs_of_perform hperform
  obtain ⟨hgetD, hexit, hcollected, hto, hnot, hdeleted⟩ := hops.frame hperforms
  refine ⟨info, next, hperform, hturns, h.threads, hops.next hperforms, ?_, ?_, ?_, ?_, ?_, ?_⟩
  · show CollectorOps (info.exitStatus.getD .killed) s.collector
    rw [hgetD]
    exact h.collector
  · show info.isCollected = false → _
    rw [hcollected, hto]
    exact h.collected
  · show info.isCollected = true → info.exitStatus.isSome
    rw [hcollected]
    exact fun hcollected => hexit (h.exited hcollected)
  · show info.isToDelete = true → _
    rw [hto]
    exact h.toDelete
  · intro hdeleting
    exact absurd hdeleting hnot
  · show info.isDeleted = true → info.isToDelete = true ∧ _
    intro hdel
    rw [hto]
    rcases hdeleted with hdeleted | ⟨rfl, hnext⟩
    · -- only the removal from the map is left of the destructor
      rw [hdeleted] at hdel
      obtain ⟨hto', hmain' | hmain'⟩ := h.deleted hdel
      · cases hmain.symm.trans hmain'
      · obtain ⟨rfl, rfl⟩ := List.cons.inj (hmain.symm.trans hmain')
        cases hperforms
        exact ⟨hto', .inl rfl⟩
    · exact ⟨h.deleting (hmain ▸ List.mem_cons_self ..), .inr hnext⟩

theorem Sound.collector_step {s : ResidentSystem} (h : Sound s) {op : ResidentOp}
    {ops : List ResidentOp} (hcollector : s.collector = op :: ops) :
    ∃ info next, s.info.perform op = .ok (info, next) ∧
      Sound { s with info := info, collector := next ++ ops } := by
  have hcollected : s.info.isCollected = true := by
    cases hnot : s.info.isCollected with
    | true => rfl
    | false => cases hcollector.symm.trans (h.collected hnot).1
  have hto : s.info.isToDelete = false := by
    cases hto : s.info.isToDelete with
    | false => rfl
    | true => cases hcollector.symm.trans (h.toDelete hto)
  have hops := h.collector
  rw [hcollector] at hops
  have hdeleted : s.info.isDeleted = false := by
    cases hdeleted : s.info.isDeleted with
    | false => rfl
    | true => cases hto.symm.trans (h.deleted hdeleted).1
  cases hops with
  | postCollectedProc =>
    refine ⟨s.info, _, rfl, h.turns, h.threads, h.mainLoop, ?_, ?_, h.exited, ?_, h.deleting,
      h.deleted⟩
    · show CollectorOps (s.info.exitStatus.getD .killed) _
      split
      · exact .delete
      · exact .logEnd
    · intro hnot
      cases hcollected.symm.trans hnot
    · intro hto'
      cases hto.symm.trans hto'
  | logEnd =>
    refine ⟨s.info.setLog 0 _, [], rfl, h.turns.congr _ rfl rfl rfl rfl rfl rfl, h.threads,
      h.mainLoop,
      .delete, ?_, h.exited, ?_, h.deleting, h.deleted⟩
    · intro hnot
      cases hcollected.symm.trans hnot
    · intro hto'
      cases hto.symm.trans hto'
  | delete =>
    refine ⟨{ s.info with isToDelete := true }, [], rfl, h.turns.congr _ rfl rfl rfl rfl rfl rfl,
      h.threads, h.mainLoop, .done, ?_, h.exited, fun _ => rfl, fun _ => rfl, ?_⟩
    · intro hnot
      cases hcollected.symm.trans hnot
    · intro hdel
      cases hdeleted.symm.trans hdel

/-- The main loop, which has nothing to do, is given a program. -/
theorem Sound.start {s : ResidentSystem} (h : Sound s) (hmain : s.mainLoop = [])
    (hnot : s.info.isDeleted = false) {info : ResidentInfo} {ops : List ResidentOp}
    (hexit : info.exitStatus = s.info.exitStatus) (hcollected : info.isCollected =
      s.info.isCollected)
    (hto : info.isToDelete = s.info.isToDelete) (hdeleted : info.isDeleted = s.info.isDeleted)
    (hqueue : info.notifyQueue = s.info.notifyQueue) (hnum : info.numQueued = s.info.numQueued)
    (harg : info.pullCallbackArg = s.info.pullCallbackArg) (hops : MainOps ops)
    (hturns : info.openTurns + weight turn ops ≤ s.info.openTurns)
    (hneeds : ∀ op ∈ ops, op.Needs info)
    (hcallback : info.pullCallback = s.info.pullCallback ∨ info.pullCallback = none)
    (hdeleting : deleteNotifyQueue ∈ ops → s.info.isToDelete = true) :
    Sound { s with info := info, mainLoop := ops } := by
  have hold := hmain ▸ h.turns
  refine ⟨?_, h.threads, hops, ?_, ?_, ?_, ?_, ?_, ?_⟩
  · apply hold.replace info ops hqueue hnum hdeleted _ (.inl harg)
    · exact fun _ => hneeds
    · intro hnot hsome
      rcases hcallback with hcallback | hnone
      · rw [hcallback] at hsome
        rw [harg]
        exact h.turns.pulled hnot hsome
      · rw [hnone] at hsome
        cases hsome
    · rw [weight_nil]
      omega
  · show CollectorOps (info.exitStatus.getD .killed) s.collector
    rw [hexit]
    exact h.collector
  · show info.isCollected = false → _
    rw [hcollected, hto]
    exact h.collected
  · show info.isCollected = true → info.exitStatus.isSome
    rw [hcollected, hexit]
    exact h.exited
  · show info.isToDelete = true → _
    rw [hto]
    exact h.toDelete
  · show _ → info.isToDelete = true
    rw [hto]
    exact hdeleting
  · show info.isDeleted = true → _
    intro hdel
    cases (hdeleted.trans hnot).symm.trans hdel

/-- A callback is called for what is read, or for an error. -/
theorem Sound.callback {s : ResidentSystem} (h : Sound s) (hmain : s.mainLoop = [])
    (hnot : s.info.isDeleted = false) {callback : ResidentPullCallback}
    (hcallback : s.info.pullCallback = some callback) {packet : Option ResidentPacket}
    {info : ResidentInfo} (hexit : info.exitStatus = s.info.exitStatus)
    (hcollected : info.isCollected = s.info.isCollected)
    (hto : info.isToDelete = s.info.isToDelete) (hdeleted : info.isDeleted = s.info.isDeleted)
    (hqueue : info.notifyQueue = s.info.notifyQueue) (hnum : info.numQueued = s.info.numQueued)
    (harg : info.pullCallbackArg = s.info.pullCallbackArg) (hstatus : info.status = s.info.status)
    (hnone : info.pullCallback = none) :
    Sound { s with
      info := info
      mainLoop := pullCallbackOps callback packet s.info.pullCallbackArg } := by
  have hops := callbackOps_pullCallbackOps callback packet s.info.pullCallbackArg
  have hhead := h.turns.pulled hnot (by rw [hcallback]; rfl)
  obtain ⟨hturn, hneeds⟩ := hops.needs (hqueue ▸ hhead) harg
  apply h.start hmain hnot hexit hcollected hto hdeleted hqueue hnum harg hops.mainOps _ hneeds
    (.inr hnone)
  · exact fun hdeleting => absurd hdeleting hops.not_mem_deleteNotifyQueue
  · simp only [openTurns, hstatus, hnone, hcallback, Option.isSome_none, Option.isSome_some,
      if_true]
    simp
    omega

theorem recordAck_eq (r : ResidentInfo) (callback : ResidentPullCallback) (packet : ResidentPacket)
    (request : Option ResidentRequest) :
    ∃ acks, r.recordAck callback packet request = { r with acks := acks } := by
  unfold recordAck
  split
  · exact ⟨_, rfl⟩
  · exact ⟨r.acks, rfl⟩

section Events

variable {s : ResidentSystem} (h : Sound s)

include h

theorem Sound.exit (childExit : ChildExit) :
    Sound { s with
      info := { s.info with exitStatus := some (s.info.exitStatus.getD childExit) } } := by
  refine ⟨h.turns.congr _ rfl rfl rfl rfl rfl rfl, h.threads, h.mainLoop, ?_, h.collected,
    fun _ => rfl, h.toDelete, h.deleting, h.deleted⟩
  cases hexit : s.info.exitStatus with
  | some childExit' => exact hexit ▸ h.collector
  | none =>
    have hnot : s.info.isCollected = false := by
      cases hcollected : s.info.isCollected with
      | false => rfl
      | true =>
        have hsome := h.exited hcollected
        rw [hexit] at hsome
        cases hsome
    show CollectorOps _ s.collector
    rw [(h.collected hnot).1]
    exact .done

theorem Sound.collect (hexit : s.info.exitStatus.isSome) (hnot : s.info.isCollected = false) :
    Sound { s with
      info := { s.info with isCollected := true }
      collector := [postCollectedProc, deleteOnGLibEventLoop] } := by
  refine ⟨h.turns.congr _ rfl rfl rfl rfl rfl rfl, h.threads, h.mainLoop, .postCollectedProc,
    ?_, fun _ => hexit, ?_, h.deleting, h.deleted⟩
  · intro hcollected
    cases hcollected
  · intro hto
    cases (h.collected hnot).2.symm.trans hto

variable (hlisten : s.isListening)

include hlisten

theorem Sound.read : Moves s .read s.read ∧ Sound s.read := by
  obtain ⟨hmain, hnot⟩ := s.isListening_iff.mp hlisten
  unfold ResidentSystem.read
  split
  next callback packet request pipeRd hcallback hpipe =>
    refine ⟨.read hmain hnot hcallback hpipe, ?_⟩
    obtain ⟨acks, hacks⟩ := recordAck_eq { s.info with pullCallback := none, pipeRd := pipeRd }
      callback packet request
    rw [hacks]
    exact h.callback hmain hnot hcallback rfl rfl rfl rfl rfl rfl rfl rfl rfl
  next => exact ⟨.stay _, h⟩

theorem Sound.readError : Moves s .readError s.readError ∧ Sound s.readError := by
  obtain ⟨hmain, hnot⟩ := s.isListening_iff.mp hlisten
  unfold ResidentSystem.readError
  split
  next callback hcallback =>
    refine ⟨.readError hmain hnot hcallback, ?_⟩
    exact h.callback hmain hnot hcallback rfl rfl rfl rfl rfl rfl rfl rfl rfl
  next => exact ⟨.stay _, h⟩

theorem Sound.pipeError : Moves s .pipeError { s with mainLoop := [kill] } ∧
    Sound { s with mainLoop := [kill] } := by
  obtain ⟨hmain, hnot⟩ := s.isListening_iff.mp hlisten
  refine ⟨.pipeError hmain hnot, ?_⟩
  apply h.start hmain hnot rfl rfl rfl rfl rfl rfl rfl (.kill (.inl rfl)) _ _ (.inl rfl)
  · simp
  · simp [turn]
  · simp [Needs]

theorem Sound.timeout :
    Moves s .timeout { s with mainLoop := residentActionTimeoutCb s.info.notifyQueue } ∧
      Sound { s with mainLoop := residentActionTimeoutCb s.info.notifyQueue } := by
  obtain ⟨hmain, hnot⟩ := s.isListening_iff.mp hlisten
  obtain ⟨hturn, hneeds⟩ := residentActionTimeoutCb_needs s.info
  refine ⟨.timeout hmain hnot, ?_⟩
  apply h.start hmain hnot rfl rfl rfl rfl rfl rfl rfl (mainOps_residentActionTimeoutCb _) _
    hneeds (.inl rfl)
  · cases s.info.notifyQueue <;> simp [residentActionTimeoutCb, closeResident]
  · omega

theorem Sound.delete (hto : s.info.isToDelete) :
    Moves s .delete { s with mainLoop := [deleteNotifyQueue, eraseFromMap] } ∧
      Sound { s with mainLoop := [deleteNotifyQueue, eraseFromMap] } := by
  obtain ⟨hmain, hnot⟩ := s.isListening_iff.mp hlisten
  refine ⟨.delete hmain hnot hto, ?_⟩
  apply h.start hmain hnot rfl rfl rfl rfl rfl rfl rfl .deleteNotifyQueue _ _ (.inl rfl)
  · exact fun _ => hto
  · simp [turn]
  · simp [Needs]

end Events

/-- Every step succeeds, whatever the order. -/
theorem Sound.step {s : ResidentSystem} (h : Sound s) (event : ResidentEvent) :
    ∃ s', s.step event = .ok s' ∧ Moves s event s' ∧ Sound s' := by
  cases event with
  | execResidentAction =>
    simp only [ResidentSystem.step, execResidentAction]
    split
    next hmap => exact ⟨_, rfl, .queueNotifyInfo hmap, h.queueNotifyInfo⟩
    next => exact ⟨s, rfl, .stay _, h⟩
  | thread ops =>
    cases ops with
    | nil => exact ⟨s, rfl, .stay _, h⟩
    | cons op ops =>
      simp only [ResidentSystem.step]
      split
      next hmem =>
        have hperm := List.perm_cons_erase hmem
        obtain ⟨info, next, hperform, hsound⟩ := h.thread hperm
        refine ⟨_, by rw [hperform]; rfl, ?_, hsound⟩
        exact .thread (h.threads _ hmem) hperm (performs_of_perform hperform)
      next => exact ⟨s, rfl, .stay _, h⟩
  | mainLoop =>
    simp only [ResidentSystem.step]
    split
    next => exact ⟨s, rfl, .stay _, h⟩
    next op ops hmain =>
      obtain ⟨info, next, hperform, hsound⟩ := h.mainLoop_step hmain
      exact ⟨_, by rw [hperform]; rfl, .mainLoop hmain (performs_of_perform hperform), hsound⟩
  | collector =>
    simp only [ResidentSystem.step]
    split
    next => exact ⟨s, rfl, .stay _, h⟩
    next op ops hcollector =>
      obtain ⟨info, next, hperform, hsound⟩ := h.collector_step hcollector
      exact ⟨_, by rw [hperform]; rfl, .collector hcollector (performs_of_perform hperform), hsound⟩
  | answer packet =>
    simp only [ResidentSystem.step, answer]
    split
    next => exact ⟨s, rfl, .stay _, h⟩
    next halive =>
      refine ⟨_, rfl, .answer packet (Option.not_isSome_iff_eq_none.mp halive), ?_⟩
      exact ⟨h.turns.congr _ rfl rfl rfl rfl rfl rfl, h.threads, h.mainLoop, h.collector,
        h.collected,
        h.exited, h.toDelete, h.deleting, h.deleted⟩
  | exit childExit => exact ⟨_, rfl, .exit childExit, h.exit childExit⟩
  | read =>
    simp only [ResidentSystem.step]
    split
    next hlisten => exact ⟨_, rfl, h.read hlisten⟩
    next => exact ⟨s, rfl, .stay _, h⟩
  | readError =>
    simp only [ResidentSystem.step]
    split
    next hlisten => exact ⟨_, rfl, h.readError hlisten⟩
    next => exact ⟨s, rfl, .stay _, h⟩
  | pipeError =>
    simp only [ResidentSystem.step]
    split
    next hlisten => exact ⟨_, rfl, h.pipeError hlisten⟩
    next => exact ⟨s, rfl, .stay _, h⟩
  | timeout =>
    simp only [ResidentSystem.step]
    split
    next hlisten => exact ⟨_, rfl, h.timeout hlisten⟩
    next => exact ⟨s, rfl, .stay _, h⟩
  | delete =>
    simp only [ResidentSystem.step]
    split
    next hlisten =>
      obtain ⟨hlisten, hto⟩ := Bool.and_eq_true_iff.mp hlisten
      exact ⟨_, rfl, h.delete hlisten hto⟩
    next => exact ⟨s, rfl, .stay _, h⟩
  | collect =>
    simp only [ResidentSystem.step]
    split
    next hdead =>
      obtain ⟨hexit, hnot⟩ := Bool.and_eq_true_iff.mp hdead
      rw [Bool.not_eq_true'] at hnot
      exact ⟨_, rfl, .collect hexit hnot, h.collect hexit hnot⟩
    next => exact ⟨s, rfl, .stay _, h⟩

end ResidentSystem

end Hatohol

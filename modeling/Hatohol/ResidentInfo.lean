import Mathlib.Logic.Function.Basic
import Hatohol.DBTablesAction
import Hatohol.Machine.Steps

/-!
# Resident actions

A resident action is a process that is told of events through a pipe and acknowledges each of them
(server/src/ActionManager.cc:92-200, 911-1183, 1236-1355, 1483-1561, ActorCollector.cc:192-281). The
threads that call `checkEvents` put notifications into a queue and try to send the first one; the
main loop reads the answers, handles timeouts and errors and deletes the object; the collector logs
the end of the process. What a thread does is a list of operations here. An operation holds a lock
all the time or touches nothing that others touch, and any other thread may come between two of them.

A notification is the number of those that were queued before it, and has the log of that number. Its
memory is read as it was, also after it has been deleted. A packet is what the callback sees of the
bytes that it pulls. The first request is the launch itself.
-/

namespace Hatohol

inductive ResidentStatus where
  | init
  | waitLaunched
  | waitParamAck
  | waitNotifyAck
  | idle
  deriving DecidableEq, Repr

/-- What the process is to answer. -/
inductive ResidentRequest where
  | launch
  | parameters
  | notifyEvent (notifyInfo : Nat)
  deriving DecidableEq, Repr

inductive ResidentPacketType where
  | launched
  | moduleLoaded
  | notifyEventAck
  | other
  deriving DecidableEq, Repr

/-- `code` is the result in the packets MODULE_LOADED and NOTIFY_EVENT_ACK. -/
structure ResidentPacket where
  bodyLen : Nat
  type : ResidentPacketType
  code : Nat
  deriving DecidableEq, Repr

inductive ResidentPullCallback where
  | launchedCb
  | moduleLoadedCb
  | gotNotifyEventAckCb
  deriving DecidableEq, Repr

/-- `pullData` sets the argument of the callback before, if there is one. -/
inductive ResidentOp where
  | tryNotifyEvent
  | push (request : ResidentRequest)
  | pullData (callback : ResidentPullCallback) (arg : Option Nat)
  | updateLogStatusToStart (logId : Nat)
  | logEndExecAction (logId : Nat) (status : ActionLogStatus) (code : ActionLogExecFailureCode)
  | deleteFrontNotifyInfo
  | setStatus (status : ResidentStatus)
  | setDontLog
  | kill
  | postCollectedProc
  | deleteOnGLibEventLoop
  | deleteNotifyQueue
  | eraseFromMap
  deriving DecidableEq, Repr

/-- The `HATOHOL_ASSERT`s. -/
inductive ResidentAssertion where
  | pullCallbackAlive
  | queueIsEmpty
  deriving DecidableEq, Repr

/-- What a log says of the end of its action. -/
structure ResidentLog where
  status : ActionLogStatus
  failureCode : ActionLogExecFailureCode
  deriving DecidableEq, Repr

/-- How a process ends. -/
inductive ChildExit where
  | exited
  | killed
  | dumped
  deriving DecidableEq, Repr

/-- (ActorCollector.cc:213-238) -/
def ChildExit.log : ChildExit → ResidentLog
  | exited => ⟨.succeeded, .none⟩
  | killed => ⟨.failed, .killedSignal⟩
  | dumped => ⟨.failed, .dumpedSignal⟩

/-- `exitStatus` is that of the process when it has ended, `dontLog` the flag of its `ActorInfo`.
    `isCollected` says that the collector has begun with the process, `isToDelete` that it has asked
    the main loop to delete the object, `isDeleted` that the destructor has deleted the queue.
    `sent` are the notifications that have been pushed, `acks` those that an acknowledgement was taken
    for, with the request that it answers. -/
structure ResidentInfo where
  notifyQueue : List Nat
  status : ResidentStatus
  inRunningResidentMap : Bool
  pullCallback : Option ResidentPullCallback
  pullCallbackArg : Nat
  pipeWr : List ResidentRequest
  pipeRd : List (ResidentPacket × Option ResidentRequest)
  logs : Nat → ResidentLog
  numQueued : Nat
  exitStatus : Option ChildExit
  dontLog : Bool
  isCollected : Bool
  isToDelete : Bool
  isDeleted : Bool
  sent : List Nat
  acks : List (Nat × Option ResidentRequest)

/-- What the threads that call `checkEvents`, the main loop and the collector have to do with it. -/
structure ResidentSystem where
  info : ResidentInfo
  threads : List (List ResidentOp)
  mainLoop : List ResidentOp
  collector : List ResidentOp

/-- A thread calls `execResidentAction`, goes on with what it has to do, or the main loop or the
    collector does; the process writes a packet or ends; the main loop calls a callback for a packet,
    for an error at reading it, for another error of a pipe or for a timeout, or deletes the object;
    the collector finds that the process has ended. -/
inductive ResidentEvent where
  | execResidentAction
  | thread (ops : List ResidentOp)
  | mainLoop
  | collector
  | answer (packet : ResidentPacket)
  | exit (childExit : ChildExit)
  | read
  | readError
  | pipeError
  | timeout
  | delete
  | collect
  deriving DecidableEq, Repr

namespace ResidentInfo

/-! ## Operations of the callbacks -/

open ResidentOp

/-- (ActionManager.cc:1337-1355) -/
def notifyEvent (notifyInfo : Nat) : List ResidentOp :=
  [push (.notifyEvent notifyInfo), pullData .gotNotifyEventAckCb (some notifyInfo),
    updateLogStatusToStart notifyInfo]

/-- (ActionManager.cc:1539-1561) The one for a notification calls the other one. -/
def closeResident (notifyInfo : Nat) (failureCode : ActionLogExecFailureCode) : List ResidentOp :=
  [logEndExecAction notifyInfo .failed failureCode, setDontLog, kill]

/-- (ActionManager.cc:1020-1029) What `launchedCb` does after the check of the type, whether it has
    succeeded or not. -/
def sendParameters : List ResidentOp :=
  [push .parameters, pullData .moduleLoadedCb none, setStatus .waitParamAck]

/-- (ActionManager.cc:994-1029) `packet` is `none` for an error. -/
def launchedCb (packet : Option ResidentPacket) (notifyInfo : Nat) : List ResidentOp :=
  match packet with
  | none => closeResident notifyInfo .pipeReadErr
  | some packet =>
      if packet.bodyLen ≠ 0 then closeResident notifyInfo .pipeReadDataUnexpected
      else
        (if packet.type ≠ .launched then closeResident notifyInfo .pipeReadDataUnexpected else []) ++
          sendParameters

def moduleLoadedFailure : Nat → ActionLogExecFailureCode
  | 1 => .entryNotFound
  | 2 => .modNotFoundSymbol
  | 3 => .modVerInvalid
  | 4 => .modInitFailure
  | 5 => .modNotFoundNotifyEvent
  | _ => .modUnknownReason

/-- (ActionManager.cc:1036-1089) -/
def moduleLoadedCb (packet : Option ResidentPacket) (notifyInfo : Nat) : List ResidentOp :=
  match packet with
  | none => closeResident notifyInfo .pipeReadErr
  | some packet =>
      if packet.type ≠ .moduleLoaded then closeResident notifyInfo .pipeReadDataUnexpected
      else if packet.code ≠ 0 then closeResident notifyInfo (moduleLoadedFailure packet.code)
      else [setStatus .idle, tryNotifyEvent]

/-- (ActionManager.cc:1096-1138) -/
def gotNotifyEventAckCb (packet : Option ResidentPacket) (notifyInfo : Nat) : List ResidentOp :=
  match packet with
  | none => closeResident notifyInfo .pipeReadErr
  | some packet =>
      if packet.type ≠ .notifyEventAck then closeResident notifyInfo .pipeReadDataUnexpected
      else
        [logEndExecAction notifyInfo .succeeded .none, deleteFrontNotifyInfo, setStatus .idle,
          tryNotifyEvent]

def pullCallbackOps : ResidentPullCallback → Option ResidentPacket → Nat → List ResidentOp
  | .launchedCb => launchedCb
  | .moduleLoadedCb => moduleLoadedCb
  | .gotNotifyEventAckCb => gotNotifyEventAckCb

/-- (ActionManager.cc:1191-1213) The other `closeResident` only kills the process. -/
def residentActionTimeoutCb (notifyQueue : List Nat) : List ResidentOp :=
  match notifyQueue with
  | [] => [kill]
  | notifyInfo :: _ => closeResident notifyInfo .killedTimeout

/-! ## Steps -/

def setLog (r : ResidentInfo) (logId : Nat) (log : ResidentLog) : ResidentInfo :=
  { r with logs := Function.update r.logs logId log }

def recordSent (r : ResidentInfo) : ResidentRequest → ResidentInfo
  | .notifyEvent notifyInfo => { r with sent := r.sent ++ [notifyInfo] }
  | _ => r

/-- Performs an operation and tells what is to be done next because of it. -/
def perform (r : ResidentInfo) :
    ResidentOp → Except ResidentAssertion (ResidentInfo × List ResidentOp)
  | tryNotifyEvent =>
      if r.status ≠ .idle then return (r, [])
      else
        match r.notifyQueue with
        | [] => return (r, [])
        | notifyInfo :: _ => return ({ r with status := .waitNotifyAck }, notifyEvent notifyInfo)
  | push request =>
      return ({ r with pipeWr := r.pipeWr ++ [request] }.recordSent request, [])
  | pullData callback arg =>
      if r.pullCallback.isSome then throw .pullCallbackAlive
      else
        return ({ r with
          pullCallback := some callback
          pullCallbackArg := arg.getD r.pullCallbackArg }, [])
  | updateLogStatusToStart logId =>
      return (r.setLog logId { r.logs logId with status := .started }, [])
  | logEndExecAction logId status code => return (r.setLog logId ⟨status, code⟩, [])
  | deleteFrontNotifyInfo =>
      match r.notifyQueue with
      | [] => throw .queueIsEmpty
      | _ :: notifyQueue => return ({ r with notifyQueue := notifyQueue }, [])
  | setStatus status => return ({ r with status := status }, [])
  | setDontLog => return ({ r with dontLog := true }, [])
  | kill => return ({ r with exitStatus := some (r.exitStatus.getD .killed) }, [])
  | postCollectedProc =>
      let log := (r.exitStatus.getD .killed).log
      return (r, if r.dontLog then [] else [logEndExecAction 0 log.status log.failureCode])
  | deleteOnGLibEventLoop => return ({ r with isToDelete := true }, [])
  | deleteNotifyQueue => return ({ r with notifyQueue := [], isDeleted := true }, [])
  | eraseFromMap => return ({ r with inRunningResidentMap := false }, [])

/-- (ActionManager.cc:1262-1301) After `launchResidentActionYard`, with the notification that the
    resident has been launched for. -/
def launched : ResidentInfo where
  notifyQueue := [0]
  status := .waitLaunched
  inRunningResidentMap := true
  pullCallback := some .launchedCb
  pullCallbackArg := 0
  pipeWr := [.launch]
  pipeRd := []
  logs := Function.update (fun _ => ⟨.invalid, .none⟩) 0 ⟨.launchingResident, .none⟩
  numQueued := 1
  exitStatus := none
  dontLog := false
  isCollected := false
  isToDelete := false
  isDeleted := false
  sent := []
  acks := []

/-- (ActionManager.cc:925-937) -/
def queueNotifyInfo (r : ResidentInfo) : ResidentInfo :=
  { r.setLog r.numQueued ⟨.residentQueuing, .none⟩ with
    notifyQueue := r.notifyQueue ++ [r.numQueued]
    numQueued := r.numQueued + 1 }

/-- The process answers the oldest request. -/
def answer (r : ResidentInfo) (packet : ResidentPacket) : ResidentInfo :=
  if r.exitStatus.isSome then r
  else { r with pipeWr := r.pipeWr.tail, pipeRd := r.pipeRd ++ [(packet, r.pipeWr.head?)] }

/-- The packet that is read is taken for an acknowledgement. -/
def recordAck (r : ResidentInfo) (callback : ResidentPullCallback) (packet : ResidentPacket)
    (request : Option ResidentRequest) : ResidentInfo :=
  if callback = .gotNotifyEventAckCb ∧ packet.type = .notifyEventAck then
    { r with acks := r.acks ++ [(r.pullCallbackArg, request)] }
  else r

end ResidentInfo

namespace ResidentSystem

open ResidentOp ResidentInfo

def launched : ResidentSystem where
  info := .launched
  threads := []
  mainLoop := []
  collector := []

/-- (ActionManager.cc:918-942) -/
def execResidentAction (s : ResidentSystem) : ResidentSystem :=
  if s.info.inRunningResidentMap then
    { s with info := s.info.queueNotifyInfo, threads := [tryNotifyEvent] :: s.threads }
  else s

/-- The main loop has nothing to do, and the object is there. -/
def isListening (s : ResidentSystem) : Bool := s.mainLoop == [] && !s.info.isDeleted

/-- A packet is read by the callback that is set. -/
def read (s : ResidentSystem) : ResidentSystem :=
  match s.info.pullCallback, s.info.pipeRd with
  | some callback, (packet, request) :: pipeRd =>
      { s with
        info := { s.info with pullCallback := none, pipeRd := pipeRd }.recordAck callback packet request
        mainLoop := pullCallbackOps callback (some packet) s.info.pullCallbackArg }
  | _, _ => s

def readError (s : ResidentSystem) : ResidentSystem :=
  match s.info.pullCallback with
  | some callback =>
      { s with
        info := { s.info with pullCallback := none }
        mainLoop := pullCallbackOps callback none s.info.pullCallbackArg }
  | none => s

/-- What cannot happen leaves the state as it is. -/
def step (s : ResidentSystem) : ResidentEvent → Except ResidentAssertion ResidentSystem
  | .execResidentAction => return s.execResidentAction
  | .thread [] => return s
  | .thread (op :: ops) =>
      if op :: ops ∈ s.threads then do
        let (info, next) ← s.info.perform op
        return { s with info := info, threads := (next ++ ops) :: s.threads.erase (op :: ops) }
      else return s
  | .mainLoop =>
      match s.mainLoop with
      | [] => return s
      | op :: ops => do
          let (info, next) ← s.info.perform op
          return { s with info := info, mainLoop := next ++ ops }
  | .collector =>
      match s.collector with
      | [] => return s
      | op :: ops => do
          let (info, next) ← s.info.perform op
          return { s with info := info, collector := next ++ ops }
  | .answer packet => return { s with info := s.info.answer packet }
  | .exit childExit =>
      return { s with
        info := { s.info with exitStatus := some (s.info.exitStatus.getD childExit) } }
  | .read => return if s.isListening then s.read else s
  | .readError => return if s.isListening then s.readError else s
  | .pipeError => return if s.isListening then { s with mainLoop := [kill] } else s
  | .timeout =>
      return if s.isListening then
        { s with mainLoop := residentActionTimeoutCb s.info.notifyQueue } else s
  | .delete =>
      return if s.isListening && s.info.isToDelete then
        { s with mainLoop := [deleteNotifyQueue, eraseFromMap] } else s
  | .collect =>
      return if s.info.exitStatus.isSome && !s.info.isCollected then
        { s with
          info := { s.info with isCollected := true }
          collector := [postCollectedProc, deleteOnGLibEventLoop] }
      else s

end ResidentSystem

end Hatohol

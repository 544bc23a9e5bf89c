import Mathlib.Data.List.Basic

/-!
# The thread of an incident sender

Jobs are queued by any thread and sent by the one of the sender, which tries again where the tracker
was not reached, up to a limit (server/src/IncidentSender.cc:101-252, 390-405). Any thread may ask
the sender to exit.
-/

namespace Hatohol

inductive JobStatus where
  | queued
  | started
  | waitingRetry
  | retrying
  | succeeded
  | failed
  deriving DecidableEq, Repr

/-- What `send` returns: HTERR_OK, HTERR_FAILED_TO_SEND_INCIDENT or any other code. -/
inductive SendResult where
  | ok
  | failedToSendIncident
  | otherError
  deriving DecidableEq, Repr

/-- Where `mainThread` is. The job is named by its place among those that have been queued, and `i`
    counts the retries. -/
inductive SenderStage where
  /-- Before `jobSemaphore.wait()`. -/
  | waiting
  /-- `waitNextJob` has returned the job. -/
  | started (job : Nat)
  | sending (job i : Nat)
  /-- `send` has not reached the tracker, and the limit is not reached either. -/
  | refused (job i : Nat)
  /-- In `usleep` before the next retry. -/
  | sleeping (job i : Nat)
  | exited
  deriving DecidableEq, Repr

/-- The calls of `notifyStatus` and `send` are kept with their jobs, in their order. A job that has
    a callback passes each status on to it. -/
structure IncidentSender where
  retryLimit : Nat
  queue : List Nat
  posts : Nat
  exitRequested : Bool
  thread : SenderStage
  queued : Nat
  deleted : Bool
  notified : List (Nat × JobStatus)
  sends : List Nat
  deriving DecidableEq, Repr

namespace IncidentSender

def new (retryLimit : Nat) : IncidentSender :=
  ⟨retryLimit, [], 0, false, .waiting, 0, false, [], []⟩

/-- (IncidentSender.cc:76-83) -/
def notifyStatus (s : IncidentSender) (job : Nat) (status : JobStatus) : IncidentSender :=
  { s with notified := s.notified ++ [(job, status)] }

/-- (IncidentSender.cc:134-141) -/
def pushJob (s : IncidentSender) : IncidentSender :=
  let pushed := { s with queue := s.queue ++ [s.queued], queued := s.queued + 1, posts := s.posts + 1 }
  pushed.notifyStatus s.queued .queued

/-- (IncidentSender.cc:143-156) Without a job the loop of the thread ends. -/
def popJob (s : IncidentSender) : IncidentSender :=
  match s.queue with
  | [] => { s with thread := .exited }
  | job :: rest =>
      let popped := { s with queue := rest, thread := .started job }
      popped.notifyStatus job .started

/-- (IncidentSender.cc:158-165) The thread blocks where nothing has been posted. -/
def waitNextJob (s : IncidentSender) : IncidentSender :=
  if s.posts = 0 then s
  else
    let s := { s with posts := s.posts - 1 }
    if s.exitRequested then { s with thread := .exited } else s.popJob

/-- The last status of a job (IncidentSender.cc:208-214); the thread waits for the next one. -/
def endJob (s : IncidentSender) (job : Nat) (status : JobStatus) : IncidentSender :=
  notifyStatus { s with thread := .waiting } job status

/-- A call of `send` in the loop of `trySend` (IncidentSender.cc:190-197). -/
def send (s : IncidentSender) (job i : Nat) (result : SendResult) : IncidentSender :=
  let sent := { s with sends := s.sends ++ [job] }
  match result with
  | .ok => sent.endJob job .succeeded
  | .otherError => sent.endJob job .failed
  | .failedToSendIncident =>
      if i = s.retryLimit then sent.endJob job .failed else { sent with thread := .refused job i }

/-- The next step of the thread (IncidentSender.cc:188-216, 390-405). Each test of
    `isExitRequested` is in a step of its own, and `result` is what `send` returns if it is called. -/
def advance (s : IncidentSender) (result : SendResult) : IncidentSender :=
  match s.thread with
  | .waiting => s.waitNextJob
  | .started job =>
      if s.exitRequested then { s with thread := .waiting }
      else { s with thread := .sending job 0 }
  | .sending job i => s.send job i result
  | .refused job i =>
      if s.exitRequested then s.endJob job .failed
      else notifyStatus { s with thread := .sleeping job i } job .waitingRetry
  | .sleeping job i =>
      if s.exitRequested then s.endJob job .failed
      else notifyStatus { s with thread := .sending job (i + 1) } job .retrying
  | .exited => s

/-- The rest of the destructor: `exitSync` waits for the end of the thread, and what is queued then
    is deleted (IncidentSender.cc:123-132, 226-229). -/
def delete (s : IncidentSender) : IncidentSender :=
  if s.thread = .exited then { s with queue := [], deleted := true } else s

inductive Input where
  | queue
  /-- The first part of `exitSync`. -/
  | requestExit
  /-- The post of `waitExit`. -/
  | waitExit
  | advance (result : SendResult)
  | delete

/-- Nothing is asked of a sender that has been deleted. -/
def next (s : IncidentSender) (input : Input) : IncidentSender :=
  if s.deleted then s
  else
    match input with
    | .queue => s.pushJob
    | .requestExit => { s with exitRequested := true }
    | .waitExit => { s with posts := s.posts + 1 }
    | .advance result => s.advance result
    | .delete => s.delete

/-- What the callback of a job has been told. -/
def statuses (s : IncidentSender) (job : Nat) : List JobStatus :=
  (s.notified.filter fun told => told.1 = job).map Prod.snd

/-- The jobs that have been started, in that order. -/
def startedJobs (s : IncidentSender) : List Nat :=
  (s.notified.filter fun told => told.2 = .started).map Prod.fst

end IncidentSender

end Hatohol

import Mathlib.Data.Finset.Lattice.Fold
import Mathlib.Order.Lattice.Nat
import Hatohol.Machine.Steps

/-!
# The command actions on stage

Command actions run as child processes, and no more than a fixed number at once
(ActionManager.cc:240-409, 820-872, 1431-1477). An action that may run reserves its place, is
spawned, and is then put into the set of the running ones under its log ID. One that may not waits in
a list. It is taken out of it after a child has been collected. Every function of the context holds
its lock, but the lock is released in between. Log and reservation IDs are counted without a bound.
-/

namespace Hatohol

/-- `HATOHOL_ASSERT`s that end the program. -/
inductive CommandAssertion where
  | notFoundReservationId (reservationId : Nat)
  | failedToInsert (logId : Nat)
  | notFoundLogId (logId : Nat)
  deriving DecidableEq, Repr

/-- A `WaitingCommandActionInfo` is given by its log ID. -/
structure CommandActionContext where
  waitingList : List Nat
  runningSet : Finset Nat
  reservedSet : Finset Nat
  deriving DecidableEq

namespace CommandActionContext

def empty : CommandActionContext := ⟨[], ∅, ∅⟩

def getNumberOfOnstageCommandActors (ctx : CommandActionContext) : Nat :=
  ctx.runningSet.card + ctx.reservedSet.card

def isFullHouse (numActorLimit : Nat) (ctx : CommandActionContext) : Bool :=
  numActorLimit ≤ ctx.getNumberOfOnstageCommandActors

def isAvailable (ctx : CommandActionContext) (id : Nat) : Bool := id ∉ ctx.runningSet

/-- The loop of `getReservationId`, of at most as many rounds as actions are running. -/
def nextAvailable (ctx : CommandActionContext) : Nat → Nat → Nat
  | 0, rsvId => rsvId
  | rounds + 1, rsvId => if ctx.isAvailable rsvId then rsvId else ctx.nextAvailable rounds
    (rsvId + 1)

def getReservationId (ctx : CommandActionContext) : Nat :=
  if ctx.reservedSet = ∅ then 0
  else ctx.nextAvailable ctx.runningSet.card (ctx.reservedSet.sup id + 1)

def reserveAndInsert (ctx : CommandActionContext) : Nat × CommandActionContext :=
  let rsvId := ctx.getReservationId
  (rsvId, { ctx with reservedSet := insert rsvId ctx.reservedSet })

def insertToWaitingCommandActionList (ctx : CommandActionContext) (logId : Nat) :
    CommandActionContext :=
  { ctx with waitingList := ctx.waitingList ++ [logId] }

/-- The reservation ID, or none if the action has to wait; then its log is created, with `logId`. -/
def reserve (numActorLimit : Nat) (ctx : CommandActionContext) (logId : Nat) :
    Option Nat × CommandActionContext :=
  if ctx.isFullHouse numActorLimit then (none, ctx.insertToWaitingCommandActionList logId)
  else
    let (reservationId, ctx) := ctx.reserveAndInsert
    (some reservationId, ctx)

def removeReservationId (ctx : CommandActionContext) (reservationId : Nat) :
    Except CommandAssertion CommandActionContext :=
  if reservationId ∈ ctx.reservedSet then
    return { ctx with reservedSet := ctx.reservedSet.erase reservationId }
  else throw (.notFoundReservationId reservationId)

def cancel (ctx : CommandActionContext) (reservationId : Nat) :
    Except CommandAssertion CommandActionContext :=
  ctx.removeReservationId reservationId

def add (ctx : CommandActionContext) (reservationId logId : Nat) :
    Except CommandAssertion CommandActionContext := do
  let ctx ← ctx.removeReservationId reservationId
  if logId ∈ ctx.runningSet then throw (.failedToInsert logId)
  else return { ctx with runningSet := insert logId ctx.runningSet }

def remove (ctx : CommandActionContext) (logId : Nat) :
    Except CommandAssertion CommandActionContext :=
  if logId ∈ ctx.runningSet then return { ctx with runningSet := ctx.runningSet.erase logId }
  else throw (.notFoundLogId logId)

/-- The second critical section of `commandActorCollectedCb`: the reservation ID and the log ID of
    the waiting action that is to be executed. -/
def takeWaiting (numActorLimit : Nat) (ctx : CommandActionContext) :
    Option (Nat × Nat) × CommandActionContext :=
  match ctx.waitingList with
  | [] => (none, ctx)
  | waitCmdInfo :: waitingList =>
      if ctx.isFullHouse numActorLimit then (none, ctx)
      else
        let (reservationId, ctx) := ctx.reserveAndInsert
        (some (reservationId, waitCmdInfo), { ctx with waitingList := waitingList })

end CommandActionContext

/-- How far the threads have come with an action: it has its reservation and is to be spawned, where
    a waiting action has its log ID already; it has been spawned and is to be added; the spawn has
    failed and the reservation is to be cancelled; it runs; it has been collected and removed, and
    the next one is to be taken from the list. -/
inductive CommandActivity where
  | reserved (reservationId : Nat) (waitCmdInfo : Option Nat)
  | spawned (reservationId logId : Nat)
  | spawnFailed (reservationId : Nat)
  | running (logId : Nat)
  | removed (logId : Nat)
  deriving DecidableEq, Repr

/-- The context, the next value of the log table's `AUTO_INCREMENT`, and what the threads do. -/
structure CommandSystem where
  ctx : CommandActionContext
  nextLogId : Nat
  activities : List CommandActivity
  deriving DecidableEq

/-- A thread executes a command action, or one of the threads goes on with an action; a spawn
    succeeds or not. -/
inductive CommandEvent where
  | execCommandAction
  | proceed (activity : CommandActivity) (succeeded : Bool)
  deriving DecidableEq, Repr

namespace CommandSystem

def init (nextLogId : Nat) : CommandSystem := ⟨.empty, nextLogId, []⟩

def execCommandAction (numActorLimit : Nat) (s : CommandSystem) : CommandSystem :=
  match s.ctx.reserve numActorLimit s.nextLogId with
  | (none, ctx) => { s with ctx := ctx, nextLogId := s.nextLogId + 1 }
  | (some reservationId, ctx) =>
      { s with ctx := ctx, activities := .reserved reservationId none :: s.activities }

/-- `s` is the system without the activity. A spawned action gets its log ID from `successCb`, and
    `errorCb` creates a log for a failed one, unless it has one. -/
def proceed (numActorLimit : Nat) (s : CommandSystem) (succeeded : Bool) :
    CommandActivity → Except CommandAssertion CommandSystem
  | .reserved reservationId waitCmdInfo =>
      let nextLogId := if waitCmdInfo.isSome then s.nextLogId else s.nextLogId + 1
      let activity := if succeeded then
          CommandActivity.spawned reservationId (waitCmdInfo.getD s.nextLogId)
        else .spawnFailed reservationId
      return { s with nextLogId := nextLogId, activities := activity :: s.activities }
  | .spawned reservationId logId => do
      let ctx ← s.ctx.add reservationId logId
      return { s with ctx := ctx, activities := .running logId :: s.activities }
  | .spawnFailed reservationId => do
      let ctx ← s.ctx.cancel reservationId
      return { s with ctx := ctx }
  | .running logId => do
      let ctx ← s.ctx.remove logId
      return { s with ctx := ctx, activities := .removed logId :: s.activities }
  | .removed _ =>
      match s.ctx.takeWaiting numActorLimit with
      | (none, ctx) => return { s with ctx := ctx }
      | (some (reservationId, logId), ctx) => return { s with
          ctx := ctx, activities := .reserved reservationId (some logId) :: s.activities }

/-- A thread that is not there does nothing. -/
def step (numActorLimit : Nat) (s : CommandSystem) :
    CommandEvent → Except CommandAssertion CommandSystem
  | .execCommandAction => return s.execCommandAction numActorLimit
  | .proceed activity succeeded =>
      if activity ∈ s.activities then
        { s with activities := s.activities.erase activity }.proceed numActorLimit succeeded activity
      else return s

end CommandSystem

end Hatohol

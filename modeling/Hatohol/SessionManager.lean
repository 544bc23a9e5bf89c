import Mathlib.Data.Finset.Basic
import Mathlib.Logic.Function.Basic
import Hatohol.Machine.Steps

/-!
# The session manager

A session is a counted object that stands in a map under its ID until it is removed by a logout or by
its timer (SessionManager.cc:48-57, 146-196, 237-281). The map is guarded by a read-write lock, the
timer of a session by a lock of the session. Each access refreshes the timer after the lock of the
map has been released, and then puts the session into the map again. The IDs are UUIDs and are
numbered here; a session object is the one with its ID, which `create` reads with the insertion.
-/

namespace Hatohol

structure Session where
  usedCount : Nat
  timeout : Nat
  deriving DecidableEq, Repr

/-- Who calls `remove`. -/
inductive SessionRemover where
  | logout
  | timerCb
  deriving DecidableEq, Repr

/-- How far a thread has come, by what it does next:
    `create` is to set the timer of a new session; `getSession` is to refresh the timer; one of both
    is to put the session into the map, where `getSession` has a `SessionPtr`; a caller of
    `getSession` is to drop the pointer; `remove` has erased the map's entry and is to cancel the
    timer, or has cancelled it and is to drop the reference; `timerCb` is to call `remove`, or has
    called it and is to drop its own reference. -/
inductive SessionThread where
  | create (id : Nat)
  | getSession (id : Nat)
  | insert (id : Nat) (hasPtr : Bool)
  | sessionPtr (id : Nat)
  | cancelTimer (id : Nat) (remover : SessionRemover)
  | unref (id : Nat) (remover : SessionRemover)
  | timerCb (id : Nat)
  | sessionUnref (id : Nat)
  deriving DecidableEq, Repr

/-- What callers are told. `got` stands where `getSession` finds the session. -/
inductive SessionResult where
  | created (id : Nat)
  | got (id : Nat)
  | notFound (id : Nat)
  | removed (id : Nat)
  | notRemoved (id : Nat)
  deriving DecidableEq, Repr

/-- A read of a deleted session, or the assertion of `cancelTimer`. -/
inductive SessionFault where
  | useAfterFree (id : Nat)
  | usedCount (id : Nat)
  deriving DecidableEq, Repr

/-- `sessions` are the objects that have not been deleted, `timers` the sessions whose timer is armed
    in the main loop, `results` what callers have been told so far. -/
structure SessionManager where
  sessions : Nat → Option Session
  sessionIdMap : Finset Nat
  timers : Finset Nat
  nextId : Nat
  threads : List SessionThread
  results : List SessionResult

/-- A call is made, the timer of a session fires, or a thread goes on. -/
inductive SessionEvent where
  | create (timeout : Nat)
  | getSession (id : Nat)
  | remove (id : Nat)
  | fire (id : Nat)
  | proceed (thread : SessionThread)
  deriving DecidableEq, Repr

namespace SessionManager

def init : SessionManager where
  sessions _ := none
  sessionIdMap := ∅
  timers := ∅
  nextId := 0
  threads := []
  results := []

def start (m : SessionManager) (thread : SessionThread) : SessionManager :=
  { m with threads := thread :: m.threads }

def tell (m : SessionManager) (result : SessionResult) : SessionManager :=
  { m with results := m.results ++ [result] }

/-- The object, if it can still be read. -/
def deref (m : SessionManager) (id : Nat) : Except SessionFault Session :=
  match m.sessions id with
  | some session => return session
  | none => throw (.useAfterFree id)

/-- A session is deleted when its count comes to 0. -/
def setUsedCount (m : SessionManager) (id : Nat) (session : Session) (usedCount : Nat) :
    SessionManager :=
  let session := if usedCount = 0 then none else some { session with usedCount := usedCount }
  { m with sessions := Function.update m.sessions id session }

def ref (m : SessionManager) (id : Nat) : Except SessionFault SessionManager := do
  let session ← m.deref id
  return m.setUsedCount id session (session.usedCount + 1)

def unref (m : SessionManager) (id : Nat) : Except SessionFault SessionManager := do
  let session ← m.deref id
  return m.setUsedCount id session (session.usedCount - 1)

def armTimer (m : SessionManager) (id : Nat) : SessionManager :=
  { m with timers := insert id m.timers }

def disarmTimer (m : SessionManager) (id : Nat) : SessionManager :=
  { m with timers := m.timers.erase id }

/-- `Session::cancelTimer`. -/
def cancelTimer (m : SessionManager) (id : Nat) : Except SessionFault SessionManager := do
  let session ← m.deref id
  if id ∈ m.timers then
    if 2 ≤ session.usedCount then (m.disarmTimer id).unref id else throw (.usedCount id)
  else return m

/-- The part of `updateTimer` that holds the lock of the session. -/
def updateTimer (m : SessionManager) (id : Nat) : Except SessionFault SessionManager := do
  let m ← m.cancelTimer id
  let session ← m.deref id
  if session.timeout ≠ 0 then (m.armTimer id).ref id else return m

def create (m : SessionManager) (timeout : Nat) : SessionManager :=
  { m with
    sessions := Function.update m.sessions m.nextId (some ⟨1, timeout⟩)
    nextId := m.nextId + 1 }.start (.create m.nextId)

/-- The part of `getSession` that holds the read lock. -/
def getSession (m : SessionManager) (id : Nat) : Except SessionFault SessionManager :=
  if id ∈ m.sessionIdMap then do
    let m ← m.ref id
    return (m.start (.getSession id)).tell (.got id)
  else return m.tell (.notFound id)

/-- The part of `remove` that holds the write lock. -/
def remove (m : SessionManager) (id : Nat) (remover : SessionRemover) : SessionManager :=
  if id ∈ m.sessionIdMap then
    { m with sessionIdMap := m.sessionIdMap.erase id }.start (.cancelTimer id remover)
  else
    match remover with
    | .logout => m.tell (.notRemoved id)
    | .timerCb => m.start (.sessionUnref id)

/-- The part of `timerCb` that holds the lock of the session. -/
def fire (m : SessionManager) (id : Nat) : Except SessionFault SessionManager :=
  if id ∈ m.timers then do
    let _ ← m.deref id
    return (m.disarmTimer id).start (.timerCb id)
  else return m

/-- `m` is the manager without the thread. -/
def proceed (m : SessionManager) : SessionThread → Except SessionFault SessionManager
  | .create id => do
      let m ← m.updateTimer id
      return m.start (.insert id false)
  | .getSession id => do
      let m ← m.updateTimer id
      return m.start (.insert id true)
  | .insert id hasPtr => do
      let _ ← m.deref id
      let m := { m with sessionIdMap := insert id m.sessionIdMap }
      if hasPtr then return m.start (.sessionPtr id) else return m.tell (.created id)
  | .sessionPtr id => m.unref id
  | .cancelTimer id remover => do
      let m ← m.cancelTimer id
      return m.start (.unref id remover)
  | .unref id remover => do
      let m ← m.unref id
      match remover with
      | .logout => return m.tell (.removed id)
      | .timerCb => return m.start (.sessionUnref id)
  | .timerCb id => do
      let _ ← m.deref id
      return m.remove id .timerCb
  | .sessionUnref id => m.unref id

/-- A thread that is not there does nothing. -/
def step (m : SessionManager) : SessionEvent → Except SessionFault SessionManager
  | .create timeout => return m.create timeout
  | .getSession id => m.getSession id
  | .remove id => return m.remove id .logout
  | .fire id => m.fire id
  | .proceed thread =>
      if thread ∈ m.threads then { m with threads := m.threads.erase thread }.proceed thread
      else return m

end SessionManager

end Hatohol

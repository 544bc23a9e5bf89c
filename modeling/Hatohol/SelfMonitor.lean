import Hatohol.ArmBase

/-!
# SelfMonitor

A trigger about the server itself (server/src/SelfMonitor.cc:30-75, 199-239, 286-325). An update is
passed on to listeners, which may be updated in turn. `update` runs under a lock of all monitors;
`setWorkable` takes it for its call of `update` only. The event generators save events and are left out.
-/

namespace Hatohol

namespace SelfMonitor

/-- What has become of a monitor. -/
inductive Entry where
  | update (status : TriggerStatusType)
  | setWorkable (workable : Bool)
  | shown (status : TriggerStatusType)
  deriving DecidableEq, Repr

def Entry.isCall : Entry → Bool
  | shown _ => false
  | _ => true

/-- A monitor with its listeners. Nothing reads the history, which has the last entry first. -/
structure Monitor (α : Type) where
  status : TriggerStatusType
  lastKnownStatus : TriggerStatusType
  actualStatus : TriggerStatusType
  listeners : List α
  inUpdating : Bool
  workable : Bool
  inSetWorkableCall : Bool
  history : List Entry
  deriving DecidableEq, Repr

/-- A monitor that has just been made. -/
def Monitor.new {α : Type} (listeners : List α) : Monitor α where
  status := .unknown
  lastKnownStatus := .unknown
  actualStatus := .unknown
  listeners := listeners
  inUpdating := false
  workable := true
  inSetWorkableCall := false
  history := []

inductive Call where
  | update (status : TriggerStatusType)
  | setWorkable (workable : Bool)
  deriving DecidableEq, Repr

/-- How a call ends: `rejected` is the exception of the assertion against circular listening. -/
inductive Outcome where
  | returned
  | rejected
  deriving DecidableEq, Repr

abbrev Monitors (α : Type) := α → Monitor α

variable {α : Type} [DecidableEq α]

def modify (s : Monitors α) (i : α) (f : Monitor α → Monitor α) : Monitors α :=
  Function.update s i (f (s i))

/-! ## Statements on one monitor -/

namespace Monitor

def record (m : Monitor α) (entry : Entry) : Monitor α := { m with history := entry :: m.history }

def visibleStatus (m : Monitor α) (status : TriggerStatusType) : TriggerStatusType :=
  if m.workable then status else .unknown

/-- (SelfMonitor.cc:204-217) -/
def beginUpdate (m : Monitor α) (status : TriggerStatusType) : Monitor α :=
  { m with
    inUpdating := true
    actualStatus := if m.inSetWorkableCall then m.actualStatus else status
    status := m.visibleStatus status
    history := .shown (m.visibleStatus status) :: m.history }

/-- What the `Reaper` does. -/
def leaveUpdate (m : Monitor α) : Monitor α := { m with inUpdating := false }

/-- (SelfMonitor.cc:235-236) -/
def endUpdate (m : Monitor α) (status : TriggerStatusType) : Monitor α :=
  leaveUpdate { m with
    lastKnownStatus := if status = .unknown then m.lastKnownStatus else status }

def enterSetWorkable (m : Monitor α) (workable : Bool) : Monitor α :=
  record { m with inSetWorkableCall := true } (.setWorkable workable)

def setWorkableFlag (m : Monitor α) (workable : Bool) : Monitor α := { m with workable }

/-- The argument of `update` is a reference, which is read under the lock. -/
def setWorkableStatus (m : Monitor α) (workable : Bool) : TriggerStatusType :=
  if workable then m.actualStatus else .unknown

def leaveSetWorkable (m : Monitor α) : Monitor α := { m with inSetWorkableCall := false }

end Monitor

/-! ## Calls that are passed on -/

section Calls

variable (handler : Monitors α → α → α → TriggerStatusType → TriggerStatusType → List Call)
  (alive : α → Bool) (callOn : Monitors α → α → Call → Option (Outcome × Monitors α))

/-- The calls that a notification handler makes of its own monitor. -/
def callAll (listener : α) : List Call → Monitors α → Option (Outcome × Monitors α)
  | [], s => some (.returned, s)
  | call :: calls, s =>
    match callOn s listener call with
    | some (.returned, s) => callAll listener calls s
    | ended => ended

/-- (SelfMonitor.cc:223-233) The listeners that have been deleted are erased. -/
def notifyListeners (i : α) (prevStatus status : TriggerStatusType) :
    List α → Monitors α → Option (Outcome × Monitors α)
  | [], s => some (.returned, s)
  | l :: ls, s =>
    if alive l then
      match callAll callOn l (handler s l i prevStatus status) s with
      | some (.returned, s) => notifyListeners i prevStatus status ls s
      | ended => ended
    else
      notifyListeners i prevStatus status ls
        (modify s i fun m => { m with listeners := m.listeners.erase l })

/-- `update` under the lock. -/
def updateBody (s : Monitors α) (i : α) (status : TriggerStatusType) :
    Option (Outcome × Monitors α) :=
  if (s i).inUpdating then some (.rejected, s)
  else
    let visible := (s i).visibleStatus status
    match notifyListeners handler alive callOn i (s i).status visible (s i).listeners
        (modify s i (·.beginUpdate status)) with
    | some (.returned, s) => some (.returned, modify s i (·.endUpdate visible))
    | some (.rejected, s) => some (.rejected, modify s i Monitor.leaveUpdate)
    | none => none

/-- A call without a step of another thread in it. The number bounds how far calls are passed on. -/
def perform : Nat → Monitors α → α → Call → Option (Outcome × Monitors α)
  | 0, _, _, _ => none
  | fuel + 1, s, i, .update status =>
    updateBody handler alive (perform fuel) (modify s i (·.record (.update status))) i status
  | fuel + 1, s, i, .setWorkable workable =>
    let s := modify s i fun m => (m.enterSetWorkable workable).setWorkableFlag workable
    (updateBody handler alive (perform fuel) s i ((s i).setWorkableStatus workable)).map fun r =>
      (r.1, modify r.2 i Monitor.leaveSetWorkable)

end Calls

/-! ## Threads -/

/-- How far a call of `setWorkable` has come: a flag is set that it is called, then the flag of the
    monitor, then `update` has returned. -/
inductive Phase where
  | entered
  | flagged
  | updated
  deriving DecidableEq, Repr

/-- The monitors and the calls of `setWorkable` that threads are in. -/
structure System (α T : Type) where
  monitors : Monitors α
  inProgress : T → Option (α × Bool × Phase)

variable {T : Type} [DecidableEq T]

def System.setPhase (σ : System α T) (t : T) (monitors : Monitors α)
    (phase : Option (α × Bool × Phase)) : System α T :=
  ⟨monitors, Function.update σ.inProgress t phase⟩

section Steps

variable (handler : Monitors α → α → α → TriggerStatusType → TriggerStatusType → List Call)
  (alive : α → Bool)

/-- `update` is one step of a thread, and `setWorkable` is four. -/
inductive Step : System α T → System α T → Prop where
  | update {σ : System α T} {t : T} {i : α} {status : TriggerStatusType} {fuel : Nat}
      {outcome : Outcome} {s : Monitors α} (hidle : σ.inProgress t = none)
      (hruns : perform handler alive fuel σ.monitors i (.update status) = some (outcome, s)) :
      Step σ { σ with monitors := s }
  | enter {σ : System α T} {t : T} {i : α} {workable : Bool} (hidle : σ.inProgress t = none) :
      Step σ (σ.setPhase t (modify σ.monitors i (·.enterSetWorkable workable))
        (some (i, workable, .entered)))
  | flag {σ : System α T} {t : T} {i : α} {workable : Bool}
      (hphase : σ.inProgress t = some (i, workable, .entered)) :
      Step σ (σ.setPhase t (modify σ.monitors i (·.setWorkableFlag workable))
        (some (i, workable, .flagged)))
  | updateReturns {σ : System α T} {t : T} {i : α} {workable : Bool} {fuel : Nat} {s : Monitors α}
      (hphase : σ.inProgress t = some (i, workable, .flagged))
      (hruns : updateBody handler alive (perform handler alive fuel) σ.monitors i
        ((σ.monitors i).setWorkableStatus workable) = some (.returned, s)) :
      Step σ (σ.setPhase t s (some (i, workable, .updated)))
  | updateRejected {σ : System α T} {t : T} {i : α} {workable : Bool} {fuel : Nat} {s : Monitors α}
      (hphase : σ.inProgress t = some (i, workable, .flagged))
      (hruns : updateBody handler alive (perform handler alive fuel) σ.monitors i
        ((σ.monitors i).setWorkableStatus workable) = some (.rejected, s)) :
      Step σ (σ.setPhase t (modify s i Monitor.leaveSetWorkable) none)
  | leave {σ : System α T} {t : T} {i : α} {workable : Bool}
      (hphase : σ.inProgress t = some (i, workable, .updated)) :
      Step σ (σ.setPhase t (modify σ.monitors i Monitor.leaveSetWorkable) none)

end Steps

end SelfMonitor

end Hatohol

import Mathlib.Data.List.Basic
import Mathlib.Data.List.Nodup

/-!
# ChildProcessManager

One thread waits for the ends of child processes and calls back for them
(server/src/ChildProcessManager.cc). A semaphore tells it that there is something to wait for, and a
flag that the children are to be killed and forgotten. The process ID of a child that has been waited
for may be that of a later one.
-/

namespace Hatohol

inductive ProcessStage where
  | running
  /-- It has exited, and nothing has waited for it. -/
  | exited
  | reaped
  deriving DecidableEq, Repr

/-- A child of the server, named by its place among all that were created. -/
structure ChildProcess where
  pid : Nat
  stage : ProcessStage
  deriving DecidableEq, Repr

/-- An entry of the map (ChildProcessManager.cc:33-68). `child` is the process whose callback it
    has. -/
structure ChildInfo where
  pid : Nat
  child : Nat
  killed : Bool
  deriving DecidableEq, Repr

inductive ChildEvent where
  | onCollected
  | onFinalized
  | onReset
  deriving DecidableEq, Repr

/-- Where the thread is. -/
inductive CollectorStage where
  /-- In `waitWaitChildSem`. -/
  | waiting
  | waitid
  /-- `waitid` has returned the child, and `collected` has not taken the lock yet. -/
  | collected (child : Nat)
  /-- Before `resetOnCollectThread`. -/
  | resetting
  /-- The map has been emptied, and the flag has not been reset yet. -/
  | reset
  deriving DecidableEq, Repr

/-- Of the calls of `create` and `reset` in progress, `createPosts` and `resetPosts` are about to
    post, and `resetKills` are about to kill. `kills` are the children that a signal was sent to, and
    `events` the calls of callbacks with the children that they are for. -/
structure ChildProcessManager where
  children : List ChildProcess
  childrenMap : List ChildInfo
  posts : Nat
  createPosts : Nat
  resetRequest : Bool
  resetPosts : Nat
  resetKills : Nat
  collector : CollectorStage
  kills : List Nat
  events : List (Nat × ChildEvent)
  deriving DecidableEq, Repr

namespace ChildProcessManager

def new : ChildProcessManager := ⟨[], [], 0, 0, false, 0, 0, .waiting, [], []⟩

def pidOf (m : ChildProcessManager) (child : Nat) : Option Nat :=
  m.children[child]?.map ChildProcess.pid

def stageOf (m : ChildProcessManager) (child : Nat) : Option ProcessStage :=
  m.children[child]?.map ChildProcess.stage

/-- The kernel still has the process, alive or not. -/
def isProcess (m : ChildProcessManager) (child : Nat) : Bool :=
  m.stageOf child = some .running || m.stageOf child = some .exited

/-- The process that has the ID. -/
def processOf (m : ChildProcessManager) (pid : Nat) : Option Nat :=
  (List.range m.children.length).find? fun child => m.pidOf child = some pid && m.isProcess child

def setStage (m : ChildProcessManager) (child : Nat) (stage : ProcessStage) : ChildProcessManager :=
  { m with children := m.children.modify child fun process => { process with stage := stage } }

/-- (ChildProcessManager.cc:261-319) A spawn that succeeds, which is given an ID that no process
    has. The map keeps an entry that it has for the ID already. -/
def create (m : ChildProcessManager) (pid : Nat) : ChildProcessManager :=
  if (m.processOf pid).isSome then m
  else { m with
    children := m.children ++ [⟨pid, .running⟩]
    childrenMap :=
      if m.childrenMap.any (·.pid = pid) then m.childrenMap
      else m.childrenMap ++ [⟨pid, m.children.length, false⟩]
    createPosts := m.createPosts + 1 }

/-- (ChildProcessManager.cc:52-67) -/
def sendKill (m : ChildProcessManager) (childInfo : ChildInfo) : ChildInfo :=
  if childInfo.killed then childInfo
  else { childInfo with killed := (m.processOf childInfo.pid).isSome }

/-- The signals of `sendKill` for all entries. -/
def signalled (m : ChildProcessManager) : List Nat :=
  m.childrenMap.filterMap fun childInfo =>
    if childInfo.killed then none else m.processOf childInfo.pid

/-- (ChildProcessManager.cc:246-253) -/
def sendKills (m : ChildProcessManager) : ChildProcessManager :=
  { m with childrenMap := m.childrenMap.map m.sendKill, kills := m.kills ++ m.signalled }

/-- (ChildProcessManager.cc:118-134) As far as the lock is held. -/
def resetOnCollectThread (m : ChildProcessManager) : ChildProcessManager :=
  { m with
    childrenMap := []
    kills := m.kills ++ m.signalled
    events := m.events ++ m.childrenMap.map fun childInfo => (childInfo.child, .onReset)
    collector := .reset }

/-- (ChildProcessManager.cc:369-403) A status that `waitid` returns for WEXITED is that of a dead
    process. -/
def collected (m : ChildProcessManager) (child : Nat) : ChildProcessManager :=
  match m.childrenMap.find? fun childInfo => m.pidOf child = some childInfo.pid with
  | none => { m with collector := .waiting, posts := m.posts + 1 }
  | some childInfo =>
      if childInfo.killed then { m with collector := .waiting }
      else { m with
        collector := .waiting
        childrenMap := m.childrenMap.filter (·.pid ≠ childInfo.pid)
        events := m.events ++ [(childInfo.child, .onCollected), (childInfo.child, .onFinalized)] }

/-- (ChildProcessManager.cc:341-356) `waitid` returns for `child` if it has exited. It fails without
    processes, and blocks otherwise. -/
def waitid (m : ChildProcessManager) (child : Nat) : ChildProcessManager :=
  if m.stageOf child = some .exited then
    { m.setStage child .reaped with collector := .collected child }
  else if (List.range m.children.length).any m.isProcess then m
  else { m with collector := .waiting }

/-- The next step of `mainThread` (ChildProcessManager.cc:332-359). -/
def advance (m : ChildProcessManager) (child : Nat) : ChildProcessManager :=
  match m.collector with
  | .waiting =>
      if m.posts = 0 then m
      else { m with
        posts := m.posts - 1
        collector := if m.resetRequest then .resetting else .waitid }
  | .waitid => m.waitid child
  | .collected child => m.collected child
  | .resetting => m.resetOnCollectThread
  | .reset => { m with resetRequest := false, collector := .waiting }

inductive Input where
  | create (pid : Nat)
  /-- The post at the end of `create`. -/
  | createPost
  | exit (child : Nat)
  /-- `reset` sets the flag, posts and kills. Its wait for the end is left out. -/
  | reset
  | resetPost
  | resetKill
  | advance (child : Nat)

def next (m : ChildProcessManager) : Input → ChildProcessManager
  | .create pid => m.create pid
  | .createPost =>
      if m.createPosts = 0 then m
      else { m with createPosts := m.createPosts - 1, posts := m.posts + 1 }
  | .exit child => if m.stageOf child = some .running then m.setStage child .exited else m
  | .reset => { m with resetRequest := true, resetPosts := m.resetPosts + 1 }
  | .resetPost =>
      if m.resetPosts = 0 then m
      else { m with
        resetPosts := m.resetPosts - 1
        posts := m.posts + 1
        resetKills := m.resetKills + 1 }
  | .resetKill =>
      if m.resetKills = 0 then m
      else
        let killed := m.sendKills
        { killed with resetKills := m.resetKills - 1 }
  | .advance child => m.advance child

/-- The calls of the callback of a child. -/
def called (m : ChildProcessManager) (child : Nat) : List ChildEvent :=
  (m.events.filter fun event => event.1 = child).map Prod.snd

/-- The thread sleeps on its semaphore, and no post is under way. -/
def Sleeps (m : ChildProcessManager) : Prop :=
  m.collector = .waiting ∧ m.posts = 0 ∧ m.createPosts = 0 ∧ m.resetPosts = 0

end ChildProcessManager

end Hatohol

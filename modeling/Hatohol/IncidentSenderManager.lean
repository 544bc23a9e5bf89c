import Hatohol.DBTablesAction
import Mathlib.Logic.Function.Basic

/-!
# Senders and the settings of their trackers

The manager makes one sender for each tracker and keeps it (server/src/IncidentSenderManager.cc).
The sender keeps the settings that it was made with, and reads them again where a flag says that
they have been changed (server/src/IncidentSender.cc:272-299). The requests that change or delete a
tracker do so in the database first (server/src/UnifiedDataStore.cc:934-964).
-/

namespace Hatohol

/-- A row of the trackers. -/
structure IncidentTrackerInfo where
  type : Int
  nickname : CString
  baseURL : CString
  projectId : CString
  trackerId : CString
  userName : CString
  password : CString
  deriving DecidableEq, Repr

/-- IncidentSenderRedmine and IncidentSenderHatohol. -/
inductive SenderClass where
  | redmine
  | hatohol
  deriving DecidableEq, Repr

namespace IncidentTrackerInfo

def typeFake : Int := -1

def typeRedmine : Int := 0

def typeHatohol : Int := 1

/-- The `switch` of `createSender` (IncidentSenderManager.cc:72-84). -/
def senderClass (info : IncidentTrackerInfo) : Option SenderClass :=
  if info.type = typeRedmine then some .redmine
  else if info.type = typeHatohol then some .hatohol
  else none

end IncidentTrackerInfo

/-- The settings with the number of the update that they are from. -/
structure TrackerRow where
  info : IncidentTrackerInfo
  version : Nat
  deriving DecidableEq, Repr

/-- How far a call of `getIncidentTrackerInfo` is. -/
inductive SettingsCall where
  | none
  /-- The flag has been set. -/
  | changed
  | read (row : TrackerRow)
  deriving DecidableEq, Repr

/-- A call of `send`, which gets the settings any number of times. `required` is the last update
    that had returned when it began. -/
structure SendCall where
  required : Nat
  call : SettingsCall
  deriving DecidableEq, Repr

/-- A sender, as far as it has to do with the settings. -/
structure TrackerSender where
  senderClass : SenderClass
  incidentTrackerInfo : TrackerRow
  trackerChanged : Bool
  exitRequested : Bool
  send : Option SendCall
  deriving DecidableEq, Repr

/-- What `sendersLock` is held for. `announced` is the update whose request wants the sender. -/
inductive SendersLock where
  | free
  | createSender (row : TrackerRow) (announced : Option Nat)
  /-- The destructor waits for the thread. -/
  | deleteSender
  deriving DecidableEq, Repr

/-- What a call of `send` has been given. -/
structure SettingsUse where
  required : Nat
  senderClass : SenderClass
  settings : TrackerRow
  deriving DecidableEq, Repr

/-- A tracker. `writes` counts the updates that the database has taken, `pending` are those of them
    that have not been announced to the sender yet, and `returned` is the last one whose request has
    returned. -/
structure TrackerState where
  row : Option TrackerRow
  writes : Nat
  pending : List Nat
  returned : Nat
  sender : Option TrackerSender
  lock : SendersLock
  crashed : Bool
  uses : List SettingsUse
  deriving DecidableEq, Repr

namespace TrackerState

def new (info : IncidentTrackerInfo) : TrackerState :=
  ⟨some ⟨info, 0⟩, 0, [], 0, none, .free, false, []⟩

/-- (DBTablesConfig.cc:1555-1604) An update that passes the checks. -/
def updateRow (s : TrackerState) (info : IncidentTrackerInfo) : TrackerState :=
  match s.row with
  | none => s
  | some _ => { s with
      row := some ⟨info, s.writes + 1⟩
      writes := s.writes + 1
      pending := s.pending ++ [s.writes + 1] }

/-- (IncidentSender.cc:296-299) The request returns. -/
def setOnChanged (s : TrackerState) (announced : Option Nat) (sender : TrackerSender) :
    TrackerState :=
  match announced with
  | none => { s with sender := some sender }
  | some version => { s with
      sender := some { sender with trackerChanged := true }
      pending := s.pending.erase version
      returned := max s.returned version }

/-- A null pointer is no sender to queue a job for, and `setOnChangedIncidentTracker` follows it. -/
def withoutSender (s : TrackerState) (announced : Option Nat) : TrackerState :=
  { s with lock := .free, crashed := announced.isSome }

/-- `getSender` for a job, or for an update that is announced (IncidentSenderManager.cc:88-104,
    183-187), up to the read of `createSender`. -/
def getSender (s : TrackerState) (announced : Option Nat) : TrackerState :=
  match s.sender with
  | some sender => s.setOnChanged announced sender
  | none =>
      match s.row with
      | none => s.withoutSender announced
      | some row => { s with lock := .createSender row announced }

def newSender (senderClass : SenderClass) (row : TrackerRow) : TrackerSender :=
  ⟨senderClass, row, false, false, none⟩

/-- The rest of `createSender` and `getSender` (IncidentSenderManager.cc:70-104). -/
def insertSender (s : TrackerState) : TrackerState :=
  match s.lock with
  | .createSender row announced =>
      match row.info.senderClass with
      | none => s.withoutSender announced
      | some senderClass =>
          ({ s with lock := .free } : TrackerState).setOnChanged announced (newSender senderClass row)
  | _ => s

/-- (IncidentSenderManager.cc:106-119) The map entry is erased and the exit is requested. -/
def deleteSender (s : TrackerState) (sender : TrackerSender) : TrackerState :=
  { s with sender := some { sender with exitRequested := true }, lock := .deleteSender }

/-- The thread has ended. -/
def destroySender (s : TrackerState) (sender : TrackerSender) : TrackerState :=
  if s.lock = .deleteSender ∧ sender.send = none then { s with sender := none, lock := .free }
  else s

/-- The thread begins to send a job, or sends it again. -/
def beginSend (s : TrackerState) (sender : TrackerSender) : TrackerState :=
  if sender.exitRequested || sender.send.isSome then s
  else { s with sender := some { sender with send := some ⟨s.returned, .none⟩ } }

/-- A call of `getIncidentTrackerInfo` returns its settings to the sender. -/
def useSettings (s : TrackerState) (sender : TrackerSender) (send : SendCall) : TrackerState :=
  { s with
    sender := some { sender with send := some { send with call := .none } }
    uses := s.uses ++ [⟨send.required, sender.senderClass, sender.incidentTrackerInfo⟩] }

/-- The next step of `getIncidentTrackerInfo`: the flag is tested, the database is read, and the
    copy is set and the flag reset (IncidentSender.cc:272-294). Without a row the copy is as it
    was. -/
def getIncidentTrackerInfo (s : TrackerState) (sender : TrackerSender) (send : SendCall) :
    TrackerState :=
  match send.call with
  | .none =>
      if !sender.trackerChanged then s.useSettings sender send
      else { s with sender := some { sender with send := some { send with call := .changed } } }
  | .changed =>
      match s.row with
      | none => s.useSettings sender send
      | some row => { s with
          sender := some { sender with send := some { send with call := .read row } } }
  | .read row =>
      s.useSettings { sender with incidentTrackerInfo := row, trackerChanged := false } send

def endSend (s : TrackerState) (sender : TrackerSender) (send : SendCall) : TrackerState :=
  if send.call = .none then { s with sender := some { sender with send := none } } else s

inductive Input where
  /-- `updateIncidentTracker` and `deleteIncidentTracker` as far as the database. -/
  | updateRow (info : IncidentTrackerInfo)
  | deleteRow
  | getSender (announced : Option Nat)
  | insertSender
  /-- The rest of `deleteIncidentTracker`. -/
  | deleteSender
  | destroySender
  | beginSend
  | getIncidentTrackerInfo
  | endSend

/-- The input takes `sendersLock`, or lets it go. -/
def Input.locks : Input → Bool
  | .getSender _ | .insertSender | .deleteSender | .destroySender => true
  | _ => false

/-- The lock is not held for anything else, an update is announced after it has been written, and a
    sender is deleted after the row. -/
def enables (s : TrackerState) : Input → Bool
  | .getSender announced => s.lock = .free && announced.all fun version => s.pending.contains version
  | .deleteSender => s.lock = .free && s.row.isNone
  | _ => true

def withSender (s : TrackerState) (f : TrackerSender → TrackerState) : TrackerState :=
  match s.sender with
  | some sender => f sender
  | none => s

/-- There is something to do while the thread sends. -/
def withSend (s : TrackerState) (f : TrackerSender → SendCall → TrackerState) : TrackerState :=
  s.withSender fun sender =>
    match sender.send with
    | some send => f sender send
    | none => s

def handle (s : TrackerState) : Input → TrackerState
  | .updateRow info => s.updateRow info
  | .deleteRow => { s with row := none }
  | .getSender announced => s.getSender announced
  | .insertSender => s.insertSender
  | .deleteSender => s.withSender s.deleteSender
  | .destroySender => s.withSender s.destroySender
  | .beginSend => s.withSender s.beginSend
  | .getIncidentTrackerInfo => s.withSend s.getIncidentTrackerInfo
  | .endSend => s.withSend s.endSend

def next (s : TrackerState) (input : Input) : TrackerState :=
  if s.enables input then s.handle input else s

end TrackerState

/-- All trackers, and the one for whose sake `sendersLock` is held. -/
structure IncidentSenderManager where
  trackers : IncidentTrackerIdType → TrackerState
  holder : Option IncidentTrackerIdType
  crashed : Bool

namespace IncidentSenderManager

def new (infos : IncidentTrackerIdType → IncidentTrackerInfo) : IncidentSenderManager :=
  ⟨fun trackerId => .new (infos trackerId), none, false⟩

/-- Threads that want the lock wait while it is held for another tracker. -/
def next (m : IncidentSenderManager) (input : IncidentTrackerIdType × TrackerState.Input) :
    IncidentSenderManager :=
  if m.crashed || input.2.locks && m.holder.any (· ≠ input.1) then m
  else
    let s := (m.trackers input.1).next input.2
    { trackers := Function.update m.trackers input.1 s
      holder := if input.2.locks then if s.lock = .free then none else some input.1 else m.holder
      crashed := s.crashed }

end IncidentSenderManager

end Hatohol

import Hatohol.Buffers.Strings
import Hatohol.Params
import Mathlib.Algebra.Group.Int.Defs

/-!
# ResidentCommunicator

The packets with the parameters of a resident module and with an event, as the master builds them
(server/src/ResidentCommunicator.cc, ResidentProtocol.h) and as the resident reads their bodies
(server/src/hatoholResidentYard.cc:97-126, 163-178).
-/

namespace Hatohol

open Bytes

namespace SmartBuffer

def resetIndexDeep (b : SmartBuffer) : SmartBuffer := { b with index := 0, watermark := 0 }

/-- `add16`, `add32` and `add64` convert the number to their type. -/
def addNumber (b : SmartBuffer) (width : Nat) (val : Int) : Except InsertError SmartBuffer :=
  b.add (littleEndian width (val % 256 ^ width).toNat)

/-- `*getPointerAndIncIndex` of an unsigned type -/
def takeNumber (b : SmartBuffer) (width : Nat) : Option (Nat × SmartBuffer) :=
  (slice b.buf b.index width).map fun bytes => (ofLittleEndian bytes, b.setIndex (b.index + width))

/-- The bytes at the index. -/
def takeBytes (b : SmartBuffer) (length : Nat) : Option (Bytes × SmartBuffer) :=
  (slice b.buf b.index length).map (·, b.incIndex length)

end SmartBuffer

namespace ResidentCommunicator

open SmartBuffer

/-- RESIDENT_PROTO_HEADER_LEN: the size of the body and the type of the packet -/
def headerLen : Nat := 4 + 2

/-- HATOHOL_SESSION_ID_LEN -/
def sessionIdLen : Nat := 36

/-- RESIDENT_PROTO_EVENT_BODY_BASE_LEN -/
def eventBodyBaseLen : Nat := 4 + 4 + sizeofStringHeader + 8 + 4 + 8 + 2 + 8 + 2 + 2 + sessionIdLen

inductive PacketType where
  | launched
  | moduleLoaded
  | parameters
  | notifyEvent
  | notifyEventAck
  deriving DecidableEq, Repr

def PacketType.value : PacketType → Nat
  | launched => 0
  | moduleLoaded => 1
  | parameters => 2
  | notifyEvent => 3
  | notifyEventAck => 4

/-- What the packet has of an event. The strings are bytes. -/
structure NotifiedEvent where
  serverId : Int
  hostIdInServer : Bytes
  time : Timespec
  id : Bytes
  type : Int
  triggerId : Bytes
  status : Int
  severity : Int
  deriving DecidableEq, Repr

/-! ## The master -/

/-- (ResidentCommunicator.cc:70-77) `bodySize` is a `uint32_t`. -/
def setHeader (b : SmartBuffer) (fresh : Nat → UInt8) (bodySize : Nat) (type : PacketType) :
    Except InsertError SmartBuffer := do
  let b := (b.ensureRemainingSize (headerLen + bodySize) fresh).resetIndexDeep
  let b ← b.addNumber 4 bodySize
  b.addNumber 2 type.value

/-- The body size of a packet whose header has been read. -/
def getBodySize (b : SmartBuffer) : Option Nat := (b.resetIndex.takeNumber 4).map Prod.fst

/-- The length is stored in two bytes. -/
def addModulePath (b : SmartBuffer) (modulePath : Bytes) : Except InsertError SmartBuffer := do
  let b ← b.addNumber 2 modulePath.length
  b.add modulePath

def addModuleOption (b : SmartBuffer) (moduleOption : Bytes) : Except InsertError SmartBuffer := do
  let b ← b.addNumber 2 moduleOption.length
  b.add moduleOption

/-- The packet that `sendParameters` pushes (ActionManager.cc:1152-1160). -/
def parametersPacket (fresh : Nat → UInt8) (modulePath moduleOption : Bytes) :
    Except InsertError SmartBuffer := do
  let bodyLen := 2 + modulePath.length + 2 + moduleOption.length
  let b ← setHeader .empty fresh (bodyLen % 2 ^ 32) .parameters
  let b ← addModulePath b modulePath
  addModuleOption b moduleOption

/-- (ResidentCommunicator.cc:107-132) A session ID has no less than HATOHOL_SESSION_ID_LEN characters. -/
def setNotifyEventBody (b : SmartBuffer) (fresh : Nat → UInt8) (actionId : Int)
    (eventInfo : NotifiedEvent) (sessionId : Bytes) : Except InsertError SmartBuffer := do
  let bodySize := (eventBodyBaseLen + (eventInfo.hostIdInServer.length + 1) +
    (eventInfo.id.length + 1) + (eventInfo.triggerId.length + 1)) % 2 ^ 32
  let bodyIdx := headerLen + eventBodyBaseLen
  let b ← setHeader b fresh bodySize .notifyEvent
  let b ← b.addNumber 4 actionId
  let b ← b.addNumber 4 eventInfo.serverId
  let (bodyIdx, b) ← b.insertString eventInfo.hostIdInServer bodyIdx
  let b ← b.addNumber 8 eventInfo.time.sec
  let b ← b.addNumber 4 eventInfo.time.nsec
  let (bodyIdx, b) ← b.insertString eventInfo.id bodyIdx
  let b ← b.addNumber 2 eventInfo.type
  let (_, b) ← b.insertString eventInfo.triggerId bodyIdx
  let b ← b.addNumber 2 eventInfo.status
  let b ← b.addNumber 2 eventInfo.severity
  b.add (sessionId.take sessionIdLen)

/-! ## The resident -/

/-- The argument of `notifyEvent`. Numbers are unsigned, but for the time. -/
structure ResidentNotifyEventArg where
  actionId : Nat
  serverId : Nat
  hostIdInServer : Bytes
  time : Timespec
  eventId : Bytes
  eventType : Nat
  triggerId : Bytes
  triggerStatus : Nat
  triggerSeverity : Nat
  sessionId : Bytes
  deriving DecidableEq, Repr

/-- What a function makes of a `const char *`. -/
def cString (bytes : Bytes) : Bytes := bytes.takeWhile (· ≠ 0)

/-- (hatoholResidentYard.cc:97-116) -/
def gotNotifyEventBodyCb (sbuf : SmartBuffer) : Option ResidentNotifyEventArg := do
  let (actionId, sbuf) ← sbuf.takeNumber 4
  let (serverId, sbuf) ← sbuf.takeNumber 4
  let (hostIdInServer, sbuf) ← sbuf.extractStringAndIncIndex
  let (sec, sbuf) ← sbuf.takeNumber 8
  let (nsec, sbuf) ← sbuf.takeNumber 4
  let (eventId, sbuf) ← sbuf.extractStringAndIncIndex
  let (eventType, sbuf) ← sbuf.takeNumber 2
  let (triggerId, sbuf) ← sbuf.extractStringAndIncIndex
  let (triggerStatus, sbuf) ← sbuf.takeNumber 2
  let (triggerSeverity, sbuf) ← sbuf.takeNumber 2
  let (sessionId, _) ← sbuf.takeBytes sessionIdLen
  return {
    actionId, serverId, hostIdInServer := cString hostIdInServer
    time := ⟨(sec : Int).bmod (2 ^ 64), nsec⟩
    eventId := cString eventId, eventType, triggerId := cString triggerId
    triggerStatus, triggerSeverity, sessionId }

/-- (hatoholResidentYard.cc:171-178) The module's path and the option. -/
def getParametersBodyCb (sbuf : SmartBuffer) : Option (Bytes × Bytes) := do
  let (modulePathLen, sbuf) ← sbuf.takeNumber 2
  let (modulePath, sbuf) ← sbuf.takeBytes modulePathLen
  let (moduleOptionLen, sbuf) ← sbuf.takeNumber 2
  let (moduleOption, _) ← sbuf.takeBytes moduleOptionLen
  return (modulePath, moduleOption)

end ResidentCommunicator

end Hatohol

import Hatohol.SmartBuffer

/-!
# NamedPipe

One end of a pipe (server/common/NamedPipe.cc). The bytes that are pushed are written, and those
that are pulled are read, in the callbacks of the main loop, which GLib calls when the channel is
ready; a timer says that a transfer takes too long. What the calls of GLib return is an argument of
the callback that makes them.
-/

namespace Hatohol

/-! ## Timers -/

/-- A source of the main loop that calls back once, after some milliseconds. -/
structure TimeoutSource where
  id : Nat
  period : Nat
  deriving DecidableEq, Repr

/-- (NamedPipe.cc:48-111) INVALID_EVENT_ID is `none`. The source is the main loop's, which numbers
    those that are attached to it. -/
structure TimeoutInfo where
  tag : Option Nat
  value : Nat
  hasCbFunc : Bool
  source : Option TimeoutSource
  nextId : Nat
  deriving DecidableEq, Repr

namespace TimeoutInfo

def new : TimeoutInfo := ⟨none, 0, false, none, 1⟩

/-- (NamedPipe.cc:93-104) -/
def setTimeoutIfNeeded (t : TimeoutInfo) : TimeoutInfo :=
  if !t.hasCbFunc then t
  else if t.tag.isSome then t
  else { t with
    tag := some t.nextId
    source := some ⟨t.nextId, t.value⟩
    nextId := t.nextId + 1 }

/-- (Utils.cc:339-358) -/
def removeEventSourceIfNeeded (t : TimeoutInfo) : TimeoutInfo :=
  { t with source := t.source.filter fun source => t.tag != some source.id }

/-- (NamedPipe.cc:106-110) -/
def removeTimeout (t : TimeoutInfo) : TimeoutInfo := { t.removeEventSourceIfNeeded with tag := none }

/-- (NamedPipe.cc:71-91) The callback of the user comes after this, and the source is removed. -/
def timeoutHandler (t : TimeoutInfo) : TimeoutInfo := { t with tag := none, source := none }

end TimeoutInfo

/-! ## Ends of a pipe -/

inductive GIOStatus where
  | error
  | normal
  | eof
  | again
  deriving DecidableEq, Repr

/-- (NamedPipe.cc:629-638) -/
def checkGIOStatus (stat : GIOStatus) : Bool := stat != .error && stat != .eof

/-- The two watches are sources of the main loop: while one is there, GLib calls `readCb` or
    `writeCb`. -/
structure NamedPipe where
  isWriter : Bool
  writeBufList : List SmartBuffer
  hasPullCb : Bool
  pullBuf : SmartBuffer
  pullRequestSize : Nat
  pullRemainingSize : Nat
  hasIochDataEvtId : Bool
  readWatch : Bool
  writeWatch : Bool
  timeoutInfo : TimeoutInfo
  deriving DecidableEq, Repr

/-- A call of the pull callback. -/
structure PullCall where
  stat : GIOStatus
  buf : SmartBuffer
  size : Nat
  deriving DecidableEq, Repr

/-- The bytes that the callback was promised. -/
def PullCall.bytes (call : PullCall) : List UInt8 := (call.buf.buf.drop call.buf.index).take call.size

namespace NamedPipe

def new (isWriter : Bool) : NamedPipe :=
  ⟨isWriter, [], false, .empty, 0, 0, false, false, false, .new⟩

/-- (NamedPipe.cc:537-545) -/
def enableWriteCbIfNeeded (p : NamedPipe) : NamedPipe :=
  if p.hasIochDataEvtId then p else { p with hasIochDataEvtId := true, writeWatch := true }

/-- (NamedPipe.cc:547-551) -/
def enableReadCb (p : NamedPipe) : NamedPipe := { p with hasIochDataEvtId := true, readWatch := true }

def setTimeoutIfNeeded (p : NamedPipe) : NamedPipe :=
  { p with timeoutInfo := p.timeoutInfo.setTimeoutIfNeeded }

/-- (NamedPipe.cc:295-310) `none` is a failed assertion. -/
def push (p : NamedPipe) (buf : SmartBuffer) : Option NamedPipe :=
  if !p.isWriter then none
  else
    let p := { p with writeBufList := p.writeBufList ++ [buf.resetIndex] }
    some p.enableWriteCbIfNeeded.setTimeoutIfNeeded

/-- (NamedPipe.cc:312-323) -/
def pull (p : NamedPipe) (size : Nat) (fresh : Nat → UInt8) : Option NamedPipe :=
  if p.hasPullCb then none
  else
    let p := { p with
      pullRequestSize := size
      pullRemainingSize := size
      hasPullCb := true
      pullBuf := (p.pullBuf.ensureRemainingSize size fresh).resetIndex }
    some p.enableReadCb.setTimeoutIfNeeded

/-- (NamedPipe.cc:325-338) -/
def setTimeout (p : NamedPipe) (timeout : Nat) (hasTimeoutCb : Bool) : NamedPipe :=
  let timeoutInfo := p.timeoutInfo.removeEventSourceIfNeeded
  if timeout = 0 then { p with timeoutInfo := timeoutInfo }
  else if !hasTimeoutCb then { p with timeoutInfo := timeoutInfo }
  else { p with timeoutInfo := { timeoutInfo with value := timeout, hasCbFunc := true } }

/-- What the loop of `writeCb` leaves. -/
structure WriteEnd where
  sent : List UInt8
  left : List SmartBuffer
  timeoutInfo : TimeoutInfo
  continueEventCb : Bool

/-- The loop of `writeCb` with `writeBuf` (NamedPipe.cc:514-535). The write with the number `k`
    accepts some bytes, or it fails. -/
def writeLoop (results : Nat → Option Nat) : Nat → List SmartBuffer → TimeoutInfo → WriteEnd
  | _, [], t => ⟨[], [], t, false⟩
  | k, buf :: bufs, t =>
      match results k with
      | none => ⟨[], buf :: bufs, t, false⟩
      | some accepted =>
        let count := buf.unsent.length
        let bytesWritten := min accepted count
        if bytesWritten = count then
          let rest := writeLoop results (k + 1) bufs t.removeTimeout
          { rest with sent := buf.unsent ++ rest.sent }
        else
          ⟨buf.unsent.take bytesWritten, buf.incIndex bytesWritten :: bufs, t.setTimeoutIfNeeded, true⟩

/-- (NamedPipe.cc:343-382) With the bytes that went to the channel. -/
def writeCb (p : NamedPipe) (results : Nat → Option Nat) : List UInt8 × NamedPipe :=
  let written := writeLoop results 0 p.writeBufList p.timeoutInfo
  (written.sent, { p with
    writeBufList := written.left
    timeoutInfo := written.timeoutInfo
    hasIochDataEvtId := written.continueEventCb && p.hasIochDataEvtId
    writeWatch := written.continueEventCb })

/-- (NamedPipe.cc:396-433) The bytes are those that `g_io_channel_read_chars` returns. A pull that
    the callback makes is a step of its own. -/
def readCb (p : NamedPipe) (stat : GIOStatus) (bytes : List UInt8) :
    Option (Option PullCall × NamedPipe) :=
  if !p.hasPullCb then none
  else
    let p := { p with pullBuf := p.pullBuf.store bytes }
    let call : PullCall := ⟨stat, p.pullBuf.resetIndex, p.pullRequestSize⟩
    if !checkGIOStatus stat then
      some (some call, { p with
        pullBuf := p.pullBuf.resetIndex
        timeoutInfo := p.timeoutInfo.removeTimeout
        hasIochDataEvtId := false
        readWatch := false })
    else
      let p := { p with pullRemainingSize := p.pullRemainingSize - bytes.length }
      if p.pullRemainingSize = 0 then
        some (some call, { p with
          pullBuf := p.pullBuf.resetIndex
          hasPullCb := false
          hasIochDataEvtId := false
          readWatch := false })
      else some (none, p)

end NamedPipe

end Hatohol

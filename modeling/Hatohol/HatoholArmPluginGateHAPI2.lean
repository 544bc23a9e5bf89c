import Mathlib.Data.String.Basic
import Hatohol.Container.Multimap
import Hatohol.Machine.Component

/-!
# The put procedures of HAPI2

A plugin sends what it has found with one of eight put procedures, in one request or divided into
several (HatoholArmPluginGateHAPI2.cc:1663-3132). The parts of a divided transfer carry a
`divideInfo` and are kept in a multimap of the procedure until the last one has come. A timer of 90
seconds watches for the next part; its context stands in a map that all procedures share. The
elements of a request are of no concern here, and all procedures have them of one type `α`.
-/

namespace Hatohol

open Container Machine

/-- The put procedures that can be divided. -/
inductive PutProcedure where
  | putItems
  | putHistory
  | putHosts
  | putHostGroups
  | putHostGroupMembership
  | putTriggers
  | putEvents
  | putHostParents
  deriving DecidableEq, Repr

abbrev RequestId := String
abbrev SerialId := Int64

structure DivideInfo where
  isLast : Bool
  serialId : SerialId
  requestId : RequestId
  deriving DecidableEq, Repr

/-- The members of a `divideInfo` object, as far as it has them, and what stands in the two fields
    of the uninitialised `DivideInfo` that they are read into. -/
structure DivideInfoObject where
  isLast : Option Bool
  serialId : Option SerialId
  requestId : Option RequestId
  stackIsLast : Bool
  stackSerialId : SerialId
  deriving DecidableEq, Repr

/-- The parameters of a put request as the handler reads them. `elements` is the list that the
    procedure's parse function fills, `elementErrors` are the errors that it adds. -/
structure PutParams (α : Type) where
  hasParams : Bool
  elements : List α
  elementErrors : List String
  updateType : Option String
  fetchId : Option String
  mayMoreFlag : Option Bool
  lastInfo : Option String
  divideInfo : Option DivideInfoObject
  deriving DecidableEq, Repr

/-- `CHECK_MANDATORY_PARAMS_EXISTENCE` and `PARSE_AS_MANDATORY`. -/
def checkMandatoryParamsExistence (hasParams : Bool) : List String :=
  if hasParams then [] else ["Failed to parse: 'params' does not exist."]

def parseAsMandatory {β : Type} (member : String) (value : Option β) (dest : β) : β × List String :=
  match value with
  | some value => (value, [])
  | none => (dest, ["Failed to parse mandatory member: '" ++ member ++ "' does not exist."])

def parseDivideInfo (object : DivideInfoObject) : DivideInfo × List String :=
  let (isLast, errors₁) := parseAsMandatory "isLast" object.isLast object.stackIsLast
  let (serialId, errors₂) := parseAsMandatory "serialId" object.serialId object.stackSerialId
  let (requestId, errors₃) := parseAsMandatory "requestId" object.requestId ""
  (⟨isLast, serialId, requestId⟩, errors₁ ++ errors₂ ++ errors₃)

/-- Whether the stored data that is not in the list is invalid. An unknown type only gives a
    warning. -/
def parseUpdateType (updateType : Option String) : Bool × List String :=
  let (updateType, errors) := parseAsMandatory "updateType" updateType ""
  (updateType = "ALL", errors)

/-- The operations of `UnifiedDataStore` and `DBTablesHost` that take the elements. -/
inductive StoreOperation where
  | syncItems
  | syncHosts
  | upsertHosts
  | syncHostgroups
  | upsertHostgroups
  | syncHostgroupMembers
  | upsertHostgroupMembers
  | syncTriggers
  | addTriggers
  | addEventList
  | upsertVMInfoVect
  deriving DecidableEq, Repr

/-- What a handler does outside its own state. -/
inductive PutEffect (α : Type) where
  | dataStore (operation : StoreOperation) (elements : List α) (lastInfo : Option String)
  | runFetchCallback (fetchId : String)
  | runFetchHistoryCallback (fetchId : String) (samples : List α)
  deriving DecidableEq, Repr

inductive PutResponse where
  | success
  | invalidParams (errors : List String)
  deriving DecidableEq, Repr

/-- What a handler answers and what it has done before. -/
structure PutAnswer (α : Type) where
  response : PutResponse
  effects : List (PutEffect α)
  deriving DecidableEq, Repr

/-- `m_callback` is an object of the callback class of a procedure, for the same request ID. -/
structure DividableProcedureCallContext where
  callback : PutProcedure
  producerId : RequestId
  timeoutId : Nat
  deriving DecidableEq, Repr

/-- The members of `HatoholArmPluginGateHAPI2::Impl` that divided transfers use, and the timers that
    the main loop has armed for them. `sequentialIdMultiMap` is the multimap of each procedure
    (lines 136-143). A timer is given by the context that it points to. -/
structure GateImpl (α : Type) where
  sequentialIdMultiMap : PutProcedure → Multimap RequestId (SerialId × List α)
  callContextMap : RequestId → Option DividableProcedureCallContext
  timers : List DividableProcedureCallContext
  nextTimeoutId : Nat

/-- Where the procedures differ. -/
structure PutHandler (α : Type) where
  procedure : PutProcedure
  /-- The class of the callback that is queued for a part that is not the last one. -/
  callback : PutProcedure
  readsUpdateType : Bool
  /-- What is done when the request has errors. -/
  onErrors : PutParams α → List (PutEffect α)
  /-- What is done with the elements of the whole request. -/
  update : PutParams α → Bool → List α → List (PutEffect α)

namespace GateImpl

variable {α : Type}

def empty : GateImpl α where
  sequentialIdMultiMap _ := .empty
  callContextMap _ := none
  timers := []
  nextTimeoutId := 1

/-- `lock_guard` of `m_dividableProcedureMapMutex`, which is not recursive: `held` says whether the
    calling thread has it already. -/
def lockGuard {β : Type} (held : Bool) (body : Bool → Outcome β) : Outcome β :=
  if held then .deadlock else body true

/-- The context that stood in the map before is deleted, its timer is not. -/
def queueDivideInfoCallback (impl : GateImpl α) (held : Bool) (requestId : RequestId)
    (callback : PutProcedure) : Outcome (GateImpl α) :=
  if requestId = "" then return impl
  else
    let context := ⟨callback, requestId, impl.nextTimeoutId⟩
    let impl := { impl with
      timers := context :: impl.timers, nextTimeoutId := impl.nextTimeoutId + 1 }
    lockGuard held fun _ => return { impl with
      callContextMap := Function.update impl.callContextMap requestId (some context) }

/-- The critical section of `runDivideInfoCallback`. `onGotResponse` of the callbacks does
    nothing. -/
def eraseCallContext (impl : GateImpl α) (requestId : RequestId) : Bool × GateImpl α :=
  match impl.callContextMap requestId with
  | some context => (true, { impl with
      timers := impl.timers.filter fun timer => timer.timeoutId ≠ context.timeoutId
      callContextMap := Function.update impl.callContextMap requestId none })
  | none => (false, impl)

def runDivideInfoCallback (impl : GateImpl α) (held : Bool) (requestId : RequestId) :
    Outcome (Bool × GateImpl α) :=
  if requestId = "" then return (false, impl)
  else lockGuard held fun _ => return impl.eraseCallContext requestId

/-- `sweepInvalidRequestIdMultimapPair` of a callback class, and the handlers' own. -/
def sweepInvalidSequentialIdPair (impl : GateImpl α) (procedure : PutProcedure)
    (requestId : RequestId) : GateImpl α :=
  { impl with
    sequentialIdMultiMap := Function.update impl.sequentialIdMultiMap procedure
      ((impl.sequentialIdMultiMap procedure).erase requestId) }

/-- `onTimeout` of the callback classes (lines 666-993): `flush`, then the sweep. -/
def onTimeout (impl : GateImpl α) (held : Bool) (callback : PutProcedure) (requestId : RequestId) :
    Outcome (GateImpl α) := do
  let (_, impl) ← impl.runDivideInfoCallback held requestId
  return impl.sweepInvalidSequentialIdPair callback requestId

/-- The callback of a timer, which is removed as this returns `FALSE`. A context that does not stand
    in the map has been deleted. -/
def onDividableProcedureTimeout (impl : GateImpl α) (context : DividableProcedureCallContext) :
    Outcome (GateImpl α) :=
  if impl.callContextMap context.producerId ≠ some context then .useAfterFree
  else lockGuard false fun held => do
    let impl ← impl.onTimeout held context.callback context.producerId
    return { impl with
      callContextMap := Function.update impl.callContextMap context.producerId none
      timers := impl.timers.erase context }

/-- The elements of the parts of a transfer, one after another. -/
def collect (impl : GateImpl α) (procedure : PutProcedure) (requestId : RequestId) : List α :=
  ((impl.sequentialIdMultiMap procedure).equalRange requestId).flatMap Prod.snd

def emplace (impl : GateImpl α) (procedure : PutProcedure) (requestId : RequestId)
    (part : SerialId × List α) : GateImpl α :=
  { impl with
    sequentialIdMultiMap := Function.update impl.sequentialIdMultiMap procedure
      ((impl.sequentialIdMultiMap procedure).emplace requestId part) }

end GateImpl

def invalidSerialId (sequenceId : UInt64) (serialId : SerialId) : String :=
  "Invalid serialId. expected: " ++ toString sequenceId ++ " actual: " ++ toString serialId ++ "\n"

namespace PutHandler

variable {α : Type}

/-- What the parse functions in front of `parseDivideInfo` report. -/
def parseErrors (handler : PutHandler α) (params : PutParams α) : List String :=
  checkMandatoryParamsExistence params.hasParams ++ params.elementErrors ++
    if handler.readsUpdateType then (parseUpdateType params.updateType).2 else []

/-- The part of a handler after the `divideInfo`. `list` is the whole list of the request. -/
def finish (handler : PutHandler α) (params : PutParams α) (list : List α) : PutAnswer α :=
  ⟨.success, handler.update params (parseUpdateType params.updateType).1 list⟩

def failure (handler : PutHandler α) (params : PutParams α) (errors : List String) : PutAnswer α :=
  ⟨.invalidParams errors, handler.onErrors params⟩

/-- What is done with the timer for a part that has the expected serial ID. -/
def watch (handler : PutHandler α) (divideInfo : DivideInfo) (sequenceId : UInt64)
    (impl : GateImpl α) : Outcome (GateImpl α) := do
  let (_, impl) ← if sequenceId ≠ 1 then impl.runDivideInfoCallback false divideInfo.requestId
    else pure (false, impl)
  if !divideInfo.isLast then
    impl.queueDivideInfoCallback false divideInfo.requestId handler.callback
  else return impl

/-- The common body of the eight handlers. A part is put into the multimap before anything is known
    of its errors. -/
def handle (handler : PutHandler α) (params : PutParams α) (impl : GateImpl α) :
    Outcome (PutAnswer α × GateImpl α) :=
  let errors := handler.parseErrors params
  match params.divideInfo with
  | none =>
      if errors ≠ [] then return (handler.failure params errors, impl)
      else return (handler.finish params params.elements, impl)
  | some object => do
      let (divideInfo, divideErrors) := parseDivideInfo object
      let errors := errors ++ divideErrors
      let impl := impl.emplace handler.procedure divideInfo.requestId
        (divideInfo.serialId, params.elements)
      let sequenceId := UInt64.ofNat
        ((impl.sequentialIdMultiMap handler.procedure).count divideInfo.requestId)
      let serialId := divideInfo.serialId.toUInt64 + 1
      if serialId ≠ sequenceId then
        let errors := errors ++ [invalidSerialId sequenceId divideInfo.serialId]
        return (⟨.invalidParams errors, []⟩,
          impl.sweepInvalidSequentialIdPair handler.procedure divideInfo.requestId)
      else
        let impl ← handler.watch divideInfo sequenceId impl
        if errors ≠ [] then return (handler.failure params errors, impl)
        else if !divideInfo.isLast then return (⟨.success, []⟩, impl)
        else
          let collected := impl.collect handler.procedure divideInfo.requestId
          return (handler.finish params collected,
            impl.sweepInvalidSequentialIdPair handler.procedure divideInfo.requestId)

end PutHandler

section Handlers

variable {α : Type}

/-- `runFetchCallback` of a request that has a fetch ID. -/
def fetchCallback (params : PutParams α) : List (PutEffect α) :=
  match params.fetchId with
  | some fetchId => if fetchId = "" then [] else [.runFetchCallback fetchId]
  | none => []

/-- `runFetchHistoryCallback` of a request that has a fetch ID. -/
def fetchHistoryCallback (params : PutParams α) (samples : List α) : List (PutEffect α) :=
  match params.fetchId with
  | some fetchId => if fetchId = "" then [] else [.runFetchHistoryCallback fetchId samples]
  | none => []

/-- The one call that stores the elements, where an update type chooses between two operations. -/
def storeElements (sync upsert : StoreOperation) (params : PutParams α) (checkInvalid : Bool)
    (elements : List α) : PutEffect α :=
  .dataStore (if checkInvalid then sync else upsert) elements (some (params.lastInfo.getD ""))

def PutHandler.putItems : PutHandler α where
  procedure := .putItems
  callback := .putEvents
  readsUpdateType := false
  onErrors _ := []
  update params _ itemList := .dataStore .syncItems itemList none :: fetchCallback params

/-- Samples are not stored. They go to the one who has asked for them, also those of a request that
    has errors. -/
def PutHandler.putHistory : PutHandler α where
  procedure := .putHistory
  callback := .putEvents
  readsUpdateType := false
  onErrors params := fetchHistoryCallback params params.elements
  update params _ historyInfoVect := fetchHistoryCallback params historyInfoVect

def PutHandler.putHosts : PutHandler α where
  procedure := .putHosts
  callback := .putEvents
  readsUpdateType := true
  onErrors _ := []
  update params checkInvalidHosts hostInfoVect :=
    [storeElements .syncHosts .upsertHosts params checkInvalidHosts hostInfoVect]

def PutHandler.putHostGroups : PutHandler α where
  procedure := .putHostGroups
  callback := .putEvents
  readsUpdateType := true
  onErrors _ := []
  update params checkInvalidHostGroups hostgroupVect :=
    [storeElements .syncHostgroups .upsertHostgroups params checkInvalidHostGroups hostgroupVect]

def PutHandler.putHostGroupMembership : PutHandler α where
  procedure := .putHostGroupMembership
  callback := .putEvents
  readsUpdateType := true
  onErrors _ := []
  update params checkInvalidHostGroupMembership hostgroupMembershipVect :=
    [storeElements .syncHostgroupMembers .upsertHostgroupMembers params
      checkInvalidHostGroupMembership hostgroupMembershipVect]

def PutHandler.putTriggers : PutHandler α where
  procedure := .putTriggers
  callback := .putEvents
  readsUpdateType := true
  onErrors _ := []
  update params checkInvalidTriggers triggerInfoList :=
    storeElements .syncTriggers .addTriggers params checkInvalidTriggers triggerInfoList ::
      fetchCallback params

/-- `mayMoreFlag` is only read with a fetch ID. -/
def PutHandler.putEvents : PutHandler α where
  procedure := .putEvents
  callback := .putEvents
  readsUpdateType := false
  onErrors _ := []
  update params _ eventInfoList :=
    .dataStore .addEventList eventInfoList (some (params.lastInfo.getD "")) ::
      match params.fetchId with
      | none => [.runFetchCallback ""]
      | some fetchId =>
          if params.mayMoreFlag.getD false then [] else [.runFetchCallback fetchId]

/-- The update type is read and not taken into account. -/
def PutHandler.putHostParents : PutHandler α where
  procedure := .putHostParents
  callback := .putHostParents
  readsUpdateType := true
  onErrors _ := []
  update params _ vmInfoVect :=
    [.dataStore .upsertVMInfoVect vmInfoVect (some (params.lastInfo.getD ""))]

def procedureHandlerPutItems (params : PutParams α) (impl : GateImpl α) :=
  PutHandler.putItems.handle params impl

def procedureHandlerPutHistory (params : PutParams α) (impl : GateImpl α) :=
  PutHandler.putHistory.handle params impl

def procedureHandlerPutHosts (params : PutParams α) (impl : GateImpl α) :=
  PutHandler.putHosts.handle params impl

def procedureHandlerPutHostGroups (params : PutParams α) (impl : GateImpl α) :=
  PutHandler.putHostGroups.handle params impl

def procedureHandlerPutHostGroupMembership (params : PutParams α) (impl : GateImpl α) :=
  PutHandler.putHostGroupMembership.handle params impl

def procedureHandlerPutTriggers (params : PutParams α) (impl : GateImpl α) :=
  PutHandler.putTriggers.handle params impl

def procedureHandlerPutEvents (params : PutParams α) (impl : GateImpl α) :=
  PutHandler.putEvents.handle params impl

def procedureHandlerPutHostParents (params : PutParams α) (impl : GateImpl α) :=
  PutHandler.putHostParents.handle params impl

/-- A put request as it arrives. -/
structure PutRequest (α : Type) where
  procedure : PutProcedure
  params : PutParams α
  deriving DecidableEq, Repr

/-- The handlers as they are registered (lines 1269-1300). -/
def procedureHandler (impl : GateImpl α) (request : PutRequest α) :
    Outcome (PutAnswer α × GateImpl α) :=
  match request.procedure with
  | .putItems => procedureHandlerPutItems request.params impl
  | .putHistory => procedureHandlerPutHistory request.params impl
  | .putHosts => procedureHandlerPutHosts request.params impl
  | .putHostGroups => procedureHandlerPutHostGroups request.params impl
  | .putHostGroupMembership => procedureHandlerPutHostGroupMembership request.params impl
  | .putTriggers => procedureHandlerPutTriggers request.params impl
  | .putEvents => procedureHandlerPutEvents request.params impl
  | .putHostParents => procedureHandlerPutHostParents request.params impl

end Handlers

end Hatohol

import Hatohol.HatoholArmPluginGateHAPI2
import Hatohol.HatoholArmPluginInterfaceHAPI2

/-!
# Fetching on demand

The gate asks the plugin for items, triggers, events or samples with a call, and the plugin answers
with a put procedure that carries the fetch ID of the call (HatoholArmPluginGateHAPI2.cc:476-496,
559-663, 1386-1520). The closure of the one who asked waits for it under the fetch ID. It is also
run when the plugin does not accept the call or does not respond to it in time.
-/

namespace Hatohol

open Machine

/-- The procedures of a plugin that fetch data. -/
inductive FetchMethod where
  | fetchItems
  | fetchHistory
  | fetchTriggers
  | fetchEvents
  deriving DecidableEq, Repr

def FetchMethod.name : FetchMethod → String
  | fetchItems => "fetchItems"
  | fetchHistory => "fetchHistory"
  | fetchTriggers => "fetchTriggers"
  | fetchEvents => "fetchEvents"

structure FetchProcedureCallback where
  fetchId : String
  methodName : FetchMethod
  deriving DecidableEq, Repr

/-- The callbacks that the gate has for its calls. -/
inductive GateCallback where
  | exchangeProfile
  | fetch (callback : FetchProcedureCallback)
  deriving DecidableEq, Repr

/-- A response, as far as the callbacks read it: whether it has an `error`, its `result` where that is
    a string, and the `procedures` in its `result`. -/
structure CallResponse where
  hasError : Bool
  result : Option String
  procedures : Option (List String)
  deriving DecidableEq, Repr

/-- The calls, the divided puts, and the members of `HatoholArmPluginGateHAPI2::Impl` that fetching
    uses. A `Closure0` may be null; those who ask for samples always pass a closure
    (RestResourceMonitoring.cc:710-717). -/
structure FetchGate (α κ : Type) where
  call : CallImpl GateCallback
  put : GateImpl α
  supportedProcedureNameSet : List String
  fetchClosureMap : String → Option (Option κ)
  fetchHistoryClosureMap : String → Option κ

/-- What can be seen of fetching: a call is sent for a closure, it is not accepted, it times out, a
    closure is invoked. A `Closure1` is given samples. -/
inductive FetchEffect (α κ : Type) where
  | sent (callback : FetchProcedureCallback) (closure : Option κ)
  | refused (callback : FetchProcedureCallback)
  | timedOut (callback : FetchProcedureCallback)
  | invoked (closure : κ) (samples : Option (List α))
  deriving DecidableEq, Repr

/-- What happens to the gate. The IDs are those that the random engine gives. -/
inductive FetchEvent (α κ : Type) where
  | callExchangeProfile (id : Int64)
  | exchangeProfile (procedures : Option (List String))
  | startOnDemandFetchItems (fetchId id : Int64) (closure : Option κ)
  | startOnDemandFetchHistory (fetchId id : Int64) (closure : κ)
  | startOnDemandFetchTriggers (fetchId id : Int64) (closure : Option κ)
  | startOnDemandFetchEvents (fetchId id : Int64) (closure : Option κ)
  | response (id : String) (parser : CallResponse)
  | put (request : PutRequest α)
  | expire (timeoutId : Nat)
  deriving DecidableEq, Repr

namespace CallResponse

def isSucceeded (parser : CallResponse) : Bool :=
  if parser.hasError then false else parser.result.getD "" = "SUCCESS"

end CallResponse

namespace FetchGate

variable {α κ : Type}

def empty : FetchGate α κ where
  call := .empty
  put := .empty
  supportedProcedureNameSet := []
  fetchClosureMap _ := none
  fetchHistoryClosureMap _ := none

def queueFetchCallback (gate : FetchGate α κ) (fetchId : String) (closure : Option κ) :
    FetchGate α κ :=
  if fetchId = "" then gate
  else { gate with fetchClosureMap := Function.update gate.fetchClosureMap fetchId (some closure) }

def runFetchCallback (gate : FetchGate α κ) (fetchId : String) :
    List (FetchEffect α κ) × FetchGate α κ :=
  if fetchId = "" then ([], gate)
  else
    match gate.fetchClosureMap fetchId with
    | some closure => (closure.toList.map fun closure => .invoked closure none,
        { gate with fetchClosureMap := Function.update gate.fetchClosureMap fetchId none })
    | none => ([], gate)

def queueFetchHistoryCallback (gate : FetchGate α κ) (fetchId : String) (closure : κ) :
    FetchGate α κ :=
  if fetchId = "" then gate
  else { gate with
    fetchHistoryClosureMap := Function.update gate.fetchHistoryClosureMap fetchId (some closure) }

def runFetchHistoryCallback (gate : FetchGate α κ) (fetchId : String) (historyInfoVect : List α) :
    List (FetchEffect α κ) × FetchGate α κ :=
  if fetchId = "" then ([], gate)
  else
    match gate.fetchHistoryClosureMap fetchId with
    | some closure => ([.invoked closure (some historyInfoVect)], { gate with
        fetchHistoryClosureMap := Function.update gate.fetchHistoryClosureMap fetchId none })
    | none => ([], gate)

def hasProcedure (gate : FetchGate α κ) (method : FetchMethod) : Bool :=
  gate.supportedProcedureNameSet.contains method.name

/-- `FetchProcedureCallback::flush`. -/
def flush (gate : FetchGate α κ) (callback : FetchProcedureCallback) :
    List (FetchEffect α κ) × FetchGate α κ :=
  if callback.methodName = .fetchHistory then gate.runFetchHistoryCallback callback.fetchId []
  else gate.runFetchCallback callback.fetchId

def parseExchangeProfileParams (gate : FetchGate α κ) (procedures : Option (List String)) :
    FetchGate α κ :=
  { gate with supportedProcedureNameSet := procedures.getD [] }

/-- `onGotResponse` of the callbacks. The closure of a call that is accepted is left for the put. -/
def onGotResponse (gate : FetchGate α κ) (callback : GateCallback) (parser : CallResponse) :
    List (FetchEffect α κ) × FetchGate α κ :=
  match callback with
  | .exchangeProfile =>
      if parser.hasError then ([], gate) else ([], gate.parseExchangeProfileParams parser.procedures)
  | .fetch callback =>
      if parser.isSucceeded then ([], gate)
      else
        let (effects, gate) := gate.flush callback
        (effects ++ [.refused callback], gate)

/-- `onTimeout` of the callbacks. -/
def onTimeout (gate : FetchGate α κ) (callback : GateCallback) :
    List (FetchEffect α κ) × FetchGate α κ :=
  match callback with
  | .exchangeProfile => ([], gate)
  | .fetch callback =>
      let (effects, gate) := gate.flush callback
      (effects ++ [.timedOut callback], gate)

/-- What the callbacks do with what they are given. -/
def notify (gate : FetchGate α κ) : CallEffect GateCallback CallResponse →
    List (FetchEffect α κ) × FetchGate α κ
  | .queued _ => ([], gate)
  | .onGotResponse context parser =>
      match context.callback with
      | some callback => gate.onGotResponse callback parser
      | none => ([], gate)
  | .onTimeout context =>
      match context.callback with
      | some callback => gate.onTimeout callback
      | none => ([], gate)

/-- What a put procedure does to the closures. -/
def perform (gate : FetchGate α κ) : PutEffect α → List (FetchEffect α κ) × FetchGate α κ
  | .dataStore _ _ _ => ([], gate)
  | .runFetchCallback fetchId => gate.runFetchCallback fetchId
  | .runFetchHistoryCallback fetchId samples => gate.runFetchHistoryCallback fetchId samples

/-- One after another. -/
def performAll {ε : Type} (f : FetchGate α κ → ε → List (FetchEffect α κ) × FetchGate α κ) :
    FetchGate α κ → List ε → List (FetchEffect α κ) × FetchGate α κ
  | gate, [] => ([], gate)
  | gate, effect :: effects =>
      let (done, gate) := f gate effect
      let (rest, gate) := performAll f gate effects
      (done ++ rest, gate)

def send (gate : FetchGate α κ) (id : Int64) (callback : GateCallback) : FetchGate α κ :=
  { gate with call := (gate.call.send id (some callback)).2 }

/-- The common body of the functions that take a `Closure0`. The Boolean is what they return. -/
def startOnDemandFetch (method : FetchMethod) (gate : FetchGate α κ) (fetchId id : Int64)
    (closure : Option κ) : Bool × List (FetchEffect α κ) × FetchGate α κ :=
  if !gate.hasProcedure method then (false, [], gate)
  else
    let callback := ⟨toString fetchId, method⟩
    let gate := gate.queueFetchCallback (toString fetchId) closure
    (true, [.sent callback closure], gate.send id (.fetch callback))

def startOnDemandFetchItems (gate : FetchGate α κ) (fetchId id : Int64) (closure : Option κ) :=
  startOnDemandFetch .fetchItems gate fetchId id closure

def startOnDemandFetchTriggers (gate : FetchGate α κ) (fetchId id : Int64) (closure : Option κ) :=
  startOnDemandFetch .fetchTriggers gate fetchId id closure

def startOnDemandFetchEvents (gate : FetchGate α κ) (fetchId id : Int64) (closure : Option κ) :=
  startOnDemandFetch .fetchEvents gate fetchId id closure

def startOnDemandFetchHistory (gate : FetchGate α κ) (fetchId id : Int64) (closure : κ) :
    List (FetchEffect α κ) × FetchGate α κ :=
  if !gate.hasProcedure .fetchHistory then ([.invoked closure (some [])], gate)
  else
    let callback := ⟨toString fetchId, .fetchHistory⟩
    let gate := gate.queueFetchHistoryCallback (toString fetchId) closure
    ([.sent callback (some closure)], gate.send id (.fetch callback))

def callExchangeProfile (gate : FetchGate α κ) (id : Int64) : FetchGate α κ :=
  gate.send id .exchangeProfile

def handleResponse (gate : FetchGate α κ) (id : String) (parser : CallResponse) :
    List (FetchEffect α κ) × FetchGate α κ :=
  let (effects, call) := gate.call.handleResponse id parser
  performAll notify { gate with call := call } effects

def expire (gate : FetchGate α κ) (timeoutId : Nat) :
    Outcome (List (FetchEffect α κ) × FetchGate α κ) := do
  let (effects, call) ← gate.call.expire timeoutId
  return performAll notify { gate with call := call } effects

def handlePut (gate : FetchGate α κ) (request : PutRequest α) :
    Outcome (List (FetchEffect α κ) × FetchGate α κ) := do
  let (answer, put) ← procedureHandler gate.put request
  return performAll perform { gate with put := put } answer.effects

def step (gate : FetchGate α κ) :
    FetchEvent α κ → Outcome (List (FetchEffect α κ) × FetchGate α κ)
  | .callExchangeProfile id => return ([], gate.callExchangeProfile id)
  | .exchangeProfile procedures => return ([], gate.parseExchangeProfileParams procedures)
  | .startOnDemandFetchItems fetchId id closure =>
      return (gate.startOnDemandFetchItems fetchId id closure).2
  | .startOnDemandFetchHistory fetchId id closure =>
      return gate.startOnDemandFetchHistory fetchId id closure
  | .startOnDemandFetchTriggers fetchId id closure =>
      return (gate.startOnDemandFetchTriggers fetchId id closure).2
  | .startOnDemandFetchEvents fetchId id closure =>
      return (gate.startOnDemandFetchEvents fetchId id closure).2
  | .response id parser => return gate.handleResponse id parser
  | .put request => gate.handlePut request
  | .expire timeoutId => gate.expire timeoutId

end FetchGate

end Hatohol

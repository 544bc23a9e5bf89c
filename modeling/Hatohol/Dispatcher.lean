import Mathlib.Logic.Function.Basic

/-!
# Requests of a plugin and their replies

The main process and the poller of a plugin each have one queue for acknowledgements and responses.
The dispatcher acknowledges the ID of a request before it is sent and gives the response with this ID
to the process (haplib.py:408-629, 803-869). Nothing is taken out of a queue when a wait times out.
-/

namespace Hatohol.Haplib

inductive ProcessId where
  | main
  | poller
  deriving DecidableEq, Repr

/-- What the receiver has made of a message. Errors go to the queue of the RPC worker, also those
    that answer a request. -/
inductive MessageKind where
  | success
  | failure
  | error
  /-- A request of the server. -/
  | method
  deriving DecidableEq, Repr

structure ParsedMessage where
  messageId : Nat
  kind : MessageKind
  deriving DecidableEq, Repr

/-- What is put into a reply queue. An acknowledgement is `True`; here it has the number of the
    request that caused it. -/
inductive Element where
  | acknowledge (request : Nat)
  | message (pm : ParsedMessage)
  deriving DecidableEq, Repr

/-- What is put into the dispatch queue. -/
inductive Dispatched where
  | notification (source : ProcessId) (waitId : Nat) (request : Nat)
  | received (pm : ParsedMessage)
  deriving DecidableEq, Repr

/-- Where a process is in a request, with the ID and the number of the request. -/
inductive Phase where
  | idle
  /-- In `self.__dispatch_queue.join()`. -/
  | joining (requestId request : Nat)
  | acknowledging (requestId request : Nat)
  | acknowledged (requestId request : Nat)
  | responding (requestId request : Nat)
  deriving DecidableEq, Repr

/-- How a request ends. -/
inductive Ending where
  | returned (pm : ParsedMessage)
  /-- The response is a FAILURE. -/
  | failed
  /-- An element has been got that is not the one that is waited for. -/
  | unexpected
  | notAcknowledged
  | overCapacity
  | noResponse
  deriving DecidableEq, Repr

structure EndedRequest where
  process : ProcessId
  requestId : Nat
  ending : Ending
  deriving DecidableEq, Repr

structure Plugin where
  phase : ProcessId → Phase
  replyQueue : ProcessId → List Element
  dispatchQueue : List Dispatched
  /-- The message that the dispatcher has taken out of the queue. -/
  dispatching : Option Dispatched
  idResQMap : Nat → Option ProcessId
  /-- The requests that the server has not answered. -/
  inFlight : List Nat
  /-- The number of requests so far. -/
  requests : Nat
  log : List EndedRequest

namespace Plugin

def start : Plugin where
  phase _ := .idle
  replyQueue _ := []
  dispatchQueue := []
  dispatching := none
  idResQMap _ := none
  inFlight := []
  requests := 0
  log := []

def setPhase (s : Plugin) (p : ProcessId) (phase : Phase) : Plugin :=
  { s with phase := Function.update s.phase p phase }

def setQueue (s : Plugin) (p : ProcessId) (queue : List Element) : Plugin :=
  { s with replyQueue := Function.update s.replyQueue p queue }

def put (s : Plugin) (p : ProcessId) (element : Element) : Plugin :=
  s.setQueue p (s.replyQueue p ++ [element])

def finish (s : Plugin) (p : ProcessId) (requestId : Nat) (ending : Ending) : Plugin :=
  { s.setPhase p .idle with log := s.log ++ [⟨p, requestId, ending⟩] }

/-- What `__wait_response` makes of an element. `True` has no `message_id`, and the message of a
    request has no `result`. -/
def endingOf (requestId : Nat) : Element → Ending
  | .acknowledge _ => .unexpected
  | .message pm =>
      if pm.messageId ≠ requestId then .unexpected
      else
        match pm.kind with
        | .success => .returned pm
        | .failure => .failed
        | .error => .unexpected
        | .method => .unexpected

/-- `Dispatcher.__acknowledge` -/
def acknowledge (s : Plugin) (source : ProcessId) (waitId request : Nat) : Plugin :=
  if (s.idResQMap waitId).isSome then s
  else
    { s with idResQMap := Function.update s.idResQMap waitId (some source) }.put source
      (.acknowledge request)

/-- The part of `Dispatcher.__dispatch` for a message of the receiver. What goes to the queue of the
    RPC worker is of no concern here. -/
def dispatchReceived (s : Plugin) (pm : ParsedMessage) : Plugin :=
  if pm.kind = .error then s
  else
    match s.idResQMap pm.messageId with
    | none => s
    | some p =>
        { s with idResQMap := Function.update s.idResQMap pm.messageId none }.put p (.message pm)

end Plugin

/-- The steps of the two processes, the dispatcher and the server. A wait can time out as long as
    nothing is in the queue. -/
inductive Step where
  | request (p : ProcessId) (requestId : Nat)
  | join (p : ProcessId)
  | getAcknowledge (p : ProcessId)
  | acknowledgeTimeout (p : ProcessId)
  | send (p : ProcessId) (overCapacity : Bool)
  | getResponse (p : ProcessId)
  | responseTimeout (p : ProcessId)
  /-- A message of the server arrives. It answers each request once at most. -/
  | receive (pm : ParsedMessage)
  /-- The dispatcher gets a message and calls `task_done`. -/
  | take
  | dispatch
  deriving DecidableEq, Repr

/-- A step that cannot be taken leaves the state as it is. -/
def Plugin.next (s : Plugin) : Step → Plugin
  | .request p requestId =>
      match s.phase p with
      | .idle => { s.setPhase p (.joining requestId s.requests) with
          dispatchQueue := s.dispatchQueue ++ [.notification p requestId s.requests]
          requests := s.requests + 1 }
      | _ => s
  | .join p =>
      match s.phase p, s.dispatchQueue with
      | .joining requestId request, [] => s.setPhase p (.acknowledging requestId request)
      | _, _ => s
  | .getAcknowledge p =>
      match s.phase p, s.replyQueue p with
      | .acknowledging requestId request, .acknowledge _ :: rest =>
          (s.setQueue p rest).setPhase p (.acknowledged requestId request)
      | .acknowledging requestId _, .message _ :: rest =>
          (s.setQueue p rest).finish p requestId .unexpected
      | _, _ => s
  | .acknowledgeTimeout p =>
      match s.phase p, s.replyQueue p with
      | .acknowledging requestId _, [] => s.finish p requestId .notAcknowledged
      | _, _ => s
  | .send p overCapacity =>
      match s.phase p with
      | .acknowledged requestId request =>
          if overCapacity then s.finish p requestId .overCapacity
          else { s.setPhase p (.responding requestId request) with
            inFlight := requestId :: s.inFlight }
      | _ => s
  | .getResponse p =>
      match s.phase p, s.replyQueue p with
      | .responding requestId _, element :: rest =>
          (s.setQueue p rest).finish p requestId (endingOf requestId element)
      | _, _ => s
  | .responseTimeout p =>
      match s.phase p, s.replyQueue p with
      | .responding requestId _, [] => s.finish p requestId .noResponse
      | _, _ => s
  | .receive pm =>
      if pm.kind = .method then { s with dispatchQueue := s.dispatchQueue ++ [.received pm] }
      else if pm.messageId ∈ s.inFlight then
        { s with
          dispatchQueue := s.dispatchQueue ++ [.received pm]
          inFlight := s.inFlight.erase pm.messageId }
      else s
  | .take =>
      match s.dispatching, s.dispatchQueue with
      | none, message :: rest => { s with dispatching := some message, dispatchQueue := rest }
      | _, _ => s
  | .dispatch =>
      match s.dispatching with
      | none => s
      | some (.notification source waitId request) =>
          { s with dispatching := none }.acknowledge source waitId request
      | some (.received pm) => { s with dispatching := none }.dispatchReceived pm

end Hatohol.Haplib

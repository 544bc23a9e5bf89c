import Mathlib.Data.String.Basic
import Mathlib.Logic.Function.Basic
import Hatohol.Machine.Component

/-!
# The remote procedure calls of HAPI2

A call is sent with an ID. What takes its response waits in a map under that ID, and a timer of 60
seconds is armed for it (HatoholArmPluginInterfaceHAPI2.cc:394-448, 519-573). The call, a response
and the timeout of a call each hold `m_procedureMapMutex`, so that they come one after another. The
message itself is published after the callback has been queued, and is of no concern here.
-/

namespace Hatohol

open Machine

/-- `m_callback` is one of the callbacks `β`, or null. The ID of the timer also tells a context from
    all others. -/
structure ProcedureCallContext (β : Type) where
  callback : Option β
  procedureId : String
  timeoutId : Nat
  deriving DecidableEq, Repr

/-- The members of `HatoholArmPluginInterfaceHAPI2::Impl` that calls use, and the timers that the
    main loop has armed for them. A timer is given by the context that it points to. -/
structure CallImpl (β : Type) where
  procedureCallContextMap : String → Option (ProcedureCallContext β)
  timers : List (ProcedureCallContext β)
  nextTimeoutId : Nat

/-- What happens to the calls. `ρ` are the responses as the parser gives them. -/
inductive CallEvent (β ρ : Type) where
  | send (id : Int64) (callback : Option β)
  | response (id : String) (parser : ρ)
  | expire (timeoutId : Nat)
  deriving DecidableEq, Repr

/-- What a callback is given, or that it has been queued. -/
inductive CallEffect (β ρ : Type) where
  | queued (context : ProcedureCallContext β)
  | onGotResponse (context : ProcedureCallContext β) (parser : ρ)
  | onTimeout (context : ProcedureCallContext β)
  deriving DecidableEq, Repr

namespace CallImpl

variable {β ρ : Type}

def empty : CallImpl β where
  procedureCallContextMap _ := none
  timers := []
  nextTimeoutId := 1

/-- The context that stood in the map before is deleted, its timer is not. -/
def queueProcedureCallback (impl : CallImpl β) (id : String) (callback : Option β) :
    ProcedureCallContext β × CallImpl β :=
  let context := ⟨callback, id, impl.nextTimeoutId⟩
  (context, {
    procedureCallContextMap := Function.update impl.procedureCallContextMap id (some context)
    timers := context :: impl.timers
    nextTimeoutId := impl.nextTimeoutId + 1 })

def runProcedureCallback (impl : CallImpl β) (id : String) (parser : ρ) :
    List (CallEffect β ρ) × CallImpl β :=
  match impl.procedureCallContextMap id with
  | some context =>
      (if context.callback.isSome then [.onGotResponse context parser] else [], { impl with
        timers := impl.timers.filter fun timer => timer.timeoutId ≠ context.timeoutId
        procedureCallContextMap := Function.update impl.procedureCallContextMap id none })
  | none => ([], impl)

/-- A context lives as long as the map has it. -/
def isAlive (impl : CallImpl β) (context : ProcedureCallContext β) : Bool :=
  match impl.procedureCallContextMap context.procedureId with
  | some stored => stored.timeoutId = context.timeoutId
  | none => false

/-- The callback of a timer, which is removed as this returns `FALSE`. -/
def onProcedureCallContext (impl : CallImpl β) (context : ProcedureCallContext β) :
    Outcome (List (CallEffect β ρ) × CallImpl β) :=
  if !impl.isAlive context then .useAfterFree
  else return (if context.callback.isSome then [.onTimeout context] else [], { impl with
    timers := impl.timers.filter fun timer => timer.timeoutId ≠ context.timeoutId
    procedureCallContextMap :=
      Function.update impl.procedureCallContextMap context.procedureId none })

/-- A response without an ID is only logged. -/
def handleResponse (impl : CallImpl β) (id : String) (parser : ρ) :
    List (CallEffect β ρ) × CallImpl β :=
  if id = "" then ([], impl) else impl.runProcedureCallback id parser

def send (impl : CallImpl β) (id : Int64) (callback : Option β) :
    ProcedureCallContext β × CallImpl β :=
  impl.queueProcedureCallback (toString id) callback

/-- A timer that is not armed does not fire. -/
def expire (impl : CallImpl β) (timeoutId : Nat) : Outcome (List (CallEffect β ρ) × CallImpl β) :=
  match impl.timers.find? fun timer => timer.timeoutId = timeoutId with
  | some context => impl.onProcedureCallContext context
  | none => return ([], impl)

def step (impl : CallImpl β) : CallEvent β ρ → Outcome (List (CallEffect β ρ) × CallImpl β)
  | .send id callback =>
      let (context, impl) := impl.send id callback
      return ([.queued context], impl)
  | .response id parser => return impl.handleResponse id parser
  | .expire timeoutId => impl.expire timeoutId

end CallImpl

end Hatohol

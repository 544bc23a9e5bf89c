import Hatohol.HatoholArmPluginGateHAPI2

/-!
# The parts of one divided transfer

What a handler does with the parts of one transfer depends on the parts of it that it has kept, and
on nothing else. It leaves the parts of all other transfers as they are. So the parts of a transfer
are a component of the gate, whatever they are interleaved with.
-/

namespace Hatohol

open Container Machine

variable {α : Type}

/-- A request with a `divideInfo`, as its handler has parsed it. `errors` are those that are known
    before the serial ID is looked at. -/
structure Part (α : Type) where
  params : PutParams α
  divideInfo : DivideInfo
  errors : List String
  deriving DecidableEq, Repr

namespace PutHandler

def part (handler : PutHandler α) (params : PutParams α) : Option (Part α) :=
  params.divideInfo.map fun object =>
    ⟨params, (parseDivideInfo object).1, handler.parseErrors params ++ (parseDivideInfo object).2⟩

end PutHandler

/-- The `sequenceId` that the handler computes for the next part. -/
def nextSequenceId (parts : List (SerialId × List α)) : UInt64 := UInt64.ofNat (parts.length + 1)

/-- Whether a part has the serial ID that comes after the parts that are kept. -/
def Part.Expected (part : Part α) (parts : List (SerialId × List α)) : Prop :=
  part.divideInfo.serialId.toUInt64 + 1 = nextSequenceId parts

instance (part : Part α) (parts : List (SerialId × List α)) : Decidable (part.Expected parts) :=
  inferInstanceAs (Decidable (_ = _))

/-- The answer to a part of a transfer, and the parts that are kept afterwards. -/
def PutHandler.receive (handler : PutHandler α) (parts : List (SerialId × List α)) (part : Part α) :
    PutAnswer α × List (SerialId × List α) :=
  let received := parts ++ [(part.divideInfo.serialId, part.params.elements)]
  if part.Expected parts then
    if part.errors ≠ [] then (handler.failure part.params part.errors, received)
    else if !part.divideInfo.isLast then (⟨.success, []⟩, received)
    else (handler.finish part.params (received.flatMap Prod.snd), [])
  else
    (⟨.invalidParams (part.errors ++
      [invalidSerialId (nextSequenceId parts) part.divideInfo.serialId]), []⟩, [])

namespace PutHandler

theorem receive_unexpected {handler : PutHandler α} {parts : List (SerialId × List α)}
    {part : Part α} (hexpected : ¬ part.Expected parts) :
    handler.receive parts part = (⟨.invalidParams (part.errors ++
      [invalidSerialId (nextSequenceId parts) part.divideInfo.serialId]), []⟩, []) := by
  rw [receive, if_neg hexpected]

theorem receive_expected {handler : PutHandler α} {parts : List (SerialId × List α)}
    {part : Part α} (hexpected : part.Expected parts) :
    handler.receive parts part =
      if part.errors ≠ [] then (handler.failure part.params part.errors,
        parts ++ [(part.divideInfo.serialId, part.params.elements)])
      else if !part.divideInfo.isLast then (⟨.success, []⟩,
        parts ++ [(part.divideInfo.serialId, part.params.elements)])
      else (handler.finish part.params
        ((parts ++ [(part.divideInfo.serialId, part.params.elements)]).flatMap Prod.snd), []) := by
  rw [receive, if_pos hexpected]

end PutHandler

namespace GateImpl

/-- The parts of a transfer that are kept. -/
def parts (impl : GateImpl α) (procedure : PutProcedure) (requestId : RequestId) :
    List (SerialId × List α) :=
  (impl.sequentialIdMultiMap procedure).equalRange requestId

/-- Two states with the same call contexts and timers. -/
structure SameTimers (impl impl' : GateImpl α) : Prop where
  callContextMap : impl'.callContextMap = impl.callContextMap
  timers : impl'.timers = impl.timers
  nextTimeoutId : impl'.nextTimeoutId = impl.nextTimeoutId

@[simp] theorem parts_empty (procedure : PutProcedure) (requestId : RequestId) :
    (empty : GateImpl α).parts procedure requestId = [] := rfl

@[simp] theorem parts_emplace_self (impl : GateImpl α) (procedure : PutProcedure)
    (requestId : RequestId) (part : SerialId × List α) :
    (impl.emplace procedure requestId part).parts procedure requestId =
      impl.parts procedure requestId ++ [part] := by
  simp [parts, emplace]

theorem parts_emplace_of_ne (impl : GateImpl α) {procedure procedure' : PutProcedure}
    {requestId requestId' : RequestId}
    (hne : (procedure', requestId') ≠ (procedure, requestId)) (part : SerialId × List α) :
    (impl.emplace procedure requestId part).parts procedure' requestId' =
      impl.parts procedure' requestId' := by
  rw [parts, parts, emplace]
  by_cases hp : procedure' = procedure
  · obtain rfl := hp
    have hr : requestId' ≠ requestId := fun heq => hne (by rw [heq])
    simp only [Function.update_self]
    exact Multimap.equalRange_emplace_of_ne _ hr part
  · simp only [Function.update_of_ne hp]

@[simp] theorem parts_sweep_self (impl : GateImpl α) (procedure : PutProcedure)
    (requestId : RequestId) :
    (impl.sweepInvalidSequentialIdPair procedure requestId).parts procedure requestId = [] := by
  simp [parts, sweepInvalidSequentialIdPair]

theorem parts_sweep_of_ne (impl : GateImpl α) {procedure procedure' : PutProcedure}
    {requestId requestId' : RequestId}
    (hne : (procedure', requestId') ≠ (procedure, requestId)) :
    (impl.sweepInvalidSequentialIdPair procedure requestId).parts procedure' requestId' =
      impl.parts procedure' requestId' := by
  rw [parts, parts, sweepInvalidSequentialIdPair]
  by_cases hp : procedure' = procedure
  · obtain rfl := hp
    have hr : requestId' ≠ requestId := fun heq => hne (by rw [heq])
    simp only [Function.update_self]
    exact Multimap.equalRange_erase_of_ne _ hr
  · simp only [Function.update_of_ne hp]

/-- What `queueDivideInfoCallback` does for a thread that does not hold the mutex. -/
def armTimer (impl : GateImpl α) (requestId : RequestId) (callback : PutProcedure) : GateImpl α :=
  if requestId = "" then impl
  else
    let context := ⟨callback, requestId, impl.nextTimeoutId⟩
    { impl with
      timers := context :: impl.timers
      nextTimeoutId := impl.nextTimeoutId + 1
      callContextMap := Function.update impl.callContextMap requestId (some context) }

/-- What `runDivideInfoCallback` does for a thread that does not hold the mutex. -/
def cancelTimer (impl : GateImpl α) (requestId : RequestId) : GateImpl α :=
  if requestId = "" then impl else (impl.eraseCallContext requestId).2

theorem queueDivideInfoCallback_eq (impl : GateImpl α) (requestId : RequestId)
    (callback : PutProcedure) :
    impl.queueDivideInfoCallback false requestId callback =
      .returned (impl.armTimer requestId callback) := by
  unfold queueDivideInfoCallback armTimer
  split
  · rfl
  · rfl

theorem runDivideInfoCallback_eq (impl : GateImpl α) (requestId : RequestId) :
    ∃ found, impl.runDivideInfoCallback false requestId =
      .returned (found, impl.cancelTimer requestId) := by
  unfold runDivideInfoCallback cancelTimer
  split
  · exact ⟨false, rfl⟩
  · exact ⟨(impl.eraseCallContext requestId).1, rfl⟩

@[simp] theorem parts_armTimer (impl : GateImpl α) (requestId : RequestId)
    (callback procedure : PutProcedure) (requestId' : RequestId) :
    (impl.armTimer requestId callback).parts procedure requestId' =
      impl.parts procedure requestId' := by
  unfold armTimer
  split
  · rfl
  · rfl

@[simp] theorem parts_cancelTimer (impl : GateImpl α) (requestId : RequestId)
    (procedure : PutProcedure) (requestId' : RequestId) :
    (impl.cancelTimer requestId).parts procedure requestId' = impl.parts procedure requestId' := by
  unfold cancelTimer eraseCallContext
  split
  · rfl
  · split
    · rfl
    · rfl

theorem SameTimers.armTimer {impl impl' : GateImpl α} (hsame : impl.SameTimers impl')
    (requestId : RequestId) (callback : PutProcedure) :
    (impl.armTimer requestId callback).SameTimers (impl'.armTimer requestId callback) := by
  unfold GateImpl.armTimer
  split
  · exact hsame
  · rw [hsame.callContextMap, hsame.timers, hsame.nextTimeoutId]
    exact ⟨rfl, rfl, rfl⟩

theorem SameTimers.cancelTimer {impl impl' : GateImpl α} (hsame : impl.SameTimers impl')
    (requestId : RequestId) :
    (impl.cancelTimer requestId).SameTimers (impl'.cancelTimer requestId) := by
  unfold GateImpl.cancelTimer eraseCallContext
  split
  · exact hsame
  · rw [hsame.callContextMap]
    cases impl.callContextMap requestId with
    | none => exact hsame
    | some context => exact ⟨rfl, by rw [hsame.timers], hsame.nextTimeoutId⟩

end GateImpl

namespace PutHandler

/-- The timers after a part with the expected serial ID. -/
def watched (handler : PutHandler α) (divideInfo : DivideInfo) (sequenceId : UInt64)
    (impl : GateImpl α) : GateImpl α :=
  let impl := if sequenceId ≠ 1 then impl.cancelTimer divideInfo.requestId else impl
  if !divideInfo.isLast then impl.armTimer divideInfo.requestId handler.callback else impl

theorem watch_eq (handler : PutHandler α) (divideInfo : DivideInfo) (sequenceId : UInt64)
    (impl : GateImpl α) :
    handler.watch divideInfo sequenceId impl =
      .returned (handler.watched divideInfo sequenceId impl) := by
  unfold watch watched
  by_cases hfirst : sequenceId ≠ 1
  · obtain ⟨found, hrun⟩ := impl.runDivideInfoCallback_eq divideInfo.requestId
    simp only [if_pos hfirst, hrun, Outcome.returned_bind]
    split
    · exact GateImpl.queueDivideInfoCallback_eq _ _ _
    · rfl
  · simp only [if_neg hfirst, Outcome.pure_eq, Outcome.returned_bind]
    split
    · exact GateImpl.queueDivideInfoCallback_eq _ _ _
    · rfl

@[simp] theorem parts_watched (handler : PutHandler α) (divideInfo : DivideInfo)
    (sequenceId : UInt64) (impl : GateImpl α) (procedure : PutProcedure) (requestId : RequestId) :
    (handler.watched divideInfo sequenceId impl).parts procedure requestId =
      impl.parts procedure requestId := by
  unfold watched
  by_cases hfirst : sequenceId ≠ 1
  · simp only [if_pos hfirst]
    split
    · rw [GateImpl.parts_armTimer, GateImpl.parts_cancelTimer]
    · rw [GateImpl.parts_cancelTimer]
  · simp only [if_neg hfirst]
    split
    · rw [GateImpl.parts_armTimer]
    · rfl

theorem sameTimers_watched (handler : PutHandler α) (divideInfo : DivideInfo) (sequenceId : UInt64)
    {impl impl' : GateImpl α} (hsame : impl.SameTimers impl') :
    (handler.watched divideInfo sequenceId impl).SameTimers
      (handler.watched divideInfo sequenceId impl') := by
  unfold watched
  by_cases hfirst : sequenceId ≠ 1
  · simp only [if_pos hfirst]
    split
    · exact (hsame.cancelTimer _).armTimer _ _
    · exact hsame.cancelTimer _
  · simp only [if_neg hfirst]
    split
    · exact hsame.armTimer _ _
    · exact hsame

theorem handle_undivided (handler : PutHandler α) {params : PutParams α}
    (hpart : handler.part params = none) (impl : GateImpl α) :
    handler.handle params impl =
      .returned (if handler.parseErrors params ≠ [] then
        handler.failure params (handler.parseErrors params)
        else handler.finish params params.elements, impl) := by
  have hnone : params.divideInfo = none := Option.map_eq_none_iff.mp hpart
  unfold handle
  rw [hnone]
  dsimp only
  split
  · rfl
  · rfl

/-- The whole body of a handler for a part, with the timer's calls replaced by what they do. -/
theorem handle_eq (handler : PutHandler α) {params : PutParams α} {part : Part α}
    (hpart : handler.part params = some part) (impl : GateImpl α) :
    let parts := impl.parts handler.procedure part.divideInfo.requestId
    let emplaced := impl.emplace handler.procedure part.divideInfo.requestId
      (part.divideInfo.serialId, part.params.elements)
    let watched := handler.watched part.divideInfo (nextSequenceId parts) emplaced
    handler.handle params impl = .returned (
      if part.Expected parts then
        if part.errors ≠ [] then (handler.failure part.params part.errors, watched)
        else if !part.divideInfo.isLast then (⟨.success, []⟩, watched)
        else (handler.finish part.params
            (watched.collect handler.procedure part.divideInfo.requestId),
          watched.sweepInvalidSequentialIdPair handler.procedure part.divideInfo.requestId)
      else (⟨.invalidParams (part.errors ++
          [invalidSerialId (nextSequenceId parts) part.divideInfo.serialId]), []⟩,
        emplaced.sweepInvalidSequentialIdPair handler.procedure part.divideInfo.requestId)) := by
  intro parts emplaced watched
  obtain ⟨object, hobject, rfl⟩ := Option.map_eq_some_iff.mp hpart
  have hsequence : UInt64.ofNat ((emplaced.sequentialIdMultiMap handler.procedure).count
      (parseDivideInfo object).1.requestId) = nextSequenceId parts := by
    have hparts := impl.parts_emplace_self handler.procedure (parseDivideInfo object).1.requestId
      ((parseDivideInfo object).1.serialId, params.elements)
    rw [Multimap.count, ← GateImpl.parts, hparts, List.length_append]
    rfl
  unfold handle
  rw [hobject]
  dsimp only at hsequence ⊢
  rw [hsequence]
  by_cases hexpected : Part.Expected ⟨params, (parseDivideInfo object).1,
      handler.parseErrors params ++ (parseDivideInfo object).2⟩ parts
  · have hserial : ¬ (parseDivideInfo object).1.serialId.toUInt64 + 1 ≠ nextSequenceId parts :=
      not_not.mpr hexpected
    rw [if_neg hserial, if_pos hexpected, watch_eq, Outcome.returned_bind]
    split
    · rfl
    · split
      · rfl
      · rfl
  · have hserial : (parseDivideInfo object).1.serialId.toUInt64 + 1 ≠ nextSequenceId parts :=
      hexpected
    rw [if_pos hserial, if_neg hexpected]
    rfl

/-- A part is answered by the parts of its transfer that are kept, and changes these only. -/
theorem handle_part (handler : PutHandler α) {params : PutParams α} {part : Part α}
    (hpart : handler.part params = some part) (impl : GateImpl α) :
    let parts := impl.parts handler.procedure part.divideInfo.requestId
    ∃ impl', handler.handle params impl = .returned ((handler.receive parts part).1, impl') ∧
      impl'.parts handler.procedure part.divideInfo.requestId = (handler.receive parts part).2 ∧
      (∀ procedure requestId,
        (procedure, requestId) ≠ (handler.procedure, part.divideInfo.requestId) →
        impl'.parts procedure requestId = impl.parts procedure requestId) ∧
      GateImpl.SameTimers (if part.Expected parts then
        handler.watched part.divideInfo (nextSequenceId parts) impl else impl) impl' := by
  intro parts
  set emplaced := impl.emplace handler.procedure part.divideInfo.requestId
    (part.divideInfo.serialId, part.params.elements) with hemplaced
  set watched := handler.watched part.divideInfo (nextSequenceId parts) emplaced with hwatched
  have hemplace : watched.parts handler.procedure part.divideInfo.requestId =
      parts ++ [(part.divideInfo.serialId, part.params.elements)] := by
    rw [hwatched, parts_watched]
    exact impl.parts_emplace_self _ _ _
  have hother : ∀ procedure requestId,
      (procedure, requestId) ≠ (handler.procedure, part.divideInfo.requestId) →
      watched.parts procedure requestId = impl.parts procedure requestId := by
    intro procedure requestId hne
    rw [hwatched, parts_watched]
    exact impl.parts_emplace_of_ne hne _
  have hsame : (handler.watched part.divideInfo (nextSequenceId parts) impl).SameTimers watched :=
    handler.sameTimers_watched _ _ ⟨rfl, rfl, rfl⟩
  rw [handler.handle_eq hpart impl]
  by_cases hexpected : part.Expected parts
  · rw [if_pos hexpected, if_pos hexpected, receive_expected hexpected]
    by_cases hfailed : part.errors ≠ []
    · rw [if_pos hfailed, if_pos hfailed]
      exact ⟨watched, rfl, hemplace, hother, hsame⟩
    · rw [if_neg hfailed, if_neg hfailed]
      by_cases hlast : (!part.divideInfo.isLast) = true
      · rw [if_pos hlast, if_pos hlast]
        exact ⟨watched, rfl, hemplace, hother, hsame⟩
      · rw [if_neg hlast, if_neg hlast, GateImpl.collect, ← GateImpl.parts, ← hemplaced,
          ← hwatched, hemplace]
        refine ⟨_, rfl, GateImpl.parts_sweep_self _ _ _, ?_,
          ⟨hsame.callContextMap, hsame.timers, hsame.nextTimeoutId⟩⟩
        intro procedure requestId hne
        rw [GateImpl.parts_sweep_of_ne _ hne, hother procedure requestId hne]
  · rw [if_neg hexpected, if_neg hexpected, receive_unexpected hexpected]
    refine ⟨_, rfl, by simp, ?_, ⟨rfl, rfl, rfl⟩⟩
    intro procedure requestId hne
    rw [GateImpl.parts_sweep_of_ne _ hne]
    exact impl.parts_emplace_of_ne hne _

end PutHandler

/-- The handler of a procedure. -/
def PutProcedure.handler : PutProcedure → PutHandler α
  | .putItems => .putItems
  | .putHistory => .putHistory
  | .putHosts => .putHosts
  | .putHostGroups => .putHostGroups
  | .putHostGroupMembership => .putHostGroupMembership
  | .putTriggers => .putTriggers
  | .putEvents => .putEvents
  | .putHostParents => .putHostParents

@[simp] theorem PutProcedure.handler_procedure (procedure : PutProcedure) :
    (procedure.handler : PutHandler α).procedure = procedure := by
  cases procedure <;> rfl

theorem procedureHandler_eq (impl : GateImpl α) (request : PutRequest α) :
    procedureHandler impl request = request.procedure.handler.handle request.params impl := by
  obtain ⟨procedure, params⟩ := request
  cases procedure <;> rfl

/-- Every put request is answered. -/
theorem procedureHandler_returns (impl : GateImpl α) (request : PutRequest α) :
    ∃ answer impl', procedureHandler impl request = .returned (answer, impl') := by
  rw [procedureHandler_eq]
  cases hpart : request.procedure.handler.part request.params with
  | none => exact ⟨_, impl, request.procedure.handler.handle_undivided hpart impl⟩
  | some part =>
    obtain ⟨impl', hreturn, -⟩ := request.procedure.handler.handle_part hpart impl
    exact ⟨_, impl', hreturn⟩

/-- A request as a part of a transfer, if it is one. -/
def PutRequest.partOf (procedure : PutProcedure) (requestId : RequestId) (request : PutRequest α) :
    Option (Part α) :=
  if request.procedure = procedure then
    (procedure.handler.part request.params).filter fun part => part.divideInfo.requestId = requestId
  else none

theorem PutRequest.partOf_eq_some_iff {procedure : PutProcedure} {requestId : RequestId}
    {request : PutRequest α} {part : Part α} :
    request.partOf procedure requestId = some part ↔
      request.procedure = procedure ∧ procedure.handler.part request.params = some part ∧
        part.divideInfo.requestId = requestId := by
  unfold partOf
  by_cases hp : request.procedure = procedure
  · simp [hp, Option.filter_eq_some_iff]
  · simp [hp]

/-- The parts that are kept of one transfer are a component of the gate. -/
def transfer (procedure : PutProcedure) (requestId : RequestId) :
    Component (procedureHandler : GateImpl α → PutRequest α → _) procedure.handler.receive where
  view impl := impl.parts procedure requestId
  input := PutRequest.partOf procedure requestId
  own := by
    intro impl request part hinput
    obtain ⟨rfl, hpart, rfl⟩ := PutRequest.partOf_eq_some_iff.mp hinput
    obtain ⟨impl', hreturn, hparts, -, -⟩ :=
      request.procedure.handler.handle_part hpart impl
    rw [PutProcedure.handler_procedure] at hreturn hparts
    exact ⟨impl', (procedureHandler_eq impl request).trans hreturn, hparts⟩
  other := by
    intro impl request hinput
    rw [procedureHandler_eq]
    cases hpart : request.procedure.handler.part request.params with
    | none => exact ⟨_, impl, request.procedure.handler.handle_undivided hpart impl, rfl⟩
    | some part =>
      obtain ⟨impl', hreturn, -, hother, -⟩ :=
        request.procedure.handler.handle_part hpart impl
      refine ⟨_, impl', hreturn, hother procedure requestId ?_⟩
      rw [PutProcedure.handler_procedure]
      intro heq
      obtain ⟨rfl, rfl⟩ := Prod.mk.inj heq
      have hsome := PutRequest.partOf_eq_some_iff.mpr ⟨rfl, hpart, rfl⟩
      rw [hinput] at hsome
      cases hsome

end Hatohol

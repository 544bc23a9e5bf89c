import Hatohol.Divided.Transfer

/-!
# The timers of divided transfers

Each part that is not the last one arms a timer and stores its context under the request ID. The
next part of the transfer cancels it again. A part that has not the expected serial ID, or that is
the first one of its transfer, cancels no timer, so that one that is armed stays without its context
or without its transfer. A timer that fires never comes to its end.
-/

namespace Hatohol

open Container Machine

variable {α : Type}

namespace GateImpl

/-- A timeout forgets the transfer that it belongs to, and nothing else. -/
def Forgets (impl : GateImpl α) (procedure : PutProcedure) (requestId : RequestId)
    (outcome : Outcome (GateImpl α)) : Prop :=
  ∃ impl', outcome = .returned impl' ∧ impl'.parts procedure requestId = [] ∧
    ∀ procedure' requestId', (procedure', requestId') ≠ (procedure, requestId) →
      impl'.parts procedure' requestId' = impl.parts procedure' requestId'

/-- `flush` takes the mutex that `onDividableProcedureTimeout` holds. -/
theorem onDividableProcedureTimeout_eq (impl : GateImpl α) {context : DividableProcedureCallContext}
    (hid : context.producerId ≠ "") :
    impl.onDividableProcedureTimeout context =
      if impl.callContextMap context.producerId = some context then .deadlock else .useAfterFree :=
        by
  unfold onDividableProcedureTimeout
  by_cases hstored : impl.callContextMap context.producerId = some context
  · rw [if_neg (not_not.mpr hstored), if_pos hstored]
    simp [lockGuard, onTimeout, runDivideInfoCallback, hid]
  · rw [if_pos hstored, if_neg hstored]

theorem mem_timers_armTimer {impl : GateImpl α} {requestId : RequestId} {callback : PutProcedure}
    {context : DividableProcedureCallContext}
    (hmem : context ∈ (impl.armTimer requestId callback).timers) :
    context ∈ impl.timers ∨
      requestId ≠ "" ∧ context = ⟨callback, requestId, impl.nextTimeoutId⟩ := by
  unfold armTimer at hmem
  split at hmem
  · left
    exact hmem
  · rename_i hid
    rcases List.mem_cons.mp hmem with heq | hmem
    · right
      exact ⟨hid, heq⟩
    · left
      exact hmem

theorem mem_timers_cancelTimer {impl : GateImpl α} {requestId : RequestId}
    {context : DividableProcedureCallContext} (hmem : context ∈ (impl.cancelTimer requestId).timers) :
    context ∈ impl.timers := by
  unfold cancelTimer eraseCallContext at hmem
  split at hmem
  · exact hmem
  · split at hmem
    · exact (List.mem_filter.mp hmem).1
    · exact hmem

end GateImpl

/-- A timer that a part has armed is one of its own request ID. -/
theorem PutHandler.mem_timers_watched {handler : PutHandler α} {divideInfo : DivideInfo}
    {sequenceId : UInt64} {impl : GateImpl α} {context : DividableProcedureCallContext}
    (hmem : context ∈ (handler.watched divideInfo sequenceId impl).timers) :
    context ∈ impl.timers ∨ divideInfo.requestId ≠ "" ∧
      context.producerId = divideInfo.requestId := by
  unfold watched at hmem
  by_cases hfirst : sequenceId ≠ 1
  · simp only [if_pos hfirst] at hmem
    split at hmem
    · rcases GateImpl.mem_timers_armTimer hmem with hmem | ⟨hid, rfl⟩
      · left
        exact GateImpl.mem_timers_cancelTimer hmem
      · right
        exact ⟨hid, rfl⟩
    · left
      exact GateImpl.mem_timers_cancelTimer hmem
  · simp only [if_neg hfirst] at hmem
    split at hmem
    · rcases GateImpl.mem_timers_armTimer hmem with hmem | ⟨hid, rfl⟩
      · left
        exact hmem
      · right
        exact ⟨hid, rfl⟩
    · left
      exact hmem

/-- The timers after a part that has been answered. -/
theorem sameTimers_of_part {request : PutRequest α} {part : Part α}
    (hpart : request.procedure.handler.part request.params = some part) {impl impl' : GateImpl α}
    {answer : PutAnswer α} (hreturn : procedureHandler impl request = .returned (answer, impl')) :
    GateImpl.SameTimers
      (if part.Expected (impl.parts request.procedure part.divideInfo.requestId) then
        request.procedure.handler.watched part.divideInfo
          (nextSequenceId (impl.parts request.procedure part.divideInfo.requestId)) impl
      else impl) impl' := by
  obtain ⟨impl₁, hhandle, -, -, hsame⟩ := request.procedure.handler.handle_part hpart impl
  rw [PutProcedure.handler_procedure] at hhandle hsame
  rw [procedureHandler_eq, hhandle] at hreturn
  obtain ⟨-, rfl⟩ := Prod.mk.inj (Outcome.returned.inj hreturn)
  exact hsame

/-- A timer that a part has armed never forgets the part's transfer, whatever the state is when it
    fires: its callback does not return. -/
theorem dividedTimeout_never_forgets (procedure : PutProcedure) (requestId : RequestId)
    {request : PutRequest α} {part : Part α} {impl impl' : GateImpl α} {answer : PutAnswer α}
    {context : DividableProcedureCallContext}
    (hpartOf : request.partOf procedure requestId = some part)
    (hreturn : procedureHandler impl request = .returned (answer, impl'))
    (harmed : context ∈ impl'.timers) (hnew : context ∉ impl.timers) (later : GateImpl α) :
    ¬ later.Forgets procedure requestId (later.onDividableProcedureTimeout context) := by
  obtain ⟨rfl, hpart, rfl⟩ := PutRequest.partOf_eq_some_iff.mp hpartOf
  have hsame := sameTimers_of_part hpart hreturn
  rw [hsame.timers] at harmed
  have hid : context.producerId ≠ "" := by
    split at harmed
    · rcases PutHandler.mem_timers_watched harmed with hmem | ⟨hid, heq⟩
      · exact absurd hmem hnew
      · rw [heq]
        exact hid
    · exact absurd harmed hnew
  rintro ⟨forgotten, houtcome, -⟩
  rw [later.onDividableProcedureTimeout_eq hid] at houtcome
  split at houtcome
  · cases houtcome
  · cases houtcome

/-- Without the mutex, the callback that is queued for a part would still not forget the transfer:
    six procedures queue the callback class of `putEvents`, which sweeps the parts of events. -/
theorem parts_sweep_callback {procedure : PutProcedure} (hevents : procedure ≠ .putEvents)
    (hparents : procedure ≠ .putHostParents) (impl : GateImpl α) (requestId : RequestId) :
    (impl.sweepInvalidSequentialIdPair (procedure.handler : PutHandler α).callback
      requestId).parts procedure requestId = impl.parts procedure requestId := by
  apply GateImpl.parts_sweep_of_ne
  intro heq
  have hcallback := (Prod.mk.inj heq).1
  cases procedure <;> first | exact hevents rfl | exact hparents rfl | cases hcallback

/-- The state after a first part of hosts. -/
def firstPartReceived : GateImpl Nat :=
  ((GateImpl.empty : GateImpl Nat).emplace .putHosts "1" (0, [1])).armTimer "1" .putEvents

theorem firstPart_answered :
    procedureHandler .empty (partRequest .putHosts "1" 0 false [1]) =
      .returned (⟨.success, []⟩, firstPartReceived) := rfl

theorem dividedTimeout_never_forgets_putHosts :
    ⟨.putEvents, "1", 1⟩ ∈ firstPartReceived.timers ∧
      ¬ firstPartReceived.Forgets .putHosts "1"
        (firstPartReceived.onDividableProcedureTimeout ⟨.putEvents, "1", 1⟩) := by
  refine ⟨by decide, ?_⟩
  exact dividedTimeout_never_forgets .putHosts "1" rfl firstPart_answered (by decide)
    (List.not_mem_nil) firstPartReceived

/-- The timer of the first part of hosts fires. -/
theorem dividedTimeout_deadlock :
    ∃ context ∈ firstPartReceived.timers,
      firstPartReceived.onDividableProcedureTimeout context = .deadlock ∧
      ¬ firstPartReceived.Forgets .putHosts "1"
        (firstPartReceived.onDividableProcedureTimeout context) := by
  have hdeadlock : firstPartReceived.onDividableProcedureTimeout ⟨.putEvents, "1", 1⟩ =
      .deadlock := rfl
  refine ⟨⟨.putEvents, "1", 1⟩, by decide, hdeadlock, ?_⟩
  rintro ⟨impl', houtcome, -⟩
  rw [hdeadlock] at houtcome
  cases houtcome

namespace GateImpl

/-- Every timer that is armed points to the context that stands under its request ID. -/
def NoOrphan (impl : GateImpl α) : Prop :=
  ∀ context ∈ impl.timers, impl.callContextMap context.producerId = some context

/-- No timer is armed for a request ID. -/
def Unwatched (impl : GateImpl α) (requestId : RequestId) : Prop :=
  ∀ context ∈ impl.timers, context.producerId ≠ requestId

instance (impl : GateImpl α) : Decidable impl.NoOrphan := List.decidableBAll _ _

instance (impl : GateImpl α) (requestId : RequestId) : Decidable (impl.Unwatched requestId) :=
  List.decidableBAll _ _

theorem SameTimers.noOrphan_iff {impl impl' : GateImpl α} (hsame : impl.SameTimers impl') :
    impl'.NoOrphan ↔ impl.NoOrphan := by
  rw [NoOrphan, NoOrphan, hsame.timers, hsame.callContextMap]

theorem SameTimers.unwatched_iff {impl impl' : GateImpl α} (hsame : impl.SameTimers impl')
    (requestId : RequestId) : impl'.Unwatched requestId ↔ impl.Unwatched requestId := by
  rw [Unwatched, Unwatched, hsame.timers]

/-- What holds of the timers in every state. -/
structure TimersNumbered (impl : GateImpl α) : Prop where
  fresh : ∀ context ∈ impl.timers, context.timeoutId < impl.nextTimeoutId
  named : impl.Unwatched ""

theorem TimersNumbered.empty : (GateImpl.empty : GateImpl α).TimersNumbered :=
  ⟨by simp [GateImpl.empty], by simp [Unwatched, GateImpl.empty]⟩

theorem SameTimers.timersNumbered {impl impl' : GateImpl α} (hsame : impl.SameTimers impl')
    (hnumbered : impl.TimersNumbered) : impl'.TimersNumbered := by
  refine ⟨?_, (hsame.unwatched_iff "").mpr hnumbered.named⟩
  rw [hsame.timers, hsame.nextTimeoutId]
  exact hnumbered.fresh

theorem TimersNumbered.armTimer {impl : GateImpl α} (hnumbered : impl.TimersNumbered)
    (requestId : RequestId) (callback : PutProcedure) :
    (impl.armTimer requestId callback).TimersNumbered := by
  unfold GateImpl.armTimer
  split
  · exact hnumbered
  · rename_i hid
    constructor
    · intro context hmem
      rcases List.mem_cons.mp hmem with rfl | hmem
      · exact Nat.lt_succ_self _
      · exact Nat.lt_succ_of_lt (hnumbered.fresh context hmem)
    · intro context hmem
      rcases List.mem_cons.mp hmem with rfl | hmem
      · exact hid
      · exact hnumbered.named context hmem

theorem TimersNumbered.cancelTimer {impl : GateImpl α} (hnumbered : impl.TimersNumbered)
    (requestId : RequestId) : (impl.cancelTimer requestId).TimersNumbered := by
  have hnext : (impl.cancelTimer requestId).nextTimeoutId = impl.nextTimeoutId := by
    unfold GateImpl.cancelTimer eraseCallContext
    split
    · rfl
    · split
      · rfl
      · rfl
  constructor
  · intro context hmem
    rw [hnext]
    exact hnumbered.fresh context (mem_timers_cancelTimer hmem)
  · intro context hmem
    exact hnumbered.named context (mem_timers_cancelTimer hmem)

/-- A timer may be armed only where there is none for the request ID. -/
theorem noOrphan_armTimer_iff {impl : GateImpl α} (hstored : impl.NoOrphan)
    (hnumbered : impl.TimersNumbered) (requestId : RequestId) (callback : PutProcedure) :
    (impl.armTimer requestId callback).NoOrphan ↔ impl.Unwatched requestId := by
  by_cases hid : requestId = ""
  · obtain rfl := hid
    simp only [armTimer, if_true]
    exact ⟨fun _ => hnumbered.named, fun _ => hstored⟩
  · simp only [armTimer, if_neg hid]
    constructor
    · intro horphan context hmem heq
      have hcontext := horphan context (List.mem_cons_of_mem _ hmem)
      simp only [heq, Function.update_self] at hcontext
      have hfresh := hnumbered.fresh context hmem
      rw [← Option.some.inj hcontext] at hfresh
      exact absurd hfresh (Nat.lt_irrefl _)
    · intro hunwatched context hmem
      rcases List.mem_cons.mp hmem with rfl | hmem
      · exact Function.update_self _ _ _
      · simp only [Function.update_of_ne (hunwatched context hmem)]
        exact hstored context hmem

/-- Once its timer is cancelled, a request ID has none. -/
theorem noOrphan_cancelTimer {impl : GateImpl α} (hstored : impl.NoOrphan)
    (hnumbered : impl.TimersNumbered) (requestId : RequestId) :
    (impl.cancelTimer requestId).NoOrphan ∧ (impl.cancelTimer requestId).Unwatched requestId := by
  by_cases hid : requestId = ""
  · obtain rfl := hid
    simp only [cancelTimer, if_true]
    exact ⟨hstored, hnumbered.named⟩
  · simp only [cancelTimer, if_neg hid, eraseCallContext]
    cases hcontext : impl.callContextMap requestId with
    | none =>
      refine ⟨hstored, ?_⟩
      intro context hmem heq
      have hsome := hstored context hmem
      rw [heq, hcontext] at hsome
      cases hsome
    | some stored =>
      have hunwatched : ∀ context ∈ impl.timers,
          context.timeoutId ≠ stored.timeoutId → context.producerId ≠ requestId := by
        intro context hmem hne heq
        have hsome := hstored context hmem
        rw [heq, hcontext] at hsome
        exact hne (congrArg _ (Option.some.inj hsome).symm)
      constructor
      · intro context hmem
        obtain ⟨hmem, hne⟩ := List.mem_filter.mp hmem
        have hother := hunwatched context hmem (by simpa using hne)
        simp only [Function.update_of_ne hother]
        exact hstored context hmem
      · intro context hmem
        obtain ⟨hmem, hne⟩ := List.mem_filter.mp hmem
        exact hunwatched context hmem (by simpa using hne)

end GateImpl

/-- After a step no timer is without its context, and none is left for a transfer that has been
    answered with its last part or for a wrong serial ID. -/
def TimersSound (impl : GateImpl α) (request : PutRequest α) (impl' : GateImpl α) : Prop :=
  impl'.NoOrphan ∧ ∀ part, request.procedure.handler.part request.params = some part →
    (part.divideInfo.isLast = true ∨
      ¬ part.Expected (impl.parts request.procedure part.divideInfo.requestId)) →
    impl'.Unwatched part.divideInfo.requestId

/-- No timer is armed for the request ID of a part, or the part continues a transfer of its own
    procedure. -/
def ContinuesOrUnwatched (impl : GateImpl α) (request : PutRequest α) : Prop :=
  ∀ part, request.procedure.handler.part request.params = some part →
    impl.Unwatched part.divideInfo.requestId ∨
      part.Expected (impl.parts request.procedure part.divideInfo.requestId) ∧
        nextSequenceId (impl.parts request.procedure part.divideInfo.requestId) ≠ 1

namespace PutHandler

/-- The timers are sound after a part with the expected serial ID exactly if it continues a
    transfer or there was no timer. -/
theorem watched_sound_iff (handler : PutHandler α) (divideInfo : DivideInfo) (sequenceId : UInt64)
    {impl : GateImpl α} (hstored : impl.NoOrphan) (hnumbered : impl.TimersNumbered) :
    ((handler.watched divideInfo sequenceId impl).NoOrphan ∧
      (divideInfo.isLast = true →
        (handler.watched divideInfo sequenceId impl).Unwatched divideInfo.requestId)) ↔
      impl.Unwatched divideInfo.requestId ∨ sequenceId ≠ 1 := by
  unfold watched
  by_cases hfirst : sequenceId ≠ 1
  · obtain ⟨hcancelled, hunwatched⟩ :=
      GateImpl.noOrphan_cancelTimer hstored hnumbered divideInfo.requestId
    simp only [if_pos hfirst]
    cases hlast : divideInfo.isLast with
    | false =>
      have harmed := (GateImpl.noOrphan_armTimer_iff hcancelled
        (hnumbered.cancelTimer divideInfo.requestId) divideInfo.requestId handler.callback).mpr
        hunwatched
      simp [harmed, hfirst]
    | true => simp [hcancelled, hunwatched, hfirst]
  · simp only [if_neg hfirst]
    cases hlast : divideInfo.isLast with
    | false =>
      have harmed := GateImpl.noOrphan_armTimer_iff hstored hnumbered divideInfo.requestId
        handler.callback
      simp [harmed, hfirst]
    | true => simp [hstored, hfirst]

theorem timersNumbered_watched (handler : PutHandler α) (divideInfo : DivideInfo)
    (sequenceId : UInt64) {impl : GateImpl α} (hnumbered : impl.TimersNumbered) :
    (handler.watched divideInfo sequenceId impl).TimersNumbered := by
  unfold watched
  by_cases hfirst : sequenceId ≠ 1
  · simp only [if_pos hfirst]
    split
    · exact (hnumbered.cancelTimer _).armTimer _ _
    · exact hnumbered.cancelTimer _
  · simp only [if_neg hfirst]
    split
    · exact hnumbered.armTimer _ _
    · exact hnumbered

end PutHandler

/-- A request without a `divideInfo` leaves the gate as it is. -/
theorem eq_of_undivided {request : PutRequest α} {impl impl' : GateImpl α} {answer : PutAnswer α}
    (hpart : request.procedure.handler.part request.params = none)
    (hreturn : procedureHandler impl request = .returned (answer, impl')) : impl' = impl := by
  rw [procedureHandler_eq, PutHandler.handle_undivided _ hpart] at hreturn
  exact (Prod.mk.inj (Outcome.returned.inj hreturn)).2.symm

theorem timersSound_iff {request : PutRequest α} {impl impl' : GateImpl α} {answer : PutAnswer α}
    (hstored : impl.NoOrphan) (hnumbered : impl.TimersNumbered)
    (hreturn : procedureHandler impl request = .returned (answer, impl')) :
    TimersSound impl request impl' ↔ ContinuesOrUnwatched impl request := by
  unfold TimersSound ContinuesOrUnwatched
  cases hpart : request.procedure.handler.part request.params with
  | none =>
    obtain rfl := eq_of_undivided hpart hreturn
    simp [hstored]
  | some part =>
    have hsame := sameTimers_of_part hpart hreturn
    by_cases hexpected : part.Expected (impl.parts request.procedure part.divideInfo.requestId)
    · rw [if_pos hexpected] at hsame
      rw [hsame.noOrphan_iff]
      simpa [hexpected, hsame.unwatched_iff] using
        request.procedure.handler.watched_sound_iff part.divideInfo _ hstored hnumbered
    · rw [if_neg hexpected] at hsame
      rw [hsame.noOrphan_iff]
      simp [hexpected, hsame.unwatched_iff, hstored]

theorem timersNumbered_of_step {request : PutRequest α} {impl impl' : GateImpl α}
    {answer : PutAnswer α} (hnumbered : impl.TimersNumbered)
    (hreturn : procedureHandler impl request = .returned (answer, impl')) :
    impl'.TimersNumbered := by
  cases hpart : request.procedure.handler.part request.params with
  | none =>
    obtain rfl := eq_of_undivided hpart hreturn
    exact hnumbered
  | some part =>
    apply (sameTimers_of_part hpart hreturn).timersNumbered
    split
    · exact request.procedure.handler.timersNumbered_watched _ _ hnumbered
    · exact hnumbered

/-- The timers are sound after every step of a run exactly if every part finds no timer for its
    request ID or continues a transfer of its own procedure. -/
theorem timersSound_run_iff (requests : List (PutRequest α)) :
    Always procedureHandler TimersSound .empty requests ↔
      Always procedureHandler (fun impl request _ => ContinuesOrUnwatched impl request) .empty
        requests := by
  apply always_iff fun impl : GateImpl α => impl.NoOrphan ∧ impl.TimersNumbered
  · intro impl request answer impl' hinv hreturn
    exact timersSound_iff hinv.1 hinv.2 hreturn
  · intro impl request answer impl' hinv hreturn hsound
    exact ⟨hsound.1, timersNumbered_of_step hinv.2 hreturn⟩
  · exact ⟨by simp [GateImpl.NoOrphan, GateImpl.empty], GateImpl.TimersNumbered.empty⟩

-- The context of the first timer is overwritten when items use the request ID of the hosts.
example : ¬ ((firstPartReceived.emplace .putItems "1" (0, [2])).armTimer "1" .putEvents).NoOrphan :=
    by
  decide

/-- The state after a second part that has a wrong serial ID. -/
def wrongSerialIdReceived : GateImpl Nat :=
  (firstPartReceived.emplace .putHosts "1" (5, [2])).sweepInvalidSequentialIdPair .putHosts "1"

/-- The transfer has been answered for a wrong serial ID, and its timer is still armed. -/
theorem wrongSerialId_leaves_timer :
    ¬ Always procedureHandler TimersSound .empty [partRequest .putHosts "1" 0 false [1],
      partRequest .putHosts "1" 5 false [2]] := by
  rintro ⟨_, impl, hfirst, -, _, impl', hsecond, hsound, -⟩
  rw [firstPart_answered] at hfirst
  obtain ⟨-, rfl⟩ := Prod.mk.inj (Outcome.returned.inj hfirst)
  have hanswer : procedureHandler firstPartReceived (partRequest .putHosts "1" 5 false [2]) =
      .returned (⟨.invalidParams [invalidSerialId 2 5], []⟩, wrongSerialIdReceived) := rfl
  rw [hanswer] at hsecond
  obtain ⟨-, rfl⟩ := Prod.mk.inj (Outcome.returned.inj hsecond)
  have hunwatched : wrongSerialIdReceived.Unwatched "1" :=
    hsound.2 _ rfl (Or.inr (by decide))
  exact absurd hunwatched (by decide)

end Hatohol

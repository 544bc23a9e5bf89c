import Mathlib
import Hatohol.Calls.Completion
import Hatohol.Calls.Fetch
import Hatohol.Divided.Parts

/-!
# How often a closure is invoked

A closure waits in one of two maps from its call on, and is invoked as it is taken out. Since the
fetch IDs are distinct, it is never put back, so that a put, a response that does not accept the
call and the timeout of the call exclude each other.
-/

namespace Hatohol

open Machine

variable {α κ : Type}

/-- The closures that have been invoked, once for each time. -/
def invocations (effects : List (FetchEffect α κ)) : List κ :=
  effects.filterMap fun
    | .invoked closure _ => some closure
    | _ => none

@[simp] theorem invocations_append (effects effects' : List (FetchEffect α κ)) :
    invocations (effects ++ effects') = invocations effects ++ invocations effects' :=
  List.filterMap_append

/-- A call that the plugin has not accepted, or has not responded to in time. -/
def Failed (effects : List (FetchEffect α κ)) (callback : FetchProcedureCallback) : Prop :=
  .refused callback ∈ effects ∨ .timedOut callback ∈ effects

/-- No closure is invoked twice, and the closure of a call that has failed has been invoked. -/
structure RunOnce (effects : List (FetchEffect α κ)) : Prop where
  atMostOnce : (invocations effects).Nodup
  afterFailure : ∀ callback closure, .sent callback (some closure) ∈ effects →
    Failed effects callback → closure ∈ invocations effects

/-- The map in which the closure of a call waits, and its key there. -/
def FetchProcedureCallback.place (callback : FetchProcedureCallback) : Bool × String :=
  (callback.methodName = .fetchHistory, callback.fetchId)

/-- Both maps as one. -/
def FetchGate.waiting (gate : FetchGate α κ) (place : Bool × String) : Option (Option κ) :=
  if place.1 then (gate.fetchHistoryClosureMap place.2).map some else gate.fetchClosureMap place.2

/-- What holds of the closures that wait. `ids` are the fetch IDs that have been used and `closures`
    the closures that have been given to the gate. -/
structure ClosuresSound (ids : List String) (closures : List κ) (effects : List (FetchEffect α κ))
    (waiting : Bool × String → Option (Option κ)) : Prop where
  used : ∀ place closure, waiting place = some closure → place.2 ∈ ids
  pending : ∀ place closure, waiting place = some (some closure) →
    closure ∈ closures ∧ closure ∉ invocations effects
  unique : ∀ place place' closure, waiting place = some (some closure) →
    waiting place' = some (some closure) → place = place'
  once : (invocations effects).Nodup
  given : ∀ closure ∈ invocations effects, closure ∈ closures
  sent : ∀ callback closure, .sent callback (some closure) ∈ effects →
    waiting callback.place = some (some closure) ∨ closure ∈ invocations effects
  failed : ∀ callback, Failed effects callback →
    callback.fetchId ∈ ids ∧ waiting callback.place = none

namespace ClosuresSound

variable {ids : List String} {closures : List κ} {effects : List (FetchEffect α κ)}
  {waiting : Bool × String → Option (Option κ)}

theorem runOnce (h : ClosuresSound ids closures effects waiting) : RunOnce effects where
  atMostOnce := h.once
  afterFailure := by
    intro callback closure hsent hfailed
    rcases h.sent callback closure hsent with hwaiting | hinvoked
    · rw [(h.failed callback hfailed).2] at hwaiting
      cases hwaiting
    · exact hinvoked

theorem mono (h : ClosuresSound ids closures effects waiting) {ids' : List String}
    {closures' : List κ} (hids : ids ⊆ ids') (hclosures : closures ⊆ closures') :
    ClosuresSound ids' closures' effects waiting where
  used place closure hwaiting := hids (h.used place closure hwaiting)
  pending place closure hwaiting :=
    ⟨hclosures (h.pending place closure hwaiting).1, (h.pending place closure hwaiting).2⟩
  unique := h.unique
  once := h.once
  given closure hmem := hclosures (h.given closure hmem)
  sent := h.sent
  failed callback hfailed := ⟨hids (h.failed callback hfailed).1, (h.failed callback hfailed).2⟩

/-- A call is sent for a closure that has not been seen, with a fetch ID that has not been used. -/
theorem queue (h : ClosuresSound ids closures effects waiting) (callback : FetchProcedureCallback)
    (closure : Option κ) (hid : callback.fetchId ∉ ids) (hclosure : ∀ c ∈ closure, c ∉ closures) :
    ClosuresSound (ids ++ [callback.fetchId]) (closures ++ closure.toList)
      (effects ++ [.sent callback closure])
      (Function.update waiting callback.place (some closure)) := by
  have hinvocations : invocations (effects ++ [.sent callback closure]) = invocations effects := by
    rw [invocations_append]
    exact List.append_nil _
  have hnew (place : Bool × String) (c : κ) (hwaiting : waiting place = some (some c)) :
      c ∉ closure := by
    intro hmem
    exact hclosure c hmem (h.pending place c hwaiting).1
  constructor
  · intro place c hwaiting
    rw [Function.update_apply] at hwaiting
    split at hwaiting
    · rename_i heq
      rw [heq]
      exact List.mem_append_right _ List.mem_cons_self
    · exact List.mem_append_left _ (h.used place c hwaiting)
  · intro place c hwaiting
    rw [hinvocations]
    rw [Function.update_apply] at hwaiting
    split at hwaiting
    · have hc : closure = some c := Option.some.inj hwaiting
      rw [hc]
      refine ⟨List.mem_append_right _ List.mem_cons_self, ?_⟩
      intro hmem
      exact hclosure c hc (h.given c hmem)
    · obtain ⟨hmem, hnot⟩ := h.pending place c hwaiting
      exact ⟨List.mem_append_left _ hmem, hnot⟩
  · intro place place' c hwaiting hwaiting'
    rw [Function.update_apply] at hwaiting hwaiting'
    split at hwaiting <;> split at hwaiting'
    · rename_i heq heq'
      rw [heq, heq']
    · exact absurd (Option.some.inj hwaiting) (hnew place' c hwaiting')
    · exact absurd (Option.some.inj hwaiting') (hnew place c hwaiting)
    · exact h.unique place place' c hwaiting hwaiting'
  · rw [hinvocations]
    exact h.once
  · rw [hinvocations]
    intro c hmem
    exact List.mem_append_left _ (h.given c hmem)
  · intro callback' c hsent
    rw [hinvocations]
    rcases List.mem_append.mp hsent with hsent | hsent
    · rcases h.sent callback' c hsent with hwaiting | hinvoked
      · left
        rw [Function.update_of_ne, hwaiting]
        intro heq
        apply hid
        have := h.used _ _ hwaiting
        rwa [heq] at this
      · right
        exact hinvoked
    · obtain ⟨rfl, rfl⟩ := FetchEffect.sent.inj (List.mem_singleton.mp hsent)
      left
      exact Function.update_self _ _ _
  · intro callback' hfailed
    have hfailed' : Failed effects callback' := by
      simpa [Failed] using hfailed
    obtain ⟨hmem, hnone⟩ := h.failed callback' hfailed'
    refine ⟨List.mem_append_left _ hmem, ?_⟩
    rw [Function.update_of_ne, hnone]
    intro heq
    have hsame : callback'.fetchId = callback.fetchId := congrArg Prod.snd heq
    exact hid (hsame ▸ hmem)

/-- What waits at a place is taken out and invoked, if it is a closure. -/
theorem take (h : ClosuresSound ids closures effects waiting) (place : Bool × String)
    {done : List (FetchEffect α κ)} (hdone : invocations done = (waiting place).join.toList)
    (honly : ∀ effect ∈ done, ∃ closure samples, effect = .invoked closure samples) :
    ClosuresSound ids closures (effects ++ done) (Function.update waiting place none) := by
  have hmem_done (c : κ) : c ∈ invocations done ↔ waiting place = some (some c) := by
    rw [hdone, Option.mem_toList, Option.join_eq_some_iff]
  have hold {place' : Bool × String} {c : Option κ}
      (hwaiting : Function.update waiting place none place' = some c) :
      place' ≠ place ∧ waiting place' = some c := by
    rw [Function.update_apply] at hwaiting
    split at hwaiting
    · cases hwaiting
    · rename_i hne
      exact ⟨hne, hwaiting⟩
  constructor
  · intro place' c hwaiting
    exact h.used place' c (hold hwaiting).2
  · intro place' c hwaiting
    obtain ⟨hne, hwaiting⟩ := hold hwaiting
    obtain ⟨hmem, hnot⟩ := h.pending place' c hwaiting
    refine ⟨hmem, ?_⟩
    rw [invocations_append, List.mem_append, hmem_done]
    rintro (hinvoked | hthere)
    · exact hnot hinvoked
    · exact hne (h.unique place' place c hwaiting hthere)
  · intro place' place'' c hwaiting hwaiting'
    exact h.unique place' place'' c (hold hwaiting).2 (hold hwaiting').2
  · rw [invocations_append]
    refine List.nodup_append'.mpr ⟨h.once, ?_, ?_⟩
    · rw [hdone]
      cases (waiting place).join <;> simp
    · intro c hinvoked hmem
      exact (h.pending place c ((hmem_done c).mp hmem)).2 hinvoked
  · intro c hmem
    rw [invocations_append, List.mem_append, hmem_done] at hmem
    rcases hmem with hinvoked | hwaiting
    · exact h.given c hinvoked
    · exact (h.pending place c hwaiting).1
  · intro callback c hsent
    rw [invocations_append, List.mem_append, hmem_done]
    rcases List.mem_append.mp hsent with hsent | hsent
    · rcases h.sent callback c hsent with hwaiting | hinvoked
      · by_cases heq : callback.place = place
        · right; right
          rw [← heq]
          exact hwaiting
        · left
          rw [Function.update_of_ne heq, hwaiting]
      · right; left
        exact hinvoked
    · obtain ⟨closure, samples, heq⟩ := honly _ hsent
      cases heq
  · intro callback hfailed
    have hfailed' : Failed effects callback := by
      rcases hfailed with hmem | hmem
      all_goals
        rcases List.mem_append.mp hmem with hmem | hmem
        · simp [Failed, hmem]
        · obtain ⟨closure, samples, heq⟩ := honly _ hmem
          cases heq
    obtain ⟨hmem, hnone⟩ := h.failed callback hfailed'
    refine ⟨hmem, ?_⟩
    rw [Function.update_apply, hnone, ite_self]

/-- A call whose closure does not wait any more fails. -/
theorem fail (h : ClosuresSound ids closures effects waiting) {callback : FetchProcedureCallback}
    (hid : callback.fetchId ∈ ids) (hnone : waiting callback.place = none)
    {effect : FetchEffect α κ}
    (heffect : effect = .refused callback ∨ effect = .timedOut callback) :
    ClosuresSound ids closures (effects ++ [effect]) waiting := by
  have hinvocations : invocations (effects ++ [effect]) = invocations effects := by
    rw [invocations_append]
    rcases heffect with rfl | rfl <;> exact List.append_nil _
  constructor
  · exact h.used
  · rw [hinvocations]
    exact h.pending
  · exact h.unique
  · rw [hinvocations]
    exact h.once
  · rw [hinvocations]
    exact h.given
  · rw [hinvocations]
    intro callback' c hsent
    apply h.sent
    rcases List.mem_append.mp hsent with hsent | hsent
    · exact hsent
    · rcases heffect with rfl | rfl <;> simp at hsent
  · intro callback' hfailed
    by_cases heq : callback' = callback
    · rw [heq]
      exact ⟨hid, hnone⟩
    · apply h.failed
      rcases heffect with rfl | rfl <;> simpa [Failed, heq] using hfailed

/-- A closure that has not been seen is invoked at once. -/
theorem invoke (h : ClosuresSound ids closures effects waiting) {closure : κ}
    (hclosure : closure ∉ closures) (samples : Option (List α)) :
    ClosuresSound ids (closures ++ [closure]) (effects ++ [.invoked closure samples]) waiting := by
  have hinvocations : invocations (effects ++ [.invoked closure samples]) =
      invocations effects ++ [closure] := invocations_append _ _
  constructor
  · exact h.used
  · intro place c hwaiting
    obtain ⟨hmem, hnot⟩ := h.pending place c hwaiting
    refine ⟨List.mem_append_left _ hmem, ?_⟩
    rw [hinvocations, List.mem_append, List.mem_singleton]
    rintro (hinvoked | rfl)
    · exact hnot hinvoked
    · exact hclosure hmem
  · exact h.unique
  · rw [hinvocations, List.nodup_append']
    refine ⟨h.once, List.nodup_singleton _, ?_⟩
    rw [List.disjoint_singleton]
    intro hmem
    exact hclosure (h.given closure hmem)
  · rw [hinvocations]
    intro c hmem
    rcases List.mem_append.mp hmem with hmem | hmem
    · exact List.mem_append_left _ (h.given c hmem)
    · exact List.mem_append_right _ hmem
  · intro callback c hsent
    rw [hinvocations, List.mem_append]
    have hsent' : .sent callback (some c) ∈ effects := by simpa using hsent
    rcases h.sent callback c hsent' with hwaiting | hinvoked
    · exact Or.inl hwaiting
    · exact Or.inr (Or.inl hinvoked)
  · intro callback hfailed
    apply h.failed
    simpa [Failed] using hfailed

end ClosuresSound

/-- The decimal form of an ID is its own. -/
theorem toString_int64_inj {i j : Int64} : toString i = toString j ↔ i = j :=
  Int.repr_inj.trans Int64.toInt_inj

theorem toString_int64_ne_empty (i : Int64) : toString i ≠ "" := by
  intro heq
  have hnil : (Int.repr i.toInt).toList = [] := by
    rw [show Int.repr i.toInt = "" from heq]
    rfl
  rw [Int.repr_eq_if] at hnil
  split at hnil <;> simp at hnil

namespace FetchGate

theorem waiting_queueFetchCallback (gate : FetchGate α κ) (callback : FetchProcedureCallback)
    (hid : callback.fetchId ≠ "") (hmethod : callback.methodName ≠ .fetchHistory)
    (closure : Option κ) :
    (gate.queueFetchCallback callback.fetchId closure).waiting =
      Function.update gate.waiting callback.place (some closure) := by
  funext ⟨history, fetchId⟩
  rw [queueFetchCallback, if_neg hid, FetchProcedureCallback.place]
  cases history <;> simp [waiting, Function.update_apply, hmethod]

theorem waiting_queueFetchHistoryCallback (gate : FetchGate α κ)
    (callback : FetchProcedureCallback) (hid : callback.fetchId ≠ "")
    (hmethod : callback.methodName = .fetchHistory) (closure : κ) :
    (gate.queueFetchHistoryCallback callback.fetchId closure).waiting =
      Function.update gate.waiting callback.place (some (some closure)) := by
  funext ⟨history, fetchId⟩
  rw [queueFetchHistoryCallback, if_neg hid, FetchProcedureCallback.place]
  cases history
  · simp [waiting, hmethod]
  · by_cases heq : fetchId = callback.fetchId <;> simp [waiting, hmethod, heq]

/-- What a function that may take a closure out of its place does. -/
structure Takes (gate : FetchGate α κ) (place : Bool × String)
    (result : List (FetchEffect α κ) × FetchGate α κ) : Prop where
  call : result.2.call = gate.call
  waiting : result.2.waiting = Function.update gate.waiting place none
  done : invocations result.1 = (gate.waiting place).join.toList
  only : ∀ effect ∈ result.1, ∃ closure samples, effect = .invoked closure samples

theorem takes_runFetchCallback (gate : FetchGate α κ) {fetchId : String} (hid : fetchId ≠ "") :
    gate.Takes (false, fetchId) (gate.runFetchCallback fetchId) := by
  rw [runFetchCallback, if_neg hid]
  cases hget : gate.fetchClosureMap fetchId with
  | some closure =>
    refine ⟨rfl, ?_, ?_, ?_⟩
    · funext ⟨history, fetchId'⟩
      cases history <;> simp [FetchGate.waiting, Function.update_apply]
    · cases closure <;> simp [FetchGate.waiting, hget, invocations]
    · simp
  | none =>
    refine ⟨rfl, ?_, ?_, ?_⟩
    · exact (Function.update_eq_self_iff.mpr (by simp [FetchGate.waiting, hget])).symm
    · simp [FetchGate.waiting, hget, invocations]
    · simp

theorem takes_runFetchHistoryCallback (gate : FetchGate α κ) {fetchId : String} (hid : fetchId ≠ "")
    (samples : List α) :
    gate.Takes (true, fetchId) (gate.runFetchHistoryCallback fetchId samples) := by
  rw [runFetchHistoryCallback, if_neg hid]
  cases hget : gate.fetchHistoryClosureMap fetchId with
  | some closure =>
    refine ⟨rfl, ?_, ?_, ?_⟩
    · funext ⟨history, fetchId'⟩
      cases history
      · simp [FetchGate.waiting]
      · by_cases heq : fetchId' = fetchId <;> simp [FetchGate.waiting, heq]
    · simp [FetchGate.waiting, hget, invocations]
    · simp
  | none =>
    refine ⟨rfl, ?_, ?_, ?_⟩
    · exact (Function.update_eq_self_iff.mpr (by simp [FetchGate.waiting, hget])).symm
    · simp [FetchGate.waiting, hget, invocations]
    · simp

theorem takes_flush (gate : FetchGate α κ) {callback : FetchProcedureCallback}
    (hid : callback.fetchId ≠ "") : gate.Takes callback.place (gate.flush callback) := by
  unfold flush FetchProcedureCallback.place
  split
  · rename_i hmethod
    rw [decide_eq_true hmethod]
    exact gate.takes_runFetchHistoryCallback hid []
  · rename_i hmethod
    rw [decide_eq_false hmethod]
    exact gate.takes_runFetchCallback hid

end FetchGate

namespace FetchEvent

/-- The ID of the call that is sent. -/
def sendId : FetchEvent α κ → Option Int64
  | callExchangeProfile id => some id
  | startOnDemandFetchItems _ id _ => some id
  | startOnDemandFetchHistory _ id _ => some id
  | startOnDemandFetchTriggers _ id _ => some id
  | startOnDemandFetchEvents _ id _ => some id
  | _ => none

def fetchId : FetchEvent α κ → Option Int64
  | startOnDemandFetchItems fetchId _ _ => some fetchId
  | startOnDemandFetchHistory fetchId _ _ => some fetchId
  | startOnDemandFetchTriggers fetchId _ _ => some fetchId
  | startOnDemandFetchEvents fetchId _ _ => some fetchId
  | _ => none

/-- The closure that is given to the gate. -/
def closure : FetchEvent α κ → Option κ
  | startOnDemandFetchItems _ _ closure => closure
  | startOnDemandFetchHistory _ _ closure => some closure
  | startOnDemandFetchTriggers _ _ closure => closure
  | startOnDemandFetchEvents _ _ closure => closure
  | _ => none

end FetchEvent

/-- The calls have distinct IDs and distinct fetch IDs, and each has a closure of its own. -/
structure DistinctIds (events : List (FetchEvent α κ)) : Prop where
  sendIds : (events.filterMap FetchEvent.sendId).Nodup
  fetchIds : (events.filterMap FetchEvent.fetchId).Nodup
  closures : (events.filterMap FetchEvent.closure).Nodup

/-- The decimal forms of the fetch IDs that have been used. -/
def usedFetchIds (past : List (FetchEvent α κ)) : List String :=
  (past.filterMap FetchEvent.fetchId).map toString

/-- The gate after the events `past`. -/
structure FetchSound (past : List (FetchEvent α κ)) (effects : List (FetchEffect α κ))
    (gate : FetchGate α κ) : Prop where
  calls : ∃ callEffects : List (CallEffect GateCallback CallResponse),
    CallsSound callEffects gate.call
  outstanding : ∀ id context, gate.call.procedureCallContextMap id = some context →
    id ∈ (past.filterMap FetchEvent.sendId).map toString ∧
      ∀ callback, context.callback = some (.fetch callback) →
        callback.fetchId ∈ usedFetchIds past
  closures : ClosuresSound (usedFetchIds past) (past.filterMap FetchEvent.closure) effects
    gate.waiting

/-- What is given to the gate with an event has not been given to it before. -/
theorem not_mem_of_nodup {ε δ : Type} {f : ε → Option δ} {past rest : List ε} {e : ε} {d : δ}
    (hnodup : ((past ++ e :: rest).filterMap f).Nodup) (hd : f e = some d) :
    d ∉ past.filterMap f := by
  rw [List.filterMap_append, List.filterMap_cons_some hd] at hnodup
  intro hmem
  exact (List.nodup_append'.mp hnodup).2.2 hmem List.mem_cons_self

namespace FetchSound

variable {past : List (FetchEvent α κ)} {effects : List (FetchEffect α κ)} {gate : FetchGate α κ}

theorem empty : FetchSound ([] : List (FetchEvent α κ)) [] FetchGate.empty where
  calls := ⟨[], CallsSound.empty⟩
  outstanding := by simp [FetchGate.empty, CallImpl.empty]
  closures := by constructor <;> simp [FetchGate.waiting, FetchGate.empty, invocations, Failed]

theorem usedFetchIds_subset (past : List (FetchEvent α κ)) (event : FetchEvent α κ) :
    usedFetchIds past ⊆ usedFetchIds (past ++ [event]) := by
  intro fetchId hmem
  rw [usedFetchIds, List.filterMap_append, List.map_append]
  exact List.mem_append_left _ hmem

/-- What holds of the past holds with another event in it. -/
theorem weaken (h : FetchSound past effects gate) (event : FetchEvent α κ) :
    FetchSound (past ++ [event]) effects gate where
  calls := h.calls
  outstanding := by
    intro id context hget
    obtain ⟨hmem, hfetch⟩ := h.outstanding id context hget
    rw [List.filterMap_append, List.map_append]
    refine ⟨List.mem_append_left _ hmem, ?_⟩
    intro callback hcallback
    exact usedFetchIds_subset past event (hfetch callback hcallback)
  closures := by
    apply h.closures.mono (usedFetchIds_subset past event)
    rw [List.filterMap_append]
    exact List.subset_append_left _ _

/-- A closure is taken out of its place. -/
theorem take (h : FetchSound past effects gate) {place : Bool × String}
    {result : List (FetchEffect α κ) × FetchGate α κ} (htakes : gate.Takes place result) :
    FetchSound past (effects ++ result.1) result.2 where
  calls := by
    rw [htakes.call]
    exact h.calls
  outstanding := by
    rw [htakes.call]
    exact h.outstanding
  closures := by
    rw [htakes.waiting]
    exact h.closures.take place htakes.done htakes.only

theorem runFetchCallback (h : FetchSound past effects gate) (fetchId : String) :
    FetchSound past (effects ++ (gate.runFetchCallback fetchId).1)
      (gate.runFetchCallback fetchId).2 := by
  by_cases hid : fetchId = ""
  · rw [FetchGate.runFetchCallback, if_pos hid, List.append_nil]
    exact h
  · exact h.take (gate.takes_runFetchCallback hid)

theorem runFetchHistoryCallback (h : FetchSound past effects gate) (fetchId : String)
    (samples : List α) :
    FetchSound past (effects ++ (gate.runFetchHistoryCallback fetchId samples).1)
      (gate.runFetchHistoryCallback fetchId samples).2 := by
  by_cases hid : fetchId = ""
  · rw [FetchGate.runFetchHistoryCallback, if_pos hid, List.append_nil]
    exact h
  · exact h.take (gate.takes_runFetchHistoryCallback hid samples)

/-- The closure of a call that fails is invoked if it still waits. -/
theorem flush (h : FetchSound past effects gate) {callback : FetchProcedureCallback}
    (hid : callback.fetchId ∈ usedFetchIds past) {effect : FetchEffect α κ}
    (heffect : effect = .refused callback ∨ effect = .timedOut callback) :
    FetchSound past (effects ++ ((gate.flush callback).1 ++ [effect])) (gate.flush callback).2 := by
  have hne : callback.fetchId ≠ "" := by
    obtain ⟨i, -, hi⟩ := List.mem_map.mp hid
    rw [← hi]
    exact toString_int64_ne_empty i
  have htakes := gate.takes_flush hne
  have htaken := h.take htakes
  rw [← List.append_assoc]
  refine ⟨htaken.calls, htaken.outstanding, htaken.closures.fail hid ?_ heffect⟩
  rw [htakes.waiting, Function.update_self]

theorem onGotResponse (h : FetchSound past effects gate) {callback : GateCallback}
    (hused : ∀ fetch, callback = .fetch fetch → fetch.fetchId ∈ usedFetchIds past)
    (parser : CallResponse) :
    FetchSound past (effects ++ (gate.onGotResponse callback parser).1)
      (gate.onGotResponse callback parser).2 := by
  cases callback with
  | exchangeProfile =>
    unfold FetchGate.onGotResponse
    dsimp only
    split
    · rw [List.append_nil]
      exact h
    · rw [List.append_nil]
      exact ⟨h.calls, h.outstanding, h.closures⟩
  | fetch callback =>
    unfold FetchGate.onGotResponse
    dsimp only
    split
    · rw [List.append_nil]
      exact h
    · exact h.flush (hused callback rfl) (.inl rfl)

theorem onTimeout (h : FetchSound past effects gate) {callback : GateCallback}
    (hused : ∀ fetch, callback = .fetch fetch → fetch.fetchId ∈ usedFetchIds past) :
    FetchSound past (effects ++ (gate.onTimeout callback).1) (gate.onTimeout callback).2 := by
  cases callback with
  | exchangeProfile =>
    rw [FetchGate.onTimeout, List.append_nil]
    exact h
  | fetch callback => exact h.flush (hused callback rfl) (.inr rfl)

theorem notify (h : FetchSound past effects gate) {effect : CallEffect GateCallback CallResponse}
    (hused : ∀ context fetch, effect.notified = some context →
      context.callback = some (.fetch fetch) → fetch.fetchId ∈ usedFetchIds past) :
    FetchSound past (effects ++ (gate.notify effect).1) (gate.notify effect).2 := by
  have hnil : FetchSound past (effects ++ []) gate := by
    rw [List.append_nil]
    exact h
  rcases effect with context | ⟨⟨_ | callback, id, timeoutId⟩, parser⟩ | ⟨_ | callback, id,
    timeoutId⟩
  · exact hnil
  · exact hnil
  · exact h.onGotResponse (fun fetch heq => hused _ fetch rfl (congrArg some heq)) parser
  · exact hnil
  · exact h.onTimeout fun fetch heq => hused _ fetch rfl (congrArg some heq)

theorem perform (h : FetchSound past effects gate) (effect : PutEffect α) :
    FetchSound past (effects ++ (gate.perform effect).1) (gate.perform effect).2 := by
  cases effect with
  | dataStore operation elements lastInfo =>
    rw [FetchGate.perform, List.append_nil]
    exact h
  | runFetchCallback fetchId => exact h.runFetchCallback fetchId
  | runFetchHistoryCallback fetchId samples => exact h.runFetchHistoryCallback fetchId samples

/-- What each of some effects keeps, all of them keep. -/
theorem performAll {ε : Type} {f : FetchGate α κ → ε → List (FetchEffect α κ) × FetchGate α κ}
    {Q : ε → Prop}
    (hone : ∀ effects gate e, FetchSound past effects gate → Q e →
      FetchSound past (effects ++ (f gate e).1) (f gate e).2) :
    ∀ (es : List ε) (effects : List (FetchEffect α κ)) (gate : FetchGate α κ),
      FetchSound past effects gate → (∀ e ∈ es, Q e) →
      FetchSound past (effects ++ (FetchGate.performAll f gate es).1)
        (FetchGate.performAll f gate es).2 := by
  intro es
  induction es with
  | nil =>
    intro effects gate h _
    rw [FetchGate.performAll, List.append_nil]
    exact h
  | cons e es ih =>
    intro effects gate h hall
    have hfirst := hone effects gate e h (hall e List.mem_cons_self)
    have hrest := ih _ _ hfirst fun e' hmem => hall e' (List.mem_cons_of_mem e hmem)
    rw [List.append_assoc] at hrest
    exact hrest

/-- Some calls complete, and their callbacks are given something. -/
theorem complete (h : FetchSound past effects gate)
    {callEffects : List (CallEffect GateCallback CallResponse)} {call : CallImpl GateCallback}
    (hcompletes : Completes gate.call callEffects call)
    (hcalls : ∃ callEffects : List (CallEffect GateCallback CallResponse),
      CallsSound callEffects call) :
    FetchSound past
      (effects ++ (FetchGate.performAll FetchGate.notify { gate with call := call } callEffects).1)
      (FetchGate.performAll FetchGate.notify { gate with call := call } callEffects).2 := by
  have hremoved : FetchSound past effects { gate with call := call } := by
    refine ⟨hcalls, ?_, h.closures⟩
    intro id context hget
    exact h.outstanding id context (hcompletes.removes id context hget)
  refine performAll (f := FetchGate.notify)
    (Q := fun e => ∀ context fetch, CallEffect.notified e = some context →
      context.callback = some (.fetch fetch) → fetch.fetchId ∈ usedFetchIds past)
    (fun effects gate e hsound hused => hsound.notify hused) callEffects effects _ hremoved ?_
  intro effect hmem context callback hnotified hcallback
  obtain ⟨id, context', hnotified', hget⟩ := hcompletes.notified effect hmem
  obtain rfl := Option.some.inj (hnotified.symm.trans hnotified')
  exact (h.outstanding id context hget).2 callback hcallback

/-- A call is sent with an ID that has not been used. -/
theorem send (h : FetchSound past effects gate) {event : FetchEvent α κ} {id : Int64}
    (hid : event.sendId = some id) (hfresh : id ∉ past.filterMap FetchEvent.sendId)
    {callback : GateCallback}
    (hused : ∀ fetch, callback = .fetch fetch → fetch.fetchId ∈ usedFetchIds (past ++ [event]))
    {effects' : List (FetchEffect α κ)} {gate' : FetchGate α κ} (hcall : gate'.call = gate.call)
    (hclosures : ClosuresSound (usedFetchIds (past ++ [event]))
      ((past ++ [event]).filterMap FetchEvent.closure) effects' gate'.waiting) :
    FetchSound (past ++ [event]) effects' (gate'.send id callback) := by
  obtain ⟨callEffects, hcalls⟩ := h.calls
  have hnone : gate.call.procedureCallContextMap (toString id) = none := by
    cases hget : gate.call.procedureCallContextMap (toString id) with
    | none => rfl
    | some context =>
      obtain ⟨i, hmem, hi⟩ := List.mem_map.mp (h.outstanding _ context hget).1
      exact absurd (toString_int64_inj.mp hi ▸ hmem) hfresh
  have hids : (past ++ [event]).filterMap FetchEvent.sendId =
      past.filterMap FetchEvent.sendId ++ [id] := by
    rw [List.filterMap_append, List.filterMap_cons_some hid]
    rfl
  refine ⟨⟨callEffects ++ [.queued (gate.call.send id (some callback)).1], ?_⟩, ?_, hclosures⟩
  · rw [FetchGate.send, hcall]
    exact hcalls.send id (some callback) hnone
  · intro id' context hget
    rw [FetchGate.send, hcall] at hget
    simp only [CallImpl.send, CallImpl.queueProcedureCallback, Function.update_apply] at hget
    rw [hids, List.map_append, List.mem_append]
    split at hget
    · rename_i heq
      obtain rfl := Option.some.inj hget
      refine ⟨Or.inr (List.mem_singleton.mpr heq), ?_⟩
      intro fetch hfetch
      exact hused fetch (Option.some.inj hfetch)
    · obtain ⟨hmem, hfetch⟩ := h.outstanding id' context hget
      refine ⟨Or.inl hmem, ?_⟩
      intro callback' hcallback
      exact usedFetchIds_subset past event (hfetch callback' hcallback)

/-- A closure is given to the gate, and its call is sent. -/
theorem start (h : FetchSound past effects gate) {event : FetchEvent α κ} {fetchId id : Int64}
    {closure : Option κ} {rest : List (FetchEvent α κ)}
    (hdistinct : DistinctIds (past ++ event :: rest)) (hid : event.sendId = some id)
    (hfetch : event.fetchId = some fetchId) (hclosure : event.closure = closure)
    (method : FetchMethod) {gate' : FetchGate α κ} (hcall : gate'.call = gate.call)
    (hwaiting : gate'.waiting =
      Function.update gate.waiting (FetchProcedureCallback.place ⟨toString fetchId, method⟩)
        (some closure)) :
    FetchSound (past ++ [event]) (effects ++ [.sent ⟨toString fetchId, method⟩ closure])
      (gate'.send id (.fetch ⟨toString fetchId, method⟩)) := by
  have hids : usedFetchIds (past ++ [event]) = usedFetchIds past ++ [toString fetchId] := by
    rw [usedFetchIds, List.filterMap_append, List.filterMap_cons_some hfetch, List.map_append]
    rfl
  have hgiven : (past ++ [event]).filterMap FetchEvent.closure =
      past.filterMap FetchEvent.closure ++ closure.toList := by
    rw [List.filterMap_append]
    cases closure with
    | none => rw [List.filterMap_cons_none hclosure]; rfl
    | some c => rw [List.filterMap_cons_some hclosure]; rfl
  refine h.send hid (not_mem_of_nodup hdistinct.sendIds hid) ?_ hcall ?_
  · rintro fetch ⟨⟩
    rw [hids]
    exact List.mem_append_right _ List.mem_cons_self
  · rw [hids, hgiven, hwaiting]
    apply h.closures.queue ⟨toString fetchId, method⟩ closure
    · intro hmem
      obtain ⟨i, hmem, hi⟩ := List.mem_map.mp hmem
      exact not_mem_of_nodup hdistinct.fetchIds hfetch (toString_int64_inj.mp hi ▸ hmem)
    · intro c hc
      exact not_mem_of_nodup hdistinct.closures (hclosure.trans hc)

theorem startOnDemandFetch (h : FetchSound past effects gate) {event : FetchEvent α κ}
    {fetchId id : Int64} {closure : Option κ} {rest : List (FetchEvent α κ)}
    (hdistinct : DistinctIds (past ++ event :: rest)) (hid : event.sendId = some id)
    (hfetch : event.fetchId = some fetchId) (hclosure : event.closure = closure)
    {method : FetchMethod} (hmethod : method ≠ .fetchHistory) :
    FetchSound (past ++ [event])
      (effects ++ (FetchGate.startOnDemandFetch method gate fetchId id closure).2.1)
      (FetchGate.startOnDemandFetch method gate fetchId id closure).2.2 := by
  unfold FetchGate.startOnDemandFetch
  split
  · rw [List.append_nil]
    exact h.weaken event
  · apply h.start hdistinct hid hfetch hclosure
    · unfold FetchGate.queueFetchCallback
      split <;> rfl
    · exact gate.waiting_queueFetchCallback ⟨toString fetchId, method⟩
        (toString_int64_ne_empty fetchId) hmethod closure

theorem startOnDemandFetchHistory (h : FetchSound past effects gate) {fetchId id : Int64}
    {closure : κ} {rest : List (FetchEvent α κ)}
    (hdistinct : DistinctIds (past ++ .startOnDemandFetchHistory fetchId id closure :: rest)) :
    FetchSound (past ++ [.startOnDemandFetchHistory fetchId id closure])
      (effects ++ (gate.startOnDemandFetchHistory fetchId id closure).1)
      (gate.startOnDemandFetchHistory fetchId id closure).2 := by
  unfold FetchGate.startOnDemandFetchHistory
  split
  · have hweak := h.weaken (.startOnDemandFetchHistory fetchId id closure)
    refine ⟨hweak.calls, hweak.outstanding, ?_⟩
    have hfresh := not_mem_of_nodup hdistinct.closures rfl
    have hinvoke := h.closures.invoke hfresh (some [])
    rw [List.filterMap_append]
    exact hinvoke.mono (usedFetchIds_subset past _) (List.Subset.refl _)
  · apply h.start hdistinct rfl rfl rfl
    · unfold FetchGate.queueFetchHistoryCallback
      split <;> rfl
    · exact gate.waiting_queueFetchHistoryCallback ⟨toString fetchId, .fetchHistory⟩
        (toString_int64_ne_empty fetchId) rfl closure

theorem handlePut (h : FetchSound past effects gate) (request : PutRequest α) :
    ∃ effects' gate', gate.handlePut request = .returned (effects', gate') ∧
      FetchSound past (effects ++ effects') gate' := by
  obtain ⟨answer, put, hreturn⟩ := procedureHandler_returns gate.put request
  refine ⟨_, _, by rw [FetchGate.handlePut, hreturn]; rfl, ?_⟩
  exact performAll (Q := fun _ => True) (fun effects gate e hsound _ => hsound.perform e)
    answer.effects effects _ ⟨h.calls, h.outstanding, h.closures⟩ fun _ _ => trivial

theorem expire (h : FetchSound past effects gate) (timeoutId : Nat) :
    ∃ effects' gate', gate.expire timeoutId = .returned (effects', gate') ∧
      FetchSound past (effects ++ effects') gate' := by
  obtain ⟨callEffects, hcalls⟩ := h.calls
  obtain ⟨effects', call, hreturn, hcalls'⟩ := hcalls.expire timeoutId
  refine ⟨_, _, by rw [FetchGate.expire, hreturn]; rfl, ?_⟩
  exact h.complete (CallImpl.completes_expire hcalls hreturn) ⟨_, hcalls'⟩

theorem handleResponse (h : FetchSound past effects gate) (id : String) (parser : CallResponse) :
    FetchSound past (effects ++ (gate.handleResponse id parser).1)
      (gate.handleResponse id parser).2 := by
  obtain ⟨callEffects, hcalls⟩ := h.calls
  exact h.complete (gate.call.completes_handleResponse id parser)
    ⟨_, hcalls.handleResponse id parser⟩

theorem step (h : FetchSound past effects gate) (event : FetchEvent α κ)
    {rest : List (FetchEvent α κ)} (hdistinct : DistinctIds (past ++ event :: rest)) :
    ∃ effects' gate', gate.step event = .returned (effects', gate') ∧
      FetchSound (past ++ [event]) (effects ++ effects') gate' := by
  cases event with
  | callExchangeProfile id =>
    refine ⟨[], _, rfl, ?_⟩
    rw [List.append_nil]
    apply h.send rfl (not_mem_of_nodup hdistinct.sendIds rfl) (by simp) rfl
    exact (h.weaken _).closures
  | exchangeProfile procedures =>
    refine ⟨[], _, rfl, ?_⟩
    rw [List.append_nil]
    have hweak := h.weaken (.exchangeProfile procedures)
    exact ⟨hweak.calls, hweak.outstanding, hweak.closures⟩
  | startOnDemandFetchItems fetchId id closure =>
    exact ⟨_, _, rfl, h.startOnDemandFetch hdistinct rfl rfl rfl (by decide)⟩
  | startOnDemandFetchHistory fetchId id closure =>
    exact ⟨_, _, rfl, h.startOnDemandFetchHistory hdistinct⟩
  | startOnDemandFetchTriggers fetchId id closure =>
    exact ⟨_, _, rfl, h.startOnDemandFetch hdistinct rfl rfl rfl (by decide)⟩
  | startOnDemandFetchEvents fetchId id closure =>
    exact ⟨_, _, rfl, h.startOnDemandFetch hdistinct rfl rfl rfl (by decide)⟩
  | response id parser => exact ⟨_, _, rfl, (h.handleResponse id parser).weaken _⟩
  | put request =>
    obtain ⟨effects', gate', hreturn, hsound⟩ := h.handlePut request
    exact ⟨effects', gate', hreturn, hsound.weaken _⟩
  | expire timeoutId =>
    obtain ⟨effects', gate', hreturn, hsound⟩ := h.expire timeoutId
    exact ⟨effects', gate', hreturn, hsound.weaken _⟩

end FetchSound

/-- What can be seen of fetching in a run. -/
def fetchEffectsOf (t : List (FetchEvent α κ × List (FetchEffect α κ))) : List (FetchEffect α κ) :=
  t.flatMap Prod.snd

/-- Items whose call is refused and samples that are put, both twice. -/
def refusedAndPut : List (FetchEvent Nat Nat) :=
  let samples : PutRequest Nat :=
    ⟨.putHistory, ⟨true, [5, 6], [], none, some "3", none, none, none⟩⟩
  [.exchangeProfile (some ["fetchItems", "fetchHistory"]),
    .startOnDemandFetchItems 1 2 (some 0), .startOnDemandFetchHistory 3 4 1,
    .response "2" ⟨false, some "FAILURE", none⟩, .put samples,
    .response "2" ⟨true, none, none⟩, .put samples, .expire 2]

end Hatohol

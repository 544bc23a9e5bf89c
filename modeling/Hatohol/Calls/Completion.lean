import Mathlib.Data.List.Nodup
import Hatohol.HatoholArmPluginInterfaceHAPI2

/-!
# How calls complete

The contexts in the map and the armed timers are the same as long as no call is sent with the ID of
another one that is still outstanding. A call that is overwrites the context of the other, whose
callback is never told, and whose timer then finds a deleted context.
-/

namespace Hatohol

open Machine

variable {β ρ : Type}

namespace CallEffect

/-- The context whose callback is given something. -/
def notified : CallEffect β ρ → Option (ProcedureCallContext β)
  | queued _ => none
  | onGotResponse context _ => some context
  | onTimeout context => some context

end CallEffect

/-- The contexts whose callbacks have been given something, once for each time. -/
def notifications (effects : List (CallEffect β ρ)) : List (ProcedureCallContext β) :=
  effects.filterMap CallEffect.notified

@[simp] theorem notifications_append (effects effects' : List (CallEffect β ρ)) :
    notifications (effects ++ effects') = notifications effects ++ notifications effects' :=
  List.filterMap_append

@[simp] theorem notifications_queued (context : ProcedureCallContext β) :
    notifications [(.queued context : CallEffect β ρ)] = [] := rfl

/-- Every callback has been given at most one thing, and one that has been given nothing is still
    in the map. -/
structure CompleteOnce (effects : List (CallEffect β ρ)) (impl : CallImpl β) : Prop where
  atMostOnce : ((notifications effects).map (·.timeoutId)).Nodup
  notDropped : ∀ context, .queued context ∈ effects → context.callback.isSome →
    impl.procedureCallContextMap context.procedureId = some context ∨
      context ∈ notifications effects

/-- What holds of the contexts of all calls so far. -/
structure CallsSound (effects : List (CallEffect β ρ)) (impl : CallImpl β) : Prop where
  stored : ∀ id context, impl.procedureCallContextMap id = some context → context.procedureId = id
  armed : ∀ context,
    context ∈ impl.timers ↔ impl.procedureCallContextMap context.procedureId = some context
  numbered : ∀ timeoutId ∈ impl.timers.map (·.timeoutId) ++
    (notifications effects).map (·.timeoutId),
    timeoutId < impl.nextTimeoutId
  distinct :
    (impl.timers.map (·.timeoutId) ++ (notifications effects).map (·.timeoutId)).Nodup
  kept : ∀ context, .queued context ∈ effects → context.callback.isSome →
    context ∈ impl.timers ∨ context ∈ notifications effects

namespace CallsSound

variable {effects : List (CallEffect β ρ)} {impl : CallImpl β}

theorem empty : CallsSound ([] : List (CallEffect β ρ)) CallImpl.empty where
  stored := by simp [CallImpl.empty]
  armed := by simp [CallImpl.empty]
  numbered := by simp [CallImpl.empty, notifications]
  distinct := by simp [CallImpl.empty, notifications]
  kept := by simp

theorem completeOnce (h : CallsSound effects impl) : CompleteOnce effects impl where
  atMostOnce := (List.nodup_append'.mp h.distinct).2.1
  notDropped := by
    intro context hqueued hcallback
    rw [← h.armed]
    exact h.kept context hqueued hcallback

theorem eq_of_timeoutId (h : CallsSound effects impl) {context context' : ProcedureCallContext β}
    (hmem : context ∈ impl.timers) (hmem' : context' ∈ impl.timers)
    (heq : context.timeoutId = context'.timeoutId) : context = context' :=
  List.inj_on_of_nodup_map (List.nodup_append'.mp h.distinct).1 hmem hmem' heq

theorem isAlive (h : CallsSound effects impl) {context : ProcedureCallContext β}
    (hmem : context ∈ impl.timers) : impl.isAlive context = true := by
  rw [CallImpl.isAlive, (h.armed context).mp hmem]
  simp

/-- A call with an ID that is not outstanding. -/
theorem send (h : CallsSound effects impl) (id : Int64) (callback : Option β)
    (hfresh : impl.procedureCallContextMap (toString id) = none) :
    CallsSound (effects ++ [.queued (impl.send id callback).1]) (impl.send id callback).2 := by
  simp only [CallImpl.send, CallImpl.queueProcedureCallback]
  constructor
  · intro id' context hstored
    simp only [Function.update_apply] at hstored
    split at hstored
    · rename_i hid
      obtain rfl := Option.some.inj hstored
      exact hid.symm
    · exact h.stored id' context hstored
  · intro context
    simp only [List.mem_cons, Function.update_apply]
    split
    · rename_i hid
      rw [Option.some.injEq]
      constructor
      · rintro (rfl | hmem)
        · rfl
        · rw [h.armed, hid, hfresh] at hmem
          cases hmem
      · rintro rfl
        left
        rfl
    · rename_i hid
      rw [← h.armed]
      constructor
      · rintro (rfl | hmem)
        · exact absurd rfl hid
        · exact hmem
      · exact Or.inr
  · simp only [List.map_cons, List.cons_append, List.mem_cons, notifications_append,
      notifications_queued, List.append_nil]
    rintro timeoutId (rfl | hmem)
    · exact Nat.lt_succ_self _
    · have := h.numbered timeoutId hmem
      omega
  · simp only [List.map_cons, List.cons_append, List.nodup_cons, notifications_append,
      notifications_queued, List.append_nil]
    constructor
    · intro hmem
      have := h.numbered impl.nextTimeoutId hmem
      omega
    · exact h.distinct
  · intro context hqueued hcallback
    rcases List.mem_append.mp hqueued with hqueued | hqueued
    · rcases h.kept context hqueued hcallback with hmem | hmem
      · left
        exact List.mem_cons_of_mem _ hmem
      · right
        rw [notifications_append]
        exact List.mem_append_left _ hmem
    · left
      obtain rfl := CallEffect.queued.inj (List.mem_singleton.mp hqueued)
      exact List.mem_cons_self

/-- What a response and a timeout have in common: the context is removed, and its callback is given
    something if there is one. -/
theorem complete (h : CallsSound effects impl) {context : ProcedureCallContext β}
    (hmem : context ∈ impl.timers) {effects' : List (CallEffect β ρ)}
    (hnotified : notifications effects' = if context.callback.isSome then [context] else [])
    (hqueued : ∀ context, .queued context ∉ effects') :
    CallsSound (effects ++ effects') { impl with
      timers := impl.timers.filter fun timer => timer.timeoutId ≠ context.timeoutId
      procedureCallContextMap :=
        Function.update impl.procedureCallContextMap context.procedureId none } := by
  have hstored := (h.armed context).mp hmem
  constructor
  · intro id context' hget
    simp only [Function.update_apply] at hget
    split at hget
    · cases hget
    · exact h.stored id context' hget
  · intro context'
    simp only [List.mem_filter, Function.update_apply, decide_eq_true_eq]
    split
    · rename_i hid
      simp only [reduceCtorEq, iff_false, not_and, not_not]
      intro hmem'
      rw [h.armed, hid, hstored] at hmem'
      rw [Option.some.inj hmem']
    · rename_i hid
      rw [← h.armed]
      constructor
      · exact And.left
      · intro hmem'
        refine ⟨hmem', ?_⟩
        intro heq
        exact hid (by rw [h.eq_of_timeoutId hmem' hmem heq])
  · intro timeoutId hmem'
    apply h.numbered
    rw [notifications_append, hnotified] at hmem'
    simp only [List.map_append, List.mem_append, List.mem_map, List.mem_filter] at hmem' ⊢
    rcases hmem' with ⟨context', ⟨hmem', -⟩, rfl⟩ | hmem' | ⟨context', hmem', rfl⟩
    · exact Or.inl ⟨context', hmem', rfl⟩
    · exact Or.inr hmem'
    · split at hmem'
      · obtain rfl := List.mem_singleton.mp hmem'
        exact Or.inl ⟨context', hmem, rfl⟩
      · cases hmem'
  · rw [notifications_append, hnotified]
    obtain ⟨htimers, hnotifications, hdisjoint⟩ := List.nodup_append'.mp h.distinct
    rw [List.map_append, ← List.append_assoc]
    have hrest : (((impl.timers.filter fun timer => timer.timeoutId ≠ context.timeoutId).map
        (·.timeoutId)) ++ (notifications effects).map (·.timeoutId)).Nodup := by
      apply List.Nodup.sublist _ h.distinct
      exact (List.filter_sublist.map _).append_right _
    split
    · apply List.nodup_append'.mpr
      refine ⟨hrest, List.nodup_singleton _, ?_⟩
      simp only [List.map_cons, List.map_nil, List.disjoint_singleton, List.mem_append,
        List.mem_map, List.mem_filter, decide_eq_true_eq, not_or]
      constructor
      · rintro ⟨context', ⟨-, hne⟩, heq⟩
        exact hne heq
      · intro hmem'
        apply hdisjoint (List.mem_map_of_mem hmem)
        exact List.mem_map.mpr hmem'
    · rw [List.map_nil, List.append_nil]
      exact hrest
  · intro context' hmem' hcallback
    rw [notifications_append, List.mem_append, hnotified]
    have hmem' := (List.mem_append.mp hmem').resolve_right (hqueued context')
    rcases h.kept context' hmem' hcallback with htimer | hdone
    · by_cases heq : context'.timeoutId = context.timeoutId
      · obtain rfl := h.eq_of_timeoutId htimer hmem heq
        right; right
        rw [if_pos hcallback]
        exact List.mem_singleton_self _
      · left
        simp only [List.mem_filter, decide_eq_true_eq]
        exact ⟨htimer, heq⟩
    · right; left
      exact hdone

/-- A response, with whatever ID. -/
theorem handleResponse (h : CallsSound effects impl) (id : String) (parser : ρ) :
    CallsSound (effects ++ (impl.handleResponse id parser).1) (impl.handleResponse id parser).2 :=
      by
  unfold CallImpl.handleResponse
  split
  · rw [List.append_nil]
    exact h
  · unfold CallImpl.runProcedureCallback
    split
    · rename_i context hget
      have hid := h.stored id context hget
      have hmem : context ∈ impl.timers := by
        rw [h.armed, hid]
        exact hget
      rw [← hid]
      apply h.complete hmem
      · split <;> rfl
      · intro context'
        split <;> simp
    · rw [List.append_nil]
      exact h

/-- A timer that fires. -/
theorem expire (h : CallsSound effects impl) (timeoutId : Nat) :
    ∃ (effects' : List (CallEffect β ρ)) (impl' : CallImpl β),
      impl.expire timeoutId = .returned (effects', impl') ∧
        CallsSound (effects ++ effects') impl' := by
  unfold CallImpl.expire
  split
  · rename_i context hfind
    have hmem : context ∈ impl.timers := List.mem_of_find?_eq_some hfind
    rw [CallImpl.onProcedureCallContext, h.isAlive hmem]
    refine ⟨_, _, rfl, ?_⟩
    apply h.complete hmem
    · split <;> rfl
    · intro context'
      split <;> simp
  · refine ⟨[], impl, rfl, ?_⟩
    rw [List.append_nil]
    exact h

end CallsSound

/-- What a response or a timeout does to the map: it removes contexts, and those whose callbacks are
    given something were there. -/
structure Completes (impl : CallImpl β) (effects : List (CallEffect β ρ)) (impl' : CallImpl β) :
    Prop where
  removes : ∀ id context, impl'.procedureCallContextMap id = some context →
    impl.procedureCallContextMap id = some context
  notified : ∀ effect ∈ effects, ∃ id context, effect.notified = some context ∧
    impl.procedureCallContextMap id = some context

namespace CallImpl

theorem completes_nil (impl : CallImpl β) : Completes impl ([] : List (CallEffect β ρ)) impl where
  removes _ _ hget := hget
  notified := by simp

theorem completes_handleResponse (impl : CallImpl β) (id : String) (parser : ρ) :
    Completes impl (impl.handleResponse id parser).1 (impl.handleResponse id parser).2 := by
  unfold handleResponse
  split
  · exact impl.completes_nil
  · unfold runProcedureCallback
    split
    · rename_i context hget
      constructor
      · intro id' context' hget'
        simp only [Function.update_apply] at hget'
        split at hget'
        · cases hget'
        · exact hget'
      · intro effect hmem
        refine ⟨id, context, ?_, hget⟩
        split at hmem
        · rw [List.mem_singleton.mp hmem]
          rfl
        · cases hmem
    · exact impl.completes_nil

theorem completes_expire {impl : CallImpl β} {effects : List (CallEffect β ρ)}
    (h : CallsSound effects impl) {timeoutId : Nat} {effects' : List (CallEffect β ρ)}
    {impl' : CallImpl β} (hreturn : impl.expire timeoutId = .returned (effects', impl')) :
    Completes impl effects' impl' := by
  unfold expire at hreturn
  split at hreturn
  · rename_i context hfind
    have hmem : context ∈ impl.timers := List.mem_of_find?_eq_some hfind
    rw [onProcedureCallContext, h.isAlive hmem] at hreturn
    obtain ⟨rfl, rfl⟩ := Prod.mk.inj (Outcome.returned.inj hreturn)
    constructor
    · intro id' context' hget'
      simp only [Function.update_apply] at hget'
      split at hget'
      · cases hget'
      · exact hget'
    · intro effect hmem'
      refine ⟨context.procedureId, context, ?_, (h.armed context).mp hmem⟩
      split at hmem'
      · rw [List.mem_singleton.mp hmem']
        rfl
      · cases hmem'
  · obtain ⟨rfl, rfl⟩ := Prod.mk.inj (Outcome.returned.inj hreturn)
    exact impl.completes_nil

end CallImpl

/-- A call is not sent with the ID of a call that is outstanding. -/
def FreshId (impl : CallImpl β) : CallEvent β ρ → Prop
  | .send id _ => impl.procedureCallContextMap (toString id) = none
  | .response _ _ => True
  | .expire _ => True

theorem CallsSound.step {effects : List (CallEffect β ρ)} {impl : CallImpl β}
    (h : CallsSound effects impl) (event : CallEvent β ρ) (hfresh : FreshId impl event) :
    ∃ effects' impl', impl.step event = .returned (effects', impl') ∧
      CallsSound (effects ++ effects') impl' := by
  cases event with
  | send id callback => exact ⟨_, _, rfl, h.send id callback hfresh⟩
  | response id parser => exact ⟨_, _, rfl, h.handleResponse id parser⟩
  | expire timeoutId => exact h.expire timeoutId

/-- All that the callbacks have been given in a run. -/
def effectsOf (t : List (CallEvent β ρ × List (CallEffect β ρ))) : List (CallEffect β ρ) :=
  t.flatMap Prod.snd

/-- Calls complete once in every run in which no ID is sent again while it is outstanding. -/
theorem calls_complete_once (events : List (CallEvent β ρ))
    (hfresh : Meets CallImpl.step FreshId CallImpl.empty events) :
    ∃ t impl, run CallImpl.step CallImpl.empty events = .returned (t, impl) ∧
      CompleteOnce (effectsOf t) impl := by
  obtain ⟨t, impl, hrun, hsound⟩ := run_invariant
    (fun t impl => CallsSound (effectsOf t) impl)
    (by
      intro t impl event h hevent
      obtain ⟨effects', impl', hstep, hsound⟩ := h.step event hevent
      refine ⟨effects', impl', hstep, ?_⟩
      simpa [effectsOf] using hsound)
    events [] CallImpl.empty CallsSound.empty hfresh
  exact ⟨t, impl, hrun, hsound.completeOnce⟩

/-- A call that times out, and one that is sent with its ID afterwards. -/
theorem calls_complete_once_reused :
    Meets CallImpl.step FreshId (CallImpl.empty : CallImpl Nat)
        [(.send 7 (some 0) : CallEvent Nat Unit), .expire 1, .send 7 (some 1)] ∧
      ∃ t impl, run CallImpl.step (CallImpl.empty : CallImpl Nat)
          [(.send 7 (some 0) : CallEvent Nat Unit), .expire 1, .send 7 (some 1)] =
            .returned (t, impl) ∧
        CompleteOnce (effectsOf t) impl := by
  have hmeets : Meets CallImpl.step FreshId (CallImpl.empty : CallImpl Nat)
      [(.send 7 (some 0) : CallEvent Nat Unit), .expire 1, .send 7 (some 1)] := by
    refine ⟨rfl, ?_⟩
    rintro o s' ⟨⟩
    refine ⟨trivial, ?_⟩
    rintro o' s'' ⟨⟩
    exact ⟨rfl, fun _ _ _ => trivial⟩
  exact ⟨hmeets, calls_complete_once _ hmeets⟩

/-- Two calls with one ID: the callback of the first is gone and has been told nothing. -/
theorem same_id_drops_callback :
    ¬ ∀ events : List (CallEvent Nat Unit),
      ∃ t impl, run CallImpl.step CallImpl.empty events = .returned (t, impl) ∧
        CompleteOnce (effectsOf t) impl := by
  intro h
  obtain ⟨t, impl, hrun, honce⟩ := h [.send 7 (some 0), .send 7 (some 1)]
  obtain ⟨rfl, rfl⟩ := Prod.mk.inj (Outcome.returned.inj hrun)
  rcases honce.notDropped ⟨some 0, toString (7 : Int64), 1⟩ List.mem_cons_self rfl with h | h
  · simp [CallImpl.empty] at h
  · cases h

end Hatohol

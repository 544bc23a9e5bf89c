import Mathlib.Data.List.Nodup
import Hatohol.Dispatcher
import Hatohol.Machine.Steps

/-!
# Whose replies are in a queue

As long as an element is put into the queue of a process only while the process waits for it, every
request starts with an empty queue and gets its own replies. One element that comes late is got by
the request after it.
-/

namespace Hatohol.Haplib

open Machine

/-- The dispatcher puts an element into a queue only if its process waits for it. A notification with
    an ID that is registered puts none. -/
def InTime (s : Plugin) : Step → Prop
  | .dispatch =>
      match s.dispatching with
      | none => True
      | some (.notification source waitId request) =>
          s.idResQMap waitId = none → s.phase source = .joining waitId request ∨
            s.phase source = .acknowledging waitId request
      | some (.received pm) =>
          pm.kind ≠ .error → ∀ p, s.idResQMap pm.messageId = some p →
            pm.kind ≠ .method ∧ ∃ request, s.phase p = .responding pm.messageId request
  | _ => True

/-- The element is the one that is waited for. -/
def Phase.Owns : Phase → Element → Prop
  | .joining _ request, .acknowledge request' => request' = request
  | .acknowledging _ request, .acknowledge request' => request' = request
  | .responding requestId _, .message pm => pm.messageId = requestId
  | _, _ => False

def Dispatched.request? : Dispatched → Option Nat
  | .notification _ _ request => some request
  | .received _ => none

/-- The requests whose notification is on its way. -/
def Plugin.notified (s : Plugin) : List Nat :=
  (s.dispatching.toList ++ s.dispatchQueue).filterMap Dispatched.request?

/-- The acknowledgement of a request is in the queue, or it is to come. -/
def Acknowledges (s : Plugin) (p : ProcessId) (request : Nat) : Prop :=
  request < s.requests ∧ (s.replyQueue p = [] ∨
    s.replyQueue p = [.acknowledge request] ∧ request ∉ s.notified)

/-- What is in the queue of a process. -/
def Waits (s : Plugin) (p : ProcessId) : Phase → Prop
  | .idle => s.replyQueue p = []
  | .joining _ request => Acknowledges s p request
  | .acknowledging _ request => Acknowledges s p request
  | .acknowledged _ _ => s.replyQueue p = []
  | .responding requestId _ => s.replyQueue p = [] ∨ ∃ pm, s.replyQueue p = [.message pm] ∧
      pm.messageId = requestId ∧ (pm.kind = .success ∨ pm.kind = .failure) ∧
      s.idResQMap requestId ≠ some p

/-- A request has not ended with an element of another one, and has returned its own response. -/
def EndedRequest.Sound (ended : EndedRequest) : Prop :=
  ended.ending ≠ .unexpected ∧
    ∀ pm, ended.ending = .returned pm → pm.messageId = ended.requestId

structure Plugin.Sound (s : Plugin) : Prop where
  waits : ∀ p, Waits s p (s.phase p)
  fresh : ∀ request ∈ s.notified, request < s.requests
  nodup : s.notified.Nodup
  ended : ∀ ended ∈ s.log, ended.Sound

/-! ## What a step leaves as it is -/

/-- A process whose phase and queue stay as they are still waits for what it did. -/
theorem Waits.mono {s s' : Plugin} {p : ProcessId} {phase : Phase} (hwaits : Waits s p phase)
    (hqueue : s'.replyQueue p = s.replyQueue p) (hrequests : s.requests ≤ s'.requests)
    (hnotified : ∀ request < s.requests, request ∈ s'.notified → request ∈ s.notified)
    (hmap : ∀ requestId, s'.idResQMap requestId = some p → s.idResQMap requestId = some p) :
    Waits s' p phase := by
  have hack : ∀ request, Acknowledges s p request → Acknowledges s' p request := by
    rintro request ⟨hlt, hcases⟩
    refine ⟨Nat.lt_of_lt_of_le hlt hrequests, ?_⟩
    rw [hqueue]
    exact hcases.imp_right fun ⟨hq, hnot⟩ => ⟨hq, mt (hnotified request hlt) hnot⟩
  cases phase with
  | idle => exact hqueue.trans hwaits
  | joining requestId request => exact hack request hwaits
  | acknowledging requestId request => exact hack request hwaits
  | acknowledged requestId request => exact hqueue.trans hwaits
  | responding requestId request =>
    rw [Waits, hqueue]
    exact hwaits.imp_right fun ⟨pm, hq, hid, hkind, hnot⟩ =>
      ⟨pm, hq, hid, hkind, mt (hmap requestId) hnot⟩

/-- A step of one process: its phase and its queue change, and the log may. -/
theorem Plugin.Sound.ofProcess {s s' : Plugin} (hsound : s.Sound) (p : ProcessId) (phase : Phase)
    (hphase : s'.phase = Function.update s.phase p phase)
    (hqueue : ∀ q, q ≠ p → s'.replyQueue q = s.replyQueue q)
    (hrequests : s'.requests = s.requests) (hnotified : s'.notified = s.notified)
    (hmap : s'.idResQMap = s.idResQMap) (hwaits : Waits s' p phase)
    (hlog : ∀ ended ∈ s'.log, ended ∈ s.log ∨ ended.Sound) : s'.Sound := by
  refine ⟨fun q => ?_, ?_, ?_, ?_⟩
  · rw [hphase]
    by_cases hq : q = p
    · subst hq
      rw [Function.update_self]
      exact hwaits
    · rw [Function.update_of_ne hq]
      refine (hsound.waits q).mono (hqueue q hq) (Nat.le_of_eq hrequests.symm) ?_ ?_
      · rw [hnotified]
        exact fun _ _ hmem => hmem
      · rw [hmap]
        exact fun _ h => h
  · rw [hnotified, hrequests]
    exact hsound.fresh
  · rw [hnotified]
    exact hsound.nodup
  · intro ended hmem
    exact (hlog ended hmem).elim (hsound.ended ended) id

theorem Plugin.Sound.setPhase {s : Plugin} (hsound : s.Sound) (p : ProcessId) (phase : Phase)
    (hwaits : Waits s p phase) : (s.setPhase p phase).Sound := by
  refine hsound.ofProcess p phase rfl (fun _ _ => rfl) rfl rfl rfl ?_ fun _ hmem => .inl hmem
  exact hwaits.mono rfl (Nat.le_refl _) (fun _ _ hmem => hmem) fun _ h => h

/-- A request ends with an empty queue. -/
theorem Plugin.Sound.finish {s : Plugin} (hsound : s.Sound) (p : ProcessId) (requestId : Nat)
    {ending : Ending} (hended : EndedRequest.Sound ⟨p, requestId, ending⟩)
    (hempty : s.replyQueue p = []) : (s.finish p requestId ending).Sound := by
  refine hsound.ofProcess p .idle rfl (fun _ _ => rfl) rfl rfl rfl hempty fun ended hmem => ?_
  rcases List.mem_append.mp hmem with hmem | hmem
  · exact .inl hmem
  · rw [List.mem_singleton.mp hmem]
    exact .inr hended

/-- A queue is emptied by the process that moves on or ends. -/
theorem setQueue_finish {s : Plugin} (hsound : s.Sound) (p : ProcessId) (requestId : Nat)
    {ending : Ending} (hended : EndedRequest.Sound ⟨p, requestId, ending⟩) :
    ((s.setQueue p []).finish p requestId ending).Sound := by
  refine hsound.ofProcess p .idle rfl (fun q hq => Function.update_of_ne hq _ _) rfl rfl rfl
    (Function.update_self _ _ _) fun ended hmem => ?_
  rcases List.mem_append.mp hmem with hmem | hmem
  · exact .inl hmem
  · rw [List.mem_singleton.mp hmem]
    exact .inr hended

/-! ## The steps of a process -/

theorem sound_request {s : Plugin} (hsound : s.Sound) (p : ProcessId) (requestId : Nat) :
    (s.next (.request p requestId)).Sound := by
  have hwaits := hsound.waits p
  rw [Plugin.next]
  split
  next hphase =>
    rw [hphase] at hwaits
    have hnotified : ∀ phase, Plugin.notified { s.setPhase p phase with
        dispatchQueue := s.dispatchQueue ++ [.notification p requestId s.requests]
        requests := s.requests + 1 } = s.notified ++ [s.requests] := by
      intro phase
      rw [Plugin.notified, Plugin.notified, ← List.append_assoc, List.filterMap_append]
      rfl
    have hnot : s.requests ∉ s.notified := fun hmem => Nat.lt_irrefl _ (hsound.fresh _ hmem)
    refine ⟨fun q => ?_, ?_, ?_, hsound.ended⟩
    · by_cases hq : q = p
      · subst hq
        change Waits _ q (Function.update s.phase q _ q)
        rw [Function.update_self]
        exact ⟨Nat.lt_succ_self _, .inl hwaits⟩
      · change Waits _ q (Function.update s.phase p _ q)
        rw [Function.update_of_ne hq]
        refine (hsound.waits q).mono rfl (Nat.le_succ _) (fun request hlt hmem => ?_) fun _ h => h
        rw [hnotified] at hmem
        rcases List.mem_append.mp hmem with hmem | hmem
        · exact hmem
        · rw [List.mem_singleton.mp hmem] at hlt
          exact absurd hlt (Nat.lt_irrefl _)
    · rw [hnotified]
      intro request hmem
      rcases List.mem_append.mp hmem with hmem | hmem
      · exact Nat.lt_succ_of_lt (hsound.fresh request hmem)
      · rw [List.mem_singleton.mp hmem]
        exact Nat.lt_succ_self _
    · rw [hnotified]
      exact List.nodup_append.mpr ⟨hsound.nodup, List.nodup_singleton _, fun a ha b hb heq =>
        hnot (by rw [← List.mem_singleton.mp hb, ← heq]; exact ha)⟩
  next => exact hsound

theorem sound_getAcknowledge {s : Plugin} (hsound : s.Sound) (p : ProcessId) :
    (s.next (.getAcknowledge p)).Sound := by
  have hwaits := hsound.waits p
  rw [Plugin.next]
  split
  next requestId request request' rest hphase hqueue =>
    rw [hphase, Waits, Acknowledges, hqueue] at hwaits
    obtain ⟨-, hnil | ⟨hone, -⟩⟩ := hwaits
    · cases hnil
    · obtain ⟨-, rfl⟩ := List.cons.inj hone
      refine hsound.ofProcess p (.acknowledged requestId request) rfl
        (fun q hq => Function.update_of_ne hq _ _) rfl rfl rfl (Function.update_self _ _ _)
        fun _ hmem => .inl hmem
  next requestId request pm rest hphase hqueue =>
    rw [hphase, Waits, Acknowledges, hqueue] at hwaits
    obtain ⟨-, hnil | ⟨hone, -⟩⟩ := hwaits
    · cases hnil
    · cases (List.cons.inj hone).1
  next => exact hsound

theorem sound_getResponse {s : Plugin} (hsound : s.Sound) (p : ProcessId) :
    (s.next (.getResponse p)).Sound := by
  have hwaits := hsound.waits p
  rw [Plugin.next]
  split
  next requestId request element rest hphase hqueue =>
    rw [hphase, Waits, hqueue] at hwaits
    obtain hnil | ⟨pm, hone, hid, hkind, -⟩ := hwaits
    · cases hnil
    · obtain ⟨rfl, rfl⟩ := List.cons.inj hone
      refine setQueue_finish hsound p requestId ?_
      rw [Plugin.endingOf, if_neg (not_not.mpr hid)]
      rcases hkind with hkind | hkind
      · rw [hkind]
        refine ⟨Ending.noConfusion, fun pm' heq => ?_⟩
        obtain rfl := Ending.returned.inj heq
        exact hid
      · rw [hkind]
        exact ⟨Ending.noConfusion, fun pm' heq => Ending.noConfusion heq⟩
  next => exact hsound

theorem sound_timeout {s : Plugin} (hsound : s.Sound) (p : ProcessId) :
    (s.next (.acknowledgeTimeout p)).Sound ∧ (s.next (.responseTimeout p)).Sound := by
  constructor
  · rw [Plugin.next]
    split
    next requestId request hphase hqueue =>
      exact hsound.finish p requestId ⟨Ending.noConfusion, fun _ heq => Ending.noConfusion heq⟩
        hqueue
    next => exact hsound
  · rw [Plugin.next]
    split
    next requestId request hphase hqueue =>
      exact hsound.finish p requestId ⟨Ending.noConfusion, fun _ heq => Ending.noConfusion heq⟩
        hqueue
    next => exact hsound

theorem sound_join {s : Plugin} (hsound : s.Sound) (p : ProcessId) : (s.next (.join p)).Sound := by
  have hwaits := hsound.waits p
  rw [Plugin.next]
  split
  next requestId request hphase hqueue =>
    rw [hphase] at hwaits
    exact hsound.setPhase p _ hwaits
  next => exact hsound

theorem sound_send {s : Plugin} (hsound : s.Sound) (p : ProcessId) (overCapacity : Bool) :
    (s.next (.send p overCapacity)).Sound := by
  have hwaits := hsound.waits p
  rw [Plugin.next]
  split
  next requestId request hphase =>
    rw [hphase] at hwaits
    split
    · exact hsound.finish p requestId ⟨Ending.noConfusion, fun _ heq => Ending.noConfusion heq⟩
        hwaits
    · exact hsound.ofProcess p _ rfl (fun _ _ => rfl) rfl rfl rfl (.inl hwaits) fun _ hmem =>
        .inl hmem
  next => exact hsound

/-! ## The steps of the dispatcher -/

/-- Nothing changes but what is on its way to the processes. -/
theorem Plugin.Sound.ofNotified {s s' : Plugin} (hsound : s.Sound) (hphase : s'.phase = s.phase)
    (hqueue : s'.replyQueue = s.replyQueue) (hrequests : s'.requests = s.requests)
    (hmap : s'.idResQMap = s.idResQMap) (hlog : s'.log = s.log)
    (hnotified : List.Sublist s'.notified s.notified) : s'.Sound := by
  refine ⟨fun p => ?_, ?_, hsound.nodup.sublist hnotified, ?_⟩
  · rw [hphase]
    refine (hsound.waits p).mono (by rw [hqueue]) (Nat.le_of_eq hrequests.symm)
      (fun _ _ hmem => hnotified.subset hmem) ?_
    rw [hmap]
    exact fun _ h => h
  · rw [hrequests]
    exact fun request hmem => hsound.fresh request (hnotified.subset hmem)
  · rw [hlog]
    exact hsound.ended

theorem sound_receive {s : Plugin} (hsound : s.Sound) (pm : ParsedMessage) :
    (s.next (.receive pm)).Sound := by
  have hnotified : (s.dispatching.toList ++ (s.dispatchQueue ++ [Dispatched.received pm])).filterMap
      Dispatched.request? = s.notified := by
    rw [← List.append_assoc, List.filterMap_append]
    exact List.append_nil _
  rw [Plugin.next]
  split
  · exact hsound.ofNotified rfl rfl rfl rfl rfl (hnotified ▸ List.Sublist.refl _)
  · split
    · exact hsound.ofNotified rfl rfl rfl rfl rfl (hnotified ▸ List.Sublist.refl _)
    · exact hsound

theorem sound_take {s : Plugin} (hsound : s.Sound) : (s.next .take).Sound := by
  rw [Plugin.next]
  split
  next message rest hnone hqueue =>
    refine hsound.ofNotified rfl rfl rfl rfl rfl ?_
    rw [Plugin.notified, Plugin.notified, hnone, hqueue]
    exact List.Sublist.refl _
  next => exact hsound

theorem sound_acknowledge {s : Plugin} (hsound : s.Sound) {source : ProcessId}
    {waitId request : Nat} (hdispatching : s.dispatching =
      some (.notification source waitId request))
    (hintime : s.idResQMap waitId = none → s.phase source = .joining waitId request ∨
      s.phase source = .acknowledging waitId request) :
    ({ s with dispatching := none }.acknowledge source waitId request).Sound := by
  have hnotified : s.notified = request :: s.dispatchQueue.filterMap Dispatched.request? := by
    rw [Plugin.notified, hdispatching]
    rfl
  have hnodup := hsound.nodup
  rw [hnotified] at hnodup
  have hsub : (s.dispatchQueue.filterMap Dispatched.request?).Sublist s.notified := by
    rw [hnotified]
    exact List.sublist_cons_self _ _
  rw [Plugin.acknowledge]
  split
  · exact hsound.ofNotified rfl rfl rfl rfl rfl hsub
  next hregistered =>
    have hphase := hintime (Option.not_isSome_iff_eq_none.mp hregistered)
    have hack : Acknowledges s source request := by
      have hwaits := hsound.waits source
      rcases hphase with hphase | hphase
      · rw [hphase] at hwaits
        exact hwaits
      · rw [hphase] at hwaits
        exact hwaits
    have hempty : s.replyQueue source = [] := by
      refine hack.2.resolve_right fun h => h.2 ?_
      rw [hnotified]
      exact List.mem_cons_self
    refine ⟨fun q => ?_, fun request' hmem => hsound.fresh request' (hsub.subset hmem),
      hsound.nodup.sublist hsub, hsound.ended⟩
    by_cases hq : q = source
    · subst hq
      have hnew : Acknowledges ({ s with
          dispatching := none
          idResQMap := Function.update s.idResQMap waitId (some q) }.put q
            (.acknowledge request)) q request := by
        refine ⟨hack.1, .inr ⟨?_, (List.nodup_cons.mp hnodup).1⟩⟩
        change Function.update s.replyQueue q (s.replyQueue q ++ _) q = _
        rw [Function.update_self, hempty, List.nil_append]
      rcases hphase with hphase | hphase
      · change Waits _ q (s.phase q)
        rw [hphase]
        exact hnew
      · change Waits _ q (s.phase q)
        rw [hphase]
        exact hnew
    · refine (hsound.waits q).mono (Function.update_of_ne hq _ _) (Nat.le_refl _)
        (fun _ _ hmem => hsub.subset hmem) fun requestId hsome => ?_
      change Function.update s.idResQMap waitId (some source) requestId = some q at hsome
      by_cases hid : requestId = waitId
      · rw [hid, Function.update_self] at hsome
        exact absurd (Option.some.inj hsome).symm hq
      · rw [Function.update_of_ne hid] at hsome
        exact hsome

theorem sound_dispatchReceived {s : Plugin} (hsound : s.Sound) {pm : ParsedMessage}
    (hdispatching : s.dispatching = some (.received pm))
    (hintime : pm.kind ≠ .error → ∀ p, s.idResQMap pm.messageId = some p →
      pm.kind ≠ .method ∧ ∃ request, s.phase p = .responding pm.messageId request) :
    ({ s with dispatching := none }.dispatchReceived pm).Sound := by
  have hnotified : s.notified = s.dispatchQueue.filterMap Dispatched.request? := by
    rw [Plugin.notified, hdispatching]
    rfl
  have hsub : (s.dispatchQueue.filterMap Dispatched.request?).Sublist s.notified :=
    hnotified ▸ List.Sublist.refl _
  rw [Plugin.dispatchReceived]
  split
  · exact hsound.ofNotified rfl rfl rfl rfl rfl hsub
  next herror =>
    split
    · exact hsound.ofNotified rfl rfl rfl rfl rfl hsub
    next p hmap =>
      obtain ⟨hmethod, request, hphase⟩ := hintime herror p hmap
      have hwaits := hsound.waits p
      rw [hphase] at hwaits
      have hempty : s.replyQueue p = [] :=
        hwaits.resolve_right fun ⟨_, _, _, _, hnot⟩ => hnot hmap
      have hkind : pm.kind = .success ∨ pm.kind = .failure := by
        cases hk : pm.kind with
        | success => exact .inl rfl
        | failure => exact .inr rfl
        | error => exact absurd hk herror
        | method => exact absurd hk hmethod
      refine ⟨fun q => ?_, fun request' hmem => hsound.fresh request' (hsub.subset hmem),
        hsound.nodup.sublist hsub, hsound.ended⟩
      by_cases hq : q = p
      · subst hq
        change Waits _ q (s.phase q)
        rw [hphase]
        refine .inr ⟨pm, ?_, rfl, hkind, ?_⟩
        · change Function.update s.replyQueue q (s.replyQueue q ++ _) q = _
          rw [Function.update_self, hempty, List.nil_append]
        · change Function.update s.idResQMap pm.messageId none pm.messageId ≠ _
          rw [Function.update_self]
          exact fun heq => by cases heq
      · refine (hsound.waits q).mono (Function.update_of_ne hq _ _) (Nat.le_refl _)
          (fun _ _ hmem => hsub.subset hmem) fun requestId hsome => ?_
        change Function.update s.idResQMap pm.messageId none requestId = some q at hsome
        by_cases hid : requestId = pm.messageId
        · rw [hid, Function.update_self] at hsome
          cases hsome
        · rw [Function.update_of_ne hid] at hsome
          exact hsome

theorem sound_dispatch {s : Plugin} (hsound : s.Sound) (hintime : InTime s .dispatch) :
    (s.next .dispatch).Sound := by
  rw [Plugin.next]
  rw [InTime] at hintime
  split
  next => exact hsound
  next source waitId request hdispatching =>
    rw [hdispatching] at hintime
    exact sound_acknowledge hsound hdispatching hintime
  next pm hdispatching =>
    rw [hdispatching] at hintime
    exact sound_dispatchReceived hsound hdispatching hintime

theorem sound_next {s : Plugin} (step : Step) (hsound : s.Sound) (hintime : InTime s step) :
    (s.next step).Sound := by
  cases step with
  | request p requestId => exact sound_request hsound p requestId
  | join p => exact sound_join hsound p
  | getAcknowledge p => exact sound_getAcknowledge hsound p
  | acknowledgeTimeout p => exact (sound_timeout hsound p).1
  | send p overCapacity => exact sound_send hsound p overCapacity
  | getResponse p => exact sound_getResponse hsound p
  | responseTimeout p => exact (sound_timeout hsound p).2
  | receive pm => exact sound_receive hsound pm
  | take => exact sound_take hsound
  | dispatch => exact sound_dispatch hsound hintime

theorem sound_start : Plugin.start.Sound :=
  ⟨fun _ => rfl, fun _ hmem => absurd hmem List.not_mem_nil, List.nodup_nil,
    fun _ hmem => absurd hmem List.not_mem_nil⟩

theorem Waits.owns {s : Plugin} {p : ProcessId} {phase : Phase} (hwaits : Waits s p phase) :
    ∀ element ∈ s.replyQueue p, phase.Owns element := by
  intro element hmem
  cases phase with
  | idle =>
    rw [show s.replyQueue p = [] from hwaits] at hmem
    cases hmem
  | joining requestId request =>
    rcases hwaits.2 with hnil | ⟨hone, -⟩
    · rw [hnil] at hmem
      cases hmem
    · rw [hone] at hmem
      rw [List.mem_singleton.mp hmem]
      rfl
  | acknowledging requestId request =>
    rcases hwaits.2 with hnil | ⟨hone, -⟩
    · rw [hnil] at hmem
      cases hmem
    · rw [hone] at hmem
      rw [List.mem_singleton.mp hmem]
      rfl
  | acknowledged requestId request =>
    rw [show s.replyQueue p = [] from hwaits] at hmem
    cases hmem
  | responding requestId request =>
    rcases hwaits with hnil | ⟨pm, hone, hid, -⟩
    · rw [hnil] at hmem
      cases hmem
    · rw [hone] at hmem
      rw [List.mem_singleton.mp hmem]
      exact hid

end Hatohol.Haplib

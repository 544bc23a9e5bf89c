import Hatohol.Machine.Programs
import Hatohol.ResidentInfo

/-!
# Whose turn it is

At any time at most one party may send the next request to the resident: the status is idle and
anyone may, a thread is about to wait for an acknowledgement, a callback is set, or the main loop is
on its way to one of these. The queue is taken from by the main loop only, when it is its turn.
-/

namespace Hatohol

open Machine

namespace ResidentOp

/-- An operation that gives the turn to the callback or to anyone. -/
def turn : ResidentOp → Int
  | pullData _ _ => 1
  | setStatus .idle => 1
  | _ => 0

theorem turn_nonneg (op : ResidentOp) : 0 ≤ op.turn := by
  unfold turn
  split <;> decide

/-- What an operation relies on: the notification is the first one in the queue. -/
def Needs (r : ResidentInfo) : ResidentOp → Prop
  | push (.notifyEvent notifyInfo) => r.notifyQueue.head? = some notifyInfo
  | pullData _ (some notifyInfo) => r.notifyQueue.head? = some notifyInfo
  | pullData _ none => r.notifyQueue.head? = some r.pullCallbackArg
  | logEndExecAction notifyInfo _ _ => r.notifyQueue.head? = some notifyInfo
  | deleteFrontNotifyInfo => r.notifyQueue ≠ []
  | _ => True

/-- Only who has the turn relies on the argument of the callback. -/
theorem needs_of_eq {r r' : ResidentInfo} {op : ResidentOp}
    (hqueue : r'.notifyQueue = r.notifyQueue)
    (harg : op.turn = 1 → r'.pullCallbackArg = r.pullCallbackArg) (hneeds : op.Needs r) :
    op.Needs r' := by
  cases op with
  | push request =>
    cases request with
    | notifyEvent x =>
      show r'.notifyQueue.head? = some x
      rw [hqueue]
      exact hneeds
    | _ => trivial
  | pullData callback arg =>
    cases arg with
    | some x =>
      show r'.notifyQueue.head? = some x
      rw [hqueue]
      exact hneeds
    | none =>
      show r'.notifyQueue.head? = some r'.pullCallbackArg
      rw [hqueue, harg rfl]
      exact hneeds
  | logEndExecAction x status code =>
    show r'.notifyQueue.head? = some x
    rw [hqueue]
    exact hneeds
  | deleteFrontNotifyInfo =>
    show r'.notifyQueue ≠ []
    rw [hqueue]
    exact hneeds
  | _ => trivial

end ResidentOp

namespace ResidentInfo

open ResidentOp

/-- The turns that nobody has taken. -/
def openTurns (r : ResidentInfo) : Int :=
  (if r.status = .idle then 1 else 0) + (if r.pullCallback.isSome then 1 else 0)

/-- The notifications that are not done are the last ones that were queued. -/
def QueueSound (r : ResidentInfo) : Prop :=
  ∃ done ≤ r.numQueued, r.notifyQueue = List.range' done (r.numQueued - done)

/-- At most one has the turn, and the programs find what they rely on. -/
structure TurnsSound (r : ResidentInfo) (programs : List (List ResidentOp)) : Prop where
  one : r.openTurns + load turn programs ≤ 1
  needs : r.isDeleted = false → ∀ ops ∈ programs, ∀ op ∈ ops, op.Needs r
  pulled : r.isDeleted = false → r.pullCallback.isSome →
    r.notifyQueue.head? = some r.pullCallbackArg
  queue : r.QueueSound

theorem TurnsSound.perm {r : ResidentInfo} {programs programs' : List (List ResidentOp)}
    (h : TurnsSound r programs) (hperm : programs.Perm programs') : TurnsSound r programs' := by
  refine ⟨load_perm (w := turn) hperm ▸ h.one, ?_, h.pulled, h.queue⟩
  intro hdeleted ops hops
  exact h.needs hdeleted ops (hperm.mem_iff.mpr hops)

theorem TurnsSound.congr {r : ResidentInfo} {programs : List (List ResidentOp)}
    (h : TurnsSound r programs) (r' : ResidentInfo) (hqueue : r'.notifyQueue = r.notifyQueue)
    (hnum : r'.numQueued = r.numQueued) (hdeleted : r'.isDeleted = r.isDeleted)
    (hstatus : r'.status = r.status) (hcallback : r'.pullCallback = r.pullCallback)
    (harg : r'.pullCallbackArg = r.pullCallbackArg) : TurnsSound r' programs := by
  refine ⟨?_, ?_, ?_, ?_⟩
  · unfold openTurns
    rw [hstatus, hcallback]
    exact h.one
  · rw [hdeleted]
    intro hnot ops hops op hop
    exact needs_of_eq hqueue (fun _ => harg) (h.needs hnot ops hops op hop)
  · rw [hdeleted, hcallback, hqueue, harg]
    exact h.pulled
  · unfold QueueSound
    rw [hqueue, hnum]
    exact h.queue

/-- One program goes on without a change of the queue. -/
theorem TurnsSound.replace {r : ResidentInfo} {old : List ResidentOp}
    {others : List (List ResidentOp)} (h : TurnsSound r (old :: others)) (r' : ResidentInfo)
    (new : List ResidentOp) (hqueue : r'.notifyQueue = r.notifyQueue)
    (hnum : r'.numQueued = r.numQueued) (hdeleted : r'.isDeleted = r.isDeleted)
    (hturns : r'.openTurns + weight turn new ≤ r.openTurns + weight turn old)
    (harg : r'.pullCallbackArg = r.pullCallbackArg ∨ weight turn old = 1)
    (hneeds : r.isDeleted = false → ∀ op ∈ new, op.Needs r')
    (hpulled : r.isDeleted = false → r'.pullCallback.isSome →
      r.notifyQueue.head? = some r'.pullCallbackArg) : TurnsSound r' (new :: others) := by
  have hone := h.one
  rw [load_cons] at hone
  refine ⟨?_, ?_, ?_, ?_⟩
  · rw [load_cons]
    omega
  · intro hnot ops hops op hop
    rw [hdeleted] at hnot
    rcases List.mem_cons.mp hops with rfl | hops
    · exact hneeds hnot op hop
    · apply needs_of_eq hqueue _ (h.needs hnot ops (List.mem_cons_of_mem _ hops) op hop)
      intro hturn
      rcases harg with harg | hold
      · exact harg
      · -- two would have the turn
        have hopen : 0 ≤ r.openTurns := by
          unfold openTurns
          split <;> split <;> decide
        have hother := le_load turn_nonneg hops hop
        omega
  · intro hnot hsome
    rw [hdeleted] at hnot
    rw [hqueue]
    exact hpulled hnot hsome
  · obtain ⟨done, hdone, heq⟩ := h.queue
    exact ⟨done, hnum ▸ hdone, by rw [hqueue, hnum, heq]⟩

/-- The first operation of a program is done, and touches neither queue nor callback. -/
theorem TurnsSound.next {r : ResidentInfo} {op : ResidentOp} {ops : List ResidentOp}
    {others : List (List ResidentOp)} (h : TurnsSound r ((op :: ops) :: others)) (r' : ResidentInfo)
    (hqueue : r'.notifyQueue = r.notifyQueue) (hnum : r'.numQueued = r.numQueued)
    (hdeleted : r'.isDeleted = r.isDeleted) (hturns : r'.openTurns ≤ r.openTurns + op.turn)
    (hcallback : r'.pullCallback = r.pullCallback)
    (harg : r'.pullCallbackArg = r.pullCallbackArg) : TurnsSound r' (ops :: others) := by
  apply h.replace r' ops hqueue hnum hdeleted _ (.inl harg)
  · intro hnot op' hop'
    apply needs_of_eq hqueue (fun _ => harg)
    exact h.needs hnot _ (List.mem_cons_self ..) op' (List.mem_cons_of_mem _ hop')
  · intro hnot hsome
    rw [hcallback] at hsome
    rw [harg]
    exact h.pulled hnot hsome
  · rw [weight_cons]
    omega

/-- It does not touch the status either. -/
theorem TurnsSound.skip {r : ResidentInfo} {op : ResidentOp} {ops : List ResidentOp}
    {others : List (List ResidentOp)} (h : TurnsSound r ((op :: ops) :: others)) (r' : ResidentInfo)
    (hqueue : r'.notifyQueue = r.notifyQueue) (hnum : r'.numQueued = r.numQueued)
    (hdeleted : r'.isDeleted = r.isDeleted) (hstatus : r'.status = r.status)
    (hcallback : r'.pullCallback = r.pullCallback)
    (harg : r'.pullCallbackArg = r.pullCallbackArg) : TurnsSound r' (ops :: others) := by
  apply h.next r' hqueue hnum hdeleted _ hcallback harg
  have hturn := op.turn_nonneg
  unfold openTurns
  rw [hstatus, hcallback]
  omega

/-- The callback that is set waits for what the first notification is about. -/
theorem TurnsSound.pull {r : ResidentInfo} {callback : ResidentPullCallback} {arg : Option Nat}
    {ops : List ResidentOp} {others : List (List ResidentOp)}
    (h : TurnsSound r ((pullData callback arg :: ops) :: others)) :
    r.pullCallback = none ∧ TurnsSound
      { r with pullCallback := some callback, pullCallbackArg := arg.getD r.pullCallbackArg }
      (ops :: others) := by
  have hone := h.one
  have hrest := load_nonneg turn_nonneg others
  have hops := weight_nonneg turn_nonneg ops
  simp only [load_cons, weight_cons, turn] at hone
  have hnone : r.pullCallback = none := by
    cases hcallback : r.pullCallback with
    | none => rfl
    | some callback' =>
      rw [openTurns, hcallback, Option.isSome_some, if_pos rfl] at hone
      split at hone <;> omega
  have hhead : r.isDeleted = false → r.notifyQueue.head? = some (arg.getD r.pullCallbackArg) := by
    intro hnot
    have hneeds := h.needs hnot _ (List.mem_cons_self ..) _ (List.mem_cons_self ..)
    cases arg <;> exact hneeds
  refine ⟨hnone, h.replace _ ops rfl rfl rfl ?_ ?_ ?_ ?_⟩
  · simp only [openTurns, hnone, weight_cons, turn]
    simp
    omega
  · right
    simp only [weight_cons, turn, openTurns] at hone ⊢
    split at hone <;> omega
  · intro hnot op' hop'
    have hneeds := h.needs hnot _ (List.mem_cons_self ..) op' (List.mem_cons_of_mem _ hop')
    refine needs_of_eq (by rfl) ?_ hneeds
    intro hturn
    have hle := le_weight turn_nonneg hop'
    unfold openTurns at hone
    split at hone <;> omega
  · intro hnot _
    exact hhead hnot

/-- No operation of a thread or of the main loop fails, whoever does it. -/
theorem TurnsSound.perform {r : ResidentInfo} {op : ResidentOp} {ops : List ResidentOp}
    {others : List (List ResidentOp)} (h : TurnsSound r ((op :: ops) :: others))
    (hpop : op ≠ deleteFrontNotifyInfo) (hcollector : op ≠ postCollectedProc) :
    ∃ r' next, r.perform op = .ok (r', next) ∧ TurnsSound r' ((next ++ ops) :: others) := by
  cases op with
  | tryNotifyEvent =>
    by_cases hidle : r.status = .idle
    · cases hqueue : r.notifyQueue with
      | nil =>
        refine ⟨r, [], ?_, h.skip r rfl rfl rfl rfl rfl rfl⟩
        simp [ResidentInfo.perform, hidle, hqueue, pure, Except.pure]
      | cons x queue =>
        refine ⟨{ r with status := .waitNotifyAck }, notifyEvent x, ?_, ?_⟩
        · simp [ResidentInfo.perform, hidle, hqueue, pure, Except.pure]
        · apply h.replace { r with status := .waitNotifyAck } (notifyEvent x ++ ops) rfl rfl rfl _
            (.inl rfl)
          · intro hnot op' hop'
            rcases List.mem_append.mp hop' with hop' | hop'
            · have hhead : r.notifyQueue.head? = some x := by rw [hqueue]; rfl
              simp only [notifyEvent, List.mem_cons, List.not_mem_nil, or_false] at hop'
              rcases hop' with rfl | rfl | rfl
              · exact hhead
              · exact hhead
              · trivial
            · apply needs_of_eq rfl (fun _ => rfl)
              exact h.needs hnot _ (List.mem_cons_self ..) op' (List.mem_cons_of_mem _ hop')
          · exact h.pulled
          · simp [openTurns, hidle, notifyEvent, turn]
            omega
    · refine ⟨r, [], ?_, h.skip r rfl rfl rfl rfl rfl rfl⟩
      simp [ResidentInfo.perform, hidle, pure, Except.pure]
  | push request =>
    refine ⟨_, [], rfl, ?_⟩
    cases request <;> exact h.skip _ rfl rfl rfl rfl rfl rfl
  | pullData callback arg =>
    obtain ⟨hnone, hpull⟩ := h.pull
    exact ⟨_, [], by simp [ResidentInfo.perform, hnone, pure, Except.pure], hpull⟩
  | deleteFrontNotifyInfo => exact absurd rfl hpop
  | postCollectedProc => exact absurd rfl hcollector
  | setStatus status =>
    refine ⟨_, [], rfl, h.next _ rfl rfl rfl ?_ rfl rfl⟩
    cases status <;> simp only [openTurns, turn, if_true, reduceCtorEq,
      if_false] <;> split <;> omega
  | deleteNotifyQueue =>
    refine ⟨_, [], rfl, ?_, ?_, ?_, r.numQueued, Nat.le_refl _, by simp⟩
    · have hone := h.one
      simp only [load_cons, weight_cons, turn, openTurns, List.nil_append] at hone ⊢
      omega
    · intro hnot
      cases hnot
    · intro hnot
      cases hnot
  | _ => exact ⟨_, _, rfl, h.skip _ rfl rfl rfl rfl rfl rfl⟩

/-- The first notification is deleted while nobody has to do with it. -/
theorem TurnsSound.pop {r : ResidentInfo} {ops : List ResidentOp} {others : List (List ResidentOp)}
    (h : TurnsSound r ((deleteFrontNotifyInfo :: ops) :: others)) (hnot : r.isDeleted = false)
    (hnone : r.pullCallback = none) (hneeds : ∀ ops' ∈ ops :: others, ∀ op ∈ ops', ∀ r',
      op.Needs r') :
    ∃ x queue, r.notifyQueue = x :: queue ∧
      r.perform deleteFrontNotifyInfo = .ok ({ r with notifyQueue := queue }, []) ∧
      TurnsSound { r with notifyQueue := queue } (ops :: others) := by
  have hne : r.notifyQueue ≠ [] := h.needs hnot _ (List.mem_cons_self ..) _ (List.mem_cons_self ..)
  obtain ⟨x, queue, hqueue⟩ := List.exists_cons_of_ne_nil hne
  refine ⟨x, queue, hqueue, by simp [ResidentInfo.perform, hqueue, pure, Except.pure], ?_, ?_, ?_,
    ?_⟩
  · have hone := h.one
    simp only [load_cons, weight_cons, turn, openTurns] at hone ⊢
    omega
  · intro _ ops' hops' op hop
    exact hneeds ops' hops' op hop _
  · intro _ hsome
    rw [hnone] at hsome
    cases hsome
  · obtain ⟨done, hdone, heq⟩ := h.queue
    rw [hqueue] at heq
    have hlt : done < r.numQueued := by
      by_contra hge
      rw [Nat.sub_eq_zero_of_le (Nat.le_of_not_lt hge)] at heq
      cases heq
    obtain ⟨left, hleft⟩ : ∃ left, r.numQueued - done = left + 1 :=
      ⟨r.numQueued - done - 1, by omega⟩
    rw [hleft, List.range'_succ] at heq
    refine ⟨done + 1, hlt, ?_⟩
    rw [show r.numQueued - (done + 1) = left by omega]
    exact (List.cons.inj heq).2

/-- A thread that puts a notification into the queue changes nothing for the others. -/
theorem TurnsSound.queueNotifyInfo {r : ResidentInfo} {programs : List (List ResidentOp)}
    (h : TurnsSound r programs) : TurnsSound r.queueNotifyInfo programs := by
  have hhead : ∀ x, r.notifyQueue.head? = some x →
      (r.notifyQueue ++ [r.numQueued]).head? = some x := by
    intro x hx
    rw [List.head?_append, hx]
    rfl
  refine ⟨h.one, ?_, ?_, ?_⟩
  · intro hnot ops hops op hop
    have hneeds := h.needs hnot ops hops op hop
    cases op with
    | push request =>
      cases request with
      | notifyEvent x => exact hhead x hneeds
      | _ => trivial
    | pullData callback arg => cases arg <;> exact hhead _ hneeds
    | logEndExecAction x status code => exact hhead x hneeds
    | deleteFrontNotifyInfo => exact List.append_ne_nil_of_left_ne_nil hneeds _
    | _ => trivial
  · intro hnot hsome
    exact hhead _ (h.pulled hnot hsome)
  · obtain ⟨done, hdone, heq⟩ := h.queue
    refine ⟨done, Nat.le_succ_of_le hdone, ?_⟩
    show r.notifyQueue ++ [r.numQueued] = List.range' done (r.numQueued + 1 - done)
    rw [Nat.succ_sub hdone, List.range'_1_concat, heq, Nat.add_sub_cancel' hdone]

end ResidentInfo

end Hatohol

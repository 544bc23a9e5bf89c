import Mathlib.Data.List.Perm.Lattice
import Mathlib.Data.Finset.Card
import Hatohol.CommandActionContext

/-!
# The limit of command actions, and those that wait

Each reservation is held by one thread, and each running action has one log ID, so that the two sets
of the context say how many actions are on stage. A waiting action is only taken from the list when a
child has been collected. A spawn that fails frees a place without that.
-/

namespace Hatohol

open Machine

namespace CommandActionContext

theorem le_nextAvailable (ctx : CommandActionContext) (rounds rsvId : Nat) :
    rsvId ≤ ctx.nextAvailable rounds rsvId := by
  induction rounds generalizing rsvId with
  | zero => exact Nat.le_refl rsvId
  | succ rounds ih =>
    unfold nextAvailable
    split
    · exact Nat.le_refl rsvId
    · have := ih (rsvId + 1)
      omega

/-- The rounds of the loop are enough: it ends at an ID that is not running. -/
theorem isAvailable_nextAvailable (ctx : CommandActionContext) (rounds rsvId : Nat)
    (hrounds : (ctx.runningSet.filter (rsvId ≤ ·)).card ≤ rounds) :
    ctx.isAvailable (ctx.nextAvailable rounds rsvId) = true := by
  induction rounds generalizing rsvId with
  | zero =>
    have hnone : ctx.runningSet.filter (rsvId ≤ ·) = ∅ :=
      Finset.card_eq_zero.mp (Nat.le_zero.mp hrounds)
    rw [nextAvailable, isAvailable, decide_eq_true_eq]
    intro hmem
    have : rsvId ∈ ctx.runningSet.filter (rsvId ≤ ·) :=
      Finset.mem_filter.mpr ⟨hmem, Nat.le_refl rsvId⟩
    rw [hnone] at this
    simp at this
  | succ rounds ih =>
    unfold nextAvailable
    split
    · assumption
    · rename_i hrunning
      simp only [isAvailable, decide_eq_true_eq, not_not] at hrunning
      apply ih
      have hless : ctx.runningSet.filter (rsvId + 1 ≤ ·) ⊂ ctx.runningSet.filter (rsvId ≤ ·) := by
        refine Finset.ssubset_iff_of_subset ?_ |>.mpr ⟨rsvId, ?_, ?_⟩
        · intro id hmem
          rw [Finset.mem_filter] at hmem ⊢
          exact ⟨hmem.1, by omega⟩
        · exact Finset.mem_filter.mpr ⟨hrunning, Nat.le_refl rsvId⟩
        · simp
      have := Finset.card_lt_card hless
      omega

/-- A new reservation ID is not reserved yet. -/
theorem getReservationId_notMem (ctx : CommandActionContext) :
    ctx.getReservationId ∉ ctx.reservedSet := by
  unfold getReservationId
  split
  · rename_i hempty
    rw [hempty]
    simp
  · intro hmem
    have hlast := Finset.le_sup (f := id) hmem
    have hnext := ctx.le_nextAvailable ctx.runningSet.card (ctx.reservedSet.sup id + 1)
    rw [id] at hlast
    omega

theorem card_insert_reservation (ctx : CommandActionContext) :
    (insert ctx.getReservationId ctx.reservedSet).card = ctx.reservedSet.card + 1 :=
  Finset.card_insert_of_notMem ctx.getReservationId_notMem

end CommandActionContext

namespace CommandActivity

/-- The reservation that a thread holds. -/
def reservationId : CommandActivity → Option Nat
  | reserved reservationId _ => some reservationId
  | spawned reservationId _ => some reservationId
  | spawnFailed reservationId => some reservationId
  | running _ => none
  | removed _ => none

/-- The log ID of an action that is to run or runs. -/
def logId : CommandActivity → Option Nat
  | reserved _ waitCmdInfo => waitCmdInfo
  | spawned _ logId => some logId
  | spawnFailed _ => none
  | running logId => some logId
  | removed _ => none

end CommandActivity

/-- The log IDs of the actions that run, are to run, or wait. -/
def CommandSystem.logIds (s : CommandSystem) : List Nat :=
  s.activities.filterMap CommandActivity.logId ++ s.ctx.waitingList

/-- What ties the containers of the context to the threads. -/
structure CommandsSound (numActorLimit : Nat) (s : CommandSystem) : Prop where
  reservations : (s.activities.filterMap CommandActivity.reservationId).Nodup
  reserved : ∀ reservationId, reservationId ∈ s.ctx.reservedSet ↔
    reservationId ∈ s.activities.filterMap CommandActivity.reservationId
  logIds : s.logIds.Nodup
  numbered : ∀ logId ∈ s.logIds, logId < s.nextLogId
  running : ∀ logId, logId ∈ s.ctx.runningSet ↔ .running logId ∈ s.activities
  limit : s.ctx.getNumberOfOnstageCommandActors ≤ numActorLimit

namespace CommandsSound

variable {numActorLimit : Nat} {s : CommandSystem}

theorem init (numActorLimit nextLogId : Nat) :
    CommandsSound numActorLimit (CommandSystem.init nextLogId) := by
  constructor <;>
    simp [CommandSystem.init, CommandActionContext.empty, CommandSystem.logIds,
      CommandActionContext.getNumberOfOnstageCommandActors]

/-- The order of the threads is of no concern. -/
theorem perm (h : CommandsSound numActorLimit s) {activities : List CommandActivity}
    (hperm : s.activities.Perm activities) :
    CommandsSound numActorLimit { s with activities := activities } := by
  have hreservations := hperm.filterMap CommandActivity.reservationId
  have hlogIds := (hperm.filterMap CommandActivity.logId).append_right s.ctx.waitingList
  constructor
  · exact hreservations.nodup_iff.mp h.reservations
  · intro reservationId
    rw [h.reserved]
    exact hreservations.mem_iff
  · exact hlogIds.nodup_iff.mp h.logIds
  · intro logId hmem
    exact h.numbered logId (hlogIds.mem_iff.mpr hmem)
  · intro logId
    rw [h.running]
    exact hperm.mem_iff
  · exact h.limit

variable {ctx : CommandActionContext} {nextLogId : Nat} {rest : List CommandActivity}

/-- A reservation is made, for an action that gets its log ID later or has waited. -/
theorem reserve (h : CommandsSound numActorLimit ⟨ctx, nextLogId, rest⟩)
    (hplace : ctx.isFullHouse numActorLimit = false) (waitCmdInfo : Option Nat)
    {waitingList : List Nat} (hwaiting : ctx.waitingList = waitCmdInfo.toList ++ waitingList) :
    CommandsSound numActorLimit
      ⟨{ ctx with reservedSet := insert ctx.getReservationId ctx.reservedSet, waitingList },
        nextLogId, .reserved ctx.getReservationId waitCmdInfo :: rest⟩ := by
  have hnew := ctx.getReservationId_notMem
  have hlogIds : CommandSystem.logIds
      ⟨{ ctx with reservedSet := insert ctx.getReservationId ctx.reservedSet, waitingList },
        nextLogId, .reserved ctx.getReservationId waitCmdInfo :: rest⟩ |>.Perm
      (CommandSystem.logIds ⟨ctx, nextLogId, rest⟩) := by
    unfold CommandSystem.logIds
    rw [hwaiting]
    cases waitCmdInfo with
    | none => exact List.Perm.refl _
    | some waiting => exact List.perm_middle.symm
  constructor
  · show (ctx.getReservationId :: rest.filterMap CommandActivity.reservationId).Nodup
    rw [List.nodup_cons, ← h.reserved]
    exact ⟨hnew, h.reservations⟩
  · intro reservationId
    show reservationId ∈ insert ctx.getReservationId ctx.reservedSet ↔
      reservationId ∈ ctx.getReservationId :: rest.filterMap CommandActivity.reservationId
    rw [List.mem_cons, Finset.mem_insert, h.reserved]
  · exact hlogIds.nodup_iff.mpr h.logIds
  · intro logId hmem
    exact h.numbered logId (hlogIds.mem_iff.mp hmem)
  · intro logId
    rw [h.running]
    simp
  · rw [CommandActionContext.isFullHouse, decide_eq_false_iff_not,
      CommandActionContext.getNumberOfOnstageCommandActors] at hplace
    show ctx.runningSet.card + (insert ctx.getReservationId ctx.reservedSet).card ≤ numActorLimit
    rw [ctx.card_insert_reservation]
    omega

theorem wait (h : CommandsSound numActorLimit ⟨ctx, nextLogId, rest⟩) :
    CommandsSound numActorLimit
      ⟨ctx.insertToWaitingCommandActionList nextLogId, nextLogId + 1, rest⟩ := by
  have hlogIds : CommandSystem.logIds
      ⟨ctx.insertToWaitingCommandActionList nextLogId, nextLogId + 1, rest⟩ =
      CommandSystem.logIds ⟨ctx, nextLogId, rest⟩ ++ [nextLogId] := by
    simp [CommandSystem.logIds, CommandActionContext.insertToWaitingCommandActionList]
  constructor
  · exact h.reservations
  · exact h.reserved
  · rw [hlogIds, List.nodup_append']
    refine ⟨h.logIds, List.nodup_singleton _, ?_⟩
    rw [List.disjoint_singleton]
    intro hmem
    exact absurd (h.numbered nextLogId hmem) (Nat.lt_irrefl nextLogId)
  · intro logId hmem
    rw [hlogIds, List.mem_append, List.mem_singleton] at hmem
    rcases hmem with hmem | rfl
    · have := h.numbered logId hmem
      exact Nat.lt_succ_of_lt this
    · exact Nat.lt_succ_self logId
  · exact h.running
  · exact h.limit

/-- A spawn succeeds or fails. The action gets its log ID here unless it has waited. -/
theorem spawn {reservationId : Nat} {waitCmdInfo : Option Nat}
    (h : CommandsSound numActorLimit ⟨ctx, nextLogId, .reserved reservationId waitCmdInfo :: rest⟩)
    (succeeded : Bool) :
    CommandsSound numActorLimit ⟨ctx, if waitCmdInfo.isSome then nextLogId else nextLogId + 1,
      (if succeeded then .spawned reservationId (waitCmdInfo.getD nextLogId)
        else .spawnFailed reservationId) :: rest⟩ := by
  have hreservation : (if succeeded then
      CommandActivity.spawned reservationId (waitCmdInfo.getD nextLogId)
        else .spawnFailed reservationId).reservationId = some reservationId := by
    cases succeeded <;> rfl
  have hnext : nextLogId ≤ if waitCmdInfo.isSome then nextLogId else nextLogId + 1 := by
    split <;> omega
  have hreservations := h.reservations
  have hreserved := h.reserved
  have hlogIds := h.logIds
  have hnumbered := h.numbered
  simp only [CommandSystem.logIds, List.filterMap_cons] at hlogIds hnumbered
  constructor
  · simp only [List.filterMap_cons, hreservation]
    exact hreservations
  · simp only [List.filterMap_cons, hreservation]
    exact hreserved
  · unfold CommandSystem.logIds
    cases succeeded <;> cases waitCmdInfo
    · exact hlogIds
    · exact hlogIds.of_cons
    · show (nextLogId :: (rest.filterMap CommandActivity.logId ++ ctx.waitingList)).Nodup
      rw [List.nodup_cons]
      refine ⟨?_, hlogIds⟩
      intro hmem
      exact absurd (hnumbered nextLogId hmem) (Nat.lt_irrefl nextLogId)
    · exact hlogIds
  · intro logId hmem
    unfold CommandSystem.logIds at hmem
    cases succeeded <;> cases waitCmdInfo
    · exact Nat.lt_succ_of_lt (hnumbered logId hmem)
    · exact hnumbered logId (List.mem_cons_of_mem _ hmem)
    · rcases List.mem_cons.mp hmem with rfl | hmem
      · exact Nat.lt_succ_self logId
      · exact Nat.lt_succ_of_lt (hnumbered logId hmem)
    · exact hnumbered logId hmem
  · intro logId
    rw [h.running]
    cases succeeded <;> simp
  · exact h.limit

theorem removeReservationId {activity : CommandActivity} {reservationId : Nat}
    (h : CommandsSound numActorLimit ⟨ctx, nextLogId, activity :: rest⟩)
    (hreservation : activity.reservationId = some reservationId) :
    ctx.removeReservationId reservationId =
        .ok { ctx with reservedSet := ctx.reservedSet.erase reservationId } ∧
      (ctx.reservedSet.erase reservationId).card + 1 = ctx.reservedSet.card ∧
      (rest.filterMap CommandActivity.reservationId).Nodup ∧
      ∀ reservationId', reservationId' ∈ ctx.reservedSet.erase reservationId ↔
        reservationId' ∈ rest.filterMap CommandActivity.reservationId := by
  have hreservations := h.reservations
  have hreserved := h.reserved
  simp only [List.filterMap_cons, hreservation, List.nodup_cons] at hreservations
  simp only [List.filterMap_cons, hreservation, List.mem_cons] at hreserved
  have hmem : reservationId ∈ ctx.reservedSet := (hreserved reservationId).mpr (Or.inl rfl)
  refine ⟨?_, Finset.card_erase_add_one hmem, hreservations.2, ?_⟩
  · rw [CommandActionContext.removeReservationId, if_pos hmem]
    rfl
  · intro reservationId'
    rw [Finset.mem_erase, hreserved]
    constructor
    · rintro ⟨hne, rfl | hrest⟩
      · exact absurd rfl hne
      · exact hrest
    · intro hrest
      refine ⟨?_, Or.inr hrest⟩
      rintro rfl
      exact hreservations.1 hrest

theorem cancel {reservationId : Nat}
    (h : CommandsSound numActorLimit ⟨ctx, nextLogId, .spawnFailed reservationId :: rest⟩) :
    ∃ ctx', ctx.cancel reservationId = .ok ctx' ∧ ctx'.waitingList = ctx.waitingList ∧
      CommandsSound numActorLimit ⟨ctx', nextLogId, rest⟩ := by
  obtain ⟨hremove, hcard, hnodup, hmem⟩ := h.removeReservationId rfl
  refine ⟨_, hremove, rfl, hnodup, hmem, h.logIds, h.numbered, ?_, ?_⟩
  · intro logId
    rw [h.running]
    simp
  · have hlimit : ctx.runningSet.card + ctx.reservedSet.card ≤ numActorLimit := h.limit
    show ctx.runningSet.card + (ctx.reservedSet.erase reservationId).card ≤ numActorLimit
    omega

theorem add {reservationId logId : Nat}
    (h : CommandsSound numActorLimit ⟨ctx, nextLogId, .spawned reservationId logId :: rest⟩) :
    ∃ ctx', ctx.add reservationId logId = .ok ctx' ∧ ctx'.waitingList = ctx.waitingList ∧
      CommandsSound numActorLimit ⟨ctx', nextLogId, .running logId :: rest⟩ := by
  obtain ⟨hremove, hcard, hnodup, hmem⟩ := h.removeReservationId rfl
  have hnew : logId ∉ ctx.runningSet := by
    intro hrunning
    have hthere : .running logId ∈ rest := by
      have := (h.running logId).mp hrunning
      simpa using this
    have hlogIds := h.logIds
    have hagain : logId ∈ rest.filterMap CommandActivity.logId ++ ctx.waitingList :=
      List.mem_append_left _ (List.mem_filterMap.mpr ⟨_, hthere, rfl⟩)
    exact (List.nodup_cons.mp hlogIds).1 hagain
  refine ⟨{ ctx with
    runningSet := insert logId ctx.runningSet
    reservedSet := ctx.reservedSet.erase reservationId }, ?_, rfl, hnodup, hmem, h.logIds,
    h.numbered, ?_, ?_⟩
  · rw [CommandActionContext.add, hremove]
    exact if_neg hnew
  · intro logId'
    show logId' ∈ insert logId ctx.runningSet ↔ CommandActivity.running logId' ∈ .running logId :: rest
    rw [Finset.mem_insert, h.running]
    simp
  · have hlimit : ctx.runningSet.card + ctx.reservedSet.card ≤ numActorLimit := h.limit
    show (insert logId ctx.runningSet).card + (ctx.reservedSet.erase reservationId).card ≤
      numActorLimit
    rw [Finset.card_insert_of_notMem hnew]
    omega

theorem remove {logId : Nat}
    (h : CommandsSound numActorLimit ⟨ctx, nextLogId, .running logId :: rest⟩) :
    ∃ ctx', ctx.remove logId = .ok ctx' ∧ ctx'.waitingList = ctx.waitingList ∧
      CommandsSound numActorLimit ⟨ctx', nextLogId, .removed logId :: rest⟩ := by
  have hmem : logId ∈ ctx.runningSet := (h.running logId).mpr List.mem_cons_self
  have honce : logId ∉ rest.filterMap CommandActivity.logId ++ ctx.waitingList :=
    (List.nodup_cons.mp h.logIds).1
  refine ⟨_, if_pos hmem, rfl, h.reservations, h.reserved, (List.nodup_cons.mp h.logIds).2, ?_, ?_,
    ?_⟩
  · intro logId' hmem'
    exact h.numbered logId' (List.mem_cons_of_mem _ hmem')
  · intro logId'
    show logId' ∈ ctx.runningSet.erase logId ↔ CommandActivity.running logId' ∈ .removed logId :: rest
    rw [Finset.mem_erase, h.running]
    constructor
    · rintro ⟨hne, hrunning⟩
      rcases List.mem_cons.mp hrunning with heq | hrest
      · exact absurd (CommandActivity.running.inj heq) hne
      · exact List.mem_cons_of_mem _ hrest
    · intro hrunning
      have hrest : .running logId' ∈ rest := by simpa using hrunning
      refine ⟨?_, List.mem_cons_of_mem _ hrest⟩
      rintro rfl
      exact honce (List.mem_append_left _ (List.mem_filterMap.mpr ⟨_, hrest, rfl⟩))
  · have hlimit : ctx.runningSet.card + ctx.reservedSet.card ≤ numActorLimit := h.limit
    have hcard := Finset.card_erase_add_one hmem
    show (ctx.runningSet.erase logId).card + ctx.reservedSet.card ≤ numActorLimit
    omega

/-- The activity of a thread that is at its end is forgotten. -/
theorem forget {logId : Nat}
    (h : CommandsSound numActorLimit ⟨ctx, nextLogId, .removed logId :: rest⟩) :
    CommandsSound numActorLimit ⟨ctx, nextLogId, rest⟩ := by
  refine ⟨h.reservations, h.reserved, h.logIds, h.numbered, ?_, h.limit⟩
  intro logId'
  rw [h.running]
  simp

/-- If there is no place left, some thread has to do with an action. -/
theorem activities_ne_nil (h : CommandsSound numActorLimit s) (hlimit : 1 ≤ numActorLimit)
    (hfull : s.ctx.isFullHouse numActorLimit = true) : s.activities ≠ [] := by
  intro hnil
  rw [CommandActionContext.isFullHouse, decide_eq_true_eq,
    CommandActionContext.getNumberOfOnstageCommandActors] at hfull
  have hrunning : s.ctx.runningSet = ∅ := by
    apply Finset.eq_empty_of_forall_notMem
    intro logId hmem
    rw [h.running, hnil] at hmem
    cases hmem
  have hreserved : s.ctx.reservedSet = ∅ := by
    apply Finset.eq_empty_of_forall_notMem
    intro reservationId hmem
    rw [h.reserved, hnil] at hmem
    cases hmem
  rw [hrunning, hreserved] at hfull
  simp at hfull
  omega

end CommandsSound

/-- An action that waits is waited for. -/
def CommandSystem.Attended (s : CommandSystem) : Prop :=
  s.ctx.waitingList ≠ [] → s.activities ≠ []

/-- If the spawn of an action fails while others wait, another one is on stage. -/
def CommandSystem.OneLeft (s : CommandSystem) : CommandEvent → Prop
  | .execCommandAction => True
  | .proceed activity _ => ∀ reservationId, activity = .spawnFailed reservationId →
      activity ∈ s.activities → s.ctx.waitingList ≠ [] → s.activities.erase activity ≠ []

namespace CommandsSound

variable {numActorLimit : Nat} {s : CommandSystem} {ctx : CommandActionContext} {nextLogId : Nat}
  {rest : List CommandActivity}

/-- What a thread does with its action. Only a failed spawn may leave the waiting ones alone. -/
theorem proceed {activity : CommandActivity}
    (h : CommandsSound numActorLimit ⟨ctx, nextLogId, activity :: rest⟩) (succeeded : Bool) :
    ∃ s', CommandSystem.proceed numActorLimit ⟨ctx, nextLogId, rest⟩ succeeded activity = .ok s' ∧
      CommandsSound numActorLimit s' ∧
      (1 ≤ numActorLimit → (∀ reservationId, activity = .spawnFailed reservationId →
        ctx.waitingList ≠ [] → rest ≠ []) → s'.Attended) := by
  cases activity with
  | reserved reservationId waitCmdInfo =>
    exact ⟨_, rfl, h.spawn succeeded, fun _ _ _ => List.cons_ne_nil _ _⟩
  | spawned reservationId logId =>
    obtain ⟨ctx', hadd, -, hsound⟩ := h.add
    refine ⟨_, ?_, hsound, fun _ _ _ => List.cons_ne_nil _ _⟩
    rw [CommandSystem.proceed, hadd]
    rfl
  | spawnFailed reservationId =>
    obtain ⟨ctx', hcancel, hwaiting, hsound⟩ := h.cancel
    refine ⟨⟨ctx', nextLogId, rest⟩, ?_, hsound, ?_⟩
    · rw [CommandSystem.proceed, hcancel]
      rfl
    · intro _ hleft hne
      rw [hwaiting] at hne
      exact hleft reservationId rfl hne
  | running logId =>
    obtain ⟨ctx', hremove, -, hsound⟩ := h.remove
    refine ⟨_, ?_, hsound, fun _ _ _ => List.cons_ne_nil _ _⟩
    rw [CommandSystem.proceed, hremove]
    rfl
  | removed logId =>
    have hrest := h.forget
    unfold CommandSystem.proceed CommandActionContext.takeWaiting
    cases hwaiting : ctx.waitingList with
    | nil => exact ⟨_, rfl, hrest, fun _ _ hne => absurd hwaiting hne⟩
    | cons waitCmdInfo waitingList =>
      cases hfull : ctx.isFullHouse numActorLimit with
      | true => exact ⟨_, rfl, hrest, fun hlimit _ _ => hrest.activities_ne_nil hlimit hfull⟩
      | false =>
        exact ⟨_, rfl, hrest.reserve hfull (some waitCmdInfo) hwaiting,
          fun _ _ _ => List.cons_ne_nil _ _⟩

theorem execCommandAction (h : CommandsSound numActorLimit s) :
    CommandsSound numActorLimit (s.execCommandAction numActorLimit) ∧
      (1 ≤ numActorLimit → (s.execCommandAction numActorLimit).Attended) := by
  unfold CommandSystem.execCommandAction CommandActionContext.reserve
  cases hfull : s.ctx.isFullHouse numActorLimit with
  | true => exact ⟨h.wait, fun hlimit _ => h.activities_ne_nil hlimit hfull⟩
  | false => exact ⟨h.reserve hfull none rfl, fun _ _ => List.cons_ne_nil _ _⟩

theorem step (h : CommandsSound numActorLimit s) (event : CommandEvent) :
    ∃ s', s.step numActorLimit event = .ok s' ∧ CommandsSound numActorLimit s' ∧
      (1 ≤ numActorLimit → s.Attended → s.OneLeft event → s'.Attended) := by
  cases event with
  | execCommandAction =>
    obtain ⟨hsound, hattended⟩ := h.execCommandAction
    exact ⟨_, rfl, hsound, fun hlimit _ _ => hattended hlimit⟩
  | proceed activity succeeded =>
    unfold CommandSystem.step
    by_cases hmem : activity ∈ s.activities
    · simp only [if_pos hmem]
      obtain ⟨s', hproceed, hsound, hattended⟩ :=
        (h.perm (List.perm_cons_erase hmem)).proceed succeeded
      refine ⟨s', hproceed, hsound, ?_⟩
      intro hlimit _ hleft
      exact hattended hlimit fun reservationId heq => hleft reservationId heq hmem
    · simp only [if_neg hmem]
      exact ⟨s, rfl, h, fun _ hattended _ => hattended⟩

end CommandsSound

/-- In every run the number of command actions on stage stays within the limit, the reservation IDs
    that threads hold are distinct, and no assertion fails. -/
theorem command_actions_within_limit (numActorLimit nextLogId : Nat) (events : List CommandEvent) :
    ∃ s, events.foldlM (CommandSystem.step numActorLimit) (CommandSystem.init nextLogId) = .ok s ∧
      s.ctx.runningSet.card + s.ctx.reservedSet.card ≤ numActorLimit ∧
      (s.activities.filterMap CommandActivity.reservationId).Nodup := by
  obtain ⟨s, hrun, hsound⟩ := foldlM_invariant (CommandsSound numActorLimit)
    (fun s event h => by
      obtain ⟨s', hstep, hsound, -⟩ := h.step event
      exact ⟨s', hstep, hsound⟩)
    events _ (CommandsSound.init numActorLimit nextLogId)
  exact ⟨s, hrun, hsound.limit, hsound.reservations⟩

namespace CommandSystem

/-- No reservation, spawn or collected callback is in progress. -/
def Quiet (s : CommandSystem) : Prop := ∀ activity ∈ s.activities, ∃ logId, activity =
    .running logId

/-- The waiting actions are not stranded. -/
def NotStranded (s : CommandSystem) : Prop :=
  s.Quiet → s.ctx.waitingList ≠ [] → s.ctx.runningSet.Nonempty

end CommandSystem

theorem CommandsSound.notStranded {numActorLimit : Nat} {s : CommandSystem}
    (h : CommandsSound numActorLimit s) (hattended : s.Attended) : s.NotStranded := by
  intro hquiet hwaiting
  obtain ⟨activity, hmem⟩ := List.exists_mem_of_ne_nil _ (hattended hwaiting)
  obtain ⟨logId, rfl⟩ := hquiet activity hmem
  exact ⟨logId, (h.running logId).mpr hmem⟩

/-- The last action on stage whose spawn fails strands those that wait. -/
theorem CommandsSound.oneLeft_of_notStranded {numActorLimit : Nat} {s s' : CommandSystem}
    (h : CommandsSound numActorLimit s) {event : CommandEvent}
    (hstep : s.step numActorLimit event = .ok s') (hstranded : s'.NotStranded) :
    s.OneLeft event := by
  cases event with
  | execCommandAction => trivial
  | proceed activity succeeded =>
    rintro reservationId rfl hmem hwaiting hnil
    obtain ⟨ctx', hcancel, hsame, hsound⟩ := (h.perm (List.perm_cons_erase hmem)).cancel
    rw [CommandSystem.step, if_pos hmem, CommandSystem.proceed, hcancel] at hstep
    obtain rfl := Except.ok.inj hstep
    rw [hnil] at hstranded hsound
    obtain ⟨logId, hrunning⟩ := hstranded (by simp [CommandSystem.Quiet]) (hsame ▸ hwaiting)
    have := (hsound.running logId).mp hrunning
    cases this

/-- Waiting actions are stranded in no state of a run exactly if no spawn fails in it while actions
    wait and no other one is on stage. -/
theorem waiting_not_stranded_iff {numActorLimit : Nat} (hlimit : 1 ≤ numActorLimit)
    (nextLogId : Nat) (events : List CommandEvent) :
    Throughout (CommandSystem.step numActorLimit) (fun _ _ s' => s'.NotStranded)
        (CommandSystem.init nextLogId) events ↔
      Throughout (CommandSystem.step numActorLimit) (fun s event _ => s.OneLeft event)
        (CommandSystem.init nextLogId) events := by
  have hattended (s : CommandSystem) (event : CommandEvent) (s' : CommandSystem)
      (hinv : CommandsSound numActorLimit s ∧ s.Attended)
      (hstep : s.step numActorLimit event = .ok s') (hleft : s.OneLeft event) :
      CommandsSound numActorLimit s' ∧ s'.Attended := by
    obtain ⟨s'', hstep', hsound, hkeep⟩ := hinv.1.step event
    obtain rfl := Except.ok.inj (hstep.symm.trans hstep')
    exact ⟨hsound, hkeep hlimit hinv.2 hleft⟩
  refine throughout_iff (fun s => CommandsSound numActorLimit s ∧ s.Attended) ?_ ?_ events _
    ⟨CommandsSound.init numActorLimit nextLogId, fun hne => absurd rfl hne⟩
  · intro s event s' hinv hstep
    constructor
    · exact hinv.1.oneLeft_of_notStranded hstep
    · intro hleft
      obtain ⟨hsound, hkept⟩ := hattended s event s' hinv hstep hleft
      exact hsound.notStranded hkept
  · intro s event s' hinv hstep hstranded
    exact hattended s event s' hinv hstep (hinv.1.oneLeft_of_notStranded hstep hstranded)

/-- One action is executed and spawned, while another one waits. -/
theorem waiting_not_stranded_spawned :
    1 ≤ 1 ∧ Throughout (CommandSystem.step 1) (fun _ _ s' => s'.NotStranded) (CommandSystem.init 1)
      [.execCommandAction, .execCommandAction, .proceed (.reserved 0 none) true,
        .proceed (.spawned 0 2) true] := by
  refine ⟨Nat.le_refl 1, (waiting_not_stranded_iff (Nat.le_refl 1) 1 _).mpr ?_⟩
  refine ⟨_, rfl, trivial, _, rfl, trivial, _, rfl, ?_, _, rfl, ?_, trivial⟩
  · rintro reservationId ⟨⟩
  · rintro reservationId ⟨⟩

/-- Ten actions have their reservations when an eleventh comes. Then all spawns fail. -/
def failedSpawns : List CommandEvent :=
  List.replicate 11 .execCommandAction ++ (List.range 10).flatMap fun reservationId =>
    [.proceed (.reserved reservationId none) false, .proceed (.spawnFailed reservationId) false]

theorem failed_spawns_strand :
    ¬ ∀ (events : List CommandEvent) (s : CommandSystem),
      events.foldlM (CommandSystem.step 10) (CommandSystem.init 1) = .ok s → s.NotStranded := by
  intro h
  have hrun : failedSpawns.foldlM (CommandSystem.step 10) (CommandSystem.init 1) =
      .ok ⟨⟨[1], ∅, ∅⟩, 12, []⟩ := by rfl
  obtain ⟨logId, hmem⟩ := h failedSpawns _ hrun (by simp [CommandSystem.Quiet]) (by simp)
  simp at hmem

end Hatohol

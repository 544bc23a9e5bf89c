import Hatohol.Monitors.Cascade

/-!
# The status of a monitor

A monitor shows what `update` was called with last, unless `setWorkable` was called with `false`. A call of
`setWorkable` tells its own call of `update` by a flag that it sets without the lock, so this holds where no
other call begins on a monitor between the two settings of the flag, and may fail where one does.
-/

namespace Hatohol

namespace SelfMonitor

open Relation

/-- The status that `update` was called with last (a history has the last entry first). -/
def lastUpdate : List Entry → TriggerStatusType
  | [] => .unknown
  | .update status :: _ => status
  | _ :: history => lastUpdate history

/-- What `setWorkable` was called with last. -/
def lastWorkable : List Entry → Bool
  | [] => true
  | .setWorkable workable :: _ => workable
  | _ :: history => lastWorkable history

/-- The last status other than unknown that was shown. -/
def lastKnown : List Entry → TriggerStatusType
  | [] => .unknown
  | .shown status :: history => if status = .unknown then lastKnown history else status
  | _ :: history => lastKnown history

variable {α : Type}

namespace Monitor

/-- A monitor between two calls. -/
structure Settled (m : Monitor α) : Prop where
  inUpdating : m.inUpdating = false
  inSetWorkableCall : m.inSetWorkableCall = false
  workable : m.workable = lastWorkable m.history
  actualStatus : m.actualStatus = lastUpdate m.history
  status : m.status = m.visibleStatus m.actualStatus
  lastKnownStatus : m.lastKnownStatus = lastKnown m.history

/-- A monitor that a call of `setWorkable` is in progress on. -/
structure Pending (m : Monitor α) (workable : Bool) (phase : Phase) : Prop where
  inUpdating : m.inUpdating = false
  inSetWorkableCall : m.inSetWorkableCall = true
  called : lastWorkable m.history = workable
  workable : phase ≠ .entered → m.workable = workable
  actualStatus : m.actualStatus = lastUpdate m.history
  status : phase = .updated → m.status = m.visibleStatus m.actualStatus
  lastKnownStatus : m.lastKnownStatus = lastKnown m.history

/-- How far a call of `setWorkable` has come on a monitor, if there is one. -/
def At (m : Monitor α) : Option (Bool × Phase) → Prop
  | none => m.Settled
  | some (workable, phase) => m.Pending workable phase

theorem settled_new (listeners : List α) : (Monitor.new listeners).Settled :=
  ⟨rfl, rfl, rfl, rfl, rfl, rfl⟩

variable {m : Monitor α}

/-- What a whole `update` makes of its own monitor, some listeners of which may be erased. -/
def updated (m : Monitor α) (status : TriggerStatusType) (ls : List α) : Monitor α :=
  { (m.beginUpdate status).endUpdate (m.visibleStatus status) with listeners := ls }

theorem Settled.update (h : m.Settled) (status : TriggerStatusType) (ls : List α) :
    ((m.record (.update status)).updated status ls).Settled where
  inUpdating := rfl
  inSetWorkableCall := h.inSetWorkableCall
  workable := h.workable
  actualStatus := by
    simp [updated, beginUpdate, endUpdate, leaveUpdate, h.inSetWorkableCall, record, lastUpdate]
  status := by
    simp [updated, beginUpdate, endUpdate, leaveUpdate, h.inSetWorkableCall, visibleStatus, record]
  lastKnownStatus := by
    have hlast := h.lastKnownStatus
    simp [updated, beginUpdate, endUpdate, leaveUpdate, visibleStatus, record, lastKnown, hlast]

theorem Settled.enter (h : m.Settled) (workable : Bool) :
    (m.enterSetWorkable workable).Pending workable .entered where
  inUpdating := h.inUpdating
  inSetWorkableCall := rfl
  called := rfl
  workable := fun hne => absurd rfl hne
  actualStatus := h.actualStatus
  status := fun heq => absurd heq (by simp)
  lastKnownStatus := h.lastKnownStatus

theorem Pending.flag {workable : Bool} (h : m.Pending workable .entered) :
    (m.setWorkableFlag workable).Pending workable .flagged where
  inUpdating := h.inUpdating
  inSetWorkableCall := h.inSetWorkableCall
  called := h.called
  workable := fun _ => rfl
  actualStatus := h.actualStatus
  status := fun heq => absurd heq (by simp)
  lastKnownStatus := h.lastKnownStatus

/-- The flag of the call keeps `update` from recording the status that `setWorkable` passes to it. -/
theorem Pending.update {workable : Bool} (h : m.Pending workable .flagged) (ls : List α) :
    (m.updated (m.setWorkableStatus workable) ls).Pending workable .updated where
  inUpdating := rfl
  inSetWorkableCall := h.inSetWorkableCall
  called := h.called
  workable := fun _ => h.workable (by simp)
  actualStatus := by
    simp [updated, beginUpdate, endUpdate, leaveUpdate, h.inSetWorkableCall, lastUpdate,
      h.actualStatus]
  status := by
    intro _
    have hworkable := h.workable (by simp)
    simp only [updated, beginUpdate, endUpdate, leaveUpdate, h.inSetWorkableCall, visibleStatus,
      setWorkableStatus, hworkable]
    cases workable <;> rfl
  lastKnownStatus := by
    have hlast := h.lastKnownStatus
    simp [updated, beginUpdate, endUpdate, leaveUpdate, lastKnown, hlast]

theorem Pending.leave {workable : Bool} (h : m.Pending workable .updated) :
    m.leaveSetWorkable.Settled where
  inUpdating := h.inUpdating
  inSetWorkableCall := rfl
  workable := (h.workable (by simp)).trans h.called.symm
  actualStatus := h.actualStatus
  status := h.status rfl
  lastKnownStatus := h.lastKnownStatus

/-- What is said of a monitor that no call is in progress on. -/
structure Law (m : Monitor α) : Prop where
  status : m.status = if lastWorkable m.history then lastUpdate m.history else .unknown
  lastKnownStatus : m.lastKnownStatus = lastKnown m.history
  inUpdating : m.inUpdating = false
  inSetWorkableCall : m.inSetWorkableCall = false

theorem Settled.law (h : m.Settled) : m.Law where
  status := by rw [h.status, visibleStatus, h.workable, h.actualStatus]
  lastKnownStatus := h.lastKnownStatus
  inUpdating := h.inUpdating
  inSetWorkableCall := h.inSetWorkableCall

end Monitor

/-! ## Calls that are passed on -/

section Calls

variable {R : α → α → Prop} {i : α}

/-- A call that begins on settled monitors only is not rejected and leaves them settled. -/
def Tidy (o : Outcome) (s s' : Monitors α) : Prop :=
  (∀ j, (s j).Settled ∨ s' j = s j) → o = .returned ∧ ∀ j, (s' j).Settled ∨ s' j = s j

/-- What the listeners of `i` do in a graph without a cycle. -/
structure Orderly (R : α → α → Prop) (i : α) (o : Outcome) (s s' : Monitors α) : Prop
    extends Notified R i s s' where
  own : s' i = { s i with listeners := (s' i).listeners }
  tidy : (∀ j, j ≠ i → (s j).Settled ∨ s' j = s j) →
    o = .returned ∧ ∀ j, j ≠ i → (s' j).Settled ∨ s' j = s j

theorem Orderly.refl (s : Monitors α) : Orderly R i .returned s s :=
  ⟨Notified.refl s, rfl, fun _ => ⟨rfl, fun _ _ => .inr rfl⟩⟩

theorem Orderly.trans {o : Outcome} {s s' s'' : Monitors α} (h : Orderly R i .returned s s')
    (h' : Orderly R i o s' s'') : Orderly R i o s s'' where
  toNotified := h.toNotified.trans h'.toNotified
  own := by rw [h'.own, h.own]
  tidy := by
    intro hsettled
    obtain ⟨-, hfirst⟩ := h.tidy fun j hj => (hsettled j hj).imp_right fun heq => by
      -- no call begins on `j` in the whole, so none does in its first part
      have hle := (h.kept j hj).callCount
      have hle' := (h'.kept j hj).callCount
      rw [heq] at hle'
      exact (h.kept j hj).uncalled (by omega)
    obtain ⟨ho, hsecond⟩ := h'.tidy fun j hj => by
      obtain hj' | heq := hfirst j hj
      · exact .inl hj'
      · rw [heq]
        exact hsettled j hj
    refine ⟨ho, fun j hj => ?_⟩
    obtain hj' | heq := hsecond j hj
    · exact .inl hj'
    · rw [heq]
      exact hfirst j hj

variable [DecidableEq α]
  {handler : Monitors α → α → α → TriggerStatusType → TriggerStatusType → List Call}
  {alive : α → Bool} {callOn : Monitors α → α → Call → Option (Outcome × Monitors α)}

theorem Orderly.erase (l : α) (s : Monitors α) :
    Orderly R i .returned s (modify s i fun m => { m with listeners := m.listeners.erase l }) where
  toNotified := Notified.erase s l
  own := by rw [modify_self]
  tidy := fun _ => ⟨rfl, fun j hj => .inr (modify_of_ne _ _ hj)⟩

/-- A call on a listener does nothing on `i`, which is not below it. -/
theorem Passed.orderly (hacyclic : ∀ i, ¬TransGen R i i) {l : α} (hl : R l i) {o : Outcome}
    {s s' : Monitors α} (h : Passed R l s s') (htidy : Tidy o s s') : Orderly R i o s s' := by
  have hown : s' i = s i := by
    apply h.outside i
    · rintro rfl
      exact hacyclic i (.single hl)
    · intro hbelow
      exact hacyclic i (hbelow.tail hl)
  refine ⟨h.notified hl, by rw [hown], fun hsettled => ?_⟩
  obtain ⟨ho, hsettled'⟩ := htidy fun j => by
    by_cases hj : j = i
    · exact .inr (hj ▸ hown)
    · exact hsettled j hj
  exact ⟨ho, fun j _ => hsettled' j⟩

/-- `update` of a monitor that is not in `update`, and of which no listener rejects a call. -/
theorem updateBody_tidy (hacyclic : ∀ i, ¬TransGen R i i) {s s' : Monitors α}
    {status : TriggerStatusType} {o : Outcome}
    (hcall : ∀ l s call o s', Within R s → callOn s l call = some (o, s') →
      Passed R l s s' ∧ Tidy o s s')
    (hwithin : Within R s)
    (hruns : updateBody handler alive callOn s i status = some (o, s'))
    (hin : (s i).inUpdating = false) (hsettled : ∀ j, j ≠ i → (s j).Settled ∨ s' j = s j) :
    o = .returned ∧ (∃ ls, s' i = (s i).updated status ls) ∧
      ∀ j, j ≠ i → (s' j).Settled ∨ s' j = s j := by
  obtain ⟨hin', -⟩ | ⟨-, s₁, hloop, hend⟩ := updateBody_cases hruns
  · exact absurd hin' (by simp [hin])
  have horderly : Orderly R i o (modify s i (·.beginUpdate status)) s₁ := by
    refine notifyListeners_effect (Orderly R i) Orderly.refl
      (fun _ _ _ _ => Orderly.trans) (fun _ _ _ hs h => hs.mono h.all_grow) ?_ Orderly.erase
      (hwithin.modify rfl) hloop
    intro l hl s call o s' hs hone
    obtain ⟨hpassed, htidy⟩ := hcall l s call o s' hs hone
    exact hpassed.orderly hacyclic (hwithin i l hl) htidy
  have hafter : ∀ j, j ≠ i → s' j = s₁ j := by
    intro j hj
    obtain ⟨-, rfl⟩ | ⟨-, rfl⟩ := hend <;> exact modify_of_ne _ _ hj
  obtain ⟨ho, hsettled'⟩ := horderly.tidy fun j hj => by
    rw [modify_of_ne _ _ hj, ← hafter j hj]
    exact hsettled j hj
  refine ⟨ho, ?_, fun j hj => ?_⟩
  · obtain ⟨-, rfl⟩ | ⟨hrejected, -⟩ := hend
    · have hown := horderly.own
      rw [modify_self] at hown
      rw [modify_self, hown]
      exact ⟨_, rfl⟩
    · exact absurd (ho.symm.trans hrejected) (by simp)
  · have hj' := hsettled' j hj
    rwa [modify_of_ne _ _ hj, ← hafter j hj] at hj'

theorem perform_tidy (hacyclic : ∀ i, ¬TransGen R i i) {fuel : Nat} {s s' : Monitors α}
    {call : Call} {o : Outcome} (hwithin : Within R s)
    (hruns : perform handler alive fuel s i call = some (o, s')) : Tidy o s s' := by
  induction fuel generalizing s s' i call o with
  | zero => exact absurd hruns (by simp [perform])
  | succ fuel ih =>
    intro hsettled
    have hcall : ∀ l s call o s', Within R s →
        perform handler alive fuel s l call = some (o, s') → Passed R l s s' ∧ Tidy o s s' :=
      fun l s call o s' hs hone => ⟨perform_passed hs hone, ih hs hone⟩
    -- the call itself begins on `i`
    have hi : (s i).Settled := by
      refine (hsettled i).resolve_right fun heq => ?_
      have hcount := (perform_notified (fun _ _ _ _ _ => perform_passed) hwithin hruns).2
      rw [heq] at hcount
      exact absurd hcount (Nat.lt_irrefl _)
    cases call with
    | update status =>
      obtain ⟨ho, ⟨ls, hown⟩, hothers⟩ := updateBody_tidy hacyclic hcall (hwithin.modify rfl) hruns
        (by rw [modify_self]; exact hi.inUpdating)
        (fun j hj => by rw [modify_of_ne _ _ hj]; exact hsettled j)
      refine ⟨ho, fun j => ?_⟩
      by_cases hj : j = i
      · subst hj
        rw [hown, modify_self]
        exact .inl (hi.update status ls)
      · have hj' := hothers j hj
        rwa [modify_of_ne _ _ hj] at hj'
    | setWorkable workable =>
      simp only [perform, Option.map_eq_some_iff, Prod.mk.injEq] at hruns
      obtain ⟨⟨o₁, s₁⟩, hone, rfl, rfl⟩ := hruns
      obtain ⟨ho, ⟨ls, hown⟩, hothers⟩ := updateBody_tidy hacyclic hcall (hwithin.modify rfl) hone
        (by rw [modify_self]; exact hi.inUpdating)
        (fun j hj => by
          have hj' := hsettled j
          rwa [modify_of_ne _ _ hj] at hj' ⊢)
      refine ⟨ho, fun j => ?_⟩
      by_cases hj : j = i
      · subst hj
        dsimp only
        rw [modify_self, hown, modify_self]
        exact .inl ((hi.enter workable).flag.update ls).leave
      · have hj' := hothers j hj
        dsimp only at hj' ⊢
        rw [modify_of_ne _ _ hj] at hj' ⊢
        exact hj'

end Calls

/-! ## Threads -/

section Threads

variable {T : Type} {R : α → α → Prop}

namespace System

/-- A thread is in a call of `setWorkable` on the monitor. -/
def Busy (σ : System α T) (i : α) : Prop :=
  ∃ t workable phase, σ.inProgress t = some (i, workable, phase)

/-- No call, of a thread or of a notification handler, begins in the step on a monitor that a call of
    `setWorkable` is in progress on. -/
def Exclusive (σ σ' : System α T) : Prop :=
  ∀ i, σ.Busy i → (σ'.monitors i).callCount = (σ.monitors i).callCount

structure Lawful (R : α → α → Prop) (σ : System α T) : Prop where
  within : Within R σ.monitors
  settled : ∀ i, ¬σ.Busy i → (σ.monitors i).Settled
  pending : ∀ t i workable phase, σ.inProgress t = some (i, workable, phase) →
    (σ.monitors i).Pending workable phase
  alone : ∀ t t' i q q', σ.inProgress t = some (i, q) → σ.inProgress t' = some (i, q') → t = t'

theorem lawful_new {listeners : α → List α} (hlisteners : ∀ i, ∀ l ∈ listeners i, R l i) :
    (⟨fun i => Monitor.new (listeners i), fun _ => none⟩ : System α T).Lawful R where
  within := hlisteners
  settled := fun i _ => Monitor.settled_new (listeners i)
  pending := fun t i workable phase hphase => absurd hphase (by simp)
  alone := fun t t' i q q' hphase => absurd hphase (by simp)

variable {σ : System α T} {s : Monitors α} {i : α}

/-- What a step of a call on `i` leaves of the other monitors. -/
structure Leaves (σ : System α T) (i : α) (s : Monitors α) : Prop where
  settled : ∀ j, j ≠ i → ¬σ.Busy j → (s j).Settled
  busy : ∀ j, j ≠ i → σ.Busy j → s j = σ.monitors j

/-- A monitor that a step begins no call on where a call of `setWorkable` is in progress is settled or is
    left as it was. -/
theorem Lawful.settled_or_eq (h : σ.Lawful R) {j : α} {m : Monitor α}
    (hexclusive : σ.Busy j → m.callCount = (σ.monitors j).callCount)
    (hkept : Kept (σ.monitors j) m) : (σ.monitors j).Settled ∨ m = σ.monitors j := by
  by_cases hbusy : σ.Busy j
  · exact .inr (hkept.uncalled (hexclusive hbusy))
  · exact .inl (h.settled j hbusy)

theorem Lawful.leaves_modify [DecidableEq α] (h : σ.Lawful R) (f : Monitor α → Monitor α) :
    σ.Leaves i (modify σ.monitors i f) where
  settled := by
    intro j hj hidle
    rw [modify_of_ne _ _ hj]
    exact h.settled j hidle
  busy := fun j hj _ => modify_of_ne _ _ hj

section Update

variable [DecidableEq α]
  {handler : Monitors α → α → α → TriggerStatusType → TriggerStatusType → List Call}
  {alive : α → Bool}

theorem Lawful.update (h : σ.Lawful R) (hacyclic : ∀ i, ¬TransGen R i i) {status : TriggerStatusType}
    {fuel : Nat} {outcome : Outcome}
    (hruns : perform handler alive fuel σ.monitors i (.update status) = some (outcome, s))
    (hexclusive : σ.Exclusive { σ with monitors := s }) :
    ({ σ with monitors := s } : System α T).Lawful R := by
  have hpassed := perform_passed h.within hruns
  obtain ⟨-, hsettled⟩ := perform_tidy hacyclic h.within hruns
    fun j => h.settled_or_eq (hexclusive j) (hpassed.kept j)
  refine ⟨h.within.mono fun j => (hpassed.kept j).toGrows, ?_, ?_, h.alone⟩
  · intro j hidle
    obtain hj | heq := hsettled j
    · exact hj
    · have hj := h.settled j hidle
      rwa [← heq] at hj
  · intro t j workable phase hphase
    have hsame : s j = σ.monitors j :=
      (hpassed.kept j).uncalled (hexclusive j ⟨t, workable, phase, hphase⟩)
    have hj := h.pending t j workable phase hphase
    rwa [← hsame] at hj

/-- The call of `update` in a call of `setWorkable`. -/
theorem Lawful.update_pending (h : σ.Lawful R) (hacyclic : ∀ i, ¬TransGen R i i) {workable : Bool}
    {fuel : Nat} {outcome : Outcome} (hpending : (σ.monitors i).Pending workable .flagged)
    (hruns : updateBody handler alive (perform handler alive fuel) σ.monitors i
      ((σ.monitors i).setWorkableStatus workable) = some (outcome, s))
    (hexclusive : ∀ j, j ≠ i → σ.Busy j → (s j).callCount = (σ.monitors j).callCount) :
    outcome = .returned ∧ Within R s ∧ σ.Leaves i s ∧ (s i).Pending workable .updated := by
  have hnotified := updateBody_notified (fun _ _ _ _ _ => perform_passed) h.within hruns
  obtain ⟨ho, ⟨ls, hown⟩, hsettled⟩ := updateBody_tidy hacyclic
    (fun l s call o s' hs hone => ⟨perform_passed hs hone, perform_tidy hacyclic hs hone⟩)
    h.within hruns hpending.inUpdating
    fun j hj => h.settled_or_eq (hexclusive j hj) (hnotified.kept j hj)
  refine ⟨ho, h.within.mono hnotified.all_grow, ⟨?_, ?_⟩, ?_⟩
  · intro j hj hidle
    obtain hj' | heq := hsettled j hj
    · exact hj'
    · rw [heq]
      exact h.settled j hidle
  · exact fun j hj hbusy => (hnotified.kept j hj).uncalled (hexclusive j hj hbusy)
  · rw [hown]
    exact hpending.update ls

end Update

variable [DecidableEq T]

/-- A step of the only thread that is in a call on `i`, or that begins one. -/
theorem Lawful.setPhase (h : σ.Lawful R) {t : T} (phase : Option (Bool × Phase))
    (hown : ∀ j q, σ.inProgress t = some (j, q) → j = i)
    (halone : ∀ t' q, σ.inProgress t' = some (i, q) → t' = t)
    (hwithin : Within R s) (hleaves : σ.Leaves i s) (hphase : (s i).At phase) :
    (σ.setPhase t s (phase.map (i, ·))).Lawful R where
  within := hwithin
  settled := by
    intro j hidle
    by_cases hj : j = i
    · subst hj
      cases phase with
      | none => exact hphase
      | some q => exact absurd ⟨t, q.1, q.2, by simp [System.setPhase]⟩ hidle
    · apply hleaves.settled j hj
      rintro ⟨t', workable, q, ht'⟩
      have hne : t' ≠ t := fun heq => hj (hown j _ (heq ▸ ht'))
      exact hidle ⟨t', workable, q, by simp [System.setPhase, hne, ht']⟩
  pending := by
    intro t' j workable q ht'
    by_cases heq : t' = t
    · subst heq
      simp only [System.setPhase, Function.update_self, Option.map_eq_some_iff, Prod.mk.injEq] at ht'
      obtain ⟨q', rfl, rfl, rfl⟩ := ht'
      exact hphase
    · replace ht' : σ.inProgress t' = some (j, workable, q) := by
        simpa [System.setPhase, heq] using ht'
      have hj : j ≠ i := by
        rintro rfl
        exact heq (halone t' _ ht')
      have hsame : s j = σ.monitors j := hleaves.busy j hj ⟨t', workable, q, ht'⟩
      have hpending := h.pending t' j workable q ht'
      rwa [← hsame] at hpending
  alone := by
    -- another thread than `t` is in a call that it was in before, on another monitor than `i`
    have hother : ∀ t' j q, t' ≠ t → (σ.setPhase t s (phase.map (i, ·))).inProgress t' = some (j, q) →
        σ.inProgress t' = some (j, q) ∧ j ≠ i := by
      intro t' j q hne ht'
      replace ht' : σ.inProgress t' = some (j, q) := by simpa [System.setPhase, hne] using ht'
      refine ⟨ht', ?_⟩
      rintro rfl
      exact hne (halone t' _ ht')
    have hself : ∀ j q, (σ.setPhase t s (phase.map (i, ·))).inProgress t = some (j, q) → j = i := by
      intro j q ht
      simp only [System.setPhase, Function.update_self, Option.map_eq_some_iff, Prod.mk.injEq] at ht
      obtain ⟨q', -, rfl, -⟩ := ht
      rfl
    intro t₁ t₂ j q₁ q₂ h₁ h₂
    by_cases heq₁ : t₁ = t <;> by_cases heq₂ : t₂ = t
    · rw [heq₁, heq₂]
    · exact absurd (hself j q₁ (heq₁ ▸ h₁)) (hother t₂ j q₂ heq₂ h₂).2
    · exact absurd (hself j q₂ (heq₂ ▸ h₂)) (hother t₁ j q₁ heq₁ h₁).2
    · exact h.alone t₁ t₂ j q₁ q₂ (hother t₁ j q₁ heq₁ h₁).1 (hother t₂ j q₂ heq₂ h₂).1

/-- A step of the thread that is in a call on `i`. -/
theorem Lawful.proceed (h : σ.Lawful R) {t : T} {q : Bool × Phase}
    (phase : Option (Bool × Phase)) (hcall : σ.inProgress t = some (i, q)) (hwithin : Within R s) (hleaves : σ.Leaves i s)
    (hphase : (s i).At phase) : (σ.setPhase t s (phase.map (i, ·))).Lawful R := by
  refine h.setPhase phase ?_ ?_ hwithin hleaves hphase
  · intro j q' ht
    rw [hcall, Option.some.injEq] at ht
    exact (congrArg Prod.fst ht).symm
  · exact fun t' q' ht' => h.alone t' t i _ _ ht' hcall

variable [DecidableEq α]
  {handler : Monitors α → α → α → TriggerStatusType → TriggerStatusType → List Call}
  {alive : α → Bool}

theorem Lawful.step (h : σ.Lawful R) (hacyclic : ∀ i, ¬TransGen R i i) {σ' : System α T}
    (hstep : Step handler alive σ σ') (hexclusive : σ.Exclusive σ') : σ'.Lawful R := by
  cases hstep with
  | update hidle hruns => exact h.update hacyclic hruns hexclusive
  | @enter t i workable hidle =>
    have hfree : ¬σ.Busy i := by
      intro hbusy
      have hcount := hexclusive i hbusy
      simp [System.setPhase, Monitor.enterSetWorkable, Monitor.record, Monitor.callCount,
        List.countP_cons, Entry.isCall] at hcount
    refine h.setPhase (some (workable, .entered)) ?_ ?_ (h.within.modify rfl)
      (h.leaves_modify _) ?_
    · exact fun j q ht => absurd ht (by simp [hidle])
    · exact fun t' q ht' => absurd ⟨t', q.1, q.2, ht'⟩ hfree
    · rw [modify_self]
      exact (h.settled i hfree).enter workable
  | @flag t i workable hphase =>
    refine h.proceed (some (workable, .flagged)) hphase (h.within.modify rfl)
      (h.leaves_modify _) ?_
    rw [modify_self]
    exact (h.pending t i workable _ hphase).flag
  | @updateReturns t i workable fuel s hphase hruns =>
    obtain ⟨-, hwithin, hleaves, hpending⟩ := h.update_pending hacyclic (h.pending t i _ _ hphase) hruns
      fun j _ => hexclusive j
    exact h.proceed (some (workable, .updated)) hphase hwithin hleaves hpending
  | @updateRejected t i workable fuel s hphase hruns =>
    obtain ⟨hreturned, -⟩ := h.update_pending hacyclic (h.pending t i _ _ hphase) hruns
      fun j hj hbusy => by
        have hcount := hexclusive j hbusy
        dsimp only [System.setPhase] at hcount
        rwa [modify_of_ne _ _ hj] at hcount
    exact absurd hreturned (by simp)
  | @leave t i workable hphase =>
    refine h.proceed none hphase (h.within.modify rfl) (h.leaves_modify _) ?_
    rw [modify_self]
    exact (h.pending t i workable _ hphase).leave

theorem Lawful.run (h : σ.Lawful R) (hacyclic : ∀ i, ¬TransGen R i i) {σ' : System α T}
    (hrun : ReflTransGen (fun σ σ' => Step handler alive σ σ' ∧ σ.Exclusive σ') σ σ') :
    σ'.Lawful R := by
  induction hrun with
  | refl => exact h
  | tail _ hlast ih => exact ih.step hacyclic hlast.1 hlast.2

end System

variable [DecidableEq α] [DecidableEq T]
  (handler : Monitors α → α → α → TriggerStatusType → TriggerStatusType → List Call)
  (alive : α → Bool)

theorem Step.inUpdating {handler alive} {σ σ' : System α T} (hstep : Step handler alive σ σ') (i : α) :
    (σ'.monitors i).inUpdating = (σ.monitors i).inUpdating := by
  have hmodify {f : Monitor α → Monitor α} (s : Monitors α) (j : α)
      (hf : (f (s j)).inUpdating = (s j).inUpdating) :
      (modify s j f i).inUpdating = (s i).inUpdating := by
    by_cases hi : i = j
    · subst hi
      rw [modify_self, hf]
    · rw [modify_of_ne _ _ hi]
  have hbody {fuel s j status o s'} (hruns : updateBody handler alive (perform handler alive fuel) s j
      status = some (o, s')) : (s' i).inUpdating = (s i).inUpdating :=
    ((updateBody_notified (R := fun _ _ => True) (fun _ _ _ _ _ => perform_passed)
      (fun _ _ _ => trivial) hruns).all_grow i).inUpdating
  cases hstep with
  | update _ hruns => exact perform_inUpdating hruns i
  | enter => exact hmodify _ _ rfl
  | flag => exact hmodify _ _ rfl
  | updateReturns _ hruns => exact hbody hruns
  | updateRejected _ hruns => exact (hmodify _ _ rfl).trans (hbody hruns)
  | leave => exact hmodify _ _ rfl

/-- In a run in which no call begins on a monitor while a call of `setWorkable` on it is in progress, the
    law holds for every monitor that is not in such a call. A step, and a call in it, leave
    `inUpdating` as it was, in any run and any graph. -/
theorem status_law (listeners : α → List α)
    (hacyclic : ∀ i, ¬TransGen (fun l i => l ∈ listeners i) i i) :
    (∀ σ : System α T,
      ReflTransGen (fun σ σ' => Step handler alive σ σ' ∧ σ.Exclusive σ')
        ⟨fun i => Monitor.new (listeners i), fun _ => none⟩ σ →
      ∀ i, ¬σ.Busy i → (σ.monitors i).Law) ∧
    (∀ σ σ' : System α T, Step handler alive σ σ' →
      ∀ i, (σ'.monitors i).inUpdating = (σ.monitors i).inUpdating) ∧
    ∀ fuel s s' i call, perform handler alive fuel s i call = some (.rejected, s') →
      ∀ j, (s' j).inUpdating = (s j).inUpdating := by
  refine ⟨fun σ hrun i hidle => ?_, fun σ σ' hstep => hstep.inUpdating,
    fun fuel s s' i call hruns => perform_inUpdating hruns⟩
  have hlawful : σ.Lawful (fun l i => l ∈ listeners i) :=
    (System.lawful_new fun _ _ hl => hl).run hacyclic hrun
  exact (hlawful.settled i hidle).law

/-- An `update` while another thread is in `setWorkable` is not recorded. -/
theorem status_law_update_lost :
    ∃ σ : System Unit Bool,
      ReflTransGen (Step (fun _ _ _ _ _ => []) fun _ => true)
        ⟨fun _ => Monitor.new [], fun _ => none⟩ σ ∧
      (∀ i, ¬σ.Busy i) ∧ lastUpdate (σ.monitors ()).history = .ok ∧
      lastWorkable (σ.monitors ()).history = true ∧ (σ.monitors ()).status = .unknown ∧
      ¬(σ.monitors ()).Law := by
  refine ⟨_, ((((ReflTransGen.refl.tail
    (@Step.enter _ _ _ _ _ _ _ false () true rfl)).tail
    (@Step.update _ _ _ _ _ _ _ true () .ok 1 _ _ rfl rfl)).tail
    (@Step.flag _ _ _ _ _ _ _ false () true rfl)).tail
    (@Step.updateReturns _ _ _ _ _ _ _ false () true 0 _ rfl rfl)).tail
    (@Step.leave _ _ _ _ _ _ _ false () true rfl), ?_, rfl, rfl, rfl, ?_⟩
  · rintro i ⟨t, workable, phase, ht⟩
    cases t <;> exact absurd ht.symm (Option.some_ne_none _)
  · intro h
    have hstatus : TriggerStatusType.unknown = .ok := h.status
    exact absurd hstatus (by decide)

/-- The connection to a server is workable as long as the one to the broker is (as
    HatoholArmPluginGateHAPI2.cc:312-325 has it). -/
theorem status_law_dependent :
    ∃ σ : System Bool Unit,
      ReflTransGen (fun σ σ' =>
          Step (fun _ _ _ _ status => [.setWorkable (status = .ok)]) (fun _ => true) σ σ' ∧
            σ.Exclusive σ')
        ⟨fun i => Monitor.new (if i then [] else [true]), fun _ => none⟩ σ ∧
      lastWorkable (σ.monitors true).history = false ∧ (σ.monitors true).Law := by
  have hedge : ∀ l i : Bool, l ∈ (if i then [] else [true]) → l = true ∧ i = false := by decide
  have hacyclic : ∀ i j : Bool, TransGen (fun l i => l ∈ if i then [] else [true]) i j →
      i = true ∧ j = false := by
    intro i j h
    induction h with
    | single hl => exact hedge i _ hl
    | tail _ hl ih => exact ⟨ih.1, (hedge _ _ hl).2⟩
  have hrun := ReflTransGen.refl.tail (r := fun σ σ' =>
      Step (fun _ _ _ _ status => [.setWorkable (status = .ok)]) (fun _ => true) σ σ' ∧
        σ.Exclusive σ')
    ⟨@Step.update Bool _ Unit _ _ _ ⟨fun i => Monitor.new (if i then [] else [true]), fun _ => none⟩
      () false .problem 2 _ _ rfl rfl, fun i hbusy => absurd hbusy (by simp [System.Busy])⟩
  refine ⟨_, hrun, rfl, ?_⟩
  refine (status_law _ _ (fun i => if i then [] else [true]) ?_).1 _ hrun true ?_
  · intro i hi
    obtain ⟨h, h'⟩ := hacyclic i i hi
    exact absurd (h.symm.trans h') (by simp)
  · simp [System.Busy]

end Threads

end SelfMonitor

end Hatohol

import Hatohol.SelfMonitor
import Mathlib.Logic.Relation
import Mathlib.Data.Set.Card

/-!
# What a call passes on

A call on a monitor is passed on along the relation `R` between a listener and the monitor that it
listens to. Whatever the graph is, a call, rejected or not, leaves `inUpdating` of every monitor as it
was, and a monitor that no call begins on as a whole. In a graph without a cycle a call comes to an end.
-/

namespace Hatohol

namespace SelfMonitor

open Relation

variable {α : Type}

/-- How many calls have begun on a monitor. -/
def Monitor.callCount (m : Monitor α) : Nat := m.history.countP Entry.isCall

/-- What a call, on whichever monitor, leaves of a monitor. -/
structure Grows (m m' : Monitor α) : Prop where
  inUpdating : m'.inUpdating = m.inUpdating
  listeners : m'.listeners ⊆ m.listeners
  callCount : m.callCount ≤ m'.callCount

theorem Grows.refl (m : Monitor α) : Grows m m := ⟨rfl, List.Subset.refl _, Nat.le_refl _⟩

theorem Grows.trans {m m' m'' : Monitor α} (h : Grows m m') (h' : Grows m' m'') : Grows m m'' :=
  ⟨h'.inUpdating.trans h.inUpdating, List.Subset.trans h'.listeners h.listeners,
    Nat.le_trans h.callCount h'.callCount⟩

/-- Only a monitor that a call begins on is changed. -/
structure Kept (m m' : Monitor α) : Prop extends Grows m m' where
  uncalled : m'.callCount = m.callCount → m' = m

theorem Kept.refl (m : Monitor α) : Kept m m := ⟨Grows.refl m, fun _ => rfl⟩

theorem Kept.trans {m m' m'' : Monitor α} (h : Kept m m') (h' : Kept m' m'') : Kept m m'' where
  toGrows := h.toGrows.trans h'.toGrows
  uncalled := by
    intro hcount
    have hle := h.callCount
    have hle' := h'.callCount
    rw [h'.uncalled (by omega), h.uncalled (by omega)]

/-- The listeners are among those of the graph. -/
def Within (R : α → α → Prop) (s : Monitors α) : Prop := ∀ i, ∀ l ∈ (s i).listeners, R l i

theorem Within.mono {R : α → α → Prop} {s s' : Monitors α} (hwithin : Within R s)
    (hgrows : ∀ j, Grows (s j) (s' j)) : Within R s' :=
  fun i l hl => hwithin i l ((hgrows i).listeners hl)

/-- What a call on `i` does. -/
structure Passed (R : α → α → Prop) (i : α) (s s' : Monitors α) : Prop where
  kept : ∀ j, Kept (s j) (s' j)
  outside : ∀ j, j ≠ i → ¬TransGen R j i → s' j = s j

/-- What the listeners of `i` do, and the rest of `update` with them. -/
structure Notified (R : α → α → Prop) (i : α) (s s' : Monitors α) : Prop where
  grows : Grows (s i) (s' i)
  kept : ∀ j, j ≠ i → Kept (s j) (s' j)
  outside : ∀ j, j ≠ i → ¬TransGen R j i → s' j = s j

section Notified

variable {R : α → α → Prop} {i : α}

theorem Notified.refl (s : Monitors α) : Notified R i s s :=
  ⟨Grows.refl _, fun _ _ => Kept.refl _, fun _ _ _ => rfl⟩

theorem Notified.trans {s s' s'' : Monitors α} (h : Notified R i s s') (h' : Notified R i s' s'') :
    Notified R i s s'' where
  grows := h.grows.trans h'.grows
  kept j hj := (h.kept j hj).trans (h'.kept j hj)
  outside j hj hbelow := (h'.outside j hj hbelow).trans (h.outside j hj hbelow)

theorem Notified.all_grow {s s' : Monitors α} (h : Notified R i s s') (j : α) :
    Grows (s j) (s' j) := by
  by_cases hj : j = i
  · subst hj
    exact h.grows
  · exact (h.kept j hj).toGrows

/-- A call on a listener of `i` is part of what the listeners do. -/
theorem Passed.notified {l : α} {s s' : Monitors α} (hl : R l i) (h : Passed R l s s') :
    Notified R i s s' where
  grows := (h.kept i).toGrows
  kept j _ := h.kept j
  outside := by
    intro j _ hbelow
    apply h.outside j
    · rintro rfl
      exact hbelow (.single hl)
    · intro hjl
      exact hbelow (hjl.tail hl)

/-- Statements on `i` before and after what the listeners do. -/
theorem Notified.around {s s₀ s₁ s' : Monitors α} (h : Notified R i s₀ s₁)
    (hbefore : ∀ j, j ≠ i → s₀ j = s j) (hafter : ∀ j, j ≠ i → s' j = s₁ j)
    (hgrows : Grows (s i) (s' i)) : Notified R i s s' where
  grows := hgrows
  kept := by
    intro j hj
    have hkept := h.kept j hj
    rwa [hbefore j hj, ← hafter j hj] at hkept
  outside := by
    intro j hj hbelow
    rw [hafter j hj, h.outside j hj hbelow, hbefore j hj]

theorem Notified.passed {s s' : Monitors α} (h : Notified R i s s')
    (hcount : (s i).callCount < (s' i).callCount) : Passed R i s s' where
  kept := by
    intro j
    by_cases hj : j = i
    · subst hj
      exact ⟨h.grows, fun heq => absurd heq (by omega)⟩
    · exact h.kept j hj
  outside := h.outside

end Notified

/-- How many monitors a call on `i` may be passed on to. -/
noncomputable def reach (R : α → α → Prop) (i : α) : Nat := {j | TransGen R j i}.ncard

theorem reach_lt [Finite α] (hacyclic : ∀ i, ¬TransGen R i i) {l : α} (hl : R l i) :
    reach R l < reach R i := by
  apply Set.ncard_lt_ncard
  · refine ⟨fun j hj => TransGen.tail hj hl, fun hsub => ?_⟩
    exact hacyclic l (hsub (TransGen.single hl))
  · exact Set.toFinite _

/-! ## The loops -/

section Loops

variable {handler : Monitors α → α → α → TriggerStatusType → TriggerStatusType → List Call}
  {alive : α → Bool} {callOn : Monitors α → α → Call → Option (Outcome × Monitors α)}

@[simp] theorem modify_self [DecidableEq α] (s : Monitors α) (i : α) (f : Monitor α → Monitor α) :
    modify s i f i = f (s i) := by
  simp [modify]

theorem modify_of_ne [DecidableEq α] (s : Monitors α) (f : Monitor α → Monitor α) {i j : α} (hj : j ≠ i) :
    modify s i f j = s j := by
  simp [modify, hj]

section Effect

variable {inv : Monitors α → Prop} (effect : Outcome → Monitors α → Monitors α → Prop)
  (hrefl : ∀ s, effect .returned s s)
  (htrans : ∀ o s s' s'', effect .returned s s' → effect o s' s'' → effect o s s'')
  (hinv : ∀ o s s', inv s → effect o s s' → inv s')

include hrefl htrans hinv

theorem callAll_effect {l : α}
    (hcall : ∀ s call o s', inv s → callOn s l call = some (o, s') → effect o s s') :
    ∀ {calls : List Call} {s : Monitors α} {o : Outcome} {s' : Monitors α}, inv s →
      callAll callOn l calls s = some (o, s') → effect o s s' := by
  intro calls
  induction calls with
  | nil =>
    intro s o s' _ hruns
    simp only [callAll, Option.some.injEq, Prod.mk.injEq] at hruns
    obtain ⟨rfl, rfl⟩ := hruns
    exact hrefl s
  | cons call calls ih =>
    intro s o s' hs hruns
    rw [callAll] at hruns
    split at hruns
    · rename_i s₁ hone
      have hone' := hcall s call _ _ hs hone
      exact htrans _ _ _ _ hone' (ih (hinv _ _ _ hs hone') hruns)
    · exact hcall s call o s' hs hruns

/-- What every call on a listener and every erasing of one does, and what is kept by one after the
    other, is done by all of them. -/
theorem notifyListeners_effect [DecidableEq α] {i : α} {prevStatus status : TriggerStatusType} {ls : List α}
    (hcall : ∀ l ∈ ls, ∀ s call o s', inv s → callOn s l call = some (o, s') → effect o s s')
    (herase : ∀ l s, effect .returned s
      (modify s i fun m => { m with listeners := m.listeners.erase l }))
    {s : Monitors α} {o : Outcome} {s' : Monitors α} (hs : inv s)
    (hruns : notifyListeners handler alive callOn i prevStatus status ls s = some (o, s')) :
    effect o s s' := by
  induction ls generalizing s with
  | nil =>
    simp only [notifyListeners, Option.some.injEq, Prod.mk.injEq] at hruns
    obtain ⟨rfl, rfl⟩ := hruns
    exact hrefl s
  | cons l ls ih =>
    have ih {s₁} := @ih (fun l' hl' => hcall l' (List.mem_cons_of_mem _ hl')) s₁
    rw [notifyListeners] at hruns
    split at hruns
    · have hone {o s₁} (hl : callAll callOn l (handler s l i prevStatus status) s = some (o, s₁)) :
          effect o s s₁ := callAll_effect effect hrefl htrans hinv (hcall l List.mem_cons_self) hs hl
      split at hruns
      · rename_i s₁ hl
        exact htrans _ _ _ _ (hone hl) (ih (hinv _ _ _ hs (hone hl)) hruns)
      · exact hone hruns
    · have hone := herase l s
      exact htrans _ _ _ _ hone (ih (hinv _ _ _ hs hone) hruns)

end Effect

theorem callAll_isSome {inv : Monitors α → Prop} {l : α}
    (hcall : ∀ s call, inv s → ∃ o s', callOn s l call = some (o, s') ∧ inv s') :
    ∀ (calls : List Call) (s : Monitors α), inv s →
      ∃ o s', callAll callOn l calls s = some (o, s') ∧ inv s' := by
  intro calls
  induction calls with
  | nil => exact fun s hs => ⟨.returned, s, rfl, hs⟩
  | cons call calls ih =>
    intro s hs
    obtain ⟨o, s₁, hone, hs₁⟩ := hcall s call hs
    rw [callAll, hone]
    cases o with
    | returned => exact ih s₁ hs₁
    | rejected => exact ⟨.rejected, s₁, rfl, hs₁⟩

/-- What `update` does, in the order of its statements. -/
theorem updateBody_cases [DecidableEq α] {s s' : Monitors α} {i : α} {status : TriggerStatusType} {o : Outcome}
    (hruns : updateBody handler alive callOn s i status = some (o, s')) :
    ((s i).inUpdating = true ∧ o = .rejected ∧ s' = s) ∨
    ((s i).inUpdating = false ∧ ∃ s₁,
      notifyListeners handler alive callOn i (s i).status ((s i).visibleStatus status)
        (s i).listeners (modify s i (·.beginUpdate status)) = some (o, s₁) ∧
      ((o = .returned ∧ s' = modify s₁ i (·.endUpdate ((s i).visibleStatus status))) ∨
        (o = .rejected ∧ s' = modify s₁ i Monitor.leaveUpdate))) := by
  unfold updateBody at hruns
  split at hruns
  · rename_i hin
    simp only [Option.some.injEq, Prod.mk.injEq] at hruns
    obtain ⟨rfl, rfl⟩ := hruns
    exact .inl ⟨hin, rfl, rfl⟩
  · rename_i hin
    have hin : (s i).inUpdating = false := by simpa using hin
    dsimp only at hruns
    split at hruns
    · rename_i s₁ hloop
      simp only [Option.some.injEq, Prod.mk.injEq] at hruns
      obtain ⟨rfl, rfl⟩ := hruns
      exact .inr ⟨hin, s₁, hloop, .inl ⟨rfl, rfl⟩⟩
    · rename_i s₁ hloop
      simp only [Option.some.injEq, Prod.mk.injEq] at hruns
      obtain ⟨rfl, rfl⟩ := hruns
      exact .inr ⟨hin, s₁, hloop, .inr ⟨rfl, rfl⟩⟩
    · exact absurd hruns (by simp)

/-! ## Whatever the graph is -/

variable [DecidableEq α] {R : α → α → Prop} {i : α}

/-- A statement on `i` that leaves its listeners. -/
theorem Within.modify {s : Monitors α} (hwithin : Within R s) {f : Monitor α → Monitor α}
    (hf : (f (s i)).listeners = (s i).listeners) : Within R (modify s i f) := by
  intro j l hl
  by_cases hj : j = i
  · subst hj
    exact hwithin j l (by simpa [hf] using hl)
  · exact hwithin j l (by simpa [modify_of_ne _ _ hj] using hl)

theorem Notified.erase (s : Monitors α) (l : α) :
    Notified R i s (modify s i fun m => { m with listeners := m.listeners.erase l }) := by
  refine (Notified.refl s).around (fun _ _ => rfl) (fun j hj => modify_of_ne _ _ hj) ?_
  rw [modify_self]
  exact ⟨rfl, List.erase_subset, Nat.le_refl _⟩

theorem updateBody_notified {s s' : Monitors α} {status : TriggerStatusType} {o : Outcome}
    (hcall : ∀ l s call o s', Within R s → callOn s l call = some (o, s') → Passed R l s s')
    (hwithin : Within R s)
    (hruns : updateBody handler alive callOn s i status = some (o, s')) : Notified R i s s' := by
  obtain ⟨-, -, rfl⟩ | ⟨hin, s₁, hloop, hend⟩ := updateBody_cases hruns
  · exact Notified.refl s'
  have hbegin : Within R (modify s i (·.beginUpdate status)) := hwithin.modify rfl
  have hnotified : Notified R i (modify s i (·.beginUpdate status)) s₁ := by
    refine notifyListeners_effect (fun _ => Notified R i) Notified.refl
      (fun _ _ _ _ => Notified.trans) (fun _ _ _ hs h => hs.mono h.all_grow) ?_ ?_ hbegin hloop
    · intro l hl s call o s' hs hone
      exact (hcall l s call o s' hs hone).notified (hwithin i l hl)
    · exact fun l s => Notified.erase s l
  have hgrows := hnotified.grows
  rw [modify_self] at hgrows
  have hlisteners : (s₁ i).listeners ⊆ (s i).listeners := hgrows.listeners
  have hcount : (s i).callCount ≤ (s₁ i).callCount := by
    simpa [Monitor.beginUpdate, Monitor.callCount, Entry.isCall] using hgrows.callCount
  obtain ⟨-, rfl⟩ | ⟨-, rfl⟩ := hend
  · refine hnotified.around (fun j hj => modify_of_ne _ _ hj) (fun j hj => modify_of_ne _ _ hj) ?_
    rw [modify_self]
    exact ⟨hin.symm, hlisteners, hcount⟩
  · refine hnotified.around (fun j hj => modify_of_ne _ _ hj) (fun j hj => modify_of_ne _ _ hj) ?_
    rw [modify_self]
    exact ⟨hin.symm, hlisteners, hcount⟩

/-- The call itself begins on its monitor. -/
theorem perform_notified {fuel : Nat} {s s' : Monitors α} {call : Call} {o : Outcome}
    (hcall : ∀ l s call o s', Within R s → perform handler alive fuel s l call = some (o, s') →
      Passed R l s s')
    (hwithin : Within R s)
    (hruns : perform handler alive (fuel + 1) s i call = some (o, s')) :
    Notified R i s s' ∧ (s i).callCount < (s' i).callCount := by
  cases call with
  | update status =>
    have hbody := updateBody_notified hcall (hwithin.modify rfl) hruns
    have hgrows := hbody.grows
    rw [modify_self] at hgrows
    have hcount : (s i).callCount + 1 ≤ (s' i).callCount := by
      simpa [Monitor.record, Monitor.callCount, List.countP_cons, Entry.isCall]
        using hgrows.callCount
    exact ⟨hbody.around (fun j hj => modify_of_ne _ _ hj) (fun _ _ => rfl)
      ⟨hgrows.inUpdating, hgrows.listeners, Nat.le_of_succ_le hcount⟩, hcount⟩
  | setWorkable workable =>
    simp only [perform, Option.map_eq_some_iff, Prod.mk.injEq] at hruns
    obtain ⟨⟨o₁, s₁⟩, hone, rfl, rfl⟩ := hruns
    have hbody := updateBody_notified hcall (hwithin.modify rfl) hone
    have hgrows := hbody.grows
    rw [modify_self] at hgrows
    have hcount : (s i).callCount + 1 ≤ (s₁ i).callCount := by
      simpa [Monitor.enterSetWorkable, Monitor.setWorkableFlag, Monitor.record, Monitor.callCount,
        List.countP_cons, Entry.isCall] using hgrows.callCount
    refine ⟨hbody.around (fun j hj => modify_of_ne _ _ hj) (fun j hj => modify_of_ne _ _ hj) ?_, ?_⟩
    · rw [modify_self]
      exact ⟨hgrows.inUpdating, hgrows.listeners, Nat.le_of_succ_le hcount⟩
    · rw [modify_self]
      exact hcount

theorem perform_passed {fuel : Nat} {s s' : Monitors α} {call : Call} {o : Outcome}
    (hwithin : Within R s) (hruns : perform handler alive fuel s i call = some (o, s')) :
    Passed R i s s' := by
  induction fuel generalizing s s' i call o with
  | zero => exact absurd hruns (by simp [perform])
  | succ fuel ih =>
    obtain ⟨hnotified, hcount⟩ := perform_notified (fun l s call o s' => ih) hwithin hruns
    exact hnotified.passed hcount

/-- Whether a call is rejected or not, and whatever the graph is. -/
theorem perform_inUpdating {fuel : Nat} {s s' : Monitors α} {call : Call} {o : Outcome}
    (hruns : perform handler alive fuel s i call = some (o, s')) (j : α) :
    (s' j).inUpdating = (s j).inUpdating :=
  ((perform_passed (R := fun _ _ => True) (fun _ _ _ => trivial) hruns).kept j).inUpdating

/-! ## Calls come to an end -/

theorem notifyListeners_isSome {prevStatus status : TriggerStatusType} {ls : List α}
    (hcall : ∀ l ∈ ls, ∀ s call, Within R s →
      ∃ o s', callOn s l call = some (o, s') ∧ Within R s')
    {s : Monitors α} (hs : Within R s) :
    ∃ o s', notifyListeners handler alive callOn i prevStatus status ls s = some (o, s') := by
  induction ls generalizing s with
  | nil => exact ⟨.returned, s, rfl⟩
  | cons l ls ih =>
    have ih {s₁} := @ih (fun l' hl' => hcall l' (List.mem_cons_of_mem _ hl')) s₁
    rw [notifyListeners]
    split
    · obtain ⟨o, s₁, hone, hs₁⟩ := callAll_isSome (hcall l List.mem_cons_self)
        (handler s l i prevStatus status) s hs
      rw [hone]
      cases o with
      | returned => exact ih hs₁
      | rejected => exact ⟨.rejected, s₁, rfl⟩
    · exact ih (hs.mono (Notified.erase (R := R) s l).all_grow)

theorem updateBody_isSome {s : Monitors α} {status : TriggerStatusType}
    (hcall : ∀ l ∈ (s i).listeners, ∀ s call, Within R s →
      ∃ o s', callOn s l call = some (o, s') ∧ Within R s')
    (hwithin : Within R s) : ∃ o s', updateBody handler alive callOn s i status = some (o, s') := by
  unfold updateBody
  split
  · exact ⟨.rejected, s, rfl⟩
  · obtain ⟨o, s₁, hloop⟩ : ∃ o s₁, notifyListeners handler alive callOn i (s i).status
        ((s i).visibleStatus status) (s i).listeners (modify s i (·.beginUpdate status)) =
          some (o, s₁) :=
      notifyListeners_isSome hcall (hwithin.modify rfl)
    dsimp only
    rw [hloop]
    cases o with
    | returned => exact ⟨.returned, _, rfl⟩
    | rejected => exact ⟨.rejected, _, rfl⟩

/-- A call is passed on no more often than there are monitors below its own. -/
theorem perform_isSome [Finite α] (hacyclic : ∀ i, ¬TransGen R i i) {fuel : Nat}
    (hfuel : reach R i < fuel) {s : Monitors α} (hwithin : Within R s) (call : Call) :
    ∃ o s', perform handler alive fuel s i call = some (o, s') := by
  induction fuel generalizing s i call with
  | zero => omega
  | succ fuel ih =>
    have hcall : ∀ l ∈ (s i).listeners, ∀ s call, Within R s →
        ∃ o s', perform handler alive fuel s l call = some (o, s') ∧ Within R s' := by
      intro l hl s₁ call hs₁
      have hlt := reach_lt hacyclic (hwithin i l hl)
      obtain ⟨o, s', hone⟩ := ih (i := l) (by omega) hs₁ call
      have hkept := (perform_passed hs₁ hone).kept
      exact ⟨o, s', hone, hs₁.mono fun j => (hkept j).toGrows⟩
    cases call with
    | update status =>
      refine updateBody_isSome ?_ (hwithin.modify rfl)
      rw [modify_self]
      exact hcall
    | setWorkable workable =>
      simp only [perform]
      generalize hs₀ : (modify s i fun m =>
        (m.enterSetWorkable workable).setWorkableFlag workable) = s₀
      obtain ⟨o, s₁, hone⟩ : ∃ o s₁, updateBody handler alive (perform handler alive fuel) s₀ i
          ((s₀ i).setWorkableStatus workable) = some (o, s₁) := by
        subst hs₀
        refine updateBody_isSome ?_ (hwithin.modify rfl)
        rw [modify_self]
        exact hcall
      rw [hone]
      exact ⟨o, _, rfl⟩

end Loops

end SelfMonitor

end Hatohol

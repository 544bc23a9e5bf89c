import Hatohol.Monitors.Cascade
import Mathlib.Data.Fintype.Card

/-!
# Circular listening

A call that comes back to a monitor while that is being updated is rejected. Whatever listens to
whatever, a call is therefore passed on no deeper than there are monitors, and it comes to an end;
in a graph without a cycle none is rejected.
-/

namespace Hatohol

namespace SelfMonitor

open Relation

variable {α : Type} [DecidableEq α]
  {handler : Monitors α → α → α → TriggerStatusType → TriggerStatusType → List Call}
  {alive : α → Bool} {callOn : Monitors α → α → Call → Option (Outcome × Monitors α)} {i : α}

/-! ## Calls that end -/

/-- The loop comes to an end if the calls in it do. -/
theorem notifyListeners_ends {inv : Monitors α → Prop} {prevStatus status : TriggerStatusType}
    (hcall : ∀ l s call, inv s → ∃ o s', callOn s l call = some (o, s') ∧ inv s')
    (herase : ∀ l s, inv s → inv (modify s i fun m => { m with listeners := m.listeners.erase l }))
    (ls : List α) : ∀ s : Monitors α, inv s →
      ∃ o s', notifyListeners handler alive callOn i prevStatus status ls s = some (o, s') ∧
        inv s' := by
  induction ls with
  | nil => exact fun s hs => ⟨.returned, s, rfl, hs⟩
  | cons l ls ih =>
    intro s hs
    rw [notifyListeners]
    split
    · obtain ⟨o, s₁, hone, hs₁⟩ := callAll_isSome (hcall l) (handler s l i prevStatus status) s hs
      rw [hone]
      cases o with
      | returned => exact ih s₁ hs₁
      | rejected => exact ⟨.rejected, s₁, rfl, hs₁⟩
    · exact ih _ (herase l s hs)

/-- Which monitors are being updated. -/
def Updating (flags : α → Bool) (s : Monitors α) : Prop := ∀ j, (s j).inUpdating = flags j

theorem Updating.modify {flags : α → Bool} {s : Monitors α} (h : Updating flags s)
    {f : Monitor α → Monitor α} (hf : (f (s i)).inUpdating = (s i).inUpdating) :
    Updating flags (modify s i f) := by
  intro j
  by_cases hj : j = i
  · subst hj
    rw [modify_self, hf]
    exact h j
  · rw [modify_of_ne _ _ hj]
    exact h j

theorem Updating.begin {flags : α → Bool} {s : Monitors α} (h : Updating flags s)
    (status : TriggerStatusType) :
    Updating (Function.update flags i true) (SelfMonitor.modify s i (·.beginUpdate status)) := by
  intro j
  by_cases hj : j = i
  · subst hj
    rw [modify_self, Function.update_self]
    rfl
  · rw [modify_of_ne _ _ hj, Function.update_of_ne hj]
    exact h j

theorem updateBody_ends {flags : α → Bool} {s : Monitors α} {status : TriggerStatusType}
    (hcall : flags i = false → ∀ l s call, Updating (Function.update flags i true) s →
      ∃ o s', callOn s l call = some (o, s') ∧ Updating (Function.update flags i true) s')
    (h : Updating flags s) : ∃ o s', updateBody handler alive callOn s i status = some (o, s') := by
  unfold updateBody
  split
  · exact ⟨.rejected, s, rfl⟩
  next hnot =>
    have hidle : flags i = false := (h i).symm.trans (by simpa using hnot)
    have hends : ∃ o s₁, notifyListeners handler alive callOn i (s i).status
        ((s i).visibleStatus status) (s i).listeners (SelfMonitor.modify s i (·.beginUpdate status)) =
          some (o, s₁) ∧ Updating (Function.update flags i true) s₁ :=
      notifyListeners_ends (hcall hidle) (fun l s hs => hs.modify rfl) _ _ (h.begin status)
    obtain ⟨o, s₁, hloop, -⟩ := hends
    dsimp only
    rw [hloop]
    cases o with
    | returned => exact ⟨.returned, _, rfl⟩
    | rejected => exact ⟨.rejected, _, rfl⟩

/-- A call is passed on no deeper than there are monitors that are not being updated. -/
theorem perform_ends [Fintype α] {fuel : Nat} {flags : α → Bool}
    (hfuel : (Finset.univ.filter fun j => flags j = false).card < fuel) {s : Monitors α}
    (h : Updating flags s) (call : Call) :
    ∃ o s', perform handler alive fuel s i call = some (o, s') := by
  induction fuel generalizing flags s i call with
  | zero => omega
  | succ fuel ih =>
    have hcall : flags i = false → ∀ l s call, Updating (Function.update flags i true) s →
        ∃ o s', perform handler alive fuel s l call = some (o, s') ∧
          Updating (Function.update flags i true) s' := by
      intro hidle l s₁ call hs₁
      have hfewer : (Finset.univ.filter fun j => Function.update flags i true j = false).card <
          (Finset.univ.filter fun j => flags j = false).card := by
        refine Finset.card_lt_card ⟨fun j hj => ?_, fun hsub => ?_⟩
        · rw [Finset.mem_filter] at hj ⊢
          refine ⟨hj.1, ?_⟩
          by_cases hji : j = i
          · rw [hji, Function.update_self] at hj
            exact absurd hj.2 Bool.noConfusion
          · rw [← hj.2, Function.update_of_ne hji]
        · have hi := hsub (Finset.mem_filter.mpr ⟨Finset.mem_univ i, hidle⟩)
          rw [Finset.mem_filter, Function.update_self] at hi
          exact Bool.noConfusion hi.2
      obtain ⟨o, s', hone⟩ := ih (i := l) (by omega) hs₁ call
      exact ⟨o, s', hone, fun j => (perform_inUpdating hone j).trans (hs₁ j)⟩
    cases call with
    | update status => exact updateBody_ends hcall (h.modify rfl)
    | setWorkable workable =>
      have hflags : Updating flags (modify s i fun m =>
          (m.enterSetWorkable workable).setWorkableFlag workable) := h.modify rfl
      obtain ⟨o, s₁, hone⟩ := updateBody_ends hcall hflags
      simp only [perform]
      rw [hone]
      exact ⟨o, _, rfl⟩

/-! ## Calls that are not rejected -/

/-- A monitor and those below it are not being updated. -/
def Idle (R : α → α → Prop) (i : α) (s : Monitors α) : Prop :=
  (s i).inUpdating = false ∧ ∀ j, TransGen R j i → (s j).inUpdating = false

def Ready (R : α → α → Prop) (ls : List α) (s : Monitors α) : Prop :=
  Within R s ∧ ∀ l ∈ ls, Idle R l s

theorem updateBody_returns {R : α → α → Prop} {s s' : Monitors α} {status : TriggerStatusType}
    {o : Outcome} (hacyclic : ∀ i, ¬TransGen R i i)
    (hcall : ∀ l s call o s', Within R s → Idle R l s → callOn s l call = some (o, s') →
      o = .returned ∧ Passed R l s s')
    (hwithin : Within R s) (hidle : Idle R i s)
    (hruns : updateBody handler alive callOn s i status = some (o, s')) : o = .returned := by
  obtain ⟨hin, -⟩ | ⟨-, s₁, hloop, hend⟩ := updateBody_cases hruns
  · rw [hidle.1] at hin
    cases hin
  have hbegin : Within R (modify s i (·.beginUpdate status)) := hwithin.modify rfl
  have hbelow : ∀ l ∈ (s i).listeners, Idle R l (modify s i (·.beginUpdate status)) := by
    intro l hl
    have hli := hwithin i l hl
    have hne {j : α} (hj : TransGen R j i) : j ≠ i := by
      rintro rfl
      exact hacyclic _ hj
    refine ⟨?_, fun j hj => ?_⟩
    · rw [modify_of_ne _ _ (hne (.single hli))]
      exact hidle.2 l (.single hli)
    · rw [modify_of_ne _ _ (hne (hj.tail hli))]
      exact hidle.2 j (hj.tail hli)
  have hreturned : o = .returned := by
    have hready : Ready R (s i).listeners (modify s i (·.beginUpdate status)) := ⟨hbegin, hbelow⟩
    refine (notifyListeners_effect
      (fun o s₀ s₁ => o = .returned ∧ ∀ j, Grows (s₀ j) (s₁ j)) (fun s₀ => ⟨rfl, fun j => Grows.refl _⟩)
      (fun o s₀ s₁ s₂ h h' => ⟨h'.1, fun j => (h.2 j).trans (h'.2 j)⟩) (fun o s₀ s₁ hs h => ?_) ?_ ?_
      hready hloop).1
    · refine ⟨hs.1.mono h.2, fun l hl => ⟨?_, fun j hj => ?_⟩⟩
      · rw [(h.2 l).inUpdating]
        exact (hs.2 l hl).1
      · rw [(h.2 j).inUpdating]
        exact (hs.2 l hl).2 j hj
    · intro l hl s₀ call o s₁ hs hone
      obtain ⟨hret, hpassed⟩ := hcall l s₀ call o s₁ hs.1 (hs.2 l hl) hone
      exact ⟨hret, fun j => (hpassed.kept j).toGrows⟩
    · exact fun l s₀ => ⟨rfl, (Notified.erase (R := R) s₀ l).all_grow⟩
  exact hreturned

theorem perform_returns {R : α → α → Prop} (hacyclic : ∀ i, ¬TransGen R i i) {fuel : Nat}
    {s s' : Monitors α} {call : Call} {o : Outcome} (hwithin : Within R s) (hidle : Idle R i s)
    (hruns : perform handler alive fuel s i call = some (o, s')) : o = .returned := by
  induction fuel generalizing s s' i call o with
  | zero => exact absurd hruns (by simp [perform])
  | succ fuel ih =>
    have hcall : ∀ l s call o s', Within R s → Idle R l s →
        perform handler alive fuel s l call = some (o, s') → o = .returned ∧ Passed R l s s' :=
      fun l s call o s' hw hi hone => ⟨ih hw hi hone, perform_passed hw hone⟩
    have hkept {f : Monitor α → Monitor α} (hf : (f (s i)).inUpdating = (s i).inUpdating) :
        Idle R i (modify s i f) := by
      refine ⟨by rw [modify_self, hf]; exact hidle.1, fun j hj => ?_⟩
      rw [modify_of_ne _ _ (by rintro rfl; exact hacyclic _ hj)]
      exact hidle.2 j hj
    cases call with
    | update status =>
      exact updateBody_returns hacyclic hcall (hwithin.modify rfl) (hkept rfl) hruns
    | setWorkable workable =>
      simp only [perform, Option.map_eq_some_iff, Prod.mk.injEq] at hruns
      obtain ⟨⟨o₁, s₁⟩, hone, rfl, rfl⟩ := hruns
      exact updateBody_returns hacyclic hcall (hwithin.modify rfl) (hkept rfl) hone

/-- Every call ends, whatever the graph and the handlers are, and leaves no monitor in an update
    that was not in one before. If nothing listens to itself, directly or not, none is rejected. -/
theorem circular_listening_rejected [Fintype α]
    (handler : Monitors α → α → α → TriggerStatusType → TriggerStatusType → List Call)
    (alive : α → Bool) (s : Monitors α) (i : α) (call : Call) :
    ∃ o s', perform handler alive (Fintype.card α + 1) s i call = some (o, s') ∧
      (∀ j, (s' j).inUpdating = (s j).inUpdating) ∧
      ((∀ j, ¬TransGen (fun l k => l ∈ (s k).listeners) j j) → (∀ j, (s j).inUpdating = false) →
        o = .returned) := by
  have hupdating : Updating (fun j => (s j).inUpdating) s := fun _ => rfl
  have hends : ∃ o s', perform handler alive (Fintype.card α + 1) s i call = some (o, s') :=
    perform_ends (Nat.lt_succ_of_le (Finset.card_le_univ _)) hupdating call
  obtain ⟨o, s', hruns⟩ := hends
  refine ⟨o, s', hruns, perform_inUpdating hruns, fun hacyclic hidle => ?_⟩
  exact perform_returns hacyclic (fun _ _ hl => hl) ⟨hidle i, fun j _ => hidle j⟩ hruns

end SelfMonitor

end Hatohol

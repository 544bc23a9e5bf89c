import Mathlib.Data.List.Basic

/-!
# Runs of steps that may fail

The threads of a program take their steps in some order. A step is chosen by an input; it leads to
another state, or it fails, and then the program is at its end.
-/

namespace Hatohol.Machine

universe u

variable {σ ι ε : Type u} {step : σ → ι → Except ε σ}

/-- Every step that is taken obeys a condition on the state before it. -/
def Obeys (step : σ → ι → Except ε σ) (C : σ → ι → Prop) : σ → List ι → Prop
  | _, [] => True
  | s, i :: is => C s i ∧ ∀ s', step s i = .ok s' → Obeys step C s' is

theorem Obeys.cons {C : σ → ι → Prop} {s s' : σ} {i : ι} {is : List ι} (hobey : C s i)
    (hstep : step s i = .ok s') (hrest : Obeys step C s' is) : Obeys step C s (i :: is) := by
  refine ⟨hobey, fun s'' hstep' => ?_⟩
  rw [hstep] at hstep'
  obtain rfl := Except.ok.inj hstep'
  exact hrest

/-- What every step keeps that obeys a condition holds after every run that obeys it. -/
theorem foldlM_invariant_of_obeys {C : σ → ι → Prop} (inv : σ → Prop)
    (hstep : ∀ s i, inv s → C s i → ∃ s', step s i = .ok s' ∧ inv s') :
    ∀ (is : List ι) (s : σ), inv s → Obeys step C s is →
      ∃ s', is.foldlM step s = .ok s' ∧ inv s' := by
  intro is
  induction is with
  | nil =>
    intro s hinv _
    exact ⟨s, rfl, hinv⟩
  | cons i is ih =>
    rintro s hinv ⟨hobey, hrest⟩
    obtain ⟨s₁, hfirst, hinv₁⟩ := hstep s i hinv hobey
    obtain ⟨s', hrun, hinv'⟩ := ih s₁ hinv₁ (hrest s₁ hfirst)
    refine ⟨s', ?_, hinv'⟩
    rw [List.foldlM_cons, hfirst]
    exact hrun

theorem obeys_true : ∀ (is : List ι) (s : σ), Obeys step (fun _ _ => True) s is := by
  intro is
  induction is with
  | nil =>
    intro s
    trivial
  | cons i is ih =>
    intro s
    exact ⟨trivial, fun s' _ => ih s'⟩

/-- What every step keeps holds after every run, and no run fails. -/
theorem foldlM_invariant (inv : σ → Prop)
    (hstep : ∀ s i, inv s → ∃ s', step s i = .ok s' ∧ inv s') (is : List ι) (s : σ) (hinv : inv s) :
    ∃ s', is.foldlM step s = .ok s' ∧ inv s' :=
  foldlM_invariant_of_obeys inv (fun s i hinv _ => hstep s i hinv) is s hinv (obeys_true is s)

/-- Every step of a run succeeds and has a property. -/
def Throughout (step : σ → ι → Except ε σ) (C : σ → ι → σ → Prop) : σ → List ι → Prop
  | _, [] => True
  | s, i :: is => ∃ s', step s i = .ok s' ∧ C s i s' ∧ Throughout step C s' is

/-- Two properties of steps that agree where an invariant holds agree on runs. -/
theorem throughout_iff {C D : σ → ι → σ → Prop} (inv : σ → Prop)
    (hagree : ∀ s i s', inv s → step s i = .ok s' → (C s i s' ↔ D s i s'))
    (hkeep : ∀ s i s', inv s → step s i = .ok s' → C s i s' → inv s') :
    ∀ (is : List ι) (s : σ), inv s → (Throughout step C s is ↔ Throughout step D s is) := by
  intro is
  induction is with
  | nil =>
    intro s _
    rfl
  | cons i is ih =>
    intro s hinv
    constructor
    · rintro ⟨s', hs, hC, hrest⟩
      exact ⟨s', hs, (hagree s i s' hinv hs).mp hC, (ih s' (hkeep s i s' hinv hs hC)).mp hrest⟩
    · rintro ⟨s', hs, hD, hrest⟩
      have hC := (hagree s i s' hinv hs).mpr hD
      exact ⟨s', hs, hC, (ih s' (hkeep s i s' hinv hs hC)).mpr hrest⟩

section Total

variable {next : σ → ι → σ} {C : σ → ι → Prop}

/-- Every step of a run meets a condition on the state before it, and no step fails. -/
def Heeds (next : σ → ι → σ) (C : σ → ι → Prop) : σ → List ι → Prop
  | _, [] => True
  | s, i :: is => C s i ∧ Heeds next C (next s i) is

theorem heeds_append : ∀ (is js : List ι) (s : σ),
    Heeds next C s (is ++ js) ↔ Heeds next C s is ∧ Heeds next C (is.foldl next s) js := by
  intro is js
  induction is with
  | nil => exact fun s => (and_iff_right trivial).symm
  | cons i is ih =>
    intro s
    rw [List.cons_append, Heeds, Heeds, ih, List.foldl_cons, and_assoc]

/-- What every step keeps that meets a condition holds after every run that does. -/
theorem foldl_invariant_of_heeds (inv : σ → Prop)
    (hstep : ∀ s i, inv s → C s i → inv (next s i)) :
    ∀ (is : List ι) (s : σ), inv s → Heeds next C s is → inv (is.foldl next s) := by
  intro is
  induction is with
  | nil =>
    intro s hinv _
    exact hinv
  | cons i is ih =>
    rintro s hinv ⟨hfirst, hrest⟩
    exact ih (next s i) (hstep s i hinv hfirst) hrest

/-- Where a condition is exactly what keeps an invariant, a run meets it exactly where the invariant
    holds after every part of the run. -/
theorem heeds_iff (inv : σ → Prop) (hstep : ∀ s i, inv s → (inv (next s i) ↔ C s i)) :
    ∀ (is : List ι) (s : σ), inv s →
      (Heeds next C s is ↔ ∀ before, before <+: is → inv (before.foldl next s)) := by
  intro is
  induction is with
  | nil =>
    intro s hinv
    refine ⟨fun _ before hbefore => ?_, fun _ => trivial⟩
    obtain rfl := List.prefix_nil.mp hbefore
    exact hinv
  | cons i is ih =>
    intro s hinv
    rw [Heeds, ← hstep s i hinv]
    constructor
    · rintro ⟨hfirst, hrest⟩ before hbefore
      cases before with
      | nil => exact hinv
      | cons j before =>
        obtain ⟨rfl, hlater⟩ := List.cons_prefix_cons.mp hbefore
        exact (ih (next s j) hfirst).mp hrest before hlater
    · intro hall
      have hfirst : inv (next s i) := hall [i] (List.cons_prefix_cons.mpr ⟨rfl, List.nil_prefix⟩)
      refine ⟨hfirst, (ih (next s i) hfirst).mpr fun before hbefore => ?_⟩
      exact hall (i :: before) (List.cons_prefix_cons.mpr ⟨rfl, hbefore⟩)

theorem foldl_invariant (inv : σ → Prop) (hstep : ∀ s i, inv s → inv (next s i)) :
    ∀ (is : List ι) (s : σ), inv s → inv (is.foldl next s) := by
  intro is
  induction is with
  | nil =>
    intro s hinv
    exact hinv
  | cons i is ih =>
    intro s hinv
    exact ih (next s i) (hstep s i hinv)

end Total

end Hatohol.Machine

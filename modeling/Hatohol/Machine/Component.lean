import Mathlib.Data.List.Basic

/-!
# Runs of a machine and of its components

A machine takes an input, gives an output and goes to another state, if the call returns at all.
A component of it is a part of the state that only some of the inputs touch, and that these change
as a machine of their own would. What that machine does on its inputs alone is then what the whole
machine does for them, however they are interleaved with the others.
-/

namespace Hatohol.Machine

universe u

/-- What becomes of a call. -/
inductive Outcome (α : Type u) where
  | returned (a : α)
  /-- It waits for a mutex that its own thread holds. -/
  | deadlock
  /-- It reads an object that has been deleted. -/
  | useAfterFree
  deriving DecidableEq, Repr

namespace Outcome

variable {α β : Type u}

def bind : Outcome α → (α → Outcome β) → Outcome β
  | .returned a, f => f a
  | .deadlock, _ => .deadlock
  | .useAfterFree, _ => .useAfterFree

instance : Monad Outcome where
  pure := .returned
  bind := bind

@[simp] theorem pure_eq (a : α) : (pure a : Outcome α) = .returned a := rfl

@[simp] theorem returned_bind (a : α) (f : α → Outcome β) : (.returned a >>= f) = f a := rfl

@[simp] theorem deadlock_bind (f : α → Outcome β) : (.deadlock >>= f) = .deadlock := rfl

end Outcome

section Pure

variable {τ κ ο : Type u}

/-- The state after some inputs. -/
def after (step : τ → κ → ο × τ) : τ → List κ → τ
  | s, [] => s
  | s, i :: is => after step (step s i).2 is

/-- The inputs with their outputs. -/
def trace (step : τ → κ → ο × τ) : τ → List κ → List (κ × ο)
  | _, [] => []
  | s, i :: is => (i, (step s i).1) :: trace step (step s i).2 is

/-- Every step of a trace has a property that speaks of the steps before it. -/
def EachStep (Q : List (κ × ο) → κ × ο → Prop) (t : List (κ × ο)) : Prop :=
  ∀ before x rest, t = before ++ x :: rest → Q before x

theorem EachStep.nil (Q : List (κ × ο) → κ × ο → Prop) : EachStep Q [] := by
  intro before x rest hsplit
  simp at hsplit

theorem EachStep.concat {Q : List (κ × ο) → κ × ο → Prop} {t : List (κ × ο)} {x : κ × ο}
    (heach : EachStep Q t) (hlast : Q t x) : EachStep Q (t ++ [x]) := by
  intro before y rest hsplit
  rcases List.eq_nil_or_concat rest with rfl | ⟨rest, z, rfl⟩
  · obtain rfl := List.append_inj_left' hsplit rfl
    obtain rfl := List.singleton_inj.mp (List.append_inj_right' hsplit rfl)
    exact hlast
  · apply heach before y rest
    have hsplit' : t ++ [x] = (before ++ y :: rest) ++ [z] := by
      rw [hsplit]
      simp
    exact List.append_inj_left' hsplit' rfl

/-- The rule for invariants that speak of the trace so far: each step that meets a condition keeps
    it. -/
theorem trace_invariant (step : τ → κ → ο × τ) {C : τ → κ → Prop}
    (P : List (κ × ο) → τ → Prop)
    (hstep : ∀ t s i, P t s → C s i → P (t ++ [(i, (step s i).1)]) (step s i).2) :
    ∀ (is : List κ) (t : List (κ × ο)) (s : τ), P t s →
      (∀ before i rest, is = before ++ i :: rest → C (after step s before) i) →
      P (t ++ trace step s is) (after step s is) := by
  intro is
  induction is with
  | nil =>
    intro t s hinv _
    rw [trace, List.append_nil]
    exact hinv
  | cons i is ih =>
    intro t s hinv hmeet
    have hfirst := hstep t s i hinv (hmeet [] i is rfl)
    have hrest := ih (t ++ [(i, (step s i).1)]) (step s i).2 hfirst
      (fun before j rest hsplit => hmeet (i :: before) j rest (by rw [hsplit, List.cons_append]))
    rw [List.append_assoc] at hrest
    exact hrest

end Pure

section Runs

variable {σ ι ο τ κ : Type u}

/-- The inputs with their outputs, and the state after them. -/
def run (step : σ → ι → Outcome (ο × σ)) : σ → List ι → Outcome (List (ι × ο) × σ)
  | s, [] => .returned ([], s)
  | s, i :: is => do
      let (o, s) ← step s i
      let (t, s) ← run step s is
      return ((i, o) :: t, s)

/-- Every step of a run returns and has a property. -/
def Always (step : σ → ι → Outcome (ο × σ)) (C : σ → ι → σ → Prop) : σ → List ι → Prop
  | _, [] => True
  | s, i :: is => ∃ o s', step s i = .returned (o, s') ∧ C s i s' ∧ Always step C s' is

/-- Every step that is taken meets a condition on the state before it. -/
def Meets (step : σ → ι → Outcome (ο × σ)) (C : σ → ι → Prop) : σ → List ι → Prop
  | _, [] => True
  | s, i :: is => C s i ∧ ∀ o s', step s i = .returned (o, s') → Meets step C s' is

theorem run_cons_eq_returned {step : σ → ι → Outcome (ο × σ)} {i : ι} {is : List ι} {s s' : σ}
    {t : List (ι × ο)} : run step s (i :: is) = .returned (t, s') ↔
      ∃ o s₁ t', step s i = .returned (o, s₁) ∧ run step s₁ is = .returned (t', s') ∧
        t = (i, o) :: t' := by
  rw [run]
  constructor
  · intro hrun
    rcases hstep : step s i with ⟨o, s₁⟩ | _ | _
    · rw [hstep, Outcome.returned_bind] at hrun
      dsimp only at hrun
      rcases hrest : run step s₁ is with ⟨t', s₂⟩ | _ | _
      · rw [hrest] at hrun
        obtain ⟨rfl, rfl⟩ := Prod.mk.inj (Outcome.returned.inj hrun)
        exact ⟨o, s₁, t', rfl, hrest, rfl⟩
      · rw [hrest] at hrun
        cases hrun
      · rw [hrest] at hrun
        cases hrun
    · rw [hstep] at hrun
      cases hrun
    · rw [hstep] at hrun
      cases hrun
  · rintro ⟨o, s₁, t', hstep, hrest, rfl⟩
    rw [hstep, Outcome.returned_bind]
    dsimp only
    rw [hrest]
    rfl

theorem map_fst_of_run {step : σ → ι → Outcome (ο × σ)} {is : List ι} :
    ∀ {s s' : σ} {t : List (ι × ο)}, run step s is = .returned (t, s') → t.map Prod.fst = is := by
  induction is with
  | nil =>
    rintro s s' t ⟨⟩
    rfl
  | cons i is ih =>
    intro s s' t hrun
    obtain ⟨o, s₁, t', -, hrest, rfl⟩ := run_cons_eq_returned.mp hrun
    rw [List.map_cons, ih hrest]

/-- The rule for invariants that speak of the inputs and outputs so far: each step that meets a
    condition returns and keeps it. -/
theorem run_invariant {step : σ → ι → Outcome (ο × σ)} {C : σ → ι → Prop}
    (P : List (ι × ο) → σ → Prop)
    (hstep : ∀ t s i, P t s → C s i → ∃ o s', step s i = .returned (o, s') ∧ P (t ++ [(i, o)]) s') :
    ∀ (is : List ι) (t : List (ι × ο)) (s : σ), P t s → Meets step C s is →
      ∃ t' s', run step s is = .returned (t', s') ∧ P (t ++ t') s' := by
  intro is
  induction is with
  | nil =>
    intro t s hinv _
    refine ⟨[], s, rfl, ?_⟩
    rw [List.append_nil]
    exact hinv
  | cons i is ih =>
    rintro t s hinv ⟨hfirst, hrest⟩
    obtain ⟨o, s₁, hreturn, hinv₁⟩ := hstep t s i hinv hfirst
    obtain ⟨t', s', hrun, hinv'⟩ := ih (t ++ [(i, o)]) s₁ hinv₁ (hrest o s₁ hreturn)
    refine ⟨(i, o) :: t', s', ?_, ?_⟩
    · simp [run, hreturn, hrun]
    · rw [List.append_assoc] at hinv'
      exact hinv'

/-- The rule where a step may use that the inputs before it and after it are those of the run. -/
theorem run_induction {step : σ → ι → Outcome (ο × σ)} {s₀ : σ} (is : List ι)
    (P : List (ι × ο) → σ → Prop) (hinit : P [] s₀)
    (hstep : ∀ t s i rest, is = t.map Prod.fst ++ i :: rest → P t s →
      ∃ o s', step s i = .returned (o, s') ∧ P (t ++ [(i, o)]) s') :
    ∃ t s', run step s₀ is = .returned (t, s') ∧ P t s' := by
  suffices h : ∀ (rest : List ι) (t : List (ι × ο)) (s : σ), is = t.map Prod.fst ++ rest → P t s →
      ∃ t' s', run step s rest = .returned (t', s') ∧ P (t ++ t') s' from h is [] s₀ rfl hinit
  intro rest
  induction rest with
  | nil =>
    intro t s _ hinv
    refine ⟨[], s, rfl, ?_⟩
    rw [List.append_nil]
    exact hinv
  | cons i rest ih =>
    intro t s hsplit hinv
    obtain ⟨o, s₁, hreturn, hinv₁⟩ := hstep t s i rest hsplit hinv
    obtain ⟨t', s', hrun, hinv'⟩ := ih (t ++ [(i, o)]) s₁ (by simpa using hsplit) hinv₁
    refine ⟨(i, o) :: t', s', ?_, ?_⟩
    · simp [run, hreturn, hrun]
    · rw [List.append_assoc] at hinv'
      exact hinv'

/-- Two properties of steps that agree where an invariant holds agree on runs. -/
theorem always_iff {step : σ → ι → Outcome (ο × σ)} {C D : σ → ι → σ → Prop} (inv : σ → Prop)
    (hagree : ∀ s i o s', inv s → step s i = .returned (o, s') → (C s i s' ↔ D s i s'))
    (hkeep : ∀ s i o s', inv s → step s i = .returned (o, s') → C s i s' → inv s') :
    ∀ (is : List ι) (s : σ), inv s → (Always step C s is ↔ Always step D s is) := by
  intro is
  induction is with
  | nil =>
    intro s _
    rfl
  | cons i is ih =>
    intro s hinv
    constructor
    · rintro ⟨o, s', hs, hC, hrest⟩
      exact ⟨o, s', hs, (hagree s i o s' hinv hs).mp hC,
        (ih s' (hkeep s i o s' hinv hs hC)).mp hrest⟩
    · rintro ⟨o, s', hs, hD, hrest⟩
      have hC := (hagree s i o s' hinv hs).mpr hD
      exact ⟨o, s', hs, hC, (ih s' (hkeep s i o s' hinv hs hC)).mpr hrest⟩

/-- A part of the state that changes with its own inputs only, as a machine of its own. -/
structure Component (step : σ → ι → Outcome (ο × σ)) (part : τ → κ → ο × τ) where
  view : σ → τ
  input : ι → Option κ
  own : ∀ s i k, input i = some k →
    ∃ s', step s i = .returned ((part (view s) k).1, s') ∧ view s' = (part (view s) k).2
  other : ∀ s i, input i = none → ∃ o s', step s i = .returned (o, s') ∧ view s' = view s

variable {step : σ → ι → Outcome (ο × σ)} {part : τ → κ → ο × τ}

/-- What a run shows of a component. -/
def Component.restrict (c : Component step part) (t : List (ι × ο)) : List (κ × ο) :=
  t.filterMap fun x => (c.input x.1).map fun k => (k, x.2)

theorem Component.map_snd_restrict (c : Component step part) {t : List (ι × ο)}
    (hall : ∀ x ∈ t, (c.input x.1).isSome = true) : (c.restrict t).map Prod.snd = t.map Prod.snd :=
      by
  induction t with
  | nil => rfl
  | cons x t ih =>
    obtain ⟨k, hk⟩ := Option.isSome_iff_exists.mp (hall x (by simp))
    rw [Component.restrict, List.filterMap_cons_some (b := (k, x.2)) (by rw [hk]; rfl)]
    rw [List.map_cons, List.map_cons]
    exact congrArg _ (ih fun y hmem => hall y (by simp [hmem]))

theorem Component.run_eq (c : Component step part) (is : List ι) (s : σ) :
    ∃ t s', run step s is = .returned (t, s') ∧
      c.restrict t = trace part (c.view s) (is.filterMap c.input) ∧
      c.view s' = after part (c.view s) (is.filterMap c.input) := by
  induction is generalizing s with
  | nil => exact ⟨[], s, rfl, rfl, rfl⟩
  | cons i is ih =>
    cases hinput : c.input i with
    | none =>
      obtain ⟨o, s₁, hstep, hview⟩ := c.other s i hinput
      obtain ⟨t, s', hrun, htrace, hafter⟩ := ih s₁
      refine ⟨(i, o) :: t, s', ?_, ?_, ?_⟩
      · simp [run, hstep, hrun]
      · rw [Component.restrict, List.filterMap_cons, List.filterMap_cons]
        simp only [hinput, Option.map_none]
        rw [← hview]
        exact htrace
      · rw [List.filterMap_cons]
        simp only [hinput]
        rw [← hview]
        exact hafter
    | some k =>
      obtain ⟨s₁, hstep, hview⟩ := c.own s i k hinput
      obtain ⟨t, s', hrun, htrace, hafter⟩ := ih s₁
      refine ⟨(i, (part (c.view s) k).1) :: t, s', ?_, ?_, ?_⟩
      · simp [run, hstep, hrun]
      · rw [Component.restrict, List.filterMap_cons, List.filterMap_cons]
        simp only [hinput, Option.map_some]
        rw [trace, ← hview]
        exact congrArg _ htrace
      · rw [List.filterMap_cons]
        simp only [hinput]
        rw [after, ← hview]
        exact hafter

/-- A condition on the steps that are a component's own holds of the steps of its machine. -/
theorem Component.always_own (c : Component step part) {C : τ → κ → Prop} :
    ∀ (is : List ι) (s : σ),
      Always step (fun s i _ => ∀ k, c.input i = some k → C (c.view s) k) s is →
      ∀ before k rest, is.filterMap c.input = before ++ k :: rest →
        C (after part (c.view s) before) k := by
  intro is
  induction is with
  | nil =>
    intro s _ before k rest hsplit
    simp at hsplit
  | cons i is ih =>
    rintro s ⟨o, s', hstep, hC, hrest⟩ before k rest hsplit
    cases hinput : c.input i with
    | none =>
      obtain ⟨o', s₁, hstep', hview⟩ := c.other s i hinput
      obtain ⟨-, rfl⟩ := Prod.mk.inj (Outcome.returned.inj (hstep.symm.trans hstep'))
      rw [List.filterMap_cons_none hinput] at hsplit
      rw [← hview]
      exact ih s' hrest before k rest hsplit
    | some k' =>
      obtain ⟨s₁, hstep', hview⟩ := c.own s i k' hinput
      obtain ⟨-, rfl⟩ := Prod.mk.inj (Outcome.returned.inj (hstep.symm.trans hstep'))
      rw [List.filterMap_cons_some hinput] at hsplit
      cases before with
      | nil =>
        obtain ⟨rfl, -⟩ := List.cons.inj hsplit
        exact hC k' hinput
      | cons first before =>
        obtain ⟨rfl, hsplit'⟩ := List.cons.inj hsplit
        rw [after, ← hview]
        exact ih s' hrest before k rest hsplit'

end Runs

end Hatohol.Machine

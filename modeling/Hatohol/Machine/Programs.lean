import Mathlib.Data.List.Perm.Basic

/-!
# What threads have to do

A thread has a list of operations to do, its program. Where operations have weights, the load is what
all programs weigh together. An invariant that counts what the threads are about to do speaks of it.
-/

namespace Hatohol.Machine

universe u

variable {α : Type u} {w : α → Int}

def weight (w : α → Int) : List α → Int
  | [] => 0
  | op :: ops => w op + weight w ops

def load (w : α → Int) : List (List α) → Int
  | [] => 0
  | ops :: programs => weight w ops + load w programs

@[simp]
theorem weight_nil : weight w [] = 0 := rfl

@[simp]
theorem weight_cons (op : α) (ops : List α) : weight w (op :: ops) = w op + weight w ops := rfl

@[simp]
theorem load_nil : load w [] = 0 := rfl

@[simp]
theorem load_cons (ops : List α) (programs : List (List α)) :
    load w (ops :: programs) = weight w ops + load w programs := rfl

theorem load_perm {programs programs' : List (List α)} (hperm : programs.Perm programs') :
    load w programs = load w programs' := by
  induction hperm with
  | nil => rfl
  | cons ops _ ih => rw [load_cons, load_cons, ih]
  | swap ops ops' programs =>
    simp only [load_cons]
    omega
  | trans _ _ ih ih' => rw [ih, ih']

theorem weight_nonneg (hw : ∀ op, 0 ≤ w op) (ops : List α) : 0 ≤ weight w ops := by
  induction ops with
  | nil => exact Int.le_refl 0
  | cons op ops ih =>
    have hop := hw op
    rw [weight_cons]
    omega

theorem le_weight (hw : ∀ op, 0 ≤ w op) {op : α} {ops : List α} (hop : op ∈ ops) :
    w op ≤ weight w ops := by
  induction ops with
  | nil => cases hop
  | cons op' ops ih =>
    rw [weight_cons]
    rcases List.mem_cons.mp hop with rfl | hop
    · have hrest := weight_nonneg hw ops
      omega
    · have hfirst := hw op'
      have hle := ih hop
      omega

theorem load_le_load {w' : α → Int} {programs : List (List α)}
    (h : ∀ ops ∈ programs, weight w ops ≤ weight w' ops) : load w programs ≤ load w' programs := by
  induction programs with
  | nil => exact Int.le_refl 0
  | cons ops programs ih =>
    have hfirst := h ops (List.mem_cons_self ..)
    have hrest := ih fun ops' hops' => h ops' (List.mem_cons_of_mem _ hops')
    rw [load_cons, load_cons]
    omega

theorem load_nonneg_of {programs : List (List α)} (h : ∀ ops ∈ programs, 0 ≤ weight w ops) :
    0 ≤ load w programs := by
  induction programs with
  | nil => exact Int.le_refl 0
  | cons ops programs ih =>
    have hfirst := h ops (List.mem_cons_self ..)
    have hrest := ih fun ops' hops' => h ops' (List.mem_cons_of_mem _ hops')
    rw [load_cons]
    omega

theorem load_nonneg (hw : ∀ op, 0 ≤ w op) (programs : List (List α)) : 0 ≤ load w programs :=
  load_nonneg_of fun ops _ => weight_nonneg hw ops

theorem le_load_program (hw : ∀ op, 0 ≤ w op) {ops : List α} {programs : List (List α)}
    (hops : ops ∈ programs) : weight w ops ≤ load w programs := by
  induction programs with
  | nil => cases hops
  | cons ops' programs ih =>
    rw [load_cons]
    rcases List.mem_cons.mp hops with rfl | hops
    · have hrest := load_nonneg hw programs
      omega
    · have hfirst := weight_nonneg hw ops'
      have hle := ih hops
      omega

theorem le_load (hw : ∀ op, 0 ≤ w op) {op : α} {ops : List α} {programs : List (List α)}
    (hops : ops ∈ programs) (hop : op ∈ ops) : w op ≤ load w programs :=
  Int.le_trans (le_weight hw hop) (le_load_program hw hops)

end Hatohol.Machine

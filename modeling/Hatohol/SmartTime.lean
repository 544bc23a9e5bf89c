import Hatohol.Params
import Mathlib.Algebra.Group.Int.Defs

/-!
# SmartTime

Times with nanoseconds, whose operators carry and borrow once (server/mlpl/src/SmartTime.cc:107-167).
The seconds and the nanoseconds are signed and an overflow of theirs is undefined, so that they are
integers here.
-/

namespace Hatohol

/-- A `timespec` with a proper number of nanoseconds. -/
structure Timespec.Normal (t : Timespec) : Prop where
  nonneg : 0 ≤ t.nsec
  lt : t.nsec < 10 ^ 9

/-- All of it in nanoseconds. -/
def Timespec.total (t : Timespec) : Int := t.sec * 10 ^ 9 + t.nsec

structure SmartTime where
  time : Timespec
  deriving DecidableEq, Repr

namespace SmartTime

def NANO_SEC_PER_SEC : Int := 1000 * 1000 * 1000

/-- `operator+=` -/
def addAssign (t : SmartTime) (rhs : Timespec) : SmartTime :=
  let sec := t.time.sec + rhs.sec
  let nsec := t.time.nsec + rhs.nsec
  if nsec ≥ NANO_SEC_PER_SEC then ⟨sec + 1, nsec - NANO_SEC_PER_SEC⟩ else ⟨sec, nsec⟩

/-- `operator-=` -/
def subAssign (t rhs : SmartTime) : SmartTime :=
  let sec := t.time.sec - rhs.time.sec
  let nsec := t.time.nsec - rhs.time.nsec
  if nsec < 0 then ⟨sec - 1, nsec + 10 ^ 9⟩ else ⟨sec, nsec⟩

/-- `operator==` -/
def eq (t rhs : SmartTime) : Bool :=
  if t.time.sec ≠ rhs.time.sec then false
  else if t.time.nsec ≠ rhs.time.nsec then false
  else true

/-- `operator>=` -/
def ge (t rhs : SmartTime) : Bool :=
  if t.time.sec > rhs.time.sec then true
  else if t.time.sec < rhs.time.sec then false
  else t.time.nsec ≥ rhs.time.nsec

/-- `operator>` -/
def gt (t rhs : SmartTime) : Bool := !rhs.ge t

/-- `operator<=` -/
def le (t rhs : SmartTime) : Bool := !t.gt rhs

/-- `operator<` -/
def lt (t rhs : SmartTime) : Bool := !t.ge rhs

def Normal (t : SmartTime) : Prop := t.time.Normal

def total (t : SmartTime) : Int := t.time.total

variable {t u : SmartTime} {d : Timespec}

/-! ## Carry and borrow -/

theorem normal_addAssign (ht : t.Normal) (hd : d.Normal) : (t.addAssign d).Normal := by
  obtain ⟨ht₀, ht₁⟩ := ht
  obtain ⟨hd₀, hd₁⟩ := hd
  unfold addAssign NANO_SEC_PER_SEC
  dsimp only
  split
  · constructor <;> dsimp only <;> omega
  · constructor <;> dsimp only <;> omega

theorem normal_subAssign (ht : t.Normal) (hu : u.Normal) : (t.subAssign u).Normal := by
  obtain ⟨ht₀, ht₁⟩ := ht
  obtain ⟨hu₀, hu₁⟩ := hu
  unfold subAssign
  dsimp only
  split
  · constructor <;> dsimp only <;> omega
  · constructor <;> dsimp only <;> omega

/-- A carry moves nanoseconds to the seconds. -/
@[simp] theorem total_addAssign (t : SmartTime) (d : Timespec) :
    (t.addAssign d).total = t.total + d.total := by
  unfold addAssign NANO_SEC_PER_SEC total Timespec.total
  dsimp only
  split <;> dsimp only <;> omega

@[simp] theorem total_subAssign (t u : SmartTime) : (t.subAssign u).total = t.total - u.total := by
  unfold subAssign total Timespec.total
  dsimp only
  split <;> dsimp only <;> omega

/-! ## Order -/

/-- With proper nanoseconds there is one way to write a time. -/
theorem eq_of_total_eq (ht : t.Normal) (hu : u.Normal) (htotal : t.total = u.total) : t = u := by
  obtain ⟨⟨sec, nsec⟩⟩ := t
  obtain ⟨⟨sec', nsec'⟩⟩ := u
  obtain ⟨ht₀, ht₁⟩ := ht
  obtain ⟨hu₀, hu₁⟩ := hu
  unfold total Timespec.total at htotal
  dsimp only at *
  obtain rfl : sec = sec' := by omega
  obtain rfl : nsec = nsec' := by omega
  rfl

theorem eq_iff_eq : t.eq u = true ↔ t = u := by
  obtain ⟨⟨sec, nsec⟩⟩ := t
  obtain ⟨⟨sec', nsec'⟩⟩ := u
  unfold eq
  dsimp only
  split
  · rename_i hsec
    exact iff_of_false Bool.noConfusion fun h => hsec (by injection h with h; injection h)
  · split
    · rename_i hnsec
      exact iff_of_false Bool.noConfusion fun h => hnsec (by injection h with h; injection h)
    · rename_i hsec hnsec
      rw [not_not.mp hsec, not_not.mp hnsec]
      exact iff_of_true rfl rfl

theorem ge_iff_total (ht : t.Normal) (hu : u.Normal) : t.ge u = true ↔ u.total ≤ t.total := by
  obtain ⟨ht₀, ht₁⟩ := ht
  obtain ⟨hu₀, hu₁⟩ := hu
  unfold ge total Timespec.total
  split
  · exact iff_of_true rfl (by omega)
  · split
    · exact iff_of_false Bool.noConfusion (by omega)
    · rw [decide_eq_true_iff]
      omega

theorem gt_iff_total (ht : t.Normal) (hu : u.Normal) : t.gt u = true ↔ u.total < t.total := by
  rw [gt, Bool.not_eq_true', ← Bool.not_eq_true, ge_iff_total hu ht, not_le]

theorem le_iff_total (ht : t.Normal) (hu : u.Normal) : t.le u = true ↔ t.total ≤ u.total := by
  rw [le, Bool.not_eq_true', ← Bool.not_eq_true, gt_iff_total ht hu, not_lt]

theorem lt_iff_total (ht : t.Normal) (hu : u.Normal) : t.lt u = true ↔ t.total < u.total := by
  rw [lt, Bool.not_eq_true', ← Bool.not_eq_true, ge_iff_total ht hu, not_le]

/-- Sums and differences are proper and exact, a difference undoes a sum, and the relations are those
    of the nanoseconds. -/
theorem exact_nanoseconds (t u : SmartTime) (d : Timespec) (ht : t.Normal) (hu : u.Normal)
    (hd : d.Normal) :
    ((t.addAssign d).Normal ∧ (t.addAssign d).total = t.total + d.total) ∧
    ((t.subAssign u).Normal ∧ (t.subAssign u).total = t.total - u.total) ∧
    (t.addAssign d).subAssign ⟨d⟩ = t ∧
    (t.eq u = true ↔ t.total = u.total) ∧ (t.lt u = true ↔ t.total < u.total) ∧
    (t.le u = true ↔ t.total ≤ u.total) ∧ (t.gt u = true ↔ t.total > u.total) ∧
    (t.ge u = true ↔ t.total ≥ u.total) := by
  have hrestored : (t.addAssign d).subAssign ⟨d⟩ = t := by
    refine eq_of_total_eq (normal_subAssign (normal_addAssign ht hd) hd) ht ?_
    rw [total_subAssign, total_addAssign]
    exact Int.add_sub_cancel _ _
  refine ⟨⟨normal_addAssign ht hd, total_addAssign t d⟩,
    ⟨normal_subAssign ht hu, total_subAssign t u⟩, hrestored, ?_, lt_iff_total ht hu,
    le_iff_total ht hu, gt_iff_total ht hu, ge_iff_total ht hu⟩
  rw [eq_iff_eq]
  exact ⟨congrArg total, eq_of_total_eq ht hu⟩

theorem exact_nanoseconds_borrow :
    ((SmartTime.mk ⟨5, 999999999⟩).addAssign ⟨1, 2⟩).subAssign ⟨⟨1, 2⟩⟩ = ⟨⟨5, 999999999⟩⟩ :=
  (exact_nanoseconds ⟨⟨5, 999999999⟩⟩ ⟨⟨7, 0⟩⟩ ⟨1, 2⟩ ⟨by decide, by decide⟩ ⟨by decide, by decide⟩
    ⟨by decide, by decide⟩).2.2.1

end SmartTime

end Hatohol

import Mathlib.Data.Int.Log
import Mathlib.Data.Rat.Floor
import Mathlib.Tactic.Linarith
import Mathlib.Tactic.FieldSimp
import Mathlib.Tactic.NormNum
import Mathlib.Tactic.Positivity
import Mathlib.Tactic.Ring

/-!
# Numbers of double precision

A number is rounded to 53 significant bits, to the even one if two are equally near. The range of
the exponent is left out.
-/

namespace Hatohol.Time

/-- The nearest integer, the even one of two. -/
def roundEven (x : ℚ) : ℤ :=
  if x - ⌊x⌋ < 1 / 2 then ⌊x⌋
  else if 1 / 2 < x - ⌊x⌋ then ⌊x⌋ + 1
  else if ⌊x⌋ % 2 = 0 then ⌊x⌋ else ⌊x⌋ + 1

/-- The weight of the last of 53 bits. -/
def unit (x : ℚ) : ℚ := (2 : ℚ) ^ (Int.log 2 x - 52)

/-- A number that is not negative, rounded. -/
def toDouble (x : ℚ) : ℚ := roundEven (x / unit x) * unit x

theorem le_roundEven_iff (n : ℤ) (x : ℚ) :
    n ≤ roundEven x ↔ (n : ℚ) - 1 / 2 < x ∨ x = n - 1 / 2 ∧ n % 2 = 0 := by
  have hle := Int.floor_le x
  have hlt := Int.lt_floor_add_one x
  rcases lt_trichotomy n (⌊x⌋ + 1) with hn | rfl | hn
  · have hcast : (n : ℚ) ≤ ⌊x⌋ := by exact_mod_cast Int.lt_add_one_iff.mp hn
    refine iff_of_true ?_ (.inl (by linarith))
    rw [roundEven]
    split_ifs <;> omega
  · rw [roundEven]
    push_cast
    split_ifs with hbelow habove heven
    · refine iff_of_false (by omega) ?_
      rintro (h | ⟨h, -⟩) <;> linarith
    · exact iff_of_true (le_refl _) (.inl (by linarith))
    · refine iff_of_false (by omega) ?_
      rintro (h | ⟨-, h⟩)
      · linarith
      · omega
    · exact iff_of_true (le_refl _) (.inr ⟨by linarith, by omega⟩)
  · have hnext : ⌊x⌋ + 2 ≤ n := by omega
    have hcast : (⌊x⌋ : ℚ) + 2 ≤ n := by exact_mod_cast hnext
    refine iff_of_false ?_ ?_
    · rw [roundEven]
      split_ifs <;> omega
    · rintro (h | ⟨h, -⟩) <;> linarith

/-- What is at least an integer is not rounded below it. -/
theorem le_roundEven {n : ℤ} {x : ℚ} (hle : (n : ℚ) ≤ x) : n ≤ roundEven x :=
  (le_roundEven_iff n x).mpr (.inl (by linarith))

theorem unit_pos (x : ℚ) : 0 < unit x := zpow_pos (by norm_num) _

theorem log_eq {x : ℚ} {k : ℤ} (hle : (2 : ℚ) ^ k ≤ x) (hlt : x < 2 ^ (k + 1)) :
    Int.log 2 x = k := by
  have hpos : 0 < x := lt_of_lt_of_le (zpow_pos (by norm_num) _) hle
  have hge := (Int.zpow_le_iff_le_log (b := 2) (by norm_num) hpos).mp (by exact_mod_cast hle)
  have hlt' := (Int.lt_zpow_iff_log_lt (b := 2) (by norm_num) hpos).mp (by exact_mod_cast hlt)
  omega

/-- A number that is a multiple of the weight of the last bit bounds the rounded one if and only if
    it bounds the number, or is nearest to it. -/
theorem le_toDouble_iff (n : ℤ) (x : ℚ) :
    n * unit x ≤ toDouble x ↔ ((n : ℚ) - 1 / 2) * unit x < x ∨
      x = ((n : ℚ) - 1 / 2) * unit x ∧ n % 2 = 0 := by
  have hpos := unit_pos x
  rw [toDouble, mul_le_mul_iff_left₀ hpos, Int.cast_le, le_roundEven_iff, lt_div_iff₀ hpos,
    div_eq_iff (ne_of_gt hpos)]

/-- An even multiple of the weight of the last bit is reached from half a weight below it. -/
theorem le_toDouble_even_iff {n : ℤ} (heven : n % 2 = 0) (x : ℚ) :
    n * unit x ≤ toDouble x ↔ ((n : ℚ) - 1 / 2) * unit x ≤ x := by
  rw [le_toDouble_iff, le_iff_lt_or_eq]
  exact or_congr_right ⟨fun h => h.1.symm, fun h => ⟨h.symm, heven⟩⟩

/-! ## Whole numbers with a fraction -/

section

variable {s : ℕ} {q : ℚ}

theorem unit_add (hs : 1 ≤ s) (hlt : s < 2 ^ 52) (hq : 0 ≤ q) (hone : q < 1) :
    unit (s + q) * 2 ^ (52 - Nat.log 2 s) = 1 := by
  have hlow := Nat.pow_log_le_self 2 (Nat.one_le_iff_ne_zero.mp hs)
  have hhigh := Nat.lt_pow_succ_log_self (b := 2) (by norm_num) s
  have hk : Nat.log 2 s < 52 := Nat.log_lt_of_lt_pow (by omega) hlt
  have hlog : Int.log 2 ((s : ℚ) + q) = (Nat.log 2 s : ℤ) := by
    refine log_eq ?_ ?_
    · have hcast : ((2 ^ Nat.log 2 s : ℕ) : ℚ) ≤ s := by exact_mod_cast hlow
      rw [zpow_natCast]
      push_cast at hcast
      linarith
    · have hcast : (s : ℚ) + 1 ≤ ((2 ^ (Nat.log 2 s + 1) : ℕ) : ℚ) := by exact_mod_cast hhigh
      have hnat : (2 : ℚ) ^ ((Nat.log 2 s : ℤ) + 1) = 2 ^ (Nat.log 2 s + 1) := by
        exact_mod_cast zpow_natCast (2 : ℚ) (Nat.log 2 s + 1)
      rw [hnat]
      push_cast at hcast
      linarith
  rw [unit, hlog, ← zpow_natCast, ← zpow_add₀ (by norm_num)]
  have hzero : (Nat.log 2 s : ℤ) - 52 + ((52 - Nat.log 2 s : ℕ) : ℤ) = 0 := by omega
  rw [hzero, zpow_zero]

/-- A sum of a whole number and a fraction keeps the whole number if and only if the fraction is
    more than half a weight of the last bit below one. -/
theorem floor_toDouble_add_iff (hs : 1 ≤ s) (hlt : s < 2 ^ 52) (hq : 0 ≤ q) (hone : q < 1) :
    ⌊toDouble (s + q)⌋ = s ↔ q < 1 - 2 ^ Nat.log 2 s / 2 ^ 53 := by
  have hunit := unit_add hs hlt hq hone
  have hpos := unit_pos ((s : ℚ) + q)
  have hk : Nat.log 2 s < 52 := Nat.log_lt_of_lt_pow (by omega) hlt
  have hsplit : (2 : ℚ) ^ Nat.log 2 s * 2 ^ (52 - Nat.log 2 s) = 2 ^ 52 := by
    rw [← pow_add]
    congr 1
    omega
  have hvalue : unit ((s : ℚ) + q) = 2 ^ Nat.log 2 s / 2 ^ 52 := by
    rw [eq_div_iff (by norm_num), ← hsplit]
    calc unit ((s : ℚ) + q) * (2 ^ Nat.log 2 s * 2 ^ (52 - Nat.log 2 s))
        = (unit (s + q) * 2 ^ (52 - Nat.log 2 s)) * 2 ^ Nat.log 2 s := by ring
      _ = 2 ^ Nat.log 2 s := by rw [hunit, one_mul]
  have hwhole : ∀ m : ℕ, ((m * 2 ^ (52 - Nat.log 2 s) : ℤ) : ℚ) * unit (s + q) = m := by
    intro m
    push_cast
    calc (m : ℚ) * 2 ^ (52 - Nat.log 2 s) * unit (s + q)
        = m * (unit (s + q) * 2 ^ (52 - Nat.log 2 s)) := by ring
      _ = m := by rw [hunit, mul_one]
  have heven : ∀ m : ℕ, (m * 2 ^ (52 - Nat.log 2 s) : ℤ) % 2 = 0 := by
    intro m
    obtain ⟨j, hj⟩ : ∃ j, 52 - Nat.log 2 s = j + 1 := ⟨51 - Nat.log 2 s, by omega⟩
    rw [hj, pow_succ, ← mul_assoc, Int.mul_emod_left]
  have hbound : ∀ m : ℕ, (m : ℚ) ≤ toDouble (s + q) ↔ (m : ℚ) - unit (s + q) / 2 ≤ s + q := by
    intro m
    have hiff := le_toDouble_even_iff (heven m) ((s : ℚ) + q)
    rw [sub_mul, hwhole m] at hiff
    rw [hiff, one_div_mul_eq_div]
  have hlow : (s : ℚ) ≤ toDouble (s + q) := (hbound s).mpr (by linarith)
  have hnext := hbound (s + 1)
  push_cast at hnext
  rw [Int.floor_eq_iff]
  push_cast
  rw [and_iff_right hlow, ← not_le, hnext, not_le, hvalue]
  have hhalf : (2 : ℚ) ^ Nat.log 2 s / 2 ^ 52 / 2 = 2 ^ Nat.log 2 s / 2 ^ 53 := by
    rw [div_div]
    norm_num
  rw [hhalf]
  constructor <;> intro h <;> linarith

end

/-! ## Billionths -/

theorem roundEven_le (x : ℚ) : (roundEven x : ℚ) ≤ x + 1 / 2 := by
  rcases (le_roundEven_iff (roundEven x) x).mp (le_refl _) with h | ⟨h, -⟩ <;> linarith

theorem toDouble_le (x : ℚ) : toDouble x ≤ x + unit x / 2 := by
  have hpos := unit_pos x
  have hmul := mul_le_mul_of_nonneg_right (roundEven_le (x / unit x)) (le_of_lt hpos)
  rw [add_mul, div_mul_cancel₀ x (ne_of_gt hpos)] at hmul
  rw [toDouble]
  linarith

theorem toDouble_nonneg {x : ℚ} (hx : 0 ≤ x) : 0 ≤ toDouble x := by
  have hzero : ((0 : ℤ) : ℚ) ≤ x / unit x := by
    rw [Int.cast_zero]
    exact div_nonneg hx (le_of_lt (unit_pos x))
  have hcast : (0 : ℚ) ≤ roundEven (x / unit x) := by exact_mod_cast le_roundEven hzero
  exact mul_nonneg hcast (le_of_lt (unit_pos x))

theorem unit_le {x : ℚ} (hx : x < 1) : unit x ≤ 1 / 2 ^ 52 := by
  have hlog : Int.log 2 x ≤ 0 := by
    rcases le_or_gt x 0 with hneg | hpos
    · rw [Int.log_of_right_le_zero 2 hneg]
    · exact le_of_lt ((Int.lt_zpow_iff_log_lt (b := 2) (by norm_num) hpos).mp
        (by exact_mod_cast hx))
  have hle : unit x ≤ (2 : ℚ) ^ (-52 : ℤ) := zpow_le_zpow_right₀ (by norm_num) (by omega)
  rw [zpow_neg] at hle
  rw [one_div]
  exact_mod_cast hle

theorem unit_of_half_le {x : ℚ} (hle : 1 / 2 ≤ x) (hlt : x < 1) : unit x = 1 / 2 ^ 53 := by
  have hlog : Int.log 2 x = -1 := log_eq (by norm_num; linarith) (by norm_num; exact hlt)
  rw [unit, hlog, one_div, ← zpow_natCast, ← zpow_neg]
  norm_num

/-- A rounded number of billionths is more than half a weight of the last bit below one as long as
    the number is more than that half and a half of its own weight below one. -/
theorem toDouble_div_lt_iff {n k : ℕ} (hk : k ≤ 51) (hn : n < 10 ^ 9) :
    toDouble (n / 10 ^ 9) < 1 - 2 ^ k / 2 ^ 53 ↔
      n * 2 ^ 54 + 10 ^ 9 * (2 * 2 ^ k + 1) < 10 ^ 9 * 2 ^ 54 := by
  have hpow : (2 : ℕ) ^ k ≤ 2 ^ 51 := Nat.pow_le_pow_right (by norm_num) hk
  have hpow' : (2 : ℚ) ^ k ≤ 2 ^ 51 := by exact_mod_cast hpow
  have hcast : (n : ℚ) < 10 ^ 9 := by exact_mod_cast hn
  have hone : (n : ℚ) / 10 ^ 9 < 1 := by
    rw [div_lt_one (by norm_num)]
    exact hcast
  rcases lt_or_ge ((n : ℚ) / 10 ^ 9) (1 / 2) with hlt | hge
  · have hle := toDouble_le ((n : ℚ) / 10 ^ 9)
    have hunit := unit_le hone
    refine iff_of_true (by norm_num at hunit hpow' ⊢; linarith) ?_
    have hhalf : n * 2 < 10 ^ 9 := by
      rw [div_lt_div_iff₀ (by norm_num) (by norm_num)] at hlt
      exact_mod_cast (by linarith : (n : ℚ) * 2 < 10 ^ 9)
    omega
  · have hunit := unit_of_half_le hge hone
    have hiff := le_toDouble_iff (2 ^ 53 - 2 ^ k) ((n : ℚ) / 10 ^ 9)
    have hbound : ((2 ^ 53 - 2 ^ k : ℤ) : ℚ) * (1 / 2 ^ 53) = 1 - 2 ^ k / 2 ^ 53 := by
      push_cast
      ring
    -- Both sides of a tie would have to be even.
    have htie : (n : ℚ) / 10 ^ 9 ≠ (((2 ^ 53 - 2 ^ k : ℤ) : ℚ) - 1 / 2) * (1 / 2 ^ 53) := by
      intro heq
      rw [div_eq_iff (by norm_num)] at heq
      push_cast at heq
      have hmul : (n : ℚ) * 2 ^ 54 + 10 ^ 9 * (2 * 2 ^ k + 1) = 10 ^ 9 * 2 ^ 54 := by
        rw [heq]
        ring
      have hnat : n * 2 ^ 54 + 10 ^ 9 * (2 * 2 ^ k + 1) = 10 ^ 9 * 2 ^ 54 := by
        exact_mod_cast hmul
      omega
    rw [hunit, hbound, or_iff_left fun h => htie h.1] at hiff
    rw [← not_le, hiff, not_lt, le_iff_lt_or_eq, or_iff_left htie, div_lt_iff₀ (by norm_num),
      ← mul_lt_mul_iff_left₀ (by norm_num : (0 : ℚ) < 2 ^ 54)]
    have hmul : (((2 ^ 53 - 2 ^ k : ℤ) : ℚ) - 1 / 2) * (1 / 2 ^ 53) * 10 ^ 9 * 2 ^ 54 =
        10 ^ 9 * 2 ^ 54 - 10 ^ 9 * (2 * 2 ^ k + 1) := by
      push_cast
      ring
    rw [hmul, lt_sub_iff_add_lt]
    exact_mod_cast Iff.rfl

theorem roundEven_intCast (z : ℤ) : roundEven (z : ℚ) = z := by
  rw [roundEven, Int.floor_intCast, sub_self, if_pos (by norm_num)]

theorem toDouble_natCast {m : ℕ} (hpos : 1 ≤ m) (hlt : m < 2 ^ 52) : toDouble m = m := by
  have hunit := unit_add hpos hlt (le_refl (0 : ℚ)) (by norm_num)
  rw [add_zero] at hunit
  have hdiv : (m : ℚ) / unit m = ((m * 2 ^ (52 - Nat.log 2 m) : ℕ) : ℤ) := by
    rw [div_eq_iff (ne_of_gt (unit_pos _))]
    push_cast
    calc (m : ℚ) = m * (unit m * 2 ^ (52 - Nat.log 2 m)) := by rw [hunit, mul_one]
      _ = m * 2 ^ (52 - Nat.log 2 m) * unit m := by ring
  rw [toDouble, hdiv, roundEven_intCast, ← hdiv, div_mul_cancel₀ _ (ne_of_gt (unit_pos _))]

/-- A whole number plus billionths, both sums rounded, keeps the whole number if and only if the
    billionths are below this bound. -/
theorem floor_toDouble_add_div_iff {s n : ℕ} (hs : s + 1 < 2 ^ 52) (hn : n ≤ 10 ^ 9) :
    ⌊toDouble (s + toDouble (n / 10 ^ 9))⌋ = s ↔
      n * 2 ^ 54 + 10 ^ 9 * (2 * 2 ^ Nat.log 2 s + 1) < 10 ^ 9 * 2 ^ 54 := by
  rcases Nat.lt_or_eq_of_le hn with hlt | rfl
  · have hbelow := (toDouble_div_lt_iff (k := 0) (by norm_num) hlt).mpr (by omega)
    have hnonneg : 0 ≤ toDouble ((n : ℚ) / 10 ^ 9) := toDouble_nonneg (by positivity)
    rcases Nat.eq_zero_or_pos s with rfl | hpos
    · refine iff_of_true ?_ (by rw [Nat.log_zero_right]; omega)
      have hunit := unit_le (lt_trans hbelow (by norm_num))
      have hle := toDouble_le (toDouble ((n : ℚ) / 10 ^ 9))
      rw [Nat.cast_zero, Int.floor_eq_iff]
      refine ⟨by simpa using toDouble_nonneg hnonneg, ?_⟩
      norm_num at hunit hle hbelow ⊢
      linarith
    · have hlog : Nat.log 2 s < 52 := Nat.log_lt_of_lt_pow (by omega) (by omega)
      rw [floor_toDouble_add_iff hpos (by omega) hnonneg (lt_trans hbelow (by norm_num)),
        toDouble_div_lt_iff (by omega) hlt]
  · have hone : toDouble (((10 ^ 9 : ℕ) : ℚ) / 10 ^ 9) = 1 := by
      have hcast : ((10 ^ 9 : ℕ) : ℚ) / 10 ^ 9 = (1 : ℕ) := by norm_num
      rw [hcast, toDouble_natCast (le_refl 1) (by norm_num), Nat.cast_one]
    have hnext : toDouble ((s : ℚ) + 1) = (s + 1 : ℕ) := by
      rw [← toDouble_natCast (Nat.le_add_left 1 s) hs, Nat.cast_succ]
    refine iff_of_false ?_ (by omega)
    rw [hone, hnext, Int.floor_natCast]
    omega

end Hatohol.Time

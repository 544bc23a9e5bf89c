import Hatohol.Hapcommon
import Hatohol.TimeStamp

/-!
# Instants on both sides

The server and the plugins read the times that a plugin writes.
-/

namespace Hatohol.Hapcommon

open Time

/-- The time of an alarm of the Ceilometer plugin (hap2_ceilometer.py:167-169). -/
def Ceilometer.timestamp_str (ts : DateTime) : Option (List Char) := do
  let time ← strftime ts.time
  some (time ++ '.' :: Nat.toDigits 10 ts.microsecond)

/-- A text is the instant for the server, and its second for a plugin. -/
def Agrees (text : Option (List Char)) (s : Nat) (nsec : Int) : Prop :=
  ∃ t, text = some t ∧ (∀ allowEmpty, parseTimeStamp t allowEmpty = some ⟨s, nsec⟩) ∧
    ∃ x, translate_hatohol_time_to_unix_time t = some x ∧ ⌊x⌋ = s

section

variable {s : Nat}

theorem floor_float_iff (hyear : (gmtime s).year < 10000) {n : Nat} (hn : n ≤ 10 ^ 9) :
    ⌊float (float s + float (float n / float (10 ^ 9)))⌋ = s ↔
      n * 2 ^ 54 + 10 ^ 9 * (2 * 2 ^ Nat.log 2 s + 1) < 10 ^ 9 * 2 ^ 54 := by
  have hs := lt_of_year_lt hyear
  have hbillion : float (10 ^ 9) = 10 ^ 9 := by
    exact_mod_cast float_natCast (show 10 ^ 9 < 2 ^ 52 by norm_num)
  have hfloat : ∀ x : ℚ, 0 ≤ x → float x = toDouble x := fun x hx => if_pos hx
  have hquotient : float ((n : ℚ) / 10 ^ 9) = toDouble (n / 10 ^ 9) := hfloat _ (by positivity)
  rw [float_natCast (by omega), float_natCast (by omega), hbillion, hquotient,
    hfloat _ (add_nonneg (Nat.cast_nonneg s) (toDouble_nonneg (by positivity))),
    floor_toDouble_add_div_iff (by omega) hn]

/-- A few digits behind the point never round up to the next second. -/
theorem floor_float (hyear : (gmtime s).year < 10000) {m : Nat} (hm : m < 10 ^ 6) :
    ⌊float (float s + float (float m / float (10 ^ 9)))⌋ = s := by
  have hs := lt_of_year_lt hyear
  have hlog : 2 ^ Nat.log 2 s ≤ 2 ^ 40 := by
    rcases Nat.eq_zero_or_pos s with rfl | hpos
    · rw [Nat.log_zero_right]
      norm_num
    · exact Nat.le_trans (Nat.pow_log_le_self 2 (by omega)) (Nat.le_of_lt hs)
  rw [floor_float_iff hyear (by omega)]
  omega

theorem agrees_some_iff (hyear : (gmtime s).year < 10000) {fraction : List Char}
    (hne : fraction ≠ []) (hdigits : AllDigits fraction) (nsec : Int) :
    Agrees (some ((gmtime s).digits ++ '.' :: fraction)) s nsec ↔
      fraction.length ≤ 9 ∧ (10 ^ (9 - fraction.length) * value fraction : Int) = nsec ∧
        ⌊float (float s + float (float (value fraction) / float (10 ^ 9)))⌋ = s := by
  obtain ⟨hvalid, hfirst⟩ := (gmtime_spec s).1
  have hserver := parseTimeStamp_point hvalid hyear hdigits
  have hplugin := translate_hatohol_time_point hvalid (by omega) hyear hne hdigits
  rw [seconds_gmtime] at hserver hplugin
  rw [Int.cast_natCast] at hplugin
  constructor
  · rintro ⟨t, heq, hparse, x, htranslate, hfloor⟩
    obtain rfl := Option.some.inj heq
    have hparse := (hserver true).symm.trans (hparse true)
    split at hparse
    next => cases hparse
    next hle =>
      obtain rfl := Option.some.inj (hplugin.symm.trans htranslate)
      exact ⟨by omega, congrArg Timespec.nsec (Option.some.inj hparse), hfloor⟩
  · rintro ⟨hle, rfl, hfloor⟩
    refine ⟨_, rfl, fun allowEmpty => ?_, _, hplugin, hfloor⟩
    rw [hserver allowEmpty, if_neg (by omega)]

/-- Microseconds without zeros in front of them are right if there are six digits of them, or if
    there are none to lose. -/
theorem agrees_toDigits_iff (hyear : (gmtime s).year < 10000) {m : Nat} (hm : m < 10 ^ 6) :
    Agrees (some ((gmtime s).digits ++ '.' :: Nat.toDigits 10 m)) s (1000 * m) ↔
      m = 0 ∨ 100000 ≤ m := by
  have hvalue : value (Nat.toDigits 10 m) = m := Nat.ofDigitChars_ten_toDigits
  have hlength : ∀ {k : Nat}, 0 < k → ((Nat.toDigits 10 m).length ≤ k ↔ m < 10 ^ k) :=
    fun hpos => Nat.length_toDigits_le_iff (by omega) hpos
  have hsix := (hlength (show 0 < 6 by decide)).mpr hm
  rw [agrees_some_iff hyear Nat.toDigits_ne_nil (allDigits_toDigits m), hvalue,
    and_iff_left (floor_float hyear hm)]
  constructor
  · rintro ⟨-, heq⟩
    by_contra hnone
    have hfive := (hlength (show 0 < 5 by decide)).mpr (by omega)
    have hpow : 10 ^ 4 ≤ 10 ^ (9 - (Nat.toDigits 10 m).length) :=
      Nat.pow_le_pow_right (by decide) (by omega)
    have hmul := Nat.mul_le_mul_right m hpow
    have hnat : 10 ^ (9 - (Nat.toDigits 10 m).length) * m = 1000 * m := by exact_mod_cast heq
    omega
  · rintro (rfl | hge)
    · exact ⟨by omega, by simp⟩
    · have hnot := (hlength (show 0 < 5 by decide)).not.mpr (by omega)
      have heq : (Nat.toDigits 10 m).length = 6 := by omega
      rw [heq]
      exact ⟨by omega, by norm_num⟩

end

/-- The times of `translate_unix_time_to_hatohol_time` are read back unless their nanoseconds are
    rounded up to the next second, those of `conv_to_hapi_time` always, and the two that write the
    microseconds without zeros only if these have six digits or are none. -/
theorem encoders_agree_iff {s : Nat} (hyear : (gmtime s).year < 10000) :
    (∀ n : Int, (translate_unix_time_to_hatohol_time s n).isSome →
      (Agrees (translate_unix_time_to_hatohol_time s n) s n ↔
        n * 2 ^ 54 + 10 ^ 9 * (2 * 2 ^ Nat.log 2 s + 1) < 10 ^ 9 * 2 ^ 54)) ∧
    ∀ m : Nat, m < 10 ^ 6 →
      Agrees (conv_to_hapi_time ⟨gmtime s, m⟩ 0) s (1000 * m) ∧
      (Agrees (get_current_hatohol_time ⟨gmtime s, m⟩) s (1000 * m) ↔ m = 0 ∨ 100000 ≤ m) ∧
      (Agrees (Ceilometer.timestamp_str ⟨gmtime s, m⟩) s (1000 * m) ↔ m = 0 ∨ 100000 ≤ m) := by
  have hvalid := (gmtime_spec s).1
  have hfirst := hvalid.year
  have hstrftime : strftime (gmtime s) = some (gmtime s).digits := if_neg (by omega)
  constructor
  · intro n hsome
    rw [translate_unix_time_to_hatohol_time, civilTime_natCast, hstrftime] at hsome ⊢
    change (if 1000000000 < n ∨ n < 0 then none else _).isSome at hsome
    change Agrees (if 1000000000 < n ∨ n < 0 then none else _) s n ↔ _
    split at hsome
    next => cases hsome
    next hrange =>
      obtain ⟨hle, hnonneg⟩ := not_or.mp hrange
      obtain ⟨k, rfl⟩ := Int.eq_ofNat_of_zero_le (Int.not_lt.mp hnonneg)
      have hk : k ≤ 10 ^ 9 := by omega
      rw [if_neg hrange, Int.toNat_natCast, agrees_some_iff hyear (padded_ne_nil 9 k)
        (allDigits_padded 9 k), value_padded, floor_float_iff hyear hk]
      have hcast : (k : Int) * 2 ^ 54 + 10 ^ 9 * (2 * 2 ^ Nat.log 2 s + 1) < 10 ^ 9 * 2 ^ 54 ↔
          k * 2 ^ 54 + 10 ^ 9 * (2 * 2 ^ Nat.log 2 s + 1) < 10 ^ 9 * 2 ^ 54 := by
        exact_mod_cast Iff.rfl
      rw [hcast]
      constructor
      · exact fun h => h.2.2
      · intro hlt
        have hlength := length_padded (show 0 < 9 by decide) (show k < 10 ^ 9 by omega)
        rw [hlength]
        exact ⟨Nat.le_refl 9, by simp, hlt⟩
  · intro m hm
    refine ⟨?_, ?_, ?_⟩
    · rw [conv_to_hapi_time, DateTime.add, seconds_gmtime, Int.add_zero, civilTime_natCast]
      rw [if_pos ⟨by omega, by omega⟩]
      change Agrees ((strftime (gmtime s)).bind fun time => some (time ++ _)) s _
      rw [hstrftime, Option.bind_some, agrees_some_iff hyear (padded_ne_nil 6 m)
        (allDigits_padded 6 m), value_padded, length_padded (by decide) hm]
      exact ⟨by omega, by norm_num, floor_float hyear hm⟩
    · rw [get_current_hatohol_time, hstrftime]
      exact agrees_toDigits_iff hyear hm
    · rw [Ceilometer.timestamp_str, hstrftime]
      exact agrees_toDigits_iff hyear hm

theorem encoders_agree_iff_2001 :
    let s := 1000000000
    (gmtime s).year < 10000 ∧
    Agrees (translate_unix_time_to_hatohol_time s 5) s 5 ∧
    Agrees (conv_to_hapi_time ⟨gmtime s, 5⟩ 0) s 5000 ∧
    Agrees (get_current_hatohol_time ⟨gmtime s, 123456⟩) s 123456000 ∧
    Agrees (Ceilometer.timestamp_str ⟨gmtime s, 0⟩) s 0 := by
  have hyear : (gmtime 1000000000).year < 10000 := by decide +kernel
  obtain ⟨hnano, hmicro⟩ := encoders_agree_iff hyear
  exact ⟨hyear, (hnano 5 (by decide +kernel)).mpr (by decide +kernel),
    (hmicro 5 (by decide)).1, (hmicro 123456 (by decide)).2.1.mpr (.inr (by decide)),
    (hmicro 0 (by decide)).2.2.mpr (.inl rfl)⟩

/-- Five microseconds without zeros are half a second, and a full number of nanoseconds does not
    raise but has ten digits. -/
theorem encoders_disagree :
    ¬ Agrees (get_current_hatohol_time ⟨gmtime 0, 5⟩) 0 5000 ∧
    parseTimeStamp "19700101000000.5".toList false = some ⟨0, 500000000⟩ ∧
    ¬ Agrees (Ceilometer.timestamp_str ⟨gmtime 0, 5⟩) 0 5000 ∧
    (translate_unix_time_to_hatohol_time 0 1000000000).isSome ∧
    ¬ Agrees (translate_unix_time_to_hatohol_time 0 1000000000) 0 1000000000 := by
  have hhalf : ¬ Agrees (some "19700101000000.5".toList) 0 5000 := by
    rintro ⟨t, heq, hparse, -⟩
    obtain rfl := Option.some.inj heq
    exact absurd (hparse false) (by decide +kernel)
  refine ⟨hhalf, by decide +kernel, hhalf, by decide +kernel, ?_⟩
  rintro ⟨t, heq, hparse, -⟩
  obtain rfl : "19700101000000.1000000000".toList = t := Option.some.inj heq
  exact absurd (hparse false) (by decide +kernel)

end Hatohol.Hapcommon

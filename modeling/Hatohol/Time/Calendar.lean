import Mathlib.Algebra.Ring.Nat
import Hatohol.Time.Digits

/-!
# Seconds and the calendar

The seconds since the beginning of 1970 as a date and a time of day in UTC, and back again. Fourteen
digits that spell a date and a time are in the order of the seconds.
-/

namespace Hatohol.Time

structure CivilTime where
  year : Nat
  month : Nat
  day : Nat
  hour : Nat
  minute : Nat
  second : Nat
  deriving DecidableEq, Repr

def isLeap (year : Nat) : Bool := year % 4 == 0 && (year % 100 != 0 || year % 400 == 0)

def monthLengths (year : Nat) : List Nat :=
  [31, if isLeap year then 29 else 28, 31, 30, 31, 30, 31, 31, 30, 31, 30, 31]

def yearLength (year : Nat) : Nat := (monthLengths year).sum

/-- The days from the beginning of 1970. -/
def daysBeforeYear (year : Nat) : Nat :=
  ((List.range (year - 1970)).map fun k => yearLength (1970 + k)).sum

def daysBeforeMonth (year month : Nat) : Nat := ((monthLengths year).take (month - 1)).sum

def CivilTime.days (t : CivilTime) : Nat :=
  daysBeforeYear t.year + daysBeforeMonth t.year t.month + (t.day - 1)

/-- The seconds from the beginning of 1970. -/
def timegm (t : CivilTime) : Nat := ((t.days * 24 + t.hour) * 60 + t.minute) * 60 + t.second

/-- The year and the day of the year of a day that is counted from the beginning of a year. The
    first number bounds the years to go. -/
def findYear : Nat → Nat → Nat → Nat × Nat
  | 0, year, day => (year, day)
  | bound + 1, year, day =>
      if day < yearLength year then (year, day)
      else findYear bound (year + 1) (day - yearLength year)

/-- The month and the day of the month, likewise. -/
def findMonth : List Nat → Nat → Nat → Nat × Nat
  | [], month, day => (month, day)
  | length :: lengths, month, day =>
      if day < length then (month, day) else findMonth lengths (month + 1) (day - length)

def gmtime (s : Nat) : CivilTime :=
  let found := findYear (s / 86400) 1970 (s / 86400)
  let month := findMonth (monthLengths found.1) 1 found.2
  ⟨found.1, month.1, month.2 + 1, s % 86400 / 3600, s % 3600 / 60, s % 60⟩

/-- A date and a time that there are. -/
structure CivilTime.Dated (t : CivilTime) : Prop where
  month : 1 ≤ t.month
  day : 1 ≤ t.day
  monthLength : ∃ length, (monthLengths t.year)[t.month - 1]? = some length ∧ t.day ≤ length
  hour : t.hour < 24
  minute : t.minute < 60
  second : t.second < 60

structure CivilTime.Valid (t : CivilTime) : Prop extends CivilTime.Dated t where
  year : 1970 ≤ t.year

/-! ## Days -/

theorem sum_take_le (ls : List Nat) : ∀ {k l : Nat}, k ≤ l → (ls.take k).sum ≤ (ls.take l).sum := by
  induction ls with
  | nil =>
    intro k l _
    rw [List.take_nil, List.take_nil]
  | cons x ls ih =>
    intro k l hle
    cases k with
    | zero => exact Nat.zero_le _
    | succ k =>
      cases l with
      | zero => exact absurd hle (Nat.not_succ_le_zero k)
      | succ l =>
        rw [List.take_succ_cons, List.take_succ_cons, List.sum_cons, List.sum_cons]
        exact Nat.add_le_add_left (ih (Nat.le_of_succ_le_succ hle)) x

theorem sum_take_succ {ls : List Nat} {k x : Nat} (hget : ls[k]? = some x) :
    (ls.take (k + 1)).sum = (ls.take k).sum + x := by
  rw [List.take_add_one, hget, List.sum_append]
  rfl

theorem daysBeforeYear_succ {year : Nat} (hyear : 1970 ≤ year) :
    daysBeforeYear (year + 1) = daysBeforeYear year + yearLength year := by
  have hsub : year + 1 - 1970 = (year - 1970) + 1 := by omega
  have hadd : 1970 + (year - 1970) = year := by omega
  rw [daysBeforeYear, daysBeforeYear, hsub, List.range_succ, List.map_append, List.sum_append,
    List.map_singleton, List.sum_singleton, hadd]

theorem daysBeforeYear_le {year year' : Nat} (hle : year ≤ year') :
    daysBeforeYear year ≤ daysBeforeYear year' := by
  obtain ⟨k, rfl⟩ := Nat.exists_eq_add_of_le hle
  clear hle
  induction k with
  | zero => exact Nat.le_refl _
  | succ k ih =>
    rcases Nat.lt_or_ge (year + k) 1970 with hlt | hge
    · have hsub : year - 1970 = 0 := by omega
      have hzero : daysBeforeYear year = 0 := by rw [daysBeforeYear, hsub, List.range_zero]; rfl
      rw [hzero]
      exact Nat.zero_le _
    · rw [← Nat.add_assoc, daysBeforeYear_succ hge]
      omega

theorem yearLength_pos (year : Nat) : 365 ≤ yearLength year := by
  rw [yearLength, monthLengths]
  split <;> decide

theorem daysBeforeYear_le_mul (k : Nat) : daysBeforeYear (1970 + k) ≤ 366 * k := by
  induction k with
  | zero => exact Nat.le_refl 0
  | succ k ih =>
    have hlength : yearLength (1970 + k) ≤ 366 := by
      rw [yearLength, monthLengths]
      split <;> decide
    rw [← Nat.add_assoc, daysBeforeYear_succ (Nat.le_add_right _ _)]
    omega

theorem findYear_spec : ∀ (bound year day : Nat), day ≤ bound → 1970 ≤ year →
    year ≤ (findYear bound year day).1 ∧
      (findYear bound year day).2 < yearLength (findYear bound year day).1 ∧
      daysBeforeYear (findYear bound year day).1 + (findYear bound year day).2 =
        daysBeforeYear year + day := by
  intro bound
  induction bound with
  | zero =>
    intro year day hle _
    have hpos := yearLength_pos year
    refine ⟨Nat.le_refl _, ?_, rfl⟩
    change day < yearLength year
    omega
  | succ bound ih =>
    intro year day hle hyear
    have hpos := yearLength_pos year
    rw [findYear]
    split
    next hlt => exact ⟨Nat.le_refl _, hlt, rfl⟩
    next hge =>
      obtain ⟨hfound, hlt, hdays⟩ := ih (year + 1) (day - yearLength year) (by omega) (by omega)
      refine ⟨by omega, hlt, ?_⟩
      rw [hdays, daysBeforeYear_succ hyear]
      omega

theorem findMonth_spec : ∀ (ls : List Nat) (month day : Nat), day < ls.sum →
    ∃ k length, (findMonth ls month day).1 = month + k ∧ ls[k]? = some length ∧
      (findMonth ls month day).2 < length ∧
      (ls.take k).sum + (findMonth ls month day).2 = day := by
  intro ls
  induction ls with
  | nil => exact fun month day hlt => absurd hlt (Nat.not_lt_zero day)
  | cons x ls ih =>
    intro month day hlt
    rw [findMonth]
    split
    next hday => exact ⟨0, x, rfl, rfl, hday, by simp⟩
    next hday =>
      rw [List.sum_cons] at hlt
      obtain ⟨k, length, hmonth, hget, hlength, hsum⟩ := ih (month + 1) (day - x) (by omega)
      refine ⟨k + 1, length, by omega, hget, hlength, ?_⟩
      rw [List.take_succ_cons, List.sum_cons]
      omega

theorem gmtime_spec (s : Nat) : (gmtime s).Valid ∧ (gmtime s).days = s / 86400 := by
  obtain ⟨hyear, hday, hdays⟩ := findYear_spec (s / 86400) 1970 (s / 86400) (Nat.le_refl _)
    (Nat.le_refl _)
  obtain ⟨k, length, hmonth, hget, hlength, hsum⟩ :=
    findMonth_spec (monthLengths (findYear (s / 86400) 1970 (s / 86400)).1) 1
      (findYear (s / 86400) 1970 (s / 86400)).2 hday
  have hzero : daysBeforeYear 1970 = 0 := rfl
  have hsub : (findMonth (monthLengths (findYear (s / 86400) 1970 (s / 86400)).1) 1
      (findYear (s / 86400) 1970 (s / 86400)).2).1 - 1 = k := by omega
  refine ⟨⟨⟨?_, Nat.le_add_left _ _, ⟨length, ?_, hlength⟩, ?_, ?_, ?_⟩, hyear⟩, ?_⟩
  · change 1 ≤ (findMonth _ 1 _).1
    omega
  · change (monthLengths _)[(findMonth _ 1 _).1 - 1]? = _
    rw [hsub]
    exact hget
  · change s % 86400 / 3600 < 24
    omega
  · change s % 3600 / 60 < 60
    omega
  · change s % 60 < 60
    omega
  · have htotal : (gmtime s).days = daysBeforeYear (findYear (s / 86400) 1970 (s / 86400)).1 +
        ((monthLengths (findYear (s / 86400) 1970 (s / 86400)).1).take
          ((findMonth (monthLengths (findYear (s / 86400) 1970 (s / 86400)).1) 1
            (findYear (s / 86400) 1970 (s / 86400)).2).1 - 1)).sum +
        (findMonth (monthLengths (findYear (s / 86400) 1970 (s / 86400)).1) 1
          (findYear (s / 86400) 1970 (s / 86400)).2).2 := rfl
    rw [htotal, hsub]
    omega

/-- The seconds come back. -/
@[simp] theorem timegm_gmtime (s : Nat) : timegm (gmtime s) = s := by
  rw [timegm, (gmtime_spec s).2]
  change ((s / 86400 * 24 + s % 86400 / 3600) * 60 + s % 3600 / 60) * 60 + s % 60 = s
  omega

/-! ## The order of dates -/

/-- The number that the digits of a date and a time spell. -/
def CivilTime.stamp (t : CivilTime) : Nat :=
  ((((t.year * 100 + t.month) * 100 + t.day) * 100 + t.hour) * 100 + t.minute) * 100 + t.second

theorem CivilTime.Dated.month_le {t : CivilTime} (hvalid : t.Dated) : t.month ≤ 12 := by
  obtain ⟨length, hget, -⟩ := hvalid.monthLength
  obtain ⟨hlt, -⟩ := List.getElem?_eq_some_iff.mp hget
  have hmonth := hvalid.month
  change t.month - 1 < 12 at hlt
  omega

theorem length_of_month_le (year : Nat) : ∀ length ∈ monthLengths year, length ≤ 31 := by
  rw [monthLengths]
  split <;> decide

theorem CivilTime.Dated.day_le {t : CivilTime} (hvalid : t.Dated) : t.day ≤ 31 := by
  obtain ⟨length, hget, hle⟩ := hvalid.monthLength
  exact Nat.le_trans hle (length_of_month_le t.year length (List.mem_of_getElem? hget))

theorem CivilTime.Dated.daysOfMonth {t : CivilTime} (hvalid : t.Dated) :
    daysBeforeMonth t.year t.month + t.day ≤ ((monthLengths t.year).take t.month).sum := by
  obtain ⟨length, hget, hle⟩ := hvalid.monthLength
  have hsum := sum_take_succ hget
  rw [Nat.sub_add_cancel hvalid.month] at hsum
  rw [daysBeforeMonth, hsum]
  omega

/-- A later date has more days before it. -/
theorem CivilTime.Valid.days_lt {t t' : CivilTime} (ht : t.Valid) (ht' : t'.Valid)
    (hlt : t.year < t'.year ∨ t.year = t'.year ∧ (t.month < t'.month ∨
      t.month = t'.month ∧ t.day < t'.day)) : t.days < t'.days := by
  have hday := ht.day
  have hday' := ht'.day
  have hmonth := ht.daysOfMonth
  rw [CivilTime.days, CivilTime.days]
  rcases hlt with hyear | ⟨hyear, hmonths | ⟨hmonths, hdays⟩⟩
  · have hnext := daysBeforeYear_succ ht.year
    have hle := daysBeforeYear_le (Nat.succ_le_of_lt hyear)
    rw [Nat.succ_eq_add_one] at hle
    have htotal := sum_take_le (monthLengths t.year) ht.month_le
    have hall : ((monthLengths t.year).take 12).sum = yearLength t.year := rfl
    omega
  · have hle := sum_take_le (monthLengths t.year) (Nat.le_sub_one_of_lt hmonths)
    rw [← hyear, daysBeforeMonth, daysBeforeMonth] at *
    omega
  · rw [← hyear, ← hmonths]
    omega

theorem CivilTime.Valid.days_lt_daysBeforeYear {t : CivilTime} (hvalid : t.Valid) :
    t.days < daysBeforeYear (t.year + 1) := by
  have hday := hvalid.day
  have hmonth := hvalid.daysOfMonth
  have htotal := sum_take_le (monthLengths t.year) hvalid.month_le
  have hall : ((monthLengths t.year).take 12).sum = yearLength t.year := rfl
  rw [CivilTime.days, daysBeforeYear_succ hvalid.year]
  omega

theorem timegm_lt {t t' : CivilTime} (ht : t.Valid) (ht' : t'.Valid) (hlt : t.stamp < t'.stamp) :
    timegm t < timegm t' := by
  have hmonth := ht.month_le
  have hmonth' := ht'.month_le
  have hday := ht.day_le
  have hday' := ht'.day_le
  have hhour := ht.hour
  have hhour' := ht'.hour
  have hminute := ht.minute
  have hminute' := ht'.minute
  have hsecond := ht.second
  have hsecond' := ht'.second
  rw [CivilTime.stamp, CivilTime.stamp] at hlt
  rw [timegm, timegm]
  by_cases hdate : t.year < t'.year ∨ t.year = t'.year ∧ (t.month < t'.month ∨
      t.month = t'.month ∧ t.day < t'.day)
  · have hdays := ht.days_lt ht' hdate
    omega
  · have hyear : t.year = t'.year := by omega
    have hmonths : t.month = t'.month := by omega
    have hday : t.day = t'.day := by omega
    have hdays : t.days = t'.days := by
      rw [CivilTime.days, CivilTime.days, hyear, hmonths, hday]
    omega

theorem eq_of_hundreds {a b x y : Nat} (hx : x < 100) (hy : y < 100)
    (heq : a * 100 + x = b * 100 + y) : a = b ∧ x = y := by
  omega

theorem CivilTime.Dated.eq_of_stamp {t t' : CivilTime} (ht : t.Dated) (ht' : t'.Dated)
    (hstamp : t.stamp = t'.stamp) : t = t' := by
  have hmonth := ht.month_le
  have hmonth' := ht'.month_le
  have hday := ht.day_le
  have hday' := ht'.day_le
  have hhour := ht.hour
  have hhour' := ht'.hour
  have hminute := ht.minute
  have hminute' := ht'.minute
  have hsecond := ht.second
  have hsecond' := ht'.second
  obtain ⟨hstamp, hseconds⟩ := eq_of_hundreds (by omega) (by omega) hstamp
  obtain ⟨hstamp, hminutes⟩ := eq_of_hundreds (by omega) (by omega) hstamp
  obtain ⟨hstamp, hhours⟩ := eq_of_hundreds (by omega) (by omega) hstamp
  obtain ⟨hstamp, hdays⟩ := eq_of_hundreds (by omega) (by omega) hstamp
  obtain ⟨hyears, hmonths⟩ := eq_of_hundreds (by omega) (by omega) hstamp
  exact (CivilTime.mk.injEq ..).mpr ⟨hyears, hmonths, hdays, hhours, hminutes, hseconds⟩

/-- Later seconds have later stamps. -/
theorem stamp_gmtime_lt_iff {s s' : Nat} : (gmtime s).stamp < (gmtime s').stamp ↔ s < s' := by
  have hvalid := (gmtime_spec s).1
  have hvalid' := (gmtime_spec s').1
  constructor
  · intro hlt
    have hseconds := timegm_lt hvalid hvalid' hlt
    rwa [timegm_gmtime, timegm_gmtime] at hseconds
  · intro hlt
    rcases Nat.lt_trichotomy (gmtime s).stamp (gmtime s').stamp with hstamp | hstamp | hstamp
    · exact hstamp
    · have hseconds := congrArg timegm (hvalid.toDated.eq_of_stamp hvalid'.toDated hstamp)
      rw [timegm_gmtime, timegm_gmtime] at hseconds
      omega
    · have hseconds := timegm_lt hvalid' hvalid hstamp
      rw [timegm_gmtime, timegm_gmtime] at hseconds
      omega

/-! ## Fourteen digits -/

/-- A date and a time as `%Y%m%d%H%M%S`. -/
def CivilTime.digits (t : CivilTime) : List Char :=
  padded 4 t.year ++ padded 2 t.month ++ padded 2 t.day ++ padded 2 t.hour ++ padded 2 t.minute ++
    padded 2 t.second

theorem CivilTime.allDigits (t : CivilTime) : AllDigits t.digits :=
  (((((allDigits_padded 4 _).append (allDigits_padded 2 _)).append (allDigits_padded 2 _)).append
    (allDigits_padded 2 _)).append (allDigits_padded 2 _)).append (allDigits_padded 2 _)

theorem CivilTime.Dated.lengths {t : CivilTime} (hvalid : t.Dated) (hyear : t.year < 10000) :
    (padded 4 t.year).length = 4 ∧ (padded 2 t.month).length = 2 ∧ (padded 2 t.day).length = 2 ∧
      (padded 2 t.hour).length = 2 ∧ (padded 2 t.minute).length = 2 ∧
      (padded 2 t.second).length = 2 := by
  have hmonth := hvalid.month_le
  have hday := hvalid.day_le
  have hhour := hvalid.hour
  have hminute := hvalid.minute
  have hsecond := hvalid.second
  exact ⟨length_padded (by decide) hyear, length_padded (by decide) (by omega),
    length_padded (by decide) (by omega), length_padded (by decide) (by omega),
    length_padded (by decide) (by omega), length_padded (by decide) (by omega)⟩

theorem CivilTime.Dated.length_digits {t : CivilTime} (hvalid : t.Dated) (hyear : t.year < 10000) :
    t.digits.length = 14 := by
  obtain ⟨h1, h2, h3, h4, h5, h6⟩ := hvalid.lengths hyear
  simp only [CivilTime.digits, List.length_append, h1, h2, h3, h4, h5, h6]

theorem CivilTime.Dated.value_digits {t : CivilTime} (hvalid : t.Dated) (hyear : t.year < 10000) :
    value t.digits = t.stamp := by
  obtain ⟨-, h2, h3, h4, h5, h6⟩ := hvalid.lengths hyear
  simp only [CivilTime.digits, value_append, value_padded, h2, h3, h4, h5, h6, CivilTime.stamp]
  omega

/-- Fourteen digits are in the order of the stamps. -/
theorem CivilTime.Dated.digits_lt_iff {t t' : CivilTime} (ht : t.Dated) (ht' : t'.Dated)
    (hyear : t.year < 10000) (hyear' : t'.year < 10000) :
    t.digits < t'.digits ↔ t.stamp < t'.stamp := by
  rw [lt_iff_value_lt t.allDigits t'.allDigits
    (by rw [ht.length_digits hyear, ht'.length_digits hyear']), ht.value_digits hyear,
    ht'.value_digits hyear']

/-- The seconds of four digits of a year are fewer than forty bits. -/
theorem lt_of_year_lt {s : Nat} (hyear : (gmtime s).year < 10000) : s < 2 ^ 40 := by
  obtain ⟨hvalid, hdays⟩ := gmtime_spec s
  have hlt := hvalid.days_lt_daysBeforeYear
  have hle := daysBeforeYear_le (Nat.succ_le_of_lt hyear)
  have hmul := daysBeforeYear_le_mul 8030
  rw [hdays] at hlt
  change daysBeforeYear 10000 ≤ 2938980 at hmul
  rw [Nat.succ_eq_add_one] at hle
  omega

/-! ## Before 1970 -/

/-- The seconds of two thousand years, which have the months of any other two thousand. -/
def longCycle : Nat := 730485 * 86400

/-- The seconds from the beginning of 1970, less than zero before it. -/
def CivilTime.seconds (t : CivilTime) : Int :=
  if 1970 ≤ t.year then timegm t else timegm { t with year := t.year + 2000 } - longCycle

/-- The date and the time of day, from the year 1 on. -/
def civilTime (s : Int) : CivilTime :=
  if 0 ≤ s then gmtime s.toNat
  else
    let t := gmtime (s + longCycle).toNat
    { t with year := t.year - 2000 }

theorem monthLengths_cycle (year : Nat) : monthLengths (year + 2000) = monthLengths year := by
  have h4 : (year + 2000) % 4 = year % 4 := by omega
  have h100 : (year + 2000) % 100 = year % 100 := by omega
  have h400 : (year + 2000) % 400 = year % 400 := by omega
  rw [monthLengths, monthLengths, isLeap, isLeap, h4, h100, h400]

theorem daysBeforeYear_3970 : daysBeforeYear 3970 = 730485 := by decide +kernel

/-- Before 1970 the same date of two thousand years later is what the seconds are counted by. -/
theorem civilTime_of_neg {s : Int} (hneg : s < 0) (hyear : 1 ≤ (civilTime s).year) :
    0 ≤ s + longCycle ∧ (civilTime s).year + 2000 = (gmtime (s + longCycle).toNat).year ∧
      (civilTime s).year < 1970 ∧
      { civilTime s with year := (civilTime s).year + 2000 } = gmtime (s + longCycle).toNat := by
  have hciv : civilTime s = { gmtime (s + longCycle).toNat with
      year := (gmtime (s + longCycle).toNat).year - 2000 } := by
    rw [civilTime, if_neg (by omega)]
  rw [hciv] at hyear ⊢
  change 1 ≤ (gmtime (s + longCycle).toNat).year - 2000 at hyear
  have hnonneg : 0 ≤ s + longCycle := by
    by_contra hlt
    have hzero : (s + longCycle).toNat = 0 := Int.toNat_of_nonpos (by omega)
    rw [hzero] at hyear
    exact absurd hyear (by decide)
  have hback : (gmtime (s + longCycle).toNat).year - 2000 + 2000 =
      (gmtime (s + longCycle).toNat).year := by omega
  refine ⟨hnonneg, hback, ?_, ?_⟩
  · change (gmtime (s + longCycle).toNat).year - 2000 < 1970
    by_contra hge
    have hle := daysBeforeYear_le (show 3970 ≤ (gmtime (s + longCycle).toNat).year by omega)
    have hdays := (gmtime_spec (s + longCycle).toNat).2
    rw [CivilTime.days] at hdays
    rw [daysBeforeYear_3970] at hle
    have hcycle : longCycle = 730485 * 86400 := rfl
    omega
  · change CivilTime.mk _ _ _ _ _ _ = _
    rw [hback]

@[simp] theorem civilTime_natCast (s : Nat) : civilTime s = gmtime s := by
  rw [civilTime, if_pos (Int.natCast_nonneg s), Int.toNat_natCast]

@[simp] theorem seconds_gmtime (s : Nat) : (gmtime s).seconds = s := by
  rw [CivilTime.seconds, if_pos (gmtime_spec s).1.year, timegm_gmtime]

theorem seconds_civilTime {s : Int} (hyear : 1 ≤ (civilTime s).year) :
    (civilTime s).seconds = s := by
  rcases Int.lt_or_le s 0 with hneg | hnonneg
  · obtain ⟨hnonneg, -, hlt, hshift⟩ := civilTime_of_neg hneg hyear
    rw [CivilTime.seconds, if_neg (by omega), hshift, timegm_gmtime, Int.toNat_of_nonneg hnonneg]
    omega
  · obtain ⟨k, rfl⟩ := Int.eq_ofNat_of_zero_le hnonneg
    rw [civilTime_natCast, seconds_gmtime]

theorem civilTime_dated {s : Int} (hyear : 1 ≤ (civilTime s).year) : (civilTime s).Dated := by
  rcases Int.lt_or_le s 0 with hneg | hnonneg
  · obtain ⟨-, -, -, hshift⟩ := civilTime_of_neg hneg hyear
    have hdated := (gmtime_spec (s + longCycle).toNat).1.toDated
    rw [← hshift] at hdated
    obtain ⟨hmonth, hday, hlength, hhour, hminute, hsecond⟩ := hdated
    rw [monthLengths_cycle] at hlength
    exact ⟨hmonth, hday, hlength, hhour, hminute, hsecond⟩
  · obtain ⟨k, rfl⟩ := Int.eq_ofNat_of_zero_le hnonneg
    rw [civilTime_natCast]
    exact (gmtime_spec k).1.toDated

/-- Later seconds have later stamps, before 1970 too. -/
theorem stamp_civilTime_lt {s s' : Int} (hyear : 1 ≤ (civilTime s).year)
    (hyear' : 1 ≤ (civilTime s').year) (hlt : s < s') :
    (civilTime s).stamp < (civilTime s').stamp := by
  have hdated := civilTime_dated hyear
  have hdated' := civilTime_dated hyear'
  have hshift : ∀ t : CivilTime,
      ({ t with year := t.year + 2000 } : CivilTime).stamp = t.stamp + 2000 * 10 ^ 10 := by
    intro t
    simp only [CivilTime.stamp]
    omega
  rcases Int.lt_or_le s 0 with hneg | hnonneg
  · obtain ⟨hle, -, hbefore, heq⟩ := civilTime_of_neg hneg hyear
    rcases Int.lt_or_le s' 0 with hneg' | hnonneg'
    · obtain ⟨hle', -, -, heq'⟩ := civilTime_of_neg hneg' hyear'
      have hstamp := (@stamp_gmtime_lt_iff (s + longCycle).toNat
        (s' + longCycle).toNat).mpr (by omega)
      rw [← heq, ← heq', hshift, hshift] at hstamp
      omega
    · obtain ⟨k, rfl⟩ := Int.eq_ofNat_of_zero_le hnonneg'
      have hafter : 1970 ≤ (civilTime k).year := by
        rw [civilTime_natCast]
        exact (gmtime_spec k).1.year
      have hmonth := hdated.month_le
      have hday := hdated.day_le
      have hhour := hdated.hour
      have hminute := hdated.minute
      have hsecond := hdated.second
      rw [CivilTime.stamp, CivilTime.stamp]
      omega
  · obtain ⟨k, rfl⟩ := Int.eq_ofNat_of_zero_le hnonneg
    obtain ⟨k', rfl⟩ := Int.eq_ofNat_of_zero_le (show 0 ≤ s' by omega)
    rw [civilTime_natCast, civilTime_natCast]
    exact stamp_gmtime_lt_iff.mpr (by omega)

/-- Fourteen digits are in the order of the seconds. -/
theorem digits_civilTime_lt_iff {s s' : Int} (hfirst : 1 ≤ (civilTime s).year)
    (hfirst' : 1 ≤ (civilTime s').year) (hyear : (civilTime s).year < 10000)
    (hyear' : (civilTime s').year < 10000) :
    (civilTime s).digits < (civilTime s').digits ↔ s < s' := by
  rw [(civilTime_dated hfirst).digits_lt_iff (civilTime_dated hfirst') hyear hyear']
  constructor
  · intro hlt
    rcases Int.lt_trichotomy s s' with hs | rfl | hs
    · exact hs
    · exact absurd hlt (Nat.lt_irrefl _)
    · exact absurd (stamp_civilTime_lt hfirst' hfirst hs) (Nat.lt_asymm hlt)
  · exact stamp_civilTime_lt hfirst hfirst'

end Hatohol.Time

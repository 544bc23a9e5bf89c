import Hatohol.Params
import Hatohol.Time.Calendar
import Mathlib.Tactic.Ring

/-!
# Timestamps as the server reads them

`HatoholArmPluginGateHAPI2::parseTimeStamp`, with `strptime` and `timegm` of the C library and
`StringUtils::split`.
-/

namespace Hatohol

open Time

/-! ## StringUtils -/

/-- The loop of `splitTemplate`. The second list is the word that `currWordHead` and `len` span. -/
def splitTemplate (separator : Char) (doMerge : Bool) : List Char → List Char → List (List Char)
  | [], word => if word ≠ [] ∨ doMerge = false then [word] else []
  | c :: cs, word =>
      if c ≠ separator then splitTemplate separator doMerge cs (word ++ [c])
      else if word ≠ [] ∨ doMerge = false then word :: splitTemplate separator doMerge cs []
      else splitTemplate separator doMerge cs []

/-- The target is walked as a C string. -/
def split (target : List Char) (separator : Char) (doMerge : Bool) : List (List Char) :=
  splitTemplate separator doMerge (target.takeWhile (· != '\x00')) []

/-! ## strptime -/

/-- The digits after the first one of a number. One more is read as long as the number may still
    be in range with it. -/
def getDigits (high : Nat) : Nat → Nat → List Char → Nat × List Char
  | 0, val, cs => (val, cs)
  | _ + 1, val, [] => (val, [])
  | n + 1, val, c :: cs =>
      if val * 10 ≤ high ∧ c.isDigit then
        getDigits high n (val * 10 + (c.toNat - '0'.toNat)) cs
      else (val, c :: cs)

/-- `get_number`. Blanks in front are passed over. -/
def getNumber (low high width : Nat) (cs : List Char) : Option (Nat × List Char) :=
  match cs.dropWhile (· == ' ') with
  | [] => none
  | c :: cs =>
      if c.isDigit then
        let (val, rest) := getDigits high (width - 1) (c.toNat - '0'.toNat) cs
        if low ≤ val ∧ val ≤ high then some (val, rest) else none
      else none

/-- `strptime` with `%Y%m%d%H%M%S`, the rest of the text included. -/
def strptime (cs : List Char) : Option (CivilTime × List Char) := do
  let (year, cs) ← getNumber 0 9999 4 cs
  let (month, cs) ← getNumber 1 12 2 cs
  let (day, cs) ← getNumber 1 31 2 cs
  let (hour, cs) ← getNumber 0 23 2 cs
  let (minute, cs) ← getNumber 0 59 2 cs
  let (second, cs) ← getNumber 0 61 2 cs
  some (⟨year, month, day, hour, minute, second⟩, cs)

/-! ## parseTimeStamp -/

/-- The digits after the point, with zeros behind them up to nine. -/
def parseNanoSeconds (digits : List Char) : Option Nat :=
  if 9 < digits.length then none
  else if digits.any fun ch => ch < '0' || '9' < ch then none
  else some (value (digits ++ List.replicate (9 - digits.length) '0'))

/-- What stands behind the seconds of a time without a point is not looked at. -/
def parseTimeStamp (timeStampString : List Char) (allowEmpty : Bool) : Option Timespec :=
  if timeStampString = [] then if allowEmpty then some ⟨0, 0⟩ else none
  else
    match split timeStampString '.' false with
    | [time] => do
        let (tm, _) ← strptime time
        some ⟨tm.seconds, 0⟩
    | [time, fraction] => do
        let (tm, _) ← strptime time
        let nsec ← parseNanoSeconds fraction
        some ⟨tm.seconds, nsec⟩
    | _ => none

/-! ## Numbers of a fixed width -/

theorem getDigits_append (high : Nat) (rest : List Char) : ∀ (ds : List Char) (val : Nat),
    AllDigits ds → 10 ^ ds.length * val + value ds ≤ high →
      getDigits high ds.length val (ds ++ rest) = (10 ^ ds.length * val + value ds, rest) := by
  intro ds
  induction ds with
  | nil =>
    intro val _ _
    rw [List.nil_append]
    change (val, rest) = _
    rw [List.length_nil, Nat.pow_zero, Nat.one_mul]
    rfl
  | cons d ds ih =>
    intro val hdigits hle
    have hd := hdigits d List.mem_cons_self
    have hds : AllDigits ds := fun c hmem => hdigits c (List.mem_cons_of_mem d hmem)
    have htotal : 10 ^ (d :: ds).length * val + value (d :: ds) =
        10 ^ ds.length * (val * 10 + (d.toNat - '0'.toNat)) + value ds := by
      rw [value_cons, List.length_cons, Nat.pow_succ]
      ring
    have hpos : 1 ≤ 10 ^ ds.length := Nat.one_le_pow _ _ (by decide)
    have hnext : val * 10 ≤ high := by
      rw [htotal] at hle
      have hmul := Nat.mul_le_mul_right (val * 10 + (d.toNat - '0'.toNat)) hpos
      omega
    rw [htotal] at hle ⊢
    rw [List.length_cons, List.cons_append, getDigits, if_pos ⟨hnext, hd⟩, ih _ hds hle]

/-- A number of its full width is read as it is. -/
theorem getNumber_append (low high : Nat) {ds : List Char} (hne : ds ≠ []) (hdigits : AllDigits ds)
    (hlow : low ≤ value ds) (hhigh : value ds ≤ high) (rest : List Char) :
    getNumber low high ds.length (ds ++ rest) = some (value ds, rest) := by
  cases ds with
  | nil => exact absurd rfl hne
  | cons d ds =>
    have hd := hdigits d List.mem_cons_self
    have hds : AllDigits ds := fun c hmem => hdigits c (List.mem_cons_of_mem d hmem)
    have hblank : (d == ' ') = false := by
      rw [beq_eq_false_iff_ne]
      rintro rfl
      exact absurd hd (by decide)
    have hvalue := value_cons d ds
    rw [getNumber, List.cons_append, List.dropWhile_cons, hblank, if_neg Bool.false_ne_true]
    change (if d.isDigit then _ else _) = _
    rw [if_pos hd, List.length_cons, Nat.add_sub_cancel,
      getDigits_append high rest ds _ hds (by omega), ← hvalue]
    exact if_pos ⟨hlow, hhigh⟩

theorem getNumber_padded {low high width n : Nat} (hpos : 0 < width) (hlt : n < 10 ^ width)
    (hlow : low ≤ n) (hhigh : n ≤ high) (rest : List Char) :
    getNumber low high width (padded width n ++ rest) = some (n, rest) := by
  have hlength := length_padded hpos hlt
  have hne : padded width n ≠ [] := by
    rw [← List.length_pos_iff, hlength]
    exact hpos
  have hread := getNumber_append low high hne (allDigits_padded width n) (by rwa [value_padded])
    (by rwa [value_padded]) rest
  rwa [hlength, value_padded] at hread

/-- A date and a time of four and of two digits come back. -/
theorem strptime_digits {t : CivilTime} (hvalid : t.Dated) (hyear : t.year < 10000)
    (rest : List Char) : strptime (t.digits ++ rest) = some (t, rest) := by
  have hmonth := hvalid.month_le
  have hday := hvalid.day_le
  have hhour := hvalid.hour
  have hminute := hvalid.minute
  have hsecond := hvalid.second
  simp only [CivilTime.digits, List.append_assoc]
  simp only [strptime, Option.bind_eq_bind, Option.bind_some,
    getNumber_padded (show 0 < 4 by decide) hyear (Nat.zero_le _) (Nat.le_of_lt_succ hyear),
    getNumber_padded (show 0 < 2 by decide) (show t.month < 100 by omega) hvalid.month hmonth,
    getNumber_padded (show 0 < 2 by decide) (show t.day < 100 by omega) hvalid.day hday,
    getNumber_padded (show 0 < 2 by decide) (show t.hour < 100 by omega) (Nat.zero_le _)
      (Nat.le_of_lt_succ hhour),
    getNumber_padded (show 0 < 2 by decide) (show t.minute < 100 by omega) (Nat.zero_le _)
      (Nat.le_of_lt_succ hminute),
    getNumber_padded (show 0 < 2 by decide) (show t.second < 100 by omega) (Nat.zero_le _)
      (show t.second ≤ 61 by omega)]

/-! ## The words of a text -/

theorem splitTemplate_of_notMem {separator : Char} : ∀ (cs word : List Char), separator ∉ cs →
    splitTemplate separator false cs word = [word ++ cs] := by
  intro cs
  induction cs with
  | nil =>
    intro word _
    rw [splitTemplate, if_pos (.inr rfl), List.append_nil]
  | cons c cs ih =>
    intro word hmem
    obtain ⟨hne, hmem⟩ := not_or.mp (List.mem_cons.not.mp hmem)
    rw [splitTemplate, if_pos (Ne.symm hne), ih (word ++ [c]) hmem, List.append_assoc,
      List.singleton_append]

theorem splitTemplate_append {separator : Char} (rest : List Char) : ∀ (cs word : List Char),
    separator ∉ cs → splitTemplate separator false (cs ++ separator :: rest) word =
      (word ++ cs) :: splitTemplate separator false rest [] := by
  intro cs
  induction cs with
  | nil =>
    intro word _
    rw [List.nil_append, splitTemplate, if_neg (fun h => h rfl), if_pos (.inr rfl),
      List.append_nil]
  | cons c cs ih =>
    intro word hmem
    obtain ⟨hne, hmem⟩ := not_or.mp (List.mem_cons.not.mp hmem)
    rw [List.cons_append, splitTemplate, if_pos (Ne.symm hne), ih (word ++ [c]) hmem,
      List.append_assoc, List.singleton_append]

theorem Time.AllDigits.notMem {cs : List Char} (hcs : AllDigits cs) {c : Char}
    (hc : c.isDigit = false) : c ∉ cs := by
  intro hmem
  rw [hcs c hmem] at hc
  cases hc

/-- Digits around a point are its two words. -/
theorem splitTemplate_point {a b : List Char} (ha : AllDigits a) (hb : AllDigits b) :
    splitTemplate '.' false (a ++ '.' :: b) [] = [a, b] := by
  rw [splitTemplate_append b a [] (ha.notMem rfl), splitTemplate_of_notMem b [] (hb.notMem rfl)]
  rfl

theorem split_point {a b : List Char} (ha : AllDigits a) (hb : AllDigits b) :
    split (a ++ '.' :: b) '.' false = [a, b] := by
  have hall : ∀ c ∈ a ++ '.' :: b, (c != '\x00') = true := by
    intro c hmem
    rw [bne_iff_ne]
    rintro rfl
    rcases List.mem_append.mp hmem with hmem | hmem
    · exact ha.notMem rfl hmem
    · rcases List.mem_cons.mp hmem with heq | hmem
      · exact absurd heq (by decide)
      · exact hb.notMem rfl hmem
  have hwhole : (a ++ '.' :: b ++ []).takeWhile (· != '\x00') =
      a ++ '.' :: b ++ [].takeWhile (· != '\x00') := List.takeWhile_append_of_pos hall
  rw [List.takeWhile_nil, List.append_nil] at hwhole
  rw [split, hwhole, splitTemplate_point ha hb]

/-! ## What is read of a time -/

theorem parseNanoSeconds_of_allDigits {digits : List Char} (hdigits : AllDigits digits) :
    parseNanoSeconds digits =
      if 9 < digits.length then none else some (10 ^ (9 - digits.length) * value digits) := by
  have hany : (digits.any fun ch => ch < '0' || '9' < ch) = false := by
    rw [List.any_eq_false]
    intro c hmem
    have hc := Char.isDigit_iff_toNat.mp (hdigits c hmem)
    have hzero : '0'.toNat = 48 := rfl
    have hnine : '9'.toNat = 57 := rfl
    rw [Bool.or_eq_true, decide_eq_true_eq, decide_eq_true_eq, Char.lt_def, Char.lt_def,
      UInt32.lt_iff_toNat_lt, UInt32.lt_iff_toNat_lt]
    change ¬(c.toNat < '0'.toNat ∨ '9'.toNat < c.toNat)
    omega
  rw [parseNanoSeconds, hany, if_neg Bool.false_ne_true, value_append, List.length_replicate]
  have hzeros : value (List.replicate (9 - digits.length) '0') = 0 := by
    rw [value, Nat.ofDigitChars_replicate_zero, Nat.mul_zero]
  rw [hzeros, Nat.add_zero]

/-- A time with digits behind the point has nine of them filled up with zeros on the right. -/
theorem parseTimeStamp_point {t : CivilTime} (hvalid : t.Dated) (hyear : t.year < 10000)
    {fraction : List Char} (hfraction : AllDigits fraction) (allowEmpty : Bool) :
    parseTimeStamp (t.digits ++ '.' :: fraction) allowEmpty =
      if 9 < fraction.length then none
      else some ⟨t.seconds, 10 ^ (9 - fraction.length) * value fraction⟩ := by
  have hread := strptime_digits hvalid hyear []
  rw [List.append_nil] at hread
  rw [parseTimeStamp, if_neg (by simp), split_point t.allDigits hfraction]
  change ((strptime t.digits).bind fun r => (parseNanoSeconds fraction).bind fun n =>
    some (⟨r.1.seconds, n⟩ : Timespec)) = _
  rw [hread, Option.bind_some, parseNanoSeconds_of_allDigits hfraction]
  split <;> rfl

end Hatohol

import Hatohol.Time.Calendar
import Hatohol.Time.Rounding

/-!
# What the plugins have in common

The times of HAPI2 as hapcommon.py writes and reads them. A text is a list of characters, an
exception is no result.
-/

namespace Hatohol.Hapcommon

open Time

/-! ## The Python library -/

/-- A `datetime` without a time zone. -/
structure DateTime where
  time : CivilTime
  microsecond : Nat
  deriving DecidableEq, Repr

/-- A date and a time of day that there are. -/
structure DateTime.Valid (d : DateTime) : Prop where
  date : civilTime d.time.seconds = d.time
  first : 1 ≤ d.time.year
  last : d.time.year ≤ 9999
  microsecond : d.microsecond < 10 ^ 6

/-- The microseconds from the beginning of 1970. -/
def DateTime.instant (d : DateTime) : Int := d.time.seconds * 10 ^ 6 + d.microsecond

/-- `strftime` with `%Y%m%d%H%M%S`, which knows no year before 1900. -/
def strftime (t : CivilTime) : Option (List Char) :=
  if t.year < 1900 then none else some t.digits

/-- The sum with a `timedelta` of whole seconds, which has to stay in the years 1 to 9999. -/
def DateTime.add (date_time : DateTime) (offset : Int) : Option DateTime :=
  let time := civilTime (date_time.time.seconds + offset)
  if 1 ≤ time.year ∧ time.year ≤ 9999 then some ⟨time, date_time.microsecond⟩ else none

/-- `\d\d\d\d` of the pattern that `datetime.strptime` builds. -/
def yearMatches : List Char → List (Nat × List Char)
  | a :: b :: c :: d :: cs =>
      if [a, b, c, d].all Char.isDigit then [(value [a, b, c, d], cs)] else []
  | _ => []

/-- The other fields of the pattern are two digits in some range, else one digit. -/
def fieldMatches (two one : Nat → Bool) (cs : List Char) : List (Nat × List Char) :=
  (match cs with
    | a :: b :: cs =>
        if [a, b].all Char.isDigit && two (value [a, b]) then [(value [a, b], cs)] else []
    | _ => []) ++
  match cs with
  | a :: cs => if a.isDigit && one (value [a]) then [(value [a], cs)] else []
  | [] => []

/-- A day may also be a blank and a digit. -/
def dayMatches (cs : List Char) : List (Nat × List Char) :=
  fieldMatches (fun n => 1 ≤ n && n ≤ 31) (1 ≤ ·) cs ++
  match cs with
  | ' ' :: a :: cs => if a.isDigit && 1 ≤ value [a] then [(value [a], cs)] else []
  | _ => []

/-- The matches of `%Y%m%d%H%M%S`, in the order in which they are tried. -/
def timeMatches (text : List Char) : List (CivilTime × List Char) :=
  (yearMatches text).flatMap fun (year, cs) =>
  (fieldMatches (fun n => 1 ≤ n && n ≤ 12) (1 ≤ ·) cs).flatMap fun (month, cs) =>
  (dayMatches cs).flatMap fun (day, cs) =>
  (fieldMatches (· ≤ 23) (fun _ => true) cs).flatMap fun (hour, cs) =>
  (fieldMatches (· ≤ 59) (fun _ => true) cs).flatMap fun (minute, cs) =>
  (fieldMatches (· ≤ 61) (fun _ => true) cs).map fun (second, cs) =>
    (⟨year, month, day, hour, minute, second⟩, cs)

/-- `datetime.strptime`: the first match has to reach the end of the text, and there has to be such
    a date and time. -/
def strptime (text : List Char) : Option CivilTime :=
  match (timeMatches text).head? with
  | some (t, []) =>
      if 1 ≤ t.year ∧ (monthLengths t.year)[t.month - 1]?.any (t.day ≤ ·) ∧
        t.second < 60 then some t
      else none
  | _ => none

def unsigned (cs : List Char) : Option Int :=
  if cs ≠ [] ∧ cs.all Char.isDigit then some (value cs) else none

/-- `int` of a text. -/
def int (text : List Char) : Option Int :=
  match ((text.dropWhile Char.isWhitespace).reverse.dropWhile Char.isWhitespace).reverse with
  | '-' :: cs => (unsigned cs).map (- ·)
  | '+' :: cs => unsigned cs
  | cs => unsigned cs

/-- `float` of a number. A sum or a quotient of floating point numbers is the exact one, rounded. -/
def float (x : ℚ) : ℚ := if 0 ≤ x then toDouble x else -toDouble (-x)

/-! ## hapcommon.py -/

def translate_unix_time_to_hatohol_time (unix_time ns : Int) : Option (List Char) := do
  let utc_time := civilTime unix_time
  let hatohol_time ← strftime utc_time
  if 1000000000 < ns ∨ ns < 0 then none
  else some (hatohol_time ++ '.' :: padded 9 ns.toNat)

def translate_hatohol_time_to_unix_time (hatohol_time : List Char) : Option ℚ := do
  -- A text with several points cannot be unpacked.
  let (hatohol_time, ns) ←
    if '.' ∈ hatohol_time then
      match hatohol_time.splitOn '.' with
      | [hatohol_time, ns] => some (hatohol_time, some ns)
      | _ => none
    else some (hatohol_time, none)
  let date_time ← strptime hatohol_time
  let ns ← (ns.map int).getD (some 0)
  some (float (float date_time.seconds + float (float ns / float (10 ^ 9))))

/-- `str.zfill`, which leaves a sign in front. -/
def str_zfill (width : Nat) : List Char → List Char
  | '+' :: cs => '+' :: zfill (width - 1) cs
  | '-' :: cs => '-' :: zfill (width - 1) cs
  | cs => zfill width cs

/-- The body of the last loop. `None` is smaller than any text. -/
def biggerOf (last_info : Option (List Char)) (target_value : List Char) : Option (List Char) :=
  match last_info with
  | none => some target_value
  | some value => if value < target_value then some target_value else some value

/-- The body of the first loop. -/
def longer (digit : Nat) (target_value : List Char) : Nat :=
  if digit < target_value.length then target_value.length else digit

/-- The values of the key, which are texts. -/
def get_biggest_num_of_dict_array (values : List (List Char)) : Option (List Char) :=
  let digit := values.foldl longer 0
  (values.map (str_zfill digit)).foldl biggerOf none

/-- The argument is what `datetime.utcnow()` returns. -/
def get_current_hatohol_time (utc_now : DateTime) : Option (List Char) := do
  let time ← strftime utc_now.time
  some (time ++ '.' :: Nat.toDigits 10 utc_now.microsecond)

def conv_to_hapi_time (date_time : DateTime) (offset : Int) : Option (List Char) := do
  let adjust_time ← date_time.add offset
  let time ← strftime adjust_time.time
  some (time ++ '.' :: padded 6 adjust_time.microsecond)

/-! ## The biggest of some values -/

theorem foldl_biggerOf (vs : List (List Char)) : ∀ v : List Char,
    ∃ b ∈ v :: vs, vs.foldl biggerOf (some v) = some b ∧ ∀ u ∈ v :: vs, ¬ b < u := by
  induction vs with
  | nil =>
    intro v
    refine ⟨v, List.mem_cons_self, rfl, fun u hmem => ?_⟩
    rw [List.mem_singleton.mp hmem]
    exact List.lt_irrefl v
  | cons w ws ih =>
    intro v
    rw [List.foldl_cons, biggerOf]
    by_cases hlt : v < w
    · obtain ⟨b, hmem, hfold, hmax⟩ := ih w
      rw [if_pos hlt]
      refine ⟨b, List.mem_cons_of_mem v hmem, hfold, fun u hu => ?_⟩
      rcases List.mem_cons.mp hu with rfl | hu
      · have hw := hmax w List.mem_cons_self
        exact fun hb => hw (List.lt_trans hb hlt)
      · exact hmax u hu
    · obtain ⟨b, hmem, hfold, hmax⟩ := ih v
      rw [if_neg hlt]
      have hb := hmax v List.mem_cons_self
      refine ⟨b, ?_, hfold, fun u hu => ?_⟩
      · rcases List.mem_cons.mp hmem with rfl | hmem
        · exact List.mem_cons_self
        · exact List.mem_cons_of_mem v (List.mem_cons_of_mem w hmem)
      · rcases List.mem_cons.mp hu with rfl | hu
        · exact hb
        · rcases List.mem_cons.mp hu with rfl | hu
          · exact List.not_lt.mpr (List.le_trans (List.not_lt.mp hlt) (List.not_lt.mp hb))
          · exact hmax u (List.mem_cons_of_mem v hu)

theorem foldl_longer (vs : List (List Char)) : ∀ digit : Nat,
    digit ≤ vs.foldl longer digit ∧ (∀ v ∈ vs, v.length ≤ vs.foldl longer digit) ∧
    ∀ bound, digit ≤ bound → (∀ v ∈ vs, v.length ≤ bound) → vs.foldl longer digit ≤ bound := by
  induction vs with
  | nil => exact fun digit => ⟨Nat.le_refl _, fun _ hmem => (List.not_mem_nil hmem).elim,
      fun _ hle _ => hle⟩
  | cons w ws ih =>
    intro digit
    have hlonger : longer digit w = max digit w.length := by
      rw [longer]
      split <;> omega
    obtain ⟨hge, hall, hbound⟩ := ih (longer digit w)
    rw [List.foldl_cons]
    refine ⟨by omega, fun v hmem => ?_, fun bound hdigit hlengths => ?_⟩
    · rcases List.mem_cons.mp hmem with rfl | hmem
      · omega
      · exact hall v hmem
    · have hw := hlengths w List.mem_cons_self
      exact hbound bound (by omega) fun v hmem => hlengths v (List.mem_cons_of_mem w hmem)

/-- One of the values is the biggest, all of them filled up to the length of the longest. -/
theorem get_biggest_spec {values : List (List Char)} (hne : values ≠ []) :
    ∃ digit, (∀ v ∈ values, v.length ≤ digit) ∧
      (∀ bound, (∀ v ∈ values, v.length ≤ bound) → digit ≤ bound) ∧
      ∃ b ∈ values, get_biggest_num_of_dict_array values = some (str_zfill digit b) ∧
        ∀ u ∈ values, ¬ str_zfill digit b < str_zfill digit u := by
  obtain ⟨-, hall, hbound⟩ := foldl_longer values 0
  refine ⟨values.foldl longer 0, hall, fun bound => hbound bound (Nat.zero_le _), ?_⟩
  rw [get_biggest_num_of_dict_array]
  cases values with
  | nil => exact absurd rfl hne
  | cons v vs =>
    obtain ⟨b, hmem, hfold, hmax⟩ := foldl_biggerOf
      (vs.map (str_zfill ((v :: vs).foldl longer 0))) (str_zfill ((v :: vs).foldl longer 0) v)
    rw [← List.map_cons] at hmem hmax
    obtain ⟨c, hc, rfl⟩ := List.mem_map.mp hmem
    exact ⟨c, hc, hfold, fun u hu => hmax _ (List.mem_map_of_mem hu)⟩

/-! ## What is written is read -/

theorem head?_flatMap_eq {α β : Type} {l : List α} {f : α → List β} {a : α} {b : β}
    (hl : l.head? = some a) (hf : (f a).head? = some b) : (l.flatMap f).head? = some b := by
  cases l with
  | nil => cases hl
  | cons x xs =>
    obtain rfl : x = a := by simpa using hl
    rw [List.flatMap_cons, List.head?_append, hf]
    rfl

/-- Four digits are the year. -/
theorem head?_yearMatches {n : Nat} (hlt : n < 10000) (rest : List Char) :
    (yearMatches (padded 4 n ++ rest)).head? = some (n, rest) := by
  have hlength := length_padded (show 0 < 4 by decide) hlt
  have hvalue := value_padded 4 n
  have hdigits := List.all_eq_true.mpr (allDigits_padded 4 n)
  obtain ⟨a, b, c, d, hcs⟩ : ∃ a b c d, padded 4 n = [a, b, c, d] := by
    generalize padded 4 n = cs at hlength
    match cs, hlength with
    | [a, b, c, d], _ => exact ⟨a, b, c, d, rfl⟩
  rw [hcs] at hvalue hdigits ⊢
  change (if [a, b, c, d].all Char.isDigit then [(value [a, b, c, d], rest)] else []).head? = _
  rw [if_pos hdigits, hvalue]
  rfl

/-- Two digits in range are tried first. -/
theorem head?_fieldMatches (two one : Nat → Bool) {n : Nat} (hlt : n < 100) (htwo : two n = true)
    (rest : List Char) : (fieldMatches two one (padded 2 n ++ rest)).head? = some (n, rest) := by
  have hlength := length_padded (show 0 < 2 by decide) hlt
  have hvalue := value_padded 2 n
  have hdigits := List.all_eq_true.mpr (allDigits_padded 2 n)
  obtain ⟨a, b, hcs⟩ := List.length_eq_two.mp hlength
  rw [hcs] at hvalue hdigits ⊢
  change ((if [a, b].all Char.isDigit && two (value [a, b]) then [(value [a, b], rest)]
    else []) ++ _).head? = _
  rw [List.head?_append]
  rw [hvalue, hdigits, htwo, Bool.and_true, if_pos rfl]
  rfl

theorem head?_dayMatches {n : Nat} (hpos : 1 ≤ n) (hle : n ≤ 31) (rest : List Char) :
    (dayMatches (padded 2 n ++ rest)).head? = some (n, rest) := by
  have hfirst := head?_fieldMatches (fun n => 1 ≤ n && n ≤ 31) (1 ≤ ·) (show n < 100 by omega)
    (by simp [hpos, hle]) rest
  change (fieldMatches _ _ (padded 2 n ++ rest) ++ _).head? = _
  rw [List.head?_append, hfirst]
  rfl

theorem head?_timeMatches {t : CivilTime} (hvalid : t.Dated) (hyear : t.year < 10000) :
    (timeMatches t.digits).head? = some (t, []) := by
  have hmonth := hvalid.month_le
  have hday := hvalid.day_le
  have hhour := hvalid.hour
  have hminute := hvalid.minute
  have hsecond := hvalid.second
  have hlast := head?_fieldMatches (· ≤ 61) (fun _ => true) (show t.second < 100 by omega)
    (decide_eq_true (show t.second ≤ 61 by omega)) []
  rw [List.append_nil] at hlast
  simp only [CivilTime.digits, List.append_assoc, timeMatches]
  refine head?_flatMap_eq (head?_yearMatches hyear _) ?_
  refine head?_flatMap_eq
    (head?_fieldMatches _ _ (by omega) (by simp [hvalid.month, hmonth]) _) ?_
  refine head?_flatMap_eq (head?_dayMatches hvalid.day hday _) ?_
  refine head?_flatMap_eq (head?_fieldMatches _ _ (by omega) (decide_eq_true (by omega)) _) ?_
  refine head?_flatMap_eq (head?_fieldMatches _ _ (by omega) (decide_eq_true (by omega)) _) ?_
  rw [List.head?_map, hlast]
  rfl

theorem strptime_digits {t : CivilTime} (hvalid : t.Dated) (hfirst : 1 ≤ t.year)
    (hyear : t.year < 10000) :
    strptime t.digits = some t := by
  obtain ⟨length, hget, hle⟩ := hvalid.monthLength
  rw [strptime, head?_timeMatches hvalid hyear]
  change (if 1 ≤ t.year ∧ _ ∧ t.second < 60 then some t else none) = _
  rw [if_pos ⟨hfirst, by rw [hget]; exact decide_eq_true hle, hvalid.second⟩]

theorem isWhitespace_of_isDigit {c : Char} (hc : c.isDigit = true) : c.isWhitespace = false := by
  rw [Char.isDigit_iff_toNat] at hc
  have hzero : '0'.toNat = 48 := rfl
  rw [Bool.eq_false_iff]
  intro hblank
  simp only [Char.isWhitespace, Bool.or_eq_true, decide_eq_true_eq] at hblank
  rcases hblank with ((rfl | rfl) | rfl) | rfl <;> exact absurd hc.1 (by decide)

theorem dropWhile_isWhitespace {cs : List Char} (hcs : AllDigits cs) :
    cs.dropWhile Char.isWhitespace = cs := by
  cases cs with
  | nil => rfl
  | cons c cs =>
    rw [List.dropWhile_cons, isWhitespace_of_isDigit (hcs c List.mem_cons_self),
      if_neg Bool.false_ne_true]

theorem int_of_allDigits {cs : List Char} (hne : cs ≠ []) (hcs : AllDigits cs) :
    int cs = some (value cs : Int) := by
  have hreverse : AllDigits cs.reverse := fun c hmem => hcs c (List.mem_reverse.mp hmem)
  rw [int, dropWhile_isWhitespace hcs, dropWhile_isWhitespace hreverse, List.reverse_reverse]
  cases cs with
  | nil => exact absurd rfl hne
  | cons c cs =>
    have hc := hcs c List.mem_cons_self
    split
    next heq =>
      obtain ⟨rfl, -⟩ := List.cons.inj heq
      exact absurd hc (by decide)
    next heq =>
      obtain ⟨rfl, -⟩ := List.cons.inj heq
      exact absurd hc (by decide)
    next =>
      rw [unsigned, if_pos ⟨hne, List.all_eq_true.mpr hcs⟩]

theorem float_natCast {n : Nat} (hlt : n < 2 ^ 52) : float n = n := by
  rw [float, if_pos (Nat.cast_nonneg n)]
  rcases Nat.eq_zero_or_pos n with rfl | hpos
  · rw [Nat.cast_zero, toDouble, zero_div]
    change ((roundEven ((0 : Int) : ℚ) : Int) : ℚ) * _ = 0
    rw [roundEven_intCast, Int.cast_zero, zero_mul]
  · exact toDouble_natCast hpos hlt

theorem ne_point {cs : List Char} (hcs : AllDigits cs) : ∀ c ∈ cs, (c == '.') = false := by
  intro c hmem
  rw [beq_eq_false_iff_ne]
  rintro rfl
  exact absurd (hcs '.' hmem) (by decide)

theorem splitOn_point {a b : List Char} (ha : AllDigits a) (hb : AllDigits b) :
    (a ++ '.' :: b).splitOn '.' = [a, b] := by
  rw [List.splitOn_eq_splitOnP, List.splitOnP_append_cons_of_forall_mem (ne_point ha) '.' rfl,
    List.splitOnP_eq_singleton (ne_point hb)]

/-- The digits behind the point are a number of billionths, however many they are. -/
theorem translate_hatohol_time_point {t : CivilTime} (hvalid : t.Dated) (hfirst : 1 ≤ t.year)
    (hyear : t.year < 10000) {ns : List Char} (hne : ns ≠ []) (hns : AllDigits ns) :
    translate_hatohol_time_to_unix_time (t.digits ++ '.' :: ns) =
      some (float (float t.seconds + float (float (value ns) / float (10 ^ 9)))) := by
  have hmem : '.' ∈ t.digits ++ '.' :: ns := List.mem_append_right _ List.mem_cons_self
  have hsplit := splitOn_point t.allDigits hns
  rw [translate_hatohol_time_to_unix_time, if_pos hmem, hsplit]
  simp only [strptime_digits hvalid hfirst hyear, Option.bind_eq_bind, Option.bind_some,
    Option.map_some, Option.getD_some, int_of_allDigits hne hns, Int.cast_natCast]

/-! ## The order of times -/

theorem conv_to_hapi_time_eq_some {d : DateTime} {offset : Int} {text : List Char} :
    conv_to_hapi_time d offset = some text ↔
      1900 ≤ (civilTime (d.time.seconds + offset)).year ∧
      (civilTime (d.time.seconds + offset)).year ≤ 9999 ∧
      text = (civilTime (d.time.seconds + offset)).digits ++ '.' :: padded 6 d.microsecond := by
  rw [conv_to_hapi_time, DateTime.add]
  constructor
  · intro h
    split at h
    next hrange =>
      change ((strftime (civilTime (d.time.seconds + offset))).bind fun time =>
        some (time ++ '.' :: padded 6 d.microsecond)) = some text at h
      rw [strftime] at h
      split at h
      next => cases h
      next hge => exact ⟨by omega, hrange.2, (Option.some.inj h).symm⟩
    next => cases h
  · rintro ⟨hfirst, hlast, rfl⟩
    rw [if_pos ⟨by omega, hlast⟩]
    change ((strftime (civilTime (d.time.seconds + offset))).bind fun time =>
      some (time ++ '.' :: padded 6 d.microsecond)) = _
    rw [strftime, if_neg (by omega)]
    rfl

section

variable {offset : Int} {d d' : DateTime} {text text' : List Char}

theorem length_conv_to_hapi_time (hd : d.Valid) (hconv : conv_to_hapi_time d offset = some text) :
    text.length = 21 := by
  obtain ⟨hfirst, hlast, rfl⟩ := conv_to_hapi_time_eq_some.mp hconv
  rw [List.length_append, List.length_cons, length_padded (by decide) hd.microsecond,
    (civilTime_dated (by omega)).length_digits (by omega)]

/-- Times with one offset are compared as texts. -/
theorem conv_to_hapi_time_lt_iff (hd : d.Valid) (hd' : d'.Valid)
    (hconv : conv_to_hapi_time d offset = some text)
    (hconv' : conv_to_hapi_time d' offset = some text') : text < text' ↔ d.instant < d'.instant := by
  obtain ⟨hfirst, hlast, rfl⟩ := conv_to_hapi_time_eq_some.mp hconv
  obtain ⟨hfirst', hlast', rfl⟩ := conv_to_hapi_time_eq_some.mp hconv'
  have hdated := civilTime_dated (show 1 ≤ (civilTime (d.time.seconds + offset)).year by omega)
  have hdated' := civilTime_dated (show 1 ≤ (civilTime (d'.time.seconds + offset)).year by omega)
  have hlt := digits_civilTime_lt_iff (show 1 ≤ (civilTime (d.time.seconds + offset)).year by omega)
    (show 1 ≤ (civilTime (d'.time.seconds + offset)).year by omega) (by omega) (by omega)
  have hgt := digits_civilTime_lt_iff
    (show 1 ≤ (civilTime (d'.time.seconds + offset)).year by omega)
    (show 1 ≤ (civilTime (d.time.seconds + offset)).year by omega) (by omega) (by omega)
  have hmicro := hd.microsecond
  have hmicro' := hd'.microsecond
  rw [append_lt_append_iff (by rw [hdated.length_digits (by omega),
    hdated'.length_digits (by omega)]), hlt, List.cons_lt_cons_iff,
    lt_iff_value_lt (allDigits_padded 6 _) (allDigits_padded 6 _)
    (by rw [length_padded (by decide) hmicro, length_padded (by decide) hmicro']), value_padded,
    value_padded, DateTime.instant, DateTime.instant]
  constructor
  · rintro (h | ⟨heq, h | ⟨-, h⟩⟩)
    · omega
    · exact absurd h (by decide)
    · rw [heq] at hlt hgt
      have hnot := hlt.not.mp (List.lt_irrefl _)
      have hnot' := hgt.not.mp (List.lt_irrefl _)
      omega
  · intro h
    rcases Int.lt_trichotomy d.time.seconds d'.time.seconds with hs | hs | hs
    · exact .inl (by omega)
    · rw [hs]
      exact .inr ⟨rfl, .inr ⟨rfl, by omega⟩⟩
    · omega

theorem instant_eq_of_conv (hd : d.Valid) (hd' : d'.Valid)
    (hconv : conv_to_hapi_time d offset = some text)
    (hconv' : conv_to_hapi_time d' offset = some text) : d.instant = d'.instant := by
  have hlt := (conv_to_hapi_time_lt_iff hd hd' hconv hconv').not.mp (List.lt_irrefl text)
  have hgt := (conv_to_hapi_time_lt_iff hd' hd hconv' hconv).not.mp (List.lt_irrefl text)
  omega

end

end Hatohol.Hapcommon

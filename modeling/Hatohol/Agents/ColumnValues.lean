import Hatohol.SQLUtils

/-!
# Values that come back from the database

The number or the text that is written is the one that is read, for each agent. A date and a time do
not come back from SQLite3, which reads the year alone; from MySQL they come back an hour later if
daylight saving time is in effect, since `tm_isdst` is left zero.
-/

namespace Hatohol.SQLUtils

open Time Sql

/-! ## Numbers that are read -/

theorem scanDigits_append (rest : List Char) {ds : List Char} {width : Nat} (hne : ds ≠ [])
    (hdigits : AllDigits ds) (hwidth : ds.length ≤ width)
    (hrest : ds.length = width ∨ ∀ c ∈ rest.head?, c.isDigit = false) :
    scanDigits width (ds ++ rest) = some (value ds, rest) := by
  have htake : ((ds ++ rest).take width).takeWhile Char.isDigit = ds := by
    rw [List.take_append, List.take_of_length_le hwidth, List.takeWhile_append_of_pos hdigits]
    have hnone : (rest.take (width - ds.length)).takeWhile Char.isDigit = [] := by
      rcases hrest with hlength | hhead
      · rw [hlength, Nat.sub_self, List.take_zero, List.takeWhile_nil]
      · cases rest with
        | nil => rw [List.take_nil, List.takeWhile_nil]
        | cons c cs =>
          cases width - ds.length with
          | zero => rfl
          | succ k =>
            have hc : c.isDigit = false := hhead c rfl
            rw [List.take_succ_cons, List.takeWhile_cons, hc]
            rfl
    rw [hnone, List.append_nil]
  rw [scanDigits, htake, if_neg hne, List.drop_left]

theorem isSpace_of_isDigit {c : Char} (hc : c.isDigit = true) : ActionDef.isSpace c = false := by
  rw [Char.isDigit_iff_toNat] at hc
  have hzero : '0'.toNat = 48 := rfl
  rw [ActionDef.isSpace, Bool.or_eq_false_iff, beq_eq_false_iff_ne, Bool.and_eq_false_iff,
    decide_eq_false_iff_not, decide_eq_false_iff_not, Char.le_def, Char.le_def, UInt32.le_iff_toNat_le,
    UInt32.le_iff_toNat_le]
  refine ⟨fun heq => ?_, .inr fun hle => ?_⟩
  · rw [heq] at hc
    exact absurd hc.1 (by decide)
  · change c.toNat ≤ '\r'.toNat at hle
    have hreturn : '\r'.toNat = 13 := rfl
    omega

theorem scanInt_append (rest : List Char) {ds : List Char} {width : Nat} (hne : ds ≠ [])
    (hdigits : AllDigits ds) (hwidth : ds.length ≤ width)
    (hrest : ds.length = width ∨ ∀ c ∈ rest.head?, c.isDigit = false) :
    scanInt width (ds ++ rest) = some ((value ds : Int), rest) := by
  have hscan := scanDigits_append rest hne hdigits hwidth hrest
  cases ds with
  | nil => exact absurd rfl hne
  | cons d ds =>
    have hd := hdigits d List.mem_cons_self
    rw [List.cons_append] at hscan ⊢
    rw [scanInt, List.dropWhile_cons, isSpace_of_isDigit hd, if_neg Bool.false_ne_true]
    split
    next heq =>
      obtain ⟨rfl, -⟩ := List.cons.inj heq
      exact absurd hd (by decide)
    next heq =>
      obtain ⟨rfl, -⟩ := List.cons.inj heq
      exact absurd hd (by decide)
    next => rw [hscan, Option.map_some]

theorem toList_toString_nat (n : Nat) : (toString (n : Int)).toList = Nat.toDigits 10 n := by
  rw [Int.toString_eq_repr, Int.repr_eq_if, if_pos (Int.natCast_nonneg n), Int.toNat_natCast,
    Nat.toList_repr]

theorem decimal_natCast (n : Nat) : decimal n = Nat.toDigits 10 n := toList_toString_nat n

theorem decimal_negSucc (n : Nat) : decimal (Int.negSucc n) = '-' :: Nat.toDigits 10 (n + 1) := by
  rw [decimal, Int.toString_eq_repr]
  simp [Int.repr, Nat.toList_repr]

theorem scanInt_decimal (n : Int) : scanInt (decimal n).length (decimal n) = some (n, []) := by
  cases n with
  | ofNat n =>
    have hscan := scanInt_append [] Nat.toDigits_ne_nil (allDigits_toDigits n)
      (Nat.le_refl (Nat.toDigits 10 n).length) (.inl rfl)
    rw [List.append_nil] at hscan
    change scanInt (decimal n).length (decimal n) = _
    rw [decimal_natCast, hscan, value, Nat.ofDigitChars_ten_toDigits]
    rfl
  | negSucc n =>
    have hscan := scanDigits_append [] Nat.toDigits_ne_nil (allDigits_toDigits (n + 1))
      (Nat.le_refl (Nat.toDigits 10 (n + 1)).length) (.inl rfl)
    rw [List.append_nil, value, Nat.ofDigitChars_ten_toDigits] at hscan
    rw [decimal_negSucc, scanInt, List.dropWhile_cons, if_neg (by decide), List.length_cons]
    change (scanDigits ((Nat.toDigits 10 (n + 1)).length + 1 - 1) (Nat.toDigits 10 (n + 1))).map _ = _
    rw [Nat.add_sub_cancel, hscan]
    rfl

theorem leadingInt_decimal (n : Int) : leadingInt (decimal n) = n := by
  rw [leadingInt, scanInt_decimal]
  rfl

theorem atoi_decimal {n : Int} (hlow : -2 ^ 31 ≤ n) (hhigh : n < 2 ^ 31) : atoi (decimal n) = n := by
  rw [atoi, leadingInt_decimal]
  exact Int.bmod_eq_of_le (by omega) (by omega)

theorem scanUint64_decimal {n : Nat} (hlt : n < 2 ^ 64) : scanUint64 (decimal n) = some n := by
  rw [scanUint64, scanInt_decimal, Option.map_some]
  refine congrArg some ?_
  dsimp only
  rw [if_neg (by omega)]
  omega

/-! ## Strings that are read -/

theorem readString_doubled (val : List Char) :
    readString .sqlite (quoted (doubled val)) = some (val, []) := by
  change readBody .sqlite (doubled val ++ '\'' :: []) = _
  rw [readBody_sqlite_iff]
  simp

theorem readBody_plainChars (d : Dialect) {val : List Char}
    (hplain : ∀ c ∈ val, c ≠ '\'' ∧ d.escapes c = false) :
    readBody d (val ++ ['\'']) = some (val, []) := by
  induction val with
  | nil => rfl
  | cons c val ih =>
    obtain ⟨hquote, hescape⟩ := hplain c List.mem_cons_self
    rw [List.cons_append, readBody_plain d _ hquote hescape,
      ih fun c' hmem => hplain c' (List.mem_cons_of_mem c hmem)]
    rfl

theorem readString_plainChars (d : Dialect) {val : List Char}
    (hplain : ∀ c ∈ val, c ≠ '\'' ∧ d.escapes c = false) :
    readString d (quoted val) = some (val, []) := readBody_plainChars d hplain

/-- An escaped character is read as it was. -/
theorem readBody_escapeChar (c : Char) (rest : List Char) :
    readBody .mysql (DBAgentMySQL.escapeChar c ++ rest) = prepend [c] (readBody .mysql rest) := by
  have hbackslash (e : Char) : readBody .mysql ('\\' :: e :: rest) =
      prepend (unescape e) (readBody .mysql rest) := readBody_escape .mysql rest (by decide) rfl e
  unfold DBAgentMySQL.escapeChar
  split
  · exact hbackslash '0'
  · exact hbackslash 'n'
  · exact hbackslash 'r'
  · exact hbackslash 'Z'
  · exact hbackslash '\\'
  · exact hbackslash '\''
  · exact hbackslash '"'
  next hzero hnewline hreturn hsub hslash hquote hdouble =>
    exact readBody_plain .mysql rest hquote (beq_eq_false_iff_ne.mpr hslash)

theorem readString_realEscapeString (val : List Char) :
    readString .mysql (quoted (DBAgentMySQL.realEscapeString val)) = some (val, []) := by
  change readBody .mysql (DBAgentMySQL.realEscapeString val ++ ['\'']) = _
  induction val with
  | nil => rfl
  | cons c val ih =>
    rw [DBAgentMySQL.realEscapeString, List.flatMap_cons, List.append_assoc, readBody_escapeChar]
    change prepend [c] (readBody .mysql (DBAgentMySQL.realEscapeString val ++ ['\''])) = _
    rw [ih]
    rfl

/-! ## Dates and times that are read -/

/-- The years that four digits can have. -/
structure FourDigitYear (c : CivilTime) : Prop where
  first : 1 ≤ c.year
  last : c.year < 10000

theorem zeroPadded_natCast (width n : Nat) : zeroPadded width n = padded width n := by
  rw [zeroPadded, if_neg (by omega), Int.toNat_natCast]

theorem datetimeChars_ofCivilTime (c : CivilTime) : datetimeChars (Tm.ofCivilTime c) =
    padded 4 c.year ++ ('-' :: (padded 2 c.month ++ ('-' :: (padded 2 c.day ++
      (' ' :: (padded 2 c.hour ++ (':' :: (padded 2 c.minute ++ (':' :: padded 2 c.second)))))))))  := by
  have hyear : (c.year : Int) - 1900 + 1900 = c.year := by omega
  have hmonth : (c.month : Int) - 1 + 1 = c.month := by omega
  simp only [datetimeChars, Tm.ofCivilTime, hyear, hmonth, zeroPadded_natCast]

theorem scanInt_padded {width n : Nat} (hpos : 0 < width) (hlt : n < 10 ^ width) (rest : List Char) :
    scanInt width (padded width n ++ rest) = some ((n : Int), rest) := by
  have hlength := length_padded hpos hlt
  have hscan := scanInt_append rest (padded_ne_nil width n) (allDigits_padded width n)
    hlength.le (.inl hlength)
  rwa [value_padded] at hscan

/-- White space between two numbers is read up to the digits. -/
theorem scanSeparator_append {separator : Char} {width n : Nat} (rest : List Char) :
    scanSeparator separator (separator :: (padded width n ++ rest)) = some (padded width n ++ rest) := by
  rw [scanSeparator]
  split
  next hspace =>
    rw [List.dropWhile_cons, if_pos hspace]
    cases hdigits : padded width n with
    | nil => exact absurd hdigits (padded_ne_nil width n)
    | cons d ds =>
      have hd : d.isDigit = true := allDigits_padded width n d (hdigits ▸ List.mem_cons_self)
      rw [List.cons_append, List.dropWhile_cons, isSpace_of_isDigit hd, if_neg Bool.false_ne_true]
  next => exact if_pos rfl

theorem scanFields_cons {width n : Nat} (width' n' : Nat) {separator : Char} (hpos : 0 < width)
    (hlt : n < 10 ^ width) (format : List (Nat × Char)) (last : Nat) (rest : List Char) :
    scanFields ((width, separator) :: format) last
        (padded width n ++ (separator :: (padded width' n' ++ rest))) =
      (n : Int) :: scanFields format last (padded width' n' ++ rest) := by
  rw [scanFields, scanInt_padded hpos hlt]
  dsimp only
  rw [scanSeparator_append]

theorem scannedTm_datetimeChars {c : CivilTime} (hdated : c.Dated) (hyear : c.year < 10000) :
    scannedTm (datetimeChars (Tm.ofCivilTime c)) = Tm.ofCivilTime c := by
  have hmonth := hdated.month_le
  have hday := hdated.day_le
  have hhour := hdated.hour
  have hminute := hdated.minute
  have hsecond := hdated.second
  have hlast := scanInt_padded (show 0 < 2 by decide) (show c.second < 10 ^ 2 by omega) []
  rw [List.append_nil] at hlast
  have hfields : scanFields datetimeFormat 2 (datetimeChars (Tm.ofCivilTime c)) =
      [(c.year : Int), (c.month : Int), (c.day : Int), (c.hour : Int), (c.minute : Int),
        (c.second : Int)] := by
    have hend : scanFields [(2, ':')] 2 (padded 2 c.minute ++ (':' :: (padded 2 c.second ++ []))) =
        (c.minute : Int) :: scanFields [] 2 (padded 2 c.second ++ []) :=
      scanFields_cons 2 c.second (by decide) (by omega) [] 2 []
    rw [List.append_nil] at hend
    rw [datetimeChars_ofCivilTime, datetimeFormat, scanFields_cons _ _ (by decide) (by omega),
      scanFields_cons _ _ (by decide) (by omega), scanFields_cons _ _ (by decide) (by omega),
      scanFields_cons _ _ (by decide) (by omega), hend, scanFields, hlast]
  rw [scannedTm, hfields]
  rfl

/-- As a number, the text is its year. -/
theorem leadingInt_datetimeChars {c : CivilTime} (hyear : c.year < 10000) :
    leadingInt (datetimeChars (Tm.ofCivilTime c)) = c.year := by
  rw [datetimeChars_ofCivilTime]
  have hlength := length_padded (show 0 < 4 by decide) hyear
  rw [leadingInt, scanInt_append _ (padded_ne_nil 4 c.year) (allDigits_padded 4 c.year)
    (by rw [List.length_append]; omega) (.inr fun d hd => ?_), Option.map_some, value_padded]
  · rfl
  · cases hd
    rfl

/-! ## Local time -/

theorem fourDigitYear_civilTime {s : Int} (hlow : -2 ^ 32 < s) (hhigh : s < 2 ^ 32) :
    FourDigitYear (civilTime s) := by
  have hcycle : longCycle = 730485 * 86400 := rfl
  -- the years of a day before 3970
  have hbefore (k : Nat) (hk : k / 86400 < 730485) : (gmtime k).year < 3970 := by
    by_contra hge
    have hle := daysBeforeYear_le (show 3970 ≤ (gmtime k).year by omega)
    have hdays := (gmtime_spec k).2
    rw [CivilTime.days] at hdays
    rw [daysBeforeYear_3970] at hle
    omega
  rcases Int.lt_or_le s 0 with hneg | hnonneg
  · have hciv : civilTime s = { gmtime (s + longCycle).toNat with
        year := (gmtime (s + longCycle).toNat).year - 2000 } := by
      rw [civilTime, if_neg (by omega)]
    obtain ⟨hvalid, hdays⟩ := gmtime_spec (s + longCycle).toNat
    have hafter : 2001 ≤ (gmtime (s + longCycle).toNat).year := by
      by_contra hlt
      have hbound := hvalid.days_lt_daysBeforeYear
      have hle := daysBeforeYear_le (show (gmtime (s + longCycle).toNat).year + 1 ≤ 1970 + 31 by omega)
      have hmul := daysBeforeYear_le_mul 31
      omega
    have hyear := hbefore (s + longCycle).toNat (by omega)
    rw [hciv]
    constructor
    · change 1 ≤ (gmtime (s + longCycle).toNat).year - 2000
      omega
    · change (gmtime (s + longCycle).toNat).year - 2000 < 10000
      omega
  · obtain ⟨k, rfl⟩ := Int.eq_ofNat_of_zero_le hnonneg
    rw [civilTime_natCast]
    have hfirst := (gmtime_spec k).1.year
    have hyear := hbefore k (by omega)
    exact ⟨by omega, by omega⟩

namespace TimeZone

variable (z : TimeZone)

/-- A second as it is shown by the clock. -/
abbrev shown (t : Int) : CivilTime := civilTime (z.localSeconds t)

theorem fourDigitYear_shown {t : Int} (hlow : -2 ^ 31 ≤ t) (hhigh : t < 2 ^ 31) :
    FourDigitYear (z.shown t) := by
  have hbound := z.offset_bound t
  refine fourDigitYear_civilTime ?_ ?_ <;>
    · rw [localSeconds, standardSeconds]
      omega

end TimeZone

theorem ofCivilTime_inj {c c' : CivilTime} (heq : Tm.ofCivilTime c = Tm.ofCivilTime c') : c = c' := by
  obtain ⟨year, month, day, hour, minute, second⟩ := c
  obtain ⟨year', month', day', hour', minute', second'⟩ := c'
  simp only [Tm.ofCivilTime, Tm.mk.injEq] at heq
  simp only [CivilTime.mk.injEq]
  omega

theorem eq_of_ofCivilTime {s s' : Int} (hyear : 1 ≤ (civilTime s).year)
    (heq : Tm.ofCivilTime (civilTime s) = Tm.ofCivilTime (civilTime s')) : s = s' := by
  have hciv := ofCivilTime_inj heq
  have hseconds := seconds_civilTime hyear
  have hseconds' := seconds_civilTime (hciv ▸ hyear)
  rw [← hseconds, ← hseconds', hciv]

open Classical in
/-- A `mktime` that answers one date and time with a second of choice. -/
noncomputable def mktimeWith (z : TimeZone) (s t : Int) (tm : Tm) : Int :=
  if tm = Tm.ofCivilTime (civilTime s) then t
  else if h : ∃ t', 1 ≤ (civilTime (z.standardSeconds t')).year ∧
    Tm.ofCivilTime (civilTime (z.standardSeconds t')) = tm then h.choose
  else 0

theorem mktimeWith_self (z : TimeZone) (s t : Int) :
    mktimeWith z s t (Tm.ofCivilTime (civilTime s)) = t := if_pos rfl

/-- It may be any second with that standard time, and any second at all if there is none. -/
theorem isMktime_mktimeWith (z : TimeZone) {s t : Int}
    (hstandard : z.standardSeconds t = s ∨ ∀ t', z.standardSeconds t' ≠ s) :
    IsMktime z (mktimeWith z s t) := by
  intro t' hyear
  by_cases hsame : Tm.ofCivilTime (civilTime (z.standardSeconds t')) = Tm.ofCivilTime (civilTime s)
  · have hs := eq_of_ofCivilTime hyear hsame
    rw [hs, mktimeWith_self]
    exact hstandard.resolve_right fun hnone => hnone t' hs
  · have hfound : ∃ t'', 1 ≤ (civilTime (z.standardSeconds t'')).year ∧
        Tm.ofCivilTime (civilTime (z.standardSeconds t'')) =
          Tm.ofCivilTime (civilTime (z.standardSeconds t')) := ⟨t', hyear, rfl⟩
    rw [mktimeWith, if_neg hsame, dif_pos hfound]
    exact eq_of_ofCivilTime hfound.choose_spec.1 hfound.choose_spec.2

/-- The second that standard time has once, and daylight saving time not at all. -/
def ReadBack (z : TimeZone) (t : Int) : Prop :=
  z.saving t = 0 ∧ ∀ t', z.standardSeconds t' = z.standardSeconds t → t' = t

theorem mktime_localtime_iff (z : TimeZone) {t : Int} (hlow : -2 ^ 31 ≤ t) (hhigh : t < 2 ^ 31) :
    (∀ mktime, IsMktime z mktime → (mktime (localtime z t)).bmod (2 ^ 32) = t) ↔ ReadBack z t := by
  constructor
  · intro hback
    by_contra hnot
    -- another second may be found, less than four days away
    have hother : ∃ t', t' ≠ t ∧ t - 2 * 86400 < t' ∧ t' < t + 2 * 86400 ∧
        (z.standardSeconds t' = z.localSeconds t ∨ ∀ t'', z.standardSeconds t'' ≠ z.localSeconds t) := by
      by_cases hsome : ∃ t', t' ≠ t ∧ z.standardSeconds t' = z.localSeconds t
      · obtain ⟨t', hne, hsame⟩ := hsome
        have hbound := z.offset_bound t
        have hbound' := z.standardOffset_bound t'
        have hseconds := hsame
        rw [TimeZone.localSeconds, TimeZone.standardSeconds, TimeZone.standardSeconds] at hseconds
        exact ⟨t', hne, by omega, by omega, .inl hsame⟩
      · refine ⟨t + 1, by omega, by omega, by omega, .inr fun t'' hsame => ?_⟩
        by_cases heq : t'' = t
        · rw [heq, TimeZone.localSeconds] at hsame
          refine hnot ⟨by omega, fun t' hstandard => ?_⟩
          by_contra hne
          exact hsome ⟨t', hne, by rw [TimeZone.localSeconds]; omega⟩
        · exact hsome ⟨t'', heq, hsame⟩
    obtain ⟨t', hne, hlow', hhigh', hstandard⟩ := hother
    have hwrong := hback _ (isMktime_mktimeWith z hstandard)
    rw [localtime, mktimeWith_self, Int.bmod_eq_iff (by decide)] at hwrong
    omega
  · rintro ⟨hsaving, honly⟩ mktime hmktime
    have hlocal : z.localSeconds t = z.standardSeconds t := by
      rw [TimeZone.localSeconds, hsaving, Int.add_zero]
    have hfound := hmktime t (hlocal ▸ (z.fourDigitYear_shown hlow hhigh).first)
    rw [localtime, hlocal, honly _ hfound]
    exact Int.bmod_eq_of_le (by omega) (by omega)

/-! ## What is read of a row that was written -/

/-- An agent with its database. -/
inductive Agent where
  | sqlite3 (db : SQLite3)
  | mysql (db : MySQL)

/-- The item that a selection gives after a statement with this item. -/
def Agent.selected (agent : Agent) (z : TimeZone) (mktime : Tm → Int) (now : Int)
    (statement : Statement) (column : ColumnDef) (item : ItemData) : Option ItemData :=
  match agent with
  | sqlite3 db => (DBAgentSQLite3.columnLiteral statement z now column item).map fun literal =>
      DBAgentSQLite3.getValue db (db.stored literal) column.type
  | mysql db => (DBAgentMySQL.getColumnValueString z now column.type item).bind fun literal =>
      createFromString mktime (db.fetched literal) column.type

/-- The items of a column. -/
def SQLColumnType.Holds : SQLColumnType → ItemData → Prop
  | _, .null => True
  | int, .int val => -2 ^ 31 ≤ val ∧ val < 2 ^ 31
  | biguint, .uint64 val => val < 2 ^ 64
  | varchar, .string val | char, .string val | text, .string val => '\x00' ∉ val
  | datetime, .int val => (-2 ^ 31 ≤ val ∧ val < 2 ^ 31) ∧ val ≠ DBAgent.currDatetime
  | _, _ => False

/-- Whatever second `mktime` finds where several have the same standard time. -/
def Agent.Keeps (agent : Agent) (z : TimeZone) (statement : Statement) (column : ColumnDef)
    (item : ItemData) : Prop :=
  ∀ mktime now, IsMktime z mktime → agent.selected z mktime now statement column item = some item

/-- AUTO_INCREMENT_VALUE, which `DBAgentSQLite3::insert` leaves to the database. -/
def Agent.LeavesOut (agent : Agent) (statement : Statement) (column : ColumnDef) (item : ItemData) :
    Prop :=
  match agent with
  | sqlite3 _ => statement = .insert ∧ column.autoInc = true ∧
      (column.type = .int ∧ item = .int 0 ∨ column.type = .biguint ∧ item = .uint64 0)
  | mysql _ => False

/-- The second that is read is the one that was written. -/
def Agent.ReadsTime (agent : Agent) (z : TimeZone) (t : Int) : Prop :=
  match agent with
  | sqlite3 _ => t = (z.shown t).year
  | mysql _ => ReadBack z t

theorem decimal_inj {m n : Int} (heq : decimal m = decimal n) : m = n := by
  rw [← leadingInt_decimal m, heq, leadingInt_decimal]

theorem decimal_zero : decimal 0 = "0".toList := by decide

theorem quoted_ne_zero (val : List Char) : quoted val ≠ "0".toList := by
  intro heq
  exact absurd (List.cons.inj heq).1 (by decide)

theorem plain_of_isDigit (d : Dialect) {c : Char} (hc : c.isDigit = true) :
    c ≠ '\'' ∧ d.escapes c = false := by
  constructor
  · rintro rfl
    exact absurd hc (by decide)
  · cases d with
    | sqlite => rfl
    | mysql =>
      refine beq_eq_false_iff_ne.mpr ?_
      rintro rfl
      exact absurd hc (by decide)

theorem readString_datetimeChars (d : Dialect) (c : CivilTime) :
    readString d (quoted (datetimeChars (Tm.ofCivilTime c))) =
      some (datetimeChars (Tm.ofCivilTime c), []) := by
  have hdigits (width n : Nat) : ∀ c ∈ padded width n, c ≠ '\'' ∧ d.escapes c = false :=
    fun c hmem => plain_of_isDigit d (allDigits_padded width n c hmem)
  have hminus : '-' ≠ '\'' ∧ d.escapes '-' = false := by cases d <;> decide
  have hblank : ' ' ≠ '\'' ∧ d.escapes ' ' = false := by cases d <;> decide
  have hcolon : ':' ≠ '\'' ∧ d.escapes ':' = false := by cases d <;> decide
  refine readString_plainChars d ?_
  rw [datetimeChars_ofCivilTime]
  simp only [List.forall_mem_append, List.forall_mem_cons]
  exact ⟨hdigits _ _, hminus, hdigits _ _, hminus, hdigits _ _, hblank, hdigits _ _, hcolon,
    hdigits _ _, hcolon, hdigits _ _⟩

theorem readString_makeDatetimeString (d : Dialect) (z : TimeZone) (now : Int) {t : Int}
    (ht : t ≠ DBAgent.currDatetime) : readString d (DBAgent.makeDatetimeString z now t) =
      some (datetimeChars (localtime z t), []) := by
  rw [DBAgent.makeDatetimeString, if_neg ht]
  exact readString_datetimeChars d _

/-! ## SQLite3 -/

section SQLite3

variable (db : SQLite3) (z : TimeZone) (now : Int)

theorem getValue_of_string {literal val : List Char}
    (hread : readString .sqlite literal = some (val, [])) (type : SQLColumnType) :
    DBAgentSQLite3.getValue db (db.stored literal) type =
      DBAgentSQLite3.columnItem db (db.stored literal) type := by
  rw [DBAgentSQLite3.getValue, db.isNull_string _ _ hread]
  rfl

theorem getValue_of_decimal (n : Int) (type : SQLColumnType) :
    DBAgentSQLite3.getValue db (db.stored (decimal n)) type =
      DBAgentSQLite3.columnItem db (db.stored (decimal n)) type := by
  rw [DBAgentSQLite3.getValue, db.isNull_decimal]
  rfl

theorem getValue_null (type : SQLColumnType) :
    DBAgentSQLite3.getValue db (db.stored "NULL".toList) type = .null := by
  rw [DBAgentSQLite3.getValue, db.isNull_null]
  rfl

/-- What is left of an item. -/
def sqlite3Item (z : TimeZone) : SQLColumnType → ItemData → ItemData
  | .datetime, .int t => .int (z.shown t).year
  | _, item => item

theorem getValue_int {val : Int} (hval : -2 ^ 31 ≤ val ∧ val < 2 ^ 31) :
    DBAgentSQLite3.getValue db (db.stored (decimal val)) .int = .int val := by
  rw [getValue_of_decimal, DBAgentSQLite3.columnItem, db.columnInt_decimal,
    Int.bmod_eq_of_le (by omega) (by omega)]

theorem getValue_biguint {val : Nat} (hval : val < 2 ^ 64) :
    DBAgentSQLite3.getValue db (db.stored (decimal ((val : Int).bmod (2 ^ 64)))) .biguint =
      .uint64 val := by
  have hlow := Int.le_bmod (x := val) (m := 2 ^ 64) (by decide)
  have hhigh := Int.bmod_lt (x := val) (m := 2 ^ 64) (by decide)
  have hback : ((val : Int).bmod (2 ^ 64) % 2 ^ 64).toNat = val := by
    have hmod : (val : Int).bmod (2 ^ 64) % (2 ^ 64 : Nat) = val % (2 ^ 64 : Nat) :=
      Int.bmod_emod
    omega
  rw [getValue_of_decimal, DBAgentSQLite3.columnItem, db.columnInt64_decimal _ (by omega) (by omega),
    hback]

theorem getValue_text {val : List Char} {type : SQLColumnType}
    (htype : type = .varchar ∨ type = .char ∨ type = .text) :
    DBAgentSQLite3.getValue db (db.stored (quoted (doubled val))) type = .string val := by
  have hread := readString_doubled val
  rw [getValue_of_string db hread]
  rcases htype with rfl | rfl | rfl <;>
    rw [DBAgentSQLite3.columnItem, db.columnText_string _ _ hread, Option.getD_some]

theorem getValue_datetime {t : Int} (ht : (-2 ^ 31 ≤ t ∧ t < 2 ^ 31) ∧ t ≠ DBAgent.currDatetime) :
    DBAgentSQLite3.getValue db (db.stored (DBAgent.makeDatetimeString z now t)) .datetime =
      .int (z.shown t).year := by
  have hread := readString_makeDatetimeString .sqlite z now ht.2
  have hyear := (z.fourDigitYear_shown ht.1.1 ht.1.2).last
  have hleading : leadingInt (datetimeChars (localtime z t)) = (z.shown t).year :=
    leadingInt_datetimeChars hyear
  rw [getValue_of_string db hread, DBAgentSQLite3.columnItem, db.columnInt_string _ _ hread, hleading,
    Int.bmod_eq_of_le (by omega) (by omega)]

theorem decimal_eq_zero_iff {n : Int} : decimal n = "0".toList ↔ n = 0 := by
  rw [← decimal_zero]
  exact ⟨decimal_inj, fun h => h ▸ rfl⟩

/-- The literal of an item, and what is read of it. -/
theorem sqlite3_literal {type : SQLColumnType} {item : ItemData} (hholds : type.Holds item) :
    ∃ literal, DBAgentSQLite3.getColumnValueStringStatic z now type item = some literal ∧
      DBAgentSQLite3.getValue db (db.stored literal) type = sqlite3Item z type item ∧
      (literal = "0".toList ↔ type = .int ∧ item = .int 0 ∨ type = .biguint ∧ item = .uint64 0) := by
  have hstring (val : List Char) (htype : type = .varchar ∨ type = .char ∨ type = .text)
      (hitem : item = .string val) :
      ∃ literal, DBAgentSQLite3.getColumnValueStringStatic z now type item = some literal ∧
        DBAgentSQLite3.getValue db (db.stored literal) type = sqlite3Item z type item ∧
        (literal = "0".toList ↔
          type = .int ∧ item = .int 0 ∨ type = .biguint ∧ item = .uint64 0) := by
    refine ⟨quoted (doubled val), ?_, ?_, ?_⟩
    · rcases htype with rfl | rfl | rfl <;> rw [hitem] <;> rfl
    · rw [getValue_text db htype, hitem]
      rcases htype with rfl | rfl | rfl <;> rfl
    · refine iff_of_false (quoted_ne_zero _) ?_
      rw [hitem]
      simp
  match type, item, hholds with
  | type, .null, _ =>
    refine ⟨"NULL".toList, rfl, ?_, iff_of_false (by decide) (by simp)⟩
    rw [getValue_null]
    cases type <;> rfl
  | .int, .int val, hval =>
    refine ⟨decimal val, rfl, getValue_int db hval, ?_⟩
    rw [decimal_eq_zero_iff]
    simp
  | .biguint, .uint64 val, hval =>
    refine ⟨decimal ((val : Int).bmod (2 ^ 64)), rfl, getValue_biguint db hval, ?_⟩
    have hlt : val < 2 ^ 64 := hval
    rw [decimal_eq_zero_iff, Int.bmod_eq_iff (by decide)]
    simp only [reduceCtorEq, false_and, true_and, false_or, ItemData.uint64.injEq]
    omega
  | .varchar, .string val, _ => exact hstring val (.inl rfl) rfl
  | .char, .string val, _ => exact hstring val (.inr (.inl rfl)) rfl
  | .text, .string val, _ => exact hstring val (.inr (.inr rfl)) rfl
  | .datetime, .int t, ht =>
    refine ⟨_, rfl, getValue_datetime db z now ht, iff_of_false (quoted_ne_zero _) (by simp)⟩

end SQLite3

/-! ## MySQL -/

section MySQL

variable (db : MySQL) (z : TimeZone) (mktime : Tm → Int) (now : Int)

def mysqlItem : SQLColumnType → ItemData → ItemData
  | .datetime, .int t => .int ((mktime (localtime z t)).bmod (2 ^ 32))
  | _, item => item

theorem mysql_text (val : List Char) {type : SQLColumnType}
    (htype : type = .varchar ∨ type = .char ∨ type = .text) :
    createFromString mktime (db.fetched (quoted (DBAgentMySQL.realEscapeString val))) type =
      some (.string val) := by
  rw [db.fetched_string _ _ (readString_realEscapeString val)]
  rcases htype with rfl | rfl | rfl <;> rfl

theorem mysql_datetime {t : Int} (ht : (-2 ^ 31 ≤ t ∧ t < 2 ^ 31) ∧ t ≠ DBAgent.currDatetime) :
    createFromString mktime (db.fetched (DBAgent.makeDatetimeString z now t)) .datetime =
      some (.int ((mktime (localtime z t)).bmod (2 ^ 32))) := by
  obtain ⟨hfirst, hlast⟩ := z.fourDigitYear_shown ht.1.1 ht.1.2
  have hscan : scannedTm (datetimeChars (localtime z t)) = localtime z t :=
    scannedTm_datetimeChars (civilTime_dated hfirst) hlast
  rw [db.fetched_string _ _ (readString_makeDatetimeString .mysql z now ht.2), createFromString, hscan]

theorem mysql_literal {type : SQLColumnType} {item : ItemData} (hholds : type.Holds item) :
    ∃ literal, DBAgentMySQL.getColumnValueString z now type item = some literal ∧
      createFromString mktime (db.fetched literal) type = some (mysqlItem z mktime type item) := by
  match type, item, hholds with
  | type, .null, _ =>
    refine ⟨"NULL".toList, rfl, ?_⟩
    rw [db.fetched_null]
    cases type <;> rfl
  | .int, .int val, hval =>
    refine ⟨decimal val, rfl, ?_⟩
    rw [db.fetched_decimal, createFromString, atoi_decimal hval.1 hval.2]
    rfl
  | .biguint, .uint64 val, hval =>
    refine ⟨decimal val, rfl, ?_⟩
    rw [db.fetched_decimal, createFromString, scanUint64_decimal hval]
    rfl
  | .varchar, .string val, _ => exact ⟨_, rfl, mysql_text db mktime val (.inl rfl)⟩
  | .char, .string val, _ => exact ⟨_, rfl, mysql_text db mktime val (.inr (.inl rfl))⟩
  | .text, .string val, _ => exact ⟨_, rfl, mysql_text db mktime val (.inr (.inr rfl))⟩
  | .datetime, .int t, ht => exact ⟨_, rfl, mysql_datetime db z mktime now ht⟩

end MySQL

/-! ## Both agents -/

theorem exists_isMktime (z : TimeZone) : ∃ mktime, IsMktime z mktime :=
  ⟨_, isMktime_mktimeWith z (t := 0) (.inl rfl)⟩

/-- An item other than a date and a time is not changed by reading it. -/
theorem item_eq_iff {read : SQLColumnType → ItemData → ItemData} {type : SQLColumnType} {item : ItemData}
    (hread : ∀ type item, (∀ t, type = .datetime → item ≠ .int t) → read type item = item) :
    read type item = item ↔
      ∀ t, type = .datetime → item = .int t → read .datetime (.int t) = .int t := by
  constructor
  · rintro heq t rfl rfl
    exact heq
  · intro htime
    by_cases hsome : ∃ t, type = .datetime ∧ item = .int t
    · obtain ⟨t, rfl, rfl⟩ := hsome
      exact htime t rfl rfl
    · exact hread type item fun t htype hitem => hsome ⟨t, htype, hitem⟩

theorem sqlite3_selected_iff (db : SQLite3) (z : TimeZone) (mktime : Tm → Int) (now : Int)
    (statement : Statement) (column : ColumnDef) (item : ItemData) (hholds : column.type.Holds item) :
    (Agent.sqlite3 db).selected z mktime now statement column item = some item ↔
      ¬(Agent.sqlite3 db).LeavesOut statement column item ∧
        sqlite3Item z column.type item = item := by
  obtain ⟨literal, hliteral, hvalue, hzero⟩ := sqlite3_literal db z now hholds
  cases statement with
  | update =>
    have hselected : (Agent.sqlite3 db).selected z mktime now .update column item =
        some (sqlite3Item z column.type item) := by
      rw [Agent.selected, DBAgentSQLite3.columnLiteral, hliteral, Option.map_some, hvalue]
    rw [hselected, Option.some_inj]
    exact (and_iff_right fun h => nomatch h.1).symm
  | insert =>
    by_cases hleft : (Agent.sqlite3 db).LeavesOut .insert column item
    · -- a literal zero becomes NULL
      refine iff_of_false (fun hselected => ?_) fun h => h.1 hleft
      obtain ⟨-, hauto, hitem⟩ := hleft
      have hnotNull : item ≠ .null := by
        rintro rfl
        simp at hitem
      rw [Agent.selected, DBAgentSQLite3.columnLiteral, if_neg hnotNull, hliteral, Option.map_some,
        if_pos ⟨hauto, hzero.mpr hitem⟩, Option.map_some, getValue_null] at hselected
      exact hnotNull (Option.some.inj hselected).symm
    · rw [and_iff_right hleft]
      have hcolumn : DBAgentSQLite3.columnLiteral .insert z now column item = some literal := by
        by_cases hnull : item = .null
        · rw [hnull] at hliteral ⊢
          exact hliteral
        · rw [DBAgentSQLite3.columnLiteral, if_neg hnull, hliteral, Option.map_some,
            if_neg fun h => hleft ⟨rfl, h.1, hzero.mp h.2⟩]
      rw [Agent.selected, hcolumn, Option.map_some, hvalue, Option.some_inj]

theorem mysql_selected_iff (db : MySQL) (z : TimeZone) (mktime : Tm → Int) (now : Int)
    (statement : Statement) (column : ColumnDef) (item : ItemData) (hholds : column.type.Holds item) :
    (Agent.mysql db).selected z mktime now statement column item = some item ↔
      mysqlItem z mktime column.type item = item := by
  obtain ⟨literal, hliteral, hvalue⟩ := mysql_literal db z mktime now hholds
  rw [Agent.selected, hliteral, Option.bind_some, hvalue, Option.some_inj]

theorem readString_decimal (d : Dialect) (n : Int) : readString d (decimal n) = none := by
  have hquote : (decimal n).head? ≠ some '\'' := by
    cases n with
    | ofNat n =>
      intro hhead
      change (decimal n).head? = _ at hhead
      rw [decimal_natCast] at hhead
      have hdigit := allDigits_toDigits n '\'' (List.mem_of_head? hhead)
      exact absurd hdigit (by decide)
    | negSucc n =>
      rw [decimal_negSucc, List.head?_cons]
      decide
  unfold readString
  split
  next heq =>
    rw [heq] at hquote
    exact absurd rfl hquote
  next => rfl

theorem decimal_ne_null (n : Int) : decimal n ≠ "NULL".toList := by
  intro heq
  have hzero : n = 0 := by
    rw [← leadingInt_decimal n, heq]
    decide
  rw [hzero] at heq
  exact absurd heq (by decide)

theorem ne_null_of_readString {d : Dialect} {literal val : List Char}
    (hread : readString d literal = some (val, [])) : literal ≠ "NULL".toList := by
  rintro rfl
  cases d <;> cases hread

/-- The literals themselves are kept. -/
def SQLite3.literals : SQLite3 where
  Cell := List Char
  stored := id
  columnInt literal := match readString .sqlite literal with
    | some (val, _) => (leadingInt val).bmod (2 ^ 32)
    | none => (leadingInt literal).bmod (2 ^ 32)
  columnInt64 := leadingInt
  columnText literal := (readString .sqlite literal).map Prod.fst
  isNull literal := literal == "NULL".toList
  isNull_null := beq_self_eq_true _
  isNull_decimal n := beq_eq_false_iff_ne.mpr (decimal_ne_null n)
  columnInt_decimal n := by
    change (match readString .sqlite (decimal n) with | some (val, _) => _ | none => _) = _
    rw [readString_decimal]
    exact congrArg (Int.bmod · (2 ^ 32)) (leadingInt_decimal n)
  columnInt64_decimal n _ _ := leadingInt_decimal n
  isNull_string _ _ hread := beq_eq_false_iff_ne.mpr (ne_null_of_readString hread)
  columnText_string _ _ hread := by rw [id, hread, Option.map_some]
  columnInt_string _ _ hread := by rw [id, hread]

def MySQL.literals : MySQL where
  fetched literal :=
    if literal = "NULL".toList then none
    else match readString .mysql literal with
      | some (val, _) => some val
      | none => some literal
  fetched_null := if_pos rfl
  fetched_decimal n := by rw [if_neg (decimal_ne_null n), readString_decimal]
  fetched_string _ _ hread := by rw [if_neg (ne_null_of_readString hread), hread]

/-- One hour east of UTC, and two hours in the summer of 2015. -/
def summerTime : TimeZone where
  standardOffset _ := 3600
  saving t := if 1427590800 ≤ t ∧ t < 1445734800 then 3600 else 0
  standardOffset_bound _ := by decide
  offset_bound t := by split <;> decide

end Hatohol.SQLUtils

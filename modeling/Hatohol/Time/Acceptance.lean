import Hatohol.TimeStamp

/-!
# Which texts are times

A time of the plugin interface is fourteen digits of a date and a time of day, and maybe a point
and up to nine digits behind it. `parseTimeStamp` reads all of these, and it reads other texts too:
where `strptime` stopped is not looked at.
-/

namespace Hatohol

open Time

/-! ## The two directions of a split -/

theorem splitTemplate_ne_nil (separator : Char) (cs word : List Char) :
    splitTemplate separator false cs word ≠ [] := by
  induction cs generalizing word with
  | nil =>
    rw [splitTemplate, if_pos (.inr rfl)]
    exact List.cons_ne_nil _ _
  | cons c cs ih =>
    rw [splitTemplate]
    split
    next => exact ih _
    next =>
      rw [if_pos (.inr rfl)]
      exact List.cons_ne_nil _ _

/-- The words with the separator between them are the text. -/
theorem intercalate_splitTemplate (separator : Char) (cs word : List Char) :
    List.intercalate [separator] (splitTemplate separator false cs word) = word ++ cs := by
  induction cs generalizing word with
  | nil =>
    rw [splitTemplate, if_pos (.inr rfl), List.intercalate_singleton, List.append_nil]
  | cons c cs ih =>
    rw [splitTemplate]
    split
    next => rw [ih, List.append_assoc, List.singleton_append]
    next heq =>
      rw [if_pos (.inr rfl),
        List.intercalate_cons_of_ne_nil (splitTemplate_ne_nil separator cs []), ih,
        Decidable.not_not.mp heq, List.nil_append, List.append_assoc, List.singleton_append]

theorem takeWhile_of_split_one {s time : List Char} {separator : Char}
    (hsplit : split s separator false = [time]) : s.takeWhile (· != '\x00') = time := by
  have hjoin := intercalate_splitTemplate separator (s.takeWhile (· != '\x00')) []
  rw [← split, hsplit, List.intercalate_singleton, List.nil_append] at hjoin
  exact hjoin.symm

theorem takeWhile_of_split_two {s time fraction : List Char} {separator : Char}
    (hsplit : split s separator false = [time, fraction]) :
    s.takeWhile (· != '\x00') = time ++ separator :: fraction := by
  have hjoin := intercalate_splitTemplate separator (s.takeWhile (· != '\x00')) []
  rw [← split, hsplit, List.nil_append,
    List.intercalate_cons_of_ne_nil (List.cons_ne_nil _ _), List.intercalate_singleton,
    List.append_assoc, List.singleton_append] at hjoin
  exact hjoin.symm

theorem takeWhile_of_notMem {s : List Char} (hnul : '\x00' ∉ s) :
    s.takeWhile (· != '\x00') = s := by
  have hall : ∀ c ∈ s, (c != '\x00') = true := by
    intro c hc
    rw [bne_iff_ne]
    rintro rfl
    exact hnul hc
  have hwhole : (s ++ []).takeWhile (· != '\x00') = s ++ [].takeWhile (· != '\x00') :=
    List.takeWhile_append_of_pos hall
  rwa [List.takeWhile_nil, List.append_nil] at hwhole

theorem split_allDigits {cs : List Char} (hcs : AllDigits cs) : split cs '.' false = [cs] := by
  rw [split, takeWhile_of_notMem (hcs.notMem rfl), splitTemplate_of_notMem cs [] (hcs.notMem rfl),
    List.nil_append]

/-! ## The texts that are times -/

/-- Fourteen digits of a date and a time of day that there are. -/
def FullDate (time : List Char) (t : CivilTime) : Prop :=
  t.Dated ∧ t.year < 10000 ∧ time = t.digits

/-- The texts of times, with the time each of them stands for. -/
inductive TimeStampText : List Char → Timespec → Prop
  | whole {time : List Char} {t : CivilTime} (hdate : FullDate time t) :
      TimeStampText time ⟨t.seconds, 0⟩
  | fractional {time fraction : List Char} {t : CivilTime} (hdate : FullDate time t)
      (hdigits : AllDigits fraction) (hne : fraction ≠ []) (hle : fraction.length ≤ 9) :
      TimeStampText (time ++ '.' :: fraction)
        ⟨t.seconds, value (fraction ++ List.replicate (9 - fraction.length) '0')⟩

/-- The texts for which it makes no difference that nothing is checked behind a date that
    `strptime` could read: it reads none, or it reads all of fourteen digits of a date, and digits
    follow the point if there is one. -/
def LeavesNothing (s : List Char) : Prop :=
  match split s '.' false with
  | [time] => (strptime time).isSome → (∃ t, FullDate time t) ∧ '\x00' ∉ s
  | [time, fraction] =>
      (strptime time).isSome → AllDigits fraction → fraction.length ≤ 9 →
        (∃ t, FullDate time t) ∧ fraction ≠ [] ∧ '\x00' ∉ s
  | _ => True

theorem FullDate.strptime {time : List Char} {t : CivilTime} (hdate : FullDate time t) :
    strptime time = some (t, []) := by
  obtain ⟨hdated, hyear, rfl⟩ := hdate
  have hread := strptime_digits hdated hyear []
  rwa [List.append_nil] at hread

theorem FullDate.allDigits {time : List Char} {t : CivilTime} (hdate : FullDate time t) :
    AllDigits time := by
  rw [hdate.2.2]
  exact t.allDigits

theorem strptime_nil : strptime [] = none := rfl

/-- A fraction is read iff it is at most nine digits. -/
theorem parseNanoSeconds_eq_some_iff {fraction : List Char} {nsec : Nat} :
    parseNanoSeconds fraction = some nsec ↔ AllDigits fraction ∧ fraction.length ≤ 9 ∧
      nsec = value (fraction ++ List.replicate (9 - fraction.length) '0') := by
  have hdigit : (fraction.any fun ch => ch < '0' || '9' < ch) = true ↔ ¬AllDigits fraction := by
    rw [List.any_eq_true, AllDigits]
    push Not
    refine exists_congr fun c => and_congr_right fun _ => ?_
    have hzero : '0'.toNat = 48 := rfl
    have hnine : '9'.toNat = 57 := rfl
    rw [Bool.or_eq_true, decide_eq_true_eq, decide_eq_true_eq, Char.lt_def, Char.lt_def,
      UInt32.lt_iff_toNat_lt, UInt32.lt_iff_toNat_lt, Ne, Char.isDigit_iff_toNat]
    change (c.toNat < '0'.toNat ∨ '9'.toNat < c.toNat) ↔ _
    omega
  rw [parseNanoSeconds]
  split
  next hlong =>
    refine ⟨fun h => (Option.some_ne_none nsec h.symm).elim, fun h => ?_⟩
    exact absurd h.2.1 (Nat.not_le_of_lt hlong)
  next hshort =>
    by_cases hdigits : AllDigits fraction
    · rw [if_neg (fun h => hdigit.mp h hdigits), Option.some_inj]
      exact ⟨fun h => ⟨hdigits, Nat.le_of_not_lt hshort, h.symm⟩, fun h => h.2.2.symm⟩
    · rw [if_pos (hdigit.mpr hdigits)]
      exact ⟨fun h => (Option.some_ne_none nsec h.symm).elim, fun h => absurd h.1 hdigits⟩

/-! ## parseTimeStamp by the words of a text -/

theorem parseTimeStamp_of_split_one {s time : List Char}
    (hsplit : split s '.' false = [time]) (ts : Timespec) :
    parseTimeStamp s false = some ts ↔
      ∃ tm rest, strptime time = some (tm, rest) ∧ ts = ⟨tm.seconds, 0⟩ := by
  rw [parseTimeStamp]
  by_cases hs : s = []
  · subst hs
    rw [if_pos rfl, if_neg Bool.false_ne_true]
    have htime : time = [] := (takeWhile_of_split_one hsplit).symm
    rw [htime, strptime_nil]
    simp
  · rw [if_neg hs, hsplit]
    cases hread : strptime time with
    | none => simp [hread]
    | some r =>
      obtain ⟨tm, rest⟩ := r
      simp [hread, eq_comm]

theorem parseTimeStamp_of_split_two {s time fraction : List Char}
    (hsplit : split s '.' false = [time, fraction]) (ts : Timespec) :
    parseTimeStamp s false = some ts ↔ ∃ tm rest nsec, strptime time = some (tm, rest) ∧
      parseNanoSeconds fraction = some nsec ∧ ts = ⟨tm.seconds, nsec⟩ := by
  have hs : s ≠ [] := by
    rintro rfl
    cases hsplit
  rw [parseTimeStamp, if_neg hs, hsplit]
  cases hread : strptime time with
  | none => simp [hread]
  | some r =>
    obtain ⟨tm, rest⟩ := r
    cases hfraction : parseNanoSeconds fraction with
    | none => simp [hread, hfraction]
    | some nsec => simp [hread, hfraction, eq_comm]

/-! ## The main result -/

/-- Every text of a time is read as the time it stands for. -/
theorem TimeStampText.parseTimeStamp {s : List Char} {ts : Timespec} (htext : TimeStampText s ts) :
    parseTimeStamp s false = some ts := by
  cases htext with
  | whole hdate =>
    rw [parseTimeStamp_of_split_one (split_allDigits hdate.allDigits)]
    exact ⟨_, _, hdate.strptime, rfl⟩
  | fractional hdate hdigits hne hle =>
    rw [parseTimeStamp_of_split_two (split_point hdate.allDigits hdigits)]
    exact ⟨_, _, _, hdate.strptime, parseNanoSeconds_eq_some_iff.mpr ⟨hdigits, hle, rfl⟩, rfl⟩

/-- A text of a time is one word of fourteen digits, or two of which the second is not empty. -/
theorem TimeStampText.cases_split {s : List Char} {ts : Timespec} (htext : TimeStampText s ts) :
    ((∃ t, FullDate s t) ∧ split s '.' false = [s] ∧ '\x00' ∉ s) ∨
      ∃ time fraction, (∃ t, FullDate time t) ∧ fraction ≠ [] ∧
        split s '.' false = [time, fraction] ∧ '\x00' ∉ s := by
  cases htext with
  | whole hdate =>
    exact .inl ⟨⟨_, hdate⟩, split_allDigits hdate.allDigits, hdate.allDigits.notMem rfl⟩
  | @fractional time fraction t hdate hdigits hne _ =>
    refine .inr ⟨time, fraction, ⟨t, hdate⟩, hne, split_point hdate.allDigits hdigits, ?_⟩
    intro hmem
    rcases List.mem_append.mp hmem with hmem | hmem
    · exact hdate.allDigits.notMem rfl hmem
    · rcases List.mem_cons.mp hmem with heq | hmem
      · exact absurd heq (by decide)
      · exact hdigits.notMem rfl hmem

theorem LeavesNothing.timeStampText {s : List Char} (hleaves : LeavesNothing s) {ts : Timespec}
    (hparse : parseTimeStamp s false = some ts) : TimeStampText s ts := by
  rw [LeavesNothing] at hleaves
  split at hleaves
  next time hsplit =>
    obtain ⟨tm, rest, hread, rfl⟩ := (parseTimeStamp_of_split_one hsplit ts).mp hparse
    obtain ⟨⟨t, hdate⟩, hnul⟩ := hleaves (by rw [hread]; rfl)
    have hs : s = time := (takeWhile_of_notMem hnul).symm.trans (takeWhile_of_split_one hsplit)
    have htm : tm = t := by
      rw [hdate.strptime] at hread
      exact (congrArg Prod.fst (Option.some.inj hread)).symm
    rw [hs, htm]
    exact .whole hdate
  next time fraction hsplit =>
    obtain ⟨tm, rest, nsec, hread, hnsec, rfl⟩ := (parseTimeStamp_of_split_two hsplit ts).mp hparse
    obtain ⟨hdigits, hle, rfl⟩ := parseNanoSeconds_eq_some_iff.mp hnsec
    obtain ⟨⟨t, hdate⟩, hne, hnul⟩ := hleaves (by rw [hread]; rfl) hdigits hle
    have hs : s = time ++ '.' :: fraction :=
      (takeWhile_of_notMem hnul).symm.trans (takeWhile_of_split_two hsplit)
    have htm : tm = t := by
      rw [hdate.strptime] at hread
      exact (congrArg Prod.fst (Option.some.inj hread)).symm
    rw [hs, htm]
    exact .fractional hdate hdigits hne hle
  next words hone htwo =>
    exfalso
    have hs : s ≠ [] := by
      rintro rfl
      exact hone [] rfl
    rw [parseTimeStamp, if_neg hs] at hparse
    split at hparse
    next time hsplit => exact hone time hsplit
    next time fraction hsplit => exact htwo time fraction hsplit
    next => cases hparse

/-- The texts that are read are the texts of times, with the times they stand for, iff nothing is
    left behind a date that `strptime` reads. -/
theorem parseTimeStamp_eq_some_iff (s : List Char) :
    (∀ ts, parseTimeStamp s false = some ts ↔ TimeStampText s ts) ↔ LeavesNothing s := by
  refine ⟨fun hmeets => ?_, fun hleaves ts => ⟨hleaves.timeStampText, (·.parseTimeStamp)⟩⟩
  rw [LeavesNothing]
  split
  next time hsplit =>
    intro hread
    obtain ⟨⟨tm, rest⟩, hread⟩ := Option.isSome_iff_exists.mp hread
    have hparse := (parseTimeStamp_of_split_one hsplit _).mpr ⟨tm, rest, hread, rfl⟩
    obtain ⟨hdate, hsplit', hnul⟩ | ⟨time', fraction, -, -, hsplit', -⟩ :=
      ((hmeets _).mp hparse).cases_split
    · rw [hsplit, List.cons_eq_cons] at hsplit'
      rw [hsplit'.1]
      exact ⟨hdate, hnul⟩
    · rw [hsplit] at hsplit'
      cases hsplit'
  next time fraction hsplit =>
    intro hread hdigits hle
    obtain ⟨⟨tm, rest⟩, hread⟩ := Option.isSome_iff_exists.mp hread
    have hparse := (parseTimeStamp_of_split_two hsplit _).mpr
      ⟨tm, rest, _, hread, parseNanoSeconds_eq_some_iff.mpr ⟨hdigits, hle, rfl⟩, rfl⟩
    obtain ⟨-, hsplit', -⟩ | ⟨time', fraction', hdate, hne, hsplit', hnul⟩ :=
      ((hmeets _).mp hparse).cases_split
    · rw [hsplit] at hsplit'
      cases hsplit'
    · rw [hsplit] at hsplit'
      cases hsplit'
      exact ⟨hdate, hne, hnul⟩
  next => exact trivial

/-- A letter behind the seconds is passed over. -/
theorem not_parseTimeStamp_trailing :
    parseTimeStamp "20150101000000x".toList false = some ⟨1420070400, 0⟩ ∧
      ¬∀ ts, parseTimeStamp "20150101000000x".toList false = some ts ↔
        TimeStampText "20150101000000x".toList ts := by
  have hparse : parseTimeStamp "20150101000000x".toList false = some ⟨1420070400, 0⟩ := by
    decide +kernel
  refine ⟨hparse, fun hmeets => ?_⟩
  obtain ⟨⟨t, hdate⟩, -⟩ | ⟨time, fraction, -, -, hsplit, -⟩ :=
    ((hmeets _).mp hparse).cases_split
  · exact absurd (hdate.allDigits 'x' (by decide)) (by decide)
  · exact absurd hsplit (by rw [show split "20150101000000x".toList '.' false =
      ["20150101000000x".toList] by decide +kernel]; simp)

end Hatohol

import Hatohol.Hap2NagiosNDOUtils
import Hatohol.Plugins.Division

/-!
# Where Nagios triggers are resumed

The bound of a query is the last info of the triggers that were put. It is a time in UTC, and it is
compared with times on the clock of the wall.
-/

namespace Hatohol.NagiosNDOUtils

open Time Hapcommon Haplib

variable {offset : Int}

/-- A trigger with this time on the clock has been put. -/
def Delivered (offset : Int) (w : World) (d : DateTime) : Prop :=
  d.Valid ∧ ∃ trigger ∈ w.triggers, conv_to_hapi_time d offset = some trigger.lastChangeTime

/-- The greatest time that has been delivered. -/
def Greatest (offset : Int) (w : World) (d : DateTime) : Prop :=
  Delivered offset w d ∧ ∀ d', Delivered offset w d' → d'.instant ≤ d.instant

/-- The next query starts at this time, cut to seconds, and takes every row from it on. -/
def Resumes (w : World) (d : DateTime) : Prop :=
  w.nextBound = some (some d.time) ∧
    ∀ row : ServiceRow, d.instant ≤ row.status_update_time.instant →
      row.isSelected (some d.time) = true

/-- No call of a poll fails. -/
def Step.Returns : Step → Prop
  | .poll _ outcome _ => ∀ n, outcome n = .returned
  | .restart => True

/-- The last info is the text of a trigger that was put. Where the clock is not ahead of UTC, none
    has a later second. -/
structure World.Resumable (offset : Int) (w : World) : Prop where
  remembers : ∀ last_info, w.trigger_last_info = some last_info → last_info = w.lastInfo
  empty : w.lastInfo = [] → w.triggers = []
  times : ∀ trigger ∈ w.triggers, ∃ d : DateTime, d.Valid ∧
    conv_to_hapi_time d offset = some trigger.lastChangeTime
  last : w.lastInfo ≠ [] → ∃ d, Delivered offset w d ∧
    conv_to_hapi_time d offset = some w.lastInfo ∧
    (0 ≤ offset → ∀ d', Delivered offset w d' → d'.time.seconds ≤ d.time.seconds)

theorem start_resumable : start.Resumable offset where
  remembers _ h := by cases h
  empty _ := rfl
  times _ hmem := (List.not_mem_nil hmem).elim
  last hne := absurd rfl hne

/-! ## A poll -/

/-- Every row gives a trigger, and every trigger is that of a row. -/
theorem mapM_triggerOf {rows : List ServiceRow} : ∀ {triggers : List Trigger},
    rows.mapM (triggerOf offset) = some triggers →
      (∀ row ∈ rows, ∃ trigger ∈ triggers,
        conv_to_hapi_time row.status_update_time offset = some trigger.lastChangeTime) ∧
      ∀ trigger ∈ triggers, ∃ row ∈ rows,
        conv_to_hapi_time row.status_update_time offset = some trigger.lastChangeTime := by
  induction rows with
  | nil =>
    intro triggers h
    rw [List.mapM_nil] at h
    obtain rfl := Option.some.inj h
    exact ⟨fun _ hmem => (List.not_mem_nil hmem).elim, fun _ hmem => (List.not_mem_nil hmem).elim⟩
  | cons row rows ih =>
    intro triggers h
    rw [List.mapM_cons] at h
    change ((triggerOf offset row).bind fun trigger =>
      (rows.mapM (triggerOf offset)).bind fun triggers => some (trigger :: triggers)) = _ at h
    obtain ⟨trigger, hrow, h⟩ := Option.bind_eq_some_iff.mp h
    obtain ⟨rest, hrows, h⟩ := Option.bind_eq_some_iff.mp h
    obtain rfl := Option.some.inj h
    change ((conv_to_hapi_time row.status_update_time offset).bind fun hapi_time => some _) = _
      at hrow
    obtain ⟨hapi_time, hconv, htrigger⟩ := Option.bind_eq_some_iff.mp hrow
    obtain rfl := Option.some.inj htrigger
    obtain ⟨htriggers, hrowOf⟩ := ih hrows
    refine ⟨fun row' hmem => ?_, fun trigger' hmem => ?_⟩
    · rcases List.mem_cons.mp hmem with rfl | hmem
      · exact ⟨_, List.mem_cons_self, hconv⟩
      · obtain ⟨trigger', hmem', hconv'⟩ := htriggers row' hmem
        exact ⟨trigger', List.mem_cons_of_mem _ hmem', hconv'⟩
    · rcases List.mem_cons.mp hmem with rfl | hmem
      · exact ⟨row, List.mem_cons_self, hconv⟩
      · obtain ⟨row', hmem', hconv'⟩ := hrowOf trigger' hmem
        exact ⟨row', List.mem_cons_of_mem _ hmem', hconv'⟩

theorem str_zfill_of_le {width : Nat} {cs : List Char} (hle : width ≤ cs.length) :
    str_zfill width cs = cs := by
  unfold str_zfill
  split
  next cs => rw [zfill_of_le (by rw [List.length_cons] at hle; omega)]
  next cs => rw [zfill_of_le (by rw [List.length_cons] at hle; omega)]
  next => exact zfill_of_le hle

/-- The biggest text is that of a latest row. -/
theorem get_biggest_lastChangeTime {rows : List ServiceRow} {triggers : List Trigger}
    (hne : triggers ≠ []) (htriggers : rows.mapM (triggerOf offset) = some triggers) :
    ∃ row ∈ rows, ∃ trigger ∈ triggers,
      conv_to_hapi_time row.status_update_time offset = some trigger.lastChangeTime ∧
      get_biggest_num_of_dict_array (triggers.map (·.lastChangeTime)) =
        some trigger.lastChangeTime ∧
      ∀ row' ∈ rows, row'.status_update_time.instant ≤ row.status_update_time.instant := by
  obtain ⟨htriggerOf, hrowOf⟩ := mapM_triggerOf htriggers
  have hlength : ∀ v ∈ triggers.map (·.lastChangeTime), v.length = 21 := by
    intro v hmem
    obtain ⟨trigger, htrigger, rfl⟩ := List.mem_map.mp hmem
    obtain ⟨row, -, hconv⟩ := hrowOf trigger htrigger
    exact length_conv_to_hapi_time row.real hconv
  obtain ⟨digit, -, hbound, b, hb, hbiggest, hmax⟩ := get_biggest_spec
    (mt List.map_eq_nil_iff.mp hne)
  have hdigit := hbound 21 fun v hmem => Nat.le_of_eq (hlength v hmem)
  have hplain : ∀ v ∈ triggers.map (·.lastChangeTime), str_zfill digit v = v := fun v hmem =>
    str_zfill_of_le (by rw [hlength v hmem]; exact hdigit)
  rw [hplain b hb] at hbiggest hmax
  obtain ⟨trigger, htrigger, rfl⟩ := List.mem_map.mp hb
  obtain ⟨row, hrow, hconv⟩ := hrowOf trigger htrigger
  refine ⟨row, hrow, trigger, htrigger, hconv, hbiggest, fun row' hrow' => ?_⟩
  obtain ⟨trigger', htrigger', hconv'⟩ := htriggerOf row' hrow'
  have hnot := hmax _ (List.mem_map_of_mem htrigger')
  rw [hplain _ (List.mem_map_of_mem htrigger'),
    conv_to_hapi_time_lt_iff row.real row'.real hconv hconv'] at hnot
  omega

theorem delivered_append {w : World} {triggers : List Trigger} {last_info : List Char}
    {remembered : Option (List Char)} {d : DateTime} :
    Delivered offset ⟨remembered, last_info, w.triggers ++ triggers⟩ d ↔ Delivered offset w d ∨
      d.Valid ∧ ∃ trigger ∈ triggers,
        conv_to_hapi_time d offset = some trigger.lastChangeTime := by
  simp only [Delivered, List.mem_append, or_and_right, exists_or, and_or_left]

theorem World.Resumable.poll {w : World} (h : w.Resumable offset) {rows : List ServiceRow}
    {outcome : Nat → PutResult} (houtcome : ∀ n, outcome n = .returned) (requestId : String) :
    (collect_triggers_and_put offset rows outcome requestId w).Resumable offset := by
  have hlast : w.trigger_last_info.getD w.lastInfo = w.lastInfo := by
    cases hinfo : w.trigger_last_info with
    | none => rfl
    | some last_info => exact h.remembers last_info hinfo
  have hkept : ∀ remembered, (∀ last_info, remembered = some last_info → last_info = w.lastInfo) →
      World.Resumable offset { w with trigger_last_info := remembered } := by
    intro remembered hremembered
    exact ⟨hremembered, h.empty, h.times, h.last⟩
  rw [collect_triggers_and_put]
  dsimp only
  rw [hlast]
  split
  next => exact hkept _ fun _ heq => (Option.some.inj heq).symm
  next nag_time hbound =>
    split
    next => exact hkept _ fun _ heq => (Option.some.inj heq).symm
    next triggers htriggers =>
      -- the rows that are put are not before the last info
      rcases eq_or_ne triggers [] with rfl | hne
      · -- nothing is put, and the plugin forgets its last info
        rw [divideAndPutData_nil]
        exact hkept none nofun
      · obtain ⟨row, hrow, trigger, htrigger, hconv, hbiggest, hgreatest⟩ :=
          get_biggest_lastChangeTime hne htriggers
        obtain ⟨hcalls, hchunks⟩ := flatten_wholeCalls requestId hne
        obtain ⟨n, hput⟩ := putCalls_put_triggers houtcome (some trigger.lastChangeTime)
          (wholeCalls requestId triggers) 0
          ⟨some trigger.lastChangeTime, w.lastInfo, w.triggers⟩
        rw [hbiggest, divideAndPutData_eq _ _ _ hne (by rw [hput]; exact PutResult.noConfusion),
          hput, if_neg hcalls, List.flatMap_def, hchunks]
        have hdelivered : Delivered offset ⟨some trigger.lastChangeTime, trigger.lastChangeTime,
            w.triggers ++ triggers⟩ row.status_update_time :=
          delivered_append.mpr (.inr ⟨row.real, trigger, htrigger, hconv⟩)
        have htext : trigger.lastChangeTime ≠ [] := by
          intro hnil
          have hlength := length_conv_to_hapi_time row.real hconv
          rw [hnil] at hlength
          cases hlength
        obtain ⟨htriggerOf, hrowOf⟩ := mapM_triggerOf htriggers
        refine ⟨fun _ heq => (Option.some.inj heq).symm, fun hnil => absurd hnil htext,
          fun trigger' hmem => ?_, fun _ => ⟨row.status_update_time, hdelivered, hconv,
            fun hoffset d hd => ?_⟩⟩
        · rcases List.mem_append.mp hmem with hmem | hmem
          · exact h.times trigger' hmem
          · obtain ⟨row', -, hconv'⟩ := hrowOf trigger' hmem
            exact ⟨row'.status_update_time, row'.real, hconv'⟩
        · rcases delivered_append.mp hd with hold | ⟨hvalid, trigger', hmem, hconv'⟩
          · have hne' : w.lastInfo ≠ [] := by
              intro hnil
              obtain ⟨-, trigger', hmem, -⟩ := hold
              rw [h.empty hnil] at hmem
              cases hmem
            obtain ⟨d', ⟨hd', -⟩, hconv', hmax⟩ := h.last hne'
            have hle := hmax hoffset d hold
            obtain rfl := Option.some.inj ((nagTime_conv hd' hconv').symm.trans hbound)
            obtain ⟨hfirst, -⟩ := conv_to_hapi_time_eq_some.mp hconv'
            have hselected := of_decide_eq_true (List.mem_filter.mp hrow).2
            rw [seconds_civilTime (by omega), DateTime.instant] at hselected
            have hmicro := row.real.microsecond
            omega
          · obtain ⟨row', hrow', hconv''⟩ := hrowOf trigger' hmem
            have hle := hgreatest row' hrow'
            have heq := instant_eq_of_conv hvalid row'.real hconv' hconv''
            have hd' := hvalid.microsecond
            have hrow := row.real.microsecond
            rw [← heq, DateTime.instant, DateTime.instant] at hle
            omega

theorem World.Resumable.next {w : World} (h : w.Resumable offset) {step : Step}
    (hstep : step.Returns) : (NagiosNDOUtils.next offset w step).Resumable offset := by
  cases step with
  | poll rows outcome requestId => exact h.poll hstep requestId
  | restart => exact ⟨nofun, h.empty, h.times, h.last⟩

/-! ## All polls -/

theorem resumable_of_returns (steps : List Step) (hreturns : ∀ step ∈ steps, step.Returns) :
    ∀ w : World, w.Resumable offset →
      (steps.foldl (NagiosNDOUtils.next offset) w).Resumable offset := by
  induction steps with
  | nil => exact fun _ h => h
  | cons step steps ih =>
    intro w h
    exact ih (fun step' hmem => hreturns step' (List.mem_cons_of_mem step hmem)) _
      (h.next (hreturns step List.mem_cons_self))

theorem World.Resumable.resumes_iff {w : World} (h : w.Resumable offset) {d : DateTime}
    (hgreatest : Greatest offset w d) : Resumes w d ↔ offset = 0 := by
  obtain ⟨hdelivered, hmax⟩ := hgreatest
  have hne : w.lastInfo ≠ [] := by
    intro hnil
    obtain ⟨-, trigger, hmem, -⟩ := hdelivered
    rw [h.empty hnil] at hmem
    cases hmem
  have hlast : w.trigger_last_info.getD w.lastInfo = w.lastInfo := by
    cases hinfo : w.trigger_last_info with
    | none => rfl
    | some last_info => exact h.remembers last_info hinfo
  obtain ⟨d', hd', hconv, hseconds⟩ := h.last hne
  obtain ⟨hfirst, -⟩ := conv_to_hapi_time_eq_some.mp hconv
  have hle := hmax d' hd'
  have hmicro := hd'.1.microsecond
  have hmicro' := hdelivered.1.microsecond
  rw [DateTime.instant, DateTime.instant] at hle
  rw [Resumes, World.nextBound, hlast, nagTime_conv hd'.1 hconv]
  constructor
  · rintro ⟨hbound, -⟩
    have htime := Option.some.inj (Option.some.inj hbound)
    have hsame := congrArg CivilTime.seconds htime
    rw [seconds_civilTime (by omega)] at hsame
    rcases Int.lt_trichotomy offset 0 with hneg | hzero | hpos
    · omega
    · exact hzero
    · have := hseconds (by omega) d hdelivered
      omega
  · rintro rfl
    have hge := hseconds (Int.le_refl 0) d hdelivered
    have hsame : d'.time.seconds + 0 = d.time.seconds := by omega
    rw [hsame, hdelivered.1.date]
    refine ⟨rfl, fun row hrow => decide_eq_true ?_⟩
    rw [DateTime.instant] at hrow
    omega

/-- After polls whose calls all return, the next query starts at the greatest time that was
    delivered if and only if the clock of the machine is that of UTC. -/
theorem polls_resume_iff (steps : List Step) (hreturns : ∀ step ∈ steps, step.Returns) (d : DateTime)
    (hgreatest : Greatest offset (steps.foldl (next offset) start) d) :
    Resumes (steps.foldl (next offset) start) d ↔ offset = 0 :=
  (resumable_of_returns steps hreturns start start_resumable).resumes_iff hgreatest

/-! ## Noon -/

/-- A service that was checked at this minute after noon. -/
def rowAtNoon (minute : Nat) (hminute : minute < 60) : ServiceRow where
  service_object_id := 1
  current_state := 2
  status_update_time := ⟨⟨2015, 10, 1, 12, minute, 0⟩, 0⟩
  output := "down"
  host_object_id := 3
  display_name := "host"
  real := by
    have hdate : ∀ minute < 60, civilTime (CivilTime.seconds ⟨2015, 10, 1, 12, minute, 0⟩) =
        ⟨2015, 10, 1, 12, minute, 0⟩ := by decide +kernel
    exact ⟨hdate minute hminute, show 1 ≤ 2015 by decide, show 2015 ≤ 9999 by decide,
      show 0 < 10 ^ 6 by decide⟩

def noon : DateTime := ⟨⟨2015, 10, 1, 12, 0, 0⟩, 0⟩

def pollAtNoon : Step := .poll [rowAtNoon 0 (by decide)] (fun _ => .returned) "1"

theorem pollAtNoon_world (offset : Int) {text : List Char}
    (hconv : conv_to_hapi_time noon offset = some text) :
    ∃ trigger : Trigger, trigger.lastChangeTime = text ∧
      [pollAtNoon].foldl (next offset) start = ⟨some text, text, [trigger]⟩ := by
  let trigger : Trigger := ⟨"1", "NG", "CRITICAL", text, "3", "host", "down"⟩
  refine ⟨trigger, rfl, ?_⟩
  have htrigger : triggerOf offset (rowAtNoon 0 (by decide)) = some trigger := by
    change ((conv_to_hapi_time noon offset).bind fun hapi_time => some _) = _
    rw [hconv, Option.bind_some]
    rfl
  have htriggers : ([rowAtNoon 0 (by decide)].filter (·.isSelected none)).mapM
      (triggerOf offset) = some [trigger] := by
    change ([rowAtNoon 0 (by decide)].mapM (triggerOf offset)) = _
    rw [List.mapM_cons, List.mapM_nil, htrigger]
    rfl
  have hcalls := wholeCalls_of_le "1" (List.cons_ne_nil trigger [])
    (show 1 ≤ DEFAULT_MAX_CHUNK_SIZE by decide)
  have hbiggest : get_biggest_num_of_dict_array [text] = some text := by
    obtain ⟨-, -, trigger', hmem, -, hbiggest, -⟩ :=
      get_biggest_lastChangeTime (List.cons_ne_nil trigger []) htriggers
    rw [List.mem_singleton.mp hmem] at hbiggest
    exact hbiggest
  have hbound : nagTime (start.trigger_last_info.getD start.lastInfo) = some none := rfl
  rw [List.foldl_cons, List.foldl_nil, pollAtNoon, next, collect_triggers_and_put]
  simp only [hbound, htriggers]
  change (divideAndPutData (put_triggers _ (get_biggest_num_of_dict_array [text])) "1" [trigger]
    false (0, ⟨get_biggest_num_of_dict_array [text], [], []⟩)).2.2 = _
  rw [hbiggest, divideAndPutData_eq _ _ _ (List.cons_ne_nil trigger [])
    (by rw [hcalls]; exact PutResult.noConfusion), hcalls]
  rfl

theorem pollAtNoon_greatest {offset : Int} {text : List Char}
    (hconv : conv_to_hapi_time noon offset = some text) :
    Greatest offset ([pollAtNoon].foldl (next offset) start) noon := by
  have hnoon := (rowAtNoon 0 (by decide)).real
  obtain ⟨trigger, rfl, hworld⟩ := pollAtNoon_world offset hconv
  rw [hworld]
  refine ⟨⟨hnoon, trigger, List.mem_singleton.mpr rfl, hconv⟩, ?_⟩
  rintro d ⟨hd, trigger', hmem, hconv'⟩
  rw [List.mem_singleton.mp hmem] at hconv'
  exact Int.le_of_eq (instant_eq_of_conv hd hnoon hconv' hconv)

theorem polls_resume_iff_noon :
    Greatest 0 ([pollAtNoon].foldl (next 0) start) noon ∧
    (Resumes ([pollAtNoon].foldl (next 0) start) noon ↔ (0 : Int) = 0) := by
  have hconv : conv_to_hapi_time noon 0 = some "20151001120000.000000".toList := by decide +kernel
  have hgreatest := pollAtNoon_greatest hconv
  refine ⟨hgreatest, polls_resume_iff [pollAtNoon] (fun step hmem => ?_) noon hgreatest⟩
  rw [List.mem_singleton.mp hmem]
  exact fun _ => rfl

/-- One hour west of UTC the next query starts at one o'clock. -/
theorem polls_skip_half_past :
    Greatest 3600 ([pollAtNoon].foldl (next 3600) start) noon ∧
    ([pollAtNoon].foldl (next 3600) start).nextBound = some (some ⟨2015, 10, 1, 13, 0, 0⟩) ∧
    ¬ Resumes ([pollAtNoon].foldl (next 3600) start) noon ∧
    (rowAtNoon 30 (by decide)).isSelected (some ⟨2015, 10, 1, 13, 0, 0⟩) = false := by
  have hconv : conv_to_hapi_time noon 3600 = some "20151001130000.000000".toList := by
    decide +kernel
  have hbound : ([pollAtNoon].foldl (next 3600) start).nextBound =
      some (some ⟨2015, 10, 1, 13, 0, 0⟩) := by
    obtain ⟨trigger, -, hworld⟩ := pollAtNoon_world 3600 hconv
    rw [hworld]
    change nagTime "20151001130000.000000".toList = _
    decide +kernel
  refine ⟨pollAtNoon_greatest hconv, hbound, fun hresumes => ?_, by decide +kernel⟩
  rw [Resumes, hbound] at hresumes
  exact absurd hresumes.1 (by decide)

end Hatohol.NagiosNDOUtils

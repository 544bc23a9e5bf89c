import Mathlib.Algebra.BigOperators.Group.List.Basic
import Mathlib.Algebra.Order.BigOperators.Group.List
import Mathlib.Algebra.Order.Ring.Nat
import Hatohol.SmartTime

/-!
# Statistics counters

A counter has the sum of the last interval and that of the current one. The slots only move when the
counter is called (server/src/StatisticsCounter.cc). Every call is made under a lock and reads the
clock once.
-/

namespace Hatohol

/-- The effective interval is `startTime <= T < endTime`. -/
structure Slot where
  startTime : SmartTime
  endTime : SmartTime
  number : UInt64
  deriving DecidableEq, Repr

structure StatisticsCounter where
  interval : Timespec
  prevSlot : Slot
  currSlot : Slot
  currSlotEndTime : SmartTime
  deriving DecidableEq, Repr

namespace StatisticsCounter

def initializeSlots (interval : Timespec) (now : SmartTime) : StatisticsCounter where
  interval
  prevSlot := ⟨now.subAssign ⟨interval⟩, now, 0⟩
  currSlot := ⟨now, now, 0⟩
  currSlotEndTime := now.addAssign interval

def fixupSlots (c : StatisticsCounter) (now : SmartTime) : StatisticsCounter :=
  if now.lt c.currSlotEndTime then
    { c with currSlot := { c.currSlot with endTime := now } }
  else
    let nextEndTime := c.currSlotEndTime.addAssign c.interval
    if now.lt nextEndTime then
      { c with
        prevSlot := { c.currSlot with endTime := c.currSlotEndTime }
        currSlot := ⟨c.currSlotEndTime, now, 0⟩
        currSlotEndTime := nextEndTime }
    else initializeSlots c.interval now

def add (c : StatisticsCounter) (now : SmartTime) (number : UInt64) : StatisticsCounter :=
  let c := c.fixupSlots now
  { c with currSlot := { c.currSlot with number := c.currSlot.number + number } }

/-- The slots, with the counter afterwards. -/
def get (c : StatisticsCounter) (now : SmartTime) : (Slot × Slot) × StatisticsCounter :=
  let c := c.fixupSlots now
  ((c.prevSlot, c.currSlot), c)

/-! ## Runs -/

inductive Call where
  | add (number : UInt64)
  | get
  deriving DecidableEq, Repr

def step (c : StatisticsCounter) (call : SmartTime × Call) : StatisticsCounter :=
  match call.2 with
  | .add number => c.add call.1 number
  | .get => (c.get call.1).2

/-- The counter after calls at these times. -/
def run (interval : Timespec) (start : SmartTime) (calls : List (SmartTime × Call)) :
    StatisticsCounter := calls.foldl step (initializeSlots interval start)

/-- The sum of the numbers that are added at times that meet a condition. -/
def added (P : SmartTime → Bool) (calls : List (SmartTime × Call)) : Nat :=
  (calls.map fun call => match call.2 with
    | .add number => if P call.1 then number.toNat else 0
    | .get => 0).sum

variable {P Q : SmartTime → Bool} {calls : List (SmartTime × Call)}

theorem added_concat (P : SmartTime → Bool) (calls : List (SmartTime × Call)) (now : SmartTime)
    (number : UInt64) : added P (calls ++ [(now, .add number)]) =
      added P calls + if P now then number.toNat else 0 := by
  unfold added
  rw [List.map_append, List.sum_append, List.map_singleton, List.sum_singleton]

theorem added_concat_get (P : SmartTime → Bool) (calls : List (SmartTime × Call))
    (now : SmartTime) : added P (calls ++ [(now, .get)]) = added P calls := by
  unfold added
  rw [List.map_append, List.sum_append, List.map_singleton, List.sum_singleton, Nat.add_zero]

theorem added_congr (hsame : ∀ call ∈ calls, P call.1 = Q call.1) :
    added P calls = added Q calls := by
  unfold added
  refine congrArg List.sum (List.map_congr_left fun call hcall => ?_)
  rw [hsame call hcall]

theorem added_eq_zero (hnone : ∀ call ∈ calls, P call.1 = false) : added P calls = 0 := by
  unfold added
  refine List.sum_eq_zero fun x hx => ?_
  obtain ⟨call, hcall, rfl⟩ := List.mem_map.mp hx
  rw [hnone call hcall]
  split <;> rfl

theorem added_le (calls : List (SmartTime × Call)) :
    added P calls ≤ added (fun _ => true) calls := by
  unfold added
  refine List.sum_le_sum fun call _ => ?_
  split
  · split
    · exact le_rfl
    · exact Nat.zero_le _
  · exact le_rfl

/-- What the slots have to be: the previous one an interval, the current one from there on. `last` is
    the last reading of the clock. -/
structure Exact (interval : Timespec) (calls : List (SmartTime × Call)) (last : SmartTime)
    (c : StatisticsCounter) : Prop where
  interval_eq : c.interval = interval
  normal_prev : c.prevSlot.startTime.Normal
  normal_start : c.currSlot.startTime.Normal
  normal_end : c.currSlotEndTime.Normal
  prev_start : c.prevSlot.startTime.total = c.currSlot.startTime.total - interval.total
  prev_end : c.prevSlot.endTime = c.currSlot.startTime
  end_total : c.currSlotEndTime.total = c.currSlot.startTime.total + interval.total
  curr_end : c.currSlot.endTime = last
  start_le : c.currSlot.startTime.total ≤ last.total
  lt_end : last.total < c.currSlotEndTime.total
  earlier : ∀ call ∈ calls, call.1.Normal ∧ call.1.total ≤ last.total
  prev_number : c.prevSlot.number = UInt64.ofNat
    (added (fun t => t.ge c.prevSlot.startTime && t.lt c.prevSlot.endTime) calls)
  curr_number : c.currSlot.number = UInt64.ofNat
    (added (fun t => t.ge c.prevSlot.endTime) calls)

section Step

variable {interval : Timespec} {start last now : SmartTime} {c : StatisticsCounter}

theorem ge_eq_false {t u : SmartTime} (ht : t.Normal) (hu : u.Normal) (hlt : t.total < u.total) :
    t.ge u = false := by
  rw [← Bool.not_eq_true, SmartTime.ge_iff_total ht hu]
  exact not_le.mpr hlt

/-- Nothing is counted when all calls have been made before the previous slot. -/
theorem exact_initializeSlots (hinterval : interval.Normal) (hpos : 0 < interval.total)
    (hnow : now.Normal)
    (hcalls : ∀ call ∈ calls, call.1.Normal ∧ call.1.total < now.total - interval.total) :
    Exact interval calls now (initializeSlots interval now) := by
  have hstart : (now.subAssign ⟨interval⟩).Normal := SmartTime.normal_subAssign hnow hinterval
  have hbefore : (now.subAssign ⟨interval⟩).total = now.total - interval.total :=
    SmartTime.total_subAssign now ⟨interval⟩
  have hend : (now.addAssign interval).total = now.total + interval.total :=
    SmartTime.total_addAssign now interval
  refine ⟨rfl, hstart, hnow, SmartTime.normal_addAssign hnow hinterval, hbefore, rfl, hend, rfl,
    le_rfl, ?_, ?_, ?_, ?_⟩
  · change now.total < (now.addAssign interval).total
    omega
  · exact fun call hcall => ⟨(hcalls call hcall).1, by have := (hcalls call hcall).2; omega⟩
  · have hnone : added (fun t => t.ge (now.subAssign ⟨interval⟩) && t.lt now) calls = 0 := by
      refine added_eq_zero fun call hcall => ?_
      obtain ⟨hnormal, hlt⟩ := hcalls call hcall
      rw [ge_eq_false hnormal hstart (hbefore ▸ hlt), Bool.false_and]
    exact (congrArg UInt64.ofNat hnone).symm
  · have hnone : added (fun t => t.ge now) calls = 0 := by
      refine added_eq_zero fun call hcall => ?_
      obtain ⟨hnormal, hlt⟩ := hcalls call hcall
      exact ge_eq_false hnormal hnow (by omega)
    exact (congrArg UInt64.ofNat hnone).symm

/-- The slots are those for the reading: the same ones, the next ones or new ones. -/
theorem exact_fixupSlots (hinterval : interval.Normal) (hpos : 0 < interval.total)
    (hexact : Exact interval calls last c) (hnow : now.Normal) (hle : last.total ≤ now.total) :
    Exact interval calls now (c.fixupSlots now) := by
  have hstart := hexact.start_le
  have hend := hexact.lt_end
  have htotal := hexact.end_total
  unfold fixupSlots
  by_cases hsame : now.lt c.currSlotEndTime = true
  · rw [if_pos hsame]
    have hlt := (SmartTime.lt_iff_total hnow hexact.normal_end).mp hsame
    exact { hexact with
      curr_end := rfl
      start_le := hstart.trans hle
      lt_end := hlt
      earlier := fun call hcall => ⟨(hexact.earlier call hcall).1,
        (hexact.earlier call hcall).2.trans hle⟩ }
  rw [if_neg hsame]
  have hreached := not_lt.mp fun hlt =>
    hsame ((SmartTime.lt_iff_total hnow hexact.normal_end).mpr hlt)
  have hinterval' : c.interval.Normal := hexact.interval_eq ▸ hinterval
  have hnext : (c.currSlotEndTime.addAssign c.interval).Normal :=
    SmartTime.normal_addAssign hexact.normal_end hinterval'
  have hnextTotal : (c.currSlotEndTime.addAssign c.interval).total =
      c.currSlotEndTime.total + interval.total := by
    rw [SmartTime.total_addAssign, hexact.interval_eq]
  dsimp only
  by_cases hslot : now.lt (c.currSlotEndTime.addAssign c.interval) = true
  · rw [if_pos hslot]
    have hlt := (SmartTime.lt_iff_total hnow hnext).mp hslot
    refine ⟨hexact.interval_eq, hexact.normal_start, hexact.normal_end, hnext, ?_, rfl, hnextTotal,
      rfl, hreached, hlt, ?_, ?_, ?_⟩
    · change c.currSlot.startTime.total = c.currSlotEndTime.total - interval.total
      omega
    · exact fun call hcall => ⟨(hexact.earlier call hcall).1,
        (hexact.earlier call hcall).2.trans hle⟩
    -- all that has been added since the slot began has been added in it
    · refine hexact.curr_number.trans (congrArg UInt64.ofNat (added_congr fun call hcall => ?_))
      obtain ⟨hnormal, hearlier⟩ := hexact.earlier call hcall
      change call.1.ge c.prevSlot.endTime =
        (call.1.ge c.currSlot.startTime && call.1.lt c.currSlotEndTime)
      rw [hexact.prev_end, (SmartTime.lt_iff_total hnormal hexact.normal_end).mpr (by omega),
        Bool.and_true]
    · have hnone : added (fun t => t.ge c.currSlotEndTime) calls = 0 := by
        refine added_eq_zero fun call hcall => ?_
        obtain ⟨hnormal, hearlier⟩ := hexact.earlier call hcall
        exact ge_eq_false hnormal hexact.normal_end (by omega)
      exact (congrArg UInt64.ofNat hnone).symm
  · rw [if_neg hslot, hexact.interval_eq]
    have hlate := not_lt.mp fun hlt => hslot ((SmartTime.lt_iff_total hnow hnext).mpr hlt)
    refine exact_initializeSlots hinterval hpos hnow fun call hcall => ?_
    obtain ⟨hnormal, hearlier⟩ := hexact.earlier call hcall
    exact ⟨hnormal, by omega⟩

/-- A call at a reading that is not earlier. -/
theorem exact_step (hinterval : interval.Normal) (hpos : 0 < interval.total)
    (hexact : Exact interval calls last c) {call : SmartTime × Call} (hnow : call.1.Normal)
    (hle : last.total ≤ call.1.total) :
    Exact interval (calls ++ [call]) call.1 (c.step call) := by
  obtain ⟨now, kind⟩ := call
  have hfixed := exact_fixupSlots hinterval hpos hexact hnow hle
  have hearlier : ∀ call ∈ calls ++ [(now, kind)], call.1.Normal ∧ call.1.total ≤ now.total := by
    intro call hcall
    rcases List.mem_append.mp hcall with hcall | hcall
    · exact hfixed.earlier call hcall
    · rw [List.mem_singleton.mp hcall]
      exact ⟨hnow, le_rfl⟩
  cases kind with
  | get =>
    exact { hfixed with
      earlier := hearlier
      prev_number := by rw [added_concat_get]; exact hfixed.prev_number
      curr_number := by rw [added_concat_get]; exact hfixed.curr_number }
  | add number =>
    -- the reading is not before the current slot
    have hstart : now.ge (c.fixupSlots now).currSlot.startTime = true :=
      (SmartTime.ge_iff_total hnow hfixed.normal_start).mpr hfixed.start_le
    have hnot : now.lt (c.fixupSlots now).prevSlot.endTime = false := by
      rw [hfixed.prev_end, SmartTime.lt, hstart, Bool.not_true]
    refine { hfixed with
      earlier := hearlier
      prev_number := ?_
      curr_number := ?_ }
    · change (c.fixupSlots now).prevSlot.number = UInt64.ofNat (added (fun t =>
        t.ge (c.fixupSlots now).prevSlot.startTime && t.lt (c.fixupSlots now).prevSlot.endTime) _)
      rw [added_concat, hnot, Bool.and_false]
      exact hfixed.prev_number
    · change (c.fixupSlots now).currSlot.number + number =
        UInt64.ofNat (added (fun t => t.ge (c.fixupSlots now).prevSlot.endTime) _)
      rw [added_concat, hfixed.prev_end, hstart, if_pos rfl, UInt64.ofNat_add, UInt64.ofNat_toNat,
        hfixed.curr_number, hfixed.prev_end]

/-- The readings of the clock, from one on. -/
def Clock (start : SmartTime) (readings : List SmartTime) : Prop :=
  (∀ t ∈ start :: readings, t.Normal) ∧
    (start :: readings).Pairwise fun t u => t.total ≤ u.total

theorem Clock.of_append {readings readings' : List SmartTime}
    (hclock : Clock start (readings ++ readings')) : Clock start readings := by
  rw [Clock, ← List.cons_append] at hclock
  exact ⟨fun t ht => hclock.1 t (List.mem_append_left _ ht),
    (List.pairwise_append.mp hclock.2).1⟩

theorem Clock.final {readings : List SmartTime} (hclock : Clock start (readings ++ [now])) :
    now.Normal ∧ ∀ t ∈ start :: readings, t.total ≤ now.total := by
  rw [Clock, ← List.cons_append] at hclock
  exact ⟨hclock.1 now (List.mem_append_right _ List.mem_cons_self),
    fun t ht => (List.pairwise_append.mp hclock.2).2.2 t ht now List.mem_cons_self⟩

/-- The slots are exact after every run, by induction on its calls from the last one on. -/
theorem exact_run (hinterval : interval.Normal) (hpos : 0 < interval.total)
    (hclock : Clock start (calls.map Prod.fst)) :
    ∃ last ∈ start :: calls.map Prod.fst, Exact interval calls last (run interval start calls) := by
  induction calls using List.reverseRecOn with
  | nil =>
    exact ⟨start, List.mem_cons_self, exact_initializeSlots hinterval hpos
      (hclock.1 start List.mem_cons_self) fun call hcall => absurd hcall List.not_mem_nil⟩
  | append_singleton calls call ih =>
    rw [List.map_append] at hclock ⊢
    obtain ⟨last, hlast, hexact⟩ := ih hclock.of_append
    obtain ⟨hnormal, hle⟩ := hclock.final
    refine ⟨call.1, List.mem_cons_of_mem _ (List.mem_append_right _ List.mem_cons_self), ?_⟩
    rw [run, List.foldl_append]
    exact exact_step hinterval hpos hexact hnormal (hle last hlast)

end Step

/-- The calls that are made from one time on and before another. -/
def addedBetween (calls : List (SmartTime × Call)) (start stop : SmartTime) : Nat :=
  added (fun t => start.total ≤ t.total ∧ t.total < stop.total) calls

def addedSince (calls : List (SmartTime × Call)) (start : SmartTime) : Nat :=
  added (fun t => start.total ≤ t.total) calls

/-- The slots that a call of `get` has to report. -/
structure Reports (interval : Timespec) (calls : List (SmartTime × Call)) (now : SmartTime)
    (prev curr : Slot) : Prop where
  prev_length : prev.endTime.total - prev.startTime.total = interval.total
  prev_number : prev.number.toNat = addedBetween calls prev.startTime prev.endTime
  curr_start : curr.startTime = prev.endTime
  curr_end : curr.endTime = now
  curr_number : curr.number.toNat = addedSince calls prev.endTime

/-- For an interval with proper nanoseconds. -/
theorem get_reports (interval : Timespec) (hinterval : interval.Normal) (hpos : 0 < interval.total)
    (start now : SmartTime) (calls : List (SmartTime × Call))
    (hclock : Clock start (calls.map Prod.fst ++ [now]))
    (hsum : added (fun _ => true) calls < 2 ^ 64) :
    Reports interval calls now ((run interval start calls).get now).1.1
      ((run interval start calls).get now).1.2 := by
  obtain ⟨last, hlast, hexact⟩ := exact_run hinterval hpos hclock.of_append
  obtain ⟨hnow, hle⟩ := hclock.final
  have hfixed := exact_fixupSlots hinterval hpos hexact hnow (hle last hlast)
  have hprevEnd : ((run interval start calls).fixupSlots now).prevSlot.endTime.Normal :=
    hfixed.prev_end ▸ hfixed.normal_start
  have hnumber (P : SmartTime → Bool) : (UInt64.ofNat (added P calls)).toNat = added P calls :=
    UInt64.toNat_ofNat_of_lt' ((added_le calls).trans_lt hsum)
  refine ⟨?_, ?_, hfixed.prev_end.symm, hfixed.curr_end, ?_⟩
  · have hstart := hfixed.prev_start
    change ((run interval start calls).fixupSlots now).prevSlot.endTime.total -
      ((run interval start calls).fixupSlots now).prevSlot.startTime.total = _
    rw [hfixed.prev_end]
    omega
  · refine (congrArg UInt64.toNat hfixed.prev_number).trans ((hnumber _).trans ?_)
    refine added_congr fun call hcall => ?_
    have hcall := (hfixed.earlier call hcall).1
    rw [Bool.eq_iff_iff, Bool.and_eq_true, decide_eq_true_iff,
      SmartTime.ge_iff_total hcall hfixed.normal_prev, SmartTime.lt_iff_total hcall hprevEnd]
    rfl
  · refine (congrArg UInt64.toNat hfixed.curr_number).trans ((hnumber _).trans ?_)
    refine added_congr fun call hcall => ?_
    rw [Bool.eq_iff_iff, decide_eq_true_iff,
      SmartTime.ge_iff_total (hfixed.earlier call hcall).1 hprevEnd]
    rfl

theorem twoSlots_clock :
    Clock ⟨⟨1000, 0⟩⟩ [⟨⟨1009, 999999999⟩⟩, ⟨⟨1010, 0⟩⟩, ⟨⟨1012, 7⟩⟩] := by
  refine ⟨?_, by decide⟩
  rw [← List.forall_iff_forall_mem]
  exact ⟨⟨by decide, by decide⟩, ⟨by decide, by decide⟩, ⟨by decide, by decide⟩,
    ⟨by decide, by decide⟩⟩

/-- An add in the slot before the last and one in the last. -/
theorem get_reports_two_slots :
    Reports ⟨10, 0⟩ [(⟨⟨1009, 999999999⟩⟩, .add 5), (⟨⟨1010, 0⟩⟩, .add 3)] ⟨⟨1012, 7⟩⟩
      ⟨⟨⟨1000, 0⟩⟩, ⟨⟨1010, 0⟩⟩, 5⟩ ⟨⟨⟨1010, 0⟩⟩, ⟨⟨1012, 7⟩⟩, 3⟩ :=
  get_reports ⟨10, 0⟩ ⟨by decide, by decide⟩ (by decide) ⟨⟨1000, 0⟩⟩ ⟨⟨1012, 7⟩⟩
    [(⟨⟨1009, 999999999⟩⟩, .add 5), (⟨⟨1010, 0⟩⟩, .add 3)]
    twoSlots_clock (by decide)

/-- With 1500000000 nanoseconds the slots end at times that are not in order with the readings. -/
theorem not_get_reports_long_nanoseconds :
    0 < Timespec.total ⟨0, 1500000000⟩ ∧
      Clock ⟨⟨0, 600000000⟩⟩ [⟨⟨1, 900000000⟩⟩, ⟨⟨3, 0⟩⟩] ∧
      ¬ Reports ⟨0, 1500000000⟩ [(⟨⟨1, 900000000⟩⟩, .add 5)] ⟨⟨3, 0⟩⟩
        ((run ⟨0, 1500000000⟩ ⟨⟨0, 600000000⟩⟩ [(⟨⟨1, 900000000⟩⟩, .add 5)]).get ⟨⟨3, 0⟩⟩).1.1
        ((run ⟨0, 1500000000⟩ ⟨⟨0, 600000000⟩⟩ [(⟨⟨1, 900000000⟩⟩, .add 5)]).get ⟨⟨3, 0⟩⟩).1.2 := by
  refine ⟨by decide, ⟨?_, by decide⟩, fun h => absurd h.prev_number (by decide)⟩
  rw [← List.forall_iff_forall_mem]
  exact ⟨⟨by decide, by decide⟩, ⟨by decide, by decide⟩, ⟨by decide, by decide⟩⟩

end StatisticsCounter

end Hatohol

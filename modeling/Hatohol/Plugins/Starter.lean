import Mathlib.Algebra.Group.Int.Defs
import Mathlib.Data.List.Induction
import Mathlib.Data.Int.Order.Basic

/-!
# Restarts of a plugin

The starter runs a plugin again whenever its process ends, and gives up if that happens too often
(server/hap2/hatohol/hap2_starter.py:98-166). The times are in microseconds.
-/

namespace Hatohol.Hap2Starter

def RETRY_TIME_RANGE : Int := 300

def RETRY_REPEAT_COUNT : Nat := 5

/-- `int` of a number cuts it off. -/
def total_seconds (microseconds : Int) : Int := microseconds.tdiv (10 ^ 6)

/-- The plugin runs, the starter has given up, or processes of the plugin could not be killed. -/
inductive StarterState where
  | running
  | gaveUp
  | notKilled
  deriving DecidableEq, Repr

structure Starter where
  finish_counter : Nat
  base_time : Int
  state : StarterState
  deriving DecidableEq, Repr

/-- The end of a process of the plugin, and whether its group is gone then. -/
structure Finish where
  now : Int
  killed : Bool
  deriving DecidableEq, Repr

namespace Starter

def start (now : Int) : Starter := ⟨0, now, .running⟩

/-- The counter and the time behind `wait`. -/
def count (s : Starter) (now : Int) : Starter :=
  if total_seconds (now - s.base_time) < RETRY_TIME_RANGE then
    { s with finish_counter := s.finish_counter + 1 }
  else { s with base_time := now, finish_counter := 1 }

/-- The rest of the body of the loop. -/
def finish (s : Starter) (f : Finish) : Starter :=
  if s.state ≠ .running then s
  else
    let s := s.count f.now
    if !f.killed then { s with state := .notKilled }
    else if s.finish_counter ≥ RETRY_REPEAT_COUNT then { s with state := .gaveUp }
    else s

def run (now : Int) (finishes : List Finish) : Starter := finishes.foldl finish (start now)

end Starter

/-! ## Ends that are near to each other -/

/-- The clock does not go back from a time on. -/
def Ordered : Int → List Finish → Prop
  | _, [] => True
  | now, f :: rest => now ≤ f.now ∧ Ordered f.now rest

/-- All ends are less than 300 seconds behind a time. -/
def Within (since : Int) (finishes : List Finish) : Prop :=
  ∀ f ∈ finishes, since ≤ f.now ∧ f.now < since + 300 * 10 ^ 6

theorem total_seconds_lt_iff {base now : Int} (hle : base ≤ now) :
    total_seconds (now - base) < RETRY_TIME_RANGE ↔ now < base + 300 * 10 ^ 6 := by
  rw [total_seconds, RETRY_TIME_RANGE, Int.tdiv_eq_ediv_of_nonneg (by omega)]
  omega

theorem Ordered.le {now : Int} {finishes : List Finish} (h : Ordered now finishes) {f : Finish}
    (hf : f ∈ finishes) : now ≤ f.now := by
  induction finishes generalizing now with
  | nil => exact absurd hf List.not_mem_nil
  | cons g rest ih =>
    rcases List.mem_cons.mp hf with rfl | hf
    · exact h.1
    · exact le_trans h.1 (ih h.2 hf)

theorem ordered_append {now : Int} {before after : List Finish} :
    Ordered now (before ++ after) ↔
      Ordered now before ∧ Ordered (before.getLast?.elim now Finish.now) after := by
  induction before generalizing now with
  | nil => exact (and_iff_right trivial).symm
  | cons f rest ih =>
    rw [List.cons_append, Ordered, Ordered, ih, and_assoc]
    cases rest with
    | nil => rfl
    | cons g rest => rw [List.getLast?_cons_cons]; rfl

namespace Starter

variable {s : Starter}

theorem finish_of_ended (h : s.state ≠ .running) (f : Finish) : s.finish f = s := if_pos h

theorem foldl_of_ended (h : s.state ≠ .running) (finishes : List Finish) :
    finishes.foldl finish s = s := by
  induction finishes with
  | nil => rfl
  | cons f rest ih => rw [List.foldl_cons, finish_of_ended h, ih]

/-! ## When the starter gives up -/

/-- The time of the last end, or that of the start. -/
def latest (now : Int) (finishes : List Finish) : Int := finishes.getLast?.elim now Finish.now

/-- The counter counts the last ends, all of which are near to the base time. -/
structure Counts (now : Int) (s : Starter) (finishes : List Finish) : Prop where
  split : ∃ before since, finishes = before ++ since ∧ since.length = s.finish_counter ∧
    Within s.base_time since
  base : s.base_time ≤ latest now finishes
  few : s.finish_counter < RETRY_REPEAT_COUNT

structure Sound (now : Int) (s : Starter) (finishes : List Finish) : Prop where
  running : s.state = .running → s.Counts now finishes
  gaveUp : s.state = .gaveUp → ∃ before five rest since,
    finishes = before ++ five ++ rest ∧ five.length = 5 ∧ Within since five

theorem sound_start (now : Int) : (start now).Sound now [] where
  running _ := ⟨⟨[], [], rfl, rfl, fun _ hf => absurd hf List.not_mem_nil⟩, Int.le_refl _,
    Nat.zero_lt_succ 4⟩
  gaveUp h := nomatch h

/-- What the counter says behind an end. -/
theorem Counts.count {now : Int} {finishes : List Finish} (h : s.Counts now finishes) {f : Finish}
    (hle : latest now finishes ≤ f.now) :
    (∃ before since, finishes ++ [f] = before ++ since ∧
      since.length = (s.count f.now).finish_counter ∧ Within (s.count f.now).base_time since) ∧
    (s.count f.now).base_time ≤ f.now ∧
    (s.count f.now).finish_counter ≤ RETRY_REPEAT_COUNT := by
  obtain ⟨before, since, rfl, hlength, hwithin⟩ := h.split
  have hbase := le_trans h.base hle
  have hfew := h.few
  rw [Starter.count]
  split
  next hnear =>
    have hlt := (total_seconds_lt_iff hbase).mp hnear
    refine ⟨⟨before, since ++ [f], List.append_assoc _ _ _, ?_, fun g hg => ?_⟩, hbase, hfew⟩
    · rw [List.length_append, hlength]
      rfl
    · rcases List.mem_append.mp hg with hg | hg
      · exact hwithin g hg
      · rw [List.mem_singleton.mp hg]
        exact ⟨hbase, hlt⟩
  next =>
    refine ⟨⟨before ++ since, [f], rfl, rfl, fun g hg => ?_⟩, Int.le_refl _,
      Nat.succ_le_succ (Nat.zero_le 4)⟩
    rw [List.mem_singleton.mp hg]
    exact ⟨Int.le_refl _, Int.lt_add_of_pos_right _ (by decide)⟩

theorem Sound.finish {now : Int} {finishes : List Finish} (h : s.Sound now finishes) {f : Finish}
    (hle : latest now finishes ≤ f.now) : (s.finish f).Sound now (finishes ++ [f]) := by
  by_cases hrunning : s.state = .running
  · obtain ⟨hsplit, hbase, hmost⟩ := (h.running hrunning).count hle
    have hlatest : latest now (finishes ++ [f]) = f.now := by
      rw [latest, List.getLast?_concat, Option.elim_some]
    have hstate : (s.count f.now).state = .running := by
      rw [Starter.count]
      split <;> exact hrunning
    rw [Starter.finish, if_neg (not_not_intro hrunning)]
    dsimp only
    split
    · exact ⟨nofun, nofun⟩
    · split
      next hmany =>
        refine ⟨nofun, fun _ => ?_⟩
        obtain ⟨before, since, heq, hlength, hwithin⟩ := hsplit
        refine ⟨before, since, [], _, ?_, ?_, hwithin⟩
        · rw [List.append_nil, heq]
        · rw [hlength]
          exact Nat.le_antisymm hmost hmany
      next hfew =>
        refine ⟨fun _ => ⟨hsplit, hlatest ▸ hbase, Nat.lt_of_not_le hfew⟩, fun hgave => ?_⟩
        rw [hstate] at hgave
        cases hgave
  · rw [finish_of_ended hrunning]
    refine ⟨fun hrun => absurd hrun hrunning, fun hgave => ?_⟩
    obtain ⟨before, five, rest, since, rfl, hlength, hwithin⟩ := h.gaveUp hgave
    exact ⟨before, five, rest ++ [f], since, List.append_assoc _ _ _, hlength, hwithin⟩

theorem sound_run {now : Int} (finishes : List Finish) (hordered : Ordered now finishes) :
    (run now finishes).Sound now finishes := by
  induction finishes using List.reverseRecOn with
  | nil => exact sound_start now
  | append_singleton finishes f ih =>
    obtain ⟨hbefore, hle, -⟩ := ordered_append.mp hordered
    rw [run, List.foldl_append]
    exact (ih hbefore).finish hle

/-- An end near to the base time makes the counter go on. -/
theorem finish_of_near (hrunning : s.state = .running) {f : Finish} (hle : s.base_time ≤ f.now)
    (hlt : f.now < s.base_time + 300 * 10 ^ 6) :
    (s.finish f).state ≠ .running ∨
      s.finish f = { s with finish_counter := s.finish_counter + 1 } ∧
        s.finish_counter + 1 < RETRY_REPEAT_COUNT := by
  rw [Starter.finish, if_neg (not_not_intro hrunning), Starter.count,
    if_pos ((total_seconds_lt_iff hle).mpr hlt)]
  dsimp only
  split
  · exact .inl nofun
  · split
    · exact .inl nofun
    next hfew => exact .inr ⟨rfl, Nat.lt_of_not_le hfew⟩

theorem ended_of_near (finishes : List Finish) :
    ∀ s : Starter, Within s.base_time finishes → 5 ≤ finishes.length + s.finish_counter →
      s.finish_counter < RETRY_REPEAT_COUNT → (finishes.foldl finish s).state ≠ .running := by
  induction finishes with
  | nil =>
    intro s _ hmany hfew
    rw [List.length_nil, Nat.zero_add] at hmany
    exact absurd hmany (Nat.not_le_of_lt hfew)
  | cons f rest ih =>
    intro s hwithin hmany hfew
    by_cases hrunning : s.state = .running
    · obtain ⟨hle, hlt⟩ := hwithin f List.mem_cons_self
      rw [List.foldl_cons]
      rcases finish_of_near hrunning hle hlt with hended | ⟨heq, hstill⟩
      · rw [foldl_of_ended hended]
        exact hended
      · rw [heq]
        rw [List.length_cons] at hmany
        exact ih _ (fun g hg => hwithin g (List.mem_cons_of_mem _ hg)) (by dsimp only; omega) hstill
    · rw [foldl_of_ended hrunning]
      exact hrunning

/-- Behind an end that starts the counting again four more are enough. -/
theorem ended_of_nine {since : Int} (finishes : List Finish) :
    ∀ s : Starter, s.base_time ≤ since → Ordered since finishes → Within since finishes →
      9 ≤ finishes.length + s.finish_counter → s.finish_counter < RETRY_REPEAT_COUNT →
      (finishes.foldl finish s).state ≠ .running := by
  have hfive : RETRY_REPEAT_COUNT = 5 := rfl
  induction finishes generalizing since with
  | nil =>
    intro s _ _ _ hmany hfew
    rw [List.length_nil] at hmany
    omega
  | cons f rest ih =>
    intro s hbase hordered hwithin hmany hfew
    rw [List.length_cons] at hmany
    have hle := le_trans hbase hordered.1
    have hrest : ∀ g ∈ rest, since ≤ g.now ∧ g.now < since + 300 * 10 ^ 6 := fun g hg =>
      hwithin g (List.mem_cons_of_mem _ hg)
    have hlater : Within f.now rest := fun g hg =>
      ⟨hordered.2.le hg, lt_of_lt_of_le (hrest g hg).2 (Int.add_le_add_right hordered.1 _)⟩
    by_cases hrunning : s.state = .running
    · rw [List.foldl_cons]
      by_cases hlt : f.now < s.base_time + 300 * 10 ^ 6
      · rcases finish_of_near hrunning hle hlt with hended | ⟨heq, hstill⟩
        · rw [foldl_of_ended hended]
          exact hended
        · rw [heq]
          exact ih _ hle hordered.2 hlater (by dsimp only; omega) hstill
      · rw [Starter.finish, if_neg (not_not_intro hrunning), Starter.count,
          if_neg fun hnear => hlt ((total_seconds_lt_iff hle).mp hnear)]
        have hone : ¬1 ≥ RETRY_REPEAT_COUNT := by decide
        simp only [if_neg hone]
        split
        · rw [foldl_of_ended (by simp)]
          simp
        · exact ended_of_near rest _ hlater (by dsimp only; omega) (Nat.lt_of_not_le hone)
    · rw [foldl_of_ended hrunning]
      exact hrunning

/-- The starter does not give up before the process has ended five times within 300 seconds, and
    does not go on if it has ended nine times within 300 seconds. -/
theorem gives_up_between_five_and_nine {now : Int} {finishes : List Finish}
    (hordered : Ordered now finishes) :
    ((run now finishes).state = .gaveUp → ∃ before five rest since,
      finishes = before ++ five ++ rest ∧ five.length = 5 ∧ Within since five) ∧
    ∀ before nine rest since, finishes = before ++ nine ++ rest → nine.length = 9 →
      Within since nine → (run now finishes).state ≠ .running := by
  refine ⟨(sound_run finishes hordered).gaveUp, ?_⟩
  rintro before nine rest since rfl hlength hwithin
  obtain ⟨hboth, -⟩ := ordered_append.mp hordered
  obtain ⟨hbefore, hnine⟩ := ordered_append.mp hboth
  have hended : (nine.foldl finish (run now before)).state ≠ .running := by
    by_cases hrunning : (run now before).state = .running
    · have hcounts := (sound_run before hbefore).running hrunning
      obtain ⟨f, tail, rfl⟩ := List.exists_cons_of_length_pos (l := nine) (by omega)
      have hnear : Within f.now (f :: tail) := by
        intro g hg
        have hfirst := hwithin f List.mem_cons_self
        refine ⟨?_, lt_of_lt_of_le (hwithin g hg).2 (Int.add_le_add_right hfirst.1 _)⟩
        rcases List.mem_cons.mp hg with rfl | hg
        · exact Int.le_refl _
        · exact hnine.2.le hg
      exact ended_of_nine (f :: tail) _ (le_trans hcounts.base hnine.1) ⟨Int.le_refl _, hnine.2⟩ hnear
        (by omega) hcounts.few
    · rw [foldl_of_ended hrunning]
      exact hrunning
  rw [run, List.foldl_append, List.foldl_append]
  rw [run] at hended
  rw [foldl_of_ended hended]
  exact hended

theorem gives_up_between_five_and_nine_each_second :
    let finishes : List Finish := [⟨10 ^ 6, true⟩, ⟨2 * 10 ^ 6, true⟩, ⟨3 * 10 ^ 6, true⟩,
      ⟨4 * 10 ^ 6, true⟩, ⟨5 * 10 ^ 6, true⟩]
    (run 0 finishes).state = .gaveUp ∧ ∃ before five rest since,
      finishes = before ++ five ++ rest ∧ five.length = 5 ∧ Within since five := by
  intro finishes
  have hordered : Ordered 0 finishes :=
    ⟨by decide, by decide, by decide, by decide, by decide, trivial⟩
  exact ⟨by decide, (gives_up_between_five_and_nine hordered).1 (by decide)⟩

/-- Eight ends within 22 seconds are not enough if the counting starts again with the fifth. -/
example : (run 0 ([287, 290, 293, 296, 300, 303, 306, 309].map fun t => ⟨t * 10 ^ 6, true⟩)).state =
    .running := by decide

end Starter

end Hatohol.Hap2Starter

import Hatohol.Machine.Steps
import Hatohol.NamedPipe

/-!
# When the timer of a pipe is armed

The timer belongs to the transfers that are pending. A tag that is stored keeps another timer from
being armed, so each path on which a transfer ends has to clear it.
-/

namespace Hatohol

open Machine

/-! ## Timers and tags -/

namespace TimeoutInfo

/-- The stored tag is that of the source, and a source has a callback. -/
structure Tagged (t : TimeoutInfo) : Prop where
  tag : t.tag = t.source.map (·.id)
  callback : t.source.isSome → t.hasCbFunc

variable {t : TimeoutInfo}

theorem source_of_tag (htagged : t.Tagged) : t.tag = none ↔ t.source = none := by
  rw [htagged.tag, Option.map_eq_none_iff]

theorem source_removeTimeout (htagged : t.Tagged) : t.removeTimeout.source = none := by
  rw [removeTimeout, removeEventSourceIfNeeded, htagged.tag]
  cases t.source <;> simp

theorem tagged_removeTimeout (htagged : t.Tagged) : t.removeTimeout.Tagged where
  tag := by
    rw [source_removeTimeout htagged]
    rfl
  callback := by
    rw [source_removeTimeout htagged]
    exact fun h => nomatch h

theorem setTimeoutIfNeeded_of_none (htag : t.tag = none) (hcallback : t.hasCbFunc) :
    t.setTimeoutIfNeeded.source = some ⟨t.nextId, t.value⟩ := by
  rw [setTimeoutIfNeeded, htag, hcallback]
  rfl

theorem tagged_setTimeoutIfNeeded (htagged : t.Tagged) : t.setTimeoutIfNeeded.Tagged := by
  rw [setTimeoutIfNeeded]
  split
  next => exact htagged
  next hcallback =>
    split
    next => exact htagged
    next => exact ⟨rfl, fun _ => by simpa using hcallback⟩

theorem isSome_setTimeoutIfNeeded (htagged : t.Tagged) (hcallback : t.hasCbFunc) :
    t.setTimeoutIfNeeded.source.isSome := by
  cases htag : t.tag with
  | none =>
    rw [setTimeoutIfNeeded_of_none htag hcallback]
    rfl
  | some id =>
    rw [setTimeoutIfNeeded, hcallback, htag]
    cases hsource : t.source with
    | none =>
      rw [htagged.tag, hsource] at htag
      cases htag
    | some source => simp [hsource]

/-- Nothing but `setTimeout` changes the callback. -/
theorem hasCbFunc_setTimeoutIfNeeded (t : TimeoutInfo) :
    t.setTimeoutIfNeeded.hasCbFunc = t.hasCbFunc := by
  rw [setTimeoutIfNeeded]
  split
  · rfl
  · split <;> rfl

end TimeoutInfo

namespace NamedPipe

/-! ## The loop of the writer -/

/-- A write fails after another buffer has been written whole. -/
def failsLater (results : Nat → Option Nat) : Nat → List SmartBuffer → Bool
  | _, [] => false
  | k, buf :: bufs =>
      match results k with
      | none => k != 0
      | some accepted => buf.unsent.length ≤ accepted && failsLater results (k + 1) bufs

/-- The timer after the loop: there is none if everything is written, and the one for what is left
    is armed unless a write has failed. -/
theorem timeoutInfo_writeLoop (results : Nat → Option Nat) (k : Nat) (bufs : List SmartBuffer)
    (t : TimeoutInfo) (htagged : t.Tagged) :
    let written := writeLoop results k bufs t
    written.timeoutInfo.Tagged ∧
    (bufs ≠ [] → written.left = [] → written.timeoutInfo.source = none) ∧
    (bufs = [] → written.timeoutInfo = t ∧ written.left = []) ∧
    (written.left ≠ [] → failsLater results k bufs = false →
      k ≠ 0 ∧ t.hasCbFunc ∨ t.source.isSome → written.timeoutInfo.source.isSome) := by
  induction bufs generalizing k t with
  | nil => exact ⟨htagged, fun h => absurd rfl h, fun _ => ⟨rfl, rfl⟩, fun h => absurd rfl h⟩
  | cons buf bufs ih =>
    rw [writeLoop, failsLater]
    cases hresult : results k with
    | none =>
      dsimp only
      refine ⟨htagged, fun _ h => (nomatch h), fun h => (nomatch h), fun _ hfirst harmed => ?_⟩
      have hk : k = 0 := by simpa using hfirst
      exact harmed.resolve_left fun h => h.1 hk
    | some accepted =>
      dsimp only
      split
      next hwhole =>
        obtain ⟨htagged', hdone, hnone, hleft⟩ :=
          ih (k + 1) t.removeTimeout (TimeoutInfo.tagged_removeTimeout htagged)
        refine ⟨htagged', fun _ hempty => ?_, fun h => (nomatch h), fun hrest hfails harmed => ?_⟩
        · by_cases hbufs : bufs = []
          · rw [(hnone hbufs).1]
            exact TimeoutInfo.source_removeTimeout htagged
          · exact hdone hbufs hempty
        · have hcount : buf.unsent.length ≤ accepted := by omega
          rw [decide_eq_true hcount, Bool.true_and] at hfails
          refine hleft hrest hfails (.inl ⟨Nat.succ_ne_zero k, ?_⟩)
          exact harmed.elim And.right htagged.callback
      next =>
        refine ⟨TimeoutInfo.tagged_setTimeoutIfNeeded htagged, fun _ h => (nomatch h),
          fun h => (nomatch h), fun _ _ harmed => ?_⟩
        exact TimeoutInfo.isSome_setTimeoutIfNeeded htagged
          (harmed.elim And.right htagged.callback)

/-! ## Runs -/

/-- What happens to one end of a pipe. -/
inductive Input where
  | setTimeout (timeout : Nat) (hasTimeoutCb : Bool)
  | push (buf : SmartBuffer)
  | pull (size : Nat) (fresh : Nat → UInt8)
  | write (results : Nat → Option Nat)
  | read (stat : GIOStatus) (bytes : List UInt8)
  /-- `readErrorCb` and `writeErrorCb`, which call the user's callback. -/
  | error
  | timeout

/-- The timer has done what it was for, or another one has been asked for. -/
def Input.settles : Input → Bool
  | .setTimeout _ _ | .timeout => true
  | _ => false

/-- GLib calls back for the sources that there are. -/
def handle (p : NamedPipe) : Input → NamedPipe
  | .setTimeout timeout hasTimeoutCb => p.setTimeout timeout hasTimeoutCb
  | .push buf => (p.push buf).getD p
  | .pull size fresh => (p.pull size fresh).getD p
  | .write results => if p.writeWatch then (p.writeCb results).2 else p
  | .read stat bytes => if p.readWatch then ((p.readCb stat bytes).map Prod.snd).getD p else p
  | .error => p
  | .timeout =>
      if p.timeoutInfo.source.isSome then { p with timeoutInfo := p.timeoutInfo.timeoutHandler }
      else p

/-- A pull waits for its callback, or a buffer is queued. -/
def pending (p : NamedPipe) : Bool := p.hasPullCb && p.readWatch || !p.writeBufList.isEmpty

/-- A transfer is asked for, and the end takes it. -/
def begins (p : NamedPipe) : Input → Bool
  | .push buf => (p.push buf).isSome
  | .pull size fresh => (p.pull size fresh).isSome
  | _ => false

/-- What begins a transfer where none is pending begins a period of its own, of the length that is
    set. -/
def StartsPeriod (p : NamedPipe) (input : Input) : Prop :=
  p.pending = false → p.timeoutInfo.hasCbFunc →
    match input with
    | .push buf => ∀ p', p.push buf = some p' →
        p'.timeoutInfo.source = some ⟨p.timeoutInfo.nextId, p.timeoutInfo.value⟩
    | .pull size fresh => ∀ p', p.pull size fresh = some p' →
        p'.timeoutInfo.source = some ⟨p.timeoutInfo.nextId, p.timeoutInfo.value⟩
    | _ => True

end NamedPipe

/-- An end of a pipe, and whether a transfer is owed a timer: it has begun after the last timeout
    was set, is pending and has not timed out. -/
structure TimedPipe where
  pipe : NamedPipe
  owed : Bool

namespace TimedPipe

def new (isWriter : Bool) : TimedPipe := ⟨.new isWriter, false⟩

/-- A transfer that was owed a timer still is while it is pending, and one that begins is if a
    timeout has been set. -/
def owedAfter (m : TimedPipe) (begins : Bool) (p' : NamedPipe) : Bool :=
  p'.pending && (m.owed || begins && m.pipe.timeoutInfo.hasCbFunc)

def next (m : TimedPipe) (input : NamedPipe.Input) : TimedPipe where
  pipe := m.pipe.handle input
  owed := !input.settles && m.owedAfter (m.pipe.begins input) (m.pipe.handle input)

/-- No timer is taken away from under its tag, no transfer ends without its timer or loses it to
    another, and what is pushed and what is pulled are not pending at once. -/
def Clean (m : TimedPipe) : NamedPipe.Input → Prop
  | .setTimeout _ _ => m.pipe.timeoutInfo.tag = none
  | .push _ => m.pipe.isWriter → m.pipe.readWatch = false
  | .pull _ _ => m.pipe.hasPullCb = false → m.pipe.writeBufList = []
  | .write results => m.owed = false ∨ NamedPipe.failsLater results 0 m.pipe.writeBufList = false
  | .read stat bytes =>
      checkGIOStatus stat → m.pipe.pullRemainingSize ≤ bytes.length →
        m.pipe.timeoutInfo.tag = none
  | _ => True

structure Sound (m : TimedPipe) : Prop where
  tagged : m.pipe.timeoutInfo.Tagged
  pending : m.pipe.timeoutInfo.source.isSome → m.pipe.pending
  armed : m.owed → m.pipe.timeoutInfo.source.isSome
  apart : m.pipe.readWatch → m.pipe.writeBufList = []

variable {m : TimedPipe}

/-- A transfer that is asked for is pending, and its timer is armed. -/
theorem sound_of_begin (hsound : m.Sound) {p' : NamedPipe}
    (htimer : p'.timeoutInfo = m.pipe.timeoutInfo.setTimeoutIfNeeded) (hpending : p'.pending)
    (hapart : p'.readWatch → p'.writeBufList = []) :
    (TimedPipe.mk p' (m.owedAfter true p')).Sound where
  tagged := by
    rw [htimer]
    exact TimeoutInfo.tagged_setTimeoutIfNeeded hsound.tagged
  pending := fun _ => hpending
  armed := by
    intro howes
    rw [owedAfter, hpending, Bool.true_and, Bool.true_and, Bool.or_eq_true] at howes
    rw [htimer]
    refine TimeoutInfo.isSome_setTimeoutIfNeeded hsound.tagged ?_
    exact howes.elim (fun howed => hsound.tagged.callback (hsound.armed howed)) id
  apart := hapart

/-- Where no transfer begins or goes on, none is owed a timer. -/
theorem sound_of_source_none {p' : NamedPipe} (htagged : p'.timeoutInfo.Tagged)
    (hsource : p'.timeoutInfo.source = none)
    (hapart : p'.readWatch → p'.writeBufList = []) : (TimedPipe.mk p' false).Sound where
  tagged := htagged
  pending := by
    rw [hsource]
    exact fun h => nomatch h
  armed := fun h => nomatch h
  apart := hapart

theorem sound_setTimeout (hsound : m.Sound) {timeout : Nat} {hasTimeoutCb : Bool}
    (hclean : m.Clean (.setTimeout timeout hasTimeoutCb)) :
    (m.next (.setTimeout timeout hasTimeoutCb)).Sound := by
  have htag : m.pipe.timeoutInfo.tag = none := hclean
  have hsource := (TimeoutInfo.source_of_tag hsound.tagged).mp htag
  have hremove : m.pipe.timeoutInfo.removeEventSourceIfNeeded = m.pipe.timeoutInfo := by
    rw [TimeoutInfo.removeEventSourceIfNeeded, hsource, Option.filter_none, ← hsource]
  rw [next, NamedPipe.handle, NamedPipe.setTimeout, hremove]
  split
  · exact sound_of_source_none hsound.tagged hsource hsound.apart
  · split
    · exact sound_of_source_none hsound.tagged hsource hsound.apart
    · refine sound_of_source_none ⟨hsound.tagged.tag, ?_⟩ hsource hsound.apart
      exact fun _ => rfl

/-- What leaves the timer and the transfers alone. -/
theorem sound_of_unchanged (hsound : m.Sound) {input : NamedPipe.Input}
    (htimer : (m.pipe.handle input).timeoutInfo = m.pipe.timeoutInfo)
    (hpending : (m.pipe.handle input).pending = m.pipe.pending)
    (hbegins : m.pipe.begins input = false)
    (hapart : (m.pipe.handle input).readWatch → (m.pipe.handle input).writeBufList = []) :
    (m.next input).Sound where
  tagged := by
    rw [next, htimer]
    exact hsound.tagged
  pending := by
    rw [next, htimer, hpending]
    exact hsound.pending
  armed := by
    rw [next, htimer, owedAfter, hbegins, Bool.false_and, Bool.or_false]
    intro howes
    exact hsound.armed (Bool.and_eq_true_iff.mp (Bool.and_eq_true_iff.mp howes).2).2
  apart := hapart

theorem sound_same (hsound : m.Sound) (input : NamedPipe.Input)
    (hsame : m.pipe.handle input = m.pipe) (hbegins : m.pipe.begins input = false) :
    (m.next input).Sound :=
  sound_of_unchanged hsound (by rw [hsame]) (by rw [hsame]) hbegins
    (by rw [hsame]; exact hsound.apart)

theorem sound_push (hsound : m.Sound) {buf : SmartBuffer} (hclean : m.Clean (.push buf)) :
    (m.next (.push buf)).Sound := by
  cases hpush : m.pipe.push buf with
  | none =>
    refine sound_same hsound _ ?_ ?_
    · rw [NamedPipe.handle, hpush, Option.getD_none]
    · rw [NamedPipe.begins, hpush, Option.isSome_none]
  | some p' =>
    have hhandle : m.pipe.handle (.push buf) = p' := by
      rw [NamedPipe.handle, hpush, Option.getD_some]
    have hbegins : m.pipe.begins (.push buf) = true := by
      rw [NamedPipe.begins, hpush, Option.isSome_some]
    rw [NamedPipe.push] at hpush
    split at hpush
    next => cases hpush
    next hwriter =>
      rw [Bool.not_eq_true, Bool.not_eq_false'] at hwriter
      have hunread : m.pipe.readWatch = false := hclean hwriter
      obtain rfl := Option.some.inj hpush
      rw [next, hhandle, hbegins]
      refine sound_of_begin hsound ?_ ?_ ?_ <;>
        simp only [NamedPipe.setTimeoutIfNeeded, NamedPipe.enableWriteCbIfNeeded] <;>
        split
      · rfl
      · rfl
      · simp [NamedPipe.pending]
      · simp [NamedPipe.pending]
      · simp [hunread]
      · simp [hunread]

theorem sound_pull (hsound : m.Sound) {size : Nat} {fresh : Nat → UInt8}
    (hclean : m.Clean (.pull size fresh)) : (m.next (.pull size fresh)).Sound := by
  cases hpull : m.pipe.pull size fresh with
  | none =>
    refine sound_same hsound _ ?_ ?_
    · rw [NamedPipe.handle, hpull, Option.getD_none]
    · rw [NamedPipe.begins, hpull, Option.isSome_none]
  | some p' =>
    have hhandle : m.pipe.handle (.pull size fresh) = p' := by
      rw [NamedPipe.handle, hpull, Option.getD_some]
    have hbegins : m.pipe.begins (.pull size fresh) = true := by
      rw [NamedPipe.begins, hpull, Option.isSome_some]
    rw [NamedPipe.pull] at hpull
    split at hpull
    next => cases hpull
    next hidle =>
      have hempty : m.pipe.writeBufList = [] := hclean (Bool.eq_false_iff.mpr hidle)
      obtain rfl := Option.some.inj hpull
      rw [next, hhandle, hbegins]
      exact sound_of_begin hsound rfl rfl fun _ => hempty

theorem sound_write (hsound : m.Sound) {results : Nat → Option Nat}
    (hclean : m.Clean (.write results)) : (m.next (.write results)).Sound := by
  by_cases hwatch : m.pipe.writeWatch
  case neg => exact sound_same hsound _ (by rw [NamedPipe.handle, if_neg hwatch]) rfl
  have hhandle : m.pipe.handle (.write results) = (m.pipe.writeCb results).2 := by
    rw [NamedPipe.handle, if_pos hwatch]
  obtain ⟨htagged, hdone, hnone, hleft⟩ := NamedPipe.timeoutInfo_writeLoop results 0
    m.pipe.writeBufList m.pipe.timeoutInfo hsound.tagged
  by_cases hbufs : m.pipe.writeBufList = []
  · obtain ⟨htimer, hempty⟩ := hnone hbufs
    refine sound_of_unchanged hsound ?_ ?_ rfl ?_ <;> rw [hhandle]
    · exact htimer
    · rw [NamedPipe.pending, NamedPipe.pending, hbufs, NamedPipe.writeCb, hempty]
    · rw [NamedPipe.writeCb, hempty]
      exact fun _ => rfl
  -- While there are buffers no pull is pending.
  have hunread : m.pipe.readWatch = false := Bool.eq_false_iff.mpr (mt hsound.apart hbufs)
  have hapart : (m.pipe.writeCb results).2.readWatch →
      (m.pipe.writeCb results).2.writeBufList = [] := by
    simp [NamedPipe.writeCb, hunread]
  have hpending : (m.pipe.writeCb results).2.pending =
      !(NamedPipe.writeLoop results 0 m.pipe.writeBufList m.pipe.timeoutInfo).left.isEmpty := by
    simp only [NamedPipe.pending, NamedPipe.writeCb, hunread, Bool.and_false, Bool.false_or]
  have howed : m.owedAfter false (m.pipe.writeCb results).2 =
      ((m.pipe.writeCb results).2.pending && m.owed) := by
    rw [owedAfter, Bool.false_and, Bool.or_false]
  have hbegins : m.pipe.begins (.write results) = false := rfl
  rw [next, hhandle, hbegins, howed, hpending]
  by_cases hempty : (NamedPipe.writeLoop results 0 m.pipe.writeBufList
      m.pipe.timeoutInfo).left = []
  · rw [hempty]
    exact sound_of_source_none htagged (hdone hbufs hempty) hapart
  · have hfull := List.isEmpty_eq_false_iff.mpr hempty
    rw [hfull]
    refine ⟨htagged, fun _ => hpending.trans (by rw [hfull]; rfl), fun howes => ?_, hapart⟩
    have hfails : NamedPipe.failsLater results 0 m.pipe.writeBufList = false :=
      hclean.resolve_left (Bool.eq_false_iff.not_left.mpr howes)
    exact hleft hempty hfails (.inr (hsound.armed howes))

theorem sound_read (hsound : m.Sound) {stat : GIOStatus} {bytes : List UInt8}
    (hclean : m.Clean (.read stat bytes)) : (m.next (.read stat bytes)).Sound := by
  by_cases hwatch : m.pipe.readWatch
  case neg => exact sound_same hsound _ (by rw [NamedPipe.handle, if_neg hwatch]) rfl
  cases hread : m.pipe.readCb stat bytes with
  | none => exact sound_same hsound _ (by rw [NamedPipe.handle, if_pos hwatch, hread]; rfl) rfl
  | some called =>
    have hhandle : m.pipe.handle (.read stat bytes) = called.2 := by
      rw [NamedPipe.handle, if_pos hwatch, hread]
      rfl
    have hempty : m.pipe.writeBufList = [] := hsound.apart hwatch
    rw [NamedPipe.readCb] at hread
    split at hread
    next => cases hread
    next =>
      dsimp only at hread
      split at hread
      next =>
        -- An error clears the timer.
        obtain rfl := Option.some.inj hread
        have hpending : (m.pipe.handle (.read stat bytes)).pending = false := by
          simp [hhandle, NamedPipe.pending, hempty]
        rw [next, owedAfter, hpending, hhandle]
        exact sound_of_source_none (TimeoutInfo.tagged_removeTimeout hsound.tagged)
          (TimeoutInfo.source_removeTimeout hsound.tagged) fun h => nomatch h
      next hstat =>
        rw [Bool.not_eq_true, Bool.not_eq_false'] at hstat
        split at hread
        next hwhole =>
          -- The end of a pull does not, so there must be none.
          have hremaining : m.pipe.pullRemainingSize ≤ bytes.length := Nat.sub_eq_zero_iff_le.mp hwhole
          have hsource := (TimeoutInfo.source_of_tag hsound.tagged).mp (hclean hstat hremaining)
          obtain rfl := Option.some.inj hread
          have hpending : (m.pipe.handle (.read stat bytes)).pending = false := by
            simp [hhandle, NamedPipe.pending, hempty]
          rw [next, owedAfter, hpending, hhandle]
          exact sound_of_source_none hsound.tagged hsource fun h => nomatch h
        next =>
          obtain rfl := Option.some.inj hread
          refine sound_of_unchanged hsound ?_ ?_ rfl ?_ <;> rw [hhandle]
          · simp only [NamedPipe.pending]
          · exact fun _ => hempty

theorem sound_timeout (hsound : m.Sound) : (m.next .timeout).Sound := by
  by_cases harmed : m.pipe.timeoutInfo.source.isSome
  case neg => exact sound_same hsound _ (by rw [NamedPipe.handle, if_neg harmed]) rfl
  rw [next, NamedPipe.handle, if_pos harmed]
  exact sound_of_source_none ⟨rfl, fun h => (nomatch h)⟩ rfl hsound.apart

theorem sound_next (hsound : m.Sound) {input : NamedPipe.Input} (hclean : m.Clean input) :
    (m.next input).Sound := by
  cases input with
  | setTimeout timeout hasTimeoutCb => exact sound_setTimeout hsound hclean
  | push buf => exact sound_push hsound hclean
  | pull size fresh => exact sound_pull hsound hclean
  | write results => exact sound_write hsound hclean
  | read stat bytes => exact sound_read hsound hclean
  | error => exact sound_same hsound _ rfl rfl
  | timeout => exact sound_timeout hsound

theorem sound_new (isWriter : Bool) : (new isWriter).Sound where
  tagged := ⟨rfl, fun h => (nomatch h)⟩
  pending := fun h => nomatch h
  armed := fun h => nomatch h
  apart := fun h => nomatch h

/-- Where nothing is pending there is no timer, and so none that keeps a new one from being
    armed. -/
theorem startsPeriod_of_sound (hsound : m.Sound) (input : NamedPipe.Input) :
    m.pipe.StartsPeriod input := by
  intro hidle hcallback
  have hsource : m.pipe.timeoutInfo.source = none := by
    cases hsource : m.pipe.timeoutInfo.source with
    | none => rfl
    | some source =>
      rw [hsound.pending (by rw [hsource]; rfl)] at hidle
      cases hidle
  have harmed := TimeoutInfo.setTimeoutIfNeeded_of_none
    ((TimeoutInfo.source_of_tag hsound.tagged).mpr hsource) hcallback
  cases input with
  | push buf =>
    intro p' hpush
    rw [NamedPipe.push] at hpush
    split at hpush
    next => cases hpush
    next =>
      obtain rfl := Option.some.inj hpush
      simp only [NamedPipe.setTimeoutIfNeeded, NamedPipe.enableWriteCbIfNeeded]
      split <;> exact harmed
  | pull size fresh =>
    intro p' hpull
    rw [NamedPipe.pull] at hpull
    split at hpull
    next => cases hpull
    next =>
      obtain rfl := Option.some.inj hpull
      exact harmed
  | _ => trivial

/-- The timer hits pending transfers only, each that begins alone begins a period, and one that
    begins after a timeout has been set is covered by it. -/
structure Timely (m : TimedPipe) : Prop where
  pending : m.pipe.timeoutInfo.source.isSome → m.pipe.pending
  starts : ∀ input, m.pipe.StartsPeriod input
  covered : m.owed → m.pipe.timeoutInfo.source.isSome

/-- In a run whose steps are clean, the timers are those of the pending transfers. -/
theorem timely_of_clean (isWriter : Bool) (inputs : List NamedPipe.Input)
    (hclean : Heeds next Clean (new isWriter) inputs) :
    (inputs.foldl next (new isWriter)).Timely := by
  have hsound : (inputs.foldl next (new isWriter)).Sound :=
    foldl_invariant_of_heeds Sound (fun _ _ hsound hclean => sound_next hsound hclean) inputs _
      (sound_new isWriter) hclean
  exact ⟨hsound.pending, startsPeriod_of_sound hsound, hsound.armed⟩

theorem timely_slowWriter :
    ([.setTimeout 100 true, .push ⟨[1, 2], 2, 2⟩, .write fun _ => some 1, .write fun _ => some 1,
      .push ⟨[3], 1, 1⟩].foldl next (new true)).Timely := by
  refine timely_of_clean true _ ⟨rfl, fun _ => rfl, .inr ?_, .inr ?_, fun _ => ?_, trivial⟩
  · decide
  · decide
  · decide

/-- The pull has been completed, and the timer goes on. -/
theorem not_timely_completedPull :
    ¬([.setTimeout 100 true, .pull 2 fun _ => 0, .read .normal [1, 2]].foldl next
      (new false)).Timely := by
  intro htimely
  have hpending := htimely.pending
  revert hpending
  decide

/-- No transfer is pending, and the one that follows has no timer: the second timeout has removed
    the source and left its tag. -/
example :
    let m := [.setTimeout 100 true, .push ⟨[1], 1, 1⟩, .setTimeout 50 true].foldl next (new true)
    m.pipe.timeoutInfo.tag = some 1 ∧ m.pipe.timeoutInfo.source = none ∧
    (m.next (.push ⟨[2], 1, 1⟩)).pipe.timeoutInfo.source = none := by decide

end TimedPipe

end Hatohol

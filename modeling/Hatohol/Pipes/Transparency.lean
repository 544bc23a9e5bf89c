import Hatohol.Machine.Steps
import Hatohol.NamedPipe

/-!
# What arrives at the other end of a pipe

A writing and a reading end with the channel between them, which hands the bytes on in any
fragments. No byte is lost or overtaken on its way out of the channel; a pull that takes several
reads stores each of them at the beginning of its buffer.
-/

namespace Hatohol

open Machine

/-- Two ends of a pipe. What is asked for and what is handed out is kept for comparison. -/
structure Link where
  writer : NamedPipe
  reader : NamedPipe
  channel : List UInt8
  /-- The contents of the buffers that have been pushed. -/
  pushed : List UInt8
  /-- The bytes that have been read from the channel. -/
  consumed : List UInt8
  /-- The sizes of the pulls. -/
  pulled : List Nat
  /-- What the pull callbacks have received. -/
  received : List (List UInt8)

inductive LinkInput where
  | push (buf : SmartBuffer)
  | pull (size : Nat) (fresh : Nat → UInt8)
  /-- `writeCb`, with the number of bytes that each write accepts at most. -/
  | write (accepted : Nat → Nat)
  /-- `readCb`, with the number of bytes that the read returns at most. -/
  | read (most : Nat)

namespace Link

def new : Link := ⟨.new true, .new false, [], [], [], [], []⟩

/-- What has been pushed and not yet written. -/
def unsent (l : Link) : List UInt8 := (l.writer.writeBufList.map SmartBuffer.unsent).flatten

/-- The bytes that a read returns. -/
def readable (l : Link) (most : Nat) : List UInt8 :=
  l.channel.take (min most l.reader.pullRemainingSize)

/-- GLib calls back while a watch is there, `readCb` only if there is something to read. -/
def step (l : Link) : LinkInput → Link
  | .push buf =>
      match l.writer.push buf with
      | none => l
      | some writer => { l with writer := writer, pushed := l.pushed ++ buf.content }
  | .pull size fresh =>
      match l.reader.pull size fresh with
      | none => l
      | some reader => { l with reader := reader, pulled := l.pulled ++ [size] }
  | .write accepted =>
      if l.writer.writeWatch then
        let (sent, writer) := l.writer.writeCb fun k => some (accepted k)
        { l with writer := writer, channel := l.channel ++ sent }
      else l
  | .read most =>
      if l.reader.readWatch ∧ l.channel ≠ [] then
        match l.reader.readCb .normal (l.readable most) with
        | none => l
        | some (call, reader) =>
            { l with
              reader := reader
              channel := l.channel.drop (l.readable most).length
              consumed := l.consumed ++ l.readable most
              received := l.received ++ (call.map PullCall.bytes).toList }
      else l

/-- The callbacks have received what was pushed, in pieces of the sizes that were pulled. -/
def Transparent (l : Link) : Prop :=
  l.received.flatten <+: l.pushed ∧ l.received.map List.length <+: l.pulled

/-- A read returns all that has been pulled. -/
def WholeRead (l : Link) : LinkInput → Prop
  | .read most => l.reader.readWatch → l.channel ≠ [] →
      l.reader.pullRemainingSize ≤ most ∧ l.reader.pullRemainingSize ≤ l.channel.length
  | _ => True

/-! ## The writing end -/

theorem unsent_incIndex (b : SmartBuffer) {n : Nat} (hn : n ≤ b.unsent.length) :
    (b.incIndex n).unsent = b.unsent.drop n := by
  have hwatermark : n = 0 ∨ b.index + n ≤ b.watermark := by
    rw [SmartBuffer.unsent, SmartBuffer.content, List.length_drop, List.length_take] at hn
    omega
  have hunsent : (b.incIndex n).unsent =
      (b.buf.take (max b.watermark (b.index + n))).drop (b.index + n) := rfl
  rw [hunsent, SmartBuffer.unsent, SmartBuffer.content, List.drop_drop]
  rcases hwatermark with rfl | hwatermark
  · by_cases hindex : b.index + 0 ≤ b.watermark
    · rw [Nat.max_eq_left hindex]
    · -- The index is behind the watermark, and nothing is left.
      rw [List.drop_eq_nil_of_le (by rw [List.length_take]; omega),
        List.drop_eq_nil_of_le (by rw [List.length_take]; omega)]
  · rw [Nat.max_eq_left hwatermark]

/-- What the loop writes and what it leaves are what there was. -/
theorem sent_writeLoop (results : Nat → Option Nat) (k : Nat) (bufs : List SmartBuffer)
    (t : TimeoutInfo) :
    (NamedPipe.writeLoop results k bufs t).sent ++
      ((NamedPipe.writeLoop results k bufs t).left.map SmartBuffer.unsent).flatten =
      (bufs.map SmartBuffer.unsent).flatten := by
  induction bufs generalizing k t with
  | nil => rfl
  | cons buf bufs ih =>
    rw [NamedPipe.writeLoop]
    split
    next => rfl
    next accepted _ =>
      dsimp only
      split
      next =>
        rw [List.append_assoc, ih, List.map_cons, List.flatten_cons]
      next =>
        rw [List.map_cons, List.flatten_cons, unsent_incIndex buf (Nat.min_le_right _ _),
          ← List.append_assoc, List.take_append_drop, List.map_cons, List.flatten_cons]

theorem unsent_resetIndex (b : SmartBuffer) : b.resetIndex.unsent = b.content := rfl

/-! ## The reading end -/

theorem length_ensureRemainingSize (b : SmartBuffer) (size : Nat) (fresh : Nat → UInt8) :
    size ≤ (b.ensureRemainingSize size fresh).buf.length := by
  rw [SmartBuffer.ensureRemainingSize]
  split
  next hlt =>
    rw [List.length_append, List.length_map, List.length_range]
    omega
  next hle => omega

/-- Bytes that are stored at the beginning. -/
theorem take_store (b : SmartBuffer) (hindex : b.index = 0) (bytes : List UInt8) :
    (b.store bytes).buf.take bytes.length = bytes := by
  rw [SmartBuffer.store, hindex, List.take_zero, List.nil_append, List.take_left]

/-! ## Runs -/

/-- Every byte that was pushed has been read, or is in the channel, or is still to be written. -/
def Accounted (l : Link) : Prop := l.pushed = l.consumed ++ (l.channel ++ l.unsent)

/-- What whole reads leave: nothing is read that has not been received, and a pull that waits has
    read nothing. -/
structure Whole (l : Link) : Prop where
  received : l.received.flatten = l.consumed
  sizes : l.pulled = l.received.map List.length ++
    (if l.reader.hasPullCb then [l.reader.pullRequestSize] else [])
  waiting : l.reader.hasPullCb → l.reader.pullRemainingSize = l.reader.pullRequestSize ∧
    l.reader.pullBuf.index = 0 ∧ l.reader.pullRequestSize ≤ l.reader.pullBuf.buf.length

variable {l : Link}

theorem accounted_step (haccounted : l.Accounted) (input : LinkInput) :
    (l.step input).Accounted := by
  cases input with
  | push buf =>
    rw [step]
    split
    next => exact haccounted
    next writer hpush =>
      rw [NamedPipe.push] at hpush
      split at hpush
      next => cases hpush
      next =>
        have hwriter : writer.writeBufList = l.writer.writeBufList ++ [buf.resetIndex] := by
          rw [← Option.some.inj hpush, NamedPipe.setTimeoutIfNeeded, NamedPipe.enableWriteCbIfNeeded]
          split <;> rfl
        rw [Accounted, unsent, hwriter, List.map_append, List.flatten_append, List.map_singleton,
          List.flatten_singleton, unsent_resetIndex]
        rw [Accounted, unsent] at haccounted
        simp only [haccounted, List.append_assoc]
  | pull size fresh =>
    rw [step]
    split <;> exact haccounted
  | write accepted =>
    rw [step]
    split
    next =>
      have hsent := sent_writeLoop (fun k => some (accepted k)) 0 l.writer.writeBufList
        l.writer.timeoutInfo
      rw [Accounted, unsent] at haccounted ⊢
      rw [← hsent] at haccounted
      simp only [haccounted, NamedPipe.writeCb, List.append_assoc]
    next => exact haccounted
  | read most =>
    rw [step]
    split
    next =>
      split
      next => exact haccounted
      next =>
        have hreadable : l.readable most ++ l.channel.drop (l.readable most).length = l.channel :=
          List.prefix_iff_eq_append.mp (List.take_prefix _ _)
        rw [Accounted, unsent] at haccounted ⊢
        simp only [haccounted, List.append_assoc]
        rw [← List.append_assoc (l.readable most), hreadable]
    next => exact haccounted

theorem whole_step (hwhole : l.Whole) {input : LinkInput} (hread : l.WholeRead input) :
    (l.step input).Whole := by
  cases input with
  | push buf =>
    rw [step]
    split <;> exact ⟨hwhole.received, hwhole.sizes, hwhole.waiting⟩
  | pull size fresh =>
    rw [step]
    split
    next => exact hwhole
    next reader hpull =>
      rw [NamedPipe.pull] at hpull
      split at hpull
      next => cases hpull
      next hfree =>
        obtain rfl := Option.some.inj hpull
        refine ⟨hwhole.received, ?_, fun _ => ⟨rfl, rfl, length_ensureRemainingSize _ _ _⟩⟩
        have hsizes := hwhole.sizes
        rw [if_neg hfree, List.append_nil] at hsizes
        exact congrArg (· ++ [size]) hsizes
  | write accepted =>
    rw [step]
    split
    · exact ⟨hwhole.received, hwhole.sizes, hwhole.waiting⟩
    · exact hwhole
  | read most =>
    rw [step]
    split
    next hcalled =>
      obtain ⟨hmost, hchannel⟩ := hread hcalled.1 hcalled.2
      have hreadable : (l.readable most).length = l.reader.pullRemainingSize := by
        rw [readable, List.length_take]
        omega
      rw [NamedPipe.readCb]
      split
      next => exact hwhole
      next call reader hreadCb =>
        split at hreadCb
        next => cases hreadCb
        next hpullCb =>
          rw [Bool.not_eq_true, Bool.not_eq_false'] at hpullCb
          obtain ⟨hrequest, hindex, hlength⟩ := hwhole.waiting hpullCb
          have hfinished : l.reader.pullRemainingSize - (l.readable most).length = 0 := by omega
          have hsizes := hwhole.sizes
          rw [if_pos hpullCb] at hsizes
          simp only [checkGIOStatus, hfinished] at hreadCb
          obtain ⟨rfl, rfl⟩ := Prod.mk.inj (Option.some.inj hreadCb)
          have hbytes : PullCall.bytes ⟨.normal,
              (l.reader.pullBuf.store (l.readable most)).resetIndex, l.reader.pullRequestSize⟩ =
              l.readable most := by
            rw [PullCall.bytes, ← hrequest, ← hreadable]
            exact take_store l.reader.pullBuf hindex (l.readable most)
          refine ⟨?_, ?_, fun h => nomatch h⟩
          · simp [hwhole.received, hbytes]
          · simp [hsizes, hbytes, hreadable, hrequest]
    next => exact hwhole

/-- However the channel fragments what is written, it hands out what was pushed, in order. -/
theorem accounted_run (inputs : List LinkInput) : (inputs.foldl step new).Accounted :=
  foldl_invariant Accounted (fun _ input haccounted => accounted_step haccounted input) inputs new rfl

end Link

section Examples

/-- A buffer of two bytes. -/
def twoBytes : SmartBuffer := ⟨[1, 2], 2, 2⟩

end Examples

end Hatohol

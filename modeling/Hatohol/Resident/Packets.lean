import Hatohol.ResidentCommunicator

/-!
# Packets that are read as they were built

A packet is written from two places on: the fixed fields follow the header, and the bodies of the strings
follow the fixed fields. The resident reads the body alone, where everything stands as many bytes earlier as
the header has, so that the way from the header of a string to its body is the same.
-/

namespace Hatohol

open Bytes

namespace SmartBuffer

/-! ## Writing from two places on -/

/-- The bytes `front` stand at the beginning, up to the index, and the bytes `back` at `start`. -/
structure Filled (b : SmartBuffer) (start total : Nat) (front back : Bytes) : Prop where
  buf : ∃ middle rest, b.buf = front ++ (middle ++ (back ++ rest)) ∧
    front.length + middle.length = start
  size : total ≤ b.size
  index : b.index = front.length
  watermark : b.watermark = if back = [] then front.length else start + back.length
  fits : start + back.length ≤ total

theorem overwrite_append {a old new c : Bytes} (hlength : old.length = new.length) :
    overwrite (a ++ (old ++ c)) a.length new = a ++ (new ++ c) := by
  have hdrop : (a ++ (old ++ c)).drop (a.length + new.length) = c := by
    rw [← List.append_assoc, List.drop_left' (by rw [List.length_append, hlength])]
  rw [overwrite, List.take_left, hdrop, List.append_assoc]

variable {b : SmartBuffer} {start total : Nat} {front back : Bytes}

theorem Filled.front_le (hfilled : b.Filled start total front back) : front.length ≤ start := by
  obtain ⟨middle, rest, -, hstart⟩ := hfilled.buf
  omega

theorem Filled.add (hfilled : b.Filled start total front back) (src : Bytes)
    (hfits : front.length + src.length ≤ start) :
    ∃ b', b.add src = .ok b' ∧ b'.Filled start total (front ++ src) back := by
  obtain ⟨middle, rest, hbuf, hstart⟩ := hfilled.buf
  have hspace : b.index + src.length ≤ b.size := by
    have hsize := hfilled.size
    have hle := hfilled.fits
    rw [hfilled.index]
    omega
  obtain ⟨b', hrun, hbuf', hindex', hwatermark'⟩ := memcpy_eq src hspace
  have hmiddle : middle = middle.take src.length ++ middle.drop src.length :=
    (List.take_append_drop _ _).symm
  have htake : (middle.take src.length).length = src.length := by
    rw [List.length_take]
    omega
  have hafter : b'.buf = (front ++ src) ++ (middle.drop src.length ++ (back ++ rest)) := by
    rw [hbuf', hbuf, hfilled.index, hmiddle, List.append_assoc, overwrite_append htake,
      List.append_assoc, ← hmiddle]
  refine ⟨b'.incIndex src.length, ?_, ⟨_, _, hafter, ?_⟩, ?_, ?_, ?_, hfilled.fits⟩
  · simp only [SmartBuffer.add, hrun, bind, Except.bind, pure, Except.pure]
  · rw [List.length_append, List.length_drop]
    omega
  · have hsize' : b'.size = b.size := by
      rw [SmartBuffer.size, hbuf', length_overwrite hspace]
      rfl
    exact hsize'.symm ▸ hfilled.size
  · change b'.index + src.length = _
    rw [hindex', hfilled.index, List.length_append]
  · change max b'.watermark (b'.index + src.length) = _
    rw [hindex', hwatermark', hfilled.watermark, hfilled.index, List.length_append]
    split <;> omega

theorem Filled.insertString (hfilled : b.Filled start total front back) (str : Bytes)
    (bodyIndex : Nat) (offset : Int) (hbodyIndex : bodyIndex = start + back.length)
    (hoffset : offset = (bodyIndex : Int) - front.length)
    (hsize : total < 2 ^ 64) (hlength : str.length ≤ UINT32_MAX)
    (hheader : front.length + sizeofStringHeader ≤ start)
    (hbody : bodyIndex + (str.length + 1) ≤ total) (hnear : offset ≤ 2 ^ 31 - 1) :
    ∃ b', b.insertString str bodyIndex = .ok (bodyIndex + (str.length + 1), b') ∧
      b'.Filled start total (front ++ stringHeader str.length offset) (back ++ (str ++ [0])) := by
  subst hbodyIndex
  have hhead : (stringHeader str.length offset).length = sizeofStringHeader :=
    length_stringHeader _ _
  generalize hheader' : stringHeader str.length offset = head at hhead ⊢
  obtain ⟨b₁, hadd, hfilled₁⟩ := hfilled.add head (hhead.symm ▸ hheader)
  have hindex := hfilled.index
  have hbsize := hfilled.size
  obtain ⟨middle, rest, hbuf, hstart⟩ := hfilled₁.buf
  have hbodyLength : (str ++ [0]).length = str.length + 1 := List.length_append
  have htotal := congrArg List.length hbuf
  simp only [List.length_append] at htotal
  have hsize₁ : total ≤ b₁.buf.length := hfilled₁.size
  rw [List.length_append] at hstart
  have hspace : start + back.length + (str ++ [0]).length ≤ b₁.size :=
    Nat.le_trans (by omega) hfilled₁.size
  obtain ⟨b₂, hrun, hbuf₂, hindex₂, hwatermark₂⟩ := memcpy_eq (str ++ [0]) hspace
  have hrest : rest = rest.take (str ++ [0]).length ++ rest.drop (str ++ [0]).length :=
    (List.take_append_drop _ _).symm
  have htake : (rest.take (str ++ [0]).length).length = (str ++ [0]).length := by
    rw [List.length_take]
    omega
  have hlengths : (front ++ head ++ (middle ++ back)).length = start + back.length := by
    simp only [List.length_append]
    omega
  have hpart : middle ++ (back ++ rest) = (middle ++ back) ++
      (rest.take (str ++ [0]).length ++ rest.drop (str ++ [0]).length) := by
    rw [← hrest, List.append_assoc]
  have hafter : b₂.buf = front ++ head ++
      (middle ++ ((back ++ (str ++ [0])) ++ rest.drop (str ++ [0]).length)) := by
    rw [hbuf₂, hbuf, hpart, ← List.append_assoc, ← hlengths, overwrite_append htake]
    simp only [List.append_assoc]
  have hnext : (start + back.length + str.length + 1) % 2 ^ 64 =
      start + back.length + (str.length + 1) := Nat.mod_eq_of_lt (by omega)
  have hway : (((start + back.length : Nat) : Int) - b.index).bmod (2 ^ 64) = offset := by
    rw [hindex, hoffset]
    exact Int.bmod_eq_of_le (by omega) (by omega)
  have hend : start + (back ++ (str ++ [0])).length = start + back.length + (str.length + 1) := by
    rw [List.length_append, hbodyLength, Nat.add_assoc]
  refine ⟨b₂.setWatermarkIfNeeded (start + back.length + (str.length + 1)), ?_,
    ⟨_, _, hafter, ?_⟩, ?_, ?_, ?_, ?_⟩
  · unfold SmartBuffer.insertString
    rw [if_neg (by omega)]
    simp only [hnext, hway]
    rw [if_neg (by omega), if_neg (by omega)]
    simp only [bind, Except.bind, pure, Except.pure, hheader', hadd, hrun]
  · rwa [List.length_append]
  · have hsize₂ : b₂.size = b₁.size := by
      rw [SmartBuffer.size, hbuf₂, length_overwrite hspace]
      rfl
    exact hsize₂.symm ▸ hfilled₁.size
  · exact hindex₂.trans hfilled₁.index
  · change max b₂.watermark _ = _
    rw [if_neg (List.append_ne_nil_of_right_ne_nil _ (List.append_ne_nil_of_right_ne_nil _
      (List.cons_ne_nil _ _))), hwatermark₂, hfilled₁.watermark, hend, List.length_append,
      hhead]
    split <;> omega
  · rw [hend]
    exact hbody

theorem Filled.insertString_of_far (hfilled : b.Filled start total front back) (str : Bytes)
    (bodyIndex : Nat) (hsize : total < 2 ^ 63) (hlength : str.length ≤ UINT32_MAX)
    (hbody : bodyIndex + (str.length + 1) ≤ total)
    (hfar : 2 ^ 31 - 1 < (bodyIndex : Int) - front.length) :
    ∃ what, b.insertString str bodyIndex = .error (.outOfRange what) := by
  have hbsize := hfilled.size
  have hnext : (bodyIndex + str.length + 1) % 2 ^ 64 = bodyIndex + str.length + 1 :=
    Nat.mod_eq_of_lt (by omega)
  have hoffset : ((bodyIndex : Int) - b.index).bmod (2 ^ 64) = (bodyIndex : Int) - front.length := by
    rw [hfilled.index]
    exact Int.bmod_eq_of_le (by omega) (by omega)
  unfold SmartBuffer.insertString
  rw [if_neg (by omega)]
  simp only [hnext, hoffset]
  rw [if_neg (by omega), if_pos (by omega)]
  exact ⟨_, rfl⟩

/-- The bytes of a number that is converted to an unsigned type. -/
def numberBytes (width : Nat) (val : Int) : Bytes := littleEndian width (val % 256 ^ width).toNat

@[simp] theorem length_numberBytes (width : Nat) (val : Int) :
    (numberBytes width val).length = width := length_littleEndian _ _

theorem Filled.addNumber (hfilled : b.Filled start total front back) (width : Nat) (val : Int)
    (hfits : front.length + width ≤ start) :
    ∃ b', b.addNumber width val = .ok b' ∧
      b'.Filled start total (front ++ numberBytes width val) back := by
  refine hfilled.add _ ?_
  rwa [length_littleEndian]

theorem Filled.watermark_le (hfilled : b.Filled start total front back) : b.watermark ≤ total := by
  have hfront := hfilled.front_le
  have hfits := hfilled.fits
  rw [hfilled.watermark]
  split <;> omega

theorem Filled.length_content (hfilled : b.Filled start total front back) :
    b.content.length = b.watermark := by
  rw [content, List.length_take]
  exact Nat.min_eq_left (hfilled.watermark_le.trans hfilled.size)

/-- No room is left between the two places. -/
theorem Filled.content_eq (hfilled : b.Filled start total front back)
    (hfront : front.length = start) : b.content = front ++ back := by
  obtain ⟨middle, rest, hbuf, hmiddle⟩ := hfilled.buf
  obtain rfl : middle = [] := List.length_eq_zero_iff.mp (by omega)
  have hwatermark : b.watermark = (front ++ back).length := by
    rw [hfilled.watermark, List.length_append]
    split
    next hnil => rw [hnil, List.length_nil, Nat.add_zero]
    next => rw [hfront]
  rw [content, hwatermark, hbuf, List.nil_append, ← List.append_assoc, List.take_left]

/-! ## Reading on -/

/-- Of these bytes, `after` are still to be read. -/
structure Ahead (b : SmartBuffer) (bytes before after : Bytes) : Prop where
  buf : b.buf = bytes
  split : bytes = before ++ after
  index : b.index = before.length

/-- A buffer with these bytes, to be read from the first one on. -/
def received (bytes : Bytes) : SmartBuffer := ⟨bytes, 0, bytes.length⟩

theorem ahead_received (bytes : Bytes) : (received bytes).Ahead bytes [] bytes := ⟨rfl, rfl, rfl⟩

variable {bytes before after : Bytes}

theorem slice_middle (before part after : Bytes) :
    slice (before ++ (part ++ after)) before.length part.length = some part := by
  rw [slice, if_pos (by simp), List.drop_left, List.take_left]

theorem Ahead.slice_eq {part : Bytes} (hahead : b.Ahead bytes before (part ++ after)) :
    slice b.buf b.index part.length = some part := by
  rw [hahead.buf, hahead.split, hahead.index]
  exact slice_middle before part after

theorem Ahead.moved {part : Bytes} (hahead : b.Ahead bytes before (part ++ after)) {b' : SmartBuffer}
    (hbuf : b'.buf = b.buf) (hindex : b'.index = b.index + part.length) :
    b'.Ahead bytes (before ++ part) after :=
  ⟨hbuf.trans hahead.buf, hahead.split.trans (List.append_assoc _ _ _).symm,
    by rw [hindex, hahead.index, List.length_append]⟩

theorem Ahead.takeNumber {width : Nat} {val : Int}
    (hahead : b.Ahead bytes before (numberBytes width val ++ after)) :
    ∃ b', b.takeNumber width = some ((val % 256 ^ width).toNat, b') ∧
      b'.Ahead bytes (before ++ numberBytes width val) after := by
  have hslice := hahead.slice_eq
  rw [length_numberBytes] at hslice
  have hpos : (0 : Int) < 256 ^ width := Int.pow_pos (by decide)
  have hlt : (val % 256 ^ width).toNat < 256 ^ width := by
    have hmod := Int.emod_lt_of_pos val hpos
    have hcast : ((256 ^ width : Nat) : Int) = 256 ^ width := Int.natCast_pow 256 width
    omega
  refine ⟨b.setIndex (b.index + width), ?_, hahead.moved rfl (by rw [length_numberBytes]; rfl)⟩
  rw [SmartBuffer.takeNumber, hslice, Option.map_some, numberBytes, ofLittleEndian_littleEndian,
    Nat.mod_eq_of_lt hlt]

theorem Ahead.takeBytes {part : Bytes} (hahead : b.Ahead bytes before (part ++ after)) :
    ∃ b', b.takeBytes part.length = some (part, b') ∧
      b'.Ahead bytes (before ++ part) after := by
  refine ⟨b.incIndex part.length, ?_, hahead.moved rfl rfl⟩
  rw [SmartBuffer.takeBytes, hahead.slice_eq, Option.map_some]

/-- The body stands at the place that the header tells, in what is read before or after. -/
theorem Ahead.extractString {str : Bytes} {offset : Int} {bodyIndex : Nat}
    (hahead : b.Ahead bytes before (stringHeader str.length offset ++ after))
    (hbody : slice bytes bodyIndex str.length = some str)
    (hoffset : offset = (bodyIndex : Int) - before.length)
    (hrep : Representable before.length bodyIndex str) :
    ∃ b', b.extractStringAndIncIndex = some (str, b') ∧
      b'.Ahead bytes (before ++ stringHeader str.length offset) after := by
  have hheader := hahead.slice_eq
  rw [length_stringHeader, hahead.index, hoffset] at hheader
  have hstores : b.Stores before.length bodyIndex str := ⟨hheader, by rwa [hahead.buf]⟩
  refine ⟨b.setIndex (b.index + sizeofStringHeader), ?_,
    hahead.moved rfl (by rw [length_stringHeader]; rfl)⟩
  rw [extractStringAndIncIndex, hahead.index, hstores.extractString hrep, Option.map_some]

end SmartBuffer

namespace ResidentCommunicator

open SmartBuffer

variable {b : SmartBuffer} {bodySize start : Nat} {type : PacketType}

/-- The bytes of a header. -/
def headerBytes (bodySize : Nat) (type : PacketType) : Bytes :=
  numberBytes 4 bodySize ++ numberBytes 2 type.value

@[simp] theorem length_headerBytes (bodySize : Nat) (type : PacketType) :
    (headerBytes bodySize type).length = headerLen := by
  rw [headerBytes, List.length_append, length_numberBytes, length_numberBytes]
  rfl

theorem filled_setHeader (b : SmartBuffer) (fresh : Nat → UInt8) (type : PacketType)
    (hstart : headerLen ≤ start) (htotal : start ≤ headerLen + bodySize) :
    ∃ b', setHeader b fresh bodySize type = .ok b' ∧
      b'.Filled start (headerLen + bodySize) (headerBytes bodySize type) [] := by
  have hheader : headerLen = 6 := rfl
  generalize hreset : (b.ensureRemainingSize (headerLen + bodySize) fresh).resetIndexDeep = b₀
  have hsize : headerLen + bodySize ≤ b₀.buf.length := by
    rw [← hreset, ensureRemainingSize]
    split
    · simp only [resetIndexDeep, List.length_append, List.length_map, List.length_range]
      omega
    · simp only [resetIndexDeep]
      omega
  have hfilled : b₀.Filled start (headerLen + bodySize) [] [] := by
    refine ⟨⟨b₀.buf.take start, b₀.buf.drop start, ?_, ?_⟩, hsize, ?_, ?_, htotal⟩
    · rw [List.nil_append, List.nil_append, List.take_append_drop]
    · rw [List.length_nil, List.length_take]
      omega
    · rw [← hreset]
      rfl
    · rw [← hreset]
      rfl
  obtain ⟨b₁, hrun₁, hfilled₁⟩ := hfilled.addNumber 4 bodySize (by rw [List.length_nil]; omega)
  obtain ⟨b₂, hrun₂, hfilled₂⟩ := hfilled₁.addNumber 2 type.value
    (by rw [List.length_append, length_numberBytes, List.length_nil]; omega)
  refine ⟨b₂, ?_, hfilled₂⟩
  simp only [setHeader, hreset, hrun₁, bind, Except.bind]
  exact hrun₂

/-- The body size is read from the header. -/
theorem getBodySize_eq {rest : Bytes} (hbuf : b.buf = headerBytes bodySize type ++ rest)
    (hlt : bodySize < 2 ^ 32) : getBodySize b = some bodySize := by
  have hahead : b.resetIndex.Ahead b.buf []
      (numberBytes 4 bodySize ++ (numberBytes 2 type.value ++ rest)) := by
    refine ⟨rfl, ?_, rfl⟩
    rw [hbuf, headerBytes, List.append_assoc, List.nil_append]
  obtain ⟨b', hrun, -⟩ := hahead.takeNumber
  rw [getBodySize, hrun, Option.map_some]
  refine congrArg some ?_
  dsimp only
  omega

end ResidentCommunicator

end Hatohol

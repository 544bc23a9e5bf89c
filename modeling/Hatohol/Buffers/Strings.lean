import Hatohol.SmartBuffer

/-!
# Strings that are read as they were written

A list of strings is written with headers one behind the other, and bodies one behind the other
somewhere else. Each insertion leaves alone what the ones before it have written, so that the strings
can be read from the first header on, also from a copy of the buffer.
-/

namespace Hatohol.SmartBuffer

open Bytes

/-! ## Several strings -/

/-- Each body is written behind the one before. -/
def insertStrings (b : SmartBuffer) : List Bytes → Nat → Except InsertError (Nat × SmartBuffer)
  | [], bodyIndex => .ok (bodyIndex, b)
  | str :: strs, bodyIndex => do
      let (nextBodyIndex, b) ← b.insertString str bodyIndex
      b.insertStrings strs nextBodyIndex

def extractStrings (b : SmartBuffer) : Nat → Option (List Bytes × SmartBuffer)
  | 0 => some ([], b)
  | count + 1 => do
      let (str, b) ← b.extractStringAndIncIndex
      let (strs, b) ← b.extractStrings count
      return (str :: strs, b)

def endOfBodies (bodyIndex : Nat) : List Bytes → Nat
  | [] => bodyIndex
  | str :: strs => endOfBodies (bodyIndex + str.length + 1) strs

/-- A header can hold the length of the string and the way to the body. -/
def Representable (index bodyIndex : Nat) (str : Bytes) : Prop :=
  str.length ≤ UINT32_MAX ∧ -2 ^ 31 ≤ (bodyIndex : Int) - index ∧
    (bodyIndex : Int) - index ≤ 2 ^ 31 - 1

/-- So it is for each of several strings. -/
def AllRepresentable (index bodyIndex : Nat) : List Bytes → Prop
  | [] => True
  | str :: strs => Representable index bodyIndex str ∧
      AllRepresentable (index + sizeofStringHeader) (bodyIndex + str.length + 1) strs

theorem le_endOfBodies (bodyIndex : Nat) (strs : List Bytes) :
    bodyIndex ≤ endOfBodies bodyIndex strs := by
  induction strs generalizing bodyIndex with
  | nil => exact Nat.le_refl _
  | cons str strs ih =>
    rw [endOfBodies]
    exact Nat.le_trans (by omega) (ih _)

/-! ## One string -/

/-- The string can be read with this header and this body. -/
structure Stores (b : SmartBuffer) (header bodyIndex : Nat) (str : Bytes) : Prop where
  header : slice b.buf header sizeofStringHeader =
    some (stringHeader str.length ((bodyIndex : Int) - header))
  body : slice b.buf bodyIndex str.length = some str

@[simp] theorem length_stringHeader (size : Nat) (offset : Int) :
    (stringHeader size offset).length = sizeofStringHeader := by
  rw [stringHeader, List.length_append, length_littleEndian, length_littleEndian]
  rfl

theorem extractString_of_header {b : SmartBuffer} {header : Nat} {size offset : Bytes}
    (hsize : slice b.buf header 4 = some size)
    (hoffset : slice b.buf (header + 4) 4 = some offset) :
    b.extractString header =
      if (header : Int) + (ofLittleEndian offset : Int).bmod (2 ^ 32) < 0 then none
      else slice b.buf ((header : Int) + (ofLittleEndian offset : Int).bmod (2 ^ 32)).toNat
        (ofLittleEndian size) := by
  unfold extractString
  rw [hsize, hoffset, Option.bind_eq_bind, Option.bind_some, Option.bind_some]

theorem Stores.extractString {b : SmartBuffer} {header bodyIndex : Nat} {str : Bytes}
    (hstores : b.Stores header bodyIndex str) (hrep : Representable header bodyIndex str) :
    b.extractString header = some str := by
  obtain ⟨hlength, hlow, hhigh⟩ := hrep
  have hheader := hstores.header
  rw [← length_stringHeader str.length ((bodyIndex : Int) - header), stringHeader] at hheader
  obtain ⟨hsize, hoffset⟩ := slice_append hheader
  rw [length_littleEndian] at hsize hoffset
  rw [length_littleEndian] at hoffset
  have hlt : str.length < 256 ^ 4 := by
    have hmax : UINT32_MAX = 2 ^ 32 - 1 := rfl
    omega
  have hvalue : ((((bodyIndex : Int) - header) % 2 ^ 32).toNat % 256 ^ 4 : Nat) =
      ((((bodyIndex : Int) - header) % 2 ^ 32).toNat : Nat) := by
    apply Nat.mod_eq_of_lt
    omega
  have hbmod : (((((bodyIndex : Int) - header) % 2 ^ 32).toNat : Nat) : Int).bmod (2 ^ 32) =
      (bodyIndex : Int) - header := by
    have hcast : (2 ^ 32 : Int) = ((2 ^ 32 : Nat) : Int) := by omega
    rw [Int.toNat_of_nonneg (Int.emod_nonneg _ (by omega)), hcast, Int.emod_bmod]
    exact Int.bmod_eq_of_le (by omega) (by omega)
  have hbody : ((header : Int) + ((bodyIndex : Int) - header)) = bodyIndex := by omega
  rw [extractString_of_header hsize hoffset, ofLittleEndian_littleEndian,
    ofLittleEndian_littleEndian, hvalue, hbmod, hbody, if_neg (by omega), Int.toNat_natCast,
    Nat.mod_eq_of_lt hlt]
  exact hstores.body

/-- The bytes at a position are neither of a header nor of a body. -/
def Outside (i header endOfHeaders bodyIndex endOfBodies : Nat) : Prop :=
  (i < header ∨ endOfHeaders ≤ i) ∧ (i < bodyIndex ∨ endOfBodies ≤ i)

theorem Stores.congr {b b' : SmartBuffer} {header bodyIndex : Nat} {str : Bytes}
    (hstores : b.Stores header bodyIndex str) (hsize : b'.size = b.size)
    (hagree : ∀ i, ¬Outside i header (header + sizeofStringHeader) bodyIndex
      (bodyIndex + str.length + 1) → b'.buf[i]? = b.buf[i]?) : b'.Stores header bodyIndex str := by
  constructor
  · rw [← hstores.header]
    refine slice_congr hsize fun i hle hlt => hagree i fun hout => ?_
    rcases hout.1 with h | h <;> omega
  · refine (slice_congr hsize fun i hle hlt => hagree i fun hout => ?_).trans hstores.body
    rcases hout.2 with h | h <;> omega

/-- What an insertion does. -/
structure Inserted (b : SmartBuffer) (str : Bytes) (bodyIndex : Nat) (b' : SmartBuffer) : Prop where
  index : b'.index = b.index + sizeofStringHeader
  size : b'.size = b.size
  watermark : b'.watermark =
    max b.watermark (max (b.index + sizeofStringHeader) (bodyIndex + str.length + 1))
  stores : b'.Stores b.index bodyIndex str
  others : ∀ i, Outside i b.index (b.index + sizeofStringHeader) bodyIndex
    (bodyIndex + str.length + 1) → b'.buf[i]? = b.buf[i]?

theorem memcpy_eq {b : SmartBuffer} {pos : Nat} (src : Bytes) (hfits : pos + src.length ≤ b.size) :
    ∃ b', b.memcpy pos src = .ok b' ∧ b'.buf = overwrite b.buf pos src ∧ b'.index = b.index ∧
      b'.watermark = b.watermark :=
  ⟨_, if_pos hfits, rfl, rfl, rfl⟩

theorem insertString_spec {b : SmartBuffer} (hsize : b.size < 2 ^ 64) (str : Bytes) (bodyIndex : Nat)
    (hrep : Representable b.index bodyIndex str)
    (hheader : b.index + sizeofStringHeader ≤ b.size) (hbody : bodyIndex + str.length + 1 ≤ b.size)
    (hdisjoint : b.index + sizeofStringHeader ≤ bodyIndex ∨ bodyIndex + str.length + 1 ≤ b.index) :
    ∃ b', b.insertString str bodyIndex = .ok (bodyIndex + str.length + 1, b') ∧
      b.Inserted str bodyIndex b' := by
  obtain ⟨hlength, hlow, hhigh⟩ := hrep
  have hnext : (bodyIndex + str.length + 1) % 2 ^ 64 = bodyIndex + str.length + 1 :=
    Nat.mod_eq_of_lt (by omega)
  have hoffset : ((bodyIndex : Int) - b.index).bmod (2 ^ 64) = (bodyIndex : Int) - b.index :=
    Int.bmod_eq_of_le (by omega) (by omega)
  -- the header is written first
  have hheaderLength := length_stringHeader str.length ((bodyIndex : Int) - b.index)
  obtain ⟨b₁, hb₁, hbuf₁, hindex₁, hwatermark₁⟩ :=
    memcpy_eq (stringHeader str.length ((bodyIndex : Int) - b.index))
      (hheaderLength.symm ▸ hheader)
  have hsize₁ : b₁.size = b.size := by
    rw [size, hbuf₁, length_overwrite (hheaderLength.symm ▸ hheader)]
    rfl
  have hbodyLength : (str ++ [0]).length = str.length + 1 := List.length_append
  have hfits : bodyIndex + (str ++ [0]).length ≤ (b₁.incIndex sizeofStringHeader).size := by
    have hsame : (b₁.incIndex sizeofStringHeader).size = b₁.size := rfl
    omega
  obtain ⟨b₂, hb₂, hbuf₂, hindex₂, hwatermark₂⟩ := memcpy_eq (str ++ [0]) hfits
  have hbuf₁' : (b₁.incIndex sizeofStringHeader).buf = b₁.buf := rfl
  rw [hbuf₁'] at hbuf₂
  have hfits₂ : bodyIndex + (str ++ [0]).length ≤ b₁.buf.length := hfits
  have hfits₁ : b.index + (stringHeader str.length ((bodyIndex : Int) - b.index)).length ≤
      b.buf.length := hheaderLength.symm ▸ hheader
  have hrun : b.insertString str bodyIndex = .ok (bodyIndex + str.length + 1,
      b₂.setWatermarkIfNeeded (bodyIndex + str.length + 1)) := by
    unfold insertString
    rw [if_neg (by omega)]
    simp only [hnext, hoffset]
    rw [if_neg (by omega), if_neg (by omega)]
    simp only [bind, Except.bind, pure, Except.pure, add, hb₁, hheaderLength, hb₂]
  refine ⟨_, hrun, ?_, ?_, ?_, ⟨?_, ?_⟩, ?_⟩
  · have hindex : b₂.index = b₁.index + sizeofStringHeader := hindex₂
    exact hindex.trans (by rw [hindex₁])
  · have hsize : b₂.size = b₁.size := by
      rw [size, hbuf₂, length_overwrite hfits₂]
      rfl
    exact hsize.trans hsize₁
  · have hafter : b₂.watermark = max b₁.watermark (b₁.index + sizeofStringHeader) := hwatermark₂
    rw [hindex₁, hwatermark₁] at hafter
    change max b₂.watermark _ = _
    rw [hafter, Nat.max_assoc]
  · have hagree : slice b₂.buf b.index sizeofStringHeader =
        slice b₁.buf b.index sizeofStringHeader := by
      refine slice_congr (by rw [hbuf₂, length_overwrite hfits₂]) fun i hle hlt => ?_
      rw [hbuf₂]
      rcases hdisjoint with h | h
      · exact getElem?_overwrite_of_lt hfits₂ (by omega)
      · exact getElem?_overwrite_of_le hfits₂ (by omega)
    refine hagree.trans ?_
    rw [hbuf₁, ← hheaderLength]
    exact slice_overwrite hfits₁
  · have hwhole := slice_overwrite hfits₂
    rw [← hbuf₂] at hwhole
    exact (slice_append hwhole).1
  · rintro i ⟨hout₁, hout₂⟩
    have hsecond : b₂.buf[i]? = b₁.buf[i]? := by
      rw [hbuf₂]
      rcases hout₂ with h | h
      · exact getElem?_overwrite_of_lt hfits₂ h
      · exact getElem?_overwrite_of_le hfits₂ (by omega)
    refine hsecond.trans ?_
    rw [hbuf₁]
    rcases hout₁ with h | h
    · exact getElem?_overwrite_of_lt hfits₁ h
    · exact getElem?_overwrite_of_le hfits₁ (by omega)

/-! ## All strings -/

/-- All strings can be read, with headers and bodies from these positions on. -/
def StoresAll (b : SmartBuffer) (header bodyIndex : Nat) : List Bytes → Prop
  | [] => True
  | str :: strs => b.Stores header bodyIndex str ∧
      b.StoresAll (header + sizeofStringHeader) (bodyIndex + str.length + 1) strs

theorem StoresAll.setIndex {b : SmartBuffer} {header bodyIndex : Nat} {strs : List Bytes}
    (hstores : b.StoresAll header bodyIndex strs) (index : Nat) :
    (b.setIndex index).StoresAll header bodyIndex strs := by
  induction strs generalizing header bodyIndex with
  | nil => trivial
  | cons str strs ih => exact ⟨⟨hstores.1.header, hstores.1.body⟩, ih hstores.2⟩

theorem StoresAll.extractStrings {b : SmartBuffer} {bodyIndex : Nat} {strs : List Bytes}
    (hstores : b.StoresAll b.index bodyIndex strs)
    (hrep : AllRepresentable b.index bodyIndex strs) :
    b.extractStrings strs.length =
      some (strs, b.setIndex (b.index + sizeofStringHeader * strs.length)) := by
  induction strs generalizing b bodyIndex with
  | nil => rfl
  | cons str strs ih =>
    have hfirst : b.extractStringAndIncIndex =
        some (str, b.setIndex (b.index + sizeofStringHeader)) := by
      rw [extractStringAndIncIndex, hstores.1.extractString hrep.1]
      rfl
    have hrest := ih (hstores.2.setIndex (b.index + sizeofStringHeader)) hrep.2
    have hindex : b.index + sizeofStringHeader + sizeofStringHeader * strs.length =
        b.index + sizeofStringHeader * (strs.length + 1) := by
      rw [Nat.mul_succ, Nat.add_assoc, Nat.add_comm sizeofStringHeader]
    rw [List.length_cons, SmartBuffer.extractStrings, hfirst, Option.bind_eq_bind, Option.bind_some]
    dsimp only
    rw [hrest, Option.bind_eq_bind, Option.bind_some]
    exact congrArg (fun index => some (str :: strs, b.setIndex index)) hindex

/-- What several insertions do. -/
structure InsertedAll (b : SmartBuffer) (strs : List Bytes) (bodyIndex : Nat) (b' : SmartBuffer) :
    Prop where
  index : b'.index = b.index + sizeofStringHeader * strs.length
  size : b'.size = b.size
  watermark : b'.watermark = if strs = [] then b.watermark else
    max b.watermark (max (b.index + sizeofStringHeader * strs.length) (endOfBodies bodyIndex strs))
  stores : b'.StoresAll b.index bodyIndex strs
  others : ∀ i, Outside i b.index (b.index + sizeofStringHeader * strs.length) bodyIndex
    (endOfBodies bodyIndex strs) → b'.buf[i]? = b.buf[i]?

theorem insertStrings_spec (b : SmartBuffer) (hsize : b.size < 2 ^ 64) (strs : List Bytes)
    (bodyIndex : Nat)
    (hrep : AllRepresentable b.index bodyIndex strs)
    (hheaders : b.index + sizeofStringHeader * strs.length ≤ b.size)
    (hbodies : endOfBodies bodyIndex strs ≤ b.size)
    (hdisjoint : b.index + sizeofStringHeader * strs.length ≤ bodyIndex ∨
      endOfBodies bodyIndex strs ≤ b.index) :
    ∃ b', b.insertStrings strs bodyIndex = .ok (endOfBodies bodyIndex strs, b') ∧
      b.InsertedAll strs bodyIndex b' := by
  induction strs generalizing b bodyIndex with
  | nil => exact ⟨b, rfl, rfl, rfl, rfl, trivial, fun _ _ => rfl⟩
  | cons str strs ih =>
    have hend := le_endOfBodies (bodyIndex + str.length + 1) strs
    have hlength : b.index + sizeofStringHeader * (str :: strs).length =
        b.index + sizeofStringHeader + sizeofStringHeader * strs.length := by
      rw [List.length_cons, Nat.mul_succ, Nat.add_assoc, Nat.add_comm sizeofStringHeader]
    rw [endOfBodies] at hbodies hdisjoint
    rw [hlength] at hheaders hdisjoint
    obtain ⟨b₁, hinsert, hinserted⟩ := insertString_spec hsize str bodyIndex hrep.1 (by omega)
      (by omega) (by omega)
    obtain ⟨b', hrun, hrest⟩ := ih b₁ (hinserted.size.trans_lt hsize) (bodyIndex + str.length + 1)
      (by rw [hinserted.index]; exact hrep.2)
      (by rw [hinserted.index, hinserted.size]; exact hheaders) (by rw [hinserted.size]; exact hbodies)
      (by rw [hinserted.index]; omega)
    have hothers := hrest.others
    rw [hinserted.index] at hothers
    refine ⟨b', ?_, ?_, hrest.size.trans hinserted.size, ?_, ⟨?_, ?_⟩, ?_⟩
    · rw [insertStrings, hinsert]
      exact hrun
    · rw [hrest.index, hinserted.index, hlength]
    · rw [if_neg (List.cons_ne_nil _ _), hrest.watermark, hinserted.watermark, hinserted.index, hlength,
        endOfBodies]
      split_ifs with hnil
      · subst hnil
        rfl
      · omega
    · -- the first string is not touched by the others
      refine hinserted.stores.congr hrest.size fun i hin => hothers i ?_
      unfold Outside at hin ⊢
      omega
    · rw [← hinserted.index]
      exact hrest.stores
    · intro i hout
      rw [hlength, endOfBodies] at hout
      unfold Outside at hout hothers
      rw [hothers i (by omega)]
      exact hinserted.others i (by unfold Outside; omega)

/-! ## Copies -/

theorem extractStrings_congr {b c : SmartBuffer} (hbuf : c.buf = b.buf) (hindex : c.index = b.index)
    (count : Nat) :
    (c.extractStrings count).map Prod.fst = (b.extractStrings count).map Prod.fst := by
  induction count generalizing b c with
  | zero => rfl
  | succ count ih =>
    have hstring : c.extractString c.index = b.extractString b.index := by
      rw [SmartBuffer.extractString, SmartBuffer.extractString, hbuf, hindex]
    rw [SmartBuffer.extractStrings, SmartBuffer.extractStrings, extractStringAndIncIndex,
      extractStringAndIncIndex, hstring]
    cases b.extractString b.index with
    | none => rfl
    | some str =>
      have hrest := ih (b := b.setIndex (b.index + sizeofStringHeader))
        (c := c.setIndex (c.index + sizeofStringHeader)) hbuf (by simp only [setIndex, hindex])
      rw [Option.map_some, Option.map_some, Option.bind_eq_bind, Option.bind_some, Option.bind_eq_bind,
        Option.bind_some]
      dsimp only
      revert hrest
      cases (c.setIndex (c.index + sizeofStringHeader)).extractStrings count with
      | none =>
        cases (b.setIndex (b.index + sizeofStringHeader)).extractStrings count with
        | none => exact fun _ => rfl
        | some _ => exact fun h => nomatch h
      | some _ =>
        cases (b.setIndex (b.index + sizeofStringHeader)).extractStrings count with
        | none => exact fun h => nomatch h
        | some _ => exact fun h => congrArg (fun strs => some (str :: strs)) (Option.some.inj h)

/-- The strings are read as they were written, from the buffer and from every copy of it. -/
theorem insertStrings_extractStrings (b : SmartBuffer) (hsize : b.size < 2 ^ 64)
    (strs : List Bytes) (bodyIndex : Nat)
    (hrep : AllRepresentable b.index bodyIndex strs)
    (hheaders : b.index + sizeofStringHeader * strs.length ≤ b.size)
    (hbodies : endOfBodies bodyIndex strs ≤ b.size)
    (hdisjoint : b.index + sizeofStringHeader * strs.length ≤ bodyIndex ∨
      endOfBodies bodyIndex strs ≤ b.index) :
    ∃ b', b.insertStrings strs bodyIndex = .ok (endOfBodies bodyIndex strs, b') ∧
      (b'.setIndex b.index).extractStrings strs.length = some (strs, b') ∧
      b'.watermark = (if strs = [] then b.watermark else max b.watermark
        (max (b.index + sizeofStringHeader * strs.length) (endOfBodies bodyIndex strs))) ∧
      b'.size = b.size ∧
      (∀ i, Outside i b.index (b.index + sizeofStringHeader * strs.length) bodyIndex
        (endOfBodies bodyIndex strs) → b'.buf[i]? = b.buf[i]?) ∧
      ∀ newBuffer index count,
        (((b'.copy newBuffer).setIndex index).extractStrings count).map Prod.fst =
          ((b'.setIndex index).extractStrings count).map Prod.fst := by
  obtain ⟨b', hrun, hinserted⟩ := b.insertStrings_spec hsize strs bodyIndex hrep hheaders
    hbodies hdisjoint
  refine ⟨b', hrun, ?_, hinserted.watermark, hinserted.size, hinserted.others,
    fun newBuffer index count => ?_⟩
  swap
  · exact extractStrings_congr (b := b'.setIndex index) (c := (b'.copy newBuffer).setIndex index)
      rfl rfl count
  have hstores : (b'.setIndex b.index).StoresAll (b'.setIndex b.index).index bodyIndex strs :=
    hinserted.stores.setIndex b.index
  rw [hstores.extractStrings hrep]
  have hindex : (b'.setIndex b.index).index + sizeofStringHeader * strs.length = b'.index :=
    hinserted.index.symm
  rw [hindex]
  rfl

/-- A buffer of zeros. -/
def zeros (size : Nat) (index : Nat) : SmartBuffer := ⟨List.replicate size 0, index, 0⟩

theorem size_zeros (size index : Nat) : (zeros size index).size = size :=
  List.length_replicate

theorem insertStrings_extractStrings_one_char :
    ∃ b', (zeros 16 0).insertStrings [[0x61]] 8 = .ok (10, b') ∧
      (b'.setIndex 0).extractStrings 1 = some ([[0x61]], b') := by
  obtain ⟨b', hinsert, hextract, -⟩ := insertStrings_extractStrings (zeros 16 0) (by decide)
    [[0x61]] 8 ⟨⟨by decide, by decide, by decide⟩, trivial⟩ (by decide) (by decide) (by decide)
  exact ⟨b', hinsert, hextract⟩

theorem insertString_of_long (b : SmartBuffer) {str : Bytes} (bodyIndex : Nat)
    (hlong : UINT32_MAX < str.length) :
    ∃ what, b.insertString str bodyIndex = .error (.rangeError what) := by
  unfold insertString
  rw [if_pos hlong]
  exact ⟨_, rfl⟩

theorem insertString_of_far {b : SmartBuffer} (hsize : b.size < 2 ^ 63) (str : Bytes) (bodyIndex : Nat)
    (hlength : str.length ≤ UINT32_MAX) (hfits : bodyIndex + str.length + 1 ≤ b.size)
    (hfar : 2 ^ 31 - 1 < (bodyIndex : Int) - b.index) :
    ∃ what, b.insertString str bodyIndex = .error (.outOfRange what) := by
  have hnext : (bodyIndex + str.length + 1) % 2 ^ 64 = bodyIndex + str.length + 1 :=
    Nat.mod_eq_of_lt (by omega)
  have hoffset : ((bodyIndex : Int) - b.index).bmod (2 ^ 64) = (bodyIndex : Int) - b.index :=
    Int.bmod_eq_of_le (by omega) (by omega)
  unfold insertString
  rw [if_neg (by omega)]
  simp only [hnext, hoffset]
  rw [if_neg (by omega), if_pos (by omega)]
  exact ⟨_, rfl⟩

/-- The watermark is at the end of the headers if they are behind the bodies. A header cannot hold
    every length and every way to a body. -/
theorem insertStrings_limits :
    (∃ b', (zeros 16 8).insertStrings [[0x61]] 0 = .ok (2, b') ∧ b'.watermark = 16) ∧
    (∃ what, (zeros (2 ^ 31 + 16) 0).insertStrings [[0x61]] (2 ^ 31 + 8) =
      .error (.outOfRange what)) ∧
    ∃ what, (zeros (2 ^ 32 + 16) 0).insertStrings [List.replicate (2 ^ 32) 0] 8 =
      .error (.rangeError what) := by
  refine ⟨?_, ?_, ?_⟩
  · obtain ⟨b', hrun, hinserted⟩ := insertStrings_spec (zeros 16 8) (by decide) [[0x61]] 0
      ⟨⟨by decide, by decide, by decide⟩, trivial⟩ (by decide) (by decide) (by decide)
    exact ⟨b', hrun, hinserted.watermark⟩
  · have hsize := size_zeros (2 ^ 31 + 16) 0
    obtain ⟨what, hfar⟩ := insertString_of_far (b := zeros (2 ^ 31 + 16) 0) (by rw [hsize]; decide)
      [0x61] (2 ^ 31 + 8) (by decide) (by rw [hsize]; decide) (by decide)
    exact ⟨what, by rw [insertStrings, hfar]; rfl⟩
  · have hlength : UINT32_MAX < (List.replicate (2 ^ 32) (0 : UInt8)).length := by
      rw [List.length_replicate]
      decide
    obtain ⟨what, hlong⟩ := insertString_of_long (zeros (2 ^ 32 + 16) 0) 8 hlength
    exact ⟨what, by rw [insertStrings, hlong]; rfl⟩

end Hatohol.SmartBuffer

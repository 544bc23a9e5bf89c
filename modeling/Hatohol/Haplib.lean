import Mathlib.Data.List.Basic

/-!
# How a plugin sends what it has found

`HapiProcessor.divide_and_put_data` puts a list in chunks. When the transport refuses a chunk, it
goes on with smaller ones, in the middle of the transfer (haplib.py:560-596). The functions that put
a chunk keep a state of their own and may fail in any call.
-/

namespace Hatohol.Haplib

/-- What `insert_divide_info_to_params` puts into the parameters (hapcommon.py:108-112). -/
structure DivideInfo where
  serialId : Nat
  isLast : Bool
  requestId : String
  deriving DecidableEq, Repr

/-- How a call ends. -/
inductive PutResult where
  | returned
  /-- It raises OverCapacity. -/
  | overCapacity
  /-- It raises any other exception. -/
  | raised
  deriving DecidableEq, Repr

section

variable {σ α : Type}

/-- A function that puts a chunk, with the `divideInfo` that stands in its parameters. -/
abbrev PutFunc (σ α : Type) := List α → Option DivideInfo → σ → PutResult × σ

/-- The variables of `divide_and_put_data` that outlive a pass of its inner loop. -/
structure Division (α : Type) where
  copyContents : List α
  serialId : Nat
  isLast : Bool
  deriving DecidableEq, Repr

def DEFAULT_MAX_CHUNK_SIZE : Nat := 100

def chunkCount (numContents chunkSize : Nat) : Nat :=
  let count := numContents / chunkSize
  if numContents % chunkSize ≠ 0 then count + 1 else count

variable (putFunc : PutFunc σ α) (requestId : String)

/-- The inner loop. The last number is that of the chunks that are left of `count`. -/
def putChunks (chunkSize count : Nat) : Nat → Division α → σ → PutResult × Division α × σ
  | 0, d, s => (.returned, d, s)
  | left + 1, d, s =>
      let isLast := d.isLast || left == 0
      let divideInfo := if count > 1 then some ⟨d.serialId, isLast, requestId⟩ else none
      match putFunc (d.copyContents.take chunkSize) divideInfo s with
      | (.returned, s) =>
          putChunks chunkSize count left ⟨d.copyContents.drop chunkSize, d.serialId + 1, isLast⟩ s
      | (result, s) => (result, { d with isLast }, s)

/-- The outer loop. A pass that ends has put all contents, so that the next one returns. A chunk size
    of zero raises ZeroDivisionError. -/
def divideLoop (chunkSize : Nat) (d : Division α) (s : σ) : PutResult × σ :=
  if d.copyContents.length = 0 then (.returned, s)
  else if chunkSize = 0 then (.raised, s)
  else
    let count := chunkCount d.copyContents.length chunkSize
    match putChunks putFunc requestId chunkSize count count d s with
    | (.returned, _, s) => (.returned, s)
    | (.overCapacity, d, s) => divideLoop (chunkSize * 3 / 4) d s
    | (.raised, _, s) => (.raised, s)
termination_by chunkSize

section

variable {putFunc requestId} {chunkSize : Nat} {d d' : Division α} {s s' : σ}

theorem divideLoop_of_returned (hne : d.copyContents ≠ []) (hsize : chunkSize ≠ 0)
    (hput : putChunks putFunc requestId chunkSize (chunkCount d.copyContents.length chunkSize)
      (chunkCount d.copyContents.length chunkSize) d s = (.returned, d', s')) :
    divideLoop putFunc requestId chunkSize d s = (.returned, s') := by
  rw [divideLoop, if_neg (mt List.length_eq_zero_iff.mp hne), if_neg hsize]
  dsimp only
  rw [hput]

theorem divideLoop_of_raised (hne : d.copyContents ≠ []) (hsize : chunkSize ≠ 0)
    (hput : putChunks putFunc requestId chunkSize (chunkCount d.copyContents.length chunkSize)
      (chunkCount d.copyContents.length chunkSize) d s = (.raised, d', s')) :
    divideLoop putFunc requestId chunkSize d s = (.raised, s') := by
  rw [divideLoop, if_neg (mt List.length_eq_zero_iff.mp hne), if_neg hsize]
  dsimp only
  rw [hput]

theorem divideLoop_of_overCapacity (hne : d.copyContents ≠ []) (hsize : chunkSize ≠ 0)
    (hput : putChunks putFunc requestId chunkSize (chunkCount d.copyContents.length chunkSize)
      (chunkCount d.copyContents.length chunkSize) d s = (.overCapacity, d', s')) :
    divideLoop putFunc requestId chunkSize d s =
      divideLoop putFunc requestId (chunkSize * 3 / 4) d' s' := by
  rw [divideLoop, if_neg (mt List.length_eq_zero_iff.mp hne), if_neg hsize]
  dsimp only
  rw [hput]

end

/-- `requestId` is the UUID that the transfer gets. -/
def divideAndPutData (contents : List α) (putEmptyContents : Bool) (s : σ) : PutResult × σ :=
  if putEmptyContents && contents.length == 0 then putFunc [] none s
  else divideLoop putFunc requestId DEFAULT_MAX_CHUNK_SIZE ⟨contents, 0, false⟩ s

theorem divideAndPutData_nil (s : σ) :
    divideAndPutData putFunc requestId [] false s = (.returned, s) := by
  rw [divideAndPutData, Bool.false_and, if_neg Bool.false_ne_true, divideLoop,
    if_pos List.length_nil]

/-! ## The calls of a pass -/

/-- A call of a function that puts a chunk. -/
structure Call (α : Type) where
  chunk : List α
  divideInfo : Option DivideInfo
  deriving DecidableEq, Repr

/-- Calls one after another, as far as they return. -/
def putCalls : List (Call α) → σ → PutResult × σ
  | [], s => (.returned, s)
  | call :: calls, s =>
      match putFunc call.chunk call.divideInfo s with
      | (.returned, s) => putCalls calls s
      | (result, s) => (result, s)

/-- The calls of the inner loop, if all of them return. -/
def passCalls (chunkSize count : Nat) : Nat → Division α → List (Call α)
  | 0, _ => []
  | left + 1, d =>
      let isLast := d.isLast || left == 0
      ⟨d.copyContents.take chunkSize,
        if count > 1 then some ⟨d.serialId, isLast, requestId⟩ else none⟩ ::
      passCalls chunkSize count left ⟨d.copyContents.drop chunkSize, d.serialId + 1, isLast⟩

/-- The calls of a transfer that is not refused. -/
def wholeCalls (contents : List α) : List (Call α) :=
  let count := chunkCount contents.length DEFAULT_MAX_CHUNK_SIZE
  passCalls requestId DEFAULT_MAX_CHUNK_SIZE count count ⟨contents, 0, false⟩

theorem putChunks_eq (chunkSize count : Nat) : ∀ (left : Nat) (d : Division α) (s : σ),
    ∃ d', putChunks putFunc requestId chunkSize count left d s =
      ((putCalls putFunc (passCalls requestId chunkSize count left d) s).1, d',
        (putCalls putFunc (passCalls requestId chunkSize count left d) s).2) := by
  intro left
  induction left with
  | zero => exact fun d s => ⟨d, rfl⟩
  | succ left ih =>
    intro d s
    rw [passCalls, putCalls, putChunks]
    dsimp only
    split
    · exact ih _ _
    · exact ⟨_, rfl⟩

/-- A transfer that is not refused is one pass. -/
theorem divideAndPutData_eq {contents : List α} (putEmptyContents : Bool) {s : σ}
    (hne : contents ≠ [])
    (hcapacity : (putCalls putFunc (wholeCalls requestId contents) s).1 ≠ .overCapacity) :
    divideAndPutData putFunc requestId contents putEmptyContents s =
      putCalls putFunc (wholeCalls requestId contents) s := by
  obtain ⟨d', hput⟩ := putChunks_eq putFunc requestId DEFAULT_MAX_CHUNK_SIZE
    (chunkCount contents.length DEFAULT_MAX_CHUNK_SIZE)
    (chunkCount contents.length DEFAULT_MAX_CHUNK_SIZE) ⟨contents, 0, false⟩ s
  have hempty : ¬ (putEmptyContents && contents.length == 0) = true := by simp [hne]
  rw [divideAndPutData, if_neg hempty]
  change (putCalls putFunc (passCalls _ _ _ _ _) s).1 ≠ _ at hcapacity
  cases hresult : (putCalls putFunc (wholeCalls requestId contents) s).1 with
  | overCapacity => exact absurd hresult hcapacity
  | returned =>
    rw [wholeCalls] at hresult ⊢
    rw [hresult] at hput
    exact (divideLoop_of_returned hne (by decide) hput).trans (Prod.ext hresult.symm rfl)
  | raised =>
    rw [wholeCalls] at hresult ⊢
    rw [hresult] at hput
    exact (divideLoop_of_raised hne (by decide) hput).trans (Prod.ext hresult.symm rfl)

end

end Hatohol.Haplib

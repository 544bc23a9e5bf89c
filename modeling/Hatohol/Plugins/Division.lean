import Mathlib.Algebra.Ring.Nat
import Hatohol.Haplib
import Hatohol.Divided.Transfer

/-!
# Divided transfers that can be put together

A transfer can be put together by the server if it is one request, or if its parts are numbered and
the last one, and only it, is marked. `divide_and_put_data` keeps the mark and the numbers when it
starts a pass with smaller chunks.
-/

namespace Hatohol.Haplib

open Machine

variable {α : Type}

/-- How many calls there were, and those that were accepted. -/
structure Calls (α : Type) where
  made : Nat
  accepted : List (Call α)
  deriving DecidableEq, Repr

/-- The function that raises OverCapacity in some calls and accepts the others. -/
def refusing (raises : Nat → Bool) : PutFunc (Calls α) α := fun chunk divideInfo calls =>
  if raises calls.made then (.overCapacity, { calls with made := calls.made + 1 })
  else (.returned, ⟨calls.made + 1, calls.accepted ++ [⟨chunk, divideInfo⟩]⟩)

/-- The calls are numbered, and the last one is marked. -/
def Numbered (requestId : String) (calls : List (Call α)) : Prop :=
  ∀ (i : Nat) (call : Call α), calls[i]? = some call →
    call.divideInfo = some ⟨i, decide (i + 1 = calls.length), requestId⟩

/-- One call with all contents, or numbered calls with the contents one after another. -/
def Assembles (contents : List α) (calls : List (Call α)) : Prop :=
  calls = [⟨contents, none⟩] ∨
    (calls.map Call.chunk).flatten = contents ∧ ∃ requestId, Numbered requestId calls

/-! ## Passes -/

/-- The number of chunks that a pass is to put, and of those before the first that is refused. -/
structure Pass where
  count : Nat
  accepted : Nat
  deriving DecidableEq, Repr

/-- How many of some calls are accepted before one is refused, from the `i`-th call on. -/
def acceptedFrom (raises : Nat → Bool) : Nat → Nat → Nat
  | _, 0 => 0
  | i, count + 1 => if raises i then 0 else acceptedFrom raises (i + 1) count + 1

/-- The passes over a list of length `n`, from the `i`-th call on. -/
def passes (raises : Nat → Bool) (n i chunkSize : Nat) : List Pass :=
  if n = 0 ∨ chunkSize = 0 then []
  else
    let count := chunkCount n chunkSize
    let accepted := acceptedFrom raises i count
    if accepted = count then [⟨count, accepted⟩]
    else ⟨count, accepted⟩ ::
      passes raises (n - accepted * chunkSize) (i + accepted + 1) (chunkSize * 3 / 4)
termination_by chunkSize

/-- No chunk is refused that is the last one of its pass, if the last pass has several, and no chunk
    is accepted before the last pass, if it has one. -/
def KeepsTogether (passes : List Pass) : Prop :=
  ∀ failed last, passes = failed ++ [last] →
    if last.count = 1 then ∀ pass ∈ failed, pass.accepted = 0
    else ∀ pass ∈ failed, pass.accepted + 1 ≠ pass.count

theorem acceptedFrom_le (raises : Nat → Bool) (count : Nat) :
    ∀ i, acceptedFrom raises i count ≤ count := by
  induction count with
  | zero => exact fun i => Nat.le_refl _
  | succ count ih =>
    intro i
    rw [acceptedFrom]
    split
    · exact Nat.zero_le _
    · exact Nat.succ_le_succ (ih (i + 1))

theorem le_chunkCount_mul {n chunkSize : Nat} (hpos : 0 < chunkSize) :
    n ≤ chunkCount n chunkSize * chunkSize := by
  have hdiv := Nat.div_add_mod n chunkSize
  rw [Nat.mul_comm] at hdiv
  have hlt := Nat.mod_lt n hpos
  dsimp only [chunkCount]
  split
  · rw [Nat.succ_mul]
    omega
  · omega

theorem chunkCount_pos {n chunkSize : Nat} (hn : n ≠ 0) (hpos : 0 < chunkSize) :
    0 < chunkCount n chunkSize := by
  have hle := le_chunkCount_mul (n := n) hpos
  rcases Nat.eq_zero_or_pos (chunkCount n chunkSize) with hzero | hcount
  · rw [hzero, Nat.zero_mul] at hle
    exact absurd (Nat.le_zero.mp hle) hn
  · exact hcount

theorem mul_lt_of_lt_chunkCount {n chunkSize k : Nat} (hpos : 0 < chunkSize)
    (hk : k < chunkCount n chunkSize) : k * chunkSize < n := by
  have hdiv := Nat.div_add_mod n chunkSize
  rw [Nat.mul_comm] at hdiv
  dsimp only [chunkCount] at hk
  split_ifs at hk with hmod
  · have hle := Nat.mul_le_mul_right chunkSize (Nat.lt_succ_iff.mp hk)
    omega
  · have hlt := Nat.mul_lt_mul_of_pos_right hk hpos
    omega

/-! ## What is put in a pass -/

/-- The `divideInfo`s of the calls that a pass makes. -/
def Pass.divideInfos (requestId : String) (serialId : Nat) (isLast : Bool) (pass : Pass) :
    List (Option DivideInfo) :=
  (List.range pass.accepted).map fun j =>
    if pass.count > 1 then some ⟨serialId + j, isLast || j + 1 == pass.count, requestId⟩ else none

theorem putChunks_refusing (raises : Nat → Bool) (requestId : String) (chunkSize count : Nat) :
    ∀ (left : Nat) (d : Division α) (calls : Calls α), ∃ new d',
      let accepted := acceptedFrom raises calls.made left
      putChunks (refusing raises) requestId chunkSize count left d calls =
        (if accepted = left then .returned else .overCapacity, d',
          ⟨calls.made + accepted + (if accepted = left then 0 else 1), calls.accepted ++ new⟩) ∧
      (new.map Call.chunk).flatten ++ d'.copyContents = d.copyContents ∧
      d'.copyContents = d.copyContents.drop (accepted * chunkSize) ∧
      d'.serialId = d.serialId + accepted ∧
      (accepted < left → d'.isLast = (d.isLast || accepted + 1 == left)) ∧
      new.map Call.divideInfo = (List.range accepted).map fun j =>
        if count > 1 then some ⟨d.serialId + j, d.isLast || j + 1 == left, requestId⟩
        else none := by
  intro left
  induction left with
  | zero =>
    intro d calls
    refine ⟨[], d, ?_⟩
    simp [putChunks, acceptedFrom]
  | succ left ih =>
    intro d calls
    by_cases hraises : raises calls.made = true
    · refine ⟨[], { d with isLast := d.isLast || left == 0 }, ?_⟩
      simp [putChunks, refusing, acceptedFrom, hraises]
    · have haccepted : acceptedFrom raises calls.made (left + 1) =
          acceptedFrom raises (calls.made + 1) left + 1 := by
        rw [acceptedFrom, if_neg hraises]
      set call : Call α := ⟨d.copyContents.take chunkSize, if count > 1 then
        some ⟨d.serialId, d.isLast || left == 0, requestId⟩ else none⟩ with hcall
      obtain ⟨new, d', hput, hchunks, hdrop, hserial, hlast, hinfos⟩ :=
        ih ⟨d.copyContents.drop chunkSize, d.serialId + 1, d.isLast || left == 0⟩
          ⟨calls.made + 1, calls.accepted ++ [call]⟩
      dsimp only at hput hchunks hdrop hserial hlast hinfos
      have hle := acceptedFrom_le raises left (calls.made + 1)
      refine ⟨call :: new, d', ?_, ?_, ?_, ?_, ?_, ?_⟩
      · rw [putChunks, refusing, if_neg hraises, haccepted]
        dsimp only
        rw [← hcall, hput]
        simp only [Nat.add_right_cancel_iff, List.append_assoc, List.singleton_append]
        refine Prod.ext rfl (Prod.ext rfl ?_)
        simp only [Calls.mk.injEq, and_true]
        omega
      · rw [List.map_cons, List.flatten_cons, List.append_assoc, hchunks]
        exact List.take_append_drop _ _
      · rw [hdrop, haccepted, List.drop_drop, Nat.succ_mul]
        congr 1
        omega
      · rw [hserial, haccepted]
        omega
      · intro hlt
        rw [haccepted] at hlt ⊢
        rw [hlast (by omega)]
        have hne : (left == 0) = false := by
          rw [beq_eq_false_iff_ne]
          omega
        simp [hne]
      · rw [List.map_cons, hinfos, haccepted, List.range_succ_eq_map, List.map_cons, List.map_map]
        refine List.cons_eq_cons.mpr ⟨?_, ?_⟩
        · simp [hcall]
        · refine List.map_congr_left fun j hj => ?_
          have hne : (left == 0) = false := by
            rw [beq_eq_false_iff_ne]
            have := List.mem_range.mp hj
            omega
          simp only [Function.comp_apply, hne, Bool.or_false, Nat.succ_eq_add_one]
          rw [Nat.add_assoc, Nat.add_comm 1 j]
          simp

/-! ## What is put in all passes -/

def divideInfos (requestId : String) : Nat → Bool → List Pass → List (Option DivideInfo)
  | _, _, [] => []
  | serialId, isLast, pass :: rest =>
      pass.divideInfos requestId serialId isLast ++ divideInfos requestId
        (serialId + pass.accepted) (isLast || pass.accepted + 1 == pass.count) rest

/-- The last pass put all its chunks, those before it did not. -/
def Ended (passes : List Pass) : Prop :=
  ∃ failed last, passes = failed ++ [last] ∧ last.accepted = last.count ∧ 0 < last.count ∧
    ∀ pass ∈ failed, pass.accepted < pass.count

def total (passes : List Pass) : Nat := (passes.map Pass.accepted).sum

@[simp] theorem total_cons (pass : Pass) (rest : List Pass) :
    total (pass :: rest) = pass.accepted + total rest := by
  rw [total, total, List.map_cons, List.sum_cons]

theorem divideLoop_refusing (raises : Nat → Bool) (requestId : String) :
    ∀ (chunkSize : Nat) (d : Division α) (calls calls' : Calls α),
      divideLoop (refusing raises) requestId chunkSize d calls = (.returned, calls') →
      ∃ new, calls'.accepted = calls.accepted ++ new ∧
        (new.map Call.chunk).flatten = d.copyContents ∧
        new.map Call.divideInfo = divideInfos requestId d.serialId d.isLast
          (passes raises d.copyContents.length calls.made chunkSize) ∧
        (d.copyContents ≠ [] → Ended (passes raises d.copyContents.length calls.made chunkSize)) :=
          by
  intro chunkSize
  induction chunkSize using Nat.strong_induction_on with
  | _ chunkSize ih =>
    intro d calls calls' hreturn
    by_cases hempty : d.copyContents.length = 0
    · rw [divideLoop, if_pos hempty] at hreturn
      obtain rfl := (Prod.mk.inj hreturn).2
      have hnil := List.length_eq_zero_iff.mp hempty
      refine ⟨[], (List.append_nil _).symm, hnil.symm, ?_, fun hne => absurd hnil hne⟩
      rw [passes, if_pos (.inl hempty)]
      rfl
    · have hsize : chunkSize ≠ 0 := by
        rintro rfl
        rw [divideLoop, if_neg hempty, if_pos rfl] at hreturn
        cases (Prod.mk.inj hreturn).1
      have hpos := Nat.pos_of_ne_zero hsize
      obtain ⟨new, d', hput, hchunks, hdrop, hserial, hlast, hinfos⟩ :=
        putChunks_refusing raises requestId chunkSize (chunkCount d.copyContents.length chunkSize)
          (chunkCount d.copyContents.length chunkSize) d calls
      rw [divideLoop, if_neg hempty, if_neg hsize] at hreturn
      dsimp only at hreturn
      rw [hput] at hreturn
      rw [passes, if_neg (not_or.mpr ⟨hempty, hsize⟩)]
      dsimp only
      set count := chunkCount d.copyContents.length chunkSize
      by_cases hall : acceptedFrom raises calls.made count = count
      · rw [if_pos hall, if_pos hall] at hreturn
        rw [if_pos hall]
        obtain rfl := (Prod.mk.inj hreturn).2
        have hnil : d'.copyContents = [] := by
          rw [hdrop, hall]
          exact List.drop_eq_nil_of_le (le_chunkCount_mul hpos)
        rw [hnil, List.append_nil] at hchunks
        refine ⟨new, rfl, hchunks, ?_, fun _ => ⟨[], _, rfl, hall, chunkCount_pos hempty hpos, ?_⟩⟩
        · rw [divideInfos, divideInfos, List.append_nil]
          exact hinfos
        · intro pass hmem
          cases hmem
      · rw [if_neg hall, if_neg hall] at hreturn
        rw [if_neg hall]
        have hlt := lt_of_le_of_ne (acceptedFrom_le raises count calls.made) hall
        have hlength : d'.copyContents.length =
            d.copyContents.length - acceptedFrom raises calls.made count * chunkSize := by
          rw [hdrop, List.length_drop]
        obtain ⟨rest, haccepted, hflatten, hrest, hended⟩ :=
          ih (chunkSize * 3 / 4) (by omega) d' _ calls' hreturn
        rw [hlength] at hrest hended
        rw [hlast hlt, hserial] at hrest
        refine ⟨new ++ rest, ?_, ?_, ?_, ?_⟩
        · rw [haccepted, List.append_assoc]
        · rw [List.map_append, List.flatten_append, hflatten, hchunks]
        · rw [List.map_append, hinfos, hrest, divideInfos]
          rfl
        · intro _
          have hne : d'.copyContents ≠ [] := by
            intro hnil
            have hzero : d'.copyContents.length = 0 := by rw [hnil, List.length_nil]
            rw [hlength] at hzero
            have hleft := mul_lt_of_lt_chunkCount hpos hlt
            omega
          obtain ⟨failed, last, hpasses, hcount, hpositive, hfailed⟩ := hended hne
          refine ⟨_ :: failed, last, by rw [hpasses, List.cons_append], hcount, hpositive, ?_⟩
          intro pass hmem
          rcases List.mem_cons.mp hmem with rfl | hmem
          · exact hlt
          · exact hfailed pass hmem

/-! ## The passes of a transfer that can be put together -/

theorem length_divideInfos (requestId : String) (passes : List Pass) :
    ∀ serialId isLast, (divideInfos requestId serialId isLast passes).length = total passes := by
  induction passes with
  | nil => exact fun _ _ => rfl
  | cons pass rest ih =>
    intro serialId isLast
    rw [divideInfos, List.length_append, ih]
    simp [Pass.divideInfos, total]

theorem divideInfos_concat (requestId : String) (failed : List Pass) (last : Pass) :
    ∀ serialId isLast, divideInfos requestId serialId isLast (failed ++ [last]) =
      divideInfos requestId serialId isLast failed ++ last.divideInfos requestId
        (serialId + total failed)
        (isLast || failed.any fun pass => pass.accepted + 1 == pass.count) := by
  induction failed with
  | nil =>
    intro serialId isLast
    simp [divideInfos, total]
  | cons pass rest ih =>
    intro serialId isLast
    rw [List.cons_append, divideInfos, ih, divideInfos, List.append_assoc, List.any_cons,
      Bool.or_assoc]
    congr 3
    rw [total_cons, Nat.add_assoc]

/-- The passes that are broken off before their last chunk mark nothing. -/
theorem divideInfos_failed (requestId : String) (failed : List Pass)
    (hfailed : ∀ pass ∈ failed, pass.accepted < pass.count)
    (hnever : ∀ pass ∈ failed, pass.accepted + 1 ≠ pass.count) :
    ∀ serialId, divideInfos requestId serialId false failed =
      (List.range (total failed)).map fun j => some ⟨serialId + j, false, requestId⟩ := by
  induction failed with
  | nil => exact fun _ => rfl
  | cons pass rest ih =>
    intro serialId
    have hlt := hfailed pass (by simp)
    have hne := hnever pass (by simp)
    have hflag : (pass.accepted + 1 == pass.count) = false := beq_eq_false_iff_ne.mpr hne
    rw [divideInfos, hflag, Bool.or_false,
      ih (fun pass hmem => hfailed pass (by simp [hmem]))
        (fun pass hmem => hnever pass (by simp [hmem])),
      total_cons, List.range_add, List.map_append, List.map_map]
    congr 1
    · refine List.map_congr_left fun j hj => ?_
      have hj := List.mem_range.mp hj
      have hcount : pass.count > 1 := by omega
      have hmark : (j + 1 == pass.count) = false := by
        rw [beq_eq_false_iff_ne]
        omega
      rw [if_pos hcount, hmark]
      rfl
    · refine List.map_congr_left fun j _ => ?_
      rw [Function.comp_apply, Nat.add_assoc]

theorem keepsTogether_iff (failed : List Pass) (last : Pass) :
    KeepsTogether (failed ++ [last]) ↔
      if last.count = 1 then ∀ pass ∈ failed, pass.accepted = 0
      else ∀ pass ∈ failed, pass.accepted + 1 ≠ pass.count := by
  refine ⟨fun hkeeps => hkeeps failed last rfl, fun hlast failed' last' heq => ?_⟩
  obtain rfl := List.append_inj_left' heq rfl
  obtain rfl := List.singleton_inj.mp (List.append_inj_right' heq rfl)
  exact hlast

theorem total_eq_zero {passes : List Pass} :
    total passes = 0 ↔ ∀ pass ∈ passes, pass.accepted = 0 := by
  induction passes with
  | nil => simp [total]
  | cons pass rest ih => rw [total_cons, Nat.add_eq_zero_iff, ih, List.forall_mem_cons]

/-- The calls of a division that came to its end. -/
structure Divided (requestId : String) (contents : List α) (failed : List Pass) (last : Pass)
    (calls : List (Call α)) : Prop where
  chunks : (calls.map Call.chunk).flatten = contents
  divideInfos : calls.map Call.divideInfo = divideInfos requestId 0 false (failed ++ [last])
  ended : last.accepted = last.count
  positive : 0 < last.count
  failed : ∀ pass ∈ failed, pass.accepted < pass.count

section

variable {requestId : String} {contents : List α} {failed : List Pass} {last : Pass}
  {calls : List (Call α)}

theorem Divided.length (hdivided : Divided requestId contents failed last calls) :
    calls.length = total failed + last.count := by
  rw [← List.length_map Call.divideInfo, hdivided.divideInfos, length_divideInfos, total,
    List.map_append, List.sum_append, ← hdivided.ended]
  simp [total]

/-- The call that the last pass begins with. -/
theorem Divided.firstOfLast (hdivided : Divided requestId contents failed last calls) :
    ∃ call, calls[total failed]? = some call ∧ call.divideInfo =
      if last.count > 1 then some ⟨total failed,
        (failed.any fun pass => pass.accepted + 1 == pass.count) || 1 == last.count, requestId⟩
      else none := by
  have hget : (calls.map Call.divideInfo)[total failed]? = some (if last.count > 1 then
      some ⟨total failed, (failed.any fun pass => pass.accepted + 1 == pass.count) ||
        1 == last.count, requestId⟩ else none) := by
    rw [hdivided.divideInfos, divideInfos_concat,
      List.getElem?_append_right (by rw [length_divideInfos]), length_divideInfos, Nat.sub_self]
    have hrange : (List.range last.accepted)[0]? = some 0 := by
      rw [hdivided.ended]
      exact List.getElem?_range hdivided.positive
    rw [Pass.divideInfos, List.getElem?_map, hrange]
    simp
  rw [List.getElem?_map] at hget
  obtain ⟨call, hcall, hinfo⟩ := Option.map_eq_some_iff.mp hget
  exact ⟨call, hcall, hinfo⟩

theorem Divided.undivided (hdivided : Divided requestId contents failed last calls)
    (hone : last.count = 1) (hnone : ∀ pass ∈ failed, pass.accepted = 0) :
    calls = [⟨contents, none⟩] := by
  have hlength := hdivided.length
  rw [total_eq_zero.mpr hnone, hone] at hlength
  obtain ⟨call, rfl⟩ := List.length_eq_one_iff.mp hlength
  obtain ⟨call', hget, hinfo⟩ := hdivided.firstOfLast
  rw [total_eq_zero.mpr hnone] at hget
  obtain rfl := Option.some.inj hget
  have hchunks := hdivided.chunks
  rw [if_neg (by omega)] at hinfo
  simp only [List.map_cons, List.map_nil, List.flatten_cons, List.flatten_nil,
    List.append_nil] at hchunks
  rw [← hchunks, ← hinfo]

theorem Divided.numbered (hdivided : Divided requestId contents failed last calls)
    (hseveral : last.count ≠ 1) (hnever : ∀ pass ∈ failed, pass.accepted + 1 ≠ pass.count) :
      Numbered requestId calls := by
  intro i call hget
  have hpositive := hdivided.positive
  have hinfo : (calls.map Call.divideInfo)[i]? = some call.divideInfo := by
    rw [List.getElem?_map, hget, Option.map_some]
  have hany : (failed.any fun pass => pass.accepted + 1 == pass.count) = false := by
    rw [List.any_eq_false]
    intro pass hmem hmark
    exact hnever pass hmem (beq_iff_eq.mp hmark)
  rw [hdivided.divideInfos, divideInfos_concat, hany,
    divideInfos_failed requestId failed hdivided.failed hnever] at hinfo
  rw [hdivided.length]
  rcases Nat.lt_or_ge i (total failed) with hlt | hge
  · rw [List.getElem?_append_left (by simpa using hlt), List.getElem?_map,
      List.getElem?_range hlt] at hinfo
    have hmark : decide (i + 1 = total failed + last.count) = false := by
      rw [decide_eq_false_iff_not]
      omega
    rw [← Option.some.inj hinfo, hmark]
    dsimp only
    rw [Nat.zero_add]
  · rw [List.getElem?_append_right (by simpa using hge), List.length_map, List.length_range,
      Pass.divideInfos, List.getElem?_map] at hinfo
    obtain ⟨j, hj, hinfo⟩ := Option.map_eq_some_iff.mp hinfo
    rw [List.getElem?_eq_some_iff] at hj
    obtain ⟨hlt, hj⟩ := hj
    rw [List.getElem_range] at hj
    rw [if_pos (by omega)] at hinfo
    rw [← hinfo]
    have hi : 0 + total failed + j = i := by omega
    have hmark : (j + 1 == last.count) = decide (i + 1 = total failed + last.count) := by
      rw [Bool.beq_eq_decide_eq]
      congr 1
      rw [eq_iff_iff]
      omega
    rw [hi, hmark]
    simp

/-- A division that came to its end can be put together if and only if its passes keep together. -/
theorem Divided.assembles_iff (hdivided : Divided requestId contents failed last calls) :
    Assembles contents calls ↔ KeepsTogether (failed ++ [last]) := by
  have hlength := hdivided.length
  have hpositive := hdivided.positive
  obtain ⟨call, hget, hinfo⟩ := hdivided.firstOfLast
  rw [keepsTogether_iff]
  constructor
  · rintro (hsingle | ⟨-, requestId', hnumbered⟩)
    · rw [hsingle, List.length_singleton] at hlength
      rw [if_pos (by omega)]
      exact total_eq_zero.mp (by omega)
    · have hnumber := hnumbered _ _ hget
      rw [hinfo] at hnumber
      split_ifs at hnumber with hseveral
      rw [if_neg (by omega)]
      intro pass hmem hmark
      have hany : (failed.any fun pass => pass.accepted + 1 == pass.count) = true :=
        List.any_eq_true.mpr ⟨pass, hmem, beq_iff_eq.mpr hmark⟩
      have hlast := congrArg DivideInfo.isLast (Option.some.inj hnumber)
      rw [hany, Bool.true_or, eq_comm, decide_eq_true_eq] at hlast
      omega
  · intro hkeeps
    split_ifs at hkeeps with hone
    · exact .inl (hdivided.undivided hone hkeeps)
    · exact .inr ⟨hdivided.chunks, requestId, hdivided.numbered hone hkeeps⟩

end

/-! ## What the server makes of the calls -/

/-- `divideInfo` as the server reads it. -/
def DivideInfo.object (divideInfo : DivideInfo) : DivideInfoObject :=
  ⟨some divideInfo.isLast, some (Int64.ofNat divideInfo.serialId), some divideInfo.requestId,
    false, 0⟩

/-- The request that a call sends. `params` has what all requests of the transfer have. -/
def Call.request (procedure : PutProcedure) (params : PutParams α) (call : Call α) : PutRequest α :=
  ⟨procedure, { params with
    elements := call.chunk, divideInfo := call.divideInfo.map DivideInfo.object }⟩

/-- All requests are answered with SUCCESS, the contents are handed to the data store once, and no
    part is left. Samples are not stored. -/
def Commits (procedure : PutProcedure) (impl : GateImpl α) (contents : List α)
    (requests : List (PutRequest α)) : Prop :=
  ∃ answered impl', run procedureHandler impl requests = .returned (answered, impl') ∧
    (∀ x ∈ answered, x.2.response = .success) ∧
    answered.flatMap (fun x => x.2.stored) = (if procedure = .putHistory then [] else [contents]) ∧
    ∀ requestId, impl.parts procedure requestId = [] → impl'.parts procedure requestId = []

section

variable {procedure : PutProcedure} {params : PutParams α} {impl : GateImpl α}
  {requestId : String} {contents : List α} {calls : List (Call α)}

/-- The elements of a request do not tell what is done with a whole list. -/
theorem finish_chunk (procedure : PutProcedure) (params : PutParams α) (elements list : List α)
    (divideInfo : Option DivideInfoObject) :
    procedure.handler.finish { params with elements, divideInfo } list =
      procedure.handler.finish params list := by
  cases procedure <;> rfl

theorem answers_undivided (hparse : procedure.handler.parseErrors params = []) :
    procedureHandler impl (Call.request procedure params ⟨contents, none⟩) =
      .returned (procedure.handler.finish params contents, impl) := by
  have hparse' : ¬ procedure.handler.parseErrors
      { params with elements := contents, divideInfo := none } ≠ [] := not_not.mpr hparse
  rw [procedureHandler_eq, PutHandler.handle_undivided _ rfl, Call.request]
  dsimp only
  rw [Option.map_none, if_neg hparse', finish_chunk]

/-- The part that the server reads from a request of a call. -/
def Call.part (params : PutParams α) (call : Call α) : Part α where
  params := { params with
    elements := call.chunk, divideInfo := call.divideInfo.map DivideInfo.object }
  divideInfo := (parseDivideInfo
    ((call.divideInfo.map DivideInfo.object).getD ⟨none, none, none, false, 0⟩)).1
  errors := []

theorem partOf_request (hparse : procedure.handler.parseErrors params = []) {call : Call α}
    {serialId : Nat} {isLast : Bool} (hinfo : call.divideInfo =
      some ⟨serialId, isLast, requestId⟩) :
    (call.request procedure params).partOf procedure requestId = some (call.part params) := by
  refine PutRequest.partOf_eq_some_iff.mpr ⟨rfl, ?_, by rw [Call.part, hinfo]; rfl⟩
  have hparse' : procedure.handler.parseErrors { params with
      elements := call.chunk, divideInfo := call.divideInfo.map DivideInfo.object } = [] := hparse
  rw [PutHandler.part, Call.request, Call.part]
  dsimp only
  rw [hparse', hinfo]
  rfl

theorem filterMap_partOf (hparse : procedure.handler.parseErrors params = [])
    (hnumbered : Numbered requestId calls) :
    (calls.map (Call.request procedure params)).filterMap
      (PutRequest.partOf procedure requestId) = calls.map (Call.part params) := by
  rw [List.filterMap_map, ← List.filterMap_eq_map]
  refine List.filterMap_congr fun call hmem => ?_
  obtain ⟨i, hget⟩ := List.mem_iff_getElem?.mp hmem
  exact partOf_request hparse (hnumbered i call hget)

theorem isDivision_of_numbered (hparse : procedure.handler.parseErrors params = [])
    (hne : calls ≠ []) (hchunks : (calls.map Call.chunk).flatten = contents)
    (hnumbered : Numbered requestId calls) :
    IsDivision contents ((calls.map (Call.request procedure params)).filterMap
      (PutRequest.partOf procedure requestId)) := by
  rw [filterMap_partOf hparse hnumbered]
  have hget : ∀ (i : Nat) (part : Part α), (calls.map (Call.part params))[i]? = some part →
      part.divideInfo = ⟨decide (i + 1 = calls.length), Int64.ofNat i, requestId⟩ := by
    intro i part hpart
    rw [List.getElem?_map] at hpart
    obtain ⟨call, hcall, rfl⟩ := Option.map_eq_some_iff.mp hpart
    rw [Call.part, hnumbered i call hcall]
    rfl
  refine ⟨by simpa using hne, ?_, ?_, ?_, ?_⟩
  · rw [List.map_map]
    exact hchunks
  · intro part hmem
    obtain ⟨call, -, rfl⟩ := List.mem_map.mp hmem
    rfl
  · intro i part hpart
    rw [hget i part hpart]
  · intro i part hpart
    rw [hget i part hpart, List.length_map, decide_eq_true_eq]

/-- The requests of a transfer are answered with nothing but SUCCESS, and the last one deals with the
    whole list. No part is left. -/
def Answers (procedure : PutProcedure) (params : PutParams α) (impl : GateImpl α)
    (contents : List α) (requests : List (PutRequest α)) : Prop :=
  ∃ answered impl', run procedureHandler impl requests = .returned (answered, impl') ∧
    (∃ first : List (Part α), answered.map Prod.snd = first.map (fun _ => ⟨.success, []⟩) ++
      [procedure.handler.finish params contents]) ∧
    ∀ requestId, impl.parts procedure requestId = [] → impl'.parts procedure requestId = []

theorem answers_numbered (hparse : procedure.handler.parseErrors params = [])
    (hfresh : impl.parts procedure requestId = []) (hne : calls ≠ [])
    (hchunks : (calls.map Call.chunk).flatten = contents)
    (hnumbered : Numbered requestId calls) :
    Answers procedure params impl contents (calls.map (Call.request procedure params)) := by
  obtain ⟨answered, impl', first, last, hrun, hown, hrestrict, hlast⟩ :=
    run_transfer procedure requestId contents _ impl hfresh
      (isDivision_of_numbered hparse hne hchunks hnumbered)
  have hall : ∀ x ∈ answered, ((transfer procedure requestId).input x.1).isSome = true := by
    intro x hmem
    have hinput : x.1 ∈ calls.map (Call.request procedure params) := by
      rw [← map_fst_of_run hrun]
      exact List.mem_map_of_mem hmem
    obtain ⟨call, hcall, heq⟩ := List.mem_map.mp hinput
    obtain ⟨i, hget⟩ := List.mem_iff_getElem?.mp hcall
    have hpart := partOf_request hparse (hnumbered i call hget)
    rw [heq] at hpart
    exact Option.isSome_iff_exists.mpr ⟨_, hpart⟩
  rw [filterMap_partOf hparse hnumbered] at hlast
  obtain ⟨call, -, rfl⟩ := List.mem_map.mp hlast
  refine ⟨answered, impl', hrun, ⟨first, ?_⟩, ?_⟩
  · rw [← Component.map_snd_restrict _ hall, hrestrict, List.map_append, List.map_map,
      List.map_singleton, Call.part, finish_chunk]
    rfl
  · intro requestId' hnone
    by_cases hid : requestId' = requestId
    · rw [hid]
      exact hown
    · obtain ⟨answered', impl'', hrun', -, hview⟩ :=
        (transfer procedure requestId').run_eq (calls.map (Call.request procedure params)) impl
      obtain ⟨-, rfl⟩ := Prod.mk.inj (Outcome.returned.inj (hrun.symm.trans hrun'))
      have hother : (calls.map (Call.request procedure params)).filterMap
          (transfer procedure requestId').input = [] := by
        rw [List.filterMap_eq_nil_iff]
        intro request hmem
        obtain ⟨call, hcall, rfl⟩ := List.mem_map.mp hmem
        obtain ⟨i, hget⟩ := List.mem_iff_getElem?.mp hcall
        obtain ⟨-, hpart, hrequest⟩ := PutRequest.partOf_eq_some_iff.mp
          (partOf_request hparse (hnumbered i call hget))
        rw [Option.eq_none_iff_forall_ne_some]
        intro part hinput
        obtain ⟨-, hpart', hrequest'⟩ := PutRequest.partOf_eq_some_iff.mp hinput
        rw [hpart] at hpart'
        obtain rfl := Option.some.inj hpart'
        exact hid (hrequest'.symm.trans hrequest)
      rw [hother] at hview
      exact hview.trans hnone

theorem Answers.commits {requests : List (PutRequest α)}
    (h : Answers procedure params impl contents requests) :
    Commits procedure impl contents requests := by
  obtain ⟨answered, impl', hrun, ⟨first, hanswers⟩, hparts⟩ := h
  refine ⟨answered, impl', hrun, ?_, ?_, hparts⟩
  · intro x hmem
    have hmem := List.mem_map_of_mem (f := Prod.snd) hmem
    rw [hanswers] at hmem
    rcases List.mem_append.mp hmem with hmem | hmem
    · obtain ⟨part, -, heq⟩ := List.mem_map.mp hmem
      rw [← heq]
    · rw [List.mem_singleton.mp hmem]
      rfl
  · have hmap : answered.flatMap (fun x => x.2.stored) =
        (answered.map Prod.snd).flatMap PutAnswer.stored := by
      rw [List.flatMap_map]
    rw [hmap, hanswers, List.flatMap_append, List.flatMap_map, List.flatMap_singleton,
      (handed_finish procedure params contents).1]
    have hnone : (first.flatMap fun _ => (⟨.success, []⟩ : PutAnswer α).stored) = [] := by
      simp [PutAnswer.stored]
    rw [hnone, List.nil_append]

theorem answers_whole (hparse : procedure.handler.parseErrors params = []) :
    Answers procedure params impl contents
      [Call.request procedure params ⟨contents, none⟩] := by
  have hanswer : procedureHandler impl (Call.request procedure params ⟨contents, none⟩) =
      .returned (procedure.handler.finish params contents, impl) := answers_undivided hparse
  refine ⟨[(_, _)], impl, by rw [run, hanswer]; rfl, ⟨[], rfl⟩, fun _ hnone => hnone⟩

theorem commits_undivided (hparse : procedure.handler.parseErrors params = []) :
    Commits procedure impl contents [Call.request procedure params ⟨contents, none⟩] :=
  (answers_whole hparse).commits

theorem commits_numbered (hparse : procedure.handler.parseErrors params = [])
    (hfresh : impl.parts procedure requestId = []) (hne : calls ≠ [])
    (hchunks : (calls.map Call.chunk).flatten = contents)
    (hnumbered : Numbered requestId calls) :
    Commits procedure impl contents (calls.map (Call.request procedure params)) :=
  (answers_numbered hparse hfresh hne hchunks hnumbered).commits

end

/-! ## The division -/

theorem divided_of_returned {raises : Nat → Bool} {requestId : String} {contents : List α}
    {calls : Calls α} (hne : contents ≠ [])
    (hreturn : divideLoop (refusing raises) requestId DEFAULT_MAX_CHUNK_SIZE ⟨contents, 0, false⟩
      ⟨0, []⟩ = (.returned, calls)) :
    ∃ failed last, passes raises contents.length 0 DEFAULT_MAX_CHUNK_SIZE = failed ++ [last] ∧
      Divided requestId contents failed last calls.accepted := by
  obtain ⟨new, haccepted, hchunks, hinfos, hended⟩ := divideLoop_refusing _ _ _ _ _ _ hreturn
  rw [List.nil_append] at haccepted
  obtain ⟨failed, last, hpasses, hcount, hpositive, hfailed⟩ := hended hne
  rw [← haccepted] at hchunks hinfos
  rw [hpasses] at hinfos
  exact ⟨failed, last, hpasses, hchunks, hinfos, hcount, hpositive, hfailed⟩

theorem putCalls_accepted : ∀ (calls : List (Call α)) (s : Calls α),
    putCalls (refusing fun _ => false) calls s =
      (.returned, ⟨s.made + calls.length, s.accepted ++ calls⟩) := by
  intro calls
  induction calls with
  | nil =>
    intro s
    rw [putCalls, List.length_nil, List.append_nil]
    rfl
  | cons call calls ih =>
    intro s
    rw [putCalls, refusing, if_neg Bool.false_ne_true]
    dsimp only
    rw [ih, List.append_assoc, List.length_cons, Nat.add_assoc, Nat.add_comm 1]
    rfl

theorem acceptedFrom_never : ∀ count i, acceptedFrom (fun _ => false) i count = count := by
  intro count
  induction count with
  | zero => exact fun _ => rfl
  | succ count ih =>
    intro i
    rw [acceptedFrom, if_neg Bool.false_ne_true, ih]

/-- The calls of a transfer that is not refused can be put together. -/
theorem wholeCalls_cases (requestId : String) {contents : List α} (hne : contents ≠ []) :
    wholeCalls requestId contents = [⟨contents, none⟩] ∨
      wholeCalls requestId contents ≠ [] ∧
      ((wholeCalls requestId contents).map Call.chunk).flatten = contents ∧
      Numbered requestId (wholeCalls requestId contents) := by
  have hcalls := putCalls_accepted (wholeCalls requestId contents) ⟨0, []⟩
  have hloop := divideAndPutData_eq _ requestId false hne
    (by rw [hcalls]; exact PutResult.noConfusion)
  rw [hcalls, divideAndPutData, if_neg (by simp)] at hloop
  obtain ⟨failed, last, hpasses, hdivided⟩ := divided_of_returned hne hloop
  rw [List.nil_append] at hdivided
  have hlength : contents.length ≠ 0 := mt List.length_eq_zero_iff.mp hne
  rw [passes, if_neg (not_or.mpr ⟨hlength, by decide⟩)] at hpasses
  dsimp only at hpasses
  rw [if_pos (acceptedFrom_never _ _), List.singleton_eq_append_iff] at hpasses
  obtain ⟨rfl, -⟩ | ⟨-, hnil⟩ := hpasses
  · by_cases hone : last.count = 1
    · exact .inl (hdivided.undivided hone fun pass hmem => by cases hmem)
    · refine .inr ⟨?_, hdivided.chunks, hdivided.numbered hone fun pass hmem => by cases hmem⟩
      intro hnil
      have hcount := hdivided.length
      have hpositive := hdivided.positive
      rw [hnil, List.length_nil] at hcount
      omega
  · cases hnil

theorem flatten_wholeCalls (requestId : String) {contents : List α} (hne : contents ≠ []) :
    wholeCalls requestId contents ≠ [] ∧
      ((wholeCalls requestId contents).map Call.chunk).flatten = contents := by
  rcases wholeCalls_cases requestId hne with hone | ⟨hcalls, hchunks, -⟩
  · rw [hone]
    exact ⟨List.cons_ne_nil _ _, List.append_nil _⟩
  · exact ⟨hcalls, hchunks⟩

theorem chunkCount_eq_one {contents : List α} (hne : contents ≠ [])
    (hle : contents.length ≤ DEFAULT_MAX_CHUNK_SIZE) :
    chunkCount contents.length DEFAULT_MAX_CHUNK_SIZE = 1 := by
  have hpos : 0 < chunkCount contents.length DEFAULT_MAX_CHUNK_SIZE :=
    chunkCount_pos (mt List.length_eq_zero_iff.mp hne) (by decide)
  rcases Nat.lt_or_ge 1 (chunkCount contents.length DEFAULT_MAX_CHUNK_SIZE) with hlt | hge
  · have hlong := mul_lt_of_lt_chunkCount (by decide) hlt
    omega
  · omega

theorem wholeCalls_of_le (requestId : String) {contents : List α} (hne : contents ≠ [])
    (hle : contents.length ≤ DEFAULT_MAX_CHUNK_SIZE) :
    wholeCalls requestId contents = [⟨contents, none⟩] := by
  rw [wholeCalls, chunkCount_eq_one hne hle, passCalls, passCalls, if_neg (Nat.lt_irrefl 1),
    List.take_of_length_le hle]

theorem answers_wholeCalls {procedure : PutProcedure} {params : PutParams α} {impl : GateImpl α}
    {requestId : String} {contents : List α} (hne : contents ≠ [])
    (hparse : procedure.handler.parseErrors params = [])
    (hfresh : impl.parts procedure requestId = []) :
    Answers procedure params impl contents
      ((wholeCalls requestId contents).map (Call.request procedure params)) := by
  rcases wholeCalls_cases requestId hne with hone | ⟨hcalls, hchunks, hnumbered⟩
  · rw [hone]
    exact answers_whole hparse
  · exact answers_numbered hparse hfresh hcalls hchunks hnumbered

theorem commits_wholeCalls {procedure : PutProcedure} {params : PutParams α} {impl : GateImpl α}
    {requestId : String} {contents : List α} (hne : contents ≠ [])
    (hparse : procedure.handler.parseErrors params = [])
    (hfresh : impl.parts procedure requestId = []) :
    Commits procedure impl contents
      ((wholeCalls requestId contents).map (Call.request procedure params)) :=
  (answers_wholeCalls hne hparse hfresh).commits

/-- When a division returns, the calls that were accepted can be put together if and only if its
    passes keep together. Then the server puts them together. -/
theorem division_assembles_iff (raises : Nat → Bool) (requestId : String) (contents : List α)
    (putEmptyContents : Bool) (calls : Calls α)
    (hreturn : divideAndPutData (refusing raises) requestId contents putEmptyContents ⟨0, []⟩ =
      (.returned, calls)) :
    (Assembles contents calls.accepted ↔
      KeepsTogether (passes raises contents.length 0 DEFAULT_MAX_CHUNK_SIZE)) ∧
    (Assembles contents calls.accepted → calls.accepted ≠ [] →
      ∀ (procedure : PutProcedure) (params : PutParams α) (impl : GateImpl α),
        procedure.handler.parseErrors params = [] → impl.parts procedure requestId = [] →
        Commits procedure impl contents
          (calls.accepted.map (Call.request procedure params))) := by
  rcases eq_or_ne contents [] with rfl | hne
  · have hkeeps : KeepsTogether (passes raises ([] : List α).length 0 DEFAULT_MAX_CHUNK_SIZE) := by
      rw [passes, if_pos (.inl rfl)]
      intro failed last heq
      simp at heq
    have haccepted : calls.accepted = [] ∨ calls.accepted = [⟨[], none⟩] := by
      cases putEmptyContents with
      | false =>
        rw [divideAndPutData, Bool.false_and, if_neg Bool.false_ne_true, divideLoop,
          if_pos List.length_nil] at hreturn
        exact .inl (by rw [← (Prod.mk.inj hreturn).2])
      | true =>
        rw [divideAndPutData, if_pos (by rfl), refusing] at hreturn
        split_ifs at hreturn
        · cases (Prod.mk.inj hreturn).1
        · exact .inr (by rw [← (Prod.mk.inj hreturn).2]; rfl)
    have hassembles : Assembles [] calls.accepted := by
      rcases haccepted with h | h
      · rw [h]
        exact .inr ⟨rfl, requestId, fun i call hget => by cases hget⟩
      · exact .inl h
    refine ⟨iff_of_true hassembles hkeeps, fun _ hcalls procedure params impl hparse _ => ?_⟩
    rw [haccepted.resolve_left hcalls]
    exact commits_undivided hparse
  · have hloop : divideLoop (refusing raises) requestId DEFAULT_MAX_CHUNK_SIZE ⟨contents, 0, false⟩
        ⟨0, []⟩ = (.returned, calls) := by
      rw [divideAndPutData, if_neg (by simp [hne])] at hreturn
      exact hreturn
    obtain ⟨failed, last, hpasses, hdivided⟩ := divided_of_returned hne hloop
    rw [hpasses]
    refine ⟨hdivided.assembles_iff, fun hassembles hcalls procedure params impl hparse hfresh => ?_⟩
    have hkeeps := (keepsTogether_iff failed last).mp (hdivided.assembles_iff.mp hassembles)
    split_ifs at hkeeps with hone
    · rw [hdivided.undivided hone hkeeps]
      exact commits_undivided hparse
    · exact commits_numbered hparse hfresh hcalls hdivided.chunks (hdivided.numbered hone hkeeps)

/-- 101 elements of which the first chunk of 100 is refused. They go in a chunk of 75 and one of
    26. -/
theorem division_assembles_iff_twoPasses :
    ∃ calls, divideAndPutData (refusing (· == 0)) "1" (List.replicate 101 0) false ⟨0, []⟩ =
      (.returned, calls) ∧
    (Assembles (List.replicate 101 0) calls.accepted ↔ KeepsTogether
      (passes (· == 0) (List.replicate 101 0).length 0 DEFAULT_MAX_CHUNK_SIZE)) ∧
    (Assembles (List.replicate 101 0) calls.accepted → calls.accepted ≠ [] →
      ∀ (procedure : PutProcedure) (params : PutParams Nat) (impl : GateImpl Nat),
        procedure.handler.parseErrors params = [] → impl.parts procedure "1" = [] →
        Commits procedure impl (List.replicate 101 0)
          (calls.accepted.map (Call.request procedure params))) := by
  have hreturn : divideAndPutData (refusing (· == 0)) "1" (List.replicate 101 0) false ⟨0, []⟩ =
      (.returned, ⟨3, [⟨List.replicate 75 0, some ⟨0, false, "1"⟩⟩,
        ⟨List.replicate 26 0, some ⟨1, true, "1"⟩⟩]⟩) := by
    rw [divideAndPutData, if_neg (by decide)]
    exact (divideLoop_of_overCapacity (by decide) (by decide) (by rfl)).trans
      (divideLoop_of_returned (by decide) (by decide) (by rfl))
  exact ⟨_, hreturn, division_assembles_iff _ _ _ _ _ hreturn⟩

/-- 80 elements are refused as a whole. Then they go in a chunk of 75 and one of 5, and both are
    marked as the last one. -/
theorem division_marks_two :
    ∃ calls, divideAndPutData (refusing (· == 0)) "1" (List.replicate 80 0) false ⟨0, []⟩ =
      (.returned, calls) ∧ ¬ Assembles (List.replicate 80 0) calls.accepted := by
  have hreturn : divideAndPutData (refusing (· == 0)) "1" (List.replicate 80 0) false ⟨0, []⟩ =
      (.returned, ⟨3, [⟨List.replicate 75 0, some ⟨0, true, "1"⟩⟩,
        ⟨List.replicate 5 0, some ⟨1, true, "1"⟩⟩]⟩) := by
    rw [divideAndPutData, if_neg (by decide)]
    exact (divideLoop_of_overCapacity (by decide) (by decide) (by rfl)).trans
      (divideLoop_of_returned (by decide) (by decide) (by rfl))
  refine ⟨_, hreturn, ?_⟩
  rintro (hsingle | ⟨-, requestId, hnumbered⟩)
  · cases (List.cons.inj hsingle).2
  · have hfirst := congrArg DivideInfo.isLast (Option.some.inj (hnumbered 0 _ rfl))
    cases hfirst

end Hatohol.Haplib

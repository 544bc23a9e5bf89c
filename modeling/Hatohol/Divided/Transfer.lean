import Hatohol.Divided.Parts

/-!
# A divided transfer is an undivided one

When the parts of a transfer arrive in their order, each with its serial ID, what is done with the
last one is what would have been done with a single request of all elements. Whatever else arrives
in between does not matter.
-/

namespace Hatohol

open Container Machine

variable {α : Type}

/-- A list as it is divided into parts that are all well-formed. -/
structure IsDivision (list : List α) (parts : List (Part α)) : Prop where
  nonempty : parts ≠ []
  elements : (parts.map fun part => part.params.elements).flatten = list
  wellFormed : ∀ part ∈ parts, part.errors = []
  serialId : ∀ i part, parts[i]? = some part → part.divideInfo.serialId = Int64.ofNat i
  isLast : ∀ i part, parts[i]? = some part →
    (part.divideInfo.isLast = true ↔ i + 1 = parts.length)

/-- The list that is handed to the data store. -/
def PutEffect.stored : PutEffect α → Option (List α)
  | .dataStore _ elements _ => some elements
  | .runFetchCallback _ => none
  | .runFetchHistoryCallback _ _ => none

/-- The list that is handed to one who has asked for samples. -/
def PutEffect.samples : PutEffect α → Option (List α)
  | .dataStore _ _ _ => none
  | .runFetchCallback _ => none
  | .runFetchHistoryCallback _ samples => some samples

def PutAnswer.stored (answer : PutAnswer α) : List (List α) :=
  answer.effects.filterMap PutEffect.stored

def PutAnswer.samples (answer : PutAnswer α) : List (List α) :=
  answer.effects.filterMap PutEffect.samples

theorem Part.expected_of_serialId {part : Part α} {parts : List (SerialId × List α)}
    (hserial : part.divideInfo.serialId = Int64.ofNat parts.length) : part.Expected parts := by
  rw [Part.Expected, hserial, nextSequenceId, UInt64.ofNat_add]
  rfl

/-- The whole trace of a transfer of which some parts have come already. -/
theorem PutHandler.trace_receive (handler : PutHandler α) :
    ∀ (parts : List (Part α)) (kept : List (SerialId × List α)), parts ≠ [] →
      (∀ part ∈ parts, part.errors = []) →
      (∀ i part, parts[i]? = some part →
        part.divideInfo.serialId = Int64.ofNat (kept.length + i)) →
      (∀ i part, parts[i]? = some part →
        (part.divideInfo.isLast = true ↔ i + 1 = parts.length)) →
      ∃ first last, parts = first ++ [last] ∧
        trace handler.receive kept parts = first.map (fun part => (part, ⟨.success, []⟩)) ++
          [(last, handler.finish last.params (kept.flatMap Prod.snd ++
            (parts.map fun part => part.params.elements).flatten))] ∧
        after handler.receive kept parts = [] := by
  intro parts
  induction parts with
  | nil =>
    intro kept hne
    exact absurd rfl hne
  | cons part parts ih =>
    intro kept _ hformed hserial hlast
    have hexpected : part.Expected kept :=
      Part.expected_of_serialId (hserial 0 part rfl)
    have herrors : ¬ part.errors ≠ [] := not_not.mpr (hformed part (by simp))
    cases parts with
    | nil =>
      have hisLast : part.divideInfo.isLast = true := (hlast 0 part rfl).mpr rfl
      have hreceive : handler.receive kept part = (handler.finish part.params
          (kept.flatMap Prod.snd ++ part.params.elements), []) := by
        rw [receive_expected hexpected, if_neg herrors, hisLast]
        simp
      refine ⟨[], part, rfl, ?_, ?_⟩
      · simp [trace, hreceive]
      · simp [after, hreceive]
    | cons next rest =>
      have hisLast : part.divideInfo.isLast = false := by
        apply Bool.eq_false_iff.mpr
        intro htrue
        have hlength := (hlast 0 part rfl).mp htrue
        simp at hlength
      have hreceive : handler.receive kept part = (⟨.success, []⟩,
          kept ++ [(part.divideInfo.serialId, part.params.elements)]) := by
        rw [receive_expected hexpected, if_neg herrors, hisLast]
        simp
      obtain ⟨first, last, hparts, htrace, hafter⟩ :=
        ih (kept ++ [(part.divideInfo.serialId, part.params.elements)]) (by simp)
          (fun part hmem => hformed part (by simp [hmem]))
          (fun i part hget => by
            rw [hserial (i + 1) part hget, List.length_append, List.length_singleton]
            congr 1
            omega)
          (fun i part hget => by
            rw [hlast (i + 1) part hget, List.length_cons]
            omega)
      refine ⟨part :: first, last, by rw [hparts, List.cons_append], ?_, ?_⟩
      · rw [trace, hreceive, htrace]
        simp
      · rw [after, hreceive]
        exact hafter

theorem fetchCallback_hands_nothing (params : PutParams α) :
    (fetchCallback params).filterMap PutEffect.stored = [] ∧
      (fetchCallback params).filterMap PutEffect.samples = [] := by
  unfold fetchCallback
  split
  · split
    · exact ⟨rfl, rfl⟩
    · exact ⟨rfl, rfl⟩
  · exact ⟨rfl, rfl⟩

theorem fetchHistoryCallback_hands (params : PutParams α) (list : List α) :
    (fetchHistoryCallback params list).filterMap PutEffect.stored = [] ∧
      (fetchHistoryCallback params list).filterMap PutEffect.samples =
        if params.fetchId.getD "" ≠ "" then [list] else [] := by
  unfold fetchHistoryCallback
  cases params.fetchId with
  | none => exact ⟨rfl, rfl⟩
  | some fetchId =>
    by_cases hempty : fetchId = ""
    · simp [hempty]
    · simp [hempty, PutEffect.stored, PutEffect.samples]

/-- What each procedure does with the whole list. -/
theorem handed_finish (procedure : PutProcedure) (params : PutParams α) (list : List α) :
    (procedure.handler.finish params list).stored =
      (if procedure = .putHistory then [] else [list]) ∧
    (procedure.handler.finish params list).samples =
      (if procedure = .putHistory ∧ params.fetchId.getD "" ≠ "" then [list] else []) := by
  have hnone := fetchCallback_hands_nothing params
  have hhistory := fetchHistoryCallback_hands params list
  cases procedure with
  | putItems =>
    exact ⟨congrArg (list :: ·) hnone.1, hnone.2⟩
  | putHistory =>
    refine ⟨hhistory.1, hhistory.2.trans ?_⟩
    simp
  | putHosts => exact ⟨rfl, rfl⟩
  | putHostGroups => exact ⟨rfl, rfl⟩
  | putHostGroupMembership => exact ⟨rfl, rfl⟩
  | putTriggers => exact ⟨congrArg (list :: ·) hnone.1, hnone.2⟩
  | putEvents =>
    cases hfetch : params.fetchId with
    | none => 
      simp [PutAnswer.stored, PutAnswer.samples, PutProcedure.handler, PutHandler.finish,
        PutHandler.putEvents, hfetch, PutEffect.stored, PutEffect.samples]
    | some fetchId =>
      cases hmore : params.mayMoreFlag.getD false with
      | false =>
        simp [PutAnswer.stored, PutAnswer.samples, PutProcedure.handler, PutHandler.finish,
          PutHandler.putEvents, hfetch, hmore, PutEffect.stored, PutEffect.samples]
      | true =>
        simp [PutAnswer.stored, PutAnswer.samples, PutProcedure.handler, PutHandler.finish,
          PutHandler.putEvents, hfetch, hmore, PutEffect.stored, PutEffect.samples]
  | putHostParents => exact ⟨rfl, rfl⟩

/-- The request of a well-formed part, with all elements and no `divideInfo`. -/
theorem procedureHandler_undivided {procedure : PutProcedure} {requestId : RequestId}
    {request : PutRequest α} {part : Part α}
    (hpart : request.partOf procedure requestId = some part) (herrors : part.errors = [])
    (list : List α) (impl : GateImpl α) :
    procedureHandler impl ⟨procedure, { part.params with elements := list, divideInfo := none }⟩ =
      .returned (procedure.handler.finish part.params list, impl) := by
  obtain ⟨rfl, hpart, -⟩ := PutRequest.partOf_eq_some_iff.mp hpart
  obtain ⟨object, -, rfl⟩ := Option.map_eq_some_iff.mp hpart
  have hparse : request.procedure.handler.parseErrors request.params = [] :=
    (List.append_eq_nil_iff.mp herrors).1
  rw [procedureHandler_eq, PutHandler.handle_undivided _ rfl]
  have hparse' : ¬ request.procedure.handler.parseErrors
      { request.params with elements := list, divideInfo := none } ≠ [] := not_not.mpr hparse
  rw [if_neg hparse']
  obtain ⟨procedure, params⟩ := request
  cases procedure <;> rfl

/-- All parts but the last one are kept, and with the last one the whole list is dealt with. -/
theorem run_transfer (procedure : PutProcedure) (requestId : RequestId) (list : List α)
    (requests : List (PutRequest α)) (impl : GateImpl α)
    (hfresh : impl.parts procedure requestId = [])
    (hdivision : IsDivision list (requests.filterMap (PutRequest.partOf procedure requestId))) :
    ∃ answered impl', ∃ first : List (Part α), ∃ last,
      run procedureHandler impl requests = .returned (answered, impl') ∧
      impl'.parts procedure requestId = [] ∧
      (transfer procedure requestId).restrict answered =
        first.map (fun part => (part, ⟨.success, []⟩)) ++
          [(last, procedure.handler.finish last.params list)] ∧
      last ∈ requests.filterMap (PutRequest.partOf procedure requestId) := by
  obtain ⟨answered, impl', hrun, hrestrict, hafter⟩ :=
    (transfer procedure requestId).run_eq requests impl
  have hview : (transfer procedure requestId).view impl = [] := hfresh
  rw [hview] at hrestrict hafter
  obtain ⟨first, last, hparts, htrace, hend⟩ :=
    procedure.handler.trace_receive _ [] hdivision.nonempty hdivision.wellFormed
      (fun i part hget => by
        rw [hdivision.serialId i part hget, List.length_nil, Nat.zero_add]) hdivision.isLast
  have hmem : last ∈ requests.filterMap (PutRequest.partOf procedure requestId) := by
    rw [hparts]
    simp
  rw [hdivision.elements, List.flatMap_nil, List.nil_append] at htrace
  exact ⟨answered, impl', first, last, hrun, hafter.trans hend, hrestrict.trans htrace, hmem⟩

/-- A transfer that is divided does what the same transfer does undivided: only with its last part,
    it hands the whole list to the data store. Samples go to the one who has asked for them with the
    fetch ID of the last part. -/
theorem dividedTransfer_eq_undivided (procedure : PutProcedure) (requestId : RequestId)
    (list : List α) (requests : List (PutRequest α)) (impl : GateImpl α)
    (hfresh : impl.parts procedure requestId = [])
    (hdivision : IsDivision list (requests.filterMap (PutRequest.partOf procedure requestId))) :
    ∃ answered impl', ∃ first : List (Part α), ∃ last answer,
      run procedureHandler impl requests = .returned (answered, impl') ∧
      impl'.parts procedure requestId = [] ∧
      (transfer procedure requestId).restrict answered =
        first.map (fun part => (part, ⟨.success, []⟩)) ++ [(last, answer)] ∧
      answer.response = .success ∧
      answer.stored = (if procedure = .putHistory then [] else [list]) ∧
      answer.samples =
        (if procedure = .putHistory ∧ last.params.fetchId.getD "" ≠ "" then [list] else []) ∧
      ∀ impl'' : GateImpl α, procedureHandler impl''
        ⟨procedure, { last.params with elements := list, divideInfo := none }⟩ =
          .returned (answer, impl'') := by
  obtain ⟨answered, impl', first, last, hrun, hend, hrestrict, hmem⟩ :=
    run_transfer procedure requestId list requests impl hfresh hdivision
  obtain ⟨request, -, hpart⟩ := List.mem_filterMap.mp hmem
  have hhanded := handed_finish procedure last.params list
  exact ⟨answered, impl', first, last, procedure.handler.finish last.params list, hrun, hend,
    hrestrict, rfl, hhanded.1, hhanded.2,
    procedureHandler_undivided hpart (hdivision.wellFormed last hmem) list⟩

/-- A request with one part of a transfer, that asks for nothing else. -/
def partRequest (procedure : PutProcedure) (requestId : RequestId) (serialId : SerialId)
    (isLast : Bool) (elements : List α) : PutRequest α where
  procedure := procedure
  params := {
    hasParams := true
    elements := elements
    elementErrors := []
    updateType := some "ALL"
    fetchId := none
    mayMoreFlag := none
    lastInfo := none
    divideInfo := some ⟨some isLast, some serialId, some requestId, false, 0⟩ }

/-- Two parts of items with a part of hosts between them that has the same request ID. -/
theorem dividedTransfer_eq_undivided_interleaved :
    ∃ answered impl', ∃ first : List (Part Nat), ∃ last answer,
      run procedureHandler .empty [partRequest .putItems "1" 0 false [10, 20],
        partRequest .putHosts "1" 0 false [7], partRequest .putItems "1" 1 true [30]] =
        .returned (answered, impl') ∧
      impl'.parts .putItems "1" = [] ∧
      (transfer .putItems "1").restrict answered =
        first.map (fun part => (part, ⟨.success, []⟩)) ++ [(last, answer)] ∧
      answer.response = .success ∧ answer.stored = [[10, 20, 30]] ∧ answer.samples = [] ∧
      ∀ impl'' : GateImpl Nat, procedureHandler impl''
        ⟨.putItems, { last.params with elements := [10, 20, 30], divideInfo := none }⟩ =
          .returned (answer, impl'') := by
  refine dividedTransfer_eq_undivided .putItems "1" [10, 20, 30] _ .empty rfl
    ⟨by decide, rfl, by decide, ?_, ?_⟩
  · rintro (_ | _ | i) part hget
    · obtain rfl := Option.some.inj hget
      rfl
    · obtain rfl := Option.some.inj hget
      rfl
    · cases hget
  · rintro (_ | _ | i) part hget
    · obtain rfl := Option.some.inj hget
      decide
    · obtain rfl := Option.some.inj hget
      decide
    · cases hget

/-- Samples are not handed to the data store, not even those of a whole transfer. -/
theorem putHistory_stores_nothing :
    IsDivision [5] ([partRequest .putHistory "1" 0 true [5]].filterMap
      (PutRequest.partOf .putHistory "1")) ∧
    ∃ answered impl', run procedureHandler .empty [partRequest .putHistory "1" 0 true [5]] =
      .returned (answered, impl') ∧ ∀ x ∈ answered, x.2.stored ≠ [[5]] := by
  refine ⟨⟨by decide, rfl, by decide, ?_, ?_⟩, _, _, rfl, by decide⟩
  · rintro (_ | i) part hget
    · obtain rfl := Option.some.inj hget
      rfl
    · cases hget
  · rintro (_ | i) part hget
    · obtain rfl := Option.some.inj hget
      decide
    · cases hget

end Hatohol

import Hatohol.Divided.Transfer

/-!
# Errors in a divided transfer

A part whose serial ID is not the expected one ends its transfer: nothing of it is kept. A part that
has the expected one and is answered with an error for another reason is kept like any other, so
that a later part can commit it.
-/

namespace Hatohol

open Container Machine

variable {α : Type}

/-- A part commits a list only if it is made of parts that were all answered without an error, from
    some part on up to this one. -/
def AllOrNothing (before : List (Part α × PutAnswer α)) (x : Part α × PutAnswer α) : Prop :=
  (x.2.response ≠ .success → x.2.stored = []) ∧
  (x.2.response = .success → ∀ list ∈ x.2.stored ++ x.2.samples, ∃ earlier accepted,
    before = earlier ++ accepted ∧ (∀ y ∈ accepted, y.2.response = .success) ∧
    list = ((accepted ++ [x]).map fun y => y.1.params.elements).flatten)

/-- A part that has errors does not have the expected serial ID too. -/
def Part.NotKeptWithErrors (kept : List (SerialId × List α)) (part : Part α) : Prop :=
  part.errors = [] ∨ ¬ part.Expected kept

instance (kept : List (SerialId × List α)) (part : Part α) :
    Decidable (part.NotKeptWithErrors kept) :=
  inferInstanceAs (Decidable (_ ∨ ¬ _))

/-- What is kept are parts that were all answered without an error, and nothing has come between
    them and now. -/
def Collected (t : List (Part α × PutAnswer α)) (kept : List (SerialId × List α)) : Prop :=
  ∃ earlier accepted, t = earlier ++ accepted ∧ (∀ y ∈ accepted, y.2.response = .success) ∧
    kept.map Prod.snd = accepted.map fun y => y.1.params.elements

theorem Collected.nil (t : List (Part α × PutAnswer α)) : Collected t [] :=
  ⟨t, [], by simp, by simp, rfl⟩

/-- A list that is handed over is the whole list of the request. -/
theorem eq_of_mem_handed {procedure : PutProcedure} {params : PutParams α} {list list' : List α}
    (hmem : list' ∈ (procedure.handler.finish params list).stored ++
      (procedure.handler.finish params list).samples) : list' = list := by
  obtain ⟨hstored, hsamples⟩ := handed_finish procedure params list
  rw [hstored, hsamples, List.mem_append] at hmem
  rcases hmem with hmem | hmem
  · split at hmem
    · cases hmem
    · exact List.mem_singleton.mp hmem
  · split at hmem
    · exact List.mem_singleton.mp hmem
    · cases hmem

theorem receive_allOrNothing (procedure : PutProcedure) {t : List (Part α × PutAnswer α)}
    {kept : List (SerialId × List α)} {part : Part α} (hcollected : Collected t kept)
    (hmeets : part.NotKeptWithErrors kept) :
    AllOrNothing t (part, (procedure.handler.receive kept part).1) ∧
      Collected (t ++ [(part, (procedure.handler.receive kept part).1)])
        (procedure.handler.receive kept part).2 := by
  obtain ⟨earlier, accepted, hsplit, hsuccess, hkept⟩ := hcollected
  by_cases hexpected : part.Expected kept
  · have herrors : ¬ part.errors ≠ [] :=
      not_not.mpr (hmeets.resolve_right (not_not.mpr hexpected))
    rw [PutHandler.receive_expected hexpected, if_neg herrors]
    by_cases hlast : (!part.divideInfo.isLast) = true
    · rw [if_pos hlast]
      refine ⟨⟨fun hfail => absurd rfl hfail, ?_⟩,
        earlier, accepted ++ [(part, ⟨.success, []⟩)], ?_, ?_, ?_⟩
      · intro _ list hmem
        cases hmem
      · rw [hsplit, List.append_assoc]
      · intro y hmem
        rcases List.mem_append.mp hmem with hmem | hmem
        · exact hsuccess y hmem
        · rw [List.mem_singleton.mp hmem]
      · simp [hkept]
    · rw [if_neg hlast]
      refine ⟨⟨fun hfail => absurd rfl hfail, ?_⟩, Collected.nil _⟩
      intro _ list hmem
      refine ⟨earlier, accepted, hsplit, hsuccess, ?_⟩
      rw [eq_of_mem_handed hmem, List.flatMap_append, List.map_append, List.flatten_append,
        ← hkept]
      simp [List.flatMap_def]
  · rw [PutHandler.receive_unexpected hexpected]
    refine ⟨⟨fun _ => rfl, ?_⟩, Collected.nil _⟩
    intro hsuccess
    cases hsuccess

/-- In every run in which no part that has errors carries the expected serial ID, a part commits a
    list only if all parts of the list were answered without an error. -/
theorem dividedTransfer_allOrNothing (procedure : PutProcedure) (requestId : RequestId)
    (requests : List (PutRequest α)) (impl : GateImpl α)
    (hfresh : impl.parts procedure requestId = [])
    (hmeets : Always procedureHandler (fun impl request _ =>
      ∀ part, request.partOf procedure requestId = some part →
        part.NotKeptWithErrors (impl.parts procedure requestId)) impl requests) :
    ∃ answered impl', run procedureHandler impl requests = .returned (answered, impl') ∧
      EachStep AllOrNothing ((transfer procedure requestId).restrict answered) := by
  obtain ⟨answered, impl', hrun, hrestrict, -⟩ :=
    (transfer procedure requestId).run_eq requests impl
  have hview : (transfer procedure requestId).view impl = [] := hfresh
  have hown := (transfer procedure requestId).always_own requests impl hmeets
  rw [hview] at hrestrict hown
  have hinvariant := trace_invariant procedure.handler.receive
    (fun t kept => EachStep AllOrNothing t ∧ Collected t kept)
    (fun t kept part hinv hpart => by
      obtain ⟨hstep, hcollected⟩ := receive_allOrNothing procedure hinv.2 hpart
      exact ⟨hinv.1.concat hstep, hcollected⟩)
    _ [] [] ⟨EachStep.nil _, Collected.nil _⟩ hown
  refine ⟨answered, impl', hrun, ?_⟩
  rw [hrestrict]
  exact hinvariant.1

/-- A part of a transfer in which a mandatory member of an element is missing. -/
def malformedRequest (procedure : PutProcedure) (requestId : RequestId) (serialId : SerialId)
    (isLast : Bool) (elements : List α) : PutRequest α :=
  let request := partRequest procedure requestId serialId isLast elements
  { request with
    params := { request.params with
      elementErrors := (parseAsMandatory "hostName" (none : Option String) "").2 } }

/-- A part with an error and a wrong serial ID ends its transfer, and the next one begins anew. -/
theorem dividedTransfer_allOrNothing_restarted :
    ∃ answered impl', run procedureHandler .empty [partRequest .putHosts "1" 0 false [1],
      malformedRequest .putHosts "1" 5 false [2], partRequest .putHosts "1" 0 true [3]] =
        .returned (answered, impl') ∧
      EachStep AllOrNothing ((transfer .putHosts "1").restrict answered) := by
  refine dividedTransfer_allOrNothing .putHosts "1" _ .empty rfl
    ⟨_, _, rfl, ?_, _, _, rfl, ?_, _, _, rfl, ?_, trivial⟩
  · intro part hpart
    obtain rfl := Option.some.inj hpart
    decide
  · intro part hpart
    obtain rfl := Option.some.inj hpart
    decide
  · intro part hpart
    obtain rfl := Option.some.inj hpart
    decide

/-- The first part is answered with an error, and committed with the second one. -/
theorem malformedPart_committed :
    ∃ answered impl', run procedureHandler .empty [malformedRequest .putHosts "1" 0 false [1],
      partRequest .putHosts "1" 1 true [2]] = .returned (answered, impl') ∧
      ¬ EachStep AllOrNothing ((transfer .putHosts "1").restrict answered) := by
  refine ⟨_, _, rfl, ?_⟩
  intro heach
  obtain ⟨earlier, accepted, hsplit, hsuccess, hlist⟩ :=
    (heach [_] _ [] rfl).2 rfl [1, 2] (by decide)
  cases accepted with
  | nil => exact absurd hlist (by decide)
  | cons y accepted =>
    have hy := hsuccess y (by simp)
    cases earlier with
    | nil =>
      obtain ⟨rfl, -⟩ := List.cons.inj hsplit
      cases hy
    | cons z earlier =>
      have hlength := congrArg List.length hsplit
      simp at hlength

end Hatohol

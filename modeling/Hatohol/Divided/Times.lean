import Hatohol.Divided.ResponseIds
import Hatohol.Divided.Transfer
import Hatohol.Time.Acceptance

/-!
# The times in put requests

The parse functions of four put procedures read a time in every element. The `parseTimeStamp` for a
member reports a member that is missing, and returns whether the text could be parsed, which all of
its callers ignore (HatoholArmPluginGateHAPI2.cc:1329-1379). So a text that is no time is no error,
and the element has what is left in its `timespec`.
-/

namespace Hatohol

open Machine JSONParser

/-! ## parseTimeStamp -/

/-- `parseTimeStamp` of a text, with what it leaves in `timeStamp`. -/
def parseTimeStampInto (timeStampString : List Char) (allowEmpty : Bool) : Bool × Timespec :=
  if timeStampString = [] then (allowEmpty, ⟨0, 0⟩)
  else
    match split timeStampString '.' false with
    | [time] =>
        match strptime time with
        | some (tm, _) => (true, ⟨tm.seconds, 0⟩)
        | none => (false, ⟨0, 0⟩)
    | [time, fraction] =>
        match strptime time with
        | some (tm, _) =>
            match parseNanoSeconds fraction with
            | some nsec => (true, ⟨tm.seconds, nsec⟩)
            | none => (false, ⟨tm.seconds, 0⟩)
        | none => (false, ⟨0, 0⟩)
    | _ => (false, ⟨0, 0⟩)

/-- It returns whether there is a time, and leaves that time. -/
theorem parseTimeStampInto_eq (timeStampString : List Char) (allowEmpty : Bool) :
    (parseTimeStampInto timeStampString allowEmpty).1 =
        (parseTimeStamp timeStampString allowEmpty).isSome ∧
      ∀ ts ∈ parseTimeStamp timeStampString allowEmpty,
        (parseTimeStampInto timeStampString allowEmpty).2 = ts := by
  unfold parseTimeStampInto parseTimeStamp
  by_cases hempty : timeStampString = []
  · rw [if_pos hempty, if_pos hempty]
    cases allowEmpty with
    | true => simp
    | false => simp
  · rw [if_neg hempty, if_neg hempty]
    rcases split timeStampString '.' false with _ | ⟨time, _ | ⟨fraction, _ | ⟨word, words⟩⟩⟩
    · simp
    · cases hread : strptime time with
      | none => simp [hread]
      | some read => simp [hread]
    · cases hread : strptime time with
      | none => simp [hread]
      | some read =>
        cases hnano : parseNanoSeconds fraction with
        | none => simp [hread, hnano]
        | some nsec => simp [hread, hnano]
    · simp

variable (conv : JsonConversions)

/-- `parseTimeStamp` of a member. -/
def parseTimeStampMember (member : String) (allowEmpty : Bool) :
    ParserM ((Bool × Timespec) × List String) := do
  let (timeStampString, errors) := parseAsMandatory member (← readText conv member) ""
  return (parseTimeStampInto timeStampString.toList allowEmpty, errors)

/-- For its caller, which ignores what it returns, it reads a mandatory text like any other. -/
theorem parseTimeStampMember_eq (member : String) (allowEmpty : Bool) :
    parseTimeStampMember conv member allowEmpty = do
      let field ← parseField conv (.mandatory member)
      return (parseTimeStampInto field.1.2.toList allowEmpty, field.2) := by
  unfold parseTimeStampMember parseField
  simp only [bind_assoc, pure_bind]

/-- The time of an element that has its text in a field. -/
def PutElement.timeStamp (element : PutElement) (member : String) : Timespec :=
  (parseTimeStampInto ((element.fields.lookup member).getD "").toList false).2

namespace PutProcedure

/-- The member of the elements that `parseTimeStamp` is called for (lines 1721, 1882, 2619
    and 2828). -/
def timeMember : PutProcedure → Option String
  | .putItems => some "lastValueTime"
  | .putHistory => some "time"
  | .putTriggers => some "lastChangeTime"
  | .putEvents => some "time"
  | _ => none

theorem timeMember_mem_fields {procedure : PutProcedure} {member : String}
    (hmember : procedure.timeMember = some member) :
    .mandatory member ∈ procedure.format.fields := by
  cases procedure <;> cases hmember <;> decide

end PutProcedure

/-! ## Malformed times -/

/-- The member is missing, or it is a string that is no time. -/
def JsonNode.HasMalformedTime (element : JsonNode) (member : String) : Prop :=
  match element.member member with
  | none => True
  | some (.string text) => ¬ ∃ ts, TimeStampText text.toList ts
  | some _ => False

/-- Some element of the request has a malformed time. -/
def PutProcedure.HasMalformedTime (procedure : PutProcedure) (params : JsonNode) : Prop :=
  ∃ member elements, procedure.timeMember = some member ∧
    params.member procedure.format.arrayName = some (.array elements) ∧
    ∃ element ∈ elements, element.HasMalformedTime member

/-- The answer is an error, nothing is stored, and no part of the request is kept to be stored with
    the parts that follow. -/
structure PutAnswer.Refused {α : Type} (answer : PutAnswer α) (impl impl' : GateImpl α) : Prop where
  response : answer.response ≠ .success
  stored : answer.stored = []
  kept : ∀ procedure requestId,
    (impl'.parts procedure requestId).Sublist (impl.parts procedure requestId)

/-- What the handler of a request answers and does, and the gate afterwards. -/
def PutProcedure.handleRequest (procedure : PutProcedure) (state : HandlerState)
    (request : JsonRpcRequest) :
    Except HatoholException (Outcome (PutReply × List (PutEffect PutElement) ×
      GateImpl PutElement)) :=
  (replyDivided conv procedure state.stack state.impl).run' (.new (.object request.members))

def PutProcedure.RefusesMalformedTimes (procedure : PutProcedure) (state : HandlerState)
    (request : JsonRpcRequest) : Prop :=
  procedure.HasMalformedTime (.object request.params) →
    ∃ reply effects impl',
      procedure.handleRequest conv state request = .ok (.returned (reply, effects, impl')) ∧
      PutAnswer.Refused ⟨reply.response, effects⟩ state.impl impl'

/-! ## Which requests are refused -/

section

variable {α : Type}

/-- Samples that come with errors are handed on, but they are not stored. -/
theorem stored_failure (procedure : PutProcedure) (params : PutParams α) (errors : List String) :
    (procedure.handler.failure params errors).stored = [] := by
  cases procedure with
  | putHistory => exact (fetchHistoryCallback_hands params params.elements).1
  | _ => rfl

theorem refusesSerialId_iff (procedure : PutProcedure) (impl : GateImpl α) {params : PutParams α}
    {object : DivideInfoObject} (hobject : params.divideInfo = some object) {part : Part α}
    (hpart : procedure.handler.part params = some part) :
    refusesSerialId procedure impl object = true ↔
      ¬ part.Expected (impl.parts procedure part.divideInfo.requestId) := by
  unfold PutHandler.part at hpart
  rw [hobject] at hpart
  obtain rfl := Option.some.inj hpart
  unfold refusesSerialId Part.Expected
  simp

/-- A request without a `divideInfo` is refused if it has errors, and a part only if its serial ID
    is wrong: with any other error it is kept. -/
theorem refused_iff {procedure : PutProcedure} {impl impl' : GateImpl α} {params : PutParams α}
    {answer : PutAnswer α}
    (hreturn : procedureHandler impl ⟨procedure, params⟩ = .returned (answer, impl')) :
    answer.Refused impl impl' ↔
      (params.divideInfo = none ∧ procedure.handler.parseErrors params ≠ []) ∨
        ∃ object ∈ params.divideInfo, refusesSerialId procedure impl object = true := by
  rw [procedureHandler_eq] at hreturn
  dsimp only at hreturn
  cases hobject : params.divideInfo with
  | none =>
    have hpart : procedure.handler.part params = none := Option.map_eq_none_iff.mpr hobject
    rw [procedure.handler.handle_undivided hpart impl] at hreturn
    injection hreturn with hreturn
    obtain ⟨rfl, rfl⟩ := Prod.mk.inj hreturn
    by_cases herrors : procedure.handler.parseErrors params ≠ []
    · rw [if_pos herrors]
      exact iff_of_true ⟨nofun, stored_failure _ _ _, fun _ _ => List.Sublist.refl _⟩
        (.inl ⟨rfl, herrors⟩)
    · rw [if_neg herrors]
      refine iff_of_false (fun hrefused => hrefused.response rfl) ?_
      rintro (⟨-, hsome⟩ | ⟨object, hmem, -⟩)
      · exact herrors hsome
      · cases hmem
  | some object =>
    obtain ⟨part, hpart⟩ : ∃ part, procedure.handler.part params = some part :=
      ⟨_, congrArg (Option.map _) hobject⟩
    obtain ⟨impl'', hhandle, hkept, hother, -⟩ := procedure.handler.handle_part hpart impl
    rw [hhandle] at hreturn
    injection hreturn with hreturn
    obtain ⟨rfl, rfl⟩ := Prod.mk.inj hreturn
    have hserial := refusesSerialId_iff procedure impl hobject hpart
    rw [PutProcedure.handler_procedure] at hkept hother ⊢
    set parts := impl.parts procedure part.divideInfo.requestId
    have hright : ((some object = none ∧ procedure.handler.parseErrors params ≠ []) ∨
        ∃ object' ∈ some object, refusesSerialId procedure impl object' = true) ↔
          ¬ part.Expected parts := by
      rw [← hserial]
      simp
    rw [hright]
    by_cases hexpected : part.Expected parts
    · refine iff_of_false (fun hrefused => ?_) (not_not.mpr hexpected)
      by_cases herrors : part.errors ≠ []
      · -- the part is there once more than before
        have hsublist := hrefused.kept procedure part.divideInfo.requestId
        rw [hkept, PutHandler.receive_expected hexpected, if_pos herrors] at hsublist
        have hlength : _ ≤ parts.length := hsublist.length_le
        rw [List.length_append, List.length_singleton] at hlength
        omega
      · refine hrefused.response ?_
        rw [PutHandler.receive_expected hexpected, if_neg herrors]
        split
        · rfl
        · rfl
    · refine iff_of_true ?_ hexpected
      rw [PutHandler.receive_unexpected hexpected] at hkept ⊢
      refine ⟨nofun, rfl, fun procedure' requestId' => ?_⟩
      by_cases heq : (procedure', requestId') = (procedure, part.divideInfo.requestId)
      · obtain ⟨rfl, rfl⟩ := Prod.mk.inj heq
        rw [hkept]
        exact List.nil_sublist _
      · rw [hother _ _ heq]

end

/-- Either the request is a part with a wrong serial ID, or it is not divided, and a member that is
    mandatory is missing. What is behind the elements is read where the parse function has left the
    cursor. -/
def PutProcedure.FindsError (procedure : PutProcedure) (state : HandlerState) (params : JsonNode) :
    Prop :=
  let left := (procedure.format.stuckElement params).getD params
  left.HasWrongSerialId conv procedure state ∨
    (left.member "divideInfo" = none ∧
      ¬ (procedure.format.Complete params ∧ procedure.FindsUpdateType left))

/-- The lack of a time is an error of a request that is not divided. -/
theorem findsError_of_missing {procedure : PutProcedure} {state : HandlerState}
    {params element : JsonNode} {member : String} {elements : List JsonNode}
    (htime : procedure.timeMember = some member)
    (helements : params.member procedure.format.arrayName = some (.array elements))
    (hmem : element ∈ elements) (hmissing : element.member member = none)
    (hundivided :
      ((procedure.format.stuckElement params).getD params).member "divideInfo" = none) :
    procedure.FindsError conv state params := by
  refine .inr ⟨hundivided, fun ⟨hcomplete, _⟩ => ?_⟩
  obtain ⟨-, -, helement⟩ := (ElementsFormat.complete_iff helements).mp hcomplete
  have hfield : .mandatory member ∈ procedure.format.fields ++ procedure.format.fieldsAfter :=
    List.mem_append_left _ (PutProcedure.timeMember_mem_fields htime)
  have hthere : (element.member member).isSome = true := (helement element hmem).2 _ hfield
  rw [hmissing] at hthere
  cases hthere

/-- A request is refused if one of these errors is found, and for no other reason. -/
theorem handleRequest_eq (procedure : PutProcedure) (state : HandlerState)
    (request : JsonRpcRequest) :
    ∃ reply effects impl',
      procedure.handleRequest conv state request = .ok (.returned (reply, effects, impl')) ∧
      (PutAnswer.Refused ⟨reply.response, effects⟩ state.impl impl' ↔
        procedure.FindsError conv state (.object request.params)) := by
  have hparams : (JsonNode.object request.members).member "params" =
      some (.object request.params) := request.params_member
  obtain ⟨read, answer, impl', path, hfrom, hreturn, hreply⟩ :=
    runs_replyDivided conv procedure state.stack state.impl hparams
  refine ⟨_, _, impl', hreply.run'_new, ?_⟩
  have hnone : read.divideInfo = none ↔ (((procedure.format.stuckElement
      (.object request.params)).getD (.object request.params)).member "divideInfo" = none) := by
    rw [hfrom.divideInfo]
    exact Option.map_eq_none_iff
  have hrefused : answer.Refused state.impl impl' ↔
      (read.divideInfo = none ∧ procedure.handler.parseErrors read ≠ []) ∨
        ∃ object ∈ read.divideInfo, refusesSerialId procedure state.impl object = true :=
    refused_iff hreturn
  rw [hnone, Ne, hfrom.parseErrors, hfrom.divideInfo, or_comm] at hrefused
  exact hrefused

theorem PutProcedure.refusesMalformedTimes_iff (procedure : PutProcedure) (state : HandlerState)
    (request : JsonRpcRequest) :
    procedure.RefusesMalformedTimes conv state request ↔
      (procedure.HasMalformedTime (.object request.params) →
        procedure.FindsError conv state (.object request.params)) := by
  obtain ⟨reply, effects, impl', hhandle, hrefused⟩ := handleRequest_eq conv procedure state request
  unfold RefusesMalformedTimes
  refine imp_congr_right fun _ => ?_
  rw [hhandle, ← hrefused]
  constructor
  · rintro ⟨reply', effects', impl'', heq, hrefuses⟩
    injection heq with heq
    injection heq with heq
    cases heq
    exact hrefuses
  · intro hrefuses
    exact ⟨reply, effects, impl', rfl, hrefuses⟩

/-! ## A trigger without a time -/

/-- All the members of the trigger are there, and `lastChangeTime` is no time. -/
def notATimeRequest : JsonRpcRequest := requestOf [("updateType", .string "UPDATED"),
  ("triggers", .array [.object [("triggerId", .string "1"), ("status", .string "NG"),
    ("severity", .string "INFO"), ("lastChangeTime", .string "yesterday"),
    ("hostId", .string "1"), ("hostName", .string "host"), ("brief", .string "cpu"),
    ("extendedInfo", .string "")]])]

theorem hasMalformedTime_notATimeRequest :
    PutProcedure.putTriggers.HasMalformedTime (.object notATimeRequest.params) := by
  refine ⟨"lastChangeTime", _, rfl, rfl, _, List.mem_singleton_self _, ?_⟩
  rintro ⟨ts, htext⟩
  have hnone : parseTimeStamp "yesterday".toList false = none := by decide
  have hsome : parseTimeStamp "yesterday".toList false = some ts := htext.parseTimeStamp
  rw [hnone] at hsome
  cases hsome

/-- The trigger is stored with the time 0. -/
theorem not_refusesMalformedTimes_trigger :
    ¬ PutProcedure.putTriggers.RefusesMalformedTimes plainConversions .initial notATimeRequest ∧
    ∃ reply effects impl' trigger, PutProcedure.putTriggers.handleRequest plainConversions .initial
        notATimeRequest = .ok (.returned (reply, effects, impl')) ∧
      reply.response = .success ∧
      (⟨reply.response, effects⟩ : PutAnswer PutElement).stored = [[trigger]] ∧
      trigger.timeStamp "lastChangeTime" = ⟨0, 0⟩ := by
  refine ⟨fun hrefuses => ?_, _, _, _, _, rfl, rfl, rfl, rfl⟩
  obtain ⟨reply, effects, impl', hhandle, hrefused⟩ := hrefuses hasMalformedTime_notATimeRequest
  injection hhandle with hhandle
  injection hhandle with hhandle
  cases hhandle
  exact hrefused.response rfl

end Hatohol

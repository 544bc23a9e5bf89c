import Hatohol.Divided.Parsing
import Hatohol.Divided.Parts
import Hatohol.ArmBase

/-!
# The IDs of the responses to put requests

The response to a request is built with the parser that the request has been read with, and
`setResponseId` takes the ID from the node where the cursor is. It is that of the request if the
cursor is back at the root (HatoholArmPluginInterfaceHAPI2.cc:592-653).
-/

namespace Hatohol

open Machine JSONParser

variable (conv : JsonConversions)

/-- The ID that `setResponseId` adds to a response. -/
def setResponseId : ParserM JsonNode := do
  match ← getValueType "id" with
  | .int64 => return ((← JSONParser.read conv.getInt "id").map JsonNode.int).getD .null
  | .string => return ((← readText conv "id").map JsonNode.string).getD .null
  | _ => return .null

/-- What stands in the `DivideInfo` on the stack of a handler. -/
structure DivideInfoStack where
  isLast : Bool
  serialId : SerialId

def readDivideInfo (stack : DivideInfoStack) : ParserM (Option DivideInfoObject) := do
  if ← isMember "divideInfo" then
    let _ ← startObject "divideInfo"
    let isLast ← JSONParser.read conv.getBoolean "isLast"
    let serialId ← JSONParser.read conv.getInt "serialId"
    let requestId ← readText conv "requestId"
    endObject
    return some ⟨isLast, serialId, requestId, stack.isLast, stack.serialId⟩
  else return none

/-- `read` of a member that only some procedures have. -/
def readIf {β : Type} (reads : Bool) (m : ParserM (Option β)) : ParserM (Option β) :=
  if reads then m else return none

/-- What the handler of a divided procedure reads. -/
def readPutParams (procedure : PutProcedure) (stack : DivideInfoStack) :
    ParserM (PutParams PutElement) := do
  let hasParams ← isMember "params"
  let _ ← startObject "params"
  let (elements, elementErrors) ← procedure.format.parse conv
  let updateType ← readIf (procedure.handler (α := PutElement)).readsUpdateType
    (readText conv "updateType")
  let fetchId ← readIf procedure.readsFetchId (readIfMember conv.getText "fetchId")
  let mayMoreFlag ← readIf (procedure = .putEvents && fetchId.isSome)
    (readIfMember conv.getBoolean "mayMoreFlag")
  let lastInfo ← readIf procedure.readsLastInfo (readIfMember conv.getText "lastInfo")
  let divideInfo ← readDivideInfo conv stack
  return { hasParams, elements, elementErrors, updateType, fetchId, mayMoreFlag, lastInfo,
           divideInfo }

/-- What `readDivideInfo` reads in a node. -/
def JsonNode.divideInfo (stack : DivideInfoStack) (node : JsonNode) : Option DivideInfoObject :=
  (node.member "divideInfo").map fun object =>
    ⟨(object.member "isLast").map conv.getBoolean, (object.member "serialId").map conv.getInt,
      (object.member "requestId").map conv.getText, stack.isLast, stack.serialId⟩

/-- The part has not the serial ID that comes after the parts that are kept. -/
def refusesSerialId {α : Type} (procedure : PutProcedure) (impl : GateImpl α)
    (object : DivideInfoObject) : Bool :=
  let divideInfo := (parseDivideInfo object).1
  divideInfo.serialId.toUInt64 + 1 ≠ nextSequenceId (impl.parts procedure divideInfo.requestId)

/-- A response has an ID and says how the request was taken. -/
structure PutReply where
  id : JsonNode
  response : PutResponse

/-- A handler of a divided procedure. It leaves the parameters, unless the serial ID is wrong. -/
def replyDivided (procedure : PutProcedure) (stack : DivideInfoStack) (impl : GateImpl PutElement) :
    ParserM (Outcome (PutReply × List (PutEffect PutElement) × GateImpl PutElement)) := do
  let params ← readPutParams conv procedure stack
  if !params.divideInfo.any (refusesSerialId procedure impl) then endObject
  let id ← setResponseId conv
  return do
    let (answer, impl) ← procedureHandler impl ⟨procedure, params⟩
    return (⟨id, answer.response⟩, answer.effects, impl)

/-! ## `putArmInfo`, which is never divided -/

/-- The times are kept as texts. -/
structure ArmInfo where
  running : Bool
  stat : ArmWorkingStatus
  failureComment : String
  lastSuccessTime : String
  lastFailureTime : String
  numUpdate : UInt64
  numFailure : UInt64
  deriving DecidableEq

/-- A status that is not known is a failure that leaves `running` as it was. -/
def parseArmStatus (running : Bool) (status : String) : Bool × ArmWorkingStatus :=
  if status = "INIT" then (running, .init)
  else if status = "OK" then (true, .ok)
  else if status = "NG" then (false, .failure)
  else (running, .failure)

/-- The numbers that are missing are not initialised, and the information is not used then. -/
def parseArmInfoParams (running : Bool) : ParserM (ArmInfo × List String) := do
  let (status, errors₁) := parseAsMandatory "lastStatus" (← readText conv "lastStatus") ""
  let (failureComment, errors₂) :=
    parseAsMandatory "failureReason" (← readText conv "failureReason") ""
  let (lastSuccessTime, errors₃) :=
    parseAsMandatory "lastSuccessTime" (← readText conv "lastSuccessTime") ""
  let (lastFailureTime, errors₄) :=
    parseAsMandatory "lastFailureTime" (← readText conv "lastFailureTime") ""
  let (numSuccess, errors₅) :=
    parseAsMandatory "numSuccess" (← JSONParser.read conv.getInt "numSuccess") 0
  let (numFailure, errors₆) :=
    parseAsMandatory "numFailure" (← JSONParser.read conv.getInt "numFailure") 0
  let (running, stat) := parseArmStatus running status
  return ({ running, stat, failureComment, lastSuccessTime, lastFailureTime,
            numUpdate := numSuccess.toUInt64, numFailure := numFailure.toUInt64 },
    errors₁ ++ errors₂ ++ errors₃ ++ errors₄ ++ errors₅ ++ errors₆)

/-- What `procedureHandlerPutArmInfo` does: the information that is set, and the text of the event
    that is saved. -/
structure ArmInfoEffects where
  armInfo : Option ArmInfo
  event : Option String

/-- What the handler does after it has read the request. -/
def takeArmInfo (armInfo : ArmInfo) (errors : List String) : PutResponse × ArmInfoEffects :=
  if errors ≠ [] then (.invalidParams errors, ⟨none, none⟩)
  else
    let reason := if armInfo.failureComment = "" then "Unknown reason" else armInfo.failureComment
    let event := if armInfo.stat = .failure then some ("Plugin Error: " ++ reason) else none
    (.success, ⟨some armInfo, event⟩)

def replyArmInfo (running : Bool) : ParserM (PutReply × ArmInfoEffects) := do
  let hasParams ← isMember "params"
  let _ ← startObject "params"
  let (armInfo, errors) ← parseArmInfoParams conv running
  endObject
  let id ← setResponseId conv
  let (response, effects) := takeArmInfo armInfo (checkMandatoryParamsExistence hasParams ++ errors)
  return (⟨id, response⟩, effects)

/-! ## The requests and their responses -/

inductive PutMethod where
  | divided (procedure : PutProcedure)
  | putArmInfo
  deriving DecidableEq

/-- What a handler reads beside the request. -/
structure HandlerState where
  stack : DivideInfoStack
  impl : GateImpl PutElement
  running : Bool

/-- The response of a handler. -/
def PutMethod.reply (method : PutMethod) (state : HandlerState) : ParserM (Outcome PutReply) :=
  match method with
  | .divided procedure => do
      let outcome ← replyDivided conv procedure state.stack state.impl
      return do return (← outcome).1
  | .putArmInfo => return .returned (← replyArmInfo conv state.running).1

/-- A request for a put procedure with a valid ID. -/
structure JsonRpcRequest where
  members : List (String × JsonNode)
  id : JsonNode
  params : List (String × JsonNode)
  id_member : members.lookup "id" = some id
  id_valid : id.valueType = .int64 ∨ id.valueType = .string
  params_member : members.lookup "params" = some (.object params)

/-! ## What the handlers do with the cursor -/

section

variable {node : JsonNode} {up : List JsonNode}

/-- The ID that a response gets at a node. -/
def JsonNode.responseId (node : JsonNode) : JsonNode :=
  match node.member "id" with
  | some (.int n) => .int n
  | some (.string s) => .string s
  | _ => .null

theorem runs_setResponseId :
    Runs (setResponseId conv) (node :: up) node.responseId (node :: up) := by
  have htype : Runs (getValueType "id") (node :: up) (node.memberType "id") (node :: up) :=
    runs_getValueType "id"
  have hint : Runs (JSONParser.read conv.getInt "id") (node :: up)
      ((node.member "id").map conv.getInt) (node :: up) := runs_read _ _
  have htext : Runs (readText conv "id") (node :: up) ((node.member "id").map conv.getText)
      (node :: up) := runs_readText conv _
  refine htype.bind ?_
  unfold JsonNode.memberType JsonNode.responseId
  cases hmember : node.member "id" with
  | none => exact runs_pure _ _
  | some child =>
    rw [hmember] at hint htext
    cases child with
    | int n =>
      refine hint.bind ?_
      rw [Option.map_some, conv.getInt_int]
      exact runs_pure _ _
    | string s =>
      refine htext.bind ?_
      rw [Option.map_some, JsonConversions.getText, conv.getString_string]
      exact runs_pure _ _
    | _ => exact runs_pure _ _

theorem runs_readDivideInfo (stack : DivideInfoStack) :
    Runs (readDivideInfo conv stack) (node :: up) (node.divideInfo conv stack) (node :: up) := by
  refine (runs_isMember "divideInfo").bind ?_
  unfold JsonNode.divideInfo
  cases hmember : node.member "divideInfo" with
  | none => exact runs_pure _ _
  | some object =>
    exact (runs_startObject hmember).bind ((runs_read _ _).bind ((runs_read _ _).bind
      ((runs_readText conv _).bind (runs_endObject.bind (runs_pure _ _)))))

theorem stays_readIf {β : Type} {reads : Bool} {m : ParserM (Option β)}
    (hm : Stays m (node :: up)) : Stays (readIf reads m) (node :: up) := by
  cases reads with
  | true => exact hm
  | false => exact stays_pure _ _

theorem format_limit (procedure : PutProcedure) :
    procedure.format.limit = none ∨ procedure.format.texts = none := by
  cases procedure
  case putEvents => exact .inr rfl
  all_goals exact .inl rfl

theorem leaves_eq_cons (format : ElementsFormat) (params : JsonNode) (up : List JsonNode) :
    ∃ up', format.leaves params up = (format.stuckElement params).getD params :: up' := by
  cases hstuck : format.stuckElement params with
  | none => exact ⟨up, ElementsFormat.leaves_of_none hstuck⟩
  | some element =>
    obtain ⟨elements, hleaves⟩ := ElementsFormat.leaves_of_some hstuck
    exact ⟨_, hleaves up⟩

/-- The update type is there where it is mandatory. -/
def PutProcedure.FindsUpdateType (procedure : PutProcedure) (node : JsonNode) : Prop :=
  (procedure.handler (α := PutElement)).readsUpdateType = true → (node.member "updateType").isSome

theorem parseUpdateType_errors (updateType : Option String) :
    (parseUpdateType updateType).2 = [] ↔ updateType.isSome := by
  cases updateType with
  | none => exact iff_of_false (List.cons_ne_nil _ _) Bool.false_ne_true
  | some text => exact iff_of_true rfl rfl

/-- What is known of the parameters that are read: which `divideInfo` they have, and whether there
    are errors in front of it. -/
structure PutParams.ReadFrom (procedure : PutProcedure) (stack : DivideInfoStack) (params : JsonNode)
    (read : PutParams PutElement) : Prop where
  divideInfo : read.divideInfo =
    ((procedure.format.stuckElement params).getD params).divideInfo conv stack
  parseErrors : procedure.handler.parseErrors read = [] ↔ procedure.format.Complete params ∧
    procedure.FindsUpdateType ((procedure.format.stuckElement params).getD params)

/-- All that is read after the elements is read where the parse function has left the cursor. -/
theorem runs_readPutParams (procedure : PutProcedure) (stack : DivideInfoStack)
    {root params : JsonNode} (hparams : root.member "params" = some params) :
    ∃ read, Runs (readPutParams conv procedure stack) [root] read
        (procedure.format.leaves params [root]) ∧
      PutParams.ReadFrom conv procedure stack params read := by
  obtain ⟨parsed, errors, hparse, herrors⟩ : ∃ parsed errors, Runs (procedure.format.parse conv)
      [params, root] (parsed, errors) (procedure.format.leaves params [root]) ∧
      (errors = [] ↔ procedure.format.Complete params) :=
    ElementsFormat.runs_parse conv (format_limit procedure)
  obtain ⟨up', hleaves⟩ := leaves_eq_cons procedure.format params [root]
  set left := (procedure.format.stuckElement params).getD params
  rw [hleaves] at hparse ⊢
  have hmember {β : Type} (reads : Bool) (convert : JsonNode → β) (name : String) :
      Stays (readIf reads (readIfMember convert name)) (left :: up') :=
    stays_readIf (runs_readIfMember convert name).stays
  have hupdateType : Runs (readIf (procedure.handler (α := PutElement)).readsUpdateType
      (readText conv "updateType")) (left :: up')
      (if (procedure.handler (α := PutElement)).readsUpdateType then
        (left.member "updateType").map conv.getText else none) (left :: up') := by
    unfold readIf
    split
    · exact runs_readText conv _
    · exact runs_pure _ _
  obtain ⟨fetchId, hfetchId⟩ := hmember procedure.readsFetchId conv.getText "fetchId"
  obtain ⟨mayMoreFlag, hmayMoreFlag⟩ := hmember (procedure = .putEvents && fetchId.isSome)
    conv.getBoolean "mayMoreFlag"
  obtain ⟨lastInfo, hlastInfo⟩ := hmember procedure.readsLastInfo conv.getText "lastInfo"
  refine ⟨_, (runs_isMember "params").bind ((runs_startObject hparams).bind (hparse.bind
    (hupdateType.bind (hfetchId.bind (hmayMoreFlag.bind (hlastInfo.bind
      ((runs_readDivideInfo conv stack).bind (runs_pure _ _)))))))), rfl, ?_⟩
  change _ ↔ procedure.format.Complete params ∧ procedure.FindsUpdateType left
  unfold PutHandler.parseErrors PutProcedure.FindsUpdateType
  dsimp only
  rw [hparams, List.append_eq_nil_iff, List.append_eq_nil_iff, herrors]
  cases (procedure.handler (α := PutElement)).readsUpdateType with
  | true => simp [checkMandatoryParamsExistence, parseUpdateType_errors]
  | false => simp [checkMandatoryParamsExistence]

theorem stays_parseArmInfoParams (running : Bool) :
    Stays (parseArmInfoParams conv running) (node :: up) :=
  (runs_readText conv _).stays.bind fun _ => (runs_readText conv _).stays.bind fun _ =>
    (runs_readText conv _).stays.bind fun _ => (runs_readText conv _).stays.bind fun _ =>
      (runs_read _ _).stays.bind fun _ => (runs_read _ _).stays.bind fun _ => stays_pure _ _

theorem runs_replyArmInfo (running : Bool) {root params : JsonNode}
    (hparams : root.member "params" = some params) :
    ∃ response effects, Runs (replyArmInfo conv running) [root]
      (⟨root.responseId, response⟩, effects) [root] := by
  obtain ⟨parsed, hparse⟩ : Stays (parseArmInfoParams conv running) [params, root] :=
    stays_parseArmInfoParams conv running
  exact ⟨_, _, (runs_isMember "params").bind ((runs_startObject hparams).bind (hparse.bind
    (runs_endObject.bind ((runs_setResponseId conv).bind (runs_pure _ _)))))⟩

/-- The ID of the response of a divided procedure. A serial ID that is wrong has it read where the
    parse function has left the cursor. -/
def PutProcedure.responseId (procedure : PutProcedure) (stack : DivideInfoStack)
    (impl : GateImpl PutElement) (root params : JsonNode) : JsonNode :=
  let stuck := procedure.format.stuckElement params
  if ((stuck.getD params).divideInfo conv stack).any (refusesSerialId procedure impl) then
    (stuck.getD params).responseId
  else if stuck.isSome then .null
  else root.responseId

/-- The ID is read where the cursor is when the handler has left the parameters or not. -/
theorem runs_replyDivided_at {procedure : PutProcedure} {stack : DivideInfoStack}
    {root left : JsonNode} {up' : List JsonNode} {read : PutParams PutElement}
    {impl impl' : GateImpl PutElement} {answer : PutAnswer PutElement}
    (hread : Runs (readPutParams conv procedure stack) [root] read (left :: up'))
    (hreturn : procedureHandler impl ⟨procedure, read⟩ = .returned (answer, impl'))
    (hcursor : (if read.divideInfo.any (refusesSerialId procedure impl) then left :: up' else up') =
      node :: up) :
    Runs (replyDivided conv procedure stack impl) [root]
      (.returned (⟨node.responseId, answer.response⟩, answer.effects, impl')) (node :: up) := by
  have hid : Runs (setResponseId conv) (node :: up) node.responseId (node :: up) :=
    runs_setResponseId conv
  refine hread.bind ?_
  rw [hreturn]
  cases hrefuses : read.divideInfo.any (refusesSerialId procedure impl) with
  | true =>
    rw [hrefuses, if_pos rfl] at hcursor
    rw [hcursor]
    exact hid.bind (runs_pure _ _)
  | false =>
    rw [hrefuses, if_neg Bool.false_ne_true] at hcursor
    rw [hcursor]
    exact runs_endObject.bind (hid.bind (runs_pure _ _))

/-- The handler is run on what is read, and its answer is sent with an ID. -/
theorem runs_replyDivided (procedure : PutProcedure) (stack : DivideInfoStack)
    (impl : GateImpl PutElement) {root params : JsonNode}
    (hparams : root.member "params" = some params) :
    ∃ read answer impl' path, PutParams.ReadFrom conv procedure stack params read ∧
      procedureHandler impl ⟨procedure, read⟩ = .returned (answer, impl') ∧
      Runs (replyDivided conv procedure stack impl) [root]
        (.returned (⟨procedure.responseId conv stack impl root params, answer.response⟩,
          answer.effects, impl')) path := by
  obtain ⟨read, hread, hfrom⟩ := runs_readPutParams conv procedure stack hparams
  obtain ⟨answer, impl', hreturn⟩ := procedureHandler_returns impl ⟨procedure, read⟩
  obtain ⟨left, up', node, up, hleaves, hcursor, hid⟩ : ∃ left up' node up,
      procedure.format.leaves params [root] = left :: up' ∧
      (if read.divideInfo.any (refusesSerialId procedure impl) then left :: up' else up') =
        node :: up ∧ node.responseId = procedure.responseId conv stack impl root params := by
    unfold PutProcedure.responseId
    dsimp only
    rw [← hfrom.divideInfo]
    cases hstuck : procedure.format.stuckElement params with
    | none =>
      rw [ElementsFormat.leaves_of_none hstuck]
      cases read.divideInfo.any (refusesSerialId procedure impl) with
      | true => exact ⟨_, _, _, _, rfl, rfl, rfl⟩
      | false => exact ⟨_, _, _, _, rfl, rfl, rfl⟩
    | some element =>
      obtain ⟨elements, hleaves⟩ := ElementsFormat.leaves_of_some hstuck
      rw [hleaves]
      cases read.divideInfo.any (refusesSerialId procedure impl) with
      | true => exact ⟨_, _, _, _, rfl, rfl, rfl⟩
      | false => exact ⟨_, _, _, _, rfl, rfl, rfl⟩
  rw [hleaves] at hread
  have hreply := runs_replyDivided_at conv hread hreturn hcursor
  rw [hid] at hreply
  exact ⟨read, answer, impl', _, hfrom, hreturn, hreply⟩

end

/-- The response to a request. -/
def PutMethod.respond (method : PutMethod) (state : HandlerState) (request : JsonRpcRequest) :
    Except HatoholException (Outcome PutReply) :=
  (method.reply conv state).run' (.new (.object request.members))

/-- The response has exactly the ID of the request. -/
def PutMethod.KeepsId (method : PutMethod) (state : HandlerState) (request : JsonRpcRequest) :
    Prop :=
  ∃ response, method.respond conv state request = .ok (.returned ⟨request.id, response⟩)

/-- The serial ID that is read from the `divideInfo` of a node is not the one that comes next. -/
def JsonNode.HasWrongSerialId (procedure : PutProcedure) (state : HandlerState) (node : JsonNode) :
    Prop :=
  ∃ object ∈ node.divideInfo conv state.stack, refusesSerialId procedure state.impl object = true

/-- Either nothing is left open, and the serial ID is not wrong, or the node where the handler has
    stopped has the ID of the request itself. -/
def PutMethod.FindsId (method : PutMethod) (state : HandlerState) (request : JsonRpcRequest) :
    Prop :=
  match method with
  | .divided procedure =>
      match procedure.format.stuckElement (.object request.params) with
      | none => (JsonNode.object request.params).HasWrongSerialId conv procedure state →
          request.params.lookup "id" = some request.id
      | some element => element.HasWrongSerialId conv procedure state ∧
          element.member "id" = some request.id
  | .putArmInfo => True

theorem JsonRpcRequest.id_ne_null (request : JsonRpcRequest) : request.id ≠ .null := by
  intro hnull
  have hvalid := request.id_valid
  rw [hnull] at hvalid
  rcases hvalid with hint | hstring
  · cases hint
  · cases hstring

theorem JsonRpcRequest.responseId_eq_iff (request : JsonRpcRequest) (node : JsonNode) :
    node.responseId = request.id ↔ node.member "id" = some request.id := by
  have hvalid := request.id_valid
  have hnull := request.id_ne_null
  unfold JsonNode.responseId
  constructor
  · intro hid
    split at hid
    case h_1 n hmember => rw [hmember, ← hid]
    case h_2 s hmember => rw [hmember, ← hid]
    case h_3 => exact absurd hid.symm hnull
  · intro hmember
    rw [hmember]
    cases hid : request.id with
    | int n => rfl
    | string s => rfl
    | _ => simp [hid, JsonNode.valueType] at hvalid

theorem JsonRpcRequest.responseId_root (request : JsonRpcRequest) :
    (JsonNode.object request.members).responseId = request.id :=
  (request.responseId_eq_iff _).mpr request.id_member

theorem hasWrongSerialId_iff (procedure : PutProcedure) (state : HandlerState) (node : JsonNode) :
    node.HasWrongSerialId conv procedure state ↔
      (node.divideInfo conv state.stack).any (refusesSerialId procedure state.impl) = true := by
  unfold JsonNode.HasWrongSerialId
  cases node.divideInfo conv state.stack with
  | none => simp
  | some object => simp

/-- A response is sent whatever the parameters are. -/
theorem PutMethod.respond_divided (procedure : PutProcedure) (state : HandlerState)
    (request : JsonRpcRequest) :
    ∃ response, (PutMethod.divided procedure).respond conv state request = .ok (.returned
      ⟨procedure.responseId conv state.stack state.impl (.object request.members)
        (.object request.params), response⟩) := by
  have hparams : (JsonNode.object request.members).member "params" =
      some (.object request.params) := request.params_member
  obtain ⟨read, answer, impl', path, -, -, hreply⟩ :=
    runs_replyDivided conv procedure state.stack state.impl hparams
  have hrun : Runs ((PutMethod.divided procedure).reply conv state) [.object request.members]
      (.returned ⟨_, answer.response⟩) path := hreply.bind (runs_pure _ path)
  exact ⟨answer.response, hrun.run'_new⟩

theorem PutMethod.respond_putArmInfo (state : HandlerState) (request : JsonRpcRequest) :
    ∃ response, PutMethod.putArmInfo.respond conv state request =
      .ok (.returned ⟨request.id, response⟩) := by
  have hparams : (JsonNode.object request.members).member "params" =
      some (.object request.params) := request.params_member
  obtain ⟨response, effects, hreply⟩ := runs_replyArmInfo conv state.running hparams
  rw [request.responseId_root] at hreply
  have hrun : Runs (PutMethod.putArmInfo.reply conv state) [.object request.members]
      (.returned ⟨request.id, response⟩) [.object request.members] := hreply.bind (runs_pure _ _)
  exact ⟨response, hrun.run'_new⟩

/-- The response has the ID of the request if and only if the handler finds it. -/
theorem keepsId_iff (method : PutMethod) (state : HandlerState) (request : JsonRpcRequest) :
    method.KeepsId conv state request ↔ method.FindsId conv state request := by
  cases method with
  | putArmInfo =>
    obtain ⟨response, hrespond⟩ := PutMethod.respond_putArmInfo conv state request
    exact iff_of_true ⟨response, hrespond⟩ trivial
  | divided procedure =>
    obtain ⟨response, hrespond⟩ := PutMethod.respond_divided conv procedure state request
    have hkeeps : (PutMethod.divided procedure).KeepsId conv state request ↔
        procedure.responseId conv state.stack state.impl (.object request.members)
          (.object request.params) = request.id := by
      unfold PutMethod.KeepsId
      rw [hrespond]
      constructor
      · rintro ⟨response', heq⟩
        injection heq with heq
        injection heq with heq
        injection heq
      · intro hid
        rw [hid]
        exact ⟨response, rfl⟩
    rw [hkeeps]
    unfold PutMethod.FindsId PutProcedure.responseId
    dsimp only
    cases procedure.format.stuckElement (.object request.params) with
    | none =>
      dsimp only
      rw [hasWrongSerialId_iff, Option.getD_none]
      split
      case isTrue hrefuses =>
        rw [request.responseId_eq_iff]
        exact ⟨fun hid _ => hid, fun hfinds => hfinds hrefuses⟩
      case isFalse hrefuses =>
        exact iff_of_true request.responseId_root fun hwrong => absurd hwrong hrefuses
    | some element =>
      dsimp only
      rw [hasWrongSerialId_iff, Option.getD_some]
      split
      case isTrue hrefuses =>
        rw [request.responseId_eq_iff]
        exact (and_iff_right hrefuses).symm
      case isFalse hrefuses =>
        exact iff_of_false request.id_ne_null.symm fun hwrong => hrefuses hwrong.1

/-! ## Two requests whose ID is lost -/

/-- The conversions of the values that stand in these requests. -/
def plainConversions : JsonConversions where
  getBoolean
    | .boolean value => value
    | _ => false
  getInt
    | .int value => value
    | _ => 0
  getString
    | .string value => some value
    | _ => none
  getInt_int _ := rfl
  getString_string _ := rfl

def requestOf (params : List (String × JsonNode)) : JsonRpcRequest where
  members := [("jsonrpc", .string "2.0"), ("id", .int 1), ("params", .object params)]
  id := .int 1
  params := params
  id_member := rfl
  id_valid := .inl rfl
  params_member := rfl

/-- A gate that has not got a request yet. -/
def HandlerState.initial : HandlerState := ⟨⟨false, 0⟩, .empty, false⟩

def wrongSerialIdRequest : JsonRpcRequest := requestOf [("updateType", .string "ALL"),
  ("hosts", .array []), ("divideInfo", .object [("isLast", .boolean true), ("serialId", .int 5),
    ("requestId", .string "request")])]

def missingItemGroupNameRequest : JsonRpcRequest := requestOf [("fetchId", .string "1"),
  ("items", .array [.object [("itemId", .string "1"), ("hostId", .string "1"),
    ("brief", .string "cpu"), ("lastValueTime", .string "20150409134500"),
    ("lastValue", .string "54"), ("unit", .string "%")]])]

theorem not_keepsId_wrongSerialId_missingItemGroupName :
    ¬ (PutMethod.divided .putHosts).KeepsId plainConversions .initial wrongSerialIdRequest ∧
    ¬ (PutMethod.divided .putItems).KeepsId plainConversions .initial
      missingItemGroupNameRequest := by
  constructor
  · rintro ⟨response, hkeeps⟩
    obtain ⟨response', hrespond⟩ := PutMethod.respond_divided plainConversions .putHosts .initial
      wrongSerialIdRequest
    rw [hkeeps] at hrespond
    -- the ID is looked for in the parameters, and a null is sent
    cases hrespond
  · rintro ⟨response, hkeeps⟩
    obtain ⟨response', hrespond⟩ := PutMethod.respond_divided plainConversions .putItems .initial
      missingItemGroupNameRequest
    rw [hkeeps] at hrespond
    -- the ID is looked for in the array of the items
    cases hrespond

end Hatohol

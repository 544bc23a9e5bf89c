import Hatohol.Python.Values

/-!
# The receiver of a plugin

A process of the plugin takes every message that the transporter delivers, checks it, and puts it
into the queue of the dispatcher (haplib.py:654-800). Whatever is raised in `__messenger` ends the
process.
-/

namespace Hatohol.Haplib.Receiver

open Python

/-! ## The procedures -/

/-- How one argument of a procedure is declared. A key that the declaration does not have is `none`.
    What has a greatest size has a length, and what has choices is a string. -/
structure ArgumentDef where
  type : PyType
  mandatory : Option Bool
  maxSize : Option Nat
  choices : Option (List Unicode)
  sized : maxSize.isSome → type = .list ∨ type = .unicode
  chosen : choices.isSome → type = .unicode

structure ProcedureDef where
  notification : Bool
  args : List (Unicode × ArgumentDef)

def ArgumentDef.list (maxSize : Option Nat) : ArgumentDef where
  type := .list
  mandatory := some true
  maxSize := maxSize
  choices := none
  sized _ := .inl rfl
  chosen := nofun

def ArgumentDef.unicode (maxSize : Option Nat) : ArgumentDef where
  type := .unicode
  mandatory := some true
  maxSize := maxSize
  choices := none
  sized _ := .inr rfl
  chosen := nofun

def ArgumentDef.int : ArgumentDef where
  type := .int
  mandatory := some true
  maxSize := none
  choices := none
  sized := nofun
  chosen := nofun

def ArgumentDef.optional (arg : ArgumentDef) : ArgumentDef := { arg with mandatory := some false }

/-- `mandatory` is forgotten in the declaration. -/
def ArgumentDef.undeclared (arg : ArgumentDef) : ArgumentDef := { arg with mandatory := none }

def ArgumentDef.direction : ArgumentDef where
  type := .unicode
  mandatory := some true
  maxSize := none
  choices := some [ascii "ASC", ascii "DESC"]
  sized := nofun
  chosen _ := rfl

def ProcedureDef.of (notification : Bool) (args : List (String × ArgumentDef)) : ProcedureDef :=
  ⟨notification, args.map fun arg => (ascii arg.1, arg.2)⟩

/-- `PROCEDURES_DEFS` -/
def proceduresDefs : List (Unicode × ProcedureDef) := [
  (ascii "exchangeProfile", .of false [
    ("procedures", .list (some 255)), ("name", .unicode (some 255))]),
  (ascii "fetchItems", .of false [
    ("hostIds", (ArgumentDef.list none).optional), ("fetchId", .unicode (some 255))]),
  (ascii "fetchHistory", .of false [
    ("hostId", .unicode (some 255)), ("itemId", .unicode (some 255)),
    ("beginTime", .unicode none), ("endTime", .unicode none),
    ("fetchId", .unicode (some 255))]),
  (ascii "fetchTriggers", .of false [
    ("hostIds", (ArgumentDef.list none).optional), ("fetchId", .unicode (some 255))]),
  (ascii "fetchEvents", .of false [
    ("lastInfo", .unicode (some 32767)), ("count", .int), ("direction", .direction),
    ("fetchId", .unicode (some 255))]),
  (ascii "updateMonitoringServerInfo", .of true [
    ("serverId", .int), ("url", .unicode (some 2047)),
    ("type", .unicode (some 2047)), ("nickName", .unicode (some 255)),
    ("userName", .unicode (some 255)), ("password", .unicode (some 255)),
    ("pollingIntervalSec", .int), ("retryIntervalSec", .int),
    ("extendedInfo", .unicode (some 32767))]),
  (ascii "getMonitoringServerInfo", .of false []),
  (ascii "putHosts", .of false [("hosts", .list none)]),
  (ascii "putHostGroups", .of false [("hostGroups", .list none)]),
  (ascii "putHostGroupMembership", .of false [
    ("hostGroupMembership", .list none)]),
  (ascii "putTriggers", .of false [
    ("triggers", .list none), ("updateType", .unicode none)]),
  (ascii "putEvents", .of false [("events", .list none)]),
  (ascii "putItems", .of false [
    ("items", .list none), ("fetchId", (ArgumentDef.unicode (some 255)).undeclared)]),
  (ascii "putHistory", .of false [("samples", .list none)]),
  (ascii "getLastInfo", .of false []),
  (ascii "putArmInfo", .of false [])]

/-- The procedures that a receiver takes. A plugin gives it a dictionary of those that it
    implements, and the simple server a list. All of them are defined. -/
structure AllowedProcedures where
  names : List Unicode
  isDictionary : Bool
  defined : ∀ name ∈ names, (proceduresDefs.lookup name).isSome

/-- What is left to the interpreter: the JSON reader, the order in which the items of a dictionary
    are visited, and the text of a value. -/
structure Interpreter where
  loads : List UInt8 → Except PyError PyValue
  iteritems : List (Unicode × ArgumentDef) → List (Unicode × ArgumentDef)
  iteritems_perm : ∀ args, (iteritems args).Perm args
  str : PyValue → Unicode

/-! ## The check of the arguments -/

def ERR_CODE_METHOD_NOT_FOUND : Int := -32601
def ERR_CODE_INVALID_PARAMS : Int := -32602
def ERR_CODE_PARSER_ERROR : Int := -32700

def decimal (n : Nat) : Unicode := ascii (toString n)

/-- The text of a type. -/
def typeText : PyType → Unicode
  | .none => ascii "<type 'NoneType'>"
  | .bool => ascii "<type 'bool'>"
  | .int => ascii "<type 'int'>"
  | .long => ascii "<type 'long'>"
  | .float => ascii "<type 'float'>"
  | .unicode => ascii "<type 'unicode'>"
  | .list => ascii "<type 'list'>"
  | .dict => ascii "<type 'dict'>"

variable (python : Interpreter)

def checkLength (argName : Unicode) (arg : ArgumentDef) (param : PyValue) :
    Except PyError (Option Unicode) :=
  match arg.maxSize with
  | none => return none
  | some maxLen => do
      let length ← param.len
      if maxLen < length then
        return some (ascii "parameter: " ++ argName ++ ascii ". Over the maixum length " ++
          decimal length ++ ascii "/" ++ decimal maxLen)
      else return none

def checkChoices (argName : Unicode) (arg : ArgumentDef) (param : PyValue) :
    Except PyError (Option Unicode) :=
  match arg.choices with
  | none => return none
  | some choices => do
      if ← param.isIn true choices then return none
      else return some (ascii "parameter: " ++ argName ++ ascii ", value: " ++ python.str param ++
        ascii ": Not in choices.")

/-- The body of the `try`: the message for an argument that is not as declared. -/
def checkArgument (argName : Unicode) (arg : ArgumentDef) (params : PyValue) :
    Except PyError (Option Unicode) := do
  let param ← params.getItem argName
  if arg.type ≠ param.type then
    return some (ascii "Argument '" ++ argName ++ ascii "': unexpected type: exp: " ++
      typeText arg.type ++ ascii ", act: " ++ typeText param.type)
  else
    match ← checkLength argName arg param with
    | some msg => return some msg
    | none => checkChoices python argName arg param

/-- The `except`, in which `arg_value["mandatory"]` can raise once more. -/
def validateArgument (argName : Unicode) (arg : ArgumentDef) (params : PyValue) :
    Except PyError (Option Unicode) :=
  match checkArgument python argName arg params with
  | .error .keyError =>
      match arg.mandatory with
      | none => .error .keyError
      | some true => .ok (some (ascii "Missing a mandatory paramter: " ++ argName))
      | some false => .ok none
  | result => result

/-- The loop of `__validate_arguments`. -/
def validateArguments (params : PyValue) :
    List (Unicode × ArgumentDef) → Except PyError (Option Int × PyValue)
  | [] => return (none, .none)
  | (argName, arg) :: args => do
      match ← validateArgument python argName arg params with
      | some msg => return (some ERR_CODE_INVALID_PARAMS, .unicode msg)
      | none => validateArguments params args

/-! ## The messages -/

/-- What is passed to the dispatcher. -/
structure ParsedMessage where
  errorCode : Option Int
  messageId : PyValue
  messageDict : PyValue
  errorMessage : PyValue

def convertJsonToDict (message : List UInt8) : Except PyError (Option Int × PyValue) :=
  match python.loads message with
  | .error .valueError => return (some ERR_CODE_PARSER_ERROR, .none)
  | .error e => throw e
  | .ok jsonDict => return (none, jsonDict)

def checkErrorDict (errorDict : PyValue) : Except PyError Unit := do
  let _ ← errorDict.getItem (ascii "id")
  let _ ← (← errorDict.getItem (ascii "error")).getItem (ascii "code")
  let _ ← (← errorDict.getItem (ascii "error")).getItem (ascii "message")
  let _ ← (← errorDict.getItem (ascii "error")).getItem (ascii "data")

/-- The body of the `try` of an error reply. -/
def receivedErrorMessage (messageDict : PyValue) : Except PyError PyValue := do
  checkErrorDict messageDict
  (← messageDict.getItem (ascii "error")).getItem (ascii "message")

/-- The case the message is an error reply. -/
def parseErrorReply (message : List UInt8) (pm : ParsedMessage) : Except PyError ParsedMessage :=
  match receivedErrorMessage pm.messageDict with
  | .ok errorMessage => return { pm with errorMessage }
  | .error .keyError => return { pm with
      errorMessage := .unicode (ascii "Invalid error message: " ++ message.map UInt8.toUInt32) }
  | .error e => throw e

def notFoundId (pm : ParsedMessage) : ParsedMessage :=
  { pm with errorCode := some ERR_CODE_INVALID_PARAMS,
            errorMessage := .unicode (ascii "Not found: id") }

def isAllowedProcedure (procedureName : PyValue) (allowed : AllowedProcedures) :
    Except PyError (Option Int) := do
  if ← procedureName.isIn allowed.isDictionary allowed.names then return none
  else return some ERR_CODE_METHOD_NOT_FOUND

/-- `PROCEDURES_DEFS[method]` -/
def procedureDef (method : PyValue) : Except PyError ProcedureDef :=
  match method with
  | .unicode name =>
      match proceduresDefs.lookup name with
      | some defn => .ok defn
      | none => .error .keyError
  | _ => .error (if method.isHashable then .keyError else .typeError)

/-- The case the message is a request. -/
def parseRequest (allowed : AllowedProcedures) (pm : ParsedMessage) :
    Except PyError ParsedMessage := do
  let method ← pm.messageDict.getItem (ascii "method")
  match ← isAllowedProcedure method allowed with
  | some code => return { pm with
      errorCode := some code
      errorMessage :=
        .unicode (ascii "Unsupported method: '" ++ python.str method ++ ascii "'") }
  | none =>
      let defn ← procedureDef method
      if !defn.notification && pm.messageId.isNone then return notFoundId pm
      else
        let params ← pm.messageDict.getItem (ascii "params")
        let (errorCode, errorMessage) ←
          validateArguments python params (python.iteritems defn.args)
        return { pm with errorCode, errorMessage }

/-- `__parse_received_message` -/
def parseReceivedMessage (allowed : AllowedProcedures) (message : List UInt8) :
    Except PyError ParsedMessage := do
  let (errorCode, messageDict) ← convertJsonToDict python message
  if errorCode.isSome then return ⟨errorCode, .none, messageDict, .unicode []⟩
  else
    let messageId ← messageDict.get (ascii "id")
    let pm : ParsedMessage := ⟨none, messageId, messageDict, .unicode []⟩
    if ← messageDict.hasKey (ascii "error") then parseErrorReply message pm
    else if ← messageDict.hasKey (ascii "result") then
      if messageId.isNone then return notFoundId pm else return pm
    else parseRequest python allowed pm

/-- `__messenger`: what is put into the queue of the dispatcher. -/
def messenger (allowed : AllowedProcedures) (message : List UInt8) :
    Except PyError (Option ParsedMessage) := do
  let parsed ← parseReceivedMessage python allowed message
  if parsed.messageId.isNone && !parsed.errorMessage.isNone then return none
  else return some parsed

/-! ## The valid messages -/

/-- The argument is as declared: present if it is mandatory, and if it is present, of the declared
    type, not too long, and one of the choices. -/
def ArgumentDef.Accepts (arg : ArgumentDef) (argName : Unicode) (params : PyValue) : Prop :=
  match params.member argName with
  | none => arg.mandatory ≠ some true
  | some param => param.type = arg.type ∧
      (∀ maxLen ∈ arg.maxSize, ∃ length, param.length? = some length ∧ length ≤ maxLen) ∧
      ∀ choices ∈ arg.choices, param.isOneOf choices = true

/-- The message has an ID that is not null. -/
def HasId (members : List (Unicode × PyValue)) : Prop :=
  ∃ id, members.lookup (ascii "id") = some id ∧ id.isNone = false

/-- A request of an allowed procedure. All arguments are as declared, and it has an ID unless it is
    a notification. -/
def ValidRequest (allowed : AllowedProcedures) (members : List (Unicode × PyValue)) : Prop :=
  ∃ method defn params, members.lookup (ascii "method") = some (.unicode method) ∧
    method ∈ allowed.names ∧ proceduresDefs.lookup method = some defn ∧
    (defn.notification = true ∨ HasId members) ∧
    members.lookup (ascii "params") = some params ∧
    ∀ arg ∈ defn.args, arg.2.Accepts arg.1 params

/-- The three kinds of messages that are taken, by the members of the object. -/
inductive ValidMembers (allowed : AllowedProcedures) (members : List (Unicode × PyValue)) :
    Prop where
  | errorReply (herror : (members.lookup (ascii "error")).isSome)
  | reply (herror : members.lookup (ascii "error") = none)
      (hresult : (members.lookup (ascii "result")).isSome) (hid : HasId members)
  | request (herror : members.lookup (ascii "error") = none)
      (hresult : members.lookup (ascii "result") = none) (hrequest : ValidRequest allowed members)

/-- The message is a JSON object of one of these kinds. -/
def ValidMessage (allowed : AllowedProcedures) (message : List UInt8) : Prop :=
  ∃ members, python.loads message = .ok (.dict members) ∧ ValidMembers allowed members

/-- The message is parsed, and there is no error code exactly if it is valid. -/
def ParsesAsSpecified (allowed : AllowedProcedures) (message : List UInt8) : Prop :=
  ∃ pm, parseReceivedMessage python allowed message = .ok pm ∧
    (pm.errorCode = none ↔ ValidMessage python allowed message)

/-! ## The messages that are parsed without an exception -/

/-- An argument of which `mandatory` is not declared is there, unless one that is visited before it
    is refused. -/
def ReadsDeclaredOnly (params : PyValue) (args : List (Unicode × ArgumentDef)) : Prop :=
  ∀ before arg after, args = before ++ arg :: after → arg.2.mandatory = none →
    params.member arg.1 = none → ∃ refused ∈ before, ¬ refused.2.Accepts refused.1 params

/-- The parameters are there, and an object if there are arguments to look for. -/
def HandlesParams (members : List (Unicode × PyValue)) (defn : ProcedureDef) : Prop :=
  ∃ params, members.lookup (ascii "params") = some params ∧
    (defn.args = [] ∨
      params.isDict = true ∧ ReadsDeclaredOnly params (python.iteritems defn.args))

/-- The method is there, it is hashable if it is looked for in a dictionary, and the parameters are
    fine if they are looked at. -/
def HandlesRequest (allowed : AllowedProcedures) (members : List (Unicode × PyValue)) : Prop :=
  ∃ method, members.lookup (ascii "method") = some method ∧
    (allowed.isDictionary = true → method.isHashable = true) ∧
    ∀ name defn, method = .unicode name → name ∈ allowed.names →
      proceduresDefs.lookup name = some defn → defn.notification = true ∨ HasId members →
      HandlesParams python members defn

def HandlesMembers (allowed : AllowedProcedures) (members : List (Unicode × PyValue)) : Prop :=
  match members.lookup (ascii "error") with
  | some error => (members.lookup (ascii "id")).isSome → error.isDict = true
  | none => (members.lookup (ascii "result")).isSome ∨ HandlesRequest python allowed members

/-- The message is no JSON, or it is an object that goes well. -/
def HandlesMessage (allowed : AllowedProcedures) (message : List UInt8) : Prop :=
  python.loads message = .error .valueError ∨
    ∃ members, python.loads message = .ok (.dict members) ∧ HandlesMembers python allowed members

/-! ## The arguments -/

section

variable {python} {argName : Unicode} {arg : ArgumentDef} {param params : PyValue}

theorem checkLength_eq (htype : param.type = arg.type) :
    ∃ result, checkLength argName arg param = .ok result ∧ (result = none ↔
      ∀ maxLen ∈ arg.maxSize, ∃ length, param.length? = some length ∧ length ≤ maxLen) := by
  unfold checkLength
  cases hmax : arg.maxSize with
  | none => exact ⟨none, rfl, by simp⟩
  | some maxLen =>
    obtain ⟨length, hlength⟩ : ∃ length, param.length? = some length := by
      have hsized := arg.sized (Option.isSome_iff_exists.mpr ⟨maxLen, hmax⟩)
      rw [← htype] at hsized
      cases param with
      | list elements => exact ⟨_, rfl⟩
      | unicode units => exact ⟨_, rfl⟩
      | _ => simp [PyValue.type] at hsized
    dsimp only
    rw [PyValue.len_eq_ok hlength]
    by_cases hlt : maxLen < length
    · exact ⟨_, if_pos hlt, by simp [hlength, hlt]⟩
    · exact ⟨_, if_neg hlt, by simp [hlength, Nat.le_of_not_lt hlt]⟩

theorem checkChoices_eq (htype : param.type = arg.type) :
    ∃ result, checkChoices python argName arg param = .ok result ∧ (result = none ↔
      ∀ choices ∈ arg.choices, param.isOneOf choices = true) := by
  unfold checkChoices
  cases hchoices : arg.choices with
  | none => exact ⟨none, rfl, by simp⟩
  | some choices =>
    have hhash : param.isHashable = true := by
      have hchosen := arg.chosen (Option.isSome_iff_exists.mpr ⟨choices, hchoices⟩)
      rw [← htype] at hchosen
      cases param with
      | list elements => cases hchosen
      | dict members => cases hchosen
      | _ => rfl
    dsimp only
    rw [PyValue.isIn_eq_ok fun _ => hhash]
    cases hone : param.isOneOf choices with
    | true => exact ⟨none, rfl, by simp [hone]⟩
    | false => exact ⟨some _, rfl, by simp [hone]⟩

/-- An argument that is there is found to be as declared or not. -/
theorem checkArgument_eq (hmember : params.member argName = some param) :
    ∃ result, checkArgument python argName arg params = .ok result ∧
      (result = none ↔ arg.Accepts argName params) := by
  unfold checkArgument ArgumentDef.Accepts
  rw [PyValue.getItem_eq_ok hmember, hmember]
  by_cases htype : param.type = arg.type
  · obtain ⟨tooLong, hlength, htooLong⟩ : ∃ result, checkLength argName arg param = .ok result ∧
        (result = none ↔
          ∀ maxLen ∈ arg.maxSize, ∃ length, param.length? = some length ∧ length ≤ maxLen) :=
      checkLength_eq htype
    obtain ⟨notChosen, hchoices, hnotChosen⟩ : ∃ result,
        checkChoices python argName arg param = .ok result ∧
        (result = none ↔ ∀ choices ∈ arg.choices, param.isOneOf choices = true) :=
      checkChoices_eq htype
    cases tooLong with
    | some msg =>
      refine ⟨some msg, (if_neg (not_not.mpr htype.symm)).trans ?_, ?_⟩
      · rw [hlength]
        rfl
      · refine iff_of_false nofun fun haccepts => ?_
        cases htooLong.mpr haccepts.2.1
    | none =>
      refine ⟨notChosen, (if_neg (not_not.mpr htype.symm)).trans ?_, ?_⟩
      · rw [hlength]
        exact hchoices
      · dsimp only
        rw [hnotChosen, and_iff_right htype, and_iff_right (htooLong.mp rfl)]
  · exact ⟨_, if_pos (Ne.symm htype), iff_of_false nofun fun haccepts => htype haccepts.1⟩

/-- The parameters are an object, and either the argument or its `mandatory` can be read. -/
theorem validateArgument_eq (hdict : params.isDict = true)
    (hdeclared : arg.mandatory = none → params.member argName ≠ none) :
    ∃ result, validateArgument python argName arg params = .ok result ∧
      (result = none ↔ arg.Accepts argName params) := by
  unfold validateArgument
  cases hmember : params.member argName with
  | some param =>
    obtain ⟨result, hcheck, hresult⟩ : ∃ result,
        checkArgument python argName arg params = .ok result ∧
        (result = none ↔ arg.Accepts argName params) := checkArgument_eq hmember
    rw [hcheck]
    exact ⟨result, rfl, hresult⟩
  | none =>
    have hcheck : checkArgument python argName arg params = .error .keyError := by
      cases params with
      | dict members =>
        unfold checkArgument
        rw [PyValue.getItem_dict_none hmember]
        rfl
      | _ => cases hdict
    rw [hcheck]
    unfold ArgumentDef.Accepts
    rw [hmember]
    cases hmandatory : arg.mandatory with
    | none => exact absurd hmember (hdeclared hmandatory)
    | some mandatory =>
      cases mandatory with
      | true => exact ⟨_, rfl, by simp⟩
      | false => exact ⟨_, rfl, by simp⟩

/-- `mandatory` is not there to be read in the `except`. -/
theorem validateArgument_undeclared (hdict : params.isDict = true)
    (hmandatory : arg.mandatory = none) (hmember : params.member argName = none) :
    validateArgument python argName arg params = .error .keyError := by
  have hcheck : checkArgument python argName arg params = .error .keyError := by
    cases params with
    | dict members =>
      unfold checkArgument
      rw [PyValue.getItem_dict_none hmember]
      rfl
    | _ => cases hdict
  unfold validateArgument
  rw [hcheck, hmandatory]

/-- A step of the loop. -/
theorem readsDeclaredOnly_cons {args : List (Unicode × ArgumentDef)} :
    ReadsDeclaredOnly params ((argName, arg) :: args) ↔
      (arg.mandatory = none → params.member argName ≠ none) ∧
        (arg.Accepts argName params → ReadsDeclaredOnly params args) := by
  constructor
  · intro hreads
    refine ⟨fun hmandatory hmember => ?_,
      fun haccepts before arg' after hsplit hmandatory hmember => ?_⟩
    · obtain ⟨refused, hmem, -⟩ := hreads [] (argName, arg) args rfl hmandatory hmember
      cases hmem
    · obtain ⟨refused, hmem, hrefused⟩ := hreads ((argName, arg) :: before) arg' after
        (by rw [hsplit, List.cons_append]) hmandatory hmember
      rcases List.mem_cons.mp hmem with rfl | hmem
      · exact absurd haccepts hrefused
      · exact ⟨refused, hmem, hrefused⟩
  · rintro ⟨hhead, htail⟩ before arg' after hsplit hmandatory hmember
    cases before with
    | nil =>
      obtain ⟨rfl, rfl⟩ := List.cons.inj hsplit
      exact absurd hmember (hhead hmandatory)
    | cons first before =>
      obtain ⟨rfl, htail'⟩ := List.cons.inj hsplit
      by_cases haccepts : arg.Accepts argName params
      · obtain ⟨refused, hmem, hrefused⟩ :=
          htail haccepts before arg' after htail' hmandatory hmember
        exact ⟨refused, List.mem_cons_of_mem _ hmem, hrefused⟩
      · exact ⟨_, List.mem_cons_self, haccepts⟩

/-- The loop comes to its end, or to an argument that is refused. -/
theorem validateArguments_eq (hdict : params.isDict = true) {args : List (Unicode × ArgumentDef)}
    (hreads : ReadsDeclaredOnly params args) :
    ∃ errorCode errorMessage,
      validateArguments python params args = .ok (errorCode, errorMessage) ∧
      (errorCode = none ↔ ∀ arg ∈ args, arg.2.Accepts arg.1 params) := by
  induction args with
  | nil => exact ⟨none, .none, rfl, by simp⟩
  | cons arg args ih =>
    obtain ⟨argName, arg⟩ := arg
    obtain ⟨hdeclared, hrest⟩ := readsDeclaredOnly_cons.mp hreads
    obtain ⟨result, hvalidate, hresult⟩ : ∃ result,
        validateArgument python argName arg params = .ok result ∧
        (result = none ↔ arg.Accepts argName params) := validateArgument_eq hdict hdeclared
    rw [validateArguments, hvalidate, List.forall_mem_cons, ← hresult]
    cases result with
    | some msg => exact ⟨_, _, rfl, by simp⟩
    | none =>
      obtain ⟨errorCode, errorMessage, hloop, herror⟩ := ih (hrest (hresult.mp rfl))
      exact ⟨errorCode, errorMessage, hloop, by simp [herror]⟩

/-- The loop raises at an argument of which `mandatory` is not declared. -/
theorem validateArguments_raises (hdict : params.isDict = true)
    {args : List (Unicode × ArgumentDef)} (hreads : ¬ ReadsDeclaredOnly params args) :
    ∃ e, validateArguments python params args = .error e := by
  induction args with
  | nil =>
    refine absurd (fun before arg after hsplit => ?_) hreads
    cases before <;> cases hsplit
  | cons arg args ih =>
    obtain ⟨argName, arg⟩ := arg
    rw [readsDeclaredOnly_cons] at hreads
    by_cases hdeclared : arg.mandatory = none → params.member argName ≠ none
    · obtain ⟨haccepts, hrest⟩ : arg.Accepts argName params ∧ ¬ ReadsDeclaredOnly params args := by
        rw [and_iff_right hdeclared] at hreads
        exact Classical.not_imp.mp hreads
      obtain ⟨result, hvalidate, hresult⟩ : ∃ result,
          validateArgument python argName arg params = .ok result ∧
          (result = none ↔ arg.Accepts argName params) := validateArgument_eq hdict hdeclared
      obtain ⟨e, hloop⟩ := ih hrest
      rw [validateArguments, hvalidate, hresult.mpr haccepts]
      exact ⟨e, hloop⟩
    · obtain ⟨hmandatory, hmember⟩ := Classical.not_imp.mp hdeclared
      rw [validateArguments, validateArgument_undeclared hdict hmandatory (not_not.mp hmember)]
      exact ⟨_, rfl⟩

/-- Parameters that are no object raise at the first argument. -/
theorem validateArguments_of_not_dict (hdict : params.isDict = false)
    {args : List (Unicode × ArgumentDef)} (hne : args ≠ []) :
    ∃ e, validateArguments python params args = .error e := by
  cases args with
  | nil => exact absurd rfl hne
  | cons arg args =>
    obtain ⟨argName, arg⟩ := arg
    have hcheck : checkArgument python argName arg params = .error .typeError := by
      unfold checkArgument
      rw [PyValue.getItem_of_not_dict hdict]
      rfl
    rw [validateArguments, validateArgument, hcheck]
    exact ⟨_, rfl⟩

end

/-! ## The kinds of messages -/

section

variable {python} {allowed : AllowedProcedures} {message : List UInt8}
  {members : List (Unicode × PyValue)}

/-- What is known of an object when its kind is looked at. -/
def ParsedMessage.ofMembers (members : List (Unicode × PyValue)) : ParsedMessage where
  errorCode := none
  messageId := (members.lookup (ascii "id")).getD .none
  messageDict := .dict members
  errorMessage := .unicode []

/-- The accesses of an error reply raise a KeyError or nothing, if the error is looked into only
    when it is an object. -/
theorem receivedErrorMessage_eq {error : PyValue}
    (herror : members.lookup (ascii "error") = some error)
    (hdict : (members.lookup (ascii "id")).isSome → error.isDict = true) :
    (∃ errorMessage, receivedErrorMessage (.dict members) = .ok errorMessage) ∨
      receivedErrorMessage (.dict members) = .error .keyError := by
  unfold receivedErrorMessage checkErrorDict
  cases hid : members.lookup (ascii "id") with
  | none =>
    rw [PyValue.getItem_dict_none hid]
    exact .inr rfl
  | some id =>
    have hitem : (PyValue.dict members).getItem (ascii "id") = .ok id := PyValue.getItem_eq_ok hid
    have herrorItem : (PyValue.dict members).getItem (ascii "error") = .ok error :=
      PyValue.getItem_eq_ok herror
    have hobject := hdict (by rw [hid]; rfl)
    cases error with
    | dict items =>
      rw [hitem, herrorItem]
      have hget (key : Unicode) : (∃ value, (PyValue.dict items).getItem key = .ok value) ∨
          (PyValue.dict items).getItem key = .error .keyError := by
        cases hlookup : items.lookup key with
        | none => exact .inr (PyValue.getItem_dict_none hlookup)
        | some value => exact .inl ⟨value, PyValue.getItem_eq_ok hlookup⟩
      rcases hget (ascii "code") with ⟨code, hcode⟩ | hcode
      · rcases hget (ascii "message") with ⟨text, htext⟩ | htext
        · rcases hget (ascii "data") with ⟨data, hdata⟩ | hdata
          · exact .inl ⟨text, by simp [bind, Except.bind, hcode, htext, hdata, pure, Except.pure]⟩
          · exact .inr (by simp [bind, Except.bind, hcode, htext, hdata])
        · exact .inr (by simp [bind, Except.bind, hcode, htext])
      · exact .inr (by simp [bind, Except.bind, hcode])
    | _ => cases hobject

theorem parseErrorReply_eq {error : PyValue}
    (herror : members.lookup (ascii "error") = some error)
    (hdict : (members.lookup (ascii "id")).isSome → error.isDict = true) :
    ∃ pm, parseErrorReply message (.ofMembers members) = .ok pm ∧ pm.errorCode = none := by
  unfold parseErrorReply ParsedMessage.ofMembers
  dsimp only
  rcases receivedErrorMessage_eq herror hdict with ⟨errorMessage, hreceived⟩ | hreceived
  · rw [hreceived]
    exact ⟨_, rfl, rfl⟩
  · rw [hreceived]
    exact ⟨_, rfl, rfl⟩

/-- An error that is no object raises a TypeError, which is not caught. -/
theorem parseErrorReply_raises {error : PyValue}
    (herror : members.lookup (ascii "error") = some error)
    (hid : (members.lookup (ascii "id")).isSome) (hdict : error.isDict = false) :
    parseErrorReply message (.ofMembers members) = .error .typeError := by
  obtain ⟨id, hlookup⟩ := Option.isSome_iff_exists.mp hid
  have hitem : (PyValue.dict members).getItem (ascii "id") = .ok id :=
    PyValue.getItem_eq_ok hlookup
  have herrorItem : (PyValue.dict members).getItem (ascii "error") = .ok error :=
    PyValue.getItem_eq_ok herror
  have hreceived : receivedErrorMessage (.dict members) = .error .typeError := by
    unfold receivedErrorMessage checkErrorDict
    rw [hitem, herrorItem]
    simp [bind, Except.bind, PyValue.getItem_of_not_dict hdict]
  unfold parseErrorReply ParsedMessage.ofMembers
  dsimp only
  rw [hreceived]
  rfl

theorem hasId_iff : HasId members ↔
    ((members.lookup (ascii "id")).getD .none).isNone = false := by
  unfold HasId
  cases members.lookup (ascii "id") with
  | none => simp [PyValue.isNone]
  | some id => simp

/-- A method that is allowed is a string, and its arguments are declared. -/
theorem isAllowedProcedure_eq {method : PyValue}
    (hhash : allowed.isDictionary = true → method.isHashable = true) :
    (∃ name defn, method = .unicode name ∧ name ∈ allowed.names ∧
      proceduresDefs.lookup name = some defn ∧ isAllowedProcedure method allowed = .ok none) ∨
    ((∀ name, method = .unicode name → name ∉ allowed.names) ∧
      isAllowedProcedure method allowed = .ok (some ERR_CODE_METHOD_NOT_FOUND)) := by
  unfold isAllowedProcedure
  rw [PyValue.isIn_eq_ok hhash]
  cases hone : method.isOneOf allowed.names with
  | true =>
    obtain ⟨name, rfl, hname⟩ := PyValue.isOneOf_eq_true_iff.mp hone
    obtain ⟨defn, hdefn⟩ := Option.isSome_iff_exists.mp (allowed.defined name hname)
    exact .inl ⟨name, defn, rfl, hname, hdefn, rfl⟩
  | false =>
    refine .inr ⟨fun name hmethod hname => ?_, rfl⟩
    have htrue := PyValue.isOneOf_eq_true_iff.mpr ⟨name, hmethod, hname⟩
    rw [hone] at htrue
    cases htrue

/-- The arguments are checked in the order of the dictionary, which makes no difference to whether
    all of them are accepted. -/
theorem validateParams_eq {defn : ProcedureDef} {params : PyValue}
    (hhandles : defn.args = [] ∨
      params.isDict = true ∧ ReadsDeclaredOnly params (python.iteritems defn.args)) :
    ∃ errorCode errorMessage,
      validateArguments python params (python.iteritems defn.args) =
        .ok (errorCode, errorMessage) ∧
      (errorCode = none ↔ ∀ arg ∈ defn.args, arg.2.Accepts arg.1 params) := by
  have hperm := python.iteritems_perm defn.args
  rcases hhandles with hnil | ⟨hdict, hreads⟩
  · rw [hnil] at hperm ⊢
    rw [hperm.eq_nil]
    exact ⟨none, .none, rfl, by simp⟩
  · obtain ⟨errorCode, errorMessage, hvalidate, herror⟩ := validateArguments_eq hdict hreads
    refine ⟨errorCode, errorMessage, hvalidate, herror.trans ?_⟩
    exact forall_congr' fun arg => imp_congr_left hperm.mem_iff

theorem parseRequest_eq (hhandles : HandlesRequest python allowed members) :
    ∃ pm, parseRequest python allowed (.ofMembers members) = .ok pm ∧
      (pm.errorCode = none ↔ ValidRequest allowed members) := by
  obtain ⟨method, hmethod, hhash, hparams⟩ := hhandles
  have hitem : (PyValue.dict members).getItem (ascii "method") = .ok method :=
    PyValue.getItem_eq_ok hmethod
  unfold parseRequest ValidRequest
  rw [ParsedMessage.ofMembers, hitem, hmethod]
  rcases isAllowedProcedure_eq hhash with
    ⟨name, defn, rfl, hname, hdefn, hallowed⟩ | ⟨hunknown, hallowed⟩
  · have hdef : procedureDef (.unicode name) = .ok defn := by
      rw [procedureDef, hdefn]
    by_cases hid : defn.notification = true ∨ HasId members
    · obtain ⟨params, hlookup, hchecked⟩ := hparams name defn rfl hname hdefn hid
      have hparamsItem : (PyValue.dict members).getItem (ascii "params") = .ok params :=
        PyValue.getItem_eq_ok hlookup
      obtain ⟨errorCode, errorMessage, hvalidate, herror⟩ := validateParams_eq hchecked
      have hneed : ¬ ((!defn.notification &&
          ((members.lookup (ascii "id")).getD .none).isNone) = true) := by
        rcases hid with hnotification | hid
        · simp [hnotification]
        · simp [hasId_iff.mp hid]
      refine ⟨{ ParsedMessage.ofMembers members with errorCode, errorMessage }, ?_, ?_⟩
      · simp only [bind, Except.bind, hallowed, hdef, if_neg hneed, hparamsItem, hvalidate]
        rfl
      · rw [herror]
        constructor
        · intro haccepts
          exact ⟨name, defn, params, rfl, hname, hdefn, hid, hlookup, haccepts⟩
        · rintro ⟨name', defn', params', heq, -, hdefn', -, hlookup', haccepts⟩
          injection Option.some.inj heq with heq
          rw [← heq, hdefn] at hdefn'
          obtain rfl := Option.some.inj hdefn'
          rw [hlookup] at hlookup'
          obtain rfl := Option.some.inj hlookup'
          exact haccepts
    · have hneed : (!defn.notification &&
          ((members.lookup (ascii "id")).getD .none).isNone) = true := by
        rw [not_or, hasId_iff] at hid
        simp [hid.1, hid.2]
      refine ⟨notFoundId (.ofMembers members), ?_, iff_of_false nofun ?_⟩
      · simp only [bind, Except.bind, hallowed, hdef, if_pos hneed]
        rfl
      · rintro ⟨name', defn', params', heq, -, hdefn', hid', -⟩
        injection Option.some.inj heq with heq
        rw [← heq, hdefn] at hdefn'
        obtain rfl := Option.some.inj hdefn'
        exact hid hid'
  · refine ⟨{ ParsedMessage.ofMembers members with
      errorCode := some ERR_CODE_METHOD_NOT_FOUND
      errorMessage :=
        .unicode (ascii "Unsupported method: '" ++ python.str method ++ ascii "'") },
      ?_, iff_of_false nofun ?_⟩
    · simp only [bind, Except.bind, hallowed]
      rfl
    · rintro ⟨name, defn, params, heq, hname, -⟩
      exact hunknown name (Option.some.inj heq) hname

theorem validateParams_raises {defn : ProcedureDef} {params : PyValue}
    (hhandles : ¬ (defn.args = [] ∨
      params.isDict = true ∧ ReadsDeclaredOnly params (python.iteritems defn.args))) :
    ∃ e, validateArguments python params (python.iteritems defn.args) = .error e := by
  obtain ⟨hne, hreads⟩ := not_or.mp hhandles
  cases hdict : params.isDict with
  | true => exact validateArguments_raises hdict fun h => hreads ⟨hdict, h⟩
  | false =>
    refine validateArguments_of_not_dict hdict fun hnil => hne ?_
    have hperm := python.iteritems_perm defn.args
    rw [hnil] at hperm
    exact hperm.nil_eq.symm

theorem parseRequest_raises (hhandles : ¬ HandlesRequest python allowed members) :
    ∃ e, parseRequest python allowed (.ofMembers members) = .error e := by
  unfold parseRequest
  rw [ParsedMessage.ofMembers]
  cases hmethod : members.lookup (ascii "method") with
  | none =>
    rw [PyValue.getItem_dict_none hmethod]
    exact ⟨_, rfl⟩
  | some method =>
    have hitem : (PyValue.dict members).getItem (ascii "method") = .ok method :=
      PyValue.getItem_eq_ok hmethod
    rw [hitem]
    by_cases hhash : allowed.isDictionary = true → method.isHashable = true
    · rcases isAllowedProcedure_eq hhash with
        ⟨name, defn, rfl, hname, hdefn, hallowed⟩ | ⟨hunknown, -⟩
      · have hdef : procedureDef (.unicode name) = .ok defn := by
          rw [procedureDef, hdefn]
        obtain ⟨hid, hparams⟩ : (defn.notification = true ∨ HasId members) ∧
            ¬ HandlesParams python members defn := by
          refine Classical.not_imp.mp fun hfine => hhandles ⟨_, hmethod, hhash, ?_⟩
          intro name' defn' heq _ hdefn' hid'
          injection heq with heq
          rw [← heq, hdefn] at hdefn'
          obtain rfl := Option.some.inj hdefn'
          exact hfine hid'
        have hneed : ¬ ((!defn.notification &&
            ((members.lookup (ascii "id")).getD .none).isNone) = true) := by
          rcases hid with hnotification | hid
          · simp [hnotification]
          · simp [hasId_iff.mp hid]
        cases hlookup : members.lookup (ascii "params") with
        | none =>
          refine ⟨.keyError, ?_⟩
          simp only [bind, Except.bind, hallowed, hdef, if_neg hneed,
            PyValue.getItem_dict_none hlookup]
        | some params =>
          have hparamsItem : (PyValue.dict members).getItem (ascii "params") = .ok params :=
            PyValue.getItem_eq_ok hlookup
          obtain ⟨e, hvalidate⟩ := validateParams_raises fun h => hparams ⟨params, hlookup, h⟩
          refine ⟨e, ?_⟩
          simp only [bind, Except.bind, hallowed, hdef, if_neg hneed, hparamsItem, hvalidate]
      · refine absurd ⟨method, hmethod, hhash, ?_⟩ hhandles
        intro name defn heq hname
        exact absurd hname (hunknown name heq)
    · obtain ⟨hdictionary, hunhashable⟩ := Classical.not_imp.mp hhash
      refine ⟨.typeError, ?_⟩
      have hin : method.isIn allowed.isDictionary allowed.names = .error .typeError := by
        unfold PyValue.isIn
        rw [if_pos]
        rw [hdictionary, Bool.eq_false_iff.mpr hunhashable]
        rfl
      simp only [bind, Except.bind, isAllowedProcedure, hin]

/-- An object is taken apart like this. -/
theorem parseReceivedMessage_dict (hloads : python.loads message = .ok (.dict members)) :
    parseReceivedMessage python allowed message =
      if (members.lookup (ascii "error")).isSome then
        parseErrorReply message (.ofMembers members)
      else if (members.lookup (ascii "result")).isSome then
        .ok (if ((members.lookup (ascii "id")).getD .none).isNone then
          notFoundId (.ofMembers members) else .ofMembers members)
      else parseRequest python allowed (.ofMembers members) := by
  have hconvert : convertJsonToDict python message = .ok (none, .dict members) := by
    unfold convertJsonToDict
    rw [hloads]
    rfl
  unfold parseReceivedMessage
  rw [hconvert]
  cases herror : (members.lookup (ascii "error")).isSome with
  | true => simp [bind, Except.bind, PyValue.get, PyValue.hasKey, herror, ParsedMessage.ofMembers]
  | false =>
    cases hresult : (members.lookup (ascii "result")).isSome with
    | true =>
      simp only [bind, Except.bind, PyValue.get, PyValue.hasKey, herror, hresult]
      cases ((members.lookup (ascii "id")).getD .none).isNone with
      | true => rfl
      | false => rfl
    | false =>
      simp [bind, Except.bind, PyValue.get, PyValue.hasKey, herror, hresult,
        ParsedMessage.ofMembers]

theorem parseReceivedMessage_members (hloads : python.loads message = .ok (.dict members))
    (hhandles : HandlesMembers python allowed members) :
    ∃ pm, parseReceivedMessage python allowed message = .ok pm ∧
      (pm.errorCode = none ↔ ValidMembers allowed members) := by
  rw [parseReceivedMessage_dict hloads]
  unfold HandlesMembers at hhandles
  cases herror : members.lookup (ascii "error") with
  | some error =>
    rw [herror] at hhandles
    obtain ⟨pm, hparse, hcode⟩ : ∃ pm, parseErrorReply message (.ofMembers members) = .ok pm ∧
        pm.errorCode = none := parseErrorReply_eq herror hhandles
    exact ⟨pm, hparse, iff_of_true hcode (.errorReply (by rw [herror]; rfl))⟩
  | none =>
    rw [herror] at hhandles
    rw [Option.isSome_none, if_neg Bool.false_ne_true]
    by_cases hresult : (members.lookup (ascii "result")).isSome = true
    · rw [if_pos hresult]
      refine ⟨_, rfl, ?_⟩
      cases hid : ((members.lookup (ascii "id")).getD .none).isNone with
      | true =>
        refine iff_of_false nofun ?_
        rintro (hsome | ⟨-, -, hhas⟩ | ⟨-, hnone, -⟩)
        · rw [herror] at hsome
          cases hsome
        · rw [hasId_iff, hid] at hhas
          cases hhas
        · rw [hnone] at hresult
          cases hresult
      | false => exact iff_of_true rfl (.reply herror hresult (hasId_iff.mpr hid))
    · rw [if_neg hresult]
      obtain ⟨pm, hparse, hcode⟩ := parseRequest_eq (hhandles.resolve_left hresult)
      refine ⟨pm, hparse, hcode.trans ⟨fun hrequest => ?_, ?_⟩⟩
      · exact .request herror (Option.not_isSome_iff_eq_none.mp hresult) hrequest
      · rintro (hsome | ⟨-, hsome, -⟩ | ⟨-, -, hrequest⟩)
        · rw [herror] at hsome
          cases hsome
        · exact absurd hsome hresult
        · exact hrequest

theorem parseReceivedMessage_members_raises (hloads : python.loads message = .ok (.dict members))
    (hhandles : ¬ HandlesMembers python allowed members) :
    ∃ e, parseReceivedMessage python allowed message = .error e := by
  rw [parseReceivedMessage_dict hloads]
  unfold HandlesMembers at hhandles
  cases herror : members.lookup (ascii "error") with
  | some error =>
    rw [herror] at hhandles
    obtain ⟨hid, hdict⟩ := Classical.not_imp.mp hhandles
    exact ⟨.typeError, parseErrorReply_raises herror hid (Bool.eq_false_iff.mpr hdict)⟩
  | none =>
    rw [herror] at hhandles
    obtain ⟨hresult, hrequest⟩ := not_or.mp hhandles
    rw [Option.isSome_none, if_neg Bool.false_ne_true, if_neg hresult]
    exact parseRequest_raises hrequest

/-- What is no object has no `get`. -/
theorem parseReceivedMessage_of_not_dict {value : PyValue}
    (hloads : python.loads message = .ok value) (hdict : value.isDict = false) :
    parseReceivedMessage python allowed message = .error .attributeError := by
  have hconvert : convertJsonToDict python message = .ok (none, value) := by
    unfold convertJsonToDict
    rw [hloads]
    rfl
  unfold parseReceivedMessage
  rw [hconvert]
  simp [bind, Except.bind, PyValue.get_of_not_dict hdict]

theorem parseReceivedMessage_of_error {e : PyError} (hloads : python.loads message = .error e) :
    parseReceivedMessage python allowed message =
      if e = .valueError then
        .ok ⟨some ERR_CODE_PARSER_ERROR, .none, .none, .unicode []⟩
      else .error e := by
  unfold parseReceivedMessage convertJsonToDict
  rw [hloads]
  cases e <;> rfl

end

/-- A message is parsed as it should be if and only if nothing is raised. -/
theorem parsesAsSpecified_iff (allowed : AllowedProcedures) (message : List UInt8) :
    ParsesAsSpecified python allowed message ↔ HandlesMessage python allowed message := by
  unfold ParsesAsSpecified HandlesMessage ValidMessage
  cases hloads : python.loads message with
  | error e =>
    rw [parseReceivedMessage_of_error hloads]
    by_cases hvalue : e = .valueError
    · rw [if_pos hvalue, hvalue]
      exact iff_of_true ⟨_, rfl, by simp⟩ (.inl rfl)
    · rw [if_neg hvalue]
      simp [hvalue]
  | ok value =>
    cases hdict : value.isDict with
    | false =>
      rw [parseReceivedMessage_of_not_dict hloads hdict]
      refine iff_of_false nofun ?_
      rintro (hraised | ⟨members, hvalue, -⟩)
      · cases hraised
      · obtain rfl := Except.ok.inj hvalue
        cases hdict
    | true =>
      obtain ⟨members, rfl⟩ : ∃ members, value = .dict members := by
        cases value with
        | dict members => exact ⟨members, rfl⟩
        | _ => cases hdict
      by_cases hhandles : HandlesMembers python allowed members
      · obtain ⟨pm, hparse, hcode⟩ := parseReceivedMessage_members hloads hhandles
        refine iff_of_true ⟨pm, hparse, hcode.trans ?_⟩ (.inr ⟨members, rfl, hhandles⟩)
        simp
      · obtain ⟨e, hparse⟩ := parseReceivedMessage_members_raises hloads hhandles
        rw [hparse]
        refine iff_of_false nofun ?_
        rintro (hraised | ⟨members', hvalue, hhandles'⟩)
        · cases hraised
        · obtain rfl : members = members' := by injection Except.ok.inj hvalue
          exact hhandles hhandles'

/-- `__messenger` raises what the parser raises, and nothing else. -/
theorem messenger_eq_ok_iff (allowed : AllowedProcedures) (message : List UInt8) :
    (∃ dispatched, messenger python allowed message = .ok dispatched) ↔
      ∃ pm, parseReceivedMessage python allowed message = .ok pm := by
  unfold messenger
  cases hparse : parseReceivedMessage python allowed message with
  | error e =>
    refine iff_of_false ?_ nofun
    rintro ⟨dispatched, hdispatched⟩
    cases hdispatched
  | ok pm =>
    refine iff_of_true ?_ ⟨pm, rfl⟩
    cases hlogged : pm.messageId.isNone && !pm.errorMessage.isNone with
    | true => exact ⟨none, if_pos hlogged⟩
    | false => exact ⟨some pm, if_neg (Bool.eq_false_iff.mp hlogged)⟩

/-! ## Messages that end the receiver -/

/-- A plugin that implements the exchange of profiles and the fetch of triggers. -/
def triggerPlugin : AllowedProcedures where
  names := [ascii "exchangeProfile", ascii "fetchTriggers"]
  isDictionary := true
  defined := by decide

/-- `{"error": "test", "id": 1}` -/
def brokenErrorReply : List UInt8 :=
  (ascii "\x7b\x22error\x22: \x22test\x22, \x22id\x22: 1\x7d").map UInt32.toUInt8

/-- `[]` -/
def emptyArray : List UInt8 := (ascii "[]").map UInt32.toUInt8

/-- Two messages as they are read. -/
def readsTwo : Interpreter where
  loads message :=
    if message = brokenErrorReply then
      .ok (.dict [(ascii "error", .unicode (ascii "test")), (ascii "id", .int 1)])
    else if message = emptyArray then .ok (.list [])
    else .error .valueError
  iteritems args := args
  iteritems_perm _ := List.Perm.refl _
  str _ := []

theorem not_parsesAsSpecified_brokenErrorReply_emptyArray :
    ¬ ParsesAsSpecified readsTwo triggerPlugin brokenErrorReply ∧
    ¬ ParsesAsSpecified readsTwo triggerPlugin emptyArray := by
  have herror : parseReceivedMessage readsTwo triggerPlugin brokenErrorReply =
      .error .typeError := rfl
  have harray : parseReceivedMessage readsTwo triggerPlugin emptyArray =
      .error .attributeError := rfl
  constructor
  · rintro ⟨pm, hparse, -⟩
    rw [herror] at hparse
    cases hparse
  · rintro ⟨pm, hparse, -⟩
    rw [harray] at hparse
    cases hparse

end Hatohol.Haplib.Receiver

import Hatohol.JSONParser
import Hatohol.Time.Digits

/-!
# GateJSONEventMessage

The events that come to the JSON gate (server/src/GateJSONEventMessage.cc). A message is checked
first, and then its members are read one by one with no check. The checks stop at the first error.
-/

namespace Hatohol

namespace GateJSON

/-- EVENT_TYPE_INVALID is left out. -/
inductive EventType where
  | good
  | bad
  | unknown
  | notification
  deriving DecidableEq, Repr

/-- NUM_TRIGGER_SEVERITY is left out. -/
inductive TriggerSeverityType where
  | unknown
  | info
  | warning
  | error
  | critical
  | emergency
  deriving DecidableEq, Repr

/-- What is left to GLib and to floating-point numbers: `json_generator_to_data`, the seconds and
    nanoseconds of a number (GateJSONEventMessage.cc:70-74) and `g_time_val_from_iso8601`, whose
    second part is in microseconds. -/
structure GLib where
  generate : JsonNode → String
  doubleTime : String → Timespec
  iso8601 : CString → Option (Int × Int)

end GateJSON

namespace GateJSONEventMessage

open GateJSON

/-- `g_type_name` of a value; what has no type is printed as a null pointer. -/
def typeName : ValueType → String
  | .boolean => "gboolean"
  | .int64 => "gint64"
  | .double => "gdouble"
  | .string => "gchararray"
  | .object => "JsonObject"
  | .array => "JsonArray"
  | .null | .unknown => "(null)"

/-- `json_node_get_string` of a string. -/
def getString : JsonNode → Option CString
  | .string value => some (.ofString value)
  | _ => none

/-- (GateJSONEventMessage.cc:142-159) -/
def parseSeverity (severity : CString) : Option TriggerSeverityType :=
  if severity.text = "unknown" then some .unknown
  else if severity.text = "info" then some .info
  else if severity.text = "warning" then some .warning
  else if severity.text = "error" then some .error
  else if severity.text = "critical" then some .critical
  else if severity.text = "emergency" then some .emergency
  else none

/-- (GateJSONEventMessage.cc:162-175) -/
def parseType (type : CString) : Option EventType :=
  if type.text = "good" then some .good
  else if type.text = "bad" then some .bad
  else if type.text = "unknown" then some .unknown
  else if type.text = "notification" then some .notification
  else none

variable (glib : GLib)

/-! ## The checks

What is thrown is the error that is added. -/

/-- An error is added unless the condition holds. -/
def check (p : Prop) [Decidable p] (error : String) : Except String Unit :=
  if p then pure () else throw error

/-- (GateJSONEventMessage.cc:199-211) The member is passed on to those who get it next. -/
def validateObjectMemberExistence (context : String) (object : JsonNode) (name : String) :
    Except String JsonNode :=
  match object.member name with
  | none => throw (context ++ "." ++ name ++ " must exist")
  | some memberNode => pure memberNode

/-- (GateJSONEventMessage.cc:213-237) -/
def validateObjectMember (context : String) (object : JsonNode) (name : String)
    (expectedValueType : ValueType) : Except String Unit := do
  let memberNode ← validateObjectMemberExistence context object name
  check (memberNode.valueType = expectedValueType)
    (context ++ "." ++ name ++ " must be " ++ typeName expectedValueType ++ ": " ++
      typeName memberNode.valueType ++ " <" ++ glib.generate memberNode ++ ">")

/-- (GateJSONEventMessage.cc:239-253) -/
def isValidTimeNode : JsonNode → Bool
  | .double _ => true
  | .string value => (glib.iso8601 (.ofString value)).isSome
  | _ => false

/-- (GateJSONEventMessage.cc:255-278) -/
def validateObjectMemberTime (context : String) (object : JsonNode) (name : String) :
    Except String Unit := do
  let memberNode ← validateObjectMemberExistence context object name
  check (isValidTimeNode glib memberNode)
    (context ++ "." ++ name ++ " must be UNIX time in double or ISO 8601 string: <" ++
      glib.generate memberNode ++ ">")

/-- (GateJSONEventMessage.cc:280-303) -/
def validateEnvelope (root : JsonNode) : Except String Unit := do
  check (root.valueType = .object) "JSON message must be an object"
  validateObjectMember glib "$" root "type" .string
  validateObjectMember glib "$" root "body" .object
  check (((root.member "type").bind getString).map CString.text = some "event")
    "$.type must be \"event\" for now"

/-- `validateBodyMemberSeverity` and `validateBodyMemberType` with `validateStringBodyMember`
    (GateJSONEventMessage.cc:321-395): a member that may be missing, and is a name otherwise. -/
def validateBodyMemberName {α : Type} (parse : CString → Option α) (what values : String)
    (body : JsonNode) (name : String) : Except String Unit :=
  match body.member name with
  | none => pure ()
  | some memberNode =>
    match getString memberNode with
    | none => throw ("$.body." ++ name ++ " must be string: <" ++ glib.generate memberNode ++ ">")
    | some text =>
      check (parse text).isSome
        ("$.body." ++ name ++ " must be valid " ++ what ++ ": <" ++ text.text ++ ">" ++ values)

def validateBodyMemberSeverity : JsonNode → String → Except String Unit :=
  validateBodyMemberName glib parseSeverity "severity"
    " available values: unknown, info, warning, error, critical emergency"

def validateBodyMemberType : JsonNode → String → Except String Unit :=
  validateBodyMemberName glib parseType "type" ": available values: good, bad, unknown"

/-- (GateJSONEventMessage.cc:397-412) -/
def validateEventBody (body : JsonNode) : Except String Unit := do
  validateObjectMember glib "$.body" body "id" .int64
  validateObjectMemberTime glib "$.body" body "timestamp"
  validateObjectMember glib "$.body" body "hostName" .string
  validateObjectMember glib "$.body" body "content" .string
  validateBodyMemberSeverity glib body "severity"
  validateBodyMemberType glib body "type"

/-- (GateJSONEventMessage.cc:44-56) -/
def validate (root : JsonNode) : Except String Unit := do
  validateEnvelope glib root
  validateEventBody glib ((root.member "body").getD .null)

/-! ## What is read

There is no result where GLib is given a node of another type. -/

/-- (GateJSONEventMessage.cc:120-130) -/
def getBody (root : JsonNode) : Option JsonNode := root.member "body"

def getID (root : JsonNode) : Option Int64 := do
  match ← (← getBody root).member "id" with
  | .int value => some value
  | _ => none

/-- (GateJSONEventMessage.cc:434-445) The ID is printed as a number without a sign. -/
def idString (id : Int64) : List Char :=
  let idString := Nat.toDigits 10 id.toUInt64.toNat
  let numPads : Int := 20 - idString.length
  if 0 < numPads then List.replicate numPads.toNat '0' ++ idString else idString

/-- (GateJSONEventMessage.cc:63-85) -/
def getTimestamp (root : JsonNode) : Option Timespec := do
  match ← (← getBody root).member "timestamp" with
  | .double text => some (glib.doubleTime text)
  | timestampNode => do
    let (sec, usec) ← glib.iso8601 (← getString timestampNode)
    some ⟨sec, usec * 1000⟩

def getHostName (root : JsonNode) : Option CString := do
  getString (← (← getBody root).member "hostName")

def getContent (root : JsonNode) : Option CString := do
  getString (← (← getBody root).member "content")

/-- `getSeverity` and `getType` (GateJSONEventMessage.cc:97-117) -/
def getName {α : Type} (parse : CString → Option α) (default : α) (name : String)
    (root : JsonNode) : Option α := do
  match (← getBody root).member name with
  | none => some default
  | some node => parse (← getString node)

def getSeverity : JsonNode → Option TriggerSeverityType :=
  getName parseSeverity .unknown "severity"

def getType : JsonNode → Option EventType := getName parseType .bad "type"

end GateJSONEventMessage

/-- What a message says. -/
structure GateJSONEventMessage where
  id : Int64
  timestamp : Timespec
  hostName : CString
  content : CString
  severity : GateJSON.TriggerSeverityType
  type : GateJSON.EventType
  deriving DecidableEq, Repr

namespace GateJSONEventMessage

open GateJSON

variable (glib : GLib)

/-- All that is read of a message. -/
def read (root : JsonNode) : Option GateJSONEventMessage := do
  some {
    id := ← getID root
    timestamp := ← getTimestamp glib root
    hostName := ← getHostName root
    content := ← getContent root
    severity := ← getSeverity root
    type := ← getType root }

/-! ## What passes -/

variable {glib}

theorem bind_ok_iff {α : Type} {x : Except String α} {f : α → Except String Unit} :
    (x >>= f) = .ok () ↔ ∃ a, x = .ok a ∧ f a = .ok () := by
  cases x with
  | error e => exact ⟨nofun, fun ⟨_, h, _⟩ => nomatch h⟩
  | ok a => exact ⟨fun h => ⟨a, rfl, h⟩, fun ⟨_, h, hf⟩ => Except.ok.inj h ▸ hf⟩

theorem andThen_ok_iff {x : Except String Unit} {f : Unit → Except String Unit} :
    (x >>= f) = .ok () ↔ x = .ok () ∧ f () = .ok () :=
  bind_ok_iff.trans ⟨fun ⟨_, h⟩ => h, fun h => ⟨(), h⟩⟩

theorem check_ok_iff {p : Prop} [Decidable p] {e : String} : check p e = .ok () ↔ p := by
  unfold check
  split
  next hp => exact ⟨fun _ => hp, fun _ => rfl⟩
  next hp => exact ⟨nofun, fun h => absurd h hp⟩

theorem validateObjectMemberExistence_ok_iff {context name : String} {object node : JsonNode} :
    validateObjectMemberExistence context object name = .ok node ↔
      object.member name = some node := by
  unfold validateObjectMemberExistence
  cases object.member name with
  | none => exact ⟨nofun, nofun⟩
  | some memberNode =>
    exact ⟨fun h => congrArg some (Except.ok.inj h), fun h => congrArg _ (Option.some.inj h)⟩

theorem validateObjectMember_ok_iff {context name : String} {object : JsonNode}
    {expected : ValueType} : validateObjectMember glib context object name expected = .ok () ↔
      ∃ node, object.member name = some node ∧ node.valueType = expected := by
  unfold validateObjectMember
  rw [bind_ok_iff]
  exact exists_congr fun node => and_congr validateObjectMemberExistence_ok_iff check_ok_iff

theorem valueType_eq_string {node : JsonNode} :
    node.valueType = .string ↔ (getString node).isSome := by
  cases node <;> simp [JsonNode.valueType, getString]

theorem validateBodyMemberName_ok_iff {α : Type} {parse : CString → Option α} {default : α}
    {what values name : String} {root body : JsonNode} (hbody : getBody root = some body) :
    validateBodyMemberName glib parse what values body name = .ok () ↔
      (getName parse default name root).isSome := by
  unfold validateBodyMemberName getName
  rw [hbody]
  simp only [Option.bind_eq_bind, Option.bind_some]
  cases body.member name with
  | none => exact ⟨fun _ => rfl, fun _ => rfl⟩
  | some node =>
    simp only
    cases getString node with
    | none => exact ⟨nofun, nofun⟩
    | some text =>
      exact check_ok_iff

theorem text_ok_iff {body : JsonNode} {name : String} :
    validateObjectMember glib "$.body" body name .string = .ok () ↔
      ((body.member name).bind getString).isSome := by
  rw [validateObjectMember_ok_iff]
  cases body.member name with
  | none => simp
  | some node => simp [valueType_eq_string]

theorem isSome_read_iff {root : JsonNode} : (read glib root).isSome ↔
    (getID root).isSome ∧ (getTimestamp glib root).isSome ∧ (getHostName root).isSome ∧
      (getContent root).isSome ∧ (getSeverity root).isSome ∧ (getType root).isSome := by
  unfold read
  cases getID root <;> cases getTimestamp glib root <;> cases getHostName root <;>
    cases getContent root <;> cases getSeverity root <;> cases getType root <;> simp

section Body

variable {root body : JsonNode} (hbody : getBody root = some body)

include hbody

theorem id_ok_iff :
    validateObjectMember glib "$.body" body "id" .int64 = .ok () ↔ (getID root).isSome := by
  rw [validateObjectMember_ok_iff, getID, hbody]
  simp only [Option.bind_eq_bind, Option.bind_some]
  cases body.member "id" with
  | none => simp
  | some node => cases node <;> simp [JsonNode.valueType]

theorem timestamp_ok_iff : validateObjectMemberTime glib "$.body" body "timestamp" = .ok () ↔
    (getTimestamp glib root).isSome := by
  unfold validateObjectMemberTime
  rw [bind_ok_iff, getTimestamp, hbody]
  simp only [validateObjectMemberExistence_ok_iff, check_ok_iff, Option.bind_eq_bind,
    Option.bind_some]
  cases body.member "timestamp" with
  | none => simp
  | some node =>
    cases node with
    | string value =>
      cases htime : glib.iso8601 (.ofString value) <;>
        simp [isValidTimeNode, getString, htime]
    | _ => simp [isValidTimeNode, getString]

theorem validateEventBody_ok_iff :
    validateEventBody glib body = .ok () ↔ (read glib root).isSome := by
  have hhost : getHostName root = (body.member "hostName").bind getString := by
    rw [getHostName, hbody]
    rfl
  have hcontent : getContent root = (body.member "content").bind getString := by
    rw [getContent, hbody]
    rfl
  unfold validateEventBody
  simp only [andThen_ok_iff]
  rw [id_ok_iff hbody, timestamp_ok_iff hbody, text_ok_iff, text_ok_iff, ← hhost, ← hcontent,
    isSome_read_iff]
  exact Iff.rfl.and (Iff.rfl.and (Iff.rfl.and (Iff.rfl.and
    ((validateBodyMemberName_ok_iff hbody).and (validateBodyMemberName_ok_iff hbody)))))

end Body

theorem valueType_of_member {node member : JsonNode} {name : String}
    (hmember : node.member name = some member) : node.valueType = .object := by
  cases node with
  | object => rfl
  | _ => cases hmember

/-- The body of a message with an ID is an object. -/
theorem body_of_getID {root : JsonNode} (hid : (getID root).isSome) :
    ∃ body, getBody root = some body ∧ body.valueType = .object := by
  unfold getID at hid
  cases hbody : getBody root with
  | none => simp [hbody] at hid
  | some body =>
    cases hmember : body.member "id" with
    | none => simp [hbody, hmember] at hid
    | some node => exact ⟨body, rfl, valueType_of_member hmember⟩

/-- A message passes exactly when it is an event and every getter finds what it reads. -/
theorem validate_ok_iff {root : JsonNode} : validate glib root = .ok () ↔
    ((root.member "type").bind getString).map CString.text = some "event" ∧
      (read glib root).isSome := by
  unfold validate validateEnvelope
  simp only [andThen_ok_iff, check_ok_iff, validateObjectMember_ok_iff]
  constructor
  · rintro ⟨⟨-, -, ⟨body, hbody, -⟩, htype⟩, hpass⟩
    rw [hbody] at hpass
    exact ⟨htype, (validateEventBody_ok_iff hbody).mp hpass⟩
  · rintro ⟨htype, hread⟩
    obtain ⟨body, hbody, hvalue⟩ := body_of_getID (isSome_read_iff.mp hread).1
    have hmember : root.member "body" = some body := hbody
    have hstring : ∃ node, root.member "type" = some node ∧ node.valueType = .string := by
      cases hnode : root.member "type" with
      | none => simp [hnode] at htype
      | some node =>
        refine ⟨node, rfl, valueType_eq_string.mpr ?_⟩
        cases hget : getString node with
        | none => simp [hnode, hget] at htype
        | some text => rfl
    refine ⟨⟨valueType_of_member hmember, hstring, ⟨body, hmember, hvalue⟩, htype⟩, ?_⟩
    rw [hmember]
    exact (validateEventBody_ok_iff hbody).mpr hread

/-! ## The texts of the IDs -/

theorem idString_eq (id : Int64) : idString id = Time.padded 20 id.toUInt64.toNat := by
  unfold idString Time.padded Time.zfill
  dsimp only
  split
  next hpads =>
    congr 2
    omega
  next hpads =>
    have hzero : 20 - (Nat.toDigits 10 id.toUInt64.toNat).length = 0 := by omega
    rw [hzero]
    rfl

theorem length_idString (id : Int64) : (idString id).length = 20 := by
  rw [idString_eq]
  exact Time.length_padded (by decide) (id.toUInt64.toNat_lt.trans (by decide))

/-- The texts are in the order of the unsigned numbers. -/
theorem idString_lt_iff {a b : Int64} : idString a < idString b ↔ a.toUInt64 < b.toUInt64 := by
  have hlength : (Time.padded 20 a.toUInt64.toNat).length =
      (Time.padded 20 b.toUInt64.toNat).length := by
    rw [← idString_eq, ← idString_eq, length_idString, length_idString]
  rw [idString_eq, idString_eq, Time.lt_iff_value_lt (Time.allDigits_padded _ _)
    (Time.allDigits_padded _ _) hlength, Time.value_padded, Time.value_padded,
    UInt64.lt_iff_toNat_lt]

theorem idString_inj {a b : Int64} : idString a = idString b ↔ a = b := by
  refine ⟨fun h => ?_, congrArg _⟩
  have hvalue := congrArg Time.value h
  rw [idString_eq, idString_eq, Time.value_padded, Time.value_padded] at hvalue
  cases a
  cases b
  exact congrArg Int64.ofUInt64 (UInt64.toNat_inj.mp hvalue)

end GateJSONEventMessage

end Hatohol

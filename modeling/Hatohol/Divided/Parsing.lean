import Hatohol.HatoholArmPluginGateHAPI2
import Hatohol.JSONParser

/-!
# How put requests are read

The handlers of the put procedures read the parameters of a request with the one cursor of the
parser, and with it then the ID for the response (HatoholArmPluginGateHAPI2.cc:1663-3132). What the
parse functions of the procedures have in common is `ElementsFormat.parse`. All members of an
element are texts, or arrays of texts.
-/

namespace Hatohol

open Machine JSONParser

variable (conv : JsonConversions)

/-! ## Members -/

/-- `read` into a string. -/
def JsonConversions.getText (node : JsonNode) : String := (conv.getString node).getD ""

def readText (name : String) : ParserM (Option String) := JSONParser.read conv.getText name

/-- A member that is only read if it is there. -/
def readIfMember {β : Type} (convert : JsonNode → β) (name : String) : ParserM (Option β) := do
  if ← isMember name then JSONParser.read convert name else return none

/-- A text of an element. The lack of an optional one is no error. -/
inductive Field where
  | mandatory (name : String)
  | optional (name : String)
  deriving DecidableEq, Repr

def parseField : Field → ParserM ((String × String) × List String)
  | .mandatory name => do
      let (value, errors) := parseAsMandatory name (← readText conv name) ""
      return ((name, value), errors)
  | .optional name => do
      let value ← readText conv name
      return ((name, value.getD ""), [])

def parseFields : List Field → ParserM (List (String × String) × List String)
  | [] => return ([], [])
  | field :: fields => do
      let (value, errors) ← parseField conv field
      let (values, errors') ← parseFields fields
      return (value :: values, errors ++ errors')

/-- The check of `CHECK_MANDATORY_ARRAY_EXISTENCE`. -/
def checkMandatoryArrayExistence (name : String) : ParserM (List String) := do
  if (← getValueType name) = .array then return []
  else return ["Failed to parse mandatory object:  '" ++ name ++ "' does not exist."]

/-- The texts of an array, from an index on. -/
def readTexts : (num index : Nat) → ParserM (List String)
  | 0, _ => return []
  | num + 1, index => do
      let text ← readElement conv.getText index
      let texts ← readTexts num (index + 1)
      return text.getD "" :: texts

/-! ## Elements -/

/-- An array of texts within an element. Where it is missing, either the parse function returns at
    once, or it ends the element and breaks its loop. -/
structure ArrayField where
  name : String
  breaks : Bool
  deriving DecidableEq, Repr

/-- Where the parse functions differ. -/
structure ElementsFormat where
  /-- Members of the parameters that are read in front of the array. -/
  before : List Field
  arrayName : String
  elementError : String
  /-- The greatest number of elements, and the error for more of them. -/
  limit : Option (Nat × String)
  fields : List Field
  texts : Option ArrayField
  fieldsAfter : List Field

structure PutElement where
  fields : List (String × String)
  texts : List String
  deriving DecidableEq, Repr

/-- How the loop over the elements goes on. -/
inductive ElementEnd where
  | parsed (element : PutElement)
  | broken
  | returned
  deriving DecidableEq, Repr

namespace ElementsFormat

variable (format : ElementsFormat)

/-- The array of texts, if the element has one, and it is there. -/
def parseTexts : ParserM (Option (List String) × List String) := do
  match format.texts with
  | none => return (some [], [])
  | some field =>
      let errors ← checkMandatoryArrayExistence field.name
      if errors ≠ [] then
        if field.breaks then endElement
        return (none, errors)
      else
        let _ ← startObject field.name
        let num ← countElements
        let texts ← readTexts conv num 0
        endObject
        return (some texts, [])

def parseElement (index : Nat) : ParserM (ElementEnd × List String) := do
  if ← startElement index then
    let (values, errors) ← parseFields conv format.fields
    let (texts, textsErrors) ← format.parseTexts conv
    match texts with
    | none =>
        return (if format.texts.any ArrayField.breaks then .broken else .returned,
          errors ++ textsErrors)
    | some texts =>
        let (valuesAfter, errorsAfter) ← parseFields conv format.fieldsAfter
        endElement
        return (.parsed ⟨values ++ valuesAfter, texts⟩, errors ++ errorsAfter)
  else
    endObject
    return (.returned, [format.elementError])

/-- The loop over the elements. The first result says whether it has come to its end. -/
def parseElements : (num index : Nat) → ParserM (Bool × List PutElement × List String)
  | 0, _ => return (true, [], [])
  | num + 1, index => do
      let (result, errors) ← format.parseElement conv index
      match result with
      | .returned => return (false, [], errors)
      | .broken => return (true, [], errors)
      | .parsed element =>
          let (ended, elements, errors') ← parseElements num (index + 1)
          return (ended, element :: elements, errors ++ errors')

/-- The common body of the parse functions: the elements and the errors. -/
def parse : ParserM (List PutElement × List String) := do
  let (values, errors) ← parseFields conv format.before
  let arrayErrors ← checkMandatoryArrayExistence format.arrayName
  if arrayErrors ≠ [] then return ([], errors ++ arrayErrors)
  else
    let _ ← startObject format.arrayName
    let num ← countElements
    match format.limit.filter (·.1 < num) with
    | some (_, limitError) =>
        endObject
        return ([], errors ++ [limitError])
    | none =>
        let (ended, elements, elementErrors) ← format.parseElements conv num 0
        if ended then endObject
        let elements := elements.map fun element =>
          { element with fields := values ++ element.fields }
        return (elements, errors ++ elementErrors)

end ElementsFormat

/-- `parseItemParams` (lines 1676-1744). -/
def parseItemParams : ElementsFormat where
  before := []
  arrayName := "items"
  elementError := "Failed to parse item array object."
  limit := none
  fields := [.mandatory "itemId", .mandatory "hostId", .mandatory "brief",
    .mandatory "lastValueTime", .mandatory "lastValue"]
  texts := some ⟨"itemGroupName", false⟩
  fieldsAfter := [.mandatory "unit"]

/-- `parseHistoryParams` (lines 1849-1880). -/
def parseHistoryParams : ElementsFormat where
  before := [.mandatory "itemId"]
  arrayName := "samples"
  elementError := "Failed to parse samples array object."
  limit := none
  fields := [.mandatory "value", .mandatory "time"]
  texts := none
  fieldsAfter := []

/-- `parseHostsParams` (lines 2006-2034). -/
def parseHostsParams : ElementsFormat where
  before := []
  arrayName := "hosts"
  elementError := "Failed to parse hosts array object."
  limit := none
  fields := [.mandatory "hostId", .mandatory "hostName"]
  texts := none
  fieldsAfter := []

/-- `parseHostGroupsParams` (lines 2181-2208). -/
def parseHostGroupsParams : ElementsFormat where
  before := []
  arrayName := "hostGroups"
  elementError := "Failed to parse hostGroups array object."
  limit := none
  fields := [.mandatory "groupId", .mandatory "groupName"]
  texts := none
  fieldsAfter := []

/-- `parseHostGroupMembershipParams` (lines 2338-2389). -/
def parseHostGroupMembershipParams : ElementsFormat where
  before := []
  arrayName := "hostGroupMembership"
  elementError := "Failed to parse hostGroupMembership array object."
  limit := none
  fields := [.mandatory "hostId"]
  texts := some ⟨"groupIds", true⟩
  fieldsAfter := []

/-- `parseTriggersParams` (lines 2603-2646). -/
def parseTriggersParams : ElementsFormat where
  before := []
  arrayName := "triggers"
  elementError := "Failed to parse triggers array object."
  limit := none
  fields := [.mandatory "triggerId", .mandatory "status", .mandatory "severity",
    .mandatory "lastChangeTime", .mandatory "hostId", .mandatory "hostName", .mandatory "brief",
    .mandatory "extendedInfo"]
  texts := none
  fieldsAfter := []

/-- `parseEventsParams` (lines 2813-2875). -/
def parseEventsParams : ElementsFormat where
  before := []
  arrayName := "events"
  elementError := "Failed to parse events array object."
  limit := some (1000, "Event Object is too large. Object size limit(1000) exceeded.\n")
  fields := [.mandatory "eventId", .mandatory "time", .mandatory "type", .optional "triggerId",
    .optional "status", .optional "severity", .optional "hostId", .optional "hostName",
    .mandatory "brief", .optional "extendedInfo"]
  texts := none
  fieldsAfter := []

/-- `parseHostParentsParams` (lines 3003-3034). -/
def parseHostParentsParams : ElementsFormat where
  before := []
  arrayName := "hostParents"
  elementError := "Failed to parse hostParents array object."
  limit := none
  fields := [.mandatory "childHostId", .mandatory "parentHostId"]
  texts := none
  fieldsAfter := []

namespace PutProcedure

def format : PutProcedure → ElementsFormat
  | .putItems => parseItemParams
  | .putHistory => parseHistoryParams
  | .putHosts => parseHostsParams
  | .putHostGroups => parseHostGroupsParams
  | .putHostGroupMembership => parseHostGroupMembershipParams
  | .putTriggers => parseTriggersParams
  | .putEvents => parseEventsParams
  | .putHostParents => parseHostParentsParams

def readsFetchId : PutProcedure → Bool
  | .putItems | .putHistory | .putTriggers | .putEvents => true
  | _ => false

def readsLastInfo : PutProcedure → Bool
  | .putItems | .putHistory => false
  | _ => true

end PutProcedure

/-! ## Where the cursor is left -/

section

variable {node : JsonNode} {up : List JsonNode}

theorem runs_readText (name : String) :
    Runs (readText conv name) (node :: up) ((node.member name).map conv.getText) (node :: up) :=
  runs_read _ name

theorem runs_readIfMember {β : Type} (convert : JsonNode → β) (name : String) :
    Runs (readIfMember convert name) (node :: up) ((node.member name).map convert)
      (node :: up) := by
  refine (runs_isMember name).bind ?_
  cases hmember : node.member name with
  | none => exact runs_pure _ _
  | some child =>
    have hread : Runs (JSONParser.read convert name) (node :: up)
        ((node.member name).map convert) (node :: up) := runs_read convert name
    rw [hmember] at hread
    exact hread

/-- Whether reading the field gives no error. -/
def Field.IsThere (node : JsonNode) : Field → Prop
  | .mandatory name => (node.member name).isSome
  | .optional _ => True

/-- The only error is the lack of a mandatory field, whatever value the field has. -/
theorem runs_parseField (field : Field) :
    ∃ value errors, Runs (parseField conv field) (node :: up) (value, errors) (node :: up) ∧
      (errors = [] ↔ field.IsThere node) := by
  cases field with
  | mandatory name =>
    refine ⟨_, _, (runs_readText conv name).bind (runs_pure _ _), ?_⟩
    change _ ↔ (node.member name).isSome = true
    cases node.member name with
    | none => exact iff_of_false (List.cons_ne_nil _ _) Bool.false_ne_true
    | some child => exact iff_of_true rfl rfl
  | optional name =>
    exact ⟨_, _, (runs_readText conv name).bind (runs_pure _ _), iff_of_true rfl trivial⟩

theorem runs_parseFields (fields : List Field) :
    ∃ values errors, Runs (parseFields conv fields) (node :: up) (values, errors) (node :: up) ∧
      (errors = [] ↔ ∀ field ∈ fields, field.IsThere node) := by
  induction fields with
  | nil => exact ⟨[], [], runs_pure _ _, by simp⟩
  | cons field fields ih =>
    obtain ⟨value, errors, hfield, herrors⟩ : ∃ value errors, Runs (parseField conv field)
        (node :: up) (value, errors) (node :: up) ∧ (errors = [] ↔ field.IsThere node) :=
      runs_parseField conv field
    obtain ⟨values, errors', hfields, herrors'⟩ := ih
    refine ⟨value :: values, errors ++ errors',
      hfield.bind (hfields.bind (runs_pure _ _)), ?_⟩
    rw [List.append_eq_nil_iff, herrors, herrors', List.forall_mem_cons]

theorem runs_checkMandatoryArrayExistence {name : String} (harray : node.memberType name = .array) :
    Runs (checkMandatoryArrayExistence name) (node :: up) [] (node :: up) := by
  refine (runs_getValueType name).bind ?_
  rw [if_pos harray]
  exact runs_pure _ _

theorem runs_checkMandatoryArrayExistence_missing {name : String}
    (harray : node.memberType name ≠ .array) :
    ∃ error, Runs (checkMandatoryArrayExistence name) (node :: up) [error] (node :: up) := by
  refine ⟨"Failed to parse mandatory object:  '" ++ name ++ "' does not exist.",
    (runs_getValueType name).bind ?_⟩
  rw [if_neg harray]
  exact runs_pure _ _

theorem member_of_memberType {name : String} (harray : node.memberType name = .array) :
    ∃ elements, node.member name = some (.array elements) := by
  unfold JsonNode.memberType at harray
  cases hmember : node.member name with
  | none =>
    rw [hmember] at harray
    cases harray
  | some child =>
    rw [hmember] at harray
    cases child with
    | array elements => exact ⟨elements, rfl⟩
    | _ => cases harray

/-- Reading the texts goes over all of them. -/
theorem stays_readTexts (elements : List JsonNode) (num index : Nat)
    (hnum : index + num ≤ elements.length) :
    Stays (readTexts conv num index) (.array elements :: up) := by
  induction num generalizing index with
  | zero => exact stays_pure _ _
  | succ num ih =>
    have helement : elements[index]? = some elements[index] := List.getElem?_eq_getElem (by omega)
    refine (runs_readElement conv.getText helement).stays.bind fun _ => ?_
    exact (ih (index + 1) (by omega)).bind fun _ => stays_pure _ _

end

namespace ElementsFormat

variable {format : ElementsFormat} {node : JsonNode} {up : List JsonNode}

/-- An element in which the parse function returns with the element and the array being open. -/
def sticks (format : ElementsFormat) (element : JsonNode) : Bool :=
  match format.texts with
  | some field => !field.breaks && element.memberType field.name ≠ .array
  | none => false

/-- The element in which the parse function returns. -/
def stuckElement (format : ElementsFormat) (params : JsonNode) : Option JsonNode :=
  match params.member format.arrayName with
  | some (.array elements) => elements.find? format.sticks
  | _ => none

/-- The text array of an element is there, or the format has none. -/
def hasTexts (format : ElementsFormat) (element : JsonNode) : Prop :=
  ∀ field, format.texts = some field → element.memberType field.name = .array

theorem runs_parseTexts (htexts : format.hasTexts node) :
    ∃ texts, Runs (format.parseTexts conv) (node :: up) (some texts, []) (node :: up) := by
  unfold parseTexts
  cases hfield : format.texts with
  | none => exact ⟨_, runs_pure _ _⟩
  | some field =>
    have harray := htexts field hfield
    obtain ⟨elements, hmember⟩ := member_of_memberType harray
    obtain ⟨texts, hread⟩ : Stays (readTexts conv elements.length 0)
        (.array elements :: node :: up) := stays_readTexts conv elements _ 0 (by omega)
    exact ⟨texts, (runs_checkMandatoryArrayExistence harray).bind
      ((runs_startObject hmember).bind ((runs_countElements elements).bind
        (hread.bind (runs_endObject.bind (runs_pure _ _)))))⟩

/-- Where the text array is missing, the element is ended if the loop is broken. -/
theorem runs_parseTexts_missing {field : ArrayField} (hfield : format.texts = some field)
    (harray : node.memberType field.name ≠ .array) :
    ∃ error, Runs (format.parseTexts conv) (node :: up) (none, [error])
      (if field.breaks then up else node :: up) := by
  obtain ⟨error, hcheck⟩ : ∃ error, Runs (checkMandatoryArrayExistence field.name) (node :: up)
      [error] (node :: up) := runs_checkMandatoryArrayExistence_missing harray
  unfold parseTexts
  rw [hfield]
  refine ⟨error, hcheck.bind ?_⟩
  rw [if_pos (List.cons_ne_nil _ _)]
  cases field.breaks with
  | true => exact runs_endObject.bind (runs_pure _ _)
  | false => exact runs_pure _ _

/-- All the mandatory members of an element are there. -/
def CompleteElement (format : ElementsFormat) (element : JsonNode) : Prop :=
  format.hasTexts element ∧
    ∀ field ∈ format.fields ++ format.fieldsAfter, field.IsThere element

section

variable {elements : List JsonNode} {index : Nat} {element : JsonNode}
  (helement : elements[index]? = some element)

include helement

theorem runs_parseElement (htexts : format.hasTexts element) :
    ∃ parsed errors, Runs (format.parseElement conv index) (.array elements :: up)
      (.parsed parsed, errors) (.array elements :: up) ∧
      (errors = [] ↔ format.CompleteElement element) := by
  obtain ⟨values, errors, hvalues, herrors⟩ : ∃ values errors, Runs
      (parseFields conv format.fields) (element :: .array elements :: up) (values, errors)
      (element :: .array elements :: up) ∧
      (errors = [] ↔ ∀ field ∈ format.fields, field.IsThere element) := runs_parseFields conv _
  obtain ⟨texts, hread⟩ : ∃ texts, Runs (format.parseTexts conv)
      (element :: .array elements :: up) (some texts, []) (element :: .array elements :: up) :=
    runs_parseTexts conv htexts
  obtain ⟨valuesAfter, errorsAfter, hafter, herrorsAfter⟩ : ∃ values errors, Runs
      (parseFields conv format.fieldsAfter) (element :: .array elements :: up) (values, errors)
      (element :: .array elements :: up) ∧
      (errors = [] ↔ ∀ field ∈ format.fieldsAfter, field.IsThere element) := runs_parseFields conv _
  refine ⟨_, _, (runs_startElement helement).bind (hvalues.bind (hread.bind
    (hafter.bind (runs_endObject.bind (runs_pure _ _))))), ?_⟩
  rw [List.append_eq_nil_iff, herrors, herrorsAfter, CompleteElement, List.forall_mem_append,
    and_iff_right htexts]

theorem runs_parseElement_missing {field : ArrayField} (hfield : format.texts = some field)
    (harray : element.memberType field.name ≠ .array) :
    ∃ errors, Runs (format.parseElement conv index) (.array elements :: up)
      (if field.breaks then .broken else .returned, errors)
      (if field.breaks then .array elements :: up else element :: .array elements :: up) ∧
      errors ≠ [] := by
  obtain ⟨values, errors, hvalues, -⟩ : ∃ values errors, Runs (parseFields conv format.fields)
      (element :: .array elements :: up) (values, errors) (element :: .array elements :: up) ∧
      (errors = [] ↔ ∀ field ∈ format.fields, field.IsThere element) := runs_parseFields conv _
  obtain ⟨error, hread⟩ : ∃ error, Runs (format.parseTexts conv)
      (element :: .array elements :: up) (none, [error])
      (if field.breaks then .array elements :: up else element :: .array elements :: up) :=
    runs_parseTexts_missing conv hfield harray
  refine ⟨errors ++ [error], (runs_startElement helement).bind (hvalues.bind (hread.bind ?_)),
    by simp⟩
  rw [hfield]
  exact runs_pure _ _

end

/-- The loop leaves the cursor at the array, or in the first element in which it returns. It has no
    errors if all elements are complete. -/
theorem runs_parseElements (elements : List JsonNode) (num index : Nat)
    (hnum : index + num = elements.length) :
    ∃ parsed errors, Runs (format.parseElements conv num index) (.array elements :: up)
      (((elements.drop index).find? format.sticks).isNone, parsed, errors)
      (((elements.drop index).find? format.sticks).toList ++ .array elements :: up) ∧
      (errors = [] ↔ ∀ element ∈ elements.drop index, format.CompleteElement element) := by
  induction num generalizing index with
  | zero =>
    rw [List.drop_eq_nil_of_le (by omega)]
    exact ⟨_, _, runs_pure _ _, by simp⟩
  | succ num ih =>
    have helement : elements[index]? = some elements[index] := List.getElem?_eq_getElem (by omega)
    rw [List.drop_eq_getElem_cons (by omega), List.forall_mem_cons]
    by_cases htexts : format.hasTexts elements[index]
    · have hsticks : format.sticks elements[index] = false := by
        unfold sticks
        cases hfield : format.texts with
        | none => rfl
        | some field => simp [htexts field hfield]
      rw [List.find?_cons_of_neg (by simp [hsticks])]
      obtain ⟨parsed, errors, hparse, herrors⟩ : ∃ parsed errors, Runs
          (format.parseElement conv index) (.array elements :: up) (.parsed parsed, errors)
          (.array elements :: up) ∧ (errors = [] ↔ format.CompleteElement elements[index]) :=
        runs_parseElement conv helement htexts
      obtain ⟨parsed', errors', hrest, herrors'⟩ := ih (index + 1) (by omega)
      refine ⟨_, _, hparse.bind (hrest.bind (runs_pure _ _)), ?_⟩
      rw [List.append_eq_nil_iff, herrors, herrors']
    · have hincomplete : ¬ (format.CompleteElement elements[index] ∧
          ∀ element ∈ elements.drop (index + 1), format.CompleteElement element) :=
        fun hcomplete => htexts hcomplete.1.1
      unfold hasTexts at htexts
      push Not at htexts
      obtain ⟨field, hfield, harray⟩ := htexts
      obtain ⟨errors, hparse, herrors⟩ : ∃ errors, Runs (format.parseElement conv index)
          (.array elements :: up) (if field.breaks then .broken else .returned, errors)
          (if field.breaks then .array elements :: up
            else elements[index] :: .array elements :: up) ∧ errors ≠ [] :=
        runs_parseElement_missing conv helement hfield harray
      cases hbreaks : field.breaks with
      | true =>
        have hsticks : ∀ element ∈ elements[index] :: elements.drop (index + 1),
            ¬ format.sticks element = true := by
          intro element _
          simp [sticks, hfield, hbreaks]
        rw [List.find?_eq_none.mpr hsticks]
        rw [hbreaks] at hparse
        exact ⟨_, _, hparse.bind (runs_pure _ _), iff_of_false herrors hincomplete⟩
      | false =>
        have hsticks : format.sticks elements[index] = true := by
          simp [sticks, hfield, hbreaks, harray]
        rw [List.find?_cons_of_pos hsticks]
        rw [hbreaks] at hparse
        exact ⟨_, _, hparse.bind (runs_pure _ _), iff_of_false herrors hincomplete⟩

/-- Where the cursor is after the parse function. -/
def leaves (format : ElementsFormat) (params : JsonNode) (up : List JsonNode) : List JsonNode :=
  match params.member format.arrayName with
  | some (.array elements) =>
      match elements.find? format.sticks with
      | some element => element :: .array elements :: params :: up
      | none => params :: up
  | _ => params :: up

theorem leaves_of_none (hstuck : format.stuckElement node = none) :
    format.leaves node up = node :: up := by
  unfold stuckElement at hstuck
  unfold leaves
  cases hmember : node.member format.arrayName with
  | none => rfl
  | some child =>
    cases child with
    | array elements =>
      rw [hmember] at hstuck
      dsimp only at hstuck ⊢
      rw [hstuck]
    | _ => rfl

theorem leaves_of_some {element : JsonNode} (hstuck : format.stuckElement node = some element) :
    ∃ elements, ∀ up, format.leaves node up = element :: .array elements :: node :: up := by
  unfold stuckElement at hstuck
  unfold leaves
  cases hmember : node.member format.arrayName with
  | none =>
    rw [hmember] at hstuck
    cases hstuck
  | some child =>
    rw [hmember] at hstuck
    cases child with
    | array elements =>
      refine ⟨elements, fun up => ?_⟩
      dsimp only at hstuck ⊢
      rw [hstuck]
    | _ => cases hstuck

theorem leaves_of_ne_array (harray : node.memberType format.arrayName ≠ .array) :
    format.leaves node up = node :: up := by
  refine leaves_of_none ?_
  unfold stuckElement
  unfold JsonNode.memberType at harray
  split
  case h_1 elements hmember =>
    rw [hmember] at harray
    exact absurd rfl harray
  case h_2 => rfl

/-- The parameters have the array, not too long, and with all the mandatory members. -/
structure Complete (format : ElementsFormat) (params : JsonNode) : Prop where
  before : ∀ field ∈ format.before, field.IsThere params
  array : ∃ elements, params.member format.arrayName = some (.array elements) ∧
    (∀ limit ∈ format.limit, elements.length ≤ limit.1) ∧
    ∀ element ∈ elements, format.CompleteElement element

/-- Where the array is, there is nothing else to be complete. -/
theorem complete_iff {elements : List JsonNode}
    (hmember : node.member format.arrayName = some (.array elements)) :
    format.Complete node ↔ (∀ field ∈ format.before, field.IsThere node) ∧
      (∀ limit ∈ format.limit, elements.length ≤ limit.1) ∧
      ∀ element ∈ elements, format.CompleteElement element := by
  constructor
  · rintro ⟨hbefore, elements', hmember', hlimit, hcomplete⟩
    rw [hmember] at hmember'
    obtain rfl : elements = elements' := by injection Option.some.inj hmember'
    exact ⟨hbefore, hlimit, hcomplete⟩
  · rintro ⟨hbefore, hlimit, hcomplete⟩
    exact ⟨hbefore, elements, hmember, hlimit, hcomplete⟩

/-- An array that is too long is ended at once. -/
theorem runs_parse (hlimit : format.limit = none ∨ format.texts = none) :
    ∃ parsed errors, Runs (format.parse conv) (node :: up) (parsed, errors)
      (format.leaves node up) ∧ (errors = [] ↔ format.Complete node) := by
  obtain ⟨values, errors, hvalues, herrors⟩ : ∃ values errors, Runs
      (parseFields conv format.before) (node :: up) (values, errors) (node :: up) ∧
      (errors = [] ↔ ∀ field ∈ format.before, field.IsThere node) := runs_parseFields conv _
  by_cases harray : node.memberType format.arrayName = .array
  · obtain ⟨elements, hmember⟩ := member_of_memberType harray
    have hcheck : Runs (checkMandatoryArrayExistence format.arrayName) (node :: up) [] (node :: up) :=
      runs_checkMandatoryArrayExistence harray
    have hstart : Runs (startObject format.arrayName) (node :: up) true
        (.array elements :: node :: up) := runs_startObject hmember
    have hcount : Runs countElements (.array elements :: node :: up) elements.length
        (.array elements :: node :: up) := runs_countElements elements
    obtain ⟨parsed, elementErrors, hparse, helementErrors⟩ : ∃ parsed errors,
        Runs (format.parseElements conv elements.length 0) (.array elements :: node :: up)
          (((elements.drop 0).find? format.sticks).isNone, parsed, errors)
          (((elements.drop 0).find? format.sticks).toList ++ .array elements :: node :: up) ∧
        (errors = [] ↔ ∀ element ∈ elements.drop 0, format.CompleteElement element) :=
      runs_parseElements conv elements elements.length 0 (Nat.zero_add _)
    rw [List.drop_zero] at hparse helementErrors
    rw [complete_iff hmember]
    unfold leaves
    rw [hmember]
    dsimp only
    cases hfilter : format.limit.filter (·.1 < elements.length) with
    | some limit =>
      obtain ⟨hsome, hover⟩ := Option.filter_eq_some_iff.mp hfilter
      have htexts : format.texts = none := by
        refine hlimit.resolve_left fun hnone => ?_
        rw [hnone] at hsome
        cases hsome
      have hsticks : elements.find? format.sticks = none := by
        refine List.find?_eq_none.mpr fun element _ => ?_
        simp [sticks, htexts]
      rw [hsticks]
      refine ⟨[], errors ++ [limit.2], hvalues.bind (hcheck.bind (hstart.bind
        (hcount.bind ?_))), iff_of_false (by simp) ?_⟩
      · rw [hfilter]
        exact runs_endObject.bind (runs_pure _ _)
      · rintro ⟨-, hshort, -⟩
        have hle := hshort limit hsome
        simp only [decide_eq_true_eq] at hover
        omega
    | none =>
      have hshort : ∀ limit ∈ format.limit, elements.length ≤ limit.1 := by
        intro limit hmem
        have hnot := Option.filter_eq_none_iff.mp hfilter limit hmem
        simpa using hnot
      refine ⟨parsed.map fun element => { element with fields := values ++ element.fields },
        errors ++ elementErrors, hvalues.bind (hcheck.bind (hstart.bind (hcount.bind ?_))), ?_⟩
      · rw [hfilter]
        refine hparse.bind ?_
        cases elements.find? format.sticks with
        | none => exact runs_endObject.bind (runs_pure _ _)
        | some element => exact runs_pure _ _
      · rw [List.append_eq_nil_iff, herrors, helementErrors, and_iff_right hshort]
  · obtain ⟨error, hcheck⟩ : ∃ error, Runs (checkMandatoryArrayExistence format.arrayName)
        (node :: up) [error] (node :: up) := runs_checkMandatoryArrayExistence_missing harray
    rw [leaves_of_ne_array harray]
    refine ⟨[], errors ++ [error], hvalues.bind (hcheck.bind ?_), iff_of_false (by simp) ?_⟩
    · rw [if_pos (List.cons_ne_nil _ _)]
      exact runs_pure _ _
    · rintro ⟨-, elements, hmember, -⟩
      refine harray ?_
      unfold JsonNode.memberType
      rw [hmember]
      rfl

end ElementsFormat

end Hatohol

import Hatohol.HostResourceQueryOption

/-!
# JSONParser

The reader of JSON documents (server/common/JSONParser.cc): a cursor in a tree of json-glib. It has
a current node and the one to which `endObject` goes back, and there is no stack of nodes: what is
before that one is its parent. Only documents that json-glib has accepted are read.
-/

namespace Hatohol

/-- A node of json-glib's tree. -/
inductive JsonNode where
  | null
  | boolean (value : Bool)
  | int (value : Int64)
  | double (text : String)
  | string (value : String)
  | array (elements : List JsonNode)
  | object (members : List (String × JsonNode))

/-- `JSONParser::ValueType` -/
inductive ValueType where
  | unknown
  | null
  | boolean
  | int64
  | double
  | string
  | object
  | array
  deriving DecidableEq, Repr

namespace JsonNode

/-- `json_object_get_member` of `json_node_get_object`. Only an object has members. -/
def member (node : JsonNode) (name : String) : Option JsonNode :=
  match node with
  | .object members => members.lookup name
  | _ => none

def valueType : JsonNode → ValueType
  | .null => .null
  | .boolean _ => .boolean
  | .int _ => .int64
  | .double _ => .double
  | .string _ => .string
  | .array _ => .array
  | .object _ => .object

/-- What `getValueType` returns for a member. -/
def memberType (node : JsonNode) (name : String) : ValueType :=
  ((node.member name).map valueType).getD .unknown

end JsonNode

/-- How json-glib reads a value: `json_node_get_boolean`, `json_node_get_int` and
    `json_node_get_string`, which is null for a node that holds no string. -/
structure JsonConversions where
  getBoolean : JsonNode → Bool
  getInt : JsonNode → Int64
  getString : JsonNode → Option String
  getInt_int : ∀ n, getInt (.int n) = n
  getString_string : ∀ s, getString (.string s) = some s

/-- The two pointers of a parser. A pointer to a node is given by the node and its ancestors, the
    nearest first, so that its tail is the pointer to its parent; the null pointer is the empty
    list. -/
structure JSONParser where
  currentNode : List JsonNode
  previousNode : List JsonNode

/-- A method of the parser: it moves the cursor, or an assertion fails. -/
abbrev ParserM := StateT JSONParser (Except HatoholException)

namespace JSONParser

def new (root : JsonNode) : JSONParser := ⟨[root], []⟩

/-- (JSONParser.cc:330-333) -/
def internalCheck : ParserM Unit := do
  if (← get).currentNode.isEmpty then
    throw ⟨"ASSERTION failed: [m_impl->currentNode] : CurrentNode: NULL"⟩

/-- The member of the current node. -/
def findMember (parser : JSONParser) (name : String) : Option JsonNode :=
  parser.currentNode.head?.bind (·.member name)

/-- (JSONParser.cc:155-164) -/
def isMember (name : String) : ParserM Bool := return ((← get).findMember name).isSome

/-- A step down in the tree. -/
def enter (parser : JSONParser) (node : JsonNode) : JSONParser :=
  ⟨node :: parser.currentNode, parser.currentNode⟩

/-- (JSONParser.cc:242-256) -/
def startObject (name : String) : ParserM Bool := do
  let parser ← get
  match parser.findMember name with
  | none => return false
  | some node =>
      set (parser.enter node)
      return true

/-- (JSONParser.cc:258-269) -/
def endObject : ParserM Unit :=
  modify fun parser => ⟨parser.previousNode, parser.previousNode.tail⟩

/-- (JSONParser.cc:271-311) -/
def startElement (index : Nat) : ParserM Bool := do
  let parser ← get
  let elements ← match parser.currentNode.head? with
    | some (.array elements) => pure elements
    | some (.object members) => pure (members.map Prod.snd)
    | _ => throw ⟨"ASSERTION failed: [false] : " ++
        "The node isn't neither JSON_NODE_ARRAY nor JSON_NODE_OBJECT."⟩
  match elements[index]? with
  | none => return false
  | some node =>
      set (parser.enter node)
      return true

def endElement : ParserM Unit := endObject

/-- (JSONParser.cc:318-321) -/
def countElements : ParserM Nat :=
  return match (← get).currentNode.head? with
    | some (.array elements) => elements.length
    | _ => 0

/-- The value of the current node. -/
def currentValue {β : Type} (convert : JsonNode → β) : ParserM β :=
  return convert ((← get).currentNode.headD .null)

/-- The overloads of `read` for a member (JSONParser.cc:78-131), which differ in what they call for
    the value. -/
def read {β : Type} (convert : JsonNode → β) (name : String) : ParserM (Option β) := do
  internalCheck
  if ← startObject name then
    let dest ← currentValue convert
    endObject
    return some dest
  else return none

/-- (JSONParser.cc:133-142) -/
def readElement {β : Type} (convert : JsonNode → β) (index : Nat) : ParserM (Option β) := do
  internalCheck
  if ← startElement index then
    let dest ← currentValue convert
    endElement
    return some dest
  else return none

/-- (JSONParser.cc:166-225) -/
def getValueType (name : String) : ParserM ValueType := do
  internalCheck
  if ← isMember name then
    if ← startObject name then
      let type ← currentValue JsonNode.valueType
      endObject
      return type
    else return .unknown
  else return .unknown

/-! ## The cursor at a node -/

/-- A cursor that goes back to the parent of its node. -/
def atNode (path : List JsonNode) : JSONParser := ⟨path, path.tail⟩

/-- The parser does this with the cursor at a node. -/
def Runs {α : Type} (m : ParserM α) (path : List JsonNode) (a : α) (path' : List JsonNode) : Prop :=
  m.run (.atNode path) = .ok (a, .atNode path')

/-- Whatever it returns, the cursor is left where it was. -/
def Stays {α : Type} (m : ParserM α) (path : List JsonNode) : Prop := ∃ a, Runs m path a path

section

variable {α β : Type} {m : ParserM α} {f : α → ParserM β} {path path' path'' : List JsonNode}
  {a : α} {b : β} {node : JsonNode} {up : List JsonNode} {name : String}

theorem Runs.bind (hm : Runs m path a path') (hf : Runs (f a) path' b path'') :
    Runs (m >>= f) path b path'' := by
  unfold Runs at *
  rw [StateT.run_bind, hm]
  exact hf

theorem runs_pure (a : α) (path : List JsonNode) : Runs (pure a) path a path := rfl

theorem Runs.stays (hm : Runs m path a path) : Stays m path := ⟨a, hm⟩

theorem Stays.bind (hm : Stays m path) (hf : ∀ a, Stays (f a) path) : Stays (m >>= f) path := by
  obtain ⟨a, hm⟩ := hm
  obtain ⟨b, hf⟩ := hf a
  exact ⟨b, hm.bind hf⟩

theorem Runs.run'_new {root : JsonNode} (hm : Runs m [root] a path') :
    m.run' (.new root) = .ok a :=
  congrArg (Except.map Prod.fst) hm

theorem stays_pure (a : α) (path : List JsonNode) : Stays (pure a) path := ⟨a, rfl⟩

theorem runs_internalCheck : Runs internalCheck (node :: up) () (node :: up) := rfl

theorem runs_isMember (name : String) :
    Runs (isMember name) (node :: up) (node.member name).isSome (node :: up) := rfl

theorem runs_startObject {child : JsonNode} (hmember : node.member name = some child) :
    Runs (startObject name) (node :: up) true (child :: node :: up) := by
  have hfind : (JSONParser.atNode (node :: up)).findMember name = some child := hmember
  unfold Runs startObject
  simp only [bind, StateT.bind, get, getThe, MonadStateOf.get, StateT.get, StateT.run, pure,
    Except.pure, Except.bind, hfind]
  rfl

theorem runs_startObject_none (hmember : node.member name = none) :
    Runs (startObject name) (node :: up) false (node :: up) := by
  have hfind : (JSONParser.atNode (node :: up)).findMember name = none := hmember
  unfold Runs startObject
  simp only [bind, StateT.bind, get, getThe, MonadStateOf.get, StateT.get, StateT.run, pure,
    Except.pure, Except.bind, hfind]
  rfl

theorem runs_endObject : Runs endObject (node :: up) () up := rfl

theorem runs_startElement {elements : List JsonNode} {index : Nat} {child : JsonNode}
    (helement : elements[index]? = some child) :
    Runs (startElement index) (.array elements :: up) true (child :: .array elements :: up) := by
  have hnode : (JSONParser.atNode (.array elements :: up)).currentNode.head? =
      some (.array elements) := rfl
  have hpure : (StateT.pure elements : ParserM (List JsonNode)) (.atNode (.array elements :: up)) =
      .ok (elements, .atNode (.array elements :: up)) := rfl
  unfold Runs startElement
  simp only [bind, StateT.bind, get, getThe, MonadStateOf.get, StateT.get, StateT.run, pure,
    Except.pure, Except.bind, hnode, hpure, helement]
  rfl

theorem runs_countElements (elements : List JsonNode) :
    Runs countElements (.array elements :: up) elements.length (.array elements :: up) := rfl

theorem runs_currentValue (convert : JsonNode → α) :
    Runs (currentValue convert) (node :: up) (convert node) (node :: up) := rfl

theorem runs_read (convert : JsonNode → α) (name : String) :
    Runs (read convert name) (node :: up) ((node.member name).map convert) (node :: up) := by
  cases hmember : node.member name with
  | none => exact runs_internalCheck.bind ((runs_startObject_none hmember).bind (runs_pure _ _))
  | some child =>
    exact runs_internalCheck.bind ((runs_startObject hmember).bind
      ((runs_currentValue convert).bind (runs_endObject.bind (runs_pure _ _))))

theorem runs_getValueType (name : String) :
    Runs (getValueType name) (node :: up) (node.memberType name) (node :: up) := by
  unfold JsonNode.memberType
  cases hmember : node.member name with
  | none =>
    have his : Runs (isMember name) (node :: up) (node.member name).isSome (node :: up) :=
      runs_isMember name
    rw [hmember] at his
    exact runs_internalCheck.bind (his.bind (runs_pure _ _))
  | some child =>
    have his : Runs (isMember name) (node :: up) (node.member name).isSome (node :: up) :=
      runs_isMember name
    rw [hmember] at his
    exact runs_internalCheck.bind (his.bind ((runs_startObject hmember).bind
      ((runs_currentValue _).bind (runs_endObject.bind (runs_pure _ _)))))

theorem runs_readElement (convert : JsonNode → α) {elements : List JsonNode} {index : Nat}
    {child : JsonNode} (helement : elements[index]? = some child) :
    Runs (readElement convert index) (.array elements :: up) (some (convert child))
      (.array elements :: up) :=
  runs_internalCheck.bind ((runs_startElement helement).bind
    ((runs_currentValue convert).bind (runs_endObject.bind (runs_pure _ _))))

end

end JSONParser

end Hatohol

import Hatohol.JSONParser

/-!
# The cursor in a document

The nodes of a document by their positions, so that two nodes with the same content are told apart.
The parser has two pointers (server/common/JSONParser.cc:79-311): the one to which `endObject` goes
back is made anew from the parent of a node, which is taken to be its container.
-/

namespace Hatohol

/-- The way from the root to a node with its last step first: the tail leads to the container. -/
abbrev Position := List Nat

namespace JsonNode

def children : JsonNode → List JsonNode
  | .array elements => elements
  | .object members => members.map Prod.snd
  | _ => []

/-- The place of a member in its object. -/
def memberIndex (node : JsonNode) (name : String) : Option Nat :=
  match node with
  | .object members => members.findIdx? (·.1 == name)
  | _ => none

def nodeAt (root : JsonNode) : Position → Option JsonNode
  | [] => some root
  | i :: up => (root.nodeAt up).bind (·.children[i]?)

/-- `json_node_get_parent` -/
def parent : Position → Option Position
  | [] => none
  | _ :: up => some up

end JsonNode

open JsonNode

/-- The pointers of a parser, which may be null. -/
@[ext]
structure JSONCursor (root : JsonNode) where
  currentNode : Option Position
  previousNode : Option Position
  deriving DecidableEq

namespace JSONCursor

variable {root : JsonNode}

def new : JSONCursor root := ⟨some [], none⟩

def node? (c : JSONCursor root) : Option JsonNode := c.currentNode.bind root.nodeAt

def internalCheck (c : JSONCursor root) : Except HatoholException Unit :=
  if c.currentNode.isNone then
    throw ⟨"ASSERTION failed: [m_impl->currentNode] : CurrentNode: NULL"⟩
  else return

def isMember (c : JSONCursor root) (member : String) : Bool :=
  (c.node?.bind (·.memberIndex member)).isSome

/-- A step down in the tree. -/
def enter (c : JSONCursor root) (i : Nat) : JSONCursor root :=
  ⟨c.currentNode.map (i :: ·), c.currentNode⟩

def startObject (c : JSONCursor root) (member : String) : Bool × JSONCursor root :=
  match c.node?.bind (·.memberIndex member) with
  | none => (false, c)
  | some i => (true, c.enter i)

def endObject (c : JSONCursor root) : JSONCursor root :=
  ⟨c.previousNode, c.previousNode.bind parent⟩

def startElement (c : JSONCursor root) (index : Nat) :
    Except HatoholException (Bool × JSONCursor root) :=
  match c.node? with
  | some (.array elements) =>
      return if index < elements.length then (true, c.enter index) else (false, c)
  | some (.object members) =>
      return if index < members.length then (true, c.enter index) else (false, c)
  | _ => throw ⟨"ASSERTION failed: [false] : " ++
      "The node isn't neither JSON_NODE_ARRAY nor JSON_NODE_OBJECT."⟩

def endElement (c : JSONCursor root) : JSONCursor root := c.endObject

/-- `read` and `isNull` of a member: the node that they look at, if it is there. -/
def read (c : JSONCursor root) (member : String) :
    Except HatoholException (Option JsonNode × JSONCursor root) := do
  c.internalCheck
  match c.startObject member with
  | (true, c) => return (c.node?, c.endObject)
  | (false, c) => return (none, c)

/-- `read` of an element. -/
def readElement (c : JSONCursor root) (index : Nat) :
    Except HatoholException (Option JsonNode × JSONCursor root) := do
  c.internalCheck
  match ← c.startElement index with
  | (true, c) => return (c.node?, c.endElement)
  | (false, c) => return (none, c)

def getValueType (c : JSONCursor root) (member : String) :
    Except HatoholException (ValueType × JSONCursor root) := do
  c.internalCheck
  if c.isMember member then
    match c.startObject member with
    | (true, c) => return ((c.node?.map valueType).getD .unknown, c.endObject)
    | (false, c) => return (.unknown, c)
  else return (.unknown, c)

/-- `countElements`. What is no array has none. -/
def countElements (c : JSONCursor root) : Nat :=
  match c.node? with
  | some (.array elements) => elements.length
  | _ => 0

/-! ## Calls -/

/-- `read` stands for all of its overloads for members, too. -/
inductive Call where
  | startObject (member : String)
  | startElement (index : Nat)
  | endObject
  | endElement
  | read (member : String)
  | readElement (index : Nat)
  | isNull (member : String)
  | isMember (member : String)
  | getValueType (member : String)
  | countElements
  deriving DecidableEq, Repr

namespace Call

def isStart : Call → Bool
  | startObject _ | startElement _ => true
  | _ => false

def isEnd : Call → Bool
  | endObject | endElement => true
  | _ => false

end Call

/-- A call that does not throw, and whether it has found what it is about. -/
def step (c : JSONCursor root) : Call → Except HatoholException (Bool × JSONCursor root)
  | .startObject member => return c.startObject member
  | .startElement index => c.startElement index
  | .endObject => return (true, c.endObject)
  | .endElement => return (true, c.endElement)
  | .read member | .isNull member => do
      let (node, c) ← c.read member
      return (node.isSome, c)
  | .readElement index => do
      let (node, c) ← c.readElement index
      return (node.isSome, c)
  | .isMember member => return (c.isMember member, c)
  | .getValueType member => do
      let (type, c) ← c.getValueType member
      return (type ≠ .unknown, c)
  | .countElements => return (true, c)

/-- What has been called, and what it has found. -/
abbrev Trace := List (Call × Bool)

/-- The calls of a trace, none of which throws, lead from one cursor to another. -/
def Follows : JSONCursor root → Trace → JSONCursor root → Prop
  | c, [], c' => c = c'
  | c, (call, found) :: trace, c' => ∃ c₁, c.step call = .ok (found, c₁) ∧ Follows c₁ trace c'

/-- What a call adds to the brackets that are open. -/
def opening (call : Call × Bool) : Int :=
  if call.1.isEnd then -1 else if call.1.isStart && call.2 then 1 else 0

def depth (trace : Trace) : Int := (trace.map opening).sum

/-- No bracket is closed that is not open. -/
def Bracketed (trace : Trace) : Prop := ∀ before, before <+: trace → 0 ≤ depth before

/-- All brackets are closed again. -/
def Balanced (trace : Trace) : Prop := Bracketed trace ∧ depth trace = 0

theorem depth_append (trace trace' : Trace) :
    depth (trace ++ trace') = depth trace + depth trace' := by
  rw [depth, List.map_append, List.sum_append]
  rfl

theorem Bracketed.of_append {trace trace' : Trace} (hbracketed : Bracketed (trace ++ trace')) :
    Bracketed trace :=
  fun before hbefore => hbracketed before (hbefore.trans (List.prefix_append trace trace'))

theorem follows_append {trace trace' : Trace} {c c' : JSONCursor root} :
    c.Follows (trace ++ trace') c' ↔ ∃ c₁, c.Follows trace c₁ ∧ c₁.Follows trace' c' := by
  induction trace generalizing c with
  | nil => exact ⟨fun h => ⟨c, rfl, h⟩, by rintro ⟨c₁, rfl, h⟩; exact h⟩
  | cons call trace ih =>
    constructor
    · rintro ⟨c₁, hstep, hrest⟩
      obtain ⟨c₂, htrace, htrace'⟩ := ih.mp hrest
      exact ⟨c₂, ⟨c₁, hstep, htrace⟩, htrace'⟩
    · rintro ⟨c₂, ⟨c₁, hstep, htrace⟩, htrace'⟩
      exact ⟨c₁, hstep, ih.mpr ⟨c₂, htrace, htrace'⟩⟩

/-! ## The way back -/

/-- A cursor that goes back to the container of its node. -/
def atPosition (p : Position) : JSONCursor root := ⟨some p, parent p⟩

variable {p : Position} {c' : JSONCursor root} {found : Bool}

theorem endObject_atPosition (i : Nat) (p : Position) :
    (atPosition (i :: p) : JSONCursor root).endObject = atPosition p := rfl

theorem startObject_atPosition {member : String}
    (hstart : (atPosition p : JSONCursor root).startObject member = (found, c')) :
    found = true ∧ (∃ i, c' = atPosition (i :: p)) ∨ found = false ∧ c' = atPosition p := by
  unfold startObject at hstart
  split at hstart
  · obtain ⟨rfl, rfl⟩ := Prod.mk.inj hstart
    exact .inr ⟨rfl, rfl⟩
  · rename_i i _
    obtain ⟨rfl, rfl⟩ := Prod.mk.inj hstart
    exact .inl ⟨rfl, i, rfl⟩

theorem startElement_atPosition {index : Nat}
    (hstart : (atPosition p : JSONCursor root).startElement index = .ok (found, c')) :
    found = true ∧ (∃ i, c' = atPosition (i :: p)) ∨ found = false ∧ c' = atPosition p := by
  have hentered {length : Nat} (hlength : (if index < length then
      (true, (atPosition p : JSONCursor root).enter index) else (false, atPosition p)) =
      (found, c')) :
      found = true ∧ (∃ i, c' = atPosition (i :: p)) ∨ found = false ∧ c' = atPosition p := by
    split at hlength
    · obtain ⟨rfl, rfl⟩ := Prod.mk.inj hlength
      exact .inl ⟨rfl, index, rfl⟩
    · obtain ⟨rfl, rfl⟩ := Prod.mk.inj hlength
      exact .inr ⟨rfl, rfl⟩
  unfold startElement at hstart
  split at hstart
  · exact hentered (Except.ok.inj hstart)
  · exact hentered (Except.ok.inj hstart)
  · cases hstart

/-- The methods that go to a member and back. -/
theorem read_atPosition {member : String} {node : Option JsonNode}
    (hread : (atPosition p : JSONCursor root).read member = .ok (node, c')) :
    c' = atPosition p := by
  change (match (atPosition p : JSONCursor root).startObject member with
    | (true, c) => pure (c.node?, c.endObject)
    | (false, c) => pure (none, c)) = Except.ok (node, c') at hread
  cases hstart : (atPosition p : JSONCursor root).startObject member with
  | mk found c =>
    rw [hstart] at hread
    rcases startObject_atPosition hstart with ⟨rfl, i, rfl⟩ | ⟨rfl, rfl⟩
    · exact (Prod.mk.inj (Except.ok.inj hread)).2.symm
    · exact (Prod.mk.inj (Except.ok.inj hread)).2.symm

theorem readElement_atPosition {index : Nat} {node : Option JsonNode}
    (hread : (atPosition p : JSONCursor root).readElement index = .ok (node, c')) :
    c' = atPosition p := by
  change ((atPosition p : JSONCursor root).startElement index >>= fun result => match result with
    | (true, c) => pure (c.node?, c.endElement)
    | (false, c) => pure (none, c)) = Except.ok (node, c') at hread
  cases hstart : (atPosition p : JSONCursor root).startElement index with
  | error e =>
    rw [hstart] at hread
    cases hread
  | ok result =>
    obtain ⟨found, c⟩ := result
    rw [hstart] at hread
    rcases startElement_atPosition hstart with ⟨rfl, i, rfl⟩ | ⟨rfl, rfl⟩
    · exact (Prod.mk.inj (Except.ok.inj hread)).2.symm
    · exact (Prod.mk.inj (Except.ok.inj hread)).2.symm

theorem getValueType_atPosition {member : String} {type : ValueType}
    (htype : (atPosition p : JSONCursor root).getValueType member = .ok (type, c')) :
    c' = atPosition p := by
  change (if (atPosition p : JSONCursor root).isMember member then
      match (atPosition p : JSONCursor root).startObject member with
      | (true, c) => pure ((c.node?.map valueType).getD .unknown, c.endObject)
      | (false, c) => pure (.unknown, c)
    else pure (.unknown, atPosition p)) = Except.ok (type, c') at htype
  split at htype
  · cases hstart : (atPosition p : JSONCursor root).startObject member with
    | mk found c =>
      rw [hstart] at htype
      rcases startObject_atPosition hstart with ⟨rfl, i, rfl⟩ | ⟨rfl, rfl⟩
      · exact (Prod.mk.inj (Except.ok.inj htype)).2.symm
      · exact (Prod.mk.inj (Except.ok.inj htype)).2.symm
  · exact (Prod.mk.inj (Except.ok.inj htype)).2.symm

/-- What a call does to a cursor that goes back to the container of its node. -/
theorem step_atPosition {call : Call}
    (hstep : (atPosition p : JSONCursor root).step call = .ok (found, c')) :
    (call.isEnd = true ∧ c' = (atPosition p).endObject) ∨
    (opening (call, found) = 1 ∧ ∃ i, c' = atPosition (i :: p)) ∨
    (opening (call, found) = 0 ∧ c' = atPosition p) := by
  have hpair {α : Type} {m : Except HatoholException (α × JSONCursor root)} {f : α → Bool}
      (hm : (do let (a, c) ← m; return (f a, c)) = Except.ok (found, c')) :
      ∃ a, m = .ok (a, c') := by
    cases m with
    | error e => cases hm
    | ok result => exact ⟨result.1, congrArg Except.ok (Prod.ext rfl (Prod.mk.inj (Except.ok.inj hm)).2)⟩
  cases call with
  | startObject member =>
    rcases startObject_atPosition (Except.ok.inj hstep) with ⟨rfl, hentered⟩ | ⟨rfl, rfl⟩
    · exact .inr (.inl ⟨rfl, hentered⟩)
    · exact .inr (.inr ⟨rfl, rfl⟩)
  | startElement index =>
    rcases startElement_atPosition hstep with ⟨rfl, hentered⟩ | ⟨rfl, rfl⟩
    · exact .inr (.inl ⟨rfl, hentered⟩)
    · exact .inr (.inr ⟨rfl, rfl⟩)
  | endObject => exact .inl ⟨rfl, (Prod.mk.inj (Except.ok.inj hstep)).2.symm⟩
  | endElement => exact .inl ⟨rfl, (Prod.mk.inj (Except.ok.inj hstep)).2.symm⟩
  | read member =>
    obtain ⟨node, hread⟩ := hpair (f := Option.isSome) hstep
    exact .inr (.inr ⟨rfl, read_atPosition hread⟩)
  | isNull member =>
    obtain ⟨node, hread⟩ := hpair (f := Option.isSome) hstep
    exact .inr (.inr ⟨rfl, read_atPosition hread⟩)
  | readElement index =>
    obtain ⟨node, hread⟩ := hpair (f := Option.isSome) hstep
    exact .inr (.inr ⟨rfl, readElement_atPosition hread⟩)
  | getValueType member =>
    obtain ⟨type, htype⟩ := hpair (f := fun type => decide (type ≠ ValueType.unknown)) hstep
    exact .inr (.inr ⟨rfl, getValueType_atPosition htype⟩)
  | isMember member => exact .inr (.inr ⟨rfl, (Prod.mk.inj (Except.ok.inj hstep)).2.symm⟩)
  | countElements => exact .inr (.inr ⟨rfl, (Prod.mk.inj (Except.ok.inj hstep)).2.symm⟩)

theorem opening_of_isEnd {call : Call × Bool} (hend : call.1.isEnd = true) : opening call = -1 := by
  rw [opening, hend, if_pos rfl]

theorem opening_of_isStart {call : Call} (hstart : call.isStart = true) :
    opening (call, true) = 1 := by
  cases call <;> first | rfl | cases hstart

/-- As many steps down remain as brackets are open, by induction on the calls from the last one on. -/
theorem position_of_bracketed {trace : Trace} (hbracketed : Bracketed trace)
    (hfollows : (atPosition p : JSONCursor root).Follows trace c') :
    ∃ q : Position, c' = atPosition (q ++ p) ∧ (q.length : Int) = depth trace := by
  induction trace using List.reverseRecOn generalizing c' with
  | nil => exact ⟨[], hfollows.symm, rfl⟩
  | append_singleton trace call ih =>
    obtain ⟨c₁, htrace, c₂, hstep, rfl⟩ := follows_append.mp hfollows
    obtain ⟨q, rfl, hlength⟩ := ih hbracketed.of_append htrace
    have hdepth : depth (trace ++ [call]) = depth trace + opening call := by
      rw [depth_append]
      exact congrArg (depth trace + ·) (Int.add_zero _)
    have hnonneg := hbracketed _ (List.prefix_refl _)
    rw [hdepth] at hnonneg ⊢
    rcases step_atPosition hstep with ⟨hend, rfl⟩ | ⟨hopen, i, rfl⟩ | ⟨hstays, rfl⟩
    · rw [opening_of_isEnd hend] at hnonneg ⊢
      cases q with
      | nil => exact absurd (hlength.symm ▸ hnonneg) (by decide)
      | cons i q => exact ⟨q, rfl, by rw [← hlength, List.length_cons]; omega⟩
    · exact ⟨i :: q, rfl, by rw [hopen, ← hlength, List.length_cons]; omega⟩
    · exact ⟨q, rfl, by rw [hstays, hlength, Int.add_zero]⟩

/-- The node after an end is the one before the start that it matches. -/
theorem end_returns (root : JsonNode) (before inner : Trace) (start finish : Call)
    (c₀ c₁ c₂ c₃ : JSONCursor root) (found : Bool)
    (hbefore : Follows new before c₀) (hbracketed : Bracketed before)
    (hstart : start.isStart = true) (hstarted : c₀.step start = .ok (true, c₁))
    (hinner : c₁.Follows inner c₂) (hbalanced : Balanced inner)
    (hend : finish.isEnd = true) (hended : c₂.step finish = .ok (found, c₃)) :
    c₃.currentNode = c₀.currentNode := by
  obtain ⟨p, rfl, -⟩ := position_of_bracketed (p := []) hbracketed hbefore
  have hentered : ∃ i, c₁ = atPosition (i :: (p ++ [])) := by
    have hopen := opening_of_isStart hstart
    rcases step_atPosition hstarted with ⟨hend, -⟩ | ⟨-, hentered⟩ | ⟨hstays, -⟩
    · have hclose : opening (start, true) = -1 := opening_of_isEnd hend
      rw [hclose] at hopen
      exact absurd hopen (by decide)
    · exact hentered
    · rw [hstays] at hopen
      exact absurd hopen (by decide)
  obtain ⟨i, rfl⟩ := hentered
  obtain ⟨q, rfl, hlength⟩ := position_of_bracketed hbalanced.1 hinner
  obtain rfl : q = [] := List.length_eq_zero_iff.mp (Int.ofNat_inj.mp (hlength.trans hbalanced.2))
  rcases step_atPosition hended with ⟨-, rfl⟩ | ⟨hopen, -⟩ | ⟨hstays, -⟩
  · rfl
  · rw [opening_of_isEnd hend] at hopen
    exact absurd hopen (by decide)
  · rw [opening_of_isEnd hend] at hstays
    exact absurd hstays (by decide)

/-- An array in an object, with an empty object in it and a start that fails. -/
def exampleDocument : JsonNode :=
  .object [("events", .array [.object [], .int 1]), ("type", .string "ALL")]

theorem end_returns_events :
    (atPosition [] : JSONCursor exampleDocument).currentNode =
      (new : JSONCursor exampleDocument).currentNode :=
  end_returns exampleDocument [(.isMember "type", true)]
    [(.startElement 0, true), (.startObject "none", false), (.endElement, true),
      (.startElement 2, false)] (.startObject "events") .endObject new (atPosition [0])
    (atPosition [0]) (atPosition []) true ⟨_, rfl, rfl⟩
    (fun before hbefore => by
      rcases List.prefix_cons_iff.mp hbefore with rfl | ⟨t, rfl, ht⟩
      · decide
      · rw [List.prefix_nil.mp ht]
        decide)
    rfl rfl ⟨_, rfl, _, rfl, _, rfl, _, rfl, rfl⟩
    ⟨fun before hbefore => by
      rw [← List.mem_inits] at hbefore
      revert before
      decide, by decide⟩
    rfl rfl

/-! ## PositionStack -/

/-- The guard that goes back at the end of a scope (JSONParserPositionStack.cc). -/
structure PositionStack (root : JsonNode) where
  parser : JSONCursor root
  /-- Whether an object or an element has been started. -/
  stack : List Call

namespace PositionStack

def pushObject (s : PositionStack root) (member : String) : Bool × PositionStack root :=
  match s.parser.startObject member with
  | (true, parser) => (true, ⟨parser, .endObject :: s.stack⟩)
  | (false, parser) => (false, ⟨parser, s.stack⟩)

def pushElement (s : PositionStack root) (index : Nat) :
    Except HatoholException (Bool × PositionStack root) := do
  match ← s.parser.startElement index with
  | (true, parser) => return (true, ⟨parser, .endElement :: s.stack⟩)
  | (false, parser) => return (false, ⟨parser, s.stack⟩)

/-- The stack is not empty. -/
def pop (s : PositionStack root) : PositionStack root :=
  match s.stack with
  | [] => s
  | _ :: stack => ⟨s.parser.endObject, stack⟩

/-- The destructor. -/
def destroy (s : PositionStack root) : JSONCursor root :=
  s.stack.foldl (fun parser _ => parser.endObject) s.parser

/-- The parser is as many steps below a node as there are entries. -/
def Above (s : PositionStack root) (p : Position) : Prop :=
  ∃ q : Position, s.parser = atPosition (q ++ p) ∧ q.length = s.stack.length

variable {s s' : PositionStack root}

theorem Above.pushObject {member : String} (habove : s.Above p)
    (hpush : s.pushObject member = (found, s')) : s'.Above p := by
  obtain ⟨q, hparser, hlength⟩ := habove
  unfold PositionStack.pushObject at hpush
  cases hstart : s.parser.startObject member with
  | mk started c =>
    rw [hstart] at hpush
    rw [hparser] at hstart
    rcases startObject_atPosition hstart with ⟨rfl, i, rfl⟩ | ⟨rfl, rfl⟩
    · obtain ⟨rfl, rfl⟩ := Prod.mk.inj hpush
      exact ⟨i :: q, rfl, congrArg Nat.succ hlength⟩
    · obtain ⟨rfl, rfl⟩ := Prod.mk.inj hpush
      exact ⟨q, rfl, hlength⟩

theorem Above.pushElement {index : Nat} (habove : s.Above p)
    (hpush : s.pushElement index = .ok (found, s')) : s'.Above p := by
  obtain ⟨q, hparser, hlength⟩ := habove
  unfold PositionStack.pushElement at hpush
  cases hstart : s.parser.startElement index with
  | error e =>
    rw [hstart] at hpush
    cases hpush
  | ok result =>
    obtain ⟨started, c⟩ := result
    rw [hstart] at hpush
    rw [hparser] at hstart
    rcases startElement_atPosition hstart with ⟨rfl, i, rfl⟩ | ⟨rfl, rfl⟩
    · obtain ⟨rfl, rfl⟩ := Prod.mk.inj (Except.ok.inj hpush)
      exact ⟨i :: q, rfl, congrArg Nat.succ hlength⟩
    · obtain ⟨rfl, rfl⟩ := Prod.mk.inj (Except.ok.inj hpush)
      exact ⟨q, rfl, hlength⟩

theorem Above.pop (habove : s.Above p) : s.pop.Above p := by
  obtain ⟨q, hparser, hlength⟩ := habove
  unfold PositionStack.pop
  cases hstack : s.stack with
  | nil => exact ⟨q, hparser, hlength⟩
  | cons call stack =>
    rw [hstack] at hlength
    cases q with
    | nil => cases hlength
    | cons i q => exact ⟨q, by rw [hparser]; rfl, Nat.succ.inj hlength⟩

/-- At the end of the scope the parser is where it was at its beginning. -/
theorem Above.destroy (habove : s.Above p) : s.destroy = atPosition p := by
  obtain ⟨q, hparser, hlength⟩ := habove
  unfold PositionStack.destroy
  rw [hparser]
  clear hparser
  induction q generalizing s with
  | nil =>
    rw [List.length_eq_zero_iff.mp hlength.symm]
    rfl
  | cons i q ih =>
    cases hstack : s.stack with
    | nil => rw [hstack] at hlength; cases hlength
    | cons call stack =>
      rw [hstack] at hlength
      exact ih (s := ⟨s.parser, stack⟩) (Nat.succ.inj hlength)

end PositionStack

end JSONCursor

/-! ## The nodes at the positions -/

namespace JsonNode

/-- A node with its ancestors. -/
def nodesAt (root : JsonNode) : Position → List JsonNode
  | [] => [root]
  | i :: up =>
      match root.nodeAt (i :: up) with
      | some node => node :: root.nodesAt up
      | none => []

theorem head?_nodesAt (root : JsonNode) (p : Position) :
    (root.nodesAt p).head? = root.nodeAt p := by
  cases p with
  | nil => rfl
  | cons i up =>
    rw [nodesAt]
    split
    · rename_i hnode
      exact hnode.symm
    · rename_i hnode
      exact hnode.symm

theorem member_eq (node : JsonNode) (name : String) :
    node.member name = (node.memberIndex name).bind fun i => node.children[i]? := by
  cases node with
  | object members =>
    change members.lookup name = (members.findIdx? (·.1 == name)).bind
      fun i => (members.map Prod.snd)[i]?
    induction members with
    | nil => rfl
    | cons member members ih =>
      rw [List.lookup_cons, List.findIdx?_cons, Bool.beq_comm]
      cases hname : member.1 == name with
      | true => rfl
      | false =>
        rw [ih]
        dsimp only
        rw [if_neg Bool.false_ne_true, Option.bind_map]
        rfl
  | _ => rfl

end JsonNode

theorem JsonNode.exists_child {node : JsonNode} {name : String} {i : Nat}
    (hindex : node.memberIndex name = some i) : ∃ child, node.children[i]? = some child := by
  cases node with
  | object members =>
    obtain ⟨hlt, -⟩ := List.findIdx?_eq_some_iff_getElem.mp hindex
    rw [JsonNode.children]
    exact ⟨_, List.getElem?_eq_getElem (by rwa [List.length_map])⟩
  | _ => cases hindex

namespace JSONCursor

variable {root : JsonNode} {c : JSONCursor root}

/-- The parser whose pointers are given by nodes and their ancestors. -/
def toParser (c : JSONCursor root) : JSONParser where
  currentNode := (c.currentNode.map root.nodesAt).getD []
  previousNode := (c.previousNode.map root.nodesAt).getD []

theorem head?_toParser (c : JSONCursor root) : c.toParser.currentNode.head? = c.node? := by
  unfold toParser node?
  cases c.currentNode with
  | none => rfl
  | some p => exact head?_nodesAt root p

theorem toParser_enter {i : Nat} {child : JsonNode}
    (hchild : c.node?.bind (·.children[i]?) = some child) :
    (c.enter i).toParser = c.toParser.enter child := by
  unfold node? at hchild
  unfold toParser enter
  cases hcurrent : c.currentNode with
  | none =>
    rw [hcurrent] at hchild
    cases hchild
  | some p =>
    rw [hcurrent] at hchild
    have hnodes : root.nodesAt (i :: p) = child :: root.nodesAt p := by
      rw [nodesAt]
      change (match (root.nodeAt p).bind (·.children[i]?) with
        | some node => node :: root.nodesAt p
        | none => []) = _
      rw [show (root.nodeAt p).bind (·.children[i]?) = some child from hchild]
    change (⟨root.nodesAt (i :: p), root.nodesAt p⟩ : JSONParser) = _
    rw [hnodes]
    rfl

theorem startObject_toParser (c : JSONCursor root) (member : String) :
    (JSONParser.startObject member).run c.toParser =
      .ok ((c.startObject member).1, (c.startObject member).2.toParser) := by
  have hfind : c.toParser.findMember member = (c.node?.bind (·.memberIndex member)).bind
      fun i => c.node?.bind (·.children[i]?) := by
    unfold JSONParser.findMember
    rw [head?_toParser]
    cases c.node? with
    | none => rfl
    | some node => exact member_eq node member
  unfold JSONParser.startObject startObject
  simp only [bind, StateT.bind, get, getThe, MonadStateOf.get, StateT.get, StateT.run, pure,
    Except.pure, Except.bind, hfind]
  cases hindex : c.node?.bind (·.memberIndex member) with
  | none => rfl
  | some i =>
    obtain ⟨node, hnode, hmember⟩ := Option.bind_eq_some_iff.mp hindex
    obtain ⟨child, hchild⟩ := exists_child hmember
    have hfound : c.node?.bind (·.children[i]?) = some child := by rw [hnode]; exact hchild
    rw [Option.bind_some, hfound, toParser_enter hfound]
    rfl

theorem run_found (parser : JSONParser) (child? : Option JsonNode) :
    (match child? with
      | none => pure false
      | some child => do
          set (parser.enter child)
          return true : ParserM Bool).run parser =
      .ok (match child? with
        | none => (false, parser)
        | some child => (true, parser.enter child)) := by
  cases child? <;> rfl

theorem startElement_toParser (c : JSONCursor root) (index : Nat) :
    (JSONParser.startElement index).run c.toParser =
      (c.startElement index).map fun result => (result.1, result.2.toParser) := by
  -- a node with children, whose element is there or not
  have hchildren {node : JsonNode} (hnode : c.node? = some node) :
      (match node.children[index]? with
        | none => (false, c.toParser)
        | some child => (true, c.toParser.enter child)) =
      (fun result : Bool × JSONCursor root => (result.1, result.2.toParser))
        (if index < node.children.length then (true, c.enter index) else (false, c)) := by
    cases hchild : node.children[index]? with
    | none => rw [if_neg (not_lt.mpr (List.getElem?_eq_none_iff.mp hchild))]
    | some child =>
      have hfound : c.node?.bind (·.children[index]?) = some child := by rw [hnode]; exact hchild
      rw [if_pos (List.getElem?_eq_some_iff.mp hchild).1]
      dsimp only
      rw [toParser_enter hfound]
  unfold JSONParser.startElement startElement
  simp only [bind, StateT.bind, get, getThe, MonadStateOf.get, StateT.get, StateT.run, pure,
    Except.pure, Except.bind, head?_toParser]
  cases hnode : c.node? with
  | none => rfl
  | some node =>
    cases node with
    | array elements =>
      refine (run_found c.toParser elements[index]?).trans (congrArg Except.ok ?_)
      exact hchildren hnode
    | object members =>
      refine (run_found c.toParser (members.map Prod.snd)[index]?).trans (congrArg Except.ok ?_)
      have hlength : (members.map Prod.snd).length = members.length := List.length_map _
      rw [← hlength]
      exact hchildren hnode
    | _ => rfl

/-- The pointer to the parent is the rest of the ancestors. -/
theorem endObject_toParser {p : Position} (hnode : c.previousNode = some p)
    (hthere : (root.nodeAt p).isSome) :
    JSONParser.endObject.run c.toParser = .ok ((), c.endObject.toParser) := by
  have htail : (root.nodesAt p).tail = ((parent p).map root.nodesAt).getD [] := by
    cases p with
    | nil => rfl
    | cons i up =>
      rw [nodesAt]
      obtain ⟨node, hsome⟩ := Option.isSome_iff_exists.mp hthere
      rw [hsome]
      rfl
  change Except.ok ((), (⟨c.toParser.previousNode, c.toParser.previousNode.tail⟩ : JSONParser)) = _
  unfold toParser endObject
  rw [hnode]
  change Except.ok ((), (⟨root.nodesAt p, (root.nodesAt p).tail⟩ : JSONParser)) = _
  rw [htail]
  rfl

end JSONCursor

end Hatohol

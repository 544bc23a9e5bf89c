import Hatohol.Sql.Lexer

/-!
# Reading SQL text: conditions

The syntactic half of the reader and the meaning of a condition on one row. Truth is
three-valued: a comparison with a NULL column is unknown, and a row is selected only when
its condition is true. `AND` binds tighter than `OR`, `NOT` tighter than both; the parser is
a pushdown automaton with one frame for each open parenthesis.
-/

namespace Hatohol.Sql

inductive Literal where
  | int (value : Int)
  | str (value : String)
  deriving DecidableEq, Repr

/-- The value of a column in a row. -/
inductive Value where
  | null
  | int (value : Int)
  | str (value : String)
  deriving DecidableEq, Repr

/-- `none` is SQL's UNKNOWN. -/
abbrev Truth := Option Bool

def Truth.and : Truth → Truth → Truth
  | some false, _ => some false
  | _, some false => some false
  | some true, some true => some true
  | _, _ => none

def Truth.or : Truth → Truth → Truth
  | some true, _ => some true
  | _, some true => some true
  | some false, some false => some false
  | _, _ => none

def Truth.not : Truth → Truth
  | some b => some (!b)
  | none => none

def CmpOp.accepts : CmpOp → Ordering → Bool
  | .eq, o => o == .eq
  | .ne, o => o != .eq
  | .lt, o => o == .lt
  | .le, o => o != .gt
  | .gt, o => o == .gt
  | .ge, o => o != .lt

/-- A column compared with a literal. There is no implicit conversion: a string column and a
    number, or the other way round, do not compare. -/
def compareValue (o : CmpOp) : Value → Literal → Truth
  | .int a, .int b => some (o.accepts (compare a b))
  | .str a, .str b => some (o.accepts (compare a b))
  | _, _ => none

inductive Cond where
  | const (n : Int)
  | cmp (column : String) (o : CmpOp) (l : Literal)
  | inList (column : String) (ls : List Literal)
  | isNull (column : String)
  | not (c : Cond)
  | and (c d : Cond)
  | or (c d : Cond)
  deriving Repr

def Cond.eval (row : String → Value) : Cond → Truth
  | .const n => some (n != 0)
  | .cmp column o l => compareValue o (row column) l
  | .inList column ls => ls.foldr (fun l t => (compareValue .eq (row column) l).or t) (some false)
  | .isNull column => some (row column == .null)
  | .not c => (c.eval row).not
  | .and c d => (c.eval row).and (d.eval row)
  | .or c d => (c.eval row).or (d.eval row)

/-- What has been read since the last open parenthesis: the finished disjuncts, the
    conjunction being read and the number of `NOT`s before the next operand. -/
structure Frame where
  disj : Option Cond := none
  conj : Option Cond := none
  negations : Nat := 0
  deriving Repr

def negate : Nat → Cond → Cond
  | 0, c => c
  | n + 1, c => .not (negate n c)

def Frame.addOperand (f : Frame) (c : Cond) : Frame :=
  { disj := f.disj
    conj := some (match f.conj with
      | none => negate f.negations c
      | some d => .and d (negate f.negations c)) }

def Frame.close (f : Frame) : Option Cond :=
  match f.conj with
  | none => none
  | some c => some (match f.disj with
    | none => c
    | some d => .or d c)

/-- What the next token may be. -/
inductive Expect where
  | operand
  | operator
  | afterColumn (column : String)
  | afterOp (column : String) (o : CmpOp)
  | afterIn (column : String)
  | listItem (column : String) (read : List Literal)
  | listSeparator (column : String) (read : List Literal)
  | afterIs (column : String)
  deriving Repr

structure ParseState where
  expect : Expect
  frame : Frame
  outer : List Frame
  deriving Repr

def ParseState.operand (s : ParseState) (c : Cond) : ParseState :=
  { s with expect := .operator, frame := s.frame.addOperand c }

def Token.literal? : Token → Option Literal
  | .int n => some (.int n)
  | .str s => some (.str s)
  | _ => none

def parseToken (s : ParseState) (t : Token) : Option ParseState :=
  match s.expect with
  | .operand =>
    match t with
    | .word column => some { s with expect := .afterColumn column }
    | .int n => some (s.operand (.const n))
    | .lparen => some { expect := .operand, frame := {}, outer := s.frame :: s.outer }
    | .kw .kwNot =>
        some { s with frame := { s.frame with negations := s.frame.negations + 1 } }
    | _ => none
  | .operator =>
    match t with
    | .kw .kwAnd => some { s with expect := .operand }
    | .kw .kwOr =>
        s.frame.close.map fun c => { s with expect := .operand, frame := { disj := some c } }
    | .rparen =>
      match s.outer with
      | [] => none
      | f :: fs =>
          s.frame.close.map fun c => { expect := .operator, frame := f.addOperand c, outer := fs }
    | _ => none
  | .afterColumn column =>
    match t with
    | .op o => some { s with expect := .afterOp column o }
    | .kw .kwIn => some { s with expect := .afterIn column }
    | .kw .kwIs => some { s with expect := .afterIs column }
    | _ => none
  | .afterOp column o => t.literal?.map fun l => s.operand (.cmp column o l)
  | .afterIn column =>
    match t with
    | .lparen => some { s with expect := .listItem column [] }
    | _ => none
  | .listItem column read =>
      t.literal?.map fun l => { s with expect := .listSeparator column (read ++ [l]) }
  | .listSeparator column read =>
    match t with
    | .comma => some { s with expect := .listItem column read }
    | .rparen => some (s.operand (.inList column read))
    | _ => none
  | .afterIs column =>
    match t with
    | .kw .kwNull => some (s.operand (.isNull column))
    | _ => none

def parseTokens (s : ParseState) (ts : List Token) : Option ParseState := ts.foldlM parseToken s

def parse (ts : List Token) : Option Cond :=
  match parseTokens ⟨.operand, {}, []⟩ ts with
  | some ⟨.operator, f, []⟩ => f.close
  | _ => none

def readCondition (text : String) : Option Cond := (lex text).bind parse

/-- A row is selected by a WHERE text: the empty text stands for no WHERE clause, a text that
    is no condition selects nothing. -/
def selects (text : String) (row : String → Value) : Bool :=
  text == "" || ((readCondition text).bind (Cond.eval row)) == some true

example : selects "a=1 OR a=2 AND NOT (b='x')" (fun c => if c = "a" then .int 1 else .str "x") := by
  decide

@[simp] theorem parseTokens_nil (s : ParseState) : parseTokens s [] = some s := rfl

theorem parseTokens_cons (s : ParseState) (t : Token) (ts : List Token) :
    parseTokens s (t :: ts) = (parseToken s t).bind (parseTokens · ts) := rfl

theorem parseTokens_append (s : ParseState) (ts us : List Token) :
    parseTokens s (ts ++ us) = (parseTokens s ts).bind (parseTokens · us) :=
  List.foldlM_append

/-! ## Truth values -/

namespace Truth

@[simp] theorem and_true (a : Truth) : a.and (some true) = a := by
  rcases a with _ | _ | _ <;> rfl

@[simp] theorem true_and (a : Truth) : Truth.and (some true) a = a := by
  rcases a with _ | _ | _ <;> rfl

@[simp] theorem false_or (a : Truth) : Truth.or (some false) a = a := by
  rcases a with _ | _ | _ <;> rfl

@[simp] theorem some_and_some (a b : Bool) : Truth.and (some a) (some b) = some (a && b) := by
  cases a <;> cases b <;> rfl

@[simp] theorem some_or_some (a b : Bool) : Truth.or (some a) (some b) = some (a || b) := by
  cases a <;> cases b <;> rfl

@[simp] theorem not_some (a : Bool) : Truth.not (some a) = some (!a) := rfl

@[simp] theorem and_eq_true (a b : Truth) :
    a.and b = some true ↔ a = some true ∧ b = some true := by
  rcases a with _ | _ | _ <;> rcases b with _ | _ | _ <;> decide

@[simp] theorem or_eq_true (a b : Truth) :
    a.or b = some true ↔ a = some true ∨ b = some true := by
  rcases a with _ | _ | _ <;> rcases b with _ | _ | _ <;> decide

@[simp] theorem not_eq_true (a : Truth) : a.not = some true ↔ a = some false := by
  rcases a with _ | _ | _ <;> decide

@[simp] theorem and_eq_false (a b : Truth) :
    a.and b = some false ↔ a = some false ∨ b = some false := by
  rcases a with _ | _ | _ <;> rcases b with _ | _ | _ <;> decide

end Truth

/-! ## Comparisons -/

@[simp] theorem accepts_eq {α : Type} [Ord α] [Std.LawfulEqOrd α] (a b : α) :
    CmpOp.eq.accepts (compare a b) = true ↔ a = b := by
  simp [CmpOp.accepts]

@[simp] theorem accepts_ne {α : Type} [Ord α] [Std.LawfulEqOrd α] (a b : α) :
    CmpOp.ne.accepts (compare a b) = true ↔ a ≠ b := by
  simp [CmpOp.accepts]

@[simp] theorem accepts_lt (a b : Int) : CmpOp.lt.accepts (compare a b) = true ↔ a < b := by
  simp [CmpOp.accepts, compare_lt_iff_lt]

@[simp] theorem accepts_gt (a b : Int) : CmpOp.gt.accepts (compare a b) = true ↔ b < a := by
  simp [CmpOp.accepts, compare_gt_iff_gt]

@[simp] theorem accepts_le (a b : Int) : CmpOp.le.accepts (compare a b) = true ↔ a ≤ b := by
  simp [CmpOp.accepts, compare_gt_iff_gt]

@[simp] theorem accepts_ge (a b : Int) : CmpOp.ge.accepts (compare a b) = true ↔ b ≤ a := by
  simp [CmpOp.accepts, compare_lt_iff_lt]

/-- The value of a column equals a literal. -/
def Literal.value : Literal → Value
  | .int n => .int n
  | .str s => .str s

theorem compareValue_eq_true (v : Value) (l : Literal) :
    compareValue .eq v l = some true ↔ v = l.value := by
  cases v <;> cases l <;> simp [compareValue, Literal.value]

theorem inList_eq_true (row : String → Value) (column : String) (ls : List Literal) :
    (Cond.inList column ls).eval row = some true ↔ ∃ l ∈ ls, row column = l.value := by
  simp only [Cond.eval]
  induction ls with
  | nil => simp
  | cons l ls ih => simp [ih, compareValue_eq_true]

end Hatohol.Sql

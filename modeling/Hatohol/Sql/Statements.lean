import Hatohol.Sql.Columns

/-!
# The statements that a database takes

A SELECT statement with a WHERE text is refused if the text is no condition, or if a name in it that
stands without its table is a column of two of the tables. A text that was put together can be
judged by its parts.
-/

namespace Hatohol.Sql

/-- The text can stand behind WHERE. The empty one stands for no WHERE clause. -/
def isReadable (text : String) : Bool := text == "" || (readCondition text).isSome

/-- A name that columns of several tables have. The tables are given by the names of their
    columns. -/
def isAmbiguous (tables : List (List String)) (name : String) : Bool :=
  1 < tables.countP (·.contains name)

def namesAmbiguous (tables : List (List String)) (text : String) : Bool :=
  ((lex text).getD []).any fun
    | .word name => isAmbiguous tables name
    | _ => false

/-- The database takes a statement with this condition. -/
def isAccepted (tables : List (List String)) (text : String) : Bool :=
  isReadable text && !namesAmbiguous tables text

namespace Text

/-- The columns of a text, if there is one. -/
def columnsOf (o : Option Text) : List String := o.elim [] columns

@[simp] theorem columnsOf_none : columnsOf none = [] := rfl

@[simp] theorem columnsOf_some (t : Text) : columnsOf (some t) = t.columns := rfl

theorem names_iff {P : String → Prop} {o : Option Text} :
    Names P o ↔ ∀ name ∈ columnsOf o, P name := by
  cases o with
  | none => simp [names_none]
  | some t => exact names_some

theorem columnsOf_glue_and (o p : Option Text) :
    columnsOf (glue .and o p) = columnsOf o ++ columnsOf p := by
  cases o with
  | none => cases p <;> rfl
  | some a =>
    cases p with
    | none => exact (List.append_nil _).symm
    | some b => rfl

theorem columnsOf_foldl_glue (forms : List (Option Text)) (o : Option Text) :
    columnsOf (forms.foldl (glue .and) o) = columnsOf o ++ forms.flatMap columnsOf := by
  induction forms generalizing o with
  | nil => exact (List.append_nil _).symm
  | cons form forms ih =>
    rw [List.foldl_cons, ih, columnsOf_glue_and, List.flatMap_cons, List.append_assoc]

end Text

theorem Denotes.isReadable_eq {s : String} {o : Option Text} (h : Denotes s o) :
    isReadable s = Text.complete o := by
  cases o with
  | none =>
    obtain rfl : s = "" := h
    rfl
  | some t =>
    have hne : (s == "") = false := by simpa using h.ne_empty
    have hlex : lex s = some t.tokens := Spells.lex h
    rw [isReadable, hne, Bool.false_or, readCondition, hlex, Option.bind_some, Text.complete_some]
    rcases parse_text t with ⟨hwf, c, hparse, -⟩ | ⟨hwf, hparse⟩
    · rw [hparse, hwf]
      rfl
    · rw [hparse, hwf]
      rfl

theorem Denotes.namesAmbiguous_eq {s : String} {o : Option Text} (h : Denotes s o)
    (tables : List (List String)) :
    namesAmbiguous tables s = (Text.columnsOf o).any (isAmbiguous tables) := by
  cases o with
  | none =>
    obtain rfl : s = "" := h
    rfl
  | some t =>
    have hlex : lex s = some t.tokens := Spells.lex h
    rw [namesAmbiguous, hlex, Option.getD_some, Text.columnsOf_some, Bool.eq_iff_iff,
      List.any_eq_true, List.any_eq_true]
    constructor
    · rintro ⟨token, htoken, hambiguous⟩
      cases token with
      | word name => exact ⟨name, Text.mem_columns.mp htoken, hambiguous⟩
      | _ => cases hambiguous
    · rintro ⟨name, hname, hambiguous⟩
      exact ⟨.word name, Text.mem_columns.mpr hname, hambiguous⟩

end Hatohol.Sql

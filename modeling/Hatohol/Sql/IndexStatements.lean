import Hatohol.Sql.Lexer

/-!
# Statements on indexes

`CREATE INDEX` and `DROP INDEX` as the databases read them. MySQL wants the table of an index that is
dropped, SQLite does not. A name is read as a name only if it needs no quotation marks.
-/

namespace Hatohol.Sql

inductive IndexStatement where
  | create (isUnique : Bool) (name table : String) (columns : List String)
  | drop (name : String) (table : Option String)
  deriving DecidableEq, Repr

/-- The columns up to the parenthesis that closes them. -/
def readColumns : List Token → Option (List String)
  | [.word column, .rparen] => some [column]
  | .word column :: .comma :: ts => (readColumns ts).map (column :: ·)
  | _ => none

def readCreateIndex (isUnique : Bool) : List Token → Option IndexStatement
  | .word name :: .word on :: .word table :: .lparen :: ts =>
      if on = "ON" then (readColumns ts).map (.create isUnique name table) else none
  | _ => none

def readDropIndex : List Token → Option IndexStatement
  | [.word name] => some (.drop name none)
  | [.word name, .word on, .word table] =>
      if on = "ON" then some (.drop name (some table)) else none
  | _ => none

def readIndexTokens : List Token → Option IndexStatement
  | .word verb :: .word kind :: ts =>
      if verb = "CREATE" then
        if kind = "INDEX" then readCreateIndex false ts
        else if kind = "UNIQUE" then
          match ts with
          | .word noun :: ts => if noun = "INDEX" then readCreateIndex true ts else none
          | _ => none
        else none
      else if verb = "DROP" ∧ kind = "INDEX" then readDropIndex ts
      else none
  | _ => none

def readIndexStatement (text : String) : Option IndexStatement := (lex text).bind readIndexTokens

/-- The reserved words of these statements. -/
def reservedWords : List (List Char) :=
  ["create".toList, "drop".toList, "index".toList, "on".toList, "primary".toList, "unique".toList]

/-- A name that needs no quotation marks. -/
def isPlainName (name : String) : Bool :=
  isName name && !name.toList.contains '.' && name.toList.map Char.toLower ∉ reservedWords

theorem isName_of_isPlainName {name : String} (hplain : isPlainName name = true) :
    isName name = true := by
  unfold isPlainName at hplain
  rw [Bool.and_eq_true, Bool.and_eq_true] at hplain
  exact hplain.1.1

/-! ## Their texts -/

/-- A name ends before a parenthesis, too. -/
theorem opens_name_lparen {name : String} (hname : isName name = true) :
    Opens (name.toList ++ ['(']) [.word name, .lparen] := by
  have hword := wordToken_of_isName hname
  obtain ⟨c, cs, hlist, hstart, hall⟩ := toList_of_isName hname
  rw [hlist] at hword ⊢
  intro s out hread hhead
  have hopen := lexChar_open hread (hhead c (by simp)) (openLexeme_nameStart hstart)
  have hend : extendLexeme (.name (c :: cs)) '(' = none := by
    have hnot : isNameChar '(' = false := by decide
    simp [extendLexeme, hnot]
  have hparen : lexChar ⟨out, .name (c :: cs)⟩ '(' = some ⟨out ++ [.word name], .whole .lparen⟩ := by
    have hclose : closeLexeme (.name (c :: cs)) = some [.word name] := by
      rw [closeLexeme, hword]
    have hbracket : openLexeme '(' = some (.whole .lparen) := by decide
    unfold lexChar
    rw [hend, hclose, hbracket]
  refine ⟨⟨out ++ [.word name], .whole .lparen⟩, ?_, ?_, fun _ => rfl⟩
  · rw [List.cons_append, lexChars_cons, hopen, Option.bind_some, lexChars_append,
      lexChars_name out [c] cs hall]
    change (lexChar ⟨out, .name (c :: cs)⟩ '(').bind (lexChars · []) = _
    rw [hparen]
    rfl
  · rw [LexState.read]
    change some (out ++ [.word name] ++ [.lparen]) = _
    rw [List.append_assoc]
    rfl

theorem opens_on : Opens " ON ".toList [.word "ON"] :=
  opens_of_run .blank rfl rfl rfl fun _ => rfl

/-- What stands behind the parenthesis that opens the columns, which are not empty. -/
def columnsText : List String → String
  | [] => ")"
  | [column] => column ++ ")"
  | column :: columns => column ++ "," ++ columnsText columns

def columnTokens : List String → List Token
  | [] => [.rparen]
  | [column] => [.word column, .rparen]
  | column :: columns => .word column :: .comma :: columnTokens columns

theorem spells_columnsText {columns : List String}
    (hnames : ∀ column ∈ columns, isName column = true) :
    Spells (columnsText columns).toList (columnTokens columns) := by
  induction columns with
  | nil => exact opens_rparen.spells
  | cons column columns ih =>
    have hcolumn : Spells column.toList [.word column] :=
      spells_name (hnames column List.mem_cons_self)
    cases columns with
    | nil =>
      rw [columnsText, String.toList_append]
      exact hcolumn.append opens_rparen.spells (separates rfl)
    | cons next columns =>
      have hrest := ih fun c hc => hnames c (List.mem_cons_of_mem _ hc)
      change Spells (column ++ "," ++ columnsText (next :: columns)).toList _
      rw [String.toList_append, String.toList_append]
      exact hcolumn.join opens_comma (separates rfl) hrest

theorem readColumns_columnTokens {columns : List String} (hne : columns ≠ []) :
    readColumns (columnTokens columns) = some columns := by
  induction columns with
  | nil => exact absurd rfl hne
  | cons column columns ih =>
    cases columns with
    | nil => rfl
    | cons next columns =>
      rw [columnTokens, readColumns, ih (List.cons_ne_nil _ _), Option.map_some]
      exact List.cons_ne_nil _ _

end Hatohol.Sql

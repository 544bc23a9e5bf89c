import Mathlib.Data.List.Basic
import Mathlib.Tactic.IntervalCases

/-!
# Reading SQL text: tokens

A condition that reaches the database is text. This module is the lexical half of its
reader: names (possibly qualified with a dot), decimal integers with an optional sign,
quoted strings in which a doubled quote stands for one quote, comparison operators,
parentheses, commas and the keywords of a boolean condition in any case.

The lexer is an automaton that is folded over the characters, so the tokens of a
concatenation follow from those of its parts (`Spells`) as long as no lexeme runs over the
seam.
-/

namespace Hatohol.Sql

/-- The comparison operators; `<>` and `!=` are the same token. -/
inductive CmpOp where
  | eq | ne | lt | le | gt | ge
  deriving DecidableEq, Repr

/-- The reserved words of a boolean condition. -/
inductive Keyword where
  | kwAnd | kwOr | kwNot | kwIn | kwIs | kwNull
  deriving DecidableEq, Repr

inductive Token where
  | word (name : String)
  | kw (k : Keyword)
  | int (value : Int)
  | str (value : String)
  | op (o : CmpOp)
  | lparen | rparen | comma
  deriving DecidableEq, Repr

/-- What the lexer has read of the lexeme it is in. `whole` is a lexeme no further
    character can extend; `quoteInside` has just read a quote within a string, which ends
    the string unless another quote follows. -/
inductive Lexeme where
  | blank
  | whole (t : Token)
  | name (read : List Char)
  | minus
  | number (negative : Bool) (value : Nat)
  | quoted (read : List Char)
  | quoteInside (read : List Char)
  | less | greater | bang
  deriving DecidableEq, Repr

structure LexState where
  tokens : List Token
  lexeme : Lexeme
  deriving DecidableEq, Repr

def keywords : List (List Char × Keyword) :=
  [("AND".toList, .kwAnd), ("OR".toList, .kwOr), ("NOT".toList, .kwNot),
   ("IN".toList, .kwIn), ("IS".toList, .kwIs), ("NULL".toList, .kwNull)]

/-- Keywords are recognised in any case. -/
def wordToken (read : List Char) : Token :=
  match keywords.lookup (read.map Char.toUpper) with
  | some k => .kw k
  | none => .word (String.ofList read)

def isNameChar (c : Char) : Bool := c.isAlphanum || c == '_' || c == '.'

def isNameStart (c : Char) : Bool := c.isAlpha || c == '_'

def digitValue (c : Char) : Nat := c.toNat - '0'.toNat

/-- The lexeme that a character opens. -/
def openLexeme (c : Char) : Option Lexeme :=
  if c = ' ' then some .blank
  else if isNameStart c then some (.name [c])
  else if c.isDigit then some (.number false (digitValue c))
  else if c = '-' then some .minus
  else if c = '\'' then some (.quoted [])
  else if c = '(' then some (.whole .lparen)
  else if c = ')' then some (.whole .rparen)
  else if c = ',' then some (.whole .comma)
  else if c = '=' then some (.whole (.op .eq))
  else if c = '<' then some .less
  else if c = '>' then some .greater
  else if c = '!' then some .bang
  else none

/-- The lexeme extended by one more character, or `none` if the lexeme ends before it. -/
def extendLexeme : Lexeme → Char → Option Lexeme
  | .name read, c => if isNameChar c then some (.name (read ++ [c])) else none
  | .minus, c => if c.isDigit then some (.number true (digitValue c)) else none
  | .number neg n, c => if c.isDigit then some (.number neg (10 * n + digitValue c)) else none
  | .quoted read, c =>
      if c = '\'' then some (.quoteInside read) else some (.quoted (read ++ [c]))
  | .quoteInside read, c => if c = '\'' then some (.quoted (read ++ [c])) else none
  | .less, c =>
      if c = '=' then some (.whole (.op .le))
      else if c = '>' then some (.whole (.op .ne)) else none
  | .greater, c => if c = '=' then some (.whole (.op .ge)) else none
  | .bang, c => if c = '=' then some (.whole (.op .ne)) else none
  | .blank, _ => none
  | .whole _, _ => none

/-- The tokens a lexeme stands for when it ends; an unterminated string is no token. -/
def closeLexeme : Lexeme → Option (List Token)
  | .blank => some []
  | .whole t => some [t]
  | .name read => some [wordToken read]
  | .minus => none
  | .number neg n => some [.int (if neg then -(n : Int) else n)]
  | .quoted _ => none
  | .quoteInside read => some [.str (String.ofList read)]
  | .less => some [.op .lt]
  | .greater => some [.op .gt]
  | .bang => none

def lexChar (s : LexState) (c : Char) : Option LexState :=
  match extendLexeme s.lexeme c with
  | some l => some ⟨s.tokens, l⟩
  | none =>
    match closeLexeme s.lexeme, openLexeme c with
    | some ts, some l => some ⟨s.tokens ++ ts, l⟩
    | _, _ => none

def lexChars (s : LexState) (cs : List Char) : Option LexState := cs.foldlM lexChar s

/-- The tokens of a text, or `none` if some part of it is no token. -/
def lex (text : String) : Option (List Token) :=
  match lexChars ⟨[], .blank⟩ text.toList with
  | none => none
  | some s => (closeLexeme s.lexeme).map (s.tokens ++ ·)

example : lex "a.b<>-12 AND c in ('it''s')" =
    some [.word "a.b", .op .ne, .int (-12), .kw .kwAnd, .word "c", .kw .kwIn, .lparen,
      .str "it's", .rparen] := by decide

@[simp] theorem lexChars_nil (s : LexState) : lexChars s [] = some s := rfl

theorem lexChars_cons (s : LexState) (c : Char) (cs : List Char) :
    lexChars s (c :: cs) = (lexChar s c).bind (lexChars · cs) := rfl

theorem lexChars_append (s : LexState) (cs ds : List Char) :
    lexChars s (cs ++ ds) = (lexChars s cs).bind (lexChars · ds) :=
  List.foldlM_append

/-! ## Texts and the tokens they spell -/

/-- The tokens read so far, the pending lexeme included. -/
def LexState.read (s : LexState) : Option (List Token) :=
  (closeLexeme s.lexeme).map (s.tokens ++ ·)

/-- The characters before which every complete lexeme ends. -/
def isSeparator (c : Char) : Bool := c ∈ [' ', ')', ',', '=', '<', '>', '!']

/-- A text that starts with a separator, for a text that is known. -/
theorem separates {cs : List Char} (h : cs.head?.all isSeparator) :
    ∀ c ∈ cs.head?, isSeparator c := by
  intro c hc
  rw [Option.mem_def] at hc
  simpa [hc] using h

/-- `cs` spells `ts`: wherever the lexer stands, as long as the first character of `cs` does
    not run into the pending lexeme, reading `cs` adds exactly `ts` and leaves a lexeme that
    any separator ends. -/
def Spells (cs : List Char) (ts : List Token) : Prop :=
  ∀ s out, s.read = some out → (∀ c ∈ cs.head?, extendLexeme s.lexeme c = none) →
    ∃ s', lexChars s cs = some s' ∧ s'.read = some (out ++ ts) ∧
      ∀ c, isSeparator c → extendLexeme s'.lexeme c = none

theorem lexChar_open {s : LexState} {out : List Token} {c : Char} {l : Lexeme}
    (hread : s.read = some out) (hend : extendLexeme s.lexeme c = none)
    (hopen : openLexeme c = some l) : lexChar s c = some ⟨out, l⟩ := by
  unfold LexState.read at hread
  cases hclose : closeLexeme s.lexeme with
  | none => simp [hclose] at hread
  | some ts =>
    have hout : s.tokens ++ ts = out := by simpa [hclose] using hread
    simp [lexChar, hend, hclose, hopen, hout]

theorem Spells.lex {text : String} {ts : List Token} (h : Spells text.toList ts) :
    lex text = some ts := by
  obtain ⟨s', hrun, hread, -⟩ := h ⟨[], .blank⟩ [] rfl (fun _ _ => rfl)
  simpa [Sql.lex, hrun, LexState.read] using hread

/-- Like `Spells`, but nothing at all can extend what is left pending: the text ends in a
    blank or in a lexeme that is always complete, so any text may follow. -/
def Opens (cs : List Char) (ts : List Token) : Prop :=
  ∀ s out, s.read = some out → (∀ c ∈ cs.head?, extendLexeme s.lexeme c = none) →
    ∃ s', lexChars s cs = some s' ∧ s'.read = some (out ++ ts) ∧
      ∀ c, extendLexeme s'.lexeme c = none

theorem Opens.spells {cs : List Char} {ts : List Token} (h : Opens cs ts) : Spells cs ts := by
  intro s out hread hhead
  obtain ⟨s', hrun, hread', hend⟩ := h s out hread hhead
  exact ⟨s', hrun, hread', fun c _ => hend c⟩

theorem head_left {cs ds : List Char} {P : Char → Prop} (h : ∀ c ∈ (cs ++ ds).head?, P c) :
    ∀ c ∈ cs.head?, P c := by
  cases cs with
  | nil => simp
  | cons d tl => simpa using h

theorem Opens.append {cs ds : List Char} {ts us : List Token}
    (hcs : Opens cs ts) (hds : Spells ds us) : Spells (cs ++ ds) (ts ++ us) := by
  intro s out hread hhead
  obtain ⟨s1, hrun1, hread1, hend1⟩ := hcs s out hread (head_left hhead)
  obtain ⟨s2, hrun2, hread2, hend2⟩ := hds s1 _ hread1 fun c _ => hend1 c
  refine ⟨s2, ?_, by simpa using hread2, hend2⟩
  rw [lexChars_append, hrun1, Option.bind_some, hrun2]

/-- A text followed by one that starts with a separator and leaves nothing pending. -/
theorem Spells.opens {cs ds : List Char} {ts us : List Token} (hcs : Spells cs ts)
    (hds : Opens ds us) (hsep : ∀ c ∈ ds.head?, isSeparator c) : Opens (cs ++ ds) (ts ++ us) := by
  intro s out hread hhead
  obtain ⟨s1, hrun1, hread1, hend1⟩ := hcs s out hread (head_left hhead)
  obtain ⟨s2, hrun2, hread2, hend2⟩ := hds s1 _ hread1 fun c hc => hend1 c (hsep c hc)
  refine ⟨s2, ?_, by simpa using hread2, hend2⟩
  rw [lexChars_append, hrun1, Option.bind_some, hrun2]

/-- Two texts with a separating text between them. -/
theorem Spells.join {cs ds mid : List Char} {ts us mts : List Token} (hcs : Spells cs ts)
    (hmid : Opens mid mts) (hsep : ∀ c ∈ mid.head?, isSeparator c) (hds : Spells ds us) :
    Spells (cs ++ mid ++ ds) (ts ++ mts ++ us) :=
  (hcs.opens hmid hsep).append hds

/-- A text followed by one that starts with a separator. -/
theorem Spells.append {cs ds : List Char} {ts us : List Token} (hcs : Spells cs ts)
    (hds : Spells ds us) (hsep : ∀ c ∈ ds.head?, isSeparator c) : Spells (cs ++ ds) (ts ++ us) := by
  intro s out hread hhead
  obtain ⟨s1, hrun1, hread1, hend1⟩ := hcs s out hread (head_left hhead)
  obtain ⟨s2, hrun2, hread2, hend2⟩ := hds s1 _ hread1 fun c hc => hend1 c (hsep c hc)
  refine ⟨s2, ?_, by simpa using hread2, hend2⟩
  rw [lexChars_append, hrun1, Option.bind_some, hrun2]

/-- A lexeme of one character before a text that does not run into it. -/
theorem Spells.cons {c : Char} {cs : List Char} {l : Lexeme} {t : Token} {ts : List Token}
    (hopen : openLexeme c = some l) (hclose : closeLexeme l = some [t]) (hcs : Spells cs ts)
    (hend : ∀ d ∈ cs.head?, extendLexeme l d = none) : Spells (c :: cs) (t :: ts) := by
  intro s out hread hhead
  obtain ⟨s', hrun, hread', hend'⟩ :=
    hcs ⟨out, l⟩ (out ++ [t]) (by simp [LexState.read, hclose]) hend
  refine ⟨s', ?_, by simpa using hread', hend'⟩
  rw [lexChars_cons, lexChar_open hread (hhead c (by simp)) hopen, Option.bind_some, hrun]

/-- A text that opens a lexeme with its first character and runs to the end of it. -/
theorem spells_of_lexeme {c : Char} {cs : List Char} {l m : Lexeme} {t : Token}
    (hopen : openLexeme c = some l)
    (hrun : ∀ out, lexChars ⟨out, l⟩ cs = some ⟨out, m⟩) (hclose : closeLexeme m = some [t])
    (hend : ∀ d, isSeparator d → extendLexeme m d = none) : Spells (c :: cs) [t] := by
  intro s out hread hhead
  refine ⟨⟨out, m⟩, ?_, by simp [LexState.read, hclose], hend⟩
  rw [lexChars_cons, lexChar_open hread (hhead c (by simp)) hopen, Option.bind_some, hrun]

/-- What the lexer has put out earlier does not matter to what it reads next. -/
theorem lexChars_tokens (out : List Token) (l : Lexeme) (cs : List Char) :
    lexChars ⟨out, l⟩ cs = (lexChars ⟨[], l⟩ cs).map fun s => ⟨out ++ s.tokens, s.lexeme⟩ := by
  induction cs generalizing out l with
  | nil => simp
  | cons c cs ih =>
    rw [lexChars_cons, lexChars_cons]
    cases hext : extendLexeme l c with
    | some l' => simpa [lexChar, hext] using ih out l'
    | none =>
      cases hclose : closeLexeme l with
      | none => simp [lexChar, hext, hclose]
      | some ts =>
        cases hopen : openLexeme c with
        | none => simp [lexChar, hext, hclose, hopen]
        | some l' =>
          simp only [lexChar, hext, hclose, hopen, Option.bind_some, List.nil_append]
          rw [ih (out ++ ts), ih ts, Option.map_map]
          simp [Function.comp_def, List.append_assoc]

/-- A fixed text: `hrun` is checked by running the lexer. -/
theorem opens_of_run (l' : Lexeme) {c : Char} {cs : List Char} {l : Lexeme} {out ts : List Token}
    (hopen : openLexeme c = some l) (hrun : lexChars ⟨[], l⟩ cs = some ⟨out, l'⟩)
    (hclose : (closeLexeme l').map (out ++ ·) = some ts)
    (hend : ∀ d, extendLexeme l' d = none) : Opens (c :: cs) ts := by
  intro s read hread hhead
  refine ⟨⟨read ++ out, l'⟩, ?_, ?_, hend⟩
  · rw [lexChars_cons, lexChar_open hread (hhead c (by simp)) hopen, Option.bind_some,
      lexChars_tokens, hrun]
    rfl
  · obtain ⟨us, hus, rfl⟩ := Option.map_eq_some_iff.mp hclose
    simp [LexState.read, hus]

/-! ### Punctuation, connectives and operators -/

theorem opens_lparen : Opens "(".toList [.lparen] :=
  opens_of_run (.whole .lparen) rfl rfl rfl fun _ => rfl

theorem opens_rparen : Opens ")".toList [.rparen] :=
  opens_of_run (.whole .rparen) rfl rfl rfl fun _ => rfl

theorem opens_comma : Opens ",".toList [.comma] :=
  opens_of_run (.whole .comma) rfl rfl rfl fun _ => rfl

theorem opens_and : Opens " AND ".toList [.kw .kwAnd] :=
  opens_of_run .blank rfl rfl rfl fun _ => rfl

theorem opens_or : Opens " OR ".toList [.kw .kwOr] :=
  opens_of_run .blank rfl rfl rfl fun _ => rfl

theorem opens_not : Opens "NOT ".toList [.kw .kwNot] :=
  opens_of_run .blank rfl rfl rfl fun _ => rfl

theorem opens_in : Opens " IN (".toList [.kw .kwIn, .lparen] :=
  opens_of_run (.whole .lparen) rfl rfl rfl fun _ => rfl

theorem opens_in_lower : Opens " in (".toList [.kw .kwIn, .lparen] :=
  opens_of_run (.whole .lparen) rfl rfl rfl fun _ => rfl

theorem opens_eq : Opens "=".toList [.op .eq] :=
  opens_of_run (.whole (.op .eq)) rfl rfl rfl fun _ => rfl

theorem opens_ne : Opens "<>".toList [.op .ne] :=
  opens_of_run (.whole (.op .ne)) rfl rfl rfl fun _ => rfl

theorem opens_bang : Opens "!=".toList [.op .ne] :=
  opens_of_run (.whole (.op .ne)) rfl rfl rfl fun _ => rfl

theorem opens_le : Opens "<=".toList [.op .le] :=
  opens_of_run (.whole (.op .le)) rfl rfl rfl fun _ => rfl

theorem opens_ge : Opens ">=".toList [.op .ge] :=
  opens_of_run (.whole (.op .ge)) rfl rfl rfl fun _ => rfl

/-! ### Names -/

/-- A name that is no keyword, possibly qualified with a table name. -/
def isName (s : String) : Bool :=
  match s.toList with
  | [] => false
  | c :: cs => isNameStart c && cs.all isNameChar && wordToken (c :: cs) == .word s

theorem lexChars_name (out : List Token) (read cs : List Char) (h : cs.all isNameChar) :
    lexChars ⟨out, .name read⟩ cs = some ⟨out, .name (read ++ cs)⟩ := by
  induction cs generalizing read with
  | nil => simp
  | cons c cs ih =>
    simp only [List.all_cons, Bool.and_eq_true] at h
    rw [lexChars_cons]
    simp [lexChar, extendLexeme, h.1, ih (read ++ [c]) h.2]

theorem openLexeme_nameStart {c : Char} (h : isNameStart c) : openLexeme c = some (.name [c]) := by
  have hblank : c ≠ ' ' := by rintro rfl; revert h; decide
  simp [openLexeme, hblank, h]

theorem separator_not_nameChar {c : Char} (h : isSeparator c) : isNameChar c = false := by
  simp only [isSeparator, List.mem_cons, List.mem_nil_iff, or_false, decide_eq_true_eq] at h
  rcases h with rfl | rfl | rfl | rfl | rfl | rfl | rfl <;> decide

theorem spells_is_null : Spells " is NULL".toList [.kw .kwIs, .kw .kwNull] := by
  intro s out hread hhead
  have hopen := lexChar_open hread (hhead ' ' (by simp)) (show openLexeme ' ' =
    some .blank from rfl)
  have hrun : lexChars ⟨[], .blank⟩ "is NULL".toList =
      some ⟨[.kw .kwIs], .name "NULL".toList⟩ := by decide
  refine ⟨⟨out ++ [.kw .kwIs], .name "NULL".toList⟩, ?_, ?_, ?_⟩
  · have hchars : " is NULL".toList = ' ' :: "is NULL".toList := by decide
    rw [hchars, lexChars_cons, hopen, Option.bind_some, lexChars_tokens, hrun]
    rfl
  · have hnull : wordToken "NULL".toList = .kw .kwNull := by decide
    simp only [LexState.read, closeLexeme, hnull, Option.map_some, List.append_assoc,
      List.singleton_append]
  · intro c hc
    simp [extendLexeme, separator_not_nameChar hc]

theorem toList_of_isName {s : String} (h : isName s) :
    ∃ c cs, s.toList = c :: cs ∧ isNameStart c ∧ cs.all isNameChar := by
  unfold isName at h
  split at h
  · exact absurd h (by simp)
  · rename_i c cs hs
    simp only [Bool.and_eq_true] at h
    exact ⟨c, cs, hs, h.1.1, h.1.2⟩

theorem wordToken_of_isName {s : String} (h : isName s) : wordToken s.toList = .word s := by
  unfold isName at h
  split at h
  · exact absurd h (by simp)
  · rename_i c cs hs
    simp only [Bool.and_eq_true, beq_iff_eq] at h
    rw [hs, h.2]

theorem spells_name {s : String} (h : isName s) : Spells s.toList [.word s] := by
  have hword := wordToken_of_isName h
  obtain ⟨c, cs, hs, hstart, hall⟩ := toList_of_isName h
  rw [hs] at hword ⊢
  refine spells_of_lexeme (openLexeme_nameStart hstart)
    (fun out => lexChars_name out [c] cs hall) (by simp [closeLexeme, hword]) ?_
  intro d hd
  simp [extendLexeme, separator_not_nameChar hd]

/-- A dot keeps a word from being a keyword. -/
theorem wordToken_of_dot {read : List Char} (h : '.' ∈ read) :
    wordToken read = .word (String.ofList read) := by
  have hmem : '.' ∈ read.map Char.toUpper := List.mem_map.mpr ⟨'.', h, rfl⟩
  have hnone : keywords.lookup (read.map Char.toUpper) = none := by
    rw [List.lookup_eq_none_iff]
    intro p hp
    rw [bne_iff_ne]
    intro heq
    rw [heq] at hmem
    simp only [keywords, List.mem_cons, List.mem_nil_iff, or_false] at hp
    rcases hp with rfl | rfl | rfl | rfl | rfl | rfl <;> revert hmem <;> decide
  simp [wordToken, hnone]

theorem isNameChar_of_isNameStart {c : Char} (h : isNameStart c) : isNameChar c := by
  simp only [isNameStart, Bool.or_eq_true] at h
  rcases h with h | h <;> simp [isNameChar, Char.isAlphanum, h]

theorem isName_qualified {table column : String} (ht : isName table) (hc : isName column) :
    isName (table ++ "." ++ column) := by
  obtain ⟨c, cs, htable, hct, hcst⟩ := toList_of_isName ht
  obtain ⟨d, ds, hcolumn, hdc, hdsc⟩ := toList_of_isName hc
  have hlist : (table ++ "." ++ column).toList = c :: (cs ++ '.' :: d :: ds) := by
    simp [htable, hcolumn]
  unfold isName
  rw [hlist]
  have hword : wordToken (c :: (cs ++ '.' :: d :: ds)) = .word (table ++ "." ++ column) := by
    rw [wordToken_of_dot (by simp), ← hlist, String.ofList_toList]
  have hdot : isNameChar '.' = true := by decide
  simp [hword, hct, hcst, hdsc, isNameChar_of_isNameStart hdc, hdot]

/-! ### Literals -/

/-- The number that a run of digits continues. -/
def digitsFrom (n : Nat) (cs : List Char) : Nat := cs.foldl (fun n c => 10 * n + digitValue c) n

theorem lexChars_digits (out : List Token) (neg : Bool) (n : Nat) (cs : List Char)
    (h : ∀ c ∈ cs, c.isDigit) :
    lexChars ⟨out, .number neg n⟩ cs = some ⟨out, .number neg (digitsFrom n cs)⟩ := by
  induction cs generalizing n with
  | nil => rfl
  | cons c cs ih =>
    rw [lexChars_cons]
    have htail := ih (10 * n + digitValue c) fun d hd => h d (by simp [hd])
    simpa [lexChar, extendLexeme, h c (by simp), digitsFrom] using htail

theorem digitValue_digitChar {n : Nat} (h : n < 10) : digitValue n.digitChar = n := by
  interval_cases n <;> rfl

theorem digitsFrom_toDigits (n : Nat) : digitsFrom 0 (Nat.toDigits 10 n) = n := by
  induction n using Nat.strongRecOn with
  | ind n ih =>
    by_cases hn : n < 10
    · rw [Nat.toDigits_of_lt_base hn]
      simpa [digitsFrom] using digitValue_digitChar hn
    · rw [Nat.toDigits_of_base_le (by omega) (by omega)]
      have hdiv := ih (n / 10) (by omega)
      unfold digitsFrom at hdiv ⊢
      rw [List.foldl_append, hdiv]
      simp only [List.foldl_cons, List.foldl_nil]
      rw [digitValue_digitChar (by omega)]
      omega

theorem separator_not_digit {c : Char} (h : isSeparator c) : c.isDigit = false := by
  simp only [isSeparator, List.mem_cons, List.mem_nil_iff, or_false, decide_eq_true_eq] at h
  rcases h with rfl | rfl | rfl | rfl | rfl | rfl | rfl <;> decide

theorem openLexeme_digit {c : Char} (h : c.isDigit) :
    openLexeme c = some (.number false (digitValue c)) := by
  have hblank : c ≠ ' ' := by rintro rfl; revert h; decide
  have hunder : c ≠ '_' := by rintro rfl; revert h; decide
  have halpha : c.isAlpha = false := by
    rw [Char.isDigit_iff_toNat] at h
    change (decide (c.val ≥ 'A'.val ∧ c.val ≤ 'Z'.val) ||
      (decide (c.val ≥ 'a'.val) && decide (c.val ≤ 'z'.val))) = false
    simp only [Bool.or_eq_false_iff, Bool.and_eq_false_iff, decide_eq_false_iff_not, not_and_or,
      UInt32.le_iff_toNat_le, ge_iff_le]
    have : c.toNat = c.val.toNat := rfl
    have : '9'.toNat = 57 := rfl
    have : 'A'.val.toNat = 65 := rfl
    have : 'a'.val.toNat = 97 := rfl
    omega
  simp [openLexeme, isNameStart, hblank, hunder, halpha, h]

theorem toDigits_eq_cons (n : Nat) :
    ∃ c cs, Nat.toDigits 10 n = c :: cs ∧ c.isDigit ∧ ∀ d ∈ cs, d.isDigit := by
  have hdigit : ∀ c ∈ Nat.toDigits 10 n, c.isDigit := fun c hc =>
    Nat.isDigit_of_mem_toDigits (by omega) (by omega) hc
  cases hds : Nat.toDigits 10 n with
  | nil => exact absurd hds Nat.toDigits_ne_nil
  | cons c cs =>
    rw [hds] at hdigit
    exact ⟨c, cs, rfl, hdigit c (by simp), fun d hd => hdigit d (by simp [hd])⟩

theorem spells_nat (n : Nat) : Spells (toString n).toList [.int n] := by
  obtain ⟨c, cs, hds, hc, hcs⟩ := toDigits_eq_cons n
  have hvalue := digitsFrom_toDigits n
  rw [hds] at hvalue
  rw [Nat.toString_eq_repr, Nat.toList_repr, hds]
  refine spells_of_lexeme (openLexeme_digit hc) (fun out => lexChars_digits out false _ cs hcs) ?_ ?_
  · have : digitsFrom (digitValue c) cs = n := by simpa [digitsFrom] using hvalue
    simp [closeLexeme, this]
  · intro d hd
    simp [extendLexeme, separator_not_digit hd]

theorem spells_negative (n : Nat) : Spells ('-' :: (toString n).toList) [.int (-(n : Int))] := by
  obtain ⟨c, cs, hds, hc, hcs⟩ := toDigits_eq_cons n
  have hvalue := digitsFrom_toDigits n
  rw [hds] at hvalue
  rw [Nat.toString_eq_repr, Nat.toList_repr, hds]
  refine spells_of_lexeme (l := .minus) (m := .number true n) rfl (fun out => ?_)
    (by simp [closeLexeme]) ?_
  · have hrest := lexChars_digits out true (digitValue c) cs hcs
    have : digitsFrom (digitValue c) cs = n := by simpa [digitsFrom] using hvalue
    rw [this] at hrest
    rw [lexChars_cons]
    simp [lexChar, extendLexeme, hc, hrest]
  · intro d hd
    simp [extendLexeme, separator_not_digit hd]

/-- The decimal form of an integer spells that integer. -/
theorem spells_int (n : Int) : Spells (toString n).toList [.int n] := by
  rw [Int.toString_eq_repr, Int.repr_eq_if]
  split
  · rename_i h
    have := spells_nat n.toNat
    rwa [Nat.toString_eq_repr, Int.toNat_of_nonneg h] at this
  · rename_i h
    have := spells_negative (-n).toNat
    rw [Nat.toString_eq_repr, Int.toNat_of_nonneg (by omega), Int.neg_neg] at this
    simpa using this

/-- The decimal form of an integer starts with a digit or the sign. -/
theorem head_toString_int (n : Int) : ∀ c ∈ (toString n).toList.head?, c.isDigit ∨ c = '-' := by
  have hnat (m : Nat) : ∀ c ∈ (Nat.repr m).toList.head?, c.isDigit := by
    obtain ⟨d, ds, hds, hd, -⟩ := toDigits_eq_cons m
    rw [Nat.toList_repr, hds]
    simpa using hd
  rw [Int.toString_eq_repr, Int.repr_eq_if]
  split
  · intro c hc
    exact .inl (hnat _ c hc)
  · intro c hc
    right
    simpa [eq_comm] using hc

/-- An operator of one character before an integer, which extends no operator. -/
theorem spells_op_int {c : Char} {l : Lexeme} {o : CmpOp} (hopen : openLexeme c = some l)
    (hclose : closeLexeme l = some [.op o])
    (hend : ∀ d, d ≠ '=' → d ≠ '>' → extendLexeme l d = none) (n : Int) :
    Spells (c :: (toString n).toList) [.op o, .int n] := by
  refine Spells.cons hopen hclose (spells_int n) fun d hd => ?_
  apply hend d
  · rintro rfl
    exact absurd (head_toString_int n _ hd) (by decide)
  · rintro rfl
    exact absurd (head_toString_int n _ hd) (by decide)

/-- A string between quotes, each quote inside doubled. -/
def quoteChars (cs : List Char) : List Char :=
  '\'' :: ((cs.flatMap fun c => if c = '\'' then ['\'', '\''] else [c]) ++ ['\''])

theorem lexChars_quoted (out : List Token) (read cs : List Char) :
    lexChars ⟨out, .quoted read⟩ (cs.flatMap fun c => if c = '\'' then ['\'', '\''] else [c]) =
      some ⟨out, .quoted (read ++ cs)⟩ := by
  induction cs generalizing read with
  | nil => simp
  | cons c cs ih =>
    rw [List.flatMap_cons, lexChars_append]
    have hhead : lexChars ⟨out, .quoted read⟩ (if c = '\'' then ['\'', '\''] else [c]) =
        some ⟨out, .quoted (read ++ [c])⟩ := by
      by_cases hc : c = '\''
      · subst hc; rfl
      · simp [lexChars_cons, lexChar, extendLexeme, hc]
    rw [hhead, Option.bind_some, ih]
    simp

theorem spells_quoted (s : String) : Spells (quoteChars s.toList) [.str s] := by
  unfold quoteChars
  refine spells_of_lexeme (l := .quoted []) (m := .quoteInside s.toList) rfl (fun out => ?_)
    (by simp [closeLexeme]) ?_
  · rw [lexChars_append, lexChars_quoted, Option.bind_some]
    rfl
  · intro d hd
    have : d ≠ '\'' := by rintro rfl; revert hd; decide
    simp [extendLexeme, this]

end Hatohol.Sql

import Hatohol.Sql.Condition

/-!
# Condition texts as they are assembled

Programs build a condition by gluing texts together, and the reader sees only the result: a
text `a AND b` is not the conjunction of `a` and `b` when `a` ends in a bare `OR`. `Text` is the
assembled text, parentheses where they were written and nowhere else; `Text.step` says what
reading it does to the frame it is read in, and `parse_text` that this is what the parser does.
A text may be no condition at all: `hole` is an empty pair of parentheses and `inList` may be
left without items.
-/

namespace Hatohol.Sql

inductive Text where
  | const (n : Int)
  | cmp (column : String) (o : CmpOp) (l : Literal)
  | inList (column : String) (ls : List Literal)
  | isNull (column : String)
  | hole
  | paren (t : Text)
  | notParen (t : Text)
  | and (a b : Text)
  | or (a b : Text)
  deriving DecidableEq, Repr

def Literal.token : Literal → Token
  | .int n => .int n
  | .str s => .str s

/-- The tokens between the parentheses of a list. -/
def listTokens : List Literal → List Token
  | [] => []
  | [l] => [l.token]
  | l :: ls => l.token :: .comma :: listTokens ls

namespace Text

def tokens : Text → List Token
  | .const n => [.int n]
  | .cmp column o l => [.word column, .op o, l.token]
  | .inList column ls => [.word column, .kw .kwIn, .lparen] ++ listTokens ls ++ [.rparen]
  | .isNull column => [.word column, .kw .kwIs, .kw .kwNull]
  | .hole => [.lparen, .rparen]
  | .paren t => [.lparen] ++ t.tokens ++ [.rparen]
  | .notParen t => [.kw .kwNot] ++ ([.lparen] ++ t.tokens ++ [.rparen])
  | .and a b => a.tokens ++ [.kw .kwAnd] ++ b.tokens
  | .or a b => a.tokens ++ [.kw .kwOr] ++ b.tokens

/-- The text is a condition: nothing was left out between parentheses. -/
def wellFormed : Text → Bool
  | .const _ | .cmp .. | .isNull _ => true
  | .inList _ ls => !ls.isEmpty
  | .hole => false
  | .paren t | .notParen t => t.wellFormed
  | .and a b | .or a b => a.wellFormed && b.wellFormed

/-- Reading a text within a frame: the truth of the finished disjuncts and of the conjunction
    being read, before and after. `AND` carries on with the conjunction, `OR` ends it. -/
def step (row : String → Value) : Text → Truth × Truth → Truth × Truth
  | .const n, f => (f.1, f.2.and (some (n != 0)))
  | .cmp column o l, f => (f.1, f.2.and (compareValue o (row column) l))
  | .inList column ls, f => (f.1, f.2.and ((Cond.inList column ls).eval row))
  | .isNull column, f => (f.1, f.2.and (some (row column == .null)))
  | .hole, f => f
  | .paren t, f =>
      let inner := t.step row (some false, some true)
      (f.1, f.2.and (inner.1.or inner.2))
  | .notParen t, f =>
      let inner := t.step row (some false, some true)
      (f.1, f.2.and (inner.1.or inner.2).not)
  | .and a b, f => b.step row (a.step row f)
  | .or a b, f =>
      let left := a.step row f
      b.step row (left.1.or left.2, some true)

/-- The truth of a whole text in a row. -/
def truth (row : String → Value) (t : Text) : Truth :=
  let f := t.step row (some false, some true)
  f.1.or f.2

end Text

/-- The truth of a frame's two parts. -/
def Frame.truth (row : String → Value) (f : Frame) : Truth × Truth :=
  ((f.disj.map (Cond.eval row)).getD (some false), (f.conj.map (Cond.eval row)).getD (some true))

theorem Frame.truth_addOperand (row : String → Value) {f : Frame} (hf : f.negations = 0)
    (c : Cond) :
    (f.addOperand c).truth row = ((f.truth row).1, (f.truth row).2.and (c.eval row)) := by
  cases hconj : f.conj <;>
    simp [Frame.truth, Frame.addOperand, hconj, hf, negate, Cond.eval]

theorem Frame.truth_addOperand_not (row : String → Value) {f : Frame} (hf : f.negations = 0)
    (c : Cond) : ({ f with negations := f.negations + 1 }.addOperand c).truth row =
      ((f.truth row).1, (f.truth row).2.and (c.eval row).not) := by
  cases hconj : f.conj <;>
    simp [Frame.truth, Frame.addOperand, hconj, hf, negate, Cond.eval]

theorem Frame.eval_close (row : String → Value) {f : Frame} {c : Cond} (h : f.close = some c) :
    c.eval row = (f.truth row).1.or (f.truth row).2 := by
  cases hconj : f.conj with
  | none => simp [Frame.close, hconj] at h
  | some d =>
    simp only [Frame.close, hconj, Option.some.injEq] at h
    subst h
    cases hdisj : f.disj <;> simp [Frame.truth, hconj, hdisj, Cond.eval]

theorem Frame.close_isSome {f : Frame} (h : f.conj.isSome) : ∃ c, f.close = some c := by
  obtain ⟨c, hc⟩ := Option.isSome_iff_exists.mp h
  simp [Frame.close, hc]

/-- The parser has read the text in frame `f` and stands behind it, in frame `f'`. -/
structure ReadAs (t : Text) (f f' : Frame) : Prop where
  truth : ∀ row, f'.truth row = t.step row (f.truth row)
  conj : f'.conj.isSome
  negations : f'.negations = 0

theorem parseTokens_listTokens (f : Frame) (outer : List Frame) (column : String)
    (read ls : List Literal) (hls : ls ≠ []) :
    parseTokens ⟨.listItem column read, f, outer⟩ (listTokens ls ++ [.rparen]) =
      some ⟨.operator, f.addOperand (.inList column (read ++ ls)), outer⟩ := by
  induction ls generalizing read with
  | nil => exact absurd rfl hls
  | cons l ls ih =>
    have hl : l.token.literal? = some l := by cases l <;> rfl
    cases ls with
    | nil =>
      simp [listTokens, parseTokens_cons, parseToken, hl, ParseState.operand]
    | cons m ms =>
      have hrest := ih (read ++ [l]) (by simp)
      simp only [listTokens, List.cons_append, parseTokens_cons, parseToken, hl, Option.map_some,
        Option.bind_some] at hrest ⊢
      rw [hrest]
      simp

/-- A text in parentheses, seen from outside of them. -/
theorem parseTokens_paren {t : Text} {f : Frame} {outer : List Frame} {inner : Frame}
    (hrun : parseTokens ⟨.operand, {}, f :: outer⟩ t.tokens = some ⟨.operator, inner, f :: outer⟩)
    (hread : ReadAs t {} inner) :
    ∃ c, (∀ row, c.eval row = t.truth row) ∧
      parseTokens ⟨.operand, f, outer⟩ ([.lparen] ++ t.tokens ++ [.rparen]) =
        some ⟨.operator, f.addOperand c, outer⟩ := by
  obtain ⟨c, hc⟩ := Frame.close_isSome hread.conj
  refine ⟨c, fun row => ?_, ?_⟩
  · rw [Frame.eval_close row hc, hread.truth row]
    rfl
  · rw [parseTokens_append, parseTokens_append]
    simp only [parseTokens_cons, parseToken, Option.bind_some, parseTokens_nil, hrun, hc,
      Option.map_some]

/-- What the parser makes of an assembled text: it ends behind it in the frame that `step`
    describes. -/
theorem parseTokens_text (t : Text) (ht : t.wellFormed) (f : Frame) (outer : List Frame)
    (hf : f.negations = 0) :
    ∃ f', parseTokens ⟨.operand, f, outer⟩ t.tokens = some ⟨.operator, f', outer⟩ ∧
      ReadAs t f f' := by
  induction t generalizing f outer with
  | const n =>
    refine ⟨f.addOperand (.const n), rfl, ?_, rfl, rfl⟩
    intro row
    rw [Frame.truth_addOperand row hf]
    rfl
  | cmp column o l =>
    have hl : l.token.literal? = some l := by cases l <;> rfl
    refine ⟨f.addOperand (.cmp column o l), ?_, ?_, rfl, rfl⟩
    · simp [Text.tokens, parseTokens_cons, parseToken, hl, ParseState.operand]
    · intro row
      rw [Frame.truth_addOperand row hf]
      rfl
  | inList column ls =>
    have hls : ls ≠ [] := by simpa [Text.wellFormed] using ht
    refine ⟨f.addOperand (.inList column ls), ?_, ?_, rfl, rfl⟩
    · have hitems := parseTokens_listTokens f outer column [] ls hls
      simpa [Text.tokens, parseTokens_cons, parseToken] using hitems
    · intro row
      rw [Frame.truth_addOperand row hf]
      rfl
  | isNull column =>
    refine ⟨f.addOperand (.isNull column), rfl, ?_, rfl, rfl⟩
    intro row
    rw [Frame.truth_addOperand row hf]
    rfl
  | hole => simp [Text.wellFormed] at ht
  | paren t ih =>
    obtain ⟨inner, hrun, hread⟩ := ih ht {} (f :: outer) rfl
    obtain ⟨c, heval, hparen⟩ := parseTokens_paren hrun hread
    refine ⟨f.addOperand c, hparen, ?_, rfl, rfl⟩
    intro row
    rw [Frame.truth_addOperand row hf, heval]
    rfl
  | notParen t ih =>
    let g : Frame := { f with negations := f.negations + 1 }
    obtain ⟨inner, hrun, hread⟩ := ih ht {} (g :: outer) rfl
    obtain ⟨c, heval, hparen⟩ := parseTokens_paren hrun hread
    refine ⟨g.addOperand c, ?_, ?_, rfl, rfl⟩
    · rw [Text.tokens, parseTokens_append]
      simpa [parseTokens_cons, parseToken] using hparen
    · intro row
      rw [Frame.truth_addOperand_not row hf, heval]
      rfl
  | and a b iha ihb =>
    simp only [Text.wellFormed, Bool.and_eq_true] at ht
    obtain ⟨fa, hruna, hreada⟩ := iha ht.1 f outer hf
    obtain ⟨fb, hrunb, hreadb⟩ := ihb ht.2 fa outer hreada.negations
    refine ⟨fb, ?_, ?_, hreadb.conj, hreadb.negations⟩
    · rw [Text.tokens, parseTokens_append, parseTokens_append, hruna]
      simpa [parseTokens_cons, parseToken] using hrunb
    · intro row
      rw [hreadb.truth, hreada.truth]
      rfl
  | or a b iha ihb =>
    simp only [Text.wellFormed, Bool.and_eq_true] at ht
    obtain ⟨fa, hruna, hreada⟩ := iha ht.1 f outer hf
    obtain ⟨c, hc⟩ := Frame.close_isSome hreada.conj
    obtain ⟨fb, hrunb, hreadb⟩ := ihb ht.2 { disj := some c } outer rfl
    refine ⟨fb, ?_, ?_, hreadb.conj, hreadb.negations⟩
    · rw [Text.tokens, parseTokens_append, parseTokens_append, hruna]
      simpa [parseTokens_cons, parseToken, hc] using hrunb
    · intro row
      have hleft : Frame.truth row { disj := some c } =
          ((a.step row (f.truth row)).1.or (a.step row (f.truth row)).2, some true) := by
        rw [← hreada.truth row, ← Frame.eval_close row hc]
        rfl
      rw [hreadb.truth, hleft]
      rfl

/-- The parser refuses a text in which something was left out, and it does so before it has
    read past that text. -/
theorem parseTokens_ill_formed (t : Text) (ht : t.wellFormed = false) (f : Frame)
    (outer : List Frame) (hf : f.negations = 0) :
    parseTokens ⟨.operand, f, outer⟩ t.tokens = none := by
  induction t generalizing f outer with
  | const n => simp [Text.wellFormed] at ht
  | cmp column o l => simp [Text.wellFormed] at ht
  | isNull column => simp [Text.wellFormed] at ht
  | inList column ls =>
    have hls : ls = [] := by simpa [Text.wellFormed] using ht
    subst hls
    rfl
  | hole => rfl
  | paren t ih =>
    have hinner := ih ht {} (f :: outer) rfl
    simp [Text.tokens, parseTokens_append, parseTokens_cons, parseToken, hinner]
  | notParen t ih =>
    have hinner := fun f => ih ht {} (f :: outer) rfl
    simp [Text.tokens, parseTokens_append, parseTokens_cons, parseToken, hinner]
  | and a b iha ihb =>
    rw [Text.tokens, parseTokens_append, parseTokens_append]
    cases ha : a.wellFormed with
    | false => simp [iha ha f outer hf]
    | true =>
      have hb : b.wellFormed = false := by simpa [Text.wellFormed, ha] using ht
      obtain ⟨fa, hruna, hreada⟩ := parseTokens_text a ha f outer hf
      simp [hruna, parseTokens_cons, parseToken, ihb hb fa outer hreada.negations]
  | or a b iha ihb =>
    rw [Text.tokens, parseTokens_append, parseTokens_append]
    cases ha : a.wellFormed with
    | false => simp [iha ha f outer hf]
    | true =>
      have hb : b.wellFormed = false := by simpa [Text.wellFormed, ha] using ht
      obtain ⟨fa, hruna, hreada⟩ := parseTokens_text a ha f outer hf
      obtain ⟨c, hc⟩ := Frame.close_isSome hreada.conj
      simp [hruna, parseTokens_cons, parseToken, hc, ihb hb { disj := some c } outer rfl]

theorem parse_text (t : Text) :
    (t.wellFormed = true ∧ ∃ c, parse t.tokens = some c ∧ ∀ row, c.eval row = t.truth row) ∨
      (t.wellFormed = false ∧ parse t.tokens = none) := by
  cases ht : t.wellFormed with
  | false => exact .inr ⟨rfl, by simp [parse, parseTokens_ill_formed t ht {} [] rfl]⟩
  | true =>
    obtain ⟨f, hrun, hread⟩ := parseTokens_text t ht {} [] rfl
    obtain ⟨c, hc⟩ := Frame.close_isSome hread.conj
    refine .inl ⟨rfl, c, by simp [parse, hrun, hc], fun row => ?_⟩
    rw [Frame.eval_close row hc, hread.truth row]
    rfl

/-! ## Strings that are assembled texts -/

/-- The string is the text, written out; the empty string is no text. -/
def Denotes (s : String) : Option Text → Prop
  | none => s = ""
  | some t => Spells s.toList t.tokens

/-- The string is one literal, written out. -/
def DenotesLiteral (s : String) (l : Literal) : Prop := Spells s.toList [l.token]

theorem Text.tokens_ne_nil (t : Text) : t.tokens ≠ [] := by
  cases t <;> simp [Text.tokens]

theorem Denotes.ne_empty {s : String} {t : Text} (h : Denotes s (some t)) : s ≠ "" := by
  rintro rfl
  have hlex := Spells.lex h
  have hempty : lex "" = some [] := rfl
  rw [hempty, Option.some.injEq] at hlex
  exact t.tokens_ne_nil hlex.symm

theorem Denotes.eq_empty_iff {s : String} {o : Option Text} (h : Denotes s o) :
    s = "" ↔ o = none := by
  cases o with
  | none => exact ⟨fun _ => rfl, fun _ => h⟩
  | some t => exact ⟨fun hs => absurd hs h.ne_empty, fun ho => by simp at ho⟩

/-- The text of a constant is that constant and nothing else. -/
theorem Text.eq_const_of_tokens {t : Text} {n : Int} (h : t.tokens = [.int n]) : t = .const n := by
  cases t with
  | const m => simpa [Text.tokens] using h
  | cmp column o l => simp [Text.tokens] at h
  | inList column ls => simp [Text.tokens] at h
  | isNull column => simp [Text.tokens] at h
  | hole => simp [Text.tokens] at h
  | paren t => simp [Text.tokens] at h
  | notParen t => simp [Text.tokens] at h
  | and a b =>
    have hlen := congrArg List.length h
    have ha := List.length_pos_iff.mpr a.tokens_ne_nil
    simp [Text.tokens] at hlen
    omega
  | or a b =>
    have hlen := congrArg List.length h
    have ha := List.length_pos_iff.mpr a.tokens_ne_nil
    simp [Text.tokens] at hlen
    omega

theorem denotes_const (n : Int) : Denotes (toString n) (some (.const n)) := spells_int n

theorem Denotes.eq_const {s : String} {t : Text} {n : Int} (h : Denotes s (some t))
    (hs : s = toString n) :
    t = .const n := by
  subst hs
  have hlex := (Spells.lex h).symm.trans (Spells.lex (spells_int n))
  exact Text.eq_const_of_tokens (Option.some.inj hlex)

/-- The rows an assembled text selects. -/
theorem Denotes.selects {s : String} {t : Text} (h : Denotes s (some t)) (row : String → Value) :
    selects s row = true ↔ t.wellFormed = true ∧ t.truth row = some true := by
  have hne : (s == "") = false := by simpa using h.ne_empty
  have hlex : lex s = some t.tokens := Spells.lex h
  rcases parse_text t with ⟨hwf, c, hparse, heval⟩ | ⟨hwf, hparse⟩
  · simp [Sql.selects, readCondition, hne, hlex, hparse, heval, hwf]
  · simp [Sql.selects, readCondition, hne, hlex, hparse, hwf]

theorem Denotes.selects_all {s : String} (h : Denotes s none) (row : String → Value) :
    Sql.selects s row = true := by
  simp [Sql.selects, show s = "" from h]

/-! ### How texts are glued -/

namespace Text

/-- `b` appended to `a` with a connective between them; an absent text adds nothing. -/
def glue (k : Text → Text → Text) : Option Text → Option Text → Option Text
  | o, none => o
  | none, p => p
  | some a, some b => some (k a b)

/-- Parentheses around a text that may be absent. -/
def wrap : Option Text → Text
  | none => .hole
  | some t => .paren t

end Text

theorem Denotes.and {s u : String} {a b : Text} (hs : Denotes s (some a))
    (hu : Denotes u (some b)) :
    Denotes (s ++ " AND " ++ u) (some (.and a b)) := by
  simpa [Denotes, Text.tokens] using Spells.join hs opens_and (separates rfl) hu

theorem Denotes.or {s u : String} {a b : Text} (hs : Denotes s (some a)) (hu : Denotes u (some b)) :
    Denotes (s ++ " OR " ++ u) (some (.or a b)) := by
  simpa [Denotes, Text.tokens] using Spells.join hs opens_or (separates rfl) hu

theorem Denotes.wrap {s : String} {o : Option Text} (hs : Denotes s o) :
    Denotes ("(" ++ s ++ ")") (some (Text.wrap o)) := by
  cases o with
  | none =>
    have hempty : s = "" := hs
    subst hempty
    exact (opens_lparen.spells.opens opens_rparen (separates rfl)).spells
  | some t =>
    have h := ((opens_lparen.append hs).opens opens_rparen (separates rfl)).spells
    simpa [Denotes, Text.tokens, Text.wrap] using h

theorem Denotes.paren {s : String} {t : Text} (hs : Denotes s (some t)) :
    Denotes ("(" ++ s ++ ")") (some (.paren t)) := hs.wrap

theorem Denotes.notParen {s : String} {t : Text} (hs : Denotes s (some t)) :
    Denotes ("NOT (" ++ s ++ ")") (some (.notParen t)) := by
  have h := opens_not.append (Denotes.paren hs)
  simpa [Denotes, Text.tokens, Text.wrap] using h

/-- A comparison whose operator cannot run into the literal. -/
theorem denotes_cmp {column lit op : String} {o : CmpOp} {l : Literal} (hc : isName column)
    (hop : Opens op.toList [.op o]) (hsep : ∀ c ∈ op.toList.head?, isSeparator c)
    (hl : DenotesLiteral lit l) : Denotes (column ++ op ++ lit) (some (.cmp column o l)) := by
  simpa [Denotes, Text.tokens] using Spells.join (spells_name hc) hop hsep hl

theorem denotes_eq {column lit : String} {l : Literal} (hc : isName column)
    (hl : DenotesLiteral lit l) : Denotes (column ++ "=" ++ lit) (some (.cmp column .eq l)) :=
  denotes_cmp hc opens_eq (separates rfl) hl

theorem denotes_lt {column : String} (hc : isName column) (n : Int) :
    Denotes (column ++ "<" ++ toString n) (some (.cmp column .lt (.int n))) := by
  have hint := spells_op_int (c := '<') (o := .lt) rfl rfl (by simp +contextual [extendLexeme]) n
  have hboth := (spells_name hc).append hint (by simp [isSeparator])
  simpa [Denotes, Text.tokens, Literal.token] using hboth

theorem denotes_gt {column : String} (hc : isName column) (n : Int) :
    Denotes (column ++ ">" ++ toString n) (some (.cmp column .gt (.int n))) := by
  have hint := spells_op_int (c := '>') (o := .gt) rfl rfl (by simp +contextual [extendLexeme]) n
  have hboth := (spells_name hc).append hint (by simp [isSeparator])
  simpa [Denotes, Text.tokens, Literal.token] using hboth

theorem denotes_isNull {column : String} (hc : isName column) :
    Denotes (column ++ " is NULL") (some (.isNull column)) := by
  have hboth := (spells_name hc).append spells_is_null (separates rfl)
  simpa [Denotes, Text.tokens] using hboth

/-- Items with commas between them. -/
def commaSeparated : List String → String
  | [] => ""
  | [x] => x
  | x :: xs => x ++ "," ++ commaSeparated xs

theorem spells_commaSeparated {α : Type} (enc : α → String) (lit : α → Literal)
    (h : ∀ x, DenotesLiteral (enc x) (lit x)) (xs : List α) (hxs : xs ≠ []) :
    Spells (commaSeparated (xs.map enc)).toList (listTokens (xs.map lit)) := by
  induction xs with
  | nil => exact absurd rfl hxs
  | cons x xs ih =>
    cases xs with
    | nil => exact h x
    | cons y ys =>
      have htail := ih (by simp)
      simpa [commaSeparated, listTokens] using Spells.join (h x) opens_comma (separates rfl) htail

/-- `column IN (...)`, with either spelling of the keyword; the list may be empty, and then
    the text is no condition. -/
theorem denotes_inList {α : Type} {column kw : String} (hc : isName column)
    (hkw : Opens kw.toList [.kw .kwIn, .lparen]) (hsep : ∀ c ∈ kw.toList.head?, isSeparator c)
    (enc : α → String) (lit : α → Literal) (h : ∀ x, DenotesLiteral (enc x) (lit x)) (xs : List α) :
    Denotes (column ++ kw ++ commaSeparated (xs.map enc) ++ ")")
      (some (.inList column (xs.map lit))) := by
  have hopen := (spells_name hc).opens hkw hsep
  cases xs with
  | nil =>
    have hall := (hopen.spells.opens opens_rparen (separates rfl)).spells
    simpa [Denotes, Text.tokens, listTokens, commaSeparated] using hall
  | cons x xs =>
    have hitems := spells_commaSeparated enc lit h (x :: xs) (by simp)
    have hall := ((hopen.append hitems).opens opens_rparen (separates rfl)).spells
    simpa [Denotes, Text.tokens] using hall

end Hatohol.Sql

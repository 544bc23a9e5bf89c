import Mathlib.Data.List.Chain
import Hatohol.Sql.Text

/-!
# A grammar of conditions

The sentences built from comparisons, non-empty lists and the connectives, given by rules and not
by a parser. An assembled text from which nothing was left out is such a sentence, and in a
sentence no parentheses are empty and no connective lacks an operand.
-/

namespace Hatohol.Sql

/-- The sentences in which only the given constants may stand for a condition. -/
inductive Sentence (constants : List Int) : List Token → Prop
  | const (n : Int) (hn : n ∈ constants) : Sentence constants [.int n]
  | eq (column : String) (l : Literal) : Sentence constants [.word column, .op .eq, l.token]
  | ne (column : String) (l : Literal) : Sentence constants [.word column, .op .ne, l.token]
  | inList (column : String) (ls : List Literal) (hls : ls ≠ []) :
      Sentence constants ([.word column, .kw .kwIn, .lparen] ++ listTokens ls ++ [.rparen])
  | not {ts : List Token} (h : Sentence constants ts) : Sentence constants ([.kw .kwNot] ++ ts)
  | paren {ts : List Token} (h : Sentence constants ts) :
      Sentence constants ([.lparen] ++ ts ++ [.rparen])
  | and {ts us : List Token} (h : Sentence constants ts) (h' : Sentence constants us) :
      Sentence constants (ts ++ [.kw .kwAnd] ++ us)
  | or {ts us : List Token} (h : Sentence constants ts) (h' : Sentence constants us) :
      Sentence constants (ts ++ [.kw .kwOr] ++ us)

/-- The text is made of what the grammar has. -/
def Text.inGrammar (constants : List Int) : Text → Bool
  | .const n => constants.contains n
  | .cmp _ o _ => o == .eq || o == .ne
  | .inList .. | .hole => true
  | .isNull _ => false
  | .paren t | .notParen t => t.inGrammar constants
  | .and a b | .or a b => a.inGrammar constants && b.inGrammar constants

theorem Text.sentence {constants : List Int} (t : Text) (hwf : t.wellFormed)
    (hin : t.inGrammar constants) : Sentence constants t.tokens := by
  induction t with
  | const n => exact .const n (by simpa [inGrammar] using hin)
  | cmp column o l =>
    simp only [inGrammar, Bool.or_eq_true, beq_iff_eq] at hin
    rcases hin with rfl | rfl
    · exact .eq column l
    · exact .ne column l
  | inList column ls => exact .inList column ls (by simpa [wellFormed] using hwf)
  | isNull column => simp [inGrammar] at hin
  | hole => simp [wellFormed] at hwf
  | paren t ih => exact .paren (ih hwf hin)
  | notParen t ih => exact .not (.paren (ih hwf hin))
  | and a b iha ihb =>
    simp only [wellFormed, inGrammar, Bool.and_eq_true] at hwf hin
    exact .and (iha hwf.1 hin.1) (ihb hwf.2 hin.2)
  | or a b iha ihb =>
    simp only [wellFormed, inGrammar, Bool.and_eq_true] at hwf hin
    exact .or (iha hwf.1 hin.1) (ihb hwf.2 hin.2)

/-! ## Nothing is left open -/

/-- After the token an operand must come. -/
def Token.awaitsOperand : Token → Bool
  | .lparen | .kw .kwAnd | .kw .kwOr | .kw .kwNot => true
  | _ => false

/-- Before the token an operand must have come. -/
def Token.endsOperand : Token → Bool
  | .rparen | .kw .kwAnd | .kw .kwOr => true
  | _ => false

def fits (t u : Token) : Bool := !(t.awaitsOperand && u.endsOperand)

/-- No parentheses are empty and no connective lacks an operand, between whichever tokens. -/
def Tidy (ts : List Token) : Prop := ∀ t u : Token, ([t] ++ ts ++ [u]).IsChain fun a b => fits a b

theorem fits_of_endsOperand (t : Token) {u : Token} (hu : u.endsOperand = false) : fits t u := by
  simp [fits, hu]

theorem fits_of_awaitsOperand {t : Token} (ht : t.awaitsOperand = false) (u : Token) :
    fits t u := by
  simp [fits, ht]

theorem tidy_listTokens {ls : List Literal} (hls : ls ≠ []) : Tidy (listTokens ls) := by
  have hliteral (l : Literal) : l.token.endsOperand = false ∧ l.token.awaitsOperand = false := by
    cases l <;> exact ⟨rfl, rfl⟩
  intro t u
  induction ls generalizing t with
  | nil => exact absurd rfl hls
  | cons l ls ih =>
    have ht := fits_of_endsOperand t (hliteral l).1
    cases ls with
    | nil =>
      have hu := fits_of_awaitsOperand (hliteral l).2 u
      simpa [listTokens] using ⟨ht, hu⟩
    | cons l' ls =>
      have hcomma := fits_of_awaitsOperand (hliteral l).2 .comma
      have htail := ih (by simp) .comma
      simp only [listTokens, List.cons_append, List.nil_append, List.isChain_cons_cons] at htail ⊢
      exact ⟨ht, hcomma, htail⟩

/-- A connective between two tidy lists of tokens. -/
theorem Tidy.join {ts us : List Token} (hts : Tidy ts) (hus : Tidy us) (k : Token) :
    Tidy (ts ++ [k] ++ us) := by
  intro t u
  have hall := List.IsChain.append_overlap (hts t k) (by simpa using hus k u) (by simp)
  simpa using hall

/-- A token that needs no operand before it, ahead of a tidy list. -/
theorem Tidy.cons {ts : List Token} (hts : Tidy ts) {k : Token} (hk : k.endsOperand = false) :
    Tidy ([k] ++ ts) := by
  intro t u
  have htail := hts k u
  simp only [List.cons_append, List.nil_append, List.isChain_cons_cons] at htail ⊢
  exact ⟨fits_of_endsOperand t hk, htail⟩

/-- A token that awaits no operand, behind a tidy list. -/
theorem Tidy.concat {ts : List Token} (hts : Tidy ts) {k : Token} (hk : k.awaitsOperand = false) :
    Tidy (ts ++ [k]) := by
  intro t u
  have hall := List.IsChain.append_overlap (hts t k)
    (show List.IsChain (fun a b => fits a b) ([k] ++ [u]) by simp [fits_of_awaitsOperand hk u])
    (by simp)
  simpa using hall

theorem Sentence.tidy {constants : List Int} {ts : List Token} (h : Sentence constants ts) :
    Tidy ts := by
  induction h with
  | const n => exact fun t u => by simp [fits, Token.awaitsOperand, Token.endsOperand]
  | eq column l =>
    exact fun t u => by cases l <;> simp [fits, Token.awaitsOperand, Token.endsOperand,
      Literal.token]
  | ne column l =>
    exact fun t u => by cases l <;> simp [fits, Token.awaitsOperand, Token.endsOperand,
      Literal.token]
  | inList column ls hls =>
    have hitems := (((tidy_listTokens hls).cons (show Token.lparen.endsOperand =
      false from rfl)).cons
      (show (Token.kw .kwIn).endsOperand = false from rfl)).cons
      (show (Token.word column).endsOperand = false from rfl)
    simpa using hitems.concat (show Token.rparen.awaitsOperand = false from rfl)
  | not _ ih => exact ih.cons rfl
  | paren _ ih => exact (ih.cons rfl).concat rfl
  | and _ _ iht ihu => exact iht.join ihu _
  | or _ _ iht ihu => exact iht.join ihu _

theorem Sentence.three_le_length {ts : List Token} (h : Sentence [] ts) : 3 ≤ ts.length := by
  induction h with
  | const n hn => simp at hn
  | eq column l => simp
  | ne column l => simp
  | inList column ls hls => simp
  | not _ ih => simp; omega
  | paren _ ih => simp; omega
  | and _ _ iht ihu => simp; omega
  | or _ _ iht ihu => simp; omega

end Hatohol.Sql

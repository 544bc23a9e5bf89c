import Hatohol.Sql.Alternatives

/-!
# Texts that test rows

A text that is one conjunction, or a pair of parentheses around anything, selects the rows that
pass a test. `IsTest` pairs the text with the test; the rules say what test the text is that a
program glues together, so that neither tokens nor truth values come up where it is used.
-/

namespace Hatohol.Sql

/-- The text is complete and selects the rows that pass the test, also as a part of a
    conjunction. -/
def IsTest (s : String) (f : (String → Value) → Bool) : Prop :=
  ∃ t, Denotes s (some t) ∧ t.wellFormed = true ∧ ∀ row, t.alternatives row = [f row]

namespace IsTest

variable {s u : String} {f g : (String → Value) → Bool}

theorem ne_empty (hs : IsTest s f) : s ≠ "" := by
  obtain ⟨t, hdenotes, -⟩ := hs
  exact hdenotes.ne_empty

/-- The rows that are selected. -/
theorem selects (hs : IsTest s f) (row : String → Value) : Sql.selects s row = f row := by
  obtain ⟨t, hdenotes, hcomplete, halternatives⟩ := hs
  rw [hdenotes.selects_eq, Text.complete_some, hcomplete, Text.alts, halternatives]
  simp [picks]

theorem congr (hs : IsTest s f) (hfg : ∀ row, f row = g row) : IsTest s g := by
  obtain rfl : f = g := funext hfg
  exact hs

theorem and (hs : IsTest s f) (hu : IsTest u g) :
    IsTest (s ++ " AND " ++ u) fun row => f row && g row := by
  obtain ⟨a, ha, hawf, halts⟩ := hs
  obtain ⟨b, hb, hbwf, hblts⟩ := hu
  refine ⟨.and a b, ha.and hb, ?_, fun row => ?_⟩
  · rw [Text.wellFormed, hawf, hbwf]
    rfl
  · rw [Text.alternatives, halts, hblts]
    rfl

theorem paren (hs : IsTest s f) : IsTest ("(" ++ s ++ ")") f := by
  obtain ⟨t, hdenotes, hcomplete, halternatives⟩ := hs
  refine ⟨.paren t, hdenotes.paren, hcomplete, fun row => ?_⟩
  rw [Text.alternatives_single row rfl, Text.holds_paren row hcomplete, halternatives]
  simp

/-- A blank before the text, as where the pieces of a format begin with one. -/
theorem blank (hs : IsTest s f) : IsTest (" " ++ s) f := by
  obtain ⟨t, hdenotes, hcomplete, halternatives⟩ := hs
  have hopens : Opens " ".toList [] := opens_of_run .blank rfl rfl rfl fun _ => rfl
  have hspells := hopens.append hdenotes
  refine ⟨t, ?_, hcomplete, halternatives⟩
  simpa [Denotes] using hspells

/-- Alternatives pass the test only in parentheses: outside of them a conjunction would end
    between the two. -/
theorem paren_or (hs : IsTest s f) (hu : IsTest u g) :
    IsTest ("(" ++ (s ++ " OR " ++ u) ++ ")") fun row => f row || g row := by
  obtain ⟨a, ha, hawf, halts⟩ := hs
  obtain ⟨b, hb, hbwf, hblts⟩ := hu
  have hcomplete : (Text.or a b).wellFormed = true := by
    rw [Text.wellFormed, hawf, hbwf]
    rfl
  refine ⟨.paren (.or a b), (ha.or hb).paren, hcomplete, fun row => ?_⟩
  rw [Text.alternatives_single row rfl, Text.holds_paren row hcomplete, Text.alternatives, halts,
    hblts]
  simp

theorem paren_or_or {v : String} {h : (String → Value) → Bool} (hs : IsTest s f) (hu : IsTest u g)
    (hv : IsTest v h) :
    IsTest ("(" ++ (s ++ " OR " ++ u ++ " OR " ++ v) ++ ")") fun row => f row || g row || h row := by
  obtain ⟨a, ha, hawf, halts⟩ := hs
  obtain ⟨b, hb, hbwf, hblts⟩ := hu
  obtain ⟨c, hc, hcwf, hclts⟩ := hv
  have hcomplete : (Text.or (Text.or a b) c).wellFormed = true := by
    rw [Text.wellFormed, Text.wellFormed, hawf, hbwf, hcwf]
    rfl
  refine ⟨.paren (.or (.or a b) c), ((ha.or hb).or hc).paren, hcomplete, fun row => ?_⟩
  rw [Text.alternatives_single row rfl, Text.holds_paren row hcomplete, Text.alternatives,
    Text.alternatives, halts, hblts, hclts]
  simp [Bool.or_assoc]

end IsTest

/-! ## Single terms -/

/-- The keywords in capitals. -/
theorem spells_isNull : Spells " IS NULL".toList [.kw .kwIs, .kw .kwNull] := by
  intro s out hread hhead
  have hopen := lexChar_open hread (hhead ' ' (by simp)) (show openLexeme ' ' =
    some .blank from rfl)
  have hrun : lexChars ⟨[], .blank⟩ "IS NULL".toList =
      some ⟨[.kw .kwIs], .name "NULL".toList⟩ := by decide
  refine ⟨⟨out ++ [.kw .kwIs], .name "NULL".toList⟩, ?_, ?_, ?_⟩
  · have hchars : " IS NULL".toList = ' ' :: "IS NULL".toList := by decide
    rw [hchars, lexChars_cons, hopen, Option.bind_some, lexChars_tokens, hrun]
    rfl
  · have hnull : wordToken "NULL".toList = .kw .kwNull := by decide
    simp only [LexState.read, closeLexeme, hnull, Option.map_some, List.append_assoc,
      List.singleton_append]
  · intro c hc
    simp [extendLexeme, separator_not_nameChar hc]

section Terms

variable {column : String} (hcolumn : isName column)

theorem isTest_const (n : Int) : IsTest (toString n) fun _ => n != 0 := by
  refine ⟨.const n, denotes_const n, rfl, fun row => ?_⟩
  rw [Text.alternatives_single row rfl, Text.holds_const]

include hcolumn

theorem isTest_cmp {op lit : String} {o : CmpOp} {l : Literal} (hop : Opens op.toList [.op o])
    (hsep : ∀ c ∈ op.toList.head?, isSeparator c) (hlit : DenotesLiteral lit l) :
    IsTest (column ++ op ++ lit) fun row => compareValue o (row column) l == some true := by
  refine ⟨.cmp column o l, denotes_cmp hcolumn hop hsep hlit, rfl, fun row => ?_⟩
  rw [Text.alternatives_single row rfl, Text.holds_cmp]

theorem isTest_lt (n : Int) : IsTest (column ++ "<" ++ toString n) fun row =>
    compareValue .lt (row column) (.int n) == some true := by
  refine ⟨.cmp column .lt (.int n), denotes_lt hcolumn n, rfl, fun row => ?_⟩
  rw [Text.alternatives_single row rfl, Text.holds_cmp]

theorem isTest_eq {lit : String} {l : Literal} (hlit : DenotesLiteral lit l) :
    IsTest (column ++ "=" ++ lit) fun row => row column == l.value := by
  refine (isTest_cmp hcolumn opens_eq (separates rfl) hlit).congr fun row => ?_
  rw [Bool.eq_iff_iff, beq_iff_eq, beq_iff_eq, compareValue_eq_true]

/-- A list of literals that is not empty. -/
theorem isTest_inList {α : Type} {kw : String} (hkw : Opens kw.toList [.kw .kwIn, .lparen])
    (hsep : ∀ c ∈ kw.toList.head?, isSeparator c) (enc : α → String) (lit : α → Literal)
    (henc : ∀ x, DenotesLiteral (enc x) (lit x)) {xs : List α} (hxs : xs ≠ []) :
    IsTest (column ++ kw ++ commaSeparated (xs.map enc) ++ ")") fun row =>
      xs.any fun x => row column == (lit x).value := by
  have hne : (Text.inList column (xs.map lit)).wellFormed = true := by
    simpa [Text.wellFormed] using hxs
  refine ⟨.inList column (xs.map lit), denotes_inList hcolumn hkw hsep enc lit henc xs, hne,
    fun row => ?_⟩
  rw [Text.alternatives_single row rfl, Text.holds_inList, List.any_map]
  rfl

theorem isTest_isNull : IsTest (column ++ " IS NULL") fun row => row column == .null := by
  have hboth := (spells_name hcolumn).append spells_isNull (separates rfl)
  have hdenotes : Denotes (column ++ " IS NULL") (some (.isNull column)) := by
    simpa [Denotes, Text.tokens] using hboth
  refine ⟨.isNull column, hdenotes, rfl, fun row => ?_⟩
  rw [Text.alternatives_single row rfl, Text.holds_isNull]

end Terms

end Hatohol.Sql

import Hatohol.Sql.Lexer

/-!
# String literals in two dialects

SQLite ends a string at a quotation that is not doubled. MySQL in its default mode also takes a
backslash and the character after it for an escape, where `\%` and `\_` stand for themselves. What
follows a literal is not read.
-/

namespace Hatohol.Sql

inductive Dialect where
  | sqlite
  | mysql
  deriving DecidableEq, Repr

/-- A character that changes the meaning of the one after it. -/
def Dialect.escapes : Dialect → Char → Bool
  | sqlite, _ => false
  | mysql, c => c == '\\'

/-- What a backslash and a character stand for in MySQL. -/
def unescape : Char → List Char
  | '0' => ['\x00']
  | 'b' => ['\x08']
  | 'n' => ['\n']
  | 'r' => ['\r']
  | 't' => ['\t']
  | 'Z' => ['\x1a']
  | '%' => ['\\', '%']
  | '_' => ['\\', '_']
  | c => [c]

/-- What has been read before goes before what is read. -/
def prepend (read : List Char) (rest : Option (List Char × List Char)) :
    Option (List Char × List Char) :=
  rest.map fun p => (read ++ p.1, p.2)

/-- Reads a string after the quotation that opens it: the value, and the text after the quotation
    that closes it. -/
def readBody (d : Dialect) : List Char → Option (List Char × List Char)
  | [] => none
  | c :: cs =>
      if c = '\'' then
        match cs with
        | '\'' :: cs => prepend ['\''] (readBody d cs)
        | cs => some ([], cs)
      else if d.escapes c then
        match cs with
        | [] => none
        | c :: cs => prepend (unescape c) (readBody d cs)
      else prepend [c] (readBody d cs)

/-- The string literal that a text begins with, and the text after it. -/
def readString (d : Dialect) : List Char → Option (List Char × List Char)
  | '\'' :: cs => readBody d cs
  | _ => none

/-- The characters between the quotations of `quoteChars`. -/
def doubled (cs : List Char) : List Char :=
  cs.flatMap fun c => if c = '\'' then ['\'', '\''] else [c]

/-- Every backslash stands before `%` or `_`. -/
def keepsBackslashes : List Char → Bool
  | [] => true
  | '\\' :: c :: cs => (c == '%' || c == '_') && keepsBackslashes cs
  | ['\\'] => false
  | _ :: cs => keepsBackslashes cs

@[simp]
theorem doubled_nil : doubled [] = [] := rfl

theorem doubled_quote (cs : List Char) : doubled ('\'' :: cs) = '\'' :: '\'' :: doubled cs := rfl

theorem doubled_cons {c : Char} (hc : c ≠ '\'') (cs : List Char) :
    doubled (c :: cs) = c :: doubled cs := by
  simp [doubled, hc]

section Reading

variable (d : Dialect) (cs : List Char)

theorem readBody_doubled :
    readBody d ('\'' :: '\'' :: cs) = prepend ['\''] (readBody d cs) := by
  simp [readBody]

theorem readBody_close {cs : List Char} (hcs : cs.head? ≠ some '\'') :
    readBody d ('\'' :: cs) = some ([], cs) := by
  cases cs with
  | nil => rfl
  | cons c cs =>
    have hc : c ≠ '\'' := fun heq => hcs (heq ▸ rfl)
    simp [readBody, hc]

theorem readBody_plain {c : Char} (hquote : c ≠ '\'') (hplain : d.escapes c = false) :
    readBody d (c :: cs) = prepend [c] (readBody d cs) := by
  rw [readBody.eq_def]
  simp [hquote, hplain]

theorem readBody_escape {c : Char} (hquote : c ≠ '\'') (hescape : d.escapes c = true) (c' : Char) :
    readBody d (c :: c' :: cs) = prepend (unescape c') (readBody d cs) := by
  rw [readBody.eq_def]
  simp [hquote, hescape]

end Reading

/-! ## How much text a value takes -/

/-- A value takes two for each character: two quotations, or one other character. -/
def cost : List Char → Nat
  | [] => 0
  | c :: cs => (if c = '\'' then 1 else 2) + cost cs

theorem cost_append (cs cs' : List Char) : cost (cs ++ cs') = cost cs + cost cs' := by
  induction cs with
  | nil => simp [cost]
  | cons c cs ih =>
    simp only [List.cons_append, cost, ih]
    omega

theorem cost_doubled (cs : List Char) : cost (doubled cs) = 2 * cs.length := by
  induction cs with
  | nil => rfl
  | cons c cs ih =>
    by_cases hc : c = '\''
    · subst hc
      simp [doubled_quote, cost, ih]
      omega
    · simp [doubled_cons hc, cost, hc, ih]
      omega

theorem prepend_eq_some {read value rest : List Char} {tail : Option (List Char × List Char)}
    (h : prepend read tail = some (value, rest)) :
    ∃ value', tail = some (value', rest) ∧ value = read ++ value' := by
  obtain ⟨⟨value', rest'⟩, htail, heq⟩ := Option.map_eq_some_iff.mp h
  obtain ⟨rfl, rfl⟩ := Prod.mk.inj heq
  exact ⟨value', htail, rfl⟩

theorem length_unescape (c : Char) : 2 * (unescape c).length ≤ 2 + cost [c] := by
  unfold unescape
  split <;> simp [cost]

theorem cost_readBody (d : Dialect) (cs : List Char) :
    ∀ value rest, readBody d cs = some (value, rest) → 2 * value.length + 1 + cost rest ≤ cost cs :=
      by
  induction cs using readBody.induct d with
  | case1 => nofun
  | case2 cs ih =>
    intro value rest hread
    rw [readBody_doubled] at hread
    obtain ⟨value', htail, rfl⟩ := prepend_eq_some hread
    have hle := ih value' rest htail
    simp [cost]
    omega
  | case3 cs hcs =>
    intro value rest hread
    have hhead : cs.head? ≠ some '\'' := by
      intro hhead
      cases cs with
      | nil => cases hhead
      | cons c cs => exact hcs cs (by rw [Option.some.inj hhead])
    rw [readBody_close d hhead] at hread
    obtain ⟨rfl, rfl⟩ := Prod.mk.inj (Option.some.inj hread)
    simp [cost]
  | case4 c hquote hescape =>
    intro value rest hread
    rw [readBody.eq_def] at hread
    simp [hquote, hescape] at hread
  | case5 c hquote hescape c' cs ih =>
    intro value rest hread
    rw [readBody_escape d cs hquote hescape] at hread
    obtain ⟨value', htail, rfl⟩ := prepend_eq_some hread
    have hle := ih value' rest htail
    have hone := length_unescape c'
    simp only [cost, hquote, if_false, List.length_append] at hone ⊢
    omega
  | case6 c cs hquote hplain ih =>
    intro value rest hread
    rw [readBody_plain d cs hquote (Bool.not_eq_true _ ▸ hplain)] at hread
    obtain ⟨value', htail, rfl⟩ := prepend_eq_some hread
    have hle := ih value' rest htail
    simp [cost, hquote]
    omega

/-- What is read up to a text is no longer than what was doubled before it. -/
theorem length_le_of_readBody {d : Dialect} {cs value rest : List Char}
    (hread : readBody d (doubled cs ++ '\'' :: rest) = some (value, rest)) :
    value.length ≤ cs.length := by
  have hle := cost_readBody d _ value rest hread
  rw [cost_append, cost_doubled] at hle
  simp only [cost, if_true] at hle
  omega

/-! ## Doubled quotations -/

theorem readBody_quote_iff (d : Dialect) (rest : List Char) :
    readBody d ('\'' :: rest) = some ([], rest) ↔ rest.head? ≠ some '\'' := by
  constructor
  · intro hread hhead
    cases rest with
    | nil => cases hhead
    | cons c rest =>
      obtain rfl := Option.some.inj hhead
      rw [readBody_doubled] at hread
      obtain ⟨value', -, hvalue⟩ := prepend_eq_some hread
      cases hvalue
  · exact readBody_close d

theorem prepend_eq_iff (read value rest : List Char) (tail : Option (List Char × List Char)) :
    prepend read tail = some (read ++ value, rest) ↔ tail = some (value, rest) := by
  constructor
  · intro hread
    obtain ⟨value', htail, hvalue⟩ := prepend_eq_some hread
    rw [htail, List.append_cancel_left hvalue]
  · rintro rfl
    rfl

/-- A character that is no escape is read as it is. -/
theorem readBody_doubled_cons_iff {d : Dialect} {c : Char} (hplain : d.escapes c = false)
    (cs rest : List Char) :
    readBody d (doubled (c :: cs) ++ '\'' :: rest) = some (c :: cs, rest) ↔
      readBody d (doubled cs ++ '\'' :: rest) = some (cs, rest) := by
  by_cases hquote : c = '\''
  · subst hquote
    rw [doubled_quote, List.cons_append, List.cons_append, readBody_doubled]
    exact prepend_eq_iff ['\''] cs rest _
  · rw [doubled_cons hquote, List.cons_append, readBody_plain d _ hquote hplain]
    exact prepend_eq_iff [c] cs rest _

theorem readBody_sqlite_iff (cs rest : List Char) :
    readBody .sqlite (doubled cs ++ '\'' :: rest) = some (cs, rest) ↔ rest.head? ≠ some '\'' := by
  induction cs with
  | nil => exact readBody_quote_iff .sqlite rest
  | cons c cs ih => exact (readBody_doubled_cons_iff rfl cs rest).trans ih

/-- Only a doubled backslash is read as a backslash. -/
theorem unescape_eq_backslash {c : Char} {cs value : List Char}
    (hread : unescape c ++ value = '\\' :: cs) : c = '%' ∨ c = '_' ∨ c = '\\' := by
  unfold unescape at hread
  split at hread <;> simp_all

theorem readBody_mysql_backslash_iff (c : Char) (cs rest : List Char) :
    readBody .mysql (doubled ('\\' :: c :: cs) ++ '\'' :: rest) = some ('\\' :: c :: cs, rest) ↔
      (c = '%' ∨ c = '_') ∧ readBody .mysql (doubled cs ++ '\'' :: rest) = some (cs, rest) := by
  have hquote : '\\' ≠ '\'' := by decide
  by_cases hc : c = '\''
  · subst hc
    refine iff_of_false ?_ (by simp)
    intro hread
    rw [doubled_cons hquote, doubled_quote, List.cons_append, List.cons_append,
      readBody_escape .mysql _ hquote rfl] at hread
    obtain ⟨value', -, hvalue⟩ := prepend_eq_some hread
    cases hvalue
  · rw [doubled_cons hquote, doubled_cons hc, List.cons_append, List.cons_append,
      readBody_escape .mysql _ hquote rfl]
    constructor
    · intro hread
      obtain ⟨value', htail, hvalue⟩ := prepend_eq_some hread
      rcases unescape_eq_backslash hvalue.symm with rfl | rfl | rfl
      · obtain rfl : cs = value' := (List.cons.inj (List.cons.inj hvalue).2).2
        exact ⟨.inl rfl, htail⟩
      · obtain rfl : cs = value' := (List.cons.inj (List.cons.inj hvalue).2).2
        exact ⟨.inr rfl, htail⟩
      · -- the second backslash would have to come from the text after it
        obtain rfl : '\\' :: cs = value' := (List.cons.inj hvalue).2
        have hle := length_le_of_readBody htail
        simp at hle
    · rintro ⟨rfl | rfl, htail⟩
      · exact (prepend_eq_iff ['\\', '%'] cs rest _).mpr htail
      · exact (prepend_eq_iff ['\\', '_'] cs rest _).mpr htail

theorem readBody_mysql_iff (cs rest : List Char) :
    readBody .mysql (doubled cs ++ '\'' :: rest) = some (cs, rest) ↔
      rest.head? ≠ some '\'' ∧ keepsBackslashes cs = true := by
  induction cs using keepsBackslashes.induct with
  | case1 => simpa [keepsBackslashes] using readBody_quote_iff .mysql rest
  | case2 c cs ih =>
    rw [readBody_mysql_backslash_iff, ih]
    simp only [keepsBackslashes, Bool.and_eq_true, Bool.or_eq_true, beq_iff_eq]
    exact and_left_comm
  | case3 =>
    refine iff_of_false ?_ (by simp [keepsBackslashes])
    intro hread
    rw [doubled_cons (by decide), List.cons_append, doubled_nil, List.nil_append,
      readBody_escape .mysql _ (by decide) rfl] at hread
    obtain ⟨value', -, hvalue⟩ := prepend_eq_some hread
    cases hvalue
  | case4 c cs hmore hlast ih =>
    have hplain : Dialect.escapes .mysql c = false := by
      simp only [Dialect.escapes, beq_eq_false_iff_ne]
      rintro rfl
      cases cs with
      | nil => exact hlast rfl rfl
      | cons c' cs => exact hmore c' cs rfl rfl
    rw [readBody_doubled_cons_iff hplain, ih, keepsBackslashes]
    · exact hmore
    · exact hlast

end Hatohol.Sql

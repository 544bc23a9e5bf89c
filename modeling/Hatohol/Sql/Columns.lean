import Hatohol.Sql.Alternatives

/-!
# The columns that a text names

The words among the tokens of a text are the columns of its terms, and a text that is put together
names the columns of its parts.
-/

namespace Hatohol.Sql.Text

def columns : Text → List String
  | .const _ | .hole => []
  | .cmp column _ _ | .inList column _ | .isNull column => [column]
  | .paren t | .notParen t => t.columns
  | .and a b | .or a b => a.columns ++ b.columns

theorem word_notMem_listTokens (name : String) (ls : List Literal) :
    Token.word name ∉ listTokens ls := by
  induction ls with
  | nil => exact List.not_mem_nil
  | cons l ls ih =>
    have hl : Token.word name ≠ l.token := by cases l <;> exact Token.noConfusion
    cases ls with
    | nil => simpa [listTokens] using hl
    | cons m ms => simpa [listTokens, hl] using ih

theorem mem_columns {name : String} {t : Text} : Token.word name ∈ t.tokens ↔ name ∈ t.columns := by
  induction t with
  | const n => simp [tokens, columns]
  | cmp column o l => cases l <;> simp [tokens, columns, Literal.token]
  | inList column ls => simp [tokens, columns, word_notMem_listTokens]
  | isNull column => simp [tokens, columns]
  | hole => simp [tokens, columns]
  | paren t ih => simpa [tokens, columns] using ih
  | notParen t ih => simpa [tokens, columns] using ih
  | and a b iha ihb => simp [tokens, columns, iha, ihb]
  | or a b iha ihb => simp [tokens, columns, iha, ihb]

/-- A text, if there is one, only names columns with a property. -/
def Names (P : String → Prop) (o : Option Text) : Prop :=
  ∀ t ∈ o, ∀ name ∈ t.columns, P name

variable {P : String → Prop}

theorem names_none : Names P none := fun _ ht => absurd ht (Option.not_mem_none _)

theorem names_some {t : Text} : Names P (some t) ↔ ∀ name ∈ t.columns, P name := by
  simp [Names]

theorem Names.glue {k : Text → Text → Text}
    (hk : ∀ a b, (k a b).columns = a.columns ++ b.columns) {o p : Option Text} (ho : Names P o)
    (hp : Names P p) : Names P (Text.glue k o p) := by
  cases o with
  | none => cases p <;> exact hp
  | some a =>
    cases p with
    | none => exact ho
    | some b =>
      rw [Text.glue, names_some, hk]
      intro name hname
      rcases List.mem_append.mp hname with hname | hname
      · exact ho a rfl name hname
      · exact hp b rfl name hname

theorem Names.glue_and {o p : Option Text} (ho : Names P o) (hp : Names P p) :
    Names P (Text.glue .and o p) := ho.glue (fun _ _ => rfl) hp

theorem Names.glue_or {o p : Option Text} (ho : Names P o) (hp : Names P p) :
    Names P (Text.glue .or o p) := ho.glue (fun _ _ => rfl) hp

theorem names_chain {k : Text → Text → Text}
    (hk : ∀ a b, (k a b).columns = a.columns ++ b.columns) {ts : List Text}
    (hts : ∀ t ∈ ts, ∀ name ∈ t.columns, P name) : Names P (chain k ts) := by
  have hfold (o : Option Text) (ho : Names P o) :
      Names P (ts.foldl (fun o t => Text.glue k o (some t)) o) := by
    induction ts generalizing o with
    | nil => exact ho
    | cons t ts ih =>
      refine ih (fun u hu => hts u (List.mem_cons_of_mem _ hu)) _ ?_
      exact ho.glue hk (names_some.mpr (hts t List.mem_cons_self))
  exact hfold none names_none

theorem Names.wrap {o : Option Text} (ho : Names P o) : Names P (some (Text.wrap o)) := by
  cases o with
  | none => exact names_some.mpr fun _ hname => absurd hname List.not_mem_nil
  | some t => exact names_some.mpr (ho t rfl)

/-- What the reader finds in a string that is the text. -/
theorem Names.lex {s : String} {o : Option Text} (hs : Denotes s o) (ho : Names P o) :
    ∃ ts, lex s = some ts ∧ ∀ name, Token.word name ∈ ts → P name := by
  cases o with
  | none =>
    obtain rfl : s = "" := hs
    exact ⟨[], rfl, fun _ hname => absurd hname List.not_mem_nil⟩
  | some t =>
    exact ⟨t.tokens, Spells.lex hs, fun name hname => names_some.mp ho name (mem_columns.mp hname)⟩

/-! ## Rows that agree on the columns -/

section Agree

variable {row row' : String → Value}

theorem step_congr {t : Text} (h : ∀ name ∈ t.columns, row name = row' name) (f : Truth × Truth) :
    t.step row f = t.step row' f := by
  induction t generalizing f with
  | const n => rfl
  | cmp column o l => simp only [step, h column (List.mem_singleton_self _)]
  | inList column ls => simp only [step, Cond.eval, h column (List.mem_singleton_self _)]
  | isNull column => simp only [step, h column (List.mem_singleton_self _)]
  | hole => rfl
  | paren t ih => simp only [step, ih h]
  | notParen t ih => simp only [step, ih h]
  | and a b iha ihb =>
    simp only [columns, List.forall_mem_append] at h
    simp only [step, iha h.1, ihb h.2]
  | or a b iha ihb =>
    simp only [columns, List.forall_mem_append] at h
    simp only [step, iha h.1, ihb h.2]

theorem alternatives_congr {t : Text} (h : ∀ name ∈ t.columns, row name = row' name) :
    t.alternatives row = t.alternatives row' := by
  have hholds {u : Text} (hu : ∀ name ∈ u.columns, row name = row' name) :
      u.holds row = u.holds row' := by
    unfold holds truth
    rw [step_congr hu]
  induction t with
  | and a b iha ihb =>
    simp only [columns, List.forall_mem_append] at h
    simp only [alternatives, iha h.1, ihb h.2]
  | or a b iha ihb =>
    simp only [columns, List.forall_mem_append] at h
    simp only [alternatives, iha h.1, ihb h.2]
  | _ => simp only [alternatives, hholds h]

/-- A text says the same of rows that agree on the columns it names. -/
theorem Names.alts_congr {o : Option Text} (ho : Names P o)
    (h : ∀ name, P name → row name = row' name) : alts row o = alts row' o := by
  cases o with
  | none => rfl
  | some t => exact alternatives_congr fun name hname => h name (names_some.mp ho name hname)

end Agree

end Hatohol.Sql.Text

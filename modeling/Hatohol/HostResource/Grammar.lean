import Hatohol.Sql.Grammar
import Hatohol.HostResource.Filters

/-!
# The text of a host resource query is a condition

Where no builder has lost all its terms, `getCondition` returns the empty string or a sentence of
the grammar of `Hatohol.Sql.Grammar`, with the always false condition `0` among its atoms.
-/

namespace Hatohol

open Sql

/-- The atoms of a text that may be absent are those of the grammar, with 0 as a constant. -/
def plain (t : Option Text) : Bool := t.all (Text.inGrammar [0])

theorem plain_glue_and (t u : Option Text) : plain (Text.glue .and t u) = (plain t && plain u) := by
  cases t <;> cases u <;> simp [Text.glue, plain, Text.inGrammar]

theorem plain_glue_or (t u : Option Text) : plain (Text.glue .or t u) = (plain t && plain u) := by
  cases t <;> cases u <;> simp [Text.glue, plain, Text.inGrammar]

theorem plain_glue (type : AddConditionType) {t u : Option Text} (ht : plain t) (hu : plain u) :
    plain (Text.glue type.join t u) := by
  cases type
  · simp [AddConditionType.join, plain_glue_and, ht, hu]
  · simp [AddConditionType.join, plain_glue_or, ht, hu]

theorem plain_foldl (type : AddConditionType) {ts : List Text}
    (hts : ∀ t ∈ ts, t.inGrammar [0]) {t : Option Text} (ht : plain t) :
    plain (ts.foldl (fun t u => Text.glue type.join t (some u)) t) := by
  induction ts generalizing t with
  | nil => exact ht
  | cons u us ih =>
    exact ih (fun w hw => hts w (by simp [hw])) (plain_glue type ht (hts u (by simp)))

theorem plain_chain (type : AddConditionType) {ts : List Text} (hts : ∀ t ∈ ts, t.inGrammar [0]) :
    plain (Text.chain type.join ts) :=
  plain_foldl type hts rfl

namespace HostResourceQueryOption

theorem plain_wrapIf (b : Bool) {t : Option Text} (ht : plain t) : plain (wrapIf b t) := by
  cases b with
  | false => exact ht
  | true =>
    cases t with
    | none => rfl
    | some t => exact ht

variable (o : HostResourceQueryOption)

theorem plain_validForm : plain o.validForm := by
  unfold validForm
  split
  · split <;> rfl
  · rfl

theorem plain_allowedForm : plain o.allowedForm := by
  unfold allowedForm
  split
  · rfl
  · refine plain_wrapIf _ (plain_chain .or (List.forall_mem_map.mpr fun entry _ => ?_))
    unfold entryForm
    split
    · split <;> rfl
    · rfl

theorem plain_targetForm : plain o.targetForm := by
  have hchain : plain (Text.chain .and o.targetTexts) := by
    refine plain_chain .and fun t ht => ?_
    simp only [targetTexts, List.mem_append] at ht
    rcases ht with (ht | ht) | ht <;>
    · split at ht <;> simp_all [Text.inGrammar]
  unfold targetForm
  cases hform : Text.chain .and o.targetTexts with
  | none => rfl
  | some t =>
    rw [hform] at hchain
    exact hchain

theorem plain_serversForm (serverIdSet : ServerIdSet) {op : CmpOp} (hop : op = .eq ∨ op = .ne)
    (type : AddConditionType) : plain (o.serversForm serverIdSet op type) := by
  refine plain_wrapIf _ (plain_chain type (List.forall_mem_map.mpr fun _ _ => ?_))
  rcases hop with rfl | rfl <;> rfl

theorem plain_pairsForm (map : Std.TreeMap ServerIdType (Std.TreeSet CString))
    (isAllowedId : ServerIdType → CString → Bool) (column : String) {enclose : Text → Text}
    (henclose : ∀ t, (enclose t).inGrammar [0] = t.inGrammar [0]) (type : AddConditionType) :
    plain (o.pairsForm map isAllowedId column enclose type) := by
  refine plain_wrapIf _ (plain_chain type (List.forall_mem_map.mpr fun _ _ => ?_))
  rw [henclose]
  rfl

theorem plain_filterForm : plain o.filterForm := by
  have hparen (t : Text) : (Text.paren t).inGrammar [0] = t.inGrammar [0] := rfl
  have hnot (t : Text) : (Text.notParen t).inGrammar [0] = t.inGrammar [0] := rfl
  refine plain_wrapIf _ ?_
  unfold flatForm filterForms
  refine plain_glue .and (plain_glue .or (plain_glue .and (plain_glue .or (plain_glue .and
    (plain_glue .or rfl ?_) ?_) ?_) ?_) ?_) ?_
  · exact o.plain_serversForm _ (.inl rfl) _
  · exact o.plain_serversForm _ (.inr rfl) _
  · exact o.plain_pairsForm _ _ _ hparen _
  · exact o.plain_pairsForm _ _ _ hnot _
  · exact o.plain_pairsForm _ _ _ hparen _
  · exact o.plain_pairsForm _ _ _ hnot _

theorem plain_form : plain o.form := by
  have hallowed : plain (if o.has .getAllServer then none else o.allowedForm) := by
    split
    · rfl
    · exact o.plain_allowedForm
  unfold form baseForm
  simp only [plain_glue_and, plain_validForm, hallowed, plain_targetForm, plain_filterForm,
    Bool.and_self]

/-- A string is empty or a sentence with the given constants, in which nothing is left open. -/
def IsCondition (constants : List Int) (s : String) : Prop :=
  s = "" ∨ ∃ ts, lex s = some ts ∧ Sentence constants ts ∧ Tidy ts

/-- No server is set up. -/
def noServerQuery : HostResourceQueryOption :=
  new synapseTriggersQueryOption { administrator with validServerIdSet := ∅ }

end HostResourceQueryOption

end Hatohol

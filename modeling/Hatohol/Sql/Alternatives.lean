import Hatohol.Sql.Text

/-!
# Alternatives

The connectives of a text that stand outside all parentheses cut it into alternatives, each of
some conjuncts. Which conjuncts an alternative has is what gluing decides: `AND` adds only to the
last alternative that was there before it.
-/

namespace Hatohol.Sql

/-- Alternatives with an `AND` between them: it joins the last of the one list with the first of
    the other. -/
def conjoin : List Bool → List Bool → List Bool
  | [], bs => bs
  | [a], [] => [a]
  | [a], b :: bs => (a && b) :: bs
  | a :: a' :: as, bs => a :: conjoin (a' :: as) bs

@[simp] theorem conjoin_nil_left (bs : List Bool) : conjoin [] bs = bs := by simp [conjoin]

@[simp] theorem conjoin_nil_right (as : List Bool) : conjoin as [] = as := by
  induction as with
  | nil => rfl
  | cons a as ih => cases as <;> simp_all [conjoin]

theorem conjoin_ne_nil {as : List Bool} (bs : List Bool) (has : as ≠ []) : conjoin as bs ≠ [] := by
  match as, bs with
  | [], _ => exact absurd rfl has
  | [_], [] => simp [conjoin]
  | [_], _ :: _ => simp [conjoin]
  | _ :: _ :: _, _ => simp [conjoin]

/-- One more conjunct goes to the last alternative. -/
theorem conjoin_concat (as : List Bool) (a : Bool) (bs : List Bool) :
    conjoin (as ++ [a]) bs = as ++ conjoin [a] bs := by
  induction as with
  | nil => rfl
  | cons x xs ih =>
    obtain ⟨y, ys, hy⟩ : ∃ y ys, xs ++ [a] = y :: ys := by
      cases xs <;> simp
    rw [List.cons_append, hy, conjoin, ← hy, ih]
    rfl

theorem conjoin_conjoin_single (as : List Bool) (a b : Bool) :
    conjoin (conjoin as [a]) [b] = conjoin as [a && b] := by
  rcases List.eq_nil_or_concat as with rfl | ⟨as, c, rfl⟩
  · rfl
  · simp only [List.concat_eq_append, conjoin_concat, conjoin, Bool.and_assoc]

/-- Reading alternatives within a frame, as far as truth goes. -/
def readAlternatives : List Bool → Bool × Bool → Bool × Bool
  | [], f => f
  | [b], f => (f.1, f.2 && b)
  | b :: b' :: bs, f => readAlternatives (b' :: bs) (f.1 || (f.2 && b), true)

theorem readAlternatives_append {as bs : List Bool} (has : as ≠ []) (hbs : bs ≠ [])
    (f : Bool × Bool) :
    readAlternatives (as ++ bs) f =
      readAlternatives bs ((readAlternatives as f).1 || (readAlternatives as f).2, true) := by
  induction as generalizing f with
  | nil => exact absurd rfl has
  | cons a as ih =>
    cases as with
    | nil =>
      obtain ⟨b, bs, rfl⟩ := List.exists_cons_of_ne_nil hbs
      simp [readAlternatives]
    | cons a' as => exact ih (by simp) _

theorem readAlternatives_conjoin {as bs : List Bool} (has : as ≠ []) (hbs : bs ≠ [])
    (f : Bool × Bool) :
    readAlternatives (conjoin as bs) f = readAlternatives bs (readAlternatives as f) := by
  induction as generalizing f with
  | nil => exact absurd rfl has
  | cons a as ih =>
    cases as with
    | nil =>
      obtain ⟨b, bs, rfl⟩ := List.exists_cons_of_ne_nil hbs
      cases bs <;> simp [conjoin, readAlternatives, Bool.and_assoc]
    | cons a' as =>
      have htail := ih (by simp) (f.1 || (f.2 && a), true)
      obtain ⟨c, cs, hcs⟩ := List.exists_cons_of_ne_nil (conjoin_ne_nil bs (by simp : a' :: as ≠ []))
      simp only [conjoin]
      rw [hcs] at htail ⊢
      exact htail

/-- What a frame closes to after the alternatives have been read in it. -/
theorem readAlternatives_close (b : Bool) (bs : List Bool) (f : Bool × Bool) :
    ((readAlternatives (b :: bs) f).1 || (readAlternatives (b :: bs) f).2) =
      (f.1 || (f.2 && b) || bs.any id) := by
  induction bs generalizing b f with
  | nil => simp [readAlternatives]
  | cons b' bs ih => simp [readAlternatives, ih, Bool.or_assoc]

/-- A row is picked by one of the alternatives; where there is none, every row is. -/
def picks (bs : List Bool) : Bool := bs.isEmpty || bs.any id

theorem length_conjoin_le {as bs : List Bool} (has : as.length ≤ 1) (hbs : bs.length ≤ 1) :
    (conjoin as bs).length ≤ 1 := by
  match as, bs with
  | [], _ => simpa using hbs
  | [_], [] => simp
  | [_], _ :: _ => simpa [conjoin] using hbs
  | _ :: _ :: _, _ => simp at has

/-- A conjunction appended with `AND`: only the first alternative of what follows is bound by it. -/
theorem picks_conjoin {as : List Bool} (has : as.length ≤ 1) (bs : List Bool) :
    picks (conjoin as bs) = ((picks as && picks bs) || bs.tail.any id) := by
  match as, bs with
  | [], [] => rfl
  | [], b :: bs => cases b <;> simp [picks]
  | [a], [] => cases a <;> simp [picks]
  | [a], b :: bs => cases a <;> cases b <;> simp [picks, conjoin]
  | _ :: _ :: _, _ => simp at has

theorem picks_conjoin_single {as bs : List Bool} (has : as.length ≤ 1) (hbs : bs.length ≤ 1) :
    picks (conjoin as bs) = (picks as && picks bs) := by
  have htail : bs.tail = [] := by
    match bs with
    | [] => rfl
    | [_] => rfl
    | _ :: _ :: _ => simp at hbs
  rw [picks_conjoin has, htail]
  simp

/-- What a conjunction binds of the alternatives that follow it. -/
theorem conjoin_cons {as : List Bool} (has : as.length ≤ 1) (b : Bool) (bs : List Bool) :
    conjoin as (b :: bs) = (picks as && b) :: bs := by
  match as with
  | [] => simp [picks]
  | [a] => simp [picks, conjoin]
  | _ :: _ :: _ => simp at has

theorem picks_eq_dropLast (as : List Bool) :
    picks as = (as.dropLast.any id || as.getLast?.getD true) := by
  rcases List.eq_nil_or_concat as with rfl | ⟨as, a, rfl⟩
  · rfl
  · simp [picks]

/-- A conjunct appended with `AND`: it binds the last of the alternatives before it only. -/
theorem picks_conjoin_last (as : List Bool) (b : Bool) :
    picks (conjoin as [b]) = (as.dropLast.any id || (as.getLast?.getD true && b)) := by
  rcases List.eq_nil_or_concat as with rfl | ⟨as, a, rfl⟩
  · simp [picks]
  · simp [conjoin_concat, conjoin, picks]

/-- Two alternatives appended with `AND`: the second is bound by nothing. -/
theorem picks_conjoin_two (as : List Bool) (b c : Bool) :
    picks (conjoin as [b, c]) = (picks (conjoin as [b]) || c) := by
  rcases List.eq_nil_or_concat as with rfl | ⟨as, a, rfl⟩
  · simp [picks]
  · have hne (cs : List Bool) (d : Bool) : (as ++ d :: cs).isEmpty = false := by simp
    simp [conjoin_concat, conjoin, picks, hne, Bool.or_assoc]

namespace Text

/-- The text is true in the row. -/
def holds (row : String → Value) (t : Text) : Bool := t.truth row == some true

/-- The truth of each alternative of a text. -/
def alternatives (row : String → Value) : Text → List Bool
  | .and a b => conjoin (a.alternatives row) (b.alternatives row)
  | .or a b => a.alternatives row ++ b.alternatives row
  | t => [t.holds row]

theorem alternatives_ne_nil (row : String → Value) (t : Text) : t.alternatives row ≠ [] := by
  induction t with
  | and a b iha _ => exact conjoin_ne_nil _ iha
  | or a b iha _ => simp [alternatives, iha]
  | _ => simp [alternatives]

/-- The parts of a frame that are true. -/
def held (f : Truth × Truth) : Bool × Bool := (f.1 == some true, f.2 == some true)

theorem beq_and_true (a b : Truth) :
    (a.and b == some true) = ((a == some true) && (b == some true)) := by
  rcases a with _ | _ | _ <;> rcases b with _ | _ | _ <;> rfl

theorem beq_or_true (a b : Truth) :
    (a.or b == some true) = ((a == some true) || (b == some true)) := by
  rcases a with _ | _ | _ <;> rcases b with _ | _ | _ <;> rfl

/-- A text without an outer connective only adds its truth to the conjunction being read. -/
theorem held_step_single (row : String → Value) {t : Text}
    (ht : ∀ f, t.step row f = (f.1, f.2.and (t.truth row))) (f : Truth × Truth) :
    held (t.step row f) = readAlternatives [t.holds row] (held f) := by
  rw [ht]
  simp [held, readAlternatives, holds, beq_and_true]

theorem held_step (row : String → Value) (t : Text) (ht : t.wellFormed) (f : Truth × Truth) :
    held (t.step row f) = readAlternatives (t.alternatives row) (held f) := by
  induction t generalizing f with
  | hole => simp [wellFormed] at ht
  | and a b iha ihb =>
    simp only [wellFormed, Bool.and_eq_true] at ht
    rw [alternatives, readAlternatives_conjoin (a.alternatives_ne_nil row)
      (b.alternatives_ne_nil row), ← iha ht.1, ← ihb ht.2]
    rfl
  | or a b iha ihb =>
    simp only [wellFormed, Bool.and_eq_true] at ht
    rw [alternatives, readAlternatives_append (a.alternatives_ne_nil row)
      (b.alternatives_ne_nil row), ← iha ht.1]
    simp only [step]
    rw [ihb ht.2]
    simp [held, beq_or_true]
  | const n => exact held_step_single row (fun f => by simp [step, truth]) f
  | cmp column o l => exact held_step_single row (fun f => by simp [step, truth]) f
  | inList column ls => exact held_step_single row (fun f => by simp [step, truth]) f
  | isNull column => exact held_step_single row (fun f => by simp [step, truth]) f
  | paren t _ => exact held_step_single row (fun f => by simp [step, truth]) f
  | notParen t _ => exact held_step_single row (fun f => by simp [step, truth]) f

/-- A text is true in a row when one of its alternatives is. -/
theorem holds_eq_any (row : String → Value) (t : Text) (ht : t.wellFormed) :
    t.holds row = (t.alternatives row).any id := by
  obtain ⟨b, bs, hbs⟩ := List.exists_cons_of_ne_nil (t.alternatives_ne_nil row)
  have hheld := held_step row t ht (some false, some true)
  have hclose := readAlternatives_close b bs (held (some false, some true))
  rw [hbs] at hheld
  rw [← hheld] at hclose
  rw [hbs]
  simpa [holds, truth, held, beq_or_true] using hclose

/-- The alternatives of a text that may be absent. -/
def alts (row : String → Value) : Option Text → List Bool
  | none => []
  | some t => t.alternatives row

/-- Nothing was left out of a text, if there is one. -/
def complete (o : Option Text) : Bool := o.all wellFormed

end Text

/-- The rows that an assembled text selects. -/
theorem Denotes.selects_eq {s : String} {o : Option Text} (h : Denotes s o)
    (row : String → Value) :
    Sql.selects s row = (Text.complete o && picks (Text.alts row o)) := by
  cases o with
  | none => simp [h.selects_all, picks, Text.alts, Text.complete]
  | some t =>
    rw [Bool.eq_iff_iff, h.selects]
    cases ht : t.wellFormed with
    | false => simp [ht, Text.complete]
    | true =>
      have hany := Text.holds_eq_any row t ht
      simp [ht, picks, Text.alts, Text.alternatives_ne_nil, ← hany, Text.holds, Text.complete]

/-! ### Alternatives of glued texts -/

namespace Text

@[simp] theorem alts_none (row : String → Value) : alts row none = [] := rfl

theorem alts_eq_nil {row : String → Value} {o : Option Text} : alts row o = [] ↔ o = none := by
  cases o <;> simp [alts, alternatives_ne_nil]

theorem alts_glue_or (row : String → Value) (o p : Option Text) :
    alts row (glue .or o p) = alts row o ++ alts row p := by
  cases o <;> cases p <;> simp [glue, alts, alternatives]

theorem alts_glue_and (row : String → Value) (o p : Option Text) :
    alts row (glue .and o p) = conjoin (alts row o) (alts row p) := by
  cases o <;> cases p <;> simp [glue, alts, alternatives]

theorem alts_wrap (row : String → Value) {o : Option Text} (ho : o.isSome) (hc : complete o) :
    alts row (some (wrap o)) = [(alts row o).any id] := by
  cases o with
  | none => simp at ho
  | some t =>
    have hparen : (Text.paren t).holds row = t.holds row := by simp [holds, truth, step]
    simp [alts, wrap, alternatives, hparen, holds_eq_any row t hc]

@[simp] theorem complete_none : complete none = true := rfl

@[simp] theorem complete_some (t : Text) : complete (some t) = t.wellFormed := rfl

@[simp] theorem complete_glue_and (o p : Option Text) :
    complete (glue .and o p) = (complete o && complete p) := by
  cases o <;> cases p <;> simp [glue, wellFormed]

@[simp] theorem complete_glue_or (o p : Option Text) :
    complete (glue .or o p) = (complete o && complete p) := by
  cases o <;> cases p <;> simp [glue, wellFormed]

@[simp] theorem wellFormed_wrap (o : Option Text) :
    (wrap o).wellFormed = (o.isSome && complete o) := by
  cases o <;> simp [wrap, wellFormed]

theorem wellFormed_paren (t : Text) : (Text.paren t).wellFormed = t.wellFormed := rfl

theorem wellFormed_notParen (t : Text) : (Text.notParen t).wellFormed = t.wellFormed := rfl

@[simp] theorem isSome_glue (k : Text → Text → Text) (o p : Option Text) :
    (glue k o p).isSome = (o.isSome || p.isSome) := by
  cases o <;> cases p <;> rfl

/-- Texts appended one after another with one connective. -/
def chain (k : Text → Text → Text) (ts : List Text) : Option Text :=
  ts.foldl (fun o t => glue k o (some t)) none

theorem isSome_foldl_glue (k : Text → Text → Text) (ts : List Text) (o : Option Text) :
    (ts.foldl (fun o t => glue k o (some t)) o).isSome = (o.isSome || !ts.isEmpty) := by
  induction ts generalizing o with
  | nil => simp
  | cons t ts ih => simp [ih]

@[simp] theorem isSome_chain (k : Text → Text → Text) (ts : List Text) :
    (chain k ts).isSome = !ts.isEmpty := by
  simp [chain, isSome_foldl_glue]

theorem complete_foldl {k : Text → Text → Text}
    (hk : ∀ o p, complete (glue k o p) = (complete o && complete p)) (ts : List Text)
    (o : Option Text) :
    complete (ts.foldl (fun o t => glue k o (some t)) o) = (complete o && ts.all wellFormed) := by
  induction ts generalizing o with
  | nil => simp
  | cons t ts ih => simp [ih, hk, Bool.and_assoc]

@[simp] theorem complete_chain_or (ts : List Text) :
    complete (chain .or ts) = ts.all wellFormed := by
  simp [chain, complete_foldl complete_glue_or]

@[simp] theorem complete_chain_and (ts : List Text) :
    complete (chain .and ts) = ts.all wellFormed := by
  simp [chain, complete_foldl complete_glue_and]

/-- The text has no outer connective. -/
def isSingle : Text → Bool
  | .and .. | .or .. => false
  | _ => true

theorem alternatives_single (row : String → Value) {t : Text} (ht : t.isSingle) :
    t.alternatives row = [t.holds row] := by
  cases t <;> simp_all [isSingle, alternatives]

theorem alts_foldl_or (row : String → Value) {ts : List Text} (hts : ∀ t ∈ ts, t.isSingle)
    (o : Option Text) :
    alts row (ts.foldl (fun o t => glue .or o (some t)) o) =
      alts row o ++ ts.map (holds row) := by
  induction ts generalizing o with
  | nil => simp
  | cons t ts ih =>
    have ht := alternatives_single row (hts t (by simp))
    rw [List.foldl_cons, ih fun u hu => hts u (by simp [hu]), alts_glue_or]
    simp [alts, ht]

theorem alts_chain_or (row : String → Value) {ts : List Text} (hts : ∀ t ∈ ts, t.isSingle) :
    alts row (chain .or ts) = ts.map (holds row) := by
  simpa [chain] using alts_foldl_or row hts none

/-- Texts appended with `AND`, some of them absent, are bound to the last alternative of what was
    there. -/
theorem alts_foldl_glue (row : String → Value) {forms : List (Option Text)}
    (hforms : ∀ t, some t ∈ forms → t.isSingle) (o : Option Text) :
    alts row (forms.foldl (glue .and) o) =
      conjoin (alts row o) (if forms.all Option.isNone then []
        else [forms.all fun form => form.all (holds row)]) := by
  induction forms generalizing o with
  | nil => simp
  | cons form forms ih =>
    rw [List.foldl_cons, ih (fun u hu => hforms u (by simp [hu])), alts_glue_and]
    cases form with
    | none => simp
    | some t =>
      have ht : alts row (some t) = [t.holds row] := alternatives_single row (hforms t (by simp))
      rw [ht]
      by_cases hnone : forms.all Option.isNone
      · have hall : (forms.all fun form => form.all (holds row)) = true := by
          rw [List.all_eq_true] at hnone ⊢
          intro form hform
          rw [Option.isNone_iff_eq_none.mp (hnone form hform)]
          rfl
        simp [hnone, hall]
      · rw [if_neg hnone, conjoin_conjoin_single]
        simp

theorem complete_foldl_glue (forms : List (Option Text)) (o : Option Text) :
    complete (forms.foldl (glue .and) o) = (complete o && forms.all complete) := by
  induction forms generalizing o with
  | nil => simp
  | cons form forms ih => simp [ih, Bool.and_assoc]

/-- A conjunction of texts is one alternative. -/
theorem alts_chain_and (row : String → Value) {ts : List Text} (hts : ∀ t ∈ ts, t.isSingle) :
    alts row (chain .and ts) = if ts = [] then [] else [ts.all (holds row)] := by
  have hchain : chain .and ts = (ts.map some).foldl (glue .and) none := by
    rw [chain, List.foldl_map]
  rw [hchain, alts_foldl_glue row (by simpa using hts)]
  cases ts <;> simp [Function.comp_def]

/-! ### The truth of single texts -/

@[simp] theorem holds_cmp (row : String → Value) (column : String) (o : CmpOp) (l : Literal) :
    (Text.cmp column o l).holds row = (compareValue o (row column) l == some true) := by
  simp [holds, truth, step]

theorem compareValue_int (a b : Int) : compareValue .eq (.int a) (.int b) = some (a == b) := by
  refine congrArg some ?_
  rw [Bool.eq_iff_iff]
  simp

theorem compareValue_str (a b : String) : compareValue .eq (.str a) (.str b) = some (a == b) := by
  refine congrArg some ?_
  rw [Bool.eq_iff_iff]
  simp

@[simp] theorem compareValue_eq_int (a b : Int) :
    (compareValue .eq (.int a) (.int b) == some true) = (a == b) := by
  simp [compareValue_int]

@[simp] theorem compareValue_ne_int (a b : Int) :
    (compareValue .ne (.int a) (.int b) == some true) = (a != b) := by
  rw [Bool.eq_iff_iff]
  simp [compareValue]

/-- The order of the numbers decides a comparison of numbers. -/
theorem compareValue_order_int (a b : Int) :
    (compareValue .lt (.int a) (.int b) == some true) = decide (a < b) ∧
      (compareValue .le (.int a) (.int b) == some true) = decide (a ≤ b) ∧
      (compareValue .gt (.int a) (.int b) == some true) = decide (b < a) ∧
      (compareValue .ge (.int a) (.int b) == some true) = decide (b ≤ a) := by
  refine ⟨?_, ?_, ?_, ?_⟩ <;>
  · rw [Bool.eq_iff_iff]
    simp [compareValue]

@[simp] theorem compareValue_eq_str (a b : String) :
    (compareValue .eq (.str a) (.str b) == some true) = (a == b) := by
  simp [compareValue_str]

@[simp] theorem holds_const (row : String → Value) (n : Int) :
    (Text.const n).holds row = (n != 0) := by
  simp [holds, truth, step]

@[simp] theorem holds_isNull (row : String → Value) (column : String) :
    (Text.isNull column).holds row = (row column == .null) := by
  simp [holds, truth, step]

theorem holds_inList (row : String → Value) (column : String) (ls : List Literal) :
    (Text.inList column ls).holds row = ls.any (fun l => row column == l.value) := by
  rw [Bool.eq_iff_iff]
  simp [holds, truth, step, inList_eq_true]

theorem holds_paren (row : String → Value) {t : Text} (ht : t.wellFormed) :
    (Text.paren t).holds row = (t.alternatives row).any id := by
  rw [← holds_eq_any row t ht]
  simp [holds, truth, step]

end Text

end Hatohol.Sql

import Mathlib.Data.List.Basic

/-!
# Names of Zabbix items

The name of an item refers to the parameters of its key by `$1` to `$9`. Zabbix leaves it to its
clients to put them in, which `expand_item_brief` does (server/src/hap2/hatohol/zabbixapi.py:113-127).
It cuts the name at every dollar sign and puts the pieces together again.
-/

namespace Hatohol.ZabbixAPI

/-! ## What the plugin does -/

/-- The digits of the Unicode database. -/
structure UnicodeDigits where
  isdigit : Char → Bool
  /-- `int` of one character, if it is no ValueError. -/
  int : Char → Option Nat
  isdigit_ascii : ∀ c : Char, c.toNat < 128 → isdigit c = c.isDigit
  int_ascii : ∀ c : Char, c.isDigit → int c = some (c.toNat - '0'.toNat)

inductive PyError where
  | valueError
  | indexError
  deriving DecidableEq, Repr

/-- `xs[i]`, where `-1` is the last one. -/
def getItem {α : Type} (xs : List α) (i : Int) : Except PyError α :=
  match if 0 ≤ i then xs[i.toNat]? else if -xs.length ≤ i then xs[(xs.length + i).toNat]? else none with
  | some x => .ok x
  | none => .error .indexError

/-- `key_list` of an item, which is also made from a key without brackets. -/
def keyList (key_ : List Char) : List (List Char) :=
  (key_.dropLast.drop ((key_.findIdx? (· == '[')).elim 0 (· + 1))).splitOn ','

variable (d : UnicodeDigits)

/-- The loop. The name is what has been put together so far. -/
def expandPieces (key_list : List (List Char)) :
    List (List Char) → List Char → Except PyError (List Char)
  | [], name => .ok name
  | [] :: rest, name => expandPieces key_list rest name
  | (key_index :: tail) :: rest, name =>
      if d.isdigit key_index then do
        let n ← match d.int key_index with
          | some n => pure n
          | none => throw .valueError
        let param ← getItem key_list ((n : Int) - 1)
        expandPieces key_list rest (name ++ param ++ tail)
      else expandPieces key_list rest (name ++ '$' :: key_index :: tail)

/-- `split` never answers an empty list. -/
def expand_item_brief (key_ name : List Char) : Except PyError (List Char) :=
  match name.splitOn '$' with
  | [] => .error .indexError
  | first :: rest => expandPieces d (keyList key_) rest first

/-! ## What Zabbix does -/

/-- The key `key[p1,...,pk]`. -/
def itemKey (key : List Char) (params : List (List Char)) : List Char :=
  key ++ '[' :: [','].intercalate params ++ [']']

/-- The parameter that a digit refers to. -/
def parameter (params : List (List Char)) (c : Char) : Option (List Char) :=
  if '1' ≤ c ∧ c ≤ '9' then params[c.toNat - '1'.toNat]? else none

/-- Each reference to a parameter is replaced, and every other character is kept. -/
def expanded (params : List (List Char)) : List Char → List Char
  | [] => []
  | [c] => [c]
  | c :: c' :: rest =>
      if c = '$' then
        match parameter params c' with
        | some param => param ++ expanded params rest
        | none => c :: expanded params (c' :: rest)
      else c :: expanded params (c' :: rest)

/-- The characters that a parameter without quotes cannot have. -/
def IsPlain (param : List Char) : Prop := ∀ c ∈ [',', '\x22', '[', ']'], c ∉ param

/-- What may stand behind a dollar sign: no other one, and no digit that refers to nothing. -/
def FitsBehind (k : Nat) (after : List Char) : Prop :=
  ∃ c rest, after = c :: rest ∧ c ≠ '$' ∧
    (d.isdigit c = false ∨ '1' ≤ c ∧ c ≤ '9' ∧ c.toNat - '0'.toNat ≤ k)

def ReferencesFit (k : Nat) (name : List Char) : Prop :=
  ∀ after, '$' :: after <:+ name → FitsBehind d k after

/-! ## The parameters of a key -/

theorem findIdx?_bracket {key : List Char} (hkey : '[' ∉ key) (rest : List Char) :
    (key ++ '[' :: rest).findIdx? (· == '[') = some key.length := by
  rw [List.findIdx?_append, List.findIdx?_eq_none_iff.mpr fun c hc => by
    rw [beq_eq_false_iff_ne]
    exact fun heq => hkey (heq ▸ hc)]
  simp [List.findIdx?_cons]

theorem keyList_itemKey {key : List Char} (hkey : '[' ∉ key) {params : List (List Char)}
    (hne : params ≠ []) (hparams : ∀ param ∈ params, ',' ∉ param) :
    keyList (itemKey key params) = params := by
  have hdrop : (key ++ '[' :: [','].intercalate params).drop (key.length + 1) =
      [','].intercalate params := by
    rw [List.append_cons, List.drop_left' (by rw [List.length_append]; rfl)]
  have hlast : itemKey key params = (key ++ '[' :: [','].intercalate params) ++ [']'] := rfl
  have hidx : (itemKey key params).findIdx? (· == '[') = some key.length := by
    rw [itemKey, List.append_assoc]
    exact findIdx?_bracket hkey _
  rw [keyList, hidx, Option.elim_some, hlast, List.dropLast_concat, hdrop,
    List.splitOn_intercalate ',' hparams hne]

/-! ## The pieces of a name -/

/-- The pieces behind the first one, with their dollar signs. -/
def joinRest (rest : List (List Char)) : List Char := rest.flatMap ('$' :: ·)

theorem intercalate_cons (first : List Char) (rest : List (List Char)) :
    ['$'].intercalate (first :: rest) = first ++ joinRest rest := by
  induction rest generalizing first with
  | nil => simp [joinRest]
  | cons piece rest ih =>
    rw [List.intercalate_cons_cons, ih, List.append_assoc]
    rfl

/-- A name is made from its pieces. -/
theorem exists_pieces (name : List Char) : ∃ first rest, name.splitOn '$' = first :: rest ∧
    name = first ++ joinRest rest ∧ '$' ∉ first ∧ ∀ piece ∈ rest, '$' ∉ piece := by
  have hfree : ∀ piece ∈ name.splitOn '$', '$' ∉ piece := by
    intro piece hpiece
    induction name generalizing piece with
    | nil =>
      rw [List.splitOn_nil] at hpiece
      rw [List.mem_singleton.mp hpiece]
      exact List.not_mem_nil
    | cons c name ih =>
      rw [List.splitOn_cons_eq_if_modifyHead] at hpiece
      split at hpiece
      · rcases List.mem_cons.mp hpiece with rfl | hpiece
        · exact List.not_mem_nil
        · exact ih piece hpiece
      · rename_i hc
        have hne : '$' ≠ c := fun heq => hc (beq_iff_eq.mpr heq.symm)
        obtain ⟨first, rest, hsplit⟩ := List.exists_cons_of_ne_nil (List.splitOn_ne_nil '$' name)
        rw [hsplit, List.modifyHead_cons] at hpiece
        rcases List.mem_cons.mp hpiece with rfl | hpiece
        · rw [List.mem_cons, not_or]
          exact ⟨hne, ih first (by rw [hsplit]; exact List.mem_cons_self)⟩
        · exact ih piece (by rw [hsplit]; exact List.mem_cons_of_mem _ hpiece)
  obtain ⟨first, rest, hsplit⟩ := List.exists_cons_of_ne_nil (List.splitOn_ne_nil '$' name)
  rw [hsplit] at hfree
  refine ⟨first, rest, hsplit, ?_, hfree first List.mem_cons_self, fun piece hpiece =>
    hfree piece (List.mem_cons_of_mem _ hpiece)⟩
  rw [← intercalate_cons, ← hsplit, List.intercalate_splitOn]

theorem expanded_cons_of_ne {params : List (List Char)} {c : Char} (hc : c ≠ '$')
    (rest : List Char) : expanded params (c :: rest) = c :: expanded params rest := by
  cases rest with
  | nil => rfl
  | cons c' rest => rw [expanded, if_neg hc]

theorem expanded_append {params : List (List Char)} {piece : List Char} (hpiece : '$' ∉ piece)
    (rest : List Char) : expanded params (piece ++ rest) = piece ++ expanded params rest := by
  induction piece with
  | nil => rfl
  | cons c piece ih =>
    rw [List.mem_cons, not_or] at hpiece
    rw [List.cons_append, expanded_cons_of_ne (Ne.symm hpiece.1), ih hpiece.2, List.cons_append]

/-- A piece that is empty leaves a dollar sign with nothing that it could refer by. -/
theorem expanded_joinRest_nil (params : List (List Char)) (rest : List (List Char)) :
    expanded params (joinRest ([] :: rest)) = '$' :: expanded params (joinRest rest) := by
  cases rest with
  | nil => rfl
  | cons piece rest =>
    have hnone : parameter params '$' = none := if_neg (by decide)
    change expanded params ('$' :: '$' :: (piece ++ joinRest rest)) = _
    rw [expanded, if_pos rfl, hnone]
    rfl

theorem expanded_joinRest_cons {params : List (List Char)} {c : Char} {tail : List Char}
    (hpiece : '$' ∉ c :: tail) (rest : List (List Char)) :
    expanded params (joinRest ((c :: tail) :: rest)) =
      match parameter params c with
      | some param => param ++ tail ++ expanded params (joinRest rest)
      | none => '$' :: c :: tail ++ expanded params (joinRest rest) := by
  have hjoin : joinRest ((c :: tail) :: rest) = '$' :: c :: (tail ++ joinRest rest) := rfl
  have htail : '$' ∉ tail := fun hmem => hpiece (List.mem_cons_of_mem _ hmem)
  rw [hjoin, expanded, if_pos rfl]
  split
  · rw [expanded_append htail, List.append_assoc]
  · rw [← List.cons_append, expanded_append hpiece]
    rfl

/-- What a piece behind a dollar sign is. -/
theorem fitsBehind_append {k : Nat} {piece : List Char} (hpiece : '$' ∉ piece)
    (rest : List (List Char)) :
    FitsBehind d k (piece ++ joinRest rest) ↔ ∃ c tail, piece = c :: tail ∧
      (d.isdigit c = false ∨ '1' ≤ c ∧ c ≤ '9' ∧ c.toNat - '0'.toNat ≤ k) := by
  cases piece with
  | nil =>
    refine iff_of_false ?_ fun ⟨c, tail, hnil, _⟩ => nomatch hnil
    rintro ⟨c, after, hafter, hne, -⟩
    cases rest with
    | nil => cases hafter
    | cons piece rest =>
      have hdollar : '$' :: (piece ++ joinRest rest) = c :: after := hafter
      exact hne (List.cons.inj hdollar).1.symm
  | cons c tail =>
    have hne : c ≠ '$' := fun heq => hpiece (heq ▸ List.mem_cons_self)
    constructor
    · rintro ⟨c', after, hafter, -, hfits⟩
      obtain rfl := (List.cons.inj hafter).1
      exact ⟨c, tail, rfl, hfits⟩
    · rintro ⟨c', tail', hcons, hfits⟩
      obtain ⟨rfl, rfl⟩ := List.cons.inj hcons
      exact ⟨c, _, rfl, hne, hfits⟩

theorem referencesFit_nil (k : Nat) : ReferencesFit d k [] :=
  fun _ hsuffix => absurd (List.suffix_nil.mp hsuffix) (List.cons_ne_nil _ _)

theorem referencesFit_append {k : Nat} {piece : List Char} (hpiece : '$' ∉ piece)
    (rest : List Char) : ReferencesFit d k (piece ++ rest) ↔ ReferencesFit d k rest := by
  induction piece with
  | nil => exact Iff.rfl
  | cons c piece ih =>
    rw [List.mem_cons, not_or] at hpiece
    rw [← ih hpiece.2]
    constructor
    · exact fun hfit after hsuffix => hfit after (hsuffix.trans (List.suffix_cons _ _))
    · intro hfit after hsuffix
      rcases List.suffix_cons_iff.mp hsuffix with heq | hsuffix
      · exact absurd (List.cons.inj heq).1 hpiece.1
      · exact hfit after hsuffix

theorem referencesFit_joinRest_cons {k : Nat} {piece : List Char} (hpiece : '$' ∉ piece)
    (rest : List (List Char)) :
    ReferencesFit d k (joinRest (piece :: rest)) ↔
      (∃ c tail, piece = c :: tail ∧
        (d.isdigit c = false ∨ '1' ≤ c ∧ c ≤ '9' ∧ c.toNat - '0'.toNat ≤ k)) ∧
      ReferencesFit d k (joinRest rest) := by
  have hjoin : joinRest (piece :: rest) = '$' :: (piece ++ joinRest rest) := rfl
  have hrest : ReferencesFit d k (piece ++ joinRest rest) ↔ ReferencesFit d k (joinRest rest) :=
    referencesFit_append d hpiece (joinRest rest)
  rw [← fitsBehind_append d hpiece rest, ← hrest, hjoin]
  constructor
  · intro hfit
    exact ⟨hfit _ List.suffix_rfl, fun after hsuffix =>
      hfit after (hsuffix.trans (List.suffix_cons _ _))⟩
  · rintro ⟨hfirst, hfit⟩ after hsuffix
    rcases List.suffix_cons_iff.mp hsuffix with heq | hsuffix
    · rw [(List.cons.inj heq).2]
      exact hfirst
    · exact hfit after hsuffix

/-! ## The agreement -/

theorem toNat_of_isReference {c : Char} (hlow : '1' ≤ c) (hhigh : c ≤ '9') :
    '1'.toNat = '0'.toNat + 1 ∧ '1'.toNat ≤ c.toNat ∧ c.toNat ≤ '9'.toNat :=
  ⟨rfl, hlow, hhigh⟩

theorem int_of_isReference {c : Char} (hlow : '1' ≤ c) (hhigh : c ≤ '9') :
    d.isdigit c = true ∧ d.int c = some (c.toNat - '0'.toNat) := by
  obtain ⟨hone, hle, hge⟩ := toNat_of_isReference hlow hhigh
  have hnine : '9'.toNat = 57 := rfl
  have hdigit : c.isDigit := by
    rw [Char.isDigit_iff_toNat]
    omega
  exact ⟨(d.isdigit_ascii c (by omega)).trans hdigit, d.int_ascii c hdigit⟩

theorem parameter_of_not_isdigit {c : Char} (hdigit : d.isdigit c = false)
    (params : List (List Char)) : parameter params c = none := by
  refine if_neg fun ⟨hlow, hhigh⟩ => ?_
  rw [(int_of_isReference d hlow hhigh).1] at hdigit
  cases hdigit

/-- A name all of whose references fit is expanded as it should be. -/
theorem expandPieces_of_fit {params : List (List Char)} {rest : List (List Char)}
    (hrest : ∀ piece ∈ rest, '$' ∉ piece)
    (hfit : ReferencesFit d params.length (joinRest rest)) (name : List Char) :
    expandPieces d params rest name = .ok (name ++ expanded params (joinRest rest)) := by
  induction rest generalizing name with
  | nil => exact congrArg Except.ok (List.append_nil name).symm
  | cons piece rest ih =>
    have hpiece := hrest piece List.mem_cons_self
    obtain ⟨⟨c, tail, rfl, hc⟩, hfits⟩ := (referencesFit_joinRest_cons d hpiece rest).mp hfit
    have hih := ih (fun piece hmem => hrest piece (List.mem_cons_of_mem _ hmem)) hfits
    rw [expandPieces, expanded_joinRest_cons hpiece]
    rcases hc with hdigit | ⟨hlow, hhigh, hle⟩
    · rw [if_neg (Bool.eq_false_iff.mp hdigit), hih, parameter_of_not_isdigit d hdigit,
        List.append_assoc]
    · obtain ⟨hdigit, hint⟩ := int_of_isReference d hlow hhigh
      obtain ⟨hone, hmin, -⟩ := toNat_of_isReference hlow hhigh
      have hidx : c.toNat - '1'.toNat < params.length := by omega
      have hindex : ((c.toNat - '0'.toNat : Nat) : Int) - 1 = (c.toNat - '1'.toNat : Nat) := by omega
      have hget : getItem params (((c.toNat - '0'.toNat : Nat) : Int) - 1) =
          .ok params[c.toNat - '1'.toNat] := by
        rw [hindex, getItem, if_pos (Int.natCast_nonneg _), Int.toNat_natCast,
          List.getElem?_eq_getElem hidx]
      have hparam : parameter params c = some params[c.toNat - '1'.toNat] := by
        rw [parameter, if_pos ⟨hlow, hhigh⟩, List.getElem?_eq_getElem hidx]
      rw [if_pos hdigit, hint, hparam]
      simp only [bind, Except.bind, pure, Except.pure, hget]
      rw [hih, List.append_assoc, List.append_assoc, List.append_assoc]

theorem getItem_replicate {k : Nat} {i : Int} {param : List Char}
    (hget : getItem (List.replicate k []) i = .ok param) : param = [] := by
  unfold getItem at hget
  split at hget
  next x hx =>
    obtain rfl := Except.ok.inj hget
    have hmem : x ∈ List.replicate k [] := by
      split_ifs at hx
      · exact List.mem_of_getElem? hx
      · exact List.mem_of_getElem? hx
    exact List.eq_of_mem_replicate hmem
  next => cases hget

theorem parameter_replicate {k : Nat} {c : Char} {param : List Char}
    (hparam : parameter (List.replicate k []) c = some param) :
    param = [] ∧ '1' ≤ c ∧ c ≤ '9' ∧ c.toNat - '0'.toNat ≤ k := by
  unfold parameter at hparam
  split at hparam
  next hc =>
    obtain ⟨hone, hmin, -⟩ := toNat_of_isReference hc.1 hc.2
    obtain ⟨hidx, hget⟩ := List.getElem?_eq_some_iff.mp hparam
    rw [List.length_replicate] at hidx
    refine ⟨?_, hc.1, hc.2, by omega⟩
    rw [← hget, List.getElem_replicate]
  next => cases hparam

/-- With empty parameters a dollar sign that does not fit is lost, and a digit behind it, too. -/
theorem length_expandPieces_le {k : Nat} {rest : List (List Char)}
    (hrest : ∀ piece ∈ rest, '$' ∉ piece) {name result : List Char}
    (hrun : expandPieces d (List.replicate k []) rest name = .ok result) :
    result.length ≤ (name ++ expanded (List.replicate k []) (joinRest rest)).length ∧
      (result.length = (name ++ expanded (List.replicate k []) (joinRest rest)).length →
        ReferencesFit d k (joinRest rest)) := by
  induction rest generalizing name with
  | nil =>
    obtain rfl := Except.ok.inj hrun
    exact ⟨Nat.le_of_eq (congrArg List.length (List.append_nil name)).symm,
      fun _ => referencesFit_nil d k⟩
  | cons piece rest ih =>
    have hpiece := hrest piece List.mem_cons_self
    have hih {name : List Char}
        (hrun : expandPieces d (List.replicate k []) rest name = .ok result) :=
      ih (fun piece hmem => hrest piece (List.mem_cons_of_mem _ hmem)) hrun
    cases piece with
    | nil =>
      rw [expandPieces] at hrun
      obtain ⟨hle, -⟩ := hih hrun
      rw [expanded_joinRest_nil]
      simp only [List.length_append, List.length_cons] at hle ⊢
      exact ⟨by omega, by omega⟩
    | cons c tail =>
      rw [expandPieces] at hrun
      rw [expanded_joinRest_cons hpiece, referencesFit_joinRest_cons d hpiece]
      cases hdigit : d.isdigit c with
      | false =>
        rw [if_neg (Bool.eq_false_iff.mp hdigit)] at hrun
        obtain ⟨hle, hfit⟩ := hih hrun
        rw [parameter_of_not_isdigit d hdigit]
        simp only [List.length_append, List.length_cons] at hle hfit ⊢
        exact ⟨by omega, fun heq => ⟨⟨c, tail, rfl, .inl hdigit⟩, hfit (by omega)⟩⟩
      | true =>
        rw [if_pos hdigit] at hrun
        cases hint : d.int c with
        | none => rw [hint] at hrun; cases hrun
        | some n =>
          rw [hint] at hrun
          cases hget : getItem (List.replicate k ([] : List Char)) ((n : Int) - 1) with
          | error e =>
            simp only [bind, Except.bind, pure, Except.pure, hget] at hrun
            cases hrun
          | ok param =>
            simp only [bind, Except.bind, pure, Except.pure, hget] at hrun
            obtain ⟨hle, hfit⟩ := hih hrun
            rw [getItem_replicate hget] at hle hfit
            cases hparam : parameter (List.replicate k []) c with
            | none =>
              simp only [List.length_append, List.length_cons, List.length_nil] at hle ⊢
              exact ⟨by omega, by omega⟩
            | some param' =>
              obtain ⟨rfl, hreference⟩ := parameter_replicate hparam
              simp only [List.length_append, List.length_nil] at hle hfit ⊢
              exact ⟨by omega, fun heq => ⟨⟨c, tail, rfl, .inr hreference⟩, hfit (by omega)⟩⟩

/-- The names of all items with this name and this number of parameters are expanded as they should
    be exactly when every reference of the name fits. -/
theorem expand_item_brief_iff {key : List Char} (hkey : '[' ∉ key) {k : Nat} (hk : 0 < k)
    (name : List Char) :
    (∀ params, params.length = k → (∀ param ∈ params, IsPlain param) →
      expand_item_brief d (itemKey key params) name = .ok (expanded params name)) ↔
      ReferencesFit d k name := by
  obtain ⟨first, rest, hsplit, hname, hfirst, hrest⟩ := exists_pieces name
  have hexpanded (params : List (List Char)) :
      expanded params name = first ++ expanded params (joinRest rest) := by
    rw [hname, expanded_append hfirst]
  have hpieces {params : List (List Char)} (hlength : params.length = k)
      (hplain : ∀ param ∈ params, IsPlain param) :
      expand_item_brief d (itemKey key params) name = expandPieces d params rest first := by
    have hne : params ≠ [] := List.length_pos_iff.mp (hlength ▸ hk)
    rw [expand_item_brief, hsplit, keyList_itemKey hkey hne fun param hmem =>
      hplain param hmem ',' (by decide)]
  have hfit : ReferencesFit d k name ↔ ReferencesFit d k (joinRest rest) := by
    rw [hname, referencesFit_append d hfirst]
  rw [hfit]
  constructor
  · intro hall
    have hlength : (List.replicate k ([] : List Char)).length = k := List.length_replicate
    have hplain : ∀ param ∈ List.replicate k ([] : List Char), IsPlain param := by
      intro param hmem c _
      rw [List.eq_of_mem_replicate hmem]
      exact List.not_mem_nil
    have hrun := hall _ hlength hplain
    rw [hpieces hlength hplain, hexpanded] at hrun
    exact (length_expandPieces_le d hrest hrun).2 rfl
  · intro hfit params hlength hplain
    rw [hpieces hlength hplain, hexpanded]
    exact expandPieces_of_fit d hrest (hlength ▸ hfit) first

/-- The digits of ASCII and no others. -/
def asciiDigits : UnicodeDigits where
  isdigit c := c.isDigit
  int c := if c.isDigit then some (c.toNat - '0'.toNat) else none
  isdigit_ascii _ _ := rfl
  int_ascii _ hdigit := if_pos hdigit

theorem expand_item_brief_load :
    expand_item_brief asciiDigits (itemKey ['l', 'o', 'a', 'd'] [['a', 'l', 'l']])
      ['L', 'o', 'a', 'd', ' ', '$', '1'] =
        .ok ['L', 'o', 'a', 'd', ' ', 'a', 'l', 'l'] := by
  have hplain : ∀ param ∈ [['a', 'l', 'l']], IsPlain param := by
    intro param hmem c hc hin
    rw [List.mem_singleton.mp hmem] at hin
    have hplain : [',', '\x22', '[', ']'].all (fun c => !(['a', 'l', 'l'].contains c)) = true := rfl
    have hnot := List.all_eq_true.mp hplain c hc
    rw [List.contains_iff_mem.mpr hin] at hnot
    exact Bool.noConfusion hnot
  have hfit : ReferencesFit asciiDigits 1 (['L', 'o', 'a', 'd', ' '] ++ joinRest [['1']]) :=
    (referencesFit_append asciiDigits (by decide) _).mpr
      ((referencesFit_joinRest_cons asciiDigits (by decide) []).mpr
        ⟨⟨'1', [], rfl, .inr (by decide)⟩, referencesFit_nil asciiDigits 1⟩)
  exact (expand_item_brief_iff asciiDigits (by decide) Nat.one_pos _).mpr hfit _ rfl hplain

/-- A dollar sign at the end is lost, and so is one before another. -/
theorem expand_item_brief_dollars :
    expand_item_brief asciiDigits (itemKey ['c', 'o', 's', 't'] [['a']]) ['1', '0', '$'] =
        .ok ['1', '0'] ∧
      expanded [['a']] ['1', '0', '$'] = ['1', '0', '$'] ∧
      expand_item_brief asciiDigits (itemKey ['c', 'o', 's', 't'] [['a']]) ['$', '$', '1'] =
        .ok ['a'] ∧
      expanded [['a']] ['$', '$', '1'] = ['$', 'a'] ∧
      expand_item_brief asciiDigits (itemKey ['c', 'o', 's', 't'] [['a']]) ['$', '2'] =
        .error .indexError ∧
      expanded [['a']] ['$', '2'] = ['$', '2'] := by
  decide

end Hatohol.ZabbixAPI

import Hatohol.Hapcommon
import Hatohol.Python.Values

/-!
# The biggest value of a key

`get_biggest_num_of_dict_array` on the dictionaries that it is given (hap2/hatohol/hapcommon.py:51-69).
The values of the key are numbers or texts. The first loop has a length for every value until it
finds an `int`, and a `long` has none.
-/

namespace Hatohol.Python

open Time Hapcommon

/-- A value that a dictionary has for the key. The texts are ASCII. -/
inductive DictValue where
  | int (n : Int)
  | long (n : Int)
  | str (cs : List Char)
  | unicode (cs : List Char)
  deriving DecidableEq, Repr

abbrev Dict := List (String × DictValue)

namespace DictValue

def number? : DictValue → Option Int
  | int n | long n => some n
  | _ => none

def text? : DictValue → Option (List Char)
  | str cs | unicode cs => some cs
  | _ => none

/-- `isinstance(value, int)` -/
def isInt : DictValue → Bool
  | int _ => true
  | _ => false

def len (value : DictValue) : Except PyError Nat :=
  match value.text? with
  | some cs => .ok cs.length
  | none => .error .typeError

def zfill (digit : Nat) : DictValue → DictValue
  | str cs => str (str_zfill digit cs)
  | unicode cs => unicode (str_zfill digit cs)
  | value => value

/-- `<` of two values, where every number is smaller than every text. -/
def less (a b : DictValue) : Bool :=
  match a.number?, b.number?, a.text?, b.text? with
  | some m, some n, _, _ => m < n
  | some _, none, _, _ => true
  | none, _, some cs, some ds => cs < ds
  | none, _, _, _ => false

end DictValue

/-- `target_dict[key]` -/
def Dict.getItem (target_dict : Dict) (key : String) : Except PyError DictValue :=
  match target_dict.lookup key with
  | some value => .ok value
  | none => .error .keyError

/-- The first loop. -/
def maxLength (key : String) : List Dict → Nat → Except PyError Nat
  | [], digit => return digit
  | target_dict :: array, digit => do
      let value ← target_dict.getItem key
      if value.isInt then return digit
      let length ← value.len
      maxLength key array (if digit < length then length else digit)

/-- `None` is smaller than everything. -/
def bigger (last_info : Option DictValue) (target_value : DictValue) : Option DictValue :=
  match last_info with
  | none => some target_value
  | some value => if value.less target_value then some target_value else some value

/-- The second loop. -/
def maxValue (key : String) (digit : Nat) :
    List Dict → Option DictValue → Except PyError (Option DictValue)
  | [], last_info => return last_info
  | target_dict :: array, last_info => do
      let value ← target_dict.getItem key
      maxValue key digit array (bigger last_info (value.zfill digit))

def get_biggest_num_of_dict_array (array : List Dict) (key : String) :
    Except PyError (Option DictValue) := do
  let digit ← maxLength key array 0
  maxValue key digit array none

/-! ## The loops -/

variable {key : String} {array : List Dict} {values : List DictValue}

/-- The dictionaries have these values under the key. -/
def HasValues (key : String) (array : List Dict) (values : List DictValue) : Prop :=
  List.Forall₂ (fun target_dict value => target_dict.getItem key = .ok value) array values

theorem maxValue_eq (hvalues : HasValues key array values) (digit : Nat)
    (last_info : Option DictValue) :
    maxValue key digit array last_info =
      .ok ((values.map (DictValue.zfill digit)).foldl bigger last_info) := by
  induction hvalues generalizing last_info with
  | nil => rfl
  | cons hvalue _ ih =>
    rw [maxValue, hvalue]
    exact ih _

/-- The longest of the texts. -/
theorem maxLength_texts (hvalues : HasValues key array values)
    (htexts : ∀ v ∈ values, ∃ cs, v.text? = some cs) (digit : Nat) :
    ∃ digit', maxLength key array digit = .ok digit' ∧ digit ≤ digit' ∧
      ∀ v ∈ values, ∀ cs, v.text? = some cs → cs.length ≤ digit' := by
  induction hvalues generalizing digit with
  | nil => exact ⟨digit, rfl, le_rfl, fun v hv => absurd hv List.not_mem_nil⟩
  | @cons target_dict value array values hvalue _ ih =>
    obtain ⟨cs, hcs⟩ := htexts value List.mem_cons_self
    have hint : value.isInt = false := by cases value <;> first | rfl | cases hcs
    have hlen : value.len = .ok cs.length := by rw [DictValue.len, hcs]
    obtain ⟨digit', hrest, hle, hall⟩ := ih (fun v hv => htexts v (List.mem_cons_of_mem _ hv))
      (if digit < cs.length then cs.length else digit)
    have hmax : digit ≤ digit' ∧ cs.length ≤ digit' := by
      split at hle <;> omega
    refine ⟨digit', ?_, hmax.1, ?_⟩
    · rw [maxLength, hvalue]
      change (if value.isInt = true then _ else _) = _
      rw [hint, if_neg Bool.false_ne_true, hlen]
      exact hrest
    · intro v hv ds hds
      rcases List.mem_cons.mp hv with rfl | hv
      · rw [hcs] at hds
        exact Option.some.inj hds ▸ hmax.2
      · exact hall v hv ds hds

theorem maxLength_int {target_dict : Dict} {n : Int} (hint : target_dict.getItem key = .ok (.int n)) :
    maxLength key (target_dict :: array) 0 = .ok 0 := by
  rw [maxLength, hint]
  rfl

/-- The second loop has the biggest value when `<` compares a measure of the values. -/
theorem foldl_bigger {f : DictValue → Int} {v : DictValue} {vs : List DictValue}
    (hless : ∀ a ∈ v :: vs, ∀ b ∈ v :: vs, a.less b = decide (f a < f b)) :
    ∃ b ∈ v :: vs, vs.foldl bigger (some v) = some b ∧ ∀ u ∈ v :: vs, f u ≤ f b := by
  induction vs generalizing v with
  | nil =>
    refine ⟨v, List.mem_cons_self, rfl, fun u hu => ?_⟩
    rw [List.mem_singleton.mp hu]
  | cons w vs ih =>
    have hfirst := hless v List.mem_cons_self w (List.mem_cons_of_mem _ List.mem_cons_self)
    rw [List.foldl_cons, bigger, hfirst]
    by_cases hlt : f v < f w
    · rw [decide_eq_true hlt, if_pos rfl]
      obtain ⟨b, hb, hfold, hmax⟩ := ih fun a ha b hb =>
        hless a (List.mem_cons_of_mem v ha) b (List.mem_cons_of_mem v hb)
      refine ⟨b, List.mem_cons_of_mem v hb, hfold, fun u hu => ?_⟩
      rcases List.mem_cons.mp hu with rfl | hu
      · exact hlt.le.trans (hmax w List.mem_cons_self)
      · exact hmax u hu
    · rw [decide_eq_false hlt, if_neg Bool.false_ne_true]
      have hsub : v :: vs ⊆ v :: w :: vs := List.cons_subset_cons v (List.subset_cons_self w vs)
      obtain ⟨b, hb, hfold, hmax⟩ := ih fun a ha b hb => hless a (hsub ha) b (hsub hb)
      refine ⟨b, hsub hb, hfold, fun u hu => ?_⟩
      rcases List.mem_cons.mp hu with rfl | hu
      · exact hmax u List.mem_cons_self
      · rcases List.mem_cons.mp hu with rfl | hu
        · exact (not_lt.mp hlt).trans (hmax v List.mem_cons_self)
        · exact hmax u (List.mem_cons_of_mem v hu)

/-! ## Digits -/

/-- A text of decimal digits. -/
def DictValue.IsDigits (v : DictValue) : Prop :=
  ∃ cs, v.text? = some cs ∧ cs ≠ [] ∧ AllDigits cs

/-- The number that the digits of a text spell. -/
def DictValue.spelled (v : DictValue) : Nat := value (v.text?.getD [])

theorem str_zfill_of_allDigits {cs : List Char} (hcs : AllDigits cs) (digit : Nat) :
    str_zfill digit cs = Time.zfill digit cs := by
  unfold str_zfill
  split
  · exact absurd (hcs '+' List.mem_cons_self) (by decide)
  · exact absurd (hcs '-' List.mem_cons_self) (by decide)
  · rfl

theorem text?_zfill {v : DictValue} {cs : List Char} (htext : v.text? = some cs)
    (hcs : AllDigits cs) (digit : Nat) : (v.zfill digit).text? = some (Time.zfill digit cs) := by
  rw [← str_zfill_of_allDigits hcs]
  cases v <;> first | cases htext; rfl | cases htext

theorem spelled_zfill {v : DictValue} (hdigits : v.IsDigits) (digit : Nat) :
    (v.zfill digit).spelled = v.spelled := by
  obtain ⟨cs, htext, -, hcs⟩ := hdigits
  rw [DictValue.spelled, text?_zfill htext hcs, DictValue.spelled, htext]
  exact value_zfill digit cs

/-- Digits that are filled up to one length are compared as numbers. -/
theorem less_zfill {u v : DictValue} {digit : Nat} {cs ds : List Char} (hu : u.text? = some cs)
    (hv : v.text? = some ds) (hcs : AllDigits cs) (hds : AllDigits ds) (hlength : cs.length ≤ digit)
    (hlength' : ds.length ≤ digit) : (u.zfill digit).less (v.zfill digit) =
      decide (((u.zfill digit).spelled : Int) < (v.zfill digit).spelled) := by
  have hnumber {w : DictValue} {es : List Char} (hw : w.text? = some es) : w.number? = none := by
    cases w <;> first | rfl | cases hw
  have hu' := text?_zfill hu hcs digit
  have hv' := text?_zfill hv hds digit
  have hsame : (Time.zfill digit cs).length = (Time.zfill digit ds).length := by
    rw [length_zfill, length_zfill, Nat.max_eq_left hlength, Nat.max_eq_left hlength']
  rw [DictValue.less, hnumber hu', hu', hv', DictValue.spelled, DictValue.spelled, hu', hv']
  refine decide_eq_decide.mpr ((lt_iff_value_lt (allDigits_zfill hcs) (allDigits_zfill hds)
    hsame).trans ?_)
  exact Int.ofNat_lt.symm

theorem biggest_of_digits (hvalues : HasValues key array values) (hne : array ≠ [])
    (hdigits : ∀ v ∈ values, v.IsDigits) :
    ∃ r : DictValue, get_biggest_num_of_dict_array array key = .ok (some r) ∧ r.IsDigits ∧
      (∃ v ∈ values, r.spelled = v.spelled) ∧ ∀ v ∈ values, v.spelled ≤ r.spelled := by
  obtain ⟨digit, hlength, -, hall⟩ := maxLength_texts hvalues
    (fun v hv => (hdigits v hv).imp fun cs hcs => hcs.1) 0
  obtain ⟨v, rest, hcons⟩ : ∃ v rest, values = v :: rest := by
    cases hvalues with
    | nil => exact absurd rfl hne
    | cons => exact ⟨_, _, rfl⟩
  have hless : ∀ a ∈ values.map (DictValue.zfill digit), ∀ b ∈ values.map (DictValue.zfill digit),
      a.less b = decide ((a.spelled : Int) < b.spelled) := by
    intro a ha b hb
    obtain ⟨u, hu, rfl⟩ := List.mem_map.mp ha
    obtain ⟨w, hw, rfl⟩ := List.mem_map.mp hb
    obtain ⟨cs, htext, -, hcs⟩ := hdigits u hu
    obtain ⟨ds, htext', -, hds⟩ := hdigits w hw
    exact less_zfill htext htext' hcs hds (hall u hu cs htext) (hall w hw ds htext')
  rw [hcons, List.map_cons] at hless
  obtain ⟨r, hr, hfold, hmax⟩ := foldl_bigger hless
  rw [← List.map_cons, ← hcons] at hr hmax
  obtain ⟨w, hw, rfl⟩ := List.mem_map.mp hr
  obtain ⟨cs, htext, hcsne, hcs⟩ := hdigits w hw
  refine ⟨w.zfill digit, ?_, ⟨Time.zfill digit cs, text?_zfill htext hcs digit,
    List.append_ne_nil_of_right_ne_nil _ hcsne, allDigits_zfill hcs⟩,
    ⟨w, hw, spelled_zfill (hdigits w hw) digit⟩, fun u hu => ?_⟩
  · rw [get_biggest_num_of_dict_array, hlength]
    change maxValue key digit array none = _
    rw [maxValue_eq hvalues, hcons]
    exact congrArg Except.ok hfold
  · have hle := Int.ofNat_le.mp (hmax _ (List.mem_map_of_mem hu))
    rwa [spelled_zfill (hdigits u hu)] at hle

theorem zfill_number {v : DictValue} {n : Int} (hnumber : v.number? = some n) (digit : Nat) :
    v.zfill digit = v := by
  cases v <;> first | rfl | cases hnumber

theorem biggest_of_numbers {target_dict : Dict} {n : Int}
    (hvalues : HasValues key (target_dict :: array) values)
    (hfirst : target_dict.getItem key = .ok (.int n))
    (hnumbers : ∀ v ∈ values, ∃ m, v.number? = some m) :
    ∃ r ∈ values, get_biggest_num_of_dict_array (target_dict :: array) key = .ok (some r) ∧
      ∀ v ∈ values, v.number?.getD 0 ≤ r.number?.getD 0 := by
  obtain ⟨v, rest, hcons⟩ : ∃ v rest, values = v :: rest := by
    cases hvalues with
    | cons => exact ⟨_, _, rfl⟩
  have hless : ∀ a ∈ values, ∀ b ∈ values,
      a.less b = decide (a.number?.getD 0 < b.number?.getD 0) := by
    intro a ha b hb
    obtain ⟨m, hm⟩ := hnumbers a ha
    obtain ⟨k, hk⟩ := hnumbers b hb
    rw [DictValue.less, hm, hk]
    rfl
  have hfilled : values.map (DictValue.zfill 0) = values := by
    refine List.map_congr_left (fun w hw => ?_) |>.trans (List.map_id values)
    obtain ⟨m, hm⟩ := hnumbers w hw
    exact zfill_number hm 0
  rw [hcons] at hless
  obtain ⟨r, hr, hfold, hmax⟩ := foldl_bigger hless
  rw [← hcons] at hr hmax
  refine ⟨r, hr, ?_, hmax⟩
  rw [get_biggest_num_of_dict_array, maxLength_int hfirst]
  change maxValue key 0 (target_dict :: array) none = _
  rw [maxValue_eq hvalues, hfilled, hcons]
  exact congrArg Except.ok hfold

/-- The last info is the maximum of the digits, or of the integers when the first is an `int`. -/
theorem biggest_is_maximum (key : String) (array : List Dict) (values : List DictValue)
    (hvalues : HasValues key array values) (hne : array ≠ []) :
    ((∀ v ∈ values, v.IsDigits) →
      ∃ r : DictValue, get_biggest_num_of_dict_array array key = .ok (some r) ∧ r.IsDigits ∧
        (∃ v ∈ values, r.spelled = v.spelled) ∧ ∀ v ∈ values, v.spelled ≤ r.spelled) ∧
    ((∀ v ∈ values, ∃ m, v.number? = some m) → (∃ n, values.head? = some (.int n)) →
      ∃ r ∈ values, get_biggest_num_of_dict_array array key = .ok (some r) ∧
        ∀ v ∈ values, v.number?.getD 0 ≤ r.number?.getD 0) := by
  refine ⟨biggest_of_digits hvalues hne, fun hnumbers hfirst => ?_⟩
  obtain ⟨n, hfirst⟩ := hfirst
  cases hvalues with
  | nil => exact absurd rfl hne
  | cons hvalue hrest =>
    obtain rfl := Option.some.inj hfirst
    exact biggest_of_numbers (.cons hvalue hrest) hvalue hnumbers

/-- Digits of different lengths, and numbers of both types. -/
theorem biggest_is_maximum_nine_ten :
    (∃ r : DictValue, get_biggest_num_of_dict_array
        [[("id", .str "9".toList)], [("id", .unicode "010".toList)]] "id" = .ok (some r) ∧
      r.spelled = 10) ∧
    ∃ r : DictValue, get_biggest_num_of_dict_array
        [[("id", .int (-3))], [("id", .long 9223372036854775808)]] "id" = .ok (some r) ∧
      9223372036854775808 ≤ r.number?.getD 0 := by
  constructor
  · obtain ⟨r, hr, -, ⟨v, hv, hsame⟩, hmax⟩ := (biggest_is_maximum "id"
      [[("id", .str "9".toList)], [("id", .unicode "010".toList)]]
      [.str "9".toList, .unicode "010".toList] (.cons rfl (.cons rfl .nil))
      (List.cons_ne_nil _ _)).1 (by
        rw [← List.forall_iff_forall_mem]
        exact ⟨⟨_, rfl, List.cons_ne_nil _ _, List.all_eq_true.mp (by decide)⟩,
          ⟨_, rfl, List.cons_ne_nil _ _, List.all_eq_true.mp (by decide)⟩⟩)
    have hbound : ∀ v ∈ [DictValue.str "9".toList, .unicode "010".toList], v.spelled ≤ 10 := by
      rw [← List.forall_iff_forall_mem]
      exact ⟨by decide +kernel, by decide +kernel⟩
    exact ⟨r, hr, le_antisymm (hsame ▸ hbound v hv)
      (hmax (.unicode "010".toList) (.tail _ (.head _)))⟩
  · obtain ⟨r, -, hr, hmax⟩ := (biggest_is_maximum "id"
      [[("id", .int (-3))], [("id", .long 9223372036854775808)]]
      [.int (-3), .long 9223372036854775808] (.cons rfl (.cons rfl .nil))
      (List.cons_ne_nil _ _)).2 (by
        rw [← List.forall_iff_forall_mem]
        exact ⟨⟨_, rfl⟩, ⟨_, rfl⟩⟩) ⟨-3, rfl⟩
    exact ⟨r, hr, hmax (.long 9223372036854775808) (by decide)⟩

/-- A `long` has no length. -/
theorem not_biggest_is_maximum_long :
    get_biggest_num_of_dict_array [[("id", .long 9223372036854775808)], [("id", .int 5)]] "id" =
      .error .typeError := rfl

/-! ## Texts alone -/

theorem maxLength_eq_longer {texts : List (List Char)}
    (hvalues : HasValues key array (texts.map .str)) (digit : Nat) :
    maxLength key array digit = .ok (texts.foldl longer digit) := by
  induction texts generalizing array digit with
  | nil =>
    cases hvalues
    rfl
  | cons cs texts ih =>
    cases hvalues with
    | cons hvalue hrest =>
      rw [maxLength, hvalue]
      exact ih hrest _

theorem foldl_bigger_str (texts : List (List Char)) (last_info : Option (List Char)) :
    (texts.map DictValue.str).foldl bigger (last_info.map .str) =
      (texts.foldl biggerOf last_info).map .str := by
  induction texts generalizing last_info with
  | nil => rfl
  | cons cs texts ih =>
    have hstep : bigger (last_info.map .str) (.str cs) = (biggerOf last_info cs).map .str := by
      cases last_info with
      | none => rfl
      | some ds =>
        rw [biggerOf, apply_ite (Option.map DictValue.str)]
        change (if decide (ds < cs) = true then _ else _) = _
        simp only [decide_eq_true_eq]
        rfl
    rw [List.map_cons, List.foldl_cons, List.foldl_cons, hstep]
    exact ih _

/-- What the plugins that only have texts get. -/
theorem biggest_of_texts {texts : List (List Char)}
    (hvalues : HasValues key array (texts.map .str)) :
    get_biggest_num_of_dict_array array key =
      .ok ((Hapcommon.get_biggest_num_of_dict_array texts).map .str) := by
  rw [get_biggest_num_of_dict_array, maxLength_eq_longer hvalues]
  change maxValue key (texts.foldl longer 0) array none = _
  rw [maxValue_eq hvalues, List.map_map]
  have hfold := foldl_bigger_str (texts.map (str_zfill (texts.foldl longer 0))) none
  rw [List.map_map] at hfold
  exact congrArg Except.ok hfold

end Hatohol.Python

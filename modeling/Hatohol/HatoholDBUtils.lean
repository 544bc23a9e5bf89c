import Hatohol.ZabbixAPI
import Mathlib.Data.List.TakeWhile

/-!
# Briefs of items

The server puts the parameters of a key into the name of an item too
(server/src/HatoholDBUtils.cc:212-297). It goes over the name once, and keeps each dollar sign that
no digit from 1 to 9 follows.
-/

namespace Hatohol

namespace StringUtils

/-- The words of the loop. `word` are the characters since `currWordHead`. -/
def splitTemplate (separator : Char) (doMerge : Bool) : List Char → List Char → List (List Char)
  | word, [] => if word ≠ [] ∨ !doMerge then [word] else []
  | word, c :: rest =>
    if c ≠ separator then splitTemplate separator doMerge (word ++ [c]) rest
    else
      (if word ≠ [] ∨ !doMerge then [word] else []) ++ splitTemplate separator doMerge [] rest

/-- The loop ends at a NUL (server/mlpl/src/StringUtils.cc:36-56). -/
def split (target : List Char) (separator : Char) (doMerge : Bool) : List (List Char) :=
  splitTemplate separator doMerge [] (target.takeWhile (· ≠ '\x00'))

theorem splitOn_append_cons {separator : Char} {word : List Char} (hword : separator ∉ word)
    (rest : List Char) :
    (word ++ separator :: rest).splitOn separator = word :: rest.splitOn separator := by
  induction word with
  | nil => rw [List.nil_append, List.splitOn_cons_eq_if_modifyHead, if_pos (beq_self_eq_true _)]
  | cons c word ih =>
    rw [List.mem_cons, not_or] at hword
    rw [List.cons_append, List.splitOn_cons_eq_if_modifyHead, ih hword.2, if_neg]
    · rfl
    · rw [beq_iff_eq]
      exact fun heq => hword.1 heq.symm

theorem splitOn_of_notMem {separator : Char} {word : List Char} (hword : separator ∉ word) :
    word.splitOn separator = [word] := by
  induction word with
  | nil => exact List.splitOn_nil _
  | cons c word ih =>
    rw [List.mem_cons, not_or] at hword
    rw [List.splitOn_cons_eq_if_modifyHead, ih hword.2, if_neg]
    · rfl
    · rw [beq_iff_eq]
      exact fun heq => hword.1 heq.symm

/-- The loop cuts at every separator, and drops the empty words if it is to merge. -/
theorem splitTemplate_eq (separator : Char) (doMerge : Bool) :
    ∀ (rest word : List Char), separator ∉ word →
      splitTemplate separator doMerge word rest =
        ((word ++ rest).splitOn separator).filter fun w => w ≠ [] ∨ !doMerge := by
  intro rest
  induction rest with
  | nil =>
    intro word hword
    rw [List.append_nil, splitOn_of_notMem hword, splitTemplate, List.filter_cons, List.filter_nil]
    simp only [decide_eq_true_eq]
  | cons c rest ih =>
    intro word hword
    rw [splitTemplate]
    by_cases hc : c = separator
    · subst hc
      rw [if_neg (not_not_intro rfl), ih [] List.not_mem_nil, splitOn_append_cons hword,
        List.filter_cons, List.nil_append]
      simp only [decide_eq_true_eq]
      split <;> rfl
    · have hnot : separator ∉ word ++ [c] := by
        rw [List.mem_append, List.mem_singleton, not_or]
        exact ⟨hword, fun heq => hc heq.symm⟩
      rw [if_pos hc, ih (word ++ [c]) hnot, List.append_assoc, List.singleton_append]

theorem split_eq_splitOn {target : List Char} (hnul : '\x00' ∉ target) (separator : Char) :
    split target separator false = target.splitOn separator := by
  have hall : target.takeWhile (· ≠ '\x00') = target := by
    rw [List.takeWhile_eq_self_iff]
    intro c hc
    rw [decide_eq_true_eq]
    exact fun heq => hnul (heq ▸ hc)
  rw [split, hall, splitTemplate_eq separator false target [] List.not_mem_nil, List.nil_append,
    List.filter_eq_self]
  intro w _
  simp

end StringUtils

namespace HatoholDBUtils

open ZabbixAPI

/-! ## What the server does -/

/-- A word, or the index of a variable. -/
inductive BriefElem where
  | word (word : List Char)
  | variable (variableIndex : Nat)
  deriving DecidableEq, Repr

def wordElem (word : List Char) : List BriefElem := if word = [] then [] else [.word word]

/-- The loop over the name. `word` are the characters from `tail` to `i`. -/
def briefElems : List Char → List Char → List BriefElem
  | word, [] => wordElem word
  | word, [c] => wordElem (word ++ [c])
  | word, c :: c' :: rest =>
    if c = '$' ∧ '1' ≤ c' ∧ c' ≤ '9' then
      wordElem word ++ .variable (c'.toNat - '0'.toNat) :: briefElems [] rest
    else briefElems (word ++ [c]) (c' :: rest)

def extractItemKeys (key : List Char) : List (List Char) :=
  match key.findIdx? (· == '[') with
  | none => []
  | some pos =>
    if key.getLast? ≠ some ']' then []
    else
      let paramString := (key.drop (pos + 1)).take (key.length - pos - 2)
      if paramString = [] then [[]] else StringUtils.split paramString ',' false

def briefText (params : List (List Char)) : BriefElem → List Char
  | .word word => word
  | .variable variableIndex => params[variableIndex - 1]?.getD "<INTERNAL ERROR>".toList

def makeItemBrief (name itemKey : List Char) : List Char :=
  (briefElems [] name).flatMap (briefText (extractItemKeys itemKey))

/-! ## The parameters -/

theorem notMem_intercalate {c separator : Char} (hne : c ≠ separator) {params : List (List Char)}
    (hparams : ∀ param ∈ params, c ∉ param) : c ∉ [separator].intercalate params := by
  induction params with
  | nil => exact List.not_mem_nil
  | cons param params ih =>
    have hparam := hparams param List.mem_cons_self
    have hrest := ih fun param hmem => hparams param (List.mem_cons_of_mem _ hmem)
    cases params with
    | nil => rwa [List.intercalate_singleton]
    | cons next params =>
      rw [List.intercalate_cons_cons, List.mem_append, List.mem_append, List.mem_singleton]
      tauto

theorem extractItemKeys_itemKey {key : List Char} (hkey : '[' ∉ key) {params : List (List Char)}
    (hne : params ≠ []) (hparams : ∀ param ∈ params, ',' ∉ param ∧ '\x00' ∉ param) :
    extractItemKeys (itemKey key params) = params := by
  have hidx : (itemKey key params).findIdx? (· == '[') = some key.length := by
    rw [itemKey, List.append_assoc]
    exact findIdx?_bracket hkey _
  have hlast : (itemKey key params).getLast? = some ']' := List.getLast?_concat
  have hparam : ((itemKey key params).drop (key.length + 1)).take
      ((itemKey key params).length - key.length - 2) = [','].intercalate params := by
    have hdrop : (itemKey key params).drop (key.length + 1) = [','].intercalate params ++ [']'] := by
      rw [itemKey, List.append_assoc, List.cons_append, List.append_cons,
        List.drop_left' (by rw [List.length_append]; rfl)]
    have hlength : (itemKey key params).length - key.length - 2 =
        ([','].intercalate params).length := by
      simp only [itemKey, List.length_append, List.length_cons, List.length_nil]
      omega
    rw [hdrop, hlength, List.take_left]
  rw [extractItemKeys, hidx]
  simp only [hlast, ne_eq, not_true_eq_false, if_false, hparam]
  split
  next hnil =>
    have hsplit := List.splitOn_intercalate ',' (fun param hparam => (hparams param hparam).1) hne
    rw [hnil, List.splitOn_nil] at hsplit
    exact hsplit
  next =>
    rw [StringUtils.split_eq_splitOn
        (notMem_intercalate (by decide) fun param hparam => (hparams param hparam).2),
      List.splitOn_intercalate ',' (fun param hparam => (hparams param hparam).1) hne]

/-! ## The names -/

/-- The name with the text that the server puts in for each reference. -/
def substituted (params : List (List Char)) : List Char → List Char
  | [] => []
  | [c] => [c]
  | c :: c' :: rest =>
    if c = '$' ∧ '1' ≤ c' ∧ c' ≤ '9' then
      briefText params (.variable (c'.toNat - '0'.toNat)) ++ substituted params rest
    else c :: substituted params (c' :: rest)

theorem flatMap_wordElem (params : List (List Char)) (word : List Char) :
    (wordElem word).flatMap (briefText params) = word := by
  rw [wordElem]
  split
  next hnil => rw [hnil, List.flatMap_nil]
  next => rw [List.flatMap_singleton, briefText]

theorem flatMap_briefElems (params : List (List Char)) (word name : List Char) :
    (briefElems word name).flatMap (briefText params) = word ++ substituted params name := by
  induction word, name using briefElems.induct with
  | case1 word => rw [briefElems, flatMap_wordElem, substituted, List.append_nil]
  | case2 word c => rw [briefElems, flatMap_wordElem, substituted]
  | case3 word c c' rest hreference ih =>
    rw [briefElems, if_pos hreference, List.flatMap_append, flatMap_wordElem, List.flatMap_cons, ih,
      List.nil_append, substituted, if_pos hreference]
  | case4 word c c' rest hnot ih =>
    rw [briefElems, if_neg hnot, ih, substituted, if_neg hnot, List.append_assoc,
      List.singleton_append]

/-- Every reference is to a parameter that is there. -/
def ReferencesWithin (k : Nat) (name : List Char) : Prop :=
  ∀ c rest, '$' :: c :: rest <:+ name → '1' ≤ c → c ≤ '9' → c.toNat - '0'.toNat ≤ k

theorem referencesWithin_cons_cons (k : Nat) (c c' : Char) (rest : List Char) :
    ReferencesWithin k (c :: c' :: rest) ↔
      (c = '$' → '1' ≤ c' → c' ≤ '9' → c'.toNat - '0'.toNat ≤ k) ∧
        ReferencesWithin k (c' :: rest) := by
  constructor
  · intro hwithin
    refine ⟨fun hc => ?_,
      fun c'' rest' hsuffix => hwithin c'' rest' (hsuffix.trans (List.suffix_cons _ _))⟩
    subst hc
    exact hwithin c' rest (List.suffix_refl _)
  · rintro ⟨hfirst, hrest⟩ c'' rest' hsuffix
    rcases List.suffix_cons_iff.mp hsuffix with heq | hsuffix
    · obtain ⟨rfl, hcons⟩ := List.cons.inj heq
      obtain ⟨rfl, -⟩ := List.cons.inj hcons
      exact hfirst rfl
    · exact hrest c'' rest' hsuffix

theorem referencesWithin_short (k : Nat) {name : List Char} (hlength : name.length ≤ 1) :
    ReferencesWithin k name := by
  intro c rest hsuffix
  have hle := hsuffix.length_le
  simp only [List.length_cons] at hle
  omega

theorem referencesWithin_cons_of_ne (k : Nat) {c : Char} (hc : c ≠ '$') (rest : List Char) :
    ReferencesWithin k (c :: rest) ↔ ReferencesWithin k rest := by
  cases rest with
  | nil =>
    exact ⟨fun _ => referencesWithin_short k (Nat.zero_le _),
      fun _ => referencesWithin_short k (Nat.le_refl _)⟩
  | cons c' rest => rw [referencesWithin_cons_cons, and_iff_right fun heq => absurd heq hc]

/-- The text for a reference to nothing is longer than the reference. -/
theorem substituted_eq_iff (params : List (List Char)) (name : List Char) :
    (expanded params name).length ≤ (substituted params name).length ∧
      (substituted params name = expanded params name ↔ ReferencesWithin params.length name) := by
  induction name using substituted.induct with
  | case1 => exact ⟨Nat.le_refl _, fun _ => referencesWithin_short _ (Nat.zero_le _), fun _ => rfl⟩
  | case2 c => exact ⟨Nat.le_refl _, fun _ => referencesWithin_short _ (Nat.le_refl _), fun _ => rfl⟩
  | case3 c c' rest hreference ih =>
    obtain ⟨rfl, hlow, hhigh⟩ := hreference
    obtain ⟨hle, heq⟩ := ih
    obtain ⟨hone, hmin, hmax⟩ := toNat_of_isReference hlow hhigh
    have hdollar : c' ≠ '$' := by
      rintro rfl
      exact absurd hlow (by decide)
    rw [substituted, if_pos ⟨rfl, hlow, hhigh⟩, referencesWithin_cons_cons,
      referencesWithin_cons_of_ne _ hdollar, ← heq]
    by_cases hidx : c'.toNat - '1'.toNat < params.length
    · have hparam : parameter params c' = some params[c'.toNat - '1'.toNat] := by
        rw [parameter, if_pos ⟨hlow, hhigh⟩, List.getElem?_eq_getElem hidx]
      have hindex : c'.toNat - '0'.toNat - 1 = c'.toNat - '1'.toNat := by omega
      have htext : briefText params (.variable (c'.toNat - '0'.toNat)) =
          params[c'.toNat - '1'.toNat] := by
        rw [briefText, hindex, List.getElem?_eq_getElem hidx, Option.getD_some]
      rw [htext, expanded, if_pos rfl, hparam]
      dsimp only
      rw [List.length_append, List.length_append, List.append_cancel_left_eq]
      exact ⟨by omega, fun hsame => ⟨fun _ _ _ => by omega, hsame⟩, fun h => h.2⟩
    · have hparam : parameter params c' = none := by
        rw [parameter, if_pos ⟨hlow, hhigh⟩, List.getElem?_eq_none (by omega)]
      have htext : briefText params (.variable (c'.toNat - '0'.toNat)) =
          "<INTERNAL ERROR>".toList := by
        rw [briefText, List.getElem?_eq_none (by omega), Option.getD_none]
      have hlong : "<INTERNAL ERROR>".toList.length = 16 := rfl
      rw [htext, expanded, if_pos rfl, hparam]
      dsimp only
      rw [expanded_cons_of_ne hdollar]
      simp only [List.length_append, List.length_cons, hlong]
      refine ⟨by omega, fun hsame => ?_, fun h => ?_⟩
      · have hlengths := congrArg List.length hsame
        simp only [List.length_append, List.length_cons, hlong] at hlengths
        omega
      · have hwithin := h.1 trivial hlow hhigh
        omega
  | case4 c c' rest hnot ih =>
    obtain ⟨hle, heq⟩ := ih
    have hkept : expanded params (c :: c' :: rest) = c :: expanded params (c' :: rest) := by
      rw [expanded]
      split
      next hc => rw [parameter, if_neg fun hdigit => hnot ⟨hc, hdigit⟩]
      next => rfl
    have hfirst : c = '$' → '1' ≤ c' → c' ≤ '9' → c'.toNat - '0'.toNat ≤ params.length :=
      fun hc hlow hhigh => absurd ⟨hc, hlow, hhigh⟩ hnot
    rw [substituted, if_neg hnot, hkept, referencesWithin_cons_cons, and_iff_right hfirst,
      List.cons.injEq, and_iff_right rfl, List.length_cons, List.length_cons]
    exact ⟨Nat.succ_le_succ hle, heq⟩

theorem referencesWithin_of_fit {d : UnicodeDigits} {k : Nat} {name : List Char}
    (hfit : ReferencesFit d k name) : ReferencesWithin k name := by
  intro c rest hsuffix hlow hhigh
  obtain ⟨c', rest', heq, -, hdigit⟩ := hfit (c :: rest) hsuffix
  obtain ⟨rfl, -⟩ := List.cons.inj heq
  rcases hdigit with hdigit | ⟨-, -, hle⟩
  · rw [(int_of_isReference d hlow hhigh).1] at hdigit
    cases hdigit
  · exact hle

/-- A reference to nothing. -/
example : makeItemBrief ['$', '2', ' ', '$'] (itemKey ['k'] [['a']]) =
    "<INTERNAL ERROR> $".toList := rfl

end HatoholDBUtils

end Hatohol

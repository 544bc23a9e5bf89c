import Hatohol.DBTablesItems
import Mathlib.Data.List.Perm.Basic
import Mathlib.Data.List.Count

/-!
# The categories of an item

What the table of categories holds for an item after `calcDelta`: a name that is stored once or not
at all ends up as often as it comes in, and a name that is stored twice does not, since the map of
the stored categories has one entry for a name.
-/

namespace Hatohol

open Sql DBTermCodec Table

/-- How often a name is stored after the difference of the stored names and the incoming ones. -/
def deltaCount (stored incoming : List CString) (name : CString) : Nat :=
  (stored.count name - if name ∈ incoming then 0 else 1) +
    (incoming.count name - if name ∈ stored then 1 else 0)

namespace ItemCategories

variable (categories : ItemCategories)

theorem getItemCategoriesFromId_eq (globalItemId : Nat) :
    categories.getItemCategoriesFromId globalItemId =
      categories.rows.filter fun category => category.globalItemId == globalItemId := by
  apply List.filter_congr
  intro category _
  have hvalue : category.value "global_item_id" = .int category.globalItemId := rfl
  rw [selects_eq_int (by decide), hvalue, Bool.eq_iff_iff]
  simp

theorem rows_foldl_deleteItemCategory (ids : List Nat) :
    (ids.foldl deleteItemCategory categories).rows =
      categories.rows.filter fun category => decide (category.id ∉ ids) := by
  induction ids generalizing categories with
  | nil => simp
  | cons id ids ih =>
    rw [List.foldl_cons, ih]
    simp only [deleteItemCategory, Counted.keep, List.filter_filter]
    apply List.filter_congr
    intro category _
    have hvalue : category.value "id" = .int category.id := rfl
    rw [selects_eq_int (by decide), hvalue, Bool.eq_iff_iff]
    simp [and_comm]

theorem names_addItemCategory (globalItemId : Nat) (name : CString) (n : Nat) :
    (addItemCategory globalItemId categories name).names n =
      categories.names n ++ if n = globalItemId then [name] else [] := by
  simp only [names, addItemCategory, Counted.append, List.filter_append, List.map_append]
  congr 1
  by_cases hn : n = globalItemId
  · simp [hn]
  · simp [hn, Ne.symm hn]

theorem names_foldl_addItemCategory (globalItemId : Nat) (news : List CString) (n : Nat) :
    (news.foldl (addItemCategory globalItemId) categories).names n =
      categories.names n ++ if n = globalItemId then news else [] := by
  induction news generalizing categories with
  | nil => simp
  | cons name news ih =>
    rw [List.foldl_cons, ih, names_addItemCategory, List.append_assoc]
    by_cases hn : n = globalItemId
    · simp [hn]
    · simp [hn]

theorem names_store (globalItemId : Nat) (news : List CString) (ids : List Nat) (n : Nat) :
    (categories.store globalItemId news ids).names n =
      ((categories.rows.filter fun category => category.globalItemId == n).filter
        fun category => decide (category.id ∉ ids)).map ItemCategory.name ++
        if n = globalItemId then news else [] := by
  rw [store, names_foldl_addItemCategory, names, rows_foldl_deleteItemCategory, List.filter_comm]

/-! ## The difference -/

section Loop

variable (names : List CString) (categoriesMap : Std.TreeMap CString ItemCategory) (name : CString)

/-- A name that is stored is added once less than it comes in. -/
theorem count_calcDeltaLoop :
    (calcDeltaLoop names categoriesMap).1.count name =
      names.count name - if (categoriesMap[name]?).isSome then 1 else 0 := by
  induction names generalizing categoriesMap with
  | nil => simp [calcDeltaLoop]
  | cons x xs ih =>
    unfold calcDeltaLoop
    split
    · rename_i hnone
      rw [List.count_cons, List.count_cons, ih]
      by_cases hx : x = name
      · subst hx
        simp [hnone]
      · simp [hx]
    · rename_i category hsome
      rw [List.count_cons, ih, Std.TreeMap.getElem?_erase]
      by_cases hx : x = name
      · subst hx
        simp [hsome]
      · simp [hx]

/-- What is left of the map are the names that do not come in. -/
theorem left_calcDeltaLoop :
    (calcDeltaLoop names categoriesMap).2[name]? =
      if name ∈ names then none else categoriesMap[name]? := by
  induction names generalizing categoriesMap with
  | nil => simp [calcDeltaLoop]
  | cons x xs ih =>
    unfold calcDeltaLoop
    split
    · rename_i hnone
      rw [ih]
      by_cases hx : name = x
      · subst hx
        simp [hnone]
      · simp [hx]
    · rw [ih, Std.TreeMap.getElem?_erase]
      by_cases hx : name = x
      · simp [hx]
      · simp [hx, Ne.symm hx]

end Loop

/-- Of several categories with a name the first is in the map. -/
theorem getElem?_foldl_insertIfNew (currCategories : List ItemCategory)
    (categoriesMap : Std.TreeMap CString ItemCategory) (name : CString) :
    (currCategories.foldl
      (fun categoriesMap category => categoriesMap.insertIfNew category.name category)
        categoriesMap)[name]? =
      categoriesMap[name]?.or (lookup ItemCategory.name currCategories name) := by
  induction currCategories generalizing categoriesMap with
  | nil => simp [lookup]
  | cons category currCategories ih =>
    rw [List.foldl_cons, ih, Std.TreeMap.getElem?_insertIfNew]
    by_cases hname : category.name = name
    · subst hname
      cases hmap : categoriesMap[category.name]? with
      | none =>
        have hmem : category.name ∉ categoriesMap := by
          rw [Std.TreeMap.mem_iff_isSome_getElem?, hmap]
          simp
        simp [hmem, lookup]
      | some old =>
        have hmem : category.name ∈ categoriesMap := by
          rw [Std.TreeMap.mem_iff_isSome_getElem?, hmap]
          simp
        simp [hmem]
    · simp [hname, lookup]

section Delta

variable {currCategories : List ItemCategory} (names : List CString)

theorem count_calcDelta_fst (name : CString) :
    (calcDelta currCategories names).1.count name =
      names.count name - if (lookup ItemCategory.name currCategories name).isSome then 1 else 0 :=
        by
  have hcount := count_calcDeltaLoop names (currCategories.foldl
    (fun categoriesMap category => categoriesMap.insertIfNew category.name category) ∅) name
  rw [getElem?_foldl_insertIfNew] at hcount
  simp only [Std.TreeMap.getElem?_emptyc, Option.none_or] at hcount
  exact hcount

theorem mem_calcDelta_snd {id : Nat} :
    id ∈ (calcDelta currCategories names).2 ↔ ∃ category ∈ currCategories, category.id = id ∧
      category.name ∉ names ∧
      lookup ItemCategory.name currCategories category.name = some category := by
  have hleft (name : CString) : (calcDeltaLoop names (currCategories.foldl
      (fun categoriesMap category => categoriesMap.insertIfNew category.name category) ∅)).2[name]? =
      if name ∈ names then none else lookup ItemCategory.name currCategories name := by
    rw [left_calcDeltaLoop, getElem?_foldl_insertIfNew]
    simp
  have hmem : id ∈ (calcDelta currCategories names).2 ↔ ∃ category, (∃ name : CString,
      (if name ∈ names then none else lookup ItemCategory.name currCategories name) =
        some category) ∧
      category.id = id := by
    simp only [← hleft, ← mem_values]
    exact List.mem_map
  rw [hmem]
  constructor
  · rintro ⟨category, ⟨name, hname⟩, hid⟩
    split at hname
    · simp at hname
    · rename_i hnot
      obtain rfl : category.name = name := key_of_lookup hname
      exact ⟨category, mem_of_lookup hname, hid, hnot, hname⟩
  · rintro ⟨category, -, hid, hnot, hfirst⟩
    exact ⟨category, ⟨category.name, by rw [if_neg hnot, hfirst]⟩, hid⟩

variable (hunique : (currCategories.map ItemCategory.id).Nodup)

include hunique

theorem id_mem_calcDelta_snd {category : ItemCategory} (hcategory : category ∈ currCategories) :
    category.id ∈ (calcDelta currCategories names).2 ↔ category.name ∉ names ∧
      lookup ItemCategory.name currCategories category.name = some category := by
  rw [mem_calcDelta_snd]
  constructor
  · rintro ⟨other, hother, hid, hdeleted⟩
    obtain rfl : other = category := List.inj_on_of_nodup_map hunique hother hcategory hid
    exact hdeleted
  · intro hdeleted
    exact ⟨category, hcategory, rfl, hdeleted⟩

/-- One category is deleted of each name that does not come in. -/
theorem count_undeleted (name : CString) :
    ((currCategories.filter fun category => decide (category.id ∉
      (calcDelta currCategories names).2)).map ItemCategory.name).count name =
        (currCategories.map ItemCategory.name).count name - if name ∈ names then 0 else 1 := by
  simp only [List.count, List.countP_map, List.countP_filter]
  by_cases hname : name ∈ names
  · rw [if_pos hname, Nat.sub_zero]
    apply List.countP_congr
    intro category hcategory
    simp only [Bool.and_eq_true, decide_eq_true_eq, Function.comp_apply, beq_iff_eq]
    rw [id_mem_calcDelta_snd names hunique hcategory]
    constructor
    · exact fun h => h.1
    · rintro rfl
      exact ⟨rfl, fun h => h.1 hname⟩
  · rw [if_neg hname]
    refine Eq.trans (List.countP_congr ?_)
      (countP_not_lookup (List.Nodup.of_map _ hunique) ItemCategory.name name)
    intro category hcategory
    simp only [Bool.and_eq_true, decide_eq_true_eq, Function.comp_apply, beq_iff_eq]
    rw [id_mem_calcDelta_snd names hunique hcategory]
    constructor
    · rintro ⟨rfl, h⟩
      exact ⟨rfl, fun hfirst => h ⟨hname, hfirst⟩⟩
    · rintro ⟨rfl, h⟩
      exact ⟨rfl, fun hdeleted => h hdeleted.2⟩

theorem count_calcDelta (name : CString) :
    (((currCategories.filter fun category => decide (category.id ∉
      (calcDelta currCategories names).2)).map ItemCategory.name) ++
        (calcDelta currCategories names).1).count name =
      deltaCount (currCategories.map ItemCategory.name) names name := by
  have hstored : (lookup ItemCategory.name currCategories name).isSome ↔
      name ∈ currCategories.map ItemCategory.name := by
    rw [← not_iff_not, Bool.not_eq_true, Option.isSome_eq_false_iff, Option.isNone_iff_eq_none,
      lookup_eq_none]
    simp
  rw [List.count_append, count_undeleted names hunique, count_calcDelta_fst, deltaCount]
  simp only [hstored]

end Delta

/-- The categories of an item after `calcDelta`. -/
theorem count_names_store (globalItemId : Nat) (latest : List CString) (name : CString) :
    ((categories.store globalItemId
      (calcDelta (categories.getItemCategoriesFromId globalItemId) latest).1
      (calcDelta (categories.getItemCategoriesFromId globalItemId) latest).2).names
        globalItemId).count name =
      deltaCount (categories.names globalItemId) latest name := by
  rw [names_store, if_pos rfl, getItemCategoriesFromId_eq]
  exact count_calcDelta latest (categories.unique_id.sublist (List.filter_sublist.map _)) name

/-- The categories of the other items stay. -/
theorem names_store_of_ne {globalItemId n : Nat} (hn : n ≠ globalItemId) (latest : List CString) :
    (categories.store globalItemId
      (calcDelta (categories.getItemCategoriesFromId globalItemId) latest).1
      (calcDelta (categories.getItemCategoriesFromId globalItemId) latest).2).names n =
      categories.names n := by
  rw [names_store, if_neg hn, List.append_nil, names, List.filter_eq_self.mpr]
  intro category hcategory
  rw [List.mem_filter] at hcategory
  rw [decide_eq_true_eq, mem_calcDelta_snd]
  rintro ⟨other, hother, hid, -⟩
  rw [getItemCategoriesFromId_eq, List.mem_filter] at hother
  obtain rfl := categories.eq_of_id hother.1 hcategory.1 hid
  exact hn ((beq_iff_eq.mp hcategory.2).symm.trans (beq_iff_eq.mp hother.2))

/-- The categories of an item that is new. -/
theorem names_store_nil (globalItemId : Nat) (news : List CString) (n : Nat) :
    (categories.store globalItemId news []).names n =
      categories.names n ++ if n = globalItemId then news else [] := by
  rw [names_store]
  simp [names]

end ItemCategories

/-! ## The names after the difference -/

section DeltaCount

variable {stored incoming result : List CString}
  (hresult : ∀ name, result.count name = deltaCount stored incoming name)

include hresult

/-- The names are brought up to date exactly when none was stored twice. -/
theorem perm_iff_of_deltaCount : result.Perm incoming ↔ stored.Nodup := by
  rw [List.perm_iff_count, List.nodup_iff_count_le_one]
  apply forall_congr'
  intro name
  have hstored : name ∈ stored ↔ 0 < stored.count name := List.count_pos_iff.symm
  have hincoming : name ∈ incoming ↔ 0 < incoming.count name := List.count_pos_iff.symm
  rw [hresult, deltaCount]
  simp only [hstored, hincoming]
  split <;> split <;> omega

/-- Nothing is left that does not come in exactly when every name that was stored twice does. -/
theorem subset_iff_of_deltaCount :
    (∀ name ∈ result, name ∈ incoming) ↔ ∀ name, 1 < stored.count name → name ∈ incoming := by
  apply forall_congr'
  intro name
  by_cases hincoming : name ∈ incoming
  · simp [hincoming]
  · have hzero : incoming.count name = 0 := List.count_eq_zero_of_not_mem hincoming
    rw [← List.count_pos_iff, hresult, deltaCount, if_neg hincoming, hzero]
    simp only [hincoming, imp_false]
    omega

end DeltaCount

end Hatohol

import Mathlib.Data.List.TakeWhile
import Hatohol.RestResourceUtils

/-!
# Filters for hosts in a request

What `parseHostsFilter` makes of the parameters of a request, whatever the order in which their hash
table is walked: the entries of the filters are the groups of parameters of one index.
-/

namespace Hatohol.RestResourceUtils

open Container StringUtils Time

/-- `selectType[index][idType]` -/
def filterKey (selectType : String) (index : List Char) (idType : IdType) : String :=
  String.ofList ((selectType ++ "[").toList ++ index ++ ("][" ++ idType.name ++ "]").toList)

/-- The parameter is kept by `parseId`. -/
def Accepted (index : List Char) (idType : IdType) (value : CString) : Prop :=
  index ≠ [] ∧ isNumber index ∧ (idType = .serverId → isNumber value.text.toList)

instance (index : List Char) (idType : IdType) (value : CString) :
    Decidable (Accepted index idType value) :=
  inferInstanceAs (Decidable (_ ∧ _ ∧ _))

/-- The error of `parseId` for such a key. -/
def refusal (key : String) (index : List Char) (idType : IdType) (value : CString) :
    Option String :=
  if index.isEmpty then
    some ("An index for a host filter is missing!: " ++ key ++ "=" ++ value.text)
  else if !isNumber index then
    some ("An index for a host filter isn't numeric!: " ++ String.ofList index)
  else if idType = .serverId ∧ !isNumber value.text.toList then
    some ("A serverId for a host filter isn't numeric!: " ++ value.text)
  else none

theorem refusal_eq_none_iff {key : String} {index : List Char} {idType : IdType} {value : CString} :
    refusal key index idType value = none ↔ Accepted index idType value := by
  unfold refusal Accepted
  split_ifs with hempty hnumber hvalue
  all_goals simp_all

/-- `hostsMap[index][idType] = value` -/
def store (map : StringMap) (index : List Char) (idType : IdType) (value : CString) : StringMap :=
  map.set (String.ofList index)
    (((map.find? (String.ofList index)).getD .empty).set idType value)

/-! ## Keys -/

theorem parseId_of_key (selectType : String) (index : List Char) (idType : IdType)
    (acc : StringMap × Errors) (value : CString) :
    parseId selectType idType acc (filterKey selectType index idType) value =
      match refusal (filterKey selectType index idType) index idType value with
      | some error => (acc.1, acc.2 ++ [error])
      | none => (store acc.1 index idType value, acc.2) := by
  have hstarts : (selectType ++ "[").toList.isPrefixOf
      (filterKey selectType index idType).toList = true := by
    rw [filterKey, String.toList_ofList, List.append_assoc, List.isPrefixOf_iff_prefix]
    exact List.prefix_append _ _
  have hsuffix : ("][" ++ idType.name ++ "]").toList.isSuffixOf
      (filterKey selectType index idType).toList = true := by
    rw [filterKey, String.toList_ofList, List.isSuffixOf_iff_suffix]
    exact List.suffix_append _ _
  have hindex : ((filterKey selectType index idType).toList.drop
      (selectType ++ "[").toList.length).take
      ((filterKey selectType index idType).toList.length - (selectType ++ "[").toList.length -
        ("][" ++ idType.name ++ "]").toList.length) = index := by
    rw [filterKey, String.toList_ofList, List.append_assoc, List.drop_left, List.length_append,
      List.length_append, Nat.add_sub_cancel_left, Nat.add_sub_cancel, List.take_left]
  simp only [parseId, hstarts, hsuffix, hindex, Bool.not_true, Bool.false_eq_true, if_false, refusal]
  split_ifs <;> rfl

/-- The prefix and the suffix of a key do not overlap. -/
theorem key_of_prefix_suffix {selectType : String} (hbracket : ']' ∉ selectType.toList)
    {idType : IdType} {key : String} (hstarts : (selectType ++ "[").toList <+: key.toList)
    (hsuffix : ("][" ++ idType.name ++ "]").toList <:+ key.toList) :
    ∃ index, key = filterKey selectType index idType := by
  have hnot : ']' ∉ (selectType ++ "[").toList := by
    rw [String.toList_append, List.mem_append]
    rintro (hmem | hmem)
    · exact hbracket hmem
    · exact absurd hmem (by decide)
  obtain ⟨rest, hrest⟩ := hstarts
  obtain ⟨front, hfront⟩ := hsuffix
  have hsame : front ++ ("][" ++ idType.name ++ "]").toList =
      (selectType ++ "[").toList ++ rest := hfront.trans hrest.symm
  have hkey : ∀ index, key.toList = (selectType ++ "[").toList ++ index ++
      ("][" ++ idType.name ++ "]").toList → ∃ index, key = filterKey selectType index idType :=
    fun index heq => ⟨index, by rw [filterKey, ← heq, String.ofList_toList]⟩
  rcases List.append_eq_append_iff.mp hsame with ⟨shared, hpre, hsuf⟩ | ⟨index, hfront', -⟩
  · cases shared with
    | nil => exact hkey [] (by rw [← hrest, hsuf]; simp)
    | cons c shared =>
      have hhead : ']' = c := by
        simp only [String.toList_append, List.cons_append] at hsuf
        exact (List.cons.inj hsuf).1
      exact absurd (by rw [hpre, hhead]; simp) hnot
  · exact hkey index (by rw [← hfront, hfront'])

theorem parseId_of_ne {selectType : String} (hbracket : ']' ∉ selectType.toList) {idType : IdType}
    {key : String} (hne : ∀ index, key ≠ filterKey selectType index idType)
    (acc : StringMap × Errors) (value : CString) :
    parseId selectType idType acc key value = acc := by
  unfold parseId
  dsimp only
  cases hstarts : (selectType ++ "[").toList.isPrefixOf key.toList with
  | false => rfl
  | true =>
    cases hsuffix : ("][" ++ idType.name ++ "]").toList.isSuffixOf key.toList with
    | false => rfl
    | true =>
      obtain ⟨index, hkey⟩ := key_of_prefix_suffix hbracket
        (List.isPrefixOf_iff_prefix.mp hstarts) (List.isSuffixOf_iff_suffix.mp hsuffix)
      exact absurd hkey (hne index)

/-- What ends in the name of one type does not end in another. -/
theorem filterKey_inj {selectType : String} {index index' : List Char} {idType idType' : IdType}
    (heq : filterKey selectType index idType = filterKey selectType index' idType') :
    index = index' ∧ idType = idType' := by
  have hlist := String.ofList_injective heq
  have hid : idType = idType' := by
    have hreverse := congrArg List.reverse hlist
    simp only [List.reverse_append] at hreverse
    cases idType <;> cases idType' <;> first | rfl | (exfalso; simp [IdType.name] at hreverse)
  subst hid
  exact ⟨List.append_cancel_left (List.append_cancel_right hlist), rfl⟩

theorem parseHostQuery_of_ne {selectType : String} (hbracket : ']' ∉ selectType.toList)
    {key : String} (hne : ∀ index idType, key ≠ filterKey selectType index idType)
    (acc : StringMap × Errors) (value : CString) :
    parseHostQuery selectType acc key value = acc := by
  unfold parseHostQuery
  dsimp only
  rw [parseId_of_ne hbracket (hne · .serverId), parseId_of_ne hbracket (hne · .hostgroupId),
    parseId_of_ne hbracket (hne · .hostId)]

theorem parseHostQuery_of_key {selectType : String} (hbracket : ']' ∉ selectType.toList)
    (index : List Char) (idType : IdType) (acc : StringMap × Errors) (value : CString) :
    parseHostQuery selectType acc (filterKey selectType index idType) value =
      match refusal (filterKey selectType index idType) index idType value with
      | some error => (acc.1, acc.2 ++ [error])
      | none => (store acc.1 index idType value, acc.2) := by
  have hother : ∀ idType' acc, idType' ≠ idType →
      parseId selectType idType' acc (filterKey selectType index idType) value = acc :=
    fun idType' acc hne => parseId_of_ne hbracket
      (fun index' heq => hne (filterKey_inj heq).2.symm) acc value
  unfold parseHostQuery
  dsimp only
  cases idType with
  | serverId =>
    rw [hother .hostId _ (by decide), hother .hostgroupId _ (by decide), parseId_of_key]
  | hostgroupId =>
    rw [hother .hostId _ (by decide), hother .serverId _ (by decide), parseId_of_key]
  | hostId =>
    rw [hother .serverId _ (by decide), hother .hostgroupId _ (by decide), parseId_of_key]

/-! ## The entries -/

/-- What is kept of the parameters of one type, and whether one of them is refused. -/
structure Reads (selectType : String) (params : List (String × CString))
    (acc : StringMap × Errors) : Prop where
  entry : ∀ index idType value,
    ((acc.1.find? (String.ofList index)).getD .empty).find? idType = some value ↔
      (filterKey selectType index idType, value) ∈ params ∧ Accepted index idType value
  inhabited : ∀ index idMap, acc.1.find? index = some idMap →
    ∃ idType value, idMap.find? idType = some value
  errors : acc.2 = [] ↔ ∀ index idType value,
    (filterKey selectType index idType, value) ∈ params → Accepted index idType value

theorem find?_store (map : StringMap) (index index' : List Char) (idType : IdType)
    (value : CString) :
    (store map index idType value).find? (String.ofList index') =
      if index' = index then
        some (((map.find? (String.ofList index)).getD .empty).set idType value)
      else map.find? (String.ofList index') := by
  rw [store, OrderedMap.find?_set]
  by_cases hindex : index' = index
  · rw [if_pos hindex, if_pos (by rw [hindex])]
  · rw [if_neg hindex, if_neg fun heq => hindex (String.ofList_injective heq)]

theorem reads_append {selectType : String} (hbracket : ']' ∉ selectType.toList)
    {params : List (String × CString)} {acc : StringMap × Errors}
    (hreads : Reads selectType params acc) {param : String × CString}
    (hfresh : param.1 ∉ params.map Prod.fst) :
    Reads selectType (params ++ [param])
      (parseHostQuery selectType acc param.1 param.2) := by
  obtain ⟨key, value⟩ := param
  by_cases hkey : ∃ index idType, key = filterKey selectType index idType
  · obtain ⟨index, idType, rfl⟩ := hkey
    have hmem : ∀ index' idType' value', (filterKey selectType index' idType', value') ∈
        params ++ [(filterKey selectType index idType, value)] ↔
        (filterKey selectType index' idType', value') ∈ params ∨
          index' = index ∧ idType' = idType ∧ value' = value := by
      intro index' idType' value'
      rw [List.mem_append, List.mem_singleton, Prod.mk.injEq]
      refine or_congr_right ⟨fun h => ?_, fun h => ?_⟩
      · exact ⟨(filterKey_inj h.1).1, (filterKey_inj h.1).2, h.2⟩
      · exact ⟨by rw [h.1, h.2.1], h.2.2⟩
    have hnot : ∀ value', (filterKey selectType index idType, value') ∉ params :=
      fun value' h => hfresh (List.mem_map.mpr ⟨_, h, rfl⟩)
    dsimp only
    rw [parseHostQuery_of_key hbracket]
    cases hrefusal : refusal (filterKey selectType index idType) index idType value with
    | some error =>
      have hrefused : ¬Accepted index idType value := fun h => by
        rw [refusal_eq_none_iff.mpr h] at hrefusal
        cases hrefusal
      refine ⟨fun index' idType' value' => ?_, hreads.inhabited, ?_⟩
      · rw [hreads.entry, hmem]
        refine ⟨fun h => ⟨.inl h.1, h.2⟩, ?_⟩
        rintro ⟨h | ⟨rfl, rfl, rfl⟩, haccepted⟩
        · exact ⟨h, haccepted⟩
        · exact absurd haccepted hrefused
      · refine ⟨fun h => by simp at h, fun h => absurd ?_ hrefused⟩
        exact h index idType value ((hmem _ _ _).mpr (.inr ⟨rfl, rfl, rfl⟩))
    | none =>
      have haccepted := refusal_eq_none_iff.mp hrefusal
      refine ⟨fun index' idType' value' => ?_, fun index' idMap hfind => ?_, ?_⟩
      · rw [find?_store, hmem]
        by_cases hindex : index' = index
        · subst hindex
          rw [if_pos rfl, Option.getD_some, IdMap.find?_set]
          by_cases hid : idType' = idType
          · subst hid
            rw [if_pos rfl, Option.some.injEq]
            constructor
            · rintro rfl
              exact ⟨.inr ⟨rfl, rfl, rfl⟩, haccepted⟩
            · rintro ⟨h | h, -⟩
              · exact absurd h (hnot value')
              · exact h.2.2.symm
          · rw [if_neg hid, hreads.entry]
            simp [hid]
        · rw [if_neg hindex, hreads.entry]
          simp [hindex]
      · obtain ⟨index', rfl⟩ : ∃ cs, index' = String.ofList cs := ⟨_, String.ofList_toList.symm⟩
        rw [find?_store] at hfind
        split_ifs at hfind with hindex
        · obtain rfl := Option.some.inj hfind
          exact ⟨idType, value, by rw [IdMap.find?_set, if_pos rfl]⟩
        · exact hreads.inhabited _ _ hfind
      · refine hreads.errors.trans ⟨fun h index' idType' value' hmem' => ?_, fun h => ?_⟩
        · rcases (hmem _ _ _).mp hmem' with h' | ⟨rfl, rfl, rfl⟩
          · exact h _ _ _ h'
          · exact haccepted
        · exact fun index' idType' value' h' => h _ _ _ ((hmem _ _ _).mpr (.inl h'))
  · have hne : ∀ index idType, key ≠ filterKey selectType index idType :=
      fun index idType heq => hkey ⟨index, idType, heq⟩
    have hmem : ∀ index idType value', (filterKey selectType index idType, value') ∈
        params ++ [(key, value)] ↔ (filterKey selectType index idType, value') ∈ params := by
      intro index idType value'
      rw [List.mem_append, List.mem_singleton, Prod.mk.injEq]
      exact or_iff_left fun h => hne index idType h.1.symm
    rw [parseHostQuery_of_ne hbracket hne]
    exact ⟨fun index idType value' => by rw [hreads.entry, hmem], hreads.inhabited,
      by simp only [hmem]; exact hreads.errors⟩

theorem reads_empty (selectType : String) : Reads selectType [] (.empty, []) where
  entry index idType value := by
    rw [OrderedMap.find?_empty]
    cases idType <;> simp [IdMap.empty, IdMap.find?]
  inhabited index idMap hfind := by
    rw [OrderedMap.find?_empty] at hfind
    cases hfind
  errors := by simp

/-- The errors of other parameters do not matter. -/
theorem parseHostQuery_frame (selectType : String) (hbracket : ']' ∉ selectType.toList)
    (map : StringMap) (key : String) (value : CString) :
    ∃ map' new, ∀ errors,
      parseHostQuery selectType (map, errors) key value = (map', errors ++ new) := by
  by_cases hkey : ∃ index idType, key = filterKey selectType index idType
  · obtain ⟨index, idType, rfl⟩ := hkey
    cases hrefusal : refusal (filterKey selectType index idType) index idType value with
    | some error =>
      exact ⟨map, [error], fun errors => by rw [parseHostQuery_of_key hbracket, hrefusal]⟩
    | none =>
      refine ⟨store map index idType value, [], fun errors => ?_⟩
      rw [parseHostQuery_of_key hbracket, hrefusal, List.append_nil]
  · refine ⟨map, [], fun errors => ?_⟩
    rw [List.append_nil]
    exact parseHostQuery_of_ne hbracket (fun index idType heq => hkey ⟨index, idType, heq⟩) _ _

theorem ne_filterKey_of_other {selectType key : String}
    (hnot : selectType.toList.isPrefixOf key.toList = false) (index : List Char)
    (idType : IdType) : key ≠ filterKey selectType index idType := by
  rintro rfl
  have hstarts : selectType.toList.isPrefixOf (filterKey selectType index idType).toList = true := by
    rw [filterKey, String.toList_ofList, String.toList_append, List.append_assoc, List.append_assoc,
      List.isPrefixOf_iff_prefix]
    exact List.prefix_append _ _
  rw [hstarts] at hnot
  cases hnot

/-- The two kinds of filters are read side by side. -/
structure ReadsBoth (params : List (String × CString)) (data : ParsedFilters) : Prop where
  both : ∃ errors errors', Reads "s" params (data.selected, errors) ∧
    Reads "e" params (data.excluded, errors') ∧
    (data.errors = [] ↔ errors = [] ∧ errors' = [])

theorem readsBoth_parseParam {params : List (String × CString)} {data : ParsedFilters}
    (hreads : ReadsBoth params data) {param : String × CString}
    (hfresh : param.1 ∉ params.map Prod.fst) :
    ReadsBoth (params ++ [param]) (parseParam data param) := by
  obtain ⟨errors, errors', hselected, hexcluded, hempty⟩ := hreads
  have hs := reads_append (by decide) hselected hfresh
  have he := reads_append (by decide) hexcluded hfresh
  obtain ⟨map, new, hmap⟩ := parseHostQuery_frame "s" (by decide) data.selected
    param.1 param.2
  obtain ⟨map', new', hmap'⟩ := parseHostQuery_frame "e" (by decide) data.excluded
    param.1 param.2
  unfold parseParam
  cases hstarts : "s".toList.isPrefixOf param.1.toList with
  | true =>
    have hother : "e".toList.isPrefixOf param.1.toList = false := by
      cases hkey : param.1.toList with
      | nil => rfl
      | cons c cs =>
        rw [hkey] at hstarts
        have hc : 's' = c := by simpa [List.isPrefixOf] using hstarts
        rw [← hc]
        rfl
    rw [parseHostQuery_of_ne (by decide) (ne_filterKey_of_other hother)] at he
    rw [hmap] at hs
    rw [if_pos rfl, hmap]
    refine ⟨_, _, hs, he, ?_⟩
    simp only [List.append_eq_nil_iff, hempty]
    exact and_right_comm
  | false =>
    rw [parseHostQuery_of_ne (by decide) (ne_filterKey_of_other hstarts)] at hs
    rw [if_neg (by decide)]
    cases hstarts' : "e".toList.isPrefixOf param.1.toList with
    | true =>
      rw [hmap'] at he
      rw [if_pos rfl, hmap']
      refine ⟨_, _, hs, he, ?_⟩
      simp only [List.append_eq_nil_iff, hempty]
      exact and_assoc
    | false =>
      rw [parseHostQuery_of_ne (by decide) (ne_filterKey_of_other hstarts')] at he
      rw [if_neg (by decide)]
      exact ⟨_, _, hs, he, hempty⟩

theorem readsBoth_foldl {rest : List (String × CString)} :
    ∀ {params : List (String × CString)} {data : ParsedFilters}, ReadsBoth params data →
    ((params ++ rest).map Prod.fst).Nodup → ReadsBoth (params ++ rest) (rest.foldl parseParam data) := by
  induction rest with
  | nil =>
    intro params data hreads _
    rw [List.append_nil]
    exact hreads
  | cons param rest ih =>
    intro params data hreads hnodup
    have hfresh : param.1 ∉ params.map Prod.fst := by
      rw [List.map_append, List.map_cons] at hnodup
      exact fun hmem => (List.nodup_append.mp hnodup).2.2 _ hmem _ List.mem_cons_self rfl
    rw [List.append_cons] at hnodup ⊢
    exact ih (readsBoth_parseParam hreads hfresh) hnodup

theorem readsBoth_parse (query : Query) : ReadsBoth query.params (parse query) := by
  have hempty : ReadsBoth [] ⟨.empty, .empty, []⟩ :=
    ⟨[], [], reads_empty "s", reads_empty "e", by simp⟩
  exact readsBoth_foldl hempty query.nodup

/-! ## The sets -/

/-- What a filter lets through of its server. -/
inductive Target where
  | all
  | hostgroup (id : CString)
  | host (id : CString)
  deriving DecidableEq

structure HostFilter where
  serverId : ServerIdType
  target : Target
  deriving DecidableEq

/-- The sets hold the filters and nothing else. -/
structure FilterSets.Holds (sets : FilterSets) (filters : List HostFilter) : Prop where
  servers : ∀ id, sets.servers.contains id ↔ ⟨id, .all⟩ ∈ filters
  hostgroups : ∀ id hostgroupId,
    (sets.hostgroups[id]?.any (·.contains hostgroupId)) ↔ ⟨id, .hostgroup hostgroupId⟩ ∈ filters
  hosts : ∀ id hostId,
    (sets.hosts[id]?.any (·.contains hostId)) ↔ ⟨id, .host hostId⟩ ∈ filters
  hostgroupServers : ∀ id, sets.hostgroups.contains id ↔
    ∃ hostgroupId, ⟨id, .hostgroup hostgroupId⟩ ∈ filters
  hostServers : ∀ id, sets.hosts.contains id ↔ ∃ hostId, ⟨id, .host hostId⟩ ∈ filters

def FilterSets.add (sets : FilterSets) (filter : HostFilter) : FilterSets :=
  match filter.target with
  | .all => { sets with servers := sets.servers.insert filter.serverId }
  | .hostgroup id => { sets with hostgroups := insertId sets.hostgroups filter.serverId id }
  | .host id => { sets with hosts := insertId sets.hosts filter.serverId id }

def filterOf (uninitialised : UInt64) (idMap : IdMap) : Option HostFilter :=
  match idMap.serverId, idMap.hostgroupId, idMap.hostId with
  | none, _, _ => none
  | some _, some _, some _ => none
  | some serverId, some id, none => some ⟨toServerId uninitialised serverId, .hostgroup id⟩
  | some serverId, none, some id => some ⟨toServerId uninitialised serverId, .host id⟩
  | some serverId, none, none => some ⟨toServerId uninitialised serverId, .all⟩

theorem convertEntry_eq (uninitialised : UInt64) (idMap : IdMap) :
    (∃ filter, filterOf uninitialised idMap = some filter ∧
      ∀ acc, convertEntry uninitialised acc idMap = (acc.1.add filter, acc.2)) ∨
    filterOf uninitialised idMap = none ∧ ∃ error, ∀ acc,
      convertEntry uninitialised acc idMap = (acc.1, acc.2 ++ [error]) := by
  obtain ⟨serverId, hostgroupId, hostId⟩ := idMap
  cases serverId with
  | none => exact .inr ⟨rfl, _, fun acc => rfl⟩
  | some serverId =>
    cases hostgroupId with
    | none =>
      cases hostId with
      | none => exact .inl ⟨_, rfl, fun acc => rfl⟩
      | some id => exact .inl ⟨_, rfl, fun acc => rfl⟩
    | some id =>
      cases hostId with
      | none => exact .inl ⟨_, rfl, fun acc => rfl⟩
      | some id' => exact .inr ⟨rfl, _, fun acc => rfl⟩

theorem any_insertId (m : Std.TreeMap ServerIdType (Std.TreeSet CString)) (serverId : ServerIdType)
    (id : CString) (serverId' : ServerIdType) (id' : CString) :
    (insertId m serverId id)[serverId']?.any (·.contains id') ↔
      (serverId' = serverId ∧ id' = id) ∨ m[serverId']?.any (·.contains id') := by
  rw [insertId, Std.TreeMap.getElem?_alter]
  by_cases hserver : serverId = serverId'
  · subst hserver
    rw [if_pos Std.ReflCmp.compare_self, Option.any_some, Std.TreeSet.contains_insert, Bool.or_eq_true, beq_iff_eq,
      Std.LawfulEqCmp.compare_eq_iff_eq, eq_comm (a := id)]
    cases m[serverId]? with
    | none => simp
    | some ids => simp
  · rw [if_neg fun h => hserver (Std.LawfulEqCmp.eq_of_compare h)]
    simp [Ne.symm hserver]

theorem contains_insertId (m : Std.TreeMap ServerIdType (Std.TreeSet CString))
    (serverId : ServerIdType) (id : CString) (serverId' : ServerIdType) :
    (insertId m serverId id).contains serverId' ↔ serverId' = serverId ∨ m.contains serverId' := by
  rw [insertId, Std.TreeMap.contains_alter]
  by_cases hserver : serverId = serverId'
  · simp [hserver]
  · rw [if_neg fun h => hserver (Std.LawfulEqCmp.eq_of_compare h)]
    simp [Ne.symm hserver]

theorem holds_empty : FilterSets.Holds ⟨∅, ∅, ∅⟩ [] := by
  constructor <;> simp

theorem FilterSets.Holds.add {sets : FilterSets} {filters : List HostFilter}
    (hholds : sets.Holds filters) (filter : HostFilter) :
    (sets.add filter).Holds (filters ++ [filter]) := by
  obtain ⟨serverId, target⟩ := filter
  cases target with
  | all =>
    refine ⟨fun id => ?_, fun id _ => ?_, fun id _ => ?_, fun id => ?_, fun id => ?_⟩
    · change (sets.servers.insert serverId).contains id ↔ _
      rw [Std.TreeSet.contains_insert, Bool.or_eq_true, hholds.servers, beq_iff_eq,
        Std.LawfulEqCmp.compare_eq_iff_eq]
      simp [or_comm, eq_comm]
    · exact (hholds.hostgroups _ _).trans (by simp)
    · exact (hholds.hosts _ _).trans (by simp)
    · exact (hholds.hostgroupServers _).trans (by simp)
    · exact (hholds.hostServers _).trans (by simp)
  | hostgroup hostgroupId =>
    refine ⟨fun id => ?_, fun id _ => ?_, fun id _ => ?_, fun id => ?_, fun id => ?_⟩
    · exact (hholds.servers _).trans (by simp)
    · refine (any_insertId _ _ _ _ _).trans ?_
      rw [hholds.hostgroups]
      simp [or_comm]
    · exact (hholds.hosts _ _).trans (by simp)
    · refine (contains_insertId _ _ _ _).trans ?_
      rw [hholds.hostgroupServers]
      simp [or_comm, exists_or]
    · exact (hholds.hostServers _).trans (by simp)
  | host hostId =>
    refine ⟨fun id => ?_, fun id _ => ?_, fun id _ => ?_, fun id => ?_, fun id => ?_⟩
    · exact (hholds.servers _).trans (by simp)
    · exact (hholds.hostgroups _ _).trans (by simp)
    · refine (any_insertId _ _ _ _ _).trans ?_
      rw [hholds.hosts]
      simp [or_comm]
    · exact (hholds.hostgroupServers _).trans (by simp)
    · refine (contains_insertId _ _ _ _).trans ?_
      rw [hholds.hostServers]
      simp [or_comm, exists_or]

theorem convert_foldl (uninitialised : UInt64) {entries : List (String × IdMap)} :
    ∀ (acc : FilterSets × Errors) {filters : List HostFilter}, acc.1.Holds filters →
    (entries.foldl (fun acc entry => convertEntry uninitialised acc entry.2) acc).1.Holds
        (filters ++ entries.filterMap fun entry => filterOf uninitialised entry.2) ∧
      ((entries.foldl (fun acc entry => convertEntry uninitialised acc entry.2) acc).2 = [] ↔
        acc.2 = [] ∧ ∀ entry ∈ entries, (filterOf uninitialised entry.2).isSome) := by
  induction entries with
  | nil =>
    intro acc filters hholds
    rw [List.filterMap_nil, List.append_nil]
    exact ⟨hholds, by simp⟩
  | cons entry entries ih =>
    intro acc filters hholds
    rw [List.foldl_cons]
    rcases convertEntry_eq uninitialised entry.2 with ⟨filter, hfilter, heq⟩ | ⟨hnone, error, heq⟩
    · rw [heq, List.filterMap_cons, hfilter]
      dsimp only
      rw [List.append_cons]
      refine ⟨(ih _ (hholds.add filter)).1, (ih _ (hholds.add filter)).2.trans ?_⟩
      simp [hfilter]
    · rw [heq, List.filterMap_cons, hnone]
      refine ⟨(ih (acc.1, acc.2 ++ [error]) hholds).1, (ih (acc.1, acc.2 ++ [error]) hholds).2.trans ?_⟩
      simp [hnone]

theorem holds_convert (uninitialised : UInt64) (map : StringMap) (errors : Errors) :
    (convert uninitialised map errors).1.Holds
        (map.entries.filterMap fun entry => filterOf uninitialised entry.2) ∧
      ((convert uninitialised map errors).2 = [] ↔
        errors = [] ∧ ∀ entry ∈ map.entries, (filterOf uninitialised entry.2).isSome) :=
  convert_foldl uninitialised (⟨∅, ∅, ∅⟩, errors) holds_empty

/-! ## Numbers -/

/-- An integer in decimal. -/
def integerOf (text : List Char) : Option Int :=
  let (negative, digits) := splitSign text
  if digits = [] ∨ ¬digits.all Char.isDigit then none
  else some (if negative then -(value digits : Int) else value digits)

/-- A number in the range of ServerIdType. -/
def IsServerId (text : List Char) : Prop :=
  ∃ serverId, integerOf text = some serverId ∧ -2 ^ 31 ≤ serverId ∧ serverId < 2 ^ 31

/-- A number in decimal, with a sign or without, which may have a point. -/
def IsDecimal (text : List Char) : Prop :=
  ∃ whole fraction, AllDigits whole ∧ AllDigits fraction ∧ whole ++ fraction ≠ [] ∧
    ((splitSign text).2 = whole ++ fraction ∨ (splitSign text).2 = whole ++ '.' :: fraction)

theorem isDigit_iff_not_outside (c : Char) : c.isDigit = true ↔ ¬(c < '0' ∨ '9' < c) := by
  rw [Char.isDigit_iff_toNat, Char.lt_def, Char.lt_def, UInt32.lt_iff_toNat_lt,
    UInt32.lt_iff_toNat_lt]
  change '0'.toNat ≤ c.toNat ∧ c.toNat ≤ '9'.toNat ↔
    ¬(c.toNat < '0'.toNat ∨ '9'.toNat < c.toNat)
  omega

theorem isNumberFrom_of_digits {digits : List Char} (hdigits : AllDigits digits) (countDot : Nat) :
    isNumberFrom digits countDot = true := by
  induction digits with
  | nil => rfl
  | cons c digits ih =>
    have hc := hdigits c List.mem_cons_self
    have hdot : c ≠ '.' := by
      rintro rfl
      exact absurd hc (by decide)
    rw [isNumberFrom, if_neg hdot, if_neg ((isDigit_iff_not_outside c).mp hc)]
    exact ih fun d hmem => hdigits d (List.mem_cons_of_mem c hmem)

theorem digits_of_isNumberFrom_one {cs : List Char} (hnumber : isNumberFrom cs 1 = true) :
    AllDigits cs := by
  induction cs with
  | nil => exact fun c hmem => absurd hmem List.not_mem_nil
  | cons c cs ih =>
    rw [isNumberFrom] at hnumber
    split_ifs at hnumber with hdot hcount hrange
    · omega
    · intro d hmem
      rcases List.mem_cons.mp hmem with rfl | hmem
      · exact (isDigit_iff_not_outside _).mpr hrange
      · exact ih hnumber d hmem

theorem digits_of_isNumberFrom {cs : List Char} (hnumber : isNumberFrom cs 0 = true) :
    ∃ whole fraction, AllDigits whole ∧ AllDigits fraction ∧
      (cs = whole ++ fraction ∨ cs = whole ++ '.' :: fraction) := by
  induction cs with
  | nil => exact ⟨[], [], by simp [AllDigits], by simp [AllDigits], .inl rfl⟩
  | cons c cs ih =>
    rw [isNumberFrom] at hnumber
    split_ifs at hnumber with hdot hcount hrange
    · exact ⟨[], cs, by simp [AllDigits], digits_of_isNumberFrom_one hnumber,
        .inr (by rw [hdot]; rfl)⟩
    · obtain ⟨whole, fraction, hwhole, hfraction, hcs⟩ := ih hnumber
      refine ⟨c :: whole, fraction, ?_, hfraction, hcs.imp (by rintro rfl; rfl) (by rintro rfl; rfl)⟩
      intro d hmem
      rcases List.mem_cons.mp hmem with rfl | hmem
      · exact (isDigit_iff_not_outside _).mpr hrange
      · exact hwhole d hmem

theorem isNumber_eq (cs : List Char) : isNumber cs = isNumberFrom (splitSign cs).2 0 := by
  unfold isNumber splitSign
  split <;> split <;> simp_all

/-- A number that has a digit is one in decimal. -/
theorem isDecimal_of_isNumber {cs : List Char} (hnumber : isNumber cs = true)
    (hdigit : ∃ c ∈ cs, c.isDigit = true) : IsDecimal cs := by
  rw [isNumber_eq] at hnumber
  obtain ⟨whole, fraction, hwhole, hfraction, hcs⟩ := digits_of_isNumberFrom hnumber
  refine ⟨whole, fraction, hwhole, hfraction, fun hnil => ?_, hcs⟩
  obtain ⟨rfl, rfl⟩ := List.append_eq_nil_iff.mp hnil
  obtain ⟨c, hmem, hc⟩ := hdigit
  have hsplit : c ∈ (splitSign cs).2 := by
    unfold splitSign
    split
    · exact (List.mem_cons.mp hmem).resolve_left (by rintro rfl; exact absurd hc (by decide))
    · exact (List.mem_cons.mp hmem).resolve_left (by rintro rfl; exact absurd hc (by decide))
    · exact hmem
  rcases hcs with hcs | hcs
  · rw [hcs] at hsplit
    exact absurd hsplit List.not_mem_nil
  · rw [hcs] at hsplit
    obtain rfl := List.mem_singleton.mp hsplit
    exact absurd hc (by decide)

theorem splitSign_of_digits {cs : List Char} (hcs : AllDigits cs) : splitSign cs = (false, cs) := by
  unfold splitSign
  split
  · exact absurd (hcs _ List.mem_cons_self) (by decide)
  · exact absurd (hcs _ List.mem_cons_self) (by decide)
  · rfl

theorem isNumber_of_digits {cs : List Char} (hcs : AllDigits cs) : isNumber cs = true := by
  rw [isNumber_eq, splitSign_of_digits hcs]
  exact isNumberFrom_of_digits hcs 0

/-- The sign and the digits of an integer. -/
theorem integerOf_eq_some {cs : List Char} {n : Int} (hn : integerOf cs = some n) :
    (splitSign cs).2 ≠ [] ∧ AllDigits (splitSign cs).2 ∧
      n = if (splitSign cs).1 then -(value (splitSign cs).2 : Int) else value (splitSign cs).2 := by
  unfold integerOf at hn
  dsimp only at hn
  split_ifs at hn with hnone hnegative
  all_goals
    rw [not_or, not_not] at hnone
    refine ⟨hnone.1, fun c hmem => List.all_eq_true.mp hnone.2 c hmem, ?_⟩
    simpa [hnegative] using hn.symm

theorem isNumber_of_integerOf {cs : List Char} {n : Int} (hn : integerOf cs = some n) :
    isNumber cs = true := by
  rw [isNumber_eq]
  exact isNumberFrom_of_digits (integerOf_eq_some hn).2.1 0

theorem dropWhile_of_integerOf {cs : List Char} {n : Int} (hn : integerOf cs = some n) :
    cs.dropWhile Char.isWhitespace = cs := by
  obtain ⟨hne, hdigits, -⟩ := integerOf_eq_some hn
  have hdigit : ∀ {c : Char}, c.isDigit = true → c.isWhitespace = false := by
    intro c hc
    rw [Char.isWhitespace]
    simp only [Bool.or_eq_false_iff, decide_eq_false_iff_not]
    refine ⟨⟨⟨?_, ?_⟩, ?_⟩, ?_⟩ <;> · rintro rfl; exact absurd hc (by decide)
  cases cs with
  | nil => rfl
  | cons c cs =>
    refine List.dropWhile_cons_of_neg ?_
    unfold splitSign at hdigits
    split at hdigits
    · next heq => rw [(List.cons.inj heq).1]; decide
    · next heq => rw [(List.cons.inj heq).1]; decide
    · rw [hdigit (hdigits c List.mem_cons_self)]
      decide

theorem toInt_toInt32 (x : UInt64) : x.toUInt32.toInt32.toInt = Int.bmod x.toNat (2 ^ 32) := by
  change (x.toUInt32.toBitVec).toInt = _
  rw [BitVec.toInt_eq_toNat_bmod, UInt32.toNat_toBitVec, UInt64.toNat_toUInt32, Int.natCast_emod]
  exact Int.emod_bmod _ _

/-- An integer in the range is converted to itself. -/
theorem toServerId_of_integerOf {text : CString} {n : Int} (hn : integerOf text.text.toList = some n)
    (hlow : -2 ^ 31 ≤ n) (hhigh : n < 2 ^ 31) (uninitialised : UInt64) :
    toServerId uninitialised text = n := by
  have hdrop := dropWhile_of_integerOf hn
  obtain ⟨hne, hdigits, hvalue⟩ := integerOf_eq_some hn
  generalize hsplit : splitSign text.text.toList = parts at hne hdigits hvalue
  obtain ⟨negative, digits⟩ := parts
  dsimp only at hne hdigits hvalue
  have htake : digits.takeWhile Char.isDigit = digits := List.takeWhile_eq_self_iff.mpr hdigits
  have hbound : value digits ≤ 2 ^ 31 := by
    split_ifs at hvalue <;> omega
  refine (?_ : @Eq Int _ _)
  rw [toServerId, toUint64, hdrop, hsplit]
  dsimp only
  rw [htake, if_neg hne, if_neg (by omega), toInt_toInt32]
  have hnat : (UInt64.ofNat (value digits)).toNat = value digits :=
    UInt64.toNat_ofNat_of_lt' (by simp [UInt64.size]; omega)
  cases negative with
  | false =>
    rw [if_neg (by decide), hnat, Int.bmod_def]
    rw [if_neg Bool.false_ne_true] at hvalue
    split_ifs <;> omega
  | true =>
    rw [if_pos rfl, UInt64.toNat_neg, hnat, Int.bmod_def, UInt64.size]
    rw [if_pos rfl] at hvalue
    split_ifs <;> omega

/-! ## Requests -/

/-- Every filter is kept, and its entry has a server and not both a host group and a host. -/
def PassesChecks (query : Query) : Prop :=
  ∀ selectType ∈ ["s", "e"], ∀ index idType value,
    (filterKey selectType index idType, value) ∈ query.params →
      Accepted index idType value ∧
        (∃ serverId, (filterKey selectType index .serverId, serverId) ∈ query.params) ∧
        ¬∃ hostgroupId hostId,
          (filterKey selectType index .hostgroupId, hostgroupId) ∈ query.params ∧
            (filterKey selectType index .hostId, hostId) ∈ query.params

theorem isSome_filterOf_iff (uninitialised : UInt64) (idMap : IdMap) :
    (filterOf uninitialised idMap).isSome ↔
      (∃ serverId, idMap.find? .serverId = some serverId) ∧
        ¬∃ hostgroupId hostId,
          idMap.find? .hostgroupId = some hostgroupId ∧ idMap.find? .hostId = some hostId := by
  obtain ⟨serverId, hostgroupId, hostId⟩ := idMap
  cases serverId <;> cases hostgroupId <;> cases hostId <;> simp [filterOf, IdMap.find?]

section Reads

variable {selectType : String} {params : List (String × CString)} {map : StringMap}
  {errors : Errors}

/-- The map of an index that a parameter has. -/
theorem Reads.exists_of_mem (hreads : Reads selectType params (map, errors))
    (haccepted : errors = []) {index : List Char} {idType : IdType} {value : CString}
    (hmem : (filterKey selectType index idType, value) ∈ params) :
    ∃ idMap, (String.ofList index, idMap) ∈ map.entries := by
  have hentry := (hreads.entry index idType value).mpr
    ⟨hmem, hreads.errors.mp haccepted index idType value hmem⟩
  cases hfind : map.find? (String.ofList index) with
  | none =>
    rw [hfind] at hentry
    cases idType <;> cases hentry
  | some idMap => exact ⟨idMap, OrderedMap.mem_entries_of_find? hfind⟩

theorem Reads.find?_iff (hreads : Reads selectType params (map, errors)) (haccepted : errors = [])
    {index : List Char} {idMap : IdMap} (hmem : (String.ofList index, idMap) ∈ map.entries)
    (idType : IdType) (value : CString) :
    idMap.find? idType = some value ↔ (filterKey selectType index idType, value) ∈ params := by
  have hentry := hreads.entry index idType value
  dsimp only at hentry
  rw [OrderedMap.find?_eq_some_iff.mpr hmem, Option.getD_some] at hentry
  exact hentry.trans (and_iff_left_of_imp (hreads.errors.mp haccepted index idType value))

/-- Every map comes from a parameter. -/
theorem Reads.exists_param (hreads : Reads selectType params (map, errors))
    (haccepted : errors = []) {name : String} {idMap : IdMap} (hmem : (name, idMap) ∈ map.entries) :
    ∃ index idType value, name = String.ofList index ∧
      (filterKey selectType index idType, value) ∈ params := by
  obtain ⟨idType, value, hvalue⟩ := hreads.inhabited _ _ (OrderedMap.find?_eq_some_iff.mpr hmem)
  have hname : name = String.ofList name.toList := String.ofList_toList.symm
  rw [hname] at hmem
  exact ⟨name.toList, idType, value, hname,
    (hreads.find?_iff haccepted hmem idType value).mp hvalue⟩

theorem Reads.complete_iff (hreads : Reads selectType params (map, errors))
    (haccepted : errors = []) (uninitialised : UInt64) :
    (∀ entry ∈ map.entries, (filterOf uninitialised entry.2).isSome) ↔
      ∀ index idType value, (filterKey selectType index idType, value) ∈ params →
        (∃ serverId, (filterKey selectType index .serverId, serverId) ∈ params) ∧
          ¬∃ hostgroupId hostId,
            (filterKey selectType index .hostgroupId, hostgroupId) ∈ params ∧
              (filterKey selectType index .hostId, hostId) ∈ params := by
  constructor
  · intro hall index idType value hmem
    obtain ⟨idMap, hentry⟩ := hreads.exists_of_mem haccepted hmem
    have hsome := (isSome_filterOf_iff uninitialised idMap).mp (hall _ hentry)
    simpa only [hreads.find?_iff haccepted hentry] using hsome
  · rintro hall ⟨name, idMap⟩ hentry
    obtain ⟨index, idType, value, rfl, hmem⟩ := hreads.exists_param haccepted hentry
    refine (isSome_filterOf_iff uninitialised idMap).mpr ?_
    simpa only [hreads.find?_iff haccepted hentry] using hall index idType value hmem

end Reads

theorem parseHostsFilter_cases (uninitialised : UInt64) (option : HostResourceQueryOption)
    (query : Query) :
    (¬PassesChecks query ∧ ∃ error,
        parseHostsFilter uninitialised option query = (some error, option)) ∨
      PassesChecks query ∧ ∃ errors errors',
        Reads "s" query.params ((parse query).selected, errors) ∧ errors = [] ∧
        Reads "e" query.params ((parse query).excluded, errors') ∧ errors' = [] ∧
        ∃ selected excluded,
          parseHostsFilter uninitialised option query =
            (none, setFilters selected excluded option) ∧
          selected.Holds ((parse query).selected.entries.filterMap
            fun entry => filterOf uninitialised entry.2) ∧
          excluded.Holds ((parse query).excluded.entries.filterMap
            fun entry => filterOf uninitialised entry.2) := by
  obtain ⟨errors, errors', hselected, hexcluded, hempty⟩ := readsBoth_parse query
  have hconvert := holds_convert uninitialised (parse query).selected (parse query).errors
  generalize hfirst : convert uninitialised (parse query).selected (parse query).errors = first
    at hconvert
  have hconvert' := holds_convert uninitialised (parse query).excluded first.2
  generalize hsecond : convert uninitialised (parse query).excluded first.2 = second at hconvert'
  have hall : second.2 = [] ↔ PassesChecks query := by
    rw [hconvert'.2, hconvert.2, hempty]
    constructor
    · rintro ⟨⟨⟨rfl, rfl⟩, hs⟩, he⟩ selectType htype index idType value hmem
      rcases List.mem_pair.mp htype with rfl | rfl
      · exact ⟨hselected.errors.mp rfl _ _ _ hmem,
          (hselected.complete_iff rfl uninitialised).mp hs _ _ _ hmem⟩
      · exact ⟨hexcluded.errors.mp rfl _ _ _ hmem,
          (hexcluded.complete_iff rfl uninitialised).mp he _ _ _ hmem⟩
    · intro hpasses
      have hs := hselected.errors.mpr fun index idType value hmem =>
        (hpasses "s" (by decide) index idType value hmem).1
      have he := hexcluded.errors.mpr fun index idType value hmem =>
        (hpasses "e" (by decide) index idType value hmem).1
      exact ⟨⟨⟨hs, he⟩, (hselected.complete_iff hs uninitialised).mpr fun index idType value hmem =>
          (hpasses "s" (by decide) index idType value hmem).2⟩,
        (hexcluded.complete_iff he uninitialised).mpr fun index idType value hmem =>
          (hpasses "e" (by decide) index idType value hmem).2⟩
  unfold parseHostsFilter
  dsimp only
  rw [hfirst, hsecond]
  cases herrors : second.2 with
  | cons error rest =>
    refine .inl ⟨fun hpasses => ?_, error, rfl⟩
    rw [hall.mpr hpasses] at herrors
    cases herrors
  | nil =>
    have hnil := hconvert'.2.mp herrors
    have hnil' := hempty.mp (hconvert.2.mp hnil.1).1
    exact .inr ⟨hall.mp herrors, errors, errors', hselected, hnil'.1, hexcluded, hnil'.2, first.1,
      second.1, rfl, hconvert.1, hconvert'.1⟩

/-- The parameters of one type are the filters, each under an index of its own. -/
structure Encodes (selectType : String) (filters : List (List Char × HostFilter))
    (query : Query) : Prop where
  nodup : (filters.map Prod.fst).Nodup
  digits : ∀ filter ∈ filters, filter.1 ≠ [] ∧ AllDigits filter.1
  range : ∀ filter ∈ filters, -2 ^ 31 ≤ filter.2.serverId ∧ filter.2.serverId < 2 ^ 31
  given : ∀ index filter, (index, filter) ∈ filters →
    ∃ value, (filterKey selectType index .serverId, value) ∈ query.params
  serverId : ∀ index value, (filterKey selectType index .serverId, value) ∈ query.params →
    ∃ filter, (index, filter) ∈ filters ∧ integerOf value.text.toList = some filter.serverId
  hostgroupId : ∀ index value, (filterKey selectType index .hostgroupId, value) ∈ query.params ↔
    ∃ filter, (index, filter) ∈ filters ∧ filter.target = .hostgroup value
  hostId : ∀ index value, (filterKey selectType index .hostId, value) ∈ query.params ↔
    ∃ filter, (index, filter) ∈ filters ∧ filter.target = .host value

namespace Encodes

variable {selectType : String} {filters : List (List Char × HostFilter)} {query : Query}

theorem filter_unique (h : Encodes selectType filters query) {index : List Char}
    {filter filter' : HostFilter} (hmem : (index, filter) ∈ filters)
    (hmem' : (index, filter') ∈ filters) : filter = filter' :=
  (Prod.mk.inj (List.inj_on_of_nodup_map h.nodup hmem hmem' rfl)).2

theorem exists_filter (h : Encodes selectType filters query) {index : List Char} {idType : IdType}
    {value : CString} (hmem : (filterKey selectType index idType, value) ∈ query.params) :
    ∃ filter, (index, filter) ∈ filters := by
  cases idType with
  | serverId => exact (h.serverId index value hmem).imp fun _ hfilter => hfilter.1
  | hostgroupId => exact ((h.hostgroupId index value).mp hmem).imp fun _ hfilter => hfilter.1
  | hostId => exact ((h.hostId index value).mp hmem).imp fun _ hfilter => hfilter.1

theorem accepted (h : Encodes selectType filters query) {index : List Char} {idType : IdType}
    {value : CString} (hmem : (filterKey selectType index idType, value) ∈ query.params) :
    Accepted index idType value := by
  obtain ⟨filter, hfilter⟩ := h.exists_filter hmem
  refine ⟨(h.digits _ hfilter).1, isNumber_of_digits (h.digits _ hfilter).2, ?_⟩
  rintro rfl
  obtain ⟨_, -, hinteger⟩ := h.serverId index value hmem
  exact isNumber_of_integerOf hinteger

theorem not_both (h : Encodes selectType filters query) (index : List Char) :
    ¬∃ hostgroupId hostId,
      (filterKey selectType index .hostgroupId, hostgroupId) ∈ query.params ∧
        (filterKey selectType index .hostId, hostId) ∈ query.params := by
  rintro ⟨hostgroupId, hostId, hgroup, hhost⟩
  obtain ⟨filter, hfilter, htarget⟩ := (h.hostgroupId _ _).mp hgroup
  obtain ⟨filter', hfilter', htarget'⟩ := (h.hostId _ _).mp hhost
  rw [h.filter_unique hfilter hfilter', htarget'] at htarget
  cases htarget

/-- What is read of an entry is its filter. -/
theorem filterOf_eq (h : Encodes selectType filters query) {index : List Char} {filter : HostFilter}
    (hfilter : (index, filter) ∈ filters) {idMap : IdMap}
    (hfind : ∀ idType value, idMap.find? idType = some value ↔
      (filterKey selectType index idType, value) ∈ query.params) (uninitialised : UInt64) :
    filterOf uninitialised idMap = some filter := by
  obtain ⟨serverId, hgiven⟩ := h.given index filter hfilter
  obtain ⟨_, hfilter', hinteger⟩ := h.serverId index serverId hgiven
  rw [h.filter_unique hfilter' hfilter] at hinteger
  have hserver : idMap.serverId = some serverId := (hfind .serverId serverId).mpr hgiven
  have hid := toServerId_of_integerOf hinteger (h.range _ hfilter).1 (h.range _ hfilter).2
    uninitialised
  have hgroup : ∀ value, idMap.hostgroupId = some value ↔ filter.target = .hostgroup value := by
    intro value
    refine (hfind .hostgroupId value).trans ((h.hostgroupId index value).trans ⟨?_, ?_⟩)
    · rintro ⟨filter', hmem, htarget⟩
      rw [h.filter_unique hfilter hmem, htarget]
    · exact fun htarget => ⟨filter, hfilter, htarget⟩
  have hhost : ∀ value, idMap.hostId = some value ↔ filter.target = .host value := by
    intro value
    refine (hfind .hostId value).trans ((h.hostId index value).trans ⟨?_, ?_⟩)
    · rintro ⟨filter', hmem, htarget⟩
      rw [h.filter_unique hfilter hmem, htarget]
    · exact fun htarget => ⟨filter, hfilter, htarget⟩
  obtain ⟨server, target⟩ := filter
  dsimp only at hid hgroup hhost
  have hnone : ∀ {o : Option CString} {p : CString → Prop}, (∀ value, o = some value ↔ p value) →
      (∀ value, ¬p value) → o = none := fun ho hp =>
    Option.eq_none_iff_forall_ne_some.mpr fun value heq => hp value ((ho value).mp heq)
  unfold filterOf
  rw [hserver, ← hid]
  cases target with
  | all => rw [hnone hgroup (by simp), hnone hhost (by simp)]
  | hostgroup id => rw [(hgroup id).mpr rfl, hnone hhost (by simp)]
  | host id => rw [hnone hgroup (by simp), (hhost id).mpr rfl]

theorem mem_filterMap_iff (h : Encodes selectType filters query) {map : StringMap} {errors : Errors}
    (hreads : Reads selectType query.params (map, errors)) (haccepted : errors = [])
    (uninitialised : UInt64) (filter : HostFilter) :
    filter ∈ map.entries.filterMap (fun entry => filterOf uninitialised entry.2) ↔
      filter ∈ filters.map Prod.snd := by
  rw [List.mem_filterMap, List.mem_map]
  constructor
  · rintro ⟨⟨name, idMap⟩, hentry, hfilter⟩
    obtain ⟨index, idType, value, rfl, hmem⟩ := hreads.exists_param haccepted hentry
    obtain ⟨filter', hfilter'⟩ := h.exists_filter hmem
    have heq := h.filterOf_eq hfilter' (hreads.find?_iff haccepted hentry) uninitialised
    exact ⟨_, hfilter', Option.some.inj (heq.symm.trans hfilter)⟩
  · rintro ⟨⟨index, filter'⟩, hfilter, rfl⟩
    obtain ⟨value, hmem⟩ := h.given index filter' hfilter
    obtain ⟨idMap, hentry⟩ := hreads.exists_of_mem haccepted hmem
    exact ⟨_, hentry, h.filterOf_eq hfilter (hreads.find?_iff haccepted hentry) uninitialised⟩

end Encodes

/-! ## What the option gets -/

def selectedSets (option : HostResourceQueryOption) : FilterSets where
  servers := option.selectedServerIdSet
  hostgroups := option.selectedServerHostgroupSetMap
  hosts := option.selectedServerHostSetMap

def excludedSets (option : HostResourceQueryOption) : FilterSets where
  servers := option.excludedServerIdSet
  hostgroups := option.excludedServerHostgroupSetMap
  hosts := option.excludedServerHostSetMap

def withSets (option : HostResourceQueryOption) (selected excluded : FilterSets) :
    HostResourceQueryOption :=
  { option with
    selectedServerIdSet := selected.servers
    excludedServerIdSet := excluded.servers
    selectedServerHostgroupSetMap := selected.hostgroups
    excludedServerHostgroupSetMap := excluded.hostgroups
    selectedServerHostSetMap := selected.hosts
    excludedServerHostSetMap := excluded.hosts }

/-- The sets hold the filters; where there are none of a kind, the set of that kind is as before. -/
structure FilterSets.Takes (before sets : FilterSets) (filters : List HostFilter) : Prop where
  servers : (∃ id, ⟨id, .all⟩ ∈ filters) →
    ∀ id, sets.servers.contains id ↔ ⟨id, .all⟩ ∈ filters
  sameServers : (¬∃ id, ⟨id, .all⟩ ∈ filters) → sets.servers = before.servers
  hostgroups : (∃ id hostgroupId, ⟨id, .hostgroup hostgroupId⟩ ∈ filters) →
    (∀ id hostgroupId, (sets.hostgroups[id]?.any (·.contains hostgroupId)) ↔
        ⟨id, .hostgroup hostgroupId⟩ ∈ filters) ∧
      ∀ id, sets.hostgroups.contains id ↔ ∃ hostgroupId, ⟨id, .hostgroup hostgroupId⟩ ∈ filters
  sameHostgroups : (¬∃ id hostgroupId, ⟨id, .hostgroup hostgroupId⟩ ∈ filters) →
    sets.hostgroups = before.hostgroups
  hosts : (∃ id hostId, ⟨id, .host hostId⟩ ∈ filters) →
    (∀ id hostId, (sets.hosts[id]?.any (·.contains hostId)) ↔ ⟨id, .host hostId⟩ ∈ filters) ∧
      ∀ id, sets.hosts.contains id ↔ ∃ hostId, ⟨id, .host hostId⟩ ∈ filters
  sameHosts : (¬∃ id hostId, ⟨id, .host hostId⟩ ∈ filters) → sets.hosts = before.hosts

/-- An option that has no filters yet gets exactly the filters. -/
theorem FilterSets.Takes.holds {sets : FilterSets} {filters : List HostFilter}
    (htakes : FilterSets.Takes ⟨∅, ∅, ∅⟩ sets filters) : sets.Holds filters := by
  refine ⟨fun id => ?_, fun id hostgroupId => ?_, fun id hostId => ?_, fun id => ?_, fun id => ?_⟩
  · by_cases hany : ∃ id, ⟨id, .all⟩ ∈ filters
    · exact htakes.servers hany id
    · rw [htakes.sameServers hany]
      exact iff_of_false (by simp) fun hmem => hany ⟨id, hmem⟩
  · by_cases hany : ∃ id hostgroupId, ⟨id, .hostgroup hostgroupId⟩ ∈ filters
    · exact (htakes.hostgroups hany).1 id hostgroupId
    · rw [htakes.sameHostgroups hany]
      exact iff_of_false (by simp) fun hmem => hany ⟨id, hostgroupId, hmem⟩
  · by_cases hany : ∃ id hostId, ⟨id, .host hostId⟩ ∈ filters
    · exact (htakes.hosts hany).1 id hostId
    · rw [htakes.sameHosts hany]
      exact iff_of_false (by simp) fun hmem => hany ⟨id, hostId, hmem⟩
  · by_cases hany : ∃ id hostgroupId, ⟨id, .hostgroup hostgroupId⟩ ∈ filters
    · exact (htakes.hostgroups hany).2 id
    · rw [htakes.sameHostgroups hany]
      exact iff_of_false (by simp) fun hmem => hany ⟨id, hmem⟩
  · by_cases hany : ∃ id hostId, ⟨id, .host hostId⟩ ∈ filters
    · exact (htakes.hosts hany).2 id
    · rw [htakes.sameHosts hany]
      exact iff_of_false (by simp) fun hmem => hany ⟨id, hmem⟩

theorem isEmpty_of_forall {m : Std.TreeMap ServerIdType (Std.TreeSet CString)} {p : Prop}
    {q : ServerIdType → Prop} (hcontains : ∀ id, m.contains id ↔ q id) (hp : p ↔ ∃ id, q id) :
    m.isEmpty = true ↔ ¬p := by
  rw [Std.TreeMap.isEmpty_iff_forall_contains, hp, not_exists]
  exact forall_congr' fun id => by rw [← hcontains, Bool.not_eq_true]

/-- The sets that are not empty take the place of the ones before. -/
theorem FilterSets.Holds.takes {sets before : FilterSets} {filters : List HostFilter}
    (hholds : sets.Holds filters) : before.Takes
      ⟨if sets.servers.isEmpty then before.servers else sets.servers,
        if sets.hostgroups.isEmpty then before.hostgroups else sets.hostgroups,
        if sets.hosts.isEmpty then before.hosts else sets.hosts⟩ filters := by
  have hservers : sets.servers.isEmpty = true ↔ ¬∃ id, ⟨id, .all⟩ ∈ filters := by
    rw [Std.TreeSet.isEmpty_iff_forall_contains, not_exists]
    exact forall_congr' fun id => by rw [← hholds.servers, Bool.not_eq_true]
  have hgroups := isEmpty_of_forall hholds.hostgroupServers Iff.rfl
  have hhosts := isEmpty_of_forall hholds.hostServers Iff.rfl
  refine ⟨fun h => ?_, fun h => ?_, fun h => ?_, fun h => ?_, fun h => ?_, fun h => ?_⟩
  · dsimp only
    rw [if_neg fun hempty => hservers.mp hempty h]
    exact hholds.servers
  · exact if_pos (hservers.mpr h)
  · dsimp only
    rw [if_neg fun hempty => hgroups.mp hempty h]
    exact ⟨hholds.hostgroups, hholds.hostgroupServers⟩
  · exact if_pos (hgroups.mpr h)
  · dsimp only
    rw [if_neg fun hempty => hhosts.mp hempty h]
    exact ⟨hholds.hosts, hholds.hostServers⟩
  · exact if_pos (hhosts.mpr h)

theorem FilterSets.Holds.congr {sets : FilterSets} {filters filters' : List HostFilter}
    (hholds : sets.Holds filters) (hsame : ∀ filter, filter ∈ filters ↔ filter ∈ filters') :
    sets.Holds filters' where
  servers id := by rw [hholds.servers, hsame]
  hostgroups id hostgroupId := by rw [hholds.hostgroups, hsame]
  hosts id hostId := by rw [hholds.hosts, hsame]
  hostgroupServers id := by simp only [hholds.hostgroupServers, hsame]
  hostServers id := by simp only [hholds.hostServers, hsame]

/-! ## Faithful parsing -/

/-- An entry without a server or with both a host group and a host, an index that is no number or a
    server that is no number in the range. -/
def Malformed (query : Query) : Prop :=
  ∃ selectType ∈ ["s", "e"], ∃ index idType value,
    (filterKey selectType index idType, value) ∈ query.params ∧
      (¬IsDecimal index ∨ (idType = .serverId ∧ ¬IsServerId value.text.toList) ∨
        (∀ serverId, (filterKey selectType index .serverId, serverId) ∉ query.params) ∨
        ∃ hostgroupId hostId,
          (filterKey selectType index .hostgroupId, hostgroupId) ∈ query.params ∧
            (filterKey selectType index .hostId, hostId) ∈ query.params)

/-- The parameters that encode filters set them, and malformed ones are an error that leaves the option
    as it was. -/
def ParsesFaithfully (uninitialised : UInt64) (option : HostResourceQueryOption)
    (query : Query) : Prop :=
  (∀ selected excluded, Encodes "s" selected query → Encodes "e" excluded query →
    ∃ option', parseHostsFilter uninitialised option query = (none, option') ∧
      option' = withSets option (selectedSets option') (excludedSets option') ∧
      (selectedSets option).Takes (selectedSets option') (selected.map Prod.snd) ∧
      (excludedSets option).Takes (excludedSets option') (excluded.map Prod.snd)) ∧
  (Malformed query →
    ∃ error, parseHostsFilter uninitialised option query = (some error, option))

/-- An index without a digit, or a server that is no number in the range. -/
def Slips (query : Query) : Prop :=
  ∃ selectType ∈ ["s", "e"], ∃ index idType value,
    (filterKey selectType index idType, value) ∈ query.params ∧
      ((∀ c ∈ index, c.isDigit = false) ∨
        idType = .serverId ∧ ¬IsServerId value.text.toList)

theorem IsDecimal.exists_digit {cs : List Char} (hdecimal : IsDecimal cs) :
    ∃ c ∈ cs, c.isDigit = true := by
  obtain ⟨whole, fraction, hwhole, hfraction, hne, hcs⟩ := hdecimal
  obtain ⟨c, hc⟩ := List.exists_mem_of_ne_nil _ hne
  have hsplit : c ∈ (splitSign cs).2 := by
    rcases hcs with hcs | hcs
    · rwa [hcs]
    · rw [hcs]
      exact (List.mem_append.mp hc).elim (List.mem_append_left _)
        fun h => List.mem_append_right _ (List.mem_cons_of_mem _ h)
  refine ⟨c, ?_, (List.mem_append.mp hc).elim (hwhole c) (hfraction c)⟩
  unfold splitSign at hsplit
  split at hsplit
  · exact List.mem_cons_of_mem _ hsplit
  · exact List.mem_cons_of_mem _ hsplit
  · exact hsplit

theorem encodes_passesChecks {selected excluded : List (List Char × HostFilter)} {query : Query}
    (hselected : Encodes "s" selected query) (hexcluded : Encodes "e" excluded query) :
    PassesChecks query := by
  intro selectType htype index idType value hmem
  rcases List.mem_pair.mp htype with rfl | rfl
  · obtain ⟨filter, hfilter⟩ := hselected.exists_filter hmem
    exact ⟨hselected.accepted hmem, hselected.given _ _ hfilter, hselected.not_both index⟩
  · obtain ⟨filter, hfilter⟩ := hexcluded.exists_filter hmem
    exact ⟨hexcluded.accepted hmem, hexcluded.given _ _ hfilter, hexcluded.not_both index⟩

/-- The checks miss an index without a digit, and a server that is no number in the range. -/
theorem parseHostsFilter_faithful_iff (uninitialised : UInt64) (option : HostResourceQueryOption)
    (query : Query) :
    ParsesFaithfully uninitialised option query ↔ ¬(PassesChecks query ∧ Slips query) := by
  constructor
  · rintro ⟨-, hrefuses⟩ ⟨hpasses, selectType, htype, index, idType, value, hmem, hslip⟩
    have hmalformed : Malformed query := by
      refine ⟨selectType, htype, index, idType, value, hmem, hslip.imp (fun hnone hdecimal => ?_)
        .inl⟩
      obtain ⟨c, hc, hdigit⟩ := hdecimal.exists_digit
      rw [hnone c hc] at hdigit
      cases hdigit
    obtain ⟨error, herror⟩ := hrefuses hmalformed
    rcases parseHostsFilter_cases uninitialised option query with ⟨hnot, -⟩ | ⟨-, hok⟩
    · exact hnot hpasses
    · obtain ⟨-, -, -, -, -, -, selected, excluded, heq, -⟩ := hok
      rw [herror] at heq
      cases (Prod.mk.inj heq).1
  · intro hslips
    refine ⟨fun selected excluded hselected hexcluded => ?_, fun hmalformed => ?_⟩
    · have hpasses := encodes_passesChecks hselected hexcluded
      rcases parseHostsFilter_cases uninitialised option query with ⟨hnot, -⟩ | ⟨-, hok⟩
      · exact absurd hpasses hnot
      · obtain ⟨errors, errors', hs, hnil, he, hnil', sets, sets', heq, hsets, hsets'⟩ := hok
        refine ⟨_, heq, rfl, ?_, ?_⟩
        · exact (hsets.congr (hselected.mem_filterMap_iff hs hnil uninitialised)).takes
        · exact (hsets'.congr (hexcluded.mem_filterMap_iff he hnil' uninitialised)).takes
    · rcases parseHostsFilter_cases uninitialised option query with ⟨-, herror⟩ | ⟨hpasses, -⟩
      · exact herror
      · obtain ⟨selectType, htype, index, idType, value, hmem, hcause⟩ := hmalformed
        obtain ⟨haccepted, hserver, hboth⟩ := hpasses selectType htype index idType value hmem
        refine absurd ⟨hpasses, selectType, htype, index, idType, value, hmem, ?_⟩ hslips
        rcases hcause with hindex | hid | hmissing | hboth'
        · refine .inl fun c hc => ?_
          by_contra hdigit
          exact hindex (isDecimal_of_isNumber haccepted.2.1 ⟨c, hc, by simpa using hdigit⟩)
        · exact .inr hid
        · exact absurd hserver fun ⟨serverId, hserverId⟩ => hmissing serverId hserverId
        · exact absurd hboth' hboth

/-- A request for the server 2^32 + 1. -/
def wrappedServer : Query where
  params := [("s[0][serverId]", .ofString "4294967297")]
  nodup := by decide

theorem wrapped_serverId_accepted :
    ¬∃ uninitialised option, ParsesFaithfully uninitialised option wrappedServer := by
  rintro ⟨uninitialised, option, -, hrefuses⟩
  have hmalformed : Malformed wrappedServer := by
    refine ⟨"s", by decide, ['0'], .serverId, .ofString "4294967297", by decide,
      .inr (.inl ⟨rfl, ?_⟩)⟩
    rintro ⟨serverId, hid, -, hhigh⟩
    have hvalue : integerOf (CString.ofString "4294967297").text.toList = some 4294967297 := by
      decide
    rw [hvalue] at hid
    obtain rfl := Option.some.inj hid
    exact absurd hhigh (by decide)
  obtain ⟨error, herror⟩ := hrefuses hmalformed
  have hok : (parseHostsFilter uninitialised option wrappedServer).1 = none := by rfl
  rw [herror] at hok
  cases hok

end Hatohol.RestResourceUtils

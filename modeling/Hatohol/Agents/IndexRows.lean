import Hatohol.Agents.IndexLaws

/-!
# The indexes of a MySQL table

`SHOW INDEX` answers a row for every column of an index. `getIndexInfoVect` groups the rows by the
names of the indexes, orders them by the numbers of the columns and makes a statement of each group:
the one that makes the index.
-/

namespace Hatohol.Indexes.MySql

open Container Sql

variable {n : Nat} {table : String} {index : Index}

/-! ## Groups -/

theorem of_mem_indexRows {columns : List String} {seq : Nat} {row : IndexStruct}
    (hrow : row ∈ indexRows table index columns seq) :
    seq ≤ row.seqInIndex ∧ row.keyName = index.name := by
  induction columns generalizing seq with
  | nil => cases hrow
  | cons column columns ih =>
    rcases List.mem_cons.mp hrow with rfl | hrow
    · exact ⟨le_rfl, rfl⟩
    · exact ⟨(Nat.le_succ seq).trans (ih hrow).1, (ih hrow).2⟩

def seqEntries (rows : List IndexStruct) : List (Nat × IndexStruct) :=
  rows.map fun row => (row.seqInIndex, row)

theorem seqEntries_sorted (columns : List String) (seq : Nat) :
    (seqEntries (indexRows table index columns seq)).Pairwise fun e e' => e.1 < e'.1 := by
  refine List.pairwise_map.mpr ?_
  induction columns generalizing seq with
  | nil => exact List.Pairwise.nil
  | cons column columns ih =>
    exact List.pairwise_cons.mpr ⟨fun row hrow => (of_mem_indexRows hrow).1, ih (seq + 1)⟩

/-- The group of an index. -/
def seqMap (table : String) (index : Index) : IndexStructSeqMap where
  entries := seqEntries (indexRows table index index.columns 1)
  sorted := seqEntries_sorted index.columns 1

variable {m : OrderedMap String IndexStructSeqMap}

theorem groupIndex_primary {rows : List IndexStruct}
    (hrows : ∀ row ∈ rows, row.keyName = "PRIMARY") : rows.foldl groupIndex m = m := by
  induction rows with
  | nil => rfl
  | cons row rows ih =>
    rw [List.foldl_cons, groupIndex, if_pos (hrows row List.mem_cons_self)]
    exact ih fun row hrow => hrows row (List.mem_cons_of_mem _ hrow)

/-- The further rows of an index go to the end of its group. -/
theorem groups_rows (table : String) (columns : List String) (hprimary : index.name ≠ "PRIMARY")
    {seq : Nat} {group : IndexStructSeqMap} {rest : List (String × IndexStructSeqMap)}
    (hperm : m.entries.Perm ((index.name, group) :: rest)) (hlt : ∀ e ∈ group.entries, e.1 < seq) :
    ∃ group', ((indexRows table index columns seq).foldl groupIndex m).entries.Perm
        ((index.name, group') :: rest) ∧
      group'.entries = group.entries ++ seqEntries (indexRows table index columns seq) := by
  induction columns generalizing m seq group with
  | nil => exact ⟨group, hperm, (List.append_nil _).symm⟩
  | cons column columns ih =>
    have hfind : m.find? index.name = some group :=
      OrderedMap.find?_eq_some_iff.mpr (hperm.symm.subset List.mem_cons_self)
    have hend := OrderedMap.entries_set_of_lt hlt
      ⟨table, !index.isUnique, index.name, seq, column⟩
    have hgroup : groupIndex m ⟨table, !index.isUnique, index.name, seq, column⟩ =
        m.set index.name (group.set seq ⟨table, !index.isUnique, index.name, seq, column⟩) := by
      rw [groupIndex, if_neg hprimary, hfind]
      rfl
    rw [indexRows, List.foldl_cons, hgroup]
    have hlt' : ∀ e ∈ (group.set seq
        ⟨table, !index.isUnique, index.name, seq, column⟩).entries, e.1 < seq + 1 := by
      intro e he
      rw [hend] at he
      rcases List.mem_append.mp he with he | he
      · exact (hlt e he).trans (Nat.lt_succ_self seq)
      · rw [List.mem_singleton.mp he]
        exact Nat.lt_succ_self seq
    obtain ⟨group', hgroup', hentries⟩ := ih (OrderedMap.set_perm_of_mem hperm _) hlt'
    refine ⟨group', hgroup', ?_⟩
    rw [hentries, hend, List.append_assoc]
    rfl

/-- The rows of an index that has no group make one. -/
theorem groups_index (table : String) (hprimary : index.name ≠ "PRIMARY") (hne : index.columns ≠ [])
    (hfresh : index.name ∉ m.entries.map Prod.fst) :
    ((indexRows table index index.columns 1).foldl groupIndex m).entries.Perm
      ((index.name, seqMap table index) :: m.entries) := by
  have hmap : ∀ group : IndexStructSeqMap,
      group.entries = seqEntries (indexRows table index index.columns 1) →
        group = seqMap table index := fun group hentries => OrderedMap.ext hentries
  cases hcolumns : index.columns with
  | nil => exact absurd hcolumns hne
  | cons column columns =>
    rw [hcolumns] at hmap
    have hgroup : groupIndex m ⟨table, !index.isUnique, index.name, 1, column⟩ =
        m.set index.name
          (OrderedMap.empty.set 1 ⟨table, !index.isUnique, index.name, 1, column⟩) := by
      rw [groupIndex, if_neg hprimary, OrderedMap.find?_eq_none_iff.mpr hfresh]
      rfl
    have hlt : ∀ e ∈ ((OrderedMap.empty : IndexStructSeqMap).set 1
        ⟨table, !index.isUnique, index.name, 1, column⟩).entries, e.1 < 2 := by
      intro e he
      rw [OrderedMap.entries_set_empty, List.mem_singleton] at he
      rw [he]
      exact Nat.lt_succ_self 1
    obtain ⟨group, hperm, hentries⟩ := groups_rows table columns hprimary
      (m.set_perm_of_fresh hfresh _) hlt
    rw [OrderedMap.entries_set_empty] at hentries
    rw [indexRows, List.foldl_cons, hgroup]
    rwa [hmap group hentries] at hperm

/-- Every index has its group. -/
theorem groups_indexes (table : String) {indexes : List Index} (hprimary : ∀ i ∈ indexes, i.name ≠ "PRIMARY")
    (hne : ∀ i ∈ indexes, i.columns ≠ [])
    (hnames : (indexes.map Index.name ++ m.entries.map Prod.fst).Nodup) :
    ((indexes.flatMap fun i => indexRows table i i.columns 1).foldl groupIndex m).entries.Perm
      (indexes.map (fun i => (i.name, seqMap table i)) ++ m.entries) := by
  induction indexes generalizing m with
  | nil => exact List.Perm.refl _
  | cons i indexes ih =>
    rw [List.map_cons, List.cons_append, List.nodup_cons] at hnames
    have hi := groups_index table (hprimary i List.mem_cons_self)
      (hne i List.mem_cons_self) fun hmem => hnames.1 (List.mem_append_right _ hmem)
    rw [List.flatMap_cons, List.foldl_append]
    refine (ih (fun i hi => hprimary i (List.mem_cons_of_mem _ hi))
      (fun i hi => hne i (List.mem_cons_of_mem _ hi)) ?_).trans ?_
    · refine ((hi.map Prod.fst).append_left _).nodup_iff.mpr ?_
      exact List.perm_middle.nodup_iff.mpr (List.nodup_cons.mpr hnames)
    · exact (hi.append_left _).trans List.perm_middle

/-! ## Texts -/

variable {p : TableProfile n}

theorem find?_columnIndexDict (p : TableProfile n) (i : Fin n) :
    (columnIndexDict p).find? (p.columnName i) = some i := by
  have hkeys : (((List.finRange n).map fun i => (p.columnName i, i)).map Prod.fst).Nodup := by
    rw [List.map_map]
    exact (List.nodup_finRange n).map p.columnName_injective
  refine OrderedMap.find?_eq_some_iff.mpr ((OrderedMap.ofList_perm hkeys).symm.subset ?_)
  exact List.mem_map.mpr ⟨i, List.mem_finRange i, rfl⟩

theorem findColumns_cons {entry : Nat × IndexStruct} {seqMap : List (Nat × IndexStruct)} {i : Fin n}
    (hfind : (columnIndexDict p).find? entry.2.columnName = some i) :
    findColumns p (entry :: seqMap) = do return i :: (← findColumns p seqMap) := by
  rw [findColumns, hfind]

theorem findColumns_seqEntries {columnIndexes : List (Fin n)} (seq : Nat) :
    findColumns p (seqEntries (indexRows table index (p.columnNames columnIndexes) seq)) =
      .ok columnIndexes := by
  induction columnIndexes generalizing seq with
  | nil => rfl
  | cons i columnIndexes ih =>
    have hrest := ih (seq + 1)
    change findColumns p ((seq, ⟨table, !index.isUnique, index.name, seq, p.columnName i⟩) ::
      seqEntries (indexRows table index (p.columnNames columnIndexes) (seq + 1))) = _
    rw [findColumns_cons (find?_columnIndexDict p i), hrest]
    rfl

/-- The text that is made for an index. -/
def info (p : TableProfile n) (table : String) (index : Index) : IndexInfo :=
  ⟨index.name, table, createIndexText index.isUnique index.name p.name index.columns⟩

theorem makeIndexInfo_seqMap {columnIndexes : List (Fin n)}
    (hcolumns : index.columns = p.columnNames columnIndexes) (hne : index.columns ≠ []) :
    makeIndexInfo p (seqMap table index) = .ok (info p table index) := by
  obtain ⟨name, columns, isUnique⟩ := index
  obtain rfl : columns = p.columnNames columnIndexes := hcolumns
  unfold makeIndexInfo seqMap info
  dsimp only
  rw [findColumns_seqEntries]
  cases columnIndexes with
  | nil => exact absurd rfl hne
  | cons i columnIndexes =>
    change Except.ok (⟨name, table, createIndexText (!!isUnique) _ _ _⟩ : IndexInfo) = _
    rw [Bool.not_not]

theorem mapM_of_forall₂ {α β ε : Type} {f : α → Except ε β} {as : List α} {bs : List β}
    (hall : List.Forall₂ (fun a b => f a = .ok b) as bs) : as.mapM f = .ok bs := by
  induction hall with
  | nil => rfl
  | cons ha _ ih =>
    rw [List.mapM_cons, ha]
    dsimp only [bind, Except.bind]
    rw [ih]
    rfl

/-- The columns of all indexes are columns of the profile. -/
def KnowsColumns (p : TableProfile n) (indexes : List Index) : Prop :=
  ∀ i ∈ indexes, ∃ columnIndexes, i.columns = p.columnNames columnIndexes

/-- The agent gets the text of every index. -/
theorem runs_getIndexInfoVect (primaryKey : List String) {t : MySqlTable}
    (hknows : KnowsColumns p t.records) :
    ∃ infos, getIndexInfoVect primaryKey p t = .ok infos ∧
      infos.Perm (t.records.map (info p t.name)) := by
  have hprimary : ∀ i ∈ t.records, i.name ≠ "PRIMARY" := by
    rintro i hi heq
    exact t.not_primary i hi (by rw [id, heq]; decide)
  have hnames : (t.records.map Index.name ++
      (OrderedMap.empty : OrderedMap String IndexStructSeqMap).entries.map Prod.fst).Nodup := by
    have hlower := t.names_distinct
    rw [show (fun r : Index => lower (id r).name) = lower ∘ Index.name from rfl,
      ← List.map_map] at hlower
    rw [show (OrderedMap.empty : OrderedMap String IndexStructSeqMap).entries = [] from rfl,
      List.map_nil, List.append_nil]
    exact hlower.of_map _
  have hgroups := groups_indexes t.name hprimary t.columns_ne_nil hnames
  rw [show (OrderedMap.empty : OrderedMap String IndexStructSeqMap).entries = [] from rfl,
    List.append_nil] at hgroups
  have hrows : (getIndexes primaryKey t).foldl groupIndex .empty =
      (t.records.flatMap fun i => indexRows t.name i i.columns 1).foldl groupIndex .empty := by
    rw [getIndexes, List.foldl_append, groupIndex_primary fun row hrow => (of_mem_indexRows hrow).2]
  have hall : List.Forall₂ (fun entry info => makeIndexInfo p entry.2 = .ok info)
      (t.records.map fun i => (i.name, seqMap t.name i)) (t.records.map (info p t.name)) := by
    rw [List.forall₂_map_left_iff, List.forall₂_map_right_iff, List.forall₂_same]
    intro i hi
    obtain ⟨columnIndexes, hcolumns⟩ := hknows i hi
    exact makeIndexInfo_seqMap hcolumns (t.columns_ne_nil i hi)
  obtain ⟨infos, hinfos, hperm⟩ := List.perm_comp_forall₂ hgroups hall
  refine ⟨infos, ?_, hperm⟩
  unfold getIndexInfoVect
  rw [hrows]
  exact mapM_of_forall₂ hinfos

/-! ## What fixupIndexes relies on -/

def record (p : TableProfile n) (i : Index) : Record :=
  ⟨i, createIndexText i.isUnique i.name p.name i.columns⟩

theorem reads_record {i : Index} (hname : isName i.name = true) {columnIndexes : List (Fin n)}
    (hcolumns : i.columns = p.columnNames columnIndexes) (hne : i.columns ≠ []) :
    readIndexStatement (record p i).sql =
      some (.create i.isUnique i.name p.name i.columns) := by
  refine reads_createIndex i.isUnique hname ?_ ?_ hne
  · exact (spells_name (isName_of_isPlainName p.name_plain)).opens opens_blank_lparen (separates rfl)
  · rw [hcolumns]
    exact p.isName_columnNames columnIndexes

theorem reads_makeCreateIndexStatement {d : IndexDef n} (hd : d ∈ p.indexDefs) :
    readIndexStatement (makeCreateIndexStatement p d) =
      some (.create d.isUnique d.name p.name (p.columnNames d.columnIndexes)) :=
  reads_record (i := ⟨d.name, p.columnNames d.columnIndexes, d.isUnique⟩)
    (isName_of_isPlainName (p.plain_of_mem_indexDefs d hd)) rfl
    (p.columnNames_ne_nil (p.columnIndexes_ne_nil_of_mem d hd))

variable {t : MySqlTable}

theorem execSql_create {sql name : String} {isUnique : Bool} {columns : List String}
    (hread : readIndexStatement sql = some (.create isUnique name t.name columns))
    (hnodup : columns.Nodup) : execSql sql t = t.createIndex ⟨name, columns, isUnique⟩ := by
  unfold execSql
  rw [hread]
  dsimp only
  rw [if_neg (not_not_intro rfl), if_neg (not_not_intro hnodup)]

theorem execSql_drop {sql name : String}
    (hread : readIndexStatement sql = some (.drop name (some t.name))) :
    execSql sql t = t.dropIndex name := by
  unfold execSql
  rw [hread]
  exact if_pos rfl

/-- `DBAgentMySQL` does what `fixupIndexes` relies on. -/
def laws (primaryKey : List String) (p : TableProfile n) : (agent (n := n) primaryKey).Laws p where
  records t := t.records.map (record p)
  Serves t := t.Serves ((agent primaryKey).declaredIndex p) p ∧ KnowsColumns p t.records
  names_distinct t := by
    rw [List.map_map]
    exact t.names_distinct
  makeIndexName_distinct hdistinct := hdistinct
  getIndexInfoVect t hserves := by
    obtain ⟨infos, hinfos, hperm⟩ := runs_getIndexInfoVect primaryKey hserves.2
    refine ⟨infos, hinfos, ?_⟩
    rw [List.map_map, ← hserves.1.name]
    rw [show info p t.name = Record.info t.name ∘ record p from rfl] at hperm
    exact hperm
  declared_of_sql t hserves r hr hplain d hd hsql := by
    obtain ⟨i, hi, rfl⟩ := List.mem_map.mp hr
    obtain ⟨columnIndexes, hcolumns⟩ := hserves.2 i hi
    have hname : isName i.name = true := isName_of_isPlainName hplain
    have hread := reads_record hname hcolumns (t.columns_ne_nil i hi)
    rw [hsql] at hread
    have hsame := Option.some.inj ((reads_makeCreateIndexStatement hd).symm.trans hread)
    obtain ⟨hunique, hname, -, hcolumns⟩ := IndexStatement.create.inj hsame
    exact (Index.mk.injEq ..).mpr ⟨hname.symm, hcolumns.symm, hunique.symm⟩
  create t hserves d hd hfree := by
    have hread := reads_makeCreateIndexStatement hd
    rw [← hserves.1.name] at hread
    have hcreate : ∃ t', t.createIndex ⟨d.name, p.columnNames d.columnIndexes, d.isUnique⟩ = .ok t' ∧
        t'.name = t.name ∧ t'.columns = t.columns ∧ t'.allows = t.allows ∧
        t'.records = ⟨d.name, p.columnNames d.columnIndexes, d.isUnique⟩ :: t.records := by
      apply Table.runs_createIndex
      · exact p.columnNames_ne_nil (p.columnIndexes_ne_nil_of_mem d hd)
      · intro column hcolumn
        obtain ⟨i, -, rfl⟩ := List.mem_map.mp hcolumn
        exact hserves.1.columns i
      · exact lower_ne_primary (p.plain_of_mem_indexDefs d hd)
      · exact fun i hi => hfree (record p i) (List.mem_map_of_mem hi)
      · exact hserves.1.allows d hd
    obtain ⟨t', hcreate, hname, hcolumns, hallows, hrecords⟩ := hcreate
    have hnodup := (p.columnIndexes_nodup_of_mem d hd).map p.columnName_injective
    refine ⟨t', (execSql_create hread hnodup).trans hcreate,
      ⟨hserves.1.of_same hname hcolumns hallows, ?_⟩, List.Perm.of_eq ?_⟩
    · rw [hrecords]
      intro i hi
      rcases List.mem_cons.mp hi with rfl | hi
      · exact ⟨d.columnIndexes, rfl⟩
      · exact hserves.2 i hi
    · rw [hrecords]
      rfl
  drop t hserves r rest hperm hplain := by
    obtain ⟨i, hi, rfl⟩ := List.mem_map.mp (hperm.symm.subset List.mem_cons_self)
    have hfirst := List.perm_cons_erase hi
    obtain ⟨t', hdrop, hname, hcolumns, hallows, hrest⟩ := Table.runs_dropIndex hfirst
    have hread := reads_dropIndex_on (isName_of_isPlainName hplain)
      (isName_of_isPlainName p.name_plain)
    rw [← hserves.1.name] at hread ⊢
    refine ⟨t', (execSql_drop hread).trans hdrop, ⟨hserves.1.of_same hname hcolumns hallows, ?_⟩, ?_⟩
    · exact fun i hi => hserves.2 i (List.mem_of_mem_erase (hrest.subset hi))
    · exact (hrest.map (record p)).trans ((hfirst.map (record p)).symm.trans hperm).cons_inv

end Hatohol.Indexes.MySql

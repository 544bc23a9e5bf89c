import Hatohol.Agents.Fixup

/-!
# The agents and what fixupIndexes relies on

Both databases read the statements that their agents make as the indexes that these are about, and
both agents get the texts that are compared. For MySQL the rows of an index are put together again.
-/

namespace Hatohol.Indexes

open Container Sql

variable {n : Nat}

/-! ## Tables -/

namespace Table

variable {ρ : Type} {index : ρ → Index} {t : Table ρ index}

theorem runs_createIndex {r : ρ} (hne : (index r).columns ≠ [])
    (hcolumns : ∀ column ∈ (index r).columns, column ∈ t.columns)
    (hprimary : lower (index r).name ≠ "primary".toList)
    (hfree : ∀ r' ∈ t.records, lower (index r').name ≠ lower (index r).name)
    (hallows : t.allows (index r) = true) :
    ∃ t', t.createIndex r = .ok t' ∧ t'.name = t.name ∧ t'.columns = t.columns ∧
      t'.allows = t.allows ∧ t'.records = r :: t.records := by
  have hunknown : ¬((index r).columns = [] ∨ ∃ column ∈ (index r).columns, column ∉ t.columns) := by
    rintro (hnil | ⟨column, hmem, hnot⟩)
    · exact hne hnil
    · exact hnot (hcolumns column hmem)
  have hname : lower (index r).name ∉ t.records.map fun r => lower (index r).name := by
    intro hmem
    obtain ⟨r', hr', heq⟩ := List.mem_map.mp hmem
    exact hfree r' hr' heq
  have hallowed : ¬ t.allows (index r) = false := by rw [hallows]; exact Bool.noConfusion
  unfold createIndex
  rw [dif_neg hunknown, dif_neg hprimary, dif_neg hname, if_neg hallowed]
  exact ⟨_, rfl, rfl, rfl, rfl, rfl⟩

theorem runs_dropIndex {r : ρ} {rest : List ρ} (hperm : t.records.Perm (r :: rest)) :
    ∃ t', t.dropIndex (index r).name = .ok t' ∧ t'.name = t.name ∧ t'.columns = t.columns ∧
      t'.allows = t.allows ∧ t'.records.Perm rest := by
  have hmem : lower (index r).name ∈ t.records.map fun r => lower (index r).name :=
    List.mem_map.mpr ⟨r, hperm.symm.subset List.mem_cons_self, rfl⟩
  have hnames : ((r :: rest).map fun r => lower (index r).name).Nodup :=
    (hperm.map _).nodup_iff.mp t.names_distinct
  have hothers : ∀ r' ∈ rest, decide (lower (index r').name ≠ lower (index r).name) = true := by
    intro r' hr'
    refine decide_eq_true fun heq => (List.nodup_cons.mp hnames).1 ?_
    exact List.mem_map.mpr ⟨r', hr', heq⟩
  unfold dropIndex
  rw [if_pos hmem]
  refine ⟨_, rfl, rfl, rfl, rfl, (hperm.filter _).trans ?_⟩
  rw [List.filter_cons_of_neg (by simp), List.filter_eq_self.mpr hothers]

end Table

/-- The indexes of the profile can be made in the table. -/
structure Table.Serves {ρ : Type} {index : ρ → Index} (declaredIndex : IndexDef n → Index)
    (p : TableProfile n) (t : Table ρ index) : Prop where
  name : t.name = p.name
  columns : ∀ i, p.columnName i ∈ t.columns
  allows : ∀ d ∈ p.indexDefs, t.allows (declaredIndex d) = true

theorem Table.Serves.of_same {ρ : Type} {index : ρ → Index} {declaredIndex : IndexDef n → Index}
    {p : TableProfile n} {t t' : Table ρ index} (hserves : t.Serves declaredIndex p)
    (hname : t'.name = t.name) (hcolumns : t'.columns = t.columns) (hallows : t'.allows = t.allows) :
    t'.Serves declaredIndex p where
  name := hname.trans hserves.name
  columns i := hcolumns ▸ hserves.columns i
  allows d hd := hallows ▸ hserves.allows d hd

/-! ## Profiles -/

namespace TableProfile

variable (p : TableProfile n)

/-- A definition is that of a column or one of the array. -/
theorem indexDefs_cases {P : IndexDef n → Prop}
    (hcolumn : ∀ i isUnique, P ⟨p.columnName i, [i], isUnique⟩)
    (harray : ∀ d ∈ p.indexDefArray, P d) : ∀ d ∈ p.indexDefs, P d := by
  intro d hd
  rcases List.mem_append.mp hd with hd | hd
  · obtain ⟨i, -, hi⟩ := List.mem_filterMap.mp hd
    unfold columnIndexDef at hi
    split at hi
    · exact Option.some.inj hi ▸ hcolumn i true
    · exact Option.some.inj hi ▸ hcolumn i false
    · cases hi
  · exact harray d hd

theorem plain_of_mem_indexDefs : ∀ d ∈ p.indexDefs, isPlainName d.name = true :=
  p.indexDefs_cases (fun i _ => p.columnName_plain i) p.indexName_plain

theorem columnIndexes_ne_nil_of_mem : ∀ d ∈ p.indexDefs, d.columnIndexes ≠ [] :=
  p.indexDefs_cases (fun _ _ => List.cons_ne_nil _ _) p.columnIndexes_ne_nil

theorem columnIndexes_nodup_of_mem : ∀ d ∈ p.indexDefs, d.columnIndexes.Nodup :=
  p.indexDefs_cases (fun _ _ => List.nodup_singleton _) p.columnIndexes_nodup

theorem isName_columnNames (columnIndexes : List (Fin n)) :
    ∀ column ∈ p.columnNames columnIndexes, isName column = true := by
  intro column hcolumn
  obtain ⟨i, -, rfl⟩ := List.mem_map.mp hcolumn
  exact isName_of_isPlainName (p.columnName_plain i)

theorem columnNames_ne_nil {columnIndexes : List (Fin n)} (hne : columnIndexes ≠ []) :
    p.columnNames columnIndexes ≠ [] := fun hnil => hne (List.map_eq_nil_iff.mp hnil)

end TableProfile

/-! ## The texts -/

theorem opens_create_index (isUnique : Bool) :
    Opens ("CREATE " ++ (if isUnique then "UNIQUE " else "") ++ "INDEX ").toList
      (.word "CREATE" :: if isUnique then [.word "UNIQUE", .word "INDEX"] else [.word "INDEX"]) := by
  cases isUnique
  · exact opens_of_run .blank rfl rfl rfl fun _ => rfl
  · exact opens_of_run .blank rfl rfl rfl fun _ => rfl

theorem opens_drop_index : Opens "DROP INDEX ".toList [.word "DROP", .word "INDEX"] :=
  opens_of_run .blank rfl rfl rfl fun _ => rfl

theorem opens_blank_lparen : Opens " (".toList [.lparen] :=
  opens_of_run (.whole .lparen) rfl rfl rfl fun _ => rfl

/-- A statement that makes an index, with a blank before the parenthesis or without one. -/
theorem reads_createIndex (isUnique : Bool) {name table paren : String} {columns : List String}
    (hname : isName name = true)
    (hparen : Opens (table.toList ++ paren.toList) [.word table, .lparen])
    (hcolumns : ∀ column ∈ columns, isName column = true) (hne : columns ≠ []) :
    readIndexStatement ("CREATE " ++ (if isUnique then "UNIQUE " else "") ++ "INDEX " ++ name ++
      " ON " ++ table ++ paren ++ columnsText columns) =
      some (.create isUnique name table columns) := by
  have hspells := (opens_create_index isUnique).append
    ((spells_name hname).join opens_on (separates rfl)
      (hparen.append (spells_columnsText hcolumns)))
  have htext : ("CREATE " ++ (if isUnique then "UNIQUE " else "") ++ "INDEX " ++ name ++ " ON " ++
      table ++ paren ++ columnsText columns).toList =
      ("CREATE " ++ (if isUnique then "UNIQUE " else "") ++ "INDEX ").toList ++
        (name.toList ++ " ON ".toList ++
          (table.toList ++ paren.toList ++ (columnsText columns).toList)) := by
    simp only [String.toList_append, List.append_assoc]
  rw [← htext] at hspells
  have hread := readColumns_columnTokens hne
  unfold readIndexStatement
  rw [hspells.lex, Option.bind_some]
  cases isUnique
  · change (readColumns (columnTokens columns)).map (IndexStatement.create false name table) = _
    rw [hread, Option.map_some]
  · change (readColumns (columnTokens columns)).map (IndexStatement.create true name table) = _
    rw [hread, Option.map_some]

theorem reads_dropIndex {name : String} (hname : isName name = true) :
    readIndexStatement ("DROP INDEX " ++ name) = some (.drop name none) := by
  have hspells := opens_drop_index.append (spells_name hname)
  rw [← String.toList_append] at hspells
  unfold readIndexStatement
  rw [hspells.lex]
  rfl

theorem reads_dropIndex_on {name table : String} (hname : isName name = true)
    (htable : isName table = true) :
    readIndexStatement ("DROP INDEX " ++ name ++ " ON " ++ table) =
      some (.drop name (some table)) := by
  have hspells := opens_drop_index.append
    ((spells_name hname).join opens_on (separates rfl) (spells_name htable))
  rw [← List.append_assoc, ← List.append_assoc, ← String.toList_append, ← String.toList_append,
    ← String.toList_append] at hspells
  unfold readIndexStatement
  rw [hspells.lex]
  rfl

theorem lower_ne_primary {name : String} (hplain : isPlainName name = true) :
    lower name ≠ "primary".toList := by
  intro hprimary
  unfold isPlainName at hplain
  rw [show name.toList.map Char.toLower = _ from hprimary, Bool.and_eq_true] at hplain
  exact absurd hplain.2 (by decide)

theorem lower_append (s s' : String) : lower (s ++ s') = lower s ++ lower s' := by
  unfold lower
  rw [String.toList_append, List.map_append]

/-! ## SQLite -/

/-- An underscore keeps a word from being a keyword. -/
theorem wordToken_of_underscore {read : List Char} (hmem : '_' ∈ read) :
    wordToken read = .word (String.ofList read) := by
  have hupper : '_' ∈ read.map Char.toUpper := List.mem_map.mpr ⟨'_', hmem, rfl⟩
  have hnone : keywords.lookup (read.map Char.toUpper) = none := by
    rw [List.lookup_eq_none_iff]
    intro entry hentry
    rw [bne_iff_ne]
    intro heq
    have hkeywords : ∀ entry ∈ keywords, '_' ∉ entry.1 := by decide
    exact hkeywords entry hentry (heq ▸ hupper)
  unfold wordToken
  rw [hnone]

namespace Sqlite

theorem isName_makeIndexName {table name : String} (htable : isName table = true)
    (hname : isName name = true) : isName ("i_" ++ table ++ "_" ++ name) = true := by
  obtain ⟨c, cs, hcs, hc, hall⟩ := toList_of_isName htable
  obtain ⟨d, ds, hds, hd, hall'⟩ := toList_of_isName hname
  have hlist : ("i_" ++ table ++ "_" ++ name).toList = 'i' :: '_' :: c :: (cs ++ '_' :: d :: ds) := by
    rw [String.toList_append, String.toList_append, String.toList_append, hcs, hds]
    simp
  have hword := @wordToken_of_underscore ('i' :: '_' :: c :: (cs ++ '_' :: d :: ds))
    (List.mem_cons_of_mem _ List.mem_cons_self)
  rw [← hlist, String.ofList_toList, hlist] at hword
  have hchars : ('_' :: c :: (cs ++ '_' :: d :: ds)).all isNameChar = true := by
    rw [List.all_cons, List.all_cons, List.all_append, List.all_cons, List.all_cons, hall, hall',
      isNameChar_of_isNameStart hc, isNameChar_of_isNameStart hd]
    decide
  unfold isName
  rw [hlist]
  dsimp only
  rw [hword, hchars]
  simp only [beq_self_eq_true, Bool.and_true]
  decide

theorem makeIndexName_distinct {p : TableProfile n} (hdistinct : p.IndexNamesDistinct) :
    (p.indexDefs.map fun d => lower (makeIndexName p d)).Nodup := by
  have hlower : (fun d : IndexDef n => lower (makeIndexName p d)) =
      (fun name => lower ("i_" ++ p.name ++ "_") ++ name) ∘ fun d => lower d.name :=
    funext fun d => lower_append _ _
  rw [hlower, ← List.map_map]
  exact List.Nodup.map (fun _ _ => List.append_cancel_left) hdistinct

variable {p : TableProfile n} {t : SqliteTable}

theorem reads_makeCreateIndexStatement {d : IndexDef n} (hd : d ∈ p.indexDefs) :
    readIndexStatement (makeCreateIndexStatement p d) = some
      (.create d.isUnique (makeIndexName p d) p.name (p.columnNames d.columnIndexes)) :=
  reads_createIndex d.isUnique
    (isName_makeIndexName (isName_of_isPlainName p.name_plain)
      (isName_of_isPlainName (p.plain_of_mem_indexDefs d hd)))
    (opens_name_lparen (isName_of_isPlainName p.name_plain)) (p.isName_columnNames _)
    (p.columnNames_ne_nil (p.columnIndexes_ne_nil_of_mem d hd))

/-- The text of the statement is kept with the index. -/
theorem execSql_create {sql name : String} {isUnique : Bool} {columns : List String}
    (hread : readIndexStatement sql = some (.create isUnique name t.name columns)) :
    ∃ r : SqliteIndex, r.index = ⟨name, columns, isUnique⟩ ∧ r.sql = sql ∧
      execSql sql t = t.createIndex r := by
  unfold execSql
  split
  · rename_i isUnique' name' table' columns' hread'
    obtain ⟨rfl, rfl, rfl, rfl⟩ := IndexStatement.create.inj (Option.some.inj (hread.symm.trans hread'))
    rw [if_pos rfl]
    exact ⟨_, rfl, rfl, rfl⟩
  · rename_i hread'
    exact absurd (hread.symm.trans hread') (by simp)
  · rename_i hnot _
    exact absurd hread (hnot _ _ _ _)

theorem execSql_drop {sql name : String} (hread : readIndexStatement sql = some (.drop name none)) :
    execSql sql t = t.dropIndex name := by
  unfold execSql
  split
  · rename_i hread'
    exact absurd (hread.symm.trans hread') (by simp)
  · rename_i name' hread'
    rw [(IndexStatement.drop.inj (Option.some.inj (hread.symm.trans hread'))).1]
  · rename_i _ hnot
    exact absurd hread (hnot _)

def record (r : SqliteIndex) : Record := ⟨r.index, r.sql⟩

/-- `DBAgentSQLite3` does what `fixupIndexes` relies on. -/
def laws (p : TableProfile n) : (agent (n := n)).Laws p where
  records t := t.records.map record
  Serves t := t.Serves (agent.declaredIndex p) p
  names_distinct t := by
    rw [List.map_map]
    exact t.names_distinct
  makeIndexName_distinct := makeIndexName_distinct
  getIndexInfoVect t hserves := by
    refine ⟨_, rfl, List.Perm.of_eq ?_⟩
    rw [getIndexInfoVect, List.map_map, hserves.name]
    rfl
  declared_of_sql t _ r hr _ d hd hsql := by
    obtain ⟨i, -, rfl⟩ := List.mem_map.mp hr
    have hread := reads_makeCreateIndexStatement hd
    rw [show makeCreateIndexStatement p d = i.sql from hsql.symm] at hread
    exact i.sql_index _ _ _ _ hread
  create t hserves d hd hfree := by
    have hread := reads_makeCreateIndexStatement hd
    rw [← hserves.name] at hread
    obtain ⟨r, hindex, hsql, hexec⟩ := execSql_create hread
    have hcreate : ∃ t', t.createIndex r = .ok t' ∧ t'.name = t.name ∧ t'.columns = t.columns ∧
        t'.allows = t.allows ∧ t'.records = r :: t.records := by
      apply Table.runs_createIndex
      · rw [hindex]
        exact p.columnNames_ne_nil (p.columnIndexes_ne_nil_of_mem d hd)
      · intro column hcolumn
        rw [hindex] at hcolumn
        obtain ⟨i, -, rfl⟩ := List.mem_map.mp hcolumn
        exact hserves.columns i
      · rw [hindex]
        exact fun heq => absurd (congrArg List.head? heq) (by simp [lower, makeIndexName])
      · rw [hindex]
        exact fun r' hr' => hfree (record r') (List.mem_map_of_mem hr')
      · rw [hindex]
        exact hserves.allows d hd
    obtain ⟨t', hcreate, hname, hcolumns, hallows, hrecords⟩ := hcreate
    refine ⟨t', hexec.trans hcreate, hserves.of_same hname hcolumns hallows, List.Perm.of_eq ?_⟩
    rw [hrecords, List.map_cons, record, hindex, hsql]
    rfl
  drop t hserves r rest hperm hplain := by
    obtain ⟨i, hi, rfl⟩ := List.mem_map.mp (hperm.symm.subset List.mem_cons_self)
    obtain ⟨before, after, hsplit⟩ := List.append_of_mem hi
    have hfirst : t.records.Perm (i :: (before ++ after)) := hsplit ▸ List.perm_middle
    obtain ⟨t', hdrop, hname, hcolumns, hallows, hrest⟩ := Table.runs_dropIndex hfirst
    have hread := reads_dropIndex (isName_of_isPlainName hplain)
    refine ⟨t', (execSql_drop hread).trans hdrop, hserves.of_same hname hcolumns hallows, ?_⟩
    exact (hrest.map record).trans ((hfirst.map record).symm.trans hperm).cons_inv

end Sqlite

end Hatohol.Indexes

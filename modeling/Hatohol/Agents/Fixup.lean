import Hatohol.Agents.Indexes

/-!
# What fixupIndexes comes to

The indexes that are there are kept, made anew or dropped, until they are those of the profile. What
an agent and its database have to do for that is stated as laws, which hold for both agents as long
as the names and the columns of the indexes are ones that their statements can be about.
-/

namespace Hatohol.Indexes

open Container Sql

variable {n : Nat} {σ : Type}

/-- An index with the text that the agent gets for it. -/
structure Record where
  index : Index
  sql : String
  deriving DecidableEq, Repr

def Record.info (tableName : String) (r : Record) : IndexInfo := ⟨r.index.name, tableName, r.sql⟩

/-- The entry of `existingIndexMap`. -/
def Record.entry (tableName : String) (r : Record) : String × IndexInfo :=
  (r.index.name, r.info tableName)

/-- The index that a definition declares. -/
def Agent.declaredIndex (agent : Agent n σ) (p : TableProfile n) (d : IndexDef n) : Index :=
  ⟨agent.makeIndexName p d, p.columnNames d.columnIndexes, d.isUnique⟩

def Agent.declaredRecord (agent : Agent n σ) (p : TableProfile n) (d : IndexDef n) : Record :=
  ⟨agent.declaredIndex p d, agent.makeCreateIndexStatement p d⟩

/-- The names of the indexes of a profile are distinct in one case. -/
def TableProfile.IndexNamesDistinct (p : TableProfile n) : Prop :=
  (p.indexDefs.map fun d => lower d.name).Nodup

/-- What `fixupIndexes` relies on. -/
structure Agent.Laws (agent : Agent n σ) (p : TableProfile n) where
  records : σ → List Record
  /-- The database has the table of the profile. -/
  Serves : σ → Prop
  names_distinct : ∀ s, ((records s).map fun r => lower r.index.name).Nodup
  makeIndexName_distinct : p.IndexNamesDistinct →
    (p.indexDefs.map fun d => lower (agent.makeIndexName p d)).Nodup
  getIndexInfoVect : ∀ s, Serves s → ∃ infos, agent.getIndexInfoVect p s = .ok infos ∧
    infos.Perm ((records s).map (Record.info p.name))
  declared_of_sql : ∀ s, Serves s → ∀ r ∈ records s, isPlainName r.index.name = true →
    ∀ d ∈ p.indexDefs, r.sql = agent.makeCreateIndexStatement p d →
      r.index = agent.declaredIndex p d
  create : ∀ s, Serves s → ∀ d ∈ p.indexDefs,
    (∀ r ∈ records s, lower r.index.name ≠ lower (agent.makeIndexName p d)) →
    ∃ s', agent.execSql (agent.makeCreateIndexStatement p d) s = .ok s' ∧ Serves s' ∧
      (records s').Perm (agent.declaredRecord p d :: records s)
  drop : ∀ s, Serves s → ∀ r rest, (records s).Perm (r :: rest) → isPlainName r.index.name = true →
    ∃ s', agent.execSql (agent.makeDropIndexStatement r.index.name p.name) s = .ok s' ∧ Serves s' ∧
      (records s').Perm rest

/-- The names of the indexes that are there can be written into statements, and none of them is the
    name of a declared index in another case. -/
structure Agent.CanFix (agent : Agent n σ) (p : TableProfile n) (names : List String) : Prop where
  plain : ∀ name ∈ names, isPlainName name = true
  same_case : ∀ name ∈ names, ∀ d ∈ p.indexDefs,
    lower name = lower (agent.makeIndexName p d) → name = agent.makeIndexName p d

section Laws

variable {agent : Agent n σ} {p : TableProfile n} (laws : agent.Laws p)

/-- The database has the table with these indexes. -/
structure Agent.Laws.Holds (rs : List Record) (s : σ) : Prop where
  serves : laws.Serves s
  perm : (laws.records s).Perm rs

variable {laws} {rs kept : List Record} {ctx : FixupContext σ}

theorem Agent.Laws.Holds.names_distinct {s : σ} (hholds : laws.Holds rs s) :
    (rs.map fun r => lower r.index.name).Nodup :=
  (hholds.perm.map _).nodup_iff.mp (laws.names_distinct s)

theorem exec_eq {sql : String} {s' : σ} (hexec : agent.execSql sql ctx.database = .ok s') :
    agent.exec sql ctx = .ok { ctx with database := s', issued := ctx.issued ++ [sql] } := by
  unfold Agent.exec
  rw [hexec]
  rfl

theorem runs_createIndex (hholds : laws.Holds rs ctx.database) {d : IndexDef n}
    (hd : d ∈ p.indexDefs)
    (hfree : ∀ r ∈ rs, lower r.index.name ≠ lower (agent.makeIndexName p d)) :
    ∃ ctx', agent.createIndex p d ctx = .ok ctx' ∧
      ctx'.existingIndexMap = ctx.existingIndexMap ∧
      laws.Holds (agent.declaredRecord p d :: rs) ctx'.database := by
  obtain ⟨s', hexec, hserves, hrecords⟩ :=
    laws.create _ hholds.serves d hd fun r hr => hfree r (hholds.perm.subset hr)
  exact ⟨_, exec_eq hexec, rfl, hserves, hrecords.trans (hholds.perm.cons _)⟩

theorem runs_dropIndex {r : Record} (hholds : laws.Holds (r :: rs) ctx.database)
    (hplain : isPlainName r.index.name = true) :
    ∃ ctx', agent.dropIndex r.index.name p.name ctx = .ok ctx' ∧
      ctx'.existingIndexMap = ctx.existingIndexMap ∧ laws.Holds rs ctx'.database := by
  obtain ⟨s', hexec, hserves, hrecords⟩ :=
    laws.drop _ hholds.serves r _ hholds.perm hplain
  exact ⟨_, exec_eq hexec, rfl, hserves, hrecords⟩

section Proc

variable {d : IndexDef n} {info : IndexInfo}

theorem proc_of_none (hfind : ctx.existingIndexMap.find? (agent.makeIndexName p d) = none) :
    agent.proc p d ctx = agent.createIndex p d ctx := by
  unfold Agent.proc
  dsimp only
  rw [hfind]

theorem proc_of_same (hfind : ctx.existingIndexMap.find? (agent.makeIndexName p d) = some info)
    (hsql : agent.makeCreateIndexStatement p d = info.sql) :
    agent.proc p d ctx = .ok { ctx with
      existingIndexMap := ctx.existingIndexMap.erase (agent.makeIndexName p d) } := by
  unfold Agent.proc
  dsimp only
  rw [hfind]
  dsimp only
  rw [if_neg (not_not_intro hsql)]
  rfl

theorem proc_of_other {ctx₁ ctx₂ : FixupContext σ}
    (hfind : ctx.existingIndexMap.find? (agent.makeIndexName p d) = some info)
    (hsql : agent.makeCreateIndexStatement p d ≠ info.sql)
    (hdrop : agent.dropIndex (agent.makeIndexName p d) p.name ctx = .ok ctx₁)
    (hcreate : agent.createIndex p d ctx₁ = .ok ctx₂) :
    agent.proc p d ctx = .ok { ctx₂ with
      existingIndexMap := ctx₂.existingIndexMap.erase (agent.makeIndexName p d) } := by
  unfold Agent.proc
  dsimp only
  rw [hfind]
  dsimp only
  rw [if_pos hsql, hdrop]
  change (agent.createIndex p d ctx₁ >>= _) = _
  rw [hcreate]
  rfl

end Proc

/-! ## The first run -/

/-- Where `fixupIndexes` is: the indexes that are there are those of the map, which have not been
    looked at, and the declared ones that have been processed. -/
structure Stage (laws : agent.Laws p) (kept : List Record) (done : List (IndexDef n))
    (ctx : FixupContext σ) : Prop where
  map : ctx.existingIndexMap.entries.Perm (kept.map (Record.entry p.name))
  holds : laws.Holds (kept ++ done.map (agent.declaredRecord p)) ctx.database
  canFix : agent.CanFix p (kept.map fun r => r.index.name)

/-- An index that has been processed goes to the others. -/
theorem perm_processed (agent : Agent n σ) (p : TableProfile n) (kept : List Record)
    (done : List (IndexDef n)) (d : IndexDef n) :
    (agent.declaredRecord p d :: (kept ++ done.map (agent.declaredRecord p))).Perm
      (kept ++ (done ++ [d]).map (agent.declaredRecord p)) := by
  rw [List.map_append, ← List.append_assoc]
  exact (List.perm_append_singleton _ _).symm

theorem Agent.CanFix.mono {names names' : List String} (hfix : agent.CanFix p names)
    (hsub : names' ⊆ names) : agent.CanFix p names' where
  plain name hname := hfix.plain name (hsub hname)
  same_case name hname := hfix.same_case name (hsub hname)

/-- What the map has under a name is an index with that name. -/
theorem exists_record {done : List (IndexDef n)} (hstage : Stage laws kept done ctx)
    {name : String} {info : IndexInfo} (hfind : ctx.existingIndexMap.find? name = some info) :
    ∃ r rest, kept.Perm (r :: rest) ∧ r.index.name = name ∧ info = r.info p.name := by
  have hmem := hstage.map.subset (OrderedMap.find?_eq_some_iff.mp hfind)
  obtain ⟨r, hr, hentry⟩ := List.mem_map.mp hmem
  obtain ⟨hname, hinfo⟩ := Prod.mk.inj hentry
  exact ⟨r, kept.erase r, List.perm_cons_erase hr, hname, hinfo.symm⟩

/-- One definition is processed. -/
theorem Stage.proc {done todo : List (IndexDef n)} {d : IndexDef n}
    (hdefs : p.indexDefs = done ++ d :: todo) (hdistinct : p.IndexNamesDistinct)
    (hstage : Stage laws kept done ctx) :
    ∃ kept' ctx', agent.proc p d ctx = .ok ctx' ∧ Stage laws kept' (done ++ [d]) ctx' := by
  have hd : d ∈ p.indexDefs := hdefs ▸ List.mem_append_right _ List.mem_cons_self
  have hdone : ∀ r ∈ done.map (agent.declaredRecord p),
      lower r.index.name ≠ lower (agent.makeIndexName p d) := by
    have hnames := laws.makeIndexName_distinct hdistinct
    rw [hdefs, List.map_append, List.map_cons] at hnames
    rintro r hr heq
    obtain ⟨d', hd', rfl⟩ := List.mem_map.mp hr
    exact (List.nodup_append.mp hnames).2.2 _ (List.mem_map_of_mem hd') _ List.mem_cons_self heq
  cases hfind : ctx.existingIndexMap.find? (agent.makeIndexName p d) with
  | none =>
    have hkept : ∀ r ∈ kept, lower r.index.name ≠ lower (agent.makeIndexName p d) := by
      intro r hr heq
      have hname := hstage.canFix.same_case _ (List.mem_map_of_mem hr) d hd heq
      have hkey := (hstage.map.map Prod.fst).symm.subset
        (List.mem_map_of_mem (List.mem_map_of_mem hr))
      exact OrderedMap.find?_eq_none_iff.mp hfind (hname ▸ hkey)
    obtain ⟨ctx', hcreate, hmap, hholds⟩ := runs_createIndex hstage.holds hd fun r hr =>
      (List.mem_append.mp hr).elim (hkept r) (hdone r)
    refine ⟨kept, ctx', (proc_of_none hfind).trans hcreate, hmap ▸ hstage.map, ?_, hstage.canFix⟩
    exact ⟨hholds.serves, hholds.perm.trans (perm_processed agent p kept done d)⟩
  | some info =>
    obtain ⟨r, rest, hperm, hname, rfl⟩ := exists_record hstage hfind
    have hentries := hstage.map.trans (hperm.map _)
    rw [List.map_cons, Record.entry, hname] at hentries
    have hholds : laws.Holds (r :: (rest ++ done.map (agent.declaredRecord p))) ctx.database :=
      ⟨hstage.holds.serves, hstage.holds.perm.trans (hperm.append_right _)⟩
    have hfix : agent.CanFix p (rest.map fun r => r.index.name) :=
      hstage.canFix.mono fun name hname =>
        (hperm.map _).symm.subset (List.mem_cons_of_mem _ hname)
    have hplain : isPlainName r.index.name = true :=
      hstage.canFix.plain _ (List.mem_map_of_mem (hperm.symm.subset List.mem_cons_self))
    by_cases hsql : agent.makeCreateIndexStatement p d = (r.info p.name).sql
    · have hrecord : r = agent.declaredRecord p d := by
        have hindex := laws.declared_of_sql _ hholds.serves r
          (hholds.perm.symm.subset List.mem_cons_self) hplain d hd hsql.symm
        calc r = ⟨r.index, r.sql⟩ := rfl
          _ = agent.declaredRecord p d := by rw [hindex, ← show _ = r.sql from hsql]; rfl
      refine ⟨rest, _, proc_of_same hfind hsql, OrderedMap.erase_perm hentries, ⟨hholds.serves, ?_⟩, hfix⟩
      refine hholds.perm.trans ?_
      rw [hrecord]
      exact perm_processed agent p rest done d
    · have hfree : ∀ r' ∈ rest ++ done.map (agent.declaredRecord p),
          lower r'.index.name ≠ lower (agent.makeIndexName p d) := by
        intro r' hr' heq
        have hnames := hholds.names_distinct
        rw [List.map_cons, hname, ← heq] at hnames
        exact (List.nodup_cons.mp hnames).1 (List.mem_map.mpr ⟨r', hr', rfl⟩)
      obtain ⟨ctx₁, hdrop, hmap₁, hholds₁⟩ := runs_dropIndex hholds hplain
      obtain ⟨ctx₂, hcreate, hmap₂, hholds₂⟩ := runs_createIndex hholds₁ hd hfree
      rw [hname] at hdrop
      refine ⟨rest, _, proc_of_other hfind hsql hdrop hcreate, ?_, ?_, hfix⟩
      · rw [hmap₂, hmap₁]
        exact OrderedMap.erase_perm hentries
      · exact ⟨hholds₂.serves, hholds₂.perm.trans (perm_processed agent p rest done d)⟩

/-- All definitions are processed, by induction on those that remain. -/
theorem Stage.procs {done todo : List (IndexDef n)} (hdefs : p.indexDefs = done ++ todo)
    (hdistinct : p.IndexNamesDistinct) (hstage : Stage laws kept done ctx) :
    ∃ kept' ctx', agent.procs p todo ctx = .ok ctx' ∧ Stage laws kept' p.indexDefs ctx' := by
  induction todo generalizing done kept ctx with
  | nil =>
    rw [List.append_nil] at hdefs
    exact ⟨kept, ctx, rfl, hdefs ▸ hstage⟩
  | cons d todo ih =>
    obtain ⟨kept₁, ctx₁, hproc, hstage₁⟩ := hstage.proc hdefs hdistinct
    obtain ⟨kept', ctx', hprocs, hstage'⟩ :=
      ih (by rw [hdefs, List.append_assoc, List.singleton_append]) hstage₁
    refine ⟨kept', ctx', ?_, hstage'⟩
    rw [Agent.procs, hproc]
    exact hprocs

/-- What is in the map when the loop begins is dropped. -/
theorem runs_dropRemaining {entries : List (String × IndexInfo)}
    (hentries : entries.Perm (kept.map (Record.entry p.name)))
    (hplain : ∀ r ∈ kept, isPlainName r.index.name = true)
    (hholds : laws.Holds (kept ++ rs) ctx.database) :
    ∃ ctx', agent.dropRemaining entries ctx = .ok ctx' ∧ laws.Holds rs ctx'.database := by
  induction entries generalizing kept ctx with
  | nil =>
    obtain rfl : kept = [] := List.map_eq_nil_iff.mp hentries.nil_eq.symm
    exact ⟨ctx, rfl, hholds⟩
  | cons e entries ih =>
    obtain ⟨r, hr, rfl⟩ := List.mem_map.mp (hentries.subset List.mem_cons_self)
    have hperm := List.perm_cons_erase hr
    have hfirst : laws.Holds (r :: (kept.erase r ++ rs)) ctx.database :=
      ⟨hholds.serves, hholds.perm.trans (hperm.append_right _)⟩
    obtain ⟨ctx₁, hdrop, -, hholds₁⟩ := runs_dropIndex hfirst (hplain r hr)
    obtain ⟨ctx', hrest, hholds'⟩ := ih ((hentries.trans (hperm.map _)).cons_inv)
      (fun r' hr' => hplain r' (List.mem_of_mem_erase hr')) hholds₁
    refine ⟨ctx', ?_, hholds'⟩
    rw [Record.entry, Agent.dropRemaining]
    change (agent.dropIndex r.index.name p.name ctx >>= _) = _
    rw [hdrop]
    exact hrest

/-- What `fixupIndexes` begins with. -/
theorem gathers_existing {s : σ} (hholds : laws.Holds rs s) :
    ∃ infos, agent.getIndexInfoVect p s = .ok infos ∧
      (OrderedMap.ofList (infos.map fun info => (info.name, info))).entries.Perm
        (rs.map (Record.entry p.name)) := by
  obtain ⟨infos, hinfos, hperm⟩ := laws.getIndexInfoVect s hholds.serves
  have hentries : (infos.map fun info => (info.name, info)).Perm
      (rs.map (Record.entry p.name)) := by
    have hall := (hperm.trans (hholds.perm.map _)).map fun info => (info.name, info)
    rwa [List.map_map] at hall
  refine ⟨infos, hinfos, (OrderedMap.ofList_perm ?_).trans hentries⟩
  rw [(hentries.map Prod.fst).nodup_iff, List.map_map]
  have hlower := hholds.names_distinct
  rw [show (fun r : Record => lower r.index.name) =
    lower ∘ (Prod.fst ∘ Record.entry p.name) from rfl, ← List.map_map] at hlower
  exact hlower.of_map _

theorem fixupIndexes_eq {s : σ} {infos : List IndexInfo}
    (hinfos : agent.getIndexInfoVect p s = .ok infos) {ctx' : FixupContext σ}
    (hprocs : agent.procs p p.indexDefs
      ⟨OrderedMap.ofList (infos.map fun info => (info.name, info)), s, []⟩ = .ok ctx') :
    agent.fixupIndexes p s = agent.dropRemaining ctx'.existingIndexMap.entries ctx' := by
  unfold Agent.fixupIndexes
  rw [hinfos]
  change (agent.procs p p.indexDefs _ >>= _) = _
  rw [hprocs]
  rfl

/-- The indexes become the declared ones. -/
theorem fixupIndexes_declares {s : σ} (hdistinct : p.IndexNamesDistinct)
    (hholds : laws.Holds rs s) (hfix : agent.CanFix p (rs.map fun r => r.index.name)) :
    ∃ ctx, agent.fixupIndexes p s = .ok ctx ∧
      laws.Holds (p.indexDefs.map (agent.declaredRecord p)) ctx.database := by
  obtain ⟨infos, hinfos, hmap⟩ := gathers_existing hholds
  have hstage : Stage laws rs []
      ⟨OrderedMap.ofList (infos.map fun info => (info.name, info)), s, []⟩ :=
    ⟨hmap, by rwa [List.map_nil, List.append_nil], hfix⟩
  obtain ⟨kept, ctx', hprocs, hstage'⟩ := hstage.procs (List.nil_append _).symm hdistinct
  rw [fixupIndexes_eq hinfos hprocs]
  exact runs_dropRemaining hstage'.map
    (fun r hr => hstage'.canFix.plain _ (List.mem_map_of_mem hr)) hstage'.holds

/-! ## The second run -/

/-- The indexes of the map are declared ones that are still to be processed. -/
structure Settled (agent : Agent n σ) (p : TableProfile n) (todo : List (IndexDef n))
    (ctx : FixupContext σ) : Prop where
  map : ctx.existingIndexMap.entries.Perm
    (todo.map fun d => (agent.declaredRecord p d).entry p.name)
  issued : ctx.issued = []

/-- A definition whose index is there takes it from the map. -/
theorem Settled.proc {d : IndexDef n} {todo : List (IndexDef n)}
    (hsettled : Settled agent p (d :: todo) ctx) :
    ∃ ctx', agent.proc p d ctx = .ok ctx' ∧ Settled agent p todo ctx' := by
  have hfind : ctx.existingIndexMap.find? (agent.makeIndexName p d) =
      some ((agent.declaredRecord p d).info p.name) :=
    OrderedMap.find?_eq_some_iff.mpr (hsettled.map.symm.subset List.mem_cons_self)
  exact ⟨_, proc_of_same hfind rfl, OrderedMap.erase_perm hsettled.map, hsettled.issued⟩

theorem Settled.procs {todo : List (IndexDef n)} (hsettled : Settled agent p todo ctx) :
    ∃ ctx', agent.procs p todo ctx = .ok ctx' ∧ Settled agent p [] ctx' := by
  induction todo generalizing ctx with
  | nil => exact ⟨ctx, rfl, hsettled⟩
  | cons d todo ih =>
    obtain ⟨ctx₁, hproc, hsettled₁⟩ := hsettled.proc
    obtain ⟨ctx', hprocs, hsettled'⟩ := ih hsettled₁
    refine ⟨ctx', ?_, hsettled'⟩
    rw [Agent.procs, hproc]
    exact hprocs

/-- Nothing is executed when the indexes are the declared ones. -/
theorem fixupIndexes_settled {s : σ}
    (hholds : laws.Holds (p.indexDefs.map (agent.declaredRecord p)) s) :
    ∃ ctx, agent.fixupIndexes p s = .ok ctx ∧ ctx.issued = [] := by
  obtain ⟨infos, hinfos, hmap⟩ := gathers_existing hholds
  rw [List.map_map] at hmap
  have hall : Settled agent p p.indexDefs
      ⟨OrderedMap.ofList (infos.map fun info => (info.name, info)), s, []⟩ := ⟨hmap, rfl⟩
  obtain ⟨ctx', hprocs, hsettled⟩ := hall.procs
  rw [fixupIndexes_eq hinfos hprocs, show ctx'.existingIndexMap.entries = [] from
    List.perm_nil.mp hsettled.map]
  exact ⟨ctx', rfl, hsettled.issued⟩

end Laws

end Hatohol.Indexes

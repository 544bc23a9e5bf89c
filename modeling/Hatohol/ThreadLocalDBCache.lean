import Hatohol.Machine.Steps
import Mathlib.Data.Fintype.Basic
import Mathlib.Data.List.Nodup
import Mathlib.Logic.Function.Basic

/-!
# Database handles of threads

Every thread has a context of its own with a handle of the database
(server/src/ThreadLocalDBCache.cc). The handles of all threads stand in a list, the one that was
used last in front; a map has the place of each handle in the list, so that it is moved without a
search.
-/

namespace Hatohol.ThreadLocalDBCache

/-! ## The list with the map -/

/-- An iterator of `list` is the number of its node. -/
structure LRU (DB : Type) where
  list : List (Nat × DB)
  map : DB → Option Nat
  nextNode : Nat

namespace LRU

variable {DB : Type}

def empty : LRU DB := ⟨[], fun _ => none, 0⟩

def handles (lru : LRU DB) : List DB := lru.list.map Prod.snd

def eraseNode (list : List (Nat × DB)) (itr : Nat) : List (Nat × DB) :=
  list.eraseP fun node => node.1 == itr

variable [DecidableEq DB]

def touch (lru : LRU DB) (db : DB) : LRU DB where
  list := (lru.nextNode, db) :: (lru.map db).elim lru.list (eraseNode lru.list)
  map := Function.update lru.map db (some lru.nextNode)
  nextNode := lru.nextNode + 1

/-- The assertion fails for a handle that is not in the map. -/
def erase (lru : LRU DB) (db : DB) : Option (LRU DB) :=
  (lru.map db).map fun itr =>
    { lru with list := eraseNode lru.list itr, map := Function.update lru.map db none }

/-- The map has the nodes of the list. -/
structure Sound (lru : LRU DB) : Prop where
  nodup : lru.handles.Nodup
  nodes : (lru.list.map Prod.fst).Nodup
  mem_iff : ∀ itr db, (itr, db) ∈ lru.list ↔ lru.map db = some itr
  fresh : ∀ node ∈ lru.list, node.1 < lru.nextNode

omit [DecidableEq DB] in
theorem sound_empty : (empty : LRU DB).Sound where
  nodup := List.nodup_nil
  nodes := List.nodup_nil
  mem_iff _ _ := ⟨fun h => absurd h List.not_mem_nil, nofun⟩
  fresh _ h := absurd h List.not_mem_nil

omit [DecidableEq DB] in
theorem Sound.mem_handles_iff {lru : LRU DB} (h : lru.Sound) (db : DB) :
    db ∈ lru.handles ↔ (lru.map db).isSome = true := by
  rw [handles, List.mem_map, Option.isSome_iff_exists]
  constructor
  · rintro ⟨⟨itr, db'⟩, hmem, rfl⟩
    exact ⟨itr, (h.mem_iff itr db').mp hmem⟩
  · rintro ⟨itr, hmap⟩
    exact ⟨(itr, db), (h.mem_iff itr db).mpr hmap, rfl⟩

/-- The node of a handle is where the handle is. -/
theorem map_snd_eraseNode {list : List (Nat × DB)} (hnodup : (list.map Prod.snd).Nodup)
    (hnodes : (list.map Prod.fst).Nodup) {itr : Nat} {db : DB} (hmem : (itr, db) ∈ list) :
    (eraseNode list itr).map Prod.snd = (list.map Prod.snd).erase db := by
  induction list with
  | nil => exact absurd hmem List.not_mem_nil
  | cons node rest ih =>
    obtain ⟨itr', db'⟩ := node
    obtain ⟨hdb, hrest⟩ := List.nodup_cons.mp hnodup
    obtain ⟨hitr, hnodesRest⟩ := List.nodup_cons.mp hnodes
    rcases List.mem_cons.mp hmem with heq | hmem
    · obtain ⟨rfl, rfl⟩ := Prod.mk.inj heq
      rw [eraseNode, List.eraseP_cons_of_pos (by simp), List.map_cons, List.erase_cons_head]
    · have hne : itr' ≠ itr := by
        rintro rfl
        exact hitr (List.mem_map.mpr ⟨_, hmem, rfl⟩)
      have hne' : db' ≠ db := by
        rintro rfl
        exact hdb (List.mem_map.mpr ⟨_, hmem, rfl⟩)
      rw [eraseNode, List.eraseP_cons_of_neg (by simpa using hne), List.map_cons, List.map_cons,
        List.erase_cons_tail (by simpa using hne')]
      exact congrArg (db' :: ·) (ih hrest hnodesRest hmem)

omit [DecidableEq DB] in
theorem mem_eraseNode_iff {list : List (Nat × DB)} (hnodes : (list.map Prod.fst).Nodup) {itr : Nat}
    {node : Nat × DB} : node ∈ eraseNode list itr ↔ node ∈ list ∧ node.1 ≠ itr := by
  induction list with
  | nil => simp [eraseNode]
  | cons first rest ih =>
    obtain ⟨hfirst, hrest⟩ := List.nodup_cons.mp hnodes
    by_cases heq : first.1 = itr
    · rw [eraseNode, List.eraseP_cons_of_pos (by simpa using heq), List.mem_cons]
      constructor
      · intro hmem
        refine ⟨.inr hmem, fun hsame => hfirst ?_⟩
        exact List.mem_map.mpr ⟨node, hmem, hsame.trans heq.symm⟩
      · rintro ⟨rfl | hmem, hne⟩
        · exact absurd heq hne
        · exact hmem
    · rw [eraseNode, List.eraseP_cons_of_neg (by simpa using heq), List.mem_cons, List.mem_cons]
      rw [eraseNode] at ih
      rw [ih hrest]
      constructor
      · rintro (rfl | ⟨hmem, hne⟩)
        · exact ⟨.inl rfl, heq⟩
        · exact ⟨.inr hmem, hne⟩
      · rintro ⟨rfl | hmem, hne⟩
        · exact .inl rfl
        · exact .inr ⟨hmem, hne⟩

/-- To erase a handle is to erase it from the list of the handles. -/
theorem Sound.erase {lru lru' : LRU DB} (h : lru.Sound) {db : DB}
    (hruns : lru.erase db = some lru') :
    lru'.Sound ∧ lru'.handles = lru.handles.erase db := by
  obtain ⟨itr, hmap, rfl⟩ := Option.map_eq_some_iff.mp hruns
  have hmem := (h.mem_iff itr db).mpr hmap
  have hhandles : (eraseNode lru.list itr).map Prod.snd = lru.handles.erase db :=
    map_snd_eraseNode h.nodup h.nodes hmem
  refine ⟨⟨?_, ?_, fun itr' db' => ?_, fun node hnode => ?_⟩, hhandles⟩
  · rw [handles, hhandles]
    exact h.nodup.erase db
  · exact (List.eraseP_sublist.map Prod.fst).nodup h.nodes
  · change _ ↔ Function.update lru.map db none db' = some itr'
    rw [mem_eraseNode_iff h.nodes, h.mem_iff]
    by_cases hdb : db' = db
    · subst hdb
      rw [Function.update_self, hmap, Option.some_inj]
      exact ⟨fun hsame => absurd hsame.1.symm hsame.2, nofun⟩
    · rw [Function.update_of_ne hdb]
      refine ⟨fun hsame => hsame.1, fun hsame => ⟨hsame, ?_⟩⟩
      rintro rfl
      have heq := List.inj_on_of_nodup_map h.nodes ((h.mem_iff _ _).mpr hsame) hmem rfl
      exact hdb (Prod.mk.inj heq).2
  · exact h.fresh node (List.mem_of_mem_eraseP hnode)

/-- To touch a handle is to move it to the front. -/
theorem Sound.touch {lru : LRU DB} (h : lru.Sound) (db : DB) :
    (lru.touch db).Sound ∧ (lru.touch db).handles = db :: lru.handles.erase db := by
  have hpart : ∃ lru' : LRU DB, lru'.Sound ∧ lru'.handles = lru.handles.erase db ∧
      lru'.map = Function.update lru.map db none ∧ lru'.nextNode = lru.nextNode ∧
      (lru.touch db).list = (lru.nextNode, db) :: lru'.list := by
    cases hmap : lru.map db with
    | none =>
      refine ⟨lru, h, ?_, ?_, rfl, ?_⟩
      · rw [List.erase_of_not_mem]
        rw [h.mem_handles_iff, hmap]
        exact Bool.false_ne_true
      · rw [← hmap, Function.update_eq_self]
      · rw [LRU.touch, hmap]
        rfl
    | some itr =>
      have hruns : lru.erase db = some { lru with
          list := eraseNode lru.list itr, map := Function.update lru.map db none } := by
        rw [LRU.erase, hmap]
        rfl
      obtain ⟨hsound, hhandles⟩ := h.erase hruns
      refine ⟨_, hsound, hhandles, rfl, rfl, ?_⟩
      rw [LRU.touch, hmap]
      rfl
  obtain ⟨lru', hsound, hhandles, hmap, hnext, hlist⟩ := hpart
  have hnot : db ∉ lru'.handles := by
    rw [hsound.mem_handles_iff, hmap, Function.update_self]
    exact Bool.false_ne_true
  have hnew : (lru.touch db).handles = db :: lru'.handles := by rw [handles, hlist]; rfl
  refine ⟨⟨?_, ?_, fun itr db' => ?_, fun node hnode => ?_⟩, hnew.trans (by rw [hhandles])⟩
  · rw [hnew]
    exact List.nodup_cons.mpr ⟨hnot, hsound.nodup⟩
  · rw [hlist, List.map_cons]
    refine List.nodup_cons.mpr ⟨fun hmem => ?_, hsound.nodes⟩
    obtain ⟨node, hnode, hsame⟩ := List.mem_map.mp hmem
    have hlt := hsound.fresh node hnode
    rw [hnext] at hlt
    exact absurd hsame (Nat.ne_of_lt hlt)
  · change _ ↔ Function.update lru.map db (some lru.nextNode) db' = some itr
    rw [hlist, List.mem_cons, hsound.mem_iff, hmap]
    by_cases hdb : db' = db
    · subst hdb
      rw [Function.update_self, Function.update_self, Option.some_inj, Prod.mk.injEq]
      exact ⟨fun hor => hor.elim (fun heq => heq.1.symm) nofun, fun heq => .inl ⟨heq.symm, rfl⟩⟩
    · rw [Function.update_of_ne hdb, Function.update_of_ne hdb, Prod.mk.injEq]
      exact ⟨fun hor => hor.elim (fun heq => absurd heq.2 hdb) id, .inr⟩
  · rw [hlist] at hnode
    rcases List.mem_cons.mp hnode with rfl | hnode
    · exact Nat.lt_succ_self _
    · exact Nat.lt_succ_of_lt (hnext ▸ hsound.fresh node hnode)

end LRU

/-! ## The threads -/

/-- Where a thread is in `getDBHatohol`: behind `getContext`, or behind the test for the handle. -/
inductive Phase where
  | idle
  | gotContext
  | created
  deriving DecidableEq, Repr

/-- `inCtxSet` says whether `ctxSet` has the context. -/
structure ThreadContext (DB : Type) where
  dbHatohol : Option DB
  inCtxSet : Bool

/-- The state of all threads. `recent` are the handles in the order of their last uses. -/
structure Cache (T DB : Type) where
  dbCacheLRU : LRU DB
  ctx : T → Option (ThreadContext DB)
  phase : T → Phase
  recent : List DB

/-- The constructor of the handle may throw an exception. -/
inductive CacheEvent (T DB : Type) where
  | getContext (t : T)
  | create (t : T) (made : Option DB)
  | insert (t : T)
  | cleanup (t : T)

namespace Cache

variable {T DB : Type}

def new : Cache T DB := ⟨.empty, fun _ => none, fun _ => .idle, []⟩

def handle (s : Cache T DB) (t : T) : Option DB := (s.ctx t).bind ThreadContext.dbHatohol

variable [DecidableEq T] [DecidableEq DB]

def setCtx (s : Cache T DB) (t : T) (ctx : Option (ThreadContext DB)) : Cache T DB :=
  { s with ctx := Function.update s.ctx t ctx }

def setPhase (s : Cache T DB) (t : T) (phase : Phase) : Cache T DB :=
  { s with phase := Function.update s.phase t phase }

omit [DecidableEq DB] in
@[simp] theorem ctx_setCtx (s : Cache T DB) (t : T) (ctx : Option (ThreadContext DB)) :
    (s.setCtx t ctx).ctx = Function.update s.ctx t ctx := rfl

omit [DecidableEq DB] in
@[simp] theorem phase_setCtx (s : Cache T DB) (t : T) (ctx : Option (ThreadContext DB)) :
    (s.setCtx t ctx).phase = s.phase := rfl

omit [DecidableEq DB] in
@[simp] theorem ctx_setPhase (s : Cache T DB) (t : T) (phase : Phase) :
    (s.setPhase t phase).ctx = s.ctx := rfl

omit [DecidableEq DB] in
@[simp] theorem phase_setPhase (s : Cache T DB) (t : T) (phase : Phase) :
    (s.setPhase t phase).phase = Function.update s.phase t phase := rfl

/-- Whether `cleanup` returns, and the state behind it. -/
def cleanup (s : Cache T DB) (t : T) : Bool × Cache T DB :=
  match s.ctx t with
  | none => (true, s)
  | some ctx =>
    if !ctx.inCtxSet then (false, s)
    else
      match ctx.dbHatohol.bind fun db => (s.dbCacheLRU.erase db).map (db, ·) with
      | none => (false, s.setCtx t (some { ctx with inCtxSet := false }))
      | some (db, lru) =>
        (true, { s with dbCacheLRU := lru, recent := s.recent.erase db }.setCtx t none)

variable [Fintype T]

/-- A new handle is none of those that are there. -/
def step (s : Cache T DB) : CacheEvent T DB → Cache T DB
  | .getContext t =>
    if s.phase t = .idle then
      (s.setCtx t (some ((s.ctx t).getD ⟨none, true⟩))).setPhase t .gotContext
    else s
  | .create t made =>
    if s.phase t = .gotContext then
      match s.ctx t with
      | none => s
      | some ctx =>
        if ctx.dbHatohol.isSome then s.setPhase t .created
        else
          match made with
          | none => s.setPhase t .idle
          | some db =>
            if ∀ u, s.handle u ≠ some db then
              (s.setCtx t (some { ctx with dbHatohol := some db })).setPhase t .created
            else s
    else s
  | .insert t =>
    if s.phase t = .created then
      match s.handle t with
      | none => s
      | some db =>
        { s with
          dbCacheLRU := s.dbCacheLRU.touch db, recent := db :: s.recent.erase db }.setPhase t .idle
    else s
  | .cleanup t => if s.phase t = .idle then (s.cleanup t).2 else s

structure Sound (s : Cache T DB) : Prop where
  lru : s.dbCacheLRU.Sound
  order : s.dbCacheLRU.handles = s.recent
  owned : ∀ db ∈ s.recent, ∃ t, s.handle t = some db
  listed : ∀ t db, s.handle t = some db → s.phase t ≠ .created → db ∈ s.recent
  alone : ∀ t u db, s.handle t = some db → s.handle u = some db → t = u

variable {s : Cache T DB}

omit [DecidableEq DB] [Fintype T] in
@[simp] theorem handle_setCtx_self (t : T) (ctx : Option (ThreadContext DB)) :
    (s.setCtx t ctx).handle t = ctx.bind ThreadContext.dbHatohol := by
  rw [handle, ctx_setCtx, Function.update_self]

omit [DecidableEq DB] [Fintype T] in
theorem handle_setCtx_of_ne {t u : T} (hne : u ≠ t) (ctx : Option (ThreadContext DB)) :
    (s.setCtx t ctx).handle u = s.handle u := by
  rw [handle, ctx_setCtx, Function.update_of_ne hne, handle]

omit [DecidableEq DB] [Fintype T] in
/-- A context that keeps its handle. -/
theorem handle_setCtx_of_same {t : T} {ctx : Option (ThreadContext DB)}
    (hsame : ctx.bind ThreadContext.dbHatohol = s.handle t) (u : T) :
    (s.setCtx t ctx).handle u = s.handle u := by
  by_cases hu : u = t
  · subst hu
    rw [handle_setCtx_self, hsame]
  · exact handle_setCtx_of_ne hu ctx

omit [Fintype T] [DecidableEq T] [DecidableEq DB] in
theorem sound_new : (new : Cache T DB).Sound where
  lru := LRU.sound_empty
  order := rfl
  owned _ h := absurd h List.not_mem_nil
  listed _ _ h := nomatch h
  alone _ _ _ h := nomatch h

omit [Fintype T] [DecidableEq T] [DecidableEq DB] in
theorem Sound.of_same (h : s.Sound) {s' : Cache T DB} (hlru : s'.dbCacheLRU = s.dbCacheLRU)
    (hrecent : s'.recent = s.recent) (hhandle : ∀ u, s'.handle u = s.handle u)
    (hphase : ∀ u, s'.phase u ≠ .created → s.phase u ≠ .created) : s'.Sound where
  lru := hlru ▸ h.lru
  order := by rw [hlru, hrecent, h.order]
  owned db hdb := by
    obtain ⟨t, ht⟩ := h.owned db (hrecent ▸ hdb)
    exact ⟨t, (hhandle t).trans ht⟩
  listed t db ht hcreated := hrecent ▸ h.listed t db ((hhandle t).symm.trans ht) (hphase t hcreated)
  alone t u db ht hu := h.alone t u db ((hhandle t).symm.trans ht) ((hhandle u).symm.trans hu)

omit [DecidableEq DB] [Fintype T] in
theorem setPhase_created {t : T} {phase : Phase} (hbefore : s.phase t ≠ .created) (u : T)
    (hu : (s.setPhase t phase).phase u ≠ .created) : s.phase u ≠ .created := by
  by_cases hut : u = t
  · subst hut
    exact hbefore
  · rwa [phase_setPhase, Function.update_of_ne hut] at hu

omit [DecidableEq DB] [Fintype T] in
/-- A thread that is not yet in `insert` may have a handle that is not in the list. -/
theorem Sound.create (h : s.Sound) {t : T} {ctx : ThreadContext DB} (hctx : s.ctx t = some ctx)
    (hnone : ctx.dbHatohol = none) {db : DB} (hnew : ∀ u, s.handle u ≠ some db) :
    ((s.setCtx t (some { ctx with dbHatohol := some db })).setPhase t .created).Sound := by
  have hself : s.handle t = none := by rw [handle, hctx, Option.bind_some, hnone]
  refine ⟨h.lru, h.order, fun db' hdb' => ?_, fun u db' hu hcreated => ?_, fun u v db' hu hv => ?_⟩
  · obtain ⟨u, hu⟩ := h.owned db' hdb'
    have hut : u ≠ t := by
      rintro rfl
      rw [hself] at hu
      cases hu
    exact ⟨u, (handle_setCtx_of_ne hut _).trans hu⟩
  · have hut : u ≠ t := by
      rintro rfl
      exact hcreated (Function.update_self ..)
    rw [phase_setPhase, Function.update_of_ne hut] at hcreated
    exact h.listed u db' ((handle_setCtx_of_ne hut _).symm.trans hu) hcreated
  · have hother {w : T} (hwt : w ≠ t)
        (hw : (s.setCtx t (some { ctx with dbHatohol := some db })).handle w = some db') :
        s.handle w = some db' := (handle_setCtx_of_ne hwt _).symm.trans hw
    have hdb {w : T} (hwt : w = t)
        (hw : (s.setCtx t (some { ctx with dbHatohol := some db })).handle w = some db') :
        db' = db := by
      subst hwt
      rw [handle_setCtx_self] at hw
      exact (Option.some.inj hw).symm
    by_cases hut : u = t
    · by_cases hvt : v = t
      · rw [hut, hvt]
      · exact absurd (hdb hut hu ▸ hother hvt hv) (hnew v)
    · by_cases hvt : v = t
      · exact absurd (hdb hvt hv ▸ hother hut hu) (hnew u)
      · exact h.alone u v db' (hother hut hu) (hother hvt hv)

omit [Fintype T] in
theorem Sound.insert (h : s.Sound) {t : T} {db : DB} (hdb : s.handle t = some db) :
    ({ s with
      dbCacheLRU := s.dbCacheLRU.touch db,
      recent := db :: s.recent.erase db }.setPhase t .idle).Sound := by
  obtain ⟨hsound, hhandles⟩ := h.lru.touch db
  refine ⟨hsound, hhandles.trans (by rw [h.order]; rfl), fun db' hdb' => ?_,
    fun u db' hu hcreated => ?_, h.alone⟩
  · rcases List.mem_cons.mp hdb' with rfl | hdb'
    · exact ⟨t, hdb⟩
    · exact h.owned db' (List.mem_of_mem_erase hdb')
  · by_cases hsame : db' = db
    · rw [hsame]
      exact List.mem_cons_self
    · have hut : u ≠ t := by
        rintro rfl
        exact hsame (Option.some.inj (Eq.trans (Eq.symm hu) hdb))
      rw [phase_setPhase, Function.update_of_ne hut] at hcreated
      exact List.mem_cons_of_mem _ ((List.mem_erase_of_ne hsame).mpr (h.listed u db' hu hcreated))

omit [Fintype T] in
theorem Sound.cleanup (h : s.Sound) (t : T) : (s.cleanup t).2.Sound := by
  unfold Cache.cleanup
  split
  next => exact h
  next ctx hctx =>
    have hself : s.handle t = ctx.dbHatohol := by rw [handle, hctx, Option.bind_some]
    split
    next => exact h
    next =>
      split
      next =>
        exact h.of_same rfl rfl (handle_setCtx_of_same hself.symm) fun _ hu => hu
      next db lru herase =>
        obtain ⟨db', hdb, hmap⟩ := Option.bind_eq_some_iff.mp herase
        obtain ⟨lru', hruns, heq⟩ := Option.map_eq_some_iff.mp hmap
        obtain ⟨rfl, rfl⟩ := Prod.mk.inj heq
        obtain ⟨hsound, hhandles⟩ := h.lru.erase hruns
        have hnodup : s.recent.Nodup := h.order ▸ h.lru.nodup
        have hdb : s.handle t = some db' := hself.trans hdb
        refine ⟨hsound, hhandles.trans (by rw [h.order]; rfl), fun db₁ hdb₁ => ?_,
          fun u db₁ hu hcreated => ?_, fun u v db₁ hu hv => ?_⟩
        · obtain ⟨hne, hmem⟩ := (List.Nodup.mem_erase_iff hnodup).mp hdb₁
          obtain ⟨u, hu⟩ := h.owned db₁ hmem
          have hut : u ≠ t := by
            rintro rfl
            exact hne (Option.some.inj (hu.symm.trans hdb))
          exact ⟨u, (handle_setCtx_of_ne hut _).trans hu⟩
        · have hut : u ≠ t := by
            rintro rfl
            rw [handle_setCtx_self] at hu
            cases hu
          rw [handle_setCtx_of_ne hut] at hu
          have hne : db₁ ≠ db' := by
            rintro rfl
            exact hut (h.alone u t db₁ hu hdb)
          exact (List.Nodup.mem_erase_iff hnodup).mpr ⟨hne, h.listed u db₁ hu hcreated⟩
        · have hother {w : T} (hw : ({ s with
              dbCacheLRU := lru',
              recent := s.recent.erase db' }.setCtx t none).handle w = some db₁) :
              s.handle w = some db₁ := by
            by_cases hwt : w = t
            · subst hwt
              rw [handle_setCtx_self] at hw
              cases hw
            · rwa [handle_setCtx_of_ne hwt] at hw
          exact h.alone u v db₁ (hother hu) (hother hv)

theorem Sound.step (h : s.Sound) (event : CacheEvent T DB) : (s.step event).Sound := by
  cases event with
  | getContext t =>
    unfold Cache.step
    dsimp only
    split
    next hidle =>
      have hsame : (some ((s.ctx t).getD ⟨none, true⟩)).bind ThreadContext.dbHatohol =
          s.handle t := by
        rw [handle]
        cases s.ctx t <;> rfl
      exact h.of_same rfl rfl (handle_setCtx_of_same hsame)
        fun u hu => setPhase_created (s := s) (by rw [hidle]; nofun) u hu
    next => exact h
  | create t made =>
    unfold Cache.step
    dsimp only
    split
    next hgot =>
      have hphase : ∀ phase u, (s.setPhase t phase).phase u ≠ .created → s.phase u ≠ .created :=
        fun _ u hu => setPhase_created (by rw [hgot]; nofun) u hu
      split
      next => exact h
      next ctx hctx =>
        split
        next => exact h.of_same rfl rfl (fun _ => rfl) (hphase _)
        next hnone =>
          split
          next => exact h.of_same rfl rfl (fun _ => rfl) (hphase _)
          next db =>
            split
            next hnew => exact h.create hctx (by simpa using hnone) hnew
            next => exact h
    next => exact h
  | insert t =>
    unfold Cache.step
    dsimp only
    split
    next =>
      split
      next => exact h
      next db hdb => exact h.insert hdb
    next => exact h
  | cleanup t =>
    unfold Cache.step
    dsimp only
    split
    · exact h.cleanup t
    · exact h

/-! ## Cleaning up -/

/-- Every context is in the set, and has a handle unless its thread is about to make one. -/
def Complete (s : Cache T DB) : Prop :=
  ∀ t ctx, s.ctx t = some ctx →
    ctx.inCtxSet = true ∧ (s.phase t ≠ .gotContext → ctx.dbHatohol.isSome = true)

omit [DecidableEq T] [Fintype T] in
theorem Complete.cleanup_returns [DecidableEq T] (hcomplete : s.Complete) (h : s.Sound) {t : T}
    (hidle : s.phase t = .idle) : (s.cleanup t).1 = true ∧ (s.cleanup t).2.ctx t = none := by
  unfold Cache.cleanup
  split
  next hnone => exact ⟨rfl, hnone⟩
  next ctx hctx =>
    obtain ⟨hset, hhas⟩ := hcomplete t ctx hctx
    obtain ⟨db, hdb⟩ := Option.isSome_iff_exists.mp (hhas (by rw [hidle]; nofun))
    have hself : s.handle t = some db := by rw [handle, hctx, Option.bind_some, hdb]
    have hmem : db ∈ s.dbCacheLRU.handles := by
      rw [h.order]
      exact h.listed t db hself (by rw [hidle]; nofun)
    obtain ⟨itr, hitr⟩ := Option.isSome_iff_exists.mp ((h.lru.mem_handles_iff db).mp hmem)
    rw [hset, hdb]
    simp only [Bool.not_true, Bool.false_eq_true, if_false, Option.bind_some, LRU.erase, hitr,
      Option.map_some]
    exact ⟨trivial, Function.update_self ..⟩

omit [Fintype T] in
theorem cleanup_other (s : Cache T DB) (t : T) :
    (s.cleanup t).2.phase = s.phase ∧ ∀ u, u ≠ t → (s.cleanup t).2.ctx u = s.ctx u := by
  unfold Cache.cleanup
  split
  next => exact ⟨rfl, fun _ _ => rfl⟩
  next =>
    split
    next => exact ⟨rfl, fun _ _ => rfl⟩
    next =>
      split
      next => exact ⟨rfl, fun u hu => Function.update_of_ne hu ..⟩
      next => exact ⟨rfl, fun u hu => Function.update_of_ne hu ..⟩

omit [DecidableEq DB] [Fintype T] in
/-- Only one thread changes. -/
theorem Complete.of_other (hcomplete : s.Complete) {s' : Cache T DB} {t : T}
    (hctx : ∀ u, u ≠ t → s'.ctx u = s.ctx u) (hphase : ∀ u, u ≠ t → s'.phase u = s.phase u)
    (hself : ∀ ctx, s'.ctx t = some ctx →
      ctx.inCtxSet = true ∧ (s'.phase t ≠ .gotContext → ctx.dbHatohol.isSome = true)) :
    s'.Complete := by
  intro u ctx hu
  by_cases hut : u = t
  · subst hut
    exact hself ctx hu
  · rw [hctx u hut] at hu
    rw [hphase u hut]
    exact hcomplete u ctx hu

/-- A handle can be made. -/
theorem Complete.create (hcomplete : s.Complete) {t : T} {made : Option DB} (hmade : made ≠ none) :
    (s.step (.create t made)).Complete := by
  unfold Cache.step
  dsimp only
  split
  next hgot =>
    split
    next => exact hcomplete
    next ctx hctx =>
      split
      next hsome =>
        refine hcomplete.of_other (fun _ _ => rfl) (fun u hu => Function.update_of_ne hu ..)
          fun ctx' hctx' => ?_
        rw [ctx_setPhase, hctx, Option.some_inj] at hctx'
        subst hctx'
        exact ⟨(hcomplete t ctx hctx).1, fun _ => hsome⟩
      next =>
        split
        next => exact absurd rfl hmade
        next db =>
          split
          next =>
            refine hcomplete.of_other (fun u hu => Function.update_of_ne hu ..)
              (fun u hu => Function.update_of_ne hu ..) fun ctx' hctx' => ?_
            rw [ctx_setPhase, ctx_setCtx, Function.update_self, Option.some_inj] at hctx'
            subst hctx'
            exact ⟨(hcomplete t ctx hctx).1, fun _ => rfl⟩
          next => exact hcomplete
  next => exact hcomplete

theorem Complete.step (hcomplete : s.Complete) (h : s.Sound) {event : CacheEvent T DB}
    (hmade : ∀ t, event ≠ .create t none) : (s.step event).Complete := by
  cases event with
  | getContext t =>
    unfold Cache.step
    dsimp only
    split
    next hidle =>
      refine hcomplete.of_other (fun u hu => Function.update_of_ne hu ..)
        (fun u hu => Function.update_of_ne hu ..) fun ctx hctx => ⟨?_, fun hnot => ?_⟩
      · rw [ctx_setPhase, ctx_setCtx, Function.update_self, Option.some_inj] at hctx
        subst hctx
        cases hold : s.ctx t with
        | none => rfl
        | some ctx => exact (hcomplete t ctx hold).1
      · exact absurd (Function.update_self ..) hnot
    next => exact hcomplete
  | create t made => exact hcomplete.create fun hnone => hmade t (hnone ▸ rfl)
  | insert t =>
    unfold Cache.step
    dsimp only
    split
    next hcreated =>
      split
      next => exact hcomplete
      next =>
        refine hcomplete.of_other (fun _ _ => rfl) (fun u hu => Function.update_of_ne hu ..)
          fun ctx hctx => ?_
        obtain ⟨hset, hhas⟩ := hcomplete t ctx hctx
        exact ⟨hset, fun _ => hhas (by rw [hcreated]; nofun)⟩
    next => exact hcomplete
  | cleanup t =>
    unfold Cache.step
    dsimp only
    split
    next hidle =>
      obtain ⟨hphase, hctx⟩ := cleanup_other s t
      refine hcomplete.of_other hctx (fun u _ => congrFun hphase u) fun ctx hsome => ?_
      rw [(hcomplete.cleanup_returns h hidle).2] at hsome
      cases hsome
    next => exact hcomplete

theorem complete_run (events : List (CacheEvent T DB)) (hmade : ∀ t, .create t none ∉ events) :
    ∀ s : Cache T DB, s.Sound → s.Complete → (events.foldl Cache.step s).Complete := by
  induction events with
  | nil => exact fun _ _ hcomplete => hcomplete
  | cons event events ih =>
    intro s h hcomplete
    refine ih (fun t hmem => hmade t (List.mem_cons_of_mem _ hmem)) _ (h.step event)
      (hcomplete.step h fun t heq => hmade t ?_)
    rw [heq]
    exact List.mem_cons_self

/-- The list has the handles of the threads, each once, in the order in which they were used last,
    and no two threads have the same one. If every handle can be made, no `cleanup` is refused. -/
theorem handles_by_last_use (events : List (CacheEvent T DB)) :
    let s : Cache T DB := events.foldl step new
    s.dbCacheLRU.handles = s.recent ∧ s.recent.Nodup ∧
    (∀ db ∈ s.recent, ∃ t, s.handle t = some db) ∧
    (∀ t db, s.handle t = some db → s.phase t ≠ .created → db ∈ s.recent) ∧
    (∀ t u db, s.handle t = some db → s.handle u = some db → t = u) ∧
    ((∀ t, .create t none ∉ events) → ∀ t, s.phase t = .idle → (s.cleanup t).1 = true) := by
  have h : (events.foldl step new : Cache T DB).Sound :=
    Machine.foldl_invariant Sound (fun _ event hsound => hsound.step event) events new sound_new
  refine ⟨h.order, h.order ▸ h.lru.nodup, h.owned, h.listed, h.alone, fun hmade t hidle => ?_⟩
  have hcomplete := complete_run events hmade new sound_new fun _ _ hctx => nomatch hctx
  exact (hcomplete.cleanup_returns h hidle).1

/-- A handle that cannot be made leaves a context whose `cleanup` is refused. -/
example : let s : Cache Unit Nat := [.getContext (), .create () none].foldl step new
    (s.cleanup ()).1 = false := rfl

end Cache

end Hatohol.ThreadLocalDBCache

import Hatohol.Table.Reconcile

/-!
# Calls that are made of several transactions

A transaction that fails is rolled back, so that a call that is made of several leaves the state
that the ones before the failing one have made. Such a call is failure atomic if this is never a
state between that before the call and that after it.
-/

namespace Hatohol.Table

section Transactions

variable {σ ε V : Type}

abbrev Transaction (σ ε : Type) := σ → Except ε σ

/-- The transactions of a call, one after another. -/
def runAll (trxs : List (Transaction σ ε)) (s : σ) : Except ε σ :=
    trxs.foldlM (fun s trx => trx s) s

@[simp] theorem runAll_nil (s : σ) : runAll ([] : List (Transaction σ ε)) s = .ok s := rfl

theorem runAll_cons (trx : Transaction σ ε) (trxs : List (Transaction σ ε)) (s : σ) :
    runAll (trx :: trxs) s = trx s >>= runAll trxs := List.foldlM_cons

/-- Whichever transaction fails, what is seen afterwards is what was seen before the call, or what
    is seen after a successful one. -/
def FailureAtomic (view : σ → V) (trxs : List (Transaction σ ε)) (s : σ) : Prop :=
  ∀ i < trxs.length, ∀ s', runAll (trxs.take i) s = .ok s' →
    view s' = view s ∨ ∃ s'', runAll trxs s = .ok s'' ∧ view s' = view s''

/-- A call of which only the last transaction changes the state is failure atomic. -/
theorem failureAtomic_of_readOnly {view : σ → V} {trxs : List (Transaction σ ε)} {s : σ}
    (hread : ∀ trx ∈ trxs.dropLast, ∀ s s', trx s = .ok s' → s' = s) : FailureAtomic view trxs s :=
      by
  have hstart : ∀ (trxs : List (Transaction σ ε)) (s s' : σ),
      (∀ trx ∈ trxs, ∀ s s', trx s = .ok s' → s' = s) → runAll trxs s = .ok s' → s' = s := by
    intro trxs
    induction trxs with
    | nil =>
      intro s s' _ hrun
      exact (Except.ok.inj hrun).symm
    | cons trx trxs ih =>
      intro s s' hread hrun
      rw [runAll_cons] at hrun
      cases hfirst : trx s with
      | error e => simp [hfirst, bind, Except.bind] at hrun
      | ok s₁ =>
        rw [hfirst] at hrun
        obtain rfl := hread trx (by simp) s s₁ hfirst
        exact ih s₁ s' (fun trx htrx => hread trx (by simp [htrx])) hrun
  intro i hi s' hrun
  left
  rw [hstart (trxs.take i) s s' _ hrun]
  intro trx htrx
  apply hread
  rw [List.dropLast_eq_take]
  exact List.take_subset_take_left trxs (by omega) htrx

end Transactions

/-! ## Reading, deleting and storing -/

section ReadDeleteStore

variable {σ ε V A I R : Type} (read : σ → Except ε A) (plan : A → List I × List R)
  (delete : List I → Transaction σ ε) (store : List R → Transaction σ ε)

/-- The transactions of a call that reads, and then deletes and stores what is to be deleted and
    stored, if there is anything. -/
def readDeleteStore (s : σ) : List (Transaction σ ε) :=
  (fun s => (read s).map fun _ => s) :: match read s with
    | .error _ => []
    | .ok a => (if (plan a).1.length > 0 then [delete (plan a).1] else []) ++
        if (plan a).2.length > 0 then [store (plan a).2] else []

variable {read plan delete store} {s : σ} {a : A}

theorem readDeleteStore_eq (hread : read s = .ok a) :
    readDeleteStore read plan delete store s =
      (fun s => (read s).map fun _ => s) ::
        ((if (plan a).1.length > 0 then [delete (plan a).1] else []) ++
          if (plan a).2.length > 0 then [store (plan a).2] else []) := by
  rw [readDeleteStore, hread]

theorem runAll_readDeleteStore (hread : read s = .ok a) :
    runAll (readDeleteStore read plan delete store s) s =
      (if (plan a).1.length > 0 then delete (plan a).1 s else .ok s) >>= fun s =>
        if (plan a).2.length > 0 then store (plan a).2 s else .ok s := by
  have hok (e : Except ε σ) : (e >>= fun s => .ok s) = e := by cases e <;> rfl
  rw [readDeleteStore_eq hread, runAll_cons, hread]
  change runAll _ s = _
  by_cases hids : (plan a).1.length > 0
  · rw [if_pos hids, if_pos hids, List.singleton_append, runAll_cons]
    congr 1
    funext s₁
    split
    · rw [runAll_cons]
      exact hok _
    · rfl
  · rw [if_neg hids, if_neg hids, List.nil_append]
    split
    · rw [runAll_cons]
      exact hok _
    · rfl

/-- A call that does not both delete and store is failure atomic. -/
theorem failureAtomic_of_nil (hread : read s = .ok a) (h : (plan a).1 = [] ∨ (plan a).2 = [])
    (view : σ → V) : FailureAtomic view (readDeleteStore read plan delete store s) s := by
  apply failureAtomic_of_readOnly
  have hfirst (trx : Transaction σ ε) (htrx : trx = fun s => (read s).map fun _ => s) (s s' : σ)
      (hrun : trx s = .ok s') : s' = s := by
    rw [htrx] at hrun
    cases hread : read s with
    | error e => simp [hread, Except.map] at hrun
    | ok a =>
      simp only [hread] at hrun
      exact (Except.ok.inj hrun).symm
  have hdrop : ∀ trx ∈ (readDeleteStore read plan delete store s).dropLast,
      trx = fun s => (read s).map fun _ => s := by
    rw [readDeleteStore_eq hread]
    rcases h with h | h
    · rw [h]
      cases (plan a).2 <;> simp
    · rw [h]
      cases (plan a).1 <;> simp
  intro trx htrx
  exact hfirst trx (hdrop trx htrx)

/-- A call whose deletion is seen under some key, and is followed by a change that is seen under
    some key too, is not. -/
theorem not_failureAtomic {K : Type} {view : σ → K → Option V} {s₁ s₂ : σ} (hread : read s = .ok a)
    (hids : (plan a).1 ≠ []) (hnews : (plan a).2 ≠ []) (hdelete : delete (plan a).1 s = .ok s₁)
    (hstore : store (plan a).2 s₁ = .ok s₂) (hbefore : ∃ k, view s₁ k ≠ view s k)
    (hafter : ∃ k, view s₁ k ≠ view s₂ k) :
    ¬ FailureAtomic view (readDeleteStore read plan delete store s) s := by
  have hids' := List.length_pos_iff.mpr hids
  have hnews' := List.length_pos_iff.mpr hnews
  have hrun : runAll (readDeleteStore read plan delete store s) s = .ok s₂ := by
    rw [runAll_readDeleteStore hread, if_pos hids', hdelete]
    exact (if_pos hnews').trans hstore
  intro hatomic
  rw [readDeleteStore_eq hread, if_pos hids', if_pos hnews'] at hatomic hrun
  have hhalf : runAll [fun s => (read s).map fun _ => s, delete (plan a).1] s = .ok s₁ := by
    rw [runAll_cons, hread]
    change runAll [delete (plan a).1] s = _
    rw [runAll_cons, hdelete]
    rfl
  rcases hatomic 2 (by simp) s₁ hhalf with h | ⟨s'', hrun', h⟩
  · obtain ⟨k, hk⟩ := hbefore
    exact hk (congrFun h k)
  · obtain rfl := Except.ok.inj (hrun'.symm.trans hrun)
    obtain ⟨k, hk⟩ := hafter
    exact hk (congrFun h k)

end ReadDeleteStore

/-! ## When a reconciliation deletes or stores nothing -/

section Nothing

variable {R K : Type}

/-- Every row that is shown comes in unchanged. -/
def NothingToDelete (key : R → K) (changed : R → R → Bool) (shown : K → Option R) (news : List R) :
    Prop :=
  ∀ k old, shown k = some old → ∃ new ∈ news, key new = k ∧ changed new old = false

/-- Every incoming row comes once and is shown unchanged. -/
def NothingToStore (key : R → K) (changed : R → R → Bool) (shown : K → Option R) (news : List R) :
    Prop :=
  (news.map key).Nodup ∧ ∀ new ∈ news, ∃ old, shown (key new) = some old ∧ changed new old = false

variable [Ord K] [Std.TransOrd K] [Std.LawfulEqOrd K] [DecidableEq K] {key : R → K}
  {changed : R → R → Bool} {news : List R} {current : Std.TreeMap K R}

theorem values_left_eq_nil_iff : values (reconcile key changed news current).2 = [] ↔
    NothingToDelete key changed (current[·]?) news := by
  have hvalues : values (reconcile key changed news current).2 = [] ↔
      ∀ k : K, (reconcile key changed news current).2[k]? = none := by
    rw [List.eq_nil_iff_forall_not_mem]
    simp only [mem_values, not_exists, Option.eq_none_iff_forall_ne_some]
    exact forall_comm
  rw [hvalues]
  refine forall_congr' fun k => ?_
  rw [getElem?_left]
  cases hold : current[k]? with
  | none => simp [hold]
  | some old => simp [hold, Option.filter, and_comm]

theorem added_eq_nil_iff : (reconcile key changed news current).1 = [] ↔
    NothingToStore key changed (current[·]?) news := by
  have hadded : (reconcile key changed news current).1 = [] ↔
      ∀ k, ∀ new ∈ (reconcile key changed news current).1, key new ≠ k := by
    rw [List.eq_nil_iff_forall_not_mem]
    constructor
    · intro h k new hnew
      exact absurd hnew (h new)
    · intro h new hnew
      exact h (key new) new hnew rfl
  simp only [hadded, notMem_added_iff]
  constructor
  · intro h
    have hone (new : R) (hnew : new ∈ news) :
        news.filter (fun r => decide (key r = key new)) = [new] ∧
          ∃ old, current[key new]? = some old ∧ changed new old = false := by
      obtain ⟨new', old, hfilter, hold, hunchanged⟩ :=
        (h (key new)).resolve_left (not_not_intro (List.mem_map_of_mem hnew))
      have hmem : new ∈ news.filter (fun r => decide (key r = key new)) := by simp [hnew]
      rw [hfilter, List.mem_singleton] at hmem
      subst hmem
      exact ⟨hfilter, old, hold, hunchanged⟩
    refine ⟨?_, fun new hnew => (hone new hnew).2⟩
    rw [List.nodup_iff_count_le_one]
    intro k
    by_cases hk : k ∈ news.map key
    · obtain ⟨new, hnew, rfl⟩ := List.mem_map.mp hk
      have hcount : (news.map key).count (key new) =
          (news.filter fun r => decide (key r = key new)).length := by
        rw [List.count, List.countP_map, List.countP_eq_length_filter]
        rfl
      rw [hcount, (hone new hnew).1]
      simp
    · rw [List.count_eq_zero_of_not_mem hk]
      omega
  · rintro ⟨hnodup, hshown⟩ k
    by_cases hk : k ∈ news.map key
    · obtain ⟨new, hnew, rfl⟩ := List.mem_map.mp hk
      obtain ⟨old, hold, hunchanged⟩ := hshown new hnew
      exact .inr ⟨new, old, filter_key_eq_singleton hnodup (lookup_of_mem hnodup hnew), hold,
        hunchanged⟩
    · exact .inl hk

end Nothing

end Hatohol.Table

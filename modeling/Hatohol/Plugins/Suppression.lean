import Mathlib.Data.List.Chain
import Hatohol.Machine.Steps
import Hatohol.Plugins.Division

/-!
# Lists that are only put when they have changed

`put_hosts`, `put_host_groups` and `put_host_group_membership` compare the list they are given with
the one they put last, and send nothing if the two are equal (haplib.py:458-497). The list they are
given is a chunk.
-/

namespace Hatohol.Haplib

open Machine

variable {α : Type} (le : α → α → Bool)

/-- What a plugin remembers of one of the three lists, and the server with the list that it has
    stored last. -/
structure Listing (α : Type) where
  previous : Option (List α)
  impl : GateImpl α
  committed : Option (List α)

def Listing.empty : Listing α := ⟨none, .empty, none⟩

/-- What stands in the parameters besides the list and the `divideInfo`. -/
def listParams : PutParams α where
  hasParams := true
  elements := []
  elementErrors := []
  updateType := some "ALL"
  fetchId := none
  mayMoreFlag := none
  lastInfo := none
  divideInfo := none

/-- The common body of the three functions. The list is sorted by the order that Python has on its
    elements. An answer other than SUCCESS raises an exception. -/
def putIfChanged [DecidableEq α] (procedure : PutProcedure) : PutFunc (Listing α) α :=
    fun list divideInfo s =>
  let list := list.mergeSort le
  if s.previous = some list then (.returned, s)
  else
    match procedureHandler s.impl (Call.request procedure listParams ⟨list, divideInfo⟩) with
    | .returned (answer, impl) =>
        let s := { s with impl, committed := answer.stored.getLast?.or s.committed }
        if answer.response = .success then (.returned, { s with previous := some list })
        else (.raised, s)
    | _ => (.raised, s)

def putHosts [DecidableEq α] : PutFunc (Listing α) α := putIfChanged le .putHosts

def putHostGroups [DecidableEq α] : PutFunc (Listing α) α := putIfChanged le .putHostGroups

def putHostGroupMembership [DecidableEq α] : PutFunc (Listing α) α :=
    putIfChanged le .putHostGroupMembership

/-- The procedures that put one of the three lists. -/
def IsListing (procedure : PutProcedure) : Prop :=
  procedure = .putHosts ∨ procedure = .putHostGroups ∨ procedure = .putHostGroupMembership

/-- One poll, with the UUID of the transfer and the list. -/
def pollList [DecidableEq α] (procedure : PutProcedure) (s : Listing α)
    (poll : String × List α) : Except PutResult (Listing α) :=
  match divideAndPutData (putIfChanged le procedure) poll.1 poll.2 false s with
  | (.returned, s) => .ok s
  | (result, _) => .error result

/-! ## Polls that show what has changed -/

/-- The chunks of a list, each one sorted. -/
def sortedChunks (list : List α) : List (List α) :=
  (List.range (chunkCount list.length DEFAULT_MAX_CHUNK_SIZE)).map fun i =>
    ((list.drop (i * DEFAULT_MAX_CHUNK_SIZE)).take DEFAULT_MAX_CHUNK_SIZE).mergeSort le

/-- The list is not empty. If it or the list of the poll before has several chunks, no chunk is equal
    to the one before, where the last chunk of the poll before comes before the first one. -/
def ShowsChange (before : Option (List α)) (list : List α) : Prop :=
  list ≠ [] ∧
    (list.length ≤ DEFAULT_MAX_CHUNK_SIZE ∧
        (∃ list', before = some list' ∧ list'.length ≤ DEFAULT_MAX_CHUNK_SIZE) ∨
      (((before.bind fun list' => (sortedChunks le list').getLast?).toList ++
        sortedChunks le list).IsChain (· ≠ ·)))

/-- Every poll shows what has changed since the one before. -/
def ShowsChanges : Option (List α) → List (List α) → Prop
  | _, [] => True
  | before, list :: lists => ShowsChange le before list ∧ ShowsChanges (some list) lists

/-! ## A transfer of which no chunk is left out -/

def Call.sorted (call : Call α) : Call α := { call with chunk := call.chunk.mergeSort le }

theorem chunks_passCalls (requestId : String) (chunkSize count : Nat) :
    ∀ (left : Nat) (d : Division α), (passCalls requestId chunkSize count left d).map Call.chunk =
      (List.range left).map fun i => (d.copyContents.drop (i * chunkSize)).take chunkSize := by
  intro left
  induction left with
  | zero => exact fun _ => rfl
  | succ left ih =>
    intro d
    rw [passCalls, List.map_cons, ih, List.range_succ_eq_map, List.map_cons, List.map_map,
      Nat.zero_mul, List.drop_zero]
    congr 1
    refine List.map_congr_left fun i _ => ?_
    rw [Function.comp_apply, List.drop_drop, Nat.succ_mul, Nat.add_comm]

theorem chunks_sorted_wholeCalls (requestId : String) (list : List α) :
    ((wholeCalls requestId list).map (Call.sorted le)).map Call.chunk = sortedChunks le list := by
  have hchunks := congrArg (List.map fun chunk => chunk.mergeSort le)
    (chunks_passCalls requestId DEFAULT_MAX_CHUNK_SIZE
      (chunkCount list.length DEFAULT_MAX_CHUNK_SIZE)
      (chunkCount list.length DEFAULT_MAX_CHUNK_SIZE) ⟨list, 0, false⟩)
  rw [List.map_map, List.map_map] at hchunks
  rw [List.map_map]
  exact hchunks

theorem sortedChunks_of_le {list : List α} (hne : list ≠ [])
    (hle : list.length ≤ DEFAULT_MAX_CHUNK_SIZE) : sortedChunks le list = [list.mergeSort le] := by
  rw [sortedChunks, chunkCount_eq_one hne hle, List.range_one, List.map_singleton, Nat.zero_mul,
    List.drop_zero,
    List.take_of_length_le hle]

theorem perm_sorted (calls : List (Call α)) :
    ((calls.map (Call.sorted le)).map Call.chunk).flatten.Perm
      (calls.map Call.chunk).flatten := by
  induction calls with
  | nil => exact .nil
  | cons call calls ih => exact (List.mergeSort_perm call.chunk le).append ih

theorem Numbered.sorted {requestId : String} {calls : List (Call α)}
    (hnumbered : Numbered requestId calls) :
    Numbered requestId (calls.map (Call.sorted le)) := by
  intro i call hget
  rw [List.getElem?_map] at hget
  obtain ⟨call, hcall, rfl⟩ := Option.map_eq_some_iff.mp hget
  rw [List.length_map]
  exact hnumbered i call hcall

theorem parseErrors_listParams (procedure : PutProcedure) :
    procedure.handler.parseErrors (listParams : PutParams α) = [] := by
  cases procedure <;> rfl

/-- The server stores a list whose chunks come sorted. -/
theorem commits_sorted {procedure : PutProcedure} {impl : GateImpl α} {requestId : String}
    {list : List α} (hne : list ≠ []) (hfresh : impl.parts procedure requestId = []) :
    ∃ list', list'.Perm list ∧ Commits procedure impl list'
      (((wholeCalls requestId list).map (Call.sorted le)).map
        (Call.request procedure listParams)) := by
  have hparse := parseErrors_listParams (α := α) procedure
  rcases wholeCalls_cases requestId hne with hone | ⟨hcalls, hchunks, hnumbered⟩
  · rw [hone]
    exact ⟨_, List.mergeSort_perm list le, commits_undivided hparse⟩
  · refine ⟨_, ?_, commits_numbered hparse hfresh (by simpa using hcalls) rfl (Numbered.sorted le hnumbered)⟩
    have hperm := perm_sorted le (wholeCalls requestId list)
    rw [hchunks] at hperm
    exact hperm

/-- Calls of which none has the chunk of the one before are all sent. -/
theorem putCalls_putIfChanged [DecidableEq α] (procedure : PutProcedure) : ∀ (calls : List (Call α))
    (s : Listing α) (answered : List (PutRequest α × PutAnswer α)) (impl : GateImpl α),
    (s.previous.toList ++ (calls.map (Call.sorted le)).map Call.chunk).IsChain (· ≠ ·) →
    run procedureHandler s.impl ((calls.map (Call.sorted le)).map
      (Call.request procedure listParams)) = .returned (answered, impl) →
    (∀ x ∈ answered, x.2.response = .success) →
    putCalls (putIfChanged le procedure) calls s = (.returned,
      ⟨((calls.map (Call.sorted le)).map Call.chunk).getLast?.or s.previous, impl,
        (answered.flatMap fun x => x.2.stored).getLast?.or s.committed⟩) := by
  intro calls
  induction calls with
  | nil =>
    intro s answered impl _ hrun _
    obtain ⟨rfl, rfl⟩ := Prod.mk.inj (Outcome.returned.inj hrun)
    rfl
  | cons call calls ih =>
    intro s answered impl hchain hrun hsuccess
    have hne : s.previous ≠ some (call.chunk.mergeSort le) := by
      intro heq
      rw [heq] at hchain
      exact (List.isChain_cons_cons.mp hchain).1 rfl
    have hrest := (List.isChain_append.mp hchain).2.1
    obtain ⟨answer, impl₁, hfirst⟩ := procedureHandler_returns s.impl
      (Call.request procedure listParams (call.sorted le))
    rw [List.map_cons, List.map_cons, run, hfirst, Outcome.returned_bind] at hrun
    dsimp only at hrun
    rcases hrun' : run procedureHandler impl₁ ((calls.map (Call.sorted le)).map
      (Call.request procedure listParams)) with ⟨answered', impl'⟩ | _ | _
    · rw [hrun'] at hrun
      obtain ⟨rfl, rfl⟩ := Prod.mk.inj (Outcome.returned.inj hrun)
      have hanswer : answer.response = .success := hsuccess _ List.mem_cons_self
      have hput : putIfChanged le procedure call.chunk call.divideInfo s = (.returned,
          ⟨some (call.chunk.mergeSort le), impl₁, answer.stored.getLast?.or s.committed⟩) := by
        rw [Call.sorted] at hfirst
        rw [putIfChanged, if_neg hne, hfirst]
        dsimp only
        rw [if_pos hanswer]
      rw [putCalls, hput]
      dsimp only
      rw [ih ⟨some (call.chunk.mergeSort le), impl₁, answer.stored.getLast?.or s.committed⟩
        answered' impl' hrest hrun' fun x hmem => hsuccess x (by simp [hmem])]
      refine Prod.ext rfl ?_
      dsimp only
      rw [List.flatMap_cons, List.getLast?_append, Option.or_assoc, List.map_cons, List.map_cons,
        List.getLast?_cons]
      cases ((calls.map (Call.sorted le)).map Call.chunk).getLast? <;> rfl
    · rw [hrun'] at hrun
      cases hrun
    · rw [hrun'] at hrun
      cases hrun

/-! ## Runs of polls -/

/-- After a poll, the server has the list of the poll, and what the plugin remembers is its last
    chunk. -/
structure Current (procedure : PutProcedure) (before : Option (List α)) (s : Listing α) : Prop where
  fresh : ∀ requestId, s.impl.parts procedure requestId = []
  previous : s.previous = before.bind fun list => (sortedChunks le list).getLast?
  committed : ∀ list, before = some list → list ≠ [] ∧ ∃ list', s.committed = some list' ∧
    list'.Perm list

theorem current_empty (procedure : PutProcedure) :
    Current le procedure none (Listing.empty : Listing α) :=
  ⟨fun _ => rfl, rfl, fun _ h => by cases h⟩

theorem getLast?_sortedChunks {list : List α} (hne : list ≠ []) :
    ∃ chunk, (sortedChunks le list).getLast? = some chunk := by
  have hcount : 0 < chunkCount list.length DEFAULT_MAX_CHUNK_SIZE :=
    chunkCount_pos (mt List.length_eq_zero_iff.mp hne) (by decide)
  refine ⟨_, List.getLast?_eq_some_getLast ?_⟩
  intro hnil
  have hlength := congrArg List.length hnil
  rw [sortedChunks, List.length_map, List.length_range, List.length_nil] at hlength
  omega

theorem current_pollList [DecidableEq α] {procedure : PutProcedure} (hlisting : IsListing procedure)
    {before : Option (List α)} {s : Listing α} (hcurrent : Current le procedure before s)
    (requestId : String) {list : List α} (hshows : ShowsChange le before list) :
    ∃ s', pollList le procedure s (requestId, list) = .ok s' ∧
      Current le procedure (some list) s' := by
  obtain ⟨hne, hcases⟩ := hshows
  by_cases hsame : list.length ≤ DEFAULT_MAX_CHUNK_SIZE ∧
      ∃ list', before = some list' ∧ list'.length ≤ DEFAULT_MAX_CHUNK_SIZE ∧
        list'.mergeSort le = list.mergeSort le
  · -- The list is the same, and nothing is sent.
    obtain ⟨hle, list', rfl, hle', hsort⟩ := hsame
    obtain ⟨hne', committed, hcommitted, hperm⟩ := hcurrent.committed list' rfl
    have hprevious : s.previous = some (list.mergeSort le) := by
      rw [hcurrent.previous, Option.bind_some, sortedChunks_of_le le hne' hle', ← hsort]
      rfl
    have hput : putCalls (putIfChanged le procedure) (wholeCalls requestId list) s =
        (.returned, s) := by
      rw [wholeCalls_of_le requestId hne hle, putCalls, putIfChanged, if_pos hprevious]
      rfl
    refine ⟨s, ?_, hcurrent.fresh, ?_, ?_⟩
    · rw [pollList, divideAndPutData_eq _ _ _ hne (by rw [hput]; exact PutResult.noConfusion), hput]
    · rw [hprevious, Option.bind_some, sortedChunks_of_le le hne hle]
      rfl
    · rintro _ ⟨⟩
      refine ⟨hne, committed, hcommitted, hperm.trans ?_⟩
      exact ((List.mergeSort_perm list' le).symm.trans (hsort ▸ List.mergeSort_perm list le))
  · have hchain : (s.previous.toList ++ sortedChunks le list).IsChain (· ≠ ·) := by
      rw [hcurrent.previous]
      rcases hcases with ⟨hle, list', rfl, hle'⟩ | hchain
      · obtain ⟨hne', -⟩ := hcurrent.committed list' rfl
        rw [Option.bind_some, sortedChunks_of_le le hne' hle', sortedChunks_of_le le hne hle]
        refine List.isChain_cons_cons.mpr ⟨?_, List.isChain_singleton _⟩
        exact fun hsort => hsame ⟨hle, list', rfl, hle', hsort⟩
      · exact hchain
    obtain ⟨stored, hperm, answered, impl, hrun, hsuccess, hstored, hleft⟩ :=
      commits_sorted le hne (hcurrent.fresh requestId)
    have hput := putCalls_putIfChanged le procedure (wholeCalls requestId list) s answered impl
      (by rw [chunks_sorted_wholeCalls]; exact hchain) hrun hsuccess
    have hprocedure : procedure ≠ .putHistory := by
      rcases hlisting with rfl | rfl | rfl
      · exact PutProcedure.noConfusion
      · exact PutProcedure.noConfusion
      · exact PutProcedure.noConfusion
    rw [chunks_sorted_wholeCalls, hstored, if_neg hprocedure] at hput
    refine ⟨⟨(sortedChunks le list).getLast?.or s.previous, impl, some stored⟩, ?_,
      fun requestId' => hleft requestId' (hcurrent.fresh requestId'), ?_, ?_⟩
    · rw [pollList, divideAndPutData_eq _ _ _ hne (by rw [hput]; exact PutResult.noConfusion), hput]
      rfl
    · obtain ⟨chunk, hlast⟩ := getLast?_sortedChunks le hne
      rw [hlast, Option.bind_some, hlast]
      rfl
    · rintro _ ⟨⟩
      exact ⟨hne, stored, rfl, hperm⟩

theorem current_run [DecidableEq α] {procedure : PutProcedure} (hlisting : IsListing procedure) :
    ∀ (polls : List (String × List α)) (before : Option (List α)) (s : Listing α),
      Current le procedure before s → ShowsChanges le before (polls.map Prod.snd) →
      ∃ s', polls.foldlM (pollList le procedure) s = .ok s' ∧
        Current le procedure ((polls.map Prod.snd).getLast?.or before) s' := by
  intro polls
  induction polls with
  | nil => exact fun before s hcurrent _ => ⟨s, rfl, hcurrent⟩
  | cons poll polls ih =>
    rintro before s hcurrent ⟨hshows, hrest⟩
    obtain ⟨s₁, hpoll, hcurrent₁⟩ := current_pollList le hlisting hcurrent poll.1 hshows
    obtain ⟨s', hrun, hcurrent'⟩ := ih (some poll.2) s₁ hcurrent₁ hrest
    refine ⟨s', ?_, ?_⟩
    · rw [List.foldlM_cons, hpoll]
      exact hrun
    · rw [List.map_cons, List.getLast?_cons]
      cases hlast : (polls.map Prod.snd).getLast? <;> rw [hlast] at hcurrent' <;> exact hcurrent'

theorem showsChanges_take : ∀ (lists : List (List α)) (before : Option (List α)) (n : Nat),
    ShowsChanges le before lists → ShowsChanges le before (lists.take n) := by
  intro lists
  induction lists with
  | nil =>
    intro before n _
    rw [List.take_nil]
    trivial
  | cons list lists ih =>
    rintro before n ⟨hshows, hrest⟩
    cases n with
    | zero => trivial
    | succ n => exact ⟨hshows, ih (some list) n hrest⟩

/-- Nothing is sent for an empty list. -/
theorem pollList_nil [DecidableEq α] (procedure : PutProcedure) (s : Listing α)
    (requestId : String) : pollList le procedure s (requestId, []) = .ok s := by
  rw [pollList, divideAndPutData, Bool.false_and, if_neg Bool.false_ne_true, divideLoop,
    if_pos List.length_nil]

/-- If every poll shows what has changed, then no poll fails, and after each of them the server has
    stored the elements of its list. -/
theorem polls_commit_lists [DecidableEq α] {procedure : PutProcedure}
    (hlisting : IsListing procedure) (polls : List (String × List α))
    (hshows : ShowsChanges le none (polls.map Prod.snd)) :
    ∀ (i : Nat) (poll : String × List α), polls[i]? = some poll →
      ∃ s list, (polls.take (i + 1)).foldlM (pollList le procedure) Listing.empty = .ok s ∧
        s.committed = some list ∧ list.Perm poll.2 := by
  intro i poll hget
  have htake := showsChanges_take le _ none (i + 1) hshows
  rw [← List.map_take] at htake
  obtain ⟨s, hrun, hcurrent⟩ :=
    current_run le hlisting (polls.take (i + 1)) none Listing.empty
      (current_empty le procedure) htake
  have hlast : ((polls.take (i + 1)).map Prod.snd).getLast?.or none = some poll.2 := by
    rw [List.take_add_one, hget]
    simp
  rw [hlast] at hcurrent
  obtain ⟨-, list, hcommitted, hperm⟩ := hcurrent.committed poll.2 rfl
  exact ⟨s, list, hrun, hcommitted, hperm⟩

/-- A host comes, and another one. -/
theorem polls_commit_lists_two :
    ∃ s list, ([("1", [7]), ("2", [7, 8])].take 2).foldlM
      (pollList (fun a b => a ≤ b) .putHosts) Listing.empty = .ok s ∧
      s.committed = some list ∧ list.Perm [7, 8] :=
  polls_commit_lists (fun a b => a ≤ b) (.inl rfl) [("1", [7]), ("2", [7, 8])]
    ⟨⟨by decide, .inr (by simp [sortedChunks, chunkCount, DEFAULT_MAX_CHUNK_SIZE])⟩,
      ⟨by decide, .inl ⟨by decide, _, rfl, by decide⟩⟩, trivial⟩ 1 ("2", [7, 8]) rfl

/-- The last host goes. The server keeps it. -/
theorem polls_keep_last_host :
    ∃ s : Listing Nat, [("1", [7]), ("2", [])].foldlM
      (pollList (fun a b => a ≤ b) .putHosts) Listing.empty = .ok s ∧
      ∃ list, s.committed = some list ∧ ¬ ∀ x, x ∈ list ↔ x ∈ ([] : List Nat) := by
  obtain ⟨s, hpoll, hcurrent⟩ := current_pollList (fun a b : Nat => a ≤ b) (.inl rfl)
    (current_empty _ .putHosts) "1"
    (show ShowsChange _ none [7] from ⟨by decide, .inr (by simp [sortedChunks, chunkCount,
      DEFAULT_MAX_CHUNK_SIZE])⟩)
  obtain ⟨-, list, hcommitted, hperm⟩ := hcurrent.committed [7] rfl
  refine ⟨s, ?_, list, hcommitted, fun hsame => ?_⟩
  · rw [List.foldlM_cons, hpoll]
    exact congrArg (· >>= fun s => pure s) (pollList_nil _ .putHosts s "2")
  · exact List.not_mem_nil ((hsame 7).mp (hperm.mem_iff.mpr (by decide)))

end Hatohol.Haplib

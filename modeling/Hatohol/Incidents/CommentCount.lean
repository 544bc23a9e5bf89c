import Hatohol.DBTablesIncidents

/-!
# Clients that comment at the same time

`addIncidentHistory` and `updateIncidentHistory` write the history, count the comments and store the
count in three transactions (DBTablesMonitoring.cc:3604-3675, 3747-3785), and other clients may come
between them. What is shown in the end is the count of the client that stores last.
-/

namespace Hatohol

inductive HistoryRequest where
  | addIncidentHistory (history : IncidentHistory)
  | updateIncidentHistory (history : IncidentHistory)
  deriving DecidableEq, Repr

def HistoryRequest.history : HistoryRequest → IncidentHistory
  | addIncidentHistory history => history
  | updateIncidentHistory history => history

/-- The transaction that a client makes next. -/
inductive HistoryClient where
  | write (request : HistoryRequest)
  | count (unifiedEventId : UnifiedEventIdType)
  | store (unifiedEventId : UnifiedEventIdType) (commentCount : Nat)
  | done
  deriving DecidableEq, Repr

structure HistorySystem where
  tables : IncidentTables
  clients : List HistoryClient

namespace HistorySystem

def start (tables : IncidentTables) (requests : List HistoryRequest) : HistorySystem where
  tables := tables
  clients := requests.map .write

/-- A client makes its next transaction. -/
def step (s : HistorySystem) (k : Nat) : HistorySystem :=
  match s.clients[k]? with
  | some (.write (.addIncidentHistory history)) =>
      { tables := s.tables.insertIncidentHistory history
        clients := s.clients.set k (.count history.unifiedEventId) }
  | some (.write (.updateIncidentHistory history)) =>
      { tables := s.tables.writeIncidentHistory history
        clients := s.clients.set k (.count history.unifiedEventId) }
  | some (.count unifiedEventId) =>
      let commentCount := s.tables.getIncidentCommentCount unifiedEventId
      { s with clients := s.clients.set k (.store unifiedEventId commentCount) }
  | some (.store unifiedEventId commentCount) =>
      { tables := s.tables.storeIncidentCommentCount unifiedEventId commentCount
        clients := s.clients.set k .done }
  | _ => s

def run (s : HistorySystem) (schedule : List Nat) : HistorySystem := schedule.foldl step s

def Finished (s : HistorySystem) : Prop := ∀ c ∈ s.clients, c = .done

/-- A client is about to store its count, and is the last one to do so. -/
def StoresLast (s : HistorySystem) (k : Nat) : Prop :=
  (∃ e n, s.clients[k]? = some (.store e n)) ∧ ∀ j c, j ≠ k → s.clients[j]? = some c → c = .done

/-- The client that stores last has found as many comments as there are when it stores. -/
def LastCountHolds (s : HistorySystem) (e : UnifiedEventIdType) (schedule : List Nat) : Prop :=
  ∀ before k between after, schedule = before ++ k :: (between ++ k :: after) →
    (s.run before).clients[k]? = some (.count e) →
    (s.run (before ++ k :: between)).StoresLast k →
    (s.run before).tables.comments e = (s.run (before ++ k :: between)).tables.comments e

/-! ## Runs -/

theorem run_append (s : HistorySystem) (ks ks' : List Nat) :
    s.run (ks ++ ks') = (s.run ks).run ks' := List.foldl_append

theorem run_cons (s : HistorySystem) (k : Nat) (ks : List Nat) :
    s.run (k :: ks) = (s.step k).run ks := rfl

theorem step_of_finished {s : HistorySystem} (h : s.Finished) (k : Nat) : s.step k = s := by
  unfold step
  cases hk : s.clients[k]? with
  | none => rfl
  | some c =>
    obtain rfl := h c (List.mem_of_getElem? hk)
    rfl

theorem run_of_finished {s : HistorySystem} (h : s.Finished) (ks : List Nat) : s.run ks = s := by
  induction ks with
  | nil => rfl
  | cons k ks ih => rw [run_cons, step_of_finished h, ih]

/-- A step changes what its client does next, and nothing of the others. -/
theorem clients_step (s : HistorySystem) (k : Nat) :
    ∃ c, (s.step k).clients = s.clients.set k c ∨ (s.step k).clients = s.clients := by
  unfold step
  split
  · exact ⟨_, .inl rfl⟩
  · exact ⟨_, .inl rfl⟩
  · exact ⟨_, .inl rfl⟩
  · exact ⟨_, .inl rfl⟩
  · exact ⟨.done, .inr rfl⟩

theorem getElem?_step_of_ne (s : HistorySystem) {j k : Nat} (hne : j ≠ k) :
    (s.step k).clients[j]? = s.clients[j]? := by
  obtain ⟨c, heq | heq⟩ := s.clients_step k
  · rw [heq, List.getElem?_set_ne hne.symm]
  · rw [heq]

theorem step_store {s : HistorySystem} {k : Nat} {e : UnifiedEventIdType} {n : Nat}
    (hk : s.clients[k]? = some (.store e n)) :
    s.step k = ⟨s.tables.storeIncidentCommentCount e n, s.clients.set k .done⟩ := by
  unfold step
  rw [hk]

theorem step_count {s : HistorySystem} {k : Nat} {e : UnifiedEventIdType}
    (hk : s.clients[k]? = some (.count e)) :
    s.step k = ⟨s.tables, s.clients.set k (.store e (s.tables.comments e))⟩ := by
  unfold step
  rw [hk]
  simp only [IncidentTables.getIncidentCommentCount_eq]

theorem getElem?_set_self {s : HistorySystem} {k : Nat} {c c' : HistoryClient}
    (hk : s.clients[k]? = some c) : (s.clients.set k c')[k]? = some c' := by
  obtain ⟨hlt, -⟩ := List.getElem?_eq_some_iff.mp hk
  rw [List.getElem?_set_self hlt]

theorem store_of_step_count {s : HistorySystem} {k : Nat} {e : UnifiedEventIdType}
    (hk : s.clients[k]? = some (.count e)) :
    (s.step k).clients[k]? = some (.store e (s.tables.comments e)) := by
  rw [step_count hk]
  exact getElem?_set_self hk

theorem step_done {s : HistorySystem} {k : Nat} (hk : s.clients[k]? = some .done) : s.step k = s :=
    by
  unfold step
  rw [hk]

theorem done_run {s : HistorySystem} {k : Nat} (hk : s.clients[k]? = some .done) (ks : List Nat) :
    (s.run ks).clients[k]? = some .done := by
  induction ks generalizing s with
  | nil => exact hk
  | cons j ks ih =>
    rw [run_cons]
    by_cases hj : k = j
    · subst hj
      rw [step_done hk]
      exact ih hk
    · exact ih ((s.getElem?_step_of_ne hj).trans hk)

/-- A client keeps its count until it stores it. -/
theorem store_run {s : HistorySystem} {k : Nat} {e : UnifiedEventIdType} {n : Nat}
    (hk : s.clients[k]? = some (.store e n)) (ks : List Nat) :
    (s.run ks).clients[k]? = some (.store e n) ∨ (s.run ks).clients[k]? = some .done := by
  induction ks generalizing s with
  | nil => exact .inl hk
  | cons j ks ih =>
    rw [run_cons]
    by_cases hj : k = j
    · subst hj
      right
      apply done_run
      rw [step_store hk]
      exact getElem?_set_self hk
    · exact ih ((s.getElem?_step_of_ne hj).trans hk)

/-- A client is about to store because it has counted. -/
theorem count_of_step_store {s : HistorySystem} {k : Nat} {e : UnifiedEventIdType} {n : Nat}
    (hstep : (s.step k).clients[k]? = some (.store e n)) :
    s.clients[k]? = some (.count e) ∧ n = s.tables.comments e := by
  cases hk : s.clients[k]? with
  | none =>
    unfold step at hstep
    simp [hk] at hstep
  | some c =>
    cases c with
    | write request =>
      unfold step at hstep
      rw [hk] at hstep
      cases request <;>
      · simp only [getElem?_set_self hk] at hstep
        cases hstep
    | count e' =>
      rw [step_count hk, getElem?_set_self hk] at hstep
      cases hstep
      exact ⟨rfl, rfl⟩
    | store e' n' =>
      rw [step_store hk, getElem?_set_self hk] at hstep
      cases hstep
    | done =>
      rw [step_done hk, hk] at hstep
      cases hstep

/-- A count that is to be stored was taken in the run, at a step of its client. -/
theorem exists_count {tables : IncidentTables} {requests : List HistoryRequest} {k : Nat}
    {e : UnifiedEventIdType} {n : Nat} (ks : List Nat)
    (hk : ((start tables requests).run ks).clients[k]? = some (.store e n)) :
    ∃ before between, ks = before ++ k :: between ∧
      ((start tables requests).run before).clients[k]? = some (.count e) ∧
      n = ((start tables requests).run before).tables.comments e := by
  induction ks using List.reverseRecOn with
  | nil =>
    obtain ⟨request, -, heq⟩ := List.mem_map.mp (List.mem_of_getElem? hk)
    cases heq
  | append_singleton ks j ih =>
    rw [run_append, run_cons] at hk
    by_cases hj : k = j
    · subst hj
      obtain ⟨hcount, hn⟩ := count_of_step_store hk
      exact ⟨ks, [], rfl, hcount, hn⟩
    · rw [run, List.foldl_nil, getElem?_step_of_ne _ hj] at hk
      obtain ⟨before, between, rfl, hcount, hn⟩ := ih hk
      exact ⟨before, between ++ [j], by simp, hcount, hn⟩

/-! ## The last to store -/

theorem finished_iff (s : HistorySystem) : s.Finished ↔ ∀ (k : Nat) c, s.clients[k]? = some c → c =
    .done := by
  constructor
  · intro h k c hc
    exact h c (List.mem_of_getElem? hc)
  · intro h c hc
    obtain ⟨k, hk⟩ := List.mem_iff_getElem?.mp hc
    exact h k c hk

theorem finished_step_of_storesLast {s : HistorySystem} {k : Nat} (h : s.StoresLast k) :
    (s.step k).Finished := by
  obtain ⟨⟨e, n, hk⟩, hothers⟩ := h
  rw [finished_iff]
  intro j c hc
  by_cases hj : j = k
  · subst hj
    rw [step_store hk, getElem?_set_self hk] at hc
    exact (Option.some.inj hc).symm
  · rw [s.getElem?_step_of_ne hj] at hc
    exact hothers j c hj hc

/-- Only a client that stores is done by its step. -/
theorem storesLast_of_finished_step {s : HistorySystem} {k : Nat} (hnot : ¬ s.Finished)
    (hstep : (s.step k).Finished) : s.StoresLast k := by
  rw [finished_iff] at hstep
  have hothers : ∀ j c, j ≠ k → s.clients[j]? = some c → c = .done := by
    intro j c hj hc
    rw [← s.getElem?_step_of_ne hj] at hc
    exact hstep j c hc
  refine ⟨?_, hothers⟩
  cases hk : s.clients[k]? with
  | none =>
    refine absurd ((finished_iff s).mpr ?_) hnot
    intro j c hc
    by_cases hj : j = k
    · subst hj
      rw [hk] at hc
      cases hc
    · exact hothers j c hj hc
  | some c =>
    have hnext := hstep k
    cases c with
    | write request =>
      exfalso
      unfold step at hnext
      rw [hk] at hnext
      cases request with
      | addIncidentHistory history => cases hnext _ (getElem?_set_self hk)
      | updateIncidentHistory history => cases hnext _ (getElem?_set_self hk)
    | count e =>
      rw [step_count hk] at hnext
      cases hnext _ (getElem?_set_self hk)
    | store e n => exact ⟨e, n, rfl⟩
    | done =>
      refine absurd ((finished_iff s).mpr ?_) hnot
      intro j c hc
      by_cases hj : j = k
      · subst hj
        rw [hk] at hc
        exact (Option.some.inj hc).symm
      · exact hothers j c hj hc

theorem exists_storesLast {s : HistorySystem} (hnot : ¬ s.Finished) {ks : List Nat}
    (hfinished : (s.run ks).Finished) :
    ∃ before k after, ks = before ++ k :: after ∧ (s.run before).StoresLast k := by
  induction ks generalizing s with
  | nil => exact absurd hfinished hnot
  | cons k ks ih =>
    by_cases hstep : (s.step k).Finished
    · exact ⟨[], k, ks, rfl, storesLast_of_finished_step hnot hstep⟩
    · obtain ⟨before, j, after, rfl, hlast⟩ := ih hstep hfinished
      exact ⟨k :: before, j, after, rfl, hlast⟩

theorem not_finished_of_storesLast {s : HistorySystem} {k : Nat} (h : s.StoresLast k) :
    ¬ s.Finished := by
  intro hfinished
  obtain ⟨⟨e, n, hk⟩, -⟩ := h
  cases (finished_iff s).mp hfinished k _ hk

/-- There is one last store in a run. -/
theorem storesLast_unique {s : HistorySystem} {before before' after after' : List Nat} {k k' : Nat}
    (heq : before ++ k :: after = before' ++ k' :: after') (h : (s.run before).StoresLast k)
    (h' : (s.run before').StoresLast k') : before = before' ∧ k = k' := by
  have hnot : ∀ {ks ks' : List Nat} {j j' : Nat}, (s.run ks).StoresLast j →
      ¬ (s.run (ks ++ j :: ks')).StoresLast j' := by
    intro ks ks' j j' hj hj'
    rw [run_append, run_cons, run_of_finished (finished_step_of_storesLast hj)] at hj'
    exact not_finished_of_storesLast hj' (finished_step_of_storesLast hj)
  rcases List.append_eq_append_iff.mp heq with ⟨more, rfl, hmore⟩ | ⟨more, rfl, hmore⟩
  · cases more with
    | nil =>
      obtain ⟨rfl, -⟩ := List.cons.inj hmore
      exact ⟨(List.append_nil _).symm, rfl⟩
    | cons j more =>
      obtain ⟨rfl, -⟩ := List.cons.inj hmore
      exact absurd h' (hnot h)
  · cases more with
    | nil =>
      obtain ⟨rfl, -⟩ := List.cons.inj hmore
      exact ⟨List.append_nil _, rfl⟩
    | cons j more =>
      obtain ⟨rfl, -⟩ := List.cons.inj hmore
      exact absurd h (hnot h')

theorem comments_storeIncidentCommentCount (t : IncidentTables) (e e' : UnifiedEventIdType)
    (n : Int) : (t.storeIncidentCommentCount e n).comments e' = t.comments e' := rfl

/-- What is stored is right for the event if it is the number of comments. -/
theorem commentsCounted_store_iff {t : IncidentTables} {e : UnifiedEventIdType}
    (hincident : ∃ incident ∈ t.incidents, incident.unifiedEventId = e) (n : Nat) :
    (t.storeIncidentCommentCount e n).CommentsCounted e ↔ n = t.comments e := by
  constructor
  · intro hcounted
    obtain ⟨incident, hmem, hevent⟩ := hincident
    have hshown := hcounted _ (List.mem_map_of_mem hmem)
    simp only [hevent, if_true, comments_storeIncidentCommentCount] at hshown
    exact Int.ofNat_inj.mp (hshown trivial)
  · rintro rfl incident hmem hevent
    obtain ⟨row, -, rfl⟩ := List.mem_map.mp hmem
    rw [comments_storeIncidentCommentCount]
    split at hevent
    next heq => simp [heq]
    next hne => exact absurd hevent hne

/-! ## Requests for one event -/

/-- What a client has to do is about an event. -/
def isFor (e : UnifiedEventIdType) : HistoryClient → Prop
  | .write request => request.history.unifiedEventId = e
  | .count e' => e' = e
  | .store e' _ => e' = e
  | .done => True

/-- The clients are about an event, of which there is an incident. -/
structure About (s : HistorySystem) (e : UnifiedEventIdType) : Prop where
  clients : ∀ c ∈ s.clients, isFor e c
  incident : ∃ incident ∈ s.tables.incidents, incident.unifiedEventId = e

theorem About.step {s : HistorySystem} {e : UnifiedEventIdType} (h : s.About e) (k : Nat) :
    (s.step k).About e := by
  have hset : ∀ c, isFor e c → ∀ c' ∈ s.clients.set k c, isFor e c' := by
    intro c hc c' hc'
    rcases List.mem_or_eq_of_mem_set hc' with hc' | rfl
    · exact h.clients c' hc'
    · exact hc
  cases hk : s.clients[k]? with
  | none =>
    unfold HistorySystem.step
    rw [hk]
    exact h
  | some c =>
    have hc := h.clients c (List.mem_of_getElem? hk)
    cases c with
    | write request =>
      unfold HistorySystem.step
      rw [hk]
      cases request with
      | addIncidentHistory history => exact ⟨hset _ hc, h.incident⟩
      | updateIncidentHistory history => exact ⟨hset _ hc, h.incident⟩
    | count e' =>
      rw [step_count hk]
      exact ⟨hset _ hc, h.incident⟩
    | store e' n =>
      rw [step_store hk]
      refine ⟨hset _ trivial, ?_⟩
      obtain ⟨incident, hmem, hevent⟩ := h.incident
      refine ⟨_, List.mem_map_of_mem hmem, ?_⟩
      split <;> exact hevent
    | done =>
      rw [step_done hk]
      exact h

theorem About.run {s : HistorySystem} {e : UnifiedEventIdType} (h : s.About e) (ks : List Nat) :
    (s.run ks).About e := by
  induction ks generalizing s with
  | nil => exact h
  | cons k ks ih => exact ih (h.step k)

/-- After the last client has stored, its count is what is shown. -/
theorem commentsCounted_run_iff {s : HistorySystem} {e : UnifiedEventIdType} (h : s.About e)
    {k : Nat} {n : Nat} (hlast : s.StoresLast k) (hk : s.clients[k]? = some (.store e n))
    (after : List Nat) :
    (s.run (k :: after)).tables.CommentsCounted e ↔ n = s.tables.comments e := by
  rw [run_cons, run_of_finished (finished_step_of_storesLast hlast), step_store hk]
  exact commentsCounted_store_iff h.incident n

end HistorySystem

open HistorySystem

/-- (DBTablesMonitoring.cc:3604-3675) Clients write, count and store in any order. When all are done,
    the incident shows the number of its comments exactly if nobody has changed that number between
    the count and the store of the client that stores last. -/
theorem comments_counted_iff (tables : IncidentTables) (requests : List HistoryRequest)
    (e : UnifiedEventIdType) (schedule : List Nat)
    (hrequests : ∀ request ∈ requests, request.history.unifiedEventId = e)
    (hincident : ∃ incident ∈ tables.incidents, incident.unifiedEventId = e)
    (hcounted : tables.CommentsCounted e)
    (hfinished : ((start tables requests).run schedule).Finished) :
    ((start tables requests).run schedule).tables.CommentsCounted e ↔
      (start tables requests).LastCountHolds e schedule := by
  have habout : (start tables requests).About e := by
    refine ⟨?_, hincident⟩
    intro c hc
    obtain ⟨request, hrequest, rfl⟩ := List.mem_map.mp hc
    exact hrequests request hrequest
  by_cases hstart : (start tables requests).Finished
  · rw [run_of_finished hstart]
    refine iff_of_true hcounted ?_
    intro before k between after _ hcount _
    rw [run_of_finished hstart] at hcount
    cases (finished_iff _).mp hstart k _ hcount
  obtain ⟨prior, k, after, rfl, hlast⟩ := exists_storesLast hstart hfinished
  obtain ⟨⟨e', n, hk⟩, hothers⟩ := hlast
  have habout' := habout.run prior
  obtain rfl : e' = e := habout'.clients _ (List.mem_of_getElem? hk)
  have hlast : ((start tables requests).run prior).StoresLast k := ⟨⟨_, n, hk⟩, hothers⟩
  rw [run_append, commentsCounted_run_iff habout' hlast hk]
  constructor
  · intro hn before j between after' heq hcount hlast'
    rw [← List.cons_append, ← List.append_assoc] at heq
    obtain ⟨rfl, rfl⟩ := storesLast_unique heq hlast hlast'
    -- the count that is stored is the one that was taken first
    rw [← hn]
    rw [run_append, run_cons] at hk
    rcases store_run (store_of_step_count hcount) between with hheld | hdone
    · cases hheld.symm.trans hk
      rfl
    · cases hdone.symm.trans hk
  · intro hholds
    obtain ⟨before, between, rfl, hcount, hn⟩ := exists_count prior hk
    rw [hn]
    exact hholds before k between after (by simp) hcount hlast

/-! Two clients comment on an event that has an incident without comments. -/

def commentedTables : IncidentTables where
  incidents := [⟨5, 1, .ofString "3", emptyText, .ofString "100", emptyText, .ofString "NONE",
    emptyText, ⟨0, 0⟩, ⟨0, 0⟩, emptyText, 0, 100, 0⟩]
  histories := .empty _
  uniqueKey := List.nodup_singleton _

def commentRequest (comment : String) : HistoryRequest :=
  .addIncidentHistory ⟨0, 100, 1, .ofString "NONE", .ofString comment, ⟨0, 0⟩⟩

/-- The first client counts its own comment only, and stores that after the second one has stored. -/
theorem comment_not_counted :
    ((start commentedTables [commentRequest "a", commentRequest "b"]).run [0, 0, 1, 1, 1,
      0]).Finished ∧
      ¬ ((start commentedTables [commentRequest "a", commentRequest "b"]).run
        [0, 0, 1, 1, 1, 0]).tables.CommentsCounted 100 := by
  constructor
  · unfold Finished
    decide
  · unfold IncidentTables.CommentsCounted
    decide

theorem comments_counted_iff_of_turns :
    ((start commentedTables [commentRequest "a", commentRequest "b"]).run
        [0, 0, 0, 1, 1, 1]).tables.CommentsCounted 100 ↔
      (start commentedTables [commentRequest "a", commentRequest "b"]).LastCountHolds 100
        [0, 0, 0, 1, 1, 1] :=
  comments_counted_iff commentedTables [commentRequest "a", commentRequest "b"] 100 [0, 0, 0, 1, 1,
    1]
    (by decide) (by decide) (by unfold IncidentTables.CommentsCounted; decide)
    (by unfold Finished; decide)

end Hatohol

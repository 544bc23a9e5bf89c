import Hatohol.FetchWorker
import Hatohol.Machine.Steps

/-!
# Rounds of fetches

A round ends when its last fetcher calls back. The worker counts what runs and what is queued as
long as a round begins after the end of the one before, a fetcher of it runs, and each job that
leaves the queue runs.
-/

namespace Hatohol

open Machine

namespace FetchWorker

variable {kind : FetchKind} {w : FetchWorker}

/-! ## The loop of `start` -/

/-- The data store at a place is asked at once, and its fetch starts. -/
def StartsAt (kind : FetchKind) (request : FetchRequest) (i : Nat) (dataStore : FetchedStore) :
    Prop :=
  shouldWake kind request.targetServerId dataStore ∧ i < maxRunningFetchers ∧ request.starts i

/-- The data store at a place waits in the queue. -/
def QueuesAt (kind : FetchKind) (request : FetchRequest) (i : Nat) (dataStore : FetchedStore) :
    Prop :=
  shouldWake kind request.targetServerId dataStore ∧ maxRunningFetchers ≤ i

theorem startOne_count (kind : FetchKind) (request : FetchRequest) (w : FetchWorker) (i : Nat)
    (dataStore : FetchedStore) (hremaining : 0 < w.remainingFetchersCount) :
    (w.startOne kind request i dataStore).remainingFetchersCount + w.running.length +
        w.fetcherJobQueue.length + 1 =
      w.remainingFetchersCount + (w.startOne kind request i dataStore).running.length +
        (w.startOne kind request i dataStore).fetcherJobQueue.length := by
  rw [startOne]
  split
  · dsimp only
    omega
  · split
    · split
      · simp only [List.length_append, List.length_singleton]
        omega
      · dsimp only
        omega
    · simp only [List.length_append, List.length_singleton]
      omega

theorem le_startOne_remainingFetchersCount (kind : FetchKind) (request : FetchRequest)
    (w : FetchWorker) (i : Nat) (dataStore : FetchedStore) :
    w.remainingFetchersCount ≤ (w.startOne kind request i dataStore).remainingFetchersCount + 1 := by
  rw [startOne]
  split
  · dsimp only
    omega
  · split
    · split
      · exact Nat.le_succ _
      · dsimp only
        omega
    · exact Nat.le_succ _

/-- The count is short of the data stores by those that are neither started nor queued. -/
theorem startFrom_count (kind : FetchKind) (request : FetchRequest) (stores : List FetchedStore)
    (i : Nat) (w : FetchWorker) (hremaining : stores.length ≤ w.remainingFetchersCount) :
    (startFrom kind request i stores w).remainingFetchersCount + w.running.length +
        w.fetcherJobQueue.length + stores.length =
      w.remainingFetchersCount + (startFrom kind request i stores w).running.length +
        (startFrom kind request i stores w).fetcherJobQueue.length := by
  induction stores generalizing i w with
  | nil => rfl
  | cons dataStore rest ih =>
    rw [List.length_cons] at hremaining ⊢
    have hone := startOne_count kind request w i dataStore (by omega)
    have hleast := le_startOne_remainingFetchersCount kind request w i dataStore
    have hrest := ih (i + 1) (w.startOne kind request i dataStore) (by omega)
    rw [startFrom]
    omega

theorem startOne_running_eq_nil (kind : FetchKind) (request : FetchRequest) (w : FetchWorker)
    (i : Nat) (dataStore : FetchedStore) :
    (w.startOne kind request i dataStore).running = [] ↔
      w.running = [] ∧ ¬ StartsAt kind request i dataStore := by
  rw [startOne, StartsAt]
  split
  · simp_all
  · split
    · split <;> simp_all
    · simp_all

theorem startOne_fetcherJobQueue_eq_nil (kind : FetchKind) (request : FetchRequest)
    (w : FetchWorker) (i : Nat) (dataStore : FetchedStore) :
    (w.startOne kind request i dataStore).fetcherJobQueue = [] ↔
      w.fetcherJobQueue = [] ∧ ¬ QueuesAt kind request i dataStore := by
  rw [startOne, QueuesAt]
  split
  · simp_all
  · split
    · split <;> simp_all
    · simp_all

/-- What holds of no data store from a place on holds neither there nor of the rest. -/
theorem forall_getElem?_cons {P : Nat → FetchedStore → Prop} {i : Nat} {dataStore : FetchedStore}
    {rest : List FetchedStore} :
    (∀ j store, (dataStore :: rest)[j]? = some store → ¬ P (i + j) store) ↔
      ¬ P i dataStore ∧ ∀ j store, rest[j]? = some store → ¬ P (i + 1 + j) store := by
  constructor
  · intro hnone
    refine ⟨hnone 0 dataStore rfl, fun j store hstore => ?_⟩
    rw [Nat.add_assoc, Nat.add_comm 1 j]
    exact hnone (j + 1) store hstore
  · rintro ⟨hfirst, hrest⟩ j store hstore
    cases j with
    | zero =>
      obtain rfl := Option.some.inj hstore
      exact hfirst
    | succ j =>
      have hlater := hrest j store hstore
      rwa [Nat.add_assoc, Nat.add_comm 1 j] at hlater

theorem startFrom_running_eq_nil (kind : FetchKind) (request : FetchRequest)
    (stores : List FetchedStore) (i : Nat) (w : FetchWorker) :
    (startFrom kind request i stores w).running = [] ↔
      w.running = [] ∧ ∀ j store, stores[j]? = some store → ¬ StartsAt kind request (i + j) store := by
  induction stores generalizing i w with
  | nil => simp [startFrom]
  | cons dataStore rest ih =>
    rw [startFrom, ih, startOne_running_eq_nil, forall_getElem?_cons, and_assoc]

theorem startFrom_fetcherJobQueue_eq_nil (kind : FetchKind) (request : FetchRequest)
    (stores : List FetchedStore) (i : Nat) (w : FetchWorker) :
    (startFrom kind request i stores w).fetcherJobQueue = [] ↔
      w.fetcherJobQueue = [] ∧
        ∀ j store, stores[j]? = some store → ¬ QueuesAt kind request (i + j) store := by
  induction stores generalizing i w with
  | nil => simp [startFrom]
  | cons dataStore rest ih =>
    rw [startFrom, ih, startOne_fetcherJobQueue_eq_nil, forall_getElem?_cons, and_assoc]

/-- The loop leaves the semaphore and the closures as they are. -/
theorem startFrom_signals (kind : FetchKind) (request : FetchRequest) (stores : List FetchedStore)
    (i : Nat) (w : FetchWorker) :
    (startFrom kind request i stores w).fetchedSignal = w.fetchedSignal ∧
      (startFrom kind request i stores w).called = w.called ∧
      (startFrom kind request i stores w).updatedSemaphore = w.updatedSemaphore ∧
      (startFrom kind request i stores w).rounds = w.rounds := by
  induction stores generalizing i w with
  | nil => exact ⟨rfl, rfl, rfl, rfl⟩
  | cons dataStore rest ih =>
    obtain ⟨hsignal, hcalled, hsemaphore, hrounds⟩ :=
      ih (i + 1) (w.startOne kind request i dataStore)
    rw [startFrom, hsignal, hcalled, hsemaphore, hrounds, startOne]
    split
    · exact ⟨rfl, rfl, rfl, rfl⟩
    · split
      · split <;> exact ⟨rfl, rfl, rfl, rfl⟩
      · exact ⟨rfl, rfl, rfl, rfl⟩

/-- A data store of a request is asked at once, and its fetch starts. -/
def StartsAny (kind : FetchKind) (request : FetchRequest) : Prop :=
  ∃ (i : Nat) (dataStore : FetchedStore),
    request.allDataStores[i]? = some dataStore ∧ StartsAt kind request i dataStore

def QueuesAny (kind : FetchKind) (request : FetchRequest) : Prop :=
  ∃ (i : Nat) (dataStore : FetchedStore),
    request.allDataStores[i]? = some dataStore ∧ QueuesAt kind request i dataStore

variable {request : FetchRequest} {closure : Option Nat}

/-- What a start does to a worker with data stores. -/
structure Started (kind : FetchKind) (w : FetchWorker) (request : FetchRequest)
    (closure : Option Nat) (w' : FetchWorker) : Prop where
  remaining : w'.remainingFetchersCount + w.running.length + w.fetcherJobQueue.length =
    w'.running.length + w'.fetcherJobQueue.length
  running : w'.running = [] ↔ w.running = [] ∧ ¬ StartsAny kind request
  queue : w'.fetcherJobQueue = [] ↔ w.fetcherJobQueue = [] ∧ ¬ QueuesAny kind request
  signal : w'.fetchedSignal = w.fetchedSignal ++ closure.toList
  called : w'.called = w.called
  semaphore : w'.updatedSemaphore = w.updatedSemaphore
  rounds : w'.rounds = w.rounds + 1

theorem started_start (w : FetchWorker) (hstores : request.allDataStores.isEmpty = false) :
    Started kind w request closure (w.start kind request closure).2 := by
  rw [start, hstores, if_neg Bool.false_ne_true]
  let begun : FetchWorker := { w with
    fetchedSignal := w.fetchedSignal ++ closure.toList
    remainingFetchersCount := request.allDataStores.length }
  obtain ⟨hsignal, hcalled, hsemaphore, hrounds⟩ :=
    startFrom_signals kind request request.allDataStores 0 begun
  have hcount := startFrom_count kind request request.allDataStores 0 begun (Nat.le_refl _)
  have hrunning := startFrom_running_eq_nil kind request request.allDataStores 0 begun
  have hqueue := startFrom_fetcherJobQueue_eq_nil kind request request.allDataStores 0 begun
  simp only [Nat.zero_add] at hrunning hqueue
  exact
    { remaining := by
        change (startFrom kind request 0 request.allDataStores begun).remainingFetchersCount +
          w.running.length + w.fetcherJobQueue.length + request.allDataStores.length =
          request.allDataStores.length + _ + _ at hcount
        change (startFrom kind request 0 request.allDataStores begun).remainingFetchersCount +
          w.running.length + w.fetcherJobQueue.length =
          (startFrom kind request 0 request.allDataStores begun).running.length +
            (startFrom kind request 0 request.allDataStores begun).fetcherJobQueue.length
        omega
      running := by simpa only [StartsAny, not_exists, not_and] using hrunning
      queue := by simpa only [QueuesAny, not_exists, not_and] using hqueue
      signal := hsignal
      called := hcalled
      semaphore := hsemaphore
      rounds := congrArg (· + 1) hrounds }

/-! ## Callbacks -/

theorem length_running_runFront (w : FetchWorker) (starts : Bool) :
    (w.runFront starts).running.length =
      w.running.length + if starts ∧ w.fetcherJobQueue ≠ [] then 1 else 0 := by
  rw [runFront]
  split
  next hqueue => simp [hqueue]
  next fetcherJob rest hqueue => cases starts <;> simp [hqueue]

theorem fetcherJobQueue_runFront (w : FetchWorker) (starts : Bool) :
    (w.runFront starts).fetcherJobQueue = w.fetcherJobQueue.tail := by
  rw [runFront]
  split
  next hqueue => rw [hqueue, List.tail_nil]
  next hqueue => rw [hqueue, List.tail_cons]

/-- What a job that leaves the queue does not touch. -/
theorem runFront_signals (w : FetchWorker) (starts : Bool) :
    (w.runFront starts).remainingFetchersCount = w.remainingFetchersCount ∧
      (w.runFront starts).fetchedSignal = w.fetchedSignal ∧
      (w.runFront starts).called = w.called ∧
      (w.runFront starts).updatedSemaphore = w.updatedSemaphore ∧
      (w.runFront starts).rounds = w.rounds := by
  rw [runFront]
  split <;> exact ⟨rfl, rfl, rfl, rfl, rfl⟩

theorem countDown_jobs (w : FetchWorker) :
    w.countDown.running = w.running ∧ w.countDown.fetcherJobQueue = w.fetcherJobQueue ∧
      w.countDown.rounds = w.rounds := by
  rw [countDown]
  split
  · exact ⟨rfl, rfl, rfl⟩
  · split <;> exact ⟨rfl, rfl, rfl⟩

theorem remainingFetchersCount_countDown (w : FetchWorker) :
    w.countDown.remainingFetchersCount = w.remainingFetchersCount - 1 := by
  rw [countDown]
  split
  next hzero => rw [hzero]
  next => split <;> rfl

/-- The last of the fetchers calls what is connected, and posts. -/
theorem countDown_signals (w : FetchWorker) :
    (w.remainingFetchersCount = 1 → w.countDown.fetchedSignal = [] ∧
      w.countDown.called = w.called ++ w.fetchedSignal ∧
      w.countDown.updatedSemaphore = w.updatedSemaphore + 1) ∧
    (w.remainingFetchersCount ≠ 1 → w.countDown.fetchedSignal = w.fetchedSignal ∧
      w.countDown.called = w.called ∧
      w.countDown.updatedSemaphore = w.updatedSemaphore) := by
  rw [countDown]
  split
  next hzero => exact ⟨fun hone => by omega, fun _ => ⟨rfl, rfl, rfl⟩⟩
  next hzero =>
    split
    next hmore => exact ⟨fun hone => by omega, fun _ => ⟨rfl, rfl, rfl⟩⟩
    next hlast => exact ⟨fun _ => ⟨rfl, rfl, rfl⟩, fun hone => by omega⟩

theorem called_append_fetchedSignal_countDown (w : FetchWorker) :
    w.countDown.called ++ w.countDown.fetchedSignal = w.called ++ w.fetchedSignal := by
  obtain ⟨hlast, hmore⟩ := countDown_signals w
  by_cases hone : w.remainingFetchersCount = 1
  · rw [(hlast hone).1, (hlast hone).2.1, List.append_nil]
  · rw [(hmore hone).1, (hmore hone).2.1]

variable {fetcher : FetcherJob} {starts : Bool}

/-- What a callback of a fetcher that runs does to a worker. -/
structure CalledBack (w : FetchWorker) (starts : Bool) (w' : FetchWorker) : Prop where
  remaining : w'.remainingFetchersCount = w.remainingFetchersCount - 1
  running : w'.running.length + 1 =
    w.running.length + if starts ∧ w.fetcherJobQueue ≠ [] then 1 else 0
  queue : w'.fetcherJobQueue = w.fetcherJobQueue.tail
  last : w.remainingFetchersCount = 1 →
    w'.fetchedSignal = [] ∧ w'.updatedSemaphore = w.updatedSemaphore + 1
  more : w.remainingFetchersCount ≠ 1 →
    w'.fetchedSignal = w.fetchedSignal ∧ w'.updatedSemaphore = w.updatedSemaphore
  called : w'.called ++ w'.fetchedSignal = w.called ++ w.fetchedSignal
  rounds : w'.rounds = w.rounds

theorem calledBack_updatedCallback (hfetcher : fetcher ∈ w.running) (starts : Bool) :
    CalledBack w starts (w.updatedCallback fetcher starts) := by
  have hlength : (w.running.erase fetcher).length + 1 = w.running.length := by
    have hpos := List.length_pos_of_mem hfetcher
    rw [List.length_erase_of_mem hfetcher]
    omega
  rw [updatedCallback, if_pos hfetcher]
  let left : FetchWorker := { w with running := w.running.erase fetcher }
  obtain ⟨hremaining, hsignal, hcalled, hsemaphore, hrounds⟩ := runFront_signals left starts
  obtain ⟨hjobs, hqueue, hsame⟩ := countDown_jobs (left.runFront starts)
  obtain ⟨hlast, hmore⟩ := countDown_signals (left.runFront starts)
  have hfront := length_running_runFront left starts
  rw [hremaining, hsignal, hcalled, hsemaphore] at hlast hmore
  exact
    { remaining := by rw [remainingFetchersCount_countDown, hremaining]
      running := by
        change (left.runFront starts).countDown.running.length + 1 = _
        rw [hjobs, hfront, ← hlength]
        exact Nat.add_right_comm ..
      queue := by
        change (left.runFront starts).countDown.fetcherJobQueue = _
        rw [hqueue, fetcherJobQueue_runFront]
      last := fun hone => ⟨(hlast hone).1, (hlast hone).2.2⟩
      more := fun hone => ⟨(hmore hone).1, (hmore hone).2.2⟩
      called := by
        rw [called_append_fetchedSignal_countDown, hsignal, hcalled]
      rounds := hsame.trans hrounds }

/-! ## Rounds that end -/

/-- The count is that of the fetchers, a job in the queue waits for a fetcher that runs, and where
    none runs the round is over and its closures have been called. -/
structure Ends (w : FetchWorker) : Prop where
  count : w.remainingFetchersCount = w.running.length + w.fetcherJobQueue.length
  queue : w.fetcherJobQueue ≠ [] → w.running ≠ []
  idle : w.running = [] → w.remainingFetchersCount = 0 ∧ w.fetchedSignal = []

theorem ends_new : Ends new where
  count := rfl
  queue := fun h => absurd rfl h
  idle := fun _ => ⟨rfl, rfl⟩

/-- A round begins after the end of the one before, and a fetcher runs if a job is queued or a
    closure is connected; a job that leaves the queue runs. -/
def Clean (kind : FetchKind) (w : FetchWorker) : Call → Prop
  | .start request closure => request.allDataStores.isEmpty = false →
      w.running = [] ∧ (StartsAny kind request ∨ ¬ QueuesAny kind request ∧ closure = none)
  | .updatedCallback fetcher starts => fetcher ∈ w.running → w.fetcherJobQueue ≠ [] → starts

/-- A start keeps the rounds ending exactly where it is clean. -/
theorem ends_start_iff (hends : w.Ends) (hstores : request.allDataStores.isEmpty = false) :
    (w.start kind request closure).2.Ends ↔
      w.running = [] ∧ (StartsAny kind request ∨ ¬ QueuesAny kind request ∧ closure = none) := by
  have hstarted : Started kind w request closure _ := started_start w hstores
  generalize (w.start kind request closure).2 = w' at hstarted ⊢
  constructor
  · intro hends'
    have hnone : w.running = [] := by
      have hcount := hstarted.remaining
      rw [hends'.count] at hcount
      exact List.length_eq_zero_iff.mp (by omega)
    refine ⟨hnone, Classical.or_iff_not_imp_left.mpr fun hstarts => ?_⟩
    have hrunning := hstarted.running.mpr ⟨hnone, hstarts⟩
    obtain ⟨-, hsignal⟩ := hends'.idle hrunning
    have hqueue : w'.fetcherJobQueue = [] := by
      by_contra hne
      exact hends'.queue hne hrunning
    rw [hstarted.signal, List.append_eq_nil_iff] at hsignal
    refine ⟨(hstarted.queue.mp hqueue).2, ?_⟩
    simpa using hsignal.2
  · rintro ⟨hnone, hclean⟩
    obtain ⟨hzero, hsignal⟩ := hends.idle hnone
    have hqueue : w.fetcherJobQueue = [] := by
      by_contra hne
      exact hends.queue hne hnone
    have hcount : w'.remainingFetchersCount = w'.running.length + w'.fetcherJobQueue.length := by
      have hremaining := hstarted.remaining
      rw [hnone, hqueue] at hremaining
      exact hremaining
    -- Where no fetcher runs, none was to be started.
    have hidle : w'.running = [] → w'.fetcherJobQueue = [] ∧ w'.fetchedSignal = [] := by
      intro hrunning
      obtain ⟨hqueues, rfl⟩ := hclean.resolve_left (hstarted.running.mp hrunning).2
      refine ⟨hstarted.queue.mpr ⟨hqueue, hqueues⟩, ?_⟩
      rw [hstarted.signal, hsignal]
      rfl
    exact
      { count := hcount
        queue := fun hne hrunning => hne (hidle hrunning).1
        idle := fun hrunning => by
          obtain ⟨hqueue', hsignal'⟩ := hidle hrunning
          rw [hcount, hrunning, hqueue']
          exact ⟨rfl, hsignal'⟩ }

/-- A callback keeps the rounds ending exactly where it is clean. -/
theorem ends_updatedCallback_iff (hends : w.Ends) (hfetcher : fetcher ∈ w.running) :
    (w.updatedCallback fetcher starts).Ends ↔ (w.fetcherJobQueue ≠ [] → starts) := by
  have hback := calledBack_updatedCallback hfetcher starts
  generalize w.updatedCallback fetcher starts = w' at hback ⊢
  have hpos := List.length_pos_of_mem hfetcher
  have hrunning := hback.running
  have hremaining := hback.remaining
  have hlength : w'.fetcherJobQueue.length = w.fetcherJobQueue.length - 1 := by
    rw [hback.queue, List.length_tail]
  constructor
  · intro hends' hne
    have hqueue := List.length_pos_iff.mpr hne
    by_contra hstarts
    rw [if_neg fun h => hstarts h.1] at hrunning
    have hcount := hends'.count
    rw [hremaining, hlength, hends.count] at hcount
    omega
  · intro hclean
    have hcount : w'.remainingFetchersCount = w'.running.length + w'.fetcherJobQueue.length := by
      rw [hremaining, hlength, hends.count]
      by_cases hne : w.fetcherJobQueue = []
      · rw [if_neg fun h => h.2 hne] at hrunning
        rw [hne, List.length_nil]
        omega
      · have hqueue := List.length_pos_iff.mpr hne
        rw [if_pos ⟨hclean hne, hne⟩] at hrunning
        omega
    -- The queue of a worker where none runs is empty: a job that left it would run.
    have hidle : w'.running = [] → w.fetcherJobQueue = [] ∧ w.remainingFetchersCount = 1 := by
      intro hnone
      rw [hnone, List.length_nil] at hrunning
      have hne : w.fetcherJobQueue = [] := by
        by_contra hne
        rw [if_pos ⟨hclean hne, hne⟩] at hrunning
        omega
      refine ⟨hne, ?_⟩
      rw [if_neg fun h => h.2 hne] at hrunning
      rw [hends.count, hne, List.length_nil]
      omega
    exact
      { count := hcount
        queue := fun hne hnone => hne (by rw [hback.queue, (hidle hnone).1, List.tail_nil])
        idle := fun hnone => by
          obtain ⟨-, hone⟩ := hidle hnone
          refine ⟨?_, (hback.last hone).1⟩
          rw [hremaining, hone] }

theorem ends_next_iff (hends : w.Ends) (call : Call) :
    (w.next kind call).Ends ↔ w.Clean kind call := by
  cases call with
  | start request closure =>
    cases hstores : request.allDataStores.isEmpty with
    | true =>
      rw [next, start, if_pos hstores, Clean]
      exact ⟨fun _ h => absurd hstores (by rw [h]; decide), fun _ => hends⟩
    | false =>
      rw [next, ends_start_iff hends hstores, Clean]
      exact ⟨fun h _ => h, fun h => h hstores⟩
  | updatedCallback fetcher starts =>
    by_cases hfetcher : fetcher ∈ w.running
    · rw [next, ends_updatedCallback_iff hends hfetcher, Clean]
      exact ⟨fun h _ => h, fun h => h hfetcher⟩
    · rw [next, updatedCallback, if_neg hfetcher, Clean]
      exact ⟨fun _ h => absurd h hfetcher, fun _ => hends⟩

/-! ## Runs -/

/-- The property of a run: the count is right, no queue waits for nothing, and where no fetcher runs
    every closure that was connected has been called. -/
structure RoundsEnd (kind : FetchKind) (calls : List Call) : Prop where
  count : (after kind calls).remainingFetchersCount =
    (after kind calls).running.length + (after kind calls).fetcherJobQueue.length
  queue : (after kind calls).fetcherJobQueue ≠ [] → (after kind calls).running ≠ []
  idle : (after kind calls).running = [] → (after kind calls).remainingFetchersCount = 0 ∧
    (after kind calls).called = calls.flatMap Call.connects

theorem closures_next (w : FetchWorker) (call : Call) :
    (w.next kind call).called ++ (w.next kind call).fetchedSignal =
      w.called ++ w.fetchedSignal ++ call.connects := by
  cases call with
  | start request closure =>
    rw [next, Call.connects]
    cases hstores : request.allDataStores.isEmpty with
    | true => rw [start, if_pos hstores, if_pos rfl, List.append_nil]
    | false =>
      have hstarted : Started kind w request closure _ := started_start w hstores
      rw [hstarted.called, hstarted.signal, if_neg Bool.false_ne_true, List.append_assoc]
  | updatedCallback fetcher starts =>
    rw [next, Call.connects, List.append_nil]
    by_cases hfetcher : fetcher ∈ w.running
    · exact (calledBack_updatedCallback hfetcher starts).called
    · rw [updatedCallback, if_neg hfetcher]

/-- Every closure that was connected has been called or is still connected. -/
theorem closures_after (kind : FetchKind) (calls : List Call) :
    (after kind calls).called ++ (after kind calls).fetchedSignal =
      calls.flatMap Call.connects := by
  induction calls using List.reverseRecOn with
  | nil => rfl
  | append_singleton calls call ih =>
    rw [after, List.foldl_append, List.foldl_cons, List.foldl_nil, closures_next, ← after, ih,
      List.flatMap_append, List.flatMap_singleton]

theorem roundsEnd_iff (kind : FetchKind) (calls : List Call) :
    RoundsEnd kind calls ↔ (after kind calls).Ends := by
  have hclosures := closures_after kind calls
  constructor
  · intro hround
    refine ⟨hround.count, hround.queue, fun hnone => ⟨(hround.idle hnone).1, ?_⟩⟩
    rw [(hround.idle hnone).2] at hclosures
    exact List.append_right_eq_self.mp hclosures
  · intro hends
    refine ⟨hends.count, hends.queue, fun hnone => ⟨(hends.idle hnone).1, ?_⟩⟩
    rw [← hclosures, (hends.idle hnone).2, List.append_nil]

/-- The rounds of a run end exactly where every call is clean. -/
theorem roundsEnd_throughout_iff (kind : FetchKind) (calls : List Call) :
    (∀ before, before <+: calls → RoundsEnd kind before) ↔
      Heeds (next kind) (Clean kind) new calls := by
  rw [heeds_iff Ends (fun _ call hends => ends_next_iff hends call) calls new ends_new]
  exact forall_congr' fun before => imp_congr_right fun _ => roundsEnd_iff kind before

/-- Nine servers, of which only the last is asked: its place is beyond the limit. -/
def lastOfNine : FetchRequest where
  targetServerId := 9
  allDataStores := (List.range' 1 9).map fun serverId => ⟨serverId, true⟩
  starts := fun _ => true

/-- The job waits in the queue for the callback of another fetcher, and there is none. -/
theorem not_roundsEnd_lastOfNine : ¬ ∀ kind calls, RoundsEnd kind calls := by
  intro hall
  have hround := hall .items [.start lastOfNine (some 0)]
  exact hround.queue (by decide) (by decide)

end FetchWorker

end Hatohol

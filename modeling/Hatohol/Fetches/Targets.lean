import Hatohol.DBTablesAction
import Hatohol.FetchWorker
import Hatohol.HostResource.Filters
import Hatohol.ItemsQueryOption

/-!
# Where a fetch goes

`start` takes the servers and hosts from a query option. `fetchItems` and `fetchTriggerAsync` have
only the ID of a server for it, from which the compiler makes an option of the user with that ID.
The counts and the closures of the workers do not bear on where a fetch goes and are left out.
-/

namespace Hatohol

/-- A data store with the procedures of its plugin. -/
structure OnDemandStore extends FetchedStore where
  isFetchTriggersSupported : Bool
  deriving DecidableEq, Repr

/-- The result of `startOnDemandFetchItems` and of `startOnDemandFetchTriggers`
    (HatoholArmPluginGateHAPI2.cc:1386-1390, 1462-1466). -/
def OnDemandStore.starts (kind : FetchKind) (dataStore : OnDemandStore) : Bool :=
  match kind with
  | .items => dataStore.isFetchItemsSupported
  | .triggers => dataStore.isFetchTriggersSupported

/-- A fetch that has been started. -/
structure OnDemandFetch where
  dataStore : OnDemandStore
  hostIds : List LocalHostIdType
  deriving DecidableEq, Repr

/-- A job in the queue has the ID of one host. -/
structure OnDemandJob where
  hostId : LocalHostIdType
  dataStore : OnDemandStore
  deriving DecidableEq, Repr

/-- `running` are the fetchers that have not called back. -/
structure OnDemandWorker where
  fetcherJobQueue : List OnDemandJob
  running : List OnDemandFetch
  started : List OnDemandFetch
  deriving DecidableEq, Repr

namespace OnDemandWorker

open FetchWorker (maxRunningFetchers shouldWake)

def new : OnDemandWorker := ⟨[], [], []⟩

/-- (ItemFetchWorker.cc:178-195, TriggerFetchWorker.cc:169-186) -/
def runFetcher (kind : FetchKind) (w : OnDemandWorker) (targetHostIds : List LocalHostIdType)
    (dataStore : OnDemandStore) : OnDemandWorker :=
  if dataStore.starts kind then { w with
    running := w.running ++ [⟨dataStore, targetHostIds⟩]
    started := w.started ++ [⟨dataStore, targetHostIds⟩] }
  else w

/-- (ItemFetchWorker.cc:88-92) -/
def targetHostIds (option : HostResourceQueryOption) : List LocalHostIdType :=
  if option.targetHostId ≠ allLocalHosts then [option.targetHostId] else []

/-- The body of the loop of `start` (ItemFetchWorker.cc:101-122). -/
def startOne (kind : FetchKind) (option : HostResourceQueryOption) (w : OnDemandWorker) (i : Nat)
    (dataStore : OnDemandStore) : OnDemandWorker :=
  if !shouldWake kind option.targetServerId dataStore.toFetchedStore then w
  else if i < maxRunningFetchers then w.runFetcher kind (targetHostIds option) dataStore
  else { w with fetcherJobQueue := w.fetcherJobQueue ++ [⟨option.targetHostId, dataStore⟩] }

def startFrom (kind : FetchKind) (option : HostResourceQueryOption) :
    Nat → List OnDemandStore → OnDemandWorker → OnDemandWorker
  | _, [], w => w
  | i, dataStore :: rest, w =>
    startFrom kind option (i + 1) rest (w.startOne kind option i dataStore)

/-- (ItemFetchWorker.cc:81-128, TriggerFetchWorker.cc:74-119) A worker that has nothing left to do
    is as a new one. -/
def start (kind : FetchKind) (option : HostResourceQueryOption) (stores : List OnDemandStore) :
    OnDemandWorker :=
  startFrom kind option 0 stores new

/-- The fetcher at a place of those that run calls back (ItemFetchWorker.cc:151-160). -/
def updatedCallback (kind : FetchKind) (w : OnDemandWorker) (n : Nat) : OnDemandWorker :=
  if n < w.running.length then
    match w.fetcherJobQueue with
    | [] => { w with running := w.running.eraseIdx n }
    | fetcherJob :: rest =>
      runFetcher kind { w with running := w.running.eraseIdx n, fetcherJobQueue := rest }
        [fetcherJob.hostId] fetcherJob.dataStore
  else w

def afterCallbacks (kind : FetchKind) (w : OnDemandWorker) (callbacks : List Nat) :
    OnDemandWorker :=
  callbacks.foldl (updatedCallback kind) w

/-! ## The functions of the unified data store -/

section Callers

variable (contextOf : UserIdType → DataQueryContext) (stores : List OnDemandStore)

/-- (UnifiedDataStore.cc:395-405) The target server becomes the user of an `ItemsQueryOption`. -/
def fetchItems (targetServerId : ServerIdType) : OnDemandWorker :=
  start .items (ItemsQueryOption.new (contextOf targetServerId)).base stores

/-- (UnifiedDataStore.cc:457-464) -/
def fetchItemsAsync (option : ItemsQueryOption) : OnDemandWorker :=
  start .items option.base stores

/-- (UnifiedDataStore.cc:466-475) The target server becomes the user of a `TriggersQueryOption`. -/
def fetchTriggerAsync (option : TriggersQueryOption) : OnDemandWorker :=
  let targetServerId := option.base.targetServerId
  start .triggers (TriggersQueryOption.new (contextOf targetServerId)).base stores

end Callers

/-! ## The loop of `start` -/

section Start

variable (kind : FetchKind) (option : HostResourceQueryOption)

/-- The data stores that a start does not pass over. -/
def woken (stores : List OnDemandStore) : List OnDemandStore :=
  stores.filter fun dataStore => shouldWake kind option.targetServerId dataStore.toFetchedStore

def directFetches (stores : List OnDemandStore) : List OnDemandFetch :=
  ((woken kind option stores).filter (OnDemandStore.starts kind)).map
    (⟨·, targetHostIds option⟩)

def queuedJobs (stores : List OnDemandStore) : List OnDemandJob :=
  (woken kind option stores).map (⟨option.targetHostId, ·⟩)

theorem woken_cons (dataStore : OnDemandStore) (rest : List OnDemandStore) :
    woken kind option (dataStore :: rest) =
      if shouldWake kind option.targetServerId dataStore.toFetchedStore then
        dataStore :: woken kind option rest
      else woken kind option rest := List.filter_cons

/-- The first data stores are asked at once, the others wait. -/
theorem startFrom_eq (stores : List OnDemandStore) (i : Nat) (w : OnDemandWorker) :
    startFrom kind option i stores w =
      ⟨w.fetcherJobQueue ++ queuedJobs kind option (stores.drop (maxRunningFetchers - i)),
        w.running ++ directFetches kind option (stores.take (maxRunningFetchers - i)),
        w.started ++ directFetches kind option (stores.take (maxRunningFetchers - i))⟩ := by
  induction stores generalizing i w with
  | nil => simp [startFrom, queuedJobs, directFetches, woken]
  | cons dataStore rest ih =>
    rw [startFrom, ih]
    by_cases hplace : i < maxRunningFetchers
    · obtain ⟨n, hn⟩ : ∃ n, maxRunningFetchers - i = n + 1 := ⟨maxRunningFetchers - (i + 1), by omega⟩
      have hrest : maxRunningFetchers - (i + 1) = n := by omega
      rw [hn, hrest, List.drop_succ_cons, List.take_succ_cons, directFetches, directFetches,
        woken_cons, startOne]
      cases hwake : shouldWake kind option.targetServerId dataStore.toFetchedStore with
      | false => simp
      | true =>
        simp only [Bool.not_true, Bool.false_eq_true, if_false, if_pos hplace, if_true, runFetcher,
          List.filter_cons]
        cases hstarts : dataStore.starts kind <;> simp
    · have hzero : maxRunningFetchers - i = 0 := by omega
      have hrest : maxRunningFetchers - (i + 1) = 0 := by omega
      rw [hzero, hrest, List.drop_zero, List.drop_zero, List.take_zero, List.take_zero, queuedJobs,
        queuedJobs, woken_cons, startOne]
      cases hwake : shouldWake kind option.targetServerId dataStore.toFetchedStore <;> simp [hplace]

theorem start_eq (stores : List OnDemandStore) :
    start kind option stores =
      ⟨queuedJobs kind option (stores.drop maxRunningFetchers),
        directFetches kind option (stores.take maxRunningFetchers),
        directFetches kind option (stores.take maxRunningFetchers)⟩ := by
  rw [start, startFrom_eq]
  rfl

end Start

/-! ## The queue -/

/-- The fetches that so many fetchers get out of the queue: each that calls back takes a job, and
    is replaced by its fetch if that starts. -/
def drained (kind : FetchKind) : Nat → List OnDemandJob → List OnDemandFetch
  | 0, _ | _, [] => []
  | r + 1, job :: rest =>
    if job.dataStore.starts kind then ⟨job.dataStore, [job.hostId]⟩ :: drained kind (r + 1) rest
    else drained kind r rest

@[simp] theorem drained_nil (kind : FetchKind) (r : Nat) : drained kind r [] = [] := by
  cases r <;> rfl

@[simp] theorem drained_zero (kind : FetchKind) (queue : List OnDemandJob) :
    drained kind 0 queue = [] := by
  cases queue <;> rfl

/-- All that are started in the end. -/
def total (kind : FetchKind) (w : OnDemandWorker) : List OnDemandFetch :=
  w.started ++ drained kind w.running.length w.fetcherJobQueue

theorem total_updatedCallback (kind : FetchKind) (w : OnDemandWorker) (n : Nat) :
    (w.updatedCallback kind n).total kind = w.total kind := by
  unfold updatedCallback
  by_cases hplace : n < w.running.length
  · obtain ⟨r, hr⟩ : ∃ r, w.running.length = r + 1 := ⟨w.running.length - 1, by omega⟩
    have herase : (w.running.eraseIdx n).length = r := by
      rw [List.length_eraseIdx_of_lt hplace]
      omega
    rw [if_pos hplace]
    cases hqueue : w.fetcherJobQueue with
    | nil => simp [total, hqueue]
    | cons job rest =>
      simp only [total, runFetcher, hqueue, hr, drained]
      by_cases hstarts : job.dataStore.starts kind
      · rw [if_pos hstarts, if_pos hstarts]
        simp [herase]
      · rw [if_neg hstarts, if_neg hstarts, herase]
  · rw [if_neg hplace]

theorem total_afterCallbacks (kind : FetchKind) (callbacks : List Nat) (w : OnDemandWorker) :
    (w.afterCallbacks kind callbacks).total kind = w.total kind := by
  induction callbacks generalizing w with
  | nil => rfl
  | cons n callbacks ih =>
    rw [afterCallbacks, List.foldl_cons]
    exact (ih _).trans (total_updatedCallback kind w n)

theorem started_of_done {kind : FetchKind} {w : OnDemandWorker} {callbacks : List Nat}
    (hdone : (w.afterCallbacks kind callbacks).running = []) :
    (w.afterCallbacks kind callbacks).started = w.total kind := by
  rw [← total_afterCallbacks kind callbacks w, total, hdone, List.length_nil, drained_zero,
    List.append_nil]

/-- A callback takes a fetcher or a job away. -/
theorem length_updatedCallback (kind : FetchKind) (w : OnDemandWorker) (hrunning : w.running ≠ []) :
    (w.updatedCallback kind 0).running.length + (w.updatedCallback kind 0).fetcherJobQueue.length <
      w.running.length + w.fetcherJobQueue.length := by
  have hpos := List.length_pos_iff.mpr hrunning
  have herase := List.length_eraseIdx_of_lt hpos
  rw [updatedCallback, if_pos hpos]
  cases hqueue : w.fetcherJobQueue with
  | nil =>
    simp only [herase, List.length_nil]
    omega
  | cons job rest =>
    simp only [runFetcher, List.length_cons]
    split
    · simp only [List.length_append, List.length_singleton, herase]
      omega
    · simp only [herase]
      omega

/-- All fetchers call back some time. -/
theorem exists_done (kind : FetchKind) (w : OnDemandWorker) :
    ∃ callbacks, (w.afterCallbacks kind callbacks).running = [] := by
  induction hsize : w.running.length + w.fetcherJobQueue.length using Nat.strong_induction_on
    generalizing w with
  | _ size ih =>
    by_cases hrunning : w.running = []
    · exact ⟨[], hrunning⟩
    · have hless := length_updatedCallback kind w hrunning
      obtain ⟨callbacks, hdone⟩ := ih _ (hsize ▸ hless) (w.updatedCallback kind 0) rfl
      exact ⟨0 :: callbacks, hdone⟩

/-! ## What is asked for -/

/-- The data store is of the target server of the option. -/
def isTarget (option : HostResourceQueryOption) (dataStore : OnDemandStore) : Bool :=
  option.targetServerId == allServers || option.targetServerId == dataStore.serverId

/-- The data stores of the target server that support the fetch. -/
def asked (kind : FetchKind) (option : HostResourceQueryOption) (stores : List OnDemandStore) :
    List OnDemandStore :=
  stores.filter fun dataStore => isTarget option dataStore && dataStore.starts kind

/-- The fetches of a call are those of the data stores that the option asks for, in their order,
    each with the hosts of the option, once all fetchers have called back in whatever order. -/
def FetchesAsAsked (kind : FetchKind) (option : HostResourceQueryOption)
    (stores : List OnDemandStore) (w : OnDemandWorker) : Prop :=
  (∃ callbacks, (w.afterCallbacks kind callbacks).running = []) ∧
    ∀ callbacks, (w.afterCallbacks kind callbacks).running = [] →
      (w.afterCallbacks kind callbacks).started =
        (asked kind option stores).map (⟨·, targetHostIds option⟩)

theorem fetchesAsAsked_iff (kind : FetchKind) (option : HostResourceQueryOption)
    (stores : List OnDemandStore) (w : OnDemandWorker) :
    FetchesAsAsked kind option stores w ↔
      w.total kind = (asked kind option stores).map (⟨·, targetHostIds option⟩) := by
  obtain ⟨callbacks, hdone⟩ := exists_done kind w
  constructor
  · rintro ⟨-, hall⟩
    rw [← started_of_done hdone]
    exact hall callbacks hdone
  · intro htotal
    exact ⟨⟨callbacks, hdone⟩, fun _ hdone => (started_of_done hdone).trans htotal⟩

/-- The first data stores, which are asked at once. -/
def near (stores : List OnDemandStore) : List OnDemandStore := stores.take maxRunningFetchers

/-- The others, which are queued. -/
def far (stores : List OnDemandStore) : List OnDemandStore := stores.drop maxRunningFetchers

theorem asked_eq_append (kind : FetchKind) (option : HostResourceQueryOption)
    (stores : List OnDemandStore) :
    asked kind option stores = asked kind option (near stores) ++ asked kind option (far stores) := by
  rw [asked, asked, asked, ← List.filter_append, near, far, List.take_append_drop]

theorem mem_asked {kind : FetchKind} {option : HostResourceQueryOption}
    {stores : List OnDemandStore} {dataStore : OnDemandStore} :
    dataStore ∈ asked kind option stores ↔
      dataStore ∈ stores ∧ isTarget option dataStore ∧ dataStore.starts kind := by
  rw [asked, List.mem_filter, Bool.and_eq_true]

theorem starts_woken (kind : FetchKind) (option : HostResourceQueryOption)
    (stores : List OnDemandStore) :
    (woken kind option stores).filter (OnDemandStore.starts kind) = asked kind option stores := by
  rw [woken, asked, List.filter_filter]
  refine List.filter_congr fun dataStore _ => ?_
  unfold FetchWorker.shouldWake isTarget OnDemandStore.starts
  by_cases hall : option.targetServerId = allServers
  · cases kind <;> simp [hall]
  · by_cases hserver : option.targetServerId = dataStore.serverId
    · cases kind <;> simp [hserver]
    · cases kind <;> simp [hall, hserver]

theorem total_start (kind : FetchKind) (option : HostResourceQueryOption)
    (stores : List OnDemandStore) :
    (start kind option stores).total kind =
      (asked kind option (near stores)).map (⟨·, targetHostIds option⟩) ++
        drained kind (asked kind option (near stores)).length
          (queuedJobs kind option (far stores)) := by
  rw [start_eq, total, directFetches, starts_woken, List.length_map]
  rfl

/-! ## The option that is kept -/

theorem drained_of_starts {kind : FetchKind} {queue : List OnDemandJob} (r : Nat)
    (hall : ∀ job ∈ queue, job.dataStore.starts kind) :
    drained kind (r + 1) queue = queue.map fun job => ⟨job.dataStore, [job.hostId]⟩ := by
  induction queue with
  | nil => rfl
  | cons job rest ih =>
    rw [drained, if_pos (hall job List.mem_cons_self), List.map_cons,
      ih fun job hjob => hall job (List.mem_cons_of_mem _ hjob)]

theorem woken_items (option : HostResourceQueryOption) (stores : List OnDemandStore) :
    woken .items option stores = asked .items option stores := by
  rw [← starts_woken, eq_comm, List.filter_eq_self]
  intro dataStore hwoken
  have hwake := (List.mem_filter.mp hwoken).2
  unfold FetchWorker.shouldWake at hwake
  split at hwake
  · cases hwake
  · exact hwake

/-- The queue gives the data stores the hosts of the option, and it is worked off. -/
def QueueServes (option : HostResourceQueryOption) (stores : List OnDemandStore) : Prop :=
  (∃ dataStore ∈ far stores, isTarget option dataStore ∧ dataStore.starts .items) →
    option.targetHostId ≠ allLocalHosts ∧
      ∃ dataStore ∈ near stores, isTarget option dataStore ∧ dataStore.starts .items

theorem asked_ne_nil_iff {kind : FetchKind} {option : HostResourceQueryOption}
    {stores : List OnDemandStore} :
    asked kind option stores ≠ [] ↔
      ∃ dataStore ∈ stores, isTarget option dataStore ∧ dataStore.starts kind := by
  simp only [← List.isEmpty_eq_false_iff, List.isEmpty_eq_false_iff_exists_mem, mem_asked]

theorem start_items_iff (option : HostResourceQueryOption) (stores : List OnDemandStore) :
    FetchesAsAsked .items option stores (start .items option stores) ↔
      QueueServes option stores := by
  rw [fetchesAsAsked_iff, total_start, asked_eq_append .items option stores, List.map_append,
    List.append_right_inj, queuedJobs, woken_items, QueueServes, ← asked_ne_nil_iff,
    ← asked_ne_nil_iff]
  cases hnear : asked .items option (near stores) with
  | nil =>
    rw [List.length_nil, drained_zero, eq_comm, List.map_eq_nil_iff]
    constructor
    · exact fun hfar hne => absurd hfar hne
    · intro hserves
      by_contra hne
      exact (hserves hne).2 rfl
  | cons first rest =>
    have hstarts : ∀ job ∈ (asked .items option (far stores)).map
        (OnDemandJob.mk option.targetHostId), job.dataStore.starts .items := by
      rw [List.forall_mem_map]
      exact fun dataStore hasked => (mem_asked.mp hasked).2.2
    rw [List.length_cons, drained_of_starts _ hstarts, List.map_map]
    cases hfar : asked .items option (far stores) with
    | nil => simp
    | cons other others =>
      have hne : other :: others ≠ [] := List.cons_ne_nil _ _
      have hnear : first :: rest ≠ [] := List.cons_ne_nil _ _
      constructor
      · intro hsame _
        refine ⟨fun hall => ?_, hnear⟩
        have hhosts := congrArg OnDemandFetch.hostIds (List.cons.inj hsame).1
        simp [targetHostIds, hall] at hhosts
      · intro hserves
        have hhosts : targetHostIds option = [option.targetHostId] := if_pos (hserves hne).1
        rw [hhosts]
        rfl

/-! ## The option that is lost -/

/-- A fetcher gets through to a job that starts unless enough jobs before it do not start. -/
theorem drained_eq_nil_iff {kind : FetchKind} {hostId : LocalHostIdType} {r : Nat}
    {stores : List OnDemandStore} :
    drained kind r (stores.map (⟨hostId, ·⟩)) = [] ↔
      ∀ before dataStore after, stores = before ++ dataStore :: after → dataStore.starts kind →
        r ≤ before.countP fun dataStore => !dataStore.starts kind := by
  induction stores generalizing r with
  | nil => simp
  | cons first rest ih =>
    cases r with
    | zero => simp
    | succ r =>
      rw [List.map_cons, drained]
      by_cases hstarts : first.starts kind
      · rw [if_pos hstarts]
        refine iff_of_false (List.cons_ne_nil _ _) fun hall => ?_
        exact Nat.not_succ_le_zero r (hall [] first rest rfl hstarts)
      · have hcounts (before : List OnDemandStore) :
            (first :: before).countP (fun dataStore => !dataStore.starts kind) =
              before.countP (fun dataStore => !dataStore.starts kind) + 1 :=
          List.countP_cons_of_pos (by simpa using hstarts)
        rw [if_neg hstarts, ih]
        constructor
        · intro hrest before dataStore after hstores hdataStore
          cases before with
          | nil =>
            obtain ⟨rfl, -⟩ := List.cons.inj hstores
            exact absurd hdataStore hstarts
          | cons _ before =>
            obtain ⟨rfl, hlater⟩ := List.cons.inj hstores
            rw [hcounts]
            exact Nat.succ_le_succ (hrest before dataStore after hlater hdataStore)
        · intro hall before dataStore after hstores hdataStore
          have hcount := hall (first :: before) dataStore after (congrArg _ hstores) hdataStore
          rw [hcounts] at hcount
          exact Nat.le_of_succ_le_succ hcount

/-- The data stores that `start` queues for a query of all servers. -/
def queuedStores (kind : FetchKind) (stores : List OnDemandStore) : List OnDemandStore :=
  (far stores).filter fun dataStore => shouldWake kind allServers dataStore.toFetchedStore

/-- All servers and all hosts are what the option asks for, as far as fetches start. -/
structure AsksForAll (kind : FetchKind) (option : HostResourceQueryOption)
    (stores : List OnDemandStore) : Prop where
  atOnce : ∀ dataStore ∈ near stores, dataStore.starts kind →
    isTarget option dataStore ∧ option.targetHostId = allLocalHosts
  later : ∀ dataStore ∈ far stores, dataStore.starts kind → isTarget option dataStore = false
  /-- No fetch comes out of the queue: before one that would start, enough others do not. -/
  queue : ∀ before dataStore after, queuedStores kind stores = before ++ dataStore :: after →
    dataStore.starts kind →
      (near stores).countP (OnDemandStore.starts kind) ≤
        before.countP fun dataStore => !dataStore.starts kind

/-- What starts is what is asked for, if it is all of the target server. -/
theorem filter_starts_eq_asked {kind : FetchKind} {option : HostResourceQueryOption}
    {stores : List OnDemandStore}
    (htargets : ∀ dataStore ∈ stores, dataStore.starts kind → isTarget option dataStore) :
    stores.filter (OnDemandStore.starts kind) = asked kind option stores := by
  refine List.filter_congr fun dataStore hmem => ?_
  cases hstarts : dataStore.starts kind with
  | false => rw [Bool.and_false]
  | true => rw [htargets dataStore hmem hstarts, Bool.and_true]

/-- A fetch out of the queue names a host also where all are meant. -/
theorem hostIds_of_mem_drained {kind : FetchKind} {r : Nat} {stores : List OnDemandStore} {fetch : OnDemandFetch}
    (hfetch : fetch ∈ drained kind r (stores.map (⟨allLocalHosts, ·⟩))) :
    fetch.hostIds = [allLocalHosts] := by
  induction stores generalizing r with
  | nil => simp at hfetch
  | cons dataStore rest ih =>
    cases r with
    | zero => simp at hfetch
    | succ r =>
      rw [List.map_cons, drained] at hfetch
      split at hfetch
      · rcases List.mem_cons.mp hfetch with rfl | hfetch
        · rfl
        · exact ih hfetch
      · exact ih hfetch

section Lost

variable {kind : FetchKind} {option' : HostResourceQueryOption}
  (hserver : option'.targetServerId = allServers) (hhost : option'.targetHostId = allLocalHosts)

include hserver hhost

theorem total_start_lost (stores : List OnDemandStore) :
    (start kind option' stores).total kind =
      ((near stores).filter (OnDemandStore.starts kind)).map (⟨·, []⟩) ++
        drained kind ((near stores).countP (OnDemandStore.starts kind))
          ((queuedStores kind stores).map (⟨allLocalHosts, ·⟩)) := by
  have hasked (some : List OnDemandStore) :
      asked kind option' some = some.filter (OnDemandStore.starts kind) := by
    refine List.filter_congr fun dataStore _ => ?_
    rw [isTarget, hserver, beq_self_eq_true, Bool.true_or, Bool.true_and]
  have hhosts : targetHostIds option' = [] := if_neg (not_not_intro hhost)
  rw [total_start, hasked, hhosts, ← List.countP_eq_length_filter, queuedJobs, woken, hserver, hhost]
  rfl

theorem start_lost_iff (option : HostResourceQueryOption) (stores : List OnDemandStore) :
    FetchesAsAsked kind option stores (start kind option' stores) ↔
      AsksForAll kind option stores := by
  rw [fetchesAsAsked_iff, total_start_lost hserver hhost]
  constructor
  · intro hsame
    have hdrained : drained kind ((near stores).countP (OnDemandStore.starts kind))
        ((queuedStores kind stores).map (⟨allLocalHosts, ·⟩)) = [] := by
      refine List.eq_nil_iff_forall_not_mem.mpr fun fetch hfetch => ?_
      have hhosts := hostIds_of_mem_drained hfetch
      have hmem := hsame ▸ List.mem_append_right _ hfetch
      obtain ⟨dataStore, -, rfl⟩ := List.mem_map.mp hmem
      unfold targetHostIds at hhosts
      split at hhosts
      · rename_i hne
        exact hne (List.cons.inj hhosts).1
      · cases hhosts
    rw [hdrained, List.append_nil] at hsame
    have hatOnce : ∀ dataStore ∈ near stores, dataStore.starts kind →
        isTarget option dataStore ∧ option.targetHostId = allLocalHosts := by
      intro dataStore hnear hstarts
      have hmem := hsame ▸ List.mem_map_of_mem (List.mem_filter.mpr ⟨hnear, hstarts⟩)
      obtain ⟨dataStore', hasked, hfetch⟩ := List.mem_map.mp hmem
      obtain ⟨rfl, hhosts⟩ := OnDemandFetch.mk.inj hfetch
      refine ⟨(mem_asked.mp hasked).2.1, ?_⟩
      unfold targetHostIds at hhosts
      by_contra hne
      rw [if_pos hne] at hhosts
      cases hhosts
    refine ⟨hatOnce, ?_, drained_eq_nil_iff.mp hdrained⟩
    have hnear := filter_starts_eq_asked fun dataStore hmem hstarts =>
      (hatOnce dataStore hmem hstarts).1
    have hlength := congrArg List.length hsame
    rw [List.length_map, List.length_map, hnear, asked_eq_append kind option stores,
      List.length_append] at hlength
    have hfar : asked kind option (far stores) = [] := List.eq_nil_of_length_eq_zero (by omega)
    intro dataStore hmem hstarts
    rw [Bool.eq_false_iff]
    intro htarget
    have hasked := mem_asked.mpr ⟨hmem, htarget, hstarts⟩
    rw [hfar] at hasked
    cases hasked
  · rintro ⟨hatOnce, hlater, hqueue⟩
    have hfar : asked kind option (far stores) = [] := by
      refine List.filter_eq_nil_iff.mpr fun dataStore hmem => ?_
      rw [Bool.and_eq_true]
      rintro ⟨htarget, hstarts⟩
      rw [hlater dataStore hmem hstarts] at htarget
      cases htarget
    have hnear := filter_starts_eq_asked fun dataStore hmem hstarts =>
      (hatOnce dataStore hmem hstarts).1
    rw [drained_eq_nil_iff.mpr hqueue, List.append_nil, asked_eq_append, hfar, List.append_nil, hnear]
    refine List.map_congr_left fun dataStore hasked => ?_
    obtain ⟨hmem, -, hstarts⟩ := mem_asked.mp hasked
    rw [targetHostIds, if_neg (not_not_intro (hatOnce dataStore hmem hstarts).2)]

end Lost

/-! ## The three functions -/

theorem fetchesAsAsked_callers_iff (contextOf : UserIdType → DataQueryContext)
    (stores : List OnDemandStore) (itemsOption : ItemsQueryOption)
    (triggersOption : TriggersQueryOption) :
    (FetchesAsAsked .items itemsOption.base stores
        (fetchItems contextOf stores itemsOption.base.targetServerId) ↔
      AsksForAll .items itemsOption.base stores) ∧
    (FetchesAsAsked .items itemsOption.base stores (fetchItemsAsync stores itemsOption) ↔
      QueueServes itemsOption.base stores) ∧
    (FetchesAsAsked .triggers triggersOption.base stores
        (fetchTriggerAsync contextOf stores triggersOption) ↔
      AsksForAll .triggers triggersOption.base stores) :=
  ⟨start_lost_iff rfl rfl _ stores, start_items_iff _ stores, start_lost_iff rfl rfl _ stores⟩

/-- The data stores of two servers. -/
def twoServersStores : List OnDemandStore := [⟨⟨1, true⟩, true⟩, ⟨⟨2, true⟩, true⟩]

/-- A query for the triggers of the first server. -/
def firstServerTriggers : TriggersQueryOption :=
  let option := TriggersQueryOption.new HostResourceQueryOption.administrator
  { option with base := { option.base with targetServerId := 1 } }

/-- Both servers are asked for their triggers. -/
theorem not_fetchesAsAsked_two_servers :
    ¬FetchesAsAsked .triggers firstServerTriggers.base twoServersStores
      (fetchTriggerAsync (fun _ => HostResourceQueryOption.administrator) twoServersStores
        firstServerTriggers) := by
  rw [fetchesAsAsked_iff]
  decide +kernel

end OnDemandWorker

end Hatohol

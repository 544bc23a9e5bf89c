import Hatohol.Params
import Mathlib.Logic.Function.Basic

/-!
# Fetch workers

The workers for items and for triggers ask the data stores of all servers, or of one, to fetch
(server/src/ItemFetchWorker.cc, server/src/TriggerFetchWorker.cc). A fetcher that is done calls
back; the last one of a round calls the closures of those who asked for it, and posts to a
semaphore for those who wait.
-/

namespace Hatohol

/-- The two workers differ in the data stores that they pass over. -/
inductive FetchKind where
  | items
  | triggers
  deriving DecidableEq, Repr

/-- A data store, as far as the workers see it. -/
structure FetchedStore where
  serverId : ServerIdType
  isFetchItemsSupported : Bool
  deriving DecidableEq, Repr

/-- A data store that is asked to fetch, with the number of the call of `start`. -/
structure FetcherJob where
  round : Nat
  dataStore : FetchedStore
  deriving DecidableEq, Repr

/-- `running` are the fetchers that have been started and have not called back, `fetchedSignal` are
    the closures that are connected, and `called` those that have been called. -/
structure FetchWorker where
  fetcherJobQueue : List FetcherJob
  remainingFetchersCount : Nat
  updatedSemaphore : Nat
  fetchedSignal : List Nat
  rounds : Nat
  running : List FetcherJob
  called : List Nat
  deriving DecidableEq, Repr

/-- What `start` is given: the target of the query, the data stores, and whether the fetch of the
    data store at a place starts. -/
structure FetchRequest where
  targetServerId : ServerIdType
  allDataStores : List FetchedStore
  starts : Nat → Bool

namespace FetchWorker

def maxRunningFetchers : Nat := 8

def new : FetchWorker := ⟨[], 0, 0, [], 0, [], []⟩

/-- (ItemFetchWorker.cc:104-109, TriggerFetchWorker.cc:97-100) -/
def shouldWake (kind : FetchKind) (targetServerId : ServerIdType) (dataStore : FetchedStore) :
    Bool :=
  if targetServerId ≠ allServers ∧ targetServerId ≠ dataStore.serverId then false
  else
    match kind with
    | .items => dataStore.isFetchItemsSupported
    | .triggers => true

/-- The body of the loop of `start` (ItemFetchWorker.cc:101-122). -/
def startOne (kind : FetchKind) (request : FetchRequest) (w : FetchWorker) (i : Nat)
    (dataStore : FetchedStore) : FetchWorker :=
  if !shouldWake kind request.targetServerId dataStore then
    { w with remainingFetchersCount := w.remainingFetchersCount - 1 }
  else if i < maxRunningFetchers then
    -- `runFetcher` is false where the plugin has no procedure for the fetch.
    if request.starts i then { w with running := w.running ++ [⟨w.rounds, dataStore⟩] }
    else { w with remainingFetchersCount := w.remainingFetchersCount - 1 }
  else { w with fetcherJobQueue := w.fetcherJobQueue ++ [⟨w.rounds, dataStore⟩] }

def startFrom (kind : FetchKind) (request : FetchRequest) :
    Nat → List FetchedStore → FetchWorker → FetchWorker
  | _, [], w => w
  | i, dataStore :: rest, w =>
    startFrom kind request (i + 1) rest (w.startOne kind request i dataStore)

/-- (ItemFetchWorker.cc:81-128, TriggerFetchWorker.cc:74-119) -/
def start (kind : FetchKind) (w : FetchWorker) (request : FetchRequest) (closure : Option Nat) :
    Bool × FetchWorker :=
  if request.allDataStores.isEmpty then (false, w)
  else
    let w := startFrom kind request 0 request.allDataStores { w with
      fetchedSignal := w.fetchedSignal ++ closure.toList
      remainingFetchersCount := request.allDataStores.length }
    (w.remainingFetchersCount > 0, { w with rounds := w.rounds + 1 })

/-- The time may not allow another update yet (ItemFetchWorker.cc:130-140). -/
def updateIsNeeded (w : FetchWorker) (timeAllows : Bool) : Bool :=
  w.remainingFetchersCount = 0 && timeAllows

/-- The first job of the queue leaves it, whether its fetch starts or not
    (ItemFetchWorker.cc:156-160). -/
def runFront (w : FetchWorker) (starts : Bool) : FetchWorker :=
  match w.fetcherJobQueue with
  | [] => w
  | fetcherJob :: rest => { w with
      fetcherJobQueue := rest
      running := if starts then w.running ++ [fetcherJob] else w.running }

/-- (ItemFetchWorker.cc:162-175) -/
def countDown (w : FetchWorker) : FetchWorker :=
  if w.remainingFetchersCount = 0 then w
  else if w.remainingFetchersCount - 1 > 0 then
    { w with remainingFetchersCount := w.remainingFetchersCount - 1 }
  else { w with
    remainingFetchersCount := w.remainingFetchersCount - 1
    updatedSemaphore := w.updatedSemaphore + 1
    called := w.called ++ w.fetchedSignal
    fetchedSignal := [] }

/-- A fetcher that runs calls back (ItemFetchWorker.cc:151-176, TriggerFetchWorker.cc:142-167). -/
def updatedCallback (w : FetchWorker) (fetcher : FetcherJob) (starts : Bool) : FetchWorker :=
  if fetcher ∈ w.running then
    (runFront { w with running := w.running.erase fetcher } starts).countDown
  else w

/-- `sem_wait` returns (ItemFetchWorker.cc:142-146). -/
def waitCompletion (w : FetchWorker) : Option FetchWorker :=
  if w.updatedSemaphore > 0 then some { w with updatedSemaphore := w.updatedSemaphore - 1 }
  else none

/-! ## Calls of the worker -/

/-- What comes to a worker; `starts` says of a callback whether the fetch of a job in the queue
    starts. -/
inductive Call where
  | start (request : FetchRequest) (closure : Option Nat)
  | updatedCallback (fetcher : FetcherJob) (starts : Bool)

def next (kind : FetchKind) (w : FetchWorker) : Call → FetchWorker
  | .start request closure => (w.start kind request closure).2
  | .updatedCallback fetcher starts => w.updatedCallback fetcher starts

def after (kind : FetchKind) (calls : List Call) : FetchWorker :=
  calls.foldl (next kind) new

/-- The closure that a call connects to the signal. -/
def Call.connects : Call → List Nat
  | .start request closure => if request.allDataStores.isEmpty then [] else closure.toList
  | .updatedCallback .. => []

end FetchWorker

/-! ## Those who ask for items -/

/-- A call of the unified data store for items. -/
inductive FetchItemsCall where
  | fetchItems
  | fetchItemsAsync (closure : Option Nat)
  deriving DecidableEq, Repr

def FetchItemsCall.closure : FetchItemsCall → Option Nat
  | fetchItems => none
  | fetchItemsAsync closure => closure

/-- Where a call is. One that waits, and one that has waited, has the number of its round. -/
inductive FetchItemsPlace where
  | outside
  | checked (call : FetchItemsCall)
  | waiting (round : Nat)
  | returned (round : Option Nat)
  deriving DecidableEq, Repr

/-- The worker for items with the calls of all threads. -/
structure ItemFetches where
  worker : FetchWorker
  calls : Nat → FetchItemsPlace

namespace ItemFetches

def new : ItemFetches := ⟨FetchWorker.new, fun _ => .outside⟩

/-- A step of a call, or the callback of a fetcher. -/
inductive Step where
  | updateIsNeeded (id : Nat) (call : FetchItemsCall) (timeAllows : Bool)
  | start (id : Nat) (request : FetchRequest)
  | waitCompletion (id : Nat)
  | updatedCallback (fetcher : FetcherJob) (starts : Bool)

def setPlace (s : ItemFetches) (id : Nat) (place : FetchItemsPlace) : ItemFetches :=
  { s with calls := Function.update s.calls id place }

/-- (UnifiedDataStore.cc:397-398, 458-459) -/
def updateIsNeeded (s : ItemFetches) (id : Nat) (call : FetchItemsCall) (timeAllows : Bool) :
    ItemFetches :=
  match s.calls id with
  | .outside =>
    s.setPlace id (if s.worker.updateIsNeeded timeAllows then .checked call else .returned none)
  | _ => s

/-- (UnifiedDataStore.cc:400-402, 461) -/
def start (s : ItemFetches) (id : Nat) (request : FetchRequest) : ItemFetches :=
  match s.calls id with
  | .checked call =>
    let (started, worker) := s.worker.start .items request call.closure
    ItemFetches.setPlace { s with worker := worker } id
      (if call = .fetchItems ∧ started then .waiting s.worker.rounds else .returned none)
  | _ => s

/-- (UnifiedDataStore.cc:404) -/
def waitCompletion (s : ItemFetches) (id : Nat) : ItemFetches :=
  match s.calls id, s.worker.waitCompletion with
  | .waiting round, some worker =>
    ItemFetches.setPlace { s with worker := worker } id (.returned (some round))
  | _, _ => s

def next (s : ItemFetches) : Step → ItemFetches
  | .updateIsNeeded id call timeAllows => s.updateIsNeeded id call timeAllows
  | .start id request => s.start id request
  | .waitCompletion id => s.waitCompletion id
  | .updatedCallback fetcher starts =>
    { s with worker := s.worker.updatedCallback fetcher starts }

end ItemFetches

end Hatohol

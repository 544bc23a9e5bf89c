import Hatohol.Fetches.Rounds

/-!
# The round that a call waits for

All rounds post to one semaphore. A call gets the post of its own round as long as no post is left
over when the round begins, and as long as the rounds do not overlap.
-/

namespace Hatohol

open Machine

namespace FetchWorker

variable {kind : FetchKind} {w : FetchWorker} {request : FetchRequest} {closure : Option Nat}

/-- The fetchers of a worker that run or are to run. -/
def jobs (w : FetchWorker) : List FetcherJob :=
  w.running ++ w.fetcherJobQueue

theorem jobs_eq_nil : w.jobs = [] ↔ w.running = [] ∧ w.fetcherJobQueue = [] :=
  List.append_eq_nil_iff

theorem startOne_rounds (kind : FetchKind) (request : FetchRequest) (w : FetchWorker) (i : Nat)
    (dataStore : FetchedStore) : (w.startOne kind request i dataStore).rounds = w.rounds := by
  rw [startOne]
  split
  · rfl
  · split
    · split <;> rfl
    · rfl

theorem mem_jobs_startOne {i : Nat} {dataStore : FetchedStore} {job : FetcherJob}
    (hjob : job ∈ (w.startOne kind request i dataStore).jobs) :
    job ∈ w.jobs ∨ job.round = w.rounds := by
  rw [startOne] at hjob
  simp only [jobs] at hjob ⊢
  split at hjob
  · exact .inl hjob
  · split at hjob
    · split at hjob
      · simp only [List.mem_append, List.mem_singleton] at hjob ⊢
        rcases hjob with (hrunning | rfl) | hqueue
        · exact .inl (.inl hrunning)
        · exact .inr rfl
        · exact .inl (.inr hqueue)
      · exact .inl hjob
    · simp only [List.mem_append, List.mem_singleton] at hjob ⊢
      rcases hjob with hrunning | hqueue | rfl
      · exact .inl (.inl hrunning)
      · exact .inl (.inr hqueue)
      · exact .inr rfl

/-- The jobs that come with a start are of its round. -/
theorem mem_jobs_startFrom {job : FetcherJob} (stores : List FetchedStore) :
    ∀ (i : Nat) (w : FetchWorker), job ∈ (startFrom kind request i stores w).jobs →
      job ∈ w.jobs ∨ job.round = w.rounds := by
  induction stores with
  | nil => exact fun _ _ hjob => .inl hjob
  | cons dataStore rest ih =>
    intro i w hjob
    rcases ih (i + 1) (w.startOne kind request i dataStore) hjob with hone | hround
    · exact mem_jobs_startOne hone
    · exact .inr (hround.trans (startOne_rounds ..))

theorem mem_jobs_start {job : FetcherJob} (hnone : w.jobs = [])
    (hjob : job ∈ (w.start kind request closure).2.jobs) : job.round = w.rounds := by
  rw [start] at hjob
  split at hjob
  next =>
    rw [hnone] at hjob
    cases hjob
  next =>
    refine (mem_jobs_startFrom request.allDataStores 0 _ hjob).resolve_left fun h => ?_
    change job ∈ w.jobs at h
    rw [hnone] at h
    cases h

/-- A callback brings no job. -/
theorem mem_jobs_updatedCallback {fetcher job : FetcherJob} {starts : Bool}
    (hjob : job ∈ (w.updatedCallback fetcher starts).jobs) : job ∈ w.jobs := by
  rw [updatedCallback] at hjob
  split at hjob
  next =>
    obtain ⟨hrunning, hqueue, -⟩ :=
      countDown_jobs (runFront { w with running := w.running.erase fetcher } starts)
    rw [jobs, hrunning, hqueue, runFront] at hjob
    rw [jobs, List.mem_append]
    split at hjob
    next hempty =>
      exact (List.mem_append.mp hjob).imp_left List.mem_of_mem_erase
    next first rest hfirst =>
      change w.fetcherJobQueue = first :: rest at hfirst
      rw [hfirst]
      rcases List.mem_append.mp hjob with hrun | hrest
      · cases starts with
        | false => exact .inl (List.mem_of_mem_erase hrun)
        | true =>
          rcases List.mem_append.mp hrun with hold | hone
          · exact .inl (List.mem_of_mem_erase hold)
          · exact .inr (List.mem_singleton.mp hone ▸ List.mem_cons_self)
      · exact .inr (List.mem_cons_of_mem _ hrest)
  next => exact hjob

/-- What is started or queued by a start that says so is asked for by the request. -/
theorem asks_of_started (hnone : w.jobs = []) (hstarted : (w.start kind request closure).1) :
    StartsAny kind request ∨ QueuesAny kind request := by
  cases hstores : request.allDataStores.isEmpty with
  | true =>
    rw [start, if_pos hstores] at hstarted
    cases hstarted
  | false =>
    have hafter : Started kind w request closure _ := started_start w hstores
    have hpos : 0 < (w.start kind request closure).2.remainingFetchersCount := by
      rw [start, hstores] at hstarted ⊢
      simpa using hstarted
    obtain ⟨hrunning, hqueue⟩ := jobs_eq_nil.mp hnone
    by_contra hasks
    rw [not_or] at hasks
    have hremaining := hafter.remaining
    rw [hafter.running.mpr ⟨hrunning, hasks.1⟩, hafter.queue.mpr ⟨hqueue, hasks.2⟩] at hremaining
    simp only [List.length_nil] at hremaining
    omega

end FetchWorker

namespace ItemFetches

open FetchWorker

variable {s : ItemFetches}

/-- No fetcher of a round runs that a call has waited for. -/
def WaitsForRound (s : ItemFetches) : Prop :=
  ∀ id round, s.calls id = .returned (some round) → ∀ job ∈ s.worker.running, job.round ≠ round

/-- No round begins while another is not over, and none that a call will wait for while a post is
    left over. -/
def Clean (s : ItemFetches) : Step → Prop
  | .start id request => ∀ call, s.calls id = .checked call →
      request.allDataStores.isEmpty = false →
      s.worker.running = [] ∧ s.worker.fetcherJobQueue = [] ∧
        (call = .fetchItems → StartsAny .items request ∨ QueuesAny .items request →
          s.worker.updatedSemaphore = 0)
  | _ => True

/-- A call that waits finds a post only after its round, and a call that has waited finds no fetcher
    of its round. -/
def PlaceSound (w : FetchWorker) : FetchItemsPlace → Prop
  | .waiting round => round < w.rounds ∧
      (0 < w.updatedSemaphore → ∀ job ∈ w.jobs, job.round ≠ round)
  | .returned (some round) => round < w.rounds ∧ ∀ job ∈ w.jobs, job.round ≠ round
  | _ => True

structure Sound (s : ItemFetches) : Prop where
  count : s.worker.jobs.length ≤ s.worker.remainingFetchersCount
  place : ∀ id, PlaceSound s.worker (s.calls id)

theorem sound_new : new.Sound where
  count := Nat.le_refl 0
  place := fun _ => trivial

theorem calls_setPlace_self (id : Nat) (place : FetchItemsPlace) :
    (s.setPlace id place).calls id = place :=
  Function.update_self ..

theorem calls_setPlace_of_ne {id other : Nat} (hne : other ≠ id) (place : FetchItemsPlace) :
    (s.setPlace id place).calls other = s.calls other :=
  Function.update_of_ne hne ..

theorem sound_setPlace (hsound : s.Sound) {id : Nat} {place : FetchItemsPlace}
    (hplace : PlaceSound s.worker place) : (s.setPlace id place).Sound where
  count := hsound.count
  place := fun other => by
    by_cases hid : other = id
    · rw [hid, calls_setPlace_self]
      exact hplace
    · rw [calls_setPlace_of_ne hid]
      exact hsound.place other

theorem sound_updateIsNeeded (hsound : s.Sound) (id : Nat) (call : FetchItemsCall)
    (timeAllows : Bool) : (s.updateIsNeeded id call timeAllows).Sound := by
  rw [updateIsNeeded]
  split
  next =>
    refine sound_setPlace hsound ?_
    split <;> trivial
  next => exact hsound

/-- A place keeps what is known of it when its round gets no job and a post comes after all jobs. -/
theorem placeSound_mono {w w' : FetchWorker} (hrounds : w.rounds ≤ w'.rounds)
    (hjobs : ∀ job ∈ w'.jobs, job ∈ w.jobs ∨ w.rounds ≤ job.round)
    (hpost : w'.updatedSemaphore ≤ w.updatedSemaphore ∨ w'.jobs = []) {place : FetchItemsPlace}
    (hplace : PlaceSound w place) : PlaceSound w' place := by
  have hother : ∀ round, round < w.rounds → (∀ job ∈ w.jobs, job.round ≠ round) →
      ∀ job ∈ w'.jobs, job.round ≠ round := by
    intro round hlt hnone job hjob
    rcases hjobs job hjob with hold | hlater
    · exact hnone job hold
    · omega
  cases place with
  | outside => trivial
  | checked call => trivial
  | waiting round =>
    obtain ⟨hlt, hnone⟩ := hplace
    refine ⟨Nat.lt_of_lt_of_le hlt hrounds, fun hpos => ?_⟩
    rcases hpost with hle | hempty
    · exact hother round hlt (hnone (Nat.lt_of_lt_of_le hpos hle))
    · rw [hempty]
      exact fun job hjob => nomatch hjob
  | returned round =>
    cases round with
    | none => trivial
    | some round =>
      obtain ⟨hlt, hnone⟩ := hplace
      exact ⟨Nat.lt_of_lt_of_le hlt hrounds, hother round hlt hnone⟩

theorem sound_start (hsound : s.Sound) {id : Nat} {request : FetchRequest}
    (hclean : s.Clean (.start id request)) : (s.start id request).Sound := by
  rw [start]
  split
  next call hcall =>
    cases hstores : request.allDataStores.isEmpty with
    | true =>
      rw [FetchWorker.start, if_pos hstores]
      refine sound_setPlace hsound ?_
      rw [if_neg fun h => Bool.false_ne_true h.2]
      trivial
    | false =>
      obtain ⟨hrunning, hqueue, hpost⟩ := hclean call hcall hstores
      have hnone : s.worker.jobs = [] := jobs_eq_nil.mpr ⟨hrunning, hqueue⟩
      have hstarted : Started .items s.worker request call.closure _ :=
        started_start s.worker hstores
      have hjobs : ∀ job ∈ (s.worker.start .items request call.closure).2.jobs,
          job.round = s.worker.rounds := fun job hjob => mem_jobs_start hnone hjob
      have hasks : (s.worker.start .items request call.closure).1 →
          StartsAny .items request ∨ QueuesAny .items request := asks_of_started hnone
      generalize s.worker.start .items request call.closure = after at hstarted hjobs hasks
      obtain ⟨started, worker⟩ := after
      have hafter : Sound { s with worker := worker } :=
        { count := by
            have hremaining := hstarted.remaining
            rw [hrunning, hqueue] at hremaining
            rw [jobs, List.length_append]
            exact Nat.le_of_eq hremaining.symm
          place := fun other => placeSound_mono (Nat.le_of_lt (by rw [hstarted.rounds]; omega))
            (fun job hjob => .inr (Nat.le_of_eq (hjobs job hjob).symm))
            (.inl (Nat.le_of_eq hstarted.semaphore)) (hsound.place other) }
      refine sound_setPlace hafter ?_
      split
      next hwaits =>
        obtain ⟨hsync, hasked⟩ := hwaits
        refine ⟨by rw [hstarted.rounds]; exact Nat.lt_succ_self _, fun hpos => ?_⟩
        rw [hstarted.semaphore, hpost hsync (hasks hasked)] at hpos
        cases hpos
      next => trivial
  next => exact hsound

theorem sound_waitCompletion (hsound : s.Sound) (id : Nat) : (s.waitCompletion id).Sound := by
  rw [waitCompletion]
  split
  next round worker hplace hwait =>
    rw [FetchWorker.waitCompletion] at hwait
    split at hwait
    next hpos =>
      obtain rfl := Option.some.inj hwait
      have hwaiting := hsound.place id
      rw [hplace] at hwaiting
      have htaken : Sound { s with
          worker := { s.worker with updatedSemaphore := s.worker.updatedSemaphore - 1 } } :=
        { count := hsound.count
          place := fun other => by
            refine placeSound_mono ?_ ?_ ?_ (hsound.place other)
            · exact Nat.le_refl _
            · exact fun job hjob => .inl hjob
            · exact .inl (Nat.sub_le ..) }
      exact sound_setPlace htaken ⟨hwaiting.1, hwaiting.2 hpos⟩
    next => cases hwait
  next => exact hsound

theorem sound_updatedCallback (hsound : s.Sound) (fetcher : FetcherJob) (starts : Bool) :
    Sound { s with worker := s.worker.updatedCallback fetcher starts } := by
  by_cases hfetcher : fetcher ∈ s.worker.running
  · have hback := calledBack_updatedCallback hfetcher starts
    have hjobs : ∀ job ∈ (s.worker.updatedCallback fetcher starts).jobs, job ∈ s.worker.jobs :=
      fun job hjob => mem_jobs_updatedCallback hjob
    generalize s.worker.updatedCallback fetcher starts = worker at hback hjobs
    have hcount : worker.jobs.length ≤ s.worker.remainingFetchersCount - 1 := by
      have hbefore := hsound.count
      have hpos := List.length_pos_of_mem hfetcher
      have hrunning := hback.running
      rw [jobs, List.length_append] at hbefore ⊢
      rw [hback.queue, List.length_tail]
      by_cases hfront : starts ∧ s.worker.fetcherJobQueue ≠ []
      · have hqueue := List.length_pos_iff.mpr hfront.2
        rw [if_pos hfront] at hrunning
        omega
      · rw [if_neg hfront] at hrunning
        omega
    -- The worker posts when the count was one, and then no job is left.
    have hpost : worker.updatedSemaphore ≤ s.worker.updatedSemaphore ∨ worker.jobs = [] := by
      by_cases hone : s.worker.remainingFetchersCount = 1
      · rw [hone] at hcount
        exact .inr (List.length_eq_zero_iff.mp (Nat.le_zero.mp hcount))
      · exact .inl (Nat.le_of_eq (hback.more hone).2)
    exact
      { count := by
          change worker.jobs.length ≤ worker.remainingFetchersCount
          rw [hback.remaining]
          exact hcount
        place := fun other => placeSound_mono (Nat.le_of_eq hback.rounds.symm)
          (fun job hjob => .inl (hjobs job hjob)) hpost (hsound.place other) }
  · rw [FetchWorker.updatedCallback, if_neg hfetcher]
    exact hsound

theorem sound_next (hsound : s.Sound) {step : Step} (hclean : s.Clean step) :
    (s.next step).Sound := by
  cases step with
  | updateIsNeeded id call timeAllows => exact sound_updateIsNeeded hsound id call timeAllows
  | start id request => exact sound_start hsound hclean
  | waitCompletion id => exact sound_waitCompletion hsound id
  | updatedCallback fetcher starts => exact sound_updatedCallback hsound fetcher starts

theorem Sound.waitsForRound (hsound : s.Sound) : s.WaitsForRound := by
  intro id round hplace job hjob
  have hreturned := hsound.place id
  rw [hplace] at hreturned
  exact hreturned.2 job (List.mem_append_left _ hjob)

/-- Whatever the order of the steps, a call that has waited has waited for its own round, if rounds
    do not overlap and no post is left over for it. -/
theorem waitsForRound_of_clean (steps : List Step) (hclean : Heeds next Clean new steps) :
    (steps.foldl next new).WaitsForRound :=
  (foldl_invariant_of_heeds Sound (fun _ _ hsound hclean => sound_next hsound hclean) steps _
    sound_new hclean).waitsForRound

/-- One data store, whose fetch starts. -/
def oneStore : FetchRequest := ⟨allServers, [⟨1, true⟩], fun _ => true⟩

/-- A call fetches and waits. -/
def fetchOnce (id round : Nat) : List Step :=
  [.updateIsNeeded id .fetchItems true, .start id oneStore,
    .updatedCallback ⟨round, ⟨1, true⟩⟩ true, .waitCompletion id]

theorem waitsForRound_fetchOnce : (fetchOnce 0 0).foldl next new |>.WaitsForRound := by
  refine waitsForRound_of_clean (fetchOnce 0 0) ⟨trivial, ?_, trivial, trivial, trivial⟩
  exact fun _ _ _ => ⟨rfl, rfl, fun _ _ => rfl⟩

/-- The post of an asynchronous fetch is left over for the next call that waits. -/
theorem not_waitsForRound_leftoverPost :
    ¬ ∀ steps : List Step, (steps.foldl next new).WaitsForRound := by
  intro hall
  have hwaits := hall
    [.updateIsNeeded 0 (.fetchItemsAsync (some 0)) true, .start 0 oneStore,
      .updatedCallback ⟨0, ⟨1, true⟩⟩ true,
      .updateIsNeeded 1 .fetchItems true, .start 1 oneStore, .waitCompletion 1]
  exact hwaits 1 1 (by decide) ⟨1, ⟨1, true⟩⟩ (by decide) rfl

end ItemFetches

end Hatohol

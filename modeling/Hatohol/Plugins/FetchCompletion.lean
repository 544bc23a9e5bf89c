import Hatohol.Calls.Closures
import Hatohol.Hap2ZabbixAPI

/-!
# Which fetches are completed

The closure of a fetch is run by the last put with its fetch ID. The Zabbix plugin does not put
anything for a fetch of triggers or events that finds none, and it announces more events with every
put that it makes.
-/

namespace Hatohol.ZabbixAPI

open Haplib Machine

variable {α κ : Type}

/-- The requests that the plugin sends for a fetch that it has accepted, if all succeed. `answer` is
    what the Zabbix server gives. -/
def fetchRequests (lastChangeTime eventId : α → List Char) (requestId : String)
    (last_info : List Char) (method : FetchMethod) (answer : List α) (fetch_id : String) :
    List (PutRequest α) :=
  match method with
  | .fetchItems => (collect_and_put_items recording requestId answer fetch_id []).2
  | .fetchHistory => (collect_and_put_history recording requestId answer fetch_id []).2
  | .fetchTriggers =>
      (update_triggers recording requestId lastChangeTime (some last_info) (fun _ => some answer)
        (some fetch_id) none []).2.2
  | .fetchEvents =>
      (update_events_fetch recording requestId eventId (fun _ _ => answer) 0 answer.length .ASC
        fetch_id none []).2.2

/-- The server runs the closure of a call once, with the last of the requests. -/
def Completes (gate : FetchGate α κ) (callback : FetchProcedureCallback) (closure : κ)
    (requests : List (PutRequest α)) : Prop :=
  ∃ answered gate', run FetchGate.handlePut gate requests = .returned (answered, gate') ∧
    (∃ earlier samples,
      answered.map Prod.snd = List.replicate earlier [] ++ [[.invoked closure samples]]) ∧
    gate'.waiting callback.place = none

/-! ## The gate over the handlers -/

/-- Answers without effects leave the closures as they are. -/
theorem run_handlePut (gate : FetchGate α κ) {put' : GateImpl α} {last : PutAnswer α}
    (requests : List (PutRequest α)) : ∀ {answered : List (PutRequest α × PutAnswer α)}
      {put : GateImpl α} {first : List (Part α)},
      run procedureHandler put requests = .returned (answered, put') →
      answered.map Prod.snd = first.map (fun _ => ⟨.success, []⟩) ++ [last] →
      ∃ answered', run FetchGate.handlePut { gate with put } requests =
        .returned (answered', (FetchGate.performAll FetchGate.perform { gate with put := put' }
          last.effects).2) ∧
        answered'.map Prod.snd = first.map (fun _ => []) ++
          [(FetchGate.performAll FetchGate.perform { gate with put := put' } last.effects).1] := by
  induction requests with
  | nil =>
    rintro answered put first ⟨⟩ hanswers
    exact absurd hanswers.symm (List.append_ne_nil_of_right_ne_nil _ (List.cons_ne_nil _ _))
  | cons request requests ih =>
    intro answered put first hrun hanswers
    obtain ⟨answer, put₁, rest, hanswer, hrest, rfl⟩ := run_cons_eq_returned.mp hrun
    have hstep : FetchGate.handlePut { gate with put } request = .returned
        (FetchGate.performAll FetchGate.perform { gate with put := put₁ } answer.effects) := by
      rw [FetchGate.handlePut, hanswer]
      rfl
    cases first with
    | nil =>
      obtain ⟨rfl, hnil⟩ := List.cons.inj hanswers
      obtain rfl := List.map_eq_nil_iff.mp hnil
      obtain rfl : [] = requests := map_fst_of_run hrest
      obtain rfl := congrArg Prod.snd (Outcome.returned.inj hrest)
      exact ⟨[_], run_cons_eq_returned.mpr ⟨_, _, [], hstep, rfl, rfl⟩, rfl⟩
    | cons part first =>
      obtain ⟨rfl, hothers⟩ := List.cons.inj hanswers
      obtain ⟨answered', hrun', hanswers'⟩ := ih hrest hothers
      refine ⟨_ :: answered', run_cons_eq_returned.mpr ⟨_, _, answered', hstep, hrun', rfl⟩, ?_⟩
      rw [List.map_cons, hanswers', List.map_cons, List.cons_append]

/-- The last request of a transfer does to the closures what its procedure does. -/
theorem run_handlePut_transfer {procedure : PutProcedure} {params : PutParams α}
    {gate : FetchGate α κ} {contents : List α} {requests : List (PutRequest α)}
    (hanswers : Answers procedure params gate.put contents requests) :
    ∃ answered put, ∃ first : List (Part α),
      run FetchGate.handlePut gate requests = .returned (answered,
        (FetchGate.performAll FetchGate.perform { gate with put }
          (procedure.handler.finish params contents).effects).2) ∧
      answered.map Prod.snd = first.map (fun _ => []) ++
        [(FetchGate.performAll FetchGate.perform { gate with put }
          (procedure.handler.finish params contents).effects).1] := by
  obtain ⟨answered, put, hrun, ⟨first, hmap⟩, -⟩ := hanswers
  obtain ⟨answered', hrun', hmap'⟩ := run_handlePut gate requests hrun hmap
  exact ⟨answered', put, first, hrun', hmap'⟩

section

variable {gate : FetchGate α κ} {fetchId : String} {closure : κ}

theorem runFetchCallback_waiting (hid : fetchId ≠ "")
    (hwaiting : gate.fetchClosureMap fetchId = some (some closure)) :
    (gate.runFetchCallback fetchId).1 = [.invoked closure none] ∧
      (gate.runFetchCallback fetchId).2.fetchClosureMap fetchId = none := by
  rw [FetchGate.runFetchCallback, if_neg hid, hwaiting]
  exact ⟨rfl, Function.update_self ..⟩

theorem runFetchHistoryCallback_waiting (hid : fetchId ≠ "")
    (hwaiting : gate.fetchHistoryClosureMap fetchId = some closure) (samples : List α) :
    (gate.runFetchHistoryCallback fetchId samples).1 = [.invoked closure (some samples)] ∧
      (gate.runFetchHistoryCallback fetchId samples).2.fetchHistoryClosureMap fetchId = none := by
  rw [FetchGate.runFetchHistoryCallback, if_neg hid, hwaiting]
  exact ⟨rfl, Function.update_self ..⟩

/-- Nothing is invoked if nothing is sent. -/
theorem not_completes_nil (callback : FetchProcedureCallback) :
    ¬ Completes gate callback closure [] := by
  rintro ⟨answered, gate', hrun, ⟨earlier, samples, hanswers⟩, -⟩
  obtain rfl := congrArg Prod.fst (Outcome.returned.inj hrun)
  exact absurd hanswers.symm (List.append_ne_nil_of_right_ne_nil _ (List.cons_ne_nil _ _))

variable {procedure : PutProcedure} {params : PutParams α} {answer : List α}
  {requests : List (PutRequest α)} {callback : FetchProcedureCallback}

theorem completes_of_answers (hanswers : Answers procedure params gate.put answer requests)
    (samples : Option (List α)) (hdone : ∀ put : GateImpl α,
      let done := FetchGate.performAll FetchGate.perform { gate with put }
        (procedure.handler.finish params answer).effects
      done.1 = [.invoked closure samples] ∧ done.2.waiting callback.place = none) :
    Completes gate callback closure requests := by
  obtain ⟨answered, put, first, hrun, hmap⟩ := run_handlePut_transfer hanswers
  obtain ⟨hinvoked, hwaiting⟩ := hdone put
  refine ⟨answered, _, hrun, ⟨first.length, samples, ?_⟩, hwaiting⟩
  rw [hmap, hinvoked, List.map_const']

/-- Where the last request does nothing to the closures, none does. -/
theorem not_completes_of_answers (hanswers : Answers procedure params gate.put answer requests)
    (hnone : ∀ put : GateImpl α, (FetchGate.performAll FetchGate.perform { gate with put }
      (procedure.handler.finish params answer).effects).1 = []) :
    ¬ Completes gate callback closure requests := by
  obtain ⟨answered, put, first, hrun, hmap⟩ := run_handlePut_transfer hanswers
  rintro ⟨answered', gate', hrun', ⟨earlier, samples, hmap'⟩, -⟩
  obtain rfl := congrArg Prod.fst (Outcome.returned.inj (hrun.symm.trans hrun'))
  rw [hmap, hnone put] at hmap'
  have hlast := congrArg List.getLast? hmap'
  rw [List.getLast?_concat, List.getLast?_concat] at hlast
  cases hlast

end

/-! ## The procedures -/

section

variable (gate : FetchGate α κ) {fetchId : String} {closure : κ} (params : PutParams α)

/-- Putting items or triggers runs the closure of their fetch ID. -/
theorem perform_fetchCallback (hid : fetchId ≠ "") (hfetch : params.fetchId = some fetchId)
    (hwaiting : gate.fetchClosureMap fetchId = some (some closure))
    (operation : StoreOperation) (elements : List α) (lastInfo : Option String) :
    let done := FetchGate.performAll FetchGate.perform gate
      (.dataStore operation elements lastInfo :: fetchCallback params)
    done.1 = [.invoked closure none] ∧ done.2.fetchClosureMap fetchId = none := by
  obtain ⟨hinvoked, hnone⟩ := runFetchCallback_waiting hid hwaiting
  have heffects : fetchCallback params = [.runFetchCallback fetchId] := by
    rw [fetchCallback, hfetch]
    exact if_neg hid
  rw [heffects]
  exact ⟨congrArg (· ++ []) hinvoked, hnone⟩

theorem perform_fetchHistoryCallback (hid : fetchId ≠ "") (hfetch : params.fetchId = some fetchId)
    (hwaiting : gate.fetchHistoryClosureMap fetchId = some closure) (samples : List α) :
    let done := FetchGate.performAll FetchGate.perform gate (fetchHistoryCallback params samples)
    done.1 = [.invoked closure (some samples)] ∧
      done.2.fetchHistoryClosureMap fetchId = none := by
  obtain ⟨hinvoked, hnone⟩ := runFetchHistoryCallback_waiting hid hwaiting samples
  have heffects : fetchHistoryCallback params samples =
      [.runFetchHistoryCallback fetchId samples] := by
    rw [fetchHistoryCallback, hfetch]
    exact if_neg hid
  rw [heffects]
  exact ⟨congrArg (· ++ []) hinvoked, hnone⟩

end

/-- A fetch that is accepted is completed if it is one of items or samples, or one of triggers that
    finds some. -/
theorem fetch_completes_iff (lastChangeTime eventId : α → List Char) {requestId : String}
    (last_info : List Char) (method : FetchMethod) (answer : List α) {fetchId : String}
    {gate : FetchGate α κ} {closure : κ} (hid : fetchId ≠ "")
    (hwaiting : gate.waiting (⟨fetchId, method⟩ : FetchProcedureCallback).place =
      some (some closure))
    (hfresh : ∀ procedure, gate.put.parts procedure requestId = []) :
    Completes gate ⟨fetchId, method⟩ closure
        (fetchRequests lastChangeTime eventId requestId last_info method answer fetchId) ↔
      method = .fetchItems ∨ method = .fetchHistory ∨ method = .fetchTriggers ∧ answer ≠ [] := by
  cases method with
  | fetchItems =>
    refine iff_of_true ?_ (.inl rfl)
    refine completes_of_answers (answers_recording (putFetchedParams fetchId) rfl (hfresh _) answer)
      none fun put => ?_
    exact perform_fetchCallback { gate with put } (putFetchedParams fetchId) hid rfl hwaiting _ _ _
  | fetchHistory =>
    refine iff_of_true ?_ (.inr (.inl rfl))
    refine completes_of_answers (answers_recording (putFetchedParams fetchId) rfl (hfresh _) answer)
      (some answer) fun put => ?_
    have hclosure : gate.fetchHistoryClosureMap fetchId = some closure :=
      Option.map_injective (Option.some_injective κ) hwaiting
    obtain ⟨hinvoked, hnone⟩ := perform_fetchHistoryCallback { gate with put }
      (putFetchedParams fetchId) hid rfl hclosure answer
    exact ⟨hinvoked, congrArg (Option.map some) hnone⟩
  | fetchTriggers =>
    rcases eq_or_ne answer [] with rfl | hne
    · exact iff_of_false (not_completes_nil _) (by simp)
    · refine iff_of_true ?_ (.inr (.inr ⟨rfl, hne⟩))
      rw [fetchRequests, update_triggers_fetch requestId lastChangeTime last_info hne]
      refine completes_of_answers (answers_recording (putTriggersParams "ALL" _ (some fetchId)) rfl
        (hfresh _) answer) none fun put => ?_
      exact perform_fetchCallback { gate with put }
        (putTriggersParams "ALL" (Hapcommon.get_biggest_num_of_dict_array
          (answer.map lastChangeTime)) (some fetchId)) hid rfl hwaiting _ _ _
  | fetchEvents =>
    refine iff_of_false ?_ (by simp)
    rcases eq_or_ne answer [] with rfl | hne
    · exact not_completes_nil _
    · have hlength : ¬ answer.length = 0 := mt List.length_eq_zero_iff.mp hne
      have hput := putCalls_put_events eventId fetchId (wholeCalls requestId answer) none []
      have hrequests : fetchRequests lastChangeTime eventId requestId last_info .fetchEvents
          answer fetchId = (wholeCalls requestId answer).map
            (Call.request .putEvents (putEventsParams [] (some fetchId))) := by
        change (update_events_fetch recording requestId eventId (fun _ _ => answer) 0 answer.length
          .ASC fetchId none []).2.2 = _
        rw [update_events_fetch, if_neg hlength, divideAndPutData_eq _ _ _ hne
          (by rw [hput]; exact PutResult.noConfusion), hput, List.nil_append]
      rw [hrequests]
      exact not_completes_of_answers (answers_wholeCalls hne rfl (hfresh _)) fun put => rfl

/-- A gate in which a closure waits for the fetch ID 1. -/
def waitingGate : FetchGate Nat Nat := FetchGate.empty.queueFetchCallback "1" (some 7)

theorem fetch_completes_iff_triggers :
    waitingGate.waiting (⟨"1", .fetchTriggers⟩ : FetchProcedureCallback).place = some (some 7) ∧
    (Completes waitingGate ⟨"1", .fetchTriggers⟩ 7 (fetchRequests (Nat.toDigits 10)
        (Nat.toDigits 10) "uuid" [] .fetchTriggers [5, 6] "1") ↔
      FetchMethod.fetchTriggers = .fetchItems ∨ FetchMethod.fetchTriggers = .fetchHistory ∨
        FetchMethod.fetchTriggers = .fetchTriggers ∧ [5, 6] ≠ []) :=
  ⟨rfl, fetch_completes_iff (Nat.toDigits 10) (Nat.toDigits 10) [] .fetchTriggers [5, 6]
    (by decide) rfl fun _ => rfl⟩

/-- No trigger is found, or an event is found, and the closure waits on. -/
theorem fetch_left_waiting :
    ¬ Completes waitingGate ⟨"1", .fetchTriggers⟩ 7 (fetchRequests (Nat.toDigits 10)
      (Nat.toDigits 10) "uuid" [] .fetchTriggers [] "1") ∧
    ∃ answered gate', run FetchGate.handlePut waitingGate (fetchRequests (Nat.toDigits 10)
        (Nat.toDigits 10) "uuid" [] .fetchEvents [5] "1") = .returned (answered, gate') ∧
      answered.map Prod.snd = [[]] ∧
      gate'.waiting (⟨"1", .fetchEvents⟩ : FetchProcedureCallback).place = some (some 7) := by
  refine ⟨not_completes_nil _, ?_⟩
  have hrequests : fetchRequests (Nat.toDigits 10) (Nat.toDigits 10) "uuid" [] .fetchEvents [5] "1" =
      [Call.request .putEvents (putEventsParams [] (some "1")) ⟨[5], none⟩] := by
    have hcalls := wholeCalls_of_le "uuid" (List.cons_ne_nil 5 []) (by decide)
    have hput := putCalls_put_events (Nat.toDigits 10) "1" (wholeCalls "uuid" [5]) none []
    change (divideAndPutData (put_events recording (Nat.toDigits 10) (some "1")) "uuid" [5] true
      (none, [])).2.2 = _
    rw [divideAndPutData_eq _ _ _ (List.cons_ne_nil 5 [])
      (by rw [hput]; exact PutResult.noConfusion), hput, hcalls]
    rfl
  rw [hrequests]
  exact ⟨_, _, rfl, rfl, rfl⟩

end Hatohol.ZabbixAPI

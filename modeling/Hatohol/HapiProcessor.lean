import Hatohol.Hapcommon
import Hatohol.Plugins.Division

/-!
# The put procedures of a plugin

`HapiProcessor` puts triggers, events, items and samples with one request for each chunk, and waits
for the response (haplib.py:499-558).
-/

namespace Hatohol.Haplib

variable {σ α : Type}

/-- What becomes of a request and of the response to it. -/
abbrev Sender (σ α : Type) := PutRequest α → σ → PutResult × σ

/-- The parameters that all requests have. -/
def putParams : PutParams α where
  hasParams := true
  elements := []
  elementErrors := []
  updateType := none
  fetchId := none
  mayMoreFlag := none
  lastInfo := none
  divideInfo := none

def putTriggersParams (update_type : String) (last_info : Option (List Char))
    (fetch_id : Option String) : PutParams α :=
  { putParams with
    updateType := some update_type, lastInfo := last_info.map String.ofList, fetchId := fetch_id }

/-- The last info is only sent where there is no fetch ID, which comes with `mayMoreFlag`. -/
def putEventsParams (last_info : List Char) (fetch_id : Option String) : PutParams α :=
  match fetch_id with
  | some fetch_id => { putParams with fetchId := some fetch_id, mayMoreFlag := some true }
  | none => { putParams with lastInfo := some (String.ofList last_info) }

def putFetchedParams (fetch_id : String) : PutParams α :=
  { putParams with fetchId := some fetch_id }

variable (request : Sender σ α)

def put_triggers (update_type : String) (last_info : Option (List Char))
    (fetch_id : Option String) : PutFunc σ α :=
  fun triggers divideInfo => request
    (Call.request .putTriggers (putTriggersParams update_type last_info fetch_id)
      ⟨triggers, divideInfo⟩)

/-- The cached last info of events stands beside the state of the sender. `str` makes a text of a last
    info that there is not, too. -/
def put_events (eventId : α → List Char) (fetch_id : Option String) :
    PutFunc (Option (List Char) × σ) α :=
  fun events divideInfo (event_last_info, s) =>
    let last_info :=
      (Hapcommon.get_biggest_num_of_dict_array (events.map eventId)).getD "None".toList
    match request (Call.request .putEvents (putEventsParams last_info fetch_id)
        ⟨events, divideInfo⟩) s with
    | (.returned, s) =>
        (.returned, if fetch_id.isNone then some last_info else event_last_info, s)
    | (result, s) => (result, event_last_info, s)

def put_items (fetch_id : String) : PutFunc σ α :=
  fun items divideInfo => request
    (Call.request .putItems (putFetchedParams fetch_id) ⟨items, divideInfo⟩)

def put_history (fetch_id : String) : PutFunc σ α :=
  fun samples divideInfo => request
    (Call.request .putHistory (putFetchedParams fetch_id) ⟨samples, divideInfo⟩)

/-! ## Requests that all succeed -/

/-- The requests that are sent. -/
def recording : Sender (List (PutRequest α)) α := fun request requests =>
  (.returned, requests ++ [request])

theorem putCalls_recording (procedure : PutProcedure) (params : PutParams α) :
    ∀ (calls : List (Call α)) (requests : List (PutRequest α)),
      putCalls (fun chunk divideInfo =>
        recording (Call.request procedure params ⟨chunk, divideInfo⟩)) calls requests =
        (.returned, requests ++ calls.map (Call.request procedure params)) := by
  intro calls
  induction calls with
  | nil =>
    intro requests
    rw [List.map_nil, List.append_nil]
    rfl
  | cons call calls ih =>
    intro requests
    rw [putCalls, recording]
    dsimp only
    rw [ih, List.map_cons, List.append_assoc]
    rfl

/-- A transfer that is not refused sends the requests of its calls. -/
theorem divideAndPutData_recording (procedure : PutProcedure) (params : PutParams α)
    (requestId : String) {contents : List α} (hne : contents ≠ []) (putEmptyContents : Bool) :
    (divideAndPutData (fun chunk divideInfo =>
        recording (Call.request procedure params ⟨chunk, divideInfo⟩)) requestId contents
      putEmptyContents []).2 =
      (wholeCalls requestId contents).map (Call.request procedure params) := by
  have hput := putCalls_recording procedure params (wholeCalls requestId contents) []
  rw [divideAndPutData_eq _ _ _ hne (by rw [hput]; exact PutResult.noConfusion), hput,
    List.nil_append]

/-- The server deals with the whole list of a transfer, also with an empty one. -/
theorem answers_recording {procedure : PutProcedure} (params : PutParams α) {impl : GateImpl α}
    {requestId : String} (hparse : procedure.handler.parseErrors params = [])
    (hfresh : impl.parts procedure requestId = []) (contents : List α) :
    Answers procedure params impl contents
      (divideAndPutData (fun chunk divideInfo =>
        recording (Call.request procedure params ⟨chunk, divideInfo⟩)) requestId contents true
        []).2 := by
  rcases eq_or_ne contents [] with rfl | hne
  · exact answers_whole hparse
  · rw [divideAndPutData_recording procedure params requestId hne]
    exact answers_wholeCalls hne hparse hfresh

theorem putCalls_put_events (eventId : α → List Char) (fetch_id : String) :
    ∀ (calls : List (Call α)) (event_last_info : Option (List Char))
      (requests : List (PutRequest α)),
      putCalls (put_events recording eventId (some fetch_id)) calls (event_last_info, requests) =
        (.returned, event_last_info, requests ++
          calls.map (Call.request .putEvents (putEventsParams [] (some fetch_id)))) := by
  intro calls
  induction calls with
  | nil =>
    intro event_last_info requests
    rw [List.map_nil, List.append_nil]
    rfl
  | cons call calls ih =>
    intro event_last_info requests
    rw [putCalls, put_events, recording]
    dsimp only
    rw [Option.isNone_some, if_neg Bool.false_ne_true, ih, List.map_cons, List.append_assoc]
    rfl

end Hatohol.Haplib

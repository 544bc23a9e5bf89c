import Hatohol.HapiProcessor

/-!
# What the Zabbix plugin puts

`ZabbixAPIConductor` asks the Zabbix server and puts what it answers (hap2_zabbix_api.py:66-151). The
answers of `ZabbixAPI` are parameters; one that raises is no answer.
-/

namespace Hatohol.ZabbixAPI

open Haplib

variable {σ α : Type} (request : Sender σ α) (requestId : String)

def MAX_NUMBER_OF_EVENTS_FROM_ZABBIX : Nat := 1000

def collect_and_put_items (items : List α) (fetch_id : String) (s : σ) : PutResult × σ :=
  divideAndPutData (put_items request fetch_id) requestId items true s

def collect_and_put_history (history : List α) (fetch_id : String) (s : σ) : PutResult × σ :=
  divideAndPutData (put_history request fetch_id) requestId history true s

/-- The last info of triggers stands beside the state of the sender. `get_last_info` asks the server,
    and `get_triggers` takes `requestSince`. -/
def update_triggers (lastChangeTime : α → List Char) (get_last_info : Option (List Char))
    (get_triggers : Option (List Char) → Option (List α)) (fetch_id : Option String)
    (trigger_last_info : Option (List Char)) (s : σ) :
    PutResult × Option (List Char) × σ :=
  match trigger_last_info.or get_last_info with
  | none => (.raised, trigger_last_info, s)
  | some last_info =>
      let update_type := if fetch_id.isSome then "ALL" else "UPDATED"
      match get_triggers (if fetch_id.isSome then none else some last_info) with
      | none => (.raised, some last_info, s)
      | some triggers =>
          if triggers.length = 0 then (.returned, some last_info, s)
          else
            let last_info :=
              Hapcommon.get_biggest_num_of_dict_array (triggers.map lastChangeTime)
            let (result, s) := divideAndPutData (put_triggers request update_type last_info fetch_id)
              requestId triggers fetch_id.isSome s
            (result, last_info, s)

/-- A fetch that finds triggers puts all of them. -/
theorem update_triggers_fetch (lastChangeTime : α → List Char) (last_info : List Char)
    {triggers : List α} (hne : triggers ≠ []) (fetch_id : String) :
    (update_triggers recording requestId lastChangeTime (some last_info) (fun _ => some triggers)
      (some fetch_id) none []).2.2 =
      (divideAndPutData (put_triggers recording "ALL"
        (Hapcommon.get_biggest_num_of_dict_array (triggers.map lastChangeTime)) (some fetch_id))
        requestId triggers true []).2 := by
  have hlength : ¬ triggers.length = 0 := mt List.length_eq_zero_iff.mp hne
  change (if triggers.length = 0 then _ else _ : PutResult × Option (List Char) × _).2.2 = _
  rw [if_neg hlength]
  rfl

inductive Direction where
  | ASC
  | DESC
  deriving DecidableEq, Repr

/-- `get_events` takes the first and the last ID. -/
def update_events_fetch (eventId : α → List Char) (get_events : Int → Int → List α)
    (last_info count : Int) (direction : Direction) (fetch_id : String)
    (event_last_info : Option (List Char)) (s : σ) : PutResult × Option (List Char) × σ :=
  let events := match direction with
    | .ASC => get_events (last_info + 1) (last_info + count)
    | .DESC => get_events (last_info - count + 1) last_info
  if events.length = 0 then (.returned, event_last_info, s)
  else
    divideAndPutData (put_events request eventId (some fetch_id)) requestId events true
      (event_last_info, s)

end Hatohol.ZabbixAPI

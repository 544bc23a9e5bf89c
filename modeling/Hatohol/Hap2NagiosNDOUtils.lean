import Hatohol.Hapcommon
import Hatohol.Haplib

/-!
# How the Nagios plugin resumes its triggers

`Common.collect_triggers_and_put` as `poll_triggers` calls it (hap2_nagios_ndoutils.py:173-245). The
times of the database are those of the clock on the wall. The last info is the one in the plugin, or
the one that the server has kept.
-/

namespace Hatohol.NagiosNDOUtils

open Time Hapcommon Haplib

/-! ## The rows and what is made of them -/

structure ServiceRow where
  service_object_id : Int
  current_state : Int
  status_update_time : DateTime
  output : String
  host_object_id : Int
  display_name : String
  real : status_update_time.Valid

structure Trigger where
  triggerId : String
  status : String
  severity : String
  lastChangeTime : List Char
  hostId : String
  hostName : String
  brief : String
  deriving DecidableEq, Repr

def STATUS_MAP : Int → Option String
  | 0 => some "OK"
  | 1 => some "NG"
  | 2 => some "NG"
  | _ => none

def SEVERITY_MAP : Int → Option String
  | 0 => some "INFO"
  | 1 => some "WARNING"
  | 2 => some "CRITICAL"
  | _ => none

def parse_status_and_severity (status : Int) : String × String :=
  ((STATUS_MAP status).getD "UNKNOWN", (SEVERITY_MAP status).getD "UNKNOWN")

def triggerOf (time_offset : Int) (row : ServiceRow) : Option Trigger := do
  let (hapi_status, hapi_severity) := parse_status_and_severity row.current_state
  let hapi_time ← conv_to_hapi_time row.status_update_time time_offset
  some
    { triggerId := toString row.service_object_id
      status := hapi_status
      severity := hapi_severity
      lastChangeTime := hapi_time
      hostId := toString row.host_object_id
      hostName := row.display_name
      brief := row.output }

/-- The result is written with `%Y-%m-%d %H:%M:%S`, which the database reads as this time. -/
def convert_to_nagios_time (hatohol_time : List Char) : Option CivilTime := do
  let over_second := (hatohol_time.splitOn '.').headD []
  let nag_datetime ← Hapcommon.strptime over_second
  let _ ← strftime nag_datetime
  some nag_datetime

/-- `WHERE status_update_time >= '%s'` -/
def ServiceRow.isSelected (nag_time : Option CivilTime) (row : ServiceRow) : Bool :=
  nag_time.all fun t => t.seconds * 10 ^ 6 ≤ row.status_update_time.instant

/-! ## The plugin and the server -/

/-- The variable of the plugin, and the last info and the triggers that the server has got. -/
structure World where
  trigger_last_info : Option (List Char)
  lastInfo : List Char
  triggers : List Trigger
  deriving DecidableEq, Repr

def start : World := ⟨none, [], []⟩

/-- The number counts the calls of a poll, each of which may fail. -/
def put_triggers (outcome : Nat → PutResult) (last_info : Option (List Char)) :
    PutFunc (Nat × World) Trigger :=
  fun triggers _ (n, w) =>
    match outcome n with
    | .returned => (.returned, n + 1,
        { w with lastInfo := last_info.getD w.lastInfo, triggers := w.triggers ++ triggers })
    | result => (result, n + 1, w)

/-- The bound of the query, or an exception. -/
def nagTime (last_info : List Char) : Option (Option CivilTime) :=
  if last_info.length ≠ 0 then (convert_to_nagios_time last_info).map some else some none

/-- The bound of the query of the next poll. -/
def World.nextBound (w : World) : Option (Option CivilTime) :=
  nagTime (w.trigger_last_info.getD w.lastInfo)

/-- The rows are those of the database at the time, in any order. -/
def collect_triggers_and_put (time_offset : Int) (rows : List ServiceRow)
    (outcome : Nat → PutResult) (requestId : String) (w : World) : World :=
  let last_info := w.trigger_last_info.getD w.lastInfo
  let w := { w with trigger_last_info := some last_info }
  match nagTime last_info with
  | none => w
  | some nag_time =>
      match (rows.filter (·.isSelected nag_time)).mapM (triggerOf time_offset) with
      | none => w
      | some triggers =>
          let last_info := get_biggest_num_of_dict_array (triggers.map (·.lastChangeTime))
          (divideAndPutData (put_triggers outcome last_info) requestId triggers false
            (0, { w with trigger_last_info := last_info })).2.2

inductive Step where
  | poll (rows : List ServiceRow) (outcome : Nat → PutResult) (requestId : String)
  /-- The plugin starts again. -/
  | restart

def next (time_offset : Int) (w : World) : Step → World
  | .poll rows outcome requestId => collect_triggers_and_put time_offset rows outcome requestId w
  | .restart => { w with trigger_last_info := none }

/-! ## What is known of a poll -/

theorem convert_to_nagios_time_conv {d : DateTime} {offset : Int} {text : List Char}
    (hconv : conv_to_hapi_time d offset = some text) :
    convert_to_nagios_time text = some (civilTime (d.time.seconds + offset)) := by
  obtain ⟨hfirst, hlast, rfl⟩ := conv_to_hapi_time_eq_some.mp hconv
  have hdated := civilTime_dated (show 1 ≤ (civilTime (d.time.seconds + offset)).year by omega)
  have hsplit := splitOn_point (CivilTime.allDigits (civilTime (d.time.seconds + offset)))
    (allDigits_padded 6 d.microsecond)
  rw [convert_to_nagios_time, hsplit]
  change ((Hapcommon.strptime (civilTime (d.time.seconds + offset)).digits).bind fun nag_datetime =>
    (strftime nag_datetime).bind fun _ => some nag_datetime) = _
  rw [strptime_digits hdated (by omega) (by omega), Option.bind_some, strftime,
    if_neg (by omega)]
  rfl

theorem nagTime_conv {d : DateTime} {offset : Int} {text : List Char} (hd : d.Valid)
    (hconv : conv_to_hapi_time d offset = some text) :
    nagTime text = some (some (civilTime (d.time.seconds + offset))) := by
  rw [nagTime, length_conv_to_hapi_time hd hconv, if_pos (by decide),
    convert_to_nagios_time_conv hconv]
  rfl

theorem putCalls_put_triggers {outcome : Nat → PutResult} (houtcome : ∀ n, outcome n = .returned)
    (last_info : Option (List Char)) : ∀ (calls : List (Call Trigger)) (n : Nat) (w : World),
      ∃ n', putCalls (put_triggers outcome last_info) calls (n, w) = (.returned, n',
        { w with
          lastInfo := if calls = [] then w.lastInfo else last_info.getD w.lastInfo
          triggers := w.triggers ++ calls.flatMap (·.chunk) }) := by
  intro calls
  induction calls with
  | nil =>
    intro n w
    exact ⟨n, by rw [List.flatMap_nil, List.append_nil, if_pos rfl]; rfl⟩
  | cons call calls ih =>
    intro n w
    obtain ⟨n', hcalls⟩ := ih (n + 1) { w with
      lastInfo := last_info.getD w.lastInfo, triggers := w.triggers ++ call.chunk }
    refine ⟨n', ?_⟩
    have hput : put_triggers outcome last_info call.chunk call.divideInfo (n, w) =
        (.returned, n + 1, { w with
          lastInfo := last_info.getD w.lastInfo, triggers := w.triggers ++ call.chunk }) := by
      rw [put_triggers, houtcome n]
    rw [putCalls, hput]
    dsimp only
    rw [hcalls, List.flatMap_cons, ← List.append_assoc, if_neg (List.cons_ne_nil _ _)]
    cases last_info <;> simp

end Hatohol.NagiosNDOUtils

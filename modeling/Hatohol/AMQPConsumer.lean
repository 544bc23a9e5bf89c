import Hatohol.Machine.Steps

/-!
# Consumers of messages

A thread connects to the broker, consumes messages and passes them on, and tells of changes of the
connection (server/common/AMQPConsumer.cc:97-137). It waits longer and longer while it cannot
connect.
-/

namespace Hatohol.AMQPConsumer

inductive ConnectionStatus where
  | init
  | established
  | disconnected
  deriving DecidableEq, Repr

/-- Seconds. -/
def retryInterval : List Nat := [1, 2, 5, 10, 30]

/-- What the connection answers in a round: to the two calls of `isConnected`, to `startConsuming`
    and to `consume`. -/
structure Round (Message : Type) where
  connectedBefore : Bool
  connectedAfter : Bool
  startsConsuming : Bool
  message : Option Message

/-- What the thread does that others see. -/
inductive Entry (Message : Type) where
  | report (status : ConnectionStatus)
  | wait (seconds : Nat)
  | handle (message : Message)
  deriving DecidableEq, Repr

/-- The variables of `mainThread`. The log has the last entry first. -/
structure Consumer (Message : Type) where
  status : ConnectionStatus
  prevStatus : ConnectionStatus
  i : Nat
  log : List (Entry Message)
  deriving DecidableEq, Repr

namespace Consumer

variable {Message : Type}

def new : Consumer Message := ⟨.init, .init, 0, []⟩

def callbackIfConnectionChanged (c : Consumer Message) : Consumer Message :=
  if c.status = c.prevStatus then c else { c with log := .report c.status :: c.log }

/-- The wait while there is no connection. -/
def waitRetry (c : Consumer Message) : Consumer Message :=
  if c.i ≥ retryInterval.length then { c with log := .wait 30 :: c.log }
  else { c with log := .wait (retryInterval.getD c.i 0) :: c.log, i := c.i + 1 }

def consume (c : Consumer Message) (message : Option Message) : Consumer Message :=
  match message with
  | none => { c with i := 0 }
  | some message => { c with i := 0, log := .handle message :: c.log }

/-- The status behind the two tests of the connection. -/
def connect (status : ConnectionStatus) (r : Round Message) : ConnectionStatus :=
  let status := if !r.connectedBefore then .disconnected else status
  if status = .disconnected ∧ r.connectedAfter ∧ r.startsConsuming then .established else status

def round (c : Consumer Message) (r : Round Message) : Consumer Message :=
  let c := { c with status := connect c.status r }.callbackIfConnectionChanged
  let c := if c.status ≠ .established then c.waitRetry else c.consume r.message
  { c with prevStatus := c.status }

end Consumer

/-! ## What a log looks like -/

variable {Message : Type}

def lastReport : List (Entry Message) → Option ConnectionStatus
  | [] => none
  | .report status :: _ => some status
  | .wait _ :: rest | .handle _ :: rest => lastReport rest

/-- The waits since the connection was last told to be established. -/
def waits : List (Entry Message) → Nat
  | [] => 0
  | .report .established :: _ => 0
  | .wait _ :: rest => waits rest + 1
  | .report .init :: rest | .report .disconnected :: rest | .handle _ :: rest => waits rest

def delay (k : Nat) : Nat := retryInterval.getD k 30

/-- Each report is another one than the last, each message comes while the connection was last told
    to be established, and each wait while it was not; the waits are as long as there were waits
    before. -/
def Lawful : List (Entry Message) → Prop
  | [] => True
  | .report status :: rest => status ≠ .init ∧ lastReport rest ≠ some status ∧ Lawful rest
  | .wait seconds :: rest =>
    seconds = delay (waits rest) ∧ lastReport rest ≠ some .established ∧ Lawful rest
  | .handle _ :: rest => lastReport rest = some .established ∧ Lawful rest

theorem Lawful.waits_eq {log : List (Entry Message)} (h : Lawful log)
    (hlast : lastReport log = some .established) : waits log = 0 := by
  induction log with
  | nil => rfl
  | cons entry rest ih =>
    cases entry with
    | report status =>
      obtain rfl := Option.some.inj hlast
      rfl
    | wait seconds => exact absurd hlast h.2.1
    | handle message => exact ih h.2 hlast

namespace Consumer

/-- What the status was last told to be. -/
def told : ConnectionStatus → Option ConnectionStatus
  | .init => none
  | .established => some .established
  | .disconnected => some .disconnected

theorem told_of_ne {status : ConnectionStatus} (hne : status ≠ .init) : told status = some status := by
  cases status with
  | init => exact absurd rfl hne
  | established | disconnected => rfl

theorem eq_of_told {status status' : ConnectionStatus} (h : told status = some status') :
    status = status' := by
  cases status with
  | init => cases h
  | established | disconnected => exact Option.some.inj h

theorem told_ne {status : ConnectionStatus} (hne : status ≠ .established) :
    told status ≠ some .established := by
  cases status with
  | init => exact nofun
  | established => exact absurd rfl hne
  | disconnected => exact nofun

structure Sound (c : Consumer Message) : Prop where
  prev : c.prevStatus = c.status
  last : lastReport c.log = told c.status
  lawful : Lawful c.log
  count : c.i = min (waits c.log) retryInterval.length

theorem sound_new : (new : Consumer Message).Sound := ⟨rfl, rfl, trivial, rfl⟩

theorem connect_eq_init {status : ConnectionStatus} {r : Round Message}
    (h : connect status r = .init) : status = .init := by
  cases status with
  | init => rfl
  | established | disconnected =>
    grind [connect]

/-- The status has been told of when the thread goes on. -/
theorem Sound.callback {c : Consumer Message} (h : c.Sound) (r : Round Message) :
    let c' := { c with status := connect c.status r }.callbackIfConnectionChanged
    c'.status = connect c.status r ∧ lastReport c'.log = told (connect c.status r) ∧ Lawful c'.log ∧
      (connect c.status r ≠ .established → c'.i = min (waits c'.log) retryInterval.length) := by
  unfold callbackIfConnectionChanged
  dsimp only
  split
  next hsame =>
    have hsame : connect c.status r = c.status := hsame.trans h.prev
    exact ⟨rfl, h.last.trans (congrArg told hsame.symm), h.lawful, fun _ => h.count⟩
  next hchanged =>
    have hchanged : connect c.status r ≠ c.status := fun heq => hchanged (heq.trans h.prev.symm)
    have hinit : connect c.status r ≠ .init := fun heq =>
      hchanged (heq.trans (connect_eq_init heq).symm)
    refine ⟨rfl, (told_of_ne hinit).symm, ⟨hinit, fun hlast => ?_, h.lawful⟩, fun hnot => ?_⟩
    · rw [h.last] at hlast
      exact hchanged (eq_of_told hlast).symm
    · have hwaits : waits (.report (connect c.status r) :: c.log) = waits c.log := by
        cases hconnect : connect c.status r with
        | established => exact absurd hconnect hnot
        | init | disconnected => rfl
      exact h.count.trans (by rw [hwaits])

theorem delay_of_lt {k : Nat} (hlt : k < retryInterval.length) :
    delay k = retryInterval.getD k 0 := by
  rw [delay, List.getD_eq_getElem?_getD, List.getD_eq_getElem?_getD, List.getElem?_eq_getElem hlt]
  rfl

theorem Sound.round {c : Consumer Message} (h : c.Sound) (r : Round Message) : (c.round r).Sound := by
  obtain ⟨hstatus, hlast, hlawful, hcount⟩ := h.callback r
  unfold Consumer.round
  dsimp only
  generalize { c with status := connect c.status r }.callbackIfConnectionChanged = c' at *
  rw [← hstatus] at hlast hcount
  split
  next hnot =>
    have hcount := hcount hnot
    rw [waitRetry]
    split
    next hmany =>
      have hdelay : 30 = delay (waits c'.log) := by
        rw [delay, List.getD_eq_getElem?_getD, List.getElem?_eq_none (by omega)]
        rfl
      refine ⟨rfl, hlast, ⟨hdelay, hlast ▸ told_ne hnot, hlawful⟩, ?_⟩
      change c'.i = min (waits c'.log + 1) retryInterval.length
      omega
    next hfew =>
      have hwaits : c'.i = waits c'.log := by omega
      refine ⟨rfl, hlast, ⟨?_, hlast ▸ told_ne hnot, hlawful⟩, ?_⟩
      · rw [← hwaits, delay_of_lt (by omega)]
      · change c'.i + 1 = min (waits c'.log + 1) retryInterval.length
        omega
  next hestablished =>
    have hestablished := not_not.mp hestablished
    have htold : lastReport c'.log = some .established := by rw [hlast, hestablished]; rfl
    have hnone := hlawful.waits_eq htold
    have hcount : 0 = min (waits c'.log) retryInterval.length := by rw [hnone]; rfl
    cases r.message with
    | none => exact ⟨rfl, hlast, hlawful, hcount⟩
    | some message => exact ⟨rfl, hlast, ⟨htold, hlawful⟩, hcount⟩

/-- Whatever the connection does. -/
theorem lawful_log (rounds : List (Round Message)) : Lawful (rounds.foldl round new).log := by
  have h : (rounds.foldl round new : Consumer Message).Sound :=
    Machine.foldl_invariant Sound (fun _ r hsound => hsound.round r) rounds new sound_new
  exact h.lawful

end Consumer

end Hatohol.AMQPConsumer

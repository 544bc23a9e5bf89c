import Hatohol.IncidentSenderManager
import Hatohol.Machine.Steps

/-!
# The settings that incidents are sent with

A sender that has not been told of a change has a copy that is as new as the last update that has
returned. The flag keeps this as long as it is not reset after a later update has set it again, and
the class of the sender is that of the settings as long as the type stays.
-/

namespace Hatohol

open Machine

/-- Not older than the update that is required, and used by a sender of its own type. -/
structure SettingsUse.Fresh (use : SettingsUse) : Prop where
  version : use.required ≤ use.settings.version
  type : use.settings.info.senderClass = some use.senderClass

namespace TrackerState

/-- The class of the sender that there is, or that is about to be made. -/
def serves (s : TrackerState) : Option SenderClass :=
  match s.sender with
  | some sender => some sender.senderClass
  | none =>
      match s.lock with
      | .createSender row _ => row.info.senderClass
      | _ => none

/-- An update keeps the class of the sender. The flag is not reset where an update has been
    announced since the read, unless the sender is to exit. A sender whose row is gone has what is
    required already. -/
def Clean (s : TrackerState) : Input → Prop
  | .updateRow info => ∀ senderClass, s.serves = some senderClass →
      info.senderClass = some senderClass
  | .getIncidentTrackerInfo => ∀ sender send, s.sender = some sender → sender.send = some send →
      match send.call with
      | .none => True
      | .changed => s.row = none → send.required ≤ sender.incidentTrackerInfo.version
      | .read row => s.returned ≤ row.version ∨ sender.exitRequested
  | _ => True

structure SendSound (returned : Nat) (sender : TrackerSender) (send : SendCall) : Prop where
  required : send.required ≤ returned
  unchanged : sender.trackerChanged = false → send.required ≤ sender.incidentTrackerInfo.version
  read : ∀ row, send.call = .read row →
    row.info.senderClass = some sender.senderClass ∧ send.required ≤ row.version

structure SenderSound (returned : Nat) (sender : TrackerSender) : Prop where
  type : sender.incidentTrackerInfo.info.senderClass = some sender.senderClass
  version : sender.exitRequested = false → sender.trackerChanged = false →
    returned ≤ sender.incidentTrackerInfo.version
  send : ∀ send, sender.send = some send → SendSound returned sender send

structure Sound (s : TrackerState) : Prop where
  version : ∀ row, s.row = some row → row.version = s.writes
  type : ∀ row, s.row = some row → ∀ senderClass, s.serves = some senderClass →
    row.info.senderClass = some senderClass
  returned : s.returned ≤ s.writes
  pending : ∀ version ∈ s.pending, version ≤ s.writes
  sender : ∀ sender, s.sender = some sender → SenderSound s.returned sender
  lock : ∀ row announced, s.lock = .createSender row announced →
    s.sender = none ∧ s.returned ≤ row.version ∧
    ∀ version, announced = some version → version ≤ s.writes
  uses : ∀ use ∈ s.uses, use.Fresh

variable {s : TrackerState} {sender : TrackerSender}

theorem type_of_sender (hsound : s.Sound) (hsender : s.sender = some sender) (row : TrackerRow)
    (hrow : s.row = some row) : row.info.senderClass = some sender.senderClass :=
  hsound.type row hrow _ (by rw [serves, hsender])

theorem not_creating_of_sender (hsound : s.Sound) (hsender : s.sender = some sender)
    (row : TrackerRow) (announced : Option Nat) : s.lock ≠ .createSender row announced := by
  intro hlock
  rw [(hsound.lock row announced hlock).1] at hsender
  cases hsender

/-! ## Steps -/

/-- A sender comes to the place of another, or where there is none. -/
theorem sound_putSender (hsound : s.Sound)
    (htype : ∀ row, s.row = some row → row.info.senderClass = some sender.senderClass)
    (hlock : ∀ row announced, s.lock ≠ .createSender row announced)
    (hsender : SenderSound s.returned sender) : Sound { s with sender := some sender } where
  version := hsound.version
  type := fun row hrow _ hclass => (htype row hrow).trans hclass
  returned := hsound.returned
  pending := hsound.pending
  sender := fun _ hother => Option.some.inj hother ▸ hsender
  lock := fun row announced h => absurd h (hlock row announced)
  uses := hsound.uses

theorem sound_setOnChanged (hsound : s.Sound)
    (htype : ∀ row, s.row = some row → row.info.senderClass = some sender.senderClass)
    (hlock : ∀ row announced, s.lock ≠ .createSender row announced)
    (hsender : SenderSound s.returned sender) {announced : Option Nat}
    (hannounced : ∀ version, announced = some version → version ≤ s.writes) :
    (s.setOnChanged announced sender).Sound := by
  cases announced with
  | none => exact sound_putSender hsound htype hlock hsender
  | some version =>
    have hversion := hannounced version rfl
    have hflagged : SenderSound (max s.returned version) { sender with trackerChanged := true } :=
      { type := hsender.type
        version := fun _ h => nomatch h
        send := fun send hsend =>
          { required := Nat.le_trans (hsender.send send hsend).required (Nat.le_max_left _ _)
            unchanged := fun h => nomatch h
            read := (hsender.send send hsend).read } }
    exact
      { version := hsound.version
        type := fun row hrow _ hclass => (htype row hrow).trans hclass
        returned := Nat.max_le.mpr ⟨hsound.returned, hversion⟩
        pending := fun v hv => hsound.pending v (List.mem_of_mem_erase hv)
        sender := fun other hother => Option.some.inj hother ▸ hflagged
        lock := fun row announced h => absurd h (hlock row announced)
        uses := hsound.uses }

theorem sound_free (hsound : s.Sound) (hsender : s.sender = none) (crashed : Bool) :
    Sound { s with lock := .free, crashed := crashed } where
  version := hsound.version
  type := fun row hrow senderClass hclass => by
    rw [serves, hsender] at hclass
    cases hclass
  returned := hsound.returned
  pending := hsound.pending
  sender := hsound.sender
  lock := fun _ _ h => nomatch h
  uses := hsound.uses

theorem sound_updateRow (hsound : s.Sound) {info : IncidentTrackerInfo}
    (hclean : s.Clean (.updateRow info)) : (s.updateRow info).Sound := by
  rw [updateRow]
  split
  next => exact hsound
  next =>
    exact
      { version := fun row hrow => Option.some.inj hrow ▸ rfl
        type := fun row hrow senderClass hclass => by
          obtain rfl := Option.some.inj hrow
          exact hclean senderClass hclass
        returned := Nat.le_succ_of_le hsound.returned
        pending := fun version hversion => by
          rw [List.mem_append, List.mem_singleton] at hversion
          obtain hversion | rfl := hversion
          · exact Nat.le_succ_of_le (hsound.pending version hversion)
          · exact Nat.le_refl _
        sender := hsound.sender
        lock := fun row announced h => by
          obtain ⟨hsender, hreturned, hannounced⟩ := hsound.lock row announced h
          exact ⟨hsender, hreturned, fun v hv => Nat.le_succ_of_le (hannounced v hv)⟩
        uses := hsound.uses }

theorem sound_getSender (hsound : s.Sound) {announced : Option Nat}
    (henabled : s.enables (.getSender announced)) : (s.getSender announced).Sound := by
  rw [enables, Bool.and_eq_true, decide_eq_true_iff] at henabled
  obtain ⟨hfree, hpending⟩ := henabled
  have hannounced : ∀ version, announced = some version → version ≤ s.writes := by
    rintro version rfl
    exact hsound.pending version (by simpa using hpending)
  rw [getSender]
  split
  next sender hsender =>
    exact sound_setOnChanged hsound (type_of_sender hsound hsender)
      (not_creating_of_sender hsound hsender) (hsound.sender sender hsender) hannounced
  next hsender =>
    split
    next => exact sound_free hsound hsender announced.isSome
    next row hrow =>
      exact
        { version := hsound.version
          type := fun row' hrow' senderClass hclass => by
            rw [serves, hsender] at hclass
            rw [← hclass]
            exact congrArg (fun row : TrackerRow => row.info.senderClass)
              (Option.some.inj (hrow'.symm.trans hrow))
          returned := hsound.returned
          pending := hsound.pending
          sender := hsound.sender
          lock := fun row' announced' h => by
            obtain ⟨rfl, rfl⟩ := SendersLock.createSender.inj h
            exact ⟨hsender, hsound.version row hrow ▸ hsound.returned, hannounced⟩
          uses := hsound.uses }

theorem sound_insertSender (hsound : s.Sound) : s.insertSender.Sound := by
  rw [insertSender]
  split
  next row announced hlock =>
    obtain ⟨hsender, hreturned, hannounced⟩ := hsound.lock row announced hlock
    split
    next => exact sound_free hsound hsender announced.isSome
    next senderClass hclass =>
      have hfree : Sound { s with lock := .free } := sound_free hsound hsender s.crashed
      refine sound_setOnChanged hfree (fun row' hrow' => ?_) (fun _ _ h => nomatch h) ?_ hannounced
      · exact hsound.type row' hrow' senderClass (by rw [serves, hsender, hlock]; exact hclass)
      · exact ⟨hclass, fun _ _ => hreturned, fun _ h => nomatch h⟩
  next => exact hsound

theorem sound_useSettings (hsound : s.Sound) {send : SendCall}
    (htype : ∀ row, s.row = some row → row.info.senderClass = some sender.senderClass)
    (hlock : ∀ row announced, s.lock ≠ .createSender row announced)
    (hsender : SenderSound s.returned { sender with send := some { send with call := .none } })
    (hversion : send.required ≤ sender.incidentTrackerInfo.version) :
    (s.useSettings sender send).Sound := by
  let ended : TrackerSender := { sender with send := some { send with call := .none } }
  have hput : Sound { s with sender := some ended } := sound_putSender hsound htype hlock hsender
  exact
    { hput with
      uses := fun use huse => by
        rw [useSettings, List.mem_append, List.mem_singleton] at huse
        obtain huse | rfl := huse
        · exact hsound.uses use huse
        · exact ⟨hversion, hsender.type⟩ }

/-- The call of `getIncidentTrackerInfo` goes on, or ends. -/
theorem SenderSound.withCall {returned : Nat} {send : SendCall}
    (hsender : SenderSound returned sender) (hsend : SendSound returned sender send)
    {call : SettingsCall}
    (hread : ∀ row, call = .read row →
      row.info.senderClass = some sender.senderClass ∧ send.required ≤ row.version) :
    SenderSound returned { sender with send := some { send with call := call } } where
  type := hsender.type
  version := hsender.version
  send := fun other hother => by
    obtain rfl := Option.some.inj hother
    exact ⟨hsend.required, hsend.unchanged, hread⟩

theorem sound_getIncidentTrackerInfo (hsound : s.Sound) {send : SendCall}
    (hsender : s.sender = some sender) (hsending : sender.send = some send)
    (hclean : s.Clean .getIncidentTrackerInfo) :
    (s.getIncidentTrackerInfo sender send).Sound := by
  have htype := type_of_sender hsound hsender
  have hlock := not_creating_of_sender hsound hsender
  have hkept := hsound.sender sender hsender
  have hsend := hkept.send send hsending
  have hclean' := hclean sender send hsender hsending
  have hended : SenderSound s.returned { sender with send := some { send with call := .none } } :=
    hkept.withCall hsend fun _ h => nomatch h
  rw [getIncidentTrackerInfo]
  split
  next hcall =>
    split
    next hunchanged =>
      rw [Bool.not_eq_true'] at hunchanged
      exact sound_useSettings hsound htype hlock hended (hsend.unchanged hunchanged)
    next => exact sound_putSender hsound htype hlock (hkept.withCall hsend fun _ h => nomatch h)
  next hcall =>
    rw [hcall] at hclean'
    split
    next hrow => exact sound_useSettings hsound htype hlock hended (hclean' hrow)
    next row hrow =>
      refine sound_putSender hsound htype hlock (hkept.withCall hsend fun row' h => ?_)
      obtain rfl := SettingsCall.read.inj h
      refine ⟨htype row hrow, ?_⟩
      rw [hsound.version row hrow]
      exact Nat.le_trans hsend.required hsound.returned
  next row hcall =>
    rw [hcall] at hclean'
    obtain ⟨hclass, hversion⟩ := hsend.read row hcall
    refine sound_useSettings hsound htype hlock ?_ hversion
    exact
      { type := hclass
        version := fun hexit _ => hclean'.resolve_right (by rw [hexit]; exact Bool.false_ne_true)
        send := fun other hother => by
          obtain rfl := Option.some.inj hother
          exact ⟨hsend.required, fun _ => hversion, fun _ h => nomatch h⟩ }

theorem sound_deleteSender (hsound : s.Sound) (hsender : s.sender = some sender) :
    (s.deleteSender sender).Sound := by
  have hkept := hsound.sender sender hsender
  exact
    { version := hsound.version
      type := fun row hrow _ hclass => (type_of_sender hsound hsender row hrow).trans hclass
      returned := hsound.returned
      pending := hsound.pending
      sender := fun other hother => by
        obtain rfl := Option.some.inj hother
        exact ⟨hkept.type, fun h => (nomatch h), fun send hsend =>
          { hkept.send send hsend with }⟩
      lock := fun _ _ h => nomatch h
      uses := hsound.uses }

theorem sound_destroySender (hsound : s.Sound) : (s.destroySender sender).Sound := by
  rw [destroySender]
  split
  next =>
    exact { hsound with
      type := fun _ _ _ h => nomatch h
      sender := fun _ h => nomatch h
      lock := fun _ _ h => nomatch h }
  next => exact hsound

theorem sound_beginSend (hsound : s.Sound) (hsender : s.sender = some sender) :
    (s.beginSend sender).Sound := by
  have htype := type_of_sender hsound hsender
  have hlock := not_creating_of_sender hsound hsender
  have hkept := hsound.sender sender hsender
  rw [beginSend]
  split
  next => exact hsound
  next hidle =>
    rw [Bool.not_eq_true, Bool.or_eq_false_iff] at hidle
    refine sound_putSender hsound htype hlock ⟨hkept.type, hkept.version, fun send hsend => ?_⟩
    obtain rfl := Option.some.inj hsend
    exact ⟨Nat.le_refl _, hkept.version hidle.1, fun _ h => nomatch h⟩

theorem sound_endSend (hsound : s.Sound) {send : SendCall} (hsender : s.sender = some sender) :
    (s.endSend sender send).Sound := by
  have htype := type_of_sender hsound hsender
  have hlock := not_creating_of_sender hsound hsender
  have hkept := hsound.sender sender hsender
  rw [endSend]
  split
  next =>
    exact sound_putSender hsound htype hlock ⟨hkept.type, hkept.version, fun _ h => nomatch h⟩
  next => exact hsound

theorem sound_withSender (hsound : s.Sound) {f : TrackerSender → TrackerState}
    (hf : ∀ sender, s.sender = some sender → (f sender).Sound) : (s.withSender f).Sound := by
  rw [withSender]
  split
  next sender hsender => exact hf sender hsender
  next => exact hsound

theorem sound_withSend (hsound : s.Sound) {f : TrackerSender → SendCall → TrackerState}
    (hf : ∀ sender send, s.sender = some sender → sender.send = some send → (f sender send).Sound) :
    (s.withSend f).Sound := by
  refine sound_withSender hsound fun sender hsender => ?_
  split
  next send hsend => exact hf sender send hsender hsend
  next => exact hsound

theorem sound_handle (hsound : s.Sound) {input : Input} (hclean : s.Clean input)
    (henabled : s.enables input) : (s.handle input).Sound := by
  cases input with
  | updateRow info => exact sound_updateRow hsound hclean
  | deleteRow =>
    exact { hsound with
      version := fun _ h => nomatch h
      type := fun _ h => nomatch h }
  | getSender announced => exact sound_getSender hsound henabled
  | insertSender => exact sound_insertSender hsound
  | deleteSender => exact sound_withSender hsound fun _ => sound_deleteSender hsound
  | destroySender => exact sound_withSender hsound fun _ _ => sound_destroySender hsound
  | beginSend => exact sound_withSender hsound fun _ => sound_beginSend hsound
  | getIncidentTrackerInfo =>
    exact sound_withSend hsound fun _ _ hsender hsend =>
      sound_getIncidentTrackerInfo hsound hsender hsend hclean
  | endSend => exact sound_withSend hsound fun _ _ hsender _ => sound_endSend hsound hsender

theorem sound_next (hsound : s.Sound) {input : Input} (hclean : s.Clean input) :
    (s.next input).Sound := by
  rw [next]
  split
  next henabled => exact sound_handle hsound hclean henabled
  next => exact hsound

theorem sound_new (info : IncidentTrackerInfo) : (new info).Sound where
  version := fun _ h => Option.some.inj h ▸ rfl
  type := fun _ _ _ h => nomatch h
  returned := Nat.le_refl _
  pending := fun _ h => nomatch h
  sender := fun _ h => nomatch h
  lock := fun _ _ h => nomatch h
  uses := fun _ h => nomatch h

end TrackerState

namespace IncidentSenderManager

/-- The step is clean for its tracker. -/
def Clean (m : IncidentSenderManager) (input : IncidentTrackerIdType × TrackerState.Input) : Prop :=
  (m.trackers input.1).Clean input.2

theorem sound_next {m : IncidentSenderManager}
    {input : IncidentTrackerIdType × TrackerState.Input}
    (hsound : ∀ trackerId, (m.trackers trackerId).Sound) (hclean : m.Clean input) :
    ∀ trackerId, ((m.next input).trackers trackerId).Sound := by
  intro trackerId
  rw [next]
  split
  next => exact hsound trackerId
  next =>
    by_cases hsame : trackerId = input.1
    · subst hsame
      simpa using TrackerState.sound_next (hsound input.1) hclean
    · simpa [Function.update_of_ne hsame] using hsound trackerId

/-- In a run whose steps are clean, each send is given settings that are as new as the last update
    that had returned when it began, by a sender of their type. -/
theorem fresh_of_clean (infos : IncidentTrackerIdType → IncidentTrackerInfo)
    (inputs : List (IncidentTrackerIdType × TrackerState.Input))
    (hclean : Heeds next Clean (new infos) inputs) (trackerId : IncidentTrackerIdType) :
    ∀ use ∈ ((inputs.foldl next (new infos)).trackers trackerId).uses, use.Fresh := by
  have hsound : ∀ trackerId, ((inputs.foldl next (new infos)).trackers trackerId).Sound :=
    foldl_invariant_of_heeds (fun m => ∀ trackerId, (m.trackers trackerId).Sound)
      (fun _ _ hsound hclean => sound_next hsound hclean) inputs (new infos)
      (fun trackerId => TrackerState.sound_new (infos trackerId)) hclean
  exact (hsound trackerId).uses

section Examples

def redmineTracker : IncidentTrackerInfo :=
  ⟨IncidentTrackerInfo.typeRedmine, emptyText, .ofString "http://localhost", .ofString "hatohol",
    emptyText, emptyText, emptyText⟩

def movedTracker : IncidentTrackerInfo :=
  { redmineTracker with baseURL := .ofString "http://localhost/redmine" }

theorem fresh_movedTracker :
    ∃ use, use ∈ (([(1, .getSender none), (1, .insertSender), (1, .updateRow movedTracker),
      (1, .getSender (some 1)), (1, .beginSend), (1, .getIncidentTrackerInfo),
      (1, .getIncidentTrackerInfo), (1, .getIncidentTrackerInfo)].foldl next
        (new fun _ => redmineTracker)).trackers 1).uses ∧ use.Fresh := by
  have huse : (⟨1, .redmine, ⟨movedTracker, 1⟩⟩ : SettingsUse) ∈
      (([(1, .getSender none), (1, .insertSender), (1, .updateRow movedTracker),
      (1, .getSender (some 1)), (1, .beginSend), (1, .getIncidentTrackerInfo),
      (1, .getIncidentTrackerInfo), (1, .getIncidentTrackerInfo)].foldl next
        (new fun _ => redmineTracker)).trackers 1).uses := .head _
  refine ⟨_, huse, fresh_of_clean (fun _ => redmineTracker) _ ?_ 1 _ huse⟩
  refine ⟨trivial, trivial, fun _ h => h, trivial, trivial, ?_, ?_, ?_, trivial⟩
  · intro sender send hsender hsend
    cases hsender
    cases hsend
    trivial
  · intro sender send hsender hsend
    cases hsender
    cases hsend
    exact fun h => nomatch h
  · intro sender send hsender hsend
    cases hsender
    cases hsend
    exact .inl (Nat.le_refl 1)

/-- The second update is announced between the read and the reset, so its settings are never read. -/
theorem not_fresh_updateBeforeReset :
    ¬∀ use ∈ (([(1, .getSender none), (1, .insertSender), (1, .updateRow movedTracker),
      (1, .getSender (some 1)), (1, .beginSend), (1, .getIncidentTrackerInfo),
      (1, .getIncidentTrackerInfo), (1, .updateRow redmineTracker), (1, .getSender (some 2)),
      (1, .getIncidentTrackerInfo), (1, .endSend), (1, .beginSend),
      (1, .getIncidentTrackerInfo)].foldl next (new fun _ => redmineTracker)).trackers 1).uses,
      use.Fresh := by
  intro hfresh
  have huse := hfresh ⟨2, .redmine, ⟨movedTracker, 1⟩⟩ (.tail _ (.head _))
  exact absurd huse.version (by decide)

/-- The sender keeps its class when the type of the tracker changes. -/
example :
    (([(1, .getSender none), (1, .insertSender),
      (1, .updateRow { redmineTracker with type := IncidentTrackerInfo.typeHatohol }),
      (1, .getSender (some 1)), (1, .beginSend), (1, .getIncidentTrackerInfo),
      (1, .getIncidentTrackerInfo), (1, .getIncidentTrackerInfo)].foldl next
        (new fun _ => redmineTracker)).trackers 1).uses.map SettingsUse.senderClass =
      [.redmine] := by rfl

end Examples

end IncidentSenderManager

end Hatohol

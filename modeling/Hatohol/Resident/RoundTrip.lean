import Hatohol.Resident.Packets

/-!
# Round trips of the packets of a resident

What the resident reads from the body of a packet is what the master was given, as long as a string can
be reached from its header and the size of the body from four bytes.
-/

namespace Hatohol.ResidentCommunicator

open Bytes SmartBuffer

variable {actionId : Int} {event : NotifiedEvent} {sessionId : Bytes}

/-! ## Events -/

/-- The fixed fields. The bodies of the strings follow them, in the same order. -/
def eventFields (actionId : Int) (event : NotifiedEvent) (sessionId : Bytes) : Bytes :=
  numberBytes 4 actionId ++ (numberBytes 4 event.serverId ++
    (stringHeader event.hostIdInServer.length 78 ++ (numberBytes 8 event.time.sec ++
      (numberBytes 4 event.time.nsec ++
        (stringHeader event.id.length (event.hostIdInServer.length + 59) ++
          (numberBytes 2 event.type ++
            (stringHeader event.triggerId.length
                (event.hostIdInServer.length + event.id.length + 50) ++
              (numberBytes 2 event.status ++ (numberBytes 2 event.severity ++ sessionId)))))))))

def eventBodies (event : NotifiedEvent) : Bytes :=
  event.hostIdInServer ++ [0] ++ (event.id ++ [0]) ++ (event.triggerId ++ [0])

def eventBodySize (event : NotifiedEvent) : Nat :=
  eventBodyBaseLen + (event.hostIdInServer.length + 1) + (event.id.length + 1) +
    (event.triggerId.length + 1)

/-- The offsets are of 31 bits and the body size is of 32. -/
structure ShortStrings (event : NotifiedEvent) : Prop where
  hostId : event.hostIdInServer.length + 59 < 2 ^ 31
  ids : event.hostIdInServer.length + event.id.length + 50 < 2 ^ 31
  body : eventBodySize event < 2 ^ 32

theorem length_eventFields (hsession : sessionId.length = sessionIdLen) :
    (eventFields actionId event sessionId).length = eventBodyBaseLen := by
  simp only [eventFields, List.length_append, length_numberBytes, length_stringHeader, hsession]
  rfl

theorem length_eventBodies : (eventFields actionId event sessionId ++ eventBodies event).length =
    (eventFields actionId event sessionId).length + (event.hostIdInServer.length + 1) +
      (event.id.length + 1) + (event.triggerId.length + 1) := by
  simp only [eventBodies, List.length_append, List.length_singleton]
  omega

theorem headerLen_add_eventBodySize (event : NotifiedEvent) :
    headerLen + eventBodySize event = 92 + (event.hostIdInServer.length + 1) +
      (event.id.length + 1) + (event.triggerId.length + 1) := by
  simp only [eventBodySize, headerLen, eventBodyBaseLen, sizeofStringHeader, sessionIdLen]
  omega

/-- The numbers up to the header of the event ID, and the host ID. -/
theorem filled_hostId (actionId : Int) (b : SmartBuffer) (fresh : Nat → UInt8)
    (hbody : eventBodySize event < 2 ^ 32) :
    ∃ b₀ b₁ b₂ b₃ b₄ b₅, setHeader b fresh (eventBodySize event) .notifyEvent = .ok b₀ ∧
      b₀.addNumber 4 actionId = .ok b₁ ∧ b₁.addNumber 4 event.serverId = .ok b₂ ∧
      b₂.insertString event.hostIdInServer 92 =
        .ok (92 + (event.hostIdInServer.length + 1), b₃) ∧
      b₃.addNumber 8 event.time.sec = .ok b₄ ∧ b₄.addNumber 4 event.time.nsec = .ok b₅ ∧
      b₅.Filled 92 (headerLen + eventBodySize event)
        (headerBytes (eventBodySize event) .notifyEvent ++ numberBytes 4 actionId ++
          numberBytes 4 event.serverId ++ stringHeader event.hostIdInServer.length 78 ++
          numberBytes 8 event.time.sec ++ numberBytes 4 event.time.nsec)
        (event.hostIdInServer ++ [0]) := by
  have hmax : UINT32_MAX = 2 ^ 32 - 1 := rfl
  have htotal := headerLen_add_eventBodySize event
  have hheader : headerLen = 6 := rfl
  obtain ⟨b₀, hrun₀, hf₀⟩ := filled_setHeader b fresh .notifyEvent (by decide)
    (show 92 ≤ headerLen + eventBodySize event by omega)
  obtain ⟨b₁, hrun₁, hf₁⟩ := hf₀.addNumber 4 actionId (by simp [headerLen])
  obtain ⟨b₂, hrun₂, hf₂⟩ := hf₁.addNumber 4 event.serverId (by simp [headerLen])
  obtain ⟨b₃, hrun₃, hf₃⟩ := hf₂.insertString event.hostIdInServer 92 78 rfl
    (by simp [headerLen]) (by omega) (by omega) (by simp [headerLen, sizeofStringHeader])
    (by omega) (by omega)
  obtain ⟨b₄, hrun₄, hf₄⟩ := hf₃.addNumber 8 event.time.sec
    (by simp [headerLen, sizeofStringHeader])
  obtain ⟨b₅, hrun₅, hf₅⟩ := hf₄.addNumber 4 event.time.nsec
    (by simp [headerLen, sizeofStringHeader])
  exact ⟨b₀, b₁, b₂, b₃, b₄, b₅, hrun₀, hrun₁, hrun₂, hrun₃, hrun₄, hrun₅, hf₅⟩

theorem setNotifyEventBody_eq (b : SmartBuffer) (fresh : Nat → UInt8)
    (hshort : ShortStrings event) (hsession : sessionId.length = sessionIdLen) :
    ∃ b', setNotifyEventBody b fresh actionId event sessionId = .ok b' ∧
      b'.content = headerBytes (eventBodySize event) .notifyEvent ++
        (eventFields actionId event sessionId ++ eventBodies event) ∧
      (∃ rest, b'.buf = headerBytes (eventBodySize event) .notifyEvent ++ rest) ∧
      b'.content.length = b'.watermark := by
  obtain ⟨hhost, hids, hsize⟩ := hshort
  have hmax : UINT32_MAX = 2 ^ 32 - 1 := rfl
  have htotal := headerLen_add_eventBodySize event
  have hheader : headerLen = 6 := rfl
  obtain ⟨b₀, b₁, b₂, b₃, b₄, b₅, hrun₀, hrun₁, hrun₂, hrun₃, hrun₄, hrun₅, hf₅⟩ :=
    filled_hostId actionId b fresh hsize
  obtain ⟨b₆, hrun₆, hf₆⟩ := hf₅.insertString event.id
    (92 + (event.hostIdInServer.length + 1)) (event.hostIdInServer.length + 59) (by simp)
    (by simp [headerLen, sizeofStringHeader]; omega) (by omega) (by omega)
    (by simp [headerLen, sizeofStringHeader]) (by omega) (by omega)
  obtain ⟨b₇, hrun₇, hf₇⟩ := hf₆.addNumber 2 event.type
    (by simp [headerLen, sizeofStringHeader])
  obtain ⟨b₈, hrun₈, hf₈⟩ := hf₇.insertString event.triggerId
    (92 + (event.hostIdInServer.length + 1) + (event.id.length + 1))
    (event.hostIdInServer.length + event.id.length + 50) (by simp; omega)
    (by simp [headerLen, sizeofStringHeader]; omega) (by omega) (by omega)
    (by simp [headerLen, sizeofStringHeader]) (by omega) (by omega)
  obtain ⟨b₉, hrun₉, hf₉⟩ := hf₈.addNumber 2 event.status
    (by simp [headerLen, sizeofStringHeader])
  obtain ⟨b₁₀, hrun₁₀, hf₁₀⟩ := hf₉.addNumber 2 event.severity
    (by simp [headerLen, sizeofStringHeader])
  have htake : sessionId.take sessionIdLen = sessionId := by rw [← hsession, List.take_length]
  obtain ⟨b₁₁, hrun₁₁, hf₁₁⟩ := hf₁₀.add sessionId
    (by simp [headerLen, sizeofStringHeader, hsession, sessionIdLen])
  have hcontent := hf₁₁.content_eq
    (by simp [headerLen, sizeofStringHeader, hsession, sessionIdLen])
  obtain ⟨middle, rest, hbuf, -⟩ := hf₁₁.buf
  refine ⟨b₁₁, ?_, ?_, ?_, hf₁₁.length_content⟩
  · have hmod : (eventBodyBaseLen + (event.hostIdInServer.length + 1) + (event.id.length + 1) +
        (event.triggerId.length + 1)) % 2 ^ 32 = eventBodySize event := Nat.mod_eq_of_lt hsize
    have hplace : headerLen + eventBodyBaseLen = 92 := rfl
    simp only [setNotifyEventBody, hmod, hplace, hrun₀, hrun₁, hrun₂, hrun₃, hrun₄, hrun₅, hrun₆,
      hrun₇, hrun₈, hrun₉, hrun₁₀, htake, hrun₁₁, bind, Except.bind]
  · rw [hcontent, eventFields, eventBodies]
    simp only [List.append_assoc]
  · rw [hbuf]
    simp only [List.append_assoc]
    exact ⟨_, rfl⟩

theorem slice_body {bytes str : Bytes} {pos : Nat} (before after : Bytes)
    (hbytes : before ++ (str ++ ([0] ++ after)) = bytes) (hpos : before.length = pos) :
    slice bytes pos str.length = some str := by
  rw [← hbytes, ← hpos]
  exact slice_middle before str _

theorem cString_of_notMem {str : Bytes} (hnul : 0 ∉ str) : cString str = str := by
  refine List.takeWhile_eq_self_iff.mpr fun c hmem => ?_
  rw [decide_eq_true_eq]
  rintro rfl
  exact hnul hmem

/-- The strings are such that a `const char *` can give them. -/
structure NoNul (event : NotifiedEvent) : Prop where
  hostId : 0 ∉ event.hostIdInServer
  id : 0 ∉ event.id
  triggerId : 0 ∉ event.triggerId

/-- What the numbers become on the way. -/
def receivedArg (actionId : Int) (event : NotifiedEvent) (sessionId : Bytes) :
    ResidentNotifyEventArg where
  actionId := (actionId % 256 ^ 4).toNat
  serverId := (event.serverId % 256 ^ 4).toNat
  hostIdInServer := event.hostIdInServer
  time := ⟨((event.time.sec % 256 ^ 8).toNat : Int).bmod (2 ^ 64), (event.time.nsec % 256 ^ 4).toNat⟩
  eventId := event.id
  eventType := (event.type % 256 ^ 2).toNat
  triggerId := event.triggerId
  triggerStatus := (event.status % 256 ^ 2).toNat
  triggerSeverity := (event.severity % 256 ^ 2).toNat
  sessionId := sessionId

theorem gotNotifyEventBodyCb_eq (hshort : ShortStrings event) (hnul : NoNul event)
    (hsession : sessionId.length = sessionIdLen) :
    gotNotifyEventBodyCb (received (eventFields actionId event sessionId ++ eventBodies event)) =
      some (receivedArg actionId event sessionId) := by
  obtain ⟨hhost, hids, hsize⟩ := hshort
  have hmax : UINT32_MAX = 2 ^ 32 - 1 := rfl
  have hlen : (eventFields actionId event sessionId).length = 86 := length_eventFields hsession
  have hbodySize : eventBodySize event = 86 + (event.hostIdInServer.length + 1) +
    (event.id.length + 1) + (event.triggerId.length + 1) := rfl
  generalize hbytes : eventFields actionId event sessionId ++ eventBodies event = bytes
  -- the bodies
  have hhostId : slice bytes 86 event.hostIdInServer.length = some event.hostIdInServer :=
    slice_body (eventFields actionId event sessionId) (event.id ++ [0] ++ (event.triggerId ++ [0]))
      (by simp [← hbytes, eventBodies]) hlen
  have hid : slice bytes (86 + (event.hostIdInServer.length + 1)) event.id.length =
      some event.id :=
    slice_body (eventFields actionId event sessionId ++ (event.hostIdInServer ++ [0]))
      (event.triggerId ++ [0]) (by simp [← hbytes, eventBodies])
      (by rw [List.length_append, List.length_append, hlen, List.length_singleton])
  have htriggerId : slice bytes (86 + (event.hostIdInServer.length + 1) + (event.id.length + 1))
      event.triggerId.length = some event.triggerId :=
    slice_body (eventFields actionId event sessionId ++
      (event.hostIdInServer ++ [0] ++ (event.id ++ [0]))) [] (by simp [← hbytes, eventBodies])
      (by simp only [List.length_append, hlen, List.length_singleton]; omega)
  -- the fields
  have hsplit := hbytes
  rw [eventFields] at hsplit
  simp only [List.append_assoc] at hsplit
  have ha₀ : (received bytes).Ahead bytes [] _ := ⟨rfl, hsplit.symm.trans (List.nil_append _).symm, rfl⟩
  obtain ⟨b₁, hrun₁, ha₁⟩ := ha₀.takeNumber
  obtain ⟨b₂, hrun₂, ha₂⟩ := ha₁.takeNumber
  obtain ⟨b₃, hrun₃, ha₃⟩ := ha₂.extractString hhostId (by simp) ⟨by omega, by simp, by simp⟩
  obtain ⟨b₄, hrun₄, ha₄⟩ := ha₃.takeNumber
  obtain ⟨b₅, hrun₅, ha₅⟩ := ha₄.takeNumber
  obtain ⟨b₆, hrun₆, ha₆⟩ := ha₅.extractString hid (by simp [sizeofStringHeader]; omega)
    ⟨by omega, by simp [sizeofStringHeader]; omega, by simp [sizeofStringHeader]; omega⟩
  obtain ⟨b₇, hrun₇, ha₇⟩ := ha₆.takeNumber
  obtain ⟨b₈, hrun₈, ha₈⟩ := ha₇.extractString htriggerId (by simp [sizeofStringHeader]; omega)
    ⟨by omega, by simp [sizeofStringHeader]; omega, by simp [sizeofStringHeader]; omega⟩
  obtain ⟨b₉, hrun₉, ha₉⟩ := ha₈.takeNumber
  obtain ⟨b₁₀, hrun₁₀, ha₁₀⟩ := ha₉.takeNumber
  obtain ⟨b₁₁, hrun₁₁, -⟩ := ha₁₀.takeBytes
  rw [hsession] at hrun₁₁
  refine Option.bind_eq_some_iff.mpr ⟨_, hrun₁, Option.bind_eq_some_iff.mpr ⟨_, hrun₂, ?_⟩⟩
  refine Option.bind_eq_some_iff.mpr ⟨_, hrun₃, Option.bind_eq_some_iff.mpr ⟨_, hrun₄, ?_⟩⟩
  refine Option.bind_eq_some_iff.mpr ⟨_, hrun₅, Option.bind_eq_some_iff.mpr ⟨_, hrun₆, ?_⟩⟩
  refine Option.bind_eq_some_iff.mpr ⟨_, hrun₇, Option.bind_eq_some_iff.mpr ⟨_, hrun₈, ?_⟩⟩
  refine Option.bind_eq_some_iff.mpr ⟨_, hrun₉, Option.bind_eq_some_iff.mpr ⟨_, hrun₁₀, ?_⟩⟩
  refine Option.bind_eq_some_iff.mpr ⟨_, hrun₁₁, ?_⟩
  dsimp only
  rw [cString_of_notMem hnul.hostId, cString_of_notMem hnul.id, cString_of_notMem hnul.triggerId]
  rfl

/-- The packet cannot be built if the event ID is too far from its header. -/
theorem setNotifyEventBody_of_far (b : SmartBuffer) (fresh : Nat → UInt8) (actionId : Int)
    (sessionId : Bytes) (hbody : eventBodySize event < 2 ^ 32) (hfar : 2 ^ 31 ≤ event.hostIdInServer.length + 59) :
    ∃ what, setNotifyEventBody b fresh actionId event sessionId = .error (.outOfRange what) := by
  have hmax : UINT32_MAX = 2 ^ 32 - 1 := rfl
  have htotal := headerLen_add_eventBodySize event
  have hheader : headerLen = 6 := rfl
  obtain ⟨b₀, b₁, b₂, b₃, b₄, b₅, hrun₀, hrun₁, hrun₂, hrun₃, hrun₄, hrun₅, hf₅⟩ :=
    filled_hostId actionId b fresh hbody
  obtain ⟨what, hrun₆⟩ := hf₅.insertString_of_far event.id
    (92 + (event.hostIdInServer.length + 1)) (by omega) (by omega) (by omega)
    (by simp [headerLen, sizeofStringHeader]; omega)
  have hmod : (eventBodyBaseLen + (event.hostIdInServer.length + 1) + (event.id.length + 1) +
      (event.triggerId.length + 1)) % 2 ^ 32 = eventBodySize event := Nat.mod_eq_of_lt hbody
  have hplace : headerLen + eventBodyBaseLen = 92 := rfl
  refine ⟨what, ?_⟩
  simp only [setNotifyEventBody, hmod, hplace, hrun₀, hrun₁, hrun₂, hrun₃, hrun₄, hrun₅, hrun₆,
    bind, Except.bind]

/-! ## Parameters -/

theorem parametersPacket_eq (fresh : Nat → UInt8) (modulePath moduleOption : Bytes)
    (hbody : 2 + modulePath.length + 2 + moduleOption.length < 2 ^ 32) :
    ∃ b', parametersPacket fresh modulePath moduleOption = .ok b' ∧
      b'.content = headerBytes (2 + modulePath.length + 2 + moduleOption.length) .parameters ++
        (numberBytes 2 modulePath.length ++ (modulePath ++
          (numberBytes 2 moduleOption.length ++ moduleOption))) ∧
      (∃ rest, b'.buf =
        headerBytes (2 + modulePath.length + 2 + moduleOption.length) .parameters ++ rest) ∧
      b'.content.length = b'.watermark := by
  generalize hsize : 2 + modulePath.length + 2 + moduleOption.length = bodySize at hbody ⊢
  have hheader : headerLen = 6 := rfl
  obtain ⟨b₀, hrun₀, hf₀⟩ := filled_setHeader .empty fresh .parameters
    (show headerLen ≤ headerLen + bodySize by omega) (Nat.le_refl _)
  obtain ⟨b₁, hrun₁, hf₁⟩ := hf₀.addNumber 2 modulePath.length
    (by rw [length_headerBytes]; omega)
  obtain ⟨b₂, hrun₂, hf₂⟩ := hf₁.add modulePath (by simp; omega)
  obtain ⟨b₃, hrun₃, hf₃⟩ := hf₂.addNumber 2 moduleOption.length (by simp; omega)
  obtain ⟨b₄, hrun₄, hf₄⟩ := hf₃.add moduleOption (by simp; omega)
  have hcontent := hf₄.content_eq (by simp; omega)
  obtain ⟨middle, rest, hbuf, -⟩ := hf₄.buf
  refine ⟨b₄, ?_, ?_, ?_, hf₄.length_content⟩
  · simp only [parametersPacket, hsize, Nat.mod_eq_of_lt hbody, addModulePath, addModuleOption,
      hrun₀, hrun₁, hrun₂, hrun₃, hrun₄, bind, Except.bind]
  · rw [hcontent]
    simp only [List.append_assoc, List.append_nil]
  · rw [hbuf]
    simp only [List.append_assoc]
    exact ⟨_, rfl⟩

theorem getParametersBodyCb_eq {modulePath moduleOption : Bytes} (hpath : modulePath.length < 2 ^ 16)
    (hoption : moduleOption.length < 2 ^ 16) :
    getParametersBodyCb (received (numberBytes 2 modulePath.length ++ (modulePath ++
      (numberBytes 2 moduleOption.length ++ moduleOption)))) = some (modulePath, moduleOption) := by
  have hpathLen : ((modulePath.length : Int) % 256 ^ 2).toNat = modulePath.length := by omega
  have hoptionLen : ((moduleOption.length : Int) % 256 ^ 2).toNat = moduleOption.length := by omega
  have ha₀ := ahead_received (numberBytes 2 modulePath.length ++ (modulePath ++
    (numberBytes 2 moduleOption.length ++ moduleOption)))
  obtain ⟨b₁, hrun₁, ha₁⟩ := ha₀.takeNumber
  obtain ⟨b₂, hrun₂, ha₂⟩ := ha₁.takeBytes
  obtain ⟨b₃, hrun₃, ha₃⟩ := ha₂.takeNumber
  rw [← List.append_nil moduleOption] at ha₃
  obtain ⟨b₄, hrun₄, -⟩ := ha₃.takeBytes
  simp only [getParametersBodyCb, hrun₁, hrun₂, hrun₃, hrun₄, hpathLen, hoptionLen,
    Option.bind_eq_bind, Option.bind_some, Option.pure_def]

/-! ## Both packets -/

/-- The numbers are of their types, and of the fields where these are narrower. -/
structure FitsWire (actionId : Int) (event : NotifiedEvent) : Prop where
  actionId : -2 ^ 31 ≤ actionId ∧ actionId < 2 ^ 31
  serverId : -2 ^ 31 ≤ event.serverId ∧ event.serverId < 2 ^ 31
  sec : -2 ^ 63 ≤ event.time.sec ∧ event.time.sec < 2 ^ 63
  nsec : 0 ≤ event.time.nsec ∧ event.time.nsec < 2 ^ 32
  type : 0 ≤ event.type ∧ event.type < 2 ^ 16
  status : 0 ≤ event.status ∧ event.status < 2 ^ 16
  severity : 0 ≤ event.severity ∧ event.severity < 2 ^ 16

/-- The IDs are the same as `int`. -/
structure SameFields (arg : ResidentNotifyEventArg) (actionId : Int) (event : NotifiedEvent)
    (sessionId : Bytes) : Prop where
  actionId : (arg.actionId : Int).bmod (2 ^ 32) = actionId
  serverId : (arg.serverId : Int).bmod (2 ^ 32) = event.serverId
  hostIdInServer : arg.hostIdInServer = event.hostIdInServer
  time : arg.time = event.time
  eventId : arg.eventId = event.id
  eventType : (arg.eventType : Int) = event.type
  triggerId : arg.triggerId = event.triggerId
  triggerStatus : (arg.triggerStatus : Int) = event.status
  triggerSeverity : (arg.triggerSeverity : Int) = event.severity
  sessionId : arg.sessionId = sessionId

theorem bmod_toNat_emod {width m : Nat} {val : Int} (hpow : (256 ^ width : Int) = m) (hpos : 0 < m)
    (hlow : -((m : Int) / 2) ≤ val) (hhigh : val < ((m : Int) + 1) / 2) :
    ((val % 256 ^ width).toNat : Int).bmod m = val := by
  rw [hpow, Int.toNat_of_nonneg (Int.emod_nonneg _ (by omega)), Int.emod_bmod]
  exact Int.bmod_eq_of_le (by omega) (by omega)

theorem sameFields_receivedArg (hfits : FitsWire actionId event) :
    SameFields (receivedArg actionId event sessionId) actionId event sessionId := by
  obtain ⟨haction, hserver, hsec, hnsec, htype, hstatus, hseverity⟩ := hfits
  refine ⟨?_, ?_, rfl, Timespec.ext ?_ ?_, rfl, ?_, rfl, ?_, ?_, rfl⟩
  all_goals dsimp only [receivedArg]
  · exact bmod_toNat_emod (by decide) (by decide) (by omega) (by omega)
  · exact bmod_toNat_emod (by decide) (by decide) (by omega) (by omega)
  · exact bmod_toNat_emod (by decide) (by decide) (by omega) (by omega)
  all_goals omega

/-- A packet whose body size is that of its body. -/
structure Sized (b : SmartBuffer) : Prop where
  watermark : b.content.length = b.watermark
  bodySize : getBodySize b = some (b.watermark - headerLen)

theorem sized_of {b : SmartBuffer} {bodySize : Nat} {type : PacketType} {body : Bytes}
    (hlt : bodySize < 2 ^ 32) (hbody : body.length = bodySize)
    (hcontent : b.content = headerBytes bodySize type ++ body)
    (hbuf : ∃ rest, b.buf = headerBytes bodySize type ++ rest)
    (hwatermark : b.content.length = b.watermark) :
    Sized b ∧ b.content.drop headerLen = body := by
  have hdrop : b.content.drop headerLen = body := by
    rw [hcontent, List.drop_left' (length_headerBytes _ _)]
  obtain ⟨rest, hbuf⟩ := hbuf
  refine ⟨⟨hwatermark, ?_⟩, hdrop⟩
  rw [getBodySize_eq hbuf hlt, ← hwatermark, hcontent, List.length_append, length_headerBytes,
    Nat.add_sub_cancel_left, hbody]

/-- The resident reads back the fields of an event, and the path and the option of its module. -/
theorem packets_roundTrip :
    (∀ b fresh actionId event sessionId, FitsWire actionId event → NoNul event →
      ShortStrings event → sessionId.length = sessionIdLen →
      ∃ b', setNotifyEventBody b fresh actionId event sessionId = .ok b' ∧ Sized b' ∧
        ∃ arg, gotNotifyEventBodyCb (received (b'.content.drop headerLen)) = some arg ∧
          SameFields arg actionId event sessionId) ∧
    ∀ fresh modulePath moduleOption, modulePath.length < 2 ^ 16 → moduleOption.length < 2 ^ 16 →
      ∃ b', parametersPacket fresh modulePath moduleOption = .ok b' ∧ Sized b' ∧
        getParametersBodyCb (received (b'.content.drop headerLen)) =
          some (modulePath, moduleOption) := by
  refine ⟨fun b fresh actionId event sessionId hfits hnul hshort hsession => ?_,
    fun fresh modulePath moduleOption hpath hoption => ?_⟩
  · obtain ⟨b', hrun, hcontent, hbuf, hwatermark⟩ := setNotifyEventBody_eq b fresh hshort hsession
    have hlength : (eventFields actionId event sessionId ++ eventBodies event).length =
        eventBodySize event := by
      rw [length_eventBodies, length_eventFields hsession, eventBodySize]
    obtain ⟨hsized, hbody⟩ := sized_of hshort.body hlength hcontent hbuf hwatermark
    refine ⟨b', hrun, hsized, receivedArg actionId event sessionId, ?_, sameFields_receivedArg hfits⟩
    rw [hbody]
    exact gotNotifyEventBodyCb_eq hshort hnul hsession
  · obtain ⟨b', hrun, hcontent, hbuf, hwatermark⟩ := parametersPacket_eq fresh
      modulePath moduleOption (by omega)
    have hlength : (numberBytes 2 modulePath.length ++ (modulePath ++
        (numberBytes 2 moduleOption.length ++ moduleOption))).length =
        2 + modulePath.length + 2 + moduleOption.length := by
      simp only [List.length_append, length_numberBytes]
      omega
    obtain ⟨hsized, hbody⟩ := sized_of (by omega) hlength hcontent hbuf hwatermark
    refine ⟨b', hrun, hsized, ?_⟩
    rw [hbody]
    exact getParametersBodyCb_eq hpath hoption

/-- An event of a host with an ID of so many characters. -/
def eventOfHost (length : Nat) : NotifiedEvent where
  serverId := 1
  hostIdInServer := List.replicate length 97
  time := ⟨0, 0⟩
  id := []
  type := 0
  triggerId := []
  status := 0
  severity := 0

theorem noNul_eventOfHost (length : Nat) : NoNul (eventOfHost length) := by
  refine ⟨fun hmem => ?_, List.not_mem_nil, List.not_mem_nil⟩
  have hzero : (0 : UInt8) = 97 := List.eq_of_mem_replicate hmem
  exact absurd hzero (by decide)

theorem eventBodySize_eventOfHost (length : Nat) :
    eventBodySize (eventOfHost length) = length + 89 := by
  have hhost : (eventOfHost length).hostIdInServer.length = length := List.length_replicate
  have hid : (eventOfHost length).id.length = 0 := rfl
  have htrigger : (eventOfHost length).triggerId.length = 0 := rfl
  have hbase : eventBodyBaseLen = 86 := rfl
  rw [eventBodySize, hhost, hid, htrigger, hbase]
  omega

theorem packets_roundTrip_short_host_id :
    (∃ b', setNotifyEventBody .empty (fun _ => 0) 1 (eventOfHost 1) (List.replicate 36 97) = .ok b' ∧
      Sized b' ∧ ∃ arg, gotNotifyEventBodyCb (received (b'.content.drop headerLen)) = some arg ∧
        SameFields arg 1 (eventOfHost 1) (List.replicate 36 97)) ∧
    ∃ b', parametersPacket (fun _ => 0) [97] [] = .ok b' ∧ Sized b' ∧
      getParametersBodyCb (received (b'.content.drop headerLen)) = some ([97], []) :=
  ⟨packets_roundTrip.1 .empty (fun _ => 0) 1 (eventOfHost 1) (List.replicate 36 97)
      (by constructor <;> decide) (by constructor <;> decide) (by constructor <;> decide) (by decide),
    packets_roundTrip.2 (fun _ => 0) [97] [] (by decide) (by decide)⟩

/-- A host ID of 2 GiB leaves the event ID too far from its header. -/
theorem long_hostId_not_packed :
    FitsWire 1 (eventOfHost (2 ^ 31)) ∧ NoNul (eventOfHost (2 ^ 31)) ∧
    ¬∃ b', setNotifyEventBody .empty (fun _ => 0) 1 (eventOfHost (2 ^ 31))
      (List.replicate sessionIdLen 97) = .ok b' := by
  refine ⟨by constructor <;> decide, noNul_eventOfHost _, ?_⟩
  rintro ⟨b', hrun⟩
  have hlength : (eventOfHost (2 ^ 31)).hostIdInServer.length = 2 ^ 31 := List.length_replicate
  have hsize := eventBodySize_eventOfHost (2 ^ 31)
  obtain ⟨what, hfar⟩ := setNotifyEventBody_of_far .empty (fun _ => 0) 1
    (List.replicate sessionIdLen 97) (show eventBodySize (eventOfHost (2 ^ 31)) < 2 ^ 32 by omega)
    (by omega)
  rw [hfar] at hrun
  cases hrun

end Hatohol.ResidentCommunicator

import Hatohol.FaceRest

/-!
# Which requests the front end survives

The name of the callback is the one thing of a request that is answered with an exception.
-/

namespace Hatohol

open CBytes

/-! ## Words -/

def isDigitByte (byte : UInt8) : Bool := 48 ≤ byte && byte ≤ 57

/-- [A-Za-z0-9_] -/
def isWordByte (byte : UInt8) : Bool :=
  (65 ≤ byte && byte ≤ 90) || (97 ≤ byte && byte ≤ 122) || isDigitByte byte || byte == 95

/-- A word that does not begin with a digit. -/
def isMethodName (name : List UInt8) : Bool :=
  name.head?.any (!isDigitByte ·) && name.all isWordByte

namespace Utils

/-- A byte that has the sign bit is looked up in front of the table. -/
theorem lookupCode_charCode (byte : UInt8) :
    lookupCode (charCode byte) =
      if byte < 128 then .ok (isWordByte byte) else .error (.outOfTable (charCode byte)) := by
  have hall : ∀ n : Nat, n < 256 → lookupCode (charCode (UInt8.ofNat n)) =
      if UInt8.ofNat n < 128 then .ok (isWordByte (UInt8.ofNat n))
      else .error (.outOfTable (charCode (UInt8.ofNat n))) := by
    decide +kernel
  have hbyte := hall byte.toNat byte.toNat_lt
  rwa [UInt8.ofNat_toNat] at hbyte

theorem charCode_digit (byte : UInt8) :
    (charCode byte ≥ 48 ∧ charCode byte ≤ 57) ↔ isDigitByte byte := by
  have hall : ∀ n : Nat, n < 256 →
      ((charCode (UInt8.ofNat n) ≥ 48 ∧ charCode (UInt8.ofNat n) ≤ 57) ↔
        isDigitByte (UInt8.ofNat n) = true) := by
    decide +kernel
  have hbyte := hall byte.toNat byte.toNat_lt
  rwa [UInt8.ofNat_toNat] at hbyte

theorem lt_of_isWordByte {byte : UInt8} (h : isWordByte byte) : byte < 128 := by
  simp only [isWordByte, isDigitByte, Bool.or_eq_true, Bool.and_eq_true, decide_eq_true_eq,
    beq_iff_eq, UInt8.le_iff_toNat_le, ← UInt8.toNat_inj] at h
  rw [UInt8.lt_iff_toNat_lt]
  simp at h ⊢
  omega

theorem validateCodes_eq_none_iff (name : List UInt8) (i : Nat) :
    validateCodes name i = .ok none ↔ name.all isWordByte := by
  induction name generalizing i with
  | nil => simp [validateCodes]
  | cons byte name ih =>
    rw [validateCodes, lookupCode_charCode]
    by_cases hword : isWordByte byte
    · rw [if_pos (lt_of_isWordByte hword), hword]
      simp [ih, hword]
    · rw [Bool.not_eq_true] at hword
      refine iff_of_false ?_ (by simp [hword])
      by_cases hascii : byte < 128
      · simp [hascii, hword]
      · simp [hascii]

theorem validateJSMethodName_eq_none_iff (name : List UInt8) :
    validateJSMethodName name = .ok none ↔ isMethodName name := by
  unfold validateJSMethodName isMethodName
  cases name with
  | nil => simp
  | cons first name =>
    by_cases hdigit : isDigitByte first
    · simp [(charCode_digit first).mpr hdigit, hdigit]
    · have hcode := mt (charCode_digit first).mp hdigit
      simp only [hcode, if_false, validateCodes_eq_none_iff, List.head?_cons, Option.any_some]
      simp [hdigit]

end Utils

/-! ## Requests -/

namespace FaceRest

/-- Either one error is in the response, the job is gone and nothing has been queued, or the job is
    queued once with a callback that is a word, if any. -/
def Handled (face : FaceRest) (result : Except RestFailure (FaceRest × ResourceHandler)) : Prop :=
  ∃ face' job, result = .ok (face', job) ∧
    (((∃ error, job.errors = [error]) ∧ job.replyIsPrepared ∧ job.usedCount = 0 ∧ face' = face) ∨
      (face'.restJobQueue = face.restJobQueue ++ [job] ∧ job.usedCount = 1 ∧
        (job.jsonpCallbackName.bytes = [] ∨ isMethodName job.jsonpCallbackName.bytes)))

/-- What `parseRequest` leaves to `queueRestJob` if nothing goes wrong. -/
def Parsed : Except RestFailure (ResourceHandler × Bool) → Prop
  | .error _ => False
  | .ok (job, false) => (∃ error, job.errors = [error]) ∧ job.replyIsPrepared ∧ job.usedCount = 1
  | .ok (job, true) => job.usedCount = 1 ∧
      (job.jsonpCallbackName.bytes = [] ∨ isMethodName job.jsonpCallbackName.bytes)

section Parsing

variable (face : FaceRest) (getSession : CBytes → Option UserIdType) (request : RestRequest)

/-- The job that is made for a request, after parsing. -/
def parsedJob : Except RestFailure (ResourceHandler × Bool) :=
  (ResourceHandler.new (request.path.getD .empty) request.parameters).parseRequest getSession
    request.sessionId

variable {face getSession request}

theorem handled_of_parsed (h : Parsed (parsedJob getSession request)) :
    face.Handled (face.queueRestJob getSession request) := by
  unfold parsedJob at h
  unfold queueRestJob
  split
  next e herror =>
    rw [herror] at h
    exact h.elim
  next job hrefused =>
    rw [hrefused] at h
    obtain ⟨herrors, hprepared, hused⟩ := h
    refine ⟨face, job.unref, rfl, Or.inl ⟨herrors, hprepared, ?_, rfl⟩⟩
    simp [ResourceHandler.unref, hused]
  next job hqueued =>
    rw [hqueued] at h
    obtain ⟨hused, hname⟩ := h
    exact ⟨_, _, rfl, Or.inr ⟨rfl, hused, hname⟩⟩

theorem not_handled_of_error {e : RestFailure} (h : parsedJob getSession request = .error e) :
    ¬ face.Handled (face.queueRestJob getSession request) := by
  unfold parsedJob at h
  rw [queueRestJob, h]
  rintro ⟨face', job, hresult, -⟩
  cases hresult

end Parsing

/-- The name is read unless it makes an exception or a look beside the table. -/
theorem getJSONPCallbackName_jsonp {job : ResourceHandler} (hjsonp : job.formatType = .jsonp) :
    (∃ name, (job.query (ascii "callback") = some name ∧ isMethodName name.bytes) ∧
        job.getJSONPCallbackName = .ok name) ∨
      ((∃ e, job.getJSONPCallbackName = .error e) ∧
        ¬ ∃ name, job.query (ascii "callback") = some name ∧ isMethodName name.bytes) := by
  unfold ResourceHandler.getJSONPCallbackName
  rw [if_neg (not_not_intro hjsonp)]
  cases hcallback : job.query (ascii "callback") with
  | none => exact Or.inr ⟨⟨_, rfl⟩, by simp⟩
  | some name =>
    by_cases hname : isMethodName name.bytes
    · refine Or.inl ⟨name, ⟨rfl, hname⟩, ?_⟩
      simp [(Utils.validateJSMethodName_eq_none_iff name.bytes).mpr hname]
    · refine Or.inr ⟨?_, by simpa using hname⟩
      have hinvalid := mt (Utils.validateJSMethodName_eq_none_iff name.bytes).mp hname
      cases hvalidate : Utils.validateJSMethodName name.bytes with
      | error e => exact ⟨e, by simp [hvalidate]⟩
      | ok message =>
        cases message with
        | some message =>
          refine ⟨.exception ("Invalid callback name: " ++ message), ?_⟩
          simp [hvalidate]
        | none => exact absurd hvalidate hinvalid

theorem getJSONPCallbackName_not_jsonp {job : ResourceHandler} (hjsonp : job.formatType ≠ .jsonp) :
    job.getJSONPCallbackName = .ok .empty := by
  rw [ResourceHandler.getJSONPCallbackName, if_pos hjsonp]

theorem lookup_formatTypeMap_eq_jsonp (format : List UInt8) :
    formatTypeMap.lookup format = some .jsonp ↔ format = ascii "jsonp" := by
  constructor
  · intro hlookup
    obtain ⟨before, after, hmap, -⟩ := List.lookup_eq_some_iff.mp hlookup
    have hmem : (format, FormatType.jsonp) ∈ formatTypeMap := by
      rw [hmap]
      simp
    simpa [formatTypeMap] using hmem
  · rintro rfl
    rfl

theorem lookup_mimeTypeMap (formatType : FormatType) :
    ∃ mimeType, mimeTypeMap.lookup formatType = some mimeType := by
  cases formatType <;> exact ⟨_, rfl⟩

/-- What is left when the type of the format is known. -/
theorem parseFormat_of_type {job typed : ResourceHandler}
    (h : job.parseFormatType = (typed, true)) (hused : typed.usedCount = 1) :
    (typed.formatType ≠ .jsonp ∧ Parsed job.parseFormat) ∨
      (Parsed job.parseFormat ∧
        ∃ name, typed.query (ascii "callback") = some name ∧ isMethodName name.bytes) ∨
      (typed.formatType = .jsonp ∧ (∃ e, job.parseFormat = .error e) ∧
        ¬ ∃ name, typed.query (ascii "callback") = some name ∧ isMethodName name.bytes) := by
  obtain ⟨mimeType, hmimeType⟩ := lookup_mimeTypeMap typed.formatType
  unfold ResourceHandler.parseFormat
  simp only [h, hmimeType]
  by_cases hjsonp : typed.formatType = .jsonp
  · rcases getJSONPCallbackName_jsonp hjsonp with ⟨name, hname, hcallback⟩ | ⟨⟨e, he⟩, hno⟩
    · rw [hcallback]
      exact Or.inr (Or.inl ⟨⟨hused, Or.inr hname.2⟩, name, hname⟩)
    · rw [he]
      exact Or.inr (Or.inr ⟨hjsonp, ⟨e, rfl⟩, hno⟩)
  · rw [getJSONPCallbackName_not_jsonp hjsonp]
    exact Or.inl ⟨hjsonp, hused, Or.inl rfl⟩

/-- The callback is given if the format is JSONP, and none but a word. -/
def HasCallbackName (query : RestQuery) : Prop :=
  ∀ format, query (ascii "fmt") = some format → format.bytes = ascii "jsonp" →
    ∃ name, query (ascii "callback") = some name ∧ isMethodName name.bytes

/-- A job is parsed exactly if the callback is right. -/
theorem parseFormat_cases (job : ResourceHandler) (herrors : job.errors = [])
    (hused : job.usedCount = 1) :
    (Parsed job.parseFormat ∧ HasCallbackName job.query) ∨
      ((∃ e, job.parseFormat = .error e) ∧ ¬ HasCallbackName job.query) := by
  cases hfmt : job.query (ascii "fmt") with
  | none =>
    have htyped : job.parseFormatType =
        ({ job with formatString := .empty, formatType := .json }, true) := by
      simp only [ResourceHandler.parseFormatType, hfmt]
    have hcallback : HasCallbackName job.query := by
      intro format hformat
      cases hfmt.symm.trans hformat
    rcases parseFormat_of_type htyped hused with ⟨-, h⟩ | ⟨h, -⟩ | ⟨hjsonp, -⟩
    · exact Or.inl ⟨h, hcallback⟩
    · exact Or.inl ⟨h, hcallback⟩
    · cases hjsonp
  | some format =>
    have hjsonp : HasCallbackName job.query ↔ (formatTypeMap.lookup format.bytes = some .jsonp →
        ∃ name, job.query (ascii "callback") = some name ∧ isMethodName name.bytes) := by
      rw [lookup_formatTypeMap_eq_jsonp]
      constructor
      · exact fun h => h format hfmt
      · intro h format' hformat'
        obtain rfl := Option.some.inj (hfmt.symm.trans hformat')
        exact h
    rw [hjsonp]
    cases hlookup : formatTypeMap.lookup format.bytes with
    | none =>
      have hrefused : job.parseFormatType = ({ job with formatString := format }, false) := by
        simp only [ResourceHandler.parseFormatType, hfmt, hlookup]
      refine Or.inl ⟨?_, nofun⟩
      simp only [ResourceHandler.parseFormat, hrefused]
      refine ⟨⟨.unsupportedFormat format, ?_⟩, rfl, hused⟩
      simp [ResourceHandler.replyError, herrors]
    | some formatType =>
      have htyped : job.parseFormatType =
          ({ job with formatString := format, formatType := formatType }, true) := by
        simp only [ResourceHandler.parseFormatType, hfmt, hlookup]
      rw [Option.some_inj]
      rcases parseFormat_of_type htyped hused with ⟨hother, h⟩ | ⟨h, hname⟩ | ⟨heq, h, hno⟩
      · exact Or.inl ⟨h, fun heq => absurd heq hother⟩
      · exact Or.inl ⟨h, fun _ => hname⟩
      · exact Or.inr ⟨h, fun hname => hno (hname heq)⟩

end FaceRest

/-- No session belongs to the id, or there is no id and the path is none that goes without. -/
def RestRequest.isUnauthorized (getSession : CBytes → Option UserIdType) (request : RestRequest) :
    Bool :=
  let sessionId := request.sessionId.getD .empty
  let path := request.path.getD .empty
  if sessionId = .empty then
    ¬ (path.bytes = ascii "/login" ∨ ResourceHandler.isTestPath path)
  else (getSession sessionId).isNone

namespace FaceRest

/-- The job before it is known whose it is. -/
def unparsedJob (request : RestRequest) : ResourceHandler :=
  { ResourceHandler.new (request.path.getD .empty) request.parameters with
    sessionId := request.sessionId.getD .empty }

theorem findUser_eq_none_iff (getSession : CBytes → Option UserIdType) (request : RestRequest) :
    ResourceHandler.findUser getSession (unparsedJob request) = none ↔
      request.isUnauthorized getSession := by
  simp only [ResourceHandler.findUser, RestRequest.isUnauthorized, unparsedJob, ResourceHandler.new]
  by_cases hsession : request.sessionId.getD .empty = .empty
  · by_cases hpath : (request.path.getD .empty).bytes = ascii "/login" ∨
        ResourceHandler.isTestPath (request.path.getD .empty) = true
    · simp [hsession, hpath]
    · simp [hsession, hpath]
  · simp [hsession]

section Users

variable {getSession : CBytes → Option UserIdType} {request : RestRequest}

theorem parsed_of_no_user
    (h : ResourceHandler.findUser getSession (unparsedJob request) = none) :
    Parsed (parsedJob getSession request) := by
  unfold unparsedJob at h
  simp only [parsedJob, ResourceHandler.parseRequest, h]
  exact ⟨⟨.notFoundSessionId, rfl⟩, rfl, rfl⟩

theorem parsedJob_of_user {userId : UserIdType}
    (h : ResourceHandler.findUser getSession (unparsedJob request) = some userId) :
    parsedJob getSession request =
      ResourceHandler.parseFormat { unparsedJob request with userId := userId } := by
  unfold unparsedJob at h
  simp only [parsedJob, ResourceHandler.parseRequest, h]
  rfl

end Users

/-- (FaceRest.cc:459-499) The front end survives a request unless it gets as far as to a callback for
    JSONP that is missing or no word. -/
theorem queueRestJob_handled_iff (face : FaceRest) (getSession : CBytes → Option UserIdType)
    (request : RestRequest) :
    face.Handled (face.queueRestJob getSession request) ↔
      request.isUnauthorized getSession ∨ HasCallbackName request.parameters := by
  rw [← findUser_eq_none_iff]
  cases huser : ResourceHandler.findUser getSession (unparsedJob request) with
  | none => exact iff_of_true (handled_of_parsed (parsed_of_no_user huser)) (Or.inl rfl)
  | some userId =>
    have hjob := parsedJob_of_user huser
    rcases parseFormat_cases { unparsedJob request with userId := userId } rfl rfl with
      ⟨hparsed, hcallback⟩ | ⟨⟨e, he⟩, hcallback⟩
    · rw [← hjob] at hparsed
      exact iff_of_true (handled_of_parsed hparsed) (Or.inr hcallback)
    · refine iff_of_false (not_handled_of_error (hjob.trans he)) ?_
      rintro (hnone | hcallback')
      · cases hnone
      · exact hcallback hcallback'

/-! A client without a session asks for the test page in the format JSONP. -/

def testPageRequest (callback : Option CBytes) : RestRequest where
  method := ⟨ascii "GET", by decide⟩
  path := some ⟨ascii "/test", by decide⟩
  sessionId := none
  query := some fun key =>
    if key = ascii "fmt" then some ⟨ascii "jsonp", by decide⟩
    else if key = ascii "callback" then callback else none
  form := fun _ => none

/-- Without a callback the exception leaves the handler; a callback that is not in ASCII is looked up
    in front of the table. -/
theorem queueRestJob_test_page :
    ¬ (FaceRest.mk []).Handled ((FaceRest.mk []).queueRestJob (fun _ => none) (testPageRequest none)) ∧
      ¬ (FaceRest.mk []).Handled ((FaceRest.mk []).queueRestJob (fun _ => none)
        (testPageRequest (some ⟨[0xe3, 0x81, 0x82], by decide⟩))) := by
  have hnone : parsedJob (fun _ => none) (testPageRequest none) =
      .error (.exception "Not found parameter: callback") := by rfl
  have hbytes : parsedJob (fun _ => none)
      (testPageRequest (some ⟨[0xe3, 0x81, 0x82], by decide⟩)) = .error (.outOfTable (-29)) :=
        by rfl
  exact ⟨not_handled_of_error hnone, not_handled_of_error hbytes⟩

end FaceRest

end Hatohol

import Hatohol.DBTablesAction

/-!
# Requests at the REST front end

How a request becomes a job for the workers (server/src/FaceRest.cc:459-499, 640-775 and
server/common/Utils.cc:41-59, 105-127). All of this runs in the main loop of the server. Strings of
a request are bytes here, because the client may send any but NUL.
-/

namespace Hatohol

structure CBytes where
  bytes : List UInt8
  noNul : 0 ∉ bytes
  deriving DecidableEq, Repr

namespace CBytes

def empty : CBytes := ⟨[], by simp⟩

/-- What a C string with ASCII characters is. -/
def ascii (s : String) : List UInt8 :=
  s.toList.map fun c => UInt8.ofNat c.toNat

end CBytes

open CBytes

/-! ## Names of methods -/

/-- The exception leaves the handler, or memory beside the table is read. -/
inductive RestFailure where
  | exception (message : String)
  | outOfTable (index : Int)
  deriving DecidableEq, Repr

namespace Utils

/-- SIZE_JS_METHOD_VALID_CODE_MAP -/
def sizeJsMethodValidCodeMap : Nat := 0x100

def setTrue (map : Array Bool) (first last : Char) : Array Bool :=
  (List.range' first.toNat (last.toNat + 1 - first.toNat)).foldl (fun map i => map.set! i true) map

/-- (Utils.cc:48-59) -/
def jsMethodValidCodeMap : Array Bool :=
  let map := Array.replicate sizeJsMethodValidCodeMap false
  let map := setTrue map 'A' 'Z'
  let map := setTrue map 'a' 'z'
  let map := setTrue map '0' '9'
  setTrue map '_' '_'

/-- `int code = name[i]`, where `char` has a sign. -/
def charCode (byte : UInt8) : Int := byte.toInt8.toInt

def lookupCode (code : Int) : Except RestFailure Bool :=
  if 0 ≤ code then
    match jsMethodValidCodeMap[code.toNat]? with
    | some valid => .ok valid
    | none => .error (.outOfTable code)
  else .error (.outOfTable code)

/-- `%02x` -/
def hexCode (code : Int) : String :=
  let digits := Nat.toDigits 16 code.toNat
  String.ofList (if digits.length < 2 then '0' :: digits else digits)

def validateCodes : List UInt8 → Nat → Except RestFailure (Option String)
  | [], _ => .ok none
  | byte :: name, i =>
      match lookupCode (charCode byte) with
      | .error e => .error e
      | .ok true => validateCodes name (i + 1)
      | .ok false =>
          .ok (some ("invalid character code: " ++ hexCode (charCode byte) ++ " at index: " ++
            toString i))

/-- (Utils.cc:105-127) The result is the message of an error, if there is one. -/
def validateJSMethodName (name : List UInt8) : Except RestFailure (Option String) :=
  match name with
  | [] => .ok (some "empty name.")
  | first :: _ =>
      if charCode first ≥ 48 ∧ charCode first ≤ 57 then .ok (some "begins from a number.")
      else validateCodes name 0

end Utils

/-! ## Jobs -/

inductive FormatType where
  | html
  | json
  | jsonp
  deriving DecidableEq, Repr

/-- (FaceRest.cc:246-248) -/
def formatTypeMap : List (List UInt8 × FormatType) :=
  [(ascii "html", .html), (ascii "json", .json), (ascii "jsonp", .jsonp)]

/-- (FaceRest.cc:250-252) -/
def mimeTypeMap : List (FormatType × String) :=
  [(.html, "text/html"), (.json, "application/json"), (.jsonp, "text/javascript")]

abbrev RestQuery := List UInt8 → Option CBytes

/-- `query` is in the URL and `form` in the body. -/
structure RestRequest where
  method : CBytes
  path : Option CBytes
  sessionId : Option CBytes
  query : Option RestQuery
  form : RestQuery

inductive RestError where
  | notFoundSessionId
  | unsupportedFormat (format : CBytes)
  deriving DecidableEq, Repr

/-- What is read of a request, the errors that were written into the response, and how often the job
    is referred to. -/
structure ResourceHandler where
  path : CBytes
  query : RestQuery
  sessionId : CBytes
  userId : UserIdType
  formatString : CBytes
  formatType : FormatType
  mimeType : String
  jsonpCallbackName : CBytes
  errors : List RestError
  replyIsPrepared : Bool
  isPaused : Bool
  usedCount : Nat

namespace ResourceHandler

/-- `factory->createHandler()`; the type of the format is not set yet. -/
def new (path : CBytes) (query : RestQuery) : ResourceHandler where
  path := path
  query := query
  sessionId := .empty
  userId := invalidUserId
  formatString := .empty
  formatType := .json
  mimeType := ""
  jsonpCallbackName := .empty
  errors := []
  replyIsPrepared := false
  isPaused := false
  usedCount := 1

/-- (FaceRest.cc:869-901) -/
def replyError (job : ResourceHandler) (error : RestError) : ResourceHandler :=
  { job with errors := job.errors ++ [error], replyIsPrepared := true }

/-- (FaceRest.cc:679-694) -/
def getJSONPCallbackName (job : ResourceHandler) : Except RestFailure CBytes :=
  if job.formatType ≠ .jsonp then .ok .empty
  else
    match job.query (ascii "callback") with
    | none => .error (.exception "Not found parameter: callback")
    | some callbackName =>
        match Utils.validateJSMethodName callbackName.bytes with
        | .error e => .error e
        | .ok (some errMsg) => .error (.exception ("Invalid callback name: " ++ errMsg))
        | .ok none => .ok callbackName

/-- (FaceRest.cc:696-716) -/
def parseFormatType (job : ResourceHandler) : ResourceHandler × Bool :=
  match job.query (ascii "fmt") with
  | none => ({ job with formatString := .empty, formatType := .json }, true)
  | some format =>
      match formatTypeMap.lookup format.bytes with
      | none => ({ job with formatString := format }, false)
      | some formatType => ({ job with formatString := format, formatType := formatType }, true)

def isTestPath (path : CBytes) : Bool :=
  (ascii "/test").isPrefixOf path.bytes

/-- The part of `parseRequest` that finds the user, or nobody (FaceRest.cc:720-743). -/
def findUser (getSession : CBytes → Option UserIdType) (job : ResourceHandler) :
    Option UserIdType :=
  if job.sessionId = .empty then
    if job.path.bytes = ascii "/login" ∨ isTestPath job.path then some invalidUserId else none
  else getSession job.sessionId

/-- The part of `parseRequest` after that (FaceRest.cc:754-774). -/
def parseFormat (job : ResourceHandler) : Except RestFailure (ResourceHandler × Bool) :=
  match parseFormatType job with
  | (job, false) => .ok (job.replyError (.unsupportedFormat job.formatString), false)
  | (job, true) =>
      match mimeTypeMap.lookup job.formatType with
      -- the type and the path follow in the message
      | none => .error (.exception "ASSERTION failed: [mimeIt != g_mimeTypeMap.end()]")
      | some mimeType =>
          match getJSONPCallbackName job with
          | .error e => .error e
          | .ok callbackName =>
              .ok ({ job with mimeType := mimeType, jsonpCallbackName := callbackName }, true)

/-- (FaceRest.cc:718-775) -/
def parseRequest (getSession : CBytes → Option UserIdType) (sessionId : Option CBytes)
    (job : ResourceHandler) : Except RestFailure (ResourceHandler × Bool) :=
  let job := { job with sessionId := sessionId.getD .empty }
  match findUser getSession job with
  | none => .ok (job.replyError .notFoundSessionId, false)
  | some userId => parseFormat { job with userId := userId }

def unref (job : ResourceHandler) : ResourceHandler :=
  { job with usedCount := job.usedCount - 1 }

end ResourceHandler

/-- `strcasecmp` -/
def casecmp (s t : List UInt8) : Bool :=
  let toLower := fun byte : UInt8 => if 65 ≤ byte ∧ byte ≤ 90 then byte + 32 else byte
  s.map toLower == t.map toLower

/-- The parameters that are read: those of the body of a POST or a PUT. -/
def RestRequest.parameters (request : RestRequest) : RestQuery :=
  if casecmp request.method.bytes (ascii "POST") ∨ casecmp request.method.bytes (ascii "PUT") then
    request.form
  else request.query.getD fun _ => none

/-- The jobs that wait for a worker. -/
structure FaceRest where
  restJobQueue : List ResourceHandler

/-- (FaceRest.cc:459-499) There is always a worker thread (`asyncMode` is never cleared). The job is
    what its creator has left of it at the end. -/
def FaceRest.queueRestJob (face : FaceRest) (getSession : CBytes → Option UserIdType)
    (request : RestRequest) : Except RestFailure (FaceRest × ResourceHandler) :=
  match (ResourceHandler.new (request.path.getD .empty) request.parameters).parseRequest getSession
      request.sessionId with
  | .error e => .error e
  | .ok (job, false) => .ok (face, job.unref)
  | .ok (job, true) =>
      let job := { job with isPaused := true }
      .ok (⟨face.restJobQueue ++ [job]⟩, job)

end Hatohol

import Mathlib.Data.List.Lex
import Mathlib.Data.String.Basic
import MediaHub.Http.SigV4
import MediaHub.Store.Database
import MediaHub.Text.Result

namespace MediaHub.Http.Hmac

open MediaHub.Core
open MediaHub.Store (RepositoryError)
open Result

structure ApiError where
  status : Nat
  code : String
  message : String
deriving DecidableEq

namespace ApiError

def badRequest (message : String) : ApiError := ⟨400, "invalid_request", message⟩

def unauthorized : ApiError := ⟨401, "unauthorized", "authentication is required"⟩

def unauthorizedWithMessage (message : String) : ApiError := ⟨401, "unauthorized", message⟩

def replayDetected : ApiError := ⟨401, "replay_detected", "HMAC nonce has already been used"⟩

def rangeNotSatisfiable : ApiError := ⟨416, "invalid_range", "range is not satisfiable"⟩

def rateLimited : ApiError :=
  ⟨429, "rate_limited", "too many authentication attempts; try again later"⟩

def unavailable (message : String) : ApiError := ⟨503, "unavailable", message⟩

def fromAccessKeyCipher : ApiError := unavailable "access key verification is unavailable"

def fromRepository : RepositoryError → ApiError
  | .notFound => ⟨404, "not_found", "resource not found"⟩
  | .conflict => ⟨409, "conflict", "resource already exists or changed"⟩
  | .quotaExceeded => ⟨413, "quota_exceeded", "application quota is exhausted"⟩
  | .invariant _ | .unavailable _ => unavailable "storage metadata is unavailable"

end ApiError

inductive HmacError where
  | expired
  | invalidSignature
deriving DecidableEq

def ApiError.fromHmac : HmacError → ApiError
  | .expired => unauthorizedWithMessage "HMAC signature has expired"
  | .invalidSignature => unauthorizedWithMessage "HMAC signature is invalid"

/-- Digests and the cipher of the stored secrets. -/
class ControlCrypto where
  sha256 : List UInt8 → List UInt8
  /-- The HMAC-SHA-256 under a secret. -/
  hmacSha256 : List UInt8 → List UInt8 → List UInt8
  decrypt : Text → Nat → Option (List UInt8)

/-- The date and query formats of the control plane. -/
class ControlText where
  parseFromRfc3339 : Text → Option Time
  toRfc3339Secs : Time → Text
  /-- `url::form_urlencoded::Serializer`. -/
  serializeForm : List (Text × Text) → Text

def maxRequestBytes : Nat := 20 * 1024 * 1024

/-- Seconds. -/
def maxSignatureAge : Int := 5 * 60

structure HmacRequest where
  method : Text
  uri : Uri
  headers : HeaderMap
  body : List UInt8

structure CanonicalRequest where
  method : Text
  path : Text
  query : List (Text × List Text)
  headers : List (Text × Text)
  bodySha256 : Text
  timestamp : Time
  nonce : Text
  idempotencyKey : Option Text
deriving DecidableEq

def utf8 (s : Text) : List UInt8 := (String.ofList s).toUTF8.toList

/-- `hex::encode`. -/
def hexEncode (bytes : List UInt8) : Text :=
  bytes.flatMap fun byte => [Nat.digitChar (byte.toNat / 16), Nat.digitChar (byte.toNat % 16)]

section Parse

/-- Adds a value under its key; the keys are kept in order. -/
def pushValue (key value : Text) : List (Text × List Text) → List (Text × List Text)
  | [] => [(key, [value])]
  | entry :: rest =>
      if entry.1 = key then (key, entry.2 ++ [value]) :: rest
      else if key < entry.1 then (key, [value]) :: entry :: rest
      else entry :: pushValue key value rest

def canonicalQuery [FormDecoding] (query : Option Text) : List (Text × List Text) :=
  (formUrlencodedParse (query.getD [])).foldl (fun result pair => pushValue pair.1 pair.2 result) []

/-- The pairs of a query with the values of each key in order. -/
def sortedPairs (query : List (Text × List Text)) : List (Text × Text) :=
  query.flatMap fun entry =>
    (entry.2.insertionSort fun a b => a ≤ b).map fun value => (entry.1, value)

def headerValue (headers : HeaderMap) (name : String) : Except ApiError Text :=
  match headers.get name.toList with
  | none => .error (.badRequest (name ++ " is required"))
  | some value =>
      match value.toStr with
      | none => .error (.badRequest (name ++ " is invalid"))
      | some text => .ok text

def parseHmacDate [Calendar] [ControlText] (value : Text) : Except ApiError Time :=
  match (ControlText.parseFromRfc3339 value).orElse fun _ => Calendar.parseFromStr value with
  | some date => .ok date
  | none => .error (.badRequest "X-MediaHub-Date is invalid")

/-- The value that a field of the authorization has last. -/
def field (fields : List (Text × Text)) (name : String) : Option Text :=
  (fields.reverse.find? fun entry => entry.1 = name.toList).map (·.2)

def authorizationFields (value : Text) : List (Text × Text) :=
  ((value.splitOn ';').map trim).filterMap (Text.splitOnce '=')

def splitSignedHeaders (value : Text) : List Text :=
  (((value.splitOn ',').map trim).filter fun header => !header.isEmpty).map toAsciiLowercase

def parseAuthorization (value : Text) : Except ApiError (List Text × Text) :=
  match "MH-HMAC-SHA256 ".toList.isPrefixOf? value with
  | none => .error (.unauthorizedWithMessage "Authorization is invalid")
  | some rest =>
      let fields := authorizationFields rest
      match field fields "SignedHeaders" with
      | none => .error (.badRequest "Authorization SignedHeaders is required")
      | some declared =>
          let signedHeaders := splitSignedHeaders declared
          if signedHeaders.isEmpty || signedHeaders.any fun header => !validHeaderName header then
            .error (.badRequest "Authorization SignedHeaders is invalid")
          else
            match (field fields "Signature").filter fun signature => !signature.isEmpty with
            | none => .error (.badRequest "Authorization Signature is required")
            | some signature => .ok (signedHeaders, signature)

/-- `BTreeMap::insert` under a new key. -/
def insertHeader (name value : Text) : List (Text × Text) → List (Text × Text)
  | [] => [(name, value)]
  | entry :: rest =>
      if name < entry.1 then (name, value) :: entry :: rest
      else entry :: insertHeader name value rest

def canonicalHeaders (headers : HeaderMap) (signedHeaders : List Text) :
    Except ApiError (List (Text × Text)) :=
  signedHeaders.foldlM (fun result header =>
    match headers.get header with
    | none => .error (.badRequest "a signed header is missing")
    | some value =>
        match value.toStr with
        | none => .error (.badRequest "a signed header is invalid")
        | some text =>
            if result.any fun entry => entry.1 = header then
              .error (.badRequest "Authorization SignedHeaders contains duplicates")
            else .ok (insertHeader header (trim text) result)) []

end Parse

section Render

variable [ControlText]

def toAsciiUppercase (s : Text) : Text := s.map Char.toUpper

def CanonicalRequest.render (request : CanonicalRequest) : Text :=
  ['\n'].intercalate
    [toAsciiUppercase request.method, request.path,
      ControlText.serializeForm (sortedPairs request.query),
      ['\n'].intercalate (request.headers.map fun header =>
        toAsciiLowercase header.1 ++ ':' :: trim header.2),
      request.bodySha256, ControlText.toRfc3339Secs request.timestamp, request.nonce,
      request.idempotencyKey.getD []]

variable [ControlCrypto]

def requestHash (method path : Text) (query : List (Text × List Text)) (bodySha256 : Text) :
    Text :=
  hexEncode (ControlCrypto.sha256 (utf8 (['\n'].intercalate
    [toAsciiUppercase method, path, ControlText.serializeForm (sortedPairs query), bodySha256])))

def signHmac (secret : List UInt8) (request : CanonicalRequest) : Text :=
  hexEncode (ControlCrypto.hmacSha256 secret (utf8 request.render))

def verifyHmac (secret : List UInt8) (suppliedSignature : Text) (request : CanonicalRequest)
    (now : Time) : Except HmacError Unit :=
  if Time.seconds maxSignatureAge < (now - request.timestamp).natAbs then .error .expired
  else if signHmac secret request = suppliedSignature then .ok ()
  else .error .invalidSignature

end Render

/-- What a request asks for once its form has been checked. -/
structure PreparedRequest where
  accessKeyId : Text
  signature : Text
  canonical : CanonicalRequest
  isMutation : Bool
  requestHash : Text
deriving DecidableEq

namespace PreparedRequest

def date (request : PreparedRequest) : Time := request.canonical.timestamp

def nonce (request : PreparedRequest) : Text := request.canonical.nonce

end PreparedRequest

def isMutation (method : Text) : Bool :=
  !(method = "GET".toList || method = "HEAD".toList || method = "OPTIONS".toList)

/-- A header that is left out, or that holds no text. -/
def optionalHeader (headers : HeaderMap) (name : String) : Option Text :=
  (headers.get name.toList).bind HeaderValue.toStr

def requireNonce (mutation : Bool) (nonce : Option Text) : Except ApiError Unit := do
  rejectIf (mutation = true ∧ nonce.all (·.isEmpty) = true)
    (.badRequest "X-MediaHub-Nonce is required for mutation requests")
  rejectIf (nonce.any (256 < Utf8.byteLength ·) = true) (.badRequest "X-MediaHub-Nonce is too long")

def requireSigned (mutation : Bool) (signedHeaders : List Text) : Except ApiError Unit := do
  rejectIf (¬ ∀ required ∈ ["x-mediahub-access-key", "x-mediahub-date",
    "x-mediahub-content-sha256"], required.toList ∈ signedHeaders)
    (.badRequest "required HMAC headers are not signed")
  rejectIf (mutation = true ∧ "x-mediahub-nonce".toList ∉ signedHeaders)
    (.badRequest "X-MediaHub-Nonce must be signed")

def requireIdempotencyKey (key : Option Text) (signedHeaders : List Text) :
    Except ApiError Unit := do
  rejectIf (key.any (fun value => value.isEmpty || 256 < Utf8.byteLength value) = true)
    (.badRequest "Idempotency-Key is invalid")
  rejectIf (key.isSome = true ∧ "idempotency-key".toList ∉ signedHeaders)
    (.badRequest "Idempotency-Key must be signed")

section Prepare

variable [FormDecoding] [Calendar] [ControlText] [ControlCrypto]

def prepareHmacRequest (request : HmacRequest) : Except ApiError PreparedRequest := do
  rejectIf (maxRequestBytes < request.body.length)
    (.badRequest "request body exceeds the supported size")
  let bodySha256 := hexEncode (ControlCrypto.sha256 request.body)
  let supplied ← headerValue request.headers "x-mediahub-content-sha256"
  rejectIf (bodySha256 ≠ supplied) (.unauthorizedWithMessage "request body hash does not match")
  let accessKeyId ← headerValue request.headers "x-mediahub-access-key"
  let dateText ← headerValue request.headers "x-mediahub-date"
  let date ← parseHmacDate dateText
  let nonce := optionalHeader request.headers "x-mediahub-nonce"
  let mutation := isMutation request.method
  requireNonce mutation nonce
  let authorization ← headerValue request.headers "authorization"
  let parsed ← parseAuthorization authorization
  let headers ← canonicalHeaders request.headers parsed.1
  requireSigned mutation parsed.1
  let idempotencyKey := optionalHeader request.headers "idempotency-key"
  requireIdempotencyKey idempotencyKey parsed.1
  let query := canonicalQuery request.uri.query
  return {
    accessKeyId
    signature := parsed.2
    canonical :=
      { method := request.method
        path := request.uri.path
        query
        headers
        bodySha256
        timestamp := date
        nonce := nonce.getD []
        idempotencyKey }
    isMutation := mutation
    requestHash := requestHash request.method request.uri.path query bodySha256 }

end Prepare

end MediaHub.Http.Hmac

import MediaHub.Http.Request

namespace MediaHub.Http

open MediaHub.Core
open Text (isAsciiDigit isAsciiLowercase)

inductive SigV4Error where
  | missingAuthentication
  | unsupportedAlgorithm
  | invalidCredentialScope
  | invalidDate
  | invalidSignedHeaders
  | invalidSignature
  | signatureMismatch
  | expired
  | invalidExpiry
  | sessionCredentialsUnsupported
  | duplicateQueryParameter
  | invalidPayloadHash
  | payloadHashMismatch
  | streamingPayloadHashRequired
  | invalidRequest
deriving DecidableEq

inductive AuthLocation where
  | header
  | query
deriving DecidableEq

inductive PayloadMode where
  | calculate
  | unsigned
  | precomputed (digest : Text)

structure ParsedSigV4 where
  accessKeyId : Text
  region : Text
  signingTime : Time
  location : AuthLocation
  expiresIn : Option Int
  method : Text
  signingUri : Text
  signedHeaders : List (Text × Text)
  cloudflareAcceptEncodingRewrite : Bool
  payloadMode : PayloadMode
  suppliedSignature : Text

/-- Reading and writing dates. -/
class Calendar where
  /-- The time of a text of the form `%Y%m%dT%H%M%SZ`. -/
  parseFromStr : Text → Option Time
  /-- The date of a time in the form `%Y%m%d`. -/
  formatDate : Time → Text

def algorithm : Text := "AWS4-HMAC-SHA256".toList

def terminator : Text := "aws4_request".toList

def service : Text := "s3".toList

def maxHeaderSkew : Int := Time.seconds (5 * 60)

def maxPresignExpiry : Int := Time.seconds (7 * 24 * 60 * 60)

structure CredentialScope where
  accessKeyId : Text
  date : Text
  region : Text

namespace CredentialScope

def parse (value : Text) : Except SigV4Error CredentialScope :=
  match value.splitOn '/' with
  | [accessKeyId, date, region, serviceName, terminatorName] =>
      if accessKeyId.isEmpty || 256 < Utf8.byteLength accessKeyId || Utf8.byteLength date ≠ 8 ||
          !date.all isAsciiDigit || region.isEmpty || 128 < Utf8.byteLength region ||
          serviceName ≠ service || terminatorName ≠ terminator then
        throw .invalidCredentialScope
      else pure { accessKeyId := accessKeyId, date := date, region := region }
  | _ => throw .invalidCredentialScope

def validateDate [Calendar] (scope : CredentialScope) (signingTime : Time) :
    Except SigV4Error Unit :=
  if Calendar.formatDate signingTime = scope.date then pure ()
  else throw .invalidCredentialScope

end CredentialScope

def parseSigningTime [Calendar] (value : Text) : Except SigV4Error Time :=
  match Calendar.parseFromStr value with
  | some time => pure time
  | none => throw .invalidDate

def requiredHeader (headers : HeaderMap) (name : Text) : Except SigV4Error Text :=
  match headers.get name with
  | none => throw .missingAuthentication
  | some value =>
      match value.toStr with
      | none => throw .invalidRequest
      | some text => pure text

def validateSignature (signature : Text) : Except SigV4Error Unit :=
  if Utf8.byteLength signature = 64 && signature.all isAsciiHexdigit then pure ()
  else throw .invalidSignature

/-- The names of a list of signed headers. -/
def headerNames (declared : Text) : List Text := declared.splitOn ';'

def validHeaderName (name : Text) : Bool :=
  !name.isEmpty && name.all fun c => isAsciiLowercase c || isAsciiDigit c || c = '-'

/-- The values that are signed under one name: those of the headers, or the authority of the
target where there is no host header. -/
def signedValues (headers : HeaderMap) (uri : Uri) (name : Text) :
    Except SigV4Error (List (Text × Text)) :=
  match headers.getAll name with
  | [] =>
      match uri.authority with
      | some authority =>
          if name = "host".toList then pure [(name, authority)] else throw .invalidSignedHeaders
      | none => throw .invalidSignedHeaders
  | values =>
      values.mapM fun value =>
        match value.toStr with
        | some text => pure (name, text)
        | none => throw .invalidSignedHeaders

def collectSignedHeaders (headers : HeaderMap) (uri : Uri) (declared : Text) :
    Except SigV4Error (List (Text × Text)) :=
  let names := headerNames declared
  if names.isEmpty || !names.contains "host".toList || !(names.IsChain (· < ·)) ||
      !names.all validHeaderName then
    throw .invalidSignedHeaders
  else do
    let values ← names.mapM (signedValues headers uri)
    pure values.flatten

def payloadModeOf (headers : HeaderMap) (presigned : Bool) : Except SigV4Error PayloadMode :=
  if presigned then pure .unsigned
  else
    match headers.get "x-amz-content-sha256".toList with
    | none => pure .calculate
    | some value =>
        match value.toStr with
        | none => throw .invalidPayloadHash
        | some text =>
            if text = "UNSIGNED-PAYLOAD".toList then pure .unsigned
            else if Utf8.byteLength text = 64 && text.all isAsciiHexdigit then
              pure (.precomputed (toAsciiLowercase text))
            else throw .invalidPayloadHash

def stripAlgorithm (authorization : Text) : Except SigV4Error Text :=
  match authorization.dropPrefix? algorithm with
  | some rest => pure rest
  | none => throw .unsupportedAlgorithm

def fieldPair (field : Text) : Except SigV4Error (Text × Text) :=
  match Text.splitOnce '=' field with
  | some pair => pure pair
  | none => throw .invalidRequest

/-- The fields of a credential text after the name of the algorithm. -/
def authorizationFields (rest : Text) : Except SigV4Error (List (Text × Text)) :=
  (((trim rest).splitOn ',').map trim).mapM fieldPair

/-- Collecting pairs in a map keeps the last value of each key. -/
def lastValue (fields : List (Text × Text)) (name : Text) : Option Text :=
  fields.reverse.lookup name

def requiredField (fields : List (Text × Text)) (name : Text) : Except SigV4Error Text :=
  match lastValue fields name with
  | some value => pure value
  | none => throw .invalidRequest

namespace ParsedSigV4

variable [FormDecoding] [Calendar]

def parseHeader (method : Text) (uri : Uri) (headers : HeaderMap) (authorization : Text) :
    Except SigV4Error ParsedSigV4 := do
  let rest ← stripAlgorithm authorization
  let fields ← authorizationFields rest
  let credential ← requiredField fields "Credential".toList
  let declaredHeaders ← requiredField fields "SignedHeaders".toList
  let suppliedSignature ← requiredField fields "Signature".toList
  validateSignature suppliedSignature
  let scope ← CredentialScope.parse credential
  let date ← requiredHeader headers "x-amz-date".toList
  let signingTime ← parseSigningTime date
  scope.validateDate signingTime
  let signedHeaders ← collectSignedHeaders headers uri declaredHeaders
  let payloadMode ← payloadModeOf headers false
  pure
    { accessKeyId := scope.accessKeyId
      region := scope.region
      signingTime := signingTime
      location := .header
      expiresIn := none
      method := method
      signingUri := uri.toText
      signedHeaders := signedHeaders
      cloudflareAcceptEncodingRewrite := headers.containsKey "cf-ray".toList &&
        signedHeaders.any fun header =>
          header.1 = "accept-encoding".toList && header.2 ≠ "identity".toList
      payloadMode := payloadMode
      suppliedSignature := suppliedSignature }

def authParameters : List Text :=
  ["X-Amz-Algorithm".toList, "X-Amz-Credential".toList, "X-Amz-Date".toList,
    "X-Amz-Expires".toList, "X-Amz-SignedHeaders".toList, "X-Amz-Signature".toList]

def queryValues (uri : Uri) : Except SigV4Error (List (Text × Text)) :=
  if (uri.queryPairs.map Prod.fst).Nodup then pure uri.queryPairs
  else throw .duplicateQueryParameter

def requiredQuery (values : List (Text × Text)) (name : Text) : Except SigV4Error Text :=
  match values.lookup name with
  | some value => if value.isEmpty then throw .missingAuthentication else pure value
  | none => throw .missingAuthentication

def requireAlgorithm (values : List (Text × Text)) : Except SigV4Error Unit := do
  let supplied ← requiredQuery values "X-Amz-Algorithm".toList
  if supplied = algorithm then pure () else throw .unsupportedAlgorithm

def rejectSecurityToken (values : List (Text × Text)) : Except SigV4Error Unit :=
  if (values.map Prod.fst).contains "X-Amz-Security-Token".toList then
    throw .sessionCredentialsUnsupported
  else pure ()

/-- Whether a raw pair of the query stays in the target that is signed. -/
def retained (pair : Text) : Bool :=
  let rawName := ((Text.splitOnce '=' pair).map Prod.fst).getD pair
  let decoded := ((formUrlencodedParse (rawName ++ ['='])).head?.map Prod.fst).getD []
  !authParameters.contains decoded

def retainedQuery (uri : Uri) : Text :=
  ['&'].intercalate ((((uri.query.getD []).splitOn '&').filter fun pair => !pair.isEmpty).filter
    retained)

def unsignedQueryUri (uri : Uri) : Text :=
  if (retainedQuery uri).isEmpty then uri.path else uri.path ++ '?' :: retainedQuery uri

def parseExpiry (value : Text) : Except SigV4Error Int :=
  match parseU64 value with
  | some n =>
      if Time.seconds n ≠ 0 && Time.seconds n ≤ maxPresignExpiry then pure (Time.seconds n)
      else throw .invalidExpiry
  | none => throw .invalidExpiry

def parseQuery (method : Text) (uri : Uri) (headers : HeaderMap) :
    Except SigV4Error ParsedSigV4 := do
  let values ← queryValues uri
  requireAlgorithm values
  rejectSecurityToken values
  let credential ← requiredQuery values "X-Amz-Credential".toList
  let scope ← CredentialScope.parse credential
  let date ← requiredQuery values "X-Amz-Date".toList
  let signingTime ← parseSigningTime date
  scope.validateDate signingTime
  let expires ← requiredQuery values "X-Amz-Expires".toList
  let expiresIn ← parseExpiry expires
  let declaredHeaders ← requiredQuery values "X-Amz-SignedHeaders".toList
  let suppliedSignature ← requiredQuery values "X-Amz-Signature".toList
  validateSignature suppliedSignature
  let signedHeaders ← collectSignedHeaders headers uri declaredHeaders
  pure
    { accessKeyId := scope.accessKeyId
      region := scope.region
      signingTime := signingTime
      location := .query
      expiresIn := some expiresIn
      method := method
      signingUri := unsignedQueryUri uri
      signedHeaders := signedHeaders
      cloudflareAcceptEncodingRewrite := false
      payloadMode := .unsigned
      suppliedSignature := suppliedSignature }

def validateTime (parsed : ParsedSigV4) (now : Time) : Except SigV4Error Unit :=
  if now < parsed.signingTime then
    if maxHeaderSkew < parsed.signingTime - now then throw .expired else pure ()
  else
    match parsed.location, parsed.expiresIn with
    | .header, _ => if maxHeaderSkew < now - parsed.signingTime then throw .expired else pure ()
    | .query, none => throw .invalidExpiry
    | .query, some expiresIn =>
        if expiresIn < now - parsed.signingTime then throw .expired else pure ()

def parseUntimed (method : Text) (uri : Uri) (headers : HeaderMap) :
    Except SigV4Error ParsedSigV4 :=
  match headers.get "authorization".toList with
  | some authorization =>
      match authorization.toStr with
      | some text => parseHeader method uri headers text
      | none => throw .invalidRequest
  | none => parseQuery method uri headers

def parse (method : Text) (uri : Uri) (headers : HeaderMap) (now : Time) :
    Except SigV4Error ParsedSigV4 := do
  let parsed ← parseUntimed method uri headers
  parsed.validateTime now
  pure parsed

end ParsedSigV4

inductive SignableBody where
  | bytes (body : List UInt8)
  | unsignedPayload
  | precomputed (digest : Text)

structure SignableRequest where
  method : Text
  uri : Text
  headers : List (Text × Text)
  body : SignableBody

structure SigningParams where
  accessKeyId : Text
  secret : Text
  region : Text
  time : Time
  location : AuthLocation
  expiresIn : Option Int

/-- The signature of a request, where the signing library can compute one. -/
class Signing where
  sign : SignableRequest → SigningParams → Option Text

/-- The SHA-256 of a body in hexadecimal. -/
class PayloadDigest where
  sha256Hex : List UInt8 → Text

/-- The pairs of the query of a target. The canonical query of a signable request is made of
these and of the authentication parameters. -/
def canonicalPairs [FormDecoding] (target : Text) : List (Text × Text) :=
  match Text.splitOnce '?' target with
  | some (_, query) => formUrlencodedParse query
  | none => []

namespace ParsedSigV4

/-- The headers that the client has signed where the proxy has changed `Accept-Encoding`. -/
def originalHeaders (signedHeaders : List (Text × Text)) : List (Text × Text) :=
  signedHeaders.map fun header =>
    if header.1 = "accept-encoding".toList then (header.1, "identity".toList) else header

def signableRequest (parsed : ParsedSigV4) (body : SignableBody)
    (signedHeaders : List (Text × Text)) : SignableRequest :=
  { method := parsed.method, uri := parsed.signingUri, headers := signedHeaders, body := body }

def signingParams (parsed : ParsedSigV4) (secret : Text) : SigningParams :=
  { accessKeyId := parsed.accessKeyId
    secret := secret
    region := parsed.region
    time := parsed.signingTime
    location := parsed.location
    expiresIn := parsed.expiresIn }

variable [Signing]

def verifySignatureWithHeaders (parsed : ParsedSigV4) (secret : Text) (body : SignableBody)
    (signedHeaders : List (Text × Text)) : Except SigV4Error Unit :=
  match Signing.sign (parsed.signableRequest body signedHeaders) (parsed.signingParams secret) with
  | none => throw .invalidRequest
  | some expected =>
      if expected = parsed.suppliedSignature then pure () else throw .signatureMismatch

def verifySignature (parsed : ParsedSigV4) (secret : Text) (body : SignableBody) :
    Except SigV4Error Unit :=
  match verifySignatureWithHeaders parsed secret body parsed.signedHeaders with
  | .error .signatureMismatch =>
      if parsed.cloudflareAcceptEncodingRewrite then
        verifySignatureWithHeaders parsed secret body (originalHeaders parsed.signedHeaders)
      else throw .signatureMismatch
  | result => result

/-- The body is not read yet. -/
def verifyStreamingSignature (parsed : ParsedSigV4) (secret : Text) : Except SigV4Error Unit :=
  match parsed.payloadMode with
  | .unsigned => parsed.verifySignature secret .unsignedPayload
  | .precomputed expected => parsed.verifySignature secret (.precomputed expected)
  | .calculate => throw .streamingPayloadHashRequired

def verifyPayloadSha256 (parsed : ParsedSigV4) (actual : Text) : Except SigV4Error Unit :=
  match parsed.payloadMode with
  | .precomputed expected => if actual ≠ expected then throw .payloadHashMismatch else pure ()
  | .calculate => throw .streamingPayloadHashRequired
  | .unsigned => pure ()

def verify [PayloadDigest] (parsed : ParsedSigV4) (secret : Text) (body : List UInt8) :
    Except SigV4Error Unit :=
  match parsed.payloadMode with
  | .calculate => parsed.verifySignature secret (.bytes body)
  | .unsigned => parsed.verifySignature secret .unsignedPayload
  | .precomputed expected =>
      if PayloadDigest.sha256Hex body ≠ expected then throw .payloadHashMismatch
      else parsed.verifySignature secret (.precomputed expected)

end ParsedSigV4

end MediaHub.Http

import MediaHub.Http.ObjectDispatch
import MediaHub.Http.SignedHeaders

/-!
A request on an object as the gateway receives it, and what its headers, its body and the server
say to the checks.
-/

namespace MediaHub.Http

open MediaHub.Core

namespace SigV4Error

def message : SigV4Error → String
  | .missingAuthentication => "AWS Signature Version 4 authentication is required"
  | .unsupportedAlgorithm => "the signing algorithm is not supported"
  | .invalidCredentialScope => "the credential scope is invalid"
  | .invalidDate => "the request date is invalid"
  | .invalidSignedHeaders => "the signed header list is invalid"
  | .invalidSignature => "the signature is invalid"
  | .signatureMismatch => "the request signature does not match"
  | .expired => "the request signature has expired"
  | .invalidExpiry => "the presigned expiry is invalid"
  | .sessionCredentialsUnsupported => "temporary session credentials are not supported"
  | .duplicateQueryParameter => "a signing query parameter is duplicated"
  | .invalidPayloadHash => "the payload hash is invalid"
  | .payloadHashMismatch => "the payload does not match x-amz-content-sha256"
  | .streamingPayloadHashRequired =>
      "streaming uploads require x-amz-content-sha256 or UNSIGNED-PAYLOAD"
  | .invalidRequest => "the signed request is invalid"

def s3Code : SigV4Error → String
  | .missingAuthentication => "AccessDenied"
  | .unsupportedAlgorithm | .sessionCredentialsUnsupported | .streamingPayloadHashRequired =>
      "InvalidRequest"
  | .invalidCredentialScope => "AuthorizationHeaderMalformed"
  | .invalidDate | .expired => "RequestTimeTooSkewed"
  | .invalidExpiry => "AuthorizationQueryParametersError"
  | .invalidPayloadHash | .payloadHashMismatch => "XAmzContentSHA256Mismatch"
  | .invalidSignedHeaders | .invalidSignature | .signatureMismatch | .duplicateQueryParameter
  | .invalidRequest => "SignatureDoesNotMatch"

def status : SigV4Error → Nat
  | .missingAuthentication | .signatureMismatch | .expired | .payloadHashMismatch => 403
  | _ => 400

end SigV4Error

namespace S3ApiError

def fromSigv4 (error : SigV4Error) : S3ApiError :=
  { status := error.status, code := error.s3Code, message := error.message }

def accessDenied (message : String) : S3ApiError :=
  { status := 403, code := "AccessDenied", message := message }

def entityTooLarge : S3ApiError :=
  { status := 413, code := "EntityTooLarge"
    message := "Your proposed upload exceeds the maximum allowed object size." }

end S3ApiError

section Headers

variable (headers : HeaderMap)

def s3SseHeaderName : Text := "x-amz-server-side-encryption".toList

def s3CopySourceSseHeaderName : Text := "x-amz-copy-source-server-side-encryption".toList

def isSseHeader (name : Text) : Bool :=
  name = s3SseHeaderName || (s3SseHeaderName ++ ['-']).isPrefixOf name ||
    name = s3CopySourceSseHeaderName || (s3CopySourceSseHeaderName ++ ['-']).isPrefixOf name

def rejectUnimplementedS3SseHeaders (operation : S3SseOperationContext) :
    Except S3ApiError Unit :=
  if headers.any fun header => isSseHeader header.1 then
    throw (.notImplemented ("Server-side encryption request headers are not supported for " ++
      operation.description ++ "."))
  else pure ()

def hasS3ObjectLockHeaders : Bool :=
  ["x-amz-object-lock-mode".toList, "x-amz-object-lock-retain-until-date".toList,
    "x-amz-object-lock-legal-hold".toList, bypassHeader].any headers.containsKey

def rejectMultipartObjectLockHeaders : Except S3ApiError Unit :=
  if hasS3ObjectLockHeaders headers then
    throw (.invalidRequest ("This multipart operation does not accept Object Lock headers; " ++
      "configure them on PutObject or use the object retention/legal-hold subresources."))
  else pure ()

def rejectCopyObjectLockHeaders : Except S3ApiError Unit :=
  if hasS3ObjectLockHeaders headers then
    throw (.invalidRequest "CopyObject Object Lock destination headers are not supported yet.")
  else pure ()

def parseS3BypassGovernance [FormDecoding] (uri : Uri) : Except S3ApiError Bool :=
  let gated (bypass : Bool) : Except S3ApiError Bool :=
    if s3Sigv4DeclaresSignedHeader headers uri bypassHeader then pure bypass
    else throw (.accessDenied
      "x-amz-bypass-governance-retention must be included in SignedHeaders.")
  match headers.getAll bypassHeader with
  | [] => pure false
  | [value] =>
      if value.toStr = some "true".toList then gated true
      else if value.toStr = some "false".toList then gated false
      else throw (.invalidArgument "x-amz-bypass-governance-retention must be true or false.")
  | _ => throw (.invalidArgument "x-amz-bypass-governance-retention must occur exactly once.")

def rejectBypassForLegalHold : Except S3ApiError Unit :=
  if headers.containsKey bypassHeader then
    throw (.invalidRequest
      "x-amz-bypass-governance-retention is not valid for PutObjectLegalHold.")
  else pure ()

def unsupportedCopyHeaders : List String :=
  ["x-amz-checksum-algorithm", "x-amz-website-redirect-location", "x-amz-server-side-encryption",
    "x-amz-server-side-encryption-aws-kms-key-id",
    "x-amz-server-side-encryption-customer-algorithm",
    "x-amz-server-side-encryption-customer-key", "x-amz-server-side-encryption-customer-key-md5",
    "x-amz-copy-source-server-side-encryption-customer-algorithm",
    "x-amz-copy-source-server-side-encryption-customer-key",
    "x-amz-copy-source-server-side-encryption-customer-key-md5"]

def rejectUnsupportedS3CopyHeaders (partCopy : Bool) : Except S3ApiError Unit := do
  let storageClass ← optionalSingleS3Header headers "x-amz-storage-class"
  if storageClass.any (· ≠ "STANDARD".toList) then
    throw (.notImplemented "Only the STANDARD storage class is supported.")
  else
    match unsupportedCopyHeaders.find? fun name => headers.containsKey name.toList with
    | some name => throw (.notImplemented (name ++ " is not supported for copy operations."))
    | none =>
        match ["x-amz-tagging", "x-amz-tagging-directive", "x-amz-metadata-directive"].find?
            fun name => partCopy && headers.containsKey name.toList with
        | some name => throw (.invalidArgument (name ++ " is not valid for UploadPartCopy."))
        | none => pure ()

end Headers

/-- Percent-decoding of a part of a path, which fails where the bytes are no UTF-8. -/
class PathDecoding where
  decodePath : Text → Option Text

/-- The route `/{bucket}/{*object_key}`. -/
def objectRoute [PathDecoding] (uri : Uri) : Option (Text × Text) :=
  match uri.path with
  | '/' :: path =>
      match Text.splitOnce '/' path with
      | some (bucket, key) =>
          if bucket.isEmpty || key.isEmpty then none
          else do
            let bucketName ← PathDecoding.decodePath bucket
            let objectKey ← PathDecoding.decodePath key
            some (bucketName, objectKey)
      | none => none
  | _ => none

/-- A request that the router gives to the handlers of objects. -/
structure ObjectRequest [PathDecoding] where
  method : ObjectMethod
  uri : Uri
  headers : HeaderMap
  content : List UInt8
  bucketName : Text
  objectKey : Text
  routed : objectRoute uri = some (bucketName, objectKey)

/-- What the server brings to a request: its clock, the secrets of the active access keys, the
uploads to the key, and the handlers of the operations, which ask the policies and the store. -/
structure Server where
  now : Time
  findSecret : Text → Except S3ApiError Text
  uploads : Text → Bool
  handle : ObjectOperation → Except S3ApiError Unit

def ObjectMethod.name : ObjectMethod → Text
  | .get => "GET".toList
  | .head => "HEAD".toList
  | .put => "PUT".toList
  | .post => "POST".toList
  | .delete => "DELETE".toList

def s3PresignAuthQueryParameters : List Text :=
  ParsedSigV4.authParameters ++ ["X-Amz-Security-Token".toList]

def s3HasAuthenticationMaterial [FormDecoding] (headers : HeaderMap) (uri : Uri) : Bool :=
  headers.containsKey "authorization".toList || headers.containsKey "x-amz-date".toList ||
    headers.containsKey "x-amz-security-token".toList ||
    uri.queryPairs.any fun pair => s3PresignAuthQueryParameters.any fun parameter =>
      toAsciiLowercase pair.1 = toAsciiLowercase parameter

namespace ObjectRequest

variable [PathDecoding] [FormDecoding] [Calendar] [Signing] [PayloadDigest]
  (server : Server) (request : ObjectRequest)

def loadS3Authentication : Except S3ApiError (ParsedSigV4 × Text) := do
  let signature ← (ParsedSigV4.parse request.method.name request.uri request.headers
    server.now).mapError .fromSigv4
  let secret ← server.findSecret signature.accessKeyId
  pure (signature, secret)

/-- The body that a handler passes on with the signature: GET, HEAD and DELETE have none. -/
def authenticatedBody : List UInt8 :=
  match request.method with
  | .get | .head | .delete => []
  | .put | .post => request.content

def authenticateS3Application : Except S3ApiError Unit := do
  let (signature, secret) ← request.loadS3Authentication server
  (signature.verify secret request.authenticatedBody).mapError .fromSigv4

def authenticateS3StreamingApplication : Except S3ApiError ParsedSigV4 := do
  let (signature, secret) ← request.loadS3Authentication server
  (signature.verifyStreamingSignature secret).mapError .fromSigv4
  pure signature

/-- A read without a trace of a signature is anonymous. -/
def authenticateRead : Except S3ApiError Unit :=
  if s3HasAuthenticationMaterial request.headers request.uri then
    request.authenticateS3Application server
  else pure ()

def limitBody (maximum : Nat) : Except S3ApiError Unit :=
  if maximum < request.content.length then throw .entityTooLarge else pure ()

def verifyPayload : Except S3ApiError Unit := do
  let signature ← request.authenticateS3StreamingApplication server
  (signature.verifyPayloadSha256 (PayloadDigest.sha256Hex request.content)).mapError .fromSigv4

def verifyS3CopyBody : Except S3ApiError Unit := do
  request.limitBody maxErrorResponseBytes
  if !request.content.isEmpty then
    throw (.invalidArgument "Copy requests must not include a request body.")
  else request.verifyPayload server

/-- What a check says to the request. -/
def check : Check → Except S3ApiError Unit
  | .authentication => request.authenticateS3Application server
  | .streamingAuthentication => do
      let _ ← request.authenticateS3StreamingApplication server
      pure ()
  | .readAuthentication => request.authenticateRead server
  | .sseHeaders operation => rejectUnimplementedS3SseHeaders request.headers operation
  | .multipartLockHeaders => rejectMultipartObjectLockHeaders request.headers
  | .copyLockHeaders => rejectCopyObjectLockHeaders request.headers
  | .bypassHeader => do
      let _ ← parseS3BypassGovernance request.headers request.uri
      pure ()
  | .noBypassHeader => rejectBypassForLegalHold request.headers
  | .bodyLimit maximum => request.limitBody maximum
  | .payloadHash => request.verifyPayload server
  | .copyBody => request.verifyS3CopyBody server
  | .copyHeaders partCopy => rejectUnsupportedS3CopyHeaders request.headers partCopy
  | .objectKey => validateS3ObjectKey request.objectKey
  | .handler operation => server.handle operation

def surroundings : Surroundings where
  check := request.check server
  uploads := server.uploads

end ObjectRequest

end MediaHub.Http

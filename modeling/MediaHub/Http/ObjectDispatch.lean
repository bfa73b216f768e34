import MediaHub.Http.Query

/-!
Which operation a request on an object runs. Authentication, the headers, the body and the store are
checks that can fail and do not choose the operation.
-/

namespace MediaHub.Http

open MediaHub.Core

inductive ObjectMethod where
  | get
  | head
  | put
  | post
  | delete
deriving DecidableEq

inductive S3ObjectVersionLockOperation where
  | retention
  | legalHold
deriving DecidableEq

def S3ObjectVersionLockOperation.parameter : S3ObjectVersionLockOperation → String
  | .retention => "retention"
  | .legalHold => "legal-hold"

/-- The operations on objects. -/
inductive ObjectOperation where
  | readObject (method : ObjectMethod) (versionId : Option Text)
  | getTagging
  | putTagging
  | deleteTagging
  | getVersionLock (lock : S3ObjectVersionLockOperation)
  | putVersionLock (lock : S3ObjectVersionLockOperation)
  | getAcl
  | putAcl
  | listParts (uploadId : Text)
  | uploadPart (uploadId : Text) (partNumber : Nat)
  | uploadPartCopy (uploadId : Text) (partNumber : Nat)
  | abortMultipartUpload (uploadId : Text)
  | createMultipartUpload
  | completeMultipartUpload (uploadId : Text)
  | putObject
  | copyObject
  | deleteObject (versionId : Option Text)
deriving DecidableEq

/-- The request that an operation answers: its method and the subresource it names. -/
def ObjectOperation.answers : ObjectOperation → ObjectMethod × Option String
  | .readObject method _ => (method, none)
  | .getTagging => (.get, some "tagging")
  | .putTagging => (.put, some "tagging")
  | .deleteTagging => (.delete, some "tagging")
  | .getVersionLock lock => (.get, some lock.parameter)
  | .putVersionLock lock => (.put, some lock.parameter)
  | .getAcl => (.get, some "acl")
  | .putAcl => (.put, some "acl")
  | .listParts _ => (.get, some "uploadId")
  | .uploadPart _ _ => (.put, some "uploadId")
  | .uploadPartCopy _ _ => (.put, some "uploadId")
  | .abortMultipartUpload _ => (.delete, some "uploadId")
  | .createMultipartUpload => (.post, some "uploads")
  | .completeMultipartUpload _ => (.post, some "uploadId")
  | .putObject => (.put, none)
  | .copyObject => (.put, none)
  | .deleteObject _ => (.delete, none)

/-- The operation that the guard against encryption headers names in its error. -/
inductive S3SseOperationContext where
  | putObject
  | getObject
  | headObject
  | copyObject
  | createMultipartUpload
  | uploadPart
  | uploadPartCopy
  | completeMultipartUpload
  | postObject
  | deleteObject
deriving DecidableEq

def S3SseOperationContext.description : S3SseOperationContext → String
  | .putObject => "PutObject"
  | .getObject => "GetObject"
  | .headObject => "HeadObject"
  | .copyObject => "CopyObject"
  | .createMultipartUpload => "CreateMultipartUpload"
  | .uploadPart => "UploadPart"
  | .uploadPartCopy => "UploadPartCopy"
  | .completeMultipartUpload => "CompleteMultipartUpload"
  | .postObject => "PostObject"
  | .deleteObject => "DeleteObject"

/-- What is checked besides the query. The handler of an operation does the rest: it reads the
headers of its own, and it asks the policies and the store. -/
inductive Check where
  | authentication
  | streamingAuthentication
  | readAuthentication
  | sseHeaders (operation : S3SseOperationContext)
  | multipartLockHeaders
  | copyLockHeaders
  | bypassHeader
  | noBypassHeader
  | bodyLimit (maximum : Nat)
  | payloadHash
  | copyBody
  | copyHeaders (partCopy : Bool)
  | objectKey
  | handler (operation : ObjectOperation)
deriving DecidableEq

/-- What a request meets besides its query: the outcome of the other checks, and the ids under
which the store has uploads to the key. -/
structure Surroundings where
  check : Check → Except S3ApiError Unit
  uploads : Text → Bool

def maxErrorResponseBytes : Nat := 64 * 1024

/-- A bypass of governance is for retentions only. -/
def S3ObjectVersionLockOperation.bypassCheck : S3ObjectVersionLockOperation → Check
  | .retention => .bypassHeader
  | .legalHold => .noBypassHeader

def readContext (method : ObjectMethod) : S3SseOperationContext :=
  if method = .head then .headObject else .getObject

/-- The checks that stand before an operation. -/
def ObjectOperation.checks (operation : ObjectOperation) : List Check :=
  match operation with
  | .readObject method _ =>
      [.readAuthentication, .sseHeaders (readContext method), .handler operation]
  | .getTagging | .getVersionLock _ | .getAcl =>
      [.authentication, .sseHeaders .getObject, .objectKey, .handler operation]
  | .listParts _ => [.authentication, .sseHeaders .getObject, .handler operation]
  | .putTagging =>
      [.bodyLimit maxS3XmlBodyBytes, .authentication, .sseHeaders .putObject, .objectKey,
        .handler operation]
  | .putVersionLock lock =>
      [.bodyLimit maxS3XmlBodyBytes, .authentication, .sseHeaders .putObject, .objectKey,
        lock.bypassCheck, .handler operation]
  | .putAcl =>
      [.streamingAuthentication, .sseHeaders .putObject, .bodyLimit maxErrorResponseBytes,
        .payloadHash, .objectKey, .handler operation]
  | .uploadPart _ _ =>
      [.streamingAuthentication, .sseHeaders .uploadPart, .multipartLockHeaders,
        .handler operation]
  | .uploadPartCopy _ _ =>
      [.streamingAuthentication, .sseHeaders .uploadPartCopy, .multipartLockHeaders, .copyBody,
        .copyHeaders true, .handler operation]
  | .putObject =>
      [.streamingAuthentication, .sseHeaders .putObject, .objectKey, .handler operation]
  | .copyObject =>
      [.streamingAuthentication, .sseHeaders .copyObject, .copyLockHeaders, .copyBody,
        .copyHeaders false, .objectKey, .handler operation]
  | .createMultipartUpload =>
      [.authentication, .sseHeaders .createMultipartUpload, .multipartLockHeaders, .objectKey,
        .handler operation]
  | .completeMultipartUpload _ =>
      [.authentication, .sseHeaders .completeMultipartUpload, .multipartLockHeaders, .objectKey,
        .handler operation]
  | .deleteTagging =>
      [.authentication, .sseHeaders .deleteObject, .objectKey, .handler operation]
  | .abortMultipartUpload _ =>
      [.authentication, .sseHeaders .deleteObject, .handler operation]
  | .deleteObject _ =>
      [.authentication, .sseHeaders .deleteObject, .objectKey, .bypassHeader, .handler operation]

variable [FormDecoding]

structure TaggingScan where
  taggingSeen : Bool
  versionSeen : Bool

def taggingOnce : S3ApiError :=
  .invalidArgument "The tagging subresource must occur once with an empty value."

def taggingCombined : S3ApiError :=
  .invalidArgument "Object Tagging cannot be combined with another S3 subresource."

def taggingStep (scan : TaggingScan) (parameter : String × Text) :
    Except S3ApiError TaggingScan :=
  if parameter.1 = "tagging" then
    if !scan.taggingSeen && parameter.2.isEmpty then pure { scan with taggingSeen := true }
    else throw taggingOnce
  else if parameter.1 = "versionId" then
    if !scan.versionSeen then pure { scan with versionSeen := true }
    else throw (.invalidArgument "Query parameter versionId must not occur more than once.")
  else if isTransportName parameter.1 then pure scan
  else if !scan.taggingSeen then pure scan
  else throw taggingCombined

def classifyS3ObjectTagging (uri : Uri) : Except S3ApiError Bool := do
  let scan ← uri.parameters.foldlM taggingStep { taggingSeen := false, versionSeen := false }
  if scan.taggingSeen && uri.names.any fun name =>
      name ≠ "tagging" && name ≠ "versionId" && !isTransportName name then
    throw taggingCombined
  else pure scan.taggingSeen

def requireEmptyValue (name : String) (value : Option Text) : Except S3ApiError Unit :=
  if value.any fun value => !value.isEmpty then
    throw (.invalidArgument (name ++ " must be an empty S3 subresource parameter."))
  else pure ()

def rejectParameters (uri : Uri) (error : String → S3ApiError) (names : List String) :
    Except S3ApiError Unit :=
  names.forM fun name => do
    let value ← s3QueryValue uri name
    if value.isSome then throw (error name) else pure ()

def lockCombined (_ : String) : S3ApiError :=
  .invalidRequest "Object Lock subresources cannot be combined with another object operation."

def rejectLockCombination (uri : Uri) (operation : Option S3ObjectVersionLockOperation) :
    Except S3ApiError Unit :=
  if operation.isSome then
    rejectParameters uri lockCombined ["acl", "uploadId", "partNumber", "uploads"]
  else pure ()

def classifyS3ObjectVersionLock (uri : Uri) :
    Except S3ApiError (Option S3ObjectVersionLockOperation) := do
  let retention ← s3QueryValue uri "retention"
  let legalHold ← s3QueryValue uri "legal-hold"
  requireEmptyValue "retention" retention
  requireEmptyValue "legal-hold" legalHold
  if retention.isSome && legalHold.isSome then
    throw (.invalidRequest "retention and legal-hold cannot be combined.")
  else do
    let operation : Option S3ObjectVersionLockOperation :=
      if retention.isSome then some .retention
      else if legalHold.isSome then some .legalHold
      else none
    rejectLockCombination uri operation
    pure operation

inductive S3ObjectGetOperation where
  | plainRead
  | tagging
  | versionLock (lock : S3ObjectVersionLockOperation)
  | acl
  | listParts (uploadId : Text)
  | unsupportedSubresource (name : String)

def objectSubresourcesCombined : S3ApiError :=
  .invalidRequest "Object subresources cannot be combined."

def unsupportedStep (uri : Uri) (unsupported : Option String) (name : String) :
    Except S3ApiError (Option String) := do
  let value ← s3QueryValue uri name
  if value.isSome then
    if unsupported.isSome then throw objectSubresourcesCombined else pure (some name)
  else pure unsupported

def unsupportedNames : List String :=
  ["torrent", "select", "select-type", "restore", "attributes", "uploads"]

def classifyS3ObjectGet (uri : Uri) : Except S3ApiError S3ObjectGetOperation := do
  let tagging ← classifyS3ObjectTagging uri
  let versionLock ← classifyS3ObjectVersionLock uri
  let acl ← s3QueryFlag uri "acl"
  let uploadId ← s3QueryValue uri "uploadId"
  let unsupported ← unsupportedNames.foldlM (unsupportedStep uri) none
  let operationCount := tagging.toNat + versionLock.isSome.toNat + acl.toNat +
    uploadId.isSome.toNat + unsupported.isSome.toNat
  if 1 < operationCount then throw objectSubresourcesCombined
  else if tagging then pure .tagging
  else
    match versionLock with
    | some lock => pure (.versionLock lock)
    | none =>
        if acl then pure .acl
        else
          match uploadId with
          | some uploadId => pure (.listParts uploadId)
          | none =>
              match unsupported with
              | some name => pure (.unsupportedSubresource name)
              | none => pure .plainRead

def getOnly (method : ObjectMethod) (error : S3ApiError)
    (read : Except S3ApiError ObjectOperation) :
    Except S3ApiError ObjectOperation :=
  if method ≠ .get then throw error else read

namespace Surroundings

variable (around : Surroundings)

def findS3MultipartUpload (uploadId : Text) : Except S3ApiError Unit :=
  if around.uploads uploadId then pure () else throw .noSuchUpload

/-- A read that needs a signature, whatever the policy of the bucket says. -/
def signedRead (method : ObjectMethod) (read : Except S3ApiError ObjectOperation) :
    Except S3ApiError ObjectOperation := do
  around.check .authentication
  around.check (.sseHeaders (readContext method))
  read

/-- A handler of one version of an object. -/
def versionHandler (uri : Uri) (operation : ObjectOperation) :
    Except S3ApiError ObjectOperation := do
  around.check .objectKey
  let _ ← parseS3VersionId uri
  around.check (.handler operation)
  pure operation

def s3ListParts (method : ObjectMethod) (uri : Uri) (uploadId : Text) :
    Except S3ApiError ObjectOperation := do
  rejectS3Versioning uri
  getOnly method (.invalidArgument "ListParts requires GET.") do
    around.findS3MultipartUpload uploadId
    around.check (.handler (.listParts uploadId))
    pure (.listParts uploadId)

def s3ReadRegularObject (method : ObjectMethod) (uri : Uri) :
    Except S3ApiError ObjectOperation := do
  let versionId ← parseS3VersionId uri
  around.check .readAuthentication
  around.check (.sseHeaders (readContext method))
  around.check (.handler (.readObject method versionId))
  pure (.readObject method versionId)

def s3ReadOperation (method : ObjectMethod) (uri : Uri) (operation : S3ObjectGetOperation) :
    Except S3ApiError ObjectOperation :=
  match operation with
  | .plainRead => around.s3ReadRegularObject method uri
  | .tagging => around.signedRead method <|
      getOnly method (.methodNotAllowed "GetObjectTagging requires GET.") <|
        around.versionHandler uri .getTagging
  | .versionLock lock => around.signedRead method <|
      getOnly method
          (.methodNotAllowed "Object retention and legal hold subresources require GET.") <|
        around.versionHandler uri (.getVersionLock lock)
  | .acl => around.signedRead method <|
      getOnly method (.invalidArgument "GetObjectAcl requires GET.") <|
        around.versionHandler uri .getAcl
  | .listParts uploadId => around.signedRead method <| around.s3ListParts method uri uploadId
  | .unsupportedSubresource name => around.signedRead method <|
      throw (.notImplemented ("The " ++ name ++ " object subresource is not implemented."))

def s3GetObject (method : ObjectMethod) (uri : Uri) : Except S3ApiError ObjectOperation := do
  let operation ← classifyS3ObjectGet uri
  around.s3ReadOperation method uri operation

def parsePartNumber (partNumber : Text) : Except S3ApiError Nat :=
  match parseU64 partNumber with
  | some n =>
      if 1 ≤ n && n ≤ 10000 then pure n
      else throw (.invalidArgument "partNumber must be between 1 and 10000.")
  | none => throw (.invalidArgument "partNumber must be between 1 and 10000.")

def validateS3MultipartUploadId (uploadId : Text) : Except S3ApiError Unit :=
  match uploadId.dropPrefix? "mh_mpu_".toList with
  | some suffix =>
      if Utf8.byteLength suffix = 32 && suffix.all isAsciiHexdigit then pure ()
      else throw .noSuchUpload
  | none => throw .noSuchUpload

def requireParameter (name : String) (value : Option Text) : Except S3ApiError Text :=
  match value with
  | some value => pure value
  | none => throw (.invalidArgument (name ++ " is required."))

def rejectVersionIdFor (operation : String) (uri : Uri) : Except S3ApiError Unit := do
  let versionId ← s3QueryValue uri "versionId"
  if versionId.isSome then
    throw (.invalidArgument ("versionId is not valid for " ++ operation ++ "."))
  else pure ()

def s3PutPart (uri : Uri) (isCopy : Bool) (uploadId partNumber : Option Text) :
    Except S3ApiError ObjectOperation := do
  around.check .multipartLockHeaders
  rejectS3Versioning uri
  let uploadId ← requireParameter "uploadId" uploadId
  let partNumber ← requireParameter "partNumber" partNumber
  let partNumber ← parsePartNumber partNumber
  if isCopy then do
    around.check .copyBody
    around.check (.copyHeaders true)
    around.findS3MultipartUpload uploadId
    around.check (.handler (.uploadPartCopy uploadId partNumber))
    pure (.uploadPartCopy uploadId partNumber)
  else do
    validateS3MultipartUploadId uploadId
    around.findS3MultipartUpload uploadId
    around.check (.handler (.uploadPart uploadId partNumber))
    pure (.uploadPart uploadId partNumber)

def s3PutWhole (uri : Uri) (isCopy : Bool) : Except S3ApiError ObjectOperation :=
  if isCopy then do
    around.check .copyLockHeaders
    around.check .copyBody
    around.check (.copyHeaders false)
    around.check .objectKey
    rejectVersionIdFor "CopyObject" uri
    around.check (.handler .copyObject)
    pure .copyObject
  else do
    around.check .objectKey
    rejectVersionIdFor "PutObject" uri
    around.check (.handler .putObject)
    pure .putObject

/-- The operation that a streamed PUT names to the guard against encryption headers. -/
def putContext (isCopy part : Bool) : S3SseOperationContext :=
  if part then if isCopy then .uploadPartCopy else .uploadPart
  else if isCopy then .copyObject else .putObject

def s3PutStreamed (uri : Uri) (isCopy : Bool) : Except S3ApiError ObjectOperation := do
  around.check .streamingAuthentication
  let acl ← s3QueryFlag uri "acl"
  if acl then do
    around.check (.sseHeaders .putObject)
    around.check (.bodyLimit maxErrorResponseBytes)
    around.check .payloadHash
    around.versionHandler uri .putAcl
  else do
    let uploadId ← s3QueryValue uri "uploadId"
    let partNumber ← s3QueryValue uri "partNumber"
    around.check (.sseHeaders (putContext isCopy (uploadId.isSome || partNumber.isSome)))
    if uploadId.isSome || partNumber.isSome then around.s3PutPart uri isCopy uploadId partNumber
    else around.s3PutWhole uri isCopy

def s3PutObjectVersionLock (uri : Uri) (lock : S3ObjectVersionLockOperation) :
    Except S3ApiError ObjectOperation := do
  around.check .objectKey
  let _ ← parseS3VersionId uri
  around.check lock.bypassCheck
  around.check (.handler (.putVersionLock lock))
  pure (.putVersionLock lock)

def s3PutObject (uri : Uri) (headers : HeaderMap) : Except S3ApiError ObjectOperation := do
  let tagging ← classifyS3ObjectTagging uri
  if tagging then do
    around.check (.bodyLimit maxS3XmlBodyBytes)
    around.check .authentication
    around.check (.sseHeaders .putObject)
    around.versionHandler uri .putTagging
  else do
    let lockOperation ← classifyS3ObjectVersionLock uri
    match lockOperation with
    | some lock => do
        around.check (.bodyLimit maxS3XmlBodyBytes)
        around.check .authentication
        around.check (.sseHeaders .putObject)
        around.s3PutObjectVersionLock uri lock
    | none => around.s3PutStreamed uri (headers.containsKey "x-amz-copy-source".toList)

def s3PostUpload (uri : Uri) : Except S3ApiError ObjectOperation := do
  let uploadId ← s3QueryValue uri "uploadId"
  match uploadId with
  | some uploadId => do
      around.check (.sseHeaders .completeMultipartUpload)
      around.check .multipartLockHeaders
      around.check .objectKey
      around.findS3MultipartUpload uploadId
      around.check (.handler (.completeMultipartUpload uploadId))
      pure (.completeMultipartUpload uploadId)
  | none => do
      around.check (.sseHeaders .postObject)
      throw (.notImplemented
        "Only CreateMultipartUpload and CompleteMultipartUpload are supported for POST.")

def s3PostObject (uri : Uri) : Except S3ApiError ObjectOperation := do
  around.check .authentication
  rejectS3Versioning uri
  let uploads ← s3QueryFlag uri "uploads"
  if uploads then do
    around.check (.sseHeaders .createMultipartUpload)
    around.check .multipartLockHeaders
    around.check .objectKey
    around.check (.handler .createMultipartUpload)
    pure .createMultipartUpload
  else around.s3PostUpload uri

def s3DeleteUploadOrObject (uri : Uri) : Except S3ApiError ObjectOperation := do
  let uploadId ← s3QueryValue uri "uploadId"
  match uploadId with
  | some uploadId => do
      rejectS3Versioning uri
      around.findS3MultipartUpload uploadId
      around.check (.handler (.abortMultipartUpload uploadId))
      pure (.abortMultipartUpload uploadId)
  | none => do
      around.check .objectKey
      let versionId ← parseS3VersionId uri
      around.check .bypassHeader
      around.check (.handler (.deleteObject versionId))
      pure (.deleteObject versionId)

def s3DeleteObject (uri : Uri) : Except S3ApiError ObjectOperation := do
  let taggingOperation ← classifyS3ObjectTagging uri
  around.check .authentication
  around.check (.sseHeaders .deleteObject)
  if taggingOperation then around.versionHandler uri .deleteTagging
  else around.s3DeleteUploadOrObject uri

/-- The routes of an object. -/
def dispatchObject (method : ObjectMethod) (uri : Uri) (headers : HeaderMap) :
    Except S3ApiError ObjectOperation :=
  match method with
  | .get | .head => around.s3GetObject method uri
  | .put => around.s3PutObject uri headers
  | .post => around.s3PostObject uri
  | .delete => around.s3DeleteObject uri

end Surroundings

end MediaHub.Http

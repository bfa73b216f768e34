import MediaHub.Http.ObjectFaithful

namespace MediaHub.Http

open Result

inductive BucketMethod where
  | get
  | put
  | delete
deriving DecidableEq

inductive S3BucketGetOperation where
  | listObjects
  | listObjectVersions
  | listMultipartUploads
  | getLocation
  | getVersioning
  | getLifecycle
  | getCors
  | getTagging
  | getEncryption
  | getNotification
  | getObjectLock
  | getPolicy
  | getPolicyStatus
  | unsupported (name : String)

inductive S3BucketPutOperation where
  | createBucket
  | putPolicy
  | putVersioning
  | putLifecycle
  | putCors
  | putTagging
  | putEncryption
  | putNotification
  | putObjectLock
  | unsupported (name : String)

inductive S3BucketDeleteOperation where
  | bucket
  | policy
  | lifecycle
  | cors
  | tagging
  | encryption
  | notification
  | unsupported (name : String)

/-- An operation on a bucket under the method of its request. -/
inductive BucketOperation where
  | get (operation : S3BucketGetOperation)
  | put (operation : S3BucketPutOperation)
  | delete (operation : S3BucketDeleteOperation)

/-- The request that an operation answers: its method and the subresource it names. -/
def BucketOperation.answers : BucketOperation → BucketMethod × Option String
  | .get .listObjects => (.get, none)
  | .get .listObjectVersions => (.get, some "versions")
  | .get .listMultipartUploads => (.get, some "uploads")
  | .get .getLocation => (.get, some "location")
  | .get .getVersioning => (.get, some "versioning")
  | .get .getLifecycle => (.get, some "lifecycle")
  | .get .getCors => (.get, some "cors")
  | .get .getTagging => (.get, some "tagging")
  | .get .getEncryption => (.get, some "encryption")
  | .get .getNotification => (.get, some "notification")
  | .get .getObjectLock => (.get, some "object-lock")
  | .get .getPolicy => (.get, some "policy")
  | .get .getPolicyStatus => (.get, some "policyStatus")
  | .get (.unsupported name) => (.get, some name)
  | .put .createBucket => (.put, none)
  | .put .putPolicy => (.put, some "policy")
  | .put .putVersioning => (.put, some "versioning")
  | .put .putLifecycle => (.put, some "lifecycle")
  | .put .putCors => (.put, some "cors")
  | .put .putTagging => (.put, some "tagging")
  | .put .putEncryption => (.put, some "encryption")
  | .put .putNotification => (.put, some "notification")
  | .put .putObjectLock => (.put, some "object-lock")
  | .put (.unsupported name) => (.put, some name)
  | .delete .bucket => (.delete, none)
  | .delete .policy => (.delete, some "policy")
  | .delete .lifecycle => (.delete, some "lifecycle")
  | .delete .cors => (.delete, some "cors")
  | .delete .tagging => (.delete, some "tagging")
  | .delete .encryption => (.delete, some "encryption")
  | .delete .notification => (.delete, some "notification")
  | .delete (.unsupported name) => (.delete, some name)

/-- The subresources that a method knows, in the order in which they are read. -/
def bucketSubresources : BucketMethod → List String
  | .get => ["location", "versioning", "lifecycle", "cors", "tagging", "encryption",
      "notification", "object-lock", "versions", "uploads", "policy", "policyStatus"]
  | .put | .delete => ["versioning", "lifecycle", "cors", "tagging", "encryption",
      "notification", "object-lock", "policy"]

/-- The other parameters of a method. -/
def listingParameters : BucketMethod → List String
  | .get => ["list-type", "prefix", "delimiter", "marker", "continuation-token", "start-after",
      "encoding-type", "max-keys", "key-marker", "version-id-marker", "max-uploads",
      "upload-id-marker"]
  | .put | .delete => []

/-- The parameters that a method does not take for unknown. -/
def bucketParameters (method : BucketMethod) : List String :=
  bucketSubresources method ++ listingParameters method

def allListQueryParameters : List String := listingParameters .get ++ ["uploads"]

section Classify

variable [FormDecoding]

structure BucketTaggingScan where
  taggingSeen : Bool
  unexpectedParameter : Bool

def bucketTaggingStep (scan : BucketTaggingScan) (parameter : String × Text) :
    Except S3ApiError BucketTaggingScan :=
  if parameter.1 = "tagging" then
    if !scan.taggingSeen && parameter.2.isEmpty then pure { scan with taggingSeen := true }
    else throw taggingOnce
  else if isTransportName parameter.1 then pure scan
  else pure { scan with unexpectedParameter := true }

def classifyS3BucketTagging (uri : Uri) : Except S3ApiError Bool := do
  let scan ← uri.parameters.foldlM bucketTaggingStep
    { taggingSeen := false, unexpectedParameter := false }
  if scan.taggingSeen && scan.unexpectedParameter then
    throw (.invalidRequest
      "Bucket Tagging cannot be combined with another subresource or listing parameter.")
  else pure scan.taggingSeen

def rejectS3ListingParameters (uri : Uri) (names : List String) : Except S3ApiError Unit :=
  rejectParameters uri (fun name => .invalidRequest
    ("Query parameter " ++ name ++ " is not valid for this bucket operation.")) names

def rejectWithConfiguration (uri : Uri) : Except S3ApiError Unit :=
  rejectParameters uri (fun _ => .invalidRequest
    "Bucket configuration parameters cannot be combined with listing parameters.")
    allListQueryParameters

/-- The listing parameters that an operation does not take are rejected. -/
def checkListingParameters (uri : Uri) (operation : S3BucketGetOperation) :
    Except S3ApiError Unit :=
  match operation with
  | .listObjects => rejectS3ListingParameters uri
      ["key-marker", "version-id-marker", "max-uploads", "upload-id-marker"]
  | .listObjectVersions => rejectS3ListingParameters uri
      ["list-type", "marker", "continuation-token", "start-after", "max-uploads",
        "upload-id-marker"]
  | .listMultipartUploads => rejectS3ListingParameters uri
      ["list-type", "marker", "continuation-token", "start-after", "max-keys",
        "version-id-marker"]
  | .unsupported _ => pure ()
  | _ => rejectWithConfiguration uri

def classifyS3BucketGet (uri : Uri) : Except S3ApiError S3BucketGetOperation := do
  let location ← s3QueryFlag uri "location"
  let versioning ← s3QueryFlag uri "versioning"
  let lifecycle ← s3QueryFlag uri "lifecycle"
  let cors ← s3QueryFlag uri "cors"
  let tagging ← classifyS3BucketTagging uri
  let encryption ← s3QueryFlag uri "encryption"
  let notification ← s3QueryFlag uri "notification"
  let objectLock ← s3QueryFlag uri "object-lock"
  let versions ← s3QueryFlag uri "versions"
  let uploads ← s3QueryFlag uri "uploads"
  let policy ← s3QueryFlag uri "policy"
  let policyStatus ← s3QueryFlag uri "policyStatus"
  let flags := [location, versioning, lifecycle, cors, tagging, encryption, notification,
    objectLock, versions, uploads, policy, policyStatus]
  if 1 < flags.count true then
    throw (.invalidRequest "Bucket subresources cannot be combined.")
  else do
    let operation :=
      match firstUnsupportedS3QueryParameter uri (bucketParameters .get) with
      | some name => .unsupported name
      | none =>
          if policy then .getPolicy
          else if policyStatus then .getPolicyStatus
          else if location then .getLocation
          else if versioning then .getVersioning
          else if lifecycle then .getLifecycle
          else if cors then .getCors
          else if tagging then .getTagging
          else if encryption then .getEncryption
          else if notification then .getNotification
          else if objectLock then .getObjectLock
          else if versions then .listObjectVersions
          else if uploads then .listMultipartUploads
          else .listObjects
    checkListingParameters uri operation
    pure operation

/-- The flags that PUT and DELETE read. -/
structure ConfigurationFlags where
  versioning : Bool
  lifecycle : Bool
  cors : Bool
  tagging : Bool
  encryption : Bool
  notification : Bool
  objectLock : Bool
  policy : Bool

def readConfigurationFlags (uri : Uri) : Except S3ApiError ConfigurationFlags := do
  let versioning ← s3QueryFlag uri "versioning"
  let lifecycle ← s3QueryFlag uri "lifecycle"
  let cors ← s3QueryFlag uri "cors"
  let tagging ← classifyS3BucketTagging uri
  let encryption ← s3QueryFlag uri "encryption"
  let notification ← s3QueryFlag uri "notification"
  let objectLock ← s3QueryFlag uri "object-lock"
  let policy ← s3QueryFlag uri "policy"
  let flags := [versioning, lifecycle, cors, tagging, encryption, notification, objectLock, policy]
  if 1 < flags.count true then
    throw (.invalidRequest "Bucket configuration subresources cannot be combined.")
  else
    pure
      { versioning := versioning
        lifecycle := lifecycle
        cors := cors
        tagging := tagging
        encryption := encryption
        notification := notification
        objectLock := objectLock
        policy := policy }

def classifyS3BucketPut (uri : Uri) : Except S3ApiError S3BucketPutOperation := do
  let flags ← readConfigurationFlags uri
  match firstUnsupportedS3QueryParameter uri (bucketParameters .put) with
  | some name => pure (.unsupported name)
  | none => pure <|
      if flags.policy then .putPolicy
      else if flags.versioning then .putVersioning
      else if flags.lifecycle then .putLifecycle
      else if flags.cors then .putCors
      else if flags.tagging then .putTagging
      else if flags.encryption then .putEncryption
      else if flags.notification then .putNotification
      else if flags.objectLock then .putObjectLock
      else .createBucket

def classifyS3BucketDelete (uri : Uri) : Except S3ApiError S3BucketDeleteOperation := do
  let flags ← readConfigurationFlags uri
  if flags.versioning then
    throw (.methodNotAllowed "DeleteBucketVersioning is not an S3 operation.")
  else if flags.objectLock then
    throw (.methodNotAllowed "Object Lock cannot be disabled after it has been enabled.")
  else
    match firstUnsupportedS3QueryParameter uri (bucketParameters .delete) with
    | some name => pure (.unsupported name)
    | none => pure <|
        if flags.policy then .policy
        else if flags.lifecycle then .lifecycle
        else if flags.cors then .cors
        else if flags.tagging then .tagging
        else if flags.encryption then .encryption
        else if flags.notification then .notification
        else .bucket

def bucketEncryptionMissing : S3ApiError := .notImplemented "Bucket Encryption is not implemented."

def bucketNotificationMissing : S3ApiError :=
  .notImplemented "Bucket Notification is not implemented."

def bucketSubresourceMissing (name : String) : S3ApiError :=
  .notImplemented ("The " ++ name ++ " Bucket subresource is not implemented.")

/-- What is checked besides the query of a request on a bucket. -/
inductive BucketCheck where
  | bodyLimit (maximum : Nat)
  | handler (operation : BucketOperation)

/-- The outcome of these checks. -/
structure BucketSurroundings where
  check : BucketCheck → Except S3ApiError Unit

namespace BucketSurroundings

variable (around : BucketSurroundings)

def s3BucketGet (uri : Uri) : Except S3ApiError BucketOperation := do
  let operation ← classifyS3BucketGet uri
  match operation with
  | .getEncryption => throw bucketEncryptionMissing
  | .getNotification => throw bucketNotificationMissing
  | .unsupported name => throw (bucketSubresourceMissing name)
  | operation => do
      around.check (.handler (.get operation))
      pure (.get operation)

/-- The policy is dispatched before the body is read. -/
def s3BucketPut (uri : Uri) : Except S3ApiError BucketOperation := do
  let operation ← classifyS3BucketPut uri
  match operation with
  | .putPolicy => do
      around.check (.handler (.put .putPolicy))
      pure (.put .putPolicy)
  | .putEncryption => do
      around.check (.bodyLimit (maxS3BucketConfigurationBytes + 1))
      throw bucketEncryptionMissing
  | .putNotification => do
      around.check (.bodyLimit (maxS3BucketConfigurationBytes + 1))
      throw bucketNotificationMissing
  | .unsupported name => do
      around.check (.bodyLimit (maxS3BucketConfigurationBytes + 1))
      throw (bucketSubresourceMissing name)
  | operation => do
      around.check (.bodyLimit (maxS3BucketConfigurationBytes + 1))
      around.check (.handler (.put operation))
      pure (.put operation)

def s3BucketDelete (uri : Uri) : Except S3ApiError BucketOperation := do
  let operation ← classifyS3BucketDelete uri
  match operation with
  | .encryption => throw bucketEncryptionMissing
  | .notification => throw bucketNotificationMissing
  | .unsupported name => throw (bucketSubresourceMissing name)
  | operation => do
      around.check (.handler (.delete operation))
      pure (.delete operation)

/-- The routes of a bucket. -/
def dispatchBucket (method : BucketMethod) (uri : Uri) : Except S3ApiError BucketOperation :=
  match method with
  | .get => around.s3BucketGet uri
  | .put => around.s3BucketPut uri
  | .delete => around.s3BucketDelete uri

end BucketSurroundings

end Classify

end MediaHub.Http

import MediaHub.Core.Bucket

namespace MediaHub.Core

/-- The public version id: `null`, the text of a UUID, or any other text a client sends. -/
inductive S3VersionId where
  | null
  | uuid (id : Uuid)
  | text (value : String)
deriving DecidableEq

def S3VersionId.isNull : S3VersionId → Bool
  | .null => true
  | _ => false

theorem S3VersionId.isNull_iff {id : S3VersionId} : id.isNull = true ↔ id = .null := by
  cases id <;> simp [isNull]

inductive ObjectVersionState where
  | staged
  | committed
  | deleting
  | failed
deriving DecidableEq

/-- An MD5 or SHA-256 digest as bytes; its hexadecimal text is not modelled. -/
abbrev Digest := List UInt8

def validMd5 (digest : Digest) : Bool := digest.length = 16

inductive EntityTag where
  | md5 (digest : Digest)
  | multipart (digest : Digest) (partCount : Nat)
  | text (value : String)
deriving DecidableEq

def maxS3MultipartPartNumber : Nat := 10000

def isMultipartEtag : EntityTag → Bool
  | .multipart digest partCount =>
      validMd5 digest && 1 ≤ partCount && partCount ≤ maxS3MultipartPartNumber
  | _ => false

structure Checksum where
  sha256 : Digest
deriving DecidableEq

/-- Storage keys are rendered from ids only, so equal keys come from equal ids. -/
inductive StorageKey where
  /-- `s3/staging/{intent}/{version}` -/
  | staging (intent : UploadIntentId) (version : ObjectVersionId)
  /-- `s3/objects/{application}/{bucket}/{version}` -/
  | object (application : ApplicationId) (bucket : BucketId) (version : ObjectVersionId)
  /-- `temporary/s3-multipart/{upload}/{part}/{nonce}` -/
  | part (upload : MultipartUploadId) (partNumber : Nat) (nonce : Uuid)
deriving DecidableEq

/-- The names that `ObjectStore::backend_name` can give. -/
inductive StorageBackend where
  | localStore
  | s3
  | memory
deriving DecidableEq

/-- Where a payload lies. Rendered ids and backend names always pass
`validate_storage_locator`, so every locator is valid. -/
structure StorageLocator where
  backend : StorageBackend
  key : StorageKey
deriving DecidableEq

abbrev UserMetadata := List (String × String)

/-- Content facts of a version that is not a delete marker. -/
structure StoredObjectVersion where
  locator : StorageLocator
  etag : EntityTag
  sizeBytes : Nat
  contentType : Option String
  userMetadata : UserMetadata
  checksum : Option Checksum
deriving DecidableEq

inductive ObjectVersionPayload where
  | object (stored : StoredObjectVersion)
  | deleteMarker
deriving DecidableEq

def validCreatedBy (createdBy : String) : Bool := createdBy ≠ "" && !hasAsciiControl createdBy

/-- One version of an object, as its row holds it. The fields that `from_persistence` checks
carry the proof of the check. -/
structure ObjectVersion where
  id : ObjectVersionId
  objectId : ObjectId
  applicationId : ApplicationId
  bucketId : BucketId
  externalVersionId : S3VersionId
  generation : Nat
  state : ObjectVersionState
  payload : ObjectVersionPayload
  retention : Option ObjectRetention
  legalHold : Bool
  createdBy : String
  createdAt : Time
  becameNoncurrentAt : Option Time
  supersededAt : Option Time
  generation_ne_zero : generation ≠ 0
  createdBy_valid : validCreatedBy createdBy
  marker_unlocked : payload = .deleteMarker → retention = none ∧ legalHold = false
deriving DecidableEq

/-- The columns of a version that no statement rewrites. -/
structure VersionFacts where
  id : ObjectVersionId
  objectId : ObjectId
  applicationId : ApplicationId
  bucketId : BucketId
  externalVersionId : S3VersionId
  generation : Nat
  payload : ObjectVersionPayload
  createdBy : String
  createdAt : Time
deriving DecidableEq

namespace ObjectVersion

def facts (version : ObjectVersion) : VersionFacts where
  id := version.id
  objectId := version.objectId
  applicationId := version.applicationId
  bucketId := version.bucketId
  externalVersionId := version.externalVersionId
  generation := version.generation
  payload := version.payload
  createdBy := version.createdBy
  createdAt := version.createdAt

def isNullVersion (version : ObjectVersion) : Bool := version.externalVersionId.isNull

def isDeleteMarker (version : ObjectVersion) : Bool := version.payload = .deleteMarker

/-- Visible to S3: committed and not replaced. -/
def isActive (version : ObjectVersion) : Bool :=
  version.state = .committed && version.supersededAt = none

theorem supersededAt_of_active {version : ObjectVersion} (h : version.isActive) :
    version.supersededAt = none := by
  simp only [isActive, Bool.and_eq_true, decide_eq_true_eq] at h
  exact h.2

def locator? (version : ObjectVersion) : Option StorageLocator :=
  match version.payload with
  | .object stored => some stored.locator
  | .deleteMarker => none

/-- `object_version_size_bytes`: a delete marker has no payload. -/
def sizeBytes (version : ObjectVersion) : Nat :=
  match version.payload with
  | .object stored => stored.sizeBytes
  | .deleteMarker => 0

section Facts

variable {version other : ObjectVersion}

theorem id_of_facts (h : version.facts = other.facts) : version.id = other.id :=
  congrArg VersionFacts.id h

theorem objectId_of_facts (h : version.facts = other.facts) :
    version.objectId = other.objectId :=
  congrArg VersionFacts.objectId h

theorem applicationId_of_facts (h : version.facts = other.facts) :
    version.applicationId = other.applicationId :=
  congrArg VersionFacts.applicationId h

theorem bucketId_of_facts (h : version.facts = other.facts) :
    version.bucketId = other.bucketId :=
  congrArg VersionFacts.bucketId h

theorem externalVersionId_of_facts (h : version.facts = other.facts) :
    version.externalVersionId = other.externalVersionId :=
  congrArg VersionFacts.externalVersionId h

theorem generation_of_facts (h : version.facts = other.facts) :
    version.generation = other.generation :=
  congrArg VersionFacts.generation h

theorem payload_of_facts (h : version.facts = other.facts) : version.payload = other.payload :=
  congrArg VersionFacts.payload h

theorem isNullVersion_of_facts (h : version.facts = other.facts) :
    version.isNullVersion = other.isNullVersion := by
  unfold isNullVersion
  rw [externalVersionId_of_facts h]

theorem locator?_of_facts (h : version.facts = other.facts) :
    version.locator? = other.locator? := by
  unfold locator?
  rw [payload_of_facts h]

theorem sizeBytes_of_facts (h : version.facts = other.facts) :
    version.sizeBytes = other.sizeBytes := by
  unfold sizeBytes
  rw [payload_of_facts h]

end Facts

def newObject (id : ObjectVersionId) (objectId : ObjectId) (applicationId : ApplicationId)
    (bucketId : BucketId) (externalVersionId : S3VersionId) (generation : Nat)
    (stored : StoredObjectVersion) (createdBy : String) (createdAt : Time) :
    Except S3ModelError ObjectVersion :=
  if hgeneration : generation ≠ 0 then
    if hcreatedBy : validCreatedBy createdBy then
      .ok {
        id, objectId, applicationId, bucketId, externalVersionId, generation
        state := .committed
        payload := .object stored
        retention := none
        legalHold := false
        createdBy, createdAt
        becameNoncurrentAt := none
        supersededAt := none
        generation_ne_zero := hgeneration
        createdBy_valid := hcreatedBy
        marker_unlocked := fun _ => ⟨rfl, rfl⟩ }
    else .error .invalidCreatedBy
  else .error .invalidObjectGeneration

def newDeleteMarker (id : ObjectVersionId) (objectId : ObjectId)
    (applicationId : ApplicationId) (bucketId : BucketId) (externalVersionId : S3VersionId)
    (generation : Nat) (isNullVersion : Bool) (createdBy : String) (createdAt : Time) :
    Except S3ModelError ObjectVersion :=
  if hgeneration : generation ≠ 0 then
    if isNullVersion ≠ externalVersionId.isNull then .error .invalidVersionId
    else if hcreatedBy : validCreatedBy createdBy then
      .ok {
        id, objectId, applicationId, bucketId, externalVersionId, generation
        state := .committed
        payload := .deleteMarker
        retention := none
        legalHold := false
        createdBy, createdAt
        becameNoncurrentAt := none
        supersededAt := none
        generation_ne_zero := hgeneration
        createdBy_valid := hcreatedBy
        marker_unlocked := fun _ => ⟨rfl, rfl⟩ }
    else .error .invalidCreatedBy
  else .error .invalidObjectGeneration

/-- Freezes Object Lock metadata on a data version that is being committed. -/
def withInitialObjectLock (version : ObjectVersion) (retention : Option ObjectRetention)
    (legalHold : Bool) : Except S3ModelError ObjectVersion :=
  if hdata : version.state = .committed ∧ version.payload ≠ .deleteMarker then
    if (retention.any fun value => value.retainUntil ≤ version.createdAt) then
      .error .invalidObjectRetention
    else .ok { version with
      retention, legalHold, marker_unlocked := fun h => absurd h hdata.2 }
  else .error .invalidObjectVersionPayload

inductive RetentionUpdateError where
  | invalidVersion
  | retainUntilMustBeFuture
  | complianceRetentionLocked
  | governanceRetentionLocked
deriving DecidableEq

/-- The retention that still holds at `now` and how it refuses an update. -/
def retentionUpdateRefusal (current : Option ObjectRetention) (retention : ObjectRetention)
    (now : Time) (bypassGovernance : Bool) : Option RetentionUpdateError :=
  match current.filter fun value => now < value.retainUntil with
  | none => none
  | some current => match current.mode with
    | .compliance =>
        if retention.mode ≠ .compliance ∨ retention.retainUntil < current.retainUntil then
          some .complianceRetentionLocked
        else none
    | .governance =>
        if retention.retainUntil < current.retainUntil ∧ !bypassGovernance then
          some .governanceRetentionLocked
        else none

def withRetentionUpdate (version : ObjectVersion) (retention : ObjectRetention) (now : Time)
    (bypassGovernance : Bool) : Except RetentionUpdateError ObjectVersion :=
  if hdata : version.state = .committed ∧ version.payload ≠ .deleteMarker then
    if retention.retainUntil ≤ now then .error .retainUntilMustBeFuture
    else match retentionUpdateRefusal version.retention retention now bypassGovernance with
      | some error => .error error
      | none => .ok { version with
          retention := some retention, marker_unlocked := fun h => absurd h hdata.2 }
  else .error .invalidVersion

def withLegalHoldUpdate (version : ObjectVersion) (legalHold : Bool) :
    Except S3ModelError ObjectVersion :=
  if hdata : version.state = .committed ∧ version.payload ≠ .deleteMarker then
    .ok { version with legalHold, marker_unlocked := fun h => absurd h hdata.2 }
  else .error .invalidObjectVersionPayload

end ObjectVersion

/-- The logical `(bucket, key)` record; its pointer is the only latest marker. -/
structure S3Object where
  id : ObjectId
  applicationId : ApplicationId
  bucketId : BucketId
  key : String
  currentVersionId : Option ObjectVersionId
  generation : Nat
  createdAt : Time
  updatedAt : Time
deriving DecidableEq

def S3Object.new (id : ObjectId) (applicationId : ApplicationId) (bucketId : BucketId)
    (key : String) (now : Time) : Except S3ModelError S3Object :=
  if validObjectKey key then
    .ok { id, applicationId, bucketId, key, currentVersionId := none, generation := 0
          createdAt := now, updatedAt := now }
  else .error .invalidObjectKey

def S3Object.advancedTo (object : S3Object) (version : ObjectVersion) (now : Time) :
    Except S3ModelError S3Object :=
  if version.objectId ≠ object.id ∨ version.applicationId ≠ object.applicationId ∨
      version.bucketId ≠ object.bucketId then
    .error .objectVersionOwnershipMismatch
  else if version.state ≠ .committed then .error .invalidObjectVersionPayload
  else match checkedAddU64 object.generation 1 with
    | none => .error .invalidObjectGeneration
    | some generation =>
        if version.generation ≠ generation then .error .invalidObjectGeneration
        else .ok { object with
          currentVersionId := some version.id, generation, updatedAt := now }

end MediaHub.Core

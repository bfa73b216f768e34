import MediaHub.Core.ObjectVersion
import MediaHub.Relational.Table

namespace MediaHub.Core

open Relational

inductive UploadIntentState where
  | staging
  | ready
  | committing
  | committed
  | aborted
  | expired
deriving DecidableEq

/-- `staging`, `ready` and `committing` intents still own their payload and reservation. -/
def UploadIntentState.isLive : UploadIntentState → Bool
  | .staging | .ready | .committing => true
  | .committed | .aborted | .expired => false

def maxS3ObjectTags : Nat := 10

/-- Object tags are only built through their validating constructor. -/
structure S3ObjectTagSet where
  tags : List (String × String)
  length_le : tags.length ≤ maxS3ObjectTags
  keys_nodup : (tags.map Prod.fst).Nodup
deriving DecidableEq

def S3ObjectTagSet.empty : S3ObjectTagSet := ⟨[], by decide, by decide⟩

/-- The raw row of an upload intent: the durable owner of one in-flight payload. What a
consistent row looks like is checked by `fromPersistence`. -/
structure UploadIntent where
  id : UploadIntentId
  applicationId : ApplicationId
  bucketId : BucketId
  objectKey : String
  proposedVersionId : ObjectVersionId
  state : UploadIntentState
  storageBackend : StorageBackend
  temporaryStorageKey : StorageKey
  finalStorageKey : StorageKey
  entityTag : Option EntityTag
  checksum : Option Checksum
  expectedSizeBytes : Nat
  sizeBytes : Option Nat
  contentType : Option String
  userMetadata : UserMetadata
  objectTags : S3ObjectTagSet
  leaseToken : Option String
  leaseUntil : Option Time
  committedObjectId : Option ObjectId
  committedVersionId : Option ObjectVersionId
  expiresAt : Time
  createdAt : Time
  updatedAt : Time

/-- The columns of an intent that no statement rewrites. -/
structure IntentFacts where
  id : UploadIntentId
  applicationId : ApplicationId
  bucketId : BucketId
  objectKey : String
  proposedVersionId : ObjectVersionId
  storageBackend : StorageBackend
  temporaryStorageKey : StorageKey
  finalStorageKey : StorageKey
  expectedSizeBytes : Nat
  contentType : Option String
  userMetadata : UserMetadata
  objectTags : S3ObjectTagSet
  expiresAt : Time
  createdAt : Time

namespace UploadIntent

def facts (intent : UploadIntent) : IntentFacts where
  id := intent.id
  applicationId := intent.applicationId
  bucketId := intent.bucketId
  objectKey := intent.objectKey
  proposedVersionId := intent.proposedVersionId
  storageBackend := intent.storageBackend
  temporaryStorageKey := intent.temporaryStorageKey
  finalStorageKey := intent.finalStorageKey
  expectedSizeBytes := intent.expectedSizeBytes
  contentType := intent.contentType
  userMetadata := intent.userMetadata
  objectTags := intent.objectTags
  expiresAt := intent.expiresAt
  createdAt := intent.createdAt

instance : Keyed UploadIntent UploadIntentId := ⟨UploadIntent.id⟩

def temporaryLocator (intent : UploadIntent) : StorageLocator :=
  ⟨intent.storageBackend, intent.temporaryStorageKey⟩

def finalLocator (intent : UploadIntent) : StorageLocator :=
  ⟨intent.storageBackend, intent.finalStorageKey⟩

def factCount (intent : UploadIntent) : Nat :=
  intent.entityTag.isSome.toNat + intent.checksum.isSome.toNat + intent.sizeBytes.isSome.toNat

def hasFacts (intent : UploadIntent) : Bool := intent.factCount = 3

def hasLease (intent : UploadIntent) : Bool :=
  intent.leaseToken.isSome && intent.leaseUntil.isSome

def hasCommit (intent : UploadIntent) : Bool :=
  intent.committedObjectId.isSome && intent.committedVersionId.isSome

def stateIsValid (intent : UploadIntent) : Bool :=
  match intent.state with
  | .staging => !intent.hasFacts && !intent.hasLease && !intent.hasCommit
  | .ready => intent.hasFacts && !intent.hasLease && !intent.hasCommit
  | .committing => intent.hasFacts && intent.hasLease && !intent.hasCommit
  | .committed => intent.hasFacts && !intent.hasLease && intent.hasCommit
  | .aborted | .expired => !intent.hasLease && !intent.hasCommit

/-- The state/field consistency of a row. -/
def fromPersistence (intent : UploadIntent) : Except S3ModelError UploadIntent :=
  if !validObjectKey intent.objectKey then .error .invalidObjectKey
  else if intent.temporaryStorageKey = intent.finalStorageKey ∨
      intent.expiresAt ≤ intent.createdAt then
    .error .invalidUploadIntent
  else if intent.factCount ≠ 0 ∧ intent.factCount ≠ 3 then .error .invalidUploadIntent
  else if intent.sizeBytes.any (· ≠ intent.expectedSizeBytes) then .error .invalidUploadIntent
  else if !intent.stateIsValid ∨ intent.leaseToken.isSome ≠ intent.leaseUntil.isSome ∨
      intent.committedObjectId.isSome ≠ intent.committedVersionId.isSome ∨
      intent.leaseToken.any (!validToken ·) then
    .error .invalidUploadIntent
  else .ok intent

def new (id : UploadIntentId) (applicationId : ApplicationId) (bucketId : BucketId)
    (objectKey : String) (proposedVersionId : ObjectVersionId)
    (storageBackend : StorageBackend) (temporaryStorageKey finalStorageKey : StorageKey)
    (expectedSizeBytes : Nat) (contentType : Option String) (userMetadata : UserMetadata)
    (objectTags : S3ObjectTagSet) (expiresAt now : Time) :
    Except S3ModelError UploadIntent :=
  fromPersistence {
    id, applicationId, bucketId, objectKey, proposedVersionId
    state := .staging
    storageBackend, temporaryStorageKey, finalStorageKey
    entityTag := none
    checksum := none
    expectedSizeBytes
    sizeBytes := none
    contentType, userMetadata, objectTags
    leaseToken := none
    leaseUntil := none
    committedObjectId := none
    committedVersionId := none
    expiresAt
    createdAt := now
    updatedAt := now }

end UploadIntent

inductive StorageGcReason where
  | abortedUploadIntent
  | multipartTemporary
  | replacedNullVersion
  | lifecycleExpiration
  | explicitDelete
deriving DecidableEq

/-- Only a leased task has a lease, and only a completed one has a completion time. -/
inductive StorageGcTaskState where
  | pending
  | leased (token : String) (until_ : Time)
  | completed (completedAt : Time)
  | deadLetter

/-- The owner that a cleanup task names: who it is, and why it is queued. -/
structure GcProvenance where
  applicationId : ApplicationId
  bucketId : BucketId
  objectVersionId : Option ObjectVersionId
  uploadIntentId : Option UploadIntentId
  multipartUploadId : Option MultipartUploadId
  reason : StorageGcReason
deriving DecidableEq

structure NewStorageGcTask where
  locator : StorageLocator
  provenance : GcProvenance
  notBefore : Time
  maxAttempts : Nat
  createdAt : Time
deriving DecidableEq

/-- Locators and multipart ids are valid by their types. -/
def NewStorageGcTask.validate (task : NewStorageGcTask) : Except S3ModelError Unit :=
  if task.maxAttempts = 0 then .error .invalidStorageGcTask else .ok ()

/-- The row of a cleanup task. Its table has one row for each locator. -/
structure StorageGcTask where
  task : NewStorageGcTask
  state : StorageGcTaskState
  attempts : Nat
  updatedAt : Time
  attempts_le : attempts ≤ task.maxAttempts

instance : Keyed StorageGcTask StorageLocator := ⟨fun row => row.task.locator⟩

instance : Keyed ObjectVersion ObjectVersionId := ⟨ObjectVersion.id⟩

instance : Keyed S3Object ObjectId := ⟨S3Object.id⟩

instance : Keyed S3Bucket BucketId := ⟨S3Bucket.id⟩

inductive S3MultipartUploadState where
  | pending
  | completing
  | completed
  | aborted
deriving DecidableEq

/-- `pending` and `completing` uploads can still be completed. -/
def S3MultipartUploadState.isOpen : S3MultipartUploadState → Bool
  | .pending | .completing => true
  | .completed | .aborted => false

/-- One line of a CompleteMultipartUpload request. -/
structure CompletedS3MultipartPart where
  partNumber : Nat
  etag : EntityTag
deriving DecidableEq

/-- The row of a multipart upload, its completion claim included. -/
structure S3MultipartUpload where
  uploadId : MultipartUploadId
  applicationId : ApplicationId
  bucketId : BucketId
  objectKey : String
  contentType : String
  userMetadata : UserMetadata
  objectTags : S3ObjectTagSet
  storageBackend : StorageBackend
  state : S3MultipartUploadState
  expiresAt : Time
  completionToken : Option String
  completionLeaseUntil : Option Time
  completionManifest : Option (List CompletedS3MultipartPart)
  uploadIntentId : Option UploadIntentId
  objectId : Option ObjectId
  objectVersionId : Option ObjectVersionId
  finalEtag : Option EntityTag
  finalChecksum : Option Checksum
  completedAt : Option Time
  abortedAt : Option Time
  createdAt : Time
  updatedAt : Time
deriving DecidableEq

instance : Keyed S3MultipartUpload MultipartUploadId := ⟨S3MultipartUpload.uploadId⟩

/-- The facts of an uploaded part before it has a row. -/
structure NewS3MultipartPart where
  partNumber : Nat
  size : Nat
  sha256 : Digest
  md5 : Digest
  etag : EntityTag
  storageKey : StorageKey

structure S3MultipartPart where
  uploadId : MultipartUploadId
  partNumber : Nat
  size : Nat
  sha256 : Digest
  md5 : Digest
  etag : EntityTag
  storageKey : StorageKey
  createdAt : Time
  updatedAt : Time

instance : Keyed S3MultipartPart (MultipartUploadId × Nat) :=
  ⟨fun part => (part.uploadId, part.partNumber)⟩

inductive S3MultipartManifestError where
  | empty
  | invalidPartNumber (partNumber : Nat)
  | invalidPartOrder
  | missingPart (partNumber : Nat)
  | etagMismatch (partNumber : Nat)

/-- The MD5 of the runtime: the server's and the database's compute the same function. -/
class Md5 where
  md5 : Digest → Digest

/-- The part numbers of a manifest are in range and strictly increasing. -/
def checkManifestOrder (previous : Option Nat) :
    List CompletedS3MultipartPart → Except S3MultipartManifestError Unit
  | [] => .ok ()
  | item :: rest =>
      if ¬ (1 ≤ item.partNumber ∧ item.partNumber ≤ maxS3MultipartPartNumber) then
        .error (.invalidPartNumber item.partNumber)
      else if previous.any (item.partNumber ≤ ·) then .error .invalidPartOrder
      else checkManifestOrder (some item.partNumber) rest

def selectManifestPart (parts : List S3MultipartPart) (item : CompletedS3MultipartPart) :
    Except S3MultipartManifestError S3MultipartPart :=
  match parts.find? (·.partNumber = item.partNumber) with
  | none => .error (.missingPart item.partNumber)
  | some part =>
      if part.etag ≠ item.etag then .error (.etagMismatch item.partNumber) else .ok part

def selectManifestParts (parts : List S3MultipartPart) :
    List CompletedS3MultipartPart → Except S3MultipartManifestError (List S3MultipartPart)
  | [] => .ok []
  | item :: rest => do
      let part ← selectManifestPart parts item
      let selected ← selectManifestParts parts rest
      pure (part :: selected)

/-- The parts that a manifest names, in its order. -/
def validateManifest (manifest : List CompletedS3MultipartPart)
    (parts : List S3MultipartPart) :
    Except S3MultipartManifestError (List S3MultipartPart) := do
  if manifest = [] then throw .empty
  checkManifestOrder none manifest
  selectManifestParts parts manifest

/-- Part sizes are added up in `u64`. -/
def selectedTotalSize (parts : List S3MultipartPart) : Option Nat :=
  if (parts.map (·.size)).sum ≤ maxU64 then some (parts.map (·.size)).sum else none

end MediaHub.Core

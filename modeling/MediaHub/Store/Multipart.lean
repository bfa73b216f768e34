import MediaHub.Store.UploadIntent

namespace MediaHub.Store

open Relational
open MediaHub.Core

def maxS3MultipartExpiryLimit : Nat := 1000

def maxS3MultipartActiveUploadsPerApplication : Nat := 1000

def defaultS3MultipartGcMaxAttempts : Nat := 10

namespace S3MultipartUpload

def claim (manifest : List CompletedS3MultipartPart) (completionToken : String)
    (leaseUntil now : Time) : Update S3MultipartUpload where
  apply upload :=
    { upload with
      state := .completing
      completionToken := some completionToken
      completionLeaseUntil := some leaseUntil
      completionManifest := some manifest
      updatedAt := now }
  key_apply _ := rfl

def attach (intentId : UploadIntentId) (now : Time) : Update S3MultipartUpload where
  apply upload := { upload with uploadIntentId := some intentId, updatedAt := now }
  key_apply _ := rfl

def release (now : Time) : Update S3MultipartUpload where
  apply upload :=
    { upload with
      state := .pending
      completionToken := none
      completionLeaseUntil := none
      completionManifest := none
      uploadIntentId := none
      updatedAt := now }
  key_apply _ := rfl

def abort (now : Time) : Update S3MultipartUpload where
  apply upload :=
    { upload with
      state := .aborted
      completionToken := none
      completionLeaseUntil := none
      completionManifest := none
      abortedAt := some now
      updatedAt := now }
  key_apply _ := rfl

def complete (objectId : ObjectId) (versionId : ObjectVersionId) (finalEtag : EntityTag)
    (finalChecksum : Checksum) (completedAt : Time) : Update S3MultipartUpload where
  apply upload :=
    { upload with
      state := .completed
      completionToken := none
      completionLeaseUntil := none
      objectId := some objectId
      objectVersionId := some versionId
      finalEtag := some finalEtag
      finalChecksum := some finalChecksum
      completedAt := some completedAt
      updatedAt := completedAt }
  key_apply _ := rfl

def leaseIsLive (now : Time) (upload : S3MultipartUpload) : Bool :=
  upload.completionLeaseUntil.any (now < ·)

/-- The claim that attaching, releasing and completing must hold. -/
def holdsClaim (completionToken : String) (now : Time) (upload : S3MultipartUpload) : Bool :=
  upload.state = .completing && upload.completionToken = some completionToken &&
  leaseIsLive now upload

/-- `state = 'pending' OR (state = 'completing' AND completion_lease_until <= now)` -/
def isLapsed (now : Time) (upload : S3MultipartUpload) : Bool :=
  upload.state = .pending ||
  (upload.state = .completing && upload.completionLeaseUntil.any (· ≤ now))

def isExpirable (now : Time) (upload : S3MultipartUpload) : Bool :=
  upload.expiresAt ≤ now && isLapsed now upload

/-- `ORDER BY application_id, bucket_id, expires_at, upload_id` -/
def expiresBefore (a b : S3MultipartUpload) : Bool :=
  a.applicationId < b.applicationId || (a.applicationId = b.applicationId &&
    (a.bucketId < b.bucketId || (a.bucketId = b.bucketId &&
      (a.expiresAt < b.expiresAt || (a.expiresAt = b.expiresAt && a.uploadId ≤ b.uploadId)))))

end S3MultipartUpload

structure NewS3MultipartUpload where
  uploadId : MultipartUploadId
  applicationId : ApplicationId
  bucketId : BucketId
  objectKey : String
  contentType : String
  userMetadata : UserMetadata
  objectTags : S3ObjectTagSet
  storageBackend : StorageBackend
  expiresAt : Time
  createdAt : Time

def NewS3MultipartUpload.validate (upload : NewS3MultipartUpload) : Transaction Unit := do
  require (upload.objectKey ≠ "" ∧ upload.contentType ≠ "")
    (.invariant "multipart identity, content type, backend, and metadata are invalid")
  require (upload.createdAt < upload.expiresAt)
    (.invariant "multipart upload expiry must be after creation")

/-- The row of a new upload. -/
def NewS3MultipartUpload.row (upload : NewS3MultipartUpload) : S3MultipartUpload where
  uploadId := upload.uploadId
  applicationId := upload.applicationId
  bucketId := upload.bucketId
  objectKey := upload.objectKey
  contentType := upload.contentType
  userMetadata := upload.userMetadata
  objectTags := upload.objectTags
  storageBackend := upload.storageBackend
  state := .pending
  expiresAt := postgresTime upload.expiresAt
  completionToken := none
  completionLeaseUntil := none
  completionManifest := none
  uploadIntentId := none
  objectId := none
  objectVersionId := none
  finalEtag := none
  finalChecksum := none
  completedAt := none
  abortedAt := none
  createdAt := postgresTime upload.createdAt
  updatedAt := postgresTime upload.createdAt

def createMultipartUpload (upload : NewS3MultipartUpload) : Transaction S3MultipartUpload := do
  upload.validate
  lockS3QuotaBucket upload.applicationId upload.bucketId
  let application ← query fun db => db.applications.find? upload.applicationId
  require (application.isSome = true) .notFound
  let active ← query fun db => db.multipartUploads.rows.countP fun row =>
    row.applicationId = upload.applicationId && row.state.isOpen
  require (active < maxS3MultipartActiveUploadsPerApplication) .quotaExceeded
  insertRow uploadRows upload.row (upload.row.createdAt < upload.row.expiresAt)
    (fun _ => false) (checkViolation "s3_multipart_uploads" "s3_multipart_expiry_check")
    .conflict
  pure upload.row

def lockUpload (uploadId : MultipartUploadId) : Transaction S3MultipartUpload :=
  selectRow uploadRows uploadId .notFound

/-- The parts of an upload in part order. -/
def Database.listParts (db : Database) (uploadId : MultipartUploadId) : List S3MultipartPart :=
  (db.multipartParts.rows.filter (·.uploadId = uploadId)).insertionSort
    fun a b => a.partNumber ≤ b.partNumber

def multipartGcTask (upload : S3MultipartUpload) (uploadIntentId : Option UploadIntentId)
    (storageKey : StorageKey) (now : Time) : NewStorageGcTask where
  locator := ⟨upload.storageBackend, storageKey⟩
  provenance := {
    applicationId := upload.applicationId
    bucketId := upload.bucketId
    objectVersionId := none
    uploadIntentId
    multipartUploadId := some upload.uploadId
    reason := .multipartTemporary }
  notBefore := now
  maxAttempts := defaultS3MultipartGcMaxAttempts
  createdAt := now

def enqueueMultipartStorageKeys (upload : S3MultipartUpload)
    (uploadIntentId : Option UploadIntentId) (storageKeys : List StorageKey) (now : Time) :
    Transaction Unit :=
  forEach (fun key => insertStorageGcTask (multipartGcTask upload uploadIntentId key now))
    storageKeys

def intentIdentityMatches (upload : S3MultipartUpload) (intent : UploadIntent) : Bool :=
  intent.applicationId = upload.applicationId && intent.bucketId = upload.bucketId &&
  intent.objectKey = upload.objectKey && intent.storageBackend = upload.storageBackend &&
  intent.contentType = some upload.contentType && intent.userMetadata = upload.userMetadata

def validateIntentIdentity (upload : S3MultipartUpload) (intent : UploadIntent) :
    Transaction Unit :=
  require (intentIdentityMatches upload intent = true) .conflict

def lockAttachedUploadIntent (upload : S3MultipartUpload) :
    Transaction (Option UploadIntent) :=
  match upload.uploadIntentId with
  | none => pure none
  | some intentId => do
      let intent ← lockUploadIntent intentId
      validateIntentIdentity upload intent
      pure (some intent)

/-- Queues both keys of the attached intent for the upload, then ends the intent. The queue
refuses the keys if they are queued already for the intent alone. -/
def abortAttachedIntent (upload : S3MultipartUpload) (intent : UploadIntent)
    (completionToken : Option String) (now : Time) : Transaction Unit := do
  validateIntentIdentity upload intent
  require (intent.state ≠ .committed) .conflict
  require (completionToken.isSome → intent.state = .committing →
    intent.leaseToken = completionToken) .conflict
  lockS3QuotaBucket intent.applicationId intent.bucketId
  validateIntentIdentity upload intent
  enqueueMultipartStorageKeys upload (some intent.id)
    [intent.temporaryStorageKey, intent.finalStorageKey] now
  if intent.state.isLive then
    updateRow intentRows intent.id (·.state ≠ .committed)
      (UploadIntent.terminate .aborted (postgresTime now)) (fun _ => true) .conflict .conflict
    releaseS3UploadIntentQuota intent
  else pure ()

def abortLockedAttachedIntent (upload : S3MultipartUpload) (lockedIntent : Option UploadIntent)
    (completionToken : Option String) (now : Time) : Transaction Unit :=
  match upload.uploadIntentId, lockedIntent with
  | none, none => pure ()
  | some expectedId, some intent =>
      if intent.id = expectedId then abortAttachedIntent upload intent completionToken now
      else fail .conflict
  | _, _ => fail .conflict

def markAborted (uploadId : MultipartUploadId) (now : Time) : Transaction Unit :=
  updateRow uploadRows uploadId (·.state.isOpen) (S3MultipartUpload.abort (postgresTime now))
    (fun _ => true) .conflict .conflict

def abortUploadAndEnqueueCleanupWithLockedIntent (upload : S3MultipartUpload)
    (lockedIntent : Option UploadIntent) (completionToken : Option String) (now : Time) :
    Transaction Unit := do
  require (upload.state.isOpen = true) .conflict
  abortLockedAttachedIntent upload lockedIntent completionToken now
  let storageKeys ← query fun db => (db.listParts upload.uploadId).map (·.storageKey)
  enqueueMultipartStorageKeys upload none storageKeys now
  markAborted upload.uploadId now

def abortUploadAndEnqueueCleanup (upload : S3MultipartUpload)
    (completionToken : Option String) (now : Time) : Transaction Unit := do
  let intent ← lockAttachedUploadIntent upload
  abortUploadAndEnqueueCleanupWithLockedIntent upload intent completionToken now

inductive S3MultipartPartPut where
  | stored (part : S3MultipartPart)
  | notPending (upload : S3MultipartUpload)
  | expired (upload : S3MultipartUpload)

def validateNewPart (part : NewS3MultipartPart) : Transaction Unit := do
  require (1 ≤ part.partNumber ∧ part.partNumber ≤ maxS3MultipartPartNumber)
    (.invariant "multipart part number must be between 1 and 10000")
  require (part.sha256.length = 32)
    (.invariant "multipart part sha256 must be 64 hexadecimal characters")
  require (validMd5 part.md5 ∧ part.etag = .md5 part.md5)
    (.invariant "multipart part md5 and etag must be the same lowercase MD5 hex value")

/-- The row that stores a part; a replaced row keeps its creation time. -/
def partRow (uploadId : MultipartUploadId) (part : NewS3MultipartPart) (createdAt now : Time) :
    S3MultipartPart where
  uploadId := uploadId
  partNumber := part.partNumber
  size := part.size
  sha256 := part.sha256
  md5 := part.md5
  etag := part.etag
  storageKey := part.storageKey
  createdAt := createdAt
  updatedAt := now

/-- `ON CONFLICT (upload_id, part_number) DO UPDATE`, written for rows of that key only. -/
def replacePart (uploadId : MultipartUploadId) (part : NewS3MultipartPart) (now : Time) :
    Update S3MultipartPart where
  apply row :=
    if row.uploadId = uploadId ∧ row.partNumber = part.partNumber then
      partRow uploadId part row.createdAt now
    else row
  key_apply row := by
    by_cases h : row.uploadId = uploadId ∧ row.partNumber = part.partNumber
    · simp [h, Keyed.key, partRow]
    · simp [h]

def upsertPart (uploadId : MultipartUploadId) (part : NewS3MultipartPart) (now : Time) :
    Transaction S3MultipartPart := do
  let clash (row : S3MultipartPart) : Bool :=
    row.storageKey = part.storageKey &&
    (row.uploadId ≠ uploadId || row.partNumber ≠ part.partNumber)
  let taken ← query fun db => db.multipartParts.rows.any clash
  require (taken = false) .conflict
  let previous ← query fun db => db.multipartParts.find? (uploadId, part.partNumber)
  match previous with
  | none => write (·.mapMultipartParts (·.insert (partRow uploadId part now now)))
  | some _ => write (·.mapMultipartParts
      (·.update (uploadId, part.partNumber) (replacePart uploadId part now)))
  selectRow partRows (uploadId, part.partNumber) .notFound

def multipartStoredBytes (db : Database) (uploadId : MultipartUploadId) : Int :=
  ((db.multipartParts.rows.filter (·.uploadId = uploadId)).map fun row => (row.size : Int)).sum

/-- A part of an expired upload aborts the upload instead. -/
def putMultipartPart (uploadId : MultipartUploadId) (part : NewS3MultipartPart)
    (maximumUploadSize : Nat) (now : Time) : Transaction S3MultipartPartPut := do
  validateNewPart part
  require (maximumUploadSize ≠ 0)
    (.invariant "multipart maximum upload size must be positive")
  let now := postgresTime now
  let upload ← lockUpload uploadId
  if upload.state ≠ .pending then pure (.notPending upload)
  else if upload.expiresAt ≤ now then
    abortUploadAndEnqueueCleanup upload none now
    let upload ← lockUpload uploadId
    pure (.expired upload)
  else
    let previous ← query fun db => db.multipartParts.find? (uploadId, part.partNumber)
    let currentSize ← query fun db => multipartStoredBytes db uploadId
    let newTotal : Int := currentSize - ((previous.map (·.size)).getD 0 : Nat) + part.size
    require (part.size ≤ maxI64 ∧ newTotal ≤ maxI64) (.invariant "multipart size overflow")
    asI64 maximumUploadSize
    require (newTotal ≤ maximumUploadSize) .quotaExceeded
    match previous with
    | some previous =>
        if previous.storageKey ≠ part.storageKey then
          enqueueMultipartStorageKeys upload none [previous.storageKey] now
        else pure ()
    | none => pure ()
    let stored ← upsertPart uploadId part now
    pure (.stored stored)

/-- What a claimed completion works on. -/
structure S3MultipartManifest where
  upload : S3MultipartUpload
  parts : List S3MultipartPart
  totalSize : Nat
  unusedStorageKeys : List StorageKey

inductive S3MultipartCompletionClaim where
  | claimed (manifest : S3MultipartManifest)
  | alreadyCompleted (upload : S3MultipartUpload)
  | aborted (upload : S3MultipartUpload)
  | inProgress (upload : S3MultipartUpload)
  | expired (upload : S3MultipartUpload)
  | invalidManifest (error : S3MultipartManifestError)

def multipartTotalSize (parts : List S3MultipartPart) : Transaction Nat :=
  orThrow (selectedTotalSize parts) (.invariant "multipart total size exceeds u64")

/-- The claim of a pending or lapsed upload; its manifest replaces any earlier one. -/
def claimManifest (upload : S3MultipartUpload) (manifest : List CompletedS3MultipartPart)
    (completionToken : String) (leaseUntil now : Time) :
    Transaction S3MultipartCompletionClaim := do
  let parts ← query fun db => db.listParts upload.uploadId
  match validateManifest manifest parts with
  | .error error => pure (.invalidManifest error)
  | .ok selected =>
      let unusedStorageKeys := (parts.filter fun part =>
        part.partNumber ∉ selected.map (·.partNumber)).map (·.storageKey)
      let totalSize ← multipartTotalSize selected
      updateRow uploadRows upload.uploadId (·.state.isOpen)
        (S3MultipartUpload.claim manifest completionToken leaseUntil now)
        (fun _ => true) .conflict .conflict
      let upload ← lockUpload upload.uploadId
      pure (.claimed ⟨upload, selected, totalSize, unusedStorageKeys⟩)

def claimMultipartCompletion (uploadId : MultipartUploadId)
    (manifest : List CompletedS3MultipartPart) (completionToken : String)
    (leaseUntil now : Time) : Transaction S3MultipartCompletionClaim := do
  require (completionToken ≠ "" ∧ now < leaseUntil)
    (.invariant
      "multipart completion token must be non-empty and lease must be in the future")
  let now := postgresTime now
  let leaseUntil := postgresTime leaseUntil
  let upload ← lockUpload uploadId
  if upload.state = .completed then pure (.alreadyCompleted upload)
  else if upload.state = .aborted then pure (.aborted upload)
  else if upload.state = .completing ∧ S3MultipartUpload.leaseIsLive now upload then
    pure (.inProgress upload)
  else if upload.expiresAt ≤ now then
    abortUploadAndEnqueueCleanup upload none now
    let upload ← lockUpload uploadId
    pure (.expired upload)
  else claimManifest upload manifest completionToken leaseUntil now

/-- The intent of a completion holds the same token and has the facts of the manifest. -/
def isAttachableIntent (completionToken : String) (totalSize : Nat) (now : Time)
    (intent : UploadIntent) : Bool :=
  UploadIntent.holdsLease completionToken now intent && intent.expectedSizeBytes = totalSize &&
  intent.sizeBytes = some totalSize && intent.entityTag.any isMultipartEtag &&
  intent.checksum.isSome

def attachMultipartUploadIntent (uploadId : MultipartUploadId) (completionToken : String)
    (intentId : UploadIntentId) (now : Time) : Transaction S3MultipartUpload := do
  let now := postgresTime now
  let upload ← lockUpload uploadId
  require (S3MultipartUpload.holdsClaim completionToken now upload = true) .conflict
  let manifest ← orThrow upload.completionManifest
    (.invariant "completing multipart upload has no manifest")
  let parts ← query fun db => db.listParts uploadId
  let selected ← ofExcept ((validateManifest manifest parts).mapError fun _ =>
    RepositoryError.invariant "persisted multipart manifest is invalid")
  let totalSize ← multipartTotalSize selected
  let intent ← lockUploadIntent intentId
  validateIntentIdentity upload intent
  require (isAttachableIntent completionToken totalSize now intent = true) .conflict
  let taken ← query fun db => db.multipartUploads.rows.any fun row =>
    row.uploadId ≠ uploadId && row.uploadIntentId = some intentId
  require (taken = false) .conflict
  updateRow uploadRows uploadId
    (fun row => S3MultipartUpload.holdsClaim completionToken now row &&
      (row.uploadIntentId = none || row.uploadIntentId = some intentId))
    (S3MultipartUpload.attach intentId now) (fun _ => true) .conflict .conflict
  lockUpload uploadId

inductive S3MultipartCompletionRelease where
  | released (upload : S3MultipartUpload)
  | alreadyPending (upload : S3MultipartUpload)
  | ownershipLost (upload : S3MultipartUpload)
  | terminal (upload : S3MultipartUpload)

/-- Giving a claim back ends the attached intent. The last write repeats the ownership test
under the same row lock, so it never fails. -/
def releaseMultipartCompletion (uploadId : MultipartUploadId) (completionToken : String)
    (now : Time) : Transaction S3MultipartCompletionRelease := do
  let now := postgresTime now
  let upload ← lockUpload uploadId
  match upload.state with
  | .pending => pure (.alreadyPending upload)
  | .completed | .aborted => pure (.terminal upload)
  | .completing =>
      if S3MultipartUpload.holdsClaim completionToken now upload then
        let intent ← lockAttachedUploadIntent upload
        abortLockedAttachedIntent upload intent (some completionToken) now
        updateRow uploadRows uploadId (S3MultipartUpload.holdsClaim completionToken now)
          (S3MultipartUpload.release now) (fun _ => true) .conflict .conflict
        let upload ← lockUpload uploadId
        pure (.released upload)
      else pure (.ownershipLost upload)

inductive S3MultipartAbort where
  | aborted (upload : S3MultipartUpload)
  | alreadyAborted (upload : S3MultipartUpload)
  | completing (upload : S3MultipartUpload)
  | completed (upload : S3MultipartUpload)

def abortMultipartUpload (uploadId : MultipartUploadId) (now : Time) :
    Transaction S3MultipartAbort := do
  let now := postgresTime now
  let upload ← lockUpload uploadId
  match upload.state with
  | .completing => pure (.completing upload)
  | .completed => pure (.completed upload)
  | .aborted => pure (.alreadyAborted upload)
  | .pending =>
      abortUploadAndEnqueueCleanup upload none now
      let upload ← lockUpload uploadId
      pure (.aborted upload)

def expireMultipartUpload (now : Time) (uploadId : MultipartUploadId) : Transaction Unit := do
  let upload ← lockUpload uploadId
  abortUploadAndEnqueueCleanup upload none now

/-- The uploads that one run of the expiry takes. -/
def Database.expirableUploads (db : Database) (now : Time) (limit : Nat) :
    List MultipartUploadId :=
  (((db.multipartUploads.rows.filter (S3MultipartUpload.isExpirable now)).insertionSort
    fun a b => S3MultipartUpload.expiresBefore a b = true).take limit).map (·.uploadId)

/-- Every lapsed upload past its expiry, in one transaction. -/
def expireMultipartUploads (now : Time) (limit : Nat) :
    Transaction (List S3MultipartUpload) := do
  require (1 ≤ limit ∧ limit ≤ maxS3MultipartExpiryLimit)
    (.invariant "multipart expiry limit must be between 1 and 1000")
  let now := postgresTime now
  let uploadIds ← query fun db => db.expirableUploads now limit
  forEach (expireMultipartUpload now) uploadIds
  query fun db => uploadIds.filterMap db.multipartUploads.find?

/-- The parts that the persisted manifest names, joined in its order. -/
def Database.manifestParts (db : Database) (upload : S3MultipartUpload) :
    List S3MultipartPart :=
  (upload.completionManifest.getD []).filterMap fun item =>
    db.multipartParts.find? (upload.uploadId, item.partNumber)

/-- Every manifest item has its part, and the tag and the size are those of the parts. -/
def completionFactsMatch [Md5] (upload : S3MultipartUpload) (parts : List S3MultipartPart)
    (finalEntityTag : EntityTag) (intent : UploadIntent) : Bool :=
  let totalSize := (parts.map (·.size)).sum
  parts ≠ [] && parts.length = (upload.completionManifest.getD []).length &&
  some (.multipart (Md5.md5 (parts.flatMap (·.md5))) parts.length) = some finalEntityTag &&
  intent.expectedSizeBytes = totalSize && intent.sizeBytes = some totalSize

def completionIdentityMatches (upload : S3MultipartUpload) (intent : UploadIntent)
    (version : ObjectVersion) (stored : StoredObjectVersion) : Bool :=
  version.applicationId = upload.applicationId && version.bucketId = upload.bucketId &&
  intentIdentityMatches upload intent && intent.objectTags = upload.objectTags &&
  stored.contentType = some upload.contentType && stored.userMetadata = upload.userMetadata

/-- A replay must repeat the facts of the version that was committed. -/
def replayMatches (upload : S3MultipartUpload) (intent : UploadIntent)
    (commit : S3ObjectVersionCommit) (finalEntityTag : EntityTag) (finalChecksum : Checksum)
    (objectId : ObjectId) (versionId : ObjectVersionId) : Bool :=
  versionId = commit.version.id && upload.finalEtag = some finalEntityTag &&
  upload.finalChecksum = some finalChecksum && objectId = commit.version.objectId &&
  intent.state = .committed && intent.proposedVersionId = commit.version.id &&
  intent.committedObjectId = some objectId && intent.committedVersionId = some versionId &&
  intent.entityTag = some finalEntityTag && intent.checksum = some finalChecksum

def replayMultipartCompletion (upload : S3MultipartUpload) (intent : UploadIntent)
    (commit : S3ObjectVersionCommit) (finalEntityTag : EntityTag) (finalChecksum : Checksum) :
    Transaction S3Object := do
  let objectId ← orThrow upload.objectId
    (.invariant "completed multipart upload has no object_id")
  let versionId ← orThrow upload.objectVersionId
    (.invariant "completed multipart upload has no object_version_id")
  require (replayMatches upload intent commit finalEntityTag finalChecksum objectId versionId =
    true) .conflict
  let object ← selectRow objectRows objectId .notFound
  validateExpectedObjectIdentity object
    ⟨upload.applicationId, upload.bucketId, upload.objectKey⟩
  pure object

def completeUpload (upload : S3MultipartUpload) (intent : UploadIntent)
    (completionToken : String) (commit : S3ObjectVersionCommit) (finalEntityTag : EntityTag)
    (finalChecksum : Checksum) : Transaction S3Object := do
  let committedAt := postgresTime commit.committedAt
  require (S3MultipartUpload.holdsClaim completionToken committedAt upload = true) .conflict
  let object ← commitIntentVersion intent completionToken commit
  let partKeys ← query fun db => (db.listParts upload.uploadId).map (·.storageKey)
  enqueueMultipartStorageKeys upload (some intent.id)
    (partKeys ++ [intent.temporaryStorageKey]) committedAt
  updateRow uploadRows upload.uploadId
    (fun row => S3MultipartUpload.holdsClaim completionToken committedAt row &&
      row.uploadIntentId = some intent.id)
    (S3MultipartUpload.complete object.id commit.version.id finalEntityTag finalChecksum
      committedAt) (fun _ => true) .conflict .conflict
  pure object

def commitMultipartObjectVersion [Md5] (uploadId : MultipartUploadId)
    (completionToken : String) (commit : S3ObjectVersionCommit) (finalEntityTag : EntityTag)
    (finalChecksum : Checksum) : Transaction S3Object := do
  validateToken completionToken
  commit.validate
  let stored ← storedPayload commit.version
  require (stored.etag = finalEntityTag ∧ stored.checksum = some finalChecksum) .conflict
  require (isMultipartEtag finalEntityTag = true)
    (.invariant
      "multipart completion requires a canonical multipart ETag and SHA-256 checksum")
  let upload ← lockUpload uploadId
  let intentId ← orThrow upload.uploadIntentId
    (.invariant "multipart completion has no attached upload intent")
  let intent ← lockUploadIntent intentId
  require (completionIdentityMatches upload intent commit.version stored = true) .conflict
  let parts ← query fun db => db.manifestParts upload
  require (completionFactsMatch upload parts finalEntityTag intent = true) .conflict
  if upload.state = .completed then
    replayMultipartCompletion upload intent commit finalEntityTag finalChecksum
  else completeUpload upload intent completionToken commit finalEntityTag finalChecksum

end MediaHub.Store

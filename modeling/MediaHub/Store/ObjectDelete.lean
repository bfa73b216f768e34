import MediaHub.Store.GarbageCollection
import MediaHub.Store.Quota
import MediaHub.Store.VersionHistory

namespace MediaHub.Store

open Relational
open MediaHub.Core

inductive S3DeleteLockReason where
  | legalHold
  | complianceRetention
  | governanceRetention
deriving DecidableEq

/-- Why a version cannot be deleted now; a legal hold outranks any retention. -/
def deleteLockReasonAt (version : ObjectVersion) (deletedAt : Time) (bypassGovernance : Bool) :
    Option S3DeleteLockReason :=
  if version.legalHold then some .legalHold
  else match version.retention with
    | none => none
    | some retention =>
        if retention.retainUntil ≤ deletedAt then none
        else match retention.mode with
          | .compliance => some .complianceRetention
          | .governance => if bypassGovernance then none else some .governanceRetention

structure DeleteS3ObjectCommand where
  applicationId : ApplicationId
  bucketId : BucketId
  objectKey : String
  versionId : Option S3VersionId
  bypassGovernance : Bool
  deletedBy : String
  deletedAt : Time
  deleteMarkerId : ObjectVersionId
  deleteMarkerVersionId : S3VersionId
  gcNotBefore : Time
  gcMaxAttempts : Nat

inductive DeleteS3ObjectOutcome where
  | deleted (versionId : Option S3VersionId) (deleteMarker : Bool)
  | locked (reason : S3DeleteLockReason)
  | versionNotFound
  | noOp

/-- The task for the payload of a version that stops being visible. -/
def versionGcTask (version : ObjectVersion) (reason : StorageGcReason)
    (notBefore : Time) (maxAttempts : Nat) (createdAt : Time) : Option NewStorageGcTask :=
  version.locator?.map fun locator => {
    locator
    provenance := {
      applicationId := version.applicationId
      bucketId := version.bucketId
      objectVersionId := some version.id
      uploadIntentId := none
      multipartUploadId := none
      reason }
    notBefore, maxAttempts, createdAt }

/-- Queues the payload of a version; a delete marker has none. -/
def enqueueVersionPayload (task : Option NewStorageGcTask) : Transaction Unit :=
  match task with
  | none => pure ()
  | some task => enqueueObjectVersionGcTask task

def explicitDeleteGcTask (version : ObjectVersion) (command : DeleteS3ObjectCommand) :
    Option NewStorageGcTask :=
  versionGcTask version .explicitDelete command.gcNotBefore command.gcMaxAttempts
    command.deletedAt

/-- `max_by_key(generation)` over the versions other than the target. -/
def nextCurrentVersion (activeVersions : List ObjectVersion) (target : ObjectVersion) :
    Option ObjectVersion :=
  (activeVersions.filter (·.id ≠ target.id)).head?

/-- Deletes the one version that the request names. -/
def deleteExactVersion (command : DeleteS3ObjectCommand) (object : S3Object)
    (activeVersions : List ObjectVersion) (target : ObjectVersion) : Transaction Unit := do
  if object.currentVersionId = some target.id then
    markCurrentVersionNoncurrent object command.deletedAt
    hideExactDeletedVersion target command.deletedAt
    enqueueVersionPayload (explicitDeleteGcTask target command)
    let next := nextCurrentVersion activeVersions target
    restoreCurrentVersion object next
    updateDeletedObjectHead object (next.map (·.id)) command.deletedAt
    releaseS3UsedBytes target.applicationId target.sizeBytes
  else
    hideExactDeletedVersion target command.deletedAt
    enqueueVersionPayload (explicitDeleteGcTask target command)
    releaseS3UsedBytes target.applicationId target.sizeBytes

/-- The marker that a delete puts on top of the history. -/
def deleteMarker (command : DeleteS3ObjectCommand) (object : S3Object)
    (externalVersionId : S3VersionId) (isNullVersion : Bool) : Transaction ObjectVersion := do
  let generation ← orThrow (checkedAddU64 object.generation 1)
    (.invariant "object generation overflow")
  domain (ObjectVersion.newDeleteMarker command.deleteMarkerId object.id command.applicationId
    command.bucketId externalVersionId generation isNullVersion command.deletedBy
    command.deletedAt)

def deleteEnabled (command : DeleteS3ObjectCommand) (object : S3Object) :
    Transaction DeleteS3ObjectOutcome := do
  let marker ← deleteMarker command object command.deleteMarkerVersionId false
  markCurrentVersionNoncurrent object command.deletedAt
  insertObjectVersion marker
  advanceObjectToDeleteMarker object marker command.deletedAt
  pure (.deleted (some command.deleteMarkerVersionId) true)

/-- A null marker replaces the active null version, whose payload is queued and given back. -/
def replaceNullByMarker (activeNull : Option ObjectVersion)
    (gcTask : ObjectVersion → Option NewStorageGcTask) (supersededAt : Time) :
    Transaction Unit :=
  match activeNull with
  | none => pure ()
  | some version => do
      enqueueVersionPayload (gcTask version)
      supersedeActiveNullVersion (some version) supersededAt
      releaseS3UsedBytes version.applicationId version.sizeBytes

def deleteSuspended (command : DeleteS3ObjectCommand) (object : S3Object)
    (activeNull : Option ObjectVersion) : Transaction DeleteS3ObjectOutcome := do
  let marker ← deleteMarker command object .null true
  markCurrentVersionNoncurrent object command.deletedAt
  replaceNullByMarker activeNull (explicitDeleteGcTask · command) command.deletedAt
  insertObjectVersion marker
  advanceObjectToDeleteMarker object marker command.deletedAt
  pure (.deleted (some .null) true)

/-- The head is cleared, whatever other versions there are. -/
def deleteUnversioned (command : DeleteS3ObjectCommand) (object : S3Object)
    (activeNull : ObjectVersion) : Transaction DeleteS3ObjectOutcome := do
  markCurrentVersionNoncurrent object command.deletedAt
  enqueueVersionPayload (explicitDeleteGcTask activeNull command)
  supersedeActiveNullVersion (some activeNull) command.deletedAt
  updateDeletedObjectHead object none command.deletedAt
  releaseS3UsedBytes activeNull.applicationId activeNull.sizeBytes
  pure (.deleted none false)

/-- A delete without a version id does what the versioning status asks for. -/
def deleteCurrent (command : DeleteS3ObjectCommand) (status : VersioningStatus)
    (object : S3Object) (activeVersions : List ObjectVersion) :
    Transaction DeleteS3ObjectOutcome :=
  let activeNull := activeVersions.find? ObjectVersion.isNullVersion
  let lock := activeNull.bind (deleteLockReasonAt · command.deletedAt command.bypassGovernance)
  match status, activeNull, lock with
  | .enabled, _, _ => deleteEnabled command object
  | .unversioned, none, _ => pure .noOp
  | _, _, some reason => pure (.locked reason)
  | .suspended, activeNull, none => deleteSuspended command object activeNull
  | .unversioned, some activeNull, none => deleteUnversioned command object activeNull

def deleteS3Object (command : DeleteS3ObjectCommand) : Transaction DeleteS3ObjectOutcome := do
  require (command.deletedBy ≠ "" ∧ command.gcMaxAttempts ≠ 0)
    (.invariant "S3 delete command contains invalid audit or GC facts")
  let row ← query fun db => db.findBucket command.applicationId command.bucketId
  let bucket ← orThrow row .notFound
  let row ← query fun db =>
    db.findObject command.applicationId command.bucketId command.objectKey
  match row with
  | none => pure (if command.versionId.isSome then .versionNotFound else .noOp)
  | some object =>
      let activeVersions ← query fun db => db.listActiveVersions object.id
      match command.versionId with
      | none =>
          deleteCurrent command bucket.configuration.versioningStatus object activeVersions
      | some versionId =>
          match activeVersions.find? (·.externalVersionId = versionId) with
          | none => pure .versionNotFound
          | some target =>
              match deleteLockReasonAt target command.deletedAt command.bypassGovernance with
              | some reason => pure (.locked reason)
              | none =>
                  deleteExactVersion command object activeVersions target
                  pure (.deleted (some target.externalVersionId) target.isDeleteMarker)

inductive S3ObjectLockMutation where
  | retention (retention : ObjectRetention) (bypassGovernance : Bool)
  | legalHold (legalHold : Bool)

structure PutS3ObjectLockCommand where
  applicationId : ApplicationId
  bucketId : BucketId
  objectKey : String
  versionId : Option S3VersionId
  mutation : S3ObjectLockMutation
  updatedAt : Time

inductive PutS3ObjectLockOutcome where
  | updated (version : ObjectVersion)
  | objectNotFound
  | versionNotFound
  | deleteMarker (versionId : S3VersionId) (isCurrent : Bool)
  | objectLockNotEnabled
  | retentionLocked (reason : S3DeleteLockReason)
  | invalidRetention

namespace ObjectVersion

/-- The lock columns of a data version. -/
def relock (retention : Option ObjectRetention) (legalHold : Bool) : Update ObjectVersion where
  apply version :=
    if h : version.payload ≠ .deleteMarker then
      { version with
        retention := retention.map fun value =>
          { value with retainUntil := postgresTime value.retainUntil }
        legalHold, marker_unlocked := fun hmarker => absurd hmarker h }
    else version
  key_apply version := by
    by_cases h : version.payload = .deleteMarker <;> simp [h, Keyed.key]

@[simp] theorem isActive_relock (retention : Option ObjectRetention) (legalHold : Bool)
    (version : ObjectVersion) :
    (relock retention legalHold version).isActive = version.isActive := by
  by_cases h : version.payload = .deleteMarker <;> simp [relock, h, ObjectVersion.isActive]

end ObjectVersion

/-- The version a lock request is about: the one it names, or else the current one. -/
def findLockTarget (db : Database) (command : PutS3ObjectLockCommand) (object : S3Object) :
    Option ObjectVersion :=
  db.objectVersions.rows.find? fun version =>
    version.applicationId = command.applicationId && version.bucketId = command.bucketId &&
    version.objectId = object.id && version.isActive &&
    match command.versionId with
    | some versionId => version.externalVersionId = versionId
    | none => object.currentVersionId = some version.id

/-- The lock that the version has after the mutation, or the outcome that refuses it. -/
def applyLockMutation (version : ObjectVersion) (command : PutS3ObjectLockCommand) :
    Transaction (Except PutS3ObjectLockOutcome ObjectVersion) :=
  match command.mutation with
  | .retention retention bypassGovernance =>
      match version.withRetentionUpdate retention command.updatedAt bypassGovernance with
      | .ok updated => pure (.ok updated)
      | .error .retainUntilMustBeFuture => pure (.error .invalidRetention)
      | .error .complianceRetentionLocked =>
          pure (.error (.retentionLocked .complianceRetention))
      | .error .governanceRetentionLocked =>
          pure (.error (.retentionLocked .governanceRetention))
      | .error .invalidVersion => pure (.error .versionNotFound)
  | .legalHold legalHold => do
      let updated ← domain (version.withLegalHoldUpdate legalHold)
      pure (.ok updated)

def putS3ObjectLock (command : PutS3ObjectLockCommand) : Transaction PutS3ObjectLockOutcome := do
  let notFound : PutS3ObjectLockOutcome :=
    if command.versionId.isSome then .versionNotFound else .objectNotFound
  let row ← query fun db => db.findBucket command.applicationId command.bucketId
  let bucket ← orThrow row .notFound
  if bucket.configuration.objectLockEnabled then
    let row ← query fun db =>
      db.findObject command.applicationId command.bucketId command.objectKey
    match row with
    | none => pure notFound
    | some object =>
        let row ← query fun db => findLockTarget db command object
        match row with
        | none => pure notFound
        | some version =>
            if version.isDeleteMarker then
              pure (.deleteMarker version.externalVersionId
                (object.currentVersionId = some version.id))
            else
              match ← applyLockMutation version command with
              | .error outcome => pure outcome
              | .ok updated =>
                  updateRow versionRows updated.id
                    (fun row => row.objectId = updated.objectId &&
                      row.applicationId = command.applicationId &&
                      row.bucketId = command.bucketId && row.isActive)
                    (ObjectVersion.relock updated.retention updated.legalHold)
                    (fun _ => true) .conflict .conflict
                  pure (.updated updated)
  else pure .objectLockNotEnabled

end MediaHub.Store

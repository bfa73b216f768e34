import MediaHub.Store.Multipart
import MediaHub.Store.ObjectDelete

namespace MediaHub.Store

open Relational
open MediaHub.Core

def lifecyclePrefix : S3LifecycleFilter → String
  | .empty => ""
  | .prefixed pre => pre

/-- Days are counted in UTC calendar days. -/
def lifecycleDaysCutoff (now : Time) (days : Nat) : Option Time :=
  if days = 0 then none else Time.checkedAdd (Time.midnight now) (-Time.days days)

def lifecycleActionTime (now : Time) : Time := Time.midnight now

def ruleApplies (rule : S3LifecycleRule) (objectKey : String) : Bool :=
  rule.status = .enabled && (lifecyclePrefix rule.filter).toList.isPrefixOf objectKey.toList

def lifecycleRuleIsCurrentDue (rule : S3LifecycleRule) (objectKey : String)
    (createdAt now : Time) : Bool :=
  ruleApplies rule objectKey && match rule.expiration with
    | some (.days days) => (lifecycleDaysCutoff now days).any (createdAt < ·)
    | some (.date date) => date ≤ now
    | _ => false

def lifecycleRuleIsNoncurrentDue (rule : S3LifecycleRule) (objectKey : String)
    (becameNoncurrentAt now : Time) : Bool :=
  ruleApplies rule objectKey && rule.noncurrentDays.any fun days =>
    (lifecycleDaysCutoff now days).any (becameNoncurrentAt < ·)

def lifecycleRuleRemovesExpiredMarkerAt (rule : S3LifecycleRule) (objectKey : String)
    (markerCreatedAt now : Time) : Bool :=
  (ruleApplies rule objectKey && rule.expiration = some .expiredObjectDeleteMarker) ||
  lifecycleRuleIsCurrentDue rule objectKey markerCreatedAt now

def lifecycleRuleAbortsMultipart (rule : S3LifecycleRule) (objectKey : String)
    (initiatedAt now : Time) : Bool :=
  ruleApplies rule objectKey && rule.daysAfterInitiation.any fun days =>
    (lifecycleDaysCutoff now days).any (initiatedAt < ·)

inductive S3LifecycleTarget where
  | expireCurrent (objectId : ObjectId) (objectKey : String)
      (expectedCurrentVersionId : ObjectVersionId) (versionCreatedAt : Time)
  | expireNoncurrent (objectId : ObjectId) (objectKey : String) (versionId : ObjectVersionId)
      (expectedBecameNoncurrentAt : Time)
  | removeExpiredDeleteMarker (objectId : ObjectId) (objectKey : String)
      (markerVersionId : ObjectVersionId)
  | abortMultipart (uploadId : MultipartUploadId) (objectKey : String)
      (expectedInitiatedAt : Time)
deriving DecidableEq

structure ExecuteS3LifecycleCommand where
  applicationId : ApplicationId
  bucketId : BucketId
  expectedConfigurationRevision : Nat
  rule : S3LifecycleRule
  target : S3LifecycleTarget
  evaluatedAt : Time
  deleteMarkerId : ObjectVersionId
  deleteMarkerVersionId : S3VersionId
  gcNotBefore : Time
  gcMaxAttempts : Nat

inductive S3LifecycleExecutionOutcome where
  | applied
  | alreadyApplied
  | configurationChanged
  | targetChanged
  | notEligible
  | locked
  | busy
deriving DecidableEq

def lockLifecycleObject (db : Database) (command : ExecuteS3LifecycleCommand)
    (objectId : ObjectId) (objectKey : String) : Option S3Object :=
  (db.objects.find? objectId).filter fun object =>
    object.applicationId = command.applicationId && object.bucketId = command.bucketId &&
    object.key = objectKey

/-- The bucket, if its configuration is still the one that planned the action. -/
def lockLifecycleBucket (db : Database) (command : ExecuteS3LifecycleCommand) :
    Option S3Bucket :=
  (db.findBucket command.applicationId command.bucketId).filter fun bucket =>
    bucket.configuration.revision = command.expectedConfigurationRevision &&
    bucket.configuration.lifecycleConfiguration.any fun configuration =>
      command.rule ∈ configuration.rules

def lockActiveVersion (db : Database) (command : ExecuteS3LifecycleCommand)
    (objectId : ObjectId) (versionId : ObjectVersionId) : Option ObjectVersion :=
  (db.objectVersions.find? versionId).filter fun version =>
    version.objectId = objectId && version.applicationId = command.applicationId &&
    version.bucketId = command.bucketId && version.isActive

def lockLifecycleNullVersion (db : Database) (command : ExecuteS3LifecycleCommand)
    (objectId : ObjectId) : Option ObjectVersion :=
  db.objectVersions.rows.find? fun version =>
    version.objectId = objectId && version.applicationId = command.applicationId &&
    version.bucketId = command.bucketId && version.isNullVersion && version.isActive

def hasOtherActiveVersion (db : Database) (objectId : ObjectId)
    (markerId : ObjectVersionId) : Bool :=
  db.objectVersions.rows.any fun version =>
    version.objectId = objectId && version.id ≠ markerId && version.isActive

def lifecycleDeleteMarker (object : S3Object) (nullVersion : Bool)
    (command : ExecuteS3LifecycleCommand) : Transaction ObjectVersion := do
  let generation ← orThrow (checkedAddU64 object.generation 1)
    (.invariant "object generation overflow")
  domain (ObjectVersion.newDeleteMarker command.deleteMarkerId object.id command.applicationId
    command.bucketId (if nullVersion then .null else command.deleteMarkerVersionId) generation
    nullVersion "lifecycle" (lifecycleActionTime command.evaluatedAt))

def lifecycleGcTask (version : ObjectVersion) (command : ExecuteS3LifecycleCommand) :
    Option NewStorageGcTask :=
  versionGcTask version .lifecycleExpiration command.gcNotBefore command.gcMaxAttempts
    command.evaluatedAt

def enqueueLifecycleGc (version : ObjectVersion) (command : ExecuteS3LifecycleCommand) :
    Transaction Unit :=
  enqueueVersionPayload (lifecycleGcTask version command)

def expireCurrentEnabled (command : ExecuteS3LifecycleCommand) (object : S3Object) :
    Transaction S3LifecycleExecutionOutcome := do
  let actionTime := lifecycleActionTime command.evaluatedAt
  let marker ← lifecycleDeleteMarker object false command
  markCurrentVersionNoncurrent object actionTime
  insertObjectVersion marker
  advanceObjectToDeleteMarker object marker actionTime
  pure .applied

def expireCurrentSuspended (command : ExecuteS3LifecycleCommand) (object : S3Object)
    (activeNull : Option ObjectVersion) : Transaction S3LifecycleExecutionOutcome := do
  let actionTime := lifecycleActionTime command.evaluatedAt
  let marker ← lifecycleDeleteMarker object true command
  markCurrentVersionNoncurrent object actionTime
  replaceNullByMarker activeNull (lifecycleGcTask · command) command.evaluatedAt
  insertObjectVersion marker
  advanceObjectToDeleteMarker object marker actionTime
  pure .applied

def expireCurrentUnversioned (command : ExecuteS3LifecycleCommand) (object : S3Object)
    (target : ObjectVersion) : Transaction S3LifecycleExecutionOutcome := do
  markCurrentVersionNoncurrent object command.evaluatedAt
  enqueueLifecycleGc target command
  supersedeActiveNullVersion (some target) command.evaluatedAt
  updateDeletedObjectHead object none command.evaluatedAt
  releaseS3UsedBytes target.applicationId target.sizeBytes
  pure .applied

/-- Expiring the current version does what a delete without a version id does. -/
def expireCurrentVersion (command : ExecuteS3LifecycleCommand) (status : VersioningStatus)
    (object : S3Object) (target : ObjectVersion) : Transaction S3LifecycleExecutionOutcome :=
  match status with
  | .enabled => expireCurrentEnabled command object
  | .suspended => do
      let lockedNull ← query fun db => lockLifecycleNullVersion db command object.id
      let activeNull := if target.isNullVersion then some target else lockedNull
      if (activeNull.bind (deleteLockReasonAt · command.evaluatedAt false)).isSome then
        pure .locked
      else expireCurrentSuspended command object activeNull
  | .unversioned =>
      if !target.isNullVersion then pure .targetChanged
      else if (deleteLockReasonAt target command.evaluatedAt false).isSome then pure .locked
      else expireCurrentUnversioned command object target

def executeCurrentExpiration (bucket : S3Bucket) (command : ExecuteS3LifecycleCommand)
    (objectId : ObjectId) (objectKey : String) (expectedCurrentVersionId : ObjectVersionId)
    (versionCreatedAt : Time) : Transaction S3LifecycleExecutionOutcome := do
  match ← query fun db => lockLifecycleObject db command objectId objectKey with
  | none => pure .alreadyApplied
  | some object =>
      if object.currentVersionId ≠ some expectedCurrentVersionId then pure .targetChanged
      else match ← query fun db =>
          lockActiveVersion db command object.id expectedCurrentVersionId with
        | none => pure .targetChanged
        | some target =>
            if target.createdAt ≠ versionCreatedAt ∨ target.isDeleteMarker ∨
                !lifecycleRuleIsCurrentDue command.rule objectKey target.createdAt
                  command.evaluatedAt then
              pure .notEligible
            else expireCurrentVersion command bucket.configuration.versioningStatus object target

def executeNoncurrentExpiration (command : ExecuteS3LifecycleCommand) (objectId : ObjectId)
    (objectKey : String) (versionId : ObjectVersionId) (expectedBecameNoncurrentAt : Time) :
    Transaction S3LifecycleExecutionOutcome := do
  match ← query fun db => lockLifecycleObject db command objectId objectKey with
  | none => pure .alreadyApplied
  | some object =>
      if object.currentVersionId = some versionId then pure .targetChanged
      else match ← query fun db => lockActiveVersion db command object.id versionId with
        | none => pure .alreadyApplied
        | some version =>
            if version.isDeleteMarker ∨
                version.becameNoncurrentAt ≠ some expectedBecameNoncurrentAt ∨
                !lifecycleRuleIsNoncurrentDue command.rule objectKey expectedBecameNoncurrentAt
                  command.evaluatedAt then
              pure .notEligible
            else if (deleteLockReasonAt version command.evaluatedAt false).isSome then
              pure .locked
            else
              hideExactDeletedVersion version command.evaluatedAt
              enqueueLifecycleGc version command
              releaseS3UsedBytes version.applicationId version.sizeBytes
              pure .applied

def executeExpiredMarker (command : ExecuteS3LifecycleCommand) (objectId : ObjectId)
    (objectKey : String) (markerVersionId : ObjectVersionId) :
    Transaction S3LifecycleExecutionOutcome := do
  match ← query fun db => lockLifecycleObject db command objectId objectKey with
  | none => pure .alreadyApplied
  | some object =>
      if object.currentVersionId ≠ some markerVersionId then pure .targetChanged
      else match ← query fun db => lockActiveVersion db command object.id markerVersionId with
        | none => pure .alreadyApplied
        | some marker =>
            let hasOther ← query fun db => hasOtherActiveVersion db object.id marker.id
            if !marker.isDeleteMarker ∨
                !lifecycleRuleRemovesExpiredMarkerAt command.rule objectKey marker.createdAt
                  command.evaluatedAt ∨ hasOther then
              pure .notEligible
            else
              hideExactDeletedVersion marker command.evaluatedAt
              updateDeletedObjectHead object none command.evaluatedAt
              pure .applied

/-- The upload is locked before the bucket. -/
def executeMultipartAbort (command : ExecuteS3LifecycleCommand) (uploadId : MultipartUploadId)
    (objectKey : String) (expectedInitiatedAt : Time) :
    Transaction S3LifecycleExecutionOutcome := do
  match ← query fun db => db.multipartUploads.find? uploadId with
  | none => pure .alreadyApplied
  | some upload =>
      if upload.applicationId ≠ command.applicationId ∨ upload.bucketId ≠ command.bucketId ∨
          upload.objectKey ≠ objectKey ∨ upload.createdAt ≠ expectedInitiatedAt then
        pure .notEligible
      else
        let lockedIntent ← lockAttachedUploadIntent upload
        match ← query fun db => lockLifecycleBucket db command with
        | none => pure .configurationChanged
        | some _ =>
            if !lifecycleRuleAbortsMultipart command.rule objectKey upload.createdAt
                command.evaluatedAt then
              pure .notEligible
            else if upload.state = .aborted then pure .alreadyApplied
            else if upload.state = .completed then pure .targetChanged
            else if upload.state = .completing ∧
                S3MultipartUpload.leaseIsLive command.evaluatedAt upload then
              pure .busy
            else
              abortUploadAndEnqueueCleanupWithLockedIntent upload lockedIntent none
                command.evaluatedAt
              pure .applied

def executeS3Lifecycle (command : ExecuteS3LifecycleCommand) :
    Transaction S3LifecycleExecutionOutcome := do
  require (command.gcMaxAttempts ≠ 0)
    (.invariant "S3 lifecycle GC attempts must be positive")
  match command.target with
  | .abortMultipart uploadId objectKey expectedInitiatedAt =>
      executeMultipartAbort command uploadId objectKey expectedInitiatedAt
  | .expireCurrent objectId objectKey expectedCurrentVersionId versionCreatedAt => do
      match ← query fun db => lockLifecycleBucket db command with
      | none => pure .configurationChanged
      | some bucket =>
          executeCurrentExpiration bucket command objectId objectKey expectedCurrentVersionId
            versionCreatedAt
  | .expireNoncurrent objectId objectKey versionId expectedBecameNoncurrentAt => do
      match ← query fun db => lockLifecycleBucket db command with
      | none => pure .configurationChanged
      | some _ =>
          executeNoncurrentExpiration command objectId objectKey versionId
            expectedBecameNoncurrentAt
  | .removeExpiredDeleteMarker objectId objectKey markerVersionId => do
      match ← query fun db => lockLifecycleBucket db command with
      | none => pure .configurationChanged
      | some _ => executeExpiredMarker command objectId objectKey markerVersionId

end MediaHub.Store

import MediaHub.Service.PutObject
import MediaHub.Store.AccountingEffects
import MediaHub.Store.CompletionEffects
import MediaHub.Store.LifecycleEffects

namespace MediaHub.Server

open Relational
open MediaHub.Core
open MediaHub.Store
open MediaHub.Service

/-- The calls that are made with what a client, a clock or a sweeper supplies. -/
inductive Command where
  -- buckets
  | createBucket (bucket : S3Bucket)
  | setVersioning (applicationId : ApplicationId) (name : String) (status : VersioningStatus)
      (updatedAt : Time)
  | replaceObjectLock (applicationId : ApplicationId) (name : String)
      (defaultRetention : Option DefaultRetention) (updatedAt : Time)
  | replaceLifecycle (applicationId : ApplicationId) (name : String)
      (lifecycleConfiguration : Option S3LifecycleConfiguration) (updatedAt : Time)
  -- objects
  | deleteObject (command : DeleteS3ObjectCommand)
  | putObjectLock (command : PutS3ObjectLockCommand)
  | executeLifecycle (command : ExecuteS3LifecycleCommand)
  -- upload intents
  | beginPut (request : BeginPutObjectRequest) (backend : StorageBackend)
      (intentId : UploadIntentId) (proposedVersionId : ObjectVersionId) (now : Time)
  | completeStaging (intentId : UploadIntentId) (entityTag : EntityTag) (checksum : Checksum)
      (sizeBytes : Nat) (now : Time)
  | releaseIntent (intentId : UploadIntentId) (leaseToken : String) (now : Time)
  | abortIntent (intentId : UploadIntentId) (gcTask : NewStorageGcTask) (now : Time)
  | expireIntents (now : Time) (limit gcMaxAttempts : Nat)
  -- multipart uploads
  | createMultipart (upload : NewS3MultipartUpload)
  | claimCompletion (uploadId : MultipartUploadId) (manifest : List CompletedS3MultipartPart)
      (completionToken : String) (leaseUntil now : Time)
  | attachIntent (uploadId : MultipartUploadId) (completionToken : String)
      (intentId : UploadIntentId) (now : Time)
  | releaseCompletion (uploadId : MultipartUploadId) (completionToken : String) (now : Time)
  | abortMultipart (uploadId : MultipartUploadId) (now : Time)
  | expireMultipart (now : Time) (limit : Nat)
  -- storage cleanup
  | claimGcTasks (leaseToken : String) (leaseUntil now : Time) (limit : Nat)
  | completeGcTask (locator : StorageLocator) (leaseToken : String) (completedAt : Time)
  | failGcTask (locator : StorageLocator) (leaseToken error : String) (retryAt now : Time)
  -- quotas, media and sessions
  | updateQuota (applicationId : ApplicationId) (quotaBytes : Nat)
  | renewUploadLease (mediaId : MediaId) (leaseToken : String) (now leasedUntil : Time)
  | commitUpload (mediaId : MediaId) (leaseToken : String) (committedAt : Time)
      (eventApplicationId : ApplicationId) (eventExists : Bool)
  | abortUpload (mediaId : MediaId) (leaseToken : String) (now : Time)
  | claimStaleUploading (now leasedUntil : Time) (limit : Nat) (newToken : MediaId → String)
  | scheduleDelete (mediaId : MediaId) (deletedAt : Time) (eventApplicationId : ApplicationId)
  | finalizeDelete (mediaId : MediaId) (deletedAt : Time)
  | createSession (session : UploadSession)
  | completeSession (uploadSessionId : UploadSessionId) (media : Media)
      (completedAt databaseNow : Time) (eventApplicationId : ApplicationId)
  | cancelSession (uploadSessionId : UploadSessionId) (cancelledAt : Time)
  | expireSession (uploadSessionId : UploadSessionId) (expiredAt : Time)
  | expireSessions (expiredAt : Time) (limit : Nat)
  | completeSessionCleanup (uploadSessionId : UploadSessionId) (databaseNow : Time)

namespace Command

/-- What the call leaves in the database: an error rolls it back. -/
def commit (db : Database) : Command → Database
  | createBucket bucket => (createS3Bucket bucket).commit db
  | setVersioning applicationId name status updatedAt =>
      (setS3BucketVersioning applicationId name status updatedAt).commit db
  | replaceObjectLock applicationId name defaultRetention updatedAt =>
      (replaceS3BucketObjectLock applicationId name defaultRetention updatedAt).commit db
  | replaceLifecycle applicationId name lifecycleConfiguration updatedAt =>
      (replaceS3BucketLifecycle applicationId name lifecycleConfiguration updatedAt).commit db
  | deleteObject command => (deleteS3Object command).commit db
  | putObjectLock command => (putS3ObjectLock command).commit db
  | executeLifecycle command => (executeS3Lifecycle command).commit db
  | beginPut request backend intentId proposedVersionId now =>
      (Service.beginPut request backend intentId proposedVersionId now).commit db
  | completeStaging intentId entityTag checksum sizeBytes now =>
      (completeUploadIntentStaging intentId entityTag checksum sizeBytes now).commit db
  | releaseIntent intentId leaseToken now =>
      (releaseUploadIntent intentId leaseToken now).commit db
  | abortIntent intentId gcTask now =>
      (abortUploadIntentAndEnqueueGc intentId gcTask now).commit db
  | expireIntents now limit gcMaxAttempts =>
      (expireUploadIntents now limit gcMaxAttempts).commit db
  | createMultipart upload => (createMultipartUpload upload).commit db
  | claimCompletion uploadId manifest completionToken leaseUntil now =>
      (claimMultipartCompletion uploadId manifest completionToken leaseUntil now).commit db
  | attachIntent uploadId completionToken intentId now =>
      (attachMultipartUploadIntent uploadId completionToken intentId now).commit db
  | releaseCompletion uploadId completionToken now =>
      (releaseMultipartCompletion uploadId completionToken now).commit db
  | abortMultipart uploadId now => (abortMultipartUpload uploadId now).commit db
  | expireMultipart now limit => (expireMultipartUploads now limit).commit db
  | claimGcTasks leaseToken leaseUntil now limit =>
      (claimStorageGcTasks leaseToken leaseUntil now limit).commit db
  | completeGcTask locator leaseToken completedAt =>
      (completeStorageGcTask locator leaseToken completedAt).commit db
  | failGcTask locator leaseToken error retryAt now =>
      (failStorageGcTask locator leaseToken error retryAt now).commit db
  | updateQuota applicationId quotaBytes =>
      (updateApplicationQuota applicationId quotaBytes).commit db
  | renewUploadLease mediaId leaseToken now leasedUntil =>
      (Store.renewUploadLease mediaId leaseToken now leasedUntil).commit db
  | commitUpload mediaId leaseToken committedAt eventApplicationId eventExists =>
      (Store.commitUpload mediaId leaseToken committedAt eventApplicationId eventExists).commit db
  | abortUpload mediaId leaseToken now => (Store.abortUpload mediaId leaseToken now).commit db
  | claimStaleUploading now leasedUntil limit newToken =>
      (Store.claimStaleUploading now leasedUntil limit newToken).commit db
  | scheduleDelete mediaId deletedAt eventApplicationId =>
      (Store.scheduleDelete mediaId deletedAt eventApplicationId).commit db
  | finalizeDelete mediaId deletedAt => (Store.finalizeDelete mediaId deletedAt).commit db
  | createSession session => (createUploadSession session).commit db
  | completeSession uploadSessionId media completedAt databaseNow eventApplicationId =>
      (completeUploadSession uploadSessionId media completedAt databaseNow
        eventApplicationId).commit db
  | cancelSession uploadSessionId cancelledAt =>
      (cancelUploadSession uploadSessionId cancelledAt).commit db
  | expireSession uploadSessionId expiredAt =>
      (expireUploadSession uploadSessionId expiredAt).commit db
  | expireSessions expiredAt limit => (expireUploadSessions expiredAt limit).commit db
  | completeSessionCleanup uploadSessionId databaseNow =>
      (completeUploadSessionCleanup uploadSessionId databaseNow).commit db

/-- The ids that a call brings in; each is handed out once. -/
def mints : Command → List Uuid
  | deleteObject command => [command.deleteMarkerId]
  | executeLifecycle command => [command.deleteMarkerId]
  | beginPut _ _ intentId proposedVersionId _ => [intentId, proposedVersionId]
  | _ => []

/-- What a call may do to a database. -/
def licence (db : Database) : Command → Licence
  | deleteObject command =>
      unlockedAt db command.deletedAt command.bypassGovernance command.deleteMarkerId
  | executeLifecycle command => unlockedAt db command.evaluatedAt false command.deleteMarkerId
  | beginPut _ _ _ proposedVersionId _ =>
      { Licence.none with mints := fun id => id = proposedVersionId }
  | releaseIntent intentId leaseToken now =>
      { Licence.none with
        releases := fun intent => intent ∈ db.uploadIntents ∧ intent.id = intentId ∧
          UploadIntent.holdsLease leaseToken (postgresTime now) intent }
  | _ => Licence.none

end Command

theorem Command.licence_mints {db : Database} {command : Command} {id : Uuid}
    (h : (command.licence db).mints id) : id ∈ command.mints := by
  cases command with
  | deleteObject | executeLifecycle => exact List.mem_singleton.2 h
  | beginPut => exact List.mem_cons_of_mem _ (List.mem_singleton.2 h)
  | _ => exact h.elim

theorem Command.licence_stores {db : Database} {command : Command} {key : StorageKey} :
    ¬ (command.licence db).stores key := by
  cases command <;> exact id

theorem Command.licence_drops {db : Database} {command : Command} {key : StorageKey} :
    ¬ (command.licence db).drops key := by
  cases command <;> exact id

/-- A transaction whose successful run is a sequence of effects commits one. -/
theorem commit_effects [Md5] {α : Type} {licence : Licence} {db : Database}
    {tx : Transaction α} (h : ∀ a db', tx.run db = .ok (a, db') → Effects licence db db') :
    Effects licence db (tx.commit db) := by
  rcases Transaction.commit_cases tx db with ⟨a, hrun⟩ | hsame
  · exact h a _ hrun
  · rw [hsame]
    exact .refl db

/-- The ids that a call mints are not in use yet. -/
structure MintsFresh (db : Database) (ids : List Uuid) : Prop where
  unproposed : ∀ id ∈ ids, ∀ intent ∈ db.uploadIntents, intent.proposedVersionId ≠ id
  unversioned : ∀ id ∈ ids, db.objectVersions.find? id = none

theorem beginPut_effect [Md5] {request : BeginPutObjectRequest} {backend : StorageBackend}
    {intentId : UploadIntentId} {proposedVersionId : ObjectVersionId} {now : Time}
    {licence : Licence} {db db' : Database} {u : Unit}
    (hfresh : db.objectVersions.find? proposedVersionId = none)
    (hmints : licence.mints proposedVersionId)
    (h : (Service.beginPut request backend intentId proposedVersionId now).run db =
      .ok (u, db')) :
    Effect licence db db' := by
  simp only [Service.beginPut, Transaction.run_bind_ok, Transaction.run_query_ok,
    Transaction.run_orThrow_ok, run_domain_ok] at h
  obtain ⟨_, _, ⟨-, rfl⟩, bucket, _, ⟨-, rfl⟩, intent, _, ⟨hintent, rfl⟩, hcreate⟩ := h
  have hraw := fromPersistence_self hintent
  have hconsistent : intent.fromPersistence = .ok intent := by
    rw [newPutIntent, UploadIntent.new, ← hraw] at hintent
    exact hintent
  rw [hraw] at hconsistent hcreate
  exact createUploadIntent_effect hconsistent rfl rfl hfresh hmints hcreate

/-- Every call is a sequence of effects under its licence. -/
theorem Command.effects [Md5] {db : Database} (command : Command)
    (hchain : Chain db.buckets db.objects db.objectVersions)
    (hfresh : MintsFresh db command.mints) :
    Effects (command.licence db) db (command.commit db) := by
  cases command with
  | createBucket => exact commit_effects fun _ _ h => configured_effects (createS3Bucket_ok h)
  | setVersioning =>
      exact commit_effects fun _ _ h => configured_effects
        (updateS3BucketConfiguration_evolves (fun _ _ _ => transitionVersioning_evolves) h)
  | replaceObjectLock =>
      exact commit_effects fun _ _ h => configured_effects
        (updateS3BucketConfiguration_evolves
          (fun _ _ _ => replaceObjectLockConfiguration_evolves) h)
  | replaceLifecycle =>
      exact commit_effects fun _ _ h => configured_effects
        (updateS3BucketConfiguration_evolves
          (fun _ _ _ => replaceLifecycleConfiguration_evolves) h)
  | deleteObject command =>
      exact commit_effects fun _ _ h => deleteS3Object_effects hchain
        (hfresh.unproposed _ List.mem_cons_self) h
  | putObjectLock => exact commit_effects fun _ _ => putS3ObjectLock_effects
  | executeLifecycle command =>
      exact commit_effects fun _ _ h => executeS3Lifecycle_effects hchain
        (hfresh.unproposed _ List.mem_cons_self) h
  | beginPut request backend intentId proposedVersionId now =>
      refine commit_effects fun _ _ h => .single (beginPut_effect ?_ rfl h)
      exact hfresh.unversioned _ (List.mem_cons_of_mem _ List.mem_cons_self)
  | completeStaging =>
      exact commit_effects fun _ _ h => .single (completeUploadIntentStaging_effect h)
  | releaseIntent =>
      exact commit_effects fun _ _ h => .single
        (releaseUploadIntent_effect (fun _ hrow hid hholds => ⟨hrow, hid, hholds⟩) h)
  | abortIntent =>
      exact commit_effects fun _ _ h => .single (abortUploadIntentAndEnqueueGc_effect h)
  | expireIntents => exact commit_effects fun _ _ => expireUploadIntents_effects
  | createMultipart =>
      exact commit_effects fun _ _ h => .single (createMultipartUpload_effect h)
  | claimCompletion => exact commit_effects fun _ _ => claimMultipartCompletion_effects
  | attachIntent =>
      exact commit_effects fun _ _ h => .single (attachMultipartUploadIntent_effect h)
  | releaseCompletion => exact commit_effects fun _ _ => releaseMultipartCompletion_effects
  | abortMultipart => exact commit_effects fun _ _ => abortMultipartUpload_effects
  | expireMultipart => exact commit_effects fun _ _ => expireMultipartUploads_effects
  | claimGcTasks => exact commit_effects fun _ _ h => (claimStorageGcTasks_ok h).effects
  | completeGcTask => exact commit_effects fun _ _ h => (completeStorageGcTask_ok h).effects
  | failGcTask => exact commit_effects fun _ _ h => (failStorageGcTask_ok h).effects
  | updateQuota => exact commit_effects fun _ _ => updateApplicationQuota_effects
  | renewUploadLease => exact commit_effects fun _ _ => renewUploadLease_effects
  | commitUpload => exact commit_effects fun _ _ => commitUpload_effects
  | abortUpload => exact commit_effects fun _ _ => abortUpload_effects
  | claimStaleUploading => exact commit_effects fun _ _ => claimStaleUploading_effects
  | scheduleDelete => exact commit_effects fun _ _ => scheduleDelete_effects
  | finalizeDelete => exact commit_effects fun _ _ => finalizeDelete_effects
  | createSession =>
      exact commit_effects fun _ _ h => .accounted (createUploadSession_accounting h)
  | completeSession => exact commit_effects fun _ _ => completeUploadSession_effects
  | cancelSession => exact commit_effects fun _ _ => cancelUploadSession_effects
  | expireSession => exact commit_effects fun _ _ => expireUploadSession_effects
  | expireSessions => exact commit_effects fun _ _ => expireUploadSessions_effects
  | completeSessionCleanup => exact commit_effects fun _ _ => completeUploadSessionCleanup_effects

end MediaHub.Server

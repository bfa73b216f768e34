import MediaHub.Store.ObjectCommit
import MediaHub.Store.Quota

namespace MediaHub.Store

open Relational
open MediaHub.Core

def maxUploadIntentExpiryLimit : Nat := 1000

namespace UploadIntent

def freeze (entityTag : EntityTag) (checksum : Checksum) (sizeBytes : Nat) (now : Time) :
    Update UploadIntent where
  apply intent :=
    { intent with
      state := .ready
      entityTag := some entityTag
      checksum := some checksum
      sizeBytes := some sizeBytes
      updatedAt := now }
  key_apply _ := rfl

def lease (leaseToken : String) (leaseUntil now : Time) : Update UploadIntent where
  apply intent :=
    { intent with
      state := .committing
      leaseToken := some leaseToken
      leaseUntil := some leaseUntil
      updatedAt := now }
  key_apply _ := rfl

def unlease (now : Time) : Update UploadIntent where
  apply intent :=
    { intent with state := .ready, leaseToken := none, leaseUntil := none, updatedAt := now }
  key_apply _ := rfl

def commit (objectId : ObjectId) (versionId : ObjectVersionId) (committedAt : Time) :
    Update UploadIntent where
  apply intent :=
    { intent with
      state := .committed
      leaseToken := none
      leaseUntil := none
      committedObjectId := some objectId
      committedVersionId := some versionId
      updatedAt := committedAt }
  key_apply _ := rfl

/-- An intent ends as `aborted` or `expired`. -/
def terminate (state : UploadIntentState) (now : Time) : Update UploadIntent where
  apply intent :=
    { intent with state, leaseToken := none, leaseUntil := none, updatedAt := now }
  key_apply _ := rfl

/-- The row of a new intent. -/
def persisted (intent : UploadIntent) : UploadIntent :=
  { intent with
    expiresAt := postgresTime intent.expiresAt
    createdAt := postgresTime intent.createdAt
    updatedAt := postgresTime intent.updatedAt }

/-- `s3_upload_intents_expiry_check` and `s3_upload_intents_storage_fence_check`; the other
constraints say what `fromPersistence` says. -/
def rowIsValid (intent : UploadIntent) : Bool :=
  (persisted intent).createdAt < (persisted intent).expiresAt &&
  intent.temporaryStorageKey ≠ intent.finalStorageKey

/-- `expires_at > now AND (state = 'ready' OR (state = 'committing' AND lease_until <= now))` -/
def isClaimable (now : Time) (intent : UploadIntent) : Bool :=
  now < intent.expiresAt &&
  (intent.state = .ready || (intent.state = .committing && intent.leaseUntil.any (· ≤ now)))

/-- The lease that a committer or a releaser must hold. -/
def holdsLease (leaseToken : String) (now : Time) (intent : UploadIntent) : Bool :=
  intent.state = .committing && intent.leaseToken = some leaseToken &&
  intent.leaseUntil.any (now < ·)

/-- A live intent that no worker holds may end when its time is over. -/
def isLapsed (now : Time) (intent : UploadIntent) : Bool :=
  intent.state = .staging || intent.state = .ready ||
  (intent.state = .committing && intent.leaseUntil.any (· ≤ now))

def isExpirable (now : Time) (intent : UploadIntent) : Bool :=
  intent.expiresAt ≤ now && isLapsed now intent

/-- `ORDER BY application_id, bucket_id, expires_at, id` -/
def expiresBefore (a b : UploadIntent) : Bool :=
  a.applicationId < b.applicationId || (a.applicationId = b.applicationId &&
    (a.bucketId < b.bucketId || (a.bucketId = b.bucketId &&
      (a.expiresAt < b.expiresAt || (a.expiresAt = b.expiresAt && a.id ≤ b.id)))))

end UploadIntent

/-- Reads a row; an inconsistent one is an error. -/
def lockUploadIntent (intentId : UploadIntentId) : Transaction UploadIntent := do
  let row ← selectRow intentRows intentId .notFound
  domain row.fromPersistence

def createUploadIntent (intent : UploadIntent) : Transaction Unit := do
  require (intent.state = .staging)
    (.invariant "a new upload intent must be in staging state")
  lockS3QuotaBucket intent.applicationId intent.bucketId
  reserveS3UploadIntentQuota intent
  insertRow intentRows (UploadIntent.persisted intent) (UploadIntent.rowIsValid intent)
    (·.proposedVersionId = intent.proposedVersionId)
    (checkViolation "s3_upload_intents" "s3_upload_intents_expiry_check") .conflict

/-- The only step from `Staging` to `Ready`. -/
def completeUploadIntentStaging (intentId : UploadIntentId) (entityTag : EntityTag)
    (checksum : Checksum) (sizeBytes : Nat) (now : Time) : Transaction UploadIntent := do
  let now := postgresTime now
  let intent ← lockUploadIntent intentId
  require (intent.state = .staging ∧ now < intent.expiresAt) .conflict
  require (intent.expectedSizeBytes = sizeBytes)
    (.invariant "completed upload size does not match expected_size_bytes")
  asI64 sizeBytes
  updateRow intentRows intentId (·.state = .staging)
    (UploadIntent.freeze entityTag checksum sizeBytes now) (fun _ => true) .conflict .conflict
  lockUploadIntent intentId

/-- What a conditional write that found no row means. -/
def uploadIntentWriteMiss (intentId : UploadIntentId) : Transaction RepositoryError :=
  query fun db => if (db.uploadIntents.find? intentId).isSome then .conflict else .notFound

def claimUploadIntent (intentId : UploadIntentId) (leaseToken : String)
    (leaseUntil now : Time) : Transaction UploadIntent := do
  validateLease leaseToken leaseUntil now
  let now := postgresTime now
  let miss ← uploadIntentWriteMiss intentId
  updateRow intentRows intentId (UploadIntent.isClaimable now)
    (UploadIntent.lease leaseToken (postgresTime leaseUntil) now) (fun _ => true) miss miss
  lockUploadIntent intentId

def releaseUploadIntent (intentId : UploadIntentId) (leaseToken : String) (now : Time) :
    Transaction UploadIntent := do
  validateToken leaseToken
  let now := postgresTime now
  let miss ← uploadIntentWriteMiss intentId
  updateRow intentRows intentId
    (fun intent => UploadIntent.holdsLease leaseToken now intent && now < intent.expiresAt)
    (UploadIntent.unlease now) (fun _ => true) miss miss
  lockUploadIntent intentId

/-- The payload that an upload commits. -/
def storedPayload (version : ObjectVersion) : Transaction StoredObjectVersion :=
  match version.payload with
  | .object stored => pure stored
  | .deleteMarker => fail (.invariant "an upload cannot commit a delete marker")

def payloadMatchesIntent (intent : UploadIntent) (stored : StoredObjectVersion) : Bool :=
  stored.locator = intent.finalLocator && some stored.etag = intent.entityTag &&
  stored.checksum = intent.checksum && some stored.sizeBytes = intent.sizeBytes &&
  stored.sizeBytes = intent.expectedSizeBytes && stored.contentType = intent.contentType &&
  stored.userMetadata = intent.userMetadata

def validateUploadIntentCommit (intent : UploadIntent) (leaseToken : String)
    (commit : S3ObjectVersionCommit) : Transaction Unit := do
  require (intent.state = .committing ∧ intent.leaseToken = some leaseToken ∧
    intent.proposedVersionId = commit.version.id ∧
    intent.applicationId = commit.version.applicationId ∧
    intent.bucketId = commit.version.bucketId) .conflict
  let stored ← storedPayload commit.version
  require (payloadMatchesIntent intent stored = true) .conflict

/-- Freezes the lock, commits the version and settles the intent and its reservation. -/
def commitIntentVersion (intent : UploadIntent) (leaseToken : String)
    (commit : S3ObjectVersionCommit) : Transaction S3Object := do
  let committedAt := postgresTime commit.committedAt
  validateUploadIntentCommit intent leaseToken commit
  require (intent.leaseUntil.any (committedAt < ·) = true) .conflict
  let commit ← freezeObjectLock commit
  let committed ← commitObjectVersion commit
    ⟨intent.applicationId, intent.bucketId, intent.objectKey⟩
  transferS3UploadIntentQuota intent committed.releasedUsedBytes
  updateRow intentRows intent.id (UploadIntent.holdsLease leaseToken committedAt)
    (UploadIntent.commit committed.object.id commit.version.id committedAt)
    (fun _ => true) .conflict .conflict
  pure committed.object

def commitUploadIntent (intentId : UploadIntentId) (leaseToken : String)
    (commit : S3ObjectVersionCommit) : Transaction S3Object := do
  validateToken leaseToken
  commit.validate
  let intent ← lockUploadIntent intentId
  commitIntentVersion intent leaseToken commit

/-- The cleanup task for one of the two keys of an intent. -/
def uploadIntentGcTask (intent : UploadIntent) (key : StorageKey) (notBefore : Time)
    (maxAttempts : Nat) (createdAt : Time) : NewStorageGcTask where
  locator := ⟨intent.storageBackend, key⟩
  provenance := {
    applicationId := intent.applicationId
    bucketId := intent.bucketId
    objectVersionId := none
    uploadIntentId := some intent.id
    multipartUploadId := none
    reason := .abortedUploadIntent }
  notBefore := notBefore
  maxAttempts := maxAttempts
  createdAt := createdAt

/-- A cleanup template names the intent and one of its two keys. -/
def isUploadIntentGcTemplate (intent : UploadIntent) (task : NewStorageGcTask) : Bool :=
  task = uploadIntentGcTask intent task.locator.key task.notBefore task.maxAttempts
    task.createdAt &&
  (task.locator.key = intent.temporaryStorageKey || task.locator.key = intent.finalStorageKey)

def enqueueUploadIntentCleanup (intent : UploadIntent) (template : NewStorageGcTask) :
    Transaction Unit := do
  insertStorageGcTask { template with
    locator := { template.locator with key := intent.temporaryStorageKey } }
  insertStorageGcTask { template with
    locator := { template.locator with key := intent.finalStorageKey } }

/-- Aborting an intent that has ended already only queues its keys again. -/
def abortUploadIntentAndEnqueueGc (intentId : UploadIntentId) (gcTask : NewStorageGcTask)
    (now : Time) : Transaction UploadIntent := do
  domain gcTask.validate
  let now := postgresTime now
  let intent ← lockUploadIntent intentId
  require (intent.state ≠ .committed) .conflict
  require (isUploadIntentGcTemplate intent gcTask = true) .conflict
  lockS3QuotaBucket intent.applicationId intent.bucketId
  enqueueUploadIntentCleanup intent gcTask
  if intent.state.isLive then
    updateRow intentRows intentId (·.state ≠ .committed) (UploadIntent.terminate .aborted now)
      (fun _ => true) .conflict .conflict
    releaseS3UploadIntentQuota intent
    lockUploadIntent intentId
  else pure intent

def enqueueExpiredUploadIntentCleanup (intent : UploadIntent) (maxAttempts : Nat)
    (now : Time) : Transaction Unit := do
  insertStorageGcTask (uploadIntentGcTask intent intent.temporaryStorageKey now maxAttempts now)
  insertStorageGcTask (uploadIntentGcTask intent intent.finalStorageKey now maxAttempts now)

def expireUploadIntent (gcMaxAttempts : Nat) (now : Time) (intent : UploadIntent) :
    Transaction Unit := do
  lockS3QuotaBucket intent.applicationId intent.bucketId
  enqueueExpiredUploadIntentCleanup intent gcMaxAttempts now
  updateRow intentRows intent.id (UploadIntent.isLapsed now)
    (UploadIntent.terminate .expired now) (fun _ => true) .conflict .conflict
  releaseS3UploadIntentQuota intent

/-- Every lapsed intent past its expiry, in one transaction. -/
def expireUploadIntents (now : Time) (limit gcMaxAttempts : Nat) : Transaction Nat := do
  require (1 ≤ limit ∧ limit ≤ maxUploadIntentExpiryLimit ∧ gcMaxAttempts ≠ 0)
    (.invariant "upload intent expiry limit and GC max attempts are invalid")
  let now := postgresTime now
  let intents ← query fun db =>
    ((db.uploadIntents.rows.filter (UploadIntent.isExpirable now)).insertionSort
      fun a b => UploadIntent.expiresBefore a b = true).take limit
  forEach (fun intent => domain (intent.fromPersistence.map fun _ => ())) intents
  forEach (expireUploadIntent gcMaxAttempts now) intents
  pure intents.length

def queueTasks (tasks : Table StorageGcTask) (new : List NewStorageGcTask) :
    Table StorageGcTask :=
  new.foldl (fun tasks task => tasks.insert (StorageGcTask.ofNew task)) tasks

/-- Every task is admitted when its turn comes. -/
def AllAdmitted (tasks : Table StorageGcTask) : List NewStorageGcTask → Prop
  | [] => True
  | task :: new => Admits tasks task.locator task.provenance ∧
      AllAdmitted (tasks.insert (StorageGcTask.ofNew task)) new

@[simp] theorem queueTasks_cons (tasks : Table StorageGcTask) (task : NewStorageGcTask)
    (new : List NewStorageGcTask) :
    queueTasks tasks (task :: new) =
      queueTasks (tasks.insert (StorageGcTask.ofNew task)) new := rfl

/-- A locator that is queued keeps its owner. -/
theorem queuedOwner_queueTasks_of_some {tasks : Table StorageGcTask}
    {locator : StorageLocator} {owner : GcProvenance}
    (h : queuedOwner tasks locator = some owner) (new : List NewStorageGcTask) :
    queuedOwner (queueTasks tasks new) locator = some owner := by
  induction new generalizing tasks with
  | nil => exact h
  | cons task new ih =>
      refine ih ?_
      rw [queuedOwner_insert]
      split
      · rw [h, Option.some_or]
      · exact h

/-- Locators that no new task names are not touched. -/
theorem queuedOwner_queueTasks_of_ne {tasks : Table StorageGcTask} {locator : StorageLocator}
    {new : List NewStorageGcTask} (h : ∀ task ∈ new, task.locator ≠ locator) :
    queuedOwner (queueTasks tasks new) locator = queuedOwner tasks locator := by
  induction new generalizing tasks with
  | nil => rfl
  | cons task new ih =>
      rw [queueTasks_cons, ih fun task' htask' => h task' (List.mem_cons_of_mem _ htask')]
      exact queuedOwner_insert_ne (Ne.symm (h task List.mem_cons_self))

/-- An admitted task becomes the owner of its locator. -/
theorem queuedOwner_queueTasks_of_mem {tasks : Table StorageGcTask}
    {new : List NewStorageGcTask} (h : AllAdmitted tasks new) {task : NewStorageGcTask}
    (htask : task ∈ new) :
    queuedOwner (queueTasks tasks new) task.locator = some task.provenance := by
  induction new generalizing tasks with
  | nil => cases htask
  | cons head new ih =>
      rcases List.mem_cons.1 htask with rfl | hrest
      · exact queuedOwner_queueTasks_of_some (queuedOwner_insert_self h.1) new
      · exact ih h.2 hrest

theorem run_forEach_insertStorageGcTask {α : Type} {task : α → NewStorageGcTask}
    {items : List α} {db db' : Database} {u : Unit}
    (h : (forEach (fun item => insertStorageGcTask (task item)) items).run db = .ok (u, db')) :
    AllAdmitted db.storageGcTasks (items.map task) ∧
      db' = { db with storageGcTasks := queueTasks db.storageGcTasks (items.map task) } := by
  induction items generalizing db with
  | nil =>
      cases Transaction.run_forEach_nil_ok.1 h
      exact ⟨trivial, rfl⟩
  | cons item items ih =>
      obtain ⟨mid, hhead, hrest⟩ := Transaction.run_forEach_cons_ok.1 h
      obtain ⟨⟨-, -, hadmits⟩, rfl⟩ := insertStorageGcTask_ok.1 hhead
      obtain ⟨hall, rfl⟩ := ih hrest
      exact ⟨⟨hadmits, hall⟩, rfl⟩

/-- A live intent moves on: its identity stays and its row stays consistent. -/
structure Advances (old new : UploadIntent) : Prop where
  facts_eq : new.facts = old.facts
  live : old.state.isLive
  live' : new.state.isLive
  consistent : new.fromPersistence = .ok new

/-- The cleanup owner of the two keys of an intent, alone or for a multipart upload. -/
structure NamesIntent (provenance : GcProvenance) (intent : UploadIntent) : Prop where
  applicationId_eq : provenance.applicationId = intent.applicationId
  bucketId_eq : provenance.bucketId = intent.bucketId
  objectVersionId_eq : provenance.objectVersionId = none
  uploadIntentId_eq : provenance.uploadIntentId = some intent.id
  reason : provenance.reason = .abortedUploadIntent ∨ provenance.reason = .multipartTemporary

/-- Both keys of an intent are queued for one owner. -/
structure QueuesIntent (tasks : Table StorageGcTask) (intent : UploadIntent)
    (new : List NewStorageGcTask) : Prop where
  locators : new.map (·.locator) = [intent.temporaryLocator, intent.finalLocator]
  names : ∀ task ∈ new, NamesIntent task.provenance intent
  admitted : AllAdmitted tasks new

/-- The end of a live intent as `aborted` or `expired`. -/
structure IntentEnd where
  intent : UploadIntent
  state : UploadIntentState
  endedAt : Time
  tasks : List NewStorageGcTask

namespace IntentEnd

def apply (ended : IntentEnd) (db : Database) : Database :=
  { db with
    uploadIntents := db.uploadIntents.update ended.intent.id
      (UploadIntent.terminate ended.state ended.endedAt)
    storageGcTasks := queueTasks db.storageGcTasks ended.tasks
    applications := db.applications.update ended.intent.applicationId
      (Application.release ended.intent.expectedSizeBytes) }

structure Valid (ended : IntentEnd) (db : Database) : Prop where
  intent_mem : ended.intent ∈ db.uploadIntents
  consistent : ended.intent.fromPersistence = .ok ended.intent
  live : ended.intent.state.isLive
  terminal : ended.state = .aborted ∨ ended.state = .expired
  queues : QueuesIntent db.storageGcTasks ended.intent ended.tasks
  charge : CanCharge db ended.intent.applicationId
    (fun a => ended.intent.expectedSizeBytes ≤ a.reservedBytes)
    (Application.release ended.intent.expectedSizeBytes)

end IntentEnd

/-- A new intent: its keys are rendered from its ids and its bytes are reserved. -/
structure NewIntentValid (intent : UploadIntent) (db : Database) : Prop where
  fresh : db.uploadIntents.find? intent.id = none
  unproposed : ∀ row ∈ db.uploadIntents, row.proposedVersionId ≠ intent.proposedVersionId
  unversioned : db.objectVersions.find? intent.proposedVersionId = none
  consistent : intent.fromPersistence = .ok intent
  staging : intent.state = .staging
  temporaryKey : intent.temporaryStorageKey = .staging intent.id intent.proposedVersionId
  finalKey : intent.finalStorageKey =
    .object intent.applicationId intent.bucketId intent.proposedVersionId
  bucket : ∃ bucket ∈ db.buckets, bucket.id = intent.bucketId ∧
    bucket.applicationId = intent.applicationId
  charge : CanCharge db intent.applicationId
    (fun a => intent.expectedSizeBytes ≤ a.quotaBytes - a.usedBytes - a.reservedBytes)
    (Application.reserve intent.expectedSizeBytes)

/-- The cleanup owner of the payload of a version. -/
structure NamesVersion (provenance : GcProvenance) (version : ObjectVersion) : Prop where
  applicationId_eq : provenance.applicationId = version.applicationId
  bucketId_eq : provenance.bucketId = version.bucketId
  objectVersionId_eq : provenance.objectVersionId = some version.id
  uploadIntentId_eq : provenance.uploadIntentId = none
  multipartUploadId_eq : provenance.multipartUploadId = none

/-- The task that queues the payload of a version which stops being visible. -/
structure QueuesPayload (tasks : Table StorageGcTask) (version : ObjectVersion)
    (task : Option NewStorageGcTask) : Prop where
  locator : task.map (·.locator) = version.locator?
  names : ∀ new ∈ task, NamesVersion new.provenance version
  admitted : AllAdmitted tasks task.toList

/-- The bytes that a replaced version gives back. -/
def releasedBytes (replaced : Option ObjectVersion) : Nat :=
  (replaced.map (·.sizeBytes)).getD 0

end MediaHub.Store

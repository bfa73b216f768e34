import MediaHub.Store.CommitEffects

namespace MediaHub.Service

open Relational
open MediaHub.Core
open MediaHub.Store

def defaultS3UploadIntentTtlSeconds : Int := 3600

def defaultS3GcMaxAttempts : Nat := 10

/-- The errors of the service that its PUT path can raise. -/
inductive S3ObjectServiceError where
  | bucketNotFound
  | uploadIntentFactsMismatch
  | invalidUploadIntentState (state : UploadIntentState)
  | objectLockNotEnabled
  | repository (error : RepositoryError)
  | model (error : S3ModelError)

def model {α : Type} (value : Except S3ModelError α) : Except S3ObjectServiceError α :=
  value.mapError S3ObjectServiceError.model

structure BeginPutObjectRequest where
  applicationId : ApplicationId
  bucketName : String
  objectKey : String
  expectedSizeBytes : Nat
  contentType : Option String
  userMetadata : UserMetadata
  objectTags : S3ObjectTagSet
  expiresAt : Option Time

/-- The intent of a PUT. Its storage keys are rendered from its ids. -/
def newPutIntent (request : BeginPutObjectRequest) (bucket : S3Bucket)
    (backend : StorageBackend) (intentId : UploadIntentId) (proposedVersionId : ObjectVersionId)
    (now : Time) : Except S3ModelError UploadIntent :=
  UploadIntent.new intentId request.applicationId bucket.id request.objectKey proposedVersionId
    backend (.staging intentId proposedVersionId)
    (.object request.applicationId bucket.id proposedVersionId) request.expectedSizeBytes
    request.contentType request.userMetadata request.objectTags
    (request.expiresAt.getD (now + Time.seconds defaultS3UploadIntentTtlSeconds)) now

/-- Buckets are never renamed or lost, so their lookup may stand in the transaction. -/
def beginPut (request : BeginPutObjectRequest) (backend : StorageBackend)
    (intentId : UploadIntentId) (proposedVersionId : ObjectVersionId) (now : Time) :
    Transaction Unit := do
  let row ← query fun db => db.findBucketByName request.applicationId request.bucketName
  let bucket ← orThrow row .notFound
  let intent ← domain (newPutIntent request bucket backend intentId proposedVersionId now)
  createUploadIntent intent

structure NewS3ObjectLock where
  retention : Option ObjectRetention
  legalHold : Option Bool

def NewS3ObjectLock.requested (lock : NewS3ObjectLock) : Bool :=
  lock.retention.isSome || lock.legalHold.isSome

/-- What a worker holds after its claim: the row it was given, and the facts of the stream. -/
structure PrepareClaimedUploadCommitRequest where
  intent : UploadIntent
  leaseToken : String
  entityTag : EntityTag
  checksum : Checksum
  sizeBytes : Nat
  createdBy : String

def ensureReadyFacts (intent : UploadIntent) (entityTag : EntityTag) (checksum : Checksum)
    (size : Nat) : Except S3ObjectServiceError Unit :=
  if intent.entityTag = some entityTag ∧ intent.checksum = some checksum ∧
      intent.sizeBytes = some size then .ok ()
  else .error .uploadIntentFactsMismatch

def externalVersionId (status : VersioningStatus) (proposedVersionId : ObjectVersionId) :
    S3VersionId :=
  match status with
  | .enabled => .uuid proposedVersionId
  | .unversioned | .suspended => .null

/-- Only a null version that is not a delete marker leaves a payload behind. -/
def nullReplacementGcTasks (replaced : Option ObjectVersion) (committedAt : Time)
    (gcGrace : Int) : List NewStorageGcTask :=
  match replaced with
  | none => []
  | some replaced => match replaced.payload with
    | .deleteMarker => []
    | .object payload => [{
        locator := payload.locator
        provenance := {
          applicationId := replaced.applicationId
          bucketId := replaced.bucketId
          objectVersionId := some replaced.id
          uploadIntentId := none
          multipartUploadId := none
          reason := .replacedNullVersion }
        notBefore := committedAt + gcGrace
        maxAttempts := defaultS3GcMaxAttempts
        createdAt := committedAt }]

/-- The null version that a PUT outside `Enabled` replaces. -/
def replacedNull (status : VersioningStatus) (existing : Option S3Object)
    (versions : List ObjectVersion) : Option ObjectVersion :=
  match status, existing with
  | .enabled, _ => none
  | _, none => none
  | _, some _ => versions.find? ObjectVersion.isNullVersion

/-- The ids and clock readings that a worker takes while it prepares a commit. -/
structure PrepareStamp where
  objectId : ObjectId
  objectCreatedAt : Time
  committedAt : Time
  gcGrace : Int

/-- Where the new version goes: the target, its object and its generation. -/
def commitTarget (intent : UploadIntent) (existing : Option S3Object) (stamp : PrepareStamp) :
    Except S3ObjectServiceError (S3ObjectCommitTarget × ObjectId × Nat) :=
  match existing with
  | some object =>
      match checkedAddU64 object.generation 1 with
      | none => .error (.repository (.invariant "object generation overflow"))
      | some generation => .ok (.append object.id object.generation, object.id, generation)
  | none => do
      let object ← model (S3Object.new stamp.objectId intent.applicationId intent.bucketId
        intent.objectKey stamp.objectCreatedAt)
      pure (.create object, object.id, 1)

def findBucketById (db : Database) (intent : UploadIntent) : Except S3ObjectServiceError S3Bucket :=
  match db.findBucket intent.applicationId intent.bucketId with
  | some bucket => .ok bucket
  | none => .error .bucketNotFound

/-- The worker still holds what it claimed. -/
def checkClaimed (request : PrepareClaimedUploadCommitRequest) :
    Except S3ObjectServiceError Unit :=
  if request.intent.state ≠ .committing ∨ request.intent.leaseToken ≠ some request.leaseToken then
    .error (.invalidUploadIntentState request.intent.state)
  else ensureReadyFacts request.intent request.entityTag request.checksum request.sizeBytes

/-- The commit that a worker builds from a bucket, an object and versions that it read. -/
def prepareClaimedUploadCommit (request : PrepareClaimedUploadCommitRequest)
    (lock : NewS3ObjectLock) (bucket : S3Bucket) (existing : Option S3Object)
    (versions : List ObjectVersion) (stamp : PrepareStamp) :
    Except S3ObjectServiceError S3ObjectVersionCommit := do
  checkClaimed request
  if lock.requested && !bucket.configuration.objectLockEnabled then
    throw .objectLockNotEnabled
  let intent := request.intent
  let status := bucket.configuration.versioningStatus
  let replaced := replacedNull status existing versions
  let (target, objectId, generation) ← commitTarget intent existing stamp
  let stored : StoredObjectVersion := {
    locator := intent.finalLocator
    etag := request.entityTag
    sizeBytes := request.sizeBytes
    contentType := intent.contentType
    userMetadata := intent.userMetadata
    checksum := some request.checksum }
  let version ← model (ObjectVersion.newObject intent.proposedVersionId objectId
    intent.applicationId intent.bucketId (externalVersionId status intent.proposedVersionId)
    generation stored request.createdBy stamp.committedAt)
  pure {
    target
    version
    committedAt := stamp.committedAt
    replacedNullVersionId := replaced.map (·.id)
    gcTasks := nullReplacementGcTasks replaced stamp.committedAt stamp.gcGrace
    requestedRetention := lock.retention
    requestedLegalHold := lock.legalHold }

theorem nullReplacementGcTasks_reason {replaced : Option ObjectVersion} {committedAt : Time}
    {gcGrace : Int} {task : NewStorageGcTask}
    (h : task ∈ nullReplacementGcTasks replaced committedAt gcGrace) :
    task.provenance.reason = .replacedNullVersion := by
  unfold nullReplacementGcTasks at h
  cases replaced with
  | none => cases h
  | some version =>
      cases hpayload : version.payload with
      | deleteMarker => simp [hpayload] at h
      | object payload =>
          simp only [hpayload, List.mem_singleton] at h
          rw [h]

theorem isNull_externalVersionId (status : VersioningStatus) (id : ObjectVersionId) :
    (externalVersionId status id).isNull = decide (status ≠ .enabled) := by
  cases status <;> rfl

theorem except_bind_ok {ε α β : Type} {value : Except ε α} {f : α → Except ε β} {b : β} :
    (value >>= f) = .ok b ↔ ∃ a, value = .ok a ∧ f a = .ok b := by
  cases value <;> simp [bind, Except.bind]

theorem model_ok {α : Type} {value : Except S3ModelError α} {a : α} :
    model value = .ok a ↔ value = .ok a := by
  cases value <;> simp [model, Except.mapError]

theorem newObject_ok {id : ObjectVersionId} {objectId : ObjectId}
    {applicationId : ApplicationId} {bucketId : BucketId} {externalVersionId : S3VersionId}
    {generation : Nat} {stored : StoredObjectVersion} {createdBy : String} {createdAt : Time}
    {version : ObjectVersion}
    (h : ObjectVersion.newObject id objectId applicationId bucketId externalVersionId generation
      stored createdBy createdAt = .ok version) :
    version.facts = ⟨id, objectId, applicationId, bucketId, externalVersionId, generation,
        .object stored, createdBy, createdAt⟩ ∧
      version.state = .committed ∧ version.retention = none ∧ version.legalHold = false ∧
      version.becameNoncurrentAt = none := by
  unfold ObjectVersion.newObject at h
  split at h
  · split at h
    · cases h
      exact ⟨rfl, rfl, rfl, rfl, rfl⟩
    · cases h
  · cases h

/-- The payload that a worker commits: the facts of its stream at the final key. -/
def PrepareClaimedUploadCommitRequest.stored (request : PrepareClaimedUploadCommitRequest) :
    StoredObjectVersion where
  locator := request.intent.finalLocator
  etag := request.entityTag
  sizeBytes := request.sizeBytes
  contentType := request.intent.contentType
  userMetadata := request.intent.userMetadata
  checksum := some request.checksum

/-- Everything that a prepared commit says. -/
structure Prepared (request : PrepareClaimedUploadCommitRequest) (lock : NewS3ObjectLock)
    (bucket : S3Bucket) (existing : Option S3Object) (versions : List ObjectVersion)
    (stamp : PrepareStamp) (commit : S3ObjectVersionCommit) : Prop where
  claimed : checkClaimed request = .ok ()
  lock_allowed : lock.requested → bucket.configuration.objectLockEnabled
  target : ∃ objectId generation,
    commitTarget request.intent existing stamp = .ok (commit.target, objectId, generation) ∧
    commit.version.facts = {
      id := request.intent.proposedVersionId
      objectId
      applicationId := request.intent.applicationId
      bucketId := request.intent.bucketId
      externalVersionId := externalVersionId bucket.configuration.versioningStatus
        request.intent.proposedVersionId
      generation
      payload := .object request.stored
      createdBy := request.createdBy
      createdAt := stamp.committedAt }
  state : commit.version.state = .committed
  retention : commit.version.retention = none
  current : commit.version.becameNoncurrentAt = none
  committedAt_eq : commit.committedAt = stamp.committedAt
  replaced_eq : commit.replacedNullVersionId =
    (replacedNull bucket.configuration.versioningStatus existing versions).map (·.id)
  tasks_eq : commit.gcTasks = nullReplacementGcTasks
    (replacedNull bucket.configuration.versioningStatus existing versions) stamp.committedAt
    stamp.gcGrace
  requestedRetention_eq : commit.requestedRetention = lock.retention
  requestedLegalHold_eq : commit.requestedLegalHold = lock.legalHold

theorem prepareClaimedUploadCommit_ok {request : PrepareClaimedUploadCommitRequest}
    {lock : NewS3ObjectLock} {bucket : S3Bucket} {existing : Option S3Object}
    {versions : List ObjectVersion} {stamp : PrepareStamp} {commit : S3ObjectVersionCommit}
    (h : prepareClaimedUploadCommit request lock bucket existing versions stamp = .ok commit) :
    Prepared request lock bucket existing versions stamp commit := by
  rw [prepareClaimedUploadCommit, except_bind_ok] at h
  obtain ⟨_, hclaimed, h⟩ := h
  split at h
  · cases h
  rename_i hlock
  obtain ⟨⟨target, objectId, generation⟩, htarget, h⟩ := except_bind_ok.1 h
  obtain ⟨version, hversion, h⟩ := except_bind_ok.1 h
  obtain ⟨hfacts, hstate, hretention, -, hcurrent⟩ := newObject_ok (model_ok.1 hversion)
  cases h
  exact {
    claimed := hclaimed
    lock_allowed := fun hrequested => by simpa [hrequested] using hlock
    target := ⟨objectId, generation, htarget, hfacts⟩
    state := hstate
    retention := hretention
    current := hcurrent
    committedAt_eq := rfl
    replaced_eq := rfl
    tasks_eq := rfl
    requestedRetention_eq := rfl
    requestedLegalHold_eq := rfl }

namespace Prepared

variable {request : PrepareClaimedUploadCommitRequest} {lock : NewS3ObjectLock}
  {bucket : S3Bucket} {existing : Option S3Object} {versions : List ObjectVersion}
  {stamp : PrepareStamp} {commit : S3ObjectVersionCommit}

theorem preparedCommit (h : Prepared request lock bucket existing versions stamp commit) :
    PreparedCommit commit where
  current := h.current
  reasons _ htask := nullReplacementGcTasks_reason (h.tasks_eq ▸ htask)

theorem bucketId_eq (h : Prepared request lock bucket existing versions stamp commit) :
    commit.version.bucketId = request.intent.bucketId := by
  obtain ⟨_, _, -, hfacts⟩ := h.target
  exact congrArg VersionFacts.bucketId hfacts

/-- The null version is chosen from the versioning status that the worker read. -/
theorem isNullVersion_eq (h : Prepared request lock bucket existing versions stamp commit) :
    commit.version.isNullVersion =
      decide (bucket.configuration.versioningStatus ≠ .enabled) := by
  obtain ⟨_, _, -, hfacts⟩ := h.target
  have hexternal : commit.version.externalVersionId = _ :=
    congrArg VersionFacts.externalVersionId hfacts
  rw [ObjectVersion.isNullVersion, hexternal]
  exact isNull_externalVersionId _ _

end Prepared

end MediaHub.Service

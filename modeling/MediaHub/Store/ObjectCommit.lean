import MediaHub.Store.GarbageCollection
import MediaHub.Store.VersionHistory

namespace MediaHub.Store

open Relational
open MediaHub.Core

inductive S3ObjectCommitTarget where
  | create (object : S3Object)
  | append (objectId : ObjectId) (expectedGeneration : Nat)

/-- One version-history commit, built before its transaction from rows read earlier. -/
structure S3ObjectVersionCommit where
  target : S3ObjectCommitTarget
  version : ObjectVersion
  committedAt : Time
  replacedNullVersionId : Option ObjectVersionId
  gcTasks : List NewStorageGcTask
  requestedRetention : Option ObjectRetention
  requestedLegalHold : Option Bool

namespace S3ObjectVersionCommit

def createIsConsistent (commit : S3ObjectVersionCommit) (object : S3Object) : Bool :=
  object.generation = 0 && object.currentVersionId = none &&
  commit.version.objectId = object.id && commit.version.applicationId = object.applicationId &&
  commit.version.bucketId = object.bucketId && commit.version.generation = 1 &&
  commit.replacedNullVersionId = none

def validate (commit : S3ObjectVersionCommit) : Transaction Unit := do
  require (commit.version.state = .committed)
    (.invariant "only committed versions may enter object history")
  require (commit.replacedNullVersionId = none ∨ commit.version.isNullVersion ∧
      commit.replacedNullVersionId ≠ some commit.version.id)
    (.invariant "only a new null version may identify the active null version it replaces")
  match commit.target with
  | .create object =>
      require (commit.createIsConsistent object = true)
        (.invariant "new-object version commit identity is inconsistent")
  | .append objectId expectedGeneration =>
      let next ← orThrow (checkedAddU64 expectedGeneration 1)
        (.invariant "object generation overflow")
      require (commit.version.objectId = objectId ∧ commit.version.generation = next)
        (.invariant "append version commit generation is inconsistent")
  forEach (fun task => domain task.validate) commit.gcTasks

def requestsLock (commit : S3ObjectVersionCommit) : Bool :=
  commit.requestedRetention.isSome || commit.requestedLegalHold.isSome

end S3ObjectVersionCommit

/-- The retention a new version gets: the requested one, or the bucket default. -/
def initialRetention (configuration : BucketS3Configuration)
    (commit : S3ObjectVersionCommit) : Except S3ModelError (Option ObjectRetention) :=
  if configuration.objectLockEnabled then
    match commit.requestedRetention, configuration.defaultRetention with
    | some retention, _ => .ok (some retention)
    | none, some defaultRetention =>
        (defaultRetention.forObjectAt commit.committedAt).map some
    | none, none => .ok none
  else .ok none

/-- Resolves the lock of the new version under the row lock of its bucket. -/
def freezeObjectLock (commit : S3ObjectVersionCommit) : Transaction S3ObjectVersionCommit := do
  let row ← query fun db =>
    db.findBucket commit.version.applicationId commit.version.bucketId
  let bucket ← orThrow row .notFound
  let configuration := bucket.configuration
  require (commit.requestsLock → configuration.objectLockEnabled) .conflict
  let retention ← domain (initialRetention configuration commit)
  let version ← domain
    (commit.version.withInitialObjectLock retention (commit.requestedLegalHold.getD false))
  pure { commit with version }

structure ExpectedObjectIdentity where
  applicationId : ApplicationId
  bucketId : BucketId
  objectKey : String

def ExpectedObjectIdentity.matches (expected : ExpectedObjectIdentity) (object : S3Object) :
    Bool :=
  object.applicationId = expected.applicationId && object.bucketId = expected.bucketId &&
  object.key = expected.objectKey

def validateExpectedObjectIdentity (object : S3Object) (expected : ExpectedObjectIdentity) :
    Transaction Unit :=
  require (expected.matches object = true) .conflict

/-- Does this task queue the payload of the null version that is being replaced? -/
def queuesReplaced (previous : ObjectVersion) (stored : StoredObjectVersion)
    (task : NewStorageGcTask) : Bool :=
  task.provenance.applicationId = previous.applicationId &&
  task.provenance.bucketId = previous.bucketId &&
  task.provenance.objectVersionId = some previous.id &&
  task.provenance.uploadIntentId = none && task.provenance.multipartUploadId = none &&
  task.locator = stored.locator

/-- What the commit says of the null version must be what the row lock found. -/
def replacementIsValid (commit : S3ObjectVersionCommit) (activeNull : Option ObjectVersion) :
    Bool :=
  let replacementTasks := commit.gcTasks.filter (·.provenance.reason = .replacedNullVersion)
  if !commit.version.isNullVersion then
    commit.replacedNullVersionId = none && replacementTasks = []
  else if activeNull.map (·.id) ≠ commit.replacedNullVersionId then false
  else match activeNull with
    | none => replacementTasks = []
    | some previous => match previous.payload with
      | .deleteMarker => replacementTasks = []
      | .object stored => match replacementTasks with
        | [task] => queuesReplaced previous stored task
        | _ => false

def validateNullVersionReplacement (commit : S3ObjectVersionCommit)
    (activeNull : Option ObjectVersion) : Transaction Unit :=
  require (replacementIsValid commit activeNull = true) .conflict

def ensurePersistedNullReplacementGcTask (expected : NewStorageGcTask) : Transaction Unit := do
  let row ← query fun db => db.storageGcTasks.find? expected.locator
  let persisted ← orThrow row .conflict
  require (persisted.task.provenance = { expected.provenance with
    uploadIntentId := none, multipartUploadId := none, reason := .replacedNullVersion })
    .conflict

def enqueueCommitGcTask (version : ObjectVersion) (task : NewStorageGcTask) :
    Transaction Unit := do
  require (task.provenance.applicationId = version.applicationId ∧
    task.provenance.bucketId = version.bucketId) .conflict
  insertStorageGcTask task
  if task.provenance.reason = .replacedNullVersion then
    ensurePersistedNullReplacementGcTask task
  else pure ()

/-- The head after a commit, and the bytes that a replaced null version gives back. -/
structure CommittedS3ObjectVersion where
  object : S3Object
  releasedUsedBytes : Nat

/-- The first version of a new object. -/
def commitFirstVersion (commit : S3ObjectVersionCommit) (object : S3Object)
    (expected : ExpectedObjectIdentity) : Transaction CommittedS3ObjectVersion := do
  validateExpectedObjectIdentity object expected
  validateNullVersionReplacement commit none
  let advanced ← domain (object.advancedTo commit.version commit.committedAt)
  insertObject object
  insertObjectVersion commit.version
  advanceObject object.id 0 commit.version.id advanced.generation advanced.updatedAt
  pure ⟨advanced, 0⟩

/-- A further version. Only the generation is compared with what the commit was built from. -/
def commitNextVersion (commit : S3ObjectVersionCommit) (objectId : ObjectId)
    (expectedGeneration : Nat) (expected : ExpectedObjectIdentity) :
    Transaction CommittedS3ObjectVersion := do
  let object ← selectRow objectRows objectId .notFound
  validateExpectedObjectIdentity object expected
  require (object.generation = expectedGeneration) .conflict
  let activeNull ← query fun db =>
    if commit.version.isNullVersion then db.findActiveNullVersion object.id else none
  validateNullVersionReplacement commit activeNull
  let advanced ← domain (object.advancedTo commit.version commit.committedAt)
  require (object.currentVersionId.isSome = true)
    (.invariant "an existing versioned object must have a current version")
  markCurrentVersionNoncurrent object commit.committedAt
  supersedeActiveNullVersion activeNull commit.committedAt
  insertObjectVersion commit.version
  advanceObject object.id expectedGeneration commit.version.id advanced.generation
    advanced.updatedAt
  pure ⟨advanced, (activeNull.map (·.sizeBytes)).getD 0⟩

def commitObjectVersion (commit : S3ObjectVersionCommit) (expected : ExpectedObjectIdentity) :
    Transaction CommittedS3ObjectVersion := do
  commit.validate
  let committed ← match commit.target with
    | .create object => commitFirstVersion commit object expected
    | .append objectId expectedGeneration =>
        commitNextVersion commit objectId expectedGeneration expected
  forEach (enqueueCommitGcTask commit.version) commit.gcTasks
  pure committed

end MediaHub.Store

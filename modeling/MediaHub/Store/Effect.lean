import Mathlib.Logic.Relation
import MediaHub.Store.Media
import MediaHub.Store.UploadIntent
import MediaHub.Store.Multipart
import MediaHub.Store.ObjectDelete
import MediaHub.Store.VersionChange

/-!
What transactions can do to the database, one effect at a time. Every transaction is a sequence
of effects, so an invariant that each effect keeps is kept by all of them.
-/

namespace MediaHub.Store

open Relational
open MediaHub.Core

/-- What a transaction may do beyond its bookkeeping: the ids and the part payloads that it
brings in, the part payloads and the versions that it gives up, and the intents whose lease it
ends by a commit or a release. -/
structure Licence where
  mints : Uuid → Prop
  stores : StorageKey → Prop
  drops : StorageKey → Prop
  retires : ObjectVersionId → Prop
  commits : UploadIntent → Prop
  releases : UploadIntent → Prop

def Licence.none : Licence where
  mints _ := False
  stores _ := False
  drops _ := False
  retires _ := False
  commits _ := False
  releases _ := False

/-- The one step that turns an intent into a version. -/
structure VersionCommit where
  push : Push
  intent : UploadIntent
  committedAt : Time
  task : Option NewStorageGcTask

/-- The payload of a replaced version is queued; nothing is if there is none. -/
def QueuesReplaced (tasks : Table StorageGcTask) (replaced : Option ObjectVersion)
    (task : Option NewStorageGcTask) : Prop :=
  match replaced with
  | none => task = none
  | some version => QueuesPayload tasks version task

namespace VersionCommit

def apply (commit : VersionCommit) (db : Database) : Database :=
  { db with
    objects := commit.push.objects db.objects
    objectVersions := commit.push.versions db.objectVersions
    storageGcTasks := queueTasks db.storageGcTasks commit.task.toList
    applications := db.applications.update commit.intent.applicationId
      (Application.transfer commit.intent.expectedSizeBytes (releasedBytes commit.push.replaced))
    uploadIntents := db.uploadIntents.update commit.intent.id
      (UploadIntent.commit commit.push.object.id commit.push.version.id commit.committedAt) }

structure Valid (commit : VersionCommit) (db : Database) : Prop where
  push_valid : commit.push.Valid db
  intent_mem : commit.intent ∈ db.uploadIntents
  consistent : commit.intent.fromPersistence = .ok commit.intent
  committing : commit.intent.state = .committing
  proposed : commit.intent.proposedVersionId = commit.push.version.id
  applicationId_eq : commit.intent.applicationId = commit.push.version.applicationId
  bucketId_eq : commit.intent.bucketId = commit.push.version.bucketId
  payload : ∃ stored, commit.push.version.payload = .object stored ∧
    payloadMatchesIntent commit.intent stored
  queues : QueuesReplaced db.storageGcTasks commit.push.replaced commit.task
  charge : CanCharge db commit.intent.applicationId
    (fun a => commit.intent.expectedSizeBytes ≤ a.reservedBytes &&
      releasedBytes commit.push.replaced ≤ a.usedBytes)
    (Application.transfer commit.intent.expectedSizeBytes
      (releasedBytes commit.push.replaced))

end VersionCommit

/-- The bytes of a version are given back to its application. -/
def giveBack (applications : Table Application) (version : ObjectVersion) : Table Application :=
  applications.update version.applicationId (Application.releaseUsed version.sizeBytes)

/-- Bytes can only be given back if they are used. -/
def CanGiveBack (db : Database) (version : ObjectVersion) : Prop :=
  version.sizeBytes = 0 ∨ CanCharge db version.applicationId
    (fun a => version.sizeBytes ≤ a.usedBytes) (Application.releaseUsed version.sizeBytes)

/-- A delete marker on top of a history. -/
structure MarkerPush where
  push : Push
  task : Option NewStorageGcTask

namespace MarkerPush

def apply (marker : MarkerPush) (db : Database) : Database :=
  { db with
    objects := marker.push.objects db.objects
    objectVersions := marker.push.versions db.objectVersions
    storageGcTasks := queueTasks db.storageGcTasks marker.task.toList
    applications := marker.push.replaced.elim db.applications (giveBack db.applications) }

structure Valid (marker : MarkerPush) (db : Database) : Prop where
  push_valid : marker.push.Valid db
  isMarker : marker.push.version.payload = .deleteMarker
  unproposed : ∀ intent ∈ db.uploadIntents,
    intent.proposedVersionId ≠ marker.push.version.id
  queues : QueuesReplaced db.storageGcTasks marker.push.replaced marker.task
  charge : ∀ version, marker.push.replaced = some version → CanGiveBack db version

end MarkerPush

/-- A version that leaves its history, with its payload and its bytes. -/
structure VersionRemoval where
  removal : Removal
  task : Option NewStorageGcTask

namespace VersionRemoval

/-- The removal of a version that is not the head. -/
def apply (removed : VersionRemoval) (db : Database) : Database :=
  { db with
    objectVersions := db.objectVersions.rewrite removed.removal.age
    storageGcTasks := queueTasks db.storageGcTasks removed.task.toList
    applications := giveBack db.applications removed.removal.target }

/-- The removal of the head moves the pointer. -/
def applyHead (removed : VersionRemoval) (movedAt : Time) (db : Database) : Database :=
  { removed.apply db with
    objects := db.objects.update removed.removal.object.id
      (S3Object.pointTo (removed.removal.next.map (·.id)) movedAt) }

structure Valid (removed : VersionRemoval) (db : Database) : Prop where
  removal_valid : removed.removal.Valid db
  queues : QueuesPayload db.storageGcTasks removed.removal.target removed.task
  charge : CanGiveBack db removed.removal.target

end VersionRemoval

/-- The facts that a completed upload stands for. -/
structure CompletionFacts [Md5] (parts : List S3MultipartPart)
    (manifest : List CompletedS3MultipartPart) (stored : StoredObjectVersion) : Prop where
  nonempty : parts ≠ []
  length_eq : parts.length = manifest.length
  etag_eq : stored.etag = .multipart (Md5.md5 (parts.flatMap (·.md5))) parts.length
  size_eq : stored.sizeBytes = (parts.map (·.size)).sum

/-- A key that is queued for an upload belongs to a part of a closed upload, or to a part that
its request gave up, or it is the temporary key of a committed intent. -/
inductive Droppable (licence : Licence) (db : Database) (upload : S3MultipartUpload) :
    Option UploadIntentId → StorageKey → Prop
  | closed {intentId : Option UploadIntentId} {part : S3MultipartPart}
      (hclosed : upload.state.isOpen = false) (hpart : part ∈ db.multipartParts)
      (hupload : part.uploadId = upload.uploadId) :
      Droppable licence db upload intentId part.storageKey
  | givenUp {partNumber : Nat} {nonce : Uuid}
      (hdrops : licence.drops (.part upload.uploadId partNumber nonce)) :
      Droppable licence db upload none (.part upload.uploadId partNumber nonce)
  | temporary {intentId : Option UploadIntentId} {key : StorageKey} {intent : UploadIntent}
      (hintent : intent ∈ db.uploadIntents) (hcommitted : intent.state = .committed)
      (hid : intentId = some intent.id) (hkey : key = intent.temporaryStorageKey) :
      Droppable licence db upload intentId key

/-- A new payload of a pending upload: nothing names its key yet. -/
structure NewPartValid (upload : S3MultipartUpload) (part : NewS3MultipartPart)
    (db : Database) : Prop where
  upload_mem : upload ∈ db.multipartUploads
  pending : upload.state = .pending
  key_eq : ∃ nonce, part.storageKey = .part upload.uploadId part.partNumber nonce
  unnamed : ∀ row ∈ db.multipartParts, row.storageKey ≠ part.storageKey
  unqueued : ∀ backend, queuedOwner db.storageGcTasks ⟨backend, part.storageKey⟩ = none

/-- An attached intent that has ended. -/
def AttachedEnded (db : Database) (upload : S3MultipartUpload) : Prop :=
  ∀ intent ∈ db.uploadIntents, upload.uploadIntentId = some intent.id →
    intent.state.isLive = false

inductive Effect [Md5] (licence : Licence) : Database → Database → Prop
  | configured {db : Database} {buckets : Table S3Bucket}
      (h : BucketsEvolve db.buckets buckets) :
      Effect licence db { db with buckets := buckets }
  | collected {db : Database} {tasks : Table StorageGcTask}
      (h : ∀ locator, queuedOwner tasks locator = queuedOwner db.storageGcTasks locator) :
      Effect licence db { db with storageGcTasks := tasks }
  | accounted {db db' : Database} (h : Accounting db db') : Effect licence db db'
  | objectCreated {db : Database} {object : S3Object}
      (hfresh : db.objects.find? object.id = none)
      (hkey : ∀ row ∈ db.objects, ¬ (row.bucketId = object.bucketId ∧ row.key = object.key))
      (hbucket : ∃ bucket ∈ db.buckets, bucket.id = object.bucketId ∧
        bucket.applicationId = object.applicationId)
      (hgeneration : object.generation = 0) (hhead : object.currentVersionId = none) :
      Effect licence db (db.mapObjects (·.insert object))
  | versionCommitted {db : Database} {commit : VersionCommit} (h : commit.Valid db)
      (hcommits : licence.commits commit.intent)
      (hretires : ∀ version, commit.push.replaced = some version →
        licence.retires version.id) :
      Effect licence db (commit.apply db)
  | markerPushed {db : Database} {marker : MarkerPush} (h : marker.Valid db)
      (hmints : licence.mints marker.push.version.id)
      (hretires : ∀ version, marker.push.replaced = some version →
        licence.retires version.id) :
      Effect licence db (marker.apply db)
  | versionRemoved {db : Database} {removed : VersionRemoval} (h : removed.Valid db)
      (htail : removed.removal.object.currentVersionId ≠ some removed.removal.target.id)
      (hnext : removed.removal.next = none)
      (hretires : licence.retires removed.removal.target.id) :
      Effect licence db (removed.apply db)
  | headRemoved {db : Database} {removed : VersionRemoval} {movedAt : Time}
      (h : removed.Valid db)
      (hhead : removed.removal.object.currentVersionId = some removed.removal.target.id)
      (hnext : removed.removal.NextValid db)
      (hretires : licence.retires removed.removal.target.id) :
      Effect licence db (removed.applyHead movedAt db)
  | relocked {db : Database} {versionId : ObjectVersionId}
      {retention : Option ObjectRetention} {legalHold : Bool}
      (hlock : ∀ version ∈ db.objectVersions, version.id = versionId →
        IsLockEnabled db.buckets version.bucketId) :
      Effect licence db (db.mapObjectVersions
        (·.update versionId (ObjectVersion.relock retention legalHold)))
  | intentCreated {db : Database} {intent : UploadIntent} (h : NewIntentValid intent db)
      (hmints : licence.mints intent.proposedVersionId) :
      Effect licence db { db with
        uploadIntents := db.uploadIntents.insert intent
        applications := db.applications.update intent.applicationId
          (Application.reserve intent.expectedSizeBytes) }
  | intentAdvanced {db : Database} {intent : UploadIntent} {f : Update UploadIntent}
      (hmem : intent ∈ db.uploadIntents) (h : Advances intent (f intent))
      (hreleases : intent.state = .committing → (f intent).state ≠ .committing →
        licence.releases intent) :
      Effect licence db (db.mapUploadIntents (·.update intent.id f))
  | intentEnded {db : Database} {ended : IntentEnd} (h : ended.Valid db) :
      Effect licence db (ended.apply db)
  | intentRequeued {db : Database} {intent : UploadIntent} {tasks : List NewStorageGcTask}
      (hmem : intent ∈ db.uploadIntents)
      (hended : intent.state = .aborted ∨ intent.state = .expired)
      (hqueues : QueuesIntent db.storageGcTasks intent tasks) :
      Effect licence db { db with storageGcTasks := queueTasks db.storageGcTasks tasks }
  | uploadCreated {db : Database} {upload : S3MultipartUpload}
      (hfresh : db.multipartUploads.find? upload.uploadId = none)
      (hstate : upload.state = .pending) (hintent : upload.uploadIntentId = none)
      (hbucket : ∃ bucket ∈ db.buckets, bucket.id = upload.bucketId ∧
        bucket.applicationId = upload.applicationId) :
      Effect licence db (db.mapMultipartUploads (·.insert upload))
  | uploadClaimed {db : Database} {upload : S3MultipartUpload}
      {manifest : List CompletedS3MultipartPart} {selected : List S3MultipartPart}
      {completionToken : String} {leaseUntil now : Time}
      (hmem : upload ∈ db.multipartUploads) (hopen : upload.state.isOpen)
      (hmanifest : validateManifest manifest (db.listParts upload.uploadId) = .ok selected) :
      Effect licence db (db.mapMultipartUploads (·.update upload.uploadId
        (S3MultipartUpload.claim manifest completionToken leaseUntil now)))
  | uploadAttached {db : Database} {upload : S3MultipartUpload} {intent : UploadIntent}
      {now : Time} (hmem : upload ∈ db.multipartUploads) (hstate : upload.state = .completing)
      (hintent : intent ∈ db.uploadIntents) (hidentity : intentIdentityMatches upload intent)
      (hunique : ∀ row ∈ db.multipartUploads, row.uploadId ≠ upload.uploadId →
        row.uploadIntentId ≠ some intent.id)
      (hfree : upload.uploadIntentId = none ∨ upload.uploadIntentId = some intent.id) :
      Effect licence db (db.mapMultipartUploads (·.update upload.uploadId
        (S3MultipartUpload.attach intent.id now)))
  | uploadReleased {db : Database} {upload : S3MultipartUpload} {now : Time}
      (hmem : upload ∈ db.multipartUploads) (hstate : upload.state = .completing)
      (hended : AttachedEnded db upload) :
      Effect licence db (db.mapMultipartUploads (·.update upload.uploadId
        (S3MultipartUpload.release now)))
  | uploadAborted {db : Database} {upload : S3MultipartUpload} {now : Time}
      (hmem : upload ∈ db.multipartUploads) (hopen : upload.state.isOpen)
      (hended : AttachedEnded db upload) :
      Effect licence db (db.mapMultipartUploads (·.update upload.uploadId
        (S3MultipartUpload.abort now)))
  | uploadCompleted {db : Database} {upload : S3MultipartUpload} {intent : UploadIntent}
      {version : ObjectVersion} {stored : StoredObjectVersion} {finalChecksum : Checksum}
      {completedAt : Time} (hmem : upload ∈ db.multipartUploads)
      (hstate : upload.state = .completing) (hintent : intent ∈ db.uploadIntents)
      (hattached : upload.uploadIntentId = some intent.id)
      (hcommitted : intent.state = .committed)
      (hversionId : intent.committedVersionId = some version.id)
      (hversion : version ∈ db.objectVersions) (hpayload : version.payload = .object stored)
      (hfacts : CompletionFacts (db.manifestParts upload)
        (upload.completionManifest.getD []) stored) :
      Effect licence db (db.mapMultipartUploads (·.update upload.uploadId
        (S3MultipartUpload.complete version.objectId version.id stored.etag finalChecksum
          completedAt)))
  | partStored {db : Database} {upload : S3MultipartUpload} {part : NewS3MultipartPart}
      {now : Time} (h : NewPartValid upload part db) (hstores : licence.stores part.storageKey)
      (hfresh : db.multipartParts.find? (upload.uploadId, part.partNumber) = none) :
      Effect licence db
        (db.mapMultipartParts (·.insert (partRow upload.uploadId part now now)))
  | partReplaced {db : Database} {upload : S3MultipartUpload} {part : NewS3MultipartPart}
      {previous : S3MultipartPart} {now : Time} (h : NewPartValid upload part db)
      (hstores : licence.stores part.storageKey)
      (hprevious : previous ∈ db.multipartParts)
      (hkey : Keyed.key previous = (upload.uploadId, part.partNumber))
      (hadmits : Admits db.storageGcTasks ⟨upload.storageBackend, previous.storageKey⟩
        (multipartGcTask upload none previous.storageKey now).provenance) :
      Effect licence db { db with
        multipartParts := db.multipartParts.update (upload.uploadId, part.partNumber)
          (replacePart upload.uploadId part now)
        storageGcTasks := db.storageGcTasks.insert
          (StorageGcTask.ofNew (multipartGcTask upload none previous.storageKey now)) }
  | keysQueued {db : Database} {upload : S3MultipartUpload}
      {intentId : Option UploadIntentId} {keys : List StorageKey} {now : Time}
      (hmem : upload ∈ db.multipartUploads)
      (hkeys : ∀ key ∈ keys, Droppable licence db upload intentId key)
      (hadmitted : AllAdmitted db.storageGcTasks
        (keys.map (multipartGcTask upload intentId · now))) :
      Effect licence db { db with
        storageGcTasks := queueTasks db.storageGcTasks
          (keys.map (multipartGcTask upload intentId · now)) }

/-- A sequence of effects. -/
def Effects [Md5] (licence : Licence) : Database → Database → Prop :=
  Relation.ReflTransGen (Effect licence)

namespace Effects

variable [Md5] {licence : Licence} {db db' db'' : Database}

theorem refl (db : Database) : Effects licence db db := Relation.ReflTransGen.refl

theorem single (h : Effect licence db db') : Effects licence db db' :=
  Relation.ReflTransGen.single h

theorem trans (h : Effects licence db db') (h' : Effects licence db' db'') :
    Effects licence db db'' := Relation.ReflTransGen.trans h h'

theorem tail (h : Effects licence db db') (h' : Effect licence db' db'') :
    Effects licence db db'' := Relation.ReflTransGen.tail h h'

/-- What every effect keeps, a transaction keeps. -/
theorem invariant {P : Database → Prop}
    (hstep : ∀ db db', P db → Effect licence db db' → P db') (hdb : P db)
    (h : Effects licence db db') : P db' := by
  induction h with
  | refl => exact hdb
  | tail _ h ih => exact hstep _ _ ih h

end Effects

end MediaHub.Store

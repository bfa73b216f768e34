import MediaHub.Server.Command
import MediaHub.Transition.System

/-!
The running server: the database, the workers that are between two repository calls, and the
payloads of parts in the object store.
-/

namespace MediaHub.Server

open Relational
open MediaHub.Core
open MediaHub.Store
open MediaHub.Service

/-- How far a worker has come after its claim. Other transactions may run between the reads. -/
inductive PutPhase where
  | claimed
  | sawBucket (bucket : S3Bucket)
  | sawObject (bucket : S3Bucket) (existing : Option S3Object)
  | prepared (commit : S3ObjectVersionCommit)

/-- A worker that completes a PUT or a multipart upload. -/
structure PutWorker where
  id : Uuid
  request : PrepareClaimedUploadCommitRequest
  lock : NewS3ObjectLock
  phase : PutPhase

instance : Keyed PutWorker Uuid := ⟨PutWorker.id⟩

def PutWorker.enter (phase : PutPhase) : Update PutWorker where
  apply worker := { worker with phase }
  key_apply _ := rfl

/-- An UploadPart request first streams its payload; once it knows its upload it hands the
payload over to the upload or to the cleanup queue. -/
inductive PartPhase where
  | staged
  | bound (upload : S3MultipartUpload)
  | rejected (upload : S3MultipartUpload)
deriving DecidableEq

structure PartRequest where
  nonce : Uuid
  uploadId : MultipartUploadId
  partNumber : Nat
  phase : PartPhase

instance : Keyed PartRequest Uuid := ⟨PartRequest.nonce⟩

/-- `new_multipart_part_storage_key` -/
def PartRequest.storageKey (request : PartRequest) : StorageKey :=
  .part request.uploadId request.partNumber request.nonce

def PartRequest.enter (phase : PartPhase) : Update PartRequest where
  apply request := { request with phase }
  key_apply _ := rfl

/-- A quota reservation as the upload that made it sees it: it has no media row yet. Where `created`
is set it has one, but the upload was told that its creation failed. -/
structure BareReservation where
  id : Uuid
  applicationId : ApplicationId
  bytes : Nat
  created : Bool

instance : Keyed BareReservation Uuid := ⟨BareReservation.id⟩

def BareReservation.misreport : Update BareReservation where
  apply reservation := { reservation with created := true }
  key_apply _ := rfl

/-- One server stands for all of its processes: they share the database and the object store. -/
structure State where
  db : Database
  issued : List Uuid
  puts : Table PutWorker
  parts : Table PartRequest
  payloads : List StorageKey
  reservations : Table BareReservation

/-- What a worker says when it claims an intent. -/
structure PutClaim where
  intentId : UploadIntentId
  leaseToken : String
  leaseUntil : Time
  now : Time
  entityTag : EntityTag
  checksum : Checksum
  sizeBytes : Nat
  createdBy : String
  lock : NewS3ObjectLock

/-- The facts of a part that are known after streaming. -/
structure PartFacts where
  size : Nat
  sha256 : Digest
  md5 : Digest
  maximumUploadSize : Nat
  now : Time

def PartFacts.part (facts : PartFacts) (request : PartRequest) : NewS3MultipartPart where
  partNumber := request.partNumber
  size := facts.size
  sha256 := facts.sha256
  md5 := facts.md5
  etag := .md5 facts.md5
  storageKey := request.storageKey

inductive Event where
  | call (command : Command)
  -- workers of a PUT or a completion
  | claim (worker : Uuid) (claim : PutClaim)
  | readBucket (worker : Uuid)
  | readObject (worker : Uuid)
  | prepare (worker : Uuid) (stamp : PrepareStamp)
  | commitPut (worker : Uuid)
  | commitMultipart (worker : Uuid) (uploadId : MultipartUploadId)
  | crash (worker : Uuid)
  -- part uploads
  | stagePart (nonce : Uuid) (uploadId : MultipartUploadId) (partNumber : Nat)
  | stagePartCopy (nonce : Uuid) (uploadId : MultipartUploadId) (partNumber : Nat)
  | bindPart (nonce : Uuid)
  | discardPart (nonce : Uuid)
  | rejectPart (nonce : Uuid)
  | putPart (nonce : Uuid) (facts : PartFacts) (replyLost : Bool)
  | queuePart (nonce : Uuid) (now : Time)
  | collectPayload (locator : StorageLocator) (leaseToken : String) (now : Time)
  -- bare reservations
  | reserve (reservation : Uuid) (applicationId : ApplicationId) (bytes : Nat)
  | releaseReservation (reservation : Uuid)
  | createUploading (reservation : Uuid) (media : Media) (temporaryKey leaseToken : String)
      (leasedUntil : Time) (replyLost : Bool)

namespace State

variable (s : State)

/-- None of the ids was handed out before. -/
def unissued (ids : List Uuid) : Bool := ids.all (· ∉ s.issued)

def issue (ids : List Uuid) : State := { s with issued := ids ++ s.issued }

def withDb (db : Database) : State := { s with db }

def call (command : Command) : State :=
  if s.unissued command.mints then
    (s.issue command.mints).withDb (command.commit s.db)
  else s

def claim (worker : Uuid) (claim : PutClaim) : State :=
  match (claimUploadIntent claim.intentId claim.leaseToken claim.leaseUntil claim.now).run s.db with
  | .error _ => s
  | .ok (intent, db) =>
      { s with
        db
        puts := s.puts.insert {
          id := worker
          request := {
            intent
            leaseToken := claim.leaseToken
            entityTag := claim.entityTag
            checksum := claim.checksum
            sizeBytes := claim.sizeBytes
            createdBy := claim.createdBy }
          lock := claim.lock
          phase := .claimed } }

def enterPut (worker : Uuid) (phase : PutPhase) : State :=
  { s with puts := s.puts.update worker (PutWorker.enter phase) }

/-- The worker stops; its claim stays until the lease is over. -/
def stopPut (worker : Uuid) : State := { s with puts := s.puts.delete worker }

def readBucket (worker : PutWorker) : State :=
  match worker.phase, findBucketById s.db worker.request.intent with
  | .claimed, .ok bucket => s.enterPut worker.id (.sawBucket bucket)
  | .claimed, .error _ => s.stopPut worker.id
  | _, _ => s

def readObject (worker : PutWorker) : State :=
  match worker.phase with
  | .sawBucket bucket =>
      let intent := worker.request.intent
      s.enterPut worker.id (.sawObject bucket
        (s.db.findObject intent.applicationId intent.bucketId intent.objectKey))
  | _ => s

/-- The versions of the object that the worker saw, as they are now. -/
def readVersions (existing : Option S3Object) : List ObjectVersion :=
  existing.elim [] fun object => s.db.listActiveVersions object.id

def prepare (worker : PutWorker) (stamp : PrepareStamp) : State :=
  match worker.phase with
  | .sawObject bucket existing =>
      match prepareClaimedUploadCommit worker.request worker.lock bucket existing
        (s.readVersions existing) stamp with
      | .ok commit => s.enterPut worker.id (.prepared commit)
      | .error _ => s.stopPut worker.id
  | _ => s

def commitPut (worker : PutWorker) : State :=
  match worker.phase with
  | .prepared commit => (s.stopPut worker.id).withDb
      ((commitUploadIntent worker.request.intent.id worker.request.leaseToken commit).commit s.db)
  | _ => s

def commitMultipart [Md5] (worker : PutWorker) (uploadId : MultipartUploadId) : State :=
  match worker.phase with
  | .prepared commit => (s.stopPut worker.id).withDb
      ((commitMultipartObjectVersion uploadId worker.request.leaseToken commit
        worker.request.entityTag worker.request.checksum).commit s.db)
  | _ => s

def stage (request : PartRequest) : State :=
  if s.unissued [request.nonce] then
    { s.issue [request.nonce] with
      parts := s.parts.insert request
      payloads := request.storageKey :: s.payloads }
  else s

def enterPart (nonce : Uuid) (phase : PartPhase) : State :=
  { s with parts := s.parts.update nonce (PartRequest.enter phase) }

def endPart (nonce : Uuid) : State := { s with parts := s.parts.delete nonce }

/-- `discard_unbound_multipart_temporary` -/
def discardPart (request : PartRequest) : State :=
  { s.endPart request.nonce with payloads := s.payloads.filter (· ≠ request.storageKey) }

/-- A copy knows its upload before it has a payload. -/
def stagePartCopy (nonce : Uuid) (uploadId : MultipartUploadId) (partNumber : Nat) : State :=
  match s.db.multipartUploads.find? uploadId with
  | some upload => s.stage ⟨nonce, uploadId, partNumber, .bound upload⟩
  | none => s

def bindPart (request : PartRequest) : State :=
  match request.phase, s.db.multipartUploads.find? request.uploadId with
  | .staged, some upload => s.enterPart request.nonce (.bound upload)
  | .staged, none => s.discardPart request
  | _, _ => s

/-- The upload is over, the bucket is gone, the part is too large, or the put never arrived. -/
def rejectPart (request : PartRequest) : State :=
  match request.phase with
  | .bound upload => s.enterPart request.nonce (.rejected upload)
  | _ => s

/-- The request takes an error reply for a part that was not stored, even if the database
committed it and only the reply was lost. -/
def putPart (request : PartRequest) (facts : PartFacts) (replyLost : Bool) : State :=
  match request.phase with
  | .bound upload =>
      match (putMultipartPart request.uploadId (facts.part request) facts.maximumUploadSize
        facts.now).run s.db with
      | .ok (.stored _, db) =>
          if replyLost then (s.enterPart request.nonce (.rejected upload)).withDb db
          else (s.endPart request.nonce).withDb db
      | .ok (_, db) => (s.enterPart request.nonce (.rejected upload)).withDb db
      | .error _ => s.enterPart request.nonce (.rejected upload)
  | _ => s

/-- `persist_multipart_temporary_gc` -/
def queuePart (request : PartRequest) (now : Time) : State :=
  match request.phase with
  | .rejected upload => (s.endPart request.nonce).withDb
      ((enqueueStorageGcTask (multipartGcTask upload none request.storageKey now)).commit s.db)
  | _ => s

/-- The collector deletes a payload whose task it has leased. -/
def collectPayload (locator : StorageLocator) (leaseToken : String) (now : Time) : State :=
  match s.db.storageGcTasks.find? locator with
  | some task =>
      if StorageGcTask.holdsLease leaseToken now task then
        { s with payloads := s.payloads.filter (· ≠ locator.key) }
      else s
  | none => s

def reserve (reservation : BareReservation) : State :=
  if (s.reservations.find? reservation.id).isSome then s
  else match (reserveQuota reservation.applicationId reservation.bytes).run s.db with
    | .ok (_, db) => { s with db, reservations := s.reservations.insert reservation }
    | .error _ => s

def releaseReservation (reservation : BareReservation) : State :=
  match (releaseQuota reservation.applicationId reservation.bytes).run s.db with
  | .ok (_, db) => { s with db, reservations := s.reservations.delete reservation.id }
  | .error _ => s

/-- The media row is built with the size that was reserved. The upload takes an error reply for a
row that was not created, even if the database committed it and only the reply was lost. -/
def createUploading (reservation : BareReservation) (media : Media)
    (temporaryKey leaseToken : String) (leasedUntil : Time) (replyLost : Bool) : State :=
  if reservation.created = false ∧ media.applicationId = reservation.applicationId ∧
      media.size = reservation.bytes then
    match (Store.createUploading media temporaryKey leaseToken leasedUntil).run s.db with
    | .ok (_, db) =>
        if replyLost then
          { s with
            db
            reservations := s.reservations.update reservation.id BareReservation.misreport }
        else { s with db, reservations := s.reservations.delete reservation.id }
    | .error _ => s
  else s

/-- An event of a worker or a request that is not there changes nothing. -/
def step [Md5] (event : Event) : State :=
  match event with
  | .call command => s.call command
  | .claim worker claim => s.claim worker claim
  | .readBucket worker => (s.puts.find? worker).elim s s.readBucket
  | .readObject worker => (s.puts.find? worker).elim s s.readObject
  | .prepare worker stamp => (s.puts.find? worker).elim s (s.prepare · stamp)
  | .commitPut worker => (s.puts.find? worker).elim s s.commitPut
  | .commitMultipart worker uploadId => (s.puts.find? worker).elim s (s.commitMultipart · uploadId)
  | .crash worker => s.stopPut worker
  | .stagePart nonce uploadId partNumber => s.stage ⟨nonce, uploadId, partNumber, .staged⟩
  | .stagePartCopy nonce uploadId partNumber => s.stagePartCopy nonce uploadId partNumber
  | .bindPart nonce => (s.parts.find? nonce).elim s s.bindPart
  | .discardPart nonce => (s.parts.find? nonce).elim s fun request =>
      if request.phase = .staged then s.discardPart request else s
  | .rejectPart nonce => (s.parts.find? nonce).elim s s.rejectPart
  | .putPart nonce facts replyLost => (s.parts.find? nonce).elim s (s.putPart · facts replyLost)
  | .queuePart nonce now => (s.parts.find? nonce).elim s (s.queuePart · now)
  | .collectPayload locator leaseToken now => s.collectPayload locator leaseToken now
  | .reserve reservation applicationId bytes =>
      s.reserve ⟨reservation, applicationId, bytes, false⟩
  | .releaseReservation reservation =>
      (s.reservations.find? reservation).elim s s.releaseReservation
  | .createUploading reservation media temporaryKey leaseToken leasedUntil replyLost =>
      (s.reservations.find? reservation).elim s
        (s.createUploading · media temporaryKey leaseToken leasedUntil replyLost)

end State

theorem unissued_iff {s : State} {ids : List Uuid} :
    s.unissued ids = true ↔ ∀ id ∈ ids, id ∉ s.issued := by
  simp [State.unissued]

/-- The rows of requests after one of them moves on. -/
theorem mem_enterPart {s : State} {request row : PartRequest} {phase : PartPhase}
    (hrequest : request ∈ s.parts) (hrow : row ∈ (s.enterPart request.nonce phase).parts) :
    row.nonce ≠ request.nonce ∧ row ∈ s.parts ∨ row = { request with phase } := by
  rcases Table.mem_update.1 hrow with ⟨hold, hne⟩ | ⟨old, hold, hid, rfl⟩
  · exact Or.inl ⟨hne, hold⟩
  · rw [Table.eq_of_key hold hrequest hid]
    exact Or.inr rfl

theorem mem_endPart {s : State} {request row : PartRequest}
    (hrow : row ∈ (s.endPart request.nonce).parts) :
    row.nonce ≠ request.nonce ∧ row ∈ s.parts :=
  (Table.mem_delete.1 hrow).symm

/-- The commit that an event is about to make for its worker. -/
def State.preparedCommit (s : State) : Event → Option S3ObjectVersionCommit
  | .commitPut worker | .commitMultipart worker _ =>
      (s.puts.find? worker).bind fun row => match row.phase with
        | .prepared commit => some commit
        | _ => none
  | _ => none

/-- A fresh installation: applications with their quotas, and nothing else. -/
structure IsFresh (s : State) : Prop where
  tables : s.db = { Database.empty with applications := s.db.applications }
  unused : ∀ application ∈ s.db.applications, ∃ quotaBytes ≤ maxI64,
    application = Application.new application.id quotaBytes
  issued : s.issued = []
  puts : s.puts = ∅
  parts : s.parts = ∅
  payloads : s.payloads = []
  reservations : s.reservations = ∅

/-- A fresh installation with one application. -/
def State.installation (applicationId : ApplicationId) (quotaBytes : Nat) : State where
  db := { Database.empty with
    applications := (∅ : Table Application).insert (Application.new applicationId quotaBytes) }
  issued := []
  puts := ∅
  parts := ∅
  payloads := []
  reservations := ∅

theorem isFresh_installation (applicationId : ApplicationId) {quotaBytes : Nat}
    (h : quotaBytes ≤ maxI64) : IsFresh (State.installation applicationId quotaBytes) where
  tables := rfl
  unused application happlication := by
    rcases Table.mem_or_eq_of_mem_insert happlication with rfl | hold
    · exact ⟨quotaBytes, h, rfl⟩
    · exact absurd hold (Table.not_mem_empty _)
  issued := rfl
  puts := rfl
  parts := rfl
  payloads := rfl
  reservations := rfl

/-- One client that puts one object: its ids, its clock and what it sends. -/
structure PutScript where
  applicationId : ApplicationId
  bucketName : String
  objectKey : String
  sizeBytes : Nat
  intentId : UploadIntentId
  versionId : ObjectVersionId
  worker : Uuid
  objectId : ObjectId
  leaseToken : String
  now : Time

namespace PutScript

variable (script : PutScript)

def entityTag : EntityTag := .md5 []

def checksum : Checksum := ⟨[]⟩

/-- The upload is begun and its payload is staged. -/
def stage : List Event := [
  .call (.beginPut {
    applicationId := script.applicationId
    bucketName := script.bucketName
    objectKey := script.objectKey
    expectedSizeBytes := script.sizeBytes
    contentType := none
    userMetadata := []
    objectTags := S3ObjectTagSet.empty
    expiresAt := none } .localStore script.intentId script.versionId script.now),
  .call (.completeStaging script.intentId entityTag checksum script.sizeBytes script.now)]

def claim : Event :=
  .claim script.worker {
    intentId := script.intentId
    leaseToken := script.leaseToken
    leaseUntil := script.now + Time.seconds 60
    now := script.now
    entityTag := entityTag
    checksum := checksum
    sizeBytes := script.sizeBytes
    createdBy := "client"
    lock := ⟨none, none⟩ }

/-- A worker claims the upload and prepares its commit. -/
def prepare : List Event := [
  script.claim,
  .readBucket script.worker,
  .readObject script.worker,
  .prepare script.worker ⟨script.objectId, script.now, script.now, 0⟩]

/-- A PUT from its first call to its commit. -/
def run : List Event := script.stage ++ script.prepare ++ [.commitPut script.worker]

end PutScript

def plainBucket : S3Bucket where
  id := 2
  applicationId := 1
  name := "bucket"
  configuration := ⟨.unversioned, false, none, none, 1, 0, by simp, by simp, by decide⟩
  createdAt := 0

def firstPut : PutScript := ⟨1, "bucket", "key", 5, 10, 11, 12, 13, "first", 1000⟩

def secondPut : PutScript := ⟨1, "bucket", "key", 5, 20, 21, 22, 23, "second", 2000⟩

def enableVersioning (updatedAt : Time) : Event :=
  .call (.setVersioning 1 "bucket" .enabled updatedAt)

/-- Two PUTs of one key, one after the other. -/
def twoPuts : List Event :=
  [.call (.createBucket plainBucket)] ++ firstPut.run ++ secondPut.run

/-- A digest for runs that take none. -/
@[reducible] def noMd5 : Md5 := ⟨fun _ => []⟩

def system [Md5] : Transition.System State Event where
  init := IsFresh
  step s e := s.step e

theorem reachable_run [Md5] (events : List Event) :
    system.Reachable (system.run (State.installation 1 1000) events) :=
  .run (.of_init (isFresh_installation 1 (by decide))) events

/-- The installation after these events, in a run that takes no digests. -/
def scripted (events : List Event) : State :=
  (@system noMd5).run (State.installation 1 1000) events

theorem reachable_scripted (events : List Event) : (@system noMd5).Reachable (scripted events) :=
  @reachable_run noMd5 events

end MediaHub.Server

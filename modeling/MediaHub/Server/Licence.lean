import MediaHub.Server.System
import MediaHub.Store.Parts

/-!
What one event may do to the database.
-/

namespace MediaHub.Server

open Relational
open MediaHub.Core
open MediaHub.Store
open MediaHub.Service

/-- The commit of a worker replaces at most the active null version, and it ends the lease that
the worker's token holds. -/
def commitLicence (db : Database) (leaseToken : String) (commit : S3ObjectVersionCommit) :
    Licence :=
  { Licence.none with
    retires := ReplacedBy db commit.version
    commits := fun intent => intent ∈ db.uploadIntents ∧
      UploadIntent.holdsLease leaseToken (postgresTime commit.committedAt) intent }

theorem commitLicence_retires (db : Database) (leaseToken : String)
    (commit : S3ObjectVersionCommit) (versionId : ObjectVersionId)
    (h : ReplacedBy db commit.version versionId) :
    (commitLicence db leaseToken commit).retires versionId := h

theorem commitLicence_commits {db : Database} {leaseToken : String}
    {commit : S3ObjectVersionCommit} {intent : UploadIntent} (hintent : intent ∈ db.uploadIntents)
    (hlease : UploadIntent.holdsLease leaseToken (postgresTime commit.committedAt) intent) :
    (commitLicence db leaseToken commit).commits intent := ⟨hintent, hlease⟩

def workerLicence (db : Database) (worker : PutWorker) : Licence :=
  match worker.phase with
  | .prepared commit => commitLicence db worker.request.leaseToken commit
  | _ => Licence.none

theorem workerLicence_mints {db : Database} {worker : PutWorker} {id : Uuid} :
    ¬ (workerLicence db worker).mints id := by
  unfold workerLicence
  split <;> exact False.elim

theorem workerLicence_stores {db : Database} {worker : PutWorker} {key : StorageKey} :
    ¬ (workerLicence db worker).stores key := by
  unfold workerLicence
  split <;> exact False.elim

theorem workerLicence_drops {db : Database} {worker : PutWorker} {key : StorageKey} :
    ¬ (workerLicence db worker).drops key := by
  unfold workerLicence
  split <;> exact False.elim

def storesPart (request : PartRequest) : Licence :=
  { Licence.none with stores := fun key => key = request.storageKey }

def dropsPart (request : PartRequest) : Licence :=
  { Licence.none with drops := fun key => key = request.storageKey }

def State.licence (s : State) : Event → Licence
  | .call command => command.licence s.db
  | .commitPut worker | .commitMultipart worker _ =>
      (s.puts.find? worker).elim Licence.none (workerLicence s.db)
  | .putPart nonce _ _ => (s.parts.find? nonce).elim Licence.none storesPart
  | .queuePart nonce _ => (s.parts.find? nonce).elim Licence.none dropsPart
  | _ => Licence.none

/-- A step of an upload that holds a reservation but has no media row yet. -/
inductive BareStep (s : State) : Event → State → Prop
  | reserved {reservation : Uuid} {applicationId : ApplicationId} {bytes : Nat}
      (hfresh : s.reservations.find? reservation = none) (hbytes : bytes ≤ maxI64)
      (hcharge : CanCharge s.db applicationId
        (fun a => bytes ≤ a.quotaBytes - a.usedBytes - a.reservedBytes)
        (Application.reserve bytes)) :
      BareStep s (.reserve reservation applicationId bytes) { s with
        db := s.db.mapApplications (·.update applicationId (Application.reserve bytes))
        reservations := s.reservations.insert ⟨reservation, applicationId, bytes, false⟩ }
  | released {id : Uuid} {reservation : BareReservation}
      (hfind : s.reservations.find? id = some reservation)
      (hcharge : CanCharge s.db reservation.applicationId
        (fun a => reservation.bytes ≤ a.reservedBytes) (Application.release reservation.bytes)) :
      BareStep s (.releaseReservation id) { s with
        db := s.db.mapApplications
          (·.update reservation.applicationId (Application.release reservation.bytes))
        reservations := s.reservations.delete reservation.id }
  | mediaCreated {id : Uuid} {reservation : BareReservation} {media row : Media}
      {temporaryKey leaseToken : String} {leasedUntil : Time}
      (hfind : s.reservations.find? id = some reservation) (hbare : reservation.created = false)
      (happlication : row.applicationId = reservation.applicationId)
      (hsize : row.size = reservation.bytes) (hstate : row.state = .uploading)
      (hfresh : s.db.media.find? row.id = none) :
      BareStep s (.createUploading id media temporaryKey leaseToken leasedUntil false) { s with
        db := s.db.mapMedia (·.insert row)
        reservations := s.reservations.delete reservation.id }
  | mediaMisreported {id : Uuid} {reservation : BareReservation} {media row : Media}
      {temporaryKey leaseToken : String} {leasedUntil : Time}
      (hfind : s.reservations.find? id = some reservation) (hbare : reservation.created = false)
      (happlication : row.applicationId = reservation.applicationId)
      (hsize : row.size = reservation.bytes) (hstate : row.state = .uploading)
      (hfresh : s.db.media.find? row.id = none) :
      BareStep s (.createUploading id media temporaryKey leaseToken leasedUntil true) { s with
        db := s.db.mapMedia (·.insert row)
        reservations := s.reservations.update reservation.id BareReservation.misreport }

/-- A bare step touches the ledger, media and reservations only. -/
theorem BareStep.frame {s s' : State} {e : Event} (h : BareStep s e s') :
    ∃ applications media reservations,
      s' = { s with db := { s.db with applications, media }, reservations } := by
  cases h <;> exact ⟨_, _, _, rfl⟩

theorem reserveQuota_step (s : State) (reservation : Uuid) (applicationId : ApplicationId)
    (bytes : Nat) :
    s.reserve ⟨reservation, applicationId, bytes, false⟩ = s ∨
      BareStep s (.reserve reservation applicationId bytes)
        (s.reserve ⟨reservation, applicationId, bytes, false⟩) := by
  unfold State.reserve
  split
  · exact Or.inl rfl
  rename_i hfresh
  split
  · rename_i db hrun
    obtain ⟨hbytes, hcharge, rfl⟩ := reserveBytes_ok.1 hrun
    exact Or.inr (.reserved (by simpa using hfresh) hbytes hcharge)
  · exact Or.inl rfl

theorem releaseQuota_ok {applicationId : ApplicationId} {bytes : Nat} {db db' : Database}
    {u : Unit} : (releaseQuota applicationId bytes).run db = .ok (u, db') ↔
      bytes ≤ maxI64 ∧ CanCharge db applicationId (fun a => bytes ≤ a.reservedBytes)
        (Application.release bytes) ∧
      db' = db.mapApplications (·.update applicationId (Application.release bytes)) := by
  simp [releaseQuota, Transaction.run_bind_ok, Transaction.run_query_ok, releaseBytes_ok]

theorem releaseReservation_step {s : State} {id : Uuid} {reservation : BareReservation}
    (hfind : s.reservations.find? id = some reservation) :
    s.releaseReservation reservation = s ∨
      BareStep s (.releaseReservation id) (s.releaseReservation reservation) := by
  unfold State.releaseReservation
  split
  · rename_i db hrun
    obtain ⟨-, hcharge, rfl⟩ := releaseQuota_ok.1 hrun
    exact Or.inr (.released hfind hcharge)
  · exact Or.inl rfl

theorem createUploading_step {s : State} {id : Uuid} {reservation : BareReservation}
    (hfind : s.reservations.find? id = some reservation) (media : Media)
    (temporaryKey leaseToken : String) (leasedUntil : Time) (replyLost : Bool) :
    s.createUploading reservation media temporaryKey leaseToken leasedUntil replyLost = s ∨
      BareStep s (.createUploading id media temporaryKey leaseToken leasedUntil replyLost)
        (s.createUploading reservation media temporaryKey leaseToken leasedUntil replyLost) := by
  unfold State.createUploading
  split
  · rename_i hsame
    split
    · rename_i db hrun
      simp only [Store.createUploading, insertMedia, asI64, Transaction.run_bind_ok,
        Transaction.run_require_ok, Transaction.run_query_ok,
        Transaction.run_insertRow_ok] at hrun
      obtain ⟨_, _, ⟨hstate, rfl⟩, _, _, ⟨-, rfl⟩, _, _, ⟨-, rfl⟩, _, _, ⟨-, rfl⟩, _, _,
        ⟨-, rfl⟩, _, _, ⟨-, rfl⟩, -, hfresh, -, rfl⟩ := hrun
      obtain ⟨hbare, happlication, hsize⟩ := hsame
      cases replyLost with
      | false => exact Or.inr (.mediaCreated hfind hbare happlication hsize hstate hfresh)
      | true => exact Or.inr (.mediaMisreported hfind hbare happlication hsize hstate hfresh)
    · exact Or.inl rfl
  · exact Or.inl rfl

section

variable [Md5]

theorem claim_effects {claim : PutClaim} {intent : UploadIntent} {db db' : Database}
    {licence : Licence}
    (h : (claimUploadIntent claim.intentId claim.leaseToken claim.leaseUntil claim.now).run db =
      .ok (intent, db')) :
    Effects licence db db' := .single (claimUploadIntent_effect h)

/-- The commit that a worker has prepared is sound for the buckets as they are. -/
structure CommitSound (buckets : Table S3Bucket) (commit : S3ObjectVersionCommit) : Prop where
  prepared : PreparedCommit commit
  versioned : commit.version.isNullVersion ∨ IsVersioned buckets commit.version.bucketId

theorem commitPut_effects {db : Database} {intentId : UploadIntentId} {leaseToken : String}
    {commit : S3ObjectVersionCommit} (hcommit : CommitSound db.buckets commit) :
    Effects (commitLicence db leaseToken commit) db
      ((commitUploadIntent intentId leaseToken commit).commit db) := by
  refine commit_effects fun object db' h => ?_
  obtain ⟨_, _, _, _, _, _, hcommits, rfl⟩ := commitUploadIntent_ok hcommit.prepared
    hcommit.versioned (commitLicence_retires db leaseToken commit)
    (fun _ hintent _ => commitLicence_commits hintent) h
  exact hcommits.effects

theorem commitMultipart_effects {db : Database} {uploadId : MultipartUploadId}
    {leaseToken : String} {commit : S3ObjectVersionCommit} {entityTag : EntityTag}
    {checksum : Checksum} (hcommit : CommitSound db.buckets commit) :
    Effects (commitLicence db leaseToken commit) db
      ((commitMultipartObjectVersion uploadId leaseToken commit entityTag checksum).commit
        db) := by
  refine commit_effects fun object db' h => ?_
  rcases commitMultipartObjectVersion_ok hcommit.prepared hcommit.versioned
    (commitLicence_retires db leaseToken commit)
    (fun _ hintent => commitLicence_commits hintent) h with
    rfl | ⟨_, _, _, _, _, hcommits, hrest, -⟩
  · exact .refl _
  · exact hcommits.effects.trans hrest

/-- Queuing a part that its request gave up. -/
theorem queuePart_effects {db : Database} {request : PartRequest} {upload : S3MultipartUpload}
    {now : Time} (hid : upload.uploadId = request.uploadId)
    (hknown : UploadKnown db.multipartUploads (uploadFacts upload)) :
    Effects (dropsPart request) db
      ((enqueueStorageGcTask (multipartGcTask upload none request.storageKey now)).commit db) := by
  refine commit_effects fun u db' h => ?_
  obtain ⟨row, hrow, hfacts⟩ := hknown
  have hrowId : row.uploadId = request.uploadId :=
    (congrArg UploadFacts.uploadId hfacts).trans hid
  have htask : multipartGcTask upload none request.storageKey now =
      multipartGcTask row none request.storageKey now := by
    have hbackend := congrArg UploadFacts.storageBackend hfacts
    have howner := multipartOwner_of_facts hfacts none
    simp only [uploadFacts] at hbackend
    rw [multipartGcTask, multipartGcTask, hbackend,
      show GcProvenance.mk _ _ _ _ _ _ = multipartOwner row none from rfl, howner]
    rfl
  rw [htask] at h
  obtain ⟨⟨-, -, hadmits⟩, rfl⟩ := insertStorageGcTask_ok.1 (enqueueStorageGcTask_ok.1 h)
  have hkeys : ∀ key ∈ [request.storageKey], Droppable (dropsPart request) db row none key := by
    intro key hkey
    rw [List.mem_singleton.1 hkey, PartRequest.storageKey, ← hrowId]
    refine .givenUp ?_
    rw [hrowId]
    rfl
  have hadmitted : AllAdmitted db.storageGcTasks
      ([request.storageKey].map (multipartGcTask row none · now)) := ⟨hadmits, trivial⟩
  exact .single (.keysQueued hrow hkeys hadmitted)

end

end MediaHub.Server

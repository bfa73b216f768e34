import Mathlib.Data.List.Sort
import Mathlib.Tactic.Simps.Basic
import MediaHub.Core.Media
import MediaHub.Core.Storage
import MediaHub.Relational.Transaction

namespace MediaHub.Store

open Relational
open MediaHub.Core

inductive RepositoryError where
  | notFound
  | conflict
  | quotaExceeded
  | invariant (message : String)
  | unavailable (message : String)
deriving DecidableEq

/-- The error of a violated `CHECK` constraint. -/
def checkViolation (relation constraint : String) : RepositoryError :=
  .invariant ("new row for relation \"" ++ relation ++ "\" violates check constraint \"" ++
    constraint ++ "\"")

/-- The byte columns are `BIGINT`, so they are integers here and not naturals. -/
structure Application where
  id : ApplicationId
  quotaBytes : Int
  usedBytes : Int
  reservedBytes : Int
deriving DecidableEq

instance : Keyed Application ApplicationId := ⟨Application.id⟩

/-- The tables that the object store, the multipart uploads and the quota ledger share. -/
structure Database where
  applications : Table Application
  buckets : Table S3Bucket
  objects : Table S3Object
  objectVersions : Table ObjectVersion
  uploadIntents : Table UploadIntent
  multipartUploads : Table S3MultipartUpload
  multipartParts : Table S3MultipartPart
  storageGcTasks : Table StorageGcTask
  media : Table Media
  uploadSessions : Table UploadSession

def Database.empty : Database := ⟨∅, ∅, ∅, ∅, ∅, ∅, ∅, ∅, ∅, ∅⟩

namespace Database

variable (db : Database)

@[simp] def mapApplications (f : Table Application → Table Application) : Database :=
  { db with applications := f db.applications }

@[simp] def mapBuckets (f : Table S3Bucket → Table S3Bucket) : Database :=
  { db with buckets := f db.buckets }

@[simp] def mapObjects (f : Table S3Object → Table S3Object) : Database :=
  { db with objects := f db.objects }

@[simp] def mapObjectVersions (f : Table ObjectVersion → Table ObjectVersion) : Database :=
  { db with objectVersions := f db.objectVersions }

@[simp] def mapUploadIntents (f : Table UploadIntent → Table UploadIntent) : Database :=
  { db with uploadIntents := f db.uploadIntents }

@[simp] def mapMultipartUploads
    (f : Table S3MultipartUpload → Table S3MultipartUpload) : Database :=
  { db with multipartUploads := f db.multipartUploads }

@[simp] def mapMultipartParts (f : Table S3MultipartPart → Table S3MultipartPart) : Database :=
  { db with multipartParts := f db.multipartParts }

@[simp] def mapStorageGcTasks (f : Table StorageGcTask → Table StorageGcTask) : Database :=
  { db with storageGcTasks := f db.storageGcTasks }

@[simp] def mapMedia (f : Table Media → Table Media) : Database :=
  { db with media := f db.media }

@[simp] def mapUploadSessions (f : Table UploadSession → Table UploadSession) : Database :=
  { db with uploadSessions := f db.uploadSessions }

@[simps] def applicationRows : TableIn Database Application :=
  ⟨applications, fun f db => db.mapApplications f, fun _ _ => rfl⟩

@[simps] def bucketRows : TableIn Database S3Bucket :=
  ⟨buckets, fun f db => db.mapBuckets f, fun _ _ => rfl⟩

@[simps] def objectRows : TableIn Database S3Object :=
  ⟨objects, fun f db => db.mapObjects f, fun _ _ => rfl⟩

@[simps] def versionRows : TableIn Database ObjectVersion :=
  ⟨objectVersions, fun f db => db.mapObjectVersions f, fun _ _ => rfl⟩

@[simps] def intentRows : TableIn Database UploadIntent :=
  ⟨uploadIntents, fun f db => db.mapUploadIntents f, fun _ _ => rfl⟩

@[simps] def uploadRows : TableIn Database S3MultipartUpload :=
  ⟨multipartUploads, fun f db => db.mapMultipartUploads f, fun _ _ => rfl⟩

@[simps] def partRows : TableIn Database S3MultipartPart :=
  ⟨multipartParts, fun f db => db.mapMultipartParts f, fun _ _ => rfl⟩

@[simps] def mediaRows : TableIn Database Media :=
  ⟨media, fun f db => db.mapMedia f, fun _ _ => rfl⟩

@[simps] def sessionRows : TableIn Database UploadSession :=
  ⟨uploadSessions, fun f db => db.mapUploadSessions f, fun _ _ => rfl⟩

end Database

export Database (applicationRows bucketRows objectRows versionRows intentRows uploadRows
  partRows mediaRows sessionRows)

abbrev Transaction := Relational.Transaction Database RepositoryError

export Relational.Transaction (fail query write require orThrow ofExcept forEach selectRow
  insertRow updateRow)

/-- Domain errors surface as repository invariants. -/
def domain {α : Type} (value : Except S3ModelError α) : Transaction α :=
  ofExcept (value.mapError fun error => RepositoryError.invariant error.message)

@[simp] theorem run_domain_ok {α : Type} {value : Except S3ModelError α} {a : α}
    {db db' : Database} :
    (domain value).run db = .ok (a, db') ↔ value = .ok a ∧ db = db' := by
  cases value <;> simp [domain, Except.mapError]

/-- `as_i64`: the value fits a `BIGINT` column. -/
def asI64 (value : Nat) : Transaction Unit :=
  require (value ≤ maxI64) (.invariant "numeric value exceeds PostgreSQL BIGINT")

def validateToken (token : String) : Transaction Unit :=
  require (validToken token = true) (.invariant "lease or upload token is invalid")

def validateLease (leaseToken : String) (leaseUntil now : Time) : Transaction Unit := do
  validateToken leaseToken
  require (now < leaseUntil) (.invariant "lease_until must be later than now")

namespace Database

def findBucket (db : Database) (applicationId : ApplicationId) (bucketId : BucketId) :
    Option S3Bucket :=
  (db.buckets.find? bucketId).filter (·.applicationId = applicationId)

def findBucketByName (db : Database) (applicationId : ApplicationId) (name : String) :
    Option S3Bucket :=
  db.buckets.rows.find? fun bucket =>
    bucket.applicationId = applicationId ∧ bucket.name = name

def findObject (db : Database) (applicationId : ApplicationId) (bucketId : BucketId)
    (key : String) : Option S3Object :=
  db.objects.rows.find? fun object =>
    object.applicationId = applicationId ∧ object.bucketId = bucketId ∧ object.key = key

/-- `... superseded_at IS NULL AND state = 'committed' ORDER BY generation DESC`. -/
def listActiveVersions (db : Database) (objectId : ObjectId) : List ObjectVersion :=
  (db.objectVersions.rows.filter fun version =>
    version.objectId = objectId ∧ version.isActive).insertionSort
      fun a b => b.generation ≤ a.generation

def findActiveNullVersion (db : Database) (objectId : ObjectId) : Option ObjectVersion :=
  db.objectVersions.rows.find? fun version =>
    version.objectId = objectId ∧ version.isActive ∧ version.isNullVersion

theorem findBucket_eq_some_iff {db : Database} {applicationId : ApplicationId}
    {bucketId : BucketId} {bucket : S3Bucket} :
    db.findBucket applicationId bucketId = some bucket ↔
      bucket ∈ db.buckets ∧ bucket.id = bucketId ∧ bucket.applicationId = applicationId := by
  simp only [findBucket, Option.filter_eq_some_iff, Table.find?_eq_some_iff,
    decide_eq_true_eq, and_assoc]
  exact Iff.rfl

theorem of_findObject {db : Database} {applicationId : ApplicationId} {bucketId : BucketId}
    {key : String} {object : S3Object}
    (h : db.findObject applicationId bucketId key = some object) :
    object ∈ db.objects ∧ object.applicationId = applicationId ∧
      object.bucketId = bucketId ∧ object.key = key :=
  ⟨List.mem_of_find?_eq_some h, by simpa using List.find?_some h⟩

theorem mem_listActiveVersions {db : Database} {objectId : ObjectId}
    {version : ObjectVersion} :
    version ∈ db.listActiveVersions objectId ↔
      version ∈ db.objectVersions ∧ version.objectId = objectId ∧ version.isActive := by
  simp [listActiveVersions, List.mem_insertionSort, List.mem_filter, Table.mem_def]

theorem of_findActiveNullVersion {db : Database} {objectId : ObjectId}
    {version : ObjectVersion} (h : db.findActiveNullVersion objectId = some version) :
    version ∈ db.objectVersions ∧ version.objectId = objectId ∧ version.isActive ∧
      version.isNullVersion :=
  ⟨List.mem_of_find?_eq_some h, by simpa using List.find?_some h⟩

end Database

end MediaHub.Store

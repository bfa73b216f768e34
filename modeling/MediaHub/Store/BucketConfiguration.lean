import MediaHub.Store.Database

namespace MediaHub.Store

open Relational
open MediaHub.Core

namespace S3Bucket

/-- The configuration columns, with their time truncated. -/
def configure (configuration : BucketS3Configuration) : Update S3Bucket where
  apply bucket :=
    { bucket with
      configuration := { configuration with updatedAt := postgresTime configuration.updatedAt } }
  key_apply _ := rfl

def persisted (bucket : S3Bucket) : S3Bucket :=
  { bucket with
    configuration :=
      { bucket.configuration with updatedAt := postgresTime bucket.configuration.updatedAt }
    createdAt := postgresTime bucket.createdAt }

end S3Bucket

/-- Bucket names are unique over all applications. -/
def createS3Bucket (bucket : S3Bucket) : Transaction Unit := do
  asI64 bucket.configuration.revision
  insertRow bucketRows (S3Bucket.persisted bucket) true
    (fun other => other.name = bucket.name)
    (checkViolation "buckets" "buckets_s3_object_lock_versioning_check") .conflict

/-- Every configuration update reads the row, changes it in memory and writes a change back. -/
def updateS3BucketConfiguration (applicationId : ApplicationId) (name : String)
    (change : BucketS3Configuration → Except S3ModelError (Bool × BucketS3Configuration)) :
    Transaction BucketS3Configuration := do
  let row ← query fun db => db.findBucketByName applicationId name
  let bucket ← orThrow row .notFound
  let (changed, configuration) ← domain (change bucket.configuration)
  if changed then
    asI64 configuration.revision
    write fun db => db.mapBuckets (·.update bucket.id (S3Bucket.configure configuration))
    pure configuration
  else pure configuration

def setS3BucketVersioning (applicationId : ApplicationId) (name : String)
    (status : VersioningStatus) (updatedAt : Time) : Transaction BucketS3Configuration :=
  updateS3BucketConfiguration applicationId name (·.transitionVersioning status updatedAt)

def replaceS3BucketObjectLock (applicationId : ApplicationId) (name : String)
    (defaultRetention : Option DefaultRetention) (updatedAt : Time) :
    Transaction BucketS3Configuration :=
  updateS3BucketConfiguration applicationId name
    (·.replaceObjectLockConfiguration defaultRetention updatedAt)

def replaceS3BucketLifecycle (applicationId : ApplicationId) (name : String)
    (lifecycleConfiguration : Option S3LifecycleConfiguration) (updatedAt : Time) :
    Transaction BucketS3Configuration :=
  updateS3BucketConfiguration applicationId name
    (·.replaceLifecycleConfiguration lifecycleConfiguration updatedAt)

/-- Versioning never returns to `Unversioned` and Object Lock is never disabled. -/
structure BucketS3Configuration.Evolves (old new : BucketS3Configuration) : Prop where
  versioned : old.versioningStatus ≠ .unversioned → new.versioningStatus ≠ .unversioned
  locked : old.objectLockEnabled → new.objectLockEnabled

theorem transitionVersioning_evolves {old new : BucketS3Configuration}
    {status : VersioningStatus} {now : Time} {changed : Bool}
    (h : old.transitionVersioning status now = .ok (changed, new)) :
    BucketS3Configuration.Evolves old new := by
  obtain ⟨hstatus, hallowed, hlock⟩ := BucketS3Configuration.transitionVersioning_status h
  refine ⟨fun hold hnew => ?_, fun hold => hlock.trans hold⟩
  have hnext : status = .unversioned := hstatus.symm.trans hnew
  rw [hnext] at hallowed
  cases hcase : old.versioningStatus with
  | unversioned => exact hold hcase
  | enabled => simp [hcase, VersioningStatus.canTransitionTo] at hallowed
  | suspended => simp [hcase, VersioningStatus.canTransitionTo] at hallowed

theorem replaceObjectLockConfiguration_evolves {old new : BucketS3Configuration}
    {retention : Option DefaultRetention} {now : Time} {changed : Bool}
    (h : old.replaceObjectLockConfiguration retention now = .ok (changed, new)) :
    BucketS3Configuration.Evolves old new := by
  obtain ⟨hstatus, hlock⟩ := BucketS3Configuration.replaceObjectLockConfiguration_status h
  exact ⟨fun _ => by simp [hstatus], fun _ => hlock⟩

theorem replaceLifecycleConfiguration_evolves {old new : BucketS3Configuration}
    {lifecycle : Option S3LifecycleConfiguration} {now : Time} {changed : Bool}
    (h : old.replaceLifecycleConfiguration lifecycle now = .ok (changed, new)) :
    BucketS3Configuration.Evolves old new := by
  obtain ⟨hstatus, hlock⟩ := BucketS3Configuration.replaceLifecycleConfiguration_status h
  exact ⟨fun hold => hstatus ▸ hold, fun hold => hlock.trans hold⟩

/-- Buckets are added and reconfigured, and never lost or renamed. -/
def BucketsEvolve (old new : Table S3Bucket) : Prop :=
  ∀ bucket ∈ old, ∃ bucket' ∈ new, bucket'.id = bucket.id ∧
    bucket'.applicationId = bucket.applicationId ∧ bucket'.name = bucket.name ∧
    BucketS3Configuration.Evolves bucket.configuration bucket'.configuration

theorem BucketsEvolve.refl (buckets : Table S3Bucket) : BucketsEvolve buckets buckets :=
  fun bucket h => ⟨bucket, h, rfl, rfl, rfl, id, id⟩

theorem createS3Bucket_ok {bucket : S3Bucket} {db db' : Database} {u : Unit}
    (h : (createS3Bucket bucket).run db = .ok (u, db')) :
    ∃ buckets, db' = { db with buckets := buckets } ∧ BucketsEvolve db.buckets buckets := by
  simp only [createS3Bucket, asI64, Transaction.run_bind_ok, Transaction.run_require_ok,
    Transaction.run_insertRow_ok] at h
  obtain ⟨_, _, ⟨-, rfl⟩, -, -, -, rfl⟩ := h
  exact ⟨_, rfl, fun old hold =>
    ⟨old, Table.mem_insert_of_mem hold, rfl, rfl, rfl, id, id⟩⟩

theorem updateS3BucketConfiguration_ok {applicationId : ApplicationId} {name : String}
    {change : BucketS3Configuration → Except S3ModelError (Bool × BucketS3Configuration)}
    {db db' : Database} {configuration : BucketS3Configuration}
    (h : (updateS3BucketConfiguration applicationId name change).run db =
      .ok (configuration, db')) :
    ∃ bucket ∈ db.buckets, bucket.applicationId = applicationId ∧ bucket.name = name ∧
      ∃ changed, change bucket.configuration = .ok (changed, configuration) ∧
        ((changed = false ∧ db' = db) ∨ (changed = true ∧
          db' = db.mapBuckets (·.update bucket.id (S3Bucket.configure configuration)))) := by
  simp only [updateS3BucketConfiguration, Transaction.run_bind_ok, Transaction.run_query_ok,
    Transaction.run_orThrow_ok, run_domain_ok] at h
  obtain ⟨_, _, ⟨rfl, rfl⟩, bucket, _, ⟨hbucket, rfl⟩, ⟨changed, new⟩, _, ⟨hchange, rfl⟩, h⟩ := h
  have hfound : bucket.applicationId = applicationId ∧ bucket.name = name := by
    simpa [Database.findBucketByName] using List.find?_some hbucket
  refine ⟨bucket, List.mem_of_find?_eq_some hbucket, hfound.1, hfound.2, changed, ?_⟩
  cases changed with
  | false =>
      simp only [Bool.false_eq_true, if_false, Transaction.run_pure_ok] at h
      exact ⟨h.1 ▸ hchange, Or.inl ⟨rfl, h.2.symm⟩⟩
  | true =>
      simp only [if_true, asI64, Transaction.run_bind_ok, Transaction.run_require_ok,
        Transaction.run_write_ok, Transaction.run_pure_ok] at h
      obtain ⟨_, _, ⟨-, rfl⟩, _, _, rfl, rfl, rfl⟩ := h
      exact ⟨hchange, Or.inr ⟨rfl, rfl⟩⟩

/-- A configuration update that evolves the one configuration evolves the table. -/
theorem updateS3BucketConfiguration_evolves {applicationId : ApplicationId} {name : String}
    {change : BucketS3Configuration → Except S3ModelError (Bool × BucketS3Configuration)}
    (hchange : ∀ old new changed, change old = .ok (changed, new) →
      BucketS3Configuration.Evolves old new)
    {db db' : Database} {configuration : BucketS3Configuration}
    (h : (updateS3BucketConfiguration applicationId name change).run db =
      .ok (configuration, db')) :
    ∃ buckets, db' = { db with buckets := buckets } ∧ BucketsEvolve db.buckets buckets := by
  obtain ⟨bucket, hbucket, -, -, changed, hrun, ⟨-, rfl⟩ | ⟨-, rfl⟩⟩ :=
    updateS3BucketConfiguration_ok h
  · exact ⟨_, rfl, BucketsEvolve.refl _⟩
  · have hevolves := hchange _ _ _ hrun
    refine ⟨_, rfl, fun old hold => ?_⟩
    by_cases hid : old.id = bucket.id
    · have heq : old = bucket := Table.eq_of_key hold hbucket hid
      subst heq
      exact ⟨_, Table.mem_update.2 (Or.inr ⟨old, hold, rfl, rfl⟩), rfl, rfl, rfl,
        hevolves.versioned, hevolves.locked⟩
    · exact ⟨old, Table.mem_update.2 (Or.inl ⟨hold, hid⟩), rfl, rfl, rfl, id, id⟩

end MediaHub.Store

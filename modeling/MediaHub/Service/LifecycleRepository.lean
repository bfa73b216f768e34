import MediaHub.Service.LifecycleUnit

namespace MediaHub.Service

open Relational
open MediaHub.Core
open MediaHub.Store
open Rotation

/-- A transaction that fails leaves the database as it was. -/
def callOf {α : Type} (tx : Transaction α) : Call Database α := fun db =>
  match tx.run db with
  | .ok (answer, db') => (.ok answer, db')
  | .error error => (.error error, db)

def postgres : S3LifecycleRepository Database where
  listS3LifecycleBuckets after limit := fun db => (listS3LifecycleBuckets db after limit, db)
  listS3CurrentExpirationCandidates applicationId bucketId pre createdBefore _ limit := fun db =>
    (listS3CurrentExpirationCandidates db applicationId bucketId pre createdBefore limit, db)
  listS3NoncurrentExpirationCandidates applicationId bucketId pre cutoff now limit := fun db =>
    (listS3NoncurrentExpirationCandidates db applicationId bucketId pre cutoff now limit, db)
  listS3ExpirationDeleteMarkerCandidates applicationId bucketId rule now limit := fun db =>
    (listS3ExpirationDeleteMarkerCandidates db applicationId bucketId rule now limit, db)
  listS3MultipartLifecycleCandidates applicationId bucketId pre cutoff now limit := fun db =>
    (listS3MultipartLifecycleCandidates db applicationId bucketId pre cutoff now limit, db)
  executeS3Lifecycle command := callOf (Store.executeS3Lifecycle command)

/-- The buckets with a lifecycle configuration, in the order of their ids. -/
def lifecycleBuckets (db : Database) : List S3Bucket :=
  (db.buckets.rows.filter fun bucket =>
    bucket.configuration.lifecycleConfiguration.isSome).insertionSort (·.id ≤ ·.id)

instance : Std.Total fun a b : S3Bucket => a.id ≤ b.id := ⟨fun a b => Nat.le_total a.id b.id⟩

instance : IsTrans S3Bucket fun a b => a.id ≤ b.id := ⟨fun _ _ _ => Nat.le_trans⟩

theorem mem_lifecycleBuckets {db : Database} {bucket : S3Bucket} :
    bucket ∈ lifecycleBuckets db ↔
      bucket ∈ db.buckets ∧ bucket.configuration.lifecycleConfiguration.isSome := by
  rw [lifecycleBuckets, List.mem_insertionSort, List.mem_filter]
  rfl

theorem lifecycleBuckets_sorted (db : Database) :
    (lifecycleBuckets db).Pairwise (·.id < ·.id) := by
  have hle : (lifecycleBuckets db).Pairwise (·.id ≤ ·.id) := List.pairwise_insertionSort _ _
  have hnodup : ((lifecycleBuckets db).map S3Bucket.id).Nodup := by
    have hperm := (List.perm_insertionSort (fun a b : S3Bucket => a.id ≤ b.id)
      (db.buckets.rows.filter fun bucket =>
        bucket.configuration.lifecycleConfiguration.isSome)).map S3Bucket.id
    refine hperm.nodup_iff.2 (List.Nodup.sublist ?_ db.buckets.nodup)
    exact List.filter_sublist.map _
  exact (hle.and (List.pairwise_map.1 hnodup)).imp fun h => lt_of_le_of_ne h.1 h.2

/-- A page of the listing is the next part of the round. -/
theorem listS3LifecycleBuckets_page (db : Database) (after : Option BucketId) {limit : Nat}
    (hpos : 1 ≤ limit) (hlimit : limit ≤ maxS3LifecycleBatchSize) :
    listS3LifecycleBuckets db after limit =
      .ok ((pending S3Bucket.id (lifecycleBuckets db) after).take limit) := by
  have hvalid : validateLimit limit = .ok () := if_pos ⟨hpos, hlimit⟩
  have hrows : (db.buckets.rows.filter fun bucket =>
      bucket.configuration.lifecycleConfiguration.isSome && after.all (· < bucket.id)).insertionSort
        (fun a b => a.id ≤ b.id) = pending S3Bucket.id (lifecycleBuckets db) after := by
    refine List.Perm.eq_of_pairwise ?_
      (List.pairwise_insertionSort (fun a b : S3Bucket => a.id ≤ b.id) _)
      ((List.pairwise_insertionSort (fun a b : S3Bucket => a.id ≤ b.id) _).filter _) ?_
    · intro a b ha hb hab hba
      rw [List.mem_insertionSort, List.mem_filter] at ha
      exact Table.eq_of_key ha.1 (mem_lifecycleBuckets.1 (mem_pending.1 hb).1).1
        (Nat.le_antisymm hab hba)
    · refine (List.perm_insertionSort (fun a b : S3Bucket => a.id ≤ b.id) _).trans ?_
      refine List.Perm.trans (List.Perm.of_eq ?_)
        ((List.perm_insertionSort (fun a b : S3Bucket => a.id ≤ b.id) _).filter _).symm
      rw [List.filter_filter]
      apply List.filter_congr
      intro bucket _
      exact Bool.and_comm _ _
  unfold listS3LifecycleBuckets selectPage
  rw [hvalid]
  change Except.ok _ = _
  rw [hrows]

theorem validateLimit_one : validateLimit 1 = .ok () := if_pos (by decide)

theorem markerCreatedBefore_decided {rule : S3LifecycleRule} (henabled : rule.status = .enabled)
    (now : Time) :
    if expirationInRange now rule.expiration then
      ∃ createdBefore, markerCreatedBefore rule now = .ok createdBefore
    else ∃ error, markerCreatedBefore rule now = .error error := by
  unfold markerCreatedBefore expirationInRange
  rw [if_neg (show ¬ rule.status ≠ .enabled by simp [henabled])]
  cases rule.expiration with
  | none => exact ⟨none, rfl⟩
  | some expiration =>
      cases expiration with
      | days days =>
          rcases lifecycleDaysCutoffOrThrow_cases now days with ⟨cutoff, hsome, hok⟩ |
            ⟨hnone, error, herror⟩
          · simp [hsome, hok, Except.map]
          · simp [hnone, herror, Except.map]
      | date date => exact ⟨_, rfl⟩
      | expiredObjectDeleteMarker => exact ⟨_, rfl⟩

/-- The database answers every scan but that for markers with a cutoff out of range. -/
theorem postgres_answersScans {Holds : Database → Prop} (bucket : S3Bucket) :
    AnswersScans postgres Holds bucket where
  current := by
    intro db pre createdBefore now hdb
    exact ⟨⟨_, rfl⟩, hdb⟩
  noncurrent := by
    intro db pre cutoff now hdb
    exact ⟨⟨_, rfl⟩, hdb⟩
  multipart := by
    intro db pre cutoff now hdb
    exact ⟨⟨_, rfl⟩, hdb⟩
  marker := by
    intro db rule now hdb henabled
    have hmarker := markerCreatedBefore_decided henabled now
    cases hrange : expirationInRange now rule.expiration with
    | true =>
        rw [hrange, if_pos rfl] at hmarker
        obtain ⟨createdBefore, hok⟩ := hmarker
        refine ⟨?_, hdb⟩
        simp only [postgres, listS3ExpirationDeleteMarkerCandidates, validateLimit_one, hok]
        cases createdBefore with
        | none => exact ⟨_, rfl⟩
        | some cutoff => exact ⟨_, rfl⟩
    | false =>
        rw [hrange, if_neg (by decide)] at hmarker
        obtain ⟨error, herror⟩ := hmarker
        refine ⟨⟨error, ?_⟩, hdb⟩
        simp only [postgres, listS3ExpirationDeleteMarkerCandidates, validateLimit_one, herror]
        rfl

theorem postgres_listsBuckets {Holds : Database → Prop} {items : List S3Bucket}
    (hitems : ∀ db, Holds db → lifecycleBuckets db = items)
    (hsome : ∃ db, Holds db) : ListsBuckets postgres Holds items where
  sorted := by
    obtain ⟨db, hdb⟩ := hsome
    exact hitems db hdb ▸ lifecycleBuckets_sorted db
  page := by
    intro db after limit hdb hpos hlimit
    refine ⟨?_, hdb⟩
    rw [← hitems db hdb]
    exact listS3LifecycleBuckets_page db after hpos hlimit

def bareDatabase (buckets : Table S3Bucket) : Database := { Database.empty with buckets }

/-- There is nothing that an execution could find. -/
theorem bare_executeS3Lifecycle (buckets : Table S3Bucket) {command : ExecuteS3LifecycleCommand}
    (hattempts : command.gcMaxAttempts ≠ 0) :
    ∃ outcome, (Store.executeS3Lifecycle command).run (bareDatabase buckets) =
      .ok (outcome, bareDatabase buckets) := by
  unfold Store.executeS3Lifecycle
  rw [Transaction.run_require_bind hattempts]
  cases command.target with
  | abortMultipart uploadId objectKey expectedInitiatedAt => exact ⟨.alreadyApplied, rfl⟩
  | expireCurrent objectId objectKey versionId createdAt =>
      dsimp only
      rw [Transaction.run_query_bind]
      cases lockLifecycleBucket (bareDatabase buckets) command with
      | none => exact ⟨.configurationChanged, rfl⟩
      | some bucket => exact ⟨.alreadyApplied, rfl⟩
  | expireNoncurrent objectId objectKey versionId becameNoncurrentAt =>
      dsimp only
      rw [Transaction.run_query_bind]
      cases lockLifecycleBucket (bareDatabase buckets) command with
      | none => exact ⟨.configurationChanged, rfl⟩
      | some bucket => exact ⟨.alreadyApplied, rfl⟩
  | removeExpiredDeleteMarker objectId objectKey markerId =>
      dsimp only
      rw [Transaction.run_query_bind]
      cases lockLifecycleBucket (bareDatabase buckets) command with
      | none => exact ⟨.configurationChanged, rfl⟩
      | some bucket => exact ⟨.alreadyApplied, rfl⟩

theorem bare_answersExecutions (buckets : Table S3Bucket) (bucket : S3Bucket) :
    AnswersExecutions postgres (· = bareDatabase buckets) bucket := by
  rintro db now rule target versionId rfl
  have hattempts : (executeCommand now bucket rule target versionId).gcMaxAttempts ≠ 0 :=
    show defaultS3LifecycleGcMaxAttempts ≠ 0 by decide
  obtain ⟨outcome, hrun⟩ := bare_executeS3Lifecycle buckets hattempts
  simp only [postgres, callOf, hrun]
  exact ⟨Or.inl ⟨outcome, rfl⟩, trivial⟩

theorem bare_listsBuckets (buckets : Table S3Bucket) :
    ListsBuckets postgres (· = bareDatabase buckets) (lifecycleBuckets (bareDatabase buckets)) :=
  postgres_listsBuckets (fun _ hdb => hdb ▸ rfl) ⟨_, rfl⟩

/-- A rule that ends uploads some days after they were begun. -/
def abortRule (days : Nat) : S3LifecycleRule where
  id := none
  status := .enabled
  filter := .empty
  expiration := none
  noncurrentDays := none
  daysAfterInitiation := some days

theorem enabled_of_unlocked (status : VersioningStatus) : false = true → status = .enabled :=
  nofun

theorem locked_of_noRetention (objectLockEnabled : Bool) :
    (none : Option DefaultRetention).isSome = true → objectLockEnabled = true :=
  nofun

/-- A bucket with these rules. -/
def bucketWithRules (id : BucketId) (name : String) (rules : List S3LifecycleRule)
    (h : validLifecycleRules rules) : S3Bucket where
  id := id
  applicationId := 1
  name := name
  configuration := {
    versioningStatus := .unversioned
    objectLockEnabled := false
    defaultRetention := none
    lifecycleConfiguration := some ⟨rules, h⟩
    revision := 1
    updatedAt := 0
    enabled_of_lock := enabled_of_unlocked .unversioned
    lock_of_retention := locked_of_noRetention false
    revision_pos := Nat.one_pos }
  createdAt := 0

theorem validLifecycleRules_far : validLifecycleRules [abortRule 5000000] := by decide

theorem validLifecycleRules_near : validLifecycleRules [abortRule 7] := by decide

/-- So many days that no date lies so far back. -/
def farBucket (id : BucketId) : S3Bucket :=
  bucketWithRules id "far" [abortRule 5000000] validLifecycleRules_far

def nearBucket (id : BucketId) : S3Bucket :=
  bucketWithRules id "near" [abortRule 7] validLifecycleRules_near

theorem nodup_farAndNear {far near : BucketId} (h : far ≠ near) :
    ([farBucket far, nearBucket near].map S3Bucket.id).Nodup := by
  rw [List.map_cons, List.map_cons, List.map_nil, List.nodup_cons, List.mem_singleton]
  exact ⟨h, List.nodup_singleton _⟩

def farAndNear (far near : BucketId) (h : far ≠ near) : Table S3Bucket where
  rows := [farBucket far, nearBucket near]
  nodup := nodup_farAndNear h

end MediaHub.Service

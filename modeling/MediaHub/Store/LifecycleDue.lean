import Mathlib.Data.Char
import MediaHub.Order.Utf8
import MediaHub.Store.Lifecycle

namespace MediaHub.Store

open Relational
open MediaHub.Core

def maxS3LifecycleBatchSize : Nat := 1000

def validateLimit (limit : Nat) : Except RepositoryError Unit :=
  if 1 ≤ limit ∧ limit ≤ maxS3LifecycleBatchSize then .ok ()
  else .error (.invariant "S3 lifecycle repository limit must be between 1 and 1000")

/-- `lifecycle_days_cutoff` with its errors. -/
def lifecycleDaysCutoffOrThrow (now : Time) (days : Nat) : Except RepositoryError Time :=
  match lifecycleDaysCutoff now days with
  | some cutoff => .ok cutoff
  | none => .error (.invariant
      (if days = 0 then "S3 lifecycle days must be positive" else "S3 lifecycle cutoff overflow"))

/-- The next scalar value; surrogates are none. -/
def nextScalar (c : Char) : Option Char :=
  if c.toNat = 0x10ffff then none
  else if c.toNat = 0xd7ff then some (Char.ofNat 0xe000)
  else some (Char.ofNat (c.toNat + 1))

def lifecyclePrefixUpperBound (pre : String) : Option (List Char) :=
  PrefixRange.upperBound nextScalar pre.toList.reverse

/-- `object_key COLLATE "C" >= $3 AND ($4 IS NULL OR object_key COLLATE "C" < $4)`: the bytes of
UTF-8 are ordered as the scalar values are. -/
def inPrefixRange (pre key : String) : Bool :=
  !decide (List.Lex (· < ·) key.toList pre.toList) &&
  (lifecyclePrefixUpperBound pre).all fun upper => decide (List.Lex (· < ·) key.toList upper)

theorem toNat_ofNat {n : Nat} (h : n.isValidChar) : (Char.ofNat n).toNat = n := by
  rw [Char.ofNat, dif_pos h]
  rfl

theorem isNext_nextScalar : PrefixRange.IsNext nextScalar := by
  have hvalid : ∀ c : Char, c.toNat < 0xd800 ∨ 0xdfff < c.toNat ∧ c.toNat < 0x110000 :=
    fun c => c.valid
  have hlt : ∀ c d : Char, c < d ↔ c.toNat < d.toNat := fun c d => Iff.rfl
  have hle : ∀ c d : Char, c ≤ d ↔ c.toNat ≤ d.toNat := fun c d => Iff.rfl
  constructor
  · intro a b hnext c
    have ha := hvalid a
    have hc := hvalid c
    rw [hlt, hle]
    unfold nextScalar at hnext
    split at hnext
    · cases hnext
    split at hnext
    · cases hnext
      rw [toNat_ofNat (by decide)]
      omega
    · cases hnext
      rw [toNat_ofNat (by unfold Nat.isValidChar; omega)]
      omega
  · intro a hnext c
    have hc := hvalid c
    rw [hle]
    unfold nextScalar at hnext
    split at hnext
    · omega
    · split at hnext <;> cases hnext

/-- The range of the scans is the set of keys that the rule applies to. -/
theorem inPrefixRange_iff (pre key : String) :
    inPrefixRange pre key = pre.toList.isPrefixOf key.toList := by
  have hiff := PrefixRange.isPrefix_iff isNext_nextScalar pre.toList key.toList
  rw [Bool.eq_iff_iff, List.isPrefixOf_iff_prefix, hiff]
  simp only [inPrefixRange, lifecyclePrefixUpperBound, Bool.and_eq_true, Bool.not_eq_true',
    decide_eq_false_iff_not, and_congr_right_iff]
  intro _
  cases PrefixRange.upperBound nextScalar pre.toList.reverse <;> simp

structure S3CurrentExpirationCandidate where
  objectId : ObjectId
  objectKey : String
  currentVersionId : ObjectVersionId
  versionCreatedAt : Time

structure S3NoncurrentExpirationCandidate where
  objectId : ObjectId
  objectKey : String
  versionId : ObjectVersionId
  becameNoncurrentAt : Time

structure S3ExpiredDeleteMarkerCandidate where
  objectId : ObjectId
  objectKey : String
  markerVersionId : ObjectVersionId
deriving DecidableEq

structure S3MultipartLifecycleCandidate where
  uploadId : MultipartUploadId
  objectKey : String
  initiatedAt : Time

/-- `WHERE p ORDER BY r LIMIT n`. -/
def selectPage {α : Type} (rows : List α) (p : α → Bool) (r : α → α → Prop) [DecidableRel r]
    (limit : Nat) : List α :=
  ((rows.filter p).insertionSort r).take limit

theorem mem_selectPage {α : Type} {rows : List α} {p : α → Bool} {r : α → α → Prop}
    [DecidableRel r] {limit : Nat} {a : α} (h : a ∈ selectPage rows p r limit) :
    a ∈ rows ∧ p a :=
  List.mem_filter.1 ((List.mem_insertionSort r).1 (List.mem_of_mem_take h))

/-- Oldest first; the id breaks ties. -/
def notLater (a b : Time × Uuid) : Prop := a.1 < b.1 ∨ a.1 = b.1 ∧ a.2 ≤ b.2

instance (a b : Time × Uuid) : Decidable (notLater a b) := by
  unfold notLater
  infer_instance

/-- In the order of keys; the id breaks ties. -/
def keyNotLater (a b : S3Object) : Prop :=
  List.Lex (· < ·) a.key.toList b.key.toList ∨ a.key = b.key ∧ a.id ≤ b.id

instance (a b : S3Object) : Decidable (keyNotLater a b) := by
  unfold keyNotLater
  infer_instance

namespace Database

variable (db : Database)

/-- `objects JOIN object_versions ON id = current_version_id`. -/
def joinCurrent : List (S3Object × ObjectVersion) :=
  db.objects.rows.filterMap fun object =>
    (object.currentVersionId.bind db.objectVersions.find?).map (object, ·)

/-- `object_versions JOIN objects ON id = object_id`. -/
def joinOwner : List (S3Object × ObjectVersion) :=
  db.objectVersions.rows.filterMap fun version =>
    (db.objects.find? version.objectId).map (·, version)

end Database

/-- Both rows lie in the bucket, the version is active and the key has the prefix. -/
def inScan (applicationId : ApplicationId) (bucketId : BucketId) (pre : String)
    (row : S3Object × ObjectVersion) : Bool :=
  row.1.applicationId = applicationId && row.1.bucketId = bucketId &&
  row.2.applicationId = applicationId && row.2.bucketId = bucketId &&
  inPrefixRange pre row.1.key && row.2.isActive

def listS3LifecycleBuckets (db : Database) (afterBucketId : Option BucketId) (limit : Nat) :
    Except RepositoryError (List S3Bucket) := do
  validateLimit limit
  .ok (selectPage db.buckets.rows
    (fun bucket => bucket.configuration.lifecycleConfiguration.isSome &&
      afterBucketId.all (· < bucket.id))
    (fun a b => a.id ≤ b.id) limit)

def listS3CurrentExpirationCandidates (db : Database) (applicationId : ApplicationId)
    (bucketId : BucketId) (pre : String) (createdBefore : Option Time) (limit : Nat) :
    Except RepositoryError (List S3CurrentExpirationCandidate) := do
  validateLimit limit
  let page := selectPage db.joinCurrent
    (fun row => inScan applicationId bucketId pre row && !row.2.isDeleteMarker &&
      createdBefore.all fun cutoff => row.2.createdAt < postgresTime cutoff)
    (fun a b => keyNotLater a.1 b.1) limit
  .ok (page.map fun row => ⟨row.1.id, row.1.key, row.2.id, row.2.createdAt⟩)

def listS3NoncurrentExpirationCandidates (db : Database) (applicationId : ApplicationId)
    (bucketId : BucketId) (pre : String) (becameNoncurrentBefore evaluatedAt : Time)
    (limit : Nat) : Except RepositoryError (List S3NoncurrentExpirationCandidate) := do
  validateLimit limit
  let page := selectPage db.joinOwner
    (fun row => inScan applicationId bucketId pre row && !row.2.isDeleteMarker &&
      row.2.becameNoncurrentAt.any (· < postgresTime becameNoncurrentBefore) &&
      row.1.currentVersionId ≠ some row.2.id && !row.2.legalHold &&
      row.2.retention.all (·.retainUntil ≤ postgresTime evaluatedAt))
    (fun a b => notLater (a.2.becameNoncurrentAt.getD 0, a.2.id)
      (b.2.becameNoncurrentAt.getD 0, b.2.id)) limit
  .ok (page.map fun row => ⟨row.1.id, row.1.key, row.2.id, row.2.becameNoncurrentAt.getD 0⟩)

/-- When a marker must have been created for the rule to remove it: `none` if the rule removes no
markers now, `some none` if it removes markers of any age. -/
def markerCreatedBefore (rule : S3LifecycleRule) (evaluatedAt : Time) :
    Except RepositoryError (Option (Option Time)) :=
  if rule.status ≠ .enabled then .ok none
  else match rule.expiration with
    | some .expiredObjectDeleteMarker => .ok (some none)
    | some (.days days) =>
        (lifecycleDaysCutoffOrThrow evaluatedAt days).map fun cutoff => some (some cutoff)
    | some (.date date) => .ok (if date ≤ evaluatedAt then some none else none)
    | none => .ok none

def listS3ExpirationDeleteMarkerCandidates (db : Database) (applicationId : ApplicationId)
    (bucketId : BucketId) (rule : S3LifecycleRule) (evaluatedAt : Time) (limit : Nat) :
    Except RepositoryError (List S3ExpiredDeleteMarkerCandidate) := do
  validateLimit limit
  match ← markerCreatedBefore rule evaluatedAt with
  | none => .ok []
  | some createdBefore =>
      let page := selectPage db.joinOwner
        (fun row => inScan applicationId bucketId (lifecyclePrefix rule.filter) row &&
          row.1.currentVersionId = some row.2.id && row.2.isDeleteMarker &&
          (createdBefore.all fun cutoff => row.2.createdAt < postgresTime cutoff) &&
          !hasOtherActiveVersion db row.1.id row.2.id)
        (fun a b => notLater (a.2.createdAt, a.2.id) (b.2.createdAt, b.2.id)) limit
      .ok (page.map fun row => ⟨row.1.id, row.1.key, row.2.id⟩)

def listS3MultipartLifecycleCandidates (db : Database) (applicationId : ApplicationId)
    (bucketId : BucketId) (pre : String) (initiatedBefore evaluatedAt : Time) (limit : Nat) :
    Except RepositoryError (List S3MultipartLifecycleCandidate) := do
  validateLimit limit
  let page := selectPage db.multipartUploads.rows
    (fun upload => upload.applicationId = applicationId && upload.bucketId = bucketId &&
      inPrefixRange pre upload.objectKey && upload.createdAt < postgresTime initiatedBefore &&
      S3MultipartUpload.isLapsed (postgresTime evaluatedAt) upload)
    (fun a b => notLater (a.createdAt, a.uploadId) (b.createdAt, b.uploadId)) limit
  .ok (page.map fun upload => ⟨upload.uploadId, upload.objectKey, upload.createdAt⟩)

/-- The bytes of a text. -/
def utf8Bytes (s : List Char) : List UInt8 := (String.ofList s).toUTF8.data.toList

def BytesLt (a b : List Char) : Prop := List.Lex (· < ·) (utf8Bytes a) (utf8Bytes b)

theorem utf8Bytes_eq (s : List Char) : utf8Bytes s = s.flatMap String.utf8EncodeChar := by
  simp [utf8Bytes, List.utf8Encode]

theorem bytesLt_iff (a b : List Char) : BytesLt a b ↔ List.Lex (· < ·) a b := by
  rw [BytesLt, utf8Bytes_eq, utf8Bytes_eq]
  exact EncodedOrder.lex_flatMap_iff EncodedOrder.isOrdered_utf8 a b

section Due

variable (db : Database) (applicationId : ApplicationId) (bucketId : BucketId)
  (rule : S3LifecycleRule) (now : Time) (limit : Nat)

/-- The rows of a bucket that have not been deleted. -/
def inBucket (row : S3Object × ObjectVersion) : Bool :=
  row.1.applicationId = applicationId && row.1.bucketId = bucketId &&
  row.2.applicationId = applicationId && row.2.bucketId = bucketId && row.2.isActive

def dueCurrent : List S3CurrentExpirationCandidate :=
  (selectPage db.joinCurrent
    (fun row => inBucket applicationId bucketId row && !row.2.isDeleteMarker &&
      lifecycleRuleIsCurrentDue rule row.1.key row.2.createdAt now)
    (fun a b => keyNotLater a.1 b.1) limit).map
      fun row => ⟨row.1.id, row.1.key, row.2.id, row.2.createdAt⟩

def dueNoncurrent : List S3NoncurrentExpirationCandidate :=
  (selectPage db.joinOwner
    (fun row => inBucket applicationId bucketId row && !row.2.isDeleteMarker &&
      (row.2.becameNoncurrentAt.any fun changedAt =>
        lifecycleRuleIsNoncurrentDue rule row.1.key changedAt now) &&
      row.1.currentVersionId ≠ some row.2.id && !row.2.legalHold &&
      row.2.retention.all (·.retainUntil ≤ postgresTime now))
    (fun a b => notLater (a.2.becameNoncurrentAt.getD 0, a.2.id)
      (b.2.becameNoncurrentAt.getD 0, b.2.id)) limit).map
      fun row => ⟨row.1.id, row.1.key, row.2.id, row.2.becameNoncurrentAt.getD 0⟩

def dueExpiredMarkers : List S3ExpiredDeleteMarkerCandidate :=
  (selectPage db.joinOwner
    (fun row => inBucket applicationId bucketId row &&
      row.1.currentVersionId = some row.2.id && row.2.isDeleteMarker &&
      lifecycleRuleRemovesExpiredMarkerAt rule row.1.key row.2.createdAt now &&
      !hasOtherActiveVersion db row.1.id row.2.id)
    (fun a b => notLater (a.2.createdAt, a.2.id) (b.2.createdAt, b.2.id)) limit).map
      fun row => ⟨row.1.id, row.1.key, row.2.id⟩

def dueMultipart : List S3MultipartLifecycleCandidate :=
  (selectPage db.multipartUploads.rows
    (fun upload => upload.applicationId = applicationId && upload.bucketId = bucketId &&
      lifecycleRuleAbortsMultipart rule upload.objectKey upload.createdAt now &&
      S3MultipartUpload.isLapsed (postgresTime now) upload)
    (fun a b => notLater (a.createdAt, a.uploadId) (b.createdAt, b.uploadId)) limit).map
      fun upload => ⟨upload.uploadId, upload.objectKey, upload.createdAt⟩

end Due

variable {db : Database} {applicationId : ApplicationId} {bucketId : BucketId}
  {rule : S3LifecycleRule} {now cutoff : Time} {limit days : Nat}

/-- A cutoff is a midnight, which loses nothing to the column. -/
theorem postgresTime_cutoff (h : lifecycleDaysCutoff now days = some cutoff) :
    postgresTime cutoff = cutoff := by
  unfold lifecycleDaysCutoff Time.checkedAdd at h
  split at h
  · cases h
  · split at h
    · cases h
      have hday : ∀ n d : Int, (n / 86400000000000 * 86400000000000 + -(d * 86400000000000)) /
          1000 * 1000 = n / 86400000000000 * 86400000000000 + -(d * 86400000000000) := by
        intro n d
        omega
      exact hday now days
    · cases h

theorem inScan_eq (pre : String) (row : S3Object × ObjectVersion) :
    inScan applicationId bucketId pre row =
      (inBucket applicationId bucketId row && pre.toList.isPrefixOf row.1.key.toList) := by
  simp only [inScan, inBucket, inPrefixRange_iff]
  generalize pre.toList.isPrefixOf row.1.key.toList = found
  cases found <;> simp

theorem validateLimit_of (h : 1 ≤ limit ∧ limit ≤ maxS3LifecycleBatchSize) :
    validateLimit limit = .ok () := if_pos h

theorem ruleApplies_of_enabled (h : rule.status = .enabled) (key : String) :
    ruleApplies rule key = (lifecyclePrefix rule.filter).toList.isPrefixOf key.toList := by
  simp [ruleApplies, h]

theorem list_current_days (h : rule.status = .enabled)
    (hexpiration : rule.expiration = some (.days days))
    (hcutoff : lifecycleDaysCutoff now days = some cutoff)
    (hlimit : 1 ≤ limit ∧ limit ≤ maxS3LifecycleBatchSize) :
    listS3CurrentExpirationCandidates db applicationId bucketId (lifecyclePrefix rule.filter)
      (some cutoff) limit = .ok (dueCurrent db applicationId bucketId rule now limit) := by
  have hrows : ∀ row : S3Object × ObjectVersion,
      (inScan applicationId bucketId (lifecyclePrefix rule.filter) row && !row.2.isDeleteMarker &&
        (some cutoff).all fun cutoff => decide (row.2.createdAt < postgresTime cutoff)) =
      (inBucket applicationId bucketId row && !row.2.isDeleteMarker &&
        lifecycleRuleIsCurrentDue rule row.1.key row.2.createdAt now) := by
    intro row
    simp only [inScan_eq, lifecycleRuleIsCurrentDue, ruleApplies_of_enabled h, hexpiration, hcutoff,
      Option.all_some, Option.any_some, postgresTime_cutoff hcutoff]
    ac_rfl
  simp only [listS3CurrentExpirationCandidates, validateLimit_of hlimit, hrows]
  rfl

theorem list_current_date {date : Time} (h : rule.status = .enabled)
    (hexpiration : rule.expiration = some (.date date)) (hdate : date ≤ now)
    (hlimit : 1 ≤ limit ∧ limit ≤ maxS3LifecycleBatchSize) :
    listS3CurrentExpirationCandidates db applicationId bucketId (lifecyclePrefix rule.filter)
      none limit = .ok (dueCurrent db applicationId bucketId rule now limit) := by
  have hrows : ∀ row : S3Object × ObjectVersion,
      (inScan applicationId bucketId (lifecyclePrefix rule.filter) row && !row.2.isDeleteMarker &&
        (none : Option Time).all fun cutoff => decide (row.2.createdAt < postgresTime cutoff)) =
      (inBucket applicationId bucketId row && !row.2.isDeleteMarker &&
        lifecycleRuleIsCurrentDue rule row.1.key row.2.createdAt now) := by
    intro row
    simp only [inScan_eq, lifecycleRuleIsCurrentDue, ruleApplies_of_enabled h, hexpiration,
      Option.all_none, decide_eq_true hdate, Bool.and_true]
    ac_rfl
  simp only [listS3CurrentExpirationCandidates, validateLimit_of hlimit, hrows]
  rfl

theorem list_noncurrent (h : rule.status = .enabled) (hdays : rule.noncurrentDays = some days)
    (hcutoff : lifecycleDaysCutoff now days = some cutoff)
    (hlimit : 1 ≤ limit ∧ limit ≤ maxS3LifecycleBatchSize) :
    listS3NoncurrentExpirationCandidates db applicationId bucketId (lifecyclePrefix rule.filter)
      cutoff now limit = .ok (dueNoncurrent db applicationId bucketId rule now limit) := by
  have hdue : ∀ row : S3Object × ObjectVersion,
      (row.2.becameNoncurrentAt.any fun changedAt =>
        lifecycleRuleIsNoncurrentDue rule row.1.key changedAt now) =
      ((lifecyclePrefix rule.filter).toList.isPrefixOf row.1.key.toList &&
        row.2.becameNoncurrentAt.any (· < postgresTime cutoff)) := by
    intro row
    simp only [lifecycleRuleIsNoncurrentDue, ruleApplies_of_enabled h, hdays, hcutoff,
      Option.any_some, postgresTime_cutoff hcutoff]
    cases row.2.becameNoncurrentAt <;> simp
  have hrows : ∀ row : S3Object × ObjectVersion,
      (inScan applicationId bucketId (lifecyclePrefix rule.filter) row && !row.2.isDeleteMarker &&
        row.2.becameNoncurrentAt.any (· < postgresTime cutoff) &&
        row.1.currentVersionId ≠ some row.2.id && !row.2.legalHold &&
        row.2.retention.all (·.retainUntil ≤ postgresTime now)) =
      (inBucket applicationId bucketId row && !row.2.isDeleteMarker &&
        (row.2.becameNoncurrentAt.any fun changedAt =>
          lifecycleRuleIsNoncurrentDue rule row.1.key changedAt now) &&
        row.1.currentVersionId ≠ some row.2.id && !row.2.legalHold &&
        row.2.retention.all (·.retainUntil ≤ postgresTime now)) := by
    intro row
    simp only [inScan_eq, hdue]
    ac_rfl
  simp only [listS3NoncurrentExpirationCandidates, validateLimit_of hlimit, hrows]
  rfl

theorem list_multipart (h : rule.status = .enabled) (hdays : rule.daysAfterInitiation = some days)
    (hcutoff : lifecycleDaysCutoff now days = some cutoff)
    (hlimit : 1 ≤ limit ∧ limit ≤ maxS3LifecycleBatchSize) :
    listS3MultipartLifecycleCandidates db applicationId bucketId (lifecyclePrefix rule.filter)
      cutoff now limit = .ok (dueMultipart db applicationId bucketId rule now limit) := by
  have hrows : ∀ upload : S3MultipartUpload,
      (upload.applicationId = applicationId && upload.bucketId = bucketId &&
        inPrefixRange (lifecyclePrefix rule.filter) upload.objectKey &&
        upload.createdAt < postgresTime cutoff &&
        S3MultipartUpload.isLapsed (postgresTime now) upload) =
      (upload.applicationId = applicationId && upload.bucketId = bucketId &&
        lifecycleRuleAbortsMultipart rule upload.objectKey upload.createdAt now &&
        S3MultipartUpload.isLapsed (postgresTime now) upload) := by
    intro upload
    simp only [inPrefixRange_iff, lifecycleRuleAbortsMultipart, ruleApplies_of_enabled h, hdays,
      hcutoff, Option.any_some, postgresTime_cutoff hcutoff]
    ac_rfl
  simp only [listS3MultipartLifecycleCandidates, validateLimit_of hlimit, hrows]
  rfl

/-- Whether the scan for markers is limited to those before a cutoff is part of the rule's being
due. -/
theorem removesExpiredMarkerAt_eq {createdBefore : Option Time} (h : rule.status = .enabled)
    (hmarkers : markerCreatedBefore rule now = .ok (some createdBefore)) (key : String)
    (createdAt : Time) :
    lifecycleRuleRemovesExpiredMarkerAt rule key createdAt now =
      ((lifecyclePrefix rule.filter).toList.isPrefixOf key.toList &&
        createdBefore.all fun cutoff => createdAt < postgresTime cutoff) := by
  simp only [lifecycleRuleRemovesExpiredMarkerAt, lifecycleRuleIsCurrentDue,
    ruleApplies_of_enabled h]
  unfold markerCreatedBefore at hmarkers
  rw [if_neg (by simp [h])] at hmarkers
  cases hexpiration : rule.expiration with
  | none =>
      rw [hexpiration] at hmarkers
      cases hmarkers
  | some expiration =>
      rw [hexpiration] at hmarkers
      cases expiration with
      | expiredObjectDeleteMarker =>
          cases hmarkers
          simp
      | days days =>
          simp only [lifecycleDaysCutoffOrThrow] at hmarkers
          cases hcutoff : lifecycleDaysCutoff now days with
          | none =>
              rw [hcutoff] at hmarkers
              cases hmarkers
          | some cutoff =>
              rw [hcutoff] at hmarkers
              cases hmarkers
              simp [hcutoff, postgresTime_cutoff hcutoff]
      | date date =>
          by_cases hdate : date ≤ now
          · simp only [if_pos hdate] at hmarkers
            cases hmarkers
            simp [hdate]
          · simp only [if_neg hdate] at hmarkers
            cases hmarkers

/-- No marker is due for a rule that removes none. -/
theorem not_removesExpiredMarkerAt (hmarkers : markerCreatedBefore rule now = .ok none)
    (key : String) (createdAt : Time) :
    lifecycleRuleRemovesExpiredMarkerAt rule key createdAt now = false := by
  unfold markerCreatedBefore at hmarkers
  by_cases h : rule.status = .enabled
  · rw [if_neg (by simp [h])] at hmarkers
    cases hexpiration : rule.expiration with
    | none => simp [lifecycleRuleRemovesExpiredMarkerAt, lifecycleRuleIsCurrentDue, hexpiration]
    | some expiration =>
        rw [hexpiration] at hmarkers
        cases expiration with
        | expiredObjectDeleteMarker => cases hmarkers
        | days days =>
            simp only [lifecycleDaysCutoffOrThrow] at hmarkers
            cases hcutoff : lifecycleDaysCutoff now days <;> rw [hcutoff] at hmarkers <;>
              cases hmarkers
        | date date =>
            by_cases hdate : date ≤ now
            · simp only [if_pos hdate] at hmarkers
              cases hmarkers
            · simp [lifecycleRuleRemovesExpiredMarkerAt, lifecycleRuleIsCurrentDue, hexpiration,
                hdate]
  · simp [lifecycleRuleRemovesExpiredMarkerAt, lifecycleRuleIsCurrentDue, ruleApplies, h]

theorem list_expiredMarkers {created : Option (Option Time)}
    (hmarkers : markerCreatedBefore rule now = .ok created)
    (hlimit : 1 ≤ limit ∧ limit ≤ maxS3LifecycleBatchSize) :
    listS3ExpirationDeleteMarkerCandidates db applicationId bucketId rule now limit =
      .ok (dueExpiredMarkers db applicationId bucketId rule now limit) := by
  cases created with
  | none =>
      have hempty : dueExpiredMarkers db applicationId bucketId rule now limit = [] := by
        simp [dueExpiredMarkers, selectPage, not_removesExpiredMarkerAt hmarkers]
      simp only [listS3ExpirationDeleteMarkerCandidates, validateLimit_of hlimit, hmarkers, hempty]
      rfl
  | some createdBefore =>
      have henabled : rule.status = .enabled := by
        by_contra hne
        rw [markerCreatedBefore, if_pos hne] at hmarkers
        cases hmarkers
      have hrows : ∀ row : S3Object × ObjectVersion,
          (inScan applicationId bucketId (lifecyclePrefix rule.filter) row &&
            row.1.currentVersionId = some row.2.id && row.2.isDeleteMarker &&
            (createdBefore.all fun cutoff => row.2.createdAt < postgresTime cutoff) &&
            !hasOtherActiveVersion db row.1.id row.2.id) =
          (inBucket applicationId bucketId row &&
            row.1.currentVersionId = some row.2.id && row.2.isDeleteMarker &&
            lifecycleRuleRemovesExpiredMarkerAt rule row.1.key row.2.createdAt now &&
            !hasOtherActiveVersion db row.1.id row.2.id) := by
        intro row
        simp only [inScan_eq, removesExpiredMarkerAt_eq henabled hmarkers]
        ac_rfl
      simp only [listS3ExpirationDeleteMarkerCandidates, validateLimit_of hlimit, hmarkers]
      show (.ok ((selectPage db.joinOwner _ _ limit).map _) :
        Except RepositoryError (List S3ExpiredDeleteMarkerCandidate)) = _
      simp only [hrows]
      rfl

/-- The bound delimits the keys with the prefix, byte by byte; and each scan of a rule finds the
rows that the rule is due for. -/
theorem prefixRange_delimits :
    (∀ pre key : String, pre.toList <+: key.toList ↔ ¬ BytesLt key.toList pre.toList ∧
      ∀ upper ∈ lifecyclePrefixUpperBound pre, BytesLt key.toList upper) ∧
    ∀ (db : Database) (applicationId : ApplicationId) (bucketId : BucketId)
      (rule : S3LifecycleRule) (now : Time) (limit : Nat),
      1 ≤ limit → limit ≤ maxS3LifecycleBatchSize →
      (∀ created, markerCreatedBefore rule now = .ok created →
        listS3ExpirationDeleteMarkerCandidates db applicationId bucketId rule now limit =
          .ok (dueExpiredMarkers db applicationId bucketId rule now limit)) ∧
      (rule.status = .enabled →
        (∀ days cutoff, rule.expiration = some (.days days) →
          lifecycleDaysCutoff now days = some cutoff →
          listS3CurrentExpirationCandidates db applicationId bucketId
            (lifecyclePrefix rule.filter) (some cutoff) limit =
              .ok (dueCurrent db applicationId bucketId rule now limit)) ∧
        (∀ date, rule.expiration = some (.date date) → date ≤ now →
          listS3CurrentExpirationCandidates db applicationId bucketId
            (lifecyclePrefix rule.filter) none limit =
              .ok (dueCurrent db applicationId bucketId rule now limit)) ∧
        (∀ days cutoff, rule.noncurrentDays = some days →
          lifecycleDaysCutoff now days = some cutoff →
          listS3NoncurrentExpirationCandidates db applicationId bucketId
            (lifecyclePrefix rule.filter) cutoff now limit =
              .ok (dueNoncurrent db applicationId bucketId rule now limit)) ∧
        ∀ days cutoff, rule.daysAfterInitiation = some days →
          lifecycleDaysCutoff now days = some cutoff →
          listS3MultipartLifecycleCandidates db applicationId bucketId
            (lifecyclePrefix rule.filter) cutoff now limit =
              .ok (dueMultipart db applicationId bucketId rule now limit)) := by
  refine ⟨fun pre key => ?_, fun db applicationId bucketId rule now limit hlow hhigh => ⟨?_, ?_⟩⟩
  · simp only [bytesLt_iff]
    exact PrefixRange.isPrefix_iff isNext_nextScalar pre.toList key.toList
  · intro created hmarkers
    exact list_expiredMarkers hmarkers ⟨hlow, hhigh⟩
  · intro henabled
    refine ⟨?_, ?_, ?_, ?_⟩
    · intro days cutoff hexpiration hcutoff
      exact list_current_days henabled hexpiration hcutoff ⟨hlow, hhigh⟩
    · intro date hexpiration hdate
      exact list_current_date henabled hexpiration hdate ⟨hlow, hhigh⟩
    · intro days cutoff hdays hcutoff
      exact list_noncurrent henabled hdays hcutoff ⟨hlow, hhigh⟩
    · intro days cutoff hdays hcutoff
      exact list_multipart henabled hdays hcutoff ⟨hlow, hhigh⟩

/-- An upload of a bucket that was begun and left. -/
def begunUpload (uploadId : MultipartUploadId) (objectKey : String) (createdAt : Time) :
    S3MultipartUpload where
  uploadId := uploadId
  applicationId := 1
  bucketId := 2
  objectKey := objectKey
  contentType := "text/plain"
  userMetadata := []
  objectTags := S3ObjectTagSet.empty
  storageBackend := .localStore
  state := .pending
  expiresAt := Time.days 9
  completionToken := none
  completionLeaseUntil := none
  completionManifest := none
  uploadIntentId := none
  objectId := none
  objectVersionId := none
  finalEtag := none
  finalChecksum := none
  completedAt := none
  abortedAt := none
  createdAt := createdAt
  updatedAt := createdAt

def begunUploads : Database :=
  { Database.empty with
    multipartUploads :=
      ⟨[begunUpload 5 "ab" (Time.seconds 2), begunUpload 6 "b" 0,
        begunUpload 7 "a/1" (Time.seconds 1), begunUpload 8 "a/2" (Time.days 1)], by decide⟩ }

/-- Of four uploads two have the prefix and are due, and the older one comes first. -/
theorem prefixRange_delimits_begunUploads :
    let rule : S3LifecycleRule := ⟨none, .enabled, .prefixed "a", none, none, some 1⟩
    let found (limit : Nat) :=
      listS3MultipartLifecycleCandidates begunUploads 1 2 "a" (Time.days 1) (Time.days 2) limit
    lifecyclePrefixUpperBound "a" = some ['b'] ∧ BytesLt "ab".toList ['b'] ∧
      found 1 = .ok (dueMultipart begunUploads 1 2 rule (Time.days 2) 1) ∧
      found 10 = .ok (dueMultipart begunUploads 1 2 rule (Time.days 2) 10) ∧
      (dueMultipart begunUploads 1 2 rule (Time.days 2) 1).map (·.uploadId) = [7] ∧
      (dueMultipart begunUploads 1 2 rule (Time.days 2) 10).map (·.uploadId) = [7, 5] := by
  have hdelimits := (prefixRange_delimits.1 "a" "ab").1 (by decide)
  have hbound : lifecyclePrefixUpperBound "a" = some ['b'] := by decide
  have hscan : ∀ limit, 1 ≤ limit → limit ≤ maxS3LifecycleBatchSize →
      listS3MultipartLifecycleCandidates begunUploads 1 2 "a" (Time.days 1) (Time.days 2) limit =
        .ok (dueMultipart begunUploads 1 2 ⟨none, .enabled, .prefixed "a", none, none, some 1⟩
          (Time.days 2) limit) := fun limit hlow hhigh =>
    ((prefixRange_delimits.2 begunUploads 1 2 ⟨none, .enabled, .prefixed "a", none, none, some 1⟩
      (Time.days 2) limit hlow hhigh).2 rfl).2.2.2 1 (Time.days 1) rfl (by decide)
  exact ⟨hbound, hdelimits.2 _ hbound, hscan 1 (by decide) (by decide),
    hscan 10 (by decide) (by decide), by decide +kernel, by decide +kernel⟩

end MediaHub.Store

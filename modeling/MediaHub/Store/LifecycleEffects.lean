import MediaHub.Store.DeleteEffects
import MediaHub.Store.Lifecycle
import MediaHub.Store.CompletionEffects

namespace MediaHub.Store

open Relational
open MediaHub.Core

theorem lockLifecycleObject_ok {db : Database} {command : ExecuteS3LifecycleCommand}
    {objectId : ObjectId} {objectKey : String} {object : S3Object}
    (h : lockLifecycleObject db command objectId objectKey = some object) :
    object ∈ db.objects ∧ object.applicationId = command.applicationId ∧
      object.bucketId = command.bucketId := by
  obtain ⟨hfind, hguard⟩ := Option.filter_eq_some_iff.1 h
  simp only [Bool.and_eq_true, decide_eq_true_eq] at hguard
  exact ⟨Table.mem_of_find? hfind, hguard.1.1, hguard.1.2⟩

theorem lockLifecycleBucket_ok {db : Database} {command : ExecuteS3LifecycleCommand}
    {bucket : S3Bucket} (h : lockLifecycleBucket db command = some bucket) :
    bucket ∈ db.buckets ∧ bucket.id = command.bucketId := by
  obtain ⟨hfind, -⟩ := Option.filter_eq_some_iff.1 h
  obtain ⟨hbucket, hid, -⟩ := Database.findBucket_eq_some_iff.1 hfind
  exact ⟨hbucket, hid⟩

theorem lockActiveVersion_ok {db : Database} {command : ExecuteS3LifecycleCommand}
    {objectId : ObjectId} {versionId : ObjectVersionId} {version : ObjectVersion}
    (h : lockActiveVersion db command objectId versionId = some version) :
    version ∈ db.objectVersions ∧ version.id = versionId ∧ version.objectId = objectId ∧
      version.isActive := by
  obtain ⟨hfind, hguard⟩ := Option.filter_eq_some_iff.1 h
  obtain ⟨hmem, hid⟩ := Table.find?_eq_some_iff.1 hfind
  simp only [Bool.and_eq_true, decide_eq_true_eq] at hguard
  exact ⟨hmem, hid, hguard.1.1.1, hguard.2⟩

theorem lockLifecycleNullVersion_ok {db : Database} {command : ExecuteS3LifecycleCommand}
    {objectId : ObjectId} {version : ObjectVersion}
    (h : lockLifecycleNullVersion db command objectId = some version) :
    version ∈ db.objectVersions ∧ version.objectId = objectId ∧ version.isActive ∧
      version.isNullVersion := by
  have hguard := List.find?_some h
  simp only [Bool.and_eq_true, decide_eq_true_eq] at hguard
  exact ⟨List.mem_of_find?_eq_some h, hguard.1.1.1.1, hguard.2, hguard.1.2⟩

/-- The facts of the marker that an expiration builds. -/
theorem lifecycleDeleteMarker_ok {object : S3Object} {nullVersion : Bool}
    {command : ExecuteS3LifecycleCommand} {marker : ObjectVersion} {db db' : Database}
    (h : (lifecycleDeleteMarker object nullVersion command).run db = .ok (marker, db')) :
    IsMarkerOf marker command.deleteMarkerId object command.applicationId command.bucketId
      (if nullVersion then .null else command.deleteMarkerVersionId) ∧ db = db' := by
  simp only [lifecycleDeleteMarker, Transaction.run_bind_ok, Transaction.run_orThrow_ok,
    run_domain_ok] at h
  obtain ⟨generation, _, ⟨hgeneration, rfl⟩, hmarker, rfl⟩ := h
  exact ⟨(newDeleteMarker_ok hgeneration hmarker).1, rfl⟩

section

variable [Md5] {licence : Licence} {db db' : Database} {command : ExecuteS3LifecycleCommand}
  {object : S3Object} {bucket : S3Bucket} {outcome : S3LifecycleExecutionOutcome}

theorem expireCurrentEnabled_effect (hobject : object ∈ db.objects)
    (happlication : object.applicationId = command.applicationId)
    (hbucketId : object.bucketId = command.bucketId) (hbucket : bucket ∈ db.buckets)
    (hid : bucket.id = command.bucketId)
    (hstatus : bucket.configuration.versioningStatus = .enabled)
    (hunproposed : ∀ intent ∈ db.uploadIntents,
      intent.proposedVersionId ≠ command.deleteMarkerId)
    (hmints : licence.mints command.deleteMarkerId)
    (h : (expireCurrentEnabled command object).run db = .ok (outcome, db')) :
    Effect licence db db' := by
  simp only [expireCurrentEnabled, Transaction.run_bind_ok] at h
  obtain ⟨marker, _, hmarker, _, _, hmark, _, _, hinsert, _, _, hadvance, hpure⟩ := h
  obtain ⟨hfacts, rfl⟩ := lifecycleDeleteMarker_ok hmarker
  obtain ⟨-, rfl⟩ := Transaction.run_pure_ok.1 hpure
  rw [← happlication, ← hbucketId] at hfacts
  have hversioned : IsVersioned db.buckets object.bucketId :=
    ⟨bucket, hbucket, hid.trans hbucketId.symm, by simp [hstatus]⟩
  exact pushMarker_effect hobject hfacts hunproposed hmints (by simp) (Or.inr hversioned) (by simp)
    hmark (replaceNullByMarker_none _) hinsert hadvance

theorem expireCurrentSuspended_effect {activeNull : Option ObjectVersion}
    (hobject : object ∈ db.objects)
    (happlication : object.applicationId = command.applicationId)
    (hbucketId : object.bucketId = command.bucketId)
    (hunproposed : ∀ intent ∈ db.uploadIntents,
      intent.proposedVersionId ≠ command.deleteMarkerId)
    (hmints : licence.mints command.deleteMarkerId)
    (hnull : ∀ version, activeNull = some version → version ∈ db.objectVersions ∧
      version.objectId = object.id ∧ version.isActive ∧ version.isNullVersion)
    (hretires : ∀ version, activeNull = some version → licence.retires version.id)
    (h : (expireCurrentSuspended command object activeNull).run db = .ok (outcome, db')) :
    Effect licence db db' := by
  simp only [expireCurrentSuspended, Transaction.run_bind_ok] at h
  obtain ⟨marker, _, hmarker, _, _, hmark, _, _, hreplace, _, _, hinsert, _, _, hadvance,
    hpure⟩ := h
  obtain ⟨hfacts, rfl⟩ := lifecycleDeleteMarker_ok hmarker
  obtain ⟨-, rfl⟩ := Transaction.run_pure_ok.1 hpure
  rw [← happlication, ← hbucketId, if_pos rfl] at hfacts
  refine pushMarker_effect hobject hfacts hunproposed hmints (fun version hversion => ?_)
    (Or.inl rfl) hretires hmark hreplace hinsert hadvance
  obtain ⟨hmem, hid, hactive, hversionNull⟩ := hnull version hversion
  exact ⟨hmem, hid, hactive, hversionNull, rfl⟩

theorem expireCurrentVersion_effects {target : ObjectVersion}
    (hchain : Chain db.buckets db.objects db.objectVersions)
    (hunproposed : ∀ intent ∈ db.uploadIntents,
      intent.proposedVersionId ≠ command.deleteMarkerId)
    (hobject : object ∈ db.objects)
    (happlication : object.applicationId = command.applicationId)
    (hbucketId : object.bucketId = command.bucketId) (hbucket : bucket ∈ db.buckets)
    (hid : bucket.id = command.bucketId) (htarget : target ∈ db.objectVersions)
    (htargetObject : target.objectId = object.id) (hactive : target.isActive)
    (h : (expireCurrentVersion command bucket.configuration.versioningStatus object target).run
      db = .ok (outcome, db')) :
    Effects (unlockedAt db command.evaluatedAt false command.deleteMarkerId) db db' := by
  unfold expireCurrentVersion at h
  cases hstatus : bucket.configuration.versioningStatus with
  | enabled =>
      rw [hstatus] at h
      exact .single (expireCurrentEnabled_effect hobject happlication hbucketId hbucket hid
        hstatus hunproposed rfl h)
  | suspended =>
      simp only [hstatus, Transaction.run_bind_ok, Transaction.run_query_ok,
        Transaction.run_ite_ok, Transaction.run_pure_ok] at h
      obtain ⟨lockedNull, _, ⟨hlockedNull, rfl⟩, ⟨-, -, rfl⟩ | ⟨hunlocked, h⟩⟩ := h
      · exact .refl db
      have hnull : ∀ version, (if target.isNullVersion then some target else lockedNull) =
          some version → version ∈ db.objectVersions ∧ version.objectId = object.id ∧
            version.isActive ∧ version.isNullVersion := by
        intro version hversion
        split at hversion
        · rename_i htargetNull
          cases hversion
          exact ⟨htarget, htargetObject, hactive, htargetNull⟩
        · exact lockLifecycleNullVersion_ok (hlockedNull.trans hversion)
      refine .single (expireCurrentSuspended_effect hobject happlication hbucketId hunproposed rfl
        hnull (fun version hversion => ?_) h)
      rw [hversion] at hunlocked
      exact ⟨version, (hnull version hversion).1, rfl, by simpa using hunlocked⟩
  | unversioned =>
      simp only [hstatus, Transaction.run_ite_ok, Transaction.run_pure_ok] at h
      rcases h with ⟨-, -, rfl⟩ | ⟨htargetNull, ⟨-, -, rfl⟩ | ⟨hunlocked, h⟩⟩
      · exact .refl db
      · exact .refl db
      · obtain ⟨hhead, honly⟩ := hchain.only_null hobject hbucket (hid.trans hbucketId.symm)
          hstatus htarget htargetObject hactive (by simpa using htargetNull)
        simp only [expireCurrentUnversioned, Transaction.run_bind_ok] at h
        obtain ⟨_, _, hmark, _, _, hqueue, _, _, hsupersede, _, _, hmove, _, _, hrelease,
          hpure⟩ := h
        obtain ⟨-, rfl⟩ := Transaction.run_pure_ok.1 hpure
        exact .single (clearHead_effect hobject htarget htargetObject hactive hhead honly
          ⟨target, htarget, rfl, by simpa using hunlocked⟩ hmark hqueue hsupersede hmove
          hrelease)

theorem executeCurrentExpiration_effects {objectId : ObjectId} {objectKey : String}
    {expectedCurrentVersionId : ObjectVersionId} {versionCreatedAt : Time}
    (hchain : Chain db.buckets db.objects db.objectVersions)
    (hunproposed : ∀ intent ∈ db.uploadIntents,
      intent.proposedVersionId ≠ command.deleteMarkerId)
    (hbucket : bucket ∈ db.buckets) (hid : bucket.id = command.bucketId)
    (h : (executeCurrentExpiration bucket command objectId objectKey expectedCurrentVersionId
      versionCreatedAt).run db = .ok (outcome, db')) :
    Effects (unlockedAt db command.evaluatedAt false command.deleteMarkerId) db db' := by
  simp only [executeCurrentExpiration, Transaction.run_bind_ok, Transaction.run_query_ok] at h
  obtain ⟨row, _, ⟨hrow, rfl⟩, h⟩ := h
  cases row with
  | none =>
      cases (Transaction.run_pure_ok.1 h).2
      exact .refl db
  | some object =>
      obtain ⟨hobject, happlication, hbucketId⟩ := lockLifecycleObject_ok hrow
      simp only [Transaction.run_ite_ok, Transaction.run_pure_ok, Transaction.run_bind_ok,
        Transaction.run_query_ok] at h
      rcases h with ⟨-, -, rfl⟩ | ⟨-, version, _, ⟨hversion, rfl⟩, h⟩
      · exact .refl db
      cases version with
      | none =>
          cases (Transaction.run_pure_ok.1 h).2
          exact .refl db
      | some target =>
          obtain ⟨htarget, -, htargetObject, hactive⟩ := lockActiveVersion_ok hversion
          simp only [Transaction.run_ite_ok, Transaction.run_pure_ok] at h
          rcases h with ⟨-, -, rfl⟩ | ⟨-, h⟩
          · exact .refl db
          · exact expireCurrentVersion_effects hchain hunproposed hobject happlication hbucketId
              hbucket hid htarget htargetObject hactive h

theorem executeNoncurrentExpiration_effects {objectId : ObjectId} {objectKey : String}
    {versionId : ObjectVersionId} {expectedBecameNoncurrentAt : Time}
    (h : (executeNoncurrentExpiration command objectId objectKey versionId
      expectedBecameNoncurrentAt).run db = .ok (outcome, db')) :
    Effects (unlockedAt db command.evaluatedAt false command.deleteMarkerId) db db' := by
  simp only [executeNoncurrentExpiration, Transaction.run_bind_ok, Transaction.run_query_ok] at h
  obtain ⟨row, _, ⟨hrow, rfl⟩, h⟩ := h
  cases row with
  | none =>
      cases (Transaction.run_pure_ok.1 h).2
      exact .refl db
  | some object =>
      obtain ⟨hobject, -, -⟩ := lockLifecycleObject_ok hrow
      simp only [Transaction.run_ite_ok, Transaction.run_pure_ok, Transaction.run_bind_ok,
        Transaction.run_query_ok] at h
      rcases h with ⟨-, -, rfl⟩ | ⟨htail, version, _, ⟨hversion, rfl⟩, h⟩
      · exact .refl db
      cases version with
      | none =>
          cases (Transaction.run_pure_ok.1 h).2
          exact .refl db
      | some target =>
          obtain ⟨htarget, rfl, htargetObject, hactive⟩ := lockActiveVersion_ok hversion
          simp only [Transaction.run_ite_ok, Transaction.run_pure_ok,
            Transaction.run_bind_ok] at h
          rcases h with ⟨-, -, rfl⟩ | ⟨-, ⟨-, -, rfl⟩ | ⟨hunlocked, _, _, hhide, _, _, hqueue,
            _, _, hrelease, -, rfl⟩⟩
          · exact .refl db
          · exact .refl db
          cases hideExactDeletedVersion_ok hhide
          obtain ⟨hqueues, rfl⟩ := enqueueVersionPayload_ok hqueue
          obtain ⟨hcharge, rfl⟩ := releaseS3UsedBytes_giveBack hrelease
          let removed : VersionRemoval := {
            removal := {
              object, target
              retire := retirement target command.evaluatedAt
              next := none }
            task := lifecycleGcTask target command }
          have hvalid : removed.Valid db := {
            removal_valid := {
              object_mem := hobject
              target_mem := htarget
              objectId_eq := htargetObject
              active := hactive
              retires := retires_retirement target command.evaluatedAt
              superseded := fun hnull _ => superseded_retirement hnull _ _ }
            queues := hqueues
            charge := hcharge }
          have heffect : Effect (unlockedAt db command.evaluatedAt false command.deleteMarkerId) db
              (removed.apply db) :=
            .versionRemoved hvalid htail rfl ⟨target, htarget, rfl, by simpa using hunlocked⟩
          rw [VersionRemoval.apply, Removal.rewrite_age] at heffect
          exact .single heffect

/-- A marker has no lock, no payload and no bytes. -/
theorem executeExpiredMarker_effects {objectId : ObjectId} {objectKey : String}
    {markerVersionId : ObjectVersionId}
    (h : (executeExpiredMarker command objectId objectKey markerVersionId).run db =
      .ok (outcome, db')) :
    Effects (unlockedAt db command.evaluatedAt false command.deleteMarkerId) db db' := by
  simp only [executeExpiredMarker, Transaction.run_bind_ok, Transaction.run_query_ok] at h
  obtain ⟨row, _, ⟨hrow, rfl⟩, h⟩ := h
  cases row with
  | none =>
      cases (Transaction.run_pure_ok.1 h).2
      exact .refl db
  | some object =>
      obtain ⟨hobject, -, -⟩ := lockLifecycleObject_ok hrow
      simp only [Transaction.run_ite_ok, Transaction.run_pure_ok, Transaction.run_bind_ok,
        Transaction.run_query_ok] at h
      rcases h with ⟨-, -, rfl⟩ | ⟨hhead, version, _, ⟨hversion, rfl⟩, h⟩
      · exact .refl db
      cases version with
      | none =>
          cases (Transaction.run_pure_ok.1 h).2
          exact .refl db
      | some marker =>
          obtain ⟨hmarker, rfl, hmarkerObject, hactive⟩ := lockActiveVersion_ok hversion
          simp only [Transaction.run_bind_ok, Transaction.run_query_ok, Transaction.run_ite_ok,
            Transaction.run_pure_ok] at h
          obtain ⟨hasOther, _, ⟨hother, rfl⟩, ⟨-, -, rfl⟩ | ⟨heligible, _, _, hhide, _, _, hmove,
            -, rfl⟩⟩ := h
          · exact .refl db
          cases hideExactDeletedVersion_ok hhide
          cases updateDeletedObjectHead_ok hmove
          simp only [not_or, Bool.not_eq_true, Bool.not_eq_false'] at heligible
          have hpayload : marker.payload = .deleteMarker := by
            simpa [ObjectVersion.isDeleteMarker] using heligible.1
          have honly : ∀ version ∈ db.objectVersions, version.objectId = object.id →
              version.isActive → version.id = marker.id := by
            intro version hmem hversionObject hversionActive
            by_contra hne
            have hnone := List.any_eq_false.1 (hother.trans heligible.2.2) version hmem
            simp [hversionObject, hne, hversionActive] at hnone
          have hsize : marker.sizeBytes = 0 := by simp [ObjectVersion.sizeBytes, hpayload]
          let removed : VersionRemoval := {
            removal := {
              object
              target := marker
              retire := retirement marker command.evaluatedAt
              next := none }
            task := none }
          have hvalid : removed.Valid db := {
            removal_valid := {
              object_mem := hobject
              target_mem := hmarker
              objectId_eq := hmarkerObject
              active := hactive
              retires := retires_retirement marker command.evaluatedAt
              superseded := fun hnull _ => superseded_retirement hnull _ _ }
            queues := ⟨by simp [removed, ObjectVersion.locator?, hpayload], by simp [removed],
              trivial⟩
            charge := Or.inl hsize }
          have hnext : removed.removal.NextValid db := {
            none_iff := iff_of_true rfl honly
            of_some := by simp [removed] }
          have hunlocked : deleteLockReasonAt marker command.evaluatedAt false = none := by
            obtain ⟨hretention, hhold⟩ := marker.marker_unlocked hpayload
            simp [deleteLockReasonAt, hretention, hhold]
          have heffect : Effect (unlockedAt db command.evaluatedAt false command.deleteMarkerId) db
              (removed.applyHead command.evaluatedAt db) :=
            .headRemoved hvalid (by simpa using hhead) hnext ⟨marker, hmarker, rfl, hunlocked⟩
          rw [VersionRemoval.applyHead, VersionRemoval.apply, Removal.rewrite_age,
            giveBack_of_zero hsize] at heffect
          exact .single heffect

theorem executeMultipartAbort_effects {uploadId : MultipartUploadId} {objectKey : String}
    {expectedInitiatedAt : Time}
    (h : (executeMultipartAbort command uploadId objectKey expectedInitiatedAt).run db =
      .ok (outcome, db')) :
    Effects licence db db' := by
  simp only [executeMultipartAbort, Transaction.run_bind_ok, Transaction.run_query_ok] at h
  obtain ⟨row, _, ⟨hrow, rfl⟩, h⟩ := h
  cases row with
  | none =>
      cases (Transaction.run_pure_ok.1 h).2
      exact .refl _
  | some upload =>
      simp only [Transaction.run_ite_ok, Transaction.run_pure_ok, Transaction.run_bind_ok,
        Transaction.run_query_ok] at h
      rcases h with ⟨-, -, rfl⟩ | ⟨-, intent, _, hlock, bucket, _, ⟨-, rfl⟩, h⟩
      · exact .refl _
      obtain ⟨rfl, hid, hlocked⟩ := lockAttachedUploadIntent_ok hlock
      cases bucket with
      | none =>
          cases (Transaction.run_pure_ok.1 h).2
          exact .refl _
      | some bucket =>
          simp only [Transaction.run_ite_ok, Transaction.run_pure_ok,
            Transaction.run_bind_ok] at h
          rcases h with ⟨-, -, rfl⟩ | ⟨-, ⟨-, -, rfl⟩ | ⟨-, ⟨-, -, rfl⟩ | ⟨-, ⟨-, -, rfl⟩ |
            ⟨-, _, _, habort, -, rfl⟩⟩⟩⟩
          · exact .refl _
          · exact .refl _
          · exact .refl _
          · exact .refl _
          · exact (abortUploadWithLockedIntent_effects (Table.mem_of_find? hrow) hid
              hlocked habort).1

/-- A lifecycle action retires nothing that a lock protects at its time. -/
theorem executeS3Lifecycle_effects (hchain : Chain db.buckets db.objects db.objectVersions)
    (hunproposed : ∀ intent ∈ db.uploadIntents,
      intent.proposedVersionId ≠ command.deleteMarkerId)
    (h : (executeS3Lifecycle command).run db = .ok (outcome, db')) :
    Effects (unlockedAt db command.evaluatedAt false command.deleteMarkerId) db db' := by
  simp only [executeS3Lifecycle, Transaction.run_bind_ok, Transaction.run_require_ok] at h
  obtain ⟨_, _, ⟨-, rfl⟩, h⟩ := h
  cases htarget : command.target with
  | abortMultipart uploadId objectKey expectedInitiatedAt =>
      rw [htarget] at h
      exact executeMultipartAbort_effects h
  | expireCurrent objectId objectKey expectedCurrentVersionId versionCreatedAt =>
      simp only [htarget, Transaction.run_bind_ok, Transaction.run_query_ok] at h
      obtain ⟨bucket, _, ⟨hbucket, rfl⟩, h⟩ := h
      cases bucket with
      | none =>
          cases (Transaction.run_pure_ok.1 h).2
          exact .refl db
      | some bucket =>
          obtain ⟨hmem, hid⟩ := lockLifecycleBucket_ok hbucket
          exact executeCurrentExpiration_effects hchain hunproposed hmem hid h
  | expireNoncurrent objectId objectKey versionId expectedBecameNoncurrentAt =>
      simp only [htarget, Transaction.run_bind_ok, Transaction.run_query_ok] at h
      obtain ⟨bucket, _, ⟨-, rfl⟩, h⟩ := h
      cases bucket with
      | none =>
          cases (Transaction.run_pure_ok.1 h).2
          exact .refl db
      | some bucket => exact executeNoncurrentExpiration_effects h
  | removeExpiredDeleteMarker objectId objectKey markerVersionId =>
      simp only [htarget, Transaction.run_bind_ok, Transaction.run_query_ok] at h
      obtain ⟨bucket, _, ⟨-, rfl⟩, h⟩ := h
      cases bucket with
      | none =>
          cases (Transaction.run_pure_ok.1 h).2
          exact .refl db
      | some bucket => exact executeExpiredMarker_effects h

end

end MediaHub.Store

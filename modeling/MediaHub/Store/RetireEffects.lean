import MediaHub.Store.Chain

namespace MediaHub.Store

open Relational
open MediaHub.Core

/-- How an exact delete takes a version out of sight. -/
def retirement (version : ObjectVersion) (deletedAt : Time) : Update ObjectVersion :=
  if version.isNullVersion then ObjectVersion.supersede deletedAt else ObjectVersion.hide

theorem retires_retirement (version : ObjectVersion) (deletedAt : Time) :
    Retires (retirement version deletedAt) := by
  unfold retirement
  split
  · exact retires_supersede deletedAt
  · exact retires_hide

/-- Null versions are superseded, also by an exact delete. -/
theorem superseded_retirement {version : ObjectVersion} (hnull : version.isNullVersion)
    (deletedAt : Time) (row : ObjectVersion) :
    (retirement version deletedAt row).supersededAt.isSome := by
  rw [retirement, if_pos hnull]
  rfl

theorem hideExactDeletedVersion_ok {version : ObjectVersion} {deletedAt : Time}
    {db db' : Database} {u : Unit}
    (h : (hideExactDeletedVersion version deletedAt).run db = .ok (u, db')) :
    db' = db.mapObjectVersions (·.update version.id (retirement version deletedAt)) := by
  unfold hideExactDeletedVersion at h
  unfold retirement
  split at h
  · rename_i hnull
    rw [if_pos hnull]
    exact (supersedeActiveNullVersion_ok.1 h).2
  · rename_i hnull
    rw [if_neg hnull]
    exact (Transaction.run_updateRow_ok.1 h).2

theorem updateDeletedObjectHead_ok {object : S3Object} {current : Option ObjectVersionId}
    {updatedAt : Time} {db db' : Database} {u : Unit}
    (h : (updateDeletedObjectHead object current updatedAt).run db = .ok (u, db')) :
    db' = db.mapObjects (·.update object.id (S3Object.pointTo current updatedAt)) := by
  simp only [updateDeletedObjectHead, asI64, Transaction.run_bind_ok,
    Transaction.run_require_ok, Transaction.run_updateRow_ok] at h
  obtain ⟨_, _, ⟨-, rfl⟩, -, rfl⟩ := h
  rfl

theorem insertObjectVersion_ok {version : ObjectVersion} {db db' : Database} {u : Unit} :
    (insertObjectVersion version).run db = .ok (u, db') ↔
      (version.sizeBytes ≤ maxI64 ∧ version.generation ≤ maxI64 ∧ version.state ≠ .staged ∧
        ObjectVersion.noncurrentTimeValid (ObjectVersion.persisted version) ∧
        db.objectVersions.find? version.id = none ∧
        ∀ row ∈ db.objectVersions, ObjectVersion.clashes version row = false) ∧
      db' = db.mapObjectVersions (·.insert (ObjectVersion.persisted version)) := by
  simp only [insertObjectVersion, asI64, Transaction.run_bind_ok, Transaction.run_require_ok,
    Transaction.run_insertRow_ok, Bool.and_eq_true, decide_eq_true_eq]
  constructor
  · rintro ⟨_, _, ⟨hsize, rfl⟩, _, _, ⟨hgeneration, rfl⟩, ⟨hstate, htime⟩, hfresh, hclash, rfl⟩
    exact ⟨⟨hsize, hgeneration, hstate, htime, hfresh, hclash⟩, rfl⟩
  · rintro ⟨⟨hsize, hgeneration, hstate, htime, hfresh, hclash⟩, rfl⟩
    exact ⟨(), db, ⟨hsize, rfl⟩, (), db, ⟨hgeneration, rfl⟩, ⟨hstate, htime⟩, hfresh, hclash,
      rfl⟩

theorem advanceObject_ok {objectId : ObjectId} {expectedGeneration generation : Nat}
    {current : ObjectVersionId} {updatedAt : Time} {db db' : Database} {u : Unit} :
    (advanceObject objectId expectedGeneration current generation updatedAt).run db =
        .ok (u, db') ↔
      (generation ≤ maxI64 ∧ expectedGeneration ≤ maxI64 ∧
        ∃ object ∈ db.objects, object.id = objectId ∧
          object.generation = expectedGeneration) ∧
      db' = db.mapObjects
        (·.update objectId (S3Object.advance current generation updatedAt)) := by
  simp only [advanceObject, asI64, Transaction.run_bind_ok, Transaction.run_require_ok,
    Transaction.run_updateRow_ok, decide_eq_true_eq, and_true]
  constructor
  · rintro ⟨_, _, ⟨hgeneration, rfl⟩, _, _, ⟨hexpected, rfl⟩, hrow, rfl⟩
    exact ⟨⟨hgeneration, hexpected, hrow⟩, rfl⟩
  · rintro ⟨⟨hgeneration, hexpected, hrow⟩, rfl⟩
    exact ⟨(), db, ⟨hgeneration, rfl⟩, (), db, ⟨hexpected, rfl⟩, hrow, rfl⟩

theorem advanceObjectToDeleteMarker_ok {object : S3Object} {marker : ObjectVersion}
    {updatedAt : Time} {db db' : Database} {u : Unit}
    (h : (advanceObjectToDeleteMarker object marker updatedAt).run db = .ok (u, db')) :
    db' = db.mapObjects
      (·.update object.id (S3Object.advance marker.id marker.generation updatedAt)) := by
  simp only [advanceObjectToDeleteMarker, Transaction.run_bind_ok, Transaction.run_orThrow_ok,
    Transaction.run_require_ok, advanceObject_ok] at h
  obtain ⟨next, _, ⟨-, rfl⟩, _, _, ⟨hgeneration, rfl⟩, -, rfl⟩ := h
  rw [hgeneration]

theorem checkedAddU64_eq_some {a b c : Nat} (h : checkedAddU64 a b = some c) : c = a + b := by
  unfold checkedAddU64 at h
  split at h
  · exact (Option.some.inj h).symm
  · cases h

/-- What a successful constructor of a delete marker gives. -/
structure IsMarkerOf (marker : ObjectVersion) (id : ObjectVersionId) (object : S3Object)
    (applicationId : ApplicationId) (bucketId : BucketId) (externalVersionId : S3VersionId) :
    Prop where
  id_eq : marker.id = id
  objectId_eq : marker.objectId = object.id
  applicationId_eq : marker.applicationId = applicationId
  bucketId_eq : marker.bucketId = bucketId
  externalVersionId_eq : marker.externalVersionId = externalVersionId
  generation_eq : marker.generation = object.generation + 1
  payload_eq : marker.payload = .deleteMarker
  active : marker.isActive
  current : marker.becameNoncurrentAt = none

theorem newDeleteMarker_ok {id : ObjectVersionId} {object : S3Object}
    {applicationId : ApplicationId} {bucketId : BucketId} {externalVersionId : S3VersionId}
    {generation : Nat} {isNullVersion : Bool} {createdBy : String} {createdAt : Time}
    {marker : ObjectVersion} (hgeneration : checkedAddU64 object.generation 1 = some generation)
    (h : ObjectVersion.newDeleteMarker id object.id applicationId bucketId externalVersionId
      generation isNullVersion createdBy createdAt = .ok marker) :
    IsMarkerOf marker id object applicationId bucketId externalVersionId ∧
      isNullVersion = externalVersionId.isNull := by
  have hnext := checkedAddU64_eq_some hgeneration
  unfold ObjectVersion.newDeleteMarker at h
  split at h
  · split at h
    · cases h
    rename_i hnull
    split at h
    · cases h
      exact ⟨⟨rfl, rfl, rfl, rfl, rfl, hnext, rfl, rfl, rfl⟩, not_not.1 hnull⟩
    · cases h
  · cases h

theorem versionGcTask_names {version : ObjectVersion} {reason : StorageGcReason}
    {notBefore createdAt : Time} {maxAttempts : Nat} :
    ∀ new ∈ versionGcTask version reason notBefore maxAttempts createdAt,
      NamesVersion new.provenance version := by
  intro new hnew
  obtain ⟨locator, -, rfl⟩ := Option.map_eq_some_iff.1 hnew
  exact ⟨rfl, rfl, rfl, rfl, rfl⟩

theorem enqueueVersionPayload_ok {version : ObjectVersion} {reason : StorageGcReason}
    {notBefore createdAt : Time} {maxAttempts : Nat} {db db' : Database} {u : Unit}
    (h : (enqueueVersionPayload
      (versionGcTask version reason notBefore maxAttempts createdAt)).run db = .ok (u, db')) :
    QueuesPayload db.storageGcTasks version
        (versionGcTask version reason notBefore maxAttempts createdAt) ∧
      db' = { db with
        storageGcTasks := queueTasks db.storageGcTasks
          (versionGcTask version reason notBefore maxAttempts createdAt).toList } := by
  have hnames : ∀ new ∈ versionGcTask version reason notBefore maxAttempts createdAt, _ :=
    versionGcTask_names
  have hlocator : (versionGcTask version reason notBefore maxAttempts createdAt).map (·.locator) =
      version.locator? := by
    unfold versionGcTask
    cases version.locator? <;> rfl
  cases htask : versionGcTask version reason notBefore maxAttempts createdAt with
  | none =>
      rw [htask] at h hlocator hnames
      cases (Transaction.run_pure_ok.1 h).2
      exact ⟨⟨hlocator, hnames, trivial⟩, rfl⟩
  | some task =>
      rw [htask] at h hlocator hnames
      obtain ⟨-, hinsert⟩ := enqueueObjectVersionGcTask_ok.1 h
      obtain ⟨⟨-, -, hadmits⟩, rfl⟩ := insertStorageGcTask_ok.1 hinsert
      exact ⟨⟨hlocator, hnames, hadmits, trivial⟩, rfl⟩

theorem giveBack_of_zero {applications : Table Application} {version : ObjectVersion}
    (h : version.sizeBytes = 0) : giveBack applications version = applications := by
  refine Table.update_self fun application _ => ?_
  simp [Application.releaseUsed, h]

theorem releaseS3UsedBytes_giveBack {version : ObjectVersion} {db db' : Database} {u : Unit}
    (h : (releaseS3UsedBytes version.applicationId version.sizeBytes).run db = .ok (u, db')) :
    CanGiveBack db version ∧
      db' = { db with applications := giveBack db.applications version } := by
  rcases releaseS3UsedBytes_ok.1 h with ⟨hzero, rfl⟩ | ⟨-, -, hcharge, rfl⟩
  · refine ⟨Or.inl hzero, ?_⟩
    rw [giveBack_of_zero hzero]
  · exact ⟨Or.inr hcharge, rfl⟩

theorem replaceNullByMarker_none (db : Database) :
    (replaceNullByMarker none (versionGcTask · .explicitDelete 0 0 0) 0).run db =
      .ok ((), db) := rfl

/-- The replaced version makes way for a null marker. -/
theorem replaceNullByMarker_ok {activeNull : Option ObjectVersion} {reason : StorageGcReason}
    {notBefore createdAt supersededAt : Time} {maxAttempts : Nat} {db db' : Database} {u : Unit}
    (h : (replaceNullByMarker activeNull
      (versionGcTask · reason notBefore maxAttempts createdAt) supersededAt).run db =
        .ok (u, db')) :
    QueuesReplaced db.storageGcTasks activeNull
        (activeNull.bind (versionGcTask · reason notBefore maxAttempts createdAt)) ∧
      (∀ version, activeNull = some version → CanGiveBack db version) ∧
      db' = { db with
        objectVersions := db.objectVersions.updateOption (activeNull.map (·.id))
          (ObjectVersion.supersede supersededAt)
        storageGcTasks := queueTasks db.storageGcTasks
          (activeNull.bind (versionGcTask · reason notBefore maxAttempts createdAt)).toList
        applications := activeNull.elim db.applications (giveBack db.applications) } := by
  cases activeNull with
  | none =>
      cases (Transaction.run_pure_ok.1 h).2
      exact ⟨rfl, by simp, rfl⟩
  | some version =>
      simp only [replaceNullByMarker, Transaction.run_bind_ok] at h
      obtain ⟨_, _, hqueue, _, _, hsupersede, hrelease⟩ := h
      obtain ⟨hqueues, rfl⟩ := enqueueVersionPayload_ok hqueue
      obtain ⟨-, rfl⟩ := supersedeActiveNullVersion_ok.1 hsupersede
      obtain ⟨hcharge, rfl⟩ := releaseS3UsedBytes_giveBack hrelease
      refine ⟨hqueues, fun other hother => ?_, rfl⟩
      cases hother
      exact hcharge

theorem Push.versions_eq (push : Push) (old : Table ObjectVersion) :
    push.versions old = ((old.updateOption push.object.currentVersionId
      (ObjectVersion.markNoncurrent push.markedAt)).updateOption (push.replaced.map (·.id))
        (ObjectVersion.supersede push.supersededAt)).insert push.version := by
  rw [Table.updateOption_eq_rewrite, Table.updateOption_eq_rewrite, Table.rewrite_rewrite]
  rfl

theorem Removal.rewrite_age (removal : Removal) (old : Table ObjectVersion) :
    old.rewrite removal.age = (old.update removal.target.id removal.retire).updateOption
      (removal.next.map (·.id)) ObjectVersion.makeCurrent := by
  rw [Table.updateOption_eq_rewrite, Table.update_eq_rewrite, Table.rewrite_rewrite]
  rfl

section Marker

variable [Md5] {licence : Licence} {db : Database}

/-- Marking the head, replacing the null version, inserting a marker and advancing the object
come to one effect. -/
theorem pushMarker_effect {object : S3Object} {marker : ObjectVersion}
    {activeNull : Option ObjectVersion} {id : ObjectVersionId} {externalVersionId : S3VersionId}
    {reason : StorageGcReason} {notBefore createdAt markedAt supersededAt advancedAt : Time}
    {maxAttempts : Nat} {marked replaced inserted db' : Database} {u : Unit}
    (hobject : object ∈ db.objects)
    (hmarker : IsMarkerOf marker id object object.applicationId object.bucketId
      externalVersionId)
    (hunproposed : ∀ intent ∈ db.uploadIntents, intent.proposedVersionId ≠ id)
    (hmints : licence.mints id)
    (hnull : ∀ version, activeNull = some version → version ∈ db.objectVersions ∧
      version.objectId = object.id ∧ version.isActive ∧ version.isNullVersion ∧
      externalVersionId = .null)
    (hversioned : externalVersionId = .null ∨ IsVersioned db.buckets object.bucketId)
    (hretires : ∀ version, activeNull = some version → licence.retires version.id)
    (hmark : (markCurrentVersionNoncurrent object markedAt).run db = .ok (u, marked))
    (hreplace : (replaceNullByMarker activeNull
      (versionGcTask · reason notBefore maxAttempts createdAt) supersededAt).run marked =
        .ok (u, replaced))
    (hinsert : (insertObjectVersion marker).run replaced = .ok (u, inserted))
    (hadvance : (advanceObjectToDeleteMarker object marker advancedAt).run inserted =
      .ok (u, db')) :
    Effect licence db db' := by
  obtain ⟨-, rfl⟩ := markCurrentVersionNoncurrent_ok.1 hmark
  obtain ⟨hqueues, hcharge, rfl⟩ := replaceNullByMarker_ok hreplace
  obtain ⟨⟨hsize, hgeneration, -, -, hfresh, hdistinct⟩, rfl⟩ :=
    insertObjectVersion_ok.1 hinsert
  cases advanceObjectToDeleteMarker_ok hadvance
  let push : Push := {
    object
    version := ObjectVersion.persisted marker
    replaced := activeNull
    markedAt, supersededAt, advancedAt }
  have hisNull : (ObjectVersion.persisted marker).isNullVersion = externalVersionId.isNull := by
    rw [← hmarker.externalVersionId_eq]
    rfl
  have hpush : push.Valid db := {
    object_mem := hobject
    objectId_eq := hmarker.objectId_eq
    applicationId_eq := hmarker.applicationId_eq
    bucketId_eq := hmarker.bucketId_eq
    generation_eq := hmarker.generation_eq
    active := by
      have hactive := hmarker.active
      simp only [ObjectVersion.isActive, Bool.and_eq_true, decide_eq_true_eq] at hactive
      simp [push, ObjectVersion.isActive, ObjectVersion.persisted, hactive.1]
    current := by simp [push, ObjectVersion.persisted, hmarker.current]
    fresh := by
      simp only [Database.mapObjectVersions, Table.updateOption_eq_rewrite,
        Table.find?_rewrite, Option.map_eq_none_iff] at hfresh
      exact hfresh
    distinct := by
      intro row hrow
      refine hdistinct row ?_
      simp only [Database.mapObjectVersions, Table.updateOption_eq_rewrite,
        Table.rewrite_rewrite]
      exact hrow
    replaced_mem := by
      intro previous hprevious
      obtain ⟨hmem, hid, hactive, hprevNull, hext⟩ := hnull previous hprevious
      exact ⟨hmem, hid, hactive, hprevNull, by
        change (ObjectVersion.persisted marker).isNullVersion = true
        rw [hisNull, hext]
        rfl⟩
    versioned := by
      refine hversioned.imp (fun hext => ?_) fun hbucket => ?_
      · change (ObjectVersion.persisted marker).isNullVersion = true
        rw [hisNull, hext]
        rfl
      · change IsVersioned db.buckets marker.bucketId
        rw [hmarker.bucketId_eq]
        exact hbucket
    bigint := ⟨hgeneration, hsize⟩
    truncated := postgresTime_postgresTime _
    lockable := Or.inl (ObjectVersion.isUnlocked_of_marker hmarker.payload_eq) }
  have hvalid : MarkerPush.Valid ⟨push,
      activeNull.bind (versionGcTask · reason notBefore maxAttempts createdAt)⟩ db := {
    push_valid := hpush
    isMarker := hmarker.payload_eq
    unproposed := by
      intro intent hintent
      change intent.proposedVersionId ≠ marker.id
      rw [hmarker.id_eq]
      exact hunproposed intent hintent
    queues := hqueues
    charge := hcharge }
  have hmarkerId : licence.mints push.version.id := by
    change licence.mints marker.id
    rw [hmarker.id_eq]
    exact hmints
  have heffect : Effect licence db _ := .markerPushed hvalid hmarkerId hretires
  rw [MarkerPush.apply, Push.versions_eq] at heffect
  exact heffect

end Marker

end MediaHub.Store

import MediaHub.Store.RetireEffects

namespace MediaHub.Store

open Relational
open MediaHub.Core

/-- A delete may retire the versions that no lock protects, and it may add its marker. -/
def unlockedAt (db : Database) (deletedAt : Time) (bypassGovernance : Bool)
    (markerId : ObjectVersionId) : Licence :=
  { Licence.none with
    mints := fun id => id = markerId
    retires := fun versionId => ∃ version ∈ db.objectVersions, version.id = versionId ∧
      deleteLockReasonAt version deletedAt bypassGovernance = none }

/-- The next current version is the newest of the others. -/
theorem nextCurrentVersion_valid (db : Database) {object : S3Object} {target : ObjectVersion}
    (retire : Update ObjectVersion) :
    Removal.NextValid
      ⟨object, target, retire, nextCurrentVersion (db.listActiveVersions object.id) target⟩
      db := by
  have hmem : ∀ version,
      version ∈ (db.listActiveVersions object.id).filter (·.id ≠ target.id) ↔
        (version ∈ db.objectVersions ∧ version.objectId = object.id ∧ version.isActive) ∧
          version.id ≠ target.id := by
    intro version
    simp [List.mem_filter, Database.mem_listActiveVersions]
  have hsorted : (db.listActiveVersions object.id).Pairwise
      fun a b => b.generation ≤ a.generation := by
    have : Std.Total (fun a b : ObjectVersion => b.generation ≤ a.generation) :=
      ⟨fun a b => Nat.le_total b.generation a.generation⟩
    have : IsTrans ObjectVersion (fun a b => b.generation ≤ a.generation) :=
      ⟨fun _ _ _ hab hbc => le_trans hbc hab⟩
    exact List.pairwise_insertionSort _ _
  have hfiltered := hsorted.filter (fun version => decide (version.id ≠ target.id))
  constructor
  · change List.head? _ = none ↔ _
    rw [List.head?_eq_none_iff, List.eq_nil_iff_forall_not_mem]
    constructor
    · intro hnone version hversion hobject hactive
      by_contra hne
      exact hnone version ((hmem version).2 ⟨⟨hversion, hobject, hactive⟩, hne⟩)
    · intro hall version hversion
      obtain ⟨⟨hversion, hobject, hactive⟩, hne⟩ := (hmem version).1 hversion
      exact hne (hall version hversion hobject hactive)
  · intro next hnext
    change List.head? _ = some next at hnext
    obtain ⟨rest, hlist⟩ := List.head?_eq_some_iff.1 hnext
    obtain ⟨⟨hversion, hobject, hactive⟩, hne⟩ :=
      (hmem next).1 (List.mem_of_mem_head? hnext)
    refine ⟨hversion, hobject, hactive, hne,
      fun other hother hotherObject hotherActive hotherNe => ?_⟩
    have hotherMem := (hmem other).2 ⟨⟨hother, hotherObject, hotherActive⟩, hotherNe⟩
    rw [hlist] at hotherMem hfiltered
    rcases List.mem_cons.1 hotherMem with rfl | hrest
    · exact le_refl _
    · exact (List.pairwise_cons.1 hfiltered).1 other hrest

/-- The facts of the marker that a delete builds. -/
theorem deleteMarker_ok {command : DeleteS3ObjectCommand} {object : S3Object}
    {db db' : Database} {externalVersionId : S3VersionId} {isNullVersion : Bool}
    {marker : ObjectVersion}
    (h : (deleteMarker command object externalVersionId isNullVersion).run db =
      .ok (marker, db')) :
    IsMarkerOf marker command.deleteMarkerId object command.applicationId command.bucketId
      externalVersionId ∧ isNullVersion = externalVersionId.isNull ∧ db = db' := by
  simp only [deleteMarker, Transaction.run_bind_ok, Transaction.run_orThrow_ok,
    run_domain_ok] at h
  obtain ⟨generation, _, ⟨hgeneration, rfl⟩, hmarker, rfl⟩ := h
  obtain ⟨hfacts, hnull⟩ := newDeleteMarker_ok hgeneration hmarker
  exact ⟨hfacts, hnull, rfl⟩

/-- In a bucket that was never versioned the active null version is all there is. -/
theorem Chain.only_null {db : Database} {object : S3Object}
    (hchain : Chain db.buckets db.objects db.objectVersions) (hobject : object ∈ db.objects)
    {bucket : S3Bucket} (hbucket : bucket ∈ db.buckets)
    (hid : bucket.id = object.bucketId)
    (hstatus : bucket.configuration.versioningStatus = .unversioned)
    {target : ObjectVersion} (htarget : target ∈ db.objectVersions)
    (htargetObject : target.objectId = object.id) (htargetActive : target.isActive)
    (htargetNull : target.isNullVersion) :
    object.currentVersionId = some target.id ∧
      ∀ version ∈ db.objectVersions, version.objectId = object.id → version.isActive →
        version.id = target.id := by
  have hnull : ∀ version ∈ db.objectVersions, version.objectId = object.id →
      version.isActive → version.externalVersionId = .null := by
    intro version hversion hversionObject hactive
    rcases hchain.versioned version hversion hactive with hnull | ⟨other, hother, hotherId, hne⟩
    · exact S3VersionId.isNull_iff.1 hnull
    · have hversionBucket := (hchain.owner_of hobject hversion hversionObject).2
      have heq : other = bucket :=
        Table.eq_of_key hother hbucket (hotherId.trans (hversionBucket.symm.trans hid.symm))
      exact absurd (heq ▸ hstatus) hne
  have honly : ∀ version ∈ db.objectVersions, version.objectId = object.id →
      version.isActive → version.id = target.id := by
    intro version hversion hversionObject hactive
    have hlabel : (entry version).label = (entry target).label :=
      (hnull version hversion hversionObject hactive).trans
        (S3VersionId.isNull_iff.1 htargetNull).symm
    have heq := (hchain.history object hobject).label_inj
      ⟨version, hversion, hversionObject, hactive, rfl⟩
      ⟨target, htarget, htargetObject, htargetActive, rfl⟩ hlabel
    exact congrArg History.Entry.ident heq
  refine ⟨?_, honly⟩
  refine (hchain.history object hobject).eq_newest (e := entry target)
    ⟨target, htarget, htargetObject, htargetActive, rfl⟩ ?_
  rintro e ⟨version, hversion, hversionObject, hactive, rfl⟩
  have heq : version = target :=
    Table.eq_of_key hversion htarget (honly version hversion hversionObject hactive)
  rw [heq]

section

variable [Md5] {licence : Licence} {db db' : Database} {command : DeleteS3ObjectCommand}
  {object : S3Object}

theorem deleteExactVersion_effect {target : ObjectVersion} {u : Unit}
    (hobject : object ∈ db.objects) (htarget : target ∈ db.listActiveVersions object.id)
    (hretires : licence.retires target.id)
    (h : (deleteExactVersion command object (db.listActiveVersions object.id) target).run db =
      .ok (u, db')) :
    Effect licence db db' := by
  obtain ⟨hmem, hid, hactive⟩ := Database.mem_listActiveVersions.1 htarget
  have hretirement := retires_retirement target command.deletedAt
  simp only [deleteExactVersion, Transaction.run_ite_ok, Transaction.run_bind_ok] at h
  rcases h with ⟨hhead, _, _, hmark, _, _, hhide, _, _, hqueue, _, _, hrestore, _, _, hmove,
    hrelease⟩ | ⟨htail, _, _, hhide, _, _, hqueue, hrelease⟩
  · obtain ⟨-, rfl⟩ := markCurrentVersionNoncurrent_ok.1 hmark
    cases hideExactDeletedVersion_ok hhide
    obtain ⟨hqueues, rfl⟩ := enqueueVersionPayload_ok hqueue
    obtain ⟨-, rfl⟩ := restoreCurrentVersion_ok.1 hrestore
    cases updateDeletedObjectHead_ok hmove
    obtain ⟨hcharge, rfl⟩ := releaseS3UsedBytes_giveBack hrelease
    let removed : VersionRemoval := {
      removal := {
        object, target
        retire := (retirement target command.deletedAt).comp
          (ObjectVersion.markNoncurrent command.deletedAt)
        next := nextCurrentVersion (db.listActiveVersions object.id) target }
      task := explicitDeleteGcTask target command }
    have hvalid : removed.Valid db := {
      removal_valid := {
        object_mem := hobject
        target_mem := hmem
        objectId_eq := hid
        active := hactive
        retires := hretirement.comp (keepsFacts_markNoncurrent _)
        superseded := fun hnull _ => superseded_retirement hnull _ _ }
      queues := hqueues
      charge := hcharge }
    have heffect : Effect licence db (removed.applyHead command.deletedAt db) :=
      .headRemoved hvalid hhead (nextCurrentVersion_valid db _) hretires
    rw [VersionRemoval.applyHead, VersionRemoval.apply, Removal.rewrite_age,
      ← Table.update_update] at heffect
    rw [hhead]
    exact heffect
  · cases hideExactDeletedVersion_ok hhide
    obtain ⟨hqueues, rfl⟩ := enqueueVersionPayload_ok hqueue
    obtain ⟨hcharge, rfl⟩ := releaseS3UsedBytes_giveBack hrelease
    let removed : VersionRemoval := {
      removal := {
        object, target
        retire := retirement target command.deletedAt
        next := none }
      task := explicitDeleteGcTask target command }
    have hvalid : removed.Valid db := {
      removal_valid := {
        object_mem := hobject
        target_mem := hmem
        objectId_eq := hid
        active := hactive
        retires := hretirement
        superseded := fun hnull _ => superseded_retirement hnull _ _ }
      queues := hqueues
      charge := hcharge }
    have heffect : Effect licence db (removed.apply db) :=
      .versionRemoved hvalid htail rfl hretires
    rw [VersionRemoval.apply, Removal.rewrite_age] at heffect
    exact heffect

/-- Clearing the head of an object whose only version goes. -/
theorem clearHead_effect {target : ObjectVersion} {reason : StorageGcReason}
    {notBefore createdAt changedAt movedAt : Time} {maxAttempts : Nat}
    {marked queued superseded moved : Database} {u : Unit}
    (hobject : object ∈ db.objects) (htarget : target ∈ db.objectVersions)
    (hid : target.objectId = object.id) (hactive : target.isActive)
    (hhead : object.currentVersionId = some target.id)
    (honly : ∀ version ∈ db.objectVersions, version.objectId = object.id → version.isActive →
      version.id = target.id)
    (hretires : licence.retires target.id)
    (hmark : (markCurrentVersionNoncurrent object changedAt).run db = .ok (u, marked))
    (hqueue : (enqueueVersionPayload
      (versionGcTask target reason notBefore maxAttempts createdAt)).run marked = .ok (u, queued))
    (hsupersede : (supersedeActiveNullVersion (some target) changedAt).run queued =
      .ok (u, superseded))
    (hmove : (updateDeletedObjectHead object none movedAt).run superseded = .ok (u, moved))
    (hrelease : (releaseS3UsedBytes target.applicationId target.sizeBytes).run moved =
      .ok (u, db')) :
    Effect licence db db' := by
  obtain ⟨-, rfl⟩ := markCurrentVersionNoncurrent_ok.1 hmark
  obtain ⟨hqueues, rfl⟩ := enqueueVersionPayload_ok hqueue
  obtain ⟨-, rfl⟩ := supersedeActiveNullVersion_ok.1 hsupersede
  cases updateDeletedObjectHead_ok hmove
  obtain ⟨hcharge, rfl⟩ := releaseS3UsedBytes_giveBack hrelease
  let removed : VersionRemoval := {
    removal := {
      object, target
      retire := (ObjectVersion.supersede changedAt).comp (ObjectVersion.markNoncurrent changedAt)
      next := none }
    task := versionGcTask target reason notBefore maxAttempts createdAt }
  have hvalid : removed.Valid db := {
    removal_valid := {
      object_mem := hobject
      target_mem := htarget
      objectId_eq := hid
      active := hactive
      retires := (retires_supersede changedAt).comp (keepsFacts_markNoncurrent _)
      superseded := fun _ _ => rfl }
    queues := hqueues
    charge := hcharge }
  have hnext : removed.removal.NextValid db := {
    none_iff := iff_of_true rfl honly
    of_some := by simp [removed] }
  have heffect : Effect licence db (removed.applyHead movedAt db) :=
    .headRemoved hvalid hhead hnext hretires
  rw [VersionRemoval.applyHead, VersionRemoval.apply, Removal.rewrite_age,
    ← Table.update_update] at heffect
  rw [hhead]
  exact heffect

theorem deleteEnabled_effect {bucket : S3Bucket} {outcome : DeleteS3ObjectOutcome}
    (hobject : object ∈ db.objects) (happlication : object.applicationId = command.applicationId)
    (hbucketId : object.bucketId = command.bucketId) (hbucket : bucket ∈ db.buckets)
    (hid : bucket.id = command.bucketId)
    (hstatus : bucket.configuration.versioningStatus = .enabled)
    (hunproposed : ∀ intent ∈ db.uploadIntents,
      intent.proposedVersionId ≠ command.deleteMarkerId)
    (hmints : licence.mints command.deleteMarkerId)
    (h : (deleteEnabled command object).run db = .ok (outcome, db')) :
    Effect licence db db' := by
  simp only [deleteEnabled, Transaction.run_bind_ok] at h
  obtain ⟨marker, _, hmarker, _, _, hmark, _, _, hinsert, _, _, hadvance, hpure⟩ := h
  obtain ⟨hfacts, -, rfl⟩ := deleteMarker_ok hmarker
  obtain ⟨-, rfl⟩ := Transaction.run_pure_ok.1 hpure
  rw [← happlication, ← hbucketId] at hfacts
  have hversioned : IsVersioned db.buckets object.bucketId :=
    ⟨bucket, hbucket, hid.trans hbucketId.symm, by simp [hstatus]⟩
  exact pushMarker_effect hobject hfacts hunproposed hmints (by simp) (Or.inr hversioned) (by simp)
    hmark (replaceNullByMarker_none _) hinsert hadvance

theorem deleteSuspended_effect {activeNull : Option ObjectVersion}
    {outcome : DeleteS3ObjectOutcome} (hobject : object ∈ db.objects)
    (happlication : object.applicationId = command.applicationId)
    (hbucketId : object.bucketId = command.bucketId)
    (hunproposed : ∀ intent ∈ db.uploadIntents,
      intent.proposedVersionId ≠ command.deleteMarkerId)
    (hmints : licence.mints command.deleteMarkerId)
    (hnull : ∀ version, activeNull = some version → version ∈ db.objectVersions ∧
      version.objectId = object.id ∧ version.isActive ∧ version.isNullVersion)
    (hretires : ∀ version, activeNull = some version → licence.retires version.id)
    (h : (deleteSuspended command object activeNull).run db = .ok (outcome, db')) :
    Effect licence db db' := by
  simp only [deleteSuspended, Transaction.run_bind_ok] at h
  obtain ⟨marker, _, hmarker, _, _, hmark, _, _, hreplace, _, _, hinsert, _, _, hadvance,
    hpure⟩ := h
  obtain ⟨hfacts, -, rfl⟩ := deleteMarker_ok hmarker
  obtain ⟨-, rfl⟩ := Transaction.run_pure_ok.1 hpure
  rw [← happlication, ← hbucketId] at hfacts
  refine pushMarker_effect hobject hfacts hunproposed hmints (fun version hversion => ?_)
    (Or.inl rfl) hretires hmark hreplace hinsert hadvance
  obtain ⟨hmem, hid, hactive, hversionNull⟩ := hnull version hversion
  exact ⟨hmem, hid, hactive, hversionNull, rfl⟩

theorem deleteUnversioned_effect {bucket : S3Bucket} {activeNull : ObjectVersion}
    {outcome : DeleteS3ObjectOutcome}
    (hchain : Chain db.buckets db.objects db.objectVersions)
    (hobject : object ∈ db.objects) (hbucketId : object.bucketId = command.bucketId)
    (hbucket : bucket ∈ db.buckets) (hid : bucket.id = command.bucketId)
    (hstatus : bucket.configuration.versioningStatus = .unversioned)
    (hnull : activeNull ∈ db.objectVersions ∧ activeNull.objectId = object.id ∧
      activeNull.isActive ∧ activeNull.isNullVersion)
    (hretires : licence.retires activeNull.id)
    (h : (deleteUnversioned command object activeNull).run db = .ok (outcome, db')) :
    Effect licence db db' := by
  obtain ⟨hmem, hnullObject, hactive, hnullVersion⟩ := hnull
  obtain ⟨hhead, honly⟩ := hchain.only_null hobject hbucket (hid.trans hbucketId.symm) hstatus
    hmem hnullObject hactive hnullVersion
  simp only [deleteUnversioned, Transaction.run_bind_ok] at h
  obtain ⟨_, _, hmark, _, _, hqueue, _, _, hsupersede, _, _, hmove, _, _, hrelease, hpure⟩ := h
  obtain ⟨-, rfl⟩ := Transaction.run_pure_ok.1 hpure
  exact clearHead_effect hobject hmem hnullObject hactive hhead honly hretires hmark hqueue
    hsupersede hmove hrelease

theorem deleteCurrent_effects {bucket : S3Bucket} {outcome : DeleteS3ObjectOutcome}
    (hchain : Chain db.buckets db.objects db.objectVersions)
    (hunproposed : ∀ intent ∈ db.uploadIntents,
      intent.proposedVersionId ≠ command.deleteMarkerId)
    (hobject : object ∈ db.objects) (happlication : object.applicationId = command.applicationId)
    (hbucketId : object.bucketId = command.bucketId) (hbucket : bucket ∈ db.buckets)
    (hid : bucket.id = command.bucketId)
    (h : (deleteCurrent command bucket.configuration.versioningStatus object
      (db.listActiveVersions object.id)).run db = .ok (outcome, db')) :
    Effects (unlockedAt db command.deletedAt command.bypassGovernance command.deleteMarkerId)
      db db' := by
  have hnull : ∀ version,
      (db.listActiveVersions object.id).find? ObjectVersion.isNullVersion = some version →
        version ∈ db.objectVersions ∧ version.objectId = object.id ∧ version.isActive ∧
          version.isNullVersion := by
    intro version hversion
    obtain ⟨hmem, hversionObject, hactive⟩ :=
      Database.mem_listActiveVersions.1 (List.mem_of_find?_eq_some hversion)
    exact ⟨hmem, hversionObject, hactive, List.find?_some hversion⟩
  unfold deleteCurrent at h
  simp only at h
  cases hstatus : bucket.configuration.versioningStatus with
  | enabled =>
      rw [hstatus] at h
      exact .single (deleteEnabled_effect hobject happlication hbucketId hbucket hid hstatus
        hunproposed rfl h)
  | suspended =>
      rw [hstatus] at h
      cases hactiveNull : (db.listActiveVersions object.id).find? ObjectVersion.isNullVersion with
      | none =>
          rw [hactiveNull] at h
          exact .single (deleteSuspended_effect hobject happlication hbucketId hunproposed rfl
            (by simp) (by simp) h)
      | some version =>
          rw [hactiveNull] at h
          cases hlock : deleteLockReasonAt version command.deletedAt command.bypassGovernance with
          | some reason =>
              simp only [Option.bind_some, hlock] at h
              cases (Transaction.run_pure_ok.1 h).2
              exact .refl db
          | none =>
              simp only [Option.bind_some, hlock] at h
              refine .single (deleteSuspended_effect hobject happlication hbucketId hunproposed rfl
                (fun other hother => ?_) (fun other hother => ?_) h)
              · cases hother
                exact hnull _ hactiveNull
              · cases hother
                exact ⟨version, (hnull _ hactiveNull).1, rfl, hlock⟩
  | unversioned =>
      rw [hstatus] at h
      cases hactiveNull : (db.listActiveVersions object.id).find? ObjectVersion.isNullVersion with
      | none =>
          rw [hactiveNull] at h
          cases (Transaction.run_pure_ok.1 h).2
          exact .refl db
      | some version =>
          rw [hactiveNull] at h
          cases hlock : deleteLockReasonAt version command.deletedAt command.bypassGovernance with
          | some reason =>
              simp only [Option.bind_some, hlock] at h
              cases (Transaction.run_pure_ok.1 h).2
              exact .refl db
          | none =>
              simp only [Option.bind_some, hlock] at h
              exact .single (deleteUnversioned_effect hchain hobject hbucketId hbucket hid
                hstatus (hnull _ hactiveNull)
                ⟨version, (hnull _ hactiveNull).1, rfl, hlock⟩ h)

/-- A delete retires nothing that a lock protects at its time. -/
theorem deleteS3Object_effects {outcome : DeleteS3ObjectOutcome}
    (hchain : Chain db.buckets db.objects db.objectVersions)
    (hunproposed : ∀ intent ∈ db.uploadIntents,
      intent.proposedVersionId ≠ command.deleteMarkerId)
    (h : (deleteS3Object command).run db = .ok (outcome, db')) :
    Effects (unlockedAt db command.deletedAt command.bypassGovernance command.deleteMarkerId)
      db db' := by
  simp only [deleteS3Object, Transaction.run_bind_ok, Transaction.run_require_ok,
    Transaction.run_query_ok, Transaction.run_orThrow_ok] at h
  obtain ⟨_, _, ⟨-, rfl⟩, _, _, ⟨hrow, rfl⟩, bucket, _, ⟨rfl, rfl⟩, row, _, ⟨hobjectRow, rfl⟩,
    h⟩ := h
  obtain ⟨hbucket, hid, -⟩ := Database.findBucket_eq_some_iff.1 hrow
  cases row with
  | none =>
      cases (Transaction.run_pure_ok.1 h).2
      exact .refl db
  | some object =>
      obtain ⟨hobject, happlication, hbucketId, -⟩ := Database.of_findObject hobjectRow
      simp only [Transaction.run_bind_ok, Transaction.run_query_ok] at h
      obtain ⟨_, _, ⟨rfl, rfl⟩, h⟩ := h
      cases hversionId : command.versionId with
      | none =>
          rw [hversionId] at h
          exact deleteCurrent_effects hchain hunproposed hobject happlication hbucketId hbucket
            hid h
      | some versionId =>
          simp only [hversionId] at h
          cases htarget : (db.listActiveVersions object.id).find?
              (·.externalVersionId = versionId) with
          | none =>
              rw [htarget] at h
              cases (Transaction.run_pure_ok.1 h).2
              exact .refl db
          | some target =>
              have hmem := List.mem_of_find?_eq_some htarget
              simp only [htarget] at h
              cases hlock : deleteLockReasonAt target command.deletedAt
                  command.bypassGovernance with
              | some reason =>
                  simp only [hlock] at h
                  cases (Transaction.run_pure_ok.1 h).2
                  exact .refl db
              | none =>
                  simp only [hlock, Transaction.run_bind_ok, Transaction.run_pure_ok] at h
                  obtain ⟨_, _, hdelete, -, rfl⟩ := h
                  exact .single (deleteExactVersion_effect hobject hmem
                    ⟨target, (Database.mem_listActiveVersions.1 hmem).1, rfl, hlock⟩ hdelete)

end

end MediaHub.Store

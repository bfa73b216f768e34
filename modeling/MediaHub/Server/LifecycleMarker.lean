import MediaHub.Server.Ledgers
import MediaHub.Server.ExpiredMarkers
import MediaHub.Store.Standing

namespace MediaHub.Server

open Relational
open MediaHub.Core
open MediaHub.Store

theorem standing_of_reachable [Md5] {s : State} (h : system.Reachable s) : Standing s.db where
  chain := (Sound.of_reachable h).chain
  rows := historyRows_of_reachable h
  exact := (cleanupSound_of_reachable h).exact
  ledger := ⟨_, (ledgerSound_of_reachable h).balanced⟩

/-- A data version that is the head of its object and under a rule that is due. -/
structure IsCurrentDue (db : Database) (command : ExecuteS3LifecycleCommand) (object : S3Object)
    (target : ObjectVersion) : Prop where
  object_mem : object ∈ db.objects
  target_mem : target ∈ db.objectVersions
  objectId_eq : target.objectId = object.id
  owner_eq : object.applicationId = command.applicationId ∧ object.bucketId = command.bucketId
  active : target.isActive
  current : object.currentVersionId = some target.id
  data : target.isDeleteMarker = false
  due : lifecycleRuleIsCurrentDue command.rule object.key target.createdAt command.evaluatedAt
  created : target.createdAt ≤ command.evaluatedAt
  target_eq : command.target =
    .expireCurrent object.id object.key target.id target.createdAt

/-- The marker that a command brings has an id and a label that nothing else has. -/
structure MintsMarker (db : Database) (command : ExecuteS3LifecycleCommand) : Prop where
  fresh : db.objectVersions.find? command.deleteMarkerId = none
  named : command.deleteMarkerVersionId.isNull = false
  unlabelled : ∀ version ∈ db.objectVersions,
    version.externalVersionId ≠ command.deleteMarkerVersionId
  attempts : command.gcMaxAttempts ≤ maxI32

section

variable {db : Database} {bucket : S3Bucket} {command : ExecuteS3LifecycleCommand}
  {object : S3Object} {target : ObjectVersion}

theorem executeS3Lifecycle_currentDue
    (hchain : Chain db.buckets db.objects db.objectVersions) (hbucket : bucket ∈ db.buckets)
    (hplanned : IsPlannedFrom bucket command) (hdue : IsCurrentDue db command object target) :
    (executeS3Lifecycle command).run db = (expireCurrentVersion command
      bucket.configuration.versioningStatus object target).run db := by
  have hlock := hplanned.lockLifecycleBucket hbucket
  have hobject : lockLifecycleObject db command object.id object.key = some object := by
    refine Option.filter_eq_some_iff.2 ⟨Table.find?_of_mem hdue.object_mem, ?_⟩
    simp [hdue.owner_eq]
  have howner := hchain.owner_of hdue.object_mem hdue.target_mem hdue.objectId_eq
  have hversion : lockActiveVersion db command object.id target.id = some target := by
    refine Option.filter_eq_some_iff.2 ⟨Table.find?_of_mem hdue.target_mem, ?_⟩
    simp [hdue.objectId_eq, ← howner.1, ← howner.2, hdue.owner_eq, hdue.active]
  simp only [executeS3Lifecycle, Transaction.run_require_bind hplanned.attempts,
    hdue.target_eq, Transaction.run_query_bind, hlock, executeCurrentExpiration, hobject,
    hdue.current, hversion, hdue.data, hdue.due, Bool.not_true, Bool.false_eq_true, or_self,
    if_false, ne_eq, not_true_eq_false]

/-- Nothing is locked in a bucket without Object Lock. -/
theorem lockReason_none {version : ObjectVersion} (deletedAt : Time) (hdb : Standing db)
    (hbucket : bucket ∈ db.buckets) (hversion : version ∈ db.objectVersions)
    (hid : version.bucketId = bucket.id) (hactive : version.isActive)
    (hstatus : bucket.configuration.versioningStatus ≠ .enabled) :
    deleteLockReasonAt version deletedAt false = none := by
  rcases (hdb.rows.rows version hversion).lockable hactive with
    hunlocked | ⟨other, hother, hotherId, hlock⟩
  · simp only [ObjectVersion.isUnlocked, Bool.and_eq_true, decide_eq_true_eq,
      Bool.not_eq_true'] at hunlocked
    simp [deleteLockReasonAt, hunlocked]
  · have heq : other = bucket := Table.eq_of_key hother hbucket (hotherId.trans hid)
    exact absurd (heq ▸ other.configuration.enabled_of_lock hlock) hstatus

theorem run_expireCurrentUnversioned (hdb : Standing db) (hattempts : command.gcMaxAttempts ≠ 0)
    (hminted : MintsMarker db command) (hdue : IsCurrentDue db command object target)
    (hnull : target.isNullVersion) :
    ∃ db', (expireCurrentUnversioned command object target).run db = .ok (.applied, db') ∧
      db'.objectVersions = (db.objectVersions.update target.id
        (ObjectVersion.markNoncurrent command.evaluatedAt)).update target.id
          (ObjectVersion.supersede command.evaluatedAt) := by
  have hrow := hdb.rows.rows target hdue.target_mem
  have hcreated : target.createdAt ≤ postgresTime command.evaluatedAt := by
    rw [← hrow.truncated]
    exact postgresTime_mono hdue.created
  let marked := db.mapObjectVersions (·.update target.id
    (ObjectVersion.markNoncurrent command.evaluatedAt))
  let queued := { marked with
    storageGcTasks := queueTasks marked.storageGcTasks (lifecycleGcTask target command).toList }
  let superseded := queued.mapObjectVersions (·.update target.id
    (ObjectVersion.supersede command.evaluatedAt))
  let moved := superseded.mapObjects (·.update object.id
    (S3Object.pointTo none command.evaluatedAt))
  have hmark : (markCurrentVersionNoncurrent object command.evaluatedAt).run db =
      .ok ((), marked) := by
    have hrun := run_markCurrentVersionNoncurrent hdb.chain hdue.object_mem hdue.target_mem
      hdue.objectId_eq hdue.active hdue.current hcreated
    rw [hdue.current] at hrun
    exact hrun
  have hqueue : (enqueueLifecycleGc target command).run marked = .ok ((), queued) :=
    run_enqueueVersionPayload ⟨hattempts, hminted.attempts⟩
      (hdb.exact.active target hdue.target_mem hdue.active)
  have hsupersede : (supersedeActiveNullVersion (some target) command.evaluatedAt).run queued =
      .ok ((), superseded) := by
    refine supersedeActiveNullVersion_ok.2 ⟨?_, rfl⟩
    rintro previous ⟨⟩
    exact ⟨ObjectVersion.markNoncurrent command.evaluatedAt target,
      Table.mem_update.2 (Or.inr ⟨target, hdue.target_mem, rfl, rfl⟩), rfl, rfl,
      ObjectVersion.supersededAt_of_active hdue.active, rfl, hnull, hcreated⟩
  have hmove : (updateDeletedObjectHead object none command.evaluatedAt).run superseded =
      .ok ((), moved) :=
    run_updateDeletedObjectHead hdue.object_mem (hdb.rows.bigint object hdue.object_mem)
  have hrelease : (releaseS3UsedBytes target.applicationId target.sizeBytes).run moved =
      .ok ((), { moved with applications := giveBack moved.applications target }) :=
    run_releaseS3UsedBytes hrow.size (hdb.canGiveBack hdue.target_mem hdue.active)
  refine ⟨{ moved with applications := giveBack moved.applications target }, ?_, rfl⟩
  rw [expireCurrentUnversioned, Transaction.run_bind_of_ok hmark,
    Transaction.run_bind_of_ok hqueue, Transaction.run_bind_of_ok hsupersede,
    Transaction.run_bind_of_ok hmove, Transaction.run_bind_of_ok hrelease]
  rfl

/-- The marker of an execution is created at midnight. -/
theorem run_lifecycleDeleteMarker (db : Database) (nullVersion : Bool)
    (hgeneration : object.generation < maxI64)
    (hnamed : command.deleteMarkerVersionId.isNull = false) :
    ∃ marker, (lifecycleDeleteMarker object nullVersion command).run db = .ok (marker, db) ∧
      marker.createdAt = lifecycleActionTime command.evaluatedAt := by
  have hchecked : checkedAddU64 object.generation 1 = some (object.generation + 1) := by
    rw [checkedAddU64, if_pos]
    have hle : maxI64 ≤ maxU64 := by decide
    omega
  have hlabel : ¬ (nullVersion ≠
      (if nullVersion then S3VersionId.null else command.deleteMarkerVersionId).isNull) := by
    cases nullVersion
    · simp [hnamed]
    · simpa using S3VersionId.isNull_iff.2 rfl
  have hcreatedBy : validCreatedBy "lifecycle" := by decide
  have hnew : ∃ marker, ObjectVersion.newDeleteMarker command.deleteMarkerId object.id
      command.applicationId command.bucketId
      (if nullVersion then .null else command.deleteMarkerVersionId) (object.generation + 1)
      nullVersion "lifecycle" (lifecycleActionTime command.evaluatedAt) = .ok marker ∧
      marker.createdAt = lifecycleActionTime command.evaluatedAt := by
    unfold ObjectVersion.newDeleteMarker
    rw [dif_pos (Nat.succ_ne_zero object.generation), if_neg hlabel, dif_pos hcreatedBy]
    exact ⟨_, rfl, rfl⟩
  obtain ⟨marker, hmarker, hcreated⟩ := hnew
  refine ⟨marker, ?_, hcreated⟩
  simp only [lifecycleDeleteMarker, hchecked, Transaction.run_bind_ok, Transaction.run_orThrow_ok,
    run_domain_ok]
  exact ⟨_, _, ⟨rfl, rfl⟩, hmarker, rfl⟩

/-- A marker of the next generation clashes with no row of a history that has no place for its
label. -/
theorem not_clashes_marker {marker row : ObjectVersion} {externalVersionId : S3VersionId}
    (hmarker : IsMarkerOf marker command.deleteMarkerId object command.applicationId
      command.bucketId externalVersionId)
    (hgeneration : row.objectId = object.id → row.generation ≤ object.generation)
    (hlabel : row.objectId = object.id → row.externalVersionId = externalVersionId →
      row.supersededAt.isSome) : ObjectVersion.clashes marker row = false := by
  have hlocator : marker.locator? = none := by
    rw [ObjectVersion.locator?, hmarker.payload_eq]
  unfold ObjectVersion.clashes
  rw [hlocator, hmarker.objectId_eq, hmarker.generation_eq, hmarker.externalVersionId_eq]
  by_cases hobject : row.objectId = object.id
  · have hle := hgeneration hobject
    by_cases hsame : row.externalVersionId = externalVersionId
    · have hsuperseded := hlabel hobject hsame
      cases hnone : row.supersededAt with
      | none =>
          rw [hnone] at hsuperseded
          cases hsuperseded
      | some supersededAt =>
          simp only [Option.any_none, Bool.false_or]
          simp
          omega
    · simp [Ne.symm hsame]
      omega
  · simp [Ne.symm hobject]

/-- The version that gives way to the marker, if any does. -/
def GivesWay (db : Database) (object : S3Object) (evaluatedAt : Time)
    (replaced : Option ObjectVersion) : Prop :=
  ∀ version, replaced = some version → version ∈ db.objectVersions ∧
    version.objectId = object.id ∧ version.isActive ∧ version.isNullVersion ∧
    version.createdAt ≤ evaluatedAt

theorem givesWay_none (object : S3Object) (evaluatedAt : Time) :
    GivesWay db object evaluatedAt none := by
  rintro version ⟨⟩

/-- The marker of an execution as the head of its object. -/
def markerPush (object : S3Object) (marker : ObjectVersion) (replaced : Option ObjectVersion)
    (evaluatedAt : Time) : Push where
  object := object
  version := ObjectVersion.persisted marker
  replaced := replaced
  markedAt := lifecycleActionTime evaluatedAt
  supersededAt := evaluatedAt
  advancedAt := lifecycleActionTime evaluatedAt

/-- What both versioned branches of an expiration do. -/
def pushLifecycleMarker (command : ExecuteS3LifecycleCommand) (object : S3Object)
    (replaced : Option ObjectVersion) (marker : ObjectVersion) :
    Transaction S3LifecycleExecutionOutcome := do
  markCurrentVersionNoncurrent object (lifecycleActionTime command.evaluatedAt)
  replaceNullByMarker replaced (lifecycleGcTask · command) command.evaluatedAt
  insertObjectVersion marker
  advanceObjectToDeleteMarker object marker (lifecycleActionTime command.evaluatedAt)
  pure .applied

theorem supersededAt_of_replaced {push : Push} {version : ObjectVersion}
    (h : push.replaced = some version) : (push.age version).supersededAt.isSome := by
  have hid : push.replaced.map (·.id) = some version.id := by rw [h]; rfl
  simp only [Push.age, Update.comp_apply, Update.only_apply, Keyed.key]
  by_cases hmarked : push.object.currentVersionId = some version.id <;>
    simp [hmarked, hid, ObjectVersion.markNoncurrent, ObjectVersion.supersede]

theorem run_replaceNullByMarker {replaced : Option ObjectVersion} {marked : Database}
    (hattempts : command.gcMaxAttempts ≠ 0 ∧ command.gcMaxAttempts ≤ maxI32)
    (hunqueued : ∀ version, replaced = some version →
      IsUnqueued marked.storageGcTasks version ∧ version.sizeBytes ≤ maxI64 ∧
        CanGiveBack marked version)
    (hsupersede : ∀ version, replaced = some version → ∃ row ∈ marked.objectVersions,
      row.id = version.id ∧ row.objectId = version.objectId ∧ row.supersededAt = none ∧
        row.becameNoncurrentAt.isSome ∧ row.isNullVersion ∧
        row.createdAt ≤ postgresTime command.evaluatedAt) :
    ∃ db', (replaceNullByMarker replaced (lifecycleGcTask · command) command.evaluatedAt).run
        marked = .ok ((), db') ∧ db'.objects = marked.objects ∧
      db'.objectVersions = marked.objectVersions.updateOption (replaced.map (·.id))
        (ObjectVersion.supersede command.evaluatedAt) := by
  cases replaced with
  | none => exact ⟨marked, rfl, rfl, rfl⟩
  | some version =>
      obtain ⟨hfree, hsize, hgive⟩ := hunqueued version rfl
      let queued := { marked with
        storageGcTasks :=
          queueTasks marked.storageGcTasks (lifecycleGcTask version command).toList }
      let superseded := queued.mapObjectVersions (·.update version.id
        (ObjectVersion.supersede command.evaluatedAt))
      have hqueue : (enqueueVersionPayload (lifecycleGcTask version command)).run marked =
          .ok ((), queued) := run_enqueueVersionPayload hattempts hfree
      have hrun : (supersedeActiveNullVersion (some version) command.evaluatedAt).run queued =
          .ok ((), superseded) := by
        refine supersedeActiveNullVersion_ok.2 ⟨?_, rfl⟩
        rintro previous ⟨⟩
        exact hsupersede version rfl
      have hrelease : (releaseS3UsedBytes version.applicationId version.sizeBytes).run
          superseded = .ok ((), { superseded with
            applications := giveBack superseded.applications version }) :=
        run_releaseS3UsedBytes hsize hgive
      refine ⟨{ superseded with applications := giveBack superseded.applications version }, ?_,
        rfl, rfl⟩
      rw [replaceNullByMarker, Transaction.run_bind_of_ok hqueue, Transaction.run_bind_of_ok hrun,
        hrelease]

/-- The version that gives way is no longer current when it is superseded. -/
theorem GivesWay.row (hdb : Standing db) (hobject : object ∈ db.objects)
    {evaluatedAt markedAt : Time}
    {replaced : Option ObjectVersion} (h : GivesWay db object evaluatedAt replaced)
    {version : ObjectVersion} (hversion : replaced = some version) :
    ∃ row ∈ db.objectVersions.updateOption object.currentVersionId
        (ObjectVersion.markNoncurrent markedAt),
      row.id = version.id ∧ row.objectId = version.objectId ∧ row.supersededAt = none ∧
        row.becameNoncurrentAt.isSome ∧ row.isNullVersion ∧
        row.createdAt ≤ postgresTime evaluatedAt := by
  obtain ⟨hmem, hid, hactive, hnull, hbefore⟩ := h version hversion
  have hcurrent := hdb.chain.current object hobject version hmem hid hactive
  have hsuperseded := ObjectVersion.supersededAt_of_active hactive
  have htime : version.createdAt ≤ postgresTime evaluatedAt := by
    rw [← (hdb.rows.rows version hmem).truncated]
    exact postgresTime_mono hbefore
  refine ⟨_, Table.mem_updateOption.2 ⟨version, hmem, rfl⟩, ?_⟩
  by_cases hhead : object.currentVersionId = some (Keyed.key version)
  · rw [if_pos hhead]
    exact ⟨rfl, rfl, hsuperseded, rfl, hnull, htime⟩
  · rw [if_neg hhead]
    refine ⟨rfl, rfl, hsuperseded, ?_, hnull, htime⟩
    exact Option.isSome_iff_ne_none.2 fun hnone => hhead (hcurrent.1 hnone)

/-- The marker finds a place on top of an aged history. -/
theorem run_insertMarker {marker : ObjectVersion} {externalVersionId : S3VersionId}
    {push : Push} {aged : Database} (hdb : Standing db) (hminted : MintsMarker db command)
    (hobject : object ∈ db.objects) (hgeneration : object.generation < maxI64)
    (hmarker : IsMarkerOf marker command.deleteMarkerId object command.applicationId
      command.bucketId externalVersionId)
    (haged : aged.objectVersions = db.objectVersions.rewrite push.age)
    (hlabel : ∀ version ∈ db.objectVersions, version.objectId = object.id →
      version.externalVersionId = externalVersionId → version.supersededAt.isSome ∨
        push.replaced = some version) :
    (insertObjectVersion marker).run aged =
      .ok ((), aged.mapObjectVersions (·.insert (ObjectVersion.persisted marker))) := by
  have hsize : marker.sizeBytes = 0 := by rw [ObjectVersion.sizeBytes, hmarker.payload_eq]
  have hstate : marker.state ≠ .staged := by
    intro hstaged
    have hactive := hmarker.active
    simp [ObjectVersion.isActive, hstaged] at hactive
  refine insertObjectVersion_ok.2 ⟨⟨?_, ?_, hstate, ?_, ?_, ?_⟩, rfl⟩
  · rw [hsize]
    exact Nat.zero_le _
  · rw [hmarker.generation_eq]
    exact hgeneration
  · simp [ObjectVersion.noncurrentTimeValid, ObjectVersion.persisted, hmarker.current]
  · rw [haged, Table.find?_rewrite, hmarker.id_eq, hminted.fresh]
    rfl
  · rw [haged]
    intro row hrow
    obtain ⟨version, hversion, rfl⟩ := Table.mem_rewrite.1 hrow
    have hfacts := push.keepsFacts_age version
    refine not_clashes_marker hmarker (fun hid => ?_) fun hid hsame => ?_
    · rw [ObjectVersion.objectId_of_facts hfacts] at hid
      rw [ObjectVersion.generation_of_facts hfacts]
      exact hdb.rows.generation_le version hversion object hobject hid
    · rw [ObjectVersion.objectId_of_facts hfacts] at hid
      rw [ObjectVersion.externalVersionId_of_facts hfacts] at hsame
      rcases hlabel version hversion hid hsame with hsuperseded | hgone
      · rw [Option.isSome_iff_ne_none] at hsuperseded ⊢
        exact fun hnone => hsuperseded ((push.supersededAt_age version).2.2 hnone)
      · exact supersededAt_of_replaced hgone

/-- A marker whose label is free goes on top of the history. -/
theorem run_pushLifecycleMarker {replaced : Option ObjectVersion} {marker : ObjectVersion}
    {externalVersionId : S3VersionId} (hdb : Standing db)
    (hattempts : command.gcMaxAttempts ≠ 0) (hminted : MintsMarker db command)
    (hdue : IsCurrentDue db command object target)
    (hcreated : target.createdAt ≤ lifecycleActionTime command.evaluatedAt)
    (hgeneration : object.generation < maxI64)
    (hmarker : IsMarkerOf marker command.deleteMarkerId object command.applicationId
      command.bucketId externalVersionId)
    (hreplaced : GivesWay db object command.evaluatedAt replaced)
    (hlabel : ∀ version ∈ db.objectVersions, version.objectId = object.id →
      version.externalVersionId = externalVersionId → version.supersededAt.isSome ∨
        replaced = some version) :
    ∃ db', (pushLifecycleMarker command object replaced marker).run db = .ok (.applied, db') ∧
      db'.objectVersions =
        (markerPush object marker replaced command.evaluatedAt).versions db.objectVersions := by
  let actionTime := lifecycleActionTime command.evaluatedAt
  let push := markerPush object marker replaced command.evaluatedAt
  let marked := db.mapObjectVersions (·.updateOption object.currentVersionId
    (ObjectVersion.markNoncurrent actionTime))
  have haction : postgresTime actionTime = actionTime := postgresTime_midnight _
  have hmark : (markCurrentVersionNoncurrent object actionTime).run db = .ok ((), marked) :=
    run_markCurrentVersionNoncurrent hdb.chain hdue.object_mem hdue.target_mem hdue.objectId_eq
      hdue.active hdue.current (by rw [haction]; exact hcreated)
  have hgives : ∀ version, replaced = some version → IsUnqueued marked.storageGcTasks version ∧
      version.sizeBytes ≤ maxI64 ∧ CanGiveBack marked version := by
    intro version hversion
    obtain ⟨hmem, -, hactive, -⟩ := hreplaced version hversion
    exact ⟨hdb.exact.active version hmem hactive, (hdb.rows.rows version hmem).size,
      hdb.canGiveBack hmem hactive⟩
  obtain ⟨replacedDb, hreplace, hobjects, hversions⟩ := run_replaceNullByMarker
    ⟨hattempts, hminted.attempts⟩ hgives fun _ => hreplaced.row hdb hdue.object_mem
  have haged : replacedDb.objectVersions = db.objectVersions.rewrite push.age := by
    rw [hversions]
    simp only [marked, Database.mapObjectVersions, Table.updateOption_eq_rewrite,
      Table.rewrite_rewrite]
    rfl
  let inserted := replacedDb.mapObjectVersions (·.insert (ObjectVersion.persisted marker))
  have hinsert : (insertObjectVersion marker).run replacedDb = .ok ((), inserted) :=
    run_insertMarker hdb hminted hdue.object_mem hgeneration hmarker haged hlabel
  let advanced := inserted.mapObjects
    (·.update object.id (S3Object.advance marker.id marker.generation actionTime))
  have hadvance : (advanceObjectToDeleteMarker object marker actionTime).run inserted =
      .ok ((), advanced) :=
    run_advanceObjectToDeleteMarker (hobjects ▸ hdue.object_mem) hmarker.generation_eq
      (by rw [hmarker.generation_eq]; exact hgeneration)
  refine ⟨advanced, ?_, ?_⟩
  · rw [pushLifecycleMarker, Transaction.run_bind_of_ok hmark,
      Transaction.run_bind_of_ok hreplace, Transaction.run_bind_of_ok hinsert,
      Transaction.run_bind_of_ok hadvance]
    rfl
  · rw [Push.versions, ← haged]
    rfl

end

end MediaHub.Server

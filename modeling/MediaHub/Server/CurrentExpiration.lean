import MediaHub.Server.LifecycleMarker

namespace MediaHub.Server

open Relational
open MediaHub.Core
open MediaHub.Store

/-- The execution is applied; the expired version does not become noncurrent before it was
created, and neither does a marker precede it. -/
def ExpiresForward (db : Database) (bucket : S3Bucket) (command : ExecuteS3LifecycleCommand)
    (target : ObjectVersion) : Prop :=
  ∃ db', (executeS3Lifecycle command).run db = .ok (.applied, db') ∧
    (∃ row ∈ db'.objectVersions, row.id = target.id ∧
      ∃ changedAt, row.becameNoncurrentAt = some changedAt ∧ target.createdAt ≤ changedAt) ∧
    (bucket.configuration.versioningStatus = .unversioned ∨
      ∃ row ∈ db'.objectVersions, row.id = command.deleteMarkerId ∧ row.isDeleteMarker ∧
        target.createdAt ≤ row.createdAt)

/-- The version is older than the midnight that the execution records, the object has a next
generation, and no replaced null version is newer than the evaluation. -/
def CanExpireForward (db : Database) (bucket : S3Bucket) (evaluatedAt : Time)
    (object : S3Object) (target : ObjectVersion) : Prop :=
  bucket.configuration.versioningStatus = .unversioned ∨
    target.createdAt ≤ lifecycleActionTime evaluatedAt ∧ object.generation < maxI64 ∧
      (bucket.configuration.versioningStatus = .suspended → ∀ other ∈ db.objectVersions,
        other.objectId = object.id → other.isActive → other.isNullVersion →
          other.createdAt ≤ evaluatedAt)

section

variable {db : Database} {bucket : S3Bucket} {command : ExecuteS3LifecycleCommand}
  {object : S3Object} {target : ObjectVersion}

theorem expiresForward_unversioned (hdb : Standing db) (hbucket : bucket ∈ db.buckets)
    (hplanned : IsPlannedFrom bucket command) (hminted : MintsMarker db command)
    (hdue : IsCurrentDue db command object target)
    (hstatus : bucket.configuration.versioningStatus = .unversioned) :
    ExpiresForward db bucket command target := by
  have howner := hdb.chain.owner_of hdue.object_mem hdue.target_mem hdue.objectId_eq
  have hbucketId : target.bucketId = bucket.id :=
    howner.2.symm.trans (hdue.owner_eq.2.trans hplanned.bucketId_eq)
  have hnull : target.isNullVersion := by
    rcases hdb.chain.versioned target hdue.target_mem hdue.active with hnull |
      ⟨other, hother, hotherId, hversioned⟩
    · exact hnull
    · have heq : other = bucket :=
        Table.eq_of_key hother hbucket (hotherId.trans hbucketId)
      exact absurd (heq ▸ hstatus) hversioned
  have hlock : deleteLockReasonAt target command.evaluatedAt false = none :=
    lockReason_none command.evaluatedAt hdb hbucket hdue.target_mem hbucketId hdue.active
      (by simp [hstatus])
  have hcreated : target.createdAt ≤ postgresTime command.evaluatedAt := by
    rw [← (hdb.rows.rows target hdue.target_mem).truncated]
    exact postgresTime_mono hdue.created
  obtain ⟨db', hrun, hversions⟩ :=
    run_expireCurrentUnversioned hdb hplanned.attempts hminted hdue hnull
  refine ⟨db', ?_, ⟨ObjectVersion.supersede command.evaluatedAt
    (ObjectVersion.markNoncurrent command.evaluatedAt target), ?_, rfl, _, rfl, hcreated⟩,
    Or.inl hstatus⟩
  · rw [executeS3Lifecycle_currentDue hdb.chain hbucket hplanned hdue, hstatus]
    simpa only [expireCurrentVersion, hnull, hlock, Bool.not_true, Bool.false_eq_true, if_false,
      Option.isSome_none] using hrun
  · rw [hversions, Table.update_update]
    exact Table.mem_update.2 (Or.inr ⟨target, hdue.target_mem, rfl, rfl⟩)

theorem expiresForward_of_push {replaced : Option ObjectVersion} {marker : ObjectVersion}
    {externalVersionId : S3VersionId} {db' : Database}
    (hminted : MintsMarker db command) (hdue : IsCurrentDue db command object target)
    (hcreated : target.createdAt ≤ lifecycleActionTime command.evaluatedAt)
    (hmarker : IsMarkerOf marker command.deleteMarkerId object command.applicationId
      command.bucketId externalVersionId)
    (hmarkerCreated : marker.createdAt = lifecycleActionTime command.evaluatedAt)
    (hrun : (executeS3Lifecycle command).run db = .ok (.applied, db'))
    (hversions : db'.objectVersions =
      (markerPush object marker replaced command.evaluatedAt).versions db.objectVersions) :
    ExpiresForward db bucket command target := by
  let push := markerPush object marker replaced command.evaluatedAt
  have hfresh : db.objectVersions.find? push.version.id = none := by
    have hid : push.version.id = command.deleteMarkerId := hmarker.id_eq
    rw [hid]
    exact hminted.fresh
  have haction : postgresTime (lifecycleActionTime command.evaluatedAt) =
      lifecycleActionTime command.evaluatedAt := postgresTime_midnight _
  have hmarked : (push.age target).becameNoncurrentAt =
      some (lifecycleActionTime command.evaluatedAt) := by
    have hcurrent : push.object.currentVersionId = some target.id := hdue.current
    rw [push.becameNoncurrentAt_age, if_pos hcurrent]
    exact congrArg some haction
  refine ⟨db', hrun, ⟨push.age target, ?_, push.id_age target, _, hmarked, hcreated⟩,
    Or.inr ⟨push.version, ?_, hmarker.id_eq, ?_, ?_⟩⟩
  · rw [hversions]
    exact (Push.mem_versions hfresh).2 (Or.inr ⟨target, hdue.target_mem, rfl⟩)
  · rw [hversions]
    exact (Push.mem_versions hfresh).2 (Or.inl rfl)
  · exact decide_eq_true hmarker.payload_eq
  · change target.createdAt ≤ postgresTime marker.createdAt
    rw [hmarkerCreated, haction]
    exact hcreated

theorem expiresForward_enabled (hdb : Standing db) (hbucket : bucket ∈ db.buckets)
    (hplanned : IsPlannedFrom bucket command) (hminted : MintsMarker db command)
    (hdue : IsCurrentDue db command object target)
    (hstatus : bucket.configuration.versioningStatus = .enabled)
    (hcreated : target.createdAt ≤ lifecycleActionTime command.evaluatedAt)
    (hgeneration : object.generation < maxI64) :
    ExpiresForward db bucket command target := by
  obtain ⟨marker, hnew, hmarkerCreated⟩ :=
    run_lifecycleDeleteMarker db false hgeneration hminted.named
  have hmarker := (lifecycleDeleteMarker_ok hnew).1
  obtain ⟨db', hpush, hversions⟩ := run_pushLifecycleMarker hdb
    hplanned.attempts hminted hdue hcreated hgeneration hmarker
    (givesWay_none object command.evaluatedAt) fun version hversion _ hsame => absurd hsame
      (hminted.unlabelled version hversion)
  refine expiresForward_of_push hminted hdue hcreated hmarker hmarkerCreated ?_ hversions
  rw [executeS3Lifecycle_currentDue hdb.chain hbucket hplanned hdue, hstatus, expireCurrentVersion,
    expireCurrentEnabled, Transaction.run_bind_of_ok hnew]
  exact hpush

/-- The null version that gives way to a null marker. -/
def activeNullVersion (db : Database) (command : ExecuteS3LifecycleCommand) (object : S3Object)
    (target : ObjectVersion) : Option ObjectVersion :=
  if target.isNullVersion then some target else lockLifecycleNullVersion db command object.id

/-- It is the only active null version of its object. -/
theorem activeNullVersion_eq_some_iff (hdb : Standing db)
    (hdue : IsCurrentDue db command object target) {version : ObjectVersion} :
    activeNullVersion db command object target = some version ↔
      version ∈ db.objectVersions ∧ version.objectId = object.id ∧ version.isActive ∧
        version.isNullVersion := by
  have hunique : ∀ a ∈ db.objectVersions, ∀ b ∈ db.objectVersions, a.objectId = object.id →
      b.objectId = object.id → a.isActive → b.isActive → a.isNullVersion → b.isNullVersion →
        a = b := by
    intro a ha b hb haObject hbObject haActive hbActive haNull hbNull
    have hlabel : (entry a).label = (entry b).label :=
      (S3VersionId.isNull_iff.1 haNull).trans (S3VersionId.isNull_iff.1 hbNull).symm
    have heq := (hdb.chain.history object hdue.object_mem).eq_of_label
      ⟨a, ha, haObject, haActive, rfl⟩ ⟨b, hb, hbObject, hbActive, rfl⟩ hlabel
    exact Table.eq_of_key ha hb (congrArg History.Entry.ident heq)
  unfold activeNullVersion
  constructor
  · intro h
    split at h
    · rename_i hnull
      cases h
      exact ⟨hdue.target_mem, hdue.objectId_eq, hdue.active, hnull⟩
    · exact lockLifecycleNullVersion_ok h
  · rintro ⟨hmem, hid, hactive, hnull⟩
    split
    · rename_i htarget
      rw [hunique version hmem target hdue.target_mem hid hdue.objectId_eq hactive hdue.active
        hnull htarget]
    · have howner := hdb.chain.owner_of hdue.object_mem hmem hid
      have hselected : (version.objectId = object.id ∧
          version.applicationId = command.applicationId ∧
          version.bucketId = command.bucketId ∧ version.isNullVersion ∧ version.isActive) :=
        ⟨hid, howner.1.symm.trans hdue.owner_eq.1, howner.2.symm.trans hdue.owner_eq.2, hnull,
          hactive⟩
      cases hfind : lockLifecycleNullVersion db command object.id with
      | none =>
          have hnone := List.find?_eq_none.1 hfind version hmem
          simp [hselected] at hnone
      | some found =>
          obtain ⟨hfoundMem, hfoundObject, hfoundActive, hfoundNull⟩ :=
            lockLifecycleNullVersion_ok hfind
          rw [hunique found hfoundMem version hmem hfoundObject hid hfoundActive hactive
            hfoundNull hnull]

theorem expiresForward_suspended (hdb : Standing db) (hbucket : bucket ∈ db.buckets)
    (hplanned : IsPlannedFrom bucket command) (hminted : MintsMarker db command)
    (hdue : IsCurrentDue db command object target)
    (hstatus : bucket.configuration.versioningStatus = .suspended)
    (hcreated : target.createdAt ≤ lifecycleActionTime command.evaluatedAt)
    (hgeneration : object.generation < maxI64)
    (hnull : ∀ other ∈ db.objectVersions, other.objectId = object.id → other.isActive →
      other.isNullVersion → other.createdAt ≤ command.evaluatedAt) :
    ExpiresForward db bucket command target := by
  obtain ⟨marker, hnew, hmarkerCreated⟩ :=
    run_lifecycleDeleteMarker db true hgeneration hminted.named
  have hmarker := (lifecycleDeleteMarker_ok hnew).1
  have hgives : GivesWay db object command.evaluatedAt
      (activeNullVersion db command object target) := by
    intro version hversion
    obtain ⟨hmem, hid, hactive, hversionNull⟩ :=
      (activeNullVersion_eq_some_iff hdb hdue).1 hversion
    exact ⟨hmem, hid, hactive, hversionNull, hnull version hmem hid hactive hversionNull⟩
  obtain ⟨db', hpush, hversions⟩ := run_pushLifecycleMarker hdb hplanned.attempts hminted hdue
    hcreated hgeneration hmarker hgives fun version hversion hid hsame => by
      rw [activeNullVersion_eq_some_iff hdb hdue, or_iff_not_imp_left]
      intro hnone
      have hversionNull : version.isNullVersion := S3VersionId.isNull_iff.2 hsame
      exact ⟨hversion, hid, (hdb.rows.rows version hversion).null_active hversionNull
        (by simpa using hnone), hversionNull⟩
  refine expiresForward_of_push hminted hdue hcreated hmarker hmarkerCreated ?_ hversions
  have hunlocked : ((activeNullVersion db command object target).bind
      (deleteLockReasonAt · command.evaluatedAt false)).isSome = false := by
    cases hactiveNull : activeNullVersion db command object target with
    | none => rfl
    | some version =>
        obtain ⟨hmem, hid, hactive, -⟩ := (activeNullVersion_eq_some_iff hdb hdue).1 hactiveNull
        have howner := hdb.chain.owner_of hdue.object_mem hmem hid
        have hreason := lockReason_none command.evaluatedAt hdb hbucket hmem
          (howner.2.symm.trans (hdue.owner_eq.2.trans hplanned.bucketId_eq)) hactive
          (by simp [hstatus])
        rw [Option.bind_some, hreason]
        rfl
  rw [executeS3Lifecycle_currentDue hdb.chain hbucket hplanned hdue, hstatus]
  simp only [expireCurrentVersion, Transaction.run_query_bind]
  rw [← activeNullVersion, if_neg (by simp [hunlocked]), expireCurrentSuspended,
    Transaction.run_bind_of_ok hnew]
  exact hpush

/-- A marker that was pushed says what its execution checked. -/
theorem pushLifecycleMarker_ok {replaced : Option ObjectVersion} {marker : ObjectVersion}
    {externalVersionId : S3VersionId} {db' : Database}
    (hdue : IsCurrentDue db command object target)
    (hmarker : IsMarkerOf marker command.deleteMarkerId object command.applicationId
      command.bucketId externalVersionId)
    (h : (pushLifecycleMarker command object replaced marker).run db = .ok (.applied, db')) :
    target.createdAt ≤ lifecycleActionTime command.evaluatedAt ∧
      object.generation < maxI64 ∧
      ∀ version ∈ db.objectVersions, replaced = some version →
        version.createdAt ≤ command.evaluatedAt := by
  simp only [pushLifecycleMarker, Transaction.run_bind_ok] at h
  obtain ⟨_, marked, hmark, _, replacedDb, hreplace, _, _, hinsert, -⟩ := h
  obtain ⟨hcurrent, rfl⟩ := markCurrentVersionNoncurrent_ok.1 hmark
  obtain ⟨⟨-, hbigint, -⟩, -⟩ := insertObjectVersion_ok.1 hinsert
  refine ⟨?_, ?_, fun version hversion hreplaced => ?_⟩
  · obtain ⟨row, hrow, hid, -, -, hcreated⟩ := hcurrent target.id hdue.current
    rw [Table.eq_of_key hrow hdue.target_mem hid] at hcreated
    exact le_trans hcreated (postgresTime_le _)
  · rw [hmarker.generation_eq] at hbigint
    exact hbigint
  · subst hreplaced
    simp only [replaceNullByMarker, Transaction.run_bind_ok] at hreplace
    obtain ⟨_, _, hqueue, _, _, hsupersede, -⟩ := hreplace
    obtain ⟨-, rfl⟩ := enqueueVersionPayload_ok hqueue
    obtain ⟨row, hrow, hid, -, -, -, -, hcreated⟩ :=
      (supersedeActiveNullVersion_ok.1 hsupersede).1 version rfl
    obtain ⟨old, hold, rfl⟩ := Table.mem_updateOption.1 hrow
    have hfacts : (if object.currentVersionId = some (Keyed.key old) then
        ObjectVersion.markNoncurrent (lifecycleActionTime command.evaluatedAt) old
        else old).facts = old.facts := by
      split <;> rfl
    have heq : old = version :=
      Table.eq_of_key hold hversion ((ObjectVersion.id_of_facts hfacts).symm.trans hid)
    have hcreatedAt := congrArg VersionFacts.createdAt hfacts
    rw [← heq]
    exact le_trans (le_of_eq hcreatedAt.symm) (le_trans hcreated (postgresTime_le _))

theorem canExpireForward_of_applied (hdb : Standing db) (hbucket : bucket ∈ db.buckets)
    (hplanned : IsPlannedFrom bucket command) (hdue : IsCurrentDue db command object target)
    {db' : Database} (h : (executeS3Lifecycle command).run db = .ok (.applied, db')) :
    CanExpireForward db bucket command.evaluatedAt object target := by
  rw [executeS3Lifecycle_currentDue hdb.chain hbucket hplanned hdue] at h
  unfold CanExpireForward
  cases hstatus : bucket.configuration.versioningStatus with
  | unversioned => exact Or.inl rfl
  | enabled =>
      rw [hstatus, expireCurrentVersion, expireCurrentEnabled, Transaction.run_bind_ok] at h
      obtain ⟨marker, _, hnew, hpush⟩ := h
      obtain ⟨hmarker, rfl⟩ := lifecycleDeleteMarker_ok hnew
      obtain ⟨hcreated, hgeneration, -⟩ :=
        @pushLifecycleMarker_ok _ _ _ _ none _ _ _ hdue hmarker hpush
      exact Or.inr ⟨hcreated, hgeneration, fun h => by cases h⟩
  | suspended =>
      rw [hstatus] at h
      simp only [expireCurrentVersion, Transaction.run_query_bind] at h
      rw [← activeNullVersion] at h
      split at h
      · cases (Transaction.run_pure_ok.1 h).1
      rw [expireCurrentSuspended, Transaction.run_bind_ok] at h
      obtain ⟨marker, _, hnew, hpush⟩ := h
      obtain ⟨hmarker, rfl⟩ := lifecycleDeleteMarker_ok hnew
      obtain ⟨hcreated, hgeneration, hnull⟩ := pushLifecycleMarker_ok hdue hmarker hpush
      refine Or.inr ⟨hcreated, hgeneration, fun _ other hother hid hactive hotherNull => ?_⟩
      exact hnull other hother ((activeNullVersion_eq_some_iff hdb hdue).2
        ⟨hother, hid, hactive, hotherNull⟩)

end

/-- The expiration of a due version is applied, and records no time before its creation, exactly
when the version is older than the midnight that it records. -/
theorem expiresForward_iff [Md5] {s : State} (h : system.Reachable s) {bucket : S3Bucket}
    (hbucket : bucket ∈ s.db.buckets) {command : ExecuteS3LifecycleCommand}
    (hplanned : IsPlannedFrom bucket command) (hminted : MintsMarker s.db command)
    {object : S3Object} {target : ObjectVersion}
    (hdue : IsCurrentDue s.db command object target) :
    ExpiresForward s.db bucket command target ↔
      CanExpireForward s.db bucket command.evaluatedAt object target := by
  have hdb := standing_of_reachable h
  constructor
  · rintro ⟨db', hrun, -⟩
    exact canExpireForward_of_applied hdb hbucket hplanned hdue hrun
  · intro hcan
    cases hstatus : bucket.configuration.versioningStatus with
    | unversioned => exact expiresForward_unversioned hdb hbucket hplanned hminted hdue hstatus
    | enabled =>
        obtain ⟨hcreated, hgeneration, -⟩ := hcan.resolve_left (by simp [hstatus])
        exact expiresForward_enabled hdb hbucket hplanned hminted hdue hstatus hcreated hgeneration
    | suspended =>
        obtain ⟨hcreated, hgeneration, hnull⟩ := hcan.resolve_left (by simp [hstatus])
        exact expiresForward_suspended hdb hbucket hplanned hminted hdue hstatus hcreated
          hgeneration (hnull hstatus)

instance (db : Database) (command : ExecuteS3LifecycleCommand) (object : S3Object)
    (target : ObjectVersion) : Decidable (IsCurrentDue db command object target) :=
  decidable_of_iff (object ∈ db.objects.rows ∧ target ∈ db.objectVersions.rows ∧
    target.objectId = object.id ∧
    (object.applicationId = command.applicationId ∧ object.bucketId = command.bucketId) ∧
    target.isActive ∧ object.currentVersionId = some target.id ∧ target.isDeleteMarker = false ∧
    lifecycleRuleIsCurrentDue command.rule object.key target.createdAt command.evaluatedAt ∧
    target.createdAt ≤ command.evaluatedAt ∧
    command.target = .expireCurrent object.id object.key target.id target.createdAt)
    ⟨fun ⟨h₁, h₂, h₃, h₄, h₅, h₆, h₇, h₈, h₉, h₁₀⟩ => ⟨h₁, h₂, h₃, h₄, h₅, h₆, h₇, h₈, h₉, h₁₀⟩,
      fun h => ⟨h.1, h.2, h.3, h.4, h.5, h.6, h.7, h.8, h.9, h.10⟩⟩

instance (db : Database) (command : ExecuteS3LifecycleCommand) :
    Decidable (MintsMarker db command) :=
  decidable_of_iff (db.objectVersions.find? command.deleteMarkerId = none ∧
    command.deleteMarkerVersionId.isNull = false ∧
    (∀ version ∈ db.objectVersions, version.externalVersionId ≠ command.deleteMarkerVersionId) ∧
    command.gcMaxAttempts ≤ maxI32)
    ⟨fun ⟨h₁, h₂, h₃, h₄⟩ => ⟨h₁, h₂, h₃, h₄⟩, fun h => ⟨h.1, h.2, h.3, h.4⟩⟩

instance (db : Database) (bucket : S3Bucket) (evaluatedAt : Time) (object : S3Object)
    (target : ObjectVersion) :
    Decidable (CanExpireForward db bucket evaluatedAt object target) := by
  unfold CanExpireForward
  infer_instance

/-- A rule whose date has passed. -/
def dateRule : S3LifecycleRule where
  id := none
  status := .enabled
  filter := .empty
  expiration := some (.date 0)
  noncurrentDays := none
  daysAfterInitiation := none

/-- A version is put in an enabled bucket under the rule. -/
def datedVersion : List Event := [
  .call (.createBucket plainBucket),
  .call (.replaceLifecycle 1 "bucket" (some ⟨[dateRule], by decide⟩) 0),
  .call (.setVersioning 1 "bucket" .enabled 500)] ++ firstPut.run

/-- The command that the service plans for the version. -/
def expireKey (evaluatedAt : Time) : ExecuteS3LifecycleCommand where
  applicationId := 1
  bucketId := 2
  expectedConfigurationRevision := 3
  rule := dateRule
  target := .expireCurrent 13 "key" 11 1000
  evaluatedAt := evaluatedAt
  deleteMarkerId := 41
  deleteMarkerVersionId := .uuid 41
  gcNotBefore := evaluatedAt
  gcMaxAttempts := 10

/-- On the next day the version expires. -/
theorem expiresForward_iff_nextDay :
    ∃ bucket ∈ (scripted datedVersion).db.buckets, ∃ target,
      ExpiresForward (scripted datedVersion).db bucket (expireKey Time.nanosPerDay) target := by
  obtain ⟨bucket, hbucket, hplanned, object, hobject, target, htarget, hdue, hcan⟩ :
      ∃ bucket ∈ (scripted datedVersion).db.buckets,
        IsPlannedFrom bucket (expireKey Time.nanosPerDay) ∧
        ∃ object ∈ (scripted datedVersion).db.objects,
        ∃ target ∈ (scripted datedVersion).db.objectVersions,
          IsCurrentDue (scripted datedVersion).db (expireKey Time.nanosPerDay) object target ∧
          CanExpireForward (scripted datedVersion).db bucket Time.nanosPerDay object target := by
    decide +kernel
  have hminted : MintsMarker (scripted datedVersion).db (expireKey Time.nanosPerDay) := by
    decide +kernel
  exact ⟨bucket, hbucket, target, (@expiresForward_iff noMd5 _ (reachable_scripted datedVersion)
    bucket hbucket _ hplanned hminted object target hdue).2 hcan⟩

/-- On the day of its creation the version is due, and its expiration ends in an error. -/
theorem not_expiresForward_sameDay :
    (@system noMd5).Reachable (scripted datedVersion) ∧
      MintsMarker (scripted datedVersion).db (expireKey 4000) ∧
      ∃ bucket ∈ (scripted datedVersion).db.buckets, IsPlannedFrom bucket (expireKey 4000) ∧
        ∃ object ∈ (scripted datedVersion).db.objects,
        ∃ target ∈ (scripted datedVersion).db.objectVersions,
          IsCurrentDue (scripted datedVersion).db (expireKey 4000) object target ∧
          ¬ ExpiresForward (scripted datedVersion).db bucket (expireKey 4000) target := by
  have hfails : ((executeS3Lifecycle (expireKey 4000)).run
      (scripted datedVersion).db).toBool = false := by
    decide +kernel
  obtain ⟨bucket, hbucket, hplanned, object, hobject, target, htarget, hdue⟩ :
      ∃ bucket ∈ (scripted datedVersion).db.buckets, IsPlannedFrom bucket (expireKey 4000) ∧
        ∃ object ∈ (scripted datedVersion).db.objects,
        ∃ target ∈ (scripted datedVersion).db.objectVersions,
          IsCurrentDue (scripted datedVersion).db (expireKey 4000) object target := by
    decide +kernel
  refine ⟨reachable_scripted datedVersion, by decide +kernel, bucket, hbucket, hplanned, object,
    hobject, target, htarget, hdue, ?_⟩
  rintro ⟨db', hrun, -⟩
  rw [hrun] at hfails
  cases hfails

end MediaHub.Server

import MediaHub.Relational.Rewrite
import MediaHub.Store.BucketConfiguration
import MediaHub.Store.VersionHistory

namespace MediaHub.Store

open Relational
open MediaHub.Core

/-- The bucket is there and its versioning is or was enabled. -/
def IsVersioned (buckets : Table S3Bucket) (bucketId : BucketId) : Prop :=
  ∃ bucket ∈ buckets, bucket.id = bucketId ∧
    bucket.configuration.versioningStatus ≠ .unversioned

theorem IsVersioned.evolve {old new : Table S3Bucket} {bucketId : BucketId}
    (h : IsVersioned old bucketId) (hevolve : BucketsEvolve old new) :
    IsVersioned new bucketId := by
  obtain ⟨bucket, hbucket, hid, hstatus⟩ := h
  obtain ⟨bucket', hbucket', hid', -, -, hchange⟩ := hevolve bucket hbucket
  exact ⟨bucket', hbucket', hid'.trans hid, hchange.versioned hstatus⟩

/-- The bucket is there and Object Lock is enabled in it. -/
def IsLockEnabled (buckets : Table S3Bucket) (bucketId : BucketId) : Prop :=
  ∃ bucket ∈ buckets, bucket.id = bucketId ∧ bucket.configuration.objectLockEnabled

theorem IsLockEnabled.evolve {old new : Table S3Bucket} {bucketId : BucketId}
    (h : IsLockEnabled old bucketId) (hevolve : BucketsEvolve old new) :
    IsLockEnabled new bucketId := by
  obtain ⟨bucket, hbucket, hid, hlock⟩ := h
  obtain ⟨bucket', hbucket', hid', -, -, hchange⟩ := hevolve bucket hbucket
  exact ⟨bucket', hbucket', hid'.trans hid, hchange.locked hlock⟩

/-- No lock column of the version is set. -/
def ObjectVersion.isUnlocked (version : ObjectVersion) : Bool :=
  version.retention = none && !version.legalHold

theorem ObjectVersion.isUnlocked_of_marker {version : ObjectVersion}
    (h : version.payload = .deleteMarker) : ObjectVersion.isUnlocked version := by
  simp [ObjectVersion.isUnlocked, version.marker_unlocked h]

/-- An update that rewrites no facts. -/
def KeepsFacts (f : Update ObjectVersion) : Prop := ∀ version, (f version).facts = version.facts

theorem keepsFacts_markNoncurrent (changedAt : Time) :
    KeepsFacts (ObjectVersion.markNoncurrent changedAt) := fun _ => rfl

theorem keepsFacts_supersede (supersededAt : Time) :
    KeepsFacts (ObjectVersion.supersede supersededAt) := fun _ => rfl

theorem keepsFacts_hide : KeepsFacts ObjectVersion.hide := fun _ => rfl

theorem keepsFacts_makeCurrent : KeepsFacts ObjectVersion.makeCurrent := fun _ => rfl

theorem KeepsFacts.comp {f g : Update ObjectVersion} (hg : KeepsFacts g) (hf : KeepsFacts f) :
    KeepsFacts (g.comp f) := fun version => (hg (f version)).trans (hf version)

theorem KeepsFacts.only {f : Update ObjectVersion} (hf : KeepsFacts f)
    (k : Option ObjectVersionId) : KeepsFacts (f.only k) := by
  intro version
  rw [Update.only_apply]
  split
  · exact hf version
  · rfl

/-- A version that becomes the head of its object, and the null version it replaces. -/
structure Push where
  object : S3Object
  version : ObjectVersion
  replaced : Option ObjectVersion
  markedAt : Time
  supersededAt : Time
  advancedAt : Time

namespace Push

/-- What happens to the older versions. -/
def age (push : Push) : Update ObjectVersion :=
  ((ObjectVersion.supersede push.supersededAt).only (push.replaced.map (·.id))).comp
    ((ObjectVersion.markNoncurrent push.markedAt).only push.object.currentVersionId)

def versions (push : Push) (old : Table ObjectVersion) : Table ObjectVersion :=
  (old.rewrite push.age).insert push.version

def objects (push : Push) (old : Table S3Object) : Table S3Object :=
  old.update push.object.id
    (S3Object.advance push.version.id push.version.generation push.advancedAt)

/-- What the statements of a push check. -/
structure Valid (push : Push) (db : Database) : Prop where
  object_mem : push.object ∈ db.objects
  objectId_eq : push.version.objectId = push.object.id
  applicationId_eq : push.version.applicationId = push.object.applicationId
  bucketId_eq : push.version.bucketId = push.object.bucketId
  generation_eq : push.version.generation = push.object.generation + 1
  active : push.version.isActive
  current : push.version.becameNoncurrentAt = none
  fresh : db.objectVersions.find? push.version.id = none
  distinct : ∀ row ∈ db.objectVersions.rewrite push.age,
    ObjectVersion.clashes push.version row = false
  replaced_mem : ∀ previous, push.replaced = some previous → previous ∈ db.objectVersions ∧
    previous.objectId = push.object.id ∧ previous.isActive ∧ previous.isNullVersion ∧
    push.version.isNullVersion
  versioned : push.version.isNullVersion ∨ IsVersioned db.buckets push.version.bucketId
  bigint : push.version.generation ≤ maxI64 ∧ push.version.sizeBytes ≤ maxI64
  truncated : postgresTime push.version.createdAt = push.version.createdAt
  lockable : ObjectVersion.isUnlocked push.version ∨
    IsLockEnabled db.buckets push.version.bucketId

theorem keepsFacts_age (push : Push) : KeepsFacts push.age :=
  ((keepsFacts_supersede _).only _).comp ((keepsFacts_markNoncurrent _).only _)

@[simp] theorem facts_age (push : Push) (version : ObjectVersion) :
    (push.age version).facts = version.facts := push.keepsFacts_age version

@[simp] theorem id_age (push : Push) (version : ObjectVersion) :
    (push.age version).id = version.id := push.age.key_apply version

/-- Only the replaced version stops being active. -/
theorem isActive_age (push : Push) (version : ObjectVersion) :
    (push.age version).isActive =
      (version.isActive && decide (push.replaced.map (·.id) ≠ some version.id)) := by
  simp only [age, Update.comp_apply, Update.only_apply, Keyed.key]
  by_cases hmarked : push.object.currentVersionId = some version.id <;>
    by_cases hreplaced : push.replaced.map (·.id) = some version.id <;>
    simp [hmarked, hreplaced, ObjectVersion.markNoncurrent, ObjectVersion.supersede,
      ObjectVersion.isActive]

theorem becameNoncurrentAt_age (push : Push) (version : ObjectVersion) :
    (push.age version).becameNoncurrentAt =
      if push.object.currentVersionId = some version.id then some (postgresTime push.markedAt)
      else version.becameNoncurrentAt := by
  simp only [age, Update.comp_apply, Update.only_apply, Keyed.key]
  by_cases hmarked : push.object.currentVersionId = some version.id <;>
    by_cases hreplaced : push.replaced.map (·.id) = some version.id <;>
    simp [hmarked, hreplaced, ObjectVersion.markNoncurrent, ObjectVersion.supersede]

theorem mem_versions {push : Push} {old : Table ObjectVersion}
    (hfresh : old.find? push.version.id = none) {row : ObjectVersion} :
    row ∈ push.versions old ↔ row = push.version ∨ ∃ version ∈ old, push.age version = row := by
  have hfresh' : (old.rewrite push.age).find? (Keyed.key push.version) = none := by
    rw [Table.find?_rewrite]
    exact Option.map_eq_none_iff.2 hfresh
  rw [versions, Table.mem_insert hfresh', Table.mem_rewrite]

theorem mem_objects {push : Push} {old : Table S3Object} (h : push.object ∈ old)
    {row : S3Object} :
    row ∈ push.objects old ↔ (row ∈ old ∧ row ≠ push.object) ∨
      row = S3Object.advance push.version.id push.version.generation push.advancedAt
        push.object :=
  Table.mem_update_of_mem h rfl

end Push

/-- An update that takes a version out of sight. -/
structure Retires (f : Update ObjectVersion) : Prop where
  keepsFacts : KeepsFacts f
  inactive : ∀ version, (f version).isActive = false

theorem retires_hide : Retires ObjectVersion.hide where
  keepsFacts := keepsFacts_hide
  inactive _ := by simp [ObjectVersion.hide, ObjectVersion.isActive]

theorem retires_supersede (supersededAt : Time) :
    Retires (ObjectVersion.supersede supersededAt) where
  keepsFacts := keepsFacts_supersede supersededAt
  inactive _ := by simp [ObjectVersion.supersede, ObjectVersion.isActive]

theorem Retires.comp {f g : Update ObjectVersion} (hg : Retires g) (hf : KeepsFacts f) :
    Retires (g.comp f) where
  keepsFacts := hg.keepsFacts.comp hf
  inactive version := hg.inactive (f version)

/-- A version that leaves its object, and the one that becomes the head instead. -/
structure Removal where
  object : S3Object
  target : ObjectVersion
  retire : Update ObjectVersion
  next : Option ObjectVersion

namespace Removal

def age (removal : Removal) : Update ObjectVersion :=
  (ObjectVersion.makeCurrent.only (removal.next.map (·.id))).comp
    (removal.retire.only (some removal.target.id))

structure Valid (removal : Removal) (db : Database) : Prop where
  object_mem : removal.object ∈ db.objects
  target_mem : removal.target ∈ db.objectVersions
  objectId_eq : removal.target.objectId = removal.object.id
  active : removal.target.isActive
  retires : Retires removal.retire
  superseded : removal.target.isNullVersion →
    ∀ version, (removal.retire version).supersededAt.isSome

/-- The next head is the newest of the other active versions. -/
structure NextValid (removal : Removal) (db : Database) : Prop where
  none_iff : removal.next = none ↔ ∀ version ∈ db.objectVersions,
    version.objectId = removal.object.id → version.isActive → version.id = removal.target.id
  of_some : ∀ version, removal.next = some version → version ∈ db.objectVersions ∧
    version.objectId = removal.object.id ∧ version.isActive ∧ version.id ≠ removal.target.id ∧
    ∀ other ∈ db.objectVersions, other.objectId = removal.object.id → other.isActive →
      other.id ≠ removal.target.id → other.generation ≤ version.generation

variable {removal : Removal}

theorem keepsFacts_age (h : Retires removal.retire) : KeepsFacts removal.age :=
  (keepsFacts_makeCurrent.only _).comp (h.keepsFacts.only _)

@[simp] theorem id_age (removal : Removal) (version : ObjectVersion) :
    (removal.age version).id = version.id := removal.age.key_apply version

/-- Only the target stops being active. -/
theorem isActive_age (h : Retires removal.retire) (version : ObjectVersion) :
    (removal.age version).isActive =
      (version.isActive && decide (version.id ≠ removal.target.id)) := by
  have hcurrent : ∀ version,
      (ObjectVersion.makeCurrent.only (removal.next.map (·.id)) version).isActive =
        ObjectVersion.isActive version := by
    intro version
    rw [Update.only_apply]
    split <;> rfl
  rw [age, Update.comp_apply, hcurrent, Update.only_apply]
  by_cases htarget : version.id = removal.target.id
  · simp [Keyed.key, htarget, h.inactive]
  · simp [Keyed.key, htarget, Ne.symm htarget]

theorem becameNoncurrentAt_age {version : ObjectVersion}
    (hne : version.id ≠ removal.target.id) :
    (removal.age version).becameNoncurrentAt =
      if removal.next.map (·.id) = some version.id then none
      else version.becameNoncurrentAt := by
  have hkeep : removal.retire.only (some removal.target.id) version = version := by
    rw [Update.only_apply, if_neg]
    exact fun h => hne (Option.some.inj h).symm
  rw [age, Update.comp_apply, hkeep, Update.only_apply]
  simp only [Keyed.key]
  split <;> rfl

end Removal

end MediaHub.Store

import MediaHub.Store.Database

namespace MediaHub.Store

open Relational
open MediaHub.Core

namespace ObjectVersion

def markNoncurrent (changedAt : Time) : Update ObjectVersion where
  apply version := { version with becameNoncurrentAt := some (postgresTime changedAt) }
  key_apply _ := rfl

def supersede (supersededAt : Time) : Update ObjectVersion where
  apply version := { version with supersededAt := some (postgresTime supersededAt) }
  key_apply _ := rfl

def hide : Update ObjectVersion where
  apply version := { version with state := .deleting }
  key_apply _ := rfl

def makeCurrent : Update ObjectVersion where
  apply version := { version with becameNoncurrentAt := none }
  key_apply _ := rfl

/-- `object_versions_noncurrent_time_check` -/
def noncurrentTimeValid (version : ObjectVersion) : Bool :=
  version.becameNoncurrentAt.all (version.createdAt ≤ ·)

/-- `object_versions_superseded_time_check` -/
def supersededTimeValid (version : ObjectVersion) : Bool :=
  version.supersededAt.all fun supersededAt =>
    version.isNullVersion && version.createdAt ≤ supersededAt

/-- The row of a new version: its times are truncated and nothing has superseded it. -/
def persisted (version : ObjectVersion) : ObjectVersion :=
  { version with
    retention := version.retention.map fun retention =>
      { retention with retainUntil := postgresTime retention.retainUntil }
    createdAt := postgresTime version.createdAt
    becameNoncurrentAt := version.becameNoncurrentAt.map postgresTime
    supersededAt := none
    marker_unlocked := fun h => by simp [(version.marker_unlocked h).1,
      (version.marker_unlocked h).2] }

/-- Two versions cannot share a storage key, nor a generation or a visible id of one object. -/
def clashes (version other : ObjectVersion) : Bool :=
  (version.locator?.any fun locator => other.locator?.any (·.key = locator.key)) ||
  (version.objectId = other.objectId &&
    (version.generation = other.generation ||
      (version.externalVersionId = other.externalVersionId && other.supersededAt = none)))

end ObjectVersion

namespace S3Object

def pointTo (current : Option ObjectVersionId) (updatedAt : Time) : Update S3Object where
  apply object :=
    { object with currentVersionId := current, updatedAt := postgresTime updatedAt }
  key_apply _ := rfl

def advance (current : ObjectVersionId) (generation : Nat) (updatedAt : Time) :
    Update S3Object where
  apply object :=
    { object with
      currentVersionId := some current, generation, updatedAt := postgresTime updatedAt }
  key_apply _ := rfl

/-- The row of a new object: it has no version yet. -/
def persisted (object : S3Object) : S3Object :=
  { object with
    currentVersionId := none
    generation := 0
    createdAt := postgresTime object.createdAt
    updatedAt := postgresTime object.updatedAt }

end S3Object

/-- `UNIQUE (bucket_id, object_key)` -/
def insertObject (object : S3Object) : Transaction Unit :=
  insertRow objectRows (S3Object.persisted object) true
    (fun other => other.bucketId = object.bucketId && other.key = object.key)
    (checkViolation "objects" "objects_object_key_check") .conflict

/-- The object's row is there: the caller has just read or inserted it. -/
def insertObjectVersion (version : ObjectVersion) : Transaction Unit := do
  asI64 version.sizeBytes
  asI64 version.generation
  insertRow versionRows (ObjectVersion.persisted version)
    (version.state ≠ .staged && ObjectVersion.noncurrentTimeValid (ObjectVersion.persisted version))
    (ObjectVersion.clashes version)
    (checkViolation "object_versions" "object_versions_noncurrent_time_check") .conflict

def markCurrentVersionNoncurrent (object : S3Object) (changedAt : Time) : Transaction Unit :=
  match object.currentVersionId with
  | none => pure ()
  | some current =>
      updateRow versionRows current
        (fun version => version.objectId = object.id && version.becameNoncurrentAt = none)
        (ObjectVersion.markNoncurrent changedAt) ObjectVersion.noncurrentTimeValid .conflict
        (checkViolation "object_versions" "object_versions_noncurrent_time_check")

/-- Only a version that is no longer current can be superseded. -/
def supersedeActiveNullVersion (activeNull : Option ObjectVersion) (supersededAt : Time) :
    Transaction Unit :=
  match activeNull with
  | none => pure ()
  | some previous =>
      updateRow versionRows previous.id
        (fun version => version.objectId = previous.objectId && version.supersededAt = none &&
          version.becameNoncurrentAt.isSome)
        (ObjectVersion.supersede supersededAt) ObjectVersion.supersededTimeValid .conflict
        (checkViolation "object_versions" "object_versions_superseded_time_check")

def hideExactDeletedVersion (version : ObjectVersion) (deletedAt : Time) : Transaction Unit :=
  if version.isNullVersion then supersedeActiveNullVersion (some version) deletedAt
  else updateRow versionRows version.id
    (fun row => row.objectId = version.objectId && row.isActive)
    ObjectVersion.hide (fun _ => true) .conflict .conflict

/-- The newest remaining version becomes current again. -/
def restoreCurrentVersion (object : S3Object) (next : Option ObjectVersion) :
    Transaction Unit :=
  match next with
  | none => pure ()
  | some next =>
      updateRow versionRows next.id (fun row => row.objectId = object.id && row.isActive)
        ObjectVersion.makeCurrent (fun _ => true) .conflict .conflict

/-- A delete moves the head within one generation. -/
def updateDeletedObjectHead (object : S3Object) (current : Option ObjectVersionId)
    (updatedAt : Time) : Transaction Unit := do
  asI64 object.generation
  updateRow objectRows object.id (·.generation = object.generation)
    (S3Object.pointTo current updatedAt) (fun _ => true) .conflict .conflict

/-- `UPDATE objects SET current_version_id, generation ... WHERE generation = expected`. -/
def advanceObject (objectId : ObjectId) (expectedGeneration : Nat) (current : ObjectVersionId)
    (generation : Nat) (updatedAt : Time) : Transaction Unit := do
  asI64 generation
  asI64 expectedGeneration
  updateRow objectRows objectId (·.generation = expectedGeneration)
    (S3Object.advance current generation updatedAt) (fun _ => true) .conflict .conflict

def advanceObjectToDeleteMarker (object : S3Object) (marker : ObjectVersion)
    (updatedAt : Time) : Transaction Unit := do
  let next ← orThrow (checkedAddU64 object.generation 1) (.invariant "object generation overflow")
  require (marker.generation = next) (.invariant "delete marker generation is inconsistent")
  advanceObject object.id object.generation marker.id next updatedAt

theorem markCurrentVersionNoncurrent_ok {object : S3Object} {changedAt : Time}
    {db db' : Database} {u : Unit} :
    (markCurrentVersionNoncurrent object changedAt).run db = .ok (u, db') ↔
      (∀ current, object.currentVersionId = some current →
        ∃ version ∈ db.objectVersions, version.id = current ∧ version.objectId = object.id ∧
          version.becameNoncurrentAt = none ∧ version.createdAt ≤ postgresTime changedAt) ∧
      db' = db.mapObjectVersions
        (·.updateOption object.currentVersionId (ObjectVersion.markNoncurrent changedAt)) := by
  unfold markCurrentVersionNoncurrent
  cases object.currentVersionId with
  | none =>
      rw [Transaction.run_pure_ok]
      exact ⟨fun ⟨_, h⟩ => ⟨by simp, h.symm⟩, fun ⟨_, h⟩ => ⟨rfl, h.symm⟩⟩
  | some current =>
      simp [ObjectVersion.noncurrentTimeValid, ObjectVersion.markNoncurrent, Keyed.key,
        and_assoc]

theorem supersedeActiveNullVersion_ok {activeNull : Option ObjectVersion}
    {supersededAt : Time} {db db' : Database} {u : Unit} :
    (supersedeActiveNullVersion activeNull supersededAt).run db = .ok (u, db') ↔
      (∀ previous, activeNull = some previous →
        ∃ version ∈ db.objectVersions, version.id = previous.id ∧
          version.objectId = previous.objectId ∧ version.supersededAt = none ∧
          version.becameNoncurrentAt.isSome ∧ version.isNullVersion ∧
          version.createdAt ≤ postgresTime supersededAt) ∧
      db' = db.mapObjectVersions (·.updateOption (activeNull.map (·.id))
        (ObjectVersion.supersede supersededAt)) := by
  unfold supersedeActiveNullVersion
  cases activeNull with
  | none =>
      rw [Transaction.run_pure_ok]
      exact ⟨fun ⟨_, h⟩ => ⟨by simp, h.symm⟩, fun ⟨_, h⟩ => ⟨rfl, h.symm⟩⟩
  | some previous =>
      simp [ObjectVersion.supersededTimeValid, ObjectVersion.supersede, Keyed.key,
        and_assoc, ObjectVersion.isNullVersion]

theorem restoreCurrentVersion_ok {object : S3Object} {next : Option ObjectVersion}
    {db db' : Database} {u : Unit} :
    (restoreCurrentVersion object next).run db = .ok (u, db') ↔
      (∀ version, next = some version → ∃ row ∈ db.objectVersions, row.id = version.id ∧
        row.objectId = object.id ∧ row.isActive) ∧
      db' = db.mapObjectVersions
        (·.updateOption (next.map (·.id)) ObjectVersion.makeCurrent) := by
  unfold restoreCurrentVersion
  cases next with
  | none =>
      rw [Transaction.run_pure_ok]
      exact ⟨fun ⟨_, h⟩ => ⟨by simp, h.symm⟩, fun ⟨_, h⟩ => ⟨rfl, h.symm⟩⟩
  | some next => simp [Keyed.key]

end MediaHub.Store

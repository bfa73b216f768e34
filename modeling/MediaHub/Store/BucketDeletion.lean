import MediaHub.Store.Chain

namespace MediaHub.Store

open Relational
open MediaHub.Core

namespace Database

/-- `SELECT EXISTS(SELECT 1 FROM objects ...) OR EXISTS(SELECT 1 FROM media ...) OR
EXISTS(SELECT 1 FROM upload_sessions ...) OR EXISTS(SELECT 1 FROM s3_multipart_uploads ...)`. -/
def hasContents (db : Database) (bucketId : BucketId) : Bool :=
  db.objects.rows.any (·.bucketId = bucketId) || db.media.rows.any (·.bucketId = bucketId) ||
    db.uploadSessions.rows.any (·.bucketId = bucketId) ||
    db.multipartUploads.rows.any (·.bucketId = bucketId)

/-- The foreign keys of the tables that are left, `s3_upload_intents` and `storage_gc_tasks`. They
name the application too, which the id of a bucket fixes. -/
def isReferenced (db : Database) (bucketId : BucketId) : Bool :=
  db.uploadIntents.rows.any (·.bucketId = bucketId) ||
    db.storageGcTasks.rows.any (·.task.provenance.bucketId = bucketId)

end Database

/-- Answers `false` where there is no such bucket. A violated foreign key is `NotFound`. -/
def deleteS3Bucket (applicationId : ApplicationId) (name : String) : Transaction Bool := do
  let row ← query fun db => db.findBucketByName applicationId name
  match row with
  | none => pure false
  | some bucket => do
      let contents ← query fun db => db.hasContents bucket.id
      require (contents = false) .conflict
      let referenced ← query fun db => db.isReferenced bucket.id
      require (referenced = false) .notFound
      write fun db => db.mapBuckets (·.delete bucket.id)
      pure true

/-- What a bucket holds: an active version, a media, or an upload that has not ended. -/
def HoldsContent (db : Database) (bucketId : BucketId) : Prop :=
  (∃ version ∈ db.objectVersions, version.bucketId = bucketId ∧ version.isActive) ∨
    (∃ media ∈ db.media, media.bucketId = bucketId) ∨
    (∃ session ∈ db.uploadSessions, session.bucketId = bucketId ∧ session.state = .pending) ∨
    ∃ upload ∈ db.multipartUploads, upload.bucketId = bucketId ∧ upload.state.isOpen

/-- No row names the bucket, not even one of something that is over. -/
structure Untouched (db : Database) (bucketId : BucketId) : Prop where
  objects : ∀ object ∈ db.objects, object.bucketId ≠ bucketId
  media : ∀ media ∈ db.media, media.bucketId ≠ bucketId
  sessions : ∀ session ∈ db.uploadSessions, session.bucketId ≠ bucketId
  uploads : ∀ upload ∈ db.multipartUploads, upload.bucketId ≠ bucketId
  intents : ∀ intent ∈ db.uploadIntents, intent.bucketId ≠ bucketId
  tasks : ∀ row ∈ db.storageGcTasks, row.task.provenance.bucketId ≠ bucketId

/-- A bucket is refused while it holds content, and is deleted alone once it holds none. -/
def DeletesWhenEmpty (db : Database) (bucket : S3Bucket) : Prop :=
  (HoldsContent db bucket.id →
      ∃ error, (deleteS3Bucket bucket.applicationId bucket.name).run db = .error error) ∧
    (¬ HoldsContent db bucket.id →
      (deleteS3Bucket bucket.applicationId bucket.name).run db =
        .ok (true, db.mapBuckets (·.delete bucket.id)))

theorem hasContents_eq_true_iff {db : Database} {bucketId : BucketId} :
    db.hasContents bucketId = true ↔
      (∃ object ∈ db.objects, object.bucketId = bucketId) ∨
        (∃ media ∈ db.media, media.bucketId = bucketId) ∨
        (∃ session ∈ db.uploadSessions, session.bucketId = bucketId) ∨
        ∃ upload ∈ db.multipartUploads, upload.bucketId = bucketId := by
  simp only [Database.hasContents, Bool.or_eq_true, List.any_eq_true, decide_eq_true_eq,
    Table.mem_def, or_assoc]

theorem isReferenced_eq_true_iff {db : Database} {bucketId : BucketId} :
    db.isReferenced bucketId = true ↔
      (∃ intent ∈ db.uploadIntents, intent.bucketId = bucketId) ∨
        ∃ row ∈ db.storageGcTasks, row.task.provenance.bucketId = bucketId := by
  simp only [Database.isReferenced, Bool.or_eq_true, List.any_eq_true, decide_eq_true_eq,
    Table.mem_def]

theorem untouched_iff {db : Database} {bucketId : BucketId} :
    Untouched db bucketId ↔
      db.hasContents bucketId = false ∧ db.isReferenced bucketId = false := by
  rw [← Bool.not_eq_true, hasContents_eq_true_iff, ← Bool.not_eq_true, isReferenced_eq_true_iff]
  constructor
  · intro h
    refine ⟨?_, ?_⟩
    · rintro (⟨row, hrow, hid⟩ | ⟨row, hrow, hid⟩ | ⟨row, hrow, hid⟩ | ⟨row, hrow, hid⟩)
      · exact h.objects row hrow hid
      · exact h.media row hrow hid
      · exact h.sessions row hrow hid
      · exact h.uploads row hrow hid
    · rintro (⟨row, hrow, hid⟩ | ⟨row, hrow, hid⟩)
      · exact h.intents row hrow hid
      · exact h.tasks row hrow hid
  · rintro ⟨hcontents, hreferenced⟩
    exact {
      objects := fun row hrow hid => hcontents (Or.inl ⟨row, hrow, hid⟩)
      media := fun row hrow hid => hcontents (Or.inr (Or.inl ⟨row, hrow, hid⟩))
      sessions := fun row hrow hid => hcontents (Or.inr (Or.inr (Or.inl ⟨row, hrow, hid⟩)))
      uploads := fun row hrow hid => hcontents (Or.inr (Or.inr (Or.inr ⟨row, hrow, hid⟩)))
      intents := fun row hrow hid => hreferenced (Or.inl ⟨row, hrow, hid⟩)
      tasks := fun row hrow hid => hreferenced (Or.inr ⟨row, hrow, hid⟩) }

section

variable {db : Database} {bucket : S3Bucket} {applicationId : ApplicationId} {name : String}

theorem run_deleteS3Bucket (h : db.findBucketByName applicationId name = some bucket) :
    (deleteS3Bucket applicationId name).run db =
      if db.hasContents bucket.id then .error .conflict
      else if db.isReferenced bucket.id then .error .notFound
      else .ok (true, db.mapBuckets (·.delete bucket.id)) := by
  rw [deleteS3Bucket, Transaction.run_query_bind, h]
  show (query (fun db : Database => db.hasContents bucket.id) >>= _).run db = _
  rw [Transaction.run_query_bind]
  cases hcontents : db.hasContents bucket.id with
  | true => rfl
  | false =>
      rw [Transaction.run_require_bind rfl, Transaction.run_query_bind]
      cases hreferenced : db.isReferenced bucket.id with
      | true => rfl
      | false => rfl

/-- A bucket that is deleted was untouched, and nothing else changes. -/
theorem deleteS3Bucket_ok {deleted : Bool} {db' : Database}
    (h : (deleteS3Bucket applicationId name).run db = .ok (deleted, db')) :
    db' = db ∨ ∃ bucket ∈ db.buckets, Untouched db bucket.id ∧
      db' = db.mapBuckets (·.delete bucket.id) := by
  cases hfind : db.findBucketByName applicationId name with
  | none =>
      rw [deleteS3Bucket, Transaction.run_query_bind, hfind] at h
      cases h
      exact Or.inl rfl
  | some bucket =>
      rw [run_deleteS3Bucket hfind] at h
      split at h
      · cases h
      · rename_i hcontents
        split at h
        · cases h
        · rename_i hreferenced
          cases h
          exact Or.inr ⟨bucket, List.mem_of_find?_eq_some hfind, untouched_iff.2
            ⟨by simpa using hcontents, by simpa using hreferenced⟩, rfl⟩

/-- An active version keeps the row of its object in the bucket. -/
theorem HoldsContent.hasContents (h : HoldsContent db bucket.id)
    (howner : ∀ version ∈ db.objectVersions, ∃ object ∈ db.objects,
      object.id = version.objectId ∧ object.applicationId = version.applicationId ∧
        object.bucketId = version.bucketId) :
    db.hasContents bucket.id = true := by
  rw [hasContents_eq_true_iff]
  rcases h with ⟨version, hmem, hbucket, -⟩ | hmedia | ⟨session, hmem, hbucket, -⟩ |
    ⟨upload, hmem, hbucket, -⟩
  · obtain ⟨object, hobject, -, -, hsame⟩ := howner version hmem
    exact Or.inl ⟨object, hobject, hsame.trans hbucket⟩
  · exact Or.inr (Or.inl hmedia)
  · exact Or.inr (Or.inr (Or.inl ⟨session, hmem, hbucket⟩))
  · exact Or.inr (Or.inr (Or.inr ⟨upload, hmem, hbucket⟩))

/-- Rows that have outlived what they stood for keep an empty bucket from being deleted. -/
theorem deletesWhenEmpty_iff
    (hfind : db.findBucketByName bucket.applicationId bucket.name = some bucket)
    (howner : ∀ version ∈ db.objectVersions, ∃ object ∈ db.objects,
      object.id = version.objectId ∧ object.applicationId = version.applicationId ∧
        object.bucketId = version.bucketId) :
    DeletesWhenEmpty db bucket ↔ HoldsContent db bucket.id ∨ Untouched db bucket.id := by
  rw [DeletesWhenEmpty, run_deleteS3Bucket hfind, untouched_iff]
  constructor
  · rintro ⟨-, hdeletes⟩
    by_cases hcontent : HoldsContent db bucket.id
    · exact Or.inl hcontent
    · have hdeleted := hdeletes hcontent
      split at hdeleted
      · cases hdeleted
      · rename_i hcontents
        split at hdeleted
        · cases hdeleted
        · rename_i hreferenced
          exact Or.inr ⟨by simpa using hcontents, by simpa using hreferenced⟩
  · intro hcondition
    refine ⟨fun hcontent => ?_, fun hempty => ?_⟩
    · rw [if_pos (hcontent.hasContents howner)]
      exact ⟨_, rfl⟩
    · obtain ⟨hcontents, hreferenced⟩ := hcondition.resolve_left hempty
      rw [hcontents, hreferenced]
      rfl

end

end MediaHub.Store

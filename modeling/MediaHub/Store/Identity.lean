import MediaHub.Store.Chain
import MediaHub.Store.Queue

namespace MediaHub.Store

open Relational
open MediaHub.Core

/-- The keys of an intent are rendered from its ids. -/
def IntentKeys (intents : Table UploadIntent) : Prop :=
  ∀ intent ∈ intents,
    intent.temporaryStorageKey = .staging intent.id intent.proposedVersionId ∧
    intent.finalStorageKey =
      .object intent.applicationId intent.bucketId intent.proposedVersionId

/-- A data version lies at the key rendered from its ids. -/
def VersionKeys (versions : Table ObjectVersion) : Prop :=
  ∀ version ∈ versions, ∀ locator, version.locator? = some locator →
    locator.key = .object version.applicationId version.bucketId version.id

theorem VersionKeys.rewrite {versions : Table ObjectVersion} {f : Update ObjectVersion}
    (h : VersionKeys versions) (hf : KeepsFacts f) : VersionKeys (versions.rewrite f) := by
  intro row hrow locator hlocator
  obtain ⟨version, hversion, rfl⟩ := Table.mem_rewrite.1 hrow
  rw [ObjectVersion.locator?_of_facts (hf version)] at hlocator
  rw [ObjectVersion.applicationId_of_facts (hf version),
    ObjectVersion.bucketId_of_facts (hf version), ObjectVersion.id_of_facts (hf version)]
  exact h version hversion locator hlocator

theorem VersionKeys.push {versions : Table ObjectVersion} {push : Push}
    (h : VersionKeys versions) (hfresh : versions.find? push.version.id = none)
    (hkey : ∀ locator, push.version.locator? = some locator →
      locator.key = .object push.version.applicationId push.version.bucketId push.version.id) :
    VersionKeys (push.versions versions) := by
  intro row hrow
  rcases (Push.mem_versions hfresh).1 hrow with rfl | ⟨version, hversion, rfl⟩
  · exact hkey
  · exact h.rewrite push.keepsFacts_age _ (Table.mem_rewrite.2 ⟨version, hversion, rfl⟩)

/-- Intents only change columns that are not facts. -/
theorem IntentKeys.update {intents : Table UploadIntent} {id : UploadIntentId}
    {f : Update UploadIntent} (h : IntentKeys intents)
    (hf : ∀ intent ∈ intents, intent.id = id → (f intent).facts = intent.facts) :
    IntentKeys (intents.update id f) := by
  intro row hrow
  rcases Table.mem_update.1 hrow with ⟨hold, -⟩ | ⟨intent, hintent, hid, rfl⟩
  · exact h row hold
  · have hfacts := hf intent hintent hid
    obtain ⟨htemporary, hfinal⟩ := h intent hintent
    have hkey := congrArg IntentFacts.temporaryStorageKey hfacts
    have hfinalKey := congrArg IntentFacts.finalStorageKey hfacts
    have hid' := congrArg IntentFacts.id hfacts
    have hproposed := congrArg IntentFacts.proposedVersionId hfacts
    have happlication := congrArg IntentFacts.applicationId hfacts
    have hbucket := congrArg IntentFacts.bucketId hfacts
    simp only [UploadIntent.facts] at hkey hfinalKey hid' hproposed happlication hbucket
    rw [hkey, hfinalKey, hid', hproposed, happlication, hbucket]
    exact ⟨htemporary, hfinal⟩

/-- A committed payload lies at the final key of its intent. -/
theorem VersionCommit.Valid.locator {commit : VersionCommit} {db : Database}
    (h : commit.Valid db) :
    commit.push.version.locator? = some commit.intent.finalLocator := by
  obtain ⟨stored, hpayload, hmatches⟩ := h.payload
  simp only [payloadMatchesIntent, Bool.and_eq_true, decide_eq_true_eq] at hmatches
  rw [ObjectVersion.locator?, hpayload]
  exact congrArg some hmatches.1.1.1.1.1.1

theorem MarkerPush.Valid.locator {marker : MarkerPush} {db : Database} (h : marker.Valid db) :
    marker.push.version.locator? = none := by
  rw [ObjectVersion.locator?, h.isMarker]

structure UploadFacts where
  uploadId : MultipartUploadId
  applicationId : ApplicationId
  bucketId : BucketId
  objectKey : String
  contentType : String
  userMetadata : UserMetadata
  storageBackend : StorageBackend

def uploadFacts (upload : S3MultipartUpload) : UploadFacts where
  uploadId := upload.uploadId
  applicationId := upload.applicationId
  bucketId := upload.bucketId
  objectKey := upload.objectKey
  contentType := upload.contentType
  userMetadata := upload.userMetadata
  storageBackend := upload.storageBackend

/-- An upload stays known under the same facts. -/
def UploadKnown (uploads : Table S3MultipartUpload) (facts : UploadFacts) : Prop :=
  ∃ upload ∈ uploads, uploadFacts upload = facts

theorem UploadKnown.update {uploads : Table S3MultipartUpload} {facts : UploadFacts}
    {id : MultipartUploadId} {f : Update S3MultipartUpload}
    (hf : ∀ upload, uploadFacts (f upload) = uploadFacts upload)
    (h : UploadKnown uploads facts) : UploadKnown (uploads.update id f) facts := by
  obtain ⟨upload, hupload, rfl⟩ := h
  by_cases hid : upload.uploadId = id
  · exact ⟨f upload, Table.mem_update.2 (Or.inr ⟨upload, hupload, hid, rfl⟩), hf upload⟩
  · exact ⟨upload, Table.mem_update.2 (Or.inl ⟨hupload, hid⟩), rfl⟩

/-- Every id of a version or of an intent's proposal is one of `ids`. -/
structure IdsWithin (ids : Uuid → Prop) (db : Database) : Prop where
  proposed : ∀ intent ∈ db.uploadIntents, ids intent.proposedVersionId
  versions : ∀ version ∈ db.objectVersions, ids version.id

theorem BucketsEvolve.trans {old mid new : Table S3Bucket} (h : BucketsEvolve old mid)
    (h' : BucketsEvolve mid new) : BucketsEvolve old new := by
  intro bucket hbucket
  obtain ⟨row, hrow, hid, happlication, hname, hevolves⟩ := h bucket hbucket
  obtain ⟨row', hrow', hid', happlication', hname', hevolves'⟩ := h' row hrow
  exact ⟨row', hrow', hid'.trans hid, happlication'.trans happlication, hname'.trans hname,
    fun hold => hevolves'.versioned (hevolves.versioned hold),
    fun hold => hevolves'.locked (hevolves.locked hold)⟩

section

variable [Md5] {licence : Licence} {db db' : Database}

theorem Effect.bucketsEvolve (h : Effect licence db db') :
    BucketsEvolve db.buckets db'.buckets := by
  cases h with
  | configured hevolve => exact hevolve
  | accounted hstep => cases hstep <;> exact BucketsEvolve.refl _
  | _ => exact BucketsEvolve.refl _

theorem Effects.bucketsEvolve (h : Effects licence db db') :
    BucketsEvolve db.buckets db'.buckets :=
  h.invariant (P := fun mid => BucketsEvolve db.buckets mid.buckets)
    (fun _ _ hmid heffect => hmid.trans heffect.bucketsEvolve) (BucketsEvolve.refl _)

theorem Effect.uploadKnown {facts : UploadFacts} (h : Effect licence db db')
    (hknown : UploadKnown db.multipartUploads facts) :
    UploadKnown db'.multipartUploads facts := by
  cases h with
  | accounted hstep => cases hstep <;> exact hknown
  | uploadCreated =>
      obtain ⟨upload, hupload, hfacts⟩ := hknown
      exact ⟨upload, Table.mem_insert_of_mem hupload, hfacts⟩
  | uploadClaimed | uploadAttached | uploadReleased | uploadAborted | uploadCompleted =>
      refine UploadKnown.update (fun _ => ?_) hknown
      rfl
  | _ => exact hknown

theorem Effects.uploadKnown {facts : UploadFacts} (h : Effects licence db db')
    (hknown : UploadKnown db.multipartUploads facts) :
    UploadKnown db'.multipartUploads facts :=
  h.invariant (P := fun db => UploadKnown db.multipartUploads facts)
    (fun _ _ hdb heffect => heffect.uploadKnown hdb) hknown

theorem Effect.intentKeys (h : Effect licence db db') (hkeys : IntentKeys db.uploadIntents) :
    IntentKeys db'.uploadIntents := by
  cases h with
  | accounted hstep => cases hstep <;> exact hkeys
  | intentCreated hnew =>
      intro row hrow
      rcases (Table.mem_insert hnew.fresh).1 hrow with rfl | hold
      · exact ⟨hnew.temporaryKey, hnew.finalKey⟩
      · exact hkeys row hold
  | intentAdvanced hmem hadvances =>
      refine hkeys.update fun row hrow hid => ?_
      rw [Table.eq_of_key hrow hmem hid]
      exact hadvances.facts_eq
  | versionCommitted | intentEnded => exact hkeys.update fun _ _ _ => rfl
  | _ => exact hkeys

theorem Effect.versionKeys (h : Effect licence db db') (hintents : IntentKeys db.uploadIntents)
    (hkeys : VersionKeys db.objectVersions) : VersionKeys db'.objectVersions := by
  cases h with
  | accounted hstep => cases hstep <;> exact hkeys
  | versionCommitted hcommit =>
      refine hkeys.push hcommit.push_valid.fresh fun locator hlocator => ?_
      rw [hcommit.locator] at hlocator
      cases hlocator
      rw [← hcommit.applicationId_eq, ← hcommit.bucketId_eq, ← hcommit.proposed]
      exact (hintents _ hcommit.intent_mem).2
  | markerPushed hmarker =>
      refine hkeys.push hmarker.push_valid.fresh fun locator hlocator => ?_
      rw [hmarker.locator] at hlocator
      cases hlocator
  | versionRemoved hremoved | headRemoved hremoved =>
      exact hkeys.rewrite (Removal.keepsFacts_age hremoved.removal_valid.retires)
  | relocked =>
      simp only [Database.mapObjectVersions, Table.update_eq_rewrite]
      exact hkeys.rewrite ((keepsFacts_relock _ _).only _)
  | _ => exact hkeys

theorem Effect.idsWithin {ids : Uuid → Prop} (h : Effect licence db db')
    (hmints : ∀ id, licence.mints id → ids id) (hids : IdsWithin ids db) :
    IdsWithin ids db' := by
  have hrewrite : ∀ f : Update ObjectVersion,
      ∀ row ∈ db.objectVersions.rewrite f, ids row.id := by
    intro f row hrow
    obtain ⟨version, hversion, rfl⟩ := Table.mem_rewrite.1 hrow
    rw [show (f version).id = version.id from f.key_apply version]
    exact hids.versions version hversion
  have hpush : ∀ push : Push, db.objectVersions.find? push.version.id = none →
      ids push.version.id → ∀ row ∈ push.versions db.objectVersions, ids row.id := by
    intro push hfresh hnew row hrow
    rcases (Push.mem_versions hfresh).1 hrow with rfl | ⟨version, hversion, rfl⟩
    · exact hnew
    · exact hrewrite push.age _ (Table.mem_rewrite.2 ⟨version, hversion, rfl⟩)
  have hupdate : ∀ (id : UploadIntentId) (f : Update UploadIntent),
      (∀ intent ∈ db.uploadIntents, intent.id = id → (f intent).facts = intent.facts) →
        ∀ row ∈ db.uploadIntents.update id f, ids row.proposedVersionId := by
    intro id f hf row hrow
    rcases Table.mem_update.1 hrow with ⟨hold, -⟩ | ⟨intent, hintent, hid, rfl⟩
    · exact hids.proposed row hold
    · have hproposed := congrArg IntentFacts.proposedVersionId (hf intent hintent hid)
      simp only [UploadIntent.facts] at hproposed
      rw [hproposed]
      exact hids.proposed intent hintent
  cases h with
  | accounted hstep => cases hstep <;> exact ⟨hids.proposed, hids.versions⟩
  | versionCommitted hcommit =>
      refine ⟨hupdate _ _ fun _ _ _ => rfl, hpush _ hcommit.push_valid.fresh ?_⟩
      rw [← hcommit.proposed]
      exact hids.proposed _ hcommit.intent_mem
  | markerPushed hmarker hmarkerId =>
      exact ⟨hids.proposed, hpush _ hmarker.push_valid.fresh (hmints _ hmarkerId)⟩
  | versionRemoved | headRemoved => exact ⟨hids.proposed, hrewrite _⟩
  | relocked =>
      refine ⟨hids.proposed, ?_⟩
      simp only [Database.mapObjectVersions, Table.update_eq_rewrite]
      exact hrewrite _
  | intentCreated hnew hproposedId =>
      refine ⟨fun row hrow => ?_, hids.versions⟩
      rcases (Table.mem_insert hnew.fresh).1 hrow with rfl | hold
      · exact hmints _ hproposedId
      · exact hids.proposed row hold
  | intentAdvanced hmem hadvances =>
      refine ⟨hupdate _ _ fun row hrow hid => ?_, hids.versions⟩
      rw [Table.eq_of_key hrow hmem hid]
      exact hadvances.facts_eq
  | intentEnded => exact ⟨hupdate _ _ fun _ _ _ => rfl, hids.versions⟩
  | _ => exact ⟨hids.proposed, hids.versions⟩

theorem Effects.idsWithin {ids : Uuid → Prop} (h : Effects licence db db')
    (hmints : ∀ id, licence.mints id → ids id) (hids : IdsWithin ids db) : IdsWithin ids db' :=
  h.invariant (P := IdsWithin ids) (fun _ _ hdb heffect => heffect.idsWithin hmints hdb) hids

end

end MediaHub.Store

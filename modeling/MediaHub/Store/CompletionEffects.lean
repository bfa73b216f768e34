import MediaHub.Store.CommitEffects

namespace MediaHub.Store

open Relational
open MediaHub.Core

theorem mem_listParts {db : Database} {uploadId : MultipartUploadId} {part : S3MultipartPart} :
    part ∈ db.listParts uploadId ↔ part ∈ db.multipartParts ∧ part.uploadId = uploadId := by
  simp [Database.listParts, List.mem_insertionSort, Table.mem_def]

theorem intentIdentityMatches_ok {upload : S3MultipartUpload} {intent : UploadIntent}
    (h : intentIdentityMatches upload intent) :
    intent.applicationId = upload.applicationId ∧ intent.bucketId = upload.bucketId ∧
      intent.storageBackend = upload.storageBackend := by
  simp only [intentIdentityMatches, Bool.and_eq_true, decide_eq_true_eq] at h
  exact ⟨h.1.1.1.1.1, h.1.1.1.1.2, h.1.1.2⟩

/-- The attached intent is read and belongs to the upload. -/
theorem lockAttachedUploadIntent_ok {upload : S3MultipartUpload} {intent : Option UploadIntent}
    {db db' : Database} (h : (lockAttachedUploadIntent upload).run db = .ok (intent, db')) :
    db = db' ∧ intent.map (·.id) = upload.uploadIntentId ∧
      ∀ row, intent = some row → row ∈ db.uploadIntents ∧ row.fromPersistence = .ok row ∧
        intentIdentityMatches upload row := by
  unfold lockAttachedUploadIntent at h
  cases hid : upload.uploadIntentId with
  | none =>
      rw [hid] at h
      obtain ⟨rfl, rfl⟩ := Transaction.run_pure_ok.1 h
      exact ⟨rfl, rfl, by simp⟩
  | some intentId =>
      simp only [hid, validateIntentIdentity, Transaction.run_bind_ok, lockUploadIntent_ok,
        Transaction.run_require_ok, Transaction.run_pure_ok] at h
      obtain ⟨row, _, ⟨⟨hrow, rfl, hconsistent⟩, rfl⟩, _, _, ⟨hidentity, rfl⟩, rfl, rfl⟩ := h
      refine ⟨rfl, rfl, fun other hother => ?_⟩
      cases hother
      exact ⟨hrow, hconsistent, hidentity⟩

theorem enqueueMultipartStorageKeys_ok {upload : S3MultipartUpload}
    {intentId : Option UploadIntentId} {keys : List StorageKey} {now : Time}
    {db db' : Database} {u : Unit}
    (h : (enqueueMultipartStorageKeys upload intentId keys now).run db = .ok (u, db')) :
    AllAdmitted db.storageGcTasks (keys.map (multipartGcTask upload intentId · now)) ∧
      db' = { db with
        storageGcTasks := queueTasks db.storageGcTasks
          (keys.map (multipartGcTask upload intentId · now)) } :=
  run_forEach_insertStorageGcTask h

@[simp] theorem lockUpload_ok {uploadId : MultipartUploadId} {upload : S3MultipartUpload}
    {db db' : Database} :
    (lockUpload uploadId).run db = .ok (upload, db') ↔
      (upload ∈ db.multipartUploads ∧ upload.uploadId = uploadId) ∧ db = db' :=
  Transaction.run_selectRow_ok

section

variable [Md5] {licence : Licence} {db db' : Database}

theorem createMultipartUpload_effect {upload : NewS3MultipartUpload} {row : S3MultipartUpload}
    (h : (createMultipartUpload upload).run db = .ok (row, db')) : Effect licence db db' := by
  simp only [createMultipartUpload, NewS3MultipartUpload.validate, Transaction.run_bind_ok,
    Transaction.run_require_ok, Transaction.run_query_ok, lockS3QuotaBucket_ok,
    Transaction.run_insertRow_ok, Transaction.run_pure_ok] at h
  obtain ⟨_, _, ⟨_, _, ⟨-, rfl⟩, -, rfl⟩, _, _, ⟨hbucket, rfl⟩, _, _, ⟨-, rfl⟩, _, _, ⟨-, rfl⟩, _,
    _, ⟨-, rfl⟩, _, _, ⟨-, rfl⟩, _, _, ⟨-, hfresh, -, rfl⟩, -, rfl⟩ := h
  obtain ⟨bucket, hrow⟩ := Option.isSome_iff_exists.1 hbucket
  exact .uploadCreated hfresh rfl rfl ⟨bucket, Database.findBucket_eq_some_iff.1 hrow⟩

/-- The attached intent ends, and the upload and the parts are left alone. -/
theorem abortAttachedIntent_effect {upload : S3MultipartUpload} {intent : UploadIntent}
    {completionToken : Option String} {now : Time} {u : Unit}
    (hmem : intent ∈ db.uploadIntents) (hconsistent : intent.fromPersistence = .ok intent)
    (h : (abortAttachedIntent upload intent completionToken now).run db = .ok (u, db')) :
    Effect licence db db' ∧ (∃ row ∈ db'.uploadIntents, row.id = intent.id ∧
      row.state.isLive = false) ∧ db'.multipartUploads = db.multipartUploads ∧
      db'.multipartParts = db.multipartParts := by
  simp only [abortAttachedIntent, validateIntentIdentity, Transaction.run_bind_ok,
    Transaction.run_require_ok, lockS3QuotaBucket_ok, Transaction.run_ite_ok,
    Transaction.run_updateRow_ok, Transaction.run_pure_ok] at h
  obtain ⟨_, _, ⟨hidentity, rfl⟩, _, _, ⟨hstate, rfl⟩, _, _, ⟨-, rfl⟩, _, _, ⟨-, rfl⟩, _, _,
    ⟨-, rfl⟩, _, _, hqueue, hend⟩ := h
  obtain ⟨hadmitted, rfl⟩ := enqueueMultipartStorageKeys_ok hqueue
  obtain ⟨happlication, hbucket, hbackend⟩ := intentIdentityMatches_ok hidentity
  have hqueues : QueuesIntent db.storageGcTasks intent
      ([intent.temporaryStorageKey, intent.finalStorageKey].map
        (multipartGcTask upload (some intent.id) · now)) := by
    refine ⟨?_, ?_, hadmitted⟩
    · simp [multipartGcTask, UploadIntent.temporaryLocator, UploadIntent.finalLocator, hbackend]
    · intro task htask
      obtain ⟨key, -, rfl⟩ := List.mem_map.1 htask
      exact ⟨happlication.symm, hbucket.symm, rfl, rfl, Or.inr rfl⟩
  rcases hend with ⟨hlive, _, _, ⟨-, rfl⟩, hrelease⟩ | ⟨hended, -, rfl⟩
  · obtain ⟨hcharge, rfl⟩ := releaseS3UploadIntentQuota_ok hrelease
    let ended : IntentEnd := ⟨intent, .aborted, postgresTime now,
      [intent.temporaryStorageKey, intent.finalStorageKey].map
        (multipartGcTask upload (some intent.id) · now)⟩
    have hvalid : ended.Valid db := {
      intent_mem := hmem
      consistent := hconsistent
      live := hlive
      terminal := Or.inl rfl
      queues := hqueues
      charge := hcharge }
    exact ⟨.intentEnded hvalid,
      ⟨_, (Table.mem_update_of_mem hmem rfl).2 (Or.inr rfl), rfl, rfl⟩, rfl, rfl⟩
  · have hnotLive : intent.state.isLive = false := by simpa using hended
    exact ⟨.intentRequeued hmem (isLive_eq_false hnotLive hstate) hqueues,
      ⟨intent, hmem, rfl, hnotLive⟩, rfl, rfl⟩

theorem abortLockedAttachedIntent_effects {upload : S3MultipartUpload}
    {lockedIntent : Option UploadIntent} {completionToken : Option String} {now : Time} {u : Unit}
    (hid : lockedIntent.map (·.id) = upload.uploadIntentId)
    (hlocked : ∀ row, lockedIntent = some row → row ∈ db.uploadIntents ∧
      row.fromPersistence = .ok row ∧ intentIdentityMatches upload row)
    (h : (abortLockedAttachedIntent upload lockedIntent completionToken now).run db =
      .ok (u, db')) :
    Effects licence db db' ∧ AttachedEnded db' upload ∧
      db'.multipartUploads = db.multipartUploads ∧ db'.multipartParts = db.multipartParts := by
  unfold abortLockedAttachedIntent at h
  cases lockedIntent with
  | none =>
      rw [← hid] at h
      cases (Transaction.run_pure_ok.1 h).2
      refine ⟨.refl _, fun intent _ hattached => ?_, rfl, rfl⟩
      rw [← hid] at hattached
      cases hattached
  | some intent =>
      obtain ⟨hmem, hconsistent, -⟩ := hlocked intent rfl
      rw [← hid] at h
      simp only [Option.map_some, if_true] at h
      obtain ⟨heffect, ⟨row, hrow, hrowId, hended⟩, huploads, hparts⟩ :=
        abortAttachedIntent_effect hmem hconsistent h
      refine ⟨.single heffect, fun other hother hattached => ?_, huploads, hparts⟩
      rw [← hid] at hattached
      have heq : other = row := Table.eq_of_key hother hrow
        ((Option.some.inj hattached).symm.trans hrowId.symm)
      rw [heq]
      exact hended

/-- Ending an upload ends its intent, then the upload, and gives up its parts. -/
theorem abortUploadWithLockedIntent_effects {upload : S3MultipartUpload}
    {lockedIntent : Option UploadIntent} {completionToken : Option String} {now : Time} {u : Unit}
    (hupload : upload ∈ db.multipartUploads)
    (hid : lockedIntent.map (·.id) = upload.uploadIntentId)
    (hlocked : ∀ row, lockedIntent = some row → row ∈ db.uploadIntents ∧
      row.fromPersistence = .ok row ∧ intentIdentityMatches upload row)
    (h : (abortUploadAndEnqueueCleanupWithLockedIntent upload lockedIntent completionToken
      now).run db = .ok (u, db')) :
    Effects licence db db' ∧
      db'.multipartUploads = db.multipartUploads.update upload.uploadId
        (S3MultipartUpload.abort (postgresTime now)) := by
  simp only [abortUploadAndEnqueueCleanupWithLockedIntent, markAborted,
    Transaction.run_bind_ok, Transaction.run_require_ok, Transaction.run_query_ok,
    Transaction.run_updateRow_ok] at h
  obtain ⟨_, _, ⟨hopen, rfl⟩, _, mid, hintent, _, _, ⟨rfl, rfl⟩, _, _, hqueue, -, rfl⟩ := h
  obtain ⟨heffects, hended, huploads, hmidParts⟩ :=
    abortLockedAttachedIntent_effects hid hlocked hintent
  obtain ⟨hadmitted, rfl⟩ := enqueueMultipartStorageKeys_ok hqueue
  have hmid : upload ∈ mid.multipartUploads := huploads ▸ hupload
  let aborted : Database := mid.mapMultipartUploads (·.update upload.uploadId
    (S3MultipartUpload.abort (postgresTime now)))
  have habort : Effect licence mid aborted := .uploadAborted hmid hopen hended
  have hrow : S3MultipartUpload.abort (postgresTime now) upload ∈ aborted.multipartUploads :=
    (Table.mem_update_of_mem hmid rfl).2 (Or.inr rfl)
  have hkeys : ∀ key ∈ (mid.listParts upload.uploadId).map (·.storageKey),
      Droppable licence aborted (S3MultipartUpload.abort (postgresTime now) upload) none key := by
    intro key hkey
    obtain ⟨part, hpart, rfl⟩ := List.mem_map.1 hkey
    obtain ⟨hmem, hpartUpload⟩ := mem_listParts.1 hpart
    exact .closed rfl hmem hpartUpload
  have hqueued : Effect licence aborted { aborted with
      storageGcTasks := queueTasks aborted.storageGcTasks
        (((mid.listParts upload.uploadId).map (·.storageKey)).map
          (multipartGcTask (S3MultipartUpload.abort (postgresTime now) upload) none · now)) } :=
    .keysQueued hrow hkeys hadmitted
  refine ⟨(heffects.tail habort).tail hqueued, ?_⟩
  change mid.multipartUploads.update _ _ = _
  rw [huploads]

theorem abortUploadAndEnqueueCleanup_effects {upload : S3MultipartUpload}
    {completionToken : Option String} {now : Time} {u : Unit}
    (hupload : upload ∈ db.multipartUploads)
    (h : (abortUploadAndEnqueueCleanup upload completionToken now).run db = .ok (u, db')) :
    Effects licence db db' := by
  simp only [abortUploadAndEnqueueCleanup, Transaction.run_bind_ok] at h
  obtain ⟨_, _, hlock, h⟩ := h
  obtain ⟨rfl, hid, hlocked⟩ := lockAttachedUploadIntent_ok hlock
  exact (abortUploadWithLockedIntent_effects hupload hid hlocked h).1

theorem abortMultipartUpload_effects {uploadId : MultipartUploadId} {now : Time}
    {outcome : S3MultipartAbort}
    (h : (abortMultipartUpload uploadId now).run db = .ok (outcome, db')) :
    Effects licence db db' := by
  simp only [abortMultipartUpload, Transaction.run_bind_ok, lockUpload_ok] at h
  obtain ⟨upload, _, ⟨⟨hupload, -⟩, rfl⟩, h⟩ := h
  cases hstate : upload.state with
  | pending =>
      simp only [hstate, Transaction.run_bind_ok, lockUpload_ok, Transaction.run_pure_ok] at h
      obtain ⟨_, _, habort, _, _, ⟨-, rfl⟩, -, rfl⟩ := h
      exact abortUploadAndEnqueueCleanup_effects hupload habort
  | completing | completed | aborted =>
      simp only [hstate, Transaction.run_pure_ok] at h
      cases h.2
      exact .refl _

theorem expireMultipartUploads_effects {now : Time} {limit : Nat}
    {expired : List S3MultipartUpload}
    (h : (expireMultipartUploads now limit).run db = .ok (expired, db')) :
    Effects licence db db' := by
  simp only [expireMultipartUploads, Transaction.run_bind_ok, Transaction.run_require_ok,
    Transaction.run_query_ok] at h
  obtain ⟨_, _, ⟨-, rfl⟩, _, _, ⟨-, rfl⟩, _, _, hexpire, -, rfl⟩ := h
  refine Transaction.forEach_invariant (P := Effects licence db) ?_ (.refl db) hexpire
  intro uploadId _ mid mid' hmid hbody
  simp only [expireMultipartUpload, Transaction.run_bind_ok, lockUpload_ok] at hbody
  obtain ⟨upload, _, ⟨⟨hupload, -⟩, rfl⟩, habort⟩ := hbody
  exact hmid.trans (abortUploadAndEnqueueCleanup_effects hupload habort)

end

/-- A key that was rendered for one part and that nothing knows yet. -/
structure FreshPartKey (db : Database) (uploadId : MultipartUploadId)
    (part : NewS3MultipartPart) : Prop where
  key_eq : ∃ nonce, part.storageKey = .part uploadId part.partNumber nonce
  unnamed : ∀ row ∈ db.multipartParts, row.storageKey ≠ part.storageKey
  unqueued : ∀ backend, queuedOwner db.storageGcTasks ⟨backend, part.storageKey⟩ = none

/-- A stored part is a new row or takes the place of an older one. -/
theorem upsertPart_ok {uploadId : MultipartUploadId} {part : NewS3MultipartPart} {now : Time}
    {stored : S3MultipartPart} {db db' : Database}
    (h : (upsertPart uploadId part now).run db = .ok (stored, db')) :
    (db.multipartParts.find? (uploadId, part.partNumber) = none ∧
      db' = db.mapMultipartParts (·.insert (partRow uploadId part now now))) ∨
    ((db.multipartParts.find? (uploadId, part.partNumber)).isSome ∧
      db' = db.mapMultipartParts
        (·.update (uploadId, part.partNumber) (replacePart uploadId part now))) := by
  simp only [upsertPart, Transaction.run_bind_ok, Transaction.run_require_ok,
    Transaction.run_query_ok] at h
  obtain ⟨_, _, ⟨-, rfl⟩, _, _, ⟨-, rfl⟩, _, _, ⟨hprevious, rfl⟩, h⟩ := h
  cases hfind : db.multipartParts.find? (uploadId, part.partNumber) with
  | none =>
      rw [hfind] at hprevious
      subst hprevious
      simp only [Transaction.run_bind_ok, Transaction.run_write_ok,
        Transaction.run_selectRow_ok] at h
      obtain ⟨_, _, rfl, -, rfl⟩ := h
      exact Or.inl ⟨rfl, rfl⟩
  | some previous =>
      rw [hfind] at hprevious
      subst hprevious
      simp only [Transaction.run_bind_ok, Transaction.run_write_ok,
        Transaction.run_selectRow_ok] at h
      obtain ⟨_, _, rfl, -, rfl⟩ := h
      exact Or.inr ⟨rfl, rfl⟩

/-- A part that was stored has a row. -/
theorem putMultipartPart_stored {uploadId : MultipartUploadId} {part : NewS3MultipartPart}
    {maximumUploadSize : Nat} {now : Time} {stored : S3MultipartPart} {db db' : Database}
    (h : (putMultipartPart uploadId part maximumUploadSize now).run db =
      .ok (.stored stored, db')) :
    ∃ row ∈ db'.multipartParts, row.storageKey = part.storageKey := by
  have hupsert : ∀ {mid : Database} {row : S3MultipartPart},
      (upsertPart uploadId part (postgresTime now)).run mid = .ok (row, db') →
      ∃ row ∈ db'.multipartParts, row.storageKey = part.storageKey := by
    intro mid row hrun
    rcases upsertPart_ok hrun with ⟨hfresh, rfl⟩ | ⟨hsome, rfl⟩
    · exact ⟨_, (Table.mem_insert hfresh).2 (Or.inl rfl), rfl⟩
    · obtain ⟨previous, hprevious⟩ := Option.isSome_iff_exists.1 hsome
      obtain ⟨hmem, hkey⟩ := Table.find?_eq_some_iff.1 hprevious
      have hid : previous.uploadId = uploadId ∧ previous.partNumber = part.partNumber := by
        simpa [Keyed.key] using hkey
      refine ⟨_, Table.mem_update.2 (Or.inr ⟨previous, hmem, hkey, rfl⟩), ?_⟩
      simp [replacePart, partRow, hid]
  simp only [putMultipartPart, Transaction.run_bind_ok, Transaction.run_ite_ok,
    Transaction.run_pure_ok] at h
  obtain ⟨_, _, -, _, _, -, upload, _, -, ⟨-, hput, -⟩ | ⟨-, ⟨-, _, _, -, _, _, -, hput, -⟩ |
    ⟨-, h⟩⟩⟩ := h
  · cases hput
  · cases hput
  obtain ⟨previous, _, -, _, _, -, _, _, -, _, _, -, _, _, -, h⟩ := h
  cases previous with
  | none =>
      simp only [Transaction.run_bind_ok, Transaction.run_pure_ok] at h
      obtain ⟨_, _, hrun, -, rfl⟩ := h
      exact hupsert hrun
  | some previous =>
      simp only [Transaction.run_bind_ok, Transaction.run_ite_ok, Transaction.run_pure_ok] at h
      rcases h with ⟨-, _, _, -, _, _, hrun, -, rfl⟩ | ⟨-, _, _, hrun, -, rfl⟩ <;>
        exact hupsert hrun

section

variable [Md5] {licence : Licence} {db db' : Database}

theorem putMultipartPart_effects {uploadId : MultipartUploadId} {part : NewS3MultipartPart}
    {maximumUploadSize : Nat} {now : Time} {outcome : S3MultipartPartPut}
    (hkey : FreshPartKey db uploadId part)
    (hstores : licence.stores part.storageKey)
    (h : (putMultipartPart uploadId part maximumUploadSize now).run db = .ok (outcome, db')) :
    Effects licence db db' := by
  simp only [putMultipartPart, validateNewPart, asI64, Transaction.run_bind_ok,
    Transaction.run_require_ok, lockUpload_ok, Transaction.run_ite_ok, Transaction.run_query_ok,
    Transaction.run_pure_ok] at h
  obtain ⟨_, _, ⟨_, _, ⟨-, rfl⟩, _, _, ⟨-, rfl⟩, -, rfl⟩, _, _, ⟨-, rfl⟩, upload, _,
    ⟨⟨hupload, rfl⟩, rfl⟩, h⟩ := h
  rcases h with ⟨-, -, rfl⟩ | ⟨hpending, ⟨-, _, _, habort, _, _, ⟨-, rfl⟩, -, rfl⟩ | ⟨-, h⟩⟩
  · exact .refl _
  · exact abortUploadAndEnqueueCleanup_effects hupload habort
  · obtain ⟨previous, _, ⟨hprevious, rfl⟩, _, _, ⟨-, rfl⟩, _, _, ⟨-, rfl⟩, _, _, ⟨-, rfl⟩, _, _,
      ⟨-, rfl⟩, h⟩ := h
    have hnew : NewPartValid upload part db := {
      upload_mem := hupload
      pending := by simpa using hpending
      key_eq := hkey.key_eq
      unnamed := hkey.unnamed
      unqueued := hkey.unqueued }
    cases previous with
    | none =>
        simp only [Transaction.run_bind_ok, Transaction.run_pure_ok] at h
        obtain ⟨_, _, hstored, -, rfl⟩ := h
        rcases upsertPart_ok hstored with ⟨hfresh, rfl⟩ | ⟨hsome, -⟩
        · exact .single (.partStored hnew hstores hfresh)
        · rw [hprevious] at hsome
          cases hsome
    | some previous =>
        obtain ⟨hmem, hid⟩ := Table.find?_eq_some_iff.1 hprevious
        have hne : previous.storageKey ≠ part.storageKey := hkey.unnamed previous hmem
        simp only [hne, ne_eq, not_false_eq_true, if_true, Transaction.run_bind_ok,
          Transaction.run_pure_ok] at h
        obtain ⟨_, _, hqueue, _, _, hstored, -, rfl⟩ := h
        obtain ⟨⟨hadmits, -⟩, rfl⟩ := enqueueMultipartStorageKeys_ok hqueue
        rcases upsertPart_ok hstored with ⟨hnone, -⟩ | ⟨-, rfl⟩
        · change db.multipartParts.find? _ = none at hnone
          rw [hprevious] at hnone
          cases hnone
        · exact .single (.partReplaced hnew hstores hmem hid hadmits)

theorem claimMultipartCompletion_effects {uploadId : MultipartUploadId}
    {manifest : List CompletedS3MultipartPart} {completionToken : String}
    {leaseUntil now : Time} {claim : S3MultipartCompletionClaim}
    (h : (claimMultipartCompletion uploadId manifest completionToken leaseUntil now).run db =
      .ok (claim, db')) :
    Effects licence db db' := by
  simp only [claimMultipartCompletion, Transaction.run_bind_ok, Transaction.run_require_ok,
    lockUpload_ok, Transaction.run_ite_ok, Transaction.run_pure_ok] at h
  obtain ⟨_, _, ⟨-, rfl⟩, upload, _, ⟨⟨hupload, rfl⟩, rfl⟩, h⟩ := h
  rcases h with ⟨-, -, rfl⟩ | ⟨hcompleted, ⟨-, -, rfl⟩ | ⟨haborted, ⟨-, -, rfl⟩ |
    ⟨-, ⟨-, _, _, habort, _, _, ⟨-, rfl⟩, -, rfl⟩ | ⟨-, h⟩⟩⟩⟩
  · exact .refl _
  · exact .refl _
  · exact .refl _
  · exact abortUploadAndEnqueueCleanup_effects hupload habort
  · simp only [claimManifest, Transaction.run_bind_ok, Transaction.run_query_ok] at h
    obtain ⟨_, _, ⟨rfl, rfl⟩, h⟩ := h
    cases hmanifest : validateManifest manifest (db.listParts upload.uploadId) with
    | error error =>
        simp only [hmanifest, Transaction.run_pure_ok] at h
        cases h.2
        exact .refl _
    | ok selected =>
        simp only [hmanifest, multipartTotalSize, Transaction.run_bind_ok,
          Transaction.run_orThrow_ok, Transaction.run_updateRow_ok, lockUpload_ok,
          Transaction.run_pure_ok] at h
        obtain ⟨_, _, ⟨-, rfl⟩, _, _, ⟨-, rfl⟩, _, _, ⟨-, rfl⟩, -, rfl⟩ := h
        have hopen : upload.state.isOpen := by
          cases hstate : upload.state with
          | pending | completing => rfl
          | completed => exact absurd hstate hcompleted
          | aborted => exact absurd hstate haborted
        exact .single (.uploadClaimed hupload hopen hmanifest)

theorem attachMultipartUploadIntent_effect {uploadId : MultipartUploadId}
    {completionToken : String} {intentId : UploadIntentId} {now : Time}
    {row : S3MultipartUpload}
    (h : (attachMultipartUploadIntent uploadId completionToken intentId now).run db =
      .ok (row, db')) :
    Effect licence db db' := by
  simp only [attachMultipartUploadIntent, validateIntentIdentity, multipartTotalSize,
    Transaction.run_bind_ok, lockUpload_ok, Transaction.run_require_ok,
    Transaction.run_orThrow_ok, Transaction.run_query_ok, Transaction.run_ofExcept_ok,
    lockUploadIntent_ok, Transaction.run_updateRow_ok] at h
  obtain ⟨upload, _, ⟨⟨hupload, rfl⟩, rfl⟩, _, _, ⟨hclaim, rfl⟩, _, _, ⟨-, rfl⟩, _, _, ⟨-, rfl⟩,
    _, _, ⟨-, rfl⟩, _, _, ⟨-, rfl⟩, intent, _, ⟨⟨hintent, rfl, -⟩, rfl⟩, _, _,
    ⟨hidentity, rfl⟩, _, _, ⟨-, rfl⟩, _, _, ⟨htaken, rfl⟩, _, _, ⟨hfree, rfl⟩, _, _,
    ⟨⟨other, hother, hotherId, hguard, -⟩, rfl⟩, -, rfl⟩ := h
  have heq : other = upload := Table.eq_of_key hother hupload hotherId
  subst heq
  simp only [S3MultipartUpload.holdsClaim, Bool.and_eq_true, Bool.or_eq_true,
    decide_eq_true_eq] at hclaim hguard
  refine .uploadAttached hupload hclaim.1.1 hintent hidentity (fun row hrow hne hattached => ?_)
    hguard.2
  subst htaken
  have hrowClash := List.any_eq_false.1 hfree row hrow
  simp [hne, hattached] at hrowClash

theorem releaseMultipartCompletion_effects {uploadId : MultipartUploadId}
    {completionToken : String} {now : Time} {outcome : S3MultipartCompletionRelease}
    (h : (releaseMultipartCompletion uploadId completionToken now).run db =
      .ok (outcome, db')) :
    Effects licence db db' := by
  simp only [releaseMultipartCompletion, Transaction.run_bind_ok, lockUpload_ok] at h
  obtain ⟨upload, _, ⟨⟨hupload, rfl⟩, rfl⟩, h⟩ := h
  cases hstate : upload.state with
  | completing =>
      simp only [hstate, Transaction.run_ite_ok, Transaction.run_bind_ok,
        Transaction.run_updateRow_ok, lockUpload_ok, Transaction.run_pure_ok] at h
      rcases h with ⟨-, _, _, hlock, _, mid, hintent, _, _, ⟨-, rfl⟩, _, _, ⟨-, rfl⟩, -, rfl⟩ |
        ⟨-, -, rfl⟩
      · obtain ⟨rfl, hid, hlocked⟩ := lockAttachedUploadIntent_ok hlock
        obtain ⟨heffects, hended, huploads, -⟩ :=
          abortLockedAttachedIntent_effects hid hlocked hintent
        exact heffects.tail (.uploadReleased (huploads ▸ hupload) hstate hended)
      · exact .refl _
  | pending | completed | aborted =>
      simp only [hstate, Transaction.run_pure_ok] at h
      cases h.2
      exact .refl _

theorem completionFactsMatch_ok {upload : S3MultipartUpload} {parts : List S3MultipartPart}
    {finalEntityTag : EntityTag} {intent : UploadIntent}
    (h : completionFactsMatch upload parts finalEntityTag intent) :
    parts ≠ [] ∧ parts.length = (upload.completionManifest.getD []).length ∧
      finalEntityTag = .multipart (Md5.md5 (parts.flatMap (·.md5))) parts.length ∧
      intent.expectedSizeBytes = (parts.map (·.size)).sum := by
  simp only [completionFactsMatch, Bool.and_eq_true, decide_eq_true_eq] at h
  exact ⟨h.1.1.1.1, h.1.1.1.2, (Option.some.inj h.1.1.2).symm, h.1.2⟩

/-- The version, then the upload, then the payloads that are no longer needed. -/
theorem completeUpload_effects {upload : S3MultipartUpload} {intent : UploadIntent}
    {completionToken : String} {commit : S3ObjectVersionCommit} {finalEntityTag : EntityTag}
    {finalChecksum : Checksum} {object : S3Object} {stored : StoredObjectVersion}
    (hupload : upload ∈ db.multipartUploads)
    (hattached : upload.uploadIntentId = some intent.id)
    (hintent : intent ∈ db.uploadIntents) (hconsistent : intent.fromPersistence = .ok intent)
    (hprepared : PreparedCommit commit)
    (hversioned : commit.version.isNullVersion ∨ IsVersioned db.buckets commit.version.bucketId)
    (hretires : ∀ versionId, ReplacedBy db commit.version versionId →
      licence.retires versionId)
    (hlicence : UploadIntent.holdsLease completionToken (postgresTime commit.committedAt)
      intent → licence.commits intent)
    (hpayload : commit.version.payload = .object stored) (hetag : stored.etag = finalEntityTag)
    (hmatch : completionFactsMatch upload (db.manifestParts upload) finalEntityTag intent)
    (h : (completeUpload upload intent completionToken commit finalEntityTag finalChecksum).run
      db = .ok (object, db')) :
    ∃ base committed version,
      CommitsIntent licence intent commit object db base committed version ∧
      Effects licence (committed.apply base) db' ∧
      db'.objectVersions = (committed.apply base).objectVersions ∧
      db'.uploadIntents = (committed.apply base).uploadIntents := by
  simp only [completeUpload, Transaction.run_bind_ok, Transaction.run_require_ok,
    Transaction.run_query_ok, Transaction.run_updateRow_ok, Transaction.run_pure_ok] at h
  obtain ⟨_, _, ⟨hclaim, rfl⟩, result, _, hcommit, _, _, ⟨rfl, rfl⟩, _, _, hqueue, _, _,
    ⟨-, rfl⟩, rfl, rfl⟩ := h
  obtain ⟨base, committed, version, hcommits, rfl⟩ :=
    commitIntentVersion_ok hintent hconsistent hprepared hversioned hretires hlicence hcommit
  obtain ⟨hadmitted, rfl⟩ := enqueueMultipartStorageKeys_ok hqueue
  refine ⟨base, committed, version, hcommits, ?_, rfl, rfl⟩
  obtain ⟨objects, rfl⟩ := hcommits.base_eq
  have hintentEq := hcommits.intent_eq
  subst hintentEq
  have hpush := hcommits.valid.push_valid
  simp only [S3MultipartUpload.holdsClaim, Bool.and_eq_true, decide_eq_true_eq] at hclaim
  -- the rows that the completion stands on
  have hcommittedRow : UploadIntent.commit committed.push.object.id committed.push.version.id
      committed.committedAt committed.intent ∈
        (committed.apply { db with objects := objects }).uploadIntents :=
    (Table.mem_update_of_mem hcommits.valid.intent_mem rfl).2 (Or.inr rfl)
  have hversionRow : committed.push.version ∈
      (committed.apply { db with objects := objects }).objectVersions :=
    (Push.mem_versions hpush.fresh).2 (Or.inl rfl)
  have hversionPayload : committed.push.version.payload = .object stored := by
    rw [hcommits.version_eq]
    exact (congrArg VersionFacts.payload hcommits.facts_eq).trans hpayload
  have hversionId : committed.push.version.id = commit.version.id := by
    rw [hcommits.version_eq]
    exact congrArg VersionFacts.id hcommits.facts_eq
  obtain ⟨hnonempty, hlength, htag, hsize⟩ := completionFactsMatch_ok hmatch
  obtain ⟨stored', hstored', hmatches⟩ := hcommits.valid.payload
  have hsame : stored' = stored := by
    rw [hversionPayload] at hstored'
    exact (ObjectVersionPayload.object.inj hstored').symm
  subst hsame
  simp only [payloadMatchesIntent, Bool.and_eq_true, decide_eq_true_eq] at hmatches
  let parts := db.manifestParts upload
  have hfacts : CompletionFacts parts (upload.completionManifest.getD []) stored' := {
    nonempty := hnonempty
    length_eq := hlength
    etag_eq := hetag.trans htag
    size_eq := hmatches.1.1.2.trans hsize }
  let completed := S3MultipartUpload.complete committed.push.version.objectId
    committed.push.version.id stored'.etag finalChecksum (postgresTime commit.committedAt)
  let done : Database := (committed.apply { db with objects := objects }).mapMultipartUploads
    (·.update upload.uploadId completed)
  have hcomplete : Effect licence (committed.apply { db with objects := objects }) done :=
    .uploadCompleted hupload hclaim.1.1 hcommittedRow hattached rfl rfl hversionRow
      hversionPayload hfacts
  have hrow : completed upload ∈ done.multipartUploads :=
    (Table.mem_update_of_mem hupload rfl).2 (Or.inr rfl)
  have hkeys : ∀ key ∈ (db.listParts upload.uploadId).map (·.storageKey) ++
      [committed.intent.temporaryStorageKey],
      Droppable licence done (completed upload) (some committed.intent.id) key := by
    intro key hkey
    rcases List.mem_append.1 hkey with hpart | htemporary
    · obtain ⟨part, hpartMem, rfl⟩ := List.mem_map.1 hpart
      obtain ⟨hmem, hpartUpload⟩ := mem_listParts.1 hpartMem
      exact .closed rfl hmem hpartUpload
    · rw [List.mem_singleton.1 htemporary]
      exact .temporary hcommittedRow rfl rfl rfl
  have hqueued : Effect licence done { done with
      storageGcTasks := queueTasks done.storageGcTasks
        (((db.listParts upload.uploadId).map (·.storageKey) ++
          [committed.intent.temporaryStorageKey]).map
            (multipartGcTask (completed upload) (some committed.intent.id) ·
              (postgresTime commit.committedAt))) } :=
    .keysQueued hrow hkeys hadmitted
  have heffects := (Effects.single hcomplete).tail hqueued
  have hupdate : completed = S3MultipartUpload.complete result.id commit.version.id
      finalEntityTag finalChecksum (postgresTime commit.committedAt) := by
    simp only [completed, hpush.objectId_eq, hcommits.objectId_eq, hversionId, hetag]
  simp only [done, hupdate] at heffects
  exact heffects

/-- A completion that is replayed changes nothing; another one commits a version. -/
theorem commitMultipartObjectVersion_ok {uploadId : MultipartUploadId}
    {completionToken : String} {commit : S3ObjectVersionCommit} {finalEntityTag : EntityTag}
    {finalChecksum : Checksum} {object : S3Object}
    (hprepared : PreparedCommit commit)
    (hversioned : commit.version.isNullVersion ∨ IsVersioned db.buckets commit.version.bucketId)
    (hretires : ∀ versionId, ReplacedBy db commit.version versionId →
      licence.retires versionId)
    (hlicence : ∀ intent ∈ db.uploadIntents,
      UploadIntent.holdsLease completionToken (postgresTime commit.committedAt) intent →
        licence.commits intent)
    (h : (commitMultipartObjectVersion uploadId completionToken commit finalEntityTag
      finalChecksum).run db = .ok (object, db')) :
    db = db' ∨ ∃ intent ∈ db.uploadIntents, ∃ base committed version,
      CommitsIntent licence intent commit object db base committed version ∧
      Effects licence (committed.apply base) db' ∧
      db'.objectVersions = (committed.apply base).objectVersions ∧
      db'.uploadIntents = (committed.apply base).uploadIntents := by
  simp only [commitMultipartObjectVersion, validateToken, Transaction.run_bind_ok,
    Transaction.run_require_ok, lockUpload_ok, Transaction.run_orThrow_ok, lockUploadIntent_ok,
    Transaction.run_query_ok, Transaction.run_ite_ok] at h
  obtain ⟨_, _, ⟨-, rfl⟩, _, _, hvalidate, stored, _, hstored, _, _, ⟨hfinal, rfl⟩, _, _,
    ⟨-, rfl⟩, upload, _, ⟨⟨hupload, rfl⟩, rfl⟩, intentId, _, ⟨hattached, rfl⟩, intent, _,
    ⟨⟨hintent, rfl, hconsistent⟩, rfl⟩, _, _, ⟨-, rfl⟩, _, _, ⟨rfl, rfl⟩, _, _,
    ⟨hmatch, rfl⟩, h⟩ := h
  obtain ⟨rfl, -, -⟩ := validate_ok hvalidate
  obtain ⟨hpayload, rfl⟩ := storedPayload_ok hstored
  rcases h with ⟨-, hreplay⟩ | ⟨-, hcomplete⟩
  · simp only [replayMultipartCompletion, validateExpectedObjectIdentity,
      Transaction.run_bind_ok, Transaction.run_orThrow_ok, Transaction.run_require_ok,
      Transaction.run_selectRow_ok, Transaction.run_pure_ok] at hreplay
    obtain ⟨_, _, ⟨-, rfl⟩, _, _, ⟨-, rfl⟩, _, _, ⟨-, rfl⟩, _, _, ⟨-, rfl⟩, _, _, ⟨-, rfl⟩, -,
      rfl⟩ := hreplay
    exact Or.inl rfl
  · exact Or.inr ⟨intent, hintent, completeUpload_effects hupload hattached hintent
      hconsistent hprepared hversioned hretires (hlicence intent hintent) hpayload hfinal.1
      hmatch hcomplete⟩

end

end MediaHub.Store

import MediaHub.Store.Effect

namespace MediaHub.Store

open Relational
open MediaHub.Core

/-- The cleanup owner of what a multipart upload gives up. -/
def multipartOwner (upload : S3MultipartUpload) (intentId : Option UploadIntentId) :
    GcProvenance where
  applicationId := upload.applicationId
  bucketId := upload.bucketId
  objectVersionId := none
  uploadIntentId := intentId
  multipartUploadId := some upload.uploadId
  reason := .multipartTemporary

/-- Why an effect from `db` to `db'` gives a locator to a cleanup owner. -/
inductive Queues (licence : Licence) (db db' : Database) (locator : StorageLocator)
    (owner : GcProvenance) : Prop
  | version {version : ObjectVersion} (hmem : version ∈ db.objectVersions)
      (hactive : version.isActive) (hretires : licence.retires version.id)
      (hlocator : version.locator? = some locator) (hnames : NamesVersion owner version)
      (hafter : ∀ row ∈ db'.objectVersions, row.id = version.id → row.isActive = false)
  | intent {intent : UploadIntent} (hmem : intent ∈ db.uploadIntents)
      (hlocator : locator = intent.temporaryLocator ∨ locator = intent.finalLocator)
      (hnames : NamesIntent owner intent) (hstate : intent.state ≠ .committed)
      (hafter : ∀ row ∈ db'.uploadIntents, row.id = intent.id →
        row.state = .aborted ∨ row.state = .expired)
  | replacedPart {upload : S3MultipartUpload} {part : S3MultipartPart}
      (hupload : upload ∈ db.multipartUploads) (hpart : part ∈ db.multipartParts)
      (hid : part.uploadId = upload.uploadId)
      (hlocator : locator = ⟨upload.storageBackend, part.storageKey⟩)
      (howner : owner = multipartOwner upload none) (hafter : part ∉ db'.multipartParts)
  | droppedKey {upload : S3MultipartUpload} {intentId : Option UploadIntentId}
      {key : StorageKey} (hupload : upload ∈ db.multipartUploads)
      (hkey : Droppable licence db upload intentId key)
      (hlocator : locator = ⟨upload.storageBackend, key⟩)
      (howner : owner = multipartOwner upload intentId)

theorem queuedOwner_queueTasks {tasks : Table StorageGcTask} {new : List NewStorageGcTask}
    (h : AllAdmitted tasks new) (locator : StorageLocator) :
    queuedOwner (queueTasks tasks new) locator = queuedOwner tasks locator ∨
      ∃ task ∈ new, task.locator = locator ∧
        queuedOwner (queueTasks tasks new) locator = some task.provenance := by
  by_cases hnamed : ∃ task ∈ new, task.locator = locator
  · obtain ⟨task, htask, rfl⟩ := hnamed
    exact Or.inr ⟨task, htask, rfl, queuedOwner_queueTasks_of_mem h htask⟩
  · refine Or.inl (queuedOwner_queueTasks_of_ne fun task htask heq => ?_)
    exact hnamed ⟨task, htask, heq⟩

/-- A queued payload has its locator and its owner. -/
theorem QueuesPayload.task_locator {tasks : Table StorageGcTask} {version : ObjectVersion}
    {task : Option NewStorageGcTask} (h : QueuesPayload tasks version task)
    {new : NewStorageGcTask} (hnew : new ∈ task) : version.locator? = some new.locator := by
  rw [← h.locator, Option.mem_def.1 hnew]
  rfl

theorem QueuesIntent.task_locator {tasks : Table StorageGcTask} {intent : UploadIntent}
    {new : List NewStorageGcTask} (h : QueuesIntent tasks intent new) {task : NewStorageGcTask}
    (htask : task ∈ new) :
    task.locator = intent.temporaryLocator ∨ task.locator = intent.finalLocator := by
  have hmem : task.locator ∈ new.map (·.locator) := List.mem_map_of_mem htask
  rw [h.locators] at hmem
  simpa using hmem

/-- A pushed version leaves the one it replaces inactive. -/
theorem Push.Valid.replaced_inactive {push : Push} {db : Database} (h : push.Valid db)
    {previous row : ObjectVersion} (hreplaced : push.replaced = some previous)
    (hrow : row ∈ push.versions db.objectVersions) (hid : row.id = previous.id) :
    row.isActive = false := by
  obtain ⟨hprevious, -⟩ := h.replaced_mem previous hreplaced
  rcases (Push.mem_versions h.fresh).1 hrow with rfl | ⟨version, hversion, rfl⟩
  · exact absurd hid.symm (Table.find?_eq_none_iff.1 h.fresh previous hprevious)
  · rw [Push.isActive_age, ← Push.id_age push version, hid]
    simp [hreplaced]

theorem Removal.Valid.target_inactive {removal : Removal} {db : Database} (h : removal.Valid db)
    {row : ObjectVersion} (hrow : row ∈ db.objectVersions.rewrite removal.age)
    (hid : row.id = removal.target.id) : row.isActive = false := by
  obtain ⟨version, -, rfl⟩ := Table.mem_rewrite.1 hrow
  rw [Removal.isActive_age h.retires, ← Removal.id_age removal version, hid]
  simp

/-- The ended row of an intent is the only one with its id. -/
theorem IntentEnd.Valid.row_ended {ended : IntentEnd} {db : Database} (h : ended.Valid db)
    {row : UploadIntent} (hrow : row ∈ (ended.apply db).uploadIntents)
    (hid : row.id = ended.intent.id) : row.state = .aborted ∨ row.state = .expired := by
  rcases Table.mem_update.1 hrow with ⟨-, hne⟩ | ⟨old, -, -, rfl⟩
  · exact absurd hid hne
  · exact h.terminal

/-- The row of a part that is replaced is gone: its key was another one. -/
theorem NewPartValid.previous_replaced {upload : S3MultipartUpload} {part : NewS3MultipartPart}
    {db : Database} {previous : S3MultipartPart} {now : Time} (h : NewPartValid upload part db)
    (hprevious : previous ∈ db.multipartParts)
    (hkey : Keyed.key previous = (upload.uploadId, part.partNumber)) :
    previous ∉ db.multipartParts.update (upload.uploadId, part.partNumber)
      (replacePart upload.uploadId part now) := by
  intro hmem
  rcases Table.mem_update.1 hmem with ⟨-, hne⟩ | ⟨old, -, hold, heq⟩
  · exact hne hkey
  · have hsame : old.uploadId = upload.uploadId ∧ old.partNumber = part.partNumber := by
      simpa [Keyed.key] using hold
    refine h.unnamed previous hprevious ?_
    rw [heq]
    simp [replacePart, hsame, partRow]

section

variable {licence : Licence} {db db' : Database}

/-- A payload that is queued when its version is replaced or removed. -/
private theorem queues_version {version : ObjectVersion} {task : Option NewStorageGcTask}
    (hmem : version ∈ db.objectVersions) (hactive : version.isActive)
    (hretires : licence.retires version.id)
    (hqueues : QueuesPayload db.storageGcTasks version task)
    (hafter : ∀ row ∈ db'.objectVersions, row.id = version.id → row.isActive = false)
    (htasks : db'.storageGcTasks = queueTasks db.storageGcTasks task.toList)
    (locator : StorageLocator) :
    queuedOwner db'.storageGcTasks locator = queuedOwner db.storageGcTasks locator ∨
      ∃ owner, queuedOwner db'.storageGcTasks locator = some owner ∧
        Queues licence db db' locator owner := by
  rw [htasks]
  rcases queuedOwner_queueTasks hqueues.admitted locator with hsame | ⟨new, hnew, rfl, howner⟩
  · exact Or.inl hsame
  · have hnew' : new ∈ task := by simpa using hnew
    exact Or.inr ⟨_, howner, .version hmem hactive hretires (hqueues.task_locator hnew')
      (hqueues.names new hnew') hafter⟩

/-- The payload of a replaced version, if there is one. -/
private theorem queues_replaced {push : Push} {task : Option NewStorageGcTask}
    (hpush : push.Valid db) (hversions : db'.objectVersions = push.versions db.objectVersions)
    (hretires : ∀ version, push.replaced = some version → licence.retires version.id)
    (hqueues : QueuesReplaced db.storageGcTasks push.replaced task)
    (htasks : db'.storageGcTasks = queueTasks db.storageGcTasks task.toList)
    (locator : StorageLocator) :
    queuedOwner db'.storageGcTasks locator = queuedOwner db.storageGcTasks locator ∨
      ∃ owner, queuedOwner db'.storageGcTasks locator = some owner ∧
        Queues licence db db' locator owner := by
  cases hreplaced : push.replaced with
  | none =>
      rw [hreplaced] at hqueues
      cases hqueues
      exact Or.inl (by rw [htasks]; rfl)
  | some version =>
      rw [hreplaced] at hqueues
      obtain ⟨hmem, -, hactive, -⟩ := hpush.replaced_mem version hreplaced
      exact queues_version hmem hactive (hretires version hreplaced) hqueues
        (fun row hrow hid => hpush.replaced_inactive hreplaced (hversions ▸ hrow) hid) htasks
        locator

/-- Both keys of an intent that has ended. -/
private theorem queues_intent {intent : UploadIntent} {new : List NewStorageGcTask}
    (hmem : intent ∈ db.uploadIntents) (hstate : intent.state ≠ .committed)
    (hqueues : QueuesIntent db.storageGcTasks intent new)
    (hafter : ∀ row ∈ db'.uploadIntents, row.id = intent.id →
      row.state = .aborted ∨ row.state = .expired)
    (htasks : db'.storageGcTasks = queueTasks db.storageGcTasks new)
    (locator : StorageLocator) :
    queuedOwner db'.storageGcTasks locator = queuedOwner db.storageGcTasks locator ∨
      ∃ owner, queuedOwner db'.storageGcTasks locator = some owner ∧
        Queues licence db db' locator owner := by
  rw [htasks]
  rcases queuedOwner_queueTasks hqueues.admitted locator with hsame | ⟨task, htask, rfl, howner⟩
  · exact Or.inl hsame
  · exact Or.inr ⟨_, howner, .intent hmem (hqueues.task_locator htask)
      (hqueues.names task htask) hstate hafter⟩

variable [Md5]

/-- One effect either leaves the owner of a locator alone or has a reason to queue it. -/
theorem Effect.queue_cases (h : Effect licence db db') (locator : StorageLocator) :
    queuedOwner db'.storageGcTasks locator = queuedOwner db.storageGcTasks locator ∨
      ∃ owner, queuedOwner db'.storageGcTasks locator = some owner ∧
        Queues licence db db' locator owner := by
  cases h with
  | collected hsame => exact Or.inl (hsame locator)
  | accounted hstep => cases hstep <;> exact Or.inl rfl
  | versionCommitted hcommit _ hretires =>
      exact queues_replaced hcommit.push_valid rfl hretires hcommit.queues rfl locator
  | markerPushed hmarker _ hretires =>
      exact queues_replaced hmarker.push_valid rfl hretires hmarker.queues rfl locator
  | versionRemoved hremoved _ _ hretires =>
      exact queues_version hremoved.removal_valid.target_mem hremoved.removal_valid.active
        hretires hremoved.queues (fun _ => hremoved.removal_valid.target_inactive) rfl locator
  | headRemoved hremoved _ _ hretires =>
      exact queues_version hremoved.removal_valid.target_mem hremoved.removal_valid.active
        hretires hremoved.queues (fun _ => hremoved.removal_valid.target_inactive) rfl locator
  | intentEnded hended =>
      refine queues_intent hended.intent_mem (fun hstate => ?_) hended.queues
        (fun _ => hended.row_ended) rfl locator
      have hlive := hended.live
      rw [hstate] at hlive
      cases hlive
  | @intentRequeued intent tasks hmem hended hqueues =>
      refine queues_intent hmem (fun hstate => ?_) hqueues (fun row hrow hid => ?_) rfl locator
      · rcases hended with hend | hend <;> rw [hstate] at hend <;> cases hend
      · rw [Table.eq_of_key hrow hmem hid]
        exact hended
  | @partReplaced upload part previous now hnew _ hprevious hkey hadmits =>
      let task := multipartGcTask upload none previous.storageKey now
      have hadmitted : AllAdmitted db.storageGcTasks [task] := ⟨hadmits, trivial⟩
      have hid : previous.uploadId = upload.uploadId := congrArg Prod.fst hkey
      rcases queuedOwner_queueTasks hadmitted locator with hsame | ⟨new, hmem, rfl, howner⟩
      · exact Or.inl hsame
      · rw [List.mem_singleton.1 hmem] at howner ⊢
        exact Or.inr ⟨_, howner, .replacedPart hnew.upload_mem hprevious hid rfl rfl
          (hnew.previous_replaced hprevious hkey)⟩
  | @keysQueued upload intentId keys now hmem hkeys hadmitted =>
      rcases queuedOwner_queueTasks hadmitted locator with hsame | ⟨task, htask, rfl, howner⟩
      · exact Or.inl hsame
      · obtain ⟨key, hkey, rfl⟩ := List.mem_map.1 htask
        exact Or.inr ⟨_, howner, .droppedKey hmem (hkeys key hkey) rfl rfl⟩
  | _ => exact Or.inl rfl

/-- The owner of a locator is never replaced. -/
theorem Effect.keeps_queuedOwner (h : Effect licence db db') {locator : StorageLocator}
    {owner : GcProvenance} (howner : queuedOwner db.storageGcTasks locator = some owner) :
    queuedOwner db'.storageGcTasks locator = some owner := by
  cases h with
  | collected hsame => rw [hsame locator, howner]
  | accounted hstep => cases hstep <;> exact howner
  | versionCommitted | markerPushed | versionRemoved | headRemoved | intentEnded
  | intentRequeued | keysQueued => exact queuedOwner_queueTasks_of_some howner _
  | @partReplaced upload part previous now =>
      exact queuedOwner_queueTasks_of_some howner
        [multipartGcTask upload none previous.storageKey now]
  | _ => exact howner

end

end MediaHub.Store

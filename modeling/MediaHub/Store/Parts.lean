import MediaHub.Store.Identity

namespace MediaHub.Store

open Relational
open MediaHub.Core

/-- Part rows belong to uploads and name keys that were rendered for them. -/
structure PartRows (parts : Table S3MultipartPart) (uploads : Table S3MultipartUpload) : Prop where
  key : ∀ part ∈ parts, ∃ nonce, part.storageKey = .part part.uploadId part.partNumber nonce
  owner : ∀ part ∈ parts, ∃ upload ∈ uploads, upload.uploadId = part.uploadId

/-- One key, one row. -/
theorem PartRows.eq_of_storageKey {parts : Table S3MultipartPart}
    {uploads : Table S3MultipartUpload} (h : PartRows parts uploads)
    {part other : S3MultipartPart} (hpart : part ∈ parts) (hother : other ∈ parts)
    (hkey : part.storageKey = other.storageKey) : part = other := by
  obtain ⟨nonce, hnonce⟩ := h.key part hpart
  obtain ⟨nonce', hnonce'⟩ := h.key other hother
  rw [hnonce, hnonce'] at hkey
  injection hkey with hupload hnumber _
  exact Table.eq_of_key hpart hother (Prod.ext hupload hnumber)

/-- A part row or the cleanup queue names the key. -/
def KeyInUse (db : Database) (key : StorageKey) : Prop :=
  (∃ part ∈ db.multipartParts, part.storageKey = key) ∨
  ∃ backend owner, queuedOwner db.storageGcTasks ⟨backend, key⟩ = some owner

/-- Every part key in use is one of `keys`. -/
def PartKeysWithin (keys : StorageKey → Prop) (db : Database) : Prop :=
  ∀ uploadId partNumber nonce, KeyInUse db (.part uploadId partNumber nonce) →
    keys (.part uploadId partNumber nonce)

/-- A queued part belongs to an upload; while the upload is open, only it owns the task. -/
def PartTasks (tasks : Table StorageGcTask) (uploads : Table S3MultipartUpload) : Prop :=
  ∀ locator owner, queuedOwner tasks locator = some owner →
    ∀ uploadId partNumber nonce, locator.key = .part uploadId partNumber nonce →
      ∃ upload ∈ uploads, upload.uploadId = uploadId ∧
        locator.backend = upload.storageBackend ∧
        (upload.state.isOpen → owner = multipartOwner upload none)

/-- No part of an open upload is queued. -/
def PartsKept (db : Database) : Prop :=
  ∀ part ∈ db.multipartParts, ∀ upload ∈ db.multipartUploads,
    upload.uploadId = part.uploadId → upload.state.isOpen →
      ∀ backend, queuedOwner db.storageGcTasks ⟨backend, part.storageKey⟩ = none

theorem multipartOwner_of_facts {upload other : S3MultipartUpload}
    (h : uploadFacts upload = uploadFacts other) (intentId : Option UploadIntentId) :
    multipartOwner upload intentId = multipartOwner other intentId := by
  have hid := congrArg UploadFacts.uploadId h
  have happlication := congrArg UploadFacts.applicationId h
  have hbucket := congrArg UploadFacts.bucketId h
  simp only [uploadFacts] at hid happlication hbucket
  rw [multipartOwner, hid, happlication, hbucket]
  rfl

/-- A payload of a version or of an intent is no part. -/
theorem Queues.part_key {licence : Licence} {db db' : Database} {locator : StorageLocator}
    {owner : GcProvenance}
    (h : Queues licence db db' locator owner) (hintents : IntentKeys db.uploadIntents)
    (hversions : VersionKeys db.objectVersions) {uploadId : MultipartUploadId}
    {partNumber : Nat} {nonce : Uuid} (hkey : locator.key = .part uploadId partNumber nonce) :
    (∃ upload ∈ db.multipartUploads, ∃ part ∈ db.multipartParts,
      part.uploadId = upload.uploadId ∧ part.storageKey = locator.key ∧
      locator.backend = upload.storageBackend ∧
      ((owner = multipartOwner upload none ∧ part ∉ db'.multipartParts) ∨
        upload.state.isOpen = false)) ∨
    (licence.drops locator.key ∧ ∃ upload ∈ db.multipartUploads,
      upload.uploadId = uploadId ∧ locator.backend = upload.storageBackend ∧
      owner = multipartOwner upload none) := by
  cases h with
  | version hmem _ _ hlocator =>
      have hobject := hversions _ hmem locator hlocator
      rw [hkey] at hobject
      cases hobject
  | intent hmem hlocator =>
      obtain ⟨htemporary, hfinal⟩ := hintents _ hmem
      rcases hlocator with rfl | rfl
      · rw [show UploadIntent.temporaryLocator _ = StorageLocator.mk _ _ from rfl, htemporary]
          at hkey
        cases hkey
      · rw [show UploadIntent.finalLocator _ = StorageLocator.mk _ _ from rfl, hfinal] at hkey
        cases hkey
  | replacedPart hupload hpart hid hlocator howner hafter =>
      subst hlocator
      exact Or.inl ⟨_, hupload, _, hpart, hid, rfl, rfl, Or.inl ⟨howner, hafter⟩⟩
  | droppedKey hupload hdropped hlocator howner =>
      subst hlocator
      cases hdropped with
      | closed hclosed hpart hid =>
          exact Or.inl ⟨_, hupload, _, hpart, hid, rfl, rfl, Or.inr hclosed⟩
      | givenUp hdrops =>
          refine Or.inr ⟨hdrops, _, hupload, ?_, rfl, howner⟩
          injection hkey
      | temporary hintent _ _ htemporary =>
          simp only [htemporary, (hintents _ hintent).1] at hkey
          cases hkey

section

variable [Md5] {licence : Licence} {db db' : Database}

/-- A part row is an old one, or it stores a payload that nothing named before. -/
theorem Effect.part_cases (h : Effect licence db db') {part : S3MultipartPart}
    (hpart : part ∈ db'.multipartParts) :
    part ∈ db.multipartParts ∨ (licence.stores part.storageKey ∧
      (∃ nonce, part.storageKey = .part part.uploadId part.partNumber nonce) ∧
      (∃ upload ∈ db.multipartUploads, upload.uploadId = part.uploadId) ∧
      (∀ row ∈ db.multipartParts, row.storageKey ≠ part.storageKey) ∧
      ∀ backend, queuedOwner db.storageGcTasks ⟨backend, part.storageKey⟩ = none) := by
  cases h with
  | accounted hstep => cases hstep <;> exact Or.inl hpart
  | partStored hnew hstores hfresh =>
      rcases (Table.mem_insert hfresh).1 hpart with rfl | hold
      · exact Or.inr ⟨hstores, hnew.key_eq, ⟨_, hnew.upload_mem, rfl⟩, hnew.unnamed,
          hnew.unqueued⟩
      · exact Or.inl hold
  | @partReplaced upload new previous now hnew hstores =>
      rcases Table.mem_update.1 hpart with ⟨hold, -⟩ | ⟨old, -, hid, rfl⟩
      · exact Or.inl hold
      · have hsame : old.uploadId = upload.uploadId ∧ old.partNumber = new.partNumber := by
          simpa [Keyed.key] using hid
        have hrow : replacePart upload.uploadId new now old =
            partRow upload.uploadId new old.createdAt now := by
          simp [replacePart, hsame]
        rw [hrow]
        exact Or.inr ⟨hstores, hnew.key_eq, ⟨_, hnew.upload_mem, rfl⟩, hnew.unnamed,
          hnew.unqueued⟩
  | _ => exact Or.inl hpart

/-- A part row stays, or its payload is queued. -/
theorem Effect.part_kept (h : Effect licence db db') {part : S3MultipartPart}
    (hpart : part ∈ db.multipartParts) :
    part ∈ db'.multipartParts ∨
      ∃ backend owner, queuedOwner db'.storageGcTasks ⟨backend, part.storageKey⟩ = some owner := by
  cases h with
  | accounted hstep => cases hstep <;> exact Or.inl hpart
  | partStored => exact Or.inl (Table.mem_insert_of_mem hpart)
  | @partReplaced upload new previous now hnew _ hprevious hkey hadmits =>
      by_cases hid : Keyed.key part = (upload.uploadId, new.partNumber)
      · have heq : part = previous :=
          Table.eq_of_key hpart hprevious (hid.trans hkey.symm)
        rw [heq]
        exact Or.inr ⟨_, _, queuedOwner_insert_self hadmits⟩
      · exact Or.inl (Table.mem_update.2 (Or.inl ⟨hpart, hid⟩))
  | _ => exact Or.inl hpart

/-- An upload is a new pending one, or an old one under the same facts that was open if it
is now. -/
theorem Effect.upload_cases (h : Effect licence db db') {upload : S3MultipartUpload}
    (hupload : upload ∈ db'.multipartUploads) :
    (∃ old ∈ db.multipartUploads, uploadFacts old = uploadFacts upload ∧
      (upload.state.isOpen → old.state.isOpen)) ∨
    db.multipartUploads.find? upload.uploadId = none := by
  have hupdate : ∀ (row : S3MultipartUpload) (f : Update S3MultipartUpload),
      row ∈ db.multipartUploads → (∀ u, uploadFacts (f u) = uploadFacts u) →
      ((f row).state.isOpen → row.state.isOpen) →
      upload ∈ db.multipartUploads.update row.uploadId f →
        ∃ old ∈ db.multipartUploads, uploadFacts old = uploadFacts upload ∧
          (upload.state.isOpen → old.state.isOpen) := by
    intro row f hrow hfacts hopen hmem
    rcases (Table.mem_update_of_mem hrow rfl).1 hmem with ⟨hold, -⟩ | rfl
    · exact ⟨upload, hold, rfl, id⟩
    · exact ⟨row, hrow, (hfacts row).symm, hopen⟩
  cases h with
  | accounted hstep => cases hstep <;> exact Or.inl ⟨upload, hupload, rfl, id⟩
  | uploadCreated hfresh =>
      rcases (Table.mem_insert hfresh).1 hupload with rfl | hold
      · exact Or.inr hfresh
      · exact Or.inl ⟨upload, hold, rfl, id⟩
  | uploadClaimed hmem hopen =>
      exact Or.inl (hupdate _ _ hmem (fun _ => rfl) (fun _ => hopen) hupload)
  | uploadAttached hmem =>
      exact Or.inl (hupdate _ _ hmem (fun _ => rfl) id hupload)
  | uploadReleased hmem hstate =>
      exact Or.inl (hupdate _ _ hmem (fun _ => rfl) (fun _ => by rw [hstate]; rfl) hupload)
  | uploadAborted hmem hopen =>
      exact Or.inl (hupdate _ _ hmem (fun _ => rfl) (fun _ => hopen) hupload)
  | uploadCompleted hmem hstate =>
      exact Or.inl (hupdate _ _ hmem (fun _ => rfl) (fun _ => by rw [hstate]; rfl) hupload)
  | _ => exact Or.inl ⟨upload, hupload, rfl, id⟩

theorem Effect.partRows (h : Effect licence db db')
    (hrows : PartRows db.multipartParts db.multipartUploads) :
    PartRows db'.multipartParts db'.multipartUploads := by
  have hknown : ∀ uploadId, (∃ upload ∈ db.multipartUploads, upload.uploadId = uploadId) →
      ∃ upload ∈ db'.multipartUploads, upload.uploadId = uploadId := by
    rintro _ ⟨upload, hupload, rfl⟩
    obtain ⟨row, hrow, hfacts⟩ := h.uploadKnown ⟨upload, hupload, rfl⟩
    exact ⟨row, hrow, congrArg UploadFacts.uploadId hfacts⟩
  refine ⟨fun part hpart => ?_, fun part hpart => ?_⟩
  · rcases h.part_cases hpart with hold | ⟨-, hkey, -⟩
    · exact hrows.key part hold
    · exact hkey
  · rcases h.part_cases hpart with hold | ⟨-, -, howner, -⟩
    · exact hknown _ (hrows.owner part hold)
    · exact hknown _ howner

theorem Effect.partKeysWithin {keys : StorageKey → Prop} (h : Effect licence db db')
    (hintents : IntentKeys db.uploadIntents) (hversions : VersionKeys db.objectVersions)
    (hstores : ∀ key, licence.stores key → keys key)
    (hdrops : ∀ key, licence.drops key → keys key) (hkeys : PartKeysWithin keys db) :
    PartKeysWithin keys db' := by
  rintro uploadId partNumber nonce (⟨part, hpart, hkey⟩ | ⟨backend, owner, howner⟩)
  · rcases h.part_cases hpart with hold | ⟨hstored, -⟩
    · exact hkeys _ _ _ (Or.inl ⟨part, hold, hkey⟩)
    · exact hstores _ (hkey ▸ hstored)
  · rcases h.queue_cases ⟨backend, .part uploadId partNumber nonce⟩ with
      hsame | ⟨owner', -, hqueues⟩
    · exact hkeys _ _ _ (Or.inr ⟨backend, owner, hsame ▸ howner⟩)
    · rcases hqueues.part_key hintents hversions rfl with
        ⟨_, -, part, hpart, -, hkey, -⟩ | ⟨hdropped, -⟩
      · exact hkeys _ _ _ (Or.inl ⟨part, hpart, hkey⟩)
      · exact hdrops _ hdropped

/-- Everything the parts rely on. -/
structure PartsSound (db : Database) : Prop where
  intentKeys : IntentKeys db.uploadIntents
  versionKeys : VersionKeys db.objectVersions
  rows : PartRows db.multipartParts db.multipartUploads
  tasks : PartTasks db.storageGcTasks db.multipartUploads

theorem Effect.partTasks (h : Effect licence db db') (hsound : PartsSound db) :
    PartTasks db'.storageGcTasks db'.multipartUploads := by
  -- an upload under the same facts, open only if it was open before
  have hafter : ∀ old ∈ db.multipartUploads, ∃ upload ∈ db'.multipartUploads,
      uploadFacts upload = uploadFacts old ∧ (upload.state.isOpen → old.state.isOpen) := by
    intro old hold
    obtain ⟨upload, hupload, hfacts⟩ := h.uploadKnown ⟨old, hold, rfl⟩
    refine ⟨upload, hupload, hfacts, fun hopen => ?_⟩
    rcases h.upload_cases hupload with ⟨other, hother, hotherFacts, hotherOpen⟩ | hfresh
    · have heq : other = old := Table.eq_of_key hother hold
        (congrArg UploadFacts.uploadId (hotherFacts.trans hfacts))
      exact heq ▸ hotherOpen hopen
    · exact absurd (congrArg UploadFacts.uploadId hfacts.symm)
        (Table.find?_eq_none_iff.1 hfresh old hold)
  have hmove : ∀ old ∈ db.multipartUploads, ∀ (locator : StorageLocator) (owner : GcProvenance),
      locator.backend = old.storageBackend →
      (old.state.isOpen → owner = multipartOwner old none) →
        ∃ upload ∈ db'.multipartUploads, upload.uploadId = old.uploadId ∧
          locator.backend = upload.storageBackend ∧
          (upload.state.isOpen → owner = multipartOwner upload none) := by
    intro old hold locator owner hbackend howner
    obtain ⟨upload, hupload, hfacts, hopen⟩ := hafter old hold
    refine ⟨upload, hupload, congrArg UploadFacts.uploadId hfacts, ?_, fun hnow => ?_⟩
    · exact hbackend.trans (congrArg UploadFacts.storageBackend hfacts).symm
    · rw [multipartOwner_of_facts hfacts]
      exact howner (hopen hnow)
  intro locator owner hqueued uploadId partNumber nonce hkey
  rcases h.queue_cases locator with hsame | ⟨owner', howner', hqueues⟩
  · rw [hsame] at hqueued
    obtain ⟨old, hold, rfl, hbackend, howner⟩ :=
      hsound.tasks locator owner hqueued uploadId partNumber nonce hkey
    exact hmove old hold locator owner hbackend howner
  · rw [howner'] at hqueued
    cases hqueued
    rcases hqueues.part_key hsound.intentKeys hsound.versionKeys hkey with
      ⟨old, hold, part, hpart, hid, hpartKey, hbackend, hreason⟩ |
      ⟨-, old, hold, rfl, hbackend, howner⟩
    · obtain ⟨nonce', hrendered⟩ := hsound.rows.key part hpart
      rw [hkey, hrendered] at hpartKey
      injection hpartKey with hupload _ _
      rw [hid] at hupload
      subst hupload
      refine hmove old hold locator _ hbackend fun hopen => ?_
      rcases hreason with ⟨howner, -⟩ | hclosed
      · exact howner
      · rw [hclosed] at hopen
        cases hopen
    · exact hmove old hold locator _ hbackend fun _ => howner

theorem Effect.partsSound (h : Effect licence db db') (hsound : PartsSound db) :
    PartsSound db' where
  intentKeys := h.intentKeys hsound.intentKeys
  versionKeys := h.versionKeys hsound.intentKeys hsound.versionKeys
  rows := h.partRows hsound.rows
  tasks := h.partTasks hsound

/-- An effect that drops no part of an open upload keeps them all. -/
theorem Effect.partsKept (h : Effect licence db db') (hsound : PartsSound db)
    (hdrops : ∀ key, licence.drops key → ¬ licence.stores key ∧
      ∀ part ∈ db.multipartParts, part.storageKey = key →
        ∀ upload ∈ db.multipartUploads, upload.uploadId = part.uploadId →
          upload.state.isOpen = false)
    (hkept : PartsKept db) : PartsKept db' := by
  intro part hpart upload hupload hid hopen backend
  -- a part of an open upload is not queued before the effect
  have hunqueued : queuedOwner db.storageGcTasks ⟨backend, part.storageKey⟩ = none ∧
      (part ∈ db.multipartParts → ∃ old ∈ db.multipartUploads, old.uploadId = part.uploadId ∧
        old.state.isOpen) := by
    rcases h.part_cases hpart with hold | ⟨-, -, -, hunnamed, hfree⟩
    · rcases h.upload_cases hupload with ⟨old, holdUpload, hfacts, hwasOpen⟩ | hfresh
      · have holdId : old.uploadId = part.uploadId :=
          (congrArg UploadFacts.uploadId hfacts).trans hid
        exact ⟨hkept part hold old holdUpload holdId (hwasOpen hopen) backend,
          fun _ => ⟨old, holdUpload, holdId, hwasOpen hopen⟩⟩
      · obtain ⟨owner, howner, hownerId⟩ := hsound.rows.owner part hold
        exact absurd (hownerId.trans hid.symm) (Table.find?_eq_none_iff.1 hfresh owner howner)
    · exact ⟨hfree backend, fun hold => absurd rfl (hunnamed part hold)⟩
  rcases h.queue_cases ⟨backend, part.storageKey⟩ with hsame | ⟨owner, -, hqueues⟩
  · rw [hsame]
    exact hunqueued.1
  · exfalso
    obtain ⟨nonce, hrendered⟩ := (h.partRows hsound.rows).key part hpart
    have hnamed : ∀ row ∈ db.multipartParts, row.storageKey = part.storageKey →
        row = part := by
      intro row hrow hkey
      rcases h.part_cases hpart with hold | ⟨-, -, -, hunnamed, -⟩
      · exact hsound.rows.eq_of_storageKey hrow hold hkey
      · exact absurd hkey (hunnamed row hrow)
    rcases hqueues.part_key hsound.intentKeys hsound.versionKeys hrendered with
      ⟨old, hold, row, hrow, hrowId, hkey, -, ⟨-, hgone⟩ | hclosed⟩ | ⟨hdropped, -⟩
    · exact hgone (hnamed row hrow hkey ▸ hpart)
    · have hrowEq := hnamed row hrow hkey
      subst hrowEq
      obtain ⟨other, hother, hotherId, hotherOpen⟩ := hunqueued.2 hrow
      rw [Table.eq_of_key hother hold (hotherId.trans hrowId), hclosed] at hotherOpen
      cases hotherOpen
    · obtain ⟨hunstored, hclosed⟩ := hdrops _ hdropped
      rcases h.part_cases hpart with hold | ⟨hstored, -⟩
      · obtain ⟨other, hother, hotherId, hotherOpen⟩ := hunqueued.2 hold
        rw [hclosed part hold rfl other hother hotherId] at hotherOpen
        cases hotherOpen
      · exact hunstored hstored

theorem Effects.part_cases (h : Effects licence db db') {part : S3MultipartPart}
    (hpart : part ∈ db'.multipartParts) :
    part ∈ db.multipartParts ∨ licence.stores part.storageKey := by
  have hall := h.invariant (P := fun mid => ∀ part ∈ mid.multipartParts,
      part ∈ db.multipartParts ∨ licence.stores part.storageKey) ?_ fun _ => Or.inl
  · exact hall part hpart
  · intro mid after hmid heffect part hpart
    rcases heffect.part_cases hpart with hold | ⟨hstored, -⟩
    · exact hmid part hold
    · exact Or.inr hstored

theorem Effects.partsSound (h : Effects licence db db') (hsound : PartsSound db) :
    PartsSound db' :=
  h.invariant (P := PartsSound) (fun _ _ hdb heffect => heffect.partsSound hdb) hsound

theorem Effects.partKeysWithin {keys : StorageKey → Prop} (h : Effects licence db db')
    (hsound : PartsSound db) (hstores : ∀ key, licence.stores key → keys key)
    (hdrops : ∀ key, licence.drops key → keys key) (hkeys : PartKeysWithin keys db) :
    PartKeysWithin keys db' := by
  have hboth := h.invariant (P := fun db => PartsSound db ∧ PartKeysWithin keys db)
    (fun _ _ hdb heffect => ⟨heffect.partsSound hdb.1,
      heffect.partKeysWithin hdb.1.intentKeys hdb.1.versionKeys hstores hdrops hdb.2⟩)
    ⟨hsound, hkeys⟩
  exact hboth.2

/-- A part key that is not in use stays out of use unless the licence names it. -/
theorem Effects.key_unused (h : Effects licence db db') (hsound : PartsSound db)
    {uploadId : MultipartUploadId} {partNumber : Nat} {nonce : Uuid}
    (hstores : ¬ licence.stores (.part uploadId partNumber nonce))
    (hdrops : ¬ licence.drops (.part uploadId partNumber nonce))
    (hunused : ¬ KeyInUse db (.part uploadId partNumber nonce)) :
    ¬ KeyInUse db' (.part uploadId partNumber nonce) := by
  have hwithin : PartKeysWithin (fun key => key ≠ .part uploadId partNumber nonce) db :=
    fun _ _ _ huse heq => hunused (heq ▸ huse)
  have hstores' : ∀ key, licence.stores key → key ≠ .part uploadId partNumber nonce := by
    rintro key hkey rfl
    exact hstores hkey
  have hdrops' : ∀ key, licence.drops key → key ≠ .part uploadId partNumber nonce := by
    rintro key hkey rfl
    exact hdrops hkey
  have hafter := h.partKeysWithin hsound hstores' hdrops' hwithin
  exact fun huse => hafter _ _ _ huse rfl

/-- A key in use stays in use. -/
theorem Effect.keyInUse (h : Effect licence db db') {key : StorageKey} (huse : KeyInUse db key) :
    KeyInUse db' key := by
  rcases huse with ⟨part, hpart, rfl⟩ | ⟨backend, owner, howner⟩
  · rcases h.part_kept hpart with hkept | hqueued
    · exact Or.inl ⟨part, hkept, rfl⟩
    · exact Or.inr hqueued
  · exact Or.inr ⟨backend, owner, h.keeps_queuedOwner howner⟩

theorem Effects.keyInUse (h : Effects licence db db') {key : StorageKey}
    (huse : KeyInUse db key) : KeyInUse db' key :=
  h.invariant (P := fun db => KeyInUse db key) (fun _ _ hdb heffect => heffect.keyInUse hdb) huse

/-- What the licence drops is a part of closed uploads at most, and it is not stored again. -/
def DropsClosed (licence : Licence) (db : Database) : Prop :=
  ∀ key, licence.drops key → ¬ licence.stores key ∧
    ∀ part ∈ db.multipartParts, part.storageKey = key →
      ∀ upload ∈ db.multipartUploads, upload.uploadId = part.uploadId →
        upload.state.isOpen = false

theorem Effect.dropsClosed (h : Effect licence db db') (hrows : PartRows db.multipartParts
    db.multipartUploads) (hdrops : DropsClosed licence db) : DropsClosed licence db' := by
  intro key hkey
  obtain ⟨hunstored, hclosed⟩ := hdrops key hkey
  refine ⟨hunstored, fun part hpart hpartKey upload hupload hid => ?_⟩
  rcases h.part_cases hpart with hold | ⟨hstored, -⟩
  · rcases h.upload_cases hupload with ⟨old, holdUpload, hfacts, hopen⟩ | hfresh
    · have holdClosed := hclosed part hold hpartKey old holdUpload
        ((congrArg UploadFacts.uploadId hfacts).trans hid)
      by_contra hnow
      rw [hopen (by simpa using hnow)] at holdClosed
      cases holdClosed
    · obtain ⟨owner, howner, hownerId⟩ := hrows.owner part hold
      exact absurd (hownerId.trans hid.symm) (Table.find?_eq_none_iff.1 hfresh owner howner)
  · exact absurd (hpartKey ▸ hstored) hunstored

theorem Effects.partsKept (h : Effects licence db db') (hsound : PartsSound db)
    (hdrops : DropsClosed licence db) (hkept : PartsKept db) : PartsKept db' := by
  have hall := h.invariant
    (P := fun db => PartsSound db ∧ DropsClosed licence db ∧ PartsKept db)
    (fun _ _ hdb heffect => ⟨heffect.partsSound hdb.1, heffect.dropsClosed hdb.1.rows hdb.2.1,
      heffect.partsKept hdb.1 hdb.2.1 hdb.2.2⟩) ⟨hsound, hdrops, hkept⟩
  exact hall.2.2

end

end MediaHub.Store

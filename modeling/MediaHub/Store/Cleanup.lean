import MediaHub.Store.Intents
import MediaHub.Store.Parts

namespace MediaHub.Store

open Relational
open MediaHub.Core

/-- The payload of a visible version is not queued and the payload of any other one is; neither
key of a live intent is queued, and both keys of an intent that was given up are. -/
structure QueueExact (db : Database) : Prop where
  active : ∀ version ∈ db.objectVersions, version.isActive →
    ∀ locator, version.locator? = some locator →
      queuedOwner db.storageGcTasks locator = none
  retired : ∀ version ∈ db.objectVersions, version.isActive = false →
    PayloadQueued db.storageGcTasks version
  live : ∀ intent ∈ db.uploadIntents, intent.state.isLive → ∀ locator,
    locator = intent.temporaryLocator ∨ locator = intent.finalLocator →
      queuedOwner db.storageGcTasks locator = none
  ended : ∀ intent ∈ db.uploadIntents, intent.state = .aborted ∨ intent.state = .expired →
    ∀ locator, locator = intent.temporaryLocator ∨ locator = intent.finalLocator →
      ∃ owner, queuedOwner db.storageGcTasks locator = some owner ∧ NamesIntent owner intent

/-- A queued key that was rendered for an intent is the key of an intent. -/
structure QueueKnown (tasks : Table StorageGcTask) (intents : Table UploadIntent) : Prop where
  staging : ∀ locator owner, queuedOwner tasks locator = some owner → ∀ intentId versionId,
    locator.key = .staging intentId versionId → ∃ intent ∈ intents, intent.id = intentId
  object : ∀ locator owner, queuedOwner tasks locator = some owner →
    ∀ applicationId bucketId versionId, locator.key = .object applicationId bucketId versionId →
      ∃ intent ∈ intents, intent.proposedVersionId = versionId

/-- Everything that the queue relies on. -/
structure CleanupSound (db : Database) : Prop where
  parts : PartsSound db
  intents : IntentsSound db
  known : QueueKnown db.storageGcTasks db.uploadIntents
  exact : QueueExact db

/-- A data version has a payload. -/
theorem data_of_locator {version : ObjectVersion} {locator : StorageLocator}
    (h : version.locator? = some locator) : version.payload ≠ .deleteMarker := by
  intro hmarker
  rw [ObjectVersion.locator?, hmarker] at h
  cases h

/-- The proposal of a data version is committed. -/
theorem IntentsSound.committed_of_proposed {db : Database} (h : IntentsSound db)
    {version : ObjectVersion} (hversion : version ∈ db.objectVersions)
    (hdata : version.payload ≠ .deleteMarker) {intent : UploadIntent}
    (hintent : intent ∈ db.uploadIntents) (hproposed : intent.proposedVersionId = version.id) :
    intent.state = .committed := by
  obtain ⟨owner, howner, hstate, hownerProposed⟩ := h.owner version hversion hdata
  rw [h.proposed_inj intent hintent owner howner (hproposed.trans hownerProposed.symm)]
  exact hstate

section

variable {licence : Licence} {db db' : Database} {locator : StorageLocator}
  {owner : GcProvenance}

/-- Why a final key is queued: its version was retired, or its intent was given up. -/
theorem Queues.object_key (h : Queues licence db db' locator owner) (hsound : PartsSound db)
    {applicationId : ApplicationId} {bucketId : BucketId} {versionId : ObjectVersionId}
    (hkey : locator.key = .object applicationId bucketId versionId) :
    (∃ version ∈ db.objectVersions, version.id = versionId ∧ version.isActive ∧
      version.locator? = some locator ∧
      ∀ row ∈ db'.objectVersions, row.id = version.id → row.isActive = false) ∨
    ∃ intent ∈ db.uploadIntents, intent.proposedVersionId = versionId ∧
      intent.state ≠ .committed ∧ ∀ row ∈ db'.uploadIntents, row.id = intent.id →
        row.state = .aborted ∨ row.state = .expired := by
  cases h with
  | version hmem hactive _ hlocator _ hafter =>
      have hrendered := hsound.versionKeys _ hmem locator hlocator
      rw [hkey] at hrendered
      injection hrendered with _ _ hid
      exact Or.inl ⟨_, hmem, hid.symm, hactive, hlocator, hafter⟩
  | intent hmem hlocator _ hstate hafter =>
      obtain ⟨htemporary, hfinal⟩ := hsound.intentKeys _ hmem
      rcases hlocator with rfl | rfl
      · simp only [UploadIntent.temporaryLocator, htemporary] at hkey
        cases hkey
      · simp only [UploadIntent.finalLocator, hfinal] at hkey
        injection hkey with _ _ hid
        exact Or.inr ⟨_, hmem, hid, hstate, hafter⟩
  | replacedPart _ hpart _ hlocator =>
      obtain ⟨nonce, hnonce⟩ := hsound.rows.key _ hpart
      rw [hlocator, hnonce] at hkey
      cases hkey
  | droppedKey _ hdropped hlocator =>
      subst hlocator
      cases hdropped with
      | closed _ hpart =>
          obtain ⟨nonce, hnonce⟩ := hsound.rows.key _ hpart
          rw [hnonce] at hkey
          cases hkey
      | givenUp => cases hkey
      | temporary hintent _ _ htemporary =>
          simp only [htemporary, (hsound.intentKeys _ hintent).1] at hkey
          cases hkey

/-- Why a temporary key is queued: its intent was given up, or it is committed. -/
theorem Queues.staging_key (h : Queues licence db db' locator owner) (hsound : PartsSound db)
    {intentId : UploadIntentId} {versionId : ObjectVersionId}
    (hkey : locator.key = .staging intentId versionId) :
    ∃ intent ∈ db.uploadIntents, intent.id = intentId ∧
      (intent.state = .committed ∨ ∀ row ∈ db'.uploadIntents, row.id = intent.id →
        row.state = .aborted ∨ row.state = .expired) := by
  cases h with
  | version hmem _ _ hlocator =>
      have hrendered := hsound.versionKeys _ hmem locator hlocator
      rw [hkey] at hrendered
      cases hrendered
  | intent hmem hlocator _ _ hafter =>
      obtain ⟨htemporary, hfinal⟩ := hsound.intentKeys _ hmem
      rcases hlocator with rfl | rfl
      · simp only [UploadIntent.temporaryLocator, htemporary] at hkey
        injection hkey with hid _
        exact ⟨_, hmem, hid, Or.inr hafter⟩
      · simp only [UploadIntent.finalLocator, hfinal] at hkey
        cases hkey
  | replacedPart _ hpart _ hlocator =>
      obtain ⟨nonce, hnonce⟩ := hsound.rows.key _ hpart
      rw [hlocator, hnonce] at hkey
      cases hkey
  | droppedKey _ hdropped hlocator =>
      subst hlocator
      cases hdropped with
      | closed _ hpart =>
          obtain ⟨nonce, hnonce⟩ := hsound.rows.key _ hpart
          rw [hnonce] at hkey
          cases hkey
      | givenUp => cases hkey
      | temporary hintent hcommitted _ htemporary =>
          simp only [htemporary, (hsound.intentKeys _ hintent).1] at hkey
          injection hkey with hid _
          exact ⟨_, hintent, hid, Or.inl hcommitted⟩

end

section

variable [Md5] {licence : Licence} {db db' : Database}

/-- The rows of an intent in both databases. -/
theorem Effect.intent_after (h : Effect licence db db') {intent : UploadIntent}
    (hintent : intent ∈ db.uploadIntents) :
    ∃ row ∈ db'.uploadIntents, row.id = intent.id ∧
      row.proposedVersionId = intent.proposedVersionId := by
  obtain ⟨row, hrow, hfacts, -⟩ := h.intent_kept hintent
  exact ⟨row, hrow, congrArg IntentFacts.id hfacts, proposed_of_facts hfacts⟩

theorem Effect.queueKnown (h : Effect licence db db') (hsound : CleanupSound db) :
    QueueKnown db'.storageGcTasks db'.uploadIntents := by
  have hafter : ∀ intent ∈ db.uploadIntents, ∃ row ∈ db'.uploadIntents, row.id = intent.id ∧
      row.proposedVersionId = intent.proposedVersionId := fun _ => h.intent_after
  constructor
  · intro locator owner howner intentId versionId hkey
    rcases h.queue_cases locator with hsame | ⟨owner', -, hqueues⟩
    · rw [hsame] at howner
      obtain ⟨intent, hintent, rfl⟩ :=
        hsound.known.staging locator owner howner intentId versionId hkey
      obtain ⟨row, hrow, hid, -⟩ := hafter intent hintent
      exact ⟨row, hrow, hid⟩
    · obtain ⟨intent, hintent, rfl, -⟩ := hqueues.staging_key hsound.parts hkey
      obtain ⟨row, hrow, hid, -⟩ := hafter intent hintent
      exact ⟨row, hrow, hid⟩
  · intro locator owner howner applicationId bucketId versionId hkey
    rcases h.queue_cases locator with hsame | ⟨owner', -, hqueues⟩
    · rw [hsame] at howner
      obtain ⟨intent, hintent, rfl⟩ :=
        hsound.known.object locator owner howner applicationId bucketId versionId hkey
      obtain ⟨row, hrow, -, hproposed⟩ := hafter intent hintent
      exact ⟨row, hrow, hproposed⟩
    · rcases hqueues.object_key hsound.parts hkey with
        ⟨version, hversion, rfl, -, hlocator, -⟩ | ⟨intent, hintent, rfl, -⟩
      · obtain ⟨intent, hintent, -, hproposed⟩ :=
          hsound.intents.owner version hversion (data_of_locator hlocator)
        obtain ⟨row, hrow, -, hproposed'⟩ := hafter intent hintent
        exact ⟨row, hrow, hproposed'.trans hproposed⟩
      · obtain ⟨row, hrow, -, hproposed⟩ := hafter intent hintent
        exact ⟨row, hrow, hproposed⟩

/-- A visible version is not queued. -/
theorem Effect.active_unqueued (h : Effect licence db db') (hsound : CleanupSound db)
    {row : ObjectVersion} (hrow : row ∈ db'.objectVersions) (hactive : row.isActive)
    {locator : StorageLocator} (hlocator : row.locator? = some locator) :
    queuedOwner db'.storageGcTasks locator = none := by
  have hkey := (h.partsSound hsound.parts).versionKeys row hrow locator hlocator
  have hintents := h.intentsSound hsound.intents
  have hdata := data_of_locator hlocator
  rcases h.queue_cases locator with hsame | ⟨owner, -, hqueues⟩
  · rw [hsame]
    rcases h.version_cases hrow with ⟨version, hversion, hfacts, hwas, -⟩ | ⟨-, -, hadded⟩
    · rw [ObjectVersion.locator?_of_facts hfacts] at hlocator
      exact hsound.exact.active version hversion (hwas hactive) locator hlocator
    · cases hadded with
      | committed commit hvalid hrowEq =>
          rw [hrowEq, hvalid.locator] at hlocator
          refine hsound.exact.live commit.intent hvalid.intent_mem ?_ locator
            (Or.inr (Option.some.inj hlocator).symm)
          rw [hvalid.committing]
          rfl
      | marker hmarker => exact absurd hmarker hdata
  · rcases hqueues.object_key hsound.parts hkey with
      ⟨version, hversion, hid, -, -, hafter⟩ | ⟨intent, hintent, hproposed, -, hafter⟩
    · rw [hafter row hrow hid.symm] at hactive
      cases hactive
    · obtain ⟨kept, hkept, hkeptId, hkeptProposed⟩ := h.intent_after hintent
      have hcommitted := hintents.committed_of_proposed hrow hdata hkept
        (hkeptProposed.trans hproposed)
      rcases hafter kept hkept hkeptId with hend | hend <;>
        · rw [hcommitted] at hend
          cases hend

/-- Neither key of a live intent is queued. -/
theorem Effect.live_unqueued (h : Effect licence db db') (hsound : CleanupSound db)
    {row : UploadIntent} (hrow : row ∈ db'.uploadIntents) (hlive : row.state.isLive)
    {locator : StorageLocator}
    (hlocator : locator = row.temporaryLocator ∨ locator = row.finalLocator) :
    queuedOwner db'.storageGcTasks locator = none := by
  have hparts := h.partsSound hsound.parts
  have hintents := h.intentsSound hsound.intents
  obtain ⟨htemporary, hfinal⟩ := hparts.intentKeys row hrow
  -- a queued key of the intent would belong to a row that is not live
  have hqueues : ∀ owner, Queues licence db db' locator owner → False := by
    intro owner hqueues
    have hend : ∀ intent ∈ db.uploadIntents, intent.id = row.id →
        (intent.state = .committed ∨ ∀ other ∈ db'.uploadIntents, other.id = intent.id →
          other.state = .aborted ∨ other.state = .expired) → False := by
      rintro intent hintent hid (hcommitted | hafter)
      · obtain ⟨kept, hkept, hfacts, rfl | ⟨hold, -⟩⟩ := h.intent_kept hintent
        · rw [Table.eq_of_key hkept hrow hid, ] at hcommitted
          rw [hcommitted] at hlive
          cases hlive
        · rw [hcommitted] at hold
          cases hold
      · rcases hafter row hrow hid.symm with hstate | hstate <;>
          · rw [hstate] at hlive
            cases hlive
    rcases hlocator with rfl | rfl
    · obtain ⟨intent, hintent, hid, hreason⟩ := hqueues.staging_key hsound.parts htemporary
      exact hend intent hintent hid hreason
    · rcases hqueues.object_key hsound.parts hfinal with
        ⟨version, hversion, hid, -, hversionLocator, -⟩ | ⟨intent, hintent, hproposed, -, hafter⟩
      · obtain ⟨kept, hkept, hkeptFacts, -⟩ := h.version_kept hversion
        have hdata : kept.payload ≠ .deleteMarker := by
          rw [ObjectVersion.payload_of_facts hkeptFacts]
          exact data_of_locator hversionLocator
        have hcommitted := hintents.committed_of_proposed hkept hdata hrow
          (hid.symm.trans (ObjectVersion.id_of_facts hkeptFacts).symm)
        rw [hcommitted] at hlive
        cases hlive
      · obtain ⟨kept, hkept, hkeptId, hkeptProposed⟩ := h.intent_after hintent
        have heq := hintents.proposed_inj kept hkept row hrow (hkeptProposed.trans hproposed)
        exact hend intent hintent (hkeptId.symm.trans (congrArg UploadIntent.id heq))
          (Or.inr hafter)
  rcases h.queue_cases locator with hsame | ⟨owner, -, hqueued⟩
  · rw [hsame]
    rcases h.intent_cases hrow with hold | ⟨hnew, -⟩ | ⟨old, hold, holdLive, hfacts, -⟩
    · exact hsound.exact.live row hold hlive locator hlocator
    · by_contra hne
      obtain ⟨owner, howner⟩ := Option.ne_none_iff_exists'.1 hne
      rcases hlocator with rfl | rfl
      · obtain ⟨intent, hintent, hid⟩ :=
          hsound.known.staging _ owner howner _ _ htemporary
        exact Table.find?_eq_none_iff.1 hnew.fresh intent hintent hid
      · obtain ⟨intent, hintent, hproposed⟩ :=
          hsound.known.object _ owner howner _ _ _ hfinal
        exact hnew.unproposed intent hintent hproposed
    · refine hsound.exact.live old hold holdLive locator ?_
      rwa [← temporaryLocator_of_facts hfacts, ← finalLocator_of_facts hfacts]
  · exact (hqueues owner hqueued).elim

theorem Effect.queueExact (h : Effect licence db db') (hsound : CleanupSound db) :
    QueueExact db' where
  active _ hrow hactive _ hlocator := h.active_unqueued hsound hrow hactive hlocator
  retired row hrow hretired locator hlocator := by
    rcases h.version_cases hrow with ⟨version, hversion, hfacts, -, hqueued⟩ | ⟨-, hactive, -⟩
    · rw [ObjectVersion.locator?_of_facts hfacts] at hlocator
      have hnames : ∀ owner, NamesVersion owner version → NamesVersion owner row := by
        intro owner hnames
        refine ⟨?_, ?_, ?_, hnames.uploadIntentId_eq, hnames.multipartUploadId_eq⟩
        · rw [ObjectVersion.applicationId_of_facts hfacts, hnames.applicationId_eq]
        · rw [ObjectVersion.bucketId_of_facts hfacts, hnames.bucketId_eq]
        · rw [ObjectVersion.id_of_facts hfacts, hnames.objectVersionId_eq]
      cases hactive : version.isActive with
      | true =>
          obtain ⟨owner, howner, hversionNames⟩ := hqueued hactive hretired locator hlocator
          exact ⟨owner, howner, hnames owner hversionNames⟩
      | false =>
          obtain ⟨owner, howner, hversionNames⟩ :=
            hsound.exact.retired version hversion hactive locator hlocator
          exact ⟨owner, h.keeps_queuedOwner howner, hnames owner hversionNames⟩
    · rw [hretired] at hactive
      cases hactive
  live _ hrow hlive _ hlocator := h.live_unqueued hsound hrow hlive hlocator
  ended row hrow hend locator hlocator := by
    rcases h.intent_cases hrow with hold | ⟨hnew, -⟩ | ⟨old, hold, -, hfacts, hchange⟩
    · obtain ⟨owner, howner, hnames⟩ := hsound.exact.ended row hold hend locator hlocator
      exact ⟨owner, h.keeps_queuedOwner howner, hnames⟩
    · rw [hnew.staging] at hend
      rcases hend with hend | hend <;> cases hend
    · rw [temporaryLocator_of_facts hfacts, finalLocator_of_facts hfacts] at hlocator
      cases hchange with
      | advanced hadvances =>
          have hlive := hadvances.live'
          rcases hend with hend | hend <;>
            · rw [hend] at hlive
              cases hlive
      | ended _ _ hqueued =>
          obtain ⟨owner, howner, hnames⟩ := hqueued locator hlocator
          refine ⟨owner, howner, ?_, ?_, hnames.objectVersionId_eq, ?_, hnames.reason⟩
          · rw [hnames.applicationId_eq]
            exact congrArg IntentFacts.applicationId hfacts.symm
          · rw [hnames.bucketId_eq]
            exact congrArg IntentFacts.bucketId hfacts.symm
          · rw [hnames.uploadIntentId_eq]
            exact congrArg (fun facts => some (IntentFacts.id facts)) hfacts.symm
      | committed commit _ _ _ _ hnew =>
          rw [hnew] at hend
          rcases hend with hend | hend <;> cases hend

theorem Effect.cleanupSound (h : Effect licence db db') (hsound : CleanupSound db) :
    CleanupSound db' where
  parts := h.partsSound hsound.parts
  intents := h.intentsSound hsound.intents
  known := h.queueKnown hsound
  exact := h.queueExact hsound

theorem Effects.cleanupSound (h : Effects licence db db') (hsound : CleanupSound db) :
    CleanupSound db' :=
  h.invariant (P := CleanupSound) (fun _ _ hdb heffect => heffect.cleanupSound hdb) hsound

end

end MediaHub.Store

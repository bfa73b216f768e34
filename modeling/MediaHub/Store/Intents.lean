import MediaHub.Store.Identity
import MediaHub.Store.IntentEffects

namespace MediaHub.Store

open Relational
open MediaHub.Core

/-- The payload of a version that stops being visible has its cleanup task. -/
def PayloadQueued (tasks : Table StorageGcTask) (version : ObjectVersion) : Prop :=
  ∀ locator, version.locator? = some locator →
    ∃ owner, queuedOwner tasks locator = some owner ∧ NamesVersion owner version

theorem QueuesPayload.queued {tasks : Table StorageGcTask} {version : ObjectVersion}
    {task : Option NewStorageGcTask} (h : QueuesPayload tasks version task) :
    PayloadQueued (queueTasks tasks task.toList) version := by
  intro locator hlocator
  rw [← h.locator] at hlocator
  obtain ⟨new, hnew, rfl⟩ := Option.map_eq_some_iff.1 hlocator
  exact ⟨_, queuedOwner_queueTasks_of_mem h.admitted (Option.mem_toList.2 hnew),
    h.names new hnew⟩

/-- A version that an effect brings in: the proposal of an intent, or a delete marker. -/
inductive VersionAdded (licence : Licence) (db db' : Database) (row : ObjectVersion) : Prop
  | committed (commit : VersionCommit) (hvalid : commit.Valid db)
      (hrow : row = commit.push.version) (hdb' : db' = commit.apply db)
      (hcommits : licence.commits commit.intent)
  | marker (hmarker : row.payload = .deleteMarker) (hmints : licence.mints row.id)
      (hunproposed : ∀ intent ∈ db.uploadIntents, intent.proposedVersionId ≠ row.id)

section

variable [Md5] {licence : Licence} {db db' : Database}

/-- A version stays under its facts; it stays visible unless the licence retires it. -/
theorem Effect.version_kept (h : Effect licence db db') {version : ObjectVersion}
    (hversion : version ∈ db.objectVersions) :
    ∃ row ∈ db'.objectVersions, row.facts = version.facts ∧
      (version.isActive → ¬ licence.retires version.id → row.isActive) := by
  have hpush : ∀ push : Push, push.Valid db →
      (∀ previous, push.replaced = some previous → licence.retires previous.id) →
      ∃ row ∈ push.versions db.objectVersions, row.facts = version.facts ∧
        (version.isActive → ¬ licence.retires version.id → row.isActive) := by
    intro push hvalid hretires
    refine ⟨push.age version, (Push.mem_versions hvalid.fresh).2 (Or.inr ⟨version, hversion, rfl⟩),
      push.facts_age version, fun hactive hkept => ?_⟩
    rw [Push.isActive_age, hactive, Bool.true_and, decide_eq_true_eq]
    intro hreplaced
    obtain ⟨previous, hprevious, hid⟩ := Option.map_eq_some_iff.1 hreplaced
    exact hkept (hid ▸ hretires previous hprevious)
  have hremoval : ∀ removal : Removal, Retires removal.retire →
      licence.retires removal.target.id →
      ∃ row ∈ db.objectVersions.rewrite removal.age, row.facts = version.facts ∧
        (version.isActive → ¬ licence.retires version.id → row.isActive) := by
    intro removal hretire hretires
    refine ⟨removal.age version, Table.mem_rewrite.2 ⟨version, hversion, rfl⟩,
      Removal.keepsFacts_age hretire version, fun hactive hkept => ?_⟩
    rw [Removal.isActive_age hretire, hactive, Bool.true_and, decide_eq_true_eq]
    exact fun hid => hkept (hid ▸ hretires)
  cases h with
  | accounted hstep => cases hstep <;> exact ⟨version, hversion, rfl, fun hactive _ => hactive⟩
  | versionCommitted hcommit _ hretires => exact hpush _ hcommit.push_valid hretires
  | markerPushed hmarker _ hretires => exact hpush _ hmarker.push_valid hretires
  | versionRemoved hremoved _ _ hretires =>
      exact hremoval _ hremoved.removal_valid.retires hretires
  | headRemoved hremoved _ _ hretires =>
      exact hremoval _ hremoved.removal_valid.retires hretires
  | @relocked versionId retention legalHold =>
      by_cases hid : version.id = versionId
      · refine ⟨ObjectVersion.relock retention legalHold version,
          Table.mem_update.2 (Or.inr ⟨version, hversion, hid, rfl⟩),
          keepsFacts_relock retention legalHold version, fun hactive _ => ?_⟩
        rwa [ObjectVersion.isActive_relock]
      · exact ⟨version, Table.mem_update.2 (Or.inl ⟨hversion, hid⟩), rfl,
          fun hactive _ => hactive⟩
  | _ => exact ⟨version, hversion, rfl, fun hactive _ => hactive⟩

/-- A version is an old one under its facts, and its payload is queued if it was retired; or it
is a visible version with a new id. -/
theorem Effect.version_cases (h : Effect licence db db') {row : ObjectVersion}
    (hrow : row ∈ db'.objectVersions) :
    (∃ version ∈ db.objectVersions, row.facts = version.facts ∧
      (row.isActive → version.isActive) ∧
      (version.isActive → row.isActive = false → PayloadQueued db'.storageGcTasks version)) ∨
    (db.objectVersions.find? row.id = none ∧ row.isActive ∧ VersionAdded licence db db' row) := by
  have hsame : ∀ version ∈ db.objectVersions, version = row →
      ∃ version ∈ db.objectVersions, row.facts = version.facts ∧
        (row.isActive → version.isActive) ∧
        (version.isActive → row.isActive = false → PayloadQueued db'.storageGcTasks version) := by
    rintro version hversion rfl
    exact ⟨version, hversion, rfl, id, fun hactive hretired => by simp [hactive] at hretired⟩
  have hpush : ∀ (push : Push) (task : Option NewStorageGcTask), push.Valid db →
      QueuesReplaced db.storageGcTasks push.replaced task →
      db'.storageGcTasks = queueTasks db.storageGcTasks task.toList →
      row ∈ push.versions db.objectVersions → row = push.version ∨
      ∃ version ∈ db.objectVersions, row.facts = version.facts ∧
        (row.isActive → version.isActive) ∧
        (version.isActive → row.isActive = false → PayloadQueued db'.storageGcTasks version) := by
    intro push task hvalid hqueues htasks hmem
    rcases (Push.mem_versions hvalid.fresh).1 hmem with rfl | ⟨version, hversion, rfl⟩
    · exact Or.inl rfl
    refine Or.inr ⟨version, hversion, push.facts_age version, fun hactive => ?_,
      fun hactive hretired => ?_⟩
    · rw [Push.isActive_age, Bool.and_eq_true] at hactive
      exact hactive.1
    · rw [Push.isActive_age, hactive, Bool.true_and, decide_eq_false_iff_not, not_not] at hretired
      obtain ⟨previous, hprevious, hid⟩ := Option.map_eq_some_iff.1 hretired
      obtain ⟨hprevMem, -⟩ := hvalid.replaced_mem previous hprevious
      have heq : previous = version := Table.eq_of_key hprevMem hversion hid
      rw [hprevious] at hqueues
      rw [htasks, ← heq]
      exact hqueues.queued
  have hremoval : ∀ removed : VersionRemoval, removed.Valid db →
      db'.storageGcTasks = queueTasks db.storageGcTasks removed.task.toList →
      row ∈ db.objectVersions.rewrite removed.removal.age →
      ∃ version ∈ db.objectVersions, row.facts = version.facts ∧
        (row.isActive → version.isActive) ∧
        (version.isActive → row.isActive = false → PayloadQueued db'.storageGcTasks version) := by
    intro removed hvalid htasks hmem
    have hretire := hvalid.removal_valid.retires
    obtain ⟨version, hversion, rfl⟩ := Table.mem_rewrite.1 hmem
    refine ⟨version, hversion, Removal.keepsFacts_age hretire version, fun hactive => ?_,
      fun hactive hretired => ?_⟩
    · rw [Removal.isActive_age hretire, Bool.and_eq_true] at hactive
      exact hactive.1
    · rw [Removal.isActive_age hretire, hactive, Bool.true_and, decide_eq_false_iff_not,
        not_not] at hretired
      have heq : removed.removal.target = version :=
        Table.eq_of_key hvalid.removal_valid.target_mem hversion hretired.symm
      rw [htasks, ← heq]
      exact hvalid.queues.queued
  cases h with
  | accounted hstep => cases hstep <;> exact Or.inl (hsame row hrow rfl)
  | versionCommitted hcommit hcommits =>
      rcases hpush _ _ hcommit.push_valid hcommit.queues rfl hrow with rfl | hold
      · exact Or.inr ⟨hcommit.push_valid.fresh, hcommit.push_valid.active,
          .committed _ hcommit rfl rfl hcommits⟩
      · exact Or.inl hold
  | markerPushed hmarker hmints =>
      rcases hpush _ _ hmarker.push_valid hmarker.queues rfl hrow with rfl | hold
      · exact Or.inr ⟨hmarker.push_valid.fresh, hmarker.push_valid.active,
          .marker hmarker.isMarker hmints hmarker.unproposed⟩
      · exact Or.inl hold
  | versionRemoved hremoved => exact Or.inl (hremoval _ hremoved rfl hrow)
  | headRemoved hremoved => exact Or.inl (hremoval _ hremoved rfl hrow)
  | @relocked versionId retention legalHold =>
      rcases Table.mem_update.1 hrow with ⟨hold, -⟩ | ⟨version, hversion, -, rfl⟩
      · exact Or.inl (hsame row hold rfl)
      · refine Or.inl ⟨version, hversion, keepsFacts_relock retention legalHold version, ?_, ?_⟩
        · rw [ObjectVersion.isActive_relock]
          exact id
        · rw [ObjectVersion.isActive_relock]
          intro hactive hretired
          rw [hactive] at hretired
          cases hretired
  | _ => exact Or.inl (hsame row hrow rfl)

theorem Effects.version_kept (h : Effects licence db db') {version : ObjectVersion}
    (hversion : version ∈ db.objectVersions) :
    ∃ row ∈ db'.objectVersions, row.facts = version.facts ∧
      (version.isActive → ¬ licence.retires version.id → row.isActive) := by
  refine h.invariant (P := fun db => ∃ row ∈ db.objectVersions, row.facts = version.facts ∧
      (version.isActive → ¬ licence.retires version.id → row.isActive)) ?_
    ⟨version, hversion, rfl, fun hactive _ => hactive⟩
  rintro mid mid' ⟨row, hrow, hfacts, hkept⟩ heffect
  obtain ⟨row', hrow', hfacts', hkept'⟩ := heffect.version_kept hrow
  refine ⟨row', hrow', hfacts'.trans hfacts, fun hactive hretires => ?_⟩
  refine hkept' (hkept hactive hretires) ?_
  rwa [ObjectVersion.id_of_facts hfacts]

end

/-- How a live intent changes under its facts. -/
inductive IntentChange (licence : Licence) (db db' : Database) (old new : UploadIntent) : Prop
  | advanced (hadvances : Advances old new)
      (hreleases : old.state = .committing → new.state ≠ .committing → licence.releases old)
  | ended (hterminal : new.state = .aborted ∨ new.state = .expired)
      (hnew : ∃ endedAt, new = UploadIntent.terminate new.state endedAt old)
      (hqueued : ∀ locator, locator = old.temporaryLocator ∨ locator = old.finalLocator →
        ∃ owner, queuedOwner db'.storageGcTasks locator = some owner ∧ NamesIntent owner old)
  | committed (commit : VersionCommit) (hvalid : commit.Valid db) (hintent : commit.intent = old)
      (hcommits : licence.commits old) (hdb' : db' = commit.apply db)
      (hnew : new = UploadIntent.commit commit.push.object.id commit.push.version.id
        commit.committedAt old)

theorem IntentEnd.Valid.change {licence : Licence} {db : Database} {ended : IntentEnd}
    (h : ended.Valid db) :
    IntentChange licence db (ended.apply db) ended.intent
      (UploadIntent.terminate ended.state ended.endedAt ended.intent) := by
  refine .ended h.terminal ⟨_, rfl⟩ fun locator hlocator => ?_
  have hmem : locator ∈ ended.tasks.map (·.locator) := by
    rw [h.queues.locators]
    rcases hlocator with rfl | rfl <;> simp
  obtain ⟨task, htask, rfl⟩ := List.mem_map.1 hmem
  exact ⟨_, queuedOwner_queueTasks_of_mem h.queues.admitted htask, h.queues.names task htask⟩

section

variable [Md5] {licence : Licence} {db db' : Database}

/-- An intent is an old one, a live one that moved on, or a new one. -/
theorem Effect.intent_cases (h : Effect licence db db') {row : UploadIntent}
    (hrow : row ∈ db'.uploadIntents) :
    row ∈ db.uploadIntents ∨ (NewIntentValid row db ∧ licence.mints row.proposedVersionId ∧
      ∀ other ∈ db'.uploadIntents, other = row ∨ other ∈ db.uploadIntents) ∨
      ∃ old ∈ db.uploadIntents, old.state.isLive ∧ row.facts = old.facts ∧
        IntentChange licence db db' old row := by
  cases h with
  | accounted hstep => cases hstep <;> exact Or.inl hrow
  | versionCommitted hcommit hcommits =>
      rcases (Table.mem_update_of_mem hcommit.intent_mem rfl).1 hrow with ⟨hold, -⟩ | rfl
      · exact Or.inl hold
      · refine Or.inr (Or.inr ⟨_, hcommit.intent_mem, ?_, rfl,
          .committed _ hcommit rfl hcommits rfl rfl⟩)
        rw [hcommit.committing]
        rfl
  | intentCreated hnew hmints =>
      rcases (Table.mem_insert hnew.fresh).1 hrow with rfl | hold
      · exact Or.inr (Or.inl ⟨hnew, hmints, fun _ => (Table.mem_insert hnew.fresh).1⟩)
      · exact Or.inl hold
  | intentAdvanced hmem hadvances hreleases =>
      rcases (Table.mem_update_of_mem hmem rfl).1 hrow with ⟨hold, -⟩ | rfl
      · exact Or.inl hold
      · exact Or.inr (Or.inr ⟨_, hmem, hadvances.live, hadvances.facts_eq,
          .advanced hadvances hreleases⟩)
  | intentEnded hended =>
      rcases (Table.mem_update_of_mem hended.intent_mem rfl).1 hrow with ⟨hold, -⟩ | rfl
      · exact Or.inl hold
      · exact Or.inr (Or.inr ⟨_, hended.intent_mem, hended.live, rfl, hended.change⟩)
  | _ => exact Or.inl hrow

/-- An intent keeps its facts, and it keeps its row once it has ended. -/
theorem Effect.intent_kept (h : Effect licence db db') {intent : UploadIntent}
    (hintent : intent ∈ db.uploadIntents) :
    ∃ row ∈ db'.uploadIntents, row.facts = intent.facts ∧
      (row = intent ∨ intent.state.isLive ∧ IntentChange licence db db' intent row) := by
  have hupdate : ∀ (old : UploadIntent) (f : Update UploadIntent), old ∈ db.uploadIntents →
      (f old).facts = old.facts → old.state.isLive → IntentChange licence db db' old (f old) →
      db'.uploadIntents = db.uploadIntents.update old.id f →
      ∃ row ∈ db'.uploadIntents, row.facts = intent.facts ∧
        (row = intent ∨ intent.state.isLive ∧ IntentChange licence db db' intent row) := by
    intro old f hold hfacts hlive hchange htable
    by_cases hid : intent.id = old.id
    · have heq : intent = old := Table.eq_of_key hintent hold hid
      subst heq
      refine ⟨f intent, ?_, hfacts, Or.inr ⟨hlive, hchange⟩⟩
      rw [htable]
      exact Table.mem_update.2 (Or.inr ⟨intent, hold, rfl, rfl⟩)
    · refine ⟨intent, ?_, rfl, Or.inl rfl⟩
      rw [htable]
      exact Table.mem_update.2 (Or.inl ⟨hintent, hid⟩)
  cases h with
  | accounted hstep => cases hstep <;> exact ⟨intent, hintent, rfl, Or.inl rfl⟩
  | intentCreated hnew => exact ⟨intent, Table.mem_insert_of_mem hintent, rfl, Or.inl rfl⟩
  | versionCommitted hcommit hcommits =>
      refine hupdate _ _ hcommit.intent_mem rfl ?_ (.committed _ hcommit rfl hcommits rfl rfl) rfl
      rw [hcommit.committing]
      rfl
  | intentAdvanced hmem hadvances hreleases =>
      exact hupdate _ _ hmem hadvances.facts_eq hadvances.live (.advanced hadvances hreleases) rfl
  | intentEnded hended =>
      exact hupdate _ _ hended.intent_mem rfl hended.live hended.change rfl
  | _ => exact ⟨intent, hintent, rfl, Or.inl rfl⟩

end

/-- Rows are consistent, proposals are unique, and an intent is committed exactly if the version
that it proposed is there. -/
structure IntentsSound (db : Database) : Prop where
  consistent : ∀ intent ∈ db.uploadIntents, intent.fromPersistence = .ok intent
  proposed_inj : ∀ intent ∈ db.uploadIntents, ∀ other ∈ db.uploadIntents,
    intent.proposedVersionId = other.proposedVersionId → intent = other
  committed : ∀ intent ∈ db.uploadIntents, intent.state = .committed →
    ∃ version ∈ db.objectVersions, version.payload ≠ .deleteMarker ∧
      version.id = intent.proposedVersionId ∧ version.locator? = some intent.finalLocator ∧
      intent.committedVersionId = some version.id ∧
      intent.committedObjectId = some version.objectId
  owner : ∀ version ∈ db.objectVersions, version.payload ≠ .deleteMarker →
    ∃ intent ∈ db.uploadIntents, intent.state = .committed ∧
      intent.proposedVersionId = version.id

/-- Ending a live row clears its lease and keeps it consistent. -/
theorem fromPersistence_terminate {intent : UploadIntent} {state : UploadIntentState}
    (h : intent.fromPersistence = .ok intent) (hlive : intent.state.isLive)
    (hterminal : state = .aborted ∨ state = .expired) (endedAt : Time) :
    (UploadIntent.terminate state endedAt intent).fromPersistence =
      .ok (UploadIntent.terminate state endedAt intent) := by
  obtain ⟨hkey, hfence, hfacts, hsize, hstate, -, hcommit, -⟩ := fromPersistence_ok.1 h
  have hunlocked : intent.hasCommit = false := by
    cases hold : intent.state <;>
      simp_all [UploadIntent.stateIsValid, UploadIntentState.isLive]
  refine fromPersistence_ok.2 ⟨hkey, hfence, hfacts, hsize, ?_, rfl, hcommit, by
    simp [UploadIntent.terminate]⟩
  rcases hterminal with rfl | rfl
  · change (!(false && false) && !intent.hasCommit) = true
    rw [hunlocked]
    rfl
  · change (!(false && false) && !intent.hasCommit) = true
    rw [hunlocked]
    rfl

theorem fromPersistence_commit {intent : UploadIntent}
    (h : intent.fromPersistence = .ok intent) (hstate : intent.state = .committing)
    (objectId : ObjectId) (versionId : ObjectVersionId) (committedAt : Time) :
    (UploadIntent.commit objectId versionId committedAt intent).fromPersistence =
      .ok (UploadIntent.commit objectId versionId committedAt intent) := by
  obtain ⟨hkey, hfence, hfacts, hsize, hvalid, -, -, -⟩ := fromPersistence_ok.1 h
  have hhas : intent.hasFacts := by
    simp only [UploadIntent.stateIsValid, hstate, Bool.and_eq_true] at hvalid
    exact hvalid.1.1
  refine fromPersistence_ok.2 ⟨hkey, hfence, hfacts, hsize, ?_, rfl, rfl, by
    simp [UploadIntent.commit]⟩
  change (intent.hasFacts && !(false && false) && (true && true)) = true
  rw [hhas]
  rfl

theorem proposed_of_facts {intent other : UploadIntent} (h : intent.facts = other.facts) :
    intent.proposedVersionId = other.proposedVersionId :=
  congrArg IntentFacts.proposedVersionId h

theorem finalLocator_of_facts {intent other : UploadIntent} (h : intent.facts = other.facts) :
    intent.finalLocator = other.finalLocator := by
  rw [UploadIntent.finalLocator, UploadIntent.finalLocator,
    show intent.storageBackend = other.storageBackend from congrArg IntentFacts.storageBackend h,
    show intent.finalStorageKey = other.finalStorageKey from
      congrArg IntentFacts.finalStorageKey h]

theorem temporaryLocator_of_facts {intent other : UploadIntent} (h : intent.facts = other.facts) :
    intent.temporaryLocator = other.temporaryLocator := by
  rw [UploadIntent.temporaryLocator, UploadIntent.temporaryLocator,
    show intent.storageBackend = other.storageBackend from congrArg IntentFacts.storageBackend h,
    show intent.temporaryStorageKey = other.temporaryStorageKey from
      congrArg IntentFacts.temporaryStorageKey h]

section

variable [Md5] {licence : Licence} {db db' : Database}

theorem Effect.intents_consistent (h : Effect licence db db') (hsound : IntentsSound db)
    {row : UploadIntent} (hrow : row ∈ db'.uploadIntents) : row.fromPersistence = .ok row := by
  rcases h.intent_cases hrow with hold | ⟨hnew, -⟩ | ⟨old, hold, hlive, -, hchange⟩
  · exact hsound.consistent row hold
  · exact hnew.consistent
  · cases hchange with
    | advanced hadvances => exact hadvances.consistent
    | ended hterminal hnew =>
        obtain ⟨endedAt, hnew⟩ := hnew
        rw [hnew]
        exact fromPersistence_terminate (hsound.consistent old hold) hlive hterminal endedAt
    | committed commit hvalid hintent _ _ hnew =>
        rw [hnew, ← hintent]
        exact fromPersistence_commit hvalid.consistent hvalid.committing _ _ _

theorem Effect.proposed_inj (h : Effect licence db db') (hsound : IntentsSound db)
    {intent other : UploadIntent} (hintent : intent ∈ db'.uploadIntents)
    (hother : other ∈ db'.uploadIntents)
    (hproposed : intent.proposedVersionId = other.proposedVersionId) : intent = other := by
  -- every row is the new one or comes from an old one with the same id and proposal
  have hrows : ∀ row ∈ db'.uploadIntents, ∀ other ∈ db'.uploadIntents,
      row.proposedVersionId = other.proposedVersionId → row = other ∨
      ∃ old ∈ db.uploadIntents, old.id = row.id ∧
        old.proposedVersionId = row.proposedVersionId := by
    intro row hrow other hother heq
    rcases h.intent_cases hrow with hold | ⟨hnew, -, honly⟩ | ⟨old, hold, -, hfacts, -⟩
    · exact Or.inr ⟨row, hold, rfl, rfl⟩
    · rcases honly other hother with rfl | hotherOld
      · exact Or.inl rfl
      · exact absurd heq.symm (hnew.unproposed other hotherOld)
    · exact Or.inr ⟨old, hold, congrArg IntentFacts.id hfacts.symm,
        proposed_of_facts hfacts.symm⟩
  rcases hrows intent hintent other hother hproposed with heq | ⟨old, hold, hid, hsame⟩
  · exact heq
  rcases hrows other hother intent hintent hproposed.symm with heq | ⟨old', hold', hid', hsame'⟩
  · exact heq.symm
  have heq : old = old' := hsound.proposed_inj old hold old' hold'
    (hsame.trans (hproposed.trans hsame'.symm))
  subst heq
  exact Table.eq_of_key hintent hother (hid.symm.trans hid')

/-- The version of a committed intent stays under its facts. -/
theorem Effect.intents_committed (h : Effect licence db db') (hsound : IntentsSound db)
    {row : UploadIntent} (hrow : row ∈ db'.uploadIntents) (hstate : row.state = .committed) :
    ∃ version ∈ db'.objectVersions, version.payload ≠ .deleteMarker ∧
      version.id = row.proposedVersionId ∧ version.locator? = some row.finalLocator ∧
      row.committedVersionId = some version.id ∧
      row.committedObjectId = some version.objectId := by
  rcases h.intent_cases hrow with hold | ⟨hnew, -⟩ | ⟨old, hold, hlive, hfacts, hchange⟩
  · obtain ⟨version, hversion, hdata, hid, hlocator, hversionId, hobjectId⟩ :=
      hsound.committed row hold hstate
    obtain ⟨kept, hkept, hkeptFacts, -⟩ := h.version_kept hversion
    refine ⟨kept, hkept, ?_, ?_, ?_, ?_, ?_⟩
    · rwa [ObjectVersion.payload_of_facts hkeptFacts]
    · rwa [ObjectVersion.id_of_facts hkeptFacts]
    · rwa [ObjectVersion.locator?_of_facts hkeptFacts]
    · rwa [ObjectVersion.id_of_facts hkeptFacts]
    · rwa [ObjectVersion.objectId_of_facts hkeptFacts]
  · rw [hnew.staging] at hstate
    cases hstate
  · cases hchange with
    | advanced hadvances =>
        have hlive' := hadvances.live'
        rw [hstate] at hlive'
        cases hlive'
    | ended hterminal =>
        rw [hstate] at hterminal
        rcases hterminal with hterminal | hterminal <;> cases hterminal
    | committed commit hvalid hintent _ hdb' hnew =>
        obtain ⟨stored, hpayload, -⟩ := hvalid.payload
        refine ⟨commit.push.version, ?_, by simp [hpayload], ?_, ?_, ?_, ?_⟩
        · rw [hdb']
          exact (Push.mem_versions hvalid.push_valid.fresh).2 (Or.inl rfl)
        · rw [proposed_of_facts hfacts, ← hintent, hvalid.proposed]
        · rw [finalLocator_of_facts hfacts, ← hintent, hvalid.locator]
        · rw [hnew]
          rfl
        · rw [hnew, hvalid.push_valid.objectId_eq]
          rfl

theorem Effect.intents_owner (h : Effect licence db db') (hsound : IntentsSound db)
    {row : ObjectVersion} (hrow : row ∈ db'.objectVersions) (hdata : row.payload ≠ .deleteMarker) :
    ∃ intent ∈ db'.uploadIntents, intent.state = .committed ∧
      intent.proposedVersionId = row.id := by
  rcases h.version_cases hrow with ⟨version, hversion, hfacts, -⟩ | ⟨-, -, hadded⟩
  · rw [ObjectVersion.payload_of_facts hfacts] at hdata
    obtain ⟨intent, hintent, hstate, hproposed⟩ := hsound.owner version hversion hdata
    obtain ⟨kept, hkept, hkeptFacts, rfl | ⟨hlive, -⟩⟩ := h.intent_kept hintent
    · exact ⟨kept, hkept, hstate, hproposed.trans (ObjectVersion.id_of_facts hfacts).symm⟩
    · rw [hstate] at hlive
      cases hlive
  · cases hadded with
    | committed commit hvalid hrow hdb' =>
        refine ⟨UploadIntent.commit commit.push.object.id commit.push.version.id
          commit.committedAt commit.intent, ?_, rfl, ?_⟩
        · rw [hdb']
          exact Table.mem_update.2 (Or.inr ⟨_, hvalid.intent_mem, rfl, rfl⟩)
        · rw [hrow]
          exact hvalid.proposed
    | marker hmarker => exact absurd hmarker hdata

theorem Effect.intentsSound (h : Effect licence db db') (hsound : IntentsSound db) :
    IntentsSound db' where
  consistent _ hrow := h.intents_consistent hsound hrow
  proposed_inj _ hintent _ hother := h.proposed_inj hsound hintent hother
  committed _ hrow := h.intents_committed hsound hrow
  owner _ hrow := h.intents_owner hsound hrow

/-- A row of an intent after a transaction: terminal rows stay as they are, and only a licence
ends a lease by a commit or a release. -/
structure Fenced (licence : Licence) (intent row : UploadIntent) : Prop where
  facts_eq : row.facts = intent.facts
  terminal : intent.state.isLive = false → row = intent
  committed : row.state = .committed → intent.state = .committed ∨
    ∃ old, old.facts = intent.facts ∧ licence.commits old
  released : intent.state = .committing →
    row.state = .committing ∨ row.state = .aborted ∨ row.state = .expired ∨
      ∃ old, old.facts = intent.facts ∧ (licence.commits old ∨ licence.releases old)

omit [Md5] in
theorem Fenced.refl (licence : Licence) (intent : UploadIntent) : Fenced licence intent intent where
  facts_eq := rfl
  terminal _ := rfl
  committed := Or.inl
  released := Or.inl

omit [Md5] in
theorem Fenced.step {intent row row' : UploadIntent} (h : Fenced licence intent row)
    (hfacts : row'.facts = row.facts)
    (hchange : row' = row ∨ row.state.isLive ∧ IntentChange licence db db' row row') :
    Fenced licence intent row' := by
  rcases hchange with rfl | ⟨hlive, hchange⟩
  · exact h
  refine ⟨hfacts.trans h.facts_eq, fun hterminal => ?_, fun hstate => ?_, fun hstate => ?_⟩
  · rw [h.terminal hterminal, hterminal] at hlive
    cases hlive
  · cases hchange with
    | advanced hadvances =>
        have hlive' := hadvances.live'
        rw [hstate] at hlive'
        cases hlive'
    | ended hend =>
        rw [hstate] at hend
        rcases hend with hend | hend <;> cases hend
    | committed _ _ _ hcommits => exact Or.inr ⟨row, h.facts_eq, hcommits⟩
  · rcases h.released hstate with hrow | hrow | hrow | hlicensed
    · cases hchange with
      | advanced hadvances hreleases =>
          by_cases hrow' : row'.state = .committing
          · exact Or.inl hrow'
          · exact Or.inr (Or.inr (Or.inr ⟨row, h.facts_eq, Or.inr (hreleases hrow hrow')⟩))
      | ended hend =>
          rcases hend with hend | hend
          · exact Or.inr (Or.inl hend)
          · exact Or.inr (Or.inr (Or.inl hend))
      | committed _ _ _ hcommits =>
          exact Or.inr (Or.inr (Or.inr ⟨row, h.facts_eq, Or.inl hcommits⟩))
    · rw [hrow] at hlive
      cases hlive
    · rw [hrow] at hlive
      cases hlive
    · exact Or.inr (Or.inr (Or.inr hlicensed))

theorem Effects.intent_fenced (h : Effects licence db db') {intent : UploadIntent}
    (hintent : intent ∈ db.uploadIntents) :
    ∃ row ∈ db'.uploadIntents, Fenced licence intent row := by
  refine h.invariant (P := fun db => ∃ row ∈ db.uploadIntents, Fenced licence intent row) ?_
    ⟨intent, hintent, .refl licence intent⟩
  rintro mid mid' ⟨row, hrow, hfenced⟩ heffect
  obtain ⟨row', hrow', hfacts, hchange⟩ := heffect.intent_kept hrow
  exact ⟨row', hrow', hfenced.step hfacts hchange⟩

end

end MediaHub.Store

import MediaHub.Store.IntentEffects
import MediaHub.Store.RetireEffects

namespace MediaHub.Store

open Relational
open MediaHub.Core

/-- What the service guarantees of the commits that it prepares. -/
structure PreparedCommit (commit : S3ObjectVersionCommit) : Prop where
  current : commit.version.becameNoncurrentAt = none
  reasons : ∀ task ∈ commit.gcTasks, task.provenance.reason = .replacedNullVersion

/-- A null version that comes next in its object replaces the active null version. -/
def ReplacedBy (db : Database) (version : ObjectVersion) (versionId : ObjectVersionId) : Prop :=
  version.isNullVersion ∧
  (∃ object ∈ db.objects, object.id = version.objectId ∧
    version.generation = object.generation + 1) ∧
  ∃ previous ∈ db.objectVersions,
    previous.id = versionId ∧ previous.objectId = version.objectId ∧ previous.isActive ∧
      previous.isNullVersion

theorem withInitialObjectLock_ok {version locked : ObjectVersion}
    {retention : Option ObjectRetention} {legalHold : Bool}
    (h : version.withInitialObjectLock retention legalHold = .ok locked) :
    locked.facts = version.facts ∧ locked.state = version.state ∧
      locked.becameNoncurrentAt = version.becameNoncurrentAt ∧
      locked.retention = retention ∧ locked.legalHold = legalHold := by
  unfold ObjectVersion.withInitialObjectLock at h
  split at h
  · split at h
    · cases h
    · cases h
      exact ⟨rfl, rfl, rfl, rfl, rfl⟩
  · cases h

/-- A version gets a lock only in a bucket with Object Lock. -/
theorem isUnlocked_of_initialRetention {configuration : BucketS3Configuration}
    {commit : S3ObjectVersionCommit} {retention : Option ObjectRetention}
    {version : ObjectVersion} (hdisabled : configuration.objectLockEnabled = false)
    (hrequest : commit.requestsLock → configuration.objectLockEnabled)
    (hretention : initialRetention configuration commit = .ok retention)
    (hversion : version.retention = retention)
    (hhold : version.legalHold = commit.requestedLegalHold.getD false) :
    ObjectVersion.isUnlocked version := by
  have hnone : commit.requestedLegalHold = none := by
    have hnot : ¬ commit.requestsLock := fun h => by simp [hrequest h] at hdisabled
    simp only [S3ObjectVersionCommit.requestsLock, Bool.or_eq_true, not_or,
      Option.not_isSome_iff_eq_none] at hnot
    exact hnot.2
  simp only [initialRetention, hdisabled] at hretention
  cases hretention
  simp [ObjectVersion.isUnlocked, hversion, hhold, hnone]

/-- Freezing the lock changes only lock columns of the version. -/
theorem freezeObjectLock_ok {commit frozen : S3ObjectVersionCommit} {db db' : Database}
    (h : (freezeObjectLock commit).run db = .ok (frozen, db')) :
    ∃ version, frozen = { commit with version } ∧ version.facts = commit.version.facts ∧
      version.state = commit.version.state ∧
      version.becameNoncurrentAt = commit.version.becameNoncurrentAt ∧
      (∃ bucket ∈ db.buckets, bucket.id = commit.version.bucketId ∧
        bucket.applicationId = commit.version.applicationId) ∧
      (ObjectVersion.isUnlocked version ∨ IsLockEnabled db.buckets commit.version.bucketId) ∧
      db = db' := by
  simp only [freezeObjectLock, Transaction.run_bind_ok, Transaction.run_query_ok,
    Transaction.run_orThrow_ok, Transaction.run_require_ok, run_domain_ok,
    Transaction.run_pure_ok] at h
  obtain ⟨_, _, ⟨hrow, rfl⟩, bucket, _, ⟨rfl, rfl⟩, _, _, ⟨hrequest, rfl⟩, retention, _,
    ⟨hretention, rfl⟩, version, _, ⟨hversion, rfl⟩, rfl, rfl⟩ := h
  obtain ⟨hfacts, hstate, hcurrent, hlock, hhold⟩ := withInitialObjectLock_ok hversion
  have hbucket := Database.findBucket_eq_some_iff.1 hrow
  refine ⟨version, rfl, hfacts, hstate, hcurrent, ⟨bucket, hbucket⟩, ?_, rfl⟩
  cases hcase : bucket.configuration.objectLockEnabled with
  | false =>
      exact Or.inl (isUnlocked_of_initialRetention hcase hrequest hretention hlock hhold)
  | true => exact Or.inr ⟨bucket, hbucket.1, hbucket.2.1, hcase⟩

theorem advancedTo_ok {object advanced : S3Object} {version : ObjectVersion} {now : Time}
    (h : object.advancedTo version now = .ok advanced) :
    version.objectId = object.id ∧ version.applicationId = object.applicationId ∧
      version.bucketId = object.bucketId ∧ version.state = .committed ∧
      version.generation = object.generation + 1 ∧ advanced.id = object.id ∧
      advanced.generation = version.generation := by
  unfold S3Object.advancedTo at h
  split at h
  · cases h
  rename_i howner
  simp only [not_or, ne_eq, not_not] at howner
  split at h
  · cases h
  rename_i hstate
  split at h
  · cases h
  rename_i generation hnext
  have hgeneration := checkedAddU64_eq_some hnext
  split at h
  · cases h
  rename_i hsame
  simp only [ne_eq, not_not] at hsame hstate
  cases h
  exact ⟨howner.1, howner.2.1, howner.2.2, hstate, hsame.trans hgeneration, rfl, hsame.symm⟩

/-- A valid replacement queues exactly the payload of the version that it replaces. -/
theorem replacementIsValid_tasks {commit : S3ObjectVersionCommit}
    {activeNull : Option ObjectVersion} (hprepared : PreparedCommit commit)
    (h : replacementIsValid commit activeNull)
    (hnull : activeNull.isSome → commit.version.isNullVersion) :
    ∃ task : Option NewStorageGcTask, commit.gcTasks = task.toList ∧
      (activeNull = none → task = none) ∧
      ∀ tasks, AllAdmitted tasks task.toList → QueuesReplaced tasks activeNull task := by
  have hfilter : commit.gcTasks.filter (·.provenance.reason = .replacedNullVersion) =
      commit.gcTasks :=
    List.filter_eq_self.2 fun task htask => decide_eq_true (hprepared.reasons task htask)
  simp only [replacementIsValid, hfilter] at h
  cases activeNull with
  | none =>
      refine ⟨none, ?_, fun _ => rfl, fun _ _ => rfl⟩
      split at h
      · simp only [Bool.and_eq_true, decide_eq_true_eq] at h
        exact h.2
      · split at h
        · cases h
        · simpa using h
  | some previous =>
      rw [if_neg (by simp [hnull rfl])] at h
      split at h
      · cases h
      simp only at h
      cases hpayload : previous.payload with
      | deleteMarker =>
          have hlocator : previous.locator? = none := by simp [ObjectVersion.locator?, hpayload]
          refine ⟨none, by simpa [hpayload] using h, fun _ => rfl,
            fun _ _ => ⟨?_, by simp, trivial⟩⟩
          rw [hlocator]
          rfl
      | object stored =>
          have hlocator : previous.locator? = some stored.locator := by
            simp [ObjectVersion.locator?, hpayload]
          simp only [hpayload] at h
          split at h
          · rename_i task htasks
            simp only [queuesReplaced, Bool.and_eq_true, decide_eq_true_eq] at h
            obtain ⟨⟨⟨⟨⟨happlication, hbucket⟩, hversion⟩, hintent⟩, hupload⟩, htask⟩ := h
            refine ⟨some task, htasks, by simp, fun tasks hadmitted => ⟨?_, ?_, hadmitted⟩⟩
            · rw [hlocator, ← htask]
              rfl
            · intro new hnew
              cases hnew
              exact ⟨happlication, hbucket, hversion, hintent, hupload⟩
          · cases h

theorem run_forEach_enqueueCommitGcTask {version : ObjectVersion}
    {tasks : List NewStorageGcTask} {db db' : Database} {u : Unit}
    (h : (forEach (enqueueCommitGcTask version) tasks).run db = .ok (u, db')) :
    AllAdmitted db.storageGcTasks tasks ∧
      db' = { db with storageGcTasks := queueTasks db.storageGcTasks tasks } := by
  induction tasks generalizing db with
  | nil =>
      cases Transaction.run_forEach_nil_ok.1 h
      exact ⟨trivial, rfl⟩
  | cons task tasks ih =>
      obtain ⟨mid, hhead, hrest⟩ := Transaction.run_forEach_cons_ok.1 h
      simp only [enqueueCommitGcTask, ensurePersistedNullReplacementGcTask,
        Transaction.run_bind_ok, Transaction.run_require_ok, insertStorageGcTask_ok,
        Transaction.run_ite_ok, Transaction.run_query_ok, Transaction.run_orThrow_ok,
        Transaction.run_pure_ok] at hhead
      obtain ⟨_, _, ⟨-, rfl⟩, _, _, ⟨⟨-, -, hadmits⟩, rfl⟩, hcheck⟩ := hhead
      have hmid : mid = db.mapStorageGcTasks (·.insert (StorageGcTask.ofNew task)) := by
        rcases hcheck with ⟨-, _, _, ⟨-, rfl⟩, _, _, ⟨-, rfl⟩, -, rfl⟩ | ⟨-, -, rfl⟩ <;> rfl
      subst hmid
      obtain ⟨hall, rfl⟩ := ih hrest
      exact ⟨⟨hadmits, hall⟩, rfl⟩

theorem storedPayload_ok {version : ObjectVersion} {stored : StoredObjectVersion}
    {db db' : Database} (h : (storedPayload version).run db = .ok (stored, db')) :
    version.payload = .object stored ∧ db = db' := by
  unfold storedPayload at h
  split at h
  · obtain ⟨rfl, rfl⟩ := Transaction.run_pure_ok.1 h
    exact ⟨‹_›, rfl⟩
  · exact (Transaction.run_fail_ok.1 h).elim

theorem insertObject_ok {object : S3Object} {db db' : Database} {u : Unit}
    (h : (insertObject object).run db = .ok (u, db')) :
    db.objects.find? object.id = none ∧
      (∀ row ∈ db.objects, ¬ (row.bucketId = object.bucketId ∧ row.key = object.key)) ∧
      db' = db.mapObjects (·.insert (S3Object.persisted object)) := by
  obtain ⟨-, hfresh, hclash, rfl⟩ := Transaction.run_insertRow_ok.1 h
  refine ⟨hfresh, fun row hrow hsame => ?_, rfl⟩
  have hrowClash := hclash row hrow
  simp [hsame.1, hsame.2] at hrowClash

/-- What the commit of a version does to the history: perhaps a new object, then a push. -/
structure CommitsVersion (licence : Licence) (commit : S3ObjectVersionCommit)
    (expected : ExpectedObjectIdentity) (committed : CommittedS3ObjectVersion) (push : Push)
    (task : Option NewStorageGcTask) (base : Database) : Prop where
  push_valid : push.Valid base
  version_eq : push.version = ObjectVersion.persisted commit.version
  objectId_eq : committed.object.id = push.object.id
  expected_eq : expected.matches push.object
  released_eq : committed.releasedUsedBytes = releasedBytes push.replaced
  queues : QueuesReplaced base.storageGcTasks push.replaced task
  retires : ∀ version, push.replaced = some version → licence.retires version.id

def pushedDatabase (push : Push) (task : Option NewStorageGcTask) (base : Database) : Database :=
  { base with
    objects := push.objects base.objects
    objectVersions := push.versions base.objectVersions
    storageGcTasks := queueTasks base.storageGcTasks task.toList }

theorem isActive_persisted {version : ObjectVersion} (h : version.state = .committed) :
    (ObjectVersion.persisted version).isActive := by
  simp [ObjectVersion.isActive, ObjectVersion.persisted, h]

section

variable {licence : Licence} {db db' : Database} {commit : S3ObjectVersionCommit}
  {expected : ExpectedObjectIdentity} {committed : CommittedS3ObjectVersion}

/-- The lock columns of a row are truncated, but not dropped. -/
theorem isUnlocked_persisted (version : ObjectVersion) :
    ObjectVersion.isUnlocked (ObjectVersion.persisted version) =
      ObjectVersion.isUnlocked version := by
  simp [ObjectVersion.isUnlocked, ObjectVersion.persisted]

theorem commitNextVersion_ok {objectId : ObjectId} {expectedGeneration : Nat}
    (hprepared : PreparedCommit commit)
    (hversioned : commit.version.isNullVersion ∨ IsVersioned db.buckets commit.version.bucketId)
    (hlockable : ObjectVersion.isUnlocked commit.version ∨
      IsLockEnabled db.buckets commit.version.bucketId)
    (hretires : ∀ versionId, ReplacedBy db commit.version versionId →
      licence.retires versionId)
    (h : (commitNextVersion commit objectId expectedGeneration expected).run db =
      .ok (committed, db')) :
    ∃ push task, commit.gcTasks = task.toList ∧
      db' = { pushedDatabase push none db with storageGcTasks := db.storageGcTasks } ∧
      (AllAdmitted db.storageGcTasks commit.gcTasks →
        CommitsVersion licence commit expected committed push task db) := by
  simp only [commitNextVersion, validateExpectedObjectIdentity,
    validateNullVersionReplacement, Transaction.run_bind_ok, Transaction.run_selectRow_ok,
    Transaction.run_require_ok, Transaction.run_query_ok, run_domain_ok,
    markCurrentVersionNoncurrent_ok, supersedeActiveNullVersion_ok, advanceObject_ok,
    Transaction.run_pure_ok] at h
  obtain ⟨object, _, ⟨⟨hobject, -⟩, rfl⟩, _, _, ⟨hexpected, rfl⟩, _, _, ⟨hgeneration, rfl⟩,
    activeNull, _, ⟨hactiveNull, rfl⟩, _, _, ⟨hreplacement, rfl⟩, advanced, _,
    ⟨hadvanced, rfl⟩, _, _, ⟨-, rfl⟩, _, _, ⟨-, rfl⟩, _, _, ⟨-, rfl⟩, _, _, hversion, _, _,
    ⟨-, rfl⟩, rfl, rfl⟩ := h
  obtain ⟨⟨hsize, hbigint, -, -, hversionFresh, hdistinct⟩, rfl⟩ :=
    insertObjectVersion_ok.1 hversion
  have hnull : ∀ previous, activeNull = some previous → commit.version.isNullVersion ∧
      previous ∈ db.objectVersions ∧ previous.objectId = object.id ∧ previous.isActive ∧
        previous.isNullVersion := by
    intro previous hprevious
    rw [hprevious] at hactiveNull
    split at hactiveNull
    · rename_i hversionNull
      exact ⟨hversionNull, Database.of_findActiveNullVersion hactiveNull⟩
    · cases hactiveNull
  obtain ⟨task, htasks, -, hqueues⟩ := replacementIsValid_tasks hprepared hreplacement
    fun hsome => by
      obtain ⟨previous, hprevious⟩ := Option.isSome_iff_exists.1 hsome
      exact (hnull previous hprevious).1
  obtain ⟨hobjectId, happlication, hbucket, hstate, hnext, hid, hadvancedGeneration⟩ :=
    advancedTo_ok hadvanced
  let push : Push := {
    object
    version := ObjectVersion.persisted commit.version
    replaced := activeNull
    markedAt := commit.committedAt
    supersededAt := commit.committedAt
    advancedAt := advanced.updatedAt }
  simp only [Database.mapObjectVersions, Table.updateOption_eq_rewrite, Table.rewrite_rewrite]
    at hversionFresh hdistinct
  have hpush : push.Valid db := {
    object_mem := hobject
    objectId_eq := hobjectId
    applicationId_eq := happlication
    bucketId_eq := hbucket
    generation_eq := hnext
    active := isActive_persisted hstate
    current := by simp [push, ObjectVersion.persisted, hprepared.current]
    fresh := by
      rw [Table.find?_rewrite, Option.map_eq_none_iff] at hversionFresh
      exact hversionFresh
    distinct := hdistinct
    replaced_mem := by
      intro previous hprevious
      obtain ⟨hversionNull, hmem, hpreviousObject, hactive, hpreviousNull⟩ :=
        hnull previous hprevious
      exact ⟨hmem, hpreviousObject, hactive, hpreviousNull, hversionNull⟩
    versioned := hversioned
    bigint := ⟨hbigint, hsize⟩
    truncated := postgresTime_postgresTime _
    lockable := by
      change ObjectVersion.isUnlocked (ObjectVersion.persisted commit.version) ∨ _
      rw [isUnlocked_persisted]
      exact hlockable }
  refine ⟨push, task, htasks, ?_, fun hadmitted => ?_⟩
  · rw [hadvancedGeneration]
    simp only [pushedDatabase, Push.versions_eq]
    rfl
  · exact {
      push_valid := hpush
      version_eq := rfl
      objectId_eq := hid
      expected_eq := hexpected
      released_eq := rfl
      queues := hqueues _ (htasks ▸ hadmitted)
      retires := by
        intro previous hprevious
        obtain ⟨hversionNull, hmem, hpreviousObject, hactive, hpreviousNull⟩ :=
          hnull previous hprevious
        exact hretires _ ⟨hversionNull, ⟨object, hobject, hobjectId.symm, hnext⟩, previous, hmem,
          rfl, hpreviousObject.trans hobjectId.symm, hactive, hpreviousNull⟩ }

theorem validate_ok {u : Unit} (h : commit.validate.run db = .ok (u, db')) :
    db = db' ∧ commit.version.state = .committed ∧
      ∀ object, commit.target = .create object → commit.createIsConsistent object := by
  simp only [S3ObjectVersionCommit.validate, Transaction.run_bind_ok,
    Transaction.run_require_ok] at h
  obtain ⟨_, _, ⟨hstate, rfl⟩, _, _, ⟨-, rfl⟩, h⟩ := h
  cases htarget : commit.target with
  | create object =>
      simp only [htarget, Transaction.run_bind_ok, Transaction.run_require_ok] at h
      obtain ⟨_, _, ⟨hcreate, rfl⟩, htasks⟩ := h
      refine ⟨(run_forEach_domain_ok.1 htasks).2, hstate, fun other hother => ?_⟩
      cases hother
      exact hcreate
  | append objectId expectedGeneration =>
      simp only [htarget, Transaction.run_bind_ok, Transaction.run_require_ok,
        Transaction.run_orThrow_ok] at h
      obtain ⟨_, _, ⟨-, rfl⟩, _, _, ⟨-, rfl⟩, htasks⟩ := h
      exact ⟨(run_forEach_domain_ok.1 htasks).2, hstate, by simp⟩

variable [Md5]

theorem commitFirstVersion_ok {object : S3Object} (hprepared : PreparedCommit commit)
    (hcreate : commit.createIsConsistent object)
    (hversioned : commit.version.isNullVersion ∨ IsVersioned db.buckets commit.version.bucketId)
    (hlockable : ObjectVersion.isUnlocked commit.version ∨
      IsLockEnabled db.buckets commit.version.bucketId)
    (hbucketRow : ∃ bucket ∈ db.buckets, bucket.id = commit.version.bucketId ∧
      bucket.applicationId = commit.version.applicationId)
    (h : (commitFirstVersion commit object expected).run db = .ok (committed, db')) :
    Effect licence db (db.mapObjects (·.insert (S3Object.persisted object))) ∧
      commit.gcTasks = [] ∧ ∃ push,
        CommitsVersion licence commit expected committed push none
          (db.mapObjects (·.insert (S3Object.persisted object))) ∧
        db' = pushedDatabase push none
          (db.mapObjects (·.insert (S3Object.persisted object))) := by
  simp only [commitFirstVersion, validateExpectedObjectIdentity,
    validateNullVersionReplacement, Transaction.run_bind_ok, Transaction.run_require_ok,
    run_domain_ok, advanceObject_ok, Transaction.run_pure_ok] at h
  obtain ⟨_, _, ⟨hexpected, rfl⟩, _, _, ⟨hreplacement, rfl⟩, advanced, _, ⟨hadvanced, rfl⟩, _, _,
    hobject, _, _, hversion, _, _, ⟨-, rfl⟩, rfl, rfl⟩ := h
  obtain ⟨hfresh, hkey, rfl⟩ := insertObject_ok hobject
  obtain ⟨⟨hsize, hbigint, -, -, hversionFresh, hdistinct⟩, rfl⟩ :=
    insertObjectVersion_ok.1 hversion
  obtain ⟨task, htasks, hnone, -⟩ := replacementIsValid_tasks hprepared hreplacement (by simp)
  cases hnone rfl
  obtain ⟨hobjectId, happlication, hbucket, hstate, -, hid, hgeneration⟩ :=
    advancedTo_ok hadvanced
  simp only [S3ObjectVersionCommit.createIsConsistent, Bool.and_eq_true,
    decide_eq_true_eq] at hcreate
  let push : Push := {
    object := S3Object.persisted object
    version := ObjectVersion.persisted commit.version
    replaced := none
    markedAt := 0
    supersededAt := 0
    advancedAt := advanced.updatedAt }
  have hage : ∀ version ∈ db.objectVersions, push.age version = version := fun _ _ => rfl
  have hfresh' : db.objects.find? (Keyed.key (S3Object.persisted object)) = none := hfresh
  have hpush : push.Valid (db.mapObjects (·.insert (S3Object.persisted object))) := {
    object_mem := (Table.mem_insert hfresh').2 (Or.inl rfl)
    objectId_eq := hobjectId
    applicationId_eq := happlication
    bucketId_eq := hbucket
    generation_eq := hcreate.1.2
    active := isActive_persisted hstate
    current := by simp [push, ObjectVersion.persisted, hprepared.current]
    fresh := hversionFresh
    distinct := by
      change ∀ row ∈ db.objectVersions.rewrite push.age, _
      rw [Table.rewrite_self hage]
      exact hdistinct
    replaced_mem := by simp [push]
    versioned := hversioned
    bigint := ⟨hbigint, hsize⟩
    truncated := postgresTime_postgresTime _
    lockable := by
      change ObjectVersion.isUnlocked (ObjectVersion.persisted commit.version) ∨ _
      rw [isUnlocked_persisted]
      exact hlockable }
  have hrowBucket : ∃ bucket ∈ db.buckets, bucket.id = object.bucketId ∧
      bucket.applicationId = object.applicationId := by
    rw [← hbucket, ← happlication]
    exact hbucketRow
  have hversions : push.versions db.objectVersions =
      db.objectVersions.insert (ObjectVersion.persisted commit.version) := by
    rw [Push.versions, Table.rewrite_self hage]
  refine ⟨.objectCreated hfresh hkey hrowBucket rfl rfl, htasks, push, ?_, ?_⟩
  · exact {
      push_valid := hpush
      version_eq := rfl
      objectId_eq := hid
      expected_eq := hexpected
      released_eq := rfl
      queues := rfl
      retires := by simp [push] }
  · rw [pushedDatabase, hgeneration]
    simp only [Database.mapObjects, Database.mapObjectVersions, hversions]
    rfl

theorem commitObjectVersion_ok (hprepared : PreparedCommit commit)
    (hversioned : commit.version.isNullVersion ∨ IsVersioned db.buckets commit.version.bucketId)
    (hlockable : ObjectVersion.isUnlocked commit.version ∨
      IsLockEnabled db.buckets commit.version.bucketId)
    (hretires : ∀ versionId, ReplacedBy db commit.version versionId →
      licence.retires versionId)
    (hbucketRow : ∃ bucket ∈ db.buckets, bucket.id = commit.version.bucketId ∧
      bucket.applicationId = commit.version.applicationId)
    (h : (commitObjectVersion commit expected).run db = .ok (committed, db')) :
    ∃ base push task, (∃ objects, base = { db with objects := objects }) ∧
      Effects licence db base ∧
      CommitsVersion licence commit expected committed push task base ∧
      db' = pushedDatabase push task base := by
  rw [commitObjectVersion, Transaction.run_bind_ok] at h
  obtain ⟨_, _, hvalidate, h⟩ := h
  obtain ⟨rfl, -, hcreate⟩ := validate_ok hvalidate
  cases htarget : commit.target with
  | create object =>
      simp only [htarget, Transaction.run_bind_ok, Transaction.run_pure_ok] at h
      obtain ⟨_, _, hcommit, _, _, htasks, rfl, rfl⟩ := h
      obtain ⟨heffect, hnone, push, hcommits, rfl⟩ :=
        commitFirstVersion_ok hprepared (hcreate object htarget) hversioned hlockable hbucketRow
          hcommit
      obtain ⟨-, rfl⟩ := run_forEach_enqueueCommitGcTask htasks
      refine ⟨_, push, none, ⟨_, rfl⟩, .single heffect, hcommits, ?_⟩
      rw [hnone]
      rfl
  | append objectId expectedGeneration =>
      simp only [htarget, Transaction.run_bind_ok, Transaction.run_pure_ok] at h
      obtain ⟨_, _, hcommit, _, _, htasks, rfl, rfl⟩ := h
      obtain ⟨push, task, hgcTasks, rfl, hcommits⟩ :=
        commitNextVersion_ok hprepared hversioned hlockable hretires hcommit
      obtain ⟨hadmitted, rfl⟩ := run_forEach_enqueueCommitGcTask htasks
      refine ⟨db, push, task, ⟨_, rfl⟩, .refl db, hcommits hadmitted, ?_⟩
      rw [hgcTasks]
      rfl

/-- What the commit of an intent does: perhaps a new object, then one version. -/
structure CommitsIntent (licence : Licence) (intent : UploadIntent)
    (commit : S3ObjectVersionCommit) (object : S3Object) (db base : Database)
    (committed : VersionCommit) (version : ObjectVersion) : Prop where
  base_eq : ∃ objects, base = { db with objects := objects }
  created : Effects licence db base
  valid : committed.Valid base
  commits : licence.commits intent
  retires : ∀ previous, committed.push.replaced = some previous → licence.retires previous.id
  intent_eq : committed.intent = intent
  version_eq : committed.push.version = ObjectVersion.persisted version
  facts_eq : version.facts = commit.version.facts
  objectId_eq : object.id = committed.push.object.id
  key_eq : intent.objectKey = committed.push.object.key

theorem CommitsIntent.effects {intent : UploadIntent} {object : S3Object} {base : Database}
    {committed : VersionCommit} {version : ObjectVersion}
    (h : CommitsIntent licence intent commit object db base committed version) :
    Effects licence db (committed.apply base) :=
  h.created.tail (.versionCommitted h.valid (h.intent_eq ▸ h.commits) h.retires)

theorem commitIntentVersion_ok {intent : UploadIntent} {leaseToken : String}
    {object : S3Object} (hintent : intent ∈ db.uploadIntents)
    (hconsistent : intent.fromPersistence = .ok intent) (hprepared : PreparedCommit commit)
    (hversioned : commit.version.isNullVersion ∨ IsVersioned db.buckets commit.version.bucketId)
    (hretires : ∀ versionId, ReplacedBy db commit.version versionId →
      licence.retires versionId)
    (hcommits : UploadIntent.holdsLease leaseToken (postgresTime commit.committedAt) intent →
      licence.commits intent)
    (h : (commitIntentVersion intent leaseToken commit).run db = .ok (object, db')) :
    ∃ base committed version,
      CommitsIntent licence intent commit object db base committed version ∧
        db' = committed.apply base := by
  simp only [commitIntentVersion, validateUploadIntentCommit, transferS3UploadIntentQuota,
    Transaction.run_bind_ok, Transaction.run_require_ok, transferBytes_ok,
    Transaction.run_updateRow_ok, Transaction.run_pure_ok] at h
  obtain ⟨_, _, ⟨_, _, ⟨⟨hstate, htoken, hproposed, happlication, hbucket⟩, rfl⟩, stored, _,
    hstored, hpayload, rfl⟩, _, _, ⟨hlease, rfl⟩, frozen, _, hfrozen, committed, _, hcommit, _, _,
    ⟨-, hcharge, rfl⟩, _, _, ⟨-, rfl⟩, rfl, rfl⟩ := h
  obtain ⟨hstoredEq, rfl⟩ := storedPayload_ok hstored
  obtain ⟨version, rfl, hfacts, hversionState, hcurrent, hbucketRow, hlockable, rfl⟩ :=
    freezeObjectLock_ok hfrozen
  have hprepared' : PreparedCommit { commit with version } :=
    ⟨hcurrent.trans hprepared.current, hprepared.reasons⟩
  have hnull := ObjectVersion.isNullVersion_of_facts hfacts
  have hversioned' : version.isNullVersion ∨ IsVersioned db.buckets version.bucketId := by
    rw [hnull, ObjectVersion.bucketId_of_facts hfacts]
    exact hversioned
  have hretires' : ∀ versionId, ReplacedBy db version versionId →
      licence.retires versionId := by
    intro versionId hversion
    refine hretires versionId ?_
    simpa only [ReplacedBy, hnull, ObjectVersion.objectId_of_facts hfacts,
      ObjectVersion.generation_of_facts hfacts] using hversion
  have hbucketRow' : ∃ bucket ∈ db.buckets, bucket.id = version.bucketId ∧
      bucket.applicationId = version.applicationId := by
    rw [ObjectVersion.bucketId_of_facts hfacts, ObjectVersion.applicationId_of_facts hfacts]
    exact hbucketRow
  have hlockable' : ObjectVersion.isUnlocked version ∨
      IsLockEnabled db.buckets version.bucketId := by
    rw [ObjectVersion.bucketId_of_facts hfacts]
    exact hlockable
  obtain ⟨base, push, task, ⟨objects, rfl⟩, heffects, hcommitted, rfl⟩ :=
    commitObjectVersion_ok hprepared' hversioned' hlockable' hretires' hbucketRow' hcommit
  have hpushFacts : push.version.payload = commit.version.payload := by
    rw [hcommitted.version_eq]
    exact congrArg VersionFacts.payload hfacts
  let c : VersionCommit := ⟨push, intent, postgresTime commit.committedAt, task⟩
  have hexpected := hcommitted.expected_eq
  simp only [ExpectedObjectIdentity.matches, Bool.and_eq_true, decide_eq_true_eq] at hexpected
  have hvalid : c.Valid { db with objects := objects } := {
    push_valid := hcommitted.push_valid
    intent_mem := hintent
    consistent := hconsistent
    committing := hstate
    proposed := by
      change intent.proposedVersionId = push.version.id
      rw [hproposed, hcommitted.version_eq]
      exact (ObjectVersion.id_of_facts hfacts).symm
    applicationId_eq := hexpected.1.1.symm.trans hcommitted.push_valid.applicationId_eq.symm
    bucketId_eq := hexpected.1.2.symm.trans hcommitted.push_valid.bucketId_eq.symm
    payload := ⟨stored, hpushFacts.trans hstoredEq, hpayload⟩
    queues := hcommitted.queues
    charge := by
      rw [hcommitted.released_eq] at hcharge
      exact hcharge }
  refine ⟨_, c, version, {
    base_eq := ⟨objects, rfl⟩
    created := heffects
    valid := hvalid
    commits := hcommits (by simp [UploadIntent.holdsLease, hstate, htoken, hlease])
    retires := hcommitted.retires
    intent_eq := rfl
    version_eq := hcommitted.version_eq
    facts_eq := hfacts
    objectId_eq := hcommitted.objectId_eq
    key_eq := hexpected.2.symm }, ?_⟩
  rw [VersionCommit.apply, hcommitted.objectId_eq, hcommitted.released_eq, hcommitted.version_eq]
  rfl

/-- The commit of an upload retires at most the null version that it replaces. -/
theorem commitUploadIntent_ok {intentId : UploadIntentId} {leaseToken : String}
    {object : S3Object} (hprepared : PreparedCommit commit)
    (hversioned : commit.version.isNullVersion ∨ IsVersioned db.buckets commit.version.bucketId)
    (hretires : ∀ versionId, ReplacedBy db commit.version versionId →
      licence.retires versionId)
    (hcommits : ∀ intent ∈ db.uploadIntents, intent.id = intentId →
      UploadIntent.holdsLease leaseToken (postgresTime commit.committedAt) intent →
        licence.commits intent)
    (h : (commitUploadIntent intentId leaseToken commit).run db = .ok (object, db')) :
    ∃ intent ∈ db.uploadIntents, intent.id = intentId ∧ ∃ base committed version,
      CommitsIntent licence intent commit object db base committed version ∧
        db' = committed.apply base := by
  simp only [commitUploadIntent, validateToken, Transaction.run_bind_ok,
    Transaction.run_require_ok, lockUploadIntent_ok] at h
  obtain ⟨_, _, ⟨-, rfl⟩, _, _, hvalidate, intent, _, ⟨⟨hintent, hid, hconsistent⟩, rfl⟩, h⟩ := h
  obtain ⟨rfl, -, -⟩ := validate_ok hvalidate
  exact ⟨intent, hintent, hid,
    commitIntentVersion_ok hintent hconsistent hprepared hversioned hretires
      (hcommits intent hintent hid) h⟩

end

end MediaHub.Store

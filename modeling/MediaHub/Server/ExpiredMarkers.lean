import MediaHub.Server.Ledgers
import MediaHub.Store.LifecycleDue

namespace MediaHub.Server

open Relational
open MediaHub.Core
open MediaHub.Store

/-- A marker that is the only active version of its object, in a bucket and under a rule. -/
structure IsExpiredMarker (db : Database) (applicationId : ApplicationId) (bucketId : BucketId)
    (rule : S3LifecycleRule) (evaluatedAt : Time) (object : S3Object)
    (marker : ObjectVersion) : Prop where
  object_mem : object ∈ db.objects
  marker_mem : marker ∈ db.objectVersions
  objectId_eq : marker.objectId = object.id
  owner_eq : object.applicationId = applicationId ∧ object.bucketId = bucketId
  marker_owner_eq : marker.applicationId = applicationId ∧ marker.bucketId = bucketId
  active : marker.isActive
  current : object.currentVersionId = some marker.id
  isMarker : marker.isDeleteMarker
  only : hasOtherActiveVersion db object.id marker.id = false
  due : lifecycleRuleRemovesExpiredMarkerAt rule object.key marker.createdAt evaluatedAt

theorem mem_joinOwner {db : Database} {object : S3Object} {version : ObjectVersion}
    (h : (object, version) ∈ db.joinOwner) :
    object ∈ db.objects ∧ version ∈ db.objectVersions ∧ version.objectId = object.id := by
  obtain ⟨row, hrow, hmap⟩ := List.mem_filterMap.1 h
  obtain ⟨owner, howner, hpair⟩ := Option.map_eq_some_iff.1 hmap
  cases hpair
  obtain ⟨hobject, hid⟩ := Table.find?_eq_some_iff.1 howner
  exact ⟨hobject, hrow, hid.symm⟩

/-- The age that a scan asks for is the age at which the rule is due. -/
theorem removesExpiredMarkerAt_of_createdBefore {rule : S3LifecycleRule} {evaluatedAt : Time}
    {createdBefore : Option Time} {objectKey : String} {createdAt : Time}
    (h : markerCreatedBefore rule evaluatedAt = .ok (some createdBefore))
    (hrange : inPrefixRange (lifecyclePrefix rule.filter) objectKey)
    (hcreated : ∀ cutoff ∈ createdBefore, createdAt < postgresTime cutoff) :
    lifecycleRuleRemovesExpiredMarkerAt rule objectKey createdAt evaluatedAt := by
  rw [inPrefixRange_iff] at hrange
  unfold markerCreatedBefore at h
  split at h
  · cases h
  rename_i hstatus
  rw [not_not] at hstatus
  have happlies : ruleApplies rule objectKey := by simp [ruleApplies, hstatus, hrange]
  simp only [lifecycleRuleRemovesExpiredMarkerAt, lifecycleRuleIsCurrentDue, happlies,
    Bool.true_and, Bool.or_eq_true, decide_eq_true_eq]
  split at h
  · exact Or.inl ‹_›
  · rename_i days hexpiration
    refine Or.inr ?_
    unfold lifecycleDaysCutoffOrThrow at h
    split at h
    · rename_i cutoff hcutoff
      cases h
      have hlt := hcreated cutoff rfl
      simp only [hexpiration, hcutoff, Option.any_some, decide_eq_true_eq]
      exact lt_of_lt_of_le hlt (postgresTime_le cutoff)
    · cases h
  · rename_i date hexpiration
    refine Or.inr ?_
    simp only [hexpiration, decide_eq_true_eq]
    by_contra hdate
    simp [hdate] at h
  · cases h

theorem isExpiredMarker_of_scan {db : Database} {applicationId : ApplicationId}
    {bucketId : BucketId} {rule : S3LifecycleRule} {evaluatedAt : Time} {limit : Nat}
    {candidates : List S3ExpiredDeleteMarkerCandidate}
    {candidate : S3ExpiredDeleteMarkerCandidate}
    (h : listS3ExpirationDeleteMarkerCandidates db applicationId bucketId rule evaluatedAt
      limit = .ok candidates) (hcandidate : candidate ∈ candidates) :
    ∃ object marker,
      IsExpiredMarker db applicationId bucketId rule evaluatedAt object marker ∧
        candidate = ⟨object.id, object.key, marker.id⟩ := by
  unfold listS3ExpirationDeleteMarkerCandidates at h
  simp only [bind, Except.bind] at h
  split at h
  · cases h
  split at h
  · cases h
  rename_i createdBefore? hbefore
  cases createdBefore? with
  | none =>
      cases h
      cases hcandidate
  | some createdBefore =>
      cases h
      obtain ⟨⟨object, marker⟩, hrow, rfl⟩ := List.mem_map.1 hcandidate
      obtain ⟨hjoin, hselected⟩ := mem_selectPage hrow
      obtain ⟨hobject, hmarker, hid⟩ := mem_joinOwner hjoin
      simp only [inScan, Bool.and_eq_true, decide_eq_true_eq, Bool.not_eq_true',
        Option.all_eq_true] at hselected
      obtain ⟨⟨⟨⟨⟨⟨⟨⟨⟨happlication, hbucket⟩, hmarkerApplication⟩, hmarkerBucket⟩, hrange⟩,
        hactive⟩, hcurrent⟩, hisMarker⟩, hcreated⟩, honly⟩ := hselected
      exact ⟨object, marker, ⟨hobject, hmarker, hid, ⟨happlication, hbucket⟩,
        ⟨hmarkerApplication, hmarkerBucket⟩, hactive, hcurrent, hisMarker, honly,
        removesExpiredMarkerAt_of_createdBefore hbefore hrange hcreated⟩, rfl⟩

/-- A command that is planned from the configuration of its bucket as it is now. -/
structure IsPlannedFrom (bucket : S3Bucket) (command : ExecuteS3LifecycleCommand) : Prop where
  applicationId_eq : command.applicationId = bucket.applicationId
  bucketId_eq : command.bucketId = bucket.id
  revision_eq : command.expectedConfigurationRevision = bucket.configuration.revision
  rule_mem : ∃ configuration ∈ bucket.configuration.lifecycleConfiguration,
    command.rule ∈ configuration.rules
  attempts : command.gcMaxAttempts ≠ 0

theorem IsPlannedFrom.lockLifecycleBucket {db : Database} {bucket : S3Bucket}
    {command : ExecuteS3LifecycleCommand} (h : IsPlannedFrom bucket command)
    (hbucket : bucket ∈ db.buckets) : lockLifecycleBucket db command = some bucket := by
  obtain ⟨configuration, hconfiguration, hrule⟩ := h.rule_mem
  refine Option.filter_eq_some_iff.2 ⟨?_, ?_⟩
  · exact Database.findBucket_eq_some_iff.2
      ⟨hbucket, h.bucketId_eq.symm, h.applicationId_eq.symm⟩
  · simp [h.revision_eq, Option.mem_def.1 hconfiguration, hrule]

/-- The marker is hidden and the head of its object is cleared. -/
theorem executeS3Lifecycle_expiredMarker {db : Database} {bucket : S3Bucket}
    {command : ExecuteS3LifecycleCommand} {object : S3Object} {marker : ObjectVersion}
    (hbucket : bucket ∈ db.buckets) (hplanned : IsPlannedFrom bucket command)
    (hmarker : IsExpiredMarker db command.applicationId command.bucketId command.rule
      command.evaluatedAt object marker)
    (htarget : command.target = .removeExpiredDeleteMarker object.id object.key marker.id) :
    (executeS3Lifecycle command).run db =
      (do
        hideExactDeletedVersion marker command.evaluatedAt
        updateDeletedObjectHead object none command.evaluatedAt
        pure .applied : Transaction S3LifecycleExecutionOutcome).run db := by
  have hlock := hplanned.lockLifecycleBucket hbucket
  have hobject : lockLifecycleObject db command object.id object.key = some object := by
    refine Option.filter_eq_some_iff.2 ⟨Table.find?_of_mem hmarker.object_mem, ?_⟩
    simp [hmarker.owner_eq]
  have hversion : lockActiveVersion db command object.id marker.id = some marker := by
    refine Option.filter_eq_some_iff.2 ⟨Table.find?_of_mem hmarker.marker_mem, ?_⟩
    simp [hmarker.objectId_eq, hmarker.marker_owner_eq, hmarker.active]
  have heligible : ¬ (!marker.isDeleteMarker ∨
      !lifecycleRuleRemovesExpiredMarkerAt command.rule object.key marker.createdAt
        command.evaluatedAt ∨ hasOtherActiveVersion db object.id marker.id) := by
    simp [hmarker.isMarker, hmarker.due, hmarker.only]
  simp only [executeS3Lifecycle, Transaction.run_require_bind hplanned.attempts, htarget,
    Transaction.run_query_bind, hlock, executeExpiredMarker, hobject, hmarker.current, hversion,
    heligible, if_false, ne_eq, not_true_eq_false]

/-- After an execution nothing of the key is left, and no scan returns the marker again. -/
def RemovesMarker (db : Database) (command : ExecuteS3LifecycleCommand)
    (candidate : S3ExpiredDeleteMarkerCandidate) : Prop :=
  ∃ db', (executeS3Lifecycle command).run db = .ok (.applied, db') ∧
    (∀ version ∈ db'.objectVersions, version.objectId = candidate.objectId →
      version.isActive = false) ∧
    (∃ object ∈ db'.objects, object.id = candidate.objectId ∧ object.currentVersionId = none) ∧
    ∀ applicationId bucketId rule evaluatedAt limit candidates,
      listS3ExpirationDeleteMarkerCandidates db' applicationId bucketId rule evaluatedAt limit =
        .ok candidates → ∀ other ∈ candidates, other.markerVersionId ≠ candidate.markerVersionId

/-- A null marker can only be superseded, but it is still current. -/
theorem null_not_hidden {db db' : Database} {object : S3Object} {marker : ObjectVersion}
    {deletedAt : Time} (hchain : Chain db.buckets db.objects db.objectVersions)
    (hobject : object ∈ db.objects) (hmarker : marker ∈ db.objectVersions)
    (hid : marker.objectId = object.id) (hactive : marker.isActive)
    (hcurrent : object.currentVersionId = some marker.id) (hnull : marker.isNullVersion) :
    (hideExactDeletedVersion marker deletedAt).run db ≠ .ok ((), db') := by
  intro hrun
  rw [hideExactDeletedVersion, if_pos hnull] at hrun
  obtain ⟨row, hrow, hrowId, -, -, hnoncurrent, -⟩ :=
    (supersedeActiveNullVersion_ok.1 hrun).1 marker rfl
  have heq : row = marker := Table.eq_of_key hrow hmarker hrowId
  rw [heq, (hchain.current object hobject marker hmarker hid hactive).2 hcurrent] at hnoncurrent
  cases hnoncurrent

/-- A versioned marker goes, and its object has no version left. -/
theorem removesMarker_of_versioned {db : Database} {bucket : S3Bucket}
    {command : ExecuteS3LifecycleCommand} {object : S3Object} {marker : ObjectVersion}
    (hrows : HistoryRows db.buckets db.objects db.objectVersions)
    (hbucket : bucket ∈ db.buckets) (hplanned : IsPlannedFrom bucket command)
    (hmarker : IsExpiredMarker db command.applicationId command.bucketId command.rule
      command.evaluatedAt object marker)
    (htarget : command.target = .removeExpiredDeleteMarker object.id object.key marker.id)
    (hversioned : marker.isNullVersion = false) :
    RemovesMarker db command ⟨object.id, object.key, marker.id⟩ := by
  let hidden := db.mapObjectVersions (·.update marker.id ObjectVersion.hide)
  let moved := hidden.mapObjects
    (·.update object.id (S3Object.pointTo none command.evaluatedAt))
  have hhide : (hideExactDeletedVersion marker command.evaluatedAt).run db =
      .ok ((), hidden) := by
    rw [hideExactDeletedVersion, if_neg (by simp [hversioned]), Transaction.run_updateRow_ok]
    refine ⟨⟨marker, hmarker.marker_mem, rfl, ?_, rfl⟩, rfl⟩
    simp [hmarker.active]
  have hmove : (updateDeletedObjectHead object none command.evaluatedAt).run hidden =
      .ok ((), moved) := by
    rw [updateDeletedObjectHead, asI64,
      Transaction.run_require_bind (hrows.bigint object hmarker.object_mem),
      Transaction.run_updateRow_ok]
    exact ⟨⟨object, hmarker.object_mem, rfl, by simp, rfl⟩, rfl⟩
  have hinactive : ∀ version ∈ moved.objectVersions, version.objectId = object.id →
      version.isActive = false := by
    intro row hrow hid
    rcases Table.mem_update.1 hrow with ⟨hold, hne⟩ | ⟨version, -, -, rfl⟩
    · by_contra hactive
      have hnone := List.any_eq_false.1 hmarker.only row hold
      simp_all [Keyed.key]
    · exact retires_hide.inactive version
  refine ⟨moved, ?_, hinactive, ?_, ?_⟩
  · rw [executeS3Lifecycle_expiredMarker hbucket hplanned hmarker htarget,
      Transaction.run_bind_ok]
    refine ⟨(), hidden, hhide, ?_⟩
    rw [Transaction.run_bind_ok]
    exact ⟨(), moved, hmove, rfl⟩
  · exact ⟨_, Table.mem_update.2 (Or.inr ⟨object, hmarker.object_mem, rfl, rfl⟩), rfl, rfl⟩
  · intro applicationId bucketId rule evaluatedAt limit candidates hscan other hother hsame
    obtain ⟨owner, found, hfound, rfl⟩ := isExpiredMarker_of_scan hscan hother
    have hactive := hfound.active
    rcases Table.mem_update.1 hfound.marker_mem with ⟨-, hne⟩ | ⟨version, -, -, hhidden⟩
    · exact hne hsame
    · rw [hhidden, retires_hide.inactive version] at hactive
      cases hactive

/-- The only marker that a rule cannot remove is a null marker: it is left in place for ever. -/
theorem removesMarker_iff [Md5] {s : State} (h : system.Reachable s) {bucket : S3Bucket}
    (hbucket : bucket ∈ s.db.buckets) {command : ExecuteS3LifecycleCommand}
    (hplanned : IsPlannedFrom bucket command) {limit : Nat}
    {candidates : List S3ExpiredDeleteMarkerCandidate}
    (hscan : listS3ExpirationDeleteMarkerCandidates s.db command.applicationId
      command.bucketId command.rule command.evaluatedAt limit = .ok candidates)
    {candidate : S3ExpiredDeleteMarkerCandidate} (hcandidate : candidate ∈ candidates)
    (htarget : command.target = .removeExpiredDeleteMarker candidate.objectId
      candidate.objectKey candidate.markerVersionId)
    {marker : ObjectVersion} (hmarker : marker ∈ s.db.objectVersions)
    (hid : marker.id = candidate.markerVersionId) :
    RemovesMarker s.db command candidate ↔ marker.isNullVersion = false := by
  obtain ⟨object, found, hfound, rfl⟩ := isExpiredMarker_of_scan hscan hcandidate
  have heq : marker = found := Table.eq_of_key hmarker hfound.marker_mem hid
  subst heq
  constructor
  · rintro ⟨db', hrun, -⟩
    rw [executeS3Lifecycle_expiredMarker hbucket hplanned hfound htarget,
      Transaction.run_bind_ok] at hrun
    obtain ⟨_, hidden, hhide, -⟩ := hrun
    by_contra hnull
    exact null_not_hidden (Sound.of_reachable h).chain hfound.object_mem hmarker
      hfound.objectId_eq hfound.active hfound.current (by simpa using hnull) hhide
  · exact removesMarker_of_versioned (historyRows_of_reachable h) hbucket hplanned hfound htarget

instance (bucket : S3Bucket) (command : ExecuteS3LifecycleCommand) :
    Decidable (IsPlannedFrom bucket command) :=
  decidable_of_iff (command.applicationId = bucket.applicationId ∧
    command.bucketId = bucket.id ∧
    command.expectedConfigurationRevision = bucket.configuration.revision ∧
    (∃ configuration ∈ bucket.configuration.lifecycleConfiguration,
      command.rule ∈ configuration.rules) ∧ command.gcMaxAttempts ≠ 0)
    ⟨fun ⟨h₁, h₂, h₃, h₄, h₅⟩ => ⟨h₁, h₂, h₃, h₄, h₅⟩,
      fun h => ⟨h.1, h.2, h.3, h.4, h.5⟩⟩

def markerRule : S3LifecycleRule where
  id := none
  status := .enabled
  filter := .empty
  expiration := some .expiredObjectDeleteMarker
  noncurrentDays := none
  daysAfterInitiation := none

def deleteKey (versionId : Option S3VersionId) (markerId : ObjectVersionId) (now : Time) : Event :=
  .call (.deleteObject {
    applicationId := 1
    bucketId := 2
    objectKey := "key"
    versionId
    bypassGovernance := false
    deletedBy := "client"
    deletedAt := now
    deleteMarkerId := markerId
    deleteMarkerVersionId := .uuid markerId
    gcNotBefore := now
    gcMaxAttempts := 10 })

/-- A bucket whose rule removes expired delete markers. -/
def markerBucket : List Event := [
  .call (.createBucket plainBucket),
  .call (.replaceLifecycle 1 "bucket" (some ⟨[markerRule], by decide⟩) 0)]

/-- A version is put in an enabled bucket, deleted by a marker and then deleted for good. -/
def versionedMarker : List Event :=
  markerBucket ++ [.call (.setVersioning 1 "bucket" .enabled 500)] ++ firstPut.run ++
    [deleteKey none 31 2000, deleteKey (some (.uuid 11)) 32 3000]

/-- The null version is deleted in a suspended bucket. -/
def nullMarker : List Event :=
  markerBucket ++ firstPut.run ++
    [.call (.setVersioning 1 "bucket" .enabled 1500),
      .call (.setVersioning 1 "bucket" .suspended 1600), deleteKey none 31 2000]

/-- The command that the service plans for marker 31. -/
def removeMarker (revision : Nat) : ExecuteS3LifecycleCommand where
  applicationId := 1
  bucketId := 2
  expectedConfigurationRevision := revision
  rule := markerRule
  target := .removeExpiredDeleteMarker 13 "key" 31
  evaluatedAt := 4000
  deleteMarkerId := 41
  deleteMarkerVersionId := .uuid 41
  gcNotBefore := 4000
  gcMaxAttempts := 10

/-- What the scan of a state returns for the rule. -/
def scanMarkers (s : State) : Except RepositoryError (List S3ExpiredDeleteMarkerCandidate) :=
  listS3ExpirationDeleteMarkerCandidates s.db 1 2 markerRule 4000 1

theorem removesMarker_iff_versionedMarker :
    RemovesMarker (scripted versionedMarker).db (removeMarker 3) ⟨13, "key", 31⟩ := by
  obtain ⟨bucket, hbucket, hplanned⟩ : ∃ bucket ∈ (scripted versionedMarker).db.buckets,
      IsPlannedFrom bucket (removeMarker 3) := by decide +kernel
  obtain ⟨marker, hmarker, hid, hversioned⟩ :
      ∃ marker ∈ (scripted versionedMarker).db.objectVersions,
        marker.id = 31 ∧ marker.isNullVersion = false := by decide +kernel
  have hscan : scanMarkers (scripted versionedMarker) = .ok [⟨13, "key", 31⟩] := by
    decide +kernel
  exact (@removesMarker_iff noMd5 _ (reachable_scripted versionedMarker) bucket hbucket _ hplanned
    1 _ hscan _ List.mem_cons_self rfl marker hmarker hid).2 hversioned

/-- The scan returns the null marker, and the execution of its target ends in an error. -/
theorem not_removesMarker_nullMarker :
    (@system noMd5).Reachable (scripted nullMarker) ∧
      (∃ bucket ∈ (scripted nullMarker).db.buckets, IsPlannedFrom bucket (removeMarker 4)) ∧
      scanMarkers (scripted nullMarker) = .ok [⟨13, "key", 31⟩] ∧
      ¬ RemovesMarker (scripted nullMarker).db (removeMarker 4) ⟨13, "key", 31⟩ := by
  have hfails : ((executeS3Lifecycle (removeMarker 4)).run
      (scripted nullMarker).db).toBool = false := by
    decide +kernel
  refine ⟨reachable_scripted nullMarker, by decide +kernel, by decide +kernel, ?_⟩
  rintro ⟨db', hrun, -⟩
  rw [hrun] at hfails
  cases hfails

end MediaHub.Server

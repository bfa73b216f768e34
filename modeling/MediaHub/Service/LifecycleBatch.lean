import MediaHub.Store.LifecycleDue

namespace MediaHub.Service

open MediaHub.Core
open MediaHub.Store

def maxS3LifecycleBucketPageSize : Nat := 100

def defaultS3LifecycleGcMaxAttempts : Nat := 10

/-- A call answers or fails; either way it may have changed the state behind it. -/
abbrev Call (σ α : Type) := σ → Except RepositoryError α × σ

/-- What the service asks of a repository. -/
structure S3LifecycleRepository (σ : Type) where
  listS3LifecycleBuckets : Option BucketId → Nat → Call σ (List S3Bucket)
  listS3CurrentExpirationCandidates : ApplicationId → BucketId → String → Option Time → Time →
    Nat → Call σ (List S3CurrentExpirationCandidate)
  listS3NoncurrentExpirationCandidates : ApplicationId → BucketId → String → Time → Time →
    Nat → Call σ (List S3NoncurrentExpirationCandidate)
  listS3ExpirationDeleteMarkerCandidates : ApplicationId → BucketId → S3LifecycleRule → Time →
    Nat → Call σ (List S3ExpiredDeleteMarkerCandidate)
  listS3MultipartLifecycleCandidates : ApplicationId → BucketId → String → Time → Time →
    Nat → Call σ (List S3MultipartLifecycleCandidate)
  executeS3Lifecycle : ExecuteS3LifecycleCommand → Call σ S3LifecycleExecutionOutcome

inductive S3LifecycleScanAction where
  | currentExpiration
  | expiredDeleteMarker
  | noncurrentExpiration
  | multipartAbort
deriving DecidableEq

def ruleScanActions (rule : S3LifecycleRule) : List (Option S3LifecycleScanAction) :=
  let (current, marker) := match rule.expiration with
    | some (.days _) | some (.date _) => (some .currentExpiration, some .expiredDeleteMarker)
    | some .expiredObjectDeleteMarker => (none, some .expiredDeleteMarker)
    | none => (none, none)
  [current, marker,
    rule.noncurrentDays.map fun _ => .noncurrentExpiration,
    rule.daysAfterInitiation.map fun _ => .multipartAbort]

def ruleScanActionCount (rule : S3LifecycleRule) : Nat :=
  (ruleScanActions rule).reduceOption.length

abbrev SelectedAction := S3LifecycleRule × S3LifecycleScanAction

/-- The inner loop over one rule: the action found, or what is left to count down. -/
def selectRuleAction (rule : S3LifecycleRule) :
    List S3LifecycleScanAction → Nat → SelectedAction ⊕ Nat
  | [], selected => .inr selected
  | action :: rest, selected =>
      if selected = 0 then .inl (rule, action) else selectRuleAction rule rest (selected - 1)

def selectAction : List S3LifecycleRule → Nat → Option SelectedAction
  | [], _ => none
  | rule :: rest, selected =>
      match selectRuleAction rule (ruleScanActions rule).reduceOption selected with
      | .inl found => some found
      | .inr left => selectAction rest left

def selectScanAction (rules : List S3LifecycleRule) (actionRound : Nat) :
    Option SelectedAction :=
  let enabled := rules.filter fun rule => rule.status = .enabled
  let actionCount := (enabled.map ruleScanActionCount).sum
  if actionCount = 0 then none else selectAction enabled (actionRound % actionCount)

inductive S3LifecycleTargetIdentity where
  | current (objectId : ObjectId) (versionId : ObjectVersionId)
  | noncurrent (versionId : ObjectVersionId)
  | deleteMarker (versionId : ObjectVersionId)
  | multipart (uploadId : MultipartUploadId)
deriving DecidableEq

def targetIdentity : S3LifecycleTarget → S3LifecycleTargetIdentity
  | .expireCurrent objectId _ expectedCurrentVersionId _ =>
      .current objectId expectedCurrentVersionId
  | .expireNoncurrent _ _ versionId _ => .noncurrent versionId
  | .removeExpiredDeleteMarker _ _ markerVersionId => .deleteMarker markerVersionId
  | .abortMultipart uploadId _ _ => .multipart uploadId

def currentTarget (candidate : S3CurrentExpirationCandidate) : S3LifecycleTarget :=
  .expireCurrent candidate.objectId candidate.objectKey candidate.currentVersionId
    candidate.versionCreatedAt

def noncurrentTarget (candidate : S3NoncurrentExpirationCandidate) : S3LifecycleTarget :=
  .expireNoncurrent candidate.objectId candidate.objectKey candidate.versionId
    candidate.becameNoncurrentAt

def expiredMarkerTarget (candidate : S3ExpiredDeleteMarkerCandidate) : S3LifecycleTarget :=
  .removeExpiredDeleteMarker candidate.objectId candidate.objectKey candidate.markerVersionId

def multipartTarget (candidate : S3MultipartLifecycleCandidate) : S3LifecycleTarget :=
  .abortMultipart candidate.uploadId candidate.objectKey candidate.initiatedAt

section Scan

variable {σ : Type}

/-- The first row of a query as a target. -/
def firstTarget {α : Type} (call : Call σ (List α)) (target : α → S3LifecycleTarget) :
    Call σ (Option S3LifecycleTarget) := fun s =>
  ((call s).1.map fun rows => rows.head?.map target, (call s).2)

/-- `lifecycle_days_cutoff(now, days)?` before a query. -/
def withCutoff {α : Type} (now : Time) (days : Nat) (query : Time → Call σ α) : Call σ α :=
  fun s => match lifecycleDaysCutoffOrThrow now days with
    | .ok cutoff => query cutoff s
    | .error error => (.error error, s)

def scanAction (repository : S3LifecycleRepository σ) (bucket : S3Bucket)
    (rule : S3LifecycleRule) (action : S3LifecycleScanAction) (now : Time) :
    Call σ (Option S3LifecycleTarget) :=
  let pre := lifecyclePrefix rule.filter
  match action with
  | .currentExpiration => match rule.expiration with
      | some (.days days) => withCutoff now days fun cutoff => firstTarget
          (repository.listS3CurrentExpirationCandidates bucket.applicationId bucket.id pre
            (some cutoff) now 1) currentTarget
      | some (.date date) =>
          if date ≤ now then firstTarget
            (repository.listS3CurrentExpirationCandidates bucket.applicationId bucket.id pre
              none now 1) currentTarget
          else fun s => (.ok none, s)
      | some .expiredObjectDeleteMarker | none => fun s => (.ok none, s)
  | .expiredDeleteMarker => firstTarget
      (repository.listS3ExpirationDeleteMarkerCandidates bucket.applicationId bucket.id rule
        now 1) expiredMarkerTarget
  | .noncurrentExpiration => match rule.noncurrentDays with
      | none => fun s =>
          (.error (.invariant "selected S3 lifecycle noncurrent action is missing"), s)
      | some days => withCutoff now days fun cutoff => firstTarget
          (repository.listS3NoncurrentExpirationCandidates bucket.applicationId bucket.id pre
            cutoff now 1) noncurrentTarget
  | .multipartAbort => match rule.daysAfterInitiation with
      | none => fun s =>
          (.error (.invariant "selected S3 lifecycle multipart action is missing"), s)
      | some days => withCutoff now days fun cutoff => firstTarget
          (repository.listS3MultipartLifecycleCandidates bucket.applicationId bucket.id pre
            cutoff now 1) multipartTarget

end Scan

structure S3LifecycleBatchCursor where
  afterBucketId : Option BucketId
  actionRound : Nat
deriving DecidableEq

instance : Inhabited S3LifecycleBatchCursor := ⟨⟨none, 0⟩⟩

/-- `action_round.wrapping_add(1)` on 64 bits. -/
def nextRound (actionRound : Nat) : Nat := (actionRound + 1) % 2 ^ 64

def S3LifecycleBatchCursor.wrap (cursor : S3LifecycleBatchCursor) : S3LifecycleBatchCursor :=
  ⟨none, nextRound cursor.actionRound⟩

structure S3LifecycleBatchReceipt where
  examined : Nat := 0
  applied : Nat := 0
  skipped : Nat := 0
  locked : Nat := 0
  retries : Nat := 0
  nextCursor : S3LifecycleBatchCursor := default
deriving DecidableEq

/-- A bucket that was examined, in which round and for which action. -/
structure Visit where
  bucket : S3Bucket
  actionRound : Nat
  selected : Option SelectedAction

/-- The variables of the loop. `visits` is the log of the work units; the code has no such
variable. -/
structure BatchState (σ : Type) where
  receipt : S3LifecycleBatchReceipt
  seen : List S3LifecycleTargetIdentity
  nextCursor : S3LifecycleBatchCursor
  repository : σ
  visits : List Visit

namespace BatchState

variable {σ : Type} (batch : BatchState σ)

/-- A work unit is counted before it is done. -/
def visit (bucket : S3Bucket) (selected : Option SelectedAction) : BatchState σ :=
  { batch with
    receipt := { batch.receipt with examined := batch.receipt.examined + 1 }
    nextCursor := { batch.nextCursor with afterBucketId := some bucket.id }
    visits := batch.visits ++ [⟨bucket, batch.nextCursor.actionRound, selected⟩] }

def skip : BatchState σ :=
  { batch with receipt := { batch.receipt with skipped := batch.receipt.skipped + 1 } }

def retry : BatchState σ :=
  { batch with receipt := { batch.receipt with retries := batch.receipt.retries + 1 } }

def count (outcome : S3LifecycleExecutionOutcome) : BatchState σ :=
  match outcome with
  | .applied =>
      { batch with receipt := { batch.receipt with applied := batch.receipt.applied + 1 } }
  | .locked =>
      { batch with receipt := { batch.receipt with locked := batch.receipt.locked + 1 } }
  | .alreadyApplied | .configurationChanged | .targetChanged | .notEligible | .busy => batch.skip

def answered (repository : σ) : BatchState σ := { batch with repository }

def see (target : S3LifecycleTarget) : BatchState σ :=
  { batch with seen := targetIdentity target :: batch.seen }

def wrap : BatchState σ := { batch with nextCursor := batch.nextCursor.wrap }

end BatchState

section Batch

variable {σ : Type} (repository : S3LifecycleRepository σ) (now : Time)
  (newVersionId : Nat → ObjectVersionId)

def executeCommand (bucket : S3Bucket) (rule : S3LifecycleRule) (target : S3LifecycleTarget)
    (versionId : ObjectVersionId) : ExecuteS3LifecycleCommand where
  applicationId := bucket.applicationId
  bucketId := bucket.id
  expectedConfigurationRevision := bucket.configuration.revision
  rule := rule
  target := target
  evaluatedAt := now
  deleteMarkerId := versionId
  deleteMarkerVersionId := .uuid versionId
  gcNotBefore := now
  gcMaxAttempts := defaultS3LifecycleGcMaxAttempts

/-- A conflict is left to a later batch; every other error ends this one. -/
def executeTarget (bucket : S3Bucket) (rule : S3LifecycleRule) (target : S3LifecycleTarget)
    (batch : BatchState σ) : Except RepositoryError Unit × BatchState σ :=
  let command := executeCommand now bucket rule target (newVersionId batch.receipt.examined)
  match repository.executeS3Lifecycle command batch.repository with
  | (.ok outcome, s) => (.ok (), (batch.answered s).count outcome)
  | (.error .conflict, s) => (.ok (), (batch.answered s).retry)
  | (.error error, s) => (.error error, batch.answered s)

def selectedOf (bucket : S3Bucket) (actionRound : Nat) : Option SelectedAction :=
  bucket.configuration.lifecycleConfiguration.bind fun lifecycle =>
    selectScanAction lifecycle.rules actionRound

/-- One work unit: a bounded candidate query and at most one execution. -/
def examineBucket (bucket : S3Bucket) (batch : BatchState σ) :
    Except RepositoryError Unit × BatchState σ :=
  let selected := selectedOf bucket batch.nextCursor.actionRound
  let batch := batch.visit bucket selected
  match selected with
  | none => (.ok (), batch.skip)
  | some (rule, action) =>
      match scanAction repository bucket rule action now batch.repository with
      | (.error error, s) => (.error error, batch.answered s)
      | (.ok none, s) => (.ok (), batch.answered s)
      | (.ok (some target), s) =>
          if targetIdentity target ∈ batch.seen then (.ok (), (batch.answered s).skip)
          else executeTarget repository now newVersionId bucket rule target
            ((batch.answered s).see target)

/-- How a page ends: with its last bucket, at the limit of the batch, or with an error. -/
inductive PageEnd where
  | through
  | limitReached
  | failed (error : RepositoryError)

def examinePage (limit : Nat) : List S3Bucket → BatchState σ → PageEnd × BatchState σ
  | [], batch => (.through, batch)
  | bucket :: rest, batch =>
      match examineBucket repository now newVersionId bucket batch with
      | (.error error, batch) => (.failed error, batch)
      | (.ok (), batch) =>
          if batch.receipt.examined = limit then (.limitReached, batch)
          else examinePage limit rest batch

/-- What a batch returns, and the state and the log that it leaves behind. -/
structure BatchRun (σ : Type) where
  result : Except RepositoryError S3LifecycleBatchReceipt
  repository : σ
  visits : List Visit

def BatchState.finish (batch : BatchState σ) : BatchRun σ :=
  ⟨.ok { batch.receipt with nextCursor := batch.nextCursor }, batch.repository, batch.visits⟩

def BatchState.fail (batch : BatchState σ) (error : RepositoryError) : BatchRun σ :=
  ⟨.error error, batch.repository, batch.visits⟩

/-- The loop over pages, `none` when the fuel runs out. -/
def batchLoop (limit : Nat) : Nat → BatchState σ → Option (BatchRun σ)
  | 0, _ => none
  | fuel + 1, batch =>
      if limit ≤ batch.receipt.examined then some batch.finish
      else
        let pageLimit := min (limit - batch.receipt.examined) maxS3LifecycleBucketPageSize
        match repository.listS3LifecycleBuckets batch.nextCursor.afterBucketId pageLimit
            batch.repository with
        | (.error error, s) => some ((batch.answered s).fail error)
        | (.ok [], s) =>
            if batch.nextCursor.afterBucketId.isNone then some (batch.answered s).finish
            else batchLoop limit fuel (batch.answered s).wrap
        | (.ok buckets, s) =>
            match examinePage repository now newVersionId limit buckets (batch.answered s) with
            | (.failed error, batch) => some (batch.fail error)
            | (.limitReached, batch) => some batch.finish
            | (.through, batch) =>
                batchLoop limit fuel (if buckets.length < pageLimit then batch.wrap else batch)

def batchFuel (limit : Nat) : Nat := 2 * limit + 2

def runBatch (cursor : S3LifecycleBatchCursor) (limit : Nat) (s : σ) : Option (BatchRun σ) :=
  if 1 ≤ limit ∧ limit ≤ maxS3LifecycleBatchSize then
    batchLoop repository now newVersionId limit (batchFuel limit) ⟨{}, [], cursor, s, []⟩
  else some ⟨.error (.invariant "S3 lifecycle batch limit must be between 1 and 1000"), s, []⟩

end Batch

end MediaHub.Service

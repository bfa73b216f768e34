import Mathlib.Data.List.Sort
import Mathlib.Tactic.Simps.Basic
import MediaHub.Core.AsyncJobRun
import MediaHub.Store.Database

namespace MediaHub.Core

open Relational

def AsyncJobState.debugName : AsyncJobState → String
  | .pending => "Pending"
  | .running => "Running"
  | .completed => "Completed"
  | .failed => "Failed"
  | .cancelled => "Cancelled"

/-- The text of an error, as `Display` renders it. -/
def AsyncJobError.message : AsyncJobError → String
  | .emptyBatch => "async job batch must contain at least one item"
  | .invalidMaxAttempts => "async job max_attempts is invalid"
  | .tooManyItems => "async job batch exceeds the maximum item count"
  | .tooManyAttempts => "async job max_attempts exceeds the maximum"
  | .invalidTtlSeconds => "async job ttl_seconds is invalid"
  | .invalidLeaseToken => "async job lease token is invalid"
  | .invalidLeaseExpiry => "async job lease expiry is invalid"
  | .leaseTooLong => "async job lease exceeds the maximum duration"
  | .attemptsExhausted => "async job attempts are exhausted"
  | .notClaimable => "async job is not claimable"
  | .incompleteItemResults expected actual =>
      "async job item results are incomplete: expected " ++ toString expected ++ ", actual " ++
        toString actual
  | .invalidRetryTime => "async job retry time is invalid"
  | .staleLease => "async job lease is stale"
  | .expiredLease => "async job lease has expired"
  | .invalidStateTransition source target =>
      "async job state transition from " ++ source.debugName ++ " to " ++ target.debugName ++
        " is invalid"
  | .invalidOperationScope => "async job operation scope is invalid"
  | .invalidIdempotencyKey => "async job idempotency key is invalid"
  | .invalidRequestHash => "async job request hash is invalid"
  | .invalidRequestId => "async job request id is invalid"
  | .invalidErrorSummary => "async job error summary is invalid"
  | .invalidPersistedJob => "persisted async job is invalid"

inductive AsyncJobItemState where
  | pending
  | succeeded
  | failed
  | cancelled
deriving DecidableEq

structure AsyncJobItemResult where
  jobId : AsyncJobId
  applicationId : ApplicationId
  mediaId : MediaId
  ordinal : Nat
  state : AsyncJobItemState
  attemptCount : Nat
  errorCode : Option String
  errorSummary : Option String
  startedAt : Option Time
  completedAt : Option Time
  updatedAt : Time

def AsyncJobItemResult.pending (jobId : AsyncJobId) (applicationId : ApplicationId)
    (mediaId : MediaId) (ordinal : Nat) (now : Time) : AsyncJobItemResult where
  jobId := jobId
  applicationId := applicationId
  mediaId := mediaId
  ordinal := ordinal
  state := .pending
  attemptCount := 0
  errorCode := none
  errorSummary := none
  startedAt := none
  completedAt := none
  updatedAt := now

instance : Keyed PersistedAsyncJob AsyncJobId := ⟨PersistedAsyncJob.id⟩

instance : Keyed AsyncJobItemResult (AsyncJobId × MediaId) :=
  ⟨fun item => (item.jobId, item.mediaId)⟩

end MediaHub.Core

namespace MediaHub.Store.AsyncJobs

open Relational Relational.Transaction
open MediaHub.Core

/-- The text of a UUID as `Uuid::parse_str` reads it and `to_string` writes it back, which is
what a `UUID` column keeps of it. -/
class UuidText where
  canonical : String → Option String

/-- A text that is a UUID already. -/
abbrev plainUuids : UuidText := ⟨some⟩

structure Database where
  jobs : Table PersistedAsyncJob
  items : Table AsyncJobItemResult
  media : Table Media

namespace Database

@[simps] def jobRows : TableIn Database PersistedAsyncJob :=
  ⟨jobs, fun f db => { db with jobs := f db.jobs }, fun _ _ => rfl⟩

@[simps] def itemRows : TableIn Database AsyncJobItemResult :=
  ⟨items, fun f db => { db with items := f db.items }, fun _ _ => rfl⟩

end Database

export Database (jobRows itemRows)

abbrev Transaction := Relational.Transaction Database RepositoryError

inductive AsyncJobCreation where
  | created (job : AsyncJob)
  | existing (job : AsyncJob)
  | idempotencyConflict

inductive AsyncJobCompletion where
  | completed (job : AsyncJob)
  | alreadyCompleted (job : AsyncJob)
  | leaseLost

inductive AsyncJobFailure where
  | retryScheduled (job : AsyncJob)
  | terminal (job : AsyncJob)
  | leaseLost

inductive AsyncJobCancellation where
  | cancelled (job : AsyncJob)
  | alreadyCancelled (job : AsyncJob)
  | completed
  | failed

structure LeasedAsyncJob where
  job : AsyncJob
  leaseToken : String
  pendingMediaIds : List MediaId

section Rows

variable [UuidText]

/-- The columns that `update_job` writes. -/
def writeColumns (value : PersistedAsyncJob) (leaseToken : Option String) :
    Update PersistedAsyncJob where
  apply row :=
    { row with
      state := value.state
      succeededItems := value.succeededItems
      failedItems := value.failedItems
      attemptCount := value.attemptCount
      nextAttemptAt := value.nextAttemptAt.map postgresTime
      leaseToken := leaseToken
      leasedUntil := value.leasedUntil.map postgresTime
      errorSummary := value.errorSummary
      startedAt := value.startedAt.map postgresTime
      completedAt := value.completedAt.map postgresTime
      failedAt := value.failedAt.map postgresTime
      cancelledAt := value.cancelledAt.map postgresTime
      updatedAt := postgresTime value.updatedAt }
  key_apply _ := rfl

/-- The row of a job with its times as the database keeps them. -/
def insertedRow (value : PersistedAsyncJob) (leaseToken : Option String) : PersistedAsyncJob :=
  { writeColumns value leaseToken value with createdAt := postgresTime value.createdAt }

/-- `renew_async_job_lease` writes the two columns directly. -/
def writeLease (leasedUntil now : Time) : Update PersistedAsyncJob where
  apply row := { row with leasedUntil := some leasedUntil, updatedAt := now }
  key_apply _ := rfl

def finishItem (item : AsyncJobItemResult) : Update AsyncJobItemResult where
  apply row :=
    { row with
      state := item.state
      attemptCount := item.attemptCount
      errorCode := item.errorCode
      errorSummary := item.errorSummary
      startedAt := item.startedAt.map postgresTime
      completedAt := item.completedAt.map postgresTime
      updatedAt := (item.completedAt.map postgresTime).getD row.updatedAt }
  key_apply _ := rfl

def cancelItem (now : Time) : Update AsyncJobItemResult where
  apply row := { row with state := .cancelled, completedAt := some now, updatedAt := now }
  key_apply _ := rfl

/-- The `CHECK` constraints of `async_jobs` that say more than a column's type. -/
def rowIsValid (row : PersistedAsyncJob) : Bool :=
  row.requestHash.length = 64 && 0 < row.totalItems && 0 < row.maxAttempts &&
  row.succeededItems + row.failedItems ≤ row.totalItems &&
  row.leaseToken.isNone = row.leasedUntil.isNone

def asI32 (value : Nat) (field : String) : Transaction Unit :=
  require (value ≤ maxI32) (.invariant (field ++ " exceeds PostgreSQL INTEGER"))

def optionalLeaseUuid : Option String → Transaction (Option String)
  | none => return none
  | some text => do
      let token ← orThrow (UuidText.canonical text) (.invariant "async job lease is not a UUID")
      return some token

/-- Domain errors surface as repository invariants. -/
def invariant {α : Type} (value : AsyncJobResult α) : Transaction α :=
  ofExcept (value.mapError fun error => RepositoryError.invariant error.message)

def rowToJob (row : PersistedAsyncJob) : Transaction AsyncJob :=
  invariant (AsyncJob.fromPersistence row)

/-- A domain method on a job that was read, and the job it leaves. -/
def perform {α : Type} (step : AsyncJob.Step α) (job : AsyncJob) : Transaction (α × AsyncJob) :=
  match step.run job with
  | (.ok a, job') => return (a, job')
  | (.error error, _) => fail (.invariant error.message)

def lockedJob (jobId : AsyncJobId) : Transaction AsyncJob := do
  let row ← selectRow jobRows jobId .notFound
  rowToJob row

def updateJob (job : AsyncJob) : Transaction Unit := do
  let value := job.toPersisted
  asI32 value.succeededItems "succeeded items"
  asI32 value.failedItems "failed items"
  asI32 value.attemptCount "attempt count"
  let leaseToken ← optionalLeaseUuid value.leaseToken
  updateRow jobRows value.id (fun _ => true) (writeColumns value leaseToken) rowIsValid .conflict
    (checkViolation "async_jobs" "async_jobs_check")

def ownsLease (job : AsyncJob) (leaseToken : String) (now : Time) : Bool :=
  job.state = .running && job.leaseToken = some leaseToken && job.leasedUntil.any (now < ·)

end Rows

section Transactions

variable [UuidText]

def findByIdempotencyKey (db : Database) (applicationId : ApplicationId)
    (operationScope idempotencyKey : String) : Option PersistedAsyncJob :=
  db.jobs.rows.find? fun row => row.applicationId = applicationId ∧
    row.operationScope = operationScope ∧ row.idempotencyKey = idempotencyKey

/-- `INSERT ... ON CONFLICT (application_id, operation_scope, idempotency_key) DO NOTHING`. -/
def insertJob (job : AsyncJob) : Transaction Bool := do
  let value := job.toPersisted
  asI32 value.totalItems "total items"
  asI32 value.succeededItems "succeeded items"
  asI32 value.failedItems "failed items"
  asI32 value.attemptCount "attempt count"
  asI32 value.maxAttempts "max attempts"
  let leaseToken ← optionalLeaseUuid value.leaseToken
  let existing ← query fun db =>
    findByIdempotencyKey db value.applicationId value.operationScope value.idempotencyKey
  if existing.isSome then return false
  else do
    insertRow jobRows (insertedRow value leaseToken) (rowIsValid (insertedRow value leaseToken))
      (fun _ => false) (checkViolation "async_jobs" "async_jobs_check") .conflict
    return true

def insertItems (job : AsyncJob) (mediaIds : List MediaId) : Transaction Unit :=
  forEach (fun entry : MediaId × Nat => do
    require (entry.2 ≤ maxI32) (.invariant "async job ordinal exceeds PostgreSQL INTEGER")
    insertRow itemRows
      (.pending job.id job.applicationId entry.1 entry.2 (postgresTime job.createdAt)) true
      (fun row => row.jobId = job.id && row.ordinal = entry.2)
      (checkViolation "async_job_item_results" "async_job_item_results_ordinal_check") .conflict)
    mediaIds.zipIdx

def createAsyncJob (job : AsyncJob) (mediaIds : List MediaId) : Transaction AsyncJobCreation := do
  require (mediaIds ≠ [] ∧ job.totalItems = mediaIds.length)
    (.invariant "async job item count does not match media IDs")
  require mediaIds.Nodup (.invariant "async job media IDs contain duplicates")
  let owned ← query fun db => db.media.rows.filter fun media =>
    media.applicationId = job.applicationId ∧ media.id ∈ mediaIds
  require (owned.length = mediaIds.length) .notFound
  let inserted ← insertJob job
  if inserted then do
    insertItems job mediaIds
    let stored ← lockedJob job.id
    return .created stored
  else do
    let row ← query fun db =>
      findByIdempotencyKey db job.applicationId job.operationScope job.idempotencyKey
    let row ← orThrow row (.invariant "idempotency conflict has no existing job")
    let existing ← rowToJob row
    if existing.requestHash = job.requestHash then return .existing existing
    else return .idempotencyConflict

/-- `attempt_count < max_attempts AND ((state = 'pending' AND next_attempt_at <= now) OR
(state = 'running' AND leased_until <= now))` -/
def isClaimable (now : Time) (row : PersistedAsyncJob) : Bool :=
  row.attemptCount < row.maxAttempts &&
  ((row.state = .pending && row.nextAttemptAt.any (· ≤ now)) ||
    (row.state = .running && row.leasedUntil.any (· ≤ now)))

/-- `ORDER BY COALESCE(next_attempt_at, leased_until), created_at, id`; a null comes last. -/
def dueBefore (a b : PersistedAsyncJob) : Bool :=
  match a.nextAttemptAt.or a.leasedUntil, b.nextAttemptAt.or b.leasedUntil with
  | none, some _ => false
  | some _, none => true
  | some s, some t => s < t || (s = t && rest)
  | none, none => rest
where
  rest := a.createdAt < b.createdAt || (a.createdAt = b.createdAt && a.id ≤ b.id)

def claimableJobs (now : Time) (limit : Nat) (db : Database) : List PersistedAsyncJob :=
  ((db.jobs.rows.filter (isClaimable now)).insertionSort fun a b => dueBefore a b).take limit

def pendingMediaIds (jobId : AsyncJobId) (db : Database) : List MediaId :=
  ((db.items.rows.filter fun item => item.jobId = jobId ∧ item.state = .pending).insertionSort
    fun a b => a.ordinal ≤ b.ordinal).map (·.mediaId)

/-- Leases one row under a fresh `Uuid::new_v4`. -/
def claimRow (leasedUntil now : Time) (leaseToken : String) (row : PersistedAsyncJob) :
    Transaction LeasedAsyncJob := do
  let job ← rowToJob row
  let claimed ← perform (AsyncJob.claim leaseToken leasedUntil now) job
  updateJob claimed.2
  let pending ← query (pendingMediaIds row.id)
  return ⟨claimed.2, leaseToken, pending⟩

def claimRows (leasedUntil now : Time) (leaseToken : AsyncJobId → String) :
    List PersistedAsyncJob → Transaction (List LeasedAsyncJob)
  | [] => return []
  | row :: rows => do
      let leased ← claimRow leasedUntil now (leaseToken row.id) row
      let others ← claimRows leasedUntil now leaseToken rows
      return leased :: others

def claimAsyncJobs (now leasedUntil : Time) (limit : Nat) (leaseToken : AsyncJobId → String) :
    Transaction (List LeasedAsyncJob) := do
  let now := postgresTime now
  let leasedUntil := postgresTime leasedUntil
  require (now < leasedUntil) (.invariant "async job lease must end in the future")
  if limit = 0 then return []
  else do
    require (limit ≤ maxI64) (.invariant "numeric value exceeds PostgreSQL BIGINT")
    let rows ← query (claimableJobs now limit)
    claimRows leasedUntil now leaseToken rows

/-- `state = 'running' AND lease_token = token AND leased_until > now` -/
def isRenewable (leaseToken : String) (now : Time) (row : PersistedAsyncJob) : Bool :=
  row.state = .running && row.leaseToken = some leaseToken && row.leasedUntil.any (now < ·)

def renewAsyncJobLease (jobId : AsyncJobId) (leaseToken : String) (now leasedUntil : Time) :
    Transaction Bool := do
  let token ← orThrow (UuidText.canonical leaseToken)
    (.invariant "async job lease token is invalid")
  let now := postgresTime now
  let leasedUntil := postgresTime leasedUntil
  require (now < leasedUntil) (.invariant "async job lease must end in the future")
  let row ← query fun db => (db.jobs.find? jobId).filter (isRenewable token now)
  if row.isSome then do
    write (jobRows.map (·.update jobId (writeLease leasedUntil now)))
    return true
  else return false

def validateItem (job : AsyncJob) (item : AsyncJobItemResult) (completedAt : Time) :
    Transaction Unit := do
  let itemStartedAt := item.startedAt.map postgresTime
  let itemCompletedAt := item.completedAt.map postgresTime
  let itemUpdatedAt := postgresTime item.updatedAt
  require (item.jobId = job.id ∧ item.applicationId = job.applicationId ∧
      item.attemptCount = job.attemptCount ∧
      (item.state = .succeeded ∨ item.state = .failed) ∧
      itemCompletedAt.any (· ≤ completedAt) ∧
      (itemStartedAt.any fun startedAt => itemCompletedAt.any fun itemCompletedAt =>
        startedAt ≤ itemCompletedAt && itemUpdatedAt = itemCompletedAt))
    (.invariant "async job item result violates job identity or state")
  require ((item.state = .failed ∧ item.errorCode.isSome ∧ item.errorSummary.isSome) ∨
      (item.state = .succeeded ∧ item.errorCode.isNone ∧ item.errorSummary.isNone))
    (.invariant "async job item error shape is invalid")

def updateItemResult (item : AsyncJobItemResult) : Transaction Unit := do
  require (item.attemptCount ≤ maxI32)
    (.invariant "item attempt count exceeds PostgreSQL INTEGER")
  updateRow itemRows (item.jobId, item.mediaId) (·.state = .pending) (finishItem item)
    (fun _ => true) .conflict
    (checkViolation "async_job_item_results" "async_job_item_results_state_check")

def itemCount (jobId : AsyncJobId) (states : List AsyncJobItemState) (db : Database) : Nat :=
  (db.items.rows.filter fun item => item.jobId = jobId ∧ item.state ∈ states).length

def countAsU32 (value : Nat) : Transaction Unit :=
  require (value ≤ maxU32) (.invariant "async job item count is invalid")

/-- `complete_async_job` once the lease has been checked. -/
def completeOwned (job : AsyncJob) (leaseToken : String) (itemResults : List AsyncJobItemResult)
    (completedAt : Time) : Transaction AsyncJobCompletion := do
  let pending ← query (pendingMediaIds job.id)
  let supplied := itemResults.map AsyncJobItemResult.mediaId
  require ((∀ mediaId ∈ pending, mediaId ∈ supplied) ∧ (∀ mediaId ∈ supplied, mediaId ∈ pending) ∧
      supplied.Nodup)
    (.invariant "async job completion does not cover pending items exactly once")
  forEach (fun item => do
    validateItem job item completedAt
    updateItemResult item) itemResults
  let remaining ← query (itemCount job.id [.pending])
  require (remaining = 0) (.invariant "async job still has pending items after completion")
  let succeeded ← query (itemCount job.id [.succeeded])
  countAsU32 succeeded
  let failed ← query (itemCount job.id [.failed, .cancelled])
  countAsU32 failed
  let completed ← perform (AsyncJob.complete leaseToken succeeded failed completedAt) job
  updateJob completed.2
  return .completed completed.2

def completeAsyncJob (jobId : AsyncJobId) (leaseToken : String)
    (itemResults : List AsyncJobItemResult) (completedAt : Time) :
    Transaction AsyncJobCompletion := do
  let completedAt := postgresTime completedAt
  let job ← lockedJob jobId
  if job.state = .completed then return .alreadyCompleted job
  else if ownsLease job leaseToken completedAt then
    completeOwned job leaseToken itemResults completedAt
  else return .leaseLost

def failAsyncJob (jobId : AsyncJobId) (leaseToken errorSummary : String) (retryAt : Option Time)
    (failedAt : Time) : Transaction AsyncJobFailure := do
  let failedAt := postgresTime failedAt
  let retryAt := retryAt.map postgresTime
  let job ← lockedJob jobId
  if ownsLease job leaseToken failedAt then do
    let failed ← perform (AsyncJob.fail leaseToken errorSummary retryAt failedAt) job
    updateJob failed.2
    match failed.1 with
    | .retryScheduled _ => return .retryScheduled failed.2
    | .terminal => return .terminal failed.2
  else return .leaseLost

def cancelAsyncJob (applicationId : ApplicationId) (jobId : AsyncJobId) (cancelledAt : Time) :
    Transaction AsyncJobCancellation := do
  let cancelledAt := postgresTime cancelledAt
  let row ← query fun db => (db.jobs.find? jobId).filter (·.applicationId = applicationId)
  let row ← orThrow row .notFound
  let job ← rowToJob row
  match job.state with
  | .completed => return .completed
  | .failed => return .failed
  | .cancelled => return .alreadyCancelled job
  | .pending | .running => do
      let cancelled ← perform (AsyncJob.cancel cancelledAt) job
      updateJob cancelled.2
      write (itemRows.map (·.updateWhere
        (fun item => item.jobId = jobId && item.state = .pending) (cancelItem cancelledAt)))
      return .cancelled cancelled.2

/-- The jobs of a deleted application go with it, and their items by `ON DELETE CASCADE`. -/
def deleteApplicationJobs (applicationId : ApplicationId) : Transaction Unit := do
  write (jobRows.map (·.deleteWhere (·.applicationId = applicationId)))
  write (itemRows.map (·.deleteWhere (·.applicationId = applicationId)))

end Transactions

end MediaHub.Store.AsyncJobs

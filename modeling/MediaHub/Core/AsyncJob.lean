import MediaHub.Core.Basic
import MediaHub.Text.Result
import MediaHub.Transition.System

namespace MediaHub.Core

open Result Transition Transition.Method

abbrev AsyncJobId := Uuid

def maxAsyncJobErrorBytes : Nat := 2048
def maxAsyncJobIdempotencyKeyBytes : Nat := 255
def maxAsyncJobOperationScopeBytes : Nat := 128
def maxAsyncJobItems : Nat := 1000
def maxAsyncJobAttempts : Nat := 100
def maxAsyncJobLeaseSeconds : Int := 3600
def maxAsyncJobRequestIdBytes : Nat := 255

/-- The largest value of `u32`. -/
def maxU32 : Nat := 4294967295

def saturatingAddU32 (a b : Nat) : Nat := min (a + b) maxU32

inductive AsyncJobState where
  | pending
  | running
  | completed
  | failed
  | cancelled
deriving DecidableEq

def AsyncJobState.isTerminal : AsyncJobState → Bool
  | .completed | .failed | .cancelled => true
  | .pending | .running => false

inductive Visibility where
  | isPublic
  | isPrivate
deriving DecidableEq

inductive AsyncJobAction where
  | updateTtlSeconds (ttlSeconds : Option Nat)
  | updateVisibility (visibility : Visibility)
  | delete

inductive AsyncJobTransition where
  | applied
  | alreadyApplied
deriving DecidableEq

inductive AsyncJobFailureDisposition where
  | terminal
  | retryScheduled (retryAt : Time)

inductive AsyncJobError where
  | emptyBatch
  | invalidMaxAttempts
  | tooManyItems
  | tooManyAttempts
  | invalidTtlSeconds
  | invalidLeaseToken
  | invalidLeaseExpiry
  | leaseTooLong
  | attemptsExhausted
  | notClaimable
  | incompleteItemResults (expected actual : Nat)
  | invalidRetryTime
  | staleLease
  | expiredLease
  | invalidStateTransition (source target : AsyncJobState)
  | invalidOperationScope
  | invalidIdempotencyKey
  | invalidRequestHash
  | invalidRequestId
  | invalidErrorSummary
  | invalidPersistedJob

abbrev AsyncJobResult := Except AsyncJobError

def AsyncJobAction.validate : AsyncJobAction → AsyncJobResult Unit
  | .updateTtlSeconds (some 0) => .error .invalidTtlSeconds
  | _ => .ok ()

def isHexDigit (c : Char) : Bool :=
  c.isDigit || ('a' ≤ c && c ≤ 'f') || ('A' ≤ c && c ≤ 'F')

def validateIdentity (scope key requestHash : String) : AsyncJobResult Unit := do
  rejectIf (scope = "" ∨ maxAsyncJobOperationScopeBytes < scope.utf8ByteSize)
    .invalidOperationScope
  rejectIf (key = "" ∨ maxAsyncJobIdempotencyKeyBytes < key.utf8ByteSize) .invalidIdempotencyKey
  rejectIf (requestHash.utf8ByteSize ≠ 64 ∨ ¬ requestHash.toList.all isHexDigit)
    .invalidRequestHash

def validateRequestId (value : Option String) : AsyncJobResult Unit :=
  rejectIf (∃ text ∈ value, text = "" ∨ maxAsyncJobRequestIdBytes < text.utf8ByteSize)
    .invalidRequestId

def validateErrorSummary (value : String) : AsyncJobResult Unit :=
  rejectIf (value = "" ∨ maxAsyncJobErrorBytes < value.utf8ByteSize) .invalidErrorSummary

structure NewAsyncJob where
  id : AsyncJobId
  applicationId : ApplicationId
  operationScope : String
  idempotencyKey : String
  requestHash : String
  requestId : Option String
  action : AsyncJobAction
  totalItems : Nat
  maxAttempts : Nat

structure PersistedAsyncJob where
  id : AsyncJobId
  applicationId : ApplicationId
  operationScope : String
  idempotencyKey : String
  requestHash : String
  requestId : Option String
  action : AsyncJobAction
  state : AsyncJobState
  totalItems : Nat
  succeededItems : Nat
  failedItems : Nat
  attemptCount : Nat
  maxAttempts : Nat
  nextAttemptAt : Option Time
  leaseToken : Option String
  leasedUntil : Option Time
  errorSummary : Option String
  startedAt : Option Time
  completedAt : Option Time
  failedAt : Option Time
  cancelledAt : Option Time
  createdAt : Time
  updatedAt : Time

structure AsyncJob where
  id : AsyncJobId
  applicationId : ApplicationId
  operationScope : String
  idempotencyKey : String
  requestHash : String
  requestId : Option String
  action : AsyncJobAction
  state : AsyncJobState
  totalItems : Nat
  succeededItems : Nat
  failedItems : Nat
  attemptCount : Nat
  maxAttempts : Nat
  nextAttemptAt : Option Time
  leaseToken : Option String
  leasedUntil : Option Time
  errorSummary : Option String
  startedAt : Option Time
  completedAt : Option Time
  failedAt : Option Time
  cancelledAt : Option Time
  createdAt : Time
  updatedAt : Time

/-- A moment between the creation and the last update. -/
def PersistedAsyncJob.outsideLife (value : PersistedAsyncJob) (moment : Option Time) : Prop :=
  ∃ t ∈ moment, t < value.createdAt ∨ value.updatedAt < t

instance (value : PersistedAsyncJob) (moment : Option Time) :
    Decidable (value.outsideLife moment) := by
  unfold PersistedAsyncJob.outsideLife
  infer_instance

/-- The part of `validate_persisted` that depends on the state. -/
def PersistedAsyncJob.misshapen (value : PersistedAsyncJob) : Bool :=
  match value.state with
  | .pending =>
      value.leaseToken.isSome || value.leasedUntil.isSome || value.nextAttemptAt.isNone ||
        value.completedAt.isSome || value.failedAt.isSome || value.cancelledAt.isSome
  | .running =>
      match value.leasedUntil with
      | none => true
      | some leasedUntil =>
          value.leaseToken.isNone || value.nextAttemptAt.isSome || value.startedAt.isNone ||
            value.completedAt.isSome || value.failedAt.isSome || value.cancelledAt.isSome ||
            leasedUntil ≤ value.updatedAt ||
            Time.seconds maxAsyncJobLeaseSeconds < leasedUntil - value.updatedAt
  | .completed =>
      value.completedAt.isNone || value.startedAt.isNone || value.failedAt.isSome ||
        value.cancelledAt.isSome || value.leaseToken.isSome || value.leasedUntil.isSome ||
        value.nextAttemptAt.isSome ||
        saturatingAddU32 value.succeededItems value.failedItems ≠ value.totalItems ||
        value.errorSummary.isSome
  | .failed =>
      value.failedAt.isNone || value.startedAt.isNone || value.completedAt.isSome ||
        value.cancelledAt.isSome || value.leaseToken.isSome || value.leasedUntil.isSome ||
        value.nextAttemptAt.isSome || value.attemptCount ≠ value.maxAttempts ||
        value.errorSummary.isNone
  | .cancelled =>
      value.cancelledAt.isNone || value.completedAt.isSome || value.failedAt.isSome ||
        value.leaseToken.isSome || value.leasedUntil.isSome || value.nextAttemptAt.isSome

def validatePersisted (value : PersistedAsyncJob) : AsyncJobResult Unit := do
  rejectIf (value.totalItems = 0) .emptyBatch
  rejectIf (maxAsyncJobItems < value.totalItems) .tooManyItems
  rejectIf (value.maxAttempts = 0) .invalidMaxAttempts
  rejectIf (maxAsyncJobAttempts < value.maxAttempts) .tooManyAttempts
  rejectIf (value.totalItems < saturatingAddU32 value.succeededItems value.failedItems ∨
    value.maxAttempts < value.attemptCount ∨ value.updatedAt < value.createdAt ∨
    value.outsideLife value.startedAt ∨ value.outsideLife value.completedAt ∨
    value.outsideLife value.failedAt ∨ value.outsideLife value.cancelledAt) .invalidPersistedJob
  validateRequestId value.requestId
  value.errorSummary.forM validateErrorSummary
  rejectIf (∃ leaseToken ∈ value.leaseToken, leaseToken = "" ∨
    maxAsyncJobIdempotencyKeyBytes < leaseToken.utf8ByteSize) .invalidLeaseToken
  rejectIf (value.misshapen = true) .invalidPersistedJob

namespace AsyncJob

def new (input : NewAsyncJob) (now : Time) : AsyncJobResult AsyncJob := do
  validateIdentity input.operationScope input.idempotencyKey input.requestHash
  input.action.validate
  rejectIf (input.totalItems = 0) .emptyBatch
  rejectIf (maxAsyncJobItems < input.totalItems) .tooManyItems
  rejectIf (input.maxAttempts = 0) .invalidMaxAttempts
  rejectIf (maxAsyncJobAttempts < input.maxAttempts) .tooManyAttempts
  validateRequestId input.requestId
  return {
    id := input.id
    applicationId := input.applicationId
    operationScope := input.operationScope
    idempotencyKey := input.idempotencyKey
    requestHash := input.requestHash
    requestId := input.requestId
    action := input.action
    state := .pending
    totalItems := input.totalItems
    succeededItems := 0
    failedItems := 0
    attemptCount := 0
    maxAttempts := input.maxAttempts
    nextAttemptAt := some now
    leaseToken := none
    leasedUntil := none
    errorSummary := none
    startedAt := none
    completedAt := none
    failedAt := none
    cancelledAt := none
    createdAt := now
    updatedAt := now }

/-- The fields as they were persisted. -/
def ofPersisted (value : PersistedAsyncJob) : AsyncJob where
  id := value.id
  applicationId := value.applicationId
  operationScope := value.operationScope
  idempotencyKey := value.idempotencyKey
  requestHash := value.requestHash
  requestId := value.requestId
  action := value.action
  state := value.state
  totalItems := value.totalItems
  succeededItems := value.succeededItems
  failedItems := value.failedItems
  attemptCount := value.attemptCount
  maxAttempts := value.maxAttempts
  nextAttemptAt := value.nextAttemptAt
  leaseToken := value.leaseToken
  leasedUntil := value.leasedUntil
  errorSummary := value.errorSummary
  startedAt := value.startedAt
  completedAt := value.completedAt
  failedAt := value.failedAt
  cancelledAt := value.cancelledAt
  createdAt := value.createdAt
  updatedAt := value.updatedAt

def fromPersistence (value : PersistedAsyncJob) : AsyncJobResult AsyncJob := do
  validateIdentity value.operationScope value.idempotencyKey value.requestHash
  value.action.validate
  validatePersisted value
  return ofPersisted value

def toPersisted (job : AsyncJob) : PersistedAsyncJob where
  id := job.id
  applicationId := job.applicationId
  operationScope := job.operationScope
  idempotencyKey := job.idempotencyKey
  requestHash := job.requestHash
  requestId := job.requestId
  action := job.action
  state := job.state
  totalItems := job.totalItems
  succeededItems := job.succeededItems
  failedItems := job.failedItems
  attemptCount := job.attemptCount
  maxAttempts := job.maxAttempts
  nextAttemptAt := job.nextAttemptAt
  leaseToken := job.leaseToken
  leasedUntil := job.leasedUntil
  errorSummary := job.errorSummary
  startedAt := job.startedAt
  completedAt := job.completedAt
  failedAt := job.failedAt
  cancelledAt := job.cancelledAt
  createdAt := job.createdAt
  updatedAt := job.updatedAt

def isClaimableAt (job : AsyncJob) (now : Time) : Bool :=
  if job.maxAttempts ≤ job.attemptCount then false
  else match job.state with
    | .pending => job.nextAttemptAt.any (· ≤ now)
    | .running => job.leasedUntil.any (· ≤ now)
    | .completed | .failed | .cancelled => false

/-- The methods write their receiver field by field. -/
abbrev Step := Method AsyncJob AsyncJobError

def claim (leaseToken : String) (leasedUntil now : Time) : Step Unit := do
  check (rejectIf (leaseToken = "" ∨ 255 < leaseToken.utf8ByteSize) .invalidLeaseToken)
  check (rejectIf (leasedUntil ≤ now) .invalidLeaseExpiry)
  check (rejectIf (Time.seconds maxAsyncJobLeaseSeconds < leasedUntil - now) .leaseTooLong)
  reject (fun job => !job.isClaimableAt now) fun job =>
    if job.maxAttempts ≤ job.attemptCount then .attemptsExhausted else .notClaimable
  assign fun job => { job with state := .running }
  assign fun job => { job with attemptCount := job.attemptCount + 1 }
  assign fun job => { job with nextAttemptAt := none }
  assign fun job => { job with leaseToken := some leaseToken }
  assign fun job => { job with leasedUntil := some leasedUntil }
  assign fun job => { job with startedAt := some (job.startedAt.getD now) }
  assign fun job => { job with updatedAt := now }

def verifyLease (leaseToken : String) (now : Time) : Step Unit := do
  reject (fun job => job.state ≠ .running) fun job => .invalidStateTransition job.state .completed
  reject (fun job => job.leaseToken ≠ some leaseToken) fun _ => .staleLease
  reject (fun job => job.leasedUntil.all (· ≤ now)) fun _ => .expiredLease

/-- Extends an active lease and keeps its token. -/
def renewLease (leaseToken : String) (leasedUntil now : Time) : Step Unit := do
  verifyLease leaseToken now
  check (rejectIf (leasedUntil ≤ now) .invalidLeaseExpiry)
  check (rejectIf (Time.seconds maxAsyncJobLeaseSeconds < leasedUntil - now) .leaseTooLong)
  assign fun job => { job with leasedUntil := some leasedUntil }
  assign fun job => { job with updatedAt := now }

/-- `complete` after its first test. -/
def completeRunning (leaseToken : String) (succeededItems failedItems : Nat) (now : Time) :
    Step AsyncJobTransition := do
  verifyLease leaseToken now
  reject (fun job => saturatingAddU32 succeededItems failedItems ≠ job.totalItems) fun job =>
    .incompleteItemResults job.totalItems (saturatingAddU32 succeededItems failedItems)
  assign fun job => { job with state := .completed }
  assign fun job => { job with succeededItems := succeededItems }
  assign fun job => { job with failedItems := failedItems }
  assign fun job => { job with completedAt := some now }
  assign fun job => { job with nextAttemptAt := none }
  assign fun job => { job with leaseToken := none }
  assign fun job => { job with leasedUntil := none }
  assign fun job => { job with errorSummary := none }
  assign fun job => { job with updatedAt := now }
  return .applied

def complete (leaseToken : String) (succeededItems failedItems : Nat) (now : Time) :
    Step AsyncJobTransition := do
  let state ← observe AsyncJob.state
  if state = .completed then return .alreadyApplied
  else completeRunning leaseToken succeededItems failedItems now

def fail (leaseToken errorSummary : String) (retryAt : Option Time) (now : Time) :
    Step AsyncJobFailureDisposition := do
  verifyLease leaseToken now
  check (validateErrorSummary errorSummary)
  let exhausted ← observe fun job => decide (job.maxAttempts ≤ job.attemptCount)
  check (rejectIf (exhausted = false ∧ retryAt.all (· ≤ now)) .invalidRetryTime)
  assign fun job => { job with leaseToken := none }
  assign fun job => { job with leasedUntil := none }
  assign fun job => { job with errorSummary := some errorSummary }
  assign fun job => { job with updatedAt := now }
  if exhausted then
    assign fun job => { job with state := .failed }
    assign fun job => { job with nextAttemptAt := none }
    assign fun job => { job with failedAt := some now }
    return .terminal
  else
    assign fun job => { job with state := .pending }
    assign fun job => { job with nextAttemptAt := retryAt }
    -- A missing time was refused above.
    return .retryScheduled (retryAt.getD now)

/-- `cancel` after its tests. -/
def cancelOpen (now : Time) : Step AsyncJobTransition := do
  assign fun job => { job with state := .cancelled }
  assign fun job => { job with nextAttemptAt := none }
  assign fun job => { job with leaseToken := none }
  assign fun job => { job with leasedUntil := none }
  assign fun job => { job with cancelledAt := some now }
  assign fun job => { job with updatedAt := now }
  return .applied

def cancel (now : Time) : Step AsyncJobTransition := do
  let state ← observe AsyncJob.state
  if state = .cancelled then return .alreadyApplied
  else
    reject (fun job => job.state.isTerminal) fun job =>
      .invalidStateTransition job.state .cancelled
    cancelOpen now

end AsyncJob

end MediaHub.Core

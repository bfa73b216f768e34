import MediaHub.Core.AsyncJob
import MediaHub.Transition.System

namespace MediaHub.Core

open Result Transition Transition.Method

/-- What `from_persistence` asks of a job. -/
structure AsyncJob.WellFormed (job : AsyncJob) : Prop where
  identity : validateIdentity job.operationScope job.idempotencyKey job.requestHash = .ok ()
  action : job.action.validate = .ok ()
  requestId : validateRequestId job.requestId = .ok ()
  items : 0 < job.totalItems ∧ job.totalItems ≤ maxAsyncJobItems
  attemptLimit : 0 < job.maxAttempts ∧ job.maxAttempts ≤ maxAsyncJobAttempts
  counts : saturatingAddU32 job.succeededItems job.failedItems ≤ job.totalItems
  attempts : job.attemptCount ≤ job.maxAttempts
  life : job.createdAt ≤ job.updatedAt
  started : ∀ t ∈ job.startedAt, job.createdAt ≤ t ∧ t ≤ job.updatedAt
  completed : ∀ t ∈ job.completedAt, job.createdAt ≤ t ∧ t ≤ job.updatedAt
  failed : ∀ t ∈ job.failedAt, job.createdAt ≤ t ∧ t ≤ job.updatedAt
  cancelled : ∀ t ∈ job.cancelledAt, job.createdAt ≤ t ∧ t ≤ job.updatedAt
  summary : ∀ text ∈ job.errorSummary, validateErrorSummary text = .ok ()
  token : ∀ text ∈ job.leaseToken,
    text ≠ "" ∧ text.utf8ByteSize ≤ maxAsyncJobIdempotencyKeyBytes
  shape : job.toPersisted.misshapen = false

namespace AsyncJob

@[simp] theorem ofPersisted_toPersisted (job : AsyncJob) : ofPersisted job.toPersisted = job := rfl

theorem not_outsideLife_iff {value : PersistedAsyncJob} {moment : Option Time} :
    ¬ value.outsideLife moment ↔
      ∀ t ∈ moment, value.createdAt ≤ t ∧ t ≤ value.updatedAt := by
  simp [PersistedAsyncJob.outsideLife, not_or]

theorem forM_validateErrorSummary_iff {summary : Option String} {u : PUnit} :
    summary.forM validateErrorSummary = .ok u ↔
      ∀ text ∈ summary, validateErrorSummary text = .ok () := by
  cases summary with
  | none => simp [Option.forM]
  | some text => simp [Option.forM]

theorem validatePersisted_iff {job : AsyncJob} {u : Unit}
    (hidentity : validateIdentity job.operationScope job.idempotencyKey job.requestHash = .ok ())
    (haction : job.action.validate = .ok ()) :
    validatePersisted job.toPersisted = .ok u ↔ job.WellFormed := by
  simp only [validatePersisted, andThen_eq_ok_iff, rejectIf_eq_ok_iff, not_or,
    not_outsideLife_iff, forM_validateErrorSummary_iff, not_exists, not_and, Nat.not_lt,
    Int.not_lt, Bool.not_eq_true]
  constructor
  · rintro ⟨hitems, hitems', hlimit, hlimit', ⟨hcounts, hattempts, hlife, hstarted, hcompleted,
      hfailed, hcancelled⟩, hrequest, hsummary, htoken, hshape⟩
    exact ⟨hidentity, haction, hrequest, ⟨Nat.pos_of_ne_zero hitems, hitems'⟩,
      ⟨Nat.pos_of_ne_zero hlimit, hlimit'⟩, hcounts, hattempts, hlife, hstarted, hcompleted,
      hfailed, hcancelled, hsummary, htoken, hshape⟩
  · intro h
    exact ⟨Nat.ne_of_gt h.items.1, h.items.2, Nat.ne_of_gt h.attemptLimit.1, h.attemptLimit.2,
      ⟨h.counts, h.attempts, h.life, h.started, h.completed, h.failed, h.cancelled⟩,
      h.requestId, h.summary, h.token, h.shape⟩

/-- The round trip succeeds for well-formed jobs and only for them. -/
theorem fromPersistence_toPersisted_iff {job : AsyncJob} :
    fromPersistence job.toPersisted = .ok job ↔ job.WellFormed := by
  simp only [fromPersistence, andThen_eq_ok_iff, pure_eq_ok_iff, ofPersisted_toPersisted,
    and_true]
  constructor
  · rintro ⟨hidentity, haction, hvalid⟩
    exact (validatePersisted_iff hidentity haction).1 hvalid
  · intro h
    exact ⟨h.identity, h.action, (validatePersisted_iff h.identity h.action).2 h⟩

theorem of_new {input : NewAsyncJob} {now : Time} {job : AsyncJob}
    (h : AsyncJob.new input now = .ok job) :
    job.WellFormed ∧ job.updatedAt = now ∧ job.maxAttempts = input.maxAttempts ∧
      job.state = .pending := by
  simp only [AsyncJob.new, andThen_eq_ok_iff, rejectIf_eq_ok_iff, pure_eq_ok_iff, Nat.not_lt]
    at h
  obtain ⟨hidentity, haction, hitems, hitems', hlimit, hlimit', hrequest, rfl⟩ := h
  refine ⟨⟨hidentity, haction, hrequest, ⟨Nat.pos_of_ne_zero hitems, hitems'⟩,
    ⟨Nat.pos_of_ne_zero hlimit, hlimit'⟩, ?_, Nat.zero_le _, Int.le_refl _, ?_, ?_, ?_, ?_, ?_, ?_,
    rfl⟩, rfl, rfl, rfl⟩ <;> simp [saturatingAddU32]

theorem run_claim_ok {leaseToken : String} {leasedUntil now : Time} {job job' : AsyncJob}
    {u : Unit} :
    (claim leaseToken leasedUntil now).run job = (.ok u, job') ↔
      (leaseToken ≠ "" ∧ leaseToken.utf8ByteSize ≤ 255) ∧ now < leasedUntil ∧
      leasedUntil - now ≤ Time.seconds maxAsyncJobLeaseSeconds ∧ job.isClaimableAt now ∧
      job' = { job with
        state := .running
        attemptCount := job.attemptCount + 1
        nextAttemptAt := none
        leaseToken := some leaseToken
        leasedUntil := some leasedUntil
        startedAt := some (job.startedAt.getD now)
        updatedAt := now } := by
  simp [claim, and_assoc]

theorem run_verifyLease_ok {leaseToken : String} {now : Time} {job job' : AsyncJob} {u : Unit} :
    (verifyLease leaseToken now).run job = (.ok u, job') ↔
      (job.state = .running ∧ job.leaseToken = some leaseToken ∧
        ∃ leasedUntil ∈ job.leasedUntil, now < leasedUntil) ∧ job' = job := by
  simp only [verifyLease, run_bind_ok, run_reject_ok]
  cases hlease : job.leasedUntil <;> simp [hlease, and_assoc]

theorem run_renewLease_ok {leaseToken : String} {leasedUntil now : Time} {job job' : AsyncJob}
    {u : Unit} :
    (renewLease leaseToken leasedUntil now).run job = (.ok u, job') ↔
      (job.state = .running ∧ job.leaseToken = some leaseToken ∧
        ∃ current ∈ job.leasedUntil, now < current) ∧ now < leasedUntil ∧
      leasedUntil - now ≤ Time.seconds maxAsyncJobLeaseSeconds ∧
      job' = { job with leasedUntil := some leasedUntil, updatedAt := now } := by
  simp only [renewLease, run_bind_ok, run_verifyLease_ok]
  simp [and_assoc]

theorem run_completeRunning_ok {leaseToken : String} {succeededItems failedItems : Nat}
    {now : Time} {job job' : AsyncJob} {outcome : AsyncJobTransition} :
    (completeRunning leaseToken succeededItems failedItems now).run job = (.ok outcome, job') ↔
      (job.state = .running ∧ job.leaseToken = some leaseToken ∧
        ∃ current ∈ job.leasedUntil, now < current) ∧
      saturatingAddU32 succeededItems failedItems = job.totalItems ∧ outcome = .applied ∧
      job' = { job with
        state := .completed
        succeededItems := succeededItems
        failedItems := failedItems
        completedAt := some now
        nextAttemptAt := none
        leaseToken := none
        leasedUntil := none
        errorSummary := none
        updatedAt := now } := by
  simp only [completeRunning, run_bind_ok, run_verifyLease_ok]
  simp [and_assoc]

theorem run_complete_ok {leaseToken : String} {succeededItems failedItems : Nat}
    {now : Time} {job job' : AsyncJob} {outcome : AsyncJobTransition} :
    (complete leaseToken succeededItems failedItems now).run job = (.ok outcome, job') ↔
      (job.state = .completed ∧ outcome = .alreadyApplied ∧ job' = job) ∨
      (job.state ≠ .completed ∧
        (completeRunning leaseToken succeededItems failedItems now).run job =
          (.ok outcome, job')) := by
  simp only [complete, run_bind_ok, run_observe_ok]
  by_cases hstate : job.state = .completed <;> simp [hstate]

theorem run_fail_ok {leaseToken errorSummary : String} {retryAt : Option Time} {now : Time}
    {job job' : AsyncJob} {outcome : AsyncJobFailureDisposition} :
    (fail leaseToken errorSummary retryAt now).run job = (.ok outcome, job') ↔
      (job.state = .running ∧ job.leaseToken = some leaseToken ∧
        ∃ current ∈ job.leasedUntil, now < current) ∧
      validateErrorSummary errorSummary = .ok () ∧
      ((job.maxAttempts ≤ job.attemptCount ∧ outcome = .terminal ∧
          job' = { job with
            state := .failed
            nextAttemptAt := none
            leaseToken := none
            leasedUntil := none
            errorSummary := some errorSummary
            failedAt := some now
            updatedAt := now }) ∨
        (job.attemptCount < job.maxAttempts ∧ ∃ retry, retryAt = some retry ∧ now < retry ∧
          outcome = .retryScheduled retry ∧
          job' = { job with
            state := .pending
            nextAttemptAt := some retry
            leaseToken := none
            leasedUntil := none
            errorSummary := some errorSummary
            updatedAt := now })) := by
  simp only [fail, run_bind_ok, run_verifyLease_ok, run_observe_ok]
  by_cases hlimit : job.maxAttempts ≤ job.attemptCount
  · simp [hlimit, and_assoc, Nat.not_lt.2 hlimit, Unique.exists_iff]
  · cases retryAt <;> simp [hlimit, and_assoc, Nat.not_le.1 hlimit, Unique.exists_iff]

theorem run_cancel_ok {now : Time} {job job' : AsyncJob} {outcome : AsyncJobTransition} :
    (cancel now).run job = (.ok outcome, job') ↔
      (job.state = .cancelled ∧ outcome = .alreadyApplied ∧ job' = job) ∨
      (job.state.isTerminal = false ∧ outcome = .applied ∧
        job' = { job with
          state := .cancelled
          nextAttemptAt := none
          leaseToken := none
          leasedUntil := none
          cancelledAt := some now
          updatedAt := now }) := by
  simp only [cancel, cancelOpen, run_bind_ok, run_observe_ok]
  cases hstate : job.state <;> simp [hstate, AsyncJobState.isTerminal]

theorem readOnly_verifyLease (leaseToken : String) (now : Time) :
    (verifyLease leaseToken now).ReadOnly :=
  (readOnly_reject _ _).bind fun _ => (readOnly_reject _ _).bind fun _ => readOnly_reject _ _

theorem atomic_claim (leaseToken : String) (leasedUntil now : Time) :
    (claim leaseToken leasedUntil now).Atomic := by
  refine (readOnly_check _).bind_atomic fun _ => (readOnly_check _).bind_atomic fun _ =>
    (readOnly_check _).bind_atomic fun _ => (readOnly_reject _ _).bind_atomic fun _ => ?_
  refine Total.atomic ?_
  iterate 6 refine (total_assign _).bind fun _ => ?_
  exact total_assign _

theorem atomic_renewLease (leaseToken : String) (leasedUntil now : Time) :
    (renewLease leaseToken leasedUntil now).Atomic := by
  refine (readOnly_verifyLease _ _).bind_atomic fun _ => (readOnly_check _).bind_atomic fun _ =>
    (readOnly_check _).bind_atomic fun _ => ?_
  exact ((total_assign _).bind fun _ => total_assign _).atomic

theorem atomic_complete (leaseToken : String) (succeededItems failedItems : Nat) (now : Time) :
    (complete leaseToken succeededItems failedItems now).Atomic := by
  refine (readOnly_observe _).bind_atomic fun state => ?_
  split
  · exact (total_pure _).atomic
  · refine (readOnly_verifyLease _ _).bind_atomic fun _ =>
      (readOnly_reject _ _).bind_atomic fun _ => ?_
    refine Total.atomic ?_
    iterate 9 refine (total_assign _).bind fun _ => ?_
    exact total_pure _

theorem atomic_fail (leaseToken errorSummary : String) (retryAt : Option Time) (now : Time) :
    (fail leaseToken errorSummary retryAt now).Atomic := by
  refine (readOnly_verifyLease _ _).bind_atomic fun _ => (readOnly_check _).bind_atomic fun _ =>
    (readOnly_observe _).bind_atomic fun exhausted => (readOnly_check _).bind_atomic fun _ => ?_
  refine Total.atomic ?_
  iterate 4 refine (total_assign _).bind fun _ => ?_
  split
  · iterate 3 refine (total_assign _).bind fun _ => ?_
    exact total_pure _
  · iterate 2 refine (total_assign _).bind fun _ => ?_
    exact total_pure _

theorem atomic_cancel (now : Time) : (cancel now).Atomic := by
  refine (readOnly_observe _).bind_atomic fun state => ?_
  split
  · exact (total_pure _).atomic
  · refine (readOnly_reject _ _).bind_atomic fun _ => Total.atomic ?_
    iterate 6 refine (total_assign _).bind fun _ => ?_
    exact total_pure _

end AsyncJob

inductive AsyncJobCall where
  | claim (leaseToken : String) (leasedUntil : Time)
  | renewLease (leaseToken : String) (leasedUntil : Time)
  | complete (leaseToken : String) (succeededItems failedItems : Nat)
  | fail (leaseToken errorSummary : String) (retryAt : Option Time)
  | cancel

/-- What a successful call returns. -/
inductive AsyncJobOutcome where
  | done
  | transition (transition : AsyncJobTransition)
  | disposition (disposition : AsyncJobFailureDisposition)

/-- The token of the calls that a lease has to authorise. -/
def AsyncJobCall.authority : AsyncJobCall → Option String
  | .renewLease leaseToken _ | .complete leaseToken _ _ | .fail leaseToken _ _ => some leaseToken
  | .claim _ _ | .cancel => none

def AsyncJobCall.perform (call : AsyncJobCall) (now : Time) : AsyncJob.Step AsyncJobOutcome :=
  match call with
  | .claim leaseToken leasedUntil => do
      AsyncJob.claim leaseToken leasedUntil now
      return .done
  | .renewLease leaseToken leasedUntil => do
      AsyncJob.renewLease leaseToken leasedUntil now
      return .done
  | .complete leaseToken succeededItems failedItems => do
      let transition ← AsyncJob.complete leaseToken succeededItems failedItems now
      return .transition transition
  | .fail leaseToken errorSummary retryAt => do
      let disposition ← AsyncJob.fail leaseToken errorSummary retryAt now
      return .disposition disposition
  | .cancel => do
      let transition ← AsyncJob.cancel now
      return .transition transition

/-- The call neither failed nor found its work done already. -/
def applied : AsyncJobResult AsyncJobOutcome → Bool
  | .error _ | .ok (.transition .alreadyApplied) => false
  | .ok _ => true

/-- The lease that a call needs. -/
def AsyncJob.HeldUnder (job : AsyncJob) (leaseToken : String) (now : Time) : Prop :=
  job.state = .running ∧ job.leaseToken = some leaseToken ∧
    ∃ leasedUntil ∈ job.leasedUntil, now < leasedUntil

/-- The moves of a job, one for each way in which a call changes it. -/
inductive AsyncJob.Moves (now : Time) (job : AsyncJob) : AsyncJobCall → AsyncJob → Prop
  | claim {leaseToken : String} {leasedUntil : Time}
      (token : leaseToken ≠ "" ∧ leaseToken.utf8ByteSize ≤ 255) (later : now < leasedUntil)
      (short : leasedUntil - now ≤ Time.seconds maxAsyncJobLeaseSeconds)
      (claimable : job.isClaimableAt now = true) :
      Moves now job (.claim leaseToken leasedUntil) { job with
        state := .running
        attemptCount := job.attemptCount + 1
        nextAttemptAt := none
        leaseToken := some leaseToken
        leasedUntil := some leasedUntil
        startedAt := some (job.startedAt.getD now)
        updatedAt := now }
  | renew {leaseToken : String} {leasedUntil : Time} (held : job.HeldUnder leaseToken now)
      (later : now < leasedUntil)
      (short : leasedUntil - now ≤ Time.seconds maxAsyncJobLeaseSeconds) :
      Moves now job (.renewLease leaseToken leasedUntil)
        { job with leasedUntil := some leasedUntil, updatedAt := now }
  | complete {leaseToken : String} {succeededItems failedItems : Nat}
      (held : job.HeldUnder leaseToken now)
      (total : saturatingAddU32 succeededItems failedItems = job.totalItems) :
      Moves now job (.complete leaseToken succeededItems failedItems) { job with
        state := .completed
        succeededItems := succeededItems
        failedItems := failedItems
        completedAt := some now
        nextAttemptAt := none
        leaseToken := none
        leasedUntil := none
        errorSummary := none
        updatedAt := now }
  | exhaust {leaseToken errorSummary : String} {retryAt : Option Time}
      (held : job.HeldUnder leaseToken now)
      (summary : validateErrorSummary errorSummary = .ok ())
      (exhausted : job.maxAttempts ≤ job.attemptCount) :
      Moves now job (.fail leaseToken errorSummary retryAt) { job with
        state := .failed
        nextAttemptAt := none
        leaseToken := none
        leasedUntil := none
        errorSummary := some errorSummary
        failedAt := some now
        updatedAt := now }
  | retry {leaseToken errorSummary : String} {retry : Time}
      (held : job.HeldUnder leaseToken now)
      (summary : validateErrorSummary errorSummary = .ok ())
      (remaining : job.attemptCount < job.maxAttempts) (later : now < retry) :
      Moves now job (.fail leaseToken errorSummary (some retry)) { job with
        state := .pending
        nextAttemptAt := some retry
        leaseToken := none
        leasedUntil := none
        errorSummary := some errorSummary
        updatedAt := now }
  | cancel (isOpen : job.state.isTerminal = false) :
      Moves now job .cancel { job with
        state := .cancelled
        nextAttemptAt := none
        leaseToken := none
        leasedUntil := none
        cancelledAt := some now
        updatedAt := now }

namespace AsyncJobCall

theorem atomic_perform (call : AsyncJobCall) (now : Time) : (call.perform now).Atomic := by
  cases call with
  | claim => exact (AsyncJob.atomic_claim _ _ _).bind_total fun _ => total_pure _
  | renewLease => exact (AsyncJob.atomic_renewLease _ _ _).bind_total fun _ => total_pure _
  | complete => exact (AsyncJob.atomic_complete _ _ _ _).bind_total fun _ => total_pure _
  | fail => exact (AsyncJob.atomic_fail _ _ _ _).bind_total fun _ => total_pure _
  | cancel => exact (AsyncJob.atomic_cancel _).bind_total fun _ => total_pure _

/-- A call moves the job, or it leaves the job as it is. -/
theorem perform_cases (call : AsyncJobCall) (now : Time) (job : AsyncJob) :
    (applied ((call.perform now).run job).1 = true ∧
      job.Moves now call ((call.perform now).run job).2) ∨
    (applied ((call.perform now).run job).1 = false ∧
      ((call.perform now).run job).2 = job) := by
  have hatomic : (call.perform now).Atomic := atomic_perform call now
  rcases hrun : (call.perform now).run job with ⟨e | outcome, job'⟩
  · have hsame := hatomic job e (by rw [hrun])
    rw [hrun] at hsame
    exact Or.inr ⟨rfl, hsame⟩
  cases call with
  | claim leaseToken leasedUntil =>
      simp only [perform, run_bind_ok, AsyncJob.run_claim_ok, run_pure_ok] at hrun
      obtain ⟨_, _, ⟨htoken, hlater, hshort, hclaimable, rfl⟩, rfl, rfl⟩ := hrun
      exact Or.inl ⟨rfl, .claim htoken hlater hshort hclaimable⟩
  | renewLease leaseToken leasedUntil =>
      simp only [perform, run_bind_ok, AsyncJob.run_renewLease_ok, run_pure_ok] at hrun
      obtain ⟨_, _, ⟨hheld, hlater, hshort, rfl⟩, rfl, rfl⟩ := hrun
      exact Or.inl ⟨rfl, .renew hheld hlater hshort⟩
  | complete leaseToken succeededItems failedItems =>
      simp only [perform, run_bind_ok, AsyncJob.run_complete_ok, run_pure_ok,
        AsyncJob.run_completeRunning_ok] at hrun
      obtain ⟨_, _, ⟨_, rfl, rfl⟩ | ⟨_, hheld, htotal, rfl, rfl⟩, rfl, rfl⟩ := hrun
      · exact Or.inr ⟨rfl, rfl⟩
      · exact Or.inl ⟨rfl, .complete hheld htotal⟩
  | fail leaseToken errorSummary retryAt =>
      simp only [perform, run_bind_ok, AsyncJob.run_fail_ok, run_pure_ok] at hrun
      obtain ⟨_, _, ⟨hheld, hsummary, ⟨hlimit, rfl, rfl⟩ |
        ⟨hlimit, retry, rfl, hlater, rfl, rfl⟩⟩, rfl, rfl⟩ := hrun
      · exact Or.inl ⟨rfl, .exhaust hheld hsummary hlimit⟩
      · exact Or.inl ⟨rfl, .retry hheld hsummary hlimit hlater⟩
  | cancel =>
      simp only [perform, run_bind_ok, AsyncJob.run_cancel_ok, run_pure_ok] at hrun
      obtain ⟨_, _, ⟨_, rfl, rfl⟩ | ⟨hopen, rfl, rfl⟩, rfl, rfl⟩ := hrun
      · exact Or.inr ⟨rfl, rfl⟩
      · exact Or.inl ⟨rfl, .cancel hopen⟩

end AsyncJobCall

namespace AsyncJob.Moves

variable {now : Time} {job job' : AsyncJob} {call : AsyncJobCall}

theorem updatedAt_eq (h : job.Moves now call job') : job'.updatedAt = now := by
  cases h <;> rfl

/-- A moment of the job's life is still one after an update. -/
theorem within_mono {createdAt updatedAt now : Time} {moment : Option Time}
    (hnow : updatedAt ≤ now) (h : ∀ t ∈ moment, createdAt ≤ t ∧ t ≤ updatedAt) :
    ∀ t ∈ moment, createdAt ≤ t ∧ t ≤ now :=
  fun t ht => ⟨(h t ht).1, Int.le_trans (h t ht).2 hnow⟩

theorem within_now {createdAt updatedAt now : Time} (hlife : createdAt ≤ updatedAt)
    (hnow : updatedAt ≤ now) : ∀ t ∈ some now, createdAt ≤ t ∧ t ≤ now := by
  rintro t ⟨⟩
  exact ⟨Int.le_trans hlife hnow, Int.le_refl _⟩

/-- Neither a finished nor a failed job is claimed, held or open. -/
theorem not_isTerminal (h : job.Moves now call job') : job.state.isTerminal = false := by
  cases h with
  | claim _ _ _ claimable =>
      simp only [AsyncJob.isClaimableAt] at claimable
      cases hstate : job.state <;> simp_all [AsyncJobState.isTerminal]
  | renew held | complete held | exhaust held | retry held =>
      rw [held.1]
      rfl
  | cancel isOpen => exact isOpen

theorem held_of_authority (h : job.Moves now call job') {leaseToken : String}
    (hauthority : call.authority = some leaseToken) : job.HeldUnder leaseToken now := by
  cases h with
  | claim | cancel => cases hauthority
  | renew held | complete held | exhaust held | retry held =>
      cases hauthority
      exact held

theorem attempts_lt_of_claimable (h : job.isClaimableAt now = true) :
    job.attemptCount < job.maxAttempts := by
  simp only [AsyncJob.isClaimableAt] at h
  split at h
  · cases h
  · omega

/-- An open job has no end. -/
theorem ends_of_open (hwf : job.WellFormed) (hopen : job.state.isTerminal = false) :
    job.completedAt = none ∧ job.failedAt = none ∧ job.cancelledAt = none := by
  have hshape := hwf.shape
  unfold PersistedAsyncJob.misshapen at hshape
  cases hstate : job.state <;> simp [AsyncJob.toPersisted, hstate] at hshape
  · exact ⟨hshape.1.1.2, hshape.1.2, hshape.2⟩
  · split at hshape
    · cases hshape
    · simp at hshape
      tauto
  all_goals simp [hstate, AsyncJobState.isTerminal] at hopen

theorem of_running (hwf : job.WellFormed) (hrunning : job.state = .running) :
    job.nextAttemptAt = none ∧ job.startedAt.isSome := by
  have hshape := hwf.shape
  cases hlease : job.leasedUntil
  · simp [PersistedAsyncJob.misshapen, AsyncJob.toPersisted, hrunning, hlease] at hshape
  · simp only [PersistedAsyncJob.misshapen, AsyncJob.toPersisted, hrunning, hlease,
      Bool.or_eq_false_iff] at hshape
    obtain ⟨⟨⟨⟨⟨⟨⟨_, hnext⟩, hstarted⟩, _⟩, _⟩, _⟩, _⟩, _⟩ := hshape
    exact ⟨by simpa using hnext, by simpa [Option.isSome_iff_ne_none] using hstarted⟩

/-- Every move keeps a job that `from_persistence` accepts. -/
theorem wellFormed (h : job.Moves now call job') (hwf : job.WellFormed)
    (hnow : job.updatedAt ≤ now) : job'.WellFormed := by
  obtain ⟨hcompleted, hfailed, hcancelled⟩ := ends_of_open hwf h.not_isTerminal
  cases h with
  | @claim leaseToken leasedUntil token later short claimable =>
      have hattempts := attempts_lt_of_claimable claimable
      refine { hwf with
        attempts := hattempts
        life := Int.le_trans hwf.life hnow
        started := ?_
        completed := within_mono hnow hwf.completed
        failed := within_mono hnow hwf.failed
        cancelled := within_mono hnow hwf.cancelled
        token := ?_
        shape := ?_ }
      · rintro t ⟨⟩
        cases hstarted : job.startedAt with
        | none => exact within_now hwf.life hnow now rfl
        | some started => exact within_mono hnow hwf.started started (by simp [hstarted])
      · rintro text ⟨⟩
        exact token
      · simp [PersistedAsyncJob.misshapen, AsyncJob.toPersisted, hcompleted, hfailed, hcancelled,
          later, short]
  | @renew leaseToken leasedUntil held later short =>
      obtain ⟨hnext, hstarted⟩ := of_running hwf held.1
      refine { hwf with
        life := Int.le_trans hwf.life hnow
        started := within_mono hnow hwf.started
        completed := within_mono hnow hwf.completed
        failed := within_mono hnow hwf.failed
        cancelled := within_mono hnow hwf.cancelled
        shape := ?_ }
      simp [PersistedAsyncJob.misshapen, AsyncJob.toPersisted, held.1, held.2.1, hnext,
        hstarted, hcompleted, hfailed, hcancelled, later, short]
  | complete held total =>
      obtain ⟨hnext, hstarted⟩ := of_running hwf held.1
      refine { hwf with
        counts := Nat.le_of_eq total
        life := Int.le_trans hwf.life hnow
        started := within_mono hnow hwf.started
        completed := within_now hwf.life hnow
        failed := within_mono hnow hwf.failed
        cancelled := within_mono hnow hwf.cancelled
        summary := by simp
        token := by simp
        shape := ?_ }
      simp [PersistedAsyncJob.misshapen, AsyncJob.toPersisted,
        hstarted, hfailed, hcancelled, total]
  | exhaust held summary exhausted =>
      obtain ⟨hnext, hstarted⟩ := of_running hwf held.1
      refine { hwf with
        life := Int.le_trans hwf.life hnow
        started := within_mono hnow hwf.started
        completed := within_mono hnow hwf.completed
        failed := within_now hwf.life hnow
        cancelled := within_mono hnow hwf.cancelled
        summary := ?_
        token := by simp
        shape := ?_ }
      · rintro text ⟨⟩
        exact summary
      · simp [PersistedAsyncJob.misshapen, AsyncJob.toPersisted,
          hstarted, hcompleted, hcancelled,
          Nat.le_antisymm hwf.attempts exhausted]
  | retry held summary remaining later =>
      refine { hwf with
        life := Int.le_trans hwf.life hnow
        started := within_mono hnow hwf.started
        completed := within_mono hnow hwf.completed
        failed := within_mono hnow hwf.failed
        cancelled := within_mono hnow hwf.cancelled
        summary := ?_
        token := by simp
        shape := ?_ }
      · rintro text ⟨⟩
        exact summary
      · simp [PersistedAsyncJob.misshapen, AsyncJob.toPersisted, hcompleted, hfailed, hcancelled]
  | cancel isOpen =>
      refine { hwf with
        life := Int.le_trans hwf.life hnow
        started := within_mono hnow hwf.started
        completed := within_mono hnow hwf.completed
        failed := within_mono hnow hwf.failed
        cancelled := within_now hwf.life hnow
        token := by simp
        shape := ?_ }
      simp [PersistedAsyncJob.misshapen, AsyncJob.toPersisted, hcompleted, hfailed]

end AsyncJob.Moves

/-- A job, the clock of the last call, and the calls so far with their results, newest first. -/
structure AsyncJobHistory where
  job : AsyncJob
  clock : Time
  log : List (AsyncJobCall × AsyncJobResult AsyncJobOutcome)

namespace AsyncJobHistory

/-- The token of the latest claim and the end of its lease, as renewals have moved it. -/
def latestLease : List (AsyncJobCall × AsyncJobResult AsyncJobOutcome) → Option (String × Time)
  | [] => none
  | (.claim leaseToken leasedUntil, .ok _) :: _ => some (leaseToken, leasedUntil)
  | (.renewLease _ leasedUntil, .ok _) :: log =>
      (latestLease log).map fun lease => (lease.1, leasedUntil)
  | _ :: log => latestLease log

def start (job : AsyncJob) (now : Time) : AsyncJobHistory := ⟨job, now, []⟩

def step (history : AsyncJobHistory) (event : Time × AsyncJobCall) : AsyncJobHistory :=
  let response := (event.2.perform event.1).run history.job
  ⟨response.2, event.1, (event.2, response.1) :: history.log⟩

/-- The calls on a job that `AsyncJob::new` built. -/
def lifecycle : System AsyncJobHistory (Time × AsyncJobCall) where
  init history := ∃ input now job, AsyncJob.new input now = .ok job ∧ history = start job now
  step := step

/-- The clock does not run backwards. -/
def ClockAdvances (history : AsyncJobHistory) (event : Time × AsyncJobCall) : Prop :=
  history.clock ≤ event.1

/-- A running job holds the latest lease. -/
def HoldsLatest (job : AsyncJob) (log : List (AsyncJobCall × AsyncJobResult AsyncJobOutcome)) :
    Prop :=
  job.state = .running → ∃ leaseToken leasedUntil, job.leaseToken = some leaseToken ∧
    job.leasedUntil = some leasedUntil ∧ latestLease log = some (leaseToken, leasedUntil)

theorem HoldsLatest.of_moves {now : Time} {call : AsyncJobCall} {job job' : AsyncJob}
    {log : List (AsyncJobCall × AsyncJobResult AsyncJobOutcome)} (outcome : AsyncJobOutcome)
    (hm : job.Moves now call job') (h : HoldsLatest job log) :
    HoldsLatest job' ((call, .ok outcome) :: log) := by
  intro hrunning
  cases hm with
  | claim => exact ⟨_, _, rfl, rfl, rfl⟩
  | renew held =>
      obtain ⟨leaseToken, leasedUntil, htoken, huntil, hlatest⟩ := h held.1
      exact ⟨leaseToken, _, htoken, rfl, by simp [latestLease, hlatest]⟩
  | complete | exhaust | retry | cancel => cases hrunning

instance (history : AsyncJobHistory) (event : Time × AsyncJobCall) :
    Decidable (history.ClockAdvances event) :=
  inferInstanceAs (Decidable (history.clock ≤ event.1))

/-- What the calls keep: the job can be stored and read back, and a running job holds the
lease of its latest claim. -/
structure Invariant (history : AsyncJobHistory) : Prop where
  wellFormed : history.job.WellFormed
  clock : history.job.updatedAt ≤ history.clock
  lease : HoldsLatest history.job history.log

theorem invariant_start {input : NewAsyncJob} {now : Time} {job : AsyncJob}
    (h : AsyncJob.new input now = .ok job) : (start job now).Invariant := by
  obtain ⟨hwf, hupdated, _, hpending⟩ := AsyncJob.of_new h
  refine ⟨hwf, Int.le_of_eq hupdated, fun hrunning => ?_⟩
  rw [show (start job now).job = job from rfl, hpending] at hrunning
  cases hrunning

/-- A call that did nothing leaves the latest lease as it was. -/
theorem latestLease_of_not_applied {call : AsyncJobCall} {now : Time} {job : AsyncJob}
    {log : List (AsyncJobCall × AsyncJobResult AsyncJobOutcome)}
    (h : applied ((call.perform now).run job).1 = false) :
    latestLease ((call, ((call.perform now).run job).1) :: log) = latestLease log := by
  rcases hresult : ((call.perform now).run job).1 with e | outcome
  · cases call <;> rfl
  rw [hresult] at h
  cases outcome with
  | done | disposition => cases h
  | transition =>
      cases call with
      | claim | renewLease =>
          have hrun : (AsyncJobCall.perform _ now).run job =
            (.ok _, ((AsyncJobCall.perform _ now).run job).2) := Prod.ext hresult rfl
          simp [AsyncJobCall.perform] at hrun
      | complete | fail | cancel => rfl

theorem invariant_step {history : AsyncJobHistory} {event : Time × AsyncJobCall}
    (h : history.Invariant) (hclock : history.ClockAdvances event) :
    (history.step event).Invariant := by
  obtain ⟨now, call⟩ := event
  have hnow : history.job.updatedAt ≤ now := Int.le_trans h.clock hclock
  rcases call.perform_cases now history.job with ⟨happlied, hmoves⟩ | ⟨happlied, hsame⟩
  · obtain ⟨outcome, houtcome⟩ : ∃ outcome,
        ((call.perform now).run history.job).1 = .ok outcome := by
      rcases hresult : ((call.perform now).run history.job).1 with e | outcome
      · rw [hresult] at happlied
        cases happlied
      · exact ⟨outcome, rfl⟩
    refine ⟨hmoves.wellFormed h.wellFormed hnow, Int.le_of_eq hmoves.updatedAt_eq, ?_⟩
    simp only [step, houtcome]
    exact h.lease.of_moves outcome hmoves
  · have hjob : (history.step (now, call)).job = history.job := hsame
    refine ⟨hjob ▸ h.wellFormed, hjob ▸ hnow, ?_⟩
    rw [hjob]
    intro hrunning
    obtain ⟨leaseToken, leasedUntil, htoken, huntil, hlatest⟩ := h.lease hrunning
    exact ⟨leaseToken, leasedUntil, htoken, huntil,
      (latestLease_of_not_applied happlied).trans hlatest⟩

theorem invariant_run {history : AsyncJobHistory} {calls : List (Time × AsyncJobCall)}
    (h : history.Invariant) (hclock : lifecycle.Along ClockAdvances history calls) :
    (lifecycle.run history calls).Invariant :=
  System.run_invariant_along (P := Invariant) (fun _ _ hs hg => invariant_step hs hg) h hclock

theorem maxAttempts_run (history : AsyncJobHistory) (calls : List (Time × AsyncJobCall)) :
    (lifecycle.run history calls).job.maxAttempts = history.job.maxAttempts := by
  let P : AsyncJobHistory → Prop := fun other => other.job.maxAttempts = history.job.maxAttempts
  have hstep : ∀ s e, P s → P (lifecycle.step s e) := by
    rintro s ⟨now, call⟩ hs
    refine Eq.trans ?_ hs
    rcases call.perform_cases now s.job with ⟨_, hmoves⟩ | ⟨_, hsame⟩
    · have hkept : ∀ job', s.job.Moves now call job' → job'.maxAttempts = s.job.maxAttempts := by
        rintro job' ⟨⟩ <;> rfl
      exact hkept _ hmoves
    · exact congrArg AsyncJob.maxAttempts hsame
  exact System.run_invariant hstep rfl calls

/-- The life of an async job: whatever is called on it, in whatever order, it can be stored and
read back and keeps within its attempts; a call that fails or finds its work done changes
nothing, a final state stays, and a renewal, completion or failure takes effect only under the
token of the latest claim and before the end of its lease. -/
theorem asyncJob_lifecycle {input : NewAsyncJob} {createdAt : Time} {job : AsyncJob}
    (hnew : AsyncJob.new input createdAt = .ok job) {calls : List (Time × AsyncJobCall)}
    (hclock : lifecycle.Along ClockAdvances (start job createdAt) calls) :
    let history := lifecycle.run (start job createdAt) calls
    AsyncJob.fromPersistence history.job.toPersisted = .ok history.job ∧
    history.job.attemptCount ≤ history.job.maxAttempts ∧
    history.job.maxAttempts = input.maxAttempts ∧
    ∀ (now : Time) (call : AsyncJobCall), history.clock ≤ now →
      let response := (call.perform now).run history.job
      (applied response.1 = false → response.2 = history.job) ∧
      (history.job.state.isTerminal = true →
        applied response.1 = false ∧ response.2.state = history.job.state) ∧
      ∀ leaseToken ∈ call.authority, applied response.1 = true →
        ∃ leasedUntil, latestLease history.log = some (leaseToken, leasedUntil) ∧
          now < leasedUntil := by
  intro history
  have hinv : history.Invariant := invariant_run (invariant_start hnew) hclock
  refine ⟨AsyncJob.fromPersistence_toPersisted_iff.2 hinv.wellFormed, hinv.wellFormed.attempts,
    (maxAttempts_run _ _).trans (AsyncJob.of_new hnew).2.2.1, ?_⟩
  intro now call _ response
  rcases call.perform_cases now history.job with ⟨happlied, hmoves⟩ | ⟨happlied, hsame⟩
  · have happlied' : applied response.1 = true := happlied
    refine ⟨fun h => absurd (happlied'.symm.trans h) (by decide), fun hterminal => ?_, ?_⟩
    · rw [hmoves.not_isTerminal] at hterminal
      cases hterminal
    · intro leaseToken hauthority _
      have hheld : history.job.HeldUnder leaseToken now := hmoves.held_of_authority hauthority
      obtain ⟨hrunning, htoken, leasedUntil, huntil, hlater⟩ := hheld
      obtain ⟨token, until', htoken', huntil', hlatest⟩ := hinv.lease hrunning
      cases htoken.symm.trans htoken'
      cases Eq.trans (Option.mem_def.1 huntil).symm huntil'
      exact ⟨leasedUntil, hlatest, hlater⟩
  · have happlied' : applied response.1 = false := happlied
    refine ⟨fun _ => hsame, fun _ => ⟨happlied', congrArg AsyncJob.state hsame⟩, ?_⟩
    intro leaseToken _ h
    exact absurd (happlied'.symm.trans h) (by decide)

/-- A batch of two deletions. -/
def deletion (maxAttempts : Nat) : NewAsyncJob where
  id := 1
  applicationId := 2
  operationScope := "media.batch"
  idempotencyKey := "key"
  requestHash := String.ofList (List.replicate 64 'b')
  requestId := none
  action := .delete
  totalItems := 2
  maxAttempts := maxAttempts

def deletionJob (maxAttempts : Nat) : AsyncJob where
  id := 1
  applicationId := 2
  operationScope := "media.batch"
  idempotencyKey := "key"
  requestHash := String.ofList (List.replicate 64 'b')
  requestId := none
  action := .delete
  state := .pending
  totalItems := 2
  succeededItems := 0
  failedItems := 0
  attemptCount := 0
  maxAttempts := maxAttempts
  nextAttemptAt := some 0
  leaseToken := none
  leasedUntil := none
  errorSummary := none
  startedAt := none
  completedAt := none
  failedAt := none
  cancelledAt := none
  createdAt := 0
  updatedAt := 0

theorem new_deletion : AsyncJob.new (deletion 3) 0 = .ok (deletionJob 3) := rfl

/-- A claim whose lease is lost, a second one that is renewed, and a failure to be retried. -/
theorem asyncJob_lifecycle_deletion :
    let history := lifecycle.run (start (deletionJob 3) 0)
      [(0, .claim "first" 10), (10, .claim "second" 20), (12, .renewLease "second" 30),
        (15, .complete "first" 2 0), (25, .fail "second" "storage" (some 40))]
    AsyncJob.fromPersistence history.job.toPersisted = .ok history.job ∧
      history.job.attemptCount = 2 ∧ history.job.state = .pending :=
  ⟨(asyncJob_lifecycle new_deletion (by decide +kernel)).1, by decide +kernel, by decide +kernel⟩

end AsyncJobHistory

end MediaHub.Core

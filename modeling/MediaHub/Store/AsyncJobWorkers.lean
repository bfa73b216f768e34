import MediaHub.Core.AsyncJobRun
import MediaHub.Store.AsyncJobEffects
import MediaHub.Transition.System

namespace MediaHub.Store.AsyncJobs

open Relational Relational.Transaction
open MediaHub.Core Transition

variable [UuidText]

/-- The transactions on the job table, in any order and by any number of workers and owners. A
worker that crashes or loses its lease calls nothing more. -/
inductive JobEvent where
  | create (input : NewAsyncJob) (mediaIds : List MediaId) (now : Time)
  | claim (now leasedUntil : Time) (limit : Nat) (leaseToken : AsyncJobId → String)
  | renew (jobId : AsyncJobId) (leaseToken : String) (now leasedUntil : Time)
  | complete (jobId : AsyncJobId) (leaseToken : String) (itemResults : List AsyncJobItemResult)
      (completedAt : Time)
  | fail (jobId : AsyncJobId) (leaseToken errorSummary : String) (retryAt : Option Time)
      (failedAt : Time)
  | cancel (applicationId : ApplicationId) (jobId : AsyncJobId) (cancelledAt : Time)
  | deleteApplication (applicationId : ApplicationId)
  /-- Whatever the rest of the program does to the media. -/
  | media (rows : Table Media)

/-- The transactions that the worker loop makes, with the time they are made at. -/
def JobEvent.workerAt : JobEvent → Option Time
  | .claim now _ _ _ | .renew _ _ now _ | .complete _ _ _ now | .fail _ _ _ _ now => some now
  | .create _ _ _ | .cancel _ _ _ | .deleteApplication _ | .media _ => none

/-- `AsyncJobService::create` builds the job and hands it to the repository. -/
def createJob (input : NewAsyncJob) (mediaIds : List MediaId) (now : Time) :
    Transaction AsyncJobCreation := do
  let job ← invariant (AsyncJob.new input now)
  createAsyncJob job mediaIds

def step (db : Database) : JobEvent → Database
  | .create input mediaIds now => (createJob input mediaIds now).commit db
  | .claim now leasedUntil limit leaseToken =>
      (claimAsyncJobs now leasedUntil limit leaseToken).commit db
  | .renew jobId leaseToken now leasedUntil =>
      (renewAsyncJobLease jobId leaseToken now leasedUntil).commit db
  | .complete jobId leaseToken itemResults completedAt =>
      (completeAsyncJob jobId leaseToken itemResults completedAt).commit db
  | .fail jobId leaseToken errorSummary retryAt failedAt =>
      (failAsyncJob jobId leaseToken errorSummary retryAt failedAt).commit db
  | .cancel applicationId jobId cancelledAt =>
      (cancelAsyncJob applicationId jobId cancelledAt).commit db
  | .deleteApplication applicationId => (deleteApplicationJobs applicationId).commit db
  | .media rows => { db with media := rows }

def jobTable : System Database JobEvent where
  init db := db = ⟨∅, ∅, ∅⟩
  step := step

omit [UuidText] in
theorem workedFrom_commit {α : Type} {tx : Transaction α} {now : Time} {db : Database}
    (h : ∀ a db', tx.run db = .ok (a, db') → WorkedFrom now db db') :
    WorkedFrom now db (tx.commit db) := by
  rcases tx.commit_cases db with ⟨a, hrun⟩ | hsame
  · exact h a _ hrun
  · exact .of_eq (congrArg Database.jobs hsame)

theorem workedFrom_step {event : JobEvent} {now : Time} (h : event.workerAt = some now)
    (db : Database) : WorkedFrom (postgresTime now) db (step db event) := by
  cases event with
  | create | cancel | deleteApplication | media => cases h
  | claim =>
      cases h
      exact workedFrom_commit fun _ _ hrun => workedFrom_claimAsyncJobs hrun
  | renew =>
      cases h
      exact workedFrom_commit fun _ _ hrun => workedFrom_renewAsyncJobLease hrun
  | complete =>
      cases h
      exact workedFrom_commit fun _ _ hrun => workedFrom_completeAsyncJob hrun
  | fail =>
      cases h
      exact workedFrom_commit fun _ _ hrun => workedFrom_failAsyncJob hrun

def AllSound (db : Database) : Prop := ∀ row ∈ db.jobs, Sound row

omit [UuidText] in
theorem AllSound.of_workedFrom {now : Time} {db db' : Database} (h : AllSound db)
    (hworked : WorkedFrom now db db') : AllSound db' := by
  intro row' hrow'
  obtain ⟨row, hrow, rfl | hstep⟩ := hworked row' hrow'
  · exact h row' hrow
  · exact hstep.sound (h row hrow)

omit [UuidText] in
theorem AllSound.commit {α : Type} {tx : Transaction α} {db : Database} (h : AllSound db)
    (hrun : ∀ a db', tx.run db = .ok (a, db') → AllSound db') : AllSound (tx.commit db) := by
  rcases tx.commit_cases db with ⟨a, hok⟩ | hsame
  · exact hrun a _ hok
  · rw [hsame]
    exact h

theorem AllSound.of_updateJob {now : Time} {row : PersistedAsyncJob} {call : AsyncJobCall}
    {job' : AsyncJob} {db db' : Database} {u : Unit} (h : AllSound db) (hrow : row ∈ db.jobs)
    (hmoves : (AsyncJob.ofPersisted row).Moves now call job')
    (hrun : (updateJob job').run db = .ok (u, db')) : AllSound db' := by
  obtain ⟨leaseToken, rfl⟩ := run_updateJob_ok hrun
  have hid : job'.id = row.id := by cases hmoves <;> rfl
  intro row' hrow'
  rcases Table.mem_update.1 hrow' with ⟨hkept, _⟩ | ⟨other, hother, hkey, rfl⟩
  · exact h row' hkept
  · cases Table.eq_of_key hother hrow (hkey.trans hid)
    exact (h row hrow).of_moves hmoves

theorem AllSound.cancelAsyncJob {applicationId : ApplicationId} {jobId : AsyncJobId}
    {cancelledAt : Time} {cancellation : AsyncJobCancellation} {db db' : Database}
    (h : AllSound db)
    (hrun : (cancelAsyncJob applicationId jobId cancelledAt).run db = .ok (cancellation, db')) :
    AllSound db' := by
  simp only [AsyncJobs.cancelAsyncJob, run_bind_ok, run_query_ok, run_orThrow_ok] at hrun
  obtain ⟨_, _, ⟨hfound, rfl⟩, row, _, ⟨rfl, rfl⟩, job, _, hread, hrest⟩ := hrun
  obtain ⟨rfl, rfl⟩ := run_rowToJob_ok hread
  have hrow : row ∈ db.jobs :=
    Table.mem_of_find? (Option.filter_eq_some_iff.1 hfound).1
  have hmoved : ∀ {result : AsyncJobTransition × AsyncJob} {db₁ : Database},
      row.state.isTerminal = false →
      (AsyncJob.cancel (postgresTime cancelledAt)).run (AsyncJob.ofPersisted row) =
        (.ok result.1, result.2) → (updateJob result.2).run db = .ok ((), db₁) →
      AllSound db₁ := by
    intro result db₁ hopen hcancel hupdate
    rcases AsyncJob.run_cancel_ok.1 hcancel with ⟨hdone, _⟩ | ⟨hopen, _, hjob⟩
    · have hdone' : row.state = .cancelled := hdone
      simp [hdone', AsyncJobState.isTerminal] at hopen
    · rw [hjob] at hupdate
      exact h.of_updateJob hrow (.cancel hopen) hupdate
  have hstate : (AsyncJob.ofPersisted row).state = row.state := rfl
  cases hrowState : row.state <;>
    simp only [hstate, hrowState, run_bind_ok, run_perform_ok, run_write_ok, run_pure_ok] at hrest
  case pending | running =>
    obtain ⟨result, _, ⟨hcancel, rfl⟩, _, db₁, hupdate, _, _, rfl, _, rfl⟩ := hrest
    have hsound : AllSound db₁ := hmoved (by rw [hrowState]; rfl) hcancel hupdate
    exact fun row' hrow' => hsound row' hrow'
  all_goals
    obtain ⟨_, rfl⟩ := hrest
    exact h

theorem run_insertJob_ok {job : AsyncJob} {inserted : Bool} {db db' : Database}
    (h : (insertJob job).run db = .ok (inserted, db')) :
    (inserted = false ∧ db' = db) ∨ ∃ leaseToken,
      db' = { db with jobs := db.jobs.insert (insertedRow job.toPersisted leaseToken) } := by
  simp only [insertJob, asI32, run_bind_ok, run_require_ok, run_query_ok, run_ite_ok, run_pure_ok,
    run_insertRow_ok] at h
  obtain ⟨_, _, ⟨_, rfl⟩, _, _, ⟨_, rfl⟩, _, _, ⟨_, rfl⟩, _, _, ⟨_, rfl⟩, _, _, ⟨_, rfl⟩,
    leaseToken, _, hlease, _, _, ⟨_, rfl⟩, ⟨_, rfl, rfl⟩ | ⟨_, _, _, ⟨_, _, _, rfl⟩, _, rfl⟩⟩ := h
  · cases run_optionalLeaseUuid_state hlease
    exact Or.inl ⟨rfl, rfl⟩
  · cases run_optionalLeaseUuid_state hlease
    exact Or.inr ⟨leaseToken, rfl⟩

omit [UuidText] in
theorem jobs_of_insertItems {job : AsyncJob} {mediaIds : List MediaId} {db db' : Database}
    {u : Unit} (h : (insertItems job mediaIds).run db = .ok (u, db')) : db'.jobs = db.jobs := by
  let P : Database → Prop := fun other => other.jobs = db.jobs
  refine forEach_invariant (P := P) ?_ rfl h
  intro entry _ s s' hs hrun
  simp only [run_bind_ok, run_require_ok, run_insertRow_ok] at hrun
  obtain ⟨_, _, ⟨_, rfl⟩, _, _, _, rfl⟩ := hrun
  exact hs

omit [UuidText] in
theorem Sound.of_new {input : NewAsyncJob} {now : Time} {job : AsyncJob}
    {leaseToken : Option String}
    (h : AsyncJob.new input now = .ok job) : Sound (insertedRow job.toPersisted leaseToken) := by
  simp only [AsyncJob.new, Result.andThen_eq_ok_iff, Result.rejectIf_eq_ok_iff,
    Result.pure_eq_ok_iff] at h
  obtain ⟨_, _, _, _, hlimit, _, _, rfl⟩ := h
  exact ⟨Nat.zero_le _, fun _ => ⟨Nat.pos_of_ne_zero hlimit, _, rfl, postgresTime_postgresTime _⟩,
    fun hrunning => AsyncJobState.noConfusion hrunning⟩

theorem AllSound.createJob {input : NewAsyncJob} {mediaIds : List MediaId} {now : Time}
    {creation : AsyncJobCreation} {db db' : Database} (h : AllSound db)
    (hrun : (createJob input mediaIds now).run db = .ok (creation, db')) : AllSound db' := by
  simp only [AsyncJobs.createJob, createAsyncJob, run_bind_ok, run_invariant_ok, run_require_ok,
    run_query_ok, run_ite_ok, run_pure_ok, run_orThrow_ok] at hrun
  obtain ⟨job, _, ⟨hnew, rfl⟩, _, _, ⟨_, rfl⟩, _, _, ⟨_, rfl⟩, _, _, ⟨_, rfl⟩, _, _, ⟨_, rfl⟩,
    inserted, db₁, hinsert, hrest⟩ := hrun
  have hinserted : AllSound db₁ := by
    rcases run_insertJob_ok hinsert with ⟨_, rfl⟩ | ⟨leaseToken, rfl⟩
    · exact h
    · intro row hrow
      rcases Table.mem_or_eq_of_mem_insert hrow with rfl | hrow
      · exact .of_new hnew
      · exact h row hrow
  have hkept : ∀ other : Database, other.jobs = db₁.jobs → AllSound other :=
    fun other heq row hrow => hinserted row (heq ▸ hrow)
  rcases hrest with ⟨_, _, db₂, hitems, _, _, hlocked, _, rfl⟩ |
    ⟨_, _, _, ⟨_, rfl⟩, row, _, ⟨_, rfl⟩, _, _, hread, hresult⟩
  · obtain ⟨_, _, _, _, rfl⟩ := run_lockedJob_ok hlocked
    exact hkept _ (jobs_of_insertItems hitems)
  · obtain ⟨_, rfl⟩ := run_rowToJob_ok hread
    rcases hresult with ⟨_, _, rfl⟩ | ⟨_, _, rfl⟩ <;> exact hinserted

theorem AllSound.step {db : Database} (h : AllSound db) (event : JobEvent) :
    AllSound (step db event) := by
  cases hworker : event.workerAt with
  | some now => exact h.of_workedFrom (workedFrom_step hworker db)
  | none =>
      cases event with
      | claim | renew | complete | fail => cases hworker
      | create => exact h.commit fun _ _ hrun => h.createJob hrun
      | cancel => exact h.commit fun _ _ hrun => h.cancelAsyncJob hrun
      | deleteApplication applicationId =>
          intro row hrow
          exact h row (Table.mem_deleteWhere.1 hrow).1
      | media => exact h

theorem allSound_of_reachable {db : Database} (h : jobTable.Reachable db) : AllSound db := by
  refine h.invariant ?_ fun _ event hs => hs.step event
  rintro _ rfl row hrow
  exact absurd hrow (Table.not_mem_empty row)

/-- The time that a job waits for is over: its due time, or the end of its lease. -/
def Due (row : PersistedAsyncJob) (now : Time) : Prop :=
  (row.state = .pending ∧ ∃ t ∈ row.nextAttemptAt, t ≤ now) ∨
  (row.state = .running ∧ ∃ t ∈ row.leasedUntil, t ≤ now)

/-- Some transaction of a worker at this time moves the job to a terminal state. -/
def Ends (db : Database) (jobId : AsyncJobId) (now : Time) : Prop :=
  ∃ event : JobEvent, event.workerAt = some now ∧
    ∃ row ∈ (step db event).jobs, row.id = jobId ∧ row.state.isTerminal = true

/-- Every open job is claimable, or can be ended, at every time after the one it waits for. -/
def NoneStranded (db : Database) : Prop :=
  ∀ row ∈ db.jobs, row.state.isTerminal = false → ∀ now, Due row now →
    isClaimable (postgresTime now) row = true ∨ Ends db row.id now

/-- The job runs on its last permitted attempt. -/
def OnLastAttempt (row : PersistedAsyncJob) : Prop :=
  row.state = .running ∧ row.attemptCount = row.maxAttempts

omit [UuidText] in
/-- What lapsed on its last attempt no worker's transaction changes. -/
theorem not_workerStep_of_lapsed {now : Time} {row row' : PersistedAsyncJob}
    (hlast : OnLastAttempt row) (hlapsed : ∀ t ∈ row.leasedUntil, t ≤ now) :
    ¬ WorkerStep now row row' := by
  have hheld : ∀ leaseToken, ¬ (AsyncJob.ofPersisted row).HeldUnder leaseToken now := by
    rintro leaseToken ⟨_, _, t, ht, hlater⟩
    exact Int.not_lt.2 (hlapsed t ht) hlater
  rintro (⟨hworker, hmoves⟩ | hrenewable)
  · cases hmoves with
    | claim _ _ _ claimable =>
        have hlt : row.attemptCount < row.maxAttempts :=
          AsyncJob.Moves.attempts_lt_of_claimable claimable
        exact Nat.lt_irrefl _ (hlast.2 ▸ hlt)
    | renew held | complete held | exhaust held | retry held => exact hheld _ held
    | cancel => exact hworker rfl
  · simp only [isRenewable, Bool.and_eq_true, Option.any_eq_true, decide_eq_true_eq]
      at hrenewable
    obtain ⟨_, t, ht, hlater⟩ := hrenewable
    exact Int.not_lt.2 (hlapsed t ht) hlater

theorem not_noneStranded_of_onLastAttempt {db : Database} (hsound : AllSound db)
    {row : PersistedAsyncJob} (hrow : row ∈ db.jobs) (hlast : OnLastAttempt row) :
    ¬ NoneStranded db := by
  intro hnone
  obtain ⟨t, ht, hwhole⟩ := (hsound row hrow).running hlast.1
  have hopen : row.state.isTerminal = false := by rw [hlast.1]; rfl
  rcases hnone row hrow hopen t (Or.inr ⟨hlast.1, t, ht, Int.le_refl t⟩) with hclaim | hends
  · simp [isClaimable, hlast.2] at hclaim
  · obtain ⟨event, hworker, row', hrow', hid, hterminal⟩ := hends
    obtain ⟨other, hother, hcase⟩ := workedFrom_step hworker db row' hrow'
    have hsame : other.id = row.id := by
      rcases hcase with rfl | hstep
      · exact hid
      · exact hstep.id_eq.symm.trans hid
    cases Table.eq_of_key hother hrow hsame
    rcases hcase with rfl | hstep
    · rw [hopen] at hterminal
      cases hterminal
    · refine not_workerStep_of_lapsed hlast ?_ hstep
      intro t' ht'
      cases ht.symm.trans ht'
      exact Int.le_of_eq hwhole.symm

omit [UuidText] in
/-- Open jobs that still have an attempt are claimable when they are due. -/
theorem isClaimable_of_due {row : PersistedAsyncJob} {now : Time} (hsound : Sound row)
    (hlast : ¬ OnLastAttempt row) (hdue : Due row now) :
    isClaimable (postgresTime now) row = true := by
  rcases hdue with ⟨hpending, t, ht, hle⟩ | ⟨hrunning, t, ht, hle⟩
  · obtain ⟨hlt, t', ht', hwhole⟩ := hsound.pending hpending
    cases ht'.symm.trans ht
    have hle' : t ≤ postgresTime now := hwhole ▸ postgresTime_mono hle
    simp [isClaimable, hlt, hpending, ht', hle']
  · obtain ⟨t', ht', hwhole⟩ := hsound.running hrunning
    cases ht'.symm.trans ht
    have hle' : t ≤ postgresTime now := hwhole ▸ postgresTime_mono hle
    have hlt : row.attemptCount < row.maxAttempts :=
      Nat.lt_of_le_of_ne hsound.attempts fun heq => hlast ⟨hrunning, heq⟩
    simp [isClaimable, hlt, hrunning, ht', hle']

/-- A reachable job table strands a job exactly when a job runs on its last permitted attempt:
once its lease lapses, nobody claims, completes or fails it. -/
theorem noneStranded_iff {db : Database} (h : jobTable.Reachable db) :
    NoneStranded db ↔ ∀ row ∈ db.jobs, ¬ OnLastAttempt row := by
  have hsound : AllSound db := allSound_of_reachable h
  constructor
  · intro hnone row hrow hlast
    exact not_noneStranded_of_onLastAttempt hsound hrow hlast hnone
  · intro hlast row hrow _ now hdue
    exact Or.inl (isClaimable_of_due (hsound row hrow) (hlast row hrow) hdue)

def sampleMedia (id : MediaId) : Media where
  id := id
  applicationId := 2
  bucketId := 3
  objectKey := "key"
  storageKey := "storage"
  state := .active
  size := 1
  uploadTemporaryKey := none
  uploadLeaseToken := none
  uploadLeasedUntil := none
  revision := 0
  deletedAt := none
  updatedAt := 0

/-- A job with so many attempts is created and claimed, and its worker crashes. -/
def crashedRun (maxAttempts : Nat) : List JobEvent :=
  [.media ((Table.insert ∅ (sampleMedia 5)).insert (sampleMedia 6)),
    .create (AsyncJobHistory.deletion maxAttempts) [5, 6] 0,
    .claim 0 (Time.seconds 30) 1 fun _ => "00000000-0000-4000-8000-000000000001"]

omit [UuidText] in
theorem exists_stranded :
    ∃ db, (@jobTable plainUuids).Reachable db ∧ ¬ @NoneStranded plainUuids db := by
  let db := (@jobTable plainUuids).run ⟨∅, ∅, ∅⟩ (crashedRun 1)
  have hreachable : (@jobTable plainUuids).Reachable db := ⟨_, crashedRun 1, rfl, rfl⟩
  have hlast : ∃ row ∈ db.jobs, row.state = .running ∧ row.attemptCount = row.maxAttempts := by
    decide +kernel
  obtain ⟨row, hrow, hlast⟩ := hlast
  exact ⟨db, hreachable, @not_noneStranded_of_onLastAttempt plainUuids _
    (@allSound_of_reachable plainUuids _ hreachable) row hrow hlast⟩

instance (row : PersistedAsyncJob) : Decidable (OnLastAttempt row) := by
  unfold OnLastAttempt
  infer_instance

omit [UuidText] in
/-- With two attempts the job that the worker left is claimed again. -/
theorem noneStranded_iff_crashed :
    let db := (@jobTable plainUuids).run ⟨∅, ∅, ∅⟩ (crashedRun 2)
    (@jobTable plainUuids).Reachable db ∧ (∃ row ∈ db.jobs, row.state = .running) ∧
      @NoneStranded plainUuids db := by
  have hreachable : (@jobTable plainUuids).Reachable
      ((@jobTable plainUuids).run ⟨∅, ∅, ∅⟩ (crashedRun 2)) := ⟨_, crashedRun 2, rfl, rfl⟩
  exact ⟨hreachable, by decide +kernel,
    (@noneStranded_iff plainUuids _ hreachable).2 (by decide +kernel)⟩

end MediaHub.Store.AsyncJobs

import MediaHub.Store.AsyncJob

namespace MediaHub.Store.AsyncJobs

open Relational Relational.Transaction
open MediaHub.Core

variable [UuidText]

/-- Open rows have an attempt left, unless they are running, and a time to wait for. -/
structure Sound (row : PersistedAsyncJob) : Prop where
  attempts : row.attemptCount ≤ row.maxAttempts
  pending : row.state = .pending → row.attemptCount < row.maxAttempts ∧
    ∃ t, row.nextAttemptAt = some t ∧ postgresTime t = t
  running : row.state = .running → ∃ t, row.leasedUntil = some t ∧ postgresTime t = t

omit [UuidText] in
theorem Sound.of_moves {now : Time} {row : PersistedAsyncJob} {call : AsyncJobCall}
    {job' : AsyncJob} {leaseToken : Option String} (hrow : Sound row)
    (h : (AsyncJob.ofPersisted row).Moves now call job') :
    Sound (writeColumns job'.toPersisted leaseToken row) := by
  cases h with
  | claim token later short claimable =>
      have hlt : row.attemptCount < row.maxAttempts :=
        AsyncJob.Moves.attempts_lt_of_claimable claimable
      exact ⟨hlt, (nomatch ·), fun _ => ⟨_, rfl, postgresTime_postgresTime _⟩⟩
  | renew held later short =>
      exact ⟨hrow.attempts, fun h => absurd (h.symm.trans held.1) (by decide),
        fun _ => ⟨_, rfl, postgresTime_postgresTime _⟩⟩
  | complete | exhaust | cancel => exact ⟨hrow.attempts, (nomatch ·), (nomatch ·)⟩
  | retry held summary remaining later =>
      exact ⟨hrow.attempts, fun _ => ⟨remaining, _, rfl, postgresTime_postgresTime _⟩,
        (nomatch ·)⟩

/-- What a worker's transaction does to a row at a time. -/
inductive WorkerStep (now : Time) (row : PersistedAsyncJob) : PersistedAsyncJob → Prop
  | moved {call : AsyncJobCall} {job' : AsyncJob} {leaseToken : Option String}
      (worker : call ≠ .cancel) (moves : (AsyncJob.ofPersisted row).Moves now call job') :
      WorkerStep now row (writeColumns job'.toPersisted leaseToken row)
  | renewed {leaseToken : String} {leasedUntil : Time}
      (renewable : isRenewable leaseToken now row = true) :
      WorkerStep now row (writeLease (postgresTime leasedUntil) now row)

omit [UuidText] in
theorem WorkerStep.id_eq {now : Time} {row row' : PersistedAsyncJob}
    (h : WorkerStep now row row') : row'.id = row.id := by
  cases h <;> rfl

omit [UuidText] in
theorem WorkerStep.sound {now : Time} {row row' : PersistedAsyncJob} (h : WorkerStep now row row')
    (hrow : Sound row) : Sound row' := by
  cases h with
  | moved worker moves => exact hrow.of_moves moves
  | renewed renewable =>
      simp only [isRenewable, Bool.and_eq_true, decide_eq_true_eq] at renewable
      exact ⟨hrow.attempts, fun h => absurd (h.symm.trans renewable.1.1) (by decide),
        fun _ => ⟨_, rfl, postgresTime_postgresTime _⟩⟩

/-- The rows of `db'` are rows of `db`, or a worker changed them. -/
def WorkedFrom (now : Time) (db db' : Database) : Prop :=
  ∀ row' ∈ db'.jobs, ∃ row ∈ db.jobs, row' = row ∨ WorkerStep now row row'

omit [UuidText] in
theorem WorkedFrom.of_eq {now : Time} {db db' : Database} (h : db'.jobs = db.jobs) :
    WorkedFrom now db db' :=
  fun row' hrow' => ⟨row', h ▸ hrow', Or.inl rfl⟩

omit [UuidText] in
theorem run_perform_ok {α : Type} {step : AsyncJob.Step α} {job : AsyncJob} {r : α × AsyncJob}
    {db db' : Database} :
    (perform step job).run db = .ok (r, db') ↔ step.run job = (.ok r.1, r.2) ∧ db = db' := by
  unfold perform
  rcases step.run job with ⟨_ | a, job'⟩
  · simp
  · rcases r with ⟨a', job''⟩
    simp

omit [UuidText] in
@[simp] theorem run_invariant_ok {α : Type} {value : AsyncJobResult α} {a : α} {db db' : Database} :
    (invariant value).run db = .ok (a, db') ↔ value = .ok a ∧ db = db' := by
  cases value <;> simp [invariant, Except.mapError]

omit [UuidText] in
theorem run_rowToJob_ok {row : PersistedAsyncJob} {job : AsyncJob} {db db' : Database}
    (h : (rowToJob row).run db = .ok (job, db')) :
    job = AsyncJob.ofPersisted row ∧ db = db' := by
  simp only [rowToJob, run_invariant_ok, AsyncJob.fromPersistence, Result.andThen_eq_ok_iff,
    Result.pure_eq_ok_iff] at h
  exact ⟨h.1.2.2.2.symm, h.2⟩

theorem run_optionalLeaseUuid_state {text token : Option String} {db db' : Database}
    (h : (optionalLeaseUuid text).run db = .ok (token, db')) : db = db' := by
  cases text with
  | none =>
      simp only [optionalLeaseUuid, run_pure_ok] at h
      exact h.2
  | some text =>
      simp only [optionalLeaseUuid, run_bind_ok, run_orThrow_ok, run_pure_ok] at h
      obtain ⟨_, _, ⟨_, rfl⟩, _, rfl⟩ := h
      rfl

theorem run_updateJob_ok {job : AsyncJob} {db db' : Database} {u : Unit}
    (h : (updateJob job).run db = .ok (u, db')) :
    ∃ leaseToken, db' = { db with
      jobs := db.jobs.update job.id (writeColumns job.toPersisted leaseToken) } := by
  simp only [updateJob, asI32, run_bind_ok, run_require_ok, run_updateRow_ok] at h
  obtain ⟨_, _, ⟨_, rfl⟩, _, _, ⟨_, rfl⟩, _, _, ⟨_, rfl⟩, leaseToken, db₁, hlease, _, rfl⟩ := h
  cases run_optionalLeaseUuid_state hlease
  exact ⟨leaseToken, rfl⟩

/-- Writing a moved job back changes its own row and no other. -/
theorem workedFrom_updateJob {now : Time} {db db' : Database} {row : PersistedAsyncJob}
    {call : AsyncJobCall} {job' : AsyncJob} {u : Unit} (hrow : row ∈ db.jobs)
    (hcall : call ≠ .cancel) (hmoves : (AsyncJob.ofPersisted row).Moves now call job')
    (h : (updateJob job').run db = .ok (u, db')) : WorkedFrom now db db' := by
  obtain ⟨leaseToken, rfl⟩ := run_updateJob_ok h
  have hid : job'.id = row.id := by cases hmoves <;> rfl
  intro row' hrow'
  rcases Table.mem_update.1 hrow' with ⟨hkept, _⟩ | ⟨other, hother, hkey, rfl⟩
  · exact ⟨row', hkept, Or.inl rfl⟩
  · cases Table.eq_of_key hother hrow (hkey.trans hid)
    exact ⟨row, hrow, Or.inr (.moved hcall hmoves)⟩

theorem run_claimRow_ok {leasedUntil now : Time} {leaseToken : String} {row : PersistedAsyncJob}
    {leased : LeasedAsyncJob} {db db' : Database}
    (h : (claimRow leasedUntil now leaseToken row).run db = .ok (leased, db')) :
    ∃ job', (AsyncJob.ofPersisted row).Moves now (.claim leaseToken leasedUntil) job' ∧
      (updateJob job').run db = .ok ((), db') := by
  simp only [claimRow, run_bind_ok, run_perform_ok, run_query_ok, run_pure_ok] at h
  obtain ⟨job, _, hread, ⟨_, job'⟩, _, ⟨hclaim, rfl⟩, _, _, hupdate, _, _, ⟨_, rfl⟩, _, rfl⟩ := h
  obtain ⟨rfl, rfl⟩ := run_rowToJob_ok hread
  obtain ⟨htoken, hlater, hshort, hclaimable, rfl⟩ := AsyncJob.run_claim_ok.1 hclaim
  exact ⟨_, .claim htoken hlater hshort hclaimable, hupdate⟩

/-- The loop steps every selected row once: what it has written it does not read again. -/
theorem claimRows_steps {leasedUntil now : Time} {leaseToken : AsyncJobId → String}
    {rows : List PersistedAsyncJob} {leased : List LeasedAsyncJob} {db db' : Database}
    (hrows : ∀ row ∈ rows, row ∈ db.jobs) (hnodup : (rows.map PersistedAsyncJob.id).Nodup)
    (h : (claimRows leasedUntil now leaseToken rows).run db = .ok (leased, db')) :
    ∀ row' ∈ db'.jobs, row' ∈ db.jobs ∨ ∃ row ∈ rows, WorkerStep now row row' := by
  induction rows generalizing db leased with
  | nil =>
      simp only [claimRows, run_pure_ok] at h
      intro row' hrow'
      rw [h.2]
      exact Or.inl hrow'
  | cons row rows ih =>
      simp only [claimRows, run_bind_ok, run_pure_ok] at h
      obtain ⟨_, db₁, hfirst, _, _, hrest, _, rfl⟩ := h
      obtain ⟨job', hmoves, hupdate⟩ := run_claimRow_ok hfirst
      obtain ⟨token, rfl⟩ := run_updateJob_ok hupdate
      have hid : job'.id = row.id := by cases hmoves; rfl
      have hrow : row ∈ db.jobs := hrows row List.mem_cons_self
      have hstill : ∀ other ∈ rows,
          other ∈ db.jobs.update job'.id (writeColumns job'.toPersisted token) := by
        intro other hother
        refine Table.mem_update.2 (Or.inl ⟨hrows other (List.mem_cons_of_mem _ hother), ?_⟩)
        intro heq
        exact (List.nodup_cons.1 hnodup).1 (List.mem_map.2 ⟨other, hother, heq.trans hid⟩)
      intro row' hrow'
      rcases ih hstill (List.nodup_cons.1 hnodup).2 hrest row' hrow' with
        hkept | ⟨other, hother, hstep⟩
      · rcases Table.mem_update.1 hkept with ⟨hkept, _⟩ | ⟨other, hother, hkey, rfl⟩
        · exact Or.inl hkept
        · cases Table.eq_of_key hother hrow (hkey.trans hid)
          exact Or.inr ⟨row, List.mem_cons_self, .moved (by simp) hmoves⟩
      · exact Or.inr ⟨other, List.mem_cons_of_mem _ hother, hstep⟩

omit [UuidText] in
theorem of_mem_claimableJobs {now : Time} {limit : Nat} {db : Database} {row : PersistedAsyncJob}
    (h : row ∈ claimableJobs now limit db) : row ∈ db.jobs ∧ isClaimable now row = true := by
  have hsorted := List.mem_of_mem_take h
  rw [List.mem_insertionSort] at hsorted
  exact List.mem_filter.1 hsorted

omit [UuidText] in
theorem nodup_claimableJobs (now : Time) (limit : Nat) (db : Database) :
    ((claimableJobs now limit db).map PersistedAsyncJob.id).Nodup := by
  have hfilter : ((db.jobs.rows.filter (isClaimable now)).map PersistedAsyncJob.id).Nodup :=
    db.jobs.nodup.sublist (List.filter_sublist.map _)
  have hsorted : (((db.jobs.rows.filter (isClaimable now)).insertionSort
      fun a b => dueBefore a b).map PersistedAsyncJob.id).Nodup :=
    ((List.perm_insertionSort _ _).map _).nodup_iff.2 hfilter
  exact hsorted.sublist ((List.take_sublist _ _).map _)

theorem workedFrom_claimAsyncJobs {now leasedUntil : Time} {limit : Nat}
    {leaseToken : AsyncJobId → String} {leased : List LeasedAsyncJob} {db db' : Database}
    (h : (claimAsyncJobs now leasedUntil limit leaseToken).run db = .ok (leased, db')) :
    WorkedFrom (postgresTime now) db db' := by
  simp only [claimAsyncJobs, run_bind_ok, run_require_ok, run_ite_ok, run_pure_ok,
    run_query_ok] at h
  obtain ⟨_, _, ⟨_, rfl⟩, ⟨_, _, rfl⟩ | ⟨_, _, _, ⟨_, rfl⟩, rows, _, ⟨rfl, rfl⟩, hloop⟩⟩ := h
  · exact .of_eq rfl
  · intro row' hrow'
    rcases claimRows_steps (fun row hrow => (of_mem_claimableJobs hrow).1)
      (nodup_claimableJobs _ _ _) hloop row' hrow' with hkept | ⟨row, hrow, hstep⟩
    · exact ⟨row', hkept, Or.inl rfl⟩
    · exact ⟨row, (of_mem_claimableJobs hrow).1, Or.inr hstep⟩

theorem workedFrom_renewAsyncJobLease {jobId : AsyncJobId} {leaseToken : String}
    {now leasedUntil : Time} {renewed : Bool} {db db' : Database}
    (h : (renewAsyncJobLease jobId leaseToken now leasedUntil).run db = .ok (renewed, db')) :
    WorkedFrom (postgresTime now) db db' := by
  simp only [renewAsyncJobLease, run_bind_ok, run_orThrow_ok, run_require_ok, run_query_ok,
    run_ite_ok, run_write_ok, run_pure_ok] at h
  obtain ⟨token, _, ⟨_, rfl⟩, _, _, ⟨_, rfl⟩, found, _, ⟨hfound, rfl⟩,
    ⟨hsome, _, _, rfl, _, rfl⟩ | ⟨_, _, rfl⟩⟩ := h
  · obtain ⟨row, rfl⟩ := Option.isSome_iff_exists.1 hsome
    obtain ⟨hfind, hrenewable⟩ := Option.filter_eq_some_iff.1 hfound
    obtain ⟨hrow, hid⟩ := Table.find?_eq_some_iff.1 hfind
    intro row' hrow'
    rcases Table.mem_update.1 hrow' with ⟨hkept, _⟩ | ⟨other, hother, hkey, rfl⟩
    · exact ⟨row', hkept, Or.inl rfl⟩
    · cases Table.eq_of_key hother hrow (hkey.trans hid.symm)
      exact ⟨row, hrow, Or.inr (.renewed hrenewable)⟩
  · exact .of_eq rfl

omit [UuidText] in
theorem run_lockedJob_ok {jobId : AsyncJobId} {job : AsyncJob} {db db' : Database}
    (h : (lockedJob jobId).run db = .ok (job, db')) :
    ∃ row ∈ db.jobs, job = AsyncJob.ofPersisted row ∧ row.id = jobId ∧ db = db' := by
  simp only [lockedJob, run_bind_ok, run_selectRow_ok] at h
  obtain ⟨row, _, ⟨⟨hrow, hid⟩, rfl⟩, hread⟩ := h
  obtain ⟨rfl, rfl⟩ := run_rowToJob_ok hread
  exact ⟨row, hrow, rfl, hid, rfl⟩

omit [UuidText] in
/-- Finishing the items of a job leaves the jobs alone. -/
theorem jobs_of_finishItems {job : AsyncJob} {completedAt : Time}
    {itemResults : List AsyncJobItemResult} {db db' : Database} {u : Unit}
    (h : (forEach (fun item => do
      validateItem job item completedAt
      updateItemResult item) itemResults).run db = .ok (u, db')) : db'.jobs = db.jobs := by
  let P : Database → Prop := fun other => other.jobs = db.jobs
  have hbody : ∀ item ∈ itemResults, ∀ s s', P s →
      (do validateItem job item completedAt; updateItemResult item : Transaction Unit).run s =
        .ok ((), s') → P s' := by
    intro item _ s s' hs hrun
    simp only [validateItem, updateItemResult, run_bind_ok, run_require_ok, run_updateRow_ok]
      at hrun
    obtain ⟨_, _, ⟨_, _, ⟨_, rfl⟩, _, rfl⟩, _, _, ⟨_, rfl⟩, _, rfl⟩ := hrun
    exact hs
  exact forEach_invariant hbody rfl h

theorem workedFrom_completeAsyncJob {jobId : AsyncJobId} {leaseToken : String}
    {itemResults : List AsyncJobItemResult} {completedAt : Time} {completion : AsyncJobCompletion}
    {db db' : Database}
    (h : (completeAsyncJob jobId leaseToken itemResults completedAt).run db =
      .ok (completion, db')) : WorkedFrom (postgresTime completedAt) db db' := by
  simp only [completeAsyncJob, completeOwned, countAsU32, run_bind_ok, run_ite_ok, run_pure_ok,
    run_require_ok, run_query_ok, run_perform_ok] at h
  obtain ⟨job, _, hread, ⟨_, _, rfl⟩ | ⟨hopen, ⟨_, hrun⟩ | ⟨_, _, rfl⟩⟩⟩ := h
  · obtain ⟨_, _, _, _, rfl⟩ := run_lockedJob_ok hread
    exact .of_eq rfl
  · obtain ⟨row, hrow, rfl, _, rfl⟩ := run_lockedJob_ok hread
    obtain ⟨_, _, ⟨_, rfl⟩, _, _, ⟨_, rfl⟩, _, db₁, hitems, _, _, ⟨_, rfl⟩, _, _, ⟨_, rfl⟩, _, _,
      ⟨_, rfl⟩, _, _, ⟨_, rfl⟩, _, _, ⟨_, rfl⟩, _, _, ⟨_, rfl⟩, ⟨_, job'⟩, _, ⟨hcomplete, rfl⟩, _,
      db₂, hupdate, _, hdb⟩ := hrun
    rw [← hdb]
    have hjobs : db₁.jobs = db.jobs := jobs_of_finishItems hitems
    rcases AsyncJob.run_complete_ok.1 hcomplete with ⟨hdone, _⟩ | ⟨_, hrunning⟩
    · exact absurd hdone hopen
    · obtain ⟨hheld, htotal, _, rfl⟩ := AsyncJob.run_completeRunning_ok.1 hrunning
      have hworked : WorkedFrom (postgresTime completedAt) db₁ db₂ :=
        workedFrom_updateJob (hjobs ▸ hrow) (by simp) (.complete hheld htotal) hupdate
      intro row' hrow'
      obtain ⟨other, hother, hstep⟩ := hworked row' hrow'
      exact ⟨other, hjobs ▸ hother, hstep⟩
  · obtain ⟨_, _, _, _, rfl⟩ := run_lockedJob_ok hread
    exact .of_eq rfl

theorem workedFrom_failAsyncJob {jobId : AsyncJobId} {leaseToken errorSummary : String}
    {retryAt : Option Time} {failedAt : Time} {failure : AsyncJobFailure} {db db' : Database}
    (h : (failAsyncJob jobId leaseToken errorSummary retryAt failedAt).run db =
      .ok (failure, db')) : WorkedFrom (postgresTime failedAt) db db' := by
  simp only [failAsyncJob, run_bind_ok, run_ite_ok, run_pure_ok, run_perform_ok] at h
  obtain ⟨job, _, hread, ⟨_, hrun⟩ | ⟨_, _, rfl⟩⟩ := h
  · obtain ⟨row, hrow, rfl, _, rfl⟩ := run_lockedJob_ok hread
    obtain ⟨⟨disposition, job'⟩, _, ⟨hfail, rfl⟩, _, db₁, hupdate, hresult⟩ := hrun
    have hdb : db₁ = db' := by
      cases disposition <;> simp only [run_pure_ok] at hresult <;> exact hresult.2
    cases hdb
    obtain ⟨hheld, hsummary, ⟨hlimit, _, rfl⟩ | ⟨hlimit, retry, hretry, hlater, _, rfl⟩⟩ :=
      AsyncJob.run_fail_ok.1 hfail
    · have hmoves : (AsyncJob.ofPersisted row).Moves (postgresTime failedAt)
          (.fail leaseToken errorSummary none) _ := .exhaust hheld hsummary hlimit
      exact workedFrom_updateJob hrow (by simp) hmoves hupdate
    · exact workedFrom_updateJob hrow (by simp) (.retry hheld hsummary hlimit hlater) hupdate
  · obtain ⟨_, _, _, _, rfl⟩ := run_lockedJob_ok hread
    exact .of_eq rfl

end MediaHub.Store.AsyncJobs

import MediaHub.Store.Database

namespace MediaHub.Store

open Relational
open MediaHub.Core

def maxStorageGcClaimLimit : Nat := 1000

/-- A freshly queued task. -/
def StorageGcTask.ofNew (task : NewStorageGcTask) : StorageGcTask where
  task := { task with
    notBefore := postgresTime task.notBefore, createdAt := postgresTime task.createdAt }
  state := .pending
  attempts := 0
  updatedAt := postgresTime task.createdAt
  attempts_le := Nat.zero_le _

/-- `INSERT ... ON CONFLICT (storage_backend, storage_key) DO NOTHING`, after which the row
that stands must have the provenance asked for. -/
def insertStorageGcTask (task : NewStorageGcTask) : Transaction Unit := do
  domain task.validate
  require (task.maxAttempts ≤ maxI32) (.invariant "GC max attempts exceeds i32")
  write (·.mapStorageGcTasks (·.insert (StorageGcTask.ofNew task)))
  let row ← query fun db => db.storageGcTasks.find? task.locator
  let persisted ← orThrow row .conflict
  require (persisted.task.provenance = task.provenance) .conflict

def enqueueStorageGcTask (task : NewStorageGcTask) : Transaction Unit := do
  domain task.validate
  insertStorageGcTask task

/-- The task of a version names the version and neither an intent nor an upload. -/
def enqueueObjectVersionGcTask (task : NewStorageGcTask) : Transaction Unit := do
  insertStorageGcTask task
  let row ← query fun db => db.storageGcTasks.find? task.locator
  let persisted ← orThrow row .conflict
  require (persisted.task.provenance = task.provenance ∧
    persisted.task.provenance.uploadIntentId = none ∧
    persisted.task.provenance.multipartUploadId = none) .conflict

namespace StorageGcTask

def isDue (now : Time) (row : StorageGcTask) : Bool :=
  match row.state with
  | .pending => row.task.notBefore ≤ now
  | .leased _ leaseUntil => leaseUntil ≤ now
  | .completed _ | .deadLetter => false

def isExhausted (now : Time) (row : StorageGcTask) : Bool :=
  row.task.maxAttempts ≤ row.attempts && isDue now row

def isClaimable (now : Time) (row : StorageGcTask) : Bool :=
  row.attempts < row.task.maxAttempts && isDue now row

def holdsLease (leaseToken : String) (now : Time) (row : StorageGcTask) : Bool :=
  match row.state with
  | .leased token leaseUntil => token = leaseToken && now < leaseUntil
  | _ => false

def bury (now : Time) : Update StorageGcTask where
  apply row := { row with state := .deadLetter, updatedAt := now }
  key_apply _ := rfl

def lease (leaseToken : String) (leaseUntil now : Time) : Update StorageGcTask where
  apply row :=
    if h : row.attempts < row.task.maxAttempts then
      { row with
        state := .leased leaseToken leaseUntil
        attempts := row.attempts + 1
        updatedAt := now
        attempts_le := h }
    else row
  key_apply row := by
    by_cases h : row.attempts < row.task.maxAttempts <;> simp [h, Keyed.key]

def complete (completedAt : Time) : Update StorageGcTask where
  apply row := { row with state := .completed completedAt, updatedAt := completedAt }
  key_apply _ := rfl

def retry (retryAt now : Time) : Update StorageGcTask where
  apply row :=
    if row.task.maxAttempts ≤ row.attempts then
      { row with state := .deadLetter, updatedAt := now }
    else
      { row with
        task := { row.task with notBefore := retryAt }
        state := .pending
        updatedAt := now
        attempts_le := row.attempts_le }
  key_apply row := by
    by_cases h : row.task.maxAttempts ≤ row.attempts <;> simp [h, Keyed.key]

end StorageGcTask

/-- Buries exhausted tasks, then leases due ones, earliest first. -/
def claimStorageGcTasks (leaseToken : String) (leaseUntil now : Time) (limit : Nat) :
    Transaction (List StorageGcTask) := do
  validateLease leaseToken leaseUntil now
  require (1 ≤ limit ∧ limit ≤ maxStorageGcClaimLimit)
    (.invariant "storage GC claim limit is invalid")
  let now := postgresTime now
  write (·.mapStorageGcTasks
    (·.updateWhere (StorageGcTask.isExhausted now) (StorageGcTask.bury now)))
  let candidates ← query fun db =>
    (((db.storageGcTasks.rows.reverse.filter (StorageGcTask.isClaimable now)).insertionSort
      fun a b => a.task.notBefore ≤ b.task.notBefore).take limit).map (·.task.locator)
  write (·.mapStorageGcTasks (·.updateWhere (fun row => row.task.locator ∈ candidates)
    (StorageGcTask.lease leaseToken (postgresTime leaseUntil) now)))
  query fun db => candidates.filterMap db.storageGcTasks.find?

/-- An acknowledgement that finds no leased row tells why. -/
def storageGcWriteMiss (locator : StorageLocator) : Transaction Unit := do
  let row ← query fun db => db.storageGcTasks.find? locator
  if row.isSome then fail .conflict else fail .notFound

def completeStorageGcTask (locator : StorageLocator) (leaseToken : String)
    (completedAt : Time) : Transaction Unit := do
  validateToken leaseToken
  let completedAt := postgresTime completedAt
  let row ← query fun db => db.storageGcTasks.find? locator
  if row.any (StorageGcTask.holdsLease leaseToken completedAt) then
    write (·.mapStorageGcTasks (·.update locator (StorageGcTask.complete completedAt)))
  else storageGcWriteMiss locator

def failStorageGcTask (locator : StorageLocator) (leaseToken : String) (error : String)
    (retryAt now : Time) : Transaction Unit := do
  validateToken leaseToken
  require (error.utf8ByteSize ≤ 4096 ∧ now ≤ retryAt)
    (.invariant "storage GC failure metadata is invalid")
  let now := postgresTime now
  let row ← query fun db => db.storageGcTasks.find? locator
  let task ← orThrow row .notFound
  require (StorageGcTask.holdsLease leaseToken now task = true) .conflict
  write (·.mapStorageGcTasks
    (·.update locator (StorageGcTask.retry (postgresTime retryAt) now)))

/-- The owner named by the task that is queued for a locator. -/
def queuedOwner (tasks : Table StorageGcTask) (locator : StorageLocator) :
    Option GcProvenance :=
  (tasks.find? locator).map (·.task.provenance)

/-- A task may be queued for a locator that is free or already queued for the same owner. -/
def Admits (tasks : Table StorageGcTask) (locator : StorageLocator)
    (provenance : GcProvenance) : Prop :=
  ∀ owner, queuedOwner tasks locator = some owner → owner = provenance

instance (tasks : Table StorageGcTask) (locator : StorageLocator) (provenance : GcProvenance) :
    Decidable (Admits tasks locator provenance) :=
  decidable_of_iff ((queuedOwner tasks locator).all (· = provenance)) (by
    cases h : queuedOwner tasks locator <;> simp [Admits, h])

@[simp] theorem ofNew_key (task : NewStorageGcTask) :
    Keyed.key (StorageGcTask.ofNew task) = task.locator := rfl

@[simp] theorem ofNew_provenance (task : NewStorageGcTask) :
    (StorageGcTask.ofNew task).task.provenance = task.provenance := rfl

/-- Queuing a task never changes the owner of a locator that is queued already. -/
theorem queuedOwner_insert (tasks : Table StorageGcTask) (task : NewStorageGcTask)
    (locator : StorageLocator) :
    queuedOwner (tasks.insert (StorageGcTask.ofNew task)) locator =
      if locator = task.locator then
        (queuedOwner tasks locator).or (some task.provenance)
      else queuedOwner tasks locator := by
  cases hfind : tasks.find? task.locator with
  | none =>
      have hfresh : tasks.find? (Keyed.key (StorageGcTask.ofNew task)) = none := hfind
      simp only [queuedOwner, Table.find?_insert hfresh, ofNew_key]
      by_cases hl : locator = task.locator
      · simp [hl, hfind]
      · simp [hl, Ne.symm hl]
  | some old =>
      have hsame : tasks.insert (StorageGcTask.ofNew task) = tasks :=
        Table.insert_of_taken (by simp [hfind])
      rw [hsame]
      by_cases hl : locator = task.locator
      · simp [hl, queuedOwner, hfind]
      · simp [hl]

theorem queuedOwner_insert_self {tasks : Table StorageGcTask} {task : NewStorageGcTask}
    (h : Admits tasks task.locator task.provenance) :
    queuedOwner (tasks.insert (StorageGcTask.ofNew task)) task.locator =
      some task.provenance := by
  rw [queuedOwner_insert, if_pos rfl]
  cases hq : queuedOwner tasks task.locator with
  | none => rfl
  | some owner => rw [h owner hq, Option.some_or]

theorem queuedOwner_insert_ne {tasks : Table StorageGcTask} {task : NewStorageGcTask}
    {locator : StorageLocator} (h : locator ≠ task.locator) :
    queuedOwner (tasks.insert (StorageGcTask.ofNew task)) locator =
      queuedOwner tasks locator := by
  rw [queuedOwner_insert, if_neg h]

/-- Queuing succeeds exactly when the task is well formed and its locator admits the owner. -/
@[simp] theorem insertStorageGcTask_ok {task : NewStorageGcTask} {db db' : Database}
    {u : Unit} :
    (insertStorageGcTask task).run db = .ok (u, db') ↔
      (task.validate = .ok () ∧ task.maxAttempts ≤ maxI32 ∧
        Admits db.storageGcTasks task.locator task.provenance) ∧
      db' = db.mapStorageGcTasks (·.insert (StorageGcTask.ofNew task)) := by
  simp only [insertStorageGcTask, Transaction.run_bind_ok, run_domain_ok,
    Transaction.run_require_ok, Transaction.run_write_ok, Transaction.run_query_ok,
    Transaction.run_orThrow_ok]
  constructor
  · rintro ⟨_, _, ⟨hvalid, rfl⟩, _, _, ⟨hattempts, rfl⟩, _, _, rfl, _, _, ⟨rfl, rfl⟩, row, _,
      ⟨hrow, rfl⟩, hprovenance, rfl⟩
    refine ⟨⟨hvalid, hattempts, fun owner howner => ?_⟩, rfl⟩
    have hqueued : queuedOwner (db.storageGcTasks.insert (StorageGcTask.ofNew task))
        task.locator = some task.provenance := by
      simpa [queuedOwner, hprovenance] using congrArg (Option.map (·.task.provenance)) hrow
    rw [queuedOwner_insert, if_pos rfl, howner, Option.some_or] at hqueued
    exact Option.some.inj hqueued
  · rintro ⟨⟨hvalid, hattempts, hadmits⟩, rfl⟩
    have hqueued := queuedOwner_insert_self hadmits
    obtain ⟨row, hrow, hprovenance⟩ := Option.map_eq_some_iff.1 hqueued
    exact ⟨(), db, ⟨hvalid, rfl⟩, (), db, ⟨hattempts, rfl⟩, (), _, rfl, _, _, ⟨rfl, rfl⟩, row,
      _, ⟨hrow, rfl⟩, hprovenance, rfl⟩

@[simp] theorem enqueueStorageGcTask_ok {task : NewStorageGcTask} {db db' : Database}
    {u : Unit} :
    (enqueueStorageGcTask task).run db = .ok (u, db') ↔
      (insertStorageGcTask task).run db = .ok (u, db') := by
  simp only [enqueueStorageGcTask, Transaction.run_bind_ok, run_domain_ok]
  constructor
  · rintro ⟨_, _, ⟨-, rfl⟩, h⟩
    exact h
  · intro h
    exact ⟨(), db, ⟨(insertStorageGcTask_ok.1 h).1.1, rfl⟩, h⟩

/-- The task of a version is one that no intent and no upload owns. -/
@[simp] theorem enqueueObjectVersionGcTask_ok {task : NewStorageGcTask} {db db' : Database}
    {u : Unit} :
    (enqueueObjectVersionGcTask task).run db = .ok (u, db') ↔
      (task.provenance.uploadIntentId = none ∧ task.provenance.multipartUploadId = none) ∧
      (insertStorageGcTask task).run db = .ok ((), db') := by
  simp only [enqueueObjectVersionGcTask, Transaction.run_bind_ok, Transaction.run_require_ok,
    Transaction.run_query_ok, Transaction.run_orThrow_ok]
  constructor
  · rintro ⟨_, _, hinsert, _, _, ⟨rfl, rfl⟩, _, _, ⟨-, rfl⟩, ⟨hprovenance, hintent, hupload⟩,
      rfl⟩
    rw [hprovenance] at hintent hupload
    exact ⟨⟨hintent, hupload⟩, hinsert⟩
  · rintro ⟨⟨hintent, hupload⟩, hinsert⟩
    have hadmits := (insertStorageGcTask_ok.1 hinsert).1.2.2
    obtain ⟨row, hrow, hprovenance⟩ :=
      Option.map_eq_some_iff.1 (queuedOwner_insert_self hadmits)
    have hdb := (insertStorageGcTask_ok.1 hinsert).2
    refine ⟨(), db', hinsert, _, db', ⟨rfl, rfl⟩, row, db', ⟨?_, rfl⟩, ?_, rfl⟩
    · rw [hdb]
      exact hrow
    · rw [hprovenance]
      exact ⟨rfl, hintent, hupload⟩

theorem queuedOwner_updateWhere (tasks : Table StorageGcTask) (p : StorageGcTask → Bool)
    (f : Update StorageGcTask) (hf : ∀ row, (f row).task.provenance = row.task.provenance)
    (locator : StorageLocator) :
    queuedOwner (tasks.updateWhere p f) locator = queuedOwner tasks locator := by
  simp only [queuedOwner, Table.find?_updateWhere, Option.map_map]
  congr 1
  funext row
  by_cases hp : p row <;> simp [hp, hf]

private theorem lease_provenance (leaseToken : String) (leaseUntil now : Time)
    (row : StorageGcTask) :
    (StorageGcTask.lease leaseToken leaseUntil now row).task.provenance =
      row.task.provenance := by
  by_cases h : row.attempts < row.task.maxAttempts <;> simp [StorageGcTask.lease, h]

private theorem retry_provenance (retryAt now : Time) (row : StorageGcTask) :
    (StorageGcTask.retry retryAt now row).task.provenance = row.task.provenance := by
  by_cases h : row.task.maxAttempts ≤ row.attempts <;> simp [StorageGcTask.retry, h]

/-- A transaction of the worker writes only the queue and keeps the owner of every locator. -/
def KeepsOwners (db db' : Database) : Prop :=
  ∃ tasks, db' = { db with storageGcTasks := tasks } ∧
    ∀ locator, queuedOwner tasks locator = queuedOwner db.storageGcTasks locator

theorem claimStorageGcTasks_ok {leaseToken : String} {leaseUntil now : Time} {limit : Nat}
    {db db' : Database} {tasks : List StorageGcTask}
    (h : (claimStorageGcTasks leaseToken leaseUntil now limit).run db = .ok (tasks, db')) :
    KeepsOwners db db' := by
  simp only [claimStorageGcTasks, validateLease, validateToken, Transaction.run_bind_ok,
    Transaction.run_require_ok, Transaction.run_write_ok, Transaction.run_query_ok] at h
  obtain ⟨_, _, ⟨_, _, ⟨-, rfl⟩, -, rfl⟩, _, _, ⟨-, rfl⟩, _, _, rfl, _, _, ⟨rfl, rfl⟩,
    _, _, rfl, -, rfl⟩ := h
  refine ⟨_, rfl, fun locator => ?_⟩
  exact (queuedOwner_updateWhere _ _ _ (lease_provenance _ _ _) locator).trans
    (queuedOwner_updateWhere _ _ (StorageGcTask.bury (postgresTime now)) (fun _ => rfl) locator)

theorem completeStorageGcTask_ok {locator : StorageLocator} {leaseToken : String}
    {completedAt : Time} {db db' : Database} {u : Unit}
    (h : (completeStorageGcTask locator leaseToken completedAt).run db = .ok (u, db')) :
    KeepsOwners db db' := by
  simp only [completeStorageGcTask, validateToken, storageGcWriteMiss, Transaction.run_bind_ok,
    Transaction.run_require_ok, Transaction.run_query_ok, Transaction.run_ite_ok,
    Transaction.run_write_ok, Transaction.run_fail_ok, and_false, or_false, exists_false] at h
  obtain ⟨_, _, ⟨-, rfl⟩, _, _, ⟨-, rfl⟩, -, rfl⟩ := h
  exact ⟨_, rfl, queuedOwner_updateWhere _ _ _ fun _ => rfl⟩

theorem failStorageGcTask_ok {locator : StorageLocator} {leaseToken error : String}
    {retryAt now : Time} {db db' : Database} {u : Unit}
    (h : (failStorageGcTask locator leaseToken error retryAt now).run db = .ok (u, db')) :
    KeepsOwners db db' := by
  simp only [failStorageGcTask, validateToken, Transaction.run_bind_ok,
    Transaction.run_require_ok, Transaction.run_query_ok, Transaction.run_orThrow_ok,
    Transaction.run_write_ok] at h
  obtain ⟨_, _, ⟨-, rfl⟩, _, _, ⟨-, rfl⟩, _, _, ⟨-, rfl⟩, _, _, ⟨-, rfl⟩, _, _, ⟨-, rfl⟩,
    rfl⟩ := h
  exact ⟨_, rfl, queuedOwner_updateWhere _ _ _ (retry_provenance _ _)⟩

end MediaHub.Store

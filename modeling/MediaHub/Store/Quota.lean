import MediaHub.Store.Database

namespace MediaHub.Store

open Relational
open MediaHub.Core

/-- The `CHECK` constraints of the ledger row. -/
def Application.isConsistent (application : Application) : Bool :=
  0 ≤ application.usedBytes && 0 ≤ application.reservedBytes &&
  application.usedBytes + application.reservedBytes ≤ application.quotaBytes

/-- `UPDATE applications SET ... WHERE id = $ AND guard`; tells whether a row was changed. -/
def updateApplicationWhere (applicationId : ApplicationId) (guard : Application → Bool)
    (change : Update Application) : Transaction Bool := do
  let db ← query id
  match db.applications.find? applicationId with
  | none => pure false
  | some application =>
      if guard application then
        require ((change application).isConsistent = true)
          (checkViolation "applications" "applications_check")
        write fun db => db.mapApplications (·.update applicationId change)
        pure true
      else pure false

namespace Application

def reserve (bytes : Nat) : Update Application where
  apply a := { a with reservedBytes := a.reservedBytes + bytes }
  key_apply _ := rfl

def release (bytes : Nat) : Update Application where
  apply a := { a with reservedBytes := a.reservedBytes - bytes }
  key_apply _ := rfl

/-- A committed upload turns its reservation into used bytes and frees what it replaced. -/
def transfer (committedBytes releasedUsedBytes : Nat) : Update Application where
  apply a := { a with
    reservedBytes := a.reservedBytes - committedBytes
    usedBytes := a.usedBytes + committedBytes - releasedUsedBytes }
  key_apply _ := rfl

def releaseUsed (bytes : Nat) : Update Application where
  apply a := { a with usedBytes := a.usedBytes - bytes }
  key_apply _ := rfl

end Application

/-- A reservation needs free quota. -/
def reserveBytes (applicationId : ApplicationId) (bytes : Nat) : Transaction Unit := do
  asI64 bytes
  let reserved ← updateApplicationWhere applicationId
    (fun a => bytes ≤ a.quotaBytes - a.usedBytes - a.reservedBytes) (Application.reserve bytes)
  if reserved then pure () else
    let exists_ ← query fun db => (db.applications.find? applicationId).isSome
    if exists_ then fail .quotaExceeded else fail .notFound

def releaseBytes (applicationId : ApplicationId) (bytes : Nat) (missing : RepositoryError) :
    Transaction Unit := do
  asI64 bytes
  let released ← updateApplicationWhere applicationId
    (fun a => bytes ≤ a.reservedBytes) (Application.release bytes)
  require (released = true) missing

def transferBytes (applicationId : ApplicationId) (committedBytes releasedUsedBytes : Nat)
    (missing : RepositoryError) : Transaction Unit := do
  asI64 committedBytes
  asI64 releasedUsedBytes
  let transferred ← updateApplicationWhere applicationId
    (fun a => committedBytes ≤ a.reservedBytes && releasedUsedBytes ≤ a.usedBytes)
    (Application.transfer committedBytes releasedUsedBytes)
  require (transferred = true) missing

def reserveS3UploadIntentQuota (intent : UploadIntent) : Transaction Unit :=
  reserveBytes intent.applicationId intent.expectedSizeBytes

def releaseS3UploadIntentQuota (intent : UploadIntent) : Transaction Unit :=
  releaseBytes intent.applicationId intent.expectedSizeBytes
    (.invariant "S3 upload intent has no matching quota reservation")

def transferS3UploadIntentQuota (intent : UploadIntent) (releasedUsedBytes : Nat) :
    Transaction Unit :=
  transferBytes intent.applicationId intent.expectedSizeBytes releasedUsedBytes
    (.invariant "S3 upload intent quota transfer is missing or would underflow")

def releaseS3UsedBytes (applicationId : ApplicationId) (bytes : Nat) : Transaction Unit := do
  if bytes = 0 then pure () else
    asI64 bytes
    let released ← updateApplicationWhere applicationId
      (fun a => bytes ≤ a.usedBytes) (Application.releaseUsed bytes)
    require (released = true)
      (.invariant "S3 committed object quota release is missing or would underflow")

/-- Every S3 mutation locks the bucket before it touches the ledger. -/
def lockS3QuotaBucket (applicationId : ApplicationId) (bucketId : BucketId) :
    Transaction Unit := do
  let bucket ← query fun db => db.findBucket applicationId bucketId
  require (bucket.isSome = true) .notFound

namespace Application

def setQuota (quotaBytes : Nat) : Update Application where
  apply a := { a with quotaBytes := quotaBytes }
  key_apply _ := rfl

def new (id : ApplicationId) (quotaBytes : Nat) : Application where
  id := id
  quotaBytes := quotaBytes
  usedBytes := 0
  reservedBytes := 0

end Application

/-- A quota is never lowered below what is used and reserved. -/
def updateApplicationQuota (applicationId : ApplicationId) (quotaBytes : Nat) :
    Transaction Unit := do
  asI64 quotaBytes
  let application ← selectRow applicationRows applicationId .notFound
  require (application.usedBytes + application.reservedBytes ≤ quotaBytes) .conflict
  if application.quotaBytes = quotaBytes then pure () else
    updateRow applicationRows applicationId (fun _ => true) (Application.setQuota quotaBytes)
      Application.isConsistent .notFound (checkViolation "applications" "applications_check")

/-- The application is there, passes the guard and stays consistent under the change. -/
def CanCharge (db : Database) (applicationId : ApplicationId) (guard : Application → Bool)
    (change : Update Application) : Prop :=
  ∃ a ∈ db.applications, a.id = applicationId ∧ guard a = true ∧
    (change a).isConsistent = true

theorem updateApplicationWhere_ok {applicationId : ApplicationId}
    {guard : Application → Bool} {change : Update Application} {db db' : Database}
    {changed : Bool} :
    (updateApplicationWhere applicationId guard change).run db = .ok (changed, db') ↔
      (changed = true ∧ CanCharge db applicationId guard change ∧
        db' = db.mapApplications (·.update applicationId change)) ∨
      (changed = false ∧ db = db' ∧
        ∀ a ∈ db.applications, a.id = applicationId → guard a = false) := by
  simp only [updateApplicationWhere, CanCharge, Transaction.run_bind_ok,
    Transaction.run_query_ok, id]
  constructor
  · rintro ⟨_, _, ⟨rfl, rfl⟩, h⟩
    cases hfind : db.applications.find? applicationId with
    | none =>
        rw [hfind] at h
        obtain ⟨rfl, rfl⟩ := Transaction.run_pure_ok.1 h
        exact Or.inr ⟨rfl, rfl, fun a ha hid =>
          absurd hid (Table.find?_eq_none_iff.1 hfind a ha)⟩
    | some a =>
        rw [hfind] at h
        obtain ⟨ha, hid⟩ := Table.find?_eq_some_iff.1 hfind
        by_cases hguard : guard a
        · simp only [hguard, if_true, Transaction.run_bind_ok, Transaction.run_require_ok,
            Transaction.run_write_ok, Transaction.run_pure_ok] at h
          obtain ⟨_, _, ⟨hcheck, rfl⟩, _, _, rfl, rfl, rfl⟩ := h
          exact Or.inl ⟨rfl, ⟨a, ha, hid, hguard, hcheck⟩, rfl⟩
        · simp only [hguard] at h
          obtain ⟨rfl, rfl⟩ := h
          refine Or.inr ⟨rfl, rfl, fun b hb hbid => ?_⟩
          have hab : b = a := Table.eq_of_key hb ha (hbid.trans hid.symm)
          simpa [hab] using hguard
  · rintro (⟨rfl, ⟨a, ha, hid, hguard, hcheck⟩, rfl⟩ | ⟨rfl, rfl, hnone⟩)
    · refine ⟨db, db, ⟨rfl, rfl⟩, ?_⟩
      rw [Table.find?_eq_some_iff.2 ⟨ha, hid⟩]
      simp [hguard, hcheck]
    · refine ⟨db, db, ⟨rfl, rfl⟩, ?_⟩
      cases hfind : db.applications.find? applicationId with
      | none => simp
      | some a =>
          obtain ⟨ha, hid⟩ := Table.find?_eq_some_iff.1 hfind
          simp [hnone a ha hid]

/-- An update of the ledger that must have changed a row. -/
theorem charged_ok {applicationId : ApplicationId} {guard : Application → Bool}
    {change : Update Application} {missing : RepositoryError} {db db' : Database} {u : Unit} :
    (updateApplicationWhere applicationId guard change >>= fun changed =>
      (require (changed = true) missing : Transaction Unit)).run db = .ok (u, db') ↔
      CanCharge db applicationId guard change ∧
        db' = db.mapApplications (·.update applicationId change) := by
  simp only [Transaction.run_bind_ok, updateApplicationWhere_ok, Transaction.run_require_ok]
  constructor
  · rintro ⟨_, _, ⟨-, hcan, rfl⟩ | ⟨rfl, -, -⟩, hchanged, rfl⟩
    · exact ⟨hcan, rfl⟩
    · cases hchanged
  · rintro ⟨hcan, rfl⟩
    exact ⟨true, _, Or.inl ⟨rfl, hcan, rfl⟩, rfl, rfl⟩

theorem reserveBytes_ok {applicationId : ApplicationId} {bytes : Nat} {db db' : Database}
    {u : Unit} :
    (reserveBytes applicationId bytes).run db = .ok (u, db') ↔
      bytes ≤ maxI64 ∧ CanCharge db applicationId
        (fun a => bytes ≤ a.quotaBytes - a.usedBytes - a.reservedBytes)
        (Application.reserve bytes) ∧
      db' = db.mapApplications (·.update applicationId (Application.reserve bytes)) := by
  simp only [reserveBytes, asI64, Transaction.run_bind_ok, Transaction.run_require_ok,
    updateApplicationWhere_ok]
  constructor
  · rintro ⟨_, _, ⟨hbytes, rfl⟩, _, _, (⟨rfl, hcan, rfl⟩ | ⟨rfl, rfl, -⟩), hrest⟩
    · simp only [if_true, Transaction.run_pure_ok] at hrest
      exact ⟨hbytes, hcan, hrest.2.symm⟩
    · simp at hrest
  · rintro ⟨hbytes, hcan, rfl⟩
    exact ⟨(), db, ⟨hbytes, rfl⟩, true, _, Or.inl ⟨rfl, hcan, rfl⟩, by simp⟩

theorem releaseBytes_ok {applicationId : ApplicationId} {bytes : Nat}
    {missing : RepositoryError} {db db' : Database} {u : Unit} :
    (releaseBytes applicationId bytes missing).run db = .ok (u, db') ↔
      bytes ≤ maxI64 ∧ CanCharge db applicationId (fun a => bytes ≤ a.reservedBytes)
        (Application.release bytes) ∧
      db' = db.mapApplications (·.update applicationId (Application.release bytes)) := by
  rw [releaseBytes, Transaction.run_bind_ok]
  simp only [asI64, Transaction.run_require_ok, charged_ok]
  exact ⟨fun ⟨_, _, ⟨hbytes, heq⟩, h⟩ => ⟨hbytes, heq ▸ h⟩,
    fun ⟨hbytes, h⟩ => ⟨(), db, ⟨hbytes, rfl⟩, h⟩⟩

theorem transferBytes_ok {applicationId : ApplicationId} {committed released : Nat}
    {missing : RepositoryError} {db db' : Database} {u : Unit} :
    (transferBytes applicationId committed released missing).run db = .ok (u, db') ↔
      (committed ≤ maxI64 ∧ released ≤ maxI64) ∧ CanCharge db applicationId
        (fun a => committed ≤ a.reservedBytes && released ≤ a.usedBytes)
        (Application.transfer committed released) ∧
      db' = db.mapApplications
        (·.update applicationId (Application.transfer committed released)) := by
  rw [transferBytes, Transaction.run_bind_ok]
  simp only [asI64, Transaction.run_require_ok, @Transaction.run_bind_ok _ _ _ _ (require _ _),
    charged_ok]
  constructor
  · rintro ⟨_, _, ⟨hcommitted, rfl⟩, _, _, ⟨hreleased, rfl⟩, h⟩
    exact ⟨⟨hcommitted, hreleased⟩, h⟩
  · rintro ⟨⟨hcommitted, hreleased⟩, h⟩
    exact ⟨(), db, ⟨hcommitted, rfl⟩, (), db, ⟨hreleased, rfl⟩, h⟩

/-- Releasing no bytes leaves even a missing application alone. -/
theorem releaseS3UsedBytes_ok {applicationId : ApplicationId} {bytes : Nat}
    {db db' : Database} {u : Unit} :
    (releaseS3UsedBytes applicationId bytes).run db = .ok (u, db') ↔
      (bytes = 0 ∧ db = db') ∨ (bytes ≠ 0 ∧ bytes ≤ maxI64 ∧
        CanCharge db applicationId (fun a => bytes ≤ a.usedBytes)
          (Application.releaseUsed bytes) ∧
        db' = db.mapApplications (·.update applicationId (Application.releaseUsed bytes))) := by
  unfold releaseS3UsedBytes
  by_cases hzero : bytes = 0
  · simp [hzero]
  · simp only [hzero, if_false, ne_eq, not_false_eq_true, true_and, false_and, false_or]
    rw [Transaction.run_bind_ok]
    simp only [asI64, Transaction.run_require_ok, charged_ok]
    exact ⟨fun ⟨_, _, ⟨hbytes, heq⟩, h⟩ => ⟨hbytes, heq ▸ h⟩,
      fun ⟨hbytes, h⟩ => ⟨(), db, ⟨hbytes, rfl⟩, h⟩⟩

@[simp] theorem lockS3QuotaBucket_ok {applicationId : ApplicationId} {bucketId : BucketId}
    {db db' : Database} {u : Unit} :
    (lockS3QuotaBucket applicationId bucketId).run db = .ok (u, db') ↔
      (db.findBucket applicationId bucketId).isSome ∧ db = db' := by
  simp only [lockS3QuotaBucket, Transaction.run_bind_ok, Transaction.run_query_ok,
    Transaction.run_require_ok]
  constructor
  · rintro ⟨_, _, ⟨hrow, heq⟩, h, heq'⟩
    rw [hrow]
    exact ⟨h, heq.trans heq'⟩
  · rintro ⟨h, heq⟩
    exact ⟨_, db, ⟨rfl, rfl⟩, h, heq⟩

end MediaHub.Store

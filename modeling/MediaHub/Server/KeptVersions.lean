import MediaHub.Server.Fencing

/-!
Write once, read many: what Object Lock protects stays visible. Deletes and lifecycle executions
check the lock in their own transaction; a commit that replaces a null version does not.
-/

namespace MediaHub.Server

open Relational
open MediaHub.Core
open MediaHub.Store

/-- The clock with which an event may take versions out of sight, and whether it carries a
bypass of governance retention. -/
def State.retireClock (s : State) : Event → Option (Time × Bool)
  | .call (.deleteObject command) => some (command.deletedAt, command.bypassGovernance)
  | .call (.executeLifecycle command) => some (command.evaluatedAt, false)
  | e => (s.preparedCommit e).map fun commit => (commit.committedAt, false)

/-- At the clock of the event the version is under legal hold or unexpired retention. -/
def IsProtected (s : State) (e : Event) (version : ObjectVersion) : Prop :=
  ∀ clock ∈ s.retireClock e, deleteLockReasonAt version clock.1 clock.2 ≠ none

/-- The version is visible and no cleanup task names its payload. -/
def IsKept (db : Database) (version : ObjectVersion) : Prop :=
  ∃ row ∈ db.objectVersions, row.facts = version.facts ∧ row.isActive ∧
    ∀ locator ∈ row.locator?, ∀ task ∈ db.storageGcTasks, task.task.locator ≠ locator

/-- The event keeps every data version that is protected at its clock. -/
def KeepsProtected [Md5] (s : State) (e : Event) : Prop :=
  ∀ version ∈ s.db.objectVersions, version.isActive → version.payload ≠ .deleteMarker →
    IsProtected s e version → IsKept (s.step e).db version

/-- The null version that a prepared commit is about to replace is not locked when it does. -/
def ReplacesUnlocked (s : State) (e : Event) : Prop :=
  ∀ commit ∈ s.preparedCommit e, ∀ version ∈ s.db.objectVersions,
    ReplacedBy s.db commit.version version.id →
      deleteLockReasonAt version commit.committedAt false = none

theorem preparedCommit_eq {s : State} {e : Event} {worker : Uuid} {row : PutWorker}
    {commit : S3ObjectVersionCommit}
    (he : e = .commitPut worker ∨ ∃ uploadId, e = .commitMultipart worker uploadId)
    (hfind : s.puts.find? worker = some row) (hphase : row.phase = .prepared commit) :
    s.preparedCommit e = some commit := by
  rcases he with rfl | ⟨uploadId, rfl⟩ <;> simp [State.preparedCommit, hfind, hphase]

/-- Only deletes, lifecycle executions and prepared commits retire versions. -/
theorem licence_retires {s : State} {e : Event} {versionId : ObjectVersionId}
    (h : (s.licence e).retires versionId) :
    (∃ clock ∈ s.retireClock e, ∃ version ∈ s.db.objectVersions, version.id = versionId ∧
      deleteLockReasonAt version clock.1 clock.2 = none) ∨
    ∃ commit ∈ s.preparedCommit e, ReplacedBy s.db commit.version versionId := by
  have hworker : ∀ worker,
      ((s.puts.find? worker).elim Licence.none (workerLicence s.db)).retires versionId →
      (e = .commitPut worker ∨ ∃ uploadId, e = .commitMultipart worker uploadId) →
      ∃ commit ∈ s.preparedCommit e, ReplacedBy s.db commit.version versionId := by
    intro worker hretires he
    cases hfind : s.puts.find? worker with
    | none =>
        rw [hfind] at hretires
        exact hretires.elim
    | some row =>
        rw [hfind, Option.elim, workerLicence] at hretires
        split at hretires
        · exact ⟨_, preparedCommit_eq he hfind ‹_›, hretires⟩
        · exact hretires.elim
  cases e with
  | commitPut worker => exact Or.inr (hworker worker h (Or.inl rfl))
  | commitMultipart worker uploadId => exact Or.inr (hworker worker h (Or.inr ⟨uploadId, rfl⟩))
  | call command =>
      cases command with
      | deleteObject command => exact Or.inl ⟨_, rfl, h⟩
      | executeLifecycle command => exact Or.inl ⟨_, rfl, h⟩
      | _ => exact h.elim
  | putPart nonce =>
      obtain ⟨_, -, -, hrow⟩ :=
        licence_of_row (P := fun licence => licence.retires versionId) id h
      exact hrow.elim
  | queuePart nonce =>
      obtain ⟨_, -, -, hrow⟩ :=
        licence_of_row (P := fun licence => licence.retires versionId) id h
      exact hrow.elim
  | _ => exact h.elim

/-- A visible version that the licence does not retire stays visible, and its payload stays. -/
theorem StepCases.kept [Md5] {s s' : State} {e : Event} {licence : Licence}
    (h : StepCases s e s' licence)
    (hcleanup : CleanupSound s.db) {version : ObjectVersion}
    (hversion : version ∈ s.db.objectVersions) (hactive : version.isActive)
    (hretires : ¬ licence.retires version.id) : IsKept s'.db version := by
  have hexact := (h.cleanupSound hcleanup).exact
  have hrow : ∃ row ∈ s'.db.objectVersions, row.facts = version.facts ∧ row.isActive := by
    cases h with
    | effects heffects =>
        obtain ⟨row, hrow, hfacts, hkept⟩ := heffects.version_kept hversion
        exact ⟨row, hrow, hfacts, hkept hactive hretires⟩
    | bare hbare =>
        obtain ⟨applications, media, reservations, rfl⟩ := hbare.frame
        exact ⟨version, hversion, rfl, hactive⟩
  obtain ⟨row, hmem, hfacts, hrowActive⟩ := hrow
  exact ⟨row, hmem, hfacts, hrowActive, fun locator hlocator =>
    queuedOwner_eq_none_iff.1 (hexact.active row hmem hrowActive locator hlocator)⟩

theorem Sound.keepsProtected [Md5] {s : State} (h : Sound s) (hcleanup : CleanupSound s.db)
    {e : Event} (hguard : ReplacesUnlocked s e) : KeepsProtected s e := by
  intro version hversion hactive _ hprotected
  refine (h.step_cases e).kept hcleanup hversion hactive fun hretires => ?_
  rcases licence_retires hretires with ⟨clock, hclock, other, hother, hid, hlock⟩ |
    ⟨commit, hcommit, hreplaced⟩
  · have heq : other = version := Table.eq_of_key hother hversion hid
    rw [heq] at hlock
    exact hprotected clock hclock hlock
  · have hlock := hguard commit hcommit version hversion hreplaced
    refine hprotected (commit.committedAt, false) ?_ hlock
    cases e with
    | commitPut | commitMultipart =>
        exact Option.map_eq_some_iff.2 ⟨commit, hcommit, rfl⟩
    | _ => cases hcommit

/-- In every run in which no commit replaces a locked null version, every event keeps what is
protected at its clock. -/
theorem protected_along [Md5] (s : State) (events : List Event) (hinit : IsFresh s)
    (h : system.Along ReplacesUnlocked s events) : system.Along KeepsProtected s events := by
  refine Transition.System.along_of_invariant
    (P := fun s => Sound s ∧ CleanupSound s.db) (fun s e hs _ => ?_) (fun s e hs hguard => ?_)
    ⟨Sound.of_init hinit, cleanupSound_of_init hinit⟩ h
  · exact ⟨hs.1.step e, (hs.1.step_cases e).cleanupSound hs.2⟩
  · exact hs.1.keepsProtected hs.2 hguard

instance (db : Database) (version : ObjectVersion) (versionId : ObjectVersionId) :
    Decidable (ReplacedBy db version versionId) := by
  unfold ReplacedBy
  infer_instance

instance (s : State) (e : Event) : Decidable (ReplacesUnlocked s e) := by
  unfold ReplacesUnlocked
  infer_instance

instance (s : State) (e : Event) (version : ObjectVersion) :
    Decidable (IsProtected s e version) := by
  unfold IsProtected
  infer_instance

instance (db : Database) (version : ObjectVersion) : Decidable (IsKept db version) := by
  unfold IsKept
  infer_instance

instance [Md5] (s : State) (e : Event) : Decidable (KeepsProtected s e) := by
  unfold KeepsProtected
  infer_instance

def holdKey (updatedAt : Time) : Event :=
  .call (.putObjectLock ⟨1, 2, "key", none, .legalHold true, updatedAt⟩)

theorem protected_along_put :
    letI := noMd5
    system.Along KeepsProtected (State.installation 1 1000)
      ([.call (.createBucket plainBucket)] ++ firstPut.run ++ secondPut.run ++
        [.call (.replaceObjectLock 1 "bucket" none 3000), holdKey 3000]) :=
  letI := noMd5
  protected_along _ _ (isFresh_installation 1 (by decide)) (by decide +kernel)

/-- A PUT is prepared in an unversioned bucket; then Object Lock is turned on and the null version
gets a legal hold. -/
def heldThenReplaced : List Event :=
  [.call (.createBucket plainBucket)] ++ firstPut.run ++ secondPut.stage ++ secondPut.prepare ++
    [.call (.replaceObjectLock 1 "bucket" none 3000), holdKey 3000, .commitPut secondPut.worker]

/-- The commit supersedes the version under legal hold and queues its payload. -/
theorem not_protected_along_heldThenReplaced :
    letI := noMd5
    IsFresh (State.installation 1 1000) ∧
      ¬ system.Along KeepsProtected (State.installation 1 1000) heldThenReplaced :=
  ⟨isFresh_installation 1 (by decide), by decide +kernel⟩

def IsEnabled (db : Database) (bucketId : BucketId) : Prop :=
  ∃ bucket ∈ db.buckets, bucket.id = bucketId ∧ bucket.configuration.versioningStatus = .enabled

theorem preparedCommit_cases {s : State} {e : Event} {commit : S3ObjectVersionCommit}
    (h : commit ∈ s.preparedCommit e) :
    ∃ worker ∈ s.puts, worker.phase = .prepared commit ∧
      s.licence e = commitLicence s.db worker.request.leaseToken commit ∧
      (e = .commitPut worker.id ∨ ∃ uploadId, e = .commitMultipart worker.id uploadId) := by
  have hworker : ∀ worker, commit ∈ s.preparedCommit (.commitPut worker) →
      ∃ row ∈ s.puts, row.id = worker ∧ row.phase = .prepared commit ∧
        (s.puts.find? worker).elim Licence.none (workerLicence s.db) =
          commitLicence s.db row.request.leaseToken commit := by
    intro worker hmem
    obtain ⟨row, hfind, hphase⟩ := Option.bind_eq_some_iff.1 hmem
    split at hphase
    · cases hphase
      obtain ⟨hrow, hid⟩ := Table.find?_eq_some_iff.1 hfind
      refine ⟨row, hrow, hid, ‹_›, ?_⟩
      rw [hfind, Option.elim, workerLicence]
      simp [*]
    · cases hphase
  cases e with
  | commitPut worker =>
      obtain ⟨row, hrow, rfl, hphase, hlicence⟩ := hworker worker h
      exact ⟨row, hrow, hphase, hlicence, Or.inl rfl⟩
  | commitMultipart worker uploadId =>
      obtain ⟨row, hrow, rfl, hphase, hlicence⟩ := hworker worker h
      exact ⟨row, hrow, hphase, hlicence, Or.inr ⟨uploadId, rfl⟩⟩
  | _ => cases h

/-- A prepared commit changes nothing, or it commits its version for an intent. -/
theorem Sound.commit_cases [Md5] {s : State} (h : Sound s) {e : Event}
    {commit : S3ObjectVersionCommit} (hcommit : commit ∈ s.preparedCommit e) :
    (s.step e).db = s.db ∨ ∃ intent ∈ s.db.uploadIntents, ∃ object base committed version,
      CommitsIntent (s.licence e) intent commit object s.db base committed version ∧
      (s.step e).db.objectVersions = (committed.apply base).objectVersions ∧
      (s.step e).db.uploadIntents = (committed.apply base).uploadIntents := by
  obtain ⟨worker, hworker, hphase, hlicence, he⟩ := preparedCommit_cases hcommit
  have hsound := h.commitSound hworker hphase
  have hfind : s.puts.find? worker.id = some worker := Table.find?_of_mem hworker
  rw [hlicence]
  rcases he with rfl | ⟨uploadId, rfl⟩
  · have hstep : (s.step (.commitPut worker.id)).db = (commitUploadIntent
        worker.request.intent.id worker.request.leaseToken commit).commit s.db := by
      simp only [State.step, hfind, Option.elim, State.commitPut, hphase]
      rfl
    rw [hstep]
    rcases Transaction.commit_cases (commitUploadIntent worker.request.intent.id
      worker.request.leaseToken commit) s.db with ⟨object, hrun⟩ | hidle
    · obtain ⟨intent, hintent, -, base, committed, version, hcommits, hdb⟩ :=
        commitUploadIntent_ok hsound.prepared hsound.versioned
          (commitLicence_retires s.db worker.request.leaseToken commit)
          (fun _ hrow _ => commitLicence_commits hrow) hrun
      rw [hdb]
      exact Or.inr ⟨intent, hintent, object, base, committed, version, hcommits, rfl, rfl⟩
    · exact Or.inl hidle
  · have hstep : (s.step (.commitMultipart worker.id uploadId)).db =
        (commitMultipartObjectVersion uploadId worker.request.leaseToken commit
          worker.request.entityTag worker.request.checksum).commit s.db := by
      simp only [State.step, hfind, Option.elim, State.commitMultipart, hphase]
      rfl
    rw [hstep]
    rcases Transaction.commit_cases (commitMultipartObjectVersion uploadId
      worker.request.leaseToken commit worker.request.entityTag worker.request.checksum) s.db with
      ⟨object, hrun⟩ | hidle
    · rcases commitMultipartObjectVersion_ok hsound.prepared hsound.versioned
        (commitLicence_retires s.db worker.request.leaseToken commit)
        (fun _ hrow => commitLicence_commits hrow) hrun with
        hsame | ⟨intent, hintent, base, committed, version, hcommits, -, hversions, hintents⟩
      · exact Or.inl hsame.symm
      · exact Or.inr ⟨intent, hintent, object, base, committed, version, hcommits, hversions,
          hintents⟩
    · exact Or.inl hidle

/-- The only version that a prepared commit adds is its own. -/
theorem Sound.commit_adds [Md5] {s : State} (h : Sound s) {e : Event}
    {commit : S3ObjectVersionCommit} (hcommit : commit ∈ s.preparedCommit e)
    {row : ObjectVersion} (hrow : row ∈ (s.step e).db.objectVersions)
    (hfresh : s.db.objectVersions.find? row.id = none) :
    row.isNullVersion = commit.version.isNullVersion ∧
      row.bucketId = commit.version.bucketId := by
  have hold : ¬ ∃ version ∈ s.db.objectVersions, version.id = row.id := fun ⟨version, hmem, hid⟩ =>
    Table.find?_eq_none_iff.1 hfresh version hmem hid
  rcases h.commit_cases hcommit with hidle | ⟨intent, -, object, base, committed, version,
    hcommits, hversions, -⟩
  · rw [hidle] at hrow
    exact absurd ⟨row, hrow, rfl⟩ hold
  · rw [hversions] at hrow
    obtain ⟨objects, rfl⟩ := hcommits.base_eq
    rcases (Push.mem_versions hcommits.valid.push_valid.fresh).1 hrow with rfl |
      ⟨old, holdMem, rfl⟩
    · rw [hcommits.version_eq]
      change version.isNullVersion = _ ∧ version.bucketId = _
      exact ⟨ObjectVersion.isNullVersion_of_facts hcommits.facts_eq,
        ObjectVersion.bucketId_of_facts hcommits.facts_eq⟩
    · exact absurd ⟨old, holdMem, (Push.id_age _ _).symm⟩ hold

/-- The version was visible in the bucket when it was enabled. -/
def WasVisible (enabled : Database) (bucketId : BucketId) (version : ObjectVersion) : Prop :=
  ∃ row ∈ enabled.objectVersions, row.id = version.id ∧ row.bucketId = bucketId ∧ row.isActive

/-- A null version is only committed to a bucket that is not enabled, and to a key whose null
version from the time when the bucket was enabled, if it had one, is gone. -/
def MeetsVersioning (enabled : Database) (bucketId : BucketId) (s : State) (e : Event) : Prop :=
  ∀ commit ∈ s.preparedCommit e, commit.version.isNullVersion →
    (commit.version.bucketId = bucketId → ¬ IsEnabled s.db bucketId) ∧
    ∀ version ∈ s.db.objectVersions, version.objectId = commit.version.objectId →
      version.isNullVersion → WasVisible enabled bucketId version → version.isActive = false

/-- The event keeps every version of the bucket that was visible when it was enabled and still
is. -/
def KeepsVisible [Md5] (enabled : Database) (bucketId : BucketId) (s : State) (e : Event) :
    Prop :=
  ∀ version ∈ s.db.objectVersions, WasVisible enabled bucketId version → version.isActive →
    IsKept (s.step e).db version

/-- A null version is added to the bucket only if it is not enabled. -/
def AddsNullUnlessEnabled [Md5] (bucketId : BucketId) (s : State) (e : Event) : Prop :=
  ∀ row ∈ (s.step e).db.objectVersions, (∀ old ∈ s.db.objectVersions, old.id ≠ row.id) →
    row.bucketId = bucketId → row.isNullVersion → ¬ IsEnabled s.db bucketId

/-- What a commit must not do to the history of a bucket. -/
def KeepsHistory [Md5] (enabled : Database) (bucketId : BucketId) (s : State) (e : Event) :
    Prop :=
  (s.preparedCommit e).isSome →
    KeepsVisible enabled bucketId s e ∧ AddsNullUnlessEnabled bucketId s e

theorem Sound.keepsHistory [Md5] {enabled : Database} {bucketId : BucketId} {s : State}
    (h : Sound s) (hcleanup : CleanupSound s.db) {e : Event}
    (hguard : MeetsVersioning enabled bucketId s e) : KeepsHistory enabled bucketId s e := by
  intro hsome
  obtain ⟨commit, hcommit⟩ := Option.isSome_iff_exists.1 hsome
  obtain ⟨worker, -, -, hlicence, -⟩ := preparedCommit_cases hcommit
  refine ⟨fun version hversion hvisible hactive => ?_, fun row hrow hfresh hbucket hnull => ?_⟩
  · refine (h.step_cases e).kept hcleanup hversion hactive fun hretires => ?_
    rw [hlicence] at hretires
    obtain ⟨hnull, -, previous, hprevious, hid, hobject, -, hpreviousNull⟩ := hretires
    have heq : previous = version := Table.eq_of_key hprevious hversion hid
    subst heq
    rw [(hguard commit hcommit hnull).2 previous hprevious hobject hpreviousNull hvisible]
      at hactive
    cases hactive
  · obtain ⟨hnullEq, hbucketEq⟩ :=
      h.commit_adds hcommit hrow (Table.find?_eq_none_iff.2 hfresh)
    rw [hnullEq] at hnull
    exact (hguard commit hcommit hnull).1 (hbucketEq.symm.trans hbucket)

/-- From a reachable state on, say one in which a bucket has just been enabled, a run whose commits
meet the versioning of the bucket keeps its history. -/
theorem history_along [Md5] (s : State) (events : List Event) (bucketId : BucketId)
    (hreachable : system.Reachable s)
    (h : system.Along (MeetsVersioning s.db bucketId) s events) :
    system.Along (KeepsHistory s.db bucketId) s events :=
  Transition.System.along_of_invariant (P := fun s' => Sound s' ∧ CleanupSound s'.db)
    (fun _ e hs _ => ⟨hs.1.step e, (hs.1.step_cases e).cleanupSound hs.2⟩)
    (fun _ _ hs hguard => hs.1.keepsHistory hs.2 hguard)
    ⟨Sound.of_reachable hreachable, cleanupSound_of_reachable hreachable⟩ h

instance (db : Database) (bucketId : BucketId) : Decidable (IsEnabled db bucketId) := by
  unfold IsEnabled
  infer_instance

instance (enabled : Database) (bucketId : BucketId) (version : ObjectVersion) :
    Decidable (WasVisible enabled bucketId version) := by
  unfold WasVisible
  infer_instance

instance (enabled : Database) (bucketId : BucketId) (s : State) (e : Event) :
    Decidable (MeetsVersioning enabled bucketId s e) := by
  unfold MeetsVersioning
  infer_instance

instance [Md5] (enabled : Database) (bucketId : BucketId) (s : State) (e : Event) :
    Decidable (KeepsVisible enabled bucketId s e) := by
  unfold KeepsVisible
  infer_instance

instance [Md5] (bucketId : BucketId) (s : State) (e : Event) :
    Decidable (AddsNullUnlessEnabled bucketId s e) := by
  unfold AddsNullUnlessEnabled
  infer_instance

instance [Md5] (enabled : Database) (bucketId : BucketId) (s : State) (e : Event) :
    Decidable (KeepsHistory enabled bucketId s e) := by
  unfold KeepsHistory
  infer_instance

/-- A version is put, and then versioning is enabled. -/
def putThenEnabled : List Event :=
  [.call (.createBucket plainBucket)] ++ firstPut.run ++ [enableVersioning 1500]

theorem history_along_put :
    letI := noMd5
    system.Along (KeepsHistory (system.run (State.installation 1 1000) putThenEnabled).db 2)
      (system.run (State.installation 1 1000) putThenEnabled) secondPut.run :=
  letI := noMd5
  history_along _ secondPut.run 2
    (reachable_run putThenEnabled)
    (by decide +kernel)

/-- A second PUT is prepared before versioning is enabled. -/
def preparedThenEnabled : List Event :=
  [.call (.createBucket plainBucket)] ++ firstPut.run ++ secondPut.stage ++ secondPut.prepare ++
    [enableVersioning 3000]

/-- Its commit supersedes the version that was visible when versioning was enabled. -/
theorem not_history_along_preparedThenEnabled :
    letI := noMd5
    let s := system.run (State.installation 1 1000) preparedThenEnabled
    system.Reachable s ∧ IsEnabled s.db 2 ∧
      ¬ system.Along (KeepsHistory s.db 2) s [.commitPut secondPut.worker] :=
  ⟨@reachable_run noMd5 preparedThenEnabled,
    by decide +kernel, by decide +kernel⟩

end MediaHub.Server

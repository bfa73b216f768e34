import MediaHub.Server.Run
import MediaHub.Store.BucketDeletion
import MediaHub.Store.Intents

namespace MediaHub.Server

open Relational
open MediaHub.Core
open MediaHub.Store
open MediaHub.Service

inductive BucketEvent where
  | server (event : Event)
  | deleteBucket (applicationId : ApplicationId) (name : String)

namespace State

def deleteBucket (s : State) (applicationId : ApplicationId) (name : String) : State :=
  s.withDb ((deleteS3Bucket applicationId name).commit s.db)

def bucketStep [Md5] (s : State) : BucketEvent → State
  | .server event => s.step event
  | .deleteBucket applicationId name => s.deleteBucket applicationId name

end State

/-- The server with deletions of buckets among its events. -/
def bucketSystem [Md5] : Transition.System State BucketEvent where
  init := IsFresh
  step s e := s.bucketStep e

/-- The intent of a worker is still there, and what it has prepared is for the intent's bucket. -/
structure Held (db : Database) (worker : PutWorker) : Prop where
  intent : ∃ row ∈ db.uploadIntents, row.facts = worker.request.intent.facts
  prepared : ∀ commit, worker.phase = .prepared commit →
    commit.version.bucketId = worker.request.intent.bucketId

theorem Held.of_kept {db db' : Database} {worker : PutWorker} (h : Held db worker)
    (hkept : ∀ intent ∈ db.uploadIntents, ∃ row ∈ db'.uploadIntents, row.facts = intent.facts) :
    Held db' worker := by
  obtain ⟨intent, hintent, hfacts⟩ := h.intent
  obtain ⟨row, hrow, hsame⟩ := hkept intent hintent
  exact ⟨⟨row, hrow, hsame.trans hfacts⟩, h.prepared⟩

section

variable [Md5] {s : State}

theorem StepCases.intents_kept {s' : State} {e : Event} {licence : Licence}
    (h : StepCases s e s' licence) :
    ∀ intent ∈ s.db.uploadIntents, ∃ row ∈ s'.db.uploadIntents, row.facts = intent.facts := by
  intro intent hintent
  cases h with
  | effects heffects =>
      obtain ⟨row, hrow, hfenced⟩ := heffects.intent_fenced hintent
      exact ⟨row, hrow, hfenced.facts_eq⟩
  | bare hbare =>
      obtain ⟨applications, media, reservations, rfl⟩ := hbare.frame
      exact ⟨intent, hintent, rfl⟩

omit [Md5] in
/-- A claim answers with a row of the database that it leaves. -/
theorem claimed_mem {claim : PutClaim} {intent : UploadIntent} {db db' : Database}
    (h : (claimUploadIntent claim.intentId claim.leaseToken claim.leaseUntil claim.now).run db =
      .ok (intent, db')) : intent ∈ db'.uploadIntents := by
  simp only [claimUploadIntent, validateLease, validateToken, uploadIntentWriteMiss,
    Transaction.run_bind_ok, Transaction.run_require_ok, Transaction.run_query_ok,
    lockUploadIntent_ok, Transaction.run_updateRow_ok] at h
  obtain ⟨_, _, -, _, _, -, _, _, -, ⟨hread, -, -⟩, rfl⟩ := h
  exact hread

/-- A worker of the next state is one of this state, perhaps in another phase, or has just
claimed its intent. -/
inductive NextWorker (s s' : State) (worker : PutWorker) : Prop
  | old (hold : worker ∈ s.puts)
  | moved {before : PutWorker} (hbefore : before ∈ s.puts)
      (hrequest : worker.request = before.request)
      (hprepared : ∀ commit, worker.phase = .prepared commit →
        commit.version.bucketId = worker.request.intent.bucketId)
  | claimed (hintent : worker.request.intent ∈ s'.db.uploadIntents)
      (hphase : worker.phase = .claimed)

omit [Md5] in
theorem NextWorker.held {s' : State} {worker : PutWorker} (h : NextWorker s s' worker)
    (hheld : ∀ worker ∈ s.puts, Held s.db worker)
    (hkept : ∀ intent ∈ s.db.uploadIntents,
      ∃ row ∈ s'.db.uploadIntents, row.facts = intent.facts) : Held s'.db worker := by
  cases h with
  | old hold => exact (hheld worker hold).of_kept hkept
  | moved hbefore hrequest hprepared =>
      have hintent := ((hheld _ hbefore).of_kept hkept).intent
      rw [← hrequest] at hintent
      exact ⟨hintent, hprepared⟩
  | claimed hintent hphase =>
      refine ⟨⟨_, hintent, rfl⟩, fun commit hcommit => ?_⟩
      rw [hphase] at hcommit
      cases hcommit

omit [Md5] in
theorem nextWorker_enterPut {before worker : PutWorker} {phase : PutPhase}
    (hbefore : s.puts.find? before.id = some before)
    (hprepared : ∀ commit, phase = .prepared commit →
      commit.version.bucketId = before.request.intent.bucketId)
    (h : worker ∈ (s.enterPut before.id phase).puts) :
    NextWorker s (s.enterPut before.id phase) worker := by
  rcases Table.mem_update.1 h with ⟨hold, -⟩ | ⟨old, hold, hid, rfl⟩
  · exact .old hold
  · have heq : old = before := Table.eq_of_key hold (Table.mem_of_find? hbefore) hid
    subst heq
    exact .moved hold rfl hprepared

omit [Md5] in
theorem nextWorker_stopPut {worker : PutWorker} {id : Uuid}
    (h : worker ∈ (s.stopPut id).puts) {s' : State} : NextWorker s s' worker :=
  .old (Table.mem_delete.1 h).1

omit [Md5] in
theorem nextWorker_readBucket {before worker : PutWorker}
    (hbefore : s.puts.find? before.id = some before) (h : worker ∈ (s.readBucket before).puts) :
    NextWorker s (s.readBucket before) worker := by
  unfold State.readBucket at h ⊢
  split at h
  · exact nextWorker_enterPut hbefore (by intro commit hcommit; cases hcommit) h
  · exact nextWorker_stopPut h
  · exact .old h

omit [Md5] in
theorem nextWorker_readObject {before worker : PutWorker}
    (hbefore : s.puts.find? before.id = some before) (h : worker ∈ (s.readObject before).puts) :
    NextWorker s (s.readObject before) worker := by
  unfold State.readObject at h ⊢
  split at h
  · exact nextWorker_enterPut hbefore (by intro commit hcommit; cases hcommit) h
  · exact .old h

omit [Md5] in
theorem nextWorker_prepare {before worker : PutWorker} {stamp : PrepareStamp}
    (hbefore : s.puts.find? before.id = some before)
    (h : worker ∈ (s.prepare before stamp).puts) :
    NextWorker s (s.prepare before stamp) worker := by
  unfold State.prepare at h ⊢
  split at h
  · split at h
    · rename_i commit hprepared
      refine nextWorker_enterPut hbefore (fun _ hcommit => ?_) h
      cases hcommit
      exact (prepareClaimedUploadCommit_ok hprepared).bucketId_eq
    · exact nextWorker_stopPut h
  · exact .old h

omit [Md5] in
theorem elim_puts {α κ : Type} [Keyed α κ] [DecidableEq κ] {t : Table α} {k : κ} {f : α → State}
    (hf : ∀ row, (f row).puts = s.puts) : ((t.find? k).elim s f).puts = s.puts := by
  cases t.find? k with
  | none => rfl
  | some row => exact hf row

omit [Md5] in
theorem stage_puts (request : PartRequest) : (s.stage request).puts = s.puts := by
  unfold State.stage
  split <;> rfl

/-- Only the events of a worker change what is known of the workers. -/
theorem nextWorker_step {e : Event} {worker : PutWorker} (h : worker ∈ (s.step e).puts) :
    NextWorker s (s.step e) worker := by
  -- an event of a worker that is not there changes nothing
  have helim : ∀ {id : Uuid} {f : PutWorker → State},
      worker ∈ ((s.puts.find? id).elim s f).puts →
      (∀ before, s.puts.find? before.id = some before → worker ∈ (f before).puts →
        NextWorker s (f before) worker) →
      NextWorker s ((s.puts.find? id).elim s f) worker := by
    intro id f hmem hrow
    cases hfind : s.puts.find? id with
    | none =>
        rw [hfind] at hmem
        exact .old hmem
    | some before =>
        rw [hfind] at hmem
        have hid : before.id = id := Table.key_of_find? hfind
        subst hid
        exact hrow before hfind hmem
  have hsame : (s.step e).puts = s.puts → NextWorker s (s.step e) worker := by
    intro hputs
    rw [hputs] at h
    exact .old h
  cases e with
  | claim id claim =>
      change worker ∈ (s.claim id claim).puts at h
      change NextWorker s (s.claim id claim) worker
      unfold State.claim at h ⊢
      split at h
      · exact .old h
      · rename_i hrun
        rcases Table.mem_or_eq_of_mem_insert h with rfl | hold
        · exact .claimed (claimed_mem hrun) rfl
        · exact .old hold
  | readBucket id => exact helim h fun _ => nextWorker_readBucket
  | readObject id => exact helim h fun _ => nextWorker_readObject
  | prepare id stamp => exact helim h fun _ => nextWorker_prepare
  | commitPut id =>
      refine helim h fun before _ hmem => ?_
      unfold State.commitPut at hmem ⊢
      split at hmem
      · exact nextWorker_stopPut hmem
      · exact .old hmem
  | commitMultipart id uploadId =>
      refine helim h fun before _ hmem => ?_
      unfold State.commitMultipart at hmem ⊢
      split at hmem
      · exact nextWorker_stopPut hmem
      · exact .old hmem
  | crash id => exact nextWorker_stopPut h
  | call command =>
      refine hsame ?_
      change (s.call command).puts = s.puts
      unfold State.call
      split <;> rfl
  | stagePart => exact hsame (stage_puts _)
  | stagePartCopy nonce uploadId partNumber =>
      refine hsame ?_
      change (s.stagePartCopy nonce uploadId partNumber).puts = s.puts
      unfold State.stagePartCopy
      split
      · exact stage_puts _
      · rfl
  | bindPart =>
      refine hsame (elim_puts fun request => ?_)
      unfold State.bindPart
      split <;> rfl
  | discardPart =>
      refine hsame (elim_puts fun request => ?_)
      split <;> rfl
  | rejectPart =>
      refine hsame (elim_puts fun request => ?_)
      unfold State.rejectPart
      split <;> rfl
  | putPart =>
      refine hsame (elim_puts fun request => ?_)
      unfold State.putPart
      split
      · split
        · split <;> rfl
        · rfl
        · rfl
      · rfl
  | queuePart =>
      refine hsame (elim_puts fun request => ?_)
      unfold State.queuePart
      split <;> rfl
  | collectPayload locator leaseToken now =>
      refine hsame ?_
      change (s.collectPayload locator leaseToken now).puts = s.puts
      unfold State.collectPayload
      split
      · split <;> rfl
      · rfl
  | reserve reservation applicationId bytes =>
      refine hsame ?_
      change (s.reserve ⟨reservation, applicationId, bytes, false⟩).puts = s.puts
      unfold State.reserve
      split
      · rfl
      · split <;> rfl
  | releaseReservation =>
      refine hsame (elim_puts fun reservation => ?_)
      unfold State.releaseReservation
      split <;> rfl
  | createUploading =>
      refine hsame (elim_puts fun reservation => ?_)
      unfold State.createUploading
      split
      · split
        · split <;> rfl
        · rfl
      · rfl

/-- Soundness beside deletions of buckets. -/
structure HeldSound (s : State) : Prop where
  sound : Sound s
  held : ∀ worker ∈ s.puts, Held s.db worker

theorem HeldSound.step (h : HeldSound s) (e : Event) : HeldSound (s.step e) where
  sound := h.sound.step e
  held _ hworker := (nextWorker_step hworker).held h.held (h.sound.step_cases e).intents_kept

omit [Md5] in
theorem isVersioned_delete {buckets : Table S3Bucket} {bucketId other : BucketId}
    (h : IsVersioned buckets other) (hne : other ≠ bucketId) :
    IsVersioned (buckets.delete bucketId) other := by
  obtain ⟨bucket, hbucket, hid, hstatus⟩ := h
  exact ⟨bucket, Table.mem_delete.2 ⟨hbucket, fun hkey => hne (hid.symm.trans hkey)⟩, hid, hstatus⟩

omit [Md5] in
/-- A version's bucket has the row of its object, so it is another bucket. -/
theorem chain_delete {db : Database} {bucketId : BucketId}
    (h : Chain db.buckets db.objects db.objectVersions) (huntouched : Untouched db bucketId) :
    Chain (db.buckets.delete bucketId) db.objects db.objectVersions where
  owner := h.owner
  history := h.history
  current := h.current
  versioned version hversion hactive := by
    refine (h.versioned version hversion hactive).imp_right fun hversioned => ?_
    refine isVersioned_delete hversioned fun hbucket => ?_
    obtain ⟨object, hobject, -, -, hsame⟩ := h.owner version hversion
    exact huntouched.objects object hobject (hsame.trans hbucket)

omit [Md5] in
theorem phaseSound_delete {db : Database} {bucketId : BucketId} {worker : PutWorker}
    (h : PhaseSound db.buckets worker.request.intent worker.phase) (hheld : Held db worker)
    (huntouched : Untouched db bucketId) :
    PhaseSound (db.buckets.delete bucketId) worker.request.intent worker.phase := by
  have hother : worker.request.intent.bucketId ≠ bucketId := by
    obtain ⟨row, hrow, hfacts⟩ := hheld.intent
    have hbucket : row.bucketId = worker.request.intent.bucketId :=
      congrArg IntentFacts.bucketId hfacts
    exact hbucket ▸ huntouched.intents row hrow
  have hprepared := hheld.prepared
  generalize worker.phase = phase at h hprepared
  cases phase with
  | claimed => trivial
  | sawBucket bucket | sawObject bucket _ =>
      exact ⟨h.1, fun hstatus => isVersioned_delete (h.2 hstatus) (h.1 ▸ hother)⟩
  | prepared commit =>
      refine ⟨h.prepared, h.versioned.imp_right fun hversioned => ?_⟩
      exact isVersioned_delete hversioned ((hprepared commit rfl).symm ▸ hother)

omit [Md5] in
theorem HeldSound.deleteBucket (h : HeldSound s) (applicationId : ApplicationId) (name : String) :
    HeldSound (s.deleteBucket applicationId name) := by
  rw [State.deleteBucket]
  rcases Transaction.commit_cases (deleteS3Bucket applicationId name) s.db with
    ⟨deleted, hrun⟩ | hsame
  · rcases deleteS3Bucket_ok hrun with hsame | ⟨bucket, -, huntouched, hdeleted⟩
    · rw [hsame]
      exact h
    · rw [hdeleted]
      exact {
        sound := {
          chain := chain_delete h.sound.chain huntouched
          parts := ⟨h.sound.parts.intentKeys, h.sound.parts.versionKeys, h.sound.parts.rows,
            h.sound.parts.tasks⟩
          ids := ⟨h.sound.ids.proposed, h.sound.ids.versions⟩
          keys := h.sound.keys
          nonces := h.sound.nonces
          requests := fun request hrequest => ⟨(h.sound.requests request hrequest).unused,
            (h.sound.requests request hrequest).bound⟩
          workers := fun worker hworker =>
            phaseSound_delete (h.sound.workers worker hworker) (h.held worker hworker)
              huntouched }
        held := fun worker hworker =>
          ⟨(h.held worker hworker).intent, (h.held worker hworker).prepared⟩ }
  · rw [hsame]
    exact h

theorem HeldSound.of_reachable (h : bucketSystem.Reachable s) : HeldSound s := by
  refine h.invariant (fun s hinit => ?_) fun s e hs => ?_
  · refine ⟨.of_init hinit, fun worker hworker => ?_⟩
    rw [hinit.puts] at hworker
    exact absurd hworker (Table.not_mem_empty worker)
  · cases e with
    | server event => exact hs.step event
    | deleteBucket applicationId name => exact hs.deleteBucket applicationId name

/-- In every reachable state, a bucket is refused while it holds content and deleted once it holds
none exactly where it does hold content, or no row has ever named it. -/
theorem reachable_deletesWhenEmpty_iff (h : bucketSystem.Reachable s) {bucket : S3Bucket}
    (hfind : s.db.findBucketByName bucket.applicationId bucket.name = some bucket) :
    DeletesWhenEmpty s.db bucket ↔
      HoldsContent s.db bucket.id ∨ Untouched s.db bucket.id :=
  deletesWhenEmpty_iff hfind (HeldSound.of_reachable h).sound.chain.owner

end

/-- A key that is put and deleted again. -/
def emptiedKey : List Event :=
  [.call (.createBucket plainBucket)] ++ firstPut.run ++
    [.call (.deleteObject {
      applicationId := 1
      bucketId := 2
      objectKey := "key"
      versionId := none
      bypassGovernance := false
      deletedBy := "client"
      deletedAt := 2000
      deleteMarkerId := 30
      deleteMarkerVersionId := .uuid 30
      gcNotBefore := 2000
      gcMaxAttempts := 5 })]

theorem reachable_bucketRun [Md5] (events : List BucketEvent) :
    bucketSystem.Reachable (bucketSystem.run (State.installation 1 1000) events) :=
  .run (.of_init (isFresh_installation 1 (by decide))) events

def emptiedBucket : State :=
  (@bucketSystem noMd5).run (State.installation 1 1000) (emptiedKey.map .server)

theorem reachable_emptiedBucket : (@bucketSystem noMd5).Reachable emptiedBucket :=
  @reachable_bucketRun noMd5 (emptiedKey.map .server)

instance {db : Database} {bucketId : BucketId} : Decidable (HoldsContent db bucketId) :=
  inferInstanceAs (Decidable
    ((∃ version ∈ db.objectVersions.rows, version.bucketId = bucketId ∧ version.isActive) ∨
      (∃ media ∈ db.media.rows, media.bucketId = bucketId) ∨
      (∃ session ∈ db.uploadSessions.rows,
        session.bucketId = bucketId ∧ session.state = .pending) ∨
      ∃ upload ∈ db.multipartUploads.rows, upload.bucketId = bucketId ∧ upload.state.isOpen))

theorem findBucketByName_emptiedBucket :
    emptiedBucket.db.findBucketByName plainBucket.applicationId plainBucket.name =
      some (S3Bucket.persisted plainBucket) := by
  decide +kernel

def filledBucket : State :=
  (@bucketSystem noMd5).run (State.installation 1 1000)
    (([Event.call (.createBucket plainBucket)] ++ firstPut.run).map .server)

def newBucket : State :=
  (@bucketSystem noMd5).run (State.installation 1 1000)
    [.server (.call (.createBucket plainBucket))]

/-- A bucket with one object is refused, and a new one is deleted. -/
theorem reachable_deletesWhenEmpty_iff_filledBucket :
    (DeletesWhenEmpty filledBucket.db (S3Bucket.persisted plainBucket) ∧
      HoldsContent filledBucket.db 2) ∧
    DeletesWhenEmpty newBucket.db (S3Bucket.persisted plainBucket) ∧
      ¬ HoldsContent newBucket.db 2 := by
  have hfilled : HoldsContent filledBucket.db 2 := by decide +kernel
  have hnew : Untouched newBucket.db 2 := untouched_iff.2 (by decide +kernel)
  exact ⟨⟨(@reachable_deletesWhenEmpty_iff noMd5 filledBucket (@reachable_bucketRun noMd5 _)
      (S3Bucket.persisted plainBucket) (by decide +kernel)).2 (Or.inl hfilled), hfilled⟩,
    (@reachable_deletesWhenEmpty_iff noMd5 newBucket (@reachable_bucketRun noMd5 _)
      (S3Bucket.persisted plainBucket) (by decide +kernel)).2 (Or.inr hnew), by decide +kernel⟩

/-- The row of the key outlives its versions, so the bucket is refused although it is empty. -/
theorem not_deletesWhenEmpty_emptiedBucket :
    (@bucketSystem noMd5).Reachable emptiedBucket ∧
      emptiedBucket.db.findBucketByName plainBucket.applicationId plainBucket.name =
        some (S3Bucket.persisted plainBucket) ∧
      ¬ DeletesWhenEmpty emptiedBucket.db (S3Bucket.persisted plainBucket) := by
  refine ⟨reachable_emptiedBucket, findBucketByName_emptiedBucket, fun hdeletes => ?_⟩
  have hempty : ¬ HoldsContent emptiedBucket.db (S3Bucket.persisted plainBucket).id := by
    decide +kernel
  have hcontents : emptiedBucket.db.hasContents (S3Bucket.persisted plainBucket).id = true := by
    decide +kernel
  have hdeleted := hdeletes.2 hempty
  have hfind : emptiedBucket.db.findBucketByName (S3Bucket.persisted plainBucket).applicationId
      (S3Bucket.persisted plainBucket).name = some (S3Bucket.persisted plainBucket) :=
    findBucketByName_emptiedBucket
  rw [run_deleteS3Bucket hfind, if_pos hcontents] at hdeleted
  cases hdeleted

end MediaHub.Server

import MediaHub.Server.Licence

/-!
What holds of every reachable state of the server, whatever its workers do. With it every event
is a sequence of effects under its licence, or a bare step of the ledger.
-/

namespace MediaHub.Server

open Relational
open MediaHub.Core
open MediaHub.Store
open MediaHub.Service

/-- The nonce of a part key was handed out. -/
def IssuedKey (issued : List Uuid) : StorageKey → Prop
  | .part _ _ nonce => nonce ∈ issued
  | _ => True

/-- A request that still owns its payload is the only one to know its key. A request that knows
its upload remembers columns that never change. -/
structure RequestSound (db : Database) (request : PartRequest) : Prop where
  unused : (∀ upload, request.phase ≠ .rejected upload) → ¬ KeyInUse db request.storageKey
  bound : ∀ upload, request.phase = .bound upload ∨ request.phase = .rejected upload →
    upload.uploadId = request.uploadId ∧ UploadKnown db.multipartUploads (uploadFacts upload)

/-- What a worker read of its bucket may be old, but versioning never returns to where it
started. -/
def PhaseSound (buckets : Table S3Bucket) (intent : UploadIntent) : PutPhase → Prop
  | .claimed => True
  | .sawBucket bucket | .sawObject bucket _ =>
      bucket.id = intent.bucketId ∧
        (bucket.configuration.versioningStatus ≠ .unversioned → IsVersioned buckets bucket.id)
  | .prepared commit => CommitSound buckets commit

structure Sound (s : State) : Prop where
  chain : Chain s.db.buckets s.db.objects s.db.objectVersions
  parts : PartsSound s.db
  ids : IdsWithin (· ∈ s.issued) s.db
  keys : PartKeysWithin (IssuedKey s.issued) s.db
  nonces : ∀ request ∈ s.parts, request.nonce ∈ s.issued
  requests : ∀ request ∈ s.parts, RequestSound s.db request
  workers : ∀ worker ∈ s.puts, PhaseSound s.db.buckets worker.request.intent worker.phase

theorem PhaseSound.evolve {old new : Table S3Bucket} {intent : UploadIntent} {phase : PutPhase}
    (h : PhaseSound old intent phase) (hevolve : BucketsEvolve old new) :
    PhaseSound new intent phase := by
  cases phase with
  | claimed => trivial
  | sawBucket bucket | sawObject bucket _ =>
      exact ⟨h.1, fun hstatus => (h.2 hstatus).evolve hevolve⟩
  | prepared commit =>
      exact ⟨h.prepared, h.versioned.imp_right fun hversioned => hversioned.evolve hevolve⟩

theorem PhaseSound.of_find {db : Database} {intent : UploadIntent} {bucket : S3Bucket}
    (h : findBucketById db intent = .ok bucket) :
    bucket.id = intent.bucketId ∧ (bucket.configuration.versioningStatus ≠ .unversioned →
      IsVersioned db.buckets bucket.id) := by
  unfold findBucketById at h
  split at h
  · rename_i found hfind
    cases h
    obtain ⟨hmem, hid, -⟩ := Database.findBucket_eq_some_iff.1 hfind
    exact ⟨hid, fun hstatus => ⟨bucket, hmem, rfl, hstatus⟩⟩
  · cases h

/-- A commit built from an old bucket row is still sound. -/
theorem commitSound_of_prepared {buckets : Table S3Bucket}
    {request : PrepareClaimedUploadCommitRequest} {lock : NewS3ObjectLock} {bucket : S3Bucket}
    {existing : Option S3Object} {versions : List ObjectVersion} {stamp : PrepareStamp}
    {commit : S3ObjectVersionCommit} (hid : bucket.id = request.intent.bucketId)
    (hversioned : bucket.configuration.versioningStatus ≠ .unversioned →
      IsVersioned buckets bucket.id)
    (h : prepareClaimedUploadCommit request lock bucket existing versions stamp = .ok commit) :
    CommitSound buckets commit := by
  have hprepared := prepareClaimedUploadCommit_ok h
  refine ⟨hprepared.preparedCommit, ?_⟩
  rw [hprepared.isNullVersion_eq, hprepared.bucketId_eq, ← hid, decide_eq_true_eq]
  by_cases henabled : bucket.configuration.versioningStatus = .enabled
  · exact Or.inr (hversioned (by rw [henabled]; simp))
  · exact Or.inl henabled

section

variable [Md5] {licence : Licence} {db db' : Database}

theorem RequestSound.effects {request : PartRequest} (h : RequestSound db request)
    (hsound : PartsSound db) (heffects : Effects licence db db')
    (hstores : ¬ licence.stores request.storageKey)
    (hdrops : ¬ licence.drops request.storageKey) : RequestSound db' request where
  unused hphase := heffects.key_unused hsound hstores hdrops (h.unused hphase)
  bound upload hphase :=
    ⟨(h.bound upload hphase).1, heffects.uploadKnown (h.bound upload hphase).2⟩

/-- A step that leaves the database alone needs no licence. -/
theorem effects_none (db : Database) : Effects Licence.none db db :=
  .refl db

/-- Rows that a step keeps, and rows that are sound after it. -/
theorem Sound.of_effects {s s' : State} (h : Sound s) (heffects : Effects licence s.db s'.db)
    (hissued : ∀ id ∈ s.issued, id ∈ s'.issued) (hmints : ∀ id, licence.mints id → id ∈ s'.issued)
    (hstores : ∀ key, licence.stores key → IssuedKey s'.issued key)
    (hdrops : ∀ key, licence.drops key → IssuedKey s'.issued key)
    (hparts : ∀ request ∈ s'.parts, (request ∈ s.parts ∧
      ¬ licence.stores request.storageKey ∧ ¬ licence.drops request.storageKey) ∨
      (request.nonce ∈ s'.issued ∧ RequestSound s'.db request))
    (hputs : ∀ worker ∈ s'.puts, worker ∈ s.puts ∨
      PhaseSound s'.db.buckets worker.request.intent worker.phase) : Sound s' where
  chain := heffects.chain h.chain
  parts := heffects.partsSound h.parts
  ids := heffects.idsWithin hmints
    ⟨fun intent hintent => hissued _ (h.ids.proposed intent hintent),
      fun version hversion => hissued _ (h.ids.versions version hversion)⟩
  keys := heffects.partKeysWithin h.parts hstores hdrops
    fun uploadId partNumber nonce huse => hissued _ (h.keys uploadId partNumber nonce huse)
  nonces request hrequest := by
    rcases hparts request hrequest with ⟨hold, -⟩ | ⟨hnonce, -⟩
    · exact hissued _ (h.nonces request hold)
    · exact hnonce
  requests request hrequest := by
    rcases hparts request hrequest with ⟨hold, hunstored, hundropped⟩ | ⟨-, hsound⟩
    · exact (h.requests request hold).effects h.parts heffects hunstored hundropped
    · exact hsound
  workers worker hworker := by
    rcases hputs worker hworker with hold | hsound
    · exact (h.workers worker hold).evolve heffects.bucketsEvolve
    · exact hsound

/-- A worker moves on; the database stays. -/
theorem Sound.enterPut {s : State} (h : Sound s) {worker : PutWorker}
    (hworker : s.puts.find? worker.id = some worker) {phase : PutPhase}
    (hphase : PhaseSound s.db.buckets worker.request.intent phase) :
    Sound (s.enterPut worker.id phase) := by
  refine h.of_effects (effects_none _) (fun _ hid => hid)
    (fun _ hid => hid.elim) (fun _ hkey => hkey.elim) (fun _ hkey => hkey.elim)
    (fun request hrequest => Or.inl ⟨hrequest, id, id⟩) fun row hrow => ?_
  rcases Table.mem_update.1 hrow with ⟨hold, -⟩ | ⟨old, hold, hid, rfl⟩
  · exact Or.inl hold
  · have heq : old = worker :=
      Table.eq_of_key hold (Table.mem_of_find? hworker) hid
    subst heq
    exact Or.inr hphase

/-- A worker that stops leaves what its transaction did. -/
theorem Sound.stopPut {s : State} (h : Sound s) (worker : Uuid) {db : Database}
    (heffects : Effects licence s.db db) (hmints : ∀ id, ¬ licence.mints id)
    (hstores : ∀ key, ¬ licence.stores key) (hdrops : ∀ key, ¬ licence.drops key) :
    Sound ((s.stopPut worker).withDb db) :=
  h.of_effects heffects (fun _ hid => hid) (fun id hid => absurd hid (hmints id))
    (fun key hkey => absurd hkey (hstores key)) (fun key hkey => absurd hkey (hdrops key))
    (fun _ hrequest => Or.inl ⟨hrequest, hstores _, hdrops _⟩)
    fun _ hrow => Or.inl (Table.mem_delete.1 hrow).1

/-- A request moves on or ends after its transaction; the others know nothing of its key. -/
theorem Sound.part {s s' : State} (h : Sound s) {request : PartRequest}
    (hrequest : request ∈ s.parts) (heffects : Effects licence s.db s'.db)
    (hissued : s'.issued = s.issued) (hputs : s'.puts = s.puts)
    (hmints : ∀ id, ¬ licence.mints id)
    (hstores : ∀ key, licence.stores key → key = request.storageKey)
    (hdrops : ∀ key, licence.drops key → key = request.storageKey)
    (hparts : ∀ row ∈ s'.parts, row.nonce ≠ request.nonce ∧ row ∈ s.parts ∨
      row.nonce = request.nonce ∧ RequestSound s'.db row) : Sound s' := by
  have hkey : IssuedKey s.issued request.storageKey := h.nonces request hrequest
  refine h.of_effects heffects (fun id hid => hissued ▸ hid) (fun id hid => absurd hid (hmints id))
    (fun key hstored => ?_) (fun key hdropped => ?_) (fun row hrow => ?_)
    fun worker hworker => Or.inl (hputs ▸ hworker)
  · rw [hstores key hstored, hissued]
    exact hkey
  · rw [hdrops key hdropped, hissued]
    exact hkey
  · rcases hparts row hrow with ⟨hne, hold⟩ | ⟨hid, hsound⟩
    · have hkeyNe : row.storageKey ≠ request.storageKey := by
        intro heq
        injection heq with _ _ hnonce
        exact hne hnonce
      exact Or.inl ⟨hold, fun hstored => hkeyNe (hstores _ hstored),
        fun hdropped => hkeyNe (hdrops _ hdropped)⟩
    · rw [hid, hissued]
      exact Or.inr ⟨h.nonces request hrequest, hsound⟩

omit [Md5] in
/-- The ledger, media and bare reservations are not part of soundness. -/
theorem Sound.bareStep {s s' : State} {e : Event} (h : Sound s) (hstep : BareStep s e s') :
    Sound s' := by
  obtain ⟨applications, media, reservations, rfl⟩ := hstep.frame
  exact ⟨h.chain, ⟨h.parts.intentKeys, h.parts.versionKeys, h.parts.rows, h.parts.tasks⟩,
    ⟨h.ids.proposed, h.ids.versions⟩, h.keys, h.nonces,
    fun request hrequest => ⟨(h.requests request hrequest).unused,
      (h.requests request hrequest).bound⟩, h.workers⟩

omit [Md5] in
/-- Ids that were never handed out name nothing. -/
theorem Sound.mintsFresh {s : State} (h : Sound s) {ids : List Uuid}
    (hfresh : s.unissued ids = true) : MintsFresh s.db ids where
  unproposed id hid intent hintent heq :=
    unissued_iff.1 hfresh id hid (heq ▸ h.ids.proposed intent hintent)
  unversioned id hid := by
    refine Table.find?_eq_none_iff.2 fun version hversion heq => ?_
    exact unissued_iff.1 hfresh id hid (heq ▸ h.ids.versions version hversion)

theorem Sound.call {s : State} (h : Sound s) (command : Command) : Sound (s.call command) := by
  unfold State.call
  split
  · rename_i hfresh
    exact h.of_effects (command.effects h.chain (h.mintsFresh hfresh))
      (fun id hid => List.mem_append_right _ hid)
      (fun id hid => List.mem_append_left _ (Command.licence_mints hid))
      (fun key hkey => absurd hkey Command.licence_stores)
      (fun key hkey => absurd hkey Command.licence_drops)
      (fun request hrequest => Or.inl ⟨hrequest, Command.licence_stores, Command.licence_drops⟩)
      fun worker hworker => Or.inl hworker
  · exact h

theorem Sound.claim {s : State} (h : Sound s) (worker : Uuid) (claim : PutClaim) :
    Sound (s.claim worker claim) := by
  unfold State.claim
  split
  · exact h
  · rename_i intent db hrun
    have heffects : Effects Licence.none s.db _ := claim_effects hrun
    refine h.of_effects heffects (fun _ hid => hid)
      (fun _ hid => hid.elim) (fun _ hkey => hkey.elim) (fun _ hkey => hkey.elim)
      (fun request hrequest => Or.inl ⟨hrequest, id, id⟩) fun row hrow => ?_
    rcases Table.mem_or_eq_of_mem_insert hrow with rfl | hold
    · exact Or.inr trivial
    · exact Or.inl hold

theorem Sound.readBucket {s : State} (h : Sound s) {worker : PutWorker}
    (hworker : s.puts.find? worker.id = some worker) : Sound (s.readBucket worker) := by
  unfold State.readBucket
  split
  · rename_i bucket _ hbucket
    exact h.enterPut hworker (.of_find hbucket)
  · exact h.stopPut worker.id (effects_none _) (fun _ => id) (fun _ => id)
      fun _ => id
  · exact h

theorem Sound.readObject {s : State} (h : Sound s) {worker : PutWorker}
    (hworker : s.puts.find? worker.id = some worker) : Sound (s.readObject worker) := by
  have hold := h.workers worker (Table.mem_of_find? hworker)
  unfold State.readObject
  split
  · rename_i hphase
    rw [hphase] at hold
    exact h.enterPut hworker hold
  · exact h

theorem Sound.prepare {s : State} (h : Sound s) {worker : PutWorker}
    (hworker : s.puts.find? worker.id = some worker) (stamp : PrepareStamp) :
    Sound (s.prepare worker stamp) := by
  have hold := h.workers worker (Table.mem_of_find? hworker)
  unfold State.prepare
  split
  · rename_i hphase
    rw [hphase] at hold
    split
    · rename_i hprepared
      exact h.enterPut hworker (commitSound_of_prepared hold.1 hold.2 hprepared)
    · exact h.stopPut worker.id (effects_none _) (fun _ => id) (fun _ => id)
        fun _ => id
  · exact h

end

end MediaHub.Server

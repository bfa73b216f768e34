import MediaHub.Server.KeptVersions

namespace MediaHub.Server

open Relational
open MediaHub.Core
open MediaHub.Store

/-- A payload in the object store is a part; a row or the queue names it, or a request holds
it. -/
def PayloadsKnown (s : State) : Prop :=
  ∀ key ∈ s.payloads, (∃ uploadId partNumber nonce, key = .part uploadId partNumber nonce) ∧
    (KeyInUse s.db key ∨ ∃ request ∈ s.parts, request.storageKey = key)

/-- The payloads and the requests that a step keeps, moves or lets go. -/
theorem PayloadsKnown.step {s s' : State} (h : PayloadsKnown s)
    (hkeys : ∀ key, KeyInUse s.db key → KeyInUse s'.db key)
    (hpayloads : ∀ key ∈ s'.payloads, key ∈ s.payloads ∨
      ∃ request ∈ s'.parts, request.storageKey = key)
    (hparts : ∀ request ∈ s.parts, request.storageKey ∈ s'.payloads →
      KeyInUse s'.db request.storageKey ∨
      ∃ row ∈ s'.parts, row.storageKey = request.storageKey) : PayloadsKnown s' := by
  intro key hkey
  rcases hpayloads key hkey with hold | ⟨request, hrequest, rfl⟩
  · obtain ⟨hpart, hknown⟩ := h key hold
    refine ⟨hpart, ?_⟩
    rcases hknown with huse | ⟨request, hrequest, rfl⟩
    · exact Or.inl (hkeys key huse)
    · exact hparts request hrequest hkey
  · exact ⟨⟨_, _, _, rfl⟩, Or.inr ⟨request, hrequest, rfl⟩⟩

section

variable [Md5] {s : State}

theorem StepCases.keyInUse {s' : State} {e : Event} {licence : Licence}
    (h : StepCases s e s' licence)
    {key : StorageKey} (huse : KeyInUse s.db key) : KeyInUse s'.db key := by
  cases h with
  | effects heffects => exact heffects.keyInUse huse
  | bare hbare =>
      obtain ⟨applications, media, reservations, rfl⟩ := hbare.frame
      exact huse

omit [Md5] in
/-- After a request has moved on, every request is still there under its key. -/
theorem enterPart_parts {nonce : Uuid} {phase : PartPhase} {request : PartRequest}
    (hrequest : request ∈ s.parts) :
    ∃ row ∈ (s.enterPart nonce phase).parts, row.storageKey = request.storageKey := by
  by_cases hid : request.nonce = nonce
  · exact ⟨_, Table.mem_update.2 (Or.inr ⟨request, hrequest, hid, rfl⟩), rfl⟩
  · exact ⟨request, Table.mem_update.2 (Or.inl ⟨hrequest, hid⟩), rfl⟩

omit [Md5] in
/-- After a request has ended, the others are still there. -/
theorem endPart_parts {ended request : PartRequest} (hended : ended ∈ s.parts)
    (hrequest : request ∈ s.parts) :
    request = ended ∨ ∃ row ∈ (s.endPart ended.nonce).parts,
      row.storageKey = request.storageKey := by
  by_cases hid : request.nonce = ended.nonce
  · exact Or.inl (Table.eq_of_key hrequest hended hid)
  · exact Or.inr ⟨request, Table.mem_delete.2 ⟨hrequest, hid⟩, rfl⟩

omit [Md5] in
/-- A part that is queued is queued, whether its task was admitted or there was one before. -/
theorem queuePart_keyInUse {request : PartRequest} {upload : S3MultipartUpload} {now : Time} :
    KeyInUse ((enqueueStorageGcTask
      (multipartGcTask upload none request.storageKey now)).commit s.db) request.storageKey := by
  let task := multipartGcTask upload none request.storageKey now
  rcases Transaction.commit_cases (enqueueStorageGcTask task) s.db with ⟨u, hrun⟩ | hidle
  · obtain ⟨⟨-, -, hadmits⟩, hdb⟩ := insertStorageGcTask_ok.1 (enqueueStorageGcTask_ok.1 hrun)
    refine Or.inr ⟨task.locator.backend, task.provenance, ?_⟩
    change queuedOwner ((enqueueStorageGcTask task).commit s.db).storageGcTasks task.locator = _
    rw [hdb]
    exact queuedOwner_insert_self hadmits
  · change KeyInUse ((enqueueStorageGcTask task).commit s.db) _
    rw [hidle]
    cases howner : queuedOwner s.db.storageGcTasks task.locator with
    | some owner => exact Or.inr ⟨task.locator.backend, owner, howner⟩
    | none =>
        -- nothing refuses the task, so the transaction does not leave the database as it is
        have hadmits : Admits s.db.storageGcTasks task.locator task.provenance := by
          intro owner hsome
          rw [howner] at hsome
          cases hsome
        have hrun : (enqueueStorageGcTask task).run s.db =
            .ok ((), s.db.mapStorageGcTasks (·.insert (StorageGcTask.ofNew task))) :=
          enqueueStorageGcTask_ok.2 (insertStorageGcTask_ok.2
            ⟨⟨rfl, show defaultS3MultipartGcMaxAttempts ≤ maxI32 by decide, hadmits⟩, rfl⟩)
        have hqueued := Transaction.commit_of_ok hrun
        have hself := queuedOwner_insert_self hadmits
        rw [hidle] at hqueued
        have htasks := congrArg Database.storageGcTasks hqueued
        simp only [Database.mapStorageGcTasks] at htasks
        rw [← htasks, howner] at hself
        cases hself

omit [Md5] in
/-- Most events touch neither payloads nor part requests. -/
def KeepsParts (s s' : State) : Prop := s'.payloads = s.payloads ∧ s'.parts = s.parts

omit [Md5] in
theorem PayloadsKnown.of_keepsParts {s' : State} (h : PayloadsKnown s)
    (hkeys : ∀ key, KeyInUse s.db key → KeyInUse s'.db key) (hkeeps : KeepsParts s s') :
    PayloadsKnown s' :=
  h.step hkeys (fun _ hkey => Or.inl (hkeeps.1 ▸ hkey))
    fun request hrequest _ => Or.inr ⟨request, hkeeps.2 ▸ hrequest, rfl⟩

omit [Md5] in
/-- A request that moves on keeps its payload. -/
theorem PayloadsKnown.enterPart (h : PayloadsKnown s) {nonce : Uuid} {phase : PartPhase}
    {db : Database} (hkeys : ∀ key, KeyInUse s.db key → KeyInUse db key) :
    PayloadsKnown ((s.enterPart nonce phase).withDb db) :=
  h.step hkeys (fun _ => Or.inl) fun _ hrequest _ => Or.inr (enterPart_parts hrequest)

omit [Md5] in
/-- A request may end once its payload is in use. -/
theorem PayloadsKnown.endPart (h : PayloadsKnown s) {request : PartRequest}
    (hrequest : request ∈ s.parts) {db : Database}
    (hkeys : ∀ key, KeyInUse s.db key → KeyInUse db key)
    (huse : KeyInUse db request.storageKey) :
    PayloadsKnown ((s.endPart request.nonce).withDb db) := by
  refine h.step hkeys (fun _ => Or.inl) fun row hrow _ => ?_
  rcases endPart_parts hrequest hrow with rfl | hkept
  · exact Or.inl huse
  · exact Or.inr hkept

omit [Md5] in
theorem PayloadsKnown.stage (h : PayloadsKnown s) (hsound : Sound s) (request : PartRequest) :
    PayloadsKnown (s.stage request) := by
  unfold State.stage
  split
  · rename_i hissued
    have hfresh : s.parts.find? request.nonce = none := by
      refine Table.find?_eq_none_iff.2 fun row hrow hnonce => ?_
      refine unissued_iff.1 hissued _ List.mem_cons_self ?_
      exact hnonce ▸ hsound.nonces row hrow
    refine h.step (fun _ => id) (fun key hkey => ?_) fun row hrow _ =>
      Or.inr ⟨row, Table.mem_insert_of_mem hrow, rfl⟩
    rcases List.mem_cons.1 hkey with rfl | hold
    · exact Or.inr ⟨request, (Table.mem_insert hfresh).2 (Or.inl rfl), rfl⟩
    · exact Or.inl hold
  · exact h

omit [Md5] in
theorem PayloadsKnown.discardPart (h : PayloadsKnown s) {request : PartRequest}
    (hrequest : request ∈ s.parts) : PayloadsKnown (s.discardPart request) := by
  refine h.step (fun _ => id) (fun key hkey => Or.inl (List.mem_filter.1 hkey).1)
    fun row hrow hkey => ?_
  rcases endPart_parts hrequest hrow with rfl | hkept
  · exact absurd rfl (of_decide_eq_true (List.mem_filter.1 hkey).2)
  · exact Or.inr hkept

/-- The events of part requests and of the collector. -/
def Event.movesParts : Event → Bool
  | .stagePart _ _ _ | .stagePartCopy _ _ _ | .bindPart _ | .discardPart _ | .rejectPart _
  | .putPart _ _ _ | .queuePart _ _ | .collectPayload _ _ _ => true
  | _ => false

theorem keepsParts_step (s : State) {e : Event} (h : e.movesParts = false) :
    KeepsParts s (s.step e) := by
  cases e with
  | call command =>
      change KeepsParts s (s.call command)
      unfold State.call
      split <;> exact ⟨rfl, rfl⟩
  | claim worker claim =>
      change KeepsParts s (s.claim worker claim)
      unfold State.claim
      split <;> exact ⟨rfl, rfl⟩
  | readBucket =>
      refine elim_find (P := KeepsParts s) ⟨rfl, rfl⟩ fun worker _ _ => ?_
      unfold State.readBucket
      split <;> exact ⟨rfl, rfl⟩
  | readObject =>
      refine elim_find (P := KeepsParts s) ⟨rfl, rfl⟩ fun worker _ _ => ?_
      unfold State.readObject
      split <;> exact ⟨rfl, rfl⟩
  | prepare =>
      refine elim_find (P := KeepsParts s) ⟨rfl, rfl⟩ fun worker _ _ => ?_
      unfold State.prepare
      split
      · split <;> exact ⟨rfl, rfl⟩
      · exact ⟨rfl, rfl⟩
  | commitPut =>
      refine elim_find (P := KeepsParts s) ⟨rfl, rfl⟩ fun worker _ _ => ?_
      unfold State.commitPut
      split <;> exact ⟨rfl, rfl⟩
  | commitMultipart =>
      refine elim_find (P := KeepsParts s) ⟨rfl, rfl⟩ fun worker _ _ => ?_
      unfold State.commitMultipart
      split <;> exact ⟨rfl, rfl⟩
  | crash => exact ⟨rfl, rfl⟩
  | reserve reservation applicationId bytes =>
      change KeepsParts s (s.reserve ⟨reservation, applicationId, bytes, false⟩)
      unfold State.reserve
      split
      · exact ⟨rfl, rfl⟩
      · split <;> exact ⟨rfl, rfl⟩
  | releaseReservation =>
      refine elim_find (P := KeepsParts s) ⟨rfl, rfl⟩ fun reservation _ _ => ?_
      unfold State.releaseReservation
      split <;> exact ⟨rfl, rfl⟩
  | createUploading =>
      refine elim_find (P := KeepsParts s) ⟨rfl, rfl⟩ fun reservation _ _ => ?_
      unfold State.createUploading
      split
      · split
        · split <;> exact ⟨rfl, rfl⟩
        · exact ⟨rfl, rfl⟩
      · exact ⟨rfl, rfl⟩
  | _ => cases h

theorem Sound.payloadsKnown (h : Sound s) (hknown : PayloadsKnown s) (e : Event) :
    PayloadsKnown (s.step e) := by
  have hkeys : ∀ key, KeyInUse s.db key → KeyInUse (s.step e).db key :=
    fun key huse => (h.step_cases e).keyInUse huse
  cases e with
  | stagePart => exact hknown.stage h _
  | stagePartCopy nonce uploadId partNumber =>
      change PayloadsKnown (s.stagePartCopy nonce uploadId partNumber)
      unfold State.stagePartCopy
      split
      · exact hknown.stage h _
      · exact hknown
  | bindPart =>
      refine elim_find hknown fun request hrequest _ => ?_
      unfold State.bindPart
      split
      · exact hknown.enterPart fun _ (huse : KeyInUse s.db _) => huse
      · exact hknown.discardPart hrequest
      · exact hknown
  | discardPart =>
      refine elim_find hknown fun request hrequest _ => ?_
      split
      · exact hknown.discardPart hrequest
      · exact hknown
  | rejectPart =>
      refine elim_find hknown fun request hrequest _ => ?_
      unfold State.rejectPart
      split
      · exact hknown.enterPart fun _ (huse : KeyInUse s.db _) => huse
      · exact hknown
  | putPart _ facts replyLost =>
      refine elim_find hknown fun request hrequest _ => ?_
      unfold State.putPart
      split
      · rename_i upload hphase
        have hput : ∀ {outcome : S3MultipartPartPut} {db : Database},
            (putMultipartPart request.uploadId (facts.part request) facts.maximumUploadSize
              facts.now).run s.db = .ok (outcome, db) →
            ∀ key, KeyInUse s.db key → KeyInUse db key :=
          fun hrun key huse => (h.putPart_run hrequest hphase hrun).keyInUse huse
        split
        · rename_i hrun
          split
          · exact hknown.enterPart (hput hrun)
          · obtain ⟨row, hrow, hkey⟩ := putMultipartPart_stored hrun
            exact hknown.endPart hrequest (hput hrun) (Or.inl ⟨row, hrow, hkey⟩)
        · rename_i hrun
          exact hknown.enterPart (hput hrun)
        · exact hknown.enterPart fun _ (huse : KeyInUse s.db _) => huse
      · exact hknown
  | queuePart _ now =>
      refine elim_find hknown fun request hrequest _ => ?_
      have hqueue := fun key (huse : KeyInUse s.db key) =>
        (h.queuePart_effects hrequest now).keyInUse huse
      unfold State.queuePart at hqueue ⊢
      split at hqueue
      · exact hknown.endPart hrequest hqueue queuePart_keyInUse
      · exact hknown
  | collectPayload locator leaseToken now =>
      change PayloadsKnown (s.collectPayload locator leaseToken now)
      unfold State.collectPayload
      split
      · split
        · exact hknown.step (fun _ => id) (fun key hkey => Or.inl (List.mem_filter.1 hkey).1)
            fun request hrequest _ => Or.inr ⟨request, hrequest, rfl⟩
        · exact hknown
      · exact hknown
  | _ => exact hknown.of_keepsParts hkeys (keepsParts_step s rfl)

/-- A request that queues its part queues none that a row of an open upload names. -/
def QueuesUnnamed (s : State) : Event → Prop
  | .queuePart nonce _ => ∀ request ∈ s.parts.find? nonce, ∀ part ∈ s.db.multipartParts,
      part.storageKey = request.storageKey → ∀ upload ∈ s.db.multipartUploads,
        upload.uploadId = part.uploadId → upload.state.isOpen = false
  | _ => True

omit [Md5] in
theorem dropsClosed_of_queuesUnnamed {e : Event} (h : QueuesUnnamed s e) :
    DropsClosed (s.licence e) s.db := by
  intro key hkey
  cases e with
  | call command => exact absurd hkey Command.licence_drops
  | commitPut worker =>
      obtain ⟨row, -, -, hrow⟩ :=
        licence_of_row (P := fun licence => licence.drops key) id hkey
      exact absurd hrow workerLicence_drops
  | commitMultipart worker uploadId =>
      obtain ⟨row, -, -, hrow⟩ :=
        licence_of_row (P := fun licence => licence.drops key) id hkey
      exact absurd hrow workerLicence_drops
  | putPart nonce =>
      obtain ⟨row, -, -, hrow⟩ :=
        licence_of_row (P := fun licence => licence.drops key) id hkey
      exact hrow.elim
  | queuePart nonce now =>
      change ((s.parts.find? nonce).elim Licence.none dropsPart).drops key at hkey
      change ¬ ((s.parts.find? nonce).elim Licence.none dropsPart).stores key ∧ _
      cases hfind : s.parts.find? nonce with
      | none =>
          rw [hfind] at hkey
          exact hkey.elim
      | some request =>
          rw [hfind] at hkey
          refine ⟨id, fun part hpart hpartKey => h request hfind part hpart ?_⟩
          exact hpartKey.trans hkey
  | _ => exact hkey.elim

theorem Sound.partsKept (h : Sound s) (hkept : PartsKept s.db) {e : Event}
    (hguard : QueuesUnnamed s e) : PartsKept (s.step e).db := by
  cases h.step_cases e with
  | effects heffects =>
      exact heffects.partsKept h.parts (dropsClosed_of_queuesUnnamed hguard) hkept
  | bare hbare =>
      obtain ⟨applications, media, reservations, hstep⟩ := hbare.frame
      rw [hstep]
      exact hkept

/-- No cleanup task names a part of an open upload, and every staged payload that no part row
names is held by a running request or named by exactly one task. -/
def PartsSafe (s : State) : Prop :=
  (∀ part ∈ s.db.multipartParts, ∀ upload ∈ s.db.multipartUploads,
    upload.uploadId = part.uploadId → upload.state.isOpen →
      ∀ task ∈ s.db.storageGcTasks, task.task.locator.key ≠ part.storageKey) ∧
  ∀ key ∈ s.payloads, (∀ part ∈ s.db.multipartParts, part.storageKey ≠ key) →
    (∃ request ∈ s.parts, request.storageKey = key) ∨
    ∃ task ∈ s.db.storageGcTasks, task.task.locator.key = key ∧
      ∀ other ∈ s.db.storageGcTasks, other.task.locator.key = key → other = task

omit [Md5] in
theorem partsSafe_of (h : Sound s) (hknown : PayloadsKnown s) (hkept : PartsKept s.db) :
    PartsSafe s := by
  refine ⟨fun part hpart upload hupload hid hopen task htask hkey => ?_,
    fun key hkey hunnamed => ?_⟩
  · have hunqueued := hkept part hpart upload hupload hid hopen task.task.locator.backend
    rw [← hkey] at hunqueued
    exact queuedOwner_eq_none_iff.1 hunqueued task htask rfl
  · obtain ⟨⟨uploadId, partNumber, nonce, hrendered⟩, huse | hheld⟩ := hknown key hkey
    · rcases huse with ⟨part, hpart, hpartKey⟩ | ⟨backend, owner, howner⟩
      · exact absurd hpartKey (hunnamed part hpart)
      · obtain ⟨task, hfind, -⟩ := Option.map_eq_some_iff.1 howner
        obtain ⟨htask, hlocator⟩ := Table.find?_eq_some_iff.1 hfind
        have htaskLocator : task.task.locator = ⟨backend, key⟩ := hlocator
        refine Or.inr ⟨task, htask, by rw [htaskLocator], fun other hother hotherKey => ?_⟩
        -- every task of a part names the backend of its upload
        have hbackend : ∀ row ∈ s.db.storageGcTasks, row.task.locator.key = key →
            ∃ upload ∈ s.db.multipartUploads, upload.uploadId = uploadId ∧
              row.task.locator.backend = upload.storageBackend := by
          intro row hrow hrowKey
          have hrowOwner : queuedOwner s.db.storageGcTasks row.task.locator =
              some row.task.provenance := by
            rw [queuedOwner, show s.db.storageGcTasks.find? row.task.locator = some row from
              Table.find?_of_mem hrow]
            rfl
          obtain ⟨upload, hupload, hid, hrowBackend, -⟩ := h.parts.tasks _ _ hrowOwner
            uploadId partNumber nonce (hrowKey.trans hrendered)
          exact ⟨upload, hupload, hid, hrowBackend⟩
        obtain ⟨upload, hupload, hid, htaskBackend⟩ := hbackend task htask (by rw [htaskLocator])
        obtain ⟨upload', hupload', hid', hotherBackend⟩ := hbackend other hother hotherKey
        have heq : upload' = upload := Table.eq_of_key hupload' hupload (hid'.trans hid.symm)
        subst heq
        refine Table.eq_of_key hother htask ?_
        change other.task.locator = task.task.locator
        rw [htaskLocator, ← hotherKey, ← show task.task.locator.backend = backend by
          rw [htaskLocator], htaskBackend, ← hotherBackend]
    · exact Or.inl hheld

/-- In every run in which no request queues a part that a row of an open upload names, parts are
safe in the state that is reached. -/
theorem partsSafe_of_run (s : State) (events : List Event) (hinit : IsFresh s)
    (h : system.Along QueuesUnnamed s events) : PartsSafe (system.run s events) := by
  have hempty : s.payloads = [] ∧ s.db.multipartParts = ∅ := by
    refine ⟨hinit.payloads, ?_⟩
    rw [hinit.tables]
    rfl
  have hall := Transition.System.run_invariant_along
    (P := fun s => Sound s ∧ PayloadsKnown s ∧ PartsKept s.db)
    (fun s e hs hguard => ⟨hs.1.step e, hs.1.payloadsKnown hs.2.1 e, hs.1.partsKept hs.2.2 hguard⟩)
    ⟨Sound.of_init hinit, fun key hkey => by simp [hempty.1] at hkey,
      fun part hpart => absurd hpart (by rw [hempty.2]; exact Table.not_mem_empty part)⟩ h
  exact partsSafe_of hall.1 hall.2.1 hall.2.2

/-- The server hears what the database answers to a request that puts its part. -/
def RepliesHeard : Event → Prop
  | .putPart _ _ replyLost => replyLost = false
  | _ => True

theorem StepCases.part_cases {s' : State} {e : Event} {licence : Licence}
    (h : StepCases s e s' licence) {part : S3MultipartPart} (hpart : part ∈ s'.db.multipartParts) :
    part ∈ s.db.multipartParts ∨ licence.stores part.storageKey := by
  cases h with
  | effects heffects => exact heffects.part_cases hpart
  | bare hbare =>
      obtain ⟨applications, media, reservations, rfl⟩ := hbare.frame
      exact Or.inl hpart

omit [Md5] in
theorem licence_stores {e : Event} {key : StorageKey} (h : (s.licence e).stores key) :
    ∃ nonce facts replyLost, e = .putPart nonce facts replyLost ∧
      ∃ request ∈ s.parts, request.nonce = nonce ∧ key = request.storageKey := by
  cases e with
  | call command => exact absurd h Command.licence_stores
  | commitPut worker =>
      obtain ⟨_, -, -, hrow⟩ := licence_of_row (P := fun licence => licence.stores key) id h
      exact absurd hrow workerLicence_stores
  | commitMultipart worker uploadId =>
      obtain ⟨_, -, -, hrow⟩ := licence_of_row (P := fun licence => licence.stores key) id h
      exact absurd hrow workerLicence_stores
  | putPart nonce facts replyLost =>
      obtain ⟨request, hrequest, hnonce, hkey⟩ :=
        licence_of_row (P := fun licence => licence.stores key) id h
      exact ⟨nonce, facts, replyLost, rfl, request, hrequest, hnonce, hkey⟩
  | queuePart nonce =>
      obtain ⟨_, -, -, hrow⟩ := licence_of_row (P := fun licence => licence.stores key) id h
      exact hrow.elim
  | _ => exact h.elim

/-- A part that was not stored has no new row. -/
theorem putMultipartPart_unstored {uploadId : MultipartUploadId} {part : NewS3MultipartPart}
    {maximumUploadSize : Nat} {now : Time} {outcome : S3MultipartPartPut}
    {db db' : Database}
    (h : (putMultipartPart uploadId part maximumUploadSize now).run db = .ok (outcome, db'))
    (hunstored : ∀ stored, outcome ≠ .stored stored) {row : S3MultipartPart}
    (hrow : row ∈ db'.multipartParts) : row ∈ db.multipartParts := by
  simp only [putMultipartPart, validateNewPart, asI64, Transaction.run_bind_ok,
    Transaction.run_require_ok, lockUpload_ok, Transaction.run_ite_ok, Transaction.run_query_ok,
    Transaction.run_pure_ok] at h
  obtain ⟨_, _, ⟨_, _, ⟨-, rfl⟩, _, _, ⟨-, rfl⟩, -, rfl⟩, _, _, ⟨-, rfl⟩, upload, _,
    ⟨⟨hupload, rfl⟩, rfl⟩, h⟩ := h
  rcases h with ⟨-, -, rfl⟩ | ⟨-, ⟨-, _, _, habort, _, _, ⟨-, rfl⟩, -, rfl⟩ | ⟨-, h⟩⟩
  · exact hrow
  · have heffects : Effects Licence.none _ _ := abortUploadAndEnqueueCleanup_effects hupload habort
    exact (Effects.part_cases heffects hrow).resolve_right id
  · obtain ⟨previous, _, -, _, _, -, _, _, -, _, _, -, _, _, -, h⟩ := h
    cases previous with
    | none =>
        simp only [Transaction.run_bind_ok, Transaction.run_pure_ok] at h
        obtain ⟨_, _, -, rfl, -⟩ := h
        exact absurd rfl (hunstored _)
    | some previous =>
        simp only [Transaction.run_bind_ok, Transaction.run_ite_ok, Transaction.run_pure_ok] at h
        rcases h with ⟨-, _, _, -, _, _, -, rfl, -⟩ | ⟨-, _, _, -, rfl, -⟩ <;>
          exact absurd rfl (hunstored _)

/-- A request was there before under its key, and no new part row has this key. -/
def HeldBefore (s : State) (db : Database) (row : PartRequest) : Prop :=
  (∃ request ∈ s.parts, request.storageKey = row.storageKey) ∧
    ∀ part ∈ db.multipartParts, part.storageKey = row.storageKey → part ∈ s.db.multipartParts

omit [Md5] in
theorem HeldBefore.of_subset {db : Database} {request row : PartRequest}
    (hrequest : request ∈ s.parts) (hkey : request.storageKey = row.storageKey)
    (hparts : ∀ part ∈ db.multipartParts, part ∈ s.db.multipartParts) : HeldBefore s db row :=
  ⟨⟨request, hrequest, hkey⟩, fun part hpart _ => hparts part hpart⟩

/-- A request that puts its part stores nothing under the key of another. -/
theorem HeldBefore.of_ne {db : Database} {request row : PartRequest} (hrow : row ∈ s.parts)
    (hne : row.nonce ≠ request.nonce) (heffects : Effects (storesPart request) s.db db) :
    HeldBefore s db row := by
  refine ⟨⟨row, hrow, rfl⟩, fun part hpart hkey => (heffects.part_cases hpart).resolve_right ?_⟩
  intro hstored
  have hsame : row.storageKey = request.storageKey := hkey.symm.trans hstored
  injection hsame with _ _ hnonce
  exact hne hnonce

/-- A request that puts its part and hears the answer is over, or it has stored nothing. -/
theorem Sound.heldBefore_putPart (h : Sound s) {request row : PartRequest}
    (hrequest : request ∈ s.parts) (facts : PartFacts)
    (hrow : row ∈ (s.putPart request facts false).parts) :
    HeldBefore s (s.putPart request facts false).db row := by
  unfold State.putPart at hrow ⊢
  split at hrow
  · rename_i upload hphase
    split at hrow
    · rename_i hrun
      obtain ⟨hne, hold⟩ := mem_endPart hrow
      exact .of_ne hold hne (h.putPart_run hrequest hphase hrun)
    · rename_i outcome db hunstored hrun
      rcases mem_enterPart hrequest hrow with ⟨hne, hold⟩ | rfl
      · exact .of_ne hold hne (h.putPart_run hrequest hphase hrun)
      · exact .of_subset hrequest rfl fun part => putMultipartPart_unstored hrun hunstored
    · rcases mem_enterPart hrequest hrow with ⟨-, hold⟩ | rfl
      · exact .of_subset hold rfl fun _ => id
      · exact .of_subset hrequest rfl fun _ => id
  · exact .of_subset hrow rfl fun _ => id

omit [Md5] in
theorem mem_stage {request row : PartRequest} (hrow : row ∈ (s.stage request).parts) :
    row = request ∨ row ∈ s.parts := by
  unfold State.stage at hrow
  split at hrow
  · exact Table.mem_or_eq_of_mem_insert hrow
  · exact Or.inr hrow

/-- Except for a put, a request is new or was there before under its key. -/
theorem mem_parts_step {e : Event} (hput : ∀ nonce facts replyLost,
    e ≠ .putPart nonce facts replyLost) {row : PartRequest} (hrow : row ∈ (s.step e).parts) :
    (∀ upload, row.phase ≠ .rejected upload) ∨
      ∃ request ∈ s.parts, request.storageKey = row.storageKey := by
  let Known (s' : State) := row ∈ s'.parts → (∀ upload, row.phase ≠ .rejected upload) ∨
    ∃ request ∈ s.parts, request.storageKey = row.storageKey
  have hkept : Known s := fun hrow => Or.inr ⟨row, hrow, rfl⟩
  have hended : ∀ {request : PartRequest} {db : Database},
      Known ((s.endPart request.nonce).withDb db) :=
    fun hrow => hkept (mem_endPart hrow).2
  have hentered : ∀ {request : PartRequest} {phase : PartPhase} {db : Database},
      request ∈ s.parts → Known ((s.enterPart request.nonce phase).withDb db) := by
    intro request phase db hrequest hrow
    rcases mem_enterPart hrequest hrow with ⟨-, hold⟩ | rfl
    · exact hkept hold
    · exact Or.inr ⟨request, hrequest, rfl⟩
  have hstaged : ∀ {request : PartRequest}, (∀ upload, request.phase ≠ .rejected upload) →
      Known (s.stage request) := by
    intro request hphase hrow
    rcases mem_stage hrow with rfl | hold
    · exact Or.inl hphase
    · exact hkept hold
  by_cases hmoves : e.movesParts = false
  · rw [(keepsParts_step s hmoves).2] at hrow
    exact hkept hrow
  revert hrow
  change Known (s.step e)
  cases e with
  | stagePart => exact hstaged (by simp)
  | stagePartCopy nonce uploadId partNumber =>
      change Known (s.stagePartCopy nonce uploadId partNumber)
      unfold State.stagePartCopy
      split
      · exact hstaged (by simp)
      · exact hkept
  | bindPart =>
      refine elim_find hkept fun request hrequest _ => ?_
      unfold State.bindPart
      split
      · exact hentered hrequest
      · exact fun hrow => hkept (mem_endPart hrow).2
      · exact hkept
  | discardPart =>
      refine elim_find hkept fun request _ _ => ?_
      split
      · exact fun hrow => hkept (mem_endPart hrow).2
      · exact hkept
  | rejectPart =>
      refine elim_find hkept fun request hrequest _ => ?_
      unfold State.rejectPart
      split
      · exact hentered hrequest
      · exact hkept
  | putPart nonce facts replyLost => exact absurd rfl (hput nonce facts replyLost)
  | queuePart =>
      refine elim_find hkept fun request _ _ => ?_
      unfold State.queuePart
      split
      · exact hended
      · exact hkept
  | collectPayload locator leaseToken now =>
      change Known (s.collectPayload locator leaseToken now)
      unfold State.collectPayload
      split
      · split <;> exact hkept
      · exact hkept
  | _ => exact absurd rfl hmoves

theorem Sound.heldBefore_step (h : Sound s) {e : Event} (hheard : RepliesHeard e)
    {row : PartRequest} (hrow : row ∈ (s.step e).parts) :
    (∀ upload, row.phase ≠ .rejected upload) ∨ HeldBefore s (s.step e).db row := by
  by_cases hput : ∃ nonce facts replyLost, e = .putPart nonce facts replyLost
  · obtain ⟨nonce, facts, replyLost, rfl⟩ := hput
    obtain rfl : replyLost = false := hheard
    refine Or.inr (elim_find (P := fun s' => row ∈ s'.parts → HeldBefore s s'.db row)
      (fun hrow => .of_subset hrow rfl fun _ => id) (fun request hrequest _ => ?_) hrow)
    exact h.heldBefore_putPart hrequest facts
  · push Not at hput
    refine (mem_parts_step hput hrow).imp_right fun ⟨request, hrequest, hkey⟩ => ?_
    refine .of_subset hrequest hkey fun part hpart => ?_
    refine ((h.step_cases e).part_cases hpart).resolve_right fun hstored => ?_
    obtain ⟨nonce, facts, replyLost, heq, -⟩ := licence_stores hstored
    exact hput nonce facts replyLost heq

/-- No part row names the payload of a request that is still running. -/
def PartsUnnamed (s : State) : Prop :=
  ∀ request ∈ s.parts, ∀ part ∈ s.db.multipartParts, part.storageKey ≠ request.storageKey

theorem Sound.partsUnnamed (h : Sound s) (hunnamed : PartsUnnamed s) {e : Event}
    (hheard : RepliesHeard e) : PartsUnnamed (s.step e) := by
  intro row hrow part hpart hkey
  rcases h.heldBefore_step hheard hrow with hphase | ⟨⟨request, hrequest, hrequestKey⟩, hold⟩
  · exact ((h.step e).requests row hrow).unused hphase (Or.inl ⟨part, hpart, hkey⟩)
  · exact hunnamed request hrequest part (hold part hpart hkey) (hkey.trans hrequestKey.symm)

/-- In a run in which every reply is heard no request queues a part that a row names. -/
theorem along_queuesUnnamed (hinit : IsFresh s) {events : List Event}
    (h : ∀ e ∈ events, RepliesHeard e) : system.Along QueuesUnnamed s events := by
  have hheard : system.Along (fun _ e => RepliesHeard e) s events := by
    clear hinit
    induction events generalizing s with
    | nil => trivial
    | cons e events ih =>
        exact ⟨h e List.mem_cons_self, ih fun e he => h e (List.mem_cons_of_mem _ he)⟩
  have hempty : PartsUnnamed s := by
    intro request hrequest
    rw [hinit.parts] at hrequest
    exact absurd hrequest (Table.not_mem_empty request)
  refine Transition.System.along_of_invariant (P := fun s => Sound s ∧ PartsUnnamed s)
    (fun s e hs he => ⟨hs.1.step e, hs.1.partsUnnamed hs.2 he⟩) (fun s e hs _ => ?_)
    ⟨Sound.of_init hinit, hempty⟩ hheard
  cases e with
  | queuePart nonce now =>
      intro request hrequest part hpart hkey
      exact absurd hkey (hs.2 request (Table.mem_of_find? hrequest) part hpart)
  | _ => trivial

end

def plainUpload : NewS3MultipartUpload where
  uploadId := 30
  applicationId := 1
  bucketId := 2
  objectKey := "key"
  contentType := "text/plain"
  userMetadata := []
  objectTags := S3ObjectTagSet.empty
  storageBackend := .localStore
  createdAt := 1000
  expiresAt := Time.seconds 3600

def plainFacts : PartFacts := ⟨5, List.replicate 32 0, List.replicate 16 0, 1000, 2000⟩

/-- A part is uploaded to a new multipart upload. -/
def uploadPart (replyLost : Bool) : List Event :=
  [.call (.createBucket plainBucket), .call (.createMultipart plainUpload), .stagePart 31 30 1,
    .bindPart 31, .putPart 31 plainFacts replyLost, .queuePart 31 2000]

/-- One part is stored, and the payload of another, which is turned down, is queued. -/
def storedAndRejected : List Event :=
  uploadPart false ++
    [.stagePart 32 30 2, .bindPart 32, .rejectPart 32, .queuePart 32 3000]

theorem partsSafe_of_storedAndRejected :
    letI := noMd5
    let s := system.run (State.installation 1 1000) storedAndRejected
    PartsSafe s ∧ s.payloads = [.part 30 2 32, .part 30 1 31] ∧
      s.db.multipartParts.rows.map (·.storageKey) = [.part 30 1 31] ∧
      s.db.storageGcTasks.rows.map (·.task.locator.key) = [.part 30 2 32] := by
  have hfresh : IsFresh (State.installation 1 1000) := isFresh_installation 1 (by decide)
  have hheard : ∀ e ∈ storedAndRejected, RepliesHeard e := by
    simp [storedAndRejected, uploadPart, RepliesHeard]
  exact ⟨@partsSafe_of_run noMd5 _ _ hfresh (@along_queuesUnnamed noMd5 _ hfresh _ hheard),
    by decide +kernel, by decide +kernel, by decide +kernel⟩

/-- The database has committed the part, but its request queues the payload. -/
theorem not_partsSafe_of_lost_reply :
    letI := noMd5
    let s := system.run (State.installation 1 1000) (uploadPart true)
    system.Reachable s ∧ ¬ PartsSafe s := by
  refine ⟨@reachable_run noMd5 _, fun h => ?_⟩
  have hqueued :
      letI := noMd5
      let s := system.run (State.installation 1 1000) (uploadPart true)
      ∃ part ∈ s.db.multipartParts, ∃ upload ∈ s.db.multipartUploads,
        upload.uploadId = part.uploadId ∧ upload.state.isOpen ∧
        ∃ task ∈ s.db.storageGcTasks, task.task.locator.key = part.storageKey := by
    decide +kernel
  obtain ⟨part, hpart, upload, hupload, hid, hopen, task, htask, hkey⟩ := hqueued
  exact h.1 part hpart upload hupload hid hopen task htask hkey

end MediaHub.Server

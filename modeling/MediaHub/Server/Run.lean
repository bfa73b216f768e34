import MediaHub.Server.Sound

namespace MediaHub.Server

open Relational
open MediaHub.Core
open MediaHub.Store
open MediaHub.Service

/-- Say it of the row that an event names, if it is there. -/
theorem elim_find {α κ : Type} [Keyed α κ] [DecidableEq κ] {P : State → Prop} {t : Table α}
    {k : κ} {f : α → State} (hidle : P s)
    (hrow : ∀ row ∈ t, t.find? (Keyed.key row) = some row → P (f row)) :
    P ((t.find? k).elim s f) := by
  cases hfind : t.find? k with
  | none => exact hidle
  | some row =>
      obtain ⟨hmem, -⟩ := Table.find?_eq_some_iff.1 hfind
      exact hrow row hmem (Table.find?_of_mem hmem)

section

variable [Md5] {s : State}

omit [Md5] in
theorem Sound.commitSound (h : Sound s) {worker : PutWorker} (hworker : worker ∈ s.puts)
    {commit : S3ObjectVersionCommit} (hphase : worker.phase = .prepared commit) :
    CommitSound s.db.buckets commit := by
  have hsound := h.workers worker hworker
  rwa [hphase] at hsound

theorem Sound.commitPut_effects (h : Sound s) {worker : PutWorker} (hworker : worker ∈ s.puts) :
    Effects (workerLicence s.db worker) s.db (s.commitPut worker).db := by
  unfold State.commitPut
  split
  · rename_i commit hphase
    rw [workerLicence, hphase]
    exact Server.commitPut_effects (h.commitSound hworker hphase)
  · exact .refl _

theorem Sound.commitMultipart_effects (h : Sound s) {worker : PutWorker}
    (hworker : worker ∈ s.puts) (uploadId : MultipartUploadId) :
    Effects (workerLicence s.db worker) s.db (s.commitMultipart worker uploadId).db := by
  unfold State.commitMultipart
  split
  · rename_i commit hphase
    rw [workerLicence, hphase]
    exact Server.commitMultipart_effects (h.commitSound hworker hphase)
  · exact .refl _

theorem Sound.commitPut (h : Sound s) {worker : PutWorker} (hworker : worker ∈ s.puts) :
    Sound (s.commitPut worker) := by
  have heffects := h.commitPut_effects hworker
  unfold State.commitPut at heffects ⊢
  split at heffects
  · exact h.stopPut worker.id heffects (fun _ => workerLicence_mints)
      (fun _ => workerLicence_stores) fun _ => workerLicence_drops
  · exact h

theorem Sound.commitMultipart (h : Sound s) {worker : PutWorker} (hworker : worker ∈ s.puts)
    (uploadId : MultipartUploadId) : Sound (s.commitMultipart worker uploadId) := by
  have heffects := h.commitMultipart_effects hworker uploadId
  unfold State.commitMultipart at heffects ⊢
  split at heffects
  · exact h.stopPut worker.id heffects (fun _ => workerLicence_mints)
      (fun _ => workerLicence_stores) fun _ => workerLicence_drops
  · exact h

/-- A request moves on while its transaction, if it has one, stores or drops its own key. -/
theorem Sound.enterPart (h : Sound s) {request : PartRequest} (hrequest : request ∈ s.parts)
    {phase : PartPhase} {db : Database} {licence : Licence} (heffects : Effects licence s.db db)
    (hmints : ∀ id, ¬ licence.mints id)
    (hstores : ∀ key, licence.stores key → key = request.storageKey)
    (hdrops : ∀ key, licence.drops key → key = request.storageKey)
    (hsound : RequestSound db { request with phase }) :
    Sound ((s.enterPart request.nonce phase).withDb db) := by
  refine h.part hrequest heffects rfl rfl hmints hstores hdrops fun row hrow => ?_
  rcases mem_enterPart hrequest hrow with hold | rfl
  · exact Or.inl hold
  · exact Or.inr ⟨rfl, hsound⟩

theorem Sound.endPart (h : Sound s) {request : PartRequest} (hrequest : request ∈ s.parts)
    {db : Database} {licence : Licence} (heffects : Effects licence s.db db)
    (hmints : ∀ id, ¬ licence.mints id)
    (hstores : ∀ key, licence.stores key → key = request.storageKey)
    (hdrops : ∀ key, licence.drops key → key = request.storageKey) :
    Sound ((s.endPart request.nonce).withDb db) :=
  h.part hrequest heffects rfl rfl hmints hstores hdrops fun _ hrow => Or.inl (mem_endPart hrow)

omit [Md5] in
/-- Payloads in the object store are not part of soundness. -/
theorem Sound.payloads (h : Sound s) (payloads : List StorageKey) :
    Sound { s with payloads } :=
  ⟨h.chain, h.parts, h.ids, h.keys, h.nonces, h.requests, h.workers⟩

theorem Sound.discardPart (h : Sound s) {request : PartRequest} (hrequest : request ∈ s.parts) :
    Sound (s.discardPart request) :=
  (h.endPart hrequest (effects_none _) (fun _ => id) (fun _ => False.elim)
    fun _ => False.elim).payloads _

/-- A new request has the only copy of its nonce. -/
theorem Sound.stage (h : Sound s) {request : PartRequest}
    (hphase : ∀ upload, request.phase = .bound upload ∨ request.phase = .rejected upload →
      upload.uploadId = request.uploadId ∧
        UploadKnown s.db.multipartUploads (uploadFacts upload)) :
    Sound (s.stage request) := by
  unfold State.stage
  split
  · rename_i hfresh
    have hnew : request.nonce ∉ s.issued := unissued_iff.1 hfresh _ List.mem_cons_self
    refine h.of_effects (effects_none _)
      (fun id hid => List.mem_cons_of_mem _ hid) (fun _ hid => hid.elim) (fun _ hkey => hkey.elim)
      (fun _ hkey => hkey.elim) (fun row hrow => ?_) fun worker hworker => Or.inl hworker
    rcases Table.mem_or_eq_of_mem_insert hrow with rfl | hold
    · refine Or.inr ⟨List.mem_cons_self, fun _ huse => ?_, hphase⟩
      exact hnew (h.keys _ _ _ huse)
    · exact Or.inl ⟨hold, id, id⟩
  · exact h

theorem Sound.bindPart (h : Sound s) {request : PartRequest} (hrequest : request ∈ s.parts) :
    Sound (s.bindPart request) := by
  unfold State.bindPart
  split
  · rename_i upload hphase hfind
    obtain ⟨hmem, hid⟩ := Table.find?_eq_some_iff.1 hfind
    refine h.enterPart hrequest (effects_none _) (fun _ => id)
      (fun _ => False.elim) (fun _ => False.elim) ⟨fun _ => ?_, fun row hrow => ?_⟩
    · exact (h.requests request hrequest).unused (by simp [hphase])
    · rcases hrow with hrow | hrow <;> cases hrow
      exact ⟨hid, _, hmem, rfl⟩
  · exact h.discardPart hrequest
  · exact h

theorem Sound.rejectPart (h : Sound s) {request : PartRequest} (hrequest : request ∈ s.parts) :
    Sound (s.rejectPart request) := by
  unfold State.rejectPart
  split
  · rename_i upload hphase
    refine h.enterPart hrequest (effects_none _) (fun _ => id)
      (fun _ => False.elim) (fun _ => False.elim)
      ⟨fun hrejected => absurd rfl (hrejected upload), fun row hrow => ?_⟩
    rcases hrow with hrow | hrow <;> cases hrow
    exact (h.requests request hrequest).bound upload (Or.inl hphase)
  · exact h

/-- A bound request stores its payload under a key that nothing else knows. -/
theorem Sound.putPart_run (h : Sound s) {request : PartRequest} (hrequest : request ∈ s.parts)
    {upload : S3MultipartUpload} (hphase : request.phase = .bound upload) {facts : PartFacts}
    {outcome : S3MultipartPartPut} {db : Database}
    (hrun : (putMultipartPart request.uploadId (facts.part request) facts.maximumUploadSize
      facts.now).run s.db = .ok (outcome, db)) :
    Effects (storesPart request) s.db db := by
  have hunused := (h.requests request hrequest).unused (by simp [hphase])
  have hstores : (storesPart request).stores (facts.part request).storageKey := rfl
  refine putMultipartPart_effects ⟨⟨request.nonce, rfl⟩, fun row hrow hkey => ?_,
    fun backend => ?_⟩ hstores hrun
  · exact hunused (Or.inl ⟨row, hrow, hkey⟩)
  · by_contra hqueued
    obtain ⟨owner, howner⟩ := Option.ne_none_iff_exists'.1 hqueued
    exact hunused (Or.inr ⟨backend, owner, howner⟩)

theorem Sound.putPart_effects (h : Sound s) {request : PartRequest} (hrequest : request ∈ s.parts)
    (facts : PartFacts) (replyLost : Bool) :
    Effects (storesPart request) s.db (s.putPart request facts replyLost).db := by
  unfold State.putPart
  split
  · rename_i upload hphase
    split
    · rename_i hrun
      split <;> exact h.putPart_run hrequest hphase hrun
    · rename_i hrun
      exact h.putPart_run hrequest hphase hrun
    · exact .refl _
  · exact .refl _

theorem Sound.putPart (h : Sound s) {request : PartRequest} (hrequest : request ∈ s.parts)
    (facts : PartFacts) (replyLost : Bool) : Sound (s.putPart request facts replyLost) := by
  have hbound := (h.requests request hrequest).bound
  -- a request that gives up still knows the upload it was bound to
  have hreject : ∀ upload db, request.phase = .bound upload →
      Effects (storesPart request) s.db db →
      Sound ((s.enterPart request.nonce (.rejected upload)).withDb db) := by
    intro upload db hphase heffects
    refine h.enterPart hrequest heffects (fun _ => id) (fun _ => id) (fun _ => False.elim)
      ⟨fun hrejected => absurd rfl (hrejected upload), fun row hrow => ?_⟩
    rcases hrow with hrow | hrow <;> cases hrow
    obtain ⟨hid, hknown⟩ := hbound upload (Or.inl hphase)
    exact ⟨hid, heffects.uploadKnown hknown⟩
  unfold State.putPart
  split
  · rename_i upload hphase
    split
    · rename_i hrun
      have heffects := h.putPart_run hrequest hphase hrun
      split
      · exact hreject upload _ hphase heffects
      · exact h.endPart hrequest heffects (fun _ => id) (fun _ => id) fun _ => False.elim
    · rename_i hrun
      exact hreject upload _ hphase (h.putPart_run hrequest hphase hrun)
    · exact hreject upload _ hphase (.refl _)
  · exact h

theorem Sound.queuePart_effects (h : Sound s) {request : PartRequest}
    (hrequest : request ∈ s.parts) (now : Time) :
    Effects (dropsPart request) s.db (s.queuePart request now).db := by
  unfold State.queuePart
  split
  · rename_i upload hphase
    obtain ⟨hid, hknown⟩ := (h.requests request hrequest).bound upload (Or.inr hphase)
    exact Server.queuePart_effects hid hknown
  · exact .refl _

theorem Sound.queuePart (h : Sound s) {request : PartRequest} (hrequest : request ∈ s.parts)
    (now : Time) : Sound (s.queuePart request now) := by
  have heffects := h.queuePart_effects hrequest now
  unfold State.queuePart at heffects ⊢
  split at heffects
  · exact h.endPart hrequest heffects (fun _ => id) (fun _ => False.elim) fun _ => id
  · exact h

/-- What a step may do: effects under its licence, or a bare step of the ledger. -/
inductive StepCases (s : State) (e : Event) (s' : State) (licence : Licence) : Prop
  | effects (heffects : Effects licence s.db s'.db)
      (hreservations : s'.reservations = s.reservations)
  | bare (hbare : BareStep s e s')

theorem StepCases.idle {e : Event} {licence : Licence} : StepCases s e s licence :=
  .effects (.refl _) rfl

theorem Sound.step_cases (h : Sound s) (e : Event) :
    StepCases s e (s.step e) (s.licence e) := by
  have hbare : ∀ {e : Event} {s' : State} {licence : Licence},
      s' = s ∨ BareStep s e s' → StepCases s e s' licence := by
    rintro e s' licence (rfl | hstep)
    · exact .idle
    · exact .bare hstep
  cases e with
  | call command =>
      change StepCases s _ (s.call command) (command.licence s.db)
      unfold State.call
      split
      · rename_i hfresh
        exact .effects (command.effects h.chain (h.mintsFresh hfresh)) rfl
      · exact .idle
  | claim worker claim =>
      change StepCases s _ (s.claim worker claim) Licence.none
      unfold State.claim
      split
      · exact .idle
      · rename_i hrun
        exact .effects (claim_effects hrun) rfl
  | readBucket =>
      refine elim_find (P := (StepCases s _ · Licence.none)) .idle fun worker _ _ => ?_
      unfold State.readBucket
      split <;> exact .effects (.refl _) rfl
  | readObject =>
      refine elim_find (P := (StepCases s _ · Licence.none)) .idle fun worker _ _ => ?_
      unfold State.readObject
      split <;> exact .effects (.refl _) rfl
  | prepare _ stamp =>
      refine elim_find (P := (StepCases s _ · Licence.none)) .idle fun worker _ _ => ?_
      unfold State.prepare
      split
      · split <;> exact .effects (.refl _) rfl
      · exact .idle
  | commitPut worker =>
      change StepCases s _ ((s.puts.find? worker).elim s s.commitPut)
        ((s.puts.find? worker).elim Licence.none (workerLicence s.db))
      cases hfind : s.puts.find? worker with
      | none => exact .idle
      | some row =>
          refine .effects (h.commitPut_effects (Table.mem_of_find? hfind)) ?_
          rw [Option.elim, State.commitPut]
          split <;> rfl
  | commitMultipart worker uploadId =>
      change StepCases s _ ((s.puts.find? worker).elim s (s.commitMultipart · uploadId))
        ((s.puts.find? worker).elim Licence.none (workerLicence s.db))
      cases hfind : s.puts.find? worker with
      | none => exact .idle
      | some row =>
          refine .effects (h.commitMultipart_effects (Table.mem_of_find? hfind) uploadId) ?_
          rw [Option.elim, State.commitMultipart]
          split <;> rfl
  | crash => exact .effects (.refl _) rfl
  | stagePart nonce uploadId partNumber =>
      change StepCases s _ (s.stage ⟨nonce, uploadId, partNumber, .staged⟩) Licence.none
      unfold State.stage
      split <;> exact .effects (.refl _) rfl
  | stagePartCopy nonce uploadId partNumber =>
      change StepCases s _ (s.stagePartCopy nonce uploadId partNumber) Licence.none
      unfold State.stagePartCopy State.stage
      split
      · split <;> exact .effects (.refl _) rfl
      · exact .idle
  | bindPart =>
      refine elim_find (P := (StepCases s _ · Licence.none)) .idle fun request _ _ => ?_
      unfold State.bindPart
      split <;> exact .effects (.refl _) rfl
  | discardPart =>
      refine elim_find (P := (StepCases s _ · Licence.none)) .idle fun request _ _ => ?_
      split <;> exact .effects (.refl _) rfl
  | rejectPart =>
      refine elim_find (P := (StepCases s _ · Licence.none)) .idle fun request _ _ => ?_
      unfold State.rejectPart
      split <;> exact .effects (.refl _) rfl
  | putPart nonce facts replyLost =>
      change StepCases s _ ((s.parts.find? nonce).elim s (s.putPart · facts replyLost))
        ((s.parts.find? nonce).elim Licence.none storesPart)
      cases hfind : s.parts.find? nonce with
      | none => exact .idle
      | some row =>
          refine .effects (h.putPart_effects (Table.mem_of_find? hfind) facts replyLost) ?_
          rw [Option.elim, State.putPart]
          repeat' split
          all_goals rfl
  | queuePart nonce now =>
      change StepCases s _ ((s.parts.find? nonce).elim s (s.queuePart · now))
        ((s.parts.find? nonce).elim Licence.none dropsPart)
      cases hfind : s.parts.find? nonce with
      | none => exact .idle
      | some row =>
          refine .effects (h.queuePart_effects (Table.mem_of_find? hfind) now) ?_
          rw [Option.elim, State.queuePart]
          split <;> rfl
  | collectPayload locator leaseToken now =>
      change StepCases s _ (s.collectPayload locator leaseToken now) Licence.none
      unfold State.collectPayload
      split
      · split <;> exact .effects (.refl _) rfl
      · exact .idle
  | reserve => exact hbare (reserveQuota_step _ _ _ _)
  | releaseReservation id =>
      change StepCases s _ ((s.reservations.find? id).elim s s.releaseReservation) Licence.none
      cases hfind : s.reservations.find? id with
      | none => exact .idle
      | some reservation => exact hbare (releaseReservation_step hfind)
  | createUploading id media temporaryKey leaseToken leasedUntil replyLost =>
      change StepCases s _ ((s.reservations.find? id).elim s
        (s.createUploading · media temporaryKey leaseToken leasedUntil replyLost)) Licence.none
      cases hfind : s.reservations.find? id with
      | none => exact .idle
      | some reservation => exact hbare (createUploading_step hfind _ _ _ _ _)

theorem Sound.step (h : Sound s) (e : Event) : Sound (s.step e) := by
  cases e with
  | call command => exact h.call command
  | claim worker claim => exact h.claim worker claim
  | readBucket => exact elim_find h fun _ _ hfind => h.readBucket hfind
  | readObject => exact elim_find h fun _ _ hfind => h.readObject hfind
  | prepare _ stamp => exact elim_find h fun _ _ hfind => h.prepare hfind stamp
  | commitPut => exact elim_find h fun _ hworker _ => h.commitPut hworker
  | commitMultipart _ uploadId =>
      exact elim_find h fun _ hworker _ => h.commitMultipart hworker uploadId
  | crash worker =>
      exact h.stopPut worker (effects_none _) (fun _ => id) (fun _ => id)
        fun _ => id
  | stagePart => exact h.stage (by simp)
  | stagePartCopy nonce uploadId partNumber =>
      change Sound (s.stagePartCopy nonce uploadId partNumber)
      unfold State.stagePartCopy
      split
      · rename_i upload hfind
        obtain ⟨hmem, hid⟩ := Table.find?_eq_some_iff.1 hfind
        refine h.stage fun row hrow => ?_
        rcases hrow with hrow | hrow <;> cases hrow
        exact ⟨hid, _, hmem, rfl⟩
      · exact h
  | bindPart => exact elim_find h fun _ hrequest _ => h.bindPart hrequest
  | discardPart =>
      refine elim_find h fun _ hrequest _ => ?_
      split
      · exact h.discardPart hrequest
      · exact h
  | rejectPart => exact elim_find h fun _ hrequest _ => h.rejectPart hrequest
  | putPart _ facts replyLost =>
      exact elim_find h fun _ hrequest _ => h.putPart hrequest facts replyLost
  | queuePart _ now => exact elim_find h fun _ hrequest _ => h.queuePart hrequest now
  | collectPayload locator leaseToken now =>
      change Sound (s.collectPayload locator leaseToken now)
      unfold State.collectPayload
      split
      · split
        · exact h.payloads _
        · exact h
      · exact h
  | reserve reservation applicationId bytes =>
      change Sound (s.reserve ⟨reservation, applicationId, bytes, false⟩)
      rcases reserveQuota_step s reservation applicationId bytes with hidle | hbare
      · rw [hidle]
        exact h
      · exact h.bareStep hbare
  | releaseReservation =>
      refine elim_find h fun _ _ hfind => ?_
      rcases releaseReservation_step hfind with hidle | hbare
      · rw [hidle]
        exact h
      · exact h.bareStep hbare
  | createUploading _ media temporaryKey leaseToken leasedUntil replyLost =>
      refine elim_find h fun _ _ hfind => ?_
      rcases createUploading_step hfind media temporaryKey leaseToken leasedUntil replyLost with
        hidle | hbare
      · rw [hidle]
        exact h
      · exact h.bareStep hbare

omit [Md5] in
/-- A fresh installation knows no row that could break soundness. -/
theorem Sound.of_init (h : IsFresh s) : Sound s := by
  obtain ⟨db, issued, puts, parts, payloads, reservations⟩ := s
  obtain ⟨htables, -, rfl, rfl, rfl, -, -⟩ := h
  dsimp only at htables
  rw [htables]
  have hnone : ∀ {α κ : Type} [Keyed α κ] {P : α → Prop}, ∀ row ∈ (∅ : Table α), P row :=
    fun row hrow => absurd hrow (Table.not_mem_empty row)
  have hunqueued : ∀ {locator owner}, queuedOwner (∅ : Table StorageGcTask) locator ≠ some owner :=
    fun h => by cases h
  exact {
    chain := ⟨hnone, hnone, hnone, hnone⟩
    parts := ⟨hnone, hnone, ⟨hnone, hnone⟩, fun _ _ howner => absurd howner hunqueued⟩
    ids := ⟨hnone, hnone⟩
    keys := by
      rintro uploadId partNumber nonce (⟨part, hpart, -⟩ | ⟨backend, owner, howner⟩)
      · exact absurd hpart (Table.not_mem_empty part)
      · exact absurd howner hunqueued
    nonces := hnone
    requests := hnone
    workers := hnone }

theorem Sound.of_reachable (h : system.Reachable s) : Sound s :=
  h.invariant (fun _ => Sound.of_init) fun _ e hs => hs.step e

/-- What every effect and every bare step keeps holds of every reachable database. -/
theorem reachable_invariant {P : State → Prop} (hinit : ∀ s, IsFresh s → P s)
    (hstep : ∀ s e, Sound s → P s → StepCases s e (s.step e) (s.licence e) →
      P (s.step e))
    (h : system.Reachable s) : P s :=
  h.invariant_of (fun _ => Sound.of_reachable) hinit
    fun s e hsound hs => hstep s e hsound hs (hsound.step_cases e)

end

end MediaHub.Server

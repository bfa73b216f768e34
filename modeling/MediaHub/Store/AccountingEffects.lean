import MediaHub.Store.Effect

namespace MediaHub.Store

open Relational
open MediaHub.Core

/-- Giving a reservation back and finishing the session come to one step of the ledger. -/
theorem endSession_accounting {session : UploadSession} {state : UploadSessionState}
    {endedAt : Time} {db released db' : Database} {u : Unit}
    (hmem : session ∈ db.uploadSessions) (hstate : session.state = .pending)
    (hend : state ≠ .pending) (hrelease : (releaseReservation session).run db = .ok (u, released))
    (hfinish : (finishUploadSession session state endedAt).run released = .ok (u, db')) :
    Accounting db db' := by
  obtain ⟨-, hcharge, rfl⟩ := releaseBytes_ok.1 hrelease
  obtain ⟨-, rfl⟩ := Transaction.run_updateRow_ok.1 hfinish
  exact .sessionEnded hmem hstate hend hcharge

theorem createUploadSession_accounting {session : UploadSession} {db db' : Database} {u : Unit}
    (h : (createUploadSession session).run db = .ok (u, db')) : Accounting db db' := by
  simp only [createUploadSession, Transaction.run_bind_ok, Transaction.run_require_ok,
    Transaction.run_query_ok, reserveBytes_ok, Transaction.run_insertRow_ok] at h
  obtain ⟨_, _, ⟨hstate, rfl⟩, _, _, ⟨-, rfl⟩, _, _, ⟨-, rfl⟩, _, _, ⟨-, hcharge, rfl⟩, -, hfresh,
    -, rfl⟩ := h
  exact .sessionCreated hfresh hstate hcharge

theorem completedMediaMatches_ok {session : UploadSession} {media : Media}
    {eventApplicationId : ApplicationId}
    (h : completedMediaMatches session media eventApplicationId) :
    media.applicationId = session.applicationId ∧ media.size = session.expectedSize ∧
      media.state = .uploading := by
  simp only [completedMediaMatches, Bool.and_eq_true, decide_eq_true_eq] at h
  exact ⟨h.1.1.1.1.1.2, h.1.1.2, h.1.2⟩

theorem moveTo_of_transition {media : Media} {next : MediaState} (now : Time)
    (h : media.state.canTransitionTo next) :
    (Media.moveTo next now media).state = next ∧
      (Media.moveTo next now media).applicationId = media.applicationId ∧
      (Media.moveTo next now media).size = media.size := by
  simp [Media.moveTo, Media.transitionTo, h]

/-- A lock mutation is decided without a write. -/
theorem applyLockMutation_ok {version : ObjectVersion} {command : PutS3ObjectLockCommand}
    {result : Except PutS3ObjectLockOutcome ObjectVersion} {db db' : Database}
    (h : (applyLockMutation version command).run db = .ok (result, db')) : db = db' := by
  unfold applyLockMutation at h
  split at h
  · split at h <;> exact (Transaction.run_pure_ok.1 h).2
  · simp only [Transaction.run_bind_ok, run_domain_ok, Transaction.run_pure_ok] at h
    obtain ⟨_, _, ⟨-, rfl⟩, -, rfl⟩ := h
    rfl

section

variable [Md5] {licence : Licence} {db db' : Database}

theorem Effects.accounted (h : Accounting db db') : Effects licence db db' :=
  .single (.accounted h)

theorem completeUploadSession_effects {uploadSessionId : UploadSessionId} {media : Media}
    {completedAt databaseNow : Time} {eventApplicationId : ApplicationId}
    {outcome : UploadSessionCompletion}
    (h : (completeUploadSession uploadSessionId media completedAt databaseNow
      eventApplicationId).run db = .ok (outcome, db')) :
    Effects licence db db' := by
  rw [completeUploadSession, Transaction.run_bind_ok] at h
  obtain ⟨session, _, hselect, h⟩ := h
  obtain ⟨⟨hmem, -⟩, rfl⟩ := Transaction.run_selectRow_ok.1 hselect
  cases hstate : session.state with
  | completed =>
      simp only [hstate, loadCompletedMedia, Transaction.run_bind_ok,
        Transaction.run_selectRow_ok, Transaction.run_pure_ok] at h
      obtain ⟨_, _, ⟨-, rfl⟩, -, rfl⟩ := h
      exact .refl _
  | cancelled | expired =>
      simp only [hstate, Transaction.run_pure_ok] at h
      cases h.2
      exact .refl _
  | pending =>
      simp only [hstate, Transaction.run_ite_ok] at h
      rcases h with ⟨-, h⟩ | ⟨-, h⟩
      · simp only [Transaction.run_bind_ok, Transaction.run_pure_ok] at h
        obtain ⟨_, _, hrelease, _, _, hfinish, -, rfl⟩ := h
        exact .accounted (endSession_accounting hmem hstate (by simp) hrelease hfinish)
      · simp only [insertMedia, asI64, finishUploadSession, loadCompletedMedia,
          Transaction.run_bind_ok, Transaction.run_require_ok, transferBytes_ok,
          Transaction.run_insertRow_ok, Transaction.run_updateRow_ok,
          Transaction.run_selectRow_ok, Transaction.run_pure_ok] at h
        obtain ⟨_, _, ⟨hmatches, rfl⟩, _, _, ⟨-, hcharge, rfl⟩, _, _,
          ⟨_, _, ⟨-, rfl⟩, _, _, ⟨-, rfl⟩, -, hfresh, -, rfl⟩, _, _, ⟨-, rfl⟩, _, _, ⟨-, rfl⟩, -,
          rfl⟩ := h
        obtain ⟨happlication, hsize, huploading⟩ := completedMediaMatches_ok hmatches
        have hallowed : media.state.canTransitionTo .active := by
          rw [huploading]
          rfl
        obtain ⟨hactive, hmovedApplication, hmovedSize⟩ := moveTo_of_transition
          (postgresTime (max databaseNow (postgresTime completedAt))) hallowed
        exact .accounted (.sessionCompleted hmem hstate hfresh hactive
          (hmovedApplication.trans happlication) (hmovedSize.trans hsize) hcharge)

theorem cancelUploadSession_effects {uploadSessionId : UploadSessionId} {cancelledAt : Time}
    {outcome : UploadSessionCancellation}
    (h : (cancelUploadSession uploadSessionId cancelledAt).run db = .ok (outcome, db')) :
    Effects licence db db' := by
  rw [cancelUploadSession, Transaction.run_bind_ok] at h
  obtain ⟨session, _, hselect, h⟩ := h
  obtain ⟨⟨hmem, -⟩, rfl⟩ := Transaction.run_selectRow_ok.1 hselect
  cases hstate : session.state with
  | completed | cancelled | expired =>
      simp only [hstate, Transaction.run_pure_ok] at h
      cases h.2
      exact .refl _
  | pending =>
      simp only [hstate, Transaction.run_bind_ok, Transaction.run_pure_ok] at h
      obtain ⟨_, _, hrelease, _, _, hfinish, -, rfl⟩ := h
      exact .accounted (endSession_accounting hmem hstate (by simp) hrelease hfinish)

theorem expireUploadSession_effects {uploadSessionId : UploadSessionId} {expiredAt : Time}
    {outcome : UploadSessionExpiration}
    (h : (expireUploadSession uploadSessionId expiredAt).run db = .ok (outcome, db')) :
    Effects licence db db' := by
  rw [expireUploadSession, Transaction.run_bind_ok] at h
  obtain ⟨session, _, hselect, h⟩ := h
  obtain ⟨⟨hmem, -⟩, rfl⟩ := Transaction.run_selectRow_ok.1 hselect
  cases hstate : session.state with
  | completed | cancelled | expired =>
      simp only [hstate, Transaction.run_pure_ok] at h
      cases h.2
      exact .refl _
  | pending =>
      simp only [hstate, Transaction.run_ite_ok, Transaction.run_bind_ok,
        Transaction.run_pure_ok] at h
      rcases h with ⟨-, _, _, hrelease, _, _, hfinish, -, rfl⟩ | ⟨-, -, rfl⟩
      · exact .accounted (endSession_accounting hmem hstate (by simp) hrelease hfinish)
      · exact .refl _

theorem expireUploadSessions_effects {expiredAt : Time} {limit : Nat}
    {sessions : List UploadSession}
    (h : (expireUploadSessions expiredAt limit).run db = .ok (sessions, db')) :
    Effects licence db db' := by
  simp only [expireUploadSessions, Transaction.run_ite_ok, Transaction.run_pure_ok, asI64,
    Transaction.run_bind_ok, Transaction.run_require_ok, Transaction.run_query_ok] at h
  rcases h with ⟨-, -, rfl⟩ | ⟨-, _, _, ⟨-, rfl⟩, _, _, ⟨-, rfl⟩, _, _, hexpire, -, rfl⟩
  · exact .refl _
  · refine Transaction.forEach_invariant (P := Effects licence db) ?_ (.refl db) hexpire
    intro sessionId _ mid mid' hmid hbody
    simp only [expireDueSession, Transaction.run_bind_ok, Transaction.run_write_ok] at hbody
    obtain ⟨_, _, hone, rfl⟩ := hbody
    exact (hmid.trans (expireUploadSession_effects hone)).tail
      (.accounted (.sessionTouched fun _ => rfl))

theorem completeUploadSessionCleanup_effects {uploadSessionId : UploadSessionId}
    {databaseNow : Time} {u : Unit}
    (h : (completeUploadSessionCleanup uploadSessionId databaseNow).run db = .ok (u, db')) :
    Effects licence db db' := by
  rw [completeUploadSessionCleanup, Transaction.run_write_ok] at h
  subst h
  refine .accounted (.sessionTouched fun session => ?_)
  by_cases hdone : session.state ≠ .pending ∧ session.storageCleanupCompletedAt = none <;>
    simp [UploadSession.markCleaned, hdone, sessionShare]

theorem renewUploadLease_effects {mediaId : MediaId} {leaseToken : String}
    {now leasedUntil : Time} {renewed : Bool}
    (h : (renewUploadLease mediaId leaseToken now leasedUntil).run db = .ok (renewed, db')) :
    Effects licence db db' := by
  simp only [renewUploadLease, Transaction.run_bind_ok, Transaction.run_require_ok,
    Transaction.run_query_ok, Transaction.run_ite_ok, Transaction.run_write_ok,
    Transaction.run_pure_ok] at h
  obtain ⟨_, _, ⟨-, rfl⟩, _, _, ⟨-, rfl⟩, ⟨-, _, _, rfl, -, rfl⟩ | ⟨-, -, rfl⟩⟩ := h
  · exact .accounted (.mediaTouched fun _ => rfl)
  · exact .refl _

theorem commitUpload_effects {mediaId : MediaId} {leaseToken : String} {committedAt : Time}
    {eventApplicationId : ApplicationId} {eventExists : Bool} {media : Media}
    (h : (commitUpload mediaId leaseToken committedAt eventApplicationId eventExists).run db =
      .ok (media, db')) :
    Effects licence db db' := by
  simp only [commitUpload, activateMedia, asI64, Transaction.run_bind_ok,
    Transaction.run_selectRow_ok, Transaction.run_require_ok, Transaction.run_ite_ok,
    Transaction.run_pure_ok, Transaction.run_orThrow_ok, transferBytes_ok,
    Transaction.run_updateRow_ok] at h
  obtain ⟨row, _, ⟨⟨hmem, -⟩, rfl⟩, _, _, ⟨-, rfl⟩, ⟨-, -, rfl⟩ | ⟨-, _, _, ⟨hguard, rfl⟩, _, _,
    ⟨_, _, ⟨-, rfl⟩, _, _, ⟨-, hcharge, rfl⟩, _, _, ⟨-, rfl⟩, -, rfl⟩, -, rfl⟩⟩ := h
  · exact .refl _
  · exact .accounted (.mediaActivated hmem hguard.1 hcharge)

theorem abortUpload_effects {mediaId : MediaId} {leaseToken : String} {now : Time} {u : Unit}
    (h : (abortUpload mediaId leaseToken now).run db = .ok (u, db')) :
    Effects licence db db' := by
  rw [abortUpload, Transaction.run_bind_ok] at h
  obtain ⟨row, _, hquery, h⟩ := h
  obtain ⟨hrow, rfl⟩ := Transaction.run_query_ok.1 hquery
  cases row with
  | none =>
      cases (Transaction.run_pure_ok.1 h).2
      exact .refl _
  | some media =>
      simp only [Transaction.run_ite_ok, Transaction.run_pure_ok, Transaction.run_bind_ok,
        Transaction.run_require_ok, Transaction.run_write_ok, releaseBytes_ok] at h
      obtain ⟨hmem, rfl⟩ := Table.find?_eq_some_iff.1 hrow
      rcases h with ⟨-, -, rfl⟩ | ⟨hstate, _, _, ⟨-, rfl⟩, _, _, rfl, -, hcharge, rfl⟩
      · exact .refl _
      · exact .accounted (.mediaAborted hmem (by simpa using hstate) hcharge)

theorem claimStaleUploading_effects {now leasedUntil : Time} {limit : Nat}
    {newToken : MediaId → String} {claimed : List Media}
    (h : (claimStaleUploading now leasedUntil limit newToken).run db = .ok (claimed, db')) :
    Effects licence db db' := by
  simp only [claimStaleUploading, Transaction.run_bind_ok, Transaction.run_require_ok,
    Transaction.run_query_ok] at h
  obtain ⟨_, _, ⟨-, rfl⟩, _, _, ⟨-, rfl⟩, _, _, hclaim, -, rfl⟩ := h
  refine Transaction.forEach_invariant (P := Effects licence db) ?_ (.refl db) hclaim
  intro mediaId _ mid mid' hmid hbody
  obtain ⟨-, rfl⟩ := Transaction.run_updateRow_ok.1 hbody
  exact hmid.tail (.accounted (.mediaTouched fun _ => rfl))

theorem scheduleDelete_effects {mediaId : MediaId} {deletedAt : Time}
    {eventApplicationId : ApplicationId} {media : Media}
    (h : (scheduleDelete mediaId deletedAt eventApplicationId).run db = .ok (media, db')) :
    Effects licence db db' := by
  simp only [scheduleDelete, asI64, Transaction.run_bind_ok, Transaction.run_selectRow_ok,
    Transaction.run_ite_ok, Transaction.run_pure_ok, Transaction.run_require_ok,
    Transaction.run_orThrow_ok, Transaction.run_updateRow_ok] at h
  obtain ⟨row, _, ⟨⟨hmem, rfl⟩, rfl⟩, ⟨-, -, rfl⟩ | ⟨-, _, _, ⟨hguard, rfl⟩, _, _, ⟨-, rfl⟩, _, _,
    ⟨-, rfl⟩, _, _, ⟨-, rfl⟩, -, rfl⟩⟩ := h
  · exact .refl _
  · exact .accounted (.mediaScheduled hmem hguard.1)

theorem finalizeDelete_effects {mediaId : MediaId} {deletedAt : Time} {media : Media}
    (h : (finalizeDelete mediaId deletedAt).run db = .ok (media, db')) :
    Effects licence db db' := by
  simp only [finalizeDelete, asI64, Transaction.run_bind_ok, Transaction.run_selectRow_ok,
    Transaction.run_ite_ok, Transaction.run_pure_ok, Transaction.run_require_ok,
    Transaction.run_orThrow_ok, Transaction.run_updateRow_ok] at h
  obtain ⟨row, _, ⟨⟨hmem, rfl⟩, rfl⟩, ⟨-, -, rfl⟩ | ⟨-, _, _, ⟨hstate, rfl⟩, _, _, ⟨-, rfl⟩, _, _,
    ⟨-, rfl⟩, _, _, ⟨-, rfl⟩, _, _, ⟨-, rfl⟩, released, _, hrelease, _, _, ⟨hreleased, rfl⟩, -,
    rfl⟩⟩ := h
  · exact .refl _
  · rcases updateApplicationWhere_ok.1 hrelease with ⟨-, hcharge, rfl⟩ | ⟨rfl, -, -⟩
    · exact .accounted (.mediaDeleted hmem hstate hcharge)
    · cases hreleased

theorem updateApplicationQuota_effects {applicationId : ApplicationId} {quotaBytes : Nat}
    {u : Unit}
    (h : (updateApplicationQuota applicationId quotaBytes).run db = .ok (u, db')) :
    Effects licence db db' := by
  simp only [updateApplicationQuota, asI64, Transaction.run_bind_ok, Transaction.run_require_ok,
    Transaction.run_selectRow_ok, Transaction.run_ite_ok, Transaction.run_pure_ok,
    Transaction.run_updateRow_ok] at h
  obtain ⟨_, _, ⟨hbigint, rfl⟩, application, _, ⟨⟨hmem, rfl⟩, rfl⟩, _, _, ⟨hquota, rfl⟩,
    ⟨-, -, rfl⟩ | ⟨-, -, rfl⟩⟩ := h
  · exact .refl _
  · exact .accounted (.quotaSet hmem hbigint hquota)

theorem KeepsOwners.effects (h : KeepsOwners db db') : Effects licence db db' := by
  obtain ⟨tasks, rfl, howners⟩ := h
  exact .single (.collected howners)

theorem configured_effects (h : ∃ buckets, db' = { db with buckets := buckets } ∧
    BucketsEvolve db.buckets buckets) : Effects licence db db' := by
  obtain ⟨buckets, rfl, hevolve⟩ := h
  exact .single (.configured hevolve)

theorem putS3ObjectLock_effects {command : PutS3ObjectLockCommand}
    {outcome : PutS3ObjectLockOutcome}
    (h : (putS3ObjectLock command).run db = .ok (outcome, db')) : Effects licence db db' := by
  simp only [putS3ObjectLock, Transaction.run_bind_ok, Transaction.run_query_ok,
    Transaction.run_orThrow_ok, Transaction.run_ite_ok, Transaction.run_pure_ok] at h
  obtain ⟨_, _, ⟨hrow, rfl⟩, bucket, _, ⟨rfl, rfl⟩,
    ⟨hlocked, row, _, ⟨-, rfl⟩, h⟩ | ⟨-, -, rfl⟩⟩ := h
  · cases row with
    | none =>
        cases (Transaction.run_pure_ok.1 h).2
        exact .refl _
    | some object =>
        simp only [Transaction.run_bind_ok, Transaction.run_query_ok] at h
        obtain ⟨target, _, ⟨-, rfl⟩, h⟩ := h
        cases target with
        | none =>
            cases (Transaction.run_pure_ok.1 h).2
            exact .refl _
        | some version =>
            simp only [Transaction.run_ite_ok, Transaction.run_pure_ok,
              Transaction.run_bind_ok] at h
            rcases h with ⟨-, -, rfl⟩ | ⟨-, result, _, hmutation, h⟩
            · exact .refl _
            · have hmid := applyLockMutation_ok hmutation
              subst hmid
              cases result with
              | error outcome =>
                  cases (Transaction.run_pure_ok.1 h).2
                  exact .refl _
              | ok updated =>
                  simp only [Transaction.run_bind_ok, Transaction.run_updateRow_ok,
                    Transaction.run_pure_ok] at h
                  obtain ⟨_, _, ⟨⟨target, htarget, hid, hguard, -⟩, rfl⟩, -, rfl⟩ := h
                  obtain ⟨hbucket, hbucketId, -⟩ := Database.findBucket_eq_some_iff.1 hrow
                  simp only [Bool.and_eq_true, decide_eq_true_eq] at hguard
                  refine .single (.relocked fun row hmem hrowId => ?_)
                  rw [Table.eq_of_key hmem htarget (hrowId.trans hid.symm), hguard.1.2]
                  exact ⟨bucket, hbucket, hbucketId, hlocked⟩
  · exact .refl _

end

end MediaHub.Store

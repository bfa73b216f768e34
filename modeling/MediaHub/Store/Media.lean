import MediaHub.Store.Quota

namespace MediaHub.Store

open Relational
open MediaHub.Core

namespace Application

/-- `GREATEST(used_bytes - bytes, 0)` -/
def releaseUsedClamped (bytes : Nat) : Update Application where
  apply a := { a with usedBytes := max (a.usedBytes - bytes) 0 }
  key_apply _ := rfl

end Application

namespace Media

/-- A state change; only an uploading row keeps its lease columns. -/
def moveTo (next : MediaState) (now : Time) : Update Media where
  apply media := match media.transitionTo next now with
    | some moved => { moved with
        uploadTemporaryKey := none, uploadLeaseToken := none, uploadLeasedUntil := none }
    | none => media
  key_apply media := by
    unfold Media.transitionTo
    by_cases h : media.state.canTransitionTo next <;> simp [h, Keyed.key]

def leaseTo (leaseToken : String) (leasedUntil : Time) : Update Media where
  apply media :=
    { media with uploadLeaseToken := some leaseToken, uploadLeasedUntil := some leasedUntil }
  key_apply _ := rfl

def holdsLease (leaseToken : String) (now : Time) (media : Media) : Bool :=
  media.uploadLeaseToken = some leaseToken && media.uploadLeasedUntil.any (now < ·)

/-- `UNIQUE (application_id, bucket_id, object_key)` and `UNIQUE (storage_key)` -/
def clashes (media other : Media) : Bool :=
  other.storageKey = media.storageKey || (other.applicationId = media.applicationId &&
    other.bucketId = media.bucketId && other.objectKey = media.objectKey)

end Media

def insertMedia (media : Media) : Transaction Unit := do
  asI64 media.size
  asI64 media.revision
  insertRow mediaRows media true (Media.clashes media)
    (checkViolation "media" "media_upload_lease_state_check") .conflict

/-- A bare reservation, before there is a media row. -/
def reserveQuota (applicationId : ApplicationId) (bytes : Nat) : Transaction Unit :=
  reserveBytes applicationId bytes

def releaseQuota (applicationId : ApplicationId) (bytes : Nat) : Transaction Unit := do
  let exists_ ← query fun db => (db.applications.find? applicationId).isSome
  releaseBytes applicationId bytes
    (if exists_ then .invariant "quota reservation is smaller than release" else .notFound)

/-- Pending sessions and open multipart uploads keep others off their object key. -/
def objectKeyIsReserved (db : Database) (media : Media) : Bool :=
  (db.uploadSessions.rows.any fun session =>
    session.applicationId = media.applicationId && session.bucketId = media.bucketId &&
    session.objectKey = media.objectKey && session.state = .pending) ||
  db.multipartUploads.rows.any fun upload =>
    upload.applicationId = media.applicationId && upload.bucketId = media.bucketId &&
    upload.objectKey = media.objectKey && upload.state.isOpen

/-- The row takes over a reservation that the caller made before. -/
def createUploading (media : Media) (temporaryKey leaseToken : String) (leasedUntil : Time) :
    Transaction Unit := do
  require (media.state = .uploading) (.invariant "only uploading media can be created")
  let leasedUntil := postgresTime leasedUntil
  require (temporaryKey ≠ "" ∧ leaseToken ≠ "" ∧ leaseToken.utf8ByteSize ≤ 255 ∧
    postgresTime media.updatedAt < leasedUntil) (.invariant "ordinary upload lease is invalid")
  let reserved ← query fun db => objectKeyIsReserved db media
  require (reserved = false) .conflict
  insertMedia { media with
    uploadTemporaryKey := some temporaryKey
    uploadLeaseToken := some leaseToken
    uploadLeasedUntil := some leasedUntil }

def renewUploadLease (mediaId : MediaId) (leaseToken : String) (now leasedUntil : Time) :
    Transaction Bool := do
  let now := postgresTime now
  let leasedUntil := postgresTime leasedUntil
  require (now < leasedUntil) (.invariant "ordinary upload lease must end in the future")
  let row ← query fun db => db.media.find? mediaId
  if row.any fun media => media.state = .uploading && Media.holdsLease leaseToken now media then
    write (·.mapMedia (·.update mediaId (Media.leaseTo leaseToken leasedUntil)))
    pure true
  else pure false

/-- The ledger moves with the state: reserved bytes become used ones. -/
def activateMedia (media : Media) (committedAt : Time) : Transaction Unit := do
  let active ← orThrow (media.transitionTo .active committedAt)
    (.invariant "media cannot become active")
  transferBytes media.applicationId media.size 0
    (.invariant "upload has no matching quota reservation")
  asI64 active.revision
  updateRow mediaRows media.id (fun _ => true) (Media.moveTo .active committedAt)
    (fun _ => true) .conflict .conflict

/-- A replay of a committed upload is recognised by its event. -/
def commitUpload (mediaId : MediaId) (leaseToken : String) (committedAt : Time)
    (eventApplicationId : ApplicationId) (eventExists : Bool) : Transaction Media := do
  let committedAt := postgresTime committedAt
  let media ← selectRow mediaRows mediaId .notFound
  require (media.state = .uploading → Media.holdsLease leaseToken committedAt media) .conflict
  if media.state = .active ∧ eventExists then pure media
  else
    require (media.state = .uploading ∧ media.applicationId = eventApplicationId) .conflict
    activateMedia media committedAt
    selectRow mediaRows mediaId .notFound

/-- Rolls an upload back: its row goes and so does its reservation. -/
def abortUpload (mediaId : MediaId) (leaseToken : String) (now : Time) : Transaction Unit := do
  let now := postgresTime now
  match ← query fun db => db.media.find? mediaId with
  | none => pure ()
  | some media =>
      if media.state ≠ .uploading then pure ()
      else
        require (Media.holdsLease leaseToken now media = true) .conflict
        write (·.mapMedia (·.delete mediaId))
        releaseBytes media.applicationId media.size
          (.invariant "aborted upload has no matching quota reservation")

/-- `ORDER BY upload_leased_until, id` -/
def staleUploads (db : Database) (now : Time) (limit : Nat) : List MediaId :=
  (((db.media.rows.filter fun media =>
      media.state = .uploading && media.uploadLeasedUntil.any (· ≤ now) &&
      !(db.multipartUploads.rows.any fun upload =>
        upload.applicationId = media.applicationId && upload.bucketId = media.bucketId &&
        upload.objectKey = media.objectKey && upload.state = .completing)).insertionSort
    fun a b => a.uploadLeasedUntil.getD 0 < b.uploadLeasedUntil.getD 0 ∨
      (a.uploadLeasedUntil = b.uploadLeasedUntil ∧ a.id ≤ b.id)).take limit).map (·.id)

/-- Reconciliation takes over uploads whose lease is over, each under a token of its own. -/
def claimStaleUploading (now leasedUntil : Time) (limit : Nat) (newToken : MediaId → String) :
    Transaction (List Media) := do
  let now := postgresTime now
  let leasedUntil := postgresTime leasedUntil
  require (now < leasedUntil)
    (.invariant "upload reconciliation lease must end in the future")
  let stale ← query fun db => staleUploads db now limit
  forEach (fun mediaId => updateRow mediaRows mediaId (·.state = .uploading)
    (Media.leaseTo (newToken mediaId) leasedUntil) (fun _ => true) .conflict .conflict) stale
  query fun db => stale.filterMap db.media.find?

/-- The bytes of a scheduled deletion stay used until it is finalized. -/
def scheduleDelete (mediaId : MediaId) (deletedAt : Time)
    (eventApplicationId : ApplicationId) : Transaction Media := do
  let deletedAt := postgresTime deletedAt
  let media ← selectRow mediaRows mediaId .notFound
  if media.state = .deletePending then pure media
  else
    require (media.state = .active ∧ media.applicationId = eventApplicationId) .conflict
    let pending ← orThrow (media.transitionTo .deletePending deletedAt)
      (.invariant "media cannot be scheduled for deletion")
    asI64 pending.revision
    updateRow mediaRows mediaId (·.state = .active) (Media.moveTo .deletePending deletedAt)
      (fun _ => true) .conflict .conflict
    pure pending

def finalizeDelete (mediaId : MediaId) (deletedAt : Time) : Transaction Media := do
  let deletedAt := postgresTime deletedAt
  let media ← selectRow mediaRows mediaId .notFound
  if media.state = .deleted then pure media
  else
    require (media.state = .deletePending) .conflict
    let deleted ← orThrow (media.transitionTo .deleted deletedAt)
      (.invariant "media cannot be deleted")
    asI64 media.size
    asI64 deleted.revision
    updateRow mediaRows mediaId (·.state = .deletePending) (Media.moveTo .deleted deletedAt)
      (fun _ => true) .conflict .conflict
    let released ← updateApplicationWhere media.applicationId (fun _ => true)
      (Application.releaseUsedClamped media.size)
    require (released = true) (.invariant "media application is missing during deletion")
    selectRow mediaRows mediaId .notFound

namespace UploadSession

/-- A terminal state and its time; sessions never leave it. -/
def finish (state : UploadSessionState) (now : Time) : Update UploadSession where
  apply session :=
    { session with
      state
      completedAt := if state = .completed then some now else session.completedAt
      cancelledAt := if state = .cancelled then some now else session.cancelledAt
      expiredAt := if state = .expired then some now else session.expiredAt
      updatedAt := now }
  key_apply _ := rfl

def touch (now : Time) : Update UploadSession where
  apply session := { session with updatedAt := now }
  key_apply _ := rfl

def markCleaned (now : Time) : Update UploadSession where
  apply session :=
    if session.state ≠ .pending ∧ session.storageCleanupCompletedAt = none then
      { session with storageCleanupCompletedAt := some now, updatedAt := now }
    else session
  key_apply session := by
    by_cases h : session.state ≠ .pending ∧ session.storageCleanupCompletedAt = none <;>
      simp [h, Keyed.key]

/-- `UNIQUE (media_id)`, `UNIQUE (storage_key)`, and one pending session for each object key -/
def clashes (session other : UploadSession) : Bool :=
  other.mediaId = session.mediaId || other.storageKey = session.storageKey ||
  (other.state = .pending && other.applicationId = session.applicationId &&
    other.bucketId = session.bucketId && other.objectKey = session.objectKey)

end UploadSession

def sessionKeyIsReserved (db : Database) (session : UploadSession) : Bool :=
  (db.media.rows.any fun media =>
    media.applicationId = session.applicationId && media.bucketId = session.bucketId &&
    media.objectKey = session.objectKey) ||
  db.multipartUploads.rows.any fun upload =>
    upload.applicationId = session.applicationId && upload.bucketId = session.bucketId &&
    upload.objectKey = session.objectKey && upload.state.isOpen

def createUploadSession (session : UploadSession) : Transaction Unit := do
  require (session.state = .pending)
    (.invariant "only pending upload sessions can be created")
  let reserved ← query fun db => sessionKeyIsReserved db session
  require (reserved = false) .conflict
  reserveBytes session.applicationId session.reservedBytes
  insertRow sessionRows session true (UploadSession.clashes session)
    (checkViolation "upload_sessions" "upload_sessions_expected_size_bytes_check") .conflict

def releaseReservation (session : UploadSession) : Transaction Unit :=
  releaseBytes session.applicationId session.reservedBytes
    (.invariant "upload session has no matching quota reservation")

/-- Only a pending row is written. -/
def finishUploadSession (session : UploadSession) (state : UploadSessionState) (now : Time) :
    Transaction Unit :=
  updateRow sessionRows session.id (·.state = .pending) (UploadSession.finish state now)
    (fun _ => true) .conflict .conflict

inductive UploadSessionCompletion where
  | completed (media : Media)
  | alreadyCompleted (media : Media)
  | cancelled
  | expired

def loadCompletedMedia (session : UploadSession) : Transaction Media :=
  selectRow mediaRows session.mediaId
    (.invariant "completed upload session has no media")

def completedMediaMatches (session : UploadSession) (media : Media)
    (eventApplicationId : ApplicationId) : Bool :=
  media.id = session.mediaId && media.applicationId = session.applicationId &&
  media.bucketId = session.bucketId && media.objectKey = session.objectKey &&
  media.size = session.expectedSize && media.state = .uploading &&
  eventApplicationId = session.applicationId

/-- The later one of the caller's and the database's clock decides. -/
def completeUploadSession (uploadSessionId : UploadSessionId) (media : Media)
    (completedAt databaseNow : Time) (eventApplicationId : ApplicationId) :
    Transaction UploadSessionCompletion := do
  let session ← selectRow sessionRows uploadSessionId .notFound
  let completedAt := postgresTime (max databaseNow (postgresTime completedAt))
  match session.state with
  | .completed => do
      let media ← loadCompletedMedia session
      pure (.alreadyCompleted media)
  | .cancelled => pure .cancelled
  | .expired => pure .expired
  | .pending =>
      if session.isExpiredAt completedAt then
        releaseReservation session
        finishUploadSession session .expired completedAt
        pure .expired
      else
        require (completedMediaMatches session media eventApplicationId = true)
          (.invariant "completed media does not match upload session")
        transferBytes session.applicationId session.reservedBytes 0
          (.invariant "upload session has no matching quota reservation")
        insertMedia (Media.moveTo .active completedAt media)
        finishUploadSession session .completed completedAt
        let media ← loadCompletedMedia session
        pure (.completed media)

inductive UploadSessionCancellation where
  | cancelled (session : UploadSession)
  | alreadyCancelled (session : UploadSession)
  | completed
  | expired

def cancelUploadSession (uploadSessionId : UploadSessionId) (cancelledAt : Time) :
    Transaction UploadSessionCancellation := do
  let cancelledAt := postgresTime cancelledAt
  let session ← selectRow sessionRows uploadSessionId .notFound
  match session.state with
  | .completed => pure .completed
  | .expired => pure .expired
  | .cancelled => pure (.alreadyCancelled session)
  | .pending =>
      releaseReservation session
      finishUploadSession session .cancelled cancelledAt
      pure (.cancelled (UploadSession.finish .cancelled cancelledAt session))

inductive UploadSessionExpiration where
  | expired (session : UploadSession)
  | alreadyExpired (session : UploadSession)
  | cancelled
  | completed
  | notDue

def expireUploadSession (uploadSessionId : UploadSessionId) (expiredAt : Time) :
    Transaction UploadSessionExpiration := do
  let expiredAt := postgresTime expiredAt
  let session ← selectRow sessionRows uploadSessionId .notFound
  match session.state with
  | .completed => pure .completed
  | .cancelled => pure .cancelled
  | .expired => pure (.alreadyExpired session)
  | .pending =>
      if session.isExpiredAt expiredAt then
        releaseReservation session
        finishUploadSession session .expired expiredAt
        pure (.expired (UploadSession.finish .expired expiredAt session))
      else pure .notDue

/-- Pending sessions past their time, and finished ones whose payload is not cleaned up yet. -/
def isSessionDue (now : Time) (session : UploadSession) : Bool :=
  session.sessionExpiresAt ≤ now &&
  (session.state = .pending || session.storageCleanupCompletedAt = none)

/-- Pending sessions first, then by time and id. -/
def sessionDueBefore (a b : UploadSession) : Bool :=
  let rank (session : UploadSession) : Nat := if session.state = .pending then 0 else 1
  let due (session : UploadSession) : Time :=
    if session.state = .pending then session.sessionExpiresAt else session.updatedAt
  rank a < rank b || (rank a = rank b &&
    (due a < due b || (due a = due b && a.id ≤ b.id)))

def expireDueSession (expiredAt : Time) (uploadSessionId : UploadSessionId) :
    Transaction Unit := do
  let _ ← expireUploadSession uploadSessionId expiredAt
  write (·.mapUploadSessions (·.update uploadSessionId (UploadSession.touch expiredAt)))

def expireUploadSessions (expiredAt : Time) (limit : Nat) :
    Transaction (List UploadSession) := do
  let expiredAt := postgresTime expiredAt
  if limit = 0 then pure [] else
    asI64 limit
    let due ← query fun db =>
      (((db.uploadSessions.rows.filter (isSessionDue expiredAt)).insertionSort
        fun a b => sessionDueBefore a b = true).take limit).map (·.id)
    forEach (expireDueSession expiredAt) due
    query fun db => due.filterMap db.uploadSessions.find?

def completeUploadSessionCleanup (uploadSessionId : UploadSessionId) (databaseNow : Time) :
    Transaction Unit :=
  write (·.mapUploadSessions (·.update uploadSessionId
    (UploadSession.markCleaned (postgresTime databaseNow))))

/-- The columns of a media row that its share of the ledger depends on. -/
structure MediaShare where
  id : MediaId
  applicationId : ApplicationId
  state : MediaState
  size : Nat

def mediaShare (media : Media) : MediaShare where
  id := media.id
  applicationId := media.applicationId
  state := media.state
  size := media.size

/-- The columns of a session row that its share of the ledger depends on. -/
structure SessionShare where
  id : UploadSessionId
  applicationId : ApplicationId
  pending : Bool
  expectedSize : Nat

def sessionShare (session : UploadSession) : SessionShare where
  id := session.id
  applicationId := session.applicationId
  pending := session.state = .pending
  expectedSize := session.expectedSize

/-- A step of the ordinary uploads. Bare reservations are accounted for by their holders. -/
inductive Accounting : Database → Database → Prop
  | quotaSet {db : Database} {application : Application} {quota : Nat}
      (hmem : application ∈ db.applications) (hbigint : quota ≤ maxI64)
      (hquota : application.usedBytes + application.reservedBytes ≤ quota) :
      Accounting db (db.mapApplications
        (·.update application.id (Application.setQuota quota)))
  | mediaTouched {db : Database} {mediaId : MediaId} {f : Update Media}
      (hshare : ∀ media, mediaShare (f media) = mediaShare media) :
      Accounting db (db.mapMedia (·.update mediaId f))
  | mediaActivated {db : Database} {media : Media} {activatedAt : Time}
      (hmem : media ∈ db.media) (hstate : media.state = .uploading)
      (hcharge : CanCharge db media.applicationId
        (fun a => media.size ≤ a.reservedBytes && (0 : Nat) ≤ a.usedBytes)
        (Application.transfer media.size 0)) :
      Accounting db { db with
        applications := db.applications.update media.applicationId
          (Application.transfer media.size 0)
        media := db.media.update media.id (Media.moveTo .active activatedAt) }
  | mediaAborted {db : Database} {media : Media}
      (hmem : media ∈ db.media) (hstate : media.state = .uploading)
      (hcharge : CanCharge db media.applicationId (fun a => media.size ≤ a.reservedBytes)
        (Application.release media.size)) :
      Accounting db { db with
        applications := db.applications.update media.applicationId
          (Application.release media.size)
        media := db.media.delete media.id }
  | mediaScheduled {db : Database} {media : Media} {deletedAt : Time}
      (hmem : media ∈ db.media) (hstate : media.state = .active) :
      Accounting db (db.mapMedia
        (·.update media.id (Media.moveTo .deletePending deletedAt)))
  | mediaDeleted {db : Database} {media : Media} {deletedAt : Time}
      (hmem : media ∈ db.media) (hstate : media.state = .deletePending)
      (hcharge : CanCharge db media.applicationId (fun _ => true)
        (Application.releaseUsedClamped media.size)) :
      Accounting db { db with
        applications := db.applications.update media.applicationId
          (Application.releaseUsedClamped media.size)
        media := db.media.update media.id (Media.moveTo .deleted deletedAt) }
  | sessionCreated {db : Database} {session : UploadSession}
      (hfresh : db.uploadSessions.find? session.id = none) (hstate : session.state = .pending)
      (hcharge : CanCharge db session.applicationId
        (fun a => session.expectedSize ≤ a.quotaBytes - a.usedBytes - a.reservedBytes)
        (Application.reserve session.expectedSize)) :
      Accounting db { db with
        applications := db.applications.update session.applicationId
          (Application.reserve session.expectedSize)
        uploadSessions := db.uploadSessions.insert session }
  | sessionTouched {db : Database} {sessionId : UploadSessionId} {f : Update UploadSession}
      (hshare : ∀ session, sessionShare (f session) = sessionShare session) :
      Accounting db (db.mapUploadSessions (·.update sessionId f))
  | sessionEnded {db : Database} {session : UploadSession} {state : UploadSessionState}
      {endedAt : Time} (hmem : session ∈ db.uploadSessions) (hstate : session.state = .pending)
      (hend : state ≠ .pending)
      (hcharge : CanCharge db session.applicationId
        (fun a => session.expectedSize ≤ a.reservedBytes)
        (Application.release session.expectedSize)) :
      Accounting db { db with
        applications := db.applications.update session.applicationId
          (Application.release session.expectedSize)
        uploadSessions := db.uploadSessions.update session.id
          (UploadSession.finish state endedAt) }
  | sessionCompleted {db : Database} {session : UploadSession} {media : Media}
      {completedAt : Time} (hmem : session ∈ db.uploadSessions)
      (hstate : session.state = .pending) (hfresh : db.media.find? media.id = none)
      (hmedia : media.state = .active) (happ : media.applicationId = session.applicationId)
      (hsize : media.size = session.expectedSize)
      (hcharge : CanCharge db session.applicationId
        (fun a => session.expectedSize ≤ a.reservedBytes && (0 : Nat) ≤ a.usedBytes)
        (Application.transfer session.expectedSize 0)) :
      Accounting db { db with
        applications := db.applications.update session.applicationId
          (Application.transfer session.expectedSize 0)
        media := db.media.insert media
        uploadSessions := db.uploadSessions.update session.id
          (UploadSession.finish .completed completedAt) }

end MediaHub.Store

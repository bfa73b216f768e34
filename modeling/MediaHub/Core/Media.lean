import MediaHub.Core.Basic
import MediaHub.Relational.Table

namespace MediaHub.Core

open Relational

inductive MediaState where
  | uploading
  | active
  | archivePending
  | archived
  | deletePending
  | deleted
  | quarantined
deriving DecidableEq

def MediaState.canTransitionTo : MediaState → MediaState → Bool
  | .uploading, .active | .active, .archivePending | .archivePending, .archived
  | .active, .deletePending | .deletePending, .deleted | .active, .quarantined => true
  | _, _ => false

/-- The part of an ordinary media row that its uploads, deletion and quota use. -/
structure Media where
  id : MediaId
  applicationId : ApplicationId
  bucketId : BucketId
  objectKey : String
  storageKey : String
  state : MediaState
  size : Nat
  uploadTemporaryKey : Option String
  uploadLeaseToken : Option String
  uploadLeasedUntil : Option Time
  revision : Nat
  deletedAt : Option Time
  updatedAt : Time
deriving DecidableEq

instance : Keyed Media MediaId := ⟨Media.id⟩

/-- The revision saturates; a refused transition gives no media. -/
def Media.transitionTo (media : Media) (next : MediaState) (now : Time) : Option Media :=
  if media.state.canTransitionTo next then
    some { media with
      state := next
      deletedAt := if next = .deleted then some now else media.deletedAt
      revision := min (media.revision + 1) maxU64
      updatedAt := now }
  else none

inductive UploadSessionState where
  | pending
  | completed
  | cancelled
  | expired
deriving DecidableEq

structure UploadSession where
  id : UploadSessionId
  mediaId : MediaId
  applicationId : ApplicationId
  bucketId : BucketId
  objectKey : String
  storageKey : String
  expectedSize : Nat
  sessionExpiresAt : Time
  state : UploadSessionState
  completedAt : Option Time
  cancelledAt : Option Time
  expiredAt : Option Time
  storageCleanupCompletedAt : Option Time
  updatedAt : Time

instance : Keyed UploadSession UploadSessionId := ⟨UploadSession.id⟩

/-- A session reserves the bytes it expects. -/
def UploadSession.reservedBytes (session : UploadSession) : Nat := session.expectedSize

def UploadSession.isExpiredAt (session : UploadSession) (now : Time) : Bool :=
  session.state = .pending && session.sessionExpiresAt ≤ now

end MediaHub.Core
